import Asyncly.Lib.Runs
import Asyncly.Metrics.Switching

/-!
# Blocks that overlap

Each `instrument` block saves the metrics fields when it is entered and puts them back
when it is left. Blocks of concurrent tasks need not nest, and then a block puts back
what another one had installed. Which blocks are still in effect at the end can be read
off the order of the enters and exits alone.
-/

namespace Asyncly

/-- The arguments of `instrument`. -/
structure Block where
  sink : Sink
  routeResolver : Option RouteResolver

/-- A block is entered or left. Its context manager is known by a number. -/
inductive BlockEvent
  | enter (ctx : Nat) (block : Block)
  | exit (ctx : Nat)

namespace BlockEvent

def toSwitch : BlockEvent → Switch
  | enter ctx block => .enter ctx block.sink block.routeResolver
  | exit ctx => .exit ctx

def entered? : BlockEvent → Option Nat
  | enter ctx _ => some ctx
  | exit _ => none

def left? : BlockEvent → Option Nat
  | enter _ _ => none
  | exit ctx => some ctx

end BlockEvent

/-- The fields after one more event. -/
def Fields.onBlock (U : UnicodeData) (fields : Fields) (event : BlockEvent) : Fields :=
  fields.switch U event.toSwitch

theorem Fields.onBlock_enter (U : UnicodeData) (fields : Fields) (ctx : Nat) (block : Block) :
    fields.onBlock U (.enter ctx block) =
      ⟨fields.metrics.enableMetrics block.sink block.routeResolver,
        fun other => if other = ctx then some fields.metrics else fields.saved other⟩ := rfl

theorem Fields.onBlock_exit (U : UnicodeData) {fields : Fields} {ctx : Nat} {prev : MetricsState}
    (found : fields.saved ctx = some prev) :
    fields.onBlock U (.exit ctx) = ⟨prev, fields.saved⟩ := by
  simp only [onBlock, BlockEvent.toSwitch, switch, found]

/-- The contexts entered, and those left, in order. -/
def entered (events : List BlockEvent) : List Nat := events.filterMap BlockEvent.entered?

def left (events : List BlockEvent) : List Nat := events.filterMap BlockEvent.left?

/-- The latest event first: a block is entered once, and left after it was entered. -/
def Ordered : List BlockEvent → Prop
  | [] => True
  | .enter ctx _ :: earlier => ctx ∉ entered earlier ∧ Ordered earlier
  | .exit ctx :: earlier => ctx ∈ entered earlier ∧ Ordered earlier

/-- Every block is entered once, left once, and left after it was entered. -/
structure AllLeft (events : List BlockEvent) : Prop where
  ordered : Ordered events.reverse
  left_once : (left events).Nodup
  all_left : ∀ ctx ∈ entered events, ctx ∈ left events

mutual

/-- The blocks whose sinks are in effect, by the events so far, the latest one first. -/
def inEffect : List BlockEvent → List Block
  | [] => []
  | .enter _ block :: earlier => block :: inEffect earlier
  | .exit ctx :: earlier => foundBy ctx earlier

/-- The blocks that were in effect when a context was entered. -/
def foundBy (ctx : Nat) : List BlockEvent → List Block
  | [] => []
  | .enter other _ :: earlier => if other = ctx then inEffect earlier else foundBy ctx earlier
  | .exit _ :: earlier => foundBy ctx earlier

end

/-- The fields with the given blocks in effect, the latest one first. -/
def MetricsState.enableBlocks (metrics : MetricsState) (blocks : List Block) : MetricsState :=
  blocks.foldr (fun block metrics => metrics.enableMetrics block.sink block.routeResolver) metrics

/-- The blocks in effect, if there are any, amount to what was there before: the latest one
has the same sink with the same flags, and the latest resolver given is the same. -/
structure Reinstalls (metrics : MetricsState) (blocks : List Block) : Prop where
  sink : ∀ block ∈ blocks.head?, block.sink = metrics.metricsSink ∧
    block.sink.detectLifecycle = metrics.sinkHasLifecycle ∧
    block.sink.hooks.observePhase = metrics.sinkHasPhases
  routeResolver : ∀ resolve ∈ (blocks.filterMap Block.routeResolver).head?,
    resolve = metrics.resolveRoute

/-! ### What the order of events says about the fields -/

/-- The fields are those of the blocks in effect, and every context entered so far has saved
those of the blocks it found. -/
theorem foldr_onBlock (U : UnicodeData) (fields : Fields) {past : List BlockEvent}
    (ordered : Ordered past) :
    let now := past.foldr (fun event fields => fields.onBlock U event) fields
    now.metrics = fields.metrics.enableBlocks (inEffect past) ∧
      ∀ ctx ∈ entered past,
        now.saved ctx = some (fields.metrics.enableBlocks (foundBy ctx past)) := by
  induction past with
  | nil => exact ⟨rfl, nofun⟩
  | cons event earlier ih =>
      rw [List.foldr_cons]
      generalize earlier.foldr (fun event fields => fields.onBlock U event) fields = before at ih ⊢
      cases event with
      | enter ctx block =>
          obtain ⟨metrics, saved⟩ := ih ordered.2
          rw [Fields.onBlock_enter]
          refine ⟨by rw [metrics]; rfl, fun other member => ?_⟩
          simp only [foundBy]
          by_cases same : other = ctx
          · rw [if_pos same, if_pos same.symm, metrics]
          · rw [if_neg same, if_neg (Ne.symm same)]
            exact saved other ((List.mem_cons.mp member).resolve_left same)
      | exit ctx =>
          obtain ⟨metrics, saved⟩ := ih ordered.2
          rw [Fields.onBlock_exit U (saved ctx ordered.1)]
          exact ⟨rfl, saved⟩

/-! ### The blocks in effect -/

theorem enableBlocks_resolveRoute (metrics : MetricsState) (blocks : List Block) :
    (metrics.enableBlocks blocks).resolveRoute =
      (blocks.filterMap Block.routeResolver).head?.getD metrics.resolveRoute := by
  induction blocks with
  | nil => rfl
  | cons block rest ih =>
      rw [MetricsState.enableBlocks, List.foldr_cons, ← MetricsState.enableBlocks]
      cases given : block.routeResolver with
      | none => simp [MetricsState.enableMetrics, given, ih]
      | some resolve => simp [MetricsState.enableMetrics, given]

/-- Enabling blocks leaves the fields as they are exactly when they amount to the same. -/
theorem enableBlocks_eq_iff (metrics : MetricsState) (blocks : List Block) :
    metrics.enableBlocks blocks = metrics ↔ Reinstalls metrics blocks := by
  have resolver := enableBlocks_resolveRoute metrics blocks
  cases blocks with
  | nil => exact iff_of_true rfl ⟨by simp, by simp⟩
  | cons block rest =>
      have fields : metrics.enableBlocks (block :: rest) =
          ⟨block.sink, (metrics.enableBlocks (block :: rest)).resolveRoute,
            block.sink.detectLifecycle, block.sink.hooks.observePhase⟩ := rfl
      rw [fields, resolver]
      rcases metrics with ⟨sink, resolve, lifecycle, phases⟩
      rw [MetricsState.mk.injEq]
      constructor
      · rintro ⟨same, routes, sameLifecycle, samePhases⟩
        refine ⟨fun other first => ?_, fun other first => ?_⟩
        · obtain rfl : block = other := Option.some.inj first
          exact ⟨same, sameLifecycle, samePhases⟩
        · rw [Option.mem_def.mp first] at routes
          exact routes
      · rintro ⟨same, routes⟩
        obtain ⟨sameSink, sameLifecycle, samePhases⟩ := same block rfl
        refine ⟨sameSink, ?_, sameLifecycle, samePhases⟩
        cases first : ((block :: rest).filterMap Block.routeResolver).head? with
        | none => rfl
        | some other => exact routes other first

/-- After the last block is left, the fields are those before the first one was entered
exactly when no block is still in effect, or those that are amount to the same fields. -/
theorem Fields.allLeft_restored_iff (U : UnicodeData) (fields : Fields) {events : List BlockEvent}
    (complete : AllLeft events) :
    (Runs.run (Fields.onBlock U) fields events).metrics = fields.metrics ↔
      Reinstalls fields.metrics (inEffect events.reverse) := by
  obtain ⟨metrics, -⟩ := foldr_onBlock U fields complete.ordered
  rw [List.foldr_reverse] at metrics
  rw [← enableBlocks_eq_iff, ← metrics]
  rfl

/-- Two tasks: the second enters its block before, and leaves it after, the first leaves
its own. -/
def Sample.overlapping : List BlockEvent :=
  [.enter 0 ⟨.custom 1 ⟨true, true, false⟩, none⟩, .enter 1 ⟨.custom 2 ⟨false, false, false⟩, none⟩,
    .exit 0, .exit 1]

theorem Sample.overlapping_allLeft : AllLeft Sample.overlapping where
  ordered := by simp [Sample.overlapping, Ordered, entered, BlockEvent.entered?]
  left_once := by decide
  all_left := by decide

theorem Fields.allLeft_restored_iff_sample :
    let fields := Fields.initial .latin1 0
    (Runs.run (Fields.onBlock .latin1) fields Sample.overlapping).metrics = fields.metrics ↔
      Reinstalls fields.metrics (inEffect Sample.overlapping.reverse) :=
  Fields.allLeft_restored_iff .latin1 _ Sample.overlapping_allLeft

/-- The sink of the block left first is back after both are left. -/
theorem Fields.allLeft_restored_fails :
    let fields := Fields.initial .latin1 0
    AllLeft Sample.overlapping ∧
      (Runs.run (Fields.onBlock .latin1) fields Sample.overlapping).metrics ≠ fields.metrics := by
  refine ⟨Sample.overlapping_allLeft, fun restored => ?_⟩
  have sink := congrArg MetricsState.metricsSink restored
  revert sink
  decide

/-! ### Orders that restore -/

/-- Blocks that nest, or follow each other, as the blocks of one task do. -/
inductive Nested : List BlockEvent → Prop
  | nil : Nested []
  | block {inner rest : List BlockEvent} (ctx : Nat) (block : Block) (within : Nested inner)
      (after : Nested rest) : Nested (.enter ctx block :: (inner ++ .exit ctx :: rest))

theorem entered_append (events events' : List BlockEvent) :
    entered (events ++ events') = entered events ++ entered events' := List.filterMap_append

/-- Nested blocks leave in effect what was in effect before them. -/
theorem Nested.inEffect_append {events : List BlockEvent} (nested : Nested events)
    (once : (entered events).Nodup) (past : List BlockEvent) :
    inEffect (events.reverse ++ past) = inEffect past ∧
      ∀ ctx, ctx ∉ entered events → foundBy ctx (events.reverse ++ past) = foundBy ctx past := by
  induction nested generalizing past with
  | nil => exact ⟨rfl, fun _ _ => rfl⟩
  | @block inner rest ctx block within after ihWithin ihAfter =>
      have names : entered (.enter ctx block :: (inner ++ .exit ctx :: rest)) =
          ctx :: (entered inner ++ entered rest) := by
        change ctx :: entered (inner ++ .exit ctx :: rest) = _
        rw [entered_append]
        rfl
      rw [names] at once ⊢
      obtain ⟨fresh, once⟩ := List.nodup_cons.mp once
      obtain ⟨onceInner, onceRest, -⟩ := List.nodup_append.mp once
      rw [List.mem_append, not_or] at fresh
      have latestFirst : (BlockEvent.enter ctx block :: (inner ++ .exit ctx :: rest)).reverse ++
          past = rest.reverse ++ .exit ctx :: (inner.reverse ++ .enter ctx block :: past) := by
        simp
      obtain ⟨-, foundWithin⟩ := ihWithin onceInner (.enter ctx block :: past)
      obtain ⟨effectAfter, foundAfter⟩ :=
        ihAfter onceRest (.exit ctx :: (inner.reverse ++ .enter ctx block :: past))
      rw [latestFirst]
      constructor
      · rw [effectAfter, inEffect, foundWithin ctx fresh.1, foundBy, if_pos rfl]
      · intro other absent
        rw [List.mem_cons, List.mem_append, not_or, not_or] at absent
        obtain ⟨different, absentInner, absentRest⟩ := absent
        rw [foundAfter other absentRest, foundBy, foundWithin other absentInner, foundBy,
          if_neg (Ne.symm different)]

theorem entered_nodup_of_ordered {past : List BlockEvent} (ordered : Ordered past) :
    (entered past).Nodup := by
  induction past with
  | nil => exact List.nodup_nil
  | cons event earlier ih =>
      cases event with
      | enter ctx block => exact List.nodup_cons.mpr ⟨ordered.1, ih ordered.2⟩
      | exit ctx => exact ih ordered.2

/-- The blocks of one task restore the fields. -/
theorem Fields.nested_restored (U : UnicodeData) (fields : Fields) {events : List BlockEvent}
    (complete : AllLeft events) (nested : Nested events) :
    (Runs.run (Fields.onBlock U) fields events).metrics = fields.metrics := by
  have once : (entered events).Nodup := by
    have reversed := entered_nodup_of_ordered complete.ordered
    rwa [entered, List.filterMap_reverse, List.nodup_reverse] at reversed
  have none := (nested.inEffect_append once []).1
  rw [List.append_nil] at none
  obtain ⟨metrics, -⟩ := foldr_onBlock U fields complete.ordered
  rw [List.foldr_reverse, none] at metrics
  exact metrics

end Asyncly
