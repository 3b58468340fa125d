import Asyncly.Lib.Runs
import Asyncly.Metrics.Metered
import Asyncly.Metrics.Switching

/-!
# Attempts in flight

A client and its attempts as a transition system: any task switches sinks, starts an
attempt, or lets one in progress finish. An attempt keeps the sink it started with, and
reads the capability flag again in its `finally` clause. What it does between the two,
and with what end, is up to the world it runs against.
-/

namespace Asyncly

variable {B V : Type}

/-! ### The two ends of an attempt -/

/-- An instrumented attempt up to the `await` of its request. -/
def beginAttempt (metrics : MetricsState) (clientName : String) (args : RequestArgs B V) :
    Async B Unit :=
  match metrics.frame clientName args with
  | none => pure ()
  | some frame => startHook metrics.sinkHasLifecycle frame

/-- The rest of it, whose `finally` clause finds the flag `lifecycle`. -/
def endOfAttempt (metrics : MetricsState) (lifecycle : Bool) (world : World B)
    (clientName : String) (args : RequestArgs B V) : Async B (RequestResult V) :=
  match metrics.frame clientName args with
  | none => baseAttempt world clientName args
  | some frame => do
      let (log, ended) ← (meteredRequest metrics frame world clientName args).listen
      endAttempt lifecycle frame ended (chosenStatus log) (world.duration args.slot)

theorem beginAttempt_bind (metrics : MetricsState) (lifecycle : Bool) (world : World B)
    (clientName : String) (args : RequestArgs B V) :
    (beginAttempt metrics clientName args >>= fun _ =>
      endOfAttempt metrics lifecycle world clientName args) =
      instrumentedAttempt metrics lifecycle world clientName args := by
  rw [beginAttempt, endOfAttempt, instrumentedAttempt]
  cases metrics.frame clientName args <;> rfl

/-! ### The system -/

/-- An attempt: the fields it found, what it is going to meet, what it did so far, and
its end once it has one. -/
structure Attempt (B V : Type) where
  metrics : MetricsState
  world : World B
  args : RequestArgs B V
  log : List (Effect B)
  ended : Option (Except Exn (RequestResult V))

namespace Attempt

/-- An attempt that has reached its `await`, or was ended by its start hook. -/
def start (clientName : String) (metrics : MetricsState) (world : World B)
    (args : RequestArgs B V) : Attempt B V where
  metrics := metrics
  world := world
  args := args
  log := (beginAttempt metrics clientName args).log
  ended :=
    match (beginAttempt metrics clientName args).result with
    | .ok () => none
    | .error exc => some (.error exc)

/-- An attempt in progress runs to its end. -/
def finish (clientName : String) (lifecycle : Bool) (attempt : Attempt B V) : Attempt B V :=
  match attempt.ended with
  | some _ => attempt
  | none =>
      let rest := endOfAttempt attempt.metrics lifecycle attempt.world clientName attempt.args
      { attempt with log := attempt.log ++ rest.log, ended := some rest.result }

/-- The sink that was active when the attempt started, with its labels. No sink is active
while metrics are off. -/
def frame (clientName : String) (attempt : Attempt B V) : Option Frame :=
  attempt.metrics.frame clientName attempt.args

/-- How often an attempt made a call of a sink. -/
def calls (sink : Sink) (call : SinkCall) (attempt : Attempt B V) : Nat :=
  (attempt.log.filterMap Effect.sinkCall?).count (sink, call)

/-- The attempt is in progress and was started with this sink and these labels. -/
def inProgress (clientName : String) (sink : Sink) (labels : Labels) (attempt : Attempt B V) :
    Bool :=
  attempt.ended.isNone && attempt.frame clientName == some ⟨sink, labels⟩

/-- If the attempt is metered and over, it ended as it would have without a switch, and made
one observation, with the sink it started with. -/
def Undisturbed (clientName : String) (attempt : Attempt B V) : Prop :=
  ∀ frame, attempt.frame clientName = some frame → ∀ r, attempt.ended = some r →
    r = (instrumentedAttempt attempt.metrics attempt.metrics.sinkHasLifecycle attempt.world
      clientName attempt.args).result ∧
    ∃ recorded, (attempt.log.filterMap Effect.sinkCall?).filter (fun p => p.2.isObserve) =
      [(frame.sink, .observeRequest frame.labels recorded)]

/-- A finish is as the accounts need it: the flag is up if the sink the attempt started with
has both hooks. -/
def KeepsAccount (clientName : String) (lifecycle : Bool) (attempt : Attempt B V) : Prop :=
  ∀ frame, attempt.frame clientName = some frame →
    frame.sink.detectLifecycle = true → lifecycle = true

/-- A finish is safe: if the flag is up, the sink the attempt started with has the end hook. -/
def FindsHook (clientName : String) (lifecycle : Bool) (attempt : Attempt B V) : Prop :=
  ∀ frame, attempt.frame clientName = some frame →
    lifecycle = true → frame.sink.hooks.onRequestEnd = true

end Attempt

/-- The fields of the client and all attempts so far, in the order they started. -/
structure System (B V : Type) where
  fields : Fields
  attempts : List (Attempt B V)

/-- What a task can do next. -/
inductive Action (B V : Type)
  | switch (write : Switch)
  | start (world : World B) (args : RequestArgs B V)
  | finish (attempt : Nat)

namespace System

def initial (B V : Type) (U : UnicodeData) (noopId : Nat) : System B V where
  fields := .initial U noopId
  attempts := []

/-- One step of one task. Finishing an attempt that is over changes nothing. -/
def step (U : UnicodeData) (clientName : String) (s : System B V) : Action B V → System B V
  | .switch write => { s with fields := s.fields.switch U write }
  | .start world args =>
      { s with attempts := s.attempts ++ [.start clientName s.fields.metrics world args] }
  | .finish i =>
      { s with
        attempts := s.attempts.modify i (.finish clientName s.fields.metrics.sinkHasLifecycle) }

/-- How often a sink received a call. -/
def received (s : System B V) (sink : Sink) (call : SinkCall) : Nat :=
  ((s.attempts.flatMap Attempt.log).filterMap Effect.sinkCall?).count (sink, call)

/-- The attempts in progress that were started with a sink and labels. -/
def inProgress (s : System B V) (clientName : String) (sink : Sink) (labels : Labels) : Nat :=
  s.attempts.countP (Attempt.inProgress clientName sink labels)

/-- Every sink with both lifecycle hooks is owed one end call for each attempt in progress
that was started with it, under the labels of the attempt. -/
def Balanced (clientName : String) (s : System B V) : Prop :=
  ∀ sink : Sink, sink.detectLifecycle = true → ∀ labels,
    s.received sink (.onRequestStart labels) =
      s.received sink (.onRequestEnd labels) + s.inProgress clientName sink labels

/-- Every attempt is undisturbed. -/
def Undisturbed (clientName : String) (s : System B V) : Prop :=
  ∀ attempt ∈ s.attempts, attempt.Undisturbed clientName

/-- A step that ends an attempt in progress does so with a flag as `Q` asks. -/
def EndsWith (Q : Bool → Attempt B V → Prop) (s : System B V) : Action B V → Prop
  | .finish i => ∀ attempt, s.attempts[i]? = some attempt → attempt.ended = none →
      Q s.fields.metrics.sinkHasLifecycle attempt
  | _ => True

end System

/-! ### One attempt -/

section Attempt

variable {clientName : String} {metrics : MetricsState} {world : World B} {args : RequestArgs B V}
  {frame : Frame} {lifecycle : Bool} {sink : Sink} {labels : Labels}

/-- A metered attempt whose fields are consistent gets past its start hook. -/
theorem start_of_metered (consistent : metrics.Consistent)
    (metered : metrics.frame clientName args = some frame) :
    Attempt.start clientName metrics world args =
      ⟨metrics, world, args, startCalls metrics.sinkHasLifecycle frame, none⟩ := by
  obtain ⟨same, active⟩ := frame_sink metered
  have honours := consistent.honours active
  rw [← same] at honours
  have begun : beginAttempt metrics clientName args =
      (⟨startCalls metrics.sinkHasLifecycle frame, .ok ()⟩ : Async B Unit) := by
    rw [beginAttempt, metered]
    exact startHook_eq honours
  simp only [Attempt.start, begun]

theorem start_of_unmetered (off : metrics.frame clientName args = none) :
    Attempt.start clientName metrics world args = ⟨metrics, world, args, [], none⟩ := by
  simp only [Attempt.start, beginAttempt, off]
  rfl

theorem frame_start : (Attempt.start clientName metrics world args).frame clientName =
    metrics.frame clientName args := rfl

/-- Every attempt starts in progress. -/
theorem ended_start (consistent : metrics.Consistent) :
    (Attempt.start clientName metrics world args).ended = none := by
  cases frame : metrics.frame clientName args with
  | none => rw [start_of_unmetered frame]
  | some frame' => rw [start_of_metered consistent frame]

/-- An attempt that runs to its end is `_request_once` of the instrumented client, whose
`finally` clause finds the flag as it is then. -/
theorem finish_start (metrics : MetricsState) (lifecycle : Bool) (world : World B)
    (clientName : String) (args : RequestArgs B V) :
    let run := instrumentedAttempt metrics lifecycle world clientName args
    (Attempt.start clientName metrics world args).finish clientName lifecycle =
      ⟨metrics, world, args, run.log, some run.result⟩ := by
  intro run
  cases begun : (beginAttempt metrics clientName args : Async B Unit).result with
  | ok _ =>
      have split : run = _ :=
        (beginAttempt_bind metrics lifecycle world clientName args).symm.trans
          (Traced.bind_of_ok _ begun)
      simp only [Attempt.start, Attempt.finish, begun, split]
  | error exc =>
      have split : run = _ :=
        (beginAttempt_bind metrics lifecycle world clientName args).symm.trans
          (Traced.bind_of_error _ begun)
      simp only [Attempt.start, Attempt.finish, begun, split]

theorem finish_of_unmetered (off : metrics.frame clientName args = none) :
    (Attempt.start clientName metrics world args).finish clientName lifecycle =
      ⟨metrics, world, args, (baseAttempt world clientName args).log,
        some (baseAttempt world clientName args).result⟩ := by
  rw [finish_start, instrumentedAttempt, off]

/-- The log of an attempt that found the end hook it was promised. -/
theorem finish_of_hook (consistent : metrics.Consistent)
    (metered : metrics.frame clientName args = some frame)
    (hook : lifecycle = true → frame.sink.hooks.onRequestEnd = true) :
    let request := meteredRequest metrics frame world clientName args
    (Attempt.start clientName metrics world args).finish clientName lifecycle =
      ⟨metrics, world, args, startCalls metrics.sinkHasLifecycle frame ++ (request.log ++
        endCalls lifecycle frame (observation metrics frame world clientName args)),
        some request.result⟩ := by
  rw [start_of_metered consistent metered]
  simp only [Attempt.finish, endOfAttempt, metered, Traced.listen_bind, endAttempt_eq hook]
  rfl

theorem finish_of_missing (consistent : metrics.Consistent)
    (metered : metrics.frame clientName args = some frame)
    (missing : frame.sink.hooks.onRequestEnd = false) :
    let request := meteredRequest metrics frame world clientName args
    (Attempt.start clientName metrics world args).finish clientName true =
      ⟨metrics, world, args, startCalls metrics.sinkHasLifecycle frame ++ request.log,
        some (.error (.attributeError "sink object has no attribute 'on_request_end'"))⟩ := by
  rw [start_of_metered consistent metered]
  simp only [Attempt.finish, endOfAttempt, metered, Traced.listen_bind,
    endAttempt_of_missing missing, List.append_nil]

theorem finish_over (lifecycle : Bool) (world : World B)
    (consistent : metrics.Consistent)
    (metered : metrics.frame clientName args = some frame) :
    ((Attempt.start clientName metrics world args).finish clientName lifecycle).frame clientName =
        some frame ∧
      ((Attempt.start clientName metrics world args).finish clientName lifecycle).ended.isNone =
        false := by
  rw [start_of_metered consistent metered]
  exact ⟨metered, rfl⟩

/-! ### The calls of one attempt -/

theorem filterMap_sinkCall_request (args : RequestArgs B V) (handlers : Handlers (Entry B V)) :
    (requestOnce world clientName args handlers).log.filterMap Effect.sinkCall? = [] := by
  rw [filterMap_requestOnce fun _ => Effect.sinkCall?_eq_none]
  rfl

theorem sinkCalls_start (world : World B)
    (consistent : metrics.Consistent)
    (metered : metrics.frame clientName args = some frame) :
    (Attempt.start clientName metrics world args).log.filterMap Effect.sinkCall? =
      if metrics.sinkHasLifecycle then [(frame.sink, .onRequestStart frame.labels)] else [] := by
  rw [start_of_metered consistent metered]
  cases metrics.sinkHasLifecycle <;> rfl

theorem sinkCalls_finish (world : World B)
    (consistent : metrics.Consistent)
    (metered : metrics.frame clientName args = some frame)
    (hook : lifecycle = true → frame.sink.hooks.onRequestEnd = true) :
    ((Attempt.start clientName metrics world args).finish clientName lifecycle).log.filterMap
        Effect.sinkCall? =
      (if metrics.sinkHasLifecycle then [(frame.sink, .onRequestStart frame.labels)] else []) ++
        ((if lifecycle then [(frame.sink, .onRequestEnd frame.labels)] else []) ++
          [(frame.sink, .observeRequest frame.labels
            (observation metrics frame world clientName args))]) := by
  rw [finish_of_hook consistent metered hook]
  simp only [List.filterMap_append, meteredRequest, filterMap_sinkCall_request, List.nil_append]
  cases metrics.sinkHasLifecycle <;> cases lifecycle <;> rfl

theorem sinkCalls_finish_of_missing (world : World B)
    (consistent : metrics.Consistent)
    (metered : metrics.frame clientName args = some frame)
    (missing : frame.sink.hooks.onRequestEnd = false) :
    ((Attempt.start clientName metrics world args).finish clientName true).log.filterMap
        Effect.sinkCall? =
      if metrics.sinkHasLifecycle then [(frame.sink, .onRequestStart frame.labels)] else [] := by
  rw [finish_of_missing consistent metered missing]
  simp only [List.filterMap_append, meteredRequest, filterMap_sinkCall_request, List.append_nil]
  cases metrics.sinkHasLifecycle <;> rfl

/-- The account of a sink with both hooks for one attempt: its start calls against its end
calls and what is still to come. -/
def Attempt.Account (rel : Nat → Nat → Prop) (clientName : String) (attempt : Attempt B V) :
    Prop :=
  ∀ sink : Sink, sink.detectLifecycle = true → ∀ labels,
    rel (attempt.calls sink (.onRequestStart labels))
      (attempt.calls sink (.onRequestEnd labels) +
        if attempt.inProgress clientName sink labels then 1 else 0)

/-- An attempt calls the sink it started with only, under its own labels. -/
def Attempt.CallsOwn (frame : Frame) (attempt : Attempt B V) : Prop :=
  ∀ p ∈ attempt.log.filterMap Effect.sinkCall?, p.1 = frame.sink ∧ p.2.labels = frame.labels

theorem Attempt.CallsOwn.calls_eq_zero {attempt : Attempt B V} (own : attempt.CallsOwn frame)
    {call : SinkCall} (other : frame ≠ ⟨sink, call.labels⟩) : attempt.calls sink call = 0 := by
  refine List.count_eq_zero.mpr fun member => other ?_
  obtain ⟨same, labels⟩ := own _ member
  exact Frame.mk.injEq .. ▸ ⟨same.symm, labels.symm⟩

/-- The start hook of a metered attempt is called exactly when its sink has both hooks. -/
theorem lifecycle_eq_detect (consistent : metrics.Consistent)
    (metered : metrics.frame clientName args = some frame) :
    metrics.sinkHasLifecycle = frame.sink.detectLifecycle := by
  obtain ⟨same, active⟩ := frame_sink metered
  rw [consistent active, same]

section Account

variable (rel : Nat → Nat → Prop) (zero : rel 0 0)
include zero

/-- Only the account of its own sink and labels is touched. -/
theorem Attempt.CallsOwn.account_iff {attempt : Attempt B V} (own : attempt.CallsOwn frame)
    (metered : attempt.frame clientName = some frame) :
    attempt.Account rel clientName ↔ (frame.sink.detectLifecycle = true →
      rel (attempt.calls frame.sink (.onRequestStart frame.labels))
        (attempt.calls frame.sink (.onRequestEnd frame.labels) +
          if attempt.ended.isNone then 1 else 0)) := by
  constructor
  · intro account defines
    simpa [Attempt.inProgress, metered] using account frame.sink defines frame.labels
  · intro account sink defines labels
    by_cases same : frame = ⟨sink, labels⟩
    · subst same
      simpa [Attempt.inProgress, metered] using account defines
    · rw [own.calls_eq_zero same, own.calls_eq_zero same]
      simpa [Attempt.inProgress, metered, same] using zero

/-- An attempt that is not metered is no sink's business. -/
theorem account_of_unmetered {attempt : Attempt B V} (off : attempt.frame clientName = none)
    (quiet : attempt.log.filterMap Effect.sinkCall? = []) : attempt.Account rel clientName := by
  intro sink _ labels
  simpa [Attempt.calls, quiet, Attempt.inProgress, off] using zero

/-- At its end, an attempt has made its start call, and the end call if the flag is up. -/
theorem account_finish_iff (consistent : metrics.Consistent) :
    ((Attempt.start clientName metrics world args).finish clientName lifecycle).Account rel
        clientName ↔
      ∀ frame, metrics.frame clientName args = some frame →
        frame.sink.detectLifecycle = true → rel 1 (if lifecycle then 1 else 0) := by
  cases metered : metrics.frame clientName args with
  | none =>
      rw [finish_of_unmetered metered]
      exact iff_of_true
        (account_of_unmetered rel zero metered (filterMap_sinkCall_request args _)) nofun
  | some frame =>
      simp only [Option.some.injEq, forall_eq']
      obtain ⟨same, complete⟩ := finish_over lifecycle world consistent metered
      by_cases hook : lifecycle = true → frame.sink.hooks.onRequestEnd = true
      · have calls := sinkCalls_finish world consistent metered hook
        have own : ((Attempt.start clientName metrics world args).finish clientName
            lifecycle).CallsOwn frame := by
          rw [Attempt.CallsOwn, calls]
          cases metrics.sinkHasLifecycle <;> cases lifecycle <;> simp [SinkCall.labels]
        rw [own.account_iff rel zero same]
        apply forall_congr'
        intro defines
        rw [lifecycle_eq_detect consistent metered, defines] at calls
        cases lifecycle <;> simp [Attempt.calls, calls, complete]
      · obtain ⟨rfl, missing⟩ : lifecycle = true ∧ frame.sink.hooks.onRequestEnd = false := by
          simpa using hook
        have calls := sinkCalls_finish_of_missing world consistent metered missing
        have own : ((Attempt.start clientName metrics world args).finish clientName
            true).CallsOwn frame := by
          rw [Attempt.CallsOwn, calls]
          split <;> simp [SinkCall.labels]
        rw [own.account_iff rel zero same]
        simp [Sink.detectLifecycle, missing]

end Account

/-- An attempt in progress owes the end call for the start call it made. -/
theorem account_start (consistent : metrics.Consistent) :
    (Attempt.start clientName metrics world args).Account (· = ·) clientName := by
  cases metered : metrics.frame clientName args with
  | none =>
      rw [start_of_unmetered metered]
      exact account_of_unmetered _ rfl metered rfl
  | some frame =>
      have calls := sinkCalls_start world consistent metered
      have own : (Attempt.start clientName metrics world args).CallsOwn frame := by
        rw [Attempt.CallsOwn, calls]
        split <;> simp [SinkCall.labels]
      apply (own.account_iff _ rfl metered).mpr
      intro defines
      rw [lifecycle_eq_detect consistent metered, defines] at calls
      simp [Attempt.calls, calls, ended_start consistent]

theorem balanced_finish_iff (consistent : metrics.Consistent) :
    ((Attempt.start clientName metrics world args).finish clientName lifecycle).Account (· = ·)
        clientName ↔
      (Attempt.start clientName metrics world args).KeepsAccount clientName lifecycle := by
  rw [account_finish_iff (· = ·) rfl consistent, Attempt.KeepsAccount, frame_start]
  refine forall_congr' fun frame => forall_congr' fun metered => forall_congr' fun defines => ?_
  cases lifecycle <;> simp

theorem undisturbed_start (consistent : metrics.Consistent) :
    (Attempt.start clientName metrics world args).Undisturbed clientName := by
  intro frame metered r complete
  rw [ended_start consistent] at complete
  cases complete

/-- A finished metered attempt is undisturbed exactly when a flag that is up finds its hook. -/
theorem undisturbed_finish_iff (consistent : metrics.Consistent) :
    ((Attempt.start clientName metrics world args).finish clientName lifecycle).Undisturbed
        clientName ↔
      (Attempt.start clientName metrics world args).FindsHook clientName lifecycle := by
  rw [Attempt.FindsHook, frame_start]
  cases metered : metrics.frame clientName args with
  | none =>
      rw [finish_of_unmetered metered]
      refine iff_of_true (fun frame same => ?_) nofun
      rw [Attempt.frame, metered] at same
      cases same
  | some frame =>
      simp only [Option.some.injEq, forall_eq']
      by_cases hook : lifecycle = true → frame.sink.hooks.onRequestEnd = true
      · refine iff_of_true ?_ hook
        have calls := sinkCalls_finish world consistent metered hook
        have honours : frame.sink.Honours metrics.sinkHasLifecycle := by
          obtain ⟨same, active⟩ := frame_sink metered
          rw [same]
          exact consistent.honours active
        intro frame' same r complete
        rw [finish_of_hook consistent metered hook] at same complete
        obtain rfl : frame = frame' := Option.some.inj (metered.symm.trans same)
        refine ⟨?_, observation metrics frame world clientName args, ?_⟩
        · rw [finish_of_hook consistent metered hook, instrumentedAttempt_eq honours metered]
          exact (Option.some.inj complete).symm
        · rw [calls]
          cases metrics.sinkHasLifecycle <;> cases lifecycle <;> rfl
      · refine iff_of_false (fun undisturbed => ?_) hook
        obtain ⟨rfl, missing⟩ : lifecycle = true ∧ frame.sink.hooks.onRequestEnd = false := by
          simpa using hook
        have calls := sinkCalls_finish_of_missing world consistent metered missing
        obtain ⟨same, complete⟩ := finish_over true world consistent metered
        obtain ⟨r, ended⟩ := Option.isSome_iff_exists.mp (Option.isNone_eq_false_iff.mp complete)
        obtain ⟨-, recorded, observed⟩ := undisturbed frame same r ended
        rw [calls] at observed
        split at observed <;> simp [SinkCall.isObserve] at observed

end Attempt

/-! ### Runs -/

section Runs

variable {U : UnicodeData} {clientName : String} {s : System B V}

/-- An attempt of some run: one that started, or started and finished. -/
def Attempt.Reachable (clientName : String) (attempt : Attempt B V) : Prop :=
  ∃ metrics world args, metrics.Consistent ∧
    let started := Attempt.start clientName metrics world args
    (attempt = started ∨ ∃ lifecycle, attempt = started.finish clientName lifecycle)

structure System.Reachable (clientName : String) (s : System B V) : Prop where
  fields : s.fields.Consistent
  attempts : ∀ attempt ∈ s.attempts, attempt.Reachable clientName

theorem Attempt.finish_of_ended {attempt : Attempt B V} {r : Except Exn (RequestResult V)}
    (complete : attempt.ended = some r) (lifecycle : Bool) :
    attempt.finish clientName lifecycle = attempt := by
  simp only [Attempt.finish, complete]

theorem Attempt.exists_ended_finish (clientName : String) (attempt : Attempt B V)
    (lifecycle : Bool) :
    ∃ r, (attempt.finish clientName lifecycle).ended = some r := by
  cases complete : attempt.ended with
  | none =>
      refine ⟨(endOfAttempt attempt.metrics lifecycle attempt.world clientName
        attempt.args).result, ?_⟩
      simp only [Attempt.finish, complete]
  | some r => exact ⟨r, by rw [Attempt.finish_of_ended complete, complete]⟩

theorem Attempt.Reachable.finish {attempt : Attempt B V} (h : attempt.Reachable clientName)
    (lifecycle : Bool) : (attempt.finish clientName lifecycle).Reachable clientName := by
  obtain ⟨metrics, world, args, consistent, rfl | ⟨before, rfl⟩⟩ := h
  · exact ⟨metrics, world, args, consistent, .inr ⟨lifecycle, rfl⟩⟩
  · obtain ⟨r, complete⟩ := Attempt.exists_ended_finish clientName
      (Attempt.start clientName metrics world args) before
    rw [Attempt.finish_of_ended complete]
    exact ⟨metrics, world, args, consistent, .inr ⟨before, rfl⟩⟩

theorem System.reachable_initial (noopId : Nat) :
    (System.initial B V U noopId).Reachable clientName :=
  ⟨Fields.consistent_initial noopId, by simp [System.initial]⟩

theorem System.Reachable.step (h : s.Reachable clientName) (action : Action B V) :
    (s.step U clientName action).Reachable clientName := by
  cases action with
  | switch write => exact ⟨h.fields.switch write, h.attempts⟩
  | start world args =>
      refine ⟨h.fields, ?_⟩
      intro attempt member
      rcases List.mem_append.mp member with before | new
      · exact h.attempts attempt before
      · rw [List.mem_singleton.mp new]
        exact ⟨s.fields.metrics, world, args, h.fields.metrics, .inl rfl⟩
  | finish i =>
      refine ⟨h.fields, (Runs.forall_mem_modify_iff h.attempts).mpr fun attempt found => ?_⟩
      exact (h.attempts attempt (List.mem_of_getElem? found)).finish _

/-- A property of single attempts that holds of them in progress is kept by a step exactly
when the step ends no attempt badly. -/
theorem System.forall_attempts_step_iff {R : Attempt B V → Prop} {Q : Bool → Attempt B V → Prop}
    (started : ∀ metrics world args, metrics.Consistent → R (.start clientName metrics world args))
    (finished : ∀ metrics world args lifecycle, metrics.Consistent →
      (R ((Attempt.start clientName metrics world args).finish clientName lifecycle) ↔
        Q lifecycle (.start clientName metrics world args)))
    (h : s.Reachable clientName) (holds : ∀ attempt ∈ s.attempts, R attempt)
    (action : Action B V) :
    (∀ attempt ∈ (s.step U clientName action).attempts, R attempt) ↔ s.EndsWith Q action := by
  cases action with
  | switch write => exact iff_of_true holds trivial
  | start world args =>
      refine iff_of_true (fun attempt member => ?_) trivial
      rcases List.mem_append.mp member with before | new
      · exact holds attempt before
      · rw [List.mem_singleton.mp new]
        exact started _ world args h.fields.metrics
  | finish i =>
      apply (Runs.forall_mem_modify_iff holds).trans
      refine forall_congr' fun attempt => forall_congr' fun found => ?_
      have member := List.mem_of_getElem? found
      obtain ⟨metrics, world, args, consistent, rfl | ⟨before, rfl⟩⟩ := h.attempts attempt member
      · rw [finished metrics world args _ consistent]
        simp [ended_start consistent]
      · obtain ⟨r, complete⟩ := Attempt.exists_ended_finish clientName
          (Attempt.start clientName metrics world args) before
        rw [Attempt.finish_of_ended complete]
        exact iff_of_true (holds _ member) fun none => by simp [complete] at none

theorem received_eq_sum (s : System B V) (sink : Sink) (call : SinkCall) :
    s.received sink call = (s.attempts.map (Attempt.calls sink call)).sum := by
  rw [System.received, List.filterMap_flatMap, List.count_flatMap]
  rfl

/-- The accounts of a system are balanced exactly when those of its attempts are. -/
theorem System.Reachable.balanced_iff (h : s.Reachable clientName) :
    s.Balanced clientName ↔ ∀ attempt ∈ s.attempts, attempt.Account (· = ·) clientName := by
  have solvent (attempt : Attempt B V) (member : attempt ∈ s.attempts) :
      attempt.Account (fun made due => due ≤ made) clientName := by
    obtain ⟨metrics, world, args, consistent, rfl | ⟨lifecycle, rfl⟩⟩ := h.attempts attempt member
    · exact fun sink defines labels => (account_start consistent sink defines labels).ge
    · refine (account_finish_iff (fun made due => due ≤ made) (Nat.le_refl 0) consistent).mpr
        fun _ _ _ => ?_
      cases lifecycle <;> decide
  have sums (sink : Sink) (defines : sink.detectLifecycle = true) (labels : Labels) :
      s.received sink (.onRequestStart labels) =
          s.received sink (.onRequestEnd labels) + s.inProgress clientName sink labels ↔
        ∀ attempt ∈ s.attempts, attempt.calls sink (.onRequestStart labels) =
          attempt.calls sink (.onRequestEnd labels) +
            if attempt.inProgress clientName sink labels then 1 else 0 := by
    rw [← Runs.sum_map_eq_iff fun attempt member => solvent attempt member sink defines labels,
      received_eq_sum, received_eq_sum, System.inProgress, Runs.countP_eq_sum, List.sum_map_add]
  constructor
  · intro balanced attempt member sink defines labels
    exact (sums sink defines labels).mp (balanced sink defines labels) attempt member
  · intro accounts sink defines labels
    exact (sums sink defines labels).mpr fun attempt member =>
      accounts attempt member sink defines labels

/-- A single request whose handler returns a value. -/
def Sample.request : RequestArgs Unit Nat where
  method := "GET"
  url := Sample.url
  handlers := Sample.handlers [(.status 200, Sample.handler (.ok 7))]
  operation := none
  retry := none
  retryContext := none
  retryObserver := none
  kwargs := {}

/-- The accounts of all sinks are balanced throughout a run exactly when no attempt of a
sink with both hooks finishes while the flag is down. -/
theorem System.always_balanced_iff (noopId : Nat) (actions : List (Action B V)) :
    Runs.Always (System.step U clientName) (System.Balanced clientName)
        (.initial B V U noopId) actions ↔
      Runs.EveryStep (System.step U clientName) (System.EndsWith (Attempt.KeepsAccount clientName))
        (.initial B V U noopId) actions := by
  have preserved (s : System B V) (action : Action B V) (h : s.Reachable clientName) :
      (s.step U clientName action).Reachable clientName := h.step action
  have start : (System.initial B V U noopId).Reachable clientName := System.reachable_initial noopId
  refine (Runs.always_congr preserved (fun s h => h.balanced_iff) start).trans ?_
  refine Runs.always_iff_everyStep preserved (fun s action h holds => ?_) start
    (List.forall_mem_nil _)
  exact System.forall_attempts_step_iff (fun _ _ _ consistent => account_start consistent)
    (fun _ _ _ _ consistent => balanced_finish_iff consistent) h holds action

/-- Metrics are disabled while an attempt is in progress: its end call never comes. -/
theorem System.always_balanced_fails :
    let sink := Sink.custom 1 ⟨true, true, false⟩
    ¬ Runs.Always (System.step .latin1 "api") (System.Balanced "api")
      (.initial Unit Nat .latin1 0)
      [.switch (.enableMetrics sink (some fun _ => "/items")),
        .start (Sample.world fun _ => .ok (Sample.response 200)) Sample.request,
        .switch (.disableMetrics 2), .finish 0] := by
  rintro sink ⟨-, -, -, -, last⟩
  have account := last sink rfl ⟨"api", "GET", "/items", "/items"⟩
  revert account
  decide

/-- No attempt is disturbed throughout a run exactly when no attempt of a sink without the
end hook finishes while the flag is up. -/
theorem System.always_undisturbed_iff (noopId : Nat) (actions : List (Action B V)) :
    Runs.Always (System.step U clientName) (System.Undisturbed clientName)
        (.initial B V U noopId) actions ↔
      Runs.EveryStep (System.step U clientName) (System.EndsWith (Attempt.FindsHook clientName))
        (.initial B V U noopId) actions := by
  have preserved (s : System B V) (action : Action B V) (h : s.Reachable clientName) :
      (s.step U clientName action).Reachable clientName := h.step action
  refine Runs.always_iff_everyStep preserved (fun s action h holds => ?_)
    (System.reachable_initial noopId) (List.forall_mem_nil _)
  exact System.forall_attempts_step_iff (fun _ _ _ consistent => undisturbed_start consistent)
    (fun _ _ _ _ consistent => undisturbed_finish_iff consistent) h holds action

/-- A sink with lifecycle hooks is enabled while an attempt of a sink without them is in
progress: instead of its value, the attempt raises `AttributeError`. -/
theorem System.always_undisturbed_fails :
    let observing := Sink.custom 1 ⟨false, false, false⟩
    ¬ Runs.Always (System.step .latin1 "api") (System.Undisturbed "api")
      (.initial Unit Nat .latin1 0)
      [.switch (.enableMetrics observing (some fun _ => "/items")),
        .start (Sample.world fun _ => .ok (Sample.response 200)) Sample.request,
        .switch (.enableMetrics (.custom 2 ⟨true, true, false⟩) none), .finish 0] := by
  rintro observing ⟨-, -, -, -, last⟩
  let found := (MetricsState.disabled .latin1 0).enableMetrics observing (some fun _ => "/items")
  have undisturbed := last ((Attempt.start "api" found
    (Sample.world fun _ => .ok (Sample.response 200)) Sample.request).finish "api" true)
    (List.mem_singleton.mpr rfl)
  have hook := (undisturbed_finish_iff (MetricsState.consistent_enableMetrics _ _)).mp undisturbed
    ⟨observing, "api", "GET", "/items", "/items"⟩ rfl rfl
  cases hook

end Runs

end Asyncly
