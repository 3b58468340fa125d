import Asyncly.Lib.Runs
import Asyncly.Python.Values

/-!
# Network phases

The callbacks of a trace note the times of a request on its context and emit a sample where
a phase ends. A request may be told to have ended before its body arrives, so which samples
there are depends on the order of the callbacks.
-/

namespace Asyncly

/-- Phase label values. -/
inductive Phase
  | dns
  | poolWait
  | connect
  | ttfb
  | bodyRead
  deriving DecidableEq

def Phase.label : Phase → String
  | dns => "dns"
  | poolWait => "pool_wait"
  | connect => "connect"
  | ttfb => "ttfb"
  | bodyRead => "body_read"

/-- The times noted on a context. -/
inductive TraceAttr
  | reqStart
  | firstChunk
  | dnsStart
  | poolStart
  | connectStart
  deriving DecidableEq

/-- `trace_request_ctx` as the callbacks see it; the values of a dictionary may be `None`. -/
inductive RequestContext
  | dict (items : Dict String (Option String))
  | other

/-- `trace_config_ctx`; an attribute that is missing is `None` to the callbacks. -/
structure TraceConfigCtx where
  traceRequestCtx : RequestContext
  attrs : TraceAttr → Option Binary64

/-- A call of `observe_phase`. -/
structure PhaseSample where
  client : String
  operation : String
  phase : String
  seconds : Binary64
  deriving DecidableEq

/-- The successive readings of `perf_counter` by the callbacks of a request: finite numbers
that do not decrease. -/
structure Clock where
  reading : ℕ → ℚ
  monotone : Monotone reading

/-- A traced request: its context, the number of clock readings so far, and the calls of the
sink. -/
structure Tracing where
  ctx : TraceConfigCtx
  readings : ℕ
  samples : List PhaseSample

/-- `_labels` -/
def RequestContext.labels : RequestContext → Option (String × String)
  | dict items =>
      match (items.get? "client").join, (items.get? "operation").join with
      | some client, some operation => some (client, operation)
      | _, _ => none
  | other => none

namespace PhaseTracer

variable (clock : Clock)

/-- `perf_counter()` -/
def perfCounter (t : Tracing) : Binary64 × Tracing :=
  (.finite (clock.reading t.readings), { t with readings := t.readings + 1 })

/-- `setattr(ctx, attr, value)` -/
def setAttr (attr : TraceAttr) (value : Option Binary64) (t : Tracing) : Tracing :=
  { t with ctx := { t.ctx with attrs := Function.update t.ctx.attrs attr value } }

/-- `_emit` -/
def emit (phase : Phase) (started : Binary64) (t : Tracing) : Tracing :=
  match t.ctx.traceRequestCtx.labels with
  | none => t
  | some (client, operation) =>
      let (now, t) := perfCounter clock t
      { t with samples := t.samples ++ [⟨client, operation, phase.label, now.sub started⟩] }

/-- `_emit_from` -/
def emitFrom (attr : TraceAttr) (phase : Phase) (t : Tracing) : Tracing :=
  match t.ctx.attrs attr with
  | some started => emit clock phase started t
  | none => t

/-- `ctx.attr = perf_counter()` -/
def note (attr : TraceAttr) (t : Tracing) : Tracing :=
  let (now, t) := perfCounter clock t
  setAttr attr (some now) t

def onRequestStart (t : Tracing) : Tracing := setAttr .firstChunk none (note clock .reqStart t)

def onDnsStart : Tracing → Tracing := note clock .dnsStart

def onDnsEnd : Tracing → Tracing := emitFrom clock .dnsStart .dns

def onPoolStart : Tracing → Tracing := note clock .poolStart

def onPoolEnd : Tracing → Tracing := emitFrom clock .poolStart .poolWait

def onConnectStart : Tracing → Tracing := note clock .connectStart

def onConnectEnd : Tracing → Tracing := emitFrom clock .connectStart .connect

def onChunkReceived (t : Tracing) : Tracing :=
  if (t.ctx.attrs .firstChunk).isSome then t
  else emitFrom clock .reqStart .ttfb (note clock .firstChunk t)

def onRequestEnd : Tracing → Tracing := emitFrom clock .firstChunk .bodyRead

end PhaseTracer

/-- The signals of a `TraceConfig`. -/
inductive TraceSignal
  | requestStart
  | requestHeadersSent
  | requestChunkSent
  | requestRedirect
  | requestException
  | requestEnd
  | responseChunkReceived
  | connectionQueuedStart
  | connectionQueuedEnd
  | connectionCreateStart
  | connectionCreateEnd
  | connectionReuseconn
  | dnsResolvehostStart
  | dnsResolvehostEnd
  | dnsCacheHit
  | dnsCacheMiss
  deriving DecidableEq

/-- The callbacks `build_trace_config` appends to each signal, given whether the sink has
`observe_phase`. -/
def buildTraceConfig (clock : Clock) (observesPhases : Bool) (signal : TraceSignal) :
    List (Tracing → Tracing) :=
  if observesPhases then
    match signal with
    | .requestStart => [PhaseTracer.onRequestStart clock]
    | .dnsResolvehostStart => [PhaseTracer.onDnsStart clock]
    | .dnsResolvehostEnd => [PhaseTracer.onDnsEnd clock]
    | .connectionQueuedStart => [PhaseTracer.onPoolStart clock]
    | .connectionQueuedEnd => [PhaseTracer.onPoolEnd clock]
    | .connectionCreateStart => [PhaseTracer.onConnectStart clock]
    | .connectionCreateEnd => [PhaseTracer.onConnectEnd clock]
    | .responseChunkReceived => [PhaseTracer.onChunkReceived clock]
    | .requestEnd => [PhaseTracer.onRequestEnd clock]
    | _ => []
  else []

/-- A signal is sent: its callbacks run one after the other. -/
def sendSignal (config : TraceSignal → List (Tracing → Tracing)) (t : Tracing)
    (signal : TraceSignal) : Tracing :=
  (config signal).foldl (fun t callback => callback t) t

/-- A request before its first callback, on a fresh context. -/
def Tracing.fresh (traceRequestCtx : RequestContext) : Tracing :=
  ⟨⟨traceRequestCtx, fun _ => none⟩, 0, []⟩

/-- The callbacks of a request that was sent these signals, for a sink that records phases. -/
def Tracing.run (clock : Clock) (traceRequestCtx : RequestContext) (signals : List TraceSignal) :
    Tracing :=
  Runs.run (sendSignal (buildTraceConfig clock true)) (Tracing.fresh traceRequestCtx) signals

/-! ### Complete samples -/

/-- The number of samples of a phase. -/
def countPhase (phase : Phase) (samples : List PhaseSample) : ℕ :=
  samples.countP fun sample => sample.phase = phase.label

/-- A sample has the labels of its request, and its time is not negative. -/
structure PhaseSample.Sound (client operation : String) (sample : PhaseSample) : Prop where
  client : sample.client = client
  operation : sample.operation = operation
  seconds : sample.seconds.Nonneg

/-- There is one sample for the first byte and one for the body, and they are sound. -/
structure CompletePhases (client operation : String) (samples : List PhaseSample) : Prop where
  ttfb : countPhase .ttfb samples = 1
  bodyRead : countPhase .bodyRead samples = 1
  sound : ∀ sample ∈ samples,
    sample.phase = Phase.ttfb.label ∨ sample.phase = Phase.bodyRead.label →
      sample.Sound client operation

/-- How far a started request has come, for its two phases: whether a chunk was received, and
how often its end was told after that. -/
structure Progress where
  chunk : Bool
  bodyReads : ℕ

def Progress.step (p : Progress) : TraceSignal → Progress
  | .responseChunkReceived => { p with chunk := true }
  | .requestEnd => if p.chunk then { p with bodyReads := p.bodyReads + 1 } else p
  | _ => p

/-- The noted times are readings of the past, and all samples are sound. -/
structure Tracing.Sound (clock : Clock) (client operation : String) (t : Tracing) : Prop where
  labels : t.ctx.traceRequestCtx.labels = some (client, operation)
  past : ∀ attr x, t.ctx.attrs attr = some x →
    ∃ i < t.readings, x = .finite (clock.reading i)
  samples : ∀ sample ∈ t.samples, sample.Sound client operation

/-- A started request that has come this far. -/
structure Tracks (clock : Clock) (client operation : String) (p : Progress) (t : Tracing) :
    Prop where
  sound : t.Sound clock client operation
  started : (t.ctx.attrs .reqStart).isSome = true
  chunk : (t.ctx.attrs .firstChunk).isSome = p.chunk
  ttfb : countPhase .ttfb t.samples = if p.chunk then 1 else 0
  bodyRead : countPhase .bodyRead t.samples = p.bodyReads

theorem Phase.label_inj {phase other : Phase} : phase.label = other.label ↔ phase = other := by
  cases phase <;> cases other <;> decide

/-! ### What the callbacks do -/

namespace PhaseTracer

variable {clock : Clock} {client operation : String} {p : Progress} {t : Tracing}

theorem note_attrs (attr : TraceAttr) : (note clock attr t).ctx.attrs =
    Function.update t.ctx.attrs attr (some (.finite (clock.reading t.readings))) := rfl

/-- The time that is noted will be one of the past. -/
theorem sound_note (sound : t.Sound clock client operation) (attr : TraceAttr) :
    (note clock attr t).Sound clock client operation := by
  refine ⟨sound.labels, fun other x noted => ?_, sound.samples⟩
  rw [note_attrs] at noted
  by_cases same : other = attr
  · rw [same, Function.update_self] at noted
    exact ⟨t.readings, Nat.lt_succ_self _, (Option.some.inj noted).symm⟩
  · rw [Function.update_of_ne same] at noted
    obtain ⟨i, earlier, reading⟩ := sound.past other x noted
    exact ⟨i, Nat.lt_succ_of_lt earlier, reading⟩

/-- Where the time was noted, a sound sample of the phase is emitted. -/
theorem emitFrom_eq (sound : t.Sound clock client operation) {attr : TraceAttr} (phase : Phase)
    (noted : (t.ctx.attrs attr).isSome = true) :
    ∃ sample : PhaseSample, sample.phase = phase.label ∧ sample.Sound client operation ∧
      emitFrom clock attr phase t =
        { t with readings := t.readings + 1, samples := t.samples ++ [sample] } := by
  obtain ⟨started, at_attr⟩ := Option.isSome_iff_exists.mp noted
  obtain ⟨i, earlier, rfl⟩ := sound.past attr started at_attr
  refine ⟨⟨client, operation, phase.label, (Binary64.finite (clock.reading t.readings)).sub
    (.finite (clock.reading i))⟩, rfl, ⟨rfl, rfl, ?_⟩, ?_⟩
  · exact Binary64.nonneg_sub (clock.monotone earlier.le)
  · rw [emitFrom, at_attr]
    dsimp only
    rw [emit, sound.labels]
    rfl

theorem emitFrom_of_none {attr : TraceAttr} (phase : Phase)
    (missing : (t.ctx.attrs attr).isSome = false) : emitFrom clock attr phase t = t := by
  rw [emitFrom, Option.not_isSome_iff_eq_none.mp (Bool.eq_false_iff.mp missing)]

/-- A time other than that of the first chunk makes no progress. -/
theorem tracks_note (h : Tracks clock client operation p t) {attr : TraceAttr}
    (other : attr ≠ .firstChunk) : Tracks clock client operation p (note clock attr t) := by
  refine ⟨sound_note h.sound attr, ?_, ?_, h.ttfb, h.bodyRead⟩
  · rw [note_attrs]
    by_cases same : TraceAttr.reqStart = attr
    · rw [same, Function.update_self]
      rfl
    · rw [Function.update_of_ne same]
      exact h.started
  · rw [note_attrs, Function.update_of_ne other.symm]
    exact h.chunk

theorem sound_concat (sound : t.Sound clock client operation) {sample : PhaseSample}
    (new : sample.Sound client operation) : Tracing.Sound clock client operation
      { t with readings := t.readings + 1, samples := t.samples ++ [sample] } := by
  refine ⟨sound.labels, fun attr x noted => ?_, fun other member => ?_⟩
  · obtain ⟨i, earlier, reading⟩ := sound.past attr x noted
    exact ⟨i, Nat.lt_succ_of_lt earlier, reading⟩
  · rcases List.mem_append.mp member with old | here
    · exact sound.samples other old
    · rw [List.mem_singleton.mp here]
      exact new

theorem countPhase_concat (counted phase : Phase) (samples : List PhaseSample)
    {sample : PhaseSample} (named : sample.phase = phase.label) :
    countPhase counted (samples ++ [sample]) =
      countPhase counted samples + if phase = counted then 1 else 0 := by
  rw [countPhase, List.countP_append, List.countP_singleton, named]
  simp only [decide_eq_true_eq, Phase.label_inj]
  rfl

/-- A sample of another phase makes no progress. -/
theorem tracks_emitFrom (h : Tracks clock client operation p t) (attr : TraceAttr) {phase : Phase}
    (notTtfb : phase ≠ .ttfb) (notBodyRead : phase ≠ .bodyRead) :
    Tracks clock client operation p (emitFrom clock attr phase t) := by
  cases noted : (t.ctx.attrs attr).isSome with
  | false =>
      rw [emitFrom_of_none phase noted]
      exact h
  | true =>
      obtain ⟨sample, named, new, emitted⟩ := emitFrom_eq h.sound phase noted
      rw [emitted]
      refine ⟨sound_concat h.sound new, h.started, h.chunk, ?_, ?_⟩
      · rw [countPhase_concat .ttfb phase _ named, if_neg notTtfb, h.ttfb, Nat.add_zero]
      · rw [countPhase_concat .bodyRead phase _ named, if_neg notBodyRead, h.bodyRead,
          Nat.add_zero]

/-- The first chunk is noted and its sample emitted; the others change nothing. -/
theorem tracks_onChunkReceived (h : Tracks clock client operation p t) :
    Tracks clock client operation (p.step .responseChunkReceived) (onChunkReceived clock t) := by
  obtain ⟨chunk, bodyReads⟩ := p
  rw [onChunkReceived]
  cases chunk with
  | true =>
      rw [if_pos h.chunk]
      exact h
  | false =>
      rw [if_neg (Bool.eq_false_iff.mp h.chunk)]
      have started : ((note clock .firstChunk t).ctx.attrs .reqStart).isSome = true := by
        rw [note_attrs, Function.update_of_ne (by decide)]
        exact h.started
      obtain ⟨sample, named, new, emitted⟩ :=
        emitFrom_eq (sound_note h.sound .firstChunk) .ttfb started
      rw [emitted]
      refine ⟨sound_concat (sound_note h.sound .firstChunk) new, started, ?_, ?_, ?_⟩
      · rw [note_attrs, Function.update_self]
        rfl
      · rw [countPhase_concat .ttfb .ttfb _ named, if_pos rfl]
        exact congrArg (· + 1) h.ttfb
      · rw [countPhase_concat .bodyRead .ttfb _ named, if_neg (by decide)]
        exact h.bodyRead

/-- The end of the request emits a sample once a chunk was received. -/
theorem tracks_onRequestEnd (h : Tracks clock client operation p t) :
    Tracks clock client operation (p.step .requestEnd) (onRequestEnd clock t) := by
  obtain ⟨chunk, bodyReads⟩ := p
  rw [onRequestEnd]
  cases chunk with
  | false =>
      rw [emitFrom_of_none .bodyRead h.chunk]
      exact h
  | true =>
      obtain ⟨sample, named, new, emitted⟩ := emitFrom_eq h.sound .bodyRead h.chunk
      rw [emitted]
      refine ⟨sound_concat h.sound new, h.started, h.chunk, ?_, ?_⟩
      · rw [countPhase_concat .ttfb .bodyRead _ named, if_neg (by decide)]
        exact h.ttfb
      · rw [countPhase_concat .bodyRead .bodyRead _ named, if_pos rfl, h.bodyRead]
        rfl

/-- Every signal but the first makes the progress it stands for. -/
theorem tracks_sendSignal (h : Tracks clock client operation p t) {signal : TraceSignal}
    (later : signal ≠ .requestStart) : Tracks clock client operation (p.step signal)
      (sendSignal (buildTraceConfig clock true) t signal) := by
  cases signal with
  | requestStart => exact absurd rfl later
  | responseChunkReceived => exact tracks_onChunkReceived h
  | requestEnd => exact tracks_onRequestEnd h
  | dnsResolvehostStart => exact tracks_note h nofun
  | connectionQueuedStart => exact tracks_note h nofun
  | connectionCreateStart => exact tracks_note h nofun
  | dnsResolvehostEnd => exact tracks_emitFrom h .dnsStart nofun nofun
  | connectionQueuedEnd => exact tracks_emitFrom h .poolStart nofun nofun
  | connectionCreateEnd => exact tracks_emitFrom h .connectStart nofun nofun
  | _ => exact h

/-- A request that starts has made no progress. -/
theorem tracks_start {ctx : RequestContext} (labelled : ctx.labels = some (client, operation)) :
    Tracks clock client operation ⟨false, 0⟩
      (sendSignal (buildTraceConfig clock true) (.fresh ctx) .requestStart) := by
  have fresh : (Tracing.fresh ctx).Sound clock client operation := by
    refine ⟨labelled, fun attr x noted => ?_, fun sample member => ?_⟩
    · cases noted
    · cases member
  have noted := sound_note fresh .reqStart
  refine ⟨⟨noted.labels, fun attr x at_attr => ?_, noted.samples⟩, rfl, rfl, rfl, rfl⟩
  by_cases first : attr = .firstChunk
  · subst first
    cases at_attr
  · exact noted.past attr x ((Function.update_of_ne first ..).symm.trans at_attr)

end PhaseTracer

/-! ### The order of the signals -/

namespace Progress

/-- Until the end of the request it matters whether a chunk was received, and after it no
more. -/
theorem run_of_not_mem {signals : List TraceSignal} (p : Progress)
    (noEnd : .requestEnd ∉ signals) : Runs.run step p signals =
      ⟨p.chunk || decide (.responseChunkReceived ∈ signals), p.bodyReads⟩ := by
  induction signals generalizing p with
  | nil => simp [Runs.run]
  | cons signal rest ih =>
      obtain ⟨other, noEnd⟩ := not_or.mp (mt List.mem_cons.mpr noEnd)
      refine (ih (p.step signal) noEnd).trans ?_
      cases signal with
      | requestEnd => exact absurd rfl other
      | _ => simp [step]

/-- The end is told once: the time of the body is emitted when a chunk came before. -/
theorem run_of_split {before after : List TraceSignal} (noEnd : .requestEnd ∉ before)
    (noEnd' : .requestEnd ∉ after) :
    Runs.run step ⟨false, 0⟩ (before ++ .requestEnd :: after) =
      ⟨decide (.responseChunkReceived ∈ before ++ after),
        if .responseChunkReceived ∈ before then 1 else 0⟩ := by
  rw [Runs.run_append, run_of_not_mem _ noEnd, Runs.run, List.foldl_cons, ← Runs.run,
    run_of_not_mem _ noEnd']
  by_cases received : .responseChunkReceived ∈ before <;> simp [step, received]

end Progress

/-- A signal that occurs once splits its list in one way. -/
theorem not_mem_of_count_eq_one {before after : List TraceSignal} {signal : TraceSignal}
    (once : (before ++ signal :: after).count signal = 1) : signal ∉ before ∧ signal ∉ after := by
  rw [List.count_append, List.count_cons_self] at once
  exact ⟨List.count_eq_zero.mp (by omega), List.count_eq_zero.mp (by omega)⟩

/-- The samples of a request whose end is told once, among at least one chunk and any other
signals, are complete exactly when a chunk comes before the end. -/
theorem phases_complete_iff (clock : Clock) {ctx : RequestContext} {client operation : String}
    (labelled : ctx.labels = some (client, operation)) {rest : List TraceSignal}
    (noStart : .requestStart ∉ rest) (once : rest.count .requestEnd = 1)
    (chunks : 1 ≤ rest.count .responseChunkReceived) :
    CompletePhases client operation (Tracing.run clock ctx (.requestStart :: rest)).samples ↔
      ∃ before after, rest = before ++ .requestEnd :: after ∧
        .responseChunkReceived ∈ before := by
  have tracked : Tracks clock client operation (Runs.run Progress.step ⟨false, 0⟩ rest)
      (Tracing.run clock ctx (.requestStart :: rest)) := by
    refine Runs.run_simulation (r := Tracks clock client operation)
      (fun p t signal member h => PhaseTracer.tracks_sendSignal h ?_)
      (PhaseTracer.tracks_start labelled)
    rintro rfl
    exact noStart member
  constructor
  · intro complete
    obtain ⟨before, after, rfl⟩ := List.append_of_mem (List.count_pos_iff.mp (once ▸ Nat.one_pos))
    obtain ⟨noEnd, noEnd'⟩ := not_mem_of_count_eq_one once
    refine ⟨before, after, rfl, ?_⟩
    by_contra late
    have read := tracked.bodyRead.symm.trans complete.bodyRead
    rw [Progress.run_of_split noEnd noEnd', if_neg late] at read
    cases read
  · rintro ⟨before, after, rfl, received⟩
    obtain ⟨noEnd, noEnd'⟩ := not_mem_of_count_eq_one once
    rw [Progress.run_of_split noEnd noEnd', if_pos received,
      decide_eq_true (List.mem_append_left after received)] at tracked
    exact ⟨tracked.ttfb, tracked.bodyRead, fun sample member _ =>
      tracked.sound.samples sample member⟩

namespace Sample

/-- The readings of a clock that ticks once between any two of them. -/
def ticks : Clock := ⟨fun n => n, Nat.mono_cast⟩

/-- The context the client sends with a request. -/
def labelledContext : RequestContext :=
  .dict [("client", some "catfact"), ("operation", some "fact")]

end Sample

theorem phases_complete_iff_sample :
    CompletePhases "catfact" "fact" (Tracing.run Sample.ticks Sample.labelledContext
        [.requestStart, .dnsResolvehostStart, .dnsResolvehostEnd, .responseChunkReceived,
          .requestEnd, .responseChunkReceived]).samples ↔
      ∃ before after, [TraceSignal.dnsResolvehostStart, .dnsResolvehostEnd, .responseChunkReceived,
          .requestEnd, .responseChunkReceived] = before ++ .requestEnd :: after ∧
        .responseChunkReceived ∈ before :=
  phases_complete_iff Sample.ticks rfl (by decide) rfl (by decide)

/-- The end of the request is told before its body arrives, and the time of the body is lost. -/
theorem phases_complete_fails :
    ¬ CompletePhases "catfact" "fact" (Tracing.run Sample.ticks Sample.labelledContext
      [.requestStart, .requestEnd, .responseChunkReceived]).samples := by
  intro complete
  have none : countPhase .bodyRead (Tracing.run Sample.ticks Sample.labelledContext
      [.requestStart, .requestEnd, .responseChunkReceived]).samples = 0 := by
    rfl
  rw [complete.bodyRead] at none
  cases none

end Asyncly
