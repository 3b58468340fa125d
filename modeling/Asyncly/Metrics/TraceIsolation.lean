import Asyncly.Lib.Interleaving
import Asyncly.Metrics.TraceConfig

/-!
# Concurrent traced requests

The requests of a session share the callbacks, the clock and the sink; each has a context of
its own. However their signals interleave, a request leaves the samples it would leave alone,
on a clock that reads the shared one at some of its instants.
-/

namespace Asyncly

open Interleaving

/-! ### Local callbacks -/

/-- What a callback does depends on the context of its request and on the times it reads, and
it adds to the samples. -/
def LocalCallback (callback : Clock → Tracing → Tracing) : Prop :=
  ∀ (clock clock' : Clock) (t t' : Tracing), t.ctx = t'.ctx →
    (∀ m, t.readings + m < (callback clock t).readings →
      clock.reading (t.readings + m) = clock'.reading (t'.readings + m)) →
    ∃ ctx d new, callback clock t = ⟨ctx, t.readings + d, t.samples ++ new⟩ ∧
      callback clock' t' = ⟨ctx, t'.readings + d, t'.samples ++ new⟩

namespace LocalCallback

variable {first second : Clock → Tracing → Tracing}

theorem readings_le (isLocal : LocalCallback first) (clock : Clock) (t : Tracing) :
    t.readings ≤ (first clock t).readings := by
  obtain ⟨ctx, d, new, same, -⟩ := isLocal clock clock t t rfl fun _ _ => rfl
  rw [same]
  exact Nat.le_add_right _ d

/-- A callback that does nothing. -/
theorem unchanged {t t' : Tracing} (same : t.ctx = t'.ctx) :
    ∃ ctx d new, t = ⟨ctx, t.readings + d, t.samples ++ new⟩ ∧
      t' = ⟨ctx, t'.readings + d, t'.samples ++ new⟩ := by
  refine ⟨t.ctx, 0, [], ?_, ?_⟩
  · rw [List.append_nil]
    rfl
  · rw [List.append_nil, same]
    rfl

theorem id : LocalCallback fun _ t => t := fun _ _ _ _ same _ => unchanged same

theorem comp (isLocal : LocalCallback first) (later : LocalCallback second) :
    LocalCallback fun clock t => second clock (first clock t) := by
  intro clock clock' t t' same reads
  dsimp only at reads ⊢
  obtain ⟨ctx, d, new, here, there⟩ := isLocal clock clock' t t' same fun m within =>
    reads m (within.trans_le (later.readings_le clock _))
  rw [here] at reads ⊢
  rw [there]
  obtain ⟨ctx', d', new', here', there'⟩ :=
    later clock clock' ⟨ctx, t.readings + d, t.samples ++ new⟩
      ⟨ctx, t'.readings + d, t'.samples ++ new⟩ rfl fun m within => by
        have read := reads (d + m) (by rwa [← Nat.add_assoc])
        rwa [← Nat.add_assoc, ← Nat.add_assoc] at read
  refine ⟨ctx', d + d', new ++ new', ?_, ?_⟩
  · rw [here', Nat.add_assoc, List.append_assoc]
  · rw [there', Nat.add_assoc, List.append_assoc]

end LocalCallback

namespace PhaseTracer

theorem local_setAttr (attr : TraceAttr) (value : Option Binary64) :
    LocalCallback fun _ => setAttr attr value := by
  rintro clock clock' ⟨ctx, r, samples⟩ ⟨_, r', samples'⟩ rfl -
  refine ⟨{ ctx with attrs := Function.update ctx.attrs attr value }, 0, [], ?_, ?_⟩
  · rw [List.append_nil]
    rfl
  · rw [List.append_nil]
    rfl

theorem local_note (attr : TraceAttr) : LocalCallback fun clock => note clock attr := by
  rintro clock clock' ⟨ctx, r, samples⟩ ⟨_, r', samples'⟩ rfl reads
  have read : clock.reading r = clock'.reading r' := reads 0 (Nat.lt_succ_self r)
  refine ⟨{ ctx with attrs := Function.update ctx.attrs attr (some (.finite (clock.reading r))) },
    1, [], ?_, ?_⟩
  · rw [List.append_nil]
    rfl
  · rw [List.append_nil, read]
    rfl

theorem local_emitFrom (attr : TraceAttr) (phase : Phase) :
    LocalCallback fun clock => emitFrom clock attr phase := by
  rintro clock clock' ⟨ctx, r, samples⟩ ⟨_, r', samples'⟩ rfl reads
  simp only [emitFrom, emit] at reads ⊢
  cases noted : ctx.attrs attr with
  | none => exact LocalCallback.unchanged rfl
  | some started =>
      cases labels : ctx.traceRequestCtx.labels with
      | none => exact LocalCallback.unchanged rfl
      | some pair =>
          rw [noted, labels] at reads
          have read : clock.reading r = clock'.reading r' := reads 0 (Nat.lt_succ_self r)
          exact ⟨ctx, 1, [⟨pair.1, pair.2, phase.label,
            (Binary64.finite (clock.reading r)).sub started⟩], rfl, by rw [read]; rfl⟩

/-- Only the context tells whether a chunk is the first one. -/
theorem local_onChunkReceived : LocalCallback onChunkReceived := by
  intro clock clock' t t' same reads
  simp only [onChunkReceived, same] at reads ⊢
  split
  · exact LocalCallback.unchanged same
  · next first =>
      rw [if_neg first] at reads
      exact ((local_note .firstChunk).comp (local_emitFrom .reqStart .ttfb)) clock clock' t t'
        same reads

/-- Whatever it is sent, the tracer is local. -/
theorem local_sendSignal (signal : TraceSignal) :
    LocalCallback fun clock t => sendSignal (buildTraceConfig clock true) t signal := by
  cases signal with
  | requestStart => exact (local_note .reqStart).comp (local_setAttr .firstChunk none)
  | dnsResolvehostStart => exact local_note .dnsStart
  | dnsResolvehostEnd => exact local_emitFrom .dnsStart .dns
  | connectionQueuedStart => exact local_note .poolStart
  | connectionQueuedEnd => exact local_emitFrom .poolStart .poolWait
  | connectionCreateStart => exact local_note .connectStart
  | connectionCreateEnd => exact local_emitFrom .connectStart .connect
  | responseChunkReceived => exact local_onChunkReceived
  | requestEnd => exact local_emitFrom .firstChunk .bodyRead
  | _ => exact LocalCallback.id

end PhaseTracer

/-- So is a whole request. -/
theorem local_run (signals : List TraceSignal) : LocalCallback fun clock t =>
    Runs.run (sendSignal (buildTraceConfig clock true)) t signals := by
  induction signals with
  | nil => exact LocalCallback.id
  | cons signal rest ih => exact (PhaseTracer.local_sendSignal signal).comp ih

/-! ### A session -/

/-- The requests of a session: the context of each, the number of readings of the one clock so
far, and the calls of the sink, each with the request whose callback has made it. -/
structure TracedSession (ι : Type) where
  ctxs : ι → TraceConfigCtx
  readings : ℕ
  samples : List (ι × PhaseSample)

variable {ι : Type} [DecidableEq ι]

namespace TracedSession

/-- A signal of one of the requests. -/
def step (clock : Clock) (s : TracedSession ι) (event : ι × TraceSignal) : TracedSession ι :=
  let t := sendSignal (buildTraceConfig clock true) ⟨s.ctxs event.1, s.readings, []⟩ event.2
  ⟨Function.update s.ctxs event.1 t.ctx, t.readings,
    s.samples ++ t.samples.map (Prod.mk event.1)⟩

/-- Requests before their first callbacks. -/
def fresh (contexts : ι → RequestContext) : TracedSession ι :=
  ⟨fun i => ⟨contexts i, fun _ => none⟩, 0, []⟩

end TracedSession

/-- The clock that is read at some instants of another one. -/
def Clock.readAt (clock : Clock) (instants : ℕ → ℕ) (increasing : StrictMono instants) : Clock :=
  ⟨fun n => clock.reading (instants n), clock.monotone.comp increasing.monotone⟩

/-- Instants that go on from some moment, with as many of the given ones as there were. -/
def resumeAt (instants : ℕ → ℕ) (count now n : ℕ) : ℕ :=
  if n < count then instants n else now + (n - count)

theorem strictMono_resumeAt {instants : ℕ → ℕ} (increasing : StrictMono instants) {count now : ℕ}
    (past : instants count ≤ now) : StrictMono (resumeAt instants count now) := by
  intro n m lt
  simp only [resumeAt]
  split
  · next before =>
      split
      · exact increasing lt
      · exact (increasing before).trans_le (past.trans (Nat.le_add_right now _))
  · next after => rw [if_neg (by omega)]; omega

/-- A request of a session that has come as far alone, on a clock that will go on with the
shared one. -/
structure AsAlone (clock : Clock) (s : TracedSession ι) (i : ι) (instants : ℕ → ℕ)
    (t : Tracing) : Prop where
  ctx : s.ctxs i = t.ctx
  samples : ofParty i s.samples = t.samples
  resumes : ∀ m, instants (t.readings + m) = s.readings + m

section Isolation

variable {clock : Clock} {s : TracedSession ι} {i : ι} {contexts : ι → RequestContext}

theorem AsAlone.now {instants : ℕ → ℕ} {t : Tracing} (h : AsAlone clock s i instants t) :
    instants t.readings = s.readings := h.resumes 0

/-- A signal of the request itself is met alike alone. -/
theorem AsAlone.own {instants : ℕ → ℕ} {increasing : StrictMono instants} {t : Tracing}
    (h : AsAlone clock s i instants t) (signal : TraceSignal) :
    AsAlone clock (s.step clock (i, signal)) i instants
      (sendSignal (buildTraceConfig (clock.readAt instants increasing) true) t signal) := by
  obtain ⟨ctx, d, new, shared, alone⟩ := PhaseTracer.local_sendSignal signal clock
    (clock.readAt instants increasing) ⟨s.ctxs i, s.readings, []⟩ t h.ctx fun m _ =>
      congrArg clock.reading (h.resumes m).symm
  dsimp only at shared alone
  rw [TracedSession.step, shared, alone]
  refine ⟨Function.update_self .., ?_, fun m => ?_⟩
  · rw [ofParty_append, ofParty_map_self, h.samples]
    rfl
  · rw [Nat.add_assoc, h.resumes, Nat.add_assoc]

theorem TracedSession.readings_le_step (clock : Clock) (s : TracedSession ι)
    (event : ι × TraceSignal) : s.readings ≤ (s.step clock event).readings :=
  (PhaseTracer.local_sendSignal event.2).readings_le clock ⟨s.ctxs event.1, s.readings, []⟩

/-- A signal of another request leaves this one where it was; the clock goes on from where the
other has left it. -/
theorem AsAlone.other {instants : ℕ → ℕ} {t : Tracing} (h : AsAlone clock s i instants t)
    {j : ι} (ne : j ≠ i) (signal : TraceSignal) :
    AsAlone clock (s.step clock (j, signal)) i
      (resumeAt instants t.readings (s.step clock (j, signal)).readings) t where
  ctx := (Function.update_of_ne ne.symm ..).trans h.ctx
  samples := by
    rw [TracedSession.step, ofParty_append, ofParty_map ne, List.append_nil]
    exact h.samples
  resumes m := by
    rw [resumeAt, if_neg (by omega), Nat.add_sub_cancel_left]

/-- The clock that goes on differently is read alike so far, so the request alone has come to
the same. -/
theorem Tracing.run_resumeAt {ctx : RequestContext} {signals : List TraceSignal}
    {instants : ℕ → ℕ} (increasing : StrictMono instants) {now : ℕ} {t : Tracing}
    (come : Tracing.run (clock.readAt instants increasing) ctx signals = t)
    (increasing' : StrictMono (resumeAt instants t.readings now)) :
    Tracing.run (clock.readAt (resumeAt instants t.readings now) increasing') ctx signals = t := by
  subst come
  obtain ⟨ctx', d, new, first, second⟩ := local_run signals (clock.readAt instants increasing)
    (clock.readAt _ increasing') (.fresh ctx) (.fresh ctx) rfl fun m within => by
      have early : 0 + m < (Tracing.run (clock.readAt instants increasing) ctx signals).readings :=
        within
      exact congrArg clock.reading (if_pos early).symm
  exact second.trans first.symm

/-- However the signals of concurrent requests interleave, a request has the context and leaves
the samples of its own signals alone, on a clock that reads the shared one at some of its
instants: no time of one request gets into a sample of another. -/
theorem TracedSession.isolated (clock : Clock) (contexts : ι → RequestContext)
    (events : List (ι × TraceSignal)) (i : ι) :
    let shared := Runs.run (TracedSession.step clock) (TracedSession.fresh contexts) events
    ∃ (instants : ℕ → ℕ) (increasing : StrictMono instants),
      let alone := Tracing.run (clock.readAt instants increasing) (contexts i) (ofParty i events)
      shared.ctxs i = alone.ctx ∧ ofParty i shared.samples = alone.samples := by
  suffices ∃ (instants : ℕ → ℕ) (increasing : StrictMono instants),
      AsAlone clock (Runs.run (TracedSession.step clock) (TracedSession.fresh contexts) events) i
        instants (Tracing.run (clock.readAt instants increasing) (contexts i) (ofParty i events)) by
    obtain ⟨instants, increasing, h⟩ := this
    exact ⟨instants, increasing, h.ctx, h.samples⟩
  -- The clock of the request alone depends on all that has happened, so the induction is on
  -- the last event.
  induction events using List.reverseRecOn with
  | nil => exact ⟨id, strictMono_id, rfl, rfl, fun m => rfl⟩
  | append_singleton earlier event ih =>
      obtain ⟨instants, increasing, h⟩ := ih
      obtain ⟨j, signal⟩ := event
      rw [Runs.run_append, ofParty_append]
      by_cases own : j = i
      · subst own
        refine ⟨instants, increasing, ?_⟩
        rw [ofParty_cons_self, ofParty_nil, Tracing.run, Runs.run_append]
        exact h.own signal
      · rw [ofParty_cons own, ofParty_nil, List.append_nil]
        have past := h.now.trans_le (TracedSession.readings_le_step clock _ (j, signal))
        have increasing' := strictMono_resumeAt increasing past
        refine ⟨_, increasing', ?_⟩
        rw [Tracing.run_resumeAt increasing rfl increasing']
        exact h.other own signal

end Isolation

end Asyncly
