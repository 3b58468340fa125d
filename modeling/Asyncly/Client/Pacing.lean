import Asyncly.Client.Backoff
import Asyncly.Client.RetryAfter
import Asyncly.Lib.Fallible
import Asyncly.Metrics.Metered

/-!
# The pace of a call

A call takes turns: a request, and a sleep before the next one. This is read off the log of
any run, whatever its attempts come to and whatever its observer does, with the reason of each
sleep. The default backoff then bounds the time a call can sleep in all.
-/

namespace Asyncly

variable {B V : Type}

/-- The requests of a part of a run, and its sleeps. -/
def requestsIn (log : List (Effect B)) : Nat := (log.filterMap Effect.request?).length

def sleepsIn (log : List (Effect B)) : Nat := (log.filterMap Effect.sleep?).length

@[simp] theorem requestsIn_append (first second : List (Effect B)) :
    requestsIn (first ++ second) = requestsIn first + requestsIn second := by
  rw [requestsIn, List.filterMap_append, List.length_append, requestsIn, requestsIn]

@[simp] theorem sleepsIn_append (first second : List (Effect B)) :
    sleepsIn (first ++ second) = sleepsIn first + sleepsIn second := by
  rw [sleepsIn, List.filterMap_append, List.length_append, sleepsIn, sleepsIn]

theorem requestsIn_eq_zero {log : List (Effect B)} (none : ∀ e ∈ log, e.request? = none) :
    requestsIn log = 0 := by
  rw [requestsIn, List.filterMap_eq_nil_iff.mpr none, List.length_nil]

theorem sleepsIn_eq_zero {log : List (Effect B)} (none : ∀ e ∈ log, e.sleep? = none) :
    sleepsIn log = 0 := by
  rw [sleepsIn, List.filterMap_eq_nil_iff.mpr none, List.length_nil]

/-- What the loop decides on after attempt `i`: the response that is retried, with its
`Retry-After` header, or the exception the attempt ended with, without its transport wrapper. -/
inductive DecidedOn (s : RetrySeries B V) (attempt : Async B (RequestResult V)) (i : Nat) :
    RetryContext → Option String → RetryReason → Prop
  | status {response : Response B} (session : s.world.session i = .ok response)
      (marked : attempt.result = .ok (.retryable
        ⟨s.responseContext i response, response.headers.get? "Retry-After"⟩)) :
      DecidedOn s attempt i (s.responseContext i response)
        (response.headers.get? "Retry-After") .status
  | exception {caught : Exn} (ended : attempt.result = .error caught)
      (isException : caught.isException = true) :
      DecidedOn s attempt i (s.failedContext i caught) none .exception

/-- A sleep after attempt `i` is due: `should_retry` holds for what the attempt came to, and the
delay is what `get_delay` computes from that. -/
structure SleepDue (s : RetrySeries B V) (attempt : Async B (RequestResult V)) (i : Nat)
    (context : RetryContext) (header : Option String) (reason : RetryReason) (delay : Delay) :
    Prop where
  decided : DecidedOn s attempt i context header reason
  retried : s.policy.shouldRetry context = true
  computed : s.delay i context header = .ok delay

/-- An effect in its place: a request comes when all earlier ones have been slept after and the
budget has one left, and a sleep comes once after each request, for a reason an observer was
told just before. -/
def InTurn (budget : Nat) (observer : Option RetryObserver)
    (due : Nat → RetryContext → RetryReason → Delay → Prop) (before : List (Effect B)) :
    Effect B → Prop
  | .request _ _ _ => requestsIn before = sleepsIn before ∧ requestsIn before < budget
  | .sleep delay => requestsIn before = sleepsIn before + 1 ∧ ∃ context reason,
      due (requestsIn before) context reason delay ∧
        ∀ observe ∈ observer, ∃ earlier,
          before = earlier ++ [.retryEvent ⟨.scheduled, context, delay, reason⟩]
  | _ => True

/-- Sleep and request in turns, in a call whose attempts are `once`: a sleep is due after the
attempt that was made last. -/
def Paced (rt : Runtime) (client : BaseHttpClient) (world : World B) (call : CallArgs B V)
    (once : RequestArgs B V → Async B (RequestResult V)) :
    List (Effect B) → Effect B → Prop :=
  InTurn (call.retry.elim 1 RetryPolicy.maxAttempts) call.retryObserver
    fun i context reason delay => ∃ policy ∈ call.retry, ∃ kwargs,
      normalizeAuthKwargs rt (client.injectProxy call.kwargs) client.proxyAuth = .ok kwargs ∧
      ∃ header, SleepDue (client.series rt world call policy kwargs)
        (once (client.attemptArgs rt world call kwargs i)) i context header reason delay

/-! ### One attempt -/

/-- What the loop relies on of an attempt: it makes one request and does not sleep, and what it
marks to be retried is its response, for which `should_retry` holds. -/
structure OneRequest (world : World B) (once : RequestArgs B V → Async B (RequestResult V)) :
    Prop where
  request : ∀ args, requestsIn (once args).log = 1
  awake : ∀ args, Awake (once args)
  marked : ∀ {args : RequestArgs B V} {policy : RetryPolicy} {context : RetryContext}
    {retryable : RetryableResponse}, args.retry = some policy → args.retryContext = some context →
      context.exception = none → (once args).result = .ok (.retryable retryable) →
        ∃ response, world.session context.attempt = .ok response ∧
          policy.shouldRetry (context.responseContext response.status) = true ∧
            retryable = ⟨context.responseContext response.status,
              response.headers.get? "Retry-After"⟩

section Attempts

variable {world : World B} {clientName : String} {handlers : Handlers (Entry B V)}

theorem requestsIn_requestOnce (args : RequestArgs B V) :
    requestsIn (requestOnce world clientName args handlers).log = 1 := by
  rw [requestsIn, filterMap_requestOnce (fun _ => Effect.request?_eq_none)]
  rfl

theorem requestOnce_marked {args : RequestArgs B V} {policy : RetryPolicy}
    {context : RetryContext} {retryable : RetryableResponse} (given : args.retry = some policy)
    (number : args.retryContext = some context) (fresh : context.exception = none)
    (marked : (requestOnce world clientName args handlers).result = .ok (.retryable retryable)) :
    ∃ response, world.session context.attempt = .ok response ∧
      policy.shouldRetry (context.responseContext response.status) = true ∧
        retryable = ⟨context.responseContext response.status,
          response.headers.get? "Retry-After"⟩ := by
  obtain ⟨response, session, intercepted⟩ := requestOnce_marker marked
  have should := shouldRetry_of_marker given number fresh intercepted
  rw [interceptResponse_of_retried given number fresh should] at intercepted
  rw [RequestArgs.slot, number] at session
  exact ⟨response, session, should, (Option.some.inj (Except.ok.inj intercepted)).symm⟩

/-- The attempt of the base client. -/
theorem oneRequest_baseAttempt (world : World B) (clientName : String) :
    OneRequest (V := V) world (baseAttempt world clientName) where
  request _ := requestsIn_requestOnce _
  awake _ := requestOnce_awake _ _ _ _
  marked := requestOnce_marked

/-- An instrumented attempt, which does the same between the calls of its sink. -/
theorem oneRequest_instrumentedAttempt {metrics : MetricsState}
    (honours : metrics.metricsSink.Honours metrics.sinkHasLifecycle) (world : World B)
    (clientName : String) : OneRequest (V := V) world
      (instrumentedAttempt metrics metrics.sinkHasLifecycle world clientName) := by
  have starts (frame : Frame) : ∀ e ∈ (startCalls metrics.sinkHasLifecycle frame : List (Effect B)),
      e.request? = none ∧ e.sleep? = none := by
    cases metrics.sinkHasLifecycle <;> simp [startCalls, Effect.request?, Effect.sleep?]
  have ends (frame : Frame) (observation : Observation) :
      ∀ e ∈ (endCalls metrics.sinkHasLifecycle frame observation : List (Effect B)),
        e.request? = none ∧ e.sleep? = none := by
    cases metrics.sinkHasLifecycle <;> simp [endCalls, Effect.request?, Effect.sleep?]
  have sound {args : RequestArgs B V} {frame : Frame}
      (metered : metrics.frame clientName args = some frame) :
      frame.sink.Honours metrics.sinkHasLifecycle := (frame_sink metered).1 ▸ honours
  constructor
  · intro args
    cases metered : metrics.frame clientName args with
    | none =>
        rw [instrumentedAttempt, metered]
        exact requestsIn_requestOnce _
    | some frame =>
        rw [instrumentedAttempt_eq (sound metered) metered]
        dsimp only
        rw [requestsIn_append, requestsIn_append, meteredRequest, requestsIn_requestOnce,
          requestsIn_eq_zero fun e he => (starts frame e he).1,
          requestsIn_eq_zero fun e he => (ends frame _ e he).1]
  · intro args
    cases metered : metrics.frame clientName args with
    | none =>
        rw [instrumentedAttempt, metered]
        exact requestOnce_awake _ _ _ _
    | some frame =>
        rw [instrumentedAttempt_eq (sound metered) metered]
        intro e member
        rcases List.mem_append.mp member with start | member
        · exact (starts frame e start).2
        rcases List.mem_append.mp member with request | finish
        · exact requestOnce_awake _ _ _ _ e request
        · exact (ends frame _ e finish).2
  · intro args policy context retryable given number fresh marked
    cases metered : metrics.frame clientName args with
    | none =>
        rw [instrumentedAttempt, metered] at marked
        exact requestOnce_marked given number fresh marked
    | some frame =>
        rw [instrumentedAttempt_eq (sound metered) metered] at marked
        have inner : RequestArgs.retry { args with
            kwargs := metrics.traceKwargs frame.labels args.kwargs } = some policy := given
        exact requestOnce_marked inner number fresh marked

end Attempts

/-! ### One iteration -/

/-- Iteration `i` of the loop around any attempt. -/
def RetrySeries.iterationOf (s : RetrySeries B V)
    (once : RequestArgs B V → Async B (RequestResult V)) (i : Nat) : Async B (Option V) :=
  retryAttempt s.rt once s.world s.policy s.args s.replayable i

section Iteration

variable {s : RetrySeries B V} {once : RequestArgs B V → Async B (RequestResult V)}
  {context : RetryContext} {observer : Option RetryObserver}

theorem notifyRetryObserver_log (observer : Option RetryObserver) (event : RetryEvent) :
    (notifyRetryObserver observer event : Async B Unit).log = observed observer [event] := by
  cases observer with
  | none => rfl
  | some observe => rfl

/-- The loop waits for its next attempt, once the delay is computed. -/
def waitFor (observer : Option RetryObserver) (context : RetryContext) (reason : RetryReason)
    (computed : Except Exn Delay) (slept : Except Exn Unit) : Async B (Option V) := do
  let delay ← Traced.ofExcept computed
  notifyRetryObserver observer ⟨.scheduled, context, delay, reason⟩
  Traced.emit (.sleep delay)
  Traced.ofExcept slept
  pure none

/-- What an iteration does after its attempt: it leaves the loop without a sleep, or it sleeps
for a delay that is due and was announced. -/
inductive Aftermath (observer : Option RetryObserver)
    (due : RetryContext → RetryReason → Delay → Prop) :
    List (Effect B) → Option (Except Exn V) → Prop
  | leaves {log : List (Effect B)} {exit : Except Exn V} (loop : ∀ e ∈ log, e.OfLoop)
      (awake : ∀ e ∈ log, e.sleep? = none) : Aftermath observer due log (some exit)
  | sleeps {context : RetryContext} {delay : Delay} {exit : Option (Except Exn V)}
      (reason : RetryReason) (justified : due context reason delay) : Aftermath observer due
        (observed observer [⟨.scheduled, context, delay, reason⟩] ++ [.sleep delay]) exit

variable {due : RetryContext → RetryReason → Delay → Prop}

theorem aftermath_waitFor (reason : RetryReason) {computed : Except Exn Delay}
    (justified : ∀ delay, computed = .ok delay → due context reason delay)
    (slept : Except Exn Unit) :
    Aftermath observer due
      (waitFor observer context reason computed slept : Async B (Option V)).log
      (waitFor observer context reason computed slept : Async B (Option V)).exit? := by
  cases computed with
  | error exc => exact .leaves (by simp [waitFor]) (by simp [waitFor])
  | ok delay =>
      have log := notifyRetryObserver_log (B := B) observer ⟨.scheduled, context, delay, reason⟩
      cases told : (notifyRetryObserver observer ⟨.scheduled, context, delay, reason⟩ :
          Async B Unit).result with
      | error exc =>
          rw [waitFor, Traced.ofExcept_ok_bind, Traced.bind_of_error _ told]
          exact .leaves (only_notifyRetryObserver _ _) (notifyRetryObserver_awake _ _)
      | ok _ =>
          have quiet : (Traced.ofExcept slept >>= fun _ => pure none :
              Async B (Option V)).log = [] := by
            cases slept <;> rfl
          rw [waitFor, Traced.ofExcept_ok_bind, Traced.bind_of_ok _ told, log, Traced.emit_bind]
          dsimp only
          rw [quiet]
          exact .sleeps reason (justified delay rfl)

theorem aftermath_nil (exit : Except Exn V) :
    Aftermath observer due ([] : List (Effect B)) (some exit) :=
  .leaves (by simp) (by simp)

/-- After an exception the loop leaves, or waits for the delay of its context. -/
theorem aftermath_failure {caught : Exn} {i : Nat}
    (justified : ∀ delay, s.policy.shouldRetry (s.failedContext i caught) = true →
      s.delay i (s.failedContext i caught) none = .ok delay →
        due (s.failedContext i caught) .exception delay) :
    let run : Async B (Option V) := do
      let delay ← retryExceptionDelay s.rt s.policy (s.context i) observer caught (s.world.clock i)
      Traced.emit (.sleep delay)
      Traced.ofExcept (s.world.sleep i)
      pure none
    Aftermath observer due run.log run.exit? := by
  intro run
  have failed : (s.context i).withException caught.unwrapObservableTransportError =
      .ok (s.failedContext i caught) := RetryContext.withException_ok rfl _
  cases should : s.policy.shouldRetry (s.failedContext i caught) with
  | true =>
      obtain ⟨matched, unsuppressed⟩ := (s.policy.shouldRetry_iff _).mp should
      have waits : run = waitFor observer (s.failedContext i caught) .exception
          (s.delay i (s.failedContext i caught) none) (s.world.sleep i) := by
        simp only [run, retryExceptionDelay, failed, Traced.ofExcept_ok_bind, matched,
          unsuppressed, if_true, waitFor, RetrySeries.delay, bind_assoc, pure_bind]
      rw [waits]
      exact aftermath_waitFor .exception (fun delay => justified delay should) _
  | false =>
      cases ended : (retryExceptionDelay s.rt s.policy (s.context i) observer caught
          (s.world.clock i) : Async B Delay).result with
      | ok delay =>
          have retried : s.policy.shouldRetry (s.failedContext i caught) = true :=
            shouldRetry_of_retryExceptionDelay rfl ended
          rw [retried] at should
          cases should
      | error exc =>
          rw [show run = _ from Traced.bind_of_error _ ended]
          exact .leaves (only_retryExceptionDelay s.rt _ _ _ _ _)
            (retryExceptionDelay_awake _ _ _ _ _ _)

/-- An iteration is its attempt and what it does after it. -/
theorem iterationOf_aftermath (one : OneRequest s.world once) {i : Nat} (h₁ : 1 ≤ i)
    (h₂ : i ≤ s.policy.maxAttempts) :
    ∃ rest, (s.iterationOf once i).log = (once (s.attemptArgs i)).log ++ rest ∧
      Aftermath s.args.retryObserver (fun context reason delay =>
          ∃ header, SleepDue s (once (s.attemptArgs i)) i context header reason delay) rest
        (s.iterationOf once i).exit? := by
  have number : (s.context i).attempt = i := RetrySeries.context_attempt h₁ h₂
  rw [RetrySeries.iterationOf, retryAttempt, RetrySeries.init_context h₁ h₂,
    Traced.ofExcept_ok_bind, RetrySeries.attemptArgs]
  cases ended : (once { s.args with
      retry := some s.policy, retryContext := some (s.context i) }).result with
  | error caught =>
      cases isException : caught.isException with
      | false =>
          rw [Traced.catching_of_uncaught ended isException]
          exact ⟨[], (List.append_nil _).symm, aftermath_nil _⟩
      | true =>
          rw [Traced.catching_of_caught ended isException, Traced.mk_ok_bind]
          refine ⟨_, rfl, aftermath_failure fun delay should computed => ⟨none, ?_⟩⟩
          exact ⟨.exception ended isException, should, computed⟩
  | ok outcome =>
      rw [Traced.catching_of_ok ended, Traced.mk_ok_bind]
      cases outcome with
      | value v => exact ⟨[], rfl, aftermath_nil _⟩
      | retryable retryable =>
          obtain ⟨response, session, should, rfl⟩ := one.marked rfl rfl rfl ended
          rw [number] at session
          refine ⟨_, rfl, aftermath_waitFor .status (fun delay computed => ?_) _⟩
          exact ⟨_, .status session ended, should, computed⟩

end Iteration

/-! ### The call -/

section Turns

variable {bound : Nat} {observer : Option RetryObserver}
  {due : Nat → RetryContext → RetryReason → Delay → Prop} {past log : List (Effect B)}

theorem InTurn.mono {due' : Nat → RetryContext → RetryReason → Delay → Prop} {e : Effect B}
    (weaker : ∀ i context reason delay, due i context reason delay →
      due' i context reason delay) (h : InTurn bound observer due past e) :
    InTurn bound observer due' past e := by
  cases e with
  | sleep delay =>
      obtain ⟨turn, context, reason, justified, told⟩ := h
      exact ⟨turn, context, reason, weaker _ _ _ _ justified, told⟩
  | _ => exact h

/-- The request of an attempt is in its place when it is the turn of a request. -/
theorem each_inTurn_attempt {run : Async B (RequestResult V)} (single : requestsIn run.log = 1)
    (awake : Awake run) (turn : requestsIn past = sleepsIn past)
    (budget : requestsIn past < bound) :
    Traced.Each (fun before e => InTurn bound observer due (past ++ before) e) run.log := by
  intro before e after split
  have member : ∀ e' ∈ before ++ [e], e'.sleep? = none := by
    intro e' inside
    apply awake
    rw [split, List.append_cons]
    exact List.mem_append_left after inside
  cases e with
  | request method url kwargs =>
      have first : requestsIn before = 0 := by
        rw [split, List.append_cons, requestsIn_append, requestsIn_append] at single
        have one : requestsIn [Effect.request (B := B) method url kwargs] = 1 := rfl
        omega
      have asleep : sleepsIn before = 0 :=
        sleepsIn_eq_zero fun e' inside => member e' (List.mem_append_left _ inside)
      refine ⟨?_, ?_⟩
      · rw [requestsIn_append, sleepsIn_append, first, asleep, turn]
      · rw [requestsIn_append, first]
        exact budget
  | sleep delay => exact absurd (member (.sleep delay) (by simp)) nofun
  | _ => trivial

theorem requestsIn_observed (observer : Option RetryObserver) (events : List RetryEvent) :
    requestsIn (observed observer events : List (Effect B)) = 0 := by
  rw [requestsIn, filterMap_observed fun _ => rfl, List.length_nil]

theorem sleepsIn_observed (observer : Option RetryObserver) (events : List RetryEvent) :
    sleepsIn (observed observer events : List (Effect B)) = 0 := by
  rw [sleepsIn, filterMap_observed fun _ => rfl, List.length_nil]

/-- The sleep after an attempt is in its place when it is the turn of a sleep. -/
theorem Aftermath.each_inTurn {exit : Option (Except Exn V)}
    (turn : requestsIn past = sleepsIn past + 1)
    (h : Aftermath observer (due (requestsIn past)) log exit) :
    Traced.Each (fun before e => InTurn bound observer due (past ++ before) e) log := by
  cases h with
  | leaves loop awake =>
      intro before e after split
      have member : e ∈ log := by simp [split]
      cases e with
      | request _ _ _ => exact (loop _ member).elim
      | sleep _ => exact absurd (awake _ member) nofun
      | _ => trivial
  | @sleeps context delay exit reason justified =>
      rw [Traced.each_append, Traced.each_singleton, List.append_nil]
      constructor
      · intro before e after split
        have member : e ∈ (observed observer
            [⟨.scheduled, context, delay, reason⟩] : List (Effect B)) := by simp [split]
        obtain ⟨event, rfl⟩ : ∃ event, e = .retryEvent event := by
          rw [observed] at member
          split at member
          · exact ⟨_, List.mem_singleton.mp member⟩
          · cases member
        trivial
      · have requests : requestsIn (past ++ observed observer
            [⟨.scheduled, context, delay, reason⟩]) = requestsIn past := by
          rw [requestsIn_append, requestsIn_observed, Nat.add_zero]
        refine ⟨?_, context, reason, requests ▸ justified, fun observe given => ?_⟩
        · rw [requests, sleepsIn_append, sleepsIn_observed, Nat.add_zero, turn]
        · have told : (observed observer [⟨.scheduled, context, delay, reason⟩] :
              List (Effect B)) = [.retryEvent ⟨.scheduled, context, delay, reason⟩] := by
            rw [given]
            rfl
          exact ⟨past, by rw [told]⟩

theorem Aftermath.requestsIn_eq_zero {due : RetryContext → RetryReason → Delay → Prop}
    {exit : Option (Except Exn V)} (h : Aftermath observer due log exit) : requestsIn log = 0 := by
  cases h with
  | leaves loop awake =>
      refine Asyncly.requestsIn_eq_zero fun e member => ?_
      exact Effect.request?_eq_none (.inl (loop e member))
  | sleeps reason justified =>
      rw [requestsIn_append, requestsIn_observed]
      rfl

/-- The loop goes on after a sleep only. -/
theorem Aftermath.sleepsIn_eq_one {due : RetryContext → RetryReason → Delay → Prop}
    (h : Aftermath (V := V) observer due log none) :
    sleepsIn log = 1 := by
  cases h with
  | sleeps reason justified =>
      rw [sleepsIn_append, sleepsIn_observed]
      rfl

end Turns

section Iterations

variable {s : RetrySeries B V} {once : RequestArgs B V → Async B (RequestResult V)} {k : Nat}
  (one : OneRequest s.world once) (budget : k ≤ s.policy.maxAttempts)
  (continues : ∀ j, 1 ≤ j → j < k → (s.iterationOf once j).exit? = none)

include one budget continues

/-- As many iterations as went on have made as many requests, and slept as often. -/
theorem counts_iterations {j : Nat} (earlier : j < k) :
    let log := (List.range' 1 j).flatMap fun j => (s.iterationOf once j).log
    requestsIn log = j ∧ sleepsIn log = j := by
  intro log
  induction j with
  | zero => exact ⟨rfl, rfl⟩
  | succ j ih =>
      obtain ⟨requests, sleeps⟩ := ih (by omega)
      have within : j + 1 ≤ s.policy.maxAttempts := earlier.le.trans budget
      obtain ⟨rest, block, aftermath⟩ := iterationOf_aftermath one (Nat.le_add_left 1 j) within
      rw [continues (j + 1) (Nat.le_add_left 1 j) earlier] at aftermath
      rw [show log = _ from Traced.flatMap_range'_succ _ j, block, requestsIn_append,
        requestsIn_append, sleepsIn_append, sleepsIn_append, requests, sleeps, one.request,
        aftermath.requestsIn_eq_zero, aftermath.sleepsIn_eq_one,
        sleepsIn_eq_zero fun e member => one.awake _ e member]
      exact ⟨rfl, by rw [Nat.zero_add]⟩

/-- Their requests and sleeps take turns. -/
theorem each_inTurn_iterations :
    Traced.Each (InTurn s.policy.maxAttempts s.args.retryObserver
        fun i context reason delay =>
          ∃ header, SleepDue s (once (s.attemptArgs i)) i context header reason delay)
      ((List.range' 1 k).flatMap fun j => (s.iterationOf once j).log) := by
  refine Traced.each_flatMap_range' fun j earlier => ?_
  obtain ⟨requests, sleeps⟩ := counts_iterations one budget continues earlier
  have within : j + 1 ≤ s.policy.maxAttempts := lt_of_lt_of_le earlier budget
  obtain ⟨rest, block, aftermath⟩ := iterationOf_aftermath one (Nat.le_add_left 1 j) within
  rw [block, Traced.each_append]
  constructor
  · refine each_inTurn_attempt (one.request _) (one.awake _) (requests.trans sleeps.symm) ?_
    rw [requests]
    exact within
  · simp only [← List.append_assoc]
    have made : requestsIn ((List.range' 1 j).flatMap (fun j => (s.iterationOf once j).log) ++
        (once (s.attemptArgs (j + 1))).log) = j + 1 := by
      rw [requestsIn_append, requests, one.request]
    refine Aftermath.each_inTurn ?_ (by rw [made]; exact aftermath)
    rw [made, sleepsIn_append, sleeps, sleepsIn_eq_zero fun e member => one.awake _ e member]

end Iterations

section Calls

variable {rt : Runtime} {world : World B} {once : RequestArgs B V → Async B (RequestResult V)}

/-- Whatever an attempt is, when it makes one request the call is paced. -/
theorem each_paced_makeReq (client : BaseHttpClient) (one : OneRequest world once)
    (call : CallArgs B V) :
    Traced.Each (Paced rt client world call once) (makeReq rt client once world call).log := by
  rw [makeReq, Paced]
  cases prepared : normalizeAuthKwargs rt (client.injectProxy call.kwargs) client.proxyAuth with
  | error exc => exact Traced.each_nil
  | ok kwargs =>
      rw [Traced.ofExcept_ok_bind]
      cases retry : call.retry with
      | none =>
          exact each_inTurn_attempt (one.request _) (one.awake _) (rfl : requestsIn [] = _)
            Nat.one_pos
      | some policy =>
          dsimp only
          rw [bind_pure_comp, Traced.map_eq]
          let s := client.series rt world call policy kwargs
          have once' : OneRequest s.world once := one
          obtain ⟨k, -, budget, continues, log⟩ := Traced.forLoop_range'_log_of_continues
            (s.iterationOf once) policy.maxAttempts_pos (rfl : (Traced.raise
              (.runtimeError "retry loop exited without a result") : Async B V).log = [])
          change Traced.Each _ (Traced.forLoop (s.iterationOf once) _ _).log
          rw [log]
          intro before e after split
          refine (each_inTurn_iterations once' budget continues before e after split).mono ?_
          rintro i context reason delay ⟨header, due⟩
          refine ⟨policy, rfl, kwargs, rfl, header, ?_⟩
          simpa only [BaseHttpClient.attemptArgs, retry] using due

/-- Every call takes turns, that of the base client and that of an instrumented one, with
whatever sink: it sleeps once after each request that is followed by another one, and every
sleep is due. -/
theorem BaseHttpClient.makeReq_paced (rt : Runtime) (client : BaseHttpClient) (world : World B)
    (call : CallArgs B V) :
    Traced.Each (Paced rt client world call (baseAttempt world client.clientName))
        (client.makeReq rt world call).log ∧
      ∀ (metrics : MetricsState) (sink : Sink) (routeResolver : Option RouteResolver),
        let enabled := metrics.enableMetrics sink routeResolver
        Traced.Each (Paced rt client world call
            (instrumentedAttempt enabled enabled.sinkHasLifecycle world client.clientName))
          (instrumentedMakeReq rt enabled client world call).log := by
  refine ⟨each_paced_makeReq client (oneRequest_baseAttempt world client.clientName) call,
    fun metrics sink routeResolver => ?_⟩
  have honours : (metrics.enableMetrics sink routeResolver).metricsSink.Honours
      (metrics.enableMetrics sink routeResolver).sinkHasLifecycle := sink.honours_detectLifecycle
  exact each_paced_makeReq client (oneRequest_instrumentedAttempt honours world client.clientName)
    call

end Calls

/-! ### The time a call sleeps -/

section Sleeps

variable {rt : Runtime} {world : World B} {policy : RetryPolicy} {call : CallArgs B V}
  {client : BaseHttpClient} {uniform : RetryContext → Binary64 → Binary64 → Binary64}

theorem Delay.eq_finite_of_check {message : String} {x : Binary64} {delay : Delay}
    (checked : check message x = .ok delay) : x = .finite delay.seconds := by
  cases x with
  | finite v =>
      rw [check] at checked
      split at checked
      · exact congrArg _ (congrArg seconds (Except.ok.inj checked))
      · cases checked
  | _ => cases checked

/-- A delay is the one a header asks for, or that of the backoff. -/
theorem RetryPolicy.getDelay_cases {context : RetryContext} {header : Option String}
    {now : DateTime} {delay : Delay}
    (computed : policy.getDelay rt context header now = .ok delay) :
    (policy.respectRetryAfter = true ∧ ∃ text, header = some text ∧
      parseRetryAfter rt text now = .ok (some (.finite delay.seconds))) ∨
    policy.backoff context = .ok (.finite delay.seconds) := by
  have ofBackoff (fallback : (policy.backoff context >>= Delay.check
      "retry delay must be a finite non-negative number") = .ok delay) :
      policy.backoff context = .ok (.finite delay.seconds) := by
    obtain ⟨x, value, checked⟩ := Fallible.bind_eq_ok.mp fallback
    rw [value, Delay.eq_finite_of_check checked]
  cases header with
  | none =>
      rw [getDelay_none] at computed
      exact .inr (ofBackoff computed)
  | some text =>
      cases respected : policy.respectRetryAfter with
      | false =>
          rw [getDelay_of_ignored respected] at computed
          exact .inr (ofBackoff computed)
      | true =>
          cases parsed : parseRetryAfter rt text now with
          | error exc =>
              rw [getDelay_of_error respected parsed] at computed
              cases computed
          | ok requested =>
              cases requested with
              | none =>
                  rw [getDelay_of_fallback (.inr parsed)] at computed
                  exact .inr (ofBackoff computed)
              | some x =>
                  rw [getDelay_of_header respected parsed] at computed
                  rw [Delay.eq_finite_of_check computed] at parsed
                  exact .inl ⟨rfl, text, rfl, parsed⟩

/-- The server has asked for this delay after attempt `i`, and the policy respects it. -/
def AskedFor (rt : Runtime) (world : World B) (policy : RetryPolicy) (i : Nat) (delay : Delay) :
    Prop :=
  policy.respectRetryAfter = true ∧ ∃ response text, world.session i = .ok response ∧
    response.headers.get? "Retry-After" = some text ∧
      parseRetryAfter rt text (world.clock i) = .ok (some (.finite delay.seconds))

/-- With the default backoff, a sleep nobody asked for stays under the cap of its attempt. -/
theorem SleepDue.le_jitterCap {s : RetrySeries B V} {attempt : Async B (RequestResult V)}
    {i : Nat} {context : RetryContext} {header : Option String} {reason : RetryReason}
    {delay : Delay} (contract : UniformContract uniform)
    (jitter : s.policy.backoff = fullJitterBackoff uniform)
    (due : SleepDue s attempt i context header reason delay)
    (unasked : ¬ AskedFor s.rt s.world s.policy i delay) :
    delay.seconds ≤ jitterCap context.attempt := by
  rcases RetryPolicy.getDelay_cases due.computed with ⟨respected, text, given, parsed⟩ | value
  · rcases due.decided with ⟨session, -⟩ | -
    · exact absurd ⟨respected, _, text, session, given, parsed⟩ unasked
    · cases given
  · rw [jitter] at value
    by_cases small : context.attempt ≤ 1024
    · obtain ⟨v, drawn, -, bound⟩ := fullJitterBackoff_of_le contract small
      rw [drawn, Except.ok.injEq, Binary64.finite.injEq] at value
      rwa [← value]
    · obtain ⟨exc, raised⟩ : ∃ exc, fullJitterBackoff uniform context = .error exc :=
        fullJitterBackoff_of_lt (not_le.mp small)
      rw [raised] at value
      cases value

/-- A sleep that is due comes before the end of the budget. -/
theorem SleepDue.attempt_lt {s : RetrySeries B V} {attempt : Async B (RequestResult V)} {i : Nat}
    {context : RetryContext} {header : Option String} {reason : RetryReason} {delay : Delay}
    (due : SleepDue s attempt i context header reason delay) (h₁ : 1 ≤ i) :
    i < s.policy.maxAttempts ∧ context.attempt = i := by
  have same : context.attempt = (s.context i).attempt := by
    cases due.decided <;> rfl
  have early : (s.context i).attempt < s.policy.maxAttempts := by
    by_contra spent
    have never : s.policy.shouldRetry context = false :=
      s.policy.shouldRetry_of_budget (same ▸ not_lt.mp spent)
    rw [due.retried] at never
    cases never
  rw [same]
  simp only [RetrySeries.context] at early ⊢
  omega

/-- The sleeps of a call, in order: each comes before the end of the budget and is due. -/
theorem exists_sleepDue {run : Async B (RequestResult V)}
    {once : RequestArgs B V → Async B (RequestResult V)} (retry : call.retry = some policy)
    (paced : Traced.Each (Paced rt client world call once) run.log) {n : Nat} {delay : Delay}
    (slept : (run.log.filterMap Effect.sleep?)[n]? = some delay) :
    ∃ kwargs attempt context header reason,
      SleepDue (client.series rt world call policy kwargs) attempt (n + 1) context header reason
        delay := by
  obtain ⟨before, e, after, split, seen, count⟩ := Traced.exists_of_filterMap_getElem? slept
  obtain rfl : e = .sleep delay := by
    cases e with
    | sleep other => exact congrArg _ (Option.some.inj seen)
    | _ => cases seen
  obtain ⟨turn, context, reason, ⟨policy', given, kwargs, -, header, due⟩, -⟩ :=
    paced before _ after split
  obtain rfl : policy' = policy := Option.some.inj (given.symm.trans retry)
  have number : requestsIn before = n + 1 := turn.trans (congrArg (· + 1) count)
  rw [number] at due
  exact ⟨kwargs, _, context, header, reason, due⟩

theorem sum_le_of_getElem? {l : List ℚ} {cap : ℕ → ℚ}
    (bounded : ∀ n x, l[n]? = some x → x ≤ cap n) : l.sum ≤ ∑ n ∈ Finset.range l.length, cap n := by
  induction l using List.reverseRecOn with
  | nil => simp
  | append_singleton l last ih =>
      rw [List.sum_append, List.sum_singleton, List.length_append, List.length_singleton,
        Finset.sum_range_succ]
      refine add_le_add (ih fun n x found => bounded n x ?_) (bounded l.length last (by simp))
      rw [List.getElem?_append_left (List.getElem?_eq_some_iff.mp found).1, found]

/-- With the default backoff a call sleeps less often than its budget has attempts. What nobody
asked for is bounded sleep by sleep, and without a server that asks so is the time in all. -/
theorem BaseHttpClient.makeReq_sleeps_le (contract : UniformContract uniform)
    (jitter : policy.backoff = fullJitterBackoff uniform) (retry : call.retry = some policy) :
    let sleeps := (client.makeReq rt world call).log.filterMap Effect.sleep?
    sleeps.length < policy.maxAttempts ∧
      (∀ n delay, sleeps[n]? = some delay →
        delay.seconds ≤ jitterCap (n + 1) ∨ AskedFor rt world policy (n + 1) delay) ∧
      ((∀ n delay, ¬ AskedFor rt world policy n delay) → (sleeps.map Delay.seconds).sum ≤
        ∑ n ∈ Finset.range (policy.maxAttempts - 1), jitterCap (n + 1)) := by
  intro sleeps
  have paced : Traced.Each (Paced rt client world call (baseAttempt world client.clientName))
      (client.makeReq rt world call).log :=
    each_paced_makeReq client (oneRequest_baseAttempt world client.clientName) call
  have bounded (n : ℕ) (delay : Delay) (slept : sleeps[n]? = some delay) :
      delay.seconds ≤ jitterCap (n + 1) ∨ AskedFor rt world policy (n + 1) delay := by
    obtain ⟨kwargs, attempt, context, header, reason, due⟩ := exists_sleepDue retry paced slept
    by_cases asked : AskedFor rt world policy (n + 1) delay
    · exact .inr asked
    · rw [← (due.attempt_lt (Nat.le_add_left 1 n)).2]
      exact .inl (due.le_jitterCap contract jitter asked)
  have few : sleeps.length < policy.maxAttempts := by
    cases count : sleeps.length with
    | zero => exact policy.maxAttempts_pos
    | succ n =>
        have within : n < sleeps.length := by omega
        have last : sleeps[n]? = some sleeps[n] := List.getElem?_eq_getElem within
        obtain ⟨kwargs, attempt, context, header, reason, due⟩ := exists_sleepDue retry paced last
        have early : n + 1 < policy.maxAttempts := (due.attempt_lt (Nat.le_add_left 1 n)).1
        omega
  refine ⟨few, bounded, fun unasked => ?_⟩
  have total : (sleeps.map Delay.seconds).sum ≤
      ∑ n ∈ Finset.range (sleeps.map Delay.seconds).length, jitterCap (n + 1) := by
    apply sum_le_of_getElem?
    intro n x found
    rw [List.getElem?_map] at found
    obtain ⟨delay, slept, rfl⟩ := Option.map_eq_some_iff.mp found
    exact (bounded n delay slept).resolve_right (unasked (n + 1) delay)
  rw [List.length_map] at total
  refine total.trans (Finset.sum_le_sum_of_subset_of_nonneg ?_ fun n _ _ => jitterCap_nonneg _)
  exact Finset.range_subset_range.mpr (Nat.le_sub_one_of_lt few)

/-- Three attempts at a service that is away and asks for nothing. -/
theorem BaseHttpClient.makeReq_sleeps_le_sample :
    let sleeps := ((⟨"items", none, none⟩ : BaseHttpClient).makeReq Sample.runtime
      Sample.unavailable (Sample.jitterCall 2)).log.filterMap Effect.sleep?
    sleeps.length < (Sample.jitterPolicy 2).maxAttempts ∧
      (∀ n delay, sleeps[n]? = some delay → delay.seconds ≤ jitterCap (n + 1) ∨
        AskedFor Sample.runtime Sample.unavailable (Sample.jitterPolicy 2) (n + 1) delay) ∧
      ((∀ n delay, ¬ AskedFor Sample.runtime Sample.unavailable (Sample.jitterPolicy 2) n delay) →
        (sleeps.map Delay.seconds).sum ≤
          ∑ n ∈ Finset.range ((Sample.jitterPolicy 2).maxAttempts - 1), jitterCap (n + 1)) :=
  BaseHttpClient.makeReq_sleeps_le Sample.uniformContract rfl rfl

end Sleeps

end Asyncly
