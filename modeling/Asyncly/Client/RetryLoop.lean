import Asyncly.Client.RetryAttempt

/-!
# The retry loop refines `should_retry`

The public predicate says which outcomes are eligible for another attempt. The
loop never asks it: it decides by `_matches_outcome` and `_suppression_reason` in
two places. The run below is described by `should_retry` alone, and the loop is
shown to make that run.
-/

namespace Asyncly

variable {B V : Type}

namespace RetrySeries

variable (s : RetrySeries B V)

/-- The context of the exception of attempt `i`, if it raised one. -/
def failureContext (i : Nat) : Option RetryContext :=
  match s.attemptEnd i with
  | .error exc => some (s.failedContext i exc)
  | .ok _ => none

/-- The context attempt `i` is judged by: that of its response when `should_retry`
holds for it, else that of its exception. -/
def decidingContext (i : Nat) : Option RetryContext :=
  match s.world.session i with
  | .ok response =>
      if s.policy.shouldRetry (s.responseContext i response) then
        some (s.responseContext i response)
      else s.failureContext i
  | .error _ => s.failureContext i

/-- Attempt `i` returned the value of a handler. -/
def Returned (i : Nat) : Prop := s.retriesResponse i = false ∧ ∃ v, s.attemptEnd i = .ok v

/-- Attempt `i` was cancelled. -/
def Cancelled (i : Nat) : Prop :=
  s.retriesResponse i = false ∧ ∃ exc, s.attemptEnd i = .error exc ∧ exc.isCancelledError = true

/-- Attempt `i` is the last one as far as the policy is concerned. -/
def Stops (i : Nat) : Prop :=
  s.Returned i ∨ s.Cancelled i ∨
    ∃ context, s.decidingContext i = some context ∧ s.policy.shouldRetry context = false

/-- The `Retry-After` header the delay after attempt `i` may use. -/
def retryAfter (i : Nat) : Option String :=
  match s.world.session i with
  | .ok response => if s.retriesResponse i then response.headers.get? "Retry-After" else none
  | .error _ => none

/-- What `get_delay` gives for the context of attempt `i`. -/
def delayAfter (i : Nat) : Option (Except Exn Delay) :=
  (s.decidingContext i).map fun context => s.delay i context (s.retryAfter i)

/-- The handlers attempt `i` runs: none for a response that is retried. -/
def handlersRun (i : Nat) : List (String × Response B) :=
  match s.world.session i with
  | .ok response =>
      if s.retriesResponse i then [] else (s.dispatch response).log.filterMap Effect.handler?
  | .error _ => []

/-- The end of attempt `i` as the caller sees it, its exception unwrapped. -/
def lastEnd (i : Nat) : Except Exn V :=
  (s.attemptEnd i).mapError Exn.unwrapObservableTransportError

/-- The loop over the budget, as `_make_req` runs it. -/
def loop : Async B (RequestResult V) := do
  let v ← Traced.forLoop s.iteration
    (Traced.raise (.runtimeError "retry loop exited without a result"))
    (List.range' 1 s.policy.maxAttempts)
  pure (.value v)

end RetrySeries

/-- The attempts of a call with a policy, its arguments normalized to `kwargs`. -/
def BaseHttpClient.series (rt : Runtime) (client : BaseHttpClient) (world : World B)
    (call : CallArgs B V) (policy : RetryPolicy) (kwargs : Kwargs) : RetrySeries B V where
  rt := rt
  world := world
  clientName := client.clientName
  policy := policy
  args := { call.requestArgs kwargs with retryObserver := call.retryObserver }
  replayable := isRequestReplayable kwargs

theorem BaseHttpClient.makeReq_eq_loop {rt : Runtime} {client : BaseHttpClient}
    {world : World B} {call : CallArgs B V} {policy : RetryPolicy} {kwargs : Kwargs}
    (prepared : normalizeAuthKwargs rt (client.injectProxy call.kwargs) client.proxyAuth =
      .ok kwargs)
    (retry : call.retry = some policy) :
    client.makeReq rt world call = (client.series rt world call policy kwargs).loop := by
  simp only [BaseHttpClient.makeReq, Asyncly.makeReq, prepared, retry, Traced.ofExcept_ok_bind]
  rfl

namespace RetrySeries

variable {s : RetrySeries B V} {i : Nat}

theorem decidingContext_of_response {response : Response B}
    (session : s.world.session i = .ok response)
    (retried : s.policy.shouldRetry (s.responseContext i response) = true) :
    s.decidingContext i = some (s.responseContext i response) := by
  simp only [decidingContext, session, retried, if_true]

theorem decidingContext_of_not_retried (h : s.retriesResponse i = false) :
    s.decidingContext i = s.failureContext i := by
  cases session : s.world.session i with
  | error exc => simp only [decidingContext, session]
  | ok response =>
      rw [retriesResponse_of_session session] at h
      simp only [decidingContext, session, h, Bool.false_eq_true, if_false]

theorem decidingContext_of_failure {exc : Exn} (h : s.retriesResponse i = false)
    (ended : s.attemptEnd i = .error exc) :
    s.decidingContext i = some (s.failedContext i exc) := by
  rw [decidingContext_of_not_retried h]
  simp only [failureContext, ended]

/-- An attempt is judged by its response when that is retried, and else by the exception
it ends with. -/
theorem decidingContext_cases {context : RetryContext}
    (deciding : s.decidingContext i = some context) :
    (∃ response, s.retriesResponse i = true ∧ s.world.session i = .ok response ∧
      s.policy.shouldRetry (s.responseContext i response) = true ∧
        context = s.responseContext i response) ∨
    (∃ exc, s.retriesResponse i = false ∧ s.attemptEnd i = .error exc ∧
      context = s.failedContext i exc) := by
  cases retried : s.retriesResponse i with
  | true =>
      obtain ⟨response, session, should⟩ := exists_response retried
      rw [decidingContext_of_response session should, Option.some.injEq] at deciding
      exact .inl ⟨response, rfl, session, should, deciding.symm⟩
  | false =>
      cases ended : s.attemptEnd i with
      | ok v =>
          rw [decidingContext_of_not_retried retried, failureContext, ended] at deciding
          cases deciding
      | error exc =>
          rw [decidingContext_of_failure retried ended, Option.some.injEq] at deciding
          exact .inr ⟨exc, rfl, rfl, deciding.symm⟩

/-- A retried response does not stop the loop. -/
theorem not_stops_of_response (h : s.retriesResponse i = true) : ¬ s.Stops i := by
  obtain ⟨response, session, retried⟩ := exists_response h
  rintro (⟨notRetried, -⟩ | ⟨notRetried, -⟩ | ⟨context, deciding, stopped⟩)
  · rw [h] at notRetried
    cases notRetried
  · rw [h] at notRetried
    cases notRetried
  · rw [decidingContext_of_response session retried, Option.some.injEq] at deciding
    rw [← deciding, retried] at stopped
    cases stopped

/-- `should_retry` never holds for a cancellation. -/
theorem shouldRetry_of_cancelled {exc : Exn}
    (cancelled : exc.unwrapObservableTransportError.isCancelledError = true) :
    s.policy.shouldRetry (s.failedContext i exc) = false := by
  simp [RetryPolicy.shouldRetry, RetryPolicy.matchesOutcome, failedContext,
    RetryContext.failedContext, cancelled]

/-- The transport wrapper is an `Exception` and no cancellation: exceptions that
are not caught, and cancellations, are their own originals. -/
theorem unwrap_of_uncaught {exc : Exn} (h : exc.isException = false) :
    exc.unwrapObservableTransportError = exc := by
  cases exc with
  | raised exc => rfl
  | observableTransportError original => simp [Exn.isException, Exn.isinstance, Exn.mro] at h

theorem unwrap_of_cancelled {exc : Exn} (h : exc.isCancelledError = true) :
    exc.unwrapObservableTransportError = exc := by
  cases exc with
  | raised exc => rfl
  | observableTransportError original =>
      simp [Exn.isCancelledError, Exn.isinstance, Exn.mro] at h

/-- Where the attempt ends with an exception, only `should_retry` keeps the loop going. -/
theorem stops_iff_of_failure {exc : Exn} (h : s.retriesResponse i = false)
    (ended : s.attemptEnd i = .error exc) :
    s.Stops i ↔ s.policy.shouldRetry (s.failedContext i exc) = false := by
  constructor
  · rintro (⟨-, v, ok⟩ | ⟨-, exc', ended', cancelled⟩ | ⟨context, deciding, stopped⟩)
    · rw [ended] at ok
      cases ok
    · obtain rfl : exc = exc' := by rwa [ended, Except.error.injEq] at ended'
      exact shouldRetry_of_cancelled (by rwa [unwrap_of_cancelled cancelled])
    · rw [decidingContext_of_failure h ended, Option.some.injEq] at deciding
      rwa [deciding]
  · intro stopped
    exact .inr (.inr ⟨_, decidingContext_of_failure h ended, stopped⟩)

/-- No attempt is retried at the end of the budget. -/
theorem stops_of_budget : s.Stops s.policy.maxAttempts := by
  have number : (s.context s.policy.maxAttempts).attempt = s.policy.maxAttempts :=
    context_attempt s.policy.maxAttempts_pos (Nat.le_refl _)
  have notRetried : s.retriesResponse s.policy.maxAttempts = false := by
    cases session : s.world.session s.policy.maxAttempts with
    | error exc => simp only [retriesResponse, session]
    | ok response =>
        rw [retriesResponse_of_session session]
        exact s.policy.shouldRetry_of_budget (Nat.le_of_eq number.symm)
  cases ended : s.attemptEnd s.policy.maxAttempts with
  | ok v => exact .inl ⟨notRetried, v, ended⟩
  | error exc =>
      rw [stops_iff_of_failure notRetried ended]
      exact s.policy.shouldRetry_of_budget (Nat.le_of_eq number.symm)

section Iterations

variable (total : ∀ observe ∈ s.args.retryObserver, observe.Total) (h₁ : 1 ≤ i)
  (h₂ : i ≤ s.policy.maxAttempts)

include total h₁ h₂

/-- The iteration of a stopping attempt leaves the loop with the end of the attempt. -/
theorem iteration_of_stops (stops : s.Stops i) :
    (s.iteration i).exit? = some (s.lastEnd i) ∧
      ∃ events, (s.iteration i).log =
        (s.attempt i).log ++ observed s.args.retryObserver events := by
  have notRetried : s.retriesResponse i = false := by
    by_contra h
    exact not_stops_of_response (by simpa using h) stops
  rw [attempt_of_not_retried total h₁ h₂ notRetried]
  cases ended : s.attemptEnd i with
  | ok v =>
      rw [iteration_of_value total h₁ h₂ notRetried ended]
      exact ⟨by simp [Traced.exit?, lastEnd, ended, Except.mapError], [], by simp⟩
  | error exc =>
      cases isException : exc.isException with
      | false =>
          rw [iteration_of_uncaught total h₁ h₂ notRetried ended isException]
          refine ⟨?_, [], by simp⟩
          simp [Traced.exit?, lastEnd, ended, Except.mapError, unwrap_of_uncaught isException]
      | true =>
          have raised := (stops_iff_of_failure notRetried ended).mp stops
          rw [iteration_of_failure_raised total h₁ h₂ notRetried ended isException raised]
          exact ⟨by simp [Traced.exit?, lastEnd, ended, Except.mapError], _, rfl⟩

/-- The iteration of any other attempt sleeps for the delay of its context and goes on. -/
theorem iteration_of_continues (continues : ¬ s.Stops i)
    (caught : ∀ exc, s.retriesResponse i = false → s.attemptEnd i = .error exc →
      exc.isException = true ∨ exc.isCancelledError = true)
    {delay : Delay} (delayed : s.delayAfter i = some (.ok delay))
    (slept : s.world.sleep i = .ok ()) :
    (s.iteration i).exit? = none ∧
      ∃ events, (s.iteration i).log =
        (s.attempt i).log ++ observed s.args.retryObserver events ++ [.sleep delay] := by
  cases retried : s.retriesResponse i with
  | true =>
      obtain ⟨response, session, should⟩ := exists_response retried
      have computed : s.delay i (s.responseContext i response)
          (response.headers.get? "Retry-After") = .ok delay := by
        simpa [delayAfter, decidingContext_of_response session should, retryAfter, session,
          retried] using delayed
      rw [iteration_of_retried total h₁ h₂ session should, computed,
        attempt_of_retried h₁ h₂ session should]
      refine ⟨?_, [⟨.scheduled, s.responseContext i response, delay, .status⟩], ?_⟩
      · simp [Traced.exit?, scheduled, slept, Except.map]
      · simp [scheduled]
  | false =>
      obtain ⟨exc, ended⟩ : ∃ exc, s.attemptEnd i = .error exc := by
        cases ended : s.attemptEnd i with
        | ok v => exact absurd (.inl ⟨retried, v, ended⟩) continues
        | error exc => exact ⟨exc, rfl⟩
      have should : s.policy.shouldRetry (s.failedContext i exc) = true := by
        rw [stops_iff_of_failure retried ended] at continues
        simpa using continues
      have isException : exc.isException = true := by
        rcases caught exc retried ended with h | cancelled
        · exact h
        · exact absurd (.inr (.inl ⟨retried, exc, ended, cancelled⟩)) continues
      have noHeader : s.retryAfter i = none := by
        cases session : s.world.session i <;> simp [retryAfter, session, retried]
      have computed : s.delay i (s.failedContext i exc) none = .ok delay := by
        simpa [delayAfter, decidingContext_of_failure retried ended, noHeader]
          using delayed
      rw [iteration_of_failure_retried total h₁ h₂ retried ended isException should, computed,
        attempt_of_not_retried total h₁ h₂ retried]
      refine ⟨?_, [⟨.scheduled, s.failedContext i exc, delay, .exception⟩], ?_⟩
      · simp [Traced.exit?, scheduled, slept, Except.map]
      · simp [scheduled]

/-- An attempt does not sleep, and it runs a handler only when its response is not
retried. -/
theorem filterMap_sleep_attempt : (s.attempt i).log.filterMap Effect.sleep? = [] := by
  cases retried : s.retriesResponse i with
  | true =>
      obtain ⟨response, session, should⟩ := exists_response retried
      rw [attempt_of_retried h₁ h₂ session should]
      rfl
  | false =>
      rw [attempt_of_not_retried total h₁ h₂ retried,
        filterMap_attemptLog (fun _ => rfl) (fun _ => rfl) (fun _ _ => rfl)]
      rfl

theorem filterMap_handler_attempt :
    (s.attempt i).log.filterMap Effect.handler? = s.handlersRun i := by
  cases retried : s.retriesResponse i with
  | true =>
      obtain ⟨response, session, should⟩ := exists_response retried
      rw [attempt_of_retried h₁ h₂ session should]
      simp [handlersRun, session, retried, Effect.handler?]
  | false =>
      rw [attempt_of_not_retried total h₁ h₂ retried]
      cases session : s.world.session i with
      | error exc => simp [attemptLog, handlersRun, session, Effect.handler?]
      | ok response =>
          simp only [attemptLog, handlersRun, session, retried, Bool.false_eq_true, if_false]
          rw [List.filterMap_cons_none rfl, List.filterMap_append,
            filterMap_observed fun _ => rfl, List.nil_append]

end Iterations

/-- The run with `k` attempts that `should_retry` describes: the last attempt is the
first that stops, every attempt is one request, retried responses reach no handler, and
between the attempts the call sleeps for the delays of their contexts. -/
structure Describes (s : RetrySeries B V) (k : Nat) (run : Async B (RequestResult V)) : Prop where
  positive : 1 ≤ k
  within_budget : k ≤ s.policy.maxAttempts
  stops : s.Stops k
  first : ∀ j, 1 ≤ j → j < k → ¬ s.Stops j
  attempts : run.log.filterMap Effect.request? =
    List.replicate k (sessionKwargs (some s.policy) s.args.kwargs)
  handlers : run.log.filterMap Effect.handler? = (List.range' 1 k).flatMap s.handlersRun
  sleeps : (run.log.filterMap Effect.sleep?).map (some ∘ Except.ok) =
    (List.range' 1 (k - 1)).map s.delayAfter
  result : run.result = (s.lastEnd k).map .value

/-- What a run must be given for `should_retry` alone to describe it: attempts that end
with a value, an `Exception` or a cancellation, and delays that can be computed and slept. -/
structure Regular (s : RetrySeries B V) : Prop where
  total : ∀ observe ∈ s.args.retryObserver, observe.Total
  caught : ∀ i exc, s.retriesResponse i = false → s.attemptEnd i = .error exc →
    exc.isException = true ∨ exc.isCancelledError = true
  delayed : ∀ i context, s.decidingContext i = some context →
    ∃ delay, s.delay i context (s.retryAfter i) = .ok delay
  slept : ∀ i, s.world.sleep i = .ok ()

/-- The loop is its iterations up to the first one that leaves it. -/
theorem loop_of_exit {k : Nat} {r : Except Exn V} (h₁ : 1 ≤ k) (h₂ : k ≤ s.policy.maxAttempts)
    (continues : ∀ j, 1 ≤ j → j < k → (s.iteration j).exit? = none)
    (leaves : (s.iteration k).exit? = some r) :
    s.loop = ⟨(List.range' 1 k).flatMap fun j => (s.iteration j).log, r.map .value⟩ := by
  rw [loop, Traced.forLoop_range'_of_exit h₁ h₂ continues leaves]
  simp

theorem filterMap_request_iterations {k : Nat} (h₂ : k ≤ s.policy.maxAttempts) :
    ((List.range' 1 k).flatMap fun j => (s.iteration j).log).filterMap Effect.request? =
      List.replicate k (sessionKwargs (some s.policy) s.args.kwargs) := by
  have one (j : Nat) (hj : j ∈ List.range' 1 k) :
      (s.iteration j).log.filterMap Effect.request? =
        [sessionKwargs (some s.policy) s.args.kwargs] := by
    rw [List.mem_range'_1] at hj
    have hj₂ : j ≤ s.policy.maxAttempts := by omega
    rw [filterMap_iteration (fun _ h => Effect.request?_eq_none (.inl h)) hj.1 hj₂,
      filterMap_request_attempt]
  rw [List.filterMap_flatMap, Traced.flatMap_eq_map one, List.map_const', List.length_range']

section Regular

variable (regular : s.Regular)

include regular

theorem exists_delayAfter (continues : ¬ s.Stops i) :
    ∃ delay, s.delayAfter i = some (.ok delay) := by
  obtain ⟨context, deciding⟩ : ∃ context, s.decidingContext i = some context := by
    cases retried : s.retriesResponse i with
    | true =>
        obtain ⟨response, session, should⟩ := exists_response retried
        exact ⟨_, decidingContext_of_response session should⟩
    | false =>
        cases ended : s.attemptEnd i with
        | ok v => exact absurd (.inl ⟨retried, v, ended⟩) continues
        | error exc => exact ⟨_, decidingContext_of_failure retried ended⟩
  obtain ⟨delay, computed⟩ := regular.delayed i context deciding
  exact ⟨delay, by simp only [delayAfter, deciding, Option.map_some, computed]⟩

theorem exists_iteration (h₁ : 1 ≤ i) (h₂ : i ≤ s.policy.maxAttempts) (continues : ¬ s.Stops i) :
    ∃ delay, s.delayAfter i = some (.ok delay) ∧ (s.iteration i).exit? = none ∧
      ∃ events, (s.iteration i).log =
        (s.attempt i).log ++ observed s.args.retryObserver events ++ [.sleep delay] := by
  obtain ⟨delay, delayed⟩ := exists_delayAfter regular continues
  exact ⟨delay, delayed, iteration_of_continues regular.total h₁ h₂ continues
    (regular.caught i) delayed (regular.slept i)⟩

theorem filterMap_sleep_of_continues (h₁ : 1 ≤ i) (h₂ : i ≤ s.policy.maxAttempts)
    (continues : ¬ s.Stops i) :
    ((s.iteration i).log.filterMap Effect.sleep?).map (some ∘ Except.ok) = [s.delayAfter i] := by
  obtain ⟨delay, delayed, -, events, log⟩ := exists_iteration regular h₁ h₂ continues
  rw [log, List.filterMap_append, List.filterMap_append, filterMap_observed fun _ => rfl,
    filterMap_sleep_attempt regular.total h₁ h₂, delayed]
  rfl

theorem filterMap_sleep_of_stops (h₁ : 1 ≤ i) (h₂ : i ≤ s.policy.maxAttempts)
    (stops : s.Stops i) : (s.iteration i).log.filterMap Effect.sleep? = [] := by
  obtain ⟨-, events, log⟩ := iteration_of_stops regular.total h₁ h₂ stops
  rw [log, List.filterMap_append, filterMap_observed fun _ => rfl,
    filterMap_sleep_attempt regular.total h₁ h₂, List.nil_append]

/-- The loop is its iterations up to the first attempt that stops it. -/
theorem loop_of_stops {k : Nat} (h₁ : 1 ≤ k) (h₂ : k ≤ s.policy.maxAttempts)
    (stops : s.Stops k) (first : ∀ j, 1 ≤ j → j < k → ¬ s.Stops j) :
    s.loop = ⟨(List.range' 1 k).flatMap fun j => (s.iteration j).log,
      (s.lastEnd k).map .value⟩ := by
  have leaves := (iteration_of_stops regular.total h₁ h₂ stops).1
  have continues (j : Nat) (hj : 1 ≤ j) (lt : j < k) : (s.iteration j).exit? = none := by
    obtain ⟨-, -, goesOn, -⟩ := exists_iteration regular hj (by omega) (first j hj lt)
    exact goesOn
  exact loop_of_exit h₁ h₂ continues leaves

/-- The attempts, the handlers and the sleeps of the loop are the ones `should_retry`
asks for. -/
theorem loop_described : ∃ k, s.Describes k s.loop := by
  obtain ⟨k, h₁, h₂, stops, first⟩ := Traced.exists_least
    ⟨s.policy.maxAttempts, s.policy.maxAttempts_pos, Nat.le_refl _, s.stops_of_budget⟩
  rw [loop_of_stops regular h₁ h₂ stops first]
  have range (j : Nat) (hj : j ∈ List.range' 1 k) : 1 ≤ j ∧ j ≤ s.policy.maxAttempts := by
    rw [List.mem_range'_1] at hj
    omega
  refine ⟨k, ⟨h₁, h₂, stops, first, ?_, ?_, ?_, rfl⟩⟩
  · exact filterMap_request_iterations h₂
  · rw [List.filterMap_flatMap]
    apply List.flatMap_congr
    intro j hj
    obtain ⟨hj₁, hj₂⟩ := range j hj
    rw [filterMap_iteration (fun _ h => Effect.handler?_eq_none h) hj₁ hj₂,
      filterMap_handler_attempt regular.total hj₁ hj₂]
  · have slept (j : Nat) (hj : j ∈ List.range' 1 (k - 1)) :
        ((s.iteration j).log.filterMap Effect.sleep?).map (some ∘ Except.ok) =
          [s.delayAfter j] := by
      rw [List.mem_range'_1] at hj
      exact filterMap_sleep_of_continues regular hj.1 (by omega) (first j hj.1 (by omega))
    rw [Traced.range'_split h₁ (Nat.le_refl k), List.flatMap_append, List.filterMap_append,
      List.filterMap_flatMap, List.map_append, List.map_flatMap, Traced.flatMap_eq_map slept]
    simp [filterMap_sleep_of_stops regular h₁ h₂ stops]

end Regular

end RetrySeries

/-! ### The attempts of any call -/

/-- The arguments of attempt `j` of a call. -/
def BaseHttpClient.attemptArgs (rt : Runtime) (client : BaseHttpClient) (world : World B)
    (call : CallArgs B V) (kwargs : Kwargs) (j : Nat) : RequestArgs B V :=
  match call.retry with
  | none => call.requestArgs kwargs
  | some policy => (client.series rt world call policy kwargs).attemptArgs j

/-- Whatever its attempts do, a call makes a first few of them, in order, and adds
nothing but its decisions and its sleeps. -/
theorem makeReq_log {rt : Runtime} {client : BaseHttpClient} (world : World B)
    (call : CallArgs B V) {kwargs : Kwargs}
    (once : RequestArgs B V → Async B (RequestResult V))
    (prepared : normalizeAuthKwargs rt (client.injectProxy call.kwargs) client.proxyAuth =
      .ok kwargs) :
    ∃ k, 1 ≤ k ∧
      (∀ j, 1 ≤ j → j ≤ k → (client.attemptArgs rt world call kwargs j).slot = j) ∧
      ∀ (α : Type) (p : Effect B → Option α), (∀ e : Effect B, e.OfLoop → p e = none) →
        (makeReq rt client once world call).log.filterMap p =
          (List.range' 1 k).flatMap fun j =>
            (once (client.attemptArgs rt world call kwargs j)).log.filterMap p := by
  cases retry : call.retry with
  | none =>
      refine ⟨1, Nat.le_refl 1, ?_, ?_⟩
      · intro j h₁ h₂
        simp only [BaseHttpClient.attemptArgs, retry]
        exact Nat.le_antisymm h₁ h₂
      · intro α p _
        simp [makeReq, prepared, retry, BaseHttpClient.attemptArgs]
  | some policy =>
      let s := client.series rt world call policy kwargs
      have quiet : (Traced.raise (.runtimeError "retry loop exited without a result") :
          Async B V).log = [] := rfl
      obtain ⟨k, h₁, h₂, log⟩ : ∃ k, 1 ≤ k ∧ k ≤ policy.maxAttempts ∧
          (Traced.forLoop (retryAttempt rt once world policy s.args s.replayable)
            (Traced.raise (.runtimeError "retry loop exited without a result"))
            (List.range' 1 policy.maxAttempts)).log =
            (List.range' 1 k).flatMap fun j =>
              (retryAttempt rt once world policy s.args s.replayable j).log :=
        Traced.forLoop_range'_log policy.maxAttempts_pos quiet
      refine ⟨k, h₁, ?_, ?_⟩
      · intro j hj hk
        simp only [BaseHttpClient.attemptArgs, retry]
        exact RetrySeries.slot_attemptArgs hj (hk.trans h₂)
      · intro α p blind
        have run : (makeReq rt client once world call).log =
            (List.range' 1 k).flatMap fun j =>
              (retryAttempt rt once world policy s.args s.replayable j).log := by
          rw [← log]
          simp only [makeReq, prepared, retry, Traced.ofExcept_ok_bind]
          exact congrArg Traced.log (Traced.map_eq RequestResult.value _)
        rw [run, List.filterMap_flatMap]
        apply List.flatMap_congr
        intro j hj
        rw [List.mem_range'_1] at hj
        obtain ⟨rest, attempt, kinds⟩ := retryAttempt_log rt once world policy s.args s.replayable
          (RetrySeries.init_context (s := s) hj.1 (show j ≤ policy.maxAttempts by omega))
        rw [attempt, List.filterMap_append,
          List.filterMap_eq_nil_iff.mpr fun e he => blind e (kinds e he), List.append_nil]
        simp only [BaseHttpClient.attemptArgs, retry]
        rfl

/-- `_make_req` with a policy makes the run described by the policy's public predicate. -/
theorem BaseHttpClient.makeReq_refines_shouldRetry {rt : Runtime} {client : BaseHttpClient}
    {world : World B} {call : CallArgs B V} {policy : RetryPolicy} {kwargs : Kwargs}
    (prepared : normalizeAuthKwargs rt (client.injectProxy call.kwargs) client.proxyAuth =
      .ok kwargs)
    (retry : call.retry = some policy)
    (regular : (client.series rt world call policy kwargs).Regular) :
    ∃ k, (client.series rt world call policy kwargs).Describes k
      (client.makeReq rt world call) := by
  rw [BaseHttpClient.makeReq_eq_loop prepared retry]
  exact RetrySeries.loop_described regular

/-- A 503 and then a 200: two attempts and one sleep. -/
theorem BaseHttpClient.makeReq_refines_shouldRetry_sample :
    let world := Sample.world fun i => .ok (Sample.response (if i = 1 then 503 else 200))
    let call : CallArgs Unit Nat :=
      { method := "GET", url := Sample.url,
        handlers := Sample.handlers [(.status 200, Sample.handler (.ok 7))],
        retry := some (Sample.policy 1) }
    ∃ k, (Sample.client.series Sample.runtime world call (Sample.policy 1) {}).Describes k
      (Sample.client.makeReq Sample.runtime world call) := by
  intro world call
  refine BaseHttpClient.makeReq_refines_shouldRetry rfl rfl ⟨?_, ?_, ?_, ?_⟩
  · intro observe h
    cases h
  · intro i exc notRetried ended
    by_cases one : i = 1
    · subst one
      exact absurd notRetried (by decide)
    · have ok : (Sample.client.series Sample.runtime world call (Sample.policy 1) {}).attemptEnd i
          = .ok 7 := by
        simp only [RetrySeries.attemptEnd, BaseHttpClient.series, world, Sample.world, one,
          if_false]
        rfl
      rw [ok] at ended
      cases ended
  · intro i context _
    have noHeader : (Sample.client.series Sample.runtime world call (Sample.policy 1)
        {}).retryAfter i = none := by
      simp only [RetrySeries.retryAfter, BaseHttpClient.series, world, Sample.world]
      split <;> rfl
    rw [noHeader]
    exact Sample.getDelay_policy 1 context _
  · intro i
    rfl

end Asyncly
