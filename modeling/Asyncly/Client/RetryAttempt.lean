import Asyncly.Client.Base

/-!
# One attempt of a retried call

A `RetrySeries` is what the attempts of one retried call share. For each attempt
number it gives the contexts the policy is asked about and the end of the attempt
when its response is not retried, all of them functions of the inputs. The rules
below say what an iteration of the loop performs, by the answer of `should_retry`.
-/

namespace Asyncly

variable {B V : Type}

namespace RetryContext

/-- `response_context`: the context with a response status. -/
def responseContext (context : RetryContext) (status : Nat) : RetryContext :=
  ⟨upper context.method, context.url, context.attempt, context.maxAttempts, context.replayable,
    some status, none, context.attempt_range, .inr rfl⟩

/-- `failed_context`: the context with an exception. -/
def failedContext (context : RetryContext) (exc : Exn) : RetryContext :=
  ⟨upper context.method, context.url, context.attempt, context.maxAttempts, context.replayable,
    none, some exc, context.attempt_range, .inl rfl⟩

@[simp] theorem responseContext_attempt (context : RetryContext) (status : Nat) :
    (context.responseContext status).attempt = context.attempt := rfl

@[simp] theorem failedContext_attempt (context : RetryContext) (exc : Exn) :
    (context.failedContext exc).attempt = context.attempt := rfl

theorem init_ok {method : String} {url : Url} {attempt maxAttempts : Nat}
    (range : 1 ≤ attempt ∧ attempt ≤ maxAttempts) (replayable : Bool) :
    init method url attempt maxAttempts replayable none none =
      .ok ⟨upper method, url, attempt, maxAttempts, replayable, none, none, range, .inl rfl⟩ := by
  have pos : ¬ maxAttempts < 1 := by omega
  simp [init, pos, range]

theorem withResponseStatus_ok {context : RetryContext} (h : context.exception = none)
    (status : Nat) :
    context.withResponseStatus status = .ok (context.responseContext status) := by
  have pos : ¬ context.maxAttempts < 1 := by
    have := context.attempt_range
    omega
  simp [withResponseStatus, init, pos, context.attempt_range, h, responseContext]

theorem withException_ok {context : RetryContext} (h : context.responseStatus = none)
    (exc : Exn) : context.withException exc = .ok (context.failedContext exc) := by
  have pos : ¬ context.maxAttempts < 1 := by
    have := context.attempt_range
    omega
  simp [withException, init, pos, context.attempt_range, h, failedContext]

end RetryContext

namespace RetryPolicy

variable {policy : RetryPolicy} {context : RetryContext}

theorem suppressionReason_of_unmatched (h : policy.matchesOutcome context = false) :
    policy.suppressionReason context = none := by
  simp [suppressionReason, h]

/-- Matched outcomes that are not retried have a reason. -/
theorem suppressed_of_not_shouldRetry (matched : policy.matchesOutcome context = true)
    (h : policy.shouldRetry context = false) :
    ∃ reason, policy.suppressionReason context = some reason := by
  rw [← Option.ne_none_iff_exists']
  intro none
  rw [policy.shouldRetry_iff context |>.mpr ⟨matched, none⟩] at h
  cases h

/-- The reason depends on the request and the attempt, not on the outcome. -/
theorem suppressionReason_congr {other : RetryContext}
    (outcome : policy.matchesOutcome context = policy.matchesOutcome other)
    (method : context.method = other.method) (replayable : context.replayable = other.replayable)
    (attempt : context.attempt = other.attempt) :
    policy.suppressionReason context = policy.suppressionReason other := by
  simp only [suppressionReason, outcome, method, replayable, attempt]

end RetryPolicy

/-- An observer that does not raise. -/
def RetryObserver.Total (observer : RetryObserver) : Prop := ∀ event, observer event = .ok ()

/-- What is left in the log of events an observer is told about. -/
def observed (observer : Option RetryObserver) (events : List RetryEvent) : List (Effect B) :=
  if observer.isSome then events.map .retryEvent else []

@[simp] theorem observed_nil (observer : Option RetryObserver) :
    observed (B := B) observer [] = [] := by
  cases observer <;> rfl

theorem filterMap_observed {α : Type} {p : Effect B → Option α}
    (h : ∀ event, p (.retryEvent event) = none) (observer : Option RetryObserver)
    (events : List RetryEvent) : (observed observer events).filterMap p = [] := by
  simp only [List.filterMap_eq_nil_iff]
  intro e he
  cases observer with
  | none => simp [observed] at he
  | some observe =>
      obtain ⟨event, -, rfl⟩ : ∃ event ∈ events, Effect.retryEvent event = e := by
        simpa [observed] using he
      exact h event

/-- The event for an outcome that is not retried: one when the policy matches it. -/
def suppressedEvents (policy : RetryPolicy) (context : RetryContext) : List RetryEvent :=
  match policy.suppressionReason context with
  | some suppression => [⟨suppressionKind suppression, context, .zero, suppression⟩]
  | none => []

theorem suppressedEvents_of_unmatched {policy : RetryPolicy} {context : RetryContext}
    (h : policy.matchesOutcome context = false) : suppressedEvents policy context = [] := by
  simp only [suppressedEvents, RetryPolicy.suppressionReason_of_unmatched h]

theorem notifyRetryObserver_eq {observer : Option RetryObserver}
    (total : ∀ observe ∈ observer, observe.Total) (event : RetryEvent) :
    notifyRetryObserver observer event = (⟨observed observer [event], .ok ()⟩ : Async B Unit) := by
  cases observer with
  | none => rfl
  | some observe =>
      have h : observe event = .ok () := total observe rfl event
      simp [notifyRetryObserver, observed, h]

section Intercept

variable {args : RequestArgs B V} {response : Response B} {retry : RetryPolicy}
  {context : RetryContext} (policy : args.retry = some retry)
  (number : args.retryContext = some context) (fresh : context.exception = none)
include policy number fresh

/-- A response that is to be retried becomes a marker. -/
theorem interceptResponse_of_retried
    (retried : retry.shouldRetry (context.responseContext response.status) = true) :
    interceptResponse args response =
      ⟨[], .ok (some ⟨context.responseContext response.status,
        response.headers.get? "Retry-After"⟩)⟩ := by
  obtain ⟨matched, unsuppressed⟩ := (retry.shouldRetry_iff _).mp retried
  simp only [interceptResponse, policy, number, RetryContext.withResponseStatus_ok fresh,
    Traced.ofExcept_ok_bind, matched, unsuppressed, if_true]
  rfl

/-- Any other response is announced if the policy matches it, and goes to its handler. -/
theorem interceptResponse_of_not_retried
    (notRetried : retry.shouldRetry (context.responseContext response.status) = false) :
    interceptResponse args response =
      match retry.suppressionReason (context.responseContext response.status) with
      | some suppression => do
          notifyRetryObserver args.retryObserver ⟨suppressionKind suppression,
            context.responseContext response.status, .zero, suppression⟩
          pure none
      | none => pure none := by
  simp only [interceptResponse, policy, number, RetryContext.withResponseStatus_ok fresh,
    Traced.ofExcept_ok_bind]
  cases matched : retry.matchesOutcome (context.responseContext response.status) with
  | false => simp [RetryPolicy.suppressionReason_of_unmatched matched]
  | true =>
      obtain ⟨reason, suppressed⟩ := RetryPolicy.suppressed_of_not_shouldRetry matched notRetried
      simp [suppressed]

end Intercept

/-- What the attempts of one retried call share. -/
structure RetrySeries (B V : Type) where
  rt : Runtime
  world : World B
  clientName : String
  policy : RetryPolicy
  args : RequestArgs B V
  replayable : Bool

namespace RetrySeries

variable (s : RetrySeries B V)

/-- The context attempt `i` starts with. The loop counts from `1` to the budget; a
number outside is read as the nearest one inside. -/
def context (i : Nat) : RetryContext :=
  ⟨upper s.args.method, s.args.url, max 1 (min i s.policy.maxAttempts), s.policy.maxAttempts,
    s.replayable, none, none, by have := s.policy.maxAttempts_pos; omega, .inl rfl⟩

/-- The context for the response of attempt `i`. -/
def responseContext (i : Nat) (response : Response B) : RetryContext :=
  (s.context i).responseContext response.status

/-- The context for an exception of attempt `i`, unwrapped. -/
def failedContext (i : Nat) (exc : Exn) : RetryContext :=
  (s.context i).failedContext exc.unwrapObservableTransportError

/-- Handing a response to the caller's handlers. -/
def dispatch (response : Response B) : Async B V :=
  applyHandler (s.args.handlers.map .bare) response s.clientName

/-- The end of attempt `i` when its response, if any, goes to a handler. -/
def attemptEnd (i : Nat) : Except Exn V :=
  match s.world.session i with
  | .error exc => .error exc
  | .ok response => (s.dispatch response).result

/-- Whether attempt `i` is retried for its response. -/
def retriesResponse (i : Nat) : Bool :=
  match s.world.session i with
  | .error _ => false
  | .ok response => s.policy.shouldRetry (s.responseContext i response)

/-- The effects of attempt `i` when its response, if any, goes to a handler. -/
def attemptLog (i : Nat) : List (Effect B) :=
  .request s.args.method s.args.url (sessionKwargs (some s.policy) s.args.kwargs) ::
    match s.world.session i with
    | .error _ => []
    | .ok response =>
        observed s.args.retryObserver (suppressedEvents s.policy (s.responseContext i response)) ++
          (s.dispatch response).log

/-- The arguments of attempt `i`. -/
def attemptArgs (i : Nat) : RequestArgs B V :=
  { s.args with retry := some s.policy, retryContext := some (s.context i) }

/-- Attempt `i`, and the iteration of the loop around it. -/
def attempt (i : Nat) : Async B (RequestResult V) :=
  baseAttempt s.world s.clientName (s.attemptArgs i)

def iteration (i : Nat) : Async B (Option V) :=
  retryAttempt s.rt (baseAttempt s.world s.clientName) s.world s.policy s.args s.replayable i

/-- The delay after a retried attempt `i`, for its context. -/
def delay (i : Nat) (context : RetryContext) (retryAfter : Option String) : Except Exn Delay :=
  s.policy.getDelay s.rt context retryAfter (s.world.clock i)

/-- What follows the decision to retry attempt `i`: the event and the sleep. -/
def scheduled (i : Nat) (context : RetryContext) (reason : RetryReason) :
    Except Exn Delay → Async B (Option V)
  | .error exc => Traced.raise exc
  | .ok delay =>
      ⟨observed s.args.retryObserver [⟨.scheduled, context, delay, reason⟩] ++ [.sleep delay],
        (s.world.sleep i).map fun _ => none⟩

variable {s} {i : Nat} {response : Response B} {exc : Exn}

/-- A projection that sees neither events nor what a dispatch does sees one request. -/
theorem filterMap_attemptLog {α : Type} {p : Effect B → Option α}
    (event : ∀ e, p (.retryEvent e) = none) (mark : ∀ status, p (.markStatus status) = none)
    (handler : ∀ name response, p (.handler name response) = none) (i : Nat) :
    (s.attemptLog i).filterMap p =
      (p (.request s.args.method s.args.url
        (sessionKwargs (some s.policy) s.args.kwargs))).toList := by
  have rest : (match s.world.session i with
      | .error _ => []
      | .ok response =>
          observed s.args.retryObserver
              (suppressedEvents s.policy (s.responseContext i response)) ++
            (s.dispatch response).log).filterMap p = [] := by
    cases s.world.session i with
    | error exc => rfl
    | ok response =>
        rw [List.filterMap_append, filterMap_observed event, List.nil_append, dispatch,
          filterMap_applyHandler_log mark handler]
  rw [attemptLog, List.filterMap_cons, rest]
  cases p (.request s.args.method s.args.url (sessionKwargs (some s.policy) s.args.kwargs)) <;> rfl

theorem context_attempt (h₁ : 1 ≤ i) (h₂ : i ≤ s.policy.maxAttempts) :
    (s.context i).attempt = i := by
  simp only [context]
  omega

theorem retriesResponse_of_session {response : Response B}
    (session : s.world.session i = .ok response) :
    s.retriesResponse i = s.policy.shouldRetry (s.responseContext i response) := by
  simp only [retriesResponse, session]

theorem exists_response (h : s.retriesResponse i = true) :
    ∃ response, s.world.session i = .ok response ∧
      s.policy.shouldRetry (s.responseContext i response) = true := by
  cases session : s.world.session i with
  | error exc => simp [retriesResponse, session] at h
  | ok response => exact ⟨response, rfl, by rwa [retriesResponse_of_session session] at h⟩

theorem responseContext_attempt (h₁ : 1 ≤ i) (h₂ : i ≤ s.policy.maxAttempts) :
    (s.responseContext i response).attempt = i := by
  rw [responseContext, RetryContext.responseContext_attempt, context_attempt h₁ h₂]

theorem failedContext_attempt (h₁ : 1 ≤ i) (h₂ : i ≤ s.policy.maxAttempts) :
    (s.failedContext i exc).attempt = i := by
  rw [failedContext, RetryContext.failedContext_attempt, context_attempt h₁ h₂]

theorem withException_context (i : Nat) (exc : Exn) :
    (s.context i).withException exc = .ok ((s.context i).failedContext exc) :=
  RetryContext.withException_ok rfl exc

theorem init_context (h₁ : 1 ≤ i) (h₂ : i ≤ s.policy.maxAttempts) :
    RetryContext.init s.args.method s.args.url i s.policy.maxAttempts s.replayable none none =
      .ok (s.context i) := by
  have number : max 1 (min i s.policy.maxAttempts) = i := by omega
  rw [RetryContext.init_ok ⟨h₁, h₂⟩]
  simp only [context, number]

theorem slot_attemptArgs (h₁ : 1 ≤ i) (h₂ : i ≤ s.policy.maxAttempts) :
    (s.attemptArgs i).slot = i := context_attempt h₁ h₂

/-- Both contexts of an attempt agree on everything but the outcome, so a policy
that matches both outcomes suppresses both for the same reason. -/
theorem suppressionReason_failedContext
    (outcome : s.policy.matchesOutcome (s.failedContext i exc) =
      s.policy.matchesOutcome (s.responseContext i response)) :
    s.policy.suppressionReason (s.failedContext i exc) =
      s.policy.suppressionReason (s.responseContext i response) :=
  RetryPolicy.suppressionReason_congr outcome rfl rfl rfl

theorem intercept_of_not_retried (total : ∀ observe ∈ s.args.retryObserver, observe.Total)
    (notRetried : s.policy.shouldRetry (s.responseContext i response) = false) :
    interceptResponse (s.attemptArgs i) response =
      ⟨observed s.args.retryObserver (suppressedEvents s.policy (s.responseContext i response)),
        .ok none⟩ := by
  rw [interceptResponse_of_not_retried rfl rfl rfl notRetried, suppressedEvents, responseContext]
  cases s.policy.suppressionReason ((s.context i).responseContext response.status) with
  | none => simp [Traced.pure_def]
  | some reason =>
      simp only [notifyRetryObserver_eq (show ∀ observe ∈ (s.attemptArgs i).retryObserver,
        observe.Total from total)]
      simp [attemptArgs, Except.map]

/-- An attempt whose response is to be retried ends with the marker; no handler runs. -/
theorem attempt_of_retried (h₁ : 1 ≤ i) (h₂ : i ≤ s.policy.maxAttempts)
    (responded : s.world.session i = .ok response)
    (retried : s.policy.shouldRetry (s.responseContext i response) = true) :
    s.attempt i =
      ⟨[.request s.args.method s.args.url (sessionKwargs (some s.policy) s.args.kwargs)],
        .ok (.retryable ⟨s.responseContext i response, response.headers.get? "Retry-After"⟩)⟩ := by
  rw [← slot_attemptArgs h₁ h₂] at responded
  exact requestOnce_of_marker responded (interceptResponse_of_retried rfl rfl rfl retried)

/-- Every other attempt tells the observer what it suppresses and runs the handler. -/
theorem attempt_of_not_retried (total : ∀ observe ∈ s.args.retryObserver, observe.Total)
    (h₁ : 1 ≤ i) (h₂ : i ≤ s.policy.maxAttempts) (notRetried : s.retriesResponse i = false) :
    s.attempt i = ⟨s.attemptLog i, (s.attemptEnd i).map .value⟩ := by
  have slot := slot_attemptArgs h₁ h₂
  rcases session : s.world.session i with exc | response
  · simp only [attemptLog, attemptEnd, session]
    rw [← slot] at session
    exact requestOnce_of_error session
  · simp only [retriesResponse, session] at notRetried
    simp only [attemptLog, attemptEnd, session]
    rw [← slot] at session
    exact requestOnce_of_dispatch session (intercept_of_not_retried total notRetried)

/-! ### The iteration around an attempt -/

theorem scheduled_eq (total : ∀ observe ∈ s.args.retryObserver, observe.Total)
    (context : RetryContext) (reason : RetryReason) (delay : Except Exn Delay) :
    (do
      let delay ← Traced.ofExcept delay
      notifyRetryObserver s.args.retryObserver ⟨.scheduled, context, delay, reason⟩
      Traced.emit (.sleep delay)
      Traced.ofExcept (s.world.sleep i)
      pure none) = s.scheduled i context reason delay := by
  cases delay with
  | error exc => rfl
  | ok delay => simp [notifyRetryObserver_eq total, scheduled]

/-- A retried response is announced and slept on. -/
theorem iteration_of_retried (total : ∀ observe ∈ s.args.retryObserver, observe.Total)
    (h₁ : 1 ≤ i) (h₂ : i ≤ s.policy.maxAttempts)
    (responded : s.world.session i = .ok response)
    (retried : s.policy.shouldRetry (s.responseContext i response) = true) :
    s.iteration i =
      (Traced.emit (.request s.args.method s.args.url
          (sessionKwargs (some s.policy) s.args.kwargs)) >>= fun _ =>
        s.scheduled i (s.responseContext i response) .status
          (s.delay i (s.responseContext i response) (response.headers.get? "Retry-After"))) := by
  have attempt := attempt_of_retried h₁ h₂ responded retried
  rw [← scheduled_eq total, iteration, retryAttempt, init_context h₁ h₂, Traced.ofExcept_ok_bind]
  change ((s.attempt i).catching Exn.isException >>= _) = _
  rw [Traced.catching_of_ok (by rw [attempt]), attempt]
  rfl

/-- An attempt that ends with a value ends the loop. -/
theorem iteration_of_value (total : ∀ observe ∈ s.args.retryObserver, observe.Total)
    (h₁ : 1 ≤ i) (h₂ : i ≤ s.policy.maxAttempts) (notRetried : s.retriesResponse i = false)
    {v : V} (ended : s.attemptEnd i = .ok v) :
    s.iteration i = ⟨s.attemptLog i, .ok (some v)⟩ := by
  have attempt := attempt_of_not_retried total h₁ h₂ notRetried
  rw [ended] at attempt
  rw [iteration, retryAttempt, init_context h₁ h₂, Traced.ofExcept_ok_bind]
  change ((s.attempt i).catching Exn.isException >>= _) = _
  rw [Traced.catching_of_ok (by rw [attempt]; rfl), attempt]
  simp [Traced.pure_def]

/-- So does one that ends with an exception the loop does not catch. -/
theorem iteration_of_uncaught (total : ∀ observe ∈ s.args.retryObserver, observe.Total)
    (h₁ : 1 ≤ i) (h₂ : i ≤ s.policy.maxAttempts) (notRetried : s.retriesResponse i = false)
    (ended : s.attemptEnd i = .error exc) (uncaught : exc.isException = false) :
    s.iteration i = ⟨s.attemptLog i, .error exc⟩ := by
  have attempt := attempt_of_not_retried total h₁ h₂ notRetried
  rw [ended] at attempt
  rw [iteration, retryAttempt, init_context h₁ h₂, Traced.ofExcept_ok_bind]
  change ((s.attempt i).catching Exn.isException >>= _) = _
  rw [Traced.catching_of_uncaught (by rw [attempt]; rfl) uncaught, attempt]
  rfl

/-- A caught exception is given to the policy. -/
theorem iteration_of_caught (total : ∀ observe ∈ s.args.retryObserver, observe.Total)
    (h₁ : 1 ≤ i) (h₂ : i ≤ s.policy.maxAttempts) (notRetried : s.retriesResponse i = false)
    (ended : s.attemptEnd i = .error exc) (caught : exc.isException = true) :
    s.iteration i = ((⟨s.attemptLog i, .ok ()⟩ : Async B Unit) >>= fun _ =>
      retryExceptionDelay s.rt s.policy (s.context i) s.args.retryObserver exc (s.world.clock i)
        >>= fun delay => do
          Traced.emit (.sleep delay)
          Traced.ofExcept (s.world.sleep i)
          pure none) := by
  have attempt := attempt_of_not_retried total h₁ h₂ notRetried
  rw [ended] at attempt
  rw [iteration, retryAttempt, init_context h₁ h₂, Traced.ofExcept_ok_bind]
  change ((s.attempt i).catching Exn.isException >>= _) = _
  rw [Traced.catching_of_caught (by rw [attempt]; rfl) caught, attempt]
  rfl

/-- A caught exception that is retried is announced and slept on. -/
theorem iteration_of_failure_retried (total : ∀ observe ∈ s.args.retryObserver, observe.Total)
    (h₁ : 1 ≤ i) (h₂ : i ≤ s.policy.maxAttempts) (notRetried : s.retriesResponse i = false)
    (ended : s.attemptEnd i = .error exc) (caught : exc.isException = true)
    (retried : s.policy.shouldRetry (s.failedContext i exc) = true) :
    s.iteration i = ((⟨s.attemptLog i, .ok ()⟩ : Async B Unit) >>= fun _ =>
      s.scheduled i (s.failedContext i exc) .exception
        (s.delay i (s.failedContext i exc) none)) := by
  obtain ⟨matched, unsuppressed⟩ := (s.policy.shouldRetry_iff _).mp retried
  rw [iteration_of_caught total h₁ h₂ notRetried ended caught]
  congr 1
  funext _
  rw [failedContext] at matched unsuppressed ⊢
  simp only [retryExceptionDelay, withException_context, Traced.ofExcept_ok_bind, matched,
    unsuppressed, if_true]
  rw [← scheduled_eq total]
  simp only [bind_assoc, pure_bind]
  rfl

/-- A caught exception that is not retried is announced when the policy matches it,
and its original is raised. -/
theorem iteration_of_failure_raised (total : ∀ observe ∈ s.args.retryObserver, observe.Total)
    (h₁ : 1 ≤ i) (h₂ : i ≤ s.policy.maxAttempts) (notRetried : s.retriesResponse i = false)
    (ended : s.attemptEnd i = .error exc) (caught : exc.isException = true)
    (raised : s.policy.shouldRetry (s.failedContext i exc) = false) :
    s.iteration i = ⟨s.attemptLog i ++
        observed s.args.retryObserver (suppressedEvents s.policy (s.failedContext i exc)),
      .error exc.unwrapObservableTransportError⟩ := by
  rw [iteration_of_caught total h₁ h₂ notRetried ended caught]
  cases matched : s.policy.matchesOutcome (s.failedContext i exc) with
  | false =>
      rw [suppressedEvents_of_unmatched matched, observed_nil]
      rw [failedContext] at matched
      simp [retryExceptionDelay, withException_context, matched]
  | true =>
      obtain ⟨reason, suppressed⟩ := RetryPolicy.suppressed_of_not_shouldRetry matched raised
      rw [suppressedEvents, suppressed]
      rw [failedContext] at matched suppressed ⊢
      simp [retryExceptionDelay, withException_context, matched, suppressed,
        notifyRetryObserver_eq total]

/-- Apart from its decisions and its sleep, an iteration does what its attempt does. -/
theorem filterMap_iteration {α : Type} {p : Effect B → Option α}
    (blind : ∀ e : Effect B, e.OfLoop → p e = none) (h₁ : 1 ≤ i)
    (h₂ : i ≤ s.policy.maxAttempts) :
    (s.iteration i).log.filterMap p = (s.attempt i).log.filterMap p := by
  obtain ⟨rest, log, kinds⟩ := retryAttempt_log s.rt (baseAttempt s.world s.clientName) s.world
    s.policy s.args s.replayable (init_context h₁ h₂)
  rw [iteration, log, List.filterMap_append,
    List.filterMap_eq_nil_iff.mpr fun e he => blind e (kinds e he), List.append_nil]
  rfl

/-- An attempt is one request. -/
theorem filterMap_request_attempt (i : Nat) :
    (s.attempt i).log.filterMap Effect.request? =
      [sessionKwargs (some s.policy) s.args.kwargs] :=
  filterMap_requestOnce (fun _ => Effect.request?_eq_none) _ _ _ _

end RetrySeries

end Asyncly
