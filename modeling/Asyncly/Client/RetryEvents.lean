import Asyncly.Client.RetryLoop

/-!
# Retry decisions an observer sees

An attempt can announce a decision twice: for its response before the handler runs,
and for the exception of that handler. The events of a run are compared here with
one decision per attempt, and the attempts that break it are singled out.
-/

namespace Asyncly

variable {B V R : Type}

/-- The events about one attempt number. -/
def eventsOf (attempt : Nat) (run : Async B R) : List RetryEvent :=
  (run.log.filterMap Effect.retryEvent?).filter fun event => event.context.attempt = attempt

/-- How many physical attempts a run made. -/
def attemptsMade (run : Async B R) : Nat := (run.log.filterMap Effect.request?).length

/-- One decision per attempt: every attempt that another one follows is scheduled,
the last one is not and has at most one event, and a cancelled one has none. -/
structure OneDecision (run : Async B R) : Prop where
  scheduled : ∀ j, 1 ≤ j → j < attemptsMade run →
    (eventsOf j run).map RetryEvent.kind = [.scheduled]
  last : (eventsOf (attemptsMade run) run).map RetryEvent.kind ∈
    [[], [.suppressed], [.exhausted]]
  later : ∀ j, attemptsMade run < j → eventsOf j run = []
  cancelled : ∀ exc, run.result = .error exc → exc.isCancelledError = true →
    eventsOf (attemptsMade run) run = []

/-- What the last attempt may announce: one suppression at most, and none when the
call ends with a cancellation. -/
def Settled {α : Type} (events : List RetryEvent) (r : Except Exn α) : Prop :=
  events.map RetryEvent.kind ∈ [[], [.suppressed], [.exhausted]] ∧
    ∀ exc, r = .error exc → exc.isCancelledError = true → events = []

namespace RetrySeries

variable (s : RetrySeries B V)

/-- Attempt `i` is to be retried, and its delay can be computed. -/
def Waits (i : Nat) (delay : Delay) : Prop :=
  ∃ context, s.decidingContext i = some context ∧ s.policy.shouldRetry context = true ∧
    (∀ exc, s.retriesResponse i = false → s.attemptEnd i = .error exc →
      exc.isException = true) ∧
    s.delay i context (s.retryAfter i) = .ok delay

/-- Every attempt before attempt `i` is retried, and its delay slept. -/
def Reached (i : Nat) : Prop :=
  ∀ j, 1 ≤ j → j < i → (∃ delay, s.Waits j delay) ∧ s.world.sleep j = .ok ()

/-- The response of attempt `i` is suppressed, and then its handler fails with an
exception that is itself an outcome of the policy, or with a cancellation. -/
def SecondCause (i : Nat) : Prop :=
  ∃ response exc, s.world.session i = .ok response ∧
    s.policy.matchesOutcome (s.responseContext i response) = true ∧
    s.policy.shouldRetry (s.responseContext i response) = false ∧
    (s.dispatch response).result = .error exc ∧
    ((exc.isException = true ∧ s.policy.matchesOutcome (s.failedContext i exc) = true) ∨
      exc.unwrapObservableTransportError.isCancelledError = true)

/-- The sleep after the retried attempt `i` raises. -/
def InterruptedSleep (i : Nat) : Prop :=
  (∃ delay, s.Waits i delay) ∧ ∃ exc, s.world.sleep i = .error exc

/-- The events of iteration `i`. -/
def events (i : Nat) : List RetryEvent := (s.iteration i).log.filterMap Effect.retryEvent?

/-- Iteration `i` ends the loop, and what it announced is settled unless the attempt
has a second cause. -/
def Concludes (i : Nat) : Prop :=
  (∀ event ∈ s.events i, event.context.attempt = i) ∧
    ∃ r, (s.iteration i).exit? = some r ∧ (Settled (s.events i) r ↔ ¬ s.SecondCause i)

/-- The event for a decision to retry. -/
def IsScheduled (i : Nat) (event : RetryEvent) : Prop :=
  event.kind = .scheduled ∧ event.context.attempt = i

variable {s} {i : Nat}

/-! ### What one attempt announces -/

theorem filterMap_retryEvent_observed {observe : RetryObserver} (list : List RetryEvent) :
    (observed (some observe) list : List (Effect B)).filterMap Effect.retryEvent? = list := by
  induction list with
  | nil => rfl
  | cons event rest ih => simpa [observed, Effect.retryEvent?] using ih

/-- The events of an attempt whose response, if any, goes to a handler. -/
def responseEvents (s : RetrySeries B V) (i : Nat) : List RetryEvent :=
  match s.world.session i with
  | .error _ => []
  | .ok response => suppressedEvents s.policy (s.responseContext i response)

theorem filterMap_retryEvent_attemptLog {observe : RetryObserver}
    (observer : s.args.retryObserver = some observe) (i : Nat) :
    (s.attemptLog i).filterMap Effect.retryEvent? = s.responseEvents i := by
  rw [attemptLog, List.filterMap_cons_none rfl, observer, responseEvents]
  cases s.world.session i with
  | error exc => rfl
  | ok response =>
      rw [List.filterMap_append, filterMap_retryEvent_observed, dispatch,
        filterMap_applyHandler_log (fun _ => rfl) (fun _ _ => rfl), List.append_nil]

theorem suppressedEvents_cases (policy : RetryPolicy) (context : RetryContext) :
    suppressedEvents policy context = [] ∨
      ∃ event, suppressedEvents policy context = [event] ∧ event.context = context ∧
        event.kind ≠ .scheduled := by
  rcases h : policy.suppressionReason context with _ | reason
  · exact .inl (by simp only [suppressedEvents, h])
  · refine .inr ⟨⟨suppressionKind reason, context, .zero, reason⟩,
      by simp only [suppressedEvents, h], rfl, ?_⟩
    simp only [suppressionKind]
    split <;> simp

theorem suppressedEvents_eq_nil_iff {policy : RetryPolicy} {context : RetryContext} :
    suppressedEvents policy context = [] ↔
      policy.matchesOutcome context = false ∨ policy.shouldRetry context = true := by
  constructor
  · intro h
    cases matched : policy.matchesOutcome context with
    | false => exact .inl rfl
    | true =>
        right
        by_contra notRetried
        obtain ⟨reason, suppressed⟩ :=
          RetryPolicy.suppressed_of_not_shouldRetry matched (by simpa using notRetried)
        simp [suppressedEvents, suppressed] at h
  · rintro (unmatched | retried)
    · exact suppressedEvents_of_unmatched unmatched
    · simp only [suppressedEvents, ((policy.shouldRetry_iff _).mp retried).2]

theorem settled_nil {α : Type} (r : Except Exn α) : Settled [] r := by
  simp [Settled]

theorem settled_singleton {α : Type} {event : RetryEvent} (kind : event.kind ≠ .scheduled)
    {r : Except Exn α} (h : ∀ exc, r = .error exc → exc.isCancelledError = false) :
    Settled [event] r := by
  refine ⟨?_, fun exc ended cancelled => ?_⟩
  · rcases hk : event.kind <;> simp_all
  · rw [h exc ended] at cancelled
    cases cancelled

theorem settled_error {α : Type} {event : RetryEvent} (kind : event.kind ≠ .scheduled)
    {exc : Exn} (h : exc.isCancelledError = false) :
    Settled [event] (.error exc : Except Exn α) :=
  settled_singleton kind fun exc' same => by rwa [← Except.error.inj same]

theorem not_settled_of_cancelled {α : Type} {event : RetryEvent} {rest : List RetryEvent}
    {exc : Exn} (cancelled : exc.isCancelledError = true) :
    ¬ Settled (event :: rest) (.error exc : Except Exn α) := by
  intro settled
  cases settled.2 exc rfl cancelled

theorem not_settled_pair {α : Type} (event event' : RetryEvent) (r : Except Exn α) :
    ¬ Settled [event, event'] r := by
  simp [Settled]

theorem exit_scheduled (log : List (Effect B)) (context : RetryContext) (reason : RetryReason)
    {delay : Delay} :
    (⟨log, (s.scheduled i context reason (.ok delay)).result⟩ : Async B (Option V)).exit? =
      match s.world.sleep i with
      | .ok _ => none
      | .error exc => some (.error exc) := by
  cases slept : s.world.sleep i <;> simp [Traced.exit?, scheduled, slept, Except.map]

theorem filterMap_retryEvent_scheduled {observe : RetryObserver}
    (observer : s.args.retryObserver = some observe) (context : RetryContext)
    (reason : RetryReason) (delay : Delay) :
    (s.scheduled i context reason (.ok delay)).log.filterMap Effect.retryEvent? =
      [⟨.scheduled, context, delay, reason⟩] := by
  rw [scheduled, observer, List.filterMap_append, filterMap_retryEvent_observed]
  rfl

theorem retryAfter_of_not_retried (h : s.retriesResponse i = false) : s.retryAfter i = none := by
  cases session : s.world.session i <;> simp [retryAfter, session, h]

/-- Where the exception of an attempt is retried, its response was not an outcome of
the policy: both would be suppressed alike. -/
theorem responseEvents_of_should {exc : Exn}
    (should : s.policy.shouldRetry (s.failedContext i exc) = true) : s.responseEvents i = [] := by
  rw [responseEvents]
  cases session : s.world.session i with
  | error exc => rfl
  | ok response =>
      obtain ⟨matched, unsuppressed⟩ := (s.policy.shouldRetry_iff _).mp should
      apply suppressedEvents_eq_nil_iff.mpr
      cases outcome : s.policy.matchesOutcome (s.responseContext i response) with
      | false => exact .inl rfl
      | true =>
          rw [suppressionReason_failedContext (matched.trans outcome.symm)] at unsuppressed
          exact .inr ((s.policy.shouldRetry_iff _).mpr ⟨outcome, unsuppressed⟩)

/-- Given how the attempt failed, a second cause needs an event for the response and
an exception that is an outcome of the policy or a cancellation. -/
theorem secondCause_iff {exc : Exn} (notRetried : s.retriesResponse i = false)
    (ended : s.attemptEnd i = .error exc) :
    s.SecondCause i ↔ s.responseEvents i ≠ [] ∧
      ((exc.isException = true ∧ s.policy.matchesOutcome (s.failedContext i exc) = true) ∨
        exc.unwrapObservableTransportError.isCancelledError = true) := by
  cases session : s.world.session i with
  | error exc' => simp [SecondCause, responseEvents, session]
  | ok response =>
      rw [retriesResponse_of_session session] at notRetried
      simp only [attemptEnd, session] at ended
      simp [SecondCause, responseEvents, session, suppressedEvents_eq_nil_iff, notRetried, ended]

/-- An outcome of a policy is never a cancellation. -/
theorem not_cancelled_of_matched {exc : Exn}
    (matched : s.policy.matchesOutcome (s.failedContext i exc) = true) :
    exc.unwrapObservableTransportError.isCancelledError = false := by
  cases cancelled : exc.unwrapObservableTransportError.isCancelledError with
  | false => rfl
  | true =>
      simp [RetryPolicy.matchesOutcome, failedContext, RetryContext.failedContext, cancelled]
        at matched

theorem not_secondCause_of_value {v : V} (ended : s.attemptEnd i = .ok v) :
    ¬ s.SecondCause i := by
  rintro ⟨response, exc, session, -, -, failed, -⟩
  simp [attemptEnd, session, failed] at ended

theorem responseEvents_cases (h₁ : 1 ≤ i) (h₂ : i ≤ s.policy.maxAttempts) :
    s.responseEvents i = [] ∨ ∃ event, s.responseEvents i = [event] ∧
      event.context.attempt = i ∧ event.kind ≠ .scheduled := by
  rw [responseEvents]
  cases session : s.world.session i with
  | error exc => exact .inl rfl
  | ok response =>
      apply (suppressedEvents_cases s.policy _).imp_right
      rintro ⟨event, single, context, kind⟩
      exact ⟨event, single, by rw [context, responseContext_attempt h₁ h₂], kind⟩

/-- A response that is retried is the only cause of its attempt. -/
theorem not_secondCause_of_response {response : Response B}
    (session : s.world.session i = .ok response)
    (retry : s.policy.shouldRetry (s.responseContext i response) = true) : ¬ s.SecondCause i := by
  rintro ⟨response', -, session', -, notRetried, -⟩
  rw [session, Except.ok.injEq] at session'
  rw [← session', retry] at notRetried
  cases notRetried

section Observer

variable {observe : RetryObserver} (observer : s.args.retryObserver = some observe)
  (total : observe.Total) (h₁ : 1 ≤ i) (h₂ : i ≤ s.policy.maxAttempts)

include observer in
theorem totalObserver (total : observe.Total) :
    ∀ observe ∈ s.args.retryObserver, observe.Total := by
  rw [observer]
  rintro _ ⟨⟩
  exact total

include observer total h₁ h₂

/-- A retried attempt announces that, and only that. -/
theorem iteration_of_waits {delay : Delay} (waits : s.Waits i delay) :
    (∃ event, IsScheduled i event ∧ s.events i = [event]) ∧
      (s.iteration i).exit? =
        match s.world.sleep i with
        | .ok _ => none
        | .error exc => some (.error exc) := by
  obtain ⟨context, deciding, should, caught, computed⟩ := waits
  have all := totalObserver observer total
  rcases decidingContext_cases deciding with
    ⟨response, retried, session, retry, rfl⟩ | ⟨exc, retried, ended, rfl⟩
  · simp only [retryAfter, session, retried, if_true] at computed
    rw [events, iteration_of_retried all h₁ h₂ session retry, computed, Traced.emit_bind]
    refine ⟨⟨⟨.scheduled, s.responseContext i response, delay, .status⟩,
      ⟨rfl, responseContext_attempt h₁ h₂⟩, ?_⟩, exit_scheduled _ _ _⟩
    rw [List.filterMap_cons_none rfl, filterMap_retryEvent_scheduled observer]
  · rw [retryAfter_of_not_retried retried] at computed
    rw [events, iteration_of_failure_retried all h₁ h₂ retried ended (caught exc retried ended)
      should, computed, Traced.mk_ok_bind]
    refine ⟨⟨⟨.scheduled, s.failedContext i exc, delay, .exception⟩,
      ⟨rfl, failedContext_attempt h₁ h₂⟩, ?_⟩, exit_scheduled _ _ _⟩
    rw [List.filterMap_append, filterMap_retryEvent_attemptLog observer,
      responseEvents_of_should should, filterMap_retryEvent_scheduled observer, List.nil_append]

theorem concludes_of_response {response : Response B} (session : s.world.session i = .ok response)
    (retry : s.policy.shouldRetry (s.responseContext i response) = true)
    (notWaits : ∀ delay, ¬ s.Waits i delay) : s.Concludes i := by
  have retried : s.retriesResponse i = true := by rw [retriesResponse_of_session session, retry]
  have noSecond : ¬ s.SecondCause i := not_secondCause_of_response session retry
  obtain ⟨exc, failed⟩ : ∃ exc, s.delay i (s.responseContext i response)
      (response.headers.get? "Retry-After") = .error exc := by
    cases computed : s.delay i (s.responseContext i response)
        (response.headers.get? "Retry-After") with
    | error exc => exact ⟨exc, rfl⟩
    | ok delay =>
        refine absurd ⟨_, decidingContext_of_response session retry, retry, ?_, ?_⟩
          (notWaits delay)
        · simp [retried]
        · simpa only [retryAfter, session, retried, if_true] using computed
  have iteration := iteration_of_retried (totalObserver observer total) h₁ h₂ session retry
  rw [failed] at iteration
  have none : s.events i = [] := by
    rw [events, iteration]
    rfl
  refine ⟨by simp [none], .error exc, ?_, by simp [none, settled_nil, noSecond]⟩
  rw [iteration]
  rfl

theorem concludes_of_value {v : V} (retried : s.retriesResponse i = false)
    (ended : s.attemptEnd i = .ok v) : s.Concludes i := by
  have iteration := iteration_of_value (totalObserver observer total) h₁ h₂ retried ended
  have only : s.events i = s.responseEvents i := by
    rw [events, iteration, filterMap_retryEvent_attemptLog observer]
  rw [Concludes, iteration, only]
  rcases responseEvents_cases h₁ h₂ (s := s) with none | ⟨event, single, attempt, kind⟩
  · exact ⟨by simp [none], .ok v, rfl,
      by simp [none, settled_nil, not_secondCause_of_value ended]⟩
  · exact ⟨by simp [single, attempt], .ok v, rfl,
      by simp [single, settled_singleton kind, not_secondCause_of_value ended]⟩

theorem concludes_of_uncaught {exc : Exn} (retried : s.retriesResponse i = false)
    (ended : s.attemptEnd i = .error exc) (isException : exc.isException = false) :
    s.Concludes i := by
  have iteration :=
    iteration_of_uncaught (totalObserver observer total) h₁ h₂ retried ended isException
  have only : s.events i = s.responseEvents i := by
    rw [events, iteration, filterMap_retryEvent_attemptLog observer]
  rw [Concludes, iteration, only, secondCause_iff retried ended, unwrap_of_uncaught isException,
    isException]
  rcases responseEvents_cases h₁ h₂ (s := s) with none | ⟨event, single, attempt, kind⟩
  · exact ⟨by simp [none], .error exc, rfl, by simp [none, settled_nil]⟩
  · refine ⟨by simp [single, attempt], .error exc, rfl, ?_⟩
    cases cancelled : exc.isCancelledError with
    | true => simp [single, not_settled_of_cancelled cancelled]
    | false => simp [single, settled_error kind cancelled]

/-- The delay after a failure could not be computed. -/
theorem concludes_of_failure {exc : Exn} (retried : s.retriesResponse i = false)
    (ended : s.attemptEnd i = .error exc) (isException : exc.isException = true)
    (should : s.policy.shouldRetry (s.failedContext i exc) = true)
    (notWaits : ∀ delay, ¬ s.Waits i delay) : s.Concludes i := by
  have quiet := responseEvents_of_should should
  obtain ⟨exc', failed⟩ : ∃ exc', s.delay i (s.failedContext i exc) none = .error exc' := by
    cases computed : s.delay i (s.failedContext i exc) none with
    | error exc' => exact ⟨exc', rfl⟩
    | ok delay =>
        refine absurd ⟨_, decidingContext_of_failure retried ended, should, ?_, ?_⟩
          (notWaits delay)
        · rintro exc' - ended'
          rw [ended, Except.error.injEq] at ended'
          rwa [← ended']
        · rwa [retryAfter_of_not_retried retried]
  have iteration := iteration_of_failure_retried (totalObserver observer total) h₁ h₂ retried ended
    isException should
  rw [failed] at iteration
  have none : s.events i = [] := by
    rw [events, iteration, Traced.mk_ok_bind, List.filterMap_append,
      filterMap_retryEvent_attemptLog observer, quiet]
    rfl
  refine ⟨by simp [none], .error exc', ?_, ?_⟩
  · rw [iteration]
    rfl
  · simp [none, settled_nil, secondCause_iff retried ended, quiet]

theorem concludes_of_raised {exc : Exn} (retried : s.retriesResponse i = false)
    (ended : s.attemptEnd i = .error exc) (isException : exc.isException = true)
    (raised : s.policy.shouldRetry (s.failedContext i exc) = false) : s.Concludes i := by
  have iteration := iteration_of_failure_raised (totalObserver observer total) h₁ h₂ retried ended
    isException raised
  have both : s.events i =
      s.responseEvents i ++ suppressedEvents s.policy (s.failedContext i exc) := by
    rw [events, iteration, List.filterMap_append, filterMap_retryEvent_attemptLog observer,
      observer, filterMap_retryEvent_observed]
  have failure : suppressedEvents s.policy (s.failedContext i exc) = [] ↔
      s.policy.matchesOutcome (s.failedContext i exc) = false := by
    rw [suppressedEvents_eq_nil_iff, raised, Bool.false_eq_true, or_false]
  rw [Concludes, iteration, both, secondCause_iff retried ended, isException]
  rcases responseEvents_cases h₁ h₂ (s := s) with none | ⟨event, single, attempt, kind⟩ <;>
    rcases suppressedEvents_cases s.policy (s.failedContext i exc) with
      none' | ⟨event', single', context', kind'⟩
  · exact ⟨by simp [none, none'], .error _, rfl, by simp [none, none', settled_nil]⟩
  · have attempt' : event'.context.attempt = i := by rw [context', failedContext_attempt h₁ h₂]
    have matched : s.policy.matchesOutcome (s.failedContext i exc) = true := by
      simpa [single'] using failure
    exact ⟨by simp [none, single', attempt'], _, rfl,
      by simp [none, single', settled_error kind' (not_cancelled_of_matched matched)]⟩
  · have unmatched := failure.mp none'
    refine ⟨by simp [single, none', attempt], _, rfl, ?_⟩
    cases cancelled : exc.unwrapObservableTransportError.isCancelledError with
    | true => simp [single, none', not_settled_of_cancelled cancelled]
    | false => simp [single, none', settled_error kind cancelled, unmatched]
  · have attempt' : event'.context.attempt = i := by rw [context', failedContext_attempt h₁ h₂]
    have matched : s.policy.matchesOutcome (s.failedContext i exc) = true := by
      simpa [single'] using failure
    exact ⟨by simp [single, single', attempt, attempt'], _, rfl,
      by simp [single, single', matched, not_settled_pair]⟩

/-- An attempt that is not retried ends the loop, and what it announces is settled
unless its response was suppressed and its handler gives a second cause. -/
theorem concludes_of_not_waits (notWaits : ∀ delay, ¬ s.Waits i delay) : s.Concludes i := by
  cases retried : s.retriesResponse i with
  | true =>
      obtain ⟨response, session, retry⟩ := exists_response retried
      exact concludes_of_response observer total h₁ h₂ session retry notWaits
  | false =>
      cases ended : s.attemptEnd i with
      | ok v => exact concludes_of_value observer total h₁ h₂ retried ended
      | error exc =>
          cases isException : exc.isException with
          | false => exact concludes_of_uncaught observer total h₁ h₂ retried ended isException
          | true =>
              cases should : s.policy.shouldRetry (s.failedContext i exc) with
              | true =>
                  exact concludes_of_failure observer total h₁ h₂ retried ended isException should
                    notWaits
              | false =>
                  exact concludes_of_raised observer total h₁ h₂ retried ended isException should

end Observer

theorem decidingContext_attempt (h₁ : 1 ≤ i) (h₂ : i ≤ s.policy.maxAttempts)
    {context : RetryContext} (deciding : s.decidingContext i = some context) :
    context.attempt = i := by
  rcases decidingContext_cases deciding with ⟨response, -, -, -, rfl⟩ | ⟨exc, -, -, rfl⟩
  · exact responseContext_attempt h₁ h₂
  · exact failedContext_attempt h₁ h₂

theorem not_waits_of_budget (delay : Delay) : ¬ s.Waits s.policy.maxAttempts delay := by
  rintro ⟨context, deciding, should, -⟩
  have number := decidingContext_attempt s.policy.maxAttempts_pos (Nat.le_refl _) deciding
  rw [s.policy.shouldRetry_of_budget (Nat.le_of_eq number.symm)] at should
  cases should

/-! ### What a run announces -/

/-- The events about one attempt of a list of iterations are those of its iteration. -/
theorem filter_events {k : Nat}
    (own : ∀ i, 1 ≤ i → i ≤ k → ∀ event ∈ s.events i, event.context.attempt = i) (j : Nat) :
    (((List.range' 1 k).flatMap fun i => (s.iteration i).log).filterMap
        Effect.retryEvent?).filter (fun event => event.context.attempt = j) =
      if 1 ≤ j ∧ j ≤ k then s.events j else [] := by
  have others (items : List Nat) (h : ∀ i ∈ items, i ≠ j ∧ 1 ≤ i ∧ i ≤ k) :
      (items.flatMap s.events).filter (fun event => event.context.attempt = j) = [] := by
    simp only [List.filter_eq_nil_iff, List.mem_flatMap]
    rintro event ⟨i, hi, member⟩
    obtain ⟨ne, h₁, h₂⟩ := h i hi
    simpa [own i h₁ h₂ event member] using ne
  rw [List.filterMap_flatMap]
  change ((List.range' 1 k).flatMap s.events).filter _ = _
  split
  · rename_i h
    rw [Traced.range'_split h.1 h.2, List.flatMap_append, List.flatMap_cons, List.filter_append,
      List.filter_append, others, others, List.nil_append, List.append_nil, List.filter_eq_self]
    · simpa using own j h.1 h.2
    · intro i hi
      rw [List.mem_range'_1] at hi
      omega
    · intro i hi
      rw [List.mem_range'_1] at hi
      omega
  · exact others _ fun i hi => by
      rw [List.mem_range'_1] at hi
      omega

theorem not_secondCause_of_waits {delay : Delay} (waits : s.Waits i delay) :
    ¬ s.SecondCause i := by
  obtain ⟨context, deciding, should, -⟩ := waits
  rcases decidingContext_cases deciding with
    ⟨response, -, session, retry, -⟩ | ⟨exc, retried, ended, rfl⟩
  · exact not_secondCause_of_response session retry
  · simp [secondCause_iff retried ended, responseEvents_of_should should]

theorem not_settled_scheduled {α : Type} {event : RetryEvent} (scheduled : IsScheduled i event)
    (r : Except Exn α) : ¬ Settled [event] r := by
  simp [Settled, scheduled.1]

theorem attemptsMade_loop {k : Nat} {r : Except Exn V} (h₁ : 1 ≤ k)
    (h₂ : k ≤ s.policy.maxAttempts) (leaves : (s.iteration k).exit? = some r)
    (continues : ∀ j, 1 ≤ j → j < k → (s.iteration j).exit? = none) :
    attemptsMade s.loop = k := by
  rw [attemptsMade, loop_of_exit h₁ h₂ continues leaves, filterMap_request_iterations h₂,
    List.length_replicate]

section Run

variable {observe : RetryObserver} (observer : s.args.retryObserver = some observe)
  (total : observe.Total)

include observer total

theorem exit_eq_none_iff (h₁ : 1 ≤ i) (h₂ : i ≤ s.policy.maxAttempts) :
    (s.iteration i).exit? = none ↔ (∃ delay, s.Waits i delay) ∧ s.world.sleep i = .ok () := by
  by_cases waits : ∃ delay, s.Waits i delay
  · obtain ⟨delay, waits⟩ := waits
    rw [(iteration_of_waits observer total h₁ h₂ waits).2]
    cases s.world.sleep i with
    | ok _ => simpa using ⟨delay, waits⟩
    | error exc => simp
  · obtain ⟨-, r, leaves, -⟩ :=
      concludes_of_not_waits observer total h₁ h₂ fun delay h => waits ⟨delay, h⟩
    simp [leaves, waits]

theorem event_attempt (h₁ : 1 ≤ i) (h₂ : i ≤ s.policy.maxAttempts) :
    ∀ event ∈ s.events i, event.context.attempt = i := by
  by_cases waits : ∃ delay, s.Waits i delay
  · obtain ⟨delay, waits⟩ := waits
    obtain ⟨⟨event, scheduled, only⟩, -⟩ := iteration_of_waits observer total h₁ h₂ waits
    simp [only, scheduled.2]
  · exact (concludes_of_not_waits observer total h₁ h₂ fun delay h => waits ⟨delay, h⟩).1

/-- Where the loop ends, settled events are the absence of both defects. -/
theorem settled_iff (h₁ : 1 ≤ i) (h₂ : i ≤ s.policy.maxAttempts) {r : Except Exn V}
    (leaves : (s.iteration i).exit? = some r) :
    Settled (s.events i) r ↔ ¬ s.SecondCause i ∧ ¬ s.InterruptedSleep i := by
  by_cases waits : ∃ delay, s.Waits i delay
  · have interrupted : s.InterruptedSleep i := by
      refine ⟨waits, ?_⟩
      cases slept : s.world.sleep i with
      | ok _ =>
          rw [(exit_eq_none_iff observer total h₁ h₂).mpr ⟨waits, slept⟩] at leaves
          cases leaves
      | error exc => exact ⟨exc, rfl⟩
    obtain ⟨delay, waits⟩ := waits
    obtain ⟨⟨event, scheduled, only⟩, -⟩ := iteration_of_waits observer total h₁ h₂ waits
    simp [only, not_settled_scheduled scheduled, interrupted]
  · obtain ⟨-, r', leaves', settled⟩ :=
      concludes_of_not_waits observer total h₁ h₂ fun delay h => waits ⟨delay, h⟩
    obtain rfl : r = r' := by rwa [leaves, Option.some.injEq] at leaves'
    simp [settled, InterruptedSleep, waits]

/-- Some iteration ends the loop, and those before it go on. -/
theorem exists_exit : ∃ k r, 1 ≤ k ∧ k ≤ s.policy.maxAttempts ∧
    (s.iteration k).exit? = some r ∧ ∀ j, 1 ≤ j → j < k → (s.iteration j).exit? = none := by
  have leavesAtBudget : (s.iteration s.policy.maxAttempts).exit? ≠ none := by
    rw [Ne, exit_eq_none_iff observer total s.policy.maxAttempts_pos (Nat.le_refl _)]
    rintro ⟨⟨delay, waits⟩, -⟩
    exact not_waits_of_budget delay waits
  obtain ⟨k, h₁, h₂, exits, first⟩ : ∃ k, 1 ≤ k ∧ k ≤ s.policy.maxAttempts ∧
      (s.iteration k).exit? ≠ none ∧ ∀ j, 1 ≤ j → j < k → ¬ (s.iteration j).exit? ≠ none :=
    Traced.exists_least
      ⟨s.policy.maxAttempts, s.policy.maxAttempts_pos, Nat.le_refl _, leavesAtBudget⟩
  obtain ⟨r, leaves⟩ := Option.ne_none_iff_exists'.mp exits
  exact ⟨k, r, h₁, h₂, leaves, fun j hj lt => by simpa using first j hj lt⟩

section Exit

variable {k : Nat} {r : Except Exn V} (h₁ : 1 ≤ k) (h₂ : k ≤ s.policy.maxAttempts)
  (leaves : (s.iteration k).exit? = some r)
  (continues : ∀ j, 1 ≤ j → j < k → (s.iteration j).exit? = none)

include h₁ h₂ leaves continues

theorem eventsOf_loop (j : Nat) :
    eventsOf j s.loop = if 1 ≤ j ∧ j ≤ k then s.events j else [] := by
  rw [eventsOf, loop_of_exit h₁ h₂ continues leaves]
  exact filter_events (fun i hi hk => event_attempt observer total hi (by omega)) j

/-- A run makes one decision per attempt exactly when its last iteration is settled: those
before it announce their retries. -/
theorem oneDecision_loop_iff_settled : OneDecision s.loop ↔ Settled (s.events k) r := by
  have made := attemptsMade_loop h₁ h₂ leaves continues
  have about := eventsOf_loop observer total h₁ h₂ leaves continues
  have result := congrArg Traced.result (loop_of_exit h₁ h₂ continues leaves)
  constructor
  · rintro ⟨-, last, -, cancelled⟩
    rw [made, about, if_pos ⟨h₁, Nat.le_refl k⟩] at last cancelled
    refine ⟨last, fun exc ended => cancelled exc ?_⟩
    rw [result, ended]
    rfl
  · rintro ⟨last, cancelled⟩
    refine ⟨?_, ?_, ?_, ?_⟩
    · rw [made]
      intro j hj lt
      obtain ⟨⟨delay, waits⟩, -⟩ :=
        (exit_eq_none_iff observer total hj (by omega)).mp (continues j hj lt)
      obtain ⟨⟨event, scheduled, only⟩, -⟩ :=
        iteration_of_waits observer total hj (by omega) waits
      rw [about, if_pos ⟨hj, lt.le⟩, only, List.map_singleton, scheduled.1]
    · rwa [made, about, if_pos ⟨h₁, Nat.le_refl k⟩]
    · rw [made]
      intro j lt
      rw [about, if_neg (by omega)]
    · rw [made, about, if_pos ⟨h₁, Nat.le_refl k⟩, result]
      intro exc ended
      apply cancelled exc
      cases r with
      | ok v => cases ended
      | error exc' => simpa [Except.map] using ended

end Exit

/-- A run makes one decision per attempt exactly when no attempt it reaches has a
second cause or an interrupted sleep. -/
theorem oneDecision_loop_iff :
    OneDecision s.loop ↔ ∀ i, 1 ≤ i → i ≤ s.policy.maxAttempts → s.Reached i →
      ¬ s.SecondCause i ∧ ¬ s.InterruptedSleep i := by
  obtain ⟨k, r, h₁, h₂, leaves, continues⟩ := exists_exit observer total
  have goesOn (j : Nat) (hj : 1 ≤ j) (lt : j < k) :
      (∃ delay, s.Waits j delay) ∧ s.world.sleep j = .ok () :=
    (exit_eq_none_iff observer total hj (by omega)).mp (continues j hj lt)
  rw [oneDecision_loop_iff_settled observer total h₁ h₂ leaves continues,
    settled_iff observer total h₁ h₂ leaves]
  constructor
  · intro good i hi hN reached
    rcases Nat.lt_trichotomy i k with lt | rfl | gt
    · obtain ⟨⟨delay, waits⟩, slept⟩ := goesOn i hi lt
      exact ⟨not_secondCause_of_waits waits, by simp [InterruptedSleep, slept]⟩
    · exact good
    · rw [(exit_eq_none_iff observer total h₁ h₂).mpr (reached k h₁ gt)] at leaves
      cases leaves
  · intro good
    exact good k h₁ h₂ goesOn

end Run

end RetrySeries

/-- With an observer that does not raise, `_make_req` announces one decision per
attempt exactly when no attempt it reaches has a second cause or an interrupted sleep. -/
theorem BaseHttpClient.makeReq_oneDecision_iff {rt : Runtime} {client : BaseHttpClient}
    {world : World B} {call : CallArgs B V} {policy : RetryPolicy} {observe : RetryObserver}
    (retry : call.retry = some policy) (observer : call.retryObserver = some observe)
    (total : observe.Total) :
    OneDecision (client.makeReq rt world call) ↔
      ∀ kwargs, normalizeAuthKwargs rt (client.injectProxy call.kwargs) client.proxyAuth =
          .ok kwargs →
        ∀ i, 1 ≤ i → i ≤ policy.maxAttempts →
          (client.series rt world call policy kwargs).Reached i →
            ¬ (client.series rt world call policy kwargs).SecondCause i ∧
              ¬ (client.series rt world call policy kwargs).InterruptedSleep i := by
  cases prepared : normalizeAuthKwargs rt (client.injectProxy call.kwargs) client.proxyAuth with
  | error exc =>
      simp only [BaseHttpClient.makeReq_of_refused rt prepared, reduceCtorEq, false_implies,
        implies_true, iff_true]
      refine ⟨?_, by simp [eventsOf], fun j _ => rfl, fun _ _ _ => rfl⟩
      intro j _ none
      cases none
  | ok kwargs =>
      rw [BaseHttpClient.makeReq_eq_loop prepared retry,
        RetrySeries.oneDecision_loop_iff observer total]
      simp only [Except.ok.injEq, forall_eq']
      rfl

/-- The only attempt gets a 503, and its handler times out. -/
def Sample.timedOut : CallArgs Unit Nat where
  method := "GET"
  url := Sample.url
  handlers := Sample.handlers [(.status 503, Sample.handler (.error Sample.timeout))]
  retry := some (Sample.policy 0)
  retryObserver := some fun _ => .ok ()

theorem BaseHttpClient.makeReq_oneDecision_iff_sample :
    let world := Sample.world fun _ => .ok (Sample.response 503)
    let series := Sample.client.series Sample.runtime world Sample.timedOut (Sample.policy 0)
    OneDecision (Sample.client.makeReq Sample.runtime world Sample.timedOut) ↔
      ∀ kwargs, normalizeAuthKwargs Sample.runtime
          (Sample.client.injectProxy Sample.timedOut.kwargs) none = .ok kwargs →
        ∀ i, 1 ≤ i → i ≤ 1 → (series kwargs).Reached i →
          ¬ (series kwargs).SecondCause i ∧ ¬ (series kwargs).InterruptedSleep i := by
  have retry : Sample.timedOut.retry = some (Sample.policy 0) := rfl
  have observer : Sample.timedOut.retryObserver = some fun _ => .ok () := rfl
  exact BaseHttpClient.makeReq_oneDecision_iff retry observer fun _ => rfl

/-- Two events announce the end of that attempt. -/
theorem BaseHttpClient.makeReq_oneDecision_fails :
    ¬ OneDecision (Sample.client.makeReq Sample.runtime
      (Sample.world fun _ => .ok (Sample.response 503)) Sample.timedOut) := by
  intro one
  have last := one.last
  revert last
  decide

end Asyncly
