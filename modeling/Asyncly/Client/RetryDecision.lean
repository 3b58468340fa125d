import Asyncly.Client.RetryEvents

/-!
# Decisions under any observer

An observer may raise, and then an attempt does not end the way `should_retry` says.
One direction stays: whatever the observer does, the loop goes on after an attempt only
when `should_retry` holds for its outcome.
-/

namespace Asyncly

variable {B V : Type}

/-- Only `should_retry` turns a response into a marker. -/
theorem shouldRetry_of_marker {args : RequestArgs B V} {response : Response B}
    {policy : RetryPolicy} {context : RetryContext} {retryable : RetryableResponse}
    (given : args.retry = some policy) (number : args.retryContext = some context)
    (fresh : context.exception = none)
    (marked : (interceptResponse args response).result = .ok (some retryable)) :
    policy.shouldRetry (context.responseContext response.status) = true := by
  by_contra notRetried
  rw [interceptResponse_of_not_retried given number fresh (by simpa using notRetried)] at marked
  split at marked
  · rename_i suppression _
    cases told : (notifyRetryObserver args.retryObserver ⟨suppressionKind suppression,
        context.responseContext response.status, .zero, suppression⟩ : Async B Unit).result with
    | ok _ =>
        rw [Traced.bind_of_ok _ told] at marked
        cases marked
    | error exc =>
        rw [Traced.bind_of_error _ told] at marked
        cases marked
  · cases marked

/-- Only `should_retry` gives a delay after an exception. -/
theorem shouldRetry_of_retryExceptionDelay {rt : Runtime} {policy : RetryPolicy}
    {context : RetryContext} {observer : Option RetryObserver} {caught : Exn} {now : DateTime}
    {delay : Delay} (fresh : context.responseStatus = none)
    (computed : (retryExceptionDelay rt policy context observer caught now :
      Async B Delay).result = .ok delay) :
    policy.shouldRetry (context.failedContext caught.unwrapObservableTransportError) = true := by
  rw [policy.shouldRetry_iff]
  rw [retryExceptionDelay, RetryContext.withException_ok fresh, Traced.ofExcept_ok_bind] at computed
  split at computed
  · rename_i matched
    refine ⟨matched, ?_⟩
    split at computed
    · rename_i suppression _
      cases told : (notifyRetryObserver observer ⟨suppressionKind suppression,
          context.failedContext caught.unwrapObservableTransportError, .zero, suppression⟩ :
          Async B Unit).result with
      | ok _ =>
          rw [Traced.bind_of_ok _ told] at computed
          cases computed
      | error exc =>
          rw [Traced.bind_of_error _ told] at computed
          cases computed
    · assumption
  · cases computed

/-- A marker comes from a response, before any handler. -/
theorem requestOnce_marker {world : World B} {clientName : String} {args : RequestArgs B V}
    {handlers : Handlers (Entry B V)} {retryable : RetryableResponse}
    (marked : (requestOnce world clientName args handlers).result = .ok (.retryable retryable)) :
    ∃ response, world.session args.slot = .ok response ∧
      (interceptResponse args response).result = .ok (some retryable) := by
  cases session : world.session args.slot with
  | error exc =>
      rw [requestOnce_of_error session] at marked
      cases marked
  | ok response =>
      refine ⟨response, rfl, ?_⟩
      obtain ⟨log, intercepted⟩ : ∃ log,
          interceptResponse args response = ⟨log, (interceptResponse args response).result⟩ :=
        ⟨_, rfl⟩
      generalize (interceptResponse args response).result = result at intercepted
      cases result with
      | error exc =>
          rw [requestOnce_of_observer session intercepted] at marked
          cases marked
      | ok outcome =>
          cases outcome with
          | some other =>
              rw [requestOnce_of_marker session intercepted] at marked
              cases marked
              rfl
          | none =>
              rw [requestOnce_of_dispatch session intercepted] at marked
              dsimp only at marked
              cases dispatched : (applyHandler handlers response clientName).result with
              | error exc =>
                  rw [dispatched] at marked
                  cases marked
              | ok v =>
                  rw [dispatched] at marked
                  cases marked

/-! ### Only the loop sleeps -/

/-- Every effect of the computation is something else than a sleep. -/
abbrev Awake {α : Type} (m : Async B α) : Prop := m.Only fun e => e.sleep? = none

theorem notifyRetryObserver_awake (observer : Option RetryObserver) (event : RetryEvent) :
    Awake (notifyRetryObserver observer event : Async B Unit) := by
  cases observer with
  | none => exact Traced.only_pure _
  | some observe =>
      exact Traced.only_bind (Traced.only_emit rfl) fun _ => Traced.only_ofExcept _

theorem interceptResponse_awake (args : RequestArgs B V) (response : Response B) :
    Awake (interceptResponse args response) := by
  rw [interceptResponse]
  split
  · refine Traced.only_bind (Traced.only_ofExcept _) fun context => ?_
    split
    · split
      · exact Traced.only_pure _
      · exact Traced.only_bind (notifyRetryObserver_awake _ _) fun _ => Traced.only_pure _
    · exact Traced.only_pure _
  · exact Traced.only_pure _

theorem requestOnce_awake (world : World B) (clientName : String) (args : RequestArgs B V)
    (handlers : Handlers (Entry B V)) : Awake (requestOnce world clientName args handlers) := by
  refine Traced.only_bind (Traced.only_emit rfl) fun _ => ?_
  refine Traced.only_bind (Traced.only_ofExcept _) fun response => ?_
  refine Traced.only_bind (interceptResponse_awake args response) fun intercepted => ?_
  cases intercepted with
  | some retryable => exact Traced.only_pure _
  | none =>
      refine Traced.only_bind (fun e he => ?_) fun _ => Traced.only_pure _
      have kind := only_applyHandler handlers response clientName e he
      cases e with
      | sleep _ => exact kind.elim
      | _ => rfl

theorem retryExceptionDelay_awake (rt : Runtime) (policy : RetryPolicy) (context : RetryContext)
    (observer : Option RetryObserver) (caught : Exn) (now : DateTime) :
    Awake (retryExceptionDelay rt policy context observer caught now : Async B Delay) := by
  refine Traced.only_bind (Traced.only_ofExcept _) fun failed => ?_
  split
  · split
    · exact Traced.only_bind (notifyRetryObserver_awake _ _) fun _ => Traced.only_raise _
    · refine Traced.only_bind (Traced.only_ofExcept _) fun delay => ?_
      exact Traced.only_bind (notifyRetryObserver_awake _ _) fun _ => Traced.only_pure _
  · exact Traced.only_raise _

/-! ### The loop -/

namespace RetrySeries

variable {s : RetrySeries B V} {i : Nat}

/-- Whatever an attempt meets, the loop goes on after it only by `should_retry`. -/
theorem shouldRetry_of_continues (h₁ : 1 ≤ i) (h₂ : i ≤ s.policy.maxAttempts)
    (continues : (s.iteration i).exit? = none) :
    ∃ context, context.replayable = s.replayable ∧ context.attempt = i ∧
      s.policy.shouldRetry context = true := by
  have number := context_attempt (s := s) h₁ h₂
  rw [iteration, retryAttempt, init_context h₁ h₂, Traced.ofExcept_ok_bind] at continues
  change ((s.attempt i).catching Exn.isException >>= _).exit? = none at continues
  cases ended : (s.attempt i).result with
  | ok outcome =>
      rw [Traced.catching_of_ok ended, Traced.mk_ok_bind] at continues
      cases outcome with
      | value v => cases continues
      | retryable retryable =>
          obtain ⟨response, -, marked⟩ := requestOnce_marker ended
          exact ⟨s.responseContext i response, rfl, number,
            shouldRetry_of_marker rfl rfl rfl marked⟩
  | error exc =>
      cases caught : exc.isException with
      | false =>
          rw [Traced.catching_of_uncaught ended caught] at continues
          cases continues
      | true =>
          rw [Traced.catching_of_caught ended caught, Traced.mk_ok_bind] at continues
          cases computed : (retryExceptionDelay s.rt s.policy (s.context i) s.args.retryObserver
              exc (s.world.clock i) : Async B Delay).result with
          | ok delay =>
              exact ⟨s.failedContext i exc, rfl, number,
                shouldRetry_of_retryExceptionDelay rfl computed⟩
          | error raised =>
              dsimp only at continues
              rw [Traced.bind_of_error _ computed] at continues
              cases continues

/-- The loop never goes on after the last attempt of the budget. -/
theorem exists_exit_of_budget : ∃ r, (s.iteration s.policy.maxAttempts).exit? = some r := by
  rw [← Option.ne_none_iff_exists']
  intro continues
  obtain ⟨context, -, number, should⟩ :=
    shouldRetry_of_continues s.policy.maxAttempts_pos (Nat.le_refl _) continues
  rw [s.policy.shouldRetry_of_budget (Nat.le_of_eq number.symm)] at should
  cases should

/-- Nor does it sleep then: the end of the last attempt is the end of the loop. -/
theorem filterMap_sleep_of_budget :
    (s.iteration s.policy.maxAttempts).log.filterMap Effect.sleep? = [] := by
  have budget := s.policy.maxAttempts_pos
  have spent (context : RetryContext)
      (same : context.attempt = (s.context s.policy.maxAttempts).attempt) :
      ¬ s.policy.shouldRetry context = true := by
    rw [context_attempt budget (Nat.le_refl _)] at same
    simp [s.policy.shouldRetry_of_budget (Nat.le_of_eq same.symm)]
  have attempt : (s.attempt s.policy.maxAttempts).log.filterMap Effect.sleep? = [] :=
    (requestOnce_awake _ _ _ _).filterMap_eq_nil fun _ h => h
  rw [iteration, retryAttempt, init_context budget (Nat.le_refl _), Traced.ofExcept_ok_bind]
  change ((s.attempt s.policy.maxAttempts).catching Exn.isException >>= _).log.filterMap _ = _
  cases ended : (s.attempt s.policy.maxAttempts).result with
  | ok outcome =>
      rw [Traced.catching_of_ok ended, Traced.mk_ok_bind]
      cases outcome with
      | value v => simpa using attempt
      | retryable retryable =>
          obtain ⟨response, -, marked⟩ := requestOnce_marker ended
          exact absurd (shouldRetry_of_marker rfl rfl rfl marked)
            (spent (s.responseContext s.policy.maxAttempts response) rfl)
  | error exc =>
      cases caught : exc.isException with
      | false =>
          rw [Traced.catching_of_uncaught ended caught]
          exact attempt
      | true =>
          rw [Traced.catching_of_caught ended caught, Traced.mk_ok_bind]
          dsimp only
          cases computed : (retryExceptionDelay s.rt s.policy (s.context s.policy.maxAttempts)
              s.args.retryObserver exc (s.world.clock s.policy.maxAttempts) :
              Async B Delay).result with
          | ok delay =>
              exact absurd (shouldRetry_of_retryExceptionDelay rfl computed)
                (spent (s.failedContext s.policy.maxAttempts exc) rfl)
          | error raised =>
              rw [Traced.bind_of_error _ computed, List.filterMap_append, attempt]
              exact (retryExceptionDelay_awake _ _ _ _ _ _).filterMap_eq_nil fun _ h => h

/-- The loop over an iteration that leaves it makes as many attempts as came before. -/
theorem attemptsMade_of_exit {k : Nat} {r : Except Exn V} (h₁ : 1 ≤ k)
    (h₂ : k ≤ s.policy.maxAttempts)
    (continues : ∀ j, 1 ≤ j → j < k → (s.iteration j).exit? = none)
    (leaves : (s.iteration k).exit? = some r) : attemptsMade s.loop = k := by
  rw [attemptsMade, loop_of_exit h₁ h₂ continues leaves, filterMap_request_iterations h₂,
    List.length_replicate]

end RetrySeries

end Asyncly
