import Asyncly.Client.Pacing

/-!
# What a retried call raises

An exception may leave the loop from an attempt, from the computation of a delay, from the
observer or from a sleep, and each of these belongs to the last attempt that was made. The
wrapper of a transport error is taken off before, and the loop never runs out.
-/

namespace Asyncly

variable {B V : Type}

/-- What the loop tells an observer after attempt `i`: that another one is scheduled, or why
there is none for an exception the policy names. -/
inductive Told (s : RetrySeries B V) (attempt : Async B (RequestResult V)) (i : Nat) :
    RetryEvent → Prop
  | scheduled {context : RetryContext} {header : Option String} {reason : RetryReason}
      {delay : Delay} (due : SleepDue s attempt i context header reason delay) :
      Told s attempt i ⟨.scheduled, context, delay, reason⟩
  | suppressed {caught : Exn} {suppression : RetryReason} (ended : attempt.result = .error caught)
      (matched : s.policy.matchesOutcome (s.failedContext i caught) = true)
      (stopped : s.policy.suppressionReason (s.failedContext i caught) = some suppression) :
      Told s attempt i ⟨suppressionKind suppression, s.failedContext i caught, .zero, suppression⟩

/-- Where an exception after attempt `i` comes from. That of the attempt itself is raised
without its transport wrapper. -/
inductive RaisedAfter (s : RetrySeries B V) (attempt : Async B (RequestResult V)) (i : Nat) :
    Exn → Prop
  | attempt {caught : Exn} (ended : attempt.result = .error caught) :
      RaisedAfter s attempt i caught.unwrapObservableTransportError
  | delay {context : RetryContext} {header : Option String} {reason : RetryReason} {exc : Exn}
      (decided : DecidedOn s attempt i context header reason)
      (retried : s.policy.shouldRetry context = true)
      (failed : s.delay i context header = .error exc) : RaisedAfter s attempt i exc
  | observer {observe : RetryObserver} {event : RetryEvent} {exc : Exn}
      (given : s.args.retryObserver = some observe) (told : Told s attempt i event)
      (raised : observe event = .error exc) : RaisedAfter s attempt i exc
  | sleep {context : RetryContext} {header : Option String} {reason : RetryReason} {delay : Delay}
      {exc : Exn} (due : SleepDue s attempt i context header reason delay)
      (interrupted : s.world.sleep i = .error exc) : RaisedAfter s attempt i exc

/-- What a call with a policy raises: the refusal of its credentials, before any attempt, or
an exception after the last attempt it has made, which the budget allows. -/
def RaisesOnly (rt : Runtime) (client : BaseHttpClient) (world : World B) (call : CallArgs B V)
    (policy : RetryPolicy) (once : RequestArgs B V → Async B (RequestResult V)) : Prop :=
  let run := makeReq rt client once world call
  ∀ exc, run.result = .error exc →
    (attemptsMade run = 0 ∧
      normalizeAuthKwargs rt (client.injectProxy call.kwargs) client.proxyAuth = .error exc) ∨
    (1 ≤ attemptsMade run ∧ attemptsMade run ≤ policy.maxAttempts ∧ ∃ kwargs,
      normalizeAuthKwargs rt (client.injectProxy call.kwargs) client.proxyAuth = .ok kwargs ∧
        RaisedAfter (client.series rt world call policy kwargs)
          (once (client.attemptArgs rt world call kwargs (attemptsMade run)))
          (attemptsMade run) exc)

/-! ### One iteration -/

section Iteration

variable {s : RetrySeries B V} {once : RequestArgs B V → Async B (RequestResult V)} {i : Nat}
  {attempt : Async B (RequestResult V)} {context : RetryContext} {header : Option String}
  {reason : RetryReason} {event : RetryEvent} {exc : Exn}

theorem raisedAfter_of_notify (told : Told s attempt i event)
    (raised : (notifyRetryObserver s.args.retryObserver event : Async B Unit).result =
      .error exc) :
    RaisedAfter s attempt i exc := by
  cases given : s.args.retryObserver with
  | none =>
      rw [given] at raised
      cases raised
  | some observe =>
      rw [given] at raised
      exact .observer given told raised

/-- Between the decision to retry and the next attempt. -/
theorem raisedAfter_of_wait (decided : DecidedOn s attempt i context header reason)
    (retried : s.policy.shouldRetry context = true)
    (raised : (waitFor s.args.retryObserver context reason (s.delay i context header)
        (s.world.sleep i) : Async B (Option V)).result = .error exc) :
    RaisedAfter s attempt i exc := by
  rw [waitFor] at raised
  rcases Traced.bind_result_eq_error.mp raised with failed | ⟨delay, computed, raised⟩
  · exact .delay decided retried failed
  have due : SleepDue s attempt i context header reason delay := ⟨decided, retried, computed⟩
  rcases Traced.bind_result_eq_error.mp raised with told | ⟨_, -, raised⟩
  · exact raisedAfter_of_notify (.scheduled due) told
  rcases Traced.bind_result_eq_error.mp raised with emitted | ⟨_, -, raised⟩
  · cases emitted
  rcases Traced.bind_result_eq_error.mp raised with interrupted | ⟨_, -, raised⟩
  · exact .sleep due interrupted
  · cases raised

/-- After an exception the loop raises what it has caught, unless it waits. -/
theorem raisedAfter_of_failure {caught : Exn} (ended : attempt.result = .error caught)
    (isException : caught.isException = true)
    (raised : (do
        let delay ← retryExceptionDelay s.rt s.policy (s.context i) s.args.retryObserver caught
          (s.world.clock i)
        Traced.emit (.sleep delay)
        Traced.ofExcept (s.world.sleep i)
        pure none : Async B (Option V)).result = .error exc) :
    RaisedAfter s attempt i exc := by
  have failed : (s.context i).withException caught.unwrapObservableTransportError =
      .ok (s.failedContext i caught) := RetryContext.withException_ok rfl _
  cases matched : s.policy.matchesOutcome (s.failedContext i caught) with
  | false =>
      simp only [retryExceptionDelay, failed, Traced.ofExcept_ok_bind, matched,
        Bool.false_eq_true, if_false, Traced.raise_bind, Traced.raise_result,
        Except.error.injEq] at raised
      rw [← raised]
      exact .attempt ended
  | true =>
      cases stopped : s.policy.suppressionReason (s.failedContext i caught) with
      | none =>
          have retried : s.policy.shouldRetry (s.failedContext i caught) = true :=
            (s.policy.shouldRetry_iff _).mpr ⟨matched, stopped⟩
          refine raisedAfter_of_wait (.exception ended isException) retried ?_
          simpa only [retryExceptionDelay, failed, Traced.ofExcept_ok_bind, matched, stopped,
            if_true, waitFor, RetrySeries.delay, bind_assoc, pure_bind] using raised
      | some suppression =>
          simp only [retryExceptionDelay, failed, Traced.ofExcept_ok_bind, matched, stopped,
            if_true, bind_assoc] at raised
          rcases Traced.bind_result_eq_error.mp raised with told | ⟨_, -, raised⟩
          · exact raisedAfter_of_notify (.suppressed ended matched stopped) told
          · rw [Traced.raise_bind, Traced.raise_result, Except.error.injEq] at raised
            rw [← raised]
            exact .attempt ended

/-- Whatever the attempt is, an iteration raises for one of these reasons. -/
theorem raisedAfter_of_iteration (one : OneRequest s.world once) (h₁ : 1 ≤ i)
    (h₂ : i ≤ s.policy.maxAttempts) (raised : (s.iterationOf once i).result = .error exc) :
    RaisedAfter s (once (s.attemptArgs i)) i exc := by
  have number : (s.context i).attempt = i := RetrySeries.context_attempt h₁ h₂
  rw [RetrySeries.iterationOf, retryAttempt, RetrySeries.init_context h₁ h₂,
    Traced.ofExcept_ok_bind] at raised
  change ((once (s.attemptArgs i)).catching Exn.isException >>= _).result = _ at raised
  cases ended : (once (s.attemptArgs i)).result with
  | error caught =>
      cases isException : caught.isException with
      | false =>
          rw [Traced.catching_of_uncaught ended isException, Traced.mk_error_bind,
            Except.error.injEq] at raised
          rw [← raised, ← RetrySeries.unwrap_of_uncaught isException]
          exact .attempt ended
      | true =>
          rw [Traced.catching_of_caught ended isException, Traced.mk_ok_bind] at raised
          exact raisedAfter_of_failure ended isException raised
  | ok outcome =>
      rw [Traced.catching_of_ok ended] at raised
      cases outcome with
      | value v => cases raised
      | retryable retryable =>
          obtain ⟨response, session, retried, rfl⟩ := one.marked rfl rfl rfl ended
          rw [number] at session
          rw [Traced.mk_ok_bind] at raised
          exact raisedAfter_of_wait (.status session ended) retried raised

end Iteration

/-! ### The loop -/

section Loop

variable {s : RetrySeries B V} {once : RequestArgs B V → Async B (RequestResult V)} {exc : Exn}

/-- The last iteration of the budget leaves the loop. -/
theorem exists_exit_of_oneRequest (one : OneRequest s.world once) :
    ∃ r, (s.iterationOf once s.policy.maxAttempts).exit? = some r := by
  rw [← Option.ne_none_iff_exists']
  intro continues
  obtain ⟨rest, -, aftermath⟩ :=
    iterationOf_aftermath one s.policy.maxAttempts_pos (Nat.le_refl _)
  rw [continues] at aftermath
  cases aftermath with
  | sleeps reason justified =>
      obtain ⟨header, due⟩ := justified
      exact absurd (due.attempt_lt s.policy.maxAttempts_pos).1 (Nat.lt_irrefl _)

/-- A loop that raises has made its last attempt, and raises for what came after it. -/
theorem raisedAfter_of_loop (one : OneRequest s.world once)
    {loop : Async B V} (run : loop = Traced.forLoop (s.iterationOf once)
      (Traced.raise (.runtimeError "retry loop exited without a result"))
      (List.range' 1 s.policy.maxAttempts))
    (raised : loop.result = .error exc) :
    1 ≤ requestsIn loop.log ∧ requestsIn loop.log ≤ s.policy.maxAttempts ∧
      RaisedAfter s (once (s.attemptArgs (requestsIn loop.log))) (requestsIn loop.log) exc := by
  have leaves : ∃ k, 1 ≤ k ∧ k ≤ s.policy.maxAttempts ∧ ∃ r,
      (s.iterationOf once k).exit? = some r :=
    ⟨_, s.policy.maxAttempts_pos, Nat.le_refl _, exists_exit_of_oneRequest one⟩
  obtain ⟨k, h₁, h₂, ⟨r, leaves⟩, first⟩ := Traced.exists_least leaves
  have continues : ∀ j, 1 ≤ j → j < k → (s.iterationOf once j).exit? = none := by
    intro j hj lt
    by_contra exits
    exact first j hj lt (Option.ne_none_iff_exists'.mp exits)
  rw [Traced.forLoop_range'_of_exit h₁ h₂ continues leaves] at run
  have made : requestsIn loop.log = k := by
    obtain ⟨j, rfl⟩ : ∃ j, k = j + 1 := ⟨k - 1, by omega⟩
    obtain ⟨rest, block, aftermath⟩ := iterationOf_aftermath one h₁ h₂
    rw [run]
    dsimp only
    rw [Traced.flatMap_range'_succ, block, requestsIn_append, requestsIn_append,
      aftermath.requestsIn_eq_zero, one.request,
      (counts_iterations one h₂ continues (Nat.lt_succ_self j)).1]
  rw [made]
  refine ⟨h₁, h₂, raisedAfter_of_iteration one h₁ h₂ ?_⟩
  rw [← Traced.exit?_eq_some_error, leaves, ← raised, run]

end Loop

section Calls

variable {rt : Runtime} {world : World B} {call : CallArgs B V} {policy : RetryPolicy}
  {once : RequestArgs B V → Async B (RequestResult V)}

theorem raisesOnly_of_oneRequest (client : BaseHttpClient) (one : OneRequest world once)
    (retry : call.retry = some policy) : RaisesOnly rt client world call policy once := by
  intro exc raised
  generalize ran : makeReq rt client once world call = run at raised ⊢
  cases prepared : normalizeAuthKwargs rt (client.injectProxy call.kwargs) client.proxyAuth with
  | error refusal =>
      rw [makeReq_of_refused rt once prepared] at ran
      rw [← ran] at raised ⊢
      obtain rfl := Except.error.inj raised
      exact .inl ⟨rfl, rfl⟩
  | ok kwargs =>
      let s := client.series rt world call policy kwargs
      have given : client.attemptArgs rt world call kwargs = s.attemptArgs := by
        funext k
        simp only [BaseHttpClient.attemptArgs, retry]
        rfl
      simp only [makeReq, prepared, retry, Traced.ofExcept_ok_bind, bind_pure_comp,
        Traced.map_eq] at ran
      obtain ⟨loop, looped⟩ : ∃ loop : Async B V, loop = Traced.forLoop (s.iterationOf once)
          (Traced.raise (.runtimeError "retry loop exited without a result"))
          (List.range' 1 s.policy.maxAttempts) := ⟨_, rfl⟩
      have made : attemptsMade run = requestsIn loop.log := by
        rw [← ran, looped]
        rfl
      have raised' : loop.result = .error exc := by
        rw [← ran] at raised
        rw [looped]
        exact Fallible.map_eq_error.mp raised
      have one' : OneRequest s.world once := one
      obtain ⟨h₁, h₂, after⟩ := raisedAfter_of_loop one' looped raised'
      rw [← made] at h₁ h₂ after
      refine .inr ⟨h₁, h₂, kwargs, rfl, ?_⟩
      rw [given]
      exact after

/-- What escapes a call with a policy, of the base client and of an instrumented one, comes
from its last attempt or from what followed it, and never with the transport wrapper of the
attempt on it; the loop never runs out. -/
theorem BaseHttpClient.makeReq_raisesOnly (rt : Runtime) (client : BaseHttpClient)
    (world : World B) (call : CallArgs B V) (policy : RetryPolicy)
    (retry : call.retry = some policy) :
    RaisesOnly rt client world call policy (baseAttempt world client.clientName) ∧
      ∀ (metrics : MetricsState) (sink : Sink) (routeResolver : Option RouteResolver),
        let enabled := metrics.enableMetrics sink routeResolver
        RaisesOnly rt client world call policy
          (instrumentedAttempt enabled enabled.sinkHasLifecycle world client.clientName) := by
  refine ⟨raisesOnly_of_oneRequest client (oneRequest_baseAttempt world client.clientName) retry,
    fun metrics sink routeResolver => ?_⟩
  have honours : (metrics.enableMetrics sink routeResolver).metricsSink.Honours
      (metrics.enableMetrics sink routeResolver).sinkHasLifecycle := sink.honours_detectLifecycle
  exact raisesOnly_of_oneRequest client
    (oneRequest_instrumentedAttempt honours world client.clientName) retry

/-- A service that drops every connection. -/
def Sample.disconnected : World Unit := Sample.world fun _ => .error (.observableTransportError {
  mro := [.serverDisconnectedError, .other "ServerConnectionError", .clientConnectionError,
    .clientError, .exception, .baseException]
  text := "Server disconnected" })

theorem BaseHttpClient.makeReq_raisesOnly_sample :
    RaisesOnly Sample.runtime Sample.client Sample.disconnected (Sample.jitterCall 2)
        (Sample.jitterPolicy 2) (baseAttempt Sample.disconnected Sample.client.clientName) ∧
      ∀ (metrics : MetricsState) (sink : Sink) (routeResolver : Option RouteResolver),
        let enabled := metrics.enableMetrics sink routeResolver
        RaisesOnly Sample.runtime Sample.client Sample.disconnected (Sample.jitterCall 2)
          (Sample.jitterPolicy 2) (instrumentedAttempt enabled enabled.sinkHasLifecycle
            Sample.disconnected Sample.client.clientName) :=
  BaseHttpClient.makeReq_raisesOnly Sample.runtime Sample.client Sample.disconnected
    (Sample.jitterCall 2) (Sample.jitterPolicy 2) rfl

end Calls

end Asyncly
