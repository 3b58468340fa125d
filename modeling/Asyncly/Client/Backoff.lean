import Asyncly.Client.RetryDecision

/-!
# The default backoff over a whole budget

The cap of the default backoff doubles with each attempt before it is compared with its
maximum, and the doubled number is converted to a float first. The results say how many
attempts that goes well for, and what a run with a larger budget comes to.
-/

namespace Asyncly

variable {B V : Type}

/-! ### The delays of the default backoff -/

/-- `random.uniform(0.0, c)` returns a number between its bounds. -/
def UniformContract (uniform : RetryContext → Binary64 → Binary64 → Binary64) : Prop :=
  ∀ context (c : ℚ), 0 ≤ c →
    ∃ v, uniform context (.finite 0) (.finite c) = .finite v ∧ 0 ≤ v ∧ v ≤ c

/-- The cap of the delay after attempt `n`, in seconds. -/
def jitterCap (n : Nat) : ℚ := min (1 / 2 * 2 ^ (n - 1)) 30

theorem jitterCap_nonneg (n : Nat) : 0 ≤ jitterCap n := by
  have : (0 : ℚ) ≤ 1 / 2 * 2 ^ (n - 1) := by positivity
  exact le_min this (by norm_num)

theorem floatOfInt_two_pow {n : Nat} (h : n ≤ 1023) :
    floatOfInt (2 ^ n) = .ok (.finite (2 ^ n)) := by
  have exact : Binary64.ofNat (2 ^ n) = .finite (2 ^ n) := by
    have := Binary64.ofRat_two_zpow (show -1074 ≤ (n : ℤ) by omega) (by omega)
    simpa [Binary64.ofNat] using this
  rw [floatOfInt, if_pos (Binary64.isfinite_ofNat_two_pow.mpr h), exact]

theorem floatOfInt_two_pow_of_lt {n : Nat} (h : 1023 < n) :
    ∃ exc, floatOfInt (2 ^ n) = .error exc := by
  have overflow : ¬ (Binary64.ofNat (2 ^ n)).isfinite = true := by
    rw [Binary64.isfinite_ofNat_two_pow]
    omega
  rw [floatOfInt, if_neg overflow]
  exact ⟨_, rfl⟩

theorem half_mul_two_pow {n : Nat} (h : n ≤ 1023) :
    (Binary64.finite (1 / 2)).mul (.finite (2 ^ n)) = .finite (1 / 2 * 2 ^ n) := by
  have product : (1 / 2 * 2 ^ n : ℚ) = 2 ^ ((n : ℤ) - 1) := by
    rw [zpow_sub₀ (by norm_num), zpow_natCast, zpow_one]
    ring
  rw [Binary64.mul, product, Binary64.ofRat_two_zpow (by omega) (by omega)]

theorem min_finite (a b : ℚ) :
    (Binary64.finite a).min (.finite b) = .finite (min a b) := by
  simp only [Binary64.min, Binary64.lt, decide_eq_true_eq]
  split
  · rw [min_eq_right_of_lt ‹_›]
  · rw [min_eq_left (not_lt.mp ‹_›)]

section Jitter

variable {uniform : RetryContext → Binary64 → Binary64 → Binary64} {context : RetryContext}

/-- The backoff stays under its cap for the first 1024 attempts. -/
theorem fullJitterBackoff_of_le (contract : UniformContract uniform)
    (h : context.attempt ≤ 1024) :
    ∃ v, fullJitterBackoff uniform context = .ok (.finite v) ∧ 0 ≤ v ∧
      v ≤ jitterCap context.attempt := by
  have small : context.attempt - 1 ≤ 1023 := by omega
  obtain ⟨v, drawn, nonneg, bound⟩ :=
    contract context (jitterCap context.attempt) (jitterCap_nonneg _)
  refine ⟨v, ?_, nonneg, bound⟩
  rw [fullJitterBackoff, floatOfInt_two_pow small]
  change Except.ok (uniform context _ _) = _
  rw [half_mul_two_pow small, min_finite, ← jitterCap, drawn]

/-- From then on it raises. -/
theorem fullJitterBackoff_of_lt (h : 1024 < context.attempt) :
    ∃ exc, fullJitterBackoff uniform context = .error exc := by
  obtain ⟨exc, overflow⟩ := floatOfInt_two_pow_of_lt (show 1023 < context.attempt - 1 by omega)
  refine ⟨exc, ?_⟩
  rw [fullJitterBackoff, overflow]
  rfl

end Jitter

/-! ### Attempts that are to be retried -/

namespace RetrySeries

variable (s : RetrySeries B V)

/-- Attempt `i` ends in an outcome `should_retry` holds for, with no `Retry-After` header. -/
def Eligible (i : Nat) : Prop :=
  ∃ context, s.decidingContext i = some context ∧ s.policy.shouldRetry context = true ∧
    s.retryAfter i = none

/-- The reason of the event for the delay after attempt `i`. -/
def scheduledReason (i : Nat) : RetryReason :=
  if s.retriesResponse i then .status else .exception

/-- Nothing comes between the delay after attempt `i` and the next attempt: what the
attempt raised is an `Exception`, the observer returns from the event for the delay, and
the sleep is not interrupted. -/
structure Undisturbed (i : Nat) : Prop where
  caught : ∀ exc, s.retriesResponse i = false → s.attemptEnd i = .error exc →
    exc.isException = true
  announced : ∀ context delay, s.decidingContext i = some context →
    s.delay i context none = .ok delay → ∀ observe ∈ s.args.retryObserver,
      observe ⟨.scheduled, context, delay, s.scheduledReason i⟩ = .ok ()
  slept : s.world.sleep i = .ok ()

/-- A run over the whole budget: every attempt is made, the call ends as the last one
does, and the delays between them stay under their caps. -/
structure RetriedThrough (run : Async B (RequestResult V)) : Prop where
  attempts : attemptsMade run = s.policy.maxAttempts
  result : ∃ r, (s.iteration s.policy.maxAttempts).exit? = some r ∧ run.result = r.map .value
  delays : List.Forall₂ (fun n (delay : Delay) => 0 ≤ delay.seconds ∧ delay.seconds ≤ jitterCap n)
    (List.range' 1 (s.policy.maxAttempts - 1)) (run.log.filterMap Effect.sleep?)

/-- What follows the decision to retry attempt `i`. -/
def waiting (i : Nat) (context : RetryContext) (delay : Except Exn Delay) : Async B (Option V) := do
  let delay ← Traced.ofExcept delay
  notifyRetryObserver s.args.retryObserver ⟨.scheduled, context, delay, s.scheduledReason i⟩
  Traced.emit (.sleep delay)
  Traced.ofExcept (s.world.sleep i)
  pure none

variable {s} {i : Nat}

theorem retryAfter_of_response {response : Response B} (session : s.world.session i = .ok response)
    (absent : response.headers.get? "Retry-After" = none) : s.retryAfter i = none := by
  simp only [retryAfter, session, absent, ite_self]

/-- A response is not matched when its attempt is retried for an exception: both
outcomes would be judged alike, and the response comes first. -/
theorem not_matched_of_failure {response : Response B} {exc : Exn}
    (session : s.world.session i = .ok response) (notRetried : s.retriesResponse i = false)
    (should : s.policy.shouldRetry (s.failedContext i exc) = true) :
    s.policy.matchesOutcome (s.responseContext i response) = false := by
  obtain ⟨matched, unsuppressed⟩ := (s.policy.shouldRetry_iff _).mp should
  rw [retriesResponse_of_session session] at notRetried
  by_contra h
  have both : s.policy.matchesOutcome (s.responseContext i response) = true := by simpa using h
  rw [suppressionReason_failedContext (matched.trans both.symm)] at unsuppressed
  rw [(s.policy.shouldRetry_iff _).mpr ⟨both, unsuppressed⟩] at notRetried
  cases notRetried

/-- An attempt that is retried for an exception tells the observer nothing. -/
theorem attempt_of_failure_eligible {exc : Exn} (h₁ : 1 ≤ i) (h₂ : i ≤ s.policy.maxAttempts)
    (notRetried : s.retriesResponse i = false)
    (should : s.policy.shouldRetry (s.failedContext i exc) = true) :
    s.attempt i = ⟨s.attemptLog i, (s.attemptEnd i).map .value⟩ := by
  have slot := slot_attemptArgs h₁ h₂
  cases session : s.world.session i with
  | error exc =>
      simp only [attemptLog, attemptEnd, session]
      rw [← slot] at session
      exact requestOnce_of_error session
  | ok response =>
      have unmatched := not_matched_of_failure session notRetried should
      have kept := suppressedEvents_of_unmatched unmatched
      rw [retriesResponse_of_session session] at notRetried
      simp only [attemptLog, attemptEnd, session, kept, observed_nil]
      rw [← slot] at session
      apply requestOnce_of_dispatch session
      rw [interceptResponse_of_not_retried rfl rfl rfl notRetried, ← responseContext,
        RetryPolicy.suppressionReason_of_unmatched unmatched]
      rfl

/-- An eligible attempt does not sleep, and if its exception is caught it is followed by
the wait for its delay. -/
theorem iteration_of_eligible (h₁ : 1 ≤ i) (h₂ : i ≤ s.policy.maxAttempts) {context : RetryContext}
    (deciding : s.decidingContext i = some context)
    (should : s.policy.shouldRetry context = true) (noHeader : s.retryAfter i = none)
    (caught : ∀ exc, s.retriesResponse i = false → s.attemptEnd i = .error exc →
      exc.isException = true) :
    ∃ log, log.filterMap Effect.sleep? = [] ∧
      s.iteration i = ((⟨log, .ok ()⟩ : Async B Unit) >>= fun _ =>
        s.waiting i context (s.delay i context none)) := by
  rcases decidingContext_cases deciding with
    ⟨response, retried, session, -, rfl⟩ | ⟨exc, retried, ended, rfl⟩
  · have absent : response.headers.get? "Retry-After" = none := by
      simpa [retryAfter, session, retried] using noHeader
    have attempt := attempt_of_retried h₁ h₂ session should
    refine ⟨(s.attempt i).log, by rw [attempt]; rfl, ?_⟩
    rw [iteration, retryAttempt, init_context h₁ h₂, Traced.ofExcept_ok_bind]
    change ((s.attempt i).catching Exn.isException >>= _) = _
    rw [Traced.catching_of_ok (by rw [attempt]), attempt, Traced.mk_ok_bind, Traced.mk_ok_bind]
    simp only [waiting, scheduledReason, retried, if_true, absent]
    rfl
  · have attempt := attempt_of_failure_eligible h₁ h₂ retried should
    rw [ended] at attempt
    obtain ⟨matched, unsuppressed⟩ := (s.policy.shouldRetry_iff _).mp should
    refine ⟨s.attemptLog i,
      (filterMap_attemptLog (fun _ => rfl) (fun _ => rfl) (fun _ _ => rfl) i).trans rfl, ?_⟩
    rw [iteration, retryAttempt, init_context h₁ h₂, Traced.ofExcept_ok_bind]
    change ((s.attempt i).catching Exn.isException >>= _) = _
    rw [Traced.catching_of_caught (by rw [attempt]; rfl) (caught exc retried ended), attempt,
      Traced.mk_ok_bind, Traced.mk_ok_bind]
    rw [failedContext] at matched unsuppressed ⊢
    simp only [retryExceptionDelay, withException_context, Traced.ofExcept_ok_bind, matched,
      unsuppressed, if_true, waiting, scheduledReason, retried, Bool.false_eq_true, if_false,
      bind_assoc, pure_bind]
    rfl

theorem notifyRetryObserver_ok_iff {observer : Option RetryObserver} {event : RetryEvent} :
    (notifyRetryObserver observer event : Async B Unit).result = .ok () ↔
      ∀ observe ∈ observer, observe event = .ok () := by
  cases observer with
  | none => simp [notifyRetryObserver]
  | some observe => simp [notifyRetryObserver]

/-- The wait goes on to the next attempt after a delay the observer accepts and a sleep
that is not interrupted. -/
theorem waiting_continues_iff {context : RetryContext} {computed : Except Exn Delay} :
    (s.waiting i context computed).exit? = none ↔ ∃ delay, computed = .ok delay ∧
      (∀ observe ∈ s.args.retryObserver,
        observe ⟨.scheduled, context, delay, s.scheduledReason i⟩ = .ok ()) ∧
      s.world.sleep i = .ok () := by
  simp only [waiting, Traced.exit?_bind_eq_none, Traced.ofExcept_result, Traced.emit_result,
    ← notifyRetryObserver_ok_iff (B := B)]
  constructor
  · rintro ⟨delay, computed, _, told, _, -, _, slept, -⟩
    exact ⟨delay, computed, told, slept⟩
  · rintro ⟨delay, computed, told, slept⟩
    exact ⟨delay, computed, ⟨⟩, told, ⟨⟩, trivial, ⟨⟩, slept, rfl⟩

theorem filterMap_sleep_waiting {context : RetryContext} {delay : Delay}
    (announced : ∀ observe ∈ s.args.retryObserver,
      observe ⟨.scheduled, context, delay, s.scheduledReason i⟩ = .ok ()) :
    (s.waiting i context (.ok delay)).log.filterMap Effect.sleep? = [delay] := by
  have told := (notifyRetryObserver_ok_iff (B := B)).mpr announced
  have quiet := (notifyRetryObserver_awake (B := B) s.args.retryObserver
    ⟨.scheduled, context, delay, s.scheduledReason i⟩).filterMap_eq_nil fun _ h => h
  rw [waiting, Traced.ofExcept_ok_bind, Traced.bind_of_ok _ told, List.filterMap_append, quiet]
  cases s.world.sleep i <;> rfl

/-- An exception that is not caught leaves the loop. -/
theorem caught_of_continues (h₁ : 1 ≤ i) (h₂ : i ≤ s.policy.maxAttempts)
    (eligible : s.Eligible i) (continues : (s.iteration i).exit? = none) (exc : Exn)
    (notRetried : s.retriesResponse i = false) (ended : s.attemptEnd i = .error exc) :
    exc.isException = true := by
  obtain ⟨context, deciding, should, -⟩ := eligible
  obtain rfl : s.failedContext i exc = context := by
    simpa [decidingContext_of_failure notRetried ended] using deciding
  have attempt := attempt_of_failure_eligible h₁ h₂ notRetried should
  rw [ended] at attempt
  by_contra uncaught
  rw [iteration, retryAttempt, init_context h₁ h₂, Traced.ofExcept_ok_bind] at continues
  change ((s.attempt i).catching Exn.isException >>= _).exit? = none at continues
  rw [Traced.catching_of_uncaught (by rw [attempt]; rfl) (by simpa using uncaught)] at continues
  cases continues

/-- The loop goes on after an eligible attempt exactly when its delay can be computed and
nothing comes in between. -/
theorem continues_iff_of_eligible (h₁ : 1 ≤ i) (h₂ : i ≤ s.policy.maxAttempts)
    {context : RetryContext} (deciding : s.decidingContext i = some context)
    (should : s.policy.shouldRetry context = true) (noHeader : s.retryAfter i = none) :
    (s.iteration i).exit? = none ↔
      (∃ delay, s.delay i context none = .ok delay) ∧ s.Undisturbed i := by
  constructor
  · intro continues
    have caught := caught_of_continues h₁ h₂ ⟨context, deciding, should, noHeader⟩ continues
    obtain ⟨log, -, run⟩ := iteration_of_eligible h₁ h₂ deciding should noHeader caught
    rw [run, Traced.exit?_bind_eq_none] at continues
    obtain ⟨_, -, waits⟩ := continues
    obtain ⟨delay, computed, announced, slept⟩ := waiting_continues_iff.mp waits
    refine ⟨⟨delay, computed⟩, ⟨caught, ?_, slept⟩⟩
    intro other delay' deciding' computed'
    obtain rfl : context = other := by simpa [deciding] using deciding'
    obtain rfl : delay = delay' := by simpa [computed] using computed'
    exact announced
  · rintro ⟨⟨delay, computed⟩, undisturbed⟩
    obtain ⟨log, -, run⟩ :=
      iteration_of_eligible h₁ h₂ deciding should noHeader undisturbed.caught
    rw [run, Traced.exit?_bind_eq_none]
    exact ⟨⟨⟩, rfl, waiting_continues_iff.mpr ⟨delay, computed,
      undisturbed.announced context delay deciding computed, undisturbed.slept⟩⟩

/-- Then it sleeps once, for that delay. -/
theorem filterMap_sleep_of_eligible (h₁ : 1 ≤ i) (h₂ : i ≤ s.policy.maxAttempts)
    {context : RetryContext} (deciding : s.decidingContext i = some context)
    (should : s.policy.shouldRetry context = true) (noHeader : s.retryAfter i = none)
    (undisturbed : s.Undisturbed i) {delay : Delay}
    (computed : s.delay i context none = .ok delay) :
    (s.iteration i).log.filterMap Effect.sleep? = [delay] := by
  obtain ⟨log, quiet, run⟩ :=
    iteration_of_eligible h₁ h₂ deciding should noHeader undisturbed.caught
  rw [run, Traced.mk_ok_bind, List.filterMap_append, quiet, computed, List.nil_append]
  exact filterMap_sleep_waiting (undisturbed.announced context delay deciding computed)

/-! ### The budget -/

section Budget

variable {uniform : RetryContext → Binary64 → Binary64 → Binary64}
  (contract : UniformContract uniform) (jitter : s.policy.backoff = fullJitterBackoff uniform)

include jitter

theorem delay_of_jitter (context : RetryContext) : s.delay i context none =
    (fullJitterBackoff uniform context >>= Delay.check
      "retry delay must be a finite non-negative number") := by
  rw [delay, RetryPolicy.getDelay_none, jitter]

theorem delay_of_attempt_le (contract : UniformContract uniform) {context : RetryContext}
    (h : context.attempt ≤ 1024) : ∃ delay, s.delay i context none = .ok delay ∧
      0 ≤ delay.seconds ∧ delay.seconds ≤ jitterCap context.attempt := by
  obtain ⟨v, value, nonneg, bound⟩ := fullJitterBackoff_of_le contract h
  refine ⟨⟨v, nonneg⟩, ?_, nonneg, bound⟩
  rw [delay_of_jitter jitter, value]
  exact Delay.check_finite nonneg _

theorem attempt_le_of_delay {context : RetryContext} {delay : Delay}
    (computed : s.delay i context none = .ok delay) : context.attempt ≤ 1024 := by
  by_contra h
  obtain ⟨exc, overflow⟩ : ∃ exc, fullJitterBackoff uniform context = .error exc :=
    fullJitterBackoff_of_lt (not_le.mp h)
  rw [delay_of_jitter jitter, overflow] at computed
  cases computed

include contract

/-- The loop goes on after an eligible attempt while the cap can be computed. -/
theorem continues_iff_of_jitter (h₁ : 1 ≤ i) (h₂ : i ≤ s.policy.maxAttempts)
    (eligible : s.Eligible i) :
    (s.iteration i).exit? = none ↔ i ≤ 1024 ∧ s.Undisturbed i := by
  obtain ⟨context, deciding, should, noHeader⟩ := eligible
  have number := decidingContext_attempt h₁ h₂ deciding
  rw [continues_iff_of_eligible h₁ h₂ deciding should noHeader, ← number]
  refine and_congr_left fun _ => ⟨?_, ?_⟩
  · rintro ⟨delay, computed⟩
    exact attempt_le_of_delay jitter computed
  · intro small
    obtain ⟨delay, computed, -⟩ := delay_of_attempt_le jitter contract small
    exact ⟨delay, computed⟩

/-- The sleep after such an attempt is under the cap of its number. -/
theorem filterMap_sleep_of_jitter (h₁ : 1 ≤ i) (h₂ : i ≤ s.policy.maxAttempts)
    (eligible : s.Eligible i) (continues : (s.iteration i).exit? = none) :
    ∃ delay : Delay, (s.iteration i).log.filterMap Effect.sleep? = [delay] ∧
      0 ≤ delay.seconds ∧ delay.seconds ≤ jitterCap i := by
  obtain ⟨small, undisturbed⟩ :=
    (continues_iff_of_jitter contract jitter h₁ h₂ eligible).mp continues
  obtain ⟨context, deciding, should, noHeader⟩ := eligible
  have number := decidingContext_attempt h₁ h₂ deciding
  obtain ⟨delay, computed, bounds⟩ := delay_of_attempt_le jitter contract (number.trans_le small)
  rw [number] at bounds
  exact ⟨delay, filterMap_sleep_of_eligible h₁ h₂ deciding should noHeader undisturbed computed,
    bounds⟩

/-- The whole budget is used exactly when the loop goes on after every attempt but the last. -/
theorem loop_retriedThrough_of_continues
    (eligible : ∀ i, 1 ≤ i → i < s.policy.maxAttempts → s.Eligible i)
    (continues : ∀ i, 1 ≤ i → i < s.policy.maxAttempts → (s.iteration i).exit? = none) :
    s.RetriedThrough s.loop := by
  have budget := s.policy.maxAttempts_pos
  obtain ⟨r, leaves⟩ := s.exists_exit_of_budget
  refine ⟨attemptsMade_of_exit budget (Nat.le_refl _) continues leaves, ⟨r, leaves, ?_⟩, ?_⟩
  · rw [loop_of_exit budget (Nat.le_refl _) continues leaves]
  · rw [loop_of_exit budget (Nat.le_refl _) continues leaves,
      Traced.range'_split budget (Nat.le_refl _)]
    simp only [List.flatMap_append, List.filterMap_append, List.filterMap_flatMap,
      List.flatMap_cons, filterMap_sleep_of_budget, Nat.sub_self, List.range'_zero,
      List.flatMap_nil, List.append_nil]
    have each (j : Nat) (hj : j ∈ List.range' 1 (s.policy.maxAttempts - 1)) :
        ∃ delay : Delay, (s.iteration j).log.filterMap Effect.sleep? = [delay] ∧
          0 ≤ delay.seconds ∧ delay.seconds ≤ jitterCap j := by
      rw [List.mem_range'_1] at hj
      have below : j < s.policy.maxAttempts := by omega
      exact filterMap_sleep_of_jitter contract jitter hj.1 below.le (eligible j hj.1 below)
        (continues j hj.1 below)
    exact Traced.forall₂_flatMap each

/-- The default backoff carries a call through its budget exactly up to 1025 attempts,
when nothing else comes in between. -/
theorem loop_retriedThrough_iff
    (eligible : ∀ i, 1 ≤ i → i < s.policy.maxAttempts → s.Eligible i) :
    s.RetriedThrough s.loop ↔ s.policy.maxAttempts ≤ 1025 ∧
      ∀ i, 1 ≤ i → i < s.policy.maxAttempts → s.Undisturbed i := by
  constructor
  · intro through
    have continues (i : Nat) (h₁ : 1 ≤ i) (below : i < s.policy.maxAttempts) :
        (s.iteration i).exit? = none := by
      by_contra exits
      obtain ⟨k, hk₁, hk₂, leaves, first⟩ := Traced.exists_least
        (p := fun j => (s.iteration j).exit? ≠ none) ⟨i, h₁, Nat.le_refl i, exits⟩
      obtain ⟨r, hr⟩ := Option.ne_none_iff_exists'.mp leaves
      have made := attemptsMade_of_exit hk₁ (by omega)
        (fun j hj lt => by simpa using first j hj lt) hr
      rw [through.attempts] at made
      omega
    have each (i : Nat) (h₁ : 1 ≤ i) (below : i < s.policy.maxAttempts) :=
      (continues_iff_of_jitter contract jitter h₁ below.le (eligible i h₁ below)).mp
        (continues i h₁ below)
    refine ⟨?_, fun i h₁ below => (each i h₁ below).2⟩
    by_contra large
    have last := (each (s.policy.maxAttempts - 1) (by omega) (by omega)).1
    omega
  · rintro ⟨small, undisturbed⟩
    apply loop_retriedThrough_of_continues contract jitter eligible
    intro i h₁ below
    exact (continues_iff_of_jitter contract jitter h₁ below.le (eligible i h₁ below)).mpr
      ⟨by omega, undisturbed i h₁ below⟩

end Budget

end RetrySeries

/-- A call with the default backoff, all of whose attempts but the last are to be retried,
uses its whole budget exactly when that is at most 1025 attempts and nothing else comes
in between. -/
theorem BaseHttpClient.makeReq_retriedThrough_iff {rt : Runtime} {client : BaseHttpClient}
    {world : World B} {call : CallArgs B V} {policy : RetryPolicy} {kwargs : Kwargs}
    {uniform : RetryContext → Binary64 → Binary64 → Binary64}
    (contract : UniformContract uniform)
    (prepared : normalizeAuthKwargs rt (client.injectProxy call.kwargs) client.proxyAuth =
      .ok kwargs)
    (retry : call.retry = some policy) (jitter : policy.backoff = fullJitterBackoff uniform)
    (eligible : ∀ n, 1 ≤ n → n < policy.maxAttempts →
      (client.series rt world call policy kwargs).Eligible n) :
    (client.series rt world call policy kwargs).RetriedThrough (client.makeReq rt world call) ↔
      policy.maxAttempts ≤ 1025 ∧ ∀ n, 1 ≤ n → n < policy.maxAttempts →
        (client.series rt world call policy kwargs).Undisturbed n := by
  rw [BaseHttpClient.makeReq_eq_loop prepared retry]
  exact RetrySeries.loop_retriedThrough_iff contract jitter eligible

/-- The policy of the samples with the default backoff, every draw being zero. -/
def Sample.jitterPolicy (retries : Nat) : RetryPolicy :=
  { Sample.policy retries with backoff := fullJitterBackoff fun _ low _ => low }

def Sample.unavailable : World Unit := Sample.world fun _ => .ok (Sample.response 503)

def Sample.jitterCall (retries : Nat) : CallArgs Unit Nat where
  method := "GET"
  url := Sample.url
  handlers := Sample.handlers []
  retry := some (Sample.jitterPolicy retries)

def Sample.jitterSeries (retries : Nat) : RetrySeries Unit Nat :=
  Sample.client.series Sample.runtime Sample.unavailable (Sample.jitterCall retries)
    (Sample.jitterPolicy retries) {}

theorem Sample.uniformContract : UniformContract fun _ low _ => low :=
  fun _ _ nonneg => ⟨0, rfl, le_refl 0, nonneg⟩

theorem Sample.shouldRetry_unavailable {retries n : Nat} (h₁ : 1 ≤ n) (below : n ≤ retries) :
    (Sample.jitterSeries retries).policy.shouldRetry
      ((Sample.jitterSeries retries).responseContext n (Sample.response 503)) = true := by
  have number : ((Sample.jitterSeries retries).responseContext n (Sample.response 503)).attempt
      = n := RetrySeries.responseContext_attempt h₁ (show n ≤ retries + 1 by omega)
  have inside : n < (Sample.jitterSeries retries).policy.maxAttempts :=
    show n < retries + 1 by omega
  have method : ["GET"].contains (upper (upper "GET")) = true := by decide
  rw [RetryPolicy.shouldRetry, number, decide_eq_true inside, Bool.and_true, Bool.and_eq_true,
    Bool.and_eq_true]
  exact ⟨⟨rfl, method⟩, rfl⟩

theorem Sample.eligible_unavailable {retries n : Nat} (h₁ : 1 ≤ n) (below : n ≤ retries) :
    (Sample.jitterSeries retries).Eligible n := by
  have should := Sample.shouldRetry_unavailable h₁ below
  exact ⟨_, RetrySeries.decidingContext_of_response rfl should, should,
    RetrySeries.retryAfter_of_response rfl rfl⟩

/-- Three attempts, each but the last answered with 503. -/
theorem BaseHttpClient.makeReq_retriedThrough_iff_sample :
    (Sample.jitterSeries 2).RetriedThrough
      (Sample.client.makeReq Sample.runtime Sample.unavailable (Sample.jitterCall 2)) := by
  refine (BaseHttpClient.makeReq_retriedThrough_iff Sample.uniformContract rfl rfl rfl
    fun n h₁ below => Sample.eligible_unavailable h₁ (Nat.le_of_lt_succ below)).mpr
      ⟨by decide, fun n h₁ below => ⟨?_, ?_, rfl⟩⟩
  · intro exc notRetried
    have retried : (Sample.jitterSeries 2).retriesResponse n = true :=
      (RetrySeries.retriesResponse_of_session rfl).trans
        (Sample.shouldRetry_unavailable h₁ (Nat.le_of_lt_succ below))
    cases retried.symm.trans notRetried
  · intro context delay _ _ observe given
    cases given

/-- With a budget of 1026 attempts a server that stays unavailable is not asked to the end. -/
theorem BaseHttpClient.makeReq_retriedThrough_fails :
    (∀ n, 1 ≤ n → n < 1026 → (Sample.jitterSeries 1025).Eligible n) ∧
    ¬ (Sample.jitterSeries 1025).RetriedThrough
      (Sample.client.makeReq Sample.runtime Sample.unavailable (Sample.jitterCall 1025)) := by
  have eligible (n : Nat) (h₁ : 1 ≤ n) (below : n < 1026) :=
    Sample.eligible_unavailable h₁ (Nat.le_of_lt_succ below)
  refine ⟨eligible, ?_⟩
  have loop : Sample.client.makeReq Sample.runtime Sample.unavailable (Sample.jitterCall 1025) =
      (Sample.jitterSeries 1025).loop := BaseHttpClient.makeReq_eq_loop rfl rfl
  rw [loop]
  intro through
  have small := ((RetrySeries.loop_retriedThrough_iff Sample.uniformContract rfl eligible).mp
    through).1
  exact absurd small (by decide)

end Asyncly
