import Asyncly.Client.Base

/-!
# Delays under the control of a server

A `Retry-After` header is a number of seconds or a date, and what is neither falls
back to the backoff. Three readers take part, each with a domain of its own: the
digit test, the conversion to a float and the date parser. The results say for which
texts their domains fit together.
-/

namespace Asyncly

section Header

variable (rt : Runtime)

/-- The delay a header text asks for: a number of seconds in decimal digits, or a
date, when it is representable. -/
def requestedDelay (header : String) (now : DateTime) : Option Binary64 :=
  let stripped := rt.unicode.strip header
  if stripped.toList ≠ [] ∧ rt.unicode.isDecimalText stripped = true then
    let delay := Binary64.ofNat (rt.unicode.decimalNumber stripped)
    if delay.isfinite then some delay else none
  else
    match rt.parsedateToDatetime stripped with
    | .ok (some retryAt) => some (maxZero (totalSeconds retryAt now))
    | _ => none

/-- `get_delay` returns a finite delay: the one the header asks for when headers are
respected and it asks for one, else the one of the backoff. -/
def HeaderHonoured (policy : RetryPolicy) (context : RetryContext) (header : String)
    (now : DateTime) : Prop :=
  ∃ delay : Delay, policy.getDelay rt context (some header) now = .ok delay ∧
    match policy.respectRetryAfter, requestedDelay rt header now with
    | true, some requested => requested = .finite delay.seconds
    | _, _ => policy.backoff context = .ok (.finite delay.seconds)

variable {rt} {policy : RetryPolicy} {context : RetryContext} {header : String} {now : DateTime}

/-- The documented errors of the date parser. -/
def Runtime.ParserContract (rt : Runtime) : Prop :=
  ∀ text exc, rt.parsedateToDatetime text = .error exc →
    exc.isinstance [.typeError, .valueError, .overflowError] = true

theorem maxZero_of_ne_infinity {x : Binary64} (h : x ≠ .infinity false) :
    ∃ v, maxZero x = .finite v ∧ 0 ≤ v := by
  rcases x with v | negative | _
  · exact ⟨max 0 v, rfl, le_max_left 0 v⟩
  · cases negative with
    | false => exact absurd rfl h
    | true => exact ⟨0, rfl, le_refl 0⟩
  · exact ⟨0, rfl, le_refl 0⟩

/-- The time until a date is always a finite delay: dates are too close to each
other to reach the end of the double range. -/
theorem maxZero_totalSeconds (a b : DateTime) :
    ∃ v, maxZero (totalSeconds a b) = .finite v ∧ 0 ≤ v := by
  refine maxZero_of_ne_infinity (Binary64.ofRat_ne_infinity ?_)
  have bound : ((a.instant - b.instant : ℤ) : ℚ) < 2 ^ 60 := by
    have near := a.instant_sub_lt b
    have small : 3652061 * dayMicroseconds < 2 ^ 60 := by decide
    exact_mod_cast near.trans small
  have threshold : (2 : ℚ) ^ 60 < Binary64.overflowThreshold :=
    Binary64.two_pow_lt_overflowThreshold (by norm_num)
  push_cast at bound
  refine lt_of_le_of_lt ?_ threshold
  rw [div_le_iff₀ (by norm_num)]
  linarith [(by norm_num : (2 : ℚ) ^ 60 ≤ 2 ^ 60 * 10 ^ 6)]

theorem getDelay_of_ignored (off : policy.respectRetryAfter = false) :
    policy.getDelay rt context (some header) now = (policy.backoff context >>= Delay.check
      "retry delay must be a finite non-negative number") := by
  rcases policy with ⟨_, _, _, _, _, respected, _, _, _⟩
  obtain rfl : respected = false := off
  rfl

/-- A header that is not ignored comes before the backoff. -/
theorem getDelay_of_respected (respected : policy.respectRetryAfter = true) :
    policy.getDelay rt context (some header) now = (do
      let fromHeader ← parseRetryAfter rt header now
      let delay ← fromHeader.elim (policy.backoff context) pure
      Delay.check "retry delay must be a finite non-negative number" delay) := by
  rcases policy with ⟨_, _, _, _, _, on, _, _, _⟩
  obtain rfl : on = true := respected
  apply bind_congr
  intro fromHeader
  cases fromHeader <;> rfl

theorem getDelay_of_fallback (fallback : policy.respectRetryAfter = false ∨
      parseRetryAfter rt header now = .ok none) :
    policy.getDelay rt context (some header) now =
      (policy.backoff context >>= Delay.check
        "retry delay must be a finite non-negative number") := by
  cases respected : policy.respectRetryAfter with
  | false => exact getDelay_of_ignored respected
  | true =>
      have none := fallback.resolve_left (by simp [respected])
      rw [getDelay_of_respected respected, none]
      rfl

theorem getDelay_of_header (respected : policy.respectRetryAfter = true)
    {delay : Binary64} (parsed : parseRetryAfter rt header now = .ok (some delay)) :
    policy.getDelay rt context (some header) now =
      Delay.check "retry delay must be a finite non-negative number" delay := by
  rw [getDelay_of_respected respected, parsed]
  rfl

theorem getDelay_of_error (respected : policy.respectRetryAfter = true)
    {exc : Exn} (raised : parseRetryAfter rt header now = .error exc) :
    policy.getDelay rt context (some header) now = .error exc := by
  rw [getDelay_of_respected respected, raised]
  rfl

/-- Any fallback honours the header when nothing is requested of it. -/
theorem honoured_of_fallback
    (backoff : ∃ v, policy.backoff context = .ok (.finite v) ∧ 0 ≤ v)
    (fallback : policy.respectRetryAfter = false ∨ (parseRetryAfter rt header now = .ok none ∧
      requestedDelay rt header now = none)) :
    HeaderHonoured rt policy context header now := by
  obtain ⟨v, value, nonneg⟩ := backoff
  refine ⟨⟨v, nonneg⟩, ?_, ?_⟩
  · rw [getDelay_of_fallback (fallback.imp_right And.left), value]
    exact Delay.check_finite nonneg _
  · rcases fallback with off | ⟨-, none⟩
    · simp only [off, value]
    · rcases h : policy.respectRetryAfter <;> simp only [none, value]

theorem honoured_of_requested (respected : policy.respectRetryAfter = true) {v : ℚ}
    (nonneg : 0 ≤ v) (parsed : parseRetryAfter rt header now = .ok (some (.finite v)))
    (requested : requestedDelay rt header now = some (.finite v)) :
    HeaderHonoured rt policy context header now := by
  refine ⟨⟨v, nonneg⟩, ?_, ?_⟩
  · rw [getDelay_of_header respected parsed]
    exact Delay.check_finite nonneg _
  · simp only [respected, requested]

/-- A text that fails the digit test is read as a date or falls back. -/
theorem honoured_of_not_isdigit (parser : rt.ParserContract)
    (backoff : ∃ v, policy.backoff context = .ok (.finite v) ∧ 0 ≤ v)
    (notDigits : rt.unicode.isdigit (rt.unicode.strip header) = false) :
    HeaderHonoured rt policy context header now := by
  have noSeconds : ¬ ((rt.unicode.strip header).toList ≠ [] ∧
      rt.unicode.isDecimalText (rt.unicode.strip header) = true) := by
    rintro ⟨nonempty, decimal⟩
    rw [rt.unicode.isdigit_of_isDecimalText nonempty decimal] at notDigits
    cases notDigits
  cases parsed : rt.parsedateToDatetime (rt.unicode.strip header) with
  | error exc =>
      refine honoured_of_fallback backoff (.inr ⟨?_, ?_⟩)
      · simp [parseRetryAfter, notDigits, parsed, parser _ _ parsed]
      · simp only [requestedDelay, noSeconds, if_false, parsed]
  | ok date =>
      cases date with
      | none =>
          refine honoured_of_fallback backoff (.inr ⟨?_, ?_⟩)
          · simp [parseRetryAfter, notDigits, parsed]
          · simp only [requestedDelay, noSeconds, if_false, parsed]
      | some retryAt =>
          cases respected : policy.respectRetryAfter with
          | false => exact honoured_of_fallback backoff (.inl respected)
          | true =>
              obtain ⟨v, value, nonneg⟩ := maxZero_totalSeconds retryAt now
              refine honoured_of_requested respected nonneg ?_ ?_
              · simp [parseRetryAfter, notDigits, parsed, value]
              · simp only [requestedDelay, noSeconds, if_false, parsed, value]

/-- Among the texts that pass the digit test, decimal numbers below the overflow
threshold are honoured, and all others make `get_delay` raise. -/
theorem honoured_iff_of_isdigit (respected : policy.respectRetryAfter = true)
    (digits : rt.unicode.isdigit (rt.unicode.strip header) = true) :
    HeaderHonoured rt policy context header now ↔
      rt.unicode.isDecimalText (rt.unicode.strip header) = true ∧
        (rt.unicode.decimalNumber (rt.unicode.strip header) : ℚ) < Binary64.overflowThreshold := by
  have nonempty : (rt.unicode.strip header).toList ≠ [] := by
    intro empty
    simp [UnicodeData.isdigit, empty] at digits
  cases decimal : rt.unicode.isDecimalText (rt.unicode.strip header) with
  | false =>
      refine iff_of_false ?_ (by simp)
      rintro ⟨delay, computed, -⟩
      have raised : parseRetryAfter rt header now = .error (.valueError
          s!"could not convert string to float: '{rt.unicode.strip header}'") := by
        simp [parseRetryAfter, digits, floatOfDigits, decimal, Except.map]
      rw [getDelay_of_error respected raised] at computed
      cases computed
  | true =>
      have parsed : parseRetryAfter rt header now =
          .ok (some (.ofNat (rt.unicode.decimalNumber (rt.unicode.strip header)))) := by
        simp [parseRetryAfter, digits, floatOfDigits, decimal, Except.map]
      rw [← Binary64.isfinite_ofNat]
      constructor
      · rintro ⟨delay, computed, -⟩
        rw [getDelay_of_header respected parsed] at computed
        cases value : Binary64.ofNat (rt.unicode.decimalNumber (rt.unicode.strip header)) with
        | finite v => exact ⟨rfl, rfl⟩
        | infinity negative =>
            rw [value] at computed
            cases computed
        | nan =>
            rw [value] at computed
            cases computed
      · rintro ⟨-, finite⟩
        obtain ⟨v, value, nonneg⟩ := Binary64.ofRat_of_nonneg (Nat.cast_nonneg _)
          (Binary64.isfinite_ofNat.mp finite)
        apply honoured_of_requested respected nonneg (by rw [parsed, Binary64.ofNat, value])
        simp only [requestedDelay, nonempty, decimal, finite, ne_eq, not_false_eq_true, and_self,
          if_true]
        rw [Binary64.ofNat, value]

/-- When a header is honoured: headers are ignored, or the digit test rejects the
text, or it is a decimal number below the overflow threshold. -/
theorem getDelay_honoured_iff (parser : rt.ParserContract)
    (backoff : ∃ v, policy.backoff context = .ok (.finite v) ∧ 0 ≤ v) :
    HeaderHonoured rt policy context header now ↔
      policy.respectRetryAfter = false ∨
      rt.unicode.isdigit (rt.unicode.strip header) = false ∨
      (rt.unicode.isDecimalText (rt.unicode.strip header) = true ∧
        (rt.unicode.decimalNumber (rt.unicode.strip header) : ℚ) < Binary64.overflowThreshold) := by
  cases respected : policy.respectRetryAfter with
  | false => exact iff_of_true (honoured_of_fallback backoff (.inl respected)) (.inl rfl)
  | true =>
      cases digits : rt.unicode.isdigit (rt.unicode.strip header) with
      | false => exact iff_of_true (honoured_of_not_isdigit parser backoff digits) (.inr (.inl rfl))
      | true => simpa using honoured_iff_of_isdigit respected digits

end Header

/-- The context of the first of two attempts, after a 503. -/
def Sample.context : RetryContext where
  method := "GET"
  url := Sample.url
  attempt := 1
  maxAttempts := 2
  replayable := true
  responseStatus := some 503
  exception := none
  attempt_range := by decide
  one_outcome := .inr rfl

theorem getDelay_honoured_iff_sample :
    HeaderHonoured Sample.runtime (Sample.policy 1) Sample.context "soon" Sample.epoch := by
  refine (getDelay_honoured_iff ?_ ⟨1 / 2, rfl, by norm_num⟩).mpr (.inr (.inl (by decide)))
  intro text exc raised
  obtain rfl := Except.error.inj raised
  decide

/-- A superscript two passes the digit test, and its conversion raises. -/
theorem getDelay_superscript_fails :
    ¬ HeaderHonoured Sample.runtime (Sample.policy 1) Sample.context "²" Sample.epoch := by
  rw [honoured_iff_of_isdigit rfl (by decide)]
  rintro ⟨decimal, -⟩
  revert decimal
  decide

end Asyncly
