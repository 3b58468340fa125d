import Mathlib.Data.List.Basic
import Mathlib.Data.List.Induction
import Mathlib.Data.Nat.Notation

/-!
# Decimal numerals

A natural number is written with the digits of its canonical numeral, and a numeral without
leading zeros is read back to the number it was written for.
-/

namespace Decimal

/-- A numeral without leading zeros. -/
structure Canonical (digits : List Char) : Prop where
  nonempty : digits ≠ []
  isDigit : ∀ c ∈ digits, c.isDigit = true
  leading : digits.head? = some '0' → digits = ['0']

/-- A digit is the numeral of its value. -/
theorem toDigits_digit {c : Char} (digit : c.isDigit = true) :
    Nat.toDigits 10 (c.toNat - 48) = [c] ∧ c.toNat - 48 < 10 := by
  obtain ⟨low, high⟩ : 48 ≤ c.toNat ∧ c.toNat ≤ 57 := Char.isDigit_iff_toNat.mp digit
  have lt : c.toNat - 48 < 10 := by omega
  refine ⟨?_, lt⟩
  have same : (c.toNat - 48).digitChar = c := by
    apply Char.toNat_inj.mp
    rw [Nat.toNat_digitChar_of_lt_ten lt]
    omega
  rw [Nat.toDigits_of_lt_base lt, same]

theorem head?_toDigits {n : ℕ} (pos : 0 < n) : (Nat.toDigits 10 n).head? ≠ some '0' := by
  induction n using Nat.base_induction 10 (by decide) with
  | single m lt =>
      rw [Nat.toDigits_of_lt_base lt]
      simpa using Nat.ne_of_gt pos
  | digit m k lt pos' ih =>
      rw [← Nat.toDigits_append_toDigits (by decide) pos' lt,
        List.head?_append_of_ne_nil _ Nat.toDigits_ne_nil]
      exact ih pos'

/-- What is written is canonical. -/
theorem canonical_toDigits (n : ℕ) : Canonical (Nat.toDigits 10 n) := by
  refine ⟨Nat.toDigits_ne_nil, fun c member => ?_, fun leading => ?_⟩
  · exact Nat.isDigit_of_mem_toDigits (by decide) (by decide) member
  · rcases Nat.eq_zero_or_pos n with rfl | pos
    · exact Nat.toDigits_zero 10
    · exact absurd leading (head?_toDigits pos)

/-- What is canonical is written for the number it is read as. -/
theorem toDigits_ofDigitChars {digits : List Char} (h : Canonical digits) :
    Nat.toDigits 10 (Nat.ofDigitChars 10 digits 0) = digits := by
  induction digits using List.reverseRecOn with
  | nil => exact absurd rfl h.nonempty
  | append_singleton digits c ih =>
      obtain ⟨written, lt⟩ := toDigits_digit (h.isDigit c (by simp))
      rw [Nat.ofDigitChars_append, Nat.ofDigitChars_cons, Nat.ofDigitChars_nil]
      change Nat.toDigits 10 (10 * _ + (c.toNat - 48)) = _
      rcases eq_or_ne digits [] with rfl | nonempty
      · simpa using written
      · have leading : digits.head? ≠ some '0' := by
          intro zero
          have whole := h.leading (by rwa [List.head?_append_of_ne_nil _ nonempty])
          have length := congrArg List.length whole
          have pos := List.length_pos_iff.mpr nonempty
          simp only [List.length_append, List.length_singleton] at length
          omega
        have canonical : Canonical digits :=
          ⟨nonempty, fun d member => h.isDigit d (List.mem_append_left _ member),
            fun zero => absurd zero leading⟩
        have pos : 0 < Nat.ofDigitChars 10 digits 0 := by
          rcases Nat.eq_zero_or_pos (Nat.ofDigitChars 10 digits 0) with zero | pos
          · rw [zero, Nat.toDigits_zero] at ih
            exact absurd (by rw [← ih canonical]; rfl) leading
          · exact pos
        rw [← Nat.toDigits_append_toDigits (by decide) pos lt, ih canonical, written]

end Decimal
