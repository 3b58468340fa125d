import Mathlib.Algebra.Order.Field.Power
import Mathlib.Data.Int.Log
import Mathlib.Data.Rat.Floor
import Mathlib.Tactic.Linarith
import Mathlib.Tactic.Ring
import Mathlib.Tactic.NormNum
import Mathlib.Tactic.Positivity

/-!
# Binary64 values as rational numbers

A binary64 value is a rational number, an infinity or NaN. Conversion from an
exact rational rounds to the nearest value with 53 significant bits and a least
exponent of -1074, ties to even, and goes to an infinity when the rounded value
would reach `2 ^ 1024`. The one fact about overflow that conversions need is the
exact threshold at which it starts.
-/

inductive Binary64
  | finite (value : ℚ)
  | infinity (negative : Bool)
  | nan
  deriving DecidableEq

namespace Binary64

/-- Nearest integer, ties to the even one. -/
def roundHalfEven (q : ℚ) : ℤ :=
  let below := ⌊q⌋
  if q < below + 1 / 2 then below
  else if below + 1 / 2 < q then below + 1
  else if below % 2 = 0 then below else below + 1

/-- The exponent of the last bit kept of a positive number. -/
def ulpExponent (q : ℚ) : ℤ := max (Int.log 2 q - 52) (-1074)

/-- A positive number rounded to the grid of its last bit. -/
def roundMagnitude (q : ℚ) : ℚ :=
  roundHalfEven (q / 2 ^ ulpExponent q) * 2 ^ ulpExponent q

/-- Conversion of an exact number. -/
def ofRat (q : ℚ) : Binary64 :=
  if q = 0 then finite 0
  else
    let magnitude := roundMagnitude |q|
    if magnitude < 2 ^ 1024 then finite (if q < 0 then -magnitude else magnitude)
    else infinity (q < 0)

/-- `float(n)` of a decimal text denoting `n`. -/
def ofNat (n : ℕ) : Binary64 := ofRat n

/-- `math.isfinite` -/
def isfinite : Binary64 → Bool
  | finite _ => true
  | _ => false

/-- Whether a number is not NaN and below zero. -/
def negative : Binary64 → Bool
  | finite v => v < 0
  | infinity sign => sign
  | nan => false

/-- `x * y`: the exact product is rounded once. Zeros carry no sign here. -/
protected def mul : Binary64 → Binary64 → Binary64
  | finite a, finite b => ofRat (a * b)
  | nan, _ | _, nan => nan
  | x, y =>
      if x = finite 0 ∨ y = finite 0 then nan else infinity (x.negative != y.negative)

/-- `x - y`: the exact difference is rounded once. -/
protected def sub : Binary64 → Binary64 → Binary64
  | finite a, finite b => ofRat (a - b)
  | nan, _ | _, nan => nan
  | finite _, infinity sign => infinity !sign
  | infinity sign, finite _ => infinity sign
  | infinity left, infinity right => if left = right then nan else infinity left

/-- A number that is zero or above. -/
def Nonneg : Binary64 → Prop
  | finite v => 0 ≤ v
  | infinity sign => sign = false
  | nan => False

theorem Nonneg.negative_eq_false {x : Binary64} (h : x.Nonneg) : x.negative = false := by
  cases x with
  | finite v => exact decide_eq_false (not_lt.mpr h)
  | infinity sign => exact h
  | nan => rfl

theorem Nonneg.ne_nan {x : Binary64} (h : x.Nonneg) : x ≠ .nan := by
  rintro rfl
  exact h

/-- `x < y` -/
protected def lt : Binary64 → Binary64 → Bool
  | finite a, finite b => a < b
  | finite _, infinity sign => !sign
  | infinity sign, finite _ => sign
  | infinity left, infinity right => left && !right
  | nan, _ | _, nan => false

/-- `min(x, y)`: the first argument unless the second is smaller. -/
protected def min (x y : Binary64) : Binary64 := if y.lt x then y else x

/-- The least number that is converted to infinity. -/
def overflowThreshold : ℚ := 2 ^ 1024 - 2 ^ 970

/-! ### Rounding to an integer -/

theorem roundHalfEven_le {q : ℚ} {n : ℤ} (h : q ≤ n) : roundHalfEven q ≤ n := by
  have below : (⌊q⌋ : ℚ) ≤ q := Int.floor_le q
  rcases lt_or_eq_of_le h with lt | rfl
  · have hfloor : ⌊q⌋ + 1 ≤ n := Int.floor_lt.mpr lt
    simp only [roundHalfEven]
    split_ifs <;> omega
  · simp [roundHalfEven]

theorem le_roundHalfEven {q : ℚ} {n : ℤ} (h : (n : ℚ) ≤ q) : n ≤ roundHalfEven q := by
  have hfloor : n ≤ ⌊q⌋ := Int.le_floor.mpr h
  simp only [roundHalfEven]
  split_ifs <;> omega

/-- Below an even integer is what lies under the midpoint before it: the
midpoint itself goes to the even integer. -/
theorem roundHalfEven_lt_even {q : ℚ} {n : ℤ} (even : n % 2 = 0) :
    roundHalfEven q < n ↔ q < n - 1 / 2 := by
  have below : (⌊q⌋ : ℚ) ≤ q := Int.floor_le q
  have above : q < ⌊q⌋ + 1 := Int.lt_floor_add_one q
  rcases lt_trichotomy (⌊q⌋ + 1) n with lt | eq | gt
  · have hn : ((⌊q⌋ : ℚ) + 1) + 1 ≤ n := by exact_mod_cast lt
    refine iff_of_true ?_ (by linarith)
    simp only [roundHalfEven]
    split_ifs <;> omega
  · have hn : (n : ℚ) = ⌊q⌋ + 1 := by exact_mod_cast eq.symm
    rw [hn]
    simp only [roundHalfEven]
    split_ifs with h₁ h₂ h₃
    · exact iff_of_true (by omega) (by linarith)
    · exact iff_of_false (by omega) (by linarith)
    · omega
    · exact iff_of_false (by omega) (by linarith)
  · have hn : (n : ℚ) ≤ ⌊q⌋ := by exact_mod_cast (by omega : n ≤ ⌊q⌋)
    refine iff_of_false ?_ (by linarith)
    have := le_roundHalfEven (hn.trans below)
    omega

/-! ### Rounding to the grid -/

private theorem top_eq : (2 : ℚ) ^ 1024 = 2 ^ 54 * 2 ^ 970 := by
  rw [← pow_add]

private theorem threshold_eq : overflowThreshold = (2 ^ 54 - 1) * 2 ^ 970 := by
  rw [overflowThreshold, top_eq, sub_mul, one_mul]

private theorem two_pow_970_pos : (0 : ℚ) < 2 ^ 970 := pow_pos (by norm_num) 970

private theorem grid_pos (q : ℚ) : (0 : ℚ) < 2 ^ ulpExponent q := zpow_pos (by norm_num) _

theorem roundMagnitude_nonneg {q : ℚ} (h : 0 ≤ q) : 0 ≤ roundMagnitude q := by
  have : (0 : ℤ) ≤ roundHalfEven (q / 2 ^ ulpExponent q) :=
    le_roundHalfEven (by simpa using div_nonneg h (grid_pos q).le)
  exact mul_nonneg (by exact_mod_cast this) (grid_pos q).le

private theorem roundMagnitude_lt_of_log_lt {q : ℚ} (h : Int.log 2 q < 1023) :
    roundMagnitude q < 2 ^ 1024 := by
  have grid := grid_pos q
  have size : q / 2 ^ ulpExponent q ≤ ((2 ^ 53 : ℤ) : ℚ) := by
    rw [div_le_iff₀ grid]
    have hlog : q < (2 : ℚ) ^ (Int.log 2 q + 1) := by
      exact_mod_cast Int.lt_zpow_succ_log_self (by norm_num) q
    have hexp : Int.log 2 q + 1 ≤ 53 + ulpExponent q := by
      have : Int.log 2 q - 52 ≤ ulpExponent q := le_max_left _ _
      omega
    calc q ≤ (2 : ℚ) ^ (Int.log 2 q + 1) := hlog.le
      _ ≤ (2 : ℚ) ^ (53 + ulpExponent q) := zpow_le_zpow_right₀ (by norm_num) hexp
      _ = ((2 ^ 53 : ℤ) : ℚ) * 2 ^ ulpExponent q := by
        rw [zpow_add₀ (by norm_num)]
        norm_num
  have rounded : (roundHalfEven (q / 2 ^ ulpExponent q) : ℚ) ≤ ((2 ^ 53 : ℤ) : ℚ) := by
    exact_mod_cast roundHalfEven_le size
  have hexp : ulpExponent q ≤ 970 := by
    simp only [ulpExponent]
    omega
  calc roundMagnitude q
      ≤ ((2 ^ 53 : ℤ) : ℚ) * 2 ^ ulpExponent q := mul_le_mul_of_nonneg_right rounded grid.le
    _ ≤ ((2 ^ 53 : ℤ) : ℚ) * 2 ^ (970 : ℤ) :=
        mul_le_mul_of_nonneg_left (zpow_le_zpow_right₀ (by norm_num) hexp) (by norm_num)
    _ < 2 ^ 54 * 2 ^ 970 := mul_lt_mul_of_pos_right (by norm_num) two_pow_970_pos
    _ = 2 ^ 1024 := top_eq.symm

private theorem roundMagnitude_lt_of_log_eq {q : ℚ} (h : Int.log 2 q = 1023) :
    roundMagnitude q < 2 ^ 1024 ↔ q < overflowThreshold := by
  have hexp : ulpExponent q = 971 := by
    simp [ulpExponent, h]
  have unit : (2 : ℚ) ^ (971 : ℤ) = 2 * 2 ^ 970 := by
    rw [← pow_succ']
    rfl
  have grid : (0 : ℚ) < 2 ^ (971 : ℤ) := zpow_pos (by norm_num) _
  have top : (2 : ℚ) ^ 1024 = ((2 ^ 53 : ℤ) : ℚ) * 2 ^ (971 : ℤ) := by
    rw [top_eq, unit]
    generalize (2 : ℚ) ^ 970 = quantum
    push_cast
    ring
  have edge : (((2 ^ 53 : ℤ) : ℚ) - 1 / 2) * 2 ^ (971 : ℤ) = overflowThreshold := by
    rw [threshold_eq, unit]
    generalize (2 : ℚ) ^ 970 = quantum
    push_cast
    ring
  rw [roundMagnitude, hexp, top, mul_lt_mul_iff_of_pos_right grid, Int.cast_lt,
    roundHalfEven_lt_even (by norm_num), div_lt_iff₀ grid, edge]

private theorem le_roundMagnitude_of_lt_log {q : ℚ} (pos : 0 < q) (h : 1023 < Int.log 2 q) :
    (2 : ℚ) ^ 1024 ≤ q ∧ 2 ^ 1024 ≤ roundMagnitude q := by
  have grid := grid_pos q
  have hexp : ulpExponent q = Int.log 2 q - 52 := max_eq_left (by omega)
  have hlog : (2 : ℚ) ^ Int.log 2 q ≤ q := by
    exact_mod_cast Int.zpow_log_le_self (by norm_num) pos
  have reach : (2 : ℚ) ^ 1024 ≤ 2 ^ Int.log 2 q := by
    exact_mod_cast zpow_le_zpow_right₀ (by norm_num : (1 : ℚ) ≤ 2) (by omega : (1024 : ℤ) ≤ _)
  have split : (2 : ℚ) ^ Int.log 2 q = ((2 ^ 52 : ℤ) : ℚ) * 2 ^ ulpExponent q := by
    rw [hexp, zpow_sub₀ (by norm_num)]
    norm_num
    ring
  have rounded : (2 ^ 52 : ℤ) ≤ roundHalfEven (q / 2 ^ ulpExponent q) :=
    le_roundHalfEven (by rw [le_div_iff₀ grid, ← split]; exact hlog)
  refine ⟨reach.trans hlog, ?_⟩
  calc (2 : ℚ) ^ 1024 ≤ ((2 ^ 52 : ℤ) : ℚ) * 2 ^ ulpExponent q := split ▸ reach
    _ ≤ roundMagnitude q :=
        mul_le_mul_of_nonneg_right (by exact_mod_cast rounded) grid.le

/-- Rounding reaches `2 ^ 1024` exactly from the threshold on. -/
theorem roundMagnitude_lt_iff {q : ℚ} (pos : 0 < q) :
    roundMagnitude q < 2 ^ 1024 ↔ q < overflowThreshold := by
  rcases lt_trichotomy (Int.log 2 q) 1023 with small | edge | large
  · apply iff_of_true (roundMagnitude_lt_of_log_lt small)
    have hlog : q < (2 : ℚ) ^ (Int.log 2 q + 1) := by
      exact_mod_cast Int.lt_zpow_succ_log_self (by norm_num) q
    have bound : (2 : ℚ) ^ (Int.log 2 q + 1) ≤ 2 ^ (1023 : ℤ) :=
      zpow_le_zpow_right₀ (by norm_num) (by omega)
    have half : (2 : ℚ) ^ (1023 : ℤ) = 2 ^ 53 * 2 ^ 970 := by
      rw [← pow_add]
      rfl
    rw [threshold_eq]
    apply (hlog.trans_le bound).trans
    rw [half]
    exact mul_lt_mul_of_pos_right (by norm_num) two_pow_970_pos
  · exact roundMagnitude_lt_of_log_eq edge
  · obtain ⟨beyond, rounded⟩ := le_roundMagnitude_of_lt_log pos large
    refine iff_of_false (not_lt.mpr rounded) (not_lt.mpr (le_trans ?_ beyond))
    exact sub_le_self _ two_pow_970_pos.le

theorem overflowThreshold_pos : 0 < overflowThreshold := by
  rw [threshold_eq]
  exact mul_pos (by norm_num) two_pow_970_pos

theorem two_pow_lt_overflowThreshold {n : ℕ} (h : n ≤ 970) : (2 : ℚ) ^ n < overflowThreshold := by
  have step : (2 : ℚ) ^ n ≤ 2 ^ 970 := pow_le_pow_right₀ (by norm_num) h
  rw [threshold_eq]
  calc (2 : ℚ) ^ n ≤ 2 ^ 970 := step
    _ < (2 ^ 54 - 1) * 2 ^ 970 := lt_mul_of_one_lt_left two_pow_970_pos (by norm_num)

/-! ### Conversion -/

theorem ofRat_of_pos {q : ℚ} (pos : 0 < q) (h : q < overflowThreshold) :
    ofRat q = finite (roundMagnitude q) := by
  simp only [ofRat, pos.ne', if_false, abs_of_pos pos, (roundMagnitude_lt_iff pos).mpr h,
    if_true, not_lt.mpr pos.le]

theorem ofRat_of_le {q : ℚ} (h : overflowThreshold ≤ q) : ofRat q = infinity false := by
  have pos : 0 < q := lt_of_lt_of_le overflowThreshold_pos h
  have large : ¬ roundMagnitude q < 2 ^ 1024 :=
    fun small => not_lt.mpr h ((roundMagnitude_lt_iff pos).mp small)
  simp [ofRat, pos.ne', abs_of_pos pos, large, pos.le]

/-- A non-negative number below the threshold becomes a finite non-negative one. -/
theorem ofRat_of_nonneg {q : ℚ} (nonneg : 0 ≤ q) (h : q < overflowThreshold) :
    ∃ v, ofRat q = finite v ∧ 0 ≤ v := by
  rcases nonneg.eq_or_lt with rfl | pos
  · exact ⟨0, rfl, le_refl 0⟩
  · exact ⟨_, ofRat_of_pos pos h, roundMagnitude_nonneg nonneg⟩

/-- Rounding keeps the sign. -/
theorem nonneg_ofRat {q : ℚ} (nonneg : 0 ≤ q) : (ofRat q).Nonneg := by
  rcases lt_or_ge q overflowThreshold with small | large
  · obtain ⟨v, hv, above⟩ := ofRat_of_nonneg nonneg small
    rw [hv]
    exact above
  · rw [ofRat_of_le large]
    rfl

/-- A difference of finite numbers in order is not negative. -/
theorem nonneg_sub {a b : ℚ} (le : a ≤ b) : ((finite b).sub (finite a)).Nonneg :=
  nonneg_ofRat (sub_nonneg.mpr le)

/-- Nothing below the threshold goes to positive infinity. -/
theorem ofRat_ne_infinity {q : ℚ} (h : q < overflowThreshold) : ofRat q ≠ infinity false := by
  rcases lt_or_ge q 0 with negative | nonneg
  · simp only [ofRat, negative.ne, if_false, negative]
    split <;> simp
  · obtain ⟨v, hv, -⟩ := ofRat_of_nonneg nonneg h
    simp [hv]

/-- A text of digits is converted to a finite number below the threshold only. -/
theorem isfinite_ofNat {n : ℕ} : (ofNat n).isfinite = true ↔ (n : ℚ) < overflowThreshold := by
  constructor
  · intro finite
    by_contra h
    rw [ofNat, ofRat_of_le (not_lt.mp h)] at finite
    cases finite
  · intro h
    obtain ⟨v, hv, -⟩ := ofRat_of_nonneg (Nat.cast_nonneg n) h
    rw [ofNat, hv]
    rfl

/-! ### Powers of two -/

theorem ulpExponent_two_zpow {z : ℤ} (least : -1074 ≤ z) : ulpExponent ((2 : ℚ) ^ z) ≤ z := by
  have log : Int.log 2 ((2 : ℚ) ^ z) = z := by
    exact_mod_cast Int.log_zpow (R := ℚ) (by norm_num : 1 < 2) z
  simp only [ulpExponent, log]
  omega

/-- A power of two is on the grid of its own last bit. -/
theorem roundMagnitude_two_zpow {z : ℤ} (least : -1074 ≤ z) :
    roundMagnitude ((2 : ℚ) ^ z) = 2 ^ z := by
  obtain ⟨bits, hbits⟩ := Int.le.dest (ulpExponent_two_zpow least)
  have whole : (2 : ℚ) ^ z / 2 ^ ulpExponent ((2 : ℚ) ^ z) = ((2 ^ bits : ℤ) : ℚ) := by
    rw [← zpow_sub₀ (by norm_num), show z - ulpExponent ((2 : ℚ) ^ z) = bits by omega]
    norm_num
  have exact : roundHalfEven ((2 : ℚ) ^ z / 2 ^ ulpExponent ((2 : ℚ) ^ z)) = 2 ^ bits :=
    le_antisymm (roundHalfEven_le whole.le) (le_roundHalfEven whole.ge)
  rw [roundMagnitude, exact, ← whole, div_mul_cancel₀ _ (grid_pos _).ne']

theorem two_zpow_lt_overflowThreshold {z : ℤ} (h : z ≤ 1023) :
    (2 : ℚ) ^ z < overflowThreshold := by
  have step : (2 : ℚ) ^ z ≤ 2 ^ (1023 : ℤ) := zpow_le_zpow_right₀ (by norm_num) h
  have half : (2 : ℚ) ^ (1023 : ℤ) = 2 ^ 53 * 2 ^ 970 := by
    rw [← pow_add]
    rfl
  rw [threshold_eq]
  calc (2 : ℚ) ^ z ≤ 2 ^ 53 * 2 ^ 970 := step.trans_eq half
    _ < (2 ^ 54 - 1) * 2 ^ 970 := mul_lt_mul_of_pos_right (by norm_num) two_pow_970_pos

/-- Powers of two in the range of the exponents are converted without rounding. -/
theorem ofRat_two_zpow {z : ℤ} (least : -1074 ≤ z) (greatest : z ≤ 1023) :
    ofRat ((2 : ℚ) ^ z) = finite (2 ^ z) := by
  rw [ofRat_of_pos (zpow_pos (by norm_num) z) (two_zpow_lt_overflowThreshold greatest),
    roundMagnitude_two_zpow least]

/-- An integral power of two is a finite number up to the exponent 1023 only. -/
theorem isfinite_ofNat_two_pow {n : ℕ} : (ofNat (2 ^ n)).isfinite = true ↔ n ≤ 1023 := by
  rw [isfinite_ofNat]
  push_cast
  constructor
  · intro small
    by_contra large
    have reach : (2 : ℚ) ^ 1024 ≤ 2 ^ n := pow_le_pow_right₀ (by norm_num) (by omega)
    have top : overflowThreshold < 2 ^ 1024 := sub_lt_self _ two_pow_970_pos
    exact absurd small (not_lt.mpr (top.le.trans reach))
  · intro small
    have := two_zpow_lt_overflowThreshold (show (n : ℤ) ≤ 1023 by omega)
    rwa [zpow_natCast] at this

end Binary64
