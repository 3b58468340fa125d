import Asyncly.Lib.Decimal
import Asyncly.Python.Text
import Asyncly.Tools.Files

/-!
# Release versions

A version is three decimal numerals without leading zeros. Its numerals are turned into
numbers, which the interpreter refuses for numerals that are too long.
-/

namespace Asyncly.Release

/-- `0|[1-9][0-9]*` -/
def isNumeral : List Char → Bool
  | ['0'] => true
  | c :: rest => '1' ≤ c && c ≤ '9' && rest.all fun d => '0' ≤ d && d ≤ '9'
  | [] => false

/-- The groups of `_VERSION.fullmatch(value)`. -/
def versionGroups (value : String) : Option (List Char × List Char × List Char) :=
  match value.toList.splitOn '.' with
  | [major, minor, patch] =>
      if isNumeral major && isNumeral minor && isNumeral patch then some (major, minor, patch)
      else none
  | _ => none

/-- `int(text)` for a text of digits, under the interpreter's limit on their number; a
limit of zero is none. -/
def intOfDigits (limit : Nat) (digits : List Char) : Except Exn Nat :=
  if limit ≠ 0 ∧ limit < digits.length then
    .error (.valueError (s!"Exceeds the limit ({limit} digits) for integer string conversion: " ++
      s!"value has {digits.length} digits; " ++
      "use sys.set_int_max_str_digits() to increase the limit"))
  else .ok (digits.foldl (fun n d => 10 * n + (d.toNat - 48)) 0)

/-- `stable_version` -/
def stableVersion (limit : Nat) (value : String) : Except Exn (Nat × Nat × Nat) :=
  match versionGroups value with
  | none => .error (.releaseError s!"version {quoted value} must be stable X.Y.Z SemVer")
  | some (major, minor, patch) => do
      let major ← intOfDigits limit major
      let minor ← intOfDigits limit minor
      let patch ← intOfDigits limit patch
      pure (major, minor, patch)

/-- The numerals are within the limit on digits. -/
def WithinDigits (limit : Nat) (groups : List Char × List Char × List Char) : Prop :=
  ∀ digits ∈ [groups.1, groups.2.1, groups.2.2], limit = 0 ∨ digits.length ≤ limit

/-- A stable version whose numerals the interpreter reads. -/
def Stable (limit : Nat) (value : String) : Prop :=
  ∃ groups, versionGroups value = some groups ∧ WithinDigits limit groups

/-- What `main` reports. -/
abbrev Reported (exc : Exn) : Prop := exc.isinstance [.releaseError] = true

theorem reported_releaseError (text : String) : Reported (.releaseError text) := rfl

/-! ### Numerals -/

theorem isDigit_iff_le {c : Char} : c.isDigit = true ↔ '0' ≤ c ∧ c ≤ '9' := by
  simp only [Char.isDigit, Bool.and_eq_true, decide_eq_true_eq]
  exact Iff.rfl

/-- A digit other than zero is at least one. -/
theorem one_le_of_isDigit {c : Char} (digit : c.isDigit = true) (other : c ≠ '0') : '1' ≤ c := by
  obtain ⟨low, -⟩ : 48 ≤ c.toNat ∧ c.toNat ≤ 57 := Char.isDigit_iff_toNat.mp digit
  have differ : c.toNat ≠ 48 := fun same => other (Char.toNat_inj.mp same)
  rw [Char.le_def, UInt32.le_iff_toNat_le]
  change 49 ≤ c.toNat
  omega

theorem isNumeral_iff {digits : List Char} :
    isNumeral digits = true ↔ Decimal.Canonical digits := by
  constructor
  · intro numeral
    rw [isNumeral.eq_def] at numeral
    split at numeral
    · exact ⟨by simp, fun c member => List.mem_singleton.mp member ▸ rfl, fun _ => rfl⟩
    · rename_i first rest _
      simp only [Bool.and_eq_true, decide_eq_true_eq, List.all_eq_true] at numeral
      obtain ⟨⟨low, high⟩, others⟩ := numeral
      refine ⟨by simp, List.forall_mem_cons.mpr ⟨?_, ?_⟩, fun leading => ?_⟩
      · exact isDigit_iff_le.mpr ⟨Char.le_trans (by decide : '0' ≤ '1') low, high⟩
      · exact fun c later => isDigit_iff_le.mpr (others c later)
      · rw [Option.some.inj leading] at low
        exact absurd low (by decide)
    · cases numeral
  · rintro ⟨nonempty, digit, leading⟩
    rw [isNumeral.eq_def]
    split
    · rfl
    · rename_i first rest several
      obtain ⟨firstDigit, others⟩ := List.forall_mem_cons.mp digit
      have other : first ≠ '0' := by
        rintro rfl
        obtain ⟨-, rfl⟩ := List.cons.inj (leading rfl)
        exact several rfl rfl
      simp only [Bool.and_eq_true, decide_eq_true_eq, List.all_eq_true]
      exact ⟨⟨one_le_of_isDigit firstDigit other, (isDigit_iff_le.mp firstDigit).2⟩,
        fun c later => isDigit_iff_le.mp (others c later)⟩
    · exact absurd rfl nonempty

/-- The groups are three numerals with dots between them. -/
theorem versionGroups_eq_some {value : String} {major minor patch : List Char} :
    versionGroups value = some (major, minor, patch) ↔
      value.toList = major ++ '.' :: (minor ++ '.' :: patch) ∧ Decimal.Canonical major ∧
        Decimal.Canonical minor ∧ Decimal.Canonical patch := by
  rw [versionGroups]
  constructor
  · intro matched
    split at matched
    · rename_i major' minor' patch' split
      have joined : ['.'].intercalate (value.toList.splitOn '.') = value.toList :=
        List.intercalate_splitOn _
      by_cases numerals : (isNumeral major' && isNumeral minor' && isNumeral patch') = true
      · rw [if_pos numerals] at matched
        cases matched
        simp only [Bool.and_eq_true, isNumeral_iff] at numerals
        obtain ⟨⟨first, second⟩, third⟩ := numerals
        refine ⟨?_, first, second, third⟩
        rw [← joined, split]
        simp [List.intercalate_cons_cons]
      · rw [if_neg numerals] at matched
        cases matched
    · cases matched
  · rintro ⟨text, first, second, third⟩
    have free {digits : List Char} (numeral : Decimal.Canonical digits) : '.' ∉ digits :=
      fun dot => absurd (numeral.isDigit '.' dot) (by decide)
    have split : value.toList.splitOn '.' = [major, minor, patch] := by
      have joined : value.toList = ['.'].intercalate [major, minor, patch] := by
        simp [text, List.intercalate_cons_cons]
      rw [joined]
      exact List.splitOn_intercalate '.'
        (by simp [free first, free second, free third]) (by simp)
    simp [split, isNumeral_iff.mpr first, isNumeral_iff.mpr second, isNumeral_iff.mpr third]

/-! ### What is read -/

theorem intOfDigits_cases (limit : Nat) (digits : List Char) :
    ((limit = 0 ∨ digits.length ≤ limit) ∧ ∃ n, intOfDigits limit digits = .ok n) ∨
      (¬ (limit = 0 ∨ digits.length ≤ limit) ∧
        ∃ text, intOfDigits limit digits = .error (.valueError text)) := by
  rw [intOfDigits]
  split
  · exact .inr ⟨by omega, _, rfl⟩
  · exact .inl ⟨by omega, _, rfl⟩

/-- A version is read, refused, or too long to be read. -/
theorem stableVersion_cases (limit : Nat) (value : String) :
    (Stable limit value ∧ ∃ version, stableVersion limit value = .ok version) ∨
      (versionGroups value = none ∧
        ∃ text, stableVersion limit value = .error (.releaseError text)) ∨
      ((∃ groups, versionGroups value = some groups ∧ ¬ WithinDigits limit groups) ∧
        ∃ text, stableVersion limit value = .error (.valueError text)) := by
  rw [stableVersion, Stable]
  cases versionGroups value with
  | none => exact .inr (.inl ⟨rfl, _, rfl⟩)
  | some groups =>
      obtain ⟨major, minor, patch⟩ := groups
      rcases intOfDigits_cases limit major with ⟨first, x, hx⟩ | ⟨first, text, hx⟩
      · rcases intOfDigits_cases limit minor with ⟨second, y, hy⟩ | ⟨second, text, hy⟩
        · rcases intOfDigits_cases limit patch with ⟨third, z, hz⟩ | ⟨third, text, hz⟩
          · simp only [hx, hy, hz]
            exact .inl ⟨⟨_, rfl, by simp [WithinDigits, first, second, third]⟩, _, rfl⟩
          · simp only [hx, hy, hz]
            exact .inr (.inr ⟨⟨_, rfl, fun all => third (all _ (by simp))⟩, text, rfl⟩)
        · simp only [hx, hy]
          exact .inr (.inr ⟨⟨_, rfl, fun all => second (all _ (by simp))⟩, text, rfl⟩)
      · simp only [hx]
        exact .inr (.inr ⟨⟨_, rfl, fun all => first (all _ (by simp))⟩, text, rfl⟩)

theorem stableVersion_ok_iff {limit : Nat} {value : String} :
    (∃ version, stableVersion limit value = .ok version) ↔ Stable limit value := by
  rcases stableVersion_cases limit value with
    ⟨stable, read⟩ | ⟨none, text, refused⟩ | ⟨⟨groups, matched, long⟩, text, failed⟩
  · exact iff_of_true read stable
  · rw [refused, Stable, none]
    exact iff_of_false (by simp) (by simp)
  · rw [failed, Stable, matched]
    apply iff_of_false (by simp)
    rintro ⟨other, same, within⟩
    exact long (Option.some.inj same ▸ within)

/-- Only a version that is too long to be read gets past `main`. -/
theorem escapes_stableVersion_iff {limit : Nat} {value : String} :
    Fallible.Escapes Reported (stableVersion limit value) ↔
      ∃ groups, versionGroups value = some groups ∧ ¬ WithinDigits limit groups := by
  rcases stableVersion_cases limit value with
    ⟨⟨groups, matched, within⟩, version, read⟩ | ⟨none, text, refused⟩ | ⟨long, text, failed⟩
  · rw [read, matched]
    apply iff_of_false (Fallible.not_escapes_ok _)
    rintro ⟨other, same, long⟩
    exact long (Option.some.inj same ▸ within)
  · rw [refused, none]
    refine iff_of_false ?_ (by simp)
    rw [Fallible.escapes_error]
    exact not_not_intro (reported_releaseError text)
  · rw [failed]
    refine iff_of_true ?_ long
    rw [Fallible.escapes_error]
    exact fun reported => by cases reported

theorem not_escapes_stableVersion {limit : Nat} {value : String} (stable : Stable limit value) :
    ¬ Fallible.Escapes Reported (stableVersion limit value) := by
  rw [escapes_stableVersion_iff]
  rintro ⟨groups, matched, long⟩
  obtain ⟨other, same, within⟩ := stable
  exact long (Option.some.inj (same.symm.trans matched) ▸ within)

/-! ### The characters of a version -/

/-- The characters of a stable version. -/
def VersionText (version : String) : Prop := ∀ c ∈ version.toList, c.isDigit = true ∨ c = '.'

theorem versionText_of_stable {limit : Nat} {version : String} {numbers : Nat × Nat × Nat}
    (stable : stableVersion limit version = .ok numbers) : VersionText version := by
  obtain ⟨⟨major, minor, patch⟩, matched, -⟩ := stableVersion_ok_iff.mp ⟨numbers, stable⟩
  obtain ⟨text, first, second, third⟩ := versionGroups_eq_some.mp matched
  intro c member
  rw [text] at member
  have cases : c ∈ major ∨ c = '.' ∨ c ∈ minor ∨ c = '.' ∨ c ∈ patch := by
    simpa using member
  rcases cases with here | dot | here | dot | here
  · exact .inl (first.isDigit c here)
  · exact .inr dot
  · exact .inl (second.isDigit c here)
  · exact .inr dot
  · exact .inl (third.isDigit c here)

namespace VersionText

variable {version : String} (h : VersionText version)

include h

/-- Nothing else occurs in a version. -/
theorem not_mem {c : Char} (noDigit : c.isDigit = false) (noDot : c ≠ '.') :
    c ∉ version.toList := by
  intro member
  rcases h c member with digit | dot
  · rw [digit] at noDigit
    cases noDigit
  · exact noDot dot

end VersionText

end Asyncly.Release
