import Asyncly.Lib.Decimal
import Asyncly.Tools.Changelog

/-!
# The order of versions

A version is accepted when it is the text of three numbers, and is read as these. The next
version is the greater one, number by number.
-/

namespace Asyncly.Release

/-- The text of a version. -/
def formatVersion (version : Nat × Nat × Nat) : String :=
  s!"{version.1}.{version.2.1}.{version.2.2}"

/-- The first number in which the versions differ is greater. -/
def Greater : Nat × Nat × Nat → Nat × Nat × Nat → Prop
  | (major, minor, patch), (major', minor', patch') =>
      major' < major ∨ major = major' ∧ (minor' < minor ∨ minor = minor' ∧ patch' < patch)

/-- A version may follow another one. -/
def AcceptedAsNext (limit : Nat) (version previous : String) : Prop :=
  validateNextVersion limit version previous = .ok ()

theorem intOfDigits_zero (digits : List Char) :
    intOfDigits 0 digits = .ok (Nat.ofDigitChars 10 digits 0) := rfl

theorem toList_formatVersion (version : Nat × Nat × Nat) : (formatVersion version).toList =
    Nat.toDigits 10 version.1 ++
      '.' :: (Nat.toDigits 10 version.2.1 ++ '.' :: Nat.toDigits 10 version.2.2) := by
  simp [formatVersion, String.toList_append, toString]

/-- Without a limit on digits, what is read is what was written. -/
theorem stableVersion_eq_ok {value : String} {version : Nat × Nat × Nat} :
    stableVersion 0 value = .ok version ↔ value = formatVersion version := by
  constructor
  · intro read
    rw [stableVersion] at read
    cases matched : versionGroups value with
    | none =>
        rw [matched] at read
        cases read
    | some groups =>
        obtain ⟨major, minor, patch⟩ := groups
        obtain ⟨text, first, second, third⟩ := versionGroups_eq_some.mp matched
        rw [matched] at read
        have numbers : (Nat.ofDigitChars 10 major 0, Nat.ofDigitChars 10 minor 0,
            Nat.ofDigitChars 10 patch 0) = version := Except.ok.inj read
        apply String.toList_inj.mp
        rw [text, toList_formatVersion, ← numbers, Decimal.toDigits_ofDigitChars first,
          Decimal.toDigits_ofDigitChars second, Decimal.toDigits_ofDigitChars third]
  · rintro rfl
    have matched := versionGroups_eq_some.mpr ⟨toList_formatVersion version,
      Decimal.canonical_toDigits _, Decimal.canonical_toDigits _, Decimal.canonical_toDigits _⟩
    rw [stableVersion, matched]
    simp only [intOfDigits_zero, Nat.ofDigitChars_ten_toDigits]
    rfl

theorem versionOrder_lt_iff {new last : Nat × Nat × Nat} :
    versionOrder last < versionOrder new ↔ Greater new last := by
  rw [versionOrder, versionOrder, Prod.Lex.toLex_lt_toLex, Prod.Lex.toLex_lt_toLex, Greater]
  simp only [eq_comm]

/-- A version may follow exactly when it and the previous one are read, and it is greater. -/
theorem acceptedAsNext_iff {limit : Nat} {version previous : String} :
    AcceptedAsNext limit version previous ↔ ∃ new last,
      stableVersion limit version = .ok new ∧ stableVersion limit previous = .ok last ∧
        Greater new last := by
  rw [AcceptedAsNext, validateNextVersion, Fallible.bind_eq_ok]
  simp only [Fallible.bind_eq_ok, ← versionOrder_lt_iff]
  constructor
  · rintro ⟨new, read, last, read', passed⟩
    refine ⟨new, last, read, read', ?_⟩
    by_contra other
    rw [if_pos (not_lt.mp other)] at passed
    cases passed
  · rintro ⟨new, last, read, read', greater⟩
    refine ⟨new, read, last, read', ?_⟩
    rw [if_neg (not_le.mpr greater)]
    rfl

/-- Versions are read as they are written, and what may follow is a strict order on them. -/
structure VersionLaws (read : String → Except Exn (Nat × Nat × Nat))
    (next : String → String → Prop) : Prop where
  canonical : ∀ value version, read value = .ok version ↔ value = formatVersion version
  inverse : ∀ version, read (formatVersion version) = .ok version
  injective : ∀ value other version, read value = .ok version → read other = .ok version →
    value = other
  accepted : ∀ version previous, next version previous ↔
    ∃ new last, read version = .ok new ∧ read previous = .ok last ∧ Greater new last
  irrefl : ∀ version, ¬ next version version
  trans : ∀ version middle previous, next version middle → next middle previous →
    next version previous
  total : ∀ version other, (∃ numbers, read version = .ok numbers) →
    (∃ numbers, read other = .ok numbers) → version ≠ other →
      next version other ∨ next other version

/-- Where numerals may have any length, the release tool has these laws. -/
theorem versionLaws : VersionLaws (stableVersion 0) (AcceptedAsNext 0) where
  canonical _ _ := stableVersion_eq_ok
  inverse _ := stableVersion_eq_ok.mpr rfl
  injective _ _ _ read read' :=
    (stableVersion_eq_ok.mp read).trans (stableVersion_eq_ok.mp read').symm
  accepted _ _ := acceptedAsNext_iff
  irrefl version accepted := by
    obtain ⟨new, last, read, read', greater⟩ := acceptedAsNext_iff.mp accepted
    obtain rfl := Except.ok.inj (read.symm.trans read')
    exact lt_irrefl _ (versionOrder_lt_iff.mpr greater)
  trans version middle previous first second := by
    obtain ⟨new, between, read, read', greater⟩ := acceptedAsNext_iff.mp first
    obtain ⟨_, last, again, read'', greater'⟩ := acceptedAsNext_iff.mp second
    obtain rfl := Except.ok.inj (read'.symm.trans again)
    refine acceptedAsNext_iff.mpr ⟨new, last, read, read'', versionOrder_lt_iff.mp ?_⟩
    exact (versionOrder_lt_iff.mpr greater').trans (versionOrder_lt_iff.mpr greater)
  total version other := by
    rintro ⟨new, read⟩ ⟨last, read'⟩ differ
    have apart : versionOrder new ≠ versionOrder last := by
      intro same
      obtain rfl : new = last := by
        simpa [versionOrder, Prod.ext_iff] using same
      exact differ ((stableVersion_eq_ok.mp read).trans (stableVersion_eq_ok.mp read').symm)
    rcases lt_or_gt_of_ne apart with less | greater
    · exact .inr (acceptedAsNext_iff.mpr ⟨last, new, read', read, versionOrder_lt_iff.mp less⟩)
    · exact .inl (acceptedAsNext_iff.mpr ⟨new, last, read, read', versionOrder_lt_iff.mp greater⟩)

end Asyncly.Release
