import Asyncly.Metrics.RouteResolver
import Asyncly.Python.Paths

/-!
# What route labels keep apart

A label is to collapse the identifiers in a path, which are without number, and to keep the
words, which tell endpoints apart. The segments are told apart by their lengths and by the
classes of their characters alone.
-/

namespace Asyncly

/-- What every version of the database has: the letters, digits and the hyphen of ASCII are
what they are, and no letter is a digit. -/
structure UnicodeData.Documented (U : UnicodeData) : Prop where
  letter : ∀ c : Char, c.isAlpha = true → U.isAlpha c = true
  decimal : ∀ c : Char, c.isDigit = true → (U.decimal c).isSome = true
  hyphen_not_letter : U.isAlpha '-' = false
  hyphen_not_digit : U.isDigit '-' = false
  disjoint : ∀ c, U.isAlpha c = true → U.isDigit c = false

/-! ### Segments -/

/-- The segments of a path that are not empty. -/
def segments (path : String) : List (List Char) :=
  (path.toList.splitOn '/').filter fun p => !p.isEmpty

def isHexLetter (c : Char) : Bool := ('a' ≤ c && c ≤ 'f') || ('A' ≤ c && c ≤ 'F')

def isHexDigit (c : Char) : Bool := c.isDigit || isHexLetter c

/-- The text of a UUID: 32 hexadecimal digits, or as many in groups with hyphens between. -/
def IsUuid (segment : List Char) : Prop :=
  (segment.splitOn '-').map List.length ∈ [[32], [8, 4, 4, 4, 12]] ∧
    ∀ group ∈ segment.splitOn '-', ∀ c ∈ group, isHexDigit c = true

instance (segment : List Char) : Decidable (IsUuid segment) :=
  haveI (group : List Char) : Decidable (∀ c ∈ group, isHexDigit c = true) :=
    List.decidableBAll _ group
  inferInstanceAs (Decidable (_ ∧ _))

variable (U : UnicodeData)

/-- A string of decimal digits. -/
def IsNumber (segment : List Char) : Prop :=
  segment ≠ [] ∧ U.isDecimalText (String.ofList segment) = true

def IsIdentifier (segment : List Char) : Prop := IsNumber U segment ∨ IsUuid segment

/-- A word has a letter that is no hexadecimal digit. -/
def IsWord (segment : List Char) : Prop :=
  ∃ c ∈ segment, U.isAlpha c = true ∧ isHexLetter c = false

section Decidable

variable (segment : List Char)

instance : Decidable (IsNumber U segment) := inferInstanceAs (Decidable (_ ∧ _))

instance : Decidable (IsIdentifier U segment) := inferInstanceAs (Decidable (_ ∨ _))

instance : Decidable (IsWord U segment) := List.decidableBEx _ segment

end Decidable

/-- What becomes of a segment in a label. -/
structure Collapsed (segment : List Char) (part : String) : Prop where
  identifier : IsIdentifier U segment → part = ":id"
  word : IsWord U segment → part = String.ofList segment
  other : part = ":id" ∨ part = String.ofList segment

/-- A label has the segments of a path in order, the identifiers collapsed. -/
def Collapses (path label : String) : Prop :=
  ∃ parts, label = "/" ++ "/".intercalate parts ∧
    List.Forall₂ (Collapsed U) (segments path) parts

/-- Two paths differ only in identifiers. -/
def SameButIdentifiers (path path' : String) : Prop :=
  List.Forall₂ (fun s t => s = t ∨ IsIdentifier U s ∧ IsIdentifier U t)
    (segments path) (segments path')

instance (path path' : String) : Decidable (SameButIdentifiers U path path') :=
  inferInstanceAs (Decidable (List.Forall₂ _ _ _))

/-- Two paths have different words at one place. -/
def WordsDiffer (path path' : String) : Prop :=
  ∃ (i : ℕ) (s t : List Char), (segments path)[i]? = some s ∧ (segments path')[i]? = some t ∧
    IsWord U s ∧ IsWord U t ∧ s ≠ t

/-- Labels that collapse identifiers and nothing else. -/
structure CollapsesOnlyIdentifiers (label : RouteResolver) (url url' : Url) : Prop where
  first : Collapses U url.path (label url)
  second : Collapses U url'.path (label url')
  same : SameButIdentifiers U url.path url'.path → label url = label url'
  apart : WordsDiffer U url.path url'.path → label url ≠ label url'

/-- A word of a length that identifiers have, or a UUID in groups without a letter. -/
def Misread (segment : List Char) : Prop :=
  (IsWord U segment ∧ segment.length ∈ [8, 16, 32, 36]) ∨
    (IsUuid segment ∧ '-' ∈ segment ∧ ∀ c ∈ segment, isHexLetter c = false)

instance (segment : List Char) : Decidable (Misread U segment) :=
  haveI : Decidable (∀ c ∈ segment, isHexLetter c = false) := List.decidableBAll _ segment
  inferInstanceAs (Decidable (_ ∨ _))

/-! ### What the resolver takes for an identifier -/

/-- The test of the resolver. -/
def Taken (segment : List Char) : Prop :=
  U.isdigit (String.ofList segment) = true ∨
    segment.length ∈ [8, 16, 32, 36] ∧ ∃ c ∈ segment, U.isAlpha c = true

variable {U} {segment : List Char}

theorem routeSegment_of_taken (taken : Taken U segment) : routeSegment U segment = ":id" := by
  refine if_pos ?_
  simpa [Taken, List.any_eq_true] using taken

theorem routeSegment_of_not_taken (free : ¬ Taken U segment) :
    routeSegment U segment = String.ofList segment := by
  refine if_neg ?_
  simpa [Taken, List.any_eq_true] using free

theorem IsNumber.taken (number : IsNumber U segment) : Taken U segment := by
  refine .inl (U.isdigit_of_isDecimalText ?_ number.2)
  rw [String.toList_ofList]
  exact number.1

/-- A UUID has 32 hexadecimal digits, or 36 characters with hyphens among them. -/
theorem IsUuid.cases (uuid : IsUuid segment) :
    (segment.length = 32 ∧ ∀ c ∈ segment, isHexDigit c = true) ∨
      (segment.length = 36 ∧ '-' ∈ segment ∧ ∀ c ∈ segment, isHexDigit c = true ∨ c = '-') := by
  obtain ⟨lengths, digits⟩ := uuid
  have joined : ['-'].intercalate (segment.splitOn '-') = segment := List.intercalate_splitOn '-'
  generalize segment.splitOn '-' = groups at *
  subst joined
  rcases List.mem_pair.mp lengths with plain | grouped
  · obtain ⟨group, rfl, length⟩ := List.map_eq_singleton_iff.mp plain
    left
    rw [List.intercalate_singleton]
    exact ⟨length, digits group (List.mem_singleton_self group)⟩
  · right
    obtain ⟨a, _, rfl, ha, rest⟩ := List.map_eq_cons_iff.mp grouped
    obtain ⟨b, _, rfl, hb, rest⟩ := List.map_eq_cons_iff.mp rest
    obtain ⟨c, _, rfl, hc, rest⟩ := List.map_eq_cons_iff.mp rest
    obtain ⟨d, _, rfl, hd, rest⟩ := List.map_eq_cons_iff.mp rest
    obtain ⟨e, rfl, he⟩ := List.map_eq_singleton_iff.mp rest
    simp only [List.intercalate_cons_cons, List.intercalate_singleton]
    refine ⟨?_, by simp, ?_⟩
    · simp [ha, hb, hc, hd, he]
    · intro x member
      by_cases hyphen : x = '-'
      · exact .inr hyphen
      · simp only [List.forall_mem_cons] at digits
        obtain ⟨da, db, dc, dd, de, -⟩ := digits
        have among : x ∈ a ∨ x ∈ b ∨ x ∈ c ∨ x ∈ d ∨ x ∈ e := by simpa [hyphen] using member
        rcases among with here | here | here | here | here
        · exact .inl (da x here)
        · exact .inl (db x here)
        · exact .inl (dc x here)
        · exact .inl (dd x here)
        · exact .inl (de x here)

theorem length_of_ofList_eq {text : String} (same : String.ofList segment = text) :
    segment.length = text.toList.length := by
  rw [← same, String.toList_ofList]

/-- The codes of ASCII letters. -/
theorem isAlpha_iff {c : Char} : c.isAlpha = true ↔
    (65 ≤ c.val.toNat ∧ c.val.toNat ≤ 90) ∨ (97 ≤ c.val.toNat ∧ c.val.toNat ≤ 122) := by
  delta Char.isAlpha Char.isUpper Char.isLower
  simp only [Bool.or_eq_true, Bool.and_eq_true, decide_eq_true_eq, ge_iff_le,
    UInt32.le_iff_toNat_le, Char.reduceVal, UInt32.reduceToNat]

theorem isAlpha_of_isHexLetter {c : Char} (letter : isHexLetter c = true) :
    c.isAlpha = true := by
  simp only [isHexLetter, Bool.or_eq_true, Bool.and_eq_true, decide_eq_true_eq, Char.le_def,
    UInt32.le_iff_toNat_le, Char.reduceVal, UInt32.reduceToNat] at letter
  rw [isAlpha_iff]
  omega

section Documented

variable (documented : U.Documented)

include documented

/-- A character that may stand in a UUID is a letter just when it is one of a to f. -/
theorem isAlpha_eq_isHexLetter {c : Char} (allowed : isHexDigit c = true ∨ c = '-') :
    U.isAlpha c = isHexLetter c := by
  cases letter : isHexLetter c with
  | true => exact documented.letter c (isAlpha_of_isHexLetter letter)
  | false =>
      rcases allowed with digit | rfl
      · rw [isHexDigit, letter, Bool.or_false] at digit
        have isDigit := U.isDigit_of_decimal c (documented.decimal c digit)
        by_contra alpha
        rw [documented.disjoint c (Bool.not_eq_false _ ▸ alpha)] at isDigit
        cases isDigit
      · exact documented.hyphen_not_letter

/-- A word is taken for an identifier when it has the length of one. -/
theorem IsWord.taken_iff (word : IsWord U segment) :
    Taken U segment ↔ segment.length ∈ [8, 16, 32, 36] := by
  obtain ⟨c, member, alpha, -⟩ := word
  constructor
  · rintro (digits | ⟨length, -⟩)
    · simp only [UnicodeData.isdigit, String.toList_ofList, Bool.and_eq_true, List.all_eq_true]
        at digits
      have digit := digits.2 c member
      rw [documented.disjoint c alpha] at digit
      cases digit
    · exact length
  · intro length
    exact .inr ⟨length, c, member, alpha⟩

/-- A UUID is taken for one unless it is in groups and has no letter. -/
theorem IsUuid.taken_iff (uuid : IsUuid segment) :
    Taken U segment ↔ ¬ ('-' ∈ segment ∧ ∀ c ∈ segment, isHexLetter c = false) := by
  rcases uuid.cases with ⟨length, digits⟩ | ⟨length, hyphen, allowed⟩
  · have noHyphen : '-' ∉ segment := fun member => absurd (digits '-' member) (by decide)
    refine iff_of_true ?_ fun grouped => noHyphen grouped.1
    by_cases letter : ∃ c ∈ segment, isHexLetter c = true
    · obtain ⟨c, member, letter⟩ := letter
      rw [← isAlpha_eq_isHexLetter documented (.inl (digits c member))] at letter
      exact .inr ⟨by simp [length], c, member, letter⟩
    · refine IsNumber.taken ⟨?_, ?_⟩
      · rintro rfl
        cases length
      · simp only [UnicodeData.isDecimalText, String.toList_ofList, List.all_eq_true]
        intro c member
        have digit := digits c member
        rw [isHexDigit, Bool.or_eq_true] at digit
        exact documented.decimal c (digit.resolve_right fun h => letter ⟨c, member, h⟩)
  · constructor
    · rintro (digits | ⟨-, c, member, alpha⟩) ⟨-, none⟩
      · simp only [UnicodeData.isdigit, String.toList_ofList, Bool.and_eq_true, List.all_eq_true]
          at digits
        have digit := digits.2 '-' hyphen
        rw [documented.hyphen_not_digit] at digit
        cases digit
      · rw [isAlpha_eq_isHexLetter documented (allowed c member), none c member] at alpha
        cases alpha
    · intro some
      obtain ⟨c, member, letter⟩ : ∃ c ∈ segment, isHexLetter c = true := by
        by_contra none
        refine some ⟨hyphen, fun c member => ?_⟩
        by_contra letter
        exact none ⟨c, member, Bool.not_eq_false _ ▸ letter⟩
      rw [← isAlpha_eq_isHexLetter documented (allowed c member)] at letter
      exact .inr ⟨by simp [length], c, member, letter⟩

/-- A segment is dealt with as it should be exactly when it is not misread. -/
theorem collapsed_routeSegment_iff :
    Collapsed U segment (routeSegment U segment) ↔ ¬ Misread U segment := by
  have id : ":id".toList.length = 3 := rfl
  by_cases taken : Taken U segment
  · rw [routeSegment_of_taken taken]
    constructor
    · rintro collapsed (⟨word, length⟩ | ⟨uuid, grouped⟩)
      · have three := length_of_ofList_eq (collapsed.word word).symm
        rw [three, id] at length
        exact absurd length (by decide)
      · exact (uuid.taken_iff documented).mp taken grouped
    · intro right
      refine ⟨fun _ => rfl, fun word => ?_, .inl rfl⟩
      exact absurd (.inl ⟨word, (word.taken_iff documented).mp taken⟩) right
  · rw [routeSegment_of_not_taken taken]
    constructor
    · rintro collapsed (⟨word, length⟩ | ⟨uuid, grouped⟩)
      · exact taken ((word.taken_iff documented).mpr length)
      · have three := length_of_ofList_eq (collapsed.identifier (.inr uuid))
        rw [id] at three
        rcases uuid.cases with ⟨length, -⟩ | ⟨length, -⟩
        · omega
        · omega
    · intro right
      refine ⟨?_, fun _ => rfl, .inr rfl⟩
      rintro (number | uuid)
      · exact absurd number.taken taken
      · exact absurd ((uuid.taken_iff documented).mpr fun grouped => right (.inr ⟨uuid, grouped⟩))
          taken

end Documented

/-! ### Labels -/

/-- Texts without a slash are told apart when slashes are put between them. -/
theorem intercalate_inj {parts parts' : List String} (free : ∀ part ∈ parts, '/' ∉ part.toList)
    (free' : ∀ part ∈ parts', '/' ∉ part.toList) (nonempty : parts = [] ↔ parts' = [])
    (same : "/".intercalate parts = "/".intercalate parts') : parts = parts' := by
  by_cases empty : parts = []
  · rw [empty, nonempty.mp empty]
  have split {parts : List String} (free : ∀ part ∈ parts, '/' ∉ part.toList)
      (some : parts ≠ []) :
      ("/".intercalate parts).toList.splitOn '/' = parts.map String.toList := by
    rw [String.toList_intercalate]
    refine List.splitOn_intercalate '/' ?_ (by simpa using some)
    simpa using free
  have lists : parts.map String.toList = parts'.map String.toList := by
    rw [← split free empty, ← split free' (fun h => empty (nonempty.mpr h)), same]
  exact List.map_injective_iff.mpr (fun _ _ => String.toList_inj.mp) lists

theorem defaultRouteResolver_eq (U : UnicodeData) (url : Url) :
    defaultRouteResolver U url =
      "/" ++ "/".intercalate ((segments url.path).map (routeSegment U)) := by
  rw [defaultRouteResolver, ← segments]
  cases segments url.path with
  | nil => rfl
  | cons segment rest => rfl

theorem not_mem_segment {path : String} (member : segment ∈ segments path) : '/' ∉ segment :=
  not_mem_of_mem_splitOn (List.mem_of_mem_filter member)

theorem slash_not_mem {part : String} (kept : part = ":id" ∨ part = String.ofList segment)
    (free : '/' ∉ segment) : '/' ∉ part.toList := by
  rcases kept with rfl | rfl
  · decide
  · rwa [String.toList_ofList]

theorem routeSegment_cases (U : UnicodeData) (segment : List Char) :
    routeSegment U segment = ":id" ∨ routeSegment U segment = String.ofList segment := by
  by_cases taken : Taken U segment
  · exact .inl (routeSegment_of_taken taken)
  · exact .inr (routeSegment_of_not_taken taken)

theorem forall_mem_parts {path : String} :
    ∀ part ∈ (segments path).map (routeSegment U), '/' ∉ part.toList := by
  rw [List.forall_mem_map]
  intro segment member
  exact slash_not_mem (routeSegment_cases U segment) (not_mem_segment member)

/-- What becomes of segments without a slash has none. -/
theorem forall_mem_of_collapsed {segments : List (List Char)} {parts : List String}
    (collapsed : List.Forall₂ (Collapsed U) segments parts)
    (free : ∀ segment ∈ segments, '/' ∉ segment) : ∀ part ∈ parts, '/' ∉ part.toList := by
  induction collapsed with
  | nil => exact List.forall_mem_nil _
  | cons first _ ih =>
      rw [List.forall_mem_cons] at free ⊢
      exact ⟨slash_not_mem first.other free.1, ih free.2⟩

section Documented

variable (documented : U.Documented)

include documented

/-- A label collapses what it should exactly when no segment is misread. -/
theorem collapses_iff (url : Url) :
    Collapses U url.path (defaultRouteResolver U url) ↔
      ∀ segment ∈ segments url.path, ¬ Misread U segment := by
  rw [defaultRouteResolver_eq]
  constructor
  · rintro ⟨parts, label, collapsed⟩ segment member
    have free := forall_mem_of_collapsed collapsed fun _ => not_mem_segment
    have nonempty : (segments url.path).map (routeSegment U) = [] ↔ parts = [] := by
      rw [← List.length_eq_zero_iff, ← List.length_eq_zero_iff, List.length_map,
        collapsed.length_eq]
    have same :=
      intercalate_inj forall_mem_parts free nonempty ((String.append_right_inj "/").mp label)
    rw [← same, List.forall₂_map_right_iff, List.forall₂_same] at collapsed
    exact (collapsed_routeSegment_iff documented).mp (collapsed segment member)
  · intro right
    refine ⟨_, rfl, List.forall₂_map_right_iff.mpr (List.forall₂_same.mpr ?_)⟩
    intro segment member
    exact (collapsed_routeSegment_iff documented).mpr (right segment member)

/-- Where no segment is misread, identifiers make no difference. -/
theorem map_routeSegment_eq {segments segments' : List (List Char)}
    (same : List.Forall₂ (fun s t => s = t ∨ IsIdentifier U s ∧ IsIdentifier U t)
      segments segments')
    (right : ∀ segment ∈ segments, ¬ Misread U segment)
    (right' : ∀ segment ∈ segments', ¬ Misread U segment) :
    segments.map (routeSegment U) = segments'.map (routeSegment U) := by
  induction same with
  | nil => rfl
  | @cons s t _ _ alike _ ih =>
      rw [List.forall_mem_cons] at right right'
      have label : routeSegment U s = routeSegment U t := by
        rcases alike with rfl | ⟨identifier, identifier'⟩
        · rfl
        · rw [((collapsed_routeSegment_iff documented).mpr right.1).identifier identifier,
            ((collapsed_routeSegment_iff documented).mpr right'.1).identifier identifier']
      rw [List.map_cons, List.map_cons, label, ih right.2 right'.2]

/-- Where no segment is misread, words do. -/
theorem label_ne_of_apart {url url' : Url}
    (right : ∀ segment ∈ segments url.path, ¬ Misread U segment)
    (right' : ∀ segment ∈ segments url'.path, ¬ Misread U segment)
    (apart : WordsDiffer U url.path url'.path) :
    defaultRouteResolver U url ≠ defaultRouteResolver U url' := by
  obtain ⟨i, s, t, here, there, word, word', differ⟩ := apart
  intro labels
  rw [defaultRouteResolver_eq, defaultRouteResolver_eq] at labels
  have nonempty : (segments url.path).map (routeSegment U) = [] ↔
      (segments url'.path).map (routeSegment U) = [] := by
    rw [List.map_eq_nil_iff, List.map_eq_nil_iff]
    exact iff_of_false (List.ne_nil_of_mem (List.mem_of_getElem? here))
      (List.ne_nil_of_mem (List.mem_of_getElem? there))
  have parts := intercalate_inj forall_mem_parts forall_mem_parts nonempty
    ((String.append_right_inj "/").mp labels)
  have at_i := congrArg (fun parts => parts[i]?) parts
  simp only [List.getElem?_map, here, there, Option.map_some, Option.some.injEq] at at_i
  have kept := (collapsed_routeSegment_iff documented).mpr (right s (List.mem_of_getElem? here))
  have kept' := (collapsed_routeSegment_iff documented).mpr (right' t (List.mem_of_getElem? there))
  rw [kept.word word, kept'.word word'] at at_i
  exact differ (String.ofList_inj.mp at_i)

end Documented

/-- Labels collapse identifiers and nothing else exactly when the paths have no word of a
length identifiers have, and no UUID in groups whose digits are all decimal. -/
theorem defaultRouteResolver_collapses_iff (documented : U.Documented) (url url' : Url) :
    CollapsesOnlyIdentifiers U (defaultRouteResolver U) url url' ↔
      (∀ segment ∈ segments url.path, ¬ Misread U segment) ∧
        ∀ segment ∈ segments url'.path, ¬ Misread U segment := by
  constructor
  · intro collapses
    exact ⟨(collapses_iff documented url).mp collapses.first,
      (collapses_iff documented url').mp collapses.second⟩
  · rintro ⟨right, right'⟩
    refine ⟨(collapses_iff documented url).mpr right, (collapses_iff documented url').mpr right',
      fun same => ?_, label_ne_of_apart documented right right'⟩
    rw [defaultRouteResolver_eq, defaultRouteResolver_eq,
      map_routeSegment_eq documented same right right']

/-- The first characters of the database are as documented. -/
theorem UnicodeData.latin1_documented : UnicodeData.latin1.Documented where
  letter c h := by simp [latin1, h]
  decimal c h := by simp [latin1, h]
  hyphen_not_letter := by decide
  hyphen_not_digit := by decide
  disjoint c h := by
    by_contra digit
    simp only [latin1, isAlpha_iff, Char.isDigit, Bool.or_eq_true, Bool.and_eq_true,
      decide_eq_true_eq, Bool.not_eq_false, ge_iff_le, UInt32.le_iff_toNat_le,
      ← UInt32.toNat_inj, Char.reduceVal, UInt32.reduceToNat] at h digit
    omega

theorem defaultRouteResolver_collapses_iff_sample :
    CollapsesOnlyIdentifiers .latin1 (defaultRouteResolver .latin1)
      ⟨"http://cats/7", "http", "/cats/7"⟩ ⟨"http://cats//42/", "http", "/cats//42/"⟩ := by
  refine (defaultRouteResolver_collapses_iff UnicodeData.latin1_documented _ _).mpr ⟨?_, ?_⟩
  · decide
  · decide

/-- Two words of eight letters are merged, and two UUIDs without a letter are told apart. -/
theorem defaultRouteResolver_collapses_fails :
    ¬ CollapsesOnlyIdentifiers .latin1 (defaultRouteResolver .latin1)
      ⟨"http://shop/products", "http", "/products"⟩
      ⟨"http://shop/invoices", "http", "/invoices"⟩ ∧
    ¬ CollapsesOnlyIdentifiers .latin1 (defaultRouteResolver .latin1)
      ⟨"http://shop/12345678-1234-1234-1234-123456789012", "http",
        "/12345678-1234-1234-1234-123456789012"⟩
      ⟨"http://shop/12345678-1234-1234-1234-123456789013", "http",
        "/12345678-1234-1234-1234-123456789013"⟩ := by
  constructor
  · intro collapses
    refine collapses.apart ⟨0, "products".toList, "invoices".toList, ?_⟩ ?_
    · decide
    · decide
  · intro collapses
    have labels := collapses.same (by decide)
    exact absurd labels (by decide)

end Asyncly
