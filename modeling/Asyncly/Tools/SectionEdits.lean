import Asyncly.Tools.Changelog
import Asyncly.Tools.ReleaseNotes

/-!
# Notes and links together

A release edits single lines of the changelog, and none that opens a section. The notes of a
version change with it only when the edited line is in the section of that version, which is
the case for the links at the end of the last section.
-/

namespace Asyncly.Release

variable {U : UnicodeData} {limit : Nat} {version : String}

/-! ### The section of a version -/

/-- The lines have one heading of the version that is ended by a newline; its section is the
lines up to the next heading. -/
structure SectionAt (U : UnicodeData) (version : String) (ls before : List (List Char))
    (heading : List Char) (body rest : List (List Char)) : Prop where
  split : ls = before ++ heading :: (body ++ rest)
  opens : isHeading U version heading = true
  behind : body ++ rest ≠ []
  only : (before ++ (body ++ rest).dropLast).filter (isHeading U version) = []
  plain : ∀ line ∈ body, isOpening line = false
  ends : ∀ next ∈ rest.head?, isOpening next = true

/-- What a call makes of the notes it finds. -/
def deliver (version : String) : Option String → Except Exn String
  | some notes => .ok notes
  | none => .error (.releaseError s!"empty changelog section for {version}")

theorem deliver_inj {notes notes' : Option String}
    (same : deliver version notes = deliver version notes') : notes = notes' := by
  cases notes with
  | none =>
      cases notes' with
      | none => rfl
      | some _ => cases same
  | some text =>
      cases notes' with
      | none => cases same
      | some text' => exact congrArg some (Except.ok.inj same)

theorem deliver_notesOf (text : List Char) : deliver version (notesOf U text) =
    (let notes := U.strip (String.ofList text)
      if notes = "" then throw (.releaseError s!"empty changelog section for {version}")
      else pure (notes ++ "\n")) := by
  rw [notesOf]
  dsimp only
  split
  · rfl
  · rfl

section Lines

variable {ls before body rest : List (List Char)} {heading : List Char}

theorem exists_section (one : ls.dropLast.filter (isHeading U version) = [heading]) :
    ∃ before body rest, SectionAt U version ls before heading body rest := by
  obtain ⟨before, after, split, none, opens, none'⟩ := List.filter_eq_cons_iff.mp one
  obtain ⟨last, whole⟩ : ∃ last, ls = before ++ heading :: (after ++ [last]) := by
    rcases List.eq_nil_or_concat ls with rfl | ⟨init, last, rfl⟩
    · simp at split
    · rw [List.concat_eq_append, List.dropLast_concat] at split
      exact ⟨last, by rw [List.concat_eq_append, split]; simp⟩
  have parts := List.takeWhile_append_dropWhile (p := fun line => !isOpening line)
    (l := after ++ [last])
  refine ⟨before, (after ++ [last]).takeWhile fun line => !isOpening line,
    (after ++ [last]).dropWhile fun line => !isOpening line, ?_, opens, ?_, ?_, ?_, ?_⟩
  · rw [parts, whole]
  · rw [parts]
    simp
  · rw [parts, List.dropLast_concat, List.filter_append, none', List.append_nil,
      List.filter_eq_nil_iff]
    exact none
  · intro line member
    have all : ((after ++ [last]).takeWhile fun line => !isOpening line).all _ = true :=
      List.all_takeWhile
    simpa using List.all_eq_true.mp all line member
  · intro next first
    have stops := List.head?_dropWhile_not (fun line => !isOpening line) (after ++ [last])
    rw [Option.mem_def.mp first] at stops
    simpa using stops

variable {text : String}

/-- What is returned for a section. -/
theorem SectionAt.extract_eq (newline : U.isSpace '\n' = true) (stable : Stable limit version)
    (h : SectionAt U version (Lines.lines text.toList) before heading body rest) :
    extractReleaseNotes U limit text version =
      deliver version (notesOf U (Lines.unlines body)) := by
  obtain ⟨numbers, read⟩ := stableVersion_ok_iff.mpr stable
  have ended : (Lines.lines text.toList).dropLast =
      before ++ heading :: (body ++ rest).dropLast := by
    rw [h.split, List.dropLast_append_of_ne_nil (by simp), List.dropLast_cons_of_ne_nil h.behind]
  have found : Lines.findEnded (isHeading U version) text.toList =
      [⟨(Lines.above before).length, (Lines.above before).length + heading.length, heading⟩] := by
    rw [Lines.findEnded, ended, Lines.findFrom_of_unique 0 h.opens, Nat.zero_add]
    intro other member
    have none := List.filter_eq_nil_iff.mp h.only other member
    simpa using none
  have oneLine : ∀ line ∈ body ++ rest, '\n' ∉ line := by
    intro line member
    refine @not_mem_of_mem_splitOn _ _ _ _ text.toList _ ?_
    rw [← Lines.lines, h.split]
    exact List.mem_append_right before (List.mem_cons_of_mem heading member)
  have whole : text.toList = Lines.unlines (before ++ heading :: (body ++ rest)) := by
    rw [← h.split, Lines.unlines_lines]
  rw [extractReleaseNotes, read, Fallible.ok_bind, found,
    ← notesOf_sectionText newline h.behind oneLine h.plain h.ends, deliver_notesOf, ← whole]

/-- What is returned where the headings of the version are not one. -/
theorem extract_eq_of_not_one (stable : Stable limit version)
    (several : ((Lines.lines text.toList).dropLast.filter (isHeading U version)).length ≠ 1) :
    extractReleaseNotes U limit text version =
      if (Lines.lines text.toList).dropLast.filter (isHeading U version) = [] then
        .error (.releaseError s!"missing changelog section for {version}")
      else .error (.releaseError s!"expected exactly one changelog section for {version}") := by
  obtain ⟨numbers, read⟩ := stableVersion_ok_iff.mpr stable
  have headings : (Lines.findFrom (isHeading U version) 0
      (Lines.lines text.toList).dropLast).map Lines.Found.group = _ := Lines.findFrom_map_group 0
  rw [← Lines.findEnded] at headings
  rw [← headings] at several ⊢
  rw [extractReleaseNotes, read, Fallible.ok_bind]
  cases found : Lines.findEnded (isHeading U version) text.toList with
  | nil => rfl
  | cons one others =>
      cases others with
      | nil =>
          rw [found] at several
          exact absurd rfl several
      | cons two more => rfl

end Lines

/-! ### Edits of single lines -/

/-- An edit leaves what opens a section, and puts nothing that does in the place of another
line. -/
structure PlainEdit (edit : List Char → List (List Char)) : Prop where
  opening : ∀ line, isOpening line = true → edit line = [line]
  plain : ∀ line, isOpening line = false → edit line ≠ [] ∧
    ∀ new ∈ edit line, isOpening new = false

namespace PlainEdit

variable {edit : List Char → List (List Char)} {ls before body rest : List (List Char)}
  {heading line : List Char}

theorem filter_edit (h : PlainEdit edit) (ls : List (List Char)) :
    (ls.flatMap edit).filter (isHeading U version) = ls.filter (isHeading U version) := by
  induction ls with
  | nil => rfl
  | cons line rest ih =>
      rw [List.flatMap_cons, List.filter_append, ih]
      cases opens : isOpening line with
      | true => rw [h.opening line opens, ← List.filter_append, List.singleton_append]
      | false =>
          rw [filter_plain (h.plain line opens).2, List.filter_cons_of_neg
            (by rw [not_isHeading opens]; exact Bool.false_ne_true), List.nil_append]

/-- The last line makes no difference to where the headings are. -/
theorem filter_dropLast (h : PlainEdit edit) (ls : List (List Char)) :
    (ls.flatMap edit).dropLast.filter (isHeading U version) =
      ls.dropLast.filter (isHeading U version) := by
  rcases List.eq_nil_or_concat ls with rfl | ⟨init, last, rfl⟩
  · rfl
  · rw [List.concat_eq_append, List.dropLast_concat, List.flatMap_append, List.flatMap_singleton]
    cases opens : isOpening last with
    | true => rw [h.opening last opens, List.dropLast_concat, h.filter_edit]
    | false =>
        obtain ⟨some, plain⟩ := h.plain last opens
        rw [List.dropLast_append_of_ne_nil some, List.filter_append, h.filter_edit,
          filter_plain fun line member => plain line (List.mem_of_mem_dropLast member),
          List.append_nil]

theorem ne_nil (h : PlainEdit edit) (line : List Char) : edit line ≠ [] := by
  cases opens : isOpening line with
  | true => simp [h.opening line opens]
  | false => exact (h.plain line opens).1

theorem flatMap_ne_nil (h : PlainEdit edit) (some : ls ≠ []) : ls.flatMap edit ≠ [] := by
  obtain ⟨line, rest, rfl⟩ := List.exists_cons_of_ne_nil some
  rw [List.flatMap_cons]
  exact List.append_ne_nil_of_left_ne_nil (h.ne_nil line) _

/-- The section of a version stays a section, with its lines edited. -/
theorem sectionAt (h : PlainEdit edit) (here : SectionAt U version ls before heading body rest) :
    SectionAt U version (ls.flatMap edit) (before.flatMap edit) heading (body.flatMap edit)
      (rest.flatMap edit) where
  split := by
    rw [here.split, List.flatMap_append, List.flatMap_cons, List.flatMap_append,
      h.opening heading (isOpening_of_isHeading here.opens), List.singleton_append]
  opens := here.opens
  behind := by
    rw [← List.flatMap_append]
    exact h.flatMap_ne_nil here.behind
  only := by
    rw [← List.flatMap_append, List.filter_append, h.filter_edit, h.filter_dropLast,
      ← List.filter_append, here.only]
  plain := by
    intro new member
    obtain ⟨line, listed, made⟩ := List.mem_flatMap.mp member
    exact (h.plain line (here.plain line listed)).2 new made
  ends := by
    intro next first
    cases rest with
    | nil => cases first
    | cons line later =>
        have opens := here.ends line rfl
        rw [List.flatMap_cons, h.opening line opens] at first
        exact Option.some.inj first ▸ opens

/-- Notes whose lines are not edited stay. -/
theorem extract_eq (h : PlainEdit edit) (newline : U.isSpace '\n' = true)
    (stable : Stable limit version) {text edited : String}
    (lines : Lines.lines edited.toList = (Lines.lines text.toList).flatMap edit)
    (outside : ∀ before heading body rest,
      SectionAt U version (Lines.lines text.toList) before heading body rest →
        body.flatMap edit = body) :
    extractReleaseNotes U limit edited version = extractReleaseNotes U limit text version := by
  by_cases one : ((Lines.lines text.toList).dropLast.filter (isHeading U version)).length = 1
  · obtain ⟨heading, only⟩ := List.length_eq_one_iff.mp one
    obtain ⟨before, body, rest, here⟩ := exists_section only
    have there := h.sectionAt here
    rw [← lines, outside before heading body rest here] at there
    rw [here.extract_eq newline stable, there.extract_eq newline stable]
  · have same : (((Lines.lines text.toList).flatMap edit).dropLast.filter
        (isHeading U version)) = _ := h.filter_dropLast (Lines.lines text.toList)
    rw [← lines] at same
    rw [extract_eq_of_not_one stable one, extract_eq_of_not_one stable (by rwa [same]), same]

end PlainEdit

/-! ### The edit of a release -/

section Release

variable {previous next text released : String}

/-- A release puts two links in the place of the one for what is not released. -/
def releaseEdit (previous next : String) (line : List Char) : List (List Char) :=
  if line = (unreleasedLink previous).toList then
    [(unreleasedLink next).toList, (releaseLink previous next).toList]
  else [line]

/-- A line that starts with a bracket opens no section. -/
theorem not_isOpening_of_linkStart {name : String} {line : List Char}
    (start : linkStart name <+: line) : isOpening line = false := by
  obtain ⟨rest, rfl⟩ := start
  rw [linkStart_eq]
  rfl

theorem not_isOpening_unreleasedLink (version : String) :
    isOpening (unreleasedLink version).toList = false := by
  refine not_isOpening_of_linkStart (?_ : linkStart "Unreleased" <+: _)
  rw [unreleasedLink_eq]
  exact List.prefix_append _ _

theorem not_isOpening_releaseLink (previous version : String) :
    isOpening (releaseLink previous version).toList = false := by
  refine not_isOpening_of_linkStart (?_ : linkStart version <+: _)
  rw [releaseLink_eq]
  exact List.prefix_append _ _

theorem releaseEdit_plain (previous next : String) : PlainEdit (releaseEdit previous next) where
  opening := by
    intro line opens
    refine if_neg ?_
    rintro rfl
    rw [not_isOpening_unreleasedLink] at opens
    cases opens
  plain := by
    intro line plain
    rw [releaseEdit]
    split
    · refine ⟨by simp, fun new member => ?_⟩
      rcases List.mem_pair.mp member with rfl | rfl
      · exact not_isOpening_unreleasedLink next
      · exact not_isOpening_releaseLink previous next
    · exact ⟨by simp, fun new member => List.mem_singleton.mp member ▸ plain⟩

theorem flatMap_releaseEdit {ls : List (List Char)}
    (free : (unreleasedLink previous).toList ∉ ls) :
    ls.flatMap (releaseEdit previous next) = ls := by
  induction ls with
  | nil => rfl
  | cons line rest ih =>
      rw [List.mem_cons, not_or] at free
      rw [List.flatMap_cons, ih free.2, releaseEdit, if_neg (Ne.symm free.1),
        List.singleton_append]

/-- A release that goes through is this edit of the lines. -/
theorem lines_released (done : updateComparisonLinks limit text previous next = .ok released) :
    Lines.lines released.toList =
      (Lines.lines text.toList).flatMap (releaseEdit previous next) := by
  obtain ⟨precedes, -, start, stop, found, rfl⟩ := updateComparisonLinks_inv done
  obtain ⟨stable, stable'⟩ := precedes.versionText
  have defined : (Lines.find (isDefinition "Unreleased") text.toList).map Lines.Found.group = _ :=
    Lines.find_map_group
  rw [found, List.map_singleton] at defined
  dsimp only at defined
  obtain ⟨before, after, split, none, passes, none'⟩ := List.filter_eq_cons_iff.mp defined.symm
  have others : ∀ line ∈ before ++ after, isDefinition "Unreleased" line = false := by
    rw [List.filter_eq_nil_iff] at none'
    intro line member
    rcases List.mem_append.mp member with here | here
    · simpa using none line here
    · simpa using none' line here
  rw [Lines.find_of_unique split passes others, List.cons.injEq, Lines.Found.mk.injEq] at found
  obtain ⟨⟨rfl, rfl, -⟩, -⟩ := found
  have absent : (unreleasedLink previous).toList ∉ before ++ after := by
    intro member
    rw [others _ member] at passes
    cases passes
  have kept (line : List Char) (member : line ∈ before ∨ line ∈ after) : '\n' ∉ line := by
    refine @not_mem_of_mem_splitOn _ _ _ _ text.toList _ ?_
    rw [← Lines.lines, split]
    simp only [List.mem_append, List.mem_cons]
    tauto
  have replacement : (unreleasedLink next ++ "\n" ++ releaseLink previous next).toList =
      Lines.unlines [(unreleasedLink next).toList, (releaseLink previous next).toList] := by
    rw [Lines.unlines, List.intercalate_cons_cons, List.intercalate_singleton,
      String.toList_append, String.toList_append]
    rfl
  rw [String.toList_ofList, replacement, Lines.splice_line split, Lines.unlines_nested (by simp),
    split, List.flatMap_append, List.flatMap_cons,
    flatMap_releaseEdit fun here => absent (List.mem_append_left after here),
    flatMap_releaseEdit fun here => absent (List.mem_append_right before here), releaseEdit,
    if_pos rfl, List.append_assoc]
  refine Lines.lines_unlines (by simp) fun line member => ?_
  simp only [List.mem_append, List.mem_cons, List.not_mem_nil, or_false] at member
  rcases member with here | (rfl | rfl) | here
  · exact kept line (.inl here)
  · exact not_mem_unreleasedLink stable' (.inl rfl)
  · exact not_mem_releaseLink stable stable' (.inl rfl)
  · exact kept line (.inr here)

/-- How often a bracket opens in the line of a link. -/
theorem count_unreleasedLink {version : String} (h : VersionText version) :
    (unreleasedLink version).toList.count '[' = 1 := by
  have free : version.toList.count '[' = 0 := List.count_eq_zero.mpr (h.not_mem rfl (by decide))
  have start : (linkStart "Unreleased").count '[' = 1 := by decide
  have address : compareRoot.toList.count '[' = 0 := by decide
  rw [unreleasedLink_eq]
  simp only [List.count_append, free, start, address]
  rfl

theorem count_releaseLink_pos (previous version : String) :
    0 < (releaseLink previous version).toList.count '[' := by
  rw [List.count_pos_iff, releaseLink_eq, linkStart_eq]
  simp

/-- A release adds an opening bracket to a text that has the link. -/
theorem count_releaseEdit (precedes : Precedes limit previous next) (ls : List (List Char)) :
    ls.flatten.count '[' ≤ (ls.flatMap (releaseEdit previous next)).flatten.count '[' ∧
      ((unreleasedLink previous).toList ∈ ls →
        ls.flatten.count '[' < (ls.flatMap (releaseEdit previous next)).flatten.count '[') := by
  obtain ⟨stable, stable'⟩ := precedes.versionText
  have added := count_releaseLink_pos previous next
  induction ls with
  | nil => simp
  | cons line rest ih =>
      obtain ⟨weak, strict⟩ := ih
      rw [List.flatMap_cons, List.flatten_append, List.flatten_cons, List.count_append,
        List.count_append]
      by_cases link : line = (unreleasedLink previous).toList
      · have more : line.count '[' < (releaseEdit previous next line).flatten.count '[' := by
          rw [releaseEdit, if_pos link, link, List.flatten_cons, List.flatten_cons,
            List.flatten_nil, List.append_nil, List.count_append, count_unreleasedLink stable,
            count_unreleasedLink stable']
          omega
        exact ⟨by omega, fun _ => by omega⟩
      · have same : (releaseEdit previous next line).flatten.count '[' = line.count '[' := by
          rw [releaseEdit, if_neg link, List.flatten_cons, List.flatten_nil, List.append_nil]
        refine ⟨by omega, fun member => ?_⟩
        have later := strict ((List.mem_cons.mp member).resolve_left (Ne.symm link))
        omega

/-- The link of what is not released stands in the section of a version. -/
def LinkWithin (U : UnicodeData) (version text previous : String) : Prop :=
  ∃ before heading body rest,
    SectionAt U version (Lines.lines text.toList) before heading body rest ∧
      (unreleasedLink previous).toList ∈ body

/-- A release that goes through leaves the notes of a version, or the refusal of a version
without notes, as they are, exactly when the link it replaces is not in the section of that
version. -/
theorem extractReleaseNotes_released_iff (newline : U.isSpace '\n' = true)
    (bracket : U.isSpace '[' = false) (stable : Stable limit version)
    (done : updateComparisonLinks limit text previous next = .ok released) :
    extractReleaseNotes U limit released version = extractReleaseNotes U limit text version ↔
      ¬ LinkWithin U version text previous := by
  have edit := releaseEdit_plain previous next
  have lines := lines_released done
  constructor
  · rintro same ⟨before, heading, body, rest, here, member⟩
    have there := edit.sectionAt here
    rw [← lines] at there
    rw [here.extract_eq newline stable, there.extract_eq newline stable] at same
    have counts := congrArg (fun notes => (notes.getD "").toList.count '[') (deliver_inj same)
    simp only [count_notesOf bracket (by decide : '[' ≠ '\n'),
      Lines.count_unlines (by decide : '[' ≠ '\n')] at counts
    have more := (count_releaseEdit (updateComparisonLinks_inv done).1 body).2 member
    omega
  · intro outside
    refine edit.extract_eq newline stable lines fun before heading body rest here => ?_
    exact flatMap_releaseEdit fun member => outside ⟨before, heading, body, rest, here, member⟩

end Release

namespace Sample

/-- A changelog with two sections, and the link at the end of the second one. -/
def sections : String :=
  "# Changelog\n\n## [0.9.0] - 2026-07-01\n\n- Retries.\n\n## [0.8.0] - 2026-06-01\n\n" ++
    "- First release.\n\n" ++ unreleasedLink "0.9.0" ++ "\n"

theorem sections_unique : UniqueUnreleased "0.9.0"
    (["# Changelog", "", "## [0.9.0] - 2026-07-01", "", "- Retries.", "",
      "## [0.8.0] - 2026-06-01", "", "- First release.", ""].map String.toList) [[]] sections :=
  ⟨by decide +kernel, by decide +kernel⟩

end Sample

theorem extractReleaseNotes_released_iff_sample :
    extractReleaseNotes .latin1 4300 Sample.sections "0.9.0" = .ok "- Retries.\n" ∧
      ∃ released, updateComparisonLinks 4300 Sample.sections "0.9.0" "0.10.0" = .ok released ∧
        (extractReleaseNotes .latin1 4300 released "0.9.0" =
            extractReleaseNotes .latin1 4300 Sample.sections "0.9.0" ↔
          ¬ LinkWithin .latin1 "0.9.0" Sample.sections "0.9.0") := by
  obtain ⟨released, done, -⟩ := updateComparisonLinks_ok Sample.precedes_minor
    Sample.sections_unique (by decide +kernel)
  exact ⟨by decide +kernel, released, done, extractReleaseNotes_released_iff (by decide)
    (by decide) Sample.stable_first done⟩

end Asyncly.Release
