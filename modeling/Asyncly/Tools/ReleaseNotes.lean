import Asyncly.Lib.Lines
import Asyncly.Python.Text
import Asyncly.Tools.Versions

/-!
# Release notes

The notes of a release are the body of its section in the changelog. The tool finds the
heading of the section with its newline, and takes what follows up to the next heading or to
the end of the text, where the link definitions are.
-/

namespace Asyncly.Release

/-- `\d{4}-\d{2}-\d{2}` -/
def isDate (U : UnicodeData) (chars : List Char) : Bool :=
  (chars.splitOn '-').map List.length = [4, 2, 2] &&
    (chars.splitOn '-').all fun digits => digits.all fun c => (U.decimal c).isSome

/-- How the heading of a release starts. -/
def headingStart (version : String) : List Char := ("## [" ++ version ++ "] - ").toList

/-- A line is the heading of a release. -/
def isHeading (U : UnicodeData) (version : String) (line : List Char) : Bool :=
  (headingStart version).isPrefixOf line &&
    isDate U (line.drop (headingStart version).length)

/-- A line opens a section. -/
def isOpening (line : List Char) : Bool := "## [".toList.isPrefixOf line

/-- The text from a place on, up to the next heading. -/
def sectionText (text : List Char) (start : Nat) : List Char :=
  let rest := text.drop start
  match Lines.find isOpening rest with
  | [] => rest
  | next :: _ => rest.take next.start

/-- `extract_release_notes` -/
def extractReleaseNotes (U : UnicodeData) (limit : Nat) (text version : String) :
    Except Exn String := do
  let _ ← stableVersion limit version
  match Lines.findEnded (isHeading U version) text.toList with
  | [] => throw (.releaseError s!"missing changelog section for {version}")
  | [heading] =>
      let notes := U.strip (String.ofList (sectionText text.toList (heading.stop + 1)))
      if notes = "" then throw (.releaseError s!"empty changelog section for {version}")
      else pure (notes ++ "\n")
  | _ => throw (.releaseError s!"expected exactly one changelog section for {version}")

/-! ### Changelogs -/

/-- A section: a line that opens it, and the lines up to the next such line. -/
structure ReleaseSection where
  heading : List Char
  body : List (List Char)
  opens : isOpening heading = true
  plain : ∀ line ∈ body, isOpening line = false

namespace ReleaseSection

def lines (s : ReleaseSection) : List (List Char) := s.heading :: s.body

/-- A section with more lines at its end. -/
def extend (s : ReleaseSection) (more : List (List Char))
    (plain : ∀ line ∈ more, isOpening line = false) : ReleaseSection where
  heading := s.heading
  body := s.body ++ more
  opens := s.opens
  plain := fun line member => (List.mem_append.mp member).elim (s.plain line) (plain line)

end ReleaseSection

/-- A line of the block of link definitions. -/
def IsLinkLine (line : List Char) : Prop :=
  line = [] ∨ ∃ name url : String, line = ("[" ++ name ++ "]: " ++ url).toList

/-- A changelog: what comes before the sections, the sections, and link definitions. -/
structure Changelog where
  preamble : List (List Char)
  sections : List ReleaseSection
  links : List (List Char)
  plain : ∀ line ∈ preamble, isOpening line = false
  linkLines : ∀ line ∈ links, IsLinkLine line
  oneLine : ∀ line ∈ preamble ++ sections.flatMap ReleaseSection.lines ++ links, '\n' ∉ line

variable (U : UnicodeData) (version : String)

/-- The notes a text makes, unless it is blank. -/
def notesOf (text : List Char) : Option String :=
  let notes := U.strip (String.ofList text)
  if notes = "" then none else some (notes ++ "\n")

/-- The sections of a release. -/
def sectionsOf (sections : List ReleaseSection) : List ReleaseSection :=
  sections.filter fun s => isHeading U version s.heading

/-- The notes of the one section of a release. -/
def notesIn (sections : List ReleaseSection) : Option String :=
  match sectionsOf U version sections with
  | [s] => notesOf U (Lines.unlines s.body)
  | _ => none

/-- A call returns the notes, or raises a `ReleaseError` where there are none. -/
inductive Delivers : Except Exn String → Option String → Prop
  | returned (notes : String) : Delivers (.ok notes) (some notes)
  | refused {exc : Exn} : Reported exc → Delivers (.error exc) none

namespace Changelog

def lines (doc : Changelog) : List (List Char) :=
  doc.preamble ++ doc.sections.flatMap ReleaseSection.lines ++ doc.links

def text (doc : Changelog) : String := String.ofList (Lines.unlines doc.lines)

end Changelog

/-! ### Stripping -/

variable {U version}

theorem strip_append_space {text : List Char} {c : Char} (space : U.isSpace c = true) :
    U.strip (String.ofList (text ++ [c])) = U.strip (String.ofList text) := by
  rw [UnicodeData.strip, UnicodeData.strip, String.toList_ofList, String.toList_ofList,
    List.dropWhile_append]
  split
  · rename_i empty
    rw [List.isEmpty_iff.mp empty, List.dropWhile_cons_of_pos space]
    rfl
  · rw [List.reverse_append, List.reverse_singleton, List.singleton_append,
      List.dropWhile_cons_of_pos space]

theorem count_dropWhile {c : Char} (visible : U.isSpace c = false) (text : List Char) :
    (text.dropWhile U.isSpace).count c = text.count c := by
  induction text with
  | nil => rfl
  | cons d rest ih =>
      by_cases space : U.isSpace d = true
      · have other : d ≠ c := by
          rintro rfl
          rw [visible] at space
          cases space
        rw [List.dropWhile_cons_of_pos space, ih, List.count_cons_of_ne other]
      · rw [List.dropWhile_cons_of_neg space]

/-- Stripping loses no character that can be seen. -/
theorem count_strip {c : Char} (visible : U.isSpace c = false) (text : List Char) :
    (U.strip (String.ofList text)).toList.count c = text.count c := by
  rw [UnicodeData.strip, String.toList_ofList, String.toList_ofList, List.count_reverse,
    count_dropWhile visible, List.count_reverse, count_dropWhile visible]

theorem isOpening_of_isHeading {line : List Char} (heading : isHeading U version line = true) :
    isOpening line = true := by
  rw [isHeading, Bool.and_eq_true] at heading
  refine List.isPrefixOf_iff_prefix.mpr ?_
  refine List.IsPrefix.trans ?_ (List.isPrefixOf_iff_prefix.mp heading.1)
  rw [headingStart, String.toList_append, String.toList_append, List.append_assoc]
  exact List.prefix_append _ _

theorem not_isHeading {line : List Char} (plain : isOpening line = false) :
    isHeading U version line = false := by
  by_contra heading
  rw [isOpening_of_isHeading ((Bool.not_eq_false _).mp heading)] at plain
  cases plain

theorem IsLinkLine.plain {line : List Char} (link : IsLinkLine line) : isOpening line = false := by
  rcases link with rfl | ⟨name, url, rfl⟩
  · rfl
  · have start : ("[" ++ name ++ "]: " ++ url).toList =
        '[' :: (name.toList ++ "]: ".toList ++ url.toList) := by
      simp [String.toList_append]
    rw [start]
    rfl

/-! ### Texts that end with a line of a section or with a heading -/

section Read

variable {preamble tail : List (List Char)} {sections : List ReleaseSection}

/-- The lines of a text whose last line is the heading `tail`, or in the body of a section when
there is one. -/
structure Ending (preamble : List (List Char)) (sections : List ReleaseSection)
    (tail : List (List Char)) : Prop where
  plain : ∀ line ∈ preamble, isOpening line = false
  oneLine : ∀ line ∈ preamble ++ sections.flatMap ReleaseSection.lines ++ tail, '\n' ∉ line
  ends : (tail = [] ∧ ∀ s, sections.getLast? = some s → s.body ≠ []) ∨
    ∃ heading, tail = [heading] ∧ isOpening heading = true

theorem filter_plain {ls : List (List Char)} (plain : ∀ line ∈ ls, isOpening line = false) :
    ls.filter (isHeading U version) = [] := by
  rw [List.filter_eq_nil_iff]
  intro line member
  rw [not_isHeading (plain line member)]
  exact Bool.false_ne_true

theorem filter_lines (sections : List ReleaseSection) :
    (sections.flatMap ReleaseSection.lines).filter (isHeading U version) =
      (sectionsOf U version sections).map ReleaseSection.heading := by
  have body (s : ReleaseSection) : s.body.filter (isHeading U version) = [] :=
    filter_plain s.plain
  induction sections with
  | nil => rfl
  | cons s rest ih =>
      rw [List.flatMap_cons, List.filter_append, ih, ReleaseSection.lines, sectionsOf, sectionsOf]
      by_cases heading : isHeading U version s.heading = true
      · rw [List.filter_cons_of_pos heading, List.filter_cons_of_pos (by exact heading), body,
          List.map_cons, List.singleton_append]
      · rw [List.filter_cons_of_neg heading, List.filter_cons_of_neg (by exact heading), body,
          List.nil_append]

namespace Ending

theorem last_plain (h : Ending preamble sections tail)
    (bodied : ∀ s, sections.getLast? = some s → s.body ≠ []) {others : List (List Char)}
    {last : List Char}
    (split : preamble ++ sections.flatMap ReleaseSection.lines = others ++ [last]) :
    isOpening last = false := by
  rcases List.eq_nil_or_concat sections with rfl | ⟨init, s, rfl⟩
  · rw [List.flatMap_nil, List.append_nil] at split
    exact h.plain last (by simp [split])
  · rw [List.concat_eq_append] at bodied split
    rcases List.eq_nil_or_concat s.body with empty | ⟨body, x, written⟩
    · exact absurd empty (bodied s List.getLast?_concat)
    · rw [List.concat_eq_append] at written
      have ends : preamble ++ (init ++ [s]).flatMap ReleaseSection.lines =
          (preamble ++ init.flatMap ReleaseSection.lines ++ s.heading :: body) ++ [x] := by
        simp [ReleaseSection.lines, written]
      have same := congrArg List.getLast? (ends.symm.trans split)
      rw [List.getLast?_concat, List.getLast?_concat] at same
      exact s.plain last (by simp [written, Option.some.inj same])

/-- The headings that are ended by a newline are those of the sections. -/
theorem filter_ended (h : Ending preamble sections tail) (U : UnicodeData) (version : String) :
    (Lines.lines (Lines.unlines
        (preamble ++ sections.flatMap ReleaseSection.lines ++ tail))).dropLast.filter
          (isHeading U version) =
      (sectionsOf U version sections).map ReleaseSection.heading := by
  have all : (preamble ++ sections.flatMap ReleaseSection.lines).filter (isHeading U version) =
      (sectionsOf U version sections).map ReleaseSection.heading := by
    rw [List.filter_append, filter_plain h.plain, List.nil_append, filter_lines]
  rcases h.ends with ⟨rfl, bodied⟩ | ⟨heading, rfl, -⟩
  · have oneLine := h.oneLine
    rw [List.append_nil] at oneLine ⊢
    -- the last line is no heading, so that it makes no difference
    rcases List.eq_nil_or_concat (preamble ++ sections.flatMap ReleaseSection.lines) with
      empty | ⟨others, last, split⟩
    · rw [empty] at all ⊢
      exact all
    · rw [List.concat_eq_append] at split
      rw [Lines.lines_unlines (by simp [split]) oneLine, split, List.dropLast_concat]
      rw [split, List.filter_append] at all
      have plain : ∀ line ∈ [last], isOpening line = false := by
        simpa using h.last_plain bodied split
      rwa [filter_plain plain, List.append_nil] at all
  · rw [Lines.lines_unlines (by simp) h.oneLine, List.dropLast_concat, all]

end Ending

/-- A last empty line is stripped. -/
theorem notesOf_concat_nil (newline : U.isSpace '\n' = true) (body : List (List Char)) :
    notesOf U (Lines.unlines (body ++ [[]])) = notesOf U (Lines.unlines body) := by
  by_cases empty : body = []
  · rw [empty]
    rfl
  · rw [notesOf, notesOf, Lines.unlines_concat_nil empty, strip_append_space newline]

/-- The notes that are found behind a heading are those of the lines up to the next one. -/
theorem notesOf_sectionText (newline : U.isSpace '\n' = true) {before body after : List (List Char)}
    {line : List Char} (nonempty : body ++ after ≠ [])
    (oneLine : ∀ line ∈ body ++ after, '\n' ∉ line)
    (plain : ∀ line ∈ body, isOpening line = false)
    (ends : ∀ next ∈ after.head?, isOpening next = true) :
    notesOf U (sectionText (Lines.unlines (before ++ line :: (body ++ after)))
        ((Lines.above before).length + line.length + 1)) = notesOf U (Lines.unlines body) := by
  rw [sectionText, Lines.drop_line nonempty]
  cases after with
  | nil =>
      rw [List.append_nil] at nonempty oneLine ⊢
      have none : Lines.find isOpening (Lines.unlines body) = [] := by
        rw [Lines.find_eq_nil_iff, Lines.lines_unlines nonempty oneLine]
        exact plain
      simp only [none]
  | cons next after =>
      have first := @Lines.findFrom_first isOpening next body after 0 (ends next rfl) plain
      rw [← Lines.lines_unlines nonempty oneLine, ← Lines.find] at first
      simp only [first, Nat.zero_add, Lines.take_line]
      rw [Lines.above_eq, notesOf_concat_nil newline]

/-- What is done with the notes of the one match. -/
theorem delivers_notesOf (text : List Char) (empty : String) :
    Delivers (let notes := U.strip (String.ofList text)
      if notes = "" then throw (.releaseError empty) else pure (notes ++ "\n"))
      (notesOf U text) := by
  rw [notesOf]
  dsimp only
  split
  · exact .refused rfl
  · exact .returned _

/-- What comes behind the body of a section is nothing, or opens with a heading. -/
theorem Ending.head_opens (h : Ending preamble sections tail) (rest : List ReleaseSection) :
    ∀ next ∈ (rest.flatMap ReleaseSection.lines ++ tail).head?, isOpening next = true := by
  cases rest with
  | nil =>
      rcases h.ends with ⟨rfl, -⟩ | ⟨heading, rfl, opens⟩
      · simp
      · simpa using opens
  | cons s rest => simpa [ReleaseSection.lines] using s.opens

theorem isHeading_of_mem {s : ReleaseSection}
    (member : s ∈ sectionsOf U version sections) :
    isHeading U version s.heading = true :=
  (List.mem_filter.mp member).2

/-- Where the one section of a release stands, and what comes behind its heading. -/
theorem Ending.split (h : Ending preamble sections tail) {s : ReleaseSection}
    (one : sectionsOf U version sections = [s]) :
    ∃ (before : List (List Char)) (after : List ReleaseSection),
      preamble ++ sections.flatMap ReleaseSection.lines ++ tail =
        before ++ s.heading :: (s.body ++ (after.flatMap ReleaseSection.lines ++ tail)) ∧
      s.body ++ (after.flatMap ReleaseSection.lines ++ tail) ≠ [] := by
  rw [sectionsOf, List.filter_eq_cons_iff] at one
  obtain ⟨before, after, rfl, -, -, -⟩ := one
  refine ⟨preamble ++ before.flatMap ReleaseSection.lines, after, ?_, ?_⟩
  · simp [ReleaseSection.lines]
  · intro empty
    rw [List.append_eq_nil_iff, List.append_eq_nil_iff] at empty
    obtain ⟨bodyless, last, noTail⟩ := empty
    rcases h.ends with ⟨-, bodied⟩ | ⟨heading, ends, -⟩
    · cases after with
      | nil => exact bodied s List.getLast?_concat bodyless
      | cons t rest => cases last
    · rw [noTail] at ends
      cases ends

/-- The heading of the one section of a release is the one match. -/
theorem Ending.findEnded_eq (h : Ending preamble sections tail) {s : ReleaseSection}
    (one : sectionsOf U version sections = [s]) {before after : List (List Char)}
    (split : preamble ++ sections.flatMap ReleaseSection.lines ++ tail =
      before ++ s.heading :: after) (nonempty : after ≠ []) :
    Lines.findEnded (isHeading U version) (Lines.unlines (before ++ s.heading :: after)) =
      [⟨(Lines.above before).length, (Lines.above before).length + s.heading.length,
        s.heading⟩] := by
  have heading : isHeading U version s.heading = true :=
    isHeading_of_mem (one ▸ List.mem_singleton_self s)
  have oneLine := h.oneLine
  have ended := h.filter_ended U version
  rw [split] at oneLine ended
  rw [Lines.lines_unlines (by simp) oneLine, List.dropLast_append_of_ne_nil (by simp),
    List.dropLast_cons_of_ne_nil nonempty, one, List.map_singleton, List.filter_append,
    List.filter_cons_of_pos heading] at ended
  obtain ⟨none, none'⟩ : before.filter (isHeading U version) = [] ∧
      after.dropLast.filter (isHeading U version) = [] := by
    have length := congrArg List.length ended
    rw [List.length_append, List.length_cons, List.length_singleton] at length
    rw [← List.length_eq_zero_iff, ← List.length_eq_zero_iff]
    omega
  rw [Lines.findEnded, Lines.lines_unlines (by simp) oneLine,
    List.dropLast_append_of_ne_nil (by simp), List.dropLast_cons_of_ne_nil nonempty,
    Lines.findFrom_of_unique 0 heading, Nat.zero_add]
  intro other member
  rw [List.filter_eq_nil_iff] at none none'
  rcases List.mem_append.mp member with earlier | later
  · simpa using none other earlier
  · simpa using none' other later

/-- The call delivers the notes of the one section of the release in such a text. -/
theorem Ending.delivers (h : Ending preamble sections tail) (newline : U.isSpace '\n' = true)
    {limit : Nat} (stable : Stable limit version) :
    Delivers (extractReleaseNotes U limit (String.ofList (Lines.unlines
        (preamble ++ sections.flatMap ReleaseSection.lines ++ tail))) version)
      (notesIn U version sections) := by
  obtain ⟨numbers, read⟩ := stableVersion_ok_iff.mpr stable
  have headings := h.filter_ended U version
  rw [← Lines.findFrom_map_group 0, ← Lines.findEnded] at headings
  rw [extractReleaseNotes, read, Fallible.ok_bind, String.toList_ofList]
  cases found : sectionsOf U version sections with
  | nil =>
      rw [found, List.map_nil, List.map_eq_nil_iff] at headings
      rw [headings, notesIn, found]
      exact .refused rfl
  | cons s others =>
      cases others with
      | nil =>
          obtain ⟨before, after, split, nonempty⟩ := h.split found
          have oneLine := h.oneLine
          rw [split] at oneLine ⊢
          have behind : ∀ line ∈ s.body ++ (after.flatMap ReleaseSection.lines ++ tail),
              '\n' ∉ line :=
            fun line member =>
              oneLine line (List.mem_append_right before (List.mem_cons_of_mem s.heading member))
          rw [h.findEnded_eq found split nonempty, notesIn, found]
          dsimp only
          rw [← notesOf_sectionText newline nonempty behind s.plain (h.head_opens after)]
          exact delivers_notesOf _ _
      | cons t more =>
          rw [found, List.map_cons, List.map_cons] at headings
          obtain ⟨one, rest, several, -, later⟩ := List.map_eq_cons_iff.mp headings
          obtain ⟨two, rest', more, -, -⟩ := List.map_eq_cons_iff.mp later
          rw [several, more, notesIn, found]
          exact .refused rfl

end Read

/-! ### Whole changelogs -/

/-- The notes of a text have all it has that can be seen. -/
theorem count_notesOf {c : Char} (visible : U.isSpace c = false) (other : c ≠ '\n')
    (text : List Char) : ((notesOf U text).getD "").toList.count c = text.count c := by
  rw [notesOf, ← count_strip visible text]
  split
  · rename_i empty
    rw [empty]
    rfl
  · rw [Option.getD_some, String.toList_append, List.count_append]
    have newline : "\n".toList.count c = 0 := by
      rw [List.count_eq_zero]
      simpa using other
    rw [newline, Nat.add_zero]

/-- Link lines behind a body make no difference to its notes just when they are empty. -/
theorem notesOf_links_iff (newline : U.isSpace '\n' = true) (bracket : U.isSpace '[' = false)
    {body links : List (List Char)} (linkLines : ∀ line ∈ links, IsLinkLine line) :
    notesOf U (Lines.unlines (body ++ links)) = notesOf U (Lines.unlines body) ↔
      ∀ line ∈ links, line = [] := by
  constructor
  · intro same line member
    have counts := congrArg (fun notes => (notes.getD "").toList.count '[') same
    simp only [count_notesOf bracket (by decide : '[' ≠ '\n'),
      Lines.count_unlines (by decide : '[' ≠ '\n'), List.flatten_append, List.count_append]
      at counts
    have none : links.flatten.count '[' = 0 := by omega
    have here : '[' ∉ line := fun bracket =>
      List.count_eq_zero.mp none (List.mem_flatten_of_mem member bracket)
    rcases linkLines line member with empty | ⟨name, url, rfl⟩
    · exact empty
    · simp [String.toList_append] at here
  · intro empty
    induction links using List.reverseRecOn with
    | nil => rw [List.append_nil]
    | append_singleton links line ih =>
        rw [List.forall_mem_append, List.forall_mem_singleton] at linkLines empty
        rw [empty.2, ← List.append_assoc, notesOf_concat_nil newline, ih linkLines.1 empty.1]

namespace Changelog

variable (doc : Changelog)

theorem plain_links : ∀ line ∈ doc.links, isOpening line = false :=
  fun line member => (doc.linkLines line member).plain

/-- The sections as they are read: the link definitions belong to the last one, unless it has
no line behind its heading, which is not read then. -/
def sectionsRead : List ReleaseSection :=
  match doc.sections.getLast? with
  | none => []
  | some last =>
      if last.body ++ doc.links = [] then doc.sections.dropLast
      else doc.sections.dropLast ++ [last.extend doc.links doc.plain_links]

/-- The call delivers the notes in the sections that are read. -/
theorem delivers_sectionsRead (newline : U.isSpace '\n' = true) {limit : Nat}
    (stable : Stable limit version) :
    Delivers (extractReleaseNotes U limit doc.text version)
      (notesIn U version doc.sectionsRead) := by
  have oneLine := doc.oneLine
  rcases List.eq_nil_or_concat doc.sections with empty | ⟨init, last, split⟩
  · rw [text, lines, sectionsRead]
    rw [empty, List.flatMap_nil, List.append_nil] at oneLine ⊢
    have ending : Ending (doc.preamble ++ doc.links) [] [] := by
      refine ⟨?_, by simpa using oneLine, .inl ⟨rfl, by simp⟩⟩
      rw [List.forall_mem_append]
      exact ⟨doc.plain, doc.plain_links⟩
    simpa using ending.delivers newline stable
  · rw [List.concat_eq_append] at split
    rw [text, lines, sectionsRead]
    rw [split] at oneLine ⊢
    rw [List.getLast?_concat, List.dropLast_concat]
    dsimp only
    split
    · rename_i cut
      obtain ⟨body, links⟩ := List.append_eq_nil_iff.mp cut
      have same : doc.preamble ++ (init ++ [last]).flatMap ReleaseSection.lines ++ doc.links =
          doc.preamble ++ init.flatMap ReleaseSection.lines ++ [last.heading] := by
        simp [ReleaseSection.lines, body, links]
      rw [same] at oneLine ⊢
      exact Ending.delivers ⟨doc.plain, oneLine, .inr ⟨_, rfl, last.opens⟩⟩ newline stable
    · rename_i some
      have same : doc.preamble ++ (init ++ [last]).flatMap ReleaseSection.lines ++ doc.links =
          doc.preamble ++ (init ++ [last.extend doc.links doc.plain_links]).flatMap
            ReleaseSection.lines ++ [] := by
        simp [ReleaseSection.lines, ReleaseSection.extend]
      rw [same] at oneLine ⊢
      refine Ending.delivers ⟨doc.plain, oneLine, .inl ⟨rfl, fun s ends => ?_⟩⟩ newline stable
      rw [List.getLast?_concat, Option.some.injEq] at ends
      rw [← ends]
      exact some

variable (U version)

/-- The section of the release is the last one, and link definitions come behind it. -/
def Overruns : Prop :=
  ∃ s, sectionsOf U version doc.sections = [s] ∧ doc.sections.getLast? = some s ∧
    ∃ line ∈ doc.links, line ≠ []

/-- Of two sections of the release, the last one is a heading that ends the text, and the other
is not blank. -/
def Overlooks : Prop :=
  ∃ s t, sectionsOf U version doc.sections = [s, t] ∧ doc.sections.getLast? = some t ∧
    t.body = [] ∧ doc.links = [] ∧ notesOf U (Lines.unlines s.body) ≠ none

end Changelog

variable {sections : List ReleaseSection} {s : ReleaseSection}

theorem notesIn_of_one (one : sectionsOf U version sections = [s]) :
    notesIn U version sections = notesOf U (Lines.unlines s.body) := by
  rw [notesIn, one]

theorem notesIn_of_not_one (several : (sectionsOf U version sections).length ≠ 1) :
    notesIn U version sections = none := by
  rw [notesIn]
  split
  · rename_i one
    rw [one] at several
    exact absurd rfl several
  · rfl

theorem sectionsOf_concat_pos (init : List ReleaseSection)
    (heading : isHeading U version s.heading = true) :
    sectionsOf U version (init ++ [s]) = sectionsOf U version init ++ [s] := by
  rw [sectionsOf, List.filter_append, List.filter_singleton, heading]
  rfl

theorem sectionsOf_concat_neg (init : List ReleaseSection)
    (other : ¬ isHeading U version s.heading = true) :
    sectionsOf U version (init ++ [s]) = sectionsOf U version init := by
  rw [sectionsOf, List.filter_append, List.filter_singleton, Bool.eq_false_iff.mpr other]
  exact List.append_nil _

/-- Without an earlier section of the release, its notes are those of the last one. -/
theorem notesIn_concat_of_first {init : List ReleaseSection}
    (heading : isHeading U version s.heading = true) (first : sectionsOf U version init = []) :
    notesIn U version (init ++ [s]) = notesOf U (Lines.unlines s.body) := by
  refine notesIn_of_one ?_
  rw [sectionsOf_concat_pos init heading, first, List.nil_append]

/-- With an earlier section of the release, the last one makes it have no notes. -/
theorem notesIn_concat_of_earlier {init : List ReleaseSection}
    (heading : isHeading U version s.heading = true)
    (earlier : sectionsOf U version init ≠ []) : notesIn U version (init ++ [s]) = none := by
  refine notesIn_of_not_one ?_
  have some := List.length_pos_of_ne_nil earlier
  rw [sectionsOf_concat_pos init heading, List.length_append, List.length_singleton]
  omega

theorem notesOf_nil : notesOf U (Lines.unlines []) = none := rfl

namespace Changelog

variable {doc : Changelog} {init : List ReleaseSection} {last : ReleaseSection}

/-- Where the last section is not one of the release, nothing is lost. -/
theorem notesIn_of_other (split : doc.sections = init ++ [last])
    (other : ¬ isHeading U version last.heading = true) :
    notesIn U version doc.sectionsRead = notesIn U version doc.sections ∧
      ¬ doc.Overruns U version ∧ ¬ doc.Overlooks U version := by
  refine ⟨?_, ?_, ?_⟩
  · have same : sectionsOf U version doc.sectionsRead = sectionsOf U version doc.sections := by
      rw [sectionsRead, split, List.getLast?_concat, List.dropLast_concat,
        sectionsOf_concat_neg init other]
      dsimp only
      split
      · rfl
      · exact sectionsOf_concat_neg init (by exact other)
    rw [notesIn, notesIn, same]
  · rintro ⟨s, one, ends, -⟩
    rw [split, List.getLast?_concat, Option.some.injEq] at ends
    exact other (ends ▸ isHeading_of_mem (one ▸ List.mem_singleton_self s))
  · rintro ⟨s, t, two, ends, -⟩
    rw [split, List.getLast?_concat, Option.some.injEq] at ends
    exact other (ends ▸ isHeading_of_mem (two ▸ List.mem_cons_of_mem s (List.mem_singleton_self t)))

section LastOfRelease

variable (split : doc.sections = init ++ [last])
  (heading : isHeading U version last.heading = true)

include split heading

theorem overruns_iff : doc.Overruns U version ↔
    sectionsOf U version init = [] ∧ ∃ line ∈ doc.links, line ≠ [] := by
  rw [Overruns, split, sectionsOf_concat_pos init heading, List.getLast?_concat]
  constructor
  · rintro ⟨s, one, -, links⟩
    have ends : sectionsOf U version init ++ [last] = [] ++ [s] := one
    exact ⟨List.append_inj_left' ends rfl, links⟩
  · rintro ⟨first, links⟩
    exact ⟨last, by rw [first, List.nil_append], rfl, links⟩

theorem overlooks_iff : doc.Overlooks U version ↔
    ∃ s, sectionsOf U version init = [s] ∧ last.body = [] ∧ doc.links = [] ∧
      notesOf U (Lines.unlines s.body) ≠ none := by
  rw [Overlooks, split, sectionsOf_concat_pos init heading, List.getLast?_concat]
  constructor
  · rintro ⟨s, t, two, same, body, links, some⟩
    obtain rfl := Option.some.inj same
    have ends : sectionsOf U version init ++ [last] = [s] ++ [last] := two
    exact ⟨s, List.append_inj_left' ends rfl, body, links, some⟩
  · rintro ⟨s, earlier, body, links, some⟩
    exact ⟨s, last, by rw [earlier, List.singleton_append], rfl, body, links, some⟩

/-- Where the last section is one of the release and has no line, it is not read. -/
theorem notesIn_of_cut (body : last.body = []) (links : doc.links = []) :
    notesIn U version doc.sectionsRead = notesIn U version doc.sections ↔
      ¬ doc.Overruns U version ∧ ¬ doc.Overlooks U version := by
  have read : doc.sectionsRead = init := by
    rw [sectionsRead, split, List.getLast?_concat, List.dropLast_concat]
    exact if_pos (by rw [body, links, List.append_nil])
  have within : ¬ doc.Overruns U version := by
    rw [overruns_iff split heading]
    rintro ⟨-, line, member, -⟩
    rw [links] at member
    cases member
  rw [read, overlooks_iff split heading, split]
  cases earlier : sectionsOf U version init with
  | nil =>
      rw [notesIn_concat_of_first heading earlier, body, notesOf_nil,
        notesIn_of_not_one (by simp [earlier])]
      refine iff_of_true rfl ⟨within, ?_⟩
      rintro ⟨s, one, -⟩
      cases one
  | cons s rest =>
      rw [notesIn_concat_of_earlier heading (by simp [earlier])]
      cases rest with
      | nil =>
          rw [notesIn_of_one earlier]
          constructor
          · intro blank
            refine ⟨within, ?_⟩
            rintro ⟨s', one, -, -, some⟩
            rw [← (List.cons.inj one).1] at some
            exact some blank
          · rintro ⟨-, sees⟩
            by_contra some
            exact sees ⟨s, rfl, body, links, some⟩
      | cons t rest =>
          refine iff_of_true (notesIn_of_not_one (by simp [earlier])) ⟨within, ?_⟩
          rintro ⟨s', one, -⟩
          cases one

/-- Where the last section is one of the release and has lines, the links are among them. -/
theorem notesIn_of_some (newline : U.isSpace '\n' = true) (bracket : U.isSpace '[' = false)
    (some : last.body ++ doc.links ≠ []) :
    notesIn U version doc.sectionsRead = notesIn U version doc.sections ↔
      ¬ doc.Overruns U version ∧ ¬ doc.Overlooks U version := by
  have read : doc.sectionsRead = init ++ [last.extend doc.links doc.plain_links] := by
    rw [sectionsRead, split, List.getLast?_concat, List.dropLast_concat]
    exact if_neg some
  have headingRead :
      isHeading U version (last.extend doc.links doc.plain_links).heading = true := heading
  have sees : ¬ doc.Overlooks U version := by
    rw [overlooks_iff split heading]
    rintro ⟨-, -, body, links, -⟩
    exact some (by rw [body, links, List.append_nil])
  rw [read, overruns_iff split heading, split]
  by_cases first : sectionsOf U version init = []
  · rw [notesIn_concat_of_first heading first, notesIn_concat_of_first headingRead first]
    refine (notesOf_links_iff newline bracket doc.linkLines).trans ?_
    constructor
    · intro empty
      refine ⟨?_, sees⟩
      rintro ⟨-, line, member, nonempty⟩
      exact nonempty (empty line member)
    · rintro ⟨within, -⟩ line member
      by_contra nonempty
      exact within ⟨first, line, member, nonempty⟩
  · rw [notesIn_concat_of_earlier heading first, notesIn_concat_of_earlier headingRead first]
    exact iff_of_true rfl ⟨fun overruns => first overruns.1, sees⟩

end LastOfRelease

/-- What is read of a changelog has the notes that are in it unless they overrun the section or
a section is overlooked. -/
theorem notesIn_sectionsRead_iff (newline : U.isSpace '\n' = true)
    (bracket : U.isSpace '[' = false) :
    notesIn U version doc.sectionsRead = notesIn U version doc.sections ↔
      ¬ doc.Overruns U version ∧ ¬ doc.Overlooks U version := by
  rcases List.eq_nil_or_concat doc.sections with empty | ⟨init, last, split⟩
  · refine iff_of_true ?_ ⟨?_, ?_⟩
    · rw [sectionsRead, empty]
      rfl
    · rintro ⟨s, -, ends, -⟩
      rw [empty] at ends
      cases ends
    · rintro ⟨s, t, -, ends, -⟩
      rw [empty] at ends
      cases ends
  · rw [List.concat_eq_append] at split
    by_cases heading : isHeading U version last.heading = true
    · by_cases cut : last.body ++ doc.links = []
      · obtain ⟨body, links⟩ := List.append_eq_nil_iff.mp cut
        exact notesIn_of_cut split heading body links
      · exact notesIn_of_some split heading newline bracket cut
    · obtain ⟨same, fine⟩ := notesIn_of_other split heading
      exact iff_of_true same fine

end Changelog

/-- An outcome delivers one thing. -/
theorem Delivers.iff_eq {outcome : Except Exn String} {notes notes' : Option String}
    (h : Delivers outcome notes) : Delivers outcome notes' ↔ notes = notes' := by
  constructor
  · intro h'
    cases h with
    | returned => cases h'; rfl
    | refused => cases h'; rfl
  · rintro rfl
    exact h

theorem Delivers.eq_ok {outcome : Except Exn String} {notes : String}
    (h : Delivers outcome (some notes)) : outcome = .ok notes := by
  cases h
  rfl

/-- The notes of the one section of a release are delivered, and a `ReleaseError` is raised
where there are none, exactly when the section is not followed by link definitions and no
second one is a heading at the very end. -/
theorem extractReleaseNotes_delivers_iff (newline : U.isSpace '\n' = true)
    (bracket : U.isSpace '[' = false) {limit : Nat} (stable : Stable limit version)
    (doc : Changelog) :
    Delivers (extractReleaseNotes U limit doc.text version) (notesIn U version doc.sections) ↔
      ¬ doc.Overruns U version ∧ ¬ doc.Overlooks U version :=
  (doc.delivers_sectionsRead newline stable).iff_eq.trans
    (Changelog.notesIn_sectionsRead_iff newline bracket)

namespace Sample

def budgets : ReleaseSection :=
  ⟨"## [0.10.0] - 2026-07-30".toList, [[], "- Budgets.".toList, []], by decide, by decide⟩

def first : ReleaseSection :=
  ⟨"## [0.9.0] - 2026-07-22".toList, [[], "- First.".toList, []], by decide, by decide⟩

/-- A changelog with two sections and a link. -/
def releases : Changelog where
  preamble := ["# Changelog".toList, []]
  sections := [budgets, first]
  links := ["[0.9.0]: url".toList, []]
  plain := by decide
  linkLines := by
    intro line member
    rcases List.mem_pair.mp member with rfl | rfl
    · exact .inr ⟨"0.9.0", "url", by decide⟩
    · exact .inl rfl
  oneLine := by decide

theorem sectionsOf_budgets : sectionsOf .latin1 "0.10.0" releases.sections = [budgets] := by
  rfl

theorem stable_budgets : Stable 4300 "0.10.0" := stableVersion_ok_iff.mp ⟨(0, 10, 0), rfl⟩

theorem stable_first : Stable 4300 "0.9.0" := stableVersion_ok_iff.mp ⟨(0, 9, 0), rfl⟩

end Sample

theorem extractReleaseNotes_delivers_iff_sample :
    Delivers (extractReleaseNotes .latin1 4300 Sample.releases.text "0.10.0")
      (some "- Budgets.\n") := by
  have written : notesIn .latin1 "0.10.0" Sample.releases.sections = some "- Budgets.\n" := by
    decide
  have delivered := (extractReleaseNotes_delivers_iff (U := .latin1) (by decide) (by decide)
    Sample.stable_budgets Sample.releases).mpr ⟨?_, ?_⟩
  · rwa [written] at delivered
  · rintro ⟨s, one, ends, -⟩
    rw [Sample.sectionsOf_budgets] at one
    have last : Sample.first = s := Option.some.inj ends
    rw [← last] at one
    have same : Sample.budgets.heading = Sample.first.heading :=
      congrArg ReleaseSection.heading (List.cons.inj one).1
    exact absurd same (by decide)
  · rintro ⟨s, t, two, -⟩
    rw [Sample.sectionsOf_budgets] at two
    cases two

/-- The notes of the last section contain the link definitions. -/
theorem extractReleaseNotes_delivers_fails :
    extractReleaseNotes .latin1 4300 Sample.releases.text "0.9.0" =
      .ok "- First.\n\n[0.9.0]: url\n" ∧
    ¬ Delivers (extractReleaseNotes .latin1 4300 Sample.releases.text "0.9.0")
      (notesIn .latin1 "0.9.0" Sample.releases.sections) := by
  have delivered : Delivers (extractReleaseNotes .latin1 4300 Sample.releases.text "0.9.0")
      (notesIn .latin1 "0.9.0" Sample.releases.sectionsRead) :=
    Sample.releases.delivers_sectionsRead (by decide) Sample.stable_first
  have read : notesIn .latin1 "0.9.0" Sample.releases.sectionsRead =
      some "- First.\n\n[0.9.0]: url\n" := by decide
  rw [read] at delivered
  refine ⟨delivered.eq_ok, fun right => ?_⟩
  exact absurd (delivered.iff_eq.mp right) (by decide)

end Asyncly.Release
