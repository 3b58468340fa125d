import Mathlib.Data.List.Basic

/-!
# Texts by lines

A text is its lines with newlines between them. A search that matches whole lines reports
each match with its place in the text; replacing the text at the place of a match is
replacing its line.
-/

namespace Lines

/-- The lines of a text; there is always one. -/
def lines (text : List Char) : List (List Char) := text.splitOn '\n'

/-- The text of some lines. -/
def unlines (ls : List (List Char)) : List Char := ['\n'].intercalate ls

/-- The text of the lines above a line. -/
def above (before : List (List Char)) : List Char := before.flatMap (· ++ ['\n'])

/-- The text of the lines below a line. -/
def below (after : List (List Char)) : List Char := after.flatMap ('\n' :: ·)

/-- A match of a whole line: where it starts and ends, and its text. -/
structure Found where
  start : Nat
  stop : Nat
  group : List Char
  deriving DecidableEq

/-- The matches among lines the first of which starts here. -/
def findFrom (test : List Char → Bool) (start : Nat) : List (List Char) → List Found
  | [] => []
  | line :: rest =>
      let stop := start + line.length
      if test line then ⟨start, stop, line⟩ :: findFrom test (stop + 1) rest
      else findFrom test (stop + 1) rest

/-- The matches of the lines that pass a test, in order. -/
def find (test : List Char → Bool) (text : List Char) : List Found :=
  findFrom test 0 (lines text)

/-- The matches of the lines that pass a test and are ended by a newline. -/
def findEnded (test : List Char → Bool) (text : List Char) : List Found :=
  findFrom test 0 (lines text).dropLast

/-- `text[:start] + replacement + text[stop:]` -/
def splice (text : List Char) (start stop : Nat) (replacement : List Char) : List Char :=
  text.take start ++ replacement ++ text.drop stop

variable {test : List Char → Bool} {text line : List Char}
  {before after ls : List (List Char)}

theorem unlines_lines (text : List Char) : unlines (lines text) = text :=
  List.intercalate_splitOn '\n'

theorem lines_unlines (nonempty : ls ≠ []) (free : ∀ line ∈ ls, '\n' ∉ line) :
    lines (unlines ls) = ls :=
  List.splitOn_intercalate '\n' free nonempty

/-- A line stands between what comes before it and what comes after. -/
theorem unlines_split (before after : List (List Char)) (line : List Char) :
    unlines (before ++ line :: after) = above before ++ line ++ below after := by
  induction before with
  | nil =>
      induction after generalizing line with
      | nil => simp [unlines, above, below]
      | cons next after ih =>
          rw [List.nil_append, unlines, List.intercalate_cons_cons, ← unlines,
            ← List.nil_append (next :: after), ih]
          simp [above, below]
  | cons first before ih =>
      rw [List.cons_append, unlines, List.intercalate_cons_of_ne_nil (by simp), ← unlines, ih]
      simp [above]

/-- A line that is made of lines is those lines. -/
theorem unlines_nested (nonempty : ls ≠ []) :
    unlines (before ++ unlines ls :: after) = unlines (before ++ ls ++ after) := by
  obtain ⟨line, rest, rfl⟩ := List.exists_cons_of_ne_nil nonempty
  have inner : unlines (line :: rest) = line ++ below rest := by
    simpa [above] using unlines_split [] rest line
  rw [unlines_split, inner, List.append_assoc before, List.cons_append, unlines_split]
  simp [below]

theorem unlines_append_of_ne_nil (nonempty : after ≠ []) :
    unlines (before ++ line :: after) = above before ++ line ++ '\n' :: unlines after := by
  obtain ⟨next, rest, rfl⟩ := List.exists_cons_of_ne_nil nonempty
  have inner : unlines (next :: rest) = next ++ below rest := by
    simpa [above] using unlines_split [] rest next
  rw [unlines_split, inner]
  rfl

/-- A text that ends with a newline has an empty line at its end. -/
theorem above_eq (before : List (List Char)) : above before = unlines (before ++ [[]]) := by
  rw [unlines_split, below, List.flatMap_nil, List.append_nil, List.append_nil]

theorem unlines_concat_nil (nonempty : ls ≠ []) : unlines (ls ++ [[]]) = unlines ls ++ ['\n'] := by
  rcases List.eq_nil_or_concat ls with rfl | ⟨before, line, rfl⟩
  · exact absurd rfl nonempty
  · rw [List.concat_eq_append, ← above_eq, unlines_split]
    simp [above, below]

/-- Lines have the characters of their text other than newlines. -/
theorem count_unlines {c : Char} (visible : c ≠ '\n') :
    (unlines ls).count c = ls.flatten.count c := by
  induction ls with
  | nil => rfl
  | cons line rest ih =>
      cases rest with
      | nil => simp [unlines]
      | cons next rest =>
          rw [unlines, List.intercalate_cons_cons, ← unlines, List.flatten_cons, List.count_append,
            List.count_append, List.count_append, ih, List.count_singleton]
          simp [visible.symm]

/-! ### Matches -/

theorem findFrom_map_group (start : Nat) :
    (findFrom test start ls).map Found.group = ls.filter test := by
  induction ls generalizing start with
  | nil => rfl
  | cons line rest ih =>
      rw [findFrom]
      by_cases passes : test line
      · rw [if_pos passes, List.map_cons, ih, List.filter_cons_of_pos passes]
      · rw [if_neg passes, ih, List.filter_cons_of_neg passes]

theorem find_map_group : (find test text).map Found.group = (lines text).filter test :=
  findFrom_map_group 0

theorem find_eq_nil_iff : find test text = [] ↔ ∀ line ∈ lines text, test line = false := by
  rw [← List.map_eq_nil_iff (f := Found.group), find_map_group, List.filter_eq_nil_iff]
  simp

/-- The first match is at the first line that passes. -/
theorem findFrom_first (start : Nat) (passes : test line = true)
    (earlier : ∀ other ∈ before, test other = false) :
    findFrom test start (before ++ line :: after) =
      ⟨start + (above before).length, start + (above before).length + line.length, line⟩ ::
        findFrom test (start + (above before).length + line.length + 1) after := by
  induction before generalizing start with
  | nil => rw [List.nil_append, findFrom, if_pos passes, above, List.flatMap_nil]; rfl
  | cons first rest ih =>
      obtain ⟨first, later⟩ := List.forall_mem_cons.mp earlier
      rw [List.cons_append, findFrom, if_neg (by simp [first]), ih _ later]
      simp only [above, List.flatMap_cons, List.length_append, List.length_singleton,
        Nat.add_assoc]

/-- The only line that passes has the only match. -/
theorem findFrom_of_unique (start : Nat) (passes : test line = true)
    (others : ∀ other ∈ before ++ after, test other = false) :
    findFrom test start (before ++ line :: after) =
      [⟨start + (above before).length, start + (above before).length + line.length, line⟩] := by
  rw [findFrom_first start passes fun other member => others other (List.mem_append_left _ member)]
  congr 1
  rw [← List.map_eq_nil_iff (f := Found.group), findFrom_map_group, List.filter_eq_nil_iff]
  intro other member
  rw [others other (List.mem_append_right before member)]
  exact Bool.false_ne_true

/-- Where the only line that passes stands, its match is. -/
theorem find_of_unique (split : lines text = before ++ line :: after) (passes : test line = true)
    (others : ∀ other ∈ before ++ after, test other = false) :
    find test text =
      [⟨(above before).length, (above before).length + line.length, line⟩] := by
  rw [find, split, findFrom_of_unique 0 passes others]
  simp only [Nat.zero_add]

/-- Replacing the text at the place of a line is replacing the line. -/
theorem splice_line (split : lines text = before ++ line :: after) (replacement : List Char) :
    splice text (above before).length ((above before).length + line.length) replacement =
      unlines (before ++ replacement :: after) := by
  have whole : above before ++ (line ++ below after) = text := by
    rw [← unlines_lines text, split, unlines_split, List.append_assoc]
  rw [splice, ← whole, List.take_left, ← List.append_assoc (above before), ← List.length_append,
    List.drop_left, unlines_split]

/-- Behind a line and its newline, the text is the lines that follow. -/
theorem drop_line (nonempty : after ≠ []) :
    (unlines (before ++ line :: after)).drop ((above before).length + line.length + 1) =
      unlines after := by
  rw [unlines_append_of_ne_nil nonempty, ← List.length_append, ← List.drop_drop, List.drop_left]
  rfl

/-- Up to a line, the text is the lines before it. -/
theorem take_line : (unlines (before ++ line :: after)).take (above before).length =
    above before := by
  rw [unlines_split, List.append_assoc, List.take_left]

end Lines
