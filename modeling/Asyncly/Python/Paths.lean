import Mathlib.Data.List.Basic

/-!
# Paths

The paths of `pathlib` on POSIX: a root, and components of which none is empty or a
single dot. Two dots are a component like any other; a path is not resolved.
-/

namespace Asyncly

/-- The parts of a text between its separators contain none. -/
theorem not_mem_of_mem_splitOn {α : Type*} [BEq α] [LawfulBEq α] {separator : α}
    {text part : List α} (member : part ∈ text.splitOn separator) : separator ∉ part := by
  induction text generalizing part with
  | nil =>
      rw [List.splitOn_nil, List.mem_singleton] at member
      rw [member]
      exact List.not_mem_nil
  | cons c text ih =>
      rw [List.splitOn_cons_eq_if_modifyHead] at member
      split at member
      · rcases List.mem_cons.mp member with rfl | later
        · exact List.not_mem_nil
        · exact ih later
      · rename_i other
        cases parts : text.splitOn separator with
        | nil => exact absurd parts (List.splitOn_ne_nil separator text)
        | cons first rest =>
            rw [parts] at member ih
            rcases List.mem_cons.mp member with rfl | later
            · intro here
              rcases List.mem_cons.mp here with rfl | here
              · exact other (beq_self_eq_true separator)
              · exact ih (List.mem_cons_self ..) here
            · exact ih (List.mem_cons_of_mem first later)

/-- The first occurrence of a separator is at one place. -/
theorem append_separator_prefix_iff {α : Type*} {separator : α} {text other rest rest' : List α}
    (free : separator ∉ text) (free' : separator ∉ other) :
    text ++ separator :: rest <+: other ++ separator :: rest' ↔
      text = other ∧ rest <+: rest' := by
  induction text generalizing other with
  | nil =>
      cases other with
      | nil => simp
      | cons c other => simpa using fun same => absurd same (List.ne_of_not_mem_cons free')
  | cons c text ih =>
      cases other with
      | nil => simpa using fun same => absurd same.symm (List.ne_of_not_mem_cons free)
      | cons d other =>
          rw [List.cons_append, List.cons_append, List.cons_prefix_cons, List.cons.injEq,
            ih (List.not_mem_of_not_mem_cons free) (List.not_mem_of_not_mem_cons free'), and_assoc]

/-- Texts that end with a separator they do not contain elsewhere are the beginning of
others, put together, as their list is. -/
theorem flatMap_terminated_prefix_iff {α : Type*} {separator : α} {texts others : List (List α)}
    (free : ∀ text ∈ texts, separator ∉ text) (free' : ∀ text ∈ others, separator ∉ text) :
    texts.flatMap (· ++ [separator]) <+: others.flatMap (· ++ [separator]) ↔
      texts <+: others := by
  induction texts generalizing others with
  | nil => simp
  | cons text texts ih =>
      cases others with
      | nil => simp
      | cons other others =>
          rw [List.forall_mem_cons] at free free'
          rw [List.flatMap_cons, List.flatMap_cons, List.append_assoc, List.append_assoc]
          exact (append_separator_prefix_iff free.1 free'.1).trans
            ((and_congr_right fun _ => ih free.2 free'.2).trans List.cons_prefix_cons.symm)

/-- `PurePosixPath`, by its root and the components after the root. -/
structure PurePosixPath where
  root : String
  tail : List String
  clean : ∀ part ∈ tail, part ≠ "" ∧ part ≠ "." ∧ '/' ∉ part.toList
  deriving DecidableEq

namespace PurePosixPath

/-- The components a text is split into. -/
def components (text : String) : List String :=
  ((text.toList.splitOn '/').map String.ofList).filter fun part => part ≠ "" ∧ part ≠ "."

theorem components_clean (text : String) :
    ∀ part ∈ components text, part ≠ "" ∧ part ≠ "." ∧ '/' ∉ part.toList := by
  intro part member
  obtain ⟨member, kept⟩ := List.mem_filter.mp member
  obtain ⟨chars, split, rfl⟩ := List.mem_map.mp member
  obtain ⟨nonempty, noDot⟩ := of_decide_eq_true kept
  refine ⟨nonempty, noDot, ?_⟩
  rw [String.toList_ofList]
  exact not_mem_of_mem_splitOn split

theorem components_of_free {text : String} (nonempty : text ≠ "") (noDot : text ≠ ".")
    (free : '/' ∉ text.toList) : components text = [text] := by
  rw [components, List.splitOn_eq_singleton free, List.map_singleton, String.ofList_toList,
    List.filter_singleton, decide_eq_true ⟨nonempty, noDot⟩, cond_true]

/-- `PurePosixPath(text)`. Two slashes at the start are a root of their own, three are
one. -/
def ofString (text : String) : PurePosixPath where
  root :=
    match text.toList with
    | '/' :: '/' :: '/' :: _ => "/"
    | '/' :: '/' :: _ => "//"
    | '/' :: _ => "/"
    | _ => ""
  tail := components text
  clean := components_clean text

/-- `path.is_absolute()` -/
def isAbsolute (path : PurePosixPath) : Bool := path.root ≠ ""

/-- `path.parts` -/
def parts (path : PurePosixPath) : List String :=
  if path.root = "" then path.tail else path.root :: path.tail

/-- `path.name` -/
def name (path : PurePosixPath) : String := path.tail.getLast?.getD ""

/-- `path.parent` -/
def parent (path : PurePosixPath) : PurePosixPath where
  root := path.root
  tail := path.tail.dropLast
  clean part member := path.clean part (List.dropLast_subset path.tail member)

/-- `path / other`, for two paths -/
def join (path other : PurePosixPath) : PurePosixPath :=
  if other.isAbsolute then other
  else {
    root := path.root
    tail := path.tail ++ other.tail
    clean := fun part member =>
      (List.mem_append.mp member).elim (path.clean part) (other.clean part) }

/-- `path / name` -/
def child (path : PurePosixPath) (name : String) : PurePosixPath := path.join (ofString name)

theorem child_tail_of_free {text : String} (nonempty : text ≠ "") (noDot : text ≠ ".")
    (free : '/' ∉ text.toList) (path : PurePosixPath) :
    (path.child text).tail = path.tail ++ [text] := by
  have relative : (ofString text).isAbsolute = false := by
    have root : (ofString text).root = "" := by
      rw [ofString]
      split
      · rename_i start
        simp [start] at free
      · rename_i start
        simp [start] at free
      · rename_i start
        simp [start] at free
      · rfl
    rw [isAbsolute, root]
    rfl
  rw [child, join, relative, if_neg Bool.false_ne_true]
  change path.tail ++ components text = _
  rw [components_of_free nonempty noDot free]

theorem name_child_of_free {text : String} (nonempty : text ≠ "") (noDot : text ≠ ".")
    (free : '/' ∉ text.toList) (path : PurePosixPath) : (path.child text).name = text := by
  rw [name, child_tail_of_free nonempty noDot free, List.getLast?_concat, Option.getD_some]

/-- `str(path)` -/
def str (path : PurePosixPath) : String :=
  if path.root = "" ∧ path.tail = [] then "." else path.root ++ "/".intercalate path.tail

end PurePosixPath

end Asyncly
