import Mathlib.Data.List.Infix
import Mathlib.Data.List.Perm.Basic
import Mathlib.Logic.Function.Basic

/-!
# Extraction into a directory

An archive is a list of items with their paths; extracting an item makes the directories
above it and puts its file, if it is one. A file cannot stand where a directory does, nor
have anything below it, and a later file takes the place of an earlier one. Where the paths
of the items rule that out, what is extracted does not depend on the order.
-/

namespace FileTree

variable {κ β : Type*}

inductive Entry (β : Type*)
  | file (contents : β)
  | directory

namespace Entry

def isFile : Entry β → Bool
  | file _ => true
  | directory => false

def isDirectory (entry : Entry β) : Bool := !entry.isFile

end Entry

/-- What stands at the paths below a directory, and at its own, the empty one. -/
abbrev Tree (κ β : Type*) := List κ → Option (Entry β)

/-- An item of an archive; a directory has no contents. -/
structure Item (κ β : Type*) where
  path : List κ
  contents : Option β

/-- A directory with nothing in it. -/
def empty : Tree κ β := fun path => if path = [] then some .directory else none

section Extract

variable [DecidableEq κ]

/-- The tree with all directories on the way to a path, and one at the path unless something
is there. -/
def makeDirs (path : List κ) (tree : Tree κ β) : Tree κ β := fun other =>
  if other <+: path ∧ (tree other).isNone then some .directory else tree other

/-- Some directory on the way to the path is a file. -/
def blocked (path : List κ) (tree : Tree κ β) : Bool :=
  path.inits.any fun above => above ≠ path && (tree above).any Entry.isFile

/-- Extract an item, which may fail. -/
def extract (tree : Tree κ β) (item : Item κ β) : Option (Tree κ β) :=
  if blocked item.path tree then none
  else
    match item.contents with
    | none =>
        if (tree item.path).any Entry.isFile then none else some (makeDirs item.path tree)
    | some contents =>
        if (tree item.path).any Entry.isDirectory then none
        else
          some (Function.update (makeDirs item.path tree) item.path (some (.file contents)))

/-- Extract all items, one after the other. -/
def extractAll (tree : Tree κ β) (items : List (Item κ β)) : Option (Tree κ β) :=
  items.foldlM extract tree

end Extract

/-- No two items have one path, and nothing is below a file. -/
structure Compatible (items : List (Item κ β)) : Prop where
  distinct : (items.map Item.path).Nodup
  inside : ∀ item ∈ items, item.contents.isSome = true → item.path ≠ []
  apart : ∀ item ∈ items, item.contents.isSome = true →
    ∀ other ∈ items, item.path <+: other.path → item.path = other.path

theorem Compatible.perm {items items' : List (Item κ β)} (h : Compatible items)
    (perm : items'.Perm items) : Compatible items' := by
  refine ⟨(perm.map Item.path).nodup_iff.mpr h.distinct, ?_, ?_⟩
  · exact fun item member => h.inside item (perm.mem_iff.mp member)
  · exact fun item member file other member' =>
      h.apart item (perm.mem_iff.mp member) file other (perm.mem_iff.mp member')

theorem Compatible.sublist {items items' : List (Item κ β)} (h : Compatible items)
    (sublist : items'.Sublist items) : Compatible items' := by
  refine ⟨h.distinct.sublist (sublist.map Item.path), ?_, ?_⟩
  · exact fun item member => h.inside item (sublist.subset member)
  · exact fun item member file other member' =>
      h.apart item (sublist.subset member) file other (sublist.subset member')

/-- The tree has the files of the items and no others, and a directory only where one is
needed. -/
structure Reflects (items : List (Item κ β)) (tree : Tree κ β) : Prop where
  file : ∀ path contents, tree path = some (.file contents) ↔
    ∃ item ∈ items, item.path = path ∧ item.contents = some contents
  directory : ∀ path, tree path = some .directory →
    path = [] ∨ ∃ item ∈ items, path <+: item.path ∧
      (item.contents.isSome = true → path ≠ item.path)

theorem reflects_empty : Reflects [] (empty : Tree κ β) := by
  refine ⟨fun path contents => ?_, fun path here => ?_⟩
  · rw [empty]
    split <;> simp
  · rw [empty] at here
    split at here
    · exact .inl ‹_›
    · cases here

section Step

variable {items : List (Item κ β)} {item : Item κ β} {tree : Tree κ β}

/-- The path of a new item is not that of an earlier one. -/
theorem Compatible.fresh (h : Compatible (items ++ [item])) {old : Item κ β}
    (member : old ∈ items) : old.path ≠ item.path := by
  have distinct := h.distinct
  rw [List.map_append, List.nodup_append] at distinct
  exact distinct.2.2 _ (List.mem_map_of_mem member) _ (by simp)

/-- No file stands at the path of a new item. -/
theorem Compatible.no_file (h : Compatible (items ++ [item])) (reflects : Reflects items tree) :
    (tree item.path).any Entry.isFile = false := by
  cases there : tree item.path with
  | none => rfl
  | some entry =>
      cases entry with
      | directory => rfl
      | file contents =>
          obtain ⟨old, member, same, -⟩ := (reflects.file item.path contents).mp there
          exact absurd same (h.fresh member)

/-- No directory stands at the path of a new file. -/
theorem Compatible.no_directory (h : Compatible (items ++ [item]))
    (reflects : Reflects items tree) (isFile : item.contents.isSome = true) :
    (tree item.path).any Entry.isDirectory = false := by
  cases there : tree item.path with
  | none => rfl
  | some entry =>
      cases entry with
      | file contents => rfl
      | directory =>
          rcases reflects.directory item.path there with root | ⟨old, member, above, -⟩
          · exact absurd root (h.inside item (by simp) isFile)
          · have same := h.apart item (by simp) isFile old (List.mem_append_left _ member) above
            exact absurd same.symm (h.fresh member)

variable [DecidableEq κ]

theorem makeDirs_file {path other : List κ} {contents : β} :
    makeDirs path tree other = some (.file contents) ↔ tree other = some (.file contents) := by
  rw [makeDirs]
  split
  · rename_i new
    rw [Option.isNone_iff_eq_none.mp new.2]
    simp
  · rfl

theorem makeDirs_directory {path other : List κ}
    (here : makeDirs path tree other = some .directory) :
    tree other = some .directory ∨ other <+: path := by
  rw [makeDirs] at here
  split at here
  · rename_i new
    exact .inr new.1
  · exact .inl here

/-- No file stands on the way to a new item. -/
theorem Compatible.not_blocked (h : Compatible (items ++ [item])) (reflects : Reflects items tree) :
    blocked item.path tree = false := by
  rw [blocked, List.any_eq_false]
  intro above member
  rw [List.mem_inits] at member
  cases there : tree above with
  | none => simp
  | some entry =>
      cases entry with
      | directory => simp [Entry.isFile]
      | file contents =>
          obtain ⟨old, member', rfl, given⟩ := (reflects.file above contents).mp there
          have same := h.apart old (List.mem_append_left _ member') (by rw [given]; rfl) item
            (by simp) member
          simp [same]

/-- The directories on the way to a new item are needed. -/
theorem Reflects.directory_makeDirs (reflects : Reflects items tree) {path : List κ}
    (here : makeDirs item.path tree path = some .directory)
    (above : item.contents.isSome = true → path ≠ item.path) :
    path = [] ∨ ∃ other ∈ items ++ [item], path <+: other.path ∧
      (other.contents.isSome = true → path ≠ other.path) := by
  rcases makeDirs_directory here with old | new
  · rcases reflects.directory path old with root | ⟨other, member, needed⟩
    · exact .inl root
    · exact .inr ⟨other, List.mem_append_left _ member, needed⟩
  · exact .inr ⟨item, by simp, new, above⟩

theorem Reflects.extract_directory (reflects : Reflects items tree)
    (h : Compatible (items ++ [item])) (given : item.contents = none) :
    extract tree item = some (makeDirs item.path tree) ∧
      Reflects (items ++ [item]) (makeDirs item.path tree) := by
  constructor
  · rw [extract, h.not_blocked reflects, given]
    simp [h.no_file reflects]
  · refine ⟨fun path contents => ?_, fun path here => ?_⟩
    · rw [makeDirs_file, reflects.file]
      simp [List.mem_append, or_and_right, exists_or, given]
    · exact reflects.directory_makeDirs here (by simp [given])

theorem Reflects.extract_file (reflects : Reflects items tree) (h : Compatible (items ++ [item]))
    {contents : β} (given : item.contents = some contents) :
    ∃ tree', extract tree item = some tree' ∧ Reflects (items ++ [item]) tree' := by
  have isFile : item.contents.isSome = true := by rw [given]; rfl
  refine ⟨Function.update (makeDirs item.path tree) item.path (some (.file contents)), ?_, ?_, ?_⟩
  · rw [extract, h.not_blocked reflects, given]
    simp [h.no_directory reflects isFile]
  · intro path other
    by_cases here : path = item.path
    · subst here
      rw [Function.update_self]
      constructor
      · intro same
        exact ⟨item, by simp, rfl, by simpa [given] using same⟩
      · rintro ⟨old, member, same, written⟩
        rcases List.mem_append.mp member with earlier | new
        · exact absurd same (h.fresh earlier)
        · rw [List.mem_singleton.mp new, given] at written
          rw [Option.some.inj written]
    · rw [Function.update_of_ne here, makeDirs_file, reflects.file]
      constructor
      · rintro ⟨old, member, same⟩
        exact ⟨old, List.mem_append_left _ member, same⟩
      · rintro ⟨old, member, same, written⟩
        rcases List.mem_append.mp member with earlier | new
        · exact ⟨old, earlier, same, written⟩
        · exact absurd (List.mem_singleton.mp new ▸ same).symm here
  · intro path there
    by_cases here : path = item.path
    · rw [here, Function.update_self] at there
      cases there
    · rw [Function.update_of_ne here] at there
      exact reflects.directory_makeDirs there fun _ => here

end Step

variable [DecidableEq κ]

/-- One more item is extracted, and the tree reflects it too. -/
theorem Reflects.extract {items : List (Item κ β)} {item : Item κ β} {tree : Tree κ β}
    (reflects : Reflects items tree) (h : Compatible (items ++ [item])) :
    ∃ tree', extract tree item = some tree' ∧ Reflects (items ++ [item]) tree' := by
  cases given : item.contents with
  | none => exact ⟨_, reflects.extract_directory h given⟩
  | some contents => exact reflects.extract_file h given

/-- Compatible items are extracted without a failure, after those that were. -/
theorem Reflects.extractAll {items rest : List (Item κ β)} {tree : Tree κ β}
    (reflects : Reflects items tree) (h : Compatible (items ++ rest)) :
    ∃ tree', extractAll tree rest = some tree' ∧ Reflects (items ++ rest) tree' := by
  induction rest generalizing items tree with
  | nil => exact ⟨tree, rfl, by rwa [List.append_nil]⟩
  | cons item rest ih =>
      rw [List.append_cons] at h ⊢
      obtain ⟨next, extracted, reflects⟩ :=
        reflects.extract (h.sublist (List.sublist_append_left _ rest))
      obtain ⟨tree', later, reflects⟩ := ih reflects h
      refine ⟨tree', ?_, reflects⟩
      rw [FileTree.extractAll, List.foldlM_cons, extracted]
      exact later

/-- The files of compatible items are there when all are extracted, in whichever order. -/
theorem exists_extractAll {items order : List (Item κ β)} (h : Compatible items)
    (perm : order.Perm items) :
    ∃ tree, extractAll empty order = some tree ∧ ∀ item ∈ items, ∀ contents,
      item.contents = some contents → tree item.path = some (.file contents) := by
  obtain ⟨tree, extracted, reflects⟩ := reflects_empty.extractAll (h.perm perm)
  refine ⟨tree, extracted, fun item member contents given => ?_⟩
  exact (reflects.file item.path contents).mpr ⟨item, perm.mem_iff.mpr member, rfl, given⟩

end FileTree
