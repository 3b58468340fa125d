import Mathlib.Data.List.Basic
import Mathlib.Data.List.Nodup
import Mathlib.Data.List.Perm.Subperm

/-!
# Ordered multi-valued dictionaries

A multi-dictionary is the list of its pairs in insertion order; names may repeat.
Two names are the same key when `fold` sends them to the same identity, so a
case-insensitive dictionary is one whose `fold` is the change of case. Writing a
key replaces its first entry in place and drops its other entries.
-/

namespace MultiDict

variable {κ ν ι : Type*} [DecidableEq ι] (fold : κ → ι)

/-- Whether some entry has this key. -/
def contains (key : κ) (d : List (κ × ν)) : Bool := d.any fun p => fold p.1 = fold key

/-- All values of a key, in order. -/
def getAll (key : κ) (d : List (κ × ν)) : List ν :=
  (d.filter fun p => fold p.1 = fold key).map Prod.snd

/-- The first value of a key. -/
def get? (key : κ) (d : List (κ × ν)) : Option ν := (getAll fold key d).head?

/-- Remove every entry of a key. -/
def popAll (key : κ) (d : List (κ × ν)) : List (κ × ν) :=
  d.filter fun p => fold p.1 ≠ fold key

/-- Make `value` the only value of a key: in place of its first entry, or at the
end when it has none. -/
def set (key : κ) (value : ν) : List (κ × ν) → List (κ × ν)
  | [] => [(key, value)]
  | p :: rest =>
      if fold p.1 = fold key then (key, value) :: popAll fold key rest
      else p :: set key value rest

/-- Write all items, in order. -/
def update (d items : List (κ × ν)) : List (κ × ν) :=
  items.foldl (fun d item => set fold item.1 item.2 d) d

variable {fold} {key other : κ} {value : ν} {d : List (κ × ν)}

@[simp] theorem getAll_nil : getAll fold key ([] : List (κ × ν)) = [] := rfl

theorem getAll_cons (p : κ × ν) (d : List (κ × ν)) :
    getAll fold key (p :: d) =
      if fold p.1 = fold key then p.2 :: getAll fold key d else getAll fold key d := by
  by_cases h : fold p.1 = fold key <;> simp [getAll, h]

theorem contains_iff_getAll_ne_nil :
    contains fold key d = true ↔ getAll fold key d ≠ [] := by
  simp [contains, getAll, List.filter_eq_nil_iff]

theorem contains_eq_isSome_get? : contains fold key d = (get? fold key d).isSome := by
  rw [Bool.eq_iff_iff, contains_iff_getAll_ne_nil, get?]
  cases getAll fold key d <;> simp

theorem getAll_popAll (h : fold other ≠ fold key) :
    getAll fold other (popAll fold key d) = getAll fold other d := by
  induction d with
  | nil => rfl
  | cons p d ih =>
      by_cases hp : fold p.1 = fold key
      · have hne : fold p.1 ≠ fold other := fun e => h (e.symm.trans hp)
        rw [popAll, List.filter_cons_of_neg (by simpa using hp), ← popAll, ih, getAll_cons,
          if_neg hne]
      · rw [popAll, List.filter_cons_of_pos (by simpa using hp), ← popAll, getAll_cons,
          getAll_cons, ih]

@[simp] theorem getAll_popAll_self : getAll fold key (popAll fold key d) = [] := by
  simp only [getAll, popAll, List.filter_filter, List.map_eq_nil_iff, List.filter_eq_nil_iff]
  intro p _
  simp

@[simp] theorem getAll_set_self : getAll fold key (set fold key value d) = [value] := by
  induction d with
  | nil => simp [set, getAll_cons]
  | cons p d ih =>
      by_cases hp : fold p.1 = fold key
      · rw [set, if_pos hp, getAll_cons, if_pos rfl, getAll_popAll_self]
      · rw [set, if_neg hp, getAll_cons, if_neg hp, ih]

theorem getAll_set (h : fold other ≠ fold key) :
    getAll fold other (set fold key value d) = getAll fold other d := by
  induction d with
  | nil => simp [set, getAll_cons, h.symm]
  | cons p d ih =>
      by_cases hp : fold p.1 = fold key
      · have hne : fold p.1 ≠ fold other := fun e => h (e.symm.trans hp)
        rw [set, if_pos hp, getAll_cons, if_neg h.symm, getAll_popAll h, getAll_cons,
          if_neg hne]
      · rw [set, if_neg hp, getAll_cons, getAll_cons, ih]

@[simp] theorem get?_set_self : get? fold key (set fold key value d) = some value := by
  simp [get?]

theorem get?_set (h : fold other ≠ fold key) :
    get? fold other (set fold key value d) = get? fold other d := by
  rw [get?, getAll_set h, get?]

theorem popAll_cons (p : κ × ν) (d : List (κ × ν)) :
    popAll fold key (p :: d) =
      if fold p.1 = fold key then popAll fold key d else p :: popAll fold key d := by
  by_cases h : fold p.1 = fold key <;> simp [popAll, h]

@[simp] theorem popAll_popAll_self : popAll fold key (popAll fold key d) = popAll fold key d := by
  rw [popAll, popAll, List.filter_filter]
  simp

theorem popAll_comm : popAll fold key (popAll fold other d) =
    popAll fold other (popAll fold key d) :=
  List.filter_comm _ _ _

/-- The entries of other keys are kept, in order. -/
theorem popAll_set : popAll fold key (set fold key value d) = popAll fold key d := by
  induction d with
  | nil => simp [set, popAll]
  | cons p d ih =>
      by_cases hp : fold p.1 = fold key
      · rw [set, if_pos hp, popAll_cons, if_pos rfl, popAll_popAll_self, popAll_cons, if_pos hp]
      · rw [set, if_neg hp, popAll_cons, if_neg hp, popAll_cons, if_neg hp, ih]

/-- A new key goes to the end. -/
theorem set_of_not_contains (h : contains fold key d = false) :
    set fold key value d = d ++ [(key, value)] := by
  induction d with
  | nil => rfl
  | cons p d ih =>
      obtain ⟨first, rest⟩ : ¬ fold p.1 = fold key ∧ contains fold key d = false := by
        simpa [contains] using h
      rw [set, if_neg first, ih rest, List.cons_append]

@[simp] theorem contains_popAll_self : contains fold key (popAll fold key d) = false := by
  rw [← Bool.not_eq_true, contains_iff_getAll_ne_nil, getAll_popAll_self]
  exact not_not_intro rfl

@[simp] theorem contains_set_self : contains fold key (set fold key value d) = true := by
  rw [contains_iff_getAll_ne_nil, getAll_set_self]
  exact List.cons_ne_nil value []

theorem contains_set (h : fold other ≠ fold key) :
    contains fold other (set fold key value d) = contains fold other d := by
  rw [Bool.eq_iff_iff, contains_iff_getAll_ne_nil, contains_iff_getAll_ne_nil, getAll_set h]

/-! ### Looking up and occurring

A lookup returns the first value of a key. A pair that occurs is found by looking up its
key unless it stands behind another value of the key.
-/

/-- The pair occurs, but the first entry of its key is one with another value. -/
def Shadowed (fold : κ → ι) (key : κ) (value : ν) (d : List (κ × ν)) : Prop :=
  ∃ before first after, d = before ++ first :: after ∧ contains fold key before = false ∧
    fold first.1 = fold key ∧ first.2 ≠ value ∧ value ∈ getAll fold key after

theorem get?_cons (p : κ × ν) (d : List (κ × ν)) :
    get? fold key (p :: d) = if fold p.1 = fold key then some p.2 else get? fold key d := by
  rw [get?, getAll_cons]
  split <;> rfl

theorem shadowed_cons_self {p : κ × ν} (same : fold p.1 = fold key) :
    Shadowed fold key value (p :: d) ↔ p.2 ≠ value ∧ value ∈ getAll fold key d := by
  constructor
  · rintro ⟨before, first, after, split, free, -, differs, later⟩
    cases before with
    | nil =>
        obtain ⟨rfl, rfl⟩ := List.cons.inj split
        exact ⟨differs, later⟩
    | cons q before =>
        obtain ⟨rfl, -⟩ := List.cons.inj split
        simp [contains, same] at free
  · rintro ⟨differs, later⟩
    exact ⟨[], p, d, rfl, rfl, same, differs, later⟩

theorem shadowed_cons {p : κ × ν} (other : fold p.1 ≠ fold key) :
    Shadowed fold key value (p :: d) ↔ Shadowed fold key value d := by
  constructor
  · rintro ⟨before, first, after, split, free, here, shadowing⟩
    cases before with
    | nil =>
        obtain ⟨rfl, -⟩ := List.cons.inj split
        exact absurd here other
    | cons q before =>
        obtain ⟨rfl, rest⟩ := List.cons.inj split
        refine ⟨before, first, after, rest, ?_, here, shadowing⟩
        simpa [contains, other] using free
  · rintro ⟨before, first, after, rfl, free, shadowing⟩
    refine ⟨p :: before, first, after, rfl, ?_, shadowing⟩
    simpa [contains, other] using free

theorem get?_eq_some_iff (occurs : value ∈ getAll fold key d) :
    get? fold key d = some value ↔ ¬ Shadowed fold key value d := by
  induction d with
  | nil => cases occurs
  | cons p d ih =>
      rw [getAll_cons] at occurs
      rw [get?_cons]
      by_cases same : fold p.1 = fold key
      · rw [if_pos same] at occurs ⊢
        rw [shadowed_cons_self same, Option.some.injEq]
        constructor
        · rintro rfl ⟨differs, -⟩
          exact differs rfl
        · intro notShadowed
          rcases List.mem_cons.mp occurs with rfl | later
          · rfl
          · by_contra differs
            exact notShadowed ⟨differs, later⟩
      · rw [if_neg same] at occurs ⊢
        rw [shadowed_cons same, ih occurs]

theorem mem_getAll_iff :
    value ∈ getAll fold key d ↔ ∃ p ∈ d, fold p.1 = fold key ∧ p.2 = value := by
  simp [getAll, List.mem_map, List.mem_filter, and_assoc]

theorem mem_getAll_of_get? (found : get? fold key d = some value) : value ∈ getAll fold key d :=
  List.mem_of_head? found

/-! ### Finite maps

Where no key repeats, a dictionary is a finite map: it is determined by what is found under
each key, and two of them have the same keys when the keys of one are keys of the other and
they are equally long.
-/

section FiniteMaps

variable {κ ν : Type*} [DecidableEq κ] {key : κ} {value : ν} {d d' : List (κ × ν)}

theorem mem_of_get? (found : get? id key d = some value) : (key, value) ∈ d := by
  obtain ⟨p, member, rfl, rfl⟩ := mem_getAll_iff.mp (mem_getAll_of_get? found)
  exact member

theorem get?_of_mem (nodup : (d.map Prod.fst).Nodup) (member : (key, value) ∈ d) :
    get? id key d = some value := by
  induction d with
  | nil => cases member
  | cons p d ih =>
      obtain ⟨fresh, nodup⟩ := List.nodup_cons.mp nodup
      rw [get?_cons]
      rcases List.mem_cons.mp member with rfl | later
      · exact if_pos rfl
      · have differs : p.1 ≠ key := by
          rintro rfl
          exact fresh (List.mem_map.mpr ⟨_, later, rfl⟩)
        rw [if_neg (by exact differs), ih nodup later]

/-- Items with fresh keys go to the end, in order. -/
theorem update_of_nodup {items : List (κ × ν)} (nodup : ((d ++ items).map Prod.fst).Nodup) :
    update id d items = d ++ items := by
  induction items generalizing d with
  | nil => exact (List.append_nil d).symm
  | cons item items ih =>
      have fresh : contains id item.1 d = false := by
        rw [List.map_append, List.map_cons] at nodup
        have apart := (List.nodup_append.mp nodup).2.2
        simpa [contains] using fun k v member same =>
          apart k (List.mem_map.mpr ⟨(k, v), member, rfl⟩) item.1 (List.mem_cons_self ..) same
      rw [update, List.foldl_cons, set_of_not_contains fresh]
      refine (ih ?_).trans (List.append_assoc ..)
      rwa [List.append_assoc]

theorem isSome_get?_iff : (get? id key d).isSome = true ↔ key ∈ d.map Prod.fst := by
  rw [← contains_eq_isSome_get?, contains, List.any_eq_true]
  simp

/-- The same keys have values. -/
def SameKeys (d d' : List (κ × ν)) : Prop :=
  ∀ key, (get? id key d).isSome = (get? id key d').isSome

theorem sameKeys_iff : SameKeys d d' ↔ ∀ key, key ∈ d.map Prod.fst ↔ key ∈ d'.map Prod.fst := by
  refine forall_congr' fun key => ?_
  rw [Bool.eq_iff_iff, isSome_get?_iff, isSome_get?_iff]

theorem sameKeys_iff_of_nodup (nodup : (d.map Prod.fst).Nodup) (nodup' : (d'.map Prod.fst).Nodup) :
    SameKeys d d' ↔ d.length = d'.length ∧ ∀ key ∈ d.map Prod.fst, key ∈ d'.map Prod.fst := by
  rw [sameKeys_iff]
  constructor
  · intro same
    refine ⟨?_, fun key => (same key).mp⟩
    simpa using ((List.perm_ext_iff_of_nodup nodup nodup').mpr same).length_eq
  · rintro ⟨length, inside⟩
    have perm : (d.map Prod.fst).Perm (d'.map Prod.fst) :=
      (nodup.subperm inside).perm_of_length_le (by simp [length])
    exact fun key => perm.mem_iff

/-- A relation holds of the values the two dictionaries have under a common key exactly when
each entry of the first finds one it is related to, provided the keys are the same. -/
theorem forall_get?_iff {r : ν → ν → Prop} (nodup : (d.map Prod.fst).Nodup) :
    ((∀ key ∈ d.map Prod.fst, key ∈ d'.map Prod.fst) ∧ ∀ key x y, get? id key d = some x →
        get? id key d' = some y → r x y) ↔
      ∀ p ∈ d, ∃ other, get? id p.1 d' = some other ∧ r p.2 other := by
  constructor
  · rintro ⟨inside, related⟩ p member
    obtain ⟨other, found⟩ := Option.isSome_iff_exists.mp
      (isSome_get?_iff.mpr (inside p.1 (List.mem_map_of_mem member)))
    exact ⟨other, found, related p.1 p.2 other (get?_of_mem nodup member) found⟩
  · intro each
    constructor
    · intro key member
      obtain ⟨p, occurs, rfl⟩ := List.mem_map.mp member
      obtain ⟨other, found, -⟩ := each p occurs
      exact List.mem_map.mpr ⟨_, mem_of_get? found, rfl⟩
    · intro key x y here there
      obtain ⟨other, found, related⟩ := each (key, x) (mem_of_get? here)
      rw [there] at found
      exact Option.some.inj found ▸ related

end FiniteMaps

/-! ### Exact keys, read under an identity

A dictionary whose keys are compared as they are may be read by someone who takes several
of its keys for the same one.
-/

section ExactKeys

variable {κ ν ι : Type*} [DecidableEq ι] [DecidableEq κ] {fold : κ → ι} {key : κ} {value : ν}
  {d : List (κ × ν)}

theorem mem_getAll_set_exact : value ∈ getAll fold key (set id key value d) := by
  induction d with
  | nil => simp [set, getAll_cons]
  | cons p d ih =>
      by_cases same : p.1 = key
      · rw [set, if_pos (by exact same), getAll_cons, if_pos rfl]
        exact List.mem_cons_self ..
      · rw [set, if_neg (by exact same), getAll_cons]
        split
        · exact List.mem_cons_of_mem p.2 ih
        · exact ih

theorem popAll_popAll_exact : popAll fold key (popAll id key d) = popAll fold key d := by
  rw [popAll, popAll, List.filter_filter]
  refine List.filter_congr fun p _ => ?_
  by_cases same : p.1 = key <;> simp [same]

/-- Entries under other identities are kept, in order. -/
theorem popAll_set_exact : popAll fold key (set id key value d) = popAll fold key d := by
  induction d with
  | nil => simp [set, popAll]
  | cons p d ih =>
      by_cases same : p.1 = key
      · rw [set, if_pos (by exact same), popAll_cons, if_pos rfl, popAll_popAll_exact, popAll_cons,
          if_pos (by rw [same])]
      · rw [set, if_neg (by exact same), popAll_cons, popAll_cons, ih]

theorem getAll_popAll_exact_eq_nil :
    getAll fold key (popAll id key d) = [] ↔ ∀ p ∈ d, fold p.1 = fold key → p.1 = key := by
  simp only [getAll, popAll, List.filter_filter, List.map_eq_nil_iff, List.filter_eq_nil_iff]
  refine forall₂_congr fun p _ => ?_
  simp

/-- Writing a key makes the value the only one of its identity exactly when no other key has
that identity. -/
theorem getAll_set_exact :
    getAll fold key (set id key value d) = [value] ↔
      ∀ p ∈ d, fold p.1 = fold key → p.1 = key := by
  induction d with
  | nil => simp [set, getAll_cons]
  | cons p d ih =>
      rw [List.forall_mem_cons]
      by_cases same : p.1 = key
      · rw [set, if_pos (by exact same), getAll_cons, if_pos rfl, List.cons_eq_cons,
          getAll_popAll_exact_eq_nil]
        simp [same]
      · rw [set, if_neg (by exact same), getAll_cons]
        by_cases spelled : fold p.1 = fold key
        · rw [if_pos spelled]
          constructor
          · intro once
            have none := (List.cons.inj once).2
            exact absurd mem_getAll_set_exact (none ▸ List.not_mem_nil)
          · intro only
            exact absurd (only.1 spelled) same
        · rw [if_neg spelled, ih]
          exact ⟨fun only => ⟨fun h => absurd h spelled, only⟩, fun only => only.2⟩

end ExactKeys

/-! ### Dictionaries of lists -/

section Lists

variable {ν : Type*} (fold) (d : List (κ × List ν))

/-- The list of a key, empty when the key is not there. -/
def listAt (key : κ) : List ν := (get? fold key d).getD []

/-- `d[key].append(item)` of a dictionary whose missing lists are empty. -/
def push (key : κ) (item : ν) : List (κ × List ν) :=
  set fold key (listAt fold d key ++ [item]) d

variable {fold d} {item : ν}

@[simp] theorem listAt_nil : listAt fold ([] : List (κ × List ν)) key = [] := rfl

theorem listAt_push_self :
    listAt fold (push fold d key item) key = listAt fold d key ++ [item] := by
  rw [listAt, push, get?_set_self, Option.getD_some]

theorem listAt_push (h : fold other ≠ fold key) :
    listAt fold (push fold d key item) other = listAt fold d other := by
  rw [listAt, push, get?_set h, listAt]

/-- Items pushed one after the other to their own keys are kept in order under each. -/
theorem listAt_foldl_push [DecidableEq κ] (f : ν → κ) (items : List ν) (d : List (κ × List ν))
    (key : κ) :
    listAt id (items.foldl (fun d item => push id d (f item) item) d) key =
      listAt id d key ++ items.filter fun item => f item = key := by
  induction items generalizing d with
  | nil => simp
  | cons item rest ih =>
      rw [List.foldl_cons, ih]
      by_cases same : f item = key
      · subst same
        rw [listAt_push_self, List.filter_cons_of_pos (by simp), List.append_assoc]
        rfl
      · rw [listAt_push (Ne.symm same), List.filter_cons_of_neg (by simpa using same)]

end Lists

end MultiDict
