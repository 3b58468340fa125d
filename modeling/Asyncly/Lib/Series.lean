import Asyncly.Lib.MultiDict
import Mathlib.Algebra.BigOperators.Group.List.Basic
import Mathlib.Algebra.Order.Group.Multiset
import Mathlib.Data.Finset.Basic
import Mathlib.Data.Finset.Dedup

/-!
# Families of series

A metric is a family of series, one for each key it was used with: adding to a series that
is not there starts it at zero. Keys that name the same series in different ways are
compared through a relabelling; where no two keys become one, it commutes with everything
that is done to the family.
-/

namespace Series

variable {κ κ' ν : Type*} [DecidableEq κ] [DecidableEq κ']

/-- The value of a series, zero before its first use. -/
def value [Zero ν] (key : κ) (family : List (κ × ν)) : ν := (MultiDict.get? id key family).getD 0

/-- Add to a series. -/
def add [Zero ν] [Add ν] (key : κ) (amount : ν) (family : List (κ × ν)) : List (κ × ν) :=
  MultiDict.set id key (value key family + amount) family

/-- The same series under other keys. -/
def relabel (g : κ → κ') (family : List (κ × ν)) : List (κ' × ν) :=
  family.map fun series => (g series.1, series.2)

variable {g : κ → κ'} {key : κ} {family : List (κ × ν)}

theorem get?_relabel (inj : Function.Injective g) :
    MultiDict.get? id (g key) (relabel g family) = MultiDict.get? id key family := by
  induction family with
  | nil => rfl
  | cons series rest ih =>
      rw [relabel, List.map_cons, ← relabel, MultiDict.get?_cons, MultiDict.get?_cons, ih]
      simp only [id_eq, inj.eq_iff]

theorem popAll_relabel (inj : Function.Injective g) :
    MultiDict.popAll id (g key) (relabel g family) =
      relabel g (MultiDict.popAll id key family) := by
  simp only [MultiDict.popAll, relabel, List.filter_map, Function.comp_def, id_eq, ne_eq,
    inj.eq_iff]

theorem set_relabel (inj : Function.Injective g) (amount : ν) :
    MultiDict.set id (g key) amount (relabel g family) =
      relabel g (MultiDict.set id key amount family) := by
  induction family with
  | nil => rfl
  | cons series rest ih =>
      rw [relabel, List.map_cons, ← relabel, MultiDict.set, MultiDict.set]
      by_cases same : series.1 = key
      · rw [if_pos (by exact congrArg g same), if_pos (by exact same), popAll_relabel inj]
        rfl
      · rw [if_neg (by exact fun h => same (inj h)), if_neg (by exact same), ih]
        rfl

/-- Adding to a series and looking at the family under other keys commute. -/
theorem add_relabel [Zero ν] [Add ν] (inj : Function.Injective g) (amount : ν) :
    add (g key) amount (relabel g family) = relabel g (add key amount family) := by
  rw [add, value, get?_relabel inj, set_relabel inj]
  rfl

/-- Adding to a series leaves the others as they are. -/
theorem value_add {ν : Type*} [AddMonoid ν] (key other : κ) (amount : ν) (family : List (κ × ν)) :
    value other (add key amount family) =
      value other family + if key = other then amount else 0 := by
  by_cases same : key = other
  · rw [if_pos same, ← same, add, value, MultiDict.get?_set_self]
    rfl
  · rw [if_neg same, add_zero, value, add, MultiDict.get?_set (by exact Ne.symm same)]
    rfl

/-! ### Aggregation

A query sums the series whose keys pass a test. No key occurs twice, so that it sums what
was added under these keys.
-/

section Sums

variable {κ ν : Type*} [AddCommMonoid ν] {p : κ → Bool}

/-- The sum of the series, or of the amounts, whose keys pass a test. -/
def sumWhere (p : κ → Bool) (family : List (κ × ν)) : ν :=
  ((family.filter fun series => p series.1).map Prod.snd).sum

@[simp] theorem sumWhere_nil : sumWhere p ([] : List (κ × ν)) = 0 := rfl

theorem sumWhere_cons (series : κ × ν) (rest : List (κ × ν)) :
    sumWhere p (series :: rest) = (if p series.1 then series.2 else 0) + sumWhere p rest := by
  cases passes : p series.1 with
  | true => simp [sumWhere, passes]
  | false => simp [sumWhere, passes]

theorem sumWhere_append (first second : List (κ × ν)) :
    sumWhere p (first ++ second) = sumWhere p first + sumWhere p second := by
  rw [sumWhere, List.filter_append, List.map_append, List.sum_append]
  rfl

/-- What the first of some events adds, and what the others do. -/
theorem sumWhere_filterMap_cons {α : Type*} (added : α → Option (κ × ν)) (a : α) (rest : List α) :
    sumWhere p ((a :: rest).filterMap added) =
      sumWhere p (added a).toList + sumWhere p (rest.filterMap added) := by
  rw [← sumWhere_append, List.filterMap_cons]
  cases added a <;> rfl

/-- Where each amount is a multiset of one, the sum is the multiset of these amounts. -/
theorem sumWhere_singletons {κ α : Type*} {p : κ → Bool} (amounts : List (κ × α)) :
    sumWhere p (amounts.map fun amount => (amount.1, ({amount.2} : Multiset α))) =
      ((amounts.filter fun amount => p amount.1).map Prod.snd : List α) := by
  induction amounts with
  | nil => rfl
  | cons amount rest ih =>
      rw [List.map_cons, sumWhere_cons, ih]
      cases passes : p amount.1 with
      | true => simp [passes, Multiset.singleton_add]
      | false => simp [passes]

end Sums

section Aggregation

variable [AddCommMonoid ν] {p : κ → Bool}

theorem add_cons_self (rest : List (κ × ν)) {amount old : ν}
    (fresh : key ∉ rest.map Prod.fst) :
    add key amount ((key, old) :: rest) = (key, old + amount) :: rest := by
  have absent : MultiDict.popAll id key rest = rest := by
    refine List.filter_eq_self.mpr fun series member => ?_
    simpa using fun same : series.1 = key => fresh (same ▸ List.mem_map_of_mem member)
  rw [add, value, MultiDict.get?_cons, if_pos rfl, MultiDict.set, if_pos rfl, absent]
  rfl

theorem add_cons {series : κ × ν} (other : series.1 ≠ key) (amount : ν) (rest : List (κ × ν)) :
    add key amount (series :: rest) = series :: add key amount rest := by
  rw [add, value, MultiDict.get?_cons, if_neg (by exact other), MultiDict.set,
    if_neg (by exact other)]
  rfl

theorem mem_keys_add {other : κ} {amount : ν} :
    other ∈ (add key amount family).map Prod.fst ↔ other = key ∨ other ∈ family.map Prod.fst := by
  rw [← MultiDict.isSome_get?_iff, ← MultiDict.isSome_get?_iff]
  by_cases same : other = key
  · rw [same, add, MultiDict.get?_set_self]
    simp
  · rw [add, MultiDict.get?_set (by exact same), or_iff_right same]

theorem nodup_add (nodup : (family.map Prod.fst).Nodup) (amount : ν) :
    ((add key amount family).map Prod.fst).Nodup := by
  induction family with
  | nil => exact List.nodup_singleton key
  | cons series rest ih =>
      rw [List.map_cons, List.nodup_cons] at nodup
      obtain ⟨other, old⟩ := series
      by_cases same : other = key
      · subst same
        rw [add_cons_self rest nodup.1]
        exact List.nodup_cons.mpr nodup
      · rw [add_cons same, List.map_cons, List.nodup_cons, mem_keys_add]
        exact ⟨not_or.mpr ⟨same, nodup.1⟩, ih nodup.2⟩

/-- Adding to a series adds to the queries it passes. -/
theorem sumWhere_add (nodup : (family.map Prod.fst).Nodup) (amount : ν) :
    sumWhere p (add key amount family) = sumWhere p family + if p key then amount else 0 := by
  induction family with
  | nil =>
      rw [add, value, MultiDict.set, sumWhere_cons, sumWhere_nil, add_zero, zero_add]
      simp [MultiDict.get?]
  | cons series rest ih =>
      rw [List.map_cons, List.nodup_cons] at nodup
      obtain ⟨other, old⟩ := series
      by_cases same : other = key
      · subst same
        rw [add_cons_self rest nodup.1, sumWhere_cons, sumWhere_cons]
        cases p other with
        | true => simp only [if_true]; exact add_right_comm old amount _
        | false => simp
      · rw [add_cons same, sumWhere_cons, sumWhere_cons, ih nodup.2, add_assoc]

end Aggregation

/-! ### Label assignments

Labels are given by name, or as a tuple of values in the order of declared names.
-/

section Assignments

variable {ι α : Type*} [DecidableEq ι] [DecidableEq α]

/-- The labels a tuple of values stands for. -/
def assignment (names : List ι) (values : List α) : Finset (ι × α) := (names.zip values).toFinset

/-- Where the names are different, a tuple can be read off the labels it stands for. -/
theorem assignment_inj {names : List ι} (distinct : names.Nodup) {values values' : List α}
    (length : values.length = names.length) (length' : values'.length = names.length) :
    assignment names values = assignment names values' ↔ values = values' := by
  refine ⟨fun same => ?_, fun same => same ▸ rfl⟩
  refine List.ext_getElem (length.trans length'.symm) fun i hi hi' => ?_
  have here : (names[i], values[i]) ∈ assignment names values' := by
    rw [← same, assignment, List.mem_toFinset]
    exact List.mem_iff_getElem.mpr ⟨i, by simp [length ▸ hi, hi], by simp⟩
  rw [assignment, List.mem_toFinset] at here
  obtain ⟨j, bound, at_j⟩ := List.mem_iff_getElem.mp here
  rw [List.getElem_zip, Prod.mk.injEq] at at_j
  obtain rfl : j = i := (distinct.getElem_inj_iff).mp at_j.1
  exact at_j.2.symm

end Assignments

end Series
