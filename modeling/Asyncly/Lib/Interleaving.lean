import Asyncly.Lib.Runs
import Mathlib.Algebra.BigOperators.Group.Finset.Piecewise
import Mathlib.Data.Fintype.Basic

/-!
# Interleavings

The events of several parties come in one list, each with its party. What one party does is
its part of the list; a party that keeps its own state sees nothing of the others, and what
is counted over all events is counted party by party.
-/

namespace Interleaving

variable {ι α σ : Type*} [DecidableEq ι]

/-- The events of one party, in order. -/
def ofParty (i : ι) (events : List (ι × α)) : List α :=
  events.filterMap fun event => if event.1 = i then some event.2 else none

variable {i : ι} {event : ι × α} {events : List (ι × α)}

@[simp] theorem ofParty_nil : ofParty i ([] : List (ι × α)) = [] := rfl

theorem ofParty_cons_self (a : α) : ofParty i ((i, a) :: events) = a :: ofParty i events :=
  List.filterMap_cons_some (if_pos rfl)

theorem ofParty_cons (other : event.1 ≠ i) : ofParty i (event :: events) = ofParty i events :=
  List.filterMap_cons_none (if_neg other)

theorem ofParty_append (first second : List (ι × α)) :
    ofParty i (first ++ second) = ofParty i first ++ ofParty i second :=
  List.filterMap_append

/-- Events are counted party by party. -/
theorem countP_eq_sum [Fintype ι] (p : ι → α → Bool) (events : List (ι × α)) :
    events.countP (fun event => p event.1 event.2) =
      ∑ i, (ofParty i events).countP (p i) := by
  induction events with
  | nil => simp
  | cons event rest ih =>
      obtain ⟨j, a⟩ := event
      have each (i : ι) : (ofParty i ((j, a) :: rest)).countP (p i) =
          (ofParty i rest).countP (p i) + if i = j then (if p j a then 1 else 0) else 0 := by
        by_cases same : j = i
        · subst same
          rw [ofParty_cons_self, List.countP_cons, if_pos rfl]
        · rw [ofParty_cons same, if_neg (Ne.symm same), Nat.add_zero]
      rw [List.countP_cons, ih, Finset.sum_congr rfl fun i _ => each i, Finset.sum_add_distrib,
        Finset.sum_ite_eq' Finset.univ j fun _ => if p j a then 1 else 0,
        if_pos (Finset.mem_univ j)]

/-- So is what is seen of the events. -/
theorem countP_filterMap_eq_sum [Fintype ι] {β : Type*} (view : α → Option β) (p : β → Bool)
    (events : List (ι × α)) :
    (events.filterMap fun event => view event.2).countP p =
      ∑ i, ((ofParty i events).filterMap view).countP p := by
  rw [List.countP_filterMap, countP_eq_sum fun _ a => ((view a).map p).getD false]
  exact Finset.sum_congr rfl fun i _ => List.countP_filterMap.symm

theorem ofParty_map_self (l : List α) : ofParty i (l.map (Prod.mk i)) = l := by
  induction l with
  | nil => rfl
  | cons a rest ih => rw [List.map_cons, ofParty_cons_self, ih]

theorem ofParty_map {j : ι} (other : j ≠ i) (l : List α) : ofParty i (l.map (Prod.mk j)) = [] := by
  induction l with
  | nil => rfl
  | cons a rest ih => rw [List.map_cons, ofParty_cons (by exact other), ih]

end Interleaving
