import Mathlib.Data.List.Basic

/-!
# The first item that passes a test

A loop that stops at the first item passing a test, where the test may fail to give an
answer. The failure of one test ends the loop, so what the loop finds is compared with
what it would find if every test had answered: they agree exactly when the tests the
loop comes to do answer.
-/

namespace Search

variable {α ε : Type*}

/-- The first item that passes the test. -/
def search (test : α → Except ε Bool) : List α → Except ε (Option α)
  | [] => .ok none
  | a :: rest =>
      match test a with
      | .error e => .error e
      | .ok true => .ok (some a)
      | .ok false => search test rest

/-- The loop comes to an item when no item before it is accepted. -/
def Reached (accepts : α → Bool) (items : List α) (a : α) : Prop :=
  ∃ before after, items = before ++ a :: after ∧ ∀ b ∈ before, accepts b = false

variable {test : α → Except ε Bool} {accepts : α → Bool} {items : List α} {a : α}

theorem Reached.mem (reached : Reached accepts items a) : a ∈ items := by
  obtain ⟨before, after, rfl, -⟩ := reached
  exact List.mem_append_right before (List.mem_cons_self ..)

theorem Reached.first (accepts : α → Bool) (a : α) (rest : List α) :
    Reached accepts (a :: rest) a := ⟨[], rest, rfl, by simp⟩

theorem Reached.later {rest : List α} {b : α} (rejected : accepts a = false)
    (reached : Reached accepts rest b) : Reached accepts (a :: rest) b := by
  obtain ⟨before, after, rfl, none⟩ := reached
  exact ⟨a :: before, after, rfl, List.forall_mem_cons.mpr ⟨rejected, none⟩⟩

theorem reached_cons {rest : List α} {b : α} (reached : Reached accepts (a :: rest) b) :
    b = a ∨ accepts a = false ∧ Reached accepts rest b := by
  obtain ⟨before, after, split, none⟩ := reached
  cases before with
  | nil => exact .inl (List.cons.inj split).1.symm
  | cons c before =>
      obtain ⟨rfl, rfl⟩ := List.cons.inj split
      obtain ⟨rejected, none⟩ := List.forall_mem_cons.mp none
      exact .inr ⟨rejected, before, after, rfl, none⟩

/-- What the loop finds passes the test. -/
theorem test_of_search (found : search test items = .ok (some a)) : test a = .ok true := by
  induction items with
  | nil => cases found
  | cons b rest ih =>
      rw [search] at found
      cases tested : test b with
      | error e => rw [tested] at found; cases found
      | ok passed =>
          rw [tested] at found
          cases passed with
          | true => exact Option.some.inj (Except.ok.inj found) ▸ tested
          | false => exact ih found

section Answers

variable (answers : ∀ a ∈ items, ∀ b, test a = .ok b → b = accepts a)

include answers

/-- The loop finds the first accepted item exactly when every test it comes to answers. -/
theorem search_eq_find?_iff :
    search test items = .ok (items.find? accepts) ↔
      ∀ a, Reached accepts items a → test a = .ok (accepts a) := by
  induction items with
  | nil => exact iff_of_true rfl fun a reached => by cases reached.mem
  | cons a rest ih =>
      have ih := ih fun b hb => answers b (List.mem_cons_of_mem a hb)
      have answer := answers a (List.mem_cons_self ..)
      have first := Reached.first accepts a rest
      rw [search]
      cases tested : test a with
      | error e =>
          apply iff_of_false (by simp)
          intro all
          rw [all a first] at tested
          cases tested
      | ok passed =>
          obtain rfl := answer passed tested
          cases accepted : accepts a with
          | true =>
              refine iff_of_true (by rw [List.find?_cons_of_pos accepted]) fun b reached => ?_
              rcases reached_cons reached with rfl | ⟨rejected, -⟩
              · exact tested
              · rw [accepted] at rejected
                cases rejected
          | false =>
              rw [List.find?_cons_of_neg (by simp [accepted])]
              refine ih.trans ⟨fun all b reached => ?_, fun all b reached => ?_⟩
              · rcases reached_cons reached with rfl | ⟨-, later⟩
                · exact tested
                · exact all b later
              · exact all b (reached.later accepted)

end Answers

end Search
