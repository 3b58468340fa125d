import Mathlib.Algebra.Order.BigOperators.Group.List
import Mathlib.Algebra.Order.Ring.Nat
import Mathlib.Data.List.Forall2
import Mathlib.Data.List.Nodup

/-!
# Runs of a deterministic system

A system is a total step function `step : σ → α → σ`; an interleaving of the
actions of its parties is a list of actions, and an action that is not enabled
leaves the state as it is. Two judgements about a run are kept apart: what holds
in every state it passes through, and what holds of every step it takes. The
main rule says when the two are the same thing.
-/

namespace Runs

variable {σ α : Type*} (step : σ → α → σ)

/-- The state after a list of actions. -/
def run (s : σ) (actions : List α) : σ := actions.foldl step s

/-- `P` holds in every state of the run, the first and the last included. -/
def Always (P : σ → Prop) : σ → List α → Prop
  | s, [] => P s
  | s, a :: rest => P s ∧ Always P (step s a) rest

/-- Every step of the run meets `Q` in the state it is taken in. -/
def EveryStep (Q : σ → α → Prop) : σ → List α → Prop
  | _, [] => True
  | s, a :: rest => Q s a ∧ EveryStep Q (step s a) rest

variable {step} {P : σ → Prop} {Q : σ → α → Prop} {s : σ} {actions : List α}

/-- An invariant of single steps is an invariant of runs. -/
theorem run_invariant {I : σ → Prop} (preserved : ∀ s a, I s → I (step s a)) (start : I s)
    (actions : List α) : I (run step s actions) := by
  induction actions generalizing s with
  | nil => exact start
  | cons a rest ih => exact ih (preserved s a start)

/-- Two systems that stay related by single steps stay related by runs. -/
theorem run_simulation {τ : Type*} {step' : τ → α → τ} {r : σ → τ → Prop} {t : τ}
    (preserved : ∀ s t, ∀ a ∈ actions, r s t → r (step s a) (step' t a)) (start : r s t) :
    r (run step s actions) (run step' t actions) := by
  induction actions generalizing s t with
  | nil => exact start
  | cons a rest ih =>
      exact ih (fun s t b later => preserved s t b (List.mem_cons_of_mem a later))
        (preserved s t a (List.mem_cons_self ..) start)

/-- The same where the steps meet a condition. -/
theorem EveryStep.run_simulation {τ : Type*} {step' : τ → α → τ} {r : σ → τ → Prop} {t : τ}
    (every : EveryStep step Q s actions)
    (preserved : ∀ s t a, r s t → Q s a → r (step s a) (step' t a)) (start : r s t) :
    r (run step s actions) (run step' t actions) := by
  induction actions generalizing s t with
  | nil => exact start
  | cons a rest ih => exact ih every.2 (preserved s t a start every.1)

/-- An invariant of the steps that meet a condition is one of the runs of such steps. -/
theorem EveryStep.run_invariant {I : σ → Prop} (every : EveryStep step Q s actions)
    (preserved : ∀ s a, I s → Q s a → I (step s a)) (start : I s) :
    I (run step s actions) := by
  induction actions generalizing s with
  | nil => exact start
  | cons a rest ih => exact ih every.2 (preserved s a start every.1)

theorem EveryStep.mono {Q' : σ → α → Prop} (every : EveryStep step Q s actions)
    (weaken : ∀ s a, Q s a → Q' s a) : EveryStep step Q' s actions := by
  induction actions generalizing s with
  | nil => trivial
  | cons a rest ih => exact ⟨weaken s a every.1, ih every.2⟩

theorem everyStep_of_forall (all : ∀ s a, Q s a) (s : σ) (actions : List α) :
    EveryStep step Q s actions := by
  induction actions generalizing s with
  | nil => trivial
  | cons a rest ih => exact ⟨all s a, ih _⟩

theorem run_append (s : σ) (first second : List α) :
    run step s (first ++ second) = run step (run step s first) second :=
  List.foldl_append

/-- Where each step of a system is a few steps of one of its parts, a run of the system is a
run of the part. -/
theorem exists_run_part {τ β : Type*} {part : τ → β → τ} {view : σ → τ}
    (steps : ∀ s a, ∃ own, view (step s a) = run part (view s) own) (s : σ) (actions : List α) :
    ∃ own, view (run step s actions) = run part (view s) own := by
  induction actions generalizing s with
  | nil => exact ⟨[], rfl⟩
  | cons a rest ih =>
      obtain ⟨first, here⟩ := steps s a
      obtain ⟨later, there⟩ := ih (step s a)
      refine ⟨first ++ later, ?_⟩
      rw [run_append, ← here]
      exact there

theorem Always.first (h : Always step P s actions) : P s := by
  cases actions with
  | nil => exact h
  | cons a rest => exact h.1

/-- Where each step keeps `P` exactly when it meets `Q`, a run stays in `P`
exactly when all its steps meet `Q`. The invariant `I` holds unconditionally
and may be used to judge a step. -/
theorem always_iff_everyStep {I : σ → Prop} (preserved : ∀ s a, I s → I (step s a))
    (exact_step : ∀ s a, I s → P s → (P (step s a) ↔ Q s a)) (start : I s) (holds : P s) :
    Always step P s actions ↔ EveryStep step Q s actions := by
  induction actions generalizing s with
  | nil => exact ⟨fun _ => trivial, fun _ => holds⟩
  | cons a rest ih =>
      constructor
      · rintro ⟨-, later⟩
        have next := later.first
        exact ⟨(exact_step s a start holds).mp next, (ih (preserved s a start) next).mp later⟩
      · rintro ⟨good, later⟩
        have next := (exact_step s a start holds).mpr good
        exact ⟨holds, (ih (preserved s a start) next).mpr later⟩

/-- Under an invariant, judgements that agree on its states agree on runs. -/
theorem always_congr {P' I : σ → Prop} (preserved : ∀ s a, I s → I (step s a))
    (same : ∀ s, I s → (P s ↔ P' s)) (start : I s) :
    Always step P s actions ↔ Always step P' s actions := by
  induction actions generalizing s with
  | nil => exact same s start
  | cons a rest ih => exact and_congr (same s start) (ih (preserved s a start))

/-! ### Systems of parties

Where a state is a list of parties, an action adds a party or lets one of them move.
-/

section Parties

variable {π : Type*} {parties : List π}

/-- A move of one party is judged by that party alone. -/
theorem forall_mem_modify_iff {R : π → Prop} {move : π → π} {i : Nat}
    (h : ∀ p ∈ parties, R p) :
    (∀ p ∈ parties.modify i move, R p) ↔ ∀ p, parties[i]? = some p → R (move p) := by
  constructor
  · intro moved p at_i
    refine moved _ (List.mem_of_getElem? (i := i) ?_)
    rw [List.getElem?_modify_eq, at_i]
    rfl
  · intro good p member
    obtain ⟨j, at_j⟩ := List.mem_iff_getElem?.mp member
    by_cases same : i = j
    · subst same
      rw [List.getElem?_modify_eq] at at_j
      obtain ⟨q, at_i, rfl⟩ := Option.map_eq_some_iff.mp at_j
      exact good q at_i
    · rw [List.getElem?_modify_ne _ _ same] at at_j
      exact h p (List.mem_of_getElem? at_j)

/-- A move that keeps what is seen of its party keeps what is seen of all. -/
theorem map_modify {ρ : Type*} {view : π → ρ} {move : π → π}
    (kept : ∀ p, view (move p) = view p) (i : ℕ) :
    (parties.modify i move).map view = parties.map view := by
  induction parties generalizing i with
  | nil => rw [List.modify_nil]
  | cons party rest ih =>
      cases i with
      | zero => rw [List.modify_zero_cons, List.map_cons, List.map_cons, kept]
      | succ i => rw [List.modify_succ_cons, List.map_cons, List.map_cons, ih]

/-- A party that does not move. -/
theorem modify_of_fixed {move : π → π} {i : ℕ}
    (fixed : ∀ p, parties[i]? = some p → move p = p) : parties.modify i move = parties := by
  refine List.ext_getElem? fun j => ?_
  by_cases same : i = j
  · subst same
    rw [List.getElem?_modify_eq]
    cases at_i : parties[i]? with
    | none => rfl
    | some p => exact congrArg some (fixed p at_i)
  · rw [List.getElem?_modify_ne _ _ same]

/-- Parties that are related one by one stay so when the two of a number move. -/
theorem forall₂_modify {ρ : Type*} {others : List ρ} {R : π → ρ → Prop} {move : π → π}
    {move' : ρ → ρ} {i : ℕ} (related : List.Forall₂ R parties others)
    (moved : ∀ p q, parties[i]? = some p → others[i]? = some q → R p q → R (move p) (move' q)) :
    List.Forall₂ R (parties.modify i move) (others.modify i move') := by
  induction related generalizing i with
  | nil =>
      rw [List.modify_nil, List.modify_nil]
      exact .nil
  | cons here _ ih =>
      cases i with
      | zero => exact .cons (moved _ _ rfl rfl here) (by assumption)
      | succ i => exact .cons here (ih moved)

theorem countP_eq_sum (p : π → Bool) :
    parties.countP p = (parties.map fun party => if p party then 1 else 0).sum := by
  induction parties with
  | nil => rfl
  | cons party rest ih => rw [List.countP_cons, ih, List.map_cons, List.sum_cons, Nat.add_comm]

/-- Sums over the parties are equal exactly when each contribution is, where one side is
never less than the other. -/
theorem sum_map_eq_iff {f g : π → Nat} (le : ∀ p ∈ parties, g p ≤ f p) :
    (parties.map f).sum = (parties.map g).sum ↔ ∀ p ∈ parties, f p = g p := by
  induction parties with
  | nil => simp
  | cons p rest ih =>
      have first := le p (by simp)
      have others : (rest.map g).sum ≤ (rest.map f).sum :=
        List.sum_le_sum fun q hq => le q (by simp [hq])
      rw [List.forall_mem_cons, ← ih fun q hq => le q (by simp [hq]), List.map_cons,
        List.map_cons, List.sum_cons, List.sum_cons]
      omega

/-! ### A log kept by the parties -/

variable {ρ : Type*}

/-- Each party that has an entry has it in the log exactly once, and nothing else is
there. The parties are numbered; `order` is who wrote when. -/
def LoggedOnce (entry : ℕ → Option ρ) (log : List ρ) : Prop :=
  ∃ order : List ℕ, order.Nodup ∧ (∀ i, i ∈ order ↔ (entry i).isSome = true) ∧
    log.map some = order.map entry

theorem LoggedOnce.nil {entry : ℕ → Option ρ} (none : ∀ i, entry i = none) :
    LoggedOnce entry [] := ⟨[], List.nodup_nil, by simp [none], rfl⟩

/-- What is in the log is the entry of some party. -/
theorem LoggedOnce.exists_of_mem {entry : ℕ → Option ρ} {log : List ρ} {r : ρ}
    (h : LoggedOnce entry log) (member : r ∈ log) : ∃ i, entry i = some r := by
  obtain ⟨order, -, -, same⟩ := h
  have listed : some r ∈ order.map entry := same ▸ List.mem_map_of_mem member
  obtain ⟨i, -, written⟩ := List.mem_map.mp listed
  exact ⟨i, written⟩

/-- A party without an entry writes one. -/
theorem LoggedOnce.append {entry entry' : ℕ → Option ρ} {log : List ρ} {i : ℕ} {r : ρ}
    (h : LoggedOnce entry log) (fresh : entry i = none) (written : entry' i = some r)
    (others : ∀ j, j ≠ i → entry' j = entry j) : LoggedOnce entry' (log ++ [r]) := by
  obtain ⟨order, nodup, complete, same⟩ := h
  have new : i ∉ order := by simp [complete, fresh]
  refine ⟨order ++ [i], ?_, ?_, ?_⟩
  · refine List.nodup_append.mpr ⟨nodup, List.nodup_singleton i, fun j hj k hk => ?_⟩
    rw [List.mem_singleton.mp hk]
    exact ne_of_mem_of_not_mem hj new
  · intro j
    by_cases is_i : j = i
    · subst is_i
      simp [written]
    · simp [others j is_i, complete, is_i]
  · have kept : order.map entry' = order.map entry :=
      List.map_congr_left fun j hj => others j (ne_of_mem_of_not_mem hj new)
    rw [List.map_append, List.map_append, kept, same]
    simp [written]

/-- The entry of each party. -/
def entries (f : π → Option ρ) (parties : List π) (i : ℕ) : Option ρ := parties[i]?.bind f

variable {f : π → Option ρ}

theorem exists_of_entries {i : ℕ} {r : ρ} (written : entries f parties i = some r) :
    ∃ p ∈ parties, f p = some r := by
  obtain ⟨p, at_i, written⟩ := Option.bind_eq_some_iff.mp written
  exact ⟨p, List.mem_of_getElem? at_i, written⟩

theorem entries_concat {p : π} (none : f p = none) :
    entries f (parties ++ [p]) = entries f parties := by
  funext i
  rw [entries, entries, List.getElem?_append]
  split
  · rfl
  · rename_i beyond
    rw [List.getElem?_eq_none (not_lt.mp beyond)]
    cases at_i : [p][i - parties.length]? with
    | none => rfl
    | some q =>
        obtain rfl : q = p := by simpa using List.mem_of_getElem? at_i
        exact none

theorem entries_modify_ne (move : π → π) {i j : ℕ} (h : j ≠ i) :
    entries f (parties.modify i move) j = entries f parties j := by
  rw [entries, entries, List.getElem?_modify_ne _ _ (Ne.symm h)]

theorem entries_modify_eq (move : π → π) (i : ℕ) :
    entries f (parties.modify i move) i = parties[i]?.bind fun p => f (move p) := by
  rw [entries, List.getElem?_modify_eq]
  cases parties[i]? <;> rfl

/-- A move that keeps the entry of its party keeps all of them. -/
theorem entries_modify (move : π → π) {i : ℕ}
    (same : ∀ p, parties[i]? = some p → f (move p) = f p) :
    entries f (parties.modify i move) = entries f parties := by
  funext j
  by_cases is_i : j = i
  · subst is_i
    rw [entries_modify_eq, entries]
    cases at_j : parties[j]? with
    | none => rfl
    | some p => exact same p at_j
  · exact entries_modify_ne move is_i

end Parties

end Runs
