import Mathlib.Data.List.Basic
import Mathlib.Order.Basic
import Mathlib.Data.Nat.Find

/-!
# Computations that leave a trace and may raise

A `Traced ε χ α` records the effects a computation performs, in order, and ends
with a value or an exception. Effects performed before an exception stay in the
log, so `try`, `except` and `finally` can be written down as they read.

The `for` loop below has the two exits a loop body has in an imperative program:
it returns from the loop, or it raises. Its rules unroll a loop to the first
iteration that exits; they need facts about single iterations only.
-/

universe u

/-- The effects of a computation in order, and how it ended. -/
@[ext] structure Traced (ε χ α : Type u) where
  log : List ε
  result : Except χ α

namespace Traced

variable {ε χ α β : Type u}

/-- Sequencing stops at the first exception and keeps what was done before it. -/
protected def bind (m : Traced ε χ α) (f : α → Traced ε χ β) : Traced ε χ β :=
  match m.result with
  | .ok a => ⟨m.log ++ (f a).log, (f a).result⟩
  | .error x => ⟨m.log, .error x⟩

instance : Monad (Traced ε χ) where
  pure a := ⟨[], .ok a⟩
  bind := Traced.bind

/-- Perform one effect. -/
def emit (e : ε) : Traced ε χ PUnit.{u + 1} := ⟨[e], .ok ⟨⟩⟩

def raise (x : χ) : Traced ε χ α := ⟨[], .error x⟩

/-- A step without effects of its own, whose result is already known. -/
def ofExcept (r : Except χ α) : Traced ε χ α := ⟨[], r⟩

/-- `try` with an `except` clause for the exceptions in `caught`: those become a
value, all others still propagate. -/
def catching (caught : χ → Bool) (m : Traced ε χ α) : Traced ε χ (Except χ α) :=
  match m.result with
  | .ok a => ⟨m.log, .ok (.ok a)⟩
  | .error x => if caught x then ⟨m.log, .ok (.error x)⟩ else ⟨m.log, .error x⟩

/-- Run a computation to its end, whatever that is, and hand its log and its end
to what follows. A `finally` clause is what follows a `listen`. -/
def listen (m : Traced ε χ α) : Traced ε χ (List ε × Except χ α) :=
  ⟨m.log, .ok (m.log, m.result)⟩

theorem pure_def (a : α) : (pure a : Traced ε χ α) = ⟨[], .ok a⟩ := rfl

@[simp] theorem pure_log (a : α) : (pure a : Traced ε χ α).log = [] := rfl

@[simp] theorem pure_result (a : α) : (pure a : Traced ε χ α).result = .ok a := rfl

@[simp] theorem emit_log (e : ε) : (emit e : Traced ε χ PUnit).log = [e] := rfl

@[simp] theorem emit_result (e : ε) : (emit e : Traced ε χ PUnit).result = .ok ⟨⟩ := rfl

@[simp] theorem raise_log (x : χ) : (raise x : Traced ε χ α).log = [] := rfl

@[simp] theorem raise_result (x : χ) : (raise x : Traced ε χ α).result = .error x := rfl

@[simp] theorem ofExcept_log (r : Except χ α) : (ofExcept r : Traced ε χ α).log = [] := rfl

@[simp] theorem ofExcept_result (r : Except χ α) :
    (ofExcept r : Traced ε χ α).result = r := rfl

@[simp] theorem listen_log (m : Traced ε χ α) : m.listen.log = m.log := rfl

@[simp] theorem listen_result (m : Traced ε χ α) :
    m.listen.result = .ok (m.log, m.result) := rfl

theorem bind_of_ok {m : Traced ε χ α} {a : α} (f : α → Traced ε χ β) (h : m.result = .ok a) :
    m >>= f = ⟨m.log ++ (f a).log, (f a).result⟩ := by
  change Traced.bind m f = _
  simp only [Traced.bind, h]

theorem bind_of_error {m : Traced ε χ α} {x : χ} (f : α → Traced ε χ β)
    (h : m.result = .error x) : m >>= f = ⟨m.log, .error x⟩ := by
  change Traced.bind m f = _
  simp only [Traced.bind, h]

theorem bind_result_eq_error {m : Traced ε χ α} {f : α → Traced ε χ β} {x : χ} :
    (m >>= f).result = .error x ↔
      m.result = .error x ∨ ∃ a, m.result = .ok a ∧ (f a).result = .error x := by
  cases h : m.result with
  | error y =>
      rw [bind_of_error f h]
      simp
  | ok a =>
      rw [bind_of_ok f h]
      simp

@[simp] theorem mk_ok_bind (log : List ε) (a : α) (f : α → Traced ε χ β) :
    ((⟨log, .ok a⟩ : Traced ε χ α) >>= f) = ⟨log ++ (f a).log, (f a).result⟩ := rfl

@[simp] theorem mk_error_bind (log : List ε) (x : χ) (f : α → Traced ε χ β) :
    ((⟨log, .error x⟩ : Traced ε χ α) >>= f) = ⟨log, .error x⟩ := rfl

@[simp] theorem emit_bind (e : ε) (f : PUnit → Traced ε χ β) :
    (emit e >>= f) = ⟨e :: (f ⟨⟩).log, (f ⟨⟩).result⟩ := rfl

@[simp] theorem raise_bind (x : χ) (f : α → Traced ε χ β) :
    (raise x >>= f) = (raise x : Traced ε χ β) := rfl

@[simp] theorem ofExcept_ok_bind (a : α) (f : α → Traced ε χ β) :
    (ofExcept (.ok a) >>= f) = f a := rfl

@[simp] theorem ofExcept_error_bind (x : χ) (f : α → Traced ε χ β) :
    (ofExcept (.error x) >>= f) = (raise x : Traced ε χ β) := rfl

@[simp] theorem listen_bind (m : Traced ε χ α) (f : List ε × Except χ α → Traced ε χ β) :
    (m.listen >>= f) = ⟨m.log ++ (f (m.log, m.result)).log, (f (m.log, m.result)).result⟩ := rfl

@[simp] theorem map_eq (f : α → β) (m : Traced ε χ α) :
    f <$> m = ⟨m.log, m.result.map f⟩ := by
  change (m >>= fun a => pure (f a)) = _
  rcases h : m.result with x | a
  · exact bind_of_error _ h
  · simpa [Except.map] using bind_of_ok (fun a => pure (f a)) h

theorem catching_of_ok {caught : χ → Bool} {m : Traced ε χ α} {a : α}
    (h : m.result = .ok a) : m.catching caught = ⟨m.log, .ok (.ok a)⟩ := by
  simp only [catching, h]

theorem catching_of_caught {caught : χ → Bool} {m : Traced ε χ α} {x : χ}
    (h : m.result = .error x) (hx : caught x = true) :
    m.catching caught = ⟨m.log, .ok (.error x)⟩ := by
  simp only [catching, h, hx, if_true]

theorem catching_of_uncaught {caught : χ → Bool} {m : Traced ε χ α} {x : χ}
    (h : m.result = .error x) (hx : caught x = false) :
    m.catching caught = ⟨m.log, .error x⟩ := by
  simp only [catching, h, hx, Bool.false_eq_true, if_false]

instance : LawfulMonad (Traced ε χ) := LawfulMonad.mk' (Traced ε χ)
  (by
    rintro α ⟨log, result⟩
    change Traced.bind _ _ = _
    cases result <;> simp [Traced.bind])
  (by intros; rfl)
  (by
    rintro α β γ ⟨log, result⟩ f g
    cases result with
    | error x => rfl
    | ok a =>
        rw [mk_ok_bind, mk_ok_bind]
        rcases h : (f a).result with x | b
        · rw [bind_of_error g h, bind_of_error g rfl]
        · rw [bind_of_ok g h, bind_of_ok g rfl, List.append_assoc])

/-- A caught computation keeps its log, and what follows comes after it. -/
theorem catching_bind_log (caught : χ → Bool) (m : Traced ε χ α)
    (f : Except χ α → Traced ε χ β) :
    (m.catching caught >>= f).log = m.log ∨
      ∃ r, (m.catching caught >>= f).log = m.log ++ (f r).log := by
  cases h : m.result with
  | ok a =>
      rw [catching_of_ok h]
      exact .inr ⟨.ok a, rfl⟩
  | error x =>
      cases hx : caught x with
      | true =>
          rw [catching_of_caught h hx]
          exact .inr ⟨.error x, rfl⟩
      | false =>
          rw [catching_of_uncaught h hx]
          exact .inl rfl

/-! ### Effects of one kind -/

section Only

variable {P : ε → Prop}

/-- Every effect of the computation satisfies `P`. -/
def Only (P : ε → Prop) (m : Traced ε χ α) : Prop := ∀ e ∈ m.log, P e

theorem only_pure (a : α) : Only P (pure a : Traced ε χ α) := by simp [Only]

theorem only_raise (x : χ) : Only P (raise x : Traced ε χ α) := by simp [Only]

theorem only_ofExcept (r : Except χ α) : Only P (ofExcept r : Traced ε χ α) := by simp [Only]

theorem only_emit {e : ε} (h : P e) : Only P (emit e : Traced ε χ PUnit) := by simpa [Only] using h

theorem only_bind {m : Traced ε χ α} {f : α → Traced ε χ β} (hm : Only P m)
    (hf : ∀ a, Only P (f a)) : Only P (m >>= f) := by
  cases h : m.result with
  | error x =>
      rw [bind_of_error f h]
      exact hm
  | ok a =>
      rw [bind_of_ok f h]
      intro e he
      exact (List.mem_append.mp he).elim (hm e) (hf a e)

/-- A projection that sees no effect of the kind sees nothing. -/
theorem Only.filterMap_eq_nil {γ : Type*} {m : Traced ε χ α} (h : Only P m) {p : ε → Option γ}
    (blind : ∀ e, P e → p e = none) : m.log.filterMap p = [] :=
  List.filterMap_eq_nil_iff.mpr fun e he => blind e (h e he)

end Only

/-! ### The `for` loop -/

section Loop

variable {ι : Type*} {body : ι → Traced ε χ (Option α)} {exhausted : Traced ε χ α}

/-- `for` over `items`: an iteration returning `some a` returns `a` from the
loop, one returning `none` continues, and one that raises ends the loop.
`exhausted` is what follows the loop. -/
def forLoop (body : ι → Traced ε χ (Option α)) (exhausted : Traced ε χ α) :
    List ι → Traced ε χ α
  | [] => exhausted
  | i :: rest => do
      match ← body i with
      | some a => pure a
      | none => forLoop body exhausted rest

/-- How an iteration leaves the loop, or `none` when the loop goes on after it. -/
def exit? (m : Traced ε χ (Option α)) : Option (Except χ α) :=
  match m.result with
  | .ok none => none
  | .ok (some a) => some (.ok a)
  | .error x => some (.error x)

theorem exit?_eq_some_error {m : Traced ε χ (Option α)} {x : χ} :
    m.exit? = some (.error x) ↔ m.result = .error x := by
  rcases h : m.result with y | _ | a
  · simp [exit?, h]
  · simp [exit?, h]
  · simp [exit?, h]

/-- A loop goes on after a sequence only when it goes on after its last part. -/
theorem exit?_bind_eq_none {m : Traced ε χ β} {f : β → Traced ε χ (Option α)} :
    (m >>= f).exit? = none ↔ ∃ b, m.result = .ok b ∧ (f b).exit? = none := by
  cases h : m.result with
  | error x =>
      rw [bind_of_error f h]
      simp [exit?]
  | ok b =>
      rw [bind_of_ok f h]
      simp [exit?]

@[simp] theorem forLoop_nil : forLoop body exhausted [] = exhausted := rfl

theorem forLoop_cons_of_continue {i : ι} {rest : List ι} (h : (body i).exit? = none) :
    forLoop body exhausted (i :: rest) =
      ⟨(body i).log ++ (forLoop body exhausted rest).log,
        (forLoop body exhausted rest).result⟩ := by
  rcases hr : (body i).result with x | _ | a
  · simp [exit?, hr] at h
  · exact bind_of_ok _ hr
  · simp [exit?, hr] at h

theorem forLoop_cons_of_exit {i : ι} {rest : List ι} {r : Except χ α}
    (h : (body i).exit? = some r) :
    forLoop body exhausted (i :: rest) = ⟨(body i).log, r⟩ := by
  rcases hr : (body i).result with x | _ | a
  · obtain rfl : .error x = r := by simpa [exit?, hr] using h
    exact bind_of_error _ hr
  · simp [exit?, hr] at h
  · obtain rfl : .ok a = r := by simpa [exit?, hr] using h
    exact (bind_of_ok _ hr).trans (by simp)

/-- A loop is its iterations up to the first one that leaves it. -/
theorem forLoop_of_exit {before after : List ι} {i : ι} {r : Except χ α}
    (continues : ∀ j ∈ before, (body j).exit? = none) (leaves : (body i).exit? = some r) :
    forLoop body exhausted (before ++ i :: after) =
      ⟨before.flatMap (fun j => (body j).log) ++ (body i).log, r⟩ := by
  induction before with
  | nil => simpa using forLoop_cons_of_exit leaves
  | cons j before ih =>
      rw [List.cons_append, forLoop_cons_of_continue (continues j (by simp)),
        ih (fun k hk => continues k (by simp [hk]))]
      simp

end Loop

/-- The numbers `1, …, n` around one of them. -/
theorem range'_split {n k : Nat} (h₁ : 1 ≤ k) (h₂ : k ≤ n) :
    List.range' 1 n = List.range' 1 (k - 1) ++ k :: List.range' (k + 1) (n - k) := by
  have hk : 1 + (k - 1) = k := by omega
  have hn : n = (k - 1) + (n - k + 1) := by omega
  conv_lhs => rw [hn, ← List.range'_append_1, hk, List.range'_succ]

theorem flatMap_eq_map {ι γ : Type*} {f : ι → List γ} {g : ι → γ} {items : List ι}
    (h : ∀ i ∈ items, f i = [g i]) : items.flatMap f = items.map g := by
  induction items with
  | nil => rfl
  | cons i rest ih =>
      rw [List.flatMap_cons, h i (by simp), ih fun j hj => h j (by simp [hj])]
      rfl

theorem forall₂_flatMap {ι γ : Type*} {R : ι → γ → Prop} {f : ι → List γ}
    {items : List ι} (h : ∀ a ∈ items, ∃ b, f a = [b] ∧ R a b) :
    List.Forall₂ R items (items.flatMap f) := by
  induction items with
  | nil => exact .nil
  | cons a rest ih =>
      obtain ⟨b, single, related⟩ := h a (List.mem_cons_self ..)
      rw [List.flatMap_cons, single]
      exact .cons related (ih fun c hc => h c (List.mem_cons_of_mem a hc))

/-- A loop over `1, …, n` whose first iteration to leave it is the `k`-th. -/
theorem forLoop_range'_of_exit {body : Nat → Traced ε χ (Option α)}
    {exhausted : Traced ε χ α} {n k : Nat} {r : Except χ α} (h₁ : 1 ≤ k) (h₂ : k ≤ n)
    (continues : ∀ j, 1 ≤ j → j < k → (body j).exit? = none)
    (leaves : (body k).exit? = some r) :
    forLoop body exhausted (List.range' 1 n) =
      ⟨(List.range' 1 k).flatMap (fun j => (body j).log), r⟩ := by
  rw [range'_split h₁ h₂, forLoop_of_exit (fun j hj => ?_) leaves]
  · rw [range'_split h₁ (Nat.le_refl k)]
    simp
  · rw [List.mem_range'_1] at hj
    exact continues j hj.1 (by omega)

/-- The least number from `1` to `n` with a property that one of them has. -/
theorem exists_least {p : Nat → Prop} {n : Nat} (h : ∃ k, 1 ≤ k ∧ k ≤ n ∧ p k) :
    ∃ k, 1 ≤ k ∧ k ≤ n ∧ p k ∧ ∀ j, 1 ≤ j → j < k → ¬ p j := by
  classical
  have found : ∃ k, 1 ≤ k ∧ p k := h.imp fun _ hk => ⟨hk.1, hk.2.2⟩
  obtain ⟨k₀, h₁, h₂, hp⟩ := h
  refine ⟨Nat.find found, (Nat.find_spec found).1,
    (Nat.find_min' found ⟨h₁, hp⟩).trans h₂, (Nat.find_spec found).2, ?_⟩
  intro j hj hlt hpj
  exact Nat.find_min found hlt ⟨hj, hpj⟩

/-- Whatever its iterations do, a loop over `1, …, n` is some of its first iterations, and all
but the last of them go on. -/
theorem forLoop_range'_log_of_continues (body : Nat → Traced ε χ (Option α))
    {exhausted : Traced ε χ α} {n : Nat} (positive : 1 ≤ n) (quiet : exhausted.log = []) :
    ∃ k, 1 ≤ k ∧ k ≤ n ∧ (∀ j, 1 ≤ j → j < k → (body j).exit? = none) ∧
      (forLoop body exhausted (List.range' 1 n)).log =
        (List.range' 1 k).flatMap fun j => (body j).log := by
  by_cases leaves : ∃ k, 1 ≤ k ∧ k ≤ n ∧ (body k).exit? ≠ none
  · obtain ⟨k, h₁, h₂, exits, first⟩ := exists_least leaves
    obtain ⟨r, hr⟩ := Option.ne_none_iff_exists'.mp exits
    have continues : ∀ j, 1 ≤ j → j < k → (body j).exit? = none := fun j hj lt => by
      simpa using first j hj lt
    refine ⟨k, h₁, h₂, continues, ?_⟩
    rw [forLoop_range'_of_exit h₁ h₂ continues hr]
  · have never : ∀ j, 1 ≤ j → j ≤ n → (body j).exit? = none := fun j h₁ h₂ => by
      by_contra exits
      exact leaves ⟨j, h₁, h₂, exits⟩
    refine ⟨n, positive, Nat.le_refl n, fun j hj lt => never j hj lt.le, ?_⟩
    have through (items : List Nat) (h : ∀ j ∈ items, (body j).exit? = none) :
        (forLoop body exhausted items).log = items.flatMap fun j => (body j).log := by
      induction items with
      | nil => exact quiet
      | cons i rest ih =>
          rw [forLoop_cons_of_continue (h i (by simp)), ih fun j hj => h j (by simp [hj])]
          rfl
    apply through _
    intro j hj
    rw [List.mem_range'_1] at hj
    exact never j hj.1 (by omega)

theorem forLoop_range'_log {body : Nat → Traced ε χ (Option α)} {exhausted : Traced ε χ α}
    {n : Nat} (positive : 1 ≤ n) (quiet : exhausted.log = []) :
    ∃ k, 1 ≤ k ∧ k ≤ n ∧ (forLoop body exhausted (List.range' 1 n)).log =
      (List.range' 1 k).flatMap fun j => (body j).log := by
  obtain ⟨k, h₁, h₂, -, log⟩ := forLoop_range'_log_of_continues body positive quiet
  exact ⟨k, h₁, h₂, log⟩

/-! ### Each effect in its place -/

section Each

variable {P : List ε → ε → Prop} {first second : List ε}

/-- Every effect of a log satisfies `P` together with the effects before it. -/
def Each (P : List ε → ε → Prop) (log : List ε) : Prop :=
  ∀ before e after, log = before ++ e :: after → P before e

theorem each_nil : Each P ([] : List ε) := fun before _ _ split => by
  cases before <;> cases split

theorem each_append : Each P (first ++ second) ↔
    Each P first ∧ Each (fun before e => P (first ++ before) e) second := by
  constructor
  · intro each
    refine ⟨fun before e after split => each before e (after ++ second) ?_,
      fun before e after split => each (first ++ before) e after ?_⟩
    · rw [split, List.append_assoc]
      rfl
    · rw [split, List.append_assoc]
  · rintro ⟨here, there⟩ before e after split
    obtain ⟨later, rfl, rest⟩ | ⟨earlier, rfl, rest⟩ := List.append_eq_append_iff.mp split
    · exact there later e after rest
    · cases earlier with
      | nil =>
          have late := there [] e after rest.symm
          rwa [List.append_nil, List.append_nil] at late
      | cons e' earlier =>
          obtain ⟨rfl, rfl⟩ := List.cons.inj rest
          exact here before e earlier rfl

theorem each_singleton {e : ε} : Each P [e] ↔ P [] e := by
  constructor
  · intro each
    exact each [] e [] rfl
  · intro holds before e' after split
    obtain ⟨rfl, single⟩ | ⟨later, rfl, rest⟩ := List.cons_eq_append_iff.mp split
    · obtain ⟨rfl, -⟩ := List.cons.inj single
      exact holds
    · cases later <;> cases rest

/-- What a projection sees in some place of a log, with as much seen before it. -/
theorem exists_of_filterMap_getElem? {γ : Type*} {p : ε → Option γ} {log : List ε} {n : Nat}
    {c : γ} (seen : (log.filterMap p)[n]? = some c) :
    ∃ before e after, log = before ++ e :: after ∧ p e = some c ∧
      (before.filterMap p).length = n := by
  induction log generalizing n with
  | nil => cases seen
  | cons e rest ih =>
      cases visible : p e with
      | none =>
          rw [List.filterMap_cons_none visible] at seen
          obtain ⟨before, e', after, split, found, count⟩ := ih seen
          exact ⟨e :: before, e', after, by rw [split]; rfl, found, by
            rw [List.filterMap_cons_none visible, count]⟩
      | some b =>
          rw [List.filterMap_cons_some visible] at seen
          cases n with
          | zero =>
              obtain rfl : b = c := Option.some.inj seen
              exact ⟨[], e, rest, rfl, visible, rfl⟩
          | succ n =>
              obtain ⟨before, e', after, split, found, count⟩ := ih seen
              exact ⟨e :: before, e', after, by rw [split]; rfl, found, by
                rw [List.filterMap_cons_some visible, List.length_cons, count]⟩

theorem flatMap_range'_succ (f : Nat → List ε) (k : Nat) :
    (List.range' 1 (k + 1)).flatMap f = (List.range' 1 k).flatMap f ++ f (k + 1) := by
  rw [List.range'_1_concat, List.flatMap_append, List.flatMap_singleton, Nat.add_comm 1 k]

/-- One block after the other, each judged after the blocks before it. -/
theorem each_flatMap_range' {f : Nat → List ε} {k : Nat}
    (each : ∀ j < k, Each (fun before e => P ((List.range' 1 j).flatMap f ++ before) e)
      (f (j + 1))) : Each P ((List.range' 1 k).flatMap f) := by
  induction k with
  | zero => exact each_nil
  | succ k ih =>
      rw [flatMap_range'_succ, each_append]
      exact ⟨ih fun j lt => each j (Nat.lt_succ_of_lt lt), each k (Nat.lt_succ_self k)⟩

end Each

/-! ### Agreement up to a projection -/

section Agree

variable {γ : Type*} {p : ε → Option γ}

/-- Two computations end alike and perform the same effects as far as `p` sees. -/
structure Agree (p : ε → Option γ) (m m' : Traced ε χ α) : Prop where
  result : m.result = m'.result
  log : m.log.filterMap p = m'.log.filterMap p

theorem Agree.refl (m : Traced ε χ α) : Agree p m m := ⟨rfl, rfl⟩

theorem Agree.symm {m m' : Traced ε χ α} (h : Agree p m m') : Agree p m' m :=
  ⟨h.result.symm, h.log.symm⟩

theorem Agree.trans {m m' m'' : Traced ε χ α} (h : Agree p m m') (h' : Agree p m' m'') :
    Agree p m m'' :=
  ⟨h.result.trans h'.result, h.log.trans h'.log⟩

/-- Effects `p` does not see may be added in front. -/
theorem Agree.emit_left {e : ε} (blind : p e = none) {m m' : Traced ε χ α} (h : Agree p m m') :
    Agree p (emit e >>= fun _ => m) m' :=
  ⟨h.result, by rw [emit_bind, List.filterMap_cons_none blind, h.log]⟩

theorem Agree.bind {m m' : Traced ε χ α} {f f' : α → Traced ε χ β} (h : Agree p m m')
    (hf : ∀ a, Agree p (f a) (f' a)) : Agree p (m >>= f) (m' >>= f') := by
  cases hm : m.result with
  | error x =>
      rw [bind_of_error f hm, bind_of_error f' (h.result ▸ hm)]
      exact ⟨rfl, h.log⟩
  | ok a =>
      rw [bind_of_ok f hm, bind_of_ok f' (h.result ▸ hm)]
      exact ⟨(hf a).result, by rw [List.filterMap_append, List.filterMap_append, h.log,
        (hf a).log]⟩

theorem Agree.catching {m m' : Traced ε χ α} (h : Agree p m m') (caught : χ → Bool) :
    Agree p (m.catching caught) (m'.catching caught) := by
  rw [Traced.catching, Traced.catching, ← h.result]
  cases m.result with
  | ok a => exact ⟨rfl, h.log⟩
  | error x =>
      dsimp only
      split
      · exact ⟨rfl, h.log⟩
      · exact ⟨rfl, h.log⟩

/-- Loops agree when their iterations do. -/
theorem Agree.forLoop {ι : Type*} {body body' : ι → Traced ε χ (Option α)}
    {exhausted : Traced ε χ α} {items : List ι} (h : ∀ i ∈ items, Agree p (body i) (body' i)) :
    Agree p (forLoop body exhausted items) (forLoop body' exhausted items) := by
  induction items with
  | nil => exact .refl exhausted
  | cons i rest ih =>
      apply (h i (by simp)).bind
      intro next
      cases next with
      | some a => exact .refl _
      | none => exact ih fun j hj => h j (by simp [hj])

end Agree

end Traced
