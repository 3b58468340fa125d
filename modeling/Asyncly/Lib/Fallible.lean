import Mathlib.Data.List.Basic

/-!
# Exceptions that get out

A computation in `Except` is a sequence of checks that refuse and of calls that may
raise. Whether an exception gets out of it, past the handlers around it, is decided call
by call: a check raises what is handled, and a later call counts only when all before it
have returned.
-/

universe u

namespace Fallible

variable {ε α β : Type u} {handled : ε → Prop}

/-- The computation ends with an exception that is not handled. -/
def Escapes (handled : ε → Prop) (m : Except ε α) : Prop := ∃ exc, m = .error exc ∧ ¬ handled exc

/-- `if refused: raise exc` -/
def refuseIf (refused : Prop) [Decidable refused] (exc : ε) : Except ε PUnit.{u + 1} :=
  if refused then .error exc else .ok ⟨⟩

/-- An `except` clause that raises another exception for those it catches. -/
def translating (caught : ε → Bool) (translate : ε → ε) (m : Except ε α) : Except ε α :=
  match m with
  | .ok a => .ok a
  | .error exc => .error (if caught exc then translate exc else exc)

/-- `for a in items: if refused(a): raise exc(a)` -/
def refuseEach (refused : α → Bool) (exc : α → ε) : List α → Except ε PUnit.{u + 1}
  | [] => .ok ⟨⟩
  | a :: rest => if refused a then .error (exc a) else refuseEach refused exc rest

theorem bind_eq_ok {m : Except ε α} {f : α → Except ε β} {b : β} :
    m >>= f = .ok b ↔ ∃ a, m = .ok a ∧ f a = .ok b := by
  cases m with
  | error exc =>
      constructor
      · intro h
        cases h
      · rintro ⟨_, h, _⟩
        cases h
  | ok a =>
      constructor
      · intro h
        exact ⟨a, rfl, h⟩
      · rintro ⟨b, same, h⟩
        rwa [Except.ok.inj same]

theorem map_eq_ok {m : Except ε α} {f : α → β} {b : β} :
    f <$> m = .ok b ↔ ∃ a, m = .ok a ∧ f a = b := by
  cases m with
  | error exc =>
      constructor
      · intro h
        cases h
      · rintro ⟨_, h, _⟩
        cases h
  | ok a =>
      constructor
      · intro h
        exact ⟨a, rfl, Except.ok.inj h⟩
      · rintro ⟨b, same, rfl⟩
        exact congrArg (fun a => Except.ok (f a)) (Except.ok.inj same)

theorem map_eq_error {m : Except ε α} {f : α → β} {exc : ε} :
    m.map f = .error exc ↔ m = .error exc := by
  cases m with
  | error other => exact ⟨congrArg _ ∘ Except.error.inj, congrArg _ ∘ Except.error.inj⟩
  | ok a => exact ⟨nofun, nofun⟩

theorem bind_eq_error {m : Except ε α} {f : α → Except ε β} {exc : ε} :
    m >>= f = .error exc ↔ m = .error exc ∨ ∃ a, m = .ok a ∧ f a = .error exc := by
  cases m with
  | error other =>
      constructor
      · intro h
        exact .inl (congrArg Except.error (Except.error.inj h))
      · rintro (h | ⟨_, h, _⟩)
        · exact congrArg Except.error (Except.error.inj h)
        · cases h
  | ok a =>
      constructor
      · intro h
        exact .inr ⟨a, rfl, h⟩
      · rintro (h | ⟨b, same, h⟩)
        · cases h
        · rwa [Except.ok.inj same]

@[simp] theorem ok_bind (a : α) (f : α → Except ε β) : (.ok a : Except ε α) >>= f = f a := rfl

@[simp] theorem refuseIf_eq_ok {refused : Prop} [Decidable refused] {exc : ε} {u : PUnit} :
    refuseIf refused exc = .ok u ↔ ¬ refused := by
  rw [refuseIf]
  split
  · rename_i refused
    exact iff_of_false (fun h => by cases h) (not_not_intro refused)
  · rename_i passed
    exact iff_of_true rfl passed

@[simp] theorem refuseEach_eq_ok {refused : α → Bool} {exc : α → ε} {items : List α} {u : PUnit} :
    refuseEach refused exc items = .ok u ↔ ∀ a ∈ items, refused a = false := by
  induction items with
  | nil => exact iff_of_true rfl (by simp)
  | cons a rest ih =>
      rw [refuseEach, List.forall_mem_cons, ← ih]
      split
      · rename_i refused
        exact iff_of_false (fun h => by cases h) (fun h => by simp [refused] at h)
      · rename_i passed
        rw [and_iff_right (by simpa using passed)]

section Filter

variable {ε ι : Type} {test : ι → Except ε Bool} {p : ι → Bool}

theorem filterAuxM_of_ok {items : List ι} (h : ∀ a ∈ items, test a = .ok (p a)) (kept : List ι) :
    items.filterAuxM test kept = .ok ((items.filter p).reverse ++ kept) := by
  induction items generalizing kept with
  | nil => rfl
  | cons a rest ih =>
      rw [List.filterAuxM, h a (List.mem_cons_self ..)]
      refine (ih (fun b hb => h b (List.mem_cons_of_mem a hb)) _).trans ?_
      cases tested : p a with
      | true => simp [tested]
      | false => simp [tested]

/-- A filter whose tests all return. -/
theorem filterM_of_ok {items : List ι} (h : ∀ a ∈ items, test a = .ok (p a)) :
    items.filterM test = .ok (items.filter p) := by
  rw [List.filterM, filterAuxM_of_ok h]
  change Except.ok _ = _
  rw [List.append_nil, List.reverse_reverse]

end Filter

@[simp] theorem translating_eq_ok {caught : ε → Bool} {translate : ε → ε} {m : Except ε α}
    {a : α} : translating caught translate m = .ok a ↔ m = .ok a := by
  cases m with
  | ok b => exact Iff.rfl
  | error exc => exact iff_of_false (fun h => by cases h) (fun h => by cases h)

/-- What gets past more handlers gets past fewer. -/
theorem Escapes.mono {handled' : ε → Prop} {m : Except ε α} (h : Escapes handled' m)
    (fewer : ∀ exc, handled exc → handled' exc) : Escapes handled m := by
  obtain ⟨exc, raised, free⟩ := h
  exact ⟨exc, raised, fun handles => free (fewer exc handles)⟩

@[simp] theorem not_escapes_ok (a : α) : ¬ Escapes handled (.ok a : Except ε α) := by
  rintro ⟨_, h, _⟩
  cases h

@[simp] theorem not_escapes_pure (a : α) : ¬ Escapes handled (pure a : Except ε α) :=
  not_escapes_ok a

@[simp] theorem escapes_error {exc : ε} :
    Escapes handled (.error exc : Except ε α) ↔ ¬ handled exc := by
  constructor
  · rintro ⟨_, h, free⟩
    rwa [Except.error.inj h]
  · intro free
    exact ⟨exc, rfl, free⟩

/-- A later step counts when the steps before it have returned. -/
theorem escapes_bind {m : Except ε α} {f : α → Except ε β} :
    Escapes handled (m >>= f) ↔ Escapes handled m ∨ ∃ a, m = .ok a ∧ Escapes handled (f a) := by
  cases m with
  | error exc =>
      have never : ¬ ∃ a, (.error exc : Except ε α) = .ok a ∧ Escapes handled (f a) := by
        rintro ⟨_, h, _⟩
        cases h
      rw [or_iff_left never, escapes_error]
      exact escapes_error
  | ok a =>
      rw [or_iff_right (not_escapes_ok a)]
      constructor
      · intro h
        exact ⟨a, rfl, h⟩
      · rintro ⟨b, same, h⟩
        rwa [Except.ok.inj same]

/-- A check that raises what is handled lets nothing out. -/
theorem not_escapes_refuseIf {refused : Prop} [Decidable refused] {exc : ε} (h : handled exc) :
    ¬ Escapes handled (refuseIf refused exc) := by
  rw [refuseIf]
  split
  · rw [escapes_error]
    exact not_not_intro h
  · exact not_escapes_ok _

theorem not_escapes_refuseEach {refused : α → Bool} {exc : α → ε} (h : ∀ a, handled (exc a))
    (items : List α) : ¬ Escapes handled (refuseEach refused exc items) := by
  induction items with
  | nil => exact not_escapes_ok _
  | cons a rest ih =>
      rw [refuseEach]
      split
      · rw [escapes_error]
        exact not_not_intro (h a)
      · exact ih

/-- After a step that lets nothing out, what follows it counts when it returns. -/
theorem escapes_bind_of_quiet {m : Except ε PUnit} (quiet : ¬ Escapes handled m)
    {f : PUnit → Except ε β} :
    Escapes handled (m >>= f) ↔ m = .ok ⟨⟩ ∧ Escapes handled (f ⟨⟩) := by
  rw [escapes_bind, or_iff_right quiet]
  constructor
  · rintro ⟨⟨⟩, passed, later⟩
    exact ⟨passed, later⟩
  · rintro ⟨passed, later⟩
    exact ⟨⟨⟩, passed, later⟩

theorem not_escapes_bind {m : Except ε α} {f : α → Except ε β} (quiet : ¬ Escapes handled m)
    (later : ∀ a, ¬ Escapes handled (f a)) : ¬ Escapes handled (m >>= f) := by
  rw [escapes_bind]
  rintro (first | ⟨a, -, escapes⟩)
  · exact quiet first
  · exact later a escapes

/-- Before steps that let nothing out, only the first one counts. -/
theorem escapes_bind_quiet {m : Except ε α} {f : α → Except ε β}
    (quiet : ∀ a, ¬ Escapes handled (f a)) :
    Escapes handled (m >>= f) ↔ Escapes handled m := by
  rw [escapes_bind]
  apply or_iff_left
  rintro ⟨a, -, later⟩
  exact quiet a later

theorem escapes_refuseIf_bind {refused : Prop} [Decidable refused] {exc : ε} (h : handled exc)
    {f : PUnit → Except ε β} :
    Escapes handled (refuseIf refused exc >>= f) ↔ ¬ refused ∧ Escapes handled (f ⟨⟩) := by
  rw [escapes_bind_of_quiet (not_escapes_refuseIf h), refuseIf_eq_ok]

/-- What an `except` clause catches does not get out when what it raises instead does not. -/
theorem escapes_translating {caught : ε → Bool} {translate : ε → ε} {m : Except ε α}
    (translated : ∀ exc, caught exc = true → handled (translate exc)) :
    Escapes handled (translating caught translate m) ↔
      Escapes (fun exc => caught exc = true ∨ handled exc) m := by
  cases m with
  | ok a => exact iff_of_false (not_escapes_ok a) (not_escapes_ok a)
  | error exc =>
      rw [translating, escapes_error, escapes_error]
      by_cases catches : caught exc = true
      · rw [if_pos catches]
        exact iff_of_false (not_not_intro (translated exc catches))
          (not_not_intro (.inl catches))
      · rw [if_neg catches, or_iff_right catches]

end Fallible
