import Mathlib.Data.List.Basic

/-!
# Methods of an object

A method runs on a state and returns or raises; what it has changed before it raises
stays changed.
-/

/-- Computations that change a state of `σ` and may raise an `ε`. -/
abbrev Stateful (σ ε : Type) : Type → Type := ExceptT ε (StateM σ)

namespace Stateful

variable {σ ε α β : Type}

/-- What a method called in a state returns or raises, and the state it leaves. -/
def call (method : Stateful σ ε α) (s : σ) : Except ε α × σ := method.run.run s

theorem ext {method method' : Stateful σ ε α} (h : ∀ s, method.call s = method'.call s) :
    method = method' := funext h

/-- A method that leaves the state as it is. -/
def ReadOnly (method : Stateful σ ε α) : Prop := ∀ s, (method.call s).2 = s

/-- An operation on the state. -/
def ofCall (operation : σ → Except ε α × σ) : Stateful σ ε α := ExceptT.mk operation

/-- A computation that does not look at the state. -/
def ofExcept (m : Except ε α) : Stateful σ ε α := ofCall fun s => (m, s)

@[simp] theorem call_pure (a : α) (s : σ) :
    (pure a : Stateful σ ε α).call s = (.ok a, s) := rfl

@[simp] theorem call_throw (exc : ε) (s : σ) :
    (throw exc : Stateful σ ε α).call s = (.error exc, s) := rfl

@[simp] theorem call_get_bind (next : σ → Stateful σ ε α) (s : σ) :
    (get >>= next).call s = (next s).call s := rfl

@[simp] theorem call_set (s' s : σ) :
    (set s' : Stateful σ ε PUnit).call s = (.ok ⟨⟩, s') := rfl

@[simp] theorem call_ofCall (operation : σ → Except ε α × σ) (s : σ) :
    (ofCall operation).call s = operation s := rfl

@[simp] theorem call_ofExcept (m : Except ε α) (s : σ) :
    (ofExcept m : Stateful σ ε α).call s = (m, s) := rfl

theorem call_bind (method : Stateful σ ε α) (next : α → Stateful σ ε β) (s : σ) :
    (method >>= next).call s =
      match method.call s with
      | (.ok a, s') => (next a).call s'
      | (.error exc, s') => (.error exc, s') := by
  change ((method >>= next).run.run s) = _
  simp only [call, ExceptT.run_bind, StateT.run_bind]
  cases method.run.run s with
  | mk outcome s' =>
      cases outcome with
      | ok a => rfl
      | error exc => rfl

theorem call_bind_of_ok {method : Stateful σ ε α} {s s' : σ} {a : α}
    (h : method.call s = (.ok a, s')) (next : α → Stateful σ ε β) :
    (method >>= next).call s = (next a).call s' := by
  rw [call_bind, h]

theorem call_bind_of_error {method : Stateful σ ε α} {s s' : σ} {exc : ε}
    (h : method.call s = (.error exc, s')) (next : α → Stateful σ ε β) :
    (method >>= next).call s = (.error exc, s') := by
  rw [call_bind, h]

theorem call_tryCatch (method : Stateful σ ε α) (handler : ε → Stateful σ ε α) (s : σ) :
    (tryCatch method handler).call s =
      match method.call s with
      | (.ok a, s') => (.ok a, s')
      | (.error exc, s') => (handler exc).call s' := by
  simp only [call, tryCatch, tryCatchThe, MonadExceptOf.tryCatch, ExceptT.tryCatch, ExceptT.run_mk,
    StateT.run_bind]
  rcases called : method.run.run s with ⟨exc | a, s'⟩
  · change StateT.run method s = _ at called
    rw [called]
    rfl
  · change StateT.run method s = _ at called
    rw [called]
    rfl

@[simp] theorem call_ofExcept_bind (m : Except ε α) (next : α → Stateful σ ε β) (s : σ) :
    (ofExcept m >>= next).call s =
      match m with
      | .ok a => (next a).call s
      | .error exc => (.error exc, s) := by
  rw [call_bind, call_ofExcept]
  cases m with
  | ok a => rfl
  | error exc => rfl

/-! ### What a method leaves alone -/

/-- Whatever a method does, a part of the state stays as it is. -/
def Keeps {τ : Type} (part : σ → τ) (method : Stateful σ ε α) : Prop :=
  ∀ s, part (method.call s).2 = part s

namespace Keeps

variable {τ : Type} {part : σ → τ}

theorem pure (a : α) : Keeps part (pure a : Stateful σ ε α) := fun _ => rfl

theorem throw (exc : ε) : Keeps part (throw exc : Stateful σ ε α) := fun _ => rfl

theorem ofExcept (m : Except ε α) : Keeps part (ofExcept m : Stateful σ ε α) := fun _ => rfl

theorem bind {method : Stateful σ ε α} {next : α → Stateful σ ε β} (first : Keeps part method)
    (later : ∀ a, Keeps part (next a)) : Keeps part (method >>= next) := by
  intro s
  rw [call_bind]
  have kept := first s
  rcases called : method.call s with ⟨exc | a, s'⟩
  · rw [called] at kept
    exact kept
  · rw [called] at kept
    exact (later a s').trans kept

theorem tryCatch {method : Stateful σ ε α} {handler : ε → Stateful σ ε α}
    (first : Keeps part method) (handles : ∀ exc, Keeps part (handler exc)) :
    Keeps part (tryCatch method handler) := by
  intro s
  rw [call_tryCatch]
  have kept := first s
  rcases called : method.call s with ⟨exc | a, s'⟩
  · rw [called] at kept
    exact (handles exc s').trans kept
  · rw [called] at kept
    exact kept

theorem ite {condition : Prop} [Decidable condition] {yes no : Stateful σ ε α}
    (first : Keeps part yes) (second : Keeps part no) :
    Keeps part (if condition then yes else no) := by
  split
  · exact first
  · exact second

end Keeps

end Stateful
