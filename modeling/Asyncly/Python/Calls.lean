import Mathlib.Data.List.Basic

/-!
# Calling a function with one argument

The binding of one argument to the parameters of a Python function, by position
and by keyword. A parameter list is well formed in Python's own order, and `**`
comes last, so both walks below meet it after every named parameter.
-/

namespace Asyncly

inductive ParamKind
  | positionalOnly | positionalOrKeyword | varPositional | keywordOnly | varKeyword
  deriving DecidableEq, Repr

structure Param where
  name : String
  kind : ParamKind
  hasDefault : Bool := false
  deriving DecidableEq, Repr

/-- What a parameter is bound to when the body starts. -/
inductive Bound (α : Type)
  | value (v : α)
  | default
  | args (values : List α)
  | kwargs (values : List (String × α))
  deriving DecidableEq

variable {α : Type}

/-- A parameter that receives no argument. -/
def Param.bindDefault (p : Param) : Option (Bound α) := if p.hasDefault then some .default else none

/-- `f(v)`, with `none` in place of `v` once it is consumed. The result is `none`
where the interpreter raises `TypeError`. -/
def bindPosition : List Param → Option α → Option (List (Bound α))
  | [], none => some []
  | [], some _ => none
  | p :: rest, v =>
      match p.kind, v with
      | .positionalOnly, some v | .positionalOrKeyword, some v =>
          (bindPosition rest none).map (.value v :: ·)
      | .varPositional, v => (bindPosition rest none).map (.args v.toList :: ·)
      | .varKeyword, v => (bindPosition rest v).map (.kwargs [] :: ·)
      | _, v => do
          let d ← p.bindDefault
          (bindPosition rest v).map (d :: ·)

/-- `f(name=v)` -/
def bindKeyword (name : String) : List Param → Option α → Option (List (Bound α))
  | [], none => some []
  | [], some _ => none
  | p :: rest, v =>
      match p.kind, v with
      | .varPositional, v => (bindKeyword name rest v).map (.args [] :: ·)
      | .varKeyword, v =>
          (bindKeyword name rest none).map (.kwargs (v.map ((name, ·))).toList :: ·)
      | .positionalOrKeyword, some v | .keywordOnly, some v =>
          if p.name = name then (bindKeyword name rest none).map (.value v :: ·)
          else do
            let d ← p.bindDefault
            (bindKeyword name rest (some v)).map (d :: ·)
      | _, v => do
          let d ← p.bindDefault
          (bindKeyword name rest v).map (d :: ·)

/-- Keyword-only parameters take nothing by position. -/
theorem bindPosition_keywordOnly {params : List Param} (h : ∀ p ∈ params, p.kind = .keywordOnly)
    (v : α) : bindPosition params (some v) = none := by
  induction params with
  | nil => rfl
  | cons p rest ih =>
      have hp : p.kind = .keywordOnly := h p (by simp)
      have hrest := ih fun q hq => h q (by simp [hq])
      simp [bindPosition, hp, hrest]

end Asyncly
