import Mathlib.Data.List.Basic

/-!
# Lexical resolution of paths

A path is resolved without looking at any file: its components are put one after the
other, and `up` takes the last one away. Above the start of a path that has no root, the
steps up are kept.
-/

namespace LexicalPath

variable {κ : Type*} [DecidableEq κ] (up : κ) (rooted : Bool)

/-- One component behind those that are resolved. -/
def step (resolved : List κ) (part : κ) : List κ :=
  if part = up then
    match resolved.getLast? with
    | none => if rooted then [] else [up]
    | some last => if last = up then resolved ++ [up] else resolved.dropLast
  else resolved ++ [part]

/-- The components of a resolved path. -/
def resolve (parts : List κ) : List κ := parts.foldl (step up rooted) []

variable {up rooted} {base parts : List κ}

theorem foldl_step_of_free (free : up ∉ parts) :
    parts.foldl (step up rooted) base = base ++ parts := by
  induction parts generalizing base with
  | nil => exact (List.append_nil base).symm
  | cons part rest ih =>
      have down : part ≠ up := (List.ne_of_not_mem_cons free).symm
      rw [List.foldl_cons, step, if_neg down, ih (List.not_mem_of_not_mem_cons free),
        List.append_assoc, List.singleton_append]

/-- What never goes up is resolved to itself, below what it is joined to. -/
theorem resolve_append (free : up ∉ parts) :
    resolve up rooted (base ++ parts) = resolve up rooted base ++ parts := by
  rw [resolve, List.foldl_append, foldl_step_of_free free, ← resolve]

end LexicalPath
