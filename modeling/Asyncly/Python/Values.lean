import Asyncly.Lib.Binary64
import Asyncly.Lib.MultiDict
import Asyncly.Python.Exceptions

/-!
# Bytes, dictionaries and JSON values

A `dict` is the list of its items in insertion order. The values `json.loads` returns
are compared as Python compares them: booleans are numbers, and numbers are equal when
they are numerically equal, whatever their types.
-/

namespace Asyncly

/-- `bytes` -/
abbrev Bytes := List UInt8

/-- The items of a `dict`, in order. -/
abbrev Dict (κ ν : Type) := List (κ × ν)

namespace Dict

variable {κ ν : Type} [DecidableEq κ]

/-- `d.get(key)` -/
def get? (key : κ) (d : Dict κ ν) : Option ν := MultiDict.get? id key d

/-- `d[key] = value` -/
def set (key : κ) (value : ν) (d : Dict κ ν) : Dict κ ν := MultiDict.set id key value d

/-- `d.get(key, [])` -/
def listAt (key : κ) (d : Dict κ (List ν)) : List ν := MultiDict.listAt id d key

/-- `d[key].append(item)` of a `defaultdict(list)` -/
def push (key : κ) (item : ν) (d : Dict κ (List ν)) : Dict κ (List ν) :=
  MultiDict.push id d key item

/-- `dict(items)` -/
def ofItems (items : List (κ × ν)) : Dict κ ν := MultiDict.update id [] items

/-- A copy of a dictionary, whose keys do not repeat, is the dictionary. -/
theorem ofItems_of_nodup {d : Dict κ ν} (nodup : (d.map Prod.fst).Nodup) : ofItems d = d :=
  MultiDict.update_of_nodup nodup

theorem listAt_of_get? {key : κ} {items : List ν} {d : Dict κ (List ν)}
    (h : d.get? key = some items) : d.listAt key = items := by
  change (d.get? key).getD [] = items
  rw [h, Option.getD_some]

theorem listAt_set_self (key : κ) (items : List ν) (d : Dict κ (List ν)) :
    (d.set key items).listAt key = items :=
  listAt_of_get? MultiDict.get?_set_self

theorem listAt_push (key other : κ) (item : ν) (d : Dict κ (List ν)) :
    (d.push key item).listAt other =
      if other = key then d.listAt key ++ [item] else d.listAt other := by
  split
  · rename_i same
    rw [same]
    exact MultiDict.listAt_push_self
  · exact MultiDict.listAt_push ‹_›

end Dict

/-- A value `json.loads` returns. -/
inductive Json
  | null
  | bool (value : Bool)
  | int (value : Int)
  | float (value : Binary64)
  | string (value : String)
  | array (items : List Json)
  | object (members : List (String × Json))

namespace Json

/-- The number a value is for a comparison, when it is one. -/
def number? : Json → Option Binary64
  | bool value => some (.finite (if value then 1 else 0))
  | int value => some (.finite value)
  | float value => some value
  | _ => none

/-- `x == y` of two numbers. -/
def numbersEqual : Option Binary64 → Option Binary64 → Bool
  | some .nan, _ => false
  | some x, some y => x = y
  | _, _ => false

mutual

/-- `x == y` -/
def equals : Json → Json → Bool
  | null, null => true
  | string s, string t => s = t
  | array xs, array ys => allEqual xs ys
  | object xs, object ys => xs.length = ys.length && allFound xs ys
  | x, y => numbersEqual x.number? y.number?

def allEqual : List Json → List Json → Bool
  | [], [] => true
  | x :: xs, y :: ys => equals x y && allEqual xs ys
  | _, _ => false

/-- Every member has an equal one of the same name. -/
def allFound : List (String × Json) → List (String × Json) → Bool
  | [], _ => true
  | (name, value) :: rest, members =>
      (match MultiDict.get? id name members with
        | some other => equals value other
        | none => false) && allFound rest members

end

/-- `x is None` -/
def isNone : Json → Bool
  | null => true
  | _ => false

end Json

namespace ExcClass

def jsonDecodeError : ExcClass := .other "JSONDecodeError"
def unicodeDecodeError : ExcClass := .other "UnicodeDecodeError"
def assertionError : ExcClass := .other "AssertionError"

end ExcClass

namespace Exn

/-- A `JSONDecodeError`, which is a `ValueError`. -/
def jsonDecodeError (text : String) : Exn :=
  .raised { mro := [.jsonDecodeError, .valueError, .exception, .baseException], text := text }

/-- A `UnicodeDecodeError`, which is a `ValueError` too. -/
def unicodeDecodeError (text : String) : Exn :=
  .raised {
    mro := [.unicodeDecodeError, .other "UnicodeError", .valueError, .exception, .baseException]
    text := text }

def assertionError (text : String) : Exn := ofClass .assertionError text

end Exn

end Asyncly
