import Mathlib.Data.List.Basic

/-!
# The text operations the client uses

Case changes are applied to method and header names, which HTTP restricts to
ASCII tokens; outside ASCII they leave a character alone. Everything that
depends on the Unicode database of the running interpreter is read from a
`UnicodeData`, so results about text hold for every version of the database.
-/

namespace Asyncly

/-- `str.upper` -/
def upper (s : String) : String := String.ofList (s.toList.map Char.toUpper)

/-- `str.lower` -/
def lower (s : String) : String := String.ofList (s.toList.map Char.toLower)

/-- One character of a text as `repr` shows it between the given quotes. Characters
outside ASCII are shown as they are. -/
def quotedChar (quote c : Char) : String :=
  let backslash := Char.ofNat 92
  if c = quote || c = backslash then String.ofList [backslash, c]
  else
    match c.toNat with
    | 9 => "\\t"
    | 10 => "\\n"
    | 13 => "\\r"
    | code =>
        if code < 32 || code = 127 then
          "\\x" ++ String.ofList [Nat.digitChar (code / 16), Nat.digitChar (code % 16)]
        else c.toString

/-- `repr` of a text: in single quotes, unless it has some and no double quotes. -/
def quoted (s : String) : String :=
  let single := Char.ofNat 39
  let double := Char.ofNat 34
  let quote := if s.toList.contains single && !s.toList.contains double then double else single
  quote.toString ++ String.join (s.toList.map (quotedChar quote)) ++ quote.toString

/-- `repr` of a list of texts. -/
def quotedList (items : List String) : String :=
  "[" ++ ", ".intercalate (items.map quoted) ++ "]"

/-- The character properties behind `str.strip`, `str.isdigit`, `str.isalpha` and
the digits read by `float` and `int`. `decimal` is the value of a character with
Numeric_Type Decimal; `isDigit` also holds of Numeric_Type Digit. -/
structure UnicodeData where
  isSpace : Char → Bool
  isAlpha : Char → Bool
  isDigit : Char → Bool
  decimal : Char → Option Nat
  decimal_lt_ten : ∀ c v, decimal c = some v → v < 10
  isDigit_of_decimal : ∀ c, (decimal c).isSome → isDigit c

namespace UnicodeData

variable (U : UnicodeData)

/-- `str.strip` -/
def strip (s : String) : String :=
  String.ofList ((s.toList.dropWhile U.isSpace).reverse.dropWhile U.isSpace).reverse

/-- `str.isdigit` -/
def isdigit (s : String) : Bool := !s.toList.isEmpty && s.toList.all U.isDigit

/-- Whether every character is a decimal digit. -/
def isDecimalText (s : String) : Bool := s.toList.all fun c => (U.decimal c).isSome

/-- The number a text of decimal digits denotes. -/
def decimalNumber (s : String) : Nat :=
  s.toList.foldl (fun n c => 10 * n + (U.decimal c).getD 0) 0

theorem isdigit_of_isDecimalText {s : String} (nonempty : s.toList ≠ [])
    (h : U.isDecimalText s = true) : U.isdigit s = true := by
  simp only [isDecimalText, List.all_eq_true] at h
  simp only [isdigit, Bool.and_eq_true, Bool.not_eq_true', List.isEmpty_eq_false_iff,
    List.all_eq_true]
  exact ⟨nonempty, fun c hc => U.isDigit_of_decimal c (h c hc)⟩

/-- The first 256 characters of the database: Latin-1. -/
def latin1 : UnicodeData where
  isSpace c := (9 ≤ c.val && c.val ≤ 13) || (28 ≤ c.val && c.val ≤ 32) || c.val = 0x85 ||
    c.val = 0xA0
  isAlpha c := c.isAlpha || c.val = 0xAA || c.val = 0xB5 || c.val = 0xBA ||
    (0xC0 ≤ c.val && c.val ≤ 0xFF && c.val ≠ 0xD7 && c.val ≠ 0xF7)
  isDigit c := c.isDigit || c.val = 0xB2 || c.val = 0xB3 || c.val = 0xB9
  decimal c := if c.isDigit then some (c.toNat - 48) else none
  decimal_lt_ten c v h := by
    split at h
    · rename_i digit
      simp only [Char.isDigit, Bool.and_eq_true, decide_eq_true_eq] at digit
      have upper : c.val.toNat ≤ 57 := by simpa using UInt32.le_iff_toNat_le.mp digit.2
      have value : c.toNat - 48 = v := Option.some.inj h
      have same : c.toNat = c.val.toNat := rfl
      omega
    · cases h
  isDigit_of_decimal c h := by
    split at h
    · rename_i digit
      simp [digit]
    · cases h

end UnicodeData

end Asyncly
