import Gazetteer.Decimal.Shortest
import Gazetteer.Value.Basic

/-!
# The text of a value

`Value.text` writes a value without blanks: object members in the order of their keys, strings in
quotes with the escapes that the format demands, numbers with the fewest digits. `Value.plain` is
the text that text lookups search, in which a string on its own is written as it is.
-/

namespace Gazetteer.Value

open Decimal

/-- Floats in the text of a value keep their point, have an exponent outside of `1e-5` to
`1e16`, and of two equally near decimals the even one is written. -/
def floatLayout : Layout := ⟨some (-5, 15), true, .toEven, "null", "null"⟩

/-- The hexadecimal digit of a number below sixteen, in lower case. -/
def hexDigit (n : Nat) : Char :=
  if n < 10 then Char.ofNat ('0'.toNat + n) else Char.ofNat ('a'.toNat + (n - 10))

/-- A character inside quotes: quote, backslash and the controls are escaped. -/
def escape (c : Char) : List Char :=
  match c with
  | '"' => ['\\', '"']
  | '\\' => ['\\', '\\']
  | '\x08' => ['\\', 'b']
  | '\x0c' => ['\\', 'f']
  | '\n' => ['\\', 'n']
  | '\r' => ['\\', 'r']
  | '\t' => ['\\', 't']
  | c =>
    if c.toNat < 0x20 then ['\\', 'u', '0', '0', hexDigit (c.toNat / 16), hexDigit (c.toNat % 16)]
    else [c]

/-- A string in quotes. -/
def quote (s : String) : String := "\"" ++ String.ofList (s.toList.flatMap escape) ++ "\""

mutual

/-- The text of a value. -/
def text : Value → String
  | .null => "null"
  | .bool b => if b then "true" else "false"
  | .int n => toString n
  | .float x => floatLayout.text x
  | .string s => quote s
  | .array items => "[" ++ ",".intercalate (itemTexts items) ++ "]"
  | .object members => "\x7b" ++ ",".intercalate (memberTexts members) ++ "\x7d"

/-- The texts of the items of an array. -/
def itemTexts : List Value → List String
  | [] => []
  | v :: r => text v :: itemTexts r

/-- The texts of the members of an object. -/
def memberTexts : List (String × Value) → List String
  | [] => []
  | (k, v) :: r => (quote k ++ ":" ++ text v) :: memberTexts r

end

/-- The text that text lookups see: a string as it is, anything else as `text` writes it. -/
def plain : Value → String
  | .string s => s
  | v => v.text

end Gazetteer.Value
