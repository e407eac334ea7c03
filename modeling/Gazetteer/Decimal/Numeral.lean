import Gazetteer.Decimal.Shortest

/-!
# Reading decimal numerals

`Numeral` is a decimal as written: a sign, its digits as one number and a power of ten.
`Numeral.toFloat` gives the float nearest to it, and `float?` reads the free-standing numerals of
coordinate texts: digits with an optional point and exponent, or `inf`, `infinity` or `nan` in
any case, after an optional sign.
-/

namespace Gazetteer.Decimal

/-- The number `± digits * 10 ^ exponent` as written. -/
structure Numeral where
  negative : Bool
  digits : Nat
  exponent : Int
  deriving DecidableEq, Repr

/-- Beyond these leading exponents every numeral is infinite or zero as a float. -/
def Numeral.leadingLimit : Int := 400

/-- The float nearest to the written number, an exact half going to the even mantissa. -/
def Numeral.toFloat (n : Numeral) : Float :=
  let lead := n.exponent + digitCount n.digits
  let size : Float :=
    if n.digits = 0 ∨ lead < -Numeral.leadingLimit then 0.0
    else if Numeral.leadingLimit < lead then 1.0 / 0.0
    else Float.ofScientific n.digits (n.exponent < 0) n.exponent.natAbs
  if n.negative then -size else size

/-- Why a text is no number. -/
inductive NumeralError where
  | empty
  | malformed
  deriving DecidableEq, Repr

def NumeralError.message : NumeralError → String
  | .empty => "cannot parse float from empty string"
  | .malformed => "invalid float literal"

/-- The number that a run of digits denotes. -/
def digitsValue (ds : List Char) : Nat := ds.foldl (fun n c => 10 * n + (c.toNat - '0'.toNat)) 0

/-- The digits at the front of a text, and the rest. -/
def spanDigits (cs : List Char) : List Char × List Char := cs.span Char.isDigit

/-- An optional sign at the front: whether it is a minus, and the rest. -/
def spanSign : List Char → Bool × List Char
  | '-' :: r => (true, r)
  | '+' :: r => (false, r)
  | r => (false, r)

/-- The exponent part of a numeral, which must reach the end of the text. -/
def exponent? : List Char → Option Int
  | [] => some 0
  | c :: r =>
    if c = 'e' ∨ c = 'E' then
      let (negative, r) := spanSign r
      match spanDigits r with
      | ([], _) => none
      | (ds, []) => some (if negative then -(digitsValue ds : Int) else digitsValue ds)
      | (_, _ :: _) => none
    else none

/-- A whole numeral without its sign: digits on at least one side of an optional point, then an
optional exponent. -/
def unsigned? (negative : Bool) (cs : List Char) : Option Numeral :=
  let (whole, r) := spanDigits cs
  let (fraction, r) := match r with
    | '.' :: r => spanDigits r
    | r => ([], r)
  if whole.isEmpty && fraction.isEmpty then none
  else
    (exponent? r).map fun e => ⟨negative, digitsValue (whole ++ fraction), e - fraction.length⟩

/-- The names of the floats that are no numbers, read without regard to case. -/
def special? (name : List Char) : Option Float :=
  match String.ofList (name.map Char.toLower) with
  | "inf" | "infinity" => some (1.0 / 0.0)
  | "nan" => some (0.0 / 0.0)
  | _ => none

/-- The float that a text denotes. -/
def float? (cs : List Char) : Except NumeralError Float :=
  if cs.isEmpty then .error .empty
  else
    let (negative, r) := spanSign cs
    match special? r with
    | some x => .ok (if negative then -x else x)
    | none =>
      match unsigned? negative r with
      | some n => .ok n.toFloat
      | none => .error .malformed

end Gazetteer.Decimal
