import Gazetteer.Decimal.Magnitude

/-!
# Fixed decimal places

`fixedText` writes a float with a given number of decimals, rounded from the exact binary value.
-/

namespace Gazetteer.Decimal

/-- A float counted in units of `10 ^ -places`, a half going to the even neighbour. -/
def Magnitude.inUnits (v : Magnitude) (places : Nat) : Nat :=
  let (num, den) := v.ratio
  roundDiv (num * Nat.pow 10 places) den .toEven

/-- The digits of `units * 10 ^ -places`, with at least one before the point. -/
def unitsText (units places : Nat) : List Char :=
  let ds := Nat.toDigits 10 units
  let padded := List.replicate (places + 1 - ds.length) '0' ++ ds
  let whole := padded.take (padded.length - places)
  if places = 0 then whole else whole ++ '.' :: padded.drop (padded.length - places)

/-- A float with `places` decimals; what rounds to zero has no minus sign. -/
def fixedText (places : Nat) (x : Float) : String :=
  if x.isNaN then "NaN"
  else if x.isInf then if isNegative x then "-inf" else "inf"
  else
    let units := (Magnitude.ofFloat x).inUnits places
    let digits := unitsText units places
    String.ofList (if isNegative x && units != 0 then '-' :: digits else digits)

end Gazetteer.Decimal
