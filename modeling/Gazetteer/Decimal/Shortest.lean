import Gazetteer.Decimal.Magnitude

/-!
# Shortest decimals

`shortest` finds the decimal with the fewest digits that still reads back as a given float. The
floats around a value leave an interval of reals that are nearest to it; a decimal reads back
exactly when it lies in that interval (its ends count when the mantissa is even). For one digit,
two digits and so on the two neighbours of the value on that decimal grid are tested; the first
grid with a hit wins, and of two hits the nearer.
-/

namespace Gazetteer.Decimal

/-- The number `digits * 10 ^ exponent`. -/
structure Scaled where
  digits : Nat
  exponent : Int
  deriving DecidableEq, Repr

/-- How many decimal digits a number has; zero has none. -/
def digitCount (n : Nat) : Nat := if n = 0 then 0 else (Nat.toDigits 10 n).length

/-- The exponent of the first digit of `num / den`, as in `d.ddd * 10 ^ e`. -/
def leadingExponent (num den : Nat) : Int :=
  if den ≤ num then (digitCount (num / den) : Int) - 1
  else -(digitCount ((den + num - 1) / num - 1) : Int)

/-- The reals that are nearer to `v` than to any other float, as three numbers over one
denominator: the lower end, the value and the upper end. -/
structure Neighbourhood where
  low : Nat
  value : Nat
  high : Nat
  unit : Nat
  /-- Whether the ends themselves round to the value. -/
  closed : Bool

/-- The gap below a power of two is half of the gap above it, except at the smallest normal
number. -/
def Magnitude.neighbourhood (v : Magnitude) : Neighbourhood :=
  let (num, den) := Magnitude.ratio ⟨1, v.exponent⟩
  let narrow := v.mantissa = leadingBit ∧ leastExponent < v.exponent
  { low := (4 * v.mantissa - if narrow then 1 else 2) * num
    value := 4 * v.mantissa * num
    high := (4 * v.mantissa + 2) * num
    unit := 4 * den
    closed := v.mantissa % 2 = 0 }

/-- Whether the point `point / n.unit` reads back as the value. -/
def Neighbourhood.contains (n : Neighbourhood) (point : Nat) : Bool :=
  if n.closed then n.low ≤ point && point ≤ n.high else n.low < point && point < n.high

/-- The neighbourhood with everything multiplied so that multiples of `10 ^ e` are whole. -/
def Neighbourhood.onGrid (n : Neighbourhood) (e : Int) : Neighbourhood × Nat :=
  let up := Nat.pow 10 (-e).toNat
  ({ n with low := n.low * up, value := n.value * up, high := n.high * up },
    n.unit * Nat.pow 10 e.toNat)

/-- The decimal on the grid `10 ^ e` that reads back and is nearest to the value, if there is
one. -/
def Neighbourhood.nearestOn (n : Neighbourhood) (e : Int) (tie : Tie) : Option Scaled :=
  let (scaled, step) := n.onGrid e
  let below := scaled.value / step
  let nearest := roundDiv scaled.value step tie
  let other := if nearest = below then below + 1 else below
  if scaled.contains (nearest * step) then some ⟨nearest, e⟩
  else if scaled.contains (other * step) then some ⟨other, e⟩
  else none

/-- The same number without trailing zero digits. -/
def Scaled.trimmed (d : Scaled) : Scaled := go d.digits d
where
  go : Nat → Scaled → Scaled
    | 0, d => d
    | fuel + 1, d =>
      if d.digits ≠ 0 ∧ d.digits % 10 = 0 then go fuel ⟨d.digits / 10, d.exponent + 1⟩ else d

/-- The shortest decimal that reads back as the float of size `v`; seventeen digits always do. -/
def Magnitude.shortest (v : Magnitude) (tie : Tie) : Scaled :=
  if v.mantissa = 0 then ⟨0, 0⟩
  else
    let n := v.neighbourhood
    let lead := leadingExponent n.value n.unit
    match (List.range 17).findSome? (fun (i : Nat) => n.nearestOn (lead - i) tie) with
    | some d => d.trimmed
    | none => ⟨v.mantissa, v.exponent⟩

/-! ### Writing a decimal -/

/-- What a text format decides about floats. -/
structure Layout where
  /-- The least and the greatest leading exponent that are written positionally; without a pair
  all of them are. -/
  positional : Option (Int × Int)
  /-- Whether a whole number is written with a trailing `.0`. -/
  pointZero : Bool
  /-- Which of two equally near shortest decimals is written. -/
  tie : Tie
  nan : String
  infinity : String

/-- The decimal digits of a number; zero is one digit. -/
def digitText (n : Nat) : List Char := Nat.toDigits 10 n

/-- The decimal without an exponent. -/
def Scaled.positionalText (d : Scaled) (pointZero : Bool) : List Char :=
  let ds := digitText d.digits
  if 0 ≤ d.exponent then
    ds ++ List.replicate d.exponent.toNat '0' ++ (if pointZero then ['.', '0'] else [])
  else
    let places := (-d.exponent).toNat
    if places < ds.length then ds.take (ds.length - places) ++ '.' :: ds.drop (ds.length - places)
    else ['0', '.'] ++ List.replicate (places - ds.length) '0' ++ ds

/-- The exponent of the first digit. -/
def Scaled.leading (d : Scaled) : Int := d.exponent + (digitText d.digits).length - 1

/-- The decimal with one digit before the point and an exponent that always has its sign. -/
def Scaled.exponentText (d : Scaled) : List Char :=
  let sign := if d.leading < 0 then '-' else '+'
  let tail := 'e' :: sign :: digitText d.leading.natAbs
  match digitText d.digits with
  | [] => tail
  | [c] => c :: tail
  | c :: cs => c :: '.' :: cs ++ tail

/-- The text of a decimal in a layout. -/
def Layout.scaledText (l : Layout) (d : Scaled) : List Char :=
  match l.positional with
  | none => d.positionalText l.pointZero
  | some (low, high) =>
    if d.digits = 0 ∨ low ≤ d.leading ∧ d.leading ≤ high then d.positionalText l.pointZero
    else d.exponentText

/-- The text of a float in a layout: its sign and its shortest decimal. -/
def Layout.text (l : Layout) (x : Float) : String :=
  if x.isNaN then l.nan
  else
    let sign := if isNegative x then "-" else ""
    if x.isInf then sign ++ l.infinity
    else sign ++ String.ofList (l.scaledText ((Magnitude.ofFloat x).shortest l.tie))

/-- Messages and displays write a float positionally whatever its size, and a whole number without
a point. -/
def Layout.plain : Layout := ⟨none, false, .up, "NaN", "inf"⟩

/-- A float as it stands in a message: shortest digits, never an exponent. -/
def plainText (x : Float) : String := Layout.plain.text x

end Gazetteer.Decimal
