/-!
# The exact size of a float

A finite float is, apart from its sign, a natural number times a power of two. `Magnitude` is that
number, `Magnitude.ofFloat` reads it off the bit pattern, and everything that writes floats as
decimals computes with it in exact natural-number arithmetic.
-/

namespace Gazetteer.Decimal

/-- The real number `mantissa * 2 ^ exponent`. -/
structure Magnitude where
  mantissa : Nat
  exponent : Int
  deriving DecidableEq, Repr

namespace Magnitude

/-- The exponent of the smallest positive float, of which all finite floats are multiples. -/
def leastExponent : Int := -1074

/-- The mantissa at which a normal float starts a new power of two. -/
def leadingBit : Nat := 0x10000000000000

/-- The size of a finite float: the sign is dropped, the exponent field chooses the power of two
and restores the leading bit of a normal number. -/
def ofFloat (x : Float) : Magnitude :=
  let bits := x.toBits.toNat
  let field := bits / leadingBit % 0x800
  let fraction := bits % leadingBit
  if field = 0 then ⟨fraction, leastExponent⟩
  else ⟨leadingBit + fraction, leastExponent + (field - 1 : Nat)⟩

/-- The size as a quotient of two natural numbers, the second of which is a power of two. -/
def ratio (v : Magnitude) : Nat × Nat :=
  (v.mantissa * Nat.pow 2 v.exponent.toNat, Nat.pow 2 (-v.exponent).toNat)

theorem ratio_snd_pos (v : Magnitude) : 0 < v.ratio.2 := Nat.two_pow_pos _

end Magnitude

/-- Whether a float carries a minus sign, which `-0.0` does. -/
def isNegative (x : Float) : Bool := x.toBits ≥ 0x8000000000000000

/-- Which way a number exactly between two candidates is rounded. -/
inductive Tie where
  | up
  | toEven
  deriving DecidableEq, Repr

/-- The nearest natural number to `num / den`, an exact half going where `tie` says. -/
def roundDiv (num den : Nat) (tie : Tie) : Nat :=
  let q := num / den
  let twice := 2 * (num % den)
  if twice < den then q
  else if den < twice then q + 1
  else match tie with
    | .up => q + 1
    | .toEven => if q % 2 = 0 then q else q + 1

end Gazetteer.Decimal
