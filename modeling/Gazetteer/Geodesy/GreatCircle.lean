import Gazetteer.Geodesy.Strategy

/-!
# Great circles

Bearing, midpoint and interpolation along the great circle between two coordinates. The formulas
give points that are in range up to rounding; `onSurface` removes the rounding.
-/

namespace Gazetteer.Geodesy.GreatCircle

/-- The distance along the great circle in kilometres. -/
def distance (a b : Coordinate) : Float := (Leg.between a b).sphereDistance earthRadius

/-- The initial bearing from `a` to `b` in degrees, from `0` up to but not including `360`. -/
def bearing (a b : Coordinate) : Float :=
  let φ₁ := radians a.latitude
  let φ₂ := radians b.latitude
  let dlam := radians (b.longitude - a.longitude)
  let y := dlam.sin * φ₂.cos
  let x := φ₁.cos * φ₂.sin - φ₁.sin * φ₂.cos * dlam.cos
  wrapTurn (degrees (y.atan2 x) + 360.0)

/-- The point on the ground at a longitude and latitude that are in range up to rounding. -/
def onSurface (lon lat : Float) : Except CalculationError Coordinate :=
  (Coordinate.atGround (clamp (-180.0) 180.0 lon) (clamp (-90.0) 90.0 lat)).mapError .offSurface

/-- The point on the ground half way between two coordinates. -/
def midpoint (a b : Coordinate) : Except CalculationError Coordinate :=
  let φ₁ := radians a.latitude
  let φ₂ := radians b.latitude
  let lam₁ := radians a.longitude
  let dlam := radians (b.longitude - a.longitude)
  let bx := φ₂.cos * dlam.cos
  let by_ := φ₂.cos * dlam.sin
  let lat := (φ₁.sin + φ₂.sin).atan2 (square (φ₁.cos + bx) + by_ * by_).sqrt
  let lon := lam₁ + by_.atan2 (φ₁.cos + bx)
  onSurface (wrapTurn (degrees lon + 180.0) - 180.0) (degrees lat)

/-- Angles that differ by less are taken for equal: the gap between one and the next float. -/
def angleGap : Float := 2.220446049250313e-16

/-- The point at a fraction of the way, strictly between the ends. -/
def between (a b : Coordinate) (fraction : Float) : Except CalculationError Coordinate :=
  let φ₁ := radians a.latitude
  let lam₁ := radians a.longitude
  let φ₂ := radians b.latitude
  let lam₂ := radians b.longitude
  let chord := square ((φ₁ - φ₂) / 2.0).sin + φ₁.cos * φ₂.cos * square ((lam₁ - lam₂) / 2.0).sin
  let d := 2.0 * (clamp 0.0 1.0 chord).sqrt.asin
  if d == 0.0 then .ok a
  else if (d - pi).abs < angleGap then .error .antipodal
  else
    let fa := ((1.0 - fraction) * d).sin / d.sin
    let fb := (fraction * d).sin / d.sin
    let x := fa * φ₁.cos * lam₁.cos + fb * φ₂.cos * lam₂.cos
    let y := fa * φ₁.cos * lam₁.sin + fb * φ₂.cos * lam₂.sin
    let z := fa * φ₁.sin + fb * φ₂.sin
    let lat := degrees (z.atan2 (x * x + y * y).sqrt)
    let lon := degrees (y.atan2 x)
    if lat.isFinite && lon.isFinite then onSurface lon lat else .error (.notFinite fraction)

/-- The point at a fraction of the way. The ends are themselves, and half the way is the midpoint. -/
def interpolate (a b : Coordinate) (fraction : Float) : Except CalculationError Coordinate :=
  if fraction == 0.0 then .ok a
  else if fraction == 1.0 then .ok b
  else if fraction == 0.5 then midpoint a b
  else between a b fraction

/-- Whether a number is a fraction of a way. -/
def isFraction (x : Float) : Bool := 0.0 ≤ x && x ≤ 1.0

/-- The point at a fraction of the way between two positions that may be missing. A wrong fraction
is reported before that. -/
def interpolate? (a b : Option Coordinate) (fraction : Float) :
    Except Error (Option Coordinate) :=
  if !isFraction fraction then .error (.fraction fraction)
  else
    match a, b with
    | some a, some b => ((interpolate a b fraction).mapError .calculation).map some
    | _, _ => .ok none

end Gazetteer.Geodesy.GreatCircle
