import Gazetteer.Geodesy.Angle
import Gazetteer.Geodesy.Coordinate

/-!
# Distance strategies

A `Strategy` is a way of measuring the distance between two positions in kilometres: on a sphere,
on a plane, on the ellipsoid, or whichever of these suits the distance. All of them take any four
numbers, refuse those that are no latitudes and longitudes, and then always answer.
-/

namespace Gazetteer.Geodesy

/-! ### The earth -/

/-- The mean radius of the earth in kilometres. -/
def earthRadius : Float := 6371.0088

/-- The longer half axis of the ellipsoid in kilometres. -/
def semiMajor : Float := 6378137.0 / 1000.0

/-- The shorter half axis of the ellipsoid in kilometres. -/
def semiMinor : Float := 6356752.314245 / 1000.0

/-- How much shorter the polar axis of the ellipsoid is, in parts of the other. -/
def flattening : Float := 1.0 / 298.257223563

/-- Half of the circumference, beyond which no distance goes. -/
def longestDistance : Float := pi * earthRadius

/-- Positions that differ by less than this many degrees are taken for one. -/
def coincidence : Float := 1e-6

/-! ### Pairs of positions -/

/-- Two positions in degrees, which may be out of range. -/
structure Leg where
  lat1 : Float
  lon1 : Float
  lat2 : Float
  lon2 : Float

namespace Leg

/-- The leg between two coordinates. -/
def between (a b : Coordinate) : Leg := ⟨a.latitude, a.longitude, b.latitude, b.longitude⟩

/-- Refuses the first number that is out of range. -/
def check (g : Leg) : Except Error Unit := do
  (checkLatitude g.lat1).mapError .coordinate
  (checkLongitude g.lon1).mapError .coordinate
  (checkLatitude g.lat2).mapError .coordinate
  (checkLongitude g.lon2).mapError .coordinate

/-! ### Sphere and plane -/

/-- The squared half chord between the positions on a sphere of radius one. -/
def haversine (g : Leg) : Float :=
  let φ₁ := radians g.lat1
  let φ₂ := radians g.lat2
  let dφ := radians (g.lat2 - g.lat1)
  let dlam := radians (g.lon2 - g.lon1)
  square (dφ / 2.0).sin + φ₁.cos * φ₂.cos * square (dlam / 2.0).sin

/-- The length of the great circle on a sphere. -/
def sphereDistance (radius : Float) (g : Leg) : Float :=
  2.0 * (clamp 0.0 1.0 g.haversine).sqrt.asin * radius

/-- The length on a plane that is scaled by the cosine of the mean latitude. The short way round is
taken, and no length exceeds the longest distance. -/
def planeDistance (g : Leg) : Float :=
  let φ₁ := radians g.lat1
  let φ₂ := radians g.lat2
  let raw := radians (g.lon2 - g.lon1)
  let dlam := if pi < raw then raw - 2.0 * pi else if raw < -pi then raw + 2.0 * pi else raw
  let x := dlam * ((φ₁ + φ₂) / 2.0).cos
  let y := φ₂ - φ₁
  least (earthRadius * (x * x + y * y).sqrt) longestDistance

/-- The length of the great circle, of a leg that is in range. -/
def onSphere (radius : Float) (g : Leg) : Except Error Float := do
  g.check
  return g.sphereDistance radius

/-- The length on the plane, of a leg that is in range. -/
def onPlane (g : Leg) : Except Error Float := do
  g.check
  return g.planeDistance

/-! ### Ellipsoid -/

/-- The positions on the auxiliary sphere: sines and cosines of their reduced latitudes and the
difference of their longitudes. -/
structure Reduced where
  sinU₁ : Float
  cosU₁ : Float
  sinU₂ : Float
  cosU₂ : Float
  difference : Float

/-- The arc between two positions on the auxiliary sphere. -/
structure Arc where
  sinSigma : Float
  cosSigma : Float
  sigma : Float
  cosSqAlpha : Float
  cosTwiceMiddle : Float

/-- How the search for the arc ends. -/
inductive ArcSearch where
  | coincident
  | found (arc : Arc)
  | exhausted

def reduce (g : Leg) : Reduced :=
  let u₁ := ((1.0 - flattening) * (radians g.lat1).tan).atan
  let u₂ := ((1.0 - flattening) * (radians g.lat2).tan).atan
  { sinU₁ := u₁.sin, cosU₁ := u₁.cos, sinU₂ := u₂.sin, cosU₂ := u₂.cos
    difference := radians (g.lon2 - g.lon1) }

/-- The arc for an estimate of the difference of longitudes on the auxiliary sphere, and the next
estimate; nothing if the positions coincide there. -/
def Reduced.refine? (r : Reduced) (estimate : Float) : Option (Arc × Float) :=
  let sinLam := estimate.sin
  let cosLam := estimate.cos
  let sinSigma := (square (r.cosU₂ * sinLam) +
    square (r.cosU₁ * r.sinU₂ - r.sinU₁ * r.cosU₂ * cosLam)).sqrt
  if sinSigma == 0.0 then none
  else
    let cosSigma := r.sinU₁ * r.sinU₂ + r.cosU₁ * r.cosU₂ * cosLam
    let sigma := sinSigma.atan2 cosSigma
    let sinAlpha := r.cosU₁ * r.cosU₂ * sinLam / sinSigma
    let cosSqAlpha := 1.0 - sinAlpha * sinAlpha
    let cosTwiceMiddle :=
      if cosSqAlpha == 0.0 then 0.0 else cosSigma - 2.0 * r.sinU₁ * r.sinU₂ / cosSqAlpha
    let c := flattening / 16.0 * cosSqAlpha * (4.0 + flattening * (4.0 - 3.0 * cosSqAlpha))
    let next := r.difference + (1.0 - c) * flattening * sinAlpha *
      (sigma + c * sinSigma *
        (cosTwiceMiddle + c * cosSigma * (-1.0 + 2.0 * square cosTwiceMiddle)))
    some (⟨sinSigma, cosSigma, sigma, cosSqAlpha, cosTwiceMiddle⟩, next)

/-- Refines an estimate until two in a row differ by no more than the tolerance, at most as often
as given. -/
def Reduced.search (r : Reduced) (tolerance : Float) : Nat → Float → ArcSearch
  | 0, _ => .exhausted
  | steps + 1, estimate =>
    match r.refine? estimate with
    | none => .coincident
    | some (arc, next) =>
      if (next - estimate).abs ≤ tolerance then .found arc else r.search tolerance steps next

/-- The length of an arc on the ellipsoid, by its series. -/
def Arc.length (a : Arc) : Float :=
  let uSq := a.cosSqAlpha * (semiMajor * semiMajor - semiMinor * semiMinor) /
    (semiMinor * semiMinor)
  let bigA := 1.0 + uSq / 16384.0 * (4096.0 + uSq * (-768.0 + uSq * (320.0 - 175.0 * uSq)))
  let bigB := uSq / 1024.0 * (256.0 + uSq * (-128.0 + uSq * (74.0 - 47.0 * uSq)))
  let deltaSigma := bigB * a.sinSigma *
    (a.cosTwiceMiddle + bigB / 4.0 *
      (a.cosSigma * (-1.0 + 2.0 * square a.cosTwiceMiddle) -
        bigB / 6.0 * a.cosTwiceMiddle * (-3.0 + 4.0 * square a.sinSigma) *
          (-3.0 + 4.0 * square a.cosTwiceMiddle)))
  semiMinor * bigA * (a.sigma - deltaSigma)

end Leg

/-- How far the ellipsoidal strategy goes to find an arc. -/
structure Vincenty where
  maxIterations : Nat
  tolerance : Float

namespace Vincenty

def standard : Vincenty := ⟨100, 1e-12⟩

/-- At least one iteration is made. -/
def of (maxIterations : Nat) (tolerance : Float) : Vincenty := ⟨max maxIterations 1, tolerance⟩

/-- The distance on the ellipsoid. Where no arc is found, the sphere is asked. -/
def calculate (v : Vincenty) (g : Leg) : Except Error Float := do
  g.check
  if (g.lat1 - g.lat2).abs < coincidence && (g.lon1 - g.lon2).abs < coincidence then return 0.0
  else
    let r := g.reduce
    match r.search v.tolerance v.maxIterations r.difference with
    | .coincident => return 0.0
    | .found arc => if arc.length.isFinite then return arc.length else g.onSphere earthRadius
    | .exhausted => g.onSphere earthRadius

end Vincenty

/-! ### Strategies -/

inductive Strategy where
  | haversine (radius : Float)
  | planar
  | vincenty (v : Vincenty)
  /-- The plane for short distances, the sphere for longer ones, and with `highAccuracy` the
  ellipsoid for the longest. -/
  | adaptive (highAccuracy : Bool) (v : Vincenty)

namespace Strategy

/-- Kilometres from which on the plane is too coarse. -/
def planarLimit : Float := 50.0

/-- Kilometres from which on the sphere is too coarse. -/
def sphericalLimit : Float := 10000.0

/-- The strategy that an adaptive one chooses for a distance estimated on the plane. -/
def route (highAccuracy : Bool) (v : Vincenty) (estimate : Float) : Strategy :=
  if estimate < planarLimit then .planar
  else if estimate < sphericalLimit || !highAccuracy then .haversine earthRadius
  else .vincenty v

/-- The distance of a leg in kilometres. Every strategy checks the leg itself, also one that another
has passed it on to. -/
def calculate : Strategy → Leg → Except Error Float
  | .haversine radius, g => g.onSphere radius
  | .planar, g => g.onPlane
  | .vincenty v, g => v.calculate g
  | .adaptive highAccuracy v, g => do
    let estimate ← g.onPlane
    if estimate < planarLimit then return estimate
    else if estimate < sphericalLimit || !highAccuracy then g.onSphere earthRadius
    else v.calculate g

def name : Strategy → String
  | .haversine _ => "haversine"
  | .planar => "planar"
  | .vincenty _ => "vincenty"
  | .adaptive _ _ => "adaptive"

/-- The strategy that answers for a leg; only an adaptive one passes legs on. -/
def select (s : Strategy) (g : Leg) : Except Error Strategy := do
  g.check
  return match s with
    | .adaptive highAccuracy v => route highAccuracy v g.planeDistance
    | s => s

end Strategy

end Gazetteer.Geodesy
