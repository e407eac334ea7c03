import Gazetteer.Geodesy.Angle
import Gazetteer.Geodesy.Coordinate

/-!
# Bounds

A band of latitudes crossed with a span of longitudes. When `west` is greater than `east`, the span
runs across the antimeridian.
-/

namespace Gazetteer.Geodesy

structure Bounds where
  north : Float
  south : Float
  east : Float
  west : Float

namespace Bounds

/-- The bounds with the given sides, if they are in range and north is not below south. -/
def of (north south east west : Float) : Except BoundsError Bounds :=
  if !(isLatitude north && isLatitude south) then .error (.latitudes north south)
  else if north < south then .error (.upsideDown north south)
  else if !(isLongitude east && isLongitude west) then .error (.longitudes east west)
  else .ok ⟨north, south, east, west⟩

/-- Whether the span of longitudes runs across the antimeridian. -/
def crossesAntimeridian (b : Bounds) : Bool := b.east < b.west

/-- Whether a longitude lies in the span. -/
def spans (b : Bounds) (lon : Float) : Bool :=
  if b.crossesAntimeridian then b.west ≤ lon || lon ≤ b.east else b.west ≤ lon && lon ≤ b.east

/-- Whether a position lies within. -/
def containsPosition (b : Bounds) (lon lat : Float) : Bool :=
  if lat < b.south || b.north < lat then false else b.spans lon

def contains (b : Bounds) (c : Coordinate) : Bool := b.containsPosition c.longitude c.latitude

/-- The bounds of a single position. -/
def ofCoordinate (c : Coordinate) : Bounds := ⟨c.latitude, c.latitude, c.longitude, c.longitude⟩

/-- The bounds extended to a position. -/
def extend (b : Bounds) (c : Coordinate) : Bounds where
  north := greatest b.north c.latitude
  south := least b.south c.latitude
  east := greatest b.east c.longitude
  west := least b.west c.longitude

/-- The smallest bounds around coordinates that do not cross the antimeridian. -/
def enclosing : List Coordinate → Option Bounds
  | [] => none
  | c :: cs => some (cs.foldl extend (ofCoordinate c))

/-- West, south, east and north. -/
def toList (b : Bounds) : List Float := [b.west, b.south, b.east, b.north]

end Bounds

end Gazetteer.Geodesy
