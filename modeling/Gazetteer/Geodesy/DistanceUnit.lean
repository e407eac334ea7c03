import Gazetteer.Geodesy.Error
import Gazetteer.Text.Casing

/-!
# Units of distance
-/

namespace Gazetteer.Geodesy

inductive DistanceUnit where
  | meters
  | kilometers
  | miles
  | nauticalMiles
  | feet
  | yards
  deriving DecidableEq, Repr

namespace DistanceUnit

def all : List DistanceUnit := [meters, kilometers, miles, nauticalMiles, feet, yards]

/-- How many of the unit make a kilometre. -/
def perKilometer : DistanceUnit → Float
  | meters => 1000.0
  | kilometers => 1.0
  | miles => 0.621371
  | nauticalMiles => 0.539957
  | feet => 3280.84
  | yards => 1093.61

/-- A distance in kilometres in this unit. -/
def ofKilometers (u : DistanceUnit) (km : Float) : Float := km * u.perKilometer

/-- The full name of the unit. -/
def name : DistanceUnit → String
  | meters => "meters"
  | kilometers => "kilometers"
  | miles => "miles"
  | nauticalMiles => "nautical_miles"
  | feet => "feet"
  | yards => "yards"

/-- The names that a unit is asked for by, in lower case. -/
def aliases : DistanceUnit → List String
  | meters => ["m", "meters", "metres"]
  | kilometers => ["km", "kilometers", "kilometres"]
  | miles => ["mi", "miles"]
  | nauticalMiles => ["nm", "nmi", "nautical_miles"]
  | feet => ["ft", "feet"]
  | yards => ["yd", "yards"]

/-- The unit with a full name. -/
def ofName? (s : String) : Option DistanceUnit := all.find? (·.name == s)

/-- The unit with an alias, read without regard to case. -/
def parse (s : String) : Except ConfigError DistanceUnit :=
  let s := Text.lowercase s
  match all.find? (·.aliases.contains s) with
  | some u => .ok u
  | none => .error (.unknownUnit s)

end DistanceUnit

end Gazetteer.Geodesy
