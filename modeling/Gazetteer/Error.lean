import Gazetteer.Geodesy.Error
import Gazetteer.Kind
import Gazetteer.Lookup.Criteria
import Gazetteer.Lookup.FieldPath

/-!
# What can go wrong in an atlas

A value may be refused by a field, a query may be malformed, and a search for one entity may find
none or several. `Error.message` words the causes.
-/

namespace Gazetteer

/-- Why a field, an entity or a folder refuses something. -/
inductive Refusal where
  | readOnly
  | parentIsDerived
  | noField (kind : Kind) (name : String)
  | notString (got : Value)
  | notBool (got : Value)
  | notObject (got : Value)
  | notCoordinates (got : Value)
  | notRings (got : Value)
  | coordinate (cause : Geodesy.CoordinateError)
  /-- As `coordinate`, for fields that say what the cause is a part of. -/
  | invalid (cause : Geodesy.Error)
  | shortPath
  | shortRing (count : Nat)
  | pointHeld
  | notAPoint (kind : Kind)
  | itemHeld (kind : Kind)
  | ownDescendant
  | descendantHeld

/-- How many vertices a closed ring has at least. -/
def minRingPoints : Nat := 4

def Refusal.message : Refusal → String
  | readOnly => "field is read-only"
  | parentIsDerived => "the parent is set by adding the entity to a container"
  | noField kind name => kind.name ++ " has no field '" ++ name ++ "'"
  | notString got => s!"expected a string or null, got {got.text}"
  | notBool got => s!"expected true or false, got {got.text}"
  | notObject got => s!"expected an object, got {got.text}"
  | notCoordinates got => s!"expected a list of coordinates, got {got.text}"
  | notRings got => s!"expected a list of rings, got {got.text}"
  | coordinate cause => cause.message
  | invalid cause => cause.message
  | shortPath => "a path needs at least 2 points"
  | shortRing count => s!"a ring needs at least {minRingPoints} points, got {count}"
  | pointHeld => "the embedded point is borrowed elsewhere"
  | notAPoint kind => s!"placemark geometry is a {kind.name}, not a Point"
  | itemHeld kind =>
    s!"cannot add a {kind.name} that is currently borrowed (is it the container itself?)"
  | ownDescendant => "a folder cannot be added below one of its own descendants"
  | descendantHeld => "a descendant folder is borrowed; cannot rule out a cycle"

/-- Why a query is malformed. -/
inductive Malformed where
  | limit (cause : LimitError)
  | unknownLookup (name : String)
  | notArray (got : Value)
  | notPair (got : Value)
  | notFlag (got : Value)
  | pattern
  | unorderable (kind : Kind)
  | flatFields (count : Nat)
  | radius (value : Float)
  | bounds (cause : Geodesy.BoundsError)

def Malformed.message : Malformed → String
  | limit cause => cause.message
  | unknownLookup name => "unknown lookup '" ++ name ++ "'"
  | notArray got => "'in' expects an array, got " ++ got.text
  | notPair got => "'range' expects a [low, high] pair, got " ++ got.text
  | notFlag got => "'isnull' expects true or false, got " ++ got.text
  | pattern => "invalid regex"
  | unorderable kind => s!"cannot order {kind.name} by this field"
  | flatFields count => s!"values_list(flat=true) needs exactly one field, got {count}"
  | radius value => s!"radius must be a non-negative number, got {Decimal.plainText value}"
  | bounds cause => (Geodesy.Error.bounds cause).message

inductive Error where
  /-- A value or an entity was refused; `field` says where. -/
  | validation (field : Option String) (cause : Refusal)
  | notFound (kind : Kind) (criteria : Criteria)
  | multipleReturned (kind : Kind) (count : Nat) (criteria : Criteria)
  /-- A query was malformed; `field` is the key or field at fault. -/
  | query (field : Option String) (cause : Malformed)
  | geodesy (cause : Geodesy.Error)

/-- Where an error lies, as it stands in messages. -/
def fieldText : Option String → String
  | some name => " on '" ++ name ++ "'"
  | none => ""

def Error.message : Error → String
  | validation field cause => "Validation error" ++ fieldText field ++ ": " ++ cause.message
  | notFound kind criteria => s!"{kind.name} matching query ({criteria.text}) does not exist"
  | multipleReturned kind count criteria =>
    s!"get() returned more than one {kind.name} -- it returned {count}! Lookup was: " ++
      criteria.text
  | query field cause => "Query error" ++ fieldText field ++ ": " ++ cause.message
  | geodesy cause => s!"Geodesy error: {cause.message}"

/-- A failure of geodesy: a coordinate was refused, or else a computation failed. -/
def Error.ofGeodesy : Geodesy.Error → Error
  | .coordinate cause => .validation (some "coordinates") (.coordinate cause)
  | cause => .geodesy cause

end Gazetteer
