import Gazetteer.Geodesy.Error
import Gazetteer.Text.Blank
import Gazetteer.Text.Split

/-!
# Coordinates

A `Coordinate` is a position with longitude and latitude in degrees and altitude in metres, all of
them in range by its type. It is made from numbers, from `lon,lat,alt` texts and from dynamic
values; every way of making one ends in `Coordinate.of`.
-/

namespace Gazetteer.Geodesy

open Decimal

def isLongitude (x : Float) : Bool := x.isFinite && -180.0 ≤ x && x ≤ 180.0

def isLatitude (x : Float) : Bool := x.isFinite && -90.0 ≤ x && x ≤ 90.0

def isAltitude (x : Float) : Bool := x.isFinite

/-- A position on or above the surface. -/
structure Coordinate where
  longitude : Float
  latitude : Float
  altitude : Float
  longitude_valid : isLongitude longitude = true
  latitude_valid : isLatitude latitude = true
  altitude_valid : isAltitude altitude = true

/-- Refuses what is no longitude. -/
def checkLongitude (lon : Float) : Except CoordinateError Unit :=
  if isLongitude lon then .ok () else .error (.longitude lon)

/-- Refuses what is no latitude. -/
def checkLatitude (lat : Float) : Except CoordinateError Unit :=
  if isLatitude lat then .ok () else .error (.latitude lat)

namespace Coordinate

/-- The coordinate with the given parts. Of several parts out of range the first is reported. -/
def of (lon lat alt : Float) : Except CoordinateError Coordinate :=
  if hlon : isLongitude lon then
    if hlat : isLatitude lat then
      if halt : isAltitude alt then .ok ⟨lon, lat, alt, hlon, hlat, halt⟩
      else .error (.altitude alt)
    else .error (.latitude lat)
  else .error (.longitude lon)

/-- The coordinate at ground level. -/
def atGround (lon lat : Float) : Except CoordinateError Coordinate := of lon lat 0.0

/-- The coordinate of two or more numbers, of which those after the third are ignored. -/
def ofList : List Float → Except CoordinateError Coordinate
  | [lon, lat] => atGround lon lat
  | lon :: lat :: alt :: _ => of lon lat alt
  | parts => .error (.componentCount parts.length)

/-- Longitude, latitude and altitude. -/
def toList (c : Coordinate) : List Float := [c.longitude, c.latitude, c.altitude]

/-! ### Texts -/

/-- The text of a coordinate. -/
def text (c : Coordinate) : String := ",".intercalate (c.toList.map plainText)

/-- The numbers of a text with commas between them and blanks around them. -/
def numbersOfText (s : String) : Except NumeralError (List Float) :=
  (Text.splitAt ',' s.toList).mapM fun part => float? (Text.trim part)

/-- The coordinate that a text denotes. -/
def ofText (s : String) : Except CoordinateError Coordinate :=
  match numbersOfText s with
  | .ok parts => ofList parts
  | .error cause => .error (.unreadable s cause)

/-! ### Dynamic values -/

/-- The value of a coordinate: an object with a member for each part. -/
def toValue (c : Coordinate) : Value :=
  .object [("altitude", .float c.altitude), ("latitude", .float c.latitude),
    ("longitude", .float c.longitude)]

/-- A number, also one written as a string. -/
def numberOf? : Value → Option Float
  | .string s => (float? (Text.trim s.toList)).toOption
  | v => v.number?

/-- The coordinate that a value denotes: a text, an array of numbers or an object with the parts as
members, of which the altitude may be missing. -/
def ofValue : Value → Except CoordinateError Coordinate
  | .string s => ofText s
  | .array items =>
    match items.mapM numberOf? with
    | some parts => ofList parts
    | none => .error (.notNumeric (.array items))
  | .object members =>
    let part (key : String) : Option Float := (members.lookup key).bind numberOf?
    match part "longitude", part "latitude" with
    | some lon, some lat => of lon lat ((part "altitude").getD 0.0)
    | _, _ => .error (.noPosition (.object members))
  | v => .error (.unsupported v)

/-- The coordinate that a value denotes, if it denotes one. -/
def ofValue? (v : Value) : Option Coordinate := (ofValue v).toOption

theorem of_eq_ok_iff {lon lat alt : Float} {c : Coordinate} :
    of lon lat alt = .ok c ↔
      c.longitude = lon ∧ c.latitude = lat ∧ c.altitude = alt := by
  constructor
  · intro h
    unfold of at h
    split at h
    · split at h
      · split at h
        · cases h; exact ⟨rfl, rfl, rfl⟩
        · cases h
      · cases h
    · cases h
  · rintro ⟨rfl, rfl, rfl⟩
    simp [of, c.longitude_valid, c.latitude_valid, c.altitude_valid]

end Coordinate

end Gazetteer.Geodesy
