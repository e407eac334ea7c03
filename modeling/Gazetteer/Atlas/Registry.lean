import Gazetteer.Atlas.Field

/-!
# The fields of each kind

`Field.ofKind` lists the fields that only entities of one kind have, `Field.allOf` those together
with the fields of every entity, and `Field.find?` finds one by its name. A placemark reads its
coordinates through its embedded point, and assigning them moves or makes that point.
-/

namespace Gazetteer

open Geodesy

namespace Field

/-- An object with the values of fields, a later one counting before an earlier one. -/
def dump (fields : List Field) (a : Atlas) (n : Node) : Value :=
  Value.ofMembers (fields.map fun f => (f.name, f.get a n))

/-- The dump of an entity that another one refers to; null if it is hidden. -/
def dumpOf (fields : List Field) (a : Atlas) (r : Ref) : Value :=
  match a.free? r with
  | some n => dump (common ++ fields) a n
  | none => .null

end Field

namespace Atlas

/-- The position of the embedded point of a placemark, which must not be hidden. -/
def embeddedPosition? (a : Atlas) (p : Placemark) : Option Coordinate :=
  match p.point?.bind a.free? with
  | some ⟨_, .point q⟩ => q.position
  | _ => none

/-- Moves a point. -/
def movePoint (a : Atlas) (r : Ref) (c : Option Coordinate) : Atlas :=
  a.modify r fun n =>
    match n.body with
    | .point p => { n with body := .point { p with position := c } }
    | _ => n

/-- Moves the embedded point of a placemark, which nobody else may read or change, or makes one
where there is no geometry. -/
def movePlacemark (a : Atlas) (p : Placemark) (c : Coordinate) :
    Except Refusal (Placemark × Atlas) :=
  match p.point?, p.geometry with
  | some r, _ => if a.isHeld r then .error .pointHeld else .ok (p, a.movePoint r (some c))
  | none, some r => .error (.notAPoint r.kind)
  | none, none =>
    let (r, b) := a.insert { body := .point (.at c) }
    .ok ({ p with geometry := some r }, b)

end Atlas

namespace Field

/-- A field of placemarks that is only read. -/
def ofPlacemark (name : String) (get : Atlas → Placemark → Value) : Field where
  name := name
  get a n :=
    match n.body with
    | .placemark p => get a p
    | _ => .null

/-- A field of placemarks that is assigned without a look at the atlas. -/
def ofPlacemarkPart (name : String) (get : Placemark → Value)
    (assign : Placemark → Value → Except Refusal Placemark) : Field :=
  { ofPlacemark name fun _ p => get p with
    assign? := some fun a n v =>
      match n.body with
      | .placemark p => (assign p v).map fun p => ({ n with body := .placemark p }, a)
      | _ => .ok (n, a) }

/-- A field of placemarks that is a string or null. -/
def ofPlacemarkText (name : String) (get : Placemark → Option String)
    (set : Placemark → Option String → Placemark) : Field :=
  ofPlacemarkPart name (fun p => .ofString? (get p)) fun p v => (Assigned.string? v).map (set p)

/-- Assigns coordinates to a placemark. Null drops an embedded point and leaves other geometries. -/
def assignPlacemarkPosition (a : Atlas) (p : Placemark) (v : Value) :
    Except Refusal (Placemark × Atlas) :=
  match v with
  | .null => .ok (if p.point?.isSome then { p with geometry := none } else p, a)
  | v => do a.movePlacemark p (← Assigned.coordinate v)

def placemark : List Field := [
  { ofPlacemark "coordinates" fun a p => positionValue (a.embeddedPosition? p) with
    assign? := some fun a n v =>
      match n.body with
      | .placemark p =>
        (assignPlacemarkPosition a p v).map fun (p, a) => ({ n with body := .placemark p }, a)
      | _ => .ok (n, a) },
  ofPlacemark "longitude" fun a p => partValue (·.longitude) (a.embeddedPosition? p),
  ofPlacemark "latitude" fun a p => partValue (·.latitude) (a.embeddedPosition? p),
  ofPlacemark "altitude" fun a p => partValue (·.altitude) (a.embeddedPosition? p),
  ofPlacemark "has_coordinates" fun a p => .bool (a.embeddedPosition? p).isSome,
  ofPlacemark "point" fun a p => .ofOption (p.point?.map (dumpOf point a)),
  ofPlacemark "geometry" fun a p => .ofOption (p.geometry.map (geometryValue a)),
  ofPlacemark "multigeometry" fun a p => .ofOption (p.multigeometry.map (dumpOf multiGeometry a)),
  ofPlacemarkText "address" (·.address) fun p s => { p with address := s },
  ofPlacemarkText "phone_number" (·.phoneNumber) fun p s => { p with phoneNumber := s },
  ofPlacemarkText "snippet" (·.snippet) fun p s => { p with snippet := s },
  ofPlacemarkText "style_url" (·.styleUrl) fun p s => { p with styleUrl := s },
  ofPlacemarkPart "extended_data" (fun p => .object p.extendedData) fun p v =>
    (Assigned.members v).map fun ms => { p with extendedData := ms }]

/-- A field of folders. -/
def ofFolder (name : String) (get : Folder → Nat) : Field where
  name := name
  get _ n :=
    match n.body with
    | .folder f => countValue (get f)
    | _ => .null

def folder : List Field := [
  ofFolder "placemark_count" (·.count .placemark),
  ofFolder "folder_count" (·.count .folder),
  ofFolder "point_count" (·.count .point),
  ofFolder "path_count" (·.count .path),
  ofFolder "polygon_count" (·.count .polygon),
  ofFolder "multigeometry_count" (·.count .multiGeometry),
  ofFolder "total_element_count" (·.children.length)]

/-- The fields that entities of a kind have beyond the common ones. -/
def ofKind : Kind → List Field
  | .point => point
  | .path => path
  | .polygon => polygon
  | .multiGeometry => multiGeometry
  | .placemark => placemark
  | .folder => folder

/-- All fields of entities of a kind. -/
def allOf (k : Kind) : List Field := common ++ ofKind k

/-- The field of a name that entities of a kind have. -/
def find? (k : Kind) (name : String) : Option Field :=
  match (ofKind k).find? (·.name = name) with
  | some f => some f
  | none => common.find? (·.name = name)

end Field

end Gazetteer
