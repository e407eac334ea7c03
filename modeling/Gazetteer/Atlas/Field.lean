import Gazetteer.Atlas.Collect
import Gazetteer.Error

/-!
# Fields

A `Field` is a named property of entities: how its value is read off a node, and how another value
is assigned, if it can be. This module has the fields that all kinds share and those of geometries;
the values that the assigned ones demand are read by `Assigned.string?` and the functions beside it.
-/

namespace Gazetteer

open Geodesy

/-- A property of entities of some kind. An assignment may also change the atlas around the node. -/
structure Field where
  name : String
  get : Atlas → Node → Value
  assign? : Option (Atlas → Node → Value → Except Refusal (Node × Atlas)) := none

namespace Assigned

/-! ### Values that fields take -/

/-- A string, or null for none. -/
def string? : Value → Except Refusal (Option String)
  | .null => .ok none
  | .string s => .ok (some s)
  | got => .error (.notString got)

def flag : Value → Except Refusal Bool
  | .bool b => .ok b
  | got => .error (.notBool got)

def coordinate (v : Value) : Except Refusal Coordinate :=
  (Coordinate.ofValue v).mapError fun cause => .invalid (.coordinate cause)

/-- A list of coordinates, of which none may be invalid, or null for the empty one. -/
def coordinates : Value → Except Refusal (List Coordinate)
  | .null => .ok []
  | .array items => items.mapM coordinate
  | got => .error (.notCoordinates got)

/-- A list of rings, or null for the empty one. -/
def rings : Value → Except Refusal (List (List Coordinate))
  | .null => .ok []
  | .array items => items.mapM coordinates
  | got => .error (.notRings got)

/-- An object, or null for the empty one. -/
def members : Value → Except Refusal (List (String × Value))
  | .null => .ok []
  | .object ms => .ok ms
  | got => .error (.notObject got)

end Assigned

/-- The value of a list of coordinates: an array with three numbers for each. -/
def verticesValue (cs : List Coordinate) : Value :=
  .array (cs.map fun c => .array (c.toList.map .float))

def countValue (n : Nat) : Value := .int n

/-- The value of an optional coordinate: its object, or null. -/
def positionValue : Option Coordinate → Value
  | some c => c.toValue
  | none => .null

/-- One part of an optional coordinate, or null. -/
def partValue (part : Coordinate → Float) : Option Coordinate → Value
  | some c => .float (part c)
  | none => .null

namespace Field

/-- A field that an assignment to the node alone changes. -/
def ofNode (name : String) (get : Node → Value) (assign : Node → Value → Except Refusal Node) :
    Field :=
  ⟨name, fun _ n => get n, some fun a n v => (assign n v).map fun m => (m, a)⟩

/-! ### All kinds -/

/-- A field of the details that is a string or null. -/
def ofDetail (name : String) (get : Details → Option String)
    (set : Details → Option String → Details) : Field :=
  ofNode name (fun n => .ofString? (get n.details)) fun n v =>
    (Assigned.string? v).map fun s => { n with details := set n.details s }

/-- What is shown of a folder in the fields of what it lists. A hidden folder shows nothing. -/
def parentValue (a : Atlas) (n : Node) : Value :=
  match n.details.parent.bind a.free? with
  | some folder =>
    .object [("id", .ofString? folder.details.id), ("name", .ofString? folder.details.name)]
  | none => .null

/-- The fields of every entity. -/
def common : List Field := [
  { name := "kind", get := fun _ n => .string n.kind.name },
  ofDetail "id" (·.id) fun d s => { d with id := s },
  ofDetail "name" (·.name) fun d s => { d with name := s },
  ofDetail "description" (·.description) fun d s => { d with description := s },
  ofNode "visibility" (fun n => .bool n.details.visibility) fun n v =>
    (Assigned.flag v).map fun b => { n with details := { n.details with visibility := b } },
  { name := "parent", get := parentValue, assign? := some fun _ _ _ => .error .parentIsDerived }]

/-! ### Geometries -/

/-- A field of the drawing of a geometry. -/
def ofDrawing (name : String) (get : Drawing → Value)
    (assign : Drawing → Value → Except Refusal Drawing) : Field :=
  ofNode name
    (fun n =>
      match n.body.drawing? with
      | some d => get d
      | none => .null)
    (fun n v =>
      match n.body.drawing? with
      | some d => (assign d v).map fun d => { n with body := n.body.withDrawing d }
      | none => .ok n)

/-- How a point, a path or a polygon is drawn. -/
def drawing : List Field := [
  ofDrawing "extrude" (fun d => .bool d.extrude) fun d v =>
    (Assigned.flag v).map fun b => { d with extrude := b },
  ofDrawing "tessellate" (fun d => .bool d.tessellate) fun d v =>
    (Assigned.flag v).map fun b => { d with tessellate := b },
  ofDrawing "altitude_mode" (fun d => .ofString? d.altitudeMode) fun d v =>
    (Assigned.string? v).map fun s => { d with altitudeMode := s }]

/-- A field of points that is only read. -/
def ofPoint (name : String) (get : Point → Value) : Field where
  name := name
  get _ n :=
    match n.body with
    | .point p => get p
    | _ => .null

/-- The position to assign to a point; null clears it. -/
def assignPosition (v : Value) : Except Refusal (Option Coordinate) :=
  match v with
  | .null => .ok none
  | v => ((Coordinate.ofValue v).mapError Refusal.coordinate).map some

def point : List Field := [
  { ofPoint "coordinates" fun p => positionValue p.position with
    assign? := some fun a n v =>
      match n.body with
      | .point p =>
        (assignPosition v).map fun c => ({ n with body := .point { p with position := c } }, a)
      | _ => .ok (n, a) },
  ofPoint "longitude" fun p => partValue (·.longitude) p.position,
  ofPoint "latitude" fun p => partValue (·.latitude) p.position,
  ofPoint "altitude" fun p => partValue (·.altitude) p.position,
  ofPoint "has_coordinates" fun p => .bool p.position.isSome] ++ drawing

/-- A field of paths that is only read. -/
def ofPath (name : String) (get : Path → Value) : Field where
  name := name
  get _ n :=
    match n.body with
    | .path p => get p
    | _ => .null

def path : List Field := [
  { ofPath "coordinates" fun p => verticesValue p.vertices with
    assign? := some fun a n v =>
      match n.body with
      | .path p =>
        (Assigned.coordinates v).map fun cs => ({ n with body := .path { p with vertices := cs } }, a)
      | _ => .ok (n, a) },
  ofPath "point_count" fun p => countValue p.vertices.length,
  ofPath "length_km" fun p => .float p.length] ++ drawing

/-- A field of polygons that is only read. -/
def ofPolygon (name : String) (get : Polygon → Value) : Field where
  name := name
  get _ n :=
    match n.body with
    | .polygon p => get p
    | _ => .null

def polygon : List Field := [
  { ofPolygon "outer_boundary" fun p => verticesValue p.outer with
    assign? := some fun a n v =>
      match n.body with
      | .polygon p =>
        (Assigned.coordinates v).map fun cs => ({ n with body := .polygon { p with outer := cs } }, a)
      | _ => .ok (n, a) },
  { ofPolygon "inner_boundaries" fun p => .array (p.inner.map verticesValue) with
    assign? := some fun a n v =>
      match n.body with
      | .polygon p =>
        (Assigned.rings v).map fun rs => ({ n with body := .polygon { p with inner := rs } }, a)
      | _ => .ok (n, a) },
  ofPolygon "coordinates" fun p => verticesValue p.outer,
  ofPolygon "boundary_point_count" fun p => countValue p.outer.length,
  ofPolygon "hole_count" fun p => countValue p.inner.length] ++ drawing

/-- What is shown of a geometry in the fields of what it is part of. A hidden one shows its kind. -/
def geometryValue (a : Atlas) (r : Ref) : Value :=
  match a.free? r with
  | some n =>
    .object [("id", .ofString? n.details.id), ("kind", .string r.kind.name),
      ("name", .ofString? n.details.name)]
  | none => .object [("kind", .string r.kind.name)]

/-- A field of groups of geometries. -/
def ofGroup (name : String) (get : Atlas → MultiGeometry → Value) : Field where
  name := name
  get a n :=
    match n.body with
    | .multiGeometry m => get a m
    | _ => .null

/-- The count of the geometries of a kind in a group, at any depth. -/
def ofGroupCount (name : String) (k : Kind) : Field :=
  ofGroup name fun a m => countValue (a.unwrap k m.members).length

def multiGeometry : List Field := [
  ofGroup "geometries" fun a m => .array (m.members.map (geometryValue a)),
  ofGroup "geometry_count" fun _ m => countValue m.members.length,
  ofGroupCount "point_count" .point,
  ofGroupCount "path_count" .path,
  ofGroupCount "polygon_count" .polygon,
  ofGroupCount "multigeometry_count" .multiGeometry]

end Field

end Gazetteer
