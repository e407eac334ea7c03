import Gazetteer.Atlas.Registry

/-!
# Reading and changing entities

Paths lead from a field of an entity into its value. `Atlas.assign` changes one field,
`Atlas.update` several and then checks the whole; a failure keeps what was assigned before it.
`Atlas.position?` is where an entity lies as far as queries are concerned.
-/

namespace Gazetteer

open Geodesy

/-! ### Paths -/

/-- The index that a segment of a path denotes: digits after an optional plus, below `2 ^ 64`. -/
def index? (segment : String) : Option Nat :=
  let digits := match segment.toList with
    | '+' :: r => r
    | cs => cs
  if digits.isEmpty || !digits.all Char.isDigit then none
  else
    let n := digits.foldl (fun n c => 10 * n + (c.toNat - '0'.toNat)) 0
    if n < 0x10000000000000000 then some n else none

/-- What a segment leads to inside a value: a member of an object or an item of an array. -/
def Value.step? (v : Value) (segment : String) : Option Value :=
  match v with
  | .object members => members.lookup segment
  | .array items => (index? segment).bind fun i => items[i]?
  | _ => none

/-- What a path leads to inside a value. -/
def Value.follow? (v : Value) (path : FieldPath) : Option Value := path.foldlM Value.step? v

/-! ### Nodes -/

namespace Node

/-- The value of a field. -/
def field? (a : Atlas) (n : Node) (name : String) : Option Value :=
  (Field.find? n.kind name).map (·.get a n)

/-- What a path leads to: its first segment names a field, the others step into its value. -/
def resolve? (a : Atlas) (n : Node) : FieldPath → Option Value
  | [] => none
  | name :: rest => (n.field? a name).bind (·.follow? rest)

/-- The values of all fields. -/
def fieldMap (a : Atlas) (n : Node) : Value := Field.dump (Field.allOf n.kind) a n

/-- Refuses a ring with fewer vertices than a closed one has. An empty ring is none. -/
def checkRing (field : String) (ring : List Coordinate) : Except Error Unit :=
  if !ring.isEmpty && ring.length < minRingPoints then
    .error (.validation (some field) (.shortRing ring.length))
  else .ok ()

/-- Refuses an entity whose fields do not go together. -/
def check (n : Node) : Except Error Unit :=
  match n.body with
  | .path p =>
    if p.vertices.length = 1 then .error (.validation (some "coordinates") .shortPath) else .ok ()
  | .polygon p => do
    checkRing "outer_boundary" p.outer
    p.inner.forM (checkRing "inner_boundaries")
  | _ => .ok ()

/-- Assigns a field. -/
def assign (a : Atlas) (n : Node) (name : String) (v : Value) : Except Error (Node × Atlas) :=
  match Field.find? n.kind name with
  | none => .error (.validation (some name) (.noField n.kind name))
  | some f =>
    match f.assign? with
    | none => .error (.validation (some name) .readOnly)
    | some assign => (assign a n v).mapError (.validation (some name))

/-- The coordinate that the field `coordinates` shows: its own, or the first of a list. -/
def probe? (a : Atlas) (n : Node) : Option Coordinate :=
  match n.field? a "coordinates" with
  | some (.array []) => none
  | some (.array (.array items :: _)) => Coordinate.ofValue? (.array items)
  | some (.array (.object members :: _)) => Coordinate.ofValue? (.object members)
  | some v => Coordinate.ofValue? v
  | none => none

/-- Where the entity lies. -/
def position? (a : Atlas) (n : Node) : Option Coordinate :=
  match n.body with
  | .point p => p.position
  | .placemark p => a.embeddedPosition? p
  | .path _ | .polygon _ => n.probe? a
  | .multiGeometry _ | .folder _ => none

end Node

/-! ### Entities of an atlas -/

namespace Atlas

/-- What a path leads to from an entity. -/
def resolve? (a : Atlas) (r : Ref) (path : FieldPath) : Option Value :=
  (a.node? r).bind (·.resolve? a path)

/-- The values of all fields of an entity. -/
def fieldMap (a : Atlas) (r : Ref) : Value := .ofOption ((a.node? r).map (·.fieldMap a))

/-- Where an entity lies that is not hidden. -/
def position? (a : Atlas) (r : Ref) : Option Coordinate := (a.free? r).bind (·.position? a)

/-- Refuses an entity whose fields do not go together. -/
def check (a : Atlas) (r : Ref) : Except Error Unit :=
  match a.node? r with
  | some n => n.check
  | none => .ok ()

/-- Assigns a field of an entity. -/
def assign (a : Atlas) (r : Ref) (name : String) (v : Value) : Except Error Atlas :=
  match a.node? r with
  | some n => (n.assign a name v).map fun (m, b) => b.set r m
  | none => .ok a

/-- Assigns fields of an entity one after the other, up to the first that is refused. -/
def assignAll (a : Atlas) (r : Ref) : List (String × Value) → Except Error Unit × Atlas
  | [] => (.ok (), a)
  | (name, v) :: rest =>
    match a.assign r name v with
    | .ok b => b.assignAll r rest
    | .error e => (.error e, a)

/-- Assigns fields of an entity, then checks it. -/
def update (a : Atlas) (r : Ref) (fields : Criteria) : Except Error Unit × Atlas :=
  match a.assignAll r fields.pairs with
  | (.ok (), b) => (b.check r, b)
  | (.error e, b) => (.error e, b)

/-- The smallest bounds around all points, path vertices and outer rings inside a group. -/
def groupBounds (a : Atlas) (r : Ref) : Option Bounds :=
  let members := a.members r
  let vertices (m : Ref) : List Coordinate :=
    match a.free? m with
    | some ⟨_, .path p⟩ => p.vertices
    | some ⟨_, .polygon p⟩ => p.outer
    | _ => []
  Bounds.enclosing ((a.unwrap .point members).filterMap a.position? ++
    (a.unwrap .path members).flatMap vertices ++ (a.unwrap .polygon members).flatMap vertices)

/-- A copy of an entity without a parent. What the entity refers to is shared. -/
def copy (a : Atlas) (r : Ref) : Option (Ref × Atlas) :=
  (a.node? r).map fun n => a.insert { n with details := { n.details with parent := none } }

/-- Sets or clears the geometry of a placemark. -/
def embed (a : Atlas) (r : Ref) (geometry : Option Ref) : Atlas :=
  a.modify r fun n =>
    match n.body with
    | .placemark p => { n with body := .placemark { p with geometry := geometry } }
    | _ => n

/-- Sets or clears the group of a placemark. -/
def embedGroup (a : Atlas) (r : Ref) (group : Option Ref) : Atlas :=
  a.modify r fun n =>
    match n.body with
    | .placemark p => { n with body := .placemark { p with multigeometry := group } }
    | _ => n

/-- Puts a geometry at the end of a group. -/
def addMember (a : Atlas) (r member : Ref) : Atlas :=
  a.modify r fun n =>
    match n.body with
    | .multiGeometry m => { n with body := .multiGeometry ⟨m.members ++ [member]⟩ }
    | _ => n

/-- Sets the vertices of a path or of the outer ring of a polygon. -/
def setVertices (a : Atlas) (r : Ref) (cs : List Coordinate) : Atlas :=
  a.modify r fun n =>
    match n.body with
    | .path p => { n with body := .path { p with vertices := cs } }
    | .polygon p => { n with body := .polygon { p with outer := cs } }
    | _ => n

/-- Puts a vertex at the end of a path. -/
def pushVertex (a : Atlas) (r : Ref) (c : Coordinate) : Atlas :=
  a.modify r fun n =>
    match n.body with
    | .path p => { n with body := .path { p with vertices := p.vertices ++ [c] } }
    | _ => n

/-- Puts a ring at the end of the inner rings of a polygon. -/
def addHole (a : Atlas) (r : Ref) (ring : List Coordinate) : Atlas :=
  a.modify r fun n =>
    match n.body with
    | .polygon p => { n with body := .polygon { p with inner := p.inner ++ [ring] } }
    | _ => n

/-- Moves a placemark by its embedded point. -/
def movePlacemarkTo (a : Atlas) (r : Ref) (c : Coordinate) : Except Error Atlas :=
  match a.node? r with
  | some ⟨d, .placemark p⟩ =>
    ((a.movePlacemark p c).mapError (.validation (some "coordinates"))).map fun (p, b) =>
      b.set r ⟨d, .placemark p⟩
  | _ => .ok a

end Atlas

end Gazetteer
