import Gazetteer.Geodesy.Bounds
import Gazetteer.Geodesy.GreatCircle
import Gazetteer.Kind

/-!
# Entities

An entity is named by a `Ref` and described by a `Node`: the details that all kinds share, and a
body that its kind decides. Entities point at each other by their refs only, so that one of them can
stand in several places.
-/

namespace Gazetteer

open Geodesy

/-- What names an entity within an atlas: its kind and a number. -/
structure Ref where
  kind : Kind
  number : Nat
  deriving DecidableEq, Repr

/-- What entities of all kinds have. The parent is the folder that lists the entity. -/
structure Details where
  id : Option String := none
  name : Option String := none
  description : Option String := none
  visibility : Bool := true
  parent : Option Ref := none

/-- How a geometry is drawn. -/
structure Drawing where
  extrude : Bool := false
  tessellate : Bool := false
  altitudeMode : Option String := none

/-- A single position, which may be unset. -/
structure Point where
  position : Option Coordinate := none
  drawing : Drawing := {}

/-- A line through its vertices. -/
structure Path where
  vertices : List Coordinate := []
  drawing : Drawing := {}

/-- An area inside an outer ring, less the insides of the inner ones. -/
structure Polygon where
  outer : List Coordinate := []
  inner : List (List Coordinate) := []
  drawing : Drawing := {}

/-- A group of geometries, which may be groups themselves. -/
structure MultiGeometry where
  members : List Ref := []

/-- A feature with an optional geometry and an optional group of geometries. -/
structure Placemark where
  geometry : Option Ref := none
  multigeometry : Option Ref := none
  address : Option String := none
  phoneNumber : Option String := none
  snippet : Option String := none
  styleUrl : Option String := none
  extendedData : List (String × Value) := []

/-- Where a folder stands. -/
inductive Scope where
  /-- On its own: it takes in entities without becoming their parent. -/
  | detached
  /-- At the top of a document: what it lists has no parent. -/
  | root
  /-- It is the parent of what it lists. -/
  | bound
  deriving DecidableEq, Repr

/-- The name of a scope. -/
def Scope.name : Scope → String
  | detached => "detached"
  | root => "root"
  | bound => "bound"

/-- A folder lists entities of all kinds; among those of one kind the order counts. -/
structure Folder where
  scope : Scope := .bound
  children : List Ref := []

/-- How many entities of a kind the folder lists. -/
def Folder.count (f : Folder) (k : Kind) : Nat := f.children.countP (·.kind = k)

/-- What the kind of an entity decides. -/
inductive Body where
  | point (p : Point)
  | path (p : Path)
  | polygon (p : Polygon)
  | multiGeometry (m : MultiGeometry)
  | placemark (p : Placemark)
  | folder (f : Folder)

namespace Body

def kind : Body → Kind
  | point _ => .point
  | path _ => .path
  | polygon _ => .polygon
  | multiGeometry _ => .multiGeometry
  | placemark _ => .placemark
  | folder _ => .folder

/-- The body of a new entity. -/
def blank : Kind → Body
  | .point => point {}
  | .path => path {}
  | .polygon => polygon {}
  | .multiGeometry => multiGeometry {}
  | .placemark => placemark {}
  | .folder => folder {}

@[simp] theorem kind_blank (k : Kind) : (blank k).kind = k := by cases k <;> rfl

/-- How the entity is drawn, if it is a geometry that can be. -/
def drawing? : Body → Option Drawing
  | point p => some p.drawing
  | path p => some p.drawing
  | polygon p => some p.drawing
  | _ => none

/-- The body drawn in another way. -/
def withDrawing (d : Drawing) : Body → Body
  | point p => point { p with drawing := d }
  | path p => path { p with drawing := d }
  | polygon p => polygon { p with drawing := d }
  | b => b

@[simp] theorem kind_withDrawing (d : Drawing) (b : Body) : (b.withDrawing d).kind = b.kind := by
  cases b <;> rfl

end Body

/-- An entity. -/
structure Node where
  details : Details := {}
  body : Body

namespace Node

def kind (n : Node) : Kind := n.body.kind

/-- A new entity of a kind. -/
def blank (k : Kind) : Node := { body := .blank k }

@[simp] theorem kind_blank (k : Kind) : (blank k).kind = k := by simp [kind, blank]

end Node

/-! ### Geometry -/

/-- The point at a position. -/
def Point.at (c : Coordinate) : Point := { position := some c }

namespace Path

/-- The sum of the distances from each vertex to the next, in kilometres. Without any the sum is
the zero that leaves every number as it is. -/
def length (p : Path) : Float :=
  (p.vertices.zipWith GreatCircle.distance p.vertices.tail).foldl (· + ·) (-0.0)

def bounds (p : Path) : Option Bounds := Bounds.enclosing p.vertices

end Path

def Polygon.bounds (p : Polygon) : Option Bounds := Bounds.enclosing p.outer

namespace Placemark

/-- The embedded point, if the geometry is one. -/
def point? (p : Placemark) : Option Ref := p.geometry.filter (·.kind = .point)

/-- The geometry and the group, as far as there are any. -/
def embedded (p : Placemark) : List Ref := p.geometry.toList ++ p.multigeometry.toList

end Placemark

end Gazetteer
