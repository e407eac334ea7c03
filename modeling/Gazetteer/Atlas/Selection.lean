import Gazetteer.Atlas.Entity
import Gazetteer.Lookup.Predicate

/-!
# Selections

A `Selection` is a list of entities of one kind that queries narrow down and put in order. Making
another selection changes no entity. It remembers the fields that it was ordered by and whether
repeats were dropped; narrowing keeps that, other steps forget it.

Filters, orders and projections look into the fields of every entity. They have to find the
selection `Readable`: where they come to an entity that is hidden, the program panics, and the
results below say nothing about that. Dropping repeats takes such an entity for one without an id,
and looking for places passes over it.
-/

namespace Gazetteer

open Geodesy

structure Selection where
  kind : Kind
  items : List Ref
  ordered : Bool := false
  orderFields : List String := []
  distinct : Bool := false

/-- What tells entities apart when repeats are dropped: the id that one has been given, otherwise
the entity itself. -/
inductive DistinctKey where
  | declared (id : String)
  | itself (r : Ref)
  deriving DecidableEq, Repr

/-- The key of an entity. A hidden one does not show its id, and an empty id is none. -/
def Atlas.distinctKey (a : Atlas) (r : Ref) : DistinctKey :=
  match ((a.free? r).bind (·.details.id)).filter (· ≠ "") with
  | some id => .declared id
  | none => .itself r

namespace Selection

variable (a : Atlas) (s : Selection)

/-- Nobody is changing an entity of the selection, so that all of them can be looked into. -/
def Readable : Prop := ∀ r ∈ s.items, a.isHidden r = false

instance : Decidable (s.Readable a) := inferInstanceAs (Decidable (∀ _ ∈ _, _))

theorem Readable.of_subset {a : Atlas} {s t : Selection} (hs : s.Readable a)
    (h : t.items ⊆ s.items) : t.Readable a :=
  fun r hr => hs r (h hr)

/-- The same entities, without what the selection remembers. -/
def all : Selection := { kind := s.kind, items := s.items }

/-- No entities. -/
def none : Selection := { kind := s.kind, items := [] }

def reverse : Selection := { kind := s.kind, items := s.items.reverse }

/-- At most `limit` entities, from the one at `offset` on. -/
def slice (offset limit : Nat) : Selection :=
  { s with items := (s.items.drop offset).take limit }

/-! ### Filters -/

/-- Whether an entity satisfies all predicates. -/
def satisfies (predicates : List Predicate) (r : Ref) : Bool :=
  predicates.all fun p => p.holds (a.resolve? r p.path)

/-- The entities that satisfy all criteria. Malformed criteria are an error whatever is selected;
with well formed ones the program panics at a hidden entity. -/
def filter (criteria : Criteria) : Except Error Selection :=
  (Predicate.ofCriteria criteria).map fun ps => { s with items := s.items.filter (satisfies a ps) }

/-- The entities that do not satisfy all criteria. It panics where `filter` does. -/
def exclude (criteria : Criteria) : Except Error Selection :=
  (Predicate.ofCriteria criteria).map fun ps =>
    { s with items := s.items.filter fun r => !satisfies a ps r }

/-- The only entity that satisfies all criteria. It panics where `filter` does. -/
def get (criteria : Criteria) : Except Error Ref := do
  let found ← s.filter a criteria
  match found.items with
  | [r] => .ok r
  | [] => .error (.notFound s.kind criteria)
  | rs => .error (.multipleReturned s.kind rs.length criteria)

/-- The first entity for each key. -/
def dropRepeats : Selection :=
  { s with items := firstBy a.distinctKey s.items, distinct := true }

/-! ### Order -/

/-- A field to order by: its name, and whether the order is a descending one, which a leading minus
asks for. -/
def orderKey (field : String) : String × Bool :=
  match field.toList with
  | '-' :: r => (String.ofList r, true)
  | _ => (field, false)

/-- Orders entities by one field that every one of them must have. Equal ones keep their order. At a
hidden entity the program panics, if the field is well formed and the entities before have it. -/
def sortBy (items : List Ref) (field : String) : Except Error (List Ref) := do
  let (name, descending) := orderKey field
  let path ← (FieldPath.parse name).mapError fun e => Error.query (some field) (.limit e)
  let keyed ← items.mapM fun r =>
    match a.resolve? r path with
    | some v => .ok (v, r)
    | .none => .error (.query (some name) (.unorderable s.kind))
  let before (x y : Value × Ref) : Bool :=
    if descending then Value.sortOrder x.1 y.1 != .lt else Value.sortOrder x.1 y.1 != .gt
  return (keyed.mergeSort before).map (·.2)

/-- Orders the entities by fields, of which the first counts most. If there are fields, and none of
them stops it before, the program panics at a hidden entity. -/
def orderBy (fields : List String) : Except Error Selection :=
  if fields.isEmpty then .ok s.all
  else if maxOrderFields < fields.length then
    .error (.query .none (.limit (.tooManyOrderFields fields.length)))
  else
    (fields.reverse.foldlM (s.sortBy a) s.items).map fun items =>
      { s with items := items, ordered := true, orderFields := fields }

/-! ### Places -/

/-- The entities that lie somewhere, at a place for which `p` holds. -/
def filterPosition (p : Coordinate → Bool) : Selection :=
  { s.all with items := s.items.filter fun r => (a.position? r).any p }

/-- The entities within a distance in kilometres, or all of them without one. -/
def near (lon lat : Float) (radius? : Option Float) : Except Error Selection := do
  let center ← (Coordinate.atGround lon lat).mapError fun e => Error.ofGeodesy (.coordinate e)
  match radius? with
  | .none => return s.all
  | some radius =>
    if radius.isNaN || radius < 0.0 then .error (.query (some "radius") (.radius radius))
    else return s.filterPosition a fun c => GreatCircle.distance center c ≤ radius

/-- The entities within bounds. -/
def withinBounds (north south east west : Float) : Except Error Selection :=
  match Bounds.of north south east west with
  | .ok b => .ok (s.filterPosition a b.contains)
  | .error e => .error (.query .none (.bounds e))

/-- The entities that lie somewhere. -/
def hasCoordinates : Selection := s.filterPosition a fun _ => true

/-- The entities that lie somewhere in range. -/
def validCoordinates : Selection :=
  s.filterPosition a fun c => (Coordinate.of c.longitude c.latitude c.altitude).toOption.isSome

/-! ### Projections -/

/-- Fields with their paths; the first malformed one is reported. -/
def projection (fields : List String) : Except Error (List (String × FieldPath)) :=
  fields.mapM fun field =>
    match FieldPath.parse field with
    | .ok path => .ok (field, path)
    | .error e => .error (.query (some field) (.limit e))

/-- For each entity an object with the values of the given fields, or of all. With well formed
fields the program panics at a hidden entity. -/
def values (fields : List String) : Except Error (List Value) :=
  if fields.isEmpty then .ok (s.items.map a.fieldMap)
  else
    (projection fields).map fun paths =>
      s.items.map fun r =>
        Value.ofMembers (paths.map fun (field, path) => (field, .ofOption (a.resolve? r path)))

/-- For each entity an array with the values of the given fields, or the only value on its own. With
well formed fields, if there are any, the program panics at a hidden entity. -/
def valuesList (fields : List String) (flat : Bool) : Except Error (List Value) :=
  if flat && fields.length ≠ 1 then .error (.query .none (.flatFields fields.length))
  else
    (projection fields).map fun paths =>
      s.items.map fun r =>
        let row := paths.map fun (_, path) => Value.ofOption (a.resolve? r path)
        match flat, row with
        | true, [v] => v
        | _, _ => .array row

end Selection

end Gazetteer
