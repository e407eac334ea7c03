import Gazetteer.Proofs.Query
import Gazetteer.Proofs.WriteBack

/-!
# Where paths and polygons lie

A path or a polygon lies at its first vertex. Queries find that out from the field `coordinates`:
all vertices are written as a value, of which the first item is read back. Whatever the vertices
are, this is the same as looking at the first of them (`Node.probe?_eq_head?`), so that a query for
a place decides by the first vertex and leaves out no entity that has one (`lies_at_first_vertex`).
-/

namespace Gazetteer

open Geodesy

/-! ## Vertices -/

/-- The line that a body draws: the vertices of a path, or those of the outer ring of a polygon. -/
def Body.outline : Body → List Coordinate
  | .path p => p.vertices
  | .polygon p => p.outer
  | _ => []

/-- The line that an entity draws. That of a held one is not to be seen. -/
def Atlas.outline (a : Atlas) (r : Ref) : List Coordinate :=
  match a.free? r with
  | some n => n.body.outline
  | none => []

/-- Only paths and polygons draw lines. -/
theorem Atlas.kind_of_mem_outline {a : Atlas} {r : Ref} {c : Coordinate} (h : c ∈ a.outline r) :
    r.kind = .path ∨ r.kind = .polygon := by
  unfold outline at h
  cases hn : a.free? r with
  | none => simp [hn] at h
  | some n =>
      have hkind : n.kind = r.kind := kind_of_node? (node?_of_free? hn)
      rw [hn] at h
      obtain ⟨d, body⟩ := n
      cases body with
      | path p => exact .inl hkind.symm
      | polygon p => exact .inr hkind.symm
      | _ => cases h

namespace Node

variable {n : Node}

/-- A path or a polygon shows its line in the field `coordinates`. -/
theorem field?_coordinates (hn : n.kind = .path ∨ n.kind = .polygon) (a : Atlas) :
    n.field? a "coordinates" = some (verticesValue n.body.outline) := by
  obtain ⟨d, body⟩ := n
  cases body with
  | path p | polygon p => rfl
  | _ => rcases hn with hn | hn <;> cases hn

/-- What is read off the value of the vertices is the first of them. -/
theorem probe?_eq_head? (hn : n.kind = .path ∨ n.kind = .polygon) (a : Atlas) :
    n.probe? a = n.body.outline.head? := by
  rw [probe?, field?_coordinates hn]
  cases n.body.outline with
  | nil => rfl
  | cons c cs =>
      show Coordinate.ofValue? (.array (c.toList.map .float)) = some c
      rw [Coordinate.ofValue?, Assigned.ofValue_array]
      rfl

theorem position?_eq_head? (hn : n.kind = .path ∨ n.kind = .polygon) (a : Atlas) :
    n.position? a = n.body.outline.head? := by
  rw [← probe?_eq_head? hn a]
  obtain ⟨d, body⟩ := n
  cases body with
  | path p | polygon p => rfl
  | _ => rcases hn with hn | hn <;> cases hn

end Node

theorem Atlas.position?_eq_head? {r : Ref} (hr : r.kind = .path ∨ r.kind = .polygon) (a : Atlas) :
    a.position? r = (a.outline r).head? := by
  unfold position? outline
  cases hn : a.free? r with
  | none => rfl
  | some n =>
      have hkind : n.kind = r.kind := kind_of_node? (node?_of_free? hn)
      exact Node.position?_eq_head? (hkind ▸ hr) a

/-- A place on the equator, below the sea; its latitude is the negative zero. -/
def Geodesy.Coordinate.atSea : Coordinate := ⟨-12.5, -0.0, -3.5, by decide, by decide, by decide⟩

/-- A place on land, far to the west of the one at sea. -/
def Geodesy.Coordinate.inland : Coordinate := ⟨-62.5, -8.75, 85.0, by decide, by decide, by decide⟩

/-! ## Queries for a place -/

namespace Selection

variable {a : Atlas} {s : Selection}

/-- Among paths and polygons a test of positions is one of first vertices. -/
theorem items_filterPosition (hs : ∀ r ∈ s.items, r.kind = .path ∨ r.kind = .polygon)
    (p : Coordinate → Bool) :
    (s.filterPosition a p).items = s.items.filter fun r => (a.outline r).head?.any p := by
  refine List.filter_congr fun r hr => ?_
  rw [Atlas.position?_eq_head? (hs r hr)]

/-- **Paths and polygons lie at their first vertex**, and nowhere only if they have none. Queries
for places know the first vertex, with its altitude and the signs of its zeros, although they read
it off a value: whatever the vertices are, they keep each entity with a vertex, or each with a first
vertex near enough or within the bounds. -/
theorem lies_at_first_vertex (a : Atlas) (s : Selection)
    (hs : ∀ r ∈ s.items, r.kind = .path ∨ r.kind = .polygon) :
    (∀ d (p : Path), Node.position? a ⟨d, .path p⟩ = p.vertices.head?) ∧
    (∀ d (p : Polygon), Node.position? a ⟨d, .polygon p⟩ = p.outer.head?) ∧
    (s.hasCoordinates a).items = s.items.filter (fun r => a.outline r ≠ []) ∧
    (∀ lon lat center radius, Coordinate.atGround lon lat = .ok center →
      ¬(radius.isNaN ∨ radius < 0.0) → ∃ t, s.near a lon lat (some radius) = .ok t ∧
        t.items = s.items.filter fun r =>
          (a.outline r).head?.any fun c => GreatCircle.distance center c ≤ radius) ∧
    ∀ north south east west b, Bounds.of north south east west = .ok b →
      ∃ t, s.withinBounds a north south east west = .ok t ∧
        t.items = s.items.filter fun r => (a.outline r).head?.any b.contains := by
  refine ⟨fun d p => Node.position?_eq_head? (.inl rfl) a,
    fun d p => Node.position?_eq_head? (.inr rfl) a, ?_, ?_, ?_⟩
  · refine (items_filterPosition hs _).trans (List.filter_congr fun r _ => ?_)
    cases a.outline r <;> rfl
  · intro lon lat center radius hcenter hradius
    refine ⟨s.filterPosition a fun c => GreatCircle.distance center c ≤ radius, ?_,
      items_filterPosition hs _⟩
    rw [near, hcenter]
    exact if_neg (by simpa using hradius)
  · intro north south east west b hb
    refine ⟨s.filterPosition a b.contains, ?_, items_filterPosition hs _⟩
    rw [withinBounds, hb]

/-- A path that starts at sea and one that ends there, a path and a polygon that draw no line, and a
polygon inland. -/
def outlines : Atlas where
  nodes := #[
    some ⟨{}, .path { vertices := [.atSea, .inland] }⟩,
    some ⟨{}, .path { vertices := [.inland, .atSea] }⟩,
    some ⟨{}, .path {}⟩,
    some ⟨{}, .polygon { inner := [[.atSea]] }⟩,
    some ⟨{}, .polygon { outer := [.inland] }⟩]

theorem lies_at_first_vertex_outlines :
    let s : Selection := { kind := .path, items := outlines.refs }
    (∀ r ∈ s.items, r.kind = .path ∨ r.kind = .polygon) ∧
    outlines.position? ⟨.path, 0⟩ = some .atSea ∧
    (s.hasCoordinates outlines).items = [⟨.path, 0⟩, ⟨.path, 1⟩, ⟨.polygon, 4⟩] ∧
    ∃ t, s.withinBounds outlines 20.0 (-20.0) 20.0 (-20.0) = .ok t ∧ t.items = [⟨.path, 0⟩] := by
  intro s
  have hs : ∀ r ∈ s.items, r.kind = .path ∨ r.kind = .polygon := by decide
  obtain ⟨hpath, -, hhas, -, hwithin⟩ := lies_at_first_vertex outlines s hs
  refine ⟨hs, hpath {} { vertices := [.atSea, .inland] }, hhas, ?_⟩
  obtain ⟨t, ht, hitems⟩ := hwithin 20.0 (-20.0) 20.0 (-20.0) ⟨20.0, -20.0, 20.0, -20.0⟩ rfl
  exact ⟨t, ht, hitems⟩

end Selection

end Gazetteer
