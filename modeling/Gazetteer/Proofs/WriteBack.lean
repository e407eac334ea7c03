import Gazetteer.Proofs.Retrieval

/-!
# Writing a value back

What a component shows it also takes in (`Component.accept_value`), and a node is determined by what
one of its components shows and by what is left when that is blanked (`Component.eq_of_clear_eq`). So
an entity that is assigned the value of one of its own fields stays as it is, and the atlas with it.
Only the coordinates of a placemark are kept elsewhere, in its point. A point that shows no position
makes the placemark show null, and null drops the point; a point that somebody reads shows where it
lies and cannot be moved, not even to there (`Atlas.assign_resolved`).
-/

namespace Gazetteer

open Geodesy

/-! ## Values that are read as what they show -/

namespace Assigned

variable {α : Type} {read : Value → Except Refusal α} {view : α → Value}

/-- What is read back from its view is known by it. -/
theorem injective_of_read (h : ∀ x, read (view x) = .ok x) : Function.Injective view := by
  intro x y hxy
  have hx := h x
  rw [hxy, h y] at hx
  exact (Except.ok.inj hx).symm

theorem map_view {x : α} (h : read (view x) = .ok x) : (read (view x)).map view = .ok (view x) := by
  rw [h]
  rfl

theorem mapM_map_view (h : ∀ x, read (view x) = .ok x) (xs : List α) :
    (xs.map view).mapM read = .ok xs := by
  induction xs with
  | nil => rfl
  | cons x xs ih =>
      rw [List.map_cons, List.mapM_cons, h, ih]
      rfl

@[simp] theorem string?_ofString? (s : Option String) : string? (.ofString? s) = .ok s := by
  cases s <;> rfl

/-- Three numbers in a row are read as the coordinate that they were written for. -/
theorem ofValue_array (c : Coordinate) :
    Coordinate.ofValue (.array (c.toList.map .float)) = .ok c :=
  Coordinate.of_eq_ok_iff.mpr ⟨rfl, rfl, rfl⟩

theorem coordinate_array (c : Coordinate) :
    coordinate (.array (c.toList.map .float)) = .ok c := by
  rw [coordinate, ofValue_array]
  rfl

@[simp] theorem coordinates_verticesValue (cs : List Coordinate) :
    coordinates (verticesValue cs) = .ok cs :=
  mapM_map_view coordinate_array cs

/-- The value of the rings inside of an area. -/
def ringsValue (rs : List (List Coordinate)) : Value := .array (rs.map verticesValue)

@[simp] theorem rings_ringsValue (rs : List (List Coordinate)) : rings (ringsValue rs) = .ok rs :=
  mapM_map_view coordinates_verticesValue rs

@[simp] theorem assignPosition_positionValue (position : Option Coordinate) :
    Field.assignPosition (positionValue position) = .ok position := by
  cases position with
  | none => rfl
  | some c =>
      have hvalue : Coordinate.ofValue c.toValue = .ok c :=
        Coordinate.of_eq_ok_iff.mpr ⟨rfl, rfl, rfl⟩
      show ((Coordinate.ofValue c.toValue).mapError Refusal.coordinate).map some = _
      rw [hvalue]
      rfl

end Assigned

/-! ## Components -/

attribute [ext] Details Drawing Point Path Polygon Placemark Node

namespace Component

variable {a : Atlas} {c : Component} {m n : Node}

/-- **What a component shows it also takes in**, and shows again. -/
theorem accept_value (hc : c ∈ ofKind n.kind) (hne : n.kind = .placemark → c ≠ .coordinates)
    (a : Atlas) : c.accept n.kind (c.value a n) = .ok (c.value a n) := by
  have htext := fun s => Assigned.map_view (Assigned.string?_ofString? s)
  obtain ⟨d, body⟩ := n
  cases c with
  | id | name | description => apply htext
  | visibility => rfl
  | extrude | tessellate =>
      cases body with
      | point p | path p | polygon p => rfl
      | _ => simp [ofKind, Node.kind, Body.kind] at hc
  | altitudeMode =>
      cases body with
      | point p | path p | polygon p => apply htext
      | _ => rfl
  | coordinates =>
      cases body with
      | point p => exact Assigned.map_view (Assigned.assignPosition_positionValue p.position)
      | path p => exact Assigned.map_view (Assigned.coordinates_verticesValue p.vertices)
      | placemark p => exact absurd rfl (hne rfl)
      | _ => rfl
  | outer =>
      cases body with
      | polygon p => exact Assigned.map_view (Assigned.coordinates_verticesValue p.outer)
      | _ => simp [ofKind, Node.kind, Body.kind] at hc
  | inner =>
      cases body with
      | polygon p => exact Assigned.map_view (Assigned.rings_ringsValue p.inner)
      | _ => simp [ofKind, Node.kind, Body.kind] at hc
  | address | phoneNumber | snippet | styleUrl =>
      cases body with
      | placemark p => apply htext
      | _ => rfl
  | extendedData =>
      cases body with
      | placemark p => rfl
      | _ => simp [ofKind, Node.kind, Body.kind] at hc

/-- **A node is determined by what one of its components shows and by what is left when that is
blanked.** -/
theorem eq_of_clear_eq (hne : n.kind = .placemark → c ≠ .coordinates)
    (hclear : c.clear m = c.clear n) (hvalue : c.value a m = c.value a n) : m = n := by
  have hkind : m.kind = n.kind := by rw [← kind_clear m c, hclear, kind_clear]
  have htext := Assigned.injective_of_read Assigned.string?_ofString?
  have hposition := Assigned.injective_of_read Assigned.assignPosition_positionValue
  have hvertices := Assigned.injective_of_read Assigned.coordinates_verticesValue
  obtain ⟨d, body⟩ := n
  obtain ⟨e, body'⟩ := m
  cases c with
  | id | name | description | visibility =>
      simp_all [clear, value, htext.eq_iff, Details.ext_iff]
  | extrude | tessellate | altitudeMode =>
      cases body <;> cases body' <;> cases hkind <;>
        simp_all [clear, value, Node.redraw, Body.drawing?, Body.withDrawing, Value.ofOption,
          htext.eq_iff, Drawing.ext_iff, Point.ext_iff, Path.ext_iff, Polygon.ext_iff]
  | coordinates | outer | inner =>
      cases body <;> cases body' <;> cases hkind <;>
        simp_all [clear, value, Node.kind, Body.kind, hposition.eq_iff, hvertices.eq_iff,
          List.map_inj_right hvertices, Point.ext_iff, Path.ext_iff, Polygon.ext_iff]
  | address | phoneNumber | snippet | styleUrl | extendedData =>
      cases body <;> cases body' <;> cases hkind <;>
        simp_all [clear, value, value.part, Node.modifyPlacemark, htext.eq_iff, Placemark.ext_iff]

end Component

/-- A component that is assigned what it shows stays as it is. -/
theorem Node.assign_value {c : Component} {n : Node} (hc : c ∈ Component.ofKind n.kind)
    (hne : n.kind = .placemark → c ≠ .coordinates) (a : Atlas) :
    n.assign a c.fieldName (c.value a n) = .ok (n, a) := by
  obtain ⟨m, hm, hvalue⟩ := (assign_of_mem hc hne a _).2 _ (Component.accept_value hc hne a)
  rcases assign_cases hm with ⟨c', -, hname, -, -, -, hclear, -⟩ | ⟨d, p, q, rfl, -, hname, -⟩
  · obtain rfl := Component.fieldName_injective hname
    rw [hm, Component.eq_of_clear_eq hne hclear hvalue]
  · exact absurd (Component.fieldName_injective (hname.trans rfl)) (hne rfl)

/-! ## The coordinates of a placemark -/

namespace Atlas

variable {a : Atlas} {r : Ref} {n : Node} {p : Placemark}

theorem set_self (hn : a.node? r = some n) : a.set r n = a := by
  have hnode : a.nodes[r.number]? = some (some n) := by
    simp only [node?, Option.filter_eq_some_iff, Option.join_eq_some_iff] at hn
    exact hn.1
  obtain ⟨hlt, hget⟩ := Array.getElem?_eq_some_iff.mp hnode
  have hnodes : a.nodes.setIfInBounds r.number (some n) = a.nodes := by
    rw [← hget, Array.setIfInBounds, dif_pos hlt]
    exact Array.set_getElem_self hlt
  rw [set, hnodes]
  exact ite_self a

theorem modify_self {f : Node → Node} (hf : ∀ n, a.node? r = some n → f n = n) :
    a.modify r f = a := by
  cases hn : a.node? r with
  | none => simp only [modify, hn]
  | some n => simp only [modify, hn, hf n hn, set_self hn]

/-- A position is shown by an embedded point, and only if nobody is changing that. -/
theorem exists_point_of_embeddedPosition? {c : Coordinate} (h : a.embeddedPosition? p = some c) :
    ∃ q e w, p.point? = some q ∧ a.node? q = some ⟨e, .point w⟩ ∧ w.position = some c := by
  unfold embeddedPosition? at h
  split at h
  next e w hpoint =>
    obtain ⟨q, hq, hfree⟩ := Option.bind_eq_some_iff.mp hpoint
    exact ⟨q, e, w, hq, node?_of_free? hfree, h⟩
  next => cases h

/-- Moving the embedded point of a placemark to where it lies moves nothing, and is refused while
somebody reads the point. -/
theorem movePlacemark_self {c : Coordinate} (h : a.embeddedPosition? p = some c) :
    ∃ q, p.point? = some q ∧
      a.movePlacemark p c = if a.isHeld q then .error .pointHeld else .ok (p, a) := by
  obtain ⟨q, e, w, hq, hn, hw⟩ := exists_point_of_embeddedPosition? h
  obtain ⟨hgeometry, hk⟩ := Placemark.point?_eq_some_iff.mp hq
  have hmove : a.movePoint q (some c) = a := by
    refine modify_self fun n hn' => ?_
    obtain rfl := Option.some.inj (hn.symm.trans hn')
    rw [← hw]
  refine ⟨q, hq, ?_⟩
  rw [Field.movePlacemark_of_point hgeometry hk, hmove]

/-- The node is a placemark with an embedded point that shows no position: the point has none, or
somebody is changing it. -/
def Conceals (a : Atlas) (n : Node) : Prop :=
  ∃ d p, n = ⟨d, .placemark p⟩ ∧ p.point?.isSome ∧ a.embeddedPosition? p = none

/-- The node is a placemark with an embedded point that shows a position to somebody who reads it at
the moment. -/
def Lends (a : Atlas) (n : Node) : Prop :=
  ∃ d p q, n = ⟨d, .placemark p⟩ ∧ p.point? = some q ∧ a.isHeld q ∧ (a.embeddedPosition? p).isSome

/-- A position that a placemark shows is read, and its point is moved to there. -/
theorem assignPlacemarkPosition_toValue (c : Coordinate) :
    Field.assignPlacemarkPosition a p c.toValue = a.movePlacemark p c := by
  rw [Field.assignPlacemarkPosition_of_ne_null (v := c.toValue) nofun, coordinate_toValue]
  rfl

/-- A placemark that is assigned its own coordinates keeps its geometry, unless that is a point
which shows no position or which somebody reads. -/
theorem assignPlacemarkPosition_value {d : Details} (hp : ¬a.Conceals ⟨d, .placemark p⟩)
    (hlends : ¬a.Lends ⟨d, .placemark p⟩) :
    Field.assignPlacemarkPosition a p (positionValue (a.embeddedPosition? p)) = .ok (p, a) := by
  cases hposition : a.embeddedPosition? p with
  | some c =>
      show Field.assignPlacemarkPosition a p c.toValue = _
      obtain ⟨q, hq, hmove⟩ := movePlacemark_self hposition
      rw [assignPlacemarkPosition_toValue, hmove, if_neg]
      intro hheld
      exact hlends ⟨d, p, q, rfl, hq, hheld, Option.isSome_iff_exists.mpr ⟨c, hposition⟩⟩
  | none =>
      have hkeep : p.geometry.filter (·.kind ≠ .point) = p.geometry := by
        cases hgeometry : p.geometry with
        | none => rfl
        | some q =>
            refine Option.filter_some_pos ?_
            simp only [decide_eq_true_eq]
            intro hk
            refine hp ⟨d, p, rfl, ?_, hposition⟩
            rw [Placemark.point?, hgeometry, Option.filter_some_pos (by simp [hk])]
            rfl
      show Field.assignPlacemarkPosition a p .null = _
      rw [Field.assignPlacemarkPosition_null, hkeep]

end Atlas

/-! ## Entities -/

/-- A field that can be written: under its name some entity of the kind takes some value in. -/
def Field.Writable (k : Kind) (name : String) : Prop :=
  ∃ (a : Atlas) (n : Node) (v : Value), n.kind = k ∧ ∃ m b, n.assign a name v = .ok (m, b)

/-- What can be written of an entity is stored in components. -/
theorem Field.writable_iff {k : Kind} {name : String} :
    Writable k name ↔ ∃ c ∈ Component.ofKind k, c.fieldName = name := by
  constructor
  · rintro ⟨a, n, v, rfl, m, b, hassign⟩
    rcases Node.assign_cases hassign with ⟨c, hc, hname, -⟩ | ⟨d, p, q, rfl, -, hname, -⟩
    · exact ⟨c, hc, hname⟩
    · refine ⟨.coordinates, ?_, hname.symm⟩
      show Component.coordinates ∈ Component.ofKind .placemark
      decide
  · rintro ⟨c, hc, rfl⟩
    obtain ⟨v, -, hv⟩ := Node.exists_assign_blank k c hc
    refine ⟨{}, .blank k, v, Node.kind_blank k, ?_⟩
    cases hassign : (Node.blank k).assign {} c.fieldName v with
    | error e => rw [hassign] at hv; cases hv
    | ok x => exact ⟨x.1, x.2, rfl⟩

namespace Atlas

/-- **Writing a field's own value back changes nothing**, whatever the kind of the entity, the field
and the state of the atlas: the value is taken in and the atlas stays as it is. There are two
exceptions, both with the coordinates of a placemark on a point. If the point shows no position, the
coordinates are null, and null drops the point from the placemark, but nothing else. If somebody
reads the point, its position is shown and refused, and again the atlas stays as it is. -/
theorem assign_resolved (a : Atlas) (r : Ref) (n : Node) (hn : a.node? r = some n) (name : String)
    (hname : Field.Writable r.kind name) :
    ∃ v, a.resolve? r [name] = some v ∧
      (¬(name = "coordinates" ∧ (a.Conceals n ∨ a.Lends n)) → a.assign r name v = .ok a) ∧
      (name = "coordinates" ∧ a.Conceals n →
        v = .null ∧ a.assign r name v = .ok (a.embed r none)) ∧
      (name = "coordinates" ∧ a.Lends n →
        v.isNull = false ∧
          a.assign r name v = .error (.validation (some "coordinates") .pointHeld) ∧
          (Operation.assign r name v).run a = a) := by
  -- only the coordinates of a placemark are stored somewhere else than in the node
  obtain ⟨c, hc, rfl⟩ := Field.writable_iff.mp hname
  have hkind : n.kind = r.kind := kind_of_node? hn
  refine ⟨c.value a n, ?_, fun hkeep => ?_, ?_, ?_⟩
  · rw [resolve?_fieldName hc, shown, hn]
    rfl
  · by_cases hat : n.kind = .placemark ∧ c = .coordinates
    · obtain ⟨hk, rfl⟩ := hat
      obtain ⟨d, p, rfl⟩ := Node.exists_of_kind_eq_placemark hk
      have hassign : Field.assignPlacemarkPosition a p _ = _ :=
        assignPlacemarkPosition_value (fun h => hkeep ⟨rfl, .inl h⟩) fun h => hkeep ⟨rfl, .inr h⟩
      simp only [assign, hn]
      show Except.map _ (Node.assign a ⟨d, .placemark p⟩ "coordinates" (positionValue _)) = _
      rw [Node.assign_coordinates, hassign]
      exact congrArg Except.ok (set_self hn)
    · have hassign := Node.assign_value (hkind ▸ hc) (fun hk hcoord => hat ⟨hk, hcoord⟩) a
      simp only [assign, hn, hassign]
      exact congrArg Except.ok (set_self hn)
  · rintro ⟨hcoord, d, p, rfl, hpoint, hposition⟩
    obtain rfl : c = .coordinates := Component.fieldName_injective hcoord
    have hvalue : Component.coordinates.value a ⟨d, .placemark p⟩ = .null :=
      congrArg positionValue hposition
    have hdrop : Field.assignPlacemarkPosition a p .null = .ok ({ p with geometry := none }, a) := by
      show Except.ok ((if p.point?.isSome then _ else p), a) = _
      rw [if_pos hpoint]
    refine ⟨hvalue, ?_⟩
    rw [hvalue]
    simp only [assign, hn, embed, modify]
    show Except.map _ (Node.assign a ⟨d, .placemark p⟩ "coordinates" .null) = _
    rw [Node.assign_coordinates, hdrop]
    rfl
  · rintro ⟨hcoord, d, p, q, rfl, hq, hheld, hshown⟩
    obtain rfl : c = .coordinates := Component.fieldName_injective hcoord
    obtain ⟨x, hposition⟩ := Option.isSome_iff_exists.mp hshown
    have hvalue : Component.coordinates.value a ⟨d, .placemark p⟩ = x.toValue :=
      congrArg positionValue hposition
    have hrefuse : Field.assignPlacemarkPosition a p x.toValue = .error .pointHeld := by
      obtain ⟨q', hq', hmove⟩ := movePlacemark_self hposition
      obtain rfl := Option.some.inj (hq.symm.trans hq')
      rw [assignPlacemarkPosition_toValue, hmove, if_pos hheld]
    have hassign : a.assign r "coordinates" x.toValue =
        .error (.validation (some "coordinates") .pointHeld) := by
      simp only [assign, hn]
      rw [Node.assign_coordinates, hrefuse]
      rfl
    rw [hvalue]
    refine ⟨rfl, hassign, ?_⟩
    show (a.assign r "coordinates" x.toValue).toOption.getD a = a
    rw [hassign]
    rfl

/-- Two placemarks on points, of which only the first one lies somewhere. -/
def staked : Atlas where
  nodes := #[
    some ⟨{ name := some "Peg" }, .placemark { geometry := some ⟨.point, 1⟩ }⟩,
    some ⟨{}, .point (.at ⟨8.5, 47.25, 400.0, by decide, by decide, by decide⟩)⟩,
    some ⟨{ name := some "Plan" }, .placemark { geometry := some ⟨.point, 3⟩ }⟩,
    some ⟨{}, .point {}⟩]

theorem writable_coordinates : Field.Writable .placemark "coordinates" :=
  Field.writable_iff.mpr ⟨.coordinates, by decide, rfl⟩

theorem assign_resolved_staked :
    (∃ v, v.isNull = false ∧ staked.resolve? ⟨.placemark, 0⟩ ["coordinates"] = some v ∧
      staked.assign ⟨.placemark, 0⟩ "coordinates" v = .ok staked) ∧
    staked.assign ⟨.placemark, 2⟩ "coordinates" .null =
      .ok (staked.embed ⟨.placemark, 2⟩ none) ∧
    let visited : Atlas := { staked with held := [⟨.point, 1⟩], shared := [⟨.point, 1⟩] }
    ∃ v, v.isNull = false ∧ visited.resolve? ⟨.placemark, 0⟩ ["coordinates"] = some v ∧
      visited.assign ⟨.placemark, 0⟩ "coordinates" v =
        .error (.validation (some "coordinates") .pointHeld) := by
  refine ⟨?_, ?_, ?_⟩
  · obtain ⟨v, hv, hkeep, -⟩ := assign_resolved staked ⟨.placemark, 0⟩ _ rfl "coordinates"
      writable_coordinates
    refine ⟨v, ?_, hv, hkeep ?_⟩
    · obtain rfl := Option.some.inj hv
      rfl
    · rintro ⟨-, ⟨d, p, hp, -, hposition⟩ | ⟨d, p, q, hp, -, hheld, -⟩⟩
      · cases hp
        cases hposition
      · cases hheld
  · obtain ⟨v, -, -, hdrop, -⟩ := assign_resolved staked ⟨.placemark, 2⟩ _ rfl "coordinates"
      writable_coordinates
    obtain ⟨rfl, hassign⟩ := hdrop ⟨rfl, _, _, rfl, rfl, rfl⟩
    exact hassign
  · intro visited
    obtain ⟨v, hv, -, -, hrefuse⟩ := assign_resolved visited ⟨.placemark, 0⟩ _ rfl "coordinates"
      writable_coordinates
    obtain ⟨hnull, hassign, -⟩ := hrefuse ⟨rfl, _, _, ⟨.point, 1⟩, rfl, rfl, rfl, rfl⟩
    exact ⟨v, hnull, hv, hassign⟩

/-- A placemark loses a point without position when it is assigned its own coordinates. -/
theorem staked_loses_point :
    Field.Writable .placemark "coordinates" ∧
    ∃ v b, staked.resolve? ⟨.placemark, 2⟩ ["coordinates"] = some v ∧
      staked.assign ⟨.placemark, 2⟩ "coordinates" v = .ok b ∧
      staked.embedded ⟨.placemark, 2⟩ = [⟨.point, 3⟩] ∧ b.embedded ⟨.placemark, 2⟩ = [] :=
  ⟨writable_coordinates, .null, _, rfl, rfl, rfl, rfl⟩

end Atlas

end Gazetteer
