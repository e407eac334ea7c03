import Gazetteer.Atlas.Entity

/-!
# What an assignment does

There are many fields, but only a few ways in which assigning one can change an entity. `Assigns`
lists them, and every field of every kind keeps to the list (`Field.regular_of_find?`). So what is to
be shown of assignments is shown for these few ways, and no field needs to be looked at again
(`Atlas.assign_cases`).
-/

namespace Gazetteer

open Geodesy

/-- What assigning a value can make of a node and of the atlas around it. -/
inductive Assigns (a : Atlas) (v : Value) : Node → Node → Atlas → Prop
  /-- Details change, but not the parent. -/
  | details {d e : Details} {body : Body} (h : e.parent = d.parent) :
      Assigns a v ⟨d, body⟩ ⟨e, body⟩ a
  | drawing {d : Details} {body : Body} (w : Drawing) :
      Assigns a v ⟨d, body⟩ ⟨d, body.withDrawing w⟩ a
  | position {d : Details} {p : Point} {position : Option Coordinate}
      (h : Field.assignPosition v = .ok position) :
      Assigns a v ⟨d, .point p⟩ ⟨d, .point { p with position := position }⟩ a
  | vertices {d : Details} {p : Path} {cs : List Coordinate} (h : Assigned.coordinates v = .ok cs) :
      Assigns a v ⟨d, .path p⟩ ⟨d, .path { p with vertices := cs }⟩ a
  | outer {d : Details} {p : Polygon} {cs : List Coordinate} (h : Assigned.coordinates v = .ok cs) :
      Assigns a v ⟨d, .polygon p⟩ ⟨d, .polygon { p with outer := cs }⟩ a
  | inner {d : Details} {p : Polygon} {rings : List (List Coordinate)}
      (h : Assigned.rings v = .ok rings) :
      Assigns a v ⟨d, .polygon p⟩ ⟨d, .polygon { p with inner := rings }⟩ a
  /-- A placemark changes alone. -/
  | placemark {d : Details} {p q : Placemark} : Assigns a v ⟨d, .placemark p⟩ ⟨d, .placemark q⟩ a
  /-- A placemark moves, and its embedded point with it. -/
  | moved {d : Details} {p q : Placemark} {c : Coordinate} {b : Atlas}
      (hc : Assigned.coordinate v = .ok c) (h : a.movePlacemark p c = .ok (q, b)) :
      Assigns a v ⟨d, .placemark p⟩ ⟨d, .placemark q⟩ b

theorem exists_of_map_eq_ok {ε α β : Type} {x : Except ε α} {f : α → β} {y : β}
    (h : x.map f = .ok y) : ∃ z, x = .ok z ∧ f z = y := by
  cases x with
  | error e => cases h
  | ok z => exact ⟨z, rfl, Except.ok.inj h⟩

theorem exists_of_mapError_eq_ok {ε ε' α : Type} {x : Except ε α} {f : ε → ε'} {y : α}
    (h : x.mapError f = .ok y) : x = .ok y := by
  cases x with
  | error e => cases h
  | ok z => exact congrArg Except.ok (Except.ok.inj h)

namespace Field

/-- An assignment of the field is one of those that are listed. -/
def Regular (f : Field) : Prop :=
  ∀ assign, f.assign? = some assign → ∀ a n v m b, assign a n v = .ok (m, b) → Assigns a v n m b

variable {a b : Atlas} {m n : Node} {v : Value} {f : Field}

/-! ### Ways to make fields -/

theorem regular_of_readOnly (h : f.assign? = none) : f.Regular := by
  intro assign hassign
  simp [h] at hassign

theorem regular_ofNode {name : String} {get : Node → Value}
    {assign : Node → Value → Except Refusal Node}
    (h : ∀ a n v m, assign n v = .ok m → Assigns a v n m a) :
    (ofNode name get assign).Regular := by
  rintro _ ⟨⟩ a n v m b hm
  obtain ⟨m', hassign, heq⟩ := exists_of_map_eq_ok hm
  obtain ⟨rfl, rfl⟩ := Prod.mk.inj heq
  exact h a n v m' hassign

theorem regular_ofDetail {name : String} {get : Details → Option String}
    {set : Details → Option String → Details} (h : ∀ d s, (set d s).parent = d.parent) :
    (ofDetail name get set).Regular := by
  refine regular_ofNode fun a n v m hm => ?_
  obtain ⟨s, -, rfl⟩ := exists_of_map_eq_ok hm
  exact .details (h n.details s)

theorem regular_ofDrawing {name : String} {get : Drawing → Value}
    {assign : Drawing → Value → Except Refusal Drawing} : (ofDrawing name get assign).Regular := by
  refine regular_ofNode fun a n v m hm => ?_
  split at hm
  · obtain ⟨w, -, rfl⟩ := exists_of_map_eq_ok hm
    exact .drawing w
  · obtain rfl : n = m := Except.ok.inj hm
    exact .details rfl

/-- A field of another kind is assigned without effect. -/
theorem assigns_of_unchanged (h : (.ok (n, a) : Except Refusal (Node × Atlas)) = .ok (m, b)) :
    Assigns a v n m b := by
  obtain ⟨rfl, rfl⟩ := Prod.mk.inj (Except.ok.inj h)
  exact .details rfl

/-- A part of a body is assigned what has been read off the value. -/
theorem assigns_of_map {d : Details} {α : Type} {x : Except Refusal α} {g : α → Body}
    (h : x.map (fun y => ((⟨d, g y⟩ : Node), a)) = .ok (m, b))
    (hg : ∀ y, x = .ok y → Assigns a v n ⟨d, g y⟩ a) : Assigns a v n m b := by
  obtain ⟨y, hy, heq⟩ := exists_of_map_eq_ok h
  obtain ⟨rfl, rfl⟩ := Prod.mk.inj heq
  exact hg y hy

theorem regular_ofPlacemarkPart {name : String} {get : Placemark → Value}
    {assign : Placemark → Value → Except Refusal Placemark} :
    (ofPlacemarkPart name get assign).Regular := by
  rintro _ ⟨⟩ a ⟨d, body⟩ v m b hm
  cases body with
  | placemark p => exact assigns_of_map hm fun _ _ => .placemark
  | _ => exact assigns_of_unchanged hm

/-! ### The fields of each kind -/

theorem regular_common : ∀ f ∈ common, f.Regular := by
  simp only [common, List.forall_mem_cons, List.not_mem_nil, false_implies, implies_true, and_true]
  refine ⟨regular_of_readOnly rfl, regular_ofDetail fun _ _ => rfl, regular_ofDetail fun _ _ => rfl,
    regular_ofDetail fun _ _ => rfl, regular_ofNode fun a n v m hm => ?_, ?_⟩
  · obtain ⟨b, -, rfl⟩ := exists_of_map_eq_ok hm
    exact .details rfl
  · rintro _ ⟨⟩ a n v m b hm
    cases hm

theorem regular_drawing : ∀ f ∈ drawing, f.Regular := by
  simp only [drawing, List.forall_mem_cons, List.not_mem_nil, false_implies, implies_true, and_true]
  exact ⟨regular_ofDrawing, regular_ofDrawing, regular_ofDrawing⟩

theorem regular_point : ∀ f ∈ point, f.Regular := by
  simp only [point, List.forall_mem_append, List.forall_mem_cons, List.not_mem_nil, false_implies,
    implies_true, and_true]
  refine ⟨⟨?_, regular_of_readOnly rfl, regular_of_readOnly rfl, regular_of_readOnly rfl,
    regular_of_readOnly rfl⟩, regular_drawing⟩
  rintro _ ⟨⟩ a ⟨d, body⟩ v m b hm
  cases body with
  | point p => exact assigns_of_map hm fun _ => .position
  | _ => exact assigns_of_unchanged hm

theorem regular_path : ∀ f ∈ path, f.Regular := by
  simp only [path, List.forall_mem_append, List.forall_mem_cons, List.not_mem_nil, false_implies,
    implies_true, and_true]
  refine ⟨⟨?_, regular_of_readOnly rfl, regular_of_readOnly rfl⟩, regular_drawing⟩
  rintro _ ⟨⟩ a ⟨d, body⟩ v m b hm
  cases body with
  | path p => exact assigns_of_map hm fun _ => .vertices
  | _ => exact assigns_of_unchanged hm

theorem regular_polygon : ∀ f ∈ polygon, f.Regular := by
  simp only [polygon, List.forall_mem_append, List.forall_mem_cons, List.not_mem_nil,
    false_implies, implies_true, and_true]
  refine ⟨⟨?_, ?_, regular_of_readOnly rfl, regular_of_readOnly rfl, regular_of_readOnly rfl⟩,
    regular_drawing⟩
  · rintro _ ⟨⟩ a ⟨d, body⟩ v m b hm
    cases body with
    | polygon p => exact assigns_of_map hm fun _ => .outer
    | _ => exact assigns_of_unchanged hm
  · rintro _ ⟨⟩ a ⟨d, body⟩ v m b hm
    cases body with
    | polygon p => exact assigns_of_map hm fun _ => .inner
    | _ => exact assigns_of_unchanged hm

theorem readOnly_multiGeometry : ∀ f ∈ multiGeometry, f.assign? = none := by
  intro f hf
  simp only [multiGeometry, List.mem_cons, List.not_mem_nil, or_false] at hf
  rcases hf with rfl | rfl | rfl | rfl | rfl | rfl <;> rfl

theorem readOnly_folder : ∀ f ∈ folder, f.assign? = none := by
  intro f hf
  simp only [folder, List.mem_cons, List.not_mem_nil, or_false] at hf
  rcases hf with rfl | rfl | rfl | rfl | rfl | rfl | rfl <;> rfl

theorem regular_multiGeometry : ∀ f ∈ multiGeometry, f.Regular :=
  fun f hf => regular_of_readOnly (readOnly_multiGeometry f hf)

theorem regular_folder : ∀ f ∈ folder, f.Regular :=
  fun f hf => regular_of_readOnly (readOnly_folder f hf)

/-- Null changes the placemark alone, and a position moves it. -/
theorem assigns_of_assignPlacemarkPosition {d : Details} {p q : Placemark}
    (h : assignPlacemarkPosition a p v = .ok (q, b)) :
    Assigns a v ⟨d, .placemark p⟩ ⟨d, .placemark q⟩ b := by
  unfold assignPlacemarkPosition at h
  split at h
  · obtain ⟨rfl, rfl⟩ := Prod.mk.inj (Except.ok.inj h)
    exact .placemark
  · cases hc : Assigned.coordinate v with
    | error e => rw [hc] at h; cases h
    | ok c =>
        rw [hc] at h
        exact .moved hc h

theorem regular_placemark : ∀ f ∈ placemark, f.Regular := by
  simp only [placemark, List.forall_mem_cons, List.not_mem_nil, false_implies, implies_true,
    and_true]
  refine ⟨?_, regular_of_readOnly rfl, regular_of_readOnly rfl, regular_of_readOnly rfl,
    regular_of_readOnly rfl, regular_of_readOnly rfl, regular_of_readOnly rfl,
    regular_of_readOnly rfl, regular_ofPlacemarkPart, regular_ofPlacemarkPart,
    regular_ofPlacemarkPart, regular_ofPlacemarkPart, regular_ofPlacemarkPart⟩
  rintro _ ⟨⟩ a ⟨d, body⟩ v m b hm
  cases body with
  | placemark p =>
      obtain ⟨⟨q, x⟩, hq, heq⟩ := exists_of_map_eq_ok hm
      obtain ⟨rfl, rfl⟩ := Prod.mk.inj heq
      exact assigns_of_assignPlacemarkPosition hq
  | _ => exact assigns_of_unchanged hm

/-- The field of a name is one of its kind or a common one, and has the name. -/
theorem mem_of_find? {k : Kind} {name : String} (h : find? k name = some f) :
    (f ∈ ofKind k ∨ f ∈ common) ∧ f.name = name := by
  unfold find? at h
  split at h
  · next g hg =>
      obtain rfl : g = f := Option.some.inj h
      exact ⟨.inl (List.mem_of_find?_eq_some hg), by simpa using List.find?_some hg⟩
  · exact ⟨.inr (List.mem_of_find?_eq_some h), by simpa using List.find?_some h⟩

/-- **Every field of every kind keeps to the list.** -/
theorem regular_of_find? {k : Kind} {name : String} (h : find? k name = some f) : f.Regular := by
  rcases (mem_of_find? h).1 with hmem | hmem
  · cases k with
    | point => exact regular_point f hmem
    | path => exact regular_path f hmem
    | polygon => exact regular_polygon f hmem
    | multiGeometry => exact regular_multiGeometry f hmem
    | placemark => exact regular_placemark f hmem
    | folder => exact regular_folder f hmem
  · exact regular_common f hmem

end Field

namespace Atlas

variable {a b : Atlas} {r : Ref} {v : Value}

/-- The embedded point moves, or a new one is made. -/
theorem movePlacemark_cases {p q : Placemark} {c : Coordinate}
    (h : a.movePlacemark p c = .ok (q, b)) :
    (∃ r, b = a.movePoint r (some c)) ∨ b = (a.insert { body := .point (.at c) }).2 := by
  unfold movePlacemark at h
  split at h
  · next r _ =>
      split at h
      · cases h
      · exact Or.inl ⟨r, (Prod.mk.inj (Except.ok.inj h)).2.symm⟩
  · cases h
  · exact Or.inr (Prod.mk.inj (Except.ok.inj h)).2.symm

/-- A field is assigned in one of the ways that are listed, if the entity is there. -/
theorem assign_cases {name : String} (h : a.assign r name v = .ok b) :
    b = a ∨ ∃ n m c, a.node? r = some n ∧ Assigns a v n m c ∧ b = c.set r m := by
  unfold assign at h
  split at h
  · next n hn =>
      obtain ⟨⟨m, c⟩, hassign, rfl⟩ := exists_of_map_eq_ok h
      refine Or.inr ⟨n, m, c, hn, ?_, rfl⟩
      unfold Node.assign at hassign
      split at hassign
      · cases hassign
      · next f hf =>
          split at hassign
          · cases hassign
          · next assign hf' =>
              have hok : assign a n v = .ok (m, c) := exists_of_mapError_eq_ok hassign
              exact Field.regular_of_find? hf assign hf' a n v m c hok
  · exact Or.inl (Except.ok.inj h).symm

end Atlas

end Gazetteer
