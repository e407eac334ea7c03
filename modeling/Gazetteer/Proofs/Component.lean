import Gazetteer.Proofs.Assignment
import Mathlib.Logic.Function.Defs

/-!
# Components

What an assignment can change of an entity falls into components, each under the name of one field.
`Component.clear` blanks one of them, so that two nodes which are the same when it is blanked differ
in it at most, and `Component.accept` says which values it takes in and what it shows of them. Every
field of every kind stores one component or takes no values (`Field.sorted_of_find?`), except the
coordinates of a placemark, which are stored in a point of its own
(`Field.assignPlacemarkPosition_eq_ok_iff`). So an assignment to a node writes one component or
locates a placemark (`Node.assign_cases`), and a component takes in exactly what it accepts
(`Node.assign_of_mem`).
-/

namespace Gazetteer

open Geodesy

namespace Node

/-- The node drawn in another way, if it is drawn at all. -/
def redraw (n : Node) (f : Drawing → Drawing) : Node :=
  match n.body.drawing? with
  | some d => { n with body := n.body.withDrawing (f d) }
  | none => n

/-- The node with its placemark changed, if it is one. -/
def modifyPlacemark (n : Node) (f : Placemark → Placemark) : Node :=
  match n.body with
  | .placemark p => { n with body := .placemark (f p) }
  | _ => n

/-- The geometries that a placemark or a group refers to. -/
def links (n : Node) : List Ref :=
  match n.body with
  | .placemark p => p.embedded
  | .multiGeometry m => m.members
  | _ => []

variable {n : Node}

theorem exists_of_kind_eq_point (h : n.kind = .point) : ∃ d p, n = ⟨d, .point p⟩ := by
  obtain ⟨d, body⟩ := n
  cases body with
  | point p => exact ⟨d, p, rfl⟩
  | _ => cases h

theorem exists_of_kind_eq_path (h : n.kind = .path) : ∃ d p, n = ⟨d, .path p⟩ := by
  obtain ⟨d, body⟩ := n
  cases body with
  | path p => exact ⟨d, p, rfl⟩
  | _ => cases h

theorem exists_of_kind_eq_polygon (h : n.kind = .polygon) : ∃ d p, n = ⟨d, .polygon p⟩ := by
  obtain ⟨d, body⟩ := n
  cases body with
  | polygon p => exact ⟨d, p, rfl⟩
  | _ => cases h

theorem exists_of_kind_eq_placemark (h : n.kind = .placemark) : ∃ d p, n = ⟨d, .placemark p⟩ := by
  obtain ⟨d, body⟩ := n
  cases body with
  | placemark p => exact ⟨d, p, rfl⟩
  | _ => cases h

/-- Drawing twice is drawing once. -/
theorem redraw_redraw (n : Node) (f g : Drawing → Drawing) :
    (n.redraw f).redraw g = n.redraw fun d => g (f d) := by
  obtain ⟨d, body⟩ := n
  cases body <;> rfl

end Node

theorem Placemark.point?_eq_some_iff {p : Placemark} {q : Ref} :
    p.point? = some q ↔ p.geometry = some q ∧ q.kind = .point := by
  rw [Placemark.point?, Option.filter_eq_some_iff, decide_eq_true_iff]

/-- A part of an entity that is stored under the name of a field. -/
inductive Component where
  | id
  | name
  | description
  | visibility
  | extrude
  | tessellate
  | altitudeMode
  /-- The position of a point, the vertices of a path or the geometry of a placemark. -/
  | coordinates
  | outer
  | inner
  | address
  | phoneNumber
  | snippet
  | styleUrl
  | extendedData
  deriving DecidableEq

namespace Component

/-- The field that a component is stored under. -/
def fieldName : Component → String
  | id => "id"
  | name => "name"
  | description => "description"
  | visibility => "visibility"
  | extrude => "extrude"
  | tessellate => "tessellate"
  | altitudeMode => "altitude_mode"
  | coordinates => "coordinates"
  | outer => "outer_boundary"
  | inner => "inner_boundaries"
  | address => "address"
  | phoneNumber => "phone_number"
  | snippet => "snippet"
  | styleUrl => "style_url"
  | extendedData => "extended_data"

/-- The components that are stored in entities of a kind. -/
def ofKind (k : Kind) : List Component :=
  [id, name, description, visibility] ++
    match k with
    | .point | .path => [coordinates, extrude, tessellate, altitudeMode]
    | .polygon => [outer, inner, extrude, tessellate, altitudeMode]
    | .placemark => [coordinates, address, phoneNumber, snippet, styleUrl, extendedData]
    | .multiGeometry | .folder => []

/-- The node with a component blanked. -/
def clear (n : Node) : Component → Node
  | id => { n with details := { n.details with id := none } }
  | name => { n with details := { n.details with name := none } }
  | description => { n with details := { n.details with description := none } }
  | visibility => { n with details := { n.details with visibility := true } }
  | extrude => n.redraw fun d => { d with extrude := false }
  | tessellate => n.redraw fun d => { d with tessellate := false }
  | altitudeMode => n.redraw fun d => { d with altitudeMode := none }
  | coordinates =>
    match n.body with
    | .point p => { n with body := .point { p with position := none } }
    | .path p => { n with body := .path { p with vertices := [] } }
    | .placemark p => { n with body := .placemark { p with geometry := none } }
    | _ => n
  | outer =>
    match n.body with
    | .polygon p => { n with body := .polygon { p with outer := [] } }
    | _ => n
  | inner =>
    match n.body with
    | .polygon p => { n with body := .polygon { p with inner := [] } }
    | _ => n
  | address => n.modifyPlacemark fun p => { p with address := none }
  | phoneNumber => n.modifyPlacemark fun p => { p with phoneNumber := none }
  | snippet => n.modifyPlacemark fun p => { p with snippet := none }
  | styleUrl => n.modifyPlacemark fun p => { p with styleUrl := none }
  | extendedData => n.modifyPlacemark fun p => { p with extendedData := [] }

/-- What is shown of a component. -/
def value (a : Atlas) (n : Node) : Component → Value
  | id => .ofString? n.details.id
  | name => .ofString? n.details.name
  | description => .ofString? n.details.description
  | visibility => .bool n.details.visibility
  | extrude => .ofOption (n.body.drawing?.map fun d => .bool d.extrude)
  | tessellate => .ofOption (n.body.drawing?.map fun d => .bool d.tessellate)
  | altitudeMode => .ofOption (n.body.drawing?.map fun d => .ofString? d.altitudeMode)
  | coordinates =>
    match n.body with
    | .point p => positionValue p.position
    | .path p => verticesValue p.vertices
    | .placemark p => positionValue (a.embeddedPosition? p)
    | _ => .null
  | outer =>
    match n.body with
    | .polygon p => verticesValue p.outer
    | _ => .null
  | inner =>
    match n.body with
    | .polygon p => .array (p.inner.map verticesValue)
    | _ => .null
  | address => part n fun p => .ofString? p.address
  | phoneNumber => part n fun p => .ofString? p.phoneNumber
  | snippet => part n fun p => .ofString? p.snippet
  | styleUrl => part n fun p => .ofString? p.styleUrl
  | extendedData => part n fun p => .object p.extendedData
where
  /-- What is shown of a placemark. -/
  part (n : Node) (get : Placemark → Value) : Value :=
    match n.body with
    | .placemark p => get p
    | _ => .null

/-- What is shown of a value that an entity of a kind has taken in, or why it is refused. -/
def accept (k : Kind) (v : Value) : Component → Except Refusal Value
  | visibility | extrude | tessellate => (Assigned.flag v).map .bool
  | coordinates =>
    match k, v with
    | .path, v => (Assigned.coordinates v).map verticesValue
    | .point, v => (Field.assignPosition v).map positionValue
    | _, .null => .ok .null
    | _, v => (Assigned.coordinate v).map (·.toValue)
  | outer => (Assigned.coordinates v).map verticesValue
  | inner => (Assigned.rings v).map fun rs => .array (rs.map verticesValue)
  | extendedData => (Assigned.members v).map .object
  | id | name | description | altitudeMode | address | phoneNumber | snippet | styleUrl =>
    (Assigned.string? v).map .ofString?

variable {a b : Atlas} {c c' : Component} {m n : Node}

theorem fieldName_injective : Function.Injective fieldName := by
  intro c c' h
  cases c <;> cases c' <;> first | rfl | (simp [fieldName] at h)

@[simp] theorem kind_clear (n : Node) (c : Component) : (c.clear n).kind = n.kind := by
  obtain ⟨d, body⟩ := n
  cases body <;> cases c <;> rfl

/-- Blanking a component leaves what the others show. -/
theorem value_clear (h : c' ≠ c) (a : Atlas) (n : Node) :
    c'.value a (c.clear n) = c'.value a n := by
  obtain ⟨d, body⟩ := n
  cases c <;> cases c' <;> first | exact absurd rfl h | rfl | (cases body <;> rfl)

/-- Only the coordinates of a placemark refer to anything. -/
theorem links_clear (h : n.kind = .placemark → c ≠ .coordinates) : (c.clear n).links = n.links := by
  obtain ⟨d, body⟩ := n
  cases body with
  | placemark p =>
      cases c with
      | coordinates => exact absurd rfl (h rfl)
      | _ => rfl
  | _ => cases c <;> rfl

/-- What the setter of a component makes of a value: it refuses it, or changes the component alone
and shows what it has taken in. -/
def Takes (c : Component) (a : Atlas) (n : Node) (v : Value) :
    Except Refusal (Node × Atlas) → Prop
  | .ok (m, b) =>
    b = a ∧ m.kind = n.kind ∧ c.clear m = c.clear n ∧ c.accept n.kind v = .ok (c.value a m)
  | .error e => c.accept n.kind v = .error e

variable {α : Type} {x : Except Refusal α} {put : α → Node} {view : α → Value} {v : Value}

/-- A setter reads something off the value and puts it in place. -/
theorem takes_map (hkind : ∀ y, (put y).kind = n.kind) (hclear : ∀ y, c.clear (put y) = c.clear n)
    (hvalue : ∀ y, c.value a (put y) = view y) (haccept : c.accept n.kind v = x.map view) :
    c.Takes a n v (x.map fun y => (put y, a)) := by
  cases x with
  | error e => exact haccept
  | ok y => exact ⟨rfl, hkind y, hclear y, haccept.trans (congrArg Except.ok (hvalue y).symm)⟩

/-- As `takes_map`, where the atlas is put beside the node at the end. -/
theorem takes_map_map (hkind : ∀ y, (put y).kind = n.kind)
    (hclear : ∀ y, c.clear (put y) = c.clear n) (hvalue : ∀ y, c.value a (put y) = view y)
    (haccept : c.accept n.kind v = x.map view) :
    c.Takes a n v ((x.map put).map fun m => (m, a)) := by
  have htakes := takes_map hkind hclear hvalue haccept
  cases x with
  | error e => exact htakes
  | ok y => exact htakes

end Component

namespace Field

variable {k : Kind} {c : Component} {f : Field}

/-- A field stores a component: it is named after it and shows it, and its setter takes values in
as the component does. -/
structure Keeps (f : Field) (k : Kind) (c : Component) : Prop where
  name : f.name = c.fieldName
  get : ∀ a n, n.kind = k → f.get a n = c.value a n
  assign : ∃ assign, f.assign? = some assign ∧ ∀ a n v, n.kind = k → c.Takes a n v (assign a n v)

/-- Nothing can be assigned to a field. -/
def Closed (f : Field) : Prop :=
  ∀ assign, f.assign? = some assign → ∀ a n v, ∃ e, assign a n v = .error e

/-- What is known of a field: nothing can be assigned to it, or it stores a component. -/
def Sorted (f : Field) (k : Kind) : Prop :=
  f.Closed ∨ ∃ c ∈ Component.ofKind k, f.Keeps k c

theorem sorted_of_readOnly (h : f.assign? = none) : f.Sorted k := by
  refine Or.inl fun assign hassign => ?_
  rw [h] at hassign
  cases hassign

/-! ## Ways to make fields -/

theorem keeps_ofDetail {get : Details → Option String} {set : Details → Option String → Details}
    (hget : ∀ a n, c.value a n = .ofString? (get n.details))
    (hset : ∀ d s, get (set d s) = s)
    (hclear : ∀ n s, c.clear { n with details := set n.details s } = c.clear n)
    (haccept : ∀ v, c.accept k v = (Assigned.string? v).map .ofString?) :
    (ofDetail c.fieldName get set).Keeps k c := by
  refine ⟨rfl, fun a n _ => (hget a n).symm, _, rfl, fun a n v hn => ?_⟩
  refine Component.takes_map_map (fun _ => rfl) (hclear n) (fun s => ?_) (hn ▸ haccept v)
  rw [hget, hset]

/-- A field of one kind of bodies. -/
theorem keeps_of_body {α : Type} {body : α → Body}
    {assign : Atlas → Node → Value → Except Refusal (Node × Atlas)}
    (hk : ∀ n : Node, n.kind = k → ∃ d x, n = ⟨d, body x⟩) (hname : f.name = c.fieldName)
    (hget : ∀ a d x, f.get a ⟨d, body x⟩ = c.value a ⟨d, body x⟩)
    (hassign : f.assign? = some assign)
    (htakes : ∀ a d x v, c.Takes a ⟨d, body x⟩ v (assign a ⟨d, body x⟩ v)) : f.Keeps k c := by
  refine ⟨hname, fun a n hn => ?_, assign, hassign, fun a n v hn => ?_⟩
  · obtain ⟨d, x, rfl⟩ := hk n hn
    exact hget a d x
  · obtain ⟨d, x, rfl⟩ := hk n hn
    exact htakes a d x v

theorem keeps_ofPlacemarkPart {α : Type} {get : Placemark → Value}
    {read : Value → Except Refusal α} {set : Placemark → α → Placemark} {view : α → Value}
    (hget : ∀ a d p, c.value a ⟨d, .placemark p⟩ = get p)
    (hset : ∀ p y, get (set p y) = view y)
    (hclear : ∀ d p y, c.clear ⟨d, .placemark (set p y)⟩ = c.clear ⟨d, .placemark p⟩)
    (haccept : ∀ v, c.accept .placemark v = (read v).map view) :
    (ofPlacemarkPart c.fieldName get fun p v => (read v).map (set p)).Keeps .placemark c := by
  refine keeps_of_body (fun n => Node.exists_of_kind_eq_placemark) rfl
    (fun a d p => (hget a d p).symm) rfl fun a d p v => ?_
  have htakes : c.Takes a ⟨d, .placemark p⟩ v
      ((read v).map fun y => (⟨d, .placemark (set p y)⟩, a)) := by
    refine Component.takes_map (fun _ => rfl) (hclear d p) (fun y => ?_) (haccept v)
    rw [hget, hset]
  dsimp only
  cases h : read v <;>
    · rw [h] at htakes
      exact htakes

theorem keeps_ofDrawing {α : Type} {get : Drawing → Value} {read : Value → Except Refusal α}
    {set : Drawing → α → Drawing} {view : α → Value}
    (hk : ∀ n : Node, n.kind = k → ∃ d, n.body.drawing? = some d)
    (hget : ∀ a n, c.value a n = .ofOption (n.body.drawing?.map get))
    (hset : ∀ d y, get (set d y) = view y)
    (hclear : ∀ (n : Node) y, c.clear (n.redraw (set · y)) = c.clear n)
    (haccept : ∀ v, c.accept k v = (read v).map view) :
    (ofDrawing c.fieldName get fun d v => (read v).map (set d)).Keeps k c := by
  refine ⟨rfl, fun a n hn => ?_, _, rfl, fun a n v hn => ?_⟩
  · obtain ⟨d, hd⟩ := hk n hn
    rw [hget]
    simp only [ofDrawing, ofNode, hd]
    rfl
  · obtain ⟨d, hd⟩ := hk n hn
    have hredraw : ∀ y, n.redraw (set · y) = { n with body := n.body.withDrawing (set d y) } := by
      intro y
      simp only [Node.redraw, hd]
    have hdrawn : ∀ w, (n.body.withDrawing w).drawing? = some w := by
      intro w
      obtain ⟨e, body⟩ := n
      cases body <;> first | rfl | cases hd
    have htakes : c.Takes a n v ((read v).map fun y => (n.redraw (set · y), a)) := by
      refine Component.takes_map (fun y => ?_) (hclear n) (fun y => ?_) (hn ▸ haccept v)
      · rw [hredraw]
        exact Body.kind_withDrawing _ n.body
      · rw [hredraw, hget, hdrawn]
        exact hset d y
    simp only [hredraw] at htakes
    simp only [hd]
    cases h : read v <;>
      · rw [h] at htakes
        exact htakes

/-! ## The fields of each kind -/

theorem keeps_visibility (k : Kind) :
    (ofNode "visibility" (fun n => .bool n.details.visibility) fun n v =>
      (Assigned.flag v).map fun b => { n with details := { n.details with visibility := b } }).Keeps
      k .visibility := by
  refine ⟨rfl, fun _ _ _ => rfl, _, rfl, fun a n v _ => ?_⟩
  exact Component.takes_map_map (fun _ => rfl) (fun _ => rfl) (fun _ => rfl) rfl

theorem sorted_common (k : Kind) : ∀ f ∈ common, f.Sorted k := by
  simp only [common, List.forall_mem_cons, List.not_mem_nil, false_implies, implies_true, and_true]
  have hmem : ∀ {c}, c ∈ [Component.id, .name, .description, .visibility] →
      c ∈ Component.ofKind k := fun hc => List.mem_append_left _ hc
  refine ⟨sorted_of_readOnly rfl, Or.inr ⟨.id, hmem (by decide), ?_⟩,
    Or.inr ⟨.name, hmem (by decide), ?_⟩, Or.inr ⟨.description, hmem (by decide), ?_⟩,
    Or.inr ⟨.visibility, hmem (by decide), keeps_visibility k⟩, Or.inl ?_⟩
  · exact keeps_ofDetail (c := .id) (fun _ _ => rfl) (fun _ _ => rfl) (fun _ _ => rfl) fun _ => rfl
  · exact keeps_ofDetail (c := .name) (fun _ _ => rfl) (fun _ _ => rfl) (fun _ _ => rfl)
      fun _ => rfl
  · exact keeps_ofDetail (c := .description) (fun _ _ => rfl) (fun _ _ => rfl) (fun _ _ => rfl)
      fun _ => rfl
  · rintro _ ⟨⟩ a n v
    exact ⟨_, rfl⟩

theorem sorted_drawing (hk : ∀ n : Node, n.kind = k → ∃ d, n.body.drawing? = some d)
    (hmem : ∀ c ∈ [Component.extrude, .tessellate, .altitudeMode], c ∈ Component.ofKind k) :
    ∀ f ∈ drawing, f.Sorted k := by
  simp only [drawing, List.forall_mem_cons, List.not_mem_nil, false_implies, implies_true, and_true]
  refine ⟨Or.inr ⟨.extrude, hmem _ (by decide), ?_⟩, Or.inr ⟨.tessellate, hmem _ (by decide), ?_⟩,
    Or.inr ⟨.altitudeMode, hmem _ (by decide), ?_⟩⟩
  · exact keeps_ofDrawing (c := .extrude) hk (fun _ _ => rfl) (fun _ _ => rfl)
      (fun n y => n.redraw_redraw _ _) fun _ => rfl
  · exact keeps_ofDrawing (c := .tessellate) hk (fun _ _ => rfl) (fun _ _ => rfl)
      (fun n y => n.redraw_redraw _ _) fun _ => rfl
  · exact keeps_ofDrawing (c := .altitudeMode) hk (fun _ _ => rfl) (fun _ _ => rfl)
      (fun n y => n.redraw_redraw _ _) fun _ => rfl

theorem sorted_point : ∀ f ∈ point, f.Sorted .point := by
  simp only [point, List.forall_mem_append, List.forall_mem_cons, List.not_mem_nil, false_implies,
    implies_true, and_true]
  refine ⟨⟨Or.inr ⟨.coordinates, by decide, ?_⟩, sorted_of_readOnly rfl, sorted_of_readOnly rfl,
    sorted_of_readOnly rfl, sorted_of_readOnly rfl⟩, sorted_drawing (fun n hn => ?_) (by decide)⟩
  · refine keeps_of_body (fun n => Node.exists_of_kind_eq_point) rfl (fun _ _ _ => rfl) rfl ?_
    exact fun a d p v => Component.takes_map (fun _ => rfl) (fun _ => rfl) (fun _ => rfl) rfl
  · obtain ⟨d, p, rfl⟩ := Node.exists_of_kind_eq_point hn
    exact ⟨p.drawing, rfl⟩

theorem sorted_path : ∀ f ∈ path, f.Sorted .path := by
  simp only [path, List.forall_mem_append, List.forall_mem_cons, List.not_mem_nil, false_implies,
    implies_true, and_true]
  refine ⟨⟨Or.inr ⟨.coordinates, by decide, ?_⟩, sorted_of_readOnly rfl, sorted_of_readOnly rfl⟩,
    sorted_drawing (fun n hn => ?_) (by decide)⟩
  · refine keeps_of_body (fun n => Node.exists_of_kind_eq_path) rfl (fun _ _ _ => rfl) rfl ?_
    exact fun a d p v => Component.takes_map (fun _ => rfl) (fun _ => rfl) (fun _ => rfl) rfl
  · obtain ⟨d, p, rfl⟩ := Node.exists_of_kind_eq_path hn
    exact ⟨p.drawing, rfl⟩

theorem sorted_polygon : ∀ f ∈ polygon, f.Sorted .polygon := by
  simp only [polygon, List.forall_mem_append, List.forall_mem_cons, List.not_mem_nil,
    false_implies, implies_true, and_true]
  refine ⟨⟨Or.inr ⟨.outer, by decide, ?_⟩, Or.inr ⟨.inner, by decide, ?_⟩, sorted_of_readOnly rfl,
    sorted_of_readOnly rfl, sorted_of_readOnly rfl⟩, sorted_drawing (fun n hn => ?_) (by decide)⟩
  · refine keeps_of_body (fun n => Node.exists_of_kind_eq_polygon) rfl (fun _ _ _ => rfl) rfl ?_
    exact fun a d p v => Component.takes_map (fun _ => rfl) (fun _ => rfl) (fun _ => rfl) rfl
  · refine keeps_of_body (fun n => Node.exists_of_kind_eq_polygon) rfl (fun _ _ _ => rfl) rfl ?_
    exact fun a d p v => Component.takes_map (fun _ => rfl) (fun _ => rfl) (fun _ => rfl) rfl
  · obtain ⟨d, p, rfl⟩ := Node.exists_of_kind_eq_polygon hn
    exact ⟨p.drawing, rfl⟩

/-- All fields of placemarks but the coordinates. -/
theorem sorted_placemark : ∀ f ∈ placemark, f.name ≠ "coordinates" → f.Sorted .placemark := by
  simp only [placemark, List.forall_mem_cons, List.not_mem_nil, false_implies, implies_true,
    and_true]
  refine ⟨fun h => absurd rfl h, fun _ => sorted_of_readOnly rfl, fun _ => sorted_of_readOnly rfl,
    fun _ => sorted_of_readOnly rfl, fun _ => sorted_of_readOnly rfl,
    fun _ => sorted_of_readOnly rfl, fun _ => sorted_of_readOnly rfl,
    fun _ => sorted_of_readOnly rfl, fun _ => Or.inr ⟨.address, by decide, ?_⟩,
    fun _ => Or.inr ⟨.phoneNumber, by decide, ?_⟩, fun _ => Or.inr ⟨.snippet, by decide, ?_⟩,
    fun _ => Or.inr ⟨.styleUrl, by decide, ?_⟩, fun _ => Or.inr ⟨.extendedData, by decide, ?_⟩⟩
  · exact keeps_ofPlacemarkPart (c := .address) (fun _ _ _ => rfl) (fun _ _ => rfl)
      (fun _ _ _ => rfl) fun _ => rfl
  · exact keeps_ofPlacemarkPart (c := .phoneNumber) (fun _ _ _ => rfl) (fun _ _ => rfl)
      (fun _ _ _ => rfl) fun _ => rfl
  · exact keeps_ofPlacemarkPart (c := .snippet) (fun _ _ _ => rfl) (fun _ _ => rfl)
      (fun _ _ _ => rfl) fun _ => rfl
  · exact keeps_ofPlacemarkPart (c := .styleUrl) (fun _ _ _ => rfl) (fun _ _ => rfl)
      (fun _ _ _ => rfl) fun _ => rfl
  · exact keeps_ofPlacemarkPart (c := .extendedData) (fun _ _ _ => rfl) (fun _ _ => rfl)
      (fun _ _ _ => rfl) fun _ => rfl

/-- **Every field of every kind stores one component or takes no values**, except the coordinates
of a placemark. -/
theorem sorted_of_find? {name : String} (h : find? k name = some f)
    (hne : k = .placemark → name ≠ "coordinates") : f.name = name ∧ f.Sorted k := by
  obtain ⟨hmem, hname⟩ := mem_of_find? h
  refine ⟨hname, ?_⟩
  rcases hmem with hmem | hmem
  · cases k with
    | point => exact sorted_point f hmem
    | path => exact sorted_path f hmem
    | polygon => exact sorted_polygon f hmem
    | multiGeometry => exact sorted_of_readOnly (readOnly_multiGeometry f hmem)
    | placemark => exact sorted_placemark f hmem (hname ▸ hne rfl)
    | folder => exact sorted_of_readOnly (readOnly_folder f hmem)
  · exact sorted_common k f hmem

/-! ## The coordinates of a placemark -/

/-- What assigning coordinates makes of a placemark and of the atlas around it. -/
inductive Locates (a : Atlas) (p : Placemark) (v : Value) : Placemark → Atlas → Prop
  /-- Null drops an embedded point and leaves any other geometry. -/
  | drop (hv : v = .null) :
      Locates a p v { p with geometry := p.geometry.filter (·.kind ≠ .point) } a
  /-- An embedded point that nobody holds is moved. -/
  | move {c : Coordinate} {r : Ref} (hc : Assigned.coordinate v = .ok c) (hr : p.geometry = some r)
      (hk : r.kind = .point) (hfree : a.isHeld r = false) :
      Locates a p v p (a.movePoint r (some c))
  /-- Where there is no geometry a point is made. -/
  | make {c : Coordinate} (hc : Assigned.coordinate v = .ok c) (hnone : p.geometry = none) :
      Locates a p v { p with geometry := some (a.insert ⟨{}, .point (.at c)⟩).1 }
        (a.insert ⟨{}, .point (.at c)⟩).2

variable {a b : Atlas} {p q : Placemark} {v : Value}

theorem movePlacemark_of_none (h : p.geometry = none) (c : Coordinate) :
    a.movePlacemark p c =
      .ok ({ p with geometry := some (a.insert ⟨{}, .point (.at c)⟩).1 },
        (a.insert ⟨{}, .point (.at c)⟩).2) := by
  rw [Atlas.movePlacemark, Placemark.point?, h]
  rfl

theorem movePlacemark_of_point {r : Ref} (h : p.geometry = some r) (hk : r.kind = .point)
    (c : Coordinate) :
    a.movePlacemark p c =
      if a.isHeld r then .error .pointHeld else .ok (p, a.movePoint r (some c)) := by
  rw [Atlas.movePlacemark, Placemark.point?, h, Option.filter_some_pos (by simp [hk])]

theorem movePlacemark_of_ne_point {r : Ref} (h : p.geometry = some r) (hk : r.kind ≠ .point)
    (c : Coordinate) : a.movePlacemark p c = .error (.notAPoint r.kind) := by
  rw [Atlas.movePlacemark, Placemark.point?, h, Option.filter_some_neg (by simp [hk])]

/-- Null keeps the geometries that are no points. -/
theorem assignPlacemarkPosition_null (a : Atlas) (p : Placemark) :
    assignPlacemarkPosition a p .null =
      .ok ({ p with geometry := p.geometry.filter (·.kind ≠ .point) }, a) := by
  obtain ⟨geometry⟩ := p
  cases geometry with
  | none => rfl
  | some r =>
      by_cases hk : r.kind = .point <;>
        simp [assignPlacemarkPosition, Placemark.point?, Option.filter, hk]

/-- What is no null is read as a coordinate. -/
theorem assignPlacemarkPosition_of_ne_null (hv : v ≠ .null) :
    assignPlacemarkPosition a p v = (Assigned.coordinate v).bind (a.movePlacemark p) := by
  unfold assignPlacemarkPosition
  split
  · exact absurd rfl hv
  · rfl

/-- Coordinates that are assigned to a placemark drop, move or make a point, or are refused. -/
theorem assignPlacemarkPosition_eq_ok_iff :
    assignPlacemarkPosition a p v = .ok (q, b) ↔ Locates a p v q b := by
  by_cases hv : v = .null
  · subst hv
    rw [assignPlacemarkPosition_null]
    constructor
    · rintro ⟨⟩
      exact .drop rfl
    · rintro (_ | _ | _)
      · rfl
      · cases ‹Assigned.coordinate .null = _›
      · cases ‹Assigned.coordinate .null = _›
  rw [assignPlacemarkPosition_of_ne_null hv]
  constructor
  · intro h
    obtain ⟨c, hc, h⟩ : ∃ c, Assigned.coordinate v = .ok c ∧ a.movePlacemark p c = .ok (q, b) := by
      cases hc : Assigned.coordinate v with
      | error e => rw [hc] at h; cases h
      | ok c => exact ⟨c, rfl, by rwa [hc] at h⟩
    cases hp : p.geometry with
    | none =>
        rw [movePlacemark_of_none hp] at h
        cases h
        exact .make hc hp
    | some r =>
        by_cases hk : r.kind = .point
        · rw [movePlacemark_of_point hp hk] at h
          split at h
          · cases h
          · next hfree =>
              cases h
              exact .move hc hp hk (by simpa using hfree)
        · rw [movePlacemark_of_ne_point hp hk] at h
          cases h
  · intro h
    cases h with
    | drop hnull => exact absurd hnull hv
    | move hc hr hk hfree =>
        rw [hc]
        show a.movePlacemark p _ = _
        rw [movePlacemark_of_point hr hk, hfree, if_neg Bool.false_ne_true]
    | make hc hnone =>
        rw [hc]
        exact movePlacemark_of_none hnone _

/-- Null can always be assigned, and a position where there is no geometry or a point that nobody
holds. -/
theorem exists_locates_iff :
    (∃ q b, Locates a p v q b) ↔
      v = .null ∨ (∃ c, Assigned.coordinate v = .ok c) ∧
        ∀ r, p.geometry = some r → r.kind = .point ∧ a.isHeld r = false := by
  constructor
  · rintro ⟨q, b, hlocates⟩
    cases hlocates with
    | drop hv => exact Or.inl hv
    | move hc hr hk hfree =>
        refine Or.inr ⟨⟨_, hc⟩, fun r hr' => ?_⟩
        obtain rfl := Option.some.inj (hr.symm.trans hr')
        exact ⟨hk, hfree⟩
    | make hc hnone =>
        refine Or.inr ⟨⟨_, hc⟩, fun r hr => ?_⟩
        rw [hnone] at hr
        cases hr
  · rintro (hv | ⟨⟨c, hc⟩, hgeometry⟩)
    · exact ⟨_, _, .drop hv⟩
    · cases hp : p.geometry with
      | none => exact ⟨_, _, .make hc hp⟩
      | some r => exact ⟨_, _, .move hc hp (hgeometry r hp).1 (hgeometry r hp).2⟩

end Field

/-! ## Nodes -/

theorem Component.value_congr {c : Component} {n : Node}
    (h : n.kind = .placemark → c ≠ .coordinates) (a b : Atlas) : c.value a n = c.value b n := by
  obtain ⟨d, body⟩ := n
  cases c with
  | coordinates =>
      cases body with
      | placemark p => exact absurd rfl (h rfl)
      | _ => rfl
  | _ => rfl

theorem Node.assign_coordinates (a : Atlas) (d : Details) (p : Placemark) (v : Value) :
    (⟨d, .placemark p⟩ : Node).assign a "coordinates" v =
      ((Field.assignPlacemarkPosition a p v).map fun (q, b) =>
        ((⟨d, .placemark q⟩ : Node), b)).mapError (.validation (some "coordinates")) := rfl

/-- An assignment to a node writes one component of it or locates a placemark. -/
theorem Node.assign_cases {a b : Atlas} {m n : Node} {name : String} {v : Value}
    (h : n.assign a name v = .ok (m, b)) :
    (∃ c ∈ Component.ofKind n.kind, c.fieldName = name ∧
      (n.kind = .placemark → c ≠ .coordinates) ∧ c.Takes a n v (.ok (m, b))) ∨
    ∃ d p q, n = ⟨d, .placemark p⟩ ∧ m = ⟨d, .placemark q⟩ ∧ name = "coordinates" ∧
      Field.Locates a p v q b := by
  unfold Node.assign at h
  split at h
  · cases h
  next f hf =>
  split at h
  · cases h
  next assign hassign =>
  have hok : assign a n v = .ok (m, b) := exists_of_mapError_eq_ok h
  by_cases hat : n.kind = .placemark ∧ name = "coordinates"
  · obtain ⟨hk, rfl⟩ := hat
    obtain ⟨d, p, rfl⟩ := exists_of_kind_eq_placemark hk
    cases hf
    cases hassign
    obtain ⟨⟨q, x⟩, hq, heq⟩ := exists_of_map_eq_ok hok
    obtain ⟨rfl, rfl⟩ := Prod.mk.inj heq
    exact Or.inr ⟨d, p, q, rfl, rfl, rfl, Field.assignPlacemarkPosition_eq_ok_iff.mp hq⟩
  · obtain ⟨hname, hclosed | ⟨c, hmem, hc⟩⟩ := Field.sorted_of_find? hf fun hk hn => hat ⟨hk, hn⟩
    · obtain ⟨e, he⟩ := hclosed assign hassign a n v
      rw [he] at hok
      cases hok
    · obtain ⟨assign', hassign', htakes⟩ := hc.assign
      obtain rfl : assign' = assign := Option.some.inj (hassign'.symm.trans hassign)
      refine Or.inl ⟨c, hmem, hc.name.symm.trans hname, fun hk hcoord => ?_, hok ▸ htakes a n v rfl⟩
      exact hat ⟨hk, by rw [← hname, hc.name, hcoord]; rfl⟩

variable {c : Component} {n : Node}

/-- Every component that is stored in a kind takes in null or a truth value. -/
theorem Node.exists_assign_blank (k : Kind) : ∀ c ∈ Component.ofKind k,
    ∃ v ∈ [Value.null, .bool true], ((blank k).assign {} c.fieldName v).toOption.isSome := by
  cases k <;> decide

/-- The field of a component keeps it. -/
theorem Field.exists_keeps {k : Kind} (hc : c ∈ Component.ofKind k)
    (hne : k = .placemark → c ≠ .coordinates) :
    ∃ f, find? k c.fieldName = some f ∧ f.Keeps k c := by
  obtain ⟨v, -, hv⟩ := Node.exists_assign_blank k c hc
  obtain ⟨⟨m, b⟩, hok⟩ := Option.isSome_iff_exists.mp hv
  have hassign : (Node.blank k).assign {} c.fieldName v = .ok (m, b) := by
    cases h : (Node.blank k).assign {} c.fieldName v with
    | error e => rw [h] at hok; cases hok
    | ok p => rw [h] at hok; exact congrArg Except.ok (Option.some.inj hok)
  unfold Node.assign at hassign
  rw [Node.kind_blank] at hassign
  split at hassign
  · cases hassign
  next f hf =>
  refine ⟨f, hf, ?_⟩
  have hat : k = .placemark → c.fieldName ≠ "coordinates" := fun hk hname =>
    hne hk (Component.fieldName_injective (hname.trans rfl))
  obtain ⟨hname, hclosed | ⟨c', -, hkeeps⟩⟩ := sorted_of_find? hf hat
  · split at hassign
    · cases hassign
    next assign hf' =>
    obtain ⟨e, he⟩ := hclosed assign hf' {} (.blank k) v
    rw [he] at hassign
    cases hassign
  · rwa [Component.fieldName_injective (hname.symm.trans hkeeps.name)]

/-- A component takes in what it accepts and refuses the rest. -/
theorem Node.assign_of_mem (hc : c ∈ Component.ofKind n.kind)
    (hne : n.kind = .placemark → c ≠ .coordinates) (a : Atlas) (v : Value) :
    (∀ cause, c.accept n.kind v = .error cause →
      n.assign a c.fieldName v = .error (.validation (some c.fieldName) cause)) ∧
    ∀ w, c.accept n.kind v = .ok w →
      ∃ m, n.assign a c.fieldName v = .ok (m, a) ∧ c.value a m = w := by
  obtain ⟨f, hf, hkeeps⟩ := Field.exists_keeps hc hne
  obtain ⟨assign, hassign, htakes⟩ := hkeeps.assign
  have htake := htakes a n v rfl
  have heq : n.assign a c.fieldName v =
      (assign a n v).mapError (.validation (some c.fieldName)) := by
    simp only [Node.assign, hf, hassign]
  rw [heq]
  cases h : assign a n v with
  | error e =>
      rw [h] at htake
      have herror : c.accept n.kind v = .error e := htake
      rw [herror]
      refine ⟨?_, nofun⟩
      rintro _ ⟨⟩
      rfl
  | ok p =>
      obtain ⟨m, b⟩ := p
      rw [h] at htake
      obtain ⟨rfl, -, -, haccept⟩ := htake
      rw [haccept]
      refine ⟨nofun, ?_⟩
      rintro _ ⟨⟩
      exact ⟨m, rfl, rfl⟩

end Gazetteer
