import Gazetteer.Proofs.Dump
import Gazetteer.Proofs.Filter
import Gazetteer.Proofs.OrderBy

/-!
# Projections

`Selection.values` and `Selection.valuesList` read the same fields of the same entities, the one into
objects and the other into arrays. The fields alone decide whether there is an error and which one
(`projection_cases`). If there is none, and all entities can be looked into, every array has under
each field what the object has that stands beside it (`projections_agree`), also where one field is
named twice, which an object has once and an array as often as it is named.
-/

namespace Gazetteer

namespace Selection

variable {a : Atlas} {s : Selection} {fields : List String}

/-! ## Fields -/

/-- A field is malformed for a reason, and those before it are not. -/
def FirstMalformed (fields : List String) (e : Error) : Prop :=
  ∃ before field after cause, fields = before ++ field :: after ∧
    (∀ g ∈ before, FieldPath.Valid (FieldPath.segments g)) ∧
    FieldPath.parse field = .error cause ∧ e = .query (some field) (.limit cause)

theorem projection_eq_ok_iff {paths : List (String × FieldPath)} :
    projection fields = .ok paths ↔
      (∀ field ∈ fields, FieldPath.Valid (FieldPath.segments field)) ∧
        paths = fields.map fun field => (field, FieldPath.segments field) := by
  apply mapM_eq_ok_iff
  · intro field hvalid
    rw [FieldPath.parse_eq_ok_iff.mpr ⟨hvalid, rfl⟩]
  · intro field hvalid
    cases hparse : FieldPath.parse field with
    | error cause => exact ⟨_, rfl⟩
    | ok path => exact absurd (FieldPath.parse_eq_ok_iff.mp hparse).1 hvalid

theorem firstMalformed_of_projection {e : Error} (h : projection fields = .error e) :
    FirstMalformed fields e := by
  obtain ⟨before, field, after, heq, hbefore, hfield⟩ := mapM_eq_error_iff.mp h
  refine ⟨before, field, after, ?_⟩
  have hvalid : ∀ g ∈ before, FieldPath.Valid (FieldPath.segments g) := by
    intro g hg
    obtain ⟨p, hp⟩ := hbefore g hg
    cases hparse : FieldPath.parse g with
    | error cause =>
        rw [hparse] at hp
        cases hp
    | ok path => exact (FieldPath.parse_eq_ok_iff.mp hparse).1
  cases hparse : FieldPath.parse field with
  | error cause =>
      rw [hparse] at hfield
      exact ⟨cause, heq, hvalid, rfl, (Except.error.inj hfield).symm⟩
  | ok path =>
      rw [hparse] at hfield
      cases hfield

/-- **What fields can be projected to.** -/
theorem projection_cases (fields : List String) :
    (∃ e, FirstMalformed fields e ∧ projection fields = .error e) ∨
      (∀ field ∈ fields, FieldPath.Valid (FieldPath.segments field)) ∧
        projection fields = .ok (fields.map fun field => (field, FieldPath.segments field)) := by
  cases h : projection fields with
  | error e => exact .inl ⟨e, firstMalformed_of_projection h, rfl⟩
  | ok paths =>
      obtain ⟨hvalid, rfl⟩ := projection_eq_ok_iff.mp h
      exact .inr ⟨hvalid, rfl⟩

/-! ## Objects and rows -/

/-- What an entity shows under a field: the value that its path leads to, or null. -/
def cell (a : Atlas) (r : Ref) (field : String) : Value :=
  .ofOption (a.resolve? r (FieldPath.segments field))

/-- An object that shows an entity under some fields, and has no other members. -/
def ShowsFields (a : Atlas) (fields : List String) (r : Ref) (map : Value) : Prop :=
  ∀ key, map.member? key = if key ∈ fields then some (cell a r key) else .none

/-- A row that has for each field what an object has under it. -/
def RowOf (fields : List String) (map row : Value) : Prop :=
  ∃ cells, row = .array cells ∧ cells.map some = fields.map fun field => map.member? field

theorem showsFields_ofMembers (a : Atlas) (fields : List String) (r : Ref) :
    ShowsFields a fields r (.ofMembers (fields.map fun field => (field, cell a r field))) := by
  intro key
  have hsame : ∀ f ∈ fields, ∀ g ∈ fields, f = g → cell a r f = cell a r g :=
    fun _ _ _ _ heq => congrArg (cell a r) heq
  split
  · next hmem =>
      exact (Value.member?_ofMembers_map_eq_some_iff hsame).mpr ⟨key, hmem, rfl, rfl⟩
  · next hmem =>
      apply Option.eq_none_iff_forall_ne_some.mpr
      intro v hv
      obtain ⟨field, hfield, rfl, -⟩ := (Value.member?_ofMembers_map_eq_some_iff hsame).mp hv
      exact hmem hfield

theorem rowOf_of_showsFields {r : Ref} {map : Value} (h : ShowsFields a fields r map) :
    RowOf fields map (.array (fields.map (cell a r))) := by
  refine ⟨_, rfl, ?_⟩
  rw [List.map_map]
  apply List.map_congr_left
  intro field hfield
  rw [h field, if_pos hfield]
  rfl

theorem values_eq (hfields : fields ≠ []) :
    s.values a fields = (projection fields).map fun paths => s.items.map fun r =>
      Value.ofMembers (paths.map fun p => (p.1, Value.ofOption (a.resolve? r p.2))) :=
  if_neg (by simpa using hfields)

theorem valuesList_eq (a : Atlas) (s : Selection) (fields : List String) :
    s.valuesList a fields false = (projection fields).map fun paths => s.items.map fun r =>
      Value.array (paths.map fun p => Value.ofOption (a.resolve? r p.2)) :=
  rfl

/-- The only column of a projection, put into rows. -/
theorem valuesList_singleton (a : Atlas) (s : Selection) (field : String) :
    s.valuesList a [field] false =
      (s.valuesList a [field] true).map fun column => column.map fun v => .array [v] := by
  rw [valuesList_eq]
  rcases projection_cases [field] with ⟨e, -, herror⟩ | ⟨-, hok⟩
  · rw [valuesList, herror]
    rfl
  · have hcolumn : s.valuesList a [field] true = .ok (s.items.map fun r => cell a r field) := by
      rw [valuesList, hok]
      rfl
    rw [hcolumn, hok]
    show _ = Except.ok ((s.items.map fun r => cell a r field).map fun v => Value.array [v])
    rw [List.map_map]
    rfl

/-! ## All fields -/

/-- The name of a field is a path on its own. -/
theorem segments_of_mem_names {k : Kind} {name : String} (h : name ∈ Field.names k) :
    FieldPath.Valid (FieldPath.segments name) ∧ FieldPath.segments name = [name] := by
  have hall : ∀ name ∈ Field.names k,
      FieldPath.Valid (FieldPath.segments name) ∧ FieldPath.segments name = [name] := by
    cases k <;> decide
  exact hall name h

/-- The dump of an entity has what its fields show one by one. -/
theorem fieldMap_eq_ofMembers {r : Ref} (hr : a.contains r) :
    a.fieldMap r = .ofMembers ((Field.names r.kind).map fun name => (name, cell a r name)) := by
  obtain ⟨n, hn⟩ := Atlas.contains_iff.mp hr
  have hcell : ∀ f ∈ Field.allOf n.kind, cell a r f.name = f.get a n := by
    intro f hf
    have hname : f.name ∈ Field.names n.kind := List.mem_map.mpr ⟨f, hf, rfl⟩
    have hfield : n.field? a f.name = some (f.get a n) :=
      Node.field?_eq_some_iff.mpr ⟨f, hf, rfl, rfl⟩
    rw [cell, (segments_of_mem_names hname).2, Atlas.resolve?, hn, Option.bind_some, Node.resolve?,
      hfield]
    rfl
  rw [Atlas.fieldMap, hn, ← Atlas.kind_of_node? hn, Field.names, List.map_map]
  apply congrArg Value.ofMembers
  apply List.map_congr_left
  intro f hf
  exact congrArg (f.name, ·) (hcell f hf).symm

/-- No fields ask for all of them. -/
theorem values_nil (hitems : ∀ r ∈ s.items, a.contains r ∧ r.kind = s.kind) :
    s.values a [] = s.values a (Field.names s.kind) := by
  have hvalid : ∀ name ∈ Field.names s.kind, FieldPath.Valid (FieldPath.segments name) :=
    fun name h => (segments_of_mem_names h).1
  have hnames : Field.names s.kind ≠ [] := List.cons_ne_nil _ _
  rw [values_eq hnames, projection_eq_ok_iff.mpr ⟨hvalid, rfl⟩]
  show Except.ok _ = Except.ok _
  apply congrArg Except.ok
  apply List.map_congr_left
  intro r hr
  obtain ⟨hcontains, hkind⟩ := hitems r hr
  rw [fieldMap_eq_ofMembers hcontains, hkind, List.map_map]
  rfl

/-! ## Agreement -/

/-- **All projections show the same.** Either a field is malformed, and the first such one is the
error of objects and rows alike, whatever is selected; or none is, and both are given for every
selection that can be looked into, whereas the program panics at a hidden entity. Each object then
shows its entity under the fields, an unresolvable one as null, and each row has for each field, in
the order of the fields and as often as they are named, what the object has under it. The values of
a single field are the column of its rows, and no fields at all ask for all fields of the kind. -/
theorem projections_agree (a : Atlas) (fields : List String) (hfields : fields ≠ []) :
    ((∃ e, FirstMalformed fields e ∧ ∀ s : Selection,
        s.values a fields = .error e ∧ s.valuesList a fields false = .error e) ∨
      (∀ field ∈ fields, FieldPath.Valid (FieldPath.segments field)) ∧
        ∀ s : Selection, s.Readable a → ∃ maps rows,
          s.values a fields = .ok maps ∧ s.valuesList a fields false = .ok rows ∧
          List.Forall₂ (ShowsFields a fields) s.items maps ∧
          List.Forall₂ (RowOf fields) maps rows) ∧
    (∀ (s : Selection) (field : String), s.Readable a → s.valuesList a [field] false =
      (s.valuesList a [field] true).map fun column => column.map fun v => .array [v]) ∧
    ∀ s : Selection, s.Readable a → (∀ r ∈ s.items, a.contains r ∧ r.kind = s.kind) →
      s.values a [] = s.values a (Field.names s.kind) := by
  refine ⟨?_, fun s field _ => valuesList_singleton a s field, fun s _ => values_nil⟩
  rcases projection_cases fields with ⟨e, hfirst, herror⟩ | ⟨hvalid, hok⟩
  · refine .inl ⟨e, hfirst, fun s => ?_⟩
    rw [values_eq hfields, valuesList_eq, herror]
    exact ⟨rfl, rfl⟩
  · refine .inr ⟨hvalid, fun s _ => ?_⟩
    rw [values_eq hfields, valuesList_eq, hok]
    refine ⟨_, _, rfl, rfl, ?_, ?_⟩
    · rw [List.forall₂_map_right_iff, List.forall₂_same]
      intro r _
      rw [List.map_map]
      exact showsFields_ofMembers a fields r
    · rw [List.forall₂_map_right_iff, List.forall₂_map_left_iff, List.forall₂_same]
      intro r _
      rw [List.map_map, List.map_map]
      exact rowOf_of_showsFields (showsFields_ofMembers a fields r)

theorem projections_agree_pegged :
    ∃ s : Selection, s.Readable Atlas.pegged ∧ ∃ maps rows,
      s.values Atlas.pegged ["point.name", "altitude.x", "point.name"] = .ok maps ∧
      s.valuesList Atlas.pegged ["point.name", "altitude.x", "point.name"] false = .ok rows ∧
      List.Forall₂ (RowOf ["point.name", "altitude.x", "point.name"]) maps rows ∧
      rows = [.array [.string "Peg", .null, .string "Peg"]] ∧
      s.values Atlas.pegged [] = s.values Atlas.pegged (Field.names .placemark) := by
  let s : Selection := { kind := .placemark, items := [⟨.placemark, 0⟩] }
  have hrows : s.valuesList Atlas.pegged ["point.name", "altitude.x", "point.name"] false =
      .ok [.array [.string "Peg", .null, .string "Peg"]] := rfl
  obtain ⟨hcases, -, hnil⟩ := projections_agree Atlas.pegged
    ["point.name", "altitude.x", "point.name"] (List.cons_ne_nil _ _)
  have hreadable : s.Readable Atlas.pegged := by decide
  have hitems : ∀ r ∈ s.items, Atlas.pegged.contains r ∧ r.kind = s.kind := by decide
  rcases hcases with ⟨e, -, herror⟩ | ⟨-, hok⟩
  · cases hrows.symm.trans (herror s).2
  · obtain ⟨maps, rows, hmaps, hrows', -, halike⟩ := hok s hreadable
    exact ⟨s, hreadable, maps, rows, hmaps, hrows', halike,
      Except.ok.inj (hrows'.symm.trans hrows), hnil s hreadable hitems⟩

end Selection

end Gazetteer
