import Gazetteer.Atlas.Entity
import Gazetteer.Proofs.Component
import Gazetteer.Proofs.Collect
import Gazetteer.Proofs.Member

/-!
# What is shown of entities

A field is read off an entity and the geometries that it leads to. So two atlases whose geometries
are the same but for their parents (`Atlas.Mirrors`) show the same of an entity that is the same but
for its parent: on all paths that do not lead to a parent (`Node.resolve?_withParent`), and on all
paths if the same is shown of the parents too (`Node.resolve?_withParent_of_parents`).
-/

namespace Gazetteer

open Geodesy

/-! ## Members of dumps -/

namespace Field

/-- A member of a dump is decided by the fields of its name. -/
theorem step?_dump {fields : List Field} {a b : Atlas} {m n : Node} {key : String}
    (h : ∀ f ∈ fields, f.name = key → f.get b m = f.get a n) :
    (dump fields b m).step? key = (dump fields a n).step? key := by
  have hlookup : ∀ l : List Field, (∀ f ∈ l, f.name = key → f.get b m = f.get a n) →
      (l.map fun f => (f.name, f.get b m)).lookup key =
        (l.map fun f => (f.name, f.get a n)).lookup key := by
    intro l hl
    induction l with
    | nil => rfl
    | cons f l ih =>
        obtain ⟨hf, hl⟩ := List.forall_mem_cons.mp hl
        rw [List.map_cons, List.map_cons, List.lookup_cons, List.lookup_cons, ih hl]
        split
        · next hkey => rw [hf (eq_of_beq hkey).symm]
        · rfl
  show (dump fields b m).member? key = (dump fields a n).member? key
  rw [dump, dump, Value.member?_ofMembers, Value.member?_ofMembers, ← List.map_reverse,
    ← List.map_reverse]
  exact hlookup fields.reverse fun f hf => h f (List.mem_reverse.mp hf)

end Field

/-! ## Mirrored geometries -/

/-- The node under another parent. -/
def Node.withParent (n : Node) (parent : Option Ref) : Node :=
  { n with details := { n.details with parent := parent } }

namespace Atlas

theorem ne_of_isGeometry {q t : Ref} (hq : q.kind.isGeometry) (ht : t.kind = .folder) : q ≠ t := by
  rintro rfl
  rw [ht] at hq
  cases hq

/-- What is free is there. -/
theorem node?_of_free? {a : Atlas} {q : Ref} {n : Node} (h : a.free? q = some n) :
    a.node? q = some n := by
  unfold free? at h
  split at h
  · cases h
  · exact h

/-- The geometries of `a` are those of `b`, where they may have other parents. -/
structure Mirrors (a b : Atlas) : Prop where
  free : ∀ q : Ref, q.kind.isGeometry →
    a.free? q = none ∧ b.free? q = none ∨
      ∃ n p, a.free? q = some n ∧ b.free? q = some (n.withParent p)
  contains : ∀ q : Ref, q.kind.isGeometry → b.contains q = a.contains q
  links : ∀ q n, a.free? q = some n → ∀ l ∈ n.links, l.kind.isGeometry

namespace Mirrors

variable {a b : Atlas}

/-- The members of a group, seen from its node. -/
theorem openMembers_eq_free? (a : Atlas) (q : Ref) :
    a.openMembers q =
      match a.free? q with
      | some ⟨_, .multiGeometry m⟩ => m.members
      | _ => [] := by
  rw [Atlas.openMembers, Atlas.members, free?]
  split <;> rfl

theorem openMembers (h : a.Mirrors b) {q : Ref} (hq : q.kind.isGeometry) :
    b.openMembers q = a.openMembers q := by
  rw [openMembers_eq_free?, openMembers_eq_free?]
  rcases h.free q hq with ⟨ha, hb⟩ | ⟨n, p, ha, hb⟩
  · rw [ha, hb]
  · rw [ha, hb]
    obtain ⟨d, body⟩ := n
    cases body <;> rfl

theorem unwrap (h : a.Mirrors b) (k : Kind) {seeds : List Ref}
    (hseeds : ∀ s ∈ seeds, s.kind.isGeometry) : b.unwrap k seeds = a.unwrap k seeds := by
  have hwalk : b.unwrapFrom [] seeds = a.unwrapFrom [] seeds := by
    refine Walk.depthFirst_congr (fun q => q.kind.isGeometry) (fun q hq => ?_)
      (fun q hq => h.openMembers hq) (fun q _ l hl => ?_) hseeds
    · rw [mem_refs_iff, mem_refs_iff, ← contains_iff, ← contains_iff, h.contains q hq]
    · rw [openMembers_eq_free?] at hl
      split at hl
      · next d m hm => exact h.links q _ hm l hl
      · cases hl
  rw [Atlas.unwrap, Atlas.unwrap, hwalk]

theorem geometryValue (h : a.Mirrors b) {q : Ref} (hq : q.kind.isGeometry) :
    Field.geometryValue b q = Field.geometryValue a q := by
  rw [Field.geometryValue, Field.geometryValue]
  rcases h.free q hq with ⟨ha, hb⟩ | ⟨n, p, ha, hb⟩
  · rw [ha, hb]
  · rw [ha, hb]
    rfl

theorem embeddedPosition? (h : a.Mirrors b) (p : Placemark) :
    b.embeddedPosition? p = a.embeddedPosition? p := by
  rw [Atlas.embeddedPosition?, Atlas.embeddedPosition?]
  cases hp : p.point? with
  | none => rfl
  | some q =>
      have hk : q.kind = .point := (Placemark.point?_eq_some_iff.mp hp).2
      rw [Option.bind_some, Option.bind_some]
      rcases h.free q (by rw [hk]; rfl) with ⟨ha, hb⟩ | ⟨n, p, ha, hb⟩
      · rw [ha, hb]
      · rw [ha, hb]
        obtain ⟨d, body⟩ := n
        cases body <;> rfl

/-- Atlases mirror each other if only parents differ and what is hidden among the folders. -/
theorem of_node? {p : Ref → Node → Option Ref}
    (hlinks : ∀ q n, a.node? q = some n → ∀ l ∈ n.links, l.kind.isGeometry)
    (hhidden : ∀ q : Ref, q.kind.isGeometry → b.isHidden q = a.isHidden q)
    (hnode : ∀ q : Ref, q.kind.isGeometry →
      b.node? q = (a.node? q).map fun n => n.withParent (p q n)) : a.Mirrors b where
  free q hq := by
    rw [free?, free?, hhidden q hq, hnode q hq]
    split
    · exact Or.inl ⟨rfl, rfl⟩
    · cases a.node? q with
      | none => exact Or.inl ⟨rfl, rfl⟩
      | some n => exact Or.inr ⟨n, _, rfl, rfl⟩
  contains q hq := by
    rw [Atlas.contains, Atlas.contains, hnode q hq, Option.isSome_map]
  links q n hn := hlinks q n (node?_of_free? hn)

end Mirrors

end Atlas

/-! ## Fields -/

namespace Field

variable {a b : Atlas} {n : Node} {f : Field}

/-- A field shows the same of a node under another parent in another atlas. -/
def Agrees (f : Field) (a b : Atlas) (n : Node) (parent : Option Ref) : Prop :=
  f.get b (n.withParent parent) = f.get a n

theorem agrees_common (hf : f ∈ common) (hname : f.name ≠ "parent") (a b : Atlas) (n : Node)
    (parent : Option Ref) : f.Agrees a b n parent := by
  simp only [common, List.mem_cons, List.not_mem_nil, or_false] at hf
  rcases hf with rfl | rfl | rfl | rfl | rfl | rfl <;> first | rfl | exact absurd rfl hname

/-- What is shown of a parent is its id and its name. -/
theorem parentValue_congr {m : Node}
    (h : (m.details.parent.bind b.free?).map (fun p => (p.details.id, p.details.name)) =
      (n.details.parent.bind a.free?).map fun p => (p.details.id, p.details.name)) :
    parentValue b m = parentValue a n := by
  rw [parentValue, parentValue]
  cases hm : m.details.parent.bind b.free? <;> cases hn : n.details.parent.bind a.free? <;>
    simp_all

/-- Fields of drawings look at nothing but the drawing. -/
theorem agrees_drawing (hf : f ∈ drawing) (a b : Atlas) (n : Node) (parent : Option Ref) :
    f.Agrees a b n parent := by
  simp only [drawing, List.mem_cons, List.not_mem_nil, or_false] at hf
  rcases hf with rfl | rfl | rfl <;> rfl

theorem agrees_point (hf : f ∈ point) (a b : Atlas) (n : Node) (parent : Option Ref) :
    f.Agrees a b n parent := by
  rcases List.mem_append.mp hf with hf | hf
  · simp only [List.mem_cons, List.not_mem_nil, or_false] at hf
    rcases hf with rfl | rfl | rfl | rfl | rfl <;> rfl
  · exact agrees_drawing hf a b n parent

theorem agrees_path (hf : f ∈ path) (a b : Atlas) (n : Node) (parent : Option Ref) :
    f.Agrees a b n parent := by
  rcases List.mem_append.mp hf with hf | hf
  · simp only [List.mem_cons, List.not_mem_nil, or_false] at hf
    rcases hf with rfl | rfl | rfl <;> rfl
  · exact agrees_drawing hf a b n parent

theorem agrees_polygon (hf : f ∈ polygon) (a b : Atlas) (n : Node) (parent : Option Ref) :
    f.Agrees a b n parent := by
  rcases List.mem_append.mp hf with hf | hf
  · simp only [List.mem_cons, List.not_mem_nil, or_false] at hf
    rcases hf with rfl | rfl | rfl | rfl | rfl <;> rfl
  · exact agrees_drawing hf a b n parent

theorem agrees_folder (hf : f ∈ folder) (a b : Atlas) (n : Node) (parent : Option Ref) :
    f.Agrees a b n parent := by
  simp only [folder, List.mem_cons, List.not_mem_nil, or_false] at hf
  rcases hf with rfl | rfl | rfl | rfl | rfl | rfl | rfl <;> rfl

/-- What a group shows is decided by what it leads to. -/
theorem agrees_ofGroup {name : String} {get : Atlas → MultiGeometry → Value}
    (h : ∀ d m, n = ⟨d, .multiGeometry m⟩ → get b m = get a m) (parent : Option Ref) :
    (ofGroup name get).Agrees a b n parent := by
  obtain ⟨d, body⟩ := n
  cases body with
  | multiGeometry m => exact h d m rfl
  | _ => rfl

theorem agrees_multiGeometry (hf : f ∈ multiGeometry) (h : a.Mirrors b)
    (hn : ∀ q ∈ n.links, q.kind.isGeometry) (parent : Option Ref) : f.Agrees a b n parent := by
  have hcount : ∀ (k : Kind) (d : Details) (m : MultiGeometry), n = ⟨d, .multiGeometry m⟩ →
      countValue (b.unwrap k m.members).length = countValue (a.unwrap k m.members).length := by
    rintro k d m rfl
    have hunwrap : b.unwrap k m.members = a.unwrap k m.members := h.unwrap k hn
    rw [hunwrap]
  simp only [multiGeometry, List.mem_cons, List.not_mem_nil, or_false] at hf
  rcases hf with rfl | rfl | rfl | rfl | rfl | rfl
  · refine agrees_ofGroup (fun d m hm => ?_) parent
    subst hm
    exact congrArg Value.array (List.map_congr_left fun q hq => h.geometryValue (hn q hq))
  · exact agrees_ofGroup (fun _ _ _ => rfl) parent
  · exact agrees_ofGroup (hcount .point) parent
  · exact agrees_ofGroup (hcount .path) parent
  · exact agrees_ofGroup (hcount .polygon) parent
  · exact agrees_ofGroup (hcount .multiGeometry) parent

/-- What a placemark shows is decided by what it leads to. -/
theorem agrees_ofPlacemark {name : String} {get : Atlas → Placemark → Value}
    (h : ∀ d p, n = ⟨d, .placemark p⟩ → get b p = get a p) (parent : Option Ref) :
    (ofPlacemark name get).Agrees a b n parent := by
  obtain ⟨d, body⟩ := n
  cases body with
  | placemark p => exact h d p rfl
  | _ => rfl

/-- The fields of a placemark that show a parent within the dump of another entity. -/
def dumpNames : List String := ["point", "multigeometry"]

theorem agrees_placemark (hf : f ∈ placemark) (hname : f.name ∉ dumpNames) (h : a.Mirrors b)
    (hn : ∀ q ∈ n.links, q.kind.isGeometry) (parent : Option Ref) : f.Agrees a b n parent := by
  have hposition : ∀ (view : Option Coordinate → Value) (name : String),
      (ofPlacemark name fun a p => view (a.embeddedPosition? p)).Agrees a b n parent :=
    fun view name => agrees_ofPlacemark (fun d p _ => congrArg view (h.embeddedPosition? p)) parent
  simp only [placemark, List.mem_cons, List.not_mem_nil, or_false] at hf
  rcases hf with rfl | rfl | rfl | rfl | rfl | rfl | rfl | rfl | rfl | rfl | rfl | rfl | rfl
  · exact hposition positionValue "coordinates"
  · exact hposition (partValue (·.longitude)) "longitude"
  · exact hposition (partValue (·.latitude)) "latitude"
  · exact hposition (partValue (·.altitude)) "altitude"
  · exact hposition (fun c => .bool c.isSome) "has_coordinates"
  · exact absurd (List.mem_cons_self) hname
  · refine agrees_ofPlacemark (fun d p hp => ?_) parent
    subst hp
    cases hg : p.geometry with
    | none => rfl
    | some q => exact h.geometryValue (hn q (by simp [Node.links, Placemark.embedded, hg]))
  · exact absurd (List.mem_cons_of_mem _ List.mem_cons_self) hname
  · rfl
  · rfl
  · rfl
  · rfl
  · rfl

/-- **Fields that show no parent agree.** -/
theorem agrees_of_find? {k : Kind} {name : String} (hf : find? k name = some f)
    (hparent : name ≠ "parent") (hname : name ∉ dumpNames) (h : a.Mirrors b)
    (hn : ∀ q ∈ n.links, q.kind.isGeometry) (parent : Option Ref) : f.Agrees a b n parent := by
  obtain ⟨hmem, rfl⟩ := mem_of_find? hf
  rcases hmem with hmem | hmem
  · cases k with
    | point => exact agrees_point hmem a b n parent
    | path => exact agrees_path hmem a b n parent
    | polygon => exact agrees_polygon hmem a b n parent
    | multiGeometry => exact agrees_multiGeometry hmem h hn parent
    | placemark => exact agrees_placemark hmem hname h hn parent
    | folder => exact agrees_folder hmem a b n parent
  · exact agrees_common hmem hparent a b n parent

/-! ## Dumps -/

/-- What is dumped of another entity is the same but for its parent. -/
theorem step?_dumpOf {fields : List Field} {q : Ref} {key : String} (hq : q.kind.isGeometry)
    (h : a.Mirrors b) (hkey : key ≠ "parent")
    (hfields : ∀ n parent, a.free? q = some n → ∀ f ∈ fields, f.Agrees a b n parent) :
    (dumpOf fields b q).step? key = (dumpOf fields a q).step? key := by
  rw [dumpOf, dumpOf]
  rcases h.free q hq with ⟨ha, hb⟩ | ⟨n, p, ha, hb⟩
  · rw [ha, hb]
  · rw [ha, hb]
    refine step?_dump fun f hf hname => ?_
    rcases List.mem_append.mp hf with hf | hf
    · exact agrees_common hf (hname ▸ hkey) a b n p
    · exact hfields n p ha f hf

/-- If the same is shown of parents, the whole dump is the same. -/
theorem dumpOf_eq {fields : List Field} {q : Ref} (hq : q.kind.isGeometry) (h : a.Mirrors b)
    (hparents : ∀ n parent, a.free? q = some n → b.free? q = some (n.withParent parent) →
      parentValue b (n.withParent parent) = parentValue a n)
    (hfields : ∀ n parent, a.free? q = some n → ∀ f ∈ fields, f.Agrees a b n parent) :
    dumpOf fields b q = dumpOf fields a q := by
  rw [dumpOf, dumpOf]
  rcases h.free q hq with ⟨ha, hb⟩ | ⟨n, p, ha, hb⟩
  · rw [ha, hb]
  · rw [ha, hb]
    refine congrArg Value.ofMembers (List.map_congr_left fun f hf => congrArg (f.name, ·) ?_)
    rcases List.mem_append.mp hf with hf | hf
    · by_cases hname : f.name = "parent"
      · simp only [common, List.mem_cons, List.not_mem_nil, or_false] at hf
        rcases hf with rfl | rfl | rfl | rfl | rfl | rfl <;>
          first | exact absurd hname (by decide) | exact hparents n p ha hb
      · exact agrees_common hf hname a b n p
    · exact hfields n p ha f hf

end Field

/-- What a placemark dumps in a field of that name, and which fields of it. -/
def Placemark.dumped? (p : Placemark) (name : String) : Option (Ref × List Field) :=
  if name = "point" then p.point?.map (·, Field.point)
  else p.multigeometry.map (·, Field.multiGeometry)

theorem Placemark.mem_embedded_of_dumped {p : Placemark} {name : String} {q : Ref}
    {fields : List Field} (h : p.dumped? name = some (q, fields)) :
    q ∈ p.embedded ∧ (fields = Field.point ∨ fields = Field.multiGeometry) := by
  unfold dumped? at h
  split at h
  · obtain ⟨r, hr, heq⟩ := Option.map_eq_some_iff.mp h
    obtain ⟨rfl, rfl⟩ := Prod.mk.inj heq
    refine ⟨List.mem_append_left _ (Option.mem_toList.mpr ?_), Or.inl rfl⟩
    exact (Placemark.point?_eq_some_iff.mp hr).1
  · obtain ⟨r, hr, heq⟩ := Option.map_eq_some_iff.mp h
    obtain ⟨rfl, rfl⟩ := Prod.mk.inj heq
    exact ⟨List.mem_append_right _ (Option.mem_toList.mpr hr), Or.inr rfl⟩

/-! ## Paths -/

/-- A path that leads to what is shown of a parent, or to an object that has it for a member. -/
def FieldPath.ShowsParent : FieldPath → Prop
  | [] => False
  | name :: rest =>
    name = "parent" ∨ name ∈ Field.dumpNames ∧ (rest = [] ∨ rest.head? = some "parent")

instance : DecidablePred FieldPath.ShowsParent
  | [] => inferInstanceAs (Decidable False)
  | _ :: _ => inferInstanceAs (Decidable (_ ∨ _ ∧ (_ ∨ _)))

namespace Node

variable {a b : Atlas} {n : Node} {path : FieldPath} {name : String}

theorem field?_withParent (h : a.Mirrors b) (hn : ∀ q ∈ n.links, q.kind.isGeometry)
    (hparent : name ≠ "parent") (hname : name ∉ Field.dumpNames) (parent : Option Ref) :
    (n.withParent parent).field? b name = n.field? a name := by
  show (Field.find? n.kind name).map _ = (Field.find? n.kind name).map _
  cases hf : Field.find? n.kind name with
  | none => rfl
  | some f =>
      exact congrArg some (Field.agrees_of_find? hf hparent hname h hn parent)

/-- Fields with a dump show what a placemark leads to. -/
theorem field?_of_mem_dumpNames (hname : name ∈ Field.dumpNames) (a : Atlas) (d : Details)
    (p : Placemark) :
    (⟨d, .placemark p⟩ : Node).field? a name =
      some (.ofOption ((p.dumped? name).map fun (q, fields) => Field.dumpOf fields a q)) := by
  simp only [Field.dumpNames, List.mem_cons, List.not_mem_nil, or_false] at hname
  rcases hname with rfl | rfl
  · show some (Value.ofOption (p.point?.map _)) = _
    rw [Placemark.dumped?, if_pos rfl, Option.map_map]
    rfl
  · show some (Value.ofOption (p.multigeometry.map _)) = _
    rw [Placemark.dumped?, if_neg (by decide), Option.map_map]
    rfl

/-- Other entities have no such fields. -/
theorem field?_of_kind_ne_placemark (hname : name ∈ Field.dumpNames) (hk : n.kind ≠ .placemark)
    (a : Atlas) : n.field? a name = none := by
  simp only [Field.dumpNames, List.mem_cons, List.not_mem_nil, or_false] at hname
  obtain ⟨d, body⟩ := n
  cases body with
  | placemark p => exact absurd rfl hk
  | _ => rcases hname with rfl | rfl <;> rfl

theorem agrees_of_dumped {p : Placemark} {q : Ref} {fields : List Field} (h : a.Mirrors b)
    (hn : ∀ l ∈ n.links, l.kind.isGeometry) (hq : p.dumped? name = some (q, fields))
    (parent : Option Ref) : ∀ f ∈ fields, f.Agrees a b n parent := by
  intro f hf
  rcases (Placemark.mem_embedded_of_dumped hq).2 with rfl | rfl
  · exact Field.agrees_point hf a b n parent
  · exact Field.agrees_multiGeometry hf h hn parent

/-- **Paths that lead to no parent show the same.** -/
theorem resolve?_withParent (h : a.Mirrors b) (hn : ∀ q ∈ n.links, q.kind.isGeometry)
    (hpath : ¬path.ShowsParent) (parent : Option Ref) :
    (n.withParent parent).resolve? b path = n.resolve? a path := by
  cases path with
  | nil => rfl
  | cons name rest =>
      obtain ⟨hparent, hrest⟩ := not_or.mp hpath
      rw [resolve?, resolve?]
      by_cases hname : name ∈ Field.dumpNames
      · have hrest := not_and.mp hrest hname
        cases rest with
        | nil => exact absurd (Or.inl rfl) hrest
        | cons key rest =>
            have hkey : key ≠ "parent" := fun hkey => hrest (Or.inr (congrArg some hkey))
            by_cases hk : n.kind = .placemark
            · obtain ⟨d, p, rfl⟩ := exists_of_kind_eq_placemark hk
              rw [field?_of_mem_dumpNames hname a d p,
                show ((⟨d, .placemark p⟩ : Node).withParent parent).field? b name = _ from
                  field?_of_mem_dumpNames hname b { d with parent := parent } p]
              have hstep : ∀ x : Option (Ref × List Field), p.dumped? name = x →
                  (Value.ofOption (x.map fun (q, fs) => Field.dumpOf fs b q)).step? key =
                  (Value.ofOption (x.map fun (q, fs) => Field.dumpOf fs a q)).step? key := by
                rintro (_ | ⟨q, fields⟩) hx
                · rfl
                · have hq := hn q (Placemark.mem_embedded_of_dumped hx).1
                  refine Field.step?_dumpOf hq h hkey fun m parent hm => ?_
                  exact agrees_of_dumped h (h.links q m hm) hx parent
              simp only [Option.bind_some, Value.follow?, List.foldlM_cons, hstep _ rfl]
            · rw [field?_of_kind_ne_placemark hname hk,
                field?_of_kind_ne_placemark (n := n.withParent parent) hname hk]
      · rw [field?_withParent h hn hparent hname]

theorem field?_parent (a : Atlas) (n : Node) :
    n.field? a "parent" = some (Field.parentValue a n) := by
  obtain ⟨d, body⟩ := n
  cases body <;> rfl

/-- **If the same is shown of parents, all paths show the same.** -/
theorem resolve?_withParent_of_parents (h : a.Mirrors b) (hn : ∀ q ∈ n.links, q.kind.isGeometry)
    {parent : Option Ref}
    (hparent : Field.parentValue b (n.withParent parent) = Field.parentValue a n)
    (hparents : ∀ q ∈ n.links, ∀ m parent, a.free? q = some m →
      b.free? q = some (m.withParent parent) →
      Field.parentValue b (m.withParent parent) = Field.parentValue a m) :
    (n.withParent parent).resolve? b path = n.resolve? a path := by
  cases path with
  | nil => rfl
  | cons name rest =>
      suffices hfield : (n.withParent parent).field? b name = n.field? a name by
        rw [resolve?, resolve?, hfield]
      by_cases hname : name ∈ Field.dumpNames
      · by_cases hk : n.kind = .placemark
        · obtain ⟨d, p, rfl⟩ := exists_of_kind_eq_placemark hk
          rw [field?_of_mem_dumpNames hname a d p,
            show ((⟨d, .placemark p⟩ : Node).withParent parent).field? b name = _ from
              field?_of_mem_dumpNames hname b { d with parent := parent } p]
          cases hx : p.dumped? name with
          | none => rfl
          | some x =>
              obtain ⟨q, fields⟩ := x
              have hq := (Placemark.mem_embedded_of_dumped hx).1
              exact congrArg some (Field.dumpOf_eq (hn q hq) h (hparents q hq) fun m parent hm =>
                agrees_of_dumped h (h.links q m hm) hx parent)
        · rw [field?_of_kind_ne_placemark hname hk,
            field?_of_kind_ne_placemark (n := n.withParent parent) hname hk]
      · by_cases hname' : name = "parent"
        · rw [hname', field?_parent, field?_parent, hparent]
        · exact field?_withParent h hn hname' hname parent

end Node

namespace Atlas

variable {a b : Atlas} {q : Ref} {path : FieldPath} {p : Node → Option Ref}

/-- Entities of atlases that mirror each other, seen along paths that lead to no parent. -/
theorem resolve?_of_mirrors (h : a.Mirrors b)
    (hlinks : ∀ n, a.node? q = some n → ∀ l ∈ n.links, l.kind.isGeometry)
    (hnode : b.node? q = (a.node? q).map fun n => n.withParent (p n))
    (hpath : ¬path.ShowsParent) : b.resolve? q path = a.resolve? q path := by
  rw [resolve?, resolve?, hnode]
  cases hn : a.node? q with
  | none => rfl
  | some n => exact Node.resolve?_withParent h (hlinks n hn) hpath (p n)

/-- Entities of atlases that mirror each other and show the same of parents. -/
theorem resolve?_of_parents (h : a.Mirrors b)
    (hlinks : ∀ n, a.node? q = some n → ∀ l ∈ n.links, l.kind.isGeometry)
    (hnode : b.node? q = (a.node? q).map fun n => n.withParent (p n))
    (hparents : ∀ l m n, a.node? l = some n → b.node? l = some m →
      Field.parentValue b m = Field.parentValue a n) : b.resolve? q path = a.resolve? q path := by
  rw [resolve?, resolve?, hnode]
  cases hn : a.node? q with
  | none => rfl
  | some n =>
      refine Node.resolve?_withParent_of_parents h (hlinks n hn)
        (hparents q _ n hn (by rw [hnode, hn]; rfl)) fun l _ m parent hm hl => ?_
      exact hparents l _ m (node?_of_free? hm) (node?_of_free? hl)

end Atlas

end Gazetteer
