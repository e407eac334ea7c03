import Gazetteer.Proofs.Reading
import Mathlib.Data.List.Nodup
import Mathlib.Data.List.Perm.Basic

/-!
# Dumps of entities

An entity can be read in two ways: all fields at once into an object, the common ones first, or one
field at a time, where those of the kind are looked up first. No kind has two fields of one name
(`Field.nodup_names`), so both ways give the same (`Node.member?_fieldMap`). A path that leads
through an embedded geometry steps into its dump, and so shows what the path shows from there on,
unless the geometry is hidden (`Field.follow?_dumpOf`). `Node.fieldMap_agrees` puts this together.
-/

namespace Gazetteer

namespace Field

variable {k : Kind} {f g : Field} {name : String}

/-- The names of the fields of a kind. -/
def names (k : Kind) : List String := (allOf k).map (·.name)

theorem nodup_names (k : Kind) : (names k).Nodup := by
  cases k <;> decide

theorem eq_of_name_eq (hf : f ∈ allOf k) (hg : g ∈ allOf k) (h : f.name = g.name) : f = g :=
  List.inj_on_of_nodup_map (nodup_names k) hf hg h

theorem isSome_find? (hf : f ∈ allOf k) : (find? k f.name).isSome := by
  unfold find?
  split
  · rfl
  · next hnone =>
      rcases List.mem_append.mp hf with hf | hf
      · exact List.find?_isSome.mpr ⟨f, hf, decide_eq_true rfl⟩
      · exact absurd (decide_eq_true rfl) (List.find?_eq_none.mp hnone f hf)

/-- The fields of a kind are found by their names, each of them. -/
theorem find?_eq_some_iff : find? k name = some f ↔ f ∈ allOf k ∧ f.name = name := by
  have hmem : ∀ g, find? k name = some g → g ∈ allOf k ∧ g.name = name := by
    intro g hg
    exact (mem_of_find? hg).imp_left fun h => List.mem_append.mpr h.symm
  constructor
  · exact hmem f
  · rintro ⟨hf, rfl⟩
    obtain ⟨g, hg⟩ := Option.isSome_iff_exists.mp (isSome_find? hf)
    obtain ⟨hgmem, hname⟩ := hmem g hg
    rw [hg, eq_of_name_eq hgmem hf hname]

end Field

/-! ## All fields at once -/

namespace Node

variable {a : Atlas} {n : Node} {name : String}

theorem field?_eq_some_iff {v : Value} :
    n.field? a name = some v ↔ ∃ f ∈ Field.allOf n.kind, f.name = name ∧ f.get a n = v := by
  rw [field?, Option.map_eq_some_iff]
  simp only [Field.find?_eq_some_iff, and_assoc]

theorem isSome_field?_iff : (n.field? a name).isSome ↔ name ∈ Field.names n.kind := by
  simp only [Option.isSome_iff_exists, field?_eq_some_iff, Field.names, List.mem_map]
  constructor
  · rintro ⟨v, f, hf, hname, -⟩
    exact ⟨f, hf, hname⟩
  · rintro ⟨f, hf, hname⟩
    exact ⟨f.get a n, f, hf, hname, rfl⟩

/-- **What the dump has under a name is the field of that name.** -/
theorem member?_fieldMap (a : Atlas) (n : Node) (name : String) :
    (n.fieldMap a).member? name = n.field? a name := by
  have hsame : ∀ f ∈ Field.allOf n.kind, ∀ g ∈ Field.allOf n.kind, f.name = g.name →
      f.get a n = g.get a n := by
    intro f hf g hg hname
    rw [Field.eq_of_name_eq hf hg hname]
  apply Option.ext
  intro v
  rw [fieldMap, Field.dump, Value.member?_ofMembers_map_eq_some_iff hsame, field?_eq_some_iff]

/-- The keys of the dump are the names of the fields. -/
theorem keys_fieldMap_perm (a : Atlas) (n : Node) :
    (n.fieldMap a).keys.Perm (Field.names n.kind) := by
  refine (List.perm_ext_iff_of_nodup (Value.nodup_keys_ofMembers _) (Field.nodup_names _)).mpr ?_
  intro name
  rw [← isSome_field?_iff, ← member?_fieldMap, ← Value.mem_keys_iff]
  rfl

/-- A path steps into the dump as it leads from the entity. -/
theorem follow?_fieldMap {path : FieldPath} (a : Atlas) (n : Node) (hpath : path ≠ []) :
    (n.fieldMap a).follow? path = n.resolve? a path := by
  cases path with
  | nil => exact absurd rfl hpath
  | cons name rest =>
      have hstep : (n.fieldMap a).step? name = (n.fieldMap a).member? name := rfl
      rw [Value.follow?, List.foldlM_cons, hstep, member?_fieldMap, resolve?]
      rfl

end Node

/-! ## Embedded geometries -/

/-- No path leads into null. -/
theorem Value.follow?_null {path : FieldPath} (hpath : path ≠ []) :
    Value.null.follow? path = none := by
  cases path with
  | nil => exact absurd rfl hpath
  | cons name rest => rfl

namespace Field

/-- What is dumped of an entity that another one refers to is what it shows itself. -/
theorem dumpOf_ofKind (a : Atlas) (q : Ref) :
    dumpOf (ofKind q.kind) a q = .ofOption ((a.free? q).map (·.fieldMap a)) := by
  rw [dumpOf]
  cases hfree : a.free? q with
  | none => rfl
  | some n =>
      rw [← Atlas.kind_of_node? (Atlas.node?_of_free? hfree)]
      rfl

/-- **A path into the dump of another entity** leads where it leads from that entity, but nowhere
while the entity is hidden. -/
theorem follow?_dumpOf {path : FieldPath} (a : Atlas) (q : Ref) (hpath : path ≠ []) :
    (dumpOf (ofKind q.kind) a q).follow? path =
      if a.isHidden q then none else a.resolve? q path := by
  rw [dumpOf_ofKind, Atlas.free?, Atlas.resolve?]
  split
  · exact Value.follow?_null hpath
  · cases a.node? q with
    | none => exact Value.follow?_null hpath
    | some n => exact n.follow?_fieldMap a hpath

end Field

namespace Node

/-- A path through a field that dumps an entity of some kind. -/
theorem resolve?_of_dumped {path : FieldPath} {name : String} {p : Placemark} {o : Option Ref}
    {k : Kind} (a : Atlas) (d : Details) (hname : name ∈ Field.dumpNames)
    (ho : p.dumped? name = o.map (·, Field.ofKind k)) (hk : ∀ q, o = some q → q.kind = k)
    (hpath : path ≠ []) :
    (⟨d, .placemark p⟩ : Node).resolve? a (name :: path) =
      o.bind fun q => if a.isHidden q then none else a.resolve? q path := by
  rw [resolve?, field?_of_mem_dumpNames hname a d p, ho]
  cases hq : o with
  | none => exact Value.follow?_null hpath
  | some q =>
      -- the fields of the dump are those of the kind that the embedded geometry has
      have hdump := Field.follow?_dumpOf a q hpath
      rw [hk q hq] at hdump
      exact hdump

/-- **Both ways to read an entity agree.** The dump of an entity has the names of its fields for its
keys, each once, and under each of them what the field shows; there are no fields of other names.
From a placemark, a path through `point` leads nowhere if the geometry is no point, and otherwise
where its rest leads from that point, and so does one through `multigeometry` with the group, however
deep it is and whatever leads back to it. Only while the point or the group is hidden is nothing of
it shown. -/
theorem fieldMap_agrees (a : Atlas) (n : Node)
    (hgroup : ∀ p q, n.body = .placemark p → p.multigeometry = some q → q.kind = .multiGeometry) :
    (n.fieldMap a).keys.Perm (Field.names n.kind) ∧
    (∀ name, (n.fieldMap a).member? name = n.field? a name) ∧
    (∀ name, n.field? a name = none ↔ name ∉ Field.names n.kind) ∧
    ∀ p path, n.body = .placemark p → path ≠ [] →
      n.resolve? a ("point" :: path) =
        (p.point?.bind fun q => if a.isHidden q then none else a.resolve? q path) ∧
      n.resolve? a ("multigeometry" :: path) =
        p.multigeometry.bind fun q => if a.isHidden q then none else a.resolve? q path := by
  refine ⟨keys_fieldMap_perm a n, member?_fieldMap a n, ?_, ?_⟩
  · intro name
    rw [← isSome_field?_iff (a := a), Option.not_isSome_iff_eq_none]
  · intro p path hbody hpath
    obtain ⟨d, body⟩ := n
    obtain rfl : body = .placemark p := hbody
    constructor
    · have hpoint : ∀ q, p.point? = some q → q.kind = .point :=
        fun q hq => (Placemark.point?_eq_some_iff.mp hq).2
      exact resolve?_of_dumped a d (by decide) rfl hpoint hpath
    · exact resolve?_of_dumped a d (by decide) rfl (hgroup p · rfl) hpath

end Node

namespace Atlas

/-- A placemark at a point, with a group that has the point and itself for members. -/
def pegged : Atlas where
  nodes := #[
    some ⟨{}, .placemark { geometry := some ⟨.point, 1⟩, multigeometry := some ⟨.multiGeometry, 2⟩ }⟩,
    some ⟨{ name := some "Peg" }, .point {}⟩,
    some ⟨{ name := some "Ring" }, .multiGeometry ⟨[⟨.point, 1⟩, ⟨.multiGeometry, 2⟩]⟩⟩]

theorem fieldMap_agrees_pegged :
    ∃ n, pegged.node? ⟨.placemark, 0⟩ = some n ∧
      (n.fieldMap pegged).keys.Perm (Field.names .placemark) ∧
      n.resolve? pegged ["point", "name"] = some (.string "Peg") ∧
      n.resolve? pegged ["multigeometry", "geometries", "1", "name"] = some (.string "Ring") := by
  refine ⟨_, rfl, ?_⟩
  obtain ⟨hkeys, -, -, hpaths⟩ := Node.fieldMap_agrees pegged
    ⟨{}, .placemark { geometry := some ⟨.point, 1⟩, multigeometry := some ⟨.multiGeometry, 2⟩ }⟩
    (by rintro p q ⟨⟩ ⟨⟩; rfl)
  refine ⟨hkeys, (hpaths _ ["name"] rfl nofun).1, ?_⟩
  exact (hpaths _ ["geometries", "1", "name"] rfl nofun).2

/-- While a point is changed, nothing is shown of it from a placemark, whatever it shows itself. -/
theorem resolve?_point_of_held :
    ∃ d p, (pegged.hold ⟨.point, 1⟩).node? ⟨.placemark, 0⟩ = some ⟨d, .placemark p⟩ ∧
      p.point? = some ⟨.point, 1⟩ ∧
      (pegged.hold ⟨.point, 1⟩).resolve? ⟨.placemark, 0⟩ ["point", "name"] = none ∧
      (pegged.hold ⟨.point, 1⟩).resolve? ⟨.point, 1⟩ ["name"] = some (.string "Peg") :=
  ⟨_, _, rfl, rfl, rfl, rfl⟩

end Atlas

end Gazetteer
