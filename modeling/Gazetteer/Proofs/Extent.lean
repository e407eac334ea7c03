import Gazetteer.Proofs.Bounds
import Gazetteer.Proofs.Collect
import Gazetteer.Proofs.Outline

/-!
# How far documents and groups extend

The bounds of a document are put together from two collections, its placemarks and its points. The
point that a placemark embeds is among the points already (`Atlas.exists_below_of_position?`), so
that the bounds are the smallest around the points alone. The bounds of a group are put together
from its points, paths and polygons, each found by a walk of its own. Both are the smallest around
all that can be reached, on any atlas and so with sharing and circles (`bounds_reach_everything`).
-/

namespace Gazetteer

open Geodesy
open Relation

namespace Geodesy.Bounds

variable {cs cs' : List Coordinate} {p q : Coordinate → Prop} {b? : Option Bounds}

/-- The smallest bounds around the coordinates that have a property. If none has it, there are no
bounds. -/
def SmallestAround (b? : Option Bounds) (p : Coordinate → Prop) : Prop :=
  ∃ cs, (∀ c, c ∈ cs ↔ p c) ∧ (b? = none ↔ cs = []) ∧ ∀ b, b? = some b → b.IsSmallestAround cs

theorem smallestAround_enclosing (h : ∀ c, c ∈ cs ↔ p c) : SmallestAround (enclosing cs) p :=
  ⟨cs, h, enclosing_eq_none_iff, fun _ hb => (hugs_of_enclosing hb).isSmallestAround⟩

theorem SmallestAround.contains (h : SmallestAround b? p) {b : Bounds} (hb : b? = some b)
    {c : Coordinate} (hc : p c) : b.contains c = true := by
  obtain ⟨cs, hcs, -, hsmallest⟩ := h
  exact (hsmallest b hb).contains c ((hcs c).mpr hc)

theorem SmallestAround.eq_none_iff (h : SmallestAround b? p) : b? = none ↔ ∀ c, ¬p c := by
  obtain ⟨cs, hcs, hnone, -⟩ := h
  rw [hnone, List.eq_nil_iff_forall_not_mem]
  exact forall_congr' fun c => not_congr (hcs c)

/-- The bounds around coordinates depend only on which coordinates these are. -/
theorem rel_enclosing (hsame : ∀ c, c ∈ cs ↔ c ∈ cs') :
    Option.Rel SameNumbers (enclosing cs) (enclosing cs') := by
  have hnone : enclosing cs = none ↔ enclosing cs' = none := by
    rw [enclosing_eq_none_iff, enclosing_eq_none_iff, List.eq_nil_iff_forall_not_mem,
      List.eq_nil_iff_forall_not_mem]
    exact forall_congr' fun c => not_congr (hsame c)
  cases h : enclosing cs with
  | none =>
      rw [hnone.mp h]
      exact .none
  | some b =>
      cases h' : enclosing cs' with
      | none =>
          rw [hnone.mpr h'] at h
          cases h
      | some b' => exact .some ((hugs_of_enclosing h).sameNumbers (hugs_of_enclosing h') hsame)

end Geodesy.Bounds

namespace Atlas

variable {a : Atlas} {root g r : Ref} {k : Kind} {c : Coordinate}

/-! ## What is below a folder -/

/-- An entity is listed by the folder or one below it, or it is a geometry that such a folder bears,
at any depth inside groups. -/
def Below (a : Atlas) (root r : Ref) : Prop :=
  ∃ d, ReflTransGen a.Nests root d ∧
    (r ∈ a.children d ∨ r.kind.isGeometry ∧ ∃ s, a.Bears d s ∧ ReflTransGen a.Groups s r)

theorem mem_all_iff_below (hfree : a.Open) (hroot : a.scope root ≠ .detached) :
    r ∈ a.all root k ↔ r.kind = k ∧ a.Below root r := by
  rw [mem_all_iff hfree hroot]
  constructor
  · rintro ⟨d, hd, h | ⟨hk, rfl, h⟩⟩
    · obtain ⟨hlisted, hk⟩ := mem_childrenOf_iff.mp h
      exact ⟨hk, d, hd, .inl hlisted⟩
    · exact ⟨rfl, d, hd, .inr ⟨hk, h⟩⟩
  · rintro ⟨rfl, d, hd, h | ⟨hk, h⟩⟩
    · exact ⟨d, hd, .inl (mem_childrenOf_iff.mpr ⟨h, rfl⟩)⟩
    · exact ⟨d, hd, .inr ⟨hk, rfl, h⟩⟩

/-! ## Documents -/

theorem scope_ne_detached (hroot : a.scope root = .root) : a.scope root ≠ .detached := by
  rw [hroot]
  exact nofun

theorem documentItems_eq_all (hfree : a.Open) (hroot : a.scope root = .root) (k : Kind) :
    a.documentItems root k = a.all root k := by
  rw [documentItems, hfree.isHidden, all, hroot]
  rfl

/-- A placemark lies where a point lies that it embeds. -/
theorem exists_embedded_of_position? (hr : r.kind = .placemark) (h : a.position? r = some c) :
    ∃ q ∈ a.embedded r, q.kind = .point ∧ a.position? q = some c := by
  obtain ⟨⟨d, body⟩, hn, hposition⟩ := Option.bind_eq_some_iff.mp h
  have hnode := node?_of_free? hn
  have hkind : body.kind = .placemark := (kind_of_node? hnode).trans hr
  cases body with
  | placemark p =>
      change a.embeddedPosition? p = some c at hposition
      unfold embeddedPosition? at hposition
      split at hposition
      · next d' q hq =>
          obtain ⟨s, hs, hfree⟩ := Option.bind_eq_some_iff.mp hq
          obtain ⟨hgeometry, hk⟩ := Placemark.point?_eq_some_iff.mp hs
          refine ⟨s, ?_, hk, ?_⟩
          · rw [embedded, hnode]
            exact List.mem_append_left _ (Option.mem_toList.mpr hgeometry)
          · rw [position?, hfree]
            exact hposition
      · cases hposition
  | _ => cases hkind

/-- Where a placemark lies that is below a folder, there lies a point that is below it too. -/
theorem exists_below_of_position? (hr : r.kind = .placemark) (hbelow : a.Below root r)
    (h : a.position? r = some c) :
    ∃ q, q.kind = .point ∧ a.Below root q ∧ a.position? q = some c := by
  obtain ⟨q, hq, hk, hposition⟩ := exists_embedded_of_position? hr h
  obtain ⟨d, hd, hlisted | ⟨hgeometry, -⟩⟩ := hbelow
  · have hbears : a.Bears d q := .inl ⟨r, mem_childrenOf_iff.mpr ⟨hlisted, hr⟩, hq⟩
    exact ⟨q, hk, ⟨d, hd, .inr ⟨hk ▸ rfl, q, hbears, .refl⟩⟩, hposition⟩
  · rw [hr] at hgeometry
    cases hgeometry

/-- The coordinates that go into the bounds of a document are those of its points. -/
theorem mem_documentPositions_iff (hfree : a.Open) (hroot : a.scope root = .root) :
    c ∈ (a.documentItems root .placemark ++ a.documentItems root .point).filterMap a.position? ↔
      ∃ r, r.kind = .point ∧ a.Below root r ∧ a.position? r = some c := by
  simp only [documentItems_eq_all hfree hroot, List.mem_filterMap, List.mem_append,
    mem_all_iff_below hfree (scope_ne_detached hroot)]
  constructor
  · rintro ⟨r, ⟨hk, hbelow⟩ | ⟨hk, hbelow⟩, hposition⟩
    · exact exists_below_of_position? hk hbelow hposition
    · exact ⟨r, hk, hbelow, hposition⟩
  · rintro ⟨r, hk, hbelow, hposition⟩
    exact ⟨r, .inr ⟨hk, hbelow⟩, hposition⟩

/-! ## Groups -/

/-- What a geometry extends over: the position of a point, or the line that another one draws. -/
def corners (a : Atlas) (r : Ref) : List Coordinate :=
  if r.kind = .point then (a.position? r).toList else a.outline r

theorem mem_unwrap_iff (hfree : a.Open) {seeds : List Ref} :
    r ∈ a.unwrap k seeds ↔ r.kind = k ∧ ∃ s ∈ seeds, ReflTransGen a.Groups s r := by
  rw [unwrap, mem_firstBy_id, List.mem_filter, mem_unwrapFrom_iff hfree, decide_eq_true_iff,
    and_comm]

theorem mem_unwrap_members_iff (hfree : a.Open) :
    r ∈ a.unwrap k (a.members g) ↔ r.kind = k ∧ TransGen a.Groups g r := by
  rw [mem_unwrap_iff hfree, TransGen.head'_iff]
  rfl

theorem groupBounds_eq (a : Atlas) (g : Ref) :
    a.groupBounds g = Bounds.enclosing
      ((a.unwrap .point (a.members g)).filterMap a.position? ++
        (a.unwrap .path (a.members g)).flatMap a.outline ++
        (a.unwrap .polygon (a.members g)).flatMap a.outline) := by
  refine congrArg (fun line : Ref → List Coordinate => Bounds.enclosing
    ((a.unwrap .point (a.members g)).filterMap a.position? ++
      (a.unwrap .path (a.members g)).flatMap line ++
      (a.unwrap .polygon (a.members g)).flatMap line)) (funext fun m => ?_)
  rw [outline]
  cases a.free? m with
  | none => rfl
  | some n => obtain ⟨d, body⟩ := n; cases body <;> rfl

/-- The coordinates that go into the bounds of a group are those of all geometries in it. -/
theorem mem_groupCorners_iff (hfree : a.Open) :
    c ∈ (a.unwrap .point (a.members g)).filterMap a.position? ++
        (a.unwrap .path (a.members g)).flatMap a.outline ++
        (a.unwrap .polygon (a.members g)).flatMap a.outline ↔
      ∃ r, TransGen a.Groups g r ∧ c ∈ a.corners r := by
  simp only [List.mem_append, List.mem_filterMap, List.mem_flatMap, mem_unwrap_members_iff hfree]
  constructor
  · rintro ((⟨r, ⟨hk, hr⟩, hc⟩ | ⟨r, ⟨hk, hr⟩, hc⟩) | ⟨r, ⟨hk, hr⟩, hc⟩)
    · refine ⟨r, hr, ?_⟩
      rw [corners, if_pos hk]
      exact Option.mem_toList.mpr hc
    · refine ⟨r, hr, ?_⟩
      rwa [corners, if_neg (by rw [hk]; exact nofun)]
    · refine ⟨r, hr, ?_⟩
      rwa [corners, if_neg (by rw [hk]; exact nofun)]
  · rintro ⟨r, hr, hc⟩
    rw [corners] at hc
    split at hc
    · next hk => exact .inl (.inl ⟨r, ⟨hk, hr⟩, Option.mem_toList.mp hc⟩)
    · rcases kind_of_mem_outline hc with hk | hk
      · exact .inl (.inr ⟨r, ⟨hk, hr⟩, hc⟩)
      · exact .inr ⟨r, ⟨hk, hr⟩, hc⟩

/-! ## Both -/

/-- **The bounds of documents and groups reach everything there is.** Those of a document are the
smallest around all its points, wherever they are below it, so that they contain every placemark and
every point and are missing exactly if no point has a position; as numbers they are the bounds
around the points that are retrieved. Those of a group are the smallest around all points, paths and
outer rings at any depth inside it. -/
theorem bounds_reach_everything (hfree : a.Open) (hroot : a.scope root = .root) (g : Ref) :
    Bounds.SmallestAround (a.documentBounds root)
      (fun c => ∃ r, r.kind = .point ∧ a.Below root r ∧ a.position? r = some c) ∧
    Option.Rel Bounds.SameNumbers (a.documentBounds root)
      (Bounds.enclosing ((a.all root .point).filterMap a.position?)) ∧
    (∀ b, a.documentBounds root = some b → ∀ r c, r.kind = .placemark ∨ r.kind = .point →
      a.Below root r → a.position? r = some c → b.contains c = true) ∧
    (a.documentBounds root = none ↔
      ∀ r, r.kind = .point → a.Below root r → a.position? r = none) ∧
    Bounds.SmallestAround (a.groupBounds g)
      (fun c => ∃ r, TransGen a.Groups g r ∧ c ∈ a.corners r) := by
  have hdocument : Bounds.SmallestAround (a.documentBounds root)
      (fun c => ∃ r, r.kind = .point ∧ a.Below root r ∧ a.position? r = some c) :=
    Bounds.smallestAround_enclosing fun c => mem_documentPositions_iff hfree hroot
  refine ⟨hdocument, Bounds.rel_enclosing fun c => ?_,
    fun b hb r c hk hbelow hposition => ?_, ?_, ?_⟩
  · rw [mem_documentPositions_iff hfree hroot]
    simp only [List.mem_filterMap, mem_all_iff_below hfree (scope_ne_detached hroot), and_assoc]
  · apply hdocument.contains hb
    rcases hk with hk | hk
    · exact exists_below_of_position? hk hbelow hposition
    · exact ⟨r, hk, hbelow, hposition⟩
  · rw [hdocument.eq_none_iff]
    constructor
    · intro h r hk hbelow
      exact Option.eq_none_iff_forall_ne_some.mpr fun c hc => h c ⟨r, hk, hbelow, hc⟩
    · rintro h c ⟨r, hk, hbelow, hc⟩
      rw [h r hk hbelow] at hc
      cases hc
  · rw [groupBounds_eq]
    exact Bounds.smallestAround_enclosing fun c => mem_groupCorners_iff hfree

/-- A document with a folder, in which a placemark stands on a point and has a group. The group is a
member of itself, and has a path; the document lists the group as well. -/
def estate : Atlas where
  nodes := #[
    some ⟨{}, .folder { scope := .root, children := [⟨.folder, 1⟩, ⟨.multiGeometry, 4⟩] }⟩,
    some ⟨{}, .folder { children := [⟨.placemark, 2⟩] }⟩,
    some ⟨{}, .placemark
      { geometry := some ⟨.point, 3⟩, multigeometry := some ⟨.multiGeometry, 4⟩ }⟩,
    some ⟨{}, .point (.at .atSea)⟩,
    some ⟨{}, .multiGeometry ⟨[⟨.multiGeometry, 4⟩, ⟨.path, 5⟩]⟩⟩,
    some ⟨{}, .path { vertices := [.inland] }⟩]

theorem bounds_reach_everything_estate :
    estate.Open ∧ estate.scope ⟨.folder, 0⟩ = .root ∧
    estate.position? ⟨.placemark, 2⟩ = some .atSea ∧
    (∃ b, estate.documentBounds ⟨.folder, 0⟩ = some b ∧ b.contains .atSea = true) ∧
    ∃ b, estate.groupBounds ⟨.multiGeometry, 4⟩ = some b ∧ b.contains .inland = true := by
  have hscope : estate.scope ⟨.folder, 0⟩ = .root := rfl
  obtain ⟨-, -, hcontains, hnone, hgroup⟩ :=
    bounds_reach_everything (open_of_held rfl) hscope ⟨.multiGeometry, 4⟩
  have hnests : ReflTransGen estate.Nests ⟨.folder, 0⟩ ⟨.folder, 1⟩ := by
    refine .single ?_
    show (_ : Ref) ∈ _
    decide
  have hplacemark : estate.Below ⟨.folder, 0⟩ ⟨.placemark, 2⟩ := ⟨_, hnests, .inl (by decide)⟩
  have hpoint : estate.Below ⟨.folder, 0⟩ ⟨.point, 3⟩ :=
    ⟨_, hnests, .inr ⟨rfl, ⟨.point, 3⟩, .inl ⟨⟨.placemark, 2⟩, by decide, by decide⟩, .refl⟩⟩
  have hgroups : estate.Groups ⟨.multiGeometry, 4⟩ ⟨.path, 5⟩ := by
    show (_ : Ref) ∈ _
    decide
  have hpath : ∃ r, TransGen estate.Groups ⟨.multiGeometry, 4⟩ r ∧ .inland ∈ estate.corners r := by
    refine ⟨⟨.path, 5⟩, .single hgroups, ?_⟩
    show Coordinate.inland ∈ [Coordinate.inland]
    exact List.mem_singleton_self _
  refine ⟨open_of_held rfl, hscope, rfl, ?_, ?_⟩
  · cases hb : estate.documentBounds ⟨.folder, 0⟩ with
    | none => cases hnone.mp hb ⟨.point, 3⟩ rfl hpoint
    | some b => exact ⟨b, rfl, hcontains b hb ⟨.placemark, 2⟩ .atSea (.inl rfl) hplacemark rfl⟩
  · cases hb : estate.groupBounds ⟨.multiGeometry, 4⟩ with
    | none => exact absurd hpath (hgroup.eq_none_iff.mp hb .inland)
    | some b => exact ⟨b, rfl, hgroup.contains hb hpath⟩

end Atlas

end Gazetteer
