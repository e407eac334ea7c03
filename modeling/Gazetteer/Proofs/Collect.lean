import Gazetteer.Atlas.Collect
import Gazetteer.Proofs.Walk

/-!
# What is retrieved below a folder

`Atlas.all` goes through the folders by breadth and through groups of geometries by depth, with one
list of what has been entered for all folders. The main statement says what comes out of it, on any
atlas and so with sharing and circles among folders and groups: what the folders list, and the
geometries that they bear at any depth, each once, the folder's own children first
(`all_collects`).
-/

namespace Gazetteer

namespace Atlas

open Relation

/-! ## Refs that name an entity -/

theorem mem_refs_iff {a : Atlas} {r : Ref} : r ∈ a.refs ↔ ∃ n, a.node? r = some n := by
  simp only [refs, List.mem_filterMap, node?, Option.filter_eq_some_iff]
  constructor
  · rintro ⟨⟨n?, i⟩, hi, hr⟩
    obtain ⟨n, rfl, rfl⟩ := Option.map_eq_some_iff.mp hr
    refine ⟨n, ?_, by simp⟩
    have hget := List.mem_zipIdx_iff_getElem?.mp hi
    simp only [Array.getElem?_toList] at hget
    simp [hget]
  · rintro ⟨n, hn, hk⟩
    refine ⟨(some n, r.number), List.mem_zipIdx_iff_getElem?.mpr ?_, ?_⟩
    · simpa [Option.join_eq_some_iff] using hn
    · cases r
      simp_all

theorem mem_refs_of_mem_members {a : Atlas} {r m : Ref} (h : m ∈ a.members r) : r ∈ a.refs := by
  rw [mem_refs_iff]
  cases hn : a.node? r with
  | none => simp [members, hn] at h
  | some n => exact ⟨n, rfl⟩

theorem mem_refs_of_mem_children {a : Atlas} {r c : Ref} (h : c ∈ a.children r) : r ∈ a.refs := by
  rw [mem_refs_iff]
  cases hn : a.node? r with
  | none => simp [children, folder?, hn] at h
  | some n => exact ⟨n, rfl⟩

theorem mem_childrenOf_iff {a : Atlas} {r c : Ref} {k : Kind} :
    c ∈ a.childrenOf r k ↔ c ∈ a.children r ∧ c.kind = k := by
  simp [childrenOf]

/-! ## How entities lead to each other -/

/-- One folder lists another. -/
def Nests (a : Atlas) (f g : Ref) : Prop := g ∈ a.childrenOf f .folder

/-- A group has a geometry as its member. -/
def Groups (a : Atlas) (g m : Ref) : Prop := m ∈ a.members g

/-- A folder bears a geometry: one of its placemarks embeds it, or it is a group in the folder. -/
def Bears (a : Atlas) (f g : Ref) : Prop :=
  (∃ p ∈ a.childrenOf f .placemark, g ∈ a.embedded p) ∨ g ∈ a.childrenOf f .multiGeometry

section Free

variable {a : Atlas} (hfree : a.Open)

include hfree

theorem openMembers_eq : a.openMembers = a.members := by
  funext r
  rw [openMembers, hfree.isHidden]
  rfl

theorem openFolders_eq : a.openFolders = (a.childrenOf · .folder) := by
  funext r
  rw [openFolders, hfree.isHidden]
  rfl

theorem mem_seeds_iff {f g : Ref} : g ∈ a.seeds f ↔ a.Bears f g := by
  simp [seeds, openPlacemarks, hfree.isHidden, Bears]

end Free

/-! ## Folders that are gone through -/

/-- The folders that a collection looks into, in order. -/
def visited (a : Atlas) (root : Ref) : List Ref :=
  ((a.reach root).filter fun p => !a.isHidden p.1).map (·.1)

theorem items_collect (a : Atlas) (k : Kind) (own : List Ref) (root : Ref) :
    (a.collect k own (some root)).items =
      firstBy id (own ++ (a.contributions k root [] (a.visited root)).1) := by
  simp only [collect, List.partition_eq_filter_filter]
  rfl

theorem all_eq {a : Atlas} {c : Ref} (hc : a.scope c ≠ .detached) (k : Kind) :
    a.all c k = firstBy id
      (a.childrenOf c k ++ (a.contributions k c [] (a.visited c)).1) := by
  rw [← items_collect, all]
  split
  · next h => exact absurd h hc
  · rfl

theorem mem_refs_of_scope {a : Atlas} {c : Ref} (hc : a.scope c ≠ .detached) : c ∈ a.refs := by
  rw [mem_refs_iff]
  cases hn : a.node? c with
  | none => simp [scope, folder?, hn] at hc
  | some n => exact ⟨n, rfl⟩

theorem mem_visited_iff {a : Atlas} (hfree : a.Open) {c d : Ref} :
    d ∈ a.visited c ↔ d ∈ a.refs ∧ ReflTransGen a.Nests c d := by
  have hvisited : a.visited c = Walk.entered a.openFolders a.refs [] [(c, 0)] := by
    rw [visited, List.filter_eq_self.mpr fun p _ => by simp [hfree.isHidden]]
    rfl
  rw [hvisited, openFolders_eq hfree]
  refine Walk.mem_entered_iff fun x y hxy => ?_
  exact mem_refs_of_mem_children (mem_childrenOf_iff.mp hxy).1

/-! ## What folders contribute -/

theorem mem_unwrapFrom_iff {a : Atlas} (hfree : a.Open) {seeds : List Ref} {r : Ref} :
    r ∈ (a.unwrapFrom [] seeds).1 ↔ ∃ s ∈ seeds, ReflTransGen a.Groups s r := by
  rw [unwrapFrom, openMembers_eq hfree]
  exact Walk.mem_depthFirst_iff fun x y hxy => mem_refs_of_mem_members hxy

/-- The folders contribute what they list and what all their geometries together unwrap to: a walk
that hands on what it has entered is one walk. -/
theorem mem_contributions_iff {a : Atlas} {k : Kind} {root r : Ref} {seen cs : List Ref} :
    r ∈ (a.contributions k root seen cs).1 ↔
      (∃ c ∈ cs, c ≠ root ∧ r ∈ a.childrenOf c k) ∨
        k.isGeometry ∧ r.kind = k ∧ r ∈ (a.unwrapFrom seen (cs.flatMap a.seeds)).1 := by
  induction cs generalizing seen with
  | nil => simp [contributions, unwrapFrom]
  | cons c cs ih =>
      have hlisted : r ∈ (if c = root then [] else a.childrenOf c k) ↔
          c ≠ root ∧ r ∈ a.childrenOf c k := by
        by_cases hc : c = root <;> simp [hc]
      cases hk : k.isGeometry with
      | false =>
          simp only [contributions, hk, Bool.false_eq_true, if_false, List.filter_nil,
            List.append_nil, List.mem_append, ih, hlisted, List.mem_cons, false_and, or_false]
          constructor
          · rintro (h | ⟨d, hd, h⟩)
            · exact ⟨c, Or.inl rfl, h⟩
            · exact ⟨d, Or.inr hd, h⟩
          · rintro ⟨d, rfl | hd, h⟩
            · exact Or.inl h
            · exact Or.inr ⟨d, hd, h⟩
      | true =>
          have happend := Walk.depthFirst_append a.openMembers a.refs seen (a.seeds c)
            (cs.flatMap a.seeds)
          simp only [contributions, hk, if_true, List.mem_append, ih, hlisted, List.mem_cons,
            List.flatMap_cons, unwrapFrom, happend, List.mem_filter, decide_eq_true_eq, true_and]
          constructor
          · rintro ((h | ⟨h, hr⟩) | ⟨d, hd, h⟩ | ⟨hr, h⟩)
            · exact Or.inl ⟨c, Or.inl rfl, h⟩
            · exact Or.inr ⟨hr, Or.inl h⟩
            · exact Or.inl ⟨d, Or.inr hd, h⟩
            · exact Or.inr ⟨hr, Or.inr h⟩
          · rintro (⟨d, rfl | hd, h⟩ | ⟨hr, h | h⟩)
            · exact Or.inl (Or.inl h)
            · exact Or.inr (Or.inl ⟨d, hd, h⟩)
            · exact Or.inl (Or.inr ⟨h, hr⟩)
            · exact Or.inr (Or.inr ⟨hr, h⟩)

theorem mem_refs_of_bears {a : Atlas} {f g : Ref} (h : a.Bears f g) : f ∈ a.refs := by
  rcases h with ⟨p, hp, -⟩ | hg
  · exact mem_refs_of_mem_children (mem_childrenOf_iff.mp hp).1
  · exact mem_refs_of_mem_children (mem_childrenOf_iff.mp hg).1

/-- What is retrieved below a folder, place by place. -/
theorem mem_all_iff {a : Atlas} (hfree : a.Open) {c : Ref} (hc : a.scope c ≠ .detached)
    {k : Kind} {r : Ref} :
    r ∈ a.all c k ↔ ∃ d, ReflTransGen a.Nests c d ∧
      (r ∈ a.childrenOf d k ∨
        k.isGeometry ∧ r.kind = k ∧ ∃ s, a.Bears d s ∧ ReflTransGen a.Groups s r) := by
  rw [all_eq hc, mem_firstBy_id, List.mem_append, mem_contributions_iff, mem_unwrapFrom_iff hfree]
  simp only [List.mem_flatMap, mem_visited_iff hfree, mem_seeds_iff hfree]
  constructor
  · rintro (h | ⟨d, ⟨-, hd⟩, -, h⟩ | ⟨hk, hr, s, ⟨d, ⟨-, hd⟩, hs⟩, hsr⟩)
    · exact ⟨c, .refl, Or.inl h⟩
    · exact ⟨d, hd, Or.inl h⟩
    · exact ⟨d, hd, Or.inr ⟨hk, hr, s, hs, hsr⟩⟩
  · rintro ⟨d, hd, h | ⟨hk, hr, s, hs, hsr⟩⟩
    · -- the folder itself does not contribute its list a second time
      by_cases hdc : d = c
      · exact Or.inl (hdc ▸ h)
      · have hmem := mem_refs_of_mem_children (mem_childrenOf_iff.mp h).1
        exact Or.inr (Or.inl ⟨d, ⟨hmem, hd⟩, hdc, h⟩)
    · exact Or.inr (Or.inr ⟨hk, hr, s, ⟨d, ⟨mem_refs_of_bears hs, hd⟩, hs⟩, hsr⟩)

/-- **Retrieval through a shelf**, on every atlas in which nothing is hidden: each entity comes
once; those are what the folder and the folders below it list of the kind, and if it is a kind of
geometries also what they bear, at any depth inside groups; and what the folder itself lists comes
first and in its order. -/
theorem all_collects {a : Atlas} (hfree : a.Open) {c : Ref} (hc : a.scope c ≠ .detached)
    (k : Kind) :
    (a.all c k).Nodup ∧
      (∀ r, r ∈ a.all c k ↔ ∃ d, ReflTransGen a.Nests c d ∧
        (r ∈ a.childrenOf d k ∨
          k.isGeometry ∧ r.kind = k ∧ ∃ s, a.Bears d s ∧ ReflTransGen a.Groups s r)) ∧
      firstBy id (a.childrenOf c k) <+: a.all c k ∧
      ((a.childrenOf c k).Nodup → a.childrenOf c k <+: a.all c k) := by
  have hfirst : firstBy id (a.childrenOf c k) <+: a.all c k := by
    rw [all_eq hc, firstBy_append]
    exact List.prefix_append _ _
  refine ⟨?_, fun r => mem_all_iff hfree hc, hfirst, fun hnd => ?_⟩
  · rw [all_eq hc]
    exact nodup_firstBy_id _
  · rwa [firstBy_id_eq_self hnd] at hfirst

/-- Two folders that list each other; a placemark in the one and the other folder itself share a
group, which is a member of itself. -/
def circular : Atlas where
  nodes := #[
    some ⟨{}, .folder { children := [⟨.folder, 1⟩, ⟨.placemark, 2⟩] }⟩,
    some ⟨{}, .folder { children := [⟨.folder, 0⟩, ⟨.multiGeometry, 3⟩] }⟩,
    some ⟨{}, .placemark { multigeometry := some ⟨.multiGeometry, 3⟩ }⟩,
    some ⟨{}, .multiGeometry ⟨[⟨.multiGeometry, 3⟩, ⟨.point, 4⟩]⟩⟩,
    some ⟨{}, .point {}⟩]

theorem all_collects_circular :
    circular.Open ∧ circular.scope ⟨.folder, 1⟩ ≠ .detached ∧
      (circular.all ⟨.folder, 1⟩ .point).Nodup ∧
      (∀ r, r ∈ circular.all ⟨.folder, 1⟩ .point → r.kind = .point) ∧
      ⟨.point, 4⟩ ∈ circular.all ⟨.folder, 1⟩ .point ∧
      [⟨.multiGeometry, 3⟩] <+: circular.all ⟨.folder, 1⟩ .multiGeometry := by
  have hscope : circular.scope ⟨.folder, 1⟩ ≠ .detached := by decide
  have hopen : circular.Open := open_of_held rfl
  have hpoints := all_collects hopen hscope .point
  have hgroups := all_collects hopen hscope .multiGeometry
  refine ⟨hopen, hscope, hpoints.1, fun r hr => ?_, (hpoints.2.1 _).mpr ?_, ?_⟩
  · obtain ⟨d, -, h | ⟨-, h, -⟩⟩ := (hpoints.2.1 r).mp hr
    · exact (mem_childrenOf_iff.mp h).2
    · exact h
  · -- over the other folder, its placemark and the group of that
    have hnests : circular.Nests ⟨.folder, 1⟩ ⟨.folder, 0⟩ := by
      show (_ : Ref) ∈ _
      decide
    have hbears : circular.Bears ⟨.folder, 0⟩ ⟨.multiGeometry, 3⟩ := by
      refine Or.inl ⟨⟨.placemark, 2⟩, ?_, ?_⟩ <;> decide
    have hgroups : circular.Groups ⟨.multiGeometry, 3⟩ ⟨.point, 4⟩ := by
      show (_ : Ref) ∈ _
      decide
    exact ⟨⟨.folder, 0⟩, .single hnests, Or.inr ⟨rfl, rfl, _, hbears, .single hgroups⟩⟩
  · have hown : circular.childrenOf ⟨.folder, 1⟩ .multiGeometry = [⟨.multiGeometry, 3⟩] := by decide
    exact hown ▸ hgroups.2.2.2 (by decide)

end Atlas

end Gazetteer
