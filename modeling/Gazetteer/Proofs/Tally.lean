import Gazetteer.Proofs.Distance
import Gazetteer.Proofs.Traversal
import Mathlib.Algebra.BigOperators.Group.Finset.Basic

/-!
# What a collection has gone through

A collection counts while it goes: folders, placemarks, groups, and the greatest depth. The main
statement says that on any atlas in which nothing is hidden the counts are those of the graph and
not of the way that was taken through it: how many folders and groups there are to be reached, and
how far the furthest folder is (`tally_collect`). It is put together from the two walks: each folder
is entered once and at its distance (`Walk.distance_of_mem_breadthFirst`), and the walks through the
groups of all folders are one walk (`snd_contributions`), which enters each group once.
-/

namespace Gazetteer

open Relation

theorem isGreatest_foldl_max {xs : List Nat} (hne : xs ≠ []) :
    IsGreatest {n | n ∈ xs} (xs.foldl max 0) := by
  obtain ⟨m, hm⟩ := Option.ne_none_iff_exists'.mp fun h => hne (List.max?_eq_none_iff.mp h)
  rw [List.foldl_max, hm, Option.getD_some, Nat.zero_max]
  obtain ⟨hmem, hle⟩ := List.max?_eq_some_iff.mp hm
  exact ⟨hmem, fun n hn => hle n hn⟩

namespace Walk

variable {α : Type} [DecidableEq α] {next : α → List α} {space : List α}

/-- What is newly seen has been come across. -/
theorem mem_depthFirst_of_mem_seen {seen stack : List α} {x : α} (hn : x ∉ seen)
    (hx : x ∈ (depthFirst next space seen stack).2) :
    x ∈ (depthFirst next space seen stack).1 := by
  induction seen, stack using depthFirst.induct next space with
  | case1 seen =>
      rw [depthFirst_nil] at hx
      exact absurd hx hn
  | case2 seen y rest h _ _ _ ih =>
      rw [depthFirst_enter h] at hx ⊢
      by_cases hxy : x = y
      · rw [hxy]
        exact List.mem_cons_self
      · exact List.mem_cons_of_mem _ (ih (by simp [hxy, hn]) hx)
  | case3 seen y rest h _ _ _ ih =>
      rw [depthFirst_pass h] at hx ⊢
      exact List.mem_cons_of_mem _ (ih hn hx)

end Walk

namespace Atlas

variable {a : Atlas} {root d g : Ref} {k : Kind}

theorem mem_refs_iff_contains {r : Ref} : r ∈ a.refs ↔ a.contains r := by
  rw [mem_refs_iff, contains_iff]

/-! ## Folders -/

section Free

variable (hfree : a.Open)

include hfree

theorem reach_eq (root : Ref) :
    a.reach root = Walk.breadthFirst (a.childrenOf · .folder) a.refs [] [(root, 0)] := by
  rw [reach, openFolders_eq hfree]

theorem openPlacemarks_eq : a.openPlacemarks = (a.childrenOf · .placemark) := by
  funext r
  simp [openPlacemarks, hfree.isHidden]

theorem visited_eq_map_reach (root : Ref) : a.visited root = (a.reach root).map (·.1) := by
  rw [visited, List.filter_eq_self.mpr]
  intro p _
  rw [hfree.isHidden]
  rfl

theorem visited_eq_entered (root : Ref) :
    a.visited root = Walk.entered (a.childrenOf · .folder) a.refs [] [(root, 0)] := by
  rw [visited_eq_map_reach hfree, reach_eq hfree]
  rfl

theorem nodup_visited (root : Ref) : (a.visited root).Nodup := by
  rw [visited_eq_entered hfree]
  exact Walk.nodup_entered _ _

/-- Folders are gone through at their distance from the first one. -/
theorem distance_of_mem_reach {p : Ref × Nat} (hp : p ∈ a.reach root) :
    Walk.Distance (a.childrenOf · .folder) root p.1 p.2 := by
  rw [reach_eq hfree] at hp
  refine Walk.distance_of_mem_breadthFirst ?_ root p hp
  intro x y hxy
  exact mem_refs_of_mem_children (mem_childrenOf_iff.mp hxy).1

/-- The greatest depth of a folder is the greatest distance. -/
theorem isGreatest_distance (hroot : root ∈ a.visited root) :
    IsGreatest {n | ∃ d ∈ a.visited root, Walk.Distance (a.childrenOf · .folder) root d n}
      (((a.reach root).map (·.2)).foldl max 0) := by
  -- each folder has one distance, at which it stands among those gone through
  have hset : {n | ∃ d ∈ a.visited root, Walk.Distance (a.childrenOf · .folder) root d n} =
      {n | n ∈ (a.reach root).map (·.2)} := by
    ext n
    simp only [Set.mem_ofPred_eq, visited_eq_map_reach hfree, List.mem_map]
    constructor
    · rintro ⟨_, ⟨p, hp, rfl⟩, hn⟩
      exact ⟨p, hp, (distance_of_mem_reach hfree hp).unique hn⟩
    · rintro ⟨p, hp, rfl⟩
      exact ⟨p.1, ⟨p, hp, rfl⟩, distance_of_mem_reach hfree hp⟩
  rw [hset]
  apply isGreatest_foldl_max
  intro hnil
  rw [visited_eq_map_reach hfree, List.map_eq_nil_iff.mp hnil] at hroot
  cases hroot

/-! ## Groups -/

/-- What has been entered of what seeds lead to. -/
theorem mem_snd_unwrapFrom_iff {seeds : List Ref} {r : Ref} :
    r ∈ (a.unwrapFrom [] seeds).2 ↔ r ∈ a.refs ∧ ∃ s ∈ seeds, ReflTransGen a.Groups s r := by
  rw [← mem_unwrapFrom_iff hfree]
  constructor
  · intro hr
    obtain ⟨entered, hseen, -, hnew, -⟩ := Walk.exists_entered a.openMembers a.refs [] seeds
    refine ⟨?_, Walk.mem_depthFirst_of_mem_seen List.not_mem_nil hr⟩
    rw [unwrapFrom, hseen, List.append_nil] at hr
    exact (hnew r hr).1
  · rintro ⟨hrefs, hr⟩
    exact Walk.mem_seen_of_mem_depthFirst hrefs hr

end Free

theorem nodup_snd_unwrapFrom (a : Atlas) (seeds : List Ref) :
    (a.unwrapFrom [] seeds).2.Nodup := by
  obtain ⟨entered, hseen, hnodup, -⟩ := Walk.exists_entered a.openMembers a.refs [] seeds
  rw [unwrapFrom, hseen, List.append_nil]
  exact hnodup

/-- The folders hand on what has been entered, so that their walks are one. -/
theorem snd_contributions (a : Atlas) (k : Kind) (root : Ref) (seen cs : List Ref) :
    (a.contributions k root seen cs).2 =
      if k.isGeometry then (a.unwrapFrom seen (cs.flatMap a.seeds)).2 else seen := by
  induction cs generalizing seen with
  | nil =>
      rw [contributions, List.flatMap_nil, unwrapFrom, Walk.depthFirst_nil, ite_self]
  | cons c cs ih =>
      rw [contributions]
      dsimp only
      rw [ih]
      split
      · next hk =>
          rw [List.flatMap_cons]
          unfold unwrapFrom
          rw [Walk.depthFirst_append]
      · rfl

/-! ## The tally -/

/-- What a collection counts, where nothing is hidden. -/
theorem tally_eq (hfree : a.Open) (k : Kind) (own : List Ref) (root : Ref) :
    (a.collect k own (some root)).tally =
      { visited := (a.visited root).length
        skipped := 0
        placemarks :=
          if k.isGeometry then ((a.visited root).flatMap (a.childrenOf · .placemark)).length else 0
        aggregates := ((a.contributions k root [] (a.visited root)).2.filter
          (·.kind = .multiGeometry)).length
        collected := (a.collect k own (some root)).items.length
        duplicates := (own ++ (a.contributions k root [] (a.visited root)).1).length -
          (a.collect k own (some root)).items.length
        depth := ((a.reach root).map (·.2)).foldl max 0 } := by
  have hmet : (a.reach root).partition (fun p => a.isHidden p.1) = ([], a.reach root) := by
    simp [List.partition_eq_filter_filter, hfree.isHidden]
  rw [visited_eq_map_reach hfree]
  simp only [collect, hmet, openPlacemarks_eq hfree]
  rfl

/-- **A tally counts what there is.** In whichever way folders list folders, and groups contain
groups: the folders looked into are all that can be reached, each counted once; the depth is the
distance of the furthest of them; of the geometries, placemarks are counted by the entries of these
folders and groups by how many of them can be reached; and what is collected is what comes out. -/
theorem tally_collect (hfree : a.Open) (hroot : a.contains root) (k : Kind) (own : List Ref) :
    ∃ folders groups : Finset Ref,
      (∀ d, d ∈ folders ↔ a.contains d ∧ ReflTransGen a.Nests root d) ∧
      (∀ g, g ∈ groups ↔ a.contains g ∧ g.kind = .multiGeometry ∧
        ∃ d ∈ folders, ∃ s, a.Bears d s ∧ ReflTransGen a.Groups s g) ∧
      (a.collect k own (some root)).tally.visited = folders.card ∧
      (a.collect k own (some root)).tally.skipped = 0 ∧
      IsGreatest {n | ∃ d ∈ folders, Walk.Distance (a.childrenOf · .folder) root d n}
        (a.collect k own (some root)).tally.depth ∧
      (a.collect k own (some root)).tally.collected = (a.collect k own (some root)).items.length ∧
      (a.collect k own (some root)).tally.placemarks =
        (if k.isGeometry then ∑ d ∈ folders, (a.childrenOf d .placemark).length else 0) ∧
      (a.collect k own (some root)).tally.aggregates =
        if k.isGeometry then groups.card else 0 := by
  have hnodup := nodup_visited hfree root
  have hmem (d : Ref) : d ∈ a.visited root ↔ a.contains d ∧ ReflTransGen a.Nests root d := by
    rw [mem_visited_iff hfree, mem_refs_iff_contains]
  let entered := (a.unwrapFrom [] ((a.visited root).flatMap a.seeds)).2
  rw [tally_eq hfree]
  refine ⟨(a.visited root).toFinset, (entered.filter (·.kind = .multiGeometry)).toFinset,
    ?_, ?_, ?_, rfl, ?_, rfl, ?_, ?_⟩
  · intro d
    rw [List.mem_toFinset, hmem]
  · intro g
    simp only [List.mem_toFinset, List.mem_filter, decide_eq_true_eq, entered,
      mem_snd_unwrapFrom_iff hfree, List.mem_flatMap, mem_seeds_iff hfree, mem_refs_iff_contains]
    grind
  · exact (List.toFinset_card_of_nodup hnodup).symm
  · simp only [List.mem_toFinset]
    exact isGreatest_distance hfree ((hmem root).mpr ⟨hroot, .refl⟩)
  · dsimp only
    rw [List.length_flatMap, List.sum_toFinset _ hnodup]
  · dsimp only
    rw [snd_contributions]
    split
    · exact (List.toFinset_card_of_nodup ((nodup_snd_unwrapFrom a _).filter _)).symm
    · rfl

/-- Four folders in two circles, so that one of them is a step away and also three. Two of them list
one placemark, whose group contains itself and a group that another folder lists. -/
def roundabout : Atlas where
  nodes := #[
    some ⟨{}, .folder { children := [⟨.folder, 1⟩, ⟨.folder, 3⟩] }⟩,
    some ⟨{}, .folder { children := [⟨.folder, 2⟩, ⟨.multiGeometry, 6⟩] }⟩,
    some ⟨{}, .folder { children := [⟨.folder, 3⟩, ⟨.folder, 0⟩, ⟨.placemark, 4⟩] }⟩,
    some ⟨{}, .folder { children := [⟨.placemark, 4⟩] }⟩,
    some ⟨{}, .placemark { multigeometry := some ⟨.multiGeometry, 5⟩ }⟩,
    some ⟨{}, .multiGeometry ⟨[⟨.multiGeometry, 5⟩, ⟨.multiGeometry, 6⟩]⟩⟩,
    some ⟨{}, .multiGeometry ⟨[⟨.point, 7⟩]⟩⟩,
    some ⟨{}, .point {}⟩]

theorem tally_collect_roundabout :
    roundabout.Open ∧ roundabout.contains ⟨.folder, 0⟩ ∧
    ∃ folders groups : Finset Ref,
      (∀ d, d ∈ folders ↔
        roundabout.contains d ∧ ReflTransGen roundabout.Nests ⟨.folder, 0⟩ d) ∧
      (∀ g, g ∈ groups ↔ roundabout.contains g ∧ g.kind = .multiGeometry ∧
        ∃ d ∈ folders, ∃ s, roundabout.Bears d s ∧ ReflTransGen roundabout.Groups s g) ∧
      folders.card = 4 ∧ groups.card = 2 ∧
      ∑ d ∈ folders, (roundabout.childrenOf d .placemark).length = 2 ∧
      IsGreatest {n | ∃ d ∈ folders,
        Walk.Distance (roundabout.childrenOf · .folder) ⟨.folder, 0⟩ d n} 2 := by
  have hopen : roundabout.Open := open_of_held rfl
  have hroot : roundabout.contains ⟨.folder, 0⟩ := by decide
  -- both walks, step by step
  have hrefs : roundabout.refs = [⟨.folder, 0⟩, ⟨.folder, 1⟩, ⟨.folder, 2⟩, ⟨.folder, 3⟩,
      ⟨.placemark, 4⟩, ⟨.multiGeometry, 5⟩, ⟨.multiGeometry, 6⟩, ⟨.point, 7⟩] := by decide
  have hreach : roundabout.reach ⟨.folder, 0⟩ =
      [(⟨.folder, 0⟩, 0), (⟨.folder, 1⟩, 1), (⟨.folder, 3⟩, 1), (⟨.folder, 2⟩, 2)] := by
    have h0 : roundabout.openFolders ⟨.folder, 0⟩ = [⟨.folder, 1⟩, ⟨.folder, 3⟩] := by decide
    have h1 : roundabout.openFolders ⟨.folder, 1⟩ = [⟨.folder, 2⟩] := by decide
    have h2 : roundabout.openFolders ⟨.folder, 2⟩ = [⟨.folder, 3⟩, ⟨.folder, 0⟩] := by decide
    have h3 : roundabout.openFolders ⟨.folder, 3⟩ = [] := by decide
    simp [reach, Walk.breadthFirst, hrefs, h0, h1, h2, h3]
  have hvisited : roundabout.visited ⟨.folder, 0⟩ =
      [⟨.folder, 0⟩, ⟨.folder, 1⟩, ⟨.folder, 3⟩, ⟨.folder, 2⟩] := by
    rw [visited_eq_map_reach hopen, hreach]
    rfl
  have hseeds : (roundabout.visited ⟨.folder, 0⟩).flatMap roundabout.seeds =
      [⟨.multiGeometry, 6⟩, ⟨.multiGeometry, 5⟩, ⟨.multiGeometry, 5⟩] := by
    rw [hvisited]
    decide
  have hentered : (roundabout.unwrapFrom []
      [⟨.multiGeometry, 6⟩, ⟨.multiGeometry, 5⟩, ⟨.multiGeometry, 5⟩]).2 =
      [⟨.multiGeometry, 5⟩, ⟨.point, 7⟩, ⟨.multiGeometry, 6⟩] := by
    have h5 : roundabout.openMembers ⟨.multiGeometry, 5⟩ =
        [⟨.multiGeometry, 5⟩, ⟨.multiGeometry, 6⟩] := by decide
    have h6 : roundabout.openMembers ⟨.multiGeometry, 6⟩ = [⟨.point, 7⟩] := by decide
    have h7 : roundabout.openMembers ⟨.point, 7⟩ = [] := by decide
    simp [unwrapFrom, Walk.depthFirst, hrefs, h5, h6, h7]
  obtain ⟨folders, groups, hfolders, hgroups, hfour, -, hdepth, -, hplacemarks, haggregates⟩ :=
    tally_collect hopen hroot .point []
  rw [tally_eq hopen, hreach] at hdepth
  rw [tally_eq hopen, hvisited] at hfour hplacemarks
  rw [tally_eq hopen, snd_contributions, hseeds, hentered] at haggregates
  exact ⟨hopen, hroot, folders, groups, hfolders, hgroups, hfour.symm, haggregates.symm,
    hplacemarks.symm, hdepth⟩

end Atlas

end Gazetteer
