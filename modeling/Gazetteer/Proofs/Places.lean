import Gazetteer.Proofs.Tally
import Mathlib.Data.List.Perm.Basic
import Mathlib.Data.Finset.Card

/-!
# How often an entity is met

An entity has its places in the lists of folders, among the geometries of placemarks and among the
members of groups (`Atlas.contents`). A collection goes through all places below a folder, once
each, with one exception: a group that a folder lists is met with the list, and again where its
members are unwrapped. The main statement counts what is met (`duplicates_collect`). So no repeat is
counted of a kind other than groups if each entity has one place only, and of groups as many as the
folders list. What carries the proof is that the candidates are the contents of all holders, up to
their order (`candidates_perm`).
-/

namespace Gazetteer

open Relation

theorem length_firstBy_id {α : Type} [DecidableEq α] (xs : List α) :
    (firstBy id xs).length = xs.toFinset.card := by
  rw [← List.toFinset_card_of_nodup (nodup_firstBy_id xs)]
  congr 1
  ext x
  rw [List.mem_toFinset, List.mem_toFinset, mem_firstBy_id]

theorem toFinset_card_eq_length_iff {α : Type} [DecidableEq α] {xs : List α} :
    xs.toFinset.card = xs.length ↔ xs.Nodup :=
  Multiset.toFinset_card_eq_card_iff_nodup (m := (xs : Multiset α))

/-- What is kept and what is dropped, where nothing new comes after the first elements. -/
theorem repeats_of_perm {α : Type} [DecidableEq α] {cs xs ys : List α} (h : cs.Perm (xs ++ ys))
    (hsub : ys ⊆ xs) :
    (firstBy id cs).length = xs.toFinset.card ∧
      (firstBy id cs).length + (cs.length - (firstBy id cs).length) = xs.length + ys.length ∧
      (cs.length - (firstBy id cs).length = ys.length ↔ xs.Nodup) := by
  have hkept : (firstBy id cs).length = xs.toFinset.card := by
    rw [length_firstBy_id, List.toFinset_eq_of_perm _ _ h]
    congr 1
    ext x
    rw [List.mem_toFinset, List.mem_toFinset, List.mem_append]
    exact ⟨fun hx => hx.elim id (fun hx => hsub hx), Or.inl⟩
  have hlength : cs.length = xs.length + ys.length := by
    rw [h.length_eq, List.length_append]
  have hle := List.toFinset_card_le xs
  rw [hkept, hlength, ← toFinset_card_eq_length_iff]
  omega

/-- Lists without repeats that agree where a function has values lead to the same values. -/
theorem flatMap_perm_flatMap {α β : Type} [DecidableEq β] {f : α → List β} {xs ys : List α}
    (hxs : xs.Nodup) (hys : ys.Nodup) (h : ∀ x, f x ≠ [] → (x ∈ xs ↔ x ∈ ys)) :
    (xs.flatMap f).Perm (ys.flatMap f) := by
  have hdrop : ∀ zs : List α, zs.flatMap f = (zs.filter (f · ≠ [])).flatMap f := by
    intro zs
    induction zs with
    | nil => rfl
    | cons z zs ih => by_cases hz : f z = [] <;> simp [hz, ih]
  rw [hdrop xs, hdrop ys]
  apply List.Perm.flatMap_right
  rw [List.perm_ext_iff_of_nodup (hxs.filter _) (hys.filter _)]
  intro x
  simp only [List.mem_filter, decide_eq_true_eq]
  exact and_congr_left (h x)

/-- What one element of a list contributes may be put in front. -/
theorem append_flatMap_perm {α β : Type} [DecidableEq α] {xs : List α} {x : α} (hxs : xs.Nodup)
    (hx : x ∈ xs) (f : α → List β) :
    (f x ++ xs.flatMap fun y => if y = x then [] else f y).Perm (xs.flatMap f) := by
  have hperm := List.perm_cons_erase hx
  have hrest : ((xs.erase x).flatMap fun y => if y = x then [] else f y) =
      (xs.erase x).flatMap f := by
    apply List.flatMap_congr
    intro y hy
    exact if_neg (hxs.mem_erase_iff.mp hy).1
  calc
    (f x ++ xs.flatMap fun y => if y = x then [] else f y).Perm
        (f x ++ (x :: xs.erase x).flatMap fun y => if y = x then [] else f y) :=
      (hperm.flatMap_right _).append_left _
    _ = (x :: xs.erase x).flatMap f := by simp [hrest]
    List.Perm _ (xs.flatMap f) := (hperm.flatMap_right f).symm

namespace Atlas

variable {a : Atlas} {root x y d s : Ref} {k : Kind}

/-! ## Places -/

/-- What has its place in an entity: what a folder lists, what a placemark embeds, or what a group
has as its members. -/
def contents (a : Atlas) (x : Ref) : List Ref :=
  a.children x ++ (a.embedded x ++ a.members x).filter (·.kind.isGeometry)

def contentsOf (a : Atlas) (x : Ref) (k : Kind) : List Ref := (a.contents x).filter (·.kind = k)

/-- What of it is met a second time: the groups that a folder lists are seeds of the walk through
its geometries as well. -/
def metAgain (a : Atlas) (x : Ref) (k : Kind) : List Ref :=
  if k = .multiGeometry then a.childrenOf x .multiGeometry else []

/-- One entity has its place directly in another. -/
def Inside (a : Atlas) (x y : Ref) : Prop := y ∈ a.contents x

/-- Each entity of a kind that is met below a folder has one place there. -/
structure Sole (a : Atlas) (root : Ref) (k : Kind) : Prop where
  once : ∀ x, ReflTransGen a.Inside root x → (a.contentsOf x k).Nodup
  alone : ∀ x y, ReflTransGen a.Inside root x → ReflTransGen a.Inside root y →
    ∀ r ∈ a.contentsOf x k, r ∈ a.contentsOf y k → x = y

/-! ## What leads to an entity -/

theorem kind_of_mem_children (h : y ∈ a.children x) : x.kind = .folder := by
  unfold children folder? at h
  split at h
  · next f hf =>
      split at hf
      · next d g hn => exact (kind_of_node? hn).symm
      · cases hf
  · cases h

theorem kind_of_mem_embedded (h : y ∈ a.embedded x) : x.kind = .placemark := by
  unfold embedded at h
  split at h
  · next d p hn => exact (kind_of_node? hn).symm
  · cases h

theorem kind_of_mem_members (h : y ∈ a.members x) : x.kind = .multiGeometry := by
  unfold members at h
  split at h
  · next d g hn => exact (kind_of_node? hn).symm
  · cases h

theorem mem_refs_of_mem_embedded (h : y ∈ a.embedded x) : x ∈ a.refs := by
  rw [mem_refs_iff]
  unfold embedded at h
  split at h
  · next d p hn => exact ⟨_, hn⟩
  · cases h

theorem inside_iff :
    a.Inside x y ↔ y ∈ a.children x ∨ y.kind.isGeometry ∧ (y ∈ a.embedded x ∨ y ∈ a.members x) := by
  simp only [Inside, contents, List.mem_append, List.mem_filter]
  exact or_congr_right and_comm

/-- By which ways folders, placemarks and groups are met below a folder. -/
theorem ways_of_inside (hroot : root.kind = .folder) (h : ReflTransGen a.Inside root x) :
    (x.kind = .folder → ReflTransGen a.Nests root x) ∧
    (x.kind = .placemark → ∃ d, ReflTransGen a.Nests root d ∧ x ∈ a.childrenOf d .placemark) ∧
    (x.kind = .multiGeometry →
      ∃ d, ReflTransGen a.Nests root d ∧ ∃ s, a.Bears d s ∧ ReflTransGen a.Groups s x) := by
  induction h with
  | refl => simp [hroot, ReflTransGen.refl]
  | @tail y z _ hlast ih =>
      obtain ⟨hfolder, hplacemark, hgroup⟩ := ih
      rcases inside_iff.mp hlast with hz | ⟨hgeometry, hz⟩
      · have hy := hfolder (kind_of_mem_children hz)
        refine ⟨?_, ?_, ?_⟩
        · intro hk
          exact hy.tail (mem_childrenOf_iff.mpr ⟨hz, hk⟩)
        · intro hk
          exact ⟨y, hy, mem_childrenOf_iff.mpr ⟨hz, hk⟩⟩
        · intro hk
          exact ⟨y, hy, z, Or.inr (mem_childrenOf_iff.mpr ⟨hz, hk⟩), .refl⟩
      · refine ⟨?_, ?_, ?_⟩
        · intro hk
          rw [hk] at hgeometry
          cases hgeometry
        · intro hk
          rw [hk] at hgeometry
          cases hgeometry
        · intro _
          rcases hz with hz | hz
          · obtain ⟨d, hd, hy⟩ := hplacemark (kind_of_mem_embedded hz)
            exact ⟨d, hd, z, Or.inl ⟨y, hy, hz⟩, .refl⟩
          · obtain ⟨d, hd, s, hs, hy⟩ := hgroup (kind_of_mem_members hz)
            exact ⟨d, hd, s, hs, hy.tail hz⟩

theorem inside_of_nests (h : ReflTransGen a.Nests root d) : ReflTransGen a.Inside root d :=
  h.lift id fun _ _ hlast => inside_iff.mpr (Or.inl (mem_childrenOf_iff.mp hlast).1)

/-- What leads to a group over members are groups. -/
theorem inside_of_groups (h : ReflTransGen a.Groups s x) (hx : x.kind = .multiGeometry) :
    s.kind = .multiGeometry ∧ ReflTransGen a.Inside s x := by
  induction h using ReflTransGen.head_induction_on with
  | refl => exact ⟨hx, .refl⟩
  | head hfirst _ ih =>
      obtain ⟨hk, hpath⟩ := ih
      refine ⟨kind_of_mem_members hfirst, .head (inside_iff.mpr (Or.inr ⟨?_, Or.inr hfirst⟩)) hpath⟩
      rw [hk]
      rfl

theorem inside_of_bears (hd : ReflTransGen a.Nests root d) (hs : a.Bears d s)
    (h : ReflTransGen a.Groups s x) (hx : x.kind = .multiGeometry) :
    ReflTransGen a.Inside root x := by
  obtain ⟨hk, hpath⟩ := inside_of_groups h hx
  refine .trans ?_ hpath
  rcases hs with ⟨p, hp, hs⟩ | hs
  · have hchild : a.Inside d p := inside_iff.mpr (Or.inl (mem_childrenOf_iff.mp hp).1)
    refine ((inside_of_nests hd).tail hchild).tail (inside_iff.mpr (Or.inr ⟨?_, Or.inl hs⟩))
    rw [hk]
    rfl
  · exact (inside_of_nests hd).tail (inside_iff.mpr (Or.inl (mem_childrenOf_iff.mp hs).1))

/-! ## What folders contribute -/

/-- The folders contribute what they list and what one walk through all their geometries comes
across. -/
theorem contributions_perm (a : Atlas) (k : Kind) (root : Ref) (seen cs : List Ref) :
    (a.contributions k root seen cs).1.Perm
      ((cs.flatMap fun c => if c = root then [] else a.childrenOf c k) ++
        if k.isGeometry then (a.unwrapFrom seen (cs.flatMap a.seeds)).1.filter (·.kind = k)
        else []) := by
  induction cs generalizing seen with
  | nil =>
      rw [contributions, List.flatMap_nil, List.flatMap_nil, unwrapFrom, Walk.depthFirst_nil]
      simp
  | cons c cs ih =>
      rw [contributions]
      dsimp only
      rw [List.flatMap_cons, List.flatMap_cons]
      cases hk : k.isGeometry with
      | false =>
          have hrest := ih seen
          simp only [hk, Bool.false_eq_true, if_false, List.append_nil, List.filter_nil] at hrest ⊢
          exact hrest.append_left _
      | true =>
          have hrest := ih (a.unwrapFrom seen (a.seeds c)).2
          simp only [hk, if_true] at hrest ⊢
          have happend : (a.unwrapFrom seen (a.seeds c ++ cs.flatMap a.seeds)).1 =
              (a.unwrapFrom seen (a.seeds c)).1 ++
                (a.unwrapFrom (a.unwrapFrom seen (a.seeds c)).2 (cs.flatMap a.seeds)).1 := by
            unfold unwrapFrom
            rw [Walk.depthFirst_append]
          rw [happend, List.filter_append]
          refine (hrest.append_left _).trans ?_
          rw [List.append_assoc, List.append_assoc]
          apply List.Perm.append_left
          rw [← List.append_assoc, ← List.append_assoc]
          exact List.perm_append_comm.append_right _

/-- The seeds of folders are what their placemarks embed, and the groups that they list. -/
theorem flatMap_seeds_perm (hfree : a.Open) (cs : List Ref) :
    (cs.flatMap a.seeds).Perm ((cs.flatMap (a.childrenOf · .placemark)).flatMap a.embedded ++
      cs.flatMap (a.childrenOf · .multiGeometry)) := by
  unfold seeds
  rw [openPlacemarks_eq hfree, List.flatMap_assoc]
  exact (List.flatMap_append_perm ..).symm

theorem contentsOf_eq (a : Atlas) (x : Ref) (k : Kind) :
    a.contentsOf x k = a.childrenOf x k ++
      if k.isGeometry then (a.embedded x ++ a.members x).filter (·.kind = k) else [] := by
  rw [contentsOf, contents, List.filter_append, List.filter_filter, childrenOf]
  congr 1
  split
  · next hk =>
      apply List.filter_congr
      intro y _
      by_cases hy : y.kind = k <;> simp [hy, hk]
  · next hk =>
      rw [List.filter_eq_nil_iff]
      intro y _
      by_cases hy : y.kind = k <;> simp [hy, hk]

theorem filter_childrenOf (a : Atlas) (x : Ref) (k : Kind) :
    (a.childrenOf x .multiGeometry).filter (·.kind = k) = a.metAgain x k := by
  unfold metAgain
  split
  · next hk =>
      rw [hk, childrenOf, List.filter_filter]
      simp
  · next hk =>
      rw [List.filter_eq_nil_iff]
      intro y hy
      simpa [(mem_childrenOf_iff.mp hy).2] using Ne.symm hk

theorem metAgain_subset_contentsOf (a : Atlas) (x : Ref) (k : Kind) :
    a.metAgain x k ⊆ a.contentsOf x k := by
  unfold metAgain
  split
  · next hk =>
      rw [contentsOf_eq, hk]
      exact List.subset_append_left ..
  · exact List.nil_subset _

theorem mem_refs_of_mem_contentsOf (h : y ∈ a.contentsOf x k) : x ∈ a.refs := by
  rcases inside_iff.mp (List.mem_filter.mp h).1 with hy | ⟨-, hy | hy⟩
  · exact mem_refs_of_mem_children hy
  · exact mem_refs_of_mem_embedded hy
  · exact mem_refs_of_mem_members hy

/-! ## All holders -/

section Holders

variable {holders : List Ref} (hnodup : holders.Nodup)
  (hholders : ∀ x, x ∈ holders ↔ x ∈ a.refs ∧ ReflTransGen a.Inside root x)

include hnodup hholders

/-- Each entity has one place exactly if nothing repeats in the contents of the holders. -/
theorem nodup_flatMap_contentsOf_iff (k : Kind) :
    (holders.flatMap (a.contentsOf · k)).Nodup ↔ a.Sole root k := by
  rw [List.nodup_flatMap]
  constructor
  · rintro ⟨honce, halone⟩
    constructor
    · intro x hx
      cases hc : a.contentsOf x k with
      | nil => exact List.nodup_nil
      | cons y ys =>
          rw [← hc]
          apply honce
          rw [hholders]
          refine ⟨mem_refs_of_mem_contentsOf (y := y) (k := k) ?_, hx⟩
          simp [hc]
    · intro x y hx hy r hrx hry
      have hmemx := (hholders x).mpr ⟨mem_refs_of_mem_contentsOf hrx, hx⟩
      have hmemy := (hholders y).mpr ⟨mem_refs_of_mem_contentsOf hry, hy⟩
      have hsymm : Std.Symm (Function.onFun List.Disjoint (a.contentsOf · k)) :=
        ⟨fun _ _ h => h.symm⟩
      by_cases hxy : x = y
      · exact hxy
      · exact absurd hry (halone.forall hmemx hmemy hxy hrx)
  · intro hsole
    refine ⟨fun x hx => hsole.once x ((hholders x).mp hx).2, ?_⟩
    apply hnodup.pairwise_of_forall_ne
    intro x hx y hy hne r hrx hry
    exact hne (hsole.alone x y ((hholders x).mp hx).2 ((hholders y).mp hy).2 r hrx hry)

variable (hfree : a.Open) (hkind : root.kind = .folder)

include hfree hkind

/-- The folders among the holders are those that are visited. -/
theorem visited_flatMap_perm (k : Kind) :
    ((a.visited root).flatMap (a.childrenOf · k)).Perm (holders.flatMap (a.childrenOf · k)) := by
  apply flatMap_perm_flatMap (nodup_visited hfree root) hnodup
  intro x hx
  obtain ⟨y, hy⟩ := List.exists_mem_of_ne_nil _ hx
  have hfolder := kind_of_mem_children (mem_childrenOf_iff.mp hy).1
  rw [mem_visited_iff hfree, hholders]
  apply and_congr_right
  intro _
  exact ⟨inside_of_nests, fun h => (ways_of_inside hkind h).1 hfolder⟩

/-- The placemarks among the holders are those that visited folders list. -/
theorem placemarks_flatMap_perm (hsole : a.Sole root .placemark) (p : Ref → Bool) :
    (((a.visited root).flatMap (a.childrenOf · .placemark)).flatMap
      fun x => (a.embedded x).filter p).Perm (holders.flatMap fun x => (a.embedded x).filter p) := by
  have hlisted := visited_flatMap_perm hnodup hholders hfree hkind .placemark
  apply flatMap_perm_flatMap ?_ hnodup
  · intro x hx
    obtain ⟨y, hy⟩ := List.exists_mem_of_ne_nil _ hx
    have hy := (List.mem_filter.mp hy).1
    have hplacemark := kind_of_mem_embedded hy
    have hrefs := mem_refs_of_mem_embedded hy
    rw [hholders, List.mem_flatMap]
    simp only [mem_visited_iff hfree, hrefs, true_and]
    constructor
    · rintro ⟨d, ⟨-, hd⟩, hx⟩
      exact (inside_of_nests hd).tail (inside_iff.mpr (Or.inl (mem_childrenOf_iff.mp hx).1))
    · intro h
      obtain ⟨d, hd, hx⟩ := (ways_of_inside hkind h).2.1 hplacemark
      exact ⟨d, ⟨mem_refs_of_mem_children (mem_childrenOf_iff.mp hx).1, hd⟩, hx⟩
  · -- a placemark has one place, and that is in a folder
    have hcontents : (a.contentsOf · .placemark) = (a.childrenOf · .placemark) := by
      funext x
      rw [contentsOf_eq]
      simp [Kind.isGeometry]
    rw [hlisted.nodup_iff, ← hcontents, nodup_flatMap_contentsOf_iff hnodup hholders]
    exact hsole

/-- The groups among the holders are those that are entered. -/
theorem entered_flatMap_perm (p : Ref → Bool) :
    ((a.unwrapFrom [] ((a.visited root).flatMap a.seeds)).2.flatMap
      fun x => (a.members x).filter p).Perm (holders.flatMap fun x => (a.members x).filter p) := by
  apply flatMap_perm_flatMap (nodup_snd_unwrapFrom a _) hnodup
  intro x hx
  obtain ⟨y, hy⟩ := List.exists_mem_of_ne_nil _ hx
  have hgroup := kind_of_mem_members (List.mem_filter.mp hy).1
  rw [mem_snd_unwrapFrom_iff hfree, hholders]
  apply and_congr_right
  intro _
  simp only [List.mem_flatMap, mem_visited_iff hfree, mem_seeds_iff hfree]
  constructor
  · rintro ⟨s, ⟨d, ⟨-, hd⟩, hs⟩, hx⟩
    exact inside_of_bears hd hs hx hgroup
  · intro h
    obtain ⟨d, hd, s, hs, hx⟩ := (ways_of_inside hkind h).2.2 hgroup
    exact ⟨s, ⟨d, ⟨mem_refs_of_bears hs, hd⟩, hs⟩, hx⟩

/-- What a walk through the geometries of all folders comes across: what placemarks embed and what
groups have as members, and the groups that the folders list. -/
theorem unwrapFrom_perm (hsole : a.Sole root .placemark) (p : Ref → Bool) :
    ((a.unwrapFrom [] ((a.visited root).flatMap a.seeds)).1.filter p).Perm
      (holders.flatMap (fun x => (a.embedded x ++ a.members x).filter p) ++
        (holders.flatMap (a.childrenOf · .multiGeometry)).filter p) := by
  obtain ⟨entered, hentered, -, -, hperm⟩ :=
    Walk.exists_entered a.openMembers a.refs [] ((a.visited root).flatMap a.seeds)
  have hplacemarks := placemarks_flatMap_perm hnodup hholders hfree hkind hsole p
  have hgroups := entered_flatMap_perm hnodup hholders hfree hkind p
  have hlisted := (visited_flatMap_perm hnodup hholders hfree hkind .multiGeometry).filter p
  rw [unwrapFrom, hentered, List.append_nil] at hgroups
  calc
    List.Perm _ (((a.visited root).flatMap a.seeds ++ entered.flatMap a.members).filter p) := by
      rw [← openMembers_eq hfree]
      exact hperm.filter p
    List.Perm _ (((((a.visited root).flatMap (a.childrenOf · .placemark)).flatMap a.embedded ++
        (a.visited root).flatMap (a.childrenOf · .multiGeometry)) ++
          entered.flatMap a.members).filter p) :=
      ((flatMap_seeds_perm hfree (a.visited root)).append_right _).filter p
    List.Perm _ ((holders.flatMap fun x => (a.embedded x).filter p) ++
        (holders.flatMap (a.childrenOf · .multiGeometry)).filter p ++
          holders.flatMap fun x => (a.members x).filter p) := by
      rw [List.filter_append, List.filter_append, List.filter_flatMap (l := entered),
        List.filter_flatMap]
      exact (hplacemarks.append hlisted).append hgroups
    List.Perm _ ((holders.flatMap fun x => (a.embedded x).filter p) ++
        (holders.flatMap fun x => (a.members x).filter p) ++
          (holders.flatMap (a.childrenOf · .multiGeometry)).filter p) := by
      rw [List.append_assoc, List.append_assoc]
      exact List.perm_append_comm.append_left _
    List.Perm _ _ := by
      simp only [List.filter_append]
      exact (List.flatMap_append_perm ..).append_right _

/-- **The candidates of a collection**: the contents of all holders, and once more the groups that
the folders list. -/
theorem candidates_perm (hroot : root ∈ a.refs) (k : Kind)
    (hsole : k.isGeometry → a.Sole root .placemark) :
    (a.childrenOf root k ++ (a.contributions k root [] (a.visited root)).1).Perm
      (holders.flatMap (a.contentsOf · k) ++ holders.flatMap (a.metAgain · k)) := by
  have hvisited : root ∈ a.visited root := (mem_visited_iff hfree).mpr ⟨hroot, .refl⟩
  have hlisted := (append_flatMap_perm (nodup_visited hfree root) hvisited (a.childrenOf · k)).trans
    (visited_flatMap_perm hnodup hholders hfree hkind k)
  have hcontents : (a.contentsOf · k) = fun x => a.childrenOf x k ++
      if k.isGeometry then (a.embedded x ++ a.members x).filter (·.kind = k) else [] := by
    funext x
    exact contentsOf_eq a x k
  refine ((contributions_perm a k root [] _).append_left _).trans ?_
  rw [← List.append_assoc, hcontents]
  cases hk : k.isGeometry with
  | false =>
      have hother : k ≠ .multiGeometry := by
        rintro rfl
        cases hk
      have hagain : holders.flatMap (a.metAgain · k) = [] := by simp [metAgain, hother]
      simpa [hagain] using hlisted
  | true =>
      have hwalk := unwrapFrom_perm hnodup hholders hfree hkind (hsole hk) (·.kind = k)
      have hagain : (holders.flatMap (a.childrenOf · .multiGeometry)).filter (·.kind = k) =
          holders.flatMap (a.metAgain · k) := by
        rw [List.filter_flatMap]
        apply List.flatMap_congr
        intro x _
        exact filter_childrenOf a x k
      simp only [if_true]
      rw [hagain] at hwalk
      refine (hlisted.append hwalk).trans ?_
      rw [← List.append_assoc]
      exact (List.flatMap_append_perm ..).append_right _

end Holders

/-! ## What is counted -/

/-- **The repeats of a collection.** What is met are the contents of all that there is below a
folder, each place once, and the groups that folders list once more; what is collected are the
distinct ones among these. So repeats beyond the groups that are listed are counted only if an
entity has two places, and of the other kinds none at all is counted exactly if each entity has one.
For geometries the placemarks that embed them have one place each. -/
theorem duplicates_collect (hfree : a.Open) (hroot : a.contains root)
    (hkind : root.kind = .folder) (k : Kind) (hsole : k.isGeometry → a.Sole root .placemark) :
    ∃ holders : Finset Ref,
      (∀ x, x ∈ holders ↔ a.contains x ∧ ReflTransGen a.Inside root x) ∧
      (a.collect k (a.childrenOf root k) (some root)).tally.collected =
        (holders.biUnion fun x => (a.contentsOf x k).toFinset).card ∧
      (a.collect k (a.childrenOf root k) (some root)).tally.collected +
        (a.collect k (a.childrenOf root k) (some root)).tally.duplicates =
          ∑ x ∈ holders, (a.contentsOf x k).length + ∑ x ∈ holders, (a.metAgain x k).length ∧
      ((a.collect k (a.childrenOf root k) (some root)).tally.duplicates =
        ∑ x ∈ holders, (a.metAgain x k).length ↔ a.Sole root k) ∧
      (k ≠ .multiGeometry →
        ((a.collect k (a.childrenOf root k) (some root)).tally.duplicates = 0 ↔
          a.Sole root k)) := by
  classical
  let holders : Finset Ref := a.refs.toFinset.filter (ReflTransGen a.Inside root)
  have hholders : ∀ x, x ∈ holders.toList ↔ x ∈ a.refs ∧ ReflTransGen a.Inside root x := by
    intro x
    simp [holders]
  have hperm := candidates_perm holders.nodup_toList hholders hfree hkind
    (mem_refs_iff_contains.mpr hroot) k hsole
  have hcount (f : Ref → List Ref) :
      (holders.toList.flatMap f).length = ∑ x ∈ holders, (f x).length := by
    rw [List.length_flatMap, Finset.sum_map_toList]
  have hdistinct : (holders.toList.flatMap (a.contentsOf · k)).toFinset =
      holders.biUnion fun x => (a.contentsOf x k).toFinset := by
    ext y
    simp
  have hsub : holders.toList.flatMap (a.metAgain · k) ⊆
      holders.toList.flatMap (a.contentsOf · k) := by
    intro y hy
    obtain ⟨x, hx, hxy⟩ := List.mem_flatMap.mp hy
    exact List.mem_flatMap.mpr ⟨x, hx, metAgain_subset_contentsOf a x k hxy⟩
  obtain ⟨hkept, hboth, hrepeats⟩ := repeats_of_perm hperm hsub
  rw [hdistinct] at hkept
  rw [hcount, hcount] at hboth
  rw [hcount, nodup_flatMap_contentsOf_iff holders.nodup_toList hholders] at hrepeats
  rw [tally_eq hfree, items_collect]
  refine ⟨holders, ?_, hkept, hboth, hrepeats, ?_⟩
  · intro x
    rw [← Finset.mem_toList, hholders, mem_refs_iff_contains]
  · intro hk
    have hagain : ∑ x ∈ holders, (a.metAgain x k).length = 0 := by simp [metAgain, hk]
    rw [hagain] at hrepeats
    exact hrepeats

/-- Places that are all different may be looked for in the whole atlas. -/
theorem sole_of_refs (honce : ∀ x ∈ a.refs, (a.contentsOf x k).Nodup)
    (halone : ∀ x ∈ a.refs, ∀ y ∈ a.refs, ∀ r ∈ a.contentsOf x k, r ∈ a.contentsOf y k → x = y) :
    a.Sole root k where
  once x _ := by
    by_cases hx : x ∈ a.refs
    · exact honce x hx
    · rw [List.eq_nil_iff_forall_not_mem.mpr fun y hy => hx (mem_refs_of_mem_contentsOf hy)]
      exact List.nodup_nil
  alone x y _ _ r hx hy :=
    halone x (mem_refs_of_mem_contentsOf hx) y (mem_refs_of_mem_contentsOf hy) r hx hy

/-- A folder that lists a group with a point, and a folder with a placemark that has a group of its
own: each has one place, and the listed group is met twice. -/
def filed : Atlas where
  nodes := #[
    some ⟨{}, .folder { children := [⟨.folder, 1⟩, ⟨.multiGeometry, 2⟩] }⟩,
    some ⟨{}, .folder { children := [⟨.placemark, 3⟩] }⟩,
    some ⟨{}, .multiGeometry ⟨[⟨.point, 4⟩]⟩⟩,
    some ⟨{}, .placemark { multigeometry := some ⟨.multiGeometry, 5⟩ }⟩,
    some ⟨{}, .point {}⟩,
    some ⟨{}, .multiGeometry ⟨[]⟩⟩]

theorem duplicates_collect_filed :
    filed.Open ∧ filed.contains ⟨.folder, 0⟩ ∧ filed.Sole ⟨.folder, 0⟩ .placemark ∧
      (filed.Sole ⟨.folder, 0⟩ .point ∧
        (filed.collect .point (filed.childrenOf ⟨.folder, 0⟩ .point)
          (some ⟨.folder, 0⟩)).tally.duplicates = 0) ∧
      filed.Sole ⟨.folder, 0⟩ .multiGeometry ∧
      (filed.collect .multiGeometry (filed.childrenOf ⟨.folder, 0⟩ .multiGeometry)
        (some ⟨.folder, 0⟩)).tally.duplicates = 1 ∧
      ∃ holders : Finset Ref,
        (∀ x, x ∈ holders ↔ filed.contains x ∧ ReflTransGen filed.Inside ⟨.folder, 0⟩ x) ∧
        ∑ x ∈ holders, (filed.metAgain x .multiGeometry).length = 1 := by
  have hopen : filed.Open := open_of_held rfl
  have hroot : filed.contains ⟨.folder, 0⟩ := by decide
  have hplacemarks : filed.Sole ⟨.folder, 0⟩ .placemark := sole_of_refs (by decide) (by decide)
  have hpoints : filed.Sole ⟨.folder, 0⟩ .point := sole_of_refs (by decide) (by decide)
  have hgroups : filed.Sole ⟨.folder, 0⟩ .multiGeometry := sole_of_refs (by decide) (by decide)
  obtain ⟨-, -, -, -, -, hpoint⟩ :=
    duplicates_collect hopen hroot rfl .point fun _ => hplacemarks
  obtain ⟨holders, hholders, -, -, hgroup, -⟩ :=
    duplicates_collect hopen hroot rfl .multiGeometry fun _ => hplacemarks
  -- both folders are gone through, and the groups that they bear
  have hrefs : filed.refs = [⟨.folder, 0⟩, ⟨.folder, 1⟩, ⟨.multiGeometry, 2⟩, ⟨.placemark, 3⟩,
      ⟨.point, 4⟩, ⟨.multiGeometry, 5⟩] := by decide
  have hvisited : filed.visited ⟨.folder, 0⟩ = [⟨.folder, 0⟩, ⟨.folder, 1⟩] := by
    have h0 : filed.openFolders ⟨.folder, 0⟩ = [⟨.folder, 1⟩] := by decide
    have h1 : filed.openFolders ⟨.folder, 1⟩ = [] := by decide
    rw [visited_eq_map_reach hopen]
    simp [reach, Walk.breadthFirst, hrefs, h0, h1]
  have hmet : (filed.contributions .multiGeometry ⟨.folder, 0⟩ []
      [⟨.folder, 0⟩, ⟨.folder, 1⟩]).1 = [⟨.multiGeometry, 2⟩, ⟨.multiGeometry, 5⟩] := by
    have h0 : filed.seeds ⟨.folder, 0⟩ = [⟨.multiGeometry, 2⟩] := by decide
    have h1 : filed.seeds ⟨.folder, 1⟩ = [⟨.multiGeometry, 5⟩] := by decide
    have hlisted : filed.childrenOf ⟨.folder, 1⟩ .multiGeometry = [] := by decide
    have h2 : filed.openMembers ⟨.multiGeometry, 2⟩ = [⟨.point, 4⟩] := by decide
    have h4 : filed.openMembers ⟨.point, 4⟩ = [] := by decide
    have h5 : filed.openMembers ⟨.multiGeometry, 5⟩ = [] := by decide
    simp [contributions, unwrapFrom, Walk.depthFirst, Kind.isGeometry, hrefs, h0, h1, hlisted, h2,
      h4, h5]
  have hone : (filed.collect .multiGeometry (filed.childrenOf ⟨.folder, 0⟩ .multiGeometry)
      (some ⟨.folder, 0⟩)).tally.duplicates = 1 := by
    rw [tally_eq hopen, items_collect, hvisited, hmet]
    rfl
  refine ⟨hopen, hroot, hplacemarks, ⟨hpoints, (hpoint (by decide)).mpr hpoints⟩, hgroups, hone,
    holders, hholders, ?_⟩
  rw [← hgroup.mpr hgroups]
  exact hone

end Atlas

end Gazetteer
