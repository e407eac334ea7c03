import Gazetteer.Proofs.Collect

/-!
# Going through groups with a stack and by recursion

`Atlas.unwrapFrom` keeps the refs that are still to come on a stack. `Atlas.Traverses` is the same
traversal by recursion: a group is followed by all that its members lead to, from left to right,
before the refs after it have their turn, and only where the group is met first. The main statement
says that both come across the same refs in the same order, on any atlas and so with shared and
circular groups, and whatever groups have been entered before (`unwrapFrom_traverses`). The walk
ends after one step for each seed and each member of a group that is entered
(`Walk.exists_entered`).
-/

namespace Gazetteer

namespace Walk

variable {α : Type} [DecidableEq α]

theorem unseen_le_of_subset {space s t : List α} (h : s ⊆ t) :
    unseen space t ≤ unseen space s := by
  unfold unseen
  rw [← List.countP_eq_length_filter, ← List.countP_eq_length_filter]
  apply List.countP_mono_left
  intro x _ hx
  simp only [decide_eq_true_eq] at hx ⊢
  exact fun hs => hx (h hs)

/-- **What comes off the stack of a walk by depth**: what is on it from the start and what the
places that are newly entered lead to, nothing else and nothing twice. -/
theorem exists_entered (next : α → List α) (space seen stack : List α) :
    ∃ entered, (depthFirst next space seen stack).2 = entered ++ seen ∧ entered.Nodup ∧
      (∀ x ∈ entered, x ∈ space ∧ x ∉ seen) ∧
      (depthFirst next space seen stack).1.Perm (stack ++ entered.flatMap next) := by
  induction seen, stack using depthFirst.induct next space with
  | case1 seen =>
      refine ⟨[], ?_⟩
      simp
  | case2 seen x rest h _ _ _ ih =>
      obtain ⟨entered, hseen, hnodup, hnew, hperm⟩ := ih
      have hx : x ∉ entered := by
        intro hx
        exact (hnew x hx).2 List.mem_cons_self
      rw [depthFirst_enter h]
      refine ⟨entered ++ [x], by simp [hseen], ?_, ?_, ?_⟩
      · rw [List.nodup_append]
        grind
      · intro y hy
        rcases List.mem_append.mp hy with hy | hy
        · exact ⟨(hnew y hy).1, fun hn => (hnew y hy).2 (List.mem_cons_of_mem _ hn)⟩
        · rwa [List.mem_singleton.mp hy]
      · -- the successors of `x` have gone onto the stack in front of the rest
        rw [List.cons_append, List.flatMap_append, List.flatMap_singleton]
        apply List.Perm.cons
        apply hperm.trans
        rw [List.append_assoc, ← List.append_assoc rest]
        exact List.perm_append_comm
  | case3 seen x rest h _ _ _ ih =>
      obtain ⟨entered, hseen, hnodup, hnew, hperm⟩ := ih
      rw [depthFirst_pass h]
      exact ⟨entered, hseen, hnodup, hnew, hperm.cons x⟩

end Walk

theorem firstBy_id_filter {α : Type} [DecidableEq α] (p : α → Bool) (xs : List α) :
    firstBy id (xs.filter p) = (firstBy id xs).filter p := by
  induction xs with
  | nil => rfl
  | cons x xs ih =>
      by_cases hx : p x = true
      · rw [List.filter_cons_of_pos hx, firstBy, firstBy, List.filter_cons_of_pos hx, ih,
          List.filter_filter, List.filter_filter]
        simp only [Bool.and_comm]
      · rw [List.filter_cons_of_neg hx, firstBy, List.filter_cons_of_neg hx, ih, List.filter_filter]
        apply List.filter_congr
        intro y _
        -- what has the property is not the element that lacks it
        have hne : p y = true → y ≠ x := by
          rintro hy rfl
          exact hx hy
        by_cases hy : p y = true
        · simp [hy, hne hy]
        · simp [hy]

/-- To keep what is new means to erase what has been there before. -/
theorem firstBy_id_eq_eraseDups {α : Type} [DecidableEq α] :
    ∀ xs : List α, firstBy id xs = xs.eraseDups
  | [] => rfl
  | x :: xs => by
      have hlength : (xs.filter fun y => !y == x).length < xs.length + 1 :=
        Nat.lt_succ_of_le (List.length_filter_le ..)
      rw [List.eraseDups_cons, ← firstBy_id_eq_eraseDups, firstBy_id_filter, firstBy]
      congr 1
      apply List.filter_congr
      intro y _
      by_cases hy : y = x <;> simp [hy]
termination_by xs => xs.length

namespace Atlas

variable {a : Atlas} {x : Ref} {k : Kind} {seen seen' seeds out : List Ref}

/-! ## Groups -/

/-- Only groups of the atlas have members. -/
theorem openMembers_eq_nil (h : ¬(x.kind = .multiGeometry ∧ x ∈ a.refs)) :
    a.openMembers x = [] := by
  unfold openMembers members
  split
  · rfl
  · split
    · next d g hn => exact absurd ⟨(kind_of_node? hn).symm, mem_refs_iff.mpr ⟨_, hn⟩⟩ h
    · rfl

/-! ## The traversal by recursion -/

/-- The traversal of seeds by recursion, where `seen` are the groups that have been entered before:
the refs that it comes across, and the groups that have been entered in the end. -/
inductive Traverses (a : Atlas) : List Ref → List Ref → List Ref → List Ref → Prop
  | done (seen : List Ref) : Traverses a seen [] [] seen
  /-- Behind a geometry of another kind, or a group that has been entered, nothing follows. -/
  | pass {seen rest out seen' : List Ref} {x : Ref} (hx : x.kind = .multiGeometry → x ∈ seen)
      (after : Traverses a seen rest out seen') : Traverses a seen (x :: rest) (x :: out) seen'
  /-- Behind a group that is met first its members follow. -/
  | enter {seen seen₁ seen₂ rest inside out : List Ref} {x : Ref} (hx : x.kind = .multiGeometry)
      (hnew : x ∉ seen) (members : Traverses a (x :: seen) (a.openMembers x) inside seen₁)
      (after : Traverses a seen₁ rest out seen₂) :
      Traverses a seen (x :: rest) (x :: (inside ++ out)) seen₂

/-- The same groups of the atlas are among both. -/
def SameGroups (a : Atlas) (s t : List Ref) : Prop :=
  ∀ g ∈ a.refs, g.kind = .multiGeometry → (g ∈ s ↔ g ∈ t)

theorem SameGroups.cons {s t : List Ref} (h : a.SameGroups s t) (x : Ref) :
    a.SameGroups (x :: s) (x :: t) := by
  intro g hg hk
  rw [List.mem_cons, List.mem_cons, h g hg hk]

theorem SameGroups.cons_left {s t : List Ref} (h : a.SameGroups s t)
    (hx : ¬(x.kind = .multiGeometry ∧ x ∈ a.refs)) : a.SameGroups (x :: s) t := by
  intro g hg hk
  rw [List.mem_cons, h g hg hk]
  constructor
  · rintro (rfl | hs)
    · exact absurd ⟨hk, hg⟩ hx
    · exact hs
  · exact Or.inr

theorem SameGroups.symm {s t : List Ref} (h : a.SameGroups s t) : a.SameGroups t s :=
  fun g hg hk => (h g hg hk).symm

/-- A ref that has no group behind it comes off the stack, and that is all. -/
theorem unwrapFrom_pass {s rest : List Ref} (hs : a.SameGroups seen s)
    (hx : x.kind = .multiGeometry → x ∈ a.refs → x ∈ seen) :
    ∃ s', a.SameGroups seen s' ∧ a.unwrapFrom s (x :: rest) =
      (x :: (a.unwrapFrom s' rest).1, (a.unwrapFrom s' rest).2) := by
  unfold unwrapFrom
  by_cases h : x ∈ a.refs ∧ x ∉ s
  · -- the walk marks geometries of all kinds, which changes nothing for the others
    have hgroup : ¬(x.kind = .multiGeometry ∧ x ∈ a.refs) := by
      rintro ⟨hk, -⟩
      exact h.2 ((hs x h.1 hk).mp (hx hk h.1))
    refine ⟨x :: s, (hs.symm.cons_left hgroup).symm, ?_⟩
    rw [Walk.depthFirst_enter h, openMembers_eq_nil hgroup, List.nil_append]
  · exact ⟨s, hs, Walk.depthFirst_pass h⟩

/-- **The stack holds what the recursion still has to do.** -/
theorem Traverses.unwrapFrom_eq (h : a.Traverses seen seeds out seen') {s : List Ref}
    (hs : a.SameGroups seen s) :
    (a.unwrapFrom s seeds).1 = out ∧ a.SameGroups seen' (a.unwrapFrom s seeds).2 := by
  induction h generalizing s with
  | done seen =>
      rw [unwrapFrom, Walk.depthFirst_nil]
      exact ⟨rfl, hs⟩
  | pass hx _ ih =>
      obtain ⟨s', hs', hwalk⟩ := unwrapFrom_pass hs fun hk _ => hx hk
      obtain ⟨hout, hsame⟩ := ih hs'
      rw [hwalk, hout]
      exact ⟨rfl, hsame⟩
  | @enter seen seen₁ seen₂ rest inside out x hk hnew _ _ ihmembers ihafter =>
      by_cases hx : x ∈ a.refs
      · have hfresh : x ∈ a.refs ∧ x ∉ s := ⟨hx, fun hn => hnew ((hs x hx hk).mpr hn)⟩
        obtain ⟨hinside, hsame⟩ := ihmembers (hs.cons x)
        obtain ⟨hout, hsame'⟩ := ihafter hsame
        unfold unwrapFrom at hinside hout hsame' ⊢
        rw [Walk.depthFirst_enter hfresh, Walk.depthFirst_append, hinside, hout]
        exact ⟨rfl, hsame'⟩
      · -- a group that does not exist has no members
        have hgroup : ¬(x.kind = .multiGeometry ∧ x ∈ a.refs) := fun h => hx h.2
        have hpass : ¬(x ∈ a.refs ∧ x ∉ s) := fun h => hx h.1
        obtain ⟨hinside, hsame⟩ := ihmembers (hs.cons_left hgroup)
        rw [openMembers_eq_nil hgroup, unwrapFrom, Walk.depthFirst_nil] at hinside hsame
        obtain ⟨hout, hsame'⟩ := ihafter hsame
        unfold unwrapFrom at hout hsame' ⊢
        rw [Walk.depthFirst_pass hpass, hout, ← hinside]
        exact ⟨rfl, hsame'⟩

/-- The recursion ends, since each group that it enters is one less that has not been seen. -/
theorem exists_traverses (a : Atlas) (seen : List Ref) :
    ∀ seeds, ∃ out seen', seen ⊆ seen' ∧ a.Traverses seen seeds out seen'
  | [] => ⟨[], seen, List.Subset.refl _, .done seen⟩
  | x :: rest => by
      by_cases hx : x.kind = .multiGeometry ∧ x ∉ seen
      · have hle : Walk.unseen a.refs (x :: seen) ≤ Walk.unseen a.refs seen :=
          Walk.unseen_le_of_subset (List.subset_cons_self x seen)
        by_cases hrefs : x ∈ a.refs
        · have hlt := Walk.unseen_cons_lt hrefs hx.2
          obtain ⟨inside, seen₁, hsub₁, hinside⟩ :=
            exists_traverses a (x :: seen) (a.openMembers x)
          have hlt₁ := Nat.lt_of_le_of_lt (Walk.unseen_le_of_subset hsub₁) hlt
          obtain ⟨out, seen₂, hsub₂, hout⟩ := exists_traverses a seen₁ rest
          refine ⟨_, seen₂, ?_, .enter hx.1 hx.2 hinside hout⟩
          exact fun y hy => hsub₂ (hsub₁ (List.mem_cons_of_mem x hy))
        · obtain ⟨out, seen₂, hsub₂, hout⟩ := exists_traverses a (x :: seen) rest
          have hnone : a.Traverses (x :: seen) (a.openMembers x) [] (x :: seen) := by
            rw [openMembers_eq_nil fun h => hrefs h.2]
            exact .done _
          refine ⟨_, seen₂, ?_, .enter hx.1 hx.2 hnone hout⟩
          exact fun y hy => hsub₂ (List.mem_cons_of_mem x hy)
      · obtain ⟨out, seen', hsub, hout⟩ := exists_traverses a seen rest
        refine ⟨x :: out, seen', hsub, .pass ?_ hout⟩
        intro hk
        exact Decidable.byContradiction fun hn => hx ⟨hk, hn⟩
termination_by seeds => (Walk.unseen a.refs seen, seeds.length)
decreasing_by
  · exact Prod.Lex.left _ _ hlt
  · exact Prod.Lex.left _ _ hlt₁
  · exact Prod.Lex.right' _ hle (Nat.lt_succ_self _)
  · exact Prod.Lex.right _ (Nat.lt_succ_self _)

/-- **The walk with a stack is the traversal by recursion.** The recursion ends and comes across one
list of refs, whatever groups have been entered before; the walk comes across the same list, after
one step for each seed and for each member of a group that it enters, no group twice. What both
find of a kind, on top of what has been found `before`, is this list without its repeats. -/
theorem unwrapFrom_traverses (a : Atlas) (seen seeds : List Ref) :
    ∃ out, (∀ out', (∃ seen', a.Traverses seen seeds out' seen') ↔ out' = out) ∧
      (a.unwrapFrom seen seeds).1 = out ∧
      (∃ entered : List Ref, entered.Nodup ∧ (∀ g ∈ entered, g ∈ a.refs ∧ g ∉ seen) ∧
        out.Perm (seeds ++ entered.flatMap a.openMembers)) ∧
      (∀ k before, firstBy id (before ++ (a.unwrapFrom seen seeds).1.filter (·.kind = k)) =
        (before ++ out.filter (·.kind = k)).eraseDups) ∧
      ∀ k, seen = [] → a.unwrap k seeds = (out.filter (·.kind = k)).eraseDups := by
  obtain ⟨out, seen', -, hout⟩ := exists_traverses a seen seeds
  have hself : a.SameGroups seen seen := fun _ _ _ => Iff.rfl
  have hwalk : (a.unwrapFrom seen seeds).1 = out := (hout.unwrapFrom_eq hself).1
  obtain ⟨entered, -, hnodup, hnew, hperm⟩ :=
    Walk.exists_entered a.openMembers a.refs seen seeds
  refine ⟨out, ?_, hwalk, ⟨entered, hnodup, hnew, ?_⟩, ?_, ?_⟩
  · intro out'
    constructor
    · rintro ⟨seen'', hout'⟩
      exact (hout'.unwrapFrom_eq hself).1.symm.trans hwalk
    · rintro rfl
      exact ⟨seen', hout⟩
  · rw [← hwalk]
    exact hperm
  · intro k before
    rw [hwalk, firstBy_id_eq_eraseDups]
  · rintro k rfl
    rw [unwrap, hwalk, firstBy_id_eq_eraseDups]

/-- Two groups that are members of each other and share a point; the first has the second as its
member twice. -/
def entwined : Atlas where
  nodes := #[
    some ⟨{}, .multiGeometry ⟨[⟨.multiGeometry, 1⟩, ⟨.point, 2⟩, ⟨.multiGeometry, 1⟩]⟩⟩,
    some ⟨{}, .multiGeometry ⟨[⟨.multiGeometry, 0⟩, ⟨.point, 2⟩, ⟨.point, 3⟩]⟩⟩,
    some ⟨{}, .point {}⟩,
    some ⟨{}, .point {}⟩]

theorem unwrapFrom_traverses_entwined :
    entwined.Traverses [] [⟨.multiGeometry, 0⟩]
      [⟨.multiGeometry, 0⟩, ⟨.multiGeometry, 1⟩, ⟨.multiGeometry, 0⟩, ⟨.point, 2⟩, ⟨.point, 3⟩,
        ⟨.point, 2⟩, ⟨.multiGeometry, 1⟩] [⟨.multiGeometry, 1⟩, ⟨.multiGeometry, 0⟩] ∧
    entwined.unwrap .point [⟨.multiGeometry, 0⟩] = [⟨.point, 2⟩, ⟨.point, 3⟩] ∧
    (entwined.unwrapFrom [⟨.multiGeometry, 1⟩] [⟨.multiGeometry, 0⟩]).1 =
      [⟨.multiGeometry, 0⟩, ⟨.multiGeometry, 1⟩, ⟨.point, 2⟩, ⟨.multiGeometry, 1⟩] := by
  have hpoint {n : Nat} {seen rest out seen' : List Ref}
      (h : entwined.Traverses seen rest out seen') :
      entwined.Traverses seen (⟨.point, n⟩ :: rest) (⟨.point, n⟩ :: out) seen' :=
    .pass nofun h
  -- the members of the second group, which the first one contains and is contained in
  have hsecond : entwined.Traverses [⟨.multiGeometry, 1⟩, ⟨.multiGeometry, 0⟩]
      (entwined.openMembers ⟨.multiGeometry, 1⟩)
      [⟨.multiGeometry, 0⟩, ⟨.point, 2⟩, ⟨.point, 3⟩]
      [⟨.multiGeometry, 1⟩, ⟨.multiGeometry, 0⟩] :=
    .pass (by decide) (hpoint (hpoint (.done _)))
  have hagain : entwined.Traverses [⟨.multiGeometry, 1⟩, ⟨.multiGeometry, 0⟩]
      [⟨.point, 2⟩, ⟨.multiGeometry, 1⟩] [⟨.point, 2⟩, ⟨.multiGeometry, 1⟩]
      [⟨.multiGeometry, 1⟩, ⟨.multiGeometry, 0⟩] :=
    hpoint (.pass (by decide) (.done _))
  have hfirst : entwined.Traverses [⟨.multiGeometry, 0⟩]
      (entwined.openMembers ⟨.multiGeometry, 0⟩) _ _ :=
    .enter rfl (by decide) hsecond hagain
  have hall := Traverses.enter (x := ⟨.multiGeometry, 0⟩) rfl List.not_mem_nil hfirst (.done _)
  -- where the second group has been entered before, its members do not come again
  have hshort : entwined.Traverses [⟨.multiGeometry, 0⟩, ⟨.multiGeometry, 1⟩]
      (entwined.openMembers ⟨.multiGeometry, 0⟩)
      [⟨.multiGeometry, 1⟩, ⟨.point, 2⟩, ⟨.multiGeometry, 1⟩]
      [⟨.multiGeometry, 0⟩, ⟨.multiGeometry, 1⟩] :=
    .pass (by decide) (hpoint (.pass (by decide) (.done _)))
  have hrest := Traverses.enter (x := ⟨.multiGeometry, 0⟩) rfl (by decide) hshort (.done _)
  obtain ⟨out, hunique, -, -, -, hunwrap⟩ :=
    unwrapFrom_traverses entwined [] [⟨.multiGeometry, 0⟩]
  obtain ⟨out', hunique', hwalk', -⟩ :=
    unwrapFrom_traverses entwined [⟨.multiGeometry, 1⟩] [⟨.multiGeometry, 0⟩]
  refine ⟨hall, ?_, ?_⟩
  · rw [hunwrap .point rfl, ← (hunique _).mp ⟨_, hall⟩]
    decide
  · rw [hwalk', ← (hunique' _).mp ⟨_, hrest⟩]
    rfl

end Atlas

end Gazetteer
