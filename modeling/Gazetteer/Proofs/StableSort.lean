import Mathlib.Data.List.Basic

/-!
# Stable sorting

`sortedBy` sorts a list by a comparison and leaves equal elements in their order. Both together
determine the result (`eq_of_pairwise_of_alike`). It follows that sorting by one comparison and then
by another is sorting by both at once, the last one counting most (`sortedBy_sortedBy`), and that a
filter may come before or after (`filter_sortedBy`).
-/

namespace Gazetteer

open Std

variable {α : Type} {cmp cmp₁ cmp₂ : α → α → Ordering}

/-- The elements in ascending order; equal ones keep their order. -/
def sortedBy (cmp : α → α → Ordering) (l : List α) : List α :=
  l.mergeSort fun x y => cmp x y != .gt

/-- The elements that are equal to one. -/
def alike (cmp : α → α → Ordering) (x : α) (l : List α) : List α :=
  l.filter fun y => (cmp x y).isEq

theorem mem_alike_iff {x y : α} {l : List α} : y ∈ alike cmp x l ↔ y ∈ l ∧ cmp x y = .eq := by
  simp [alike]

theorem alike_cons_of_eq {x y : α} (h : cmp x y = .eq) (l : List α) :
    alike cmp x (y :: l) = y :: alike cmp x l :=
  List.filter_cons_of_pos (by simp [h])

theorem alike_compareLex (x : α) (l : List α) :
    alike (compareLex cmp₁ cmp₂) x l = alike cmp₂ x (alike cmp₁ x l) := by
  rw [alike, alike, alike, List.filter_filter]
  refine List.filter_congr fun y _ => ?_
  unfold compareLex
  cases cmp₁ x y <;> cases cmp₂ x y <;> rfl

theorem alike_comm (x : α) (l : List α) :
    alike cmp₁ x (alike cmp₂ x l) = alike cmp₂ x (alike cmp₁ x l) :=
  List.filter_comm _ _ l

theorem sortedBy_perm (cmp : α → α → Ordering) (l : List α) : (sortedBy cmp l).Perm l :=
  List.mergeSort_perm l _

section Laws

variable [TransCmp cmp]

theorem ascending_trans (x y z : α) (hxy : (cmp x y != .gt) = true)
    (hyz : (cmp y z != .gt) = true) : (cmp x z != .gt) = true := by
  have hle : ∀ {o : Ordering}, o.isLE ↔ (o != .gt) = true := by decide
  exact hle.mp (TransCmp.isLE_trans (hle.mpr hxy) (hle.mpr hyz))

theorem ascending_total (x y : α) : (cmp x y != .gt || cmp y x != .gt) = true := by
  have hswap : cmp y x = (cmp x y).swap := OrientedCmp.eq_swap
  rw [hswap]
  cases cmp x y <;> rfl

/-- The result is in order. -/
theorem pairwise_sortedBy (l : List α) : (sortedBy cmp l).Pairwise fun x y => cmp x y ≠ .gt := by
  have hsorted : (sortedBy cmp l).Pairwise fun x y => (cmp x y != .gt) = true :=
    List.pairwise_mergeSort ascending_trans ascending_total l
  exact hsorted.imp fun h => by simpa using h

/-- Equal elements keep their order. -/
theorem alike_sortedBy (x : α) (l : List α) : alike cmp x (sortedBy cmp l) = alike cmp x l := by
  have hclass : (alike cmp x l).Pairwise fun y z => (cmp y z != .gt) = true := by
    refine List.pairwise_of_forall_mem_list fun y hy z hz => ?_
    have hyz := TransCmp.eq_trans (OrientedCmp.eq_symm (mem_alike_iff.mp hy).2)
      (mem_alike_iff.mp hz).2
    simp [hyz]
  -- the class is in order already, so that it is found again in the result, and nothing is added
  have hsub : (alike cmp x l).Sublist (sortedBy cmp l) :=
    List.sublist_mergeSort ascending_trans ascending_total hclass List.filter_sublist
  have hclassed : (alike cmp x (alike cmp x l)).Sublist (alike cmp x (sortedBy cmp l)) :=
    hsub.filter _
  have hidem : alike cmp x (alike cmp x l) = alike cmp x l :=
    List.filter_eq_self.mpr fun y hy => (List.mem_filter.mp hy).2
  rw [hidem] at hclassed
  exact (hclassed.eq_of_length ((sortedBy_perm cmp l).filter _).length_eq.symm).symm

theorem mem_of_alike {l₁ l₂ : List α} (h : ∀ x, alike cmp x l₁ = alike cmp x l₂) {x : α}
    (hx : x ∈ l₁) : x ∈ l₂ := by
  have hself : x ∈ alike cmp x l₁ := mem_alike_iff.mpr ⟨hx, ReflCmp.compare_self⟩
  exact (mem_alike_iff.mp (h x ▸ hself)).1

/-- A list is determined by its order and by the order among equal elements. -/
theorem eq_of_pairwise_of_alike {l₁ l₂ : List α} (h₁ : l₁.Pairwise fun x y => cmp x y ≠ .gt)
    (h₂ : l₂.Pairwise fun x y => cmp x y ≠ .gt) (h : ∀ x, alike cmp x l₁ = alike cmp x l₂) :
    l₁ = l₂ := by
  induction l₁ generalizing l₂ with
  | nil =>
      refine (List.eq_nil_iff_forall_not_mem.mpr fun x hx => ?_).symm
      exact absurd (mem_of_alike (fun z => (h z).symm) hx) List.not_mem_nil
  | cons x xs ih =>
      have hxmem := mem_of_alike h List.mem_cons_self
      cases l₂ with
      | nil => exact absurd hxmem List.not_mem_nil
      | cons y ys =>
          have hymem := mem_of_alike (fun z => (h z).symm) (List.mem_cons_self (a := y) (l := ys))
          obtain ⟨hx, hxs⟩ := List.pairwise_cons.mp h₁
          obtain ⟨hy, hys⟩ := List.pairwise_cons.mp h₂
          -- each first element stands in the other list, so that neither comes before the other
          have hxy : cmp x y = .eq := by
            rcases List.mem_cons.mp hymem with rfl | hyxs
            · exact ReflCmp.compare_self
            · rcases List.mem_cons.mp hxmem with rfl | hxys
              · exact ReflCmp.compare_self
              · have hle := hx y hyxs
                have hge := hy x hxys
                cases ho : cmp x y with
                | lt => exact absurd (OrientedCmp.gt_of_lt ho) hge
                | eq => rfl
                | gt => exact absurd ho hle
          have hfirst := h x
          rw [alike_cons_of_eq ReflCmp.compare_self, alike_cons_of_eq hxy] at hfirst
          obtain rfl := (List.cons.inj hfirst).1
          refine congrArg (x :: ·) (ih hxs hys fun z => ?_)
          have hz := h z
          simp only [alike, List.filter_cons] at hz ⊢
          split at hz
          · exact (List.cons.inj hz).2
          · exact hz

/-- To leave out elements before or after sorting is the same. -/
theorem filter_sortedBy (p : α → Bool) (l : List α) :
    (sortedBy cmp l).filter p = sortedBy cmp (l.filter p) := by
  apply eq_of_pairwise_of_alike ((pairwise_sortedBy l).filter p) (pairwise_sortedBy _)
  intro x
  calc alike cmp x ((sortedBy cmp l).filter p)
      = (alike cmp x (sortedBy cmp l)).filter p := List.filter_comm _ _ _
    _ = (alike cmp x l).filter p := by rw [alike_sortedBy]
    _ = alike cmp x (l.filter p) := List.filter_comm _ _ _
    _ = alike cmp x (sortedBy cmp (l.filter p)) := by rw [alike_sortedBy]

end Laws

/-! ## One sort after another -/

variable [TransCmp cmp₁]

theorem pairwise_sortedBy_of_pairwise {l : List α} (h : l.Pairwise fun x y => cmp₂ x y ≠ .gt) :
    (sortedBy cmp₁ l).Pairwise fun x y => compareLex cmp₁ cmp₂ x y ≠ .gt := by
  rw [List.pairwise_iff_forall_sublist]
  intro x y hxy
  have hfirst : cmp₁ x y ≠ .gt := List.pairwise_iff_forall_sublist.mp (pairwise_sortedBy l) hxy
  unfold compareLex
  cases ho : cmp₁ x y with
  | lt => exact nofun
  | gt => exact absurd ho hfirst
  | eq =>
      -- the two stood in this order before, since they are equal by the first comparison
      have hpair : alike cmp₁ x [x, y] = [x, y] := by
        rw [alike_cons_of_eq ReflCmp.compare_self, alike_cons_of_eq ho]
        rfl
      have hsub : ([x, y]).Sublist (alike cmp₁ x l) := by
        rw [← hpair, ← alike_sortedBy x l]
        exact hxy.filter _
      exact List.pairwise_iff_forall_sublist.mp h (hsub.trans List.filter_sublist)

/-- Sorting by one comparison after another is sorting by both, the last one counting most. -/
theorem sortedBy_sortedBy [TransCmp cmp₂] (l : List α) :
    sortedBy cmp₁ (sortedBy cmp₂ l) = sortedBy (compareLex cmp₁ cmp₂) l := by
  refine eq_of_pairwise_of_alike (pairwise_sortedBy_of_pairwise (pairwise_sortedBy l))
    (pairwise_sortedBy l) fun x => ?_
  calc alike (compareLex cmp₁ cmp₂) x (sortedBy cmp₁ (sortedBy cmp₂ l))
      = alike cmp₂ x (alike cmp₁ x (sortedBy cmp₂ l)) := by rw [alike_compareLex, alike_sortedBy]
    _ = alike cmp₁ x (alike cmp₂ x l) := by rw [alike_comm, alike_sortedBy]
    _ = alike (compareLex cmp₁ cmp₂) x l := by rw [alike_comm, alike_compareLex]
    _ = alike (compareLex cmp₁ cmp₂) x (sortedBy (compareLex cmp₁ cmp₂) l) := by
      rw [alike_sortedBy]

end Gazetteer
