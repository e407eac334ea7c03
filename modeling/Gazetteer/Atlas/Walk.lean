/-!
# Walks through a graph

`depthFirst` and `breadthFirst` follow a successor function from given starts through a finite
space of places. What has been seen is not entered again, so both end on every graph; they differ in which
of the pending places comes next, and in that the walk by depth also reports places met before.
`firstBy` drops repeats.
-/

namespace Gazetteer

/-- The elements whose key no earlier element has. -/
def firstBy [DecidableEq κ] (key : α → κ) : List α → List α
  | [] => []
  | x :: xs => x :: (firstBy key xs).filter (key · ≠ key x)

namespace Walk

variable {α : Type} [DecidableEq α]

/-- How much of the space has not been seen. -/
def unseen (space seen : List α) : Nat := (space.filter (· ∉ seen)).length

theorem unseen_cons_lt {space seen : List α} {x : α} (hx : x ∈ space) (hs : x ∉ seen) :
    unseen space (x :: seen) < unseen space seen := by
  unfold unseen
  induction space with
  | nil => cases hx
  | cons y ys ih =>
    have hle : (ys.filter (· ∉ x :: seen)).length ≤ (ys.filter (· ∉ seen)).length := by
      have : ys.filter (· ∉ x :: seen) = (ys.filter (· ∉ seen)).filter (· ≠ x) := by
        rw [List.filter_filter]
        exact List.filter_congr (by simp)
      rw [this]
      exact List.length_filter_le ..
    by_cases hy : y = x
    · subst hy
      simp only [List.filter_cons, List.mem_cons, true_or, not_true_eq_false, decide_false, hs,
        not_false_eq_true, decide_true, if_true, List.length_cons]
      simp only [List.mem_cons] at hle
      exact Nat.lt_succ_of_le (by simpa using hle)
    · have hxs : x ∈ ys := (List.mem_cons.1 hx).resolve_left fun h => hy h.symm
      have := ih hxs
      by_cases hys : y ∈ seen
      · simpa [List.filter_cons, hy, hys] using this
      · simpa [List.filter_cons, hy, hys] using this

/-- The walk by depth from a stack of pending places, the next one in front: every place that comes
off the stack, and what has been seen in the end. The successors of a place that is entered go onto
the stack in their order. -/
def depthFirst (next : α → List α) (space : List α) (seen : List α) :
    List α → List α × List α
  | [] => ([], seen)
  | x :: rest =>
    if x ∈ space ∧ x ∉ seen then
      let (out, seen) := depthFirst next space (x :: seen) (next x ++ rest)
      (x :: out, seen)
    else
      let (out, seen) := depthFirst next space seen rest
      (x :: out, seen)
termination_by stack => (unseen space seen, stack.length)
decreasing_by
  · exact Prod.Lex.left _ _ (unseen_cons_lt (by simp_all) (by simp_all))
  · exact Prod.Lex.right _ (by simp)

/-- The walk by breadth from a queue of pending places with their depths: every place that is
entered, with the depth at which that happens. -/
def breadthFirst (next : α → List α) (space : List α) (seen : List α) :
    List (α × Nat) → List (α × Nat)
  | [] => []
  | (x, depth) :: rest =>
    if x ∈ space ∧ x ∉ seen then
      (x, depth) ::
        breadthFirst next space (x :: seen) (rest ++ (next x).map fun y => (y, depth + 1))
    else breadthFirst next space seen rest
termination_by queue => (unseen space seen, queue.length)
decreasing_by
  · exact Prod.Lex.left _ _ (unseen_cons_lt (by simp_all) (by simp_all))
  · exact Prod.Lex.right _ (by simp)

end Walk

end Gazetteer
