import Gazetteer.Proofs.Walk
import Mathlib.Order.Bounds.Basic

/-!
# How far a walk by breadth has come

A walk by breadth reports each place that it enters with a depth. That depth is the length of the
shortest path to the place (`Walk.distance_of_mem_breadthFirst`), also where long and short paths
lead to it. What carries the proof is the state of the queue (`Walk.Frontier`): its depths ascend
and differ by no more than one, and all that entered places lead to is entered or waits there no
deeper than one step further.
-/

namespace Gazetteer

open Relation

namespace Walk

variable {α : Type} {next : α → List α} {space : List α} {root x y : α} {n : Nat}

/-- One place is so many steps away from another on some path. -/
inductive Steps (next : α → List α) (x : α) : Nat → α → Prop
  | start : Steps next x 0 x
  | step {n : Nat} {y z : α} (path : Steps next x n y) (last : Leads next y z) :
      Steps next x (n + 1) z

/-- How far one place is from another: the length of a shortest path. -/
def Distance (next : α → List α) (x y : α) (n : Nat) : Prop := IsLeast {n | Steps next x n y} n

/-- The state of a walk by breadth from `root`: the places entered, and those that wait. -/
structure Frontier (next : α → List α) (space : List α) (root : α) (entered queue : List (α × Nat)) :
    Prop where
  steps : ∀ p ∈ queue, Steps next root p.2 p.1
  start : root ∈ space → (root, 0) ∈ entered ∨ (root, 0) ∈ queue
  /-- What an entered place leads to is entered or waits, no deeper than one step further. -/
  closed : ∀ p ∈ entered, ∀ y ∈ space, Leads next p.1 y →
    ∃ d ≤ p.2 + 1, (y, d) ∈ entered ∨ (y, d) ∈ queue
  /-- The next in the queue are the ones that wait closest. -/
  ascending : queue.Pairwise fun p q => p.2 ≤ q.2
  close : ∀ p ∈ queue, ∀ q ∈ queue, q.2 ≤ p.2 + 1
  /-- No place waits closer than one that has been entered. -/
  behind : ∀ p ∈ entered, ∀ q ∈ queue, p.2 ≤ q.2

namespace Frontier

variable {entered queue rest : List (α × Nat)} {depth : Nat}

theorem initial (next : α → List α) (space : List α) (root : α) :
    Frontier next space root [] [(root, 0)] where
  steps p hp := by
    rw [List.mem_singleton.mp hp]
    exact .start
  start _ := Or.inr List.mem_cons_self
  closed := nofun
  ascending := List.pairwise_singleton _ _
  close p hp q hq := by
    rw [List.mem_singleton.mp hp, List.mem_singleton.mp hq]
    exact Nat.zero_le _
  behind := nofun

/-- A place that has been entered is dropped from the queue. -/
theorem pass (h : Frontier next space root entered ((x, depth) :: rest))
    (hx : x ∈ space → x ∈ entered.map (·.1)) : Frontier next space root entered rest where
  steps p hp := h.steps p (List.mem_cons_of_mem _ hp)
  start hroot := by
    rcases h.start hroot with hs | hs
    · exact Or.inl hs
    · rcases List.mem_cons.mp hs with heq | hs
      · -- the root itself has been entered, and that was at depth zero
        obtain ⟨rfl, rfl⟩ := Prod.mk.inj heq
        obtain ⟨⟨_, d⟩, hp, rfl⟩ := List.mem_map.mp (hx hroot)
        have hd : d ≤ 0 := h.behind _ hp _ List.mem_cons_self
        obtain rfl := Nat.le_zero.mp hd
        exact Or.inl hp
      · exact Or.inr hs
  closed p hp y hy hleads := by
    obtain ⟨d, hd, hs | hs⟩ := h.closed p hp y hy hleads
    · exact ⟨d, hd, Or.inl hs⟩
    · rcases List.mem_cons.mp hs with heq | hs
      · obtain ⟨rfl, rfl⟩ := Prod.mk.inj heq
        obtain ⟨⟨_, e⟩, hq, rfl⟩ := List.mem_map.mp (hx hy)
        exact ⟨e, Nat.le_trans (h.behind _ hq _ List.mem_cons_self) hd, Or.inl hq⟩
      · exact ⟨d, hd, Or.inr hs⟩
  ascending := (List.pairwise_cons.mp h.ascending).2
  close p hp q hq := h.close p (List.mem_cons_of_mem _ hp) q (List.mem_cons_of_mem _ hq)
  behind p hp q hq := h.behind p hp q (List.mem_cons_of_mem _ hq)

/-- The next place of the queue is entered, and what it leads to is put to the end. -/
theorem enter (h : Frontier next space root entered ((x, depth) :: rest)) :
    Frontier next space root ((x, depth) :: entered)
      (rest ++ (next x).map fun y => (y, depth + 1)) := by
  obtain ⟨hleast, hascending⟩ := List.pairwise_cons.mp h.ascending
  have hnear : ∀ q ∈ rest, q.2 ≤ depth + 1 := by
    intro q hq
    exact h.close _ List.mem_cons_self q (List.mem_cons_of_mem _ hq)
  -- all that waits now is as deep as the place that is entered, or one step deeper
  have hbounds : ∀ q ∈ rest ++ (next x).map (fun y => (y, depth + 1)),
      depth ≤ q.2 ∧ q.2 ≤ depth + 1 := by
    intro q hq
    rcases List.mem_append.mp hq with hq | hq
    · exact ⟨hleast q hq, hnear q hq⟩
    · obtain ⟨y, -, rfl⟩ := List.mem_map.mp hq
      exact ⟨Nat.le_succ _, Nat.le_refl _⟩
  constructor
  · intro p hp
    rcases List.mem_append.mp hp with hp | hp
    · exact h.steps p (List.mem_cons_of_mem _ hp)
    · obtain ⟨y, hy, rfl⟩ := List.mem_map.mp hp
      exact .step (h.steps _ List.mem_cons_self) hy
  · intro hroot
    grind [h.start hroot]
  · intro p hp y hy hleads
    rcases List.mem_cons.mp hp with rfl | hp
    · refine ⟨depth + 1, Nat.le_refl _, Or.inr (List.mem_append_right _ ?_)⟩
      exact List.mem_map.mpr ⟨y, hleads, rfl⟩
    · obtain ⟨d, hd, hs⟩ := h.closed p hp y hy hleads
      refine ⟨d, hd, ?_⟩
      grind
  · rw [List.pairwise_append]
    refine ⟨hascending, ?_, ?_⟩
    · rw [List.pairwise_map]
      exact List.pairwise_of_forall fun _ _ => Nat.le_refl _
    · intro p hp q hq
      obtain ⟨y, -, rfl⟩ := List.mem_map.mp hq
      exact hnear p hp
  · intro p hp q hq
    exact Nat.le_trans (hbounds q hq).2 (Nat.succ_le_succ (hbounds p hp).1)
  · intro p hp q hq
    refine Nat.le_trans ?_ (hbounds q hq).1
    rcases List.mem_cons.mp hp with rfl | hp
    · exact Nat.le_refl _
    · exact h.behind p hp _ List.mem_cons_self

/-- A place has been entered within the length of any path to it, or something still waits that is
no further away than that. -/
theorem entered_or_waits (h : Frontier next space root entered queue)
    (hspace : ∀ x y, Leads next x y → x ∈ space) (hpath : Steps next root n y) (hy : y ∈ space) :
    (∃ d ≤ n, (y, d) ∈ entered) ∨ ∃ p ∈ queue, p.2 ≤ n := by
  induction hpath with
  | start =>
      rcases h.start hy with hs | hs
      · exact Or.inl ⟨0, Nat.le_refl 0, hs⟩
      · exact Or.inr ⟨_, hs, Nat.le_refl 0⟩
  | @step n y z _ hlast ih =>
      rcases ih (hspace y z hlast) with ⟨d, hd, hs⟩ | ⟨p, hp, hd⟩
      · obtain ⟨e, he, hs | hs⟩ := h.closed _ hs z hy hlast
        · exact Or.inl ⟨e, Nat.le_trans he (Nat.succ_le_succ hd), hs⟩
        · exact Or.inr ⟨_, hs, Nat.le_trans he (Nat.succ_le_succ hd)⟩
      · exact Or.inr ⟨p, hp, Nat.le_succ_of_le hd⟩

/-- So a place that is entered next is entered at its distance. -/
theorem distance (h : Frontier next space root entered ((x, depth) :: rest))
    (hspace : ∀ x y, Leads next x y → x ∈ space) (hx : x ∈ space)
    (hnew : x ∉ entered.map (·.1)) : Distance next root x depth := by
  refine ⟨h.steps _ List.mem_cons_self, ?_⟩
  intro n hpath
  rcases h.entered_or_waits hspace hpath hx with ⟨d, -, hs⟩ | ⟨p, hp, hd⟩
  · exact absurd (List.mem_map.mpr ⟨_, hs, rfl⟩) hnew
  · rcases List.mem_cons.mp hp with rfl | hp
    · exact hd
    · exact Nat.le_trans ((List.pairwise_cons.mp h.ascending).1 p hp) hd

end Frontier

variable [DecidableEq α]

theorem distance_of_frontier (hspace : ∀ x y, Leads next x y → x ∈ space) {seen : List α}
    {queue entered : List (α × Nat)} (h : Frontier next space root entered queue)
    (hseen : entered.map (·.1) = seen) :
    ∀ p ∈ breadthFirst next space seen queue, Distance next root p.1 p.2 := by
  induction seen, queue using breadthFirst.induct next space generalizing entered with
  | case1 seen =>
      intro p hp
      rw [breadthFirst] at hp
      cases hp
  | case2 seen x depth rest hx ih =>
      rw [breadthFirst, if_pos hx]
      subst hseen
      intro p hp
      rcases List.mem_cons.mp hp with rfl | hp
      · exact h.distance hspace hx.1 hx.2
      · exact ih h.enter rfl p hp
  | case3 seen x depth rest hx ih =>
      rw [breadthFirst, if_neg hx]
      refine ih (h.pass fun hs => ?_) hseen
      rw [hseen]
      exact Decidable.byContradiction fun hn => hx ⟨hs, hn⟩

/-- **The depth at which a place is entered is its distance from the start.** -/
theorem distance_of_mem_breadthFirst (hspace : ∀ x y, Leads next x y → x ∈ space) (root : α) :
    ∀ p ∈ breadthFirst next space [] [(root, 0)], Distance next root p.1 p.2 :=
  distance_of_frontier hspace (.initial next space root) rfl

/-- No place is entered twice. -/
theorem nodup_entered (seen : List α) (queue : List (α × Nat)) :
    (entered next space seen queue).Nodup := by
  induction seen, queue using breadthFirst.induct next space with
  | case1 seen => simp
  | case2 seen x depth rest hx ih =>
      rw [entered_enter hx]
      refine List.nodup_cons.mpr ⟨?_, ih⟩
      intro hmem
      exact (mem_space_of_mem_entered hmem).2 List.mem_cons_self
  | case3 seen x depth rest hx ih =>
      rw [entered_pass hx]
      exact ih

end Walk

end Gazetteer
