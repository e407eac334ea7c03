import Gazetteer.Atlas.Walk
import Mathlib.Logic.Relation

/-!
# What walks come across

A walk that starts with nothing seen comes across exactly what the successor function leads to from
its starts (`mem_depthFirst_iff`, `mem_entered_iff`), whatever circles the graph has. A walk by
depth can be cut wherever its stack can (`depthFirst_append`), so that several walks that hand on
what they have seen are one. The last section is about dropping repeats.
-/

namespace Gazetteer

open Relation

namespace Walk

variable {α : Type} [DecidableEq α] {next : α → List α} {space : List α}

/-- `x` leads to `y` in one step of a walk. -/
def Leads (next : α → List α) (x y : α) : Prop := y ∈ next x

/-! ## The walk by depth -/

@[simp] theorem depthFirst_nil (seen : List α) : depthFirst next space seen [] = ([], seen) := by
  rw [depthFirst]

theorem depthFirst_enter {seen rest : List α} {x : α} (h : x ∈ space ∧ x ∉ seen) :
    depthFirst next space seen (x :: rest) =
      (x :: (depthFirst next space (x :: seen) (next x ++ rest)).1,
        (depthFirst next space (x :: seen) (next x ++ rest)).2) := by
  rw [depthFirst, if_pos h]

theorem depthFirst_pass {seen rest : List α} {x : α} (h : ¬(x ∈ space ∧ x ∉ seen)) :
    depthFirst next space seen (x :: rest) =
      (x :: (depthFirst next space seen rest).1, (depthFirst next space seen rest).2) := by
  rw [depthFirst, if_neg h]

/-- The walk from one stack on top of another is the walk from the first, followed by the walk from
the second that knows what the first has seen. -/
theorem depthFirst_append (next : α → List α) (space seen s t : List α) :
    depthFirst next space seen (s ++ t) =
      ((depthFirst next space seen s).1 ++
          (depthFirst next space (depthFirst next space seen s).2 t).1,
        (depthFirst next space (depthFirst next space seen s).2 t).2) := by
  induction seen, s using depthFirst.induct next space with
  | case1 seen => simp
  | case2 seen x rest h _ _ _ ih =>
      rw [List.cons_append, depthFirst_enter h, depthFirst_enter h, ← List.append_assoc, ih]
      rfl
  | case3 seen x rest h _ _ _ ih =>
      rw [List.cons_append, depthFirst_pass h, depthFirst_pass h, ih]
      rfl

/-- A walk depends only on the places that it can come to. -/
theorem depthFirst_congr {next' : α → List α} {space' : List α} (inside : α → Prop)
    (hspace : ∀ x, inside x → (x ∈ space' ↔ x ∈ space)) (hnext : ∀ x, inside x → next' x = next x)
    (hinside : ∀ x, inside x → ∀ y ∈ next x, inside y) {seen stack : List α}
    (hstack : ∀ x ∈ stack, inside x) :
    depthFirst next' space' seen stack = depthFirst next space seen stack := by
  induction seen, stack using depthFirst.induct next space with
  | case1 seen => rw [depthFirst_nil, depthFirst_nil]
  | case2 seen x rest h _ _ _ ih =>
      obtain ⟨hx, hrest⟩ := List.forall_mem_cons.mp hstack
      have h' : x ∈ space' ∧ x ∉ seen := ⟨(hspace x hx).mpr h.1, h.2⟩
      rw [depthFirst_enter h, depthFirst_enter h', hnext x hx, ih]
      exact List.forall_mem_append.mpr ⟨hinside x hx, hrest⟩
  | case3 seen x rest h _ _ _ ih =>
      obtain ⟨hx, hrest⟩ := List.forall_mem_cons.mp hstack
      have h' : ¬(x ∈ space' ∧ x ∉ seen) := fun h' => h ⟨(hspace x hx).mp h'.1, h'.2⟩
      rw [depthFirst_pass h, depthFirst_pass h', ih hrest]

/-- Everything on the stack is come across. -/
theorem mem_depthFirst_of_mem {seen stack : List α} {x : α} (hx : x ∈ stack) :
    x ∈ (depthFirst next space seen stack).1 := by
  obtain ⟨s, t, rfl⟩ := List.append_of_mem hx
  rw [depthFirst_append]
  refine List.mem_append_right _ ?_
  by_cases h : x ∈ space ∧ x ∉ (depthFirst next space seen s).2
  · rw [depthFirst_enter h]; exact List.mem_cons_self
  · rw [depthFirst_pass h]; exact List.mem_cons_self

/-- What has been seen stays seen. -/
theorem mem_seen_depthFirst {seen stack : List α} {x : α} (hx : x ∈ seen) :
    x ∈ (depthFirst next space seen stack).2 := by
  induction seen, stack using depthFirst.induct next space with
  | case1 seen => simpa using hx
  | case2 seen y rest h _ _ _ ih =>
      rw [depthFirst_enter h]
      exact ih (List.mem_cons_of_mem _ hx)
  | case3 seen y rest h _ _ _ ih =>
      rw [depthFirst_pass h]
      exact ih hx

/-- What is come across inside the space has been seen in the end. -/
theorem mem_seen_of_mem_depthFirst {seen stack : List α} {x : α} (hs : x ∈ space)
    (hx : x ∈ (depthFirst next space seen stack).1) :
    x ∈ (depthFirst next space seen stack).2 := by
  induction seen, stack using depthFirst.induct next space with
  | case1 seen => simp at hx
  | case2 seen y rest h _ _ _ ih =>
      rw [depthFirst_enter h] at hx ⊢
      rcases List.mem_cons.mp hx with rfl | hx
      · exact mem_seen_depthFirst List.mem_cons_self
      · exact ih hx
  | case3 seen y rest h _ _ _ ih =>
      rw [depthFirst_pass h] at hx ⊢
      rcases List.mem_cons.mp hx with rfl | hx
      · exact mem_seen_depthFirst (Decidable.byContradiction fun hn => h ⟨hs, hn⟩)
      · exact ih hx

/-- Whatever is newly seen has been entered: what it leads to is come across. -/
theorem mem_depthFirst_of_leads {seen stack : List α} {x y : α} (hn : x ∉ seen)
    (hx : x ∈ (depthFirst next space seen stack).2) (hy : Leads next x y) :
    y ∈ (depthFirst next space seen stack).1 := by
  induction seen, stack using depthFirst.induct next space with
  | case1 seen => simp only [depthFirst_nil] at hx; exact absurd hx hn
  | case2 seen z rest h _ _ _ ih =>
      rw [depthFirst_enter h] at hx ⊢
      by_cases hxz : x = z
      · subst hxz
        exact List.mem_cons_of_mem _ (mem_depthFirst_of_mem (List.mem_append_left _ hy))
      · exact List.mem_cons_of_mem _ (ih (by simp [hxz, hn]) hx)
  | case3 seen z rest h _ _ _ ih =>
      rw [depthFirst_pass h] at hx ⊢
      exact List.mem_cons_of_mem _ (ih hn hx)

/-- The walk comes across nothing that its stack does not lead to. -/
theorem exists_reflTransGen_of_mem_depthFirst {seen stack : List α} {y : α}
    (hy : y ∈ (depthFirst next space seen stack).1) :
    ∃ x ∈ stack, ReflTransGen (Leads next) x y := by
  induction seen, stack using depthFirst.induct next space with
  | case1 seen => simp at hy
  | case2 seen z rest h _ _ _ ih =>
      rw [depthFirst_enter h] at hy
      rcases List.mem_cons.mp hy with rfl | hy
      · exact ⟨y, List.mem_cons_self, .refl⟩
      · obtain ⟨x, hx, hxy⟩ := ih hy
        rcases List.mem_append.mp hx with hx | hx
        · exact ⟨z, List.mem_cons_self, .head hx hxy⟩
        · exact ⟨x, List.mem_cons_of_mem _ hx, hxy⟩
  | case3 seen z rest h _ _ _ ih =>
      rw [depthFirst_pass h] at hy
      rcases List.mem_cons.mp hy with rfl | hy
      · exact ⟨y, List.mem_cons_self, .refl⟩
      · obtain ⟨x, hx, hxy⟩ := ih hy
        exact ⟨x, List.mem_cons_of_mem _ hx, hxy⟩

/-- **What a walk by depth comes across**: all that the stack leads to, and nothing else. Only
places inside the space may lead anywhere. -/
theorem mem_depthFirst_iff (hspace : ∀ x y, Leads next x y → x ∈ space) {stack : List α} {y : α} :
    y ∈ (depthFirst next space [] stack).1 ↔ ∃ x ∈ stack, ReflTransGen (Leads next) x y := by
  refine ⟨exists_reflTransGen_of_mem_depthFirst, ?_⟩
  rintro ⟨x, hx, hxy⟩
  induction hxy with
  | refl => exact mem_depthFirst_of_mem hx
  | tail _ hyz ih =>
      exact mem_depthFirst_of_leads List.not_mem_nil
        (mem_seen_of_mem_depthFirst (hspace _ _ hyz) ih) hyz

/-! ## The walk by breadth -/

/-- The places that a walk by breadth enters. -/
def entered (next : α → List α) (space seen : List α) (queue : List (α × Nat)) : List α :=
  (breadthFirst next space seen queue).map (·.1)

@[simp] theorem entered_nil (seen : List α) : entered next space seen [] = [] := by
  rw [entered, breadthFirst, List.map_nil]

theorem entered_enter {seen : List α} {rest : List (α × Nat)} {x : α} {depth : Nat}
    (h : x ∈ space ∧ x ∉ seen) :
    entered next space seen ((x, depth) :: rest) =
      x :: entered next space (x :: seen)
        (rest ++ (next x).map fun y => (y, depth + 1)) := by
  rw [entered, breadthFirst, if_pos h, List.map_cons, entered]

theorem entered_pass {seen : List α} {rest : List (α × Nat)} {x : α} {depth : Nat}
    (h : ¬(x ∈ space ∧ x ∉ seen)) :
    entered next space seen ((x, depth) :: rest) = entered next space seen rest := by
  rw [entered, breadthFirst, if_neg h, entered]

/-- Nothing is entered that has been seen before or lies outside the space. -/
theorem mem_space_of_mem_entered {seen : List α} {queue : List (α × Nat)} {y : α}
    (hy : y ∈ entered next space seen queue) : y ∈ space ∧ y ∉ seen := by
  induction seen, queue using breadthFirst.induct next space with
  | case1 seen => simp at hy
  | case2 seen x depth rest h ih =>
      rw [entered_enter h] at hy
      rcases List.mem_cons.mp hy with rfl | hy
      · exact h
      · exact ⟨(ih hy).1, fun hn => (ih hy).2 (List.mem_cons_of_mem _ hn)⟩
  | case3 seen x depth rest h ih =>
      rw [entered_pass h] at hy
      exact ih hy

/-- Everything in the queue is entered, unless it has been seen before. -/
theorem mem_entered_of_mem {seen : List α} {queue : List (α × Nat)} {p : α × Nat}
    (hp : p ∈ queue) (hs : p.1 ∈ space) :
    p.1 ∈ seen ∨ p.1 ∈ entered next space seen queue := by
  induction seen, queue using breadthFirst.induct next space with
  | case1 seen => simp at hp
  | case2 seen x depth rest h ih =>
      rw [entered_enter h]
      rcases List.mem_cons.mp hp with rfl | hp
      · exact Or.inr List.mem_cons_self
      · rcases ih (List.mem_append_left _ hp) with hs | hs
        · rcases List.mem_cons.mp hs with hx | hs
          · exact Or.inr (hx ▸ List.mem_cons_self)
          · exact Or.inl hs
        · exact Or.inr (List.mem_cons_of_mem _ hs)
  | case3 seen x depth rest h ih =>
      rw [entered_pass h]
      rcases List.mem_cons.mp hp with rfl | hp
      · exact Or.inl (Decidable.byContradiction fun hn => h ⟨hs, hn⟩)
      · exact ih hp

/-- What an entered place leads to is entered, unless it has been seen before. -/
theorem mem_entered_of_leads {seen : List α} {queue : List (α × Nat)} {x y : α}
    (hx : x ∈ entered next space seen queue) (hy : Leads next x y) (hs : y ∈ space) :
    y ∈ seen ∨ y ∈ entered next space seen queue := by
  induction seen, queue using breadthFirst.induct next space with
  | case1 seen => simp at hx
  | case2 seen z depth rest h ih =>
      rw [entered_enter h] at hx ⊢
      -- the successors of the place that is entered now wait at the end of the queue
      have hstep : y ∈ z :: seen ∨ y ∈ entered next space (z :: seen)
          (rest ++ (next z).map fun y => (y, depth + 1)) := by
        rcases List.mem_cons.mp hx with rfl | hx
        · exact mem_entered_of_mem (p := (y, depth + 1))
            (List.mem_append_right _ (List.mem_map.mpr ⟨y, hy, rfl⟩)) hs
        · exact ih hx
      rcases hstep with hs | hs
      · rcases List.mem_cons.mp hs with rfl | hs
        · exact Or.inr List.mem_cons_self
        · exact Or.inl hs
      · exact Or.inr (List.mem_cons_of_mem _ hs)
  | case3 seen z depth rest h ih =>
      rw [entered_pass h] at hx ⊢
      exact ih hx

/-- The walk enters nothing that its queue does not lead to. -/
theorem exists_reflTransGen_of_mem_entered {seen : List α} {queue : List (α × Nat)} {y : α}
    (hy : y ∈ entered next space seen queue) :
    ∃ p ∈ queue, ReflTransGen (Leads next) p.1 y := by
  induction seen, queue using breadthFirst.induct next space with
  | case1 seen => simp at hy
  | case2 seen x depth rest h ih =>
      rw [entered_enter h] at hy
      rcases List.mem_cons.mp hy with rfl | hy
      · exact ⟨_, List.mem_cons_self, .refl⟩
      · obtain ⟨p, hp, hpy⟩ := ih hy
        rcases List.mem_append.mp hp with hp | hp
        · exact ⟨p, List.mem_cons_of_mem _ hp, hpy⟩
        · obtain ⟨z, hz, rfl⟩ := List.mem_map.mp hp
          exact ⟨_, List.mem_cons_self, .head hz hpy⟩
  | case3 seen x depth rest h ih =>
      rw [entered_pass h] at hy
      obtain ⟨p, hp, hpy⟩ := ih hy
      exact ⟨p, List.mem_cons_of_mem _ hp, hpy⟩

/-- **What a walk by breadth enters**: all of the space that the start leads to, and nothing else.
Only places inside the space may lead anywhere. -/
theorem mem_entered_iff (hspace : ∀ x y, Leads next x y → x ∈ space) {x y : α} {depth : Nat} :
    y ∈ entered next space [] [(x, depth)] ↔ y ∈ space ∧ ReflTransGen (Leads next) x y := by
  constructor
  · intro hy
    obtain ⟨p, hp, hpy⟩ := exists_reflTransGen_of_mem_entered hy
    rw [List.mem_singleton.mp hp] at hpy
    exact ⟨(mem_space_of_mem_entered hy).1, hpy⟩
  · rintro ⟨hs, hxy⟩
    induction hxy with
    | refl =>
        exact (mem_entered_of_mem (p := (x, depth)) List.mem_cons_self hs).resolve_left
          List.not_mem_nil
    | tail _ hyz ih =>
        exact (mem_entered_of_leads (ih (hspace _ _ hyz)) hyz hs).resolve_left List.not_mem_nil

end Walk

/-! ## Dropping repeats -/

section FirstBy

variable {α κ : Type} [DecidableEq κ] {key : α → κ}

theorem firstBy_sublist (xs : List α) : (firstBy key xs).Sublist xs := by
  induction xs with
  | nil => exact .slnil
  | cons x xs ih => exact (List.filter_sublist.trans ih).cons_cons x

/-- No two elements that are kept have one key. -/
theorem pairwise_firstBy (xs : List α) :
    (firstBy key xs).Pairwise fun x y => key x ≠ key y := by
  induction xs with
  | nil => exact .nil
  | cons x xs ih =>
      refine .cons ?_ (ih.filter _)
      intro y hy
      exact (of_decide_eq_true (List.mem_filter.mp hy).2).symm

/-- Every key that occurs is the key of an element that is kept. -/
theorem exists_mem_firstBy {xs : List α} {x : α} (hx : x ∈ xs) :
    ∃ y ∈ firstBy key xs, key y = key x := by
  induction xs with
  | nil => simp at hx
  | cons z xs ih =>
      by_cases hz : key x = key z
      · exact ⟨z, List.mem_cons_self, hz.symm⟩
      · rcases List.mem_cons.mp hx with rfl | hx
        · exact absurd rfl hz
        · obtain ⟨y, hy, hyx⟩ := ih hx
          refine ⟨y, List.mem_cons_of_mem _ (List.mem_filter.mpr ⟨hy, ?_⟩), hyx⟩
          simpa [hyx] using hz

theorem firstBy_append (xs ys : List α) :
    firstBy key (xs ++ ys) =
      firstBy key xs ++ (firstBy key ys).filter fun y => ∀ x ∈ xs, key y ≠ key x := by
  induction xs with
  | nil =>
      show firstBy key ys = (firstBy key ys).filter _
      exact (List.filter_eq_self.mpr (by simp)).symm
  | cons x xs ih =>
      simp only [List.cons_append, firstBy, ih, List.filter_append, List.filter_filter,
        List.cons_append, List.cons.injEq, true_and, List.append_cancel_left_eq]
      refine List.filter_congr fun y _ => ?_
      simp

/-- What is kept of the first elements comes first among what is kept of all. -/
theorem firstBy_prefix_append (xs ys : List α) : firstBy key xs <+: firstBy key (xs ++ ys) := by
  rw [firstBy_append]
  exact List.prefix_append _ _

/-- One more element is kept if its key is new. -/
theorem firstBy_concat (xs : List α) (x : α) :
    firstBy key (xs ++ [x]) =
      if ∀ y ∈ xs, key x ≠ key y then firstBy key xs ++ [x] else firstBy key xs := by
  rw [firstBy_append, show firstBy key [x] = [x] from rfl, List.filter_cons, List.filter_nil]
  by_cases hnew : ∀ y ∈ xs, key x ≠ key y
  · rw [if_pos hnew, if_pos (decide_eq_true hnew)]
  · rw [if_neg hnew, if_neg (by simpa using hnew), List.append_nil]

/-- A list without repeats comes first as it is. -/
theorem firstBy_eq_self {xs : List α} (h : xs.Pairwise fun x y => key x ≠ key y) :
    firstBy key xs = xs := by
  induction h with
  | nil => rfl
  | cons hx _ ih =>
      rw [firstBy, ih, List.filter_eq_self.mpr]
      intro y hy
      simpa using (hx y hy).symm

end FirstBy

theorem mem_firstBy_id {α : Type} [DecidableEq α] {xs : List α} {x : α} :
    x ∈ firstBy id xs ↔ x ∈ xs := by
  refine ⟨fun hx => (firstBy_sublist xs).subset hx, fun hx => ?_⟩
  obtain ⟨y, hy, rfl⟩ : ∃ y ∈ firstBy id xs, y = x := exists_mem_firstBy hx
  exact hy

theorem firstBy_id_eq_self {α : Type} [DecidableEq α] {xs : List α} (h : xs.Nodup) :
    firstBy id xs = xs :=
  firstBy_eq_self h

theorem nodup_firstBy_id {α : Type} [DecidableEq α] (xs : List α) : (firstBy id xs).Nodup :=
  pairwise_firstBy xs

/-- What is on a list already may be left out of what is appended. -/
theorem firstBy_id_append_cons {α : Type} [DecidableEq α] {xs : List α} {x : α} (hx : x ∈ xs)
    (ys : List α) : firstBy id (xs ++ x :: ys) = firstBy id (xs ++ ys) := by
  rw [firstBy_append, firstBy_append, firstBy, List.filter_cons_of_neg (by simpa using hx),
    List.filter_filter]
  congr 1
  refine List.filter_congr fun y _ => ?_
  -- what is not on the list is not the element that is
  have hne : (∀ z ∈ xs, y ≠ z) → y ≠ x := fun h => h x hx
  simpa using hne

theorem firstBy_id_firstBy_append {α : Type} [DecidableEq α] (xs ys : List α) :
    firstBy id (firstBy id xs ++ ys) = firstBy id (xs ++ ys) := by
  rw [firstBy_append, firstBy_append, firstBy_id_eq_self (nodup_firstBy_id xs)]
  simp only [mem_firstBy_id]

end Gazetteer
