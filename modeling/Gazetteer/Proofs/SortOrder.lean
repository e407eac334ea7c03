import Gazetteer.Value.Order

/-!
# The order of all values

`Value.sortOrder` is a total preorder of all values, however they are nested: an instance of
`Std.TransCmp`. It compares two values by their keys and then, item by item, by what they contain
(`sortOrder_eq`), so that the proof is an induction over the depth of arrays. The induction carries
that three comparisons `Fit` together, which survives lexicographic comparison (`Fit.then`).
-/

namespace Gazetteer

open Std

/-! ## Comparisons that fit together -/

/-- Comparisons of `x` with `y`, of `y` with `z` and of `x` with `z` fit together: what is equal
compares alike, and two steps in one direction are a step in that direction. -/
structure Fit (xy yz xz : Ordering) : Prop where
  left : xy = .eq → xz = yz
  right : yz = .eq → xz = xy
  same : xy = yz → xz = xy

theorem fit_of_transCmp {α : Type} (cmp : α → α → Ordering) [TransCmp cmp] (x y z : α) :
    Fit (cmp x y) (cmp y z) (cmp x z) where
  left h := TransCmp.congr_left h
  right h := (TransCmp.congr_right h).symm
  same h := by
    cases hxy : cmp x y with
    | lt => exact TransCmp.lt_trans hxy (h ▸ hxy)
    | eq => exact TransCmp.eq_trans hxy (h ▸ hxy)
    | gt => exact TransCmp.gt_trans hxy (h ▸ hxy)

theorem transCmp_of_fit {α : Type} {cmp : α → α → Ordering} [OrientedCmp cmp]
    (h : ∀ x y z, Fit (cmp x y) (cmp y z) (cmp x z)) : TransCmp cmp where
  isLE_trans {x y z} hxy hyz := by
    have hfit := h x y z
    cases hy : cmp x y with
    | lt =>
        cases hz : cmp y z with
        | lt => simp [hfit.same (hy.trans hz.symm), hy]
        | eq => simp [hfit.right hz, hy]
        | gt => simp [hz] at hyz
    | eq => rwa [hfit.left hy]
    | gt => simp [hy] at hxy

/-- Comparisons that go on where the first ones are equal fit together. -/
theorem Fit.then {xy yz xz xy' yz' xz' : Ordering} (h : Fit xy yz xz) (h' : Fit xy' yz' xz') :
    Fit (xy.then xy') (yz.then yz') (xz.then xz') := by
  obtain ⟨hleft, hright, hsame⟩ := h
  cases xy with
  | eq =>
      obtain rfl := hleft rfl
      cases xz with
      | eq => exact h'
      | lt => exact ⟨fun _ => rfl, nofun, fun h => h.symm⟩
      | gt => exact ⟨fun _ => rfl, nofun, fun h => h.symm⟩
  | lt =>
      cases yz with
      | lt => obtain rfl := hsame rfl; exact ⟨nofun, nofun, fun _ => rfl⟩
      | eq => obtain rfl := hright rfl; exact ⟨nofun, fun _ => rfl, fun _ => rfl⟩
      | gt => exact ⟨nofun, nofun, nofun⟩
  | gt =>
      cases yz with
      | gt => obtain rfl := hsame rfl; exact ⟨nofun, nofun, fun _ => rfl⟩
      | eq => obtain rfl := hright rfl; exact ⟨nofun, fun _ => rfl, fun _ => rfl⟩
      | lt => exact ⟨nofun, nofun, nofun⟩

namespace Value

/-! ## Keys and items -/

/-- What a boolean or a number is compared by. -/
def numberKey : Value → Int
  | .bool b => if b then 1 else 0
  | .int n => floatKey (Float.ofInt n)
  | .float x => floatKey x
  | _ => 0

/-- What a string is compared by. -/
def textKey : Value → String
  | .string s => s
  | _ => ""

/-- What an array is compared by. -/
def items : Value → List Value
  | .array xs => xs
  | _ => []

/-- The order of values as far as they are no arrays. -/
def keyOrder : Value → Value → Ordering :=
  compareLex (compareOn rank) (compareLex (compareOn numberKey) (compareOn textKey))

instance : TransCmp keyOrder :=
  inferInstanceAs (TransCmp (compareLex (compareOn rank)
    (compareLex (compareOn numberKey) (compareOn textKey))))

theorem sortOrder_eq (x y : Value) :
    sortOrder x y = (keyOrder x y).then (sortOrderItems x.items y.items) := by
  cases x <;> cases y
  case bool.bool b c => cases b <;> cases c <;> rfl
  -- the keys of two types differ in the rank, and within a type only one part of them counts
  all_goals first
    | rfl
    | simp [sortOrder, sortOrderItems, orderFloats, keyOrder, compareLex, compareOn, rank,
        numberKey, textKey, items]

theorem sortOrderItems_cons (x y : Value) (xs ys : List Value) :
    sortOrderItems (x :: xs) (y :: ys) = (sortOrder x y).then (sortOrderItems xs ys) := by
  rw [sortOrderItems]
  cases sortOrder x y <;> rfl

/-- What holds of a value if it holds of its items, holds of all values. -/
theorem induct_items {P : Value → Prop} (h : ∀ x : Value, (∀ i ∈ x.items, P i) → P x) :
    ∀ x, P x
  | .array xs => h (.array xs) fun i _ => induct_items h i
  | .null | .bool _ | .int _ | .float _ | .string _ | .object _ => h _ nofun
termination_by x => sizeOf x
decreasing_by
  have hlt := List.sizeOf_lt_of_mem ‹_›
  simp only [items, array.sizeOf_spec] at hlt ⊢
  omega

/-! ## Direction -/

theorem sortOrderItems_swap {xs : List Value}
    (h : ∀ x ∈ xs, ∀ y, sortOrder x y = (sortOrder y x).swap) (ys : List Value) :
    sortOrderItems xs ys = (sortOrderItems ys xs).swap := by
  induction xs generalizing ys with
  | nil => cases ys <;> rfl
  | cons x xs ih =>
      cases ys with
      | nil => rfl
      | cons y ys =>
          obtain ⟨hx, hxs⟩ := List.forall_mem_cons.mp h
          rw [sortOrderItems_cons, sortOrderItems_cons, Ordering.swap_then, hx y, ih hxs ys]

/-- Comparing in the other direction gives the opposite. -/
theorem sortOrder_swap (x : Value) : ∀ y, sortOrder x y = (sortOrder y x).swap := by
  induction x using induct_items with
  | _ x ih =>
      intro y
      rw [sortOrder_eq x, sortOrder_eq y, Ordering.swap_then, sortOrderItems_swap ih]
      congr 1
      exact OrientedCmp.eq_swap

instance : OrientedCmp sortOrder where
  eq_swap := sortOrder_swap _ _

/-! ## Transitivity -/

theorem fit_sortOrderItems {xs : List Value}
    (h : ∀ x ∈ xs, ∀ y z, Fit (sortOrder x y) (sortOrder y z) (sortOrder x z))
    (ys zs : List Value) :
    Fit (sortOrderItems xs ys) (sortOrderItems ys zs) (sortOrderItems xs zs) := by
  induction xs generalizing ys zs with
  | nil =>
      cases ys with
      | nil => exact ⟨fun _ => rfl, id, fun h => h.symm⟩
      | cons y ys =>
          cases zs with
          | nil => exact ⟨nofun, nofun, nofun⟩
          | cons z zs => exact ⟨nofun, fun _ => rfl, fun _ => rfl⟩
  | cons x xs ih =>
      obtain ⟨hx, hxs⟩ := List.forall_mem_cons.mp h
      cases ys with
      | nil =>
          cases zs with
          | nil => exact ⟨nofun, fun _ => rfl, nofun⟩
          | cons z zs => exact ⟨nofun, nofun, nofun⟩
      | cons y ys =>
          cases zs with
          | nil => exact ⟨fun _ => rfl, nofun, fun h => h.symm⟩
          | cons z zs =>
              simp only [sortOrderItems_cons]
              exact (hx y z).then (ih hxs ys zs)

theorem fit_sortOrder (x : Value) :
    ∀ y z, Fit (sortOrder x y) (sortOrder y z) (sortOrder x z) := by
  induction x using induct_items with
  | _ x ih =>
      intro y z
      rw [sortOrder_eq x y, sortOrder_eq y z, sortOrder_eq x z]
      exact (fit_of_transCmp keyOrder x y z).then (fit_sortOrderItems ih y.items z.items)

instance : TransCmp sortOrder := transCmp_of_fit fit_sortOrder

end Value

end Gazetteer
