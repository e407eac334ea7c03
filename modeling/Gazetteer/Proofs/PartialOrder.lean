import Gazetteer.Lookup.Predicate
import Gazetteer.Proofs.FloatOrder
import Gazetteer.Proofs.SortOrder
import Mathlib.Logic.Basic

/-!
# The order that lookups use

`Value.compare?` compares some pairs of values only, but these as a partial order: what is equal
compares alike with everything, and of two steps in one direction the ends can be compared as well
(`Value.compare?_trans`). As for the order that sorting uses, two values are compared by their keys
and then item by item (`Value.compare?_eq`), and the induction over the depth of arrays carries that
three comparisons fit together, here where they are defined (`FitWhereDefined`). So the lookups that
bound a value agree with one another (`Lookup.comparison_laws`).
-/

namespace Gazetteer

open Std

/-! ## Comparisons that may be undefined -/

/-- Goes on to the second comparison where the first one finds no difference. -/
def thenCompare (o p : Option Ordering) : Option Ordering :=
  match o with
  | some .eq => p
  | other => other

@[simp]
theorem thenCompare_none (p : Option Ordering) : thenCompare none p = none := rfl

@[simp]
theorem thenCompare_eq (o : Option Ordering) : thenCompare o (some .eq) = o := by
  cases o with
  | none => rfl
  | some o => cases o <;> rfl

theorem map_swap_thenCompare (o p : Option Ordering) :
    (thenCompare o p).map .swap = thenCompare (o.map .swap) (p.map .swap) := by
  cases o with
  | none => rfl
  | some o => cases o <;> rfl

/-- Comparisons of `x` with `y`, of `y` with `z` and of `x` with `z` that may be undefined fit
together. Of two steps in one direction the ends can be compared. -/
structure FitWhereDefined (xy yz xz : Option Ordering) : Prop where
  left : xy = some .eq → xz = yz
  right : yz = some .eq → xz = xy
  same : ∀ o, xy = some o → yz = some o → xz = some o

theorem Fit.whereDefined {xy yz xz : Ordering} (h : Fit xy yz xz) :
    FitWhereDefined (some xy) (some yz) (some xz) where
  left hxy := congrArg some (h.left (Option.some.inj hxy))
  right hyz := congrArg some (h.right (Option.some.inj hyz))
  same o hxy hyz := by
    rw [h.same (Option.some.inj (hxy.trans hyz.symm)), hxy]

section

variable {xy yz xz xy' yz' xz' : Option Ordering}

namespace FitWhereDefined

theorem of_left_none (h : yz = some .eq → xz = none) : FitWhereDefined none yz xz :=
  ⟨nofun, h, nofun⟩

theorem of_right_none (h : xy = some .eq → xz = none) : FitWhereDefined xy none xz :=
  ⟨h, nofun, nofun⟩

end FitWhereDefined

/-- Comparisons that go on where the first ones are equal fit together. -/
theorem FitWhereDefined.then (h : FitWhereDefined xy yz xz) (h' : FitWhereDefined xy' yz' xz') :
    FitWhereDefined (thenCompare xy xy') (thenCompare yz yz') (thenCompare xz xz') := by
  obtain ⟨hleft, hright, hsame⟩ := h
  rcases xy with _ | xy
  · rcases yz with _ | _ | _ | _
    · exact of_left_none nofun
    · exact of_left_none nofun
    · obtain rfl := hright rfl
      exact of_left_none fun _ => rfl
    · exact of_left_none nofun
  rcases yz with _ | yz
  · cases xy with
    | eq => obtain rfl := hleft rfl; exact of_right_none fun _ => rfl
    | lt => exact of_right_none nofun
    | gt => exact of_right_none nofun
  cases xy with
  | eq =>
      obtain rfl := hleft rfl
      cases yz with
      | eq => exact h'
      | lt => exact ⟨fun _ => rfl, nofun, fun _ _ h => h⟩
      | gt => exact ⟨fun _ => rfl, nofun, fun _ _ h => h⟩
  | lt =>
      cases yz with
      | lt => obtain rfl := hsame _ rfl rfl; exact ⟨nofun, nofun, fun _ _ h => h⟩
      | eq => obtain rfl := hright rfl; exact ⟨nofun, fun _ => rfl, fun _ h _ => h⟩
      | gt => exact ⟨nofun, nofun, fun _ h h' => absurd (h.trans h'.symm) nofun⟩
  | gt =>
      cases yz with
      | gt => obtain rfl := hsame _ rfl rfl; exact ⟨nofun, nofun, fun _ _ h => h⟩
      | eq => obtain rfl := hright rfl; exact ⟨nofun, fun _ => rfl, fun _ h _ => h⟩
      | lt => exact ⟨nofun, nofun, fun _ h h' => absurd (h.trans h'.symm) nofun⟩

end

namespace Value

open Geodesy

/-! ## Keys and items -/

/-- Whether a value equals itself: objects are not compared, and neither is the float that is no
number. -/
def isComparable : Value → Bool
  | .object _ => false
  | .int n => !(Float.ofInt n).isNaN
  | .float x => !x.isNaN
  | _ => true

/-- What a boolean or a number is compared by. The zeros do not differ. -/
def sizeKey : Value → Int
  | .bool b => if b then 1 else 0
  | .int n => floatSize (Float.ofInt n)
  | .float x => floatSize x
  | _ => 0

/-- The order of two values of one type as far as they are no arrays. -/
def sizeOrder : Value → Value → Ordering := compareLex (compareOn sizeKey) (compareOn textKey)

instance : TransCmp sizeOrder :=
  inferInstanceAs (TransCmp (compareLex (compareOn sizeKey) (compareOn textKey)))

/-- Two values can be compared as far as they are no arrays. -/
def Comparable (x y : Value) : Prop := x.isComparable ∧ y.isComparable ∧ x.rank = y.rank

instance (x y : Value) : Decidable (Comparable x y) := inferInstanceAs (Decidable (_ ∧ _ ∧ _))

/-- The order of values as far as they are no arrays. -/
def keyCompare? (x y : Value) : Option Ordering :=
  if Comparable x y then some (sizeOrder x y) else none

theorem compareFloats?_eq_ite (x y : Float) :
    compareFloats? x y =
      if x.isNaN ∨ y.isNaN then none else some (compare (floatSize x) (floatSize y)) := by
  rw [compareFloats?_eq_order]
  split
  · next h => exact order_eq_none_iff.mpr h
  · next h =>
      obtain ⟨hx, hy⟩ := not_or.mp h
      exact order_eq_some hx hy

theorem keyCompare?_of_number? {x y : Value} {u v : Float} (hx : x.number? = some u)
    (hy : y.number? = some v) : keyCompare? x y = compareFloats? u v := by
  have hcomparable : Comparable x y ↔ ¬(u.isNaN ∨ v.isNaN) := by
    rw [not_or]
    cases x <;> cases hx <;> cases y <;> cases hy <;> simp [Comparable, isComparable, rank]
  have horder : sizeOrder x y = compare (floatSize u) (floatSize v) := by
    cases x <;> cases hx <;> cases y <;> cases hy <;>
      simp [sizeOrder, compareLex, compareOn, sizeKey, textKey]
  rw [keyCompare?, compareFloats?_eq_ite, horder]
  by_cases h : u.isNaN ∨ v.isNaN
  · rw [if_pos h, if_neg (mt hcomparable.mp (not_not.mpr h))]
  · rw [if_neg h, if_pos (hcomparable.mpr h)]

theorem compare?_eq (x y : Value) :
    compare? x y = thenCompare (keyCompare? x y) (compareItems? x.items y.items) := by
  have hnumbers {u v : Float} (hx : x.number? = some u) (hy : y.number? = some v) :
      compareFloats? u v = thenCompare (keyCompare? x y) (some .eq) := by
    rw [thenCompare_eq, keyCompare?_of_number? hx hy]
  cases x <;> cases y
  case bool.bool b c => cases b <;> cases c <;> rfl
  case int.int | int.float | float.int | float.float => exact hnumbers rfl rfl
  -- the keys of two types differ in the rank, and within a type only one part of them counts
  all_goals first
    | rfl
    | simp [compare?, compareItems?, keyCompare?, Comparable, isComparable, rank, sizeOrder,
        compareLex, compareOn, sizeKey, textKey, items]

theorem compareItems?_cons (x y : Value) (xs ys : List Value) :
    compareItems? (x :: xs) (y :: ys) = thenCompare (compare? x y) (compareItems? xs ys) := by
  rw [compareItems?]
  rcases compare? x y with _ | _ | _ | _ <;> rfl

/-! ## Direction -/

theorem Comparable.symm {x y : Value} (h : Comparable x y) : Comparable y x :=
  ⟨h.2.1, h.1, h.2.2.symm⟩

theorem keyCompare?_swap (x y : Value) : keyCompare? y x = (keyCompare? x y).map .swap := by
  unfold keyCompare?
  by_cases h : Comparable x y
  · rw [if_pos h, if_pos h.symm]
    exact congrArg some OrientedCmp.eq_swap
  · rw [if_neg h, if_neg (mt Comparable.symm h)]
    rfl

theorem compareItems?_swap {xs : List Value}
    (h : ∀ x ∈ xs, ∀ y, compare? y x = (compare? x y).map .swap) (ys : List Value) :
    compareItems? ys xs = (compareItems? xs ys).map .swap := by
  induction xs generalizing ys with
  | nil => cases ys <;> rfl
  | cons x xs ih =>
      cases ys with
      | nil => rfl
      | cons y ys =>
          obtain ⟨hx, hxs⟩ := List.forall_mem_cons.mp h
          rw [compareItems?_cons, compareItems?_cons, map_swap_thenCompare, hx y, ih hxs ys]

/-- Comparing in the other direction gives the opposite, or nothing in both. -/
theorem compare?_swap (x : Value) : ∀ y, compare? y x = (compare? x y).map .swap := by
  induction x using induct_items with
  | _ x ih =>
      intro y
      rw [compare?_eq y, compare?_eq x, map_swap_thenCompare, keyCompare?_swap x y,
        compareItems?_swap ih]

theorem eq_of_compare?_self {x : Value} {o : Ordering} (h : compare? x x = some o) : o = .eq := by
  have hswap := compare?_swap x x
  rw [h] at hswap
  cases o with
  | eq => rfl
  | lt => cases hswap
  | gt => cases hswap

/-! ## Transitivity -/

theorem fit_keyCompare? (x y z : Value) :
    FitWhereDefined (keyCompare? x y) (keyCompare? y z) (keyCompare? x z) := by
  unfold keyCompare?
  by_cases hxy : Comparable x y
  · by_cases hyz : Comparable y z
    · have hxz : Comparable x z := ⟨hxy.1, hyz.2.1, hxy.2.2.trans hyz.2.2⟩
      rw [if_pos hxy, if_pos hyz, if_pos hxz]
      exact (fit_of_transCmp sizeOrder x y z).whereDefined
    · have hxz : ¬Comparable x z := fun h => hyz ⟨hxy.2.1, h.2.1, hxy.2.2.symm.trans h.2.2⟩
      rw [if_neg hyz, if_neg hxz]
      exact .of_right_none fun _ => rfl
  · rw [if_neg hxy]
    refine .of_left_none fun hyz => if_neg fun hxz => hxy ?_
    obtain ⟨hyz, -⟩ := Option.ite_none_right_eq_some.mp hyz
    exact ⟨hxz.1, hyz.1, hxz.2.2.trans hyz.2.2.symm⟩

theorem fit_compareItems? {xs : List Value}
    (h : ∀ x ∈ xs, ∀ y z, FitWhereDefined (compare? x y) (compare? y z) (compare? x z))
    (ys zs : List Value) :
    FitWhereDefined (compareItems? xs ys) (compareItems? ys zs) (compareItems? xs zs) := by
  induction xs generalizing ys zs with
  | nil =>
      cases ys with
      | nil => exact ⟨fun _ => rfl, id, fun _ _ h => h⟩
      | cons y ys =>
          cases zs with
          | nil => exact ⟨nofun, nofun, fun _ h h' => absurd (h.trans h'.symm) nofun⟩
          | cons z zs => exact ⟨nofun, fun _ => rfl, fun _ h _ => h⟩
  | cons x xs ih =>
      obtain ⟨hx, hxs⟩ := List.forall_mem_cons.mp h
      cases ys with
      | nil =>
          cases zs with
          | nil => exact ⟨nofun, fun _ => rfl, fun _ h _ => h⟩
          | cons z zs => exact ⟨nofun, nofun, fun _ h h' => absurd (h.trans h'.symm) nofun⟩
      | cons y ys =>
          cases zs with
          | nil => exact ⟨fun _ => rfl, nofun, fun _ _ h => h⟩
          | cons z zs =>
              simp only [compareItems?_cons]
              exact (hx y z).then (ih hxs ys zs)

theorem fit_compare? (x : Value) :
    ∀ y z, FitWhereDefined (compare? x y) (compare? y z) (compare? x z) := by
  induction x using induct_items with
  | _ x ih =>
      intro y z
      rw [compare?_eq x y, compare?_eq y z, compare?_eq x z]
      exact (fit_keyCompare? x y z).then (fit_compareItems? ih y.items z.items)

/-- Two steps up lead up, strictly if one of them does. -/
theorem compare?_trans {a b c : Value} {o p : Ordering} (hab : compare? a b = some o)
    (hbc : compare? b c = some p) (ho : o ≠ .gt) (hp : p ≠ .gt) :
    compare? a c = some (o.then p) := by
  obtain ⟨hleft, hright, hsame⟩ := fit_compare? a b c
  cases o with
  | gt => exact absurd rfl ho
  | eq => rw [hleft hab, hbc]; rfl
  | lt =>
      cases p with
      | gt => exact absurd rfl hp
      | eq => rw [hright hbc, hab]; rfl
      | lt => exact hsame _ hab hbc

/-- What is equal compares alike with everything. -/
theorem compare?_congr {a b : Value} (h : compare? a b = some .eq) (c : Value) :
    compare? a c = compare? b c ∧ compare? c a = compare? c b := by
  have hleft : compare? a c = compare? b c := (fit_compare? a b c).left h
  refine ⟨hleft, ?_⟩
  rw [compare?_swap a c, compare?_swap b c, hleft]

end Value

namespace Lookup

open Value

/-! ## Lookups that bound a value -/

/-- What a lookup bounds a value by from below, and whether the bound itself is left out. -/
def lower? : Lookup → Option (Value × Bool)
  | gt bound => some (bound, true)
  | gte bound => some (bound, false)
  | range low _ => some (low, false)
  | _ => none

/-- What a lookup bounds a value by from above, and whether the bound itself is left out. -/
def upper? : Lookup → Option (Value × Bool)
  | lt bound => some (bound, true)
  | lte bound => some (bound, false)
  | range _ high => some (high, false)
  | _ => none

/-- The second value comes after the first one, or equals it where that is not left out. -/
def Precedes (strict : Bool) (a b : Value) : Prop :=
  compare? a b = some .lt ∨ strict = false ∧ compare? a b = some .eq

theorem Precedes.ne_none {s : Bool} {a b : Value} (h : Precedes s a b) : compare? a b ≠ none := by
  rcases h with h | ⟨-, h⟩ <;> simp [h]

theorem atLeast_eq_true_iff {v w : Value} : atLeast v w = true ↔ Precedes false w v := by
  unfold atLeast Precedes
  rw [compare?_swap v w]
  rcases compare? v w with _ | _ | _ | _ <;> simp

theorem atMost_eq_true_iff {v w : Value} : atMost v w = true ↔ Precedes false v w := by
  unfold atMost Precedes
  rcases compare? v w with _ | _ | _ | _ <;> simp

theorem Precedes.trans {s t : Bool} {a b c : Value} (hab : Precedes s a b)
    (hbc : Precedes t b c) : Precedes (s || t) a c := by
  rcases hab with hab | ⟨rfl, hab⟩ <;> rcases hbc with hbc | ⟨rfl, hbc⟩
  · exact .inl (compare?_trans hab hbc nofun nofun)
  · exact .inl (compare?_trans hab hbc nofun nofun)
  · exact .inl (compare?_trans hab hbc nofun nofun)
  · exact .inr ⟨rfl, compare?_trans hab hbc nofun nofun⟩

theorem precedes_of_lower? {l : Lookup} {low v : Value} {strict : Bool}
    (hl : l.lower? = some (low, strict)) (h : l.holds v = true) : Precedes strict low v := by
  cases l <;> cases hl
  case gt =>
    rw [holds, beq_iff_eq] at h
    exact .inl (by rw [compare?_swap v low, h]; rfl)
  case gte => exact atLeast_eq_true_iff.mp h
  case range => exact atLeast_eq_true_iff.mp (Bool.and_eq_true_iff.mp h).1

theorem precedes_of_upper? {l : Lookup} {high v : Value} {strict : Bool}
    (hl : l.upper? = some (high, strict)) (h : l.holds v = true) : Precedes strict v high := by
  cases l <;> cases hl
  case lt => exact .inl (beq_iff_eq.mp h)
  case lte => exact atMost_eq_true_iff.mp h
  case range => exact atMost_eq_true_iff.mp (Bool.and_eq_true_iff.mp h).2

/-- Of bounds that one value keeps, the lower one precedes the upper one. -/
theorem precedes_of_holds {v low high : Value} {l u : Lookup} {s t : Bool}
    (hl : l.lower? = some (low, s)) (hu : u.upper? = some (high, t)) (hlv : l.holds v = true)
    (huv : u.holds v = true) : Precedes (s || t) low high :=
  (precedes_of_lower? hl hlv).trans (precedes_of_upper? hu huv)

theorem gt_holds_iff {v w : Value} : (gt w).holds v = true ↔ Precedes true w v := by
  rw [holds, beq_iff_eq, Precedes, compare?_swap v w]
  rcases compare? v w with _ | _ | _ | _ <;> simp

theorem lt_holds_iff {v w : Value} : (lt w).holds v = true ↔ Precedes true v w := by
  rw [holds, beq_iff_eq, Precedes]
  simp

/-- A range whose bounds stand the wrong way round holds of nothing, whether there is a value or
not. -/
theorem holds_range_eq_false {p : Predicate} {low high : Value} (hp : p.lookup = .range low high)
    (h : compare? low high = some .gt) (v : Option Value) : p.holds v = false := by
  have hnot (v : Value) : (range low high).holds v = false := by
    rw [← Bool.not_eq_true]
    intro hv
    rcases precedes_of_holds rfl rfl hv hv with hlt | ⟨-, heq⟩
    · rw [h] at hlt
      cases hlt
    · rw [h] at heq
      cases heq
  unfold Predicate.holds
  rw [hp]
  rcases v with _ | v
  · rfl
  cases v <;> first | rfl | exact hnot _

/-- **Comparison is a partial order, and the lookups by comparison agree with one another.**
Comparing in the other direction gives the opposite, what can be compared with itself equals itself,
equal values compare alike with every third one, and two steps up lead up: the comparison of the
ends is defined, and strict if one of the steps is (`o.then p`). So a range with its bounds the
wrong way round holds of nothing. A value that keeps a lower and an upper bound of any lookups shows
that the one bound precedes the other one; what keeps a bound keeps every wider one; and of two
values that can be compared one is greater, or smaller, exactly if it is not at most, or at least,
the other one. -/
theorem comparison_laws :
    (∀ a b : Value, compare? b a = (compare? a b).map .swap) ∧
    (∀ (a : Value) (o : Ordering), compare? a a = some o → o = .eq) ∧
    (∀ a b c : Value, compare? a b = some .eq →
      compare? a c = compare? b c ∧ compare? c a = compare? c b) ∧
    (∀ (a b c : Value) (o p : Ordering), compare? a b = some o → compare? b c = some p →
      o ≠ .gt → p ≠ .gt → compare? a c = some (o.then p)) ∧
    (∀ (p : Predicate) (low high : Value), p.lookup = .range low high →
      compare? low high = some .gt → ∀ v, p.holds v = false) ∧
    (∀ (v low high : Value) (l u : Lookup) (s t : Bool), l.lower? = some (low, s) →
      u.upper? = some (high, t) → l.holds v = true → u.holds v = true →
        Precedes (s || t) low high) ∧
    (∀ v a b : Value, Precedes false a b →
      ((gte b).holds v = true → (gte a).holds v = true) ∧
      ((gt b).holds v = true → (gt a).holds v = true) ∧
      ((lte a).holds v = true → (lte b).holds v = true) ∧
      ((lt a).holds v = true → (lt b).holds v = true)) ∧
    (∀ (v w : Value) (o : Ordering), compare? v w = some o →
      (gt w).holds v = !(lte w).holds v ∧ (lt w).holds v = !(gte w).holds v) ∧
    (∀ (v w : Value) (l : Lookup) (s : Bool), compare? v w = none →
      l.lower? = some (w, s) ∨ l.upper? = some (w, s) → l.holds v = false) := by
  refine ⟨fun a b => compare?_swap a b, fun a o h => eq_of_compare?_self h,
    fun a b c h => compare?_congr h c, ?_, ?_, ?_, ?_, ?_, ?_⟩
  · intro a b c o p hab hbc ho hp
    exact compare?_trans hab hbc ho hp
  · intro p low high hp h v
    exact holds_range_eq_false hp h v
  · intro v low high l u s t hl hu hlv huv
    exact precedes_of_holds hl hu hlv huv
  · intro v a b hab
    refine ⟨fun h => ?_, fun h => ?_, fun h => ?_, fun h => ?_⟩
    · exact atLeast_eq_true_iff.mpr (hab.trans (atLeast_eq_true_iff.mp h))
    · exact gt_holds_iff.mpr (hab.trans (gt_holds_iff.mp h))
    · exact atMost_eq_true_iff.mpr ((atMost_eq_true_iff.mp h).trans hab)
    · exact lt_holds_iff.mpr ((lt_holds_iff.mp h).trans hab)
  · intro v w o h
    cases o <;> simp [holds, atLeast, atMost, h]
  · intro v w l s h hl
    rw [← Bool.not_eq_true]
    intro hv
    rcases hl with hl | hl
    · have hne := (precedes_of_lower? hl hv).ne_none
      rw [compare?_swap v w, h] at hne
      exact hne rfl
    · exact (precedes_of_upper? hl hv).ne_none h

/-- The whole number and the float are equal inside of arrays too, and the object decides nothing
because the strings before it differ. -/
theorem comparison_laws_nested :
    let a : Value := .array [.array [.int 1, .string "a"], .null]
    let b : Value := .array [.array [.float 1.0, .string "a"], .null]
    let c : Value := .array [.array [.int 1, .string "b"], .object []]
    (compare? a c = compare? b c ∧ compare? c a = compare? c b) ∧
    compare? a c = some .lt ∧
    (∀ v, Predicate.holds ⟨"key__range", ["key"], .range c a⟩ v = false) ∧
    Precedes true a c ∧
    (gte a).holds b = true ∧
    (gt a).holds c = !(lte a).holds c ∧
    (gt c).holds (.object []) = false := by
  intro a b c
  obtain ⟨-, -, hcongr, htrans, hrange, hbounds, hwider, hopposite, hnone⟩ := comparison_laws
  have hab : compare? a b = some .eq := by decide +kernel
  have hbc : compare? b c = some .lt := by decide +kernel
  have hca : compare? c a = some .gt := by decide +kernel
  refine ⟨hcongr a b c hab, htrans a b c _ _ hab hbc nofun nofun, hrange _ c a rfl hca, ?_, ?_,
    (hopposite c a _ hca).1, hnone _ c (gt c) true rfl (.inl rfl)⟩
  · exact hbounds b a c (gte a) (lt c) false true rfl rfl (by decide +kernel) (by decide +kernel)
  · have hgte : (gte b).holds b = true := by decide +kernel
    exact (hwider b a b (.inr ⟨rfl, hab⟩)).1 hgte

end Lookup

end Gazetteer
