import Gazetteer.Proofs.Comparison
import Gazetteer.Proofs.PartialOrder
import Mathlib.Data.List.Forall2

/-!
# Equality and comparison

`Value.equal` takes two numbers as floats, but inside of arrays it tells a whole number from a
float and from every other whole number, where `Value.compare?` goes on to take them as floats. So
of values that can be compared the equal ones compare as equal, but the other way round only if no
two numbers at one place inside of them are conflated by being taken as floats
(`Lookup.equality_laws`).
-/

namespace Gazetteer

namespace Value

/-! ## Items that are equal -/

/-- Two numbers that are not the same, but as floats are equal. -/
def Conflated : Value → Value → Prop
  | .int m, .int n => m ≠ n ∧ (Float.ofInt m == Float.ofInt n) = true
  | .int m, .float y => (Float.ofInt m == y) = true
  | .float x, .int n => (x == Float.ofInt n) = true
  | _, _ => False

/-- The values `x` and `y` stand at one place in `a` and `b`. -/
inductive Beside : Value → Value → Value → Value → Prop where
  | here (x y : Value) : Beside x y x y
  | item {xs ys : List Value} {x y u v : Value} (hmem : (x, y) ∈ xs.zip ys)
      (h : Beside x y u v) : Beside (.array xs) (.array ys) u v

/-- Two conflated numbers stand at one place inside of two arrays. -/
def ConflatedInside (a b : Value) : Prop :=
  ∃ x y, (x, y) ∈ a.items.zip b.items ∧ ∃ u v, Beside x y u v ∧ Conflated u v

theorem identicalItems_iff {xs ys : List Value} :
    identicalItems xs ys = true ↔ List.Forall₂ (fun x y => identical x y = true) xs ys := by
  induction xs generalizing ys with
  | nil => cases ys <;> simp [identicalItems]
  | cons x xs ih => cases ys <;> simp [identicalItems, ih]

theorem compareItems?_eq_some_eq_iff {xs ys : List Value} :
    compareItems? xs ys = some .eq ↔ List.Forall₂ (fun x y => compare? x y = some .eq) xs ys := by
  induction xs generalizing ys with
  | nil => cases ys <;> simp [compareItems?]
  | cons x xs ih =>
      cases ys with
      | nil => simp [compareItems?]
      | cons y ys =>
          rw [compareItems?_cons, List.forall₂_cons, ← ih]
          rcases compare? x y with _ | _ | _ | _ <;> simp [thenCompare]

theorem compareFloats?_eq_some_eq_iff {x y : Float} :
    compareFloats? x y = some .eq ↔ (x == y) = true := by
  rw [compareFloats?_eq_order]
  exact beq_iff_eq.symm

theorem exists_beside_array_iff {xs ys : List Value} :
    (∃ u v, Beside (.array xs) (.array ys) u v ∧ Conflated u v) ↔
      ConflatedInside (.array xs) (.array ys) := by
  constructor
  · rintro ⟨u, v, h, hconflated⟩
    cases h with
    | here => cases hconflated
    | item hmem h => exact ⟨_, _, hmem, u, v, h, hconflated⟩
  · rintro ⟨x, y, hmem, u, v, h, hconflated⟩
    exact ⟨u, v, .item hmem h, hconflated⟩

theorem exists_beside_iff {a b : Value} (ha : ∀ xs, a ≠ .array xs) :
    (∃ u v, Beside a b u v ∧ Conflated u v) ↔ Conflated a b := by
  constructor
  · rintro ⟨u, v, h, hconflated⟩
    cases h with
    | here => exact hconflated
    | item => exact absurd rfl (ha _)
  · exact fun h => ⟨a, b, .here a b, h⟩

/-- Without arrays, only numbers can compare as equal and not be the same. -/
theorem identical_iff_not_conflated {a b : Value} (ha : ∀ xs, a ≠ .array xs)
    (h : compare? a b = some .eq) : identical a b = true ↔ ¬Conflated a b := by
  cases a with
  | array xs => exact absurd rfl (ha xs)
  | int m =>
      cases b with
      | int n =>
          have hequal := compareFloats?_eq_some_eq_iff.mp h
          simp [identical, Conflated, hequal]
      | float y =>
          have hequal := compareFloats?_eq_some_eq_iff.mp h
          simp [identical, Conflated, hequal]
      | _ => cases h
  | float x =>
      cases b with
      | int n =>
          have hequal := compareFloats?_eq_some_eq_iff.mp h
          simp [identical, Conflated, hequal]
      | float y =>
          have hequal := compareFloats?_eq_some_eq_iff.mp h
          simp [identical, Conflated, hequal]
      | _ => cases h
  | string s =>
      cases b with
      | string t =>
          have hequal : s = t := Std.LawfulEqOrd.eq_of_compare (Option.some.inj h)
          simp [identical, Conflated, hequal]
      | _ => cases h
  | bool c =>
      cases b with
      | bool d =>
          have hequal : c = d := Std.LawfulEqOrd.eq_of_compare (Option.some.inj h)
          simp [identical, Conflated, hequal]
      | _ => cases h
  | null =>
      cases b with
      | null => simp [identical, Conflated]
      | _ => cases h
  | object members => cases b <;> cases h

/-- Values that compare as equal are the same up to the numbers that are conflated. -/
theorem identical_iff {a : Value} : ∀ {b : Value}, compare? a b = some .eq →
    (identical a b = true ↔ ¬∃ u v, Beside a b u v ∧ Conflated u v) := by
  induction a using induct_items with
  | _ a ih =>
      intro b h
      by_cases ha : ∀ xs, a ≠ .array xs
      · rw [exists_beside_iff ha]
        exact identical_iff_not_conflated ha h
      · obtain ⟨xs, hxs⟩ := not_forall_not.mp ha
        subst hxs
        cases b with
        | array ys =>
            -- the items compare as equal, so that each pair of them is the same up to conflated
            -- numbers inside of it
            have hitems := compareItems?_eq_some_eq_iff.mp h
            rw [List.forall₂_iff_zip] at hitems
            rw [identical, identicalItems_iff, List.forall₂_iff_zip, exists_beside_array_iff]
            constructor
            · rintro ⟨-, hsame⟩ ⟨x, y, hmem, hinside⟩
              exact (ih x (List.of_mem_zip hmem).1 (hitems.2 hmem)).mp (hsame hmem) hinside
            · intro hnone
              refine ⟨hitems.1, fun {x y} hmem => ?_⟩
              refine (ih x (List.of_mem_zip hmem).1 (hitems.2 hmem)).mpr fun hinside => ?_
              exact hnone ⟨x, y, hmem, hinside⟩
        | _ => cases h

theorem eq_of_identicalItems {xs ys : List Value} {o : Ordering}
    (ih : ∀ x ∈ xs, ∀ y o, identical x y = true → compare? x y = some o → o = .eq)
    (hsame : identicalItems xs ys = true) (h : compareItems? xs ys = some o) : o = .eq := by
  rw [identicalItems_iff] at hsame
  induction hsame with
  | nil => exact (Option.some.inj h).symm
  | cons hxy _ ih' =>
      obtain ⟨hx, hxs⟩ := List.forall_mem_cons.mp ih
      rw [compareItems?_cons] at h
      cases hp : compare? _ _ with
      | none => rw [hp] at h; cases h
      | some p =>
          obtain rfl := hx _ p hxy hp
          rw [hp] at h
          exact ih' hxs h

/-- Values that are the same compare as equal, if at all. -/
theorem eq_of_identical {a : Value} : ∀ (b : Value) (o : Ordering), identical a b = true →
    compare? a b = some o → o = .eq := by
  induction a using induct_items with
  | _ a ih =>
      intro b o hsame h
      cases a with
      | array xs =>
          cases b with
          | array ys => exact eq_of_identicalItems ih hsame h
          | _ => cases h
      | float x =>
          cases b with
          | float y =>
              have heq : compareFloats? x y = some .eq := compareFloats?_eq_some_eq_iff.mpr hsame
              exact Option.some.inj (h.symm.trans heq)
          | _ => cases hsame
      | object members => cases b <;> cases h
      -- anything else is the same as itself only
      | int m =>
          cases b with
          | int n => obtain rfl : m = n := eq_of_beq hsame; exact eq_of_compare?_self h
          | _ => cases hsame
      | string s =>
          cases b with
          | string t => obtain rfl : s = t := eq_of_beq hsame; exact eq_of_compare?_self h
          | _ => cases hsame
      | bool c =>
          cases b with
          | bool d => obtain rfl : c = d := eq_of_beq hsame; exact eq_of_compare?_self h
          | _ => cases hsame
      | null =>
          cases b with
          | null => exact eq_of_compare?_self h
          | _ => cases hsame

/-! ## Equality -/

theorem equal_of_number? {a b : Value} {x y : Float} (ha : a.number? = some x)
    (hb : b.number? = some y) : a.equal b = (x == y) := by
  rw [equal, ha, hb]

theorem equal_of_number?_eq_none {a b : Value} (ha : a.number? = none) :
    a.equal b = identical a b := by
  rw [equal, ha]

theorem exists_number?_of_compare? {a b : Value} {x : Float} {o : Ordering}
    (ha : a.number? = some x) (h : compare? a b = some o) : ∃ y, b.number? = some y := by
  cases a <;> cases ha <;> cases b <;> first | exact ⟨_, rfl⟩ | cases h

/-- Two values that compare as equal are equal unless numbers inside of them are conflated. -/
theorem equal_iff {a b : Value} (h : compare? a b = some .eq) :
    a.equal b = true ↔ ¬ConflatedInside a b := by
  have hinside (hitems : a.items = []) : ¬ConflatedInside a b := by
    rintro ⟨x, y, hmem, -⟩
    rw [hitems] at hmem
    cases hmem
  cases ha : a.number? with
  | some x =>
      obtain ⟨y, hb⟩ := exists_number?_of_compare? ha h
      rw [compare?_of_number? ha hb] at h
      rw [equal_of_number? ha hb]
      refine iff_of_true (compareFloats?_eq_some_eq_iff.mp h) (hinside ?_)
      cases a <;> first | rfl | cases ha
  | none =>
      rw [equal_of_number?_eq_none ha, identical_iff h]
      cases a with
      | array xs =>
          cases b with
          | array ys => exact not_congr exists_beside_array_iff
          | _ => cases h
      | int n => cases ha
      | float x => cases ha
      | _ =>
          rw [exists_beside_iff (by simp)]
          exact iff_of_true (by simp [Conflated]) (hinside rfl)

/-- Values that are equal compare as equal, if at all. -/
theorem eq_of_equal {a b : Value} {o : Ordering} (hequal : a.equal b = true)
    (h : compare? a b = some o) : o = .eq := by
  cases ha : a.number? with
  | some x =>
      obtain ⟨y, hb⟩ := exists_number?_of_compare? ha h
      rw [equal_of_number? ha hb] at hequal
      rw [compare?_of_number? ha hb, compareFloats?_eq_some_eq_iff.mpr hequal] at h
      exact (Option.some.inj h).symm
  | none =>
      rw [equal_of_number?_eq_none ha] at hequal
      exact eq_of_identical b o hequal h

end Value

namespace Lookup

open Value

/-- **Equality agrees with comparison except for conflated numbers.** Of two values that can be
compared the equal ones compare as equal. The other way round, and for the lookups that leave it to
equality or to comparison whether the operand itself belongs to them, the two agree exactly unless
the values compare as equal although two numbers at one place inside of them are only equal as
floats. -/
theorem equality_laws (v w : Value) (o : Ordering) (h : compare? v w = some o) :
    (v.equal w = true → o = .eq) ∧
    ((v.equal w = true ↔ o = .eq) ↔ ¬(o = .eq ∧ ConflatedInside v w)) ∧
    ((gte w).holds v = ((gt w).holds v || (exact w).holds v) ↔
      ¬(o = .eq ∧ ConflatedInside v w)) ∧
    ((lte w).holds v = ((lt w).holds v || (exact w).holds v) ↔
      ¬(o = .eq ∧ ConflatedInside v w)) ∧
    ((range w w).holds v = (exact w).holds v ↔ ¬(o = .eq ∧ ConflatedInside v w)) := by
  have hequal : v.equal w = true ↔ o = .eq ∧ ¬ConflatedInside v w := by
    constructor
    · intro hvw
      obtain rfl := eq_of_equal hvw h
      exact ⟨rfl, (equal_iff h).mp hvw⟩
    · rintro ⟨rfl, hinside⟩
      exact (equal_iff h).mpr hinside
  refine ⟨fun hvw => (hequal.mp hvw).1, ?_⟩
  cases o with
  | eq =>
      by_cases hinside : ConflatedInside v w
      · have hne : v.equal w = false := by simp [← Bool.not_eq_true, hequal, hinside]
        simp [holds, atLeast, atMost, h, hne, hinside]
      · have heq : v.equal w = true := hequal.mpr ⟨rfl, hinside⟩
        simp [holds, atLeast, atMost, h, heq, hinside]
  | lt | gt =>
      have hne : v.equal w = false := by simp [← Bool.not_eq_true, hequal]
      simp [holds, atLeast, atMost, h, hne]

/-- The first items are one number, written as a whole one and as a float. -/
theorem equality_laws_mixed :
    compare? (.array [.int 1, .string "a"]) (.array [.float 1.0, .string "a"]) = some .eq ∧
    ¬equal (.array [.int 1, .string "a"]) (.array [.float 1.0, .string "a"]) = true ∧
    equal (.array [.int 1, .string "a"]) (.array [.int 1, .string "a"]) = true := by
  have hmixed : compare? (.array [.int 1, .string "a"]) (.array [.float 1.0, .string "a"]) =
      some .eq := by decide +kernel
  have hsame : compare? (.array [.int 1, .string "a"]) (.array [.int 1, .string "a"]) =
      some .eq := by decide +kernel
  have hinside : ConflatedInside (.array [.int 1, .string "a"])
      (.array [.float 1.0, .string "a"]) := by
    refine ⟨.int 1, .float 1.0, List.mem_cons_self, .int 1, .float 1.0, .here _ _, ?_⟩
    show (Float.ofInt 1 == 1.0) = true
    decide +kernel
  refine ⟨hmixed, fun hequal => ?_, ?_⟩
  · have hlaw := (equality_laws _ _ _ hmixed).2.1
    exact hlaw.mp (iff_of_true hequal rfl) ⟨rfl, hinside⟩
  · refine ((equality_laws _ _ _ hsame).2.1.mpr ?_).mpr rfl
    rintro ⟨-, x, y, hmem, u, v, hbeside, hconflated⟩
    simp only [items, List.zip_cons_cons, List.zip_nil_right, List.mem_cons, Prod.mk.injEq,
      List.not_mem_nil, or_false] at hmem
    rcases hmem with ⟨rfl, rfl⟩ | ⟨rfl, rfl⟩ <;> cases hbeside
    · exact hconflated.1 rfl
    · exact hconflated

end Lookup

end Gazetteer
