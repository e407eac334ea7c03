import Gazetteer.Proofs.Refusal

/-!
# When the search for an arc ends

The ellipsoidal strategy improves an estimate again and again, until two positions turn out to
coincide or two estimates in a row hardly differ; a cap bounds how often. How numbers are rounded
plays no part in this, so that everything here is about `Numerics`, functions of which nothing is
known; the strategy is the case of floats (`calculate_eq`). `Ends` says at which step the iteration
ends by itself, without a word about a cap. The search finds that end if the cap leaves room for it
and nothing otherwise (`Numerics.search_cases`), which is why a higher cap changes no answer that
was found under a lower one (`calculate_of_cap_le`).
-/

namespace Gazetteer.Geodesy.Vincenty

/-- The numerical parts of the strategy: any functions between places, estimates, arcs and
distances. -/
structure Numerics (Place Estimate Arc Distance : Type) where
  /-- Refuses a place that is out of range. -/
  check : Place → Except Error Unit
  /-- Whether the two positions are taken for one without a search. -/
  coincide : Place → Bool
  first : Place → Estimate
  /-- The arc for an estimate and the next estimate; nothing if the positions coincide. -/
  refine? : Place → Estimate → Option (Arc × Estimate)
  /-- Whether an estimate hardly differs from the next one. -/
  settled : Estimate → Estimate → Bool
  length : Arc → Distance
  isFinite : Distance → Bool
  zero : Distance
  /-- The distance on the sphere. -/
  sphere : Place → Distance

namespace Numerics

variable {Place Estimate Arc Distance : Type} (c : Numerics Place Estimate Arc Distance) (p : Place)

/-- An arc, or none where the positions coincide, after at most so many refinements of an estimate;
nothing if they do not suffice. -/
def search : Nat → Estimate → Option (Option Arc)
  | 0, _ => none
  | steps + 1, x =>
    match c.refine? p x with
    | none => some none
    | some (arc, y) => if c.settled x y then some (some arc) else search steps y

/-- The distance that the search leads to. -/
def distance (cap : Nat) : Distance :=
  if c.coincide p then c.zero
  else
    match c.search p cap (c.first p) with
    | some none => c.zero
    | some (some arc) => if c.isFinite (c.length arc) then c.length arc else c.sphere p
    | none => c.sphere p

/-- The distance of a place that is in range, with a cap on the number of refinements. -/
def calculate (cap : Nat) : Except Error Distance := (c.check p).map fun _ => c.distance p cap

/-- The distance on the sphere of a place that is in range. -/
def onSphere : Except Error Distance := (c.check p).map fun _ => c.sphere p

/-! ## The iteration without a cap -/

/-- The iteration comes to an estimate after so many refinements, none of which ended it. -/
inductive Reaches : Nat → Estimate → Prop
  | first : Reaches 0 (c.first p)
  | next {i : Nat} {x y : Estimate} {arc : Arc} (hx : Reaches i x)
      (hrefine : c.refine? p x = some (arc, y)) (hsettled : c.settled x y = false) :
      Reaches (i + 1) y

/-- The refinement after so many others ends the iteration, with an arc or because the positions
coincide. -/
inductive Ends : Nat → Option Arc → Prop
  | coincident {i : Nat} {x : Estimate} (hx : c.Reaches p i x) (hrefine : c.refine? p x = none) :
      Ends i none
  | found {i : Nat} {x y : Estimate} {arc : Arc} (hx : c.Reaches p i x)
      (hrefine : c.refine? p x = some (arc, y)) (hsettled : c.settled x y = true) :
      Ends i (some arc)

/-- The iteration ends by itself before it has used up a cap. -/
def EndsWithin (cap : Nat) : Prop := ∃ i < cap, ∃ o, c.Ends p i o

/-- It ends with an arc whose length comes out as no finite number. -/
def LacksLength (cap : Nat) : Prop :=
  ∃ i < cap, ∃ arc, c.Ends p i (some arc) ∧ c.isFinite (c.length arc) = false

variable {c p} {i j cap : Nat} {x y : Estimate} {o o' : Option Arc}

theorem Reaches.unique (hx : c.Reaches p i x) (hy : c.Reaches p i y) : x = y := by
  induction hx generalizing y with
  | first => cases hy; rfl
  | next hx hrefine hsettled ih =>
      cases hy with
      | next hy hrefine' hsettled' =>
          obtain rfl := ih hy
          rw [hrefine] at hrefine'
          cases hrefine'
          rfl

/-- At an end the iteration does not go on. -/
theorem Ends.not_reaches (h : c.Ends p i o) : ¬c.Reaches p (i + 1) y := by
  rintro (_ | ⟨hy, hrefine, hsettled⟩)
  cases h with
  | coincident hx hnone =>
      obtain rfl := hx.unique hy
      rw [hnone] at hrefine
      cases hrefine
  | found hx hfound hend =>
      obtain rfl := hx.unique hy
      rw [hfound] at hrefine
      cases hrefine
      rw [hend] at hsettled
      cases hsettled

theorem Ends.le_of_reaches (h : c.Ends p i o) (hy : c.Reaches p j y) : j ≤ i := by
  induction hy with
  | first => exact Nat.zero_le i
  | next hx hrefine hsettled ih =>
      refine Nat.lt_of_le_of_ne ih fun heq => ?_
      subst heq
      exact h.not_reaches (.next hx hrefine hsettled)

theorem Ends.exists_reaches (h : c.Ends p i o) : ∃ x, c.Reaches p i x := by
  cases h with
  | coincident hx _ => exact ⟨_, hx⟩
  | found hx _ _ => exact ⟨_, hx⟩

/-- What an end gives is the arc for the estimate at which it is met, if there is one. -/
theorem Ends.eq_map (h : c.Ends p i o) (hx : c.Reaches p i x) : o = (c.refine? p x).map (·.1) := by
  cases h with
  | coincident hy hnone =>
      obtain rfl := hx.unique hy
      rw [hnone]
      rfl
  | found hy hfound _ =>
      obtain rfl := hx.unique hy
      rw [hfound]
      rfl

/-- The iteration has one end at most. -/
theorem Ends.unique (h : c.Ends p i o) (h' : c.Ends p j o') : o = o' := by
  obtain ⟨x, hx⟩ := h.exists_reaches
  obtain ⟨y, hy⟩ := h'.exists_reaches
  obtain rfl : i = j := Nat.le_antisymm (h'.le_of_reaches hx) (h.le_of_reaches hy)
  rw [h.eq_map hx, h'.eq_map hx]

/-! ## The search under a cap -/

/-- A search that starts in the middle of the iteration finds its end, or goes on to the last
refinement. -/
theorem search_of_reaches (hx : c.Reaches p i x) (steps : Nat) :
    (∃ j < i + steps, ∃ o, c.Ends p j o ∧ c.search p steps x = some o) ∨
      (∃ y, c.Reaches p (i + steps) y) ∧ c.search p steps x = none := by
  induction steps generalizing i x with
  | zero => exact .inr ⟨⟨x, hx⟩, rfl⟩
  | succ steps ih =>
      rw [search]
      cases hrefine : c.refine? p x with
      | none => exact .inl ⟨i, by omega, none, .coincident hx hrefine, rfl⟩
      | some next =>
          obtain ⟨arc, y⟩ := next
          cases hsettled : c.settled x y with
          | true => exact .inl ⟨i, by omega, some arc, .found hx hrefine hsettled, if_pos hsettled⟩
          | false =>
              have hrest := ih (.next hx hrefine hsettled)
              rw [Nat.add_right_comm, Nat.add_assoc] at hrest
              simpa only [hsettled, Bool.false_eq_true, if_false] using hrest

/-- The search gives the end of the iteration if there is one under the cap, and nothing
otherwise. -/
theorem search_cases (c : Numerics Place Estimate Arc Distance) (p : Place) (cap : Nat) :
    (∃ i < cap, ∃ o, c.Ends p i o ∧ c.search p cap (c.first p) = some o) ∨
      ¬c.EndsWithin p cap ∧ c.search p cap (c.first p) = none := by
  have hsearch := search_of_reaches (.first : c.Reaches p 0 (c.first p)) cap
  rw [Nat.zero_add] at hsearch
  refine hsearch.imp_right fun ⟨⟨y, hy⟩, hnone⟩ => ⟨?_, hnone⟩
  rintro ⟨i, hi, o, hend⟩
  exact Nat.not_le_of_lt hi (hend.le_of_reaches hy)

theorem search_of_ends (h : c.Ends p i o) (hi : i < cap) :
    c.search p cap (c.first p) = some o := by
  rcases c.search_cases p cap with ⟨j, -, o', hend, hsearch⟩ | ⟨hnot, -⟩
  · rw [hsearch, hend.unique h]
  · exact absurd ⟨i, hi, o, h⟩ hnot

theorem search_of_not_endsWithin (h : ¬c.EndsWithin p cap) :
    c.search p cap (c.first p) = none := by
  rcases c.search_cases p cap with ⟨i, hi, o, hend, -⟩ | ⟨-, hnone⟩
  · exact absurd ⟨i, hi, o, hend⟩ h
  · exact hnone

/-! ## Distances under a cap -/

theorem calculate_of_endsWithin {n m : Nat} (hnm : n ≤ m) (h : c.EndsWithin p n) :
    c.calculate p m = c.calculate p n := by
  obtain ⟨i, hi, o, hend⟩ := h
  have hn := search_of_ends hend hi
  have hm := search_of_ends hend (Nat.lt_of_lt_of_le hi hnm)
  rw [calculate, calculate, distance, distance, hn, hm]

theorem calculate_eq_onSphere (hapart : c.coincide p = false)
    (h : ¬c.EndsWithin p cap ∨ c.LacksLength p cap) : c.calculate p cap = c.onSphere p := by
  have hdistance : c.distance p cap = c.sphere p := by
    rw [distance, hapart, if_neg Bool.false_ne_true]
    rcases h with h | ⟨i, hi, arc, hend, hfinite⟩
    · rw [search_of_not_endsWithin h]
    · rw [search_of_ends hend hi]
      exact if_neg (Bool.eq_false_iff.mp hfinite)
  rw [calculate, onSphere, hdistance]

/-! ## Floats -/

/-- The numerical parts of the strategy with floats. -/
def floats (tolerance : Float) : Numerics Leg Float Leg.Arc Float where
  check := Leg.check
  coincide g := (g.lat1 - g.lat2).abs < coincidence && (g.lon1 - g.lon2).abs < coincidence
  first g := g.reduce.difference
  refine? g := g.reduce.refine?
  settled x y := (y - x).abs ≤ tolerance
  length := Leg.Arc.length
  isFinite := Float.isFinite
  zero := 0.0
  sphere := Leg.sphereDistance earthRadius

end Numerics

open Numerics

theorem search_floats (g : Leg) (tolerance : Float) (steps : Nat) (x : Float) :
    (floats tolerance).search g steps x =
      match g.reduce.search tolerance steps x with
      | .coincident => some none
      | .found arc => some (some arc)
      | .exhausted => none := by
  induction steps generalizing x with
  | zero => rfl
  | succ steps ih =>
      have hrefine : (floats tolerance).refine? g x = g.reduce.refine? x := rfl
      rw [Numerics.search, Leg.Reduced.search, hrefine]
      cases g.reduce.refine? x with
      | none => rfl
      | some next =>
          obtain ⟨arc, y⟩ := next
          have hsettled : (floats tolerance).settled x y = decide ((y - x).abs ≤ tolerance) := rfl
          by_cases hnear : (y - x).abs ≤ tolerance
          · simp only [hsettled, hnear, decide_true, if_true]
          · simp only [hsettled, hnear, decide_false, Bool.false_eq_true, if_false, ih]

/-- The strategy is what its numerical parts make with floats. -/
theorem calculate_eq (v : Vincenty) (g : Leg) :
    v.calculate g = (floats v.tolerance).calculate g v.maxIterations := by
  have hsearch := search_floats g v.tolerance v.maxIterations g.reduce.difference
  rw [calculate, Numerics.calculate]
  cases hcheck : g.check with
  | error e =>
      have hrefused : (floats v.tolerance).check g = .error e := hcheck
      rw [hrefused]
      rfl
  | ok u =>
      have haccepted : (floats v.tolerance).check g = .ok u := hcheck
      have honSphere : g.onSphere earthRadius = .ok (g.sphereDistance earthRadius) :=
        Leg.onSphere_of_check hcheck earthRadius
      rw [haccepted]
      show ite _ _ _ = Except.ok _
      rw [distance]
      cases hcoincide : (floats v.tolerance).coincide g with
      | true => exact if_pos hcoincide
      | false =>
          refine (if_neg (Bool.eq_false_iff.mp hcoincide)).trans ?_
          have hfirst : (floats v.tolerance).first g = g.reduce.difference := rfl
          rw [if_neg Bool.false_ne_true, hfirst, hsearch]
          cases g.reduce.search v.tolerance v.maxIterations g.reduce.difference with
          | coincident => rfl
          | exhausted => exact honSphere
          | found arc =>
              have hfinite : (floats v.tolerance).isFinite ((floats v.tolerance).length arc) =
                  arc.length.isFinite := rfl
              simp only [hfinite]
              cases arc.length.isFinite with
              | true => rfl
              | false => exact honSphere

/-- **A cap decides whether the strategy finds an arc, and not which.** Whatever functions stand for
the numerical parts: if the iteration ends by itself under a cap, every higher cap leads to the same
answer; and if it does not, or if the arc has no finite length, the answer is that of the sphere. So
it is for the strategy itself, which has floats for numbers. -/
theorem calculate_of_cap_le {Place Estimate Arc Distance : Type}
    (c : Numerics Place Estimate Arc Distance) (p : Place) (g : Leg) (tolerance : Float) {n m : Nat}
    (hn : 1 ≤ n) (hnm : n ≤ m) :
    ((c.EndsWithin p n → c.calculate p m = c.calculate p n) ∧
      (c.coincide p = false → ¬c.EndsWithin p n ∨ c.LacksLength p n →
        c.calculate p n = c.onSphere p)) ∧
    (((floats tolerance).EndsWithin g n →
        (Vincenty.of m tolerance).calculate g = (Vincenty.of n tolerance).calculate g) ∧
      ((floats tolerance).coincide g = false →
        ¬(floats tolerance).EndsWithin g n ∨ (floats tolerance).LacksLength g n →
        (Vincenty.of n tolerance).calculate g =
          Strategy.calculate (.haversine earthRadius) g)) := by
  have hstrategy : ∀ cap, 1 ≤ cap →
      (Vincenty.of cap tolerance).calculate g = (floats tolerance).calculate g cap := by
    intro cap hcap
    rw [calculate_eq]
    exact congrArg _ (Nat.max_eq_left hcap)
  refine ⟨⟨calculate_of_endsWithin hnm, calculate_eq_onSphere⟩, fun h => ?_, fun hapart h => ?_⟩
  · rw [hstrategy n hn, hstrategy m (Nat.le_trans hn hnm)]
    exact calculate_of_endsWithin hnm h
  · rw [hstrategy n hn, calculate_eq_onSphere hapart h]
    rfl

/-- Whole numbers that are halved until that makes no difference of more than one. Three counts as a
pair of positions that coincide, and an arc of two has no length. -/
def halving : Numerics Nat Nat Nat Nat where
  check _ := .ok ()
  coincide x := x = 0
  first x := x
  refine? _ x := if x = 3 then none else some (x, x / 2)
  settled x y := x ≤ y + 1
  length x := x
  isFinite x := x ≠ 2
  zero := 0
  sphere x := 100 * x

theorem calculate_of_cap_le_halving :
    let g : Leg := ⟨40.7128, -74.006, 51.5074, -0.1278⟩
    (halving.EndsWithin 12 3 ∧ halving.calculate 12 50 = halving.calculate 12 3) ∧
    (¬halving.EndsWithin 12 2 ∧ halving.calculate 12 2 = .ok 1200) ∧
    (halving.LacksLength 40 5 ∧ halving.calculate 40 5 = .ok 4000) ∧
    (floats 1e-12).coincide g = false ∧
    ((Vincenty.of 100 1e-12).calculate g = (Vincenty.of 1 1e-12).calculate g ∨
      (Vincenty.of 1 1e-12).calculate g = Strategy.calculate (.haversine earthRadius) g) := by
  intro g
  have hfour : halving.Reaches 40 4 2 :=
    .next (.next (.next (.next .first rfl rfl) rfl rfl) rfl rfl) rfl rfl
  have htwo : halving.Reaches 12 2 3 := .next (.next .first rfl rfl) rfl rfl
  have hend : halving.EndsWithin 12 3 := ⟨2, by decide, none, .coincident htwo rfl⟩
  have hlacks : halving.LacksLength 40 5 := ⟨4, by decide, 2, .found hfour rfl rfl, rfl⟩
  have hnot : ¬halving.EndsWithin 12 2 := fun ⟨_, hi, _, h⟩ =>
    Nat.not_le_of_lt hi (h.le_of_reaches htwo)
  have hapart : (floats 1e-12).coincide g = false := by decide
  have hfirst := calculate_of_cap_le halving 12 g 1e-12 (n := 3) (m := 50) (by decide) (by decide)
  have hsecond := calculate_of_cap_le halving 12 g 1e-12 (n := 2) (m := 2) (by decide) (by decide)
  have hthird := calculate_of_cap_le halving 40 g 1e-12 (n := 5) (m := 5) (by decide) (by decide)
  have hfloats :=
    (calculate_of_cap_le halving 12 g 1e-12 (n := 1) (m := 100) (by decide) (by decide)).2
  refine ⟨⟨hend, hfirst.1.1 hend⟩, ⟨hnot, hsecond.1.2 rfl (.inl hnot)⟩,
    ⟨hlacks, hthird.1.2 rfl (.inr hlacks)⟩, hapart, ?_⟩
  by_cases h : (floats 1e-12).EndsWithin g 1
  · exact .inl (hfloats.1 h)
  · exact .inr (hfloats.2 hapart (.inl h))

end Gazetteer.Geodesy.Vincenty
