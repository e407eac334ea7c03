import Gazetteer.Lookup.Predicate
import Gazetteer.Proofs.FloatOrder
import Gazetteer.Proofs.OrderBy
import Gazetteer.Proofs.Ranking

/-!
# Sorting and comparison

Lookups compare by `Value.compare?` and sorting goes by `Value.sortOrder`. Where the first one is
defined, the two agree unless the values have a zero and a negative zero at one place
(`Value.sortOrder_eq_iff`): for a lookup these are equal, so that what follows them decides, while
sorting tells them apart. A collection that has been ordered is in order for the lookups as well,
up to that (`Selection.orderBy_follows_comparison`).
-/

namespace Gazetteer

namespace Value

/-! ## Where the two orders disagree -/

/-- Two numbers that are the zero and the negative zero. -/
def ZeroTwins (x y : Value) : Prop :=
  ∃ u v, x.number? = some u ∧ y.number? = some v ∧ OppositeZeros u v

theorem sortOrder_of_number? {x y : Value} {u v : Float} (hx : x.number? = some u)
    (hy : y.number? = some v) : sortOrder x y = orderFloats u v := by
  cases x <;> cases hx <;> cases y <;> cases hy <;> rw [sortOrder]

theorem compare?_of_number? {x y : Value} {u v : Float} (hx : x.number? = some u)
    (hy : y.number? = some v) : compare? x y = compareFloats? u v := by
  cases x <;> cases hx <;> cases y <;> cases hy <;> rw [compare?]

theorem ZeroTwins.sortOrder_ne {x y : Value} (h : ZeroTwins x y) : sortOrder x y ≠ .eq := by
  obtain ⟨u, v, hx, hy, hzeros⟩ := h
  rw [sortOrder_of_number? hx hy]
  exact hzeros.orderFloats_ne

/-- Lists on which the two orders disagree have items on which they do, after equal ones. -/
theorem exists_disagreement {xs ys : List Value} {o : Ordering}
    (h : compareItems? xs ys = some o) (hne : sortOrderItems xs ys ≠ o) :
    ∃ front x rest front' y rest' p, xs = front ++ x :: rest ∧ ys = front' ++ y :: rest' ∧
      sortOrderItems front front' = .eq ∧ compare? x y = some p ∧ sortOrder x y ≠ p := by
  induction xs generalizing ys with
  | nil =>
      cases ys with
      | nil => exact absurd (Option.some.inj h) hne
      | cons y ys => exact absurd (Option.some.inj h) hne
  | cons x xs ih =>
      cases ys with
      | nil => exact absurd (Option.some.inj h) hne
      | cons y ys =>
          cases hp : compare? x y with
          | none =>
              rw [compareItems?, hp] at h
              cases h
          | some p =>
              by_cases hxy : sortOrder x y = p
              · rw [compareItems?, hp] at h
                rw [sortOrderItems_cons, hxy] at hne
                cases p with
                | eq =>
                    -- equal for both, so that the rests disagree
                    obtain ⟨front, x', rest, front', y', rest', q, rfl, rfl, hfront, hq⟩ := ih h hne
                    refine ⟨x :: front, x', rest, y :: front', y', rest', q, rfl, rfl, ?_, hq⟩
                    rw [sortOrderItems_cons, hxy]
                    exact hfront
                -- otherwise the heads decide, and for both the same way
                | lt => exact absurd (Option.some.inj h) hne
                | gt => exact absurd (Option.some.inj h) hne
              · exact ⟨[], x, xs, [], y, ys, p, rfl, rfl, rfl, hp, hxy⟩

/-- Values on which the two orders disagree have the two zeros at one place. -/
theorem exists_zeroTwins {a : Value} : ∀ {b : Value} {o : Ordering}, compare? a b = some o →
    sortOrder a b ≠ o → ∃ x y, Aligned a b x y ∧ ZeroTwins x y := by
  induction a using induct_items with
  | _ a ih =>
      intro b o h hne
      have hnumbers {u v : Float} (hu : a.number? = some u) (hv : b.number? = some v) :
          ∃ x y, Aligned a b x y ∧ ZeroTwins x y := by
        rw [compare?_of_number? hu hv] at h
        rw [sortOrder_of_number? hu hv] at hne
        have hzeros := (orderFloats_eq_or_zeros h).resolve_left hne
        exact ⟨a, b, .here a b, u, v, hu, hv, hzeros.2⟩
      cases a with
      | array xs =>
          cases b with
          | array ys =>
              -- what disagrees is an item, for which the statement holds already
              rw [compare?] at h
              rw [sortOrder] at hne
              obtain ⟨front, x, rest, front', y, rest', p, rfl, rfl, hfront, hp, hxy⟩ :=
                exists_disagreement h hne
              have hmem : x ∈ items (.array (front ++ x :: rest)) :=
                List.mem_append_right _ List.mem_cons_self
              obtain ⟨u, v, haligned, htwins⟩ := ih x hmem hp hxy
              exact ⟨u, v, .item front rest front' rest' hfront haligned, htwins⟩
          | _ => cases h
      | int m =>
          cases b with
          | int n => exact hnumbers rfl rfl
          | float y => exact hnumbers rfl rfl
          | _ => cases h
      | float x =>
          cases b with
          | int n => exact hnumbers rfl rfl
          | float y => exact hnumbers rfl rfl
          | _ => cases h
      -- within any other type the two orders are one
      | _ => cases b <;> first | exact absurd (Option.some.inj h) hne | cases h

theorem sortOrder_eq_iff {a b : Value} {o : Ordering} (h : compare? a b = some o) :
    sortOrder a b = o ↔ ∀ x y, Aligned a b x y → ZeroTwins x y → sortOrder x y = o := by
  constructor
  · intro heq x y haligned htwins
    rwa [← sortOrder_of_aligned haligned htwins.sortOrder_ne]
  · intro hzeros
    refine Decidable.byContradiction fun hne => ?_
    obtain ⟨x, y, haligned, htwins⟩ := exists_zeroTwins h hne
    apply hne
    rw [sortOrder_of_aligned haligned htwins.sortOrder_ne]
    exact hzeros x y haligned htwins

theorem ZeroTwins.symm {x y : Value} (h : ZeroTwins x y) : ZeroTwins y x := by
  obtain ⟨u, v, hx, hy, ⟨hu, hv⟩ | ⟨hu, hv⟩⟩ := h
  · exact ⟨v, u, hy, hx, Or.inr ⟨hv, hu⟩⟩
  · exact ⟨v, u, hy, hx, Or.inl ⟨hv, hu⟩⟩

end Value

namespace Selection

open Value

/-! ## Ordering a collection -/

/-- For the strict lookups a value is smaller than another one. -/
def Smaller (v w : Value) : Prop := (Lookup.lt w).holds v = true ∨ (Lookup.gt v).holds w = true

theorem smaller_iff {v w : Value} :
    Smaller v w ↔ compare? v w = some .lt ∨ compare? w v = some .gt := by
  simp only [Smaller, Lookup.holds, beq_iff_eq]

theorem exists_zeroTwins_of_smaller {v w : Value} (h : Smaller v w) (hne : sortOrder v w ≠ .lt) :
    ∃ x y, Aligned v w x y ∧ ZeroTwins x y := by
  rcases smaller_iff.mp h with hlt | hgt
  · exact exists_zeroTwins hlt hne
  · have hne' : sortOrder w v ≠ .gt := by
      rw [sortOrder_swap]
      intro hswap
      exact hne (Ordering.swap_eq_gt.mp hswap)
    obtain ⟨x, y, haligned, htwins⟩ := exists_zeroTwins hgt hne'
    exact ⟨y, x, haligned.symm, htwins.symm⟩

/-- What is in order by several fields is in order by the first one. -/
theorem fieldOrder_ne_gt {a : Atlas} {field : String} {fields : List String} {r q : Ref}
    (h : fieldsOrder a (field :: fields) r q ≠ .gt) : fieldOrder a field r q ≠ .gt := by
  intro hgt
  apply h
  show (fieldOrder a field r q).then _ = .gt
  rw [hgt]
  rfl

/-- **Sorting follows comparison except at the zeros.** Where two values can be compared, the order
that sorting uses is the same exactly if it orders any zero and negative zero that stand at one
place in them the same way. So in a collection that has been ordered by some fields no entity stands
before one whose value of the first field is smaller for the lookups, or greater in descending
order, unless their values have such zeros at one place. A collection with a hidden entity is never
ordered: at that the program panics. -/
theorem orderBy_follows_comparison (v w : Value) (a : Atlas) (s t : Selection) (field : String)
    (fields : List String) :
    (∀ o, compare? v w = some o →
      (sortOrder v w = o ↔ ∀ x y, Aligned v w x y → ZeroTwins x y → sortOrder x y = o)) ∧
    (s.orderBy a (field :: fields) = .ok t →
      t.items.Pairwise fun r q =>
        (if (orderKey field).2 then Smaller (orderValue a field r) (orderValue a field q)
          else Smaller (orderValue a field q) (orderValue a field r)) →
        ∃ x y, Aligned (orderValue a field r) (orderValue a field q) x y ∧ ZeroTwins x y) := by
  refine ⟨fun o h => sortOrder_eq_iff h, fun ht => ?_⟩
  have hmax : (field :: fields).length ≤ maxOrderFields := by
    refine Nat.le_of_not_lt fun hlt => ?_
    rw [orderBy, if_neg (by simp), if_pos hlt] at ht
    cases ht
  obtain ⟨-, rfl⟩ := (orderBy_eq_ok_iff (by simp) hmax).mp ht
  -- the first field counts most, so that two entities in order are in order by it
  refine (pairwise_sortedBy s.items).imp fun {r q} hrq hsmaller => ?_
  have hfield := fieldOrder_ne_gt hrq
  unfold fieldOrder direction at hfield
  cases hdescending : (orderKey field).2 with
  | true =>
      rw [hdescending] at hfield hsmaller
      refine exists_zeroTwins_of_smaller hsmaller fun hlt => hfield ?_
      rw [if_pos rfl, hlt]
      rfl
  | false =>
      rw [hdescending] at hfield hsmaller
      have hne : sortOrder (orderValue a field q) (orderValue a field r) ≠ .lt := by
        rw [sortOrder_swap]
        intro hswap
        exact hfield (Ordering.swap_eq_lt.mp hswap)
      obtain ⟨x, y, haligned, htwins⟩ := exists_zeroTwins_of_smaller hsmaller hne
      exact ⟨y, x, haligned.symm, htwins.symm⟩

theorem sortedBy_pair_of_gt {α : Type} {cmp : α → α → Ordering} {x y : α} (h : cmp x y = .gt) :
    sortedBy cmp [x, y] = [y, x] := by
  simp [sortedBy, List.mergeSort, List.MergeSort.Internal.splitInTwo, h]

/-- Two paths that begin on the prime meridian, but on either side of it. -/
def meridian : Atlas where
  nodes := #[
    some ⟨{}, .path { vertices := [⟨0.0, 1.0, 0.0, by decide, by decide, by decide⟩] }⟩,
    some ⟨{}, .path { vertices := [⟨-0.0, 2.0, 0.0, by decide, by decide, by decide⟩] }⟩]

theorem orderBy_follows_comparison_meridian :
    (compare? (.array [.float (-0.0), .int 2]) (.array [.float 0.0, .int 1]) = some .gt ∧
      sortOrder (.array [.float (-0.0), .int 2]) (.array [.float 0.0, .int 1]) ≠ .gt) ∧
    ∃ t, orderBy meridian { kind := .path, items := meridian.refs } ["coordinates"] = .ok t ∧
      t.items = [⟨.path, 1⟩, ⟨.path, 0⟩] ∧
      Smaller (orderValue meridian "coordinates" ⟨.path, 0⟩)
        (orderValue meridian "coordinates" ⟨.path, 1⟩) ∧
      ∃ x y, Aligned (orderValue meridian "coordinates" ⟨.path, 1⟩)
        (orderValue meridian "coordinates" ⟨.path, 0⟩) x y ∧ ZeroTwins x y := by
  have horderable : ∀ field ∈ ["coordinates"], Orderable meridian meridian.refs field := by
    decide
  have hitems : sortedBy (fieldsOrder meridian ["coordinates"]) meridian.refs =
      [⟨.path, 1⟩, ⟨.path, 0⟩] :=
    sortedBy_pair_of_gt (by decide +kernel)
  have hsmaller : Smaller (orderValue meridian "coordinates" ⟨.path, 0⟩)
      (orderValue meridian "coordinates" ⟨.path, 1⟩) := Or.inl (by decide +kernel)
  obtain ⟨t, ht⟩ : ∃ t, orderBy meridian { kind := .path, items := meridian.refs }
      ["coordinates"] = .ok t :=
    ⟨_, (orderBy_eq_ok_iff (by decide) (by decide)).mpr ⟨horderable, rfl⟩⟩
  have hsorted : t.items = [⟨.path, 1⟩, ⟨.path, 0⟩] := by
    rw [((orderBy_eq_ok_iff (by decide) (by decide)).mp ht).2]
    exact hitems
  have hgt : compare? (.array [.float (-0.0), .int 2]) (.array [.float 0.0, .int 1]) = some .gt := by
    decide +kernel
  obtain ⟨hagree, hpairs⟩ := orderBy_follows_comparison (.array [.float (-0.0), .int 2])
    (.array [.float 0.0, .int 1]) meridian _ t "coordinates" []
  refine ⟨⟨hgt, fun heq => ?_⟩, t, ht, hsorted, hsmaller, ?_⟩
  · have hzeros : ZeroTwins (.float (-0.0)) (.float 0.0) := ⟨-0.0, 0.0, rfl, rfl, .inr ⟨rfl, rfl⟩⟩
    have hfirst : sortOrder (.float (-0.0)) (.float 0.0) = .gt :=
      (hagree .gt hgt).mp heq _ _ (.item [] [.int 2] [] [.int 1] rfl (.here _ _)) hzeros
    revert hfirst
    decide +kernel
  · have hpair := hpairs ht
    rw [hsorted] at hpair
    exact (List.pairwise_cons.mp hpair).1 _ (by simp) hsmaller

end Selection

end Gazetteer
