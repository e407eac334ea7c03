import Gazetteer.Proofs.SortOrder

/-!
# What decides the order of two values

Two arrays are ordered by the first items that differ, and these in turn by their own first items
that differ: `Aligned a b x y` says that `x` and `y` stand at such a place in `a` and `b`, everything
before them being equal. If they differ, they decide (`sortOrder_of_aligned`), so that the ranks of
the types count at every depth.
-/

namespace Gazetteer.Value

open Std

/-! ## Places in two values -/

/-- The value `x` in `a` and the value `y` in `b` stand at one place, and all that is compared
before them is equal. -/
inductive Aligned : Value → Value → Value → Value → Prop where
  | here (x y : Value) : Aligned x y x y
  | item {x y u v : Value} (front rest front' rest' : List Value)
      (hfront : sortOrderItems front front' = .eq) (h : Aligned x y u v) :
      Aligned (.array (front ++ x :: rest)) (.array (front' ++ y :: rest')) u v

/-- What follows equal items is compared by itself. -/
theorem sortOrderItems_append {front front' : List Value}
    (h : sortOrderItems front front' = .eq) (xs ys : List Value) :
    sortOrderItems (front ++ xs) (front' ++ ys) = sortOrderItems xs ys := by
  induction front generalizing front' with
  | nil =>
      cases front' with
      | nil => rfl
      | cons y front' => cases h
  | cons x front ih =>
      cases front' with
      | nil => cases h
      | cons y front' =>
          rw [sortOrderItems_cons, Ordering.then_eq_eq] at h
          rw [List.cons_append, List.cons_append, sortOrderItems_cons, h.1]
          exact ih h.2

/-- Values that differ decide the order of all that they stand in. -/
theorem sortOrder_of_aligned {a b x y : Value} (h : Aligned a b x y) (hne : sortOrder x y ≠ .eq) :
    sortOrder a b = sortOrder x y := by
  induction h with
  | here x y => rfl
  | @item x y u v front rest front' rest' hfront _ ih =>
      have hxy : sortOrder x y = sortOrder u v := ih hne
      calc sortOrder (.array (front ++ x :: rest)) (.array (front' ++ y :: rest'))
          = sortOrderItems (front ++ x :: rest) (front' ++ y :: rest') := by rw [sortOrder]
        _ = sortOrderItems (x :: rest) (y :: rest') := sortOrderItems_append hfront _ _
        _ = sortOrder u v := by
            rw [sortOrderItems_cons, hxy]
            cases ho : sortOrder u v with
            | eq => exact absurd ho hne
            | lt => rfl
            | gt => rfl

theorem Aligned.symm {a b x y : Value} (h : Aligned a b x y) : Aligned b a y x := by
  induction h with
  | here x y => exact .here y x
  | item front rest front' rest' hfront _ ih =>
      refine .item front' rest' front rest ?_ ih
      rw [sortOrderItems_swap fun x _ => sortOrder_swap x, hfront]
      rfl

/-- Values of different types are ordered by the ranks of the types. -/
theorem sortOrder_of_rank_lt {x y : Value} (h : x.rank < y.rank) : sortOrder x y = .lt := by
  have hkey : keyOrder x y = .lt := by
    rw [keyOrder, compareLex, compareOn, Nat.compare_eq_lt.mpr h]
    rfl
  rw [sortOrder_eq, hkey]
  rfl

/-! ## The preorder -/

/-- The types stand in the order null, booleans, numbers, strings, arrays, objects. -/
theorem pairwise_rank {n : Value} (hn : n.number?.isSome) (b : Bool) (s : String) (xs : List Value)
    (members : List (String × Value)) :
    [.null, .bool b, n, .string s, .array xs, .object members].Pairwise
      fun x y => x.rank < y.rank := by
  cases n with
  | int n => simp [rank]
  | float x => simp [rank]
  | _ => cases hn

/-- **The order that sorting uses is a total preorder of all values.** Comparing in the other
direction gives the opposite, everything equals itself, the order is transitive, and equal values
compare alike with every third one. Where two values first differ, at whatever depth, in the types of
what stands there, the type that comes first in the fixed order of the types is the smaller one. -/
theorem sortOrder_preorder :
    (∀ a b : Value, sortOrder b a = (sortOrder a b).swap) ∧
    (∀ a : Value, sortOrder a a = .eq) ∧
    (∀ a b c : Value, sortOrder a b ≠ .gt → sortOrder b c ≠ .gt → sortOrder a c ≠ .gt) ∧
    (∀ a b c : Value, sortOrder a b = .eq →
      sortOrder a c = sortOrder b c ∧ sortOrder c a = sortOrder c b) ∧
    (∀ a b x y : Value, Aligned a b x y → x.rank < y.rank → sortOrder a b = .lt) ∧
    (∀ (n : Value) (c : Bool) (s : String) (xs : List Value) (members : List (String × Value)),
      n.number?.isSome →
        [.null, .bool c, n, .string s, .array xs, .object members].Pairwise
          fun x y => x.rank < y.rank) := by
  refine ⟨fun a b => sortOrder_swap b a, fun a => ReflCmp.compare_self, ?_, ?_, ?_, ?_⟩
  · intro a b c hab hbc
    apply Ordering.isLE_iff_ne_gt.mp
    exact TransCmp.isLE_trans (Ordering.isLE_iff_ne_gt.mpr hab) (Ordering.isLE_iff_ne_gt.mpr hbc)
  · intro a b c hab
    exact ⟨TransCmp.congr_left hab, TransCmp.congr_right hab⟩
  · intro a b x y haligned hrank
    have hxy : sortOrder x y = .lt := sortOrder_of_rank_lt hrank
    have hne : sortOrder x y ≠ .eq := by simp [hxy]
    rw [sortOrder_of_aligned haligned hne, hxy]
  · intro n c s xs members hn
    exact pairwise_rank hn c s xs members

/-- A whole number equals a float, and after them null comes before a boolean. -/
theorem sortOrder_preorder_nested :
    sortOrder (.array [.array [.int 1, .null, .bool true]])
      (.array [.array [.float 1.0, .bool false], .null]) = .lt := by
  obtain ⟨-, -, -, -, hranks, htypes⟩ := sortOrder_preorder
  have hrank : rank .null < rank (.bool false) :=
    (List.pairwise_cons.mp (htypes (.int 1) false "" [] [] rfl)).1 _ (by simp)
  refine hranks _ _ .null (.bool false) ?_ hrank
  refine .item [] [] [] [.null] rfl ?_
  exact .item [.int 1] [.bool true] [.float 1.0] [] (by decide) (.here _ _)

end Gazetteer.Value
