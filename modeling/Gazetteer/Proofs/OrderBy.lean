import Gazetteer.Atlas.Selection
import Gazetteer.Proofs.SortOrder
import Gazetteer.Proofs.StableSort

/-!
# Ordering a selection

`Selection.orderBy` sorts by the last field first, so that the first one counts most. The main
statement says when it succeeds on what can be looked into, and that its result is then what one
stable sort by all fields together gives (`orderBy_sorts`). What one pass does is
`sortBy_eq_ok_iff`; the passes are put together by `sortedBy_sortedBy`.
-/

namespace Gazetteer

open Std

/-! ## Paths -/

namespace FieldPath

/-- A path is neither empty nor too deep, and no segment of it is empty. -/
def Valid (path : FieldPath) : Prop :=
  1 ≤ path.length ∧ path.length ≤ maxPathDepth ∧ ∀ segment ∈ path, segment ≠ ""

instance (path : FieldPath) : Decidable path.Valid := inferInstanceAs (Decidable (_ ∧ _ ∧ _))

theorem check_eq_ok_iff {path p : FieldPath} : check path = .ok p ↔ path.Valid ∧ p = path := by
  unfold check
  split
  · next hempty =>
      refine iff_of_false nofun ?_
      rintro ⟨⟨hpos, -, hsegments⟩, -⟩
      rcases Bool.or_eq_true_iff.mp hempty with hnil | hany
      · simp [List.isEmpty_iff.mp hnil] at hpos
      · obtain ⟨segment, hmem, hblank⟩ := List.any_eq_true.mp hany
        exact hsegments segment hmem (String.isEmpty_iff.mp hblank)
  · next hempty =>
      split
      · next hdeep =>
          refine iff_of_false nofun ?_
          rintro ⟨⟨-, hmax, -⟩, -⟩
          omega
      · next hdeep =>
          simp only [Bool.or_eq_true, not_or, List.isEmpty_iff, List.any_eq_true,
            String.isEmpty_iff] at hempty
          have hvalid : path.Valid := by
            refine ⟨List.length_pos_iff.mpr hempty.1, by omega, fun segment hmem hblank => ?_⟩
            exact hempty.2 ⟨segment, hmem, hblank⟩
          simp [hvalid, eq_comm]

theorem parse_eq_ok_iff {s : String} {p : FieldPath} :
    parse s = .ok p ↔ Valid (segments s) ∧ p = segments s :=
  check_eq_ok_iff

end FieldPath

namespace Selection

/-! ## The order of entities -/

/-- The path of a field to order by. -/
def orderPath (field : String) : FieldPath := FieldPath.segments (orderKey field).1

/-- The value of a field to order by. -/
def orderValue (a : Atlas) (field : String) (r : Ref) : Value :=
  .ofOption (a.resolve? r (orderPath field))

/-- The order of values that a field asks for, the opposite one with a leading minus. -/
def direction (descending : Bool) (x y : Value) : Ordering :=
  if descending then (Value.sortOrder x y).swap else Value.sortOrder x y

/-- The order of entities by one field. -/
def fieldOrder (a : Atlas) (field : String) (x y : Ref) : Ordering :=
  direction (orderKey field).2 (orderValue a field x) (orderValue a field y)

/-- The order of entities by fields, of which the first counts most. -/
def fieldsOrder (a : Atlas) : List String → Ref → Ref → Ordering
  | [] => fun _ _ => .eq
  | field :: fields => compareLex (fieldOrder a field) (fieldsOrder a fields)

/-- Elements are compared by what a function makes of them. -/
theorem transCmp_on {α β : Type} (cmp : α → α → Ordering) [TransCmp cmp] (f : β → α) :
    TransCmp fun x y => cmp (f x) (f y) where
  eq_swap := OrientedCmp.eq_swap
  isLE_trans := TransCmp.isLE_trans

instance (descending : Bool) : TransCmp (direction descending) := by
  cases descending with
  | false => exact inferInstanceAs (TransCmp Value.sortOrder)
  | true =>
      refine { eq_swap := congrArg Ordering.swap OrientedCmp.eq_swap, isLE_trans := ?_ }
      intro x y z hxy hyz
      simp only [direction, if_true, Ordering.isLE_swap] at hxy hyz ⊢
      exact TransCmp.isGE_trans hxy hyz

instance (a : Atlas) (field : String) : TransCmp (fieldOrder a field) :=
  transCmp_on (direction _) (orderValue a field)

instance (a : Atlas) (fields : List String) : TransCmp (fieldsOrder a fields) := by
  induction fields with
  | nil => exact { eq_swap := rfl, isLE_trans := fun _ _ => rfl }
  | cons field fields ih =>
      exact inferInstanceAs (TransCmp (compareLex (fieldOrder a field) (fieldsOrder a fields)))

/-- A field that entities can be ordered by: its path is valid and leads somewhere from each. -/
def Orderable (a : Atlas) (items : List Ref) (field : String) : Prop :=
  FieldPath.Valid (orderPath field) ∧ ∀ r ∈ items, (a.resolve? r (orderPath field)).isSome

instance (a : Atlas) (items : List Ref) (field : String) : Decidable (Orderable a items field) :=
  inferInstanceAs (Decidable (_ ∧ _))

/-! ## One pass -/

/-- A list is gone through without an error if that is so of each element. -/
theorem mapM_eq_ok_iff {ε α β : Type} {f : α → Except ε β} {g : α → β} {p : α → Prop}
    (hok : ∀ x, p x → f x = .ok (g x)) (herror : ∀ x, ¬p x → ∃ e, f x = .error e)
    {l : List α} {out : List β} : l.mapM f = .ok out ↔ (∀ x ∈ l, p x) ∧ out = l.map g := by
  induction l generalizing out with
  | nil =>
      constructor
      · rintro ⟨⟩
        exact ⟨nofun, rfl⟩
      · rintro ⟨-, rfl⟩
        rfl
  | cons x xs ih =>
      rw [List.mapM_cons, List.forall_mem_cons, List.map_cons]
      by_cases hx : p x
      · rw [hok x hx]
        cases hxs : xs.mapM f with
        | error e =>
            refine iff_of_false nofun fun h => ?_
            cases hxs.symm.trans (ih.mpr ⟨h.1.2, rfl⟩)
        | ok ys =>
            obtain ⟨hall, rfl⟩ := ih.mp hxs
            constructor
            · rintro ⟨⟩
              exact ⟨⟨hx, hall⟩, rfl⟩
            · rintro ⟨-, rfl⟩
              rfl
      · obtain ⟨e, he⟩ := herror x hx
        rw [he]
        exact iff_of_false nofun fun h => hx h.1.1

theorem bind_pure_eq_ok_iff {ε α β : Type} {x : Except ε α} {f : α → β} {b : β} :
    (x >>= fun v => pure (f v)) = .ok b ↔ ∃ v, x = .ok v ∧ b = f v := by
  cases x with
  | error e => exact iff_of_false nofun nofun
  | ok v =>
      constructor
      · rintro ⟨⟩
        exact ⟨v, rfl, rfl⟩
      · rintro ⟨_, ⟨⟩, rfl⟩
        rfl

theorem mapM_keyed_eq_ok_iff {value : Ref → Option Value} {e : Error} {items : List Ref}
    {keyed : List (Value × Ref)} :
    (items.mapM fun r => (match value r with
      | some v => .ok (v, r)
      | .none => .error e : Except Error (Value × Ref))) = .ok keyed ↔
      (∀ r ∈ items, (value r).isSome) ∧ keyed = items.map fun r => (.ofOption (value r), r) := by
  refine mapM_eq_ok_iff (fun r hr => ?_) fun r hr => ?_
  · obtain ⟨v, hv⟩ := Option.isSome_iff_exists.mp hr
    rw [hv]
    rfl
  · rw [Option.not_isSome_iff_eq_none.mp hr]
    exact ⟨e, rfl⟩

/-- What stands before what in one pass. -/
theorem before_eq (descending : Bool) (x y : Value) :
    (if descending then Value.sortOrder x y != .lt else Value.sortOrder x y != .gt) =
      (direction descending x y != .gt) := by
  unfold direction
  cases descending <;> cases Value.sortOrder x y <;> rfl

/-- To sort pairs of a key and an element by the keys is to sort the elements. -/
theorem map_snd_mergeSort (value : Ref → Value) (cmp : Value → Value → Ordering)
    (items : List Ref) :
    ((items.map fun r => (value r, r)).mergeSort fun x y => cmp x.1 y.1 != .gt).map (·.2) =
      sortedBy (fun x y => cmp (value x) (value y)) items := by
  rw [sortedBy, ← List.map_mergeSort (f := fun r => (value r, r)) fun _ _ _ _ => rfl, List.map_map]
  exact List.map_id _

/-- One pass sorts by one field, if every entity has it. -/
theorem sortBy_eq_ok_iff {a : Atlas} {s : Selection} {items out : List Ref} {field : String} :
    s.sortBy a items field = .ok out ↔
      Orderable a items field ∧ out = sortedBy (fieldOrder a field) items := by
  have hsorted := map_snd_mergeSort (orderValue a field) (direction (orderKey field).2) items
  change _ = sortedBy (fieldOrder a field) items at hsorted
  simp only [← before_eq] at hsorted
  rw [← hsorted]
  unfold sortBy Orderable
  dsimp only
  cases hpath : FieldPath.parse (orderKey field).1 with
  | error e =>
      refine iff_of_false nofun ?_
      rintro ⟨⟨hvalid, -⟩, -⟩
      cases hpath.symm.trans (FieldPath.parse_eq_ok_iff.mpr ⟨hvalid, rfl⟩)
  | ok path =>
      obtain ⟨hvalid, rfl⟩ := FieldPath.parse_eq_ok_iff.mp hpath
      refine bind_pure_eq_ok_iff.trans ⟨?_, ?_⟩
      · rintro ⟨keyed, hkeyed, rfl⟩
        obtain ⟨hall, rfl⟩ := mapM_keyed_eq_ok_iff.mp hkeyed
        exact ⟨⟨hvalid, hall⟩, rfl⟩
      · rintro ⟨⟨-, hall⟩, rfl⟩
        exact ⟨_, mapM_keyed_eq_ok_iff.mpr ⟨hall, rfl⟩, rfl⟩

/-! ## All passes -/

theorem orderable_sortedBy_iff {a : Atlas} {cmp : Ref → Ref → Ordering} {items : List Ref}
    {field : String} : Orderable a (sortedBy cmp items) field ↔ Orderable a items field := by
  simp only [Orderable, (sortedBy_perm cmp items).mem_iff]

theorem sortedBy_fieldsOrder_nil (a : Atlas) (items : List Ref) :
    sortedBy (fieldsOrder a []) items = items :=
  List.mergeSort_of_pairwise (List.pairwise_of_forall fun _ _ => rfl)

/-- The passes, from the last field to the first, sort by all fields. -/
theorem foldlM_sortBy_eq_ok_iff {a : Atlas} {s : Selection} {items out : List Ref}
    {fields : List String} :
    fields.reverse.foldlM (s.sortBy a) items = .ok out ↔
      (∀ field ∈ fields, Orderable a items field) ∧
        out = sortedBy (fieldsOrder a fields) items := by
  induction fields generalizing out with
  | nil =>
      rw [sortedBy_fieldsOrder_nil]
      constructor
      · rintro ⟨⟩
        exact ⟨nofun, rfl⟩
      · rintro ⟨-, rfl⟩
        rfl
  | cons field fields ih =>
      have hpasses : sortedBy (fieldsOrder a (field :: fields)) items =
          sortedBy (fieldOrder a field) (sortedBy (fieldsOrder a fields) items) :=
        (sortedBy_sortedBy items).symm
      rw [List.reverse_cons, List.foldlM_append, List.forall_mem_cons, hpasses]
      cases hrest : fields.reverse.foldlM (s.sortBy a) items with
      | error e =>
          refine iff_of_false nofun fun h => ?_
          cases hrest.symm.trans (ih.mpr ⟨h.1.2, rfl⟩)
      | ok mid =>
          obtain ⟨hall, rfl⟩ := ih.mp hrest
          have hlast : ([field].foldlM (s.sortBy a) (sortedBy (fieldsOrder a fields) items)) =
              s.sortBy a (sortedBy (fieldsOrder a fields) items) field := bind_pure _
          show [field].foldlM (s.sortBy a) _ = _ ↔ _
          rw [hlast, sortBy_eq_ok_iff, orderable_sortedBy_iff]
          exact ⟨fun h => ⟨⟨h.1, hall⟩, h.2⟩, fun h => ⟨h.1.1, h.2⟩⟩

theorem orderBy_eq_ok_iff {a : Atlas} {s t : Selection} {fields : List String}
    (hpos : 1 ≤ fields.length) (hmax : fields.length ≤ maxOrderFields) :
    s.orderBy a fields = .ok t ↔
      (∀ field ∈ fields, Orderable a s.items field) ∧
        t = { s with
          items := sortedBy (fieldsOrder a fields) s.items, ordered := true,
          orderFields := fields } := by
  have hne : fields.isEmpty = false := by
    rw [List.isEmpty_eq_false_iff]
    exact List.length_pos_iff.mp hpos
  have hlimit : ¬maxOrderFields < fields.length := by omega
  unfold orderBy
  rw [hne, if_neg Bool.false_ne_true, if_neg hlimit]
  cases hitems : fields.reverse.foldlM (s.sortBy a) s.items with
  | error e =>
      refine iff_of_false nofun fun h => ?_
      cases hitems.symm.trans (foldlM_sortBy_eq_ok_iff.mpr ⟨h.1, rfl⟩)
  | ok items =>
      obtain ⟨hall, rfl⟩ := foldlM_sortBy_eq_ok_iff.mp hitems
      constructor
      · rintro ⟨⟩
        exact ⟨hall, rfl⟩
      · rintro ⟨-, rfl⟩
        rfl

/-- **Ordering is one stable sort.** Where all entities can be looked into, it succeeds exactly if
each field has a valid path that leads somewhere from every one. Then the entities are the same
ones, which can be looked into again, in the order that compares them by the first field, if that is
equal by the second and so on; entities that are equal by all fields stand as they stood before. At
an entity that is hidden the program panics, unless it meets a field before that it cannot order
by. -/
theorem orderBy_sorts (a : Atlas) (s : Selection) (fields : List String)
    (hpos : 1 ≤ fields.length) (hmax : fields.length ≤ maxOrderFields) (hs : s.Readable a) :
    ((∃ t, s.orderBy a fields = .ok t) ↔ ∀ field ∈ fields, Orderable a s.items field) ∧
    ∀ t, s.orderBy a fields = .ok t →
      t.Readable a ∧
      t.items.Perm s.items ∧
      t.items.Pairwise (fun x y => fieldsOrder a fields x y ≠ .gt) ∧
      (∀ x, alike (fieldsOrder a fields) x t.items = alike (fieldsOrder a fields) x s.items) ∧
      t = { s with
        items := s.items.mergeSort fun x y => fieldsOrder a fields x y != .gt,
        ordered := true, orderFields := fields } := by
  refine ⟨⟨?_, fun hall => ⟨_, (orderBy_eq_ok_iff hpos hmax).mpr ⟨hall, rfl⟩⟩⟩, fun t ht => ?_⟩
  · rintro ⟨t, ht⟩
    exact ((orderBy_eq_ok_iff hpos hmax).mp ht).1
  · obtain ⟨-, rfl⟩ := (orderBy_eq_ok_iff hpos hmax).mp ht
    exact ⟨hs.of_subset (sortedBy_perm _ _).subset, sortedBy_perm _ _, pairwise_sortedBy _,
      fun x => alike_sortedBy x _, rfl⟩

/-- Three points, of which two have one name. -/
def namesakes : Atlas where
  nodes := #[some ⟨{ name := some "b" }, .point {}⟩, some ⟨{ name := some "a" }, .point {}⟩,
    some ⟨{ name := some "b" }, .point {}⟩]

theorem orderBy_sorts_namesakes :
    Readable namesakes { kind := .point, items := namesakes.refs } ∧
    ∃ t, orderBy namesakes { kind := .point, items := namesakes.refs } ["-name", "visibility"] =
        .ok t ∧
      t.items.Perm [⟨.point, 0⟩, ⟨.point, 1⟩, ⟨.point, 2⟩] ∧
      alike (fieldsOrder namesakes ["-name", "visibility"]) ⟨.point, 0⟩ t.items =
        [⟨.point, 0⟩, ⟨.point, 2⟩] := by
  have hreadable : Readable namesakes { kind := .point, items := namesakes.refs } := by decide
  have hsorts := orderBy_sorts namesakes { kind := .point, items := namesakes.refs }
    ["-name", "visibility"] (by decide) (by decide) hreadable
  obtain ⟨t, ht⟩ := hsorts.1.mpr (by decide)
  obtain ⟨-, hperm, -, halike, -⟩ := hsorts.2 t ht
  exact ⟨hreadable, t, ht, hperm, (halike _).trans (by decide)⟩

end Selection

end Gazetteer
