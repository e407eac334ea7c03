import Gazetteer.Proofs.Filter
import Gazetteer.Proofs.OrderBy
import Gazetteer.Proofs.Walk

/-!
# Queries

A query is a chain of `Refinement`s of a selection. Some of them hand on what a selection remembers,
some forget it and some replace a part (`Refinement.recall`); `refine_cases` says all that a step
can do. What is remembered stays true all the same: `Truthful` holds of a new selection, every step
keeps it (`Truthful.refine`), and so it holds of whatever a query ends in (`query_truthful`).
-/

namespace Gazetteer

open Geodesy

namespace Selection

variable {a : Atlas} {s t : Selection}

/-- One step of a query. -/
inductive Refinement where
  | filter (criteria : Criteria)
  | exclude (criteria : Criteria)
  | slice (offset limit : Nat)
  | all
  | none
  | reverse
  | orderBy (fields : List String)
  | dropRepeats
  | near (lon lat : Float) (radius? : Option Float)
  | withinBounds (north south east west : Float)
  | hasCoordinates
  | validCoordinates

/-- The selection after a step. -/
def refine (a : Atlas) (s : Selection) : Refinement → Except Error Selection
  | .filter criteria => s.filter a criteria
  | .exclude criteria => s.exclude a criteria
  | .slice offset limit => .ok (s.slice offset limit)
  | .all => .ok s.all
  | .none => .ok s.none
  | .reverse => .ok s.reverse
  | .orderBy fields => s.orderBy a fields
  | .dropRepeats => .ok (s.dropRepeats a)
  | .near lon lat radius? => s.near a lon lat radius?
  | .withinBounds north south east west => s.withinBounds a north south east west
  | .hasCoordinates => .ok (s.hasCoordinates a)
  | .validCoordinates => .ok (s.validCoordinates a)

/-- The selection after some steps, the first error ends it. -/
def query (a : Atlas) (s : Selection) (steps : List Refinement) : Except Error Selection :=
  steps.foldlM (refine a) s

/-! ## What a selection remembers -/

/-- The fields that entities were ordered by, and whether repeats were dropped. -/
structure Memory where
  orderFields : List String := []
  distinct : Bool := false

/-- What a selection remembers. -/
def memory (s : Selection) : Memory := ⟨s.orderFields, s.distinct⟩

/-- What is remembered after a step. -/
def Refinement.recall (m : Memory) : Refinement → Memory
  | filter _ | exclude _ | slice _ _ => m
  | orderBy fields => if fields = [] then {} else { m with orderFields := fields }
  | dropRepeats => { m with distinct := true }
  | _ => {}

/-- What a selection remembers is so: if it is ordered, then by at least one field, every entity has
each of the fields, and the entities stand in their order; if it is distinct, no two entities have
one key. -/
structure Truthful (a : Atlas) (s : Selection) : Prop where
  fields : s.ordered = true ↔ s.orderFields ≠ []
  orderable : s.ordered = true → ∀ field ∈ s.orderFields, Orderable a s.items field
  sorted : s.ordered = true →
    s.items.Pairwise fun x y => fieldsOrder a s.orderFields x y ≠ .gt
  distinct : s.distinct = true → s.items.Pairwise fun x y => a.distinctKey x ≠ a.distinctKey y

theorem Orderable.of_subset {l l' : List Ref} {field : String} (h : Orderable a l field)
    (hsub : l' ⊆ l) : Orderable a l' field :=
  ⟨h.1, fun r hr => h.2 r (hsub hr)⟩

/-! ## One step -/

/-- Near a place nothing is remembered. -/
theorem plain_of_near {lon lat : Float} {radius? : Option Float}
    (h : s.near a lon lat radius? = .ok t) : ∃ items, t = { kind := s.kind, items := items } := by
  unfold near at h
  cases hcenter : Coordinate.atGround lon lat with
  | error e => rw [hcenter] at h; cases h
  | ok center =>
      rw [hcenter] at h
      cases radius? with
      | none =>
          cases h
          exact ⟨s.items, rfl⟩
      | some radius =>
          change (if _ then _ else _) = _ at h
          split at h
          · cases h
          · cases h
            exact ⟨_, rfl⟩

/-- Nor is it within bounds. -/
theorem plain_of_withinBounds {north south east west : Float}
    (h : s.withinBounds a north south east west = .ok t) :
    ∃ items, t = { kind := s.kind, items := items } := by
  unfold withinBounds at h
  split at h
  · cases h
    exact ⟨_, rfl⟩
  · cases h

/-- Only so many fields order anything. -/
theorem length_le_of_orderBy {fields : List String} (h : s.orderBy a fields = .ok t) :
    fields.length ≤ maxOrderFields := by
  apply Nat.le_of_not_lt
  intro hmax
  have hnil : ¬fields.isEmpty = true := by
    intro hnil
    simp [List.isEmpty_iff.mp hnil] at hmax
  rw [orderBy, if_neg hnil, if_pos hmax] at h
  cases h

theorem orderBy_cases {fields : List String} (h : s.orderBy a fields = .ok t) :
    fields = [] ∧ t = s.all ∨ fields ≠ [] ∧ (∀ field ∈ fields, Orderable a s.items field) ∧
      t = { s with
        items := sortedBy (fieldsOrder a fields) s.items, ordered := true,
        orderFields := fields } := by
  by_cases hnil : fields = []
  · subst hnil
    exact .inl ⟨rfl, (Except.ok.inj h).symm⟩
  · have hpos := List.length_pos_iff.mpr hnil
    obtain ⟨hall, ht⟩ := (orderBy_eq_ok_iff hpos (length_le_of_orderBy h)).mp h
    exact .inr ⟨hnil, hall, ht⟩

/-- A step leaves out entities and remembers everything, or it forgets everything, or it puts the
entities in a new order, or it drops repeats. -/
theorem refine_cases {step : Refinement} (h : s.refine a step = .ok t) :
    (∃ l, l.Sublist s.items ∧ t = { s with items := l } ∧ ∀ m, step.recall m = m) ∨
    (∃ l, t = { kind := s.kind, items := l } ∧ ∀ m, step.recall m = {}) ∨
    (∃ fields, fields ≠ [] ∧ (∀ field ∈ fields, Orderable a s.items field) ∧
      t = { s with
        items := sortedBy (fieldsOrder a fields) s.items, ordered := true,
        orderFields := fields } ∧
      ∀ m, step.recall m = { m with orderFields := fields }) ∨
    t = s.dropRepeats a ∧ ∀ m, step.recall m = { m with distinct := true } := by
  cases step with
  | filter criteria =>
      rcases filter_exclude_cases a criteria with ⟨e, -, herror⟩ | ⟨keep, -, hkeep⟩
      · cases (herror s).1.symm.trans h
      · cases (hkeep s).1.symm.trans h
        exact .inl ⟨_, List.filter_sublist, rfl, fun _ => rfl⟩
  | exclude criteria =>
      rcases filter_exclude_cases a criteria with ⟨e, -, herror⟩ | ⟨keep, -, hkeep⟩
      · cases (herror s).2.symm.trans h
      · cases (hkeep s).2.symm.trans h
        exact .inl ⟨_, List.filter_sublist, rfl, fun _ => rfl⟩
  | slice offset limit =>
      cases h
      exact .inl ⟨_, (List.take_sublist _ _).trans (List.drop_sublist _ _), rfl, fun _ => rfl⟩
  | orderBy fields =>
      rcases orderBy_cases h with ⟨rfl, rfl⟩ | ⟨hnil, hall, ht⟩
      · exact .inr (.inl ⟨s.items, rfl, fun _ => rfl⟩)
      · exact .inr (.inr (.inl ⟨fields, hnil, hall, ht, fun _ => if_neg hnil⟩))
  | dropRepeats =>
      cases h
      exact .inr (.inr (.inr ⟨rfl, fun _ => rfl⟩))
  | near lon lat radius? =>
      obtain ⟨items, ht⟩ := plain_of_near h
      exact .inr (.inl ⟨items, ht, fun _ => rfl⟩)
  | withinBounds north south east west =>
      obtain ⟨items, ht⟩ := plain_of_withinBounds h
      exact .inr (.inl ⟨items, ht, fun _ => rfl⟩)
  | all | none | reverse | hasCoordinates | validCoordinates =>
      cases h
      exact .inr (.inl ⟨_, rfl, fun _ => rfl⟩)

theorem memory_refine {step : Refinement} (h : s.refine a step = .ok t) :
    t.memory = step.recall s.memory := by
  rcases refine_cases h with ⟨l, -, rfl, hm⟩ | ⟨l, rfl, hm⟩ | ⟨fields, -, -, rfl, hm⟩ | ⟨rfl, hm⟩
  all_goals exact (hm s.memory).symm

namespace Truthful

/-- A selection that remembers nothing says nothing false. -/
theorem plain (k : Kind) (items : List Ref) : Truthful a { kind := k, items := items } :=
  ⟨⟨nofun, fun h => absurd rfl h⟩, nofun, nofun, nofun⟩

/-- To leave out entities makes nothing false. -/
theorem narrow {l : List Ref} (h : s.Truthful a) (hl : l.Sublist s.items) :
    Truthful a { s with items := l } where
  fields := h.fields
  orderable hordered field hfield := (h.orderable hordered field hfield).of_subset hl.subset
  sorted hordered := (h.sorted hordered).sublist hl
  distinct hdistinct := (h.distinct hdistinct).sublist hl

theorem dropRepeats (h : s.Truthful a) : (s.dropRepeats a).Truthful a :=
  have hnarrow := h.narrow (firstBy_sublist s.items)
  ⟨hnarrow.fields, hnarrow.orderable, hnarrow.sorted, fun _ => pairwise_firstBy s.items⟩

/-- A new order takes the place of the one before. -/
theorem reorder (h : s.Truthful a) {fields : List String} (hnil : fields ≠ [])
    (hall : ∀ field ∈ fields, Orderable a s.items field) :
    Truthful a { s with
      items := sortedBy (fieldsOrder a fields) s.items, ordered := true,
      orderFields := fields } where
  fields := iff_of_true rfl hnil
  orderable _ field hfield := orderable_sortedBy_iff.mpr (hall field hfield)
  sorted _ := pairwise_sortedBy _
  -- sorting moves entities and drops none, so that different keys stay different
  distinct hdistinct := ((sortedBy_perm _ s.items).pairwise_iff Ne.symm).mpr (h.distinct hdistinct)

/-- Every step keeps what is remembered true. -/
theorem refine {step : Refinement} (h : s.Truthful a) (ht : s.refine a step = .ok t) :
    t.Truthful a := by
  rcases refine_cases ht with ⟨l, hl, rfl, -⟩ | ⟨l, rfl, -⟩ | ⟨fields, hnil, hall, rfl, -⟩ |
    ⟨rfl, -⟩
  · exact h.narrow hl
  · exact plain s.kind l
  · exact h.reorder hnil hall
  · exact h.dropRepeats

end Truthful

/-! ## Whole queries -/

/-- A query keeps what is remembered true, and the steps alone say what that is. -/
theorem Truthful.query {steps : List Refinement} (h : s.Truthful a) (ht : s.query a steps = .ok t) :
    t.Truthful a ∧ t.memory = steps.foldl Refinement.recall s.memory := by
  induction steps generalizing s with
  | nil =>
      cases ht
      exact ⟨h, rfl⟩
  | cons step steps ih =>
      change (s.refine a step).bind (fun s => s.query a steps) = _ at ht
      cases hstep : s.refine a step with
      | error e => rw [hstep] at ht; cases ht
      | ok s' =>
          rw [hstep] at ht
          obtain ⟨hrest, hmemory⟩ := ih (h.refine hstep) ht
          rw [memory_refine hstep] at hmemory
          exact ⟨hrest, hmemory⟩

/-- **What a query's result remembers is so.** Whatever the selection holds that the query starts
from, the steps alone decide by which fields the result says that it is ordered, and whether it says
that it is distinct. If there is such a field, each of them leads somewhere from every entity, and
no entity stands after a greater one; if it is distinct, no two of its entities have one key. This
is about queries that end in a result: the program panics in a step that comes to look into a hidden
entity (`Readable`), and remembers nothing then. -/
theorem query_truthful (a : Atlas) (k : Kind) (items : List Ref) (steps : List Refinement)
    (t : Selection) (ht : query a { kind := k, items := items } steps = .ok t) :
    t.memory = steps.foldl Refinement.recall {} ∧
    (t.ordered = true ↔ t.orderFields ≠ []) ∧
    (t.ordered = true →
      (∀ field ∈ t.orderFields, FieldPath.Valid (orderPath field) ∧
        ∀ r ∈ t.items, (a.resolve? r (orderPath field)).isSome) ∧
      t.items.Pairwise fun x y => fieldsOrder a t.orderFields x y ≠ .gt) ∧
    (t.distinct = true →
      t.items.Pairwise fun x y => a.distinctKey x ≠ a.distinctKey y) := by
  obtain ⟨h, hmemory⟩ := (Truthful.plain k items).query ht
  exact ⟨hmemory, h.fields, fun hordered => ⟨h.orderable hordered, h.sorted hordered⟩, h.distinct⟩

/-- Three points, of which two have been given one id. -/
def doubles : Atlas where
  nodes := #[some ⟨{ id := some "x", name := some "b" }, .point {}⟩,
    some ⟨{ id := some "y", name := some "a" }, .point {}⟩,
    some ⟨{ id := some "x", name := some "c" }, .point {}⟩]

theorem query_truthful_doubles :
    ∃ t, query doubles { kind := .point, items := doubles.refs }
        [.reverse, .orderBy ["-name", "visibility"], .dropRepeats, .slice 0 2] = .ok t ∧
      t.memory = ⟨["-name", "visibility"], true⟩ ∧
      t.items.Pairwise (fun x y => fieldsOrder doubles ["-name", "visibility"] x y ≠ .gt) ∧
      t.items.Pairwise (fun x y => doubles.distinctKey x ≠ doubles.distinctKey y) := by
  let start : Selection := { kind := .point, items := doubles.refs }
  obtain ⟨s, hs, hordered, hfields⟩ : ∃ s, start.reverse.orderBy doubles ["-name", "visibility"] =
      .ok s ∧ s.ordered = true ∧ s.orderFields = ["-name", "visibility"] :=
    ⟨_, (orderBy_eq_ok_iff (by decide) (by decide)).mpr ⟨by decide, rfl⟩, rfl, rfl⟩
  have ht : start.query doubles
      [.reverse, .orderBy ["-name", "visibility"], .dropRepeats, .slice 0 2] =
      .ok ((s.dropRepeats doubles).slice 0 2) := by
    change (start.reverse.orderBy doubles ["-name", "visibility"]).bind _ = _
    rw [hs]
    rfl
  obtain ⟨hmemory, -, hsorted, hdistinct⟩ := query_truthful doubles .point doubles.refs _ _ ht
  exact ⟨_, ht, hmemory, hfields ▸ (hsorted hordered).2, hdistinct rfl⟩

end Selection

end Gazetteer
