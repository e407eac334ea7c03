import Gazetteer.Proofs.Query

/-!
# Narrowing an ordered selection

Some steps of a query look at each entity on its own and leave out those that fail a test
(`Refinement.Narrows`). Whether such a step succeeds, and what the test is, depends on its arguments
alone (`Refinement.filters_of_narrows`). A test of single entities and a stable sort do not disturb
each other, so that the order in which the two steps are taken does not matter
(`orderBy_refine_comm`).
-/

namespace Gazetteer

open Geodesy

namespace Selection

variable {a : Atlas} {s t u : Selection} {step : Refinement}

namespace Refinement

/-- A step that asks each entity on its own whether it stays. -/
def Narrows : Refinement → Prop
  | filter _ | exclude _ | near _ _ _ | withinBounds _ _ _ _ | hasCoordinates
  | validCoordinates => True
  | _ => False

/-- A step fails whatever the selection is, or it keeps those entities of any selection that pass a
test. -/
def Filters (a : Atlas) (step : Refinement) : Prop :=
  (∃ e, ∀ s : Selection, s.refine a step = .error e) ∨
    ∃ keep : Ref → Bool, ∀ s : Selection, ∃ t, s.refine a step = .ok t ∧
      t.items = s.items.filter keep

theorem filters_near (a : Atlas) (lon lat : Float) (radius? : Option Float) :
    Filters a (.near lon lat radius?) := by
  simp only [Filters, refine, Selection.near]
  cases Coordinate.atGround lon lat with
  | error e => exact .inl ⟨_, fun s => rfl⟩
  | ok center =>
      cases radius? with
      | none => exact .inr ⟨fun _ => true, fun s => ⟨s.all, rfl, by simp [Selection.all]⟩⟩
      | some radius =>
          by_cases hradius : (radius.isNaN || radius < 0.0) = true
          · left
            refine ⟨.query (some "radius") (.radius radius), fun s => ?_⟩
            exact if_pos hradius
          · right
            refine ⟨fun r => (a.position? r).any fun c => GreatCircle.distance center c ≤ radius,
              fun s => ⟨_, if_neg hradius, rfl⟩⟩

theorem filters_withinBounds (a : Atlas) (north south east west : Float) :
    Filters a (.withinBounds north south east west) := by
  simp only [Filters, refine, Selection.withinBounds]
  cases Bounds.of north south east west with
  | error e => exact .inl ⟨_, fun s => rfl⟩
  | ok b => exact .inr ⟨fun r => (a.position? r).any b.contains, fun s => ⟨_, rfl, rfl⟩⟩

/-- A narrowing step is a filter, or its arguments are refused. -/
theorem filters_of_narrows (h : step.Narrows) (a : Atlas) : step.Filters a := by
  cases step with
  | filter criteria =>
      rcases filter_exclude_cases a criteria with ⟨e, -, herror⟩ | ⟨keep, -, hkeep⟩
      · exact .inl ⟨e, fun s => (herror s).1⟩
      · exact .inr ⟨keep, fun s => ⟨_, (hkeep s).1, rfl⟩⟩
  | exclude criteria =>
      rcases filter_exclude_cases a criteria with ⟨e, -, herror⟩ | ⟨keep, -, hkeep⟩
      · exact .inl ⟨e, fun s => (herror s).2⟩
      · exact .inr ⟨fun r => !keep r, fun s => ⟨_, (hkeep s).2, rfl⟩⟩
  | near lon lat radius? => exact filters_near a lon lat radius?
  | withinBounds north south east west => exact filters_withinBounds a north south east west
  | hasCoordinates | validCoordinates => exact .inr ⟨_, fun s => ⟨_, rfl, rfl⟩⟩
  | slice _ _ | all | none | reverse | orderBy _ | dropRepeats => exact h.elim

end Refinement

/-! ## Ordering -/

/-- Whatever the fields are, ordering is one stable sort. -/
theorem items_of_orderBy {fields : List String} (h : s.orderBy a fields = .ok t) :
    t.items = sortedBy (fieldsOrder a fields) s.items := by
  rcases orderBy_cases h with ⟨rfl, rfl⟩ | ⟨-, -, rfl⟩
  · exact (sortedBy_fieldsOrder_nil a s.items).symm
  · rfl

/-- What can be ordered can be ordered after some of it has been left out. -/
theorem exists_orderBy_of_subset {fields : List String} (h : s.orderBy a fields = .ok t)
    (hsub : u.items ⊆ s.items) : ∃ v, u.orderBy a fields = .ok v := by
  rcases orderBy_cases h with ⟨rfl, -⟩ | ⟨hnil, hall, -⟩
  · exact ⟨u.all, rfl⟩
  · have hpos := List.length_pos_iff.mpr hnil
    refine ⟨_, (orderBy_eq_ok_iff hpos (length_le_of_orderBy h)).mpr ⟨?_, rfl⟩⟩
    intro field hfield
    exact (hall field hfield).of_subset hsub

/-- **Narrowing and ordering commute.** If a selection can be ordered by some fields and narrowed by
a step, what is left after the step can be ordered by them too, what has been ordered can be
narrowed, and both ways end in the same sequence of entities. Whatever has to be looked into for
that is `Readable`, since the program would have panicked at a hidden entity before. -/
theorem orderBy_refine_comm (a : Atlas) (s t u : Selection) (fields : List String)
    (step : Refinement) (hstep : step.Narrows) (ht : s.orderBy a fields = .ok t)
    (hu : s.refine a step = .ok u) :
    ∃ v w, u.orderBy a fields = .ok v ∧ t.refine a step = .ok w ∧ v.items = w.items := by
  rcases Refinement.filters_of_narrows hstep a with ⟨e, herror⟩ | ⟨keep, hkeep⟩
  · cases (herror s).symm.trans hu
  · obtain ⟨u', hu', hitems⟩ := hkeep s
    obtain rfl : u' = u := Except.ok.inj (hu'.symm.trans hu)
    obtain ⟨w, hw, hwitems⟩ := hkeep t
    have hsub : u'.items ⊆ s.items := by
      rw [hitems]
      exact List.filter_subset_self s.items
    obtain ⟨v, hv⟩ := exists_orderBy_of_subset ht hsub
    refine ⟨v, w, hv, hw, ?_⟩
    calc v.items = sortedBy (fieldsOrder a fields) (s.items.filter keep) := by
          rw [items_of_orderBy hv, hitems]
      _ = (sortedBy (fieldsOrder a fields) s.items).filter keep := (filter_sortedBy keep _).symm
      _ = w.items := by rw [hwitems, items_of_orderBy ht]

/-- Four points, of which two have one name and one lies far in the east. -/
def stations : Atlas where
  nodes := #[
    some ⟨{ name := some "b" }, .point (.at ⟨8.25, 47.75, 410.0, by decide, by decide, by decide⟩)⟩,
    some ⟨{ name := some "a" }, .point (.at ⟨9.25, 48.5, 280.0, by decide, by decide, by decide⟩)⟩,
    some ⟨{ name := some "c" }, .point (.at ⟨50.5, 45.25, 160.0, by decide, by decide, by decide⟩)⟩,
    some ⟨{ name := some "b" }, .point (.at ⟨7.75, 47.5, 260.0, by decide, by decide, by decide⟩)⟩]

theorem orderBy_refine_comm_stations :
    ∃ t u v w : Selection,
      orderBy stations { kind := .point, items := stations.refs } ["-name", "visibility"] = .ok t ∧
      refine stations { kind := .point, items := stations.refs } (.withinBounds 60.0 40.0 20.0 0.0) =
        .ok u ∧
      u.items = [⟨.point, 0⟩, ⟨.point, 1⟩, ⟨.point, 3⟩] ∧
      u.orderBy stations ["-name", "visibility"] = .ok v ∧
      t.refine stations (.withinBounds 60.0 40.0 20.0 0.0) = .ok w ∧ v.items = w.items := by
  let s : Selection := { kind := .point, items := stations.refs }
  obtain ⟨t, ht⟩ : ∃ t, s.orderBy stations ["-name", "visibility"] = .ok t :=
    ⟨_, (orderBy_eq_ok_iff (by decide) (by decide)).mpr ⟨by decide, rfl⟩⟩
  obtain ⟨u, hu, hitems⟩ : ∃ u, s.refine stations (.withinBounds 60.0 40.0 20.0 0.0) = .ok u ∧
      u.items = [⟨.point, 0⟩, ⟨.point, 1⟩, ⟨.point, 3⟩] := ⟨_, rfl, by decide⟩
  obtain ⟨v, w, hv, hw, hvw⟩ := orderBy_refine_comm stations s t u _
    (.withinBounds 60.0 40.0 20.0 0.0) trivial ht hu
  exact ⟨t, u, v, w, ht, hu, hitems, hv, hw, hvw⟩

end Selection

end Gazetteer
