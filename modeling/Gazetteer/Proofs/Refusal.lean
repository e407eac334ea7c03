import Gazetteer.Proofs.Coordinate
import Gazetteer.Proofs.Sharing

/-!
# What measuring refuses

A leg has a fault for each of its numbers that is not finite or out of range. Every strategy refuses
a leg with its first fault and answers for all others, whether it measures itself, falls back on
another one or passes the leg on (`Strategy.calculate_eq_error_iff`,
`Strategy.exists_calculate_eq_ok`). A gauge with a memo, whatever it has been asked before, answers
as one without (`Gauge.Alike.after`), so that the same holds of it; between positions, which are in
range, it always answers, for one as for many (`measuring_refuses_first_fault`).
-/

namespace Gazetteer.Geodesy

/-! ## Faults -/

/-- What is wrong with a number that stands for a latitude. -/
def latitudeFault (x : Float) : Option Error :=
  if x.isFinite ∧ -90.0 ≤ x ∧ x ≤ 90.0 then none else some (.coordinate (.latitude x))

/-- What is wrong with a number that stands for a longitude. -/
def longitudeFault (x : Float) : Option Error :=
  if x.isFinite ∧ -180.0 ≤ x ∧ x ≤ 180.0 then none else some (.coordinate (.longitude x))

/-- The faults of a leg in the order of its numbers. -/
def Leg.faults (g : Leg) : List Error :=
  [latitudeFault g.lat1, longitudeFault g.lon1, latitudeFault g.lat2,
    longitudeFault g.lon2].filterMap id

/-- Fails with an error, if there is one. -/
def raise : Option Error → Except Error Unit
  | none => .ok ()
  | some e => .error e

theorem raise_eq_error_iff {x : Option Error} {e : Error} : raise x = .error e ↔ x = some e := by
  cases x with
  | none => simp [raise]
  | some e' => simp [raise]

/-- One check after another fails with the first fault. -/
theorem raise_bind (x : Option Error) (xs : List (Option Error)) :
    (raise x >>= fun _ => raise (xs.filterMap id).head?) = raise ((x :: xs).filterMap id).head? := by
  cases x <;> rfl

theorem checkLatitude_eq_raise (x : Float) :
    (checkLatitude x).mapError .coordinate = raise (latitudeFault x) := by
  unfold checkLatitude latitudeFault
  by_cases h : isLatitude x = true
  · rw [if_pos h, if_pos (isLatitude_iff.mp h)]
    rfl
  · rw [if_neg h, if_neg fun hx => h (isLatitude_iff.mpr hx)]
    rfl

theorem checkLongitude_eq_raise (x : Float) :
    (checkLongitude x).mapError .coordinate = raise (longitudeFault x) := by
  unfold checkLongitude longitudeFault
  by_cases h : isLongitude x = true
  · rw [if_pos h, if_pos (isLongitude_iff.mp h)]
    rfl
  · rw [if_neg h, if_neg fun hx => h (isLongitude_iff.mpr hx)]
    rfl

namespace Leg

theorem check_eq_raise (g : Leg) : g.check = raise g.faults.head? := by
  have hlast : raise (longitudeFault g.lon2) = raise ([longitudeFault g.lon2].filterMap id).head? := by
    cases longitudeFault g.lon2 <;> rfl
  unfold check faults
  rw [checkLatitude_eq_raise, checkLongitude_eq_raise, checkLatitude_eq_raise,
    checkLongitude_eq_raise, hlast, raise_bind, raise_bind, raise_bind]

theorem check_eq_ok_iff {g : Leg} : g.check = .ok () ↔ g.faults = [] := by
  rw [check_eq_raise, ← List.head?_eq_none_iff]
  cases g.faults.head? with
  | none => simp [raise]
  | some e => simp [raise]

/-- A leg between coordinates has no faults. -/
theorem faults_between (a b : Coordinate) : (between a b).faults = [] := by
  have hlat : ∀ c : Coordinate, latitudeFault c.latitude = none := fun c =>
    if_pos (isLatitude_iff.mp c.latitude_valid)
  have hlon : ∀ c : Coordinate, longitudeFault c.longitude = none := fun c =>
    if_pos (isLongitude_iff.mp c.longitude_valid)
  simp [faults, between, hlat, hlon]

variable {g : Leg}

theorem onSphere_of_check (h : g.check = .ok ()) (radius : Float) :
    g.onSphere radius = .ok (g.sphereDistance radius) := by
  rw [onSphere, h]
  rfl

theorem onPlane_of_check (h : g.check = .ok ()) : g.onPlane = .ok g.planeDistance := by
  rw [onPlane, h]
  rfl

end Leg

/-! ## Strategies -/

variable {g : Leg}

theorem Vincenty.exists_calculate_eq_ok (v : Vincenty) (h : g.check = .ok ()) :
    ∃ d, v.calculate g = .ok d := by
  unfold Vincenty.calculate
  rw [h]
  show ∃ d, ite _ _ _ = _
  have hsphere := Leg.onSphere_of_check h earthRadius
  split
  · exact ⟨_, rfl⟩
  · -- without an arc the sphere is asked, which checks the leg again
    split
    · exact ⟨_, rfl⟩
    · split
      · exact ⟨_, rfl⟩
      · exact ⟨_, hsphere⟩
    · exact ⟨_, hsphere⟩

namespace Strategy

/-- A leg with a fault is refused with the first one. -/
theorem calculate_eq_error (s : Strategy) {e : Error} (h : g.check = .error e) :
    s.calculate g = .error e := by
  have hplane : g.onPlane = .error e := by
    rw [Leg.onPlane, h]
    rfl
  cases s with
  | haversine radius =>
      show (g.check >>= _) = _
      rw [h]
      rfl
  | planar => exact hplane
  | vincenty v =>
      show (g.check >>= _) = _
      rw [h]
      rfl
  | adaptive highAccuracy v =>
      -- the estimate fails already
      show (g.onPlane >>= _) = _
      rw [hplane]
      rfl

/-- A leg without a fault has a distance. -/
theorem exists_calculate_eq_ok (s : Strategy) (h : g.check = .ok ()) :
    ∃ d, s.calculate g = .ok d := by
  have hplane := Leg.onPlane_of_check h
  cases s with
  | haversine radius => exact ⟨_, Leg.onSphere_of_check h radius⟩
  | planar => exact ⟨_, hplane⟩
  | vincenty v => exact v.exists_calculate_eq_ok h
  | adaptive highAccuracy v =>
      show ∃ d, (g.onPlane >>= _) = _
      rw [hplane]
      show ∃ d, ite _ _ _ = _
      split
      · exact ⟨_, rfl⟩
      · split
        · exact ⟨_, Leg.onSphere_of_check h earthRadius⟩
        · exact v.exists_calculate_eq_ok h

theorem calculate_eq_error_iff (s : Strategy) {e : Error} :
    s.calculate g = .error e ↔ g.faults.head? = some e := by
  rw [← raise_eq_error_iff, ← Leg.check_eq_raise]
  refine ⟨fun h => ?_, s.calculate_eq_error⟩
  cases hcheck : g.check with
  | error e' =>
      obtain rfl : e' = e := Except.error.inj ((s.calculate_eq_error hcheck).symm.trans h)
      rfl
  | ok u =>
      obtain ⟨d, hd⟩ := s.exists_calculate_eq_ok hcheck
      rw [hd] at h
      cases h

/-- Two numbers are out of range and one is none at all. -/
example : calculate (.adaptive true .standard) ⟨12.5, 200.0, -91.0, 0.0 / 0.0⟩ =
    .error (.coordinate (.longitude 200.0)) := rfl

end Strategy

/-! ## Gauges -/

namespace Gauge

/-- What is done with a gauge: it is asked something, or its memo is cleared. -/
inductive Use where
  | ask (q : Question)
  | clear

/-- The gauge after it has been used. -/
def after (r : Gauge) : List Use → Gauge
  | [] => r
  | .ask q :: uses => (r.reply q).2.after uses
  | .clear :: uses => r.clear.after uses

variable {r r' : Gauge}

theorem sound_clear (r : Gauge) : r.clear.Sound := by
  intro m hm
  obtain ⟨n, -, rfl⟩ := Option.map_eq_some_iff.mp hm
  exact Memo.Sound.clear n

theorem Alike.clear (h : r.Alike r') : r.clear.Alike r'.clear :=
  ⟨h.strategy, r.sound_clear, r'.sound_clear⟩

theorem Alike.after (h : r.Alike r') (uses : List Use) : (r.after uses).Alike (r'.after uses) := by
  induction uses generalizing r r' with
  | nil => exact h
  | cons u uses ih =>
      cases u with
      | ask q => exact ih (h.reply q).2
      | clear => exact ih h.clear

/-! ### Without a memo -/

section Plain

variable (s : Strategy) (a b : Option Coordinate) (u : DistanceUnit)

/-- Between two positions there is a distance, and without both there is none to be had. -/
theorem distance_plain :
    ∃ d, (⟨s, none⟩ : Gauge).distance a b u = (.ok d, ⟨s, none⟩) ∧
      d.isNone = (a.isNone || b.isNone) := by
  cases a with
  | none => exact ⟨none, rfl, rfl⟩
  | some a =>
      cases b with
      | none => exact ⟨none, rfl, rfl⟩
      | some b =>
          have hcheck := Leg.check_eq_ok_iff.mpr (Leg.faults_between a b)
          obtain ⟨d, hd⟩ := s.exists_calculate_eq_ok hcheck
          refine ⟨some (u.ofKilometers d), ?_, rfl⟩
          show ((s.calculate (.between a b)).map _, _) = _
          rw [hd]
          rfl

theorem distances_plain (bs : List (Option Coordinate)) :
    ∃ ds, (⟨s, none⟩ : Gauge).distances a u bs = (.ok ds, ⟨s, none⟩) ∧
      ds.map Option.isNone = bs.map (a.isNone || ·.isNone) ∧
      (⟨s, none⟩ : Gauge).replies (bs.map (.distance a · u)) = ds.map (.distance <| .ok ·) := by
  induction bs with
  | nil => exact ⟨[], rfl, rfl, rfl⟩
  | cons b bs ih =>
      obtain ⟨ds, hds, hnone, hreplies⟩ := ih
      obtain ⟨d, hd, hdnone⟩ := distance_plain s a b u
      refine ⟨d :: ds, ?_, ?_, ?_⟩
      · rw [distances, hd]
        dsimp only
        rw [hds]
        rfl
      · rw [List.map_cons, List.map_cons, hdnone, hnone]
      · rw [List.map_cons, List.map_cons, replies, reply, hd, ← hreplies]
        rfl

theorem after_plain (uses : List Use) : (⟨s, none⟩ : Gauge).after uses = ⟨s, none⟩ := by
  induction uses with
  | nil => rfl
  | cons use uses ih =>
      cases use with
      | clear => exact ih
      | ask q =>
          have hreply : ((⟨s, none⟩ : Gauge).reply q).2 = ⟨s, none⟩ := by
            cases q with
            | distance a b u =>
                obtain ⟨d, hd, -⟩ := distance_plain s a b u
                exact congrArg Prod.snd hd
            | distances a u bs =>
                obtain ⟨ds, hds, -⟩ := distances_plain s a u bs
                exact congrArg Prod.snd hds
            | _ => rfl
          rw [after, hreply, ih]

/-- Whatever it has been used for, a gauge with a memo stays alike one without. -/
theorem after_alike_plain (capacity : Option Nat) (uses : List Use) :
    (Gauge.after ⟨s, capacity.map Memo.empty⟩ uses).Alike ⟨s, none⟩ := by
  have hstart : Gauge.Alike ⟨s, capacity.map Memo.empty⟩ ⟨s, none⟩ := by
    refine ⟨rfl, fun m hm => ?_, nofun⟩
    obtain ⟨n, -, rfl⟩ := Option.map_eq_some_iff.mp hm
    exact Memo.sound_empty _ n
  rw [← after_plain s uses]
  exact hstart.after uses

end Plain

/-- **Measuring refuses the first fault and nothing else.** Whatever the strategy, with a memo of
any capacity or without one, and whatever has been asked and cleared before: a leg is refused
exactly if one of its numbers is not finite or out of range, and then because of the first such
number. Between positions nothing is refused, so that there is a distance unless a position is
missing; and many distances from one position are those that asking for one after another gives. -/
theorem measuring_refuses_first_fault (s : Strategy) (capacity : Option Nat) (uses : List Use) :
    let r := Gauge.after ⟨s, capacity.map Memo.empty⟩ uses
    (∀ g e, (r.calculate g).1 = .error e ↔ g.faults.head? = some e) ∧
    (∀ g, (∃ d, (r.calculate g).1 = .ok d) ↔ g.faults = []) ∧
    (∀ a b u, ∃ d, (r.distance a b u).1 = .ok d ∧ (d = none ↔ a = none ∨ b = none)) ∧
    ∀ a u bs, ∃ ds, (r.distances a u bs).1 = .ok ds ∧
      r.replies (bs.map (.distance a · u)) = ds.map (.distance <| .ok ·) ∧
      ds.map Option.isNone = bs.map (a.isNone || ·.isNone) := by
  intro r
  have halike : r.Alike ⟨s, none⟩ := after_alike_plain s capacity uses
  have hcalculate : ∀ g, (r.calculate g).1 = s.calculate g := fun g => (halike.calculate g).1
  refine ⟨fun g e => ?_, fun g => ?_, fun a b u => ?_, fun a u bs => ?_⟩
  · rw [hcalculate]
    exact s.calculate_eq_error_iff
  · rw [hcalculate]
    constructor
    · rintro ⟨d, hd⟩
      refine List.head?_eq_none_iff.mp (Option.eq_none_iff_forall_ne_some.mpr fun e he => ?_)
      rw [s.calculate_eq_error_iff.mpr he] at hd
      cases hd
    · exact fun h => s.exists_calculate_eq_ok (Leg.check_eq_ok_iff.mpr h)
  · obtain ⟨d, hd, hnone⟩ := distance_plain s a b u
    refine ⟨d, (halike.distance a b u).1.trans (congrArg Prod.fst hd), ?_⟩
    rw [← Option.isNone_iff_eq_none, hnone, Bool.or_eq_true, Option.isNone_iff_eq_none,
      Option.isNone_iff_eq_none]
  · obtain ⟨ds, hds, hnone, hreplies⟩ := distances_plain s a u bs
    exact ⟨ds, (halike.distances a u bs).1.trans (congrArg Prod.fst hds),
      (halike.replies _).trans hreplies, hnone⟩

end Gauge

end Gazetteer.Geodesy
