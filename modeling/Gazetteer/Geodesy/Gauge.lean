import Gazetteer.Geodesy.DistanceUnit
import Gazetteer.Geodesy.Memo

/-!
# Measuring

A `Gauge` measures distances: it has a strategy and may have a memo, so that measuring changes the
gauge. Positions may be missing; what has no two positions has no distance.
-/

namespace Gazetteer.Geodesy

structure Gauge where
  strategy : Strategy
  memo : Option Memo

namespace Gauge

/-- The gauge that is used unless another is configured. -/
def standard : Gauge := ⟨.haversine earthRadius, none⟩

/-- The distance of a leg in kilometres, and the gauge afterwards. -/
def calculate (r : Gauge) (g : Leg) : Except Error Float × Gauge :=
  match r.memo with
  | none => (r.strategy.calculate g, r)
  | some m =>
    let (d, m) := m.calculate r.strategy.calculate g
    (d, { r with memo := some m })

/-- Forgets what the memo holds. -/
def clear (r : Gauge) : Gauge := { r with memo := r.memo.map Memo.clear }

/-- The distance between two positions in a unit. -/
def distance (r : Gauge) (a b : Option Coordinate) (u : DistanceUnit) :
    Except Error (Option Float) × Gauge :=
  match a, b with
  | some a, some b =>
    let (d, r) := r.calculate (.between a b)
    (d.map fun km => some (u.ofKilometers km), r)
  | _, _ => (.ok none, r)

/-- The distances from one position to others, up to the first that fails. -/
def distances (r : Gauge) (a : Option Coordinate) (u : DistanceUnit) :
    List (Option Coordinate) → Except Error (List (Option Float)) × Gauge
  | [] => (.ok [], r)
  | b :: bs =>
    match r.distance a b u with
    | (.error e, r) => (.error e, r)
    | (.ok d, r) =>
      let (ds, r) := r.distances a u bs
      (ds.map (d :: ·), r)

end Gauge

end Gazetteer.Geodesy
