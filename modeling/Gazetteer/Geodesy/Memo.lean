import Gazetteer.Geodesy.Strategy

/-!
# Remembered distances

A `Memo` keeps the distances of the legs that were asked for last, most recent first, and counts how
often it could answer. A leg is recognised by the bits of its four numbers, so the two zeros are
different. Asking takes two steps, between which others may use the memo: `Memo.lookUp` looks a leg
up, and after a miss `Memo.store` keeps what was calculated. Failures are not kept.
-/

namespace Gazetteer.Geodesy

/-- The bit patterns of the numbers of a leg. -/
structure LegKey where
  lat1 : UInt64
  lon1 : UInt64
  lat2 : UInt64
  lon2 : UInt64
  deriving DecidableEq, Repr

def Leg.key (g : Leg) : LegKey := ⟨g.lat1.toBits, g.lon1.toBits, g.lat2.toBits, g.lon2.toBits⟩

structure Memo where
  /-- How many distances are kept; it is never zero. -/
  capacity : Nat
  /-- The distances kept, the most recently used first. -/
  entries : List (LegKey × Float)
  hits : Nat
  misses : Nat

namespace Memo

/-- How many distances are kept unless asked otherwise. -/
def defaultCapacity : Nat := 1024

/-- An empty memo; a capacity of zero counts as one. -/
def empty (capacity : Nat) : Memo := ⟨max capacity 1, [], 0, 0⟩

/-- The entries without one key. -/
def without (k : LegKey) (entries : List (LegKey × Float)) : List (LegKey × Float) :=
  entries.filter fun e => e.1 != k

/-- Looks a key up, which counts as a use of it. -/
def lookUp (m : Memo) (k : LegKey) : Option Float × Memo :=
  match m.entries.lookup k with
  | some km => (some km, { m with entries := (k, km) :: without k m.entries, hits := m.hits + 1 })
  | none => (none, { m with misses := m.misses + 1 })

/-- Keeps a distance, which pushes out the least recently used one when the memo is full. -/
def store (m : Memo) (k : LegKey) (km : Float) : Memo :=
  { m with entries := ((k, km) :: without k m.entries).take m.capacity }

/-- Forgets all distances and counts. -/
def clear (m : Memo) : Memo := { m with entries := [], hits := 0, misses := 0 }

/-- The distance of a leg, remembered or else calculated and kept. -/
def calculate (inner : Leg → Except Error Float) (m : Memo) (g : Leg) :
    Except Error Float × Memo :=
  match m.lookUp g.key with
  | (some km, m) => (.ok km, m)
  | (none, m) =>
    match inner g with
    | .ok km => (.ok km, m.store g.key km)
    | .error e => (.error e, m)

end Memo

end Gazetteer.Geodesy
