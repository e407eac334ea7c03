import Gazetteer.Proofs.Sharing
import Gazetteer.Proofs.Walk
import Mathlib.Data.List.Induction

/-!
# Which legs a memo remembers

A memo is asked for one leg after the other, and may be cleared at any time. What it holds follows
from the legs asked for since then (`legsSinceClear`): the keys of those that have a distance, each
once and the one used last in front, as many as fit (`Recalls`). Every request keeps that
(`Recalls.calculate`), and so the memo answers from what it holds exactly if the key of the leg is
one of the most recent ones (`remembers_most_recent`).
-/

namespace Gazetteer

/-- One element more than is wanted may be taken before one is left out. -/
theorem take_filter_ne {α : Type} [DecidableEq α] {xs : List α} (h : xs.Nodup) (x : α) (n : Nat) :
    ((xs.take (n + 1)).filter (· ≠ x)).take n = (xs.filter (· ≠ x)).take n := by
  induction xs generalizing n with
  | nil => rfl
  | cons y ys ih =>
      obtain ⟨hy, hys⟩ := List.nodup_cons.mp h
      by_cases hyx : y = x
      · -- nothing else is left out
        subst hyx
        have hne : ∀ zs : List α, zs ⊆ ys → zs.filter (· ≠ y) = zs := fun zs hzs =>
          List.filter_eq_self.mpr fun z hz => by
            have hzy : z ≠ y := fun hzy => hy (hzy ▸ hzs hz)
            simpa using hzy
        rw [List.take_succ_cons, List.filter_cons_of_neg (by simp),
          List.filter_cons_of_neg (by simp), hne _ (List.take_subset n ys),
          hne _ (List.Subset.refl ys), List.take_take, Nat.min_self]
      · rw [List.take_succ_cons, List.filter_cons_of_pos (by simpa using hyx),
          List.filter_cons_of_pos (by simpa using hyx)]
        cases n with
        | zero => rfl
        | succ n => rw [List.take_succ_cons, List.take_succ_cons, ih hys]

namespace Geodesy.Memo

/-- What a memo is asked for: the distance of a leg, or to forget everything. -/
inductive Request where
  | calculate (g : Leg)
  | clear

/-- The leg that a request is about. -/
def Request.leg? : Request → Option Leg
  | calculate g => some g
  | clear => none

/-- The legs that have been asked for since the memo was cleared last, the latest first. -/
def legsSinceClear (requests : List Request) : List Leg :=
  (requests.reverse.takeWhile (·.leg?.isSome)).filterMap Request.leg?

variable (inner : Leg → Except Error Float)

/-- The memo after one request. -/
def serve (m : Memo) : Request → Memo
  | .calculate g => (m.calculate inner g).2
  | .clear => m.clear

/-- The memo after some requests. -/
def serveAll (m : Memo) (requests : List Request) : Memo := requests.foldl (serve inner) m

/-- The keys of the legs that have a distance, each once and in the order in which they come. -/
def recentKeys (legs : List Leg) : List LegKey :=
  firstBy id ((legs.filter fun g => (inner g).toOption.isSome).map Leg.key)

/-- The memo holds the most recent keys, as many as fit, and has counted every leg. -/
structure Recalls (m : Memo) (legs : List Leg) : Prop where
  sound : m.Sound inner
  room : 0 < m.capacity
  keys : m.entries.map (·.1) = (recentKeys inner legs).take m.capacity
  counts : m.hits + m.misses = legs.length

variable {inner} {m : Memo} {g : Leg} {legs : List Leg}

/-! ## The legs that count -/

theorem legsSinceClear_concat_calculate (requests : List Request) (g : Leg) :
    legsSinceClear (requests ++ [.calculate g]) = g :: legsSinceClear requests := by
  rw [legsSinceClear, List.reverse_concat, List.takeWhile_cons_of_pos (by rfl)]
  rfl

theorem legsSinceClear_concat_clear (requests : List Request) :
    legsSinceClear (requests ++ [.clear]) = [] := by
  rw [legsSinceClear, List.reverse_concat]
  rfl

theorem nodup_recentKeys (inner : Leg → Except Error Float) (legs : List Leg) :
    (recentKeys inner legs).Nodup :=
  nodup_firstBy_id _

/-- A leg with a distance brings its key to the front. -/
theorem recentKeys_cons_of_ok {km : Float} (h : inner g = .ok km) :
    recentKeys inner (g :: legs) = g.key :: (recentKeys inner legs).filter (· ≠ g.key) := by
  rw [recentKeys, List.filter_cons_of_pos (by rw [h]; rfl)]
  rfl

/-- A leg without one changes nothing. -/
theorem recentKeys_cons_of_error {e : Error} (h : inner g = .error e) :
    recentKeys inner (g :: legs) = recentKeys inner legs := by
  rw [recentKeys, List.filter_cons_of_neg (by rw [h]; exact nofun)]
  rfl

/-! ## One request -/

theorem lookup_eq_none_iff {k : LegKey} : m.entries.lookup k = none ↔ k ∉ m.entries.map (·.1) := by
  rw [List.lookup_eq_none_iff]
  simp only [bne_iff_ne, List.mem_map, not_exists, not_and]
  exact forall₂_congr fun e _ => ne_comm

theorem map_without (k : LegKey) (entries : List (LegKey × Float)) :
    (without k entries).map (·.1) = (entries.map (·.1)).filter (· ≠ k) := by
  rw [without, List.filter_map]
  congr 1
  exact List.filter_congr fun e _ => Bool.eq_iff_iff.mpr (by simp)

/-- A memo answers from what it holds, or what it has calculated is kept, or calculating has
failed. -/
theorem calculate_cases (inner : Leg → Except Error Float) (m : Memo) (g : Leg) :
    (∃ km, (g.key, km) ∈ m.entries ∧ m.calculate inner g =
      (.ok km, { m with entries := (g.key, km) :: without g.key m.entries, hits := m.hits + 1 })) ∨
    (g.key ∉ m.entries.map (·.1) ∧ ∃ km, inner g = .ok km ∧ m.calculate inner g =
      (.ok km, { m with misses := m.misses + 1 }.store g.key km)) ∨
    (g.key ∉ m.entries.map (·.1) ∧ ∃ e, inner g = .error e ∧ m.calculate inner g =
      (.error e, { m with misses := m.misses + 1 })) := by
  rw [calculate, lookUp]
  cases hlookup : m.entries.lookup g.key with
  | some km => exact .inl ⟨km, mem_of_lookup hlookup, rfl⟩
  | none =>
      have hkey := lookup_eq_none_iff.mp hlookup
      cases hg : inner g with
      | ok km => exact .inr (.inl ⟨hkey, km, rfl, rfl⟩)
      | error e => exact .inr (.inr ⟨hkey, e, rfl, rfl⟩)

theorem hits_calculate (inner : Leg → Except Error Float) (m : Memo) (g : Leg) :
    (m.calculate inner g).2.hits = m.hits + if g.key ∈ m.entries.map (·.1) then 1 else 0 := by
  rcases calculate_cases inner m g with ⟨km, hmem, hm⟩ | ⟨hkey, km, -, hm⟩ | ⟨hkey, e, -, hm⟩
  · rw [hm, if_pos (List.mem_map.mpr ⟨_, hmem, rfl⟩)]
  · rw [hm, if_neg hkey]
    rfl
  · rw [hm, if_neg hkey]
    rfl

theorem misses_calculate (inner : Leg → Except Error Float) (m : Memo) (g : Leg) :
    (m.calculate inner g).2.misses = m.misses + if g.key ∈ m.entries.map (·.1) then 0 else 1 := by
  rcases calculate_cases inner m g with ⟨km, hmem, hm⟩ | ⟨hkey, km, -, hm⟩ | ⟨hkey, e, -, hm⟩
  · rw [hm, if_pos (List.mem_map.mpr ⟨_, hmem, rfl⟩)]
    rfl
  · rw [hm, if_neg hkey]
    rfl
  · rw [hm, if_neg hkey]

theorem capacity_calculate (inner : Leg → Except Error Float) (m : Memo) (g : Leg) :
    (m.calculate inner g).2.capacity = m.capacity := by
  rcases calculate_cases inner m g with ⟨km, -, hm⟩ | ⟨-, km, -, hm⟩ | ⟨-, e, -, hm⟩
  all_goals exact congrArg (·.2.capacity) hm

namespace Recalls

theorem clear (h : m.Recalls inner legs) : m.clear.Recalls inner [] where
  sound := Sound.clear m
  room := h.room
  keys := List.take_nil.symm
  counts := rfl

/-- The keys after a leg that has a distance: its own comes to the front, and the last one is pushed
out if they do not fit. -/
theorem take_recentKeys_cons (h : m.Recalls inner legs) {km : Float} (hg : inner g = .ok km) :
    (recentKeys inner (g :: legs)).take m.capacity =
      (g.key :: (m.entries.map (·.1)).filter (· ≠ g.key)).take m.capacity := by
  obtain ⟨n, hn⟩ := Nat.exists_eq_succ_of_ne_zero (Nat.ne_of_gt h.room)
  rw [recentKeys_cons_of_ok hg, h.keys, hn, Nat.succ_eq_add_one, List.take_succ_cons,
    List.take_succ_cons, take_filter_ne (nodup_recentKeys inner legs)]

theorem map_entries_calculate (h : m.Recalls inner legs) (g : Leg) :
    (m.calculate inner g).2.entries.map (·.1) =
      (recentKeys inner (g :: legs)).take m.capacity := by
  have hanswer := (h.sound.calculate g).1
  rcases calculate_cases inner m g with ⟨km, hmem, hm⟩ | ⟨-, km, hg, hm⟩ | ⟨-, e, hg, hm⟩
  · -- the key leaves its old place, and so nothing has to be pushed out
    have hfits : (without g.key m.entries).length + 1 ≤ m.capacity :=
      Nat.le_trans (length_without_lt hmem) h.sound.bounded
    rw [hm] at hanswer ⊢
    rw [h.take_recentKeys_cons hanswer.symm, List.map_cons, ← map_without, List.take_of_length_le]
    rwa [List.length_cons, List.length_map]
  · rw [hm, h.take_recentKeys_cons hg, ← map_without]
    exact List.map_take
  · rw [hm, recentKeys_cons_of_error hg]
    exact h.keys

/-- Every request for a leg keeps what the memo recalls. -/
theorem calculate (h : m.Recalls inner legs) (g : Leg) :
    (m.calculate inner g).2.Recalls inner (g :: legs) where
  sound := (h.sound.calculate g).2
  room := by
    rw [capacity_calculate]
    exact h.room
  keys := by
    rw [capacity_calculate]
    exact h.map_entries_calculate g
  counts := by
    have hcounts := h.counts
    rw [hits_calculate, misses_calculate, List.length_cons]
    split <;> omega

end Recalls

/-! ## Whole sequences of requests -/

theorem capacity_serve (m : Memo) (r : Request) : (m.serve inner r).capacity = m.capacity := by
  cases r with
  | clear => rfl
  | calculate g =>
      exact capacity_calculate inner m g

theorem capacity_serveAll (m : Memo) (requests : List Request) :
    (m.serveAll inner requests).capacity = m.capacity := by
  induction requests generalizing m with
  | nil => rfl
  | cons r requests ih => exact (ih (m.serve inner r)).trans (capacity_serve m r)

theorem recalls_empty (inner : Leg → Except Error Float) (capacity : Nat) :
    (empty capacity).Recalls inner [] where
  sound := sound_empty inner capacity
  room := Nat.lt_of_lt_of_le Nat.zero_lt_one (Nat.le_max_right capacity 1)
  keys := List.take_nil.symm
  counts := rfl

/-- Whatever a memo is asked, it recalls the legs asked for since it was cleared last. -/
theorem recalls_serveAll (inner : Leg → Except Error Float) (capacity : Nat)
    (requests : List Request) :
    ((empty capacity).serveAll inner requests).Recalls inner (legsSinceClear requests) := by
  induction requests using List.reverseRecOn with
  | nil => exact recalls_empty inner capacity
  | append_singleton requests r ih =>
      rw [serveAll, List.foldl_append]
      cases r with
      | clear =>
          rw [legsSinceClear_concat_clear]
          exact ih.clear
      | calculate g =>
          rw [legsSinceClear_concat_calculate]
          exact ih.calculate g

/-- **A memo remembers the most recent legs.** Whatever has been asked before, a leg counts as a hit
if its key is among the last ones for which a distance was given since the memo was cleared, each
counted once and as many as fit; otherwise, and so if there is no distance, it counts as a miss. The
answer is what calculating gives in either case. Hits and misses together are all the legs asked for
since then, and the memo is full as soon as there have been enough keys. -/
theorem remembers_most_recent (inner : Leg → Except Error Float) (capacity : Nat)
    (requests : List Request) (g : Leg) :
    let room := max capacity 1
    let m := (empty capacity).serveAll inner requests
    let recent := recentKeys inner (legsSinceClear requests)
    let held := g.key ∈ recent.take room
    m.capacity = room ∧
      (m.calculate inner g).1 = inner g ∧
      (m.calculate inner g).2.hits = m.hits + (if held then 1 else 0) ∧
      (m.calculate inner g).2.misses = m.misses + (if held then 0 else 1) ∧
      m.hits + m.misses = (legsSinceClear requests).length ∧
      m.entries.length = min room recent.length := by
  intro room m recent held
  have hroom : m.capacity = room := capacity_serveAll _ requests
  have hm : m.Recalls inner (legsSinceClear requests) := recalls_serveAll inner capacity requests
  have hkeys : m.entries.map (·.1) = recent.take room := hroom ▸ hm.keys
  refine ⟨hroom, (hm.sound.calculate g).1, ?_, ?_, hm.counts, ?_⟩
  · rw [hits_calculate, hkeys]
  · rw [misses_calculate, hkeys]
  · rw [← List.length_map, hkeys, List.length_take]

/-- The first leg is pushed out by the two after it, one of which only differs in the sign of a
zero. The failure pushes nothing out. -/
example :
    let inner (g : Leg) : Except Error Float :=
      if g.lat1 = 95.0 then .error (.coordinate (.latitude g.lat1)) else .ok g.lat1
    let m := (empty 2).serveAll inner
      [.calculate ⟨1.0, 0.0, 0.0, 0.0⟩, .calculate ⟨2.0, 0.0, 0.0, 0.0⟩,
        .calculate ⟨2.0, -0.0, 0.0, 0.0⟩, .calculate ⟨95.0, 0.0, 0.0, 0.0⟩,
        .calculate ⟨2.0, 0.0, 0.0, 0.0⟩, .calculate ⟨1.0, 0.0, 0.0, 0.0⟩]
    m.hits = 1 ∧ m.misses = 5 := by
  decide

end Geodesy.Memo

end Gazetteer
