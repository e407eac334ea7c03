import Gazetteer.Geodesy.Bounds
import Gazetteer.Geodesy.Config
import Gazetteer.Geodesy.GreatCircle

/-!
# What a memo answers

A memo may be shared by any number of calls. Each of them first looks its leg up and, after a miss,
calculates and stores; between the two steps others take theirs, and somebody may clear the memo.
`Memo.Sound` is what every step keeps: the memo holds nothing but what calculating gives, and no
more than fits. It follows that no call is answered otherwise than without a memo, in whatever order
the steps come, and that a configuration may choose the capacity of its memo freely
(`answers_without_memo`).
-/

namespace Gazetteer.Geodesy

/-! ## Keys -/

theorem eq_of_toBits_eq {x y : Float} (h : x.toBits = y.toBits) : x = y := by
  obtain ⟨⟨b, hb⟩⟩ := x
  obtain ⟨⟨c, hc⟩⟩ := y
  obtain rfl : b = c := h
  rfl

/-- A leg is known by its key. -/
theorem Leg.eq_of_key_eq {g g' : Leg} (h : g.key = g'.key) : g = g' := by
  obtain ⟨lat1, lon1, lat2, lon2⟩ := g
  obtain ⟨lat1', lon1', lat2', lon2'⟩ := g'
  simp only [Leg.key, LegKey.mk.injEq] at h
  rw [eq_of_toBits_eq h.1, eq_of_toBits_eq h.2.1, eq_of_toBits_eq h.2.2.1,
    eq_of_toBits_eq h.2.2.2]

namespace Memo

variable {inner : Leg → Except Error Float} {m : Memo}

/-! ## What a memo holds -/

/-- The memo holds no more than fits, and nothing but what calculating gives. -/
structure Sound (inner : Leg → Except Error Float) (m : Memo) : Prop where
  bounded : m.entries.length ≤ m.capacity
  faithful : ∀ e ∈ m.entries, ∃ g : Leg, g.key = e.1 ∧ inner g = .ok e.2

theorem capacity_lookUp (m : Memo) (k : LegKey) : (m.lookUp k).2.capacity = m.capacity := by
  unfold lookUp
  split <;> rfl

theorem sound_empty (inner : Leg → Except Error Float) (capacity : Nat) :
    (empty capacity).Sound inner where
  bounded := Nat.zero_le _
  faithful _ h := absurd h List.not_mem_nil

theorem mem_of_lookup {k : LegKey} {km : Float} {entries : List (LegKey × Float)}
    (h : entries.lookup k = some km) : (k, km) ∈ entries := by
  obtain ⟨before, after, rfl, -⟩ := List.lookup_eq_some_iff.mp h
  exact List.mem_append_right _ List.mem_cons_self

theorem mem_of_mem_without {k : LegKey} {e : LegKey × Float} {entries : List (LegKey × Float)}
    (h : e ∈ without k entries) : e ∈ entries :=
  (List.mem_filter.mp h).1

/-- To take out a key that is there makes room. -/
theorem length_without_lt {k : LegKey} {km : Float} {entries : List (LegKey × Float)}
    (h : (k, km) ∈ entries) : (without k entries).length < entries.length :=
  List.length_filter_lt_length_iff_exists.mpr ⟨(k, km), h, by simp⟩

namespace Sound

/-- What a memo answers is what calculating gives. -/
theorem eq_of_lookUp (h : m.Sound inner) {g : Leg} {km : Float}
    (hg : (m.lookUp g.key).1 = some km) : inner g = .ok km := by
  unfold lookUp at hg
  split at hg
  · next km' hkm =>
      obtain rfl : km' = km := Option.some.inj hg
      obtain ⟨g', hkey, hg'⟩ := h.faithful (g.key, km') (mem_of_lookup hkm)
      rwa [Leg.eq_of_key_eq hkey] at hg'
  · cases hg

theorem lookUp (h : m.Sound inner) (k : LegKey) : (m.lookUp k).2.Sound inner := by
  unfold Memo.lookUp
  split
  · next km hkm =>
      have hmem := mem_of_lookup hkm
      refine ⟨Nat.le_trans (length_without_lt hmem) h.bounded, fun e he => ?_⟩
      rcases List.mem_cons.mp he with rfl | he
      · exact h.faithful (k, km) hmem
      · exact h.faithful e (mem_of_mem_without he)
  · exact ⟨h.bounded, h.faithful⟩

theorem store (h : m.Sound inner) {g : Leg} {km : Float} (hg : inner g = .ok km) :
    (m.store g.key km).Sound inner where
  bounded := List.length_take_le _ _
  faithful e he := by
    rcases List.mem_cons.mp (List.mem_of_mem_take he) with rfl | he
    · exact ⟨g, rfl, hg⟩
    · exact h.faithful e (mem_of_mem_without he)

theorem clear (m : Memo) : m.clear.Sound inner where
  bounded := Nat.zero_le _
  faithful _ h := absurd h List.not_mem_nil

end Sound

end Memo

/-! ## Calls that share a memo -/

/-- How far a call has come. -/
inductive Stage where
  | asked
  /-- The leg has been looked up in vain. -/
  | missed
  | answered (d : Except Error Float)

/-- How many of its two steps a call has behind it. -/
def Stage.steps : Stage → Nat
  | asked => 0
  | missed => 1
  | answered _ => 2

/-- A memo that calls share, and how far each of them has come. -/
structure Sharing where
  memo : Memo
  stage : Nat → Stage

/-- Whose turn it is: a call takes its next step, or somebody clears the memo. -/
inductive Turn where
  | call (i : Nat)
  | clear
  deriving DecidableEq, Repr

namespace Sharing

/-- An empty memo, of which all calls have yet to ask. -/
def start (capacity : Nat) : Sharing := ⟨.empty capacity, fun _ => .asked⟩

/-- One call has come to another stage, and left the memo behind. -/
def advance (s : Sharing) (i : Nat) (t : Stage) (m : Memo) : Sharing :=
  ⟨m, fun j => if j = i then t else s.stage j⟩

variable (inner : Leg → Except Error Float) (legs : Nat → Leg)

/-- What happens in one turn. The call `i` asks for `legs i`. -/
def next (s : Sharing) : Turn → Sharing
  | .clear => { s with memo := s.memo.clear }
  | .call i =>
    match s.stage i with
    | .asked =>
      match s.memo.lookUp (legs i).key with
      | (some km, m) => s.advance i (.answered (.ok km)) m
      | (none, m) => s.advance i .missed m
    | .missed =>
      match inner (legs i) with
      | .ok km => s.advance i (.answered (.ok km)) (s.memo.store (legs i).key km)
      | .error e => s.advance i (.answered (.error e)) s.memo
    | .answered _ => s

/-- What has happened after some turns. -/
def run (s : Sharing) (turns : List Turn) : Sharing := turns.foldl (next inner legs) s

/-- The memo is sound, and every call that has been answered was answered as without a memo. -/
structure Sound (s : Sharing) : Prop where
  memo : s.memo.Sound inner
  answered : ∀ i d, s.stage i = .answered d → d = inner (legs i)

variable {inner legs} {s : Sharing}

theorem stage_advance (s : Sharing) (i j : Nat) (t : Stage) (m : Memo) :
    (s.advance i t m).stage j = if j = i then t else s.stage j := rfl

theorem Sound.advance (h : s.Sound inner legs) {i : Nat} {t : Stage} {m : Memo}
    (hm : m.Sound inner) (ht : ∀ d, t = .answered d → d = inner (legs i)) :
    (s.advance i t m).Sound inner legs where
  memo := hm
  answered j d hj := by
    rw [stage_advance] at hj
    split at hj
    · next hji => exact hji ▸ ht d hj
    · exact h.answered j d hj

/-- Every turn keeps what a memo is relied on for, whoever takes it. -/
theorem Sound.next (h : s.Sound inner legs) (turn : Turn) :
    (s.next inner legs turn).Sound inner legs := by
  cases turn with
  | clear => exact ⟨Memo.Sound.clear s.memo, h.answered⟩
  | call i =>
      rw [Sharing.next]
      split
      · next hstage =>
          have hfound := h.memo.lookUp (legs i).key
          split
          · next km m hm =>
              rw [hm] at hfound
              have hkm := h.memo.eq_of_lookUp (congrArg Prod.fst hm)
              refine h.advance hfound ?_
              rintro d ⟨⟩
              exact hkm.symm
          · next m hm =>
              rw [hm] at hfound
              exact h.advance hfound nofun
      · split
        · next km hkm =>
            refine h.advance (h.memo.store hkm) ?_
            rintro d ⟨⟩
            exact hkm.symm
        · next e he =>
            refine h.advance h.memo ?_
            rintro d ⟨⟩
            exact he.symm
      · exact h

theorem Sound.run (h : s.Sound inner legs) (turns : List Turn) :
    (s.run inner legs turns).Sound inner legs := by
  induction turns generalizing s with
  | nil => exact h
  | cons turn turns ih => exact ih (h.next turn)

theorem sound_start (capacity : Nat) : (start capacity).Sound inner legs :=
  ⟨Memo.sound_empty inner capacity, nofun⟩

theorem capacity_next (s : Sharing) (turn : Turn) :
    (s.next inner legs turn).memo.capacity = s.memo.capacity := by
  cases turn with
  | clear => rfl
  | call i =>
      have hlookUp := s.memo.capacity_lookUp (legs i).key
      rw [next]
      split
      · split
        · next hm => rwa [hm] at hlookUp
        · next hm => rwa [hm] at hlookUp
      · split <;> rfl
      · rfl

theorem capacity_run (s : Sharing) (turns : List Turn) :
    (s.run inner legs turns).memo.capacity = s.memo.capacity := by
  induction turns generalizing s with
  | nil => rfl
  | cons turn turns ih => exact (ih (s.next inner legs turn)).trans (capacity_next s turn)

/-! ### Every call ends -/

/-- A call never goes back. -/
theorem steps_le_next (s : Sharing) (turn : Turn) (i : Nat) :
    (s.stage i).steps ≤ ((s.next inner legs turn).stage i).steps := by
  cases turn with
  | clear => exact Nat.le_refl _
  | call j =>
      by_cases hij : i = j
      · subst hij
        rw [next]
        split
        · next h => rw [h]; exact Nat.zero_le _
        · next h => rw [h]; split <;> simp [stage_advance, Stage.steps]
        · exact Nat.le_refl _
      · have hstay : (s.next inner legs (.call j)).stage i = s.stage i := by
          rw [next]
          split
          · split <;> exact if_neg hij
          · split <;> exact if_neg hij
          · rfl
        exact Nat.le_of_eq (congrArg Stage.steps hstay.symm)

/-- A turn of its own takes a call on, until it has been answered. -/
theorem steps_next_self (s : Sharing) (i : Nat) :
    min 2 ((s.stage i).steps + 1) ≤ ((s.next inner legs (.call i)).stage i).steps := by
  rw [next]
  split
  · next h => rw [h]; split <;> simp [stage_advance, Stage.steps]
  · next h => rw [h]; split <;> simp [stage_advance, Stage.steps]
  · next d h => rw [h]; exact Nat.min_le_left _ _

theorem steps_run (s : Sharing) (turns : List Turn) (i : Nat) :
    min 2 ((s.stage i).steps + turns.count (.call i)) ≤
      ((s.run inner legs turns).stage i).steps := by
  induction turns generalizing s with
  | nil => exact Nat.min_le_right _ _
  | cons turn turns ih =>
      have hrest := ih (s.next inner legs turn)
      show _ ≤ (((s.next inner legs turn).run inner legs turns).stage i).steps
      by_cases hturn : turn = .call i
      · subst hturn
        have hself := @steps_next_self inner legs s i
        rw [List.count_cons_self]
        omega
      · have hstay := @steps_le_next inner legs s turn i
        rw [List.count_cons_of_ne hturn]
        omega

/-- A call that has had its two turns has been answered. -/
theorem Sound.stage_run (h : s.Sound inner legs) {turns : List Turn} {i : Nat}
    (hi : 2 ≤ turns.count (.call i)) :
    (s.run inner legs turns).stage i = .answered (inner (legs i)) := by
  have hsteps := @steps_run inner legs s turns i
  have hanswered := (h.run turns).answered i
  cases hstage : (s.run inner legs turns).stage i with
  | asked =>
      rw [hstage] at hsteps
      change _ ≤ 0 at hsteps
      omega
  | missed =>
      rw [hstage] at hsteps
      change _ ≤ 1 at hsteps
      omega
  | answered d => rw [hanswered d hstage]

end Sharing

/-! ## Questions one after the other -/

/-- To calculate with a memo is to take both steps of a call one after the other. -/
theorem Memo.calculate_eq_run (inner : Leg → Except Error Float) (m : Memo) (g : Leg) :
    (Sharing.run inner (fun _ => g) ⟨m, fun _ => .asked⟩ [.call 0, .call 0]).memo =
        (m.calculate inner g).2 ∧
      (Sharing.run inner (fun _ => g) ⟨m, fun _ => .asked⟩ [.call 0, .call 0]).stage 0 =
        .answered (m.calculate inner g).1 := by
  simp only [Sharing.run, List.foldl_cons, List.foldl_nil, Sharing.next, calculate]
  cases hm : m.lookUp g.key with
  | mk found n =>
      cases found with
      | some km => exact ⟨rfl, rfl⟩
      | none =>
          simp only [Sharing.stage_advance, if_true]
          cases inner g <;> exact ⟨rfl, rfl⟩

theorem Memo.Sound.calculate {inner : Leg → Except Error Float} {m : Memo} (h : m.Sound inner)
    (g : Leg) : (m.calculate inner g).1 = inner g ∧ (m.calculate inner g).2.Sound inner := by
  have hstart : (Sharing.mk m fun _ => .asked).Sound inner fun _ => g := ⟨h, nofun⟩
  obtain ⟨hmemo, hstage⟩ := Memo.calculate_eq_run inner m g
  refine ⟨?_, hmemo ▸ (hstart.run [.call 0, .call 0]).memo⟩
  have htwo : 2 ≤ [Turn.call 0, .call 0].count (.call 0) := by decide
  have hanswered := hstart.stage_run htwo
  exact Stage.answered.inj (hstage.symm.trans hanswered)

namespace Gauge

/-- The memo, if there is one, knows only what the strategy gives. -/
def Sound (r : Gauge) : Prop := ∀ m ∈ r.memo, m.Sound r.strategy.calculate

/-- Two gauges of one strategy. Their memos may hold different distances. -/
structure Alike (r r' : Gauge) : Prop where
  strategy : r.strategy = r'.strategy
  sound : r.Sound
  sound' : r'.Sound

variable {r r' : Gauge}

theorem Sound.calculate (h : r.Sound) (g : Leg) :
    (r.calculate g).1 = r.strategy.calculate g ∧ (r.calculate g).2.strategy = r.strategy ∧
      (r.calculate g).2.Sound := by
  unfold Gauge.calculate
  split
  · exact ⟨rfl, rfl, h⟩
  · next m hm =>
      obtain ⟨hanswer, hsound⟩ := (h m hm).calculate g
      refine ⟨hanswer, rfl, ?_⟩
      rintro n ⟨⟩
      exact hsound

namespace Alike

theorem calculate (h : r.Alike r') (g : Leg) :
    (r.calculate g).1 = (r'.calculate g).1 ∧ (r.calculate g).2.Alike (r'.calculate g).2 := by
  obtain ⟨hanswer, hstrategy, hsound⟩ := h.sound.calculate g
  obtain ⟨hanswer', hstrategy', hsound'⟩ := h.sound'.calculate g
  refine ⟨?_, ?_, hsound, hsound'⟩
  · rw [hanswer, hanswer', h.strategy]
  · rw [hstrategy, hstrategy', h.strategy]

theorem distance (h : r.Alike r') (a b : Option Coordinate) (u : DistanceUnit) :
    (r.distance a b u).1 = (r'.distance a b u).1 ∧
      (r.distance a b u).2.Alike (r'.distance a b u).2 := by
  unfold Gauge.distance
  split
  · next a b =>
      obtain ⟨hanswer, halike⟩ := h.calculate (.between a b)
      exact ⟨congrArg (Except.map _) hanswer, halike⟩
  · exact ⟨rfl, h⟩

theorem distances (h : r.Alike r') (a : Option Coordinate) (u : DistanceUnit)
    (bs : List (Option Coordinate)) :
    (r.distances a u bs).1 = (r'.distances a u bs).1 ∧
      (r.distances a u bs).2.Alike (r'.distances a u bs).2 := by
  induction bs generalizing r r' with
  | nil => exact ⟨rfl, h⟩
  | cons b bs ih =>
      obtain ⟨hanswer, halike⟩ := h.distance a b u
      unfold Gauge.distances
      generalize r.distance a b u = p at hanswer halike ⊢
      generalize r'.distance a b u = p' at hanswer halike ⊢
      obtain ⟨d, q⟩ := p
      obtain ⟨d', q'⟩ := p'
      obtain rfl : d = d' := hanswer
      cases d with
      | error e => exact ⟨rfl, halike⟩
      | ok d =>
          obtain ⟨hrest, hlast⟩ := ih halike
          exact ⟨congrArg (Except.map _) hrest, hlast⟩

end Alike

/-! ### Everything that can be asked -/

/-- What a gauge can be asked. -/
inductive Question where
  | strategyName
  | calculate (g : Leg)
  | distance (a b : Option Coordinate) (u : DistanceUnit)
  | distances (a : Option Coordinate) (u : DistanceUnit) (bs : List (Option Coordinate))
  | bearing (a b : Option Coordinate)
  | midpoint (a b : Option Coordinate)
  | interpolate (a b : Option Coordinate) (fraction : Float)
  | boundingBox (positions : List (Option Coordinate))

/-- What comes back. -/
inductive Reply where
  | text (s : String)
  | kilometers (d : Except Error Float)
  | distance (d : Except Error (Option Float))
  | distances (ds : Except Error (List (Option Float)))
  | bearing (degrees : Option Float)
  | position (c : Except Error (Option Coordinate))
  | bounds (b : Option Bounds)

/-- The reply to a question, and the gauge afterwards. Only distances need the gauge. -/
def reply (r : Gauge) : Question → Reply × Gauge
  | .strategyName => (.text r.strategy.name, r)
  | .calculate g => ((r.calculate g).map .kilometers id)
  | .distance a b u => ((r.distance a b u).map .distance id)
  | .distances a u bs => ((r.distances a u bs).map .distances id)
  | .bearing a b => (.bearing (a.bind fun a => b.map (GreatCircle.bearing a)), r)
  | .midpoint a b =>
    (.position (.ok (a.bind fun a => b.bind fun b => (GreatCircle.midpoint a b).toOption)), r)
  | .interpolate a b fraction => (.position (GreatCircle.interpolate? a b fraction), r)
  | .boundingBox positions => (.bounds (Bounds.enclosing (positions.filterMap id)), r)

/-- The replies to questions that are asked one after the other. -/
def replies (r : Gauge) : List Question → List Reply
  | [] => []
  | q :: qs => (r.reply q).1 :: (r.reply q).2.replies qs

theorem Alike.reply (h : r.Alike r') (q : Question) :
    (r.reply q).1 = (r'.reply q).1 ∧ (r.reply q).2.Alike (r'.reply q).2 := by
  cases q with
  | strategyName => exact ⟨by rw [Gauge.reply, Gauge.reply, h.strategy], h⟩
  | calculate g => exact (h.calculate g).imp_left (congrArg Reply.kilometers)
  | distance a b u => exact (h.distance a b u).imp_left (congrArg Reply.distance)
  | distances a u bs => exact (h.distances a u bs).imp_left (congrArg Reply.distances)
  | bearing a b => exact ⟨rfl, h⟩
  | midpoint a b => exact ⟨rfl, h⟩
  | interpolate a b fraction => exact ⟨rfl, h⟩
  | boundingBox positions => exact ⟨rfl, h⟩

theorem Alike.replies (h : r.Alike r') (qs : List Question) : r.replies qs = r'.replies qs := by
  induction qs generalizing r r' with
  | nil => rfl
  | cons q qs ih =>
      obtain ⟨hreply, halike⟩ := h.reply q
      rw [Gauge.replies, Gauge.replies, hreply, ih halike]

end Gauge

/-! ## Configured capacities -/

/-- A gauge that is built starts with an empty memo, or with none. -/
theorem Config.sound_measure (c : Config) (worth : Bool) (capacity : Nat) :
    Gauge.Sound ⟨c.measure, if worth then some (Memo.empty capacity) else none⟩ := by
  intro m hm
  cases worth with
  | false => cases hm
  | true =>
      obtain rfl := Option.some.inj hm
      exact Memo.sound_empty _ capacity

/-- The capacity of the memo changes no reply. -/
theorem Config.replies_of_cacheCapacity (c : Config) (n : Nat) (qs : List Gauge.Question) :
    { c with cacheCapacity := n }.build.map (Gauge.replies · qs) =
      c.build.map (Gauge.replies · qs) := by
  show Except.map _ (c.check >>= fun _ => _) = Except.map _ (c.check >>= fun _ => _)
  cases c.check with
  | error e => rfl
  | ok u =>
      have hsound := c.sound_measure (c.mayIterate && n != 0) n
      have hsound' := c.sound_measure (c.mayIterate && c.cacheCapacity != 0) c.cacheCapacity
      refine congrArg Except.ok (Gauge.Alike.replies ⟨?_, hsound, hsound'⟩ qs)
      rfl

/-- **A memo answers as if there were none.** However many calls share it and in whatever order they
take their steps, with the memo cleared at any time between: who has been answered was answered what
calculating gives, be it a distance or a failure, and everybody is after two turns of his own; the
memo never holds more than its capacity, and nothing but what calculating gives. Two
configurations that differ in the capacity alone therefore build gauges that reply alike. -/
theorem answers_without_memo :
    (∀ (inner : Leg → Except Error Float) (capacity : Nat) (legs : Nat → Leg) (turns : List Turn),
      let s := (Sharing.start capacity).run inner legs turns
      (∀ i d, s.stage i = .answered d → d = inner (legs i)) ∧
      (∀ i, 2 ≤ turns.count (.call i) → s.stage i = .answered (inner (legs i))) ∧
      s.memo.capacity = max capacity 1 ∧ s.memo.entries.length ≤ max capacity 1 ∧
      ∀ e ∈ s.memo.entries, (∃ g : Leg, g.key = e.1) ∧
        ∀ g : Leg, g.key = e.1 → inner g = .ok e.2) ∧
    ∀ (c : Config) (n : Nat) (questions : List Gauge.Question),
      { c with cacheCapacity := n }.build.map (Gauge.replies · questions) =
        c.build.map (Gauge.replies · questions) := by
  refine ⟨fun inner capacity legs turns => ?_, Config.replies_of_cacheCapacity⟩
  have hstart : (Sharing.start capacity).Sound inner legs := Sharing.sound_start capacity
  have hrun := hstart.run turns
  have hcapacity : ((Sharing.start capacity).run inner legs turns).memo.capacity =
      max capacity 1 := Sharing.capacity_run (Sharing.start capacity) turns
  refine ⟨hrun.answered, fun i hi => hstart.stage_run hi, hcapacity,
    hcapacity ▸ hrun.memo.bounded, fun e he => ?_⟩
  obtain ⟨g, hg, hkm⟩ := hrun.memo.faithful e he
  exact ⟨⟨g, hg⟩, fun g' hg' => Leg.eq_of_key_eq (hg.trans hg'.symm) ▸ hkm⟩

/-- Two calls for one leg and a third one for a leg that is out of range. -/
def crossing (i : Nat) : Leg := if i = 2 then ⟨95.0, 0.0, 0.0, 0.0⟩ else ⟨1.0, 2.0, 3.0, 4.0⟩

/-- Both calls for the leg look it up before either stores; meanwhile the memo is cleared. -/
def crossingTurns : List Turn :=
  [.call 0, .call 2, .call 1, .call 0, .clear, .call 2, .call 1]

theorem answers_without_memo_crossing :
    let s := (Sharing.start 0).run Strategy.planar.calculate crossing crossingTurns
    2 ≤ crossingTurns.count (.call 1) ∧ 2 ≤ crossingTurns.count (.call 2) ∧
    s.stage 1 = .answered (Strategy.planar.calculate ⟨1.0, 2.0, 3.0, 4.0⟩) ∧
    s.stage 2 = .answered (.error (.coordinate (.latitude 95.0))) ∧
    s.memo.entries.length ≤ 1 := by
  have h := answers_without_memo.1 Strategy.planar.calculate 0 crossing crossingTurns
  have hrefused : Strategy.planar.calculate (crossing 2) =
      .error (.coordinate (.latitude 95.0)) := rfl
  exact ⟨by decide, by decide, h.2.1 1 (by decide), hrefused ▸ h.2.1 2 (by decide), h.2.2.2.1⟩

end Gazetteer.Geodesy
