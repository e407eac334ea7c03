import Gazetteer.Proofs.Component
import Gazetteer.Proofs.Run

/-!
# Updates

An assignment to an entity does one of four things to an atlas (`Atlas.Writes`): the entity takes a
value in under the name of the field, or a placemark is located, which drops, moves or makes a
point. Nothing else changes, and an update is a sequence of assignments that stops at the first one
that is refused (`Atlas.assign_changes_one_component`).
-/

namespace Gazetteer

open Geodesy

namespace Atlas

/-- What assigning a value to a component of an entity does to an atlas. -/
inductive Writes (a : Atlas) (r : Ref) (v : Value) (b : Atlas) : Component → Prop
  /-- The entity takes the value in; nothing else of it changes, and no other entity. -/
  | store {c : Component} {n m : Node} (hc : r.kind = .placemark → c ≠ .coordinates)
      (old : a.node? r = some n) (new : b.node? r = some m) (frame : c.clear m = c.clear n)
      (accept : c.accept r.kind v = .ok (c.value b m))
      (others : ∀ s, s ≠ r → b.node? s = a.node? s) : a.Writes r v b c
  /-- Null drops the embedded point of a placemark, and keeps any other geometry. -/
  | drop {d : Details} {p : Placemark} (hv : v = .null) (old : a.node? r = some ⟨d, .placemark p⟩)
      (new : b.node? r =
        some ⟨d, .placemark { p with geometry := p.geometry.filter (·.kind ≠ .point) }⟩)
      (others : ∀ s, s ≠ r → b.node? s = a.node? s) : a.Writes r v b .coordinates
  /-- The embedded point of a placemark is moved and stays what it is otherwise. -/
  | move {d : Details} {p : Placemark} {c : Coordinate} {q : Ref}
      (hc : Assigned.coordinate v = .ok c) (old : a.node? r = some ⟨d, .placemark p⟩)
      (hq : p.geometry = some q) (hk : q.kind = .point) (hfree : a.isHeld q = false)
      (new : b.node? r = a.node? r)
      (point : ∀ e w, a.node? q = some ⟨e, .point w⟩ →
        b.node? q = some ⟨e, .point { w with position := some c }⟩)
      (others : ∀ s, s ≠ q → b.node? s = a.node? s) : a.Writes r v b .coordinates
  /-- A placemark without geometry gets a new point. -/
  | make {d : Details} {p : Placemark} {c : Coordinate} {q : Ref}
      (hc : Assigned.coordinate v = .ok c) (old : a.node? r = some ⟨d, .placemark p⟩)
      (hnone : p.geometry = none) (hq : q = ⟨.point, a.nodes.size⟩)
      (new : b.node? r = some ⟨d, .placemark { p with geometry := some q }⟩)
      (point : b.node? q = some ⟨{}, .point (.at c)⟩)
      (others : ∀ s, s ≠ r → s ≠ q → b.node? s = a.node? s) : a.Writes r v b .coordinates

variable {a b : Atlas} {r : Ref} {name : String} {v : Value} {n : Node}

/-- **An assignment writes the component that the field names.** -/
theorem assign_writes (hn : a.node? r = some n) (h : a.assign r name v = .ok b) :
    ∃ c ∈ Component.ofKind r.kind, c.fieldName = name ∧ a.Writes r v b c := by
  have hr : a.contains r := contains_iff.mpr ⟨n, hn⟩
  have hkind : n.kind = r.kind := kind_of_node? hn
  simp only [assign, hn] at h
  obtain ⟨⟨m, x⟩, hassign, rfl⟩ := exists_of_map_eq_ok h
  rcases Node.assign_cases hassign with ⟨c, hmem, hname, hc, rfl, hm, hframe, haccept⟩ |
    ⟨d, p, q, rfl, rfl, rfl, hlocates⟩
  · have hnew : (x.set r m).node? r = some m := node?_set_self hr (hm.trans hkind)
    rw [hkind] at hmem hc haccept
    refine ⟨c, hmem, hname, .store hc hn hnew hframe ?_ fun s hs => node?_set_of_ne m hs⟩
    rw [haccept, Component.value_congr (by rwa [hm, hkind]) _ (x.set r m)]
  refine ⟨.coordinates, ?_, rfl, ?_⟩
  · rw [← hkind]
    show Component.coordinates ∈ Component.ofKind .placemark
    decide
  cases hlocates with
  | drop hv =>
      exact .drop hv hn (node?_set_self hr hkind) fun s hs => node?_set_of_ne _ hs
  | @move c q hc hq hk hfree =>
      have hne : r ≠ q := by
        rintro rfl
        rw [hk] at hkind
        cases hkind
      have hmoved : (a.movePoint q (some c)).node? r = some ⟨d, .placemark p⟩ :=
        (node?_modify_of_ne _ hne).trans hn
      have hset : ∀ s, ((a.movePoint q (some c)).set r ⟨d, .placemark p⟩).node? s =
          (a.movePoint q (some c)).node? s := by
        intro s
        by_cases hs : s = r
        · rw [hs, hmoved]
          exact node?_set_self (contains_iff.mpr ⟨_, hmoved⟩) hkind
        · exact node?_set_of_ne _ hs
      refine .move hc hn hq hk hfree ?_ (fun e w hw => ?_) fun s hs => ?_
      · rw [hset, hmoved, hn]
      · rw [hset, movePoint, node?_modify_self ?_, hw]
        · rfl
        · rintro ⟨e, body⟩
          cases body <;> rfl
      · rw [hset]
        exact node?_modify_of_ne _ hs
  | @make c hc hnone =>
      have hne : r ≠ (a.insert ⟨{}, .point (.at c)⟩).1 := by
        rintro rfl
        rw [node?_fst_insert] at hn
        cases hn
      have hold : (a.insert ⟨{}, .point (.at c)⟩).2.node? r = some ⟨d, .placemark p⟩ := by
        rw [node?_insert, if_neg hne, hn]
      refine .make hc hn hnone rfl (node?_set_self (contains_iff.mpr ⟨_, hold⟩) hkind) ?_
        fun s hs hq => ?_
      · exact (node?_set_of_ne _ hne.symm).trans ((node?_insert ..).trans (if_pos rfl))
      · exact (node?_set_of_ne _ hs).trans ((node?_insert ..).trans (if_neg hq))

/-- What is shown of a component of an entity. -/
def shown (a : Atlas) (r : Ref) (c : Component) : Option Value :=
  (a.node? r).map fun n => c.value a n

/-- Where a placemark lies is decided by its point. -/
theorem embeddedPosition?_congr {p : Placemark}
    (h : ∀ q : Ref, q.kind = .point → q ∈ p.embedded → b.free? q = a.free? q) :
    b.embeddedPosition? p = a.embeddedPosition? p := by
  have hfree : p.point?.bind b.free? = p.point?.bind a.free? := by
    cases hp : p.point? with
    | none => rfl
    | some q =>
        obtain ⟨hgeometry, hk⟩ := Placemark.point?_eq_some_iff.mp hp
        refine h q hk (List.mem_append_left _ ?_)
        exact Option.mem_toList.mpr hgeometry
  rw [embeddedPosition?, embeddedPosition?, hfree]

variable {c c' : Component}

/-- The other components show what they have shown. -/
theorem Writes.shown_of_ne (h : a.Writes r v b c) (hhidden : ∀ q, b.isHidden q = a.isHidden q)
    (hne : c' ≠ c) : b.shown r c' = a.shown r c' := by
  have hframe : ∀ {m n : Node}, a.node? r = some n → b.node? r = some m → c.clear m = c.clear n →
      (n.kind = .placemark → c' = .coordinates → ∀ s, s ≠ r → b.node? s = a.node? s) →
      b.shown r c' = a.shown r c' := by
    intro m n hn hm hclear hothers
    rw [shown, shown, hn, hm]
    refine congrArg some ?_
    show c'.value b m = c'.value a n
    rw [← Component.value_clear hne b m, hclear, Component.value_clear hne b n]
    by_cases hat : n.kind = .placemark ∧ c' = .coordinates
    · -- the coordinates of a placemark are read off another entity
      obtain ⟨hk, rfl⟩ := hat
      obtain ⟨d, p, rfl⟩ := Node.exists_of_kind_eq_placemark hk
      refine congrArg positionValue (embeddedPosition?_congr fun q hq _ => ?_)
      have hqr : q ≠ r := by
        rintro rfl
        rw [← kind_of_node? hn] at hq
        cases hq
      rw [free?, free?, hhidden, hothers hk rfl q hqr]
    · exact Component.value_congr (fun hk hc => hat ⟨hk, hc⟩) b a
  cases h with
  | store hc old new frame accept others => exact hframe old new frame fun _ _ => others
  | drop hv old new others => exact hframe old new rfl fun _ hc => absurd hc hne
  | move hc old hq hk hfree new point others =>
      exact hframe old (new.trans old) rfl fun _ hc => absurd hc hne
  | make hc old hnone hq new point others => exact hframe old new rfl fun _ hc => absurd hc hne

/-- A component shows what it has taken in if nobody changes the points that placemarks refer to. -/
theorem Writes.shown_self (h : a.Writes r v b c) (hhidden : ∀ q, b.isHidden q = a.isHidden q)
    (hfree : ∀ q : Ref, q.kind = .point → a.isHidden q = false)
    (hlinks : ∀ n, a.node? r = some n → ∀ q ∈ n.links, a.contains q) :
    ∃ w, c.accept r.kind v = .ok w ∧ b.shown r c = some w := by
  -- the two cases with a point at the end, moved or made
  have hplace : ∀ {d e : Details} {p : Placemark} {w : Point} {q : Ref},
      b.node? r = some ⟨d, .placemark p⟩ → p.geometry = some q → q.kind = .point →
      b.node? q = some ⟨e, .point w⟩ →
      b.shown r .coordinates = some (positionValue w.position) := by
    intro d e p w q hr hq hk hpoint
    have hopen : b.free? q = some ⟨e, .point w⟩ := by
      rw [free?, hhidden, hfree q hk, hpoint]
      rfl
    have hposition : b.embeddedPosition? p = w.position := by
      rw [embeddedPosition?, Placemark.point?, hq, Option.filter_some_pos (by simp [hk]),
        Option.bind_some, hopen]
    rw [shown, hr, ← hposition]
    rfl
  have haccept : ∀ {d : Details} {p : Placemark} {x : Coordinate},
      a.node? r = some ⟨d, .placemark p⟩ → Assigned.coordinate v = .ok x →
      Component.accept r.kind v .coordinates = .ok x.toValue := by
    intro d p x hr hx
    rw [← kind_of_node? hr]
    cases v with
    | null => cases hx
    | _ => exact congrArg (Except.map (·.toValue)) hx
  cases h with
  | store hc old new frame accept others =>
      refine ⟨_, accept, ?_⟩
      rw [shown, new]
      rfl
  | @drop d p hv old new others =>
      have hnone : b.shown r .coordinates = some .null := by
        have hpoint : (p.geometry.filter (·.kind ≠ .point)).filter (·.kind = .point) = none := by
          cases p.geometry with
          | none => rfl
          | some q => by_cases hk : q.kind = .point <;> simp [Option.filter, hk]
        rw [shown, new]
        show some (positionValue (b.embeddedPosition? _)) = _
        rw [embeddedPosition?, Placemark.point?, hpoint]
        rfl
      refine ⟨.null, ?_, hnone⟩
      rw [← kind_of_node? old, hv]
      rfl
  | @move d p x q hc old hq hk _ new point others =>
      have hcontains := hlinks _ old q (by simp [Node.links, Placemark.embedded, hq])
      obtain ⟨n, hn⟩ := contains_iff.mp hcontains
      obtain ⟨e, w, rfl⟩ := Node.exists_of_kind_eq_point ((kind_of_node? hn).trans hk)
      exact ⟨x.toValue, haccept old hc, hplace (new.trans old) hq hk (point e w hn)⟩
  | make hc old hnone hq new point others =>
      exact ⟨_, haccept old hc, hplace new rfl (by rw [hq]) point⟩

/-- Nobody but the entity changes and what it refers to. -/
theorem Writes.node?_of_not_mem (h : a.Writes r v b c) (hn : a.node? r = some n) {s : Ref}
    (hs : s.number < a.nodes.size) (hsr : s ≠ r) (hlinks : s ∉ n.links) :
    b.node? s = a.node? s := by
  cases h with
  | store hc old new frame accept others => exact others s hsr
  | drop hv old new others => exact others s hsr
  | move hc old hq hk hfree new point others =>
      refine others s ?_
      rintro rfl
      obtain rfl := Option.some.inj (hn.symm.trans old)
      exact hlinks (by simp [Node.links, Placemark.embedded, hq])
  | make hc old hnone hq new point others =>
      refine others s hsr ?_
      rintro rfl
      rw [hq] at hs
      exact Nat.lt_irrefl _ hs

/-- What an entity comes to refer to has been made for it. -/
theorem Writes.mem_links (h : a.Writes r v b c) {s q : Ref} {m : Node} (hm : b.node? s = some m)
    (hq : q ∈ m.links) :
    (∃ n, a.node? s = some n ∧ q ∈ n.links) ∨
      s = r ∧ q = ⟨.point, a.nodes.size⟩ ∧ b.contains q := by
  cases h with
  | store hc old new frame accept others =>
      by_cases hs : s = r
      · subst hs
        obtain rfl := Option.some.inj (hm.symm.trans new)
        rw [← kind_of_node? hm] at hc
        rw [← Component.links_clear hc, frame, Component.links_clear] at hq
        · exact Or.inl ⟨_, old, hq⟩
        · rwa [kind_of_node? old, ← kind_of_node? hm]
      · exact Or.inl ⟨m, (others s hs).symm.trans hm, hq⟩
  | drop hv old new others =>
      by_cases hs : s = r
      · subst hs
        obtain rfl := Option.some.inj (hm.symm.trans new)
        refine Or.inl ⟨_, old, ?_⟩
        simp only [Node.links, Placemark.embedded, List.mem_append, Option.mem_toList] at hq ⊢
        exact hq.imp_left fun hq => (Option.filter_eq_some_iff.mp hq).1
      · exact Or.inl ⟨m, (others s hs).symm.trans hm, hq⟩
  | @move d p c t hc old ht hk hfree new point others =>
      by_cases hs : s = t
      · -- the point that is moved refers to nothing
        subst hs
        obtain ⟨e, w, rfl⟩ := Node.exists_of_kind_eq_point ((kind_of_node? hm).trans hk)
        cases hq
      · exact Or.inl ⟨m, (others s hs).symm.trans hm, hq⟩
  | @make d p c t hc old hnone ht new point others =>
      by_cases hs : s = r
      · subst hs
        obtain rfl := Option.some.inj (hm.symm.trans new)
        simp only [Node.links, Placemark.embedded, Option.toList_some, List.mem_append,
          List.mem_singleton] at hq
        rcases hq with rfl | hq
        · exact Or.inr ⟨rfl, ht, contains_iff.mpr ⟨_, point⟩⟩
        · exact Or.inl ⟨_, old, List.mem_append_right _ hq⟩
      · by_cases hst : s = t
        · subst hst
          obtain rfl := Option.some.inj (hm.symm.trans point)
          cases hq
        · exact Or.inl ⟨m, (others s hs hst).symm.trans hm, hq⟩

/-! ## Updates -/

theorem assign_of_node?_eq_none (h : a.node? r = none) : a.assign r name v = .ok a := by
  rw [assign, h]

/-- Assignments that stop have been made up to the one that is refused. -/
theorem assignAll_eq_error {fields : List (String × Value)} {e : Error}
    (h : a.assignAll r fields = (.error e, b)) :
    ∃ done name v rest, fields = done ++ (name, v) :: rest ∧ a.assignAll r done = (.ok (), b) ∧
      b.assign r name v = .error e := by
  induction fields generalizing a with
  | nil => cases h
  | cons field fields ih =>
      obtain ⟨name, v⟩ := field
      rw [assignAll] at h
      split at h
      · next x hx =>
          obtain ⟨done, name', v', rest, rfl, hdone, hstop⟩ := ih h
          refine ⟨(name, v) :: done, name', v', rest, rfl, ?_, hstop⟩
          rw [assignAll, hx]
          exact hdone
      · next e' he =>
          obtain ⟨rfl, rfl⟩ : e' = e ∧ a = b := by simpa using h
          exact ⟨[], name, v, fields, rfl, rfl, he⟩

theorem update_eq_error {fields : Criteria} {e : Error} (h : a.update r fields = (.error e, b)) :
    (∃ done name v rest, fields.pairs = done ++ (name, v) :: rest ∧
      a.assignAll r done = (.ok (), b) ∧ b.assign r name v = .error e) ∨
    a.assignAll r fields.pairs = (.ok (), b) ∧ b.check r = .error e := by
  unfold update at h
  split at h
  · next x hx =>
      obtain ⟨he, rfl⟩ := Prod.mk.inj h
      exact Or.inr ⟨hx, he⟩
  · next e' x hx =>
      obtain ⟨he, rfl⟩ := Prod.mk.inj h
      exact Or.inl (assignAll_eq_error (he ▸ hx))

/-- An update ends in the atlas after all assignments or after those before the refused one. -/
theorem update_snd (a : Atlas) (r : Ref) (fields : Criteria) :
    (a.update r fields).2 = (a.assignAll r fields.pairs).2 := by
  unfold update
  split <;> next h => rw [h]

/-- Components that no field names show what they have shown. -/
theorem shown_assignAll {fields : List (String × Value)} (hc : ∀ v, (c.fieldName, v) ∉ fields) :
    (a.assignAll r fields).2.shown r c = a.shown r c := by
  induction fields generalizing a with
  | nil => rfl
  | cons field fields ih =>
      obtain ⟨name, v⟩ := field
      rw [assignAll]
      split
      · next x hx =>
          rw [ih fun v hv => hc v (List.mem_cons_of_mem _ hv)]
          cases hn : a.node? r with
          | none =>
              rw [assign_of_node?_eq_none hn] at hx
              obtain rfl := Except.ok.inj hx
              rfl
          | some n =>
              obtain ⟨c', -, hname, hwrites⟩ := assign_writes hn hx
              refine hwrites.shown_of_ne (assign_extends hx).isHidden ?_
              rintro rfl
              exact hc v (hname ▸ List.mem_cons_self)
      · rfl

/-- What there has been and what the updated entity does not refer to stays as it is. -/
theorem node?_assignAll {fields : List (String × Value)} {s : Ref} (hs : s.number < a.nodes.size)
    (hsr : s ≠ r) (hlinks : ∀ n, a.node? r = some n → s ∉ n.links) :
    (a.assignAll r fields).2.node? s = a.node? s := by
  induction fields generalizing a with
  | nil => rfl
  | cons field fields ih =>
      obtain ⟨name, v⟩ := field
      rw [assignAll]
      split
      · next x hx =>
          cases hn : a.node? r with
          | none =>
              rw [assign_of_node?_eq_none hn] at hx
              obtain rfl := Except.ok.inj hx
              exact ih hs hlinks
          | some n =>
              obtain ⟨c, -, -, hwrites⟩ := assign_writes hn hx
              have hstays := hwrites.node?_of_not_mem hn hs hsr (hlinks n hn)
              have hlt := Nat.lt_of_lt_of_le hs (assign_extends hx).size
              refine (ih hlt fun m hm hq => ?_).trans hstays
              rcases hwrites.mem_links hm hq with ⟨n', hn', hq⟩ | ⟨-, hnew, -⟩
              · exact hlinks n' hn' hq
              · -- what has been made meanwhile has a later number
                rw [hnew] at hs
                exact Nat.lt_irrefl _ hs
      · rfl

/-- Assignments that go through, one after the other. -/
theorem assignAll_append_eq_ok_iff {fields fields' : List (String × Value)} :
    a.assignAll r (fields ++ fields') = (.ok (), b) ↔
      ∃ x, a.assignAll r fields = (.ok (), x) ∧ x.assignAll r fields' = (.ok (), b) := by
  induction fields generalizing a with
  | nil => simp [assignAll]
  | cons field fields ih =>
      obtain ⟨name, v⟩ := field
      rw [List.cons_append, assignAll, assignAll]
      cases a.assign r name v with
      | error e => simp
      | ok x => exact ih

/-- What an entity refers to stays there. -/
theorem contains_links_assignAll (fields : List (String × Value))
    (h : ∀ n, a.node? r = some n → ∀ q ∈ n.links, a.contains q) :
    ∀ n, (a.assignAll r fields).2.node? r = some n →
      ∀ q ∈ n.links, (a.assignAll r fields).2.contains q := by
  induction fields generalizing a with
  | nil => exact h
  | cons field fields ih =>
      obtain ⟨name, v⟩ := field
      rw [assignAll]
      split
      · next x hx =>
          refine ih fun m hm q hq => ?_
          cases hn : a.node? r with
          | none =>
              rw [assign_of_node?_eq_none hn] at hx
              obtain rfl := Except.ok.inj hx
              rw [hn] at hm
              cases hm
          | some n =>
              obtain ⟨c, -, -, hwrites⟩ := assign_writes hn hx
              rcases hwrites.mem_links hm hq with ⟨n', hn', hq⟩ | ⟨-, -, hcontains⟩
              · exact (assign_extends hx).contains (h n' hn' q hq)
              · exact hcontains
      · exact h

/-- **A component shows what the last assignment to it has taken in.** -/
theorem shown_assignAll_last {before after : List (String × Value)} (hr : a.contains r)
    (hfree : ∀ q : Ref, q.kind = .point → a.isHidden q = false)
    (hlinks : ∀ n, a.node? r = some n → ∀ q ∈ n.links, a.contains q)
    (h : a.assignAll r (before ++ (name, v) :: after) = (.ok (), b))
    (hlast : ∀ w, (name, w) ∉ after) :
    ∃ c ∈ Component.ofKind r.kind, c.fieldName = name ∧
      ∃ w, c.accept r.kind v = .ok w ∧ b.shown r c = some w := by
  obtain ⟨x, hx, hlater⟩ := assignAll_append_eq_ok_iff.mp h
  -- the assignments before the last one keep what it needs
  have hextends : a.Extends x := by
    have hall := assignAll_extends a r before
    rwa [hx] at hall
  have hxlinks := contains_links_assignAll before hlinks
  rw [hx] at hxlinks
  have hxfree : ∀ q : Ref, q.kind = .point → x.isHidden q = false :=
    fun q hq => (hextends.isHidden q).trans (hfree q hq)
  obtain ⟨n, hn⟩ := contains_iff.mp (hextends.contains hr)
  rw [assignAll] at hlater
  split at hlater
  · next y hy =>
      obtain ⟨c, hc, rfl, hwrites⟩ := assign_writes hn hy
      obtain ⟨w, haccept, hshown⟩ := hwrites.shown_self (assign_extends hy).isHidden hxfree hxlinks
      have hrest := shown_assignAll (a := y) (r := r) hlast
      rw [hlater] at hrest
      exact ⟨c, hc, rfl, w, haccept, hrest.trans hshown⟩
  · cases hlater

theorem assign_eq_error {e : Error} (h : a.assign r name v = .error e) :
    ∃ cause, e = .validation (some name) cause := by
  unfold assign at h
  split at h
  · next n hn =>
      unfold Node.assign at h
      split at h
      · exact ⟨_, (Except.error.inj h).symm⟩
      · split at h
        · exact ⟨_, (Except.error.inj h).symm⟩
        · next assign _ =>
            cases hx : assign a n v with
            | error cause =>
                rw [hx] at h
                exact ⟨cause, (Except.error.inj h).symm⟩
            | ok p =>
                rw [hx] at h
                cases h
  · cases h

theorem exists_assign_eq_ok_iff (hn : a.node? r = some n) :
    (∃ b, a.assign r name v = .ok b) ↔ ∃ m b, n.assign a name v = .ok (m, b) := by
  simp only [assign, hn]
  cases n.assign a name v with
  | error e => simp [Except.map]
  | ok p =>
      obtain ⟨m, b⟩ := p
      simp [Except.map]

/-- **An assignment changes the component that the field names, or nothing.** The error of a refused
one names the field. What is taken in is written to the component, and nothing else of the entity
changes and no other entity: only the coordinates of a placemark are written through its embedded
point, which null drops and a position moves, or makes where there is no geometry; a geometry that
is no point stays whatever is assigned. Which values are taken in is known for every component. An
update that fails ends after exactly the assignments before the refused one, or after all of them if
the check refuses the whole; the components that it does not name show what they have shown. -/
theorem assign_changes_one_component (a : Atlas) (r : Ref) (n : Node) (hn : a.node? r = some n) :
    (∀ name v,
      (∀ e, a.assign r name v = .error e →
        (Operation.assign r name v).run a = a ∧ ∃ cause, e = .validation (some name) cause) ∧
      ∀ b, a.assign r name v = .ok b →
        b.held = a.held ∧ b.shared = a.shared ∧
          ∃ c ∈ Component.ofKind r.kind, c.fieldName = name ∧ a.Writes r v b c) ∧
    (∀ c ∈ Component.ofKind r.kind, (r.kind = .placemark → c ≠ .coordinates) → ∀ v,
      (∃ b, a.assign r c.fieldName v = .ok b) ↔ ∃ w, c.accept r.kind v = .ok w) ∧
    (∀ d p v, n = ⟨d, .placemark p⟩ →
      ((∃ b, a.assign r "coordinates" v = .ok b) ↔
        v = .null ∨ (∃ c, Assigned.coordinate v = .ok c) ∧
          ∀ q, p.geometry = some q → q.kind = .point ∧ a.isHeld q = false)) ∧
    ∀ fields : Criteria,
      let result := (a.update r fields).1
      let b := (a.update r fields).2
      (∀ c : Component, c.fieldName ∉ fields.keys → b.shown r c = a.shown r c) ∧
      ∀ e, result = .error e →
        (∃ done name v rest, fields.pairs = done ++ (name, v) :: rest ∧
          a.assignAll r done = (.ok (), b) ∧ b.assign r name v = .error e) ∨
        a.assignAll r fields.pairs = (.ok (), b) ∧ b.check r = .error e := by
  have hkind : n.kind = r.kind := kind_of_node? hn
  refine ⟨fun name v => ⟨fun e he => ⟨?_, assign_eq_error he⟩, fun b hb => ?_⟩,
    fun c hc hne v => ?_, fun d p v hp => ?_, fun fields => ⟨fun c hc => ?_, fun e he => ?_⟩⟩
  · show (a.assign r name v).toOption.getD a = a
    rw [he]
    rfl
  · exact ⟨(assign_extends hb).held, (assign_extends hb).shared, assign_writes hn hb⟩
  · rw [← hkind] at hc hne ⊢
    obtain ⟨hrefused, htaken⟩ := Node.assign_of_mem hc hne a v
    rw [exists_assign_eq_ok_iff hn]
    cases haccept : c.accept n.kind v with
    | error cause => simp [hrefused cause haccept]
    | ok w =>
        obtain ⟨m, hm, -⟩ := htaken w haccept
        simp [hm]
  · subst hp
    rw [exists_assign_eq_ok_iff hn, Node.assign_coordinates, ← Field.exists_locates_iff]
    simp only [← Field.assignPlacemarkPosition_eq_ok_iff]
    cases Field.assignPlacemarkPosition a p v with
    | error e =>
        constructor
        · rintro ⟨m, b, hok⟩
          cases hok
        · rintro ⟨q, b, hok⟩
          cases hok
    | ok x =>
        obtain ⟨q, b⟩ := x
        exact iff_of_true ⟨_, _, rfl⟩ ⟨q, b, rfl⟩
  · rw [update_snd]
    exact shown_assignAll fun v hv => hc (List.mem_map.mpr ⟨_, hv, rfl⟩)
  · exact update_eq_error (Prod.ext he rfl)

/-- A placemark on a path. -/
def signposted : Atlas where
  nodes := #[
    some ⟨{ name := some "Ferry" }, .placemark { geometry := some ⟨.path, 1⟩ }⟩,
    some ⟨{}, .path {}⟩]

theorem assign_changes_one_component_signposted :
    let ferry : Ref := ⟨.placemark, 0⟩
    let b := (signposted.update ferry ⟨[("name", .string "Quay"), ("visibility", .null)]⟩).2
    signposted.contains ferry ∧
    (∀ v, (∃ b, signposted.assign ferry "coordinates" v = .ok b) ↔ v = .null) ∧
    (∀ b, signposted.assign ferry "coordinates" .null = .ok b →
      ∃ c ∈ Component.ofKind .placemark, c.fieldName = "coordinates" ∧
        signposted.Writes ferry .null b c) ∧
    b.shown ferry .address = signposted.shown ferry .address := by
  intro ferry b
  obtain ⟨hone, -, hcoordinates, hupdate⟩ :=
    assign_changes_one_component signposted ferry _ rfl
  refine ⟨by decide, fun v => ?_, fun b hb => ((hone "coordinates" .null).2 b hb).2.2, ?_⟩
  · rw [hcoordinates _ _ v rfl]
    refine or_iff_left ?_
    rintro ⟨-, hpoint⟩
    exact absurd (hpoint ⟨.path, 1⟩ rfl).1 (by decide)
  · exact (hupdate _).1 .address (by decide)

end Atlas

end Gazetteer
