import Gazetteer.Atlas.Selection

/-!
# Filters

`Selection.filter`, `exclude` and `get` read the same criteria. The first malformed criterion is the
error of all three, whatever the entities are (`filter_eq_error_iff`). Otherwise criteria say of
each entity whether it satisfies them (`Meets`), and that alone decides what the three do. The main
statement is about any two criteria lists and any selection that can be looked into, which what
filters leave of it can be as well: filters by one after the other are one filter, `exclude` keeps
exactly what `filter` drops, and `get` is the filter that leaves one entity (`filter_laws`).
-/

namespace Gazetteer

/-! ## Lists with failures -/

section MapM

variable {ε α β : Type} {f : α → Except ε β} {l : List α}

/-- Going through a list fails with the first failure. -/
theorem mapM_eq_error_iff {e : ε} :
    l.mapM f = .error e ↔
      ∃ before x after, l = before ++ x :: after ∧ (∀ y ∈ before, ∃ b, f y = .ok b) ∧
        f x = .error e := by
  induction l with
  | nil => exact iff_of_false nofun (by simp)
  | cons y ys ih =>
      rw [List.mapM_cons]
      cases hy : f y with
      | error e' =>
          constructor
          · rintro ⟨⟩
            exact ⟨[], y, ys, rfl, nofun, hy⟩
          · rintro ⟨before, x, after, heq, hbefore, hx⟩
            cases before with
            | nil =>
                obtain rfl : y = x := (List.cons.inj heq).1
                exact congrArg Except.error (Except.error.inj (hy.symm.trans hx))
            | cons z zs =>
                obtain rfl : y = z := (List.cons.inj heq).1
                obtain ⟨b, hb⟩ := hbefore y List.mem_cons_self
                cases hy.symm.trans hb
      | ok b =>
          have hrest : ((.ok b : Except ε β) >>= fun b => ys.mapM f >>= fun bs => pure (b :: bs)) =
              .error e ↔ ys.mapM f = .error e := by
            cases ys.mapM f with
            | error e' => exact ⟨fun h => h, fun h => h⟩
            | ok bs => exact ⟨nofun, nofun⟩
          rw [hrest, ih]
          constructor
          · rintro ⟨before, x, after, rfl, hbefore, hx⟩
            exact ⟨y :: before, x, after, rfl, List.forall_mem_cons.mpr ⟨⟨b, hy⟩, hbefore⟩, hx⟩
          · rintro ⟨before, x, after, heq, hbefore, hx⟩
            cases before with
            | nil =>
                obtain rfl : y = x := (List.cons.inj heq).1
                cases hy.symm.trans hx
            | cons z zs =>
                exact ⟨zs, x, after, (List.cons.inj heq).2, (List.forall_mem_cons.mp hbefore).2, hx⟩

/-- What holds of all results holds of what each element gives. -/
theorem forall_mem_mapM_iff {bs : List β} (h : l.mapM f = .ok bs) {P : β → Prop} :
    (∀ b ∈ bs, P b) ↔ ∀ x ∈ l, ∃ b, f x = .ok b ∧ P b := by
  induction l generalizing bs with
  | nil =>
      obtain rfl : [] = bs := Except.ok.inj h
      exact iff_of_true nofun nofun
  | cons y ys ih =>
      rw [List.mapM_cons] at h
      cases hy : f y with
      | error e => rw [hy] at h; cases h
      | ok c =>
          cases hys : ys.mapM f with
          | error e => rw [hy, hys] at h; cases h
          | ok cs =>
              rw [hy, hys] at h
              obtain rfl : c :: cs = bs := Except.ok.inj h
              rw [List.forall_mem_cons, List.forall_mem_cons, ih hys, hy]
              simp

/-- Every result comes from an element. -/
theorem exists_of_mem_mapM {bs : List β} (h : l.mapM f = .ok bs) {b : β} (hb : b ∈ bs) :
    ∃ x ∈ l, f x = .ok b := by
  have hall : ∀ x ∈ l, ∃ c, f x = .ok c ∧ True :=
    (forall_mem_mapM_iff h).mp fun _ _ => trivial
  have hfrom : ∀ c ∈ bs, ∃ x ∈ l, f x = .ok c := by
    refine (forall_mem_mapM_iff h).mpr fun x hx => ?_
    obtain ⟨c, hc, -⟩ := hall x hx
    exact ⟨c, hc, x, hx, hc⟩
  exact hfrom b hb

end MapM

/-! ## Criteria -/

namespace Predicate

/-- A criterion is malformed for a reason, and those before it are not. -/
def FirstMalformed (c : Criteria) (e : Error) : Prop :=
  ∃ before key v after, c.pairs = before ++ (key, v) :: after ∧
    (∀ p ∈ before, ∃ q, parse p.1 p.2 = .ok q) ∧ parse key v = .error e

theorem ofCriteria_eq_error_iff {c : Criteria} {e : Error} :
    ofCriteria c = .error e ↔ FirstMalformed c e := by
  refine mapM_eq_error_iff.trans ⟨?_, ?_⟩
  · rintro ⟨before, ⟨key, v⟩, after, heq, hbefore, hx⟩
    exact ⟨before, key, v, after, heq, hbefore, hx⟩
  · rintro ⟨before, key, v, after, heq, hbefore, hx⟩
    exact ⟨before, (key, v), after, heq, hbefore, hx⟩

theorem ofCriteria_append (c d : Criteria) :
    ofCriteria (c ++ d) = (do
      let ps ← ofCriteria c
      let qs ← ofCriteria d
      return ps ++ qs) :=
  List.mapM_append

/-- A pattern is refused because the query is malformed. -/
theorem exists_of_pattern_eq_error {key source : String} {caseless : Bool} {e : Error}
    (h : Lookup.pattern key caseless source = .error e) :
    ∃ field cause, e = .query field cause := by
  unfold Lookup.pattern at h
  split at h
  · cases h
    exact ⟨_, _, rfl⟩
  · split at h
    · cases h
    · cases h
      exact ⟨_, _, rfl⟩

theorem exists_of_make_eq_error {key : String} {operand : Value} {n : LookupName} {e : Error}
    (h : Lookup.make key operand n = .error e) : ∃ field cause, e = .query field cause := by
  -- a pattern is refused alike in both lookups that have one
  have hpattern : ∀ {caseless source f}, (Lookup.pattern key caseless source).map f =
      (.error e : Except Error Lookup) → ∃ field cause, e = .query field cause := by
    intro caseless source f h
    cases hp : Lookup.pattern key caseless source with
    | error e' =>
        rw [hp] at h
        cases h
        exact exists_of_pattern_eq_error hp
    | ok p => rw [hp] at h; cases h
  cases n with
  | regex => exact hpattern h
  | iregex => exact hpattern h
  | in_ =>
      unfold Lookup.make at h
      dsimp only at h
      split at h
      · split at h
        · cases h
          exact ⟨_, _, rfl⟩
        · cases h
      · cases h
        exact ⟨_, _, rfl⟩
  | range =>
      unfold Lookup.make at h
      dsimp only at h
      split at h
      · cases h
      · cases h
        exact ⟨_, _, rfl⟩
  | isnull =>
      unfold Lookup.make at h
      dsimp only at h
      split at h
      · cases h
      · cases h
        exact ⟨_, _, rfl⟩
  | _ => cases h

/-- Nothing but a malformed query keeps criteria from being read. -/
theorem exists_of_ofCriteria_eq_error {c : Criteria} {e : Error} (h : ofCriteria c = .error e) :
    ∃ field cause, e = .query field cause := by
  obtain ⟨-, key, v, -, -, -, hparse⟩ := ofCriteria_eq_error_iff.mp h
  unfold parse at hparse
  dsimp only at hparse
  split at hparse
  · cases hparse
    exact ⟨_, _, rfl⟩
  · split at hparse
    · cases hparse
      exact ⟨_, _, rfl⟩
    · next n _ =>
        cases hmake : Lookup.make key v n with
        | error e' =>
            rw [hmake] at hparse
            cases hparse
            exact exists_of_make_eq_error hmake
        | ok lookup => rw [hmake] at hparse; cases hparse

end Predicate

namespace Selection

variable {a : Atlas} {s t : Selection} {c d : Criteria}

/-- An entity satisfies criteria: each of them is well formed and holds of it. -/
def Meets (a : Atlas) (c : Criteria) (r : Ref) : Prop :=
  ∀ p ∈ c.pairs, ∃ q, Predicate.parse p.1 p.2 = .ok q ∧ q.holds (a.resolve? r q.path)

theorem satisfies_iff_meets {ps : List Predicate} (h : Predicate.ofCriteria c = .ok ps) {r : Ref} :
    satisfies a ps r = true ↔ Meets a c r := by
  rw [satisfies, List.all_eq_true]
  exact forall_mem_mapM_iff h

/-! ## Filtering -/

/-- Criteria that can be read split the entities: those that satisfy them pass the filter, and the
others are what is left when they are excluded. -/
theorem filter_exclude_cases (a : Atlas) (c : Criteria) :
    (∃ e, Predicate.FirstMalformed c e ∧
      ∀ s : Selection, s.filter a c = .error e ∧ s.exclude a c = .error e) ∨
    ∃ keep : Ref → Bool, (∀ r, keep r = true ↔ Meets a c r) ∧
      ∀ s : Selection, s.filter a c = .ok { s with items := s.items.filter keep } ∧
        s.exclude a c = .ok { s with items := s.items.filter fun r => !keep r } := by
  unfold filter exclude
  cases h : Predicate.ofCriteria c with
  | error e => exact .inl ⟨e, Predicate.ofCriteria_eq_error_iff.mp h, fun s => ⟨rfl, rfl⟩⟩
  | ok ps => exact .inr ⟨satisfies a ps, fun r => satisfies_iff_meets h, fun s => ⟨rfl, rfl⟩⟩

theorem filter_eq_error_iff {e : Error} :
    s.filter a c = .error e ↔ Predicate.FirstMalformed c e := by
  rw [← Predicate.ofCriteria_eq_error_iff, filter]
  cases Predicate.ofCriteria c with
  | error e' =>
      exact ⟨fun h => congrArg _ (Except.error.inj h), fun h => congrArg _ (Except.error.inj h)⟩
  | ok ps => exact iff_of_false nofun nofun

/-- To filter by two lists of criteria is to filter by one list and then by the other. -/
theorem filter_append (a : Atlas) (s : Selection) (c d : Criteria) :
    s.filter a (c ++ d) = (s.filter a c).bind fun t => t.filter a d := by
  unfold filter
  rw [Predicate.ofCriteria_append]
  cases Predicate.ofCriteria c with
  | error e => rfl
  | ok ps =>
      cases Predicate.ofCriteria d with
      | error e => rfl
      | ok qs =>
          -- two filters ask the later criteria first
          have hboth : satisfies a (ps ++ qs) = fun r => satisfies a qs r && satisfies a ps r := by
            funext r
            rw [satisfies, List.all_append, Bool.and_comm]
            rfl
          show Except.ok { s with items := s.items.filter (satisfies a (ps ++ qs)) } =
            Except.ok { s with items := (s.items.filter (satisfies a ps)).filter (satisfies a qs) }
          rw [hboth, List.filter_filter]

/-- What a filter leaves can be filtered again. -/
theorem Readable.filter (hs : s.Readable a) (h : s.filter a c = .ok t) : t.Readable a := by
  rcases filter_exclude_cases a c with ⟨e, -, herror⟩ | ⟨keep, -, hkeep⟩
  · cases h.symm.trans (herror s).1
  · obtain rfl := Except.ok.inj (h.symm.trans (hkeep s).1)
    exact hs.of_subset List.filter_sublist.subset

/-! ## One entity -/

/-- What `get` makes of a filter. -/
theorem get_cases (a : Atlas) (s : Selection) (c : Criteria) :
    (∃ field cause, s.filter a c = .error (.query field cause) ∧
      s.get a c = .error (.query field cause)) ∨
    ∃ t, s.filter a c = .ok t ∧
      ((∃ r, t.items = [r] ∧ s.get a c = .ok r) ∨
        t.items = [] ∧ s.get a c = .error (.notFound s.kind c) ∨
        2 ≤ t.items.length ∧
          s.get a c = .error (.multipleReturned s.kind t.items.length c)) := by
  cases hfilter : s.filter a c with
  | error e =>
      obtain ⟨field, cause, rfl⟩ := Predicate.exists_of_ofCriteria_eq_error
        (Predicate.ofCriteria_eq_error_iff.mpr (filter_eq_error_iff.mp hfilter))
      refine .inl ⟨field, cause, rfl, ?_⟩
      rw [get, hfilter]
      rfl
  | ok t =>
      refine .inr ⟨t, rfl, ?_⟩
      rw [get, hfilter]
      obtain ⟨kind, items⟩ := t
      cases items with
      | nil => exact .inr (.inl ⟨rfl, rfl⟩)
      | cons r rs =>
          cases rs with
          | nil => exact .inl ⟨r, rfl, rfl⟩
          | cons q qs => exact .inr (.inr ⟨by simp, rfl⟩)

/-- What `get` gives, and what its errors say. -/
theorem get_laws (a : Atlas) (s : Selection) (c : Criteria) :
    (∀ r, s.get a c = .ok r ↔ ∃ t, s.filter a c = .ok t ∧ t.items = [r]) ∧
    (∀ k c', s.get a c = .error (.notFound k c') ↔
      (∃ t, s.filter a c = .ok t ∧ t.items = []) ∧ k = s.kind ∧ c' = c) ∧
    (∀ k n c', s.get a c = .error (.multipleReturned k n c') ↔
      (∃ t, s.filter a c = .ok t ∧ 2 ≤ t.items.length ∧ n = t.items.length) ∧
        k = s.kind ∧ c' = c) ∧
    ∀ field cause, s.get a c = .error (.query field cause) ↔
      s.filter a c = .error (.query field cause) := by
  rcases get_cases a s c with ⟨field, cause, hfilter, hget⟩ | ⟨t, hfilter, hcases⟩
  · simp [hfilter, hget]
  · rcases hcases with ⟨r, hitems, hget⟩ | ⟨hitems, hget⟩ | ⟨hlength, hget⟩
    · simp [hfilter, hget, hitems]
    · simp [hfilter, hget, hitems, eq_comm]
    · have hne : t.items ≠ [] := fun h => by simp [h] at hlength
      have hsingle : ∀ r, t.items ≠ [r] := fun r h => by simp [h] at hlength
      simp [hfilter, hget, hne, hsingle, hlength, eq_comm, and_left_comm]

/-- **The laws of filters.** For all criteria, well formed or not: to filter by two lists is to
filter by one and then by the other, with the same entities, the same memory and the same error;
what fails, fails with the first malformed criterion, whatever there is to filter. Criteria that can
be read split every selection into what satisfies them and what does not, both in their order. `get`
gives the entity that a filter leaves alone, `notFound` if it leaves none and `multipleReturned`
with their number if it leaves several. All this is so of selections that can be looked into, as
what a filter leaves of them can be; at a hidden entity the program panics instead, unless a
criterion is malformed. -/
theorem filter_laws (a : Atlas) (s : Selection) (c d : Criteria) (hs : s.Readable a) :
    s.filter a (c ++ d) = ((s.filter a c).bind fun t => t.filter a d) ∧
    (∀ t, s.filter a c = .ok t → t.Readable a) ∧
    (∀ e, s.filter a c = .error e ↔ Predicate.FirstMalformed c e) ∧
    ((∃ e, Predicate.FirstMalformed c e ∧
        ∀ s : Selection, s.filter a c = .error e ∧ s.exclude a c = .error e) ∨
      ∃ keep : Ref → Bool, (∀ r, keep r = true ↔ Meets a c r) ∧
        ∀ s : Selection, s.Readable a →
          s.filter a c = .ok { s with items := s.items.filter keep } ∧
          s.exclude a c = .ok { s with items := s.items.filter fun r => !keep r }) ∧
    (∀ r, s.get a c = .ok r ↔ ∃ t, s.filter a c = .ok t ∧ t.items = [r]) ∧
    (∀ k c', s.get a c = .error (.notFound k c') ↔
      (∃ t, s.filter a c = .ok t ∧ t.items = []) ∧ k = s.kind ∧ c' = c) ∧
    (∀ k n c', s.get a c = .error (.multipleReturned k n c') ↔
      (∃ t, s.filter a c = .ok t ∧ 2 ≤ t.items.length ∧ n = t.items.length) ∧
        k = s.kind ∧ c' = c) ∧
    ∀ field cause, s.get a c = .error (.query field cause) ↔
      s.filter a c = .error (.query field cause) := by
  refine ⟨filter_append a s c d, fun t ht => hs.filter ht, fun e => filter_eq_error_iff, ?_,
    get_laws a s c⟩
  rcases filter_exclude_cases a c with hmalformed | ⟨keep, hmeets, hkeep⟩
  · exact .inl hmalformed
  · exact .inr ⟨keep, hmeets, fun s _ => hkeep s⟩

/-- Three points, of which two have names. -/
def called : Atlas where
  nodes := #[some ⟨{ name := some "Peg" }, .point {}⟩, some ⟨{}, .point {}⟩,
    some ⟨{ name := some "Pole" }, .point {}⟩]

theorem filter_laws_called :
    let s : Selection := { kind := .point, items := called.refs }
    let c : Criteria := ⟨[("name__startswith", .string "P")]⟩
    let d : Criteria := ⟨[("name", .string "Pole")]⟩
    s.Readable called ∧
    (∃ t, s.filter called c = .ok t ∧ t.items = [⟨.point, 0⟩, ⟨.point, 2⟩] ∧ t.Readable called ∧
      s.filter called (c ++ d) = t.filter called d) ∧
    s.get called (c ++ d) = .ok ⟨.point, 2⟩ ∧
    s.get called ⟨[("name", .string "Pier")]⟩ =
      .error (.notFound .point ⟨[("name", .string "Pier")]⟩) := by
  intro s c d
  have hs : s.Readable called := by decide
  obtain ⟨happend, hreadable, -⟩ := filter_laws called s c d hs
  obtain ⟨-, -, -, -, hget, -⟩ := filter_laws called s (c ++ d) d hs
  obtain ⟨-, -, -, -, -, hmiss, -⟩ := filter_laws called s ⟨[("name", .string "Pier")]⟩ d hs
  obtain ⟨t, ht, hitems⟩ : ∃ t, s.filter called c = .ok t ∧
      t.items = [⟨.point, 0⟩, ⟨.point, 2⟩] := ⟨_, rfl, by decide⟩
  refine ⟨hs, ⟨t, ht, hitems, hreadable t ht, ?_⟩, (hget _).mpr ⟨_, rfl, by decide⟩,
    (hmiss _ _).mpr ⟨⟨_, rfl, by decide⟩, rfl, rfl⟩⟩
  rw [happend, ht]
  rfl

end Selection

end Gazetteer
