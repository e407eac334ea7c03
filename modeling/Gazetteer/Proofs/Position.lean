import Gazetteer.Proofs.Coordinate
import Gazetteer.Proofs.Filter
import Gazetteer.Proofs.Run

/-!
# Where positions come from

Whatever is done to an atlas, the coordinates of its entities have been brought in: they were given
to a setter, or they are what an assigned value shows (`Atlas.exists_brings_of_stores`). Filing
brings nothing in, and an assignment only what the value shows (`Assigns.mem_or_shows`). Together
with what can become a coordinate at all this gives the main result: all that is made or stored is in
range (`coordinates_in_range`).
-/

namespace Gazetteer

open Geodesy

/-! ## Coordinates of entities -/

/-- The coordinates that a body has. -/
def Body.coordinates : Body → List Coordinate
  | .point p => p.position.toList
  | .path p => p.vertices
  | .polygon p => p.outer ++ p.inner.flatten
  | _ => []

@[simp] theorem Body.coordinates_withDrawing (d : Drawing) (b : Body) :
    (b.withDrawing d).coordinates = b.coordinates := by
  cases b <;> rfl

/-- What a value shows: the coordinate that is read off it, and what its items show. -/
inductive Value.Shows (c : Coordinate) : Value → Prop
  | itself {v : Value} (h : Coordinate.ofValue v = .ok c) : Shows c v
  | item {v : Value} {items : List Value} (hv : v ∈ items) (h : Shows c v) : Shows c (.array items)

/-- What the values of some fields show. -/
def Criteria.Shows (c : Coordinate) (fields : Criteria) : Prop :=
  ∃ p ∈ fields.pairs, p.2.Shows c

namespace Atlas

variable {a b x : Atlas} {new new' : Coordinate → Prop} {r : Ref}

/-- Some entity has the coordinate. -/
def Stores (a : Atlas) (c : Coordinate) : Prop := ∃ r n, a.node? r = some n ∧ c ∈ n.body.coordinates

/-- Whatever `b` stores has been stored in `a` or is new. -/
def Gains (a : Atlas) (new : Coordinate → Prop) (b : Atlas) : Prop :=
  ∀ c, b.Stores c → a.Stores c ∨ new c

namespace Gains

protected theorem refl (a : Atlas) (new : Coordinate → Prop) : a.Gains new a := fun _ h => Or.inl h

protected theorem trans (h : a.Gains new b) (h' : b.Gains new x) : a.Gains new x := by
  intro c hc
  rcases h' c hc with hc | hc
  · exact h c hc
  · exact Or.inr hc

theorem mono (h : a.Gains new b) (hnew : ∀ c, new c → new' c) : a.Gains new' b :=
  fun c hc => (h c hc).imp_right (hnew c)

/-- Who is held meanwhile does not matter. -/
theorem holding {α : Type} {f : Atlas → α × Atlas} (h : (a.hold r).Gains new (f (a.hold r)).2) :
    a.Gains new (a.holding r f).2 := h

end Gains

/-! ## Changes -/

theorem insert_gains (a : Atlas) (n : Node) : a.Gains (· ∈ n.body.coordinates) (a.insert n).2 := by
  rintro c ⟨s, m, hm, hc⟩
  rw [node?_insert] at hm
  split at hm
  · obtain rfl := Option.some.inj hm
    exact Or.inr hc
  · exact Or.inl ⟨s, m, hm, hc⟩

theorem set_gains (a : Atlas) (r : Ref) (n : Node) :
    a.Gains (· ∈ n.body.coordinates) (a.set r n) := by
  rintro c ⟨s, m, hm, hc⟩
  by_cases hset : a.contains r ∧ n.kind = r.kind
  · by_cases hs : s = r
    · rw [hs, node?_set_self hset.1 hset.2] at hm
      obtain rfl := Option.some.inj hm
      exact Or.inr hc
    · rw [node?_set_of_ne n hs] at hm
      exact Or.inl ⟨s, m, hm, hc⟩
  · rw [set, if_neg (by simpa using hset)] at hm
    exact Or.inl ⟨s, m, hm, hc⟩

theorem modify_gains (a : Atlas) (r : Ref) {f : Node → Node}
    (hf : ∀ n, ∀ c ∈ (f n).body.coordinates, c ∈ n.body.coordinates ∨ new c) :
    a.Gains new (a.modify r f) := by
  unfold modify
  split
  · next n hn =>
      intro c hc
      rcases set_gains a r (f n) c hc with hc | hc
      · exact Or.inl hc
      · exact (hf n c hc).imp_left fun hc => ⟨r, n, hn, hc⟩
  · exact .refl a new

theorem modify_gains_nothing (a : Atlas) (r : Ref) {f : Node → Node}
    (hf : ∀ d body, (f ⟨d, body⟩).body.coordinates = body.coordinates) :
    a.Gains new (a.modify r f) :=
  modify_gains a r fun n _ hc => Or.inl (hf n.details n.body ▸ hc)

theorem erase_gains (a : Atlas) (r : Ref) (new : Coordinate → Prop) : a.Gains new (a.erase r) := by
  rintro c ⟨s, m, hm, hc⟩
  rw [node?_erase] at hm
  split at hm
  · cases hm
  · exact Or.inl ⟨s, m, hm, hc⟩

/-- Filing brings no coordinates in. -/
theorem Refiles.gains {d : Refiling} (h : a.Refiles b d) : a.Gains new b := by
  rintro c ⟨s, m, hm, hc⟩
  rw [h.node] at hm
  obtain ⟨n, hn, rfl⟩ := Option.map_eq_some_iff.mp hm
  refine Or.inl ⟨s, n, hn, ?_⟩
  obtain ⟨e, body⟩ := n
  cases body <;> exact hc

end Atlas

/-! ## Assigned values -/

section Assigned

variable {v : Value} {c : Coordinate}

theorem shows_of_coordinate (h : Assigned.coordinate v = .ok c) : v.Shows c :=
  .itself (exists_of_mapError_eq_ok h)

theorem shows_of_coordinates {cs : List Coordinate} (h : Assigned.coordinates v = .ok cs)
    (hc : c ∈ cs) : v.Shows c := by
  unfold Assigned.coordinates at h
  split at h
  · obtain rfl := Except.ok.inj h
    cases hc
  · obtain ⟨i, hi, hic⟩ := exists_of_mem_mapM h hc
    exact .item hi (shows_of_coordinate hic)
  · cases h

theorem shows_of_rings {rings : List (List Coordinate)} (h : Assigned.rings v = .ok rings)
    (hc : c ∈ rings.flatten) : v.Shows c := by
  obtain ⟨ring, hring, hc⟩ := List.mem_flatten.mp hc
  unfold Assigned.rings at h
  split at h
  · obtain rfl := Except.ok.inj h
    cases hring
  · obtain ⟨i, hi, hiring⟩ := exists_of_mem_mapM h hring
    exact .item hi (shows_of_coordinates hiring hc)
  · cases h

theorem shows_of_assignPosition {position : Option Coordinate}
    (h : Field.assignPosition v = .ok position) (hc : c ∈ position.toList) : v.Shows c := by
  unfold Field.assignPosition at h
  split at h
  · obtain rfl := Except.ok.inj h
    cases hc
  · obtain ⟨c', hc', rfl⟩ := exists_of_map_eq_ok h
    obtain rfl := List.mem_singleton.mp hc
    exact .itself (exists_of_mapError_eq_ok hc')

end Assigned

namespace Atlas

theorem movePoint_gains (a : Atlas) (r : Ref) (position : Option Coordinate) :
    a.Gains (· ∈ position.toList) (a.movePoint r position) := by
  refine modify_gains a r fun n c hc => ?_
  obtain ⟨d, body⟩ := n
  cases body with
  | point p => exact Or.inr hc
  | _ => exact Or.inl hc

theorem movePlacemark_gains {a b : Atlas} {p q : Placemark} {c : Coordinate}
    (h : a.movePlacemark p c = .ok (q, b)) : a.Gains (· = c) b := by
  rcases movePlacemark_cases h with ⟨r, rfl⟩ | rfl
  · exact (movePoint_gains a r (some c)).mono fun c' hc' => List.mem_singleton.mp hc'
  · exact (insert_gains a _).mono fun c' hc' => List.mem_singleton.mp hc'

end Atlas

namespace Assigns

variable {a b : Atlas} {v : Value} {m n : Node}

/-- **An assigned field has, beyond what it had, only what the value shows.** -/
theorem mem_or_shows (h : Assigns a v n m b) {c : Coordinate} (hc : c ∈ m.body.coordinates) :
    c ∈ n.body.coordinates ∨ v.Shows c := by
  cases h with
  | details _ => exact Or.inl hc
  | drawing w => exact Or.inl (by simpa using hc)
  | position h => exact Or.inr (shows_of_assignPosition h hc)
  | vertices h => exact Or.inr (shows_of_coordinates h hc)
  | outer h =>
      -- the inner rings stay
      rcases List.mem_append.mp hc with hc | hc
      · exact Or.inr (shows_of_coordinates h hc)
      · exact Or.inl (List.mem_append_right _ hc)
  | inner h =>
      rcases List.mem_append.mp hc with hc | hc
      · exact Or.inl (List.mem_append_left _ hc)
      · exact Or.inr (shows_of_rings h hc)
  | placemark => cases hc
  | moved _ _ => cases hc

/-- So has the atlas around it. -/
theorem gains (h : Assigns a v n m b) : a.Gains v.Shows b := by
  cases h with
  | moved hc h =>
      refine (Atlas.movePlacemark_gains h).mono ?_
      rintro _ rfl
      exact shows_of_coordinate hc
  | _ => exact .refl a v.Shows

end Assigns

/-! ## Operations -/

namespace Atlas

variable {a b : Atlas} {new : Coordinate → Prop} {r : Ref} {s : Shelf}

theorem assign_gains {name : String} {v : Value} (h : a.assign r name v = .ok b) :
    a.Gains v.Shows b := by
  rcases assign_cases h with rfl | ⟨n, m, x, hn, hlisted, rfl⟩
  · exact .refl b v.Shows
  · intro c hc
    rcases set_gains x r m c hc with hc | hc
    · exact hlisted.gains c hc
    · exact (hlisted.mem_or_shows hc).imp_left fun hc => ⟨r, n, hn, hc⟩

theorem assignAll_gains (a : Atlas) (r : Ref) (fields : List (String × Value)) :
    a.Gains (Criteria.Shows · ⟨fields⟩) (a.assignAll r fields).2 := by
  induction fields generalizing a with
  | nil => exact .refl a _
  | cons p rest ih =>
      obtain ⟨name, v⟩ := p
      rw [assignAll]
      split
      · next b hb =>
          have hfirst : a.Gains (Criteria.Shows · ⟨(name, v) :: rest⟩) b :=
            (assign_gains hb).mono fun c hc => ⟨(name, v), List.mem_cons_self, hc⟩
          refine hfirst.trans ((ih b).mono ?_)
          rintro c ⟨q, hq, hc⟩
          exact ⟨q, List.mem_cons_of_mem _ hq, hc⟩
      · exact .refl a _

theorem update_gains (a : Atlas) (r : Ref) (fields : Criteria) :
    a.Gains (Criteria.Shows · fields) (a.update r fields).2 := by
  have h := assignAll_gains a r fields.pairs
  unfold update
  split
  · next b hb => rwa [hb] at h
  · next e b hb => rwa [hb] at h

/-- A new entity of a kind has no coordinates. -/
theorem insert_gains_nothing {n : Node} (hn : n.body.coordinates = []) (a : Atlas) :
    a.Gains new (a.insert n).2 :=
  (insert_gains a n).mono fun c hc => by
    rw [hn] at hc
    cases hc

theorem coordinates_blank (k : Kind) : (Node.blank k).body.coordinates = [] := by
  cases k <;> rfl

theorem coordinates_unbound (k : Kind) : (unbound k).body.coordinates = [] := by
  cases k <;> rfl

theorem draft_gains (a : Atlas) (k : Kind) (fields : Criteria) :
    a.Gains (Criteria.Shows · fields) (a.draft k fields).2 := by
  rcases draft_cases a k fields with ⟨b, hb, hdraft⟩ | ⟨e, hdraft⟩
  · have hassign := assignAll_gains (a.insert (unbound k)).2 (a.insert (unbound k)).1 fields.pairs
    rw [hb] at hassign
    rw [hdraft]
    exact (insert_gains_nothing (coordinates_unbound k) a).trans hassign
  · rw [hdraft]
    exact .refl a _

theorem drafts_gains (a : Atlas) (k : Kind) (fields : List Criteria) :
    a.Gains (fun c => ∃ cs ∈ fields, cs.Shows c) (a.drafts k fields).2 := by
  induction fields generalizing a with
  | nil => exact .refl a _
  | cons cs rest ih =>
      have hfirst : a.Gains (fun c => ∃ cs' ∈ cs :: rest, cs'.Shows c) (a.draft k cs).2 :=
        (draft_gains a k cs).mono fun c hc => ⟨cs, List.mem_cons_self, hc⟩
      rw [drafts]
      split
      · next e b hb => rwa [hb] at hfirst
      · next r b hb =>
          rw [hb] at hfirst
          have hrest := ih b
          split
          · exact .refl a _
          · next rs x hx =>
              rw [hx] at hrest
              refine hfirst.trans (hrest.mono ?_)
              rintro c ⟨cs', hcs, hc⟩
              exact ⟨cs', List.mem_cons_of_mem _ hcs, hc⟩

theorem attach_gains {item : Ref} (h : a.attach s item = .ok b) : a.Gains new b := by
  by_cases hs : a.scope s.folder = .detached
  · unfold attach at h
    rw [hs] at h
    obtain rfl := Except.ok.inj h
    exact .refl a new
  · obtain ⟨-, -, rfl⟩ := (attach_eq_ok_iff hs).mp h
    exact (leave_refiles a item _).gains.trans (setParent_refiles _ item _).gains

theorem addEach_gains (a : Atlas) (s : Shelf) (items : List Ref) :
    a.Gains new (a.addEach s items).2 := by
  induction items generalizing a with
  | nil => exact .refl a new
  | cons i rest ih =>
      rw [addEach]
      split
      · exact ih a
      · split
        · next b hb =>
            exact (attach_gains hb).trans ((append_refiles b s.folder i).gains.trans (ih _))
        · exact .refl a new

theorem removeEach_gains (a : Atlas) (s : Shelf) (items : List Ref) :
    a.Gains new (a.removeEach s items).2 := by
  induction items generalizing a with
  | nil => exact .refl a new
  | cons i rest ih =>
      rw [removeEach]
      split
      · exact (forget_release_refiles a s i).gains.trans (ih _)
      · exact ih a

theorem create_gains (a : Atlas) (s : Shelf) (fields : Criteria) :
    a.Gains (Criteria.Shows · fields) (a.create s fields).2 := by
  refine Gains.holding (r := s.folder) ?_
  have hinsert : (a.hold s.folder).Gains (Criteria.Shows · fields) _ :=
    insert_gains_nothing (coordinates_blank s.kind) (a.hold s.folder)
  generalize (a.hold s.folder).insert (.blank s.kind) = p at hinsert ⊢
  obtain ⟨r, b⟩ := p
  have hupdate := update_gains b r fields
  dsimp only
  split
  · exact .refl _ _
  · next x hx =>
      rw [hx] at hupdate
      split
      · exact .refl _ _
      · next y hy =>
          have happend : y.Gains (Criteria.Shows · fields) (y.append s.folder r) :=
            (append_refiles y s.folder r).gains
          exact hinsert.trans (hupdate.trans ((attach_gains hy).trans happend))

theorem getOrCreate_gains (a : Atlas) (s : Shelf) (criteria : Criteria) :
    a.Gains (Criteria.Shows · criteria) (a.getOrCreate s criteria).2 := by
  have hcreate := create_gains a s criteria
  unfold getOrCreate
  generalize a.create s criteria = p at hcreate ⊢
  obtain ⟨result, b⟩ := p
  cases result <;>
    · dsimp only
      split
      · exact .refl a _
      · exact hcreate
      · exact hcreate
      · exact .refl a _

theorem shelve_gains (a : Atlas) (s : Shelf) (r : Ref) : a.Gains new (a.shelve s r).2 := by
  refine Gains.holding (r := s.folder) ?_
  have hsettle : (a.hold s.folder).Gains new ((a.hold s.folder).settle r) :=
    (settle_refiles (a.hold s.folder) r).gains
  have hadd := hsettle.trans (addEach_gains ((a.hold s.folder).settle r) s [r])
  split
  · next b hb => rwa [hb] at hadd
  · next e b hb =>
      rw [hb] at hadd
      exact hadd.trans (erase_gains b r new)

theorem place_gains (a : Atlas) (t r : Ref) : a.Gains new (a.place t r) := by
  have hsettle : a.Gains new (a.settle r) := (settle_refiles a r).gains
  unfold place
  split
  · exact hsettle.trans (setParent_refiles _ r _).gains
  · exact hsettle

theorem foldl_gains {f : Atlas → Ref → Atlas} (hf : ∀ (a : Atlas) r, a.Gains new (f a r))
    (rs : List Ref) (a : Atlas) : a.Gains new (rs.foldl f a) := by
  induction rs generalizing a with
  | nil => exact .refl a new
  | cons r rest ih => exact (hf a r).trans (ih (f a r))

theorem shelveAll_gains (a : Atlas) (s : Shelf) (rs : List Ref) :
    a.Gains new (a.shelveAll s rs) := by
  rw [shelveAll_eq]
  refine Gains.holding (r := s.folder) ?_
  have hplace : (a.hold s.folder).Gains new (rs.foldl (·.place s.folder ·) (a.hold s.folder)) :=
    foldl_gains (fun a r => place_gains a s.folder r) rs (a.hold s.folder)
  exact hplace.trans (foldl_gains (fun a r => (append_refiles a s.folder r).gains) rs _)

theorem eraseStrays_gains (a : Atlas) (kept : List Ref) (count : Nat) :
    a.Gains new (a.eraseStrays kept count) := by
  induction count generalizing a with
  | zero => exact .refl a new
  | succ count ih =>
      rw [eraseStrays]
      split
      · next r _ => exact (erase_gains a r new).trans (ih _)
      · exact .refl a new

end Atlas

/-! ## Edits -/

/-- What a program can do to an atlas: any operation, and what else there is to change entities. -/
inductive Edit where
  | operate (op : Operation)
  /-- Gives a folder that has been built its scope. -/
  | mount (r : Ref) (scope : Scope)
  | copy (r : Ref)
  | embed (r : Ref) (geometry : Option Ref)
  | embedGroup (r : Ref) (group : Option Ref)
  | addMember (r member : Ref)
  | movePoint (r : Ref) (position : Option Coordinate)
  | movePlacemark (r : Ref) (c : Coordinate)
  | setVertices (r : Ref) (cs : List Coordinate)
  | pushVertex (r : Ref) (c : Coordinate)
  | addHole (r : Ref) (ring : List Coordinate)

/-- What an operation brings in: the coordinates that a new entity has, or that values show. -/
def Operation.Brings (c : Coordinate) : Operation → Prop
  | construct n => c ∈ n.body.coordinates
  | assign _ _ v => v.Shows c
  | draft _ fields | update _ fields | create _ fields | getOrCreate _ fields => fields.Shows c
  | drafts _ fields => ∃ cs ∈ fields, cs.Shows c
  | _ => False

namespace Edit

/-- The atlas after an edit, be it successful or not. -/
def run (a : Atlas) : Edit → Atlas
  | operate op => op.run a
  | mount r scope => a.rebind r scope
  | copy r => ((a.copy r).map (·.2)).getD a
  | embed r geometry => a.embed r geometry
  | embedGroup r group => a.embedGroup r group
  | addMember r member => a.addMember r member
  | movePoint r position => a.movePoint r position
  | movePlacemark r c => (a.movePlacemarkTo r c).toOption.getD a
  | setVertices r cs => a.setVertices r cs
  | pushVertex r c => a.pushVertex r c
  | addHole r ring => a.addHole r ring

/-- What an edit brings in: what an operation does, or the coordinates that are given. -/
def Brings (c : Coordinate) : Edit → Prop
  | operate op => op.Brings c
  | movePoint _ position => c ∈ position.toList
  | movePlacemark _ c' | pushVertex _ c' => c = c'
  | setVertices _ cs | addHole _ cs => c ∈ cs
  | _ => False

end Edit

namespace Atlas

variable {a b : Atlas} {new : Coordinate → Prop}

theorem run_gains (a : Atlas) (op : Operation) : a.Gains (op.Brings ·) (op.run a) := by
  cases op with
  | construct n => exact insert_gains a n
  | draft k fields => exact draft_gains a k fields
  | drafts k fields => exact drafts_gains a k fields
  | assign r name v =>
      show a.Gains v.Shows ((a.assign r name v).toOption.getD a)
      cases h : a.assign r name v with
      | error e => exact .refl a _
      | ok b => exact assign_gains h
  | update r fields => exact update_gains a r fields
  | create s fields => exact create_gains a s fields
  | insert s r => exact shelve_gains a s r
  | bulkCreate s rs => exact shelveAll_gains a s rs
  | add s items => exact Gains.holding (addEach_gains (a.hold s.folder) s items)
  | remove s items => exact Gains.holding (removeEach_gains (a.hold s.folder) s items)
  | clear s => exact Gains.holding (removeEach_gains (a.hold s.folder) s (a.items s))
  | getOrCreate s criteria => exact getOrCreate_gains a s criteria
  | drop kept => exact eraseStrays_gains a kept a.nodes.size

/-- A copy has the coordinates of the original. -/
theorem copy_gains (a : Atlas) (r : Ref) : a.Gains new (((a.copy r).map (·.2)).getD a) := by
  unfold copy
  cases hn : a.node? r with
  | none => exact .refl a new
  | some n =>
      intro c hc
      rcases insert_gains a { n with details := { n.details with parent := none } } c hc with hc | hc
      · exact Or.inl hc
      · exact Or.inl ⟨r, n, hn, hc⟩

theorem rebind_gains (a : Atlas) (r : Ref) (scope : Scope) : a.Gains new (a.rebind r scope) := by
  cases scope with
  | detached => exact (modifyFolder_refiles a r id fun _ => .detached).gains
  | root =>
      have hroot : Scope.root ≠ .detached := nofun
      exact (rebind_refiles a r hroot).gains
  | bound =>
      have hbound : Scope.bound ≠ .detached := nofun
      exact (rebind_refiles a r hbound).gains

theorem movePlacemarkTo_gains (a : Atlas) (r : Ref) (c : Coordinate) :
    a.Gains (· = c) ((a.movePlacemarkTo r c).toOption.getD a) := by
  cases h : a.movePlacemarkTo r c with
  | error e => exact .refl a _
  | ok b =>
      unfold movePlacemarkTo at h
      split at h
      · next d p _ =>
          obtain ⟨⟨q, x⟩, hx, rfl⟩ := exists_of_map_eq_ok h
          refine (movePlacemark_gains (exists_of_mapError_eq_ok hx)).trans ?_
          exact (set_gains x r ⟨d, .placemark q⟩).mono fun c hc => absurd hc List.not_mem_nil
      · obtain rfl := Except.ok.inj h
        exact .refl a _

/-- **An edit brings in what it says and nothing else.** -/
theorem edit_gains (a : Atlas) (e : Edit) : a.Gains (e.Brings ·) (e.run a) := by
  cases e with
  | operate op => exact run_gains a op
  | mount r scope => exact rebind_gains a r scope
  | copy r => exact copy_gains a r
  | movePoint r position => exact movePoint_gains a r position
  | movePlacemark r c => exact movePlacemarkTo_gains a r c
  | embed r geometry => exact modify_gains_nothing a r fun d body => by cases body <;> rfl
  | embedGroup r group => exact modify_gains_nothing a r fun d body => by cases body <;> rfl
  | addMember r member => exact modify_gains_nothing a r fun d body => by cases body <;> rfl
  | setVertices r cs =>
      refine modify_gains a r fun n c hc => ?_
      obtain ⟨d, body⟩ := n
      cases body with
      | path p => exact Or.inr hc
      | polygon p =>
          rcases List.mem_append.mp hc with hc | hc
          · exact Or.inr hc
          · exact Or.inl (List.mem_append_right _ hc)
      | _ => exact Or.inl hc
  | pushVertex r c' =>
      refine modify_gains a r fun n c hc => ?_
      obtain ⟨d, body⟩ := n
      cases body with
      | path p => exact (List.mem_append.mp hc).imp_right fun hc => List.mem_singleton.mp hc
      | _ => exact Or.inl hc
  | addHole r ring =>
      refine modify_gains a r fun n c hc => ?_
      obtain ⟨d, body⟩ := n
      cases body with
      | polygon p =>
          rcases List.mem_append.mp hc with hc | hc
          · exact Or.inl (List.mem_append_left _ hc)
          · rw [List.flatten_append, List.mem_append, List.flatten_singleton] at hc
            exact hc.imp_left fun hc => List.mem_append_right _ hc
      | _ => exact Or.inl hc

/-! ## Runs -/

/-- The atlases that come up while a program edits one. -/
def versions (a : Atlas) : List Edit → List Atlas
  | [] => [a]
  | e :: es => a :: versions (e.run a) es

/-- What is stored has been there from the start, or some edit has brought it in. -/
theorem exists_brings_of_stores {edits : List Edit} (hb : b ∈ a.versions edits) {c : Coordinate}
    (hc : b.Stores c) : a.Stores c ∨ ∃ e ∈ edits, e.Brings c := by
  induction edits generalizing a with
  | nil =>
      obtain rfl := List.mem_singleton.mp hb
      exact Or.inl hc
  | cons e es ih =>
      rcases List.mem_cons.mp hb with rfl | hb
      · exact Or.inl hc
      · rcases ih hb with hc | ⟨e', he', hc⟩
        · exact (edit_gains a e c hc).imp_right fun hc => ⟨e, List.mem_cons_self, hc⟩
        · exact Or.inr ⟨e', List.mem_cons_of_mem _ he', hc⟩

theorem not_stores_empty (c : Coordinate) : ¬Stores {} c := by
  rintro ⟨r, n, hn, -⟩
  simp [node?] at hn

end Atlas

/-- Whoever lies somewhere lies in range. -/
theorem Selection.validCoordinates_eq (a : Atlas) (s : Selection) :
    s.validCoordinates a = s.hasCoordinates a := by
  have hvalid : ∀ c : Coordinate,
      (Coordinate.of c.longitude c.latitude c.altitude).toOption.isSome = true := by
    intro c
    rw [Coordinate.of_eq_ok_iff.mpr ⟨rfl, rfl, rfl⟩]
    rfl
  unfold validCoordinates hasCoordinates
  simp only [hvalid]

/-- **All coordinates are in range.** Whatever numbers are given or read off a list, a text or a
value become a coordinate exactly if they are finite and in range, and then the one that has these
numbers. What the formulas of the sphere give is put back on the surface, and refused only if it is
no number. And whatever a program does to an atlas, the coordinates of its entities are in range,
and the program has brought them in; so in every collection, the entities that lie somewhere are
those that lie somewhere in range. -/
theorem coordinates_in_range :
    (∀ w : Reading, ((∃ c, w.coordinate = .ok c) ↔ ∃ p, w.numbers? = some p ∧ p.InRange) ∧
      ∀ c, w.coordinate = .ok c → c.numbers.InRange ∧ w.numbers? = some c.numbers) ∧
    (∀ lon lat, ((∃ c, GreatCircle.onSurface lon lat = .ok c) ↔ ¬lon.isNaN ∧ ¬lat.isNaN) ∧
      ∀ c, GreatCircle.onSurface lon lat = .ok c → c.numbers.InRange) ∧
    (∀ a b, ∃ lon lat, GreatCircle.midpoint a b = GreatCircle.onSurface lon lat) ∧
    (∀ a b fraction c, GreatCircle.interpolate a b fraction = .ok c →
      c = a ∨ c = b ∨ ∃ lon lat, GreatCircle.onSurface lon lat = .ok c) ∧
    ∀ (edits : List Edit), ∀ a ∈ Atlas.versions {} edits,
      (∀ c, a.Stores c → c.numbers.InRange ∧ ∃ e ∈ edits, e.Brings c) ∧
      ∀ s : Selection, s.validCoordinates a = s.hasCoordinates a := by
  refine ⟨fun w => ⟨w.exists_coordinate_eq_ok_iff, fun c hc => ?_⟩, fun lon lat => ?_,
    fun a b => ⟨_, _, rfl⟩, fun a b fraction c => GreatCircle.interpolate_cases,
    fun edits a ha => ⟨fun c hc => ⟨c.inRange, ?_⟩, fun s => s.validCoordinates_eq a⟩⟩
  · exact ⟨c.inRange, w.coordinate_eq_ok_iff.mp hc⟩
  · exact ⟨GreatCircle.exists_onSurface_eq_ok_iff, fun c _ => c.inRange⟩
  · exact (Atlas.exists_brings_of_stores ha hc).resolve_left (Atlas.not_stores_empty c)

end Gazetteer
