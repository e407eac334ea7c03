import Gazetteer.Proofs.Creation

/-!
# Runs

A program that works with an atlas takes one `Operation` after the other. `states` are all the
atlases that come up meanwhile, the first and the last among them. If the program does what it may
(`Admissible`), every one of them is `Filed` (`filed_of_mem_states`), and this gives the two
results: without documents an entity stands on the list of a folder exactly when that is its parent,
and the folders are a forest (`parent_iff_mem_childrenOf`); with a document everything has one owner
exactly as long as no folder adds what the document lists (`exclusive_iff_not_draws`).
-/

namespace Gazetteer

open Relation

/-- What a program can do to an atlas. -/
inductive Operation where
  /-- Makes a point, a placemark, a folder and so on. -/
  | construct (n : Node)
  /-- Builds a value from fields. -/
  | draft (k : Kind) (fields : Criteria)
  | drafts (k : Kind) (fields : List Criteria)
  | assign (r : Ref) (name : String) (v : Value)
  | update (r : Ref) (fields : Criteria)
  | create (s : Shelf) (fields : Criteria)
  | insert (s : Shelf) (value : Ref)
  | bulkCreate (s : Shelf) (values : List Ref)
  | add (s : Shelf) (items : List Ref)
  | remove (s : Shelf) (items : List Ref)
  | clear (s : Shelf)
  | getOrCreate (s : Shelf) (criteria : Criteria)
  /-- Lets go of all folders but some; those that nothing lists are gone then. -/
  | drop (kept : List Ref)

namespace Operation

/-- The atlas after an operation, be it successful or not. -/
def run (a : Atlas) : Operation → Atlas
  | construct n => (a.insert n).2
  | draft k fields => (a.draft k fields).2
  | drafts k fields => (a.drafts k fields).2
  | assign r name v => (a.assign r name v).toOption.getD a
  | update r fields => (a.update r fields).2
  | create s fields => (a.create s fields).2
  | insert s value => (a.shelve s value).2
  | bulkCreate s values => a.shelveAll s values
  | add s items => (a.add s items).2
  | remove s items => (a.remove s items).2
  | clear s => a.clear s
  | getOrCreate s criteria => (a.getOrCreate s criteria).2
  | drop kept => a.forgetStrays kept

/-- What can be done: an entity is made without a parent and without children, a shelf that takes
something in belongs to a document or to a folder that stands somewhere, what is inserted has just
been built, and what is added exists. -/
def Admissible (a : Atlas) : Operation → Prop
  | construct n => n.Fresh
  | create s _ | getOrCreate s _ => a.scope s.folder ≠ .detached
  | insert s value => a.scope s.folder ≠ .detached ∧ a.Unplaced s.kind value
  | bulkCreate s values =>
    a.scope s.folder ≠ .detached ∧ (∀ r ∈ values, a.Unplaced s.kind r) ∧ values.Nodup
  | add s items => a.scope s.folder ≠ .detached ∧ ∀ i ∈ items, a.contains i ∧ i.kind = s.kind
  | _ => True

/-- A folder adds an entity that a document lists, and is not that document itself. -/
def Draws (a : Atlas) : Operation → Prop
  | add s items =>
    ∃ e ∈ items, (∃ g, a.scope g = .root ∧ e ∈ a.children g) ∧
      e ∉ a.children s.folder ∧ e ∈ (a.add s items).2.children s.folder
  | _ => False

theorem Draws.exists {a : Atlas} {op : Operation} (h : op.Draws a) :
    ∃ e f g, a.scope g = .root ∧ e ∈ a.children g ∧
      e ∉ a.children f ∧ e ∈ (op.run a).children f := by
  cases op with
  | add s items =>
      obtain ⟨e, -, ⟨g, hg, heg⟩, hne, he⟩ := h
      exact ⟨e, s.folder, g, hg, heg, hne, he⟩
  | _ => exact h.elim

end Operation

namespace Atlas

/-- The atlases of a run: the first, and the one after each operation. -/
def states (a : Atlas) : List Operation → List Atlas
  | [] => [a]
  | op :: ops => a :: states (op.run a) ops

/-- Each operation of a run can be done when it is its turn. -/
def Admissible (a : Atlas) : List Operation → Prop
  | [] => True
  | op :: ops => op.Admissible a ∧ Admissible (op.run a) ops

/-- Some operation of a run draws an entity out of a document. -/
def Draws (a : Atlas) : List Operation → Prop
  | [] => False
  | op :: ops => op.Draws a ∨ Draws (op.run a) ops

variable {a b : Atlas} {op : Operation} {ops : List Operation}

theorem mem_states_self : a ∈ a.states ops := by
  cases ops <;> exact List.mem_cons_self

/-! ## One step -/

/-- What an operation does to the filing. -/
theorem run_cases (h : a.Filed) (hheld : a.held = []) (hop : op.Admissible a) :
    (∃ s items, op = .add s items ∧ a.Fills s.folder (· ∈ items) (op.run a)) ∨
      (∃ t, a.Fills t a.Unlisted (op.run a)) ∨ a.Thins (op.run a) := by
  cases op with
  | construct n => exact .inr (.inr (.of_extends h (insert_extends a hop)))
  | draft k fields => exact .inr (.inr (.of_extends h (draft_spec k fields h).1))
  | drafts k fields => exact .inr (.inr (.of_extends h (drafts_spec k fields h).1))
  | assign r name v =>
      refine .inr (.inr (.of_extends h ?_))
      simp only [Operation.run]
      cases hb : a.assign r name v with
      | ok b => exact assign_extends hb
      | error e => exact .refl a
  | update r fields => exact .inr (.inr (.of_extends h (update_extends a r fields)))
  | create s fields => exact .inr (.inl ⟨s.folder, create_fills fields h hheld hop⟩)
  | insert s r => exact .inr (.inl ⟨s.folder, (shelve_fills h hheld hop.1 hop.2).2⟩)
  | bulkCreate s rs => exact .inr (.inl ⟨s.folder, shelveAll_fills h hop.1 hop.2.1 hop.2.2⟩)
  | add s items => exact .inl ⟨s, items, rfl, add_fills h hheld hop.1 hop.2⟩
  | remove s items => exact .inr (.inr (remove_thins items h hheld))
  | clear s => exact .inr (.inr (clear_thins h hheld))
  | getOrCreate s criteria => exact .inr (.inl ⟨s.folder, getOrCreate_fills criteria h hheld hop⟩)
  | drop kept => exact .inr (.inr (forgetStrays_thins kept h))

/-- An operation keeps the invariant, holds nobody when it is done, and makes no document. -/
theorem run_filed (h : a.Filed) (hheld : a.held = []) (hop : op.Admissible a) :
    (op.run a).Filed ∧ (op.run a).held = [] ∧
      ∀ g, (op.run a).scope g = .root → a.scope g = .root := by
  rcases run_cases h hheld hop with ⟨s, items, -, hx⟩ | ⟨t, hx⟩ | hx
  · exact ⟨hx.filed, hx.held.trans hheld, fun g => (hx.roots g).mp⟩
  · exact ⟨hx.filed, hx.held.trans hheld, fun g => (hx.roots g).mp⟩
  · exact ⟨hx.filed, hx.held.trans hheld, hx.roots⟩

/-! ## Whole runs -/

/-- The invariant holds all along a run. -/
theorem filed_of_mem_states (h : a.Filed) (hheld : a.held = []) (hops : a.Admissible ops)
    (hb : b ∈ a.states ops) :
    b.Filed ∧ b.held = [] ∧ ∀ g, b.scope g = .root → a.scope g = .root := by
  induction ops generalizing a with
  | nil =>
      obtain rfl := List.mem_singleton.mp hb
      exact ⟨h, hheld, fun _ hg => hg⟩
  | cons op ops ih =>
      rcases List.mem_cons.mp hb with rfl | hb
      · exact ⟨h, hheld, fun _ hg => hg⟩
      · obtain ⟨hrun, hrunheld, hroots⟩ := run_filed h hheld hops.1
        obtain ⟨hfiled, hbheld, hbroots⟩ := ih hrun hrunheld hops.2 hb
        exact ⟨hfiled, hbheld, fun g hg => hroots g (hbroots g hg)⟩

/-- **The parent of an entity is the folder that lists it.** This holds after every step of every
run that starts with nothing, together with two other properties of lists: none repeats an entity,
and the folders are a forest. -/
theorem parent_iff_mem_childrenOf (ops : List Operation) (hops : Admissible {} ops) :
    ∀ b ∈ states {} ops,
      (∀ e c, b.parent? e = some c ↔ e ∈ b.childrenOf c e.kind) ∧
      (∀ c k, (b.childrenOf c k).Nodup) ∧
      (∀ f, ¬TransGen b.Nests f f) ∧
      ∀ f f' g, b.Nests f g → b.Nests f' g → f = f' := by
  intro b hb
  obtain ⟨hfiled, -, hroots⟩ := filed_of_mem_states filed_empty rfl hops hb
  -- without documents, a folder that lists something is the parent of it
  have hbound : ∀ f e, e ∈ b.children f → b.scope f = .bound := by
    intro f e he
    cases hs : b.scope f with
    | bound => rfl
    | detached => simp [hfiled.detached f hs] at he
    | root => exact absurd (hroots f hs) (by simp [scope, folder?, node?])
  have hparent : ∀ e c, b.parent? e = some c ↔ e ∈ b.childrenOf c e.kind := by
    intro e c
    rw [hfiled.parent_iff, mem_childrenOf_iff]
    exact ⟨fun h => ⟨h.2, rfl⟩, fun h => ⟨hbound c e h.1, h.1⟩⟩
  refine ⟨hparent, fun c k => (hfiled.once c).filter _, hfiled.acyclic, fun f f' g hf hf' => ?_⟩
  have hk := (nests_iff.mp hf).2
  have hf := (hparent g f).mpr (hk ▸ hf)
  have hf' := (hparent g f').mpr (hk ▸ hf')
  exact Option.some.inj (hf.symm.trans hf')

/-- A folder gets another one and a placemark, and the placemark moves down. -/
def regrouping : List Operation :=
  [.construct (.blank .folder), .construct (unbound .folder),
    .bulkCreate ⟨⟨.folder, 0⟩, .folder⟩ [⟨.folder, 1⟩],
    .create ⟨⟨.folder, 0⟩, .placemark⟩ ⟨[]⟩, .add ⟨⟨.folder, 1⟩, .placemark⟩ [⟨.placemark, 2⟩]]

theorem parent_iff_mem_childrenOf_regrouping :
    Admissible {} regrouping ∧
    ((states {} regrouping).map fun b => (b.children ⟨.folder, 0⟩, b.children ⟨.folder, 1⟩)) =
      [([], []), ([], []), ([], []), ([⟨.folder, 1⟩], []), ([⟨.folder, 1⟩, ⟨.placemark, 2⟩], []),
        ([⟨.folder, 1⟩], [⟨.placemark, 2⟩])] ∧
    ∀ b ∈ states {} regrouping, ∀ e c, b.parent? e = some c ↔ e ∈ b.childrenOf c e.kind := by
  have hfirst := filed_empty.extend (insert_extends {} (Node.fresh_blank .folder))
  have hfresh := fresh_unbound .folder
  have hvalue := insert_unplaced hfirst hfresh fun f => scope_of_unbound
  have hops : Admissible {} regrouping := by
    refine ⟨Node.fresh_blank .folder, hfresh, ⟨?_, ?_, List.pairwise_singleton _ _⟩, ?_, ?_,
      trivial⟩
    · decide
    · exact List.forall_mem_singleton.mpr hvalue
    · show _ ≠ _
      decide
    · show _ ≠ _ ∧ ∀ i ∈ _, _
      decide
  exact ⟨hops, by decide, fun b hb => (parent_iff_mem_childrenOf regrouping hops b hb).1⟩

/-! ## One owner -/

/-- Everything has one owner: no entity stands on two lists, what a document lists has no parent,
and what another folder lists has it as its parent. -/
structure Exclusive (a : Atlas) : Prop where
  once : ∀ e f g, e ∈ a.children f → e ∈ a.children g → f = g
  root : ∀ e g, a.scope g = .root → e ∈ a.children g → a.parent? e = none
  bound : ∀ e f, a.scope f = .bound → e ∈ a.children f → a.parent? e = some f

/-- The owners are told apart by the lists alone. -/
theorem Filed.exclusive_iff (h : a.Filed) :
    a.Exclusive ↔ ∀ e f g, e ∈ a.children f → e ∈ a.children g → f = g := by
  refine ⟨Exclusive.once, fun honce => ⟨honce, fun e g hg he => ?_, fun e f hf he =>
    (h.parent_iff f e).mpr ⟨hf, he⟩⟩⟩
  cases hp : a.parent? e with
  | none => rfl
  | some f =>
      obtain ⟨hf, hmem⟩ := (h.parent_iff f e).mp hp
      rw [honce e f g hmem he, hg] at hf
      cases hf

/-- Where lists only lose entities, everything keeps its one owner. -/
theorem Thins.exclusive (hx : a.Thins b) (ha : a.Exclusive) : b.Exclusive :=
  hx.filed.exclusive_iff.mpr fun e f g hf hg =>
    ha.once e f g (hx.children f hf) (hx.children g hg)

/-- Where a folder takes in nothing that a document lists, everything keeps its one owner. -/
theorem Fills.exclusive {t : Ref} {new : Ref → Prop} (hx : a.Fills t new b) (ha : a.Exclusive)
    (hnew : ∀ e ∈ b.children t, e ∉ a.children t → new e →
      ∀ g, a.scope g = .root → e ∉ a.children g) : b.Exclusive := by
  rw [hx.filed.exclusive_iff]
  -- what the folder has taken in, no other folder lists
  have hgained : ∀ e g, e ∈ b.children t → e ∉ a.children t → e ∈ b.children g → g = t := by
    intro e g ht hnt hg
    refine Decidable.byContradiction fun hgt => ?_
    have hold := hx.others g hgt hg
    obtain ⟨hne, hparent⟩ := hx.gained e ht hnt
    have hroot : b.scope g ≠ .root := fun hroot =>
      hnew e ht hnt hne g ((hx.roots g).mp hroot) hold
    have hbound : b.scope g = .bound := by
      cases hs : b.scope g with
      | bound => rfl
      | root => exact absurd hs hroot
      | detached => simp [hx.filed.detached g hs] at hg
    rw [(hx.filed.parent_iff g e).mpr ⟨hbound, hg⟩] at hparent
    unfold Atlas.owner at hparent
    split at hparent
    · exact hgt (Option.some.inj hparent)
    · cases hparent
  intro e f g hf hg
  by_cases hfa : e ∈ a.children f
  · by_cases hga : e ∈ a.children g
    · exact ha.once e f g hfa hga
    · obtain rfl : g = t := Decidable.byContradiction fun hgt => hga (hx.others g hgt hg)
      exact hgained e f hg hga hf
  · obtain rfl : f = t := Decidable.byContradiction fun hft => hfa (hx.others f hft hf)
    exact (hgained e g hf hfa hg).symm

/-- One operation leaves everything with one owner unless it draws something out of a document. -/
theorem exclusive_run_iff (h : a.Filed) (hheld : a.held = []) (hop : op.Admissible a)
    (ha : a.Exclusive) : (op.run a).Exclusive ↔ ¬op.Draws a := by
  rcases run_cases h hheld hop with ⟨s, items, rfl, hx⟩ | ⟨t, hx⟩ | hx
  · constructor
    · rintro hb ⟨e, -, ⟨g, hg, heg⟩, hnew, he⟩
      -- the document keeps what the folder has taken in
      have heg' := hx.kept g hg heg
      exact hnew (hb.once e s.folder g he heg' ▸ heg)
    · intro hdraws
      exact hx.exclusive ha fun e he hne hitem g hg heg =>
        hdraws ⟨e, hitem, ⟨g, hg, heg⟩, hne, he⟩
  · refine iff_of_true (hx.exclusive ha fun e _ _ hunlisted g _ => hunlisted g) fun hdraws => ?_
    obtain ⟨e, f, g, -, heg, hne, he⟩ := hdraws.exists
    by_cases hft : f = t
    · subst hft
      exact (hx.gained e he hne).1 g heg
    · exact hne (hx.others f hft he)
  · refine iff_of_true (hx.exclusive ha) fun hdraws => ?_
    obtain ⟨e, f, g, -, -, hne, he⟩ := hdraws.exists
    exact hne (hx.children f he)

/-- A run leaves everything with one owner as long as it draws nothing out of a document. -/
theorem exclusive_states_iff (h : a.Filed) (hheld : a.held = []) (hops : a.Admissible ops)
    (ha : a.Exclusive) : (∀ b ∈ a.states ops, b.Exclusive) ↔ ¬a.Draws ops := by
  induction ops generalizing a with
  | nil => simpa [states, Draws] using ha
  | cons op ops ih =>
      obtain ⟨hrun, hrunheld, -⟩ := run_filed h hheld hops.1
      have hstep := exclusive_run_iff h hheld hops.1 ha
      constructor
      · intro hall
        have hrest := List.forall_mem_cons.mp hall
        have hnext : (op.run a).Exclusive := hrest.2 _ mem_states_self
        rintro (hdraws | hdraws)
        · exact hstep.mp hnext hdraws
        · exact (ih hrun hrunheld hops.2 hnext).mp hrest.2 hdraws
      · intro hdraws
        have hnext := hstep.mpr fun hop => hdraws (Or.inl hop)
        exact List.forall_mem_cons.mpr
          ⟨ha, (ih hrun hrunheld hops.2 hnext).mpr fun hops => hdraws (Or.inr hops)⟩

/-- An atlas with nothing but a document in it. -/
def document (name : Option String) : Atlas :=
  (insert {} { details := { name := name }, body := .folder { scope := .root } }).2

theorem node?_document (name : Option String) (r : Ref) :
    (document name).node? r =
      if r = ⟨.folder, 0⟩ then some ⟨{ name := name }, .folder { scope := .root }⟩ else none :=
  (node?_insert {} _ r).trans (by simp [insert, Node.kind, Body.kind, node?])

theorem children_document (name : Option String) (f : Ref) : (document name).children f = [] := by
  simp only [children, folder?_eq, node?_document]
  by_cases hf : f = ⟨.folder, 0⟩ <;> simp [hf, Node.folder?]

theorem filed_document (name : Option String) : (document name).Filed := by
  refine filed_of_nothing_filed (children_document name) fun r => ?_
  rw [storedParent, node?_document]
  by_cases hr : r = ⟨.folder, 0⟩ <;> simp [hr]

/-- **Everything has one owner as long as no folder adds what the document lists.** In runs that
start with a document, parents and the lists of folders always agree, but the document takes no part
in that: an entity on its list has no parent, so that a folder that adds it does not know whom to
take it from. Then the entity stands on two lists. No other operation, and no other way to move an
entity, makes that happen. -/
theorem exclusive_iff_not_draws (name : Option String) (ops : List Operation)
    (hops : (document name).Admissible ops) :
    (∀ b ∈ (document name).states ops, ∀ e f,
      b.parent? e = some f ↔ b.scope f = .bound ∧ e ∈ b.children f) ∧
    ((∀ b ∈ (document name).states ops, b.Exclusive) ↔ ¬(document name).Draws ops) := by
  have hfiled := filed_document name
  refine ⟨fun b hb e f => (filed_of_mem_states hfiled rfl hops hb).1.parent_iff f e, ?_⟩
  refine exclusive_states_iff hfiled rfl hops (hfiled.exclusive_iff.mpr fun e f g he => ?_)
  simp [children_document] at he

/-- A folder adds a placemark of the document. -/
def drawing : List Operation :=
  [.construct (.blank .folder), .create ⟨⟨.folder, 0⟩, .placemark⟩ ⟨[]⟩,
    .add ⟨⟨.folder, 1⟩, .placemark⟩ [⟨.placemark, 2⟩]]

theorem exclusive_iff_not_draws_drawing :
    (document none).Admissible drawing ∧
    (((document none).states drawing).map fun b =>
      (b.children ⟨.folder, 0⟩, b.children ⟨.folder, 1⟩)) =
        [([], []), ([], []), ([⟨.placemark, 2⟩], []), ([⟨.placemark, 2⟩], [⟨.placemark, 2⟩])] ∧
    ¬∀ b ∈ (document none).states drawing, b.Exclusive := by
  have hops : (document none).Admissible drawing := by
    refine ⟨Node.fresh_blank .folder, ?_, ?_, trivial⟩
    · show _ ≠ _
      decide
    · show _ ≠ _ ∧ ∀ i ∈ _, _
      decide
  refine ⟨hops, by decide, fun hall => (exclusive_iff_not_draws none drawing hops).2.mp hall ?_⟩
  refine .inr (.inr (.inl ⟨⟨.placemark, 2⟩, List.mem_singleton_self _, ⟨⟨.folder, 0⟩, ?_⟩, ?_⟩))
  · decide
  · decide

end Atlas

end Gazetteer
