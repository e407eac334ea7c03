import Gazetteer.Atlas.Document
import Gazetteer.Proofs.Ownership

/-!
# What shelves do to the filing

Whatever is done to a shelf does one of two things to the filing. It fills the folder of the shelf:
that folder takes entities in and becomes their owner, the others only lose some, and documents keep
all they have (`Atlas.Fills`). Or it thins out: lists only lose entities
(`Atlas.Thins`). Both keep the invariant. The module proves this of the operations on entities that
exist already, from what they do to one of them (`adopts_of_attach`, `dismisses_of_forget`).
-/

namespace Gazetteer

namespace Atlas

variable {a b c : Atlas} {s : Shelf} {t : Ref} {new : Ref → Prop}

/-! ## Filling and thinning -/

/-- No folder lists the entity. -/
def Unlisted (a : Atlas) (e : Ref) : Prop := ∀ f, e ∉ a.children f

/-- From `a` to `b` the folder `t` has taken some `new` entities in, and no other folder has. -/
structure Fills (a : Atlas) (t : Ref) (new : Ref → Prop) (b : Atlas) : Prop where
  filed : b.Filed
  held : b.held = a.held
  contains : ∀ r, a.contains r → b.contains r
  target : b.scope t = a.scope t
  roots : ∀ g, b.scope g = .root ↔ a.scope g = .root
  others : ∀ f, f ≠ t → b.children f ⊆ a.children f
  kept : ∀ g, a.scope g = .root → a.children g ⊆ b.children g
  parent : ∀ e, b.parent? e = a.parent? e ∨ b.parent? e = a.owner t
  gained : ∀ e ∈ b.children t, e ∉ a.children t → new e ∧ b.parent? e = a.owner t

/-- From `a` to `b` no folder has taken anything in. -/
structure Thins (a b : Atlas) : Prop where
  filed : b.Filed
  held : b.held = a.held
  roots : ∀ g, b.scope g = .root → a.scope g = .root
  children : ∀ f, b.children f ⊆ a.children f

namespace Fills

protected theorem refl (h : a.Filed) (t : Ref) (new : Ref → Prop) : a.Fills t new a where
  filed := h
  held := rfl
  contains _ hr := hr
  target := rfl
  roots _ := Iff.rfl
  others f _ := List.Subset.refl (a.children f)
  kept g _ := List.Subset.refl (a.children g)
  parent _ := Or.inl rfl
  gained _ he hne := absurd he hne

theorem owner (h : a.Fills t new b) : b.owner t = a.owner t := by
  simp only [Atlas.owner, h.target]

protected theorem trans (h : a.Fills t new b) (h' : b.Fills t new c) : a.Fills t new c where
  filed := h'.filed
  held := h'.held.trans h.held
  contains r hr := h'.contains r (h.contains r hr)
  target := h'.target.trans h.target
  roots g := (h'.roots g).trans (h.roots g)
  others f hf := List.Subset.trans (h'.others f hf) (h.others f hf)
  kept g hg := List.Subset.trans (h.kept g hg) (h'.kept g ((h.roots g).mpr hg))
  parent e := by
    rcases h'.parent e with he | he
    · rw [he]
      exact h.parent e
    · exact Or.inr (he.trans h.owner)
  gained e he hne := by
    by_cases hb : e ∈ b.children t
    · -- taken in before: the parent stays, or is set to the same owner again
      rcases h'.parent e with hp | hp
      · exact (h.gained e hb hne).imp_right hp.trans
      · exact (h.gained e hb hne).imp_right fun _ => hp.trans h.owner
    · exact (h'.gained e he hb).imp_right fun hp => hp.trans h.owner

/-- A growing atlas takes nothing in. -/
theorem of_extends (h : a.Filed) (hx : a.Extends b) (ht : a.scope t ≠ .detached) :
    a.Fills t new b where
  filed := h.extend hx
  held := hx.held
  contains _ hr := hx.contains hr
  target := hx.scope (contains_of_scope ht)
  roots _ := hx.scope_eq_root_iff
  others f _ := by rw [hx.children]; exact List.Subset.refl _
  kept g _ := by rw [hx.children]; exact List.Subset.refl _
  parent e := Or.inl (hx.parent? h.allocated e)
  gained e he hne := absurd (hx.children t ▸ he) hne

theorem of_adopts {items : List Ref} (h : a.Filed) (hheld : b.held = a.held)
    (hx : a.Adopts t items b) (hnew : ∀ i ∈ items, new i) : a.Fills t new b where
  filed := h.adopt hx
  held := hheld
  contains r hr := (hx.contains r).trans hr
  target := hx.scope_target
  roots g := by
    rcases hx.scope g with hg | ⟨-, -, hne, hg⟩
    · rw [hg]
    · simp [hg, hne]
  others f hf e he := (hx.mem_or he).resolve_right fun h => hf h.1
  kept g hg e he := by
    rw [hx.list]
    split
    · exact List.mem_append_left _ he
    · rw [if_neg (by simp [hg])]
      exact he
  parent e := by
    rw [hx.parent]
    split
    · exact Or.inr rfl
    · exact Or.inl rfl
  gained e he hne := by
    rw [hx.list, if_pos rfl] at he
    have hi := (List.mem_append.mp he).resolve_left hne
    exact ⟨hnew e hi, by rw [hx.parent, if_pos hi]⟩

/-- Who is held meanwhile does not matter. -/
theorem holding {α : Type} {f : Atlas → α × Atlas} (h : (a.hold t).Fills t new (f (a.hold t)).2) :
    a.Fills t new (a.holding t f).2 :=
  ⟨h.filed.of_nodes rfl, rfl, h.contains, h.target, h.roots, h.others, h.kept, h.parent, h.gained⟩

end Fills

namespace Thins

protected theorem refl (h : a.Filed) : a.Thins a :=
  ⟨h, rfl, fun _ hg => hg, fun f => List.Subset.refl (a.children f)⟩

protected theorem trans (h : a.Thins b) (h' : b.Thins c) : a.Thins c where
  filed := h'.filed
  held := h'.held.trans h.held
  roots g hg := h.roots g (h'.roots g hg)
  children f := List.Subset.trans (h'.children f) (h.children f)

theorem of_extends (h : a.Filed) (hx : a.Extends b) : a.Thins b where
  filed := h.extend hx
  held := hx.held
  roots _ hg := hx.scope_eq_root_iff.mp hg
  children f := by rw [hx.children]; exact List.Subset.refl _

theorem of_dismisses {item : Ref} (h : a.Filed) (hheld : b.held = a.held)
    (hx : a.Dismisses t item b) : a.Thins b where
  filed := h.dismiss hx
  held := hheld
  roots g hg := hx.scope g ▸ hg
  children f e he := by
    rw [hx.list] at he
    split at he
    · exact (List.mem_filter.mp he).1
    · exact he

/-- Who is held meanwhile does not matter. -/
theorem holding {α : Type} {f : Atlas → α × Atlas} (h : (a.hold t).Thins (f (a.hold t)).2) :
    a.Thins (a.holding t f).2 :=
  ⟨h.filed.of_nodes rfl, rfl, h.roots, h.children⟩

end Thins

/-! ## One entity -/

theorem isHeld_eq_false_iff (hheld : a.held = [t]) {r : Ref} : a.isHeld r = false ↔ r ≠ t := by
  simp [isHeld, hheld]

theorem filter_contains_owner (ht : a.scope t ≠ .detached) :
    (a.owner t).filter a.contains = a.owner t := by
  unfold owner
  split
  · simp [contains_of_scope ht]
  · rfl

/-- While only the target is held, all bound folders strike off what it takes in. -/
theorem leaves_iff (h : a.Filed) (hheld : a.held = [t]) {item f : Ref}
    (hnew : item ∉ a.children t) :
    a.Leaves item (a.owner t) f ↔ a.scope f = .bound ∧ item ∈ a.children f := by
  constructor
  · rintro ⟨hp, -, -⟩
    exact (h.parent_iff f item).mp hp
  · intro hf
    have hft : f ≠ t := by
      rintro rfl
      exact hnew hf.2
    refine ⟨(h.parent_iff f item).mpr hf, ?_, (isHeld_eq_false_iff hheld).mpr hft⟩
    unfold owner
    split
    · simp [Ne.symm hft]
    · simp

/-- What is attached to a shelf and listed moves there. -/
theorem adopts_of_attach (h : a.Filed) (hheld : a.held = [s.folder])
    (hs : a.scope s.folder ≠ .detached) {item : Ref} (hitem : a.contains item)
    (hnew : item ∉ a.children s.folder) (hb : a.attach s item = .ok b) :
    a.Adopts s.folder [item] (b.append s.folder item) := by
  have hr := attach_append_refiles hs hb
  obtain ⟨hfree, hcheck, -⟩ := (attach_eq_ok_iff hs).mp hb
  have hne : item ≠ s.folder := (isHeld_eq_false_iff hheld).mp hfree
  refine ⟨hs, ?_, List.pairwise_singleton _ item, ?_, hr.contains, hr.size, fun r p hp => ?_,
    fun f => Or.inl (hr.scope rfl), fun f => ?_, fun e => ?_⟩
  · rintro i hi
    obtain rfl := List.mem_singleton.mp hi
    exact ⟨hitem, hnew⟩
  · rintro i hi hk
    obtain rfl := List.mem_singleton.mp hi
    exact not_reflTransGen_of_checkAdoption hk hne hcheck
  · rw [hr.storedParent] at hp
    split at hp
    · dsimp only [adoption] at hp
      split at hp
      · unfold owner at hp
        split at hp
        · exact Or.inr (Option.some.inj hp).symm
        · cases hp
      · exact Or.inl hp
    · cases hp
  · by_cases hf : f = s.folder
    · obtain ⟨x, hx⟩ := folder?_of_scope hs
      subst hf
      rw [hr.children_of_folder? hx, if_pos rfl]
      have hstay : ¬a.Leaves item (a.owner s.folder) s.folder := fun hl =>
        hnew ((leaves_iff h hheld hnew).mp hl).2
      simp [adoption, hstay]
    · rw [hr.children (by simp [adoption, hf]), if_neg hf]
      simp only [adoption, if_neg hf, leaves_iff h hheld hnew, List.mem_singleton]
      by_cases hbound : a.scope f = .bound
      · by_cases hmem : item ∈ a.children f
        · simp [hbound, hmem]
        · -- not listed there, so that nothing is struck off
          rw [if_neg fun hl => hmem hl.2, if_pos hbound, eq_comm, List.filter_eq_self]
          intro e he
          simpa using fun hei : e = item => hmem (hei ▸ he)
      · simp [hbound]
  · by_cases he : e = item
    · subst he
      rw [hr.parent?, if_pos hitem, if_pos (List.mem_singleton_self e)]
      simp [adoption, filter_contains_owner hs]
    · rw [hr.parent?_eq_self (by simp [adoption, he]), if_neg (by simpa using he)]

/-- What is taken off a shelf loses its parent, if that is the folder of the shelf. -/
theorem dismisses_of_forget (h : a.Filed) (hheld : a.held = [s.folder]) {item : Ref}
    (hitem : item ∈ a.children s.folder) :
    a.Dismisses s.folder item ((a.forget s.folder item).release s item) := by
  have hr := forget_release_refiles a s item
  have hfree : a.isHeld item = false := by
    refine (isHeld_eq_false_iff hheld).mpr fun hself => ?_
    -- a folder that lists itself would be below itself
    subst hself
    obtain ⟨x, hx⟩ := folder?_of_mem_children hitem
    exact h.acyclic s.folder (.single (nests_iff.mpr ⟨hitem, kind_of_folder? hx⟩))
  refine ⟨hr.contains, hr.size, fun r p hp => ?_, fun f => hr.scope rfl, fun f => ?_, fun e => ?_⟩
  · rw [hr.storedParent] at hp
    split at hp
    · dsimp only [dismissal] at hp
      split at hp
      · cases hp
      · exact hp
    · cases hp
  · exact hr.children (by simp [dismissal])
  · split
    · next he =>
        obtain ⟨rfl, hp⟩ := he
        have hbound := ((h.parent_iff s.folder e).mp hp).1
        rw [hr.parent?]
        simp [dismissal, hbound, hfree, hp]
    · next he =>
        refine hr.parent?_eq_self fun p => if_neg ?_
        rintro ⟨he', -, -, hp⟩
        exact he ⟨he', hp⟩

/-! ## Entities that exist -/

theorem mem_items_iff {e : Ref} : e ∈ a.items s ↔ e ∈ a.children s.folder ∧ e.kind = s.kind :=
  mem_childrenOf_iff

theorem addEach_fills {items : List Ref} (h : a.Filed) (hheld : a.held = [s.folder])
    (hs : a.scope s.folder ≠ .detached)
    (hitems : ∀ i ∈ items, a.contains i ∧ i.kind = s.kind) (hnew : ∀ i ∈ items, new i) :
    a.Fills s.folder new (a.addEach s items).2 := by
  induction items generalizing a with
  | nil => exact Fills.refl h s.folder new
  | cons i rest ih =>
      obtain ⟨⟨hi, hk⟩, hrest⟩ := List.forall_mem_cons.mp hitems
      obtain ⟨hinew, hrestnew⟩ := List.forall_mem_cons.mp hnew
      rw [addEach]
      split
      · exact ih h hheld hs hrest hrestnew
      · next habsent =>
          split
          · next b hb =>
              have habsent : i ∉ a.children s.folder := fun hmem =>
                habsent (List.contains_iff_mem.mpr (mem_items_iff.mpr ⟨hmem, hk⟩))
              have hbheld : (b.append s.folder i).held = a.held :=
                (attach_append_refiles hs hb).held
              have hadopt := adopts_of_attach h hheld hs hi habsent hb
              have hfill : a.Fills s.folder new (b.append s.folder i) :=
                Fills.of_adopts h hbheld hadopt (List.forall_mem_singleton.mpr hinew)
              have hrest' : ∀ j ∈ rest, (b.append s.folder i).contains j ∧ j.kind = s.kind :=
                fun j hj => ⟨hfill.contains j (hrest j hj).1, (hrest j hj).2⟩
              exact hfill.trans
                (ih hfill.filed (hbheld.trans hheld) (hfill.target ▸ hs) hrest' hrestnew)
          · exact Fills.refl h s.folder new

/-- Putting entities on a shelf fills it. -/
theorem add_fills {items : List Ref} (h : a.Filed) (hheld : a.held = [])
    (hs : a.scope s.folder ≠ .detached)
    (hitems : ∀ i ∈ items, a.contains i ∧ i.kind = s.kind) :
    a.Fills s.folder (· ∈ items) (a.add s items).2 :=
  Fills.holding (addEach_fills (h.of_nodes rfl) (by simp [hold, hheld]) hs hitems fun _ hi => hi)

theorem removeEach_thins (items : List Ref) (h : a.Filed) (hheld : a.held = [s.folder]) :
    a.Thins (a.removeEach s items).2 := by
  induction items generalizing a with
  | nil => exact Thins.refl h
  | cons i rest ih =>
      rw [removeEach]
      split
      · next hmem =>
          have hi := (mem_items_iff.mp (List.contains_iff_mem.mp hmem)).1
          have hbheld := (forget_release_refiles a s i).held
          have hthin := Thins.of_dismisses h hbheld (dismisses_of_forget h hheld hi)
          exact hthin.trans (ih hthin.filed (hbheld.trans hheld))
      · exact ih h hheld

/-- Taking entities off a shelf thins out. -/
theorem remove_thins (items : List Ref) (h : a.Filed) (hheld : a.held = []) :
    a.Thins (a.remove s items).2 :=
  Thins.holding (removeEach_thins items (h.of_nodes rfl) (by simp [hold, hheld]))

theorem clear_thins (h : a.Filed) (hheld : a.held = []) : a.Thins (a.clear s) :=
  remove_thins (a.items s) h hheld

/-! ## Forgetting -/

theorem erase_thins {r : Ref} (h : a.Filed) (hr : a.Unlisted r) : a.Thins (a.erase r) where
  filed := h.erase hr
  held := held_erase a r
  roots g hg := by
    rw [scope_erase] at hg
    split at hg
    · cases hg
    · exact hg
  children f := by
    rw [children_erase]
    split
    · exact List.nil_subset _
    · exact List.Subset.refl _

theorem eraseStrays_thins (kept : List Ref) (count : Nat) (h : a.Filed) :
    a.Thins (a.eraseStrays kept count) := by
  induction count generalizing a with
  | zero => exact Thins.refl h
  | succ count ih =>
      rw [eraseStrays]
      split
      · next r hr =>
          have hstray := List.find?_some hr
          simp only [Bool.and_eq_true, decide_eq_true_eq, Bool.not_eq_true',
            List.contains_eq_mem, decide_eq_false_iff_not] at hstray
          obtain ⟨⟨hk, -⟩, hlisted⟩ := hstray
          have hunlisted : a.Unlisted r := fun f hf =>
            hlisted (List.mem_flatMap.mpr
              ⟨f, mem_refs_of_mem_children hf, mem_childrenOf_iff.mpr ⟨hf, hk⟩⟩)
          have hthin := erase_thins h hunlisted
          exact hthin.trans (ih hthin.filed)
      · exact Thins.refl h

/-- Forgetting folders thins out. -/
theorem forgetStrays_thins (kept : List Ref) (h : a.Filed) : a.Thins (a.forgetStrays kept) :=
  eraseStrays_thins kept a.nodes.size h

end Atlas

end Gazetteer
