import Gazetteer.Proofs.Growth

/-!
# Who owns what

`Atlas.Filed` is the invariant of shelves: a bound folder lists an entity exactly when it is the
parent of the entity, no list repeats anything, and no folder is below itself. Every primitive
change keeps it: a growing atlas (`Filed.extend`), entities that move to another folder
(`Filed.adopt`), one that is taken off a list (`Filed.dismiss`), a new folder that gets its scope
(`Filed.settle`) and a folder that is forgotten (`Filed.erase`). That detaching never fails silently
and that no circle is closed rests on the search that a folder makes before it takes another one in
(`not_reflTransGen_of_checkAdoption`).
-/

namespace Gazetteer

open Relation

section Edges

variable {α : Type} {R R' : α → α → Prop} {t u v : α}

/-- If edges come in from one place `t`, and their ends do not lead to it, then a path goes over the
old edges, or over old ones to `t` and then over old ones from a new end. -/
theorem transGen_or_of_edges (ends : α → Prop) (hstep : ∀ u v, R' u v → R u v ∨ u = t ∧ ends v)
    (hends : ∀ x, ends x → ¬ReflTransGen R x t) (h : TransGen R' u v) :
    TransGen R u v ∨ ReflTransGen R u t ∧ ∃ x, ends x ∧ ReflTransGen R x v := by
  induction h with
  | single h =>
      rcases hstep _ _ h with h | ⟨rfl, hx⟩
      · exact Or.inl (.single h)
      · exact Or.inr ⟨.refl, _, hx, .refl⟩
  | tail _ h ih =>
      rcases hstep _ _ h with h | ⟨rfl, hx⟩
      · rcases ih with ih | ⟨hu, x, hx, hxv⟩
        · exact Or.inl (ih.tail h)
        · exact Or.inr ⟨hu, x, hx, hxv.tail h⟩
      · rcases ih with ih | ⟨-, y, hy, hyt⟩
        · exact Or.inr ⟨ih.to_reflTransGen, _, hx, .refl⟩
        · exact absurd hyt (hends y hy)

/-- New edges from one place `t` close no further circle if their ends do not lead to `t`. -/
theorem transGen_self_of_edges (ends : α → Prop)
    (hstep : ∀ u v, R' u v → R u v ∨ u = t ∧ ends v)
    (hends : ∀ x, ends x → ¬ReflTransGen R x t) (h : TransGen R' u u) : TransGen R u u := by
  rcases transGen_or_of_edges ends hstep hends h with h | ⟨hut, x, hx, hxu⟩
  · exact h
  · exact absurd (hxu.trans hut) (hends x hx)

theorem acyclic_of_edges (ends : α → Prop) (hR : ∀ u, ¬TransGen R u u)
    (hstep : ∀ u v, R' u v → R u v ∨ u = t ∧ ends v)
    (hends : ∀ x, ends x → ¬ReflTransGen R x t) (u : α) : ¬TransGen R' u u :=
  fun h => hR u (transGen_self_of_edges ends hstep hends h)

/-- If edges to one place `t` are lost, a path stays, or it has gone through `t`. -/
theorem transGen_or_of_edges_to (hstep : ∀ u v, R u v → R' u v ∨ v = t) (h : TransGen R u v) :
    TransGen R' u v ∨ TransGen R u t ∧ ReflTransGen R t v := by
  induction h with
  | single h =>
      rcases hstep _ _ h with h' | rfl
      · exact Or.inl (.single h')
      · exact Or.inr ⟨.single h, .refl⟩
  | tail hu h ih =>
      rcases ih with ih | ⟨hut, htv⟩
      · rcases hstep _ _ h with h' | rfl
        · exact Or.inl (ih.tail h')
        · exact Or.inr ⟨hu.tail h, .refl⟩
      · exact Or.inr ⟨hut, htv.tail h⟩

end Edges

namespace Atlas

/-! ## The search before an adoption -/

/-- If a search below a folder meets no hidden folder, it meets all that are below. -/
theorem mem_foldersBelow_of_transGen {a : Atlas} {r : Ref}
    (hfree : ∀ f ∈ a.foldersBelow r, a.isHidden f = false) {f : Ref} (h : TransGen a.Nests r f) :
    f ∈ a.foldersBelow r := by
  unfold foldersBelow at hfree ⊢
  induction h with
  | single h => exact Walk.mem_depthFirst_of_mem (List.mem_reverse.mpr h)
  | @tail f g _ hfg ih =>
      refine Walk.mem_depthFirst_of_leads List.not_mem_nil
        (Walk.mem_seen_of_mem_depthFirst ?_ ih) ?_
      · exact mem_refs_of_mem_children (mem_childrenOf_iff.mp hfg).1
      · show g ∈ (a.openFolders f).reverse
        rw [openFolders, hfree f ih]
        exact List.mem_reverse.mpr hfg

/-- The search rules a circle out. -/
theorem not_reflTransGen_of_checkAdoption {a : Atlas} {target item : Ref}
    (hk : item.kind = .folder) (hne : item ≠ target)
    (h : a.checkAdoption target item = .ok ()) : ¬ReflTransGen a.Nests item target := by
  unfold checkAdoption at h
  rw [if_pos hk] at h
  dsimp only at h
  have hnone : ∀ f ∈ (a.hold item).foldersBelow item,
      f ≠ target ∧ (a.hold item).isHidden f = false := by
    split at h
    · split at h <;> cases h
    · next hnone =>
        intro f hf
        simpa only [Bool.not_eq_true, Bool.or_eq_false_iff, decide_eq_false_iff_not] using
          List.find?_eq_none.mp hnone f hf
  intro hpath
  rcases reflTransGen_iff_eq_or_transGen.mp hpath with rfl | hpath
  · exact hne rfl
  · exact (hnone target (mem_foldersBelow_of_transGen (fun f hf => (hnone f hf).2) hpath)).1 rfl

/-! ## The invariant -/

/-- Lists and parents agree. -/
structure Filed (a : Atlas) : Prop where
  /-- What a folder lists exists. -/
  listed : ∀ f e, e ∈ a.children f → a.contains e
  /-- No folder lists an entity twice. -/
  once : ∀ f, (a.children f).Nodup
  /-- The parent of an entity is the bound folder that lists it. -/
  parent_iff : ∀ f e, a.parent? e = some f ↔ a.scope f = .bound ∧ e ∈ a.children f
  /-- A folder on its own lists nothing. -/
  detached : ∀ f, a.scope f = .detached → a.children f = []
  /-- No folder is below itself. -/
  acyclic : ∀ f, ¬TransGen a.Nests f f
  /-- No entity waits for a parent that is still to come. -/
  allocated : ∀ r p, a.storedParent r = some p → p.number < a.nodes.size

/-- From `a` to `b` the folder `t` takes in some entities, and all bound folders strike them off.
Folders that list nothing may be bound meanwhile. -/
structure Adopts (a : Atlas) (t : Ref) (items : List Ref) (b : Atlas) : Prop where
  target : a.scope t ≠ .detached
  fresh : ∀ i ∈ items, a.contains i ∧ i ∉ a.children t
  nodup : items.Nodup
  /-- The folder is not below one that it takes in. -/
  below : ∀ i ∈ items, i.kind = .folder → ¬ReflTransGen a.Nests i t
  contains : ∀ r, b.contains r = a.contains r
  size : b.nodes.size = a.nodes.size
  stored : ∀ r p, b.storedParent r = some p → a.storedParent r = some p ∨ p = t
  scope : ∀ f, b.scope f = a.scope f ∨
    f ≠ t ∧ a.children f = [] ∧ a.scope f ≠ .root ∧ b.scope f = .bound
  list : ∀ f, b.children f =
    if f = t then a.children f ++ items
    else if a.scope f = .bound then (a.children f).filter (· ∉ items) else a.children f
  parent : ∀ e, b.parent? e = if e ∈ items then a.owner t else a.parent? e

/-- From `a` to `b` the folder `t` strikes an entity off its list, and is not its parent after. -/
structure Dismisses (a : Atlas) (t item : Ref) (b : Atlas) : Prop where
  contains : ∀ r, b.contains r = a.contains r
  size : b.nodes.size = a.nodes.size
  stored : ∀ r p, b.storedParent r = some p → a.storedParent r = some p
  scope : ∀ f, b.scope f = a.scope f
  list : ∀ f, b.children f = if f = t then (a.children f).filter (· ≠ item) else a.children f
  parent : ∀ e, b.parent? e = if e = item ∧ a.parent? item = some t then none else a.parent? e

theorem children_eq_nil {a : Atlas} {f : Ref} (h : a.contains f = false) : a.children f = [] := by
  rw [List.eq_nil_iff_forall_not_mem]
  intro e he
  simp [contains_of_mem_children he] at h

theorem nests_iff {a : Atlas} {f g : Ref} : a.Nests f g ↔ g ∈ a.children f ∧ g.kind = .folder :=
  mem_childrenOf_iff

namespace Adopts

variable {a b : Atlas} {t f e : Ref} {items : List Ref}

theorem scope_target (hx : a.Adopts t items b) : b.scope t = a.scope t :=
  (hx.scope t).resolve_right fun h => h.1 rfl

theorem scope_of_mem (hx : a.Adopts t items b) (he : e ∈ a.children f) :
    b.scope f = a.scope f := by
  refine (hx.scope f).resolve_right fun hf => ?_
  simp [hf.2.1] at he

/-- A list gains what is taken in if it is that of the target, and nothing else. -/
theorem mem_or (hx : a.Adopts t items b) (he : e ∈ b.children f) :
    e ∈ a.children f ∨ f = t ∧ e ∈ items := by
  rw [hx.list] at he
  split at he
  · next hf => exact (List.mem_append.mp he).imp_right fun he => ⟨hf, he⟩
  · split at he
    · exact Or.inl (List.mem_filter.mp he).1
    · exact Or.inl he

theorem mem_iff_of_not_mem (hx : a.Adopts t items b) (he : e ∉ items) :
    e ∈ b.children f ↔ e ∈ a.children f := by
  rw [hx.list]
  split
  · simp [he]
  · split
    · simp [he]
    · rfl

/-- Among bound folders only the target lists what is taken in. -/
theorem owner_eq_some_iff (hx : a.Adopts t items b) (he : e ∈ items) :
    a.owner t = some f ↔ b.scope f = .bound ∧ e ∈ b.children f := by
  unfold owner
  constructor
  · intro hf
    split at hf
    · next hbound =>
        obtain rfl : t = f := by simpa using hf
        refine ⟨hx.scope_target.trans hbound, ?_⟩
        rw [hx.list, if_pos rfl]
        exact List.mem_append_right _ he
    · cases hf
  · rintro ⟨hbound, hf⟩
    by_cases hft : f = t
    · subst hft
      rw [if_pos (hx.scope_target ▸ hbound)]
    · -- a bound folder other than the target has struck the entity off
      have hold := (hx.mem_or hf).resolve_right fun h => hft h.1
      rw [hx.list, if_neg hft, if_pos (hx.scope_of_mem hold ▸ hbound)] at hf
      simp [he] at hf

theorem acyclic (hx : a.Adopts t items b) (h : ∀ f, ¬TransGen a.Nests f f) :
    ∀ f, ¬TransGen b.Nests f f := by
  refine acyclic_of_edges (t := t) (fun i => i ∈ items ∧ i.kind = .folder) h ?_ ?_
  · intro u v huv
    obtain ⟨hv, hk⟩ := nests_iff.mp huv
    rcases hx.mem_or hv with hv | ⟨hu, hv⟩
    · exact Or.inl (nests_iff.mpr ⟨hv, hk⟩)
    · exact Or.inr ⟨hu, hv, hk⟩
  · rintro i ⟨hi, hk⟩
    exact hx.below i hi hk

end Adopts

theorem filed_of_nothing_filed {a : Atlas} (hc : ∀ f, a.children f = [])
    (hp : ∀ r, a.storedParent r = none) : a.Filed where
  listed f e he := by simp [hc] at he
  once f := by simp [hc]
  parent_iff f e := by simp [hc, parent?_eq, hp]
  detached f _ := hc f
  acyclic f h := by
    obtain ⟨g, hg, -⟩ := TransGen.head'_iff.mp h
    simp [nests_iff, hc] at hg
  allocated r p h := by simp [hp] at h

theorem filed_empty : Filed {} :=
  filed_of_nothing_filed (fun f => by simp [children, folder?, node?]) fun r => by
    simp [storedParent, node?]

namespace Filed

variable {a b : Atlas}

/-- Where lists only lose entities, no entity comes up twice and no folder gets below itself. -/
theorem of_sublist (h : a.Filed) (hlist : ∀ f, (b.children f).Sublist (a.children f))
    (hlisted : ∀ f e, e ∈ b.children f → b.contains e)
    (hparent : ∀ f e, b.parent? e = some f ↔ b.scope f = .bound ∧ e ∈ b.children f)
    (hdetached : ∀ f, b.scope f = .detached → b.children f = [])
    (hallocated : ∀ r p, b.storedParent r = some p → p.number < b.nodes.size) : b.Filed where
  listed := hlisted
  once f := (hlist f).nodup (h.once f)
  parent_iff := hparent
  detached := hdetached
  acyclic f hf := by
    refine h.acyclic f (TransGen.mono (fun u v huv => ?_) _ _ hf)
    obtain ⟨hv, hk⟩ := nests_iff.mp huv
    exact nests_iff.mpr ⟨(hlist u).subset hv, hk⟩
  allocated := hallocated

/-- Growing keeps the invariant. -/
theorem extend (h : a.Filed) (hx : a.Extends b) : b.Filed := by
  have hlist := hx.children
  refine h.of_sublist (fun f => hlist f ▸ List.Sublist.refl _) (fun f e he => ?_) (fun f e => ?_)
    (fun f hf => ?_) fun r p hp => ?_
  · exact hx.contains (h.listed f e (hlist f ▸ he))
  · rw [hx.parent? h.allocated, h.parent_iff, hlist]
    cases hf : a.contains f with
    | true => rw [hx.scope hf]
    | false => simp [children_eq_nil hf]
  · rw [hlist]
    cases hc : a.contains f with
    | true => exact h.detached f (by rw [← hx.scope hc, hf])
    | false => exact children_eq_nil hc
  · rw [hx.storedParent] at hp
    exact Nat.lt_of_lt_of_le (h.allocated r p hp) hx.size

/-- Entities that move to one folder keep the invariant. -/
theorem adopt (h : a.Filed) {t : Ref} {items : List Ref} (hx : a.Adopts t items b) : b.Filed := by
  refine ⟨fun f e he => ?_, fun f => ?_, fun f e => ?_, fun f hf => ?_, hx.acyclic h.acyclic,
    fun r p hp => ?_⟩
  · rw [hx.contains]
    rcases hx.mem_or he with he | ⟨-, he⟩
    · exact h.listed f e he
    · exact (hx.fresh e he).1
  · rw [hx.list]
    split
    · next hf =>
        subst hf
        rw [List.nodup_append]
        refine ⟨h.once f, hx.nodup, ?_⟩
        rintro e he i hi rfl
        exact (hx.fresh e hi).2 he
    · split
      · exact (h.once f).filter _
      · exact h.once f
  · rw [hx.parent]
    split
    · next he => exact hx.owner_eq_some_iff he
    · next he =>
        rw [h.parent_iff, hx.mem_iff_of_not_mem he]
        constructor
        · rintro ⟨hs, hf⟩
          exact ⟨(hx.scope_of_mem hf).trans hs, hf⟩
        · rintro ⟨hs, hf⟩
          exact ⟨hx.scope_of_mem hf ▸ hs, hf⟩
  · have hft : f ≠ t := fun hft => hx.target (by rw [← hx.scope_target, ← hft, hf])
    rw [List.eq_nil_iff_forall_not_mem]
    intro e he
    have hold := (hx.mem_or he).resolve_right fun h => hft h.1
    rw [hx.scope_of_mem hold] at hf
    simp [h.detached f hf] at hold
  · rw [hx.size]
    rcases hx.stored r p hp with hp | rfl
    · exact h.allocated r p hp
    · exact number_lt_of_contains (contains_of_scope hx.target)

/-- Taking an entity off one list keeps the invariant, if its parent goes with it. -/
theorem dismiss (h : a.Filed) {t item : Ref} (hx : a.Dismisses t item b) : b.Filed := by
  have hlist : ∀ f, (b.children f).Sublist (a.children f) := by
    intro f
    rw [hx.list]
    split
    · exact List.filter_sublist
    · exact List.Sublist.refl _
  have hmem : ∀ f e, e ∈ b.children f ↔ e ∈ a.children f ∧ ¬(f = t ∧ e = item) := by
    intro f e
    rw [hx.list]
    split
    · next hf => simp [hf]
    · next hf => simp [hf]
  refine h.of_sublist hlist (fun f e he => ?_) (fun f e => ?_) (fun f hf => ?_) fun r p hp => ?_
  · rw [hx.contains]
    exact h.listed f e ((hlist f).subset he)
  · rw [hx.parent, hx.scope, hmem]
    split
    · next he =>
        obtain ⟨rfl, ht⟩ := he
        refine iff_of_false (by simp) ?_
        rintro ⟨hs, hf, hne⟩
        -- a bound folder that lists the entity is its parent, and that is the one it leaves
        have hft := (h.parent_iff f e).mpr ⟨hs, hf⟩
        rw [ht] at hft
        exact absurd ⟨(Option.some.inj hft).symm, rfl⟩ hne
    · next he =>
        rw [h.parent_iff]
        constructor
        · rintro ⟨hs, hf⟩
          refine ⟨hs, hf, ?_⟩
          rintro ⟨rfl, rfl⟩
          exact he ⟨rfl, (h.parent_iff f e).mpr ⟨hs, hf⟩⟩
        · rintro ⟨hs, hf, -⟩
          exact ⟨hs, hf⟩
  · have hnil := h.detached f (hx.scope f ▸ hf)
    exact List.sublist_nil.mp (hnil ▸ hlist f)
  · rw [hx.size]
    exact h.allocated r p (hx.stored r p hp)

/-- A folder that lists nothing may be bound. -/
theorem settle (h : a.Filed) {r : Ref} (hr : a.children r = []) : (a.settle r).Filed := by
  have hs := settle_refiles_of_children_eq_nil hr
  have hlist := children_settle a r
  refine h.of_sublist (fun f => hlist f ▸ List.Sublist.refl _) (fun f e he => ?_) (fun f e => ?_)
    (fun f hf => ?_) fun e p hp => ?_
  · rw [hs.contains]
    exact h.listed f e (hlist f ▸ he)
  · rw [hs.parent?_eq_self fun _ => rfl, h.parent_iff, hlist]
    by_cases hfr : f = r
    · simp [hfr, hr]
    · rw [scope_settle_of_ne a hfr]
  · rw [hlist]
    by_cases hfr : f = r
    · rw [hfr, hr]
    · exact h.detached f (scope_settle_of_ne a hfr ▸ hf)
  · rw [hs.size]
    rw [hs.storedParent] at hp
    split at hp
    · exact h.allocated e p hp
    · cases hp

/-- A folder that no folder lists may be forgotten. -/
theorem erase (h : a.Filed) {r : Ref} (hr : ∀ f, r ∉ a.children f) : (a.erase r).Filed := by
  have hmem : ∀ f e, e ∈ (a.erase r).children f ↔ f ≠ r ∧ e ∈ a.children f := by
    intro f e
    rw [children_erase]
    by_cases hfr : f = r <;> simp [hfr]
  have hparent : ∀ f e, (a.erase r).parent? e = some f ↔
      e ≠ r ∧ f ≠ r ∧ a.parent? e = some f := by
    intro f e
    simp only [parent?_eq, storedParent_erase, Option.filter_eq_some_iff, contains_erase]
    by_cases her : e = r
    · simp [her]
    · by_cases hfr : f = r <;> simp [her, hfr]
  refine h.of_sublist (fun f => ?_) (fun f e he => ?_) (fun f e => ?_) (fun f hf => ?_)
    fun e p hp => ?_
  · rw [children_erase]
    split
    · exact List.nil_sublist _
    · exact List.Sublist.refl _
  · have he := ((hmem f e).mp he).2
    have her : e ≠ r := fun her => hr f (her ▸ he)
    rw [contains_erase, if_neg her]
    exact h.listed f e he
  · rw [hparent, hmem, h.parent_iff, scope_erase]
    constructor
    · rintro ⟨-, hfr, hs, hf⟩
      exact ⟨(if_neg hfr).trans hs, hfr, hf⟩
    · rintro ⟨hs, hfr, hf⟩
      rw [if_neg hfr] at hs
      exact ⟨fun her => hr f (her ▸ hf), hfr, hs, hf⟩
  · rw [children_erase]
    rw [scope_erase] at hf
    split
    · rfl
    · next hfr => exact h.detached f ((if_neg hfr).symm.trans hf)
  · rw [size_erase]
    rw [storedParent_erase] at hp
    split at hp
    · cases hp
    · exact h.allocated e p hp

/-- Who is held does not matter to the invariant. -/
theorem of_nodes (h : a.Filed) (hb : b.nodes = a.nodes) : b.Filed := by
  obtain ⟨nodes, held, shared⟩ := a
  obtain ⟨nodes', held', shared'⟩ := b
  obtain rfl : nodes' = nodes := hb
  exact ⟨h.listed, h.once, h.parent_iff, h.detached, h.acyclic, h.allocated⟩

end Filed

end Atlas

end Gazetteer
