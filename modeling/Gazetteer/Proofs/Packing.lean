import Gazetteer.Proofs.Creation

/-!
# Folders built with children

A folder can be built as a value that stands nowhere yet: entities are put on its shelves
(`Atlas.pack`), and neither they nor the folders that list them take notice. Later the value becomes
a folder of its own, a document or, inserted on a shelf, a folder below another one. `Atlas.Mounts`
says what that does for the children: they get their new parent, but whoever listed them before
goes on doing so. The module proves this of all four ways (`packed_mounts`). Only the one that
checks nothing can close a circle of folders (`acyclic_iff_of_children`).
-/

namespace Gazetteer

open Relation

namespace Atlas

variable {a b x : Atlas} {s : Shelf} {r t : Ref} {values : List Ref}

/-! ## Values -/

/-- A folder that stands nowhere. Nobody lists it, but it may list what exists. -/
structure Packed (a : Atlas) (r : Ref) : Prop where
  contains : a.contains r
  kind : r.kind = .folder
  scope : a.scope r = .detached
  unlisted : a.Unlisted r
  listed : ∀ e ∈ a.children r, a.contains e
  once : (a.children r).Nodup

/-- Some values are being built, and no folder is below itself. -/
structure Building (a : Atlas) (values : List Ref) : Prop where
  packed : ∀ v ∈ values, a.Packed v
  acyclic : ∀ f, ¬TransGen a.Nests f f

/-- Values that have just been built are empty, and can be filled. -/
theorem Filed.building (h : a.Filed) (hvalues : ∀ v ∈ values, a.Unplaced .folder v) :
    a.Building values where
  packed v hv := by
    have hv := hvalues v hv
    have hnil := hv.children h
    exact ⟨hv.contains, hv.kind, hv.scope, hv.unlisted, by simp [hnil], by simp [hnil]⟩
  acyclic := h.acyclic

/-- Puts entities on shelves, one after the other. -/
def pack (a : Atlas) (packs : List (Shelf × List Ref)) : Atlas :=
  packs.foldl (fun a p => (a.add p.1 p.2).2) a

/-- What is put on the shelves of a folder. -/
def load (packs : List (Shelf × List Ref)) (f : Ref) : List Ref :=
  packs.flatMap fun p => if p.1.folder = f then p.2 else []

/-- Between two atlases nothing but the lists of folders has changed. -/
structure Relists (a : Atlas) (lists : Ref → List Ref) (b : Atlas) : Prop where
  held : b.held = a.held
  contains : ∀ e, b.contains e = a.contains e
  scope : ∀ f, b.scope f = a.scope f
  parent : ∀ e, b.parent? e = a.parent? e
  children : ∀ f, b.children f = lists f

namespace Relists

variable {l m : Ref → List Ref}

protected theorem refl (a : Atlas) : a.Relists a.children a :=
  ⟨rfl, fun _ => rfl, fun _ => rfl, fun _ => rfl, fun _ => rfl⟩

protected theorem trans (h : a.Relists l b) (h' : b.Relists m x) : a.Relists m x where
  held := h'.held.trans h.held
  contains e := (h'.contains e).trans (h.contains e)
  scope f := (h'.scope f).trans (h.scope f)
  parent e := (h'.parent e).trans (h.parent e)
  children := h'.children

theorem congr (h : a.Relists l b) (hl : ∀ f, l f = m f) : a.Relists m b :=
  ⟨h.held, h.contains, h.scope, h.parent, fun f => (h.children f).trans (hl f)⟩

end Relists

theorem append_relists {y : Folder} (ht : a.folder? t = some y) (item : Ref) :
    a.Relists (fun f => if f = t then a.children f ++ [item] else a.children f)
      (a.append t item) := by
  have hx := append_refiles a t item
  refine ⟨hx.held, hx.contains, fun f => hx.scope rfl, fun e => hx.parent?_eq_self fun _ => rfl,
    fun f => ?_⟩
  by_cases hf : f = t
  · subst hf
    exact hx.children_of_folder? ht
  · exact hx.children (if_neg hf)

/-- A folder that stands nowhere takes in whatever it does not have, and nobody takes notice. -/
theorem addEach_relists {items : List Ref} (hcontains : a.contains s.folder)
    (hfolder : s.folder.kind = .folder) (hscope : a.scope s.folder = .detached)
    (honce : (a.children s.folder).Nodup) (hitems : ∀ i ∈ items, i.kind = s.kind) :
    (a.addEach s items).1 = .ok () ∧
      a.Relists (fun f => if f = s.folder then firstBy id (a.children f ++ items)
        else a.children f) (a.addEach s items).2 := by
  induction items generalizing a with
  | nil =>
      refine ⟨rfl, (Relists.refl a).congr fun f => ?_⟩
      split
      · next hf => rw [hf, List.append_nil, firstBy_id_eq_self honce]
      · rfl
  | cons i rest ih =>
      obtain ⟨hi, hrest⟩ := List.forall_mem_cons.mp hitems
      have hmem : (a.items s).contains i = true ↔ i ∈ a.children s.folder :=
        List.contains_iff_mem.trans (mem_items_iff.trans (and_iff_left hi))
      rw [addEach]
      split
      · next hpresent =>
          obtain ⟨hok, hx⟩ := ih hcontains hscope honce hrest
          refine ⟨hok, hx.congr fun f => ?_⟩
          split
          · next hf => rw [hf, firstBy_id_append_cons (hmem.mp hpresent)]
          · rfl
      · next habsent =>
          have hattach : a.attach s i = .ok a := by
            unfold attach
            rw [hscope]
          obtain ⟨y, hy⟩ := folder?_of_contains hcontains hfolder
          have happend := append_relists hy i
          have honce' : ((a.append s.folder i).children s.folder).Nodup := by
            rw [happend.children, if_pos rfl]
            exact List.nodup_append.mpr ⟨honce, List.pairwise_singleton _ i, by
              rintro e he j hj rfl
              obtain rfl := List.mem_singleton.mp hj
              exact habsent (hmem.mpr he)⟩
          obtain ⟨hok, hx⟩ := ih ((happend.contains _).trans hcontains)
            ((happend.scope _).trans hscope) honce' hrest
          rw [hattach]
          refine ⟨hok, (happend.trans hx).congr fun f => ?_⟩
          rw [happend.children]
          split
          · rw [List.append_assoc, List.singleton_append]
          · rfl

/-- Putting entities on a shelf of a value never fails. -/
theorem add_relists {items : List Ref} (hs : a.Packed s.folder)
    (hitems : ∀ i ∈ items, i.kind = s.kind) :
    (a.add s items).1 = .ok () ∧
      a.Relists (fun f => if f = s.folder then firstBy id (a.children f ++ items)
        else a.children f) (a.add s items).2 := by
  obtain ⟨hok, hx⟩ := addEach_relists (a := a.hold s.folder) hs.contains hs.kind hs.scope hs.once
    hitems
  exact ⟨hok, rfl, hx.contains, hx.scope, hx.parent, hx.children⟩

/-- What is put on the shelf of a value leads to no value. -/
theorem Building.add {items : List Ref} (h : a.Building values) (hs : s.folder ∈ values)
    (hitems : ∀ i ∈ items, a.contains i ∧ i.kind = s.kind ∧ i ∉ values) :
    (a.add s items).2.Building values := by
  obtain ⟨-, hx⟩ := add_relists (h.packed _ hs) fun i hi => (hitems i hi).2.1
  -- lists gain nothing but the items, and only the value does
  have hnew : ∀ f e, e ∈ (a.add s items).2.children f →
      e ∈ a.children f ∨ f = s.folder ∧ e ∈ items := by
    intro f e he
    rw [hx.children] at he
    split at he
    · next hf => exact (List.mem_append.mp (mem_firstBy_id.mp he)).imp_right fun he => ⟨hf, he⟩
    · exact .inl he
  refine ⟨fun v hv => ?_, ?_⟩
  · have hpacked := h.packed v hv
    refine ⟨(hx.contains v).trans hpacked.contains, hpacked.kind, (hx.scope v).trans hpacked.scope,
      fun f hf => ?_, fun e he => ?_, ?_⟩
    · rcases hnew f v hf with hold | ⟨-, hitem⟩
      · exact hpacked.unlisted f hold
      · exact (hitems v hitem).2.2 hv
    · rw [hx.contains]
      rcases hnew v e he with hold | ⟨-, hitem⟩
      · exact hpacked.listed e hold
      · exact (hitems e hitem).1
    · rw [hx.children]
      split
      · exact nodup_firstBy_id _
      · exact hpacked.once
  · refine acyclic_of_edges (t := s.folder) (· ∈ items) h.acyclic (fun u v huv => ?_)
      fun i hi hpath => ?_
    · obtain ⟨hv, hk⟩ := nests_iff.mp huv
      exact (hnew u v hv).imp_left fun hold => nests_iff.mpr ⟨hold, hk⟩
    · -- nothing leads to a value but the value itself
      rcases reflTransGen_iff_eq_or_transGen.mp hpath with heq | hpath
      · exact (hitems i hi).2.2 (heq ▸ hs)
      · obtain ⟨f, -, hf⟩ := TransGen.tail'_iff.mp hpath
        exact (h.packed _ hs).unlisted f (nests_iff.mp hf).1

theorem load_cons (p : Shelf × List Ref) (packs : List (Shelf × List Ref)) (f : Ref) :
    load (p :: packs) f = (if p.1.folder = f then p.2 else []) ++ load packs f := rfl

/-- Values take in what is put on their shelves, and nobody else takes notice. -/
theorem pack_relists {packs : List (Shelf × List Ref)} (h : a.Building values)
    (hpacks : ∀ p ∈ packs, p.1.folder ∈ values ∧
      ∀ i ∈ p.2, a.contains i ∧ i.kind = p.1.kind ∧ i ∉ values) :
    (a.pack packs).Building values ∧
      a.Relists (fun f => if f ∈ values then firstBy id (a.children f ++ load packs f)
        else a.children f) (a.pack packs) := by
  induction packs generalizing a with
  | nil =>
      refine ⟨h, (Relists.refl a).congr fun f => ?_⟩
      split
      · next hf =>
          show _ = firstBy id (a.children f ++ [])
          rw [List.append_nil, firstBy_id_eq_self (h.packed f hf).once]
      · rfl
  | cons p packs ih =>
      obtain ⟨⟨hp, hitems⟩, hrest⟩ := List.forall_mem_cons.mp hpacks
      have hadd := h.add hp hitems
      obtain ⟨-, hx⟩ := add_relists (h.packed _ hp) fun i hi => (hitems i hi).2.1
      obtain ⟨hbuilding, hx'⟩ := ih hadd fun q hq => ⟨(hrest q hq).1, fun i hi => by
        rw [hx.contains]
        exact (hrest q hq).2 i hi⟩
      refine ⟨hbuilding, (hx.trans hx').congr fun f => ?_⟩
      rw [hx.children, load_cons]
      by_cases hf : f = p.1.folder
      · subst hf
        rw [if_pos hp, if_pos hp, if_pos rfl, if_pos rfl, firstBy_id_firstBy_append,
          List.append_assoc]
      · rw [if_neg hf, if_neg (Ne.symm hf), List.nil_append]

/-! ## New parents -/

/-- A value has become a folder, and its children have got their parent. It lists what it has listed
before, and so do all others that list one of them. Held children keep the parent they have. -/
structure Mounts (a : Atlas) (r : Ref) (owner : Option Ref) (b : Atlas) : Prop where
  list : b.children r = a.children r
  listed : ∀ e ∈ a.children r, ∀ f, e ∈ b.children f ↔ e ∈ a.children f
  parent : ∀ e ∈ a.children r, b.parent? e = if a.isHeld e then a.parent? e else owner

/-- No other folder lists what the folder lists. -/
def OwnsAlone (a : Atlas) (r : Ref) : Prop := ∀ e ∈ a.children r, ∀ f, e ∈ a.children f → f = r

theorem Mounts.ownsAlone_iff {owner : Option Ref} (h : a.Mounts r owner b) :
    b.OwnsAlone r ↔ a.OwnsAlone r := by
  unfold OwnsAlone
  rw [h.list]
  constructor
  · exact fun halone e he f hf => halone e he f ((h.listed e he f).mpr hf)
  · exact fun halone e he f hf => halone e he f ((h.listed e he f).mp hf)

/-- Lists that stay nest no folder anew. -/
theorem acyclic_of_children_eq (hb : ∀ f, b.children f = a.children f)
    (h : ∀ f, ¬TransGen a.Nests f f) : ∀ f, ¬TransGen b.Nests f f := by
  have hnests : b.Nests = a.Nests := by
    funext f g
    exact propext (by rw [nests_iff, nests_iff, hb])
  exact hnests ▸ h

/-- A value that gets a scope is a folder with children. -/
theorem mounts_of_rebind {scope : Scope} (h : a.Packed r) (hscope : scope ≠ .detached) :
    a.Mounts r (scope.owner r) (a.rebind r scope) := by
  have hx := rebind_refiles a r hscope
  refine ⟨children_rebind hscope r, fun e _ f => by rw [children_rebind hscope f], fun e he => ?_⟩
  cases hheld : a.isHeld e with
  | true => exact hx.parent?_eq_self fun p => by simp [hheld]
  | false =>
      have howner : (scope.owner r).filter a.contains = scope.owner r := by
        cases scope <;> simp [Scope.owner, h.contains]
      rw [hx.parent?, if_pos (h.listed e he)]
      simp [he, hheld, howner]

namespace Packed

/-- Who is held does not matter to a value. -/
theorem hold (h : a.Packed r) (t : Ref) : (a.hold t).Packed r :=
  ⟨h.contains, h.kind, h.scope, h.unlisted, h.listed, h.once⟩

theorem ne_of_scope (h : a.Packed r) (ht : a.scope t ≠ .detached) : r ≠ t :=
  fun hrt => ht (hrt ▸ h.scope)

theorem mounts_settle (h : a.Packed r) : a.Mounts r (some r) (a.settle r) := by
  rw [settle, if_pos h.kind]
  exact mounts_of_rebind h (nofun : Scope.bound ≠ .detached)

end Packed

/-! ## On a shelf -/

/-- New folders on a list close no circle exactly if none of them leads to the folder that has the
list. -/
theorem acyclic_iff_of_children {rs : List Ref} (h : ∀ f, ¬TransGen a.Nests f f)
    (hrs : ∀ r ∈ rs, r.kind = .folder)
    (hb : ∀ f, b.children f = if f = t then a.children f ++ rs else a.children f) :
    (∀ f, ¬TransGen b.Nests f f) ↔ ∀ r ∈ rs, ¬ReflTransGen a.Nests r t := by
  constructor
  · intro hacyclic r hr hpath
    have hmono : ∀ u v, a.Nests u v → b.Nests u v := by
      intro u v huv
      obtain ⟨hv, hk⟩ := nests_iff.mp huv
      refine nests_iff.mpr ⟨?_, hk⟩
      rw [hb]
      split
      · exact List.mem_append_left _ hv
      · exact hv
    have hedge : b.Nests t r := by
      refine nests_iff.mpr ⟨?_, hrs r hr⟩
      rw [hb, if_pos rfl]
      exact List.mem_append_right _ hr
    exact hacyclic t (TransGen.head' hedge (ReflTransGen.mono hmono _ _ hpath))
  · intro hends
    refine acyclic_of_edges (t := t) (· ∈ rs) h (fun u v huv => ?_) hends
    obtain ⟨hv, hk⟩ := nests_iff.mp huv
    rw [hb] at hv
    split at hv
    · next hu =>
        exact (List.mem_append.mp hv).imp (fun hold => nests_iff.mpr ⟨hold, hk⟩)
          fun hnew => ⟨hu, hnew⟩
    · exact .inl (nests_iff.mpr ⟨hv, hk⟩)

/-- What nobody lists is taken away from nobody when it is attached. -/
theorem children_attach_append (hs : a.scope s.folder ≠ .detached) (hr : a.Unlisted r)
    (hb : a.attach s r = .ok b) (f : Ref) :
    (b.append s.folder r).children f =
      if f = s.folder then a.children f ++ [r] else a.children f := by
  have hx := attach_append_refiles hs hb
  have hfilter : (if a.Leaves r (a.owner s.folder) f then (a.children f).filter (· ≠ r)
      else a.children f) = a.children f := by
    split
    · rw [List.filter_eq_self]
      intro e he
      simpa using fun her : e = r => hr f (her ▸ he)
    · rfl
  have hlist : (a.adoption s.folder r).list f (a.children f) =
      if f = s.folder then a.children f ++ [r] else a.children f := by
    unfold adoption
    dsimp only
    rw [hfilter]
  by_cases hf : f = s.folder
  · obtain ⟨y, hy⟩ := folder?_of_scope hs
    subst hf
    exact (hx.children_of_folder? hy).trans hlist
  · exact (hx.children (by simp [adoption, hf])).trans hlist

/-- A list that gets new folders keeps its old entries, and so do the parents. -/
theorem Mounts.of_append {owner : Option Ref} {rs : List Ref} (h : a.Mounts r owner b)
    (hr : r ≠ t) (hrs : ∀ e ∈ a.children r, e ∉ rs)
    (hlist : ∀ f, x.children f = if f = t then b.children f ++ rs else b.children f)
    (hparent : ∀ e ∈ a.children r, x.parent? e = b.parent? e) : a.Mounts r owner x where
  list := by rw [hlist, if_neg hr, h.list]
  listed e he f := by
    rw [← h.listed e he, hlist]
    split
    · rw [List.mem_append, or_iff_left (hrs e he)]
    · rfl
  parent e he := (hparent e he).trans (h.parent e he)

/-- An insertion goes through if the value, now a folder, can be attached. -/
theorem shelve_eq_ok_iff (h : a.Packed r) : a.shelve s r = (.ok r, x) ↔
    ∃ b, ((a.hold s.folder).settle r).attach s r = .ok b ∧
      x = (b.append s.folder r).withUseOf a := by
  have habsent : (((a.hold s.folder).settle r).items s).contains r = false := by
    refine Bool.eq_false_iff.mpr fun hmem => ?_
    have hlisted := (mem_items_iff.mp (List.contains_iff_mem.mp hmem)).1
    rw [children_settle] at hlisted
    exact h.unlisted s.folder hlisted
  simp only [shelve, Atlas.holding, addEach, habsent, Bool.false_eq_true, if_false]
  cases hb : ((a.hold s.folder).settle r).attach s r with
  | error e => simp
  | ok b => simp [eq_comm]

/-- A value that is inserted becomes a folder with children, and closes no circle. -/
theorem mounts_of_shelve (h : a.Packed r) (hacyclic : ∀ f, ¬TransGen a.Nests f f)
    (hs : a.scope s.folder ≠ .detached) (hok : a.shelve s r = (.ok r, x)) :
    a.Mounts r (some r) x ∧ ∀ f, ¬TransGen x.Nests f f := by
  obtain ⟨b, hb, rfl⟩ := (shelve_eq_ok_iff h).mp hok
  have hv := h.hold s.folder
  have hrt : r ≠ s.folder := h.ne_of_scope hs
  have hchildren : ∀ f, ((a.hold s.folder).settle r).children f = a.children f :=
    children_settle _ r
  have hs' : ((a.hold s.folder).settle r).scope s.folder ≠ .detached := by
    rw [scope_settle_of_ne _ hrt.symm]
    exact hs
  have hunlisted : ((a.hold s.folder).settle r).Unlisted r := fun f => by
    rw [hchildren]
    exact h.unlisted f
  have happend := children_attach_append hs' hunlisted hb
  have hparent := attach_append_refiles hs' hb
  have hne : ∀ e ∈ a.children r, e ≠ r := fun e he her => h.unlisted r (her ▸ he)
  have hmounts : (a.hold s.folder).Mounts r (some r) (b.append s.folder r) := by
    refine hv.mounts_settle.of_append hrt (fun e he => by simpa using hne e he) happend
      fun e he => hparent.parent?_eq_self fun p => ?_
    exact if_neg (hne e he)
  obtain ⟨-, hcheck, -⟩ := (attach_eq_ok_iff hs').mp hb
  have hpath := not_reflTransGen_of_checkAdoption h.kind hrt hcheck
  refine ⟨⟨hmounts.list, hmounts.listed, fun e he => (hmounts.parent e he).trans ?_⟩, ?_⟩
  · -- the folder of the shelf is held, but a value that lists it is refused
    have hes : e ≠ s.folder := by
      rintro rfl
      obtain ⟨y, hy⟩ := folder?_of_scope hs
      exact hpath (.single (nests_iff.mpr ⟨(hchildren r).symm ▸ he, kind_of_folder? hy⟩))
    have hheld : (a.hold s.folder).isHeld e = a.isHeld e := by simp [isHeld, Atlas.hold, hes]
    rw [hheld]
    rfl
  · exact (acyclic_iff_of_children (acyclic_of_children_eq hchildren hacyclic)
      (List.forall_mem_singleton.mpr h.kind) happend).mpr (List.forall_mem_singleton.mpr hpath)

/-! ## Several on a shelf -/

section Placements

variable {rs : List Ref} {e : Ref}

/-- A held entity keeps its parent. -/
theorem foldl_placement_of_isHeld (hheld : a.isHeld e = true) (he : e ∉ rs) (p : Option Ref) :
    rs.foldl (fun p r => a.placement t r e p) p = p := by
  induction rs with
  | nil => rfl
  | cons r rest ih =>
      obtain ⟨hr, hrest⟩ := List.ne_and_not_mem_of_not_mem_cons he
      rw [List.foldl_cons, placement, if_neg fun h => hr h.1, if_neg (by simp [hheld])]
      exact ih hrest

/-- Another one gets the value that lists it for its parent, if only one of them does. -/
theorem foldl_placement_of_mem (hfree : a.isHeld e = false) (he : e ∉ rs) (hmem : e ∈ a.children r)
    (hone : ∀ q ∈ rs, e ∈ a.children q → q = r) {p : Option Ref} (hr : r ∈ rs ∨ p = some r) :
    rs.foldl (fun p r => a.placement t r e p) p = some r := by
  -- the parent is the right one already, or the value is still to come
  induction rs generalizing p with
  | nil => exact hr.resolve_left List.not_mem_nil
  | cons q rest ih =>
      obtain ⟨hq, hrest⟩ := List.ne_and_not_mem_of_not_mem_cons he
      obtain ⟨hqone, hrestone⟩ := List.forall_mem_cons.mp hone
      rw [List.foldl_cons]
      refine ih hrest hrestone ?_
      rw [placement, if_neg fun h => hq h.1]
      split
      · next h => exact .inr (congrArg some (hqone h.1))
      · next h =>
          rcases hr with hr | hr
          · refine .inl ((List.mem_cons.mp hr).resolve_left ?_)
            rintro rfl
            exact h ⟨hmem, hfree⟩
          · exact .inr hr

end Placements

/-- What putting values on a shelf without any check does to the filing. -/
theorem shelveAll_refiles {rs : List Ref} (hrs : ∀ r ∈ rs, r ≠ s.folder) :
    ∃ b, (a.hold s.folder).Refiles b
        { parent := fun e p => rs.foldl (fun p r => (a.hold s.folder).placement s.folder r e p) p
          list := fun f l => if f = s.folder then l ++ rs else l
          scope := fun f x => if f ∈ rs then .bound else x } ∧
      a.shelveAll s rs = b.withUseOf a := by
  have hplace : (a.hold s.folder).Refiles _ _ := foldl_place_refiles hrs
  have happend := foldl_append_refiles (rs.foldl (·.place s.folder ·) (a.hold s.folder)) s.folder rs
  exact ⟨_, (hplace.trans happend).congr (fun _ _ => rfl) (fun _ _ => rfl) fun _ _ => rfl,
    shelveAll_eq a s rs⟩

theorem children_shelveAll {rs : List Ref} (hrs : ∀ r ∈ rs, r ≠ s.folder)
    (hs : a.scope s.folder ≠ .detached) (f : Ref) :
    (a.shelveAll s rs).children f =
      if f = s.folder then a.children f ++ rs else a.children f := by
  obtain ⟨b, hb, hx⟩ := shelveAll_refiles (a := a) hrs
  rw [hx]
  by_cases hf : f = s.folder
  · obtain ⟨y, hy⟩ := folder?_of_scope hs
    subst hf
    exact hb.children_of_folder? hy
  · exact hb.children (if_neg hf)

/-- Values that are put on a shelf together become folders with children. -/
theorem mounts_of_shelveAll {rs : List Ref} (hrs : ∀ q ∈ rs, a.Packed q) (hr : r ∈ rs)
    (hone : ∀ q ∈ rs, ∀ e ∈ a.children r, e ∈ a.children q → q = r)
    (hs : a.scope s.folder ≠ .detached) :
    (a.hold s.folder).Mounts r (some r) (a.shelveAll s rs) := by
  have hne : ∀ q ∈ rs, q ≠ s.folder := fun q hq => (hrs q hq).ne_of_scope hs
  have hchildren := children_shelveAll hne hs
  have hnew : ∀ e ∈ a.children r, e ∉ rs := fun e he hmem => (hrs e hmem).unlisted r he
  refine ⟨(hchildren r).trans (if_neg (hne r hr)), fun e he f => ?_, fun e he => ?_⟩
  · rw [hchildren]
    split
    · exact List.mem_append.trans (or_iff_left (hnew e he))
    · rfl
  · obtain ⟨b, hb, hx⟩ := shelveAll_refiles (a := a) hne
    rw [hx]
    show b.parent? e = _
    cases hheld : (a.hold s.folder).isHeld e with
    | true => exact hb.parent?_eq_self fun p => foldl_placement_of_isHeld hheld (hnew e he) p
    | false =>
        have howner : (some r).filter (a.hold s.folder).contains = some r := by
          simp [((hrs r hr).hold s.folder).contains]
        have hparent := foldl_placement_of_mem (t := s.folder) hheld (hnew e he) he
          (fun q hq => hone q hq e he) (p := (a.hold s.folder).storedParent e) (.inl hr)
        rw [hb.parent?, if_pos (((hrs r hr).hold s.folder).listed e he)]
        exact (congrArg (Option.filter (a.hold s.folder).contains) hparent).trans howner

/-! ## All ways -/

/-- **A folder that is built with children takes them from nobody.** Values may be filled with
anything that exists; they take in whatever they do not have, and nobody else takes notice. When
such a value becomes a folder of its own, a document, or a folder on a shelf, alone and checked or
with others and unchecked, each of its children gets the new folder for its parent, or none from a
document; a held child keeps the one it has. But nobody who has listed a child strikes it off, so
that the new folder owns its children alone exactly if it has done so as a value. No folder gets
below itself, except where nothing is checked: there that happens exactly if a value leads to the
folder of the shelf. -/
theorem packed_mounts (a : Atlas) (values : List Ref) (packs : List (Shelf × List Ref))
    (h : a.Building values)
    (hpacks : ∀ p ∈ packs, p.1.folder ∈ values ∧
      ∀ i ∈ p.2, a.contains i ∧ i.kind = p.1.kind ∧ i ∉ values) :
    let b := a.pack packs
    (∀ f, b.children f =
      if f ∈ values then firstBy id (a.children f ++ load packs f) else a.children f) ∧
    (∀ e, b.parent? e = a.parent? e) ∧ (∀ f, ¬TransGen b.Nests f f) ∧
    ∀ r ∈ values,
      (b.Mounts r (some r) (b.settle r) ∧ ((b.settle r).OwnsAlone r ↔ b.OwnsAlone r) ∧
        ∀ f, ¬TransGen (b.settle r).Nests f f) ∧
      (b.Mounts r none (b.rebind r .root) ∧ ((b.rebind r .root).OwnsAlone r ↔ b.OwnsAlone r) ∧
        ∀ f, ¬TransGen (b.rebind r .root).Nests f f) ∧
      (∀ s x, b.scope s.folder ≠ .detached → b.shelve s r = (.ok r, x) →
        b.Mounts r (some r) x ∧ (x.OwnsAlone r ↔ b.OwnsAlone r) ∧ ∀ f, ¬TransGen x.Nests f f) ∧
      ∀ s rs, b.scope s.folder ≠ .detached → r ∈ rs → (∀ q ∈ rs, q ∈ values) →
        (∀ q ∈ rs, ∀ e ∈ b.children r, e ∈ b.children q → q = r) →
        (b.hold s.folder).Mounts r (some r) (b.shelveAll s rs) ∧
        ((b.shelveAll s rs).OwnsAlone r ↔ b.OwnsAlone r) ∧
        ((∀ f, ¬TransGen (b.shelveAll s rs).Nests f f) ↔
          ∀ q ∈ rs, ¬ReflTransGen b.Nests q s.folder) := by
  obtain ⟨hbuilding, hx⟩ := pack_relists h hpacks
  refine ⟨hx.children, hx.parent, hbuilding.acyclic, fun r hr => ?_⟩
  generalize a.pack packs = b at hbuilding
  have hpacked := hbuilding.packed r hr
  refine ⟨?_, ?_, fun s x hs hok => ?_, fun s rs hs hmem hvalues hone => ?_⟩
  · have hmounts := hpacked.mounts_settle
    exact ⟨hmounts, hmounts.ownsAlone_iff,
      acyclic_of_children_eq (children_settle b r) hbuilding.acyclic⟩
  · have hroot : Scope.root ≠ .detached := nofun
    have hmounts := mounts_of_rebind hpacked hroot
    exact ⟨hmounts, hmounts.ownsAlone_iff,
      acyclic_of_children_eq (children_rebind hroot) hbuilding.acyclic⟩
  · obtain ⟨hmounts, hacyclic⟩ := mounts_of_shelve hpacked hbuilding.acyclic hs hok
    exact ⟨hmounts, hmounts.ownsAlone_iff, hacyclic⟩
  · have hrs : ∀ q ∈ rs, b.Packed q := fun q hq => hbuilding.packed q (hvalues q hq)
    have hne : ∀ q ∈ rs, q ≠ s.folder := fun q hq => (hrs q hq).ne_of_scope hs
    have hmounts := mounts_of_shelveAll hrs hmem hone hs
    exact ⟨hmounts, hmounts.ownsAlone_iff, acyclic_iff_of_children hbuilding.acyclic
      (fun q hq => (hrs q hq).kind) (children_shelveAll hne hs)⟩

/-- A folder with a point, another one that lists nothing, and a value. -/
def loading : Atlas :=
  let a := (insert {} (.blank .folder)).2
  let b := (a.create ⟨⟨.folder, 0⟩, .point⟩ ⟨[]⟩).2
  ((b.insert (.blank .folder)).2.insert (unbound .folder)).2

theorem building_loading : loading.Building [⟨.folder, 3⟩] := by
  have hfirst := filed_empty.extend (insert_extends {} (Node.fresh_blank .folder))
  have hstands : (insert {} (.blank .folder)).2.scope ⟨.folder, 0⟩ ≠ .detached := by decide
  have hpoint := (create_fills (s := ⟨⟨.folder, 0⟩, .point⟩) ⟨[]⟩ hfirst rfl hstands).filed
  have hsecond := hpoint.extend (insert_extends _ (Node.fresh_blank .folder))
  have hfresh := fresh_unbound .folder
  have hvalue := insert_unplaced hsecond hfresh fun f => scope_of_unbound
  exact (hsecond.extend (insert_extends _ hfresh)).building (List.forall_mem_singleton.mpr hvalue)

theorem packed_mounts_loading :
    let b := loading.pack [(⟨⟨.folder, 3⟩, .point⟩, [⟨.point, 1⟩])]
    let r : Ref := ⟨.folder, 3⟩
    let s : Shelf := ⟨⟨.folder, 2⟩, .folder⟩
    ((b.settle r).parent? ⟨.point, 1⟩ = some r ∧ ¬(b.settle r).OwnsAlone r) ∧
    (∃ x, b.shelve s r = (.ok r, x) ∧ x.parent? ⟨.point, 1⟩ = some r ∧ ¬x.OwnsAlone r) ∧
    (b.shelveAll s [r]).parent? ⟨.point, 1⟩ = some r := by
  intro b r s
  have hpacks : ∀ p ∈ [((⟨r, .point⟩ : Shelf), [(⟨.point, 1⟩ : Ref)])], p.1.folder ∈ [r] ∧
      ∀ i ∈ p.2, loading.contains i ∧ i.kind = p.1.kind ∧ i ∉ [r] := by decide
  have hbuilding : b.Building [r] := (pack_relists building_loading hpacks).1
  obtain ⟨-, -, -, hways⟩ := packed_mounts loading [r] _ building_loading hpacks
  obtain ⟨⟨hsettle, halone, -⟩, -, hinsert, hall⟩ := hways r (List.mem_singleton_self r)
  have hmem : ⟨.point, 1⟩ ∈ b.children r := by decide
  have hshared : ¬b.OwnsAlone r := fun h =>
    absurd (h ⟨.point, 1⟩ hmem ⟨.folder, 0⟩ (by decide)) (by decide)
  refine ⟨⟨hsettle.parent _ hmem, fun h => hshared (halone.mp h)⟩, ?_, ?_⟩
  · have hcheck : ((b.hold s.folder).settle r).checkAdoption s.folder r = .ok () :=
      checkAdoption_of_childrenOf_eq_nil (by decide)
    have hstands : ((b.hold s.folder).settle r).scope s.folder ≠ .detached := by decide
    have hattach := (attach_eq_ok_iff hstands).mpr ⟨by decide, hcheck, rfl⟩
    have hx := (shelve_eq_ok_iff (hbuilding.packed r (List.mem_singleton_self r))).mpr
      ⟨_, hattach, rfl⟩
    obtain ⟨hshelve, halone, -⟩ := hinsert s _ (by decide) hx
    exact ⟨_, hx, hshelve.parent _ hmem, fun h => hshared (halone.mp h)⟩
  · have hshelve := (hall s [r] (by decide) (List.mem_singleton_self r) (fun q hq => hq)
      fun q hq _ _ _ => List.mem_singleton.mp hq).1
    exact hshelve.parent _ hmem

end Atlas

end Gazetteer
