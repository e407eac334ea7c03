import Gazetteer.Proofs.Position
import Gazetteer.Proofs.Update

/-!
# Coherent atlases

Whatever a program does, refs lead to what has been made: placemarks and groups refer to geometries,
folders list entities that are there or have been there, and who has a parent has a bound folder for
it. `Atlas.Coherent` says this, `Atlas.Evolves` that a change keeps it, and every edit that a
program may do is such a change (`Atlas.edit_evolves`). So all atlases of a run are coherent, and
between two edits nobody is held (`Atlas.coherent_of_mem_versions`).
-/

namespace Gazetteer

open Geodesy

namespace Atlas

/-- A ref that names, or has named, a geometry. -/
def Offers (a : Atlas) (q : Ref) : Prop := q.kind.isGeometry ∧ q.number < a.nodes.size

/-- Refs lead to what has been made, and parents are bound folders. -/
structure Coherent (a : Atlas) : Prop where
  links : ∀ r n, a.node? r = some n → ∀ q ∈ n.links, a.Offers q
  listed : ∀ f, ∀ e ∈ a.children f, e.number < a.nodes.size
  allocated : ∀ e p, a.storedParent e = some p → p.number < a.nodes.size
  bound : ∀ e p, a.parent? e = some p → a.scope p = .bound

/-- From `a` to `b` refs have at most been given out, the same entities are held, and if `a` is
coherent, so is `b`. -/
structure Evolves (a b : Atlas) : Prop where
  size : a.nodes.size ≤ b.nodes.size
  held : b.held = a.held
  coherent : a.Coherent → b.Coherent

variable {a b x : Atlas} {r s : Ref} {n m : Node}

namespace Evolves

protected theorem refl (a : Atlas) : a.Evolves a := ⟨Nat.le_refl _, rfl, id⟩

protected theorem trans (h : a.Evolves b) (h' : b.Evolves x) : a.Evolves x where
  size := Nat.le_trans h.size h'.size
  held := h'.held.trans h.held
  coherent ha := h'.coherent (h.coherent ha)

/-- Who is held meanwhile does not matter. -/
theorem holding {α : Type} {f : Atlas → α × Atlas} (h : (a.hold r).Evolves (f (a.hold r)).2) :
    a.Evolves (a.holding r f).2 where
  size := h.size
  held := rfl
  coherent ha := by
    have hb := h.coherent ⟨ha.links, ha.listed, ha.allocated, ha.bound⟩
    exact ⟨hb.links, hb.listed, hb.allocated, hb.bound⟩

theorem lt_size (h : a.Evolves b) (hr : r.number < a.nodes.size) : r.number < b.nodes.size :=
  Nat.lt_of_lt_of_le hr h.size

end Evolves

/-! ## Changes -/

/-- A growing atlas stays coherent if its links do. -/
theorem Extends.evolves (hx : a.Extends b)
    (hlinks : a.Coherent → ∀ r n, b.node? r = some n → ∀ q ∈ n.links, b.Offers q) :
    a.Evolves b where
  size := hx.size
  held := hx.held
  coherent h := by
    refine ⟨hlinks h, fun f e he => ?_, fun e p hp => ?_, fun e p hp => ?_⟩
    · rw [hx.children] at he
      exact Nat.lt_of_lt_of_le (h.listed f e he) hx.size
    · rw [hx.storedParent] at hp
      exact Nat.lt_of_lt_of_le (h.allocated e p hp) hx.size
    · rw [hx.parent? h.allocated] at hp
      have hcontains : a.contains p := by
        rw [parent?_eq] at hp
        exact (Option.filter_eq_some_iff.mp hp).2
      rw [hx.scope hcontains]
      exact h.bound e p hp

/-- An entity is made that has no parent and refers to what there is. -/
theorem insert_evolves (hparent : n.details.parent = none)
    (hlinks : a.Coherent → ∀ q ∈ n.links, a.Offers q)
    (hlisted : a.Coherent → ∀ f, n.folder? = some f → ∀ e ∈ f.children, e.number < a.nodes.size) :
    a.Evolves (a.insert n).2 := by
  have hsize : a.nodes.size ≤ (a.insert n).2.nodes.size := by simp [insert]
  have hold : ∀ {s}, s.number < a.nodes.size → (a.insert n).2.node? s = a.node? s := by
    intro s hs
    rw [node?_insert, if_neg]
    rintro rfl
    exact Nat.lt_irrefl _ hs
  have hstored : ∀ e, (a.insert n).2.storedParent e = a.storedParent e := by
    intro e
    rw [storedParent, storedParent, node?_insert]
    split
    · next he =>
        rw [he, node?_fst_insert]
        exact hparent
    · rfl
  refine ⟨hsize, rfl, fun h => ⟨fun r m hm q hq => ?_, fun f e he => ?_, fun e p hp => ?_,
    fun e p hp => ?_⟩⟩
  · have hoffers : a.Offers q := by
      rw [node?_insert] at hm
      split at hm
      · obtain rfl := Option.some.inj hm
        exact hlinks h q hq
      · exact h.links r m hm q hq
    exact ⟨hoffers.1, Nat.lt_of_lt_of_le hoffers.2 hsize⟩
  · refine Nat.lt_of_lt_of_le ?_ hsize
    by_cases hf : f = (a.insert n).1
    · have hfolder : (a.insert n).2.folder? f = n.folder? := by
        rw [folder?_eq, node?_insert, if_pos hf]
        rfl
      rw [children, hfolder] at he
      cases hx : n.folder? with
      | none => rw [hx] at he; cases he
      | some x =>
          rw [hx] at he
          exact hlisted h x hx e he
    · rw [children, folder?_eq, node?_insert, if_neg hf, ← folder?_eq] at he
      exact h.listed f e he
  · rw [hstored] at hp
    exact Nat.lt_of_lt_of_le (h.allocated e p hp) hsize
  · rw [parent?_eq, hstored] at hp
    obtain ⟨hp, hcontains⟩ := Option.filter_eq_some_iff.mp hp
    have hnode := hold (h.allocated e p hp)
    rw [contains, hnode] at hcontains
    rw [scope, folder?_eq, hnode, ← folder?_eq]
    exact h.bound e p (by rw [parent?_eq]; exact Option.filter_eq_some_iff.mpr ⟨hp, hcontains⟩)

/-- An entity is filed anew: on lists stands what has been made, and parents are bound folders. -/
theorem Refiles.evolves {c : Refiling} (hr : a.Refiles b c)
    (hlist : a.Coherent → ∀ f l, ∀ e ∈ c.list f l, e ∈ l ∨ e.number < a.nodes.size)
    (hscope : a.Coherent → ∀ e p, a.parent? e = some p → c.scope p .bound = .bound)
    (hparent : ∀ e p t, c.parent e p = some t →
      p = some t ∨ ∃ x, a.folder? t = some x ∧ c.scope t (a.scope t) = .bound) :
    a.Evolves b := by
  refine ⟨Nat.le_of_eq hr.size.symm, hr.held, fun h => ⟨fun r m hm q hq => ?_, fun f e he => ?_,
    fun e p hp => ?_, fun e p hp => ?_⟩⟩
  · rw [hr.node] at hm
    obtain ⟨n, hn, rfl⟩ := Option.map_eq_some_iff.mp hm
    have hlinks : (c.node r n).links = n.links := by
      obtain ⟨d, body⟩ := n
      cases body <;> rfl
    rw [hlinks] at hq
    exact ⟨(h.links r n hn q hq).1, Nat.lt_of_lt_of_eq (h.links r n hn q hq).2 hr.size.symm⟩
  · rw [hr.size]
    obtain ⟨x, hx⟩ := folder?_of_mem_children he
    rw [hr.folder?] at hx
    obtain ⟨y, hy, -⟩ := Option.map_eq_some_iff.mp hx
    rw [hr.children_of_folder? hy] at he
    rcases hlist h f _ e he with he | he
    · exact h.listed f e he
    · exact he
  · rw [hr.size]
    rw [hr.storedParent] at hp
    split at hp
    · rcases hparent e _ p hp with hp | ⟨x, hx, -⟩
      · exact h.allocated e p hp
      · obtain ⟨n, hn, -⟩ := Option.bind_eq_some_iff.mp (folder?_eq a p ▸ hx)
        exact number_lt_of_contains (contains_iff.mpr ⟨n, hn⟩)
    · cases hp
  · rw [hr.parent?] at hp
    split at hp
    · obtain ⟨hp, hcontains⟩ := Option.filter_eq_some_iff.mp hp
      rcases hparent e _ p hp with hold | ⟨x, hx, hbound⟩
      · have hp : a.parent? e = some p := by
          rw [parent?_eq]
          exact Option.filter_eq_some_iff.mpr ⟨hold, hcontains⟩
        have hbound : a.scope p = .bound := h.bound e p hp
        have hstands : a.scope p ≠ .detached := by
          rw [hbound]
          exact nofun
        obtain ⟨x, hx⟩ := folder?_of_scope hstands
        rw [hr.scope_of_folder? hx, hbound]
        exact hscope h e p hp
      · exact (hr.scope_of_folder? hx).trans hbound
    · cases hp

theorem setParent_evolves {p : Option Ref} (hp : ∀ t, p = some t → a.scope t = .bound) :
    a.Evolves (a.setParent r p) := by
  refine (setParent_refiles a r p).evolves (fun _ _ _ _ he => Or.inl he) (fun _ _ _ _ => rfl)
    fun e q t ht => ?_
  dsimp only at ht
  split at ht
  · have hstands : a.scope t ≠ .detached := by
      rw [hp t ht]
      exact nofun
    obtain ⟨x, hx⟩ := folder?_of_scope hstands
    exact Or.inr ⟨x, hx, hp t ht⟩
  · exact Or.inl ht

theorem append_evolves {item : Ref} (hitem : item.number < a.nodes.size) :
    a.Evolves (a.append r item) := by
  refine (append_refiles a r item).evolves (fun _ f l e he => ?_) (fun _ _ _ _ => rfl)
    fun _ _ _ ht => Or.inl ht
  dsimp only at he
  split at he
  · rcases List.mem_append.mp he with he | he
    · exact Or.inl he
    · rw [List.mem_singleton.mp he]
      exact Or.inr hitem
  · exact Or.inl he

theorem forget_evolves (a : Atlas) (r item : Ref) : a.Evolves (a.forget r item) := by
  refine (forget_refiles a r item).evolves (fun _ f l e he => ?_) (fun _ _ _ _ => rfl)
    fun _ _ _ ht => Or.inl ht
  dsimp only at he
  split at he
  · exact Or.inl (List.mem_filter.mp he).1
  · exact Or.inl he

/-- A folder gets a scope: any, if it is nobody's parent yet, and else it stays or becomes bound. -/
theorem rebind_evolves {scope : Scope} (h : scope = .bound ∨ a.scope r = .detached) :
    a.Evolves (a.rebind r scope) := by
  have hparents : a.Coherent → ∀ e p, a.parent? e = some p → p = r → scope = .bound := by
    rintro ha e p hp rfl
    refine h.resolve_right fun hdetached => ?_
    rw [ha.bound e p hp] at hdetached
    cases hdetached
  by_cases hscope : scope = .detached
  · subst hscope
    refine (modifyFolder_refiles a r id fun _ => .detached).evolves (fun _ _ _ _ he => ?_)
      (fun ha e p hp => ?_) fun _ _ _ ht => Or.inl ht
    · exact Or.inl (by simpa using he)
    · dsimp only
      split
      · next hpr => exact hparents ha e p hp hpr
      · rfl
  · refine (rebind_refiles a r hscope).evolves (fun _ _ _ _ he => Or.inl he) (fun ha e p hp => ?_)
      fun e p t ht => ?_
    · dsimp only
      split
      · next hpr => exact hparents ha e p hp hpr
      · rfl
    · dsimp only at ht ⊢
      split at ht
      · next he =>
          cases scope with
          | bound =>
              obtain rfl : r = t := Option.some.inj ht
              obtain ⟨x, hx⟩ := folder?_of_mem_children he.1
              exact Or.inr ⟨x, hx, if_pos rfl⟩
          | _ => cases ht
      · exact Or.inl ht

theorem settle_evolves (a : Atlas) (r : Ref) : a.Evolves (a.settle r) := by
  unfold settle
  split
  · exact rebind_evolves (Or.inl rfl)
  · exact .refl a

theorem erase_evolves (a : Atlas) (r : Ref) : a.Evolves (a.erase r) := by
  refine ⟨Nat.le_of_eq (size_erase a r).symm, held_erase a r, fun h => ⟨fun s m hm q hq => ?_,
    fun f e he => ?_, fun e p hp => ?_, fun e p hp => ?_⟩⟩
  · rw [node?_erase] at hm
    split at hm
    · cases hm
    · exact ⟨(h.links s m hm q hq).1, (size_erase a r).symm ▸ (h.links s m hm q hq).2⟩
  · rw [children_erase] at he
    rw [size_erase]
    split at he
    · cases he
    · exact h.listed f e he
  · rw [storedParent_erase] at hp
    rw [size_erase]
    split at hp
    · cases hp
    · exact h.allocated e p hp
  · rw [parent?_eq, storedParent_erase] at hp
    split at hp
    · cases hp
    · obtain ⟨hp, hcontains⟩ := Option.filter_eq_some_iff.mp hp
      rw [contains_erase] at hcontains
      split at hcontains
      · cases hcontains
      · next hpr =>
          rw [scope_erase, if_neg hpr]
          refine h.bound e p ?_
          rw [parent?_eq]
          exact Option.filter_eq_some_iff.mpr ⟨hp, hcontains⟩

/-- An entity is changed, but neither its filing nor what it refers to, or only to what there is. -/
theorem modify_evolves {f : Node → Node} (hf : ∀ n, (f n).FiledAs n)
    (hlinks : ∀ n, ∀ q ∈ (f n).links, q ∈ n.links ∨ a.Offers q) : a.Evolves (a.modify r f) := by
  refine (modify_extends a r hf).evolves fun h s m hm q hq => ?_
  have hoffers : a.Offers q := by
    rw [node?_modify fun n => (hf n).kind] at hm
    split at hm
    · obtain ⟨n, hn, rfl⟩ := Option.map_eq_some_iff.mp hm
      exact (hlinks n q hq).elim (h.links r n hn q) id
    · exact h.links s m hm q hq
  exact ⟨hoffers.1, (size_modify a r f).symm ▸ hoffers.2⟩

/-! ## Assignments -/

theorem assign_evolves {name : String} {v : Value} (h : a.assign r name v = .ok b) :
    a.Evolves b := by
  cases hn : a.node? r with
  | none =>
      rw [assign_of_node?_eq_none hn] at h
      obtain rfl := Except.ok.inj h
      exact .refl a
  | some n =>
      obtain ⟨c, -, -, hwrites⟩ := assign_writes hn h
      have hx := assign_extends h
      refine hx.evolves fun ha s m hm q hq => ?_
      rcases hwrites.mem_links hm hq with ⟨l, hl, hq⟩ | ⟨-, hq, hcontains⟩
      · exact ⟨(ha.links s l hl q hq).1, Nat.lt_of_lt_of_le (ha.links s l hl q hq).2 hx.size⟩
      · exact ⟨by rw [hq]; rfl, number_lt_of_contains hcontains⟩

theorem assignAll_evolves (a : Atlas) (r : Ref) (fields : List (String × Value)) :
    a.Evolves (a.assignAll r fields).2 := by
  induction fields generalizing a with
  | nil => exact .refl a
  | cons field fields ih =>
      obtain ⟨name, v⟩ := field
      rw [assignAll]
      split
      · next x hx => exact (assign_evolves hx).trans (ih x)
      · exact .refl a

theorem update_evolves (a : Atlas) (r : Ref) (fields : Criteria) :
    a.Evolves (a.update r fields).2 := by
  rw [update_snd]
  exact assignAll_evolves a r fields.pairs

/-! ## Operations -/

/-- A new entity without anything refers to nothing. -/
theorem insert_empty_evolves (hfresh : n.Fresh) (hlinks : n.links = []) :
    a.Evolves (a.insert n).2 := by
  refine insert_evolves hfresh.parent (fun _ q hq => ?_) fun _ f hf e he => ?_
  · rw [hlinks] at hq
    cases hq
  · rw [hfresh.children f hf] at he
    cases he

theorem links_blank (k : Kind) : (Node.blank k).links = [] := by
  cases k <;> rfl

theorem links_unbound (k : Kind) : (unbound k).links = [] := by
  cases k <;> rfl

theorem draft_evolves (a : Atlas) (k : Kind) (fields : Criteria) :
    a.Evolves (a.draft k fields).2 := by
  rcases draft_cases a k fields with ⟨b, hb, hdraft⟩ | ⟨e, hdraft⟩
  · have hinsert : a.Evolves (a.insert (unbound k)).2 :=
      insert_empty_evolves (fresh_unbound k) (links_unbound k)
    have hassign := assignAll_evolves (a.insert (unbound k)).2 (a.insert (unbound k)).1 fields.pairs
    rw [hb] at hassign
    rw [hdraft]
    exact hinsert.trans hassign
  · rw [hdraft]
    exact .refl a

theorem drafts_evolves (a : Atlas) (k : Kind) (fields : List Criteria) :
    a.Evolves (a.drafts k fields).2 := by
  induction fields generalizing a with
  | nil => exact .refl a
  | cons c cs ih =>
      have hfirst := draft_evolves a k c
      rw [drafts]
      split
      · next e b hb => rwa [hb] at hfirst
      · next r b hb =>
          rw [hb] at hfirst
          have hrest := ih b
          split
          · exact .refl a
          · next rs x hx =>
              rw [hx] at hrest
              exact hfirst.trans hrest

variable {sh : Shelf}

theorem leave_evolves (a : Atlas) (item : Ref) (owner : Option Ref) :
    a.Evolves (a.leave item owner) := by
  unfold leave
  split
  · split
    · exact .refl a
    · exact forget_evolves a _ item
  · exact .refl a

theorem attach_evolves {item : Ref} (h : a.attach sh item = .ok b) : a.Evolves b := by
  by_cases hs : a.scope sh.folder = .detached
  · unfold attach at h
    rw [hs] at h
    obtain rfl := Except.ok.inj h
    exact .refl a
  · obtain ⟨-, -, rfl⟩ := (attach_eq_ok_iff hs).mp h
    refine (leave_evolves a item _).trans (setParent_evolves fun t ht => ?_)
    rw [(leave_refiles a item _).scope rfl]
    unfold owner at ht
    split at ht
    · next hbound => rw [← Option.some.inj ht]; exact hbound
    · cases ht

theorem addEach_evolves {items : List Ref} (hitems : ∀ i ∈ items, i.number < a.nodes.size) :
    a.Evolves (a.addEach sh items).2 := by
  induction items generalizing a with
  | nil => exact .refl a
  | cons i rest ih =>
      obtain ⟨hi, hrest⟩ := List.forall_mem_cons.mp hitems
      rw [addEach]
      split
      · exact ih hrest
      · split
        · next b hb =>
            have hattach := attach_evolves hb
            have happend : b.Evolves (b.append sh.folder i) := append_evolves (hattach.lt_size hi)
            have hone := hattach.trans happend
            exact hone.trans (ih fun j hj => hone.lt_size (hrest j hj))
        · exact .refl a

theorem removeEach_evolves (a : Atlas) (sh : Shelf) (items : List Ref) :
    a.Evolves (a.removeEach sh items).2 := by
  induction items generalizing a with
  | nil => exact .refl a
  | cons i rest ih =>
      rw [removeEach]
      split
      · refine (forget_evolves a sh.folder i).trans (Evolves.trans ?_ (ih _))
        unfold release
        split
        · split
          · exact setParent_evolves fun t ht => by cases ht
          · exact .refl _
        · exact .refl _
      · exact ih a

theorem create_evolves (a : Atlas) (sh : Shelf) (fields : Criteria) :
    a.Evolves (a.create sh fields).2 := by
  refine Evolves.holding (r := sh.folder) ?_
  have hinsert : (a.hold sh.folder).Evolves ((a.hold sh.folder).insert (.blank sh.kind)).2 :=
    insert_empty_evolves (Node.fresh_blank sh.kind) (links_blank sh.kind)
  have hnew : ((a.hold sh.folder).insert (.blank sh.kind)).1.number <
      ((a.hold sh.folder).insert (.blank sh.kind)).2.nodes.size := by
    simp [insert]
  generalize (a.hold sh.folder).insert (.blank sh.kind) = p at hinsert hnew ⊢
  obtain ⟨r, b⟩ := p
  have hupdate := update_evolves b r fields
  dsimp only at hnew ⊢
  split
  · exact .refl _
  · next x hx =>
      rw [hx] at hupdate
      split
      · exact .refl _
      · next y hy =>
          have hbuilt := hupdate.trans (attach_evolves hy)
          exact hinsert.trans (hbuilt.trans (append_evolves (hbuilt.lt_size hnew)))

theorem getOrCreate_evolves (a : Atlas) (sh : Shelf) (criteria : Criteria) :
    a.Evolves (a.getOrCreate sh criteria).2 := by
  have hcreate := create_evolves a sh criteria
  unfold getOrCreate
  generalize a.create sh criteria = p at hcreate ⊢
  obtain ⟨result, b⟩ := p
  cases result <;>
    · dsimp only
      split
      · exact .refl a
      · exact hcreate
      · exact hcreate
      · exact .refl a

theorem shelve_evolves (hr : r.number < a.nodes.size) : a.Evolves (a.shelve sh r).2 := by
  refine Evolves.holding (r := sh.folder) ?_
  have hsettle := settle_evolves (a.hold sh.folder) r
  have hadd : (a.hold sh.folder).Evolves (((a.hold sh.folder).settle r).addEach sh [r]).2 :=
    hsettle.trans (addEach_evolves (List.forall_mem_singleton.mpr (hsettle.lt_size hr)))
  split
  · next b hb => rwa [hb] at hadd
  · next e b hb =>
      rw [hb] at hadd
      exact hadd.trans (erase_evolves b r)

theorem place_evolves (a : Atlas) (t r : Ref) : a.Evolves (a.place t r) := by
  unfold place
  split
  · next hbound =>
      refine (settle_evolves a r).trans (setParent_evolves ?_)
      rintro _ ⟨⟩
      exact hbound
  · exact settle_evolves a r

theorem foldl_evolves {f : Atlas → Ref → Atlas} {rs : List Ref}
    (hf : ∀ (b : Atlas), ∀ r ∈ rs, a.nodes.size ≤ b.nodes.size → b.Evolves (f b r))
    (b : Atlas) (hb : a.nodes.size ≤ b.nodes.size) : b.Evolves (rs.foldl f b) := by
  induction rs generalizing b with
  | nil => exact .refl b
  | cons r rest ih =>
      have hone := hf b r List.mem_cons_self hb
      refine hone.trans (ih (fun b r hr => hf b r (List.mem_cons_of_mem _ hr)) (f b r) ?_)
      exact Nat.le_trans hb hone.size

theorem shelveAll_evolves {rs : List Ref} (hrs : ∀ r ∈ rs, r.number < a.nodes.size) :
    a.Evolves (a.shelveAll sh rs) := by
  rw [shelveAll_eq]
  refine Evolves.holding (r := sh.folder) ?_
  have hplace : (a.hold sh.folder).Evolves (rs.foldl (·.place sh.folder ·) (a.hold sh.folder)) :=
    foldl_evolves (a := a) (fun b r _ _ => place_evolves b sh.folder r) _ (Nat.le_refl _)
  refine hplace.trans (foldl_evolves (a := a) (fun b r hr hb => ?_) _ hplace.size)
  exact append_evolves (Nat.lt_of_lt_of_le (hrs r hr) hb)

theorem eraseStrays_evolves (a : Atlas) (kept : List Ref) (count : Nat) :
    a.Evolves (a.eraseStrays kept count) := by
  induction count generalizing a with
  | zero => exact .refl a
  | succ count ih =>
      rw [eraseStrays]
      split
      · next r _ => exact (erase_evolves a r).trans (ih _)
      · exact .refl a

theorem copy_evolves (a : Atlas) (r : Ref) : a.Evolves (((a.copy r).map (·.2)).getD a) := by
  unfold copy
  cases hn : a.node? r with
  | none => exact .refl a
  | some n =>
      refine insert_evolves rfl (fun h q hq => h.links r n hn q hq) fun h f hf e he => ?_
      refine h.listed r e ?_
      have hfolder : a.folder? r = some f := by
        rw [folder?_eq, hn]
        exact hf
      rw [children, hfolder]
      exact he

theorem coordinate_toValue (c : Coordinate) : Assigned.coordinate c.toValue = .ok c := by
  have hvalue : Coordinate.ofValue c.toValue = .ok c := Coordinate.of_eq_ok_iff.mpr ⟨rfl, rfl, rfl⟩
  rw [Assigned.coordinate, hvalue]
  rfl

/-- Moving a placemark is assigning its coordinates. -/
theorem movePlacemarkTo_eq_assign {d : Details} {p : Placemark}
    (hn : a.node? r = some ⟨d, .placemark p⟩) (c : Coordinate) :
    a.movePlacemarkTo r c = a.assign r "coordinates" c.toValue := by
  have hposition : Field.assignPlacemarkPosition a p c.toValue = a.movePlacemark p c := by
    rw [Field.assignPlacemarkPosition_of_ne_null (v := c.toValue) nofun, coordinate_toValue]
    rfl
  rw [movePlacemarkTo, assign, hn]
  dsimp only
  rw [Node.assign_coordinates, hposition]
  cases a.movePlacemark p c <;> rfl

theorem movePlacemarkTo_evolves (a : Atlas) (r : Ref) (c : Coordinate) :
    a.Evolves ((a.movePlacemarkTo r c).toOption.getD a) := by
  cases h : a.movePlacemarkTo r c with
  | error e => exact .refl a
  | ok b =>
      by_cases hp : ∃ d p, a.node? r = some ⟨d, .placemark p⟩
      · obtain ⟨d, p, hn⟩ := hp
        rw [movePlacemarkTo_eq_assign hn] at h
        exact assign_evolves h
      · unfold movePlacemarkTo at h
        split at h
        · next d p hn => exact absurd ⟨d, p, hn⟩ hp
        · obtain rfl := Except.ok.inj h
          exact .refl a

/-! ## Edits -/

end Atlas

/-- What there must be for an operation: entities that are handed to it exist, and one that is made
has no parent and refers to what exists. -/
def Operation.Fits (a : Atlas) : Operation → Prop
  | construct n =>
    n.details.parent = none ∧ (∀ q ∈ n.links, q.kind.isGeometry ∧ a.contains q) ∧
      ∀ f, n.folder? = some f → ∀ e ∈ f.children, a.contains e
  | insert _ value => a.contains value
  | bulkCreate _ values => ∀ r ∈ values, a.contains r
  | add _ items => ∀ i ∈ items, a.contains i
  | _ => True

/-- What there must be for an edit: as for operations; what is embedded is a geometry, and a folder
that gets another scope than a bound one is detached so far. -/
def Edit.Fits (a : Atlas) : Edit → Prop
  | operate op => op.Fits a
  | mount r scope => scope = .bound ∨ a.scope r = .detached
  | embed _ link | embedGroup _ link => ∀ q, link = some q → q.kind.isGeometry ∧ a.contains q
  | addMember _ q => q.kind.isGeometry ∧ a.contains q
  | _ => True

namespace Atlas

variable {a b : Atlas}

theorem run_evolves {op : Operation} (hop : op.Fits a) : a.Evolves (op.run a) := by
  cases op with
  | construct n =>
      obtain ⟨hparent, hlinks, hlisted⟩ := hop
      exact insert_evolves hparent
        (fun _ q hq => ⟨(hlinks q hq).1, number_lt_of_contains (hlinks q hq).2⟩)
        fun _ f hf e he => number_lt_of_contains (hlisted f hf e he)
  | draft k fields => exact draft_evolves a k fields
  | drafts k fields => exact drafts_evolves a k fields
  | assign r name v =>
      show a.Evolves ((a.assign r name v).toOption.getD a)
      cases h : a.assign r name v with
      | error e => exact .refl a
      | ok b => exact assign_evolves h
  | update r fields => exact update_evolves a r fields
  | create s fields => exact create_evolves a s fields
  | insert s r => exact shelve_evolves (number_lt_of_contains hop)
  | bulkCreate s rs => exact shelveAll_evolves fun r hr => number_lt_of_contains (hop r hr)
  | add s items =>
      exact Evolves.holding (addEach_evolves fun i hi => number_lt_of_contains (hop i hi))
  | remove s items => exact Evolves.holding (removeEach_evolves _ s items)
  | clear s => exact Evolves.holding (removeEach_evolves _ s (a.items s))
  | getOrCreate s criteria => exact getOrCreate_evolves a s criteria
  | drop kept => exact eraseStrays_evolves a kept a.nodes.size

/-- **Every edit keeps an atlas coherent.** -/
theorem edit_evolves {edit : Edit} (h : edit.Fits a) : a.Evolves (edit.run a) := by
  cases edit with
  | operate op => exact run_evolves h
  | mount r scope => exact rebind_evolves h
  | copy r => exact copy_evolves a r
  | movePlacemark r c => exact movePlacemarkTo_evolves a r c
  | embed r link =>
      refine modify_evolves ?_ ?_
      · rintro ⟨d, body⟩
        cases body <;> exact ⟨rfl, rfl, rfl⟩
      · rintro ⟨d, body⟩ q hq
        cases body with
        | placemark p =>
            rcases List.mem_append.mp hq with hq | hq
            · obtain ⟨hk, hcontains⟩ := h q (Option.mem_toList.mp hq)
              exact Or.inr ⟨hk, number_lt_of_contains hcontains⟩
            · exact Or.inl (List.mem_append_right _ hq)
        | _ => exact Or.inl hq
  | embedGroup r link =>
      refine modify_evolves ?_ ?_
      · rintro ⟨d, body⟩
        cases body <;> exact ⟨rfl, rfl, rfl⟩
      · rintro ⟨d, body⟩ q hq
        cases body with
        | placemark p =>
            rcases List.mem_append.mp hq with hq | hq
            · exact Or.inl (List.mem_append_left _ hq)
            · obtain ⟨hk, hcontains⟩ := h q (Option.mem_toList.mp hq)
              exact Or.inr ⟨hk, number_lt_of_contains hcontains⟩
        | _ => exact Or.inl hq
  | addMember r member =>
      refine modify_evolves ?_ ?_
      · rintro ⟨d, body⟩
        cases body <;> exact ⟨rfl, rfl, rfl⟩
      · rintro ⟨d, body⟩ q hq
        cases body with
        | multiGeometry m =>
            rcases List.mem_append.mp hq with hq | hq
            · exact Or.inl hq
            · rw [List.mem_singleton.mp hq]
              exact Or.inr ⟨h.1, number_lt_of_contains h.2⟩
        | _ => exact Or.inl hq
  | movePoint | setVertices | pushVertex | addHole =>
      -- only shapes change
      refine modify_evolves ?_ ?_
      · rintro ⟨d, body⟩
        cases body <;> exact ⟨rfl, rfl, rfl⟩
      · rintro ⟨d, body⟩ q hq
        cases body <;> exact Or.inl hq

/-! ## Runs -/

/-- Each edit of a run fits when it is its turn. -/
def Fits (a : Atlas) : List Edit → Prop
  | [] => True
  | e :: es => e.Fits a ∧ Fits (e.run a) es

/-- An entity without anything can always be made. -/
theorem fits_construct_blank (a : Atlas) (k : Kind) : Operation.Fits a (.construct (.blank k)) := by
  have hfresh := Node.fresh_blank k
  refine ⟨hfresh.parent, fun q hq => ?_, fun f hf e he => ?_⟩
  · rw [links_blank] at hq
    cases hq
  · rw [hfresh.children f hf] at he
    cases he

/-- The atlas at the end of a run is one of those that come up. -/
theorem foldl_run_mem_versions (a : Atlas) (edits : List Edit) :
    edits.foldl (fun a e => e.run a) a ∈ a.versions edits := by
  induction edits generalizing a with
  | nil => exact List.mem_cons_self
  | cons e es ih => exact List.mem_cons_of_mem _ (ih (e.run a))

theorem coherent_empty : Coherent {} where
  links r n hn := by simp [node?] at hn
  listed f e he := by simp [children, folder?, node?] at he
  allocated e p hp := by simp [storedParent, node?] at hp
  bound e p hp := by simp [parent?, node?] at hp

theorem coherent_of_mem_versions_of_coherent {edits : List Edit} (ha : a.Coherent)
    (hheld : a.held = []) (hfits : a.Fits edits) (hb : b ∈ a.versions edits) :
    b.Coherent ∧ b.held = [] := by
  induction edits generalizing a with
  | nil =>
      obtain rfl := List.mem_singleton.mp hb
      exact ⟨ha, hheld⟩
  | cons e es ih =>
      rcases List.mem_cons.mp hb with rfl | hb
      · exact ⟨ha, hheld⟩
      · have hone := edit_evolves hfits.1
        exact ih (hone.coherent ha) (hone.held.trans hheld) hfits.2 hb

/-- **All atlases of a run are coherent, and nobody is held between two edits.** -/
theorem coherent_of_mem_versions {edits : List Edit} (hfits : Fits {} edits)
    (hb : b ∈ versions {} edits) : b.Coherent ∧ b.held = [] :=
  coherent_of_mem_versions_of_coherent coherent_empty rfl hfits hb

end Atlas

end Gazetteer
