import Gazetteer.Proofs.Shelf

/-!
# New entities on shelves

A new entity is built before it is filed. Until then it is `Atlas.Unplaced`: listed nowhere and, if
it is a folder, standing nowhere (`draft_spec`, `drafts_spec`). Every way onto a shelf fills the
shelf with what no folder has listed before, be it created there (`create_fills`,
`getOrCreate_fills`), inserted (`shelve_fills`) or put there with others without any check
(`shelveAll_fills`).
-/

namespace Gazetteer

open Relation

namespace Atlas

variable {a b c : Atlas} {s : Shelf} {t : Ref} {new : Ref → Prop}

/-! ## New entities -/

/-- A value that has just been built: it is listed nowhere, and if it is a folder it stands nowhere
and so lists nothing. -/
structure Unplaced (a : Atlas) (k : Kind) (r : Ref) : Prop where
  contains : a.contains r
  kind : r.kind = k
  scope : a.scope r = .detached
  parent : a.storedParent r = none
  unlisted : a.Unlisted r

theorem Unplaced.children {k : Kind} {r : Ref} (hr : a.Unplaced k r) (h : a.Filed) :
    a.children r = [] :=
  h.detached r hr.scope

theorem Unplaced.ne_of_scope {k : Kind} {r : Ref} (hr : a.Unplaced k r)
    (ht : a.scope t ≠ .detached) : r ≠ t := fun hrt => ht (hrt ▸ hr.scope)

theorem Unplaced.hold {k : Kind} {r : Ref} (hr : a.Unplaced k r) (t : Ref) :
    (a.hold t).Unplaced k r :=
  ⟨hr.contains, hr.kind, hr.scope, hr.parent, hr.unlisted⟩

theorem Unplaced.extend {k : Kind} {r : Ref} (hr : a.Unplaced k r) (hx : a.Extends b) :
    b.Unplaced k r where
  contains := hx.contains hr.contains
  kind := hr.kind
  scope := (hx.scope hr.contains).trans hr.scope
  parent := (hx.storedParent r).trans hr.parent
  unlisted f := hx.children f ▸ hr.unlisted f

/-- The folders of an atlas list what exists. -/
theorem Filed.unlisted (h : a.Filed) {r : Ref} (hr : a.node? r = none) : a.Unlisted r := by
  intro f hf
  obtain ⟨n, hn⟩ := contains_iff.mp (h.listed f r hf)
  rw [hr] at hn
  cases hn

theorem insert_unplaced (h : a.Filed) {n : Node} (hn : n.Fresh)
    (hscope : ∀ f, n.folder? = some f → f.scope = .detached) :
    (a.insert n).2.Unplaced n.kind (a.insert n).1 := by
  have hnode := (node?_insert a n (a.insert n).1).trans (if_pos rfl)
  refine ⟨contains_iff.mpr ⟨n, hnode⟩, rfl, ?_, ?_, fun f => ?_⟩
  · simp only [Atlas.scope, folder?_eq, hnode, Option.bind_some]
    split
    · next f hf => exact hscope f hf
    · rfl
  · rw [storedParent, hnode]
    exact hn.parent
  · rw [(insert_extends a hn).children]
    exact h.unlisted (node?_fst_insert a n) f

/-- What a value is before any field of it is assigned. -/
def unbound : Kind → Node
  | .folder => { body := .folder { scope := .detached } }
  | k => .blank k

theorem kind_unbound (k : Kind) : (unbound k).kind = k := by
  cases k <;> rfl

theorem fresh_unbound (k : Kind) : (unbound k).Fresh := by
  cases k with
  | folder => exact ⟨rfl, by rintro f ⟨⟩; rfl, by rintro f ⟨⟩; decide⟩
  | _ => exact Node.fresh_blank _

theorem scope_of_unbound {k : Kind} {f : Folder} (hf : (unbound k).folder? = some f) :
    f.scope = .detached := by
  cases k <;> cases hf
  rfl

/-- A value is built if all its fields can be assigned, and otherwise nothing happens. -/
theorem draft_cases (a : Atlas) (k : Kind) (fields : Criteria) :
    (∃ b, (a.insert (unbound k)).2.assignAll (a.insert (unbound k)).1 fields.pairs = (.ok (), b) ∧
      a.draft k fields = (.ok (a.insert (unbound k)).1, b)) ∨
    ∃ e, a.draft k fields = (.error e, a) := by
  unfold draft
  dsimp only
  split
  · next b hb => exact .inl ⟨b, by cases k <;> exact hb, by cases k <;> rfl⟩
  · next e b hb => exact .inr ⟨e, rfl⟩

/-- A value that is built from fields is new and placed nowhere. -/
theorem draft_spec (k : Kind) (fields : Criteria) (h : a.Filed) :
    a.Extends (a.draft k fields).2 ∧
      ∀ r, (a.draft k fields).1 = .ok r → a.node? r = none ∧ (a.draft k fields).2.Unplaced k r := by
  rcases draft_cases a k fields with ⟨b, hb, hdraft⟩ | ⟨e, hdraft⟩
  · have hinsert := insert_extends a (fresh_unbound k)
    have hassign := assignAll_extends (a.insert (unbound k)).2 (a.insert (unbound k)).1 fields.pairs
    rw [hb] at hassign
    rw [hdraft]
    refine ⟨hinsert.trans hassign, fun r hr => ?_⟩
    cases hr
    have hunplaced := insert_unplaced h (fresh_unbound k) fun f => scope_of_unbound
    rw [kind_unbound] at hunplaced
    exact ⟨node?_fst_insert a (unbound k), hunplaced.extend hassign⟩
  · rw [hdraft]
    exact ⟨.refl a, fun r hr => by cases hr⟩

/-- Several values that are built together are all new, placed nowhere and no two of them one. -/
theorem drafts_spec (k : Kind) (fields : List Criteria) (h : a.Filed) :
    a.Extends (a.drafts k fields).2 ∧ ∀ rs, (a.drafts k fields).1 = .ok rs →
      rs.Nodup ∧ ∀ r ∈ rs, a.node? r = none ∧ (a.drafts k fields).2.Unplaced k r := by
  induction fields generalizing a with
  | nil =>
      refine ⟨.refl a, fun rs hrs => ?_⟩
      obtain rfl : [] = rs := by simpa [drafts] using hrs
      simp
  | cons c cs ih =>
      obtain ⟨hx, hr⟩ := draft_spec k c h
      rw [drafts]
      split
      · next e b hb =>
          rw [hb] at hx
          exact ⟨hx, fun rs hrs => by cases hrs⟩
      · next r b hb =>
          rw [hb] at hx hr
          obtain ⟨hnew, hunplaced⟩ := hr r rfl
          obtain ⟨hx', hrs'⟩ := ih (h.extend hx)
          split
          · exact ⟨.refl a, fun rs hrs => by cases hrs⟩
          · next rs' b' hb' =>
              rw [hb'] at hx' hrs'
              obtain ⟨hnodup, hmem⟩ := hrs' rs' rfl
              refine ⟨hx.trans hx', fun rs hrs => ?_⟩
              obtain rfl : r :: rs' = rs := by simpa using hrs
              have hfresh : ∀ q ∈ rs', a.node? q = none := by
                intro q hq
                cases hn : a.node? q with
                | none => rfl
                | some n =>
                    obtain ⟨m, hm, -⟩ := hx.old q n hn
                    rw [(hmem q hq).1] at hm
                    cases hm
              refine ⟨List.nodup_cons.mpr ⟨fun hr => ?_, hnodup⟩, ?_⟩
              · obtain ⟨n, hn⟩ := contains_iff.mp hunplaced.contains
                rw [(hmem r hr).1] at hn
                cases hn
              · rintro q hq
                rcases List.mem_cons.mp hq with rfl | hq
                · exact ⟨hnew, hunplaced.extend hx'⟩
                · exact ⟨hfresh q hq, (hmem q hq).2⟩

/-- Creating an entity fills the shelf. -/
theorem create_fills (fields : Criteria) (h : a.Filed) (hheld : a.held = [])
    (hs : a.scope s.folder ≠ .detached) : a.Fills s.folder a.Unlisted (a.create s fields).2 := by
  refine Fills.holding ?_
  have hfiled : (a.hold s.folder).Filed := h.of_nodes rfl
  have hinsert := insert_extends (a.hold s.folder) (Node.fresh_blank s.kind)
  have hnew := node?_fst_insert (a.hold s.folder) (.blank s.kind)
  have hself := node?_insert (a.hold s.folder) (.blank s.kind)
    ((a.hold s.folder).insert (.blank s.kind)).1
  generalize (a.hold s.folder).insert (.blank s.kind) = p at hinsert hnew hself ⊢
  obtain ⟨r, b⟩ := p
  have hupdate := update_extends b r fields
  dsimp only
  split
  · exact Fills.refl hfiled s.folder _
  · next c hc =>
      rw [hc] at hupdate
      split
      · exact Fills.refl hfiled s.folder _
      · next d hd =>
          have hx := hinsert.trans hupdate
          have hfill : (a.hold s.folder).Fills s.folder (a.hold s.folder).Unlisted c :=
            Fills.of_extends hfiled hx hs
          have hr : c.contains r :=
            hupdate.contains (contains_iff.mpr ⟨_, hself.trans (if_pos rfl)⟩)
          have hunlisted : (a.hold s.folder).Unlisted r := hfiled.unlisted hnew
          have hcheld : c.held = [s.folder] := hx.held.trans (by simp [hold, hheld])
          have hcs : c.scope s.folder ≠ .detached := hfill.target ▸ hs
          have hadopt := adopts_of_attach hfill.filed hcheld hcs hr
            (hx.children s.folder ▸ hunlisted s.folder) hd
          exact hfill.trans (Fills.of_adopts hfill.filed (attach_append_refiles hcs hd).held hadopt
            (by simpa using hunlisted))

/-- Fetching an entity or creating one fills the shelf. -/
theorem getOrCreate_fills (criteria : Criteria) (h : a.Filed) (hheld : a.held = [])
    (hs : a.scope s.folder ≠ .detached) :
    a.Fills s.folder a.Unlisted (a.getOrCreate s criteria).2 := by
  have hcreate := create_fills criteria h hheld hs
  unfold getOrCreate
  generalize a.create s criteria = p at hcreate ⊢
  obtain ⟨result, b⟩ := p
  cases result <;>
    · dsimp only
      split
      · exact Fills.refl h s.folder _
      · exact hcreate
      · exact hcreate
      · exact Fills.refl h s.folder _

/-- A folder that lists no folder may go below any other one. -/
theorem checkAdoption_of_childrenOf_eq_nil {r : Ref} (h : a.childrenOf r .folder = []) :
    a.checkAdoption t r = .ok () := by
  have hbelow : (a.hold r).foldersBelow r = [] := by
    rw [foldersBelow, show (a.hold r).childrenOf r .folder = [] from h, List.reverse_nil,
      Walk.depthFirst_nil]
  unfold checkAdoption
  split
  · dsimp only
    rw [hbelow, List.find?_nil]
  · rfl

/-- An entity without children is taken in if it is not the target itself. -/
theorem addEach_singleton_eq_ok {r : Ref} (hheld : a.held = [s.folder])
    (hs : a.scope s.folder ≠ .detached) (hne : r ≠ s.folder) (hnil : a.children r = []) :
    (a.addEach s [r]).1 = .ok () := by
  have hfree := (isHeld_eq_false_iff hheld).mpr hne
  have hnone : a.childrenOf r .folder = [] := by rw [childrenOf, hnil, List.filter_nil]
  have hattach := (attach_eq_ok_iff hs).mpr ⟨hfree, checkAdoption_of_childrenOf_eq_nil hnone, rfl⟩
  simp only [addEach, hattach]
  split <;> rfl

/-- The scope of a folder that has just been built may be set. -/
theorem settle_fills {k : Kind} {r : Ref} (h : a.Filed) (hr : a.Unplaced k r)
    (ht : a.scope t ≠ .detached) : a.Fills t new (a.settle r) := by
  have hnil := hr.children h
  have hx := settle_refiles_of_children_eq_nil hnil
  have hsubset : ∀ f, (a.settle r).children f ⊆ a.children f ∧
      a.children f ⊆ (a.settle r).children f := by
    intro f
    rw [children_settle]
    exact ⟨List.Subset.refl _, List.Subset.refl _⟩
  refine ⟨h.settle hnil, hx.held, fun e he => (hx.contains e).trans he,
    scope_settle_of_ne a (hr.ne_of_scope ht).symm, fun g => ?_, fun f _ => (hsubset f).1,
    fun g _ => (hsubset g).2, fun e => Or.inl (hx.parent?_eq_self fun _ => rfl),
    fun e he hne => absurd ((hsubset t).1 he) hne⟩
  by_cases hg : g = r
  · subst hg
    refine iff_of_false (fun hroot => ?_) (by simp [hr.scope])
    cases hf : a.folder? g <;> simp [scope, hx.folder? g, hf] at hroot
  · rw [scope_settle_of_ne a hg]

/-- Inserting a value fills the shelf: it is never refused. -/
theorem shelve_fills {r : Ref} (h : a.Filed) (hheld : a.held = [])
    (hs : a.scope s.folder ≠ .detached) (hr : a.Unplaced s.kind r) :
    (a.shelve s r).1 = .ok r ∧ a.Fills s.folder a.Unlisted (a.shelve s r).2 := by
  have hfiled : (a.hold s.folder).Filed := h.of_nodes rfl
  have hr' := hr.hold s.folder
  have hnil := hr'.children hfiled
  have hfill : (a.hold s.folder).Fills s.folder a.Unlisted ((a.hold s.folder).settle r) :=
    settle_fills hfiled hr' hs
  have hbheld : ((a.hold s.folder).settle r).held = [s.folder] :=
    hfill.held.trans (by simp [hold, hheld])
  have hbs : ((a.hold s.folder).settle r).scope s.folder ≠ .detached := hfill.target ▸ hs
  have hitem : ∀ i ∈ [r], ((a.hold s.folder).settle r).contains i ∧ i.kind = s.kind :=
    List.forall_mem_singleton.mpr ⟨hfill.contains r hr.contains, hr.kind⟩
  have hadd := addEach_fills hfill.filed hbheld hbs hitem
    (List.forall_mem_singleton.mpr hr.unlisted)
  have hok := addEach_singleton_eq_ok hbheld hbs (hr.ne_of_scope hs)
    ((children_settle _ r r).trans hnil)
  unfold shelve
  generalize hb : ((a.hold s.folder).settle r).addEach s [r] = p at hadd hok
  obtain ⟨result, b⟩ := p
  obtain rfl : result = .ok () := hok
  refine ⟨by simp [Atlas.holding, hb], Fills.holding ?_⟩
  simp only [hb]
  exact hfill.trans hadd

/-! ## Several new entities at once -/

/-- One of several values gets its scope and its owner. -/
def place (a : Atlas) (t r : Ref) : Atlas :=
  match (a.settle r).scope t with
  | .bound => (a.settle r).setParent r (some t)
  | _ => a.settle r

theorem shelveAll_eq (a : Atlas) (s : Shelf) (rs : List Ref) :
    a.shelveAll s rs = (a.holding s.folder fun a =>
      ((), rs.foldl (·.append s.folder ·) (rs.foldl (·.place s.folder ·) a))).2 := rfl

/-- The parent of an entity after one of several values has got its place. -/
def placement (a : Atlas) (t q e : Ref) (p : Option Ref) : Option Ref :=
  if e = q ∧ a.scope t = .bound then some t
  else if e ∈ a.children q ∧ a.isHeld e = false then some q
  else p

theorem place_refiles {r : Ref} (hrt : r ≠ t) :
    a.Refiles (a.place t r)
      { parent := a.placement t r
        scope := fun f x => if f = r then .bound else x } := by
  have hsettle := settle_refiles a r
  unfold place
  rw [scope_settle_of_ne a hrt.symm]
  cases hscope : a.scope t with
  | bound =>
      refine (hsettle.trans (setParent_refiles _ r (some t))).congr (fun e p => ?_)
        (fun _ _ => rfl) fun _ _ => rfl
      simp [Refiling.andThen, placement, hscope]
  | root => exact hsettle.congr (by simp [placement, hscope]) (fun _ _ => rfl) fun _ _ => rfl
  | detached => exact hsettle.congr (by simp [placement, hscope]) (fun _ _ => rfl) fun _ _ => rfl

/-- Each of several values in turn takes its children over from those before. -/
theorem foldl_place_refiles {rs : List Ref} (hrs : ∀ r ∈ rs, r ≠ t) :
    a.Refiles (rs.foldl (·.place t ·) a)
      { parent := fun e p => rs.foldl (fun p r => a.placement t r e p) p
        scope := fun f x => if f ∈ rs then .bound else x } := by
  induction rs generalizing a with
  | nil => exact (Refiles.refl a).congr (fun _ _ => rfl) (fun _ _ => rfl) (by simp)
  | cons r rest ih =>
      obtain ⟨hrt, hrest⟩ := List.forall_mem_cons.mp hrs
      have hplace : a.Refiles (a.place t r) _ := place_refiles hrt
      have hscope : (a.place t r).scope t = a.scope t :=
        (hplace.scope (if_neg hrt.symm)).trans (if_neg hrt.symm)
      have hplacement : (a.place t r).placement t = a.placement t := by
        funext q e p
        rw [placement, placement, hscope, hplace.children rfl, isHeld, hplace.held]
        rfl
      refine (hplace.trans (ih hrest)).congr (fun e p => ?_) (fun _ _ => rfl) fun f x => ?_
      · simp [Refiling.andThen, hplacement]
      · by_cases hf : f = r <;> simp [Refiling.andThen, hf]

/-- Without children each value gets its owner and is nobody's parent. -/
theorem foldl_placement_of_children_eq_nil {rs : List Ref} (hrs : ∀ r ∈ rs, a.children r = [])
    (e : Ref) (p : Option Ref) :
    rs.foldl (fun p r => a.placement t r e p) p =
      if e ∈ rs ∧ a.scope t = .bound then some t else p := by
  induction rs generalizing p with
  | nil => simp
  | cons r rest ih =>
      obtain ⟨hr, hrest⟩ := List.forall_mem_cons.mp hrs
      rw [List.foldl_cons, ih hrest]
      by_cases he : e = r <;> by_cases hb : a.scope t = .bound <;> simp [placement, hr, he, hb]

theorem foldl_place_refiles_of_children_eq_nil {rs : List Ref}
    (hrs : ∀ r ∈ rs, a.children r = [] ∧ r ≠ t) :
    a.Refiles (rs.foldl (·.place t ·) a)
      { parent := fun e p => if e ∈ rs ∧ a.scope t = .bound then some t else p
        scope := fun f x => if f ∈ rs then .bound else x } :=
  (foldl_place_refiles fun r hr => (hrs r hr).2).congr
    (foldl_placement_of_children_eq_nil fun r hr => (hrs r hr).1) (fun _ _ => rfl) fun _ _ => rfl

theorem foldl_append_refiles (a : Atlas) (t : Ref) (rs : List Ref) :
    a.Refiles (rs.foldl (·.append t ·) a)
      { list := fun f l => if f = t then l ++ rs else l } := by
  induction rs generalizing a with
  | nil => exact (Refiles.refl a).congr (fun _ _ => rfl) (by simp) fun _ _ => rfl
  | cons r rest ih =>
      refine ((append_refiles a t r).trans (ih (a.append t r))).congr (fun _ _ => rfl)
        (fun f l => ?_) fun _ _ => rfl
      by_cases hf : f = t <;> simp [Refiling.andThen, hf]

/-- Putting values on a shelf without any check fills it. -/
theorem shelveAll_fills {rs : List Ref} (h : a.Filed) (hs : a.scope s.folder ≠ .detached)
    (hrs : ∀ r ∈ rs, a.Unplaced s.kind r) (hnodup : rs.Nodup) :
    a.Fills s.folder a.Unlisted (a.shelveAll s rs) := by
  rw [shelveAll_eq]
  refine Fills.holding ?_
  have hfiled : (a.hold s.folder).Filed := h.of_nodes rfl
  have hs' : (a.hold s.folder).scope s.folder ≠ .detached := hs
  have hrs' : ∀ r ∈ rs, (a.hold s.folder).Unplaced s.kind r := fun r hr => (hrs r hr).hold s.folder
  show (a.hold s.folder).Fills s.folder (a.hold s.folder).Unlisted _
  generalize a.hold s.folder = a at hfiled hs' hrs' ⊢
  have hne : ∀ r ∈ rs, r ≠ s.folder := fun r hr => (hrs' r hr).ne_of_scope hs'
  have hplace := foldl_place_refiles_of_children_eq_nil fun r hr =>
    ⟨(hrs' r hr).children hfiled, hne r hr⟩
  have hx := hplace.trans (foldl_append_refiles (rs.foldl (·.place s.folder ·) a) s.folder rs)
  generalize rs.foldl (·.append s.folder ·) (rs.foldl (·.place s.folder ·) a) = b at hx ⊢
  suffices hadopt : a.Adopts s.folder rs b from
    Fills.of_adopts hfiled hx.held hadopt fun r hr => (hrs' r hr).unlisted
  refine ⟨hs', fun r hr => ?_, hnodup, ?_, hx.contains, hx.size, fun e p hp => ?_, fun f => ?_,
    fun f => ?_, fun e => ?_⟩
  · exact ⟨(hrs' r hr).contains, (hrs' r hr).unlisted s.folder⟩
  · -- nothing is below a new folder
    intro r hr _ hpath
    rcases ReflTransGen.cases_head hpath with hrt | ⟨g, hg, -⟩
    · exact hne r hr hrt
    · simpa [(hrs' r hr).children hfiled] using (nests_iff.mp hg).1
  · rw [hx.storedParent] at hp
    split at hp
    · dsimp only [Refiling.andThen] at hp
      split at hp
      · exact Or.inr (Option.some.inj hp).symm
      · exact Or.inl hp
    · cases hp
  · by_cases hf : f ∈ rs
    · cases hfolder : a.folder? f with
      | none => exact Or.inl (by simp [scope, hx.folder? f, hfolder])
      | some x =>
          refine Or.inr ⟨hne f hf, (hrs' f hf).children hfiled, by simp [(hrs' f hf).scope], ?_⟩
          simp [scope, hx.folder? f, hfolder, Refiling.andThen, hf]
    · exact Or.inl ((hx.scope (if_neg hf)).trans (if_neg hf))
  · by_cases hf : f = s.folder
    · obtain ⟨x, hx'⟩ := folder?_of_scope hs'
      subst hf
      rw [hx.children_of_folder? hx', if_pos rfl]
      simp [Refiling.andThen]
    · rw [hx.children (by simp [Refiling.andThen, hf]), if_neg hf]
      have hunlisted : (a.children f).filter (· ∉ rs) = a.children f := by
        rw [List.filter_eq_self]
        intro e he
        simpa using fun her : e ∈ rs => (hrs' e her).unlisted f he
      rw [hunlisted, ite_self]
      simp [Refiling.andThen, hf]
  · by_cases he : e ∈ rs
    · rw [hx.parent?, if_pos (hrs' e he).contains, if_pos he]
      by_cases hbound : a.scope s.folder = .bound
      · simp [Refiling.andThen, he, hbound, owner, contains_of_scope hs']
      · simp [Refiling.andThen, hbound, owner, (hrs' e he).parent]
    · rw [if_neg he]
      exact hx.parent?_eq_self fun p => if_neg fun h => he h.1

end Atlas

end Gazetteer
