import Gazetteer.Proofs.Adoption
import Gazetteer.Proofs.Coherence
import Gazetteer.Proofs.Reading

/-!
# What a refused call leaves behind

Creating an entity works on a new one until nothing can be refused any more, so that an error leaves
the atlas as it was. Inserting a value does not: the value becomes the parent of its children before
the shelf can refuse it, and then it is gone. `Atlas.refused_calls` says what is left of the
children.
-/

namespace Gazetteer

open Relation

/-- A search for one entity has found none or several. -/
def Error.Misses : Error → Prop
  | .notFound .. | .multipleReturned .. => True
  | _ => False

namespace Atlas

variable {a b : Atlas} {s : Shelf} {r : Ref} {e : Error} {criteria : Criteria}

/-! ## New entities -/

/-- What an entity is created from: the atlas with a blank one, while the folder is changed. -/
def blankOn (a : Atlas) (s : Shelf) : Ref × Atlas := (a.hold s.folder).insert (.blank s.kind)

/-- An entity is created if it can be updated and attached, and otherwise nothing happens. -/
theorem create_cases (a : Atlas) (s : Shelf) (fields : Criteria) :
    (∃ x y, (a.blankOn s).2.update (a.blankOn s).1 fields = (.ok (), x) ∧
      x.attach s (a.blankOn s).1 = .ok y ∧
      a.create s fields =
        (.ok (a.blankOn s).1, (y.append s.folder (a.blankOn s).1).withUseOf a)) ∨
    ∃ e, a.create s fields = (.error e, a) := by
  unfold create holding blankOn
  dsimp only
  generalize (a.hold s.folder).insert (.blank s.kind) = p
  cases hupdate : p.2.update p.1 fields with
  | mk result x =>
      cases result with
      | error e => exact Or.inr ⟨e, rfl⟩
      | ok _ =>
          dsimp only
          cases hattach : x.attach s p.1 with
          | error e => exact Or.inr ⟨e, rfl⟩
          | ok y => exact Or.inl ⟨x, y, rfl, hattach, rfl⟩

theorem isHidden_create (a : Atlas) (s : Shelf) (fields : Criteria) (q : Ref) :
    (a.create s fields).2.isHidden q = a.isHidden q := by
  rcases create_cases a s fields with ⟨x, y, -, -, hcreate⟩ | ⟨e, hcreate⟩
  · rw [hcreate]
    rfl
  · rw [hcreate]

theorem create_eq_error {fields : Criteria} (h : (a.create s fields).1 = .error e) :
    (a.create s fields).2 = a := by
  rcases create_cases a s fields with ⟨x, y, -, -, hcreate⟩ | ⟨e, hcreate⟩
  · rw [hcreate] at h
    cases h
  · rw [hcreate]

/-- The search of a shelf that gets an entity or creates one. -/
def search (a : Atlas) (s : Shelf) (criteria : Criteria) : Except Error Ref :=
  (a.selectShelf s).get (a.hold s.folder) criteria

theorem getOrCreate_of_found (h : a.search s criteria = .ok r) :
    a.getOrCreate s criteria = (.ok (r, false), a) := by
  unfold search at h
  unfold getOrCreate
  rw [h]

theorem getOrCreate_of_missed (h : a.search s criteria = .error e) (he : e.Misses) :
    a.getOrCreate s criteria =
      ((a.create s criteria).1.map (·, true), (a.create s criteria).2) := by
  unfold search at h
  unfold getOrCreate
  rw [h]
  cases e with
  | notFound k c =>
      dsimp only
      cases a.create s criteria with
      | mk result b => cases result <;> rfl
  | multipleReturned k n c =>
      dsimp only
      cases a.create s criteria with
      | mk result b => cases result <;> rfl
  | _ => exact he.elim

theorem getOrCreate_of_malformed (h : a.search s criteria = .error e) (he : ¬e.Misses) :
    a.getOrCreate s criteria = (.error e, a) := by
  unfold search at h
  unfold getOrCreate
  rw [h]
  cases e with
  | notFound k c => exact absurd trivial he
  | multipleReturned k n c => exact absurd trivial he
  | _ => rfl

theorem getOrCreate_eq_error (h : (a.getOrCreate s criteria).1 = .error e) :
    (a.getOrCreate s criteria).2 = a := by
  cases hsearch : a.search s criteria with
  | ok r => rw [getOrCreate_of_found hsearch]
  | error e' =>
      by_cases he : e'.Misses
      · rw [getOrCreate_of_missed hsearch he] at h ⊢
        rcases create_cases a s criteria with ⟨x, y, -, -, hcreate⟩ | ⟨e, hcreate⟩
        · rw [hcreate] at h
          cases h
        · rw [hcreate]
      · rw [getOrCreate_of_malformed hsearch he]

theorem node?_blankOn_self (a : Atlas) (s : Shelf) :
    (a.blankOn s).2.node? (a.blankOn s).1 = some (.blank s.kind) :=
  (node?_insert (a.hold s.folder) (.blank s.kind) _).trans (if_pos rfl)

/-- The work on a new entity changes no other one. -/
theorem node?_update_blankOn (s : Shelf) (fields : Criteria) {q : Ref}
    (hq : q.number < a.nodes.size) :
    ((a.blankOn s).2.update (a.blankOn s).1 fields).2.node? q = a.node? q := by
  have hne : q ≠ (a.blankOn s).1 := by
    rintro rfl
    exact Nat.lt_irrefl _ hq
  have hlt : q.number < (a.blankOn s).2.nodes.size := by
    rw [blankOn, insert, Array.size_push]
    exact Nat.lt_succ_of_lt hq
  rw [update_snd, node?_assignAll hlt hne fun n hn => ?_]
  · exact (node?_insert (a.hold s.folder) (.blank s.kind) q).trans (if_neg hne)
  · obtain rfl := Option.some.inj ((node?_blankOn_self a s).symm.trans hn)
    rw [links_blank]
    exact List.not_mem_nil

/-! ## Values -/

/-- Nobody lists the entity, and it is nobody's parent. -/
structure Loose (a : Atlas) (r : Ref) : Prop where
  contains : a.contains r
  unlisted : a.Unlisted r
  childless : ∀ e, a.parent? e ≠ some r

theorem loose_iff : a.Loose r ↔
    a.contains r ∧ ∀ e ∈ a.refs, r ∉ a.children e ∧ a.parent? e ≠ some r := by
  refine ⟨fun h => ⟨h.contains, fun e _ => ⟨h.unlisted e, h.childless e⟩⟩, fun ⟨hr, h⟩ => ?_⟩
  -- only what there is lists anything or has a parent
  refine ⟨hr, fun f hf => (h f (mem_refs_of_mem_children hf)).1 hf, fun e he => ?_⟩
  refine (h e (mem_refs_iff.mpr ?_)).2 he
  unfold parent? at he
  split at he
  · next n hn => exact ⟨n, hn⟩
  · cases he

instance : Decidable (a.Loose r) := decidable_of_iff _ loose_iff.symm

/-- What is left when the folder `t` has refused a value: its children have got it for a parent, all
but `t`, and it is gone. -/
def abandon (a : Atlas) (t r : Ref) : Atlas :=
  (((a.hold t).settle r).erase r).withUseOf a

variable {t q : Ref}

/-- What nobody lists is not below anything. -/
theorem not_transGen_of_unlisted (h : a.Unlisted r) (f : Ref) : ¬TransGen a.Nests f r := by
  intro hpath
  obtain ⟨g, -, hg⟩ := TransGen.tail'_iff.mp hpath
  exact h g (nests_iff.mp hg).1

/-- Only folders lead anywhere. -/
theorem kind_of_leads {f : Ref} (h : TransGen a.Nests r f) : r.kind = .folder := by
  obtain ⟨g, hg, -⟩ := TransGen.head'_iff.mp h
  obtain ⟨x, hx⟩ := folder?_of_mem_children (nests_iff.mp hg).1
  exact kind_of_folder? hx

theorem nests_settle (a : Atlas) (t r : Ref) : ((a.hold t).settle r).Nests = a.Nests := by
  funext f g
  rw [Nests, Nests, childrenOf, children_settle]
  rfl

/-- A shelf refuses a value that leads to its folder, and takes in any other one. -/
theorem shelve_cases (hr : a.Loose r) (hne : r ≠ s.folder) (hheld : a.held = []) :
    (a.scope s.folder ≠ .detached ∧ TransGen a.Nests r s.folder) ∧
      a.shelve s r =
        (.error (.validation (some "folders") .ownDescendant), a.abandon s.folder r) ∨
    ¬(a.scope s.folder ≠ .detached ∧ TransGen a.Nests r s.folder) ∧
      (a.shelve s r).1 = .ok r := by
  have hz : ((a.hold s.folder).settle r).held = [s.folder] :=
    (settle_refiles _ r).held.trans (congrArg (s.folder :: ·) hheld)
  have hscope : ((a.hold s.folder).settle r).scope s.folder = a.scope s.folder :=
    scope_settle_of_ne (a.hold s.folder) hne.symm
  have habsent : r ∉ ((a.hold s.folder).settle r).items s := by
    intro hmem
    have hlisted := (mem_items_iff.mp hmem).1
    rw [children_settle] at hlisted
    exact hr.unlisted s.folder hlisted
  -- a search below the value meets no hidden folder but that of the shelf
  have hself := not_transGen_of_unlisted hr.unlisted r
  rw [← nests_settle a s.folder r] at hself ⊢
  unfold shelve holding abandon
  dsimp only
  generalize (a.hold s.folder).settle r = z at hz hscope habsent hself
  have hok : ∀ {b}, z.attach s r = .ok b → (z.addEach s [r]) = (.ok (), b.append s.folder r) :=
    fun hb => addEach_cons_of_ok habsent hb []
  by_cases hdetached : a.scope s.folder = .detached
  · have hattach : z.attach s r = .ok z := by
      unfold attach
      rw [hscope, hdetached]
    exact Or.inr ⟨fun h => h.1 hdetached, by rw [hok hattach]⟩
  · have hadmits := exists_attach_eq_ok_iff (x := r) hz (hscope ▸ hdetached)
    by_cases hpath : TransGen z.Nests r s.folder
    · have hcheck := checkAdoption_eq_error hz (kind_of_leads hpath) hself hpath
      have hattach : z.attach s r = .error (.validation (some "folders") .ownDescendant) := by
        rw [attach_eq (hscope ▸ hdetached), (isHeld_eq_false_iff hz).mpr hne, hcheck]
        rfl
      exact Or.inl ⟨⟨hdetached, hpath⟩, by rw [addEach_cons_of_error habsent hattach]⟩
    · have hadmitted : z.Admits s.folder r := fun _ => by
        rw [reflTransGen_iff_eq_or_transGen, not_or]
        exact ⟨⟨hne.symm, hpath⟩, hself⟩
      obtain ⟨b, hb⟩ := hadmits.mpr hadmitted
      exact Or.inr ⟨fun h => hpath h.2, by rw [hok hb]⟩

/-- The others stay what they are, but the value has been given to its children for a parent. -/
theorem node?_abandon (hheld : a.held = []) (hq : q ≠ r) :
    (a.abandon t r).node? q = (a.node? q).map fun n =>
      n.withParent (if q ∈ a.children r ∧ q ≠ t then some r else n.details.parent) := by
  have hsettle := (settle_refiles (a.hold t) r).node q
  have hfree : (a.hold t).isHeld q = false ↔ q ≠ t := by
    simp [isHeld, hold, hheld]
  refine (node?_erase_of_ne hq).trans (hsettle.trans ?_)
  refine congrArg (Option.map · (a.node? q)) (funext fun n => ?_)
  simp only [Refiling.node, hfree, if_neg hq]
  obtain ⟨d, body⟩ := n
  cases body <;> rfl

theorem node?_abandon_self (a : Atlas) (t r : Ref) : (a.abandon t r).node? r = none :=
  node?_erase_self _ r

theorem contains_abandon (a : Atlas) (t r p : Ref) :
    (a.abandon t r).contains p = if p = r then false else a.contains p := by
  refine (contains_erase _ r p).trans ?_
  rw [(settle_refiles (a.hold t) r).contains]
  rfl

theorem children_abandon {f : Ref} (hf : f ≠ r) : (a.abandon t r).children f = a.children f :=
  (children_erase _ r f).trans ((if_neg hf).trans (children_settle (a.hold t) r f))

/-- The children of a refused value have lost their parents. -/
theorem parent?_abandon (hr : a.Loose r) (hheld : a.held = []) (hq : q ≠ r) :
    (a.abandon t r).parent? q =
      if q ∈ a.children r ∧ q ≠ t then none else a.parent? q := by
  have hparent := hr.childless q
  rw [parent?_eq, storedParent] at hparent ⊢
  rw [node?_abandon hheld hq, parent?_eq, storedParent]
  cases hn : a.node? q with
  | none => exact (ite_self _).symm
  | some n =>
      rw [hn] at hparent
      show ((if _ then some r else n.details.parent).filter _) = _
      split
      · simp [contains_abandon]
      · cases hp : n.details.parent with
        | none => simp [hp]
        | some p =>
            have hpr : p ≠ r := by
              rintro rfl
              simp [hp, hr.contains] at hparent
            simp [hp, Option.filter, contains_abandon, hpr]

theorem free?_of_held (hheld : a.held = []) (p : Ref) : a.free? p = a.node? p := by
  rw [free?, (open_of_held hheld).isHidden]
  rfl

/-- What is shown of a parent is not changed, unless there is none any more. -/
theorem parentValue_abandon {m n : Node} (hr : a.Loose r) (hheld : a.held = [])
    (hn : a.node? q = some n) (hm : (a.abandon t r).node? q = some m)
    (hnone : q ∈ a.children r → q ≠ t → a.parent? q = none) :
    Field.parentValue (a.abandon t r) m = Field.parentValue a n := by
  have hqr : q ≠ r := by
    rintro rfl
    rw [node?_abandon_self] at hm
    cases hm
  rw [node?_abandon hheld hqr, hn] at hm
  obtain rfl := Option.some.inj hm
  have hparent := hr.childless q
  rw [parent?_eq, storedParent, hn, Option.bind_some] at hnone hparent
  refine Field.parentValue_congr ?_
  show Option.map _ ((if q ∈ a.children r ∧ q ≠ t then some r else n.details.parent).bind _) = _
  rw [funext (free?_of_held hheld), funext (free?_of_held (a := a.abandon t r) hheld)]
  split
  · next hchild =>
      rw [Option.bind_some, node?_abandon_self]
      have hnone := hnone hchild.1 hchild.2
      cases hp : n.details.parent with
      | none => rfl
      | some p =>
          have hgone : a.node? p = none := by
            rw [hp] at hnone
            simpa [contains] using Option.filter_eq_none_iff.mp hnone p rfl
          rw [Option.bind_some, hgone]
  · cases hp : n.details.parent with
    | none => rfl
    | some p =>
        have hpr : p ≠ r := by
          rintro rfl
          simp [hp, hr.contains] at hparent
        rw [Option.bind_some, Option.bind_some, node?_abandon hheld hpr, Option.map_map]
        rfl

theorem mirrors_abandon (ha : a.Coherent) (hheld : a.held = []) (hk : r.kind = .folder) :
    a.Mirrors (a.abandon t r) :=
  .of_node? (fun q n hn l hl => (ha.links q n hn l hl).1) (fun _ _ => rfl)
    fun _ hq => node?_abandon hheld (ne_of_isGeometry hq hk)

/-- A refusal goes unnoticed if the children of the value have had no parents. -/
theorem unnoticed_iff (ha : a.Coherent) (hr : a.Loose r) (hheld : a.held = [])
    (hk : r.kind = .folder) :
    (∀ q, q ≠ r → (a.abandon t r).parent? q = a.parent? q ∧
      ∀ path : FieldPath, (a.abandon t r).resolve? q path = a.resolve? q path) ↔
      ∀ q ∈ a.children r, q ≠ t → a.parent? q = none := by
  constructor
  · intro hsame q hq hqt
    have hqr : q ≠ r := by
      rintro rfl
      exact hr.unlisted q hq
    rw [← (hsame q hqr).1, parent?_abandon hr hheld hqr, if_pos ⟨hq, hqt⟩]
  · intro hnone q hq
    have hparent : (a.abandon t r).parent? q = a.parent? q := by
      rw [parent?_abandon hr hheld hq]
      split
      · next hchild => exact (hnone q hchild.1 hchild.2).symm
      · rfl
    refine ⟨hparent, fun path => ?_⟩
    refine resolve?_of_parents (mirrors_abandon ha hheld hk) (fun n hn l hl => ?_)
      (node?_abandon hheld hq) fun l m n hn hm => ?_
    · exact (ha.links q n hn l hl).1
    · exact parentValue_abandon hr hheld hn hm (hnone l)

/-- **What a refused call leaves behind.** Let `a` be the atlas at any point of any program.
Whatever is done to an entity that is created, no other one notices, and if it is refused in the
end, nothing has happened; so it is where one is got or created. A value that is inserted is refused
exactly if the folder of the shelf stands somewhere and is below it. The lists of all folders are
then what they were, and on all paths that lead to no parent the same is shown; but the value has
been erased after it had become the parent of its children. So they have lost the parents that they
had, and nothing at all has changed exactly if none of them had one. -/
theorem refused_calls (edits : List Edit) (hfits : Fits {} edits) (a : Atlas)
    (ha : a ∈ versions {} edits) (s : Shelf) :
    (∀ fields e, (a.create s fields).1 = .error e → (a.create s fields).2 = a) ∧
    (∀ fields (q : Ref), q.number < a.nodes.size →
      ((a.blankOn s).2.update (a.blankOn s).1 fields).2.node? q = a.node? q) ∧
    (∀ criteria e, (a.getOrCreate s criteria).1 = .error e → (a.getOrCreate s criteria).2 = a) ∧
    ∀ r, a.Loose r → r ≠ s.folder →
      ((∃ e, (a.shelve s r).1 = .error e) ↔
        a.scope s.folder ≠ .detached ∧ TransGen a.Nests r s.folder) ∧
      ∀ e, (a.shelve s r).1 = .error e →
        let b := (a.shelve s r).2
        e = .validation (some "folders") .ownDescendant ∧
        (∀ f, f ≠ r → b.children f = a.children f) ∧
        (∀ q, q ≠ r →
          (b.parent? q = if q ∈ a.children r ∧ q ≠ s.folder then none else a.parent? q) ∧
          ∀ path : FieldPath, ¬path.ShowsParent → b.resolve? q path = a.resolve? q path) ∧
        ((∀ q, q ≠ r →
          b.parent? q = a.parent? q ∧ ∀ path : FieldPath, b.resolve? q path = a.resolve? q path) ↔
          ∀ q ∈ a.children r, q ≠ s.folder → a.parent? q = none) := by
  obtain ⟨hcoherent, hheld⟩ := coherent_of_mem_versions hfits ha
  refine ⟨fun fields e => create_eq_error, fun fields q => node?_update_blankOn s fields,
    fun criteria e => getOrCreate_eq_error, fun r hr hne => ?_⟩
  rcases shelve_cases hr hne hheld with ⟨hleads, hshelve⟩ | ⟨hleads, hshelve⟩
  · rw [hshelve]
    refine ⟨iff_of_true ⟨_, rfl⟩ hleads, ?_⟩
    rintro _ ⟨⟩
    have hk : r.kind = .folder := kind_of_leads hleads.2
    refine ⟨rfl, fun f => children_abandon, fun q hq => ⟨parent?_abandon hr hheld hq, fun path =>
      ?_⟩, unnoticed_iff hcoherent hr hheld hk⟩
    exact resolve?_of_mirrors (mirrors_abandon hcoherent hheld hk)
      (fun n hn l hl => (hcoherent.links q n hn l hl).1) (node?_abandon hheld hq)
  · refine ⟨iff_of_false ?_ hleads, ?_⟩
    · rintro ⟨e, he⟩
      rw [hshelve] at he
      cases he
    · intro e he
      rw [hshelve] at he
      cases he

/-- A value is filled with a folder and with a point that another folder lists. -/
def filling : List Edit :=
  [.operate (.construct (.blank .folder)), .operate (.create ⟨⟨.folder, 0⟩, .point⟩ ⟨[]⟩),
    .operate (.construct (.blank .folder)), .operate (.draft .folder ⟨[]⟩),
    .operate (.add ⟨⟨.folder, 3⟩, .folder⟩ [⟨.folder, 2⟩]),
    .operate (.add ⟨⟨.folder, 3⟩, .point⟩ [⟨.point, 1⟩])]

theorem fits_filling : Fits {} filling :=
  ⟨fits_construct_blank _ _, trivial, fits_construct_blank _ _, trivial,
    List.forall_mem_singleton.mpr (by decide), List.forall_mem_singleton.mpr (by decide), trivial⟩

theorem refused_calls_filling :
    let a := filling.foldl (fun a e => e.run a) {}
    let s : Shelf := ⟨⟨.folder, 2⟩, .folder⟩
    let b := (a.shelve s ⟨.folder, 3⟩).2
    (∃ e, (a.shelve s ⟨.folder, 3⟩).1 = .error e) ∧
    a.parent? ⟨.point, 1⟩ = some ⟨.folder, 0⟩ ∧ b.parent? ⟨.point, 1⟩ = none ∧
    b.children ⟨.folder, 0⟩ = [⟨.point, 1⟩] := by
  intro a s b
  obtain ⟨-, -, -, hvalues⟩ :=
    refused_calls filling fits_filling a (foldl_run_mem_versions {} filling) s
  obtain ⟨hrefused, hleft⟩ := hvalues ⟨.folder, 3⟩ (by decide) (by decide)
  have hnests : a.Nests ⟨.folder, 3⟩ ⟨.folder, 2⟩ := by
    show (⟨.folder, 2⟩ : Ref) ∈ a.childrenOf ⟨.folder, 3⟩ .folder
    decide
  obtain ⟨e, he⟩ := hrefused.mpr ⟨by decide, .single hnests⟩
  obtain ⟨-, hlists, hothers, -⟩ := hleft e he
  refine ⟨⟨e, he⟩, by decide, ?_, ?_⟩
  · rw [(hothers ⟨.point, 1⟩ (by decide)).1]
    decide
  · rw [hlists ⟨.folder, 0⟩ (by decide)]
    decide

end Atlas

end Gazetteer
