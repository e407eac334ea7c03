import Gazetteer.Proofs.Assignment
import Gazetteer.Proofs.Filing

/-!
# Assignments and new entities

An assignment changes what an entity is and never where it is filed, and it may bring in a new point
that is filed nowhere. `Atlas.Extends` says this of two atlases: what there was is filed as before,
and what is new is filed nowhere. Every assignment keeps to it (`Assigns.filedAs`, `Assigns.grows`),
and so do updates and drafts.
-/

namespace Gazetteer

namespace Node

def folder? (n : Node) : Option Folder :=
  match n.body with
  | .folder f => some f
  | _ => none

/-- Two nodes are of one kind and filed alike. -/
structure FiledAs (m n : Node) : Prop where
  kind : m.kind = n.kind
  parent : m.details.parent = n.details.parent
  folder? : m.folder? = n.folder?

/-- Nothing lists the entity, and if it is a folder it lists nothing and is no document. -/
structure Fresh (n : Node) : Prop where
  parent : n.details.parent = none
  children : ∀ f, n.folder? = some f → f.children = []
  scope : ∀ f, n.folder? = some f → f.scope ≠ .root

theorem FiledAs.refl (n : Node) : n.FiledAs n := ⟨rfl, rfl, rfl⟩

theorem FiledAs.trans {l m n : Node} (h : l.FiledAs m) (h' : m.FiledAs n) : l.FiledAs n :=
  ⟨h.kind.trans h'.kind, h.parent.trans h'.parent, h.folder?.trans h'.folder?⟩

theorem FiledAs.fresh {m n : Node} (h : m.FiledAs n) (hn : n.Fresh) : m.Fresh where
  parent := h.parent.trans hn.parent
  children f hf := hn.children f (h.folder? ▸ hf)
  scope f hf := hn.scope f (h.folder? ▸ hf)

theorem fresh_blank (k : Kind) : (blank k).Fresh where
  parent := rfl
  children f hf := by
    cases k <;> simp [blank, Body.blank, folder?] at hf
    rw [← hf]
  scope f hf := by
    cases k <;> simp [blank, Body.blank, folder?] at hf
    simp [← hf]

end Node

namespace Atlas

theorem folder?_eq (a : Atlas) (r : Ref) : a.folder? r = (a.node? r).bind Node.folder? := by
  unfold folder?
  split
  · next h => rw [h]; rfl
  · next h =>
      cases hn : a.node? r with
      | none => rfl
      | some n =>
          obtain ⟨d, b⟩ := n
          cases b with
          | folder f => exact absurd hn (h d f)
          | _ => rfl

/-! ## Extensions -/

/-- What is in `a` is filed alike in `b`, and what `b` has beyond that is filed nowhere. -/
structure Extends (a b : Atlas) : Prop where
  held : b.held = a.held
  shared : b.shared = a.shared
  size : a.nodes.size ≤ b.nodes.size
  old : ∀ r n, a.node? r = some n → ∃ m, b.node? r = some m ∧ m.FiledAs n
  new : ∀ r m, a.node? r = none → b.node? r = some m → a.nodes.size ≤ r.number ∧ m.Fresh

namespace Extends

variable {a b c : Atlas}

protected theorem refl (a : Atlas) : a.Extends a where
  held := rfl
  shared := rfl
  size := Nat.le_refl _
  old r n h := ⟨n, h, .refl n⟩
  new r m h h' := by simp [h] at h'

protected theorem trans (h : a.Extends b) (h' : b.Extends c) : a.Extends c where
  held := h'.held.trans h.held
  shared := h'.shared.trans h.shared
  size := Nat.le_trans h.size h'.size
  old r n hn := by
    obtain ⟨m, hm, hmn⟩ := h.old r n hn
    obtain ⟨l, hl, hlm⟩ := h'.old r m hm
    exact ⟨l, hl, hlm.trans hmn⟩
  new r l hn hl := by
    cases hm : b.node? r with
    | none => exact ⟨Nat.le_trans h.size (h'.new r l hm hl).1, (h'.new r l hm hl).2⟩
    | some m =>
        obtain ⟨l', hl', hlm⟩ := h'.old r m hm
        obtain rfl : l' = l := by simpa [hl'] using hl
        exact ⟨(h.new r m hn hm).1, hlm.fresh (h.new r m hn hm).2⟩

theorem isHidden (h : a.Extends b) (r : Ref) : b.isHidden r = a.isHidden r :=
  isHidden_congr h.held h.shared r

theorem contains (h : a.Extends b) {r : Ref} (hr : a.contains r) : b.contains r := by
  obtain ⟨n, hn⟩ := contains_iff.mp hr
  obtain ⟨m, hm, -⟩ := h.old r n hn
  exact contains_iff.mpr ⟨m, hm⟩

theorem folder?_of_contains (h : a.Extends b) {r : Ref} (hr : a.contains r) :
    b.folder? r = a.folder? r := by
  obtain ⟨n, hn⟩ := contains_iff.mp hr
  obtain ⟨m, hm, hmn⟩ := h.old r n hn
  rw [folder?_eq, folder?_eq, hn, hm]
  exact hmn.folder?

theorem children (h : a.Extends b) (r : Ref) : b.children r = a.children r := by
  cases hn : a.node? r with
  | some n =>
      simp only [Atlas.children, h.folder?_of_contains (contains_iff.mpr ⟨n, hn⟩)]
  | none =>
      have ha : a.children r = [] := by simp [Atlas.children, folder?_eq, hn]
      rw [ha]
      unfold Atlas.children
      split
      · next f hf =>
          obtain ⟨m, hm, hmf⟩ := Option.bind_eq_some_iff.mp (folder?_eq b r ▸ hf)
          exact (h.new r m hn hm).2.children f hmf
      · rfl

theorem scope (h : a.Extends b) {r : Ref} (hr : a.contains r) : b.scope r = a.scope r := by
  simp only [Atlas.scope, h.folder?_of_contains hr]

/-- No document is new. -/
theorem scope_eq_root_iff (h : a.Extends b) {r : Ref} : b.scope r = .root ↔ a.scope r = .root := by
  cases hn : a.node? r with
  | some n => rw [h.scope (contains_iff.mpr ⟨n, hn⟩)]
  | none =>
      have ha : a.scope r = .detached := by simp [Atlas.scope, folder?_eq, hn]
      refine iff_of_false (fun hr => ?_) (by simp [ha])
      have hscope : b.scope r ≠ .detached := by rw [hr]; decide
      obtain ⟨f, hf⟩ := folder?_of_scope hscope
      obtain ⟨m, hm, hmf⟩ := Option.bind_eq_some_iff.mp (folder?_eq b r ▸ hf)
      refine (h.new r m hn hm).2.scope f hmf ?_
      simpa [Atlas.scope, hf] using hr

theorem storedParent (h : a.Extends b) (r : Ref) : b.storedParent r = a.storedParent r := by
  unfold Atlas.storedParent
  cases hn : a.node? r with
  | some n =>
      obtain ⟨m, hm, hmn⟩ := h.old r n hn
      simp [hm, hmn.parent]
  | none =>
      cases hm : b.node? r with
      | none => rfl
      | some m => simp [(h.new r m hn hm).2.parent]

/-- Parents stay, if none of them is a ref that has not been given away yet. -/
theorem parent? (h : a.Extends b)
    (hallocated : ∀ r p, a.storedParent r = some p → p.number < a.nodes.size) (r : Ref) :
    b.parent? r = a.parent? r := by
  rw [parent?_eq, parent?_eq, h.storedParent]
  cases hp : a.storedParent r with
  | none => rfl
  | some p =>
      have hcontains : b.contains p = a.contains p := by
        cases hn : a.node? p with
        | some n =>
            have ha : a.contains p := contains_iff.mpr ⟨n, hn⟩
            rw [ha, h.contains ha]
        | none =>
            cases hm : b.node? p with
            | none => simp [Atlas.contains, hn, hm]
            | some m =>
                have hlt := hallocated r p hp
                have hge := (h.new p m hn hm).1
                omega
      simp [Option.filter, hcontains]

end Extends

theorem insert_extends (a : Atlas) {n : Node} (hn : n.Fresh) : a.Extends (a.insert n).2 where
  held := rfl
  shared := rfl
  size := by simp [insert]
  old r m hm := by
    refine ⟨m, ?_, .refl m⟩
    rw [node?_insert, if_neg, hm]
    rintro rfl
    simp [node?_fst_insert] at hm
  new r m hr hm := by
    rw [node?_insert] at hm
    split at hm
    · next h =>
        obtain rfl : n = m := by simpa using hm
        exact ⟨by rw [h]; exact Nat.le_refl _, hn⟩
    · simp [hr] at hm

theorem set_extends {a : Atlas} {r : Ref} {n m : Node} (hn : a.node? r = some n)
    (hm : m.FiledAs n) : a.Extends (a.set r m) where
  held := held_set a r m
  shared := shared_set a r m
  size := Nat.le_of_eq (size_set a r m).symm
  old s l hl := by
    by_cases hs : s = r
    · subst hs
      obtain rfl : n = l := by simpa [hn] using hl
      exact ⟨m, node?_set_self (contains_iff.mpr ⟨n, hn⟩) (hm.kind.trans (kind_of_node? hn)), hm⟩
    · exact ⟨l, by rw [node?_set_of_ne m hs, hl], .refl l⟩
  new s l hs hl := by
    have hne : s ≠ r := by
      rintro rfl
      simp [hn] at hs
    rw [node?_set_of_ne m hne, hs] at hl
    cases hl

theorem modify_extends (a : Atlas) (r : Ref) {f : Node → Node} (hf : ∀ n, (f n).FiledAs n) :
    a.Extends (a.modify r f) := by
  unfold modify
  split
  · next n hn => exact set_extends hn (hf n)
  · exact .refl a

end Atlas

/-! ## Fields -/

/-- Entities that are no folders are filed alike if they have one kind and one parent. -/
theorem Node.FiledAs.of_body {d : Details} {b c : Body} (hk : c.kind = b.kind)
    (hb : b.kind ≠ .folder) : (⟨d, c⟩ : Node).FiledAs ⟨d, b⟩ := by
  refine ⟨hk, rfl, ?_⟩
  have hnone : ∀ {x : Body}, x.kind ≠ .folder → (⟨d, x⟩ : Node).folder? = none := by
    intro x hx
    cases x with
    | folder f => exact absurd rfl hx
    | _ => rfl
  rw [hnone (hk ▸ hb), hnone hb]

namespace Assigns

variable {a b : Atlas} {v : Value} {m n : Node}

theorem filedAs (h : Assigns a v n m b) : m.FiledAs n := by
  cases h with
  | details h => exact ⟨rfl, h, rfl⟩
  | @drawing d body w =>
      refine ⟨Body.kind_withDrawing w body, rfl, ?_⟩
      cases body <;> rfl
  | _ => exact .of_body rfl (by simp [Body.kind])

theorem grows (h : Assigns a v n m b) : a.Extends b := by
  cases h with
  | moved _ hmoved =>
      rcases Atlas.movePlacemark_cases hmoved with ⟨r, rfl⟩ | rfl
      · refine Atlas.modify_extends a r fun n => ?_
        obtain ⟨d, body⟩ := n
        cases body with
        | point p => exact .of_body rfl (by simp [Body.kind])
        | _ => exact .refl _
      · exact Atlas.insert_extends a ⟨rfl, by simp [Node.folder?], by simp [Node.folder?]⟩
  | _ => exact .refl a

end Assigns

namespace Atlas

/-! ## Updates and drafts -/

theorem assign_extends {a b : Atlas} {r : Ref} {name : String} {v : Value}
    (h : a.assign r name v = .ok b) : a.Extends b := by
  rcases assign_cases h with rfl | ⟨n, m, c, hn, hlisted, rfl⟩
  · exact .refl b
  · obtain ⟨n', hn', hfiled⟩ := hlisted.grows.old r n hn
    -- the node was looked up before the assignment, and is filed in `c` as it was
    have hm : m.FiledAs n' :=
      hlisted.filedAs.trans ⟨hfiled.kind.symm, hfiled.parent.symm, hfiled.folder?.symm⟩
    exact hlisted.grows.trans (set_extends hn' hm)

theorem assignAll_extends (a : Atlas) (r : Ref) (fields : List (String × Value)) :
    a.Extends (a.assignAll r fields).2 := by
  induction fields generalizing a with
  | nil => exact .refl a
  | cons p rest ih =>
      obtain ⟨name, v⟩ := p
      rw [assignAll]
      split
      · next b hb => exact (assign_extends hb).trans (ih b)
      · exact .refl a

theorem update_extends (a : Atlas) (r : Ref) (fields : Criteria) :
    a.Extends (a.update r fields).2 := by
  have h := assignAll_extends a r fields.pairs
  unfold update
  split
  · next b hb => rwa [hb] at h
  · next e b hb => rwa [hb] at h

end Atlas

end Gazetteer
