import Gazetteer.Atlas.Node

/-!
# The atlas

An `Atlas` holds all entities, each under its `Ref`, and knows which of them are in use. Any number
of users may read an entity at once, and while they do it is *held*: nobody changes it. A user that
changes it is alone with it: it is held and *hidden* as well, so that nobody else looks into it.
What is to be changed is therefore asked for `Atlas.isHeld`, and what is to be read for
`Atlas.isHidden`. The statements say what each operation does to `Atlas.node?`: it changes what is
found under one ref and nothing else.
-/

namespace Gazetteer

structure Atlas where
  nodes : Array (Option Node) := #[]
  /-- The entities in use, whether somebody reads them or changes them. -/
  held : List Ref := []
  /-- Those of them that are only read. -/
  shared : List Ref := []

namespace Atlas

/-! ### Finding and changing nodes -/

/-- The node under a ref, if it is of the kind that the ref says. -/
def node? (a : Atlas) (r : Ref) : Option Node := (a.nodes[r.number]?).join.filter (·.kind = r.kind)

def contains (a : Atlas) (r : Ref) : Bool := (a.node? r).isSome

/-- The refs of all entities. -/
def refs (a : Atlas) : List Ref :=
  (a.nodes.toList.zipIdx).filterMap fun (n?, i) => n?.map fun n => ⟨n.kind, i⟩

/-- The atlas with a new entity, and its ref. -/
def insert (a : Atlas) (n : Node) : Ref × Atlas :=
  (⟨n.kind, a.nodes.size⟩, { a with nodes := a.nodes.push (some n) })

/-- The atlas with another node under a ref that it knows. The kind stays. -/
def set (a : Atlas) (r : Ref) (n : Node) : Atlas :=
  if a.contains r && n.kind = r.kind then
    { a with nodes := a.nodes.setIfInBounds r.number (some n) }
  else a

/-- The atlas without an entity. Its ref is not given away again. -/
def erase (a : Atlas) (r : Ref) : Atlas :=
  if a.contains r then { a with nodes := a.nodes.setIfInBounds r.number none } else a

/-- The atlas with a node changed. -/
def modify (a : Atlas) (r : Ref) (f : Node → Node) : Atlas :=
  match a.node? r with
  | some n => a.set r (f n)
  | none => a

theorem kind_of_node? {a : Atlas} {r : Ref} {n : Node} (h : a.node? r = some n) :
    n.kind = r.kind := by
  simp only [node?, Option.filter_eq_some_iff] at h
  simpa using h.2

theorem contains_iff {a : Atlas} {r : Ref} : a.contains r = true ↔ ∃ n, a.node? r = some n :=
  Option.isSome_iff_exists

/-- Refs of two kinds under one number do not both name an entity. -/
theorem node?_eq_none_of_number_eq {a : Atlas} {r s : Ref} (hr : a.contains r)
    (hn : s.number = r.number) (hne : s ≠ r) : a.node? s = none := by
  obtain ⟨n, hn'⟩ := contains_iff.1 hr
  have hk : s.kind ≠ r.kind := fun hk => hne (by cases s; cases r; simp_all)
  simp only [node?, Option.filter_eq_some_iff] at hn'
  obtain ⟨hj, hkind⟩ := hn'
  simp only [node?, hn, hj, Option.filter_eq_none_iff]
  rintro m ⟨rfl⟩
  simp only [decide_eq_true_eq] at hkind ⊢
  rw [hkind]
  exact fun h => hk h.symm

theorem node?_insert (a : Atlas) (n : Node) (s : Ref) :
    (a.insert n).2.node? s = if s = (a.insert n).1 then some n else a.node? s := by
  simp only [insert, node?, Array.getElem?_push]
  by_cases hs : s.number = a.nodes.size
  · by_cases hk : s.kind = n.kind
    · have : s = ⟨n.kind, a.nodes.size⟩ := by cases s; simp_all
      simp [this]
    · have : s ≠ ⟨n.kind, a.nodes.size⟩ := fun h => hk (by simp [h])
      simp [hs, this, Option.filter, Ne.symm hk]
  · have : s ≠ ⟨n.kind, a.nodes.size⟩ := fun h => hs (by simp [h])
    simp [hs, this]

theorem node?_fst_insert (a : Atlas) (n : Node) : a.node? (a.insert n).1 = none := by
  simp [insert, node?]

theorem node?_set_self {a : Atlas} {r : Ref} {n : Node} (hr : a.contains r) (hk : n.kind = r.kind) :
    (a.set r n).node? r = some n := by
  obtain ⟨m, hm⟩ := contains_iff.1 hr
  have hlt : r.number < a.nodes.size := by
    refine Nat.lt_of_not_le fun hge => ?_
    simp [node?, Array.getElem?_eq_none hge] at hm
  simp [set, hr, hk, node?, hlt]

theorem node?_set_of_ne {a : Atlas} {r s : Ref} (n : Node) (hne : s ≠ r) :
    (a.set r n).node? s = a.node? s := by
  unfold set
  split
  next h =>
    simp only [Bool.and_eq_true, decide_eq_true_eq] at h
    by_cases hs : s.number = r.number
    · rw [node?_eq_none_of_number_eq h.1 hs hne]
      have hk : s.kind ≠ r.kind := fun hk => hne (by cases s; cases r; simp_all)
      simp only [node?, hs, Array.getElem?_setIfInBounds_self, Option.filter_eq_none_iff]
      intro m hm
      simp only [decide_eq_true_eq]
      split at hm <;> simp at hm
      rw [← hm, h.2]
      exact Ne.symm hk
    · simp [node?, Ne.symm hs]
  next => rfl

theorem join_getElem?_setIfInBounds_none (xs : Array (Option α)) (i : Nat) :
    ((xs.setIfInBounds i none)[i]?).join = none := by
  rw [Array.getElem?_setIfInBounds_self]
  split <;> rfl

theorem node?_erase_self (a : Atlas) (r : Ref) : (a.erase r).node? r = none := by
  unfold erase
  split
  next => rw [node?, join_getElem?_setIfInBounds_none]; rfl
  next h => simpa [contains] using h

theorem node?_erase_of_ne {a : Atlas} {r s : Ref} (hne : s ≠ r) :
    (a.erase r).node? s = a.node? s := by
  unfold erase
  split
  next h =>
    by_cases hs : s.number = r.number
    · rw [node?_eq_none_of_number_eq h hs hne]
      rw [node?, hs, join_getElem?_setIfInBounds_none]
      rfl
    · simp [node?, Ne.symm hs]
  next => rfl

theorem node?_modify_of_ne {a : Atlas} {r s : Ref} (f : Node → Node) (hne : s ≠ r) :
    (a.modify r f).node? s = a.node? s := by
  unfold modify
  split
  next => exact node?_set_of_ne _ hne
  next => rfl

theorem node?_modify_self {a : Atlas} {r : Ref} {f : Node → Node} (hf : ∀ n, (f n).kind = n.kind) :
    (a.modify r f).node? r = (a.node? r).map f := by
  unfold modify
  split
  next n h =>
    rw [h, Option.map_some]
    exact node?_set_self (contains_iff.2 ⟨n, h⟩) (by rw [hf, kind_of_node? h])
  next h => simp [h]

/-! ### Holding -/

/-- Whether somebody reads or changes an entity, so that nobody else may change it. -/
def isHeld (a : Atlas) (r : Ref) : Bool := a.held.contains r

/-- Whether somebody changes an entity, so that nobody else may look into it. -/
def isHidden (a : Atlas) (r : Ref) : Bool := a.isHeld r && !a.shared.contains r

/-- The atlas while an entity is changed, which nobody reads then. -/
def hold (a : Atlas) (r : Ref) : Atlas :=
  { a with held := r :: a.held, shared := a.shared.filter (· ≠ r) }

/-- The node under a ref that is not hidden. -/
def free? (a : Atlas) (r : Ref) : Option Node := if a.isHidden r then none else a.node? r

/-- Everything can be looked into: nobody is changing anything. -/
def Open (a : Atlas) : Prop := ∀ r, a.isHidden r = false

@[simp] theorem node?_hold (a : Atlas) (r s : Ref) : (a.hold r).node? s = a.node? s := rfl

theorem isHidden_eq_false_of_isHeld {a : Atlas} {r : Ref} (h : a.isHeld r = false) :
    a.isHidden r = false := by
  rw [isHidden, h, Bool.false_and]

theorem isHidden_congr {a b : Atlas} (hheld : b.held = a.held) (hshared : b.shared = a.shared)
    (r : Ref) : b.isHidden r = a.isHidden r := by
  rw [isHidden, isHidden, isHeld, isHeld, hheld, hshared]

@[simp] theorem isHidden_hold (a : Atlas) (r s : Ref) :
    (a.hold r).isHidden s = (decide (s = r) || a.isHidden s) := by
  by_cases h : s = r <;> simp [isHidden, isHeld, hold, h]

theorem Open.isHidden {a : Atlas} (h : a.Open) (r : Ref) : a.isHidden r = false := h r

/-- Where nothing is held, everything is open. -/
theorem open_of_held {a : Atlas} (h : a.held = []) : a.Open :=
  fun r => isHidden_eq_false_of_isHeld (by simp [isHeld, h])

/-- The atlas with the same entities in use as in another one. -/
def withUseOf (a b : Atlas) : Atlas := { a with held := b.held, shared := b.shared }

@[simp] theorem hold_withUseOf (a : Atlas) (r : Ref) : (a.hold r).withUseOf a = a := rfl

/-- Does something to the atlas while an entity is changed. -/
def holding (a : Atlas) (r : Ref) (f : Atlas → α × Atlas) : α × Atlas :=
  let (x, b) := f (a.hold r)
  (x, b.withUseOf a)

/-! ### What entities lead to -/

/-- The folder under a ref. -/
def folder? (a : Atlas) (r : Ref) : Option Folder :=
  match a.node? r with
  | some ⟨_, .folder f⟩ => some f
  | _ => none

/-- What a folder lists. -/
def children (a : Atlas) (r : Ref) : List Ref :=
  match a.folder? r with
  | some f => f.children
  | none => []

/-- What a folder lists of one kind. -/
def childrenOf (a : Atlas) (r : Ref) (k : Kind) : List Ref :=
  (a.children r).filter (·.kind = k)

/-- Where a folder stands. -/
def scope (a : Atlas) (r : Ref) : Scope :=
  match a.folder? r with
  | some f => f.scope
  | none => .detached

/-- The folder that lists an entity, if it still exists. -/
def parent? (a : Atlas) (r : Ref) : Option Ref :=
  match a.node? r with
  | some n => n.details.parent.filter a.contains
  | none => none

/-- The members of a group of geometries. -/
def members (a : Atlas) (r : Ref) : List Ref :=
  match a.node? r with
  | some ⟨_, .multiGeometry m⟩ => m.members
  | _ => []

/-- The geometries of a placemark. -/
def embedded (a : Atlas) (r : Ref) : List Ref :=
  match a.node? r with
  | some ⟨_, .placemark p⟩ => p.embedded
  | _ => []

/-! ### Changes -/

/-- The atlas with another parent for an entity. -/
def setParent (a : Atlas) (r : Ref) (parent : Option Ref) : Atlas :=
  a.modify r fun n => { n with details := { n.details with parent := parent } }

/-- The atlas with a folder changed. -/
def modifyFolder (a : Atlas) (r : Ref) (f : Folder → Folder) : Atlas :=
  a.modify r fun n =>
    match n.body with
    | .folder x => { n with body := .folder (f x) }
    | _ => n

/-- Lists an entity at the end of a folder. -/
def append (a : Atlas) (r item : Ref) : Atlas :=
  a.modifyFolder r fun f => { f with children := f.children ++ [item] }

/-- Strikes an entity off the list of a folder. -/
def forget (a : Atlas) (r item : Ref) : Atlas :=
  a.modifyFolder r fun f => { f with children := f.children.filter (· ≠ item) }

end Atlas

end Gazetteer
