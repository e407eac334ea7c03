import Gazetteer.Atlas.Shelf
import Gazetteer.Proofs.Collect

/-!
# Where entities are filed

An entity is filed in two places: in the list of a folder, and as the parent in its own node. A
`Refiling` says what happens to both and to the scopes of folders, and `Atlas.Refiles` that this is
all that happens between two atlases. Every change that a shelf makes is a refiling, so that what it
does to lists, parents and scopes is read off and everything else is known to stay
(`attach_append_refiles`, `forget_release_refiles`).
-/

namespace Gazetteer

/-- What happens to the filing of each entity: to its parent, and if it is a folder to its list and
its scope. -/
structure Refiling where
  parent : Ref → Option Ref → Option Ref := fun _ p => p
  list : Ref → List Ref → List Ref := fun _ l => l
  scope : Ref → Scope → Scope := fun _ s => s

namespace Refiling

/-- What happens to a node. -/
def node (c : Refiling) (r : Ref) (n : Node) : Node where
  details := { n.details with parent := c.parent r n.details.parent }
  body :=
    match n.body with
    | .folder f => .folder { scope := c.scope r f.scope, children := c.list r f.children }
    | b => b

/-- One refiling after another. -/
def andThen (c d : Refiling) : Refiling where
  parent r p := d.parent r (c.parent r p)
  list r l := d.list r (c.list r l)
  scope r s := d.scope r (c.scope r s)

@[simp] theorem kind_node (c : Refiling) (r : Ref) (n : Node) : (c.node r n).kind = n.kind := by
  obtain ⟨d, b⟩ := n
  cases b <;> rfl

theorem node_node (c d : Refiling) (r : Ref) (n : Node) :
    d.node r (c.node r n) = (c.andThen d).node r n := by
  obtain ⟨e, b⟩ := n
  cases b <;> rfl

end Refiling

/-- The parent that the children of a folder in this scope have. -/
def Scope.owner (r : Ref) : Scope → Option Ref
  | .bound => some r
  | _ => none

namespace Atlas

/-- The parent in the node of an entity, whether it still exists or not. -/
def storedParent (a : Atlas) (r : Ref) : Option Ref := (a.node? r).bind (·.details.parent)

theorem parent?_eq (a : Atlas) (r : Ref) : a.parent? r = (a.storedParent r).filter a.contains := by
  unfold parent? storedParent
  cases a.node? r <;> rfl

theorem number_lt_of_contains {a : Atlas} {r : Ref} (h : a.contains r) :
    r.number < a.nodes.size := by
  refine Nat.lt_of_not_le fun hge => ?_
  simp [contains, node?, Array.getElem?_eq_none hge] at h

theorem contains_of_mem_children {a : Atlas} {f e : Ref} (h : e ∈ a.children f) :
    a.contains f := by
  rw [contains_iff]
  exact mem_refs_iff.mp (mem_refs_of_mem_children h)

theorem contains_of_scope {a : Atlas} {f : Ref} (h : a.scope f ≠ .detached) : a.contains f := by
  rw [contains_iff]
  exact mem_refs_iff.mp (mem_refs_of_scope h)

theorem kind_of_folder? {a : Atlas} {f : Ref} {x : Folder} (h : a.folder? f = some x) :
    f.kind = .folder := by
  unfold folder? at h
  split at h
  · next hn => rw [← kind_of_node? hn]; rfl
  · simp at h

theorem folder?_of_scope {a : Atlas} {f : Ref} (h : a.scope f ≠ .detached) :
    ∃ x, a.folder? f = some x := by
  unfold scope at h
  split at h
  · next x hx => exact ⟨x, hx⟩
  · exact absurd rfl h

theorem folder?_of_mem_children {a : Atlas} {f e : Ref} (h : e ∈ a.children f) :
    ∃ x, a.folder? f = some x := by
  unfold children at h
  split at h
  · next x hx => exact ⟨x, hx⟩
  · simp at h

/-- Every entity of the kind of folders is one. -/
theorem folder?_of_contains {a : Atlas} {f : Ref} (h : a.contains f) (hk : f.kind = .folder) :
    ∃ x, a.folder? f = some x := by
  obtain ⟨⟨d, b⟩, hn⟩ := contains_iff.mp h
  have hb := (kind_of_node? hn).trans hk
  unfold folder?
  rw [hn]
  cases b with
  | folder x => exact ⟨x, rfl⟩
  | _ => simp [Node.kind, Body.kind] at hb

/-! ## Refilings -/

/-- `b` is `a` after a refiling, and nothing else has happened. -/
structure Refiles (a b : Atlas) (c : Refiling) : Prop where
  held : b.held = a.held
  shared : b.shared = a.shared
  size : b.nodes.size = a.nodes.size
  node : ∀ r, b.node? r = (a.node? r).map (c.node r)

namespace Refiles

variable {a b x : Atlas} {c d : Refiling}

protected theorem refl (a : Atlas) : a.Refiles a {} where
  held := rfl
  shared := rfl
  size := rfl
  node r := by
    cases h : a.node? r with
    | none => rfl
    | some n =>
        obtain ⟨e, body⟩ := n
        cases body <;> rfl

protected theorem trans (h : a.Refiles b c) (h' : b.Refiles x d) : a.Refiles x (c.andThen d) where
  held := h'.held.trans h.held
  shared := h'.shared.trans h.shared
  size := h'.size.trans h.size
  node r := by
    rw [h'.node, h.node, Option.map_map]
    congr 1
    funext n
    exact Refiling.node_node c d r n

/-- Who uses what meanwhile does not matter. -/
theorem holding {r : Ref} (h : (a.hold r).Refiles b c) : a.Refiles (b.withUseOf a) c :=
  ⟨rfl, rfl, h.size, h.node⟩

theorem isHidden (h : a.Refiles b c) (r : Ref) : b.isHidden r = a.isHidden r :=
  isHidden_congr h.held h.shared r

/-- Only what a refiling does to the entities that there are counts. -/
theorem congr_node (h : a.Refiles b c)
    (hnode : ∀ r n, a.node? r = some n → c.node r n = d.node r n) : a.Refiles b d where
  held := h.held
  shared := h.shared
  size := h.size
  node r := by
    rw [h.node]
    cases hn : a.node? r with
    | none => rfl
    | some n => exact congrArg some (hnode r n hn)

/-- A refiling may be told in other words. -/
theorem congr (h : a.Refiles b c) (hp : ∀ r p, c.parent r p = d.parent r p)
    (hl : ∀ r l, c.list r l = d.list r l) (hs : ∀ r s, c.scope r s = d.scope r s) :
    a.Refiles b d := by
  obtain ⟨cp, cl, cs⟩ := c
  obtain ⟨dp, dl, ds⟩ := d
  obtain rfl : cp = dp := funext fun r => funext (hp r)
  obtain rfl : cl = dl := funext fun r => funext (hl r)
  obtain rfl : cs = ds := funext fun r => funext (hs r)
  exact h

theorem contains (h : a.Refiles b c) (r : Ref) : b.contains r = a.contains r := by
  simp [Atlas.contains, h.node r]

theorem folder? (h : a.Refiles b c) (r : Ref) :
    b.folder? r = (a.folder? r).map fun f => ⟨c.scope r f.scope, c.list r f.children⟩ := by
  unfold Atlas.folder?
  rw [h.node r]
  cases hn : a.node? r with
  | none => rfl
  | some n =>
      obtain ⟨e, body⟩ := n
      cases body <;> rfl

theorem children_of_folder? (h : a.Refiles b c) {f : Ref} {x : Folder}
    (hx : a.folder? f = some x) : b.children f = c.list f (a.children f) := by
  simp [Atlas.children, h.folder? f, hx]

/-- A list changes as the refiling says, if that gives nothing to those that are no folders. -/
theorem children (h : a.Refiles b c) {f : Ref} (hf : c.list f [] = []) :
    b.children f = c.list f (a.children f) := by
  cases hx : a.folder? f with
  | none => simp [Atlas.children, h.folder? f, hx, hf]
  | some x => exact h.children_of_folder? hx

theorem scope_of_folder? (h : a.Refiles b c) {f : Ref} {x : Folder} (hx : a.folder? f = some x) :
    b.scope f = c.scope f (a.scope f) := by
  simp [Atlas.scope, h.folder? f, hx]

theorem scope (h : a.Refiles b c) {f : Ref} (hf : c.scope f .detached = .detached) :
    b.scope f = c.scope f (a.scope f) := by
  cases hx : a.folder? f with
  | none => simp [Atlas.scope, h.folder? f, hx, hf]
  | some x => exact h.scope_of_folder? hx

theorem storedParent (h : a.Refiles b c) (r : Ref) :
    b.storedParent r = if a.contains r then c.parent r (a.storedParent r) else none := by
  unfold Atlas.storedParent Atlas.contains
  rw [h.node r]
  cases a.node? r <;> rfl

theorem parent? (h : a.Refiles b c) (r : Ref) :
    b.parent? r =
      if a.contains r then (c.parent r (a.storedParent r)).filter a.contains else none := by
  have hcontains : b.contains = a.contains := funext h.contains
  rw [parent?_eq, h.storedParent, hcontains]
  split <;> rfl

/-- A parent that the refiling leaves alone stays. -/
theorem parent?_eq_self (h : a.Refiles b c) {r : Ref} (hr : ∀ p, c.parent r p = p) :
    b.parent? r = a.parent? r := by
  rw [h.parent?, hr, Atlas.parent?_eq]
  split
  · rfl
  · next hn =>
      rw [Bool.not_eq_true, Atlas.contains, Option.isSome_eq_false_iff, Option.isNone_iff_eq_none]
        at hn
      simp [Atlas.storedParent, hn]

end Refiles

/-! ## Changes as refilings -/

theorem node?_modify {a : Atlas} {f : Node → Node} (hf : ∀ n, (f n).kind = n.kind) (r s : Ref) :
    (a.modify r f).node? s = if s = r then (a.node? r).map f else a.node? s := by
  split
  · next h => rw [h, node?_modify_self hf]
  · next h => exact node?_modify_of_ne f h

@[simp] theorem held_set (a : Atlas) (r : Ref) (n : Node) : (a.set r n).held = a.held := by
  unfold set
  split <;> rfl

@[simp] theorem shared_set (a : Atlas) (r : Ref) (n : Node) : (a.set r n).shared = a.shared := by
  unfold set
  split <;> rfl

@[simp] theorem size_set (a : Atlas) (r : Ref) (n : Node) :
    (a.set r n).nodes.size = a.nodes.size := by
  unfold set
  split
  · simp
  · rfl

@[simp] theorem held_modify (a : Atlas) (r : Ref) (f : Node → Node) :
    (a.modify r f).held = a.held := by
  unfold modify
  split
  · simp
  · rfl

@[simp] theorem shared_modify (a : Atlas) (r : Ref) (f : Node → Node) :
    (a.modify r f).shared = a.shared := by
  unfold modify
  split
  · simp
  · rfl

@[simp] theorem size_modify (a : Atlas) (r : Ref) (f : Node → Node) :
    (a.modify r f).nodes.size = a.nodes.size := by
  unfold modify
  split
  · simp
  · rfl

/-- A change of one node is a refiling if it is one of that node. -/
theorem modify_refiles {a : Atlas} {r : Ref} {f : Node → Node} {c : Refiling}
    (hself : ∀ n, f n = c.node r n) (hne : ∀ s, s ≠ r → ∀ n, c.node s n = n) :
    a.Refiles (a.modify r f) c where
  held := held_modify a r f
  shared := shared_modify a r f
  size := size_modify a r f
  node s := by
    rw [node?_modify fun n => by rw [hself, Refiling.kind_node]]
    split
    · next h =>
        rw [h]
        congr 1
        exact funext hself
    · next h =>
        rw [funext (hne s h)]
        exact Option.map_id'.symm

theorem setParent_refiles (a : Atlas) (r : Ref) (p : Option Ref) :
    a.Refiles (a.setParent r p) { parent := fun s q => if s = r then p else q } := by
  refine modify_refiles (fun n => ?_) fun s hs n => ?_
  · obtain ⟨d, b⟩ := n
    cases b <;> simp [Refiling.node]
  · obtain ⟨d, b⟩ := n
    cases b <;> simp [Refiling.node, hs]

theorem modifyFolder_refiles (a : Atlas) (r : Ref) (list : List Ref → List Ref)
    (scope : Scope → Scope) :
    a.Refiles (a.modifyFolder r fun f => ⟨scope f.scope, list f.children⟩)
      { list := fun s l => if s = r then list l else l
        scope := fun s x => if s = r then scope x else x } := by
  refine modify_refiles (fun n => ?_) fun s hs n => ?_
  · obtain ⟨d, b⟩ := n
    cases b <;> simp [Refiling.node]
  · obtain ⟨d, b⟩ := n
    cases b <;> simp [Refiling.node, hs]

theorem append_refiles (a : Atlas) (r item : Ref) :
    a.Refiles (a.append r item) { list := fun s l => if s = r then l ++ [item] else l } :=
  (modifyFolder_refiles a r (· ++ [item]) id).congr (fun _ _ => rfl) (fun _ _ => rfl)
    fun _ _ => ite_self _

theorem forget_refiles (a : Atlas) (r item : Ref) :
    a.Refiles (a.forget r item) { list := fun s l => if s = r then l.filter (· ≠ item) else l } :=
  (modifyFolder_refiles a r (·.filter (· ≠ item)) id).congr (fun _ _ => rfl) (fun _ _ => rfl)
    fun _ _ => ite_self _

/-- Several entities get one parent, except those that are held. -/
theorem foldl_setParent_refiles (a : Atlas) (cs : List Ref) (owner : Option Ref) :
    a.Refiles (cs.foldl (fun a c => if a.isHeld c then a else a.setParent c owner) a)
      { parent := fun e p => if e ∈ cs ∧ a.isHeld e = false then owner else p } := by
  induction cs generalizing a with
  | nil => exact (Refiles.refl a).congr (by simp) (fun _ _ => rfl) fun _ _ => rfl
  | cons c rest ih =>
      rw [List.foldl_cons]
      split
      · next hheld =>
          refine (ih a).congr (fun e p => ?_) (fun _ _ => rfl) fun _ _ => rfl
          by_cases he : e = c
          · subst he
            simp [hheld]
          · simp [he]
      · next hfree =>
          have hset := setParent_refiles a c owner
          have hheld : ∀ e, (a.setParent c owner).isHeld e = a.isHeld e := by
            simp [isHeld, hset.held]
          refine (hset.trans (ih (a.setParent c owner))).congr (fun e p => ?_) (fun _ _ => rfl)
            fun _ _ => rfl
          by_cases he : e = c
          · subst he
            simp [Refiling.andThen, hheld, hfree]
          · simp [Refiling.andThen, hheld, he]

theorem rebind_refiles (a : Atlas) (r : Ref) {scope : Scope} (hscope : scope ≠ .detached) :
    a.Refiles (a.rebind r scope)
      { parent := fun e p => if e ∈ a.children r ∧ a.isHeld e = false then scope.owner r else p
        scope := fun f x => if f = r then scope else x } := by
  have hparents := foldl_setParent_refiles a (a.children r) (scope.owner r)
  have hrebind : a.rebind r scope =
      ((a.children r).foldl (fun a c => if a.isHeld c then a else a.setParent c (scope.owner r))
        a).modifyFolder r fun f => ⟨scope, f.children⟩ := by
    cases scope with
    | detached => exact absurd rfl hscope
    | root | bound => rfl
  rw [hrebind]
  exact (hparents.trans (modifyFolder_refiles _ r id fun _ => scope)).congr (fun _ _ => rfl)
    (fun _ _ => ite_self _) fun _ _ => rfl

theorem children_rebind {a : Atlas} {r : Ref} {scope : Scope} (hscope : scope ≠ .detached)
    (f : Ref) :
    (a.rebind r scope).children f = a.children f :=
  (rebind_refiles a r hscope).children rfl

/-- A folder that is settled becomes the parent of its children. -/
theorem settle_refiles (a : Atlas) (r : Ref) :
    a.Refiles (a.settle r)
      { parent := fun e p => if e ∈ a.children r ∧ a.isHeld e = false then some r else p
        scope := fun f x => if f = r then .bound else x } := by
  unfold settle
  split
  · exact rebind_refiles a r (nofun : Scope.bound ≠ .detached)
  · next hk =>
      -- nothing is a folder under the ref, so that it has no children and its scope does not matter
      have hnil : a.children r = [] := by
        rw [List.eq_nil_iff_forall_not_mem]
        intro e he
        obtain ⟨x, hx⟩ := folder?_of_mem_children he
        exact hk (kind_of_folder? hx)
      refine (Refiles.refl a).congr_node fun s n hn => ?_
      obtain ⟨d, b⟩ := n
      cases b with
      | folder f =>
          have hs : s ≠ r := by
            rintro rfl
            exact hk (kind_of_node? hn).symm
          simp [Refiling.node, hs, hnil]
      | _ => simp [Refiling.node, hnil]

theorem children_settle (a : Atlas) (r f : Ref) : (a.settle r).children f = a.children f :=
  (settle_refiles a r).children rfl

theorem scope_settle_of_ne (a : Atlas) {r f : Ref} (hf : f ≠ r) :
    (a.settle r).scope f = a.scope f :=
  ((settle_refiles a r).scope (if_neg hf)).trans (if_neg hf)

/-- Without children only the scope changes. -/
theorem settle_refiles_of_children_eq_nil {a : Atlas} {r : Ref} (hr : a.children r = []) :
    a.Refiles (a.settle r) { scope := fun f x => if f = r then .bound else x } :=
  (settle_refiles a r).congr (by simp [hr]) (fun _ _ => rfl) fun _ _ => rfl

/-! ## Erasing -/

theorem node?_erase (a : Atlas) (r s : Ref) :
    (a.erase r).node? s = if s = r then none else a.node? s := by
  split
  · next h => rw [h, node?_erase_self]
  · next h => exact node?_erase_of_ne h

theorem held_erase (a : Atlas) (r : Ref) : (a.erase r).held = a.held := by
  unfold erase
  split <;> rfl

theorem size_erase (a : Atlas) (r : Ref) : (a.erase r).nodes.size = a.nodes.size := by
  unfold erase
  split
  · simp
  · rfl

theorem contains_erase (a : Atlas) (r s : Ref) :
    (a.erase r).contains s = if s = r then false else a.contains s := by
  rw [contains, contains, node?_erase]
  split <;> rfl

theorem folder?_erase (a : Atlas) (r f : Ref) :
    (a.erase r).folder? f = if f = r then none else a.folder? f := by
  unfold folder?
  rw [node?_erase]
  by_cases hf : f = r <;> simp [hf]

theorem children_erase (a : Atlas) (r f : Ref) :
    (a.erase r).children f = if f = r then [] else a.children f := by
  rw [children, children, folder?_erase]
  by_cases hf : f = r <;> simp [hf]

theorem scope_erase (a : Atlas) (r f : Ref) :
    (a.erase r).scope f = if f = r then .detached else a.scope f := by
  rw [scope, scope, folder?_erase]
  by_cases hf : f = r <;> simp [hf]

theorem storedParent_erase (a : Atlas) (r s : Ref) :
    (a.erase r).storedParent s = if s = r then none else a.storedParent s := by
  rw [storedParent, storedParent, node?_erase]
  split <;> rfl

/-! ## Taking in -/

/-- A folder strikes an entity off its list when another owner takes it in: it is the parent, it is
not the new owner, and it is not held. -/
def Leaves (a : Atlas) (item : Ref) (owner : Option Ref) (f : Ref) : Prop :=
  a.parent? item = some f ∧ owner ≠ some f ∧ a.isHeld f = false

instance (a : Atlas) (item : Ref) (owner : Option Ref) (f : Ref) :
    Decidable (a.Leaves item owner f) :=
  inferInstanceAs (Decidable (_ ∧ _ ∧ _))

theorem leave_refiles (a : Atlas) (item : Ref) (owner : Option Ref) :
    a.Refiles (a.leave item owner)
      { list := fun f l => if a.Leaves item owner f then l.filter (· ≠ item) else l } := by
  unfold leave
  cases hp : a.parent? item with
  | none => exact (Refiles.refl a).congr (fun _ _ => rfl) (by simp [Leaves, hp]) fun _ _ => rfl
  | some p =>
      dsimp only
      by_cases hstay : owner = some p ∨ a.isHeld p = true
      · rw [if_pos (by simpa using hstay)]
        have hnone : ∀ f, ¬a.Leaves item owner f := by
          rintro f ⟨hf, howner, hheld⟩
          obtain rfl : p = f := by simpa [hp] using hf
          rcases hstay with h | h
          · exact howner h
          · simp [hheld] at h
        exact (Refiles.refl a).congr (fun _ _ => rfl) (by simp [hnone]) fun _ _ => rfl
      · rw [if_neg (by simpa using hstay)]
        refine (forget_refiles a p item).congr (fun _ _ => rfl) (fun f l => ?_) fun _ _ => rfl
        have hiff : f = p ↔ a.Leaves item owner f := by
          simp only [Leaves, hp, Option.some.injEq]
          constructor
          · rintro rfl
            exact ⟨rfl, fun h => hstay (Or.inl h), by simpa using fun h => hstay (Or.inr h)⟩
          · exact fun h => h.1.symm
        simp only [hiff]

/-- The parent that a shelf gives to what it takes in. -/
def owner (a : Atlas) (t : Ref) : Option Ref := if a.scope t = .bound then some t else none

/-- What taking an entity in does to the filing. -/
def adoption (a : Atlas) (t item : Ref) : Refiling where
  parent r p := if r = item then a.owner t else p
  list f l :=
    let rest := if a.Leaves item (a.owner t) f then l.filter (· ≠ item) else l
    if f = t then rest ++ [item] else rest

/-- How a folder that is not detached takes an entity in. -/
theorem attach_eq {a : Atlas} {s : Shelf} (hscope : a.scope s.folder ≠ .detached) (item : Ref) :
    a.attach s item =
      if a.isHeld item then .error (.validation none (.itemHeld s.kind))
      else (a.checkAdoption s.folder item).map fun _ =>
        (a.leave item (a.owner s.folder)).setParent item (a.owner s.folder) := by
  unfold attach owner
  cases h : a.scope s.folder with
  | detached => exact absurd h hscope
  | root => rfl
  | bound => rfl

/-- What has to be so for a folder that is not detached to take an entity in. -/
theorem attach_eq_ok_iff {a b : Atlas} {s : Shelf} {item : Ref}
    (hscope : a.scope s.folder ≠ .detached) :
    a.attach s item = .ok b ↔
      a.isHeld item = false ∧ a.checkAdoption s.folder item = .ok () ∧
        b = (a.leave item (a.owner s.folder)).setParent item (a.owner s.folder) := by
  rw [attach_eq hscope]
  cases a.isHeld item with
  | true => simp
  | false =>
      cases a.checkAdoption s.folder item with
      | error e => simp [Except.map]
      | ok u => simp [Except.map, eq_comm]

theorem attach_append_refiles {a b : Atlas} {s : Shelf} {item : Ref}
    (hscope : a.scope s.folder ≠ .detached) (h : a.attach s item = .ok b) :
    a.Refiles (b.append s.folder item) (a.adoption s.folder item) := by
  obtain ⟨-, -, rfl⟩ := (attach_eq_ok_iff hscope).mp h
  have hleave := leave_refiles a item (a.owner s.folder)
  exact ((hleave.trans (setParent_refiles _ _ _)).trans (append_refiles _ _ _)).congr
    (fun _ _ => rfl) (fun _ _ => rfl) fun _ _ => rfl

/-! ## Taking off -/

/-- What taking an entity off a list does to the filing. -/
def dismissal (a : Atlas) (t item : Ref) : Refiling where
  parent r p :=
    if r = item ∧ a.scope t = .bound ∧ a.isHeld item = false ∧ a.parent? item = some t then none
    else p
  list f l := if f = t then l.filter (· ≠ item) else l

theorem forget_release_refiles (a : Atlas) (s : Shelf) (item : Ref) :
    a.Refiles ((a.forget s.folder item).release s item) (a.dismissal s.folder item) := by
  have hforget := forget_refiles a s.folder item
  have hscope : (a.forget s.folder item).scope s.folder = a.scope s.folder := hforget.scope rfl
  have hparent : (a.forget s.folder item).parent? item = a.parent? item :=
    hforget.parent?_eq_self fun _ => rfl
  have hheld : (a.forget s.folder item).isHeld item = a.isHeld item := by
    simp [isHeld, hforget.held]
  unfold release
  rw [hscope, hparent, hheld]
  cases hs : a.scope s.folder with
  | detached => exact hforget.congr (by simp [dismissal, hs]) (fun _ _ => rfl) fun _ _ => rfl
  | root => exact hforget.congr (by simp [dismissal, hs]) (fun _ _ => rfl) fun _ _ => rfl
  | bound =>
      dsimp only
      split
      · next h =>
          refine (hforget.trans (setParent_refiles _ _ _)).congr (fun r p => ?_) (fun _ _ => rfl)
            fun _ _ => rfl
          have h : a.isHeld item = false ∧ a.parent? item = some s.folder := by simpa using h
          simp [Refiling.andThen, dismissal, hs, h]
      · next h =>
          refine hforget.congr (fun r p => ?_) (fun _ _ => rfl) fun _ _ => rfl
          have h : ¬(a.isHeld item = false ∧ a.parent? item = some s.folder) := by simpa using h
          simp [dismissal, hs, h]

end Atlas

end Gazetteer
