import Gazetteer.Atlas.Selection

/-!
# Shelves

A `Shelf` is what a folder lists of one kind. Entities are created on it, inserted, added and taken
off; while that happens the folder is hidden. An entity gets another parent, and a folder loses one
that it lists, only while nobody else reads or changes it. A folder that stands somewhere takes an
entity away from the folder that listed it before, and no folder gets below itself.
-/

namespace Gazetteer

structure Shelf where
  folder : Ref
  kind : Kind
  deriving DecidableEq, Repr

namespace Atlas

/-- What stands on a shelf, in order. -/
def items (a : Atlas) (s : Shelf) : List Ref := a.childrenOf s.folder s.kind

/-- The entities on a shelf. -/
def selectShelf (a : Atlas) (s : Shelf) : Selection := { kind := s.kind, items := a.items s }

/-- The entities on a shelf and below its folder. -/
def selectAll (a : Atlas) (s : Shelf) : Selection :=
  { kind := s.kind, items := a.all s.folder s.kind }

/-! ### Taking in entities -/

/-- The folders that a search through the folders below one comes across, the last listed first. A
hidden folder is come across and not entered. -/
def foldersBelow (a : Atlas) (r : Ref) : List Ref :=
  (Walk.depthFirst (fun f => (a.openFolders f).reverse) a.refs []
    (a.childrenOf r .folder).reverse).1

/-- Refuses to put a folder below `target` if that is below it, or if a hidden folder below it keeps
that from being known. The one that is put there is being changed and hidden itself. -/
def checkAdoption (a : Atlas) (target item : Ref) : Except Error Unit :=
  if item.kind = .folder then
    let b := a.hold item
    match (b.foldersBelow item).find? fun f => f = target || b.isHidden f with
    | some f =>
      if f = target then .error (.validation (some "folders") .ownDescendant)
      else .error (.validation (some "folders") .descendantHeld)
    | none => .ok ()
  else .ok ()

/-- Strikes an entity off the list of its parent, unless that is the new owner, or is read or
changed by somebody. -/
def leave (a : Atlas) (item : Ref) (owner : Option Ref) : Atlas :=
  match a.parent? item with
  | some p => if owner = some p || a.isHeld p then a else a.forget p item
  | none => a

/-- Makes an entity ready to stand on a shelf: takes it away from its parent and sets the new one,
which needs an entity that nobody else reads or changes. A detached folder leaves it as it is. -/
def attach (a : Atlas) (s : Shelf) (item : Ref) : Except Error Atlas :=
  let adopt (owner : Option Ref) : Except Error Atlas :=
    if a.isHeld item then .error (.validation none (.itemHeld s.kind))
    else
      (a.checkAdoption s.folder item).map fun _ => (a.leave item owner).setParent item owner
  match a.scope s.folder with
  | .detached => .ok a
  | .root => adopt none
  | .bound => adopt (some s.folder)

/-- Puts entities that the shelf does not have at its end, up to the first that is refused. -/
def addEach (a : Atlas) (s : Shelf) : List Ref → Except Error Unit × Atlas
  | [] => (.ok (), a)
  | item :: rest =>
    if (a.items s).contains item then a.addEach s rest
    else
      match a.attach s item with
      | .ok b => (b.append s.folder item).addEach s rest
      | .error e => (.error e, a)

/-- Puts existing entities on a shelf. -/
def add (a : Atlas) (s : Shelf) (items : List Ref) : Except Error Unit × Atlas :=
  a.holding s.folder fun a => a.addEach s items

/-! ### New entities -/

/-- Gives a folder a scope, and its children the parent that goes with it. Children that somebody
reads or changes stay as they are. -/
def rebind (a : Atlas) (r : Ref) (scope : Scope) : Atlas :=
  let reparent (a : Atlas) (owner : Option Ref) : Atlas :=
    (a.children r).foldl (fun a c => if a.isHeld c then a else a.setParent c owner) a
  let b :=
    match scope with
    | .detached => a
    | .root => reparent a none
    | .bound => reparent a (some r)
  b.modifyFolder r fun f => { f with scope := scope }

/-- Makes a new entity one among the others: a folder becomes the parent of its children. -/
def settle (a : Atlas) (r : Ref) : Atlas := if r.kind = .folder then a.rebind r .bound else a

/-- Creates an entity with the given fields at the end of a shelf. -/
def create (a : Atlas) (s : Shelf) (fields : Criteria) : Except Error Ref × Atlas :=
  a.holding s.folder fun a =>
    let (r, b) := a.insert (.blank s.kind)
    match b.update r fields with
    | (.error e, _) => (.error e, a)
    | (.ok (), b) =>
      match b.attach s r with
      | .error e => (.error e, a)
      | .ok b => (.ok r, b.append s.folder r)

/-- A new entity with some fields assigned and not checked, not yet in its place. -/
def draft (a : Atlas) (k : Kind) (fields : Criteria) : Except Error Ref × Atlas :=
  let blank : Node :=
    match k with
    | .folder => { body := .folder { scope := .detached } }
    | k => .blank k
  let (r, b) := a.insert blank
  match b.assignAll r fields.pairs with
  | (.ok (), b) => (.ok r, b)
  | (.error e, _) => (.error e, a)

/-- Several drafts, or none if one is refused. -/
def drafts (a : Atlas) (k : Kind) : List Criteria → Except Error (List Ref) × Atlas
  | [] => (.ok [], a)
  | c :: cs =>
    match a.draft k c with
    | (.error e, b) => (.error e, b)
    | (.ok r, b) =>
      match b.drafts k cs with
      | (.error e, _) => (.error e, a)
      | (.ok rs, b) => (.ok (r :: rs), b)

/-- Puts a draft on a shelf. A refused one is gone. -/
def shelve (a : Atlas) (s : Shelf) (draft : Ref) : Except Error Ref × Atlas :=
  a.holding s.folder fun a =>
    match (a.settle draft).addEach s [draft] with
    | (.ok (), b) => (.ok draft, b)
    | (.error e, b) => (.error e, b.erase draft)

/-- Puts drafts on a shelf without any check. -/
def shelveAll (a : Atlas) (s : Shelf) (drafts : List Ref) : Atlas :=
  let place (a : Atlas) (r : Ref) : Atlas :=
    let b := a.settle r
    match b.scope s.folder with
    | .bound => b.setParent r (some s.folder)
    | _ => b
  let ((), b) := a.holding s.folder fun a =>
    ((), drafts.foldl (fun a r => a.append s.folder r) (drafts.foldl place a))
  b

/-- The only entity on a shelf that satisfies the criteria, or else a new one that they are assigned
to; and whether it is new. -/
def getOrCreate (a : Atlas) (s : Shelf) (criteria : Criteria) :
    Except Error (Ref × Bool) × Atlas :=
  let fresh : Except Error (Ref × Bool) × Atlas :=
    match a.create s criteria with
    | (.ok r, b) => (.ok (r, true), b)
    | (.error e, b) => (.error e, b)
  match (a.selectShelf s).get (a.hold s.folder) criteria with
  | .ok r => (.ok (r, false), a)
  | .error (.notFound ..) => fresh
  | .error (.multipleReturned ..) => fresh
  | .error e => (.error e, a)

/-! ### Taking off -/

/-- Clears the parent of an entity that is taken off a shelf, if that is the folder of the shelf. An
entity that somebody reads or changes keeps it. -/
def release (a : Atlas) (s : Shelf) (item : Ref) : Atlas :=
  match a.scope s.folder with
  | .bound =>
    if !a.isHeld item && a.parent? item = some s.folder then a.setParent item none else a
  | _ => a

/-- Takes entities off a shelf and counts those that were on it. -/
def removeEach (a : Atlas) (s : Shelf) : List Ref → Nat × Atlas
  | [] => (0, a)
  | item :: rest =>
    if (a.items s).contains item then
      let (count, b) := ((a.forget s.folder item).release s item).removeEach s rest
      (count + 1, b)
    else a.removeEach s rest

/-- Takes entities off a shelf and counts those that were on it. -/
def remove (a : Atlas) (s : Shelf) (items : List Ref) : Nat × Atlas :=
  a.holding s.folder fun a => a.removeEach s items

/-- Takes everything off a shelf. -/
def clear (a : Atlas) (s : Shelf) : Atlas :=
  (a.remove s (a.items s)).2

end Atlas

end Gazetteer
