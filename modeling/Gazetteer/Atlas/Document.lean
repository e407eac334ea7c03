import Gazetteer.Atlas.Shelf

/-!
# Documents

A document is a folder at the top. This module makes documents, sums up what is below one, and
forgets folders that nothing leads to any more.
-/

namespace Gazetteer

open Geodesy

namespace Atlas

/-- What a document has of a kind, itself and below. While its root is hidden that is nothing. -/
def documentItems (a : Atlas) (root : Ref) (k : Kind) : List Ref :=
  if a.isHidden root then [] else (a.collect k (a.childrenOf root k) (some root)).items

/-- How many entities of a kind a document has. -/
def documentCount (a : Atlas) (root : Ref) (k : Kind) : Nat := (a.documentItems root k).length

/-- The smallest bounds around all placemarks and points of a document. -/
def documentBounds (a : Atlas) (root : Ref) : Option Bounds :=
  Bounds.enclosing
    ((a.documentItems root .placemark ++ a.documentItems root .point).filterMap a.position?)

/-! ### Forgetting -/

/-- All folders that some folder lists. -/
def listedFolders (a : Atlas) : List Ref := a.refs.flatMap fun r => a.childrenOf r .folder

/-- One folder that nothing refers to: it is not kept from outside, and no folder lists it. -/
def stray? (a : Atlas) (kept : List Ref) : Option Ref :=
  let listed := a.listedFolders
  a.refs.find? fun r => r.kind = .folder && !kept.contains r && !listed.contains r

/-- Erases up to `count` folders that nothing refers to. -/
def eraseStrays (a : Atlas) (kept : List Ref) : Nat → Atlas
  | 0 => a
  | count + 1 =>
    match a.stray? kept with
    | some r => (a.erase r).eraseStrays kept count
    | none => a

/-- The atlas without the folders that nothing refers to: neither one of `kept` nor a folder that
stays. Folders that list each other in a circle stay. -/
def forgetStrays (a : Atlas) (kept : List Ref) : Atlas := a.eraseStrays kept a.nodes.size

end Atlas

end Gazetteer
