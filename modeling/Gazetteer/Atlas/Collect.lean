import Gazetteer.Atlas.Basic
import Gazetteer.Atlas.Walk

/-!
# Collecting entities

`Atlas.unwrap` finds the geometries of one kind inside groups, at any depth. `Atlas.collect` finds
the entities of one kind below a folder: those that the folders on the way list and, if they are
geometries, those embedded in their placemarks and groups. A hidden folder, placemark or group is
not looked into.
-/

namespace Gazetteer.Atlas

/-! ### Groups of geometries -/

/-- The members of a group that is not hidden. -/
def openMembers (a : Atlas) (r : Ref) : List Ref := if a.isHidden r then [] else a.members r

/-- What seeds unwrap to, and which refs have been entered in the end; `seen` are those entered
before. Each group comes before its members, and only where it is met first do they follow. -/
def unwrapFrom (a : Atlas) (seen seeds : List Ref) : List Ref × List Ref :=
  Walk.depthFirst a.openMembers a.refs seen seeds

/-- The geometries of a kind among seeds and at any depth inside them, each once. -/
def unwrap (a : Atlas) (k : Kind) (seeds : List Ref) : List Ref :=
  firstBy id ((a.unwrapFrom [] seeds).1.filter (·.kind = k))

/-! ### Folders -/

/-- The folders in a folder that is not hidden. -/
def openFolders (a : Atlas) (r : Ref) : List Ref :=
  if a.isHidden r then [] else a.childrenOf r .folder

/-- The folders below and including one, with the depths at which they are met. -/
def reach (a : Atlas) (root : Ref) : List (Ref × Nat) :=
  Walk.breadthFirst a.openFolders a.refs [] [(root, 0)]

/-- The placemarks in a folder that are not hidden. -/
def openPlacemarks (a : Atlas) (folder : Ref) : List Ref :=
  (a.childrenOf folder .placemark).filter fun r => !a.isHidden r

/-- The geometries that stand in a folder without being listed as what they are: those of its
placemarks, and its groups. -/
def seeds (a : Atlas) (folder : Ref) : List Ref :=
  (a.openPlacemarks folder).flatMap a.embedded ++ a.childrenOf folder .multiGeometry

/-- The entities of a kind that folders contribute one after the other, with repeats, and the refs
entered in the end. The folder `root` does not contribute what it lists. -/
def contributions (a : Atlas) (k : Kind) (root : Ref) (seen : List Ref) :
    List Ref → List Ref × List Ref
  | [] => ([], seen)
  | c :: cs =>
    let listed := if c = root then [] else a.childrenOf c k
    let (inside, seen) := if k.isGeometry then a.unwrapFrom seen (a.seeds c) else ([], seen)
    let (rest, seen) := a.contributions k root seen cs
    (listed ++ inside.filter (·.kind = k) ++ rest, seen)

/-- What a collection went through. -/
structure Tally where
  /-- Folders looked into. -/
  visited : Nat := 0
  /-- Folders that were hidden. -/
  skipped : Nat := 0
  placemarks : Nat := 0
  /-- Groups of geometries entered. -/
  aggregates : Nat := 0
  collected : Nat := 0
  duplicates : Nat := 0
  /-- The greatest depth of a folder looked into. -/
  depth : Nat := 0

/-- What was collected, each entity once, and what was gone through. -/
structure Collection where
  items : List Ref
  tally : Tally

/-- Collects `own` and all entities of a kind below a folder. -/
def collect (a : Atlas) (k : Kind) (own : List Ref) (folder? : Option Ref) : Collection :=
  let (met, folders) : List (Ref × Nat) × List (Ref × Nat) :=
    match folder? with
    | some root => (a.reach root).partition fun (r, _) => a.isHidden r
    | none => ([], [])
  let visited := folders.map (·.1)
  let (found, entered) : List Ref × List Ref :=
    match folder? with
    | some root => a.contributions k root [] visited
    | none => ([], [])
  let candidates := own ++ found
  let items := firstBy id candidates
  ⟨items, {
    visited := visited.length
    skipped := met.length
    placemarks := if k.isGeometry then (visited.flatMap a.openPlacemarks).length else 0
    aggregates := (entered.filter (·.kind = .multiGeometry)).length
    collected := items.length
    duplicates := candidates.length - items.length
    depth := (folders.map (·.2)).foldl max 0 }⟩

/-- What a folder lists of a kind and everything of that kind below it. A detached folder has nothing
below it. -/
def all (a : Atlas) (folder : Ref) (k : Kind) : List Ref :=
  let own := a.childrenOf folder k
  match a.scope folder with
  | .detached => (a.collect k own none).items
  | _ => (a.collect k own (some folder)).items

end Gazetteer.Atlas
