/-!
# The content of TOML documents

An `Item` is a value or a table. How a table came about decides what may still be added to it:
`put` adds a dotted key, `openTable` and `openElement` start the table of a header, and all of them
refuse what would define something twice.
-/

namespace Gazetteer.Toml

/-- How a table was introduced. -/
inductive Origin where
  /-- By a header of its own. -/
  | header
  /-- By the header of a table inside it. -/
  | implied
  /-- By a dotted key. -/
  | dotted
  /-- By a value in braces, which is closed. -/
  | braces
  deriving DecidableEq, Repr

inductive Item where
  | string (s : String)
  | integer (n : Int)
  | float (x : Float)
  | boolean (b : Bool)
  | dateTime
  | array (items : List Item)
  | table (origin : Origin) (entries : List (String × Item))
  /-- Tables that were opened one after another under one doubled header; the last is still open. -/
  | tables (earlier : List (List (String × Item))) (last : List (String × Item))
  deriving Inhabited

/-- The named items of a table. -/
abbrev Entries := List (String × Item)

/-- The entries with an item under a name that is already there. -/
def replace (key : String) (item : Item) (es : Entries) : Entries :=
  es.map fun (k, v) => if k = key then (k, item) else (k, v)

/-- Adds an item under a dotted key. Tables on the way are made as needed; those of headers are not
added to, nor are closed ones. -/
def put : List String → Item → Entries → Option Entries
  | [], _, _ => none
  | [key], item, es => if (es.lookup key).isSome then none else some (es ++ [(key, item)])
  | key :: k :: path, item, es =>
    match es.lookup key with
    | none => (put (k :: path) item []).map fun inner => es ++ [(key, .table .dotted inner)]
    | some (.table origin inner) =>
      if origin = .dotted ∨ origin = .implied ∧ path ≠ [] then
        (put (k :: path) item inner).map fun inner => replace key (.table origin inner) es
      else none
    | some (.tables earlier last) =>
      if path = [] then none
      else (put (k :: path) item last).map fun last => replace key (.tables earlier last) es
    | some _ => none

/-- Changes the table that a header leads to. Tables on the way are made as needed. -/
def changeAt (change : Entries → Option Entries) : List String → Entries → Option Entries
  | [], es => change es
  | key :: path, es =>
    match es.lookup key with
    | none => (changeAt change path []).map fun inner => es ++ [(key, .table .implied inner)]
    | some (.table origin inner) =>
      if origin = .braces then none
      else (changeAt change path inner).map fun inner => replace key (.table origin inner) es
    | some (.tables earlier last) =>
      (changeAt change path last).map fun last => replace key (.tables earlier last) es
    | some _ => none

/-- Starts the table of a header. It may have been implied before, but not defined. -/
def openTable (key : String) (es : Entries) : Option Entries :=
  match es.lookup key with
  | none => some (es ++ [(key, .table .header [])])
  | some (.table .implied inner) => some (replace key (.table .header inner) es)
  | some _ => none

/-- Starts one more table of a doubled header. -/
def openElement (key : String) (es : Entries) : Option Entries :=
  match es.lookup key with
  | none => some (es ++ [(key, .tables [] [])])
  | some (.tables earlier last) => some (replace key (.tables (earlier ++ [last]) []) es)
  | some _ => none

end Gazetteer.Toml
