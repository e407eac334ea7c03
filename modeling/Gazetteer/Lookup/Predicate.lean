import Gazetteer.Error
import Gazetteer.Pattern.Basic
import Gazetteer.Value.Order

/-!
# Lookups and predicates

A `Predicate` is one criterion of a query: a field path, and a `Lookup` that says how the value of
the field is compared. Its key is the path with points or doubled underscores between the segments;
after the last doubled underscore stands the name of the lookup.
-/

namespace Gazetteer

/-- The lookups. -/
inductive LookupName where
  | exact
  | iexact
  | contains
  | icontains
  | startswith
  | istartswith
  | endswith
  | iendswith
  | regex
  | iregex
  | gt
  | gte
  | lt
  | lte
  | in_
  | range
  | isnull
  deriving DecidableEq, Repr

namespace LookupName

def all : List LookupName :=
  [exact, iexact, contains, icontains, startswith, istartswith, endswith, iendswith, regex, iregex,
    gt, gte, lt, lte, in_, range, isnull]

/-- The name of a lookup in keys. -/
def text : LookupName → String
  | exact => "exact"
  | iexact => "iexact"
  | contains => "contains"
  | icontains => "icontains"
  | startswith => "startswith"
  | istartswith => "istartswith"
  | endswith => "endswith"
  | iendswith => "iendswith"
  | regex => "regex"
  | iregex => "iregex"
  | gt => "gt"
  | gte => "gte"
  | lt => "lt"
  | lte => "lte"
  | in_ => "in"
  | range => "range"
  | isnull => "isnull"

/-- The lookup with a name. -/
def ofText? (s : String) : Option LookupName := all.find? (·.text == s)

end LookupName

/-- A lookup with its operand. The operands of lookups that ignore case are in lower case, and a
pattern knows by itself whether it ignores case. -/
inductive Lookup where
  | exact (operand : Value)
  | iexact (operand : String)
  | contains (operand : String)
  | icontains (operand : String)
  | startswith (operand : String)
  | istartswith (operand : String)
  | endswith (operand : String)
  | iendswith (operand : String)
  | regex (pattern : Pattern)
  | gt (operand : Value)
  | gte (operand : Value)
  | lt (operand : Value)
  | lte (operand : Value)
  | in_ (operands : List Value)
  | range (low high : Value)
  | isnull (flag : Bool)

namespace Lookup

def name : Lookup → LookupName
  | exact _ => .exact
  | iexact _ => .iexact
  | contains _ => .contains
  | icontains _ => .icontains
  | startswith _ => .startswith
  | istartswith _ => .istartswith
  | endswith _ => .endswith
  | iendswith _ => .iendswith
  | regex _ => .regex
  | gt _ => .gt
  | gte _ => .gte
  | lt _ => .lt
  | lte _ => .lte
  | in_ _ => .in_
  | range _ _ => .range
  | isnull _ => .isnull

/-- The pattern of a text that is within the limits; `key` is the key of the predicate. -/
def pattern (key : String) (caseless : Bool) (source : String) : Except Error Pattern :=
  if maxPatternLength < source.utf8ByteSize then
    .error (.query none (.limit (.patternTooLong source.utf8ByteSize)))
  else
    match Pattern.compile? caseless source with
    | some p => .ok p
    | none => .error (.query (some key) .pattern)

/-- The lookup of a name and an operand; `key` is the key of the predicate. -/
def make (key : String) (operand : Value) : LookupName → Except Error Lookup
  | .exact => .ok (exact operand)
  | .iexact => .ok (iexact (Text.lowercase operand.plain))
  | .contains => .ok (contains operand.plain)
  | .icontains => .ok (icontains (Text.lowercase operand.plain))
  | .startswith => .ok (startswith operand.plain)
  | .istartswith => .ok (istartswith (Text.lowercase operand.plain))
  | .endswith => .ok (endswith operand.plain)
  | .iendswith => .ok (iendswith (Text.lowercase operand.plain))
  | .regex => (pattern key false operand.plain).map regex
  | .iregex => (pattern key true operand.plain).map regex
  | .gt => .ok (gt operand)
  | .gte => .ok (gte operand)
  | .lt => .ok (lt operand)
  | .lte => .ok (lte operand)
  | .in_ =>
    match operand with
    | .array items =>
      if maxOperands < items.length then
        .error (.query none (.limit (.tooManyOperands items.length)))
      else .ok (in_ items)
    | got => .error (.query (some key) (.notArray got))
  | .range =>
    match operand with
    | .array [low, high] => .ok (range low high)
    | got => .error (.query (some key) (.notPair got))
  | .isnull =>
    match operand with
    | .bool flag => .ok (isnull flag)
    | got => .error (.query (some key) (.notFlag got))

/-- Whether a text stands at the front of another. -/
def startsWith (s t : String) : Bool := t.toList.isPrefixOf s.toList

/-- Whether a text stands at the end of another. -/
def endsWith (s t : String) : Bool := t.toList.isSuffixOf s.toList

/-- Whether a text stands anywhere in another. -/
def hasInside (s t : String) : Bool := Text.occursIn t.toList s.toList

/-- Whether a value is at least the operand. -/
def atLeast (v operand : Value) : Bool :=
  match Value.compare? v operand with
  | some .gt => true
  | some .eq => true
  | _ => false

/-- Whether a value is at most the operand. -/
def atMost (v operand : Value) : Bool :=
  match Value.compare? v operand with
  | some .lt => true
  | some .eq => true
  | _ => false

/-- Whether a value that is not null satisfies the lookup. -/
def holds (v : Value) : Lookup → Bool
  | exact operand => v.equal operand
  | iexact operand => Text.lowercase v.plain == operand
  | contains operand => hasInside v.plain operand
  | icontains operand => hasInside (Text.lowercase v.plain) operand
  | startswith operand => startsWith v.plain operand
  | istartswith operand => startsWith (Text.lowercase v.plain) operand
  | endswith operand => endsWith v.plain operand
  | iendswith operand => endsWith (Text.lowercase v.plain) operand
  | regex p => p.isMatch v.plain
  | gt operand => Value.compare? v operand == some .gt
  | gte operand => atLeast v operand
  | lt operand => Value.compare? v operand == some .lt
  | lte operand => atMost v operand
  | in_ operands => operands.any v.equal
  | range low high => atLeast v low && atMost v high
  | isnull flag => !flag

end Lookup

/-- One criterion of a query. -/
structure Predicate where
  key : String
  path : FieldPath
  lookup : Lookup

namespace Predicate

/-- The parts of a key: those of the path, and the name of the lookup. A key without a doubled
underscore is all path and is looked up exactly. -/
def keyParts (key : String) : List (List Char) × String :=
  let parts := Text.splitAtDouble '_' key.toList
  match parts.getLast?, parts.dropLast with
  | some last, p :: ps => (p :: ps, String.ofList last)
  | _, _ => (parts, "exact")

/-- The predicate of a key and an operand. The path is checked before the lookup. -/
def parse (key : String) (operand : Value) : Except Error Predicate :=
  let (parts, name) := keyParts key
  match FieldPath.ofChars (Text.joinWith '.' parts) with
  | .error cause => .error (.query (some key) (.limit cause))
  | .ok path =>
    match LookupName.ofText? name with
    | none => .error (.query (some key) (.unknownLookup name))
    | some n => (Lookup.make key operand n).map fun lookup => ⟨key, path, lookup⟩

/-- Whether what a path leads to satisfies the predicate. Where it leads to nothing no lookup holds,
and of a null only that it is null. -/
def holds (p : Predicate) : Option Value → Bool
  | none => false
  | some .null =>
    match p.lookup with
    | .isnull true => true
    | _ => false
  | some v => p.lookup.holds v

/-- The predicates of criteria; the first malformed criterion is reported. -/
def ofCriteria (c : Criteria) : Except Error (List Predicate) :=
  c.pairs.mapM fun (key, value) => parse key value

end Predicate

end Gazetteer
