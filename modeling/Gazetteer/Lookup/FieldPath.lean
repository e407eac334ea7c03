import Gazetteer.Text.Split

/-!
# Field paths and limits

A field path is a list of names: of a field, and of what to step into from there. Paths, patterns
and lists of operands are limited in size; `LimitError` says which limit was broken.
-/

namespace Gazetteer

/-- How many segments a field path may have. -/
def maxPathDepth : Nat := 16

/-- How many bytes the text of a search pattern may have. -/
def maxPatternLength : Nat := 4096

/-- How many operands a membership lookup may have. -/
def maxOperands : Nat := 10000

/-- How many fields a collection may be ordered by. -/
def maxOrderFields : Nat := 32

inductive LimitError where
  | pathTooDeep (depth : Nat)
  | patternTooLong (length : Nat)
  | tooManyOperands (count : Nat)
  | tooManyOrderFields (count : Nat)
  | emptyPath
  deriving DecidableEq, Repr

def LimitError.message : LimitError → String
  | .pathTooDeep depth => s!"Field path too deep: {depth} segments (max {maxPathDepth})"
  | .patternTooLong length =>
    s!"Regex pattern too long: {length} chars (max {maxPatternLength})"
  | .tooManyOperands count => s!"Too many 'in' operands: {count} (max {maxOperands})"
  | .tooManyOrderFields count => s!"Too many order_by fields: {count} (max {maxOrderFields})"
  | .emptyPath => "Field path cannot be empty"

/-- The segments of a path. -/
abbrev FieldPath := List String

namespace FieldPath

/-- Refuses paths that are too deep or have an empty segment. -/
def check (path : FieldPath) : Except LimitError FieldPath :=
  if path.isEmpty || path.any (·.isEmpty) then .error .emptyPath
  else if maxPathDepth < path.length then .error (.pathTooDeep path.length)
  else .ok path

/-- The segments of a text with points between them, whatever they are. -/
def segments (s : String) : List String := (Text.splitAt '.' s.toList).map String.ofList

/-- The path of a text with points between its segments. -/
def ofChars (cs : List Char) : Except LimitError FieldPath :=
  check ((Text.splitAt '.' cs).map String.ofList)

/-- The path of a text with points between its segments. -/
def parse (s : String) : Except LimitError FieldPath := ofChars s.toList

end FieldPath

end Gazetteer
