/-!
# Dynamic values

`Value` is what fields hold and what lookups are asked for: a value of a data format with null,
booleans, whole numbers, floats, strings, arrays and objects. Whole numbers and floats are kept
apart. The members of an object stand in ascending order of their keys, each key once;
`Value.ofMembers` brings any members into that form.
-/

namespace Gazetteer

inductive Value where
  | null
  | bool (b : Bool)
  | int (n : Int)
  | float (x : Float)
  | string (s : String)
  | array (items : List Value)
  | object (members : List (String × Value))
  deriving Inhabited

namespace Value

def isNull : Value → Bool
  | .null => true
  | _ => false

/-- Puts a member at its place by key, in front of a later one or instead of an equal one. -/
def insertMember (key : String) (value : Value) :
    List (String × Value) → List (String × Value)
  | [] => [(key, value)]
  | (k, v) :: r =>
    if key < k then (key, value) :: (k, v) :: r
    else if key = k then (key, value) :: r
    else (k, v) :: insertMember key value r

/-- The object with the given members; of several with one key the last counts. -/
def ofMembers (members : List (String × Value)) : Value :=
  .object (members.foldl (fun acc (k, v) => insertMember k v acc) [])

/-- The member of an object under a key. -/
def member? (key : String) : Value → Option Value
  | .object members => members.lookup key
  | _ => none

/-- A number as a float, a whole one rounded to the nearest. -/
def number? : Value → Option Float
  | .int n => some (Float.ofInt n)
  | .float x => some x
  | _ => none

/-- An optional value, null when there is none. -/
def ofOption : Option Value → Value
  | some v => v
  | none => .null

/-- An optional string, null when there is none. -/
def ofString? : Option String → Value
  | some s => .string s
  | none => .null

end Value

end Gazetteer
