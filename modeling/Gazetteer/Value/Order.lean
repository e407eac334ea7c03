import Gazetteer.Value.Basic

/-!
# Comparing values

Three relations on values. `Value.equal` takes numbers as floats, so that `1` equals `1.0`, and
compares everything else part by part. `Value.compare?` is the order that range lookups use; it is
undefined between different types. `Value.sortOrder` orders all values, by `compare?` within a type
and by the rank of the type otherwise.
-/

namespace Gazetteer.Value

mutual

/-- Part-by-part equality, in which a whole number never equals a float. -/
def identical : Value → Value → Bool
  | .null, .null => true
  | .bool a, .bool b => a == b
  | .int m, .int n => m == n
  | .float x, .float y => x == y
  | .string s, .string t => s == t
  | .array xs, .array ys => identicalItems xs ys
  | .object xs, .object ys => identicalMembers xs ys
  | _, _ => false

def identicalItems : List Value → List Value → Bool
  | [], [] => true
  | x :: xs, y :: ys => identical x y && identicalItems xs ys
  | _, _ => false

def identicalMembers : List (String × Value) → List (String × Value) → Bool
  | [], [] => true
  | (k, x) :: xs, (l, y) :: ys => k == l && identical x y && identicalMembers xs ys
  | _, _ => false

end

/-- Equality of values, in which two numbers are equal when they are as floats. -/
def equal (a b : Value) : Bool :=
  match a.number?, b.number? with
  | some x, some y => x == y
  | _, _ => identical a b

/-- The order of two floats, undefined when one of them is no number. -/
def compareFloats? (x y : Float) : Option Ordering :=
  if x < y then some .lt else if x == y then some .eq else if y < x then some .gt else none

mutual

/-- The order of two values of one type. Arrays are compared item by item, then by length; objects
have no order. -/
def compare? : Value → Value → Option Ordering
  | .int m, .int n => compareFloats? (Float.ofInt m) (Float.ofInt n)
  | .int m, .float y => compareFloats? (Float.ofInt m) y
  | .float x, .int n => compareFloats? x (Float.ofInt n)
  | .float x, .float y => compareFloats? x y
  | .string s, .string t => some (Ord.compare s t)
  | .bool a, .bool b => some (Ord.compare a b)
  | .null, .null => some .eq
  | .array xs, .array ys => compareItems? xs ys
  | _, _ => none

def compareItems? : List Value → List Value → Option Ordering
  | [], [] => some .eq
  | [], _ :: _ => some .lt
  | _ :: _, [] => some .gt
  | x :: xs, y :: ys =>
    match compare? x y with
    | some .eq => compareItems? xs ys
    | other => other

end

/-- The place of a type in the order of all values. -/
def rank : Value → Nat
  | .null => 0
  | .bool _ => 1
  | .int _ => 2
  | .float _ => 2
  | .string _ => 3
  | .array _ => 4
  | .object _ => 5

/-- A whole number that grows with the float: its bit pattern, mirrored below zero. The zeros
differ, the negative one comes first. -/
def floatKey (x : Float) : Int :=
  let bits := x.toBits.toNat
  if bits < 0x8000000000000000 then bits else 0x7fffffffffffffff - (bits : Int)

/-- The total order of floats. -/
def orderFloats (x y : Float) : Ordering := Ord.compare (floatKey x) (floatKey y)

mutual

/-- The order of all values that sorting uses. -/
def sortOrder : Value → Value → Ordering
  | .int m, .int n => orderFloats (Float.ofInt m) (Float.ofInt n)
  | .int m, .float y => orderFloats (Float.ofInt m) y
  | .float x, .int n => orderFloats x (Float.ofInt n)
  | .float x, .float y => orderFloats x y
  | .array xs, .array ys => sortOrderItems xs ys
  | .string s, .string t => Ord.compare s t
  | .bool a, .bool b => Ord.compare a b
  | a, b => Ord.compare a.rank b.rank

def sortOrderItems : List Value → List Value → Ordering
  | [], [] => .eq
  | [], _ :: _ => .lt
  | _ :: _, [] => .gt
  | x :: xs, y :: ys =>
    match sortOrder x y with
    | .eq => sortOrderItems xs ys
    | other => other

end

/-- The values in ascending order; equal ones keep their order. -/
def sorted (values : List Value) : List Value :=
  values.mergeSort fun a b => sortOrder a b != .gt

end Gazetteer.Value
