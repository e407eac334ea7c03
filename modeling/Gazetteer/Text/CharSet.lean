/-!
# Sets of characters

A `CharSet` is a set of code points, kept as ascending ranges with gaps between them. Unions,
complements and the rest work on the ranges; membership asks for one that covers the character.
`CharSet.ofLines` reads the ranges of a table, written in hexadecimal.
-/

namespace Gazetteer.Text

/-- The greatest code point. -/
def lastCode : Nat := 0x10FFFF

/-- A set of code points as inclusive ranges in ascending order that neither meet nor overlap. -/
structure CharSet where
  ranges : List (Nat × Nat)
  deriving DecidableEq, Repr, Inhabited

namespace CharSet

/-- Joins ranges that meet or overlap, given in the order of their starts. -/
def coalesce : List (Nat × Nat) → List (Nat × Nat)
  | (a, b) :: (c, d) :: r =>
    if c ≤ b + 1 then coalesce ((a, max b d) :: r) else (a, b) :: coalesce ((c, d) :: r)
  | r => r
termination_by r => r.length

/-- The set covered by any ranges, in any order. -/
def ofRanges (rs : List (Nat × Nat)) : CharSet :=
  ⟨coalesce (rs.mergeSort fun a b => a.1 ≤ b.1)⟩

def empty : CharSet := ⟨[]⟩

def all : CharSet := ⟨[(0, lastCode)]⟩

/-- The characters from `a` to `b`. -/
def range (a b : Char) : CharSet := ⟨[(a.toNat, b.toNat)]⟩

def single (c : Char) : CharSet := range c c

def union (s t : CharSet) : CharSet := ofRanges (s.ranges ++ t.ranges)

/-- The ranges between the given ones, from `start` to the last code point. -/
def gaps (start : Nat) : List (Nat × Nat) → List (Nat × Nat)
  | [] => if start ≤ lastCode then [(start, lastCode)] else []
  | (a, b) :: r => if start < a then (start, a - 1) :: gaps (b + 1) r else gaps (b + 1) r

def complement (s : CharSet) : CharSet := ⟨gaps 0 s.ranges⟩

def inter (s t : CharSet) : CharSet := (s.complement.union t.complement).complement

def diff (s t : CharSet) : CharSet := s.inter t.complement

def symmDiff (s t : CharSet) : CharSet := (s.diff t).union (t.diff s)

/-- Whether the set holds a code point. -/
def containsCode (s : CharSet) (code : Nat) : Bool :=
  s.ranges.any fun (a, b) => a ≤ code && code ≤ b

def contains (s : CharSet) (c : Char) : Bool := s.containsCode c.toNat

/-- The only member of a set that has just one. -/
def only? (s : CharSet) : Option Nat :=
  match s.ranges with
  | [(a, b)] => if a = b then some a else none
  | _ => none

/-! ### Reading tables -/

/-- The value of a hexadecimal digit. -/
def hexValue? (c : Char) : Option Nat :=
  if c.isDigit then some (c.toNat - '0'.toNat)
  else if 'a' ≤ c ∧ c ≤ 'f' then some (c.toNat - 'a'.toNat + 10)
  else if 'A' ≤ c ∧ c ≤ 'F' then some (c.toNat - 'A'.toNat + 10)
  else none

/-- The number that hexadecimal digits denote. -/
def hexNumber? (cs : List Char) : Option Nat :=
  if cs.isEmpty then none
  else cs.foldlM (fun n c => (hexValue? c).map (16 * n + ·)) 0

/-- One entry of a table: a code point, or two joined by a hyphen. -/
def rangeOfText? (entry : String) : Option (Nat × Nat) :=
  match entry.splitOn "-" with
  | [a] => (hexNumber? a.toList).map fun n => (n, n)
  | [a, b] => do return (← hexNumber? a.toList, ← hexNumber? b.toList)
  | _ => none

/-- The set of a table with blanks between the entries of a line. -/
def ofLines (lines : List String) : CharSet :=
  ofRanges (lines.flatMap fun line => (line.splitOn " ").filterMap rangeOfText?)

end CharSet

/-- A set of characters that a standard names, with its ranges as lines of a table. -/
structure NamedSet where
  names : List String
  ranges : List String

/-- The characters of a named set. -/
def NamedSet.chars (n : NamedSet) : CharSet := CharSet.ofLines n.ranges

end Gazetteer.Text
