import Gazetteer.Pattern.Expr

/-!
# The size of a compiled pattern

A pattern may not grow too large when it is compiled, whatever its length. `Expr.size` adds up
what an automaton over the bytes of UTF-8 needs: every byte range, branch and group costs a state,
and a state with several ways out pays for each of them. The automaton is measured in both reading
directions, and a counted repetition is as large as its copies.
-/

namespace Gazetteer.Pattern

open Text

/-- Which way the text is read. -/
inductive Direction where
  | forward
  | backward
  deriving DecidableEq

/-- What a state of the automaton takes. -/
def stateSize : Nat := 32

/-- What a way out of a branching state takes. -/
def branchSize : Nat := 4

/-- What a way out of a state with several byte ranges takes. -/
def rangeSize : Nat := 8

/-! ### Byte sequences of a character range -/

/-- The bytes of a code point, in the number of bytes that its size asks for. -/
def utf8Bytes (n : Nat) : List Nat :=
  if n < 0x80 then [n]
  else if n < 0x800 then [0xC0 + n / 0x40, 0x80 + n % 0x40]
  else if n < 0x10000 then [0xE0 + n / 0x1000, 0x80 + n / 0x40 % 0x40, 0x80 + n % 0x40]
  else [0xF0 + n / 0x40000, 0x80 + n / 0x1000 % 0x40, 0x80 + n / 0x40 % 0x40, 0x80 + n % 0x40]

/-- Where the range from `a` to `b` has to be cut so that its parts are sequences of byte ranges;
the second part starts there. -/
def cutPoint? (a b : Nat) : Option Nat :=
  if a < 0xE000 ∧ 0xD7FF < b then some 0xE000
  else
    match [0x80, 0x800, 0x10000].find? fun n => a < n ∧ n ≤ b with
    | some n => some n
    | none =>
      if b < 0x80 then none
      else
        [0x40, 0x1000, 0x40000].findSome? fun unit =>
          if a / unit = b / unit then none
          else if a % unit ≠ 0 then some ((a / unit + 1) * unit)
          else if b % unit ≠ unit - 1 then some (b / unit * unit)
          else none

/-- The sequences of byte ranges that the characters from `a` to `b` are encoded in, surrogates
left out. The cuts of one range are few. -/
def byteSequences (a b : Nat) : List (List (Nat × Nat)) := go 32 a b
where
  go : Nat → Nat → Nat → List (List (Nat × Nat))
    | 0, _, _ => []
    | fuel + 1, a, b =>
      if b < a then []
      else if 0xD800 ≤ a ∧ a < 0xE000 then go fuel 0xE000 b
      else if 0xD800 ≤ b ∧ b < 0xE000 then go fuel a 0xD7FF
      else
        match cutPoint? a b with
        | some c => go fuel a (c - 1) ++ go fuel c b
        | none => [(utf8Bytes a).zip (utf8Bytes b)]

/-- A tree of byte ranges. -/
inductive RangeTree where
  | node (next : List ((Nat × Nat) × RangeTree))
  deriving Inhabited, BEq

namespace RangeTree

/-- The tree with one more sequence, which comes after all others in it. -/
def insert : List (Nat × Nat) → RangeTree → RangeTree
  | [], t => t
  | r :: rs, .node next =>
    match next with
    | (r', t) :: older =>
      if r = r' then .node ((r', insert rs t) :: older)
      else .node ((r, insert rs (.node [])) :: (r', t) :: older)
    | [] => .node [(r, insert rs (.node []))]

mutual

/-- All subtrees with something in them. -/
def subtrees : RangeTree → List RangeTree
  | .node [] => []
  | .node (e :: next) => .node (e :: next) :: subtreesOfAll (e :: next)

def subtreesOfAll : List ((Nat × Nat) × RangeTree) → List RangeTree
  | [] => []
  | (_, t) :: next => subtrees t ++ subtreesOfAll next

end

/-- How many ways lead on. -/
def width : RangeTree → Nat
  | .node next => next.length

end RangeTree

/-- What a set of characters takes. Read forward, equal ends are shared; read backward, equal
beginnings are. -/
def setSize (d : Direction) (s : CharSet) : Nat :=
  if s.ranges.all fun (_, b) => b < 0x80 then 2 * stateSize + rangeSize * s.ranges.length
  else
    let sequences := s.ranges.flatMap fun (a, b) => byteSequences a b
    let tree : RangeTree := sequences.foldl (fun t rs => RangeTree.insert rs t) (.node [])
    match d with
    | .forward =>
      let shared := tree.subtrees.eraseDups
      shared.foldl (fun total t => total + (stateSize + rangeSize * t.width)) stateSize
    | .backward =>
      2 * stateSize + branchSize * sequences.length +
        stateSize * tree.subtrees.foldl (fun total t => total + t.width) 0

/-! ### Expressions -/

/-- What one character takes: a state for each of its bytes. -/
def literalSize (code : Nat) : Nat := stateSize * (utf8Bytes code).length

/-- What one character of a set takes. -/
def charsSize (d : Direction) (s : CharSet) : Nat :=
  match s.only? with
  | some code => literalSize code
  | none => setSize d s

/-- A branching state with two ways out. -/
def forkSize : Nat := stateSize + 2 * branchSize

/-- What the copies of an expression of size `n` take. -/
def repeatSize (n : Nat) (optional : Bool) (low : Nat) : Option Nat → Nat
  | none =>
    match low with
    | 0 => if optional then n + 2 * forkSize + stateSize else n + forkSize
    | low + 1 => (low + 1) * n + forkSize
  | some high =>
    if low = 0 ∧ high = 1 then n + forkSize + stateSize
    else if low = high then if low = 0 then stateSize else low * n
    else (if low = 0 then stateSize else low * n) + stateSize + (high - low) * (n + forkSize)

mutual

/-- What an expression takes in one reading direction. Groups that capture are noted only when
reading forward. -/
def Expr.sizeIn (d : Direction) : Expr → Nat
  | .empty => stateSize
  | .chars s => charsSize d s
  | .edge _ => stateSize
  | .repeat e low high => repeatSize (e.sizeIn d) e.isOptional low high
  | .group captures e => e.sizeIn d + (if captures ∧ d = .forward then 2 * stateSize else 0)
  | .seq es => sizeOfAll d es
  | .alt es => sizeOfAll d es + 2 * stateSize + branchSize * es.length

def sizeOfAll (d : Direction) : List Expr → Nat
  | [] => 0
  | e :: es => e.sizeIn d + sizeOfAll d es

end

/-- What the start and the end of every automaton take. -/
def frameSize : Nat := 6 * stateSize

/-- The larger of the two automata of an expression. -/
def Expr.size (e : Expr) : Nat :=
  max (e.sizeIn .forward) (e.sizeIn .backward) + frameSize

end Gazetteer.Pattern
