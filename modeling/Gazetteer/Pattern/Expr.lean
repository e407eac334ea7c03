import Gazetteer.Text.CharSet

/-!
# Pattern expressions

`Expr` is what a search pattern denotes: sets of characters and edges (places between characters),
put together by sequence, alternative, repetition and group. Flags are gone at this level; the
parser has already spent them on the sets and edges. `Expr.depth` measures nesting, and
`Expr.normal` removes structure that makes no difference to what matches.
-/

namespace Gazetteer.Pattern

open Text

/-- The sides of a word on which an edge can lie. -/
inductive WordEdge where
  | either
  | neither
  | start
  | finish
  | startHalf
  | finishHalf
  deriving DecidableEq, Repr

/-- A condition on the place between two characters. -/
inductive Edge where
  | textStart
  | textEnd
  /-- The start of a line; with `crlf` also a carriage return ends lines. -/
  | lineStart (crlf : Bool)
  | lineEnd (crlf : Bool)
  /-- An edge of a word; `ascii` words have no other letters than those of ASCII. -/
  | word (side : WordEdge) (ascii : Bool)
  deriving DecidableEq, Repr

inductive Expr where
  | empty
  /-- One character of a set. -/
  | chars (s : CharSet)
  | edge (e : Edge)
  /-- From `low` to `high` times, without bound for `none`. -/
  | repeat (sub : Expr) (low : Nat) (high : Option Nat)
  | group (captures : Bool) (sub : Expr)
  | seq (items : List Expr)
  | alt (branches : List Expr)
  deriving Inhabited

namespace Expr

mutual

/-- How deeply the expression is nested. -/
def depth : Expr → Nat
  | .repeat e _ _ => e.depth + 1
  | .group _ e => e.depth + 1
  | .seq es => depthOfAll es + 1
  | .alt es => depthOfAll es + 1
  | _ => 0

/-- The greatest depth in a list. -/
def depthOfAll : List Expr → Nat
  | [] => 0
  | e :: es => max e.depth (depthOfAll es)

end

/-- The items in sequence, a single one on its own. -/
def ofItems : List Expr → Expr
  | [] => .empty
  | [e] => e
  | es => .seq es

/-- The branches as alternatives, a single one on its own. -/
def ofBranches : List Expr → Expr
  | [e] => e
  | es => .alt es

/-- The items of a sequence, dropping what matches the empty text only. -/
def items : Expr → List Expr
  | .empty => []
  | .seq es => es
  | e => [e]

/-- The branches of an alternative. -/
def branches : Expr → List Expr
  | .alt es => es
  | e => [e]

/-- The set of characters of an expression that matches exactly one. -/
def set? : Expr → Option CharSet
  | .chars s => some s
  | _ => none

/-- Alternatives; if each of them is a set of characters, their union. -/
def union (es : List Expr) : Expr :=
  match es.mapM set? with
  | some (s :: ss) => .chars (ss.foldl .union s)
  | _ => ofBranches es

mutual

/-- Whether the expression matches the empty text only. -/
def isVoid : Expr → Bool
  | .empty => true
  | .edge _ => true
  | .chars _ => false
  | .repeat e _ high => e.isVoid || high == some 0
  | .group _ e => e.isVoid
  | .seq es => allVoid es
  | .alt es => allVoid es

def allVoid : List Expr → Bool
  | [] => true
  | e :: es => e.isVoid && allVoid es

end

mutual

/-- Whether the expression can match the empty text. -/
def isOptional : Expr → Bool
  | .empty => true
  | .edge _ => true
  | .chars _ => false
  | .repeat e low _ => low == 0 || e.isOptional
  | .group _ e => e.isOptional
  | .seq es => allOptional es
  | .alt es => anyOptional es

def allOptional : List Expr → Bool
  | [] => true
  | e :: es => e.isOptional && allOptional es

def anyOptional : List Expr → Bool
  | [] => false
  | e :: es => e.isOptional || anyOptional es

end

/-- A repetition; of what is empty anyway one is enough, and no or one repetition is none. -/
def repeated (e : Expr) (low : Nat) (high : Option Nat) : Expr :=
  let (low, high) :=
    if e.isVoid then (min low 1, some (match high with | some n => min n 1 | none => 1))
    else (low, high)
  match low, high with
  | 0, some 0 => .empty
  | 1, some 1 => e
  | low, high => .repeat e low high

mutual

/-- The same expression without groups that capture nothing, nested sequences and alternatives of
single characters. -/
def normal : Expr → Expr
  | .repeat e low high => repeated e.normal low high
  | .group true e => .group true e.normal
  | .group false e => e.normal
  | .seq es => ofItems (normalAll es |>.flatMap items)
  | .alt es => union (normalAll es |>.flatMap branches)
  | e => e

def normalAll : List Expr → List Expr
  | [] => []
  | e :: es => e.normal :: normalAll es

end

end Expr

end Gazetteer.Pattern
