import Gazetteer.Pattern.CharClass
import Gazetteer.Pattern.Expr

/-!
# Running patterns

A `Program` is an expression laid out as numbered instructions. It is run over a text with the set
of all instructions that are reachable at the current place, so that a search takes time in
proportion to the text and to the program whatever the expression is.
-/

namespace Gazetteer.Pattern

open Text

/-- One instruction, naming those that follow it. -/
inductive Instr where
  | accept
  | chars (s : CharSet) (next : Nat)
  | edge (e : Edge) (next : Nat)
  | fork (left right : Nat)

/-- Instructions and the number of the one to start with. -/
structure Program where
  code : Array Instr
  start : Nat

/-! ### Layout

An expression is laid out in front of what follows it: given the number of the next instruction,
the result is the number of its own first one. -/

/-- A step of the layout. -/
abbrev Layout := Nat → Array Instr → Nat × Array Instr

/-- Adds one instruction. -/
def addInstr (i : Instr) (code : Array Instr) : Nat × Array Instr := (code.size, code.push i)

/-- One layout after another. -/
def Layout.andThen (f g : Layout) : Layout := fun next code =>
  let (middle, code) := g next code
  f middle code

/-- `n` copies. -/
def Layout.times (f : Layout) : Nat → Layout
  | 0 => fun next code => (next, code)
  | n + 1 => f.andThen (f.times n)

/-- Up to `n` copies, each reached only through those before it. -/
def Layout.upTo (f : Layout) : Nat → Layout
  | 0 => fun next code => (next, code)
  | n + 1 => fun next code =>
    let (rest, code) := f.upTo n next code
    let (first, code) := f rest code
    addInstr (.fork first next) code

/-- Any number of copies: a fork that the copy leads back to. -/
def Layout.star (f : Layout) : Layout := fun next code =>
  let (loop, code) := addInstr (.fork next next) code
  let (first, code) := f loop code
  (loop, code.setIfInBounds loop (.fork first next))

mutual

/-- Lays out an expression. -/
def Expr.layout : Expr → Layout
  | .empty => fun next code => (next, code)
  | .chars s => fun next code => addInstr (.chars s next) code
  | .edge e => fun next code => addInstr (.edge e next) code
  | .repeat e low high =>
    let tail := match high with
      | none => e.layout.star
      | some high => e.layout.upTo (high - low)
    (e.layout.times low).andThen tail
  | .group _ e => e.layout
  | .seq es => layoutSeq es
  | .alt es => layoutAlt es

def layoutSeq : List Expr → Layout
  | [] => fun next code => (next, code)
  | e :: es => e.layout.andThen (layoutSeq es)

def layoutAlt : List Expr → Layout
  | [] => fun _ code => addInstr (.chars .empty 0) code
  | [e] => e.layout
  | e :: es => fun next code =>
    let (right, code) := layoutAlt es next code
    let (left, code) := e.layout next code
    addInstr (.fork left right) code

end

/-- The program of an expression. -/
def Program.ofExpr (e : Expr) : Program :=
  let (start, code) := e.layout 0 #[.accept]
  ⟨code, start⟩

/-! ### Edges -/

/-- A place in a text: the characters before and after it, if there are any. -/
structure Place where
  before : Option Char
  after : Option Char

/-- Whether a character belongs to a word. -/
def isWordChar (ascii : Bool) (c : Char) : Bool :=
  if ascii || c.toNat < 0x80 then asciiWord.contains c else wordChars.contains c

/-- Whether an edge lies at a place. -/
def Edge.holdsAt (p : Place) : Edge → Bool
  | .textStart => p.before.isNone
  | .textEnd => p.after.isNone
  | .lineStart false => p.before.all (· == '\n')
  | .lineEnd false => p.after.all (· == '\n')
  | .lineStart true =>
    p.before.isNone || p.before == some '\n' || (p.before == some '\r' && p.after != some '\n')
  | .lineEnd true =>
    p.after.isNone || p.after == some '\r' || (p.after == some '\n' && p.before != some '\r')
  | .word side ascii =>
    let left := p.before.any (isWordChar ascii)
    let right := p.after.any (isWordChar ascii)
    match side with
    | .either => left != right
    | .neither => left == right
    | .start => !left && right
    | .finish => left && !right
    | .startHalf => !left
    | .finishHalf => !right

/-! ### Search -/

/-- The instructions reached at a place: those that read a character, with marks for all that were
visited, and whether the end was reached. -/
structure Reached where
  seen : Array Bool
  waiting : List Nat
  accepted : Bool

/-- Follows forks and edges from the pending instructions. Every instruction is expanded once and
adds at most two, which bounds the steps. -/
def Program.follow (p : Program) (place : Place) : Nat → List Nat → Reached → Reached
  | 0, _, s => s
  | _, [], s => s
  | fuel + 1, i :: pending, s =>
    if s.seen.getD i true then p.follow place fuel pending s
    else
      let s := { s with seen := s.seen.setIfInBounds i true }
      match p.code[i]? with
      | none => p.follow place fuel pending s
      | some .accept => p.follow place fuel pending { s with accepted := true }
      | some (.chars _ _) => p.follow place fuel pending { s with waiting := i :: s.waiting }
      | some (.edge e next) =>
        p.follow place fuel (if e.holdsAt place then next :: pending else pending) s
      | some (.fork left right) => p.follow place fuel (left :: right :: pending) s

/-- Everything reached at a place from the given instructions. -/
def Program.reached (p : Program) (place : Place) (from_ : List Nat) : Reached :=
  p.follow place (from_.length + 2 * p.code.size + 1) from_
    ⟨Array.replicate p.code.size false, [], false⟩

/-- The instructions that follow those which read a character. -/
def Program.advance (p : Program) (c : Char) (waiting : List Nat) : List Nat :=
  waiting.filterMap fun (i : Nat) =>
    match p.code[i]? with
    | some (.chars s next) => if s.contains c then some next else none
    | _ => none

/-- Whether the rest of a text holds a match that starts in it or continues one of the given
instructions. -/
def Program.searchFrom (p : Program) (before : Option Char) (live : List Nat) :
    List Char → Bool
  | [] => (p.reached ⟨before, none⟩ (p.start :: live)).accepted
  | c :: r =>
    let s := p.reached ⟨before, some c⟩ (p.start :: live)
    s.accepted || p.searchFrom (some c) (p.advance c s.waiting) r

/-- Whether a match stands somewhere in a text. -/
def Program.search (p : Program) (text : List Char) : Bool := p.searchFrom none [] text

end Gazetteer.Pattern
