import Gazetteer.Pattern.CharClass
import Gazetteer.Pattern.Expr
import Gazetteer.Text.Blank
import Gazetteer.Decimal.Numeral

/-!
# Option (patterns × List Char)

`Expr.parse?` reads the text of a search pattern. Groups and bracketed sets are read with a stack
of what is still open, so that nesting costs no recursion; flags hold from where they are set to
the end of the group. A pattern that breaks a rule of the notation, or that asks for bytes which
are not characters, is refused with `none`.
-/

namespace Gazetteer.Pattern

open Text

/-- The switches that change how the rest of a group is read. -/
structure Flags where
  caseless : Bool
  multiLine : Bool := false
  dotAll : Bool := false
  unicode : Bool := true
  crlf : Bool := false
  spaced : Bool := false

/-! Every reader below returns what it found and the text after it. -/

/-! ### Blanks and numbers -/

/-- Skips blanks and comments, which run from a hash to the end of the line. -/
def skipBlanks (comment : Bool) : List Char → List Char
  | [] => []
  | c :: r =>
    if comment then skipBlanks (c ≠ '\n') r
    else if isBlank c then skipBlanks false r
    else if c = '#' then skipBlanks true r
    else c :: r

/-- Skips what the flags say has no meaning. -/
def Flags.skip (f : Flags) (cs : List Char) : List Char :=
  if f.spaced then skipBlanks false cs else cs

/-- The number of repetitions at the front, between blanks; it must fit 32 bits. -/
def readCount (f : Flags) (cs : List Char) : Option (Nat × List Char) :=
  let rec digits (fuel : Nat) (done : List Char) (cs : List Char) : List Char × List Char :=
    match fuel, cs with
    | fuel + 1, c :: r => if c.isDigit then digits fuel (c :: done) (f.skip r) else (done, c :: r)
    | _, cs => (done, cs)
  let (done, r) := digits cs.length [] (cs.dropWhile isBlank)
  let n := Decimal.digitsValue done.reverse
  if done.isEmpty || 0x100000000 ≤ n then none else some (n, f.skip (r.dropWhile isBlank))

/-! ### Escapes -/

/-- One element of a pattern outside of its structure. -/
inductive Atom where
  /-- A character; `byte` if it was written as the two digits of a byte. -/
  | literal (c : Char) (byte : Bool)
  | set (s : CharSet)
  | edge (e : Edge)

/-- The characters with a meaning of their own, which an escape takes away. -/
def isMeta (c : Char) : Bool := "\\.+*?()|[]\x7b\x7d^$#&-~".toList.contains c

/-- Whether an escaped character stands for itself. -/
def isPlainEscape (c : Char) : Bool :=
  isMeta c || (c.toNat < 0x80 && !c.isAlphanum && c ≠ '<' && c ≠ '>')

/-- The character with a code, if it is one. -/
def charOfCode? (n : Nat) : Option Char := if n.isValidChar then some (Char.ofNat n) else none

/-- The hexadecimal digits after `\x`, `\u` or `\U`: as many as the letter asks for. -/
def readHexDigits (f : Flags) : Nat → List Char → List Char → Option (List Char × List Char)
  | 0, done, cs => some (done.reverse, cs)
  | _ + 1, _, [] => none
  | n + 1, done, c :: r =>
    if (CharSet.hexValue? c).isSome then readHexDigits f n (c :: done) (f.skip r) else none

/-- The characters up to a closing brace, which is dropped. -/
def readBraced (f : Flags) (fuel : Nat) (done : List Char) (cs : List Char) :
    Option (List Char × List Char) :=
  match fuel, cs with
  | fuel + 1, c :: r =>
    if c = '\x7d' then some (done.reverse, r) else readBraced f fuel (c :: done) (f.skip r)
  | _, _ => none

/-- A character by its code: digits in braces or as many as the letter asks for. -/
def readCode (f : Flags) (width : Nat) (cs : List Char) : Option (Atom × List Char) :=
  match f.skip cs with
  | '\x7b' :: r => do
    let (ds, r) ← readBraced f r.length [] (f.skip r)
    let c ← (CharSet.hexNumber? ds).bind charOfCode?
    return (.literal c false, f.skip r)
  | cs => do
    let (ds, r) ← readHexDigits f width [] cs
    let c ← (CharSet.hexNumber? ds).bind charOfCode?
    return (.literal c (width == 2), r)

/-- The set with case ignored if the flags say so, and complemented if `negated`. Without Unicode
the universe is that of bytes, and a set must keep to ASCII. -/
def Flags.closeSet (f : Flags) (negated : Bool) (s : CharSet) : Option CharSet :=
  if f.unicode then
    let s := if f.caseless then s.foldClosure else s
    some (if negated then s.complement else s)
  else
    let letters (a b : Char) : CharSet := s.inter (.range a b)
    let shifted (t : CharSet) (by_ : Int) : List (Nat × Nat) :=
      t.ranges.map fun (a, b) => ((a + by_).toNat, (b + by_).toNat)
    let s :=
      if f.caseless then
        .ofRanges (s.ranges ++ shifted (letters 'a' 'z') (-32) ++ shifted (letters 'A' 'Z') 32)
      else s
    let s := if negated then s.complement.inter (.range '\x00' '\xff') else s
    if (s.diff ascii).ranges.isEmpty then some s else none

/-- The set of a letter such as `d` or `W`. -/
def perlSet? (f : Flags) (c : Char) : Option CharSet :=
  let pick (wide narrow : CharSet) : CharSet := if f.unicode then wide else narrow
  let base : Option CharSet := match c.toLower with
    | 'd' => some (pick digitChars asciiDigit)
    | 's' => some (pick blankChars asciiBlank)
    | 'w' => some (pick wordChars asciiWord)
    | _ => none
  base.bind fun s =>
    if c.isUpper then Flags.closeSet { f with caseless := false } true s else some s

/-- The text before the first occurrence of a mark and the text after it. -/
def cutAt (mark : List Char) : List Char → Option (List Char × List Char)
  | [] => none
  | c :: r =>
    if mark.isPrefixOf (c :: r) then some ([], (c :: r).drop mark.length)
    else (cutAt mark r).map fun (a, b) => (c :: a, b)

/-- The set that the text in the braces of a property names, and whether it is complemented. -/
def bracedProperty? (name : List Char) : Option (CharSet × Bool) :=
  match cutAt ['!', '='] name with
  | some (p, v) => (propertyValue? p v).map (·, true)
  | none =>
    match cutAt [':'] name <|> cutAt ['='] name with
    | some (p, v) => (propertyValue? p v).map (·, false)
    | none => (property? name).map (·, false)

/-- The set that a property names, one letter or a name in braces, and whether it is
complemented. -/
def readPropertyName (f : Flags) : List Char → Option ((CharSet × Bool) × List Char)
  | [] => none
  | '\\' :: _ => none
  | '\x7b' :: r =>
    match readBraced f r.length [] (f.skip r) with
    | some (name, r) => (bracedProperty? name).map (·, r)
    | none => none
  | c :: r => (property? [c]).map fun s => ((s, false), r)

/-- A property, complemented if `negated`. -/
def readProperty (f : Flags) (negated : Bool) (cs : List Char) : Option (Atom × List Char) := do
  let ((s, flipped), r) ← readPropertyName f (f.skip cs)
  if f.unicode then return (.set (← f.closeSet (negated != flipped) s), r) else none

/-- The side that the name in the braces after `\b` asks for. -/
def wordSide? (name : List Char) : Option WordEdge :=
  match String.ofList name with
  | "start" => some .start
  | "end" => some .finish
  | "start-half" => some .startHalf
  | "end-half" => some .finishHalf
  | _ => none

/-- An edge of a word. Braces with a name choose the side, other braces are left to what follows;
`none` inside means that the name is wrong. -/
def readWordEdge (f : Flags) (cs : List Char) : Option (Atom × List Char) :=
  let atom (side : WordEdge) : Atom := .edge (.word side !f.unicode)
  let inName (c : Char) : Bool := c.isAlpha || c == '-'
  let rec name (fuel : Nat) (done : List Char) (cs : List Char) : List Char × List Char :=
    match fuel, cs with
    | fuel + 1, c :: r => if inName c then name fuel (c :: done) (f.skip r) else (done, c :: r)
    | _, cs => (done, cs)
  match cs with
  | '\x7b' :: r =>
    match f.skip r with
    | [] => none
    | c :: r' =>
      if !inName c then some (atom .either, cs)
      else
        match name (c :: r').length [] (c :: r') with
        | (done, '\x7d' :: rest) => (wordSide? done.reverse).map fun side => (atom side, rest)
        | _ => none
  | _ => some (atom .either, cs)

/-- What stands after a backslash. -/
def readEscape (f : Flags) : List Char → Option (Atom × List Char)
  | [] => none
  | c :: r =>
    let literal (c : Char) : Option (Atom × List Char) := some (.literal c false, r)
    match c with
    | 'x' => readCode f 2 r
    | 'u' => readCode f 4 r
    | 'U' => readCode f 8 r
    | 'p' => readProperty f false r
    | 'P' => readProperty f true r
    | 'a' => literal '\x07'
    | 'f' => literal '\x0c'
    | 't' => literal '\t'
    | 'n' => literal '\n'
    | 'r' => literal '\r'
    | 'v' => literal '\x0b'
    | 'A' => some (.edge .textStart, r)
    | 'z' => some (.edge .textEnd, r)
    | 'b' => readWordEdge f r
    | 'B' => some (.edge (.word .neither !f.unicode), r)
    | '<' => some (.edge (.word .start !f.unicode), r)
    | '>' => some (.edge (.word .finish !f.unicode), r)
    | c =>
      if "dswDSW".toList.contains c then (perlSet? f c).map fun s => (.set s, r)
      else if isPlainEscape c then literal c
      else none

/-! ### Bracketed sets -/

/-- An operation between two sets. -/
inductive SetOp where
  | inter
  | diff
  | symmDiff

def SetOp.apply : SetOp → CharSet → CharSet → CharSet
  | .inter => CharSet.inter
  | .diff => CharSet.diff
  | .symmDiff => CharSet.symmDiff

/-- A bracketed set that is still open: what stands to the left of the last operator, and the
union read since. -/
structure OpenSet where
  negated : Bool
  left : Option (CharSet × SetOp) := none
  union : CharSet := .empty

/-- The operands of an operator ignore case if the flags say so. -/
def Flags.fold (f : Flags) (s : CharSet) : CharSet :=
  if f.caseless then (f.closeSet false s).getD s else s

/-- The set read so far, with the pending operator applied. -/
def OpenSet.value (o : OpenSet) (f : Flags) : CharSet :=
  match o.left with
  | none => o.union
  | some (l, op) => op.apply (f.fold l) (f.fold o.union)

/-- Adds characters to the union. -/
def OpenSet.add (o : OpenSet) (s : CharSet) : OpenSet := { o with union := o.union.union s }

/-- A named ASCII class in its brackets, if that is what the text starts with. -/
def readAsciiClass (cs : List Char) : Option ((CharSet × Bool) × List Char) :=
  match cs with
  | '[' :: ':' :: r =>
    let (negated, r) := match r with
      | '^' :: r => (true, r)
      | r => (false, r)
    match r.dropWhile (· ≠ ':') with
    | ':' :: ']' :: rest =>
      (asciiClass? (String.ofList (r.takeWhile (· ≠ ':')))).map fun s => ((s, negated), rest)
    | _ => none
  | _ => none

/-- The start of a bracketed set after its bracket: a complement sign, then hyphens or a closing
bracket that stand for themselves. -/
def readSetStart (f : Flags) (cs : List Char) : Option (OpenSet × List Char) :=
  let rec hyphens (fuel : Nat) (o : OpenSet) (first : Bool) (cs : List Char) :
      Bool × OpenSet × List Char :=
    match fuel, cs with
    | fuel + 1, '-' :: r => hyphens fuel (o.add (.single '-')) false (f.skip r)
    | _, cs => (first, o, cs)
  let (negated, r) := match f.skip cs with
    | '^' :: r => (true, f.skip r)
    | r => (false, r)
  match hyphens r.length ⟨negated, none, .empty⟩ true r with
  | (true, o, ']' :: r) =>
    match f.skip r with
    | [] => none
    | r => some (o.add (.single ']'), r)
  | (_, _, []) => none
  | (_, o, r) => some (o, r)

/-- A character that may be an end of a range. -/
def Atom.end? (f : Flags) : Atom → Option Char
  | .literal c _ => if !f.unicode && 0x80 ≤ c.toNat then none else some c
  | _ => none

/-- An element of a bracketed set. -/
def readSetAtom (f : Flags) : List Char → Option (Atom × List Char)
  | [] => none
  | '\\' :: r => readEscape f r
  | c :: r => some (.literal c false, r)

/-- An element or a range of a bracketed set. A hyphen before the closing bracket or before another
hyphen makes no range. -/
def readSetItem (f : Flags) (cs : List Char) : Option (CharSet × List Char) := do
  let (first, r) ← readSetAtom f cs
  let single : Option (CharSet × List Char) := match first with
    | .literal _ _ => (first.end? f).map fun c => (.single c, f.skip r)
    | .set s => some (s, f.skip r)
    | .edge _ => none
  match f.skip r with
  | [] => none
  | '-' :: r =>
    match f.skip r with
    | [] => none
    | ']' :: _ => single
    | '-' :: _ => single
    | r =>
      let (last, r) ← readSetAtom f r
      let a ← first.end? f
      let b ← last.end? f
      if a ≤ b then some (.range a b, r) else none
  | _ => single

/-- The rest of a bracketed set, innermost open set first; `fuel` is no less than the length of the
text. -/
def readSetWithin (f : Flags) : Nat → List OpenSet → List Char → Option (CharSet × List Char)
  | 0, _, _ => none
  | _, [], _ => none
  | fuel + 1, o :: os, cs =>
    let operator (op : SetOp) (r : List Char) : Option (CharSet × List Char) :=
      readSetWithin f fuel (⟨o.negated, some (o.value f, op), .empty⟩ :: os) r
    match f.skip cs with
    | [] => none
    | '[' :: r =>
      match readAsciiClass ('[' :: r) with
      | some ((s, negated), rest) =>
        match f.closeSet negated s with
        | some s => readSetWithin f fuel (o.add s :: os) rest
        | none => none
      | none =>
        match readSetStart f r with
        | some (inner, r) => readSetWithin f fuel (inner :: o :: os) r
        | none => none
    | ']' :: r =>
      match f.closeSet o.negated (o.value f), os with
      | none, _ => none
      | some s, [] => some (s, r)
      | some s, outer :: os => readSetWithin f fuel (outer.add s :: os) r
    | '&' :: '&' :: r => operator .inter r
    | '-' :: '-' :: r => operator .diff r
    | '~' :: '~' :: r => operator .symmDiff r
    | c :: r =>
      match readSetItem f (c :: r) with
      | some (s, r) => readSetWithin f fuel (o.add s :: os) r
      | none => none

/-- A bracketed set after its opening bracket. -/
def readSet (f : Flags) (cs : List Char) : Option (CharSet × List Char) := do
  let (o, r) ← readSetStart f cs
  readSetWithin f (r.length + 1) [o] r

/-! ### Elements -/

/-- The expression of an element. -/
def Flags.atom (f : Flags) : Atom → Option Expr
  | .set s => some (.chars s)
  | .edge e => some (.edge e)
  | .literal c byte =>
    if f.unicode then some (.chars (if f.caseless then (CharSet.single c).foldClosure else .single c))
    else if 0x80 ≤ c.toNat then if byte then none else some (.chars (.single c))
    else (f.closeSet false (.single c)).map .chars

/-- The point: any character, apart from the ends of lines unless the flags include them. -/
def Flags.dot (f : Flags) : Option Expr :=
  if !f.unicode then none
  else if f.dotAll then some (.chars .all)
  else
    let ends : CharSet := if f.crlf then .ofRanges [(10, 10), (13, 13)] else .single '\n'
    some (.chars ends.complement)

/-- The start of the text, or of a line. -/
def Flags.caret (f : Flags) : Expr := .edge (if f.multiLine then .lineStart f.crlf else .textStart)

/-- The end of the text, or of a line. -/
def Flags.dollar (f : Flags) : Expr := .edge (if f.multiLine then .lineEnd f.crlf else .textEnd)

/-! ### Groups -/

/-- The flags after a letter of a flag list; `on` is false after the hyphen. -/
def Flags.change (f : Flags) (on : Bool) : Char → Option Flags
  | 'i' => some { f with caseless := on }
  | 'm' => some { f with multiLine := on }
  | 's' => some { f with dotAll := on }
  | 'u' => some { f with unicode := on }
  | 'R' => some { f with crlf := on }
  | 'x' => some { f with spaced := on }
  | 'U' => some f
  | _ => none

/-- A list of flags, each named once, up to the colon or closing bracket that ends it. The hyphen
turns the flags after it off and must have some. -/
def readFlags (f : Flags) (seen : List Char) (on : Bool) : List Char → Option (Flags × List Char)
  | [] => none
  | c :: r =>
    if c = ':' ∨ c = ')' then
      if seen.head? = some '-' then none else some (f, c :: r)
    else if seen.contains c then none
    else if c = '-' then readFlags f (c :: seen) false r
    else
      match f.change on c with
      | some f => readFlags f (c :: seen) on r
      | none => none

/-- Whether a character is a letter or digit of some script. -/
def isNameChar (first : Bool) (c : Char) : Bool :=
  let letter := c == '_' || (binaryProperty "Alphabetic").contains c
  if first then letter
  else letter || c == '.' || c == '[' || c == ']' || (majorCategory 'N').contains c

/-- The name of a group up to the bracket that closes it. -/
def readGroupName (cs : List Char) : Option (List Char × List Char) :=
  let name := cs.takeWhile (· ≠ '>')
  match name, cs.dropWhile (· ≠ '>') with
  | c :: r, _ :: rest =>
    if isNameChar true c && r.all (isNameChar false) then some (name, rest) else none
  | _, _ => none

/-- A group that is still open: the branches and items read so far, last first, and what to restore
when it ends. -/
structure Level where
  branches : List Expr
  items : List Expr
  /-- Whether the last item is one that can be repeated. -/
  repeatable : Bool
  captures : Bool
  outer : Flags

/-- The expression of a finished level. -/
def Level.expr (l : Level) : Expr :=
  Expr.ofBranches ((Expr.ofItems l.items.reverse :: l.branches).reverse)

/-- What has been read of a pattern: the innermost level, those around it, the flags in force and
the group names in use. -/
structure Progress where
  level : Level
  around : List Level
  flags : Flags
  names : List (List Char)

def Progress.push (p : Progress) (e : Expr) (repeatable : Bool) : Progress :=
  { p with level := { p.level with items := e :: p.level.items, repeatable := repeatable } }

/-- Opens a group. -/
def Progress.enter (p : Progress) (captures : Bool) (f : Flags) : Progress :=
  { p with level := ⟨[], [], false, captures, p.flags⟩, around := p.level :: p.around, flags := f }

/-- Reads what follows the opening bracket of a group. -/
def Progress.readGroup (p : Progress) (cs : List Char) : Option (Progress × List Char) :=
  match p.flags.skip cs with
  | '?' :: '=' :: _ => none
  | '?' :: '!' :: _ => none
  | '?' :: '<' :: '=' :: _ => none
  | '?' :: '<' :: '!' :: _ => none
  | '?' :: 'P' :: '<' :: r => named r
  | '?' :: '<' :: r => named r
  | '?' :: r =>
    match readFlags p.flags [] true r with
    | some (f, ':' :: rest) => some (p.enter false f, rest)
    | some (f, _ :: rest) =>
      if r.head? = some ')' then none else some ({ p.push .empty false with flags := f }, rest)
    | _ => none
  | r => some (p.enter true p.flags, r)
where
  named (r : List Char) : Option (Progress × List Char) := do
    let (name, rest) ← readGroupName r
    if p.names.contains name then none
    else some ({ p.enter true p.flags with names := name :: p.names }, rest)

/-- Repeats the last item. -/
def Progress.repeat? (p : Progress) (low : Nat) (high : Option Nat) : Option Progress :=
  match p.level.items, p.level.repeatable with
  | e :: es, true =>
    some { p with level := { p.level with items := .repeat e low high :: es } }
  | _, _ => none

/-- Drops the question mark that makes a repetition reluctant, which changes no answer. -/
def dropReluctant : List Char → List Char
  | '?' :: r => r
  | r => r

/-- The greatest count of a counted repetition whose least count is `low`: the same without a
comma, none at all if nothing follows the comma. -/
def readHighCount (f : Flags) (low : Nat) : List Char → Option (Option Nat × List Char)
  | ',' :: r =>
    match f.skip r with
    | '\x7d' :: r => some (none, '\x7d' :: r)
    | r => (readCount f r).map fun (high, r) => (some high, r)
  | r => some (some low, r)

/-- A counted repetition after its opening brace. -/
def Progress.readCounted (p : Progress) (cs : List Char) : Option (Progress × List Char) := do
  let f := p.flags
  let (low, r) ← readCount f (f.skip cs)
  match ← readHighCount f low r with
  | (high, '\x7d' :: r) =>
    if high.all (low ≤ ·) then return (← p.repeat? low high, dropReluctant (f.skip r)) else none
  | _ => none

/-- Reads one element of the structure of a pattern. -/
def Progress.step (p : Progress) : List Char → Option (Progress × List Char)
  | [] => none
  | c :: r =>
    let add (e : Option Expr) (r : List Char) : Option (Progress × List Char) :=
      e.map fun e => (p.push e true, r)
    match c with
    | '(' => p.readGroup r
    | ')' =>
      match p.around with
      | [] => none
      | outer :: around =>
        let e := Expr.group p.level.captures p.level.expr
        some ({ p with
          level := { outer with items := e :: outer.items, repeatable := true }
          around := around
          flags := p.level.outer }, r)
    | '|' =>
      let l := p.level
      let branch := Expr.ofItems l.items.reverse
      some ({ p with level := { l with branches := branch :: l.branches, items := [],
                                       repeatable := false } }, r)
    | '[' => do
      let (s, r) ← readSet p.flags r
      add (some (.chars s)) r
    | '?' => (p.repeat? 0 (some 1)).map (·, dropReluctant r)
    | '*' => (p.repeat? 0 none).map (·, dropReluctant r)
    | '+' => (p.repeat? 1 none).map (·, dropReluctant r)
    | '\x7b' => p.readCounted r
    | '.' => add p.flags.dot r
    | '^' => add (some p.flags.caret) r
    | '$' => add (some p.flags.dollar) r
    | '\\' => do
      let (a, r) ← readEscape p.flags r
      add (p.flags.atom a) r
    | c => add (p.flags.atom (.literal c false)) r

/-- Reads elements to the end of the text; `fuel` is no less than its length. -/
def Progress.run : Nat → Progress → List Char → Option Progress
  | fuel, p, cs =>
    match fuel, p.flags.skip cs with
    | _, [] => some p
    | 0, _ => none
    | fuel + 1, cs =>
      match p.step cs with
      | some (p, r) => run fuel p r
      | none => none

/-- How deeply a pattern may be nested. -/
def maxDepth : Nat := 250

/-- The expression of a pattern, `none` if the text is no pattern. -/
def Expr.parse? (caseless : Bool) (cs : List Char) : Option Expr := do
  let flags : Flags := { caseless := caseless }
  let p ← Progress.run cs.length ⟨⟨[], [], false, false, flags⟩, [], flags, []⟩ cs
  if p.around.isEmpty && p.level.expr.depth ≤ maxDepth then some p.level.expr else none

end Gazetteer.Pattern
