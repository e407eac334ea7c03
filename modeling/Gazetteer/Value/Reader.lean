import Gazetteer.Decimal.Numeral
import Gazetteer.Text.CharSet
import Gazetteer.Value.Basic

/-!
# Reading values

`Value.ofText?` reads the text of a value. A text is first cut into tokens; the tokens are then
read one by one onto a stack of the arrays and objects that are still open. A numeral without
fraction and exponent that fits 64 bits is a whole number, any other numeral the nearest float.
-/

namespace Gazetteer.Value

open Decimal

/-- The smallest parts of a text. -/
inductive Token where
  | openArray
  | closeArray
  | openObject
  | closeObject
  | comma
  | colon
  | scalar (v : Value)

/-! ### Tokens -/

/-- The number of four hexadecimal digits. -/
def unit? (a b c d : Char) : Option Nat := Text.CharSet.hexNumber? [a, b, c, d]

/-- The character of a surrogate pair. -/
def pairChar (high low : Nat) : Char :=
  Char.ofNat (0x10000 + (high - 0xD800) * 0x400 + (low - 0xDC00))

/-- The rest of a string after its opening quote: its characters and what follows the closing
quote. `high` is the first half of a surrogate pair that was just read. -/
def readString (high : Option Nat) (done : List Char) : List Char → Option (String × List Char)
  | [] => none
  | '"' :: r => some (String.ofList done.reverse, r)
  | '\\' :: 'u' :: a :: b :: c :: d :: r =>
    match unit? a b c d with
    | none => none
    | some n =>
      if 0xD800 ≤ n ∧ n < 0xDC00 then readString (some n) done r
      else if 0xDC00 ≤ n ∧ n < 0xE000 then
        match high with
        | some h => readString none (pairChar h n :: done) r
        | none => none
      else readString none (Char.ofNat n :: done) r
  | '\\' :: c :: r =>
    match c with
    | '"' => readString none ('"' :: done) r
    | '\\' => readString none ('\\' :: done) r
    | '/' => readString none ('/' :: done) r
    | 'b' => readString none ('\x08' :: done) r
    | 'f' => readString none ('\x0c' :: done) r
    | 'n' => readString none ('\n' :: done) r
    | 'r' => readString none ('\r' :: done) r
    | 't' => readString none ('\t' :: done) r
    | _ => none
  | c :: r => readString none (c :: done) r

/-- The whole numbers that fit 64 bits, with or without sign. -/
def isWord (n : Int) : Bool := -0x8000000000000000 ≤ n && n < 0x10000000000000000

/-- The value of a numeral. A negative zero is a float, for no whole number is. -/
def ofNumeral? (cs : List Char) : Option Value :=
  let (negative, r) := match cs with
    | '-' :: r => (true, r)
    | r => (false, r)
  match unsigned? negative r with
  | none => none
  | some n =>
    let whole : Int := if negative then -(n.digits : Int) else n.digits
    if r.all Char.isDigit && isWord whole && !(negative && n.digits == 0) then some (.int whole)
    else some (.float n.toFloat)

/-- Whether a character belongs to the numeral or name that it stands in. -/
def isWordChar (c : Char) : Bool := c.isAlphanum || c == '-' || c == '+' || c == '.'

/-- The value of a run of word characters: a name or a numeral. -/
def ofWord? (cs : List Char) : Option Value :=
  match String.ofList cs with
  | "null" => some .null
  | "true" => some (.bool true)
  | "false" => some (.bool false)
  | _ => ofNumeral? cs

/-- Cuts a text into tokens; `fuel` is no less than its length. -/
def tokensWithin : Nat → List Char → Option (List Token)
  | _, [] => some []
  | 0, _ :: _ => none
  | fuel + 1, c :: r =>
    let next (t : Token) (r : List Char) : Option (List Token) :=
      (tokensWithin fuel r).map (t :: ·)
    match c with
    | '[' => next .openArray r
    | ']' => next .closeArray r
    | '\x7b' => next .openObject r
    | '\x7d' => next .closeObject r
    | ',' => next .comma r
    | ':' => next .colon r
    | '"' =>
      match readString none [] r with
      | some (s, r) => next (.scalar (.string s)) r
      | none => none
    | c =>
      if c.isWhitespace then tokensWithin fuel r
      else
        match ofWord? (c :: r.takeWhile isWordChar) with
        | some v => next (.scalar v) (r.dropWhile isWordChar)
        | none => none

/-- The tokens of a text. -/
def tokens (cs : List Char) : Option (List Token) := tokensWithin cs.length cs

/-! ### Structure -/

/-- An array or object that is still open, with what it holds so far, last first. -/
inductive Frame where
  | items (done : List Value)
  | members (done : List (String × Value)) (key : Option String)

/-- What has been read: the open frames, innermost first, and the value of the last token if it
ended one. -/
structure Progress where
  frames : List Frame
  value : Option Value

/-- Reads one more token. -/
def Progress.step (p : Progress) : Token → Option Progress
  | .openArray => if p.value.isNone then some ⟨.items [] :: p.frames, none⟩ else none
  | .openObject => if p.value.isNone then some ⟨.members [] none :: p.frames, none⟩ else none
  | .scalar v => if p.value.isNone then some ⟨p.frames, some v⟩ else none
  | .colon =>
    match p.frames, p.value with
    | .members done none :: fs, some (.string key) => some ⟨.members done (some key) :: fs, none⟩
    | _, _ => none
  | .comma =>
    match p.frames, p.value with
    | .items done :: fs, some v => some ⟨.items (v :: done) :: fs, none⟩
    | .members done (some key) :: fs, some v => some ⟨.members ((key, v) :: done) none :: fs, none⟩
    | _, _ => none
  | .closeArray =>
    match p.frames, p.value with
    | .items done :: fs, some v => some ⟨fs, some (.array (v :: done).reverse)⟩
    | .items [] :: fs, none => some ⟨fs, some (.array [])⟩
    | _, _ => none
  | .closeObject =>
    match p.frames, p.value with
    | .members done (some key) :: fs, some v =>
      some ⟨fs, some (ofMembers ((key, v) :: done).reverse)⟩
    | .members [] none :: fs, none => some ⟨fs, some (.object [])⟩
    | _, _ => none

/-- The value that a text denotes. -/
def ofText? (s : String) : Option Value := do
  let ts ← tokens s.toList
  let p ← ts.foldlM Progress.step ⟨[], none⟩
  if p.frames.isEmpty then p.value else none

end Gazetteer.Value
