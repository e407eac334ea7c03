import Gazetteer.Decimal.Numeral
import Gazetteer.Text.CharSet
import Gazetteer.Toml.Item

/-!
# Reading TOML

`Toml.read?` gives the entries of a document, or nothing if the text breaks the rules of the
notation. Readers take the text that is left and return what they found and the text after it.
-/

namespace Gazetteer.Toml

open Decimal

/-! ### Blanks, comments and ends of lines -/

def skipBlanks (cs : List Char) : List Char := cs.dropWhile fun c => c = ' ' ∨ c = '\t'

/-- Whether a character may stand in comments and strings of one line. -/
def isPrintable (c : Char) : Bool := c = '\t' || (0x20 ≤ c.toNat && c.toNat ≠ 0x7F)

/-- Skips the comment at the front, if there is one. -/
def skipComment : List Char → List Char
  | '#' :: r => r.dropWhile isPrintable
  | cs => cs

/-- The text after the end of a line at the front. -/
def newline? : List Char → Option (List Char)
  | '\n' :: r => some r
  | '\r' :: '\n' :: r => some r
  | _ => none

/-- The text after the end of the line, before which blanks and a comment may stand. -/
def endOfLine? (cs : List Char) : Option (List Char) :=
  match skipComment (skipBlanks cs) with
  | [] => some []
  | r => newline? r

/-- Skips blanks, comments and ends of lines; `fuel` is no less than the length of the text. -/
def skipLines : Nat → List Char → List Char
  | 0, cs => cs
  | fuel + 1, cs =>
    let r := skipComment (skipBlanks cs)
    match newline? r with
    | some r => skipLines fuel r
    | none => r

/-! ### Strings -/

/-- The character with a code given in hexadecimal digits. -/
def charOfDigits? (ds : List Char) : Option Char := do
  let n ← Text.CharSet.hexNumber? ds
  if ds.length = 4 ∨ ds.length = 8 then
    if n.isValidChar then some (Char.ofNat n) else none
  else none

/-- The character of an escape after its backslash. -/
def readEscape : List Char → Option (Char × List Char)
  | 'b' :: r => some ('\x08', r)
  | 't' :: r => some ('\t', r)
  | 'n' :: r => some ('\n', r)
  | 'f' :: r => some ('\x0c', r)
  | 'r' :: r => some ('\r', r)
  | '"' :: r => some ('"', r)
  | '\\' :: r => some ('\\', r)
  | 'u' :: r => (charOfDigits? (r.take 4)).map (·, r.drop 4)
  | 'U' :: r => (charOfDigits? (r.take 8)).map (·, r.drop 8)
  | _ => none

/-- A string of one line after its opening quote; escapes count only between double quotes. -/
def readString (quote : Char) : Nat → List Char → List Char → Option (String × List Char)
  | 0, _, _ => none
  | _, _, [] => none
  | fuel + 1, done, c :: r =>
    if c = quote then some (String.ofList done.reverse, r)
    else if c = '\\' ∧ quote = '"' then
      match readEscape r with
      | some (c, r) => readString quote fuel (c :: done) r
      | none => none
    else if isPrintable c then readString quote fuel (c :: done) r
    else none

/-- Skips blanks and ends of lines. -/
def skipGap : List Char → List Char
  | ' ' :: r => skipGap r
  | '\t' :: r => skipGap r
  | '\n' :: r => skipGap r
  | '\r' :: '\n' :: r => skipGap r
  | cs => cs

/-- The text after a backslash at the end of a line: blanks and ends of lines have no meaning up to
the next other character. -/
def skipContinued? (cs : List Char) : Option (List Char) := (newline? (skipBlanks cs)).map skipGap

/-- A string of several lines after its opening quotes. Up to two quotes in a row belong to the
string, also directly before the three that close it. -/
def readLongString (quote : Char) : Nat → List Char → List Char → Option (String × List Char)
  | 0, _, _ => none
  | _, _, [] => none
  | fuel + 1, done, c :: r =>
    if c = quote then
      let quotes := (c :: r).takeWhile (· = quote)
      let rest := (c :: r).dropWhile (· = quote)
      if quotes.length < 3 then readLongString quote fuel (quotes ++ done) rest
      else if quotes.length ≤ 5 then
        some (String.ofList (quotes.drop 3 ++ done).reverse, rest)
      else none
    else if c = '\\' ∧ quote = '"' then
      match readEscape r with
      | some (c, r) => readLongString quote fuel (c :: done) r
      | none =>
        match skipContinued? r with
        | some r => readLongString quote fuel done r
        | none => none
    else if isPrintable c then readLongString quote fuel (c :: done) r
    else
      match newline? (c :: r) with
      | some r => readLongString quote fuel ('\n' :: done) r
      | none => none

/-- A string of either kind after its first quote. -/
def readAnyString (quote : Char) (cs : List Char) : Option (String × List Char) :=
  match cs with
  | a :: b :: r =>
    if a = quote ∧ b = quote then
      let r := (newline? r).getD r
      readLongString quote (r.length + 1) [] r
    else readString quote (cs.length + 1) [] cs
  | _ => readString quote (cs.length + 1) [] cs

/-! ### Keys -/

def isBareKeyChar (c : Char) : Bool := c.isAlphanum || c = '_' || c = '-'

/-- One part of a key. -/
def readKeyPart : List Char → Option (String × List Char)
  | [] => none
  | c :: r =>
    if c = '"' ∨ c = '\'' then readString c (r.length + 1) [] r
    else if isBareKeyChar c then
      some (String.ofList ((c :: r).takeWhile isBareKeyChar), (c :: r).dropWhile isBareKeyChar)
    else none

/-- How many parts a key may have, and how deep arrays and tables in braces may be nested. -/
def maxNesting : Nat := 79

/-- The parts of a key with points between them, blanks around them included; no more than
`limit`. -/
def readParts : Nat → List Char → Option (List String × List Char)
  | 0, _ => none
  | limit + 1, cs => do
    let (part, r) ← readKeyPart (skipBlanks cs)
    match skipBlanks r with
    | '.' :: r =>
      let (parts, r) ← readParts limit r
      return (part :: parts, r)
    | r => return ([part], r)

/-- The parts of a key. -/
def readKey (cs : List Char) : Option (List String × List Char) := readParts maxNesting cs

/-! ### Numbers and dates -/

/-- The digits of a numeral in which an underscore may stand between two digits. -/
def digitGroups? (isDigit : Char → Bool) : List Char → Option (List Char)
  | [] => none
  | [c] => if isDigit c then some [c] else none
  | c :: '_' :: r => if isDigit c then (digitGroups? isDigit r).map (c :: ·) else none
  | c :: r => if isDigit c then (digitGroups? isDigit r).map (c :: ·) else none

/-- The number of a decimal numeral without sign; only zero starts with a zero. -/
def decimal? (cs : List Char) : Option Nat := do
  let ds ← digitGroups? Char.isDigit cs
  if ds.length > 1 ∧ ds.head? = some '0' then none else some (digitsValue ds)

/-- The number of a numeral in another base. -/
def based? (base : Nat) (cs : List Char) : Option Nat := do
  let digit (c : Char) : Bool := (Text.CharSet.hexValue? c).any (· < base)
  let ds ← digitGroups? digit cs
  return ds.foldl (fun n c => base * n + (Text.CharSet.hexValue? c).getD 0) 0

/-- A whole number, which must fit 64 bits. -/
def integer? (cs : List Char) : Option Int := do
  let n : Int ← match cs with
    | '0' :: 'x' :: r => (based? 16 r).map Int.ofNat
    | '0' :: 'o' :: r => (based? 8 r).map Int.ofNat
    | '0' :: 'b' :: r => (based? 2 r).map Int.ofNat
    | '+' :: r => (decimal? r).map Int.ofNat
    | '-' :: r => (decimal? r).map fun n => -(n : Int)
    | cs => (decimal? cs).map Int.ofNat
  if -0x8000000000000000 ≤ n ∧ n < 0x8000000000000000 then some n else none

/-- The exponent of a float after its letter. -/
def exponent? (cs : List Char) : Option Int := do
  let (negative, r) := spanSign cs
  let n := digitsValue (← digitGroups? Char.isDigit r)
  return if negative then -(n : Int) else n

/-- A float with a fraction, an exponent or both. -/
def decimalFloat? (negative : Bool) (cs : List Char) : Option Numeral := do
  let isMark (c : Char) : Bool := c = '.' || c = 'e' || c = 'E'
  let whole ← decimal? (cs.takeWhile fun c => !isMark c)
  match cs.dropWhile fun c => !isMark c with
  | '.' :: r =>
    let fraction ← digitGroups? Char.isDigit (r.takeWhile fun c => !isMark c)
    let exponent ← match r.dropWhile fun c => !isMark c with
      | [] => some 0
      | '.' :: _ => none
      | _ :: r => exponent? r
    return ⟨negative, digitsValue (digitText whole ++ fraction), exponent - fraction.length⟩
  | _ :: r => return ⟨negative, whole, ← exponent? r⟩
  | [] => none

/-- A float, which must not be too large to be finite unless it is named so. -/
def float? (cs : List Char) : Option Float :=
  let (negative, r) := spanSign cs
  match String.ofList r with
  | "inf" => some (if negative then -(1.0 / 0.0) else 1.0 / 0.0)
  | "nan" => some (0.0 / 0.0)
  | _ =>
    match decimalFloat? negative r with
    | some n => if !negative && n.toFloat.isInf then none else some n.toFloat
    | none => none

/-- The number of exactly `width` digits at the front. -/
def fixedDigits? (width : Nat) (cs : List Char) : Option (Nat × List Char) :=
  let ds := cs.take width
  if ds.length = width ∧ ds.all Char.isDigit then some (digitsValue ds, cs.drop width) else none

def daysInMonth (year month : Nat) : Nat :=
  if month = 2 then
    if year % 4 = 0 ∧ (year % 100 ≠ 0 ∨ year % 400 = 0) then 29 else 28
  else if month = 4 ∨ month = 6 ∨ month = 9 ∨ month = 11 then 30
  else 31

/-- The text after a date. -/
def afterDate? (cs : List Char) : Option (List Char) :=
  match fixedDigits? 4 cs with
  | some (year, '-' :: r) =>
    match fixedDigits? 2 r with
    | some (month, '-' :: r) =>
      match fixedDigits? 2 r with
      | some (day, r) =>
        if 1 ≤ month ∧ month ≤ 12 ∧ 1 ≤ day ∧ day ≤ daysInMonth year month then some r else none
      | none => none
    | _ => none
  | _ => none

/-- The text after a time of day. -/
def afterTime? (cs : List Char) : Option (List Char) :=
  match fixedDigits? 2 cs with
  | some (hour, ':' :: r) =>
    match fixedDigits? 2 r with
    | some (minute, ':' :: r) =>
      match fixedDigits? 2 r with
      | some (second, r) =>
        if hour ≤ 23 ∧ minute ≤ 59 ∧ second ≤ 60 then
          match r with
          | '.' :: f :: r => if f.isDigit then some (r.dropWhile Char.isDigit) else none
          | ['.'] => none
          | r => some r
        else none
      | none => none
    | _ => none
  | _ => none

/-- Whether a text is an offset from universal time. -/
def isOffset : List Char → Bool
  | ['Z'] => true
  | ['z'] => true
  | c :: r =>
    (c = '+' || c = '-') &&
      match fixedDigits? 2 r with
      | some (hour, ':' :: r) =>
        match fixedDigits? 2 r with
        | some (minute, []) => hour ≤ 23 && minute ≤ 59
        | _ => false
      | _ => false
  | [] => false

/-- Whether a text is a date, a time of day, or both with or without offset. -/
def isDateTime (cs : List Char) : Bool :=
  match afterDate? cs with
  | some [] => true
  | some (t :: r) =>
    (t = 'T' || t = 't' || t = ' ') &&
      match afterTime? r with
      | some [] => true
      | some r => isOffset r
      | none => false
  | none => afterTime? cs = some []

/-- Whether a character can belong to a number, a date or a name. -/
def isWordChar (c : Char) : Bool :=
  c.isAlphanum || c = '+' || c = '-' || c = '_' || c = '.' || c = ':'

/-- The item of a word. -/
def ofWord? (cs : List Char) : Option Item :=
  match String.ofList cs with
  | "true" => some (.boolean true)
  | "false" => some (.boolean false)
  | _ =>
    match integer? cs with
    | some n => some (.integer n)
    | none =>
      match float? cs with
      | some x => some (.float x)
      | none => if isDateTime cs then some .dateTime else none

/-- The item of the word at the front. A blank may part a date from a time. -/
def readWord (cs : List Char) : Option (Item × List Char) :=
  let word := cs.takeWhile isWordChar
  let rest := cs.dropWhile isWordChar
  match afterDate? word, rest with
  | some [], ' ' :: r =>
    if (r.head?.any Char.isDigit) then
      (ofWord? (word ++ ' ' :: r.takeWhile isWordChar)).map (·, r.dropWhile isWordChar)
    else (ofWord? word).map (·, rest)
  | _, _ => (ofWord? word).map (·, rest)

/-! ### Values -/

mutual

/-- A value with no more than `levels` levels inside; `fuel` is no less than the length of the
text. -/
def readValue : Nat → Nat → List Char → Option (Item × List Char)
  | 0, _, _ => none
  | _, _, [] => none
  | fuel + 1, levels, c :: r =>
    if c = '"' ∨ c = '\'' then (readAnyString c r).map fun (s, r) => (.string s, r)
    else if c = '[' then
      match levels with
      | levels + 1 => readItems fuel levels [] r
      | 0 => none
    else if c = '\x7b' then
      match levels, skipBlanks r with
      | 0, _ => none
      | _ + 1, '\x7d' :: r => some (.table .braces [], r)
      | levels + 1, r => readMembers fuel levels [] r
    else readWord (c :: r)

/-- The items of an array after its bracket or a comma. -/
def readItems : Nat → Nat → List Item → List Char → Option (Item × List Char)
  | 0, _, _, _ => none
  | fuel + 1, levels, done, cs =>
    match skipLines cs.length cs with
    | ']' :: r => some (.array done.reverse, r)
    | r =>
      match readValue fuel levels r with
      | none => none
      | some (item, r) =>
        match skipLines r.length r with
        | ',' :: r => readItems fuel levels (item :: done) r
        | ']' :: r => some (.array (item :: done).reverse, r)
        | _ => none

/-- The members of a table in braces after the brace or a comma. -/
def readMembers : Nat → Nat → Entries → List Char → Option (Item × List Char)
  | 0, _, _, _ => none
  | fuel + 1, levels, done, cs =>
    match readKey cs with
    | some (key, '=' :: r) =>
      match readValue fuel levels (skipBlanks r) with
      | none => none
      | some (item, r) =>
        match put key item done with
        | none => none
        | some done =>
          match skipBlanks r with
          | ',' :: r => readMembers fuel levels done r
          | '\x7d' :: r => some (.table .braces done, r)
          | _ => none
    | _ => none

end

/-! ### Documents -/

/-- What has been read of a document, and the header in force. -/
structure Progress where
  entries : Entries
  header : List String

/-- A header after its brackets; `start` starts its table. -/
def Progress.readHeader (p : Progress) (close : List Char)
    (start : String → Entries → Option Entries) (cs : List Char) :
    Option (Progress × List Char) := do
  let (path, r) ← readKey cs
  let last ← path.getLast?
  if close.isPrefixOf r then
    let entries ← changeAt (start last) path.dropLast p.entries
    return (⟨entries, path⟩, r.drop close.length)
  else none

/-- An expression of a document: nothing, a header or an entry. -/
def Progress.step (p : Progress) (cs : List Char) : Option (Progress × List Char) :=
  match skipBlanks cs with
  | [] => some (p, [])
  | '#' :: r => some (p, '#' :: r)
  | '\n' :: r => some (p, '\n' :: r)
  | '\r' :: r => some (p, '\r' :: r)
  | '[' :: '[' :: r => p.readHeader [']', ']'] openElement r
  | '[' :: r => p.readHeader [']'] openTable r
  | r =>
    match readKey r with
    | some (key, '=' :: r) => do
      let r := skipBlanks r
      let (item, r) ← readValue (r.length + 1) maxNesting r
      let entries ← changeAt (put key item) p.header p.entries
      return ({ p with entries := entries }, r)
    | _ => none

/-- Reads line by line; `fuel` is greater than the length of the text. -/
def Progress.run : Nat → Progress → List Char → Option Progress
  | 0, _, _ => none
  | _, p, [] => some p
  | fuel + 1, p, cs =>
    match p.step cs with
    | none => none
    | some (p, r) =>
      match endOfLine? r with
      | some r => run fuel p r
      | none => none

/-- The entries of a document. A byte order mark in front is dropped. -/
def read? (s : String) : Option Entries :=
  let cs := match s.toList with
    | '\ufeff' :: r => r
    | cs => cs
  (Progress.run (cs.length + 1) ⟨[], []⟩ cs).map (·.entries)

end Gazetteer.Toml
