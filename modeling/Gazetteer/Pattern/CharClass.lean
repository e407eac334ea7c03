import Gazetteer.Text.Casing
import Gazetteer.Text.Category
import Gazetteer.Text.Script
import Gazetteer.Text.ScriptExtension

/-!
# Named sets of characters

The sets that a pattern can name: digits, blanks and word characters, the ASCII classes, and the
properties of the standard. Names of properties are compared without regard to case, blanks,
hyphens, underscores and a leading `is`.
-/

namespace Gazetteer.Pattern

open Text

/-! ### General categories -/

/-- The characters of the single categories whose short name satisfies a test. -/
def categoriesWhere (test : String → Bool) : CharSet :=
  CharSet.ofRanges <|
    (categories.filter fun c => c.names.head?.any test).flatMap (·.chars.ranges)

/-- The characters of the categories whose short names start with a letter. -/
def majorCategory (letter : Char) : CharSet := categoriesWhere fun n => n.toList.head? == some letter

/-- The code points that are assigned. -/
def assigned : CharSet := categoriesWhere fun _ => true

/-! ### Digits, blanks and word characters -/

def digitChars : CharSet := categoriesWhere (· == "Nd")

def blankChars : CharSet := binaryProperty "White_Space"

/-- Letters and what is written with them: marks, digits, connecting punctuation and joiners. -/
def wordChars : CharSet :=
  [majorCategory 'M', digitChars, categoriesWhere (· == "Pc"), binaryProperty "Join_Control"].foldl
    .union (binaryProperty "Alphabetic")

def asciiDigit : CharSet := .range '0' '9'

def asciiBlank : CharSet := .ofRanges [(0x09, 0x0D), (0x20, 0x20)]

def asciiWord : CharSet := .ofRanges [(0x30, 0x39), (0x41, 0x5A), (0x5F, 0x5F), (0x61, 0x7A)]

def ascii : CharSet := .range '\x00' '\x7f'

/-- The ASCII classes by name. -/
def asciiClass? : String → Option CharSet
  | "alnum" => some (.ofRanges [(0x30, 0x39), (0x41, 0x5A), (0x61, 0x7A)])
  | "alpha" => some (.ofRanges [(0x41, 0x5A), (0x61, 0x7A)])
  | "ascii" => some ascii
  | "blank" => some (.ofRanges [(0x09, 0x09), (0x20, 0x20)])
  | "cntrl" => some (.ofRanges [(0x00, 0x1F), (0x7F, 0x7F)])
  | "digit" => some asciiDigit
  | "graph" => some (.range '!' '~')
  | "lower" => some (.range 'a' 'z')
  | "print" => some (.range ' ' '~')
  | "punct" => some (.ofRanges [(0x21, 0x2F), (0x3A, 0x40), (0x5B, 0x60), (0x7B, 0x7E)])
  | "space" => some asciiBlank
  | "upper" => some (.range 'A' 'Z')
  | "word" => some asciiWord
  | "xdigit" => some (.ofRanges [(0x30, 0x39), (0x41, 0x46), (0x61, 0x66)])
  | _ => none

/-! ### Properties -/

/-- The form in which names of properties are compared. -/
def normalName (name : List Char) : String :=
  let strict (cs : List Char) :=
    (cs.filter fun c => c ≠ ' ' ∧ c ≠ '_' ∧ c ≠ '-' ∧ c.toNat < 0x80).map Char.toLower
  match name with
  | i :: s :: r =>
    if (i = 'i' ∨ i = 'I') ∧ (s = 's' ∨ s = 'S') then
      let rest := strict r
      String.ofList (if rest = ['c'] then ['i', 's', 'c'] else rest)
    else String.ofList (strict name)
  | _ => String.ofList (strict name)

/-- The set with a name, given in normal form. -/
def findNamed (table : List NamedSet) (name : String) : Option CharSet :=
  (table.find? fun s => s.names.any fun n => normalName n.toList == name).map (·.chars)

/-- The general category with a name in normal form, groups of categories included. -/
def category? : String → Option CharSet
  | "any" => some .all
  | "ascii" => some ascii
  | "assigned" => some assigned
  | "l" | "letter" => some (majorCategory 'L')
  | "lc" | "casedletter" => some (categoriesWhere fun n => n == "Lu" || n == "Ll" || n == "Lt")
  | "m" | "mark" | "combiningmark" => some (majorCategory 'M')
  | "n" | "number" => some (majorCategory 'N')
  | "p" | "punctuation" | "punct" => some (majorCategory 'P')
  | "s" | "symbol" => some (majorCategory 'S')
  | "z" | "separator" => some (majorCategory 'Z')
  | "cn" | "unassigned" => some assigned.complement
  | "c" | "other" => some ((majorCategory 'C').union assigned.complement)
  | name => findNamed categories name

/-- The script with a name in normal form. -/
def script? (name : String) : Option CharSet := findNamed scripts name

/-- The set that a single name stands for: a binary property, else a category, else a script. Three
short names are categories although properties share them. -/
def property? (name : List Char) : Option CharSet :=
  let name := normalName name
  let binary :=
    if name == "cf" || name == "sc" || name == "lc" then none else findNamed binaryProperties name
  binary <|> category? name <|> script? name

/-- The set of the characters for which a property has a value. -/
def propertyValue? (property value : List Char) : Option CharSet :=
  let value := normalName value
  match normalName property with
  | "gc" | "generalcategory" => category? value
  | "sc" | "script" => script? value
  | "scx" | "scriptextensions" => findNamed scriptExtensions value <|> script? value
  | _ => none

end Gazetteer.Pattern
