/-!
# Splitting and searching texts

Texts are lists of characters here. `splitAt` cuts at every occurrence of one character and
`splitAtDouble` at every occurrence of a doubled one, from the left; both return one piece more
than they make cuts. `occursIn` looks for one text inside another.
-/

namespace Gazetteer.Text

/-- Puts a character in front of the first piece. -/
def consFirst (c : Char) : List (List Char) → List (List Char)
  | [] => [[c]]
  | p :: ps => (c :: p) :: ps

/-- The pieces between the occurrences of `sep`. -/
def splitAt (sep : Char) : List Char → List (List Char)
  | [] => [[]]
  | c :: r => if c = sep then [] :: splitAt sep r else consFirst c (splitAt sep r)

/-- The pieces between the occurrences of `sep sep`; of three in a row the first two are the
separator. -/
def splitAtDouble (sep : Char) : List Char → List (List Char)
  | [] => [[]]
  | [c] => [[c]]
  | c :: d :: r =>
    if c = sep ∧ d = sep then [] :: splitAtDouble sep r
    else consFirst c (splitAtDouble sep (d :: r))

/-- The pieces with `sep` between them. -/
def joinWith (sep : Char) : List (List Char) → List Char
  | [] => []
  | [p] => p
  | p :: q :: ps => p ++ sep :: joinWith sep (q :: ps)

/-- Whether `needle` stands somewhere in a text. -/
def occursIn (needle : List Char) : List Char → Bool
  | [] => needle.isEmpty
  | c :: r => needle.isPrefixOf (c :: r) || occursIn needle r

theorem consFirst_ne_nil (c : Char) (ps : List (List Char)) : consFirst c ps ≠ [] := by
  cases ps <;> simp [consFirst]

theorem splitAt_ne_nil (sep : Char) (cs : List Char) : splitAt sep cs ≠ [] := by
  cases cs with
  | nil => simp [splitAt]
  | cons c r =>
    rw [splitAt]
    split
    · simp
    · exact consFirst_ne_nil _ _

theorem splitAtDouble_ne_nil (sep : Char) (cs : List Char) : splitAtDouble sep cs ≠ [] := by
  fun_cases splitAtDouble sep cs <;> simp [consFirst_ne_nil]

end Gazetteer.Text
