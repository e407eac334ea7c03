import Gazetteer.Pattern.Parser
import Gazetteer.Pattern.Program
import Gazetteer.Pattern.Size

/-!
# Search patterns

A `Pattern` is a text in the notation of search patterns together with the program that looks for
it. `Pattern.compile?` refuses what is no pattern and what would become too large.
-/

namespace Gazetteer

/-- A compiled search pattern. -/
structure Pattern where
  source : String
  program : Pattern.Program

namespace Pattern

/-- The size that a compiled pattern may have: one mebibyte. -/
def maxSize : Nat := 1024 * 1024

/-- The pattern of a text, read without regard to case if asked for. -/
def compile? (caseless : Bool) (source : String) : Option Pattern := do
  let e ← Expr.parse? caseless source.toList
  let e := e.normal
  if e.size ≤ maxSize then some ⟨source, Program.ofExpr e⟩ else none

/-- Whether the pattern matches somewhere in a text. -/
def isMatch (p : Pattern) (text : String) : Bool := p.program.search text.toList

end Pattern

end Gazetteer
