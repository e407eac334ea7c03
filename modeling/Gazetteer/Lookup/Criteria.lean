import Gazetteer.Value.Printer

/-!
# Criteria

Pairs of a key and a value, in the order in which they were given. As a query the keys are field
paths with lookups, as an assignment they are names of fields.
-/

namespace Gazetteer

structure Criteria where
  pairs : List (String × Value)
  deriving Inhabited

namespace Criteria

/-- The criteria with one more pair at the end. -/
def push (c : Criteria) (key : String) (value : Value) : Criteria := ⟨c.pairs ++ [(key, value)]⟩

def keys (c : Criteria) : List String := c.pairs.map (·.1)

/-- The first value under a key. -/
def get? (c : Criteria) (key : String) : Option Value := c.pairs.lookup key

/-- The pairs as they stand in messages. -/
def text (c : Criteria) : String :=
  ", ".intercalate (c.pairs.map fun (key, value) => key ++ "=" ++ value.text)

instance : Append Criteria := ⟨fun c d => ⟨c.pairs ++ d.pairs⟩⟩

end Criteria

end Gazetteer
