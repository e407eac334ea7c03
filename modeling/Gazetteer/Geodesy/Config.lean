import Gazetteer.Geodesy.Gauge
import Gazetteer.Toml.Reader

/-!
# Configuration

A `Config` says how distances are measured. It is read from and written as TOML, one setting a
line; missing settings have their standard values and unknown ones are ignored. `Config.build` makes
the gauge that a valid configuration asks for.
-/

namespace Gazetteer.Geodesy

/-- The strategies that a configuration can ask for. -/
inductive StrategyKind where
  | haversine
  | vincenty
  | planar
  | adaptive
  deriving DecidableEq, Repr

namespace StrategyKind

def all : List StrategyKind := [haversine, vincenty, planar, adaptive]

def name : StrategyKind → String
  | haversine => "haversine"
  | vincenty => "vincenty"
  | planar => "planar"
  | adaptive => "adaptive"

/-- The kind with a name. -/
def ofName? (s : String) : Option StrategyKind := all.find? (·.name == s)

end StrategyKind

structure Config where
  strategy : StrategyKind
  /-- Whether the adaptive strategy may use the ellipsoid. -/
  highAccuracy : Bool
  maxIterations : Nat
  tolerance : Float
  /-- How many distances the memo keeps; zero means that there is none. -/
  cacheCapacity : Nat
  /-- The unit of distances for which none is asked. -/
  unit : DistanceUnit

namespace Config

def standard : Config where
  strategy := .haversine
  highAccuracy := false
  maxIterations := 100
  tolerance := 1e-12
  cacheCapacity := Memo.defaultCapacity
  unit := .kilometers

/-- Refuses settings that no strategy could work with. -/
def check (c : Config) : Except ConfigError Unit :=
  if c.maxIterations = 0 then .error .noIterations
  else if c.tolerance.isFinite && 0.0 < c.tolerance then .ok ()
  else .error (.tolerance c.tolerance)

/-! ### The gauge -/

/-- How the ellipsoidal strategy is to work. -/
def vincenty (c : Config) : Vincenty := .of c.maxIterations c.tolerance

/-- The strategy without a memo. -/
def measure (c : Config) : Strategy :=
  match c.strategy with
  | .haversine => .haversine earthRadius
  | .planar => .planar
  | .vincenty => .vincenty c.vincenty
  | .adaptive => .adaptive c.highAccuracy c.vincenty

/-- Whether distances may be calculated on the ellipsoid, which is worth remembering. -/
def mayIterate (c : Config) : Bool :=
  match c.strategy with
  | .vincenty => true
  | .adaptive => c.highAccuracy
  | _ => false

/-- The gauge that the configuration asks for. -/
def build (c : Config) : Except ConfigError Gauge := do
  c.check
  let memo := if c.mayIterate && c.cacheCapacity != 0 then some (Memo.empty c.cacheCapacity) else none
  return ⟨c.measure, memo⟩

/-! ### Writing -/

/-- Floats in a configuration are written without exponent, and whole ones keep their point. -/
def floatLayout : Decimal.Layout := ⟨none, true, .up, "nan", "inf"⟩

/-- The first capacity that is too great to be written. -/
def writableCapacity : Nat := 0x8000000000000000

/-- A setting on its line. -/
def line (key value : String) : String := key ++ " = " ++ value ++ "\n"

/-- The configuration as TOML. -/
def toToml (c : Config) : Except ConfigError String :=
  if writableCapacity ≤ c.cacheCapacity then .error .unwritable
  else
    .ok <| String.join [
      line "strategy" ("\"" ++ c.strategy.name ++ "\""),
      line "high_accuracy" (if c.highAccuracy then "true" else "false"),
      line "max_iterations" (toString c.maxIterations),
      line "tolerance" (floatLayout.text c.tolerance),
      line "cache_capacity" (toString c.cacheCapacity),
      line "unit" ("\"" ++ c.unit.name ++ "\"")]

/-! ### Reading -/

/-- The setting under a key, its standard value if it is missing; nothing if it is of a wrong
type. -/
def setting {α : Type} (key : String) (standard : α) (decode : Toml.Item → Option α)
    (es : Toml.Entries) : Option α :=
  match es.lookup key with
  | none => some standard
  | some item => decode item

/-- The name of a choice: a string, or the only key of a table that holds nothing else. -/
def choiceName? : Toml.Item → Option String
  | .string s => some s
  | .table _ [(key, .table _ [])] => some key
  | .table _ [(key, .array [])] => some key
  | _ => none

/-- A whole number below a limit. -/
def natural? (limit : Nat) : Toml.Item → Option Nat
  | .integer n => if 0 ≤ n ∧ n < limit then some n.toNat else none
  | _ => none

def boolean? : Toml.Item → Option Bool
  | .boolean b => some b
  | _ => none

/-- A number, a whole one included. -/
def number? : Toml.Item → Option Float
  | .float x => some x
  | .integer n => some (Float.ofInt n)
  | _ => none

/-- The configuration of a document, not yet checked. -/
def ofEntries? (es : Toml.Entries) : Option Config := do
  return {
    strategy := ← setting "strategy" standard.strategy
      (fun i => (choiceName? i).bind StrategyKind.ofName?) es
    highAccuracy := ← setting "high_accuracy" standard.highAccuracy boolean? es
    maxIterations := ← setting "max_iterations" standard.maxIterations (natural? 0x100000000) es
    tolerance := ← setting "tolerance" standard.tolerance number? es
    cacheCapacity := ← setting "cache_capacity" standard.cacheCapacity (natural? writableCapacity) es
    unit := ← setting "unit" standard.unit (fun i => (choiceName? i).bind DistanceUnit.ofName?) es }

/-- The configuration that a text describes. -/
def ofToml (s : String) : Except ConfigError Config :=
  match (Toml.read? s).bind ofEntries? with
  | none => .error .unreadable
  | some c => c.check.map fun _ => c

end Config

end Gazetteer.Geodesy
