import Gazetteer.Decimal.Numeral
import Gazetteer.Value.Printer

/-!
# What can go wrong in geodesy

Errors are causes; `Error.message` words them.
-/

namespace Gazetteer.Geodesy

open Decimal

/-- Why something is no coordinate. -/
inductive CoordinateError where
  | longitude (lon : Float)
  | latitude (lat : Float)
  | altitude (alt : Float)
  | componentCount (count : Nat)
  | unreadable (text : String) (cause : NumeralError)
  | notNumeric (value : Value)
  | noPosition (value : Value)
  | unsupported (value : Value)

def CoordinateError.message : CoordinateError → String
  | .longitude lon => s!"longitude {plainText lon} must be between -180 and 180"
  | .latitude lat => s!"latitude {plainText lat} must be between -90 and 90"
  | .altitude alt => s!"altitude {plainText alt} must be a finite number"
  | .componentCount count => s!"expected (lon, lat[, alt]), got {count} component(s)"
  | .unreadable text cause => "could not parse '" ++ text ++ "': " ++ cause.message
  | .notNumeric value => s!"expected numeric (lon, lat[, alt]), got {value.text}"
  | .noPosition value => s!"object needs numeric longitude and latitude, got {value.text}"
  | .unsupported value => s!"unsupported coordinate value: {value.text}"

/-- Why four sides are no bounds. -/
inductive BoundsError where
  | latitudes (north south : Float)
  | upsideDown (north south : Float)
  | longitudes (east west : Float)

def BoundsError.message : BoundsError → String
  | .latitudes north south =>
    "latitudes must be within [-90, 90], got " ++
      s!"north={plainText north} south={plainText south}"
  | .upsideDown north south =>
    s!"south ({plainText south}) must not exceed north ({plainText north})"
  | .longitudes east west =>
    "longitudes must be within [-180, 180], got " ++
      s!"east={plainText east} west={plainText west}"

/-- Why a configuration is refused. -/
inductive ConfigError where
  | unknownUnit (name : String)
  | noIterations
  | tolerance (value : Float)
  /-- The text is not in the notation of configurations, or a setting has a wrong type. -/
  | unreadable
  /-- The cache capacity has no place in the notation of configurations. -/
  | unwritable

def ConfigError.message : ConfigError → String
  | .unknownUnit name => s!"unknown distance unit: {name}"
  | .noIterations => "max_iterations must be at least 1"
  | .tolerance value => s!"tolerance must be a positive number, got {plainText value}"
  | .unreadable => "the text is not a valid configuration"
  | .unwritable => "out-of-range value for u64 type"

/-- Why a computation has no result. -/
inductive CalculationError where
  | antipodal
  | notFinite (fraction : Float)
  | offSurface (cause : CoordinateError)

def CalculationError.message : CalculationError → String
  | .antipodal => "interpolation between antipodal points is undefined"
  | .notFinite fraction =>
    s!"interpolation produced a non-finite point at fraction {plainText fraction}"
  | .offSurface cause => s!"Invalid coordinate: {cause.message}"

inductive Error where
  | coordinate (cause : CoordinateError)
  | fraction (value : Float)
  | bounds (cause : BoundsError)
  | config (cause : ConfigError)
  | calculation (cause : CalculationError)

def Error.message : Error → String
  | .coordinate cause => s!"Invalid coordinate: {cause.message}"
  | .fraction value => s!"Interpolation fraction must be between 0 and 1, got {plainText value}"
  | .bounds cause => s!"Invalid bounds: {cause.message}"
  | .config cause => s!"Configuration error: {cause.message}"
  | .calculation cause => s!"Calculation error: {cause.message}"

end Gazetteer.Geodesy
