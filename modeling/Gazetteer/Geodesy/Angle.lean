/-!
# Angles and the arithmetic of formulas

Degrees and radians, squares, and numbers kept within limits, as the formulas of the sphere and the
ellipsoid need them.
-/

namespace Gazetteer.Geodesy

/-- Half a turn in radians. -/
def pi : Float := 3.14159265358979323846

def radians (degrees : Float) : Float := degrees * (pi / 180.0)

def degrees (radians : Float) : Float := radians * (180.0 / pi)

def square (x : Float) : Float := x * x

/-- The number itself between `low` and `high`, otherwise the limit that it is beyond. What is no
number stays so. -/
def clamp (low high x : Float) : Float := if x < low then low else if high < x then high else x

/-- The smaller of two numbers, the second of two equal ones. -/
def least (x y : Float) : Float := if x < y then x else y

/-- The greater of two numbers, the second of two equal ones. -/
def greatest (x y : Float) : Float := if y < x then x else y

/-- Degrees that are off by less than a turn, brought into `0` to `360`. -/
def wrapTurn (degrees : Float) : Float :=
  if degrees < 0.0 then degrees + 360.0
  else if 360.0 ≤ degrees then degrees - 360.0
  else degrees

end Gazetteer.Geodesy
