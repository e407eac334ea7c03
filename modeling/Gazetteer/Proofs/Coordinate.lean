import Gazetteer.Geodesy.GreatCircle

/-!
# What becomes a coordinate

A coordinate is made from three numbers, wherever they come from, exactly if they are finite and in
range (`Coordinate.exists_of_eq_ok_iff`), and it has just these numbers. What is read off lists,
texts and dynamic values is no exception (`Reading.coordinate_eq_ok_iff`). The formulas of the sphere
may be off by rounding or give no number at all; what is put back on the surface is in range in the
first case and refused in the second (`GreatCircle.onSurface_eq_ok_iff`). That rests on the order of
floats: those that are numbers can be compared, and what lies between two finite ones is finite.
-/

namespace Gazetteer.Geodesy

open Float.Model (UnpackedFloat)

/-! ## The order of floats -/

theorem compare_swap (x y : UnpackedFloat) : y.compare x = (x.compare y).map Ordering.swap := by
  cases x with
  | notANumber => cases y <;> rfl
  | infinity s =>
      cases y with
      | infinity t => cases s <;> cases t <;> rfl
      | _ => cases s <;> rfl
  | zero s =>
      cases y with
      | infinity t => cases t <;> rfl
      | finite t n f hn => cases t <;> rfl
      | _ => rfl
  | finite s m e hm =>
      cases y with
      | notANumber => rfl
      | infinity t => cases t <;> rfl
      | zero t => cases s <;> rfl
      | finite t n f hn =>
          have hswap : (compare f e).then (compare n m) =
              ((compare e f).then (compare m n)).swap := by
            rw [Ordering.swap_then, ← Std.OrientedCmp.eq_swap, ← Std.OrientedCmp.eq_swap]
          -- two negative numbers compare the other way round, and the sign decides otherwise
          cases s <;> cases t
          · exact congrArg (fun o : Ordering => some o.swap) hswap
          · rfl
          · rfl
          · exact congrArg some hswap

/-- How two floats compare; nothing if one of them is no number. -/
def order (x y : Float) : Option Ordering := x.toModel.unpack.compare y.toModel.unpack

section Order

variable {x y low high : Float}

theorem order_swap (x y : Float) : order y x = (order x y).map Ordering.swap :=
  compare_swap x.toModel.unpack y.toModel.unpack

theorem lt_iff_order : x < y ↔ order x y = some .lt := by
  show decide _ = true ↔ _
  rw [decide_eq_true_iff]
  show (_ == some Ordering.lt) = true ↔ _
  rw [beq_iff_eq]
  rfl

theorem le_iff_order : x ≤ y ↔ order x y = some .lt ∨ order x y = some .eq := by
  show decide _ = true ↔ _
  rw [decide_eq_true_iff]
  show Option.any _ (order x y) = true ↔ _
  cases order x y with
  | none => simp
  | some o => cases o <;> simp

theorem order_eq_none_iff : order x y = none ↔ x.isNaN ∨ y.isNaN := by
  show x.toModel.unpack.compare y.toModel.unpack = none ↔
    x.toModel.unpack.isNaN = true ∨ y.toModel.unpack.isNaN = true
  generalize x.toModel.unpack = u
  generalize y.toModel.unpack = v
  cases u with
  | notANumber => exact iff_of_true (by cases v <;> rfl) (Or.inl rfl)
  | infinity s =>
      cases v with
      | notANumber => exact iff_of_true rfl (Or.inr rfl)
      | infinity t => exact iff_of_false nofun nofun
      | _ => cases s <;> exact iff_of_false nofun nofun
  | zero s =>
      cases v with
      | notANumber => exact iff_of_true rfl (Or.inr rfl)
      | zero t => exact iff_of_false nofun nofun
      | infinity t => cases t <;> exact iff_of_false nofun nofun
      | finite t n f hn => cases t <;> exact iff_of_false nofun nofun
  | finite s m e hm =>
      cases v with
      | notANumber => exact iff_of_true rfl (Or.inr rfl)
      | infinity t => cases t <;> exact iff_of_false nofun nofun
      | zero t => cases s <;> exact iff_of_false nofun nofun
      | finite t n f hn => cases s <;> cases t <;> exact iff_of_false nofun nofun

/-- Two numbers can be compared. -/
theorem le_of_not_lt (hx : ¬x.isNaN) (hy : ¬y.isNaN) (h : ¬x < y) : y ≤ x := by
  rw [le_iff_order, order_swap]
  rw [lt_iff_order] at h
  cases ho : order x y with
  | none => exact absurd (order_eq_none_iff.mp ho) (not_or.mpr ⟨hx, hy⟩)
  | some o =>
      cases o with
      | lt => exact absurd ho h
      | eq => exact Or.inr rfl
      | gt => exact Or.inl rfl

theorem not_isNaN_of_isFinite (h : x.isFinite) : ¬x.isNaN := by
  revert h
  show x.toModel.unpack.isFinite = true → ¬x.toModel.unpack.isNaN = true
  generalize x.toModel.unpack = u
  cases u with
  | notANumber => exact nofun
  | infinity s => exact nofun
  | _ => exact fun _ => nofun

theorem le_of_lt (h : x < y) : x ≤ y := le_iff_order.mpr (Or.inl (lt_iff_order.mp h))

/-- What lies between two finite numbers is finite. -/
theorem isFinite_of_le_of_le (hlow : low.isFinite) (hhigh : high.isFinite) (h : low ≤ x)
    (h' : x ≤ high) : x.isFinite := by
  rw [le_iff_order] at h h'
  revert hlow hhigh h h'
  show low.toModel.unpack.isFinite = true → high.toModel.unpack.isFinite = true →
    low.toModel.unpack.compare x.toModel.unpack = some .lt ∨
      low.toModel.unpack.compare x.toModel.unpack = some .eq →
    x.toModel.unpack.compare high.toModel.unpack = some .lt ∨
      x.toModel.unpack.compare high.toModel.unpack = some .eq → x.toModel.unpack.isFinite = true
  generalize low.toModel.unpack = l
  generalize high.toModel.unpack = u
  generalize x.toModel.unpack = v
  intro hl hu h h'
  have hgt : ¬(some Ordering.gt = some .lt ∨ some Ordering.gt = some .eq) := by decide
  have hnone : ¬(none = some Ordering.lt ∨ none = some Ordering.eq) := by decide
  cases v with
  | zero s => rfl
  | finite s m e hm => rfl
  | notANumber =>
      cases l with
      | zero t => exact absurd h hnone
      | finite t n f hn => exact absurd h hnone
      | _ => cases hl
  | infinity s =>
      -- above all finite numbers or below them
      cases s with
      | positive =>
          cases u with
          | zero t => exact absurd h' hgt
          | finite t n f hn => exact absurd h' hgt
          | _ => cases hu
      | negative =>
          cases l with
          | zero t => exact absurd h hgt
          | finite t n f hn => exact absurd h hgt
          | _ => cases hl

/-- A number that is kept within limits is within them. -/
theorem clamp_mem (hlow : ¬low.isNaN) (hhigh : ¬high.isNaN) (hle : low ≤ high) (hx : ¬x.isNaN) :
    low ≤ clamp low high x ∧ clamp low high x ≤ high := by
  have hrefl : ∀ {z : Float}, ¬z.isNaN → z ≤ z := by
    intro z hz
    by_cases h : z < z
    · exact le_of_lt h
    · exact le_of_not_lt hz hz h
  unfold clamp
  split
  · exact ⟨hrefl hlow, hle⟩
  · next hxl =>
      split
      · exact ⟨hle, hrefl hhigh⟩
      · next hxh => exact ⟨le_of_not_lt hx hlow hxl, le_of_not_lt hhigh hx hxh⟩

/-- What is no number stays so. -/
theorem clamp_of_isNaN (hx : x.isNaN) : clamp low high x = x := by
  have hlow : ¬x < low := fun h => by
    rw [lt_iff_order, order_eq_none_iff.mpr (Or.inl hx)] at h
    cases h
  have hhigh : ¬high < x := fun h => by
    rw [lt_iff_order, order_eq_none_iff.mpr (Or.inr hx)] at h
    cases h
  rw [clamp, if_neg hlow, if_neg hhigh]

end Order

/-! ## Numbers in range -/

/-- Three numbers that are to be a coordinate. -/
structure Numbers where
  longitude : Float
  latitude : Float
  altitude : Float

/-- The numbers are finite, and the first two no further than the antimeridian and the poles. -/
structure Numbers.InRange (p : Numbers) : Prop where
  longitude_finite : p.longitude.isFinite
  latitude_finite : p.latitude.isFinite
  altitude_finite : p.altitude.isFinite
  west : -180.0 ≤ p.longitude
  east : p.longitude ≤ 180.0
  south : -90.0 ≤ p.latitude
  north : p.latitude ≤ 90.0

theorem isLongitude_iff {x : Float} :
    isLongitude x = true ↔ x.isFinite ∧ -180.0 ≤ x ∧ x ≤ 180.0 := by
  simp [isLongitude, and_assoc]

theorem isLatitude_iff {x : Float} : isLatitude x = true ↔ x.isFinite ∧ -90.0 ≤ x ∧ x ≤ 90.0 := by
  simp [isLatitude, and_assoc]

namespace Coordinate

def numbers (c : Coordinate) : Numbers := ⟨c.longitude, c.latitude, c.altitude⟩

theorem inRange (c : Coordinate) : c.numbers.InRange := by
  obtain ⟨hlon, hwest, heast⟩ := isLongitude_iff.mp c.longitude_valid
  obtain ⟨hlat, hsouth, hnorth⟩ := isLatitude_iff.mp c.latitude_valid
  exact ⟨hlon, hlat, c.altitude_valid, hwest, heast, hsouth, hnorth⟩

theorem of_eq_ok_iff_numbers {p : Numbers} {c : Coordinate} :
    of p.longitude p.latitude p.altitude = .ok c ↔ p = c.numbers := by
  obtain ⟨lon, lat, alt⟩ := p
  rw [of_eq_ok_iff, numbers, Numbers.mk.injEq, eq_comm (a := lon), eq_comm (a := lat),
    eq_comm (a := alt)]

/-- Numbers in range are those of a coordinate. -/
theorem exists_of_eq_ok_iff {p : Numbers} :
    (∃ c, of p.longitude p.latitude p.altitude = .ok c) ↔ p.InRange := by
  constructor
  · rintro ⟨c, hc⟩
    rw [of_eq_ok_iff_numbers.mp hc]
    exact c.inRange
  · intro h
    have hlon := isLongitude_iff.mpr ⟨h.longitude_finite, h.west, h.east⟩
    have hlat := isLatitude_iff.mpr ⟨h.latitude_finite, h.south, h.north⟩
    exact ⟨⟨_, _, _, hlon, hlat, h.altitude_finite⟩, of_eq_ok_iff.mpr ⟨rfl, rfl, rfl⟩⟩

end Coordinate

/-! ## Reading coordinates -/

/-- What a coordinate is read off. -/
inductive Reading where
  | parts (lon lat alt : Float)
  | ground (lon lat : Float)
  | list (xs : List Float)
  | text (s : String)
  | value (v : Value)

namespace Reading

/-- The coordinate that is read. -/
def coordinate : Reading → Except CoordinateError Coordinate
  | parts lon lat alt => Coordinate.of lon lat alt
  | ground lon lat => Coordinate.atGround lon lat
  | list xs => Coordinate.ofList xs
  | text s => Coordinate.ofText s
  | value v => Coordinate.ofValue v

/-- The numbers of a list: without a third one, the altitude is zero. -/
def ofList? : List Float → Option Numbers
  | [lon, lat] => some ⟨lon, lat, 0.0⟩
  | lon :: lat :: alt :: _ => some ⟨lon, lat, alt⟩
  | _ => none

def ofText? (s : String) : Option Numbers :=
  (Coordinate.numbersOfText s).toOption.bind ofList?

/-- The number that an object has under a name. -/
def member? (members : List (String × Value)) (key : String) : Option Float :=
  (members.lookup key).bind Coordinate.numberOf?

def ofValue? : Value → Option Numbers
  | .string s => ofText? s
  | .array items => (items.mapM Coordinate.numberOf?).bind ofList?
  | .object members =>
    (member? members "longitude").bind fun lon => (member? members "latitude").map fun lat =>
      ⟨lon, lat, (member? members "altitude").getD 0.0⟩
  | _ => none

/-- The numbers that are read, whether they are in range or not. -/
def numbers? : Reading → Option Numbers
  | parts lon lat alt => some ⟨lon, lat, alt⟩
  | ground lon lat => some ⟨lon, lat, 0.0⟩
  | list xs => ofList? xs
  | text s => ofText? s
  | value v => ofValue? v

variable {c : Coordinate}

theorem of_eq_ok_iff_some {lon lat alt : Float} :
    Coordinate.of lon lat alt = .ok c ↔ some (⟨lon, lat, alt⟩ : Numbers) = some c.numbers := by
  rw [Option.some.injEq]
  exact Coordinate.of_eq_ok_iff_numbers (p := ⟨lon, lat, alt⟩)

theorem error_eq_ok_iff_none {e : CoordinateError} :
    (.error e : Except CoordinateError Coordinate) = .ok c ↔
      (none : Option Numbers) = some c.numbers :=
  iff_of_false nofun nofun

theorem ofList_eq_ok_iff (xs : List Float) :
    Coordinate.ofList xs = .ok c ↔ ofList? xs = some c.numbers := by
  cases xs with
  | nil => exact error_eq_ok_iff_none
  | cons lon xs =>
      cases xs with
      | nil => exact error_eq_ok_iff_none
      | cons lat xs =>
          cases xs with
          | nil => exact of_eq_ok_iff_some
          | cons alt xs => exact of_eq_ok_iff_some

theorem ofText_eq_ok_iff (s : String) :
    Coordinate.ofText s = .ok c ↔ ofText? s = some c.numbers := by
  unfold Coordinate.ofText ofText?
  cases Coordinate.numbersOfText s with
  | ok xs => exact ofList_eq_ok_iff xs
  | error e => exact error_eq_ok_iff_none

theorem ofValue_eq_ok_iff (v : Value) :
    Coordinate.ofValue v = .ok c ↔ ofValue? v = some c.numbers := by
  cases v with
  | string s => exact ofText_eq_ok_iff s
  | array items =>
      rw [Coordinate.ofValue, ofValue?]
      cases items.mapM Coordinate.numberOf? with
      | none => exact error_eq_ok_iff_none
      | some xs => exact ofList_eq_ok_iff xs
  | object members =>
      rw [Coordinate.ofValue, ofValue?, member?, member?, member?]
      dsimp only
      cases (members.lookup "longitude").bind Coordinate.numberOf? with
      | none => exact error_eq_ok_iff_none
      | some lon =>
          cases (members.lookup "latitude").bind Coordinate.numberOf? with
          | none => exact error_eq_ok_iff_none
          | some lat => exact of_eq_ok_iff_some
  | _ => exact error_eq_ok_iff_none

/-- **What is read is a coordinate exactly if its numbers are in range**, and then with these
numbers. -/
theorem coordinate_eq_ok_iff (w : Reading) : w.coordinate = .ok c ↔ w.numbers? = some c.numbers := by
  cases w with
  | parts lon lat alt => exact of_eq_ok_iff_some
  | ground lon lat => exact of_eq_ok_iff_some
  | list xs => exact ofList_eq_ok_iff xs
  | text s => exact ofText_eq_ok_iff s
  | value v => exact ofValue_eq_ok_iff v

theorem exists_coordinate_eq_ok_iff (w : Reading) :
    (∃ c, w.coordinate = .ok c) ↔ ∃ p, w.numbers? = some p ∧ p.InRange := by
  simp only [coordinate_eq_ok_iff]
  constructor
  · rintro ⟨c, hc⟩
    exact ⟨c.numbers, hc, c.inRange⟩
  · rintro ⟨p, hp, hrange⟩
    obtain ⟨c, hc⟩ := Coordinate.exists_of_eq_ok_iff.mpr hrange
    exact ⟨c, hp.trans (congrArg some (Coordinate.of_eq_ok_iff_numbers.mp hc))⟩

end Reading

/-! ## Points on the sphere -/

namespace GreatCircle

/-- A position that is in range up to rounding is put back there, and what is no position is
refused. -/
theorem onSurface_eq_ok_iff {lon lat : Float} {c : Coordinate} :
    onSurface lon lat = .ok c ↔ ¬lon.isNaN ∧ ¬lat.isNaN ∧
      c.numbers = ⟨clamp (-180.0) 180.0 lon, clamp (-90.0) 90.0 lat, 0.0⟩ := by
  have hsurface : onSurface lon lat = .ok c ↔
      c.numbers = ⟨clamp (-180.0) 180.0 lon, clamp (-90.0) 90.0 lat, 0.0⟩ := by
    rw [eq_comm (a := c.numbers), ← Coordinate.of_eq_ok_iff_numbers, onSurface, Coordinate.atGround]
    cases Coordinate.of (clamp (-180.0) 180.0 lon) (clamp (-90.0) 90.0 lat) 0.0 with
    | error e => exact iff_of_false nofun nofun
    | ok c' => exact ⟨fun h => congrArg _ (Except.ok.inj h), fun h => congrArg _ (Except.ok.inj h)⟩
  rw [hsurface]
  refine ⟨fun h => ⟨fun hlon => ?_, fun hlat => ?_, h⟩, fun h => h.2.2⟩
  · have hfinite := c.inRange.longitude_finite
    rw [h, clamp_of_isNaN hlon] at hfinite
    exact not_isNaN_of_isFinite hfinite hlon
  · have hfinite := c.inRange.latitude_finite
    rw [h, clamp_of_isNaN hlat] at hfinite
    exact not_isNaN_of_isFinite hfinite hlat

theorem exists_onSurface_eq_ok_iff {lon lat : Float} :
    (∃ c, onSurface lon lat = .ok c) ↔ ¬lon.isNaN ∧ ¬lat.isNaN := by
  constructor
  · rintro ⟨c, hc⟩
    obtain ⟨hlon, hlat, -⟩ := onSurface_eq_ok_iff.mp hc
    exact ⟨hlon, hlat⟩
  · rintro ⟨hlon, hlat⟩
    have hturn : (-180.0 : Float).isFinite ∧ (180.0 : Float).isFinite ∧ (-180.0 : Float) ≤ 180.0 := by
      decide
    have hpole : (-90.0 : Float).isFinite ∧ (90.0 : Float).isFinite ∧ (-90.0 : Float) ≤ 90.0 := by
      decide
    obtain ⟨hwest, heast⟩ := clamp_mem (not_isNaN_of_isFinite hturn.1)
      (not_isNaN_of_isFinite hturn.2.1) hturn.2.2 hlon
    obtain ⟨hsouth, hnorth⟩ := clamp_mem (not_isNaN_of_isFinite hpole.1)
      (not_isNaN_of_isFinite hpole.2.1) hpole.2.2 hlat
    have hground : (0.0 : Float).isFinite := by decide
    have hrange : Numbers.InRange ⟨clamp (-180.0) 180.0 lon, clamp (-90.0) 90.0 lat, 0.0⟩ :=
      ⟨isFinite_of_le_of_le hturn.1 hturn.2.1 hwest heast,
        isFinite_of_le_of_le hpole.1 hpole.2.1 hsouth hnorth, hground, hwest, heast, hsouth, hnorth⟩
    obtain ⟨c, hc⟩ := Coordinate.exists_of_eq_ok_iff.mpr hrange
    exact ⟨c, onSurface_eq_ok_iff.mpr ⟨hlon, hlat, (Coordinate.of_eq_ok_iff_numbers.mp hc).symm⟩⟩

/-- A point on the way is one of the ends or has been put on the surface. -/
theorem interpolate_cases {a b c : Coordinate} {fraction : Float}
    (h : interpolate a b fraction = .ok c) :
    c = a ∨ c = b ∨ ∃ lon lat, onSurface lon lat = .ok c := by
  unfold interpolate at h
  split at h
  · exact Or.inl (Except.ok.inj h).symm
  · split at h
    · exact Or.inr (Or.inl (Except.ok.inj h).symm)
    · split at h
      · exact Or.inr (Or.inr ⟨_, _, h⟩)
      · unfold between at h
        dsimp only at h
        split at h
        · exact Or.inl (Except.ok.inj h).symm
        · split at h
          · cases h
          · split at h
            · exact Or.inr (Or.inr ⟨_, _, h⟩)
            · cases h

end GreatCircle

end Gazetteer.Geodesy
