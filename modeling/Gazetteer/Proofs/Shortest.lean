import Gazetteer.Decimal.Shortest
import Gazetteer.Proofs.Numeral
import Mathlib.Algebra.Order.Field.Basic

/-!
# Shortest decimals read back

The shortest decimal of a float is nearer to it than to any other float
(`Magnitude.nearestTo_shortest`). The decimals of a grid that are tested lie in the neighbourhood of
the float exactly if they are nearest to it (`Magnitude.contains_grid_iff`), and a grid with sixteen
digits below the leading one always has one of them (`Magnitude.nearestOn_ne_none`), so that the
search never ends without a hit.
-/

namespace Gazetteer

open Float.Model (Format UnpackedFloat)
open Float.Model.UnpackedFloat
open Geodesy

namespace Decimal

/-! ## Numbers that are written -/

/-- The number that a decimal stands for. -/
def Scaled.size (d : Scaled) : ℚ := d.digits * 10 ^ d.exponent

theorem zpow_eq_div {b : Nat} (hb : 0 < b) (e : Int) :
    (b : ℚ) ^ e = (b ^ e.toNat : Nat) / (b ^ (-e).toNat : Nat) := by
  have hbQ : (b : ℚ) ≠ 0 := by exact_mod_cast hb.ne'
  push_cast
  rw [← zpow_natCast, ← zpow_natCast, ← zpow_sub₀ hbQ]
  congr 1
  omega

/-! ## Points of a grid -/

namespace Magnitude

/-- The number that a magnitude stands for. -/
def size (v : Magnitude) : ℚ := v.mantissa * 2 ^ v.exponent

/-- The neighbourhood with the points of the grid `10 ^ E`. -/
def grid (v : Magnitude) (E : Int) : Neighbourhood := (v.neighbourhood.onGrid E).1

/-- The distance of the points. -/
def step (v : Magnitude) (E : Int) : Nat := (v.neighbourhood.onGrid E).2

/-- The denominator of the neighbourhood on a grid. -/
def gridUnit (v : Magnitude) (E : Int) : Nat := v.neighbourhood.unit * 10 ^ (-E).toNat

section Grid

variable (v : Magnitude) (E : Int)

theorem unit_pos : 0 < v.neighbourhood.unit := Nat.mul_pos (by decide) (ratio_snd_pos _)

theorem gridUnit_pos : 0 < v.gridUnit E := Nat.mul_pos v.unit_pos (Nat.pow_pos (by decide))

theorem step_pos : 0 < v.step E := Nat.mul_pos v.unit_pos (Nat.pow_pos (by decide))

/-- The numerators of a neighbourhood count quarters of the last digit. -/
theorem quarters_div_unit (a : Nat) :
    ((a * (ratio ⟨1, v.exponent⟩).1 : Nat) : ℚ) / v.neighbourhood.unit =
      a / 4 * 2 ^ v.exponent := by
  have hpower : (2 : ℚ) ^ v.exponent = (ratio ⟨1, v.exponent⟩).1 / (ratio ⟨1, v.exponent⟩).2 := by
    have htwo := zpow_eq_div (b := 2) (by decide) v.exponent
    rw [Nat.cast_ofNat] at htwo
    rw [htwo, ratio]
    dsimp only
    rw [Nat.one_mul]
    rfl
  have hden : ((ratio ⟨1, v.exponent⟩).2 : ℚ) ≠ 0 := by exact_mod_cast (ratio_snd_pos _).ne'
  have hunit : v.neighbourhood.unit = 4 * (ratio ⟨1, v.exponent⟩).2 := rfl
  rw [hpower, hunit]
  push_cast
  field_simp

theorem value_div_unit : (v.neighbourhood.value : ℚ) / v.neighbourhood.unit = v.size := by
  refine (v.quarters_div_unit (4 * v.mantissa)).trans ?_
  rw [size]
  push_cast
  ring

theorem high_div_unit :
    (v.neighbourhood.high : ℚ) / v.neighbourhood.unit = (v.mantissa + 1 / 2) * 2 ^ v.exponent := by
  refine (v.quarters_div_unit (4 * v.mantissa + 2)).trans ?_
  push_cast
  ring

theorem low_div_unit (hv : 0 < v.mantissa) : (v.neighbourhood.low : ℚ) / v.neighbourhood.unit =
    (v.mantissa - gapBelow v.mantissa v.exponent) * 2 ^ v.exponent := by
  refine (v.quarters_div_unit (4 * v.mantissa - if v.mantissa = 2 ^ 52 ∧ -1074 < v.exponent then 1
    else 2)).trans ?_
  unfold gapBelow
  split
  · rw [Nat.cast_sub (by omega)]
    push_cast
    ring
  · rw [Nat.cast_sub (by omega)]
    push_cast
    ring

theorem div_gridUnit (a : Nat) :
    ((a * 10 ^ (-E).toNat : Nat) : ℚ) / v.gridUnit E = a / v.neighbourhood.unit := by
  have hten : ((10 ^ (-E).toNat : Nat) : ℚ) ≠ 0 := by positivity
  rw [gridUnit, Nat.cast_mul, Nat.cast_mul, mul_div_mul_right _ _ hten]

theorem point_div_gridUnit (k : Nat) : ((k * v.step E : Nat) : ℚ) / v.gridUnit E = k * 10 ^ E := by
  have hten := zpow_eq_div (b := 10) (by decide) E
  have hunit : (v.neighbourhood.unit : ℚ) ≠ 0 := by exact_mod_cast v.unit_pos.ne'
  have hstep : v.step E = v.neighbourhood.unit * 10 ^ E.toNat := rfl
  rw [Nat.cast_ofNat] at hten
  rw [hstep, gridUnit, hten]
  push_cast
  field_simp

/-- The points in the neighbourhood are the numbers that are nearest to the float. -/
theorem contains_grid_iff (hv : 0 < v.mantissa) (k : Nat) :
    (v.grid E).contains (k * v.step E) = true ↔ NearestTo v.mantissa v.exponent (k * 10 ^ E) := by
  have hunit : (0 : ℚ) < v.gridUnit E := by exact_mod_cast v.gridUnit_pos E
  have hlow : ((v.grid E).low : ℚ) / v.gridUnit E =
      (v.mantissa - gapBelow v.mantissa v.exponent) * 2 ^ v.exponent :=
    (v.div_gridUnit E v.neighbourhood.low).trans (v.low_div_unit hv)
  have hhigh : ((v.grid E).high : ℚ) / v.gridUnit E = (v.mantissa + 1 / 2) * 2 ^ v.exponent :=
    (v.div_gridUnit E v.neighbourhood.high).trans v.high_div_unit
  have hle (a b : Nat) : (a : ℚ) / v.gridUnit E ≤ b / v.gridUnit E ↔ a ≤ b := by
    rw [div_le_div_iff_of_pos_right hunit, Nat.cast_le]
  have hlt (a b : Nat) : (a : ℚ) / v.gridUnit E < b / v.gridUnit E ↔ a < b := by
    rw [div_lt_div_iff_of_pos_right hunit, Nat.cast_lt]
  have hclosed : (v.grid E).closed = decide (v.mantissa % 2 = 0) := rfl
  have hnearest : NearestTo v.mantissa v.exponent (k * 10 ^ E) ↔
      (v.grid E).low ≤ k * v.step E ∧ k * v.step E ≤ (v.grid E).high ∧ (v.mantissa % 2 = 1 →
        (v.grid E).low < k * v.step E ∧ k * v.step E < (v.grid E).high) := by
    rw [← v.point_div_gridUnit E, ← hle, ← hle, ← hlt, ← hlt, hlow, hhigh]
    exact ⟨fun h => ⟨h.low, h.high, h.odd⟩, fun h => ⟨h.1, h.2.1, h.2.2⟩⟩
  rw [hnearest, Neighbourhood.contains, hclosed]
  rcases Nat.mod_two_eq_zero_or_one v.mantissa with heven | hodd
  · simp [heven]
  · simp [hodd]
    omega

/-! ## Hits -/

theorem nearestOn_eq_some {tie : Tie} {d : Scaled} (h : v.neighbourhood.nearestOn E tie = some d) :
    d.exponent = E ∧ (v.grid E).contains (d.digits * v.step E) = true := by
  unfold Neighbourhood.nearestOn at h
  dsimp only at h
  split at h
  · next hnearest =>
      obtain rfl := Option.some.inj h
      exact ⟨rfl, hnearest⟩
  · obtain ⟨hother, h⟩ := Option.ite_none_right_eq_some.mp h
    obtain rfl := Option.some.inj h
    exact ⟨rfl, hother⟩

/-- A hit reads back. -/
theorem nearestTo_of_nearestOn {tie : Tie} {d : Scaled} (hv : 0 < v.mantissa)
    (h : v.neighbourhood.nearestOn E tie = some d) : NearestTo v.mantissa v.exponent d.size := by
  obtain ⟨rfl, hcontains⟩ := v.nearestOn_eq_some E h
  exact (v.contains_grid_iff _ hv _).mp hcontains

/-- The nearest point of a grid is at most half a step off. -/
theorem abs_roundDiv_sub_size_le (tie : Tie) :
    |roundDiv (v.grid E).value (v.step E) tie * 10 ^ E - v.size| ≤ 10 ^ E / 2 := by
  have hunit : (0 : ℚ) < v.gridUnit E := by exact_mod_cast v.gridUnit_pos E
  have hvalue : ((v.grid E).value : ℚ) / v.gridUnit E = v.size :=
    (v.div_gridUnit E v.neighbourhood.value).trans v.value_div_unit
  have hstep := v.point_div_gridUnit E 1
  obtain ⟨hup, hdown⟩ := roundDiv_near (v.grid E).value tie (v.step_pos E)
  rw [Nat.one_mul, Nat.cast_one, one_mul] at hstep
  generalize roundDiv (v.grid E).value (v.step E) tie = k at hup hdown ⊢
  rw [← v.point_div_gridUnit E, ← hvalue, ← hstep, ← sub_div, div_div, mul_comm _ (2 : ℚ),
    ← div_div, abs_div, abs_of_pos hunit, div_le_div_iff_of_pos_right hunit, abs_le]
  have hupQ : (2 * (k * v.step E : Nat) : ℚ) ≤ 2 * (v.grid E).value + v.step E := by
    exact_mod_cast hup
  have hdownQ : (2 * (v.grid E).value : ℚ) ≤ 2 * (k * v.step E : Nat) + v.step E := by
    exact_mod_cast hdown
  constructor <;> linarith

/-- A unit in the seventeenth digit is less than what is rounded to a float. -/
theorem half_step_lt (hv : v.mantissa < 2 ^ 53) (hE : 10 ^ (E + 16) ≤ v.size) :
    (10 : ℚ) ^ E / 2 < gapBelow v.mantissa v.exponent * 2 ^ v.exponent := by
  have hmantissa : (v.mantissa : ℚ) + 1 ≤ 2 ^ 53 := by exact_mod_cast hv
  have hwidth : (v.mantissa : ℚ) / (2 * 10 ^ 16) < gapBelow v.mantissa v.exponent := by
    unfold gapBelow
    split
    · next hnarrow => rw [hnarrow.1]; norm_num
    · rw [div_lt_iff₀ (by norm_num)]
      linarith
  rw [zpow_add₀ (by norm_num), size] at hE
  calc (10 : ℚ) ^ E / 2
      ≤ v.mantissa / (2 * 10 ^ 16) * 2 ^ v.exponent := by
        rw [div_mul_eq_mul_div, le_div_iff₀ (by norm_num)]
        norm_num at hE ⊢
        linarith
    _ < gapBelow v.mantissa v.exponent * 2 ^ v.exponent :=
        mul_lt_mul_of_pos_right hwidth (zpow_pos (by norm_num) _)

/-- A grid with sixteen digits below the leading one always has a hit. -/
theorem nearestOn_ne_none (tie : Tie) (hv : 0 < v.mantissa) (hv' : v.mantissa < 2 ^ 53)
    (hE : 10 ^ (E + 16) ≤ v.size) : v.neighbourhood.nearestOn E tie ≠ none := by
  have hnear := (v.abs_roundDiv_sub_size_le E tie).trans_lt (v.half_step_lt E hv' hE)
  have hpow : (0 : ℚ) < 2 ^ v.exponent := zpow_pos (by norm_num) _
  have hgap : gapBelow v.mantissa v.exponent * 2 ^ v.exponent ≤ 1 / 2 * 2 ^ v.exponent :=
    mul_le_mul_of_nonneg_right (gapBelow_le _ _).2 hpow.le
  rw [size, abs_lt] at hnear
  have hlow : (v.mantissa - gapBelow v.mantissa v.exponent) * 2 ^ v.exponent <
      (roundDiv (v.grid E).value (v.step E) tie : ℚ) * 10 ^ E := by linarith [hnear.1]
  have hhigh : (roundDiv (v.grid E).value (v.step E) tie : ℚ) * 10 ^ E <
      (v.mantissa + 1 / 2) * 2 ^ v.exponent := by linarith [hnear.2]
  have hcontains := (v.contains_grid_iff E hv _).mpr ⟨hlow.le, hhigh.le, fun _ => ⟨hlow, hhigh⟩⟩
  have hhit : v.neighbourhood.nearestOn E tie =
      some ⟨roundDiv (v.grid E).value (v.step E) tie, E⟩ := if_pos hcontains
  rw [hhit]
  exact Option.some_ne_none _

end Grid

end Magnitude

/-! ## The shortest decimal -/

theorem ten_zpow_leadingExponent_le {num den : Nat} (hnum : 0 < num) (hden : 0 < den) :
    (10 : ℚ) ^ leadingExponent num den ≤ num / den := by
  have hdenQ : (0 : ℚ) < den := by exact_mod_cast hden
  have hnumQ : (0 : ℚ) < num := by exact_mod_cast hnum
  unfold leadingExponent
  split
  · next hle =>
      obtain ⟨hmin, -, hpos⟩ := digitCount_of_ne_zero (Nat.div_pos hle hden).ne'
      have hexponent : (digitCount (num / den) : Int) - 1 = (digitCount (num / den) - 1 : Nat) := by
        omega
      rw [hexponent, zpow_natCast, le_div_iff₀ hdenQ]
      exact_mod_cast (Nat.le_div_iff_mul_le hden).mp hmin
  · next hlt =>
      -- the quotient is at least the inverse of the rounded inverse quotient
      have hround : 2 ≤ (den + num - 1) / num := by
        rw [Nat.le_div_iff_mul_le hnum]
        omega
      have hne : (den + num - 1) / num - 1 ≠ 0 := by omega
      obtain ⟨-, hmax, -⟩ := digitCount_of_ne_zero hne
      generalize digitCount ((den + num - 1) / num - 1) = c at hmax
      have hceil : (den + num - 1) / num ≤ 10 ^ c := by omega
      have hbound : den ≤ 10 ^ c * num := by
        have hlt := (Nat.div_lt_iff_lt_mul hnum).mp (Nat.lt_succ_of_le hceil)
        rw [Nat.succ_mul] at hlt
        omega
      rw [zpow_neg, zpow_natCast, inv_eq_one_div, div_le_div_iff₀ (by positivity) hdenQ]
      have hboundQ : (den : ℚ) ≤ 10 ^ c * num := by exact_mod_cast hbound
      linarith

theorem Scaled.size_trimmed (d : Scaled) : d.trimmed.size = d.size := by
  have hgo (fuel : Nat) (d : Scaled) : (trimmed.go fuel d).size = d.size := by
    induction fuel generalizing d with
    | zero => rfl
    | succ fuel ih =>
        unfold trimmed.go
        split
        · next hzero =>
            have hdigits : (d.digits : ℚ) = (d.digits / 10 : Nat) * 10 := by
              exact_mod_cast (Nat.div_mul_cancel (Nat.dvd_of_mod_eq_zero hzero.2)).symm
            rw [ih, Scaled.size, Scaled.size, hdigits, zpow_add_one₀ (by norm_num)]
            ring
        · rfl
  exact hgo d.digits d

/-- **The shortest decimal reads back as the float.** -/
theorem Magnitude.nearestTo_shortest {v : Magnitude} (tie : Tie) (hv : 0 < v.mantissa)
    (hv' : v.mantissa < 2 ^ 53) : NearestTo v.mantissa v.exponent (v.shortest tie).size := by
  have hsize : (10 : ℚ) ^ leadingExponent v.neighbourhood.value v.neighbourhood.unit ≤ v.size := by
    rw [← v.value_div_unit]
    refine ten_zpow_leadingExponent_le ?_ v.unit_pos
    exact Nat.mul_pos (Nat.mul_pos (by decide) hv) (Nat.mul_pos Nat.one_pos (Nat.two_pow_pos _))
  unfold shortest
  rw [if_neg hv.ne']
  dsimp only
  generalize leadingExponent v.neighbourhood.value v.neighbourhood.unit = lead at hsize
  split
  · next d hd =>
      obtain ⟨i, -, hi⟩ := List.exists_of_findSome?_eq_some hd
      rw [Scaled.size_trimmed]
      exact v.nearestTo_of_nearestOn _ hv hi
  · next hnone =>
      have hlast := List.findSome?_eq_none_iff.mp hnone 16 (List.mem_range.mpr (by decide))
      refine absurd hlast (v.nearestOn_ne_none _ tie hv hv' ?_)
      rwa [Nat.cast_ofNat, sub_add_cancel]

end Decimal

end Gazetteer
