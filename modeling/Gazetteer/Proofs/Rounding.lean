import Gazetteer.Proofs.Conversion
import Mathlib.Algebra.Order.Field.Power
import Mathlib.Data.Rat.Cast.Order
import Mathlib.Tactic.FieldSimp
import Mathlib.Tactic.Linarith
import Mathlib.Tactic.Ring

/-!
# Rounding to the nearest float

`NearestTo m e v` says that the number `v` is nearer to the float `m * 2 ^ e` than to any other, or
as near to another one and the mantissa `m` is even. What is rounded from a long enough mantissa,
with or without bits after it, becomes the float that it is nearest to
(`roundWithAccuracy_of_nearestTo`). Below a power of two floats lie twice as close together as above
it, so that there are two cases: a number just below a power of two is rounded on the finer grid and
carried up, and any other on the grid of the last digit of the float.
-/

namespace Gazetteer

open Float.Model (Format UnpackedFloat totalExponent)
open Float.Model.UnpackedFloat
open Decimal

namespace Decimal

/-- What lies at most half a divisor from a multiple is rounded to it, exactly half of one only if
the multiple is an even one. -/
theorem roundDiv_eq_of_near {n d m : Nat} (hd : 0 < d) (hlow : 2 * (m * d) ≤ 2 * n + d)
    (hhigh : 2 * n ≤ 2 * (m * d) + d)
    (hodd : m % 2 = 1 → 2 * (m * d) < 2 * n + d ∧ 2 * n < 2 * (m * d) + d) :
    roundDiv n d .toEven = m := by
  have hdivision : n / d * d + n % d = n := Nat.div_add_mod' n d
  have hrest : n % d < d := Nat.mod_lt n hd
  have hmin : n / d ≤ m := by
    by_contra! h
    have hmul : (m + 1) * d ≤ n / d * d := Nat.mul_le_mul_right d h
    rw [Nat.add_mul] at hmul
    omega
  have hmax : m ≤ n / d + 1 := by
    by_contra! h
    have hmul : (n / d + 2) * d ≤ m * d := Nat.mul_le_mul_right d h
    rw [Nat.add_mul] at hmul
    omega
  unfold roundDiv
  dsimp only
  rcases Nat.eq_or_lt_of_le hmin with rfl | hlt
  · -- rounded down
    split
    · rfl
    · rw [if_neg (by omega), if_pos (by omega)]
  · obtain rfl : m = n / d + 1 := by omega
    rw [Nat.add_mul] at hlow hodd
    rw [if_neg (by omega)]
    split
    · rfl
    · rw [if_neg (by omega)]

end Decimal

/-! ## Mantissas with bits after them -/

theorem keeps_accuracyOfFraction {n d : Nat} (hd : 0 < d) :
    Keeps (.ofMantissaAndAccuracy (n / d) (accuracyOfFraction (n % d) d)) n d := by
  unfold accuracyOfFraction
  by_cases hzero : n % d = 0
  · rw [if_pos hzero]
    refine ⟨rfl, ?_, ?_⟩ <;> simp [ExtendedMantissa.ofMantissaAndAccuracy, hzero, hd.ne']
  · rw [if_neg hzero]
    rcases Nat.lt_trichotomy (2 * (n % d)) d with h | h | h
    · rw [Nat.compare_eq_lt.mpr h]
      refine ⟨rfl, ?_, ?_⟩ <;> simp [ExtendedMantissa.ofMantissaAndAccuracy] <;> omega
    · rw [Nat.compare_eq_eq.mpr h]
      refine ⟨rfl, ?_, ?_⟩ <;> simp [ExtendedMantissa.ofMantissaAndAccuracy] <;> omega
    · rw [Nat.compare_eq_gt.mpr h]
      refine ⟨rfl, ?_, ?_⟩ <;> simp [ExtendedMantissa.ofMantissaAndAccuracy] <;> omega

theorem shiftToTargetExponent_of_lt {q k : Nat} {e : Int} (a : Accuracy) (he : -1074 ≤ e + k)
    (hmax : q < 2 ^ (53 + k)) (hmin : -1074 < e + k → 2 ^ (52 + k) ≤ q) :
    shiftToTargetExponent .binary64 q e a =
      (ExtendedMantissa.ofMantissaAndAccuracy q a >>> k, e + k) := by
  have hlog : q.log2 ≤ 52 + k := by
    rcases Nat.eq_zero_or_pos q with rfl | hq
    · simp
    · have hlog := (Nat.log2_lt hq.ne').mpr hmax
      omega
  have hlog' : -1074 < e + k → q.log2 = 52 + k := by
    intro h
    have hq := hmin h
    have hpos : q ≠ 0 := ((Nat.two_pow_pos (52 + k)).trans_le hq).ne'
    exact Nat.le_antisymm hlog ((Nat.le_log2 hpos).mpr hq)
  have htarget : Format.binary64.targetExponent (totalExponent q e) = e + k := by
    rw [targetExponent_eq, totalExponent]
    by_cases h : -1074 < e + k
    · have := hlog' h
      omega
    · omega
  have hshift : (e + k - e).toNat = k := by omega
  unfold shiftToTargetExponent shiftToExponent
  dsimp only
  rw [htarget, hshift]

theorem Keeps.eq_div {q n d : Nat} {a : Accuracy} (h : Keeps (.ofMantissaAndAccuracy q a) n d) :
    q = n / d := by
  rw [← h.mantissa]
  cases a with
  | exact => rfl
  | inexact o => cases o <;> rfl

theorem roundWithAccuracy_of_keeps {q n d k m c : Nat} {e : Int} {a : Accuracy} (s : Sign)
    (hm : 0 < m) (hd : 0 < d) (h : Keeps (.ofMantissaAndAccuracy q a) n d) (he : -1074 ≤ e + k)
    (hmax : n < 2 ^ 53 * (d * 2 ^ k)) (hmin : -1074 < e + k → 2 ^ 52 * (d * 2 ^ k) ≤ n)
    (hround : roundDiv n (d * 2 ^ k) .toEven = m * 2 ^ c) (hmmax : m < 2 ^ 53)
    (hmmin : -1074 < e + k + c → 2 ^ 52 ≤ m) :
    roundWithAccuracy .binary64 s q e a = .finite s m (e + k + c) hm := by
  have hquotient : q = n / d := h.eq_div
  have hfirst : shiftToTargetExponent .binary64 q e a =
      (ExtendedMantissa.ofMantissaAndAccuracy q a >>> k, e + k) := by
    refine shiftToTargetExponent_of_lt a he ?_ fun hnormal => ?_
    · rw [hquotient, Nat.div_lt_iff_lt_mul hd, Nat.pow_add, Nat.mul_assoc, Nat.mul_comm _ d]
      exact hmax
    · rw [hquotient, Nat.le_div_iff_mul_le hd, Nat.pow_add, Nat.mul_assoc, Nat.mul_comm _ d]
      exact hmin hnormal
  have hrounded := (h.shiftRight hd k).roundedMantissa.trans hround
  have hsecond := shiftToTargetExponent_of_lt (q := m * 2 ^ c) (k := c) (e := e + k) .exact
    (by omega) (by rw [Nat.pow_add]; exact Nat.mul_lt_mul_of_pos_right hmmax (Nat.two_pow_pos c))
    fun hnormal => by rw [Nat.pow_add]; exact Nat.mul_le_mul_right _ (hmmin hnormal)
  exact roundWithAccuracy_of_shifts s hm hfirst hrounded hsecond

/-! ## The nearest float -/

/-- How far below a float lie the numbers that are rounded to it, in units of its last digit. The
gap below a power of two is half of the gap above it, except at the smallest normal number. -/
def gapBelow (m : Nat) (e : Int) : ℚ := if m = 2 ^ 52 ∧ -1074 < e then 1 / 4 else 1 / 2

/-- The number is nearer to the float `m * 2 ^ e` than to any other, or it is as near to another one
and the mantissa is even. -/
structure NearestTo (m : Nat) (e : Int) (v : ℚ) : Prop where
  low : (m - gapBelow m e) * 2 ^ e ≤ v
  high : v ≤ (m + 1 / 2) * 2 ^ e
  odd : m % 2 = 1 → (m - gapBelow m e) * 2 ^ e < v ∧ v < (m + 1 / 2) * 2 ^ e

theorem gapBelow_le (m : Nat) (e : Int) : 1 / 4 ≤ gapBelow m e ∧ gapBelow m e ≤ 1 / 2 := by
  unfold gapBelow
  split <;> norm_num

theorem div_mul_zpow_eq {n d k : Nat} {e₀ e : Int} (he : e₀ + k = e) :
    (n / d : ℚ) * 2 ^ e₀ = n / (d * 2 ^ k : Nat) * 2 ^ e := by
  subst he
  rw [zpow_add₀ (by norm_num), zpow_natCast]
  push_cast
  field_simp

theorem exponent_le {q n d : Nat} {e₀ e : Int} (hd : 0 < d) (hq : q = n / d)
    (hwide : 2 ^ 52 ≤ q ∨ e₀ ≤ -1074) (he : -1074 ≤ e)
    (hv : (n / d : ℚ) * 2 ^ e₀ < (2 ^ 53 : Nat) * 2 ^ e) : e₀ ≤ e := by
  by_contra! hlt
  push_cast at hv
  rcases hwide with hwide | hwide
  · rw [hq, Nat.le_div_iff_mul_le hd] at hwide
    have hdpos : (0 : ℚ) < d := by exact_mod_cast hd
    have hn : (2 : ℚ) ^ 52 ≤ n / d := by
      rw [le_div_iff₀ hdpos]
      exact_mod_cast hwide
    have hpow : (2 : ℚ) ^ (e + 1) ≤ 2 ^ e₀ := (zpow_le_zpow_iff_right₀ (by norm_num)).mpr hlt
    have hmul : (2 : ℚ) ^ 52 * 2 ^ (e + 1) ≤ n / d * 2 ^ e₀ := by gcongr
    rw [zpow_add_one₀ (by norm_num)] at hmul
    linarith
  · omega

section Grid

variable {n D m : Nat} {e : Int}

theorem div_mul_zpow_lt_iff (hD : 0 < D) : (n / D : ℚ) * 2 ^ e < m * 2 ^ e ↔ n < m * D := by
  have hDQ : (0 : ℚ) < D := by exact_mod_cast hD
  have hpow : (0 : ℚ) < 2 ^ e := zpow_pos (by norm_num) e
  rw [mul_lt_mul_iff_left₀ hpow, div_lt_iff₀ hDQ]
  exact_mod_cast Iff.rfl

/-- What is nearest to a float is rounded to its mantissa, where digits are as wide as the last one
of the float. -/
theorem NearestTo.roundDiv_eq (hD : 0 < D) (h : NearestTo m e (n / D * 2 ^ e)) :
    roundDiv n D .toEven = m := by
  have hDQ : (0 : ℚ) < D := by exact_mod_cast hD
  have hpow : (0 : ℚ) < 2 ^ e := zpow_pos (by norm_num) e
  obtain ⟨hlow, hhigh, hodd⟩ := h
  simp only [mul_le_mul_iff_left₀ hpow, mul_lt_mul_iff_left₀ hpow, le_div_iff₀ hDQ, div_le_iff₀ hDQ,
    lt_div_iff₀ hDQ, div_lt_iff₀ hDQ] at hlow hhigh hodd
  have hgap : gapBelow m e * D ≤ 1 / 2 * D := mul_le_mul_of_nonneg_right (gapBelow_le m e).2 hDQ.le
  refine roundDiv_eq_of_near hD ?_ ?_ fun hm => ⟨?_, ?_⟩
  · have : (2 : ℚ) * (m * D) ≤ 2 * n + D := by linarith
    exact_mod_cast this
  · have : (2 : ℚ) * n ≤ 2 * (m * D) + D := by linarith
    exact_mod_cast this
  · have : (2 : ℚ) * (m * D) < 2 * n + D := by linarith [(hodd hm).1]
    exact_mod_cast this
  · have : (2 : ℚ) * n < 2 * (m * D) + D := by linarith [(hodd hm).2]
    exact_mod_cast this

/-- Just below a power of two, digits are half as wide. -/
theorem NearestTo.two_mul_le (hD : 0 < D) (he : -1074 < e)
    (h : NearestTo (2 ^ 52) e (n / D * 2 ^ (e - 1))) : 2 * (2 ^ 53 * D) ≤ 2 * n + D := by
  have hDQ : (0 : ℚ) < D := by exact_mod_cast hD
  have hgap : gapBelow (2 ^ 52) e = 1 / 4 := if_pos ⟨rfl, he⟩
  have hnext : (2 : ℚ) ^ e = 2 * 2 ^ (e - 1) := by
    rw [← zpow_one_add₀ (by norm_num), add_sub_cancel]
  have hlow := h.low
  rw [hgap, hnext, ← mul_assoc, mul_le_mul_iff_left₀ (zpow_pos (by norm_num) _), le_div_iff₀ hDQ]
    at hlow
  push_cast at hlow
  have : (2 : ℚ) * (2 ^ 53 * D) ≤ 2 * n + D := by linarith
  exact_mod_cast this

/-- Of the floats with a leading bit only a power of two is nearest to a number below them all. -/
theorem NearestTo.eq_two_pow {v : ℚ} (h : NearestTo m e v) (hm : 2 ^ 52 ≤ m)
    (hv : v < (2 ^ 52 : Nat) * 2 ^ e) : m = 2 ^ 52 := by
  have hlow := h.low.trans_lt hv
  rw [mul_lt_mul_iff_left₀ (zpow_pos (by norm_num) e)] at hlow
  push_cast at hlow
  have hlt : (m : ℚ) < 2 ^ 52 + 1 := by linarith [(gapBelow_le m e).2]
  exact Nat.le_antisymm (Nat.lt_succ_iff.mp (by exact_mod_cast hlt)) hm

end Grid

/-- **Rounding leads to the nearest float.** -/
theorem roundWithAccuracy_of_nearestTo {q n d m : Nat} {e₀ e : Int} {a : Accuracy} (s : Sign)
    (hd : 0 < d) (h : Keeps (.ofMantissaAndAccuracy q a) n d) (hwide : 2 ^ 52 ≤ q ∨ e₀ ≤ -1074)
    {hm : 0 < m} (hcanonical : Geodesy.Canonical (.finite s m e hm))
    (hnearest : NearestTo m e (n / d * 2 ^ e₀)) :
    roundWithAccuracy .binary64 s q e₀ a = .finite s m e hm := by
  obtain ⟨hemin, -, hmmax, hmmin⟩ := hcanonical
  have hD (k : Nat) : 0 < d * 2 ^ k := Nat.mul_pos hd (Nat.two_pow_pos k)
  by_cases hcarry : -1074 < e ∧ (n / d : ℚ) * 2 ^ e₀ < (2 ^ 52 : Nat) * 2 ^ e
  · -- rounded up to a power of two
    obtain rfl := hnearest.eq_two_pow (hmmin hcarry.1) hcarry.2
    have hhigh : (n / d : ℚ) * 2 ^ e₀ < (2 ^ 53 : Nat) * 2 ^ (e - 1) := by
      have hnext : (2 : ℚ) ^ e = 2 * 2 ^ (e - 1) := by
        rw [← zpow_one_add₀ (by norm_num), add_sub_cancel]
      refine hcarry.2.trans_eq ?_
      rw [hnext]
      push_cast
      ring
    have hle : e₀ ≤ e - 1 := exponent_le hd h.eq_div hwide (by omega) hhigh
    obtain ⟨k, hk⟩ : ∃ k : Nat, e₀ + k = e - 1 := ⟨(e - 1 - e₀).toNat, by omega⟩
    rw [div_mul_zpow_eq hk] at hnearest hhigh
    rw [div_mul_zpow_lt_iff (hD k)] at hhigh
    have hlow := hnearest.two_mul_le (hD k) hcarry.1
    have hround : roundDiv n (d * 2 ^ k) .toEven = 2 ^ 52 * 2 ^ 1 :=
      roundDiv_eq_of_near (hD k) hlow (by omega) fun hodd => absurd hodd (by decide)
    obtain rfl : e = e₀ + k + 1 := by omega
    exact roundWithAccuracy_of_keeps s hm hd h (by omega) hhigh (fun _ => by omega) hround hmmax
      fun _ => le_rfl
  · have hhigh : (n / d : ℚ) * 2 ^ e₀ < (2 ^ 53 : Nat) * 2 ^ e := by
      have hmQ : (m : ℚ) + 1 ≤ (2 ^ 53 : Nat) := by exact_mod_cast hmmax
      refine hnearest.high.trans_lt (mul_lt_mul_of_pos_right ?_ (zpow_pos (by norm_num) e))
      exact (add_lt_add_right (by norm_num) _).trans_le hmQ
    have hle : e₀ ≤ e := exponent_le hd h.eq_div hwide hemin hhigh
    obtain ⟨k, rfl⟩ : ∃ k : Nat, e = e₀ + k := ⟨(e - e₀).toNat, by omega⟩
    rw [div_mul_zpow_eq rfl] at hnearest hhigh hcarry
    rw [div_mul_zpow_lt_iff (hD k)] at hhigh hcarry
    have hround : roundDiv n (d * 2 ^ k) .toEven = m * 2 ^ 0 := by
      rw [pow_zero, Nat.mul_one]
      exact hnearest.roundDiv_eq (hD k)
    have hrounded := roundWithAccuracy_of_keeps s hm hd h hemin hhigh
      (fun hnormal => Nat.not_lt.mp fun hlt => hcarry ⟨hnormal, hlt⟩) hround hmmax
      fun hnormal => hmmin (by omega)
    exact hrounded.trans (finite_eq rfl (Int.add_zero _))

end Gazetteer
