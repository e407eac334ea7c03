import Gazetteer.Proofs.Coordinate
import Gazetteer.Value.Order
import Mathlib.Algebra.Ring.Int.Defs
import Mathlib.Algebra.Ring.Nat

/-!
# Floats by their bit patterns

Apart from the sign, the bit pattern of a float is a whole number that grows with the float, so that
floats compare as their sizes (`Geodesy.order_eq_some`). The total order of floats goes by the bit
patterns as well and differs at the zeros only: they are one number with two bit patterns
(`Value.orderFloats_eq_or_zeros`).
-/

namespace Gazetteer

open Float.Model (Format UnpackedFloat)
open Float.Model.UnpackedFloat

namespace Geodesy

/-! ## Sizes of unpacked floats -/

/-- The bits below the sign that stand for a mantissa and an exponent. -/
def pattern (m : Nat) (e : Int) : Int := (e + 1074) * 2 ^ 52 + m

def signed : Sign → Int → Int
  | .positive, k => k
  | .negative, k => -k

/-- The bits below the sign, as a number with that sign. -/
def size : UnpackedFloat → Int
  | .zero _ => 0
  | .finite s m e _ => signed s (pattern m e)
  | .infinity s => signed s (2047 * 2 ^ 52)
  | .notANumber => 0

/-- The mantissa and the exponent of a finite number fit into a bit pattern. The first bit of the
mantissa is only zero with the least exponent. -/
def Canonical : UnpackedFloat → Prop
  | .finite _ m e _ => -1074 ≤ e ∧ e ≤ 971 ∧ m < 2 ^ 53 ∧ (-1074 < e → 2 ^ 52 ≤ m)
  | _ => True

section Compare

variable {s t : Sign} {m n : Nat} {e f : Int} {hm : 0 < m} {hn : 0 < n}

theorem pattern_mem (h : Canonical (.finite s m e hm)) :
    0 < pattern m e ∧ pattern m e < 2047 * 2 ^ 52 := by
  obtain ⟨hemin, hemax, hmmax, hmmin⟩ := h
  unfold pattern
  omega

/-- The exponent counts first, since a greater one goes with a greater bit pattern, whatever the
mantissa. -/
theorem compare_pattern (hu : Canonical (.finite s m e hm)) (hv : Canonical (.finite t n f hn)) :
    (compare e f).then (compare m n) = compare (pattern m e) (pattern n f) := by
  obtain ⟨hemin, hemax, hmmax, hmmin⟩ := hu
  obtain ⟨hfmin, hfmax, hnmax, hnmin⟩ := hv
  unfold pattern
  rcases Int.lt_trichotomy e f with h | rfl | h
  · rw [Int.compare_eq_lt.mpr h]
    exact (Int.compare_eq_lt.mpr (by omega)).symm
  · rw [Int.compare_eq_eq.mpr rfl, Ordering.eq_then]
    rcases Nat.lt_trichotomy m n with hmn | rfl | hmn
    · rw [Nat.compare_eq_lt.mpr hmn]
      exact (Int.compare_eq_lt.mpr (by omega)).symm
    · rw [Nat.compare_eq_eq.mpr rfl, Int.compare_eq_eq.mpr rfl]
    · rw [Nat.compare_eq_gt.mpr hmn]
      exact (Int.compare_eq_gt.mpr (by omega)).symm
  · rw [Int.compare_eq_gt.mpr h]
    exact (Int.compare_eq_gt.mpr (by omega)).symm

theorem compare_neg (k l : Int) : compare (-k) (-l) = (compare k l).swap := by
  rcases Int.lt_trichotomy k l with h | rfl | h
  · rw [Int.compare_eq_lt.mpr h]
    exact Int.compare_eq_gt.mpr (by omega)
  · rw [Int.compare_eq_eq.mpr rfl, Int.compare_eq_eq.mpr rfl]
    rfl
  · rw [Int.compare_eq_gt.mpr h]
    exact Int.compare_eq_lt.mpr (by omega)

/-- Numbers compare as their sizes. -/
theorem compare_eq_some {u v : UnpackedFloat} (hu : Canonical u) (hv : Canonical v)
    (hnu : ¬u.isNaN) (hnv : ¬v.isNaN) : u.compare v = some (compare (size u) (size v)) := by
  have lt {k l : Int} (h : k < l) : some Ordering.lt = some (compare k l) :=
    congrArg some (Int.compare_eq_lt.mpr h).symm
  have gt {k l : Int} (h : l < k) : some Ordering.gt = some (compare k l) :=
    congrArg some (Int.compare_eq_gt.mpr h).symm
  cases u with
  | notANumber => exact absurd rfl hnu
  | zero s =>
      cases v with
      | notANumber => exact absurd rfl hnv
      | zero t => exact congrArg some (Int.compare_eq_eq.mpr rfl).symm
      | finite t n f hn =>
          have hpos := pattern_mem hv
          cases t with
          | positive => exact lt hpos.1
          | negative => exact gt (show -pattern n f < 0 by omega)
      | infinity t =>
          cases t with
          | positive => exact lt (show (0 : Int) < 2047 * 2 ^ 52 by decide)
          | negative => exact gt (show -(2047 * 2 ^ 52) < (0 : Int) by decide)
  | infinity s =>
      cases v with
      | notANumber => exact absurd rfl hnv
      | zero t =>
          cases s with
          | positive => exact gt (show (0 : Int) < 2047 * 2 ^ 52 by decide)
          | negative => exact lt (show -(2047 * 2 ^ 52) < (0 : Int) by decide)
      | finite t n f hn =>
          have hpos := pattern_mem hv
          cases s <;> cases t
          · exact lt (Int.neg_lt_neg hpos.2)
          · exact lt (show -(2047 * 2 ^ 52) < pattern n f by omega)
          · exact gt (show -pattern n f < 2047 * 2 ^ 52 by omega)
          · exact gt hpos.2
      | infinity t => cases s <;> cases t <;> decide
  | finite s m e hm =>
      have hpos := pattern_mem hu
      cases v with
      | notANumber => exact absurd rfl hnv
      | zero t =>
          cases s with
          | positive => exact gt hpos.1
          | negative => exact lt (show -pattern m e < 0 by omega)
      | finite t n f hn =>
          have hpos' := pattern_mem hv
          have hcompare := compare_pattern hu hv
          -- two negative numbers compare the other way round, and the sign decides otherwise
          cases s <;> cases t
          · show _ = some (compare (-pattern m e) (-pattern n f))
            rw [compare_neg, ← hcompare]
            rfl
          · exact lt (show -pattern m e < pattern n f by omega)
          · exact gt (show -pattern n f < pattern m e by omega)
          · exact congrArg some hcompare
      | infinity t =>
          cases s <;> cases t
          · exact gt (Int.neg_lt_neg hpos.2)
          · exact lt (show -pattern m e < 2047 * 2 ^ 52 by omega)
          · exact gt (show -(2047 * 2 ^ 52) < pattern m e by omega)
          · exact lt hpos.2

end Compare

/-! ## Unpacking a bit pattern -/

section Unpack

variable (b : BitVec Format.binary64.numBits)

theorem toNat_unpackMantissa : (unpackMantissa b).toNat = b.toNat % 2 ^ 52 := by
  show (b.toNat >>> 0) % 2 ^ 52 = b.toNat % 2 ^ 52
  rw [Nat.shiftRight_zero]

theorem toNat_unpackExponent : (unpackExponent b).toNat = b.toNat / 2 ^ 52 % 2 ^ 11 := by
  show (b.toNat >>> 52) % 2 ^ 11 = b.toNat / 2 ^ 52 % 2 ^ 11
  rw [Nat.shiftRight_eq_div_pow]

theorem unpackSign_eq_zero_iff : unpackSign b = 0#1 ↔ b.toNat < 2 ^ 63 := by
  have hb : b.toNat < 2 ^ 64 := b.isLt
  rw [← BitVec.toNat_inj]
  show (b.toNat >>> 63) % 2 = 0 ↔ _
  rw [Nat.shiftRight_eq_div_pow]
  omega

/-- The sign bit decides which way the other bits count. -/
theorem signed_unpackSign :
    signed (Sign.ofBitVec (unpackSign b)) (b.toNat % 2 ^ 63 : Nat) =
      if b.toNat < 2 ^ 63 then (b.toNat : Int) else 2 ^ 63 - b.toNat := by
  have hb : b.toNat < 2 ^ 64 := b.isLt
  rw [Sign.ofBitVec]
  by_cases h : b.toNat < 2 ^ 63
  · rw [if_pos h, if_pos ((unpackSign_eq_zero_iff b).mpr h), signed]
    omega
  · rw [if_neg h, if_neg (mt (unpackSign_eq_zero_iff b).mp h), signed]
    omega

/-- What is unpacked fits into a bit pattern, and its size is that bit pattern. -/
theorem size_unpack (h : ¬(unpack .binary64 b).isNaN) :
    Canonical (unpack .binary64 b) ∧
      size (unpack .binary64 b) =
        signed (Sign.ofBitVec (unpackSign b)) (b.toNat % 2 ^ 63 : Nat) := by
  have hmantissa := toNat_unpackMantissa b
  have hexponent := toNat_unpackExponent b
  have hlt := (unpackMantissa b).isLt
  have hbias : (Format.binary64.exponentBias : Int) + (52 : Nat) = 1075 := by decide
  revert h
  delta unpack
  dsimp only
  by_cases hlast : unpackExponent b = -1#11
  · -- the last exponent is that of the infinities
    rw [hlast] at hexponent
    change 2047 = _ at hexponent
    rw [if_pos hlast]
    by_cases hzero : unpackMantissa b = 0#52
    · rw [if_pos hzero]
      rw [hzero] at hmantissa
      change 0 = _ at hmantissa
      refine fun _ => ⟨trivial, congrArg (signed _) ?_⟩
      omega
    · rw [if_neg hzero]
      exact fun h => absurd rfl h
  · have hlast' : b.toNat / 2 ^ 52 % 2 ^ 11 ≠ 2047 := fun h =>
      hlast (BitVec.eq_of_toNat_eq (hexponent.trans h))
    rw [if_neg hlast]
    intro _
    by_cases hfirst : unpackExponent b = 0#11
    · -- the first exponent is that of the zeros and the subnormal numbers
      rw [if_pos hfirst]
      rw [hfirst] at hexponent ⊢
      change 0 = _ at hexponent
      by_cases hzero : unpackMantissa b = 0#52
      · rw [dif_pos hzero]
        rw [hzero] at hmantissa
        change 0 = _ at hmantissa
        have hbits : b.toNat % 2 ^ 63 = 0 := by omega
        refine ⟨trivial, ?_⟩
        rw [hbits]
        cases Sign.ofBitVec (unpackSign b) <;> rfl
      · rw [dif_neg hzero]
        refine ⟨⟨by decide, by decide, by omega, fun h => absurd h (by decide)⟩,
          congrArg (signed _) ?_⟩
        rw [pattern, hbias]
        show ((0 : Nat) - 1075 + 1 + 1074) * 2 ^ 52 + ((unpackMantissa b).toNat : Int) = _
        omega
    · -- all others have a mantissa with a first bit that the pattern leaves out
      have hfirst' : b.toNat / 2 ^ 52 % 2 ^ 11 ≠ 0 := fun h =>
        hfirst (BitVec.eq_of_toNat_eq (hexponent.trans h))
      have hone : (1#1 ++ unpackMantissa b).toNat = 2 ^ 52 + (unpackMantissa b).toNat := by
        rw [BitVec.toNat_append, ← Nat.shiftLeft_add_eq_or_of_lt hlt]
        rfl
      rw [if_neg hfirst]
      refine ⟨?_, congrArg (signed _) ?_⟩
      · show _ ≤ _ ∧ _ ≤ _ ∧ _ < _ ∧ _
        rw [hexponent, hone, hbias]
        omega
      · rw [pattern, hexponent, hone, hbias]
        omega

end Unpack

end Geodesy

namespace Value

/-! ## The two orders of floats -/

open Geodesy

/-- A whole number that grows with the float: its bit pattern, negated below zero. The zeros do not
differ. -/
def floatSize (x : Float) : Int :=
  let bits := x.toBits.toNat
  if bits < 0x8000000000000000 then bits else 0x8000000000000000 - (bits : Int)

/-- Floats that are numbers compare as their sizes. -/
theorem order_eq_some {x y : Float} (hx : ¬x.isNaN) (hy : ¬y.isNaN) :
    order x y = some (compare (floatSize x) (floatSize y)) := by
  obtain ⟨hcx, hsx⟩ := size_unpack x.toModel.toBits.toBitVec hx
  obtain ⟨hcy, hsy⟩ := size_unpack y.toModel.toBits.toBitVec hy
  rw [signed_unpackSign] at hsx hsy
  exact (compare_eq_some hcx hcy hx hy).trans (by rw [hsx, hsy]; rfl)

theorem compareFloats?_eq_order (x y : Float) : compareFloats? x y = order x y := by
  have hbeq : (x == y) = (order x y == some .eq) := rfl
  simp only [compareFloats?, lt_iff_order, hbeq, order_swap x y]
  cases order x y with
  | none => rfl
  | some o => cases o <;> rfl

/-- The zero and the negative zero: they are equal numbers, but not equal floats. -/
def OppositeZeros (x y : Float) : Prop := x = 0.0 ∧ y = -0.0 ∨ x = -0.0 ∧ y = 0.0

theorem eq_of_toNat_toBits_eq {x y : Float} (h : x.toBits.toNat = y.toBits.toNat) : x = y := by
  obtain ⟨⟨b, hb⟩⟩ := x
  obtain ⟨⟨c, hc⟩⟩ := y
  obtain rfl : b = c := UInt64.toNat_inj.mp h
  rfl

/-- Below zero the key is one less than the size. -/
theorem floatKey_cases (x : Float) :
    x.toBits.toNat < 2 ^ 63 ∧ floatSize x = x.toBits.toNat ∧ floatKey x = floatSize x ∨
    2 ^ 63 ≤ x.toBits.toNat ∧ floatSize x = 2 ^ 63 - (x.toBits.toNat : Int) ∧
      floatKey x = floatSize x - 1 := by
  unfold floatKey floatSize
  dsimp only
  by_cases h : x.toBits.toNat < 0x8000000000000000
  · exact Or.inl ⟨h, if_pos h, by rw [if_pos h, if_pos h]⟩
  · refine Or.inr ⟨Nat.le_of_not_lt h, if_neg h, ?_⟩
    rw [if_neg h, if_neg h]
    omega

theorem floatKey_lt_floatKey {x y : Float} (h : floatSize x < floatSize y) :
    floatKey x < floatKey y := by
  rcases floatKey_cases x with ⟨hx, hsx, hkx⟩ | ⟨hx, hsx, hkx⟩ <;>
    rcases floatKey_cases y with ⟨hy, hsy, hky⟩ | ⟨hy, hsy, hky⟩ <;> omega

theorem oppositeZeros_of_floatSize_eq {x y : Float} (h : floatSize x = floatSize y)
    (hne : floatKey x ≠ floatKey y) : OppositeZeros x y := by
  have hzero : (0.0 : Float).toBits.toNat = 0 := by decide
  have hnegative : (-0.0 : Float).toBits.toNat = 2 ^ 63 := by decide
  have hbits : x.toBits.toNat = 0 ∧ y.toBits.toNat = 2 ^ 63 ∨
      x.toBits.toNat = 2 ^ 63 ∧ y.toBits.toNat = 0 := by
    rcases floatKey_cases x with ⟨hx, hsx, hkx⟩ | ⟨hx, hsx, hkx⟩ <;>
      rcases floatKey_cases y with ⟨hy, hsy, hky⟩ | ⟨hy, hsy, hky⟩ <;> omega
  rcases hbits with ⟨hx, hy⟩ | ⟨hx, hy⟩
  · exact Or.inl ⟨eq_of_toNat_toBits_eq (hx.trans hzero.symm),
      eq_of_toNat_toBits_eq (hy.trans hnegative.symm)⟩
  · exact Or.inr ⟨eq_of_toNat_toBits_eq (hx.trans hnegative.symm),
      eq_of_toNat_toBits_eq (hy.trans hzero.symm)⟩

theorem OppositeZeros.orderFloats_ne {x y : Float} (h : OppositeZeros x y) :
    orderFloats x y ≠ .eq := by
  rcases h with ⟨rfl, rfl⟩ | ⟨rfl, rfl⟩ <;> decide

/-- **The total order of floats is the numeric one** except that it tells the zeros apart. -/
theorem orderFloats_eq_or_zeros {x y : Float} {o : Ordering} (h : compareFloats? x y = some o) :
    orderFloats x y = o ∨ o = .eq ∧ OppositeZeros x y := by
  rw [compareFloats?_eq_order] at h
  have hnan : ¬(x.isNaN ∨ y.isNaN) := by
    rw [← order_eq_none_iff, h]
    exact nofun
  rw [not_or] at hnan
  rw [order_eq_some hnan.1 hnan.2] at h
  obtain rfl := Option.some.inj h
  unfold orderFloats
  rcases Int.lt_trichotomy (floatSize x) (floatSize y) with hlt | heq | hgt
  · left
    rw [Int.compare_eq_lt.mpr hlt]
    exact Int.compare_eq_lt.mpr (floatKey_lt_floatKey hlt)
  · rw [Int.compare_eq_eq.mpr heq]
    by_cases hkey : floatKey x = floatKey y
    · exact Or.inl (Int.compare_eq_eq.mpr hkey)
    · exact Or.inr ⟨rfl, oppositeZeros_of_floatSize_eq heq hkey⟩
  · left
    rw [Int.compare_eq_gt.mpr hgt]
    exact Int.compare_eq_gt.mpr (floatKey_lt_floatKey hgt)

end Value

end Gazetteer
