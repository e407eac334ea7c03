import Gazetteer.Proofs.FloatOrder
import Gazetteer.Proofs.Nearest

/-!
# Whole numbers as floats

`Float.ofInt` gives the nearest float: `Denotes u k` says that an unpacked float is the whole number
`k`, and what a whole number of 64 bits is converted to denotes `Decimal.nearest` of it
(`denotes_ofInt`).
-/

namespace Gazetteer

open Float.Model (Format UnpackedFloat totalExponent)
open Float.Model.UnpackedFloat
open Decimal

/-! ## Rounding a mantissa -/

/-- The mantissa is the quotient `m / d`, and the bits after it compare the rest with a half. -/
structure Keeps (em : ExtendedMantissa) (m d : Nat) : Prop where
  mantissa : em.mantissa = m / d
  roundBit : em.roundBit = true ↔ d ≤ 2 * (m % d)
  stickyBit : em.stickyBit = true ↔ 2 * (m % d) ≠ 0 ∧ 2 * (m % d) ≠ d

theorem keeps_self (m : Nat) : Keeps (.ofMantissaAndAccuracy m .exact) m 1 where
  mantissa := (Nat.div_one m).symm
  roundBit := by simp [ExtendedMantissa.ofMantissaAndAccuracy, Nat.mod_one]
  stickyBit := by simp [ExtendedMantissa.ofMantissaAndAccuracy, Nat.mod_one]

theorem Keeps.shiftRightOne {em : ExtendedMantissa} {m d : Nat} (hd : 0 < d) (h : Keeps em m d) :
    Keeps em.shiftRightOne m (d * 2) := by
  obtain ⟨hmantissa, hround, hsticky⟩ := h
  have hrest : m % (d * 2) = m % d + d * (m / d % 2) := Nat.mod_mul
  have hlt : m % d < d := Nat.mod_lt m hd
  have hbit : em.shiftRightOne.roundBit = true ↔ m / d % 2 = 1 := by
    simp [ExtendedMantissa.shiftRightOne, hmantissa]
  have hnonzero : em.shiftRightOne.stickyBit = true ↔ m % d ≠ 0 := by
    simp only [ExtendedMantissa.shiftRightOne, Bool.or_eq_true, hround, hsticky]
    omega
  refine ⟨?_, ?_, ?_⟩
  · rw [← Nat.div_div_eq_div_mul, ← hmantissa]
    rfl
  · rw [hbit, hrest]
    rcases Nat.mod_two_eq_zero_or_one (m / d) with h | h <;> rw [h] <;> omega
  · rw [hnonzero, hrest]
    rcases Nat.mod_two_eq_zero_or_one (m / d) with h | h <;> rw [h] <;> omega

theorem Keeps.shiftRight {em : ExtendedMantissa} {m d : Nat} (hd : 0 < d) (h : Keeps em m d)
    (k : Nat) : Keeps (em >>> k) m (d * 2 ^ k) := by
  show Keeps (k.repeat ExtendedMantissa.shiftRightOne em) m (d * 2 ^ k)
  induction k with
  | zero => rwa [pow_zero, Nat.mul_one]
  | succ k ih =>
      rw [pow_succ, ← Nat.mul_assoc]
      exact ih.shiftRightOne (Nat.mul_pos hd (Nat.two_pow_pos k))

theorem keeps_shiftRight (m k : Nat) :
    Keeps (ExtendedMantissa.ofMantissaAndAccuracy m .exact >>> k) m (2 ^ k) := by
  have h := (keeps_self m).shiftRight Nat.one_pos k
  rwa [Nat.one_mul] at h

theorem Keeps.roundedMantissa {em : ExtendedMantissa} {m d : Nat} (h : Keeps em m d) :
    em.roundedMantissa = roundDiv m d .toEven := by
  obtain ⟨hmantissa, hround, hsticky⟩ := h
  rcases em with ⟨q, r, s⟩
  obtain rfl : q = m / d := hmantissa
  unfold roundDiv
  dsimp only at hround hsticky ⊢
  cases r <;> cases s <;> simp only [Bool.false_eq_true, false_iff, true_iff] at hround hsticky
  · rw [if_pos (by omega)]
    rfl
  · rw [if_pos (by omega)]
    rfl
  · -- exactly a half
    rw [if_neg (by omega), if_neg (by omega)]
    show m / d + m / d % 2 = _
    split <;> omega
  · rw [if_neg (by omega), if_pos (by omega)]
    rfl

theorem pos_of_log2_ne_zero {n : Nat} (h : n.log2 ≠ 0) : 0 < n := by
  refine Nat.pos_of_ne_zero ?_
  rintro rfl
  exact h Nat.log2_zero

theorem log2_mul_two_pow {n : Nat} (hn : n ≠ 0) (k : Nat) : (n * 2 ^ k).log2 = n.log2 + k := by
  induction k with
  | zero => rw [pow_zero, Nat.mul_one, Nat.add_zero]
  | succ k ih =>
      have hne : n * 2 ^ k ≠ 0 := Nat.mul_ne_zero hn (Nat.two_pow_pos k).ne'
      rw [pow_succ, ← Nat.mul_assoc, Nat.mul_comm, Nat.log2_two_mul hne, ih, Nat.add_assoc]

theorem targetExponent_eq (e : Int) : Format.binary64.targetExponent e = max (e - 53) (-1074) := rfl

theorem shiftToTargetExponent_eq {n k : Nat} {e : Int} (hlog : n.log2 = 52 + k)
    (he : -1074 ≤ e + k) :
    shiftToTargetExponent .binary64 n e .exact =
      (ExtendedMantissa.ofMantissaAndAccuracy n .exact >>> k, e + k) := by
  have htarget : Format.binary64.targetExponent (totalExponent n e) = e + k := by
    rw [targetExponent_eq, totalExponent, hlog]
    omega
  have hshift : (e + k - e).toNat = k := by omega
  unfold shiftToTargetExponent shiftToExponent
  dsimp only
  rw [htarget, hshift]

/-- A mantissa that is rounded up may need one more digit, but is a power of two then. -/
theorem exists_roundDiv_eq {n k : Nat} (hlog : n.log2 = 52 + k) :
    ∃ m c, m.log2 = 52 ∧ c ≤ 1 ∧ roundDiv n (2 ^ k) .toEven = m * 2 ^ c := by
  have hpos : 0 < 2 ^ k := Nat.two_pow_pos k
  have hn : 0 < n := pos_of_log2_ne_zero (by omega)
  obtain ⟨hmin, hmax⟩ := (Nat.log2_eq_iff hn.ne').mp hlog
  have hlow : 2 ^ 52 ≤ roundDiv n (2 ^ k) .toEven := by
    rw [← roundDiv_mul_self (2 ^ 52) .toEven hpos, ← Nat.pow_add]
    exact roundDiv_mono .toEven hpos hmin
  have hhigh : roundDiv n (2 ^ k) .toEven ≤ 2 ^ 53 := by
    rw [← roundDiv_mul_self (2 ^ 53) .toEven hpos, ← Nat.pow_add]
    exact roundDiv_mono .toEven hpos (by rw [show 53 + k = 52 + k + 1 by omega]; exact hmax.le)
  generalize roundDiv n (2 ^ k) .toEven = r at hlow hhigh
  rcases Nat.eq_or_lt_of_le hhigh with rfl | hlt
  · exact ⟨2 ^ 52, 1, by decide, le_rfl, rfl⟩
  · exact ⟨r, 0, (Nat.log2_eq_iff (by omega)).mpr ⟨hlow, hlt⟩, by omega, (Nat.mul_one r).symm⟩

theorem finite_eq {s : Sign} {m n : Nat} {e f : Int} {hm : 0 < m} {hn : 0 < n} (hmn : m = n)
    (hef : e = f) : UnpackedFloat.finite s m e hm = .finite s n f hn := by
  subst hmn hef
  rfl

/-- A mantissa is shifted and rounded; a second shift drops the zeros of one that overflowed. -/
theorem roundWithAccuracy_of_shifts {q m c : Nat} {e f : Int} {a : Accuracy} {em : ExtendedMantissa}
    (s : Sign) (hm : 0 < m) (hfirst : shiftToTargetExponent .binary64 q e a = (em, f))
    (hround : em.roundedMantissa = m * 2 ^ c)
    (hsecond : shiftToTargetExponent .binary64 (m * 2 ^ c) f .exact =
      (ExtendedMantissa.ofMantissaAndAccuracy (m * 2 ^ c) .exact >>> c, f + c)) :
    roundWithAccuracy .binary64 s q e a = .finite s m (f + c) hm := by
  have hmantissa : (ExtendedMantissa.ofMantissaAndAccuracy (m * 2 ^ c) .exact >>> c).mantissa = m :=
    (keeps_shiftRight _ c).mantissa.trans (Nat.mul_div_cancel m (Nat.two_pow_pos c))
  unfold roundWithAccuracy
  rw [hfirst]
  dsimp only
  rw [hround, hsecond]
  dsimp only
  rw [dif_neg (by rw [hmantissa]; exact hm.ne')]
  exact finite_eq hmantissa rfl

/-- Rounding leaves a mantissa with its leading bit, that is the rounded quotient. -/
theorem exists_roundWithAccuracy {n k : Nat} {e : Int} (s : Sign) (hlog : n.log2 = 52 + k)
    (he : -1074 ≤ e + k) :
    ∃ (m c : Nat) (hm : 0 < m), m.log2 = 52 ∧ c ≤ 1 ∧ roundDiv n (2 ^ k) .toEven = m * 2 ^ c ∧
      roundWithAccuracy .binary64 s n e .exact = .finite s m (e + k + c) hm := by
  obtain ⟨m, c, hm, hc, hquotient⟩ := exists_roundDiv_eq hlog
  have hpos : 0 < m := pos_of_log2_ne_zero (by omega)
  have hround := (keeps_shiftRight n k).roundedMantissa.trans hquotient
  have hsecond := shiftToTargetExponent_eq (n := m * 2 ^ c) (k := c) (e := e + k)
    (by rw [log2_mul_two_pow hpos.ne', hm]) (by omega)
  exact ⟨m, c, hpos, hm, hc, hquotient,
    roundWithAccuracy_of_shifts s hpos (shiftToTargetExponent_eq hlog he) hround hsecond⟩

/-- A mantissa that has its leading bit already is kept. -/
theorem roundWithAccuracy_mul_two_pow (s : Sign) {m k : Nat} {e : Int} (hm : 0 < m)
    (hlog : m.log2 = 52) (he : -1074 ≤ e + k) :
    roundWithAccuracy .binary64 s (m * 2 ^ k) e .exact = .finite s m (e + k) hm := by
  have hlog' : (m * 2 ^ k).log2 = 52 + k := by rw [log2_mul_two_pow hm.ne', hlog]
  obtain ⟨n, c, hn, hlogn, hc, hquotient, hround⟩ := exists_roundWithAccuracy s hlog' he
  rw [roundDiv_mul_self m .toEven (Nat.two_pow_pos k)] at hquotient
  obtain rfl : c = 0 := by
    have hdigits := log2_mul_two_pow hn.ne' c
    rw [← hquotient, hlog, hlogn] at hdigits
    omega
  obtain rfl : m = n := by rw [hquotient, pow_zero, Nat.mul_one]
  exact hround.trans (finite_eq rfl (Int.add_zero _))

/-! ## Packing -/

theorem unpackSign_packComponents {format : Format} (s : Sign)
    (exponent : BitVec format.exponentBits) (mantissa : BitVec format.mantissaBitsWithoutImplicit) :
    unpackSign (packComponents format s exponent mantissa) = s.toBitVec := by
  ext i hi
  obtain rfl : i = 0 := by omega
  unfold unpackSign packComponents
  simp [BitVec.getLsbD_append, BitVec.getElem_append]

/-- Between the first and the last exponent the leading bit is not written. -/
theorem unpack_packComponents (s : Sign) {exponent : BitVec 11} (mantissa : BitVec 52)
    (hlast : exponent ≠ -1#11) (hfirst : exponent ≠ 0#11) :
    unpack .binary64 (packComponents .binary64 s exponent mantissa) =
      .finite s (2 ^ 52 + mantissa.toNat) (exponent.toNat - 1075) (by omega) := by
  have hsign : Sign.ofBitVec s.toBitVec = s := by cases s <;> rfl
  have hone : (1#1 ++ mantissa).toNat = 2 ^ 52 + mantissa.toNat := by
    rw [BitVec.toNat_append, ← Nat.shiftLeft_add_eq_or_of_lt mantissa.isLt]
    rfl
  have hbias : (Format.binary64.exponentBias : Int) + (52 : Nat) = 1075 := by decide
  delta unpack
  dsimp only
  rw [unpackExponent_packComponents, unpackSign_packComponents, hsign, if_neg hlast,
    if_neg hfirst, hbias]
  exact finite_eq (by rw [unpackMantissa_packComponents, hone]) rfl

theorem pack_eq_packComponents (s : Sign) {m b : Nat} {e : Int} (hm : 0 < m)
    (hlog : m.log2 = 52) (hb : (b : Int) = e + 1075) (hmax : b < 2047) :
    pack .binary64 (.finite s m e hm) =
      packComponents .binary64 s (BitVec.ofNat 11 b) (BitVec.ofNat 52 m) := by
  have hbias : Format.binary64.exponentBias = 1023 := by decide
  have hbiased : (e + Format.binary64.exponentBias +
      Format.binary64.mantissaBitsWithoutImplicit).toNat = b := by
    rw [hbias]
    show (e + (1023 : Nat) + (52 : Nat)).toNat = b
    omega
  delta pack
  dsimp only
  rw [hbiased, hlog, if_neg (by show ¬2 ^ 11 ≤ b + 1; omega), if_pos (by decide)]

/-- A bit pattern keeps a mantissa with its leading bit, if the exponent fits. -/
theorem unpack_pack (s : Sign) {m : Nat} {e : Int} (hm : 0 < m) (hlog : m.log2 = 52)
    (hemin : -1074 ≤ e) (hemax : e ≤ 971) :
    (Float.Model.pack (.finite s m e hm)).unpack = .finite s m e hm := by
  obtain ⟨hmin, hmax⟩ := (Nat.log2_eq_iff hm.ne').mp hlog
  obtain ⟨b, hb⟩ : ∃ b : Nat, (b : Int) = e + 1075 := ⟨(e + 1075).toNat, by omega⟩
  have hexponent : (BitVec.ofNat 11 b).toNat = b := by
    rw [BitVec.toNat_ofNat]
    omega
  have hmantissa : (BitVec.ofNat 52 m).toNat = m - 2 ^ 52 := by
    rw [BitVec.toNat_ofNat]
    omega
  have hlast : BitVec.ofNat 11 b ≠ -1#11 := by
    intro h
    have hlast : b = 2047 := hexponent.symm.trans (congrArg BitVec.toNat h)
    omega
  have hfirst : BitVec.ofNat 11 b ≠ 0#11 := by
    intro h
    have hfirst : b = 0 := hexponent.symm.trans (congrArg BitVec.toNat h)
    omega
  show unpack .binary64 (pack .binary64 (.finite s m e hm)) = _
  rw [pack_eq_packComponents s hm hlog hb (by omega), unpack_packComponents s _ hlast hfirst]
  exact finite_eq (by omega) (by omega)

/-! ## Converting -/

/-- The unpacked float is a whole number. What is not zero has its leading bit. -/
inductive Denotes : UnpackedFloat → Int → Prop where
  | zero : Denotes (.zero .positive) 0
  | finite (s : Sign) {m a : Nat} {k : Int} (hm : 0 < m) (hlog : m.log2 = 52)
      (hk : k * 2 ^ 52 = s.apply (m * 2 ^ a : Nat)) : Denotes (.finite s m (a - 52) hm) k

theorem mul_finite (s t : Sign) {m n : Nat} {e f : Int} (hm : 0 < m) (hn : 0 < n) :
    mul .binary64 (.finite s m e hm) (.finite t n f hn) =
      roundWithAccuracy .binary64 (s * t) (m * n) (e + f) .exact := rfl

theorem ofScientific_eq {n : Nat} (hn : n ≠ 0) :
    UnpackedFloat.ofScientific .binary64 n 0 =
      roundWithAccuracy .binary64 .positive (n * 2 ^ 53) (-53) .exact := by
  have hsmall : ¬(0 : Int) > 2 ^ Format.binary64.exponentBits := by decide
  have hlarge : ¬(0 : Int) < -((2 ^ Format.binary64.exponentBits : Int) + n.log2) := by
    show ¬(0 : Int) < -((2 ^ 11 : Int) + n.log2)
    omega
  have hone : 10 ^ (0 : Int).toNat = 1 := rfl
  unfold UnpackedFloat.ofScientific
  rw [dif_neg hn, if_neg hsmall, if_neg hlarge, if_pos le_rfl, mul_finite, Nat.shiftLeft_eq, hone,
    Nat.mul_one]
  rfl

/-- Great numbers are multiplied by a power of ten, here the first one, before they are rounded. -/
theorem toModel_ofNat_of_le {n : Nat} (h : 2 ^ 53 ≤ n) :
    (Float.ofNat n).toModel =
      .pack (roundWithAccuracy .binary64 .positive (n * 2 ^ 53) (-53) .exact) := by
  have hn : n ≠ 0 := ((Nat.two_pow_pos 53).trans_le h).ne'
  have hslow : ¬(n < 2 ^ 53 ∧ 0 ≤ 22) := fun hfast => absurd hfast.1 (Nat.not_lt.mpr h)
  unfold Float.ofNat
  show (Float.ofScientific n false 0).toModel = _
  unfold Float.ofScientific
  rw [dif_neg hslow]
  exact congrArg Float.Model.pack (ofScientific_eq hn)

theorem unpack_powerOfTen_zero :
    (Float.exactlyRepresentablePowersOfTen[0]).toModel.unpack =
      .finite .positive (2 ^ 52) (-52) (Nat.two_pow_pos 52) := rfl

/-- Small numbers are floats, and multiplied as such. -/
theorem toModel_ofNat_of_lt {n : Nat} (h : n < 2 ^ 53) :
    (Float.ofNat n).toModel =
      .pack (mul .binary64 (Float.Model.pack (UnpackedFloat.ofNat .binary64 n)).unpack
        (.finite .positive (2 ^ 52) (-52) (Nat.two_pow_pos 52))) := by
  have hword : n.toUInt64.toNat = n := by
    rw [Nat.toUInt64_eq, UInt64.toNat_ofNat']
    omega
  unfold Float.ofNat
  show (Float.ofScientific n false 0).toModel = _
  unfold Float.ofScientific
  rw [dif_pos ⟨h, by decide⟩]
  show Float.Model.mul (Float.Model.ofUInt64 n.toUInt64) _ = _
  unfold Float.Model.ofUInt64 UnpackedFloat.ofUInt64 Float.Model.mul
  rw [hword, unpack_powerOfTen_zero]

theorem ofNat_eq {n k : Nat} (hn : 0 < n) (hlog : n.log2 + k = 52) :
    UnpackedFloat.ofNat .binary64 n =
      roundWithAccuracy .binary64 .positive (n * 2 ^ k) (-k) .exact := by
  have htarget : Format.binary64.targetExponent (totalExponent n 0) = -k := by
    rw [targetExponent_eq, totalExponent]
    omega
  have hshift : (0 - -(k : Int)).toNat = k := by omega
  have hpositive : compare (n : Int) 0 = .gt := Int.compare_eq_gt.mpr (by omega)
  unfold UnpackedFloat.ofNat UnpackedFloat.ofInt UnpackedFloat.normalize
  rw [hpositive]
  dsimp only
  unfold UnpackedFloat.round decreaseExponent
  dsimp only
  rw [Int.toNat_natCast, htarget, hshift, Nat.shiftLeft_eq, zero_sub]

/-- A number of few digits gets a leading bit by zeros that follow. -/
theorem exists_ofNat_eq {n : Nat} (hn : 0 < n) (h : n < 2 ^ 53) :
    ∃ (m : Nat) (hm : 0 < m), m.log2 = 52 ∧ n * 2 ^ 52 = m * 2 ^ n.log2 ∧
      UnpackedFloat.ofNat .binary64 n = .finite .positive m (n.log2 - 52) hm := by
  obtain ⟨k, hk⟩ : ∃ k, n.log2 + k = 52 := by
    have hlog := (Nat.log2_lt hn.ne').mpr h
    exact ⟨52 - n.log2, by omega⟩
  have hm : 0 < n * 2 ^ k := Nat.mul_pos hn (Nat.two_pow_pos k)
  have hlog : (n * 2 ^ k).log2 = 52 := by rw [log2_mul_two_pow hn.ne', hk]
  have hround := roundWithAccuracy_mul_two_pow .positive (k := 0) (e := -k) hm hlog (by omega)
  rw [pow_zero, Nat.mul_one] at hround
  refine ⟨n * 2 ^ k, hm, hlog, ?_, ?_⟩
  · rw [Nat.mul_assoc, ← Nat.pow_add, Nat.add_comm k, hk]
  · rw [ofNat_eq hn hk, hround]
    exact finite_eq rfl (by omega)

theorem unpack_ofNat_of_lt {n : Nat} (hn : 0 < n) (h : n < 2 ^ 53) :
    ∃ (m : Nat) (hm : 0 < m), m.log2 = 52 ∧ n * 2 ^ 52 = m * 2 ^ n.log2 ∧
      (Float.ofNat n).toModel.unpack = .finite .positive m (n.log2 - 52) hm := by
  obtain ⟨m, hm, hlog, hvalue, hexact⟩ := exists_ofNat_eq hn h
  have hmax : n.log2 < 53 := (Nat.log2_lt hn.ne').mpr h
  have hproduct : mul .binary64 (.finite .positive m (n.log2 - 52) hm)
      (.finite .positive (2 ^ 52) (-52) (Nat.two_pow_pos 52)) =
        .finite .positive m (n.log2 - 52) hm := by
    rw [mul_finite, roundWithAccuracy_mul_two_pow _ hm hlog (by omega)]
    exact finite_eq rfl (by omega)
  refine ⟨m, hm, hlog, hvalue, ?_⟩
  rw [toModel_ofNat_of_lt h, hexact, unpack_pack _ hm hlog (by omega) (by omega), hproduct,
    unpack_pack _ hm hlog (by omega) (by omega)]

theorem unpack_ofNat_of_le {n : Nat} (h : 2 ^ 53 ≤ n) (hmax : n < 2 ^ 64) :
    ∃ (m a : Nat) (hm : 0 < m), m.log2 = 52 ∧ a ≤ 64 ∧ nearestNat n * 2 ^ 52 = m * 2 ^ a ∧
      (Float.ofNat n).toModel.unpack = .finite .positive m (a - 52) hm := by
  have hn : n ≠ 0 := ((Nat.two_pow_pos 53).trans_le h).ne'
  have hlow : 53 ≤ n.log2 := (Nat.le_log2 hn).mpr h
  have hhigh : n.log2 < 64 := (Nat.log2_lt hn).mpr hmax
  have hlog : (n * 2 ^ 53).log2 = 52 + (n.log2 + 1) := by
    rw [log2_mul_two_pow hn]
    omega
  obtain ⟨m, c, hm, hlogm, hc, hquotient, hround⟩ :=
    exists_roundWithAccuracy .positive (e := -53) hlog (by omega)
  have hexponent : (-53 + (n.log2 + 1 : Nat) + c : Int) = (n.log2 + c : Nat) - 52 := by omega
  rw [hexponent] at hround
  refine ⟨m, n.log2 + c, hm, hlogm, by omega, ?_, ?_⟩
  · have hdivisor : 2 ^ (n.log2 + 1) = 2 ^ excess n * 2 ^ 53 := by
      rw [← Nat.pow_add]
      congr 1
      unfold excess
      omega
    rw [hdivisor, roundDiv_mul_right n _ .toEven (Nat.two_pow_pos 53)] at hquotient
    calc nearestNat n * 2 ^ 52
        = m * 2 ^ c * 2 ^ excess n * 2 ^ 52 := by rw [nearestNat, hquotient]
      _ = m * 2 ^ (c + excess n + 52) := by simp only [Nat.mul_assoc, Nat.pow_add]
      _ = m * 2 ^ (n.log2 + c) := by
          congr 2
          unfold excess
          omega
  · rw [toModel_ofNat_of_le h, hround, unpack_pack _ hm hlogm (by omega) (by omega)]

/-- A natural number of 64 bits is converted to the nearest float. -/
theorem unpack_ofNat {n : Nat} (hn : 0 < n) (hmax : n < 2 ^ 64) :
    ∃ (m a : Nat) (hm : 0 < m), m.log2 = 52 ∧ a ≤ 64 ∧ nearestNat n * 2 ^ 52 = m * 2 ^ a ∧
      (Float.ofNat n).toModel.unpack = .finite .positive m (a - 52) hm := by
  rcases Nat.lt_or_ge n (2 ^ 53) with hsmall | hlarge
  · obtain ⟨m, hm, hlog, hvalue, hunpack⟩ := unpack_ofNat_of_lt hn hsmall
    have hself : nearestNat n = n := nearestNat_eq_self_iff.mpr (dvd_of_le_two_pow hsmall.le)
    have hbits := (Nat.log2_lt hn.ne').mpr hsmall
    exact ⟨m, n.log2, hm, hlog, by omega, by rw [hself, hvalue], hunpack⟩
  · exact unpack_ofNat_of_le hlarge hmax

/-- A whole number of 64 bits, with or without a sign, is converted to the nearest float. -/
theorem denotes_ofInt {n : Int} (hmax : n.natAbs < 2 ^ 64) :
    Denotes (Float.ofInt n).toModel.unpack (nearest n) := by
  cases n with
  | ofNat n =>
      rcases Nat.eq_zero_or_pos n with rfl | hn
      · exact .zero
      · obtain ⟨m, a, hm, hlog, -, hvalue, hunpack⟩ := unpack_ofNat hn hmax
        show Denotes (Float.ofNat n).toModel.unpack (nearest n)
        rw [hunpack, nearest_natCast]
        refine .finite .positive hm hlog ?_
        show (nearestNat n : Int) * 2 ^ 52 = (m * 2 ^ a : Nat)
        exact_mod_cast hvalue
  | negSucc n =>
      obtain ⟨m, a, hm, hlog, ha, hvalue, hunpack⟩ := unpack_ofNat n.succ_pos hmax
      have hneg : (Float.ofInt (.negSucc n)).toModel.unpack =
          .finite .negative m (a - 52) hm := by
        show (Float.Model.pack ((Float.ofNat (n + 1)).toModel.unpack.neg)).unpack = _
        rw [hunpack]
        exact unpack_pack .negative hm hlog (by omega) (by omega)
      have hvalue' : (nearestNat (n + 1) : Int) * 2 ^ 52 = (m * 2 ^ a : Nat) := by
        exact_mod_cast hvalue
      rw [hneg, Int.negSucc_eq, nearest_neg, ← Int.natCast_succ, nearest_natCast]
      refine .finite .negative hm hlog ?_
      rw [Int.neg_mul, hvalue']
      rfl

/-! ## Comparing -/

/-- Of two numbers with leading bits, the one with the greater exponent is the greater one. -/
theorem compare_scaled {m n : Nat} (a b : Nat) (hm : 0 < m) (hn : 0 < n) (hlogm : m.log2 = 52)
    (hlogn : n.log2 = 52) :
    (compare (a - 52 : Int) (b - 52)).then (compare m n) = compare (m * 2 ^ a) (n * 2 ^ b) := by
  have hlt {m n a b : Nat} (hm : 0 < m) (hn : 0 < n) (hlogm : m.log2 = 52) (hlogn : n.log2 = 52)
      (h : a < b) : m * 2 ^ a < n * 2 ^ b :=
    calc m * 2 ^ a
        < 2 ^ 53 * 2 ^ a :=
          Nat.mul_lt_mul_of_pos_right ((Nat.log2_eq_iff hm.ne').mp hlogm).2 (Nat.two_pow_pos a)
      _ = 2 ^ 52 * 2 ^ (a + 1) := by rw [← Nat.pow_add, ← Nat.pow_add]; congr 1; omega
      _ ≤ n * 2 ^ b :=
          Nat.mul_le_mul ((Nat.log2_eq_iff hn.ne').mp hlogn).1
            (Nat.pow_le_pow_right (by decide) h)
  rcases Nat.lt_trichotomy a b with h | rfl | h
  · rw [Int.compare_eq_lt.mpr (by omega), Nat.compare_eq_lt.mpr (hlt hm hn hlogm hlogn h)]
    rfl
  · rw [Int.compare_eq_eq.mpr rfl, Ordering.eq_then]
    have hpos : 0 < 2 ^ a := Nat.two_pow_pos a
    rcases Nat.lt_trichotomy m n with hmn | rfl | hmn
    · rw [Nat.compare_eq_lt.mpr hmn,
        Nat.compare_eq_lt.mpr (Nat.mul_lt_mul_of_pos_right hmn hpos)]
    · rw [Nat.compare_eq_eq.mpr rfl, Nat.compare_eq_eq.mpr rfl]
    · rw [Nat.compare_eq_gt.mpr hmn,
        Nat.compare_eq_gt.mpr (Nat.mul_lt_mul_of_pos_right hmn hpos)]
  · rw [Int.compare_eq_gt.mpr (by omega), Nat.compare_eq_gt.mpr (hlt hn hm hlogn hlogm h)]
    rfl

theorem compare_natCast (m n : Nat) : compare (m : Int) n = compare m n := by
  rcases Nat.lt_trichotomy m n with h | rfl | h
  · rw [Nat.compare_eq_lt.mpr h, Int.compare_eq_lt.mpr (by omega)]
  · rw [Nat.compare_eq_eq.mpr rfl, Int.compare_eq_eq.mpr rfl]
  · rw [Nat.compare_eq_gt.mpr h, Int.compare_eq_gt.mpr (by omega)]

theorem compare_mul_two_pow (j k : Int) : compare (j * 2 ^ 52) (k * 2 ^ 52) = compare j k := by
  rcases Int.lt_trichotomy j k with h | rfl | h
  · rw [Int.compare_eq_lt.mpr h, Int.compare_eq_lt.mpr (by omega)]
  · rw [Int.compare_eq_eq.mpr rfl, Int.compare_eq_eq.mpr rfl]
  · rw [Int.compare_eq_gt.mpr h, Int.compare_eq_gt.mpr (by omega)]

/-- Unpacked floats compare as the whole numbers that they are. -/
theorem compare_of_denotes {u v : UnpackedFloat} {j k : Int} (hu : Denotes u j)
    (hv : Denotes v k) : u.compare v = some (compare j k) := by
  rw [← compare_mul_two_pow]
  cases hu with
  | zero =>
      cases hv with
      | zero => rfl
      | @finite t n b _ hn hlogn hk =>
          have hpos : 0 < n * 2 ^ b := Nat.mul_pos hn (Nat.two_pow_pos b)
          rw [hk]
          generalize n * 2 ^ b = y at hpos ⊢
          cases t with
          | positive =>
              show some Ordering.lt = some (compare (0 * 2 ^ 52) (y : Int))
              rw [Int.compare_eq_lt.mpr (by omega)]
          | negative =>
              show some Ordering.gt = some (compare (0 * 2 ^ 52) (-(y : Int)))
              rw [Int.compare_eq_gt.mpr (by omega)]
  | @finite s m a _ hm hlogm hj =>
      have hposm : 0 < m * 2 ^ a := Nat.mul_pos hm (Nat.two_pow_pos a)
      cases hv with
      | zero =>
          rw [hj]
          generalize m * 2 ^ a = x at hposm ⊢
          cases s with
          | positive =>
              show some Ordering.gt = some (compare (x : Int) (0 * 2 ^ 52))
              rw [Int.compare_eq_gt.mpr (by omega)]
          | negative =>
              show some Ordering.lt = some (compare (-(x : Int)) (0 * 2 ^ 52))
              rw [Int.compare_eq_lt.mpr (by omega)]
      | @finite t n b _ hn hlogn hk =>
          have hposn : 0 < n * 2 ^ b := Nat.mul_pos hn (Nat.two_pow_pos b)
          have hscaled := compare_scaled a b hm hn hlogm hlogn
          rw [hj, hk]
          generalize m * 2 ^ a = x at hposm hscaled ⊢
          generalize n * 2 ^ b = y at hposn hscaled ⊢
          cases s with
          | positive =>
              cases t with
              | positive =>
                  show some ((compare (a - 52 : Int) (b - 52)).then (compare m n)) =
                    some (compare (x : Int) y)
                  rw [hscaled, compare_natCast]
              | negative =>
                  show some Ordering.gt = some (compare (x : Int) (-y))
                  rw [Int.compare_eq_gt.mpr (by omega)]
          | negative =>
              cases t with
              | positive =>
                  show some Ordering.lt = some (compare (-(x : Int)) y)
                  rw [Int.compare_eq_lt.mpr (by omega)]
              | negative =>
                  show some ((compare (a - 52 : Int) (b - 52)).then (compare m n)).swap =
                    some (compare (-(x : Int)) (-y))
                  rw [hscaled, Geodesy.compare_neg, compare_natCast]

end Gazetteer
