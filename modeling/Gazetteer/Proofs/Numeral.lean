import Gazetteer.Decimal.Numeral
import Gazetteer.Proofs.Rounding

/-!
# Numerals as floats

A numeral is read as the float nearest to the number it stands for (`unpack_toFloat_of_nearestTo`).
Few digits and a small power of ten are two floats, whose product or quotient is rounded
(`IsWhole.unpack_mul`, `IsWhole.unpack_div`); all other decimals are rounded once, from an exact
product or a long enough quotient (`ofScientific_of_nearestTo`). A numeral near a finite float that
is not zero is beyond none of the limits at which reading gives up and answers zero or infinity
(`lead_mem`).
-/

namespace Gazetteer

open Float.Model (Format UnpackedFloat totalExponent)
open Float.Model.UnpackedFloat
open Decimal Geodesy

/-! ## Packing -/

/-- A bit pattern keeps every number that fits into one. -/
theorem unpack_pack_of_canonical {s : Sign} {m : Nat} {e : Int} {hm : 0 < m}
    (h : Canonical (.finite s m e hm)) :
    (Float.Model.pack (.finite s m e hm)).unpack = .finite s m e hm := by
  obtain ⟨hemin, hemax, hmmax, hmmin⟩ := h
  by_cases hlog : m.log2 = 52
  · exact unpack_pack s hm hlog hemin hemax
  · have hsmall : m < 2 ^ 52 := by
      by_contra! hlarge
      exact hlog ((Nat.log2_eq_iff hm.ne').mpr ⟨hlarge, hmmax⟩)
    obtain rfl : e = -1074 := by
      by_contra hne
      have hlarge := hmmin (by omega)
      omega
    have hmantissa : (BitVec.ofNat 52 m).toNat = m := by
      rw [BitVec.toNat_ofNat]
      omega
    have hnonzero : BitVec.ofNat 52 m ≠ 0#52 := by
      intro h
      have hzero : m = 0 := hmantissa.symm.trans (congrArg BitVec.toNat h)
      omega
    have hsign : Sign.ofBitVec s.toBitVec = s := by cases s <;> rfl
    have hpack : pack .binary64 (.finite s m (-1074) hm) =
        packComponents .binary64 s (0#11) (BitVec.ofNat 52 m) := by
      delta pack
      dsimp only
      rw [if_neg (by decide), if_neg (by show ¬m.log2 + 1 = 53; omega)]
    show unpack .binary64 (pack .binary64 (.finite s m (-1074) hm)) = _
    rw [hpack]
    delta unpack
    dsimp only
    rw [unpackExponent_packComponents, unpackSign_packComponents, hsign, if_neg (by decide),
      if_pos rfl, dif_neg (by rwa [unpackMantissa_packComponents])]
    exact finite_eq (by rw [unpackMantissa_packComponents, hmantissa]) rfl

/-! ## Products and quotients -/

theorem div_finite (s t : Sign) {m n : Nat} {e f : Int} (hm : 0 < m) (hn : 0 < n) :
    div .binary64 (.finite s m e hm) (.finite t n f hn) =
      roundWithAccuracy .binary64 (s / t) (divCore .binary64 m e n f).1
        (divCore .binary64 m e n f).2.1 (divCore .binary64 m e n f).2.2 := rfl

/-- The quotient is computed to as many digits as rounding needs, unless it is subnormal. -/
theorem divCore_eq {m n : Nat} (e f : Int) (hm : 0 < m) (hn : 0 < n) :
    ∃ k : Nat, divCore .binary64 m e n f =
        (m * 2 ^ k / n, e - f - k, accuracyOfFraction (m * 2 ^ k % n) n) ∧
      (2 ^ 52 ≤ m * 2 ^ k / n ∨ e - f - k ≤ -1074) := by
  obtain ⟨k, hk⟩ := Int.le.dest (min_le_left (e - f)
    (Format.binary64.targetExponent (totalExponent m e - totalExponent n f)))
  replace hk := eq_sub_of_add_eq hk
  have hshift : (e - f - (e - f - k)).toNat = k := by omega
  refine ⟨k, ?_, ?_⟩
  · unfold divCore
    dsimp only
    rw [hk, hshift, Nat.shiftLeft_eq]
  · rw [or_iff_not_imp_right]
    intro hnormal
    rw [targetExponent_eq, totalExponent, totalExponent] at hk
    have hlog : n.log2 + 1 + 52 ≤ m.log2 + k := by omega
    rw [Nat.le_div_iff_mul_le hn]
    calc 2 ^ 52 * n
        ≤ 2 ^ 52 * 2 ^ (n.log2 + 1) := Nat.mul_le_mul_left _ Nat.lt_log2_self.le
      _ = 2 ^ (n.log2 + 1 + 52) := by rw [← Nat.pow_add, Nat.add_comm]
      _ ≤ 2 ^ (m.log2 + k) := Nat.pow_le_pow_right (by decide) hlog
      _ = 2 ^ m.log2 * 2 ^ k := Nat.pow_add ..
      _ ≤ m * 2 ^ k := Nat.mul_le_mul_right _ (Nat.log2_self_le hm.ne')

section Nearest

variable {m n q : Nat} {e f g : Int} {hm : 0 < m} {hn : 0 < n} {hq : 0 < q}

/-- A product is the nearest float, unless digits are missing. -/
theorem mul_of_nearestTo (s t : Sign) (hwide : 2 ^ 52 ≤ m * n ∨ e + f ≤ -1074)
    (hcanonical : Canonical (.finite (s * t) q g hq))
    (hnearest : NearestTo q g (m * n * 2 ^ (e + f))) :
    mul .binary64 (.finite s m e hm) (.finite t n f hn) = .finite (s * t) q g hq := by
  rw [mul_finite]
  refine roundWithAccuracy_of_nearestTo (s * t) Nat.one_pos (keeps_self _) hwide hcanonical ?_
  push_cast
  rwa [div_one]

/-- A quotient is the nearest float. -/
theorem div_of_nearestTo (s t : Sign) (hcanonical : Canonical (.finite (s / t) q g hq))
    (hnearest : NearestTo q g (m / n * 2 ^ (e - f))) :
    div .binary64 (.finite s m e hm) (.finite t n f hn) = .finite (s / t) q g hq := by
  obtain ⟨k, hcore, hwide⟩ := divCore_eq e f hm hn
  rw [div_finite, hcore]
  refine roundWithAccuracy_of_nearestTo (s / t) hn (keeps_accuracyOfFraction hn) hwide hcanonical ?_
  have hvalue : ((m * 2 ^ k : Nat) / n : ℚ) * 2 ^ (e - f - k) = m / n * 2 ^ (e - f) := by
    rw [zpow_sub₀ (by norm_num) (e - f) k, zpow_natCast]
    push_cast
    field_simp
  rwa [hvalue]

end Nearest

/-! ## Whole numbers that are floats -/

/-- The float is a whole number, written with a leading bit. -/
def IsWhole (x : Float) (n : Nat) : Prop :=
  ∃ (m a : Nat) (hm : 0 < m), x.toModel.unpack = .finite .positive m (a - 52) hm ∧ m.log2 = 52 ∧
    n * 2 ^ 52 = m * 2 ^ a

/-- The same for an unpacked float, by computation. -/
def isWholeNumber (n : Nat) : UnpackedFloat → Bool
  | .finite .positive m e _ => m.log2 == 52 && -52 ≤ e && n * 2 ^ 52 == m * 2 ^ (e + 52).toNat
  | _ => false

theorem isWholeNumber_powersOfTen : ∀ i : Fin Float.exactlyRepresentablePowersOfTen.size,
    isWholeNumber (10 ^ i.val) Float.exactlyRepresentablePowersOfTen[i].toModel.unpack := by
  decide +kernel

theorem IsWhole.of_isWholeNumber {x : Float} {n : Nat} (h : isWholeNumber n x.toModel.unpack) :
    IsWhole x n := by
  unfold IsWhole
  revert h
  generalize x.toModel.unpack = u
  intro h
  match u with
  | .finite .positive m e hm =>
      obtain ⟨hfits, hvalue⟩ := Bool.and_eq_true_iff.mp h
      obtain ⟨hlog, he⟩ := Bool.and_eq_true_iff.mp hfits
      replace he := of_decide_eq_true he
      exact ⟨m, (e + 52).toNat, hm, finite_eq rfl (by omega), eq_of_beq hlog, eq_of_beq hvalue⟩
  | .finite .negative m e hm => cases h
  | .zero s => cases h
  | .infinity s => cases h
  | .notANumber => cases h

/-- The first powers of ten are floats. -/
theorem IsWhole.powerOfTen {i : Nat} (hi : i < Float.exactlyRepresentablePowersOfTen.size) :
    IsWhole Float.exactlyRepresentablePowersOfTen[i] (10 ^ i) :=
  .of_isWholeNumber (isWholeNumber_powersOfTen ⟨i, hi⟩)

/-- So are the whole numbers of up to 53 binary digits. -/
theorem IsWhole.toFloat {n : Nat} (hn : 0 < n) (h : n < 2 ^ 53) : IsWhole n.toUInt64.toFloat n := by
  obtain ⟨m, hm, hlog, hvalue, hexact⟩ := exists_ofNat_eq hn h
  have hmax : n.log2 < 53 := (Nat.log2_lt hn.ne').mpr h
  have hword : n.toUInt64.toNat = n := by
    rw [Nat.toUInt64_eq, UInt64.toNat_ofNat']
    omega
  refine ⟨m, n.log2, hm, ?_, hlog, hvalue⟩
  show (Float.Model.ofUInt64 n.toUInt64).unpack = _
  unfold Float.Model.ofUInt64 UnpackedFloat.ofUInt64
  rw [hword, hexact, unpack_pack _ hm hlog (by omega) (by omega)]

theorem natCast_eq_of_mul_two_pow {n q a : Nat} (h : n * 2 ^ 52 = q * 2 ^ a) :
    (n : ℚ) = q * 2 ^ ((a : Int) - 52) := by
  have hQ : (n : ℚ) * 2 ^ 52 = q * 2 ^ a := by exact_mod_cast h
  rw [zpow_sub₀ two_ne_zero, zpow_natCast, ← mul_div_assoc, eq_div_iff (by norm_num), ← hQ]
  norm_num

section Exact

variable {x y : Float} {j k m : Nat} {e : Int} {hm : 0 < m}

/-- The product of two whole numbers is the nearest float. -/
theorem IsWhole.unpack_mul (hx : IsWhole x j) (hy : IsWhole y k)
    (hcanonical : Canonical (.finite .positive m e hm)) (h : NearestTo m e (j * k)) :
    (x * y).toModel.unpack = .finite .positive m e hm := by
  obtain ⟨p, a, hp, hunpackx, hlogp, hj⟩ := hx
  obtain ⟨q, b, hq, hunpacky, -, hk⟩ := hy
  have hproduct : (j * k : ℚ) = p * q * 2 ^ ((a : Int) - 52 + (b - 52)) := by
    rw [natCast_eq_of_mul_two_pow hj, natCast_eq_of_mul_two_pow hk,
      zpow_add₀ two_ne_zero (a - 52 : Int)]
    ring
  have hwide : 2 ^ 52 ≤ p * q :=
    ((Nat.log2_eq_iff hp.ne').mp hlogp).1.trans (Nat.le_mul_of_pos_right p hq)
  rw [hproduct] at h
  show (Float.Model.pack (mul .binary64 x.toModel.unpack y.toModel.unpack)).unpack = _
  rw [hunpackx, hunpacky, mul_of_nearestTo .positive .positive (.inl hwide) hcanonical h]
  exact unpack_pack_of_canonical hcanonical

/-- So is the quotient. -/
theorem IsWhole.unpack_div (hx : IsWhole x j) (hy : IsWhole y k)
    (hcanonical : Canonical (.finite .positive m e hm)) (h : NearestTo m e (j / k)) :
    (x / y).toModel.unpack = .finite .positive m e hm := by
  obtain ⟨p, a, hp, hunpackx, -, hj⟩ := hx
  obtain ⟨q, b, hq, hunpacky, -, hk⟩ := hy
  have hquotient : (j / k : ℚ) = p / q * 2 ^ ((a : Int) - 52 - (b - 52)) := by
    rw [natCast_eq_of_mul_two_pow hj, natCast_eq_of_mul_two_pow hk,
      zpow_sub₀ two_ne_zero (a - 52 : Int), mul_div_mul_comm]
  rw [hquotient] at h
  show (Float.Model.pack (div .binary64 x.toModel.unpack y.toModel.unpack)).unpack = _
  rw [hunpackx, hunpacky, div_of_nearestTo .positive .positive hcanonical h]
  exact unpack_pack_of_canonical hcanonical

end Exact

/-! ## Limits -/

section Limits

variable {m : Nat} {e : Int} {hm : 0 < m} {v : ℚ}

/-- What is rounded to a float that is not zero is not too small. -/
theorem NearestTo.lower (hcanonical : Canonical (.finite .positive m e hm))
    (h : NearestTo m e v) : 2 ^ (-1075 : Int) ≤ v := by
  have hmQ : (1 : ℚ) ≤ m := by exact_mod_cast hm
  have hgap := (gapBelow_le m e).2
  have hpow : (2 : ℚ) ^ (-1074 : Int) ≤ 2 ^ e :=
    (zpow_le_zpow_iff_right₀ (by norm_num)).mpr hcanonical.1
  calc (2 : ℚ) ^ (-1075 : Int)
      = 2 ^ (-1 : Int) * 2 ^ (-1074 : Int) := by rw [← zpow_add₀ two_ne_zero]; rfl
    _ ≤ (m - gapBelow m e) * 2 ^ e :=
        mul_le_mul (by norm_num; linarith) hpow (by positivity) (by linarith)
    _ ≤ v := h.low

/-- What is rounded to a finite float is not too great. -/
theorem NearestTo.upper (hcanonical : Canonical (.finite .positive m e hm))
    (h : NearestTo m e v) : v ≤ 2 ^ (1024 : Int) := by
  obtain ⟨-, hemax, hmmax, -⟩ := hcanonical
  have hmQ : (m : ℚ) + 1 ≤ 2 ^ 53 := by exact_mod_cast hmmax
  have hpow : (2 : ℚ) ^ e ≤ 2 ^ (971 : Int) := (zpow_le_zpow_iff_right₀ (by norm_num)).mpr hemax
  calc v
      ≤ (m + 1 / 2) * 2 ^ e := h.high
    _ ≤ 2 ^ (53 : Int) * 2 ^ (971 : Int) := by
        refine mul_le_mul (le_trans ?_ hmQ) hpow (by positivity) (by positivity)
        linarith
    _ = 2 ^ (1024 : Int) := (zpow_add₀ two_ne_zero _ _).symm

theorem exponent_le_of_nearestTo {n : Nat} {E : Int} (hn : n ≠ 0)
    (hcanonical : Canonical (.finite .positive m e hm)) (h : NearestTo m e (n * 10 ^ E)) :
    E ≤ 2048 := by
  by_contra! hlarge
  have hnQ : (1 : ℚ) ≤ n := by exact_mod_cast Nat.pos_of_ne_zero hn
  have hpow : (2 : ℚ) ^ (1024 : Int) < 10 ^ E := by
    calc (2 : ℚ) ^ (1024 : Int)
        < 2 ^ E := (zpow_lt_zpow_iff_right₀ (by norm_num)).mpr (by omega)
      _ ≤ 10 ^ E := zpow_le_zpow_left₀ (by omega) (by norm_num) (by norm_num)
  have hupper := h.upper hcanonical
  have hmul : (10 : ℚ) ^ E ≤ n * 10 ^ E := le_mul_of_one_le_left (by positivity) hnQ
  linarith

theorem le_exponent_of_nearestTo {n : Nat} {E : Int}
    (hcanonical : Canonical (.finite .positive m e hm)) (h : NearestTo m e (n * 10 ^ E)) :
    -(2048 + (n.log2 : Int)) ≤ E := by
  by_contra! hsmall
  have hlower := h.lower hcanonical
  have hnQ : (n : ℚ) ≤ 2 ^ ((n.log2 + 1 : Nat) : Int) := by
    rw [zpow_natCast]
    exact_mod_cast Nat.lt_log2_self.le
  have hpow : (10 : ℚ) ^ E ≤ 2 ^ E := by
    obtain ⟨k, rfl⟩ : ∃ k : Nat, E = -k := ⟨E.natAbs, by omega⟩
    rw [zpow_neg, zpow_neg, zpow_natCast, zpow_natCast]
    gcongr
    norm_num
  have hvalue : (n : ℚ) * 10 ^ E ≤ 2 ^ ((n.log2 + 1 : Nat) + E : Int) := by
    rw [zpow_add₀ two_ne_zero]
    exact mul_le_mul hnQ hpow (by positivity) (by positivity)
  have hlt : (2 : ℚ) ^ ((n.log2 + 1 : Nat) + E : Int) < 2 ^ (-1075 : Int) :=
    (zpow_lt_zpow_iff_right₀ (by norm_num)).mpr (by omega)
  linarith

end Limits

/-! ## Decimals -/

section Decimals

variable {n m : Nat} {E e : Int} {hm : 0 < m}

theorem zpow_ten_eq (E : Int) : (10 : ℚ) ^ E =
    if E < 0 then ((10 ^ E.natAbs : Nat) : ℚ)⁻¹ else ((10 ^ E.natAbs : Nat) : ℚ) := by
  push_cast
  split
  · obtain ⟨k, rfl⟩ : ∃ k : Nat, E = -k := ⟨E.natAbs, by omega⟩
    rw [zpow_neg, zpow_natCast, Int.natAbs_neg, Int.natAbs_natCast]
  · obtain ⟨k, rfl⟩ : ∃ k : Nat, E = k := ⟨E.natAbs, by omega⟩
    rw [zpow_natCast, Int.natAbs_natCast]

/-- Decimals of many digits are multiplied or divided by a power of ten before they are rounded. -/
theorem ofScientific_of_nearestTo (hn : n ≠ 0) (hcanonical : Canonical (.finite .positive m e hm))
    (h : NearestTo m e (n * 10 ^ E)) :
    UnpackedFloat.ofScientific .binary64 n E = .finite .positive m e hm := by
  have hlarge : ¬E > 2 ^ Format.binary64.exponentBits :=
    Int.not_lt.mpr (exponent_le_of_nearestTo hn hcanonical h)
  have hsmall : ¬E < -((2 ^ Format.binary64.exponentBits : Int) + n.log2) :=
    Int.not_lt.mpr (le_exponent_of_nearestTo hcanonical h)
  unfold UnpackedFloat.ofScientific
  rw [dif_neg hn, if_neg hlarge, if_neg hsmall]
  by_cases hE : 0 ≤ E
  · rw [if_pos hE]
    obtain ⟨k, rfl⟩ : ∃ k : Nat, E = k := ⟨E.toNat, by omega⟩
    refine mul_of_nearestTo .positive .positive (.inl ?_) hcanonical ?_
    · show 2 ^ 52 ≤ n <<< 53 * 10 ^ k
      have hten : 0 < 10 ^ k := Nat.pow_pos (by decide)
      rw [Nat.shiftLeft_eq]
      nlinarith [Nat.pos_of_ne_zero hn]
    · have hvalue : ((n <<< 53 : Nat) : ℚ) * (10 ^ k : Nat) * 2 ^ (-53 : Int) =
          n * 10 ^ (k : Int) := by
        rw [Nat.shiftLeft_eq, zpow_natCast, zpow_neg]
        push_cast
        field_simp
      rw [Int.toNat_natCast, add_zero]
      show NearestTo m e (((n <<< 53 : Nat) : ℚ) * (10 ^ k : Nat) * 2 ^ (-53 : Int))
      rwa [hvalue]
  · rw [if_neg hE]
    obtain ⟨k, rfl⟩ : ∃ k : Nat, E = -k := ⟨(-E).toNat, by omega⟩
    refine div_of_nearestTo .positive .positive hcanonical ?_
    rw [Int.neg_neg, Int.toNat_natCast, sub_zero, zpow_zero, mul_one]
    push_cast
    rwa [zpow_neg, zpow_natCast, ← div_eq_mul_inv] at h

/-- Decimals of few digits are made of two floats that are exactly the digits and the power of
ten. -/
theorem unpack_ofScientific (hn : n ≠ 0) (hcanonical : Canonical (.finite .positive m e hm))
    (h : NearestTo m e (n * 10 ^ E)) :
    (Float.ofScientific n (decide (E < 0)) E.natAbs).toModel.unpack = .finite .positive m e hm := by
  unfold Float.ofScientific
  by_cases hfast : n < 2 ^ 53 ∧ E.natAbs ≤ 22
  · have hdigits := IsWhole.toFloat (Nat.pos_of_ne_zero hn) hfast.1
    have hpower := IsWhole.powerOfTen (Nat.lt_succ_of_le hfast.2)
    rw [dif_pos hfast]
    rw [zpow_ten_eq] at h
    by_cases hE : E < 0
    · rw [if_pos hE, ← div_eq_mul_inv] at h
      rw [if_pos (decide_eq_true hE)]
      exact hdigits.unpack_div hpower hcanonical h
    · rw [if_neg hE] at h
      rw [if_neg (mt of_decide_eq_true hE)]
      exact hdigits.unpack_mul hpower hcanonical h
  · have hE : (if decide (E < 0) then Int.negOfNat E.natAbs else Int.ofNat E.natAbs) = E := by
      simp only [decide_eq_true_eq, Int.negOfNat_eq, Int.ofNat_eq_natCast]
      split <;> omega
    rw [dif_neg hfast, hE]
    show (Float.Model.pack (UnpackedFloat.ofScientific .binary64 n E)).unpack = _
    rw [ofScientific_of_nearestTo hn hcanonical h]
    exact unpack_pack_of_canonical hcanonical

end Decimals

/-! ## Numerals -/

theorem digitCount_of_ne_zero {n : Nat} (hn : n ≠ 0) :
    10 ^ (digitCount n - 1) ≤ n ∧ n < 10 ^ digitCount n ∧ 0 < digitCount n := by
  have hlength : 0 < (Nat.toDigits 10 n).length := Nat.length_toDigits_pos
  rw [digitCount, if_neg hn]
  refine ⟨?_, (Nat.length_toDigits_le_iff (by decide) hlength).mp le_rfl, hlength⟩
  rcases Nat.eq_zero_or_pos ((Nat.toDigits 10 n).length - 1) with hone | hmore
  · rw [hone]
    exact Nat.one_le_iff_ne_zero.mpr hn
  · by_contra! hlt
    have hle := (Nat.length_toDigits_le_iff (by decide) hmore).mpr hlt
    omega

/-- The number that is written, without its sign. -/
def Decimal.Numeral.size (n : Numeral) : ℚ := n.digits * 10 ^ n.exponent

/-- The sign that is written. -/
def Decimal.Numeral.sign (n : Numeral) : Sign := if n.negative then .negative else .positive

section Numerals

variable {n : Numeral} {m : Nat} {e : Int} {hm : 0 < m}

theorem digits_ne_zero (hcanonical : Canonical (.finite .positive m e hm))
    (h : NearestTo m e n.size) : n.digits ≠ 0 := by
  intro hzero
  have hlower := h.lower hcanonical
  rw [Numeral.size, hzero, Nat.cast_zero, zero_mul] at hlower
  have hpos : (0 : ℚ) < 2 ^ (-1075 : Int) := zpow_pos (by norm_num) _
  linarith

theorem two_zpow_lt_ten_zpow {i k : Int} (hk : 0 ≤ k) (h : i < 3 * k) :
    (2 : ℚ) ^ i < 10 ^ k := by
  calc (2 : ℚ) ^ i
      < 2 ^ (3 * k) := (zpow_lt_zpow_iff_right₀ (by norm_num)).mpr h
    _ = (2 ^ (3 : Int)) ^ k := zpow_mul 2 3 k
    _ ≤ 10 ^ k := zpow_le_zpow_left₀ hk (by norm_num) (by norm_num)

/-- Numerals near a float have a first digit of moderate size. -/
theorem lead_mem (hcanonical : Canonical (.finite .positive m e hm)) (h : NearestTo m e n.size) :
    -Numeral.leadingLimit ≤ n.exponent + digitCount n.digits ∧
      n.exponent + digitCount n.digits ≤ Numeral.leadingLimit := by
  have hdigits := digits_ne_zero hcanonical h
  obtain ⟨hmin, hmax, hpos⟩ := digitCount_of_ne_zero hdigits
  have hlower := h.lower hcanonical
  have hupper := h.upper hcanonical
  rw [Numeral.size] at hlower hupper
  have hlow : (2 : ℚ) ^ (-1075 : Int) < 10 ^ (n.exponent + digitCount n.digits) := by
    have hmaxQ : (n.digits : ℚ) < 10 ^ digitCount n.digits := by exact_mod_cast hmax
    rw [zpow_add₀ (by norm_num), zpow_natCast, mul_comm (10 ^ n.exponent : ℚ)]
    exact hlower.trans_lt (mul_lt_mul_of_pos_right hmaxQ (by positivity))
  have hhigh : (10 : ℚ) ^ (n.exponent + (digitCount n.digits - 1 : Nat)) ≤ 2 ^ (1024 : Int) := by
    have hminQ : (10 : ℚ) ^ (digitCount n.digits - 1) ≤ n.digits := by exact_mod_cast hmin
    rw [zpow_add₀ (by norm_num), zpow_natCast, mul_comm (10 ^ n.exponent : ℚ)]
    exact (mul_le_mul_of_nonneg_right hminQ (by positivity)).trans hupper
  unfold Numeral.leadingLimit
  constructor
  · by_contra! hlt
    have hten : (10 : ℚ) ^ (n.exponent + digitCount n.digits) ≤ 10 ^ (-400 : Int) :=
      (zpow_le_zpow_iff_right₀ (by norm_num)).mpr hlt.le
    have htwo : (10 : ℚ) ^ (-400 : Int) < 2 ^ (-1075 : Int) := by
      rw [zpow_neg, zpow_neg]
      exact inv_strictAnti₀ (zpow_pos (by norm_num) _)
        (two_zpow_lt_ten_zpow (by norm_num) (by norm_num))
    exact absurd (hlow.trans_le hten) (not_lt.mpr htwo.le)
  · by_contra! hlt
    have hten : (10 : ℚ) ^ (400 : Int) ≤ 10 ^ (n.exponent + (digitCount n.digits - 1 : Nat)) :=
      (zpow_le_zpow_iff_right₀ (by norm_num)).mpr (by omega)
    have htwo : (2 : ℚ) ^ (1024 : Int) < 10 ^ (400 : Int) :=
      two_zpow_lt_ten_zpow (by norm_num) (by norm_num)
    exact absurd (hten.trans hhigh) (not_le.mpr htwo)

/-- **A numeral is read as the float nearest to it.** -/
theorem unpack_toFloat_of_nearestTo (hcanonical : Canonical (.finite n.sign m e hm))
    (h : NearestTo m e n.size) : n.toFloat.toModel.unpack = .finite n.sign m e hm := by
  have hpositive : Canonical (.finite .positive m e hm) := hcanonical
  have hdigits := digits_ne_zero hpositive h
  obtain ⟨hmin, hmax⟩ := lead_mem hpositive h
  have hsize := unpack_ofScientific hdigits hpositive h
  unfold Numeral.toFloat
  dsimp only
  rw [if_neg (not_or.mpr ⟨hdigits, Int.not_lt.mpr hmin⟩), if_neg (Int.not_lt.mpr hmax)]
  rcases n with ⟨negative, digits, exponent⟩
  cases negative with
  | false => exact hsize
  | true =>
      show (Float.Model.pack (Float.ofScientific digits (decide (exponent < 0))
        exponent.natAbs).toModel.unpack.neg).unpack = _
      rw [hsize]
      exact unpack_pack_of_canonical hcanonical

end Numerals

end Gazetteer
