import Gazetteer.Decimal.Magnitude
import Mathlib.Algebra.Order.Ring.Abs
import Mathlib.Tactic.Zify

/-!
# The nearest float to a whole number

Of a whole number a float keeps 53 binary digits. `nearest` is what remains of it: the nearest
multiple of the power of two that its last kept digit stands for, of two equally near ones the even
one. A number keeps its place among all others, though not its distance from them (`nearest_mono`),
and is at most half a unit of its last kept digit off (`abs_nearest_sub_le`).
-/

namespace Gazetteer.Decimal

/-! ## Rounded quotients -/

section

variable {n m d c : Nat}

theorem roundDiv_mul_right (n d : Nat) (tie : Tie) (hc : 0 < c) :
    roundDiv (n * c) (d * c) tie = roundDiv n d tie := by
  have hquotient : n * c / (d * c) = n / d := Nat.mul_div_mul_right n d hc
  have hrest : 2 * (n * c % (d * c)) = 2 * (n % d) * c := by
    rw [Nat.mul_mod_mul_right, Nat.mul_assoc]
  simp only [roundDiv, hquotient, hrest, Nat.mul_lt_mul_right hc]

theorem roundDiv_mul_self (n : Nat) (tie : Tie) (hd : 0 < d) : roundDiv (n * d) d tie = n := by
  simp [roundDiv, hd]

theorem roundDiv_mul_of_dvd (tie : Tie) (hd : 0 < d) (h : d ∣ n) : roundDiv n d tie * d = n := by
  obtain ⟨q, rfl⟩ := h
  rw [Nat.mul_comm d q, roundDiv_mul_self q tie hd]

/-- A rounded quotient times the divisor is at most half a divisor off. -/
theorem roundDiv_near (n : Nat) (tie : Tie) (hd : 0 < d) :
    2 * (roundDiv n d tie * d) ≤ 2 * n + d ∧ 2 * n ≤ 2 * (roundDiv n d tie * d) + d := by
  have hdivision : n / d * d + n % d = n := Nat.div_add_mod' n d
  have hrest : n % d < d := Nat.mod_lt n hd
  have hnext : (n / d + 1) * d = n / d * d + d := Nat.succ_mul _ _
  unfold roundDiv
  dsimp only
  split
  · omega
  split
  · rw [hnext]
    omega
  · cases tie with
    | up => dsimp only; rw [hnext]; omega
    | toEven =>
        dsimp only
        split
        · omega
        · rw [hnext]; omega

/-- Rounded quotients keep the order of what is divided. -/
theorem roundDiv_mono (tie : Tie) (hd : 0 < d) (h : m ≤ n) :
    roundDiv m d tie ≤ roundDiv n d tie := by
  rcases Nat.eq_or_lt_of_le h with rfl | hlt
  · exact le_rfl
  · have hm := (roundDiv_near m tie hd).1
    have hn := (roundDiv_near n tie hd).2
    have hnext : (roundDiv n d tie + 1) * d = roundDiv n d tie * d + d := Nat.succ_mul _ _
    refine Nat.le_of_lt_succ (Nat.lt_of_mul_lt_mul_right (a := d) ?_)
    rw [Nat.succ_eq_add_one, hnext]
    omega

end

/-! ## Fifty-three digits -/

/-- How many of the binary digits of a number a float leaves out. -/
def excess (n : Nat) : Nat := n.log2 - 52

/-- The nearest natural number that is a float. -/
def nearestNat (n : Nat) : Nat := roundDiv n (2 ^ excess n) .toEven * 2 ^ excess n

/-- The nearest whole number that is a float. -/
def nearest (n : Int) : Int := n.sign * nearestNat n.natAbs

theorem nearestNat_near (n : Nat) :
    2 * nearestNat n ≤ 2 * n + 2 ^ excess n ∧ 2 * n ≤ 2 * nearestNat n + 2 ^ excess n :=
  roundDiv_near n .toEven (Nat.two_pow_pos _)

/-- A number that has no digits but those that are kept is a float itself. -/
theorem nearestNat_eq_self_iff {n : Nat} : nearestNat n = n ↔ 2 ^ excess n ∣ n :=
  ⟨fun h => Dvd.intro_left _ h, roundDiv_mul_of_dvd .toEven (Nat.two_pow_pos _)⟩

theorem dvd_of_le_two_pow {n : Nat} (h : n ≤ 2 ^ 53) : 2 ^ excess n ∣ n := by
  rcases Nat.eq_or_lt_of_le h with rfl | hlt
  · decide
  · have hlog : n.log2 < 53 := by
      rcases Nat.eq_zero_or_pos n with rfl | hpos
      · decide
      · exact (Nat.log2_lt hpos.ne').mpr hlt
    have hexcess : excess n = 0 := by
      unfold excess
      omega
    rw [hexcess]
    exact Nat.one_dvd n

/-- Rounding leads to no other power of two than the next one. -/
theorem nearestNat_mem {n : Nat} (hn : n ≠ 0) :
    2 ^ n.log2 ≤ nearestNat n ∧ nearestNat n ≤ 2 ^ (n.log2 + 1) := by
  have hpos : 0 < 2 ^ excess n := Nat.two_pow_pos _
  have hexcess : excess n ≤ n.log2 := Nat.sub_le _ _
  have hlow : 2 ^ excess n ∣ 2 ^ n.log2 := Nat.pow_dvd_pow 2 hexcess
  have hhigh : 2 ^ excess n ∣ 2 ^ (n.log2 + 1) := Nat.pow_dvd_pow 2 (Nat.le_succ_of_le hexcess)
  constructor
  · calc 2 ^ n.log2
        = roundDiv (2 ^ n.log2) (2 ^ excess n) .toEven * 2 ^ excess n :=
          (roundDiv_mul_of_dvd .toEven hpos hlow).symm
      _ ≤ nearestNat n :=
          Nat.mul_le_mul_right _ (roundDiv_mono .toEven hpos (Nat.log2_self_le hn))
  · calc nearestNat n
        ≤ roundDiv (2 ^ (n.log2 + 1)) (2 ^ excess n) .toEven * 2 ^ excess n :=
          Nat.mul_le_mul_right _ (roundDiv_mono .toEven hpos Nat.lt_log2_self.le)
      _ = 2 ^ (n.log2 + 1) := roundDiv_mul_of_dvd .toEven hpos hhigh

theorem nearestNat_mono {m n : Nat} (h : m ≤ n) : nearestNat m ≤ nearestNat n := by
  rcases Nat.eq_zero_or_pos m with rfl | hm
  · exact Nat.zero_le _
  have hn : n ≠ 0 := by omega
  rcases Nat.lt_or_ge m.log2 n.log2 with hlog | hlog
  · calc nearestNat m
        ≤ 2 ^ (m.log2 + 1) := (nearestNat_mem hm.ne').2
      _ ≤ 2 ^ n.log2 := Nat.pow_le_pow_right (by decide) hlog
      _ ≤ nearestNat n := (nearestNat_mem hn).1
  · -- with as many digits the same ones are kept
    have hle : m.log2 ≤ n.log2 :=
      (Nat.le_log2 hn).mpr ((Nat.log2_self_le hm.ne').trans h)
    have hexcess : excess m = excess n := by
      unfold excess
      omega
    unfold nearestNat
    rw [hexcess]
    exact Nat.mul_le_mul_right _ (roundDiv_mono .toEven (Nat.two_pow_pos _) h)

/-! ## Whole numbers -/

theorem nearest_natCast (n : Nat) : nearest n = nearestNat n := by
  rcases Nat.eq_zero_or_pos n with rfl | hn
  · rfl
  · rw [nearest, Int.sign_eq_one_of_pos (by omega), Int.natAbs_natCast, one_mul]

theorem nearest_neg (n : Int) : nearest (-n) = -nearest n := by
  rw [nearest, nearest, Int.sign_neg, Int.natAbs_neg, Int.neg_mul]

/-- Of two whole numbers the greater one has no smaller nearest float. -/
theorem nearest_mono {m n : Int} (h : m ≤ n) : nearest m ≤ nearest n := by
  rcases Int.eq_nat_or_neg m with ⟨a, rfl | rfl⟩ <;> rcases Int.eq_nat_or_neg n with ⟨b, rfl | rfl⟩
  · rw [nearest_natCast, nearest_natCast]
    exact Int.ofNat_le.mpr (nearestNat_mono (Int.ofNat_le.mp h))
  · obtain ⟨rfl, rfl⟩ : a = 0 ∧ b = 0 := by omega
    rfl
  · rw [nearest_neg, nearest_natCast, nearest_natCast]
    omega
  · rw [nearest_neg, nearest_neg, nearest_natCast, nearest_natCast]
    have hba : b ≤ a := by omega
    have hmono := nearestNat_mono hba
    omega

/-- A whole number is at most half a unit of its last kept digit from the nearest float. -/
theorem abs_nearest_sub_le (n : Int) : 2 * |nearest n - n| ≤ 2 ^ excess n.natAbs := by
  have hnat (a : Nat) : 2 * |(nearestNat a : Int) - a| ≤ 2 ^ excess a := by
    obtain ⟨hup, hdown⟩ := nearestNat_near a
    zify at hup hdown
    rcases abs_cases ((nearestNat a : Int) - a) with ⟨habs, -⟩ | ⟨habs, -⟩ <;> rw [habs] <;> omega
  rcases Int.eq_nat_or_neg n with ⟨a, rfl | rfl⟩
  · rw [nearest_natCast, Int.natAbs_natCast]
    exact hnat a
  · rw [nearest_neg, nearest_natCast, Int.natAbs_neg, Int.natAbs_natCast, neg_sub_neg, abs_sub_comm]
    exact hnat a

theorem nearest_eq_self_iff {n : Int} : nearest n = n ↔ 2 ^ excess n.natAbs ∣ n.natAbs := by
  rw [← nearestNat_eq_self_iff]
  rcases Int.eq_nat_or_neg n with ⟨a, rfl | rfl⟩
  · rw [nearest_natCast, Int.natAbs_natCast, Int.ofNat_inj]
  · rw [nearest_neg, nearest_natCast, Int.natAbs_neg, Int.natAbs_natCast, neg_inj, Int.ofNat_inj]

theorem nearest_eq_self {n : Int} (h : n.natAbs ≤ 2 ^ 53) : nearest n = n :=
  nearest_eq_self_iff.mpr (dvd_of_le_two_pow h)

end Gazetteer.Decimal
