import Gazetteer.Proofs.Conversion
import Gazetteer.Proofs.Equality
import Gazetteer.Value.Reader

/-!
# Looking up and sorting whole numbers

Whole numbers are compared as floats, for lookups as well as for sorting. Two of 64 bits are never
compared the wrong way round, but they are taken for one if they are `Merged`, that is if their
nearest floats are the same one (`Lookup.integer_laws`). Numbers of less than 54 binary digits are
not merged with any other number, and merged ones are at most 2048 apart.
-/

namespace Gazetteer

namespace Decimal

/-! ## Merged numbers -/

/-- Different whole numbers with one nearest float. -/
def Merged (m n : Int) : Prop := m ≠ n ∧ nearest m = nearest n

instance (m n : Int) : Decidable (Merged m n) :=
  inferInstanceAs (Decidable (m ≠ n ∧ nearest m = nearest n))

section Merged

variable {m n : Int}

theorem Merged.symm (h : Merged m n) : Merged n m := ⟨h.1.symm, h.2.symm⟩

theorem nearest_eq_iff : nearest m = nearest n ↔ m = n ∨ Merged m n := by
  constructor
  · intro h
    by_cases hmn : m = n
    · exact Or.inl hmn
    · exact Or.inr ⟨hmn, h⟩
  · rintro (rfl | h)
    · rfl
    · exact h.2

theorem Merged.two_pow_le (h : Merged m n) : 2 ^ 53 ≤ m.natAbs := by
  -- a smaller number is its own nearest float, and those of greater numbers are not smaller
  by_contra hm
  have hself : nearest m = m := nearest_eq_self (by omega)
  have htop : nearest (2 ^ 53) = 2 ^ 53 := nearest_eq_self (by decide)
  have hbottom : nearest (-2 ^ 53) = -2 ^ 53 := nearest_eq_self (by decide)
  have hn : n.natAbs ≤ 2 ^ 53 := by
    by_contra hn
    rcases Int.lt_or_gt_of_ne (show n ≠ 0 by omega) with hneg | hpos
    · have hmono := nearest_mono (show n ≤ -2 ^ 53 by omega)
      rw [hbottom, ← h.2, hself] at hmono
      omega
    · have hmono := nearest_mono (show 2 ^ 53 ≤ n by omega)
      rw [htop, ← h.2, hself] at hmono
      omega
  exact h.1 (hself.symm.trans (h.2.trans (nearest_eq_self hn)))

theorem excess_le (h : m.natAbs < 2 ^ 64) : excess m.natAbs ≤ 11 := by
  rcases Nat.eq_zero_or_pos m.natAbs with hzero | hpos
  · rw [hzero]
    decide
  · have hlog := (Nat.log2_lt hpos.ne').mpr h
    unfold excess
    omega

theorem Merged.near (hm : m.natAbs < 2 ^ 64) (hn : n.natAbs < 2 ^ 64) (h : Merged m n) :
    |m - n| ≤ 2048 := by
  have hnear {k : Int} (hk : k.natAbs < 2 ^ 64) : 2 * |nearest k - k| ≤ 2048 :=
    (abs_nearest_sub_le k).trans (by exact_mod_cast Nat.pow_le_pow_right two_pos (excess_le hk))
  have hnearm := hnear hm
  have hnearn := hnear hn
  calc |m - n|
      ≤ |m - nearest m| + |nearest m - n| := abs_sub_le m (nearest m) n
    _ = |nearest m - m| + |nearest n - n| := by rw [abs_sub_comm m, h.2]
    _ ≤ 2048 := by omega

/-- Nearest floats compare as the numbers do, unless these are merged. -/
theorem compare_nearest (m n : Int) :
    compare (nearest m) (nearest n) = if Merged m n then .eq else compare m n := by
  split
  case isTrue h => exact Int.compare_eq_eq.mpr h.2
  case isFalse h =>
    rcases Int.lt_trichotomy m n with hlt | rfl | hgt
    · have hne : nearest m ≠ nearest n := fun heq => h ⟨hlt.ne, heq⟩
      have hle := nearest_mono hlt.le
      rw [Int.compare_eq_lt.mpr hlt, Int.compare_eq_lt.mpr (by omega)]
    · rw [Int.compare_eq_eq.mpr rfl, Int.compare_eq_eq.mpr rfl]
    · have hne : nearest m ≠ nearest n := fun heq => h ⟨hgt.ne', heq⟩
      have hle := nearest_mono hgt.le
      rw [Int.compare_eq_gt.mpr hgt, Int.compare_eq_gt.mpr (by omega)]

end Merged

end Decimal

namespace Value

open Decimal

/-! ## Whole numbers as values -/

section

variable {m n : Int}

theorem natAbs_lt_of_isWord (h : isWord n = true) : n.natAbs < 2 ^ 64 := by
  unfold isWord at h
  simp only [Bool.and_eq_true, decide_eq_true_eq] at h
  omega

theorem compareFloats?_ofInt (hm : isWord m = true) (hn : isWord n = true) :
    compareFloats? (Float.ofInt m) (Float.ofInt n) = some (compare (nearest m) (nearest n)) := by
  rw [compareFloats?_eq_order]
  exact compare_of_denotes (denotes_ofInt (natAbs_lt_of_isWord hm))
    (denotes_ofInt (natAbs_lt_of_isWord hn))

/-- A whole number is never converted to the negative zero. -/
theorem ofInt_ne_negativeZero (hn : isWord n = true) : Float.ofInt n ≠ -0.0 := by
  intro h
  have hdenotes := denotes_ofInt (natAbs_lt_of_isWord hn)
  have hzero : (-0.0 : Float).toModel.unpack = .zero .negative := rfl
  rw [h, hzero] at hdenotes
  cases hdenotes

theorem compare?_int (hm : isWord m = true) (hn : isWord n = true) :
    compare? (.int m) (.int n) = some (if Merged m n then .eq else compare m n) := by
  rw [compare?, compareFloats?_ofInt hm hn, compare_nearest]

theorem sortOrder_int (hm : isWord m = true) (hn : isWord n = true) :
    sortOrder (.int m) (.int n) = if Merged m n then .eq else compare m n := by
  rw [sortOrder, ← compare_nearest]
  rcases orderFloats_eq_or_zeros (compareFloats?_ofInt hm hn) with h | ⟨-, ⟨-, h⟩ | ⟨h, -⟩⟩
  · exact h
  · exact absurd h (ofInt_ne_negativeZero hn)
  · exact absurd h (ofInt_ne_negativeZero hm)

theorem equal_int_iff (hm : isWord m = true) (hn : isWord n = true) :
    equal (.int m) (.int n) = true ↔ m = n ∨ Merged m n := by
  have hequal : equal (.int m) (.int n) = (Float.ofInt m == Float.ofInt n) := rfl
  rw [hequal, ← compareFloats?_eq_some_eq_iff, compareFloats?_ofInt hm hn, Option.some_inj,
    Int.compare_eq_eq, nearest_eq_iff]

end

end Value

namespace Lookup

open Value Decimal

/-- **Whole numbers are looked up and sorted exactly unless they are merged.** For two of 64 bits
equality, comparison and the sorting order are those of the numbers themselves, except that merged
numbers are taken for one; so the lookups for one number or for some of them find what is merged
with these as well. Merged are only numbers of at least 54 binary digits that are near each other.
-/
theorem integer_laws {m n : Int} {ns : List Int} (hm : isWord m = true) (hn : isWord n = true)
    (hns : ∀ k ∈ ns, isWord k = true) :
    (equal (.int m) (.int n) = true ↔ m = n ∨ Merged m n) ∧
    compare? (.int m) (.int n) = some (if Merged m n then .eq else compare m n) ∧
    sortOrder (.int m) (.int n) = (if Merged m n then .eq else compare m n) ∧
    ((exact (.int n)).holds (.int m) = true ↔ m = n ∨ Merged m n) ∧
    ((in_ (ns.map .int)).holds (.int m) = true ↔ m ∈ ns ∨ ∃ k ∈ ns, Merged m k) ∧
    (Merged m n → 2 ^ 53 ≤ m.natAbs ∧ 2 ^ 53 ≤ n.natAbs ∧ |m - n| ≤ 2048) := by
  refine ⟨equal_int_iff hm hn, compare?_int hm hn, sortOrder_int hm hn, equal_int_iff hm hn,
    ?_, fun h => ⟨h.two_pow_le, h.symm.two_pow_le,
      h.near (natAbs_lt_of_isWord hm) (natAbs_lt_of_isWord hn)⟩⟩
  rw [holds, List.any_map, List.any_eq_true]
  constructor
  · rintro ⟨k, hk, hequal⟩
    rcases (equal_int_iff hm (hns k hk)).mp hequal with rfl | hmerged
    · exact Or.inl hk
    · exact Or.inr ⟨k, hk, hmerged⟩
  · rintro (hmem | ⟨k, hk, hmerged⟩)
    · exact ⟨m, hmem, (equal_int_iff hm hm).mpr (Or.inl rfl)⟩
    · exact ⟨k, hk, (equal_int_iff hm (hns k hk)).mpr (Or.inr hmerged)⟩

/-- The smallest numbers that are merged. -/
theorem integer_laws_merged :
    isWord 9007199254740993 = true ∧ isWord 9007199254740992 = true ∧
    equal (.int 9007199254740993) (.int 9007199254740992) = true ∧
    compare? (.int 9007199254740993) (.int 9007199254740992) = some .eq ∧
    sortOrder (.int 9007199254740993) (.int 9007199254740992) = .eq ∧
    (in_ [.int 7, .int 9007199254740992]).holds (.int 9007199254740993) = true := by
  have hm : isWord 9007199254740993 = true := by decide
  have hn : isWord 9007199254740992 = true := by decide
  have hns : ∀ k ∈ [(7 : Int), 9007199254740992], isWord k = true := by decide
  have hmerged : Merged 9007199254740993 9007199254740992 := by decide +kernel
  obtain ⟨hequal, hcompare, hsort, -, hmember, -⟩ := integer_laws hm hn hns
  rw [if_pos hmerged] at hcompare hsort
  refine ⟨hm, hn, hequal.mpr (Or.inr hmerged), hcompare, hsort, hmember.mpr (Or.inr ?_)⟩
  exact ⟨9007199254740992, by decide, hmerged⟩

end Lookup

end Gazetteer
