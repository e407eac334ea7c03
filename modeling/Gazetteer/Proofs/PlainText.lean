import Gazetteer.Proofs.Shortest

/-!
# Floats as plain texts

The plain text of a finite float reads back as the float, bit for bit (`float?_plainText`), with
either sign and zeros included. The digits of the text stand for the shortest decimal of the float,
wherever the point is (`Scaled.exists_spells`). This decimal is nearer to the float than to any
other (`Magnitude.nearestTo_shortest`), and a numeral is read as the nearest float
(`unpack_toFloat_of_nearestTo`), which is determined by its sign and its size (`eq_of_unpack_eq`).
-/

namespace Gazetteer

open Float.Model (Format UnpackedFloat)
open Float.Model.UnpackedFloat
open Geodesy
open Value (floatSize floatKey_cases eq_of_toNat_toBits_eq)

namespace Decimal

/-! ## Sign and size -/

section Size

variable {x y : Float} {s : Sign} {m : Nat} {e : Int} {hm : 0 < m}

theorem isNegative_iff : isNegative x = true ↔ 2 ^ 63 ≤ x.toBits.toNat := by
  unfold isNegative
  rw [decide_eq_true_iff, ge_iff_le, UInt64.le_iff_toNat_le]
  rfl

theorem ofFloat_eq_iff : Magnitude.ofFloat x = ⟨m, e⟩ ↔
    (-1074 ≤ e ∧ m < 2 ^ 53 ∧ (-1074 < e → 2 ^ 52 ≤ m)) ∧
      pattern m e = (x.toBits.toNat % 2 ^ 63 : Nat) := by
  have hbits : x.toBits.toNat < 2 ^ 64 := x.toBits.toNat_lt
  unfold Magnitude.ofFloat pattern Magnitude.leadingBit Magnitude.leastExponent
  dsimp only
  split
  · rw [Magnitude.mk.injEq]
    omega
  · rw [Magnitude.mk.injEq]
    omega

theorem floatSize_eq_size (hx : ¬x.isNaN) :
    Canonical x.toModel.unpack ∧ floatSize x = size x.toModel.unpack := by
  obtain ⟨hcanonical, hsize⟩ := size_unpack x.toModel.toBits.toBitVec hx
  rw [signed_unpackSign] at hsize
  exact ⟨hcanonical, hsize.symm⟩

/-- A bit pattern that stands for a number is the size of that number, with its sign. -/
theorem ofFloat_of_unpack (h : x.toModel.unpack = .finite s m e hm) :
    Magnitude.ofFloat x = ⟨m, e⟩ ∧ (isNegative x = true ↔ s = .negative) := by
  have hnumber : ¬x.isNaN := by
    change ¬x.toModel.unpack.isNaN = true
    rw [h]
    exact nofun
  obtain ⟨hcanonical, hsize⟩ := floatSize_eq_size hnumber
  rw [h] at hcanonical hsize
  have hpattern := pattern_mem hcanonical
  have hbits : x.toBits.toNat < 2 ^ 64 := x.toBits.toNat_lt
  rw [ofFloat_eq_iff, isNegative_iff]
  obtain ⟨hemin, -, hmmax, hmmin⟩ := hcanonical
  rcases floatKey_cases x with ⟨hx, hfloat, -⟩ | ⟨hx, hfloat, -⟩ <;> rw [hfloat] at hsize
  · cases s with
    | positive =>
        change _ = pattern m e at hsize
        exact ⟨⟨⟨hemin, hmmax, hmmin⟩, by omega⟩, iff_of_false (by omega) nofun⟩
    | negative =>
        change _ = -pattern m e at hsize
        omega
  · cases s with
    | positive =>
        change _ = pattern m e at hsize
        omega
    | negative =>
        change _ = -pattern m e at hsize
        exact ⟨⟨⟨hemin, hmmax, hmmin⟩, by omega⟩, iff_of_true hx rfl⟩

/-- A float is determined by its sign and its size. -/
theorem eq_of_ofFloat_eq (hx : Magnitude.ofFloat x = ⟨m, e⟩) (hy : Magnitude.ofFloat y = ⟨m, e⟩)
    (hsign : isNegative x = isNegative y) : x = y := by
  have hnegative : isNegative x = true ↔ isNegative y = true := by rw [hsign]
  have hxbits : x.toBits.toNat < 2 ^ 64 := x.toBits.toNat_lt
  have hybits : y.toBits.toNat < 2 ^ 64 := y.toBits.toNat_lt
  rw [isNegative_iff, isNegative_iff] at hnegative
  rw [ofFloat_eq_iff] at hx hy
  refine eq_of_toNat_toBits_eq ?_
  omega

theorem eq_of_unpack_eq (hx : x.toModel.unpack = .finite s m e hm)
    (hy : y.toModel.unpack = .finite s m e hm) : x = y := by
  obtain ⟨hsizex, hsignx⟩ := ofFloat_of_unpack hx
  obtain ⟨hsizey, hsigny⟩ := ofFloat_of_unpack hy
  exact eq_of_ofFloat_eq hsizex hsizey (Bool.eq_iff_iff.mpr (hsignx.trans hsigny.symm))

/-- A finite float is one of the zeros or has a mantissa. -/
theorem eq_zero_or_unpack_eq (hx : x.isFinite) : (x = 0.0 ∨ x = -0.0) ∨
    ∃ s m e hm, x.toModel.unpack = .finite s m e hm ∧ Canonical (.finite s m e hm) := by
  obtain ⟨hcanonical, hsize⟩ := floatSize_eq_size (not_isNaN_of_isFinite hx)
  change x.toModel.unpack.isFinite = true at hx
  cases hunpack : x.toModel.unpack with
  | zero s =>
      left
      rw [hunpack] at hsize
      have hpositive : (0.0 : Float).toBits.toNat = 0 := by decide
      have hnegative : (-0.0 : Float).toBits.toNat = 2 ^ 63 := by decide
      change _ = 0 at hsize
      rcases floatKey_cases x with ⟨hx, hfloat, -⟩ | ⟨hx, hfloat, -⟩ <;> rw [hfloat] at hsize
      · exact .inl (eq_of_toNat_toBits_eq (by omega))
      · exact .inr (eq_of_toNat_toBits_eq (by omega))
  | finite s m e hm => exact .inr ⟨s, m, e, hm, rfl, hunpack ▸ hcanonical⟩
  | infinity s =>
      rw [hunpack] at hx
      cases hx
  | notANumber =>
      rw [hunpack] at hx
      cases hx

end Size

/-! ## Digits -/

/-- What a plain text is made of. -/
def isPlain (c : Char) : Bool := c.isDigit || c == '-' || c == '.'

theorem isDigit_of_mem_digitText {n : Nat} {c : Char} (hc : c ∈ digitText n) : c.isDigit = true :=
  Nat.isDigit_of_mem_toDigits (by decide) (by decide) hc

theorem digitsValue_append_zeros (ds : List Char) (k : Nat) :
    digitsValue (ds ++ List.replicate k '0') = digitsValue ds * 10 ^ k := by
  show Nat.ofDigitChars 10 _ 0 = Nat.ofDigitChars 10 ds 0 * _
  rw [Nat.ofDigitChars_append, Nat.ofDigitChars_replicate_zero, Nat.mul_comm]

theorem digitsValue_zeros_append (k : Nat) (ds : List Char) :
    digitsValue (List.replicate k '0' ++ ds) = digitsValue ds := by
  show Nat.ofDigitChars 10 _ 0 = Nat.ofDigitChars 10 ds 0
  rw [Nat.ofDigitChars_append, Nat.ofDigitChars_replicate_zero, Nat.mul_zero]

theorem digitsValue_digitText (n : Nat) : digitsValue (digitText n) = n :=
  Nat.ofDigitChars_ten_toDigits

/-- Digits with a point between them, unless none follow. -/
def pointText (whole fraction : List Char) : List Char :=
  whole ++ if fraction = [] then [] else '.' :: fraction

section Digits

variable {whole fraction : List Char}

theorem spanDigits_append (hwhole : ∀ c ∈ whole, c.isDigit = true) (rest : List Char) :
    spanDigits (whole ++ rest) = (whole ++ (spanDigits rest).1, (spanDigits rest).2) := by
  unfold spanDigits
  rw [List.span_eq_takeWhile_dropWhile, List.span_eq_takeWhile_dropWhile,
    List.takeWhile_append_of_pos hwhole, List.dropWhile_append_of_pos hwhole]

theorem spanDigits_eq_self (hwhole : ∀ c ∈ whole, c.isDigit = true) :
    spanDigits whole = (whole, []) := by
  have hspan := spanDigits_append hwhole []
  rw [List.append_nil] at hspan
  rw [hspan]
  exact congrArg (·, []) (List.append_nil whole)

theorem unsigned?_pointText (negative : Bool) (hwhole : ∀ c ∈ whole, c.isDigit = true)
    (hfraction : ∀ c ∈ fraction, c.isDigit = true) (hne : whole ≠ []) :
    unsigned? negative (pointText whole fraction) =
      some ⟨negative, digitsValue (whole ++ fraction), -fraction.length⟩ := by
  unfold unsigned? pointText
  rw [spanDigits_append hwhole]
  by_cases hnil : fraction = []
  · have hempty : spanDigits [] = ([], []) := rfl
    simp [hnil, hempty, hne, exponent?]
  · have hpoint : spanDigits ('.' :: fraction) = ([], '.' :: fraction) := rfl
    simp [hnil, hpoint, spanDigits_eq_self hfraction, hne, exponent?]

end Digits

/-- The text of a decimal consists of digits that stand for it, with or without a point. -/
structure Scaled.Spells (d : Scaled) (whole fraction : List Char) : Prop where
  text : d.positionalText false = pointText whole fraction
  nonempty : whole ≠ []
  whole_digits : ∀ c ∈ whole, c.isDigit = true
  fraction_digits : ∀ c ∈ fraction, c.isDigit = true
  value : (digitsValue (whole ++ fraction) : ℚ) * 10 ^ (-fraction.length : Int) = d.size

section Spells

variable (digits places : Nat)

theorem isDigit_of_mem_zeros {k : Nat} {c : Char} (hc : c ∈ List.replicate k '0') :
    c.isDigit = true := by
  rw [List.eq_of_mem_replicate hc]
  decide

theorem digitText_ne_nil : digitText digits ≠ [] := Nat.toDigits_ne_nil

/-- Zeros follow the digits. -/
theorem spells_of_nonneg : (⟨digits, places⟩ : Scaled).Spells
    (digitText digits ++ List.replicate places '0') [] where
  text := by
    unfold Scaled.positionalText
    dsimp only
    rw [if_pos (Int.natCast_nonneg places), Int.toNat_natCast]
    rfl
  nonempty := by simp [digitText_ne_nil]
  whole_digits c hc := (List.mem_append.mp hc).elim isDigit_of_mem_digitText isDigit_of_mem_zeros
  fraction_digits := nofun
  value := by
    rw [List.append_nil, digitsValue_append_zeros, digitsValue_digitText, Scaled.size]
    simp

variable {digits places}

/-- The point stands among the digits. -/
theorem spells_of_lt (hpos : 0 < places) (h : places < (digitText digits).length) :
    (⟨digits, -places⟩ : Scaled).Spells
      ((digitText digits).take ((digitText digits).length - places))
      ((digitText digits).drop ((digitText digits).length - places)) := by
  have hlength :
      ((digitText digits).drop ((digitText digits).length - places)).length = places := by
    rw [List.length_drop]
    omega
  refine ⟨?_, ?_, fun c hc => isDigit_of_mem_digitText (List.mem_of_mem_take hc),
    fun c hc => isDigit_of_mem_digitText (List.mem_of_mem_drop hc), ?_⟩
  · unfold Scaled.positionalText pointText
    dsimp only
    rw [if_neg (by omega), Int.neg_neg, Int.toNat_natCast, if_pos h,
      if_neg (List.ne_nil_of_length_pos (by omega))]
  · refine List.ne_nil_of_length_pos ?_
    rw [List.length_take]
    omega
  · rw [List.take_append_drop, digitsValue_digitText, hlength, Scaled.size]

/-- The point and perhaps zeros come before the digits. -/
theorem spells_of_le (h : (digitText digits).length ≤ places) : (⟨digits, -places⟩ : Scaled).Spells
    ['0'] (List.replicate (places - (digitText digits).length) '0' ++ digitText digits) := by
  have hpos : 0 < (digitText digits).length := List.length_pos_iff.mpr (digitText_ne_nil digits)
  have hlength : (List.replicate (places - (digitText digits).length) '0' ++
      digitText digits).length = places := by
    rw [List.length_append, List.length_replicate]
    omega
  have hvalue := digitsValue_zeros_append (places - (digitText digits).length + 1)
    (digitText digits)
  rw [digitsValue_digitText] at hvalue
  refine ⟨?_, List.cons_ne_nil _ _, fun c hc => isDigit_of_mem_zeros (k := 1) hc,
    fun c hc => (List.mem_append.mp hc).elim isDigit_of_mem_zeros isDigit_of_mem_digitText, ?_⟩
  · unfold Scaled.positionalText pointText
    dsimp only
    rw [if_neg (by omega), Int.neg_neg, Int.toNat_natCast, if_neg (Nat.not_lt.mpr h),
      if_neg (List.ne_nil_of_length_pos (by omega))]
    rfl
  · rw [hlength]
    exact congrArg (fun n : Nat => (n : ℚ) * 10 ^ (-places : Int)) hvalue

end Spells

theorem Scaled.exists_spells (d : Scaled) : ∃ whole fraction, d.Spells whole fraction := by
  obtain ⟨digits, exponent⟩ := d
  by_cases hwhole : 0 ≤ exponent
  · obtain ⟨places, rfl⟩ := Int.eq_ofNat_of_zero_le hwhole
    exact ⟨_, _, spells_of_nonneg digits places⟩
  · obtain ⟨places, rfl⟩ : ∃ places : Nat, exponent = -places := ⟨(-exponent).toNat, by omega⟩
    by_cases hplaces : places < (digitText digits).length
    · exact ⟨_, _, spells_of_lt (by omega) hplaces⟩
    · exact ⟨_, _, spells_of_le (Nat.not_lt.mp hplaces)⟩

/-! ## Reading the text of a float -/

theorem toLower_of_isDigit {c : Char} (h : c.isDigit = true) : c.toLower = c := by
  simp only [Char.isDigit, Bool.and_eq_true, decide_eq_true_eq] at h
  have hlow : ¬(c.val ≥ 'A'.val ∧ c.val ≤ 'Z'.val) := by
    rintro ⟨hA, -⟩
    exact absurd (UInt32.le_trans hA h.2) (by decide)
  exact dif_neg hlow

theorem head?_of_ofList_eq {c : Char} {cs : List Char} {name : String}
    (h : String.ofList (c :: cs) = name) : name.toList.head? = some c := by
  rw [← h, String.toList_ofList]
  rfl

/-- The names of floats do not begin with a digit. -/
theorem special?_of_isDigit {c : Char} (h : c.isDigit = true) (cs : List Char) :
    special? (c :: cs) = none := by
  have hfirst {name : String} (hname : String.ofList ((c :: cs).map Char.toLower) = name) :
      name.toList.head? = some c := by
    rw [List.map_cons, toLower_of_isDigit h] at hname
    exact head?_of_ofList_eq hname
  unfold special?
  split
  · next hname => cases (hfirst hname : some 'i' = some c); cases h
  · next hname => cases (hfirst hname : some 'i' = some c); cases h
  · next hname => cases (hfirst hname : some 'n' = some c); cases h
  · rfl

theorem spanSign_of_isDigit {c : Char} (h : c.isDigit = true) (cs : List Char) :
    spanSign (c :: cs) = (false, c :: cs) := by
  unfold spanSign
  split
  · next heq => cases heq; cases h
  · next heq => cases heq; cases h
  · rfl

/-- An unsigned decimal, with or without a minus sign before it. -/
def signedText (negative : Bool) (cs : List Char) : List Char := if negative then '-' :: cs else cs

theorem spanSign_signedText (negative : Bool) {c : Char} (hc : c.isDigit = true) (cs : List Char) :
    spanSign (signedText negative (c :: cs)) = (negative, c :: cs) := by
  cases negative with
  | false => exact spanSign_of_isDigit hc cs
  | true => rfl

theorem float?_signedText {negative : Bool} {cs : List Char} {n : Numeral} {c : Char}
    (hc : c.isDigit = true) (h : unsigned? negative (c :: cs) = some n) :
    float? (signedText negative (c :: cs)) = .ok n.toFloat := by
  have hsign := spanSign_signedText negative hc cs
  have hne : (signedText negative (c :: cs)).isEmpty = false := by cases negative <;> rfl
  unfold float?
  rw [hsign, hne]
  dsimp only
  rw [special?_of_isDigit hc, h]
  rfl

theorem not_isInf_of_isFinite {x : Float} (h : x.isFinite) : ¬x.isInf := by
  revert h
  show x.toModel.unpack.isFinite = true → ¬x.toModel.unpack.isInf = true
  generalize x.toModel.unpack = u
  cases u with
  | infinity s => exact nofun
  | _ => exact fun _ => nofun

/-- A float that is written without exponent is the text of its decimal behind its sign. -/
theorem Layout.toList_text {l : Layout} (hl : l.positional = none) {x : Float} (hx : x.isFinite) :
    (l.text x).toList = signedText (isNegative x)
      (((Magnitude.ofFloat x).shortest l.tie).positionalText l.pointZero) := by
  unfold Layout.text Layout.scaledText signedText
  rw [if_neg (not_isNaN_of_isFinite hx), if_neg (not_isInf_of_isFinite hx), String.toList_append,
    String.toList_ofList, hl]
  cases isNegative x <;> rfl

theorem toList_plainText {x : Float} (hx : x.isFinite) : (plainText x).toList =
    signedText (isNegative x) (((Magnitude.ofFloat x).shortest .up).positionalText false) :=
  Layout.toList_text rfl hx

/-- A numeral for the shortest decimal of a float is read as the float. -/
theorem toFloat_eq_of_size_eq {x : Float} {s : Sign} {m : Nat} {e : Int} {hm : 0 < m} {n : Numeral}
    {tie : Tie} (hunpack : x.toModel.unpack = .finite s m e hm)
    (hcanonical : Canonical (.finite s m e hm)) (hnegative : n.negative = isNegative x)
    (hsize : n.size = ((Magnitude.ofFloat x).shortest tie).size) : n.toFloat = x := by
  obtain ⟨hmagnitude, hsign⟩ := ofFloat_of_unpack hunpack
  obtain rfl : n.sign = s := by
    rw [← hnegative] at hsign
    unfold Numeral.sign
    cases s with
    | positive => exact if_neg fun h => nomatch hsign.mp h
    | negative => exact if_pos (hsign.mpr rfl)
  rw [hmagnitude] at hsize
  have hnearest : NearestTo m e n.size := by
    rw [hsize]
    exact Magnitude.nearestTo_shortest (v := ⟨m, e⟩) tie hm hcanonical.2.2.1
  exact eq_of_unpack_eq (unpack_toFloat_of_nearestTo hcanonical hnearest) hunpack

/-- **The plain text of a finite float reads back as the float.** -/
theorem float?_plainText {x : Float} (hx : x.isFinite) : float? (plainText x).toList = .ok x := by
  rcases eq_zero_or_unpack_eq hx with (rfl | rfl) | ⟨s, m, e, hm, hunpack, hcanonical⟩
  · decide +kernel
  · decide +kernel
  · obtain ⟨whole, fraction, h⟩ := ((Magnitude.ofFloat x).shortest .up).exists_spells
    have hread := unsigned?_pointText (isNegative x) h.whole_digits h.fraction_digits h.nonempty
    obtain ⟨c, cs, rfl⟩ := List.exists_cons_of_ne_nil h.nonempty
    rw [toList_plainText hx, h.text]
    exact (float?_signedText (h.whole_digits c List.mem_cons_self) hread).trans
      (congrArg Except.ok (toFloat_eq_of_size_eq hunpack hcanonical rfl h.value))

/-- It has neither blanks nor commas. -/
theorem isPlain_of_mem_plainText {x : Float} (hx : x.isFinite) {c : Char}
    (hc : c ∈ (plainText x).toList) : isPlain c = true := by
  obtain ⟨whole, fraction, h⟩ := ((Magnitude.ofFloat x).shortest .up).exists_spells
  have hpoint {c : Char} (hc : c ∈ pointText whole fraction) : isPlain c = true := by
    unfold pointText at hc
    unfold isPlain
    rcases List.mem_append.mp hc with hc | hc
    · rw [h.whole_digits c hc]
      rfl
    · split at hc
      · cases hc
      · rcases List.mem_cons.mp hc with rfl | hc
        · rfl
        · rw [h.fraction_digits c hc]
          rfl
  rw [toList_plainText hx, h.text, signedText] at hc
  split at hc
  · rcases List.mem_cons.mp hc with rfl | hc
    · rfl
    · exact hpoint hc
  · exact hpoint hc

end Decimal

end Gazetteer
