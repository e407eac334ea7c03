import Gazetteer.Geodesy.Config
import Gazetteer.Proofs.PlainText
import Mathlib.Data.List.TakeWhile

/-!
# How TOML values are spelt

`Toml.Spells` says that a text at the end of a line is read as an item. A string in quotes is, if it
needs no escapes (`spells_quoted`), and so are the names of the booleans, whole numbers of 64 bits
(`spells_natural`) and every finite float that is written without exponent and with its point
(`spells_float`). A number is read as a whole one first, which only the point prevents
(`integer?_eq_none`).
-/

namespace Gazetteer.Toml

open Float.Model (UnpackedFloat)
open Decimal Geodesy

/-- Characters differ if a test tells them apart. -/
theorem ne_of_test {test : Char → Bool} {c d : Char} (hc : test c = true) (hd : test d = false) :
    c ≠ d := by
  rintro rfl
  rw [hc] at hd
  cases hd

/-! ## Digits -/

section Digits

variable {ds : List Char} {isDigit : Char → Bool}

/-- Where there are no underscores, nothing is left out. -/
theorem digitGroups?_eq_some (hunderscore : isDigit '_' = false) :
    ∀ {ds : List Char}, (∀ c ∈ ds, isDigit c = true) → ds ≠ [] → digitGroups? isDigit ds = some ds
  | [], _, hne => absurd rfl hne
  | [c], hds, _ => by rw [digitGroups?, if_pos (hds c List.mem_cons_self)]
  | c :: d :: r, hds, _ => by
      have hd : d ≠ '_' := ne_of_test (hds d (by simp)) hunderscore
      have hrest : digitGroups? isDigit (d :: r) = some (d :: r) :=
        digitGroups?_eq_some hunderscore (fun e he => hds e (List.mem_cons_of_mem c he))
          (List.cons_ne_nil d r)
      rw [digitGroups?, if_pos (hds c List.mem_cons_self), hrest]
      · rfl
      · exact nofun
      · rintro _ ⟨⟩
        exact hd rfl

/-- A character that is neither a digit nor an underscore has no place among digits. -/
theorem digitGroups?_eq_none {c : Char} (hc : c ∈ ds) (hdigit : isDigit c = false) (hne : c ≠ '_') :
    digitGroups? isDigit ds = none := by
  fun_induction digitGroups? isDigit ds with
  | case1 => cases hc
  | case2 d hd => grind
  | case4 d r hd ih => grind
  | case6 d r _ _ hd ih => grind
  | _ =>
      -- an earlier character is no digit either
      rfl

/-- The digits of a whole number: only zero starts with a zero. -/
structure Whole (ds : List Char) : Prop where
  digits : ∀ c ∈ ds, c.isDigit = true
  nonempty : ds ≠ []
  lead : 1 < ds.length → ds.head? ≠ some '0'

theorem Whole.decimal?_eq (h : Whole ds) : decimal? ds = some (digitsValue ds) := by
  have hgroups := digitGroups?_eq_some (by decide) h.digits h.nonempty
  have hlead : ¬(ds.length > 1 ∧ ds.head? = some '0') := fun hzero => h.lead hzero.1 hzero.2
  rw [decimal?, hgroups]
  exact if_neg hlead

theorem head?_digitText {n : Nat} (hn : n ≠ 0) : (digitText n).head? ≠ some '0' := by
  -- the first digit is the one that is left when all others are cut off
  by_cases hlt : n < 10
  · have hdigit : ∀ m < 10, m ≠ 0 → m.digitChar ≠ '0' := by decide
    rw [digitText, Nat.toDigits_of_lt_base hlt, List.head?_cons]
    exact fun h => hdigit n hlt hn (Option.some.inj h)
  · have hrest : (digitText (n / 10)).head? ≠ some '0' := head?_digitText (by omega)
    rw [digitText, Nat.toDigits_of_base_le (by decide) (by omega), List.head?_append_of_ne_nil]
    · exact hrest
    · exact digitText_ne_nil (n / 10)
termination_by n

theorem whole_digitText (n : Nat) : Whole (digitText n) where
  digits _ hc := isDigit_of_mem_digitText hc
  nonempty := digitText_ne_nil n
  lead hlong := by
    apply head?_digitText
    rintro rfl
    exact absurd hlong (by decide)

end Digits

/-! ## Whole numbers -/

theorem integer?_of_digits {cs : List Char} (hcs : ∀ c ∈ cs, c.isDigit = true) {n : Nat}
    (h : decimal? cs = some n) (hn : n < 0x8000000000000000) : integer? cs = some (n : Int) := by
  unfold integer?
  split
  · exact absurd (hcs 'x' (by simp)) (by decide)
  · exact absurd (hcs 'o' (by simp)) (by decide)
  · exact absurd (hcs 'b' (by simp)) (by decide)
  · exact absurd (hcs '+' (by simp)) (by decide)
  · exact absurd (hcs '-' (by simp)) (by decide)
  · rw [h, Option.map_some, Option.bind_eq_bind, Option.bind_some]
    dsimp only [Int.ofNat_eq_natCast]
    rw [if_pos (by omega)]

/-- What has a point is no whole number. -/
theorem integer?_eq_none {cs : List Char} (hcs : ∀ c ∈ cs, isPlain c = true) (hpoint : '.' ∈ cs) :
    integer? cs = none := by
  have hdecimal {ds : List Char} (h : '.' ∈ ds) : decimal? ds = none := by
    rw [decimal?, digitGroups?_eq_none h (by decide) (by decide)]
    rfl
  unfold integer?
  split
  · exact absurd (hcs 'x' (by simp)) (by decide)
  · exact absurd (hcs 'o' (by simp)) (by decide)
  · exact absurd (hcs 'b' (by simp)) (by decide)
  · exact absurd (hcs '+' (by simp)) (by decide)
  · next r =>
      rw [hdecimal ((List.mem_cons.mp hpoint).resolve_left (by decide))]
      rfl
  · rw [hdecimal hpoint]
    rfl

/-! ## Words -/

/-- A number is not taken for a name. -/
theorem ofWord?_of_isPlain {c : Char} (hc : isPlain c = true) (cs : List Char) :
    ofWord? (c :: cs) =
      match integer? (c :: cs) with
      | some n => some (.integer n)
      | none =>
        match float? (c :: cs) with
        | some x => some (.float x)
        | none => if isDateTime (c :: cs) then some .dateTime else none := by
  unfold ofWord?
  split
  · next hname =>
      cases (head?_of_ofList_eq hname : some 't' = some c)
      cases hc
  · next hname =>
      cases (head?_of_ofList_eq hname : some 'f' = some c)
      cases hc
  · rfl

theorem isWordChar_of_isPlain {c : Char} (hc : isPlain c = true) : isWordChar c = true := by
  unfold isPlain at hc
  unfold isWordChar Char.isAlphanum
  grind

theorem readWord_append {word : List Char} (hword : ∀ c ∈ word, isWordChar c = true)
    (rest : List Char) :
    readWord (word ++ '\n' :: rest) = (ofWord? word).map (·, '\n' :: rest) := by
  have htake : (word ++ '\n' :: rest).takeWhile isWordChar = word := by
    rw [List.takeWhile_append_of_pos hword, List.takeWhile_cons_of_neg (by decide), List.append_nil]
  have hdrop : (word ++ '\n' :: rest).dropWhile isWordChar = '\n' :: rest := by
    rw [List.dropWhile_append_of_pos hword, List.dropWhile_cons_of_neg (by decide)]
  unfold readWord
  rw [htake, hdrop]
  dsimp only
  -- at the end of a line no blank parts a date from a time
  split
  · next hblank => cases hblank
  · rfl

/-! ## Texts of values -/

/-- A text at the end of a line is read as an item. -/
structure Spells (text : List Char) (item : Item) : Prop where
  flush : ∀ rest, skipBlanks (text ++ '\n' :: rest) = text ++ '\n' :: rest
  read : ∀ fuel levels rest,
    readValue (fuel + 1) levels (text ++ '\n' :: rest) = some (item, '\n' :: rest)

theorem spells_of_word {word : List Char} {item : Item} (hword : ∀ c ∈ word, isWordChar c = true)
    (hitem : ofWord? word = some item) (hne : word ≠ []) : Spells word item := by
  obtain ⟨c, cs, rfl⟩ := List.exists_cons_of_ne_nil hne
  have hc := hword c List.mem_cons_self
  constructor
  · intro rest
    have hspace : c ≠ ' ' := ne_of_test hc (by decide)
    have htab : c ≠ '\t' := ne_of_test hc (by decide)
    rw [skipBlanks, List.cons_append, List.dropWhile_cons_of_neg (by simp [hspace, htab])]
  · intro fuel levels rest
    have hquotes : ¬(c = '"' ∨ c = '\'') :=
      not_or.mpr ⟨ne_of_test hc (by decide), ne_of_test hc (by decide)⟩
    have hbracket : c ≠ '[' := ne_of_test hc (by decide)
    have hbrace : c ≠ '\x7b' := ne_of_test hc (by decide)
    have hread := readWord_append hword rest
    rw [hitem, Option.map_some, List.cons_append] at hread
    rw [List.cons_append, ← hread]
    unfold readValue
    rw [if_neg hquotes, if_neg hbracket, if_neg hbrace]

theorem spells_boolean (b : Bool) :
    Spells (if b then "true" else "false").toList (.boolean b) := by
  cases b with
  | false =>
      apply spells_of_word (List.all_eq_true.mp (by decide))
      · simp [ofWord?]
      · decide
  | true =>
      apply spells_of_word (List.all_eq_true.mp (by decide))
      · simp [ofWord?]
      · decide

theorem isPlain_of_isDigit {c : Char} (hc : c.isDigit = true) : isPlain c = true := by
  rw [isPlain, hc]
  rfl

theorem spells_natural {n : Nat} (hn : n < 0x8000000000000000) :
    Spells (toString n).toList (.integer n) := by
  have hwhole := whole_digitText n
  have hplain : ∀ c ∈ digitText n, isPlain c = true := fun c hc =>
    isPlain_of_isDigit (hwhole.digits c hc)
  have hvalue : integer? (digitText n) = some (n : Int) := by
    apply integer?_of_digits hwhole.digits
    · rw [hwhole.decimal?_eq, digitsValue_digitText]
    · exact hn
  have htext : (toString n).toList = digitText n := by
    rw [Nat.toString_eq_repr, Nat.toList_repr]
    rfl
  rw [htext]
  apply spells_of_word (fun c hc => isWordChar_of_isPlain (hplain c hc)) ?_ hwhole.nonempty
  obtain ⟨c, cs, hcons⟩ := List.exists_cons_of_ne_nil hwhole.nonempty
  rw [hcons] at hplain hvalue ⊢
  rw [ofWord?_of_isPlain (hplain c List.mem_cons_self), hvalue]

/-! ### Strings -/

/-- What may stand between double quotes as it is. -/
def isUnescaped (c : Char) : Bool := isPrintable c && c != '"' && c != '\\'

theorem readString_append {cs : List Char} (hcs : ∀ c ∈ cs, isUnescaped c = true)
    (rest : List Char) : ∀ {fuel : Nat} {done : List Char}, cs.length < fuel →
      readString '"' fuel done (cs ++ '"' :: rest) =
        some (String.ofList (done.reverse ++ cs), rest) := by
  induction cs with
  | nil =>
      intro fuel done hfuel
      obtain ⟨fuel, rfl⟩ := Nat.exists_eq_succ_of_ne_zero (Nat.ne_of_gt hfuel)
      rw [List.nil_append, List.append_nil, readString, if_pos rfl]
  | cons c cs ih =>
      intro fuel done hfuel
      obtain ⟨fuel, rfl⟩ := Nat.exists_eq_succ_of_ne_zero (Nat.ne_of_gt (Nat.zero_lt_of_lt hfuel))
      have hc := hcs c List.mem_cons_self
      simp only [isUnescaped, Bool.and_eq_true, bne_iff_ne] at hc
      obtain ⟨⟨hprintable, hquote⟩, hbackslash⟩ := hc
      rw [List.cons_append, readString, if_neg hquote, if_neg (by simp [hbackslash]),
        if_pos hprintable, ih (fun d hd => hcs d (List.mem_cons_of_mem c hd))
          (Nat.lt_of_succ_lt_succ hfuel)]
      rw [List.reverse_cons, List.append_assoc]
      rfl

/-- A string of one line. -/
theorem readAnyString_append {cs : List Char} (hcs : ∀ c ∈ cs, isUnescaped c = true)
    (rest : List Char) : readAnyString '"' (cs ++ '"' :: '\n' :: rest) =
      some (String.ofList cs, '\n' :: rest) := by
  have hread : readString '"' ((cs ++ '"' :: '\n' :: rest).length + 1) []
      (cs ++ '"' :: '\n' :: rest) = some (String.ofList cs, '\n' :: rest) := by
    apply readString_append hcs
    simp only [List.length_append]
    omega
  unfold readAnyString
  split
  · next a b r heq =>
      -- no more quotes follow, also where the string is empty
      have hquotes : ¬(a = '"' ∧ b = '"') := by
        rintro ⟨rfl, rfl⟩
        cases cs with
        | nil => cases heq
        | cons c cs =>
            obtain ⟨rfl, -⟩ := List.cons.inj heq
            exact absurd (hcs '"' List.mem_cons_self) (by decide)
      rw [if_neg hquotes]
      exact hread
  · exact hread

/-- A text in double quotes that needs no escapes. -/
theorem spells_quoted {s : String} (hs : s.toList.all isUnescaped = true) :
    Spells ("\"" ++ s ++ "\"").toList (.string s) := by
  have htext (rest : List Char) : ("\"" ++ s ++ "\"").toList ++ '\n' :: rest =
      '"' :: (s.toList ++ '"' :: '\n' :: rest) := by
    simp [String.toList_append]
  constructor
  · intro rest
    rw [htext, skipBlanks, List.dropWhile_cons_of_neg (by decide)]
  · intro fuel levels rest
    rw [htext]
    unfold readValue
    rw [if_pos (Or.inl rfl), readAnyString_append (List.all_eq_true.mp hs), String.ofList_toList]
    rfl

/-! ### Floats -/

/-- The text of a decimal with its point consists of digits that stand for it. -/
structure Points (d : Scaled) (whole fraction : List Char) : Prop where
  text : d.positionalText true = whole ++ '.' :: fraction
  isWhole : Whole whole
  digits : ∀ c ∈ fraction, c.isDigit = true
  nonempty : fraction ≠ []
  value : (digitsValue (whole ++ fraction) : ℚ) * 10 ^ (-fraction.length : Int) = d.size

section Points

variable {digits places : Nat} (hdigits : digits ≠ 0)

include hdigits

/-- A whole number gets its point. -/
theorem points_of_nonneg :
    Points ⟨digits, places⟩ (digitText digits ++ List.replicate places '0') ['0'] := by
  have h := spells_of_nonneg digits places
  constructor
  · unfold Scaled.positionalText
    dsimp only
    rw [if_pos (Int.natCast_nonneg places), Int.toNat_natCast]
    rfl
  · refine ⟨h.whole_digits, h.nonempty, fun _ => ?_⟩
    rw [List.head?_append_of_ne_nil _ (digitText_ne_nil digits)]
    exact head?_digitText hdigits
  · exact List.forall_mem_singleton.mpr rfl
  · exact List.cons_ne_nil _ _
  · rw [← h.value, List.append_nil]
    have hten := digitsValue_append_zeros (digitText digits ++ List.replicate places '0') 1
    rw [List.replicate_one] at hten
    rw [hten]
    push_cast
    simp

theorem points_of_lt (hpos : 0 < places) (h : places < (digitText digits).length) :
    Points ⟨digits, -places⟩ ((digitText digits).take ((digitText digits).length - places))
      ((digitText digits).drop ((digitText digits).length - places)) := by
  have hspells := spells_of_lt hpos h
  constructor
  · unfold Scaled.positionalText
    dsimp only
    rw [if_neg (by omega), Int.neg_neg, Int.toNat_natCast, if_pos h]
  · refine ⟨hspells.whole_digits, hspells.nonempty, fun _ => ?_⟩
    rw [List.head?_take, if_neg (by omega)]
    exact head?_digitText hdigits
  · exact hspells.fraction_digits
  · apply List.ne_nil_of_length_pos
    rw [List.length_drop]
    omega
  · exact hspells.value

omit hdigits in
theorem points_of_le (hpos : 0 < places) (h : (digitText digits).length ≤ places) :
    Points ⟨digits, -places⟩ ['0']
      (List.replicate (places - (digitText digits).length) '0' ++ digitText digits) := by
  have hspells := spells_of_le h
  constructor
  · unfold Scaled.positionalText
    dsimp only
    rw [if_neg (by omega), Int.neg_neg, Int.toNat_natCast, if_neg (Nat.not_lt.mpr h)]
    rfl
  · exact ⟨hspells.whole_digits, hspells.nonempty, fun hlong => absurd hlong (by decide)⟩
  · exact hspells.fraction_digits
  · simp [digitText_ne_nil]
  · exact hspells.value

end Points

theorem exists_points {d : Scaled} (hd : d.digits ≠ 0) :
    ∃ whole fraction, Points d whole fraction := by
  -- the point stands behind the digits, among them or before them
  obtain ⟨digits, exponent⟩ := d
  by_cases hwhole : 0 ≤ exponent
  · obtain ⟨places, rfl⟩ := Int.eq_ofNat_of_zero_le hwhole
    exact ⟨_, _, points_of_nonneg hd⟩
  · obtain ⟨places, rfl⟩ : ∃ places : Nat, exponent = -places := ⟨(-exponent).toNat, by omega⟩
    by_cases hplaces : places < (digitText digits).length
    · exact ⟨_, _, points_of_lt hd (by omega) hplaces⟩
    · exact ⟨_, _, points_of_le (by omega) (Nat.not_lt.mp hplaces)⟩

theorem digitsValue_digitText_append (whole fraction : List Char) :
    digitsValue (digitText (digitsValue whole) ++ fraction) = digitsValue (whole ++ fraction) := by
  show Nat.ofDigitChars 10 _ 0 = Nat.ofDigitChars 10 _ 0
  rw [Nat.ofDigitChars_append, Nat.ofDigitChars_append]
  congr 1
  exact digitsValue_digitText (digitsValue whole)

theorem decimalFloat?_append {whole fraction : List Char} (negative : Bool) (hwhole : Whole whole)
    (hfraction : ∀ c ∈ fraction, c.isDigit = true) (hne : fraction ≠ []) :
    decimalFloat? negative (whole ++ '.' :: fraction) =
      some ⟨negative, digitsValue (whole ++ fraction), -fraction.length⟩ := by
  let isMark (c : Char) : Bool := c = '.' || c = 'e' || c = 'E'
  have hmark {c : Char} (hc : c.isDigit = true) : (!isMark c) = true := by
    have hpoint : c ≠ '.' := ne_of_test hc (by decide)
    have hsmall : c ≠ 'e' := ne_of_test hc (by decide)
    have hlarge : c ≠ 'E' := ne_of_test hc (by decide)
    simp [isMark, hpoint, hsmall, hlarge]
  have htake : (whole ++ '.' :: fraction).takeWhile (fun c => !isMark c) = whole := by
    rw [List.takeWhile_append_of_pos fun c hc => hmark (hwhole.digits c hc),
      List.takeWhile_cons_of_neg (by decide), List.append_nil]
  have hdrop : (whole ++ '.' :: fraction).dropWhile (fun c => !isMark c) = '.' :: fraction := by
    rw [List.dropWhile_append_of_pos fun c hc => hmark (hwhole.digits c hc),
      List.dropWhile_cons_of_neg (by decide)]
  have hall : fraction.takeWhile (fun c => !isMark c) = fraction :=
    List.takeWhile_eq_self_iff.mpr fun c hc => hmark (hfraction c hc)
  have hnone : fraction.dropWhile (fun c => !isMark c) = [] :=
    List.dropWhile_eq_nil_iff.mpr fun c hc => hmark (hfraction c hc)
  have hgroups := digitGroups?_eq_some (by decide) hfraction hne
  unfold decimalFloat?
  simp only [isMark] at htake hdrop hall hnone
  simp only [htake, hdrop, hall, hnone, hwhole.decimal?_eq, hgroups, Option.bind_eq_bind,
    Option.bind_some]
  rw [digitsValue_digitText_append, zero_sub]
  rfl

theorem float?_signedText {negative : Bool} {c : Char} {cs : List Char} {n : Numeral}
    (hc : c.isDigit = true) (h : decimalFloat? negative (c :: cs) = some n)
    (hn : n.toFloat.isFinite) : float? (signedText negative (c :: cs)) = some n.toFloat := by
  unfold float?
  rw [spanSign_signedText negative hc]
  dsimp only
  split
  · next hname =>
      cases (head?_of_ofList_eq hname : some 'i' = some c)
      cases hc
  · next hname =>
      cases (head?_of_ofList_eq hname : some 'n' = some c)
      cases hc
  · rw [h]
    dsimp only
    rw [if_neg]
    simp [not_isInf_of_isFinite hn]

theorem spells_of_float? {cs : List Char} {x : Float} (hplain : ∀ c ∈ cs, isPlain c = true)
    (hpoint : '.' ∈ cs) (h : float? cs = some x) : Spells cs (.float x) := by
  apply spells_of_word (fun c hc => isWordChar_of_isPlain (hplain c hc)) ?_
    (List.ne_nil_of_mem hpoint)
  have hinteger := integer?_eq_none hplain hpoint
  obtain ⟨c, cs, rfl⟩ := List.exists_cons_of_ne_nil (List.ne_nil_of_mem hpoint)
  rw [ofWord?_of_isPlain (hplain c List.mem_cons_self), hinteger, h]

/-- The text of a decimal is read as the nearest float. -/
theorem Points.spells {d : Scaled} {whole fraction : List Char} (h : Points d whole fraction)
    {negative : Bool} {x : Float} (hx : x.isFinite)
    (hnearest : (⟨negative, digitsValue (whole ++ fraction), -fraction.length⟩ : Numeral).toFloat =
      x) : Spells (signedText negative (whole ++ '.' :: fraction)) (.float x) := by
  have hplain : ∀ c ∈ whole ++ '.' :: fraction, isPlain c = true := by
    intro c hc
    rcases List.mem_append.mp hc with hc | hc
    · exact isPlain_of_isDigit (h.isWhole.digits c hc)
    · rcases List.mem_cons.mp hc with rfl | hc
      · rfl
      · exact isPlain_of_isDigit (h.digits c hc)
  apply spells_of_float?
  · unfold signedText
    split
    · exact List.forall_mem_cons.mpr ⟨rfl, hplain⟩
    · exact hplain
  · unfold signedText
    split <;> simp
  · have hread := decimalFloat?_append negative h.isWhole h.digits h.nonempty
    obtain ⟨c, cs, rfl⟩ := List.exists_cons_of_ne_nil h.isWhole.nonempty
    subst hnearest
    exact float?_signedText (h.isWhole.digits c List.mem_cons_self) hread hx

open Config (floatLayout)

/-- **Every finite float**, written without exponent, is read as the same float. -/
theorem spells_float {x : Float} (hx : x.isFinite) :
    Spells (floatLayout.text x).toList (.float x) := by
  -- zero has no shortest decimal that rounding could lead back from
  rcases eq_zero_or_unpack_eq hx with (rfl | rfl) | ⟨s, m, e, hm, hunpack, hcanonical⟩
  · exact spells_of_float? (List.all_eq_true.mp (by decide +kernel)) (by decide +kernel)
      (by decide +kernel)
  · exact spells_of_float? (List.all_eq_true.mp (by decide +kernel)) (by decide +kernel)
      (by decide +kernel)
  · have hdigits : ((Magnitude.ofFloat x).shortest .up).digits ≠ 0 := by
      rw [(ofFloat_of_unpack hunpack).1]
      let d := Magnitude.shortest ⟨m, e⟩ .up
      have hpositive : Canonical (.finite .positive m e hm) := hcanonical
      have hnearest : NearestTo m e (⟨false, d.digits, d.exponent⟩ : Numeral).size :=
        Magnitude.nearestTo_shortest (v := ⟨m, e⟩) .up hm hcanonical.2.2.1
      exact digits_ne_zero hpositive hnearest
    obtain ⟨whole, fraction, h⟩ := exists_points hdigits
    have htext : (floatLayout.text x).toList =
        signedText (isNegative x) (whole ++ '.' :: fraction) :=
      (Layout.toList_text rfl hx).trans (congrArg (signedText (isNegative x)) h.text)
    rw [htext]
    exact h.spells hx (toFloat_eq_of_size_eq hunpack hcanonical rfl h.value)

end Gazetteer.Toml
