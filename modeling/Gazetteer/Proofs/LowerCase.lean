import Gazetteer.Lookup.Predicate
import Mathlib.Data.List.TakeWhile
import Mathlib.Tactic.ByContra

/-!
# Lookups that ignore case

Lower case goes character by character, but for the capital sigma, whose form depends on what
stands around it. A piece of a text is therefore not always in the same lower case as it is on its
own: `lowercase_piece_iff` says when it is. A text that a lookup finds is found by the lookup that
ignores case as well, except where the word at one of its ends goes on beyond it and a sigma there
takes another form (`Lookup.caseless_laws`).
-/

namespace Gazetteer

namespace Text

/-! ## Pieces of a text -/

/-- Whether a capital sigma stands at the end of a word; the characters before it come nearest
first. -/
def endsWord (before after : List Char) : Bool := meetsCased before && !meetsCased after

/-- The lower case of a character between others. -/
def lowercaseAt (before : List Char) (c : Char) (after : List Char) : List Char :=
  if c = capitalSigma then [if endsWord before after then finalSigma else smallSigma]
  else lowercaseChar c

/-- The lower case of a piece of text between others. -/
def lowercaseBetween (before : List Char) : List Char → List Char → List Char
  | [], _ => []
  | c :: cs, after =>
    lowercaseAt before c (cs ++ after) ++ lowercaseBetween (c :: before) cs after

section

variable {before before' cs after after' : List Char}

theorem lowercaseFrom_append (before cs after : List Char) :
    lowercaseFrom before (cs ++ after) =
      lowercaseBetween before cs after ++ lowercaseFrom (cs.reverse ++ before) after := by
  induction cs generalizing before with
  | nil => rfl
  | cons c cs ih =>
      rw [List.cons_append, lowercaseFrom, ih, lowercaseBetween, List.append_assoc,
        List.reverse_cons, List.append_assoc]
      rfl

theorem lowercaseFrom_eq (before cs : List Char) :
    lowercaseFrom before cs = lowercaseBetween before cs [] := by
  have happend := lowercaseFrom_append before cs []
  rwa [List.append_nil, lowercaseFrom, List.append_nil] at happend

theorem length_lowercaseAt (before before' after after' : List Char) (c : Char) :
    (lowercaseAt before c after).length = (lowercaseAt before' c after').length := by
  unfold lowercaseAt
  split <;> rfl

/-- What stands around a piece of text does not change how long its lower case is. -/
theorem length_lowercaseBetween (before before' cs after after' : List Char) :
    (lowercaseBetween before cs after).length = (lowercaseBetween before' cs after').length := by
  induction cs generalizing before before' with
  | nil => rfl
  | cons c cs ih =>
      rw [lowercaseBetween, lowercaseBetween, List.length_append, List.length_append,
        length_lowercaseAt before before' _ (cs ++ after'), ih (c :: before) (c :: before')]

theorem lowercaseAt_eq_iff {c : Char} :
    lowercaseAt before c after = lowercaseAt before' c after' ↔
      (c = capitalSigma → endsWord before after = endsWord before' after') := by
  unfold lowercaseAt
  split
  case isTrue h =>
    have hforms : finalSigma ≠ smallSigma := by decide
    cases endsWord before after <;> cases endsWord before' after' <;>
      simp [h, hforms, hforms.symm]
  case isFalse h => exact iff_of_true rfl fun hc => absurd hc h

/-- The lower case of a piece is the same in two places if its capital sigmas end a word in the one
exactly if they do in the other. -/
theorem lowercaseBetween_eq_iff :
    lowercaseBetween before cs after = lowercaseBetween before' cs after' ↔
      ∀ u w, cs = u ++ capitalSigma :: w →
        endsWord (u.reverse ++ before) (w ++ after) =
          endsWord (u.reverse ++ before') (w ++ after') := by
  induction cs generalizing before before' with
  | nil => exact iff_of_true rfl fun u w h => absurd h (by simp)
  | cons c cs ih =>
      have hlength := length_lowercaseAt before before' (cs ++ after) (cs ++ after') c
      rw [lowercaseBetween, lowercaseBetween, List.append_eq_append_iff_of_size_eq_left hlength,
        lowercaseAt_eq_iff, ih]
      constructor
      · rintro ⟨hhead, htail⟩ u w h
        cases u with
        | nil =>
            obtain ⟨rfl, rfl⟩ := List.cons.inj h
            exact hhead rfl
        | cons d u =>
            obtain ⟨rfl, rfl⟩ := List.cons.inj h
            simpa only [List.reverse_cons, List.append_assoc, List.singleton_append]
              using htail u w rfl
      · intro h
        refine ⟨fun hc => h [] cs (congrArg (· :: cs) hc), fun u w hcs => ?_⟩
        simpa only [List.reverse_cons, List.append_assoc, List.singleton_append]
          using h (c :: u) w (congrArg (c :: ·) hcs)

end

/-! ## Words at the ends of a piece -/

/-- Characters that are skipped when looking for the end of a word. -/
def Skipped (cs : List Char) : Prop := ∀ c ∈ cs, caseIgnorable.contains c = true

/-- The piece ends in a capital sigma at the end of a word, which goes on in the text after it. -/
def GoesOn (piece after : List Char) : Prop :=
  ∃ u w, piece = u ++ capitalSigma :: w ∧ meetsCased u.reverse = true ∧ Skipped w ∧
    meetsCased after = true

/-- The piece begins with a capital sigma, which ends a word of the text before it. -/
def Concludes (before piece after : List Char) : Prop :=
  ∃ u w, piece = u ++ capitalSigma :: w ∧ Skipped u ∧ meetsCased before.reverse = true ∧
    meetsCased (w ++ after) = false

section

variable {p t r u w : List Char}

theorem meetsCased_append_of_skipped (h : Skipped u) (w : List Char) :
    meetsCased (u ++ w) = meetsCased w := by
  unfold meetsCased
  rw [List.dropWhile_append_of_pos h]

theorem meetsCased_append_of_not_skipped (h : ¬Skipped u) (w : List Char) :
    meetsCased (u ++ w) = meetsCased u := by
  obtain ⟨c, r, hdrop⟩ : ∃ c r, u.dropWhile caseIgnorable.contains = c :: r := by
    refine List.exists_cons_of_ne_nil fun hnil => h ?_
    exact List.dropWhile_eq_nil_iff.mp hnil
  unfold meetsCased
  rw [List.dropWhile_append, hdrop]
  rfl

theorem meetsCased_of_skipped (h : Skipped u) : meetsCased u = false := by
  have hempty := meetsCased_append_of_skipped h []
  rwa [List.append_nil] at hempty

theorem skipped_reverse : Skipped u.reverse ↔ Skipped u := by
  simp only [Skipped, List.mem_reverse]

/-- A capital sigma takes another form in a text than in a piece of it if a word that ends with it
goes on after the piece, or if a word from before the piece ends with it. -/
theorem endsWord_ne_iff :
    endsWord (u.reverse ++ p.reverse) (w ++ r) ≠ endsWord u.reverse w ↔
      meetsCased u.reverse = true ∧ Skipped w ∧ meetsCased r = true ∨
        Skipped u ∧ meetsCased p.reverse = true ∧ meetsCased (w ++ r) = false := by
  unfold endsWord
  by_cases hu : Skipped u <;> by_cases hw : Skipped w
  · have hu' := skipped_reverse.mpr hu
    simp [meetsCased_append_of_skipped hu', meetsCased_append_of_skipped hw,
      meetsCased_of_skipped hu', hu]
  · have hu' := skipped_reverse.mpr hu
    simp [meetsCased_append_of_skipped hu', meetsCased_append_of_not_skipped hw,
      meetsCased_of_skipped hu', hu, hw]
  · have hu' := skipped_reverse.not.mpr hu
    simp [meetsCased_append_of_not_skipped hu', meetsCased_append_of_skipped hw,
      meetsCased_of_skipped hw, hu, hw]
  · have hu' := skipped_reverse.not.mpr hu
    simp [meetsCased_append_of_not_skipped hu', meetsCased_append_of_not_skipped hw, hu, hw]

/-- A piece of a text is in the same lower case as on its own, unless a word at one of its ends goes
on and a capital sigma is what it ends or begins with there. -/
theorem lowercase_piece_iff :
    lowercaseBetween p.reverse t r = lowercaseFrom [] t ↔ ¬(GoesOn t r ∨ Concludes p t r) := by
  rw [lowercaseFrom_eq, lowercaseBetween_eq_iff]
  simp only [List.append_nil]
  constructor
  · rintro h (⟨u, w, rfl, hgoesOn⟩ | ⟨u, w, rfl, hconcludes⟩)
    · exact endsWord_ne_iff.mpr (Or.inl hgoesOn) (h u w rfl)
    · exact endsWord_ne_iff.mpr (Or.inr hconcludes) (h u w rfl)
  · intro h u w ht
    by_contra hne
    rcases endsWord_ne_iff.mp hne with hgoesOn | hconcludes
    · exact h (Or.inl ⟨u, w, ht, hgoesOn⟩)
    · exact h (Or.inr ⟨u, w, ht, hconcludes⟩)

theorem meetsCased_cons {c : Char} (hcased : cased.contains c = true)
    (hcounts : caseIgnorable.contains c = false) (cs : List Char) :
    meetsCased (c :: cs) = true := by
  unfold meetsCased
  rw [List.dropWhile_cons_of_neg (by simp [hcounts])]
  exact hcased

theorem not_concludes_nil : ¬Concludes [] t r := by
  rintro ⟨u, w, -, -, hmeets, -⟩
  cases hmeets

theorem not_goesOn_nil : ¬GoesOn t [] := by
  rintro ⟨u, w, -, -, -, hmeets⟩
  cases hmeets

theorem GoesOn.mem (h : GoesOn t r) : capitalSigma ∈ t := by
  obtain ⟨u, w, rfl, -⟩ := h
  exact List.mem_append_right u List.mem_cons_self

theorem Concludes.mem (h : Concludes p t r) : capitalSigma ∈ t := by
  obtain ⟨u, w, rfl, -⟩ := h
  exact List.mem_append_right u List.mem_cons_self

/-! ## The front, the end and the inside of a text -/

theorem lowercase_prefix_iff :
    lowercaseFrom [] t <+: lowercaseFrom [] (t ++ r) ↔ ¬GoesOn t r := by
  have hlength : (lowercaseFrom [] t).length = (lowercaseBetween [] t r).length := by
    rw [lowercaseFrom_eq, length_lowercaseBetween]
  have hpiece : lowercaseBetween [] t r = lowercaseFrom [] t ↔ ¬GoesOn t r := by
    have hiff := lowercase_piece_iff (p := []) (t := t) (r := r)
    rwa [or_iff_left not_concludes_nil] at hiff
  rw [← hpiece, lowercaseFrom_append]
  constructor
  · intro h
    have hpiece := List.prefix_of_prefix_length_le h (List.prefix_append _ _) hlength.le
    exact (hpiece.eq_of_length hlength).symm
  · intro h
    rw [h]
    exact List.prefix_append _ _

theorem lowercase_suffix_iff :
    lowercaseFrom [] t <:+ lowercaseFrom [] (p ++ t) ↔ ¬Concludes p t [] := by
  have hlength : (lowercaseFrom [] t).length = (lowercaseBetween p.reverse t []).length := by
    rw [lowercaseFrom_eq, length_lowercaseBetween]
  have hpiece : lowercaseBetween p.reverse t [] = lowercaseFrom [] t ↔ ¬Concludes p t [] := by
    have hiff := lowercase_piece_iff (p := p) (t := t) (r := [])
    rwa [or_iff_right not_goesOn_nil] at hiff
  rw [← hpiece, lowercaseFrom_append, List.append_nil, lowercaseFrom_eq p.reverse]
  constructor
  · intro h
    have hpiece := List.suffix_of_suffix_length_le h (List.suffix_append _ _) hlength.le
    exact (hpiece.eq_of_length hlength).symm
  · intro h
    rw [h]
    exact List.suffix_append _ _

theorem lowercase_infix (hgoesOn : ¬GoesOn t r) (hconcludes : ¬Concludes p t r) :
    lowercaseFrom [] t <:+: lowercaseFrom [] (p ++ t ++ r) := by
  have hpiece := lowercase_piece_iff.mpr (not_or.mpr ⟨hgoesOn, hconcludes⟩)
  refine ⟨lowercaseBetween [] p (t ++ r), lowercaseFrom (t.reverse ++ p.reverse) r, ?_⟩
  rw [← hpiece, List.append_assoc p, lowercaseFrom_append [] p, lowercaseFrom_append,
    List.append_nil, List.append_assoc]

theorem toList_lowercase (s : String) : (lowercase s).toList = lowercaseFrom [] s.toList :=
  String.toList_ofList

theorem occursIn_iff {cs : List Char} : occursIn t cs = true ↔ t <:+: cs := by
  induction cs with
  | nil => rw [occursIn, List.isEmpty_iff, List.infix_nil]
  | cons c cs ih =>
      rw [occursIn, Bool.or_eq_true, List.isPrefixOf_iff_prefix, ih, List.infix_cons_iff]

end

end Text

namespace Lookup

open Text

/-! ## Finding texts -/

/-- The lookup of a name, made for a text, finds another text. -/
def Finds (key : String) (name : LookupName) (t s : String) : Prop :=
  ∃ l, make key (.string t) name = .ok l ∧ l.holds (.string s) = true

section Finds

variable {key s t : String}

theorem finds_iff {name : LookupName} {l : Lookup} (h : make key (.string t) name = .ok l) :
    Finds key name t s ↔ l.holds (.string s) = true := by
  constructor
  · rintro ⟨l', hmake, hholds⟩
    obtain rfl := Except.ok.inj (h.symm.trans hmake)
    exact hholds
  · exact fun hholds => ⟨l, h, hholds⟩

theorem finds_exact_iff : Finds key .exact t s ↔ s = t := by
  rw [finds_iff rfl]
  exact beq_iff_eq

theorem finds_iexact_iff : Finds key .iexact t s ↔ lowercase s = lowercase t := by
  rw [finds_iff rfl]
  exact beq_iff_eq

theorem finds_startswith_iff : Finds key .startswith t s ↔ t.toList <+: s.toList := by
  rw [finds_iff rfl]
  exact List.isPrefixOf_iff_prefix

theorem finds_istartswith_iff :
    Finds key .istartswith t s ↔ lowercaseFrom [] t.toList <+: lowercaseFrom [] s.toList := by
  rw [finds_iff rfl, ← toList_lowercase, ← toList_lowercase]
  exact List.isPrefixOf_iff_prefix

theorem finds_endswith_iff : Finds key .endswith t s ↔ t.toList <:+ s.toList := by
  rw [finds_iff rfl]
  exact List.isSuffixOf_iff_suffix

theorem finds_iendswith_iff :
    Finds key .iendswith t s ↔ lowercaseFrom [] t.toList <:+ lowercaseFrom [] s.toList := by
  rw [finds_iff rfl, ← toList_lowercase, ← toList_lowercase]
  exact List.isSuffixOf_iff_suffix

theorem finds_contains_iff : Finds key .contains t s ↔ t.toList <:+: s.toList := by
  rw [finds_iff rfl]
  exact occursIn_iff

theorem finds_icontains_iff :
    Finds key .icontains t s ↔ lowercaseFrom [] t.toList <:+: lowercaseFrom [] s.toList := by
  rw [finds_iff rfl, ← toList_lowercase, ← toList_lowercase]
  exact occursIn_iff

/-- What starts with a text does so without regard to case, unless the last word goes on. -/
theorem startswith_widens_iff : (Finds key .startswith t s → Finds key .istartswith t s) ↔
    ∀ r, s.toList = t.toList ++ r → ¬GoesOn t.toList r := by
  rw [finds_startswith_iff, finds_istartswith_iff]
  constructor
  · intro h r hs
    have hlower := h ⟨r, hs.symm⟩
    rwa [hs, lowercase_prefix_iff] at hlower
  · rintro h ⟨r, hs⟩
    rw [← hs]
    exact lowercase_prefix_iff.mpr (h r hs.symm)

/-- What ends with a text does so without regard to case, unless the first word began before. -/
theorem endswith_widens_iff : (Finds key .endswith t s → Finds key .iendswith t s) ↔
    ∀ p, s.toList = p ++ t.toList → ¬Concludes p t.toList [] := by
  rw [finds_endswith_iff, finds_iendswith_iff]
  constructor
  · intro h p hs
    have hlower := h ⟨p, hs.symm⟩
    rwa [hs, lowercase_suffix_iff] at hlower
  · rintro h ⟨p, hs⟩
    rw [← hs]
    exact lowercase_suffix_iff.mpr (h p hs.symm)

theorem finds_icontains {p r : List Char} (hs : s.toList = p ++ t.toList ++ r)
    (hgoesOn : ¬GoesOn t.toList r) (hconcludes : ¬Concludes p t.toList r) :
    Finds key .icontains t s := by
  rw [finds_icontains_iff, hs]
  exact lowercase_infix hgoesOn hconcludes

end Finds

/-- **Ignoring case widens a text lookup unless a word goes on beyond the text looked up.** What is
equal to a text is so without regard to case. What starts with a text does so without regard to case
unless the text ends in a capital sigma of a word that goes on after it, and what ends with a text
unless that begins with a capital sigma of a word that began before it; what contains a text does so
without regard to case unless everywhere it stands one or the other is the case. A text without a
capital sigma is found by a lookup that ignores case wherever the plain lookup finds it. -/
theorem caseless_laws (key s t : String) :
    (Finds key .exact t s → Finds key .iexact t s) ∧
    ((Finds key .startswith t s → Finds key .istartswith t s) ↔
      ∀ r, s.toList = t.toList ++ r → ¬GoesOn t.toList r) ∧
    ((Finds key .endswith t s → Finds key .iendswith t s) ↔
      ∀ p, s.toList = p ++ t.toList → ¬Concludes p t.toList []) ∧
    (Finds key .contains t s → Finds key .icontains t s ∨
      ∀ p r, s.toList = p ++ t.toList ++ r → GoesOn t.toList r ∨ Concludes p t.toList r) ∧
    (capitalSigma ∉ t.toList →
      (Finds key .startswith t s → Finds key .istartswith t s) ∧
      (Finds key .endswith t s → Finds key .iendswith t s) ∧
      (Finds key .contains t s → Finds key .icontains t s)) := by
  refine ⟨?_, startswith_widens_iff, endswith_widens_iff, ?_, fun hsigma => ⟨?_, ?_, ?_⟩⟩
  · rw [finds_exact_iff, finds_iexact_iff]
    exact congrArg lowercase
  · intro _
    by_contra! h
    obtain ⟨hicontains, p, r, hs, hgoesOn, hconcludes⟩ := h
    exact hicontains (finds_icontains hs hgoesOn hconcludes)
  · exact startswith_widens_iff.mpr fun r _ h => hsigma h.mem
  · exact endswith_widens_iff.mpr fun p _ h => hsigma h.mem
  · rw [finds_contains_iff]
    rintro ⟨p, r, hs⟩
    exact finds_icontains hs.symm (fun h => hsigma h.mem) fun h => hsigma h.mem

/-- With a capital sigma ignoring case does narrow, whatever the letter beside it: the letter and the
sigma are the front of a word that goes on with the letter only as long as case counts, and so is
the sigma the end of the two. -/
theorem caseless_narrows (key : String) {c : Char} (hcased : cased.contains c = true)
    (hcounts : caseIgnorable.contains c = false) :
    let sigma := String.ofList [capitalSigma]
    let front := String.ofList [c, capitalSigma]
    let word := String.ofList [c, capitalSigma, c]
    (Finds key .startswith front word ∧ ¬Finds key .istartswith front word) ∧
    (Finds key .endswith sigma front ∧ ¬Finds key .iendswith sigma front) := by
  intro sigma front word
  have hmeets : meetsCased [c] = true := meetsCased_cons hcased hcounts []
  have hgoesOn : GoesOn front.toList [c] := by
    rw [String.toList_ofList]
    exact ⟨[c], [], rfl, hmeets, nofun, hmeets⟩
  have hconcludes : Concludes [c] sigma.toList [] := by
    rw [String.toList_ofList]
    exact ⟨[], [], rfl, nofun, hmeets, rfl⟩
  have hword : word.toList = front.toList ++ [c] := by
    simp only [word, front, String.toList_ofList, List.cons_append, List.nil_append]
  have hfront : front.toList = [c] ++ sigma.toList := by
    simp only [front, sigma, String.toList_ofList, List.cons_append, List.nil_append]
  have hstarts : Finds key .startswith front word := finds_startswith_iff.mpr ⟨[c], hword.symm⟩
  have hends : Finds key .endswith sigma front := finds_endswith_iff.mpr ⟨[c], hfront.symm⟩
  refine ⟨⟨hstarts, fun h => ?_⟩, hends, fun h => ?_⟩
  · exact startswith_widens_iff.mp (fun _ => h) [c] hword hgoesOn
  · exact endswith_widens_iff.mp (fun _ => h) [c] hfront hconcludes

end Lookup

end Gazetteer
