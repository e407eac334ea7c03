import Gazetteer.Text.Split

/-!
# Splitting and joining texts

What is joined with a character and has none of it inside is split up again as it was
(`Text.splitAt_joinWith`). For doubled separators the pieces must also not run into the separators:
a piece that ends in half of one would have the cut made too early. So the lemmas on
`Text.splitAtDouble` ask for pieces that are `Undoubled` and do not end in the character.
-/

namespace Gazetteer.Text

variable {sep mid : Char}

/-! ## Single separators -/

theorem splitAt_eq_splitOn (sep : Char) (cs : List Char) : splitAt sep cs = cs.splitOn sep := by
  induction cs with
  | nil => rfl
  | cons c cs ih =>
      rw [splitAt, ih]
      simp only [List.splitOn_eq_splitOnP, List.splitOnP_cons_eq_if_modifyHead, beq_iff_eq]
      cases hcs : cs.splitOnP (· == sep) with
      | nil => exact absurd hcs (List.splitOnP_ne_nil _ _)
      | cons p ps => rfl

theorem joinWith_eq_intercalate (sep : Char) (ps : List (List Char)) :
    joinWith sep ps = [sep].intercalate ps := by
  induction ps with
  | nil => rfl
  | cons p ps ih =>
      cases ps with
      | nil => simp [joinWith]
      | cons q ps => rw [joinWith, ih, List.intercalate_cons_cons, List.append_assoc]; rfl

theorem joinWith_cons {ps : List (List Char)} (hps : ps ≠ []) (sep : Char) (p : List Char) :
    joinWith sep (p :: ps) = p ++ sep :: joinWith sep ps := by
  cases ps with
  | nil => exact absurd rfl hps
  | cons q ps => rfl

/-- Pieces without the separator are found again between the separators. -/
theorem splitAt_joinWith {ps : List (List Char)} (h : ∀ p ∈ ps, sep ∉ p) (hps : ps ≠ []) :
    splitAt sep (joinWith sep ps) = ps := by
  rw [splitAt_eq_splitOn, joinWith_eq_intercalate]
  exact List.splitOn_intercalate sep h hps

theorem joinWith_splitAt (sep : Char) (cs : List Char) : joinWith sep (splitAt sep cs) = cs := by
  rw [splitAt_eq_splitOn, joinWith_eq_intercalate]
  exact List.intercalate_splitOn sep

theorem not_mem_of_mem_splitAt {p cs : List Char} (h : p ∈ splitAt sep cs) : sep ∉ p := by
  induction cs generalizing p with
  | nil =>
      obtain rfl := List.mem_singleton.mp h
      exact List.not_mem_nil
  | cons c cs ih =>
      rw [splitAt] at h
      by_cases hc : c = sep
      · rw [if_pos hc] at h
        rcases List.mem_cons.mp h with rfl | hp
        · exact List.not_mem_nil
        · exact ih hp
      · rw [if_neg hc] at h
        cases hcs : splitAt sep cs with
        | nil => exact absurd hcs (splitAt_ne_nil sep cs)
        | cons q qs =>
            rw [hcs] at h ih
            rcases List.mem_cons.mp h with rfl | hp
            · rw [List.mem_cons, not_or]
              exact ⟨Ne.symm hc, ih List.mem_cons_self⟩
            · exact ih (List.mem_cons_of_mem q hp)

theorem infix_joinWith {p : List Char} {ps : List (List Char)} (sep : Char) (h : p ∈ ps) :
    p <:+: joinWith sep ps := by
  induction ps with
  | nil => cases h
  | cons q ps ih =>
      cases ps with
      | nil =>
          obtain rfl := List.mem_singleton.mp h
          exact List.infix_rfl
      | cons r ps =>
          rw [joinWith]
          rcases List.mem_cons.mp h with rfl | hp
          · exact (List.prefix_append _ _).isInfix
          · exact (ih hp).trans ((List.suffix_cons _ _).trans (List.suffix_append _ _)).isInfix

/-! ## Doubled separators -/

/-- The character does not stand twice in a row. -/
def Undoubled (sep : Char) (cs : List Char) : Prop := ¬[sep, sep] <:+: cs

@[simp] theorem undoubled_nil : Undoubled sep [] := by
  intro h
  cases List.infix_nil.mp h

@[simp] theorem undoubled_singleton (c : Char) : Undoubled sep [c] := by
  intro h
  have hlength := h.length_le
  simp at hlength

theorem undoubled_cons_cons {c d : Char} {cs : List Char} :
    Undoubled sep (c :: d :: cs) ↔ ¬(c = sep ∧ d = sep) ∧ Undoubled sep (d :: cs) := by
  rw [Undoubled, List.infix_cons_iff, not_or, List.cons_prefix_cons, List.cons_prefix_cons]
  simp only [List.nil_prefix, and_true, eq_comm (a := sep)]
  rfl

theorem undoubled_cons {c : Char} {cs : List Char} (hc : c ≠ sep) (hcs : Undoubled sep cs) :
    Undoubled sep (c :: cs) := by
  cases cs with
  | nil => exact undoubled_singleton c
  | cons d cs => exact undoubled_cons_cons.mpr ⟨fun h => hc h.1, hcs⟩

/-- Another character in between doubles nothing. -/
theorem undoubled_append_cons {p q : List Char} (hmid : mid ≠ sep) (hp : Undoubled sep p)
    (hq : Undoubled sep q) : Undoubled sep (p ++ mid :: q) := by
  have hmq : Undoubled sep (mid :: q) := undoubled_cons hmid hq
  induction p with
  | nil => exact hmq
  | cons c p ih =>
      cases p with
      | nil => exact undoubled_cons_cons.mpr ⟨fun h => hmid h.2, hmq⟩
      | cons d p =>
          obtain ⟨hcd, hp⟩ := undoubled_cons_cons.mp hp
          exact undoubled_cons_cons.mpr ⟨hcd, ih hp⟩

theorem undoubled_joinWith {ps : List (List Char)} (hmid : mid ≠ sep)
    (h : ∀ p ∈ ps, Undoubled sep p) : Undoubled sep (joinWith mid ps) := by
  induction ps with
  | nil => exact undoubled_nil
  | cons p ps ih =>
      obtain ⟨hp, hps⟩ := List.forall_mem_cons.mp h
      cases ps with
      | nil => exact hp
      | cons q ps => exact undoubled_append_cons hmid hp (ih hps)

theorem splitAtDouble_cons {c : Char} {cs : List Char} (hc : c ≠ sep) :
    splitAtDouble sep (c :: cs) = consFirst c (splitAtDouble sep cs) := by
  cases cs with
  | nil => rfl
  | cons d cs => rw [splitAtDouble, if_neg fun h => hc h.1]

theorem consFirst_append {ps : List (List Char)} (hps : ps ≠ []) (c : Char)
    (qs : List (List Char)) : consFirst c (ps ++ qs) = consFirst c ps ++ qs := by
  cases ps with
  | nil => exact absurd rfl hps
  | cons p ps => rfl

/-- A doubled separator makes a cut, unless its first half goes with a character before it. -/
theorem splitAtDouble_append {cs : List Char} (h : ¬[sep] <:+ cs) (r : List Char) :
    splitAtDouble sep (cs ++ sep :: sep :: r) = splitAtDouble sep cs ++ splitAtDouble sep r := by
  fun_induction splitAtDouble sep cs with
  | case1 => simp [splitAtDouble]
  | case2 c =>
      have hc : c ≠ sep := by
        rintro rfl
        exact h List.suffix_rfl
      rw [List.singleton_append, splitAtDouble_cons hc]
      simp [splitAtDouble, consFirst]
  | case3 c d cs hcd ih =>
      -- the text goes on after this cut, or it would end in the separator
      obtain ⟨rfl, rfl⟩ := hcd
      have hcs : ¬[d] <:+ cs := fun hs => h (hs.trans ⟨[d, d], rfl⟩)
      rw [List.cons_append, List.cons_append, splitAtDouble, if_pos ⟨rfl, rfl⟩, ih hcs,
        List.cons_append]
  | case4 c d cs hcd ih =>
      have hcs : ¬[sep] <:+ d :: cs := fun hs => h (hs.trans (List.suffix_cons c _))
      rw [List.cons_append, List.cons_append, splitAtDouble, if_neg hcd, ← List.cons_append, ih hcs,
        consFirst_append (splitAtDouble_ne_nil _ _)]

/-- Only a text without doubled separators is a single piece. -/
theorem splitAtDouble_eq_singleton_iff {cs p : List Char} :
    splitAtDouble sep cs = [p] ↔ Undoubled sep cs ∧ cs = p := by
  fun_induction splitAtDouble sep cs generalizing p with
  | case1 => simp
  | case2 c => simp
  | case3 c d cs hcd ih =>
      refine iff_of_false (fun h => ?_) fun h => (undoubled_cons_cons.mp h.1).1 hcd
      exact splitAtDouble_ne_nil sep cs (List.cons.inj h).2
  | case4 c d cs hcd ih =>
      rw [undoubled_cons_cons, and_iff_right hcd]
      cases hcs : splitAtDouble sep (d :: cs) with
      | nil => exact absurd hcs (splitAtDouble_ne_nil sep _)
      | cons q qs =>
          rw [hcs] at ih
          constructor
          · intro h
            obtain ⟨rfl, rfl⟩ := List.cons.inj h
            obtain ⟨hundoubled, rfl⟩ := ih.mp rfl
            exact ⟨hundoubled, rfl⟩
          · rintro ⟨hundoubled, rfl⟩
            obtain ⟨rfl, rfl⟩ := List.cons.inj (ih.mpr ⟨hundoubled, rfl⟩)
            rfl

instance (sep : Char) (cs : List Char) : Decidable (Undoubled sep cs) :=
  decidable_of_iff (splitAtDouble sep cs = [cs]) (splitAtDouble_eq_singleton_iff.trans (by simp))

theorem prefix_of_splitAtDouble {cs p : List Char} {ps : List (List Char)}
    (h : splitAtDouble sep cs = p :: ps) : p <+: cs := by
  fun_induction splitAtDouble sep cs generalizing p ps with
  | case1 => exact (List.cons.inj h).1 ▸ List.prefix_rfl
  | case2 c => exact (List.cons.inj h).1 ▸ List.prefix_rfl
  | case3 c d cs hcd ih => exact (List.cons.inj h).1 ▸ List.nil_prefix
  | case4 c d cs hcd ih =>
      cases hcs : splitAtDouble sep (d :: cs) with
      | nil => exact absurd hcs (splitAtDouble_ne_nil sep _)
      | cons q qs =>
          rw [hcs] at h
          obtain ⟨rfl, -⟩ := List.cons.inj h
          exact List.cons_prefix_cons.mpr ⟨rfl, ih hcs⟩

theorem undoubled_of_mem_splitAtDouble {cs p : List Char} (h : p ∈ splitAtDouble sep cs) :
    Undoubled sep p := by
  fun_induction splitAtDouble sep cs generalizing p with
  | case1 => exact List.mem_singleton.mp h ▸ undoubled_nil
  | case2 c => exact List.mem_singleton.mp h ▸ undoubled_singleton c
  | case3 c d cs hcd ih =>
      rcases List.mem_cons.mp h with rfl | hp
      · exact undoubled_nil
      · exact ih hp
  | case4 c d cs hcd ih =>
      cases hcs : splitAtDouble sep (d :: cs) with
      | nil => exact absurd hcs (splitAtDouble_ne_nil sep _)
      | cons q qs =>
          rw [hcs] at h ih
          rcases List.mem_cons.mp h with rfl | hp
          · -- the first piece goes on as the text does, or it ends here
            cases q with
            | nil => exact undoubled_singleton c
            | cons e q =>
                obtain ⟨rfl, -⟩ := List.cons_prefix_cons.mp (prefix_of_splitAtDouble hcs)
                exact undoubled_cons_cons.mpr ⟨hcd, ih List.mem_cons_self⟩
          · exact ih (List.mem_cons_of_mem q hp)

theorem joinWith_consFirst {ps : List (List Char)} (hps : ps ≠ []) (mid c : Char) :
    joinWith mid (consFirst c ps) = c :: joinWith mid ps := by
  match ps with
  | [] => exact absurd rfl hps
  | [p] => rfl
  | p :: q :: ps => rfl

/-- What does not run into a doubled separator stays as it is when those behind it are replaced. -/
theorem joinWith_splitAtDouble_append {p : List Char} (hp : Undoubled sep p) (hlast : ¬[sep] <:+ p)
    (mid : Char) (cs : List Char) :
    joinWith mid (splitAtDouble sep (p ++ cs)) = p ++ joinWith mid (splitAtDouble sep cs) := by
  induction p with
  | nil => rfl
  | cons c p ih =>
      have hcons : splitAtDouble sep (c :: p ++ cs) = consFirst c (splitAtDouble sep (p ++ cs)) := by
        cases p with
        | nil =>
            refine splitAtDouble_cons ?_
            rintro rfl
            exact hlast List.suffix_rfl
        | cons d p =>
            rw [List.cons_append, List.cons_append, splitAtDouble,
              if_neg (undoubled_cons_cons.mp hp).1]
      have hp' : Undoubled sep p := fun h => hp (h.trans (List.suffix_cons c p).isInfix)
      have hlast' : ¬[sep] <:+ p := fun h => hlast (h.trans (List.suffix_cons c p))
      rw [hcons, joinWith_consFirst (splitAtDouble_ne_nil _ _), ih hp' hlast', List.cons_append]

end Gazetteer.Text
