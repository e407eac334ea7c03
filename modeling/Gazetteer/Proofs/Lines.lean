import Gazetteer.Proofs.Literal

/-!
# TOML documents of one entry a line

A `Line` is a key without quotes, a sign of equality and the text of a value. A document of such
lines with different keys is read as their entries, in order (`read?_document`). One line takes one
step (`step_line`), and a run takes one step for each line (`run_lines`).
-/

namespace Gazetteer.Toml

/-- An entry and the text of its value. -/
structure Line where
  key : String
  text : String
  item : Item

namespace Line

def entry (l : Line) : String × Item := (l.key, l.item)

/-- The line in a document. -/
def written (l : Line) : String := l.key ++ " = " ++ l.text ++ "\n"

theorem toList_written (l : Line) :
    l.written.toList = l.key.toList ++ ' ' :: '=' :: ' ' :: (l.text.toList ++ ['\n']) := by
  simp [written, String.toList_append]

theorem written_ne_nil (l : Line) : l.written.toList ≠ [] := by
  rw [toList_written]
  simp

/-- The key needs no quotes, and the text stands for the item. -/
structure IsPlain (l : Line) : Prop where
  bare : ∀ c ∈ l.key.toList, isBareKeyChar c = true
  nonempty : l.key.toList ≠ []
  spells : Spells l.text.toList l.item

end Line

variable {l : Line} {ls : List Line} {es : Entries}

/-! ## One line -/

theorem skipBlanks_bare {c : Char} (hc : isBareKeyChar c = true) (cs : List Char) :
    skipBlanks (c :: cs) = c :: cs := by
  have hspace : c ≠ ' ' := ne_of_test hc (by decide)
  have htab : c ≠ '\t' := ne_of_test hc (by decide)
  rw [skipBlanks, List.dropWhile_cons_of_neg (by simp [hspace, htab])]

theorem readKey_append {key : List Char} (hbare : ∀ c ∈ key, isBareKeyChar c = true)
    (hne : key ≠ []) (rest : List Char) :
    readKey (key ++ ' ' :: '=' :: rest) = some ([String.ofList key], '=' :: rest) := by
  have htake : (key ++ ' ' :: '=' :: rest).takeWhile isBareKeyChar = key := by
    rw [List.takeWhile_append_of_pos hbare, List.takeWhile_cons_of_neg (by decide),
      List.append_nil]
  have hdrop : (key ++ ' ' :: '=' :: rest).dropWhile isBareKeyChar = ' ' :: '=' :: rest := by
    rw [List.dropWhile_append_of_pos hbare, List.dropWhile_cons_of_neg (by decide)]
  have hpart : readKeyPart (key ++ ' ' :: '=' :: rest) =
      some (String.ofList key, ' ' :: '=' :: rest) := by
    obtain ⟨c, cs, rfl⟩ := List.exists_cons_of_ne_nil hne
    have hc := hbare c List.mem_cons_self
    have hquotes : ¬(c = '"' ∨ c = '\'') :=
      not_or.mpr ⟨ne_of_test hc (by decide), ne_of_test hc (by decide)⟩
    rw [List.cons_append] at htake hdrop ⊢
    rw [readKeyPart, if_neg hquotes, if_pos hc, htake, hdrop]
  have hblanks : skipBlanks (key ++ ' ' :: '=' :: rest) = key ++ ' ' :: '=' :: rest := by
    obtain ⟨c, cs, rfl⟩ := List.exists_cons_of_ne_nil hne
    exact skipBlanks_bare (hbare c List.mem_cons_self) _
  rw [readKey, maxNesting, readParts, hblanks, hpart]
  rfl

/-- One line is one step, which leaves the end of the line. -/
theorem step_line (hl : l.IsPlain) (hnew : es.lookup l.key = none) (rest : List Char) :
    Progress.step ⟨es, []⟩ (l.written.toList ++ rest) =
      some (⟨es ++ [l.entry], []⟩, '\n' :: rest) := by
  have htext : l.written.toList ++ rest =
      l.key.toList ++ ' ' :: '=' :: ' ' :: (l.text.toList ++ '\n' :: rest) := by
    rw [Line.toList_written, List.append_assoc]
    simp
  have hkey := readKey_append hl.bare hl.nonempty (' ' :: (l.text.toList ++ '\n' :: rest))
  have hput : put [l.key] l.item es = some (es ++ [l.entry]) := by
    rw [put, hnew]
    rfl
  have hblank : skipBlanks (' ' :: (l.text.toList ++ '\n' :: rest)) =
      l.text.toList ++ '\n' :: rest := hl.spells.flush rest
  obtain ⟨c, cs, hcons⟩ := List.exists_cons_of_ne_nil hl.nonempty
  have hc := hl.bare c (hcons ▸ List.mem_cons_self)
  -- the line begins with none of the characters that stand for something else
  have hfirst {d : Char} {r r' : List Char} (hd : isBareKeyChar d = false) : c :: r ≠ d :: r' :=
    fun heq => ne_of_test hc hd (List.cons.inj heq).1
  rw [htext]
  rw [String.ofList_toList] at hkey
  rw [hcons, List.cons_append] at hkey ⊢
  unfold Progress.step
  rw [skipBlanks_bare hc]
  split
  · next heq => cases heq
  · next heq => exact absurd heq (hfirst (by decide))
  · next heq => exact absurd heq (hfirst (by decide))
  · next heq => exact absurd heq (hfirst (by decide))
  · next heq => exact absurd heq (hfirst (by decide))
  · next heq => exact absurd heq (hfirst (by decide))
  · simp only [hkey, hblank, hl.spells.read, Option.bind_eq_bind, Option.bind_some, changeAt, hput]
    rfl

/-! ## All lines -/

/-- The text of a document. -/
def document (ls : List Line) : String := String.join (ls.map Line.written)

theorem toList_document_cons (l : Line) (ls : List Line) :
    (document (l :: ls)).toList = l.written.toList ++ (document ls).toList := by
  simp [document, String.toList_join]

theorem length_le_length_document (ls : List Line) : ls.length ≤ (document ls).toList.length := by
  induction ls with
  | nil => exact Nat.zero_le _
  | cons l ls ih =>
      have hwritten : 0 < l.written.toList.length := List.length_pos_iff.mpr l.written_ne_nil
      rw [toList_document_cons, List.length_append, List.length_cons]
      omega

/-- One more line is one more entry. -/
theorem run_lines (hls : ∀ l ∈ ls, l.IsPlain) (hkeys : (ls.map Line.key).Nodup)
    (hnew : ∀ l ∈ ls, es.lookup l.key = none) {fuel : Nat} (hfuel : ls.length < fuel) :
    Progress.run fuel ⟨es, []⟩ (document ls).toList = some ⟨es ++ ls.map Line.entry, []⟩ := by
  -- the entries of the lines before are those that are there already
  induction ls generalizing es fuel with
  | nil =>
      obtain ⟨fuel, rfl⟩ := Nat.exists_eq_succ_of_ne_zero (Nat.ne_of_gt hfuel)
      rw [List.map_nil, List.append_nil]
      rfl
  | cons l ls ih =>
      obtain ⟨fuel, rfl⟩ := Nat.exists_eq_succ_of_ne_zero (Nat.ne_of_gt (Nat.zero_lt_of_lt hfuel))
      obtain ⟨hfirst, hkeys⟩ := List.nodup_cons.mp hkeys
      have hstep := step_line (hls l List.mem_cons_self) (hnew l List.mem_cons_self)
        (document ls).toList
      have hrest : Progress.run fuel ⟨es ++ [l.entry], []⟩ (document ls).toList =
          some ⟨es ++ [l.entry] ++ ls.map Line.entry, []⟩ := by
        apply ih (fun m hm => hls m (List.mem_cons_of_mem l hm)) hkeys ?_
          (Nat.lt_of_succ_lt_succ hfuel)
        intro m hm
        have hne : m.key ≠ l.key := fun h => hfirst (h ▸ List.mem_map_of_mem hm)
        rw [List.lookup_append, hnew m (List.mem_cons_of_mem l hm)]
        simp [Line.entry, List.lookup_cons, beq_false_of_ne hne]
      have hend : endOfLine? ('\n' :: (document ls).toList) = some (document ls).toList := rfl
      have hne : l.written.toList ++ (document ls).toList ≠ [] :=
        List.append_ne_nil_of_left_ne_nil l.written_ne_nil _
      obtain ⟨d, ds, hds⟩ := List.exists_cons_of_ne_nil hne
      rw [toList_document_cons]
      rw [hds] at hstep ⊢
      unfold Progress.run
      rw [hstep]
      dsimp only
      rw [hend]
      dsimp only
      rw [hrest, List.map_cons, List.append_assoc, List.singleton_append]

/-- A document with one entry a line is read as its entries. -/
theorem read?_document (hls : ∀ l ∈ ls, l.IsPlain) (hkeys : (ls.map Line.key).Nodup) :
    read? (document ls) = some (ls.map Line.entry) := by
  have hrun : Progress.run ((document ls).toList.length + 1) ⟨[], []⟩ (document ls).toList =
      some ⟨ls.map Line.entry, []⟩ :=
    run_lines hls hkeys (fun _ _ => rfl) (Nat.lt_succ_of_le (length_le_length_document ls))
  unfold read?
  split
  · next r hmark =>
      -- the first character of a key is no byte order mark
      cases ls with
      | nil => cases hmark
      | cons l ls =>
          have hl := hls l List.mem_cons_self
          obtain ⟨c, cs, hcons⟩ := List.exists_cons_of_ne_nil hl.nonempty
          have hc := hl.bare c (hcons ▸ List.mem_cons_self)
          rw [toList_document_cons, Line.toList_written, hcons] at hmark
          exact absurd (List.cons.inj hmark).1 (ne_of_test hc (by decide))
  · dsimp only
    rw [hrun]
    rfl

end Gazetteer.Toml
