import Gazetteer.Proofs.PlainText
import Gazetteer.Proofs.Shapes
import Gazetteer.Proofs.Splitting

/-!
# Writing a coordinate

Whatever a coordinate is written as denotes it again, bit for bit: its text, with any blanks around
the parts, its value, and the array of its parts, where each part may be a number or a text
(`Coordinate.denoted_by_writings`). A part that is written as a text is read as the same float
(`Decimal.float?_plainText`), neither blanks nor commas occur in it, and a float that is a part of a
coordinate is in range when it is read again.
-/

namespace Gazetteer

namespace Text

/-! ## Blanks around a text -/

/-- Blanks before and after a text. -/
structure Padding where
  before : List { c : Char // isBlank c = true }
  after : List { c : Char // isBlank c = true }

/-- The text with the blanks around it. -/
def Padding.around (p : Padding) (s : String) : String :=
  String.ofList (p.before.map Subtype.val ++ s.toList ++ p.after.map Subtype.val)

@[simp] theorem around_nothing (s : String) : (⟨[], []⟩ : Padding).around s = s := by
  simp [Padding.around]

theorem isBlank_of_mem_map_val {bs : List { c : Char // isBlank c = true }} {c : Char}
    (hc : c ∈ bs.map Subtype.val) : isBlank c = true := by
  obtain ⟨b, -, rfl⟩ := List.mem_map.mp hc
  exact b.property

theorem dropWhile_isBlank_append {bs cs : List Char} (hbs : ∀ c ∈ bs, isBlank c = true)
    (hcs : ∀ c ∈ cs, isBlank c = false) (hne : cs ≠ []) (rest : List Char) :
    (bs ++ (cs ++ rest)).dropWhile isBlank = cs ++ rest := by
  obtain ⟨c, cs, rfl⟩ := List.exists_cons_of_ne_nil hne
  rw [List.dropWhile_append_of_pos hbs, List.cons_append,
    List.dropWhile_cons_of_neg (by rw [hcs c List.mem_cons_self]; decide)]

/-- A text without blanks is what remains between them. -/
theorem trim_around (p : Padding) {s : String} (hs : ∀ c ∈ s.toList, isBlank c = false)
    (hne : s.toList ≠ []) : trim (p.around s).toList = s.toList := by
  have hback : ((p.after.map Subtype.val).reverse ++ s.toList.reverse).dropWhile isBlank =
      s.toList.reverse := by
    have hafter (c : Char) (hc : c ∈ (p.after.map Subtype.val).reverse) : isBlank c = true :=
      isBlank_of_mem_map_val (List.mem_reverse.mp hc)
    have hdrop := dropWhile_isBlank_append hafter (fun c hc => hs c (List.mem_reverse.mp hc))
      (by simpa using hne) []
    rwa [List.append_nil] at hdrop
  unfold trim Padding.around
  rw [String.toList_ofList, List.append_assoc,
    dropWhile_isBlank_append (fun c => isBlank_of_mem_map_val) hs hne, List.reverse_append, hback,
    List.reverse_reverse]

end Text

namespace Decimal

variable {x : Float}

theorem isBlank_of_isPlain {c : Char} (h : isPlain c = true) : Text.isBlank c = false := by
  unfold isPlain at h
  rw [Bool.or_eq_true, Bool.or_eq_true, beq_iff_eq, beq_iff_eq] at h
  rcases h with (h | rfl) | rfl
  · simp only [Char.isDigit, Bool.and_eq_true, decide_eq_true_eq, ge_iff_le,
      UInt32.le_iff_toNat_le] at h
    have hlow : 48 ≤ c.toNat := h.1
    have hhigh : c.toNat ≤ 57 := h.2
    simp [Text.isBlank]
    omega
  · decide
  · decide

theorem float?_trim_around (p : Text.Padding) (hx : x.isFinite) :
    float? (Text.trim (p.around (plainText x)).toList) = .ok x := by
  have hread := float?_plainText hx
  have hne : (plainText x).toList ≠ [] := by
    intro hnil
    rw [hnil] at hread
    cases hread
  rw [Text.trim_around p (fun c hc => isBlank_of_isPlain (isPlain_of_mem_plainText hx hc)) hne,
    hread]

theorem comma_not_mem_around (p : Text.Padding) (hx : x.isFinite) :
    ',' ∉ (p.around (plainText x)).toList := by
  unfold Text.Padding.around
  rw [String.toList_ofList, List.mem_append, List.mem_append]
  rintro ((h | h) | h)
  · exact absurd (Text.isBlank_of_mem_map_val h) (by decide)
  · exact absurd (isPlain_of_mem_plainText hx h) (by decide)
  · exact absurd (Text.isBlank_of_mem_map_val h) (by decide)

end Decimal

namespace Geodesy.Coordinate

open Decimal

/-! ## Parts between commas -/

theorem numbersOfText_intercalate {ps : List String} (h : ∀ p ∈ ps, ',' ∉ p.toList)
    (hne : ps ≠ []) :
    numbersOfText (",".intercalate ps) = ps.mapM fun p => float? (Text.trim p.toList) := by
  have hpieces : Text.splitAt ',' (",".intercalate ps).toList = ps.map String.toList := by
    rw [String.toList_intercalate, Text.splitAt_eq_splitOn]
    refine List.splitOn_intercalate ',' ?_ (by simpa using hne)
    intro cs hcs
    obtain ⟨p, hp, rfl⟩ := List.mem_map.mp hcs
    exact h p hp
  rw [numbersOfText, hpieces, List.mapM_map]
  rfl

/-- The text of a coordinate with blanks around each part. -/
def paddedText (c : Coordinate) (lon lat alt : Text.Padding) : String :=
  ",".intercalate [lon.around (plainText c.longitude), lat.around (plainText c.latitude),
    alt.around (plainText c.altitude)]

theorem ofText_paddedText (c : Coordinate) (lon lat alt : Text.Padding) :
    ofText (c.paddedText lon lat alt) = .ok c := by
  have hlon : c.longitude.isFinite := c.inRange.longitude_finite
  have hlat : c.latitude.isFinite := c.inRange.latitude_finite
  have halt : c.altitude.isFinite := c.inRange.altitude_finite
  have hparts : numbersOfText (c.paddedText lon lat alt) =
      .ok [c.longitude, c.latitude, c.altitude] := by
    rw [paddedText, numbersOfText_intercalate]
    · simp only [List.mapM_cons, List.mapM_nil, float?_trim_around lon hlon,
        float?_trim_around lat hlat, float?_trim_around alt halt]
      rfl
    · exact List.forall_mem_cons.mpr ⟨comma_not_mem_around lon hlon, List.forall_mem_cons.mpr
        ⟨comma_not_mem_around lat hlat, List.forall_mem_singleton.mpr
          (comma_not_mem_around alt halt)⟩⟩
    · exact List.cons_ne_nil _ _
  rw [ofText, hparts]
  exact of_eq_ok_iff.mpr ⟨rfl, rfl, rfl⟩

theorem text_eq_paddedText (c : Coordinate) : c.text = c.paddedText ⟨[], []⟩ ⟨[], []⟩ ⟨[], []⟩ := by
  simp [text, paddedText, toList]

/-! ## Ways of writing -/

/-- How a number may be written in a dynamic value. -/
inductive Writing where
  | number
  | text (p : Text.Padding)

/-- The number as it is written. -/
def Writing.value (x : Float) : Writing → Value
  | .number => .float x
  | .text p => .string (p.around (plainText x))

theorem numberOf?_value (w : Writing) {x : Float} (hx : x.isFinite) :
    numberOf? (w.value x) = some x := by
  cases w with
  | number => rfl
  | text p =>
      show (float? (Text.trim (p.around (plainText x)).toList)).toOption = some x
      rw [float?_trim_around p hx]
      rfl

theorem eq_ok_of_ofValue? {v : Value} {c : Coordinate} (h : ofValue? v = some c) :
    ofValue v = .ok c := by
  unfold ofValue? at h
  cases hv : ofValue v with
  | ok d => rw [hv] at h; cases h; rfl
  | error e => rw [hv] at h; cases h

/-- **Whatever a coordinate is written as denotes it.** Its text does, and its text with blanks
around each part; its value does, and the object or the array of its parts, where each part may be a
number or the text of one. -/
theorem denoted_by_writings (c : Coordinate) (p q r : Text.Padding) (u v w : Writing) :
    ofText c.text = .ok c ∧ ofText (c.paddedText p q r) = .ok c ∧ ofValue c.toValue = .ok c ∧
    ofValue (partsObject (u.value c.longitude) (v.value c.latitude) (w.value c.altitude)) = .ok c ∧
    ofValue (.array [u.value c.longitude, v.value c.latitude, w.value c.altitude]) = .ok c := by
  have hlon (u : Writing) : numberOf? (u.value c.longitude) = some c.longitude :=
    numberOf?_value u c.inRange.longitude_finite
  have hlat (v : Writing) : numberOf? (v.value c.latitude) = some c.latitude :=
    numberOf?_value v c.inRange.latitude_finite
  have halt (w : Writing) : numberOf? (w.value c.altitude) = some c.altitude :=
    numberOf?_value w c.inRange.altitude_finite
  have hof : (of c.longitude c.latitude c.altitude).toOption = some c := by
    rw [of_eq_ok_iff.mpr ⟨rfl, rfl, rfl⟩]
    rfl
  have hobject (u v w : Writing) : ofValue
      (partsObject (u.value c.longitude) (v.value c.latitude) (w.value c.altitude)) = .ok c := by
    refine eq_ok_of_ofValue? ?_
    rw [ofValue?_partsObject, hlon, hlat, halt]
    exact hof
  refine ⟨?_, ofText_paddedText c p q r, hobject .number .number .number, hobject u v w, ?_⟩
  · rw [text_eq_paddedText]
    exact ofText_paddedText c _ _ _
  · refine eq_ok_of_ofValue? ?_
    rw [ofValue?_array_triple, hlon, hlat, halt]
    exact hof

end Geodesy.Coordinate

end Gazetteer
