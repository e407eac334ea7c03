import Gazetteer.Proofs.Coordinate

/-!
# The shapes of a coordinate

A dynamic value may be a coordinate as a text, as an array of its parts or as an object with a
member for each part, and each part may be a number or a text of one. A text denotes what the array
of its parts denotes. An object does so too, unless its altitude is no number: where the array is
refused then, the object is taken to lie on the ground (`Coordinate.shapes_agree_iff`).
-/

namespace Gazetteer.Geodesy.Coordinate

/-- An object with a member for each part of a coordinate. -/
def partsObject (lon lat alt : Value) : Value :=
  .object [("altitude", alt), ("latitude", lat), ("longitude", lon)]

/-- The parts of a text, each as a text of its own. -/
def partsOfText (s : String) : List Value :=
  (Text.splitAt ',' s.toList).map fun part => .string (String.ofList part)

theorem toOption_mapM {α β : Type} {ε : Type} (f : α → Except ε β) (xs : List α) :
    (xs.mapM f).toOption = xs.mapM fun x => (f x).toOption := by
  induction xs with
  | nil => rfl
  | cons x xs ih =>
      rw [List.mapM_cons, List.mapM_cons, ← ih]
      cases f x with
      | error e => rfl
      | ok y => cases xs.mapM f <;> rfl

/-- A text denotes what the array of its parts denotes. -/
theorem ofText_eq_ofValue_parts (s : String) :
    (ofText s).toOption = ofValue? (.array (partsOfText s)) := by
  have hpart : numberOf? ∘ (fun part => .string (String.ofList part)) =
      fun part => (Decimal.float? (Text.trim part)).toOption := by
    funext part
    show (Decimal.float? (Text.trim (String.ofList part).toList)).toOption = _
    rw [String.toList_ofList]
  have hnumbers : (partsOfText s).mapM numberOf? = (numbersOfText s).toOption := by
    rw [partsOfText, List.mapM_map, numbersOfText, toOption_mapM, hpart]
  rw [ofValue?, ofValue, hnumbers, ofText]
  cases numbersOfText s with
  | ok parts => rfl
  | error e => rfl

theorem ofValue?_array_pair (lon lat : Value) : ofValue? (.array [lon, lat]) =
    (numberOf? lon).bind fun x => (numberOf? lat).bind fun y => (of x y 0.0).toOption := by
  rw [ofValue?, ofValue]
  cases hlon : numberOf? lon with
  | none => simp [hlon]; rfl
  | some x =>
      cases hlat : numberOf? lat with
      | none => simp [hlon, hlat]; rfl
      | some y => simp [hlon, hlat]; rfl

theorem ofValue?_array_triple (lon lat alt : Value) : ofValue? (.array [lon, lat, alt]) =
    (numberOf? lon).bind fun x => (numberOf? lat).bind fun y => (numberOf? alt).bind fun z =>
      (of x y z).toOption := by
  rw [ofValue?, ofValue]
  cases hlon : numberOf? lon with
  | none => simp [hlon]; rfl
  | some x =>
      cases hlat : numberOf? lat with
      | none => simp [hlon, hlat]; rfl
      | some y =>
          cases halt : numberOf? alt with
          | none => simp [hlon, hlat, halt]; rfl
          | some z => simp [hlon, hlat, halt]; rfl

/-- The altitude of an object that is no number counts as that of the ground. -/
theorem ofValue?_partsObject (lon lat alt : Value) : ofValue? (partsObject lon lat alt) =
    (numberOf? lon).bind fun x => (numberOf? lat).bind fun y =>
      (of x y ((numberOf? alt).getD 0.0)).toOption := by
  have hlon : [("altitude", alt), ("latitude", lat), ("longitude", lon)].lookup "longitude" =
      some lon := rfl
  have hlat : [("altitude", alt), ("latitude", lat), ("longitude", lon)].lookup "latitude" =
      some lat := rfl
  have halt : [("altitude", alt), ("latitude", lat), ("longitude", lon)].lookup "altitude" =
      some alt := rfl
  rw [partsObject, ofValue?, ofValue]
  dsimp only
  rw [hlon, hlat, halt]
  simp only [Option.bind_some]
  cases numberOf? lon with
  | none => rfl
  | some x => cases numberOf? lat <;> rfl

/-- An array with a part that is no number denotes nothing. -/
theorem ofValue?_array_eq_none {v : Value} {items : List Value} (hv : v ∈ items)
    (hnumber : numberOf? v = none) : ofValue? (.array items) = none := by
  have hnone : items.mapM numberOf? = none := by
    induction items with
    | nil => cases hv
    | cons w items ih =>
        rw [List.mapM_cons]
        rcases List.mem_cons.mp hv with rfl | hv
        · rw [hnumber]
          rfl
        · rw [ih hv]
          cases numberOf? w <;> rfl
  rw [ofValue?, ofValue, hnone]
  rfl

/-- **A coordinate is denoted alike by a text, an array and an object, unless the altitude of the
object is no number.** A text denotes what the array of its parts denotes, and an array is refused
whichever of its parts is no number. An object denotes what the array denotes if its altitude is a
number; otherwise it denotes what the array does without the altitude, so that the two agree only if
that is nothing. -/
theorem shapes_agree_iff (lon lat alt : Value) (s : String) :
    (ofText s).toOption = ofValue? (.array (partsOfText s)) ∧
    (∀ items v, v ∈ items → numberOf? v = none → ofValue? (.array items) = none) ∧
    ((numberOf? alt).isSome →
      ofValue? (partsObject lon lat alt) = ofValue? (.array [lon, lat, alt])) ∧
    (numberOf? alt = none →
      ofValue? (partsObject lon lat alt) = ofValue? (.array [lon, lat])) ∧
    (ofValue? (partsObject lon lat alt) = ofValue? (.array [lon, lat, alt]) ↔
      (numberOf? alt).isSome ∨ ofValue? (.array [lon, lat]) = none) := by
  have hnumber : (numberOf? alt).isSome →
      ofValue? (partsObject lon lat alt) = ofValue? (.array [lon, lat, alt]) := by
    intro hsome
    obtain ⟨z, hz⟩ := Option.isSome_iff_exists.mp hsome
    rw [ofValue?_partsObject, ofValue?_array_triple, hz]
    rfl
  have hground : numberOf? alt = none →
      ofValue? (partsObject lon lat alt) = ofValue? (.array [lon, lat]) := by
    intro hnone
    rw [ofValue?_partsObject, ofValue?_array_pair, hnone]
    rfl
  refine ⟨ofText_eq_ofValue_parts s, fun items v => ofValue?_array_eq_none, hnumber, hground, ?_⟩
  cases halt : numberOf? alt with
  | some z => exact iff_of_true (hnumber (halt ▸ rfl)) (.inl rfl)
  | none =>
      have htriple : ofValue? (.array [lon, lat, alt]) = none :=
        ofValue?_array_eq_none (by simp) halt
      rw [hground halt, htriple]
      simp

example : (ofValue? (partsObject (.int 1) (.int 2) (.string "high"))).isSome = true ∧
    (ofValue? (.array [.int 1, .int 2, .string "high"])).isSome = false := by decide

end Gazetteer.Geodesy.Coordinate
