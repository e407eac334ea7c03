import Gazetteer.Lookup.Predicate
import Gazetteer.Proofs.OrderBy
import Gazetteer.Proofs.Splitting

/-!
# Keys of predicates

A key is made of segments with points or doubled underscores between them, and of the name of a
lookup after a doubled underscore. `Predicate.parse` takes apart what has been put together like
that, however the two separators are mixed, and what it makes of any key is a path of that kind
(`Predicate.parse_keyText`). It cuts at the doubled underscores first and joins the parts with points
to cut at these, so that the proof follows a key through both (`Segment.joinWith_splitAtDouble`).
-/

namespace Gazetteer

/-! ## Names and operands of lookups -/

namespace LookupName

/-- The operands that a lookup accepts. -/
def Accepts (operand : Value) : LookupName → Prop
  | .regex => operand.plain.utf8ByteSize ≤ maxPatternLength ∧
      (Pattern.compile? false operand.plain).isSome
  | .iregex => operand.plain.utf8ByteSize ≤ maxPatternLength ∧
      (Pattern.compile? true operand.plain).isSome
  | .in_ => ∃ items, operand = .array items ∧ items.length ≤ maxOperands
  | .range => ∃ low high, operand = .array [low, high]
  | .isnull => ∃ flag, operand = .bool flag
  | _ => True

theorem ofText?_text (n : LookupName) : ofText? n.text = some n := by
  cases n <;> rfl

theorem ofText?_eq_none_iff {s : String} : ofText? s = none ↔ ∀ n : LookupName, n.text ≠ s := by
  have hall : ∀ n, n ∈ all := by
    intro n
    cases n <;> decide
  rw [ofText?, List.find?_eq_none]
  simp [hall]

theorem undoubled_text (n : LookupName) : Text.Undoubled '_' n.text.toList := by
  have hsplit : Text.splitAtDouble '_' n.text.toList = [n.text.toList] := by
    cases n <;> rfl
  exact (Text.splitAtDouble_eq_singleton_iff.mp hsplit).1

end LookupName

theorem Lookup.exists_pattern_iff {key source : String} {caseless : Bool} :
    (∃ p, Lookup.pattern key caseless source = .ok p) ↔
      source.utf8ByteSize ≤ maxPatternLength ∧ (Pattern.compile? caseless source).isSome := by
  unfold Lookup.pattern
  by_cases hlong : maxPatternLength < source.utf8ByteSize
  · rw [if_pos hlong]
    exact iff_of_false (fun ⟨_, h⟩ => nomatch h) fun h => Nat.not_le_of_lt hlong h.1
  · rw [if_neg hlong, and_iff_right (Nat.le_of_not_lt hlong)]
    cases Pattern.compile? caseless source with
    | none => exact iff_of_false (fun ⟨_, h⟩ => nomatch h) nofun
    | some p => exact iff_of_true ⟨p, rfl⟩ rfl

theorem Lookup.exists_map_eq_ok_iff {ε α β : Type} {x : Except ε α} {f : α → β} :
    (∃ b, x.map f = .ok b) ↔ ∃ a, x = .ok a := by
  cases x with
  | error e => exact iff_of_false (fun ⟨_, h⟩ => nomatch h) fun ⟨_, h⟩ => nomatch h
  | ok a => exact iff_of_true ⟨f a, rfl⟩ ⟨a, rfl⟩

theorem Lookup.exists_make_iff {key : String} {operand : Value} {n : LookupName} :
    (∃ l, Lookup.make key operand n = .ok l) ↔ n.Accepts operand := by
  cases n with
  | regex => exact exists_map_eq_ok_iff.trans exists_pattern_iff
  | iregex => exact exists_map_eq_ok_iff.trans exists_pattern_iff
  | in_ =>
      constructor
      · rintro ⟨l, hl⟩
        cases operand with
        | array items =>
            refine ⟨items, rfl, Nat.le_of_not_lt fun hlt => ?_⟩
            rw [make, if_pos hlt] at hl
            cases hl
        | _ => cases hl
      · rintro ⟨items, rfl, hlength⟩
        exact ⟨.in_ items, if_neg (Nat.not_lt_of_le hlength)⟩
  | range =>
      constructor
      · rintro ⟨l, hl⟩
        cases operand with
        | array items =>
            match items, hl with
            | [low, high], _ => exact ⟨low, high, rfl⟩
        | _ => cases hl
      · rintro ⟨low, high, rfl⟩
        exact ⟨.range low high, rfl⟩
  | isnull =>
      constructor
      · rintro ⟨l, hl⟩
        cases operand with
        | bool flag => exact ⟨flag, rfl⟩
        | _ => cases hl
      · rintro ⟨flag, rfl⟩
        exact ⟨.isnull flag, rfl⟩
  | _ => exact iff_of_true ⟨_, rfl⟩ trivial

/-! ## Putting keys together -/

/-- A segment of a path that can stand in a key: it is not cut, and does not run into a doubled
underscore after it. -/
structure Segment where
  text : String
  ne_empty : text ≠ ""
  no_point : '.' ∉ text.toList
  undoubled : Text.Undoubled '_' text.toList
  not_suffix : ¬['_'] <:+ text.toList

/-- What can stand between two segments. -/
inductive Joint where
  | point
  | underscores
  deriving DecidableEq

def Joint.text : Joint → String
  | point => "."
  | underscores => "__"

namespace Segment

/-- The first segment and the others, each after its joint. -/
def keyText : Segment → List (Joint × Segment) → String
  | first, [] => first.text
  | first, (joint, next) :: rest => first.text ++ joint.text ++ keyText next rest

/-- The key that looks up the path by a lookup with a name. -/
def lookupKey (first : Segment) (rest : List (Joint × Segment)) (n : LookupName) : String :=
  keyText first rest ++ "__" ++ n.text

/-- The segments themselves. -/
def path (first : Segment) (rest : List (Joint × Segment)) : FieldPath :=
  first.text :: rest.map (·.2.text)

variable {first : Segment} {rest : List (Joint × Segment)}

theorem forall_mem_path {P : String → Prop} (h : ∀ s : Segment, P s.text) :
    ∀ s ∈ path first rest, P s := by
  intro s hs
  rcases List.mem_cons.mp hs with rfl | hs
  · exact h first
  · obtain ⟨⟨joint, next⟩, -, rfl⟩ := List.mem_map.mp hs
    exact h next

theorem valid_path (hrest : rest.length < maxPathDepth) : FieldPath.Valid (path first rest) := by
  refine ⟨?_, ?_, forall_mem_path ne_empty⟩
  · simp [path]
  · simpa [path] using Nat.succ_le_of_lt hrest

/-- A path is found again in its segments with points between them. -/
theorem ofChars_joinWith (hrest : rest.length < maxPathDepth) :
    FieldPath.ofChars (Text.joinWith '.' ((path first rest).map String.toList)) =
      .ok (path first rest) := by
  have hpieces : ∀ p ∈ (path first rest).map String.toList, '.' ∉ p := by
    simpa using forall_mem_path no_point
  have hne : (path first rest).map String.toList ≠ [] := by
    simp [path]
  rw [FieldPath.ofChars, Text.splitAt_joinWith hpieces hne, List.map_map]
  refine FieldPath.check_eq_ok_iff.mpr ?_
  have hsame : (path first rest).map (String.ofList ∘ String.toList) = path first rest := by
    simp [Function.comp_def]
  rw [hsame]
  exact ⟨valid_path hrest, rfl⟩

/-- Points instead of the doubled underscores leave the segments with points between them. -/
theorem joinWith_splitAtDouble (first : Segment) (rest : List (Joint × Segment)) :
    Text.joinWith '.' (Text.splitAtDouble '_' (keyText first rest).toList) =
      Text.joinWith '.' ((path first rest).map String.toList) := by
  induction rest generalizing first with
  | nil =>
      have hsplit := Text.splitAtDouble_eq_singleton_iff.mpr ⟨first.undoubled, rfl⟩
      exact congrArg (Text.joinWith '.') hsplit
  | cons pair rest ih =>
      obtain ⟨joint, next⟩ := pair
      -- either joint becomes a point: one is no separator here, the other one makes a cut
      have hjoint : Text.joinWith '.' (Text.splitAtDouble '_'
          (joint.text.toList ++ (keyText next rest).toList)) =
            '.' :: Text.joinWith '.' (Text.splitAtDouble '_' (keyText next rest).toList) := by
        cases joint with
        | point =>
            have hne : '.' ≠ '_' := by decide
            exact (congrArg _ (Text.splitAtDouble_cons hne)).trans
              (Text.joinWith_consFirst (Text.splitAtDouble_ne_nil _ _) _ _)
        | underscores => exact Text.joinWith_cons (Text.splitAtDouble_ne_nil _ _) '.' []
      have hpath : (path next rest).map String.toList ≠ [] := by
        simp [path]
      calc Text.joinWith '.' (Text.splitAtDouble '_' (keyText first ((joint, next) :: rest)).toList)
          = first.text.toList ++ Text.joinWith '.' (Text.splitAtDouble '_'
              (joint.text.toList ++ (keyText next rest).toList)) := by
            rw [keyText, String.toList_append, String.toList_append, List.append_assoc]
            exact Text.joinWith_splitAtDouble_append first.undoubled first.not_suffix '.' _
        _ = first.text.toList ++ '.' :: Text.joinWith '.' ((path next rest).map String.toList) := by
            rw [hjoint, ih]
        _ = Text.joinWith '.' ((path first ((joint, next) :: rest)).map String.toList) :=
            (Text.joinWith_cons hpath '.' first.text.toList).symm

theorem not_suffix_keyText (first : Segment) (rest : List (Joint × Segment)) :
    ¬['_'] <:+ (keyText first rest).toList := by
  induction rest generalizing first with
  | nil => exact first.not_suffix
  | cons pair rest ih =>
      obtain ⟨joint, next⟩ := pair
      intro h
      have hpos : 1 ≤ (keyText next rest).toList.length := by
        refine List.length_pos_iff.mpr ?_
        cases rest <;> simp [keyText, next.ne_empty]
      rw [keyText, String.toList_append] at h
      exact ih next (List.suffix_of_suffix_length_le h (List.suffix_append _ _) hpos)

/-- Points alone leave the text in one piece. -/
theorem toList_keyText_of_point (first : Segment) (hpoint : ∀ pair ∈ rest, pair.1 = .point) :
    (keyText first rest).toList = Text.joinWith '.' ((path first rest).map String.toList) := by
  induction rest generalizing first with
  | nil => rfl
  | cons pair rest ih =>
      obtain ⟨joint, next⟩ := pair
      obtain ⟨rfl, hrest⟩ := List.forall_mem_cons.mp hpoint
      have hpath : (path next rest).map String.toList ≠ [] := by
        simp [path]
      rw [keyText, String.toList_append, String.toList_append, ih next hrest, List.append_assoc]
      exact (Text.joinWith_cons hpath '.' first.text.toList).symm

end Segment

namespace Predicate

/-! ## Taking keys apart -/

theorem mem_keyParts {key : String} {p : List Char} (h : p ∈ (keyParts key).1) :
    p ∈ Text.splitAtDouble '_' key.toList := by
  unfold keyParts at h
  dsimp only at h
  split at h
  · next hdrop => exact (List.dropLast_sublist _).subset (hdrop ▸ h)
  · exact h

theorem keyParts_of_undoubled {key : String} (h : Text.Undoubled '_' key.toList) :
    keyParts key = ([key.toList], "exact") := by
  rw [keyParts, Text.splitAtDouble_eq_singleton_iff.mpr ⟨h, rfl⟩]
  rfl

theorem keyParts_append {key name : String} {parts : List (List Char)} (hparts : parts ≠ [])
    (h : Text.splitAtDouble '_' key.toList = parts ++ [name.toList]) :
    keyParts key = (parts, name) := by
  cases parts with
  | nil => exact absurd rfl hparts
  | cons p ps =>
      simp only [keyParts, h, List.getLast?_concat, List.dropLast_concat]
      rw [String.ofList_toList]

theorem keyParts_lookupKey (first : Segment) (rest : List (Joint × Segment)) (n : LookupName) :
    keyParts (first.lookupKey rest n) =
      (Text.splitAtDouble '_' (first.keyText rest).toList, n.text) := by
  refine keyParts_append (Text.splitAtDouble_ne_nil _ _) ?_
  have hname : Text.splitAtDouble '_' n.text.toList = [n.text.toList] :=
    Text.splitAtDouble_eq_singleton_iff.mpr ⟨n.undoubled_text, rfl⟩
  have hkey : (first.lookupKey rest n).toList =
      (first.keyText rest).toList ++ '_' :: '_' :: n.text.toList := by
    simp [Segment.lookupKey]
  rw [hkey, Text.splitAtDouble_append (first.not_suffix_keyText rest), hname]

theorem parse_of_keyParts {key : String} {parts : List (List Char)} {n : LookupName}
    {path : FieldPath} (hkey : keyParts key = (parts, n.text))
    (hpath : FieldPath.ofChars (Text.joinWith '.' parts) = .ok path) (operand : Value) :
    parse key operand = (Lookup.make key operand n).map fun l => ⟨key, path, l⟩ := by
  simp only [parse, hkey, hpath, n.ofText?_text]

theorem parse_lookupKey {first : Segment} {rest : List (Joint × Segment)}
    (hrest : rest.length < maxPathDepth) (n : LookupName) (operand : Value) :
    parse (first.lookupKey rest n) operand =
      (Lookup.make (first.lookupKey rest n) operand n).map fun l =>
        ⟨first.lookupKey rest n, first.path rest, l⟩ := by
  refine parse_of_keyParts (keyParts_lookupKey first rest n) ?_ operand
  rw [first.joinWith_splitAtDouble rest, Segment.ofChars_joinWith hrest]

theorem parse_keyText_of_point {first : Segment} {rest : List (Joint × Segment)}
    (hrest : rest.length < maxPathDepth) (hpoint : ∀ pair ∈ rest, pair.1 = .point)
    (operand : Value) :
    parse (first.keyText rest) operand =
      .ok ⟨first.keyText rest, first.path rest, .exact operand⟩ := by
  have htext := first.toList_keyText_of_point hpoint
  -- points keep the underscores at the ends of segments apart, so that nothing is cut
  have hundoubled : Text.Undoubled '_' (first.keyText rest).toList := by
    rw [htext]
    refine Text.undoubled_joinWith (by decide) ?_
    simpa using Segment.forall_mem_path Segment.undoubled
  refine parse_of_keyParts (n := .exact) (keyParts_of_undoubled hundoubled) ?_ operand
  rw [htext]
  exact Segment.ofChars_joinWith hrest

/-- What a key is parsed to has a path of segments that could stand in a key. -/
theorem path_of_parse_eq_ok {key : String} {operand : Value} {p : Predicate}
    (h : parse key operand = .ok p) :
    p.path.Valid ∧ ∀ s ∈ p.path, '.' ∉ s.toList ∧ Text.Undoubled '_' s.toList := by
  have hpath : FieldPath.ofChars (Text.joinWith '.' (keyParts key).1) = .ok p.path := by
    simp only [parse] at h
    cases hchars : FieldPath.ofChars (Text.joinWith '.' (keyParts key).1) with
    | error cause =>
        rw [hchars] at h
        cases h
    | ok path =>
        rw [hchars] at h
        cases hname : LookupName.ofText? (keyParts key).2 with
        | none =>
            rw [hname] at h
            cases h
        | some n =>
            simp only [hname] at h
            cases hmake : Lookup.make key operand n with
            | error e =>
                rw [hmake] at h
                cases h
            | ok l =>
                rw [hmake] at h
                obtain rfl := Except.ok.inj h
                rfl
  obtain ⟨hvalid, heq⟩ := FieldPath.check_eq_ok_iff.mp hpath
  rw [heq]
  refine ⟨hvalid, fun s hs => ?_⟩
  obtain ⟨cs, hcs, rfl⟩ := List.mem_map.mp hs
  rw [String.toList_ofList]
  -- a doubled underscore in a segment would stand in one of the parts, which have none
  have hjoined : Text.Undoubled '_' (Text.joinWith '.' (keyParts key).1) :=
    Text.undoubled_joinWith (by decide) fun part hpart =>
      Text.undoubled_of_mem_splitAtDouble (mem_keyParts hpart)
  have hinfix : cs <:+: Text.joinWith '.' (keyParts key).1 := by
    have h := Text.infix_joinWith '.' hcs
    rwa [Text.joinWith_splitAt] at h
  exact ⟨Text.not_mem_of_mem_splitAt hcs, fun hdouble => hjoined (hdouble.trans hinfix)⟩

/-- A key with a doubled underscore ends in the name of a lookup. -/
theorem parse_eq_error {key : String} {last : List Char} (hdouble : ¬Text.Undoubled '_' key.toList)
    (hlast : (Text.splitAtDouble '_' key.toList).getLast? = some last)
    (hname : ∀ n : LookupName, n.text.toList ≠ last) (operand : Value) :
    ∃ cause, parse key operand = .error (.query (some key) cause) := by
  obtain ⟨parts, hpieces⟩ := List.getLast?_eq_some_iff.mp hlast
  -- a doubled underscore makes a cut, so that something stands before the last part
  have hparts : parts ≠ [] := by
    rintro rfl
    exact hdouble (Text.splitAtDouble_eq_singleton_iff.mp hpieces).1
  have hkey : keyParts key = (parts, String.ofList last) :=
    keyParts_append hparts (by rw [hpieces, String.toList_ofList])
  have hnone : LookupName.ofText? (String.ofList last) = none := by
    refine LookupName.ofText?_eq_none_iff.mpr fun n hn => hname n ?_
    rw [hn, String.toList_ofList]
  simp only [parse, hkey]
  cases FieldPath.ofChars (Text.joinWith '.' parts) with
  | error cause => exact ⟨_, rfl⟩
  | ok path =>
      simp only [hnone]
      exact ⟨_, rfl⟩

/-- **Parsing takes apart what has been put together.** Segments with either separator between any
two of them and the name of a lookup after a doubled underscore are parsed to these segments and
this lookup, if it accepts the operand; with points alone and no name the lookup is exact. Whatever a
key is parsed to has a path of one to sixteen segments that are not empty and have neither separator
inside, and a key with a doubled underscore whose last part is not the name of a lookup is
malformed. -/
theorem parse_keyText :
    (∀ (first : Segment) (rest : List (Joint × Segment)) (n : LookupName) (operand : Value),
      rest.length < maxPathDepth →
        ((∃ p, parse (first.lookupKey rest n) operand = .ok p) ↔ n.Accepts operand) ∧
        ∀ l, Lookup.make (first.lookupKey rest n) operand n = .ok l →
          parse (first.lookupKey rest n) operand =
            .ok ⟨first.lookupKey rest n, first.path rest, l⟩) ∧
    (∀ (first : Segment) (rest : List (Joint × Segment)) (operand : Value),
      rest.length < maxPathDepth → (∀ pair ∈ rest, pair.1 = .point) →
        parse (first.keyText rest) operand =
          .ok ⟨first.keyText rest, first.path rest, .exact operand⟩) ∧
    (∀ (key : String) (operand : Value) (p : Predicate), parse key operand = .ok p →
      p.path.Valid ∧ ∀ s ∈ p.path, '.' ∉ s.toList ∧ Text.Undoubled '_' s.toList) ∧
    (∀ (key : String) (operand : Value) (last : List Char), ¬Text.Undoubled '_' key.toList →
      (Text.splitAtDouble '_' key.toList).getLast? = some last →
      (∀ n : LookupName, n.text.toList ≠ last) →
        ∃ cause, parse key operand = .error (.query (some key) cause)) := by
  refine ⟨fun first rest n operand hrest => ?_, fun first rest operand hrest hpoint =>
    parse_keyText_of_point hrest hpoint operand, fun key operand p h => path_of_parse_eq_ok h,
    fun key operand last hdouble hlast hname => parse_eq_error hdouble hlast hname operand⟩
  rw [parse_lookupKey hrest]
  refine ⟨Lookup.exists_map_eq_ok_iff.trans Lookup.exists_make_iff, fun l hl => ?_⟩
  rw [hl]
  rfl

/-- The segments of the path to the latitude of a point. -/
def pointSegment : Segment := ⟨"point", by decide, by decide, by decide, by decide⟩

def coordinatesSegment : Segment := ⟨"coordinates", by decide, by decide, by decide, by decide⟩

def latitudeSegment : Segment := ⟨"latitude", by decide, by decide, by decide, by decide⟩

theorem parse_keyText_latitude :
    parse "point__coordinates.latitude__gte" (.int 47) =
      .ok ⟨"point__coordinates.latitude__gte", ["point", "coordinates", "latitude"],
        .gte (.int 47)⟩ ∧
    parse "point.latitude" .null = .ok ⟨"point.latitude", ["point", "latitude"], .exact .null⟩ ∧
    ∃ cause, parse "point__latitude" .null = .error (.query (some "point__latitude") cause) := by
  obtain ⟨hlookup, hexact, -, herror⟩ := parse_keyText
  refine ⟨?_, ?_, ?_⟩
  · have hkey : pointSegment.lookupKey
        [(.underscores, coordinatesSegment), (.point, latitudeSegment)] .gte =
          "point__coordinates.latitude__gte" := by decide
    have hgte := hlookup pointSegment
      [(.underscores, coordinatesSegment), (.point, latitudeSegment)] .gte (.int 47) (by decide)
    rw [hkey] at hgte
    exact hgte.2 (.gte (.int 47)) rfl
  · have hkey : pointSegment.keyText [(.point, latitudeSegment)] = "point.latitude" := by decide
    have hpath := hexact pointSegment [(.point, latitudeSegment)] .null (by decide) (by decide)
    rw [hkey] at hpath
    exact hpath
  · exact herror "point__latitude" .null "latitude".toList (by decide) (by decide)
      fun n => by cases n <;> decide

end Predicate

end Gazetteer
