import Gazetteer.Atlas.Selection
import Gazetteer.Geodesy.Bounds
import Gazetteer.Proofs.FloatOrder
import Mathlib.Tactic.Tauto

/-!
# What lies within bounds

A latitude is only tested for lying beyond the sides, so that what is no number passes; a longitude
has to lie in the span. `Bounds.containsPosition_iff_unless_nan` says which positions are within,
and when that is exactly the band crossed with the span.

The bounds around coordinates have the greatest and the least of their latitudes and longitudes as
sides (`Bounds.Hugs`). One more coordinate keeps that (`Hugs.extend`), and so it holds of the bounds
around any number of them. They are the smallest bounds around the coordinates
(`Bounds.enclosing_smallest`).
-/

namespace Gazetteer

open Value (floatSize)

namespace Geodesy

/-! ## The order of floats by their sizes -/

section Order

variable {x y z : Float}

theorem lt_iff_floatSize (hx : ¬x.isNaN) (hy : ¬y.isNaN) : x < y ↔ floatSize x < floatSize y := by
  rw [lt_iff_order, Value.order_eq_some hx hy, Option.some_inj, Int.compare_eq_lt]

theorem le_iff_floatSize (hx : ¬x.isNaN) (hy : ¬y.isNaN) : x ≤ y ↔ floatSize x ≤ floatSize y := by
  rw [le_iff_order, Value.order_eq_some hx hy, Option.some_inj, Option.some_inj, Int.compare_eq_lt,
    Int.compare_eq_eq, Int.le_iff_lt_or_eq]

/-- Only numbers are at most something. -/
theorem not_isNaN_of_le (h : x ≤ y) : ¬x.isNaN ∧ ¬y.isNaN := by
  rw [← not_or, ← order_eq_none_iff]
  rcases le_iff_order.mp h with h | h <;> rw [h] <;> exact nofun

theorem le_refl_of_not_isNaN (hx : ¬x.isNaN) : x ≤ x :=
  (le_iff_floatSize hx hx).mpr (Int.le_refl _)

theorem le_trans_float (hxy : x ≤ y) (hyz : y ≤ z) : x ≤ z := by
  obtain ⟨hx, hy⟩ := not_isNaN_of_le hxy
  obtain ⟨-, hz⟩ := not_isNaN_of_le hyz
  rw [le_iff_floatSize hx hy] at hxy
  rw [le_iff_floatSize hy hz] at hyz
  exact (le_iff_floatSize hx hz).mpr (Int.le_trans hxy hyz)

theorem not_isNaN_of_lt (h : x < y) : ¬x.isNaN ∧ ¬y.isNaN := not_isNaN_of_le (le_of_lt h)

theorem lt_of_lt_of_le_float (hxy : x < y) (hyz : y ≤ z) : x < z := by
  obtain ⟨hx, hy⟩ := not_isNaN_of_lt hxy
  obtain ⟨-, hz⟩ := not_isNaN_of_le hyz
  rw [lt_iff_floatSize hx hy] at hxy
  rw [le_iff_floatSize hy hz] at hyz
  exact (lt_iff_floatSize hx hz).mpr (Int.lt_of_lt_of_le hxy hyz)

theorem lt_of_le_of_lt_float (hxy : x ≤ y) (hyz : y < z) : x < z := by
  obtain ⟨hx, hy⟩ := not_isNaN_of_le hxy
  obtain ⟨-, hz⟩ := not_isNaN_of_lt hyz
  rw [le_iff_floatSize hx hy] at hxy
  rw [lt_iff_floatSize hy hz] at hyz
  exact (lt_iff_floatSize hx hz).mpr (Int.lt_of_le_of_lt hxy hyz)

/-- What is at most and at least another number is the same number. -/
theorem beq_of_le_of_le (hxy : x ≤ y) (hyx : y ≤ x) : (x == y) = true := by
  obtain ⟨hx, hy⟩ := not_isNaN_of_le hxy
  rw [le_iff_floatSize hx hy] at hxy
  rw [le_iff_floatSize hy hx] at hyx
  show (order x y == some .eq) = true
  rw [Value.order_eq_some hx hy, Int.compare_eq_eq.mpr (by omega)]
  rfl

theorem not_lt_iff_le (hx : ¬x.isNaN) (hy : ¬y.isNaN) : ¬x < y ↔ y ≤ x := by
  rw [lt_iff_floatSize hx hy, le_iff_floatSize hy hx, Int.not_lt]

/-- What is no number is neither less than anything nor greater. -/
theorem not_lt_of_isNaN (h : x.isNaN ∨ y.isNaN) : ¬x < y := by
  rw [lt_iff_order, order_eq_none_iff.mpr h]
  exact nofun

end Order

theorem not_isNaN_of_isLongitude {x : Float} (h : isLongitude x = true) : ¬x.isNaN :=
  not_isNaN_of_isFinite (isLongitude_iff.mp h).1

theorem not_isNaN_of_isLatitude {x : Float} (h : isLatitude x = true) : ¬x.isNaN :=
  not_isNaN_of_isFinite (isLatitude_iff.mp h).1

namespace Bounds

/-! ## Positions within bounds -/

/-- A longitude lies in the span from west to east, which runs across the antimeridian when `west`
is greater than `east`. -/
def InSpan (b : Bounds) (lon : Float) : Prop :=
  b.west ≤ b.east ∧ b.west ≤ lon ∧ lon ≤ b.east ∨ b.east < b.west ∧ (b.west ≤ lon ∨ lon ≤ b.east)

/-- A latitude lies in the band from south to north. -/
def InBand (b : Bounds) (lat : Float) : Prop := b.south ≤ lat ∧ lat ≤ b.north

section

variable {north south east west : Float} {b : Bounds}

/-- Sides are accepted if they are in range and north is at least south. -/
theorem of_eq_ok_iff : of north south east west = .ok b ↔
    b = ⟨north, south, east, west⟩ ∧ isLatitude north = true ∧ isLatitude south = true ∧
      south ≤ north ∧ isLongitude east = true ∧ isLongitude west = true := by
  unfold of
  split
  · next hlat =>
      refine iff_of_false nofun fun h => ?_
      rw [h.2.1, h.2.2.1] at hlat
      cases hlat
  · next hlat =>
      rw [Bool.not_eq_true', Bool.not_eq_false, Bool.and_eq_true] at hlat
      obtain ⟨hnorth, hsouth⟩ := hlat
      have hle : ¬north < south ↔ south ≤ north :=
        not_lt_iff_le (not_isNaN_of_isLatitude hnorth) (not_isNaN_of_isLatitude hsouth)
      split
      · next hlt => exact iff_of_false nofun fun h => hle.mpr h.2.2.2.1 hlt
      · next hlt =>
          split
          · next hlon =>
              refine iff_of_false nofun fun h => ?_
              rw [h.2.2.2.2.1, h.2.2.2.2.2] at hlon
              cases hlon
          · next hlon =>
              rw [Bool.not_eq_true', Bool.not_eq_false, Bool.and_eq_true] at hlon
              rw [Except.ok.injEq, eq_comm (a := b)]
              exact ⟨fun h => ⟨h, hnorth, hsouth, hle.mp hlt, hlon⟩, fun h => h.1⟩

/-- The test of a longitude is that of the span. -/
theorem spans_iff (h : of north south east west = .ok b) (lon : Float) :
    b.spans lon = true ↔ b.InSpan lon := by
  obtain ⟨rfl, -, -, -, heast, hwest⟩ := of_eq_ok_iff.mp h
  have hle : ¬east < west ↔ west ≤ east :=
    not_lt_iff_le (not_isNaN_of_isLongitude heast) (not_isNaN_of_isLongitude hwest)
  unfold spans crossesAntimeridian InSpan
  by_cases hcross : east < west
  · simp [hcross, mt hle.mpr (not_not.mpr hcross)]
  · simp [hcross, hle.mp hcross]

/-- The test of a latitude is that of the band for numbers, and everything else passes it. -/
theorem containsPosition_iff (h : of north south east west = .ok b) (lon lat : Float) :
    b.containsPosition lon lat = true ↔ (b.InBand lat ∨ lat.isNaN) ∧ b.InSpan lon := by
  have hspan := spans_iff h lon
  obtain ⟨rfl, hnorth, hsouth, -, -, -⟩ := of_eq_ok_iff.mp h
  have hnorth := not_isNaN_of_isLatitude hnorth
  have hsouth := not_isNaN_of_isLatitude hsouth
  have hband : ¬(lat < south ∨ north < lat) ↔
      InBand ⟨north, south, east, west⟩ lat ∨ lat.isNaN := by
    by_cases hlat : lat.isNaN
    · exact iff_of_true (not_or.mpr ⟨not_lt_of_isNaN (.inl hlat), not_lt_of_isNaN (.inr hlat)⟩)
        (.inr hlat)
    · rw [not_or, not_lt_iff_le hlat hsouth, not_lt_iff_le hnorth hlat, or_iff_left hlat, InBand]
  unfold containsPosition
  split
  · next hout =>
      refine iff_of_false nofun fun hin => hband.mpr hin.1 ?_
      simpa using hout
  · next hout =>
      rw [hspan, and_iff_right (hband.mp (by simpa using hout))]

theorem not_isNaN_of_inSpan {lon : Float} (h : b.InSpan lon) : ¬lon.isNaN := by
  rcases h with ⟨-, hwest, -⟩ | ⟨-, hwest | heast⟩
  · exact (not_isNaN_of_le hwest).2
  · exact (not_isNaN_of_le hwest).2
  · exact (not_isNaN_of_le heast).1

theorem not_isNaN_of_inBand {lat : Float} (h : b.InBand lat) : ¬lat.isNaN :=
  (not_isNaN_of_le h.1).2

/-- Across the antimeridian everything lies in the span but what is strictly between its ends. -/
theorem inSpan_iff_of_crosses (h : of north south east west = .ok b) (hcross : b.east < b.west)
    {lon : Float} (hlon : ¬lon.isNaN) : b.InSpan lon ↔ ¬(b.east < lon ∧ lon < b.west) := by
  obtain ⟨rfl, -, -, -, heast, hwest⟩ := of_eq_ok_iff.mp h
  have heast := not_isNaN_of_isLongitude heast
  have hwest := not_isNaN_of_isLongitude hwest
  unfold InSpan
  rw [le_iff_floatSize hwest heast, lt_iff_floatSize heast hwest, lt_iff_floatSize heast hlon,
    lt_iff_floatSize hlon hwest, le_iff_floatSize hwest hlon, le_iff_floatSize hlon heast]
  rw [lt_iff_floatSize heast hwest] at hcross
  omega

end

/-- **Within bounds is what lies in the band and in the span, unless a latitude is no number.** Such
a latitude passes as if it lay in the band, which shows exactly if the longitude lies in the span; a
longitude that is no number does not pass. Across the antimeridian a finite longitude lies in the
span exactly if it is not strictly between east and west. -/
theorem containsPosition_iff_unless_nan {north south east west : Float} {b : Bounds}
    (h : of north south east west = .ok b) (lon lat : Float) :
    (b.containsPosition lon lat = true ↔ (b.InBand lat ∨ lat.isNaN) ∧ b.InSpan lon) ∧
    ((b.containsPosition lon lat = true ↔ b.InBand lat ∧ b.InSpan lon) ↔
      ¬(lat.isNaN ∧ b.InSpan lon)) ∧
    (lon.isNaN → b.containsPosition lon lat = false) ∧
    (b.east < b.west → lon.isFinite →
      (b.InSpan lon ↔ ¬(b.east < lon ∧ lon < b.west))) := by
  have hcontains := containsPosition_iff h lon lat
  refine ⟨hcontains, ?_, fun hlon => ?_, fun hcross hlon => ?_⟩
  · have hnan (hband : b.InBand lat) : ¬lat.isNaN := not_isNaN_of_inBand hband
    rw [hcontains]
    tauto
  · rw [← Bool.not_eq_true, hcontains]
    exact fun hin => not_isNaN_of_inSpan hin.2 hlon
  · exact inSpan_iff_of_crosses h hcross (not_isNaN_of_isFinite hlon)

/-- A band of the Pacific, on both sides of the antimeridian. -/
def pacific : Bounds := ⟨10.0, -10.0, -170.0, 170.0⟩

/-- On the antimeridian a latitude that is no number passes, though it lies in no band, while
Greenwich does not pass at any latitude. -/
theorem containsPosition_iff_unless_nan_pacific :
    of 10.0 (-10.0) (-170.0) 170.0 = .ok pacific ∧ ¬pacific.InBand (0.0 / 0.0) ∧
      pacific.containsPosition 180.0 (0.0 / 0.0) = true ∧
      pacific.containsPosition 0.0 (0.0 / 0.0) = false := by
  have hpacific : of 10.0 (-10.0) (-170.0) 170.0 = .ok pacific := rfl
  have hnan : (0.0 / 0.0 : Float).isNaN := by decide
  have hedge : pacific.InSpan 180.0 := .inr (by decide)
  have hgreenwich : ¬pacific.InSpan 0.0 := by
    rw [(containsPosition_iff_unless_nan hpacific 0.0 0.0).2.2.2 (by decide) (by decide)]
    decide
  refine ⟨hpacific, fun h => not_isNaN_of_inBand h hnan, ?_, ?_⟩
  · exact (containsPosition_iff_unless_nan hpacific 180.0 (0.0 / 0.0)).1.mpr ⟨.inr hnan, hedge⟩
  · rw [← Bool.not_eq_true, (containsPosition_iff_unless_nan hpacific 0.0 (0.0 / 0.0)).1]
    exact fun h => hgreenwich h.2

/-! ## The sides of bounds around coordinates -/

/-- A number is a part of one of the coordinates, and that part of none of them is further out. -/
structure Outermost (within : Float → Float → Prop) (part : Coordinate → Float)
    (cs : List Coordinate) (x : Float) : Prop where
  attained : ∃ c ∈ cs, part c = x
  limits : ∀ c ∈ cs, within (part c) x

/-- Each side of the bounds is the outermost one of the coordinates. -/
structure Hugs (b : Bounds) (cs : List Coordinate) : Prop where
  north : Outermost (fun x y => x ≤ y) Coordinate.latitude cs b.north
  south : Outermost (fun x y => y ≤ x) Coordinate.latitude cs b.south
  east : Outermost (fun x y => x ≤ y) Coordinate.longitude cs b.east
  west : Outermost (fun x y => y ≤ x) Coordinate.longitude cs b.west

section

variable {x y : Float} {b : Bounds} {c : Coordinate} {cs cs' : List Coordinate}

theorem not_isNaN_longitude (c : Coordinate) : ¬c.longitude.isNaN :=
  not_isNaN_of_isLongitude c.longitude_valid

theorem not_isNaN_latitude (c : Coordinate) : ¬c.latitude.isNaN :=
  not_isNaN_of_isLatitude c.latitude_valid

/-- One more coordinate leaves the outermost number or replaces it. -/
theorem Outermost.concat {within : Float → Float → Prop} {part : Coordinate → Float}
    (htrans : ∀ {x y z : Float}, within x y → within y z → within x z)
    (h : Outermost within part cs x) (hy : y = x ∨ y = part c) (hx : within x y)
    (hc : within (part c) y) : Outermost within part (cs ++ [c]) y where
  attained := by
    rcases hy with rfl | rfl
    · obtain ⟨c', hc', hpart⟩ := h.attained
      exact ⟨c', List.mem_append_left _ hc', hpart⟩
    · exact ⟨c, List.mem_append_right _ (List.mem_singleton_self c), rfl⟩
  limits := by
    intro c' hc'
    rcases List.mem_append.mp hc' with hc' | hc'
    · exact htrans (h.limits c' hc') hx
    · rw [List.mem_singleton.mp hc']
      exact hc

theorem greatest_cases (hx : ¬x.isNaN) (hy : ¬y.isNaN) :
    (greatest x y = x ∨ greatest x y = y) ∧ x ≤ greatest x y ∧ y ≤ greatest x y := by
  unfold greatest
  split
  · next h => exact ⟨.inl rfl, le_refl_of_not_isNaN hx, le_of_lt h⟩
  · next h => exact ⟨.inr rfl, (not_lt_iff_le hy hx).mp h, le_refl_of_not_isNaN hy⟩

theorem least_cases (hx : ¬x.isNaN) (hy : ¬y.isNaN) :
    (least x y = x ∨ least x y = y) ∧ least x y ≤ x ∧ least x y ≤ y := by
  unfold least
  split
  · next h => exact ⟨.inl rfl, le_refl_of_not_isNaN hx, le_of_lt h⟩
  · next h => exact ⟨.inr rfl, (not_lt_iff_le hx hy).mp h, le_refl_of_not_isNaN hy⟩

theorem Outermost.greatest {part : Coordinate → Float} (hpart : ∀ c, ¬(part c).isNaN)
    (h : Outermost (fun x y => x ≤ y) part cs x) :
    Outermost (fun x y => x ≤ y) part (cs ++ [c]) (greatest x (part c)) := by
  obtain ⟨c', -, rfl⟩ := h.attained
  obtain ⟨hcases, hx, hc⟩ := greatest_cases (hpart c') (hpart c)
  exact h.concat le_trans_float hcases hx hc

theorem Outermost.least {part : Coordinate → Float} (hpart : ∀ c, ¬(part c).isNaN)
    (h : Outermost (fun x y => y ≤ x) part cs x) :
    Outermost (fun x y => y ≤ x) part (cs ++ [c]) (least x (part c)) := by
  obtain ⟨c', -, rfl⟩ := h.attained
  obtain ⟨hcases, hx, hc⟩ := least_cases (hpart c') (hpart c)
  exact h.concat (fun hxy hyz => le_trans_float hyz hxy) hcases hx hc

theorem hugs_ofCoordinate (c : Coordinate) : (ofCoordinate c).Hugs [c] := by
  have hlat : c.latitude ≤ c.latitude := le_refl_of_not_isNaN (not_isNaN_latitude c)
  have hlon : c.longitude ≤ c.longitude := le_refl_of_not_isNaN (not_isNaN_longitude c)
  constructor <;> exact ⟨⟨c, List.mem_singleton_self c, rfl⟩, List.forall_mem_singleton.mpr ‹_›⟩

/-- Bounds that are extended to one more coordinate fit as tightly. -/
theorem Hugs.extend (h : b.Hugs cs) (c : Coordinate) : (b.extend c).Hugs (cs ++ [c]) where
  north := h.north.greatest not_isNaN_latitude
  south := h.south.least not_isNaN_latitude
  east := h.east.greatest not_isNaN_longitude
  west := h.west.least not_isNaN_longitude

/-- So do those that are extended to any number of coordinates. -/
theorem Hugs.foldl (h : b.Hugs cs) (cs' : List Coordinate) :
    (cs'.foldl Bounds.extend b).Hugs (cs ++ cs') := by
  induction cs' generalizing b cs with
  | nil => rwa [List.append_nil]
  | cons c cs' ih =>
      rw [List.append_cons]
      exact ih (h.extend c)

theorem enclosing_eq_none_iff : enclosing cs = none ↔ cs = [] := by
  cases cs with
  | nil => exact iff_of_true rfl rfl
  | cons c cs => exact iff_of_false nofun nofun

theorem hugs_of_enclosing (h : enclosing cs = some b) : b.Hugs cs := by
  cases cs with
  | nil => cases h
  | cons c cs =>
      obtain rfl := Option.some.inj h
      exact (hugs_ofCoordinate c).foldl cs

/-! ## The smallest bounds -/

/-- The bounds are accepted, do not cross the antimeridian, contain the coordinates, have a
coordinate on every side and lie in all others that do not cross the antimeridian and contain the
coordinates. -/
structure IsSmallestAround (b : Bounds) (cs : List Coordinate) : Prop where
  accepted : of b.north b.south b.east b.west = .ok b
  straight : b.crossesAntimeridian = false
  contains : ∀ c ∈ cs, b.contains c = true
  north : ∃ c ∈ cs, c.latitude = b.north
  south : ∃ c ∈ cs, c.latitude = b.south
  east : ∃ c ∈ cs, c.longitude = b.east
  west : ∃ c ∈ cs, c.longitude = b.west
  least : ∀ b' : Bounds, b'.crossesAntimeridian = false → (∀ c ∈ cs, b'.contains c = true) →
    ∀ lon lat, b.containsPosition lon lat = true → b'.containsPosition lon lat = true

/-- The sides are the same numbers, whatever the signs of zeros. -/
structure SameNumbers (b b' : Bounds) : Prop where
  north : (b.north == b'.north) = true
  south : (b.south == b'.south) = true
  east : (b.east == b'.east) = true
  west : (b.west == b'.west) = true

theorem Hugs.le (h : b.Hugs cs) : b.south ≤ b.north ∧ b.west ≤ b.east := by
  obtain ⟨c, hc, hsouth⟩ := h.south.attained
  obtain ⟨c', hc', hwest⟩ := h.west.attained
  rw [← hsouth, ← hwest]
  exact ⟨h.north.limits c hc, h.east.limits c' hc'⟩

theorem Hugs.accepted (h : b.Hugs cs) : of b.north b.south b.east b.west = .ok b := by
  obtain ⟨c₁, -, hnorth⟩ := h.north.attained
  obtain ⟨c₂, -, hsouth⟩ := h.south.attained
  obtain ⟨c₃, -, heast⟩ := h.east.attained
  obtain ⟨c₄, -, hwest⟩ := h.west.attained
  refine of_eq_ok_iff.mpr ⟨rfl, ?_, ?_, h.le.1, ?_, ?_⟩
  · exact hnorth ▸ c₁.latitude_valid
  · exact hsouth ▸ c₂.latitude_valid
  · exact heast ▸ c₃.longitude_valid
  · exact hwest ▸ c₄.longitude_valid

/-- What does not cross the antimeridian contains a position if no side rules it out. -/
theorem containsPosition_iff_of_straight {lon lat : Float} (h : b.crossesAntimeridian = false) :
    b.containsPosition lon lat = true ↔
      ¬lat < b.south ∧ ¬b.north < lat ∧ b.west ≤ lon ∧ lon ≤ b.east := by
  unfold containsPosition spans
  rw [h]
  by_cases hsouth : lat < b.south
  · simp [hsouth]
  · by_cases hnorth : b.north < lat
    · simp [hnorth]
    · simp [hsouth, hnorth]

theorem Hugs.straight (h : b.Hugs cs) : b.crossesAntimeridian = false := by
  obtain ⟨hwest, heast⟩ := not_isNaN_of_le h.le.2
  exact decide_eq_false ((not_lt_iff_le heast hwest).mpr h.le.2)

theorem Hugs.contains (h : b.Hugs cs) (hc : c ∈ cs) : b.contains c = true := by
  obtain ⟨hsouth, hnorth⟩ := not_isNaN_of_le h.le.1
  have hlat := not_isNaN_latitude c
  exact (containsPosition_iff_of_straight h.straight).mpr
    ⟨(not_lt_iff_le hlat hsouth).mpr (h.south.limits c hc),
      (not_lt_iff_le hnorth hlat).mpr (h.north.limits c hc), h.west.limits c hc,
      h.east.limits c hc⟩

/-- Bounds that contain a coordinate on each side reach as far as that side. -/
theorem Hugs.least (h : b.Hugs cs) {b' : Bounds} (hstraight : b'.crossesAntimeridian = false)
    (hcontains : ∀ c ∈ cs, b'.contains c = true) {lon lat : Float}
    (hin : b.containsPosition lon lat = true) : b'.containsPosition lon lat = true := by
  have hin' (c : Coordinate) (hc : c ∈ cs) :=
    (containsPosition_iff_of_straight hstraight).mp (hcontains c hc)
  obtain ⟨hsouth, hnorth, hwest, heast⟩ := (containsPosition_iff_of_straight h.straight).mp hin
  obtain ⟨hsouthNumber, hnorthNumber⟩ := not_isNaN_of_le h.le.1
  refine (containsPosition_iff_of_straight hstraight).mpr ⟨fun hlt => ?_, fun hlt => ?_, ?_, ?_⟩
  · obtain ⟨c, hc, hattained⟩ := h.south.attained
    have hlat := (not_isNaN_of_lt hlt).1
    have hle : b.south ≤ lat := (not_lt_iff_le hlat hsouthNumber).mp hsouth
    exact (hin' c hc).1 (hattained ▸ lt_of_le_of_lt_float hle hlt)
  · obtain ⟨c, hc, hattained⟩ := h.north.attained
    have hlat := (not_isNaN_of_lt hlt).2
    have hle : lat ≤ b.north := (not_lt_iff_le hnorthNumber hlat).mp hnorth
    exact (hin' c hc).2.1 (hattained ▸ lt_of_lt_of_le_float hlt hle)
  · obtain ⟨c, hc, hattained⟩ := h.west.attained
    exact le_trans_float (hattained ▸ (hin' c hc).2.2.1) hwest
  · obtain ⟨c, hc, hattained⟩ := h.east.attained
    exact le_trans_float heast (hattained ▸ (hin' c hc).2.2.2)

theorem Hugs.isSmallestAround (h : b.Hugs cs) : b.IsSmallestAround cs where
  accepted := h.accepted
  straight := h.straight
  contains _ hc := h.contains hc
  north := h.north.attained
  south := h.south.attained
  east := h.east.attained
  west := h.west.attained
  least _ hstraight hcontains _ _ hin := h.least hstraight hcontains hin

/-- Coordinates that occur in both lists limit one another. -/
theorem Outermost.within {within : Float → Float → Prop} {part : Coordinate → Float}
    (h : Outermost within part cs x) (h' : Outermost within part cs' y) (hsub : cs ⊆ cs') :
    within x y := by
  obtain ⟨c, hc, rfl⟩ := h.attained
  exact h'.limits c (hsub hc)

theorem Hugs.sameNumbers {b' : Bounds} (h : b.Hugs cs) (h' : b'.Hugs cs')
    (hsame : ∀ c, c ∈ cs ↔ c ∈ cs') : b.SameNumbers b' := by
  have hsub : cs ⊆ cs' := fun c => (hsame c).mp
  have hsub' : cs' ⊆ cs := fun c => (hsame c).mpr
  constructor
  · exact beq_of_le_of_le (h.north.within h'.north hsub) (h'.north.within h.north hsub')
  · exact beq_of_le_of_le (h'.south.within h.south hsub') (h.south.within h'.south hsub)
  · exact beq_of_le_of_le (h.east.within h'.east hsub) (h'.east.within h.east hsub')
  · exact beq_of_le_of_le (h'.west.within h.west hsub') (h.west.within h'.west hsub)

end

end Bounds

end Geodesy

namespace Selection

open Geodesy

/-- The smallest bounds around the entities that lie somewhere. -/
def boundingBox (a : Atlas) (s : Selection) : Option Bounds :=
  Bounds.enclosing (s.items.filterMap a.position?)

variable {a : Atlas} {s : Selection}

theorem boundingBox_eq_none_iff :
    s.boundingBox a = Option.none ↔ ∀ r ∈ s.items, a.position? r = Option.none := by
  rw [boundingBox, Bounds.enclosing_eq_none_iff, List.filterMap_eq_nil_iff]

/-- The bounding box of a selection keeps the entities that lie somewhere. -/
theorem withinBounds_boundingBox {b : Bounds} (h : s.boundingBox a = some b) :
    s.withinBounds a b.north b.south b.east b.west =
      .ok { kind := s.kind, items := s.items.filter fun r => (a.position? r).isSome } := by
  have hhugs := Bounds.hugs_of_enclosing h
  have hitems : s.items.filter (fun r => (a.position? r).any b.contains) =
      s.items.filter fun r => (a.position? r).isSome := by
    refine List.filter_congr fun r hr => ?_
    cases hposition : a.position? r with
    | none => rfl
    | some c => exact hhugs.contains (List.mem_filterMap.mpr ⟨r, hr, hposition⟩)
  rw [withinBounds, hhugs.accepted]
  show Except.ok _ = _
  rw [filterPosition, hitems]
  rfl

end Selection

namespace Geodesy.Bounds

/-- **The bounds around coordinates are the smallest that do not cross the antimeridian**, and only
around none are there none. They depend neither on the order of the coordinates nor on their
repetition, and those around the entities of a selection keep the entities that lie somewhere. -/
theorem enclosing_smallest (c : Coordinate) (cs : List Coordinate) (a : Atlas) (s : Selection) :
    enclosing [] = none ∧
    (∃ b, enclosing (c :: cs) = some b ∧ b.IsSmallestAround (c :: cs) ∧
      ∀ cs', (∀ c', c' ∈ cs' ↔ c' ∈ c :: cs) →
        ∃ b', enclosing cs' = some b' ∧ b'.SameNumbers b) ∧
    (s.boundingBox a = none ↔ ∀ r ∈ s.items, a.position? r = none) ∧
    (∀ b, s.boundingBox a = some b → s.withinBounds a b.north b.south b.east b.west =
      .ok { kind := s.kind, items := s.items.filter fun r => (a.position? r).isSome }) := by
  refine ⟨rfl, ⟨_, rfl, ?_, ?_⟩, Selection.boundingBox_eq_none_iff,
    fun b => Selection.withinBounds_boundingBox⟩
  · exact (hugs_of_enclosing rfl).isSmallestAround
  · intro cs' hsame
    cases henclosing : enclosing cs' with
    | none =>
        obtain rfl := enclosing_eq_none_iff.mp henclosing
        exact absurd ((hsame c).mpr List.mem_cons_self) List.not_mem_nil
    | some b' =>
        have hhugs := hugs_of_enclosing henclosing
        exact ⟨b', rfl, hhugs.sameNumbers (hugs_of_enclosing rfl) hsame⟩

end Geodesy.Bounds

end Gazetteer
