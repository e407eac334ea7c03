import Gazetteer.Proofs.Lines

/-!
# Configurations as texts

A valid configuration within the limits of the notation is written as a text that is read as the
same configuration, whatever its settings are, and no other configuration is read from what it is
written as (`exists_text_iff`). Each setting stands on a line of its own, so that a text is read line
by line (`Toml.read?_document`). What is read from a text, whoever has written it, is valid and
within these limits (`lt_of_ofEntries?`), so that it can be built, written and read again.
-/

namespace Gazetteer.Geodesy

open Toml (Line Spells)

namespace Config

variable {c : Config} {s : String}

/-! ## Writing -/

/-- The lines of a configuration. -/
def lines (c : Config) : List Line := [
  ⟨"strategy", "\"" ++ c.strategy.name ++ "\"", .string c.strategy.name⟩,
  ⟨"high_accuracy", if c.highAccuracy then "true" else "false", .boolean c.highAccuracy⟩,
  ⟨"max_iterations", toString c.maxIterations, .integer c.maxIterations⟩,
  ⟨"tolerance", floatLayout.text c.tolerance, .float c.tolerance⟩,
  ⟨"cache_capacity", toString c.cacheCapacity, .integer c.cacheCapacity⟩,
  ⟨"unit", "\"" ++ c.unit.name ++ "\"", .string c.unit.name⟩]

theorem toToml_eq (h : c.cacheCapacity < writableCapacity) :
    c.toToml = .ok (Toml.document c.lines) := by
  rw [toToml, if_neg (Nat.not_le.mpr h)]
  rfl

example : standard.toToml = .ok ("strategy = \"haversine\"\nhigh_accuracy = false\n" ++
    "max_iterations = 100\ntolerance = 0.000000000001\ncache_capacity = 1024\n" ++
    "unit = \"kilometers\"\n") := by
  rw [toToml_eq (by decide)]
  exact congrArg Except.ok (by decide +kernel)

theorem map_key_lines (c : Config) : c.lines.map Line.key =
    ["strategy", "high_accuracy", "max_iterations", "tolerance", "cache_capacity", "unit"] := rfl

theorem isPlain_of_mem_lines (htolerance : c.tolerance.isFinite)
    (hiterations : c.maxIterations < 0x100000000) (hcapacity : c.cacheCapacity < writableCapacity) :
    ∀ l ∈ c.lines, l.IsPlain := by
  have hkeys : ∀ key ∈ c.lines.map Line.key,
      (key.toList.all Toml.isBareKeyChar && !key.toList.isEmpty) = true := by
    rw [map_key_lines]
    apply List.all_eq_true.mp
    decide
  have hspells : ∀ l ∈ c.lines, Spells l.text.toList l.item := by
    simp only [lines, List.forall_mem_cons]
    refine ⟨Toml.spells_quoted ?_, Toml.spells_boolean c.highAccuracy, Toml.spells_natural ?_,
      Toml.spells_float htolerance, Toml.spells_natural hcapacity, Toml.spells_quoted ?_, nofun⟩
    · cases c.strategy <;> decide
    · omega
    · cases c.unit <;> decide
  intro l hl
  obtain ⟨hbare, hne⟩ := Bool.and_eq_true_iff.mp (hkeys l.key (List.mem_map_of_mem hl))
  exact ⟨List.all_eq_true.mp hbare, by simpa using hne, hspells l hl⟩

/-! ## Reading -/

theorem natural?_of_lt {limit n : Nat} (h : n < limit) : natural? limit (.integer n) = some n := by
  rw [natural?, if_pos (by omega), Int.toNat_natCast]

theorem ofName?_strategy (k : StrategyKind) : StrategyKind.ofName? k.name = some k := by
  cases k <;> decide

theorem ofName?_unit (u : DistanceUnit) : DistanceUnit.ofName? u.name = some u := by
  cases u <;> decide

/-- Each setting is found under its key. -/
theorem ofEntries?_lines (hiterations : c.maxIterations < 0x100000000)
    (hcapacity : c.cacheCapacity < writableCapacity) :
    ofEntries? (c.lines.map Line.entry) = some c := by
  simp [ofEntries?, lines, Line.entry, setting, List.lookup_cons, choiceName?, boolean?, number?,
    natural?_of_lt hiterations, natural?_of_lt hcapacity, ofName?_strategy, ofName?_unit]

theorem lt_of_setting {key : String} {standard limit n : Nat} {es : Toml.Entries}
    (hstandard : standard < limit) (h : setting key standard (natural? limit) es = some n) :
    n < limit := by
  unfold setting at h
  split at h
  · obtain rfl := Option.some.inj h
    exact hstandard
  · unfold natural? at h
    split at h
    · split at h
      · next hn =>
          obtain rfl := Option.some.inj h
          omega
      · cases h
    · cases h

/-- What is read is within the limits of what can be written. -/
theorem lt_of_ofEntries? {es : Toml.Entries} (h : ofEntries? es = some c) :
    c.maxIterations < 0x100000000 ∧ c.cacheCapacity < writableCapacity := by
  simp only [ofEntries?, Option.bind_eq_bind, Option.bind_eq_some_iff] at h
  obtain ⟨strategy, -, accuracy, -, iterations, hiterations, tolerance, -, capacity, hcapacity, unit,
    -, hc⟩ := h
  obtain rfl := Option.some.inj hc
  exact ⟨lt_of_setting (by decide) hiterations, lt_of_setting (by decide) hcapacity⟩

theorem isFinite_of_check (h : c.check = .ok ()) : c.tolerance.isFinite := by
  unfold check at h
  split at h
  · cases h
  · split at h
    · next htolerance => exact (Bool.and_eq_true_iff.mp htolerance).1
    · cases h

theorem ofToml_eq_ok_iff :
    ofToml s = .ok c ↔ (Toml.read? s).bind ofEntries? = some c ∧ c.check = .ok () := by
  unfold ofToml
  split
  · next hread => simp [hread]
  · next d hread =>
      rw [hread]
      cases hd : d.check with
      | error e =>
          refine iff_of_false nofun ?_
          rintro ⟨hdc, hc⟩
          rw [← Option.some.inj hdc, hd] at hc
          cases hc
      | ok u =>
          constructor
          · intro h
            obtain rfl : d = c := Except.ok.inj h
            exact ⟨rfl, hd⟩
          · rintro ⟨hdc, -⟩
            rw [← Option.some.inj hdc]
            rfl

/-! ## Both ways -/

theorem exists_text_iff (c : Config) : (∃ s, c.toToml = .ok s ∧ ofToml s = .ok c) ↔
    c.check = .ok () ∧ c.maxIterations < 0x100000000 ∧ c.cacheCapacity < writableCapacity := by
  constructor
  · rintro ⟨s, -, hs⟩
    obtain ⟨hread, hcheck⟩ := ofToml_eq_ok_iff.mp hs
    obtain ⟨es, -, hes⟩ := Option.bind_eq_some_iff.mp hread
    exact ⟨hcheck, lt_of_ofEntries? hes⟩
  · rintro ⟨hcheck, hiterations, hcapacity⟩
    refine ⟨_, toToml_eq hcapacity, ofToml_eq_ok_iff.mpr ⟨?_, hcheck⟩⟩
    have hlines := isPlain_of_mem_lines (isFinite_of_check hcheck) hiterations hcapacity
    have hkeys : (c.lines.map Line.key).Nodup := by
      rw [map_key_lines]
      decide
    rw [Toml.read?_document hlines hkeys, Option.bind_some, ofEntries?_lines hiterations hcapacity]

theorem build_of_check (h : c.check = .ok ()) : ∃ g, c.build = .ok g := by
  rw [build, h]
  exact ⟨_, rfl⟩

/-- **A configuration and its text.** Exactly the valid configurations within the limits of the
notation are written as a text that is read as the same configuration. And what is read from any
text is valid, has a gauge, and can be written and read again. To have a gauge means that building
one returns no error; whether there is room for a memo as large as asked for is not part of it. -/
theorem ofToml_toToml :
    (∀ c : Config, (∃ s, c.toToml = .ok s ∧ ofToml s = .ok c) ↔
      c.check = .ok () ∧ c.maxIterations < 0x100000000 ∧ c.cacheCapacity < writableCapacity) ∧
    ∀ s c, ofToml s = .ok c →
      c.check = .ok () ∧ (∃ g, c.build = .ok g) ∧ ∃ t, c.toToml = .ok t ∧ ofToml t = .ok c := by
  refine ⟨exists_text_iff, ?_⟩
  intro s c h
  obtain ⟨hread, hcheck⟩ := ofToml_eq_ok_iff.mp h
  obtain ⟨es, -, hes⟩ := Option.bind_eq_some_iff.mp hread
  exact ⟨hcheck, build_of_check hcheck, (exists_text_iff c).mpr ⟨hcheck, lt_of_ofEntries? hes⟩⟩

/-- The least tolerance and the greatest numbers that can be written. -/
def extreme : Config where
  strategy := .adaptive
  highAccuracy := true
  maxIterations := 4294967295
  tolerance := 5e-324
  cacheCapacity := 9223372036854775807
  unit := .nauticalMiles

theorem ofToml_toToml_extreme :
    (∃ s, extreme.toToml = .ok s ∧ ofToml s = .ok extreme) ∧
    let roomy : Config := { extreme with cacheCapacity := Memo.defaultCapacity }
    ∃ s, roomy.toToml = .ok s ∧ ofToml s = .ok roomy ∧ ∃ g, roomy.build = .ok g := by
  have hcheck : extreme.check = .ok () := by
    have htolerance : (extreme.tolerance.isFinite && 0.0 < extreme.tolerance) = true := by
      decide +kernel
    rw [check, if_neg (by decide), if_pos htolerance]
  refine ⟨(ofToml_toToml.1 extreme).mpr ⟨hcheck, by decide, by decide⟩, ?_⟩
  intro roomy
  obtain ⟨s, hs, hread⟩ := (ofToml_toToml.1 roomy).mpr ⟨hcheck, by decide, by decide⟩
  exact ⟨s, hs, hread, (ofToml_toToml.2 s roomy hread).2.1⟩

end Config

end Gazetteer.Geodesy
