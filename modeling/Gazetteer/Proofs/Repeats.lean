import Gazetteer.Proofs.Query

/-!
# Dropping repeats

`Selection.dropRepeats` keeps the first entity for each key. Two entities have one key if they are
the same, or if both show one id that is not empty (`Atlas.distinctKey_eq_iff`). The main statement
follows the selection from entity to entity: the next one is kept if its key is new, and otherwise
one with its key has been kept before (`dropRepeats_keeps_first`).
-/

namespace Gazetteer

namespace Atlas

/-- The id that has been given to an entity, as far as somebody may look at it. -/
def shownId? (a : Atlas) (r : Ref) : Option String := (a.free? r).bind (·.details.id)

/-- An entity is known by an id that is not empty, or by itself. -/
theorem distinctKey_cases (a : Atlas) (r : Ref) :
    (∃ id, id ≠ "" ∧ a.shownId? r = some id ∧ a.distinctKey r = .declared id) ∨
      (∀ id, id ≠ "" → a.shownId? r ≠ some id) ∧ a.distinctKey r = .itself r := by
  have hkey : a.distinctKey r =
      ((a.shownId? r).filter (· ≠ "")).elim (.itself r) DistinctKey.declared := by
    rw [distinctKey, shownId?]
    cases ((a.free? r).bind (·.details.id)).filter (· ≠ "") <;> rfl
  cases hid : a.shownId? r with
  | none =>
      rw [hid] at hkey
      exact .inr ⟨nofun, hkey⟩
  | some id =>
      rw [hid] at hkey
      by_cases hempty : id = ""
      · rw [Option.filter_some_neg (by simpa using hempty)] at hkey
        refine .inr ⟨?_, hkey⟩
        intro id' hne heq
        exact hne ((Option.some.inj heq).symm.trans hempty)
      · rw [Option.filter_some_pos (by simpa using hempty)] at hkey
        exact .inl ⟨id, hempty, rfl, hkey⟩

/-- **When entities have one key.** -/
theorem distinctKey_eq_iff {a : Atlas} {q r : Ref} :
    a.distinctKey q = a.distinctKey r ↔
      q = r ∨ ∃ id, id ≠ "" ∧ a.shownId? q = some id ∧ a.shownId? r = some id := by
  constructor
  · intro h
    rcases distinctKey_cases a q with ⟨id, hne, hq, hqkey⟩ | ⟨-, hqkey⟩ <;>
      rcases distinctKey_cases a r with ⟨id', -, hr, hrkey⟩ | ⟨-, hrkey⟩ <;>
      rw [hqkey, hrkey] at h <;> cases h
    · exact .inr ⟨id, hne, hq, hr⟩
    · exact .inl rfl
  · rintro (rfl | ⟨id, hne, hq, hr⟩)
    · rfl
    · have hkey : ∀ s, a.shownId? s = some id → a.distinctKey s = .declared id := by
        intro s hs
        rcases distinctKey_cases a s with ⟨id', -, hs', hskey⟩ | ⟨hnone, -⟩
        · obtain rfl := Option.some.inj (hs.symm.trans hs')
          exact hskey
        · exact absurd hs (hnone id hne)
      rw [hkey q hq, hkey r hr]

end Atlas

namespace Selection

variable {a : Atlas} {s : Selection}

/-- What is kept of the first entities of a selection. -/
def keptOf (a : Atlas) (s : Selection) (n : Nat) : List Ref := ((s.slice 0 n).dropRepeats a).items

theorem keptOf_eq (a : Atlas) (s : Selection) (n : Nat) :
    s.keptOf a n = firstBy a.distinctKey (s.items.take n) :=
  rfl

/-- What the next entity adds to what is kept. -/
theorem keptOf_succ {n : Nat} {r : Ref} (h : s.items[n]? = some r) :
    s.keptOf a (n + 1) =
      if ∀ q ∈ s.items.take n, a.distinctKey r ≠ a.distinctKey q then s.keptOf a n ++ [r]
      else s.keptOf a n := by
  rw [keptOf_eq, keptOf_eq, List.take_add_one, h]
  exact firstBy_concat (s.items.take n) r

/-- To drop repeats twice is to drop them once. -/
theorem dropRepeats_dropRepeats (a : Atlas) (s : Selection) :
    (s.dropRepeats a).dropRepeats a = s.dropRepeats a :=
  congrArg (fun items => { s with items := items, distinct := true })
    (firstBy_eq_self (pairwise_firstBy s.items))

/-- **The first entity for each key is kept, and no other.** What is kept stands in the order of the
selection, and no two entities in it have one key. Of each entity it can be said when its turn comes
whether it is kept: either its key is new and it follows what has been kept so far, or its key is
that of an entity which has been kept. So what is kept of the first entities comes first among what
is kept of all, and nothing is left to drop afterwards. -/
theorem dropRepeats_keeps_first (a : Atlas) (s : Selection) :
    (∀ q r, a.distinctKey q = a.distinctKey r ↔
      q = r ∨ ∃ id, id ≠ "" ∧ a.shownId? q = some id ∧ a.shownId? r = some id) ∧
    (s.dropRepeats a).items.Sublist s.items ∧
    (s.dropRepeats a).items.Pairwise (fun q r => a.distinctKey q ≠ a.distinctKey r) ∧
    (∀ n r, s.items[n]? = some r →
      (∀ q ∈ s.items.take n, a.distinctKey r ≠ a.distinctKey q) ∧
          s.keptOf a (n + 1) = s.keptOf a n ++ [r] ∨
        (∃ q ∈ s.keptOf a n, a.distinctKey q = a.distinctKey r) ∧
          s.keptOf a (n + 1) = s.keptOf a n) ∧
    (∀ n, s.keptOf a n <+: (s.dropRepeats a).items) ∧
    (s.dropRepeats a).dropRepeats a = s.dropRepeats a := by
  refine ⟨fun q r => Atlas.distinctKey_eq_iff, firstBy_sublist s.items, pairwise_firstBy s.items,
    fun n r hr => ?_, fun n => ?_, dropRepeats_dropRepeats a s⟩
  · rw [keptOf_succ hr]
    split
    · next hnew => exact .inl ⟨hnew, rfl⟩
    · next hold =>
        -- the first entity with the key is among those that have been kept
        simp only [not_forall, not_not] at hold
        obtain ⟨q, hq, hkey⟩ := hold
        obtain ⟨k, hk, hkq⟩ : ∃ k ∈ s.keptOf a n, a.distinctKey k = a.distinctKey q :=
          exists_mem_firstBy hq
        exact .inr ⟨⟨k, hk, hkq.trans hkey.symm⟩, rfl⟩
  · have hsplit : firstBy a.distinctKey (s.items.take n) <+:
        firstBy a.distinctKey (s.items.take n ++ s.items.drop n) := firstBy_prefix_append _ _
    rwa [List.take_append_drop] at hsplit

theorem dropRepeats_keeps_first_doubles :
    ∃ s : Selection, s.items[2]? = some ⟨.point, 2⟩ ∧
      doubles.distinctKey ⟨.point, 0⟩ = doubles.distinctKey ⟨.point, 2⟩ ∧
      s.keptOf doubles 3 = s.keptOf doubles 2 ∧
      s.keptOf doubles 2 <+: (s.dropRepeats doubles).items ∧
      (s.dropRepeats doubles).items = [⟨.point, 0⟩, ⟨.point, 1⟩] := by
  let s : Selection :=
    { kind := .point, items := [⟨.point, 0⟩, ⟨.point, 0⟩, ⟨.point, 2⟩, ⟨.point, 1⟩] }
  obtain ⟨hkey, -, -, hstep, hprefix, -⟩ := dropRepeats_keeps_first doubles s
  have hsame : doubles.distinctKey ⟨.point, 0⟩ = doubles.distinctKey ⟨.point, 2⟩ :=
    (hkey _ _).mpr (.inr ⟨"x", by decide, rfl, rfl⟩)
  refine ⟨s, rfl, hsame, ?_, hprefix 2, by decide⟩
  rcases hstep 2 ⟨.point, 2⟩ rfl with ⟨hnew, -⟩ | ⟨-, hkept⟩
  · exact absurd hsame.symm (hnew ⟨.point, 0⟩ (by decide))
  · exact hkept

end Selection

end Gazetteer
