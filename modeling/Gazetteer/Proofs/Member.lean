import Gazetteer.Value.Basic

/-!
# Members of objects

`Value.ofMembers` puts members into an object one after the other. What the object has under a key
is what the last member with that key has (`Value.member?_ofMembers`), and its keys stand in
ascending order, each of them once (`Value.pairwise_keys_ofMembers`).
-/

namespace Gazetteer

namespace Value

variable {members : List (String × Value)} {key : String} {v : Value}

/-- The keys of an object. -/
def keys : Value → List String
  | .object members => members.map (·.1)
  | _ => []

theorem isSome_lookup_iff : (members.lookup key).isSome ↔ key ∈ members.map (·.1) := by
  rw [List.lookup_isSome_iff, List.mem_map]
  refine exists_congr fun m => and_congr_right fun _ => ?_
  rw [beq_iff_eq, eq_comm]

theorem mem_keys_iff {x : Value} : key ∈ x.keys ↔ (x.member? key).isSome := by
  cases x with
  | object members => exact isSome_lookup_iff.symm
  | _ => simp [keys, member?]

/-! ## One member more -/

theorem lookup_insertMember (key k : String) (v : Value) (members : List (String × Value)) :
    (insertMember k v members).lookup key = if key = k then some v else members.lookup key := by
  induction members with
  | nil =>
      by_cases h : key = k
      · simp [insertMember, h]
      · simp [insertMember, h, List.lookup_cons, beq_eq_false_iff_ne.mpr h]
  | cons m members ih =>
      obtain ⟨l, w⟩ := m
      rw [insertMember]
      split
      · by_cases h : key = k
        · simp [h]
        · simp [h, List.lookup_cons, beq_eq_false_iff_ne.mpr h]
      · split
        · next hkl =>
            subst hkl
            by_cases h : key = k
            · simp [h]
            · simp [h, List.lookup_cons, beq_eq_false_iff_ne.mpr h]
        · next hkl =>
            rw [List.lookup_cons, ih, List.lookup_cons]
            by_cases h : key = k
            · subst h
              simp [beq_eq_false_iff_ne.mpr hkl]
            · simp only [if_neg h]

theorem mem_insertMember {m : String × Value} (h : m ∈ insertMember key v members) :
    m = (key, v) ∨ m ∈ members := by
  induction members with
  | nil => exact .inl (List.mem_singleton.mp h)
  | cons l members ih =>
      rw [insertMember] at h
      split at h
      · exact List.mem_cons.mp h
      · split at h
        · exact (List.mem_cons.mp h).imp_right (List.mem_cons_of_mem l)
        · rcases List.mem_cons.mp h with rfl | h
          · exact .inr List.mem_cons_self
          · exact (ih h).imp_right (List.mem_cons_of_mem l)

theorem pairwise_insertMember (h : members.Pairwise fun l m => l.1 < m.1) :
    (insertMember key v members).Pairwise fun l m => l.1 < m.1 := by
  induction h with
  | nil => exact List.pairwise_singleton _ _
  | @cons l members hl hmembers ih =>
      rw [insertMember]
      split
      · next hlt =>
          refine .cons ?_ (.cons hl hmembers)
          intro m hm
          rcases List.mem_cons.mp hm with rfl | hm
          · exact hlt
          · exact String.lt_trans hlt (hl m hm)
      · next hlt =>
          split
          · next heq =>
              subst heq
              exact .cons hl hmembers
          · next hne =>
              refine .cons ?_ ih
              intro m hm
              rcases mem_insertMember hm with rfl | hm
              · exact Std.lt_of_le_of_ne (String.not_lt.mp hlt) (Ne.symm hne)
              · exact hl m hm

/-! ## All members -/

theorem lookup_foldl_insertMember (members acc : List (String × Value)) (key : String) :
    (members.foldl (fun acc m => insertMember m.1 m.2 acc) acc).lookup key =
      (members.reverse.lookup key).or (acc.lookup key) := by
  -- what is in the accumulator yields to every member that is still to come
  induction members generalizing acc with
  | nil => rfl
  | cons m members ih =>
      obtain ⟨k, v⟩ := m
      rw [List.foldl_cons, ih, lookup_insertMember, List.reverse_cons, List.lookup_append,
        Option.or_assoc]
      by_cases h : key = k
      · simp [h]
      · simp [h, List.lookup_cons, beq_eq_false_iff_ne.mpr h]

/-- **Of several members with one key the last counts.** -/
theorem member?_ofMembers (members : List (String × Value)) (key : String) :
    (ofMembers members).member? key = members.reverse.lookup key := by
  show (members.foldl _ []).lookup key = _
  rw [lookup_foldl_insertMember, List.lookup_nil, Option.or_none]

/-- If members with one key have one value, all of them are in the object. -/
theorem member?_ofMembers_eq_some_iff
    (h : ∀ k x y, (k, x) ∈ members → (k, y) ∈ members → x = y) :
    (ofMembers members).member? key = some v ↔ (key, v) ∈ members := by
  rw [member?_ofMembers]
  have hmem : ∀ x, members.reverse.lookup key = some x → (key, x) ∈ members := by
    intro x hx
    obtain ⟨front, rest, heq, -⟩ := List.lookup_eq_some_iff.mp hx
    apply List.mem_reverse.mp
    rw [heq]
    exact List.mem_append_right front List.mem_cons_self
  constructor
  · exact hmem v
  · intro hv
    have hsome : (members.reverse.lookup key).isSome :=
      isSome_lookup_iff.mpr (List.mem_map.mpr ⟨(key, v), List.mem_reverse.mpr hv, rfl⟩)
    obtain ⟨x, hx⟩ := Option.isSome_iff_exists.mp hsome
    rw [hx, h key x v (hmem x hx) hv]

/-- What things that have names show, put under their names. -/
theorem member?_ofMembers_map_eq_some_iff {α : Type} {l : List α} {name : α → String}
    {get : α → Value} (h : ∀ x ∈ l, ∀ y ∈ l, name x = name y → get x = get y) :
    (ofMembers (l.map fun x => (name x, get x))).member? key = some v ↔
      ∃ x ∈ l, name x = key ∧ get x = v := by
  have hsame : ∀ k u w, (k, u) ∈ l.map (fun x => (name x, get x)) →
      (k, w) ∈ l.map (fun x => (name x, get x)) → u = w := by
    intro k u w hu hw
    obtain ⟨x, hx, hxu⟩ := List.mem_map.mp hu
    obtain ⟨y, hy, hyw⟩ := List.mem_map.mp hw
    obtain ⟨rfl, rfl⟩ := Prod.mk.inj hxu
    obtain ⟨hname, rfl⟩ := Prod.mk.inj hyw
    exact h x hx y hy hname.symm
  rw [member?_ofMembers_eq_some_iff hsame, List.mem_map]
  simp only [Prod.mk.injEq]

/-- **The keys of an object ascend.** -/
theorem pairwise_keys_ofMembers (members : List (String × Value)) :
    (ofMembers members).keys.Pairwise (· < ·) := by
  have hfold : ∀ acc : List (String × Value), acc.Pairwise (fun l m => l.1 < m.1) →
      (members.foldl (fun acc m => insertMember m.1 m.2 acc) acc).Pairwise
        (fun l m => l.1 < m.1) := by
    induction members with
    | nil => exact fun acc hacc => hacc
    | cons m members ih => exact fun acc hacc => ih _ (pairwise_insertMember hacc)
  exact List.pairwise_map.mpr (hfold [] .nil)

theorem nodup_keys_ofMembers (members : List (String × Value)) : (ofMembers members).keys.Nodup :=
  (pairwise_keys_ofMembers members).imp String.ne_of_lt

end Value

end Gazetteer
