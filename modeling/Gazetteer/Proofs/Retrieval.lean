import Gazetteer.Proofs.Filter
import Gazetteer.Proofs.Rejection

/-!
# Getting an entity or creating it

`Atlas.getOrCreate` searches a shelf while the folder of the shelf is hidden. So it finds what
`Selection.get` finds, except that entities show no parent if that is the folder
(`Atlas.getOrCreate_follows_search`). An entity that has been created is found by the same criteria
exactly if it shows all of them (`Atlas.getOrCreate_again`).
-/

namespace Gazetteer

namespace Selection

variable {a b : Atlas} {s : Selection} {c : Criteria}

/-- Who is got depends on what the paths of the criteria lead to. -/
theorem get_congr (h : ∀ ps, Predicate.ofCriteria c = .ok ps → ∀ r ∈ s.items, ∀ p ∈ ps,
    b.resolve? r p.path = a.resolve? r p.path) : s.get b c = s.get a c := by
  have hfilter : s.filter b c = s.filter a c := by
    unfold filter
    cases hps : Predicate.ofCriteria c with
    | error e => rfl
    | ok ps =>
        have hitems : s.items.filter (satisfies b ps) = s.items.filter (satisfies a ps) := by
          refine List.filter_congr fun r hr => ?_
          rw [satisfies, satisfies, Bool.eq_iff_iff, List.all_eq_true, List.all_eq_true]
          exact forall₂_congr fun p hp => by rw [h ps hps r hr p hp]
        exact congrArg (fun l => Except.ok { s with items := l }) hitems
  rw [get, get, hfilter]

/-- Errors other than a miss come from the criteria. -/
theorem get_eq_error_iff_of_not_misses {e : Error} (he : ¬e.Misses) :
    s.get a c = .error e ↔ Predicate.FirstMalformed c e := by
  rw [← filter_eq_error_iff (a := a) (s := s)]
  rcases get_cases a s c with ⟨field, cause, hfilter, hget⟩ | ⟨t, hfilter, hcases⟩
  · rw [hfilter, hget]
    simp
  · rw [hfilter]
    refine iff_of_false (fun hget => he ?_) nofun
    rcases hcases with ⟨r, -, hr⟩ | ⟨-, hmiss⟩ | ⟨-, hmiss⟩
    · rw [hr] at hget
      cases hget
    · rw [hmiss] at hget
      cases hget
      trivial
    · rw [hmiss] at hget
      cases hget
      trivial

/-- A search that misses can be made, and nobody is met. -/
theorem not_meets_of_get_eq_notFound {k : Kind} {d : Criteria}
    (h : s.get a c = .error (.notFound k d)) :
    (∃ ps, Predicate.ofCriteria c = .ok ps) ∧ ∀ r ∈ s.items, ¬Meets a c r := by
  obtain ⟨⟨t, hfilter, hnil⟩, -⟩ := ((get_laws a s c).2.1 k d).mp h
  unfold filter at hfilter
  cases hc : Predicate.ofCriteria c with
  | error e =>
      rw [hc] at hfilter
      cases hfilter
  | ok ps =>
      rw [hc] at hfilter
      obtain rfl := Except.ok.inj hfilter
      refine ⟨⟨ps, rfl⟩, fun r hr hmeets => ?_⟩
      exact List.filter_eq_nil_iff.mp hnil r hr ((satisfies_iff_meets hc).mpr hmeets)

/-- If none of the others is met, the last one is got or nobody. -/
theorem get_append_singleton {ps : List Predicate} {l : List Ref} {r : Ref} (k : Kind)
    (hc : Predicate.ofCriteria c = .ok ps) (hl : ∀ q ∈ l, ¬Meets a c q) :
    ({ kind := k, items := l ++ [r] } : Selection).get a c =
      if satisfies a ps r then .ok r else .error (.notFound k c) := by
  have hnone : l.filter (satisfies a ps) = [] := by
    rw [List.filter_eq_nil_iff]
    exact fun q hq hsatisfies => hl q hq ((satisfies_iff_meets hc).mp hsatisfies)
  have hfilter : (l ++ [r]).filter (satisfies a ps) = if satisfies a ps r then [r] else [] := by
    rw [List.filter_append, hnone, List.nil_append, List.filter_cons, List.filter_nil]
  have hfound : ({ kind := k, items := l ++ [r] } : Selection).filter a c =
      .ok { kind := k, items := if satisfies a ps r then [r] else [] } := by
    rw [filter, hc, ← hfilter]
    rfl
  rw [get, hfound]
  cases satisfies a ps r <;> rfl

end Selection

namespace Atlas

variable {a b x : Atlas} {s : Shelf} {q r t : Ref} {c : Criteria}

/-! ## Searching a folder that is hidden -/

theorem free?_hold (a : Atlas) (t q : Ref) :
    (a.hold t).free? q = if q = t then none else a.free? q := by
  by_cases hq : q = t <;> simp [free?, hq]

theorem mirrors_hold (ha : a.Coherent) (ht : t.kind = .folder) : a.Mirrors (a.hold t) := by
  refine .of_node? (p := fun _ n => n.details.parent)
    (fun q n hn l hl => (ha.links q n hn l hl).1) (fun q hq => ?_) fun q _ => Option.map_id'.symm
  simp [ne_of_isGeometry hq ht]

/-- Only those that have the hidden folder for a parent are seen in another way. -/
theorem parentValue_hold {n : Node} (h : n.details.parent ≠ some t) :
    Field.parentValue (a.hold t) n = Field.parentValue a n := by
  refine Field.parentValue_congr (congrArg _ (Option.bind_congr fun p hp => ?_))
  rw [free?_hold, if_neg]
  rintro rfl
  exact h hp

/-- A search sees what there is, or no parent where there is a hidden one. -/
theorem search_eq_get (ha : a.Coherent) (ht : s.folder.kind = .folder) (hs : a.contains s.folder)
    (h : a.scope s.folder = .bound →
      ∀ ps, Predicate.ofCriteria c = .ok ps → ∀ p ∈ ps, ¬p.path.ShowsParent) :
    a.search s c = (a.selectShelf s).get a c := by
  refine Selection.get_congr fun ps hps r _ p hp => ?_
  have hlinks := fun n hn l hl => (ha.links r n hn l hl).1
  by_cases hbound : a.scope s.folder = .bound
  · exact resolve?_of_mirrors (p := fun n => n.details.parent) (mirrors_hold ha ht) hlinks
      Option.map_id'.symm (h hbound ps hps p hp)
  · refine resolve?_of_parents (p := fun n => n.details.parent) (mirrors_hold ha ht) hlinks
      Option.map_id'.symm fun l m n hn hm => ?_
    obtain rfl := Option.some.inj (hm.symm.trans hn)
    -- only bound folders are parents
    refine parentValue_hold fun hparent => hbound (ha.bound l s.folder ?_)
    rw [parent?_eq, storedParent, hn, Option.bind_some, hparent]
    exact Option.filter_some_pos hs

/-- Those in the hidden folder show no parent, and otherwise they show it. -/
theorem resolve?_parent_of_hold (hheld : a.held = []) (h : a.parent? q = some t) :
    (a.hold t).resolve? q ["parent"] = some .null ∧
      ∃ members, a.resolve? q ["parent"] = some (.object members) := by
  have hparent : ∀ (z : Atlas) (n : Node),
      n.resolve? z ["parent"] = some (Field.parentValue z n) := by
    intro z n
    rw [Node.resolve?, Node.field?_parent]
    rfl
  rw [parent?_eq] at h
  obtain ⟨hstored, hcontains⟩ := Option.filter_eq_some_iff.mp h
  obtain ⟨n, hn, hn'⟩ := Option.bind_eq_some_iff.mp hstored
  obtain ⟨m, hm⟩ := contains_iff.mp hcontains
  have hfree : a.free? t = some m := (free?_of_held hheld t).trans hm
  rw [resolve?, resolve?, node?_hold, hn, Option.bind_some, Option.bind_some, hparent, hparent,
    Field.parentValue, Field.parentValue, hn', Option.bind_some, Option.bind_some, free?_hold,
    if_pos rfl, hfree]
  exact ⟨rfl, _, rfl⟩

/-! ## What is created -/

/-- `b` is `a` with a new entity at the end of a shelf: the folder of the shelf lists it after what
it has listed and becomes its parent if it is one, and nothing else happens to what there has
been. -/
structure Appends (a : Atlas) (s : Shelf) (r : Ref) (b : Atlas) : Prop where
  new : r = ⟨s.kind, a.nodes.size⟩
  contains : b.contains r
  parent : b.parent? r = a.owner s.folder
  items : b.items s = a.items s ++ [r]
  lists : ∀ f, b.children f = if f = s.folder then a.children f ++ [r] else a.children f
  others : ∀ q : Ref, q.number < a.nodes.size → q ≠ s.folder → b.node? q = a.node? q
  details : ∀ n, a.node? s.folder = some n → ∃ m, b.node? s.folder = some m ∧ m.details = n.details

/-- What putting a new entity on a shelf does to the filing. -/
def placing (t r : Ref) (owner : Option Ref) : Refiling where
  parent q p := if q = r then owner else p
  list f l := if f = t then l ++ [r] else l

/-- An entity without a parent is attached and appended. -/
theorem attach_append_places (h : a.attach s r = .ok b) (hparent : a.storedParent r = none) :
    a.Refiles (b.append s.folder r) (placing s.folder r (a.owner s.folder)) := by
  by_cases hs : a.scope s.folder = .detached
  · have howner : a.owner s.folder = none := by simp [owner, hs]
    unfold attach at h
    rw [hs] at h
    obtain rfl := Except.ok.inj h
    refine (append_refiles a s.folder r).congr_node fun q n hn => ?_
    -- nobody is the owner, and the entity has had no parent
    have hsame : (if q = r then a.owner s.folder else n.details.parent) = n.details.parent := by
      split
      · next hq =>
          rw [storedParent, ← hq, hn] at hparent
          exact howner.trans hparent.symm
      · rfl
    simp only [Refiling.node, placing, hsame]
  · -- without a parent there is nobody to take it from
    have hleaves : ∀ f, ¬a.Leaves r (a.owner s.folder) f := by
      rintro f ⟨hf, -⟩
      rw [parent?_eq, hparent] at hf
      cases hf
    refine (attach_append_refiles hs h).congr (fun _ _ => rfl) (fun f l => ?_) fun _ _ => rfl
    simp only [adoption, placing, if_neg (hleaves f)]

/-- What happens when an entity is created: the new one is updated, then placed on the shelf. -/
theorem create_places (h : a.create s c = (.ok r, b)) :
    ∃ x, r = (a.blankOn s).1 ∧ (a.blankOn s).2.update r c = (.ok (), x) ∧
      (a.hold s.folder).Extends x ∧
      x.Refiles (b.hold s.folder) (placing s.folder r (x.owner s.folder)) := by
  rcases create_cases a s c with ⟨x, y, hupdate, hattach, hcreate⟩ | ⟨e, hcreate⟩
  · rw [hcreate] at h
    obtain ⟨⟨rfl⟩, rfl⟩ := Prod.mk.inj h
    have hextends := update_extends (a.blankOn s).2 (a.blankOn s).1 c
    rw [hupdate] at hextends
    have hparent : x.storedParent (a.blankOn s).1 = none := by
      rw [hextends.storedParent, storedParent, node?_blankOn_self]
      exact (Node.fresh_blank s.kind).parent
    have hplaces := attach_append_places hattach hparent
    refine ⟨x, rfl, hupdate, ?_, hextends.held.symm, hextends.shared.symm, hplaces.size,
      hplaces.node⟩
    exact (insert_extends (a.hold s.folder) (Node.fresh_blank s.kind)).trans hextends
  · rw [hcreate] at h
    cases h

theorem fst_blankOn (a : Atlas) (s : Shelf) : (a.blankOn s).1 = ⟨s.kind, a.nodes.size⟩ := by
  simp [blankOn, insert, Atlas.hold]

/-- Of what there has been, only the folder of the shelf changes. -/
theorem node?_create (h : a.create s c = (.ok r, b)) (hq : q.number < a.nodes.size) :
    b.node? q = (a.node? q).map
      (Refiling.node { list := fun f l => if f = s.folder then l ++ [r] else l } q) := by
  obtain ⟨x, rfl, hupdate, -, hplaces⟩ := create_places h
  have hne : q ≠ (a.blankOn s).1 := by
    rintro rfl
    exact Nat.lt_irrefl _ hq
  have hold := node?_update_blankOn s c hq
  rw [hupdate] at hold
  refine (hplaces.node q).trans ?_
  rw [hold]
  refine congrArg (Option.map · (a.node? q)) (funext fun n => ?_)
  simp only [Refiling.node, placing, if_neg hne]

theorem children_create (ht : s.folder.kind = .folder) (hs : a.contains s.folder)
    (h : a.create s c = (.ok r, b)) (f : Ref) :
    b.children f = if f = s.folder then a.children f ++ [r] else a.children f := by
  obtain ⟨x, -, -, hextends, hplaces⟩ := create_places h
  by_cases hf : f = s.folder
  · obtain ⟨y, hy⟩ := folder?_of_contains (hextends.contains hs) ht
    rw [hf, if_pos rfl]
    refine (hplaces.children_of_folder? hy).trans ((if_pos rfl).trans ?_)
    rw [hextends.children]
    rfl
  · rw [if_neg hf]
    refine (hplaces.children (if_neg hf)).trans ((if_neg hf).trans ?_)
    exact hextends.children f

theorem contains_create (h : a.create s c = (.ok r, b)) : b.contains r := by
  obtain ⟨x, rfl, hupdate, -, hplaces⟩ := create_places h
  have hx := update_extends (a.blankOn s).2 (a.blankOn s).1 c
  rw [hupdate] at hx
  exact (hplaces.contains _).trans (hx.contains (contains_iff.mpr ⟨_, node?_blankOn_self a s⟩))

/-- The folder of the shelf becomes the parent, if it is one. -/
theorem parent?_create (hs : a.contains s.folder) (h : a.create s c = (.ok r, b)) :
    b.parent? r = a.owner s.folder := by
  have hnew : b.contains r := contains_create h
  obtain ⟨x, -, -, hextends, hplaces⟩ := create_places h
  have hscope : x.scope s.folder = a.scope s.folder := hextends.scope hs
  have hparent : (b.hold s.folder).parent? r = a.owner s.folder := by
    rw [hplaces.parent?, if_pos ((hplaces.contains r).symm.trans hnew)]
    show Option.filter _ (if _ then _ else _) = _
    rw [if_pos rfl, owner, owner, hscope]
    split
    · exact Option.filter_some_pos (hextends.contains hs)
    · rfl
  exact hparent

/-- **Creating an entity appends it to the shelf**, and nothing else happens. -/
theorem create_appends (ht : s.folder.kind = .folder) (hs : a.contains s.folder)
    (h : a.create s c = (.ok r, b)) : a.Appends s r b := by
  have hr : r = ⟨s.kind, a.nodes.size⟩ := by
    obtain ⟨x, rfl, -⟩ := create_places h
    exact fst_blankOn a s
  refine ⟨hr, contains_create h, parent?_create hs h, ?_, children_create ht hs h,
    fun q hq hqt => ?_, fun n hn => ?_⟩
  · rw [items, items, childrenOf, childrenOf, children_create ht hs h, if_pos rfl,
      List.filter_append]
    refine congrArg _ (List.filter_cons_of_pos ?_)
    rw [hr]
    exact decide_eq_true rfl
  · rw [node?_create h hq]
    cases a.node? q with
    | none => rfl
    | some n =>
        obtain ⟨d, body⟩ := n
        cases body <;> simp [Refiling.node, hqt]
  · rw [node?_create h (number_lt_of_contains hs), hn]
    exact ⟨_, rfl, rfl⟩

/-- **What getting or creating an entity does.** On the atlas at any point of any program, an entity
that the search has found is given back, and nothing changes; an error of the criteria is the one
that `get` reports; and where the search has found none or several, one is created from the criteria
and stands at the end of the shelf, or nothing has happened but the error that creating it gives.
The search finds what `get` finds unless the folder of the shelf is the parent of what it lists and
the criteria look at parents: entities of that folder show no parent to the search, and to `get`
they do. -/
theorem getOrCreate_follows_search (edits : List Edit) (hfits : Fits {} edits) (a : Atlas)
    (ha : a ∈ versions {} edits) (s : Shelf) (ht : s.folder.kind = .folder)
    (hs : a.contains s.folder) (c : Criteria) :
    (∀ e : Error, ¬e.Misses →
      (a.search s c = .error e ↔ (a.selectShelf s).get a c = .error e)) ∧
    ((a.scope s.folder = .bound →
      ∀ ps, Predicate.ofCriteria c = .ok ps → ∀ p ∈ ps, ¬p.path.ShowsParent) →
      a.search s c = (a.selectShelf s).get a c) ∧
    (∀ q, a.parent? q = some s.folder →
      (a.hold s.folder).resolve? q ["parent"] = some .null ∧
        ∃ members, a.resolve? q ["parent"] = some (.object members)) ∧
    (∀ r b, a.getOrCreate s c = (.ok (r, false), b) ↔ a.search s c = .ok r ∧ b = a) ∧
    (∀ e : Error, a.search s c = .error e → ¬e.Misses → a.getOrCreate s c = (.error e, a)) ∧
    ∀ e : Error, a.search s c = .error e → e.Misses →
      (∃ e', a.create s c = (.error e', a) ∧ a.getOrCreate s c = (.error e', a)) ∨
        ∃ r b, a.create s c = (.ok r, b) ∧ a.getOrCreate s c = (.ok (r, true), b) ∧
          a.Appends s r b := by
  obtain ⟨hcoherent, hheld⟩ := coherent_of_mem_versions hfits ha
  refine ⟨fun e he => ?_, search_eq_get hcoherent ht hs,
    fun q hq => resolve?_parent_of_hold hheld hq, fun r b => ?_,
    fun e => getOrCreate_of_malformed, fun e he hmiss => ?_⟩
  · exact (Selection.get_eq_error_iff_of_not_misses he).trans
      (Selection.get_eq_error_iff_of_not_misses he).symm
  · cases hsearch : a.search s c with
    | ok r' =>
        rw [getOrCreate_of_found hsearch]
        simp [eq_comm]
    | error e =>
        refine iff_of_false (fun h => ?_) nofun
        by_cases hmiss : e.Misses
        · rw [getOrCreate_of_missed hsearch hmiss] at h
          cases hcreate : (a.create s c).1 <;> simp [hcreate, Except.map] at h
        · rw [getOrCreate_of_malformed hsearch hmiss] at h
          cases h
  · rw [getOrCreate_of_missed he hmiss]
    cases hcreate : a.create s c with
    | mk result b =>
        cases result with
        | ok r => exact Or.inr ⟨r, b, rfl, rfl, create_appends ht hs hcreate⟩
        | error e' =>
            obtain rfl : b = a := by
              have hsame := create_eq_error (congrArg Prod.fst hcreate)
              rwa [hcreate] at hsame
            exact Or.inl ⟨e', rfl, rfl⟩

/-- A folder with a named placemark. -/
def depot : List Edit :=
  [.operate (.construct (.blank .folder)),
    .operate (.create ⟨⟨.folder, 0⟩, .placemark⟩ ⟨[("name", .string "Depot")]⟩)]

theorem fits_depot : Fits {} depot := ⟨fits_construct_blank _ _, trivial, trivial⟩

theorem getOrCreate_follows_search_depot :
    let a := depot.foldl (fun a e => e.run a) {}
    let s : Shelf := ⟨⟨.folder, 0⟩, .placemark⟩
    let named : Criteria := ⟨[("name", .string "Depot")]⟩
    let orphans : Criteria := ⟨[("parent__isnull", .bool true)]⟩
    a.getOrCreate s named = (.ok (⟨.placemark, 1⟩, false), a) ∧
    a.getOrCreate s orphans = (.ok (⟨.placemark, 1⟩, false), a) ∧
    (a.selectShelf s).get a orphans = .error (.notFound .placemark orphans) := by
  intro a s named orphans
  have hlaws := getOrCreate_follows_search depot fits_depot a (foldl_run_mem_versions {} depot) s
    rfl (by decide)
  obtain ⟨-, -, -, hfound, -⟩ := hlaws named
  obtain ⟨-, -, -, hfound', -⟩ := hlaws orphans
  exact ⟨(hfound _ _).mpr ⟨rfl, rfl⟩, (hfound' _ _).mpr ⟨rfl, rfl⟩, rfl⟩

/-! ## Asking again -/

variable {y : Atlas} {k : Component}

/-- What a component shows is not a matter of filing. -/
theorem value_node (d : Refiling) (r : Ref) (n : Node) (k : Component) :
    k.value a (d.node r n) = k.value a n := by
  obtain ⟨e, body⟩ := n
  cases body <;> cases k <;> rfl

/-- An entity that is only filed anew shows what it has shown, if the points it refers to do. -/
theorem shown_congr {d : Refiling} (hnode : y.node? r = (x.node? r).map (d.node r))
    (hpoints : ∀ n, x.node? r = some n → ∀ q ∈ n.links, q.kind = .point →
      y.free? q = x.free? q) : y.shown r k = x.shown r k := by
  rw [shown, shown, hnode, Option.map_map]
  cases hn : x.node? r with
  | none => rfl
  | some n =>
      refine congrArg some ?_
      show k.value y (d.node r n) = k.value x n
      rw [value_node]
      by_cases hat : n.kind = .placemark ∧ k = .coordinates
      · obtain ⟨hk, rfl⟩ := hat
        obtain ⟨e, p, rfl⟩ := Node.exists_of_kind_eq_placemark hk
        exact congrArg positionValue
          (embeddedPosition?_congr fun q hq hmem => hpoints _ hn q hmem hq)
      · exact Component.value_congr (fun hk hc => hat ⟨hk, hc⟩) y x

/-- The field of a component shows it. -/
theorem resolve?_fieldName (hk : k ∈ Component.ofKind r.kind) :
    a.resolve? r [k.fieldName] = a.shown r k := by
  rw [resolve?, shown]
  cases hn : a.node? r with
  | none => rfl
  | some n =>
      have hkind := kind_of_node? hn
      show (n.field? a k.fieldName).bind _ = some (k.value a n)
      rw [Node.field?, hkind]
      by_cases hat : r.kind = .placemark ∧ k = .coordinates
      · obtain ⟨hr, rfl⟩ := hat
        obtain ⟨e, p, rfl⟩ := Node.exists_of_kind_eq_placemark (hkind.trans hr)
        rw [hr]
        rfl
      · obtain ⟨f, hf, hkeeps⟩ := Field.exists_keeps hk fun hr hc => hat ⟨hr, hc⟩
        rw [hf, ← hkeeps.get a n hkind]
        rfl

theorem parse_fieldName (k : Component) (v : Value) :
    Predicate.parse k.fieldName v = .ok ⟨k.fieldName, [k.fieldName], .exact v⟩ := by
  cases k <;> rfl

/-- Criteria that name components are met by what the components show. -/
theorem meets_iff (hc : ∀ p ∈ c.pairs, ∃ k ∈ Component.ofKind r.kind, k.fieldName = p.1) :
    Selection.Meets a c r ↔ ∀ p ∈ c.pairs, ∃ k ∈ Component.ofKind r.kind, k.fieldName = p.1 ∧
      ∃ w, a.shown r k = some w ∧ w.isNull = false ∧ w.equal p.2 = true := by
  have hexact : ∀ (key : String) (path : FieldPath) (v : Value) (shown : Option Value),
      Predicate.holds ⟨key, path, .exact v⟩ shown = true ↔
        ∃ w, shown = some w ∧ w.isNull = false ∧ w.equal v = true := by
    rintro key path v (_ | w)
    · simp [Predicate.holds]
    · cases w <;> simp [Predicate.holds, Lookup.holds, Value.isNull]
  refine forall₂_congr fun p hp => ?_
  obtain ⟨key, v⟩ := p
  obtain ⟨k, hk, rfl⟩ := hc _ hp
  constructor
  · rintro ⟨q, hq, hholds⟩
    obtain rfl := Except.ok.inj ((parse_fieldName k v).symm.trans hq)
    rw [resolve?_fieldName hk, hexact] at hholds
    exact ⟨k, hk, rfl, hholds⟩
  · rintro ⟨k', hk', hname, hshown⟩
    obtain rfl := Component.fieldName_injective hname
    refine ⟨_, parse_fieldName k' v, ?_⟩
    rwa [resolve?_fieldName hk, hexact]

/-- What has been updated without an error has been given all assignments. -/
theorem assignAll_of_update (h : a.update r c = (.ok (), b)) :
    a.assignAll r c.pairs = (.ok (), b) := by
  unfold update at h
  split at h
  · next z hz => rw [hz, (Prod.mk.inj h).2]
  · cases h

/-- What there has been shows what it has shown when an entity has been created. -/
theorem shown_of_create (ha : a.Coherent) (ht : s.folder.kind = .folder) (hs : a.contains s.folder)
    (h : a.create s c = (.ok r, b)) (hq : q.number < a.nodes.size) :
    (b.hold s.folder).shown q k = (a.hold s.folder).shown q k := by
  have hnode := node?_create h hq
  -- the points that it refers to have been there before, too
  refine shown_congr (x := a.hold s.folder) (y := b.hold s.folder) hnode fun n hn l hl _ => ?_
  have hne := ne_of_isGeometry (ha.links q n hn l hl).1 ht
  have hhidden := isHidden_create a s c l
  rw [h] at hhidden
  rw [free?_hold, free?_hold, if_neg hne, if_neg hne, free?, free?, hhidden,
    (create_appends ht hs h).others l (ha.links q n hn l hl).2 hne]

/-- **What is created shows what the last assignments have put in.** -/
theorem shown_new (ht : s.folder.kind = .folder) (hheld : a.held = [])
    (h : a.create s c = (.ok r, b)) {key : String} {v : Value} (hp : (key, v) ∈ c.pairs) :
    ∃ k ∈ Component.ofKind s.kind, k.fieldName = key ∧
      ∃ last w, c.pairs.reverse.lookup key = some last ∧ k.accept s.kind last = .ok w ∧
        (b.hold s.folder).shown r k = some w := by
  obtain ⟨x, hr, hupdate, -, hplaces⟩ := create_places h
  have hkind : r.kind = s.kind := by rw [hr, fst_blankOn]
  -- the last assignment to the field
  obtain ⟨last, hlast⟩ : ∃ last, c.pairs.reverse.lookup key = some last := by
    refine Option.isSome_iff_exists.mp (List.lookup_isSome_iff.mpr ⟨(key, v), ?_, ?_⟩)
    · exact List.mem_reverse.mpr hp
    · exact beq_self_eq_true key
  obtain ⟨after, before, hsplit, hafter⟩ := List.lookup_eq_some_iff.mp hlast
  have hpairs : c.pairs = before.reverse ++ (key, last) :: after.reverse := by
    rw [List.reverse_eq_append_iff.mp hsplit, List.reverse_cons, List.append_assoc]
    rfl
  have hassign := assignAll_of_update hupdate
  rw [hpairs] at hassign
  have hself : (a.blankOn s).2.node? r = some (.blank s.kind) := hr ▸ node?_blankOn_self a s
  have hfree : ∀ q : Ref, q.kind = .point → (a.blankOn s).2.isHidden q = false := by
    intro q hq
    have hqt : q ≠ s.folder := ne_of_isGeometry (by rw [hq]; rfl) ht
    show (a.hold s.folder).isHidden q = false
    simp [hqt, (open_of_held hheld).isHidden]
  have hlinks : ∀ n, (a.blankOn s).2.node? r = some n → ∀ q ∈ n.links,
      (a.blankOn s).2.contains q := by
    intro n hn q hq
    obtain rfl := Option.some.inj (hself.symm.trans hn)
    rw [links_blank] at hq
    cases hq
  have hlater : ∀ w, (key, w) ∉ after.reverse := by
    intro w hw
    have hne := hafter _ (List.mem_reverse.mp hw)
    simp at hne
  obtain ⟨k, hk, hname, w, haccept, hshown⟩ :=
    shown_assignAll_last (contains_iff.mpr ⟨_, hself⟩) hfree hlinks hassign hlater
  rw [hkind] at hk haccept
  refine ⟨k, hk, hname, last, w, hlast, haccept, ?_⟩
  rw [← hshown]
  -- only the parent of the new entity is set, and it is no point that it refers to
  refine shown_congr (hplaces.node r) fun n hn q hq hpoint => ?_
  have hqr : q ≠ r := by
    rintro rfl
    obtain ⟨d, p, rfl⟩ := Node.exists_of_kind_eq_point ((kind_of_node? hn).trans hpoint)
    cases hq
  rw [free?, free?, hplaces.isHidden, hplaces.node q]
  split
  · rfl
  · cases hm : x.node? q with
    | none => rfl
    | some m =>
        obtain ⟨d, p, rfl⟩ := Node.exists_of_kind_eq_point ((kind_of_node? hm).trans hpoint)
        simp [placing, Refiling.node, hqr]

end Atlas

/-- Each criterion can be read off again when all of them have been assigned to an entity of a kind:
it names a component, and what that shows of the last value it is given is not null and equals the
value of the criterion. -/
def Criteria.Retained (kind : Kind) (c : Criteria) : Prop :=
  ∀ p ∈ c.pairs, ∃ k ∈ Component.ofKind kind, k.fieldName = p.1 ∧
    ∃ last w, c.pairs.reverse.lookup p.1 = some last ∧ k.accept kind last = .ok w ∧
      w.isNull = false ∧ w.equal p.2 = true

/-- Where no key is repeated, it is the value of the criterion itself that is read off again. -/
theorem Criteria.retained_iff_of_nodup {kind : Kind} {c : Criteria} (h : c.keys.Nodup) :
    c.Retained kind ↔ ∀ p ∈ c.pairs, ∃ k ∈ Component.ofKind kind, k.fieldName = p.1 ∧
      ∃ w, k.accept kind p.2 = .ok w ∧ w.isNull = false ∧ w.equal p.2 = true := by
  refine forall₂_congr fun p hp => ?_
  have hlast : c.pairs.reverse.lookup p.1 = some p.2 := by
    obtain ⟨before, after, hpairs⟩ := List.append_of_mem hp
    rw [keys, hpairs, List.map_append, List.map_cons] at h
    refine List.lookup_eq_some_iff.mpr ⟨after.reverse, before.reverse, by simp [hpairs], ?_⟩
    intro q hq
    have hq : q.1 ∈ after.map (·.1) := List.mem_map_of_mem (List.mem_reverse.mp hq)
    have hafter : p.1 ∉ after.map (·.1) := (List.nodup_cons.mp (List.nodup_append.mp h).2.1).1
    exact bne_iff_ne.mpr fun hpq => hafter (hpq ▸ hq)
  simp only [hlast, Option.some.injEq, exists_and_left, exists_eq_left']

namespace Atlas

variable {a b : Atlas} {s : Shelf} {q r : Ref} {c : Criteria}

/-- A new entity meets the criteria that it has been created from if they can be read off again. -/
theorem meets_new_iff (ht : s.folder.kind = .folder) (hheld : a.held = [])
    (h : a.create s c = (.ok r, b)) :
    Selection.Meets (b.hold s.folder) c r ↔ c.Retained s.kind := by
  have hkind : r.kind = s.kind := by
    obtain ⟨x, rfl, -⟩ := create_places h
    rw [fst_blankOn]
  -- every criterion has been assigned, so that it names a component
  have hshown := fun (p : String × Value) (hp : p ∈ c.pairs) => shown_new ht hheld h hp
  rw [← hkind] at hshown ⊢
  rw [meets_iff fun p hp => (hshown p hp).imp fun k hk => ⟨hk.1, hk.2.1⟩]
  refine forall₂_congr fun p hp => ?_
  obtain ⟨k, hk, hname, last, w, hlast, haccept, hw⟩ := hshown p hp
  constructor
  · rintro ⟨k', -, hname', w', hw', hmeets⟩
    obtain rfl := Component.fieldName_injective (hname.trans hname'.symm)
    obtain rfl := Option.some.inj (hw.symm.trans hw')
    exact ⟨k, hk, hname, last, w, hlast, haccept, hmeets⟩
  · rintro ⟨k', -, hname', last', w', hlast', haccept', hmeets⟩
    obtain rfl := Component.fieldName_injective (hname.trans hname'.symm)
    obtain rfl := Option.some.inj (hlast.symm.trans hlast')
    obtain rfl := Except.ok.inj (haccept.symm.trans haccept')
    exact ⟨k, hk, hname, w, hw, hmeets⟩

/-- What there has been meets criteria that could be assigned as it did before. -/
theorem meets_of_create (ha : a.Coherent) (ht : s.folder.kind = .folder) (hs : a.contains s.folder)
    (hheld : a.held = []) (h : a.create s c = (.ok r, b)) (hq : q ∈ a.items s) :
    Selection.Meets (b.hold s.folder) c q ↔ Selection.Meets (a.hold s.folder) c q := by
  obtain ⟨hlisted, hkind⟩ := mem_items_iff.mp hq
  have hnames : ∀ p ∈ c.pairs, ∃ k ∈ Component.ofKind q.kind, k.fieldName = p.1 := by
    intro p hp
    obtain ⟨k, hk, hname, -⟩ := shown_new ht hheld h hp
    exact ⟨k, hkind ▸ hk, hname⟩
  simp only [meets_iff hnames, shown_of_create ha ht hs h (ha.listed s.folder q hlisted)]

/-- **Asking again for what has been created.** If an entity has been created because none was
found, then the same criteria find it right afterwards, and nothing changes, exactly if each of them
can be read off again: the field that it names shows something, and what it shows after the last
assignment to it equals the value of the criterion. Otherwise nobody is found again, and once more
an entity is created from the criteria. -/
theorem getOrCreate_again (edits : List Edit) (hfits : Fits {} edits) (a : Atlas)
    (ha : a ∈ versions {} edits) (s : Shelf) (ht : s.folder.kind = .folder)
    (hs : a.contains s.folder) (c : Criteria) (r : Ref) (b : Atlas)
    (hmiss : a.search s c = .error (.notFound s.kind c))
    (hnew : a.getOrCreate s c = (.ok (r, true), b)) :
    (b.getOrCreate s c = (.ok (r, false), b) ↔ c.Retained s.kind) ∧
    (¬c.Retained s.kind →
      b.search s c = .error (.notFound s.kind c) ∧
        b.getOrCreate s c = ((b.create s c).1.map (·, true), (b.create s c).2)) := by
  obtain ⟨hcoherent, hheld⟩ := coherent_of_mem_versions hfits ha
  have hcreate : a.create s c = (.ok r, b) := by
    rw [getOrCreate_of_missed hmiss trivial] at hnew
    rcases hp : a.create s c with ⟨e | q, z⟩ <;> rw [hp] at hnew <;> cases hnew
    rfl
  obtain ⟨⟨ps, hps⟩, hothers⟩ := Selection.not_meets_of_get_eq_notFound hmiss
  have hagain : b.search s c =
      if Selection.satisfies (b.hold s.folder) ps r then .ok r
      else .error (.notFound s.kind c) := by
    rw [search, selectShelf, (create_appends ht hs hcreate).items]
    refine Selection.get_append_singleton s.kind hps fun q hq => ?_
    rw [meets_of_create hcoherent ht hs hheld hcreate hq]
    exact hothers q hq
  have hnewest : Selection.satisfies (b.hold s.folder) ps r = true ↔ c.Retained s.kind :=
    (Selection.satisfies_iff_meets hps).trans (meets_new_iff ht hheld hcreate)
  by_cases hretained : c.Retained s.kind
  · rw [if_pos (hnewest.mpr hretained)] at hagain
    exact ⟨iff_of_true (getOrCreate_of_found hagain) hretained, fun h => absurd hretained h⟩
  · rw [if_neg fun h => hretained (hnewest.mp h)] at hagain
    have hcreated := getOrCreate_of_missed hagain trivial
    refine ⟨iff_of_false (fun hfound => ?_) hretained, fun _ => ⟨hagain, hcreated⟩⟩
    rw [hcreated] at hfound
    cases hresult : (b.create s c).1 <;> rw [hresult] at hfound <;> cases hfound

/-- A folder that lists nothing. -/
def vacant : List Edit := [.operate (.construct (.blank .folder))]

theorem fits_vacant : Fits {} vacant := ⟨fits_construct_blank _ _, trivial⟩

theorem getOrCreate_again_vacant :
    let a := vacant.foldl (fun a e => e.run a) {}
    let s : Shelf := ⟨⟨.folder, 0⟩, .placemark⟩
    let c : Criteria := ⟨[("name", .string "Depot"), ("visibility", .bool false)]⟩
    let b := (a.getOrCreate s c).2
    a.getOrCreate s c = (.ok (⟨.placemark, 1⟩, true), b) ∧
    b.getOrCreate s c = (.ok (⟨.placemark, 1⟩, false), b) := by
  intro a s c b
  have hmiss : a.search s c = .error (.notFound .placemark c) := rfl
  have hnew : a.getOrCreate s c = (.ok (⟨.placemark, 1⟩, true), b) := rfl
  have hretained : c.Retained .placemark := by
    refine (Criteria.retained_iff_of_nodup (by decide)).mpr ?_
    simp only [c, List.forall_mem_cons, List.not_mem_nil, false_implies, implies_true, and_true]
    exact ⟨⟨.name, by decide, rfl, _, rfl, rfl, rfl⟩,
      ⟨.visibility, by decide, rfl, _, rfl, rfl, rfl⟩⟩
  have hagain := getOrCreate_again vacant fits_vacant a (foldl_run_mem_versions {} vacant) s rfl
    (by decide) c _ b hmiss hnew
  exact ⟨hnew, hagain.1.mpr hretained⟩

/-- Null can be assigned to a name, and no name is found by it. -/
theorem getOrCreate_again_unnamed :
    let a := vacant.foldl (fun a e => e.run a) {}
    let s : Shelf := ⟨⟨.folder, 0⟩, .placemark⟩
    let c : Criteria := ⟨[("name", .null)]⟩
    let b := (a.getOrCreate s c).2
    a.search s c = .error (.notFound .placemark c) ∧
    a.getOrCreate s c = (.ok (⟨.placemark, 1⟩, true), b) ∧
    b.getOrCreate s c ≠ (.ok (⟨.placemark, 1⟩, false), b) ∧
    (b.getOrCreate s c).2.items s = [⟨.placemark, 1⟩, ⟨.placemark, 2⟩] := by
  intro a s c b
  have hmiss : a.search s c = .error (.notFound .placemark c) := rfl
  have hnew : a.getOrCreate s c = (.ok (⟨.placemark, 1⟩, true), b) := rfl
  have hsecond : (b.getOrCreate s c).1.toOption = some (⟨.placemark, 2⟩, true) := by decide
  have hitems : (b.getOrCreate s c).2.items s = [⟨.placemark, 1⟩, ⟨.placemark, 2⟩] := by decide
  have hother : b.getOrCreate s c ≠ (.ok (⟨.placemark, 1⟩, false), b) := by
    intro hsame
    have hfirst := congrArg (·.1.toOption) hsame
    exact absurd (hsecond.symm.trans hfirst) (by decide)
  exact ⟨hmiss, hnew, hother, hitems⟩

end Atlas

end Gazetteer
