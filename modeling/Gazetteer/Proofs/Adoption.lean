import Gazetteer.Proofs.Run

/-!
# What a shelf takes in

Before a folder takes another one in, it searches what is below that one. On every atlas, whatever
circles and shared folders it has, the search tells exactly whether the folder is below what it
takes in, or that below itself (`checkAdoption_eq_ok_iff`); so one folder is refused exactly if a
circle would close (`add_refuses_iff`). `add` goes through a list of entities, and what it has done
to some of them changes neither which of the others the shelf lacks nor which of them it refuses
(`admits_iff_of_moving`). That gives what a whole list does to an atlas, and what is left behind
where it is cut short (`add_moves`).
-/

namespace Gazetteer

open Relation

namespace Atlas

variable {a b : Atlas} {s : Shelf} {t x : Ref} {items : List Ref}

/-! ## The search -/

/-- A search below a folder comes across nothing else. -/
theorem transGen_of_mem_foldersBelow {f : Ref} (h : f ∈ a.foldersBelow x) :
    TransGen a.Nests x f := by
  obtain ⟨y, hy, hyf⟩ := Walk.exists_reflTransGen_of_mem_depthFirst h
  have hxy : a.Nests x y := List.mem_reverse.mp hy
  refine TransGen.head' hxy (ReflTransGen.mono (fun u v huv => ?_) _ _ hyf)
  -- a hidden folder leads nowhere, and any other to what it lists
  have huv : v ∈ a.openFolders u := List.mem_reverse.mp huv
  unfold openFolders at huv
  split at huv
  · cases huv
  · exact huv

/-- What is found before the folder `t` takes `x` in: the one or the other, if it is below `x`. -/
theorem exists_mem_foldersBelow_iff (hheld : a.held = [t]) :
    (∃ f ∈ (a.hold x).foldersBelow x, f = t ∨ f = x) ↔
      TransGen a.Nests x t ∨ TransGen a.Nests x x := by
  constructor
  · rintro ⟨f, hf, rfl | rfl⟩
    · exact Or.inl (transGen_of_mem_foldersBelow (a := a.hold x) hf)
    · exact Or.inr (transGen_of_mem_foldersBelow (a := a.hold f) hf)
  · intro h
    refine Decidable.byContradiction fun hnone => ?_
    -- if neither is found, the search has met no hidden folder and so everything
    have hfree : ∀ f ∈ (a.hold x).foldersBelow x, (a.hold x).isHidden f = false := by
      intro f hf
      have hne : ¬(f = t ∨ f = x) := fun hft => hnone ⟨f, hf, hft⟩
      rw [not_or] at hne
      simp [isHidden_eq_false_of_isHeld ((isHeld_eq_false_iff hheld).mpr hne.1), hne.2]
    rcases h with h | h
    · exact hnone ⟨t, mem_foldersBelow_of_transGen hfree h, Or.inl rfl⟩
    · exact hnone ⟨x, mem_foldersBelow_of_transGen hfree h, Or.inr rfl⟩

/-- Where the search stops: at the target and at the folder that is put there. -/
theorem stops_iff (hheld : a.held = [t]) {f : Ref} :
    (decide (f = t) || (a.hold x).isHidden f) = true ↔ f = t ∨ f = x := by
  by_cases hf : f = t
  · simp [hf]
  · simp [isHidden_eq_false_of_isHeld ((isHeld_eq_false_iff hheld).mpr hf), hf]

/-- While only the target is held, a folder may be put there if it leads neither there nor to
itself. -/
theorem checkAdoption_eq_ok_iff (hheld : a.held = [t]) (hk : x.kind = .folder) :
    a.checkAdoption t x = .ok () ↔ ¬TransGen a.Nests x t ∧ ¬TransGen a.Nests x x := by
  rw [← not_or, ← exists_mem_foldersBelow_iff hheld]
  unfold checkAdoption
  rw [if_pos hk]
  dsimp only
  split
  · next f hf =>
      have hstop := List.find?_some hf
      refine iff_of_false (by split <;> simp) ?_
      exact not_not_intro ⟨f, List.mem_of_find?_eq_some hf, (stops_iff hheld).mp hstop⟩
  · next hnone =>
      refine iff_of_true rfl ?_
      rintro ⟨f, hmem, hf⟩
      exact List.find?_eq_none.mp hnone f hmem ((stops_iff hheld).mpr hf)

/-- A folder that leads to the target is refused for that, unless it leads to itself as well. -/
theorem checkAdoption_eq_error (hheld : a.held = [t]) (hk : x.kind = .folder)
    (hx : ¬TransGen a.Nests x x) (h : TransGen a.Nests x t) :
    a.checkAdoption t x = .error (.validation (some "folders") .ownDescendant) := by
  have hfails : a.checkAdoption t x ≠ .ok () := fun hok =>
    ((checkAdoption_eq_ok_iff hheld hk).mp hok).1 h
  unfold checkAdoption at hfails ⊢
  rw [if_pos hk] at hfails ⊢
  dsimp only at hfails ⊢
  split
  · next f hf =>
      have hbelow : TransGen a.Nests x f :=
        transGen_of_mem_foldersBelow (a := a.hold x) (List.mem_of_find?_eq_some hf)
      have hstop := List.find?_some hf
      refine if_pos (((stops_iff hheld).mp hstop).resolve_right ?_)
      rintro rfl
      exact hx hbelow
  · next hnone =>
      rw [hnone] at hfails
      exact absurd rfl hfails

/-! ## One entity -/

/-- The folder `t` may take the entity in: it is no folder that leads to `t` or to itself. -/
def Admits (a : Atlas) (t x : Ref) : Prop :=
  x.kind = .folder → ¬ReflTransGen a.Nests x t ∧ ¬TransGen a.Nests x x

/-- While only the folder of a shelf is held, what it may take in is not refused. -/
theorem exists_attach_eq_ok_iff (hheld : a.held = [s.folder]) (hs : a.scope s.folder ≠ .detached) :
    (∃ b, a.attach s x = .ok b) ↔ a.Admits s.folder x := by
  have hattach : (∃ b, a.attach s x = .ok b) ↔
      x ≠ s.folder ∧ a.checkAdoption s.folder x = .ok () := by
    rw [← isHeld_eq_false_iff hheld]
    constructor
    · rintro ⟨b, hb⟩
      obtain ⟨hfree, hcheck, -⟩ := (attach_eq_ok_iff hs).mp hb
      exact ⟨hfree, hcheck⟩
    · rintro ⟨hfree, hcheck⟩
      exact ⟨_, (attach_eq_ok_iff hs).mpr ⟨hfree, hcheck, rfl⟩⟩
  rw [hattach]
  by_cases hk : x.kind = .folder
  · rw [checkAdoption_eq_ok_iff hheld hk, Admits, reflTransGen_iff_eq_or_transGen, not_or, and_assoc,
      ne_comm, forall_prop_of_true hk]
  · -- only folders are searched, and the folder of the shelf is one
    obtain ⟨y, hy⟩ := folder?_of_scope hs
    refine iff_of_true ⟨?_, if_neg hk⟩ fun h => absurd h hk
    rintro rfl
    exact hk (kind_of_folder? hy)

theorem addEach_cons_of_mem (h : x ∈ a.items s) (rest : List Ref) :
    a.addEach s (x :: rest) = a.addEach s rest := by
  rw [addEach, if_pos (List.contains_iff_mem.mpr h)]

theorem addEach_cons_of_ok (h : x ∉ a.items s) (hb : a.attach s x = .ok b) (rest : List Ref) :
    a.addEach s (x :: rest) = (b.append s.folder x).addEach s rest := by
  rw [addEach, if_neg fun hmem => h (List.contains_iff_mem.mp hmem), hb]

theorem addEach_cons_of_error {e : Error} (h : x ∉ a.items s) (he : a.attach s x = .error e)
    (rest : List Ref) : a.addEach s (x :: rest) = (.error e, a) := by
  rw [addEach, if_neg fun hmem => h (List.contains_iff_mem.mp hmem), he]

/-- What moving entities to the folder `t` does to the filing. -/
def moving (a : Atlas) (t : Ref) (new : List Ref) : Refiling where
  parent r p := if r ∈ new then a.owner t else p
  list f l := if f = t then l ++ new else l.filter fun e => ¬(e ∈ new ∧ a.parent? e = some f)

/-- While only the target is held, every parent lets go of what moves there. -/
theorem attach_append_moves (hheld : a.held = [s.folder]) (hs : a.scope s.folder ≠ .detached)
    (hb : a.attach s x = .ok b) :
    a.Refiles (b.append s.folder x) (a.moving s.folder [x]) := by
  refine (attach_append_refiles hs hb).congr (fun r p => ?_) (fun f l => ?_) fun _ _ => rfl
  · simp [adoption, moving]
  · dsimp only [adoption, moving]
    by_cases hf : f = s.folder
    · have hstay : ¬a.Leaves x (a.owner s.folder) f := by
        rintro ⟨-, -, hfree⟩
        exact (isHeld_eq_false_iff hheld).mp hfree hf
      rw [if_pos hf, if_pos hf, if_neg hstay]
    · have howner : a.owner s.folder ≠ some f := by
        intro h
        have hlast := Option.ite_none_right_eq_some.mp h
        exact hf (Option.some.inj hlast.2).symm
      have hleaves : a.Leaves x (a.owner s.folder) f ↔ a.parent? x = some f :=
        and_iff_left ⟨howner, (isHeld_eq_false_iff hheld).mpr hf⟩
      rw [if_neg hf, if_neg hf]
      simp only [hleaves, List.mem_singleton]
      by_cases hp : a.parent? x = some f
      · rw [if_pos hp]
        refine List.filter_congr fun e _ => ?_
        by_cases he : e = x <;> simp [he, hp]
      · rw [if_neg hp]
        refine (List.filter_eq_self.mpr fun e _ => ?_).symm
        simp only [decide_eq_true_eq, not_and]
        rintro rfl
        exact hp

section Moving

variable {c : Atlas} {new : List Ref}

theorem children_of_moving (hr : a.Refiles b (a.moving t new)) (ht : a.scope t ≠ .detached)
    (f : Ref) :
    b.children f = if f = t then a.children f ++ new
      else (a.children f).filter fun e => ¬(e ∈ new ∧ a.parent? e = some f) := by
  by_cases hf : f = t
  · subst hf
    obtain ⟨y, hy⟩ := folder?_of_scope ht
    exact hr.children_of_folder? hy
  · exact hr.children (by simp [moving, hf])

theorem items_of_moving (hr : a.Refiles b (a.moving s.folder new))
    (hs : a.scope s.folder ≠ .detached) (hnew : ∀ e ∈ new, e.kind = s.kind) :
    b.items s = a.items s ++ new := by
  have hkinds : new.filter (·.kind = s.kind) = new :=
    List.filter_eq_self.mpr fun e he => decide_eq_true (hnew e he)
  rw [items, childrenOf, children_of_moving hr hs, if_pos rfl, List.filter_append, hkinds]
  rfl

theorem parent?_of_moving (hr : a.Refiles b (a.moving t new)) (ht : a.scope t ≠ .detached)
    (hnew : ∀ e ∈ new, a.contains e) (e : Ref) :
    b.parent? e = if e ∈ new then a.owner t else a.parent? e := by
  split
  · next he =>
      rw [hr.parent?, if_pos (hnew e he)]
      simp [moving, he, filter_contains_owner ht]
  · next he => exact hr.parent?_eq_self fun p => if_neg he

theorem moving_nil (a : Atlas) (t : Ref) : a.Refiles a (a.moving t []) := by
  refine (Refiles.refl a).congr (fun r p => ?_) (fun f l => ?_) fun _ _ => rfl
  · simp [moving]
  · have hall : l.filter (fun e => ¬(e ∈ [] ∧ a.parent? e = some f)) = l :=
      List.filter_eq_self.mpr fun e _ => by simp
    simp only [moving, hall, List.append_nil, ite_self]

/-- Entities that move one after another move together. -/
theorem moving_cons (hab : a.Refiles b (a.moving t [x])) (hbc : b.Refiles c (b.moving t new))
    (ht : a.scope t ≠ .detached) (hx : a.contains x) (hnew : x ∉ new) :
    a.Refiles c (a.moving t (x :: new)) := by
  have howner : b.owner t = a.owner t := by
    rw [owner, owner, hab.scope rfl]
    rfl
  have hparent : ∀ e ∈ new, b.parent? e = a.parent? e := by
    intro e he
    have hne : e ∉ [x] := fun hex => hnew (List.mem_singleton.mp hex ▸ he)
    rw [parent?_of_moving hab ht (List.forall_mem_singleton.mpr hx), if_neg hne]
  refine (hab.trans hbc).congr (fun r p => ?_) (fun f l => ?_) fun _ _ => rfl
  · simp only [Refiling.andThen, moving, howner, List.mem_cons]
    by_cases hr : r ∈ new <;> simp [hr]
  · simp only [Refiling.andThen, moving]
    by_cases hf : f = t
    · simp [hf]
    · rw [if_neg hf, if_neg hf, if_neg hf, List.filter_filter]
      refine List.filter_congr fun e _ => ?_
      by_cases he : e ∈ new
      · have hne : e ≠ x := fun hex => hnew (hex ▸ he)
        simp [he, hne, hparent e he]
      · simp [he]

/-- The only new way is the one to what has been taken in. -/
theorem nests_of_moving {u v : Ref} (hr : a.Refiles b (a.moving t [x]))
    (ht : a.scope t ≠ .detached) (huv : b.Nests u v) :
    a.Nests u v ∨ u = t ∧ v = x ∧ x.kind = .folder := by
  obtain ⟨hv, hk⟩ := nests_iff.mp huv
  rw [children_of_moving hr ht] at hv
  split at hv
  · next hu =>
      rcases List.mem_append.mp hv with hv | hv
      · exact Or.inl (nests_iff.mpr ⟨hv, hk⟩)
      · obtain rfl := List.mem_singleton.mp hv
        exact Or.inr ⟨hu, rfl, hk⟩
  · exact Or.inl (nests_iff.mpr ⟨(List.mem_filter.mp hv).1, hk⟩)

theorem kind_of_transGen {u v : Ref} (h : TransGen a.Nests u v) : v.kind = .folder := by
  obtain ⟨w, -, hwv⟩ := TransGen.tail'_iff.mp h
  exact (nests_iff.mp hwv).2

/-- **What a folder has taken in does not change what else it may take in.** A path from another
entity to the folder, or to itself, may have been cut, but only one that went through what has been
taken in, and from there nothing leads to the folder; and a new path would have to come back to
it. -/
theorem admits_iff_of_moving {y : Ref} (hr : a.Refiles b (a.moving t [y]))
    (ht : a.scope t ≠ .detached) (hy : a.Admits t y) : b.Admits t x ↔ a.Admits t x := by
  have hgained : ∀ u v, b.Nests u v → a.Nests u v ∨ u = t ∧ v = y ∧ y.kind = .folder :=
    fun _ _ => nests_of_moving hr ht
  have hlost : ∀ u v, a.Nests u v → b.Nests u v ∨ v = y := by
    intro u v huv
    obtain ⟨hv, hk⟩ := nests_iff.mp huv
    by_cases hvy : v = y
    · exact Or.inr hvy
    · refine Or.inl (nests_iff.mpr ⟨?_, hk⟩)
      rw [children_of_moving hr ht]
      split
      · exact List.mem_append_left _ hv
      · exact List.mem_filter.mpr ⟨hv, by simp [hvy]⟩
  have hends : ∀ v, v = y ∧ y.kind = .folder → ¬ReflTransGen a.Nests v t := by
    rintro v ⟨rfl, hk⟩
    exact (hy hk).1
  have hpath : ∀ {u v}, TransGen b.Nests u v → TransGen a.Nests u v ∨ ReflTransGen a.Nests u t :=
    fun h => (transGen_or_of_edges _ hgained hends h).imp_right And.left
  have hpath' : ∀ {u v}, TransGen a.Nests u v →
      TransGen b.Nests u v ∨ TransGen a.Nests u y ∧ ReflTransGen a.Nests y v :=
    fun h => transGen_or_of_edges_to hlost h
  refine forall_congr' fun hk => ?_
  simp only [reflTransGen_iff_eq_or_transGen] at hpath ⊢
  constructor
  · rintro ⟨hxt, hxx⟩
    rw [not_or] at hxt ⊢
    refine ⟨⟨hxt.1, fun h => ?_⟩, fun h => ?_⟩
    · rcases hpath' h with h | ⟨hxy, hyt⟩
      · exact hxt.2 h
      · exact (hy (kind_of_transGen hxy)).1 hyt
    · rcases hpath' h with h | ⟨hxy, hyx⟩
      · exact hxx h
      · exact (hy (kind_of_transGen hxy)).2 (TransGen.trans_right hyx hxy)
  · rintro ⟨hxt, hxx⟩
    refine ⟨?_, fun h => ?_⟩
    · rintro (rfl | h)
      · exact hxt (Or.inl rfl)
      · rcases hpath h with h | h
        · exact hxt (Or.inr h)
        · exact hxt h
    · rcases hpath h with h | h
      · exact hxx h
      · exact hxt h

end Moving

/-! ## One folder -/

/-- **A folder is refused exactly if a circle would close.** The atlas may have any circles and
shared folders, as long as the folder `x` is not below itself. The folder `t`, bound or at the root,
refuses it if they are the same, which shows in that nobody else may change a folder that is being
changed, and if `t` is below `x`, which the search finds out. Nothing has changed then. Otherwise `x`
comes last on the list, and no folder is below itself that has not been before. -/
theorem add_refuses_iff (a : Atlas) (t x : Ref) (hheld : a.held = []) (ht : a.scope t ≠ .detached)
    (hk : x.kind = .folder) (hx : ¬TransGen a.Nests x x) (hnew : x ∉ a.children t) :
    let result := (a.add ⟨t, .folder⟩ [x]).1
    let b := (a.add ⟨t, .folder⟩ [x]).2
    ((∃ e, result = .error e) ↔ x = t ∨ TransGen a.Nests x t) ∧
    (result = .error (.validation none (.itemHeld .folder)) ↔ x = t) ∧
    (result = .error (.validation (some "folders") .ownDescendant) ↔ TransGen a.Nests x t) ∧
    (∀ e, result = .error e → b = a) ∧
    (result = .ok () →
      b.children t = a.children t ++ [x] ∧ ∀ f, TransGen b.Nests f f → TransGen a.Nests f f) := by
  intro result b
  let s : Shelf := ⟨t, .folder⟩
  have hheld' : (a.hold t).held = [t] := congrArg (t :: ·) hheld
  have habsent : x ∉ (a.hold t).items s := fun hmem => hnew (mem_items_iff.mp hmem).1
  have hresult : result = ((a.hold t).addEach s [x]).1 := rfl
  have hb : b = ((a.hold t).addEach s [x]).2.withUseOf a := rfl
  by_cases hxt : x = t
  · -- the folder itself is held
    subst hxt
    have hattach : (a.hold x).attach s x = .error (.validation none (.itemHeld .folder)) := by
      rw [attach_eq ht, if_pos (by simp [isHeld, hold])]
    rw [addEach_cons_of_error habsent hattach] at hresult hb
    simp [hresult, hb, hx]
  by_cases hpath : TransGen a.Nests x t
  · have hfree : (a.hold t).isHeld x = false := (isHeld_eq_false_iff hheld').mpr hxt
    have hattach : (a.hold t).attach s x =
        .error (.validation (some "folders") .ownDescendant) := by
      rw [attach_eq ht, hfree, checkAdoption_eq_error hheld' hk hx hpath]
      rfl
    rw [addEach_cons_of_error habsent hattach] at hresult hb
    simp [hresult, hb, hxt, hpath]
  · have hleads : ¬ReflTransGen a.Nests x t := by
      rw [reflTransGen_iff_eq_or_transGen]
      exact not_or.mpr ⟨Ne.symm hxt, hpath⟩
    obtain ⟨c, hc⟩ : ∃ c, (a.hold t).attach s x = .ok c :=
      (exists_attach_eq_ok_iff hheld' ht).mpr fun _ => ⟨hleads, hx⟩
    have hmoves := attach_append_moves (s := s) hheld' ht hc
    rw [addEach_cons_of_ok habsent hc] at hresult hb
    have hr : a.Refiles b (a.moving t [x]) := by
      rw [hb]
      exact hmoves.holding
    have hends : ∀ y, y = x ∧ x.kind = .folder → ¬ReflTransGen a.Nests y t := by
      rintro y ⟨rfl, -⟩
      exact hleads
    refine ⟨?_, ?_, ?_, ?_, fun _ => ⟨?_, fun f hf => ?_⟩⟩
    · simp [hresult, addEach, hxt, hpath]
    · simp [hresult, addEach, hxt]
    · simp [hresult, addEach, hpath]
    · simp [hresult, addEach]
    · exact (children_of_moving hr ht t).trans (if_pos rfl)
    · exact transGen_self_of_edges _ (fun _ _ => nests_of_moving hr ht) hends hf

/-- A folder in which another one is, that leads to one that lists itself; a folder on the side, and
a placemark in the first. -/
def sidetracked : Atlas where
  nodes := #[
    some ⟨{}, .folder { children := [⟨.folder, 1⟩, ⟨.placemark, 4⟩] }⟩,
    some ⟨{ parent := some ⟨.folder, 0⟩ }, .folder { children := [⟨.folder, 2⟩] }⟩,
    some ⟨{ parent := some ⟨.folder, 1⟩ }, .folder { children := [⟨.folder, 2⟩] }⟩,
    some ⟨{}, .folder {}⟩,
    some ⟨{ parent := some ⟨.folder, 0⟩ }, .placemark {}⟩]

theorem add_refuses_iff_sidetracked :
    let top : Ref := ⟨.folder, 0⟩
    let inner : Ref := ⟨.folder, 1⟩
    let side : Ref := ⟨.folder, 3⟩
    ¬TransGen sidetracked.Nests top top ∧
    (sidetracked.add ⟨inner, .folder⟩ [top]).1 =
      .error (.validation (some "folders") .ownDescendant) ∧
    (sidetracked.add ⟨top, .folder⟩ [top]).1 = .error (.validation none (.itemHeld .folder)) ∧
    (sidetracked.add ⟨side, .folder⟩ [top]).1 = .ok () ∧
    (sidetracked.add ⟨side, .folder⟩ [top]).2.children side = [top] := by
  intro top inner side
  have hinner : ∀ f, sidetracked.Nests inner f ∨ sidetracked.Nests ⟨.folder, 2⟩ f →
      f = ⟨.folder, 2⟩ := by
    rintro f (hf | hf)
    · exact List.mem_singleton.mp hf
    · exact List.mem_singleton.mp hf
  have hbelow : ∀ f, TransGen sidetracked.Nests top f → f = inner ∨ f = ⟨.folder, 2⟩ := by
    intro f hf
    induction hf with
    | single h => exact Or.inl (List.mem_singleton.mp h)
    | tail _ h ih =>
        rcases ih with rfl | rfl
        · exact Or.inr (hinner _ (Or.inl h))
        · exact Or.inr (hinner _ (Or.inr h))
  have htop : ¬TransGen sidetracked.Nests top top := fun h => absurd (hbelow top h) (by decide)
  have hside : ¬TransGen sidetracked.Nests top side := fun h => absurd (hbelow side h) (by decide)
  have hpath : TransGen sidetracked.Nests top inner := .single (by unfold Nests; decide)
  obtain ⟨-, -, hown, -⟩ :=
    add_refuses_iff sidetracked inner top rfl (by decide) rfl htop (by decide)
  obtain ⟨-, hself, -⟩ := add_refuses_iff sidetracked top top rfl (by decide) rfl htop (by decide)
  obtain ⟨hrefused, -, -, -, htaken⟩ :=
    add_refuses_iff sidetracked side top rfl (by decide) rfl htop (by decide)
  have hok : (sidetracked.add ⟨side, .folder⟩ [top]).1 = .ok () := by
    cases h : (sidetracked.add ⟨side, .folder⟩ [top]).1 with
    | ok u => rfl
    | error e =>
        rcases hrefused.mp ⟨e, h⟩ with h | h
        · exact absurd h (by decide)
        · exact absurd h hside
  exact ⟨htop, hown.mpr hpath, hself.mpr rfl, hok, (htaken hok).1⟩

/-! ## Several entities -/

/-- What the shelf lacks of a list, without repeats. -/
def lacking (a : Atlas) (s : Shelf) (items : List Ref) : List Ref :=
  (firstBy id items).filter (· ∉ a.items s)

theorem mem_lacking_iff : x ∈ a.lacking s items ↔ x ∈ items ∧ x ∉ a.items s := by
  simp [lacking, mem_firstBy_id]

theorem lacking_cons_of_mem (h : x ∈ a.items s) (rest : List Ref) :
    a.lacking s (x :: rest) = a.lacking s rest := by
  rw [lacking, firstBy, List.filter_cons_of_neg (by simpa using h), List.filter_filter]
  refine List.filter_congr fun y _ => ?_
  -- what is not on the shelf is not the entity that is
  have hne : y ∉ a.items s → y ≠ x := fun hy hyx => hy (hyx ▸ h)
  simpa using hne

theorem lacking_cons_of_not_mem (h : x ∉ a.items s) (hb : b.items s = a.items s ++ [x])
    (rest : List Ref) : a.lacking s (x :: rest) = x :: b.lacking s rest := by
  rw [lacking, firstBy, List.filter_cons_of_pos (by simpa using h), List.filter_filter]
  refine congrArg (x :: ·) (List.filter_congr fun y _ => ?_)
  simp [hb]

/-- One after another, a shelf takes in what it lacks, unless it refuses some of that. -/
theorem addEach_moves (hheld : a.held = [s.folder]) (hs : a.scope s.folder ≠ .detached)
    (hitems : ∀ i ∈ items, a.contains i ∧ i.kind = s.kind) :
    ((a.addEach s items).1 = .ok () ↔ ∀ x ∈ a.lacking s items, a.Admits s.folder x) ∧
    ((a.addEach s items).1 = .ok () →
      a.Refiles (a.addEach s items).2 (a.moving s.folder (a.lacking s items))) := by
  induction items generalizing a with
  | nil =>
      exact ⟨iff_of_true rfl (List.forall_mem_nil _), fun _ => moving_nil a s.folder⟩
  | cons i rest ih =>
      obtain ⟨⟨hi, hk⟩, hrest⟩ := List.forall_mem_cons.mp hitems
      by_cases hmem : i ∈ a.items s
      · rw [addEach_cons_of_mem hmem, lacking_cons_of_mem hmem]
        exact ih hheld hs hrest
      by_cases hadmits : a.Admits s.folder i
      · obtain ⟨b, hb⟩ := (exists_attach_eq_ok_iff hheld hs).mpr hadmits
        have hmoves := attach_append_moves hheld hs hb
        rw [addEach_cons_of_ok hmem hb]
        generalize b.append s.folder i = c at hmoves
        have hlist : c.items s = a.items s ++ [i] :=
          items_of_moving hmoves hs (List.forall_mem_singleton.mpr hk)
        have hcs : c.scope s.folder ≠ .detached := fun h => hs ((hmoves.scope rfl).symm.trans h)
        have hcrest : ∀ j ∈ rest, c.contains j ∧ j.kind = s.kind := fun j hj =>
          ⟨(hmoves.contains j).trans (hrest j hj).1, (hrest j hj).2⟩
        obtain ⟨hok, hrefiles⟩ := ih (hmoves.held.trans hheld) hcs hcrest
        have hnew : i ∉ c.lacking s rest := by
          rw [mem_lacking_iff, hlist]
          simp
        rw [lacking_cons_of_not_mem hmem hlist]
        refine ⟨?_, fun h => moving_cons hmoves (hrefiles h) hs hi hnew⟩
        rw [hok, List.forall_mem_cons, and_iff_right hadmits]
        exact forall₂_congr fun x _ => admits_iff_of_moving hmoves hs hadmits
      · obtain ⟨e, he⟩ : ∃ e, a.attach s i = .error e := by
          cases h : a.attach s i with
          | error e => exact ⟨e, rfl⟩
          | ok b => exact absurd ((exists_attach_eq_ok_iff hheld hs).mp ⟨b, h⟩) hadmits
        rw [addEach_cons_of_error hmem he]
        refine ⟨iff_of_false nofun fun hall => hadmits (hall i ?_), nofun⟩
        exact mem_lacking_iff.mpr ⟨List.mem_cons_self, hmem⟩

/-- Where an entity is refused, those before it have been taken in, and nothing else has happened. -/
theorem addEach_eq_error {e : Error} (h : (a.addEach s items).1 = .error e) :
    ∃ before x after, items = before ++ x :: after ∧
      a.addEach s before = (.ok (), (a.addEach s items).2) ∧
      (a.addEach s items).2.addEach s [x] = (.error e, (a.addEach s items).2) := by
  induction items generalizing a with
  | nil => cases h
  | cons i rest ih =>
      by_cases hmem : i ∈ a.items s
      · rw [addEach_cons_of_mem hmem] at h ⊢
        obtain ⟨before, x, after, rfl, hbefore, hx⟩ := ih h
        exact ⟨i :: before, x, after, rfl, (addEach_cons_of_mem hmem before).trans hbefore, hx⟩
      · cases hattach : a.attach s i with
        | ok b =>
            rw [addEach_cons_of_ok hmem hattach] at h ⊢
            obtain ⟨before, x, after, rfl, hbefore, hx⟩ := ih h
            exact ⟨i :: before, x, after, rfl,
              (addEach_cons_of_ok hmem hattach before).trans hbefore, hx⟩
        | error e' =>
            rw [addEach_cons_of_error hmem hattach] at h ⊢
            obtain rfl : e' = e := Except.error.inj h
            exact ⟨[], i, rest, rfl, rfl, addEach_cons_of_error hmem hattach []⟩

theorem hold_holding {α : Type} {f : Atlas → α × Atlas} {c : Refiling}
    (h : (a.hold t).Refiles (f (a.hold t)).2 c) :
    (a.holding t f).2.hold t = (f (a.hold t)).2 := by
  show (f (a.hold t)).2.withUseOf (a.hold t) = _
  rw [withUseOf, ← h.held, ← h.shared]

/-- **What adding a list does.** On any atlas, a bound folder takes in what its shelf lacks of the
list, each entity once and in the order in which they come first, unless one of them is a folder
that leads to it, to itself or is the folder of the shelf. Then it is the parent of all of them,
those that were their parents have struck them off, and nothing else has happened to anything. If
one is refused, then the atlas is the one that adding those before it gives, and adding the refused
one to that changes nothing. -/
theorem add_moves (a : Atlas) (s : Shelf) (items : List Ref) (hheld : a.held = [])
    (hs : a.scope s.folder = .bound) (hitems : ∀ i ∈ items, a.contains i ∧ i.kind = s.kind) :
    let new := a.lacking s items
    let result := (a.add s items).1
    let b := (a.add s items).2
    (result = .ok () ↔ ∀ x ∈ new, a.Admits s.folder x) ∧
    (result = .ok () →
      b.items s = a.items s ++ new ∧
      (∀ e ∈ new, b.parent? e = some s.folder ∧
        ∀ f, f ≠ s.folder → a.parent? e = some f → e ∉ b.children f) ∧
      a.Refiles b (a.moving s.folder new)) ∧
    ∀ e, result = .error e → ∃ before x after, items = before ++ x :: after ∧
      a.add s before = (.ok (), b) ∧ b.add s [x] = (.error e, b) := by
  intro new result b
  have hheld' : (a.hold s.folder).held = [s.folder] := congrArg (s.folder :: ·) hheld
  have hs' : (a.hold s.folder).scope s.folder ≠ .detached := by
    rw [show (a.hold s.folder).scope s.folder = .bound from hs]
    exact nofun
  obtain ⟨hok, hrefiles⟩ := addEach_moves hheld' hs' hitems
  refine ⟨hok, fun h => ?_, fun e he => ?_⟩
  · have hr : a.Refiles b (a.moving s.folder new) := (hrefiles h).holding
    have hnew : ∀ e ∈ new, a.contains e ∧ e.kind = s.kind := fun e he =>
      hitems e (mem_lacking_iff.mp he).1
    refine ⟨items_of_moving hr hs' fun e he => (hnew e he).2, fun e he => ⟨?_, ?_⟩, hr⟩
    · rw [parent?_of_moving hr hs' fun e he => (hnew e he).1, if_pos he]
      exact if_pos hs
    · intro f hf hp hmem
      rw [children_of_moving hr hs', if_neg hf] at hmem
      simpa [he, hp] using (List.mem_filter.mp hmem).2
  · obtain ⟨before, x, after, rfl, hbefore, hx⟩ := addEach_eq_error he
    have hprefix : ∀ i ∈ before, (a.hold s.folder).contains i ∧ i.kind = s.kind :=
      fun i hi => hitems i (List.mem_append_left _ hi)
    obtain ⟨-, hrefiles⟩ := addEach_moves hheld' hs' hprefix
    rw [hbefore] at hrefiles
    -- what has been held meanwhile is held again when the refused one is added
    have hc : b.hold s.folder = ((a.hold s.folder).addEach s (before ++ x :: after)).2 :=
      hold_holding (hrefiles rfl)
    refine ⟨before, x, after, rfl, ?_, ?_⟩
    · rw [add, holding, hbefore]
      rfl
    · rw [add, holding, hc, hx]
      rfl

theorem add_moves_sidetracked :
    let top : Ref := ⟨.folder, 0⟩
    let inner : Ref := ⟨.folder, 1⟩
    let side : Ref := ⟨.folder, 3⟩
    let mark : Ref := ⟨.placemark, 4⟩
    let b := (sidetracked.add ⟨side, .placemark⟩ [mark, mark]).2
    b.items ⟨side, .placemark⟩ = [mark] ∧ b.parent? mark = some side ∧ mark ∉ b.children top ∧
    (sidetracked.add ⟨inner, .folder⟩ [side, top]).1 ≠ .ok () := by
  intro top inner side mark b
  obtain ⟨hok, htaken, -⟩ :=
    add_moves sidetracked ⟨side, .placemark⟩ [mark, mark] rfl (by decide) (by decide)
  have hadmits : ∀ x ∈ sidetracked.lacking ⟨side, .placemark⟩ [mark, mark],
      sidetracked.Admits side x := by
    intro x hx hk
    have hmark : x = mark := by simpa using (mem_lacking_iff.mp hx).1
    rw [hmark] at hk
    cases hk
  obtain ⟨hitems, hmoved, -⟩ := htaken (hok.mpr hadmits)
  obtain ⟨hparent, hleft⟩ := hmoved mark (by decide)
  obtain ⟨hcircle, -⟩ :=
    add_moves sidetracked ⟨inner, .folder⟩ [side, top] rfl (by decide) (by decide)
  have hpath : ReflTransGen sidetracked.Nests top inner := .single (by unfold Nests; decide)
  refine ⟨hitems, hparent, hleft top (by decide) (by decide), fun h => ?_⟩
  exact (hcircle.mp h top (by decide) rfl).1 hpath

end Atlas

end Gazetteer
