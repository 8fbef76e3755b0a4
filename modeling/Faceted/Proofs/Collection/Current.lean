import Faceted.Proofs.Collection.Matching
import Faceted.Proofs.Facet.Showing
import Mathlib.Data.List.InsertIdx
import Mathlib.Data.List.Perm.Basic

/-!
# What a collection shows

When a collection is refreshed, every facet is handed the items that it counts over, in one of three
ways: the restricted items if it does not restrict, the root if no other facet restricts, and otherwise
the root as the others narrow it. These are three ways to get at the same items, those that the other
facets let through.

* `View.inputOf`: the items that a facet counts over; `inputOf_eq`: what the others let through;
* `View.UpToDate` is the invariant: the restricted items are what the facets let through, and every facet
  shows what an update over what the others let through would show. `View.Current` follows from it: every
  count is the number of items that hold the entry;
* **`refresh_upToDate`**: a refresh that succeeds brings it about, whatever stood before;
  **`refresh_succeeds`**: when a refresh succeeds;
* `Call.upToDate_after` is the step, and **`upToDate_of_calls`** the run: after calls that have all
  succeeded, a collection shows what it should (`current_of_calls`).
-/

namespace Faceted

/-! ## 1. Leaving facets out -/

theorem eraseIdx_eraseIdx_comm {α : Type} (xs : List α) {p q : Nat} (h : p ≤ q) :
    (xs.eraseIdx (q + 1)).eraseIdx p = (xs.eraseIdx p).eraseIdx q := by
  refine List.ext_getElem? fun n => ?_
  simp only [List.getElem?_eraseIdx]
  grind

namespace Scene

variable {scene : Scene} {fs : List Facet} {place : Nat} {f : Facet}

/-- A facet that does not restrict may be left out. -/
theorem throughEach_eraseIdx (scene : Scene) (hf : fs[place]? = some f)
    (hr : f.hasRestrictions = false) (items : KeySet) :
    scene.throughEach (fs.eraseIdx place) items = scene.throughEach fs items := by
  obtain ⟨hlt, rfl⟩ := List.getElem?_eq_some_iff.mp hf
  have hsplit : fs.take place ++ fs[place] :: fs.drop (place + 1) = fs := by
    rw [← List.drop_eq_getElem_cons hlt, List.take_append_drop]
  rw [List.eraseIdx_eq_take_drop_succ]
  conv_rhs => rw [← hsplit]
  exact (scene.throughEach_append_of_not_hasRestrictions _ _ hr items).symm

/-- Facets that do not restrict let everything through. -/
theorem throughEach_of_none (scene : Scene) (h : ∀ f ∈ fs, f.hasRestrictions = false)
    (items : KeySet) : scene.throughEach fs items = .ok items := by
  induction fs with
  | nil => rfl
  | cons f rest ih =>
    rw [throughEach, h f List.mem_cons_self, if_neg Bool.false_ne_true]
    exact ih fun g hg => h g (List.mem_cons_of_mem f hg)

end Scene

namespace View

open Faceted.Action

variable {v w : View}

/-- All facets but the one at the place. -/
def others (v : View) (place : Nat) : List Facet := v.collection.facets.eraseIdx place

/-- What the other facets let through of the root. -/
def throughOthers (v : View) (place : Nat) : Outcome KeySet :=
  v.scene.throughEach (v.others place) v.collection.items

/-- Every facet is in the relation with what the others let through. -/
def EachWithOthers (v : View) (P : Facet → KeySet → Prop) : Prop :=
  ∀ place f, v.collection.facets[place]? = some f → ∃ input, v.throughOthers place = .ok input ∧ P f input

theorem Same.throughOthers (h : v.Same w) (place : Nat) :
    v.throughOthers place = w.throughOthers place := by
  unfold View.throughOthers others
  rw [h.items]
  refine Scene.throughEach_congr h.scene ?_ w.collection.items
  rw [← List.eraseIdx_map, ← List.eraseIdx_map, h.facets]

/-! ## 2. What facets count over -/

/-- The items that the facet at the place counts over. -/
def inputOf (v : View) (several : Bool) (place : Nat) : Outcome KeySet :=
  if !v.restrictsAt place then .ok v.collection.restricted
  else if !several then .ok v.collection.items
  else v.throughOthers place

/-- Does more than one facet restrict? -/
def several (v : View) : Bool := 1 < (v.collection.facets.filter Facet.hasRestrictions).length

theorem Same.restrictsAt (h : v.Same w) (place : Nat) : v.restrictsAt place = w.restrictsAt place := by
  have hfacet := congrArg (Option.map Facet.hasRestrictions) (h.facet_at place)
  simp only [Option.map_map, Function.comp_def, Facet.hasRestrictions_settled] at hfacet
  exact congrArg (Option.getD · false) hfacet

theorem Same.inputOf (h : v.Same w) (several : Bool) (place : Nat) :
    v.inputOf several place = w.inputOf several place := by
  unfold View.inputOf
  rw [h.restrictsAt, h.restricted, h.items, h.throughOthers]

/-- All places but one hold all facets but one. -/
theorem flatMap_places_filter (v : View) (place : Nat) :
    ((v.places.filter (· != place)).flatMap fun n => v.collection.facets[n]?.toList) =
      v.others place := by
  have hall (fs : List Facet) : ((List.range fs.length).flatMap fun n => fs[n]?.toList) = fs :=
    flatMap_places ⟨v.store, { v.collection with facets := fs }⟩
  unfold places others
  induction v.collection.facets generalizing place with
  | nil => rfl
  | cons f fs ih =>
    rw [List.length_cons, List.range_succ_eq_map, List.filter_cons, List.filter_map]
    cases place with
    | zero => simpa [Function.comp_def, List.flatMap_map] using hall fs
    | succ place => simpa [Function.comp_def, List.flatMap_map] using ih place

theorem inputAt_fst (several : Bool) (place : Nat) (v : View) :
    (inputAt several place v).1 = v.inputOf several place := by
  unfold inputAt inputOf
  rw [bind_apply, state_apply]
  dsimp only
  split
  · rfl
  · split
    · rfl
    · rw [narrow_fst]
      rw [flatMap_places_filter]
      rfl

/-- **All ways lead to what the others let through.** -/
theorem inputOf_eq (hnarrowed : v.scene.throughEach v.collection.facets v.collection.items =
    .ok v.collection.restricted) (place : Nat) :
    v.inputOf v.several place = v.throughOthers place := by
  unfold inputOf restrictsAt
  cases hf : v.collection.facets[place]? with
  | none =>
    have hall : v.others place = v.collection.facets :=
      List.eraseIdx_of_length_le (List.getElem?_eq_none_iff.mp hf)
    unfold throughOthers
    rw [hall, hnarrowed]
    rfl
  | some f =>
    rw [Option.map_some, Option.getD_some]
    cases hr : f.hasRestrictions with
    | false =>
      have hothers : v.throughOthers place = .ok v.collection.restricted := by
        rw [← hnarrowed]
        exact Scene.throughEach_eraseIdx v.scene hf hr v.collection.items
      rw [hothers]
      rfl
    | true =>
      cases hseveral : v.several with
      | true => rfl
      | false =>
        -- the facet is the only one that restricts
        have hothers : ∀ g ∈ v.others place, g.hasRestrictions = false := by
          obtain ⟨hlt, rfl⟩ := List.getElem?_eq_some_iff.mp hf
          have hperm := (List.getElem_cons_eraseIdx_perm hlt).filter Facet.hasRestrictions
          have hone : (v.collection.facets.filter Facet.hasRestrictions).length ≤ 1 := by
            simpa [View.several] using hseveral
          rw [← hperm.length_eq, List.filter_cons_of_pos hr, List.length_cons] at hone
          have hnil : (v.others place).filter Facet.hasRestrictions = [] :=
            List.length_eq_zero_iff.mp (by unfold others; omega)
          exact fun g hg => Bool.eq_false_iff.mpr (List.filter_eq_nil_iff.mp hnil g hg)
        have hall : v.throughOthers place = .ok v.collection.items :=
          Scene.throughEach_of_none v.scene hothers v.collection.items
        rw [hall]
        rfl

/-! ## 3. Indexes -/

/-- The views are the same, down to the indexes over properties. -/
structure Twin (v w : View) : Prop where
  same : v.Same w
  indexes : v.store.SameIndexes w.store

theorem Twin.scene (h : v.Twin w) : v.scene.Twin w.scene := ⟨h.same.scene, h.indexes⟩

/-- The action leaves a view the same, down to the indexes. -/
def KeepsTwin {α : Type} (act : Action View α) : Prop := Obeys (fun _ => Twin) act

theorem frame_twin : Frame fun _ => Twin :=
  ⟨fun _ v => ⟨Same.refl v, Store.SameIndexes.refl _⟩,
    fun h h' => ⟨h.same.trans h'.same, h.indexes.trans h'.indexes⟩⟩

theorem keepsTwin_atPlace {α : Type} {place : Nat} {otherwise : α}
    {act : Facet → Scene → Outcome α × Facet × Store} (hkeeps : Keeps (atPlace place otherwise act))
    (hstore : ∀ (f : Facet) (scene : Scene), scene.store.SameIndexes (act f scene).2.2) :
    KeepsTwin (atPlace place otherwise act) := by
  intro v
  refine ⟨hkeeps v, ?_⟩
  unfold atPlace
  split
  · exact Store.SameIndexes.refl _
  · next f _ => exact hstore f v.scene

theorem keepsTwin_restrictAt (place : Nat) (items : KeySet) : KeepsTwin (restrictAt place items) := by
  refine keepsTwin_atPlace (keeps_restrictAt place items) fun f scene => ?_
  split
  · exact f.sameIndexes_restrict scene items
  · exact Store.SameIndexes.refl _

theorem keepsTwin_updateAt (place : Nat) (items : KeySet) : KeepsTwin (updateAt place items) :=
  keepsTwin_atPlace (keeps_updateAt place items) fun f scene => f.sameIndexes_update scene items

theorem keepsTwin_narrow : ∀ (places : List Nat) (items : KeySet), KeepsTwin (narrow places items)
  | [], items => frame_twin.pure items
  | place :: rest, items =>
    frame_twin.bind (keepsTwin_restrictAt place items) (keepsTwin_narrow rest)

theorem keepsTwin_inputAt (several : Bool) (place : Nat) : KeepsTwin (inputAt several place) := by
  refine frame_twin.bind frame_twin.state fun v => ?_
  split
  · exact frame_twin.pure _
  · split
    · exact frame_twin.pure _
    · exact keepsTwin_narrow _ _

/-! ## 4. Handing out the items -/

/-- Every facet gets the items that it counts over. -/
theorem collect_inputAt_ok {several : Bool} {ps : List Nat} {inputs : List KeySet}
    (h : collect (inputAt several) ps v = (.ok inputs, w)) :
    List.Forall₂ (fun place input => v.inputOf several place = .ok input) ps inputs := by
  induction ps generalizing v inputs with
  | nil =>
    cases h
    exact .nil
  | cons place rest ih =>
    obtain ⟨input, u, hfirst, hrest⟩ := bind_ok h
    obtain ⟨inputs', u', hinputs, hpure⟩ := bind_ok hrest
    cases hpure
    have hsame : v.Same u := (keeps_inputAt several place).ok hfirst
    refine .cons ?_ ((ih hinputs).imp fun p x hx => (hsame.inputOf several p).trans hx)
    rw [← inputAt_fst, hfirst]

/-- The items that facets count over can be worked out if each of them can. -/
theorem collect_inputAt_succeeds (several : Bool) {ps : List Nat}
    (h : ∀ place ∈ ps, ∃ input, v.inputOf several place = .ok input) :
    ∃ inputs w, collect (inputAt several) ps v = (.ok inputs, w) := by
  induction ps generalizing v with
  | nil => exact ⟨[], v, rfl⟩
  | cons place rest ih =>
    obtain ⟨input, hinput⟩ := h place List.mem_cons_self
    have hkeeps := keeps_inputAt several place v
    have hfst := inputAt_fst several place v
    rw [hinput] at hfst
    cases hfirst : inputAt several place v with
    | mk outcome u =>
      rw [hfirst] at hfst hkeeps
      cases (hfst : outcome = .ok input)
      obtain ⟨inputs, w, hrest⟩ := ih (v := u) fun p hp => by
        obtain ⟨x, hx⟩ := h p (List.mem_cons_of_mem place hp)
        exact ⟨x, (Same.inputOf hkeeps several p).symm.trans hx⟩
      refine ⟨input :: inputs, w, ?_⟩
      unfold collect
      rw [bind_of_ok hfirst, bind_of_ok hrest]
      rfl

/-! ## 5. Showing -/

/-- The facet at the place shows what an update over what the others let through would show. -/
def UpToDateAt (v : View) (place : Nat) : Prop :=
  ∀ f, v.collection.facets[place]? = some f → ∃ input,
    v.throughOthers place = .ok input ∧ f.UpToDate v.scene input

/-- The facet at the place shows what it should, over what the others let through. -/
def ShowsAt (v : View) (place : Nat) : Prop :=
  ∀ f, v.collection.facets[place]? = some f → ∃ input,
    v.throughOthers place = .ok input ∧ f.Shows v.scene input

/-- Every facet could be shown anew. -/
def AllReady (v : View) : Prop := ∀ f ∈ v.collection.facets, (f.update v.scene ∅).1 = .ok ()

theorem Twin.allReady (h : v.Twin w) (hv : v.AllReady) : w.AllReady := by
  intro g hg
  have hmem : g.settled w.scene ∈ v.collection.facets.map (Facet.settled · v.scene) := by
    rw [h.same.facets]
    exact List.mem_map_of_mem hg
  obtain ⟨f, hf, heq⟩ := List.mem_map.mp hmem
  exact (Facet.update_twin h.scene heq ∅ ∅).symm.trans (hv f hf)

theorem updateAt_apply {place : Nat} {f : Facet} (hf : v.collection.facets[place]? = some f)
    (items : KeySet) : updateAt place items v =
      ((f.update v.scene items).1,
        v.putFacet place (f.update v.scene items).2.1 (f.update v.scene items).2.2) := by
  unfold updateAt atPlace
  rw [hf]

/-- A facet that has been handed its items is up to date; the others stay so. -/
theorem upToDateAt_updateAt {place : Nat} {input : KeySet} (h : updateAt place input v = (.ok (), w))
    (hinput : v.throughOthers place = .ok input) :
    w.UpToDateAt place ∧ ∀ n, v.UpToDateAt n → w.UpToDateAt n := by
  have htwin : v.Twin w := (keepsTwin_updateAt place input).ok h
  cases hf : v.collection.facets[place]? with
  | none =>
    have heq : w = v := by
      unfold updateAt atPlace at h
      rw [hf] at h
      cases h
      rfl
    subst heq
    exact ⟨fun f hf' => absurd (hf.symm.trans hf') (by simp), fun n hn => hn⟩
  | some f =>
    rw [updateAt_apply hf] at h
    have hok := congrArg Prod.fst h
    have hw := congrArg Prod.snd h
    dsimp only at hok hw
    have hplace : w.UpToDateAt place := by
      intro g hg
      refine ⟨input, (htwin.same.throughOthers place).symm.trans hinput, ?_⟩
      have hfacet := Facet.upToDate_update hok
      subst hw
      have hlt := (List.getElem?_eq_some_iff.mp hf).1
      have hset : (v.collection.facets.set place (f.update v.scene input).2.1)[place]? = some g := hg
      rw [List.getElem?_set_self hlt] at hset
      cases hset
      exact hfacet
    refine ⟨hplace, fun n hn => ?_⟩
    by_cases hne : place = n
    · exact hne ▸ hplace
    · intro g hg
      have hg' : v.collection.facets[n]? = some g := by
        subst hw
        have hset : (v.collection.facets.set place (f.update v.scene input).2.1)[n]? = some g := hg
        rwa [List.getElem?_set_ne hne] at hset
      obtain ⟨x, hx, hfacet⟩ := hn g hg'
      refine ⟨x, (htwin.same.throughOthers n).symm.trans hx, ?_⟩
      exact hfacet.congr htwin.scene (Facet.settled_alike htwin.same.scene g) rfl

/-- After all places have been handed their items every facet is up to date. -/
theorem upToDateAt_each {ps : List Nat} {inputs : List KeySet}
    (hinputs : List.Forall₂ (fun place input => v.throughOthers place = .ok input) ps inputs)
    (h : each (fun (place, items) => updateAt place items) (ps.zip inputs) v = (.ok (), w)) :
    (∀ place ∈ ps, w.UpToDateAt place) ∧ ∀ n, v.UpToDateAt n → w.UpToDateAt n := by
  induction ps generalizing v inputs with
  | nil =>
    cases hinputs
    cases h
    exact ⟨fun _ hplace => absurd hplace List.not_mem_nil, fun _ hn => hn⟩
  | cons place ps ih =>
    obtain _ | ⟨hinput, hrest⟩ := hinputs
    obtain ⟨_, u, hfirst, hothers⟩ := bind_ok h
    have hsame : v.Same u := (keeps_updateAt place _).ok hfirst
    obtain ⟨hplace, hkept⟩ := upToDateAt_updateAt hfirst hinput
    obtain ⟨hshown, hkept'⟩ := ih (hrest.imp fun p x hx =>
      (hsame.throughOthers p).symm.trans hx) hothers
    refine ⟨fun n hn => ?_, fun n hn => hkept' n (hkept n hn)⟩
    rcases List.mem_cons.mp hn with rfl | hn
    · exact hkept' n hplace
    · exact hshown n hn

/-- Handing out items succeeds if every facet could be shown. -/
theorem each_updateAt_succeeds (handed : List (Nat × KeySet)) (hready : v.AllReady) :
    ∃ w, each (fun (place, items) => updateAt place items) handed v = (.ok (), w) := by
  induction handed generalizing v with
  | nil => exact ⟨v, rfl⟩
  | cons first rest ih =>
    obtain ⟨place, input⟩ := first
    have htwin := keepsTwin_updateAt place input v
    have hfst : (updateAt place input v).1 = .ok () := by
      cases hf : v.collection.facets[place]? with
      | none =>
        unfold updateAt atPlace
        rw [hf]
      | some f =>
        rw [updateAt_apply hf]
        exact (f.update_eq v.scene input ∅).trans (hready f (List.mem_of_getElem? hf))
    have hfirst : updateAt place input v = (.ok (), (updateAt place input v).2) := Prod.ext hfst rfl
    obtain ⟨w, hw⟩ := ih (Twin.allReady htwin hready)
    exact ⟨w, (bind_of_ok hfirst).trans hw⟩

/-! ## 6. Refreshing -/

/-- The restricted items are what the facets let through of the root, every facet shows what an update
    would show, and no batch is under way. -/
structure UpToDate (v : View) : Prop where
  narrowed : v.scene.throughEach v.collection.facets v.collection.items =
    .ok v.collection.restricted
  shown : ∀ place, v.UpToDateAt place
  updating : v.collection.updating = false

/-- The restricted items are what the facets let through of the root, every facet shows what it should,
    and no batch is under way. -/
structure Current (v : View) : Prop where
  narrowed : v.scene.throughEach v.collection.facets v.collection.items =
    .ok v.collection.restricted
  shown : ∀ place, v.ShowsAt place
  updating : v.collection.updating = false

/-- What is up to date is in order. -/
theorem UpToDate.current (hv : v.UpToDate) : v.Current where
  narrowed := hv.narrowed
  shown place f hf := by
    obtain ⟨input, hinput, hfacet⟩ := hv.shown place f hf
    exact ⟨input, hinput, hfacet.shows⟩
  updating := hv.updating

theorem updateFacets_apply (v : View) :
    updateFacets v = (collect (inputAt v.several) v.places >>= fun inputs =>
      each (fun (place, items) => updateAt place items) (v.places.zip inputs)) v := rfl

theorem upToDate_updateFacets (h : updateFacets v = (.ok (), w))
    (hnarrowed : v.scene.throughEach v.collection.facets v.collection.items =
      .ok v.collection.restricted) (hupdating : v.collection.updating = false) : w.UpToDate := by
  have hsame : v.Same w := keeps_updateFacets.ok h
  rw [updateFacets_apply] at h
  obtain ⟨inputs, u, hcollect, heach⟩ := bind_ok h
  have hkeeps : v.Same u := (frame_same.collect (keeps_inputAt v.several) v.places).ok hcollect
  have hinputs := (collect_inputAt_ok hcollect).imp fun place x hx =>
    (hkeeps.throughOthers place).symm.trans ((v.inputOf_eq hnarrowed place).symm.trans hx)
  refine ⟨?_, fun place f hf => ?_, hsame.updating.symm.trans hupdating⟩
  · rw [← hsame.throughEach, ← hsame.items, hnarrowed, hsame.restricted]
  · have hplace : place ∈ v.places := by
      have hlt := (List.getElem?_eq_some_iff.mp hf).1
      have hlength := congrArg List.length hsame.facets
      rw [List.length_map, List.length_map] at hlength
      exact List.mem_range.mpr (hlength ▸ hlt)
    exact (upToDateAt_each hinputs heach).1 place hplace f hf

/-- What a narrowing of the root that succeeds leaves for the counting. -/
theorem narrowRoot_ok {restricted : KeySet}
    (h : v.scene.throughEach v.collection.facets v.collection.items = .ok restricted) :
    ∃ u, narrowRoot v = (.ok (), u) ∧ (v.withRestricted restricted).Twin u := by
  have hkeeps := keepsTwin_narrow v.places v.collection.items v
  rw [← narrow_places_fst] at h
  refine ⟨(narrow v.places v.collection.items v).2.withRestricted restricted, ?_,
    hkeeps.same.withRestricted restricted, hkeeps.indexes⟩
  rw [narrowRoot_apply]
  generalize narrow v.places v.collection.items v = result at h
  obtain ⟨outcome, u⟩ := result
  cases (h : outcome = .ok restricted)
  rfl

/-- What is told plays no part in what is shown. -/
theorem UpToDate.tell (hv : v.UpToDate) (event : CollectionEvent) : (tell event v).2.UpToDate :=
  ⟨hv.narrowed, hv.shown, hv.updating⟩

/-- **A refresh that succeeds brings a collection up to date**, whatever stood before. -/
theorem refresh_upToDate (h : refresh v = (.ok (), w)) (hupdating : v.collection.updating = false) :
    w.UpToDate := by
  cases hroot : v.scene.throughEach v.collection.facets v.collection.items with
  | error failure =>
    have hfails := (refresh_of_error hroot).1
    rw [h] at hfails
    cases hfails
  | ok restricted =>
    obtain ⟨u, hu, htwin⟩ := narrowRoot_ok hroot
    unfold refresh at h
    rw [bind_of_ok hu] at h
    obtain ⟨_, t, hupdate, htell⟩ := bind_ok h
    have ht : t.UpToDate := by
      refine upToDate_updateFacets hupdate ?_ (htwin.same.updating.symm.trans hupdating)
      rw [← htwin.same.throughEach, ← htwin.same.items, ← htwin.same.restricted]
      exact hroot
    cases htell
    exact ht.tell .itemsChanged

/-- **A refresh succeeds** if the facets can be applied, also without any one of them, and if every one
    could be shown. -/
theorem refresh_succeeds {restricted : KeySet}
    (hnarrowed : v.scene.throughEach v.collection.facets v.collection.items = .ok restricted)
    (hothers : ∀ place, ∃ input, v.throughOthers place = .ok input) (hready : v.AllReady) :
    ∃ w, refresh v = (.ok (), w) := by
  obtain ⟨u, hu, htwin⟩ := narrowRoot_ok hnarrowed
  have hnarrowed' : u.scene.throughEach u.collection.facets u.collection.items =
      .ok u.collection.restricted := by
    rw [← htwin.same.throughEach, ← htwin.same.items, ← htwin.same.restricted]
    exact hnarrowed
  have hinputs (place : Nat) : ∃ input, u.inputOf u.several place = .ok input := by
    obtain ⟨input, hinput⟩ := hothers place
    refine ⟨input, ?_⟩
    rw [u.inputOf_eq hnarrowed', ← htwin.same.throughOthers]
    exact hinput
  obtain ⟨inputs, t, hcollect⟩ :=
    collect_inputAt_succeeds u.several fun place (_ : place ∈ u.places) => hinputs place
  have hready' : t.AllReady :=
    ((frame_twin.collect (keepsTwin_inputAt u.several) u.places).ok hcollect).allReady
      (htwin.allReady hready)
  obtain ⟨w, hw⟩ := each_updateAt_succeeds (u.places.zip inputs) hready'
  refine ⟨(tell .itemsChanged w).2, ?_⟩
  unfold refresh
  rw [bind_of_ok hu]
  exact bind_of_ok ((updateFacets_apply u).trans ((bind_of_ok hcollect).trans hw))

/-! ## 7. Calls -/

/-- A collection stays up to date if only what is kept changes and the same is shown. -/
theorem Twin.upToDate (h : v.Twin w) (hdisplays : v.collection.facets.map Facet.shown =
    w.collection.facets.map Facet.shown) (hv : v.UpToDate) : w.UpToDate := by
  refine ⟨?_, fun place g hg => ?_, h.same.updating.symm.trans hv.updating⟩
  · rw [← h.same.throughEach, ← h.same.items, hv.narrowed, h.same.restricted]
  · have hsettled := h.same.facet_at place
    have hshown := congrArg (fun shown => shown[place]?) hdisplays
    simp only [List.getElem?_map, hg, Option.map_some] at hsettled hshown
    obtain ⟨f, hf, hsettled⟩ := Option.map_eq_some_iff.mp hsettled
    rw [hf, Option.map_some] at hshown
    obtain ⟨input, hinput, hfacet⟩ := hv.shown place f hf
    exact ⟨input, (h.same.throughOthers place).symm.trans hinput,
      hfacet.congr h.scene hsettled (Option.some.inj hshown)⟩

theorem upToDate_rootChanged (h : rootChanged v = (.ok (), w))
    (hupdating : v.collection.updating = false) : w.UpToDate :=
  refresh_upToDate (v := { v with collection := { v.collection with
    facets := v.collection.facets.map Facet.dropCaches
    told := v.collection.told ++ [.rootItemsChanged] } }) h hupdating

/-- A facet that does not restrict may stand behind the others, as the one before which all the
    restricted items are. -/
theorem EachWithOthers.pushFacet {P : Facet → KeySet → Prop} (h : v.EachWithOthers P)
    (hnarrowed : v.scene.throughEach v.collection.facets v.collection.items =
      .ok v.collection.restricted) {f : Facet} (hr : f.hasRestrictions = false)
    (hf : P f v.collection.restricted) :
    EachWithOthers { v with collection := v.collection.pushFacet f } P := by
  have hleft (fs : List Facet) : v.scene.throughEach (fs ++ [f]) v.collection.items =
      v.scene.throughEach fs v.collection.items := by
    rw [v.scene.throughEach_append_of_not_hasRestrictions fs [] hr, List.append_nil]
  intro place g hg
  show ∃ input, v.scene.throughEach ((v.collection.facets ++ [f]).eraseIdx place)
    v.collection.items = .ok input ∧ P g input
  have hg' : (v.collection.facets ++ [f])[place]? = some g := hg
  by_cases hlt : place < v.collection.facets.length
  · rw [List.getElem?_append_left hlt] at hg'
    rw [List.eraseIdx_append_of_lt_length hlt, hleft]
    exact h place g hg'
  · -- the new facet itself
    have hle : v.collection.facets.length ≤ place := Nat.le_of_not_lt hlt
    have heq : place = v.collection.facets.length := by
      have hbound := (List.getElem?_eq_some_iff.mp hg').1
      rw [List.length_append, List.length_singleton] at hbound
      omega
    rw [heq, List.getElem?_concat_length, Option.some.injEq] at hg'
    rw [heq, List.eraseIdx_append_of_length_le (Nat.le_refl _), Nat.sub_self, ← hg']
    refine ⟨v.collection.restricted, ?_, hf⟩
    simpa using hnarrowed

/-- A facet that does not restrict, counted over the restricted items, may stand behind the others. -/
theorem UpToDate.pushFacet (hv : v.UpToDate) {f : Facet} (hr : f.hasRestrictions = false)
    (hfacet : f.UpToDate v.scene v.collection.restricted) :
    UpToDate { v with collection := v.collection.pushFacet f } where
  narrowed := by
    have hleft := v.scene.throughEach_append_of_not_hasRestrictions v.collection.facets [] hr
      v.collection.items
    rw [List.append_nil] at hleft
    exact hleft.trans hv.narrowed
  shown :=
    have hshown : v.EachWithOthers fun f input => f.UpToDate v.scene input := hv.shown
    hshown.pushFacet hv.narrowed hr hfacet
  updating := hv.updating

theorem upToDate_addFacet {f : Facet} (h : addFacet f v = (.ok (), w)) (hv : v.UpToDate) :
    w.UpToDate := by
  unfold addFacet at h
  rw [bind_apply, state_apply] at h
  dsimp only at h
  split at h
  · cases h
  · split at h
    · exact refresh_upToDate (v := { v with collection := v.collection.pushFacet f }) h hv.updating
    · next hr =>
      have hr : f.hasRestrictions = false := Bool.eq_false_iff.mpr hr
      obtain ⟨g, u, hupdated, hpush⟩ := bind_ok h
      rw [updated_apply] at hupdated
      have hsettled := f.settled_update v.scene v.collection.restricted
      have htwin := f.twin_update v.scene v.collection.restricted
      have hfacet (hok : (f.update v.scene v.collection.restricted).1 = .ok ()) :=
        Facet.upToDate_update hok
      generalize f.update v.scene v.collection.restricted = answer
        at hupdated hsettled htwin hfacet
      obtain ⟨outcome, g', store⟩ := answer
      cases outcome with
      | error failure => cases hupdated
      | ok done =>
        cases hupdated
        cases hpush
        have hstore : UpToDate { v with store } :=
          Twin.upToDate ⟨same_of_store htwin.alike.store, htwin.indexes⟩ rfl hv
        exact hstore.pushFacet ((Facet.hasRestrictions_congr hsettled).trans hr) (hfacet rfl)

/-- Where the facet of an id stands. -/
theorem place_of_facet? {c : Collection} {id : String} {f : Facet} (hf : c.facet? id = some f) :
    ∃ place, c.place? id = some place ∧ c.facets[place]? = some f ∧
      (c.dropFacet id).facets = c.facets.eraseIdx place := by
  obtain ⟨hid, place, hlt, hplace, hbefore⟩ := List.find?_eq_some_iff_getElem.mp hf
  have hfind : c.facets.findIdx? (fun g => g.id == id) = some place := by
    refine List.findIdx?_eq_some_iff_getElem.mpr ⟨hlt, by rw [hplace]; exact hid, fun j hj => ?_⟩
    simpa using hbefore j hj
  refine ⟨place, hfind, List.getElem?_eq_some_iff.mpr ⟨hlt, hplace⟩, ?_⟩
  show c.facets.eraseP (fun g => g.id == id) = _
  rw [List.eraseP_eq_eraseIdx, hfind]

/-- A facet that does not restrict may go. -/
theorem EachWithOthers.dropFacet {P : Facet → KeySet → Prop} (h : v.EachWithOthers P) {id : String}
    {f : Facet} (hf : v.collection.facet? id = some f) (hr : f.hasRestrictions = false) :
    (v.withoutFacet id).EachWithOthers P := by
  obtain ⟨place, -, hplace, hdrop⟩ := place_of_facet? hf
  intro n g hg
  show ∃ input, v.scene.throughEach ((v.collection.dropFacet id).facets.eraseIdx n)
    v.collection.items = .ok input ∧ P g input
  have hg' : (v.collection.dropFacet id).facets[n]? = some g := hg
  rw [hdrop] at hg' ⊢
  rw [List.getElem?_eraseIdx] at hg'
  by_cases hlt : n < place
  · rw [if_pos hlt] at hg'
    obtain ⟨place, rfl⟩ : ∃ k, place = k + 1 := ⟨place - 1, by omega⟩
    have hfirst : (v.collection.facets.eraseIdx n)[place]? = some f := by
      rw [List.getElem?_eraseIdx, if_neg (by omega)]
      exact hplace
    rw [eraseIdx_eraseIdx_comm _ (by omega), Scene.throughEach_eraseIdx v.scene hfirst hr]
    exact h n g hg'
  · rw [if_neg hlt] at hg'
    have hfirst : (v.collection.facets.eraseIdx (n + 1))[place]? = some f := by
      rw [List.getElem?_eraseIdx, if_pos (by omega)]
      exact hplace
    rw [← eraseIdx_eraseIdx_comm _ (by omega), Scene.throughEach_eraseIdx v.scene hfirst hr]
    exact h (n + 1) g hg'

theorem UpToDate.dropFacet (hv : v.UpToDate) {id : String} {f : Facet}
    (hf : v.collection.facet? id = some f) (hr : f.hasRestrictions = false) :
    (v.withoutFacet id).UpToDate where
  narrowed := (throughEach_dropFacet hf hr v.scene v.collection.items).trans hv.narrowed
  shown :=
    have hshown : v.EachWithOthers fun f input => f.UpToDate v.scene input := hv.shown
    hshown.dropFacet hf hr
  updating := hv.updating

theorem upToDate_removeFacet {id : String} {removed : Option Facet}
    (h : removeFacet id v = (.ok removed, w)) (hv : v.UpToDate) : w.UpToDate := by
  cases removed with
  | none =>
    rw [removeFacet_none h]
    exact hv
  | some f =>
    obtain ⟨hf, ⟨-, hrefresh⟩ | ⟨hr, rfl⟩⟩ := removeFacet_cases h
    · exact refresh_upToDate hrefresh hv.updating
    · exact hv.dropFacet hf hr

/-- What is done to a facet tells the truth, also about what is shown: without reporting a change it
    leaves the facet with what it stands for and with what it shows. -/
def ReportsChanges (act : Facet → Scene → Outcome Bool × Facet) : Prop :=
  ∀ f scene, (act f scene).1 ≠ .ok true →
    (act f scene).2.settled scene = f.settled scene ∧ (act f scene).2.shown = f.shown

theorem reportsChanges_perform (change : Change) :
    ReportsChanges fun f scene => f.perform scene change := fun f scene hne =>
  ⟨f.settled_perform scene change hne, f.shown_perform scene change hne⟩

/-- Something done to a facet that reports no change leaves everything as it stood and as it was
    shown. -/
theorem twin_of_unreported {place : Nat} {f : Facet} {act : Facet → Scene → Outcome Bool × Facet}
    (hact : ReportsChanges act) (hf : v.collection.facets[place]? = some f)
    (h : (act f v.scene).1 = .ok false) :
    v.Twin (v.actedAt place act f) ∧ v.collection.facets.map Facet.shown =
      (v.actedAt place act f).collection.facets.map Facet.shown := by
  have hne : (act f v.scene).1 ≠ .ok true := by
    rw [h]
    exact fun htrue => Bool.false_ne_true (Except.ok.inj htrue)
  obtain ⟨hsettled, hshown⟩ := hact f v.scene hne
  exact ⟨⟨same_putFacet hf hsettled (Store.Alike.refl _), Store.SameIndexes.refl _⟩,
    (map_set_of_eq hf hshown).symm⟩

theorem upToDate_changeFacetBy {id : String} {act : Facet → Scene → Outcome Bool × Facet}
    {changed : Bool} (h : changeFacetBy id act v = (.ok changed, w)) (hact : ReportsChanges act)
    (hv : v.UpToDate) : w.UpToDate := by
  obtain ⟨place, f, -, hf, hanswer, ⟨rfl, rfl⟩ | ⟨rfl, hchanged⟩⟩ := changeFacetBy_cases h
  · obtain ⟨htwin, hshown⟩ := twin_of_unreported hact hf hanswer
    exact htwin.upToDate hshown hv
  · rw [facetChanged_of_updating (v := v.actedAt place act f) hv.updating] at hchanged
    exact refresh_upToDate hchanged hv.updating

theorem upToDate_batch {α : Type} {act : Action View α} {x : α} (h : batch act v = (.ok x, w)) :
    w.UpToDate := by
  obtain ⟨u, -, hrefresh⟩ := batch_ok h
  exact refresh_upToDate hrefresh rfl

end View

namespace Call

/-- Does the call succeed? -/
def succeeds (call : Call) (v : View) : Bool :=
  match call with
  | reroot => (View.reroot v).1.isOk
  | setRoot items => (View.setRoot items v).1.isOk
  | addFacet facet => (View.addFacet facet v).1.isOk
  | removeFacet id => (View.removeFacet id v).1.isOk
  | changeFacet id change => (View.changeFacet id change v).1.isOk
  | batch act => (View.batch act v).1.isOk
  | clearAll => (View.clearAll v).1.isOk
  | applyAll states => (View.applyAll states v).1.isOk

/-- Do all calls succeed, one after the other? -/
def allSucceed : List Call → View → Bool
  | [], _ => true
  | call :: rest, v => call.succeeds v && allSucceed rest (call.after v)

/-- **One call** that succeeds keeps a collection up to date. -/
theorem upToDate_after {call : Call} {v : View} (h : call.succeeds v = true) (hv : v.UpToDate) :
    (call.after v).UpToDate := by
  cases call with
  | reroot =>
    obtain ⟨_, hok⟩ := Action.exists_of_isOk h
    exact View.upToDate_rootChanged (v := { v with collection := { v.collection with
      items := v.rootItems } }) hok hv.updating
  | setRoot items =>
    obtain ⟨_, hok⟩ := Action.exists_of_isOk h
    exact View.upToDate_rootChanged (v := { v with collection := { v.collection with items } }) hok
      hv.updating
  | addFacet facet =>
    obtain ⟨_, hok⟩ := Action.exists_of_isOk h
    exact View.upToDate_addFacet hok hv
  | removeFacet id =>
    obtain ⟨_, hok⟩ := Action.exists_of_isOk h
    exact View.upToDate_removeFacet hok hv
  | changeFacet id change =>
    obtain ⟨_, hok⟩ := Action.exists_of_isOk h
    exact View.upToDate_changeFacetBy hok (View.reportsChanges_perform change) hv
  | batch act =>
    obtain ⟨_, hok⟩ := Action.exists_of_isOk h
    exact View.upToDate_batch hok
  | clearAll =>
    obtain ⟨_, hok⟩ := Action.exists_of_isOk h
    exact View.upToDate_batch hok
  | applyAll states =>
    obtain ⟨_, hok⟩ := Action.exists_of_isOk h
    exact View.upToDate_batch hok

theorem upToDate_foldl {calls : List Call} {v : View} (h : allSucceed calls v = true)
    (hv : v.UpToDate) : (calls.foldl (fun v call => call.after v) v).UpToDate := by
  induction calls generalizing v with
  | nil => exact hv
  | cons call rest ih =>
    obtain ⟨hfirst, hrest⟩ := Bool.and_eq_true_iff.mp h
    exact ih hrest (upToDate_after hfirst hv)

end Call

theorem upToDate_new (s : Store) (id : String) (source : ItemSource) :
    View.UpToDate ⟨s, Collection.new id source⟩ :=
  ⟨rfl, fun _ _ hf => absurd hf (by simp [Collection.new]), rfl⟩

/-- **A collection shows what updates would show** after calls that have all succeeded. -/
theorem upToDate_of_calls {s : Store} {id : String} {source : ItemSource} {calls : List Call}
    (h : Call.allSucceed calls ⟨s, Collection.new id source⟩ = true) :
    (viewAfter s id source calls).UpToDate :=
  Call.upToDate_foldl h (upToDate_new s id source)

/-- So what it shows is in order. -/
theorem current_of_calls {s : Store} {id : String} {source : ItemSource} {calls : List Call}
    (h : Call.allSucceed calls ⟨s, Collection.new id source⟩ = true) :
    (viewAfter s id source calls).Current :=
  (upToDate_of_calls h).current

end Faceted
