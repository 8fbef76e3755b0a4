import Faceted.Proofs.Collection.Working
import Faceted.Proofs.Facet.SameSelection

/-!
# Restoring the selections of one collection

A collection takes over states facet by facet, in one batch. If the states are those that facets have
exported that were set up alike, every facet takes its own over, whatever it had selected before.

* `Scene.throughEach_of_sameSelection`: the same selections let the same items through;
* `actEach` acts on facets one after the other; a batch does so (`View.collect_changeFacetBy`), which is
  shown by induction on the facets that are left, with those that have been acted on in front of them;
* **`View.restoreFacets_apply`**: what the facets report is reported, and is what they are left with;
* **`View.restoreFacets_exported`**: all facets end with the selections that were exported.
-/

namespace Faceted

/-! ## 1. Facets with the same selections -/

namespace Facet

theorem id_plain (f : Facet) : f.plain.id = f.id := by
  cases f <;> rfl

/-- The facets were set up alike, whatever is selected in them. -/
def SetUpAlike (f g : Facet) : Prop := f.plain = g.plain

theorem SameBare.setUpAlike {f g : Facet} (h : f.SameBare g) : f.SetUpAlike g :=
  (Reselected.of_bare h).plain

theorem SetUpAlike.id {f g : Facet} (h : f.SetUpAlike g) : f.id = g.id := by
  rw [← f.id_plain, h, g.id_plain]

theorem SameSelection.of_sameBare {f f' g : Facet} (hbare : f.SameBare f') (h : f.SameSelection g) :
    f'.SameSelection g :=
  (SameSelection.of_bare hbare).symm.trans h

end Facet

namespace Scene

variable {scene scene' : Scene} {fs gs : List Facet} {items kept kept' : KeySet}

/-- Facets of which each lets through what its like lets through, if both can be applied. -/
theorem throughEach_of_agree
    (h : List.Forall₂ (fun f g => f.hasRestrictions = g.hasRestrictions ∧
      ∀ {items kept kept'}, f.hasRestrictions = true → (f.restrict scene items).1 = .ok kept →
        (g.restrict scene' items).1 = .ok kept' → kept = kept') fs gs)
    (hkept : scene.throughEach fs items = .ok kept)
    (hkept' : scene'.throughEach gs items = .ok kept') : kept = kept' := by
  induction h generalizing items with
  | nil => exact Except.ok.inj (hkept.symm.trans hkept')
  | @cons f g fs gs hfg _ ih =>
    obtain ⟨hrestricts, hsame⟩ := hfg
    unfold throughEach at hkept hkept'
    rw [← hrestricts] at hkept'
    split at hkept
    · next hr =>
      rw [if_pos hr] at hkept'
      split at hkept
      · next left hleft =>
        split at hkept'
        · next left' hleft' =>
          have heq : left = left' := hsame hr hleft hleft'
          exact ih hkept (heq ▸ hkept')
        · cases hkept'
      · cases hkept
    · next hr =>
      rw [if_neg hr] at hkept'
      exact ih hkept hkept'

/-- Facets with the same selections let the same items through. -/
theorem throughEach_of_sameSelection (hs : scene.Alike scene')
    (h : List.Forall₂ Facet.SameSelection fs gs) (huser : ∀ f ∈ fs, f.isForUser = true)
    (hfresh : ∀ f ∈ fs, f.Fresh scene) (hfresh' : ∀ g ∈ gs, g.Fresh scene')
    (hkept : scene.throughEach fs items = .ok kept)
    (hkept' : scene'.throughEach gs items = .ok kept') : kept = kept' := by
  refine throughEach_of_agree ?_ hkept hkept'
  refine forall₂_imp_of_mem h fun f hf g hg hfg => ?_
  refine ⟨hfg.hasRestrictions (huser f hf), fun _ hleft hleft' => ?_⟩
  exact hfg.restrict (huser f hf) hs (hfresh f hf) (hfresh' g hg) hleft hleft'

end Scene

/-- The first facet with an id stands behind those that have other ids. -/
theorem Collection.place?_append {c : Collection} {front back : List Facet} {f : Facet}
    (h : c.facets = front ++ f :: back) (hfront : f.id ∉ front.map Facet.id) :
    c.place? f.id = some front.length := by
  refine List.findIdx?_eq_some_iff_getElem.mpr ⟨?_, ?_, fun n hn => ?_⟩
  · rw [h, List.length_append, List.length_cons]
    omega
  · simp [h]
  · have hid : (front[n]).id ≠ f.id := fun heq =>
      hfront (List.mem_map.mpr ⟨front[n], List.getElem_mem hn, heq⟩)
    simpa [h, List.getElem_append_left hn] using hid

/-! ## 2. Facets one after the other -/

/-- Acts on facets one after the other, up to the first that fails; the ones after it are as they
    were. -/
def actEach (act : Facet → Scene → Outcome Bool × Facet) (scene : Scene) :
    List Facet → Outcome (List Bool) × List Facet
  | [] => (.ok [], [])
  | f :: fs =>
    match act f scene with
    | (.ok changed, g) =>
      ((actEach act scene fs).1.map (changed :: ·), g :: (actEach act scene fs).2)
    | (.error failure, g) => (.error failure, g :: fs)

section ActEach

variable {act : Facet → Scene → Outcome Bool × Facet} {scene : Scene} {f g : Facet} {fs : List Facet}

theorem actEach_of_ok {changed : Bool} (h : act f scene = (.ok changed, g)) :
    actEach act scene (f :: fs) =
      ((actEach act scene fs).1.map (changed :: ·), g :: (actEach act scene fs).2) := by
  rw [actEach, h]

theorem actEach_of_error {failure : Failure} (h : act f scene = (.error failure, g)) :
    actEach act scene (f :: fs) = (.error failure, g :: fs) := by
  rw [actEach, h]

end ActEach

/-- Takes over the state that the facet is to have. -/
def importing (target : Facet → FacetState) (f : Facet) (_ : Scene) : Outcome Bool × Facet :=
  f.orStay (f.importState (target f))

/-- Facets take over what was exported one after the other. -/
theorem actEach_restored {target : Facet → FacetState} (scene : Scene) {fs gs : List Facet}
    (hplain : List.Forall₂ Facet.SetUpAlike fs gs) (htrimmed : ∀ g ∈ gs, g.Trimmed)
    (htarget : ∀ f, ∀ g ∈ gs, f.id = g.id → target f = g.exportState) :
    ∃ answers restored, actEach (importing target) scene fs = (.ok answers, restored) ∧
      List.Forall₂ Facet.SameSelection restored gs := by
  induction hplain with
  | nil => exact ⟨[], [], rfl, .nil⟩
  | @cons f g fs gs hfg _ ih =>
    obtain ⟨changed, f', himport, hsame⟩ :=
      Facet.importState_exported hfg (htrimmed g List.mem_cons_self)
    obtain ⟨answers, restored, hrest, hrestored⟩ :=
      ih (fun g hg => htrimmed g (List.mem_cons_of_mem _ hg))
        fun f g hg => htarget f g (List.mem_cons_of_mem _ hg)
    have hfirst : importing target f scene = (.ok changed, f') := by
      unfold importing
      rw [htarget f g List.mem_cons_self (Facet.SetUpAlike.id hfg), himport]
      rfl
    refine ⟨changed :: answers, f' :: restored, ?_, .cons hsame hrestored⟩
    rw [actEach_of_ok hfirst, hrest]
    rfl

/-! ## 3. One collection -/

namespace View

open Faceted.Action

/-- Acting on facets by their ids, in a batch, is acting on one after the other. -/
theorem collect_changeFacetBy {act : Facet → Scene → Outcome Bool × Facet} (hact : Sound act)
    {front fs : List Facet} {v : View} (hupdating : v.collection.updating = true)
    (hfacets : v.collection.facets = front ++ fs) (hdistinct : ((front ++ fs).map Facet.id).Nodup) :
    collect (fun id => changeFacetBy id act) (fs.map Facet.id) v =
      ((actEach act v.scene fs).1, v.withFacets (front ++ (actEach act v.scene fs).2)) := by
  induction fs generalizing front v with
  | nil =>
    rw [actEach, ← hfacets]
    rfl
  | cons f fs ih =>
    have hfront : f.id ∉ front.map Facet.id := by
      rw [List.map_append, List.map_cons] at hdistinct
      exact fun hmem => (List.nodup_append.mp hdistinct).2.2 _ hmem _ List.mem_cons_self rfl
    have hput : v.actedAt front.length act f =
        v.withFacets ((front ++ [(act f v.scene).2]) ++ fs) := by
      simp [actedAt, putFacet, withFacets, hfacets]
    have hfirst : changeFacetBy f.id act v =
        ((act f v.scene).1, v.withFacets ((front ++ [(act f v.scene).2]) ++ fs)) := by
      rw [← hput]
      exact changeFacetBy_of_held hupdating (Collection.place?_append hfacets hfront)
        (by rw [hfacets]; simp)
    rw [List.map_cons, collect]
    cases hanswer : act f v.scene with
    | mk outcome g =>
      rw [hanswer] at hfirst
      dsimp only at hfirst
      cases outcome with
      | error failure =>
        rw [bind_of_error hfirst, actEach_of_error hanswer, List.append_assoc]
        rfl
      | ok changed =>
        have hid : g.id = f.id := by
          have hrole := congrArg Prod.fst (hact.role f v.scene)
          rwa [hanswer, role_fst, role_fst] at hrole
        rw [bind_of_ok hfirst, bind_pure_apply,
          ih (v := v.withFacets (front ++ [g] ++ fs)) hupdating rfl (by simpa [hid] using hdistinct),
          actEach_of_ok hanswer]
        simp [withFacets, scene]

/-- **A collection takes over states**: what its facets report one after the other is reported, and they
    stay as the last of them has left them, but for what they keep and show. -/
theorem restoreFacets_apply {v : View} (s : BrowserState) (hworks : v.Works) (hv : v.InLine)
    (huser : ∀ f ∈ v.collection.facets, f.isForUser = true)
    (hdistinct : (v.collection.facets.map Facet.id).Nodup) {answers : Outcome (List Bool)}
    {restored : List Facet}
    (h : actEach (importing (s.target v.collection.id)) v.scene v.collection.facets =
      (answers, restored)) :
    ∃ w, Browser.restoreFacets s v = (answers.map (·.any id), w) ∧
      List.Forall₂ Facet.SameBare restored w.collection.facets := by
  have hact : Selecting (importing (s.target v.collection.id)) :=
    selecting_importState (s.target v.collection.id)
  have hcollect : collect (fun id => changeFacetBy id (importing (s.target v.collection.id)))
      (v.collection.facets.map Facet.id) (v.withUpdating true) =
        ((actEach (importing (s.target v.collection.id)) v.scene v.collection.facets).1,
          (v.withUpdating true).withFacets
            ([] ++ (actEach (importing (s.target v.collection.id)) v.scene v.collection.facets).2)) :=
    collect_changeFacetBy hact.toSound rfl rfl hdistinct
  rw [h] at hcollect
  have hheld := frame_held.collect (fun id => held_changeFacetBy hact.toSound id)
    (v.collection.facets.map Facet.id) (v.withUpdating true) rfl
  have hretains := (frame_retains Facet.alteration_reselected).collect
    (fun id => retains_changeFacetBy Facet.alteration_reselected hact.reselected id)
    (v.collection.facets.map Facet.id) (v.withUpdating true)
  rw [hcollect] at hheld hretains
  let u : View := v.withFacets restored
  have hu : (u.withUpdating false).Works := by
    have hplain : v.Retains Facet.Reselected (u.withUpdating false) :=
      ⟨hretains.store, hretains.indexes, hretains.collection.id, hretains.collection.source,
        hretains.collection.facets⟩
    exact hworks.congr hplain (·.plain) rfl
  obtain ⟨w, hw⟩ := hu.refresh (hheld.fresh hv.fresh)
  refine ⟨w, ?_, ((retains_refresh Facet.alteration_sameBare).ok hw).collection.facets⟩
  have hids : (v.collection.facets.filter Facet.isForUser).map Facet.id =
      v.collection.facets.map Facet.id := by
    rw [List.filter_eq_self.mpr huser]
  have hany : anyOf (fun id => changeFacetBy id (importing (s.target v.collection.id)))
      (v.collection.facets.map Facet.id) (v.withUpdating true) =
        (answers.map (·.any id), u.withUpdating true) := by
    unfold anyOf
    rw [bind_pure_apply, hcollect]
    rfl
  show batch (anyOf (fun id => changeFacetBy id (importing (s.target v.collection.id)))
    ((v.collection.facets.filter Facet.isForUser).map Facet.id)) v = _
  rw [hids, batch_apply, hany]
  show (bothOf (answers.map (·.any id)) (refresh (u.withUpdating false)).1,
    (refresh (u.withUpdating false)).2) = _
  rw [hw]
  cases answers <;> rfl

/-- **A collection takes over what was exported** of facets that were set up alike. -/
theorem restoreFacets_exported {v : View} {s : BrowserState} {gs : List Facet} (hworks : v.Works)
    (hv : v.InLine) (huser : ∀ f ∈ v.collection.facets, f.isForUser = true)
    (hdistinct : (v.collection.facets.map Facet.id).Nodup)
    (hplain : List.Forall₂ Facet.SetUpAlike v.collection.facets gs) (htrimmed : ∀ g ∈ gs, g.Trimmed)
    (htarget : ∀ f, ∀ g ∈ gs, f.id = g.id → s.target v.collection.id f = g.exportState) :
    ∃ changed w, Browser.restoreFacets s v = (.ok changed, w) ∧
      List.Forall₂ Facet.SameSelection w.collection.facets gs := by
  obtain ⟨answers, restored, himport, hrestored⟩ := actEach_restored v.scene hplain htrimmed htarget
  obtain ⟨w, hrun, hbare⟩ := restoreFacets_apply s hworks hv huser hdistinct himport
  exact ⟨answers.any id, w, hrun, forall₂_trans hbare.flip hrestored Facet.SameSelection.of_sameBare⟩

end View

end Faceted
