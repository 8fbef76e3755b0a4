import Faceted.Proofs.Browser.Selecting

/-!
# Building browsers that work

Facets that are added and removed and collections that are created leave a browser in tune as well, where
every evaluation succeeds and no collection narrows its base. An operation that fails has come to nothing,
since what could make it stop half way is an evaluation.

The condition is about the browser before the operation when something is removed, and about the one
after it when something is added, since evaluations are only asked for what is there.

* `retains_propagate`: passing on leaves everything as it was set up, whether it succeeds or fails;
* **`neat_attachFacet`**, **`neat_detachFacet`** and **`neat_buildCollection`**.
-/

namespace Faceted

open Faceted.Action

namespace View

variable {v w : View}

/-! ## 1. One collection -/

theorem retains_reroot {r : Facet → Facet → Prop} (hr : Facet.Alteration r) :
    Obeys (fun _ => Retains r) reroot := fun v => retains_setRoot hr v.rootItems v

/-- A refresh in a view that works. -/
theorem refresh_of_works (hv : v.Works) (hfresh : v.AllFresh)
    (hupdating : v.collection.updating = false) :
    ∃ w, refresh v = (.ok (), w) ∧ v.Kin w ∧ v.Retains Facet.SameBare w ∧ w.InLine := by
  obtain ⟨w, hw⟩ := hv.refresh hfresh
  obtain ⟨hreworked, hline⟩ := refresh_ok hw
  exact ⟨w, hw, hreworked.kin, (retains_refresh Facet.alteration_sameBare).ok hw,
    hline hfresh hupdating⟩

/-- A facet that does not restrict is added, or only the store knows that it was to be. -/
theorem addFacet_of_not_hasRestrictions {f : Facet} (hr : f.hasRestrictions = false)
    (hnew : v.collection.hasFacet f.id = false) :
    (∃ w, addFacet f v = (.ok (), w) ∧ (v.withFacet f).Retains Facet.SameBare w) ∨
      ∃ failure store, addFacet f v = (.error failure, { v with store }) ∧
        v.store.Alike store := by
  have hsettled := f.settled_update v.scene v.collection.restricted
  have htwin := f.twin_update v.scene v.collection.restricted
  rw [addFacet_apply, hnew, hr, if_neg Bool.false_ne_true, if_neg Bool.false_ne_true]
  generalize f.update v.scene v.collection.restricted = answer at hsettled htwin
  obtain ⟨outcome, g, store⟩ := answer
  cases outcome with
  | error failure => exact .inr ⟨failure, store, rfl, htwin.alike.store⟩
  | ok done =>
    refine .inl ⟨_, rfl, htwin.alike.store, htwin.indexes, rfl, rfl, ?_⟩
    have hlast : List.Forall₂ Facet.SameBare [f] [g] := .cons (Facet.bare_of_settled hsettled).symm .nil
    exact List.rel_append (Facet.alteration_sameBare.same v.collection.facets) hlast

end View

namespace Browser

variable {R b b' : Browser}

/-! ## 2. Passing on -/

section Retaining

variable {α : Type} {r : Facet → Facet → Prop} (hr : Facet.Alteration r)

include hr

theorem retains_onCollection (place : Nat) (otherwise : α) {act : Action View α}
    (h : Obeys (fun _ => View.Retains r) act) :
    Obeys (fun _ => Browser.Retains r) (onCollection place otherwise act) := by
  intro b
  rw [onCollection_apply]
  split
  · exact (frame_retains hr).refl true b
  · next c hc => exact retains_putView hr hc (h ⟨b.store, c⟩)

theorem retains_reroot (place : Nat) : Obeys (fun _ => Browser.Retains r) (reroot place) := by
  have hframe := frame_retains hr
  refine hframe.bind hframe.state fun b => hframe.bind (hframe.ofOutcome _) fun root => ?_
  cases root with
  | some items => exact retains_onCollection hr place () (View.retains_setRoot hr items)
  | none => exact retains_onCollection hr place () (View.retains_reroot hr)

theorem retains_passInto {onward : Nat → Action Browser Unit}
    (honward : ∀ place, Obeys (fun _ => Browser.Retains r) (onward place)) (base : String)
    (place : Nat) : Obeys (fun _ => Browser.Retains r) (passInto base onward place) := by
  have hframe := frame_retains hr
  refine hframe.bind hframe.state fun b => ?_
  split
  · exact hframe.pure ()
  · split
    · refine hframe.bind (hframe.ofOutcome _) fun root => ?_
      cases root with
      | none => exact hframe.pure ()
      | some items =>
        dsimp only
        split
        · exact hframe.pure ()
        · exact hframe.bind (retains_onCollection hr place () (View.retains_setRoot hr items))
            fun _ => honward place
    · exact hframe.pure ()

/-- **Whatever becomes of passing on**, everything is as it was set up. -/
theorem retains_propagate (place : Nat) :
    Obeys (fun _ => Browser.Retains r) (propagate place) := by
  have hframe := frame_retains hr
  have hwithin (rounds : Nat) :
      ∀ place, Obeys (fun _ => Browser.Retains r) (propagateWithin rounds place) := by
    induction rounds with
    | zero => exact fun _ => hframe.pure ()
    | succ rounds ih =>
      intro place
      refine hframe.bind hframe.state fun b => ?_
      split
      · exact hframe.pure ()
      · exact hframe.each (retains_passInto hr ih _) _
  exact hframe.bind hframe.state fun _ => hwithin _ place

end Retaining

/-! ## 3. Facets -/

section Facets

variable {place : Nat} {c : Collection} {w : View}

/-- Only the store may have changed. -/
theorem Neat.putStore (hb : b.Neat) (hc : b.collections[place]? = some c) {store : Store}
    (hstore : b.store.Alike store) : (b.putView place ⟨store, c⟩).Neat := by
  have hmem := List.mem_of_getElem? hc
  refine hb.put (R := b.putView place ⟨store, c⟩) hc ⟨hstore, rfl, rfl, rfl,
    inLine_of_alike hstore (hb.inTune.inLine c hmem), hb.trimmed c hmem, ?_, .refl _⟩ rfl
  exact orderly_putView hb.orderly hc rfl rfl (hb.orderly.calm c hmem)
    (hb.orderly.attached c hmem).distinct fun r hr _ => hr

/-- What a collection has become once its facets have been refreshed takes its place. -/
theorem replaces_refreshed {v : View} (hstore : v.store = b.store) (hid : v.collection.id = c.id)
    (hsource : v.collection.source = c.source) (hitems : v.collection.items = c.items)
    (htrimmed : ∀ f ∈ v.collection.facets, f.Trimmed) (hkin : v.Kin w)
    (hretains : v.Retains Facet.SameBare w) (hline : w.InLine) (horderly : (b.putView place w).Orderly)
    (hfits : R.Fits (b.putView place w)) : Replaces R b place c w where
  store := hstore ▸ hkin.store
  id := hkin.id.symm.trans hid
  source := hkin.source.symm.trans hsource
  items := hkin.items.symm.trans hitems
  inLine := hline
  trimmed g hg := by
    obtain ⟨f, hf, hbare⟩ := forall₂_mem hretains.collection.facets.flip hg
    exact (Facet.Reselected.of_bare hbare).trimmed (htrimmed f hf)
  orderly := horderly
  fits := hfits

/-- A collection with one more facet, which a user has set up, takes its place. -/
theorem Neat.replaces_withFacet (hb : b.Neat) (hc : b.collections[place]? = some c) {f : Facet}
    (huser : f.role.2 = none) (htrimmed : f.Trimmed) (hnew : c.hasFacet f.id = false)
    (hkin : (View.withFacet ⟨b.store, c⟩ f).Kin w)
    (hretains : (View.withFacet ⟨b.store, c⟩ f).Retains Facet.SameBare w) (hline : w.InLine)
    (hfits : R.Fits (b.putView place w)) : Replaces R b place c w := by
  refine replaces_refreshed rfl rfl rfl rfl (fun g hg => ?_) hkin hretains hline
    (orderly_withFacet hb.orderly hc huser hnew hkin) hfits
  rcases List.mem_append.mp hg with hg | hg
  · exact hb.trimmed c (List.mem_of_getElem? hc) g hg
  · rw [List.mem_singleton.mp hg]
    exact htrimmed

/-- A collection with one facet less takes its place. -/
theorem Neat.replaces_withoutFacet (hb : b.Neat) (hc : b.collections[place]? = some c) {id : String}
    (hkin : (View.withoutFacet ⟨b.store, c⟩ id).Kin w)
    (hretains : (View.withoutFacet ⟨b.store, c⟩ id).Retains Facet.SameBare w) (hline : w.InLine)
    (hfits : R.Fits (b.putView place w)) : Replaces R b place c w :=
  replaces_refreshed rfl rfl rfl rfl
    (fun g hg => hb.trimmed c (List.mem_of_getElem? hc) g (List.mem_of_mem_eraseP hg)) hkin hretains
    hline (orderly_withoutFacet hb.orderly hc hkin) hfits

theorem putView_putView (b : Browser) (place : Nat) (v w : View) :
    (b.putView place v).putView place w = b.putView place w := by
  simp only [putView, List.set_set]

theorem getElem?_putView (hc : b.collections[place]? = some c) (w : View) :
    (b.putView place w).collections[place]? = some w.collection :=
  List.getElem?_set_self (List.getElem?_eq_some_iff.mp hc).1

/-- A view in place of another one that it has been made from. -/
theorem retains_putView_putView {v : View} (hc : b.collections[place]? = some c)
    (h : v.Retains Facet.SameBare w) :
    (b.putView place v).Retains Facet.SameBare (b.putView place w) := by
  rw [← putView_putView b place v w]
  exact retains_putView Facet.alteration_sameBare (getElem?_putView hc v) h

/-- **A collection whose facets have become others** is refreshed, and that is passed on. -/
theorem Neat.refreshed (hR : R.Works) (hb : b.Neat) (hfitsB : R.Fits b)
    (hc : b.collections[place]? = some c) {v : View} (hfits : R.Fits (b.putView place v))
    (hitems : v.collection.items = c.items) (hfresh : v.AllFresh)
    (hupdating : v.collection.updating = false)
    (hreplaces : ∀ {w}, v.Kin w → v.Retains Facet.SameBare w → w.InLine →
      R.Fits (b.putView place w) → Replaces R b place c w) :
    ∃ w b', View.refresh v = (.ok (), w) ∧
      Browser.settle place (b.putView place w) = (.ok (), b') ∧ b'.Neat := by
  have hworks : v.Works := by
    have hview := hR.view hfits (getElem?_putView hc v) (hb.possible hR hfitsB hc)
    rw [← hitems] at hview
    exact hview
  obtain ⟨w, hw, hkin, hretains, hline⟩ := View.refresh_of_works hworks hfresh hupdating
  have hfitsW : R.Fits (b.putView place w) :=
    hfits.retains Facet.SameBare.setUpAlike (retains_putView_putView hc hretains)
  obtain ⟨b', hsettle, hb', -⟩ :=
    hb.settle hR hfitsB hc (hreplaces hkin hretains hline hfitsW)
  exact ⟨w, b', hw, hsettle, hb'⟩

/-- Whatever becomes of bringing everything in line, everything is as it was set up. -/
theorem Neat.retains_settle (hb : b.Neat) (hc : b.collections[place]? = some c)
    (hsource : w.collection.source = c.source) :
    (b.putView place w).Retains Facet.SameBare (Browser.settle place (b.putView place w)).2 := by
  rw [settle_eq_propagate (hb.putPlain hc hsource)]
  exact retains_propagate Facet.alteration_sameBare place (b.putView place w)

/-- A browser in which a collection has got more facets has the one before as a part. -/
theorem putView_fits {v : View} (hstore : v.store = b.store) (hc : b.collections[place]? = some c)
    (hpart : c.PartOf v.collection) : (b.putView place v).Fits b where
  store := by
    show v.store.Alike b.store
    rw [hstore]
    exact Store.Alike.refl _
  indexes := by
    show v.store.SameIndexes b.store
    rw [hstore]
    exact Store.SameIndexes.refl _
  collections {q d} hd := by
    by_cases hq : place = q
    · subst hq
      cases hc.symm.trans hd
      exact ⟨v.collection, getElem?_putView hc v, hpart⟩
    · refine ⟨d, ?_, .refl d⟩
      rw [putView, List.getElem?_set_ne hq, hd]

/-- A browser in which a collection has lost facets is a part of the one before. -/
theorem fits_putView {v : View} (hstore : v.store = b.store) (hc : b.collections[place]? = some c)
    (hpart : v.collection.PartOf c) : b.Fits (b.putView place v) where
  store := by
    show b.store.Alike v.store
    rw [hstore]
    exact Store.Alike.refl _
  indexes := by
    show b.store.SameIndexes v.store
    rw [hstore]
    exact Store.SameIndexes.refl _
  collections {q d} hd := by
    rw [putView, List.getElem?_set] at hd
    split at hd
    · next heq =>
      subst heq
      rw [if_pos (List.getElem?_eq_some_iff.mp hc).1] at hd
      cases hd
      exact ⟨c, hc, hpart⟩
    · exact ⟨d, hd, .refl d⟩

theorem trimmed_build {config : FacetConfig} {settings : Settings} {n : Nat} {f : Facet}
    (h : config.build settings n = .ok f) : f.Trimmed := by
  unfold FacetConfig.build at h
  cases hclass : config.class? with
  | error failure =>
    rw [hclass] at h
    cases h
  | ok class? =>
    rw [hclass] at h
    cases class? <;> (rw [← Except.ok.inj h]; trivial)

/-- What is left where a facet that does not restrict could not be added. -/
theorem neat_of_addFacet_error (hb : b.Neat) (hc : b.collections[place]? = some c) {f : Facet}
    (hr : f.hasRestrictions = false) {failure : Failure}
    (h : ((View.addFacet f ⟨b.store, c⟩).1, b.putView place (View.addFacet f ⟨b.store, c⟩).2) =
      (.error failure, b')) : b'.Neat := by
  cases hnew : c.hasFacet f.id with
  | true =>
    rw [View.addFacet_apply, if_pos (by exact hnew)] at h
    cases h
    exact hb.putStore hc (Store.Alike.refl _)
  | false =>
    obtain ⟨w, hw, -⟩ | ⟨failure', store, hw, hstore⟩ :=
      View.addFacet_of_not_hasRestrictions (v := ⟨b.store, c⟩) hr hnew
    · rw [hw] at h
      cases h
    · rw [hw] at h
      cases h
      exact hb.putStore hc hstore

/-- **More facets in a collection**: if everything works in what is left by refreshing it and passing
    that on, both have succeeded. -/
theorem Neat.refreshed_more (hb : b.Neat) (hc : b.collections[place]? = some c) {v : View}
    (hstore : v.store = b.store) (hpart : c.PartOf v.collection)
    (hitems : v.collection.items = c.items) (hfresh : v.AllFresh)
    (hupdating : v.collection.updating = false)
    (hreplaces : ∀ {R : Browser} {w}, v.Kin w → v.Retains Facet.SameBare w → w.InLine →
      R.Fits (b.putView place w) → Replaces R b place c w) {outcome : Outcome Unit}
    (hrefresh : View.refresh v = (outcome, w)) :
    ((b.putView place w).Works → outcome = .ok ()) ∧
      ∀ {settled b'}, Browser.settle place (b.putView place w) = (settled, b') → b'.Works →
        settled = .ok () ∧ b'.Neat := by
  have hdone {R : Browser} (hR : R.Works) (hfits : R.Fits (b.putView place v)) :=
    hb.refreshed hR (hfits.trans (putView_fits hstore hc hpart)) hc hfits hitems hfresh hupdating
      hreplaces
  have hretains := View.retains_refresh Facet.alteration_sameBare v
  rw [hrefresh] at hretains
  have hput := retains_putView_putView hc hretains
  refine ⟨fun hR => ?_, fun {settled b'} hsettle hR => ?_⟩
  · obtain ⟨w', _, hw', -⟩ := hdone hR (Fits.of_retains Facet.SameBare.setUpAlike hput).2
    exact congrArg Prod.fst (hrefresh.symm.trans hw')
  · have hsource : w.collection.source = c.source :=
      hretains.collection.source.symm.trans hpart.source.symm
    have hsettled := hb.retains_settle hc hsource
    rw [hsettle] at hsettled
    have hall := @(frame_retains Facet.alteration_sameBare).trans true _ _ _ hput hsettled
    obtain ⟨w', b'', hw', hsettle', hneat⟩ :=
      hdone hR (Fits.of_retains Facet.SameBare.setUpAlike hall).2
    cases hrefresh.symm.trans hw'
    cases hsettle.symm.trans hsettle'
    exact ⟨rfl, hneat⟩

/-- **A facet that is added**: whatever fails has come to nothing. -/
theorem neat_attachFacet (hb : b.Neat) (collection : String) (config : FacetConfig)
    (hworks : (attachFacet collection config b).2.Works) :
    (attachFacet collection config b).2.Neat := by
  revert hworks
  unfold attachFacet
  rw [bind_apply]
  cases hfind : find collection b with
  | mk outcome u =>
    cases outcome with
    | error failure =>
      cases (congrArg Prod.snd hfind : b = u)
      exact fun _ => hb
    | ok place =>
      obtain ⟨rfl, c, hc, -⟩ := find_ok hfind
      dsimp only
      rw [bind_apply, state_apply]
      dsimp only
      rw [bind_apply, ofOutcome_apply]
      cases hbuild : config.build u.settings (u.facetCount place) with
      | error failure => exact fun _ => hb
      | ok f =>
        dsimp only
        rw [bind_apply, onCollection_apply, hc]
        dsimp only
        cases hnew : c.hasFacet f.id with
        | true =>
          rw [View.addFacet_apply, hnew, if_pos rfl]
          exact fun _ => hb.putStore hc (Store.Alike.refl _)
        | false =>
          have hline := hb.inTune.inLine c (List.mem_of_getElem? hc)
          have hreplaces {R : Browser} {w : View} := hb.replaces_withFacet (R := R) (w := w) hc
            (Facet.role_build hbuild) (trimmed_build hbuild) hnew
          cases hr : f.hasRestrictions with
          | false =>
            obtain ⟨w, hadd, hretains⟩ | ⟨failure, store, hadd, hstore⟩ :=
              View.addFacet_of_not_hasRestrictions (v := ⟨u.store, c⟩) hr hnew
            · obtain ⟨-, hkin, hadded, hrestricted⟩ := View.addFacet_ok hadd
              rw [hadd]
              exact fun _ => hb.put (R := u.putView place w) hc (hreplaces hkin hretains
                (hadded hline (Facet.fresh_build hbuild)) (.refl _)) (hrestricted hr)
            · rw [hadd]
              exact fun _ => hb.putStore hc hstore
          | true =>
            rw [View.addFacet_apply, hnew, if_neg Bool.false_ne_true, hr, if_pos rfl]
            have hpart : c.PartOf (View.withFacet ⟨u.store, c⟩ f).collection :=
              .of_sublist rfl rfl (List.sublist_append_left _ _)
            cases hrefresh : View.refresh (View.withFacet ⟨u.store, c⟩ f) with
            | mk refreshed w =>
              obtain ⟨hok, hsettled⟩ := hb.refreshed_more hc rfl hpart rfl
                (View.allFresh_withFacet hline.fresh (Facet.fresh_build hbuild)) hline.updating
                hreplaces hrefresh
              cases refreshed with
              | error failure => exact fun hR => by cases hok hR
              | ok done =>
                dsimp only
                rw [if_pos rfl, bind_apply]
                cases hsettle : settle place (u.putView place w) with
                | mk settled b' =>
                  have hneat (hR : b'.Works) : b'.Neat := (hsettled hsettle hR).2
                  cases settled <;> exact hneat

/-- **A facet that is removed**: where everything works, nothing fails. -/
theorem neat_detachFacet (hb : b.Neat) (hworks : b.Works) (collection facet : String) :
    (detachFacet collection facet b).2.Neat := by
  unfold detachFacet
  rw [bind_apply]
  cases hfind : find collection b with
  | mk outcome u =>
    cases outcome with
    | error failure =>
      cases (congrArg Prod.snd hfind : b = u)
      exact hb
    | ok place =>
      obtain ⟨rfl, c, hc, -⟩ := find_ok hfind
      dsimp only
      rw [bind_apply, onCollection_apply, hc]
      dsimp only
      rw [View.removeFacet_apply]
      dsimp only
      cases hf : c.facet? facet with
      | none => exact hb.putStore hc (Store.Alike.refl _)
      | some f =>
        have hline := hb.inTune.inLine c (List.mem_of_getElem? hc)
        have hpart : (View.withoutFacet ⟨u.store, c⟩ facet).collection.PartOf c :=
          .of_sublist rfl rfl List.eraseP_sublist
        have hfits := fits_putView rfl hc hpart
        have hreplaces {w : View} (hkin : (View.withoutFacet ⟨u.store, c⟩ facet).Kin w) :=
          hb.replaces_withoutFacet (R := u) hc hkin
        cases hr : f.hasRestrictions with
        | false =>
          dsimp only
          rw [hr, if_neg Bool.false_ne_true]
          dsimp only
          rw [if_neg (Bool.eq_false_iff.mp hr)]
          refine hb.put hc (hreplaces (View.Same.refl _).kin ?_ ?_ hfits) rfl
          · exact (View.frame_retains Facet.alteration_sameBare).refl true _
          · exact ⟨View.allFresh_withoutFacet hline.fresh facet,
              (View.throughEach_dropFacet hf hr _ _).trans hline.narrowed, hline.updating⟩
        | true =>
          obtain ⟨w, b', hw, hsettle, hb'⟩ := hb.refreshed hworks (.refl _) hc hfits rfl
            (View.allFresh_withoutFacet hline.fresh facet) hline.updating hreplaces
          dsimp only
          rw [hr, if_pos rfl, hw]
          dsimp only
          rw [if_pos hr, bind_of_ok hsettle]
          exact hb'

end Facets

/-! ## 4. Collections -/

/-- Finding out where the items of a new collection come from fails before anything is changed. -/
theorem neat_of_sourceOf_error (hb : b.Neat) {id : String} {config : CollectionConfig}
    {failure : Failure} (h : sourceOf id config b = (.error failure, b')) : b'.Neat := by
  unfold sourceOf at h
  cases hbase : config.baseCollectionId with
  | none =>
    rw [hbase] at h
    dsimp only at h
    cases htypes : config.itemTypes <;> (rw [htypes] at h; cases h)
  | some base =>
    cases htext : config.expression with
    | none =>
      rw [hbase, htext] at h
      cases h
      exact hb
    | some text =>
      rw [hbase, htext] at h
      rcases bind_error h with hparse | ⟨e, u, hparse, hparsed⟩
      · cases (congrArg Prod.snd hparse : b = b')
        exact hb
      · cases (congrArg Prod.snd hparse : b = u)
        rcases bind_error hparsed with hfind | ⟨place, u, hfind, hfound⟩
        · cases (congrArg Prod.snd hfind : b = b')
          exact hb
        · obtain ⟨rfl, c, hc, -⟩ := find_ok hfind
          dsimp only at hfound
          split at hfound
          · rcases bind_error hfound with hadd | ⟨_, _, -, hpure⟩
            · rw [onCollection_apply, hc] at hadd
              dsimp only at hadd
              exact neat_of_addFacet_error hb hc rfl hadd
            · cases hpure
          · cases hfound

/-- Gives a collection its root anew, step by step. -/
theorem reroot_apply (place : Nat) (b : Browser) :
    reroot place b =
      match b.basedRoot place with
      | .error failure => (.error failure, b)
      | .ok (some items) => onCollection place () (View.setRoot items) b
      | .ok none => onCollection place () View.reroot b := by
  unfold reroot
  rw [bind_apply, state_apply]
  dsimp only
  rw [bind_apply, ofOutcome_apply]
  cases b.basedRoot place with
  | error failure => rfl
  | ok root => cases root <;> rfl

/-- A collection without facets gets its root, if that can be worked out. -/
theorem reroot_new {R : Browser} (hR : R.Works) (hfits : R.Fits b) (hb : b.Neat)
    {id : String} {source : ItemSource} (hfitsNew : R.Fits (b.withCollection (.new id source)))
    (hordered : (b.withCollection (.new id source)).Ordered)
    (hplain : (Collection.new id source).isRestricting = false)
    (hbase : ∀ base, (Collection.new id source).base? = some base → ∃ p, b.idAt p = some base) :
    ∃ items w, View.setRoot items ⟨b.store, .new id source⟩ = (.ok (), w) ∧
      reroot b.collections.length (b.withCollection (.new id source)) =
        (.ok (), (b.withCollection (.new id source)).putView b.collections.length w) := by
  have hlast : (b.withCollection (.new id source)).collections[b.collections.length]? =
      some (.new id source) := List.getElem?_concat_length
  have hset (items : KeySet) :
      ∃ w, View.setRoot items ⟨b.store, .new id source⟩ = (.ok (), w) :=
    View.Works.setRoot fun f hf => by cases hf
  cases hid : (Collection.new id source).base? with
  | none =>
    have hroot := basedRoot_of_unbased hlast hid
    obtain ⟨w, hw⟩ := hset (View.rootItems ⟨b.store, .new id source⟩)
    refine ⟨_, w, hw, ?_⟩
    have hw : View.reroot ⟨(b.withCollection (.new id source)).store, .new id source⟩ =
        (.ok (), w) := hw
    rw [reroot_apply, hroot]
    dsimp only
    rw [onCollection_apply, hlast]
    dsimp only
    rw [hw]
  | some base =>
    obtain ⟨e, hsource⟩ := source_of_base? hplain hid
    obtain ⟨p, hp⟩ := hbase base hid
    obtain ⟨c, hc, rfl⟩ := Option.map_eq_some_iff.mp hp
    have hcNew : (b.withCollection (.new id source)).collections[p]? = some c := by
      rw [withCollection, List.getElem?_append_left (List.getElem?_eq_some_iff.mp hc).1, hc]
    obtain ⟨items, hroot, -⟩ := hR.basedRoot hfitsNew hordered hcNew (hb.possible hR hfits hc)
      (hb.inTune.inLine c (List.mem_of_getElem? hc)) hlast hsource
    obtain ⟨w, hw⟩ := hset items
    refine ⟨items, w, hw, ?_⟩
    have hw : View.setRoot items ⟨(b.withCollection (.new id source)).store, .new id source⟩ =
        (.ok (), w) := hw
    rw [reroot_apply, hroot]
    dsimp only
    rw [onCollection_apply, hlast]
    dsimp only
    rw [hw]

/-- The browser with one more collection has the one before as a part. -/
theorem withCollection_fits (b : Browser) (c : Collection) : (b.withCollection c).Fits b where
  store := Store.Alike.refl _
  indexes := Store.SameIndexes.refl _
  collections {q d} hd := by
    refine ⟨d, ?_, .refl d⟩
    rw [withCollection, List.getElem?_append_left (List.getElem?_eq_some_iff.mp hd).1, hd]

/-- A collection that has been set up gets its root, and then all is in tune again. -/
theorem Neat.rerooted (hb : b.Neat) {u : Browser} {id : String} {config : CollectionConfig}
    {source : ItemSource} (hknown : b.collection? id = none)
    (hsource : sourceOf id config b = (.ok source, u)) {answer : Outcome Unit}
    (hreroot : Browser.reroot b.collections.length (u.withCollection (.new id source)) = (answer, b'))
    (hworks : b'.Works) (hplain : ∀ c ∈ b'.collections, c.isRestricting = false) : b'.Neat := by
  have hu := prepared_of_sourceOf hsource
  have hretains := retains_reroot Facet.alteration_sameBare b.collections.length
    (u.withCollection (.new id source))
  rw [hreroot] at hretains
  have hlast : (Collection.new id source).isRestricting = false := by
    obtain ⟨d, hd, hsame⟩ := forall₂_mem hretains.collections
      (List.mem_append_right u.collections (List.mem_singleton_self _))
    have hsame : Collection.Retains Facet.SameBare _ d := hsame
    rw [Collection.isRestricting, hsame.source]
    exact hplain d hd
  obtain ⟨rfl, hbase⟩ : u = b ∧ ∀ base, (Collection.new id source).base? = some base →
      ∃ p, b.idAt p = some base := by
    rcases sourceOf_ok hsource with hdone | ⟨e, place, c, w, -, -, -, rfl⟩
    · exact hdone
    · cases hlast
  have hfitsNew := (Fits.of_retains Facet.SameBare.setUpAlike hretains).2
  have horderly := hu.orderly hknown hb.orderly
  obtain ⟨items, w, hw, hdone⟩ := reroot_new hworks (hfitsNew.trans (withCollection_fits u _)) hb
    hfitsNew horderly.ordered hlast hbase
  cases hreroot.symm.trans hdone
  have hadvance := advance_putView hu.getElem?_last (View.advance_setRoot hw)
  have htrimmed : ∀ c ∈ (u.withCollection (.new id source)).collections, ∀ f ∈ c.facets,
      f.Trimmed := by
    intro c hc f hf
    rcases List.mem_append.mp hc with hc | hc
    · exact hb.trimmed c hc f hf
    · rw [List.mem_singleton.mp hc] at hf
      cases hf
  exact ⟨hadvance.orderly horderly,
    ⟨hadvance.inLine (hu.allInLine hb.inTune.inLine),
      hu.roots_of_reroot hknown hb.orderly hb.inTune hreroot⟩,
    hplain, hretains.trimmed htrimmed⟩

/-- **A collection that is created**, and does not narrow its base. -/
theorem neat_buildCollection (hb : b.Neat) (config : CollectionConfig)
    (hworks : (buildCollection config b).2.Works)
    (hplain : ∀ c ∈ (buildCollection config b).2.collections, c.isRestricting = false) :
    (buildCollection config b).2.Neat := by
  revert hworks hplain
  unfold buildCollection
  rw [bind_apply, state_apply]
  dsimp only
  cases hknown : b.collection? (b.newId config) with
  | some c => exact fun _ _ => hb
  | none =>
    rw [Option.isSome_none, if_neg Bool.false_ne_true, bind_apply]
    cases hsource : sourceOf (b.newId config) config b with
    | mk outcome u =>
      cases outcome with
      | error failure => exact fun _ _ => neat_of_sourceOf_error hb hsource
      | ok source =>
        dsimp only
        rw [bind_apply, change_apply]
        dsimp only
        rw [bind_apply]
        cases hreroot : reroot b.collections.length { u with
            collections := u.collections ++ [.new (b.newId config) source] } with
        | mk answer b' =>
          have hneat := hb.rerooted hknown hsource hreroot
          cases answer <;> exact hneat

end Browser

end Faceted
