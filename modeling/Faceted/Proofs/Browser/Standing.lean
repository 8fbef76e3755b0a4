import Faceted.Proofs.Browser.Lasting

/-!
# In order at all times

A browser stays in order through every step, also where the step fails: what fails has been stopped
half way, but not in the middle of what keeps the order.

* `Closes`: the store answers as before, and no batch is left under way; every action on a collection
  closes, whether it succeeds or fails, and so does every step that is not about the data
  (**`closes_perform`**);
* `orderly_of_reshaped`: the order through one step;
* **`orderly_afterAll`**: the order after any steps.
-/

namespace Faceted

open Faceted.Action

/-! ## 1. One collection -/

namespace View

variable {v : View}

/-- The store answers as before, and no batch is left under way. -/
structure Closes (v w : View) : Prop where
  store : v.store.Alike w.store
  calm : v.collection.updating = false → w.collection.updating = false

theorem Closes.refl (v : View) : v.Closes v := ⟨Store.Alike.refl _, fun h => h⟩

theorem frame_closes : Frame fun _ => Closes where
  refl _ := .refl
  trans h h' := ⟨h.store.trans h'.store, h'.calm ∘ h.calm⟩

theorem closes_refresh : Obeys (fun _ => Closes) refresh := fun v =>
  ⟨(same_refresh v).kin.store, (same_refresh v).kin.updating⟩

theorem closes_setRoot (items : KeySet) : Obeys (fun _ => Closes) (setRoot items) := fun v =>
  ⟨(kin_setRoot items v).store, (kin_setRoot items v).updating⟩

theorem closes_facetChanged : Obeys (fun _ => Closes) facetChanged := by
  refine frame_closes.bind frame_closes.state fun v => ?_
  split
  · exact frame_closes.pure ()
  · exact closes_refresh

theorem closes_changeFacetBy (id : String) (act : Facet → Scene → Outcome Bool × Facet) :
    Obeys (fun _ => Closes) (changeFacetBy id act) := by
  intro v
  rw [changeFacetBy_apply]
  split
  · exact .refl v
  · next place _ =>
    split
    · exact .refl v
    · next f hf =>
      have hacted : v.Closes (v.actedAt place act f) := ⟨Store.Alike.refl _, fun h => h⟩
      split
      · exact hacted
      · exact hacted
      · have hchanged := closes_facetChanged (v.actedAt place act f)
        split <;> next heq =>
          rw [heq] at hchanged
          exact @frame_closes.trans true _ _ _ hacted hchanged

/-- A batch is over when it ends, whatever has become of it. -/
theorem closes_batch {α : Type} {act : Action View α} (hact : Obeys (fun _ => Closes) act) :
    Obeys (fun _ => Closes) (batch act) := by
  intro v
  rw [batch_apply]
  have hheld : v.store.Alike (act (v.withUpdating true)).2.store := (hact (v.withUpdating true)).store
  have hrefresh := closes_refresh ((act (v.withUpdating true)).2.withUpdating false)
  exact ⟨hheld.trans hrefresh.store, fun _ => hrefresh.calm rfl⟩

theorem closes_restoreFacets (s : BrowserState) : Obeys (fun _ => Closes) (Browser.restoreFacets s) :=
  frame_closes.bind frame_closes.state fun _ =>
    closes_batch (frame_closes.anyOf (fun id => closes_changeFacetBy id _) _)

theorem closes_addFacet (f : Facet) : Obeys (fun _ => Closes) (addFacet f) := by
  intro v
  rw [addFacet_apply]
  split
  · exact .refl v
  · split
    · have hrefresh := closes_refresh (v.withFacet f)
      exact ⟨hrefresh.store, hrefresh.calm⟩
    · have htwin := f.twin_update v.scene v.collection.restricted
      generalize f.update v.scene v.collection.restricted = answer at htwin
      obtain ⟨outcome, g, store⟩ := answer
      cases outcome <;> exact ⟨htwin.alike.store, fun h => h⟩

theorem closes_removeFacet (id : String) : Obeys (fun _ => Closes) (removeFacet id) := by
  intro v
  rw [removeFacet_apply]
  split
  · exact .refl v
  · split
    · have hrefresh := closes_refresh (v.withoutFacet id)
      split <;> next heq =>
        rw [heq] at hrefresh
        exact ⟨hrefresh.store, hrefresh.calm⟩
    · exact ⟨Store.Alike.refl _, fun h => h⟩

end View

/-! ## 2. Browsers -/

namespace Browser

variable {b b' : Browser}

/-- The store answers as before, and no collection is left in the middle of a batch. -/
structure Closes (b b' : Browser) : Prop where
  store : b.store.Alike b'.store
  calm : b.Calm → b'.Calm

theorem Closes.refl (b : Browser) : b.Closes b := ⟨Store.Alike.refl _, fun h => h⟩

theorem frame_closes : Frame fun _ => Closes where
  refl _ := .refl
  trans h h' := ⟨h.store.trans h'.store, h'.calm ∘ h.calm⟩

theorem closes_onCollection {α : Type} (place : Nat) (otherwise : α) {act : Action View α}
    (h : Obeys (fun _ => View.Closes) act) :
    Obeys (fun _ => Closes) (onCollection place otherwise act) := by
  intro b
  rw [onCollection_apply]
  split
  · exact .refl b
  · next c hc =>
    have hclosed := h ⟨b.store, c⟩
    exact ⟨hclosed.store, fun hb => calm_putView hb (hclosed.calm (hb c (List.mem_of_getElem? hc)))⟩

theorem closes_reroot (place : Nat) : Obeys (fun _ => Closes) (reroot place) := by
  refine frame_closes.bind frame_closes.state fun b =>
    frame_closes.bind (frame_closes.ofOutcome _) fun root => ?_
  cases root with
  | some items => exact closes_onCollection place () (View.closes_setRoot items)
  | none => exact closes_onCollection place () fun v => View.closes_setRoot v.rootItems v

theorem closes_settle (place : Nat) : Obeys (fun _ => Closes) (settle place) :=
  follows_settle frame_closes
    (fun place items => closes_onCollection place () (View.closes_setRoot items))
    (fun place id _ => closes_onCollection place false (View.closes_changeFacetBy id _)) place

theorem closes_changeFacetBy (collection facet : String)
    (act : Facet → Scene → Outcome Bool × Facet) :
    Obeys (fun _ => Closes) (changeFacetBy collection facet act) := by
  have hguarded {α : Type} {act : Action Browser α} (h : Obeys (fun _ => Closes) act)
      (otherwise : α) : Obeys (fun _ => Closes) (guarded otherwise act) := h
  refine hguarded (frame_closes.bind (follows_find frame_closes collection) fun place => ?_) false
  refine frame_closes.bind (closes_onCollection place false (View.closes_changeFacetBy facet act))
    fun changed => ?_
  dsimp only
  split
  · exact frame_closes.bind (closes_settle place) fun _ => frame_closes.pure _
  · exact frame_closes.pure _

theorem closes_tick (now : Nat) : Obeys (fun _ => Closes) (tick now) := by
  refine frame_closes.bind frame_closes.state fun b => frame_closes.anyOf (fun place => ?_) _
  refine frame_closes.bind frame_closes.state fun b => ?_
  split
  · exact frame_closes.pure false
  · exact frame_closes.anyOf (fun f => closes_changeFacetBy _ f _) _

theorem closes_importState (s : BrowserState) : Obeys (fun _ => Closes) (importState s) := by
  have hrestore : Obeys (fun _ => Closes) (restore s) := by
    refine frame_closes.bind frame_closes.state fun b => frame_closes.anyOf (fun place => ?_) _
    have hattempt : Obeys (fun _ => Closes) (attempt (onCollection place false (restoreFacets s))) :=
      closes_onCollection place false (View.closes_restoreFacets s)
    refine frame_closes.bind hattempt fun outcome => ?_
    cases outcome with
    | error failure => exact frame_closes.bind (closes_settle place) fun _ => frame_closes.fail failure
    | ok changed =>
      cases changed with
      | false => exact frame_closes.pure false
      | true => exact frame_closes.bind (closes_settle place) fun _ => frame_closes.pure true
  exact hrestore

theorem closes_attachFacet (collection : String) (config : FacetConfig) :
    Obeys (fun _ => Closes) (attachFacet collection config) := by
  refine frame_closes.bind (follows_find frame_closes collection) fun place => ?_
  refine frame_closes.bind frame_closes.state fun b => ?_
  refine frame_closes.bind (frame_closes.ofOutcome _) fun f => ?_
  refine frame_closes.bind (closes_onCollection place () (View.closes_addFacet f)) fun _ => ?_
  dsimp only
  split
  · exact frame_closes.bind (closes_settle place) fun _ => frame_closes.pure _
  · exact frame_closes.pure _

theorem closes_detachFacet (collection facet : String) :
    Obeys (fun _ => Closes) (detachFacet collection facet) := by
  refine frame_closes.bind (follows_find frame_closes collection) fun place => ?_
  refine frame_closes.bind (closes_onCollection place none (View.closes_removeFacet facet))
    fun removed => ?_
  cases removed with
  | none => exact frame_closes.pure false
  | some f =>
    dsimp only
    split
    · exact frame_closes.bind (closes_settle place) fun _ => frame_closes.pure _
    · exact frame_closes.pure _

theorem calm_halfMade {id : String} {source : ItemSource} (hb : b.Calm) :
    (b.halfMade id source).Calm := by
  intro c hc
  rcases List.mem_append.mp hc with hc | hc
  · unfold withNewDerived at hc
    split at hc
    · obtain ⟨q, hq⟩ := List.mem_iff_getElem?.mp hc
      rw [List.getElem?_modify] at hq
      obtain ⟨d, hd, rfl⟩ := Option.map_eq_some_iff.mp hq
      have hcalm := hb d (List.mem_of_getElem? hd)
      split <;> exact hcalm
    · exact hb c hc
  · rw [List.mem_singleton.mp hc]
    rfl

theorem closes_buildCollection (config : CollectionConfig) :
    Obeys (fun _ => Closes) (buildCollection config) := by
  intro b
  have hcreation := creation_buildCollection config b
  generalize buildCollection config b = answer at hcreation
  have hhalf (source : ItemSource) : b.Closes (b.halfMade (b.newId config) source) :=
    ⟨Store.Alike.refl _, calm_halfMade⟩
  cases hcreation with
  | refused _ => exact .refl b
  | halfMade _ _ _ => exact hhalf _
  | made _ _ hroot => exact @frame_closes.trans true _ _ _ (hhalf _) ((closes_reroot _).ok hroot)

theorem closes_refreshIfDirty : Obeys (fun _ => Closes) refreshIfDirty := by
  refine frame_closes.bind frame_closes.state fun b =>
    frame_closes.bind (fun _ => ⟨Store.Alike.refl _, fun h => h⟩) fun _ => ?_
  split
  · exact frame_closes.bind frame_closes.state fun _ => frame_closes.each closes_reroot _
  · exact frame_closes.pure ()

end Browser

/-! ## 3. Steps -/

namespace BrowserStep

open Browser

/-- **Whatever fails in a step that is not about the data**, the store answers as before, and no batch
    is left under way. -/
theorem closes_perform {step : BrowserStep} (hdata : step.isAboutData = false) :
    Obeys (fun _ => Browser.Closes) step.perform := by
  have hdone {α : Type} {act : Action Browser α} (hact : Obeys (fun _ => Browser.Closes) act) :
      Obeys (fun _ => Browser.Closes) (act >>= fun _ => pure ()) :=
    Browser.frame_closes.bind hact fun _ => Browser.frame_closes.pure ()
  cases step with
  | withFacet collection facet act => exact hdone (Browser.closes_changeFacetBy collection facet act)
  | operation op =>
    cases op with
    | load payload base => cases hdata
    | update ops => cases hdata
    | createCollection config => exact hdone (closes_buildCollection config)
    | addFacet collection config => exact hdone (closes_attachFacet collection config)
    | removeFacet collection facet => exact hdone (closes_detachFacet collection facet)
    | changeFacet collection facet change => exact hdone (Browser.closes_changeFacetBy collection facet _)
    | input collection facet text now enter =>
      exact hdone (Browser.closes_changeFacetBy collection facet _)
    | tick now => exact hdone (closes_tick now)
    | importState s => exact hdone (closes_importState s)
    | clearAll =>
      exact hdone (Browser.frame_closes.bind Browser.frame_closes.state fun _ =>
        Browser.frame_closes.bind (closes_importState ∅) fun _ => Browser.frame_closes.pure _)

theorem calm_after (step : BrowserStep) {b : Browser} (hb : b.Calm) : (step.after b).Calm := by
  cases hdata : step.isAboutData with
  | false => exact (closes_perform hdata b).calm hb
  | true =>
    cases step with
    | withFacet collection facet act => cases hdata
    | operation op =>
      show (op.perform b).2.Calm
      obtain ⟨-, hsame⟩ | ⟨store, dirty, -, -, hafter⟩ := op.perform_data hdata b
      · rw [hsame]
        exact hb
      · rw [hafter]
        exact (closes_refreshIfDirty { b with store, dirty }).calm hb

end BrowserStep

namespace Browser

variable {b b' : Browser}

theorem same_outlines_of_becomes
    (h : List.Forall₂ (Collection.Retains Facet.Becomes) b.collections b'.collections) :
    b.SameOutlines b' := by
  refine map_eq_of_forall₂ h fun c d hcd => ?_
  unfold Collection.outline
  rw [hcd.id, hcd.source, map_eq_of_forall₂ hcd.facets fun _ _ hfg => (Facet.Becomes.role hfg).symm]

/-- A new collection, and the facet that its base has got for it, come in order. -/
theorem orderly_halfMade {id : String} {source : ItemSource} (hb : b.Orderly)
    (hnew : b.collection? id = none) (hadmits : b.Admits id source) :
    (b.halfMade id source).Orderly := by
  rcases hadmits.withNewDerived_cases with ⟨hplain, hsame⟩ | ⟨e, place, c, rfl, hc, hhas, hset⟩
  · have hprepared : Prepared b b (.new id source) := by
      refine prepared_refl fun base hbase => ?_
      cases source with
      | based e base' restricting =>
        cases hbase
        obtain ⟨place, c, hplace, hc, -⟩ := hadmits
        obtain ⟨-, c', hc', hid⟩ := placeOf_ok hplace
        exact ⟨place, hid ▸ idAt_of_getElem? hc'⟩
      | _ => cases hbase
    have hhalf : b.halfMade id source = b.withCollection (.new id source) := by
      unfold halfMade withCollection
      rw [hsame]
    exact hhalf ▸ hprepared.orderly hnew hb
  · have hprepared := prepared_withDerived hc (addFacet_derived (v := ⟨b.store, c⟩) e hhas)
    have hhalf : b.halfMade id (.based e c.id true) =
        (b.putView place (View.withFacet ⟨b.store, c⟩ (newDerived id e c))).withCollection
          (.new id (.based e c.id true)) := by
      unfold halfMade withCollection putView
      rw [hset]
      rfl
    exact hhalf ▸ hprepared.orderly hnew hb

/-- **The order through one step**, if no batch is left under way. -/
theorem orderly_of_reshaped (hb : b.Orderly) (h : b.Reshaped b') (hcalm : b'.Calm) : b'.Orderly := by
  cases h with
  | kept h => exact hb.same_outlines (same_outlines_of_becomes h) hcalm
  | @attached place n c config settings f hc hf hnew h =>
    have hpushed := orderly_withFacet hb hc (Facet.role_build hf) hnew
      (View.Same.refl (View.withFacet ⟨b.store, c⟩ f)).kin
    exact hpushed.same_outlines (same_outlines_of_becomes h) hcalm
  | @detached place c id hc h =>
    have hdropped := orderly_withoutFacet hb hc
      (View.Same.refl (View.withoutFacet ⟨b.store, c⟩ id)).kin
    exact hdropped.same_outlines (same_outlines_of_becomes h) hcalm
  | created hnew hadmits h =>
    exact (orderly_halfMade hb hnew hadmits).same_outlines (same_outlines_of_becomes h) hcalm

end Browser

/-- **A browser is in order at all times**, whatever has failed. -/
theorem BrowserStep.orderly_afterAll {steps : List BrowserStep}
    (huses : ∀ step ∈ steps, step.GoesByUses) {b : Browser} (hb : b.Orderly) :
    (afterAll steps b).Orderly := by
  induction steps generalizing b with
  | nil => exact hb
  | cons step rest ih =>
    obtain ⟨hfirst, hrest⟩ := List.forall_mem_cons.mp huses
    exact ih hrest (Browser.orderly_of_reshaped hb (reshaped_after hfirst b) (calm_after step hb.calm))

end Faceted
