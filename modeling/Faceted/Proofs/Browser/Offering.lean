import Faceted.Proofs.Browser.Policies
import Faceted.Proofs.Collection.Offering

/-!
# Roots that are offered

A restricting collection has its root from its base, which offers it what passes all other facets
there. As long as everything that is done to a browser succeeds, the root is what the base offers now:
whatever changes the offer is passed on.

* `OfferHolds`: the collection has the root that it is offered, if it is offered one;
* `Offering`: so it is everywhere, and every derived facet remembers what it is to offer;
* **`offering_of_took`**: the one argument behind all changes of one collection that are passed on;
* `offering_perform`, `poised_after`: one step, `Poised.atMoment`: the clock, **`poised_runAt`**: a run of
  steps.
-/

namespace Faceted

open Faceted.Action Faceted.Expression

namespace Browser

variable {b b' : Browser}

/-! ## 1. Offers and roots -/

/-- The root that is made of an offer. -/
def taken (s : Store) (o : Expression × KeySet) : Outcome KeySet :=
  (DerivedFacet.new "" o.1).valuesOf s o.2

theorem basedRoot_of_offer (hb : b.Ordered) {place q : Nat} {c d : Collection} {e : Expression}
    (hc : b.collections[place]? = some c) (hd : b.collections[q]? = some d)
    (hsource : d.source = .based e c.id true) {items : KeySet} :
    b.basedRoot q = .ok (some items) ↔
      ∃ o, c.offer (derivedId d.id) = some o ∧ taken b.store o = .ok items := by
  have htaken (f : DerivedFacet) : taken b.store (f.expression, f.candidates) =
      f.valuesOf b.store f.candidates :=
    DerivedFacet.valuesOf_alike (Store.Alike.refl _) rfl f.candidates
  rw [basedRoot_of_restricting hd hsource (collection?_eq hb hc)]
  constructor
  · intro h
    split at h
    · next f hf =>
      refine ⟨_, Collection.offer_eq_some.mpr ⟨f, hf, rfl⟩, ?_⟩
      rw [htaken]
      cases hvalues : f.valuesOf b.store f.candidates with
      | error failure =>
        rw [hvalues] at h
        cases h
      | ok values =>
        rw [hvalues] at h
        cases h
        rfl
    · cases h
  · rintro ⟨o, ho, hitems⟩
    obtain ⟨f, hf, rfl⟩ := Collection.offer_eq_some.mp ho
    rw [htaken] at hitems
    rw [hf]
    dsimp only
    rw [hitems]
    rfl

/-- A restricting collection has the root that its base offers it, if it is offered one. -/
def OfferHolds (b : Browser) (place : Nat) : Prop :=
  ∀ c, b.collections[place]? = some c → c.isRestricting = true →
    ∀ items, b.basedRoot place = .ok (some items) → items = c.items

theorem rooting_offerHolds : Rooting OfferHolds where
  found hc hroot d hd _ items hitems := by
    cases hc.symm.trans hd
    rw [hroot] at hitems
    cases hitems
    rfl
  putView {b place q c w} hc hstore hid hsource hitems hq h d hd hr items hroot := by
    rw [basedRoot_putView hc hstore hid hsource hq] at hroot
    by_cases heq : place = q
    · subst heq
      rw [Browser.putView, List.getElem?_set_self (List.getElem?_eq_some_iff.mp hc).1] at hd
      cases hd
      rw [hitems rfl]
      rw [Collection.isRestricting, hsource] at hr
      exact h c hc hr items hroot
    · rw [Browser.putView, List.getElem?_set_ne heq] at hd
      exact h d hd hr items hroot

/-- What depends on a collection that goes on offering the same keeps its root. -/
theorem offerHolds_putView {place q : Nat} {c : Collection} {w : View} (hb : b.Ordered)
    (hc : b.collections[place]? = some c) (hstore : b.store.Alike w.store)
    (hid : w.collection.id = c.id) (hsource : w.collection.source = c.source)
    (hoffer : ∀ d, b.collections[q]? = some d → ∀ o,
      w.collection.offer (derivedId d.id) = some o → c.offer (derivedId d.id) = some o)
    (hq : b.DependsOn q place) (h : b.OfferHolds q) : (b.putView place w).OfferHolds q := by
  intro d hd hr items hroot
  have hlt := hq.lt hb
  have hd' : b.collections[q]? = some d := by
    rw [putView, List.getElem?_set_ne (by omega)] at hd
    exact hd
  obtain ⟨e, id, hbased⟩ := source_of_isRestricting hr
  obtain rfl : c.id = id := by
    obtain ⟨base, hbase, hat⟩ := hq
    rw [baseAt_of_getElem? hd', Collection.base?, hbased] at hbase
    rw [idAt_of_getElem? hc] at hat
    exact Option.some.inj (hat.trans hbase.symm)
  have hw : (b.putView place w).collections[place]? = some w.collection :=
    List.getElem?_set_self (List.getElem?_eq_some_iff.mp hc).1
  obtain ⟨o, ho, htaken⟩ := (basedRoot_of_offer (ordered_putView hb hc hid hsource) hw hd
    (by rw [hid]; exact hbased)).mp hroot
  refine h d hd' hr items ((basedRoot_of_offer hb hc hd' hbased).mpr ⟨o, hoffer d hd' o ho, ?_⟩)
  exact (DerivedFacet.valuesOf_alike hstore rfl _).trans htaken

/-! ## 2. The invariant -/

/-- Every derived facet remembers what the other facets let through. -/
def AllOffered (b : Browser) : Prop := ∀ c ∈ b.collections, View.Offered ⟨b.store, c⟩

/-- Restricting collections have the roots that their bases offer them, and what is offered is what the
    other facets let through. -/
structure Offering (b : Browser) : Prop where
  offered : b.AllOffered
  holds : ∀ place, b.OfferHolds place

theorem allOffered_putView {place : Nat} {w : View} (hstore : b.store.Alike w.store)
    (hb : b.AllOffered) (hw : w.Offered) : (b.putView place w).AllOffered := by
  intro d hd
  rcases List.mem_or_eq_of_mem_set hd with hd | rfl
  · exact View.offered_of_alike hstore (hb d hd)
  · exact hw

/-- What becomes of a browser while changes are passed on. -/
structure Reminds (b b' : Browser) : Prop extends Advance b b' where
  offered : b.Calm → b.AllOffered → b'.AllOffered

theorem frame_reminds : Frame (Strictly Reminds) :=
  frame_strictly (fun b => ⟨Advance.refl b, fun _ h => h⟩) fun h h' =>
    ⟨h.toAdvance.trans h'.toAdvance, fun hcalm hb => h'.offered (h.calm hcalm) (h.offered hcalm hb)⟩

theorem reminds_onCollection {α : Type} (place : Nat) (otherwise : α) {act : Action View α}
    (hadvance : ∀ {v x w}, act v = (.ok x, w) → v.Advance w)
    (hoffered : ∀ {v x w}, act v = (.ok x, w) → v.collection.updating = false → v.Offered → w.Offered) :
    Obeys (Strictly Reminds) (onCollection place otherwise act) := by
  refine strictly_of_ok (obeys_onCollection place otherwise hadvance) fun _ h => ?_
  rcases onCollection_ok h with ⟨-, -, rfl⟩ | ⟨c, w, hc, hw, rfl⟩
  · exact ⟨Advance.refl _, fun _ hb => hb⟩
  · have hmem := List.mem_of_getElem? hc
    exact ⟨advance_putView hc (hadvance hw), fun hcalm hb =>
      allOffered_putView (hadvance hw).store hb (hoffered hw (hcalm c hmem) (hb c hmem))⟩

/-- **Bringing everything in line** leaves every derived facet with what it is to offer. -/
theorem reminds_settle (place : Nat) : Obeys (Strictly Reminds) (settle place) :=
  follows_settle frame_reminds
    (fun place _ => reminds_onCollection place () View.advance_setRoot
      fun h hcalm _ => View.offered_setRoot h hcalm)
    (fun place _ _ => reminds_onCollection place false
      (fun h => View.advance_changeFacetBy h (sound_perform _))
      fun h => View.offered_changeFacetBy h (View.reportsChanges_perform _)) place

/-- **A change to one collection** that leaves its root alone. If it offers more than before, the change
    has been passed on. -/
theorem offering_of_took {place : Nat} {c : Collection} {w : View} {passed : Bool}
    (htook : b.Took place w passed b') (hc : b.collections[place]? = some c)
    (hstore : b.store.Alike w.store) (hid : w.collection.id = c.id)
    (hsource : w.collection.source = c.source) (hitems : w.collection.items = c.items)
    (hstrict : b.settings.errors ≠ .log) (hb : b.Orderly) (hput : (b.putView place w).Orderly)
    (hw : w.Offered)
    (hkeeps : passed = false → ∀ id o, w.collection.offer id = some o → c.offer id = some o)
    (h : b.Offering) : b'.Offering := by
  have hoffered : (b.putView place w).AllOffered := allOffered_putView hstore h.offered hw
  have hothers {q : Nat} (hq : ¬ b.DependsOn q place) : (b.putView place w).OfferHolds q :=
    rooting_offerHolds.putView hc hstore hid hsource (fun _ => hitems) hq (h.holds q)
  rcases htook with ⟨-, hsettle⟩ | ⟨hfalse, rfl⟩
  · have hreminds := ((reminds_settle place).ok hsettle).2 rfl hstrict
    refine ⟨hreminds.offered hput.calm hoffered, ?_⟩
    exact settle_holds rooting_offerHolds hsettle hstrict hput.ordered fun q hq =>
      hothers fun hon => hq ((dependsOn_putView hc hid hsource).mpr hon)
  · refine ⟨hoffered, fun q => ?_⟩
    by_cases hq : b.DependsOn q place
    · exact offerHolds_putView hb.ordered hc hstore hid hsource (fun _ _ => hkeeps hfalse _) hq
        (h.holds q)
    · exact hothers hq

/-! ## 3. Facets -/

/-- What an operation on facets and collections may do to a browser, also to what is offered there. -/
structure GrowsOffering (b b' : Browser) : Prop extends Grows b b' where
  offering : b.Orderly → b.InTune → b.Offering → b'.Offering

theorem frame_growsOffering : Frame (Strictly GrowsOffering) :=
  frame_strictly (fun b => ⟨Grows.refl b, fun _ _ h => h⟩) fun h h' =>
    ⟨h.toGrows.trans h'.toGrows, fun hb hin ho =>
      h'.offering (h.orderly hb) (h.inTune hb hin) (h.offering hb hin ho)⟩

/-- An action that grows a browser keeps what is offered there, if its successes do. -/
theorem growsOffering_of_ok {α : Type} {act : Action Browser α} (hact : Obeys (Strictly Grows) act)
    (h : ∀ {b b' x}, b.settings.errors ≠ .log → act b = (.ok x, b') → b.Orderly → b.InTune →
      b.Offering → b'.Offering) : Obeys (Strictly GrowsOffering) act :=
  strictly_of_ok hact fun hstrict hrun => ⟨(hact.ok hrun).2 rfl hstrict, h hstrict hrun⟩

theorem offering_changeFacetBy (collection facet : String)
    {act : Facet → Scene → Outcome Bool × Facet} (hact : Sound act) (hreports : View.ReportsChanges act) :
    Obeys (Strictly GrowsOffering) (changeFacetBy collection facet act) := by
  refine obeys_guarded (growsOffering_of_ok (obeys_applyToFacet collection facet hact)
    fun {b b' changed} hstrict h hb hin ho => ?_) false
  obtain ⟨place, c, w, hc, -, hw, htook⟩ := applyToFacet_ok h
  have hmem := List.mem_of_getElem? hc
  obtain ⟨hkin, -⟩ := View.changeFacetBy_ok hw hact
  have hadvance := advance_putView hc (View.advance_changeFacetBy hw hact)
  have hoffered := View.offered_changeFacetBy hw hreports (hb.calm c hmem) (ho.offered c hmem)
  refine offering_of_took htook hc hkin.store hkin.id.symm hkin.source.symm hkin.items.symm hstrict hb
    (hadvance.orderly hb) hoffered ?_ ho
  rintro rfl id o hgiven
  rwa [View.offer_of_same (View.same_of_changeFacetBy hw hact.truthful) (ho.offered c hmem)
    hoffered] at hgiven

theorem reportsChanges_typeInto (text : String) (now : Nat) (enter : Bool) :
    View.ReportsChanges (typeInto text now enter) := by
  intro f scene hne
  cases f with
  | textSearch t => exact View.reportsChanges_perform (.input text now enter) _ scene hne
  | _ => exact ⟨rfl, rfl⟩

theorem offering_changeFacet (collection facet : String) (change : Change) :
    Obeys (Strictly GrowsOffering) (changeFacet collection facet change) :=
  offering_changeFacetBy collection facet (sound_perform change) (View.reportsChanges_perform change)

theorem offering_tick (now : Nat) : Obeys (Strictly GrowsOffering) (tick now) := by
  refine frame_growsOffering.bind frame_growsOffering.state fun b =>
    frame_growsOffering.anyOf (fun place => ?_) _
  refine frame_growsOffering.bind frame_growsOffering.state fun b => ?_
  split
  · exact frame_growsOffering.pure false
  · exact frame_growsOffering.anyOf (fun f => offering_changeFacet _ f _) _

theorem offering_restoreAt (s : BrowserState) (place : Nat) :
    Obeys (Strictly GrowsOffering) (restoreAt s place) := by
  refine growsOffering_of_ok (obeys_restoreAt s place) fun {b b' changed} hstrict h hb hin ho => ?_
  rcases restoreAt_ok h with ⟨-, rfl⟩ | ⟨c, w, hc, hw, htook⟩
  · exact ho
  · have hmem := List.mem_of_getElem? hc
    obtain ⟨hkin, -⟩ := View.restoreFacets_ok hw
    have hadvance := advance_putView hc (View.advance_restoreFacets hw)
    have hoffered := View.offered_restoreFacets hw
    refine offering_of_took htook hc hkin.store hkin.id.symm hkin.source.symm hkin.items.symm hstrict
      hb (hadvance.orderly hb) hoffered ?_ ho
    rintro rfl id o hgiven
    have hsame := View.same_of_batch (sound_importState _) hw (hin.inLine c hmem)
    rwa [View.offer_of_same hsame (ho.offered c hmem) hoffered] at hgiven

theorem offering_importState (s : BrowserState) : Obeys (Strictly GrowsOffering) (importState s) :=
  obeys_guarded (frame_growsOffering.bind frame_growsOffering.state fun _ =>
    frame_growsOffering.anyOf (offering_restoreAt s) _) false

theorem offering_clearAll : Obeys (Strictly GrowsOffering) clearAll :=
  frame_growsOffering.bind frame_growsOffering.state fun _ =>
    frame_growsOffering.bind (offering_importState ∅) fun _ => frame_growsOffering.pure _

theorem offering_addFacet (collection : String) (config : FacetConfig) :
    Obeys (Strictly GrowsOffering) (addFacet collection config) := by
  refine obeys_guarded (growsOffering_of_ok (obeys_attachFacet collection config)
    fun {b b' id} hstrict h hb hin ho => ?_) ""
  obtain ⟨place, c, f, w, hc, -, hbuild, hw, htook⟩ := attachFacet_ok h
  have hmem := List.mem_of_getElem? hc
  have huser := Facet.role_build hbuild
  obtain ⟨hnew, hkin, -⟩ := View.addFacet_ok hw
  refine offering_of_took htook hc hkin.store hkin.id.symm hkin.source.symm hkin.items.symm hstrict hb
    (orderly_withFacet hb hc huser hnew hkin)
    (View.offered_addFacet hw (hin.inLine c hmem) (ho.offered c hmem)) (fun hfalse id o hgiven => ?_) ho
  rwa [View.offer_addFacet hw hfalse (.inr huser)] at hgiven

theorem offering_removeFacet (collection facet : String) :
    Obeys (Strictly GrowsOffering) (removeFacet collection facet) := by
  refine obeys_guarded (growsOffering_of_ok (obeys_detachFacet collection facet)
    fun {b b' answer} hstrict h hb hin ho => ?_) false
  rcases detachFacet_ok h with rfl | ⟨place, c, f, w, hc, -, hw, htook⟩
  · exact ho
  · have hmem := List.mem_of_getElem? hc
    obtain ⟨hkin, -⟩ := View.removeFacet_ok hw
    refine offering_of_took htook hc hkin.store hkin.id.symm hkin.source.symm hkin.items.symm hstrict
      hb (orderly_withoutFacet hb hc hkin)
      (View.offered_removeFacet hw (hb.calm c hmem) (ho.offered c hmem)) (fun hfalse id o hgiven => ?_) ho
    obtain ⟨-, ⟨hr, -⟩ | ⟨-, rfl⟩⟩ := View.removeFacet_cases hw
    · rw [hfalse] at hr
      cases hr
    · exact Collection.offer_of_dropFacet (hb.attached c hmem).distinct hgiven

/-! ## 4. Collections -/

theorem reminds_reroot (place : Nat) : Obeys (Strictly Reminds) (reroot place) := by
  refine frame_reminds.bind frame_reminds.state fun b => ?_
  refine frame_reminds.bind (frame_reminds.ofOutcome _) fun root => ?_
  cases root with
  | some items =>
    exact reminds_onCollection place () View.advance_setRoot fun h hcalm _ =>
      View.offered_setRoot h hcalm
  | none =>
    exact reminds_onCollection place () View.advance_reroot fun h hcalm _ =>
      View.offered_reroot h hcalm

/-- A collection that gets its root anew has the one that it is offered, and all that do not depend on
    it keep theirs. -/
theorem offerHolds_reroot {place : Nat} {c : Collection} (hc : b.collections[place]? = some c)
    (hb : b.Ordered) (h : reroot place b = (.ok (), b')) :
    b'.OfferHolds place ∧
      ∀ {q}, q ≠ place → ¬ b.DependsOn q place → b.OfferHolds q → b'.OfferHolds q := by
  obtain ⟨_, _, hstate, hread⟩ := bind_ok h
  cases hstate
  obtain ⟨root, _, hof, hset⟩ := bind_ok hread
  obtain ⟨hroot, rfl⟩ := Prod.mk.inj hof
  cases root with
  | some items => exact rooting_offerHolds.setRoot hc hb hroot hset
  | none =>
    obtain ⟨w, hw, rfl⟩ := onCollection_ok_of_some hc hset
    obtain ⟨hkin, -⟩ := View.reroot_ok hw
    constructor
    · intro d _ _ items hitems
      rw [basedRoot_putView hc hkin.store hkin.id.symm hkin.source.symm fun hon =>
        Nat.lt_irrefl place (hon.lt hb), hroot] at hitems
      cases hitems
    · exact fun hne hq => rooting_offerHolds.putView hc hkin.store hkin.id.symm hkin.source.symm
        (fun heq => absurd heq hne) hq

/-- The other collections are offered what they were. -/
theorem offerHolds_withCollection {c : Collection} (hb : b.Ordered) {q : Nat}
    (hq : q ≠ b.collections.length) (h : b.OfferHolds q) : (b.withCollection c).OfferHolds q := by
  intro d hd hr items hitems
  rcases getElem?_withCollection hd with hold | ⟨rfl, -⟩
  · rw [basedRoot_congr hold hd (Store.Alike.refl _) rfl rfl
      (collection?_withCollection hb hold)] at hitems
    exact h d hold hr items hitems
  · exact absurd rfl hq

/-- A browser that is made ready for a new collection goes on offering what it did. -/
theorem offering_of_sourceOf {id : String} {config : CollectionConfig} {source : ItemSource}
    {u : Browser} (h : sourceOf id config b = (.ok source, u)) (hnone : b.collection? id = none)
    (hb : b.Orderly) (hin : b.InTune) (ho : b.Offering) : u.Offering := by
  rcases sourceOf_ok h with ⟨rfl, -⟩ | ⟨e, place, c, w, hc, hw, rfl, -⟩
  · exact ho
  · have hmem := List.mem_of_getElem? hc
    obtain ⟨-, hkin, -⟩ := View.addFacet_ok hw
    refine ⟨allOffered_putView hkin.store ho.offered
      (View.offered_addFacet hw (hin.inLine c hmem) (ho.offered c hmem)), fun q => ?_⟩
    by_cases hq : b.DependsOn q place
    · refine offerHolds_putView hb.ordered hc hkin.store hkin.id.symm hkin.source.symm
        (fun d hd o hgiven => ?_) hq (ho.holds q)
      have hne : derivedId id ≠ derivedId d.id := fun heq =>
        idAt_ne_of_collection? hnone q (by
          rw [idAt_of_getElem? hd, (String.append_right_inj "collection:").mp heq])
      rwa [View.offer_addFacet hw rfl (.inl hne)] at hgiven
    · exact rooting_offerHolds.putView hc hkin.store hkin.id.symm hkin.source.symm
        (fun _ => hkin.items.symm) hq (ho.holds q)

theorem offering_buildCollection (config : CollectionConfig) :
    Obeys (Strictly GrowsOffering) (buildCollection config) := by
  refine growsOffering_of_ok (obeys_buildCollection config) fun {b b' id} hstrict h hb hin ho => ?_
  obtain ⟨hnone, source, u, hsource, hreroot⟩ := buildCollection_ok h
  have hu := prepared_of_sourceOf hsource
  have horderly := hu.orderly hnone hb
  have hou := offering_of_sourceOf hsource hnone hb hin ho
  have hreminds := ((reminds_reroot _).ok hreroot).2 rfl (by rw [← hu.settings] at hstrict; exact hstrict)
  refine ⟨hreminds.offered horderly.calm fun c hc => ?_, fun q => ?_⟩
  · rcases List.mem_append.mp hc with hc | hc
    · exact hou.offered c hc
    · rw [List.mem_singleton.mp hc]
      exact fun place f hf => by cases hf
  · obtain ⟨hself, hothers⟩ := offerHolds_reroot hu.getElem?_last horderly.ordered hreroot
    by_cases hq : q = b.collections.length
    · exact hq ▸ hself
    · refine hothers hq ?_ (offerHolds_withCollection (hu.ordered hb.ordered)
        (by rw [hu.length]; exact hq) (hou.holds q))
      rw [← hu.length]
      exact not_dependsOn_last horderly.ordered

theorem offering_createCollection (config : CollectionConfig) :
    Obeys (Strictly GrowsOffering) (createCollection config) :=
  obeys_guarded (offering_buildCollection config) ""

/-! ## 5. Runs -/

/-- The collections are in order and in tune, and roots are what is offered. -/
structure Poised (b : Browser) : Prop where
  orderly : b.Orderly
  inTune : b.InTune
  offering : b.Offering

theorem Untouched.offering (hb : b.Untouched) : b.Offering where
  offered c hc place f hf := by
    have hfacets : (View.mk b.store c).collection.facets = [] := (hb.mem hc).2.2.2.1
    rw [hfacets] at hf
    cases hf
  holds place c hc hr := by
    unfold Collection.isRestricting at hr
    rw [(hb.mem (List.mem_of_getElem? hc)).1] at hr
    cases hr

theorem Untouched.poised (hb : b.Untouched) : b.Poised := ⟨hb.orderly, hb.inTune, hb.offering⟩

/-- **The clock** leaves every collection with the root that it is offered, unless an expression asks for
    the time. -/
theorem Poised.atMoment (hb : b.Poised) (hasks : b.asksTime = false) (moment : Int) :
    (b.atMoment moment).Poised where
  orderly := hb.orderly.atMoment moment
  inTune := hb.inTune.atMoment hasks moment
  offering := {
    offered := fun c hc => (hb.offering.offered c hc).atMoment (facets_asksTime hasks hc) moment
    holds := fun place c hc hr items hitems => by
      rw [basedRoot_atMoment hasks moment place] at hitems
      exact hb.offering.holds place c hc hr items hitems }

end Browser

namespace BrowserStep

open Browser

/-- What a caller does to a facet is sound and reports its changes. -/
def IsHonest : BrowserStep → Prop
  | operation _ => True
  | withFacet _ _ act => Sound act ∧ View.ReportsChanges act

/-- **A step that is not about the data** keeps what is offered, if it succeeds. -/
theorem offering_perform {step : BrowserStep} (hhonest : step.IsHonest)
    (hdata : step.isAboutData = false) : Obeys (Strictly GrowsOffering) step.perform := by
  have hdone {α : Type} {act : Action Browser α} (hact : Obeys (Strictly GrowsOffering) act) :
      Obeys (Strictly GrowsOffering) (act >>= fun _ => pure ()) :=
    frame_growsOffering.bind hact fun _ => frame_growsOffering.pure ()
  cases step with
  | withFacet collection facet act =>
    exact hdone (offering_changeFacetBy collection facet hhonest.1 hhonest.2)
  | operation op =>
    cases op with
    | load payload base => cases hdata
    | update ops => cases hdata
    | createCollection config => exact hdone (offering_createCollection config)
    | addFacet collection config => exact hdone (offering_addFacet collection config)
    | removeFacet collection facet => exact hdone (offering_removeFacet collection facet)
    | changeFacet collection facet change => exact hdone (offering_changeFacet collection facet change)
    | input collection facet text now enter =>
      exact hdone (offering_changeFacetBy collection facet (sound_typeInto text now enter)
        (reportsChanges_typeInto text now enter))
    | tick now => exact hdone (offering_tick now)
    | importState state => exact hdone (offering_importState state)
    | clearAll => exact hdone offering_clearAll

/-- **One step** that succeeds keeps everything as it is to be, whatever is done with failures. -/
theorem poised_after {step : BrowserStep} {b : Browser} (hhonest : step.IsHonest)
    (hdata : step.isAboutData = false) (h : step.succeeds b = true)
    (hb : (b.withPolicy .throw).Poised) : ((step.after b).withPolicy .throw).Poised := by
  obtain ⟨-, hrun⟩ := perform_of_succeeds hdata h
  have hgrows := ((offering_perform hhonest hdata).ok hrun).2 rfl (fun heq => by cases heq)
  exact ⟨hgrows.orderly hb.orderly, hgrows.inTune hb.orderly hb.inTune,
    hgrows.offering hb.orderly hb.inTune hb.offering⟩

/-- **A run of steps** that all succeed, while nothing asks for the time. -/
theorem poised_runAt {steps : List (Int × BrowserStep)} {b : Browser}
    (hsteps : ∀ step ∈ steps, step.2.IsHonest ∧ step.2.isAboutData = false)
    (h : allSucceed steps b = true) (hasks : NeverAsks Browser.asksTime Browser.atMoment after steps b)
    (hb : (b.withPolicy .throw).Poised) :
    ((runAt Browser.atMoment after steps b).withPolicy .throw).Poised := by
  induction steps generalizing b with
  | nil => exact hb
  | cons step rest ih =>
    obtain ⟨⟨hhonest, hdata⟩, hrest⟩ := List.forall_mem_cons.mp hsteps
    obtain ⟨hstep, hlater⟩ := Bool.and_eq_true_iff.mp h
    -- the policy is nothing to the clock, nor the clock to the policy
    have hmoment : ((b.atMoment step.1).withPolicy .throw).Poised := hb.atMoment hasks.start step.1
    exact ih hrest hlater hasks.rest (poised_after hhonest hdata hstep hmoment)

end BrowserStep

end Faceted
