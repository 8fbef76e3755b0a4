import Faceted.Proofs.Collection.Lasting
import Faceted.Proofs.Collection.Restoring

/-!
# Clearing a collection and handing the states back

Clearing yields the states of all facets, in their order, and handing them back makes every facet
select what it did, up to the order of ranges and nodes. One kind of facet is not brought back. A
facet that narrows its collection on behalf of another one may allow all values, or some of them, or
none; the state does not tell all from none, and none is what is handed back.

* `Facet.Reapplied` relates a facet to what becomes of it, `reapplied_of_apply` says that this is so;
* `Turn.Usual` and `usual_afterAll`: what holds of a collection after any run, whatever failed;
* **`reapplied_iff`**: all is as before exactly if every facet of that kind restricted before;
* **`nothing_after_reapplying`**: a facet that has allowed all values lets nothing through afterwards.
-/

namespace Faceted

open Faceted.Action

namespace Facet

variable {scene scene' : Scene} {f f' g g' : Facet}

/-! ## 1. One facet -/

/-- A facet and what becomes of it when its state is handed back to it: it is set up as before and
    exports the same, but if a user does not act on it, it restricts. -/
structure Reapplied (f g : Facet) : Prop where
  plain : f.plain = g.plain
  state : g.exportState = f.exportState
  restricts : g.hasRestrictions = (f.hasRestrictions || !f.isForUser)

theorem lasting_reselected : Lasting Reselected where
  refl := .refl
  trans := .trans
  restrict f scene items := .of_settled (f.settled_restrict scene items).symm
  update f scene items := .of_settled (f.settled_update scene items).symm
  dropCaches f := .of_bare f.bare_dropCaches.symm

theorem lasting_sameBare : Lasting SameBare where
  refl _ := rfl
  trans := Eq.trans
  restrict f scene items := bare_of_settled (f.settled_restrict scene items).symm
  update f scene items := bare_of_settled (f.settled_update scene items).symm
  dropCaches f := f.bare_dropCaches.symm

namespace Reapplied

theorem sameSelection (h : f.Reapplied g) : f.SameSelection g where
  plain := h.plain
  state := by
    rw [h.state]
    exact f.exportState.same_refl

/-- What is kept and shown plays no part. -/
theorem of_sameBare (h : f.Reapplied g) (hbare : g.SameBare g') : f.Reapplied g' where
  plain := h.plain.trans (Reselected.of_bare hbare).plain
  state := by rw [← exportState_bare g', ← hbare, exportState_bare, h.state]
  restricts := by rw [← hasRestrictions_bare g', ← hbare, hasRestrictions_bare, h.restricts]

/-- A facet that no user acts on is the same as before if it restricted. -/
theorem bare_eq (h : f.Reapplied g) (huser : f.isForUser = false) (hr : f.hasRestrictions = true) :
    f.bare = g.bare := by
  obtain ⟨hplain, hstate, hrestricts⟩ := h
  rw [hr, Bool.true_or] at hrestricts
  rw [← bare_withSelectionOf hplain]
  cases f with
  | derived f =>
    cases g with
    | derived g =>
      obtain ⟨allowed, hf⟩ := Option.isSome_iff_exists.mp hr
      obtain ⟨allowed', hg⟩ := Option.isSome_iff_exists.mp hrestricts
      have hkeys : allowed'.toList = allowed.toList := by
        simpa [exportState, DerivedFacet.exportState, hf, hg] using hstate
      have hallowed : g.restriction = f.restriction := by
        rw [hf, hg]
        exact congrArg some (KeySet.ext fun x => by rw [← KeySet.mem_toList, hkeys, KeySet.mem_toList])
      simp only [withSelectionOf, hallowed]
    | _ => cases hplain
  | _ => cases huser

/-- A facet that restricts before and after lets the same items through. -/
theorem restrict (h : f.Reapplied g) (hr : f.hasRestrictions = true) (hs : scene.Alike scene')
    (hf : f.Fresh scene) (hg : g.Fresh scene') {items kept kept' : KeySet}
    (hkept : (f.restrict scene items).1 = .ok kept)
    (hkept' : (g.restrict scene' items).1 = .ok kept') : kept = kept' := by
  cases huser : f.isForUser with
  | true => exact h.sameSelection.restrict huser hs hf hg hkept hkept'
  | false =>
    have hsettled := settled_of_bare hs hf hg (h.bare_eq huser hr)
    rw [restrict_congr (hs.alikeFor _) hsettled, hkept'] at hkept
    exact (Except.ok.inj hkept).symm

end Reapplied

/-- A state that is handed to a facet that no user acts on makes it restrict, even to nothing. -/
theorem hasRestrictions_apply {state : FacetState} (huser : f.isForUser = false)
    (h : f.apply state = .ok g) : g.hasRestrictions = true := by
  cases f with
  | derived f =>
    cases state <;> cases h
    rfl
  | _ => cases huser

theorem isForUser_of_plain (h : f.plain = g.plain) : f.isForUser = g.isForUser := by
  have hplain (f : Facet) : f.plain.isForUser = f.isForUser := by cases f <;> rfl
  rw [← hplain f, h, hplain g]

/-- **A facet takes its own state back**, whatever it selects meanwhile. -/
theorem reapplied_of_apply (hplain : f'.plain = f.plain) (htrimmed : f.Trimmed) :
    ∃ g, f'.apply f.exportState = .ok g ∧ f.Reapplied g := by
  obtain ⟨g, happly, hstate⟩ := apply_exported hplain htrimmed
  have hset : f.plain = g.plain := hplain.symm.trans (Reselected.apply happly).plain
  refine ⟨g, happly, hset, hstate, ?_⟩
  cases huser : f.isForUser with
  | true =>
    have hsame : f.SameSelection g := ⟨hset, by rw [hstate]; exact f.exportState.same_refl⟩
    rw [← hsame.hasRestrictions huser, Bool.not_true, Bool.or_false]
  | false =>
    rw [hasRestrictions_apply ((isForUser_of_plain hplain).trans huser) happly, Bool.not_false,
      Bool.or_true]

end Facet

/-- Facets take their own states back one after the other. -/
theorem View.applyEach_exported {fs fs' : List Facet}
    (h : List.Forall₂ (fun f f' => f'.plain = f.plain) fs fs') (htrimmed : ∀ f ∈ fs, f.Trimmed) :
    ∃ gs, applyEach fs' (fs.map Facet.exportState) = (.ok (), gs) ∧
      List.Forall₂ Facet.Reapplied fs gs := by
  induction h with
  | nil => exact ⟨[], rfl, .nil⟩
  | @cons f f' fs fs' hplain _ ih =>
    obtain ⟨hfirst, hrest⟩ := List.forall_mem_cons.mp htrimmed
    obtain ⟨g, happly, hg⟩ := Facet.reapplied_of_apply hplain hfirst
    obtain ⟨gs, heach, hgs⟩ := ih hrest
    refine ⟨g :: gs, ?_, .cons hg hgs⟩
    unfold applyEach
    rw [List.map_cons]
    dsimp only
    rw [happly]
    dsimp only
    rw [heach]

namespace View

variable {u v w : View} {states : List FacetState}

/-! ## 2. All facets of a collection -/

/-- Every text search has a query that stands for itself. -/
def AllTrimmed (v : View) : Prop := ∀ f ∈ v.collection.facets, f.Trimmed

theorem AllTrimmed.retains {c d : Collection} (hc : ∀ f ∈ c.facets, f.Trimmed)
    (h : c.Retains Facet.Reselected d) : ∀ g ∈ d.facets, g.Trimmed := by
  intro g hg
  obtain ⟨f, hf, hfg⟩ := forall₂_mem h.facets.flip hg
  exact Facet.Reselected.trimmed hfg (hc f hf)

theorem lasts_clearAll : Lasts Facet.Reselected clearAll := by
  refine lasts_batch Facet.lasting_reselected fun v => ⟨rfl, rfl, ?_⟩
  show List.Forall₂ _ v.collection.facets (v.collection.facets.map fun f => f.clear.2)
  rw [List.forall₂_map_right_iff]
  exact List.forall₂_same.mpr fun f _ => .clear f

theorem lasts_applyAll (states : List FacetState) : Lasts Facet.Reselected (applyAll states) :=
  lasts_batch Facet.lasting_reselected fun v =>
    ⟨rfl, rfl, (usedTo_applyEach v.scene _ states).imp fun _ _ => Facet.reselected_usedTo⟩

/-- What is done in a batch that puts other facets in the place of the ones there are. -/
theorem batch_facets_ok {α : Type} {act : Action View α} {x : α} (h : batch act v = (.ok x, w))
    {outcome : Outcome α} (facets : List Facet)
    (hact : act (v.withUpdating true) =
      (outcome, (v.withFacets facets).withUpdating true)) :
    outcome = .ok x ∧ (v.withFacets facets).Kin w ∧
      List.Forall₂ Facet.SameBare facets w.collection.facets := by
  obtain ⟨u, hu, hrefresh⟩ := batch_ok h
  obtain ⟨rfl, rfl⟩ := Prod.mk.inj (hact.symm.trans hu)
  have hkin := (refresh_ok hrefresh).1.kin
  have hlasts := (lasts_refresh Facet.lasting_sameBare).ok hrefresh
  exact ⟨rfl, ⟨hkin.store, hkin.id, hkin.source, hkin.items, fun _ => hkin.updating rfl, hkin.roles⟩,
    hlasts.facets⟩

/-- **Clearing** yields all states and leaves facets that are set up as before. -/
theorem clearAll_ok (h : clearAll v = (.ok states, u)) :
    states = v.collection.facets.map Facet.exportState ∧ v.store.Alike u.store ∧
      v.collection.items = u.collection.items ∧
      List.Forall₂ (fun f f' => Facet.plain f' = Facet.plain f) v.collection.facets
        u.collection.facets := by
  obtain ⟨hstates, hkin, -⟩ :=
    batch_facets_ok h (v.collection.facets.map fun f => f.clear.2) rfl
  have hset := (lasts_clearAll.ok h).facets
  refine ⟨(Except.ok.inj hstates).symm.trans ?_, hkin.store, hkin.items,
    hset.imp fun f f' hff => hff.plain.symm⟩
  exact List.map_congr_left fun f _ => f.clear_fst

/-- **Handing back** what all facets have exported. -/
theorem applyAll_ok {fs : List Facet} (h : applyAll (fs.map Facet.exportState) u = (.ok (), w))
    (hset : List.Forall₂ (fun f f' => Facet.plain f' = Facet.plain f) fs u.collection.facets)
    (htrimmed : ∀ f ∈ fs, f.Trimmed) :
    u.store.Alike w.store ∧ u.collection.items = w.collection.items ∧
      List.Forall₂ Facet.Reapplied fs w.collection.facets := by
  obtain ⟨gs, heach, hgs⟩ := applyEach_exported hset htrimmed
  obtain ⟨-, hkin, hbare⟩ :=
    batch_facets_ok h (applyEach u.collection.facets (fs.map Facet.exportState)).2 rfl
  rw [heach] at hbare
  exact ⟨hkin.store, hkin.items, forall₂_trans hgs hbare Facet.Reapplied.of_sameBare⟩

end View

/-! ## 3. Runs -/

namespace CollectionOperation

open View

/-- Facets are added with queries that stand for themselves, and batches keep it so. -/
def Trims : CollectionOperation → Prop
  | call (.addFacet f) => f.Trimmed
  | call (.batch act) => Obeys (fun _ v w => AllTrimmed v → AllTrimmed w) act
  | _ => True

theorem allTrimmed_after {operation : CollectionOperation} (h : operation.Trims)
    (hsteps : operation.GoesBySteps) {v : View} (hv : v.AllTrimmed) :
    (operation.after v).AllTrimmed := by
  have hlasting := Facet.lasting_reselected
  have hrefresh {v : View} (hv : v.AllTrimmed) : (refresh v).2.AllTrimmed :=
    AllTrimmed.retains hv (lasts_refresh hlasting v)
  cases operation with
  | call c =>
    cases c with
    | reroot => exact AllTrimmed.retains hv (lasts_reroot hlasting v)
    | setRoot items => exact AllTrimmed.retains hv (lasts_setRoot hlasting items v)
    | addFacet f =>
      rcases lasts_addFacet hlasting f v with hsame | ⟨-, hpushed⟩
      · exact AllTrimmed.retains hv hsame
      · refine AllTrimmed.retains (fun g hg => ?_) hpushed
        rcases List.mem_append.mp hg with hg | hg
        · exact hv g hg
        · rw [List.mem_singleton.mp hg]
          exact h
    | removeFacet id =>
      exact AllTrimmed.retains (fun g hg => hv g (List.mem_of_mem_eraseP hg))
        (lasts_removeFacet hlasting id v)
    | changeFacet id change =>
      exact AllTrimmed.retains hv
        (lasts_changeFacetBy hlasting (fun f scene => f.reselected_perform scene change) id v)
    | batch act =>
      show (View.batch act v).2.AllTrimmed
      rw [batch_apply]
      exact hrefresh (h (v.withUpdating true) hv)
    | clearAll => exact AllTrimmed.retains hv (lasts_clearAll v)
    | applyAll states => exact AllTrimmed.retains hv (lasts_applyAll states v)
  | withFacet id act =>
    exact AllTrimmed.retains hv (lasts_changeFacetBy hlasting
      (fun f scene => Facet.reselected_usedTo (hsteps f scene)) id v)
  | facetChanged => exact AllTrimmed.retains hv (lasts_facetChanged hlasting v)
  | updateFacets => exact AllTrimmed.retains hv (lasts_updateFacets hlasting v)

theorem atRest_after {operation : CollectionOperation} (h : operation.Truthful) {v : View}
    (hv : v.AtRest) : (operation.after v).AtRest := by
  cases operation with
  | call c => exact c.atRest_after hv
  | withFacet id act => exact atRest_changeFacetBy hv id fun f scene hne => (h f scene hne).1
  | facetChanged =>
    show (View.facetChanged v).2.AtRest
    rw [facetChanged_of_updating hv.updating]
    exact atRest_refresh hv.updating
  | updateFacets => exact (keeps_updateFacets v).atRest hv

end CollectionOperation

namespace Turn

/-- The turn is made of what facets are there for, reports what it changes, and adds facets as they can
    be built. -/
structure Usual (t : Turn) : Prop extends t.Allowed where
  truthful : t.operation.Truthful
  trims : t.operation.Trims

theorem atRest_after {t : Turn} (h : t.Usual) {v : View} (hv : v.AtRest) : (t.after v).AtRest := by
  obtain ⟨store, operation⟩ := t
  cases store with
  | none => exact CollectionOperation.atRest_after h.truthful hv
  | some store =>
    have hroot : operation.takesRoot = true := h.takesRoot rfl
    cases operation with
    | call c =>
      cases c with
      | reroot => exact View.atRest_rootChanged hv.updating
      | setRoot items => exact View.atRest_rootChanged hv.updating
      | _ => cases hroot
    | _ => cases hroot

/-- **After any turns**, whatever became of them, the restricted items match, what facets keep is true,
    and queries stand for themselves. -/
theorem usual_afterAll {turns : List Turn} (h : ∀ t ∈ turns, t.Usual) (s : Store) (name : String)
    (source : ItemSource) :
    (afterAll turns ⟨s, Collection.new name source⟩).AtRest ∧
      (afterAll turns ⟨s, Collection.new name source⟩).AllKeepTrue ∧
      (afterAll turns ⟨s, Collection.new name source⟩).AllTrimmed := by
  have htrue : View.AllKeepTrue ⟨s, Collection.new name source⟩ := fun f hf => by cases hf
  have htrimmed : View.AllTrimmed ⟨s, Collection.new name source⟩ := fun f hf => by cases hf
  have hrun {turns : List Turn} (h : ∀ t ∈ turns, t.Usual) {v : View} (hv : v.AtRest)
      (htrimmed : v.AllTrimmed) : (afterAll turns v).AtRest ∧ (afterAll turns v).AllTrimmed := by
    induction turns generalizing v with
    | nil => exact ⟨hv, htrimmed⟩
    | cons t rest ih =>
      obtain ⟨hfirst, hrest⟩ := List.forall_mem_cons.mp h
      exact ih hrest (atRest_after hfirst hv)
        (CollectionOperation.allTrimmed_after hfirst.trims hfirst.goesBySteps htrimmed)
  obtain ⟨hrest, htrimmed⟩ := hrun h (atRest_new s name source) htrimmed
  have hsteps := steps_afterAll (fun t ht => (h t ht).toAllowed) ⟨s, Collection.new name source⟩
  exact ⟨hrest, View.keepsTrue_steps hsteps htrue, htrimmed⟩

end Turn

open View

/-- **Clearing a collection and handing the states back** brings every selection back, so all is as it
    was exactly if every facet that no user acts on restricted before. After any turns, whatever became
    of them, provided that the facets, as they are, can be applied to the root items. -/
theorem reapplied_iff {s : Store} {name : String} {source : ItemSource} {turns : List Turn}
    (hturns : ∀ t ∈ turns, t.Usual) {u v w : View}
    (hv : v = Turn.afterAll turns ⟨s, Collection.new name source⟩) {states : List FacetState}
    {items : KeySet}
    (hworks : v.scene.throughEach v.collection.facets v.collection.items = .ok items)
    (hclear : clearAll v = (.ok states, u)) (happly : applyAll states u = (.ok (), w)) :
    List.Forall₂ Facet.Reapplied v.collection.facets w.collection.facets ∧
      w.scene.throughEach w.collection.facets v.collection.items = .ok w.collection.restricted ∧
      (List.Forall₂ (fun f g => Facet.hasRestrictions g = Facet.hasRestrictions f ∧
            Facet.exportState g = Facet.exportState f) v.collection.facets w.collection.facets ∧
          w.collection.restricted = v.collection.restricted ↔
        ∀ f ∈ v.collection.facets, f.isForUser = false → f.hasRestrictions = true) := by
  subst hv
  obtain ⟨hrest, htrue, htrimmed⟩ := Turn.usual_afterAll hturns s name source
  generalize Turn.afterAll turns ⟨s, Collection.new name source⟩ = v at *
  obtain ⟨rfl, hstore, hitems, hset⟩ := clearAll_ok hclear
  obtain ⟨hstore', hitems', hreapplied⟩ := applyAll_ok happly hset htrimmed
  have hnarrowed : w.scene.throughEach w.collection.facets v.collection.items =
      .ok w.collection.restricted := by
    rw [hitems.trans hitems']
    exact (upToDate_batch happly).narrowed
  refine ⟨hreapplied, hnarrowed, fun ⟨hfacets, _⟩ f hf huser => ?_, fun hderived => ?_⟩
  · obtain ⟨n, hn⟩ := List.mem_iff_getElem?.mp hf
    obtain ⟨g, hg, hrestricts, -⟩ := forall₂_getElem? hfacets hn
    obtain ⟨g', hg', hfg⟩ := forall₂_getElem? hreapplied hn
    cases hg.symm.trans hg'
    rw [← hrestricts, hfg.restricts, huser, Bool.not_false, Bool.or_true]
  · have hrestricts {f g : Facet} (hf : f ∈ v.collection.facets) (hfg : f.Reapplied g) :
        g.hasRestrictions = f.hasRestrictions := by
      rw [hfg.restricts]
      cases huser : f.isForUser with
      | true => rw [Bool.not_true, Bool.or_false]
      | false => rw [hderived f hf huser, Bool.true_or]
    refine ⟨forall₂_imp_of_mem hreapplied fun f hf g _ hfg => ⟨hrestricts hf hfg, hfg.state⟩, ?_⟩
    rw [hrest.isMatching items hworks]
    have hsteps := (goesBySteps_clearAll v).trans
      (goesBySteps_applyAll (v.collection.facets.map Facet.exportState) _)
    rw [hclear, happly] at hsteps
    have htrue' : w.AllKeepTrue := keepsTrue_steps hsteps htrue
    refine (Scene.throughEach_of_agree ?_ hworks hnarrowed).symm
    refine forall₂_imp_of_mem hreapplied fun f hf g hg hfg =>
      ⟨(hrestricts hf hfg).symm, fun hr hleft hleft' => ?_⟩
    have hscene : v.scene.Alike w.scene := ⟨hstore.trans hstore', hitems.trans hitems'⟩
    exact hfg.restrict hr hscene (Facet.keepsTrue_iff.mp (htrue f hf)).1
      (Facet.keepsTrue_iff.mp (htrue' g hg)).1 hleft hleft'

/-! ## 4. A collection of colours -/

/-- The facet through which a collection of colours is to narrow the plants. It allows all of them so
    far. -/
def hues : Facet :=
  .derived (.new "collection:hues" ⟨".colour", .path ⟨none, [⟨"colour", true, false⟩]⟩⟩)

/-- The plants with that facet. -/
def allowingAll : List Turn :=
  [⟨none, .call (.setRoot (KeySet.ofList ["ash", "rose"]))⟩, ⟨none, .call (.addFacet hues)⟩]

/-- The same after grey and red have been allowed, and red has been selected by a user. -/
def allowingBoth : List Turn :=
  allowingAll ++
    [⟨none, .call (.changeFacet "collection:hues"
        (.restrictTo (some (KeySet.ofList ["grey", "red"]))))⟩,
      ⟨none, .call (.addFacet (colours "byColour"))⟩,
      ⟨none, .call (.changeFacet "byColour" (.select (KeySet.ofList ["red"]) false))⟩]

/-- The plants after these turns. -/
def allowed (turns : List Turn) : View :=
  Turn.afterAll turns ⟨plants, Collection.new "plants" .allItems⟩

theorem usual_allowingBoth : ∀ t ∈ allowingBoth, t.Usual := by
  intro t ht
  simp only [allowingBoth, allowingAll, List.cons_append, List.nil_append, List.mem_cons,
    List.not_mem_nil, or_false] at ht
  rcases ht with rfl | rfl | rfl | rfl | rfl
  all_goals exact ⟨⟨by trivial, nofun⟩, trivial, trivial⟩

/-- Where grey and red are allowed, the rose is left before and after. -/
theorem reapplied_allowingBoth :
    (∀ t ∈ allowingBoth, t.Usual) ∧
      ∃ items states u w,
        (allowed allowingBoth).scene.throughEach (allowed allowingBoth).collection.facets
          (allowed allowingBoth).collection.items = .ok items ∧
        clearAll (allowed allowingBoth) = (.ok states, u) ∧ applyAll states u = (.ok (), w) ∧
        (allowed allowingBoth).collection.restricted.toList = ["rose"] ∧
        w.collection.restricted = (allowed allowingBoth).collection.restricted := by
  obtain ⟨items, hworks⟩ : ∃ items, (allowed allowingBoth).scene.throughEach
      (allowed allowingBoth).collection.facets (allowed allowingBoth).collection.items =
        .ok items := ⟨_, rfl⟩
  have hboth : (clearAll >>= applyAll) (allowed allowingBoth) = (.ok (), _) :=
    eq_of_isOk (by decide +kernel)
  obtain ⟨states, u, hclear, happly⟩ := bind_ok hboth
  have hrestricts : ((allowed allowingBoth).collection.facets.all fun f =>
      f.isForUser || f.hasRestrictions) = true := by decide +kernel
  obtain ⟨-, -, hiff⟩ := reapplied_iff usual_allowingBoth rfl hworks hclear happly
  refine ⟨usual_allowingBoth, items, states, u, _, hworks, hclear, happly, by decide +kernel,
    (hiff.mpr fun f hf huser => ?_).2⟩
  have hor := List.all_eq_true.mp hrestricts f hf
  rwa [huser, Bool.false_or] at hor

/-- **All values were allowed, and then none is.** -/
theorem nothing_after_reapplying :
    ((clearAll >>= applyAll) (allowed allowingAll)).1.isOk = true ∧
      (allowed allowingAll).collection.facets.map Facet.hasRestrictions = [false] ∧
      (allowed allowingAll).collection.restricted.toList = ["ash", "rose"] ∧
      ((clearAll >>= applyAll) (allowed allowingAll)).2.collection.facets.map Facet.hasRestrictions =
        [true] ∧
      ((clearAll >>= applyAll) (allowed allowingAll)).2.collection.restricted.toList = [] := by
  decide +kernel

end Faceted
