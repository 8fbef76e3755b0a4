import Faceted.Proofs.Browser.Anchored

/-!
# Facets that get lost

That a restricting collection has lost its facet on its base is a failure of its own. The facet gets
lost by a removal that is aimed at it and by nothing else, and there is no way to bring it back.

* `HasLost`: a collection narrows its base, which has no facet for that;
* `HasLost.reshaped`: so it is after every step, whatever fails;
* **`lostFacet_iff`**: a facet is lost exactly if its removal has been asked for; then no refresh of
  all collections succeeds;
* **`authors_lost`**: such a removal.
-/

namespace Faceted

open Faceted.Action
open Faceted.Facet (lasting_becomes)

/-! ## 1. What stays lost -/

namespace Browser

variable {b b' : Browser} {collection base : String}

/-- The collection narrows its base, on which there is no facet for that. -/
structure HasLost (b : Browser) (collection base : String) : Prop where
  narrows : b.Narrows collection base
  missing : ∀ d ∈ b.collections, d.id = base →
    ∀ e, (derivedId collection, some e) ∉ d.facets.map Facet.role

theorem Narrows.retains (h : b.Narrows collection base)
    (hbb' : List.Forall₂ (Collection.Retains Facet.Becomes) b.collections b'.collections) :
    b'.Narrows collection base := by
  obtain ⟨c, hc, hid, e, hsource⟩ := h
  obtain ⟨c', hc', hcc'⟩ := forall₂_mem hbb' hc
  exact ⟨c', hc', hcc'.id.symm.trans hid, e, hcc'.source.symm.trans hsource⟩

theorem Narrows.set (h : b.Narrows collection base) {place : Nat} {c d : Collection}
    (hc : b.collections[place]? = some c) (hid : d.id = c.id) (hsource : d.source = c.source) :
    Narrows { b with collections := b.collections.set place d } collection base := by
  obtain ⟨c', hc', hid', e, hsource'⟩ := h
  obtain ⟨q, hq⟩ := List.mem_iff_getElem?.mp hc'
  by_cases hqplace : place = q
  · subst hqplace
    obtain rfl := Option.some.inj (hc.symm.trans hq)
    have hlt := (List.getElem?_eq_some_iff.mp hc).1
    exact ⟨d, List.mem_set hlt d, hid.trans hid', e, hsource.trans hsource'⟩
  · exact ⟨c', List.mem_of_getElem? ((List.getElem?_set_ne hqplace).trans hq), hid', e, hsource'⟩

/-- What is lost stays lost where no facet comes in for that collection. -/
theorem HasLost.of_roles (h : b.HasLost collection base) (hnarrows : b'.Narrows collection base)
    (hroles : ∀ d' ∈ b'.collections, ∀ e, (derivedId collection, some e) ∈ d'.facets.map Facet.role →
      ∃ d ∈ b.collections, d.id = d'.id ∧ (derivedId collection, some e) ∈ d.facets.map Facet.role) :
    b'.HasLost collection base where
  narrows := hnarrows
  missing d' hd' hbase e hrole := by
    obtain ⟨d, hd, hid, hrole⟩ := hroles d' hd' e hrole
    exact h.missing d hd (hid.trans hbase) e hrole

theorem HasLost.retains (h : b.HasLost collection base)
    (hbb' : List.Forall₂ (Collection.Retains Facet.Becomes) b.collections b'.collections) :
    b'.HasLost collection base := by
  refine h.of_roles (h.narrows.retains hbb') fun d' hd' e hrole => ?_
  obtain ⟨d, hd, hdd'⟩ := forall₂_mem hbb'.flip hd'
  have hsame : d.facets.map Facet.role = d'.facets.map Facet.role :=
    map_eq_of_forall₂ (Collection.Retains.facets hdd') fun _ _ h => (Facet.Becomes.role h).symm
  exact ⟨d, hd, Collection.Retains.id hdd', hsame ▸ hrole⟩

/-- A collection with the same name and source takes the place of another, and has no facet for the
    collection that the other has not. -/
theorem HasLost.set (h : b.HasLost collection base) {place : Nat} {c d : Collection}
    (hc : b.collections[place]? = some c) (hid : d.id = c.id) (hsource : d.source = c.source)
    (hroles : ∀ e, (derivedId collection, some e) ∈ d.facets.map Facet.role →
      (derivedId collection, some e) ∈ c.facets.map Facet.role) :
    HasLost { b with collections := b.collections.set place d } collection base := by
  refine h.of_roles (h.narrows.set hc hid hsource) fun d' hd' e hrole => ?_
  rcases List.mem_or_eq_of_mem_set hd' with hd' | rfl
  · exact ⟨d', hd', rfl, hrole⟩
  · exact ⟨c, List.mem_of_getElem? hc, hid.symm, hroles e hrole⟩

theorem mem_roles_pushFacet {c : Collection} {f : Facet} {r : String × Option Expression}
    (h : r ∈ (c.pushFacet f).facets.map Facet.role) (hf : r ≠ f.role) : r ∈ c.facets.map Facet.role := by
  have hpushed : r ∈ (c.facets ++ [f]).map Facet.role := h
  rw [List.map_append, List.mem_append] at hpushed
  exact hpushed.resolve_right fun hmem => hf (List.mem_singleton.mp hmem)

/-- The facet for another collection does not bring back what is lost. -/
theorem HasLost.withNewDerived {id : String} {source : ItemSource} (h : b.HasLost collection base)
    (hne : collection ≠ id) (hadmits : b.Admits id source) :
    HasLost { b with collections := b.withNewDerived id source } collection base := by
  rcases hadmits.withNewDerived_cases with ⟨-, hsame⟩ | ⟨e, place, d, -, hd, -, hset⟩
  · rw [hsame]
    exact h
  · rw [hset]
    refine h.set hd rfl rfl fun e' hrole => mem_roles_pushFacet hrole fun heq => hne ?_
    exact (String.append_right_inj "collection:").mp (congrArg Prod.fst heq)

/-- Another collection comes without facets. -/
theorem HasLost.halfMade {id : String} {source : ItemSource} (h : b.HasLost collection base)
    (hnew : b.collection? id = none) (hadmits : b.Admits id source) :
    (b.halfMade id source).HasLost collection base := by
  obtain ⟨c, hc, hcid, -⟩ := h.narrows
  have hne : collection ≠ id := by
    rintro rfl
    obtain ⟨q, hq⟩ := List.mem_iff_getElem?.mp hc
    exact idAt_ne_of_collection? hnew q ((idAt_of_getElem? hq).trans (congrArg some hcid))
  have hderived := h.withNewDerived hne hadmits
  obtain ⟨c', hc', hnarrows⟩ := hderived.narrows
  refine hderived.of_roles ⟨c', List.mem_append_left _ hc', hnarrows⟩ fun d' hd' e hrole => ?_
  rcases List.mem_append.mp hd' with hd' | hd'
  · exact ⟨d', hd', rfl, hrole⟩
  · rw [List.mem_singleton.mp hd'] at hrole
    cases hrole

/-- **What is lost stays lost**: a facet for a collection comes only with that collection. -/
theorem HasLost.reshaped (h : b.HasLost collection base) (hbb' : b.Reshaped b') :
    b'.HasLost collection base := by
  cases hbb' with
  | kept hrest => exact h.retains hrest
  | @attached place n c config settings f hc hf _ hrest =>
    have hpushed : HasLost { b with collections := b.collections.set place (c.pushFacet f) }
        collection base := by
      refine h.set hc rfl rfl fun e hrole => mem_roles_pushFacet hrole fun heq => ?_
      have hnone := Facet.role_build hf
      rw [← heq] at hnone
      cases hnone
    exact hpushed.retains hrest
  | @detached place c id hc hrest =>
    have hdropped : HasLost { b with collections := b.collections.set place (c.dropFacet id) }
        collection base :=
      h.set hc rfl rfl fun e hrole => (List.eraseP_sublist.map Facet.role).subset hrole
    exact hdropped.retains hrest
  | created hnew hadmits hrest => exact (h.halfMade hnew hadmits).retains hrest

/-- No facet has the id that has been removed. -/
theorem not_mem_roles_dropFacet {c : Collection} {id : String} (hids : (c.facets.map Facet.id).Nodup)
    (e : Option Expression) : (id, e) ∉ (c.dropFacet id).facets.map Facet.role := by
  intro hrole
  obtain ⟨f, hf, hfrole⟩ := List.mem_map.mp hrole
  have hid : f.id = id := (role_fst f).symm.trans (congrArg Prod.fst hfrole)
  have hmem : f.id ∈ (c.dropFacet id).facets.map Facet.id := List.mem_map_of_mem hf
  rw [ids_dropFacet, hid] at hmem
  exact hids.not_mem_erase hmem

/-- **The removal** of the facet of a collection loses it. -/
theorem hasLost_removeFacet (hb : b.Named) (h : b.Narrows collection base) :
    (removeFacet base (derivedId collection) b).2.HasLost collection base := by
  show (detachFacet base (derivedId collection) b).2.HasLost collection base
  cases hplace : b.placeOf base with
  | error failure =>
    rw [detachFacet_of_unplaced hplace]
    refine ⟨h, fun d hd hid => ?_⟩
    obtain ⟨q, hq⟩ := List.mem_iff_getElem?.mp hd
    rw [← hid, hb.placeOf hq] at hplace
    cases hplace
  | ok place =>
    obtain ⟨-, c, hc, rfl⟩ := placeOf_ok hplace
    have hlt := (List.getElem?_eq_some_iff.mp hc).1
    suffices hdropped : HasLost
        { b with collections := b.collections.set place (c.dropFacet (derivedId collection)) }
        collection c.id from hdropped.retains (lasts_detachFacet hplace hc)
    refine ⟨h.set hc rfl rfl, fun d hd hid e => ?_⟩
    obtain ⟨q, hq⟩ := List.mem_iff_getElem?.mp hd
    by_cases hqplace : place = q
    · subst hqplace
      rw [List.getElem?_set_self hlt] at hq
      obtain rfl := Option.some.inj hq
      exact not_mem_roles_dropFacet (hb.ids_nodup hc) (some e)
    · rw [List.getElem?_set_ne hqplace] at hq
      have hplace' := hb.placeOf hq
      rw [hid, hplace] at hplace'
      exact absurd (Except.ok.inj hplace') hqplace

end Browser

/-! ## 2. The statement -/

namespace Browser

open BrowserStep

variable {b : Browser} {collection base : String}

theorem anchored_start (settings : Settings) (present : Int) (gone : String → String → Prop) :
    (start settings present).Anchored gone where
  named := named_start settings present
  kept c hc e base hsource := by
    rw [List.mem_singleton.mp hc] at hsource
    cases hsource

/-- What is lost is still lost after any steps. -/
theorem HasLost.afterAll {steps : List BrowserStep} (huses : ∀ step ∈ steps, step.GoesByUses)
    (h : b.HasLost collection base) : (afterAll steps b).HasLost collection base := by
  induction steps generalizing b with
  | nil => exact h
  | cons step rest ih =>
    obtain ⟨hfirst, hrest⟩ := List.forall_mem_cons.mp huses
    exact ih hrest (h.reshaped (reshaped_after hfirst b))

/-- The removal of the facet of a collection, whatever comes after it, loses the facet. -/
theorem hasLost_of_detaches {first : Browser} (hfirst : first.Named) {steps : List BrowserStep}
    (huses : ∀ step ∈ steps, step.GoesByUses) (h : Detaches first steps collection base) :
    (BrowserStep.afterAll steps first).HasLost collection base := by
  obtain ⟨front, ⟨rest, rfl⟩, hnarrows⟩ := h
  have hfront : (BrowserStep.afterAll front first).Named :=
    named_afterAll (fun step hstep => huses step (by simp [hstep])) hfirst
  have hlost : ((BrowserStep.operation (.removeFacet base (derivedId collection))).after
      (BrowserStep.afterAll front first)).HasLost collection base := by
    show ((removeFacet base (derivedId collection) >>= fun _ => pure ()) _).2.HasLost collection base
    rw [snd_bind_pure]
    exact hasLost_removeFacet hfront hnarrows
  have hrest := hlost.afterAll fun step (hstep : step ∈ rest) => huses step (by simp [hstep])
  unfold BrowserStep.afterAll
  rw [List.foldl_append, List.foldl_append]
  exact hrest

/-- What is missing in an anchored browser has gone. -/
theorem gone_of_hasLost {gone : String → String → Prop} (hb : b.Anchored gone)
    (h : b.HasLost collection base) : gone collection base := by
  obtain ⟨c, hc, rfl, e, hsource⟩ := h.narrows
  rcases hb.kept c hc e base hsource with ⟨d, hd, hid, hrole⟩ | hgone
  · exact absurd hrole (h.missing d hd hid e)
  · exact hgone

/-- Where the facet is lost, the root of the collection cannot be worked out. -/
theorem HasLost.basedRoot {c : Collection} {place : Nat} {e : Expression} (h : b.HasLost c.id base)
    (hc : b.collections[place]? = some c) (hsource : c.source = .based e base true)
    (root : Option KeySet) : b.basedRoot place ≠ .ok root := by
  intro hroot
  cases hd : b.collection? base with
  | none =>
    rw [basedRoot_of_missing hc hsource hd] at hroot
    cases hroot
  | some d =>
    rw [basedRoot_of_restricting hc hsource hd] at hroot
    split at hroot
    · next f hf =>
      have hid : d.id = base := by simpa using List.find?_some hd
      have hfid : f.id = derivedId c.id := by simpa [Facet.id] using List.find?_some hf
      have hrole := List.mem_map_of_mem (f := Facet.role) (List.mem_of_find?_eq_some hf)
      refine h.missing d (List.mem_of_find?_eq_some hd) hid f.expression ?_
      rw [← hfid]
      exact hrole
    · cases hroot

/-- **Once a facet is lost**, no refresh of all collections succeeds. -/
theorem refreshAll_of_lost (h : b.HasLost collection base) : (refreshAll b).1.isOk = false := by
  obtain ⟨c, hc, rfl, e, hsource⟩ := h.narrows
  obtain ⟨place, hplace⟩ := List.mem_iff_getElem?.mp hc
  by_contra hok
  rw [Bool.not_eq_false] at hok
  have heach : each reroot b.places b = (.ok (), (refreshAll b).2) := eq_of_isOk hok
  have hmem : place ∈ b.places := List.mem_range.mpr (List.getElem?_eq_some_iff.mp hplace).1
  -- what has been done before leaves the facet lost
  obtain ⟨u, v, hbu, hreroot⟩ :=
    (frame_lasts lasting_becomes).each_reaches (lasts_reroot lasting_becomes) heach hmem
  obtain ⟨c', hc', hcc'⟩ := forall₂_getElem? hbu hplace
  have hlost : u.HasLost c'.id base := hcc'.id ▸ h.retains hbu
  rw [reroot_apply] at hreroot
  cases hbased : u.basedRoot place with
  | ok root => exact hlost.basedRoot hc' (hcc'.source.symm.trans hsource) root hbased
  | error failure =>
    rw [hbased] at hreroot
    cases hreroot

/-- **A facet is lost exactly if its removal has been asked for** while its collection was there,
    whatever else is done to the browser, and whatever fails. Then no refresh of all collections
    succeeds; and a step that says that a facet is lost leaves it lost. -/
theorem lostFacet_iff {settings : Settings} {present : Int} {steps : List BrowserStep}
    (hsteps : ∀ step ∈ steps, step.IsCandid)
    (hb : b = afterAll steps (start settings present)) :
    (∀ {collection base},
        b.HasLost collection base ↔ Detaches (start settings present) steps collection base) ∧
      (∀ {collection base}, b.HasLost collection base → (refreshAll b).1.isOk = false) ∧
      ∀ {step : BrowserStep}, step.IsCandid → ∀ {collection base},
        (step.perform b).1 = .error (.lostFacet collection base) →
          (step.after b).HasLost collection base := by
  have hfirst := named_start settings present
  have hanchored := anchored_afterAll (anchored_start settings present _) hsteps
  have huses := fun step hstep => (hsteps step hstep).goesByUses
  subst hb
  refine ⟨⟨gone_of_hasLost hanchored, hasLost_of_detaches hfirst huses⟩, refreshAll_of_lost, ?_⟩
  intro step hstep collection base hperform
  have hfails := (guards_last hstep hanchored).1
  rw [hperform] at hfails
  have hall : ∀ step' ∈ steps ++ [step], step'.GoesByUses := fun step' hmem =>
    (List.mem_append.mp hmem).elim (huses step') fun h => List.mem_singleton.mp h ▸ hstep.goesByUses
  have hlost := hasLost_of_detaches hfirst hall (hfails _ rfl collection base rfl)
  unfold BrowserStep.afterAll at hlost
  rw [List.foldl_append] at hlost
  exact hlost

/-- The authors narrow the books, until the facet through which they do is removed. -/
def detaching : List BrowserStep :=
  [.operation (.load books none), .operation (.createCollection authors),
    .operation (.removeFacet defaultId (derivedId "authors"))]

/-- The books once more. -/
def reloading : BrowserStep := .operation (.load books none)

theorem lostFacet_detaching :
    (afterAll detaching library).HasLost "authors" defaultId ∧
      (refreshAll (afterAll detaching library)).1.isOk = false ∧
        (reloading.after (afterAll detaching library)).HasLost "authors" defaultId := by
  have hsteps : ∀ step ∈ detaching, step.IsCandid := by
    intro step hstep
    simp only [detaching, List.mem_cons, List.not_mem_nil, or_false] at hstep
    rcases hstep with rfl | rfl | rfl <;> trivial
  have hdetaches : Detaches library detaching "authors" defaultId :=
    ⟨detaching.take 2, List.prefix_rfl, by decide +kernel⟩
  obtain ⟨hiff, hrefresh, hsays⟩ := lostFacet_iff (b := afterAll detaching library) hsteps rfl
  have hlost := hiff.mpr hdetaches
  have hreloading : (reloading.perform (afterAll detaching library)).1 =
      .error (.lostFacet "authors" defaultId) := by decide +kernel
  have hcandid : reloading.IsCandid := trivial
  exact ⟨hlost, hrefresh hlost, hsays hcandid hreloading⟩

/-- **The authors lose their facet**, and no data can be loaded any more. -/
theorem authors_lost :
    (run [.load books none, .createCollection authors] library).1.isOk = true ∧
      (removeFacet defaultId (derivedId "authors") (afterAll (detaching.take 2) library)).1.toOption =
        some true ∧
      ((afterAll detaching library).collections.map fun c => (c.id, c.facets.map Facet.id)) =
        [(defaultId, []), ("authors", [])] ∧
      (reloading.perform (afterAll detaching library)).1 =
        .error (.lostFacet "authors" defaultId) := by
  decide +kernel

end Browser

end Faceted
