import Faceted.Proofs.Collection.Current
import Faceted.Proofs.Collection.InLine

/-!
# What a collection offers

Through its derived facets a collection offers its items to others, to each of them what all facets but
its own let through. A derived facet remembers what it was handed last, and that is what it offers.
Calls that succeed see to it that this is what the other facets let through now. So what the facet of
one collection lets through plays no part in what that collection is offered.

* `Collection.offer`: what is offered through the facet with an id;
* `View.Offered`: every derived facet remembers what the other facets let through;
* `offered_setRoot`, **`offered_changeFacetBy`**, `offered_addFacet`, `offered_removeFacet`,
  `offered_restoreFacets`: every call that succeeds keeps that or brings it about;
* **`offer_of_own_change`**: whatever is done to a facet, it goes on offering the same.
-/

namespace Faceted

open Faceted.Action Faceted.Expression

/-! ## 1. Offers -/

namespace Facet

/-- A derived facet remembers the items. -/
def Remembers (f : Facet) (items : KeySet) : Prop := ∀ g, f = .derived g → g.candidates = items

/-- What the facet offers: the items that it remembers, to be taken by its expression. -/
def offer : Facet → Option (Expression × KeySet)
  | .derived f => some (f.expression, f.candidates)
  | _ => none

theorem Remembers.congr {f g : Facet} {items : KeySet} (hf : f.Remembers items)
    (hshown : f.shown = g.shown) : g.Remembers items := by
  rintro g rfl
  cases f with
  | derived f => exact (Shown.candidates.inj hshown).symm.trans (hf f rfl)
  | _ => cases hshown

theorem UpToDate.remembers {f : Facet} {scene : Scene} {items : KeySet} (h : f.UpToDate scene items) :
    f.Remembers items := by
  rintro g rfl
  exact (Shown.candidates.inj (Except.ok.inj h)).symm

/-- A facet offers what it remembers, if it is there for another collection. -/
theorem Remembers.offer {f : Facet} {items : KeySet} (hf : f.Remembers items) :
    f.offer = f.role.2.map fun e => (e, items) := by
  cases f with
  | derived f =>
    show some (f.expression, f.candidates) = some (f.expression, items)
    rw [hf f rfl]
  | _ => rfl

theorem offer_eq_none {f : Facet} (h : f.role.2 = none) : f.offer = none := by
  cases f <;> first | rfl | cases h

end Facet

namespace Collection

/-- What the collection offers through the facet with the id. -/
def offer (c : Collection) (id : String) : Option (Expression × KeySet) := (c.facet? id).bind Facet.offer

theorem offer_eq_some {c : Collection} {id : String} {o : Expression × KeySet} :
    c.offer id = some o ↔ ∃ f, c.facet? id = some (.derived f) ∧ (f.expression, f.candidates) = o := by
  unfold offer
  rw [Option.bind_eq_some_iff]
  constructor
  · rintro ⟨f, hf, ho⟩
    cases f with
    | derived f => exact ⟨f, hf, Option.some.inj ho⟩
    | _ => cases ho
  · rintro ⟨f, hf, rfl⟩
    exact ⟨_, hf, rfl⟩

/-- The offers depend on the ids of the facets and on what each of them offers. -/
theorem offer_congr {c d : Collection} (h : c.facets.map (fun f => (f.id, f.offer)) =
    d.facets.map fun f => (f.id, f.offer)) (id : String) : c.offer id = d.offer id := by
  have hoffer (c : Collection) : c.offer id =
      ((c.facets.map fun f => (f.id, f.offer)).find? fun p => p.1 == id).bind Prod.snd := by
    rw [List.find?_map, Option.bind_map]
    rfl
  rw [hoffer, hoffer, h]

theorem facet?_of_place? {c : Collection} {id : String} {place : Nat} (h : c.place? id = some place) :
    c.facet? id = c.facets[place]? := by
  obtain ⟨hlt, hid, hbefore⟩ := List.findIdx?_eq_some_iff_getElem.mp h
  rw [List.getElem?_eq_getElem hlt]
  refine List.find?_eq_some_iff_getElem.mpr ⟨hid, place, hlt, rfl, fun j hj => ?_⟩
  simpa using hbefore j hj

/-- A facet that has come offers nothing under another id. -/
theorem offer_pushFacet {c : Collection} {f : Facet} {id : String}
    (h : f.id ≠ id ∨ f.offer = none) : (c.pushFacet f).offer id = c.offer id := by
  show ((c.facets ++ [f]).find? _).bind Facet.offer = (c.facets.find? _).bind Facet.offer
  rw [List.find?_append]
  cases c.facets.find? fun g => g.id == id with
  | some g => rfl
  | none =>
    rw [Option.none_or, List.find?_singleton]
    split
    · next hid =>
      have hid : f.id = id := eq_of_beq hid
      exact h.resolve_left fun hne => hne hid
    · rfl

/-- A facet that has gone leaves the offers of the others. -/
theorem offer_of_dropFacet {c : Collection} (hc : (c.facets.map Facet.id).Nodup) {id gone : String}
    {o : Expression × KeySet} (h : (c.dropFacet gone).offer id = some o) : c.offer id = some o := by
  obtain ⟨f, hf, rfl⟩ := offer_eq_some.mp h
  refine offer_eq_some.mpr ⟨f, ?_, rfl⟩
  have hmem : Facet.derived f ∈ c.facets := List.mem_of_mem_eraseP (List.mem_of_find?_eq_some hf)
  have hid : (Facet.derived f).id = id := by simpa using List.find?_some hf
  have hfound := facet?_of_mem hc (List.suffix_refl _) hmem
  rw [hid] at hfound
  exact hfound

end Collection

/-! ## 2. Remembering -/

namespace View

variable {v w : View}

/-- Every derived facet remembers what the other facets let through. -/
def Offered (v : View) : Prop := v.EachWithOthers Facet.Remembers

theorem UpToDate.offered (hv : v.UpToDate) : v.Offered := by
  intro place f hf
  obtain ⟨input, hinput, hfacet⟩ := hv.shown place f hf
  exact ⟨input, hinput, hfacet.remembers⟩

/-- The facets go on remembering, where everything stands as it did and the same is shown. -/
theorem Offered.congr (hv : v.Offered) (h : v.Same w)
    (hshown : v.collection.facets.map Facet.shown = w.collection.facets.map Facet.shown) :
    w.Offered := by
  intro place g hg
  have hat := congrArg (fun shown => shown[place]?) hshown
  simp only [List.getElem?_map, hg, Option.map_some] at hat
  obtain ⟨f, hf, hfg⟩ := Option.map_eq_some_iff.mp hat
  obtain ⟨input, hinput, hfacet⟩ := hv place f hf
  exact ⟨input, (h.throughOthers place).symm.trans hinput, hfacet.congr hfg⟩

/-- **The clock** leaves every derived facet with what the others let through, unless one of these asks
    for the time. -/
theorem Offered.atMoment (hv : v.Offered) (hasks : v.asksTime = false) (moment : Int) :
    (v.atMoment moment).Offered := by
  intro place f hf
  obtain ⟨input, hinput, hfacet⟩ := hv place f hf
  refine ⟨input, ?_, hfacet⟩
  exact (Scene.throughEach_atMoment (fun g hg => asksTime_eq_false hasks (List.mem_of_mem_eraseIdx hg))
    v.scene moment v.collection.items).symm.trans hinput

theorem offered_of_alike {s t : Store} {c : Collection} (h : s.Alike t) (hc : Offered ⟨s, c⟩) :
    Offered ⟨t, c⟩ :=
  hc.congr (same_of_store (v := ⟨s, c⟩) h) rfl

theorem offered_refresh (h : refresh v = (.ok (), w)) (hv : v.collection.updating = false) :
    w.Offered := (refresh_upToDate h hv).offered

theorem offered_setRoot {items : KeySet} (h : setRoot items v = (.ok (), w))
    (hv : v.collection.updating = false) : w.Offered :=
  (upToDate_rootChanged (v := v.withItems items) h hv).offered

theorem offered_reroot (h : reroot v = (.ok (), w)) (hv : v.collection.updating = false) :
    w.Offered :=
  (upToDate_rootChanged (v := v.withItems v.rootItems) h hv).offered

/-- **What is done to a facet** leaves every derived facet with what the others let through. -/
theorem offered_changeFacetBy {id : String} {act : Facet → Scene → Outcome Bool × Facet}
    {changed : Bool} (h : changeFacetBy id act v = (.ok changed, w)) (hact : ReportsChanges act)
    (hupdating : v.collection.updating = false) (hv : v.Offered) : w.Offered := by
  obtain ⟨place, f, -, hf, hanswer, ⟨rfl, rfl⟩ | ⟨rfl, hchanged⟩⟩ := changeFacetBy_cases h
  · obtain ⟨htwin, hshown⟩ := twin_of_unreported hact hf hanswer
    exact hv.congr htwin.same hshown
  · rw [facetChanged_of_updating (v := v.actedAt place act f) hupdating] at hchanged
    exact offered_refresh hchanged hupdating

theorem offered_addFacet {f : Facet} (h : addFacet f v = (.ok (), w)) (hline : v.InLine)
    (hv : v.Offered) : w.Offered := by
  obtain ⟨-, ⟨-, hrefresh⟩ | ⟨hr, g, store, hupdate, rfl⟩⟩ := addFacet_cases h
  · exact offered_refresh hrefresh hline.updating
  · have hsettled := f.settled_update v.scene v.collection.restricted
    have hstore := f.update_store_alike v.scene v.collection.restricted
    have hok : (f.update v.scene v.collection.restricted).1 = .ok () := by rw [hupdate]
    have hfacet := Facet.upToDate_update hok
    rw [hupdate] at hsettled hstore hfacet
    have hsame : v.Same { v with store } := same_of_store hstore
    have hnarrowed : ({ v with store } : View).scene.throughEach v.collection.facets
        v.collection.items = .ok v.collection.restricted := by
      rw [← hline.narrowed]
      exact (hsame.throughEach _).symm
    exact (offered_of_alike hstore hv).pushFacet hnarrowed
      ((Facet.hasRestrictions_congr hsettled).trans hr) hfacet.remembers

theorem offered_removeFacet {id : String} {f : Facet} (h : removeFacet id v = (.ok (some f), w))
    (hupdating : v.collection.updating = false) (hv : v.Offered) : w.Offered := by
  obtain ⟨hf, ⟨-, hrefresh⟩ | ⟨hr, rfl⟩⟩ := removeFacet_cases h
  · exact offered_refresh hrefresh hupdating
  · exact EachWithOthers.dropFacet hv hf hr

theorem offered_restoreFacets {s : BrowserState} {changed : Bool}
    (h : Browser.restoreFacets s v = (.ok changed, w)) : w.Offered := by
  obtain ⟨_, _, hstate, hbatch⟩ := bind_ok h
  cases hstate
  exact (upToDate_batch hbatch).offered

/-! ## 3. Going on offering -/

/-- Where everything stands as it did, the same is offered. -/
theorem offer_of_same (h : v.Same w) (hv : v.Offered) (hw : w.Offered) (id : String) :
    w.collection.offer id = v.collection.offer id := by
  refine (Collection.offer_congr (List.ext_getElem? fun place => ?_) id).symm
  have hat := congrArg (fun roles => roles[place]?) h.roles
  simp only [List.getElem?_map] at hat ⊢
  cases hf : v.collection.facets[place]? with
  | none =>
    rw [hf] at hat
    rw [Option.map_eq_none_iff.mp hat.symm]
  | some f =>
    rw [hf] at hat
    obtain ⟨g, hg, hrole⟩ := Option.map_eq_some_iff.mp hat.symm
    obtain ⟨input, hinput, hfacet⟩ := hv place f hf
    obtain ⟨input', hinput', hfacet'⟩ := hw place g hg
    rw [← h.throughOthers, hinput] at hinput'
    obtain rfl := Except.ok.inj hinput'
    have hid : g.id = f.id := by rw [← role_fst, ← role_fst, hrole]
    rw [hg, Option.map_some, Option.map_some, hid, hfacet.offer, hfacet'.offer, hrole]

/-- A facet that has come without restricting leaves the offers of the others. -/
theorem offer_addFacet {f : Facet} {id : String} (h : addFacet f v = (.ok (), w))
    (hr : f.hasRestrictions = false) (hf : f.id ≠ id ∨ f.role.2 = none) :
    w.collection.offer id = v.collection.offer id := by
  obtain ⟨-, ⟨hr', -⟩ | ⟨-, g, store, hupdate, rfl⟩⟩ := addFacet_cases h
  · rw [hr] at hr'
    cases hr'
  · have hsettled := f.settled_update v.scene v.collection.restricted
    rw [hupdate] at hsettled
    have hrole : g.role = f.role := by
      rw [← Facet.role_settled g v.scene, hsettled, Facet.role_settled]
    refine Collection.offer_pushFacet (hf.imp (fun hne => ?_) fun hnone => ?_)
    · rw [← role_fst, hrole, role_fst]
      exact hne
    · exact Facet.offer_eq_none (by rw [hrole]; exact hnone)

theorem Reworked.throughOthers (h : v.Reworked w) (place : Nat) :
    v.throughOthers place = w.throughOthers place :=
  Same.throughOthers (v := v.withRestricted w.collection.restricted) h place

/-- **A facet goes on offering the same**, whatever is done to it. -/
theorem offer_of_own_change {id : String} {act : Facet → Scene → Outcome Bool × Facet}
    {changed : Bool} (h : changeFacetBy id act v = (.ok changed, w)) (hact : Sound act)
    (hupdating : v.collection.updating = false) (hv : v.Offered) (hw : w.Offered) :
    w.collection.offer id = v.collection.offer id := by
  obtain ⟨place, f, hplace, hf, hanswer, ⟨rfl, rfl⟩ | ⟨rfl, hchanged⟩⟩ := changeFacetBy_cases h
  · exact offer_of_same (same_of_unreported hact.truthful hf hanswer) hv hw id
  · rw [facetChanged_of_updating (v := v.actedAt place act f) hupdating] at hchanged
    obtain ⟨hreworked, -⟩ := refresh_ok hchanged
    have hroles := (kin_actedAt hact hf).roles.trans hreworked.roles
    -- the facet is left out of what the others let through, so nothing is done to that
    have hothers : v.throughOthers place = w.throughOthers place := by
      rw [← hreworked.throughOthers]
      unfold throughOthers others
      show _ = v.scene.throughEach ((v.collection.facets.set place _).eraseIdx place) _
      rw [List.eraseIdx_set_eq]
      rfl
    have hat := congrArg (fun roles => roles[place]?) hroles
    simp only [List.getElem?_map, hf, Option.map_some] at hat
    obtain ⟨g, hg, hrole⟩ := Option.map_eq_some_iff.mp hat.symm
    have hplace' : w.collection.place? id = some place := by
      have hids := ids_eq_of_roles hroles
      have hfind (c : Collection) : c.place? id = (c.facets.map Facet.id).findIdx? (· == id) := by
        rw [List.findIdx?_map]
        rfl
      rw [hfind, ← hids, ← hfind]
      exact hplace
    obtain ⟨input, hinput, hfacet⟩ := hv place f hf
    obtain ⟨input', hinput', hfacet'⟩ := hw place g hg
    rw [← hothers, hinput] at hinput'
    obtain rfl := Except.ok.inj hinput'
    unfold Collection.offer
    rw [Collection.facet?_of_place? hplace, Collection.facet?_of_place? hplace', hf, hg,
      Option.bind_some, Option.bind_some, hfacet.offer, hfacet'.offer, hrole]

end View

end Faceted
