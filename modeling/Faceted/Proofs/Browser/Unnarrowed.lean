import Faceted.Proofs.Browser.HandedOver
import Faceted.Proofs.Browser.Offering

/-!
# Collections that do not narrow themselves

What is selected in a restricting collection narrows its base. That is passed on to all that depend on
the base, among them the collection itself, and if the base is a restricting collection it goes on to
the next one. The collection keeps its root on the way: what it is offered does not depend on what it
lets through.

* `Takes`: the collection at a place has the root that the one at another place offers it;
* `Held`: a set of places, each of which but the first takes its root from another one in the set;
  `Keeps`: the collections at these places are as they were;
* `propagateWithin_keeps`: passing on keeps them, **`settleWithin_keeps`**: so does bringing everything
  in line, which adds the base to the set and goes on from there;
* **`items_of_own_change`** is the statement, `items_of_pastMoment` a collection of moments that the clock
  gives another root.
-/

namespace Faceted

open Faceted.Action

/-- Whatever is done to a facet, no more than facets are others than before, apart from what comes of
    that. -/
theorem View.kin_of_changeFacetBy {v w : View} {id : String}
    {act : Facet → Scene → Outcome Bool × Facet} {changed : Bool}
    (h : changeFacetBy id act v = (.ok changed, w)) (hupdating : v.collection.updating = false) :
    ∃ facets, (v.withFacets facets).Kin w := by
  obtain ⟨place, f, -, -, -, hafter⟩ := changeFacetBy_cases h
  refine ⟨v.collection.facets.set place (act f v.scene).2, ?_⟩
  rcases hafter with ⟨-, rfl⟩ | ⟨-, hchanged⟩
  · exact (Same.refl (v.actedAt place act f)).kin
  · rw [facetChanged_of_updating (v := v.actedAt place act f) hupdating] at hchanged
    exact (refresh_ok hchanged).1.kin

namespace Browser

variable {b s t : Browser} {K : Nat → Prop} {low : Nat}

/-! ## 1. Places that are kept -/

/-- The collection at `q` has the root that the one at `p` offers it, if it is offered one. -/
def Takes (b : Browser) (q p : Nat) : Prop :=
  ∃ c d e, b.collections[p]? = some c ∧ b.collections[q]? = some d ∧ d.source = .based e c.id true ∧
    ∀ o, c.offer (derivedId d.id) = some o → ∀ items, taken b.store o = .ok items → items = d.items

/-- None of the places is before `low`, and all but `low` take their roots from places among them. -/
structure Held (b : Browser) (K : Nat → Prop) (low : Nat) : Prop where
  strict : b.settings.errors ≠ .log
  ordered : b.Ordered
  least : ∀ q, K q → low ≤ q
  takes : ∀ q, K q → q ≠ low → ∃ p, K p ∧ b.Takes q p

/-- The collections at the places are as they were. -/
structure Keeps (K : Nat → Prop) (b s : Browser) : Prop where
  settings : s.settings = b.settings
  advance : b.Advance s
  stands : ∀ q, K q → s.collections[q]? = b.collections[q]?

theorem Keeps.refl (K : Nat → Prop) (b : Browser) : Keeps K b b := ⟨rfl, Advance.refl b, fun _ _ => rfl⟩

theorem Keeps.trans (h : Keeps K b s) (h' : Keeps K s t) : Keeps K b t where
  settings := h'.settings.trans h.settings
  advance := h.advance.trans h'.advance
  stands q hq := (h'.stands q hq).trans (h.stands q hq)

theorem Keeps.mono {L : Nat → Prop} (h : Keeps K b s) (hLK : ∀ q, L q → K q) : Keeps L b s :=
  ⟨h.settings, h.advance, fun q hq => h.stands q (hLK q hq)⟩

theorem taken_alike {s t : Store} (h : s.Alike t) (o : Expression × KeySet) : taken t o = taken s o :=
  (DerivedFacet.valuesOf_alike h rfl o.2).symm

theorem Takes.congr {q p : Nat} (h : b.Takes q p) (hstore : b.store.Alike s.store)
    (hp : s.collections[p]? = b.collections[p]?) (hq : s.collections[q]? = b.collections[q]?) :
    s.Takes q p := by
  obtain ⟨c, d, e, hc, hd, hsource, hoffer⟩ := h
  refine ⟨c, d, e, hp.trans hc, hq.trans hd, hsource, fun o ho items hitems => ?_⟩
  rw [taken_alike hstore] at hitems
  exact hoffer o ho items hitems

/-- What is worked out for a collection that takes its root is the root that it has. -/
theorem Takes.items {q p : Nat} (h : b.Takes q p) (hb : b.Ordered) {d : Collection}
    (hd : b.collections[q]? = some d) {items : KeySet} (hroot : b.basedRoot q = .ok (some items)) :
    items = d.items := by
  obtain ⟨c, d', e, hc, hd', hsource, hoffer⟩ := h
  cases hd.symm.trans hd'
  obtain ⟨o, ho, hitems⟩ := (basedRoot_of_offer hb hc hd hsource).mp hroot
  exact hoffer o ho items hitems

theorem Held.keeps (hb : b.Held K low) (h : Keeps K b s) : s.Held K low where
  strict := by
    rw [h.settings]
    exact hb.strict
  ordered := h.advance.ordered hb.ordered
  least := hb.least
  takes q hq hne := by
    obtain ⟨p, hp, htakes⟩ := hb.takes q hq hne
    exact ⟨p, hp, htakes.congr h.advance.store (h.stands p hp) (h.stands q hq)⟩

/-- The base of the first place joins the places, if that takes its root from there. -/
theorem Held.join {on : Nat} (hb : b.Held K low) (hle : on ≤ low) (htakes : b.Takes low on) :
    b.Held (fun q => K q ∨ q = on) on where
  strict := hb.strict
  ordered := hb.ordered
  least q hq := by
    rcases hq with hq | rfl
    · exact Nat.le_trans hle (hb.least q hq)
    · exact Nat.le_refl q
  takes q hq hne := by
    have hq := hq.resolve_right hne
    by_cases hlow : q = low
    · exact ⟨on, .inr rfl, hlow ▸ htakes⟩
    · obtain ⟨p, hp, htakes⟩ := hb.takes q hq hlow
      exact ⟨p, .inl hp, htakes⟩

/-! ## 2. Passing on -/

theorem passInto_keeps {base : String} {onward : Nat → Action Browser Unit} {x : Nat}
    (hb : b.Held K low) (hx : low < x)
    (honward : ∀ {u t}, u.Held K low → onward x u = (.ok (), t) → Keeps K u t)
    (h : passInto base onward x b = (.ok (), s)) : Keeps K b s := by
  rcases passInto_ok h with ⟨rfl, -⟩ | ⟨d, items, u, hd, hroot, hne, hset, hrest⟩
  · exact Keeps.refl K s
  · have hobeys := (obeys_setRoot x items).ok hset
    have hu : Keeps K b u := by
      refine ⟨hobeys.1, hobeys.2 rfl hb.strict, fun q hq => ?_⟩
      -- a place that is kept has its root already
      have hqx : x ≠ q := by
        rintro rfl
        obtain ⟨p, -, htakes⟩ := hb.takes x hq (by omega)
        exact hne (htakes.items hb.ordered hd hroot)
      obtain ⟨w, -, rfl⟩ := onCollection_ok_of_some hd hset
      exact List.getElem?_set_ne hqx
    exact hu.trans (honward (hb.keeps hu) hrest)

/-- **Passing on** from a place that is not before all others keeps the places. -/
theorem propagateWithin_keeps (rounds : Nat) : ∀ {place : Nat} {b s : Browser}, b.Held K low →
    low ≤ place → propagateWithin rounds place b = (.ok (), s) → Keeps K b s := by
  induction rounds with
  | zero =>
    intro place b s _ _ h
    cases h
    exact Keeps.refl K b
  | succ rounds ih =>
    intro place b s hb hlow h
    cases hc : b.collections[place]? with
    | none =>
      rw [propagateWithin_of_none hc] at h
      cases h
      exact Keeps.refl K b
    | some c =>
      rw [propagateWithin_succ hc] at h
      refine (each_ok (I := fun left s => Keeps K b s ∧ ∀ x ∈ left, place < x)
        (fun {x rest u t} hleft hx => ?_) h ⟨Keeps.refl K b, fun x hx => ?_⟩).1
      · obtain ⟨hu, hlater⟩ := hleft
        obtain ⟨hplace, hrest⟩ := List.forall_mem_cons.mp hlater
        have hpassed := passInto_keeps (hb.keeps hu) (Nat.lt_of_le_of_lt hlow hplace)
          (fun hu => ih hu (by omega)) hx
        exact ⟨hu.trans hpassed, hrest⟩
      · exact mem_later hx

theorem propagate_keeps {place : Nat} (hb : b.Held K low) (hlow : low ≤ place)
    (h : propagate place b = (.ok (), s)) : Keeps K b s :=
  propagateWithin_keeps b.collections.length hb hlow h

/-! ## 3. Bringing everything in line -/

/-- Before the place everything is as it is to be: roots are what is offered, also at the place, and
    what is offered is what other facets let through. -/
structure Ready (b : Browser) (place : Nat) : Prop where
  offered : ∀ p < place, ∀ c, b.collections[p]? = some c →
    c.updating = false ∧ View.Offered ⟨b.store, c⟩
  holds : ∀ q ≤ place, b.OfferHolds q

/-- What a collection narrows its base by does not change what it is offered there. -/
theorem takes_of_restricting {place base : Nat} {c d : Collection} {e : Expression} {changed : Bool}
    {allowed : Option KeySet} (hb : b.Ordered) (hready : b.Ready place)
    (hc : b.collections[place]? = some c) (hd : b.collections[base]? = some d)
    (hsource : c.source = .based e d.id true)
    (h : onCollection base false (View.changeFacet (derivedId c.id) (.restrictTo allowed)) b =
      (.ok changed, s)) : s.Takes place base ∧ s.Ready base := by
  have hlt : base < place := (dependsOn_of_source hc hsource hd rfl).lt hb
  obtain ⟨w, hw, rfl⟩ := onCollection_ok_of_some hd h
  obtain ⟨hkin, -⟩ := View.changeFacetBy_ok hw (sound_perform _)
  obtain ⟨hcalm, hoffered⟩ := hready.offered base hlt d hd
  have hsame : w.collection.offer (derivedId c.id) = d.offer (derivedId c.id) :=
    View.offer_of_own_change hw (sound_perform _) hcalm hoffered
      (View.offered_changeFacetBy hw (View.reportsChanges_perform _) hcalm hoffered)
  have hbase : (b.putView base w).collections[base]? = some w.collection :=
    List.getElem?_set_self (List.getElem?_eq_some_iff.mp hd).1
  have hplace : (b.putView base w).collections[place]? = some c :=
    (List.getElem?_set_ne (by omega)).trans hc
  have hid : w.collection.id = d.id := hkin.id.symm
  refine ⟨⟨w.collection, c, e, hbase, hplace, by rw [hid]; exact hsource, fun o ho items hitems => ?_⟩,
    ⟨fun p hp c' hc' => ?_, fun q hq => ?_⟩⟩
  · rw [hsame] at ho
    have htaken : taken b.store o = .ok items := (taken_alike hkin.store o).symm.trans hitems
    refine hready.holds place (Nat.le_refl place) c hc ?_ items
      ((basedRoot_of_offer hb hd hc hsource).mpr ⟨o, ho, htaken⟩)
    unfold Collection.isRestricting
    rw [hsource]
  · have hold : b.collections[p]? = some c' := (List.getElem?_set_ne (by omega)).symm.trans hc'
    obtain ⟨hcalm', hoffered'⟩ := hready.offered p (by omega) c' hold
    exact ⟨hcalm', View.offered_of_alike hkin.store hoffered'⟩
  · refine rooting_offerHolds.putView hd hkin.store hid hkin.source.symm (fun _ => hkin.items.symm)
      (fun hon => ?_) (hready.holds q (by omega))
    exact absurd (hon.lt hb) (by omega)

/-- **Bringing everything in line** after a change in the collection at a place keeps it, and with it
    the places that take their roots from it. -/
theorem settleWithin_keeps (rounds : Nat) : ∀ {K : Nat → Prop} {place : Nat} {b s : Browser},
    b.Held K place → b.Ready place → settleWithin rounds place b = (.ok (), s) → Keeps K b s := by
  induction rounds with
  | zero =>
    intro K place b s _ _ h
    cases h
    exact Keeps.refl K b
  | succ rounds ih =>
    intro K place b s hb hready h
    cases hc : b.collections[place]? with
    | none =>
      rw [settleWithin_of_none hc] at h
      cases h
      exact Keeps.refl K b
    | some c =>
      rw [settleWithin_succ hc] at h
      split at h
      · next e baseId hsource =>
        obtain ⟨base, b', hfind, hfound⟩ := bind_ok h
        obtain ⟨hsame, d, hd, rfl⟩ := find_ok hfind
        rw [hsame] at hfound
        obtain ⟨changed, u, hchange, hchanged⟩ := bind_ok hfound
        obtain ⟨_, t, hsettle, hsettled⟩ := bind_ok hchanged
        have hlt : base < place := (dependsOn_of_source hc hsource hd rfl).lt hb.ordered
        have hobeys := (obeys_changeFacetOn base false _ (sound_perform _)).ok hchange
        have hu : Keeps K b u := by
          refine ⟨hobeys.1, hobeys.2 rfl hb.strict, fun q hq => ?_⟩
          have hle := hb.least q hq
          obtain ⟨w, -, rfl⟩ := onCollection_ok_of_some hd hchange
          exact List.getElem?_set_ne (by omega)
        obtain ⟨htakes, hreadyU⟩ := takes_of_restricting hb.ordered hready hc hd hsource hchange
        have hheld := (hb.keeps hu).join (Nat.le_of_lt hlt) htakes
        have ht := ih hheld hreadyU hsettle
        have hs := propagate_keeps (hheld.keeps ht) (Nat.le_of_lt hlt) hsettled
        exact hu.trans ((ht.trans hs).mono fun q hq => .inl hq)
      · exact propagate_keeps hb (Nat.le_refl place) h

/-! ## 4. Changes of facets -/

section OwnChange

variable {place : Nat} {c : Collection} (hstrict : b.settings.errors ≠ .log) (hb : b.Poised)
  (hc : b.collections[place]? = some c)
include hstrict hb hc

/-- **A collection whose facets have changed** is left alone by what follows from that. -/
theorem collection_of_took {w : View} {passed : Bool} {facets : List Facet}
    (hkin : (View.withFacets ⟨b.store, c⟩ facets).Kin w) (htook : b.Took place w passed s) :
    s.collections[place]? = some w.collection := by
  have hid : w.collection.id = c.id := hkin.id.symm
  have hsource : w.collection.source = c.source := hkin.source.symm
  have hstore : b.store.Alike w.store := hkin.store
  have hw : (b.putView place w).collections[place]? = some w.collection :=
    List.getElem?_set_self (List.getElem?_eq_some_iff.mp hc).1
  rcases htook with ⟨-, hsettle⟩ | ⟨-, rfl⟩
  · have hheld : (b.putView place w).Held (· = place) place :=
      ⟨hstrict, ordered_putView hb.orderly.ordered hc hid hsource, fun q hq => Nat.le_of_eq hq.symm,
        fun q hq hne => absurd hq hne⟩
    have hready : (b.putView place w).Ready place := by
      refine ⟨fun p hp d hd => ?_, fun q hq => ?_⟩
      · have hold : b.collections[p]? = some d := (List.getElem?_set_ne (by omega)).symm.trans hd
        have hmem := List.mem_of_getElem? hold
        exact ⟨hb.orderly.calm d hmem, View.offered_of_alike hstore (hb.offering.offered d hmem)⟩
      · exact rooting_offerHolds.putView hc hstore hid hsource (fun _ => hkin.items.symm)
          (fun hon => absurd (hon.lt hb.orderly.ordered) (by omega)) (hb.offering.holds q)
    exact ((settleWithin_keeps _ hheld hready hsettle).stands place rfl).trans hw
  · exact hw

theorem items_of_took {w : View} {passed : Bool} {facets : List Facet}
    (hkin : (View.withFacets ⟨b.store, c⟩ facets).Kin w) (htook : b.Took place w passed s) :
    ∃ c', s.collections[place]? = some c' ∧ c'.id = c.id ∧ c'.items = c.items :=
  ⟨w.collection, collection_of_took hstrict hb hc hkin htook, hkin.id.symm, hkin.items.symm⟩

theorem items_of_applyToFacet {facet : String} {act : Facet → Scene → Outcome Bool × Facet}
    {changed : Bool} (h : applyToFacet c.id facet act b = (.ok changed, s)) :
    ∃ c', s.collections[place]? = some c' ∧ c'.id = c.id ∧ c'.items = c.items := by
  obtain ⟨q, d, w, hd, hid, hw, htook⟩ := applyToFacet_ok h
  obtain ⟨rfl, rfl⟩ := hb.orderly.ordered.eq_of_id hc hd hid
  obtain ⟨facets, hkin⟩ := View.kin_of_changeFacetBy hw
    (hb.orderly.calm d (List.mem_of_getElem? hc))
  exact items_of_took hstrict hb hc hkin htook

theorem items_of_attachFacet {config : FacetConfig} {id : String}
    (h : attachFacet c.id config b = (.ok id, s)) :
    ∃ c', s.collections[place]? = some c' ∧ c'.id = c.id ∧ c'.items = c.items := by
  obtain ⟨q, d, f, w, hd, hid, -, hw, htook⟩ := attachFacet_ok h
  obtain ⟨rfl, rfl⟩ := hb.orderly.ordered.eq_of_id hc hd hid
  obtain ⟨-, hkin, -⟩ := View.addFacet_ok hw
  exact items_of_took hstrict hb hc hkin htook

theorem items_of_detachFacet {facet : String} {answer : Bool}
    (h : detachFacet c.id facet b = (.ok answer, s)) :
    ∃ c', s.collections[place]? = some c' ∧ c'.id = c.id ∧ c'.items = c.items := by
  rcases detachFacet_ok h with rfl | ⟨q, d, f, w, hd, hid, hw, htook⟩
  · exact ⟨c, hc, rfl, rfl⟩
  · obtain ⟨rfl, rfl⟩ := hb.orderly.ordered.eq_of_id hc hd hid
    obtain ⟨hkin, -⟩ := View.removeFacet_ok hw
    exact items_of_took hstrict hb hc hkin htook

end OwnChange

end Browser

/-! ## 5. The statement -/

namespace BrowserStep

open Browser

/-- The step adds, removes or changes a facet of the collection, in whatever way. -/
def ChangesFacetOf (id : String) : BrowserStep → Prop
  | operation (.addFacet collection _) => collection = id
  | operation (.removeFacet collection _) => collection = id
  | operation (.changeFacet collection _ _) => collection = id
  | operation (.input collection _ _ _ _) => collection = id
  | withFacet collection _ _ => collection = id
  | _ => False

theorem ChangesFacetOf.isAboutData {step : BrowserStep} {id : String} (h : step.ChangesFacetOf id) :
    step.isAboutData = false := by
  cases step with
  | withFacet collection facet act => rfl
  | operation op =>
    cases op with
    | load payload base => cases h
    | update ops => cases h
    | _ => rfl

/-- **A step on the facets of a collection** leaves its root alone. -/
theorem items_of_perform {step : BrowserStep} {b s : Browser} {place : Nat} {c : Collection}
    (hstrict : b.settings.errors ≠ .log) (hb : b.Poised) (hc : b.collections[place]? = some c)
    (hown : step.ChangesFacetOf c.id) (h : step.perform b = (.ok (), s)) :
    ∃ c', s.collections[place]? = some c' ∧ c'.id = c.id ∧ c'.items = c.items := by
  have hdone {α : Type} {act : Action Browser α} {otherwise : α} (hsteady : Steady act)
      (hrun : (guarded otherwise act >>= fun _ => pure ()) b = (.ok (), s)) :
      ∃ x, act b = (.ok x, s) := by
    obtain ⟨x, u, hx, hpure⟩ := bind_ok hrun
    cases hpure
    exact ⟨x, guarded_ok hsteady hstrict hx⟩
  cases step with
  | withFacet collection facet act =>
    obtain rfl : collection = c.id := hown
    obtain ⟨changed, hrun⟩ := hdone (blind_applyToFacet _ facet act).steady h
    exact items_of_applyToFacet hstrict hb hc hrun
  | operation op =>
    cases op with
    | addFacet collection config =>
      obtain rfl : collection = c.id := hown
      obtain ⟨id, hrun⟩ := hdone (steady_attachFacet _ config) h
      exact items_of_attachFacet hstrict hb hc hrun
    | removeFacet collection facet =>
      obtain rfl : collection = c.id := hown
      obtain ⟨answer, hrun⟩ := hdone (blind_detachFacet _ facet).steady h
      exact items_of_detachFacet hstrict hb hc hrun
    | changeFacet collection facet change =>
      obtain rfl : collection = c.id := hown
      obtain ⟨changed, hrun⟩ := hdone (blind_applyToFacet _ facet _).steady h
      exact items_of_applyToFacet hstrict hb hc hrun
    | input collection facet text now enter =>
      obtain rfl : collection = c.id := hown
      obtain ⟨changed, hrun⟩ := hdone (blind_applyToFacet _ facet _).steady h
      exact items_of_applyToFacet hstrict hb hc hrun
    | _ => cases hown

/-- **A collection does not narrow itself.** A browser is given data, and then come any steps that all
    succeed, each at a moment of its own, and none leaves an expression that asks for the time. If after
    that a facet of a collection is added, removed or changed with success, the collection has the root
    that it had, though it may narrow its base, and that another one in turn. -/
theorem items_of_own_change {settings : Settings} {present : Int}
    {loads steps : List (Int × BrowserStep)} {loaded b : Browser} {moment : Int}
    (hloads : ∀ step ∈ loads, step.2.isAboutData = true)
    (hloaded : loaded = runAt Browser.atMoment after loads (start settings present))
    (hsteps : ∀ step ∈ steps, step.2.IsHonest ∧ step.2.isAboutData = false)
    (hsucceed : allSucceed steps loaded = true)
    (hasks : NeverAsks Browser.asksTime Browser.atMoment after steps loaded)
    (hb : b = (runAt Browser.atMoment after steps loaded).atMoment moment)
    {place : Nat} {c : Collection} (hc : b.collections[place]? = some c) {step : BrowserStep}
    (hown : step.ChangesFacetOf c.id) (hstep : step.succeeds b = true) :
    ∃ c', (step.after b).collections[place]? = some c' ∧ c'.id = c.id ∧ c'.items = c.items := by
  have huntouched : (loaded.withPolicy .throw).Untouched := by
    rw [hloaded]
    exact ⟨(untouched_runAt hloads (untouched_start settings present)).only⟩
  have hpoised : (b.withPolicy .throw).Poised := by
    rw [hb]
    exact (poised_runAt hsteps hsucceed hasks huntouched.poised).atMoment hasks.finish moment
  obtain ⟨-, hrun⟩ := perform_of_succeeds hown.isAboutData hstep
  obtain ⟨c', hc', hsame⟩ := items_of_perform (fun heq => by cases heq) hpoised hc hown hrun
  exact ⟨c', hc', hsame⟩

/-- Two books, their authors, and the countries that these come from. -/
def twoCountries : Json :=
  .object [
    ("items", .array [
      .object [("id", .string "emma"), ("author", .string "ann")],
      .object [("id", .string "odes"), ("author", .string "bea")],
      .object [("id", .string "ann"), ("country", .string "england")],
      .object [("id", .string "bea"), ("country", .string "wales")],
      .object [("id", .string "england"), ("coast", .string "north sea")],
      .object [("id", .string "wales"), ("coast", .string "irish sea")]])]

/-- The countries, through which the authors are narrowed. -/
def countries : CollectionConfig :=
  { authors with
    id := some "countries"
    expression := some ".country"
    baseCollectionId := some "authors" }

def coasts : FacetConfig :=
  { FacetConfig.empty with
    id := some "coast"
    expression := some ".coast" }

/-- The countries narrow the authors, and the authors the books; a minute passes between them. -/
def mapping : List (Int × BrowserStep) :=
  [(0, .operation (.createCollection authors)), (60000, .operation (.createCollection countries)),
    (120000, .operation (.addFacet "countries" coasts))]

/-- The countries by the north sea are selected. -/
def landing : BrowserStep :=
  .operation (.changeFacet "countries" "coast" (.toggleValue (some "north sea") false))

/-- A browser that only logs its failures, with the books and the countries. -/
def mapped : Browser :=
  runAt Browser.atMoment after [(0, .operation (.load twoCountries none))]
    (start { Settings.default with errors := .log } 0)

/-- The countries are shown, and the clock stands at three minutes. -/
def charted : Browser := (runAt Browser.atMoment after mapping mapped).atMoment 180000

/-- The selection narrows the countries, the authors and the books, and the countries to select from
    stay the same. -/
theorem items_landing :
    ((landing.after charted).collections.map fun c => (c.id, c.restricted.toList)) =
        [("default", ["emma"]), ("authors", ["ann"]), ("countries", ["england"])] ∧
      ∃ c', (landing.after charted).collections[2]? = some c' ∧
        c'.id = "countries" ∧ c'.items.toList = ["england", "wales"] := by
  have hloads : ∀ step ∈ [((0 : Int), operation (.load twoCountries none))],
      step.2.isAboutData = true := List.forall_mem_singleton.mpr rfl
  have hsteps : ∀ step ∈ mapping, step.2.IsHonest ∧ step.2.isAboutData = false := by
    intro step hstep
    simp only [mapping, List.mem_cons, List.not_mem_nil, or_false] at hstep
    rcases hstep with rfl | rfl | rfl <;> exact ⟨trivial, rfl⟩
  have hlast : charted.collections[2]?.map (fun c => (c.id, c.items.toList)) =
      some ("countries", ["england", "wales"]) := by decide +kernel
  obtain ⟨c, hc, heq⟩ := Option.map_eq_some_iff.mp hlast
  obtain ⟨hid, hitems⟩ := Prod.mk.inj heq
  have hown : landing.ChangesFacetOf c.id := hid.symm
  have hsucceed : allSucceed mapping mapped = true := by decide +kernel
  have hasks : NeverAsks Browser.asksTime Browser.atMoment after mapping mapped :=
    neverAsks_of_inits (by decide +kernel)
  obtain ⟨c', hc', hid', hitems'⟩ := items_of_own_change hloads rfl hsteps hsucceed hasks rfl hc hown
    (by decide +kernel)
  exact ⟨by decide +kernel, c', hc', hid'.trans hid, by rw [hitems', hitems]⟩

/-- The present moment, as the one item of a collection that narrows the books. -/
def instants : CollectionConfig :=
  { authors with
    id := some "instants"
    expression := some "now()" }

/-- A list of the items themselves. -/
def verbatim : FacetConfig :=
  { FacetConfig.empty with
    id := some "item"
    expression := some "value" }

/-- The moment is shown in which all of this happens. -/
def timing : List (Int × BrowserStep) :=
  [(0, .operation (.createCollection instants)), (0, .operation (.addFacet "instants" verbatim))]

/-- The moment is shown, and a second has passed. -/
def timed : Browser := (runAt Browser.atMoment after timing mapped).atMoment 1000

/-- The moment that is shown is selected. -/
def holding : BrowserStep :=
  .operation (.changeFacet "instants" "item" (.toggleValue (some "1970-01-01T00:00:00Z") false))

/-- **What asks for the time has another root afterwards**, if the clock has moved on before a facet of it
    is changed: the collection narrows the books, and by the time that this is passed on to it there is
    another moment to show. -/
theorem items_of_pastMoment :
    allSucceed timing mapped = true ∧ holding.succeeds timed = true ∧
      holding.ChangesFacetOf "instants" ∧
      (timed.collections.map fun c => (c.id, c.isRestricting, c.items.toList))[1]? =
        some ("instants", true, ["1970-01-01T00:00:00Z"]) ∧
      ((holding.after timed).collections.map fun c => (c.id, c.isRestricting, c.items.toList))[1]? =
        some ("instants", true, ["1970-01-01T00:00:01Z"]) := by
  refine ⟨?_, ?_, rfl, ?_, ?_⟩ <;> decide +kernel

end BrowserStep

end Faceted
