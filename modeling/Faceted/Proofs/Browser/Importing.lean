import Faceted.Proofs.Browser.Abreast
import Faceted.Proofs.Browser.Reaching
import Faceted.Proofs.Collection.Fitting

/-!
# Imports that fail

An import goes from collection to collection and from facet to facet, and stops at the first facet that
its state does not fit. What was changed by then is passed on before the failure is reported, so that
the items of all collections go with the selections that their facets have come to.

* `StoppedAt`: the facet at which an import stops, and what it has left alone;
* `HalfImported` is the invariant of the loop over collections, `HalfImported.restoreAt` its step;
  `stoppedAt_of_restore` puts the steps together;
* **`consistent_of_misfit`** is the statement, for runs that are abreast of the store;
* **`places_of_misfit`**: where a property was declared anew before, the items go with the old
  declaration, and stay so after the import.
-/

namespace Faceted

open Faceted.Action

/-! ## 1. Where an import stops -/

/-- The states of the facets by their ids, in order. -/
def Collection.states (c : Collection) : List (String × FacetState) :=
  c.facets.map fun f => (f.id, f.exportState)

theorem Facet.SameBare.state {f g : Facet} (h : f.SameBare g) :
    (f.id, f.exportState) = (g.id, g.exportState) := by
  rw [h.setUpAlike.id, ← exportState_bare f, h, exportState_bare]

namespace Collection

variable {c d : Collection} {k : Nat}

theorem states_drop_of_bare
    (h : List.Forall₂ Facet.SameBare (c.facets.drop k) (d.facets.drop k)) :
    d.states.drop k = c.states.drop k := by
  unfold states
  rw [← List.map_drop, ← List.map_drop]
  exact (map_eq_of_forall₂ h fun _ _ => Facet.SameBare.state).symm

theorem Retains.states (h : c.Retains Facet.SameBare d) : d.states = c.states :=
  states_drop_of_bare (k := 0) h.facets

end Collection

namespace Browser

variable {s : BrowserState} {b b' t : Browser} {n : Nat} {d : Collection}

/-- The import of `s` into `b` stops at the facet at `k` of the collection at `place`, the first one that
    its state does not fit, and leaves `b'`: from this facet on all states are as before. -/
structure StoppedAt (s : BrowserState) (b : Browser) (place k : Nat) (c : Collection) (f : Facet)
    (b' : Browser) : Prop where
  collection : b.collections[place]? = some c
  misfit : FirstMisfit (s.target c.id) c.facets k f
  earlier : ∀ d ∈ b.collections.take place, ∀ g ∈ d.facets, g.takes (s.target d.id g) = true
  own : ∃ c', b'.collections[place]? = some c' ∧ c'.id = c.id ∧ c'.states.drop k = c.states.drop k
  later : ((b'.collections.drop (place + 1)).map fun d => (d.id, d.states)) =
    (b.collections.drop (place + 1)).map fun d => (d.id, d.states)

/-! ## 2. Collection by collection -/

/-- The browser `t` half way through an import into `b`: all states before the place fit, and the
    collections from there on have the selections that they had. -/
structure HalfImported (s : BrowserState) (b : Browser) (n : Nat) (t : Browser) : Prop where
  reselects : b.Reselects t
  fits : ∀ d ∈ b.collections.take n, ∀ f ∈ d.facets, f.takes (s.target d.id f) = true
  rest : List.Forall₂ (Collection.Retains Facet.SameBare) (b.collections.drop n)
    (t.collections.drop n)

theorem HalfImported.collection (h : HalfImported s b n t) (hd : b.collections[n]? = some d) :
    ∃ c, t.collections[n]? = some c ∧ d.Retains Facet.SameBare c := by
  have hfirst : (b.collections.drop n)[0]? = some d := by rwa [List.getElem?_drop, Nat.add_zero]
  obtain ⟨c, hc, hretains⟩ := forall₂_getElem? h.rest hfirst
  rw [List.getElem?_drop, Nat.add_zero] at hc
  exact ⟨c, hc, hretains⟩

/-- Once a collection has been imported, those after it are still as they were. -/
theorem HalfImported.rest_of_put (h : HalfImported s b n t) {w : View} {u : Browser}
    (hu : (t.putView n w).Retains Facet.SameBare u) :
    List.Forall₂ (Collection.Retains Facet.SameBare) (b.collections.drop (n + 1))
      (u.collections.drop (n + 1)) := by
  have hput := List.forall₂_drop (n + 1) hu.collections
  rw [putView, List.drop_set_of_lt (Nat.lt_succ_self n)] at hput
  have hrest := List.forall₂_drop 1 h.rest
  rw [List.drop_drop, List.drop_drop] at hrest
  exact forall₂_trans hrest hput (Collection.Retains.trans Facet.alteration_sameBare)

/-- The collection after those that have been imported takes its states over too. -/
theorem HalfImported.next (h : HalfImported s b n t) (hd : b.collections[n]? = some d)
    (htakes : ∀ f ∈ d.facets, f.takes (s.target d.id f) = true) {w : View} {u : Browser}
    (hu : t.Reselects u) (hretains : (t.putView n w).Retains Facet.SameBare u) :
    HalfImported s b (n + 1) u where
  reselects := h.reselects.trans hu
  fits e he := by
    rw [List.take_add_one, hd] at he
    rcases List.mem_append.mp he with he | he
    · exact h.fits e he
    · obtain rfl : e = d := by simpa using he
      exact htakes
  rest := h.rest_of_put hretains

/-- The collection after those that have been imported has a misfit. -/
theorem HalfImported.stoppedAt (h : HalfImported s b n t) (hd : b.collections[n]? = some d) {k : Nat}
    {f : Facet} (hmisfit : FirstMisfit (s.target d.id) d.facets k f) {w : View} {u : Browser}
    (hbare : List.Forall₂ Facet.SameBare (d.facets.drop k) (w.collection.facets.drop k))
    (hu : t.Reselects u) (hretains : (t.putView n w).Retains Facet.SameBare u) :
    StoppedAt s b n k d f u where
  collection := hd
  misfit := hmisfit
  earlier := h.fits
  own := by
    obtain ⟨c, hc, hdc⟩ := h.collection hd
    obtain ⟨c', hc', hcc'⟩ := forall₂_getElem? hu.retains.collections hc
    have hput : (t.putView n w).collections[n]? = some w.collection :=
      List.getElem?_set_self (List.getElem?_eq_some_iff.mp hc).1
    obtain ⟨c'', hc'', hwc'⟩ := forall₂_getElem? hretains.collections hput
    cases hc'.symm.trans hc''
    have hwc' : w.collection.Retains Facet.SameBare c' := hwc'
    refine ⟨c', hc', (hdc.id.trans (Collection.Retains.id hcc')).symm, ?_⟩
    exact Collection.states_drop_of_bare
      (forall₂_trans hbare (List.forall₂_drop k hwc'.facets) Eq.trans)
  later := by
    refine (map_eq_of_forall₂ (h.rest_of_put hretains) fun e e' hee' => ?_).symm
    exact Prod.ext hee'.id hee'.states.symm

/-- **One collection**: its states fit and are imported, or the import stops at the first that does
    not. -/
theorem HalfImported.restoreAt (hworks : b.Works) (h : HalfImported s b n t)
    (hd : b.collections[n]? = some d) :
    (∃ changed u, Browser.restoreAt s n t = (.ok changed, u) ∧ HalfImported s b (n + 1) u) ∨
      ∃ k f u, Browser.restoreAt s n t =
          (.error (.data (.stateMismatch f.id (s.target d.id f).describe)), u) ∧
        StoppedAt s b n k d f u ∧ b.Reselects u := by
  have hfits : b.Fits t := h.reselects.fits (.refl b)
  have hneat := h.reselects.neat
  obtain ⟨c, hc, hdc⟩ := h.collection hd
  have hmem := List.mem_of_getElem? hc
  have halike : List.Forall₂ Facet.SetUpAlike c.facets d.facets :=
    hdc.facets.flip.imp fun f g hgf => Eq.symm (Facet.SameBare.setUpAlike hgf)
  rcases View.restoreFacets_fits (v := ⟨t.store, c⟩) s (hneat.view hworks hfits hc)
    (hneat.inTune.inLine c hmem) (fun f hf => hneat.isForUser hmem hf)
    (hneat.orderly.attached c hmem).distinct with
    ⟨htakes, changed, w, hrun⟩ | ⟨k, f, w, hmisfit, hrun, hbare⟩
  · obtain ⟨u, hu, hreselects, hretains⟩ := hneat.restoreAt hworks hfits hc hrun
    refine .inl ⟨changed, u, hu, h.next hd (fun g hg => ?_) hreselects hretains⟩
    obtain ⟨g', hg', hgg'⟩ := forall₂_mem halike.flip hg
    have hgg' : g'.SetUpAlike g := hgg'
    rw [← hgg'.takes, ← s.target_congr d.id hgg', hdc.id]
    exact htakes g' hg'
  · obtain ⟨u, hu, hreselects, hretains⟩ := hneat.restoreAt hworks hfits hc hrun
    obtain ⟨g, hfg, hg⟩ := hmisfit.congr halike (s.target_congr c.id)
    have hfront := forall₂_trans (List.forall₂_drop k hdc.facets) hbare Eq.trans
    refine .inr ⟨k, g, u, ?_, h.stoppedAt hd (hdc.id ▸ hg) hfront hreselects hretains,
      h.reselects.trans hreselects⟩
    rw [hu, hfg.id, s.target_congr c.id hfg, hdc.id]

/-- **An import that fails** stops at a facet that its state does not fit. -/
theorem stoppedAt_of_restore (hworks : b.Works) (hb : b.Neat) {failure : Failure}
    (h : restore s b = (.error failure, b')) :
    ∃ place k c f, StoppedAt s b place k c f b' ∧ b.Reselects b' ∧
      failure = .data (.stateMismatch f.id (s.target c.id f).describe) := by
  have hcollect : collect (restoreAt s) (List.range b.collections.length) b = (.error failure, b') :=
    collect_of_anyOf_error h
  have heach := each_of_collect (restoreAt s) (List.range b.collections.length) b
  rw [hcollect] at heach
  obtain ⟨n, hn, t, hfront, hlast⟩ := each_range_error heach
  have hbegun : HalfImported s b 0 b := ⟨(frame_keepsNeat b).refl true b (.refl b) hb,
    fun d hd => (nomatch hd), List.forall₂_same.mpr fun c _ => .refl Facet.alteration_sameBare c⟩
  have ht : HalfImported s b n t := by
    refine each_range_ok (I := HalfImported s b) (fun {m u v} hm hu hrun => ?_) hfront hbegun
    obtain ⟨changed, w, hrun, hpure⟩ := bind_ok hrun
    cases hpure
    have hd := List.getElem?_eq_getElem (Nat.lt_trans hm hn)
    rcases hu.restoreAt hworks hd with ⟨_, v', hok, hv⟩ | ⟨_, _, v', herror, -⟩
    · cases hok.symm.trans hrun
      exact hv
    · cases herror.symm.trans hrun
  rcases ht.restoreAt hworks (List.getElem?_eq_getElem hn) with ⟨_, v, hok, -⟩ | ⟨k, f, v, herror, hv⟩
  · rw [bind_of_ok hok] at hlast
    cases hlast
  · rw [bind_of_error herror] at hlast
    cases hlast
    exact ⟨n, k, _, f, hv.1, hv.2, rfl⟩

/-! ## 3. The statement -/

open BrowserStep

/-- **An import that fails leaves consistent items.** A browser has been through any steps, while every
    evaluation succeeded and no collection narrowed its base, and is abreast of its store. If an import
    fails, then because of a state that does not fit its facet; the settings decide what becomes of that.
    All collections have the roots that their sources call for, and copies of their facets that keep
    nothing let exactly their restricted items through. The states of that facet, the facets after it and
    those of later collections are as before. -/
theorem consistent_of_misfit {settings : Settings} {present : Int} {steps : List BrowserStep}
    (hfair : ∀ step ∈ steps, step.IsFair)
    (hsturdy : ∀ front, front <+: steps → (afterAll front (start settings present)).Sturdy)
    (habreast : Abreast (start settings present) steps) {failure : Failure}
    (hb : b = afterAll steps (start settings present)) (h : restore s b = (.error failure, b')) :
    importState s b = (b'.settings.errors.settle false (.error failure), b') ∧
      (∀ c ∈ b'.collections, b'.rootOf c = .ok c.items ∧
        Scene.throughEach ⟨b'.store, c.items⟩ (c.facets.map Facet.dropCaches) c.items =
          .ok c.restricted) ∧
      ∃ place k c f, StoppedAt s b place k c f b' ∧
        failure = .data (.stateMismatch f.id (s.target c.id f).describe) := by
  have hneat : b.Neat := hb ▸ neat_of_abreast habreast hfair hsturdy
  have hworks : b.Works := hb ▸ (hsturdy steps (List.prefix_refl steps)).works
  obtain ⟨place, k, c, f, hstopped, hreselects, hfailure⟩ := stoppedAt_of_restore hworks hneat h
  refine ⟨?_, fun d hd => ?_, place, k, c, f, hstopped, hfailure⟩
  · unfold importState guarded
    rw [h]
  · have hneat' := hreselects.neat
    obtain ⟨q, hq⟩ := List.mem_iff_getElem?.mp hd
    exact ⟨hneat'.inTune.roots q d hq (hneat'.plain d hd),
      (hneat'.inTune.inLine d hd).throughEach_fresh⟩

/-! ## 4. A desk and a shelf -/

def byAuthor : FacetConfig :=
  { FacetConfig.empty with
    id := some "author"
    expression := some ".author" }

/-- The two books by author and by shelf, and the authors of those on the low shelf. -/
def cataloguing : List BrowserStep :=
  [.operation (.load twoBooks none), .operation (.addFacet defaultId byAuthor),
    .operation (.addFacet defaultId onShelf), .operation (.createCollection writers)]

/-- An author, and for the shelf a state that no list takes over. -/
def halfFitting : BrowserState :=
  KeyMap.ofList [(defaultId, KeyMap.ofList
    [("author", .list ["bea"] false), ("shelf", .text (some "low"))])]

theorem abreast_cataloguing : Abreast library cataloguing := by
  have hloaded : Abreast library ([] ++ [.operation (.load twoBooks none)]) := .refreshed [] rfl
  have hauthor : Abreast library [.operation (.load twoBooks none),
      .operation (.addFacet defaultId byAuthor)] := hloaded.step nofun
  have hshelf : Abreast library [.operation (.load twoBooks none),
      .operation (.addFacet defaultId byAuthor), .operation (.addFacet defaultId onShelf)] :=
    hauthor.step nofun
  exact hshelf.step nofun

/-- The author has been selected when the import stops at the shelf. The one has no book on the other,
    and so there are no authors left. -/
theorem consistent_halfFitting :
    (∀ front, front <+: cataloguing → (afterAll front library).Sturdy) ∧
      Abreast library cataloguing ∧
      ∃ failure b', restore halfFitting (afterAll cataloguing library) = (.error failure, b') ∧
        (b'.collections.map fun c => (c.id, c.restricted.toList)) =
          [("default", []), ("authors", [])] ∧
        (∀ c ∈ b'.collections, b'.rootOf c = .ok c.items ∧
          Scene.throughEach ⟨b'.store, c.items⟩ (c.facets.map Facet.dropCaches) c.items =
            .ok c.restricted) ∧
        ∃ place k c f, StoppedAt halfFitting (afterAll cataloguing library) place k c f b' ∧
          failure = .data (.stateMismatch f.id (halfFitting.target c.id f).describe) := by
  have hsturdy : ∀ front, front <+: cataloguing → (afterAll front library).Sturdy :=
    sturdy_of_inits (by decide +kernel)
  have hfair : ∀ step ∈ cataloguing, step.IsFair := by
    intro step hstep
    simp only [cataloguing, List.mem_cons, List.not_mem_nil, or_false] at hstep
    rcases hstep with rfl | rfl | rfl | rfl <;> trivial
  have hfails : (restore halfFitting (afterAll cataloguing library)).1.isOk = false := by
    decide +kernel
  obtain ⟨failure, hrun⟩ := exists_of_not_isOk hfails
  obtain ⟨-, hconsistent, hstopped⟩ :=
    consistent_of_misfit hfair hsturdy abreast_cataloguing rfl hrun
  exact ⟨hsturdy, abreast_cataloguing, failure, _, hrun, by decide +kernel, hconsistent, hstopped⟩

/-- A book that is in; whether it is lent is a truth value. -/
def returnedBook : Json :=
  .object [
    ("properties", .object [("lent", .object [("valueType", .string "boolean")])]),
    ("items", .array [
      .object [("id", .string "ash"), ("type", .string "Book"), ("lent", .string "no"),
        ("shelf", .string "low")]])]

/-- A book is asked for at the desk while it is lent, and otherwise stands on its shelf. -/
def whereabouts : CollectionConfig where
  id := some "places"
  itemTypes := none
  expression := some "if(.lent, 'desk', .shelf)"
  baseCollectionId := some "books"
  restrictBaseCollection := false

/-- The books and their places are shown, and then the property is declared anew. -/
def relocating : List BrowserStep :=
  [.operation (.load returnedBook none), .operation (.addFacet defaultId onShelf),
    .operation (.createCollection allBooks), .operation (.createCollection whereabouts),
    .operation (.load lentAsText none)]

/-- **Items that an import does not catch up with**: since the declaration every text counts as true, so
    the book is asked for at the desk; but after the import, as before it, its place is the shelf. -/
theorem places_of_misfit :
    (∀ front, front <+: relocating → (afterAll front library).Sturdy) ∧
      (importState misfit (afterAll relocating library)).1.mapError Failure.message =
        .error "Data error: facet shelf cannot take state TextSearch \x7b text: Some(\"low\") \x7d" ∧
      ((importState misfit (afterAll relocating library)).2.collections.map fun c =>
        (c.id, c.items.toList,
          ((importState misfit (afterAll relocating library)).2.rootOf c).toOption.map KeySet.toList)) =
        [("default", ["ash"], some ["ash"]), ("books", ["ash"], some ["ash"]),
          ("places", ["low"], some ["desk"])] :=
  ⟨sturdy_of_inits (by decide +kernel), by decide +kernel, by decide +kernel⟩

end Browser

end Faceted
