import Faceted.Proofs.Browser.Consistent
import Faceted.Proofs.Facet.Itemwise

/-!
# What restricting collections have handed over

A restricting collection narrows its base through a facet there. The facet holds what it was handed
when the selection in the collection changed last. The restricted items of the collection may have
become others since then, because its root has: the base goes on with what it was handed.

* `handedOver` is what a base goes by, `restriction` what the collection lets through at present;
* **`mem_restricted_iff`**: which items a collection keeps, told item by item;
* **`restricted_of_handedOver`**: after every run a base keeps the items that it should keep by the
  present restrictions exactly if no item can tell the two apart;
* **`odes_of_cleared`**: a run after which one can.
-/

namespace Faceted

open Faceted.Action Faceted.Expression

theorem deciding_suffix (fs : List Facet) : deciding fs <:+ fs :=
  ⟨overridden fs, overridden_append_deciding fs⟩

namespace Browser

/-! ## 1. What an item has to pass -/

/-- The item passes those of the facets that a user has set up. -/
def PassesFacets (b : Browser) (c : Collection) (fs : List Facet) (x : String) : Prop :=
  ∀ f ∈ fs, f.isForUser = true → f.LetsThrough ⟨b.store, c.items⟩ x

/-- The expression by which a collection narrows the base of that id, if it does. -/
def narrowing? (d : Collection) (base : String) : Option Expression :=
  match d.source with
  | .based e id true => if id = base then some e else none
  | _ => none

/-- For every collection that narrows this one, some value of its expression on the item is let
    through; `letThrough` says what each of them lets through, if it restricts at all. -/
def PassesCollections (b : Browser) (c : Collection) (letThrough : Collection → Option KeySet)
    (x : String) : Prop :=
  ∀ d ∈ b.collections, ∀ e ∈ narrowing? d c.id, ∀ allowed ∈ letThrough d,
    ∃ values, (DerivedFacet.new (derivedId d.id) e).valuesOf b.store (KeySet.ofList [x]) = .ok values ∧
      ∃ v ∈ values.toList, v ∈ allowed

/-- What a restricting collection has handed to the facet by which it narrows its base. -/
def handedOver (fs : List Facet) (d : Collection) : Option KeySet :=
  match fs.find? fun f => f.id == derivedId d.id with
  | some (.derived f) => f.restriction
  | _ => none

/-- All collections that narrow the collection do so by a path with hops. -/
def NarrowedByPaths (b : Browser) (c : Collection) : Prop :=
  ∀ d ∈ b.collections, ∀ e ∈ narrowing? d c.id, ∃ p ∈ e.path?, p.hops ≠ []

instance (b : Browser) (c : Collection) (fs : List Facet) (x : String) :
    Decidable (b.PassesFacets c fs x) :=
  inferInstanceAs (Decidable (∀ f ∈ fs, f.isForUser = true → f.LetsThrough ⟨b.store, c.items⟩ x))

instance (b : Browser) (c : Collection) (letThrough : Collection → Option KeySet) (x : String) :
    Decidable (b.PassesCollections c letThrough x) :=
  inferInstanceAs (Decidable (∀ d ∈ b.collections, ∀ e ∈ narrowing? d c.id, ∀ allowed ∈ letThrough d,
    ∃ values, (DerivedFacet.new (derivedId d.id) e).valuesOf b.store (KeySet.ofList [x]) = .ok values ∧
      ∃ v ∈ values.toList, v ∈ allowed))

instance (b : Browser) (c : Collection) : Decidable (b.NarrowedByPaths c) :=
  inferInstanceAs (Decidable (∀ d ∈ b.collections, ∀ e ∈ narrowing? d c.id, ∃ p ∈ e.path?, p.hops ≠ []))

theorem narrowing?_eq_some {d : Collection} {base : String} {e : Expression} :
    narrowing? d base = some e ↔ d.source = .based e base true := by
  unfold narrowing?
  split
  · next e' id hsource =>
    rw [hsource, Option.ite_none_right_eq_some, Option.some.injEq, ItemSource.based.injEq]
    simp [and_comm]
  · next hother =>
    refine ⟨fun h => (by cases h), fun h => (hother e base h).elim⟩

theorem passesFacets_iff {b : Browser} {c : Collection} {x : String} :
    b.PassesFacets c c.facets x ↔ b.PassesFacets c (overridden c.facets) x ∧
      b.PassesFacets c (deciding c.facets) x := by
  unfold PassesFacets
  rw [← List.forall_mem_append, overridden_append_deciding]

/-! ## 2. Derived facets and their collections -/

section Derived

variable {b : Browser} {c : Collection}

theorem eq_of_derivedId (hb : b.Ordered) {d d' : Collection} (hd : d ∈ b.collections)
    (hd' : d' ∈ b.collections) (h : derivedId d.id = derivedId d'.id) : d = d' := by
  have hid : d.id = d'.id := (String.append_right_inj "collection:").mp h
  obtain ⟨p, hp⟩ := List.mem_iff_getElem?.mp hd
  obtain ⟨q, hq⟩ := List.mem_iff_getElem?.mp hd'
  have hpq : p = q := hb.distinct (idAt_of_getElem? hp) (hid ▸ idAt_of_getElem? hq)
  subst hpq
  exact Option.some.inj (hp.symm.trans hq)

/-- A derived facet belongs to one of the collections that narrow this one. -/
theorem Attached.collection (h : b.Attached c) {f : DerivedFacet} (hf : .derived f ∈ c.facets) :
    ∃ d ∈ b.collections, d.source = .based f.expression c.id true ∧ f.id = derivedId d.id :=
  h.belongs _ (List.mem_map_of_mem hf) f.expression rfl

theorem Attached.goesSomewhere (h : b.Attached c) (hpaths : b.NarrowedByPaths c) {f : Facet}
    (hf : f ∈ c.facets) : f.GoesSomewhere := by
  rintro g rfl
  obtain ⟨d, hd, hsource, -⟩ := h.collection hf
  exact hpaths d hd g.expression (narrowing?_eq_some.mpr hsource)

/-- **The derived facets among some of the facets** let an item through exactly if it passes what has
    been handed to them. -/
theorem letsThrough_derived_iff (hb : b.Orderly) (hstore : b.store.Recorded)
    (hc : c ∈ b.collections) (hpaths : b.NarrowedByPaths c) {fs : List Facet}
    (hfs : fs <:+ c.facets) {x : String} :
    (∀ f ∈ fs, f.isForUser = false → f.LetsThrough ⟨b.store, c.items⟩ x) ↔
      b.PassesCollections c (handedOver fs) x := by
  obtain ⟨l, hl⟩ := hstore
  have hattached := hb.attached c hc
  constructor
  · intro h d hd e hnarrowing allowed hhanded
    have hsource := narrowing?_eq_some.mp hnarrowing
    rw [Option.mem_def, handedOver] at hhanded
    split at hhanded
    · next g hfound =>
      have hg : .derived g ∈ fs := List.mem_of_find?_eq_some hfound
      have hid : (Facet.derived g).id = derivedId d.id := by simpa using List.find?_some hfound
      obtain ⟨d', hd', hsource', hid'⟩ := hattached.collection (hfs.subset hg)
      obtain rfl := eq_of_derivedId hb.ordered hd hd' (hid.symm.trans hid')
      rw [hsource'] at hsource
      cases hsource
      obtain ⟨p, hp, hhops⟩ := hpaths d hd _ hnarrowing
      exact (DerivedFacet.restrict_alone hp hhops hl).mp (h _ hg rfl) allowed hhanded
    · cases hhanded
  · intro h f hf hderived
    cases f with
    | derived g =>
      obtain ⟨d, hd, hsource, hid⟩ := hattached.collection (hfs.subset hf)
      have hnarrowing := narrowing?_eq_some.mpr hsource
      obtain ⟨p, hp, hhops⟩ := hpaths d hd _ hnarrowing
      refine (DerivedFacet.restrict_alone hp hhops hl).mpr fun allowed hallowed => ?_
      refine h d hd _ hnarrowing allowed ?_
      have hfound := Collection.facet?_of_mem hattached.distinct hfs hf
      rw [show (Facet.derived g).id = derivedId d.id from hid] at hfound
      rw [Option.mem_def, handedOver, hfound]
      exact hallowed
    | _ => cases hderived

/-- **Which items a collection keeps**: of its root those that pass the facets that decide, and what
    has been handed over to these. -/
theorem mem_restricted_iff (hb : b.Orderly) (hstore : b.store.Recorded) (hc : c ∈ b.collections)
    (hline : View.InLine ⟨b.store, c⟩) (hpaths : b.NarrowedByPaths c) {x : String}
    (hx : x ∈ c.items) :
    x ∈ c.restricted ↔ b.PassesFacets c (deciding c.facets) x ∧
      b.PassesCollections c (handedOver (deciding c.facets)) x := by
  have hmem := Scene.mem_throughEach
    (fun f hf => (hb.attached c hc).goesSomewhere hpaths hf) hline.throughEach_fresh (x := x)
  rw [hmem, ← letsThrough_derived_iff hb hstore hc hpaths (deciding_suffix c.facets)]
  rw [and_iff_right (.inr hx)]
  constructor
  · intro h
    exact ⟨fun f hf _ => h f hf, fun f hf _ => h f hf⟩
  · rintro ⟨huser, hderived⟩ f hf
    cases hforUser : f.isForUser with
    | true => exact huser f hf hforUser
    | false => exact hderived f hf hforUser

end Derived

/-! ## 3. The statement -/

/-- **A base keeps what it should keep** by what its restricting collections let through at present,
    exactly if no item of its root that passes the facets that decide can tell this from what they
    have handed over. -/
theorem restricted_of_handedOver {settings : Settings} {present : Int} {ops : List BrowserOperation}
    {b : Browser} (hstrict : settings.errors ≠ .log)
    (hrun : run ops (start settings present) = (.ok (), b))
    (hloads : ∀ payload base, .load payload base ∈ ops → onlyDeclares payload = false)
    {c : Collection} (hc : c ∈ b.collections) (hpaths : b.NarrowedByPaths c) :
    (∀ x ∈ c.items, x ∈ c.restricted ↔ b.PassesFacets c (deciding c.facets) x ∧
        b.PassesCollections c (handedOver (deciding c.facets)) x) ∧
      ((∀ x ∈ c.items, x ∈ c.restricted ↔
          b.PassesFacets c c.facets x ∧ b.PassesCollections c restriction x) ↔
        ∀ x ∈ c.items, b.PassesFacets c (deciding c.facets) x →
          (b.PassesCollections c (handedOver (deciding c.facets)) x ↔
            b.PassesFacets c (overridden c.facets) x ∧ b.PassesCollections c restriction x)) := by
  have hstep := inStep_of_loads hrun hstrict hloads
  have horderly := orderly_of_run hrun hstrict (orderly_start settings present)
  have hstore := recorded_of_run hrun hstrict (recorded_start settings present)
  have hin := inTune_of_run hrun hstrict (orderly_start settings present)
    (inTune_start settings present) hstep
  have hmem := fun x (hx : x ∈ c.items) =>
    mem_restricted_iff horderly hstore hc (hin.inLine c hc) hpaths hx
  refine ⟨hmem, forall_congr' fun x => forall_congr' fun hx => ?_⟩
  rw [hmem x hx, passesFacets_iff, and_comm (a := b.PassesFacets c (overridden c.facets) x),
    and_assoc, and_congr_right_iff]

/-- Two books and their authors, who come from the same country. -/
def books : Json :=
  .object [
    ("items", .array [
      .object [("id", .string "emma"), ("genre", .string "novel"), ("author", .string "ann")],
      .object [("id", .string "odes"), ("genre", .string "verse"), ("author", .string "bea")],
      .object [("id", .string "ann"), ("country", .string "england")],
      .object [("id", .string "bea"), ("country", .string "england")]])]

/-- Novels are selected. -/
def novels : FacetConfig :=
  { FacetConfig.empty with
    id := some "genre"
    expression := some ".genre"
    selection := some ["novel"] }

/-- English authors are selected. -/
def english : FacetConfig :=
  { FacetConfig.empty with
    id := some "country"
    expression := some ".country"
    selection := some ["england"] }

/-- The authors, through whom the books are narrowed. -/
def authors : CollectionConfig where
  id := some "authors"
  itemTypes := none
  expression := some ".author"
  baseCollectionId := some defaultId
  restrictBaseCollection := true

/-- Novels are selected, and among their authors the English ones; then the novels are no longer
    selected. -/
def clearing : List BrowserOperation :=
  [.load books none, .addFacet defaultId novels, .createCollection authors,
    .addFacet "authors" english, .changeFacet defaultId "genre" (.toggleValue (some "novel") false)]

theorem onlyDeclares_of_mem_clearing (payload : Json) (base : Option String)
    (h : .load payload base ∈ clearing) : onlyDeclares payload = false := by
  simp only [clearing, List.mem_cons, BrowserOperation.load.injEq, reduceCtorEq, List.not_mem_nil,
    or_false] at h
  rw [h.1]
  decide

theorem restricted_clearing :
    ∃ c ∈ (run clearing library).2.collections, c.restricted.toList = ["emma"] ∧
      (∀ x ∈ c.items, x ∈ c.restricted ↔
        (run clearing library).2.PassesFacets c (deciding c.facets) x ∧
          (run clearing library).2.PassesCollections c (handedOver (deciding c.facets)) x) ∧
      ((∀ x ∈ c.items, x ∈ c.restricted ↔
          (run clearing library).2.PassesFacets c c.facets x ∧
            (run clearing library).2.PassesCollections c restriction x) ↔
        ∀ x ∈ c.items, (run clearing library).2.PassesFacets c (deciding c.facets) x →
          ((run clearing library).2.PassesCollections c (handedOver (deciding c.facets)) x ↔
            (run clearing library).2.PassesFacets c (overridden c.facets) x ∧
              (run clearing library).2.PassesCollections c restriction x)) := by
  have hfirst : (run clearing library).2.collections[0]?.map (fun c => c.restricted.toList) =
      some ["emma"] := by decide +kernel
  have hpaths : ∀ c ∈ (run clearing library).2.collections,
      (run clearing library).2.NarrowedByPaths c := by decide +kernel
  have hrun : run clearing library = (.ok (), (run clearing library).2) :=
    eq_of_isOk (by decide +kernel)
  obtain ⟨c, hplace, hrestricted⟩ := Option.map_eq_some_iff.mp hfirst
  have hc := List.mem_of_getElem? hplace
  exact ⟨c, hc, hrestricted,
    restricted_of_handedOver (by decide) hrun onlyDeclares_of_mem_clearing hc (hpaths c hc)⟩

/-- **A book stays away** whose author is let through: the base goes on with the authors of the novels,
    although the books are no longer narrowed to these. -/
theorem odes_of_cleared :
    (run clearing library).1.isOk = true ∧
      ∃ c ∈ (run clearing library).2.collections, (run clearing library).2.NarrowedByPaths c ∧
        "odes" ∈ c.items ∧ ¬ "odes" ∈ c.restricted ∧
          (run clearing library).2.PassesFacets c c.facets "odes" ∧
            (run clearing library).2.PassesCollections c restriction "odes" := by
  decide +kernel

end Browser

end Faceted
