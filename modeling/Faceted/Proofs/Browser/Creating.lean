import Faceted.Proofs.Browser.Building
import Faceted.Proofs.Browser.HandedOver

/-!
# Collections that cannot be created

There are five places at which the creation of a collection can fail: the id is taken, the expression
cannot be read, there is no such base, the base has a facet of that id already, and the root items of
the new collection cannot be worked out. At the last one the collection stands already, and so does
the facet on the base that it is to narrow.

* `refusal` is the failure at one of the first four places, `halfMade` the browser at the last one;
* `creation_buildCollection`: what can come of a creation;
* **`createCollection_unchanged_iff`**: one that fails leaves the browser alone exactly if it is
  refused, and else leaves it half made;
* **`halfMade_of_unknown`**: a function that there is not leaves a collection without items.
-/

namespace Faceted

open Faceted.Action

namespace Browser

variable {b b' : Browser}

/-! ## 1. Refusals -/

/-- Why there is no source for the items of a new collection, found out before anything is changed. -/
def sourceRefusal (b : Browser) (id : String) (config : CollectionConfig) : Option Failure :=
  match config.baseCollectionId, config.expression with
  | some base, some text =>
    match Expression.parse text, b.placeOf base with
    | .error failure, _ => some failure
    | .ok _, .error failure => some failure
    | .ok _, .ok place =>
      match b.collections[place]? with
      | none => none
      | some c =>
        if config.restrictBaseCollection && c.hasFacet (derivedId id) then
          some (.data (.facetExists c.id (derivedId id)))
        else none
  | some base, none => some (.data (.baseWithoutExpression id base))
  | none, _ => none

/-- Why a new collection is refused before anything is changed. -/
def refusal (b : Browser) (config : CollectionConfig) : Option Failure :=
  if (b.collection? (b.newId config)).isSome then some (.data (.collectionExists (b.newId config)))
  else b.sourceRefusal (b.newId config) config

theorem new_of_refusal {config : CollectionConfig} (h : b.refusal config = none) :
    b.collection? (b.newId config) = none := by
  unfold refusal at h
  split at h
  · cases h
  · next hknown => exact Option.not_isSome_iff_eq_none.mp hknown

/-! ## 2. Half-made collections -/

/-- The facet through which a new collection is to narrow its base. It lets everything through. -/
def newDerived (id : String) (e : Expression) (base : Collection) : Facet :=
  .derived { DerivedFacet.new (derivedId id) e with candidates := base.restricted }

/-- The collections once the base of a new one, if it is to be narrowed, has the facet for it. -/
def withNewDerived (b : Browser) (id : String) : ItemSource → List Collection
  | .based e base true =>
    b.collections.modify (b.collections.findIdx fun c => c.id == base) fun c =>
      c.pushFacet (newDerived id e c)
  | _ => b.collections

/-- The browser with a new collection that has no root items yet. -/
def halfMade (b : Browser) (id : String) (source : ItemSource) : Browser :=
  { b with collections := b.withNewDerived id source ++ [.new id source] }

theorem length_withNewDerived (b : Browser) (id : String) (source : ItemSource) :
    (b.withNewDerived id source).length = b.collections.length := by
  unfold withNewDerived
  split
  · exact List.length_modify _ _ _
  · rfl

theorem withNewDerived_of_place {id : String} {e : Expression} {place : Nat} {c : Collection}
    (hidx : b.collections.findIdx (fun d => d.id == c.id) = place)
    (hc : b.collections[place]? = some c) :
    b.withNewDerived id (.based e c.id true) =
      b.collections.set place (c.pushFacet (newDerived id e c)) := by
  unfold withNewDerived
  dsimp only
  rw [hidx, List.modify_eq_set_getElem?, hc]
  rfl

/-- What is there of a collection that was there before. -/
theorem getElem?_withNewDerived {id : String} {source : ItemSource} {place : Nat} {d : Collection}
    (h : (b.withNewDerived id source)[place]? = some d) :
    ∃ c, b.collections[place]? = some c ∧ c.id = d.id := by
  unfold withNewDerived at h
  split at h
  · rw [List.getElem?_modify] at h
    obtain ⟨c, hc, hcd⟩ := Option.map_eq_some_iff.mp h
    refine ⟨c, hc, ?_⟩
    rw [← hcd]
    split <;> rfl
  · exact ⟨d, h, rfl⟩

/-- The items of the collections that are there first. -/
def itemsOfFirst (b : Browser) (count : Nat) : List (String × KeySet × KeySet) :=
  (b.collections.take count).map fun c => (c.id, c.items, c.restricted)

/-- The collections that were there keep their root items and their restricted items. -/
theorem itemsOfFirst_halfMade (b : Browser) (id : String) (source : ItemSource) :
    (b.halfMade id source).itemsOfFirst b.collections.length =
      b.itemsOfFirst b.collections.length := by
  have htake : (b.withNewDerived id source ++ [Collection.new id source]).take
      b.collections.length = b.withNewDerived id source := by
    rw [← length_withNewDerived b id source, List.take_left]
  unfold itemsOfFirst halfMade
  dsimp only
  rw [htake, List.take_length]
  unfold withNewDerived
  split
  · refine List.ext_getElem? fun q => ?_
    rw [List.getElem?_map, List.getElem?_map, List.getElem?_modify]
    cases b.collections[q]? with
    | none => rfl
    | some c =>
      show some _ = some _
      split <;> rfl
  · rfl

theorem halfMade_ne (b : Browser) (id : String) (source : ItemSource) :
    (b.halfMade id source).collections ≠ b.collections := by
  intro h
  have hlength := congrArg List.length h
  rw [halfMade, List.length_append, length_withNewDerived, List.length_singleton] at hlength
  omega

/-! ## 3. The source of the items -/

theorem addFacet_derived {v : View} {id : String} (e : Expression)
    (hnew : v.collection.hasFacet (derivedId id) = false) :
    View.addFacet (.derived (DerivedFacet.new (derivedId id) e)) v =
      (.ok (), v.withFacet (newDerived id e v.collection)) := by
  rw [View.addFacet_apply, if_neg (by exact Bool.eq_false_iff.mp hnew), if_neg (by exact nofun)]
  rfl

theorem find_apply (id : String) (b : Browser) : find id b = (b.placeOf id, b) := rfl

/-- The place of a collection that there is. -/
theorem placeOf_ok {id : String} {place : Nat} (h : b.placeOf id = .ok place) :
    b.collections.findIdx (fun c => c.id == id) = place ∧
      ∃ c, b.collections[place]? = some c ∧ c.id = id := by
  have hfind : find id b = (.ok place, b) := by rw [find_apply, h]
  refine ⟨?_, (find_ok hfind).2⟩
  unfold placeOf at h
  split at h
  · next found hfound =>
    cases h
    exact (List.findIdx?_eq_some_iff_findIdx_eq.mp hfound).2
  · cases h

theorem putView_self {place : Nat} {c : Collection} (hc : b.collections[place]? = some c) :
    b.putView place ⟨b.store, c⟩ = b := by
  obtain ⟨hlt, rfl⟩ := List.getElem?_eq_some_iff.mp hc
  unfold putView
  rw [List.set_getElem_self]

/-- What a new collection is based on is there, and if it is to be narrowed, it has no facet of that
    name yet. -/
def Admits (b : Browser) (id : String) : ItemSource → Prop
  | .based _ base restricting => ∃ place c, b.placeOf base = .ok place ∧
      b.collections[place]? = some c ∧ (restricting = true → c.hasFacet (derivedId id) = false)
  | _ => True

/-- A new collection leaves the others alone, or its base gets a facet that it has not had. -/
theorem Admits.withNewDerived_cases {id : String} {source : ItemSource} (h : b.Admits id source) :
    (∀ e base, source ≠ .based e base true) ∧ b.withNewDerived id source = b.collections ∨
      ∃ e place c, source = .based e c.id true ∧ b.collections[place]? = some c ∧
        c.hasFacet (derivedId id) = false ∧ b.withNewDerived id source =
          b.collections.set place (c.pushFacet (newDerived id e c)) := by
  cases source with
  | based e base restricting =>
    cases restricting with
    | false =>
      refine .inl ⟨fun _ _ h => ?_, rfl⟩
      cases h
    | true =>
      obtain ⟨place, c, hplace, hc, hhas⟩ := h
      obtain ⟨hidx, c', hc', rfl⟩ := placeOf_ok hplace
      cases hc.symm.trans hc'
      exact .inr ⟨e, place, c, rfl, hc, hhas rfl, withNewDerived_of_place hidx hc⟩
  | _ =>
    refine .inl ⟨fun _ _ h => ?_, rfl⟩
    cases h

/-- Where the items come from is found out without any change, or the base has got its facet. -/
theorem sourceOf_apply (id : String) (config : CollectionConfig) (b : Browser) :
    (∃ failure, b.sourceRefusal id config = some failure ∧
        sourceOf id config b = (.error failure, b)) ∨
      b.sourceRefusal id config = none ∧ ∃ source, b.Admits id source ∧
        sourceOf id config b = (.ok source, { b with collections := b.withNewDerived id source }) := by
  unfold sourceOf sourceRefusal
  cases config.baseCollectionId with
  | none =>
    dsimp only
    cases config.itemTypes with
    | none => exact .inr ⟨rfl, .allItems, trivial, rfl⟩
    | some types => exact .inr ⟨rfl, .ofTypes (KeySet.ofList types), trivial, rfl⟩
  | some base =>
    cases config.expression with
    | none => exact .inl ⟨_, rfl, rfl⟩
    | some text =>
      dsimp only
      rw [bind_apply, ofOutcome_apply]
      cases Expression.parse text with
      | error failure => exact .inl ⟨failure, rfl, rfl⟩
      | ok e =>
        dsimp only
        rw [bind_apply, find_apply]
        cases hplace : b.placeOf base with
        | error failure => exact .inl ⟨failure, rfl, rfl⟩
        | ok place =>
          obtain ⟨hidx, c, hc, rfl⟩ := placeOf_ok hplace
          dsimp only
          rw [hc]
          cases config.restrictBaseCollection with
          | false => exact .inr ⟨rfl, .based e c.id false, ⟨place, c, hplace, hc, nofun⟩, rfl⟩
          | true =>
            rw [if_pos rfl, bind_apply, onCollection_apply, hc]
            dsimp only
            rw [Bool.true_and]
            cases hhas : c.hasFacet (derivedId id) with
            | true =>
              refine .inl ⟨_, if_pos rfl, ?_⟩
              rw [View.addFacet_apply, if_pos (by exact hhas)]
              show (Except.error _, b.putView place ⟨b.store, c⟩) = _
              rw [putView_self hc]
              rfl
            | false =>
              refine .inr ⟨if_neg Bool.false_ne_true, .based e c.id true,
                ⟨place, c, hplace, hc, fun _ => hhas⟩, ?_⟩
              rw [addFacet_derived e (by exact hhas), withNewDerived_of_place hidx hc]
              rfl

/-! ## 4. Creation -/

/-- What can come of creating a collection. -/
inductive Creation (b : Browser) (config : CollectionConfig) : Outcome String × Browser → Prop where
  | refused {failure : Failure} (h : b.refusal config = some failure) :
    Creation b config (.error failure, b)
  | halfMade {source : ItemSource} {failure : Failure} (h : b.refusal config = none)
    (hadmits : b.Admits (b.newId config) source)
    (hroot : (b.halfMade (b.newId config) source).basedRoot b.collections.length = .error failure) :
    Creation b config (.error failure, b.halfMade (b.newId config) source)
  | made {source : ItemSource} {b' : Browser} (h : b.refusal config = none)
    (hadmits : b.Admits (b.newId config) source)
    (hroot : reroot b.collections.length (b.halfMade (b.newId config) source) = (.ok (), b')) :
    Creation b config (.ok (b.newId config), b')

/-- A collection without facets takes any root items, so nothing fails but finding out which. -/
theorem reroot_halfMade (b : Browser) (id : String) (source : ItemSource) :
    (∃ failure, (b.halfMade id source).basedRoot b.collections.length = .error failure ∧
        reroot b.collections.length (b.halfMade id source) =
          (.error failure, b.halfMade id source)) ∨
      ∃ b', reroot b.collections.length (b.halfMade id source) = (.ok (), b') := by
  have hlast : (b.halfMade id source).collections[b.collections.length]? =
      some (.new id source) := by
    rw [← length_withNewDerived b id source]
    exact List.getElem?_concat_length
  have hreroot := reroot_apply b.collections.length (b.halfMade id source)
  rw [onCollection_apply, hlast] at hreroot
  cases hroot : (b.halfMade id source).basedRoot b.collections.length with
  | error failure =>
    rw [hroot] at hreroot
    exact .inl ⟨failure, rfl, hreroot⟩
  | ok root =>
    rw [hroot] at hreroot
    cases root with
    | none => exact .inr ⟨_, hreroot⟩
    | some items =>
      dsimp only at hreroot
      rw [onCollection_apply, hlast] at hreroot
      exact .inr ⟨_, hreroot⟩

/-- **Creating a collection**: a failure comes before anything is changed, or with the last step. -/
theorem creation_buildCollection (config : CollectionConfig) (b : Browser) :
    Creation b config (buildCollection config b) := by
  have hrefusal : b.refusal config = if (b.collection? (b.newId config)).isSome then
      some (.data (.collectionExists (b.newId config)))
    else b.sourceRefusal (b.newId config) config := rfl
  unfold buildCollection
  rw [bind_apply, state_apply]
  dsimp only
  split
  · next hknown =>
    rw [if_pos hknown] at hrefusal
    exact .refused hrefusal
  · next hknown =>
    rw [if_neg hknown] at hrefusal
    rw [bind_apply]
    obtain ⟨failure, hfailure, hsource⟩ | ⟨hnone, source, hadmits, hsource⟩ :=
      sourceOf_apply (b.newId config) config b
    · rw [hsource]
      exact .refused (hrefusal.trans hfailure)
    · have hnone : b.refusal config = none := hrefusal.trans hnone
      rw [hsource]
      dsimp only
      rw [bind_apply, change_apply]
      dsimp only
      show Creation b config ((reroot b.collections.length >>= fun _ => pure (b.newId config))
        (b.halfMade (b.newId config) source))
      rw [bind_apply]
      obtain ⟨failure, hroot, hreroot⟩ | ⟨b', hreroot⟩ :=
        reroot_halfMade b (b.newId config) source
      · rw [hreroot]
        exact .halfMade hnone hadmits hroot
      · rw [hreroot]
        exact .made hnone hadmits hreroot

/-- **A collection that cannot be created** leaves the browser alone exactly if it is refused. Otherwise
    it stays without root items, and its base keeps the facet by which it was to be narrowed; but the
    other collections have the items that they had. -/
theorem createCollection_unchanged_iff {config : CollectionConfig} {failure : Failure}
    (h : buildCollection config b = (.error failure, b')) :
    createCollection config b = (b.settings.errors.settle "" (.error failure), b') ∧
      (b'.collections = b.collections ↔ b.refusal config = some failure) ∧
      b'.itemsOfFirst b.collections.length = b.itemsOfFirst b.collections.length ∧
      (b.refusal config = some failure ∧ b' = b ∨
        b.refusal config = none ∧ ∃ source, b' = b.halfMade (b.newId config) source ∧
          b'.basedRoot b.collections.length = .error failure) := by
  have hcreation := creation_buildCollection config b
  rw [h] at hcreation
  have hcreate : createCollection config b = (b'.settings.errors.settle "" (.error failure), b') := by
    unfold createCollection guarded
    rw [h]
  cases hcreation with
  | refused hrefusal =>
    exact ⟨hcreate, ⟨fun _ => hrefusal, fun _ => rfl⟩, rfl, .inl ⟨hrefusal, rfl⟩⟩
  | halfMade hrefusal _ hroot =>
    refine ⟨hcreate, ⟨fun hsame => absurd hsame (halfMade_ne b _ _), fun hsome => ?_⟩,
      itemsOfFirst_halfMade b _ _, .inr ⟨hrefusal, _, rfl, hroot⟩⟩
    rw [hrefusal] at hsome
    cases hsome

/-! ## 5. A function that there is not -/

/-- The collections with the ids of their facets, their root items and their restricted items. -/
def contents (b : Browser) : List (String × List String × List String × List String) :=
  b.collections.map fun c =>
    (c.id, c.facets.map Facet.id, c.items.toList, c.restricted.toList)

/-- The authors are to be found by a function that nobody knows. -/
def byUnknown : CollectionConfig := { authors with expression := some "penned(.author)" }

/-- The library with its books. -/
def catalogue : Browser := (run [.load books none] library).2

/-- Both ways to fail at one and the same browser: there is no such base, or no such function. -/
theorem unchanged_catalogue :
    (buildCollection { authors with baseCollectionId := some "shelf" } catalogue).2.collections =
        catalogue.collections ∧
      (buildCollection byUnknown catalogue).2.collections ≠ catalogue.collections := by
  obtain ⟨noBase, hnoBase⟩ : ∃ failure, buildCollection
      { authors with baseCollectionId := some "shelf" } catalogue = (.error failure, _) :=
    exists_of_not_isOk (by decide +kernel)
  obtain ⟨noFunction, hnoFunction⟩ : ∃ failure, buildCollection byUnknown catalogue =
      (.error failure, _) := exists_of_not_isOk (by decide +kernel)
  obtain ⟨-, -, -, hrefused⟩ := createCollection_unchanged_iff hnoBase
  obtain ⟨-, hunchanged, -⟩ := createCollection_unchanged_iff hnoFunction
  constructor
  · rcases hrefused with ⟨-, hsame⟩ | ⟨hnone, -⟩
    · rw [hsame]
    · have hsome : (catalogue.refusal { authors with baseCollectionId := some "shelf" }).isSome :=
        by decide +kernel
      rw [hnone] at hsome
      cases hsome
  · have hnone : catalogue.refusal byUnknown = none :=
      Option.not_isSome_iff_eq_none.mp (by decide +kernel)
    intro hsame
    rw [hunchanged.mp hsame] at hnone
    cases hnone

/-- **The authors stay behind without items**, and the books keep the facet by which the authors were
    to narrow them. -/
theorem halfMade_of_unknown :
    (run [.load books none] library).1.isOk = true ∧
      (createCollection byUnknown catalogue).1.isOk = false ∧
      catalogue.contents = [("default", [], ["ann", "bea", "emma", "odes"],
        ["ann", "bea", "emma", "odes"])] ∧
      (createCollection byUnknown catalogue).2.contents =
        [("default", ["collection:authors"], ["ann", "bea", "emma", "odes"],
            ["ann", "bea", "emma", "odes"]),
          ("authors", [], [], [])] := by
  decide +kernel

end Browser

end Faceted
