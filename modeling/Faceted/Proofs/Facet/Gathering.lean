import Faceted.Facet.Buckets
import Faceted.Facet.TextSearch
import Faceted.Proofs.Running

/-!
# Going through the root items

A search and a facet of ranges go through the root items once and put down what they find for each of
them. If nothing fails on the way, each item is afterwards found with what belongs to it.

* `mapM_pairs_get?`: putting down item by item;
* `TextSearchFacet.buildTexts_get?`: the texts that are searched;
* `LocalIndex.build_ofItems`: the index over the values that have a place.
-/

namespace Faceted

/-- Done for every element of a set and put into a map, what is done for each is found there. -/
theorem mapM_pairs_get? {β : Type} (act : String → Outcome β) {items : KeySet}
    (h : ∀ x ∈ items, ∃ y, act x = .ok y) :
    ∃ pairs, (items.toList.mapM fun x => return (x, ← act x) : Outcome (List (String × β))) =
        .ok pairs ∧
      ∀ x ∈ items, ∀ y, act x = .ok y → (KeyMap.ofList pairs).get? x = some y := by
  obtain ⟨pairs, hpairs⟩ := mapM_pairs_succeeds fun x hx => h x (KeySet.mem_toList.mp hx)
  obtain ⟨hkeys, hdone⟩ := ok_of_mapM_pairs hpairs
  refine ⟨pairs, hpairs, fun x hx y hy => ?_⟩
  have hdistinct : (pairs.map Prod.fst).Nodup := hkeys ▸ items.nodup_toList
  have hlisted : x ∈ pairs.map Prod.fst := hkeys ▸ KeySet.mem_toList.mpr hx
  obtain ⟨pair, hmem, rfl⟩ := List.mem_map.mp hlisted
  rw [KeyMap.get?_ofList hdistinct, lookupKey_of_mem hdistinct hmem]
  exact congrArg some (Except.ok.inj ((hdone pair hmem).symm.trans hy))

/-- Each root item is found with its texts. -/
theorem TextSearchFacet.buildTexts_get? (searched : Searched) (scene : Scene)
    (h : ∀ x ∈ scene.allItems, ∃ found, textsOf searched scene.store x = .ok found) :
    ∃ texts, buildTexts searched scene = .ok texts ∧
      ∀ x ∈ scene.allItems, ∀ found, textsOf searched scene.store x = .ok found →
        texts.get? x = some found := by
  obtain ⟨pairs, hpairs, hget⟩ := mapM_pairs_get? (textsOf searched scene.store) h
  refine ⟨KeyMap.ofList pairs, ?_, hget⟩
  unfold buildTexts
  rw [hpairs]
  rfl

namespace LocalIndex

/-- The places of an item's values. -/
def placesOf (scene : Scene) (e : Expression) (convert : String → Option RangeValue) (item : String) :
    Outcome (List RangeValue) :=
  (e.evalOnItem item scene.store).map fun found => found.toList.filterMap convert

/-- Each root item stands in the index with the places of its values. -/
theorem build_ofItems {scene : Scene} {e : Expression} (convert : String → Option RangeValue)
    (h : ∀ x ∈ scene.allItems, ∃ found, e.evalOnItem x scene.store = .ok found) :
    ∃ values, build scene e convert = .ok (RangeIndex.ofItems scene.allItems values) ∧
      ∀ x ∈ scene.allItems, ∀ found, e.evalOnItem x scene.store = .ok found →
        values x = found.toList.filterMap convert := by
  have hplaces {x : String} {found : Values} (hfound : e.evalOnItem x scene.store = .ok found) :
      placesOf scene e convert x = .ok (found.toList.filterMap convert) := by
    rw [placesOf, hfound]
    rfl
  obtain ⟨pairs, hpairs, hget⟩ := mapM_pairs_get? (placesOf scene e convert) fun x hx => by
    obtain ⟨found, hfound⟩ := h x hx
    exact ⟨_, hplaces hfound⟩
  refine ⟨fun x => ((KeyMap.ofList pairs).get? x).getD [], ?_, fun x hx found hfound => ?_⟩
  · have hsteps : (scene.allItems.toList.mapM fun item => do
        let values ← e.evalOnItem item scene.store
        return (item, values.toList.filterMap convert) : Outcome _) = .ok pairs := by
      rw [← hpairs]
      congr 1
      funext x
      unfold placesOf
      cases e.evalOnItem x scene.store <;> rfl
    unfold build
    rw [hsteps]
    rfl
  · dsimp only
    rw [hget x hx _ (hplaces hfound), Option.getD_some]

end LocalIndex

end Faceted
