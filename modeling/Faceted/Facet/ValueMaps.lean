import Faceted.Expression.Eval

/-!
# Which items have which values

A facet relates the items of its collection to the values of its expression. A path answers from the
store by walking it forward and backward. Any other expression is evaluated once for every root item
of the collection, and the outcome is kept (`ValueMaps`) until the root items change; `ValueCache`
is the place where it is kept. Whether an item has no value is always answered from the kept outcome.
-/

namespace Faceted

open Faceted.Expression

/-- What a facet sees of its collection: the store and the root items. -/
structure Scene where
  store : Store
  allItems : KeySet

/-! ## 1. The maps -/

/-- The values of every item and the items of every value. -/
structure ValueMaps where
  valuesOf : KeyMap KeySet
  itemsOf : KeyMap KeySet
  missing : KeySet
  type : ValueType

namespace ValueMaps

def empty : ValueMaps := ⟨∅, ∅, ∅, .text⟩

/-- Adds a key to the set that a map has for another key. -/
def addTo (m : KeyMap KeySet) (k member : String) : KeyMap KeySet :=
  m.insert k (((m.get? k).getD ∅).insert member)

/-- Enters one item with its values. -/
def enter (maps : ValueMaps) (item : String) (values : Values) : ValueMaps :=
  if values.isEmpty then { maps with missing := maps.missing.insert item }
  else
    { maps with
      type := values.type
      valuesOf := values.toList.foldl (fun m v => addTo m item v) maps.valuesOf
      itemsOf := values.toList.foldl (fun m v => addTo m v item) maps.itemsOf }

/-- Evaluates the expression on every item. -/
def build (scene : Scene) (e : Expression) : Outcome ValueMaps := do
  let results ← scene.allItems.toList.mapM fun item => return (item, ← e.evalOnItem item scene.store)
  return results.foldl (fun maps r => maps.enter r.1 r.2) empty

/-- The items of a value. -/
def holders (maps : ValueMaps) (value : String) : KeySet := (maps.itemsOf.get? value).getD ∅

end ValueMaps

/-! ## 2. The cache -/

/-- The maps, once they have been needed. -/
abbrev ValueCache := Option ValueMaps

namespace ValueCache

/-- The kept maps, or new ones if none are kept. What was built is kept. -/
def maps (cache : ValueCache) (scene : Scene) (e : Expression) : Outcome ValueMaps × ValueCache :=
  match cache with
  | some maps => (.ok maps, cache)
  | none =>
    match ValueMaps.build scene e with
    | .ok maps => (.ok maps, some maps)
    | .error failure => (.error failure, none)

/-- Answers a question from the maps. -/
def ask {α : Type} (cache : ValueCache) (scene : Scene) (e : Expression) (answer : ValueMaps → α) :
    Outcome α × ValueCache :=
  let (maps, cache) := cache.maps scene e
  (maps.map answer, cache)

/-! ## 3. Questions -/

/-- The items that pass the filter and have one of the values. -/
def itemsWith (cache : ValueCache) (scene : Scene) (e : Expression) (values filter : KeySet) :
    Outcome KeySet × ValueCache :=
  match e.path? with
  | some p =>
    (.ok (walkBackward scene.store (some filter) p.hops (.ofSet values .text)).toSet, cache)
  | none =>
    cache.ask scene e fun maps =>
      values.toList.foldl (fun set v => set.union ((maps.holders v).inter filter)) ∅

/-- Adds to a set the items that pass the filter and have no value. -/
def itemsWithout (cache : ValueCache) (scene : Scene) (e : Expression) (filter into : KeySet) :
    Outcome KeySet × ValueCache :=
  cache.ask scene e fun maps => into.union (filter.inter maps.missing)

/-- How many of the items have no value. -/
def countWithout (cache : ValueCache) (scene : Scene) (e : Expression) (items : KeySet) :
    Outcome Nat × ValueCache :=
  cache.ask scene e fun maps => (items.inter maps.missing).size

/-- The values of the items, each with the number of the items that have it. -/
def countsOf (cache : ValueCache) (scene : Scene) (e : Expression) (items : KeySet) :
    Outcome (List (String × Nat) × ValueType) × ValueCache :=
  match e.path? with
  | some p =>
    let values := walkForward scene.store p.hops (.ofSet items .item)
    let count (v : String) : Nat :=
      (walkBackward scene.store (some items) p.hops (.single v values.type)).size
    (.ok (values.toList.map fun v => (v, count v), values.type), cache)
  | none =>
    cache.ask scene e fun maps =>
      ((maps.itemsOf.toList.map fun (v, holders) => (v, (holders.inter items).size)).filter
        fun c => 0 < c.2, maps.type)

/-- The values of the items. -/
def valuesOf (cache : ValueCache) (scene : Scene) (e : Expression) (items : KeySet) :
    Outcome KeySet × ValueCache :=
  match e.path? with
  | some p => (.ok (walkForward scene.store p.hops (.ofSet items .item)).toSet, cache)
  | none =>
    cache.ask scene e fun maps =>
      items.toList.foldl (fun set item => set.union ((maps.valuesOf.get? item).getD ∅)) ∅

end ValueCache

end Faceted
