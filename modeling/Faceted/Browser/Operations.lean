import Faceted.Browser.Basic
import Faceted.Store.Loading

/-!
# Operations of browsers

Loading data, creating collections, adding and removing facets, changing them, typing, and evaluating
expressions. Every operation keeps the collections in line with each other and treats its failures as
the settings say.
-/

namespace Faceted

open Faceted.Action

/-! ## 1. Configurations of collections -/

/-- What a collection is set up with, as a record of JSON. -/
structure CollectionConfig where
  id : Option String
  /-- The types whose items make up the collection. -/
  itemTypes : Option (List String)
  /-- What takes the items of the base to those of the collection. -/
  expression : Option String
  baseCollectionId : Option String
  restrictBaseCollection : Bool

namespace CollectionConfig

/-- The names of the fields in their order. -/
def fieldNames : List String :=
  ["id", "itemTypes", "expression", "baseCollectionId", "restrictBaseCollection"]

def ofJson? (v : Json) : Option CollectionConfig := do
  let field ← v.record? fieldNames
  return {
    id := ← Json.optional? Json.string? (field "id")
    itemTypes := ← Json.optional? Json.strings? (field "itemTypes")
    expression := ← Json.optional? Json.string? (field "expression")
    baseCollectionId := ← Json.optional? Json.string? (field "baseCollectionId")
    restrictBaseCollection := ← Json.orDefault? false Json.bool? (field "restrictBaseCollection") }

def ofJson (v : Json) : Outcome CollectionConfig :=
  match ofJson? v with
  | some c => .ok c
  | none => .error .json

end CollectionConfig

namespace Browser

/-! ## 2. Data -/

/-- The events after which the collections are out of date. -/
def isStaleAfter (events : List StoreEvent) : Bool :=
  events.contains .afterLoadingItems || events.contains .afterRemovingAllStatements

/-- Gives all collections their root items anew, in order, up to the first failure. -/
def refreshAll : Action Browser Unit := do
  let b ← state
  each reroot b.places

/-- Refreshes the collections if the store has changed. -/
def refreshIfDirty : Action Browser Unit := do
  let b ← state
  change fun b => { b with dirty := false }
  if b.dirty then guarded () refreshAll else return ()

/-- Loads a payload into the store. -/
def loadStore (payload : Json) (base : String) : Action Browser Unit := fun b =>
  match b.store.load payload base with
  | .error failure => (.error failure, b)
  | .ok (store, events) => (.ok (), { b with store, dirty := b.dirty || isStaleAfter events })

/-- Loads a payload and refreshes the collections. Without a base the one of the settings is used. -/
def load (payload : Json) (base : Option String) : Action Browser Unit := do
  let b ← state
  guarded () (loadStore payload (base.getD b.settings.baseUri))
  refreshIfDirty

/-- Lets something be done to the store and refreshes the collections. -/
def updateStore {α : Type} (act : Store → α × Store) : Action Browser α := do
  let b ← state
  let (answer, store) := act b.store
  change fun b => { b with store, dirty := true }
  refreshIfDirty
  return answer

/-! ## 3. Collections -/

/-- Where the items of a new collection come from. A restricting collection gets its facet on the
    base. -/
def sourceOf (id : String) (config : CollectionConfig) : Action Browser ItemSource := do
  match config.baseCollectionId, config.expression with
  | some base, some text =>
    let e ← ofOutcome (Expression.parse text)
    let place ← find base
    if config.restrictBaseCollection then
      onCollection place () (View.addFacet (.derived (DerivedFacet.new (derivedId id) e)))
    return .based e base config.restrictBaseCollection
  | some base, none => fail (.data (.baseWithoutExpression id base))
  | none, _ =>
    match config.itemTypes with
    | some types => return .ofTypes (KeySet.ofList types)
    | none => return .allItems

/-- The id of a new collection; one without an id is named by counting. -/
def newId (b : Browser) (config : CollectionConfig) : String :=
  config.id.getD ("collection" ++ toString b.collections.length)

def buildCollection (config : CollectionConfig) : Action Browser String := do
  let b ← state
  let id := b.newId config
  if (b.collection? id).isSome then fail (.data (.collectionExists id))
  else
    let source ← sourceOf id config
    change fun b => { b with collections := b.collections ++ [.new id source] }
    reroot b.collections.length
    return id

/-- Creates a collection and yields its id. -/
def createCollection (config : CollectionConfig) : Action Browser String :=
  guarded "" (buildCollection config)

/-! ## 4. Facets -/

/-- How many facets the collection at a place has. -/
def facetCount (b : Browser) (place : Nat) : Nat :=
  (b.collections[place]?.map fun c => c.facets.length).getD 0

def attachFacet (collection : String) (config : FacetConfig) : Action Browser String := do
  let place ← find collection
  let b ← state
  let f ← ofOutcome (config.build b.settings (b.facetCount place))
  onCollection place () (View.addFacet f)
  if f.hasRestrictions then settle place
  return f.id

/-- Adds the facet that is described to a collection and yields its id. -/
def addFacet (collection : String) (config : FacetConfig) : Action Browser String :=
  guarded "" (attachFacet collection config)

def detachFacet (collection facet : String) : Action Browser Bool := do
  let place ← find collection
  match ← onCollection place none (View.removeFacet facet) with
  | none => return false
  | some f =>
    if f.hasRestrictions then settle place
    return true

/-- Removes a facet from a collection and says whether it was there. -/
def removeFacet (collection facet : String) : Action Browser Bool :=
  guarded false (detachFacet collection facet)

def applyToFacet (collection facet : String) (act : Facet → Scene → Outcome Bool × Facet) :
    Action Browser Bool := do
  let place ← find collection
  let changed ← onCollection place false (View.changeFacetBy facet act)
  if changed then settle place
  return changed

/-- Lets something be done to a facet; if it says that it changed the selection, the rest follows. -/
def changeFacetBy (collection facet : String) (act : Facet → Scene → Outcome Bool × Facet) :
    Action Browser Bool :=
  guarded false (applyToFacet collection facet act)

/-- Does a change to a facet and says whether it changed the selection. -/
def changeFacet (collection facet : String) (change : Change) : Action Browser Bool :=
  changeFacetBy collection facet fun f scene => f.perform scene change

/-! ## 5. Typing -/

/-- Types into a facet, which has to be a text search. -/
def typeInto (text : String) (now : Nat) (enter : Bool) (f : Facet) (scene : Scene) :
    Outcome Bool × Facet :=
  match f with
  | .textSearch _ => f.perform scene (.input text now enter)
  | other => (.error (.data (.notTextual other.id)), other)

/-- Takes a keystroke in the box of a text search. -/
def input (collection facet text : String) (now : Nat) (enter : Bool) : Action Browser Bool :=
  changeFacetBy collection facet (typeInto text now enter)

/-- Does the facet hold back input? -/
def isPending : Facet → Bool
  | .textSearch f => f.debouncer.isPending
  | _ => false

/-- Applies the input that is due in the collection at a place. -/
def tickAt (now : Nat) (place : Nat) : Action Browser Bool := do
  let b ← state
  match b.collections[place]? with
  | none => return false
  | some c =>
    anyOf (fun f => changeFacet c.id f (.poll now)) ((c.facets.filter isPending).map Facet.id)

/-- Applies all input that is due and says whether that changed anything. -/
def tick (now : Nat) : Action Browser Bool := do
  let b ← state
  anyOf (tickAt now) b.places

/-! ## 6. Expressions -/

/-- The values of the text read as an expression. -/
def evaluate (b : Browser) (source : String) (roots : Roots) : Outcome Values :=
  b.settings.errors.settle (.empty .text) do
    let e ← Expression.parse source
    e.eval roots Roots.defaultName b.store

/-- The values of an expression on an item. -/
def evaluateOnItem (b : Browser) (source item : String) : Outcome Values :=
  b.evaluate source (Roots.ofItem item)

end Browser

end Faceted
