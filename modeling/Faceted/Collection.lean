import Faceted.Action
import Faceted.Facet.Change

/-!
# Collections

A collection has root items, facets in a fixed order, and the restricted items that are left of the
root when every facet that restricts has narrowed it in turn. Root items come from the store or from
another collection.

Whenever the root or a selection changes, the collection is refreshed: the restricted items are
worked out, then every facet is handed the items that it counts over. These are the restricted items
for a facet that does not restrict, and for one that does the root as all the others narrow it, so
that the values it has not selected keep sensible counts.

A collection is used together with its store, as a `View`.
-/

namespace Faceted

/-! ## 1. The collection -/

/-- Where root items come from. -/
inductive ItemSource where
  | allItems
  /-- The items that have one of the types. -/
  | ofTypes (types : KeySet)
  /-- The values of an expression over the items of another collection. A restricting collection
      narrows that one in turn. -/
  | based (expression : Expression) (base : String) (restricting : Bool)

/-- What a collection tells those who listen. -/
inductive CollectionEvent where
  | rootItemsChanged
  | itemsChanged
  deriving DecidableEq, Repr

structure Collection where
  id : String
  source : ItemSource
  items : KeySet
  restricted : KeySet
  facets : List Facet
  /-- Is a batch under way, so that changes of facets wait for its end? -/
  updating : Bool
  /-- What has been told so far, in order. -/
  told : List CollectionEvent

namespace Collection

def new (id : String) (source : ItemSource) : Collection := ⟨id, source, ∅, ∅, [], false, []⟩

/-- The collection that this one is based on. -/
def base? (c : Collection) : Option String :=
  match c.source with
  | .based _ base _ => some base
  | _ => none

def isRestricting (c : Collection) : Bool :=
  match c.source with
  | .based _ _ restricting => restricting
  | _ => false

/-- Does any facet restrict? -/
def hasRestrictions (c : Collection) : Bool := c.facets.any Facet.hasRestrictions

def facet? (c : Collection) (id : String) : Option Facet := c.facets.find? fun f => f.id == id

def hasFacet (c : Collection) (id : String) : Bool := c.facets.any fun f => f.id == id

/-- The place of the facet among the facets. -/
def place? (c : Collection) (id : String) : Option Nat := c.facets.findIdx? fun f => f.id == id

def pushFacet (c : Collection) (f : Facet) : Collection := { c with facets := c.facets ++ [f] }

def dropFacet (c : Collection) (id : String) : Collection :=
  { c with facets := c.facets.eraseP fun f => f.id == id }

end Collection

/-- A collection with the store that its items come from. -/
structure View where
  store : Store
  collection : Collection

namespace View

open Faceted.Action

/-! ## 2. Single facets -/

/-- What the facets see. -/
def scene (v : View) : Scene := ⟨v.store, v.collection.items⟩

/-- The places of all facets, in order. -/
def places (v : View) : List Nat := List.range v.collection.facets.length

def putFacet (v : View) (place : Nat) (f : Facet) (store : Store) : View :=
  ⟨store, { v.collection with facets := v.collection.facets.set place f }⟩

/-- Changes the collection. -/
def modify (f : Collection → Collection) : Action View Unit :=
  change fun v => { v with collection := f v.collection }

def tell (event : CollectionEvent) : Action View Unit :=
  modify fun c => { c with told := c.told ++ [event] }

/-- What the facet at a place does, if there is one. -/
def atPlace {α : Type} (place : Nat) (otherwise : α)
    (act : Facet → Scene → Outcome α × Facet × Store) : Action View α := fun v =>
  match v.collection.facets[place]? with
  | none => (.ok otherwise, v)
  | some f =>
    let (answer, f, store) := act f v.scene
    (answer, v.putFacet place f store)

/-- Narrows the items by the facet at a place, if it restricts. -/
def restrictAt (place : Nat) (items : KeySet) : Action View KeySet :=
  atPlace place items fun f scene =>
    if f.hasRestrictions then f.restrict scene items else (.ok items, f, scene.store)

def updateAt (place : Nat) (items : KeySet) : Action View Unit :=
  atPlace place () fun f scene => f.update scene items

/-- Does the facet at a place restrict? -/
def restrictsAt (v : View) (place : Nat) : Bool :=
  (v.collection.facets[place]?.map Facet.hasRestrictions).getD false

/-! ## 3. Refreshing -/

/-- Narrows the items by the facets at the places, in their order. -/
def narrow : List Nat → KeySet → Action View KeySet
  | [], items => pure items
  | place :: rest, items => do
    let items ← restrictAt place items
    narrow rest items

/-- Works out the restricted items. If that fails they stay as they were. -/
def narrowRoot : Action View Unit := do
  let v ← state
  let restricted ← narrow v.places v.collection.items
  modify fun c => { c with restricted }

/-- The items that the facet at a place counts over; `several` says whether more than one facet
    restricts. -/
def inputAt (several : Bool) (place : Nat) : Action View KeySet := do
  let v ← state
  if !v.restrictsAt place then return v.collection.restricted
  else if !several then return v.collection.items
  else narrow (v.places.filter (· != place)) v.collection.items

/-- Hands every facet the items that it counts over. All of these are worked out before the first
    facet gets its own. -/
def updateFacets : Action View Unit := do
  let v ← state
  let several := 1 < (v.collection.facets.filter Facet.hasRestrictions).length
  let inputs ← collect (inputAt several) v.places
  each (fun (place, items) => updateAt place items) (v.places.zip inputs)

/-- Brings restricted items and facets up to date. -/
def refresh : Action View Unit := do
  narrowRoot
  updateFacets
  tell .itemsChanged

/-! ## 4. Root items -/

/-- Refreshes everything after the root items, or what is known about them, have changed. -/
def rootChanged : Action View Unit := do
  modify fun c => { c with facets := c.facets.map Facet.dropCaches }
  tell .rootItemsChanged
  refresh

/-- The root items of the collection in the store; those of a collection that is based on another one
    do not come from there. -/
def rootItems (v : View) : KeySet :=
  match v.collection.source with
  | .allItems => v.store.items
  | .ofTypes types => v.store.subjectsUnion types "type" ∅ none
  | .based _ _ _ => v.collection.items

/-- Takes the root items from the store. -/
def reroot : Action View Unit := do
  change fun v => { v with collection := { v.collection with items := v.rootItems } }
  rootChanged

/-- Takes the given root items. -/
def setRoot (items : KeySet) : Action View Unit := do
  modify fun c => { c with items }
  rootChanged

/-! ## 5. Facets -/

/-- The facet after it has counted over the restricted items. -/
def updated (f : Facet) : Action View Facet := fun v =>
  match f.update v.scene v.collection.restricted with
  | (.ok (), f, store) => (.ok f, { v with store })
  | (.error failure, _, store) => (.error failure, { v with store })

/-- Adds a facet behind the others. One that does not restrict is added only if it can be shown; one
    that restricts is there from the start, whatever comes of it. -/
def addFacet (f : Facet) : Action View Unit := do
  let v ← state
  if v.collection.hasFacet f.id then fail (.data (.facetExists v.collection.id f.id))
  else if f.hasRestrictions then
    modify fun c => c.pushFacet f
    refresh
  else
    let f ← updated f
    modify fun c => c.pushFacet f

/-- Removes a facet and hands it out; none if there is no such facet. -/
def removeFacet (id : String) : Action View (Option Facet) := do
  let v ← state
  match v.collection.facet? id with
  | none => return none
  | some f =>
    modify fun c => c.dropFacet id
    if f.hasRestrictions then refresh
    return some f

/-- Refreshes after a facet has changed, unless a batch is under way. -/
def facetChanged : Action View Unit := do
  let v ← state
  if v.collection.updating then return ()
  else refresh

/-- Lets something be done to a facet; if it says that it changed the selection, the rest follows. -/
def changeFacetBy (id : String) (act : Facet → Scene → Outcome Bool × Facet) : Action View Bool := do
  let v ← state
  match v.collection.place? id with
  | none => fail (.data (.noFacet v.collection.id id))
  | some place =>
    let changed ← atPlace place false fun f scene =>
      let (changed, f) := act f scene
      (changed, f, scene.store)
    if changed then facetChanged
    return changed

/-- Does a change to a facet. -/
def changeFacet (id : String) (change : Change) : Action View Bool :=
  changeFacetBy id fun f scene => f.perform scene change

/-! ## 6. Batches -/

/-- Runs an action with the updates of facets held back, and refreshes once at its end, even if the
    action fails. Of two failures the action's counts. -/
def batch {α : Type} (act : Action View α) : Action View α := do
  modify fun c => { c with updating := true }
  let outcome ← attempt act
  modify fun c => { c with updating := false }
  let refreshed ← attempt refresh
  let x ← ofOutcome outcome
  ofOutcome refreshed
  return x

/-- Clears every facet and returns their states, in the order of the facets. -/
def clearAll : Action View (List FacetState) :=
  batch do
    let v ← state
    modify fun c => { c with facets := c.facets.map fun f => f.clear.2 }
    return v.collection.facets.map fun f => f.clear.1

/-- Hands the states to the facets in order, up to the first that does not fit. -/
def applyEach : List Facet → List FacetState → Outcome Unit × List Facet
  | f :: fs, state :: states =>
    match f.apply state with
    | .error failure => (.error failure, f :: fs)
    | .ok f =>
      let (outcome, fs) := applyEach fs states
      (outcome, f :: fs)
  | fs, _ => (.ok (), fs)

/-- Hands states that were returned by `clearAll` back to the facets. -/
def applyAll (states : List FacetState) : Action View Unit :=
  batch fun v =>
    let (outcome, facets) := applyEach v.collection.facets states
    (outcome, { v with collection := { v.collection with facets } })

end View

end Faceted
