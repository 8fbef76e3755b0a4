import Faceted.Browser.Operations

/-!
# Bookmarks

The state of a browser is the states of the facets that a user acts on, by the ids of their
collections and their own. It can be written as JSON, kept as a bookmark and imported again; facets
that a state does not mention are cleared.
-/

namespace Faceted

open Faceted.Action

/-! ## 1. States -/

/-- States of facets by collection and facet. -/
abbrev BrowserState := KeyMap (KeyMap FacetState)

namespace BrowserState

/-- The states in the fields of an object. -/
def facetStates? (v : Json) : Option (KeyMap FacetState) := do
  let fields ← v.fields?
  let states ← fields.mapM fun (facet, state) => do return (facet, ← FacetState.ofJson? state)
  return KeyMap.ofList states

def ofJson? (v : Json) : Option BrowserState := do
  let fields ← v.fields?
  let states ← fields.mapM fun (collection, states) => do
    return (collection, ← facetStates? states)
  return KeyMap.ofList states

def ofJson (v : Json) : Outcome BrowserState :=
  match ofJson? v with
  | some s => .ok s
  | none => .error .json

def toJson (s : BrowserState) : Json :=
  .object (s.toList.map fun (collection, states) =>
    (collection, .object (states.toList.map fun (facet, state) => (facet, state.toJson))))

/-- The state that a facet is to take; one that is not mentioned is to be empty. -/
def target (s : BrowserState) (collection : String) (f : Facet) : FacetState :=
  ((s.get? collection).bind fun states => states.get? f.id).getD f.emptyState

end BrowserState

namespace Browser

/-! ## 2. Export -/

/-- The states of the facets of a collection that a user acts on. -/
def facetStates (c : Collection) : KeyMap FacetState :=
  KeyMap.ofList ((c.facets.filter Facet.isForUser).map fun f => (f.id, f.exportState))

def exportState (b : Browser) : BrowserState :=
  KeyMap.ofList (b.collections.map fun c => (c.id, facetStates c))

/-! ## 3. Import -/

/-- Imports the states of one collection's facets, in one batch. -/
def restoreFacets (s : BrowserState) : Action View Bool := do
  let v ← state
  View.batch <|
    anyOf
      (fun id => View.changeFacetBy id fun f _ =>
        f.orStay (f.importState (s.target v.collection.id f)))
      ((v.collection.facets.filter Facet.isForUser).map Facet.id)

/-- Imports the states of the collection at a place. If a state does not fit, the facets before it
    may have changed, so the other collections are brought in line in that case too. -/
def restoreAt (s : BrowserState) (place : Nat) : Action Browser Bool := do
  let outcome ← attempt (onCollection place false (restoreFacets s))
  match outcome with
  | .ok false => return false
  | .ok true =>
    settle place
    return true
  | .error failure =>
    settle place
    fail failure

def restore (s : BrowserState) : Action Browser Bool := do
  let b ← state
  anyOf (restoreAt s) b.places

/-- Takes over a state and says whether that changed anything. -/
def importState (s : BrowserState) : Action Browser Bool :=
  guarded false (restore s)

/-- Clears all facets and yields the state before. -/
def clearAll : Action Browser BrowserState := do
  let b ← state
  let _ ← importState ∅
  return b.exportState

end Browser

end Faceted
