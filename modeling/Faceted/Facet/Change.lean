import Faceted.Facet.Basic

/-!
# Changes of facets

What can be done to a facet by hand: clicks, typing, and taking over a state. A change yields whether
it changed the selection; a change that is meant for another kind of facet does nothing.

Moments are in milliseconds.
-/

namespace Faceted

/-! ## 1. Changes -/

inductive Change where
  /-- Takes over a state if it is another one. -/
  | importState (state : FacetState)
  /-- Takes over a state in any case. -/
  | apply (state : FacetState)
  /-- Drops the selection. -/
  | clear
  /-- Clicks a value of a list or cloud; no value stands for the items without one. -/
  | toggleValue (value : Option String) (only : Bool)
  /-- Replaces the selection of a list or cloud. -/
  | select (values : KeySet) (missing : Bool)
  /-- Clicks a bucket of numbers. -/
  | toggleNumbers (low high : Float) (only : Bool)
  /-- Selects or deselects a bucket of numbers. -/
  | setNumbers (low high : Float) (selected : Bool)
  /-- Clicks a bucket of letters. -/
  | toggleLetters (low high : String) (only : Bool)
  /-- Clicks a node of a hierarchy. -/
  | toggleNode (node : NodeSelection) (only : Bool)
  /-- Replaces what a derived facet lets through. -/
  | restrictTo (allowed : Option KeySet)
  /-- Sets the query of a text search at once. -/
  | setText (text : String)
  /-- Types into the box of a text search. -/
  | input (text : String) (now : Nat) (enter : Bool)
  /-- Applies input of a text search that is due. -/
  | poll (now : Nat)
  /-- Lets a text search wait for Enter, or not; yields the new setting. -/
  | requireEnter (on : Bool)

/-! ## 2. Doing them -/

namespace Facet

/-- The answer of a kind that cannot fail, as the answer of a facet. -/
def surely {φ : Type} (wrap : φ → Facet) (answer : Bool × φ) : Outcome Bool × Facet :=
  (.ok answer.1, wrap answer.2)

/-- The answer of an operation that leaves the facet alone if it fails. -/
def orStay (f : Facet) (answer : Outcome (Bool × Facet)) : Outcome Bool × Facet :=
  match answer with
  | .ok (changed, f) => (.ok changed, f)
  | .error failure => (.error failure, f)

/-- A change of the list inside a list or cloud facet. -/
def onList (f : Facet) (act : ListFacet → Bool × ListFacet) : Outcome Bool × Facet :=
  match f with
  | .list f => surely .list (act f)
  | .cloud f => surely (fun list => .cloud { f with list }) (act f.list)
  | other => (.ok false, other)

/-- A change of a text search. -/
def onTextSearch (f : Facet) (act : TextSearchFacet → Bool × TextSearchFacet) :
    Outcome Bool × Facet :=
  match f with
  | .textSearch f => surely .textSearch (act f)
  | other => (.ok false, other)

/-- A change of a number facet. -/
def onNumbers (f : Facet) (act : NumericRangeFacet → Bool × NumericRangeFacet) :
    Outcome Bool × Facet :=
  match f with
  | .numericRange f => surely .numericRange (act f)
  | other => (.ok false, other)

/-- Does a change and says whether it changed the selection. -/
def perform (f : Facet) (scene : Scene) (change : Change) : Outcome Bool × Facet :=
  match change with
  | .importState state => f.orStay (f.importState state)
  | .apply state => f.orStay ((f.apply state).map fun f => (true, f))
  | .clear => (.ok true, f.clear.2)
  | .toggleValue value only => f.onList fun f => f.toggle value only
  | .select values missing => f.onList fun f => f.select values missing
  | .toggleNumbers low high only => f.onNumbers fun f => f.toggle low high only
  | .setNumbers low high selected => f.onNumbers fun f => f.setRange low high selected
  | .toggleLetters low high only =>
    match f with
    | .alphaRange f => surely .alphaRange (f.toggle low high only)
    | other => (.ok false, other)
  | .toggleNode node only =>
    match f with
    | .hierarchical f =>
      let (changed, f) := f.toggle scene node only
      (changed, .hierarchical f)
    | other => (.ok false, other)
  | .restrictTo allowed =>
    match f with
    | .derived f => surely .derived (f.setRestriction allowed)
    | other => (.ok false, other)
  | .setText text => f.onTextSearch fun f => f.setText text
  | .input text now enter => f.onTextSearch fun f => f.input text now enter
  | .poll now => f.onTextSearch fun f => f.poll now
  | .requireEnter on => f.onTextSearch fun f => (on, { f with requiresEnter := on })

end Facet

end Faceted
