import Faceted.Facet.AlphaRange
import Faceted.Facet.Cloud
import Faceted.Facet.Derived
import Faceted.Facet.Hierarchical
import Faceted.Facet.NumericRange
import Faceted.Facet.TextSearch
import Faceted.Text.Case

/-!
# Facets

A facet narrows the items of a collection and shows what it could narrow them to. There are seven
kinds; a user sets up six of them, by the name of their class, and a collection puts the seventh on
the collection that it restricts.

Every operation returns the facet afterwards, since answers may fill what the facet keeps about its
collection. The number facet may also build an index in the store, so `restrict` and `update` return
the store as well.
-/

namespace Faceted

open Faceted.Text

/-! ## 1. Classes -/

/-- The kinds of facets that a user sets up. -/
inductive FacetClass where
  | list
  | cloud
  | numericRange
  | alphaRange
  | hierarchical
  | textSearch
  deriving DecidableEq, Repr

namespace FacetClass

def all : List FacetClass :=
  [.list, .cloud, .numericRange, .alphaRange, .hierarchical, .textSearch]

theorem mem_all (c : FacetClass) : c ∈ all := by
  cases c <;> decide

def name : FacetClass → String
  | .list => "List"
  | .cloud => "Cloud"
  | .numericRange => "NumericRange"
  | .alphaRange => "AlphaRange"
  | .hierarchical => "Hierarchical"
  | .textSearch => "TextSearch"

/-- A text with its ASCII letters in lower case. -/
def folded (s : String) : List Char := s.toList.map Char.toLower

/-- The class of that name; the case of ASCII letters does not matter. -/
def ofName (s : String) : Outcome FacetClass :=
  match all.find? fun c => folded c.name == folded s with
  | some c => .ok c
  | none => .error (.unknownTag .facetClass s)

theorem ofName_name (c : FacetClass) : ofName c.name = .ok c := by
  cases c <;> rfl

end FacetClass

/-! ## 2. The type -/

inductive Facet where
  | list (facet : ListFacet)
  | cloud (facet : CloudFacet)
  | numericRange (facet : NumericRangeFacet)
  | alphaRange (facet : AlphaRangeFacet)
  | hierarchical (facet : HierarchicalFacet)
  | textSearch (facet : TextSearchFacet)
  | derived (facet : DerivedFacet)

namespace Facet

def id : Facet → String
  | .list f => f.id
  | .cloud f => f.list.id
  | .numericRange f => f.id
  | .alphaRange f => f.id
  | .hierarchical f => f.id
  | .textSearch f => f.id
  | .derived f => f.id

/-- The class, for the facets that a user sets up and acts on. -/
def class? : Facet → Option FacetClass
  | .list _ => some .list
  | .cloud _ => some .cloud
  | .numericRange _ => some .numericRange
  | .alphaRange _ => some .alphaRange
  | .hierarchical _ => some .hierarchical
  | .textSearch _ => some .textSearch
  | .derived _ => none

/-- Is the facet one that a user acts on? -/
def isForUser (f : Facet) : Bool := f.class?.isSome

/-- The heading of a facet that is shown. -/
def label? : Facet → Option String
  | .list f => some f.label
  | .cloud f => some f.list.label
  | .numericRange f => some f.label
  | .alphaRange f => some f.label
  | .hierarchical f => some f.label
  | .textSearch f => some f.label
  | .derived _ => none

/-- Does the facet narrow anything at present? -/
def hasRestrictions : Facet → Bool
  | .list f => f.hasRestrictions
  | .cloud f => f.list.hasRestrictions
  | .numericRange f => f.hasRestrictions
  | .alphaRange f => f.hasRestrictions
  | .hierarchical f => f.hasRestrictions
  | .textSearch f => f.hasRestrictions
  | .derived f => f.hasRestrictions

/-! ## 3. Narrowing and showing -/

/-- The answer of a kind that leaves the store alone, as the answer of a facet. -/
def leaving {α φ : Type} (store : Store) (wrap : φ → Facet) (answer : Outcome α × φ) :
    Outcome α × Facet × Store :=
  (answer.1, wrap answer.2, store)

/-- The answer of a kind that may build an index in the store. -/
def building {α φ : Type} (wrap : φ → Facet) (answer : Outcome α × φ × Store) :
    Outcome α × Facet × Store :=
  (answer.1, wrap answer.2.1, answer.2.2)

/-- Those of the items that the facet lets through. -/
def restrict (f : Facet) (scene : Scene) (items : KeySet) : Outcome KeySet × Facet × Store :=
  match f with
  | .list f => leaving scene.store .list (f.restrict scene items)
  | .cloud f => leaving scene.store (fun list => .cloud { f with list }) (f.list.restrict scene items)
  | .numericRange f => building .numericRange (f.restrict scene items)
  | .alphaRange f => leaving scene.store .alphaRange (f.restrict scene items)
  | .hierarchical f => leaving scene.store .hierarchical (f.restrict scene items)
  | .textSearch f => leaving scene.store .textSearch (f.restrict scene items)
  | .derived f => (f.restrict scene.store items, .derived f, scene.store)

/-- Works out anew what the facet shows for the items. The selection stays as it is. -/
def update (f : Facet) (scene : Scene) (items : KeySet) : Outcome Unit × Facet × Store :=
  match f with
  | .list f => leaving scene.store .list (f.update scene items)
  | .cloud f => leaving scene.store .cloud (f.update scene items)
  | .numericRange f => building .numericRange (f.update scene items)
  | .alphaRange f => leaving scene.store .alphaRange (f.update scene items)
  | .hierarchical f => leaving scene.store .hierarchical (f.update scene items)
  | .textSearch f => (.ok (), .textSearch f, scene.store)
  | .derived f => (.ok (), .derived (f.update items), scene.store)

/-- Drops what was kept about the root items of the collection. -/
def dropCaches : Facet → Facet
  | .list f => .list f.dropCaches
  | .cloud f => .cloud { f with list := f.list.dropCaches }
  | .numericRange f => .numericRange f.dropCaches
  | .alphaRange f => .alphaRange f.dropCaches
  | .hierarchical f => .hierarchical f.dropCaches
  | .textSearch f => .textSearch f.dropCaches
  | .derived f => .derived f

/-! ## 4. States -/

/-- The selection as a value of its own. -/
def exportState : Facet → FacetState
  | .list f => f.exportState
  | .cloud f => f.list.exportState
  | .numericRange f => f.exportState
  | .alphaRange f => f.exportState
  | .hierarchical f => f.exportState
  | .textSearch f => f.exportState
  | .derived f => f.exportState

/-- The state of a facet of this kind without selection. -/
def emptyState : Facet → FacetState
  | .list _ => ListFacet.emptyState
  | .cloud _ => ListFacet.emptyState
  | .numericRange _ => NumericRangeFacet.emptyState
  | .alphaRange _ => AlphaRangeFacet.emptyState
  | .hierarchical _ => HierarchicalFacet.emptyState
  | .textSearch _ => TextSearchFacet.emptyState
  | .derived _ => DerivedFacet.emptyState

/-- Drops the selection and returns what it was. -/
def clear : Facet → FacetState × Facet
  | .list f => (f.exportState, .list f.clear.2)
  | .cloud f => (f.list.exportState, .cloud { f with list := f.list.clear.2 })
  | .numericRange f => (f.exportState, .numericRange f.clear.2)
  | .alphaRange f => (f.exportState, .alphaRange f.clear.2)
  | .hierarchical f => (f.exportState, .hierarchical f.clear.2)
  | .textSearch f => (f.exportState, .textSearch f.clear.2)
  | .derived f => (f.exportState, .derived f.clear.2)

theorem clear_fst (f : Facet) : f.clear.1 = f.exportState := by
  cases f <;> rfl

/-- Takes over a selection, if it is one of the facet's kind. -/
def apply (f : Facet) (state : FacetState) : Outcome Facet :=
  match f with
  | .list f => (f.apply state).map .list
  | .cloud f => (f.list.apply state).map fun list => .cloud { f with list }
  | .numericRange f => (f.apply state).map .numericRange
  | .alphaRange f => (f.apply state).map .alphaRange
  | .hierarchical f => (f.apply state).map .hierarchical
  | .textSearch f => (f.apply state).map .textSearch
  | .derived f => (f.apply state).map .derived

/-- Is the state another selection than the present one? Lists and ranges are compared whatever their
    order, and texts as the queries that they stand for. -/
def differs (f : Facet) (state : FacetState) : Bool :=
  match f with
  | .list f => f.differs state
  | .cloud f => f.list.differs state
  | .numericRange f => f.chosen.differsFrom state
  | .alphaRange f => f.chosen.differsFrom state
  | .hierarchical f => !f.exportState.same state
  | .textSearch f => f.differs state
  | .derived f => !f.exportState.same state

/-- Takes over a selection if it differs from the present one, and says whether it did. -/
def importState (f : Facet) (state : FacetState) : Outcome (Bool × Facet) :=
  if !f.differs state then .ok (false, f)
  else if state.same f.emptyState then .ok (true, f.clear.2)
  else (f.apply state).map fun f => (true, f)

end Facet

end Faceted
