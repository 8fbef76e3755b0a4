import Faceted.Facet.State
import Faceted.Facet.ValueMaps

/-!
# Derived facets

A collection that restricts the collection it is based on does so through a facet on that base. The
facet lets through the base's items of which some value is among the restricting collection's items,
and remembers the items that the base offers it, whose values are the restricting collection's root.
-/

namespace Faceted

open Faceted.Expression

structure DerivedFacet where
  id : String
  expression : Expression
  /-- The items that the base offered last. -/
  candidates : KeySet
  /-- The values to let through; none lets everything through. -/
  restriction : Option KeySet

namespace DerivedFacet

def new (id : String) (expression : Expression) : DerivedFacet := ⟨id, expression, ∅, none⟩

def hasRestrictions (f : DerivedFacet) : Bool := f.restriction.isSome

/-- Replaces the restriction and says whether that changed it. -/
def setRestriction (f : DerivedFacet) (restriction : Option KeySet) : Bool × DerivedFacet :=
  (decide (restriction ≠ f.restriction), { f with restriction })

/-- The values of the items. -/
def valuesOf (f : DerivedFacet) (s : Store) (items : KeySet) : Outcome KeySet :=
  match f.expression.path? with
  | some p => .ok (walkForward s p.hops (.ofSet items .item)).toSet
  | none => do
    let results ← items.toList.mapM fun item => f.expression.evalOnItem item s
    return results.foldl (fun set values => set.insertMany values.toList) ∅

/-- The items with a value that is let through. -/
def restrict (f : DerivedFacet) (s : Store) (items : KeySet) : Outcome KeySet :=
  match f.restriction with
  | none => .ok items
  | some allowed =>
    match f.expression.path? with
    | some p => .ok (walkBackward s (some items) p.hops (.ofSet allowed .item)).toSet
    | none => do
      let results ← items.toList.mapM fun item => return (item, ← f.expression.evalOnItem item s)
      return KeySet.ofList ((results.filter fun r => r.2.toList.any allowed.contains).map Prod.fst)

def update (f : DerivedFacet) (items : KeySet) : DerivedFacet := { f with candidates := items }

def exportState (f : DerivedFacet) : FacetState := .list ((f.restriction.getD ∅).toList) false

def emptyState : FacetState := .list [] false

def clear (f : DerivedFacet) : FacetState × DerivedFacet :=
  (f.exportState, { f with restriction := none })

def apply (f : DerivedFacet) (state : FacetState) : Outcome DerivedFacet :=
  match state with
  | .list selection _ => .ok { f with restriction := some (KeySet.ofList selection) }
  | other => .error (.data (.stateMismatch f.id other.describe))

end DerivedFacet

end Faceted
