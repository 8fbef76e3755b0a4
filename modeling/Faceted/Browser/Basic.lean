import Faceted.Collection
import Faceted.Facet.Config

/-!
# Browsers

A browser owns a store, its collections and the settings, among them what is done with failures. The
collections stand in the order of their creation, so a collection comes after the one that it is
based on, and the collection `default` with all items is the first.

This file has the parts that the operations of a browser share: finding collections, working on one
of them, and finding the root items of a collection that is based on another.
-/

namespace Faceted

open Faceted.Action

/-! ## 1. The browser -/

structure Browser where
  store : Store
  collections : List Collection
  settings : Settings
  /-- Has the store changed since the collections were refreshed? -/
  dirty : Bool

namespace Browser

/-- The id of the first collection. -/
def defaultId : String := "default"

def new (settings : Settings) : Browser :=
  ⟨Store.empty, [.new defaultId .allItems], settings, false⟩

def collection? (b : Browser) (id : String) : Option Collection :=
  b.collections.find? fun c => c.id == id

/-- The place of the collection among the collections. -/
def placeOf (b : Browser) (id : String) : Outcome Nat :=
  match b.collections.findIdx? fun c => c.id == id with
  | some place => .ok place
  | none => .error (.data (.noCollection id))

/-- The places of all collections, in order. -/
def places (b : Browser) : List Nat := List.range b.collections.length

/-- The place of the collection, as a step of an action. -/
def find (id : String) : Action Browser Nat := do
  let b ← state
  ofOutcome (b.placeOf id)

/-- Works on the collection at a place, if there is one. -/
def onCollection {α : Type} (place : Nat) (otherwise : α) (act : Action View α) :
    Action Browser α := fun b =>
  match b.collections[place]? with
  | none => (.ok otherwise, b)
  | some c =>
    let (answer, v) := act ⟨b.store, c⟩
    (answer,
      { b with store := v.store, collections := b.collections.set place v.collection })

/-- The browser at another moment. -/
def atMoment (b : Browser) (moment : Int) : Browser := { b with store := b.store.atMoment moment }

/-- Does with a failure what the settings say; a failure that is only logged leaves the given
    result. -/
def guarded {α : Type} (otherwise : α) (act : Action Browser α) : Action Browser α := fun b =>
  let (outcome, b) := act b
  (b.settings.errors.settle otherwise outcome, b)

/-! ## 2. Roots of collections that are based on others -/

/-- The id of the facet through which a restricting collection narrows its base. -/
def derivedId (collection : String) : String := "collection:" ++ collection

/-- The root items of the collection at a place, if it is based on another one. A restricting
    collection takes the values of the items that its base offers to its facet there, which its own
    restriction does not narrow. -/
def basedRoot (b : Browser) (place : Nat) : Outcome (Option KeySet) :=
  match b.collections[place]? with
  | none => .ok none
  | some c =>
    match c.source with
    | .based e baseId restricting =>
      match b.collection? baseId with
      | none => .error (.data (.noCollection baseId))
      | some base =>
        if restricting then
          match base.facet? (derivedId c.id) with
          | some (.derived f) => (f.valuesOf b.store f.candidates).map some
          | _ => .error (.lostFacet c.id base.id)
        else
          (e.eval (Roots.ofItems base.restricted) Roots.defaultName b.store).map fun values =>
            some values.toSet
    | _ => .ok none

/-- Gives the collection at a place its root items anew. -/
def reroot (place : Nat) : Action Browser Unit := do
  let b ← state
  match ← ofOutcome (b.basedRoot place) with
  | some items => onCollection place () (View.setRoot items)
  | none => onCollection place () View.reroot

/-! ## 3. Passing changes on -/

/-- Gives a collection its root items anew if it is based on the named one and they are other items
    than before; `onward` then does the same for those that are based on it. -/
def passInto (base : String) (onward : Nat → Action Browser Unit) (place : Nat) :
    Action Browser Unit := do
  let b ← state
  match b.collections[place]? with
  | none => return ()
  | some c =>
    if c.base? == some base then
      match ← ofOutcome (b.basedRoot place) with
      | none => return ()
      | some items =>
        if items = c.items then return ()
        else
          onCollection place () (View.setRoot items)
          onward place
    else return ()

/-- Passes the items of a collection on to those after it that are based on it, and from there on.
    Every round goes further back in the list. -/
def propagateWithin : (rounds : Nat) → (place : Nat) → Action Browser Unit
  | 0, _ => return ()
  | rounds + 1, place => do
    let b ← state
    match b.collections[place]? with
    | none => return ()
    | some c =>
      each (passInto c.id (propagateWithin rounds)) (b.places.filter fun other => place < other)

/-- Passes the items of a collection on to all that depend on it. -/
def propagate (place : Nat) : Action Browser Unit := do
  let b ← state
  propagateWithin b.collections.length place

/-- What a restricting collection lets through on its base at present. -/
def restriction (c : Collection) : Option KeySet :=
  if c.hasRestrictions then some c.restricted else none

/-- Brings everything in line after the selection in a collection has changed. A restricting
    collection first narrows its base and lets that be brought in line; every round goes further to
    the front of the list. -/
def settleWithin : (rounds : Nat) → (place : Nat) → Action Browser Unit
  | 0, _ => return ()
  | rounds + 1, place => do
    let b ← state
    match b.collections[place]? with
    | none => return ()
    | some c =>
      match c.source with
      | .based _ baseId true =>
        let base ← find baseId
        let _ ← onCollection base false
          (View.changeFacet (derivedId c.id) (.restrictTo (restriction c)))
        settleWithin rounds base
        propagate place
      | _ => propagate place

/-- Brings everything in line after the selection in a collection has changed. -/
def settle (place : Nat) : Action Browser Unit := do
  let b ← state
  settleWithin b.collections.length place

end Browser

end Faceted
