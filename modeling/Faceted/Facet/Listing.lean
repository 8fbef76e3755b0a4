import Faceted.Facet.Entry
import Faceted.Facet.State
import Faceted.Facet.ValueMaps

/-!
# List facets

A list facet offers the values of an expression, each with its count, and lets through the items that
have a selected value. The items without value have an entry of their own, the first of the list.

Clicking an entry flips it; clicking it as the only choice makes it the whole selection, or empties
the selection if it was that already.
-/

namespace Faceted

/-! ## 1. The facet -/

structure ListFacet where
  id : String
  label : String
  /-- Without a well-formed expression a facet neither offers nor restricts anything. -/
  expression : Option Expression
  order : EntryOrder
  showMissing : Bool
  missingLabel : String
  selection : KeySet
  selectMissing : Bool
  cache : ValueCache
  entries : List Entry
  type : ValueType

namespace ListFacet

def defaultMissingLabel : String := "(missing this field)"

def new (id : String) (expression : Option Expression) : ListFacet where
  id := id
  label := id
  expression := expression
  order := .default
  showMissing := true
  missingLabel := defaultMissingLabel
  selection := ∅
  selectMissing := false
  cache := none
  entries := []
  type := .text

def hasRestrictions (f : ListFacet) : Bool := !f.selection.isEmpty || f.selectMissing

/-! ## 2. Selecting -/

/-- Replaces the selection and says whether that changed it. -/
def select (f : ListFacet) (values : KeySet) (missing : Bool) : Bool × ListFacet :=
  (decide (values ≠ f.selection) || missing != f.selectMissing,
    { f with selection := values, selectMissing := missing })

/-- Clicks the entry of the items without value. -/
def toggleMissing (f : ListFacet) (only : Bool) : Bool × ListFacet :=
  if only then f.select ∅ (if f.selection.isEmpty then !f.selectMissing else true)
  else f.select f.selection !f.selectMissing

/-- Clicks the entry of a value. -/
def toggleValue (f : ListFacet) (value : String) (only : Bool) : Bool × ListFacet :=
  if only then
    let isWhole := f.selection.contains value && f.selection.size ≤ 1 && !f.selectMissing
    f.select (if isWhole then ∅ else (∅ : KeySet).insert value) false
  else if f.selection.contains value then f.select (f.selection.erase value) f.selectMissing
  else f.select (f.selection.insert value) f.selectMissing

def toggle (f : ListFacet) (value : Option String) (only : Bool) : Bool × ListFacet :=
  match value with
  | none => f.toggleMissing only
  | some v => f.toggleValue v only

/-! ## 3. Restricting -/

/-- The items that have a selected value, or none if those are selected. -/
def restrict (f : ListFacet) (scene : Scene) (items : KeySet) : Outcome KeySet × ListFacet :=
  match f.expression with
  | none => (.ok items, f)
  | some e =>
    if !f.hasRestrictions then (.ok items, f)
    else
      match f.cache.itemsWith scene e f.selection items with
      | (.error failure, cache) => (.error failure, { f with cache })
      | (.ok found, cache) =>
        if f.selectMissing then
          let (found, cache) := cache.itemsWithout scene e items found
          (found, { f with cache })
        else (.ok found, { f with cache })

/-! ## 4. Offering -/

/-- The entry of a value. -/
def valueEntry (f : ListFacet) (s : Store) (type : ValueType) (counted : String × Nat) : Entry where
  value := some counted.1
  label := valueLabel s counted.1 type
  count := counted.2
  selected := f.selection.contains counted.1

/-- The entry of the items without value. -/
def missingEntry (f : ListFacet) (count : Nat) : Entry where
  value := none
  label := f.missingLabel
  count := count
  selected := f.selectMissing

/-- Counts the values of the items anew. If that fails the entries stay as they were. -/
def update (f : ListFacet) (scene : Scene) (items : KeySet) : Outcome Unit × ListFacet :=
  match f.expression with
  | none => (.ok (), { f with entries := [] })
  | some e =>
    match f.cache.countsOf scene e items with
    | (.error failure, cache) => (.error failure, { f with cache })
    | (.ok (counts, type), cache) =>
      let entries := f.order.sort type (counts.map (f.valueEntry scene.store type))
      if f.showMissing || f.selectMissing then
        match cache.countWithout scene e items with
        | (.error failure, cache) => (.error failure, { f with cache })
        | (.ok count, cache) =>
          let shown := 0 < count || f.selectMissing
          (.ok (), { f with
            cache, type
            entries := if shown then f.missingEntry count :: entries else entries })
      else (.ok (), { f with cache, type, entries })

/-! ## 5. States -/

def exportState (f : ListFacet) : FacetState := .list f.selection.toList f.selectMissing

def emptyState : FacetState := .list [] false

/-- Drops the selection and returns what it was. -/
def clear (f : ListFacet) : FacetState × ListFacet :=
  (f.exportState, { f with selection := ∅, selectMissing := false })

/-- Takes over a selection; a state of another shape does not fit. -/
def apply (f : ListFacet) (state : FacetState) : Outcome ListFacet :=
  match state with
  | .list selection missing => .ok (f.select (KeySet.ofList selection) missing).2
  | other => .error (.data (.stateMismatch f.id other.describe))

/-- Is the state another selection than the present one? The order of its values plays no part. -/
def differs (f : ListFacet) (state : FacetState) : Bool :=
  match state with
  | .list selection missing =>
    missing != f.selectMissing || selection.length != f.selection.size ||
      selection.any fun v => !f.selection.contains v
  | _ => true

/-- Drops what was kept about the root items. -/
def dropCaches (f : ListFacet) : ListFacet := { f with cache := none }

end ListFacet

end Faceted
