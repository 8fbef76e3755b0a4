import Faceted.Facet.State
import Faceted.Facet.ValueMaps
import Faceted.Text.Case

/-!
# Text search facets

A text search keeps the items of which some value contains the query, whatever the case of either.
It looks at the values of all properties or at those of given expressions.

What is typed is held back (`Debouncer`) until nothing has been typed for a while; Enter and an empty
box take effect at once. Moments and delays are in milliseconds.
-/

namespace Faceted

open Faceted.Text

/-! ## 1. Holding input back -/

/-- The latest input with the moment at which it is due. -/
structure Debouncer where
  delay : Nat
  pending : Option (String × Nat)

namespace Debouncer

def new (delay : Nat) : Debouncer := ⟨delay, none⟩

/-- Replaces what is pending; the new input is due after the delay. -/
def schedule (d : Debouncer) (input : String) (now : Nat) : Debouncer :=
  { d with pending := some (input, now + d.delay) }

def cancel (d : Debouncer) : Debouncer := { d with pending := none }

def isPending (d : Debouncer) : Bool := d.pending.isSome

/-- Hands out what is due. -/
def poll (d : Debouncer) (now : Nat) : Option String × Debouncer :=
  match d.pending with
  | some (input, due) => if due ≤ now then (some input, d.cancel) else (none, d)
  | none => (none, d)

/-- What was scheduled last is handed out once it is due. -/
theorem poll_schedule_of_le (d : Debouncer) (input : String) {start now : Nat}
    (h : start + d.delay ≤ now) : ((d.schedule input start).poll now).1 = some input := by
  simp [schedule, poll, h]

/-- Before that it stays where it is. -/
theorem poll_schedule_of_lt (d : Debouncer) (input : String) {start now : Nat}
    (h : now < start + d.delay) :
    (d.schedule input start).poll now = (none, d.schedule input start) := by
  have late : ¬ start + d.delay ≤ now := by omega
  simp [schedule, poll, late]

end Debouncer

/-! ## 2. The facet -/

/-- Where a text search looks. -/
inductive Searched where
  | allProperties
  | expressions (es : List Expression)
  /-- Nowhere, because the expressions are malformed; the facet restricts nothing. -/
  | nothing

structure TextSearchFacet where
  id : String
  label : String
  searched : Searched
  requiresEnter : Bool
  query : Option String
  debouncer : Debouncer
  /-- The searched texts of every root item in lower case, once they have been needed. -/
  texts : Option (KeyMap (List String))

namespace TextSearchFacet

def new (id : String) (searched : Searched) (delay : Nat) : TextSearchFacet :=
  ⟨id, id, searched, false, none, Debouncer.new delay, none⟩

/-- The query that a text stands for; a blank text stands for none. -/
def queryOf (text : String) : Option String :=
  let t := trimmed text
  if t.isEmpty then none else some t

def hasRestrictions (f : TextSearchFacet) : Bool := f.query.isSome

/-! ## 3. Typing -/

/-- Sets the query at once. -/
def setText (f : TextSearchFacet) (text : String) : Bool × TextSearchFacet :=
  let query := queryOf text
  (query != f.query, { f with query })

/-- Takes a keystroke: the text in the box, and whether Enter was pressed. -/
def input (f : TextSearchFacet) (text : String) (now : Nat) (enter : Bool) :
    Bool × TextSearchFacet :=
  if enter || (queryOf text).isNone then
    { f with debouncer := f.debouncer.cancel }.setText text
  else if f.requiresEnter then (false, f)
  else (false, { f with debouncer := f.debouncer.schedule text now })

/-- Applies input that is due. -/
def poll (f : TextSearchFacet) (now : Nat) : Bool × TextSearchFacet :=
  match f.debouncer.poll now with
  | (some text, debouncer) => { f with debouncer }.setText text
  | (none, debouncer) => (false, { f with debouncer })

/-! ## 4. Restricting -/

/-- The searched texts of an item. -/
def textsOf (searched : Searched) (s : Store) (item : String) : Outcome (List String) :=
  match searched with
  | .nothing => .ok []
  | .allProperties =>
    .ok (s.allProperties.1.flatMap fun p => (s.objectList item p).map lowerCased)
  | .expressions es => do
    let results ← es.mapM fun e => e.evalOnItem item s
    return results.flatMap fun values => values.toList.map lowerCased

/-- The searched texts of all root items. -/
def buildTexts (searched : Searched) (scene : Scene) : Outcome (KeyMap (List String)) := do
  let texts ← scene.allItems.toList.mapM fun item =>
    return (item, ← textsOf searched scene.store item)
  return KeyMap.ofList texts

/-- The kept texts, or new ones if none are kept. -/
def getTexts (f : TextSearchFacet) (scene : Scene) :
    Outcome (KeyMap (List String)) × TextSearchFacet :=
  match f.texts with
  | some texts => (.ok texts, f)
  | none =>
    match buildTexts f.searched scene with
    | .ok texts => (.ok texts, { f with texts := some texts })
    | .error failure => (.error failure, f)

/-- Does the list occur in another without gaps? -/
def occursIn (word : List Char) : List Char → Bool
  | [] => word.isEmpty
  | c :: cs => word.isPrefixOf (c :: cs) || occursIn word cs

def containsText (text word : String) : Bool := occursIn word.toList text.toList

def searchesNothing : Searched → Bool
  | .nothing => true
  | _ => false

def restrict (f : TextSearchFacet) (scene : Scene) (items : KeySet) :
    Outcome KeySet × TextSearchFacet :=
  match f.query with
  | none => (.ok items, f)
  | some query =>
    if searchesNothing f.searched then (.ok items, f)
    else
      let (texts, f) := f.getTexts scene
      let word := lowerCased query
      (texts.map fun texts =>
        items.filter fun item => ((texts.get? item).getD []).any fun text => containsText text word,
        f)

/-! ## 5. States -/

def exportState (f : TextSearchFacet) : FacetState := .text f.query

def emptyState : FacetState := .text none

/-- Drops the query and what is held back. -/
def clear (f : TextSearchFacet) : FacetState × TextSearchFacet :=
  (f.exportState, { f with debouncer := f.debouncer.cancel, query := none })

def apply (f : TextSearchFacet) (state : FacetState) : Outcome TextSearchFacet :=
  match state with
  | .text query => .ok (f.setText (query.getD "")).2
  | other => .error (.data (.stateMismatch f.id other.describe))

def differs (f : TextSearchFacet) (state : FacetState) : Bool :=
  match state with
  | .text query => query.bind queryOf != f.query
  | _ => true

def dropCaches (f : TextSearchFacet) : TextSearchFacet := { f with texts := none }

end TextSearchFacet

end Faceted
