import Faceted.Failure
import Faceted.Store.Basic
import Faceted.Store.Uri

/-!
# Loading payloads

A payload is an object with types, properties and items, each of them optional. Types and properties
are objects of descriptions by id, items a list of descriptions. Loading adds to what is known;
statements that are already there are not added again. Parts of a payload that have the wrong shape
are skipped.

An item is known by its id, or failing that by its label, or by the local name of its URI; an item
with none of these is named by counting.
-/

namespace Faceted.Store

open Faceted.Text

/-! ## 1. Types and properties -/

/-- Adds the attributes of a description to a type. -/
def loadType (base : String) (s : Store) (entry : String × Json) : Store :=
  match entry with
  | (id, .object fields) =>
    let known := (s.types.get? id).getD ⟨id, ∅⟩
    let attributes := fields.foldl (fun m f => m.insert f.1 f.2) known.attributes
    { s with types := s.types.insert id (ItemType.withDefaults base { known with attributes }) }
  | _ => s

def loadTypes (s : Store) (types : List (String × Json)) (base : String) :
    Store × List StoreEvent :=
  (types.foldl (loadType base) s, [.beforeLoadingTypes, .afterLoadingTypes])

/-- Describes a property anew. -/
def loadProperty (base : String) (s : Store) (entry : String × Json) : Store :=
  match entry with
  | (id, .object fields) =>
    let known := (s.properties.get? id).getD (.ofId base id)
    { s with properties := s.properties.insert id (known.described base fields) }
  | _ => s

def loadProperties (s : Store) (properties : List (String × Json)) (base : String) :
    Store × List StoreEvent :=
  ({ properties.foldl (loadProperty base) s with propertyList := none },
    [.beforeLoadingProperties, .afterLoadingProperties])

/-! ## 2. Items -/

/-- The fields that say what an item is; the others are its statements. -/
def identityFields : List String := ["uri", "label", "id", "type"]

/-- The text of a field; of a list the text of its first element. -/
def firstText? (fields : List (String × Json)) (name : String) : Option String :=
  match fields.lookup name with
  | some (.array (v :: _)) => v.valueText?
  | some (.array []) => none
  | some v => v.valueText?
  | none => none

/-- All texts of a field's value. -/
def allTexts : Json → List String
  | .array vs => vs.filterMap Json.valueText?
  | v => v.valueText?.toList

/-- The id and the label that a description gives; none if it gives no id. -/
def identity? (fields : List (String × Json)) : Option (String × Option String) :=
  let label := firstText? fields "label"
  match (firstText? fields "id").or label with
  | some id => some (id, label)
  | none => (firstText? fields "uri").map fun uri => (Uri.localName uri, label)

/-- The name of the next item that is named by counting. -/
def nextAnonymous (s : Store) : String := "item" ++ toString (s.anonymous + 1)

/-- The URI of an item that has none of its own. -/
def defaultItemUri (base id : String) : String := base ++ "item#" ++ percentEncode id

/-- Enters who the item is. -/
def enterIdentity (s : Store) (base id label : String) (fields : List (String × Json)) : Store :=
  let uri := (firstText? fields "uri").getD (defaultItemUri base id)
  let type := (firstText? fields "type").getD itemType
  let s := { s with items := s.items.insert id }
  (((s.enter id "uri" uri).enter id "label" label).enter id "type" type).ensureType type base

/-- Enters the values of one field of an item. -/
def enterField (base id : String) (s : Store) (field : String × Json) : Store :=
  let (property, value) := field
  if property ∈ identityFields then s
  else
    (allTexts value).foldl (fun s text => s.enter id property text)
      ((s.ensureProperty property base).invalidate property)

/-- Loads the description of one item. An item that is known already keeps its identity unless the
    description has a label. -/
def loadItem (base : String) (s : Store) (entry : Json) : Store :=
  match entry with
  | .object fields =>
    let (id, label, s) :=
      match identity? fields with
      | some (id, label) => (id, label, s)
      | none =>
        let name := s.nextAnonymous
        (name, some name, { s with anonymous := s.anonymous + 1 })
    let s :=
      if label.isSome || !s.items.contains id then
        s.enterIdentity base id (label.getD id) fields
      else s
    let s := fields.foldl (enterField base id) s
    ((s.invalidate "uri").invalidate "label").invalidate "type"
  | _ => s

def loadItems (s : Store) (items : List Json) (base : String) : Store × List StoreEvent :=
  ({ items.foldl (loadItem base) s with propertyList := none },
    [.beforeLoadingItems, .afterLoadingItems])

/-! ## 3. Payloads -/

/-- Applies a loader if there is something of the right shape to load. -/
def loadPart {α : Type} (part : Option α) (loader : Store → α → Store × List StoreEvent)
    (state : Store × List StoreEvent) : Store × List StoreEvent :=
  match part with
  | none => state
  | some given =>
    let (s, events) := loader state.1 given
    (s, state.2 ++ events)

/-- Loads a payload: its types, then its properties, then its items. -/
def load (s : Store) (payload : Json) (base : String) : Outcome (Store × List StoreEvent) :=
  match payload with
  | .object _ =>
    .ok <|
      loadPart ((payload.get? "items").bind Json.elements?) (fun s given => s.loadItems given base) <|
        loadPart ((payload.get? "properties").bind Json.fields?)
          (fun s given => s.loadProperties given base) <|
          loadPart ((payload.get? "types").bind Json.fields?)
            (fun s given => s.loadTypes given base) (s, [])
  | _ => .error (.data .payloadNotObject)

end Faceted.Store
