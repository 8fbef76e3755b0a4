import Faceted.Json
import Faceted.KeyMap
import Faceted.RangeIndex
import Faceted.Text.Percent
import Faceted.ValueType

/-!
# Types and properties

A store describes the types of its items and the properties of its statements. Both come from
payloads or, when an item mentions one that is unknown, from defaults made of its name.
-/

namespace Faceted

open Faceted.Text

/-! ## 1. Types -/

/-- A type of items: its attributes are kept as they were given. -/
structure ItemType where
  id : String
  attributes : KeyMap Json

namespace ItemType

/-- The attribute as text. -/
def text? (t : ItemType) (name : String) : Option String :=
  (t.attributes.get? name).bind Json.valueText?

def label (t : ItemType) : String := (t.text? "label").getD t.id

def pluralLabel (t : ItemType) : String := (t.text? "pluralLabel").getD t.label

def uri? (t : ItemType) : Option String := t.text? "uri"

def origin? (t : ItemType) : Option String := t.text? "origin"

/-- The URI of a type that has none of its own. -/
def defaultUri (base id : String) : String := base ++ "type#" ++ percentEncode id

/-- Fills in the URI and the label where they are missing. -/
def withDefaults (base : String) (t : ItemType) : ItemType :=
  let attributes :=
    if t.attributes.contains "uri" then t.attributes
    else t.attributes.insert "uri" (.string (defaultUri base t.id))
  let attributes :=
    if attributes.contains "label" then attributes
    else attributes.insert "label" (.string t.id)
  { t with attributes }

end ItemType

/-! ## 2. Properties -/

/-- A property of items. `rangeIndex` is the index over its values once a query has asked for it,
    until the values change. -/
structure Property where
  id : String
  uri : String
  valueType : ValueType
  label : String
  pluralLabel : String
  reverseLabel : String
  reversePluralLabel : String
  groupingLabel : String
  reverseGroupingLabel : String
  origin : Option String
  attributes : KeyMap Json
  rangeIndex : Option RangeIndex

namespace Property

def reverseOf (label : String) : String := "reverse of " ++ label

/-- The URI of a property that has none of its own. -/
def defaultUri (base id : String) : String := base ++ "property#" ++ percentEncode id

/-- A property of which only the name is known. -/
def ofId (base id : String) : Property where
  id := id
  uri := defaultUri base id
  valueType := .text
  label := id
  pluralLabel := id
  reverseLabel := reverseOf id
  reversePluralLabel := reverseOf id
  groupingLabel := id
  reverseGroupingLabel := reverseOf id
  origin := none
  attributes := ∅
  rangeIndex := none

/-- A property that every store knows. -/
def builtIn (id uri : String) (valueType : ValueType) (label pluralLabel : String) : Property where
  id := id
  uri := uri
  valueType := valueType
  label := label
  pluralLabel := pluralLabel
  reverseLabel := reverseOf label
  reversePluralLabel := reverseOf pluralLabel
  groupingLabel := label
  reverseGroupingLabel := reverseOf label
  origin := none
  attributes := ∅
  rangeIndex := none

/-- The property as a payload describes it. What the description leaves out gets its default again,
    whatever was known before; only an origin is kept. -/
def described (p : Property) (base : String) (fields : List (String × Json)) : Property :=
  let text (name : String) : Option String := (fields.lookup name).bind Json.valueText?
  let label := (text "label").getD p.id
  let pluralLabel := (text "pluralLabel").getD label
  let reverseLabel := (text "reverseLabel").getD (reverseOf label)
  { id := p.id
    uri := (text "uri").getD (defaultUri base p.id)
    valueType := ((text "valueType").map ValueType.ofText).getD .text
    label := label
    pluralLabel := pluralLabel
    reverseLabel := reverseLabel
    reversePluralLabel := (text "reversePluralLabel").getD (reverseOf pluralLabel)
    groupingLabel := (text "groupingLabel").getD label
    reverseGroupingLabel := (text "reverseGroupingLabel").getD reverseLabel
    origin := (text "origin").or p.origin
    attributes := KeyMap.ofList fields
    rangeIndex := none }

/-- Forgets the index over the values, because they change. -/
def withoutIndex (p : Property) : Property := { p with rangeIndex := none }

end Property

end Faceted
