import Faceted.Number

/-!
# JSON values

Payloads, configurations and bookmarks are JSON values. A number is kept apart as an integer or a
double, as it was written: `1` and `1.0` are different values. The fields of an object are a list; a
value that was read has them in ascending order of their names.

`render` writes a value without blanks, its fields in the order of the list.
-/

namespace Faceted

/-! ## 1. Values -/

inductive Json where
  | null
  | bool (b : Bool)
  | int (n : Int)
  | float (x : Float)
  | string (s : String)
  | array (elements : List Json)
  | object (fields : List (String × Json))

namespace Json

instance : Inhabited Json := ⟨.null⟩

/-- The field of that name, if the value is an object with one. -/
def get? (v : Json) (name : String) : Option Json :=
  match v with
  | .object fields => fields.lookup name
  | _ => none

def string? : Json → Option String
  | .string s => some s
  | _ => none

def fields? : Json → Option (List (String × Json))
  | .object fields => some fields
  | _ => none

def elements? : Json → Option (List Json)
  | .array elements => some elements
  | _ => none

def isNull : Json → Bool
  | .null => true
  | _ => false

/-- The double of a number. -/
def float? : Json → Option Float
  | .int n => some (Decimal.ofInt n)
  | .float x => some x
  | _ => none

/-! ## 2. Reading records

A record is written as an object or as the list of its fields in a fixed order. Fields may be missing
from either, in a list from the end, and what an object has besides the fields counts for nothing. -/

/-- What a record has under each of its names, if the value is a record with these fields. -/
def record? (names : List String) : Json → Option (String → Option Json)
  | .object fields => some fun name => fields.lookup name
  | .array vs =>
    if vs.length ≤ names.length then some fun name => (names.zip vs).lookup name else none
  | _ => none

def bool? : Json → Option Bool
  | .bool b => some b
  | _ => none

/-- All strings of a list; nothing if an element is no string. -/
def strings? : Json → Option (List String)
  | .array vs => vs.mapM string?
  | _ => none

/-- The largest count. -/
def maxCount : Nat := Nat.pow 2 64 - 1

/-- A whole number from zero to `maxCount`. -/
def count? : Json → Option Nat
  | .int n => if 0 ≤ n ∧ n ≤ maxCount then some n.toNat else none
  | _ => none

/-- The name of a choice: a string, or the only field of an object, with null. -/
def choice? : Json → Option String
  | .string s => some s
  | .object [(name, .null)] => some name
  | _ => none

/-- A field that takes a default if it is missing. -/
def orDefault? {α : Type} (default : α) (read : Json → Option α) : Option Json → Option α
  | none => some default
  | some v => read v

/-- A field that may be null or missing. -/
def optional? {α : Type} (read : Json → Option α) : Option Json → Option (Option α)
  | none => some none
  | some .null => some none
  | some v => (read v).map some

/-- An optional value, or null. -/
def ofOption {α : Type} (write : α → Json) : Option α → Json
  | none => .null
  | some x => write x

/-! ## 3. Writing -/

/-- One character of a string: quote, backslash and control characters are escaped. -/
def escapedChar (c : Char) : List Char :=
  if c = '"' then ['\\', '"']
  else if c = '\\' then ['\\', '\\']
  else if c = '\n' then ['\\', 'n']
  else if c = '\r' then ['\\', 'r']
  else if c = '\t' then ['\\', 't']
  else if c = '\x08' then ['\\', 'b']
  else if c = '\x0c' then ['\\', 'f']
  else if c.toNat < 0x20 then
    let digits := Nat.toDigits 16 c.toNat
    ['\\', 'u'] ++ List.replicate (4 - digits.length) '0' ++ digits
  else [c]

def renderString (s : String) : String :=
  String.ofList ('"' :: (s.toList.flatMap escapedChar ++ ['"']))

/-- The texts of the elements between brackets. -/
def between (opening closing : String) (texts : List String) : String :=
  opening ++ String.intercalate "," texts ++ closing

mutual

/-- The value as JSON text. -/
def render : Json → String
  | .null => "null"
  | .bool b => booleanText b
  | .int n => toString n
  | .float x => Decimal.Layout.jsonText.render x
  | .string s => renderString s
  | .array elements => between "[" "]" (renderElements elements)
  | .object fields => between "\x7b" "\x7d" (renderFields fields)

def renderElements : List Json → List String
  | [] => []
  | v :: rest => render v :: renderElements rest

def renderFields : List (String × Json) → List String
  | [] => []
  | (name, v) :: rest => (renderString name ++ ":" ++ render v) :: renderFields rest

end

/-! ## 4. Values as texts -/

/-- The text that stands for a value in a statement: a string as it is, a number in its one text
    form, a nested value as JSON text. Null stands for no text. -/
def valueText? : Json → Option String
  | .null => none
  | .string s => some s
  | .bool b => some (booleanText b)
  | .int n => some (toString n)
  | .float x => some (formatNumber x)
  | nested => some nested.render

end Json

end Faceted
