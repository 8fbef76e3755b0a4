import Faceted.Number

/-!
# Types of values

Values are texts; a type says how to read them. Every text names a type: eight names are known and
any other is kept as it is (`toText_ofText`).
-/

namespace Faceted

inductive ValueType where
  | text
  | number
  | date
  | boolean
  | url
  | item
  | currency
  | image
  | other (tag : String)
  deriving DecidableEq, Repr

namespace ValueType

def ofText (tag : String) : ValueType :=
  if tag = "text" then .text
  else if tag = "number" then .number
  else if tag = "date" then .date
  else if tag = "boolean" then .boolean
  else if tag = "url" then .url
  else if tag = "item" then .item
  else if tag = "currency" then .currency
  else if tag = "image" then .image
  else .other tag

def toText : ValueType → String
  | .text => "text"
  | .number => "number"
  | .date => "date"
  | .boolean => "boolean"
  | .url => "url"
  | .item => "item"
  | .currency => "currency"
  | .image => "image"
  | .other tag => tag

/-- Every name is the text of the type it names. -/
theorem toText_ofText (tag : String) : (ofText tag).toText = tag := by
  unfold ofText
  repeat' split
  all_goals (subst_vars; rfl)

/-- Are the values numbers? -/
def isNumeric : ValueType → Bool
  | .number | .currency => true
  | _ => false

def isOther : ValueType → Bool
  | .other _ => true
  | _ => false

end ValueType

/-- Does a value of the type count as true? Truth values are compared with `true`, a number is true
    unless it is zero or none, and any other text unless it is empty or `false`. -/
def isTruthy (value : String) (type : ValueType) : Bool :=
  match type with
  | .boolean => value == "true"
  | .number | .currency =>
    let n := parseFloat value
    !n.isNaN && n != 0.0
  | _ => !value.isEmpty && value != "false"

end Faceted
