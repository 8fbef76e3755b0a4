import Faceted.Expression.Parser

/-!
# Phrases

How expressions are written. A phrase is an expression as somebody writes it down: its numbers are
literals, its strings have quotes. Paths are written as they are shown elsewhere, calls as
`name(a, b)`, binary operators with a blank on either side, and parentheses only where the grouping of
the operators would be another one without them.

The parts of a phrase carry the conditions of the grammar, so that every phrase can be written:

* `Identifier`, `Literal`, `Quotation` and `Route` are names, numbers, strings and paths;
* `Phrase.render` writes a phrase, and `Phrase.toNode` is the tree that it stands for.
-/

namespace Faceted.Expression

/-! ## 1. Names and numbers -/

/-- Can the text be the name of a property? -/
def IsProperty (name : String) : Prop :=
  name.toList ≠ [] ∧ ∀ c ∈ name.toList, isNameChar c = true

/-- Can the text be the name of a variable or of a function? -/
def IsIdentifier (name : String) : Prop :=
  IsProperty name ∧ ∀ c, name.toList.head? = some c → c ≠ '-' ∧ c.isDigit = false

/-- Is the text one digit or more? -/
def IsDigits (text : String) : Prop :=
  text.toList ≠ [] ∧ ∀ c ∈ text.toList, c.isDigit = true

instance (name : String) : Decidable (IsProperty name) :=
  inferInstanceAs (Decidable (_ ∧ _))

instance (text : String) : Decidable (IsDigits text) :=
  inferInstanceAs (Decidable (_ ∧ _))

instance (name : String) : Decidable (IsIdentifier name) :=
  inferInstanceAs (Decidable (_ ∧ ∀ c ∈ name.toList.head?, _))

structure Identifier where
  text : String
  isIdentifier : IsIdentifier text

/-- Digits, and perhaps a point and more digits. -/
structure Literal where
  whole : String
  fraction : Option String
  isDigits : IsDigits whole
  isDigits_fraction : ∀ digits, fraction = some digits → IsDigits digits

namespace Literal

/-- The digits after the point, with the point. -/
def tail (n : Literal) : String := (n.fraction.map fun digits => "." ++ digits).getD ""

def text (n : Literal) : String := n.whole ++ n.tail

end Literal

/-! ## 2. Strings -/

/-- Can the characters stand between two quotes? A quote among them is protected by a backslash, and
    no backslash stands last, where it would protect the quote that closes the string. -/
def standsBetween (quote : Char) : List Char → Bool
  | [] => true
  | '\\' :: _ :: rest => standsBetween quote rest
  | c :: rest => c != quote && c != '\\' && standsBetween quote rest

structure Quotation where
  quote : Char
  content : String
  isQuote : quote = '"' ∨ quote = '\''
  stands : standsBetween quote content.toList = true

def Quotation.text (q : Quotation) : String := q.quote.toString ++ q.content ++ q.quote.toString

/-! ## 3. Paths -/

/-- A path that can be written: its variable and its properties have names, and it has a hop if it
    names no variable. -/
structure Route where
  path : Path
  root : ∀ name, path.root = some name → IsIdentifier name
  properties : ∀ h ∈ path.hops, IsProperty h.property
  leads : path.root = none → path.hops ≠ []

/-! ## 4. Phrases -/

inductive Phrase where
  | number (literal : Literal)
  | string (quotation : Quotation)
  | path (route : Route)
  | call (name : Identifier) (arguments : List Phrase)
  | binary (operator : Operator) (left right : Phrase)

/-- How loosely an operator holds its operands together. -/
def Operator.looseness : Operator → Nat
  | .multiply | .divide => 1
  | .add | .subtract => 2
  | .equal | .notEqual | .less | .greater | .lessOrEqual | .greaterOrEqual => 3

namespace Phrase

/-- How loosely the operator of a phrase holds it together; other phrases cannot come apart. -/
def looseness : Phrase → Nat
  | binary o _ _ => o.looseness
  | _ => 0

/-- The text in parentheses, if the condition holds. -/
def bracketed (condition : Bool) (text : String) : String :=
  if condition then "(" ++ text ++ ")" else text

mutual

/-- The phrase as it is written. What is looser than the operator stands in parentheses, on the right
    side also what is as loose, since operators group to the left. -/
def render : Phrase → String
  | number literal => literal.text
  | string quotation => quotation.text
  | path route => route.path.render
  | call name arguments => name.text ++ "(" ++ renderAll arguments ++ ")"
  | binary o left right =>
    bracketed (o.looseness < left.looseness) left.render ++ (" " ++ o.symbol ++ " ") ++
      bracketed (o.looseness ≤ right.looseness) right.render

/-- Phrases separated by a comma and a blank. -/
def renderAll : List Phrase → String
  | [] => ""
  | p :: rest => p.render ++ renderMore rest

/-- Phrases that follow others. -/
def renderMore : List Phrase → String
  | [] => ""
  | p :: rest => ", " ++ p.render ++ renderMore rest

end

mutual

/-- The tree that the phrase stands for. A number stands for its value, written as values are. -/
def toNode : Phrase → Node
  | number literal => .constant (formatNumber (parseFloat literal.text)) .number
  | string quotation => .constant quotation.content .text
  | path route => .path route.path
  | call name arguments => .ofCall name.text (toNodes arguments)
  | binary o left right => .binary o left.toNode right.toNode

def toNodes : List Phrase → List Node
  | [] => []
  | p :: rest => p.toNode :: toNodes rest

end

/-- Operators of one level group to the left, so that those on the right stand in parentheses. -/
example (a b : Literal) (ha : a.text = "1") (hb : b.text = "2.5") :
    (binary .subtract (binary .subtract (number a) (number b))
      (binary .add (number b) (binary .divide (number a) (number b)))).render =
        "1 - 2.5 - (2.5 + 1 / 2.5)" := by
  simp only [render, ha, hb]
  rfl

end Phrase

end Faceted.Expression
