import Faceted.Failure
import Faceted.ValueType

/-!
# Expressions

An expression is a tree of constants, binary operators, calls and paths. A path starts at a variable
and goes from value to value along hops; a hop follows one property, forward from subject to object
or backward. An array hop keeps one result for every value it starts from.

Some calls (`Control`) receive their arguments unevaluated; all others are calls of functions.
-/

namespace Faceted.Expression

/-! ## 1. Operators -/

inductive Operator where
  | add
  | subtract
  | multiply
  | divide
  | equal
  | notEqual
  | less
  | greater
  | lessOrEqual
  | greaterOrEqual
  deriving DecidableEq, Repr

namespace Operator

def all : List Operator :=
  [.add, .subtract, .multiply, .divide, .equal, .notEqual, .less, .greater, .lessOrEqual,
    .greaterOrEqual]

theorem mem_all (o : Operator) : o ∈ all := by
  cases o <;> decide

def symbol : Operator → String
  | .add => "+"
  | .subtract => "-"
  | .multiply => "*"
  | .divide => "/"
  | .equal => "="
  | .notEqual => "<>"
  | .less => "<"
  | .greater => ">"
  | .lessOrEqual => "<="
  | .greaterOrEqual => ">="

/-- Is the result a truth value? The result of the other operators is a number. -/
def isComparison : Operator → Bool
  | .add | .subtract | .multiply | .divide => false
  | _ => true

/-- The operator with the symbol. -/
def ofSymbol (s : String) : Outcome Operator :=
  match all.find? fun o => o.symbol == s with
  | some o => .ok o
  | none => .error (.unknownTag .operator s)

end Operator

/-! ## 2. Controls -/

/-- The calls that receive their arguments unevaluated. -/
inductive Control where
  | ifThenElse
  | foreach
  | filter
  | default
  deriving DecidableEq, Repr

namespace Control

def name : Control → String
  | .ifThenElse => "if"
  | .foreach => "foreach"
  | .filter => "filter"
  | .default => "default"

def ofName? (s : String) : Option Control :=
  [ifThenElse, foreach, filter, default].find? fun c => c.name == s

theorem ofName?_name (c : Control) : ofName? c.name = some c := by
  cases c <;> decide

end Control

/-! ## 3. Paths -/

/-- One step of a path along a property. -/
structure Hop where
  property : String
  forward : Bool
  isArray : Bool
  deriving DecidableEq, Repr

/-- Hops from a variable; without a name from the variable that stands for the current value. -/
structure Path where
  root : Option String
  hops : List Hop
  deriving DecidableEq, Repr

/-- The mark before the property. -/
def Hop.mark (h : Hop) : String :=
  (if h.forward then "." else "!") ++ (if h.isArray then "@" else "")

def Hop.render (h : Hop) : String := h.mark ++ h.property

/-- The path as it is written. -/
def Path.render (p : Path) : String :=
  p.root.getD "" ++ String.join (p.hops.map Hop.render)

/-! ## 4. Trees -/

inductive Node where
  | constant (value : String) (type : ValueType)
  | binary (operator : Operator) (left right : Node)
  | call (function : String) (arguments : List Node)
  | control (control : Control) (arguments : List Node)
  | path (path : Path)

/-- A call by name: some names are those of controls. -/
def Node.ofCall (name : String) (arguments : List Node) : Node :=
  match Control.ofName? name with
  | some c => .control c arguments
  | none => .call name arguments

end Faceted.Expression

namespace Faceted

open Faceted.Expression

/-- A parsed expression with the text it was read from. -/
structure Expression where
  source : String
  root : Node

namespace Expression

def path? (e : Expression) : Option Path :=
  match e.root with
  | .path p => some p
  | _ => none

def isPath (e : Expression) : Bool := e.path?.isSome

end Expression

end Faceted
