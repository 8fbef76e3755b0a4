import Faceted.Expression.Tree
import Faceted.Text.Shown

/-!
# Expressions shown in one line

The tree of an expression with the names of its parts, as diagnostics show it.
-/

namespace Faceted

open Faceted.Text Faceted.Expression

def ValueType.summary : ValueType → String
  | .text => "Text"
  | .number => "Number"
  | .date => "Date"
  | .boolean => "Boolean"
  | .url => "Url"
  | .item => "Item"
  | .currency => "Currency"
  | .image => "Image"
  | .other tag => shownOf "Other" (quoted tag)

namespace Expression

def Operator.summary : Operator → String
  | .add => "Add"
  | .subtract => "Subtract"
  | .multiply => "Multiply"
  | .divide => "Divide"
  | .equal => "Equal"
  | .notEqual => "NotEqual"
  | .less => "Less"
  | .greater => "Greater"
  | .lessOrEqual => "LessOrEqual"
  | .greaterOrEqual => "GreaterOrEqual"

def Control.summary : Control → String
  | .ifThenElse => "If"
  | .foreach => "Foreach"
  | .filter => "Filter"
  | .default => "Default"

def Hop.summary (h : Hop) : String :=
  shownRecord "Segment"
    [("property", quoted h.property), ("forward", booleanText h.forward),
      ("is_array", booleanText h.isArray)]

def Path.summary (p : Path) : String :=
  shownRecord "Path"
    [("root_name", shownOption quoted p.root), ("segments", shownList (p.hops.map Hop.summary))]

mutual

def Node.summary : Node → String
  | .constant value type =>
    shownRecord "Constant" [("value", quoted value), ("value_type", type.summary)]
  | .binary operator left right =>
    shownRecord "Operator"
      [("operator", operator.summary), ("left", left.summary), ("right", right.summary)]
  | .call function arguments =>
    shownRecord "FunctionCall"
      [("name", quoted function), ("args", shownList (summaries arguments))]
  | .control control arguments =>
    shownRecord "ControlCall"
      [("control", control.summary), ("args", shownList (summaries arguments))]
  | .path path => shownOf "Path" path.summary

def summaries : List Node → List String
  | [] => []
  | n :: rest => n.summary :: summaries rest

end

def summary (e : Faceted.Expression) : String :=
  shownRecord "Expression" [("source", quoted e.source), ("root", e.root.summary)]

end Expression

end Faceted
