/-!
# The rules of the expression grammar, by name

A parse error names the rules that could have gone on where the text stops making sense. `Rule.all`
lists them in the order in which such an error mentions them.
-/

namespace Faceted.Expression

inductive Rule where
  | endOfInput
  | single
  | several
  | start
  | expression
  | comparisonOp
  | subExpression
  | additiveOp
  | term
  | multiplicativeOp
  | call
  | arguments
  | rootedPath
  | path
  | hop
  | hopOperator
  | arrayMarker
  | identifier
  | property
  | number
  | string
  | doubleQuoted
  | singleQuoted
  deriving DecidableEq, Repr

def Rule.all : List Rule :=
  [.endOfInput, .single, .several, .start, .expression, .comparisonOp, .subExpression, .additiveOp,
    .term, .multiplicativeOp, .call, .arguments, .rootedPath, .path, .hop, .hopOperator,
    .arrayMarker, .identifier, .property, .number, .string, .doubleQuoted, .singleQuoted]

theorem Rule.mem_all (r : Rule) : r ∈ Rule.all := by
  cases r <;> decide

/-- The name by which an error mentions the rule. -/
def Rule.name : Rule → String
  | .endOfInput => "EOI"
  | .single => "single"
  | .several => "several"
  | .start => "prefix"
  | .expression => "expression"
  | .comparisonOp => "comparison_op"
  | .subExpression => "sub_expression"
  | .additiveOp => "additive_op"
  | .term => "term"
  | .multiplicativeOp => "multiplicative_op"
  | .call => "call"
  | .arguments => "arguments"
  | .rootedPath => "rooted_path"
  | .path => "path"
  | .hop => "hop"
  | .hopOperator => "hop_operator"
  | .arrayMarker => "array_marker"
  | .identifier => "identifier"
  | .property => "property"
  | .number => "number"
  | .string => "string"
  | .doubleQuoted => "dq_inner"
  | .singleQuoted => "sq_inner"

/-- `a`, `a or b`, or `a, b, or c`. -/
def alternatives : List String → String
  | [] => ""
  | [a] => a
  | [a, b] => a ++ " or " ++ b
  | names => String.intercalate ", " names.dropLast ++ ", or " ++ names.getLast?.getD ""

/-- The distinct rules of a list, in the order of `Rule.all`, as alternatives. -/
def Rule.describe (rules : List Rule) : String :=
  alternatives ((Rule.all.filter (rules.contains ·)).map Rule.name)

end Faceted.Expression
