import Faceted.Expression.Lexeme

/-!
# The grammar of expressions, as data

The language is given by a parsing expression grammar: alternatives are ordered, repetition takes as
much as it can, and nothing that has matched is given up later. `Rule.body` is the grammar, one
pattern for each rule. Blanks between the parts of a rule are part of the patterns (`then`), and the
rules for words have none.

The parser reads the language by descent; this grammar says where a text that is no expression stops
making sense.
-/

namespace Faceted.Expression

/-! ## 1. Patterns -/

/-- A pattern of a parsing expression grammar. -/
inductive Pattern where
  /-- A character that passes the test. -/
  | char (p : Char → Bool)
  /-- Exactly these characters. -/
  | word (w : List Char)
  /-- Any number of blanks. -/
  | spaces
  /-- The end of the text. -/
  | ending
  /-- One after the other. -/
  | seq (a b : Pattern)
  /-- The second only if the first does not match. -/
  | either (a b : Pattern)
  /-- As often as it matches. -/
  | many (a : Pattern)
  /-- Matches without taking anything iff the pattern does not match. -/
  | absent (a : Pattern)
  | rule (r : Rule)

namespace Pattern

/-- Always matches and takes nothing. -/
def nothing : Pattern := .word []

/-- A word given as text. -/
def lit (s : String) : Pattern := .word s.toList

/-- Once or not at all. -/
def optional (a : Pattern) : Pattern := .either a nothing

/-- Once or more. -/
def some (a : Pattern) : Pattern := .seq a (.many a)

/-- `a`, blanks, `b`. -/
def andThen (a b : Pattern) : Pattern := .seq a (.seq .spaces b)

/-- The first alternative that matches. -/
def firstOf : List Pattern → Pattern
  | [] => .absent nothing
  | [a] => a
  | a :: rest => .either a (firstOf rest)

/-- `a` any number of times with blanks between. Blanks after the last one are not taken. -/
def spaced (a : Pattern) : Pattern := optional (.seq a (.many (.seq .spaces a)))

end Pattern

open Pattern

/-! ## 2. The rules -/

def nameChar : Pattern := .char isNameChar
def digit : Pattern := .char Char.isDigit
def anyChar : Pattern := .char fun _ => true

/-- `operand (operator operand)*`. -/
def leftAssociative (operand operator : Rule) : Pattern :=
  andThen (.rule operand) (spaced (andThen (.rule operator) (.rule operand)))

/-- `element ("," element)*`. -/
def commaList (element : Rule) : Pattern :=
  andThen (.rule element) (spaced (andThen (lit ",") (.rule element)))

/-- What operators join. -/
def factor : Pattern :=
  firstOf [.rule .number, .rule .string, .rule .call, .rule .rootedPath, .rule .path,
    andThen (lit "(") (andThen (.rule .expression) (lit ")"))]

/-- The content of a string between two quotes. -/
def quotedContent (quote : Char) : Pattern :=
  .many (.either (.seq (lit "\\") anyChar) (.char fun c => c != quote))

def Rule.body : Rule → Pattern
  | .endOfInput => .ending
  | .single => .seq .spaces (andThen (.rule .expression) (.rule .endOfInput))
  | .several => .seq .spaces (andThen (commaList .expression) (.rule .endOfInput))
  | .start => .seq .spaces (.rule .expression)
  | .expression => leftAssociative .subExpression .comparisonOp
  | .comparisonOp =>
    firstOf [lit "<>", lit "<=", lit ">=", lit "=", lit "<", lit ">"]
  | .subExpression => leftAssociative .term .additiveOp
  | .additiveOp => firstOf [lit "+", lit "-"]
  | .term => andThen factor (spaced (andThen (.rule .multiplicativeOp) factor))
  | .multiplicativeOp => firstOf [lit "*", lit "/"]
  | .call =>
    andThen (.rule .identifier)
      (andThen (lit "(") (andThen (optional (.rule .arguments)) (lit ")")))
  | .arguments => commaList .expression
  | .rootedPath => .seq (.rule .identifier) (.many (.rule .hop))
  | .path => Pattern.some (.rule .hop)
  | .hop => .seq (.rule .hopOperator) (.seq (.rule .property) (optional (.rule .arrayMarker)))
  | .hopOperator => firstOf [lit ".@", lit "!@", lit ".", lit "!"]
  | .arrayMarker => lit "\x7b\x7d"
  | .identifier => .seq (.absent (.either (lit "-") digit)) (Pattern.some nameChar)
  | .property => Pattern.some nameChar
  | .number => .seq (Pattern.some digit) (optional (.seq (lit ".") (.many digit)))
  | .string =>
    .either (.seq (lit "\"") (.seq (.rule .doubleQuoted) (lit "\"")))
      (.seq (lit "'") (.seq (.rule .singleQuoted) (lit "'")))
  | .doubleQuoted => quotedContent '"'
  | .singleQuoted => quotedContent '\''

end Faceted.Expression
