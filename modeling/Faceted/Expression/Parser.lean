import Faceted.Expression.Diagnosis

/-!
# Parsing expressions

Operators have three levels, comparisons below additions below multiplications, and all of them
group to the left. `expression?` reads the longest expression at the start of a text; its argument
bounds how deep expressions nest in parentheses, and the length of the text is always enough.

The grammar is written for the package `pest` (version 2.8), and it is read here as that package documents
its parsing expression grammars: of several alternatives the first that matches is taken, a repetition
takes as much as it can, nothing that has matched is given up later, and blanks may stand between the
parts of a rule unless the rule is one for a word.

* `parse` reads a text as one expression;
* `parseSeveral` reads expressions separated by commas;
* `parseFrom` reads the longest expression from an offset on and says where it ends.
-/

namespace Faceted.Expression

/-- A reader of a part of an expression from the start of a text. -/
abbrev Part (α : Type) := List Char → Option (α × List Char)

/-! ## 1. Operators and lists -/

/-- `left`, then operator and operand again and again. An operator without operand after it is left
    where it is, and so are the blanks before it. -/
def operatorsWithin (operator : Part Operator) (operand : Part Node) :
    (rounds : Nat) → Node → List Char → Node × List Char
  | 0, left, cs => (left, cs)
  | rounds + 1, left, cs =>
    match operator (skipSpaces cs) with
    | none => (left, cs)
    | some (o, rest) =>
      match operand (skipSpaces rest) with
      | none => (left, cs)
      | some (right, rest) => operatorsWithin operator operand rounds (.binary o left right) rest

/-- Operands joined by operators of one level. Blanks after the first operand belong to it. -/
def level (operator : Part Operator) (operand : Part Node) : Part Node := fun cs =>
  match operand cs with
  | none => none
  | some (first, rest) =>
    let rest := skipSpaces rest
    some (operatorsWithin operator operand rest.length first rest)

/-- Elements after commas. -/
def commasWithin {α : Type} (element : Part α) : (rounds : Nat) → List Char → List α × List Char
  | 0, cs => ([], cs)
  | rounds + 1, cs =>
    match skipSpaces cs with
    | ',' :: rest =>
      match element (skipSpaces rest) with
      | none => ([], cs)
      | some (e, rest) =>
        let (es, rest) := commasWithin element rounds rest
        (e :: es, rest)
    | _ => ([], cs)

/-- One element or more, separated by commas. -/
def commaSeparated {α : Type} (element : Part α) : Part (List α) := fun cs =>
  match element cs with
  | none => none
  | some (e, rest) =>
    let rest := skipSpaces rest
    let (es, rest) := commasWithin element rest.length rest
    some (e :: es, rest)

/-! ## 2. What operators join -/

def numberNode? : Part Node := fun cs =>
  (number? cs).map fun (text, rest) =>
    (.constant (formatNumber (parseFloat (String.ofList text))) .number, rest)

def stringNode? : Part Node
  | q :: rest => (quoted? q rest).map fun (text, rest) => (.constant (String.ofList text) .text, rest)
  | [] => none

def pathNode? : Part Node := fun cs =>
  match hops cs with
  | ([], _) => none
  | (hs, rest) => some (.path ⟨none, hs⟩, rest)

/-- The arguments of a call between parentheses. -/
def callArguments? (expression : Part Node) : Part (List Node) := fun cs =>
  match skipSpaces cs with
  | '(' :: rest =>
    let (arguments, rest) := (commaSeparated expression (skipSpaces rest)).getD ([], skipSpaces rest)
    match skipSpaces rest with
    | ')' :: rest => some (arguments, rest)
    | _ => none
  | _ => none

/-- A name: of a function if arguments follow, else of the variable a path starts from. -/
def namedNode? (expression : Part Node) : Part Node := fun cs =>
  match identifier? cs with
  | none => none
  | some (name, rest) =>
    match callArguments? expression rest with
    | some (arguments, rest) => some (Node.ofCall name arguments, rest)
    | none =>
      let (hs, rest) := hops rest
      some (.path ⟨some name, hs⟩, rest)

def parenthesized? (expression : Part Node) : Part Node
  | '(' :: rest =>
    match expression (skipSpaces rest) with
    | none => none
    | some (e, rest) =>
      match skipSpaces rest with
      | ')' :: rest => some (e, rest)
      | _ => none
  | _ => none

/-- The first character tells what a factor is. -/
def factor? (expression : Part Node) : Part Node := fun cs =>
  match cs with
  | [] => none
  | c :: _ =>
    if c.isDigit then numberNode? cs
    else if c = '"' ∨ c = '\'' then stringNode? cs
    else if c = '.' ∨ c = '!' then pathNode? cs
    else if c = '(' then parenthesized? expression cs
    else namedNode? expression cs

/-! ## 3. Expressions -/

/-- The longest expression at the start of the text. -/
def expression? : (depth : Nat) → Part Node
  | 0 => fun _ => none
  | depth + 1 =>
    level comparisonOp? (level additiveOp? (level multiplicativeOp? (factor? (expression? depth))))

/-- An expression with the text it was read from; the text starts with no blank. -/
def sourced (depth : Nat) : Part Faceted.Expression := fun cs =>
  (expression? depth cs).map fun (root, rest) =>
    (⟨String.ofList (cs.take (cs.length - rest.length)), root⟩, rest)

/-- Nesting takes characters, so this depth is enough for the text. -/
def depthOf (cs : List Char) : Nat := cs.length + 1

/-- Reads the whole text as one expression. -/
def parseChars? (cs : List Char) : Option Faceted.Expression :=
  match sourced (depthOf cs) (skipSpaces cs) with
  | some (e, rest) => if (skipSpaces rest).isEmpty then some e else none
  | none => none

def parse (s : String) : Outcome Faceted.Expression :=
  match parseChars? s.toList with
  | some e => .ok e
  | none => .error (.parse (diagnose .single s.toList))

/-- Reads the whole text as expressions separated by commas. -/
def parseSeveralChars? (cs : List Char) : Option (List Faceted.Expression) :=
  match commaSeparated (sourced (depthOf cs)) (skipSpaces cs) with
  | some (es, rest) => if (skipSpaces rest).isEmpty then some es else none
  | none => none

def parseSeveral (s : String) : Outcome (List Faceted.Expression) :=
  match parseSeveralChars? s.toList with
  | some es => .ok es
  | none => .error (.parse (diagnose .several s.toList))

/-! ## 4. Parsing from an offset -/

/-- The number of bytes of the characters in UTF-8. -/
def byteCount (cs : List Char) : Nat := cs.foldl (fun n c => n + c.utf8Size) 0

/-- What follows the first `n` bytes, if they end between two characters. -/
def dropBytes? : (n : Nat) → List Char → Option (List Char)
  | 0, cs => some cs
  | _, [] => none
  | n, c :: cs => if c.utf8Size ≤ n then dropBytes? (n - c.utf8Size) cs else none

/-- The longest expression from the byte offset on, and the offset where it ends. -/
def parseFrom (s : String) (start : Nat) : Outcome (Faceted.Expression × Nat) :=
  match dropBytes? start s.toList with
  | none => .error (.parse (.offsetOutside start))
  | some cs =>
    match sourced (depthOf cs) (skipSpaces cs) with
    | some (e, rest) => .ok (e, start + (byteCount cs - byteCount rest))
    | none => .error (.parse (diagnose .start cs))

end Faceted.Expression
