import Faceted.Expression.Grammar

/-!
# Where a text stops being an expression

When a text is no expression, the error names the furthest position at which a rule was tried in vain
and the rules that failed there. `matchWithin` follows the grammar and keeps both (`Furthest`).

A rule that fails without progress stands for the rules it tried at the same position, unless it
tried exactly one of them: then the inner rule says more, and stays. That is how the package `pest`
(version 2.8) reports a failure.
-/

namespace Faceted.Expression

/-! ## 1. The furthest failures -/

/-- The furthest position with a failed rule, and the rules that failed there, the latest first. -/
structure Furthest where
  position : Nat
  rules : List Rule

namespace Furthest

def initial : Furthest := ⟨0, []⟩

/-- How many rules have failed at the position. -/
def countAt (f : Furthest) (position : Nat) : Nat :=
  if f.position = position then f.rules.length else 0

/-- Takes note that `rule` failed at `position`, where `before` rules had failed when it was
    tried. -/
def note (f : Furthest) (rule : Rule) (position before : Nat) : Furthest :=
  if f.countAt position = before + 1 then f
  else if f.position < position then ⟨position, [rule]⟩
  else if f.position = position then ⟨position, rule :: f.rules.drop (f.rules.length - before)⟩
  else f

end Furthest

/-! ## 2. Following the grammar -/

/-- Matches the pattern at the position. `depth` bounds how deep patterns nest. -/
def matchWithin : (depth : Nat) → Pattern → (position : Nat) → List Char → Furthest →
    Option (Nat × List Char) × Furthest
  | 0, _, _, _, f => (none, f)
  | depth + 1, pattern, position, cs, f =>
    match pattern with
    | .char p =>
      match cs with
      | c :: rest => if p c then (some (position + 1, rest), f) else (none, f)
      | [] => (none, f)
    | .word w =>
      if w.isPrefixOf cs then (some (position + w.length, cs.drop w.length), f) else (none, f)
    | .spaces =>
      let rest := skipSpaces cs
      (some (position + (cs.length - rest.length), rest), f)
    | .ending => if cs.isEmpty then (some (position, cs), f) else (none, f)
    | .seq a b =>
      match matchWithin depth a position cs f with
      | (some (position, rest), f) => matchWithin depth b position rest f
      | (none, f) => (none, f)
    | .either a b =>
      match matchWithin depth a position cs f with
      | (some found, f) => (some found, f)
      | (none, f) => matchWithin depth b position cs f
    | .many a =>
      match matchWithin depth a position cs f with
      | (some (next, rest), f) =>
        if rest.length < cs.length then matchWithin depth (.many a) next rest f
        else (some (next, rest), f)
      | (none, f) => (some (position, cs), f)
    | .absent a =>
      match matchWithin depth a position cs f with
      | (some _, f) => (none, f)
      | (none, f) => (some (position, cs), f)
    | .rule r =>
      match matchWithin depth r.body position cs f with
      | (some found, after) => (some found, after)
      | (none, after) => (none, after.note r position (f.countAt position))

/-- Patterns nest no deeper than this for a text of the length: every parenthesis takes a character
    and adds a bounded number of levels, and so does every round of a repetition. -/
def depthFor (length : Nat) : Nat := 64 * (length + 2)

/-! ## 3. Lines and columns -/

/-- The line and column after the given characters, both from one. -/
def lineAndColumn (before : List Char) : Nat × Nat :=
  before.foldl (fun (line, column) c => if c = '\n' then (line + 1, 1) else (line, column + 1))
    (1, 1)

/-- Why the text does not match the rule. -/
def diagnose (r : Rule) (cs : List Char) : ParseFault :=
  let (_, f) := matchWithin (depthFor cs.length) (.rule r) 0 cs .initial
  let (line, column) := lineAndColumn (cs.take f.position)
  .expected f.rules line column

end Faceted.Expression
