import Faceted.Settings.Scalar

/-!
# Where a reader of YAML stands

The structure of a YAML text hangs on lines and columns. A cursor is a place in a text: the
characters from there, and how many lines, and characters of the last line, come before it.

Main statement: a step leaves one character less (`length_rest_step`), and moves never bring
characters back (`length_rest_advance`, `length_rest_lineBreak`).
-/

namespace Faceted.Settings.Yaml

/-! ## 1. Characters -/

def isBreak (c : Char) : Bool := c == '\n' || c == '\r'

/-- The characters that have a meaning within brackets. -/
def isFlow (c : Char) : Bool := c == ',' || c == '[' || c == ']' || c == '\x7b' || c == '\x7d'

/-- What the names of handles and directives are made of. -/
def isNameChar (c : Char) : Bool := c.isAlphanum || c == '_' || c == '-'

/-- Does a word end before this character, or at the end of the text? -/
def endsWord : Option Char → Bool
  | none => true
  | some c => isGap c || isBreak c

/-- Does a line end before this character, or at the end of the text? -/
def endsLine : Option Char → Bool
  | none => true
  | some c => isBreak c

/-! ## 2. Cursors -/

/-- A place in a text. `isLeading` says that nothing but blanks stands before it on its line. -/
structure Cursor where
  rest : List Char
  index : Nat
  line : Nat
  column : Nat
  isLeading : Bool

namespace Cursor

def start (cs : List Char) : Cursor := ⟨cs, 0, 0, 0, true⟩

/-- The character here, if the text does not end. -/
def head? (c : Cursor) : Option Char := c.rest.head?

/-- The character after the one here. -/
def next? (c : Cursor) : Option Char := c.rest[1]?

/-- Passes over that many characters of a line; they may be blanks. -/
def advance (c : Cursor) (n : Nat) : Cursor :=
  { c with rest := c.rest.drop n, index := c.index + n, column := c.column + n }

/-- Passes over a character that is no blank. -/
def step (c : Cursor) : Cursor := { c.advance 1 with isLeading := false }

/-- Passes over characters that are no blanks. -/
def pass (c : Cursor) (n : Nat) : Cursor := { c.advance n with isLeading := false }

/-- Passes over the end of a line. -/
def lineBreak (c : Cursor) : Cursor :=
  match c.rest with
  | '\r' :: '\n' :: rest => ⟨rest, c.index + 2, c.line + 1, 0, true⟩
  | _ :: rest => ⟨rest, c.index + 1, c.line + 1, 0, true⟩
  | [] => c

@[simp] theorem length_rest_advance (c : Cursor) (n : Nat) :
    (c.advance n).rest.length = c.rest.length - n := by
  simp [advance]

@[simp] theorem length_rest_step (c : Cursor) : c.step.rest.length = c.rest.length - 1 := by
  simp [step]

theorem length_rest_lineBreak (c : Cursor) : c.lineBreak.rest.length ≤ c.rest.length := by
  unfold lineBreak
  split
  · next h => simp [h]; omega
  · next h => simp [h]
  · exact Nat.le_refl _

/-- Is there a marker of a document's start or end at the start of this line? -/
def isAtMarker (c : Cursor) (marker : String) : Bool :=
  c.column == 0 && marker.toList.isPrefixOf c.rest && endsWord c.rest[3]?

def isAtDocument (c : Cursor) : Bool := c.isAtMarker "---" || c.isAtMarker "..."

/-- Passes over what is left of a line. -/
def skipLine (c : Cursor) : Cursor := c.advance (c.rest.takeWhile fun x => !isBreak x).length

/-- The blanks from here. -/
def gap (c : Cursor) : List Char := c.rest.takeWhile isGap

/-- Passes over blanks and a comment, which must have a blank before it. -/
def skipGap? (c : Cursor) : Option Cursor :=
  let after := c.advance c.gap.length
  if after.head? = some '#' then
    if c.gap.isEmpty then none else some after.skipLine
  else some after

end Cursor

end Faceted.Settings.Yaml
