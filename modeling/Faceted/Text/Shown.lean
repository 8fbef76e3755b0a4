import Faceted.Text.Unprinted

/-!
# Values shown in one line

Messages and diagnostics show a value by the name of its kind and its fields, texts in quotes, lists
in brackets and sets in braces. Between its quotes, the quote, the backslash and the common control
characters are escaped by a backslash, and every other character without a glyph of its own is written
as its code point in braces.
-/

namespace Faceted.Text

/-! ## 1. Quoted texts -/

/-- The lower-case hexadecimal digits of a code point, without leading zeros. -/
def codePointDigits (c : Char) : List Char := Nat.toDigits 16 c.toNat

/-- One character between quotes. -/
def quotedChar (c : Char) : List Char :=
  if c = '"' then ['\\', '"']
  else if c = '\\' then ['\\', '\\']
  else if c = '\n' then ['\\', 'n']
  else if c = '\r' then ['\\', 'r']
  else if c = '\t' then ['\\', 't']
  else if c = '\x00' then ['\\', '0']
  else if isUnprinted c then ['\\', 'u', '\x7b'] ++ codePointDigits c ++ ['\x7d']
  else [c]

/-- The text between double quotes, with escapes. -/
def quoted (s : String) : String :=
  String.ofList ('"' :: (s.toList.flatMap quotedChar ++ ['"']))

/-! ## 2. Kinds and fields -/

/-- Texts with commas between them. -/
def commas (texts : List String) : String := String.intercalate ", " texts

def shownList (texts : List String) : String := "[" ++ commas texts ++ "]"

def shownSet (texts : List String) : String := "\x7b" ++ commas texts ++ "\x7d"

/-- A kind with one value that has no name. -/
def shownOf (kind value : String) : String := kind ++ "(" ++ value ++ ")"

/-- A kind with its fields. -/
def shownRecord (kind : String) (fields : List (String × String)) : String :=
  kind ++ " \x7b " ++ commas (fields.map fun f => f.1 ++ ": " ++ f.2) ++ " \x7d"

def shownOption {α : Type} (shown : α → String) : Option α → String
  | none => "None"
  | some x => shownOf "Some" (shown x)

end Faceted.Text
