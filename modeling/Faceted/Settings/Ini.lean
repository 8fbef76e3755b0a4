import Faceted.Settings.Table

/-!
# Settings in INI files

A name, a separator and a text on one line give the name its text: `name = text`, `name: text`. The
heading `[section]` puts the names after it into a table of that name. Lines that start with `;` or
`#` are comments. A backslash escapes, and quotes keep a part of a text as it is, across lines too.

A name is read up to its separator, wherever that stands; so a line that starts with a blank always
belongs to a name, also if it looks like a comment or a heading.
-/

namespace Faceted.Settings.Ini

/-! ## 1. Texts -/

/-- The character that a letter after a backslash stands for. -/
def escape : Char → Char
  | '0' => '\x00'
  | 'a' => '\x07'
  | 'b' => '\x08'
  | 't' => '\t'
  | 'r' => '\r'
  | 'n' => '\n'
  | c => c

/-- The character with four digits after `x`; a plus sign may take the place of the first one. -/
def numbered? : List Char → Option Char
  | '+' :: ds => (inBase? 16 ds).bind character?
  | ds => (inBase? 16 ds).bind character?

/-- Reads up to one of the characters at which a part ends, resolving escapes, and returns what is
    left from there. Where `mayEnd` holds, the end of the file ends the part as well. -/
def readUntil? (isEnd : Char → Bool) (mayEnd : Bool) (read : List Char) :
    List Char → Option (List Char × List Char)
  | [] => if mayEnd then some (read.reverse, []) else none
  | '\\' :: 'x' :: a :: b :: c :: d :: rest =>
    (numbered? [a, b, c, d]).bind fun e => readUntil? isEnd mayEnd (e :: read) rest
  | '\\' :: c :: rest =>
    if c = 'x' then none
    else if c = '\n' then readUntil? isEnd mayEnd read rest
    else readUntil? isEnd mayEnd (escape c :: read) rest
  | c :: rest =>
    if isEnd c then some (read.reverse, c :: rest)
    else if c = '\\' then none
    else readUntil? isEnd mayEnd (c :: read) rest

def isLineEnd (c : Char) : Bool := c == '\n' || c == '\r'

/-- The characters without the blanks after them. -/
def trimEnd (cs : List Char) : List Char := (Text.trimStart cs.reverse).reverse

/-- Reads a text: quoted parts, and then what is left of the line. Every part takes a character, so
    as many rounds as there are characters suffice. -/
def readText? : (rounds : Nat) → (read : List Char) → (isFirst : Bool) → List Char →
    Option (List Char × List Char)
  | 0, read, _, cs => some (read, cs)
  | rounds + 1, read, isFirst, cs =>
    let quotedBy (q : Char) (cs : List Char) : Option (List Char × List Char) := do
      let (part, rest) ← readUntil? (· == q) false [] cs
      readText? rounds (read ++ part) false (rest.drop 1)
    match cs with
    | [] => some (read, [])
    | '"' :: cs => quotedBy '"' cs
    | '\'' :: cs => quotedBy '\'' cs
    | cs => do
      let (part, rest) ← readUntil? isLineEnd true [] cs
      return (read ++ (if isFirst then Text.trim part else trimEnd part), rest)

/-! ## 2. Lines -/

/-- What stands in a file. -/
inductive Item where
  | heading (name : String)
  | entry (name : String) (text : String)

/-- Drops blanks and ends of lines, but no blank at the start of a line. -/
def dropBlank (atStart : Bool) : List Char → Bool × List Char
  | [] => (atStart, [])
  | c :: rest =>
    if c = '\n' then dropBlank true rest
    else if Text.isBlank c && !(atStart && isGap c) then dropBlank false rest
    else (atStart, c :: rest)

/-- Reads what stands from here; `atStart` tells that this is the start of a line. Every item takes
    a character, so as many rounds as there are characters suffice. A line that starts with a blank
    and has no separator after it ends the file. -/
def items? : (rounds : Nat) → (atStart : Bool) → List Char → Option (List Item)
  | 0, _, cs => if (cs.dropWhile Text.isBlank).isEmpty then some [] else none
  | rounds + 1, atStart, cs =>
    match dropBlank atStart cs with
    | (_, []) => some []
    | (atStart, c :: cs) =>
      if c = ';' || c = '#' then
        if atStart then items? rounds true ((cs.dropWhile (· != '\n')).drop 1) else none
      else if c = '[' then do
        let (name, rest) ← readUntil? (· == ']') false [] cs
        return .heading (String.ofList (Text.trim name)) :: (← items? rounds false (rest.drop 1))
      else
        match readUntil? (fun c => c == '=' || c == ':') false [] (c :: cs) with
        | none => if isGap c then some [] else none
        | some (name, rest) => do
          let name := Text.trim name
          if name.isEmpty then none
          let blank (c : Char) : Bool := Text.isBlank c && !isLineEnd c
          let (text, rest) ← readText? rest.length [] true ((rest.drop 1).dropWhile blank)
          return .entry (String.ofList name) (String.ofList text) :: (← items? rounds false rest)

/-! ## 3. Tables -/

/-- The entries before the next heading. -/
def entries : List Item → List (String × Json)
  | .entry name text :: rest => (name, .string text) :: entries rest
  | _ => []

/-- The sections with the entries below their headings. -/
def sections : List Item → List (String × Json)
  | [] => []
  | .heading name :: rest => (name, .object (Table.ofPairs (entries rest))) :: sections rest
  | .entry _ _ :: rest => sections rest

/-- The values by their names. -/
def read? (text : String) : Option Table := do
  let items ← items? text.length true text.toList
  return Table.ofPairs (entries items ++ sections items)

end Faceted.Settings.Ini
