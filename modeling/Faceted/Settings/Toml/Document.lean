import Faceted.Settings.Table
import Faceted.Settings.Toml.Scalar

/-!
# Tables and keys in TOML files

`key = value` gives a name its value; the heading `[table]` puts the lines after it into that table,
and `[[table]]` starts another table of a list. A key has one part or several with points between
them, each of which but the last leads into a table.

How a table came to be decides what may still be put into it (`Origin`): a table with a heading of
its own has only one, and a key with points goes on only into tables that keys with points have
made.
-/

namespace Faceted.Settings.Toml

/-! ## 1. Tables in the making -/

/-- How a table came to be: by its own heading, by the heading of a table in it, or by a key with
    points. -/
inductive Origin where
  | headed
  | implied
  | dotted
  deriving DecidableEq

/-- What a name stands for: a value, a table, or a list of tables with headings, the latest
    first. -/
inductive Entry where
  | value (v : Json)
  | table (origin : Origin) (fields : List (String × Entry))
  | tables (elements : List Entry)

abbrev Entries := List (String × Entry)

mutual

def Entry.toJson : Entry → Json
  | .value v => v
  | .table _ fields => .object (fieldsToJson fields)
  | .tables elements => .array (elementsToJson elements).reverse

def fieldsToJson : List (String × Entry) → Table
  | [] => []
  | (name, e) :: rest => (name, e.toJson) :: fieldsToJson rest

def elementsToJson : List Entry → List Json
  | [] => []
  | e :: rest => e.toJson :: elementsToJson rest

end

namespace Entries

/-- The entries with this one under the name. -/
def put (name : String) (e : Entry) : Entries → Entries
  | [] => [(name, e)]
  | (other, d) :: rest => if other = name then (name, e) :: rest else (other, d) :: put name e rest

/-- Changes the table that a path leads to, making the tables on the way that are missing; a list of
    tables leads to its latest. `isDotted` says that the path is part of a key, `here` that the
    table it starts from was made by one. The change is told the same about the table that it
    changes. -/
def changeAt? (isDotted : Bool) (change : Bool → Entries → Option Entries) (here : Bool) :
    List String → Entries → Option Entries
  | [], entries => change here entries
  | name :: path, entries =>
    match entries.lookup name with
    | none => do
      let inside ← changeAt? isDotted change isDotted path []
      return put name (.table (if isDotted then .dotted else .implied) inside) entries
    | some (.table origin inside) => do
      if isDotted && origin = .headed then none
      let inside ← changeAt? isDotted change (origin = .dotted) path inside
      return put name (.table origin inside) entries
    | some (.tables (.table origin inside :: others)) => do
      let inside ← changeAt? isDotted change (origin = .dotted) path inside
      return put name (.tables (.table origin inside :: others)) entries
    | some _ => none

/-- Puts a value under a key; a name that is taken is refused. -/
def insert? (key : List String) (v : Json) (entries : Entries) : Option Entries :=
  match key.getLast? with
  | none => none
  | some name =>
    let insert (here : Bool) (inside : Entries) : Option Entries :=
      if here != (1 < key.length) || (inside.lookup name).isSome then none
      else some (put name (.value v) inside)
    changeAt? true insert false key.dropLast entries

/-- Starts the table of a heading, which must not have had one. -/
def startTable? (path : List String) (entries : Entries) : Option Entries :=
  match path.getLast? with
  | none => none
  | some name =>
    let start (_ : Bool) (inside : Entries) : Option Entries :=
      match inside.lookup name with
      | none => some (put name (.table .headed []) inside)
      | some (.table .implied fields) => some (put name (.table .headed fields) inside)
      | some _ => none
    changeAt? false start false path.dropLast entries

/-- Starts another table of a list. -/
def startElement? (path : List String) (entries : Entries) : Option Entries :=
  match path.getLast? with
  | none => none
  | some name =>
    let start (_ : Bool) (inside : Entries) : Option Entries :=
      match inside.lookup name with
      | none => some (put name (.tables [.table .headed []]) inside)
      | some (.tables elements) =>
        some (put name (.tables (.table .headed [] :: elements)) inside)
      | some _ => none
    changeAt? false start false path.dropLast entries

end Entries

/-! ## 2. Blanks, ends of lines and comments -/

/-- What follows a comment, up to the end of its line. -/
def afterComment? : List Char → Option (List Char)
  | [] => some []
  | '\n' :: rest => some ('\n' :: rest)
  | '\r' :: '\n' :: rest => some ('\n' :: rest)
  | c :: rest => if isPrinted c then afterComment? rest else none

/-- Drops blanks and a comment; `none` if the comment holds what it must not. -/
def skipInLine? (cs : List Char) : Option (List Char) :=
  match cs.dropWhile isGap with
  | '#' :: rest => afterComment? rest
  | rest => some rest

/-- Drops blanks, comments and ends of lines. Every line takes a character, so as many rounds as
    there are characters suffice. -/
def skipWithin? : (rounds : Nat) → List Char → Option (List Char)
  | 0, cs => skipInLine? cs
  | rounds + 1, cs => do
    let rest ← skipInLine? cs
    match afterLineEnd? rest with
    | some rest => skipWithin? rounds rest
    | none => return rest

def skip? (cs : List Char) : Option (List Char) := skipWithin? cs.length cs

/-- What follows a line of which nothing but blanks and a comment is left. -/
def afterLine? (cs : List Char) : Option (List Char) := do
  match ← skipInLine? cs with
  | [] => return []
  | rest => afterLineEnd? rest

/-! ## 3. Keys -/

def isBareChar (c : Char) : Bool := c.isAlphanum || c == '_' || c == '-'

/-- Reads one part of a key: bare, or in quotes. -/
def keyPart? (cs : List Char) : Option (String × List Char) :=
  match cs.takeWhile isBareChar with
  | [] => line? cs
  | name => some (String.ofList name, cs.dropWhile isBareChar)

/-- Reads a key and the blanks around it. Every part takes a character, so as many rounds as there
    are characters suffice. -/
def key? : (rounds : Nat) → List Char → Option (List String × List Char)
  | 0, _ => none
  | rounds + 1, cs => do
    let (part, rest) ← keyPart? (cs.dropWhile isGap)
    match rest.dropWhile isGap with
    | '.' :: rest =>
      let (parts, rest) ← key? rounds rest
      return (part :: parts, rest)
    | rest => return ([part], rest)

/-- Reads a key with the equals sign and the blanks after it. -/
def assigned? (cs : List Char) : Option (List String × List Char) := do
  let (key, rest) ← key? cs.length cs
  match rest with
  | '=' :: rest => return (key, rest.dropWhile isGap)
  | _ => none

/-! ## 4. Values -/

/-- How deep lists and tables may nest within a value. -/
def maxDepth : Nat := 80

mutual

/-- Reads a value at that many levels above the deepest. It takes two rounds for a list or table and
    what is in it, so twice as many rounds as there are characters suffice. -/
def value? : (rounds : Nat) → (levels : Nat) → List Char → Option (Json × List Char)
  | rounds + 1, levels + 1, '[' :: rest => do
    let (vs, rest) ← elements? rounds levels (← skip? rest)
    return (.array vs, rest)
  | rounds + 1, levels + 1, '\x7b' :: rest => do
    let (entries, rest) ← fields? rounds levels [] (← skip? rest)
    return (.object (fieldsToJson entries), rest)
  | _, _, cs =>
    if cs.head?.any fun c => c == '"' || c == '\'' then
      (text? cs).map fun (s, rest) => (.string s, rest)
    else plain? cs

/-- Reads elements up to the closing bracket. -/
def elements? : (rounds : Nat) → (levels : Nat) → List Char → Option (List Json × List Char)
  | _, _, ']' :: rest => some ([], rest)
  | 0, _, _ => none
  | rounds + 1, levels, cs => do
    let (v, rest) ← value? rounds levels cs
    match ← skip? rest with
    | ',' :: rest =>
      let (vs, rest) ← elements? rounds levels (← skip? rest)
      return (v :: vs, rest)
    | ']' :: rest => return ([v], rest)
    | _ => none

/-- Reads keys and their values up to the closing brace. -/
def fields? : (rounds : Nat) → (levels : Nat) → Entries → List Char →
    Option (Entries × List Char)
  | _, _, entries, '\x7d' :: rest => some (entries, rest)
  | 0, _, _, _ => none
  | rounds + 1, levels, entries, cs => do
    let (key, rest) ← assigned? cs
    let (v, rest) ← value? rounds levels rest
    let entries ← Entries.insert? key v entries
    match ← skip? rest with
    | ',' :: rest => fields? rounds levels entries (← skip? rest)
    | '\x7d' :: rest => return (entries, rest)
    | _ => none

end

/-! ## 5. Files -/

/-- Reads the inside of a heading with its closing brackets. The flag says that it starts a table of
    a list. -/
def heading? (cs : List Char) : Option (Bool × List String × List Char) := do
  let isElement := cs.head? == some '['
  let cs := if isElement then cs.drop 1 else cs
  let (path, rest) ← key? cs.length cs
  match isElement, rest with
  | true, ']' :: ']' :: rest => return (true, path, rest)
  | false, ']' :: rest => return (false, path, rest)
  | _, _ => none

/-- Reads lines below the heading of a path. Every line takes a character, so as many rounds as
    there are characters suffice. -/
def lines? : (rounds : Nat) → (path : List String) → Entries → List Char → Option Entries
  | rounds, path, entries, cs => do
    match rounds, ← skip? cs with
    | _, [] => return entries
    | 0, _ => none
    | rounds + 1, '[' :: rest =>
      let (isElement, path, rest) ← heading? rest
      let entries ←
        if isElement then Entries.startElement? path entries else Entries.startTable? path entries
      lines? rounds path entries (← afterLine? rest)
    | rounds + 1, cs =>
      let (key, rest) ← assigned? cs
      let (v, rest) ← value? (2 * rest.length + 2) maxDepth rest
      let entries ←
        Entries.changeAt? false (fun _ inside => Entries.insert? key v inside) false path entries
      lines? rounds path entries (← afterLine? rest)

/-- The values by their names. -/
def read? (text : String) : Option Table := do
  return fieldsToJson (← lines? text.length [] [] text.toList)

end Faceted.Settings.Toml
