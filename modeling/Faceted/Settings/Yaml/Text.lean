import Faceted.Settings.Yaml.Cursor

/-!
# Texts in YAML files

A text stands between quotes, or without them, or indented below `|` or `>`. It can go on over
several lines: a single end of a line counts as a blank, and of several the first does not count.
The lines below `|` keep their ends.

The characters of a text are kept with the latest first while it is read.
-/

namespace Faceted.Settings.Yaml

/-! ## 1. Folding lines -/

/-- What was passed over since the last character of a text: blanks in its line, or whether a line
    has ended, and how many more ended after that. -/
structure Pause where
  blanks : List Char
  hasBreak : Bool
  moreBreaks : Nat

def Pause.none : Pause := ⟨[], false, 0⟩

/-- The characters that stand for ends of lines. -/
def Pause.folded (p : Pause) : List Char :=
  if p.hasBreak && p.moreBreaks = 0 then [' '] else List.replicate p.moreBreaks '\n'

/-! ## 2. Between quotes -/

/-- The character of a one-letter escape. -/
def escape? : Char → Option Char
  | '0' => some '\x00'
  | 'a' => some '\x07'
  | 'b' => some '\x08'
  | 't' => some '\t'
  | '\t' => some '\t'
  | 'n' => some '\n'
  | 'v' => some '\x0b'
  | 'f' => some '\x0c'
  | 'r' => some '\r'
  | 'e' => some '\x1b'
  | ' ' => some ' '
  | '"' => some '"'
  | '/' => some '/'
  | '\\' => some '\\'
  | 'N' => some '\u0085'
  | '_' => some '\u00a0'
  | 'L' => some '\u2028'
  | 'P' => some '\u2029'
  | _ => none

/-- How many digits follow an escape that gives a character by its number. -/
def digitCount? : Char → Option Nat
  | 'x' => some 2
  | 'u' => some 4
  | 'U' => some 8
  | _ => none

/-- Reads an escaped character. -/
def escaped? (c : Cursor) : Option (Char × Cursor) := do
  let e ← c.next?
  match digitCount? e with
  | some count =>
    let (x, _) ← readCharacter? count (c.rest.drop 2)
    return (x, c.pass (2 + count))
  | none => return (← escape? e, c.pass 2)

/-- Reads the characters up to a blank, the end of a line or the closing quote. The flag says that
    the end of a line was escaped. Every character takes one, so as many rounds as there are
    characters suffice. -/
def quotedRun? (isSingle : Bool) : (rounds : Nat) → (read : List Char) → Cursor →
    Option (List Char × Bool × Cursor)
  | 0, read, c => some (read, false, c)
  | rounds + 1, read, c =>
    match c.head? with
    | none => some (read, false, c)
    | some x =>
      if isGap x || isBreak x then some (read, false, c)
      else if isSingle && x == '\'' then
        if c.next? = some '\'' then quotedRun? isSingle rounds ('\'' :: read) (c.pass 2)
        else some (read, false, c)
      else if !isSingle && x == '"' then some (read, false, c)
      else if !isSingle && x == '\\' then
        if c.next?.any isBreak then some (read, true, c.step.lineBreak)
        else do
          let (x, c) ← escaped? c
          quotedRun? isSingle rounds (x :: read) c
      else quotedRun? isSingle rounds (x :: read) c.step

/-- Passes over blanks and ends of lines within quotes. `afterBreak` says that a line has ended. A
    tab must not take the place of an indentation. -/
def quotedPause? (indent : Int) : (rounds : Nat) → (afterBreak : Bool) → Pause → Cursor →
    Option (Pause × Cursor)
  | 0, _, p, c => some (p, c)
  | rounds + 1, afterBreak, p, c =>
    match c.head? with
    | none => some (p, c)
    | some x =>
      if isGap x then
        if !afterBreak then
          quotedPause? indent rounds false { p with blanks := x :: p.blanks } (c.advance 1)
        else if x = '\t' ∧ (c.column : Int) < indent then none
        else quotedPause? indent rounds true p (c.advance 1)
      else if isBreak x then
        if afterBreak then
          quotedPause? indent rounds true { p with moreBreaks := p.moreBreaks + 1 } c.lineBreak
        else quotedPause? indent rounds true ⟨[], true, 0⟩ c.lineBreak
      else some (p, c)

/-- Reads a text up to its closing quote, from the character after the opening one on. It has to be
    indented below what it belongs to. -/
def quotedWithin? (isSingle : Bool) (indent : Int) : (rounds : Nat) → (read : List Char) → Cursor →
    Option (String × Cursor)
  | 0, _, _ => none
  | rounds + 1, read, c => do
    if c.isAtDocument || c.rest.isEmpty || (c.column : Int) < indent then none
    let (read, isEscaped, c) ← quotedRun? isSingle c.rest.length read c
    if c.head? = some (if isSingle then '\'' else '"') then
      return (String.ofList read.reverse, c.step)
    let (p, c) ← quotedPause? indent c.rest.length isEscaped .none c
    quotedWithin? isSingle indent rounds (p.folded ++ p.blanks ++ read) c

/-- Reads a text between quotes. -/
def quoted? (isSingle : Bool) (indent : Int) (c : Cursor) : Option (String × Cursor) :=
  quotedWithin? isSingle indent c.rest.length [] c.step

/-! ## 3. Without quotes -/

/-- The characters up to a blank, the end of a line, or what ends a text without quotes. -/
def plainRun (inFlow : Bool) : List Char → List Char
  | [] => []
  | c :: rest =>
    if isGap c || isBreak c || (inFlow && isFlow c) then []
    else if c == ':' && (endsWord rest.head? || (inFlow && rest.head?.any isFlow)) then []
    else c :: plainRun inFlow rest

/-- Passes over blanks and ends of lines within a text without quotes. Where a tab takes the place
    of an indentation, the line must hold nothing else. -/
def plainPause? (indent : Int) : (rounds : Nat) → Pause → Cursor → Option (Pause × Cursor)
  | 0, p, c => some (p, c)
  | rounds + 1, p, c =>
    match c.head? with
    | none => some (p, c)
    | some x =>
      if isGap x then
        if !c.isLeading then
          plainPause? indent rounds { p with blanks := x :: p.blanks } (c.advance 1)
        else if x = '\t' ∧ (c.column : Int) < indent then do
          let c ← c.skipGap?
          if !endsLine c.head? then none
          plainPause? indent rounds p c
        else plainPause? indent rounds p (c.advance 1)
      else if isBreak x then
        if c.isLeading then
          plainPause? indent rounds { p with moreBreaks := p.moreBreaks + 1 } c.lineBreak
        else plainPause? indent rounds ⟨[], true, p.moreBreaks⟩ c.lineBreak
      else some (p, c)

/-- Reads a text without quotes as far as it goes. Its further lines have that indentation at
    least. -/
def plainWithin? (inFlow : Bool) (indent : Int) : (rounds : Nat) → Pause → (read : List Char) →
    Cursor → Option (List Char × Cursor)
  | 0, _, read, c => some (read, c)
  | rounds + 1, p, read, c => do
    if c.isAtDocument || c.head? = some '#' then return (read, c)
    if inFlow && c.head? = some '-' && c.next?.any isFlow then none
    let run := plainRun inFlow c.rest
    let (p, read, c) :=
      if run.isEmpty then (p, read, c)
      else (.none, run.reverse ++ p.folded ++ p.blanks ++ read, c.pass run.length)
    if c.head?.isNone || !endsWord c.head? then return (read, c)
    let (p, c) ← plainPause? indent c.rest.length p c
    if !inFlow && (c.column : Int) < indent then return (read, c)
    plainWithin? inFlow indent rounds p read c

/-- Reads a text without quotes. -/
def plain? (inFlow : Bool) (indent : Int) (c : Cursor) : Option (String × Cursor) := do
  if inFlow && (c.column : Int) < indent then none
  let (read, c) ← plainWithin? inFlow indent (c.rest.length + 1) .none [] c
  if read.isEmpty then none else some (String.ofList read.reverse, c)

/-! ## 4. Indented -/

/-- What becomes of the ends of lines at the end of an indented text. -/
inductive Chomping where
  | strip
  | clip
  | keep
  deriving DecidableEq

def Chomping.ofChar? : Char → Option Chomping
  | '+' => some .keep
  | '-' => some .strip
  | _ => none

/-- Reads what follows `|` or `>`: how the text is chomped, and by how much it is indented. -/
def header? (c : Cursor) : Option (Chomping × Nat × Cursor) :=
  let chomping (c : Cursor) : Chomping × Cursor :=
    match c.head?.bind Chomping.ofChar? with
    | some chomping => (chomping, c.step)
    | none => (.clip, c)
  let increment? (c : Cursor) : Option (Nat × Cursor) :=
    match c.head? with
    | some x =>
      if !x.isDigit then some (0, c)
      else if x = '0' then none
      else some (x.toNat - 0x30, c.step)
    | none => some (0, c)
  match c.head?.bind Chomping.ofChar? with
  | some _ => do
    let (chomped, c) := chomping c
    let (increment, c) ← increment? c
    return (chomped, increment, c)
  | none => do
    let (increment, c) ← increment? c
    if increment = 0 then return (.clip, 0, c)
    let (chomped, c) := chomping c
    return (chomped, increment, c)

/-- Passes over lines of blanks, and over the blanks of an indentation. Their ends are counted. -/
def skipIndent (indent : Nat) : (rounds : Nat) → (breaks : Nat) → Cursor → Nat × Cursor
  | 0, breaks, c => (breaks, c)
  | rounds + 1, breaks, c =>
    let blanks := ((c.rest.take (indent - c.column)).takeWhile (· == ' ')).length
    let c := c.advance blanks
    if c.head?.any isBreak then skipIndent indent rounds (breaks + 1) c.lineBreak
    else (breaks, c)

/-- Passes over lines of blanks, and over the blanks before the first character. The widest of these
    lines comes first. -/
def findIndent : (rounds : Nat) → (widest breaks : Nat) → Cursor → Nat × Nat × Cursor
  | 0, widest, breaks, c => (widest, breaks, c)
  | rounds + 1, widest, breaks, c =>
    let c := c.advance (c.rest.takeWhile (· == ' ')).length
    let widest := max widest c.column
    if c.head?.any isBreak then findIndent rounds widest (breaks + 1) c.lineBreak
    else (widest, breaks, c)

/-- The lines of an indented text that were read. -/
structure Block where
  read : List Char
  /-- Has the last line ended? -/
  hasBreak : Bool
  /-- How many more lines have ended since. -/
  moreBreaks : Nat
  /-- Did the last line start with a blank? -/
  startsBlank : Bool

/-- Reads the lines of an indented text. -/
def blockLines (isLiteral : Bool) (indent : Nat) : (rounds : Nat) → Block → Cursor → Block × Cursor
  | 0, b, c => (b, c)
  | rounds + 1, b, c =>
    if c.column != indent || c.rest.isEmpty || (indent = 0 && c.isAtMarker "...") then (b, c)
    else
      let isBlank := c.head?.any isGap
      let ends :=
        if !isLiteral && b.hasBreak && !b.startsBlank && !isBlank then
          if b.moreBreaks = 0 then [' '] else List.replicate b.moreBreaks '\n'
        else List.replicate (b.moreBreaks + b.hasBreak.toNat) '\n'
      let line := c.rest.takeWhile fun x => !isBreak x
      let read := line.reverse ++ ends ++ b.read
      let c := c.pass line.length
      if c.rest.isEmpty then (⟨read, false, 0, isBlank⟩, c)
      else
        let c := c.lineBreak
        let (breaks, c) := skipIndent indent c.rest.length 0 c
        blockLines isLiteral indent rounds ⟨read, true, breaks, isBlank⟩ c

/-- The text of an indented block; `c` is where its lines end. -/
def Block.text (b : Block) (chomping : Chomping) (indent : Nat) (c : Cursor) : String :=
  let last :=
    if chomping = .strip then 0
    else b.hasBreak.toNat + (c.rest.isEmpty && max indent 1 ≤ c.column).toNat
  let more := if chomping = .keep then b.moreBreaks else 0
  String.ofList (b.read.reverse ++ List.replicate (last + more) '\n')

/-- Reads an indented text from `|` or `>` on, below what has the given indentation. -/
def block? (isLiteral : Bool) (outer : Int) (c : Cursor) : Option (String × Cursor) := do
  let startLine := c.line
  let (chomping, increment, c) ← header? c.step
  let c ← c.skipGap?
  if !endsLine c.head? then none
  let hasBreak := c.head?.isSome
  let c := c.lineBreak
  if c.head? = some '\t' then none
  let fixed := if 0 ≤ outer then (outer + increment).toNat else increment
  let (indent, breaks, c) :=
    if 0 < increment then
      let (breaks, c) := skipIndent fixed c.rest.length 0 c
      (fixed, breaks, c)
    else
      let (widest, breaks, c) := findIndent c.rest.length 0 0 c
      let indent := max widest (outer + 1).toNat
      (if 0 < outer then max indent 1 else indent, breaks, c)
  if c.rest.isEmpty then
    let ends :=
      if chomping = .strip || c.line = startLine then 0
      else if chomping = .clip || breaks = 0 then hasBreak.toNat
      else breaks
    return (String.ofList (List.replicate ends '\n'), c)
  if c.column < indent && outer < c.column then none
  let (b, c) := blockLines isLiteral indent c.rest.length ⟨[], false, breaks, false⟩ c
  return (b.text chomping indent c, c)

end Faceted.Settings.Yaml
