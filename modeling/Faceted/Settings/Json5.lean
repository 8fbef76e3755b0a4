import Faceted.Settings.Table
import Faceted.Text.Blank
import Faceted.Text.Letter

/-!
# Settings in JSON5 files

JSON as it is written by hand: with comments, names without quotes, texts in single quotes, a comma
after the last element, and more ways to write a number. A text is cut into tokens (`tokens?`), and
the tokens are read by descent (`value?`).

A number without point and exponent is an integer of 64 bits with a sign, or of 32 bits without one
if it is hexadecimal; one that does not fit is refused, and so is a number beyond all doubles.
-/

namespace Faceted.Settings.Json5

open Faceted.Text Faceted.Decimal

/-! ## 1. Blanks and comments -/

def isLineEnd (c : Char) : Bool := c == '\n' || c == '\r' || c == '\u2028' || c == '\u2029'

/-- The blanks between tokens; the next-line control is none. -/
def isSpace (c : Char) : Bool := (isBlank c && c != '\u0085') || c == '\ufeff'

/-- What the characters that are passed over belong to. -/
inductive Passing where
  | blank
  | line
  | block

/-- Drops blanks and comments; a comment between stars has to end. -/
def dropBlank? : Passing → List Char → Option (List Char)
  | .blank, '/' :: '/' :: rest => dropBlank? .line rest
  | .blank, '/' :: '*' :: rest => dropBlank? .block rest
  | .blank, c :: rest => if isSpace c then dropBlank? .blank rest else some (c :: rest)
  | .line, c :: rest => dropBlank? (if isLineEnd c then .blank else .line) rest
  | .block, '*' :: '/' :: rest => dropBlank? .blank rest
  | .block, _ :: rest => dropBlank? .block rest
  | .block, [] => none
  | _, [] => some []

/-! ## 2. Texts and names -/

/-- Takes a UTF-16 unit. `high` is the first half of a pair whose second half must come now. The
    character that is complete comes first, if there is one, and then the first half that waits. -/
def takeUnit? (high : Option Nat) (n : Nat) : Option (List Char × Option Nat) :=
  match high with
  | none =>
    if 0xD800 ≤ n ∧ n < 0xDC00 then some ([], some n)
    else (character? n).map fun c => ([c], none)
  | some h =>
    if 0xDC00 ≤ n ∧ n < 0xE000 then
      some ([Char.ofNat (0x10000 + (h - 0xD800) * 0x400 + (n - 0xDC00))], none)
    else none

/-- The character of a backslash and one character: most stand for themselves. -/
def escape? : Char → Option Char
  | 'b' => some '\x08'
  | 'f' => some '\x0c'
  | 'n' => some '\n'
  | 'r' => some '\r'
  | 't' => some '\t'
  | 'v' => some '\x0b'
  | '0' => some '\x00'
  | c => if c.isDigit || c == 'x' || c == 'u' then none else some c

/-- Reads a text up to its closing quote. `read` holds the characters so far, the latest first. -/
def readString? (quote : Char) (read : List Char) (high : Option Nat) :
    List Char → Option (String × List Char)
  | [] => none
  | '\\' :: 'u' :: a :: b :: c :: d :: rest => do
    let (done, high) ← takeUnit? high (← inBase? 16 [a, b, c, d])
    readString? quote (done ++ read) high rest
  | '\\' :: 'x' :: a :: b :: rest => do
    if high.isSome then none
    let c ← (inBase? 16 [a, b]).bind character?
    readString? quote (c :: read) none rest
  | '\\' :: '\r' :: '\n' :: rest => readString? quote read high rest
  | '\\' :: e :: rest =>
    if isLineEnd e then readString? quote read high rest
    else
      match high, escape? e with
      | none, some c => readString? quote (c :: read) none rest
      | _, _ => none
  | c :: rest =>
    if high.isSome || isLineEnd c || c == '\\' then none
    else if c = quote then some (String.ofList read.reverse, rest)
    else readString? quote (c :: read) none rest

def startsName (c : Char) : Bool := isLetter c || c == '$' || c == '_'

def continuesName (c : Char) : Bool := startsName c || followsLetter c

/-- Reads a name as far as it goes; its characters can be written by their numbers. -/
def readName? (read : List Char) (high : Option Nat) :
    List Char → Option (List Char × List Char)
  | '\\' :: 'u' :: a :: b :: c :: d :: rest => do
    let (done, high) ← takeUnit? high (← inBase? 16 [a, b, c, d])
    readName? (done ++ read) high rest
  | c :: rest =>
    if high.isSome then none
    else if (if read.isEmpty then startsName c else continuesName c) then
      readName? (c :: read) none rest
    else some (read.reverse, c :: rest)
  | [] => if high.isSome then none else some (read.reverse, [])

/-! ## 3. Numbers -/

/-- The sign before a number. -/
inductive Sign where
  | plus
  | minus
  deriving DecidableEq

def splitSign : List Char → Option Sign × List Char
  | '+' :: rest => (some .plus, rest)
  | '-' :: rest => (some .minus, rest)
  | cs => (none, cs)

/-- The digits before the point; a zero stands alone. -/
def wholeDigits : List Char → List Char
  | '0' :: _ => ['0']
  | cs => cs.takeWhile Char.isDigit

/-- Reads a number in base ten. -/
def readDecimal? (negative : Bool) (cs : List Char) : Option (Json × List Char) := do
  let whole := wholeDigits cs
  let rest := cs.drop whole.length
  let (hasPoint, fraction, rest) := match rest with
    | '.' :: rest => (true, rest.takeWhile Char.isDigit, rest.dropWhile Char.isDigit)
    | rest => (false, [], rest)
  if whole.isEmpty && fraction.isEmpty then none
  let (exponentNegative, exponent, rest) := readExponent rest
  if hasPoint || !exponent.isEmpty then
    let x := signed negative (Numeral.mk whole fraction exponentNegative exponent).toFloat
    if isFinite x then some (.float x, rest) else none
  else
    let n : Int := ofDigits whole
    let n := if negative then -n else n
    if isWord n then some (.int n, rest) else none

/-- Reads a number; the text starts with a sign, a digit or a point. -/
def readNumber? (cs : List Char) : Option (Json × List Char) :=
  let (sign, cs) := splitSign cs
  match cs with
  | '0' :: x :: rest =>
    if (x = 'x' ∨ x = 'X') ∧ (rest.head?.bind hexValue?).isSome then
      let ds := rest.takeWhile fun c => (hexValue? c).isSome
      match sign, inBase? 16 ds with
      | none, some n => if n < 0x100000000 then some (.int n, rest.drop ds.length) else none
      | _, _ => none
    else readDecimal? (sign = some .minus) cs
  | cs =>
    let (infinite, undefined) := ("Infinity".toList, "NaN".toList)
    if sign = some .minus ∧ infinite.isPrefixOf cs then
      some (.float (-infinity), cs.drop infinite.length)
    else if sign = some .minus ∧ undefined.isPrefixOf cs then
      some (.float nan, cs.drop undefined.length)
    else readDecimal? (sign = some .minus) cs

/-! ## 4. Tokens -/

inductive Token where
  | openArray
  | closeArray
  | openObject
  | closeObject
  | comma
  | colon
  | text (s : String)
  | number (v : Json)
  /-- A name, and how it was written. -/
  | name (s : String) (written : List Char)

/-- Reads one token; the text starts with no blank. -/
def readToken? : List Char → Option (Token × List Char)
  | '[' :: rest => some (.openArray, rest)
  | ']' :: rest => some (.closeArray, rest)
  | '\x7b' :: rest => some (.openObject, rest)
  | '\x7d' :: rest => some (.closeObject, rest)
  | ',' :: rest => some (.comma, rest)
  | ':' :: rest => some (.colon, rest)
  | c :: rest =>
    if c = '"' ∨ c = '\'' then
      (readString? c [] none rest).map fun (s, rest) => (.text s, rest)
    else if c = '+' ∨ c = '-' ∨ c = '.' ∨ c.isDigit then
      (readNumber? (c :: rest)).map fun (v, rest) => (.number v, rest)
    else
      match readName? [] none (c :: rest) with
      | some (name, after) =>
        if name.isEmpty then none
        else
          let written := (c :: rest).take ((c :: rest).length - after.length)
          some (.name (String.ofList name) written, after)
      | none => none
  | [] => none

/-- Cuts the text into tokens. Every token takes a character, so as many rounds as there are
    characters suffice. -/
def tokensWithin? : (rounds : Nat) → List Char → Option (List Token)
  | rounds, cs =>
    match dropBlank? .blank cs, rounds with
    | some [], _ => some []
    | some cs, rounds + 1 => do
      let (t, rest) ← readToken? cs
      return t :: (← tokensWithin? rounds rest)
    | _, _ => none

def tokens? (cs : List Char) : Option (List Token) := tokensWithin? cs.length cs

/-! ## 5. Values -/

/-- The names that are values. -/
def words : List (List Char × Json) :=
  [("true".toList, .bool true), ("false".toList, .bool false), ("null".toList, .null),
    ("Infinity".toList, .float infinity), ("NaN".toList, .float nan)]

mutual

/-- Reads a value. It takes two rounds for a container and what is in it, so twice as many rounds as
    there are tokens suffice. -/
def value? : (rounds : Nat) → List Token → Option (Json × List Token)
  | _, .text s :: rest => some (.string s, rest)
  | _, .number v :: rest => some (v, rest)
  | _, .name _ written :: rest => (words.lookup written).map fun v => (v, rest)
  | rounds + 1, .openArray :: rest => do
    let (vs, rest) ← elements? rounds rest
    return (.array vs, rest)
  | rounds + 1, .openObject :: rest => do
    let (pairs, rest) ← fields? rounds rest
    return (.object (Table.ofPairs pairs), rest)
  | _, _ => none

/-- Reads elements up to the closing bracket. -/
def elements? : (rounds : Nat) → List Token → Option (List Json × List Token)
  | _, .closeArray :: rest => some ([], rest)
  | 0, _ => none
  | rounds + 1, ts => do
    let (v, rest) ← value? rounds ts
    match rest with
    | .comma :: rest =>
      let (vs, rest) ← elements? rounds rest
      return (v :: vs, rest)
    | .closeArray :: rest => return ([v], rest)
    | _ => none

/-- Reads fields up to the closing brace. -/
def fields? : (rounds : Nat) → List Token → Option (List (String × Json) × List Token)
  | _, .closeObject :: rest => some ([], rest)
  | 0, _ => none
  | rounds + 1, ts => do
    let (name, ts) ← match ts with
      | .text name :: .colon :: rest => some (name, rest)
      | .name name _ :: .colon :: rest => some (name, rest)
      | _ => none
    let (v, rest) ← value? rounds ts
    match rest with
    | .comma :: rest =>
      let (pairs, rest) ← fields? rounds rest
      return ((name, v) :: pairs, rest)
    | .closeObject :: rest => return ([(name, v)], rest)
    | _ => none

end

/-- The values by their names. -/
def read? (text : String) : Option Table := do
  let ts ← tokens? text.toList
  match ← value? (2 * ts.length + 2) ts with
  | (.object fields, []) => return fields
  | _ => none

end Faceted.Settings.Json5
