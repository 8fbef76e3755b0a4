import Faceted.Json
import Faceted.KeyMap
import Faceted.Text.Percent

/-!
# Reading JSON

A text is cut into tokens (`tokens?`), and the tokens are read by a machine with a stack of open
containers (`Machine.step`), so that reading is a fold over the tokens and ends by itself.

* Names may repeat in an object; the last value counts. Fields are in ascending order of the names.
* Containers nest to a depth of `maxDepth` at most.
* A number without fraction and exponent that fits 64 bits is an integer; minus zero and every other
  number is a double, computed from the leading digits that fit 64 bits (`doubleOf?`). A number
  beyond all doubles is refused.

These decisions are those of the package `serde_json` (version 1).
-/

namespace Faceted.Json

open Faceted.Text Faceted.Decimal

/-! ## 1. Numbers -/

/-- Appends digits to a number as long as it fits 64 bits; the digits left over come second. -/
def appendDigits (n : Nat) : List Char → Nat × List Char
  | [] => (n, [])
  | c :: rest =>
    let next := 10 * n + (c.toNat - 0x30)
    if next < Nat.pow 2 64 then appendDigits next rest else (n, c :: rest)

/-- `10 ^ n` as a double. -/
def powerOfTen (n : Nat) : Float := Float.ofScientific 1 false n

/-- `x · 10 ^ exponent` by one multiplication or, below, by repeated division. -/
def scaled? (x : Float) (exponent : Int) : Option Float :=
  if 308 < exponent then
    if x == 0.0 then some x else none
  else if 0 ≤ exponent then
    let y := x * powerOfTen exponent.toNat
    if isFinite y then some y else none
  else if -308 ≤ exponent then some (x / powerOfTen (-exponent).toNat)
  else if x == 0.0 then some x
  else scaled? (x / powerOfTen 308) (exponent + 308)
termination_by (-exponent).toNat
decreasing_by omega

/-- The double of the digits before and after the point and an exponent. -/
def doubleOf? (whole fraction : List Char) (exponent : Int) : Option Float :=
  let (n, skipped) := appendDigits 0 whole
  let (m, ignored) := appendDigits n fraction
  scaled? (ofInt m) (exponent + skipped.length - (fraction.length - ignored.length : Nat))

/-- The value of a number from its parts; `none` if it is beyond all doubles. -/
def number? (negative : Bool) (whole fraction : List Char) (exponent : Option Int) : Option Json :=
  let n := ofDigits whole
  if fraction.isEmpty && exponent.isNone && n < Nat.pow 2 64 &&
      (!negative || (n != 0 && n ≤ Nat.pow 2 63)) then
    some (.int (if negative then -(n : Int) else n))
  else
    (doubleOf? whole fraction (exponent.getD 0)).map fun x => .float (signed negative x)

/-- Reads the digits at the start, at least one. -/
def someDigits? (cs : List Char) : Option (List Char × List Char) :=
  match cs.takeWhile Char.isDigit with
  | [] => none
  | ds => some (ds, cs.dropWhile Char.isDigit)

/-- Reads a number; a leading zero stands alone. -/
def readNumber? (cs : List Char) : Option (Json × List Char) := do
  let (negative, cs) := match cs with
    | '-' :: rest => (true, rest)
    | _ => (false, cs)
  let (whole, cs) ← someDigits? cs
  if whole.head? = some '0' ∧ whole.length ≠ 1 then none
  let (fraction, cs) ← match cs with
    | '.' :: rest => someDigits? rest
    | _ => some ([], cs)
  let (exponent, cs) ← match cs with
    | e :: rest =>
      if e = 'e' ∨ e = 'E' then do
        let (minus, rest) := splitSign rest
        let (ds, rest) ← someDigits? rest
        let n : Int := ofDigits ds
        some (some (if minus then -n else n), rest)
      else some (none, cs)
    | [] => some (none, cs)
  let v ← number? negative whole fraction exponent
  return (v, cs)

/-! ## 2. Strings -/

/-- The value of four hexadecimal digits. -/
def hex4? (a b c d : Char) : Option Nat := do
  return ((← hexValue? a) * 16 + (← hexValue? b)) * 256 + (← hexValue? c) * 16 + (← hexValue? d)

/-- The character of a one-letter escape. -/
def escape? : Char → Option Char
  | '"' => some '"'
  | '\\' => some '\\'
  | '/' => some '/'
  | 'b' => some '\x08'
  | 'f' => some '\x0c'
  | 'n' => some '\n'
  | 'r' => some '\r'
  | 't' => some '\t'
  | _ => none

/-- Reads a string up to its closing quote. `read` holds the characters so far, the latest first;
    `high` is the first half of a surrogate pair whose second half must follow. -/
def readString? (read : List Char) (high : Option Nat) : List Char → Option (String × List Char)
  | [] => none
  | '\\' :: 'u' :: a :: b :: c :: d :: rest =>
    match hex4? a b c d, high with
    | none, _ => none
    | some n, none =>
      if 0xD800 ≤ n ∧ n < 0xDC00 then readString? read (some n) rest
      else if 0xDC00 ≤ n ∧ n < 0xE000 then none
      else readString? (Char.ofNat n :: read) none rest
    | some n, some h =>
      if 0xDC00 ≤ n ∧ n < 0xE000 then
        readString? (Char.ofNat (0x10000 + (h - 0xD800) * 0x400 + (n - 0xDC00)) :: read) none rest
      else none
  | '\\' :: e :: rest =>
    match high, escape? e with
    | none, some c => readString? (c :: read) none rest
    | _, _ => none
  | c :: rest =>
    if high.isSome ∨ c.toNat < 0x20 ∨ c = '\\' then none
    else if c = '"' then some (String.ofList read.reverse, rest)
    else readString? (c :: read) none rest

/-! ## 3. Tokens -/

inductive Token where
  | openArray
  | closeArray
  | openObject
  | closeObject
  | comma
  | colon
  /-- A value without parts. -/
  | scalar (v : Json)

/-- The words among the values. -/
def words : List (List Char × Json) :=
  [("true".toList, .bool true), ("false".toList, .bool false), ("null".toList, .null)]

/-- Reads one token; the text starts with no blank. -/
def readToken? : List Char → Option (Token × List Char)
  | '[' :: rest => some (.openArray, rest)
  | ']' :: rest => some (.closeArray, rest)
  | '\x7b' :: rest => some (.openObject, rest)
  | '\x7d' :: rest => some (.closeObject, rest)
  | ',' :: rest => some (.comma, rest)
  | ':' :: rest => some (.colon, rest)
  | '"' :: rest => (readString? [] none rest).map fun (s, rest) => (.scalar (.string s), rest)
  | cs =>
    match words.find? fun w => w.1.isPrefixOf cs with
    | some (w, v) => some (.scalar v, cs.drop w.length)
    | none => (readNumber? cs).map fun (v, rest) => (.scalar v, rest)

/-- Blanks between tokens. -/
def isSpace (c : Char) : Bool := c == ' ' || c == '\n' || c == '\t' || c == '\r'

/-- Cuts the text into tokens. Every token takes a character, so as many rounds as there are
    characters suffice. -/
def tokensWithin : (rounds : Nat) → (read : List Token) → List Char → Option (List Token)
  | 0, read, cs => if (cs.dropWhile isSpace).isEmpty then some read.reverse else none
  | rounds + 1, read, cs =>
    match cs.dropWhile isSpace with
    | [] => some read.reverse
    | cs =>
      match readToken? cs with
      | none => none
      | some (t, rest) => tokensWithin rounds (t :: read) rest

def tokens? (cs : List Char) : Option (List Token) := tokensWithin cs.length [] cs

/-! ## 4. The machine -/

/-- How deep containers may nest. -/
def maxDepth : Nat := 127

/-- An open container with what it holds so far, the latest first. An object also keeps the name
    whose value comes next. -/
inductive Container where
  | array (done : List Json)
  | object (done : List (String × Json)) (name : String)

/-- What may come next. -/
inductive Expected where
  | value
  | valueOrClose
  | name
  | nameOrClose
  | colon
  | commaOrClose
  /-- The text is complete. -/
  | finished (v : Json)

structure Machine where
  containers : List Container
  expected : Expected

/-- A value is complete: it goes into the innermost container. -/
def Machine.complete (v : Json) : List Container → Machine
  | [] => ⟨[], .finished v⟩
  | .array done :: outer => ⟨.array (v :: done) :: outer, .commaOrClose⟩
  | .object done name :: outer => ⟨.object ((name, v) :: done) name :: outer, .commaOrClose⟩

/-- An object of fields in the order they were read, the latest first. -/
def ofFieldsRead (done : List (String × Json)) : Json :=
  .object (KeyMap.ofList done.reverse).toList

/-- Starts a container, if the depth allows it. -/
def Machine.enter (c : Container) (expected : Expected) (outer : List Container) : Option Machine :=
  if outer.length < maxDepth then some ⟨c :: outer, expected⟩ else none

/-- A token where a value may start. -/
def Machine.startValue (t : Token) (containers : List Container) : Option Machine :=
  match t with
  | .scalar v => some (Machine.complete v containers)
  | .openArray => Machine.enter (.array []) .valueOrClose containers
  | .openObject => Machine.enter (.object [] "") .nameOrClose containers
  | _ => none

/-- A token that is a name. -/
def Machine.startField (t : Token) (containers : List Container) : Option Machine :=
  match t, containers with
  | .scalar (.string name), .object done _ :: outer => some ⟨.object done name :: outer, .colon⟩
  | _, _ => none

def Machine.step (m : Machine) (t : Token) : Option Machine :=
  match m.expected, t, m.containers with
  | .value, t, containers => Machine.startValue t containers
  | .valueOrClose, .closeArray, .array done :: outer =>
    some (Machine.complete (.array done.reverse) outer)
  | .valueOrClose, t, containers => Machine.startValue t containers
  | .name, t, containers => Machine.startField t containers
  | .nameOrClose, .closeObject, .object done _ :: outer =>
    some (Machine.complete (ofFieldsRead done) outer)
  | .nameOrClose, t, containers => Machine.startField t containers
  | .colon, .colon, containers => some ⟨containers, .value⟩
  | .commaOrClose, .comma, .array done :: outer => some ⟨.array done :: outer, .value⟩
  | .commaOrClose, .comma, .object done name :: outer => some ⟨.object done name :: outer, .name⟩
  | .commaOrClose, .closeArray, .array done :: outer =>
    some (Machine.complete (.array done.reverse) outer)
  | .commaOrClose, .closeObject, .object done _ :: outer =>
    some (Machine.complete (ofFieldsRead done) outer)
  | _, _, _ => none

/-- The value that the text writes, if it writes one. -/
def parse? (text : String) : Option Json := do
  let ts ← tokens? text.toList
  match (← ts.foldlM Machine.step ⟨[], .value⟩).expected with
  | .finished v => some v
  | _ => none

end Faceted.Json
