import Faceted.Settings.Table
import Faceted.Text.Letter
import Faceted.Text.Percent

/-!
# Settings in RON files

Records, `Name(field: value, …)`, and maps of texts, `{"name": value, …}`, give tables; lists and
tuples give lists. `Some(v)` is `v`; a name alone and `()` are null. The name of a record does not
matter.

Values nest to a depth of `maxDepth`, where each value and each container counts.
-/

namespace Faceted.Settings.Ron

open Faceted.Text Faceted.Decimal

/-! ## 1. Blanks and comments -/

def isSpace (c : Char) : Bool :=
  "\t\n\x0b\x0c\r \u0085\u200e\u200f\u2028\u2029".toList.contains c

/-- What the characters that are passed over belong to; comments between stars nest. -/
inductive Passing where
  | blank
  | line
  | block (depth : Nat)

/-- Drops blanks and comments; a comment between stars has to end. -/
def dropBlank? : Passing → List Char → Option (List Char)
  | .blank, '/' :: '/' :: rest => dropBlank? .line rest
  | .blank, '/' :: '*' :: rest => dropBlank? (.block 0) rest
  | .blank, c :: rest => if isSpace c then dropBlank? .blank rest else some (c :: rest)
  | .line, c :: rest => dropBlank? (if c = '\n' then .blank else .line) rest
  | .block depth, '/' :: '*' :: rest => dropBlank? (.block (depth + 1)) rest
  | .block depth, '*' :: '/' :: rest =>
    match depth with
    | 0 => dropBlank? .blank rest
    | depth + 1 => dropBlank? (.block depth) rest
  | .block depth, _ :: rest => dropBlank? (.block depth) rest
  | .block _, [] => none
  | _, [] => some []

def skip? (cs : List Char) : Option (List Char) := dropBlank? .blank cs

/-- Reads a comma with the blanks around it, if one follows; tells whether one did. -/
def comma? (cs : List Char) : Option (Bool × List Char) := do
  match ← skip? cs with
  | ',' :: rest => return (true, ← skip? rest)
  | rest => return (false, rest)

/-! ## 2. Names -/

def startsName (c : Char) : Bool := isLetter c || c == '_'

def continuesName (c : Char) : Bool := followsLetter c || c == '_'

/-- What may stand in a name after `r#`. -/
def isRawNameChar (c : Char) : Bool := continuesName c || c == '.' || c == '+' || c == '-'

/-- What a text in quotes may start with, if it starts with letters. -/
def quotedStarts : List (List Char) :=
  ["b\"", "b'", "br\"", "br#", "r\"", "r#\"", "r##"].map String.toList

/-- Reads a name; `none` if there is none. -/
def name? (cs : List Char) : Option (List Char × List Char) :=
  if quotedStarts.any fun start => start.isPrefixOf cs then none
  else
    match cs with
    | 'r' :: '#' :: rest =>
      match rest.takeWhile isRawNameChar with
      | [] => none
      | name => some (name, rest.dropWhile isRawNameChar)
    | c :: rest =>
      if startsName c then some (c :: rest.takeWhile continuesName, rest.dropWhile continuesName)
      else none
    | [] => none

/-- Reads the name of a field, which must not go on with a point or a sign. -/
def fieldName? (cs : List Char) : Option (List Char × List Char) := do
  let (name, rest) ← name? cs
  let isRaw := cs.take 2 = ['r', '#']
  if !isRaw && rest.head?.any isRawNameChar then none else some (name, rest)

/-- What follows a word, if the text starts with it. -/
def afterWord? (word : String) (cs : List Char) : Option (List Char) :=
  let rest := cs.drop word.length
  if word.toList.isPrefixOf cs && !rest.head?.any continuesName then some rest else none

/-! ## 3. Numbers -/

def isFloatChar (c : Char) : Bool := c.isDigit || "eE.+-_".toList.contains c

def isIntegerChar (c : Char) : Bool := (hexValue? c).isSome || c == '_'

/-- The words among the doubles. -/
def doubleWords : List (String × Float) :=
  [("inf", infinity), ("+inf", infinity), ("-inf", -infinity), ("NaN", nan), ("+NaN", nan),
    ("-NaN", nan)]

/-- What may stand at the end of a double, or of a word among them. -/
def doubleEndings : List String := ["f32", "f64"]

/-- Drops underscores; one may follow a digit or an exponent letter only. -/
def withoutUnderscores? (allowed : Bool) : List Char → Option (List Char)
  | [] => some []
  | '_' :: rest => if allowed then withoutUnderscores? allowed rest else none
  | c :: rest =>
    let allowed := if c == '.' then false else allowed || c != '+' && c != '-'
    (withoutUnderscores? allowed rest).map (c :: ·)

/-- Reads a double. -/
def double? (cs : List Char) : Option (Json × List Char) :=
  let word := doubleWords.findSome? fun (word, x) =>
    ("" :: doubleEndings).findSome? fun ending =>
      (afterWord? (word ++ ending) cs).map fun rest => (.float x, rest)
  match word with
  | some found => some found
  | none => do
    let rest := cs.dropWhile isFloatChar
    let x ← float? (← withoutUnderscores? false (cs.takeWhile isFloatChar))
    return (.float x, (doubleEndings.findSome? fun ending => afterWord? ending rest).getD rest)

/-- The types of integers that may stand at the end of one, with their smallest and largest. -/
def integerTypes : List (String × Int × Int) :=
  [("i8", -128, 127), ("i16", -32768, 32767), ("i32", -2147483648, 2147483647),
    ("i64", -9223372036854775808, 9223372036854775807), ("u8", 0, 255), ("u16", 0, 65535),
    ("u32", 0, 4294967295), ("u64", 0, 18446744073709551615)]

/-- Reads an integer. -/
def integer? (cs : List Char) : Option (Json × List Char) := do
  let (negative, cs) := splitSign cs
  let (base, cs) := match cs with
    | '0' :: 'x' :: rest => (16, rest)
    | '0' :: 'o' :: rest => (8, rest)
    | '0' :: 'b' :: rest => (2, rest)
    | cs => (10, cs)
  let ds := cs.takeWhile isIntegerChar
  let rest := cs.drop ds.length
  if ds.head? = some '_' then none
  let n : Int := (← inBase? base (ds.filter (· != '_')))
  let n := if negative then -n else n
  let typed := integerTypes.findSome? fun (name, range) =>
    (afterWord? name rest).map fun rest => (range, rest)
  let ((low, high), rest) := typed.getD ((-9223372036854775808, 18446744073709551615), rest)
  if n < low ∨ high < n then none else some (wordOrDouble n, rest)

/-- Reads a number: an integer unless it goes on as a double does, or is too large for one. -/
def number? (cs : List Char) : Option (Json × List Char) :=
  let (_, unsigned) := splitSign cs
  let asInteger := (unsigned.takeWhile isIntegerChar).length
  let asDouble := (unsigned.takeWhile isFloatChar).length
  if asInteger < asDouble then double? cs else (integer? cs).or (double? cs)

/-! ## 4. Texts -/

/-- The character of a one-letter escape. -/
def escape? : Char → Option Char
  | '\'' => some '\''
  | '"' => some '"'
  | '\\' => some '\\'
  | 'n' => some '\n'
  | 'r' => some '\r'
  | 't' => some '\t'
  | '0' => some '\x00'
  | _ => none

/-- The character that bytes write in UTF-8. -/
def ofBytes? (bytes : List Nat) : Option Char := do
  let s ← String.fromUTF8? ⟨(bytes.map UInt8.ofNat).toArray⟩
  match s.toList with
  | [c] => some c
  | _ => none

/-- Reads the bytes of one character, each written as `\x` and two digits. -/
def bytes? : (count : Nat) → (read : List Nat) → List Char → Option (Char × List Char)
  | 0, _, _ => none
  | count + 1, read, '\\' :: 'x' :: a :: b :: rest => do
    let read := read ++ [← inBase? 16 [a, b]]
    match ofBytes? read with
    | some c => return (c, rest)
    | none => bytes? count read rest
  | _, _, _ => none

/-- Reads an escaped character, which starts with a backslash and is written as that many bytes at
    most. -/
def escaped? (maxBytes : Nat) : List Char → Option (Char × List Char)
  | '\\' :: 'u' :: '\x7b' :: rest => do
    let ds := (rest.takeWhile (· != '\x7d')).take 6
    match rest.drop ds.length with
    | '\x7d' :: rest => return (← (inBase? 16 ds).bind character?, rest)
    | _ => none
  | '\\' :: 'x' :: rest => bytes? maxBytes [] ('\\' :: 'x' :: rest)
  | '\\' :: c :: rest => (escape? c).map fun c => (c, rest)
  | _ => none

/-- Reads a text up to its closing quote. Every character takes one, so as many rounds as there are
    characters suffice. -/
def quoted? : (rounds : Nat) → (read : List Char) → List Char → Option (String × List Char)
  | 0, _, _ => none
  | _, _, [] => none
  | _, read, '"' :: rest => some (String.ofList read.reverse, rest)
  | rounds + 1, read, c :: rest =>
    if c = '\\' then do
      let (c, rest) ← escaped? 4 (c :: rest)
      quoted? rounds (c :: read) rest
    else quoted? rounds (c :: read) rest

/-- Reads a raw text up to a quote with that many hashes after it. -/
def rawQuoted? (hashes : List Char) (read : List Char) : List Char → Option (String × List Char)
  | [] => none
  | c :: rest =>
    if c = '"' ∧ hashes.isPrefixOf rest then
      some (String.ofList read.reverse, rest.drop hashes.length)
    else rawQuoted? hashes (c :: read) rest

/-- Reads a text; `none` if there is none. -/
def text? : List Char → Option (String × List Char)
  | '"' :: rest => quoted? (rest.length + 1) [] rest
  | 'r' :: rest =>
    match rest.dropWhile (· == '#') with
    | '"' :: inside => rawQuoted? (rest.takeWhile (· == '#')) [] inside
    | _ => none
  | '\'' :: '\\' :: rest => do
    let (c, rest) ← escaped? 1 ('\\' :: rest)
    match rest with
    | '\'' :: rest => return (String.singleton c, rest)
    | _ => none
  | '\'' :: c :: '\'' :: rest => some (String.singleton c, rest)
  | _ => none

/-! ## 5. Values -/

/-- How deep values may nest. -/
def maxDepth : Nat := 128

/-- Does a record with named fields follow, rather than a tuple? -/
def isRecord (cs : List Char) : Bool :=
  match (skip? cs).bind name? with
  | some (_, rest) => (skip? rest).any fun rest => rest.head? == some ':'
  | none => false

/-- The words that are values. -/
def words : List (String × Json) :=
  [("true", .bool true), ("false", .bool false), ("None", .null), ("inf", .float infinity),
    ("inff32", .float infinity), ("inff64", .float infinity), ("NaN", .float nan),
    ("NaNf32", .float nan), ("NaNf64", .float nan)]

/-- A value that is one word, and what follows. -/
def word? (cs : List Char) : Option (Json × List Char) :=
  words.findSome? fun (word, v) => (afterWord? word cs).map fun rest => (v, rest)

/-- What stands between an opening and a closing character. -/
inductive Kind where
  | list
  | tuple
  | record
  | map
  deriving DecidableEq

def Kind.closing : Kind → Char
  | .list => ']'
  | .map => '\x7d'
  | .tuple => ')'
  | .record => ')'

/-- The value of what stands between two brackets: names are empty but for records and maps. -/
def Kind.value (kind : Kind) (parts : List (String × Json)) : Json :=
  match kind with
  | .list => .array (parts.map Prod.snd)
  | .tuple => .array (parts.map Prod.snd)
  | .record => .object (Table.ofPairs parts)
  | .map => .object (Table.ofPairs parts)

mutual

/-- Reads a value at that many levels above the deepest. Every part of a value takes a character, so
    as many rounds as there are characters suffice. -/
def value? : (rounds : Nat) → (levels : Nat) → List Char → Option (Json × List Char)
  | 0, _, _ => none
  | rounds + 1, levels, cs =>
    match (word? cs).or (text? cs |>.map fun (s, rest) => (.string s, rest)) with
    | some found => some found
    | none =>
      match cs with
      | '(' :: ')' :: rest => some (.null, rest)
      | '(' :: rest => within? rounds levels (if isRecord rest then .record else .tuple) rest
      | '[' :: rest => within? rounds levels .list rest
      | '\x7b' :: rest => within? rounds levels .map rest
      | cs =>
        match name? cs with
        | none => number? cs
        | some (name, rest) => do
          match ← skip? rest with
          | '(' :: rest =>
            if name = "Some".toList then
              match levels with
              | 0 => none
              | levels + 1 => do
                let (v, rest) ← value? rounds levels (← skip? rest)
                match ← comma? rest with
                | (_, ')' :: rest) => return (v, rest)
                | _ => none
            else within? rounds levels (if isRecord rest then .record else .tuple) rest
          | rest => if name = "Some".toList then none else some (.null, rest)

/-- Reads what stands between two brackets. -/
def within? : (rounds : Nat) → (levels : Nat) → Kind → List Char → Option (Json × List Char)
  | _, 0, _, _ => none
  | 0, _, _, _ => none
  | rounds + 1, levels + 1, kind, cs => do
    let (parts, rest) ← parts? rounds levels kind true cs
    return (kind.value parts, rest)

/-- Reads parts up to the closing bracket; another part needs a comma before it. -/
def parts? : (rounds : Nat) → (levels : Nat) → Kind → (hadComma : Bool) → List Char →
    Option (List (String × Json) × List Char)
  | 0, _, _, _, _ => none
  | rounds + 1, levels, kind, hadComma, cs => do
    let cs ← skip? cs
    if cs.head? = some kind.closing then return ([], cs.drop 1)
    match levels with
    | 0 => none
    | levels + 1 =>
      if !hadComma then none
      let (name, cs) ← match kind with
        | .list => some ("", cs)
        | .tuple => some ("", cs)
        | .record => do
          let (name, rest) ← fieldName? cs
          match ← skip? rest with
          | ':' :: rest => some (String.ofList name, ← skip? rest)
          | _ => none
        | .map => do
          let (name, rest) ← text? cs
          match ← skip? rest with
          | ':' :: rest => some (name, ← skip? rest)
          | _ => none
      let (v, rest) ← value? rounds levels cs
      let (hadComma, rest) ← comma? rest
      let (parts, rest) ← parts? rounds (levels + 1) kind hadComma rest
      return ((name, v) :: parts, rest)

end

/-! ## 6. Files -/

/-- The ways of reading that a file can ask for. They make no difference to values without a
    type. -/
def extensions : List (List Char) :=
  ["unwrap_newtypes", "implicit_some", "unwrap_variant_newtypes", "explicit_struct_names"].map
    String.toList

/-- Reads the names of extensions. Every name takes a character, so as many rounds as there are
    characters suffice. -/
def extensions? : (rounds : Nat) → List Char → Option (List Char)
  | 0, _ => none
  | rounds + 1, cs => do
    let (name, rest) ← fieldName? cs
    if !extensions.contains name then none
    let (hasComma, rest) ← comma? rest
    if rest.head?.any continuesName then
      if hasComma then extensions? rounds rest else none
    else some rest

/-- Reads texts with blanks after each of them. -/
def expect? : List (List Char) → List Char → Option (List Char)
  | [], cs => some cs
  | text :: texts, cs =>
    if text.isPrefixOf cs then (skip? (cs.drop text.length)).bind (expect? texts) else none

/-- Reads the attributes before the value. -/
def attributes? : (rounds : Nat) → List Char → Option (List Char)
  | 0, cs => some cs
  | rounds + 1, cs =>
    if cs.head? = some '#' then do
      let rest ← expect? (["#", "!", "[", "enable", "("].map String.toList) cs
      let rest ← extensions? rest.length rest
      attributes? rounds (← expect? [[')'], [']']] (← skip? rest))
    else some cs

/-- The values by their names. -/
def read? (text : String) : Option Table := do
  let cs ← attributes? text.length (← skip? text.toList)
  let (v, rest) ← value? (3 * cs.length + 3) maxDepth cs
  match v, ← skip? rest with
  | .object fields, [] => return fields
  | _, _ => none

end Faceted.Settings.Ron
