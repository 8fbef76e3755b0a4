import Faceted.Calendar
import Faceted.Settings.Scalar

/-!
# Scalars in TOML files

Texts on one line and on several, with escapes or without; integers of 64 bits in four bases;
doubles; and dates and times of day, which stand for their text in one form: a `T` between date and
time, the seconds always written, the fraction cut after nine digits and without zeros at its end,
and the offset `Z` or a sign with hours and minutes.
-/

namespace Faceted.Settings.Toml

open Faceted.Decimal

/-! ## 1. Characters -/

/-- May the character stand in a text or a comment? Controls other than the tab may not. -/
def isPrinted (c : Char) : Bool := c == '\t' || (0x20 ≤ c.toNat && c.toNat != 0x7F)

/-- The character of a one-letter escape. -/
def escape? : Char → Option Char
  | 'b' => some '\x08'
  | 't' => some '\t'
  | 'n' => some '\n'
  | 'f' => some '\x0c'
  | 'r' => some '\r'
  | 'e' => some '\x1b'
  | '"' => some '"'
  | '\\' => some '\\'
  | _ => none

/-- Reads what follows a backslash. -/
def escaped? : List Char → Option (Char × List Char)
  | 'x' :: rest => readCharacter? 2 rest
  | 'u' :: rest => readCharacter? 4 rest
  | 'U' :: rest => readCharacter? 8 rest
  | c :: rest => (escape? c).map fun c => (c, rest)
  | [] => none

/-- Reads the end of a line. -/
def afterLineEnd? : List Char → Option (List Char)
  | '\n' :: rest => some rest
  | '\r' :: '\n' :: rest => some rest
  | _ => none

/-- Drops blanks and ends of lines. -/
def dropLines : List Char → List Char
  | '\r' :: '\n' :: rest => dropLines rest
  | c :: rest => if c = '\n' ∨ isGap c then dropLines rest else c :: rest
  | [] => []

/-! ## 2. Texts

`read` holds the characters so far, the latest first. Every character takes one, so as many rounds
as there are characters suffice. -/

/-- Reads a text on one line up to its closing quote. -/
def basic? : (rounds : Nat) → (read : List Char) → List Char → Option (String × List Char)
  | 0, _, _ => none
  | _, _, [] => none
  | _, read, '"' :: rest => some (String.ofList read.reverse, rest)
  | rounds + 1, read, c :: rest =>
    if c = '\\' then do
      let (c, rest) ← escaped? rest
      basic? rounds (c :: read) rest
    else if isPrinted c then basic? rounds (c :: read) rest
    else none

/-- Reads a text on one line as it is, up to its closing quote. -/
def literal? (read : List Char) : List Char → Option (String × List Char)
  | [] => none
  | c :: rest =>
    if c = '\'' then some (String.ofList read.reverse, rest)
    else if isPrinted c then literal? (c :: read) rest
    else none

/-- At the end of a text on several lines there are three quotes; up to two before them belong to
    it. -/
def closing? (quote : Char) (read cs : List Char) : Option (String × List Char) :=
  let run := min 5 (cs.takeWhile (· == quote)).length
  if run < 3 then none
  else
    some (String.ofList (read.reverse ++ List.replicate (run - 3) quote), cs.drop run)

/-- Reads a text on several lines up to its closing quotes. A backslash at the end of a line drops
    that end with all blanks and ends of lines after it. -/
def basicLines? : (rounds : Nat) → (read : List Char) → List Char → Option (String × List Char)
  | 0, _, _ => none
  | _, _, [] => none
  | rounds + 1, read, c :: rest =>
    match closing? '"' read (c :: rest) with
    | some found => some found
    | none =>
      if c = '\\' then
        match afterLineEnd? (rest.dropWhile isGap) with
        | some rest => basicLines? rounds read (dropLines rest)
        | none => do
          let (c, rest) ← escaped? rest
          basicLines? rounds (c :: read) rest
      else if isPrinted c ∨ c = '\n' ∨ (c = '\r' ∧ rest.head? = some '\n') then
        basicLines? rounds (c :: read) rest
      else none

/-- Reads a text on several lines as it is, up to its closing quotes. -/
def literalLines? (read : List Char) : List Char → Option (String × List Char)
  | [] => none
  | c :: rest =>
    match closing? '\'' read (c :: rest) with
    | some found => some found
    | none =>
      if isPrinted c ∨ c = '\n' ∨ (c = '\r' ∧ rest.head? = some '\n') then
        literalLines? (c :: read) rest
      else none

/-- Drops the end of a line that follows an opening quote. -/
def dropFirstLineEnd (cs : List Char) : List Char := (afterLineEnd? cs).getD cs

/-- Reads a text on one line. -/
def line? : List Char → Option (String × List Char)
  | '"' :: rest => basic? (rest.length + 1) [] rest
  | '\'' :: rest => literal? [] rest
  | _ => none

/-- Reads a text. -/
def text? : List Char → Option (String × List Char)
  | '"' :: '"' :: '"' :: rest => basicLines? (rest.length + 1) [] (dropFirstLineEnd rest)
  | '\'' :: '\'' :: '\'' :: rest => literalLines? [] (dropFirstLineEnd rest)
  | cs => line? cs

/-! ## 3. Numbers -/

/-- The digits of a number, where an underscore may stand between two of them. -/
def digits? (isDigit : Char → Bool) : List Char → Option (List Char)
  | [] => none
  | [c] => if isDigit c then some [c] else none
  | c :: '_' :: rest => if isDigit c then (digits? isDigit rest).map (c :: ·) else none
  | c :: rest => if isDigit c then (digits? isDigit rest).map (c :: ·) else none

/-- Digits in base ten where no zero stands before another digit. -/
def whole? (cs : List Char) : Option (List Char) := do
  let ds ← digits? Char.isDigit cs
  if ds.head? = some '0' && ds.length != 1 then none else some ds

def word? (n : Int) : Option Json := if isWord n then some (.int n) else none

/-- The number that digits of that base write. -/
def ofBase? (base : Nat) (cs : List Char) : Option Json := do
  word? (← inBase? base (← digits? (fun c => (Text.hexValue? c).isSome) cs))

/-- Splits off an exponent. The flag says whether it is negative. -/
def exponent? (cs : List Char) : Option (Bool × List Char) :=
  match cs with
  | [] => some (false, [])
  | _ :: rest => do
    let (negative, ds) := splitSign rest
    return (negative, ← digits? Char.isDigit ds)

/-- An integer or a double in base ten. -/
def decimal? (cs : List Char) : Option Json := do
  let (negative, cs) := splitSign cs
  let isExponent (c : Char) : Bool := c == 'e' || c == 'E'
  let mantissa := cs.takeWhile fun c => !isExponent c
  let (exponentNegative, exponent) ← exponent? (cs.dropWhile fun c => !isExponent c)
  let whole ← whole? (mantissa.takeWhile (· != '.'))
  let fraction ← match mantissa.dropWhile (· != '.') with
    | [] => some []
    | _ :: ds => digits? Char.isDigit ds
  if fraction.isEmpty && exponent.isEmpty then
    let n : Int := ofDigits whole
    word? (if negative then -n else n)
  else
    let x := (Numeral.mk whole fraction exponentNegative exponent).toFloat
    if isFinite x then some (.float (signed negative x)) else none

def number? : List Char → Option Json
  | '0' :: 'x' :: ds => ofBase? 16 ds
  | '0' :: 'o' :: ds => ofBase? 8 ds
  | '0' :: 'b' :: ds => ofBase? 2 ds
  | cs =>
    let (negative, unsigned) := splitSign cs
    if unsigned = "inf".toList then some (.float (signed negative infinity))
    else if unsigned = "nan".toList then some (.float nan)
    else decimal? cs

/-! ## 4. Dates and times -/

open Calendar Calendar.Reader

/-- Reads two digits up to that number. -/
def twoDigits (most : Nat) : Reader (List Char) := do
  let ds ← digits 2 2
  if most < value ds then failure
  return ds

def date : Reader (List Char) := do
  let year ← digits 4 4
  char '-'
  let month ← digits 2 2
  char '-'
  let day ← digits 2 2
  if !isDay (value year) (value month) (value day) then failure
  return year ++ '-' :: month ++ '-' :: day

/-- Reads the fraction of a second. -/
def fraction : Reader (List Char) := do
  match ← get with
  | '.' :: rest =>
    set rest
    let ds ← digits 1 rest.length
    let kept := ((ds.take 9).reverse.dropWhile (· == '0')).reverse
    return if kept.isEmpty then [] else '.' :: kept
  | _ => return []

def time : Reader (List Char) := do
  let hour ← twoDigits 23
  char ':'
  let minute ← twoDigits 59
  match ← get with
  | ':' :: rest =>
    set rest
    let second ← twoDigits 60
    return hour ++ ':' :: minute ++ ':' :: second ++ (← fraction)
  | _ => return hour ++ ':' :: minute ++ [':', '0', '0']

/-- Reads an offset from universal time, if there is one. -/
def offset : Reader (List Char) := do
  match ← get with
  | [] => return []
  | c :: rest =>
    set rest
    if c = 'Z' ∨ c = 'z' then return ['Z']
    if c ≠ '+' ∧ c ≠ '-' then failure
    let hour ← twoDigits 23
    char ':'
    let minute ← twoDigits 59
    let sign := if value hour = 0 ∧ value minute = 0 then '+' else c
    return sign :: hour ++ ':' :: minute

/-- Reads a date, a time or both. -/
def moment : Reader (List Char) := do
  match ← get with
  | _ :: _ :: ':' :: _ => time
  | _ =>
    let day ← date
    match ← get with
    | [] => return day
    | c :: rest =>
      set rest
      if c ≠ 'T' ∧ c ≠ 't' ∧ c ≠ ' ' then failure
      let clock ← time
      return day ++ 'T' :: clock ++ (← offset)

/-- The text of a date or time. -/
def moment? (cs : List Char) : Option String :=
  match moment cs with
  | some (text, []) => some (String.ofList text)
  | _ => none

/-! ## 5. Without quotes -/

/-- May the character stand in a value without quotes and brackets? -/
def isPlainChar (c : Char) : Bool := c.isAlphanum || "+-_.:".toList.contains c

/-- Reads a value without quotes and brackets. One blank may stand between a date and a time. -/
def plain? (cs : List Char) : Option (Json × List Char) :=
  let first := cs.takeWhile isPlainChar
  let rest := cs.drop first.length
  let text : List Char :=
    match rest with
    | ' ' :: c :: _ =>
      if c.isDigit && (date first).any (·.2.isEmpty) then
        first ++ ' ' :: (rest.drop 1).takeWhile isPlainChar
      else first
    | _ => first
  let v : Option Json :=
    if text = "true".toList then some (.bool true)
    else if text = "false".toList then some (.bool false)
    else ((moment? text).map .string).or (number? text)
  v.map fun v => (v, cs.drop text.length)

end Faceted.Settings.Toml
