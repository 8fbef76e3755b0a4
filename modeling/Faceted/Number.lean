import Faceted.Decimal
import Faceted.Text.Blank
import Faceted.Text.CodeRange

/-!
# Numbers in texts

Values are texts; some of them are read as numbers.

* `parseFloat` reads the longest numeral at the start of a text and yields NaN if there is none;
* `parseNumber?` reads a text that is a numeral as a whole;
* `formatNumber` writes a number so that equal numbers get one text: `7.0` and `7` are both `7`.

A numeral is recognised in digits of every script, but only ASCII digits have a value.
-/

namespace Faceted

open Faceted.Text Faceted.Decimal

/-! ## 1. The shape of a numeral -/

/-- An unsigned numeral: the digits before and after the point, and the exponent. -/
structure Numeral where
  whole : List Char
  fraction : List Char
  exponentNegative : Bool
  exponent : List Char
  deriving DecidableEq, Repr

/-- Splits off the leading digits. -/
def spanDigits (cs : List Char) : List Char × List Char :=
  (cs.takeWhile isDecimalDigit, cs.dropWhile isDecimalDigit)

/-- Splits off a leading sign; the flag says whether it is a minus. -/
def splitSign : List Char → Bool × List Char
  | '-' :: rest => (true, rest)
  | '+' :: rest => (false, rest)
  | rest => (false, rest)

/-- Reads `digits`, `digits.`, `digits.digits` or `.digits`. -/
def readMantissa? (cs : List Char) : Option (List Char × List Char × List Char) :=
  match spanDigits cs with
  | ([], '.' :: rest) =>
    match spanDigits rest with
    | ([], _) => none
    | (fraction, rest) => some ([], fraction, rest)
  | ([], _) => none
  | (whole, '.' :: rest) =>
    let (fraction, rest) := spanDigits rest
    some (whole, fraction, rest)
  | (whole, rest) => some (whole, [], rest)

/-- Reads an exponent if one with a digit follows. -/
def readExponent (cs : List Char) : Bool × List Char × List Char :=
  match cs with
  | e :: rest =>
    if e = 'e' ∨ e = 'E' then
      let (negative, digitsOn) := splitSign rest
      match spanDigits digitsOn with
      | ([], _) => (false, [], cs)
      | (digits, rest) => (negative, digits, rest)
    else (false, [], cs)
  | [] => (false, [], [])

/-- Reads an unsigned numeral and returns it with what follows. -/
def Numeral.read? (cs : List Char) : Option (Numeral × List Char) :=
  match readMantissa? cs with
  | none => none
  | some (whole, fraction, rest) =>
    let (negative, exponent, rest) := readExponent rest
    some (⟨whole, fraction, negative, exponent⟩, rest)

/-! ## 2. The value of a numeral -/

/-- Are all digits of the numeral ASCII digits? -/
def Numeral.isAscii (n : Numeral) : Bool :=
  (n.whole ++ n.fraction ++ n.exponent).all Char.isDigit

/-- The nearest double; NaN for a numeral in other than ASCII digits. -/
def Numeral.toFloat (n : Numeral) : Float :=
  if n.isAscii then
    let exponent : Int := ofDigits n.exponent
    ofParts (ofDigits (n.whole ++ n.fraction))
      ((if n.exponentNegative then -exponent else exponent) - n.fraction.length)
  else nan

/-- The value with its sign. -/
def signed (negative : Bool) (x : Float) : Float := if negative then -x else x

/-! ## 3. Reading -/

/-- Reads the longest signed numeral, or signed `Infinity`, at the start of the text after its
    leading blanks. NaN if there is none. -/
def parseFloat (s : String) : Float :=
  let (negative, cs) := splitSign (trimStart s.toList)
  if "Infinity".toList.isPrefixOf cs then signed negative infinity
  else
    match Numeral.read? cs with
    | some (n, _) => signed negative n.toFloat
    | none => nan

/-- Reads the text as one signed numeral with blanks around it. -/
def parseNumber? (s : String) : Option Float :=
  let (negative, cs) := splitSign (trim s.toList)
  match Numeral.read? cs with
  | some (n, []) => if n.isAscii then some (signed negative n.toFloat) else none
  | _ => none

/-! ## 4. Writing -/

/-- The bound below which an integral number is written with all its digits. -/
def exactIntegerBound : Nat := Nat.pow 10 21

/-- The one text of a number: all digits of an integer below `exactIntegerBound`, otherwise the
    fewest digits that read back, never an exponent. Zero has no sign. -/
def formatNumber (x : Float) : String :=
  match Binary.ofFloat? x with
  | none => if x.isNaN then "NaN" else if x < 0.0 then "-Infinity" else "Infinity"
  | some b =>
    if b.isIntegral && b.floorAbs < exactIntegerBound then
      let digits := String.ofList (natDigits b.floorAbs)
      if b.negative && b.floorAbs != 0 then "-" ++ digits else digits
    else Layout.plain.render x

/-- The text of a truth value. -/
def booleanText (b : Bool) : String := if b then "true" else "false"

end Faceted
