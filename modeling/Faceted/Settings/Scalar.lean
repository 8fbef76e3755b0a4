import Faceted.Json.Reader

/-!
# Numbers and characters of settings

What the formats of settings files and the environment have in common: how they write integers,
doubles and characters by their number. An integer has 64 bits with a sign.
-/

namespace Faceted.Settings

open Faceted.Decimal

/-- The letters of a word without their case. Only ASCII letters stand in the words that are asked
    for. -/
def lowered (s : String) : List Char := s.toList.map Char.toLower

/-- Blanks within a line. -/
def isGap (c : Char) : Bool := c == ' ' || c == '\t'

/-! ## 1. Numbers -/

/-- May the integer stand in 64 bits with a sign? -/
def isWord (n : Int) : Bool := -9223372036854775808 ≤ n && n ≤ 9223372036854775807

/-- A number of 64 bits with a sign, or the double of one that is larger. -/
def wordOrDouble (n : Int) : Json := if isWord n then .int n else .float (ofInt n)

/-- The number that digits of a base up to sixteen write. -/
def inBase? (base : Nat) (ds : List Char) : Option Nat := do
  if ds.isEmpty then none
  let values ← ds.mapM Text.hexValue?
  if values.all (· < base) then some (values.foldl (fun n d => base * n + d) 0) else none

/-- The number that digits of a base write after a sign or none. -/
def signedInBase? (base : Nat) (cs : List Char) : Option Int := do
  let (negative, ds) := splitSign cs
  let n : Int := (← inBase? base ds)
  return if negative then -n else n

/-- The integer that a text writes. -/
def integer? (cs : List Char) : Option Int := (signedInBase? 10 cs).filter isWord

/-- The double that a text writes: a signed numeral, infinity or not-a-number. -/
def float? (cs : List Char) : Option Float :=
  let (negative, cs) := splitSign cs
  let w := cs.map Char.toLower
  if w = "inf".toList ∨ w = "infinity".toList then some (signed negative infinity)
  else if w = "nan".toList then some nan
  else
    match Numeral.read? cs with
    | some (n, []) => if n.isAscii then some (signed negative n.toFloat) else none
    | _ => none

/-- A value of a JSON file: an integer that does not fit is a double. -/
def ofFileJson : Json → Json
  | .int n => wordOrDouble n
  | v => v

/-! ## 2. Characters by number -/

/-- The character of a code point; surrogates and numbers that are too large have none. -/
def character? (n : Nat) : Option Char :=
  if n < 0xD800 ∨ (0xDFFF < n ∧ n < 0x110000) then some (Char.ofNat n) else none

/-- Reads that many hexadecimal digits. -/
def readHex? (count : Nat) (cs : List Char) : Option (Nat × List Char) := do
  let ds := cs.take count
  if ds.length < count then none
  return (← inBase? 16 ds, cs.drop count)

/-- Reads a character that is written as that many hexadecimal digits. -/
def readCharacter? (count : Nat) (cs : List Char) : Option (Char × List Char) := do
  let (n, rest) ← readHex? count cs
  return (← character? n, rest)

end Faceted.Settings
