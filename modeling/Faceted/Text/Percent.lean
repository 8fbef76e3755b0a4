/-!
# Percent encoding

A text becomes part of a URI by writing each byte of its UTF-8 form either as it is, if it is one
of the unreserved characters (ASCII letters, digits, `-`, `_`, `.`, `~`), or as `%` and two
upper-case hexadecimal digits. Decoding is lenient: a `%` without two hexadecimal digits after it
stands for itself, and only a result that is no UTF-8 text is refused. This is the documented behaviour
of the package `urlencoding` (version 2).
-/

namespace Faceted.Text

/-! ## 1. Hexadecimal digits -/

/-- The upper-case hexadecimal digit of `n < 16`. -/
def hexDigit (n : Nat) : Char :=
  Char.ofNat (if n < 10 then 0x30 + n else 0x41 + (n - 10))

/-- The value of a hexadecimal digit of either case. -/
def hexValue? (c : Char) : Option Nat :=
  let n := c.toNat
  if 0x30 ≤ n ∧ n ≤ 0x39 then some (n - 0x30)
  else if 0x41 ≤ n ∧ n ≤ 0x46 then some (n - 0x41 + 10)
  else if 0x61 ≤ n ∧ n ≤ 0x66 then some (n - 0x61 + 10)
  else none

/-! ## 2. Encoding -/

/-- May the byte stand for itself in a URI? -/
def isUnreserved (b : UInt8) : Bool :=
  let n := b.toNat
  (0x30 ≤ n && n ≤ 0x39) || (0x41 ≤ n && n ≤ 0x5A) || (0x61 ≤ n && n ≤ 0x7A) ||
    n == 0x2D || n == 0x2E || n == 0x5F || n == 0x7E

/-- One byte in percent encoding. -/
def percentByte (b : UInt8) : List Char :=
  if isUnreserved b then [Char.ofNat b.toNat]
  else ['%', hexDigit (b.toNat / 16), hexDigit (b.toNat % 16)]

/-- The text in percent encoding. -/
def percentEncode (s : String) : String :=
  String.ofList (s.toUTF8.data.toList.flatMap percentByte)

/-! ## 3. Decoding -/

/-- The bytes that an encoded text stands for. -/
def percentBytes : List UInt8 → List UInt8
  | 0x25 :: h :: l :: rest =>
    match hexValue? (Char.ofNat h.toNat), hexValue? (Char.ofNat l.toNat) with
    | some x, some y => UInt8.ofNat (16 * x + y) :: percentBytes rest
    | _, _ => 0x25 :: percentBytes (h :: l :: rest)
  | b :: rest => b :: percentBytes rest
  | [] => []

/-- The text that an encoded text stands for, if its bytes are UTF-8. -/
def percentDecode? (s : String) : Option String :=
  String.fromUTF8? ⟨(percentBytes s.toUTF8.data.toList).toArray⟩

end Faceted.Text
