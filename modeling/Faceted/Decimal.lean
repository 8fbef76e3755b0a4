/-!
# Doubles and decimals

`Binary.ofFloat?` takes a double apart exactly: sign, mantissa and exponent, read off its bits. The
other way, `ofParts` rounds `mantissa · 10 ^ scale` to a double; exponents beyond every double's
reach are cut off first, so no power of ten is computed that the answer does not need.

Among the decimals that round to a given double, `shortest` chooses one with the fewest digits, and of
those the one nearest to the double. Three ways of writing a double appear in this library. They share
these digits and differ in a few decisions, which a `Layout` records:

* `plain`: always positional, `7` and `2.5`, never an exponent;
* `exact`: as `plain`, but an exponent from 10¹⁶ on and below 10⁻⁴, and always a point;
* `jsonText`: the JSON form, an exponent from 10¹⁶ on and below 10⁻⁵, its sign always written.
-/

namespace Faceted.Decimal

/-! ## 1. Taking a double apart -/

/-- The finite double `± mantissa · 2 ^ exponent`. `narrowBelow` says that the next double towards
    zero is only half as far away as the next one away from zero. -/
structure Binary where
  negative : Bool
  mantissa : Nat
  exponent : Int
  narrowBelow : Bool
  deriving DecidableEq, Repr

/-- The parts of a double given by its bits; `none` for NaN and the infinities. -/
def Binary.ofBits? (bits : UInt64) : Option Binary :=
  let n : Nat := bits.toNat
  let field : Nat := n / Nat.pow 2 52 % Nat.pow 2 11
  let fraction : Nat := n % Nat.pow 2 52
  let negative := decide (Nat.pow 2 63 ≤ n)
  if field = 0x7FF then none
  else if field = 0 then some ⟨negative, fraction, -1074, false⟩
  else some ⟨negative, Nat.pow 2 52 + fraction, (field : Int) - 1075, decide (fraction = 0 ∧ 1 < field)⟩

/-- The parts of a double; `none` for NaN and the infinities. -/
def Binary.ofFloat? (x : Float) : Option Binary := Binary.ofBits? x.toBits

/-- Is the value an integer? -/
def Binary.isIntegral (b : Binary) : Bool :=
  decide (0 ≤ b.exponent) || b.mantissa % Nat.pow 2 (-b.exponent).toNat == 0

/-- The integer part of the magnitude. -/
def Binary.floorAbs (b : Binary) : Nat :=
  if 0 ≤ b.exponent then b.mantissa * Nat.pow 2 b.exponent.toNat
  else b.mantissa / Nat.pow 2 (-b.exponent).toNat

/-! ## 2. Rounding a decimal to a double -/

/-- Positive infinity. -/
def infinity : Float := 1.0 / 0.0

/-- Not a number. -/
def nan : Float := 0.0 / 0.0

/-- The value of a list of ASCII digits, the most significant first. -/
def ofDigits (digits : List Char) : Nat :=
  digits.foldl (fun n c => 10 * n + (c.toNat - 0x30)) 0

/-- The double nearest to `mantissa · 10 ^ scale`. -/
def ofParts (mantissa : Nat) (scale : Int) : Float :=
  if mantissa = 0 then 0.0
  else
    let magnitude := (Nat.log2 mantissa * 30103 / 100000 : Nat) + scale
    if 400 < magnitude then infinity
    else if magnitude < -400 then 0.0
    else if 0 ≤ scale then Float.ofScientific mantissa false scale.toNat
    else Float.ofScientific mantissa true (-scale).toNat

/-- The double nearest to an integer. -/
def ofInt (n : Int) : Float :=
  if n < 0 then -(ofParts n.natAbs 0) else ofParts n.natAbs 0

/-- Is the double neither NaN nor infinite? -/
def isFinite (x : Float) : Bool := (Binary.ofFloat? x).isSome

/-! ## 3. Candidates for the shortest decimal

The decimals that round to a double fill an interval whose ends are half way to the neighbouring
doubles; the ends belong to it iff the mantissa is even. For a number of digits the only candidates are
the two neighbours of the double on the grid of decimals with that many digits: if the interval holds
any point of the grid, it holds one of these. `Tie` decides between two at equal distance. -/

/-- Which of two equally near decimals is taken. -/
inductive Tie where
  /-- The larger magnitude. -/
  | up
  /-- The one whose last digit is even. -/
  | even
  deriving DecidableEq, Repr

/-- The decimal `digits · 10 ^ scale`. -/
structure Digits where
  digits : Nat
  scale : Int
  deriving DecidableEq, Repr

/-! ## 4. Comparing decimals and doubles without rounding -/

/-- A decimal grid and a binary grid brought to a common unit: one step of the grid of spacing
    `10 ^ g` is `decimalStep` units, one step of the grid of spacing `2 ^ q` is `binaryStep`. -/
structure CommonUnit where
  decimalStep : Nat
  binaryStep : Nat

def CommonUnit.of (g q : Int) : CommonUnit where
  decimalStep := Nat.pow 10 g.toNat * Nat.pow 2 (-q).toNat
  binaryStep := Nat.pow 2 q.toNat * Nat.pow 10 (-g).toNat

/-- The exponent `k` with `10 ^ k ≤ m · 2 ^ q < 10 ^ (k + 1)`, for `m ≠ 0`. The estimate from the
    binary logarithm is at most one too small. -/
def decimalExponent (m : Nat) (q : Int) : Int :=
  let estimate := ((Nat.log2 m : Int) + q) * 30103 / 100000
  let unit := CommonUnit.of (estimate + 1) q
  if unit.decimalStep ≤ m * unit.binaryStep then estimate + 1 else estimate

/-! ## 5. The candidates of one grid -/

/-- The point of the grid of spacing `10 ^ g` that stands for the double, if one of its two
    neighbours on that grid lies in the interval that rounds to it. -/
def gridPoint? (tie : Tie) (b : Binary) (g : Int) : Option Nat :=
  let unit := CommonUnit.of g (b.exponent - 2)
  let value := 4 * b.mantissa * unit.binaryStep
  let low := value - (if b.narrowBelow then 1 else 2) * unit.binaryStep
  let high := value + 2 * unit.binaryStep
  let closed := b.mantissa % 2 == 0
  let inside := fun (n : Nat) =>
    let x := n * unit.decimalStep
    if closed then low ≤ x && x ≤ high else low < x && x < high
  let below := value / unit.decimalStep
  let above := below + 1
  let gapBelow := value - below * unit.decimalStep
  let gapAbove := above * unit.decimalStep - value
  let belowNearer :=
    match tie with
    | .up => gapBelow < gapAbove
    | .even => gapBelow < gapAbove || (gapBelow == gapAbove && below % 2 == 0)
  if inside below && (belowNearer || !inside above) then some below
  else if inside above then some above
  else none

/-! ## 6. The search -/

/-- Moves trailing zeros of the digits into the scale. -/
def dropZeros : Nat → Digits → Digits
  | 0, d => d
  | n + 1, d =>
    if d.digits % 10 = 0 ∧ d.digits ≠ 0 then dropZeros n ⟨d.digits / 10, d.scale + 1⟩ else d

/-- Tries `count` digits, then one more, until a grid has a point that reads back. -/
def searchFrom (tie : Tie) (b : Binary) (k : Int) : (left count : Nat) → Digits
  | 0, count => ⟨0, k + 1 - count⟩
  | left + 1, count =>
    let g := k + 1 - count
    match gridPoint? tie b g with
    | some n => dropZeros 20 ⟨n, g⟩
    | none => searchFrom tie b k left (count + 1)

/-- The shortest decimal that reads back as the double; seventeen digits always suffice. -/
def shortest (tie : Tie) (b : Binary) : Digits :=
  if b.mantissa = 0 then ⟨0, 0⟩
  else searchFrom tie b (decimalExponent b.mantissa b.exponent) 17 1

/-! ## 7. Writing a double -/

/-- The decisions in which the written forms differ. -/
structure Layout where
  /-- The decision between two equally near digits. -/
  tie : Tie
  /-- The leading digit's exponents, `from` inclusive and `to` exclusive, written positionally;
      `none` if all are. -/
  positional : Option (Int × Int)
  /-- Is `.0` written after an integral value? -/
  keepsPoint : Bool
  /-- Is the sign of a positive exponent written? -/
  signsExponent : Bool
  /-- The texts of not-a-number and of infinity. -/
  nanText : String
  infinityText : String

/-- Positional digits; used for the numbers inside messages. -/
def Layout.plain : Layout := ⟨.up, none, false, false, "NaN", "inf"⟩

/-- Digits that show the value to be a double; used where a message shows a whole state. -/
def Layout.exact : Layout := ⟨.up, some (-4, 16), true, false, "NaN", "inf"⟩

/-- The JSON form; JSON has no other doubles than finite ones. -/
def Layout.jsonText : Layout := ⟨.even, some (-5, 16), true, true, "null", "null"⟩

/-- The decimal digits of a natural number. -/
def natDigits (n : Nat) : List Char := Nat.toDigits 10 n

/-- Digits and scale in positional notation. -/
def positionalText (keepsPoint : Bool) (d : Digits) : List Char :=
  let ds := natDigits d.digits
  if 0 ≤ d.scale then
    ds ++ List.replicate d.scale.toNat '0' ++ (if keepsPoint then ['.', '0'] else [])
  else
    let places := (-d.scale).toNat
    let padded := List.replicate (places + 1 - ds.length) '0' ++ ds
    padded.take (padded.length - places) ++ '.' :: padded.drop (padded.length - places)

/-- Digits and scale with an exponent. -/
def exponentText (signs : Bool) (d : Digits) : List Char :=
  let ds := natDigits d.digits
  let e := d.scale + (ds.length - 1 : Nat)
  let mantissa :=
    match ds with
    | c :: (r :: rs) => c :: '.' :: r :: rs
    | one => one
  let sign := if e < 0 then ['-'] else if signs then ['+'] else []
  mantissa ++ 'e' :: sign ++ natDigits e.natAbs

/-- The double in the given layout. -/
def Layout.render (l : Layout) (x : Float) : String :=
  match Binary.ofFloat? x with
  | none =>
    if x.isNaN then l.nanText else if x < 0.0 then "-" ++ l.infinityText else l.infinityText
  | some b =>
    let d := shortest l.tie b
    let leading := d.scale + ((natDigits d.digits).length - 1 : Nat)
    let isPositional :=
      match l.positional with
      | none => true
      | some (low, high) => d.digits == 0 || (low ≤ leading && leading < high)
    let text :=
      if isPositional then positionalText l.keepsPoint d else exponentText l.signsExponent d
    String.ofList (if b.negative then '-' :: text else text)

end Faceted.Decimal
