import Faceted.Calendar
import Faceted.Expression.Values
import Faceted.Failure

/-!
# The functions of the language

The set of functions is closed. A function receives the values of all its arguments; arguments it does
not look at may be there, and most functions take a missing argument for one without values.
-/

namespace Faceted.Expression

/-! ## 1. Names -/

inductive Function where
  | union
  | contains
  | exists_
  | count
  | not
  | and
  | or
  | add
  | concat
  | multiply
  | min
  | max
  | remove
  | now
  | dateRange
  | distance
  deriving DecidableEq, Repr

namespace Function

def all : List Function :=
  [.union, .contains, .exists_, .count, .not, .and, .or, .add, .concat, .multiply, .min, .max,
    .remove, .now, .dateRange, .distance]

theorem mem_all (f : Function) : f ∈ all := by
  cases f <;> decide

def name : Function → String
  | .union => "union"
  | .contains => "contains"
  | .exists_ => "exists"
  | .count => "count"
  | .not => "not"
  | .and => "and"
  | .or => "or"
  | .add => "add"
  | .concat => "concat"
  | .multiply => "multiply"
  | .min => "min"
  | .max => "max"
  | .remove => "remove"
  | .now => "now"
  | .dateRange => "date-range"
  | .distance => "distance"

def ofName? (s : String) : Option Function := all.find? fun f => f.name == s

theorem ofName?_name (f : Function) : ofName? f.name = some f := by
  cases f <;> decide

end Function

/-! ## 2. Helpers on arguments -/

/-- The numbers among all values of all arguments. -/
def numbersOf (arguments : List Values) : List Float :=
  (arguments.flatMap fun a => a.toList.map parseFloat).filter fun x => !x.isNaN

/-- The first value of the argument at the place. -/
def firstOf? (arguments : List Values) (place : Nat) : Option String :=
  arguments[place]?.bind Values.first?

def truth (b : Bool) : Values := .single (booleanText b) .boolean

def numberValue (x : Float) : Values := .single (formatNumber x) .number

/-- Rounds to an integer, halves up. -/
def roundHalfUp (x : Float) : Float := (x + 0.5).floor

/-- The lesser number; of a zero and a minus zero either. -/
def lesser (x y : Float) : Float := if y < x then y else x

/-- The greater number. -/
def greater (x y : Float) : Float := if x < y then y else x

/-- Joins all numbers by an operation that needs at least one. -/
def reduceNumbers (op : Float → Float → Float) (arguments : List Values) : Values :=
  match numbersOf arguments with
  | [] => .empty .number
  | x :: xs => numberValue (xs.foldl op x)

/-! ## 3. Distances in time and space -/

/-- The milliseconds of a unit of time. Months and longer units have the mean length. -/
def unitMillis? : String → Option Float
  | "second" => some 1000.0
  | "minute" => some 60000.0
  | "hour" => some 3600000.0
  | "day" => some 86400000.0
  | "week" => some 604800000.0
  | "month" => some 2629743830.0
  | "quarter" => some 7889231490.0
  | "year" => some 31556926000.0
  | "decade" => some 315569260000.0
  | "century" => some 3155692600000.0
  | _ => none

/-- The time from one date to another, rounded in the unit; in milliseconds without a known unit. -/
def timeBetween (arguments : List Values) : Values :=
  match (firstOf? arguments 0).bind Calendar.parse?, (firstOf? arguments 1).bind Calendar.parse? with
  | some start, some stop =>
    let millis := Decimal.ofInt (stop - start)
    match (firstOf? arguments 2).bind unitMillis? with
    | some unit => numberValue (roundHalfUp (millis / unit))
    | none => numberValue millis
  | _, _ => .empty .number

/-- The radius of the earth in metres. -/
def earthRadius : Float := 6378137.0

/-- An angle in degrees as radians. -/
def radians (degrees : Float) : Float := degrees * (3.14159265358979323846264338327950288 / 180.0)

def squared (x : Float) : Float := x * x

/-- The length in metres of the shortest way between two points given by latitude and longitude. -/
def greatCircle (lat₁ lng₁ lat₂ lng₂ : Float) : Float :=
  let dLat := radians (lat₂ - lat₁)
  let dLng := radians (lng₂ - lng₁)
  let a := squared (dLat / 2.0).sin +
    (radians lat₁).cos * (radians lat₂).cos * squared (dLng / 2.0).sin
  2.0 * a.sqrt.asin * earthRadius

/-- The metres of a unit of length. -/
def unitMetres : Option String → Float
  | some "km" => 1000.0
  | some "mile" => 1609.344
  | _ => 1.0

/-- The distance from an origin, `lat,lng` in one text, to a latitude and a longitude, in a unit and
    rounded to multiples of a number. -/
def distanceFrom (arguments : List Values) : Outcome Values :=
  match firstOf? arguments 0 with
  | none => .error (.evaluation .noOrigin)
  | some origin =>
    match (origin.splitOn ",").map parseFloat with
    | lat₁ :: lng₁ :: _ =>
      let number (place : Nat) : Float := ((firstOf? arguments place).map parseFloat).getD Decimal.nan
      let lat₂ := number 1
      let lng₂ := number 2
      if lat₁.isNaN || lng₁.isNaN || lat₂.isNaN || lng₂.isNaN then .ok (.empty .number)
      else
        let metres := greatCircle lat₁ lng₁ lat₂ lng₂
        let unit := unitMetres (firstOf? arguments 3)
        let given := number 4
        let step := if Decimal.isFinite given && given > 0.0 then given else 1.0
        .ok (numberValue (roundHalfUp (metres / unit / step) * step))
    | _ => .error (.evaluation (.badOrigin origin))

/-! ## 4. Applying a function -/

/-- All values of the arguments as a set, of the type of the first. -/
def unionOf (arguments : List Values) : Values :=
  .ofSet (arguments.foldl (fun set a => set.insertMany a.toList) ∅)
    ((arguments.head?.map Values.type).getD .text)

/-- Does the first argument hold any value of the second? -/
def holdsAny : List Values → Bool
  | haystack :: needles :: _ => needles.toList.any haystack.contains
  | _ => false

/-- The first argument without the values of the others. -/
def without : List Values → Values
  | kept :: removed => kept.filter fun v => !removed.any fun a => a.contains v
  | [] => .empty .text

/-- The negations of the first argument's values. -/
def negations : List Values → List String
  | a :: _ => a.toList.map fun v => booleanText !isTruthy v a.type
  | [] => []

/-- The function's value for the arguments; `present` is the present moment. -/
def Function.apply (present : Int) (f : Function) (arguments : List Values) : Outcome Values :=
  match f with
  | .union => .ok (unionOf arguments)
  | .contains => .ok (truth (holdsAny arguments))
  | .exists_ => .ok (truth ((arguments.head?.map fun a => !a.isEmpty).getD false))
  | .count => .ok (.single (toString ((arguments.head?.map Values.size).getD 0)) .number)
  | .not => .ok (.ofList (negations arguments) .boolean)
  | .and => .ok (truth (arguments.all fun a => a.toList.all fun v => isTruthy v a.type))
  | .or => .ok (truth (arguments.any fun a => a.toList.any fun v => isTruthy v a.type))
  | .add => .ok (numberValue ((numbersOf arguments).foldl (· + ·) 0.0))
  | .concat => .ok (.ofList (arguments.flatMap Values.toList) .text)
  | .multiply => .ok (numberValue ((numbersOf arguments).foldl (· * ·) 1.0))
  | .min => .ok (reduceNumbers lesser arguments)
  | .max => .ok (reduceNumbers greater arguments)
  | .remove => .ok (without arguments)
  | .now =>
    match Calendar.format? present with
    | some text => .ok (.single text .date)
    | none => .error (.evaluation .nowOutsideCalendar)
  | .dateRange => .ok (timeBetween arguments)
  | .distance => distanceFrom arguments

end Faceted.Expression
