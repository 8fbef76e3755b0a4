import Faceted.Settings.Scalar

/-!
# Tables and places in them

A settings file gives a table: values by their names. A name can also say a place further inside:
`a.b` is the field `b` of `a`, and `a[0]` the first element of `a`. Putting a value at a place makes
what is missing on the way there and replaces what is no table or list; a table is put by putting
each of its fields, so that fields that it does not name stay.

Main statement: a value is found under the name that it was put under, and every other name keeps
what it had (`lookup_put`).
-/

namespace Faceted.Settings

/-- Values by their names. -/
abbrev Table := List (String × Json)

namespace Table

/-! ## 1. One name -/

/-- The table with this value under the name. -/
def put (name : String) (v : Json) : Table → Table
  | [] => [(name, v)]
  | (other, w) :: rest => if other = name then (name, v) :: rest else (other, w) :: put name v rest

theorem lookup_put (name a : String) (v : Json) (table : Table) :
    List.lookup a (put name v table) = if a = name then some v else List.lookup a table := by
  induction table with
  | nil =>
    by_cases h : a = name
    · simp [put, h]
    · simp [put, h, List.lookup_cons, beq_eq_false_iff_ne.mpr h]
  | cons e rest ih =>
    obtain ⟨other, w⟩ := e
    by_cases ho : other = name
    · by_cases ha : a = name
      · simp [put, ho, ha]
      · simp [put, ho, ha, List.lookup_cons, beq_eq_false_iff_ne.mpr ha]
    · by_cases ha : a = other
      · subst ha
        simp [put, ho]
      · simp [put, ho, List.lookup_cons, beq_eq_false_iff_ne.mpr ha, ih]

/-- The table of pairs of names and values; of several values of a name the last counts. -/
def ofPairs (pairs : List (String × Json)) : Table :=
  pairs.foldl (fun table (name, v) => put name v table) []

/-- The fields of a value; what is no table has none. -/
def fieldsOf : Json → Table
  | .object fields => fields
  | _ => []

/-- The elements of a value; what is no list has none. -/
def elementsOf : Json → List Json
  | .array elements => elements
  | _ => []

/-! ## 2. Merging -/

mutual

/-- What is left of an old value when a new one is put in its place. -/
def merged (old : Json) : Json → Json
  | .object fields => .object (mergedFields (fieldsOf old) fields)
  | v => v

def mergedFields (old : Table) : List (String × Json) → Table
  | [] => old
  | (name, v) :: rest => mergedFields (put name (merged ((old.lookup name).getD .null) v) old) rest

end

/-! ## 3. Places -/

/-- A step from a value to a part of it. A negative number counts elements from the end. -/
inductive Step where
  | field (name : String)
  | element (n : Int)
  deriving DecidableEq, Repr

/-- Changes the element with that number. A list that is too short gets nulls after its elements, or
    before them if the number counts from the end. -/
def changeElement (n : Int) (change : Json → Json) (vs : List Json) : List Json :=
  let k : Int := if n < 0 then vs.length + n else n
  let filled :=
    if k < 0 then List.replicate k.natAbs .null ++ vs
    else vs ++ List.replicate (k.toNat + 1 - vs.length) .null
  filled.modify k.toNat change

/-- Changes the part of a value that the steps lead to. -/
def changeAt (change : Json → Json) : List Step → Json → Json
  | [], v => change v
  | .field name :: steps, v =>
    let fields := fieldsOf v
    .object (put name (changeAt change steps ((fields.lookup name).getD .null)) fields)
  | .element n :: steps, v => .array (changeElement n (changeAt change steps) (elementsOf v))

/-- May the character stand in a part of a place's name? -/
def isNameChar (c : Char) : Bool := c.isAlphanum || c == '_' || c == '-'

/-- Reads the number of an element and the closing bracket. -/
def readElement? (cs : List Char) : Option (Int × List Char) :=
  let cs := cs.dropWhile isGap
  let (negative, cs) := match cs with
    | '-' :: rest => (true, rest)
    | _ => (false, cs)
  let digits := cs.takeWhile Char.isDigit
  let n : Int := Decimal.ofDigits digits
  let n := if negative then -n else n
  match (cs.dropWhile Char.isDigit).dropWhile isGap with
  | ']' :: rest =>
    if digits.isEmpty || !isWord n then none else some (n, rest)
  | _ => none

/-- Reads the steps after the first part of a place's name. Every step takes a character, so as many
    rounds as there are characters suffice. -/
def readSteps? : (rounds : Nat) → List Char → Option (List Step)
  | _, [] => some []
  | 0, _ => none
  | rounds + 1, '.' :: rest =>
    match rest.takeWhile isNameChar with
    | [] => none
    | name =>
      (readSteps? rounds (rest.dropWhile isNameChar)).map (.field (String.ofList name) :: ·)
  | rounds + 1, '[' :: rest => do
    let (n, rest) ← readElement? rest
    return .element n :: (← readSteps? rounds rest)
  | _, _ => none

/-- The first part of a name and the steps from there, if the name says a place. -/
def readPlace? (name : String) : Option (String × List Step) :=
  let cs := name.toList
  match cs.takeWhile isNameChar with
  | [] => none
  | first =>
    (readSteps? cs.length (cs.dropWhile isNameChar)).map fun steps => (String.ofList first, steps)

/-- Puts a value at the place that the name says; a name that says none is taken as it is. -/
def putAt (table : Table) (name : String) (v : Json) : Table :=
  let (first, steps) := (readPlace? name).getD (name, [])
  let old := (List.lookup first table).getD .null
  put first (changeAt (fun part => merged part v) steps old) table

/-- Puts values at the places that their names say, one after the other. -/
def putAll (table : Table) (entries : Table) : Table :=
  entries.foldl (fun table (name, v) => putAt table name v) table

end Table

end Faceted.Settings
