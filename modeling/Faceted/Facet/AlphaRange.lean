import Faceted.Facet.Buckets
import Faceted.Text.Case

/-!
# Alphabetical range facets

The values of an expression, in upper case, are shown in buckets of first letters. A bucket goes from
its first to its last letter, both included: as a range of texts it ends before the character that
follows the last letter.
-/

namespace Faceted

open Faceted.Text

/-! ## 1. The facet -/

structure AlphaRangeFacet where
  id : String
  label : String
  expression : Option Expression
  /-- How many letters share a bucket. -/
  interval : Nat
  chosen : RangeChoice
  index : LocalIndex
  buckets : List Bucket

namespace AlphaRangeFacet

def new (id : String) (expression : Option Expression) (interval : Nat) : AlphaRangeFacet :=
  ⟨id, id, expression, max interval 1, [], none, []⟩

/-- The place of a value: its text in upper case. -/
def place (value : String) : Option RangeValue := some (.text (upperCased value))

def hasRestrictions (f : AlphaRangeFacet) : Bool := !f.chosen.isEmpty

/-! ## 2. Letters -/

/-- The first character of a text. -/
def letter? : RangeValue → Option Char
  | .text s => s.toList.head?
  | .number _ => none

def letterValue (c : Char) : RangeValue := .text (String.ofList [c])

/-- The last character of all. -/
def lastChar : Char := Char.ofNat 0x10FFFF

/-- The character after the given one; none after the last one and before the surrogates. -/
def nextChar? (c : Char) : Option Char :=
  if h : (c.toNat + 1).isValidChar then some (Char.ofNatAux (c.toNat + 1) h) else none

/-- Where a bucket with this last letter ends, the end excluded. -/
def endAfter (last : RangeValue) : RangeValue :=
  letterValue (((letter? last).bind nextChar?).getD lastChar)

/-- Cuts a list into parts of `n` elements; the last part may be shorter. -/
def chunks {α : Type} (n : Nat) : (rounds : Nat) → List α → List (List α)
  | 0, _ => []
  | rounds + 1, xs => if xs.isEmpty then [] else xs.take n :: chunks n rounds (xs.drop n)

/-- The distinct first letters of an index, in ascending order. -/
def lettersOf (index : RangeIndex) : List Char :=
  (index.entries.filterMap fun e => letter? e.value).eraseReps

/-! ## 3. Selecting -/

/-- Clicks the bucket from one letter to another. -/
def toggle (f : AlphaRangeFacet) (low high : String) (only : Bool) : Bool × AlphaRangeFacet :=
  let chosen := f.chosen.toggle ⟨.text (upperCased low), .text (upperCased high)⟩ only
  (chosen.differ f.chosen, { f with chosen })

/-! ## 4. Restricting and offering -/

/-- The items whose value starts with a letter of the range. -/
def itemsIn (index : RangeIndex) (low high : RangeValue) (into items : KeySet) : KeySet :=
  index.subjectsBetween low (endAfter high) false into (some items)

def restrict (f : AlphaRangeFacet) (scene : Scene) (items : KeySet) :
    Outcome KeySet × AlphaRangeFacet :=
  match f.expression with
  | none => (.ok items, f)
  | some e =>
    if !f.hasRestrictions then (.ok items, f)
    else
      let (index, kept) := f.index.get scene e place
      (index.map fun index => f.chosen.foldl (fun set r => itemsIn index r.low r.high set items) ∅,
        { f with index := kept })

/-- The bucket from a first to a last letter. -/
def bucketOf (f : AlphaRangeFacet) (index : RangeIndex) (items : KeySet) (first last : Char) :
    Bucket where
  low := letterValue first
  high := letterValue last
  label :=
    if first = last then String.ofList [first]
    else String.ofList [first] ++ " - " ++ String.ofList [last]
  count := (itemsIn index (letterValue first) (letterValue last) ∅ items).size
  selected := f.chosen.isBucketSelected (letterValue first) (letterValue last)

/-- The buckets over all letters of an index. -/
def bucketsOf (f : AlphaRangeFacet) (index : RangeIndex) (items : KeySet) : List Bucket :=
  let letters := lettersOf index
  (chunks f.interval letters.length letters).filterMap fun chunk =>
    match chunk.head?, chunk.getLast? with
    | some first, some last => some (f.bucketOf index items first last)
    | _, _ => none

/-- Counts the items in every bucket anew. If that fails there are no buckets. -/
def update (f : AlphaRangeFacet) (scene : Scene) (items : KeySet) :
    Outcome Unit × AlphaRangeFacet :=
  let f := { f with buckets := [] }
  match f.expression with
  | none => (.ok (), f)
  | some e =>
    match f.index.get scene e place with
    | (.error failure, kept) => (.error failure, { f with index := kept })
    | (.ok index, kept) => (.ok (), { f with index := kept, buckets := f.bucketsOf index items })

/-! ## 5. States -/

def exportState (f : AlphaRangeFacet) : FacetState := .ranges (RangeSelection.sorted f.chosen)

def emptyState : FacetState := .ranges []

def clear (f : AlphaRangeFacet) : FacetState × AlphaRangeFacet :=
  (f.exportState, { f with chosen := [] })

def apply (f : AlphaRangeFacet) (state : FacetState) : Outcome AlphaRangeFacet :=
  (RangeChoice.ofState f.id state).map fun chosen => { f with chosen }

def dropCaches (f : AlphaRangeFacet) : AlphaRangeFacet := { f with index := none }

end AlphaRangeFacet

end Faceted
