import Faceted.Json
import Faceted.Failure
import Faceted.Text.Percent
import Faceted.Text.Split

/-!
# Settings

What a browser is set up with. Settings come from JSON, where every field that is missing has its
default and a field of the wrong shape spoils the whole; the error policy can also be chosen by a
parameter of a query string.
-/

namespace Faceted

open Faceted.Text

/-! ## 1. Error policies -/

/-- What a browser does with a failure: return it, write it to the log and return it, or write it to
    the log and go on. -/
inductive ErrorPolicy where
  | throw
  | logAndThrow
  | log
  deriving DecidableEq, Repr

namespace ErrorPolicy

def all : List ErrorPolicy := [.throw, .logAndThrow, .log]

theorem mem_all (p : ErrorPolicy) : p ∈ all := by
  cases p <;> decide

def name : ErrorPolicy → String
  | .throw => "throw"
  | .logAndThrow => "log-and-throw"
  | .log => "log"

def ofName? (s : String) : Option ErrorPolicy := all.find? fun p => p.name == s

theorem ofName?_name (p : ErrorPolicy) : ofName? p.name = some p := by
  cases p <;> decide

def ofName (s : String) : Outcome ErrorPolicy :=
  match ofName? s with
  | some p => .ok p
  | none => .error (.unknownTag .errorPolicy s)

/-- What is left of a failed action: the failure, or the result that stands for none. -/
def settle {α : Type} (p : ErrorPolicy) (otherwise : α) (outcome : Outcome α) : Outcome α :=
  match outcome, p with
  | .ok x, _ => .ok x
  | .error _, .log => .ok otherwise
  | .error failure, _ => .error failure

@[simp] theorem settle_ok {α : Type} (p : ErrorPolicy) (otherwise x : α) :
    p.settle otherwise (.ok x) = .ok x := rfl

end ErrorPolicy

/-! ## 2. The settings -/

structure Settings where
  errors : ErrorPolicy
  /-- How long a text search waits for more input, in milliseconds. -/
  textSearchDelay : Nat
  /-- The width of number buckets. -/
  numericInterval : Float
  /-- How many letters share a bucket. -/
  alphaInterval : Nat
  /-- Where the URIs of data without a place of its own start. -/
  baseUri : String

namespace Settings

def default : Settings := ⟨.logAndThrow, 500, 10.0, 7, "http://localhost/"⟩

instance : Inhabited Settings := ⟨default⟩

/-- Refuses settings that no bucket could have. -/
def validate (s : Settings) : Outcome Settings :=
  if !(Decimal.isFinite s.numericInterval && 0.0 < s.numericInterval) then
    .error (.settings (.numericInterval s.numericInterval))
  else if s.alphaInterval = 0 then .error (.settings .alphaInterval)
  else .ok s

/-! ## 3. From JSON -/

/-- The names of the fields in their order. -/
def fieldNames : List String :=
  ["errors", "text_search_delay_ms", "numeric_interval", "alpha_interval", "base_uri"]

def ofJson? (v : Json) : Option Settings := do
  let field ← v.record? fieldNames
  let errors ← Json.orDefault? default.errors (fun v => v.choice?.bind ErrorPolicy.ofName?)
    (field "errors")
  let delay ← Json.orDefault? default.textSearchDelay Json.count? (field "text_search_delay_ms")
  let numeric ← Json.orDefault? default.numericInterval Json.float? (field "numeric_interval")
  let alpha ← Json.orDefault? default.alphaInterval Json.count? (field "alpha_interval")
  let base ← Json.orDefault? default.baseUri Json.string? (field "base_uri")
  return ⟨errors, delay, numeric, alpha, base⟩

/-- The settings of a record; they need not be valid. -/
def ofJson (v : Json) : Outcome Settings :=
  match ofJson? v with
  | some s => .ok s
  | none => .error .json

/-! ## 4. From a query string -/

/-- Takes the error policy from a parameter, if it is that parameter and names a policy. -/
def applyParameter (s : Settings) (parameter : List Char) : Settings :=
  let (key, value) := cutAt '=' parameter
  if key = "errors".toList then
    let value := String.ofList value
    match ErrorPolicy.ofName? ((percentDecode? value).getD value) with
    | some errors => { s with errors }
    | none => s
  else s

/-- Takes the error policy from the parameters of a query string; the last one that names a policy
    counts. -/
def applyQuery (s : Settings) (query : String) : Settings :=
  (splitOn '&' (query.toList.dropWhile (· == '?'))).foldl applyParameter s

end Settings

end Faceted
