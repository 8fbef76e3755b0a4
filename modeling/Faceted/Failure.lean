import Faceted.Number
import Faceted.Expression.Rule

/-!
# Failures and their messages

A failure is its cause; the words for it are in `Failure.message` only. Causes come in the groups
that a caller tells apart: settings, data, parsing, evaluation, unknown tags, broken invariants,
files and JSON.
-/

namespace Faceted

open Faceted.Expression Faceted.Decimal

/-! ## 1. Causes -/

/-- Why settings are refused. -/
inductive SettingsFault where
  | numericInterval (given : Float)
  | alphaInterval
  /-- The settings file, or a value in it or in the environment, cannot be read. -/
  | unreadable

/-- Why a request does not fit the data it is about. -/
inductive DataFault where
  | payloadNotObject
  /-- A bookmark's state does not fit the facet; `state` is the state as text. -/
  | stateMismatch (facet state : String)
  | facetExists (collection facet : String)
  | noFacet (collection facet : String)
  | noCollection (collection : String)
  | collectionExists (collection : String)
  | baseWithoutExpression (collection base : String)
  | notTextual (facet : String)

/-- Why a text is no expression. -/
inductive ParseFault where
  /-- At the line and column only the rules could have gone on. -/
  | expected (rules : List Rule) (line column : Nat)
  | offsetOutside (offset : Nat)

/-- Why an expression has no value, or a facet no entries. -/
inductive EvalFault where
  | noVariable (name : String)
  | noFunction (name : String)
  | tooFewArguments (call : String) (needed : Nat)
  | lastHopBackward
  | noOrigin
  | badOrigin (origin : String)
  /-- The present moment has no date. -/
  | nowOutsideCalendar
  | tooManyBuckets (facet : String) (span interval low high : Float)
  /-- The levels of a hierarchy have not come to an end within the rounds that are allowed, so there is
      no tree. -/
  | endlessGrouping

/-- The kinds of names that come from a closed list. -/
inductive TagKind where
  | operator
  | facetClass
  | errorPolicy
  deriving DecidableEq, Repr

inductive Failure where
  | settings (fault : SettingsFault)
  | data (fault : DataFault)
  | parse (fault : ParseFault)
  | evaluation (fault : EvalFault)
  | unknownTag (kind : TagKind) (name : String)
  /-- A restricting collection's facet is missing from its base. -/
  | lostFacet (collection base : String)
  /-- A file cannot be read. -/
  | file (path : String)
  /-- A text or value is not the JSON that is wanted. -/
  | json

/-! ## 2. Messages -/

/-- A number inside a message. -/
def numberText (x : Float) : String := Layout.plain.render x

def SettingsFault.message : SettingsFault → String
  | .numericInterval given => "numeric_interval must be positive, got " ++ numberText given
  | .alphaInterval => "alpha_interval must be positive"
  | .unreadable => "settings cannot be read"

def DataFault.message : DataFault → String
  | .payloadNotObject => "top-level payload must be a JSON object"
  | .stateMismatch facet state => "facet " ++ facet ++ " cannot take state " ++ state
  | .facetExists collection facet =>
    "collection " ++ collection ++ " already has a facet " ++ facet
  | .noFacet collection facet => "collection " ++ collection ++ " has no facet " ++ facet
  | .noCollection collection => "no collection " ++ collection
  | .collectionExists collection => "collection " ++ collection ++ " already exists"
  | .baseWithoutExpression collection base =>
    "collection " ++ collection ++ " is based on " ++ base ++ " without an expression"
  | .notTextual facet => "facet " ++ facet ++ " takes no text"

def ParseFault.message : ParseFault → String
  | .expected rules _ _ => "expected " ++ Rule.describe rules
  | .offsetOutside offset => "offset " ++ toString offset ++ " is outside the input"

def EvalFault.message : EvalFault → String
  | .noVariable name => "No such variable called " ++ name
  | .noFunction name => "No such function named " ++ name
  | .tooFewArguments call needed =>
    call ++ "() expects at least " ++ toString needed ++ " arguments"
  | .lastHopBackward => "Last path of segment must be forward"
  | .noOrigin => "distance() needs an origin"
  | .badOrigin origin => "distance() origin " ++ origin ++ " is not \"lat,lng\""
  | .nowOutsideCalendar => "now() is outside the calendar"
  | .tooManyBuckets facet span interval low high =>
    "facet " ++ facet ++ " would need " ++ numberText span ++ " buckets of " ++
      formatNumber interval ++ " between " ++ formatNumber low ++ " and " ++ formatNumber high
  | .endlessGrouping => "a grouping leads to ever new values"

def TagKind.text : TagKind → String
  | .operator => "operator"
  | .facetClass => "facet class"
  | .errorPolicy => "error policy"

/-- The one wording of a failure. -/
def Failure.message : Failure → String
  | .settings fault => "Config error: " ++ fault.message
  | .data fault => "Data error: " ++ fault.message
  | .parse fault => "Parse error: " ++ fault.message
  | .evaluation fault => "Evaluation error: " ++ fault.message
  | .unknownTag kind name => "Unknown " ++ kind.text ++ ": " ++ name
  | .lostFacet collection base =>
    "Internal invariant violated: collection " ++ collection ++ " lost its facet on " ++ base
  | .file path => "I/O error: cannot read " ++ path
  | .json => "JSON error: the text or value does not fit"

/-- A computation that may fail. -/
abbrev Outcome := Except Failure

end Faceted
