import Faceted.Files
import Faceted.Settings
import Faceted.Settings.Ini
import Faceted.Settings.Json5
import Faceted.Settings.Ron
import Faceted.Settings.Table
import Faceted.Settings.Toml.Document
import Faceted.Settings.Yaml.Node
import Faceted.Text.Case

/-!
# Loading settings

Settings are taken from the environment, then from a file, then from the defaults. A file is named
with its extension, which tells its format, or without; if there is no such file the defaults are
used. A name in a file or in the environment can say a place: `errors.log` is the field `log` of
`errors`. A file or the environment may write a number as a text, a text as a number, or a count as a
truth value; such values are taken for what is wanted if they can be. A file that cannot be read as its
format, a value that cannot be taken for its field, and intervals that are not positive are failures.

The sources, their order, the formats and the conversions are those that the package `config` (version
0.15) documents.
-/

namespace Faceted.Settings

/-! ## 1. Loose values -/

/-- The words for truth values. -/
def word? (s : String) : Option Bool :=
  let w := lowered s
  if ["true", "on", "yes"].any fun t => t.toList == w then some true
  else if ["false", "off", "no"].any fun t => t.toList == w then some false
  else none

def looseCount? : Json → Option Nat
  | .int n => Json.count? (.int n)
  | .float x => some x.round.toUInt64.toNat
  | .bool b => some (if b then 1 else 0)
  | .string s =>
    match word? s with
    | some b => some (if b then 1 else 0)
    | none =>
      if s.toList.head? = some '-' then none
      else (signedInBase? 10 s.toList).bind fun n => Json.count? (.int n)
  | _ => none

def looseFloat? : Json → Option Float
  | .int n => some (Decimal.ofInt n)
  | .float x => some x
  | .bool b => some (if b then 1.0 else 0.0)
  | .string s =>
    match word? s with
    | some b => some (if b then 1.0 else 0.0)
    | none => float? s.toList
  | _ => none

def looseText? : Json → Option String
  | .int n => some (toString n)
  | .float x => some (numberText x)
  | .bool b => some (booleanText b)
  | .string s => some s
  | _ => none

/-- A policy by its name, or by the name of the only field of a table. -/
def loosePolicy? : Json → Option ErrorPolicy
  | .string name => ErrorPolicy.ofName? name
  | .object [(name, _)] => ErrorPolicy.ofName? name
  | _ => none

/-- Settings from loose values by their names; those that are missing have their defaults. -/
def ofLoose? (table : Table) : Option Settings := do
  let field (name : String) : Option Json := List.lookup name table
  let errors ← Json.orDefault? default.errors loosePolicy? (field "errors")
  let delay ← Json.orDefault? default.textSearchDelay looseCount? (field "text_search_delay_ms")
  let numeric ← Json.orDefault? default.numericInterval looseFloat? (field "numeric_interval")
  let alpha ← Json.orDefault? default.alphaInterval looseCount? (field "alpha_interval")
  let base ← Json.orDefault? default.baseUri looseText? (field "base_uri")
  return ⟨errors, delay, numeric, alpha, base⟩

/-! ## 2. Formats -/

/-- The formats of settings files. -/
inductive Format where
  | toml
  | json
  | yaml
  | ini
  | ron
  | json5
  deriving DecidableEq, Repr

namespace Format

/-- The formats in the order in which files are looked for. -/
def all : List Format := [.toml, .json, .yaml, .ini, .ron, .json5]

theorem mem_all (f : Format) : f ∈ all := by
  cases f <;> decide

def extensions : Format → List String
  | .toml => ["toml"]
  | .json => ["json"]
  | .yaml => ["yaml", "yml"]
  | .ini => ["ini"]
  | .ron => ["ron"]
  | .json5 => ["json5"]

def ofExtension? (ext : String) : Option Format := all.find? fun f => f.extensions.contains ext

/-- The table that a text of the format gives. -/
def read? (format : Format) (text : String) : Option Table :=
  match format with
  | .toml => Toml.read? text
  | .json =>
    match Json.parse? text with
    | some (.object fields) => some (fields.map fun (name, v) => (name, ofFileJson v))
    | _ => none
  | .yaml => Yaml.read? text
  | .ini => Ini.read? text
  | .ron => Ron.read? text
  | .json5 => Json5.read? text

end Format

/-! ## 3. Files -/

/-- The extension in a path's last name; a name that starts with its only point has none. -/
def extensionOf (path : String) : String :=
  let name := ((Text.splitOn '/' path.toList).getLast?).getD []
  match Text.splitOn '.' name with
  | first :: rest =>
    if first.isEmpty && rest.length = 1 then "" else String.ofList (rest.getLast?.getD [])
  | [] => ""

/-- A path without what names nothing at its end, if its last part is a name. -/
def named? (path : String) : Option String :=
  let parts := Path.trimmedParts (Text.splitOn '/' path.toList)
  match parts.getLast? with
  | none => none
  | some last => if last = ['.', '.'] then none else some (String.ofList (Text.join '/' parts))

/-- The paths of the files that can be meant by a name without extension. -/
def candidates (name : String) : List String :=
  match named? name with
  | some name => (Format.all.flatMap Format.extensions).map fun ext => name ++ "." ++ ext
  | none => []

/-- All paths that are looked at for settings of that name. -/
def paths (name : String) : List String := name :: candidates name

/-- The settings file of that name and its format. -/
def findFile (files : Files) (name : String) : Option (Format × TextFile) :=
  match files name with
  | some file => (Format.ofExtension? (extensionOf name)).map fun format => (format, file)
  | none =>
    (candidates name).findSome? fun path => do
      let file ← files path
      return (← Format.ofExtension? (extensionOf path), file)

/-- A text without the mark that may stand before all others. -/
def withoutMark (text : String) : String :=
  match text.toList with
  | '\uFEFF' :: rest => String.ofList rest
  | _ => text

/-- The table in the file of that name; without one it is empty. -/
def fromFile (files : Files) (name : String) : Outcome Table :=
  match findFile files name with
  | none => .ok []
  | some (format, file) =>
    match format.read? (withoutMark file.text) with
    | some table => .ok table
    | none => .error (.settings .unreadable)

/-! ## 4. The environment -/

/-- What the names of variables with settings start with, in letters of any case. -/
def variableStart : List Char := "exhibit_".toList

/-- What the text of a variable stands for. -/
def variableValue (text : String) : Json :=
  let cs := text.toList
  if lowered text = "true".toList then .bool true
  else if lowered text = "false".toList then .bool false
  else
    match integer? cs, float? cs with
    | some n, _ => .int n
    | none, some x => .float x
    | none, none => .string text

/-- The setting that a variable gives, if it gives one. -/
def settingOf? (given : String × String) : Option (String × Json) :=
  let name := Text.toLower given.1.toList
  if variableStart.isPrefixOf name then
    some (String.ofList (name.drop variableStart.length), variableValue given.2)
  else none

/-! ## 5. Loading -/

/-- The settings from the environment and the file of that name, if one is named. -/
def load (files : Files) (name : Option String) (environment : List (String × String)) :
    Outcome Settings := do
  let table ←
    match name with
    | some name => fromFile files name
    | none => .ok []
  let table := Table.putAll (Table.putAll [] table) (environment.filterMap settingOf?)
  match ofLoose? table with
  | some s => s.validate
  | none => .error (.settings .unreadable)

end Faceted.Settings
