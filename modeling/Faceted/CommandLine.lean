import Faceted.Browser.Links
import Faceted.CommandLine.Arguments
import Faceted.Settings.Load

/-!
# The command line program

Loads data files and evaluates expressions over the loaded items, or over one item. Every expression
whose values are found gives one line of JSON; the first failure ends the run, and the lines before
it stay.
-/

namespace Faceted.CommandLine

/-- What a run leaves: the lines it writes, an exit code, and what went wrong. -/
structure Report where
  lines : List String
  code : Nat
  fault : Option String
  deriving DecidableEq, Repr

/-! ## 1. Texts -/

def programName : String := "exhibit"

def versionLine : String := programName ++ " 0.1.0"

def usageLine : String := "Usage: " ++ programName ++ " [OPTIONS] [LINKS]..."

def helpLines : List String :=
  ["Load exhibit data and evaluate expressions over it", "", usageLine, "", "Arguments:",
    "  [LINKS]...  JSON data files, loaded in order", "", "Options:",
    "      --config <CONFIG>     Configuration file (toml, json, yaml)",
    "      --errors <ERRORS>     Error policy: throw, log-and-throw or log",
    "      --item <ITEM>         Evaluate against this item instead of every loaded item",
    "  -e, --eval <EXPRESSIONS>  Expression to evaluate, may be repeated",
    "  -h, --help                Print help",
    "  -V, --version             Print version"]

/-- The line of an expression and its values. -/
def valuesLine (source : String) (vs : Values) : String :=
  (Json.object [("expression", .string source), ("valueType", .string vs.type.toText),
    ("values", .array (vs.toList.map .string))]).render

/-! ## 2. Running -/

/-- The settings, where the command line may choose another error policy. -/
def settingsOf (files : Files) (environment : List (String × String)) (a : Arguments) :
    Outcome Settings := do
  let s ← Settings.load files a.config environment
  match a.errors with
  | some name => return { s with errors := ← ErrorPolicy.ofName name }
  | none => return s

/-- The browser with the data of all links. -/
def browserOf (files : Files) (environment : List (String × String)) (present : Int)
    (a : Arguments) : Outcome Browser := do
  let s ← settingsOf files environment a
  match Browser.loadLinks files a.links ((Browser.new s).atMoment present) with
  | (.ok _, b) => .ok b
  | (.error failure, _) => .error failure

/-- What `value` stands for in the expressions. -/
def rootsOf (b : Browser) : Option String → Roots
  | some item => .ofItem item
  | none => .ofItems b.store.items

/-- The lines of the expressions up to the first failure. -/
def evaluateAll (b : Browser) (roots : Roots) : List String → Report
  | [] => ⟨[], 0, none⟩
  | source :: rest =>
    match b.evaluate source roots with
    | .error failure => ⟨[], 1, some failure.message⟩
    | .ok vs =>
      let report := evaluateAll b roots rest
      { report with lines := valuesLine source vs :: report.lines }

/-- Runs the program on its arguments. -/
def run (files : Files) (environment : List (String × String)) (present : Int)
    (arguments : List String) : Report :=
  match Arguments.read arguments with
  | .error .help => ⟨helpLines, 0, none⟩
  | .error .version => ⟨[versionLine], 0, none⟩
  | .error .misuse => ⟨[], 2, some usageLine⟩
  | .ok a =>
    match browserOf files environment present a with
    | .error failure => ⟨[], 1, some failure.message⟩
    | .ok b => evaluateAll b (rootsOf b a.item) a.expressions

/-- The paths of all files that a run may read. -/
def pathsOf (arguments : List String) : List String :=
  match Arguments.read arguments with
  | .error _ => []
  | .ok a => (a.config.map Settings.paths).getD [] ++ a.links

end Faceted.CommandLine
