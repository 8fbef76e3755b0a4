import Faceted.Text.Split

/-!
# Command line arguments

The arguments are links to data and options. `--item X`, `--item=X` and for expressions also `-e X`,
`-eX` and `-e=X` give an option its value; after `--` everything is a link. An option is given at
most once, except for expressions. Arguments are read from the front, and the first one that asks for
help or the version, or that does not fit, decides. The conventions are those that the package `clap`
(version 4) documents.
-/

namespace Faceted.CommandLine

open Faceted.Text

/-- What the command line says. -/
structure Arguments where
  /-- The name of the settings file. -/
  config : Option String
  /-- The name of the error policy. -/
  errors : Option String
  /-- The item that expressions are evaluated on. -/
  item : Option String
  expressions : List String
  links : List String
  deriving DecidableEq, Repr

def Arguments.none : Arguments := ⟨.none, .none, .none, [], []⟩

/-- The options that take a value. -/
inductive Parameter where
  | config
  | errors
  | item
  | expression
  deriving DecidableEq, Repr

namespace Parameter

def all : List Parameter := [.config, .errors, .item, .expression]

/-- The name after two hyphens. -/
def name : Parameter → String
  | .config => "config"
  | .errors => "errors"
  | .item => "item"
  | .expression => "eval"

def ofName? (s : String) : Option Parameter := all.find? fun p => p.name == s

/-- The value put where it belongs, unless there is one already. -/
def give? (p : Parameter) (value : String) (a : Arguments) : Option Arguments :=
  match p with
  | .config => if a.config.isSome then none else some { a with config := some value }
  | .errors => if a.errors.isSome then none else some { a with errors := some value }
  | .item => if a.item.isSome then none else some { a with item := some value }
  | .expression => some { a with expressions := a.expressions ++ [value] }

end Parameter

/-- Why the arguments are not read to their end. -/
inductive Stop where
  | help
  | version
  | misuse
  deriving DecidableEq, Repr

/-- What one argument is. -/
inductive Argument where
  | link (path : String)
  | option (p : Parameter)
  | optionWith (p : Parameter) (value : String)
  | endOfOptions
  | stop (reason : Stop)
  deriving DecidableEq, Repr

/-- An argument that starts with two hyphens; `cs` is what follows them. -/
def Argument.ofLong (cs : List Char) : Argument :=
  let (name, value) := cutAt '=' cs
  let name := String.ofList name
  match Parameter.ofName? name, cs.contains '=' with
  | some p, true => .optionWith p (String.ofList value)
  | some p, false => .option p
  | none, true => .stop .misuse
  | none, false =>
    if cs.isEmpty then .endOfOptions
    else if name = "help" then .stop .help
    else if name = "version" then .stop .version
    else .stop .misuse

/-- What an argument is, before the end of the options. -/
def Argument.ofText (s : String) : Argument :=
  match s.toList with
  | '-' :: '-' :: cs => .ofLong cs
  | ['-', 'e'] => .option .expression
  | '-' :: 'e' :: '=' :: cs => .optionWith .expression (String.ofList cs)
  | '-' :: 'e' :: cs => .optionWith .expression (String.ofList cs)
  | '-' :: 'h' :: _ => .stop .help
  | '-' :: 'V' :: _ => .stop .version
  | '-' :: _ :: _ => .stop .misuse
  | _ => .link s

/-- Adds a link; a path has at least one character. -/
def addLink (path : String) (a : Arguments) : Except Stop Arguments :=
  if path.isEmpty then .error .misuse else .ok { a with links := a.links ++ [path] }

/-- Gives an option its value. -/
def give (p : Parameter) (value : String) (a : Arguments) : Except Stop Arguments :=
  match p.give? value a with
  | some a => .ok a
  | none => .error .misuse

/-- Reads arguments from the front. -/
def readFrom (a : Arguments) : List String → Except Stop Arguments
  | [] => .ok a
  | [s] =>
    match Argument.ofText s with
    | .link path => addLink path a
    | .option _ => .error .misuse
    | .optionWith p value => give p value a
    | .endOfOptions => .ok a
    | .stop reason => .error reason
  | s :: next :: rest =>
    match Argument.ofText s with
    | .link path => do readFrom (← addLink path a) (next :: rest)
    | .option p =>
      match Argument.ofText next with
      | .link value => do readFrom (← give p value a) rest
      | _ => .error .misuse
    | .optionWith p value => do readFrom (← give p value a) (next :: rest)
    | .endOfOptions => (next :: rest).foldlM (fun a path => addLink path a) a
    | .stop reason => .error reason

/-- What the arguments say, or why they are not all read. -/
def Arguments.read (arguments : List String) : Except Stop Arguments :=
  readFrom .none arguments

end Faceted.CommandLine
