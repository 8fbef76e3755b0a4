import Faceted.Settings.Table
import Faceted.Settings.Yaml.Token

/-!
# Nodes of YAML files

Tokens are read to nodes: scalars, lists and tables. A scalar without quotes is what it looks like:
a null, a truth value, an integer, a double or a text; a tag can say otherwise. A file holds one
document, which has to be a table.

A key is a scalar and no null, and is given once in its table. A scalar that is not what its tag
says is `misfit`: it stands for null, and as a key for nothing, so that the next node is the key.
-/

namespace Faceted.Settings.Yaml

/-! ## 1. Scalars -/

inductive Scalar where
  | null
  | bool (b : Bool)
  | int (n : Int)
  /-- A double as it is written. -/
  | double (text : String)
  | text (text : String)
  deriving DecidableEq, Repr

namespace Scalar

/-- The double that a scalar without quotes writes; a text without a digit is none. -/
def double? (cs : List Char) : Option Float := if cs.any Char.isDigit then float? cs else none

/-- The words for infinities and not-a-number. They are doubles, but no settings have them. -/
def doubleWords : List String :=
  [".inf", ".Inf", ".INF", "+.inf", "+.Inf", "+.INF", "-.inf", "-.Inf", "-.INF", ".nan", ".NaN",
    ".NAN"]

def isDouble (s : String) : Bool := doubleWords.contains s || (double? s.toList).isSome

/-- The integer with a mark for its base, or with a plus sign that counts for nothing. -/
def marked? : List Char → Option Int
  | '0' :: 'x' :: ds => (signedInBase? 16 ds).filter isWord
  | '0' :: 'o' :: ds => (signedInBase? 8 ds).filter isWord
  | '+' :: cs => integer? cs
  | _ => none

/-- What a scalar without quotes and without a tag is. -/
def ofPlain (s : String) : Scalar :=
  if ["", "~", "null"].contains s then .null
  else if ["true", "True", "TRUE"].contains s then .bool true
  else if ["false", "False", "FALSE"].contains s then .bool false
  else
    match (marked? s.toList).or (integer? s.toList) with
    | some n => .int n
    | none => if isDouble s then .double s else .text s

/-- What tags of the standard types start with. -/
def standardStart : String := "tag:yaml.org,2002:"

/-- What a scalar without quotes is with a tag; `none` if it is not what the tag says. Tags that are
    not for scalars of a standard type make it a text. -/
def ofTagged? (start suffix s : String) : Option Scalar :=
  if start != standardStart then some (.text s)
  else
    match suffix with
    | "bool" =>
      if s = "true" then some (.bool true) else if s = "false" then some (.bool false) else none
    | "int" => (integer? s.toList).map .int
    | "float" => if isDouble s then some (.double s) else none
    | "null" => if s = "~" || s = "null" then some .null else none
    | _ => some (.text s)

/-- The name that a key gives. -/
def name? : Scalar → Option String
  | .null => none
  | .bool b => some (booleanText b)
  | .int n => some (toString n)
  | .double s => some s
  | .text s => some s

end Scalar

/-! ## 2. Nodes -/

inductive Node where
  | misfit
  | scalar (s : Scalar)
  | list (elements : List Node)
  | table (fields : List (String × Node))

namespace Node

def null : Node := .scalar .null

mutual

/-- The value of a node; a double that is written as a word has none. -/
def toJson? : Node → Option Json
  | .misfit => some .null
  | .scalar .null => some .null
  | .scalar (.bool b) => some (.bool b)
  | .scalar (.int n) => some (.int n)
  | .scalar (.double text) => (Scalar.double? text.toList).map .float
  | .scalar (.text text) => some (.string text)
  | .list elements => (elementsToJson? elements).map .array
  | .table fields => (fieldsToJson? fields).map fun pairs => .object (Table.ofPairs pairs)

def elementsToJson? : List Node → Option (List Json)
  | [] => some []
  | node :: rest => do
    let v ← node.toJson?
    return v :: (← elementsToJson? rest)

def fieldsToJson? : List (String × Node) → Option (List (String × Json))
  | [] => some []
  | (name, node) :: rest => do
    let v ← node.toJson?
    return (name, v) :: (← fieldsToJson? rest)

end

/-- The keys and values of a table from its nodes in their order. `taken` holds the keys so far. -/
def pairs? (taken : List Scalar) : (key : Option Node) → List Node → Option (List (String × Node))
  | _, [] => some []
  | none, .misfit :: rest => pairs? taken none rest
  | none, key :: rest => pairs? taken (some key) rest
  | some (.scalar key), value :: rest => do
    if taken.contains key then none
    let name ← key.name?
    return (name, value) :: (← pairs? (key :: taken) none rest)
  | some _, _ :: _ => none

def ofNodes? (nodes : List Node) : Option Node := (pairs? [] none nodes).map .table

end Node

/-! ## 3. Reading tokens -/

/-- What is left to be read, what handles stand for, and the anchors: names have numbers, so that a
    name can be given again, and numbers have nodes, once these are complete. -/
structure Reading where
  tokens : List Token
  handles : List (String × String)
  numbers : List (String × Nat)
  nodes : List (Nat × Node)

abbrev Compose := StateT Reading Option

namespace Compose

def peek : Compose (Option Token) := return (← get).tokens.head?

def skip : Compose Unit := modify fun r => { r with tokens := r.tokens.drop 1 }

/-- Gives the name a number of its own. -/
def anchor (name : String) : Compose Nat := do
  let r ← get
  let number := r.numbers.length
  set { r with numbers := (name, number) :: r.numbers }
  return number

/-- What the tag starts with, for a handle. -/
def tagStart (handle : String) : Compose String := do
  match (← get).handles.lookup handle with
  | some start => return start
  | none =>
    if handle = "!!" then return Scalar.standardStart
    if 2 ≤ handle.length && handle.toList.head? = some '!' && handle.toList.getLast? = some '!' then
      failure
    return handle

/-- Reads an anchor and a tag before a node, in any order. -/
def properties : Compose (Option Nat × Option (String × String)) := do
  match ← peek with
  | some (.anchor name) =>
    skip
    let number ← anchor name
    match ← peek with
    | some (.tag handle suffix) =>
      skip
      return (some number, some (← tagStart handle, suffix))
    | _ => return (some number, none)
  | some (.tag handle suffix) =>
    skip
    let start ← tagStart handle
    match ← peek with
    | some (.anchor name) =>
      skip
      return (some (← anchor name), some (start, suffix))
    | _ => return (none, some (start, suffix))
  | _ => return (none, none)

/-- The node of a scalar. -/
def ofScalar (tag : Option (String × String)) (isPlain : Bool) (text : String) : Node :=
  match isPlain, tag with
  | false, _ => .scalar (.text text)
  | true, none => .scalar (.ofPlain text)
  | true, some (start, suffix) =>
    match Scalar.ofTagged? start suffix text with
    | some s => .scalar s
    | none => .misfit

/-- Does an element or value end here without a node? -/
def isEmptyBefore (ends : List Token) : Compose Bool := do
  return (← peek).any ends.contains

/-! ### Nodes

Every call takes a token or is one of four in a row that lead to one that does, so four times as
many rounds as there are tokens suffice. -/

mutual

/-- Reads a node. Blocks can stand in blocks only; below a key the elements of a list need not be
    indented. -/
def node : (rounds : Nat) → (inBlock belowKey : Bool) → Compose Node
  | 0, _, _ => failure
  | rounds + 1, inBlock, belowKey => do
    match ← peek with
    | some (.alias name) =>
      skip
      let r ← get
      let number ← r.numbers.lookup name
      return (r.nodes.lookup number).getD .misfit
    | _ =>
      let (number, tag) ← properties
      let node ← content rounds inBlock belowKey (number.isSome || tag.isSome) tag
      match number with
      | some number => modify fun r => { r with nodes := (number, node) :: r.nodes }
      | none => pure ()
      return node

/-- Reads a node after its anchor and tag; with one of them it can be missing. -/
def content : (rounds : Nat) → (inBlock belowKey mayMiss : Bool) →
    (tag : Option (String × String)) → Compose Node
  | 0, _, _, _, _ => failure
  | rounds + 1, inBlock, belowKey, mayMiss, tag => do
    match ← peek, inBlock, belowKey with
    | some .dash, _, true => return .list (← looseElements rounds)
    | some (.scalar isPlain text), _, _ =>
      skip
      return ofScalar tag isPlain text
    | some .openFlowSequence, _, _ =>
      skip
      return .list (← flowElements rounds true)
    | some .openFlowMapping, _, _ =>
      skip
      Node.ofNodes? (← flowFields rounds true)
    | some .openSequence, true, _ =>
      skip
      return .list (← elements rounds)
    | some .openMapping, true, _ =>
      skip
      Node.ofNodes? (← fields rounds)
    | _, _, _ =>
      if mayMiss then return ofScalar tag true "" else failure

/-- A node, or null if one of these tokens follows instead. -/
def nodeUnless : (rounds : Nat) → (ends : List Token) → (inBlock belowKey : Bool) → Compose Node
  | 0, _, _, _ => failure
  | rounds + 1, ends, inBlock, belowKey => do
    if ← isEmptyBefore ends then return .null
    node rounds inBlock belowKey

/-- Reads the elements of a list in a block of their own. -/
def elements : (rounds : Nat) → Compose (List Node)
  | 0 => failure
  | rounds + 1 => do
    match ← peek with
    | some .closeBlock =>
      skip
      return []
    | some .dash =>
      skip
      let element ← nodeUnless rounds [.dash, .closeBlock] true false
      return element :: (← elements rounds)
    | _ => failure

/-- Reads the elements of a list that is not indented. -/
def looseElements : (rounds : Nat) → Compose (List Node)
  | 0 => failure
  | rounds + 1 => do
    match ← peek with
    | some .dash =>
      skip
      let element ← nodeUnless rounds [.dash, .key, .value, .closeBlock] true false
      return element :: (← looseElements rounds)
    | _ => return []

/-- Reads the keys and values of a table in a block. -/
def fields : (rounds : Nat) → Compose (List Node)
  | 0 => failure
  | rounds + 1 => do
    let ends := [.key, .value, .closeBlock]
    let key ← match ← peek with
      | some .closeBlock =>
        skip
        return []
      | some .key =>
        skip
        nodeUnless rounds ends true true
      | some .value => pure .null
      | _ => failure
    let value ←
      if (← peek) = some .value then
        skip
        nodeUnless rounds ends true true
      else pure .null
    return key :: value :: (← fields rounds)

/-- Reads the elements of a list in brackets. -/
def flowElements : (rounds : Nat) → (isFirst : Bool) → Compose (List Node)
  | 0, _ => failure
  | rounds + 1, isFirst => do
    if (← peek) = some .closeFlowSequence then
      skip
      return []
    if !isFirst then
      if (← peek) = some .comma then skip else failure
    match ← peek with
    | some .closeFlowSequence =>
      skip
      return []
    | some .key =>
      skip
      let ends := [.comma, .closeFlowSequence]
      let key ← nodeUnless rounds (.value :: ends) false false
      let value ←
        if (← peek) = some .value then
          skip
          nodeUnless rounds ends false false
        else pure .null
      let pair ← Node.ofNodes? [key, value]
      return pair :: (← flowElements rounds false)
    | _ =>
      let element ← node rounds false false
      return element :: (← flowElements rounds false)

/-- Reads the keys and values of a table in braces. -/
def flowFields : (rounds : Nat) → (isFirst : Bool) → Compose (List Node)
  | 0, _ => failure
  | rounds + 1, isFirst => do
    if (← peek) = some .closeFlowMapping then
      skip
      return []
    if !isFirst then
      if (← peek) = some .comma then skip else failure
    let ends := [.comma, .closeFlowMapping]
    let (key, isMarked) ← match ← peek with
      | some .closeFlowMapping =>
        skip
        return []
      | some .key =>
        skip
        pure (← nodeUnless rounds (.value :: ends) false false, true)
      | some .value => pure (.null, true)
      | _ => pure (← node rounds false false, false)
    let value ←
      if isMarked && (← peek) = some .value then
        skip
        nodeUnless rounds ends false false
      else pure .null
    return key :: value :: (← flowFields rounds false)

end

/-! ### Documents -/

/-- Reads directives; the version is given once at most. -/
def directives : (rounds : Nat) → (hasVersion : Bool) → Compose Unit
  | 0, _ => pure ()
  | rounds + 1, hasVersion => do
    match ← peek with
    | some .version =>
      if hasVersion then failure
      skip
      directives rounds true
    | some (.handle name start) =>
      skip
      modify fun r => { r with handles := (name, start) :: r.handles }
      directives rounds hasVersion
    | _ => pure ()

/-- Is the token one that can stand between documents? -/
def isBetween : Token → Bool
  | .version => true
  | .handle _ _ => true
  | .documentStart => true
  | .documentEnd => true
  | _ => false

/-- Reads the only document; what has none is an empty table. -/
def document : Compose Node := do
  modify fun r => { r with tokens := r.tokens.dropWhile (· == .documentEnd) }
  let rounds := 4 * (← get).tokens.length + 4
  match ← peek with
  | none => return .table []
  | some t =>
    if isBetween t then
      directives rounds false
      if (← peek) != some .documentStart then failure
      skip
    let isMissing := (← peek).all isBetween
    let content ← if isMissing && isBetween t then pure .null else node rounds true false
    if (← get).tokens.all (· == .documentEnd) then return content else failure

end Compose

/-- The values by their names. -/
def read? (text : String) : Option Table := do
  let tokens ← Token.ofText? text
  let (content, _) ← Compose.document ⟨tokens, [], [], []⟩
  match ← content.toJson? with
  | .object fields => return fields
  | _ => none

end Faceted.Settings.Yaml
