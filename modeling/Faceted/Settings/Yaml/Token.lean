import Faceted.Settings.Yaml.Text

/-!
# Tokens of YAML files

A text is cut into tokens. Blocks have no brackets in the text, so the lexer adds them where the
indentation grows and shrinks. That a text is a key shows only at the colon after it; so the lexer
remembers where a key may have started (`PossibleKey`) and puts the tokens that open a mapping and
announce the key there later.

Main definition: `Token.ofText?`.
-/

namespace Faceted.Settings.Yaml

/-! ## 1. Tokens -/

inductive Token where
  | openSequence
  | openMapping
  | closeBlock
  /-- The dash of an element in a block. -/
  | dash
  | openFlowSequence
  | closeFlowSequence
  | openFlowMapping
  | closeFlowMapping
  | comma
  | key
  | value
  | anchor (name : String)
  | alias (name : String)
  | tag (handle suffix : String)
  /-- A text; `isPlain` says that it stands without quotes and is no block. -/
  | scalar (isPlain : Bool) (text : String)
  /-- The directive that tells the version. -/
  | version
  /-- A directive that tells what a handle stands for, or one that is not known. -/
  | handle (name start : String)
  | documentStart
  | documentEnd
  deriving DecidableEq, Repr

/-! ## 2. The lexer -/

/-- Where a key may have started. -/
structure PossibleKey where
  /-- How many tokens come before it. -/
  number : Nat
  index : Nat
  line : Nat
  column : Nat
  /-- Nothing else than a key can stand there. -/
  isRequired : Bool

/-- An indentation that was left for a deeper one; `isBlock` says that the deeper one is that of a
    block, which is closed when it ends. -/
structure Indent where
  column : Int
  isBlock : Bool

structure Lexer where
  here : Cursor
  tokens : Array Token
  /-- May a key start here? -/
  keyAllowed : Bool
  /-- The possible key of each level of brackets, the innermost first. -/
  keys : List (Option PossibleKey)
  indent : Int
  indents : List Indent
  /-- After a key in quotes or brackets the colon needs no blank after it. -/
  adjacent : Option Nat
  /-- Was a mapping in brackets started, or a key announced by a question mark within brackets? -/
  inMapping : Bool
  /-- For each sequence in brackets, the innermost first: is one of its elements a pair now? -/
  pairs : List Bool
  /-- Is the latest token an anchor or tag at the start of a line? -/
  propertyAtMargin : Bool

/-- A step of the lexer. -/
abbrev Lex := StateT Lexer Option

namespace Lex

def start (cs : List Char) : Lexer :=
  { here := .start cs, tokens := #[], keyAllowed := true, keys := [none], indent := -1,
    indents := [], adjacent := none, inMapping := false, pairs := [], propertyAtMargin := false }

/-! ## 3. Moves and tokens -/

def here : Lex Cursor := return (← get).here

def move (c : Cursor) : Lex Unit := modify fun l => { l with here := c }

/-- Is this within brackets? -/
def inFlow : Lex Bool := return 1 < (← get).keys.length

def column : Lex Int := return ((← here).column : Int)

def refuseIf (b : Bool) : Lex Unit := if b then failure else pure ()

def push (t : Token) : Lex Unit :=
  modify fun l => { l with tokens := l.tokens.push t, propertyAtMargin := false }

/-- Puts a token after that many others. -/
def insert (number : Nat) (t : Token) : Lex Unit :=
  modify fun l =>
    { l with tokens := l.tokens.insertIdxIfInBounds number t, propertyAtMargin := false }

def allowKey (b : Bool) : Lex Unit := modify fun l => { l with keyAllowed := b }

/-- Passes over blanks and a comment. -/
def skipGap : Lex Unit := do move (← (← here).skipGap?)

/-! ## 4. Possible keys -/

/-- From here on the innermost possible key is none; one that is required must not be lost. -/
def dropKey : Lex Unit := do
  let l ← get
  match l.keys with
  | some key :: outer =>
    refuseIf key.isRequired
    set { l with keys := none :: outer }
  | _ => pure ()

/-- The next token may be a key. -/
def saveKey : Lex Unit := do
  let l ← get
  if l.keyAllowed then
    let isRequired := l.keys.length = 1 && l.indent = (← column) && l.indents.head?.any (·.isBlock)
    dropKey
    let c := l.here
    let key : PossibleKey := ⟨l.tokens.size, c.index, c.line, c.column, isRequired⟩
    modify fun l => { l with keys := some key :: l.keys.drop 1 }

/-- Outside of brackets a key ends on its line, and has no more than 1024 characters. -/
def dropStaleKeys : Lex Unit := do
  let l ← get
  let c := l.here
  let isStale (key : PossibleKey) : Bool :=
    l.keys.length = 1 && (key.line < c.line || key.index + 1024 < c.index)
  refuseIf (l.keys.any fun key => key.any fun key => isStale key && key.isRequired)
  let keys := l.keys.map fun key => key.filter fun key => !isStale key
  set { l with keys }

/-! ## 5. Indentation -/

/-- Leaves an indentation of one column that no block has. -/
def leaveNarrow : Lex Unit :=
  modify fun l =>
    match l.indents with
    | ⟨column, false⟩ :: outer => { l with indent := column, indents := outer }
    | _ => l

/-- Opens a block at that column if it is indented more than what it stands in. The token that opens
    it is put after that many others, or last. -/
def openBlock (column : Nat) (number : Option Nat) (t : Token) : Lex Unit := do
  if !(← inFlow) then
    if (← get).indent ≤ column then leaveNarrow
    if (← get).indent < column then
      modify fun l => { l with indents := ⟨l.indent, true⟩ :: l.indents, indent := column }
      match number with
      | some number => insert number t
      | none => push t

/-- How many blocks end at a column, and what is left of the indentations. -/
def closed (column : Int) : (indent : Int) → List Indent → Nat × Int × List Indent
  | indent, [] => (0, indent, [])
  | indent, i :: outer =>
    if indent ≤ column then (0, indent, i :: outer)
    else
      let (count, indent, indents) := closed column i.column outer
      (count + i.isBlock.toNat, indent, indents)

/-- Closes the blocks that are indented more than that column. -/
def closeBlocks (column : Int) : Lex Unit := do
  if !(← inFlow) then
    let l ← get
    let (count, indent, indents) := closed column l.indent l.indents
    set { l with
      indent, indents, tokens := l.tokens ++ Array.replicate count Token.closeBlock,
      propertyAtMargin := l.propertyAtMargin && count = 0 }

/-- What follows has to be indented by one column at least, but that opens no block. -/
def indentNarrow : Lex Unit := do
  if !(← inFlow) && (← get).indents.head?.any (·.isBlock) then
    modify fun l =>
      { l with indents := ⟨l.indent, false⟩ :: l.indents, indent := l.indent + 1 }

/-! ## 6. Blanks -/

/-- Passes over blanks, comments and ends of lines. Outside of brackets a key may start on a new
    line. In a block a tab must not take the place of an indentation. Every line takes a character,
    so as many rounds as there are characters suffice. -/
def skipBlank : (rounds : Nat) → Lex Unit
  | 0 => pure ()
  | rounds + 1 => do
    let l ← get
    let c := l.here
    match c.head? with
    | some '#' =>
      move c.skipLine
      skipBlank rounds
    | some x =>
      if x = '\t' && !l.indents.isEmpty && c.isLeading && (c.column : Int) < l.indent then
        skipGap
        refuseIf !(endsLine (← here).head?)
        skipBlank rounds
      else if isGap x then
        move (c.advance 1)
        skipBlank rounds
      else if isBreak x then
        move c.lineBreak
        if !(← inFlow) then allowKey true
        skipBlank rounds
    | none => pure ()

def skipBlanks : Lex Unit := do skipBlank (← here).rest.length

/-! ## 7. Brackets -/

/-- How deep brackets may nest. -/
def maxDepth : Nat := 255

/-- If the innermost sequence in brackets has a pair as its element now, the pair ends. -/
def endPair : Lex Unit := do
  match (← get).pairs with
  | true :: outer =>
    modify fun l => { l with pairs := false :: outer, inMapping := false }
    push .closeFlowMapping
  | _ => pure ()

def openBracket (isMapping : Bool) : Lex Unit := do
  saveKey
  indentNarrow
  refuseIf (maxDepth < (← get).keys.length)
  modify fun l =>
    { l with
      keys := none :: l.keys, keyAllowed := true, here := l.here.step,
      inMapping := l.inMapping || isMapping,
      pairs := if isMapping then l.pairs else false :: l.pairs }
  skipGap
  push (if isMapping then .openFlowMapping else .openFlowSequence)

def closeBracket (isMapping : Bool) : Lex Unit := do
  dropKey
  if ← inFlow then modify fun l => { l with keys := l.keys.drop 1 }
  allowKey false
  if !isMapping then
    endPair
    modify fun l => { l with pairs := l.pairs.drop 1 }
  move (← here).step
  skipGap
  if ← inFlow then modify fun l => { l with adjacent := some l.here.index }
  push (if isMapping then .closeFlowMapping else .closeFlowSequence)

def comma : Lex Unit := do
  dropKey
  allowKey true
  endPair
  move (← here).step
  skipGap
  push .comma

/-! ## 8. Blocks -/

/-- An element of a sequence in a block. -/
def dash : Lex Unit := do
  let l ← get
  refuseIf (← inFlow)
  refuseIf !l.keyAllowed
  refuseIf (l.propertyAtMargin && l.here.column = 0 && -1 < l.indent)
  move l.here.step
  openBlock l.here.column none .openSequence
  let hasTab := (← here).gap.contains '\t'
  skipGap
  let c ← here
  refuseIf (hasTab && c.head? = some '-' && endsWord c.next?)
  if c.head?.any fun x => isBreak x || isFlow x then indentNarrow
  dropKey
  allowKey true
  push .dash

/-- Passes over blanks, comments and ends of lines after a question mark. Tabs are no blanks
    here. -/
def skipAfterMark : (rounds : Nat) → Lex Unit
  | 0 => pure ()
  | rounds + 1 => do
    let c ← here
    match c.head? with
    | some ' ' =>
      move (c.advance 1)
      skipAfterMark rounds
    | some '#' =>
      move c.skipLine
      skipAfterMark rounds
    | some x =>
      if isBreak x then
        move c.lineBreak
        if !(← inFlow) then allowKey true
        skipAfterMark rounds
    | none => pure ()

/-- A key that is announced by a question mark. -/
def markedKey : Lex Unit := do
  let l ← get
  if ← inFlow then modify fun l => { l with inMapping := true }
  else
    refuseIf !l.keyAllowed
    openBlock l.here.column none .openMapping
  dropKey
  allowKey !(← inFlow)
  move l.here.step
  let next := (← here).head?
  refuseIf !(next = some ' ' || next.any isBreak)
  skipAfterMark (← here).rest.length
  refuseIf ((← here).head? = some '\t')
  push .key

/-- The colon between a key and its value. If a key may have started, the key is announced there,
    and a mapping opened if there is none. -/
def colon : Lex Unit := do
  let l ← get
  let isPair := !l.pairs.isEmpty && !l.inMapping
  if isPair then modify fun l => { l with pairs := true :: l.pairs.drop 1 }
  move l.here.step
  if (← here).head? = some '\t' then
    let hasBlank := (← here).gap.contains ' '
    skipGap
    refuseIf (!hasBlank && (← here).head?.any isNameChar)
  match l.keys.head?.join with
  | some key =>
    insert key.number .key
    if isPair then
      refuseIf (key.line < l.here.line)
      insert key.number .openFlowMapping
    openBlock key.column (some key.number) .openMapping
    indentNarrow
    modify fun l => { l with keys := none :: l.keys.drop 1, keyAllowed := false }
  | none =>
    if isPair then push .openFlowMapping
    if !(← inFlow) then
      refuseIf !(← get).keyAllowed
      openBlock l.here.column none .openMapping
    indentNarrow
    allowKey !(← inFlow)
  push .value

/-! ## 9. Directives and markers -/

/-- Takes the characters that pass the test. -/
def takeWhile (test : Char → Bool) : Lex (List Char) := do
  let c ← here
  let run := c.rest.takeWhile test
  move (c.pass run.length)
  return run

/-- The number of a version has nine digits at most. -/
def versionNumber : Lex Unit := do
  let ds ← takeWhile Char.isDigit
  refuseIf (ds.isEmpty || 9 < ds.length)

/-- May the character stand in a tag? -/
def isUriChar (c : Char) : Bool :=
  c.isAlphanum || "-#;/?:@&=+$,_.!~*'()[]%".toList.contains c

def isTagChar (c : Char) : Bool := isUriChar c && !isFlow c && c != '!'

/-- Reads the bytes of a character in percent encoding. -/
def percentEncoded? : (count : Nat) → (read : List Nat) → List Char → Option (Char × List Char)
  | 0, _, _ => none
  | count + 1, read, '%' :: a :: b :: rest => do
    let read := read ++ [← inBase? 16 [a, b]]
    match (String.fromUTF8? ⟨(read.map UInt8.ofNat).toArray⟩).map String.toList with
    | some [c] => return (c, rest)
    | _ => percentEncoded? count read rest
  | _, _, _ => none

/-- Resolves percent encoding. Every character takes one, so as many rounds as there are characters
    suffice. -/
def percentDecoded? : (rounds : Nat) → List Char → Option (List Char)
  | _, [] => some []
  | 0, _ => none
  | rounds + 1, c :: rest =>
    if c = '%' then do
      let (c, rest) ← percentEncoded? 4 [] (c :: rest)
      return c :: (← percentDecoded? rounds rest)
    else (percentDecoded? rounds rest).map (c :: ·)

/-- Takes characters of a tag. -/
def takeUri (test : Char → Bool) : Lex String := do
  let run ← takeWhile test
  return String.ofList (← percentDecoded? run.length run)

/-- Reads a handle: an exclamation mark, and a name with another one, or the name alone. -/
def takeHandle : Lex String := do
  refuseIf ((← here).head? != some '!')
  move (← here).step
  let name ← takeWhile isNameChar
  if (← here).head? = some '!' then
    move (← here).step
    return String.ofList ('!' :: name ++ ['!'])
  return String.ofList ('!' :: name)

def skipGapOnly : Lex Unit := do
  let c ← here
  move (c.advance c.gap.length)

/-- What a handle stands for. -/
def handleDirective : Lex Token := do
  skipGapOnly
  let name ← takeHandle
  refuseIf (1 < name.length && name.toList.getLast? != some '!')
  skipGapOnly
  let c ← here
  refuseIf !(c.head?.any fun x => x == '!' || isTagChar x)
  if c.head? = some '!' then move c.step
  let rest ← takeUri isUriChar
  refuseIf !(endsWord (← here).head?)
  return .handle name (if c.head? = some '!' then "!" ++ rest else rest)

def directive : Lex Unit := do
  closeBlocks (-1)
  dropKey
  allowKey false
  move (← here).step
  let name ← takeWhile isNameChar
  refuseIf (name.isEmpty || !endsWord (← here).head?)
  let t ←
    if name = "YAML".toList then
      skipGapOnly
      versionNumber
      refuseIf ((← here).head? != some '.')
      move (← here).step
      versionNumber
      pure .version
    else if name = "TAG".toList then handleDirective
    else
      move (← here).skipLine
      pure (.handle "" "")
  skipGap
  refuseIf !(endsLine (← here).head?)
  move (← here).lineBreak
  push t

/-- A marker of a document's start or end. -/
def marker (t : Token) : Lex Unit := do
  closeBlocks (-1)
  dropKey
  allowKey false
  move ((← here).pass 3)
  push t
  if t = .documentEnd then
    skipGap
    refuseIf !(endsLine (← here).head?)

/-! ## 10. Nodes -/

/-- Pushes an anchor, alias or tag. -/
def pushProperty (column : Nat) (t : Token) : Lex Unit := do
  push t
  modify fun l => { l with propertyAtMargin := column = 0 }

/-- May the character stand in the name of an anchor? -/
def isAnchorChar (c : Char) : Bool := !isBreak c && !isGap c && !isFlow c && c != '\ufeff'

def anchor (isAlias : Bool) : Lex Unit := do
  saveKey
  allowKey false
  let c ← here
  move c.step
  let name ← takeWhile isAnchorChar
  refuseIf name.isEmpty
  let name := String.ofList name
  if isAlias then push (.alias name) else pushProperty c.column (.anchor name)

/-- A tag: as it is between angle brackets, or short with a handle. -/
def tag : Lex Unit := do
  saveKey
  allowKey false
  let c ← here
  let (handle, suffix) ←
    if c.next? = some '<' then do
      move (c.pass 2)
      let suffix ← takeUri isUriChar
      refuseIf ((← here).head? != some '>')
      move (← here).step
      pure ("", suffix)
    else do
      let handle ← takeHandle
      let suffix ← takeUri isTagChar
      if 2 ≤ handle.length && handle.toList.getLast? = some '!' then
        refuseIf suffix.isEmpty
        pure (handle, suffix)
      else
        let suffix := String.ofList (handle.toList.drop 1) ++ suffix
        pure (if suffix.isEmpty then ("", "!") else ("!", suffix))
  let next := (← here).head?
  refuseIf !(endsWord next || ((← inFlow) && next.any isFlow))
  pushProperty c.column (.tag handle suffix)

/-- A text between quotes. After it only a colon or what ends an element may follow on its line. -/
def quotedScalar (isSingle : Bool) : Lex Unit := do
  saveKey
  allowKey false
  let l ← get
  let (text, c) ← quoted? isSingle l.indent l.here
  move c
  skipGap
  let c ← here
  let flow ← inFlow
  let mayFollow :=
    match c.head? with
    | none => true
    | some x =>
      isBreak x || (x == ':' && (flow || c.line = l.here.line)) ||
        (flow && (x == ',' || x == ']' || x == '\x7d'))
  refuseIf !mayFollow
  skipBlanks
  modify fun l => { l with adjacent := some l.here.index }
  push (.scalar false text)

def blockScalar (isLiteral : Bool) : Lex Unit := do
  saveKey
  allowKey true
  leaveNarrow
  let l ← get
  let (text, c) ← block? isLiteral l.indent l.here
  move c
  push (.scalar false text)

def plainScalar : Lex Unit := do
  saveKey
  allowKey false
  leaveNarrow
  let l ← get
  let (text, c) ← plain? (← inFlow) (l.indent + 1) l.here
  move c
  if c.isLeading then allowKey true
  push (.scalar true text)

/-! ## 11. Texts -/

/-- The end of the text closes all blocks. -/
def finish : Lex Unit := do
  let l ← get
  refuseIf (l.keys.any fun key => key.any fun key => key.isRequired)
  closeBlocks (-1)

/-- Reads one token; the flag says that the text goes on. -/
def next : Lex Bool := do
  skipBlanks
  dropStaleKeys
  closeBlocks (← column)
  let l ← get
  let c := l.here
  match c.head? with
  | none =>
    finish
    return false
  | some x =>
    let flow ← inFlow
    if c.column = 0 && x = '%' then directive
    else if c.isAtMarker "---" then marker .documentStart
    else if c.isAtMarker "..." then marker .documentEnd
    else
      refuseIf ((c.column : Int) < l.indent)
      if x = '[' then openBracket false
      else if x = '\x7b' then openBracket true
      else if x = ']' then closeBracket false
      else if x = '\x7d' then closeBracket true
      else if x = ',' then comma
      else if x = '-' && endsWord c.next? then dash
      else if x = '?' && endsWord c.next? then markedKey
      else if x = ':' && endsWord c.next? then colon
      else if x = ':' && flow && (c.next?.any isFlow || l.adjacent = some c.index) then
        refuseIf (l.adjacent != some c.index && (c.next? = some '[' || c.next? = some '\x7b'))
        colon
      else if x = '*' then anchor true
      else if x = '&' then anchor false
      else if x = '!' then tag
      else if x = '|' && !flow then blockScalar true
      else if x = '>' && !flow then blockScalar false
      else if x = '\'' then quotedScalar true
      else if x = '"' then quotedScalar false
      else
        refuseIf (x == '%' || x == '@' || x.toNat = 0x60)
        plainScalar
    return true

/-- Reads all tokens. Every token takes a character, so as many rounds as there are characters, and
    one for the end, suffice. -/
def all : (rounds : Nat) → Lex Unit
  | 0 => failure
  | rounds + 1 => do
    if ← next then all rounds

end Lex

/-- The tokens of a text, which ends at the first null character. -/
def Token.ofText? (text : String) : Option (List Token) := do
  let cs := text.toList.takeWhile (· != '\x00')
  let (_, l) ← Lex.all (cs.length + 1) (Lex.start cs)
  return l.tokens.toList

end Faceted.Settings.Yaml
