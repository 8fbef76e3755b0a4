import Faceted.Expression.Tree

/-!
# The words of the expression language

Characters stand in names unless they have a job in the grammar (`isNameChar`). This file reads the
words that expressions are made of from the start of a text: names, numbers, strings, hops and
operators. Every reader returns what follows the word.

The main small lemma is `span_append`: a word of name characters is read to its end whatever follows,
if what follows does not start with a name character.
-/

namespace Faceted.Expression

/-! ## 1. Characters -/

/-- The blanks of the language. -/
def isSpace (c : Char) : Bool := c == ' ' || c == '\t' || c == '\r' || c == '\n'

/-- The characters with a job in the grammar. -/
def isReserved (c : Char) : Bool :=
  c == '(' || c == ')' || c == ',' || c == '.' || c == '!' || c == '@' || c == '\x7b' ||
    c == '\x7d' || c == '"' || c == '\'' || isSpace c || c == '+' || c == '*' || c == '/' ||
    c == '=' || c == '<' || c == '>'

/-- May the character stand in a name? -/
def isNameChar (c : Char) : Bool := !isReserved c

def skipSpaces (cs : List Char) : List Char := cs.dropWhile isSpace

/-! ## 2. Names -/

/-- The longest start of the text whose characters pass the test, and the rest. -/
def span (p : Char → Bool) (cs : List Char) : List Char × List Char :=
  (cs.takeWhile p, cs.dropWhile p)

theorem span_append {p : Char → Bool} {word rest : List Char} (hword : ∀ c ∈ word, p c = true)
    (hrest : ∀ c, rest.head? = some c → p c = false) : span p (word ++ rest) = (word, rest) := by
  induction word with
  | nil =>
    cases rest with
    | nil => rfl
    | cons c rest => simp [span, hrest c rfl]
  | cons c word ih =>
    have hc := hword c List.mem_cons_self
    have := ih fun d hd => hword d (List.mem_cons_of_mem _ hd)
    simp only [span, Prod.mk.injEq] at this
    simp [span, hc, this]

/-- The name of a property: one name character or more. -/
def property? (cs : List Char) : Option (String × List Char) :=
  match span isNameChar cs with
  | ([], _) => none
  | (word, rest) => some (String.ofList word, rest)

/-- The name of a variable or a function: as a property, but it starts neither with a digit nor with
    a minus sign. -/
def identifier? (cs : List Char) : Option (String × List Char) :=
  match cs with
  | c :: _ => if c = '-' ∨ c.isDigit then none else property? cs
  | [] => none

/-! ## 3. Constants -/

/-- A number: digits, and perhaps a point and digits after it. -/
def number? (cs : List Char) : Option (List Char × List Char) :=
  match span Char.isDigit cs with
  | ([], _) => none
  | (whole, '.' :: rest) =>
    let (fraction, rest) := span Char.isDigit rest
    some (whole ++ '.' :: fraction, rest)
  | (whole, rest) => some (whole, rest)

/-- The text up to the quote, which a backslash protects together with any other character. -/
def quoted? (quote : Char) : List Char → Option (List Char × List Char)
  | [] => none
  | '\\' :: c :: rest => (quoted? quote rest).map fun (s, rest) => ('\\' :: c :: s, rest)
  | c :: rest =>
    if c = quote then some ([], rest) else (quoted? quote rest).map fun (s, rest) => (c :: s, rest)

/-! ## 4. Hops -/

/-- The mark of a hop: its direction and whether it is an array hop. -/
def hopMark? : List Char → Option (Bool × Bool × List Char)
  | '.' :: '@' :: rest => some (true, true, rest)
  | '!' :: '@' :: rest => some (false, true, rest)
  | '.' :: rest => some (true, false, rest)
  | '!' :: rest => some (false, false, rest)
  | _ => none

/-- Braces after a property also mark an array hop. -/
def arrayMark : List Char → Bool × List Char
  | '\x7b' :: '\x7d' :: rest => (true, rest)
  | rest => (false, rest)

def hop? (cs : List Char) : Option (Hop × List Char) :=
  match hopMark? cs with
  | none => none
  | some (forward, marked, rest) =>
    match property? rest with
    | none => none
    | some (property, rest) =>
      let (braced, rest) := arrayMark rest
      some (⟨property, forward, marked || braced⟩, rest)

/-- Reads hops as long as there are any; every hop takes a character, so `rounds` need not exceed the
    length of the text. -/
def hopsWithin : (rounds : Nat) → List Char → List Hop × List Char
  | 0, cs => ([], cs)
  | rounds + 1, cs =>
    match hop? cs with
    | none => ([], cs)
    | some (h, rest) =>
      let (hs, rest) := hopsWithin rounds rest
      (h :: hs, rest)

def hops (cs : List Char) : List Hop × List Char := hopsWithin cs.length cs

/-! ## 5. Operators -/

def comparisonOp? : List Char → Option (Operator × List Char)
  | '<' :: '>' :: rest => some (.notEqual, rest)
  | '<' :: '=' :: rest => some (.lessOrEqual, rest)
  | '>' :: '=' :: rest => some (.greaterOrEqual, rest)
  | '=' :: rest => some (.equal, rest)
  | '<' :: rest => some (.less, rest)
  | '>' :: rest => some (.greater, rest)
  | _ => none

def additiveOp? : List Char → Option (Operator × List Char)
  | '+' :: rest => some (.add, rest)
  | '-' :: rest => some (.subtract, rest)
  | _ => none

def multiplicativeOp? : List Char → Option (Operator × List Char)
  | '*' :: rest => some (.multiply, rest)
  | '/' :: rest => some (.divide, rest)
  | _ => none

end Faceted.Expression
