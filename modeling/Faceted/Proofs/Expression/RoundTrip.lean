import Faceted.Proofs.Expression.Words
import Mathlib.Data.List.DropRight

/-!
# Parsing inverts writing

What is written is read again as what it stands for, whatever phrase it is. There is one reader for each
looseness of operators, made of the next tighter one; the proof follows them.

* `Ends`: what may follow a phrase without becoming a part of it;
* `Reads`: a reader reads a text as a tree and stops where it ends. `Builds`: it reads the first operand
  of the text, and with the operators that follow comes to the tree. The first is for what is tighter
  than the operators, the second for what is as loose;
* `reads_bracketed`, `reads_call` and the lemmas of words: what holds together by itself;
  `Builds.binary`: operators;
* `Phrase.understood`: every phrase, by induction on it;
* **`parse_render`**: parsing inverts writing.
-/

namespace Faceted.Expression

/-! ## 1. Readers -/

/-- The operators of a looseness. -/
def operator? : (looseness : Nat) → Part Operator
  | 1 => multiplicativeOp?
  | 2 => additiveOp?
  | _ => comparisonOp?

/-- Reads what is no looser than said. -/
def reader (depth : Nat) : (looseness : Nat) → Part Node
  | 0 => factor? (expression? depth)
  | j + 1 => level (operator? (j + 1)) (reader depth j)

theorem expression?_succ (depth : Nat) : expression? (depth + 1) = reader depth 3 := rfl

theorem Operator.looseness_pos (o : Operator) : 0 < o.looseness := by cases o <;> decide

theorem Operator.looseness_le (o : Operator) : o.looseness ≤ 3 := by cases o <;> decide

/-- Operators are told from those of another looseness. -/
theorem operator?_symbol {j : Nat} (hpos : 0 < j) (hle : j ≤ 3) (o : Operator) (rest : List Char) :
    operator? j (o.symbol.toList ++ ' ' :: rest) =
      if j = o.looseness then some (o, ' ' :: rest) else none := by
  obtain rfl | rfl | rfl : j = 1 ∨ j = 2 ∨ j = 3 := by omega
  all_goals cases o <;> rfl

/-! ## 2. Ends -/

/-- Nothing at the start of the text becomes a part of a phrase before it that is no looser than
    said. -/
inductive Ends (looseness : Nat) : List Char → Prop
  | nil : Ends looseness []
  | close (rest : List Char) : Ends looseness (')' :: rest)
  | comma (rest : List Char) : Ends looseness (',' :: rest)
  | operator (o : Operator) (rest : List Char) (h : looseness < o.looseness) :
    Ends looseness (' ' :: (o.symbol.toList ++ ' ' :: rest))

/-- The text starts with something else than a blank. -/
def Starts (text : List Char) : Prop := ∃ c, text.head? = some c ∧ isSpace c = false

theorem Starts.skipSpaces_append {text : List Char} (h : Starts text) (rest : List Char) :
    skipSpaces (text ++ rest) = text ++ rest := by
  obtain ⟨c, hc, hspace⟩ := h
  cases text with
  | nil => cases hc
  | cons d text =>
    cases hc
    rw [List.cons_append, skipSpaces, List.dropWhile_cons_of_neg (by rw [hspace]; decide)]

theorem skipSpaces_length_le (cs : List Char) : (skipSpaces cs).length ≤ cs.length :=
  (List.dropWhile_suffix isSpace).length_le

theorem Operator.starts_symbol (o : Operator) : Starts o.symbol.toList := by
  cases o <;> exact ⟨_, rfl, by decide⟩

theorem skipSpaces_blank {text : List Char} (h : Starts text) (rest : List Char) :
    skipSpaces (' ' :: (text ++ rest)) = text ++ rest :=
  h.skipSpaces_append rest

namespace Ends

variable {i j : Nat} {rest : List Char}

theorem mono (h : Ends j rest) (hij : i ≤ j) : Ends i rest := by
  cases h with
  | nil => exact .nil
  | close rest => exact .close rest
  | comma rest => exact .comma rest
  | operator o rest h => exact .operator o rest (by omega)

theorem wordEnds (h : Ends j rest) : WordEnds rest := by
  rintro c hc
  cases h <;> cases hc <;> decide

/-- No operator follows that could join the phrase to what comes next. -/
theorem operator? (h : Ends j rest) (hpos : 0 < j) (hle : j ≤ 3) :
    Expression.operator? j (skipSpaces rest) = none := by
  obtain rfl | rfl | rfl : j = 1 ∨ j = 2 ∨ j = 3 := by omega
  all_goals
    cases h with
    | nil | close | comma => rfl
    | operator o rest h =>
      rw [skipSpaces_blank o.starts_symbol, operator?_symbol (by decide) (by decide),
        if_neg (by omega)]

/-- No arguments follow. -/
theorem callArguments? (h : Ends j rest) (expression : Part Node) :
    Expression.callArguments? expression rest = none := by
  cases h with
  | nil | close | comma => rfl
  | operator o rest h =>
    rw [Expression.callArguments?, skipSpaces_blank o.starts_symbol]
    cases o <;> rfl

end Ends

/-! ## 3. Operators one after the other -/

/-- With the left operand read and the text left, operators and their right operands lead to the tree
    and leave the rest, up to blanks. -/
inductive Joins (operator : Part Operator) (operand : Part Node) :
    Node → List Char → Node → List Char → Prop
  | stop {n : Node} {cs rest : List Char} (hnone : operator (skipSpaces cs) = none)
      (hrest : skipSpaces cs = skipSpaces rest) : Joins operator operand n cs n rest
  | step {left n right : Node} {o : Operator} {cs after more rest : List Char}
      (ho : operator (skipSpaces cs) = some (o, after))
      (hright : operand (skipSpaces after) = some (right, more))
      (hless : (skipSpaces more).length < (skipSpaces cs).length)
      (h : Joins operator operand (.binary o left right) more n rest) :
      Joins operator operand left cs n rest

namespace Joins

variable {operator : Part Operator} {operand : Part Node} {left n : Node} {cs rest : List Char}

/-- Blanks at the start make no difference. -/
theorem congr {cs' : List Char} (h : Joins operator operand left cs n rest)
    (hcs : skipSpaces cs' = skipSpaces cs) : Joins operator operand left cs' n rest := by
  cases h with
  | stop hnone hrest => exact .stop (hcs ▸ hnone) (hcs.trans hrest)
  | step ho hright hless h => exact .step (hcs ▸ ho) hright (hcs ▸ hless) h

/-- The loop goes through the operators, if it has a round for every character. -/
theorem operatorsWithin (h : Joins operator operand left cs n rest) {rounds : Nat}
    (hrounds : (skipSpaces cs).length ≤ rounds) :
    ∃ left', Expression.operatorsWithin operator operand rounds left cs = (n, left') ∧
      skipSpaces left' = skipSpaces rest := by
  induction h generalizing rounds with
  | @stop n cs rest hnone hrest =>
    refine ⟨cs, ?_, hrest⟩
    cases rounds with
    | zero => rfl
    | succ rounds => rw [Expression.operatorsWithin, hnone]
  | step ho hright hless _ ih =>
    cases rounds with
    | zero => omega
    | succ rounds =>
      rw [Expression.operatorsWithin, ho]
      simp only [hright]
      exact ih (by omega)

end Joins

/-! ## 4. Texts that are read as trees -/

/-- The text is read as the tree, whatever follows that does not become a part of it. Blanks that
    follow may be taken with it. -/
def Reads (depth j : Nat) (text : List Char) (n : Node) : Prop :=
  ∀ rest, Ends j rest → ∃ rest', reader depth j (text ++ rest) = some (n, rest') ∧
    skipSpaces rest' = skipSpaces rest

/-- The first operand is read at the start of the text, and whatever can be joined to the tree is
    reached from it: the operators of the text lead to the tree. -/
def Builds (depth j : Nat) (text : List Char) (n : Node) : Prop :=
  ∀ rest, Ends j rest → ∃ first rest', reader depth j (text ++ rest) = some (first, rest') ∧
    ∀ n' last, Joins (operator? (j + 1)) (reader depth j) n rest n' last →
      Joins (operator? (j + 1)) (reader depth j) first rest' n' last

variable {depth i j : Nat} {text : List Char} {n : Node}

/-- What is tighter than the operators is an operand. -/
theorem Reads.builds (h : Reads depth j text n) : Builds depth j text n := by
  intro rest hrest
  obtain ⟨rest', hread, hblanks⟩ := h rest hrest
  exact ⟨n, rest', hread, fun n' last hjoins => hjoins.congr hblanks⟩

/-- The reader of a level ends where no operator of the level follows. -/
theorem Builds.reads (h : Builds depth j text n) (hj : j < 3) : Reads depth (j + 1) text n := by
  intro rest hrest
  obtain ⟨first, rest', hread, hjoins⟩ := h rest (hrest.mono (Nat.le_succ j))
  have hstop := hjoins n rest (.stop (hrest.operator? (Nat.succ_pos j) hj) rfl)
  have hskipped : skipSpaces (skipSpaces rest') = skipSpaces rest' :=
    List.dropWhile_idempotent isSpace rest'
  obtain ⟨last, hloop, hlast⟩ := (hstop.congr hskipped).operatorsWithin (skipSpaces_length_le _)
  exact ⟨last, by rw [reader, level, hread]; exact congrArg some hloop, hlast⟩

/-- What is read as tight is also read as loose. -/
theorem Reads.looser (h : Reads depth i text n) (hij : i ≤ j) (hj : j ≤ 3) :
    Reads depth j text n := by
  induction j with
  | zero => exact Nat.le_zero.mp hij ▸ h
  | succ j ih =>
    by_cases heq : i = j + 1
    · exact heq ▸ h
    · exact (ih (by omega) (by omega)).builds.reads hj

/-- **Operators**: the left operand may have operators of the same level, the right one may not. -/
theorem Builds.binary {o : Operator} (ho : o.looseness = j + 1) {left right : List Char} {l r : Node}
    (hleft : Builds depth j left l) (hright : Reads depth j right r) (hstarts : Starts right) :
    Builds depth j (left ++ (' ' :: (o.symbol.toList ++ ' ' :: right))) (.binary o l r) := by
  intro rest hrest
  have hfollows : Ends j (' ' :: (o.symbol.toList ++ ' ' :: (right ++ rest))) :=
    .operator o _ (by omega)
  obtain ⟨first, rest', hread, hjoins⟩ := hleft _ hfollows
  obtain ⟨rest'', hoperand, hblanks⟩ := hright rest hrest
  refine ⟨first, rest', by simpa using hread, fun n' last hlast => hjoins n' last ?_⟩
  have hsymbol := operator?_symbol (Nat.succ_pos j) (ho.ge.trans o.looseness_le) o (right ++ rest)
  rw [if_pos ho.symm] at hsymbol
  have hskip := skipSpaces_blank o.starts_symbol (' ' :: (right ++ rest))
  refine .step (hskip ▸ hsymbol) ?_ ?_ (hlast.congr hblanks)
  · rw [skipSpaces_blank hstarts, hoperand]
  · have hle := skipSpaces_length_le rest
    rw [hblanks, hskip]
    simp only [List.length_append, List.length_cons]
    omega

/-! ## 5. What holds together by itself -/

theorem reads_number (literal : Literal) : Reads depth 0 literal.text.toList
    (.constant (formatNumber (parseFloat literal.text)) .number) := by
  intro rest hrest
  refine ⟨rest, ?_, rfl⟩
  have hnumber := number?_append literal hrest.wordEnds
  obtain ⟨d, more, hcs⟩ := List.exists_cons_of_ne_nil literal.isDigits.1
  have hdigit : d.isDigit = true := literal.isDigits.2 d (by rw [hcs]; exact List.mem_cons_self)
  have htext : literal.text.toList ++ rest = d :: (more ++ literal.tail.toList ++ rest) := by
    simp [Literal.text, hcs]
  have hread : numberNode? (literal.text.toList ++ rest) =
      some (.constant (formatNumber (parseFloat literal.text)) .number, rest) := by
    rw [numberNode?, hnumber]
    simp only [Option.map_some, String.ofList_toList]
  rw [htext] at hread ⊢
  rw [reader, factor?, if_pos hdigit, hread]

theorem reads_string (q : Quotation) :
    Reads depth 0 q.text.toList (.constant q.content .text) := by
  intro rest hrest
  refine ⟨rest, ?_, rfl⟩
  have hquote : q.quote ≠ '\\' := by
    rcases q.isQuote with h | h <;> rw [h] <;> decide
  have hdigit : ¬q.quote.isDigit = true := by
    rcases q.isQuote with h | h <;> rw [h] <;> decide
  have htext : q.text.toList ++ rest = q.quote :: (q.content.toList ++ q.quote :: rest) := by
    simp [Quotation.text]
  rw [htext, reader, factor?, if_neg hdigit, if_pos q.isQuote, stringNode?,
    quoted?_append hquote q.stands]
  simp only [Option.map_some, String.ofList_toList]

/-- What starts with a name is read as a path or a call. -/
theorem reader_identifier {name : String} (hname : IsIdentifier name) (rest : List Char) :
    reader depth 0 (name.toList ++ rest) =
      namedNode? (expression? depth) (name.toList ++ rest) := by
  obtain ⟨c, more, hcs⟩ := List.exists_cons_of_ne_nil hname.1.1
  have hc : isNameChar c = true := hname.1.2 c (by rw [hcs]; exact List.mem_cons_self)
  obtain ⟨-, hdigit⟩ := hname.2 c (by rw [hcs]; rfl)
  have hne (d : Char) (hd : isNameChar d = false) : c ≠ d := by
    rintro rfl
    rw [hc] at hd
    cases hd
  rw [hcs, List.cons_append, reader, factor?, if_neg (by simp [hdigit]),
    if_neg (by simp [hne '"', hne '\'', isNameChar, isReserved]),
    if_neg (by simp [hne '.', hne '!', isNameChar, isReserved]),
    if_neg (hne '(' (by decide))]

/-- No arguments stand where hops may stand. -/
theorem callArguments?_hops (hs : List Hop) {rest : List Char} (hrest : Ends j rest)
    (expression : Part Node) :
    callArguments? expression ((String.join (hs.map Hop.render)).toList ++ rest) = none := by
  cases hs with
  | nil => exact hrest.callArguments? expression
  | cons h hs =>
    rw [List.map_cons, String.join_cons, String.toList_append, Hop.toList_render]
    cases h.forward <;> rfl

theorem reads_path (route : Route) :
    Reads depth 0 route.path.render.toList (.path route.path) := by
  intro rest hrest
  refine ⟨rest, ?_, rfl⟩
  have hhops := hops_append route.properties hrest.wordEnds
  obtain ⟨⟨root, hs⟩, hroot, hproperties, hleads⟩ := route
  rw [Path.render, String.toList_append, List.append_assoc]
  cases root with
  | none =>
    rw [Option.getD_none, String.toList_empty, List.nil_append]
    obtain ⟨h, more, rfl⟩ := List.exists_cons_of_ne_nil (hleads rfl)
    have hread : pathNode? ((String.join ((h :: more).map Hop.render)).toList ++ rest) =
        some (.path ⟨none, h :: more⟩, rest) := by
      rw [pathNode?, hhops]
    rw [List.map_cons, String.join_cons, String.toList_append, Hop.toList_render] at hread ⊢
    rw [← hread]
    cases h.forward <;> rfl
  | some name =>
    have hends : NameEnds ((String.join (hs.map Hop.render)).toList ++ rest) := by
      intro c hc
      rcases head?_hops hs hrest.wordEnds hc with rfl | rfl | rfl | rfl | rfl <;> decide
    rw [Option.getD_some, reader_identifier (hroot name rfl), namedNode?,
      identifier?_append (hroot name rfl) hends]
    simp only [callArguments?_hops hs hrest, hhops]

/-- A phrase in parentheses. -/
theorem reads_bracketed (h : Reads depth 3 text n) (hstarts : Starts text) :
    Reads (depth + 1) 0 ('(' :: (text ++ [')'])) n := by
  intro rest hrest
  obtain ⟨rest', hread, hblanks⟩ := h (')' :: rest) (.close rest)
  refine ⟨rest, ?_, rfl⟩
  have hfactor : reader (depth + 1) 0 ('(' :: (text ++ [')']) ++ rest) =
      parenthesized? (expression? (depth + 1)) ('(' :: (text ++ ')' :: rest)) := by
    rw [List.cons_append, List.append_assoc]
    rfl
  have hclose : skipSpaces (')' :: rest) = ')' :: rest := rfl
  rw [hfactor, parenthesized?, hstarts.skipSpaces_append, expression?_succ, hread]
  simp only [hblanks, hclose]

/-! ## 6. Arguments -/

theorem renderMore_cons (p : Phrase) (ps : List Phrase) (rest : List Char) :
    (Phrase.renderMore (p :: ps)).toList ++ rest =
      ',' :: ' ' :: (p.render.toList ++ ((Phrase.renderMore ps).toList ++ rest)) := by
  simp [Phrase.renderMore]

theorem ends_renderMore (ps : List Phrase) (rest : List Char) :
    Ends j ((Phrase.renderMore ps).toList ++ ')' :: rest) := by
  cases ps with
  | nil => exact .close rest
  | cons p ps =>
    rw [renderMore_cons]
    exact .comma _

theorem skipSpaces_renderMore (ps : List Phrase) (rest : List Char) :
    skipSpaces ((Phrase.renderMore ps).toList ++ ')' :: rest) =
      (Phrase.renderMore ps).toList ++ ')' :: rest := by
  cases ps with
  | nil => rfl
  | cons p ps =>
    rw [renderMore_cons]
    rfl

theorem commasWithin_renderMore {ps : List Phrase} {rest : List Char}
    (hreads : ∀ p ∈ ps, Reads depth 3 p.render.toList p.toNode)
    (hstarts : ∀ p ∈ ps, Starts p.render.toList) {rounds : Nat} {cs : List Char}
    (hrounds : ps.length ≤ rounds)
    (hcs : skipSpaces cs = (Phrase.renderMore ps).toList ++ ')' :: rest) :
    ∃ rest', commasWithin (expression? (depth + 1)) rounds cs = (Phrase.toNodes ps, rest') ∧
      skipSpaces rest' = ')' :: rest := by
  induction ps generalizing rounds cs with
  | nil =>
    refine ⟨cs, ?_, hcs⟩
    cases rounds with
    | zero => rfl
    | succ rounds =>
      rw [commasWithin, hcs]
      rfl
  | cons p ps ih =>
    obtain ⟨hread, hreads⟩ := List.forall_mem_cons.mp hreads
    obtain ⟨hstart, hstarts⟩ := List.forall_mem_cons.mp hstarts
    cases rounds with
    | zero => cases hrounds
    | succ rounds =>
      obtain ⟨rest', helement, hblanks⟩ := hread _ (ends_renderMore ps rest)
      obtain ⟨last, hmore, hlast⟩ := ih hreads hstarts (Nat.le_of_succ_le_succ hrounds)
        (hblanks.trans (skipSpaces_renderMore ps rest))
      refine ⟨last, ?_, hlast⟩
      rw [commasWithin, hcs, renderMore_cons]
      simp only [skipSpaces_blank hstart, expression?_succ, helement]
      rw [expression?_succ] at hmore
      simp only [hmore, Phrase.toNodes]

theorem length_le_renderMore (ps : List Phrase) :
    ps.length ≤ (Phrase.renderMore ps).toList.length := by
  induction ps with
  | nil => exact Nat.zero_le _
  | cons p ps ih =>
    simp only [Phrase.renderMore, String.toList_append, List.length_append, List.length_cons]
    have hcomma : ", ".toList.length = 2 := rfl
    omega

/-- Nothing starts with a closing parenthesis. -/
theorem expression?_close (depth : Nat) (rest : List Char) :
    expression? depth (')' :: rest) = none := by
  cases depth <;> rfl

/-- The arguments up to the closing parenthesis; without any, nothing is read. -/
theorem commaSeparated_renderAll {ps : List Phrase} (rest : List Char)
    (hreads : ∀ p ∈ ps, Reads depth 3 p.render.toList p.toNode)
    (hstarts : ∀ p ∈ ps, Starts p.render.toList) :
    ∃ rest', (commaSeparated (expression? (depth + 1))
        ((Phrase.renderAll ps).toList ++ ')' :: rest)).getD
          ([], (Phrase.renderAll ps).toList ++ ')' :: rest) = (Phrase.toNodes ps, rest') ∧
      skipSpaces rest' = ')' :: rest := by
  cases ps with
  | nil =>
    refine ⟨')' :: rest, ?_, rfl⟩
    rw [Phrase.renderAll, String.toList_empty, List.nil_append, commaSeparated, expression?_close]
    rfl
  | cons p ps =>
    obtain ⟨hread, hreads⟩ := List.forall_mem_cons.mp hreads
    obtain ⟨-, hstarts⟩ := List.forall_mem_cons.mp hstarts
    obtain ⟨rest', helement, hblanks⟩ := hread _ (ends_renderMore ps rest)
    have hskip := hblanks.trans (skipSpaces_renderMore ps rest)
    have hrounds : ps.length ≤ (skipSpaces rest').length := by
      rw [hskip, List.length_append]
      exact (length_le_renderMore ps).trans (Nat.le_add_right _ _)
    obtain ⟨last, hmore, hlast⟩ := commasWithin_renderMore hreads hstarts hrounds
      ((congrArg skipSpaces hskip).trans (skipSpaces_renderMore ps rest))
    refine ⟨last, ?_, hlast⟩
    rw [Phrase.renderAll, String.toList_append, List.append_assoc, commaSeparated,
      expression?_succ, helement]
    rw [expression?_succ] at hmore
    simp only [hmore, Option.getD_some, Phrase.toNodes]

theorem starts_renderAll {ps : List Phrase} (hstarts : ∀ p ∈ ps, Starts p.render.toList)
    (rest : List Char) : Starts ((Phrase.renderAll ps).toList ++ ')' :: rest) := by
  cases ps with
  | nil => exact ⟨')', rfl, rfl⟩
  | cons p ps =>
    obtain ⟨c, hc, hspace⟩ := hstarts p List.mem_cons_self
    refine ⟨c, ?_, hspace⟩
    rw [Phrase.renderAll, String.toList_append, List.append_assoc, List.head?_append, hc]
    rfl

theorem reads_call {name : Identifier} {ps : List Phrase}
    (hreads : ∀ p ∈ ps, Reads depth 3 p.render.toList p.toNode)
    (hstarts : ∀ p ∈ ps, Starts p.render.toList) :
    Reads (depth + 1) 0 (Phrase.call name ps).render.toList (Phrase.call name ps).toNode := by
  intro rest hrest
  refine ⟨rest, ?_, rfl⟩
  obtain ⟨rest', harguments, hblanks⟩ := commaSeparated_renderAll rest hreads hstarts
  have htext : (Phrase.call name ps).render.toList ++ rest =
      name.text.toList ++ '(' :: ((Phrase.renderAll ps).toList ++ ')' :: rest) := by
    simp [Phrase.render]
  have hopen : NameEnds ('(' :: ((Phrase.renderAll ps).toList ++ ')' :: rest)) := by
    rintro c ⟨⟩
    decide
  have hcall : callArguments? (expression? (depth + 1))
      ('(' :: ((Phrase.renderAll ps).toList ++ ')' :: rest)) = some (Phrase.toNodes ps, rest) := by
    have hskip (more : List Char) : skipSpaces ('(' :: more) = '(' :: more := rfl
    have hinside : skipSpaces ((Phrase.renderAll ps).toList ++ ')' :: rest) =
        (Phrase.renderAll ps).toList ++ ')' :: rest := by
      simpa using (starts_renderAll hstarts rest).skipSpaces_append []
    rw [callArguments?, hskip]
    simp only [hinside, harguments, hblanks]
  rw [htext, reader_identifier name.isIdentifier, namedNode?,
    identifier?_append name.isIdentifier hopen]
  simp only [hcall, Phrase.toNode]

/-! ## 7. How phrases start -/

theorem isSpace_iff {c : Char} : isSpace c = true ↔ c = ' ' ∨ c = '\t' ∨ c = '\r' ∨ c = '\n' := by
  simp [isSpace, or_assoc]

theorem isSpace_of_isDigit {c : Char} (h : c.isDigit = true) : isSpace c = false := by
  rw [Bool.eq_false_iff, Ne, isSpace_iff]
  rintro (rfl | rfl | rfl | rfl) <;> exact absurd h (by decide)

theorem isSpace_of_isNameChar {c : Char} (h : isNameChar c = true) : isSpace c = false := by
  rw [Bool.eq_false_iff, Ne, isSpace_iff]
  rintro (rfl | rfl | rfl | rfl) <;> exact absurd h (by decide)

theorem starts_append {text more : String} (h : Starts text.toList) :
    Starts (text ++ more).toList := by
  obtain ⟨c, hc, hspace⟩ := h
  exact ⟨c, by rw [String.toList_append, List.head?_append, hc]; rfl, hspace⟩

theorem starts_of_forall {text : String} {p : Char → Bool} (hne : text.toList ≠ [])
    (hp : ∀ c ∈ text.toList, p c = true) (hspace : ∀ c, p c = true → isSpace c = false) :
    Starts text.toList := by
  obtain ⟨c, more, hcs⟩ := List.exists_cons_of_ne_nil hne
  exact ⟨c, by rw [hcs]; rfl, hspace c (hp c (by rw [hcs]; exact List.mem_cons_self))⟩

theorem Identifier.starts (name : Identifier) : Starts name.text.toList :=
  starts_of_forall name.isIdentifier.1.1 name.isIdentifier.1.2 fun _ => isSpace_of_isNameChar

theorem Literal.starts (literal : Literal) : Starts literal.text.toList :=
  starts_append (starts_of_forall literal.isDigits.1 literal.isDigits.2 fun _ => isSpace_of_isDigit)

theorem Quotation.starts (q : Quotation) : Starts q.text.toList := by
  refine ⟨q.quote, by simp [Quotation.text], ?_⟩
  rcases q.isQuote with h | h <;> rw [h] <;> rfl

theorem Route.starts (route : Route) : Starts route.path.render.toList := by
  obtain ⟨⟨root, hs⟩, hroot, hproperties, hleads⟩ := route
  cases root with
  | some name => exact starts_append (Identifier.starts ⟨name, hroot name rfl⟩)
  | none =>
    obtain ⟨h, more, rfl⟩ := List.exists_cons_of_ne_nil (hleads rfl)
    have hhead : (Path.render ⟨none, h :: more⟩).toList.head? =
        some (if h.forward then '.' else '!') := by
      rw [Path.render, String.toList_append, Option.getD_none, String.toList_empty, List.nil_append,
        List.map_cons, String.join_cons, String.toList_append, Hop.toList_render]
      rfl
    exact ⟨_, hhead, by cases h.forward <;> rfl⟩

namespace Phrase

theorem starts_bracketed {condition : Bool} {text : String} (h : Starts text.toList) :
    Starts (bracketed condition text).toList := by
  cases condition
  · exact h
  · exact ⟨'(', by simp [bracketed], rfl⟩

/-- No phrase starts with a blank. -/
theorem starts : (p : Phrase) → Starts p.render.toList
  | number literal => literal.starts
  | string quotation => quotation.starts
  | path route => route.starts
  | call name _ => starts_append (starts_append (starts_append name.starts))
  | binary _ left _ => starts_append (starts_append (starts_bracketed left.starts))

/-! ## 8. All phrases -/

/-- The phrase is read as its tree by the reader for its own looseness. -/
def Understood (depth : Nat) (p : Phrase) : Prop :=
  match p.looseness with
  | 0 => Reads depth 0 p.render.toList p.toNode
  | j + 1 => Builds depth j p.render.toList p.toNode

theorem looseness_le (p : Phrase) : p.looseness ≤ 3 := by
  cases p with
  | binary o left right => exact o.looseness_le
  | _ => exact Nat.zero_le 3

variable {depth j : Nat} {p : Phrase}

theorem Understood.reads (h : p.Understood depth) (hle : p.looseness ≤ j) (hj : j ≤ 3) :
    Reads depth j p.render.toList p.toNode := by
  unfold Understood at h
  generalize p.looseness = i at h hle
  cases i with
  | zero => exact Reads.looser h hle hj
  | succ i => exact (Builds.reads h (by omega)).looser hle hj

/-- How much longer a text gets by parentheses. -/
theorem length_bracketed (condition : Bool) (text : String) :
    (bracketed condition text).toList.length = text.toList.length + if condition then 2 else 0 := by
  cases condition
  · rfl
  · simp [bracketed]

/-- An operand: in parentheses if it is looser than said. -/
theorem reads_operand (h : ∀ depth, p.render.toList.length ≤ depth → p.Understood depth)
    (hj : j ≤ 3)
    (hdepth : (bracketed (j < p.looseness) p.render).toList.length ≤ depth) :
    Reads depth j (bracketed (j < p.looseness) p.render).toList p.toNode := by
  rw [length_bracketed] at hdepth
  by_cases hloose : j < p.looseness
  · simp only [hloose, decide_true, if_true] at hdepth ⊢
    obtain ⟨depth, rfl⟩ : ∃ inner, depth = inner + 1 := ⟨depth - 1, by omega⟩
    have hinside := (h depth (by omega)).reads p.looseness_le le_rfl
    have hbracketed := (reads_bracketed hinside p.starts).looser (Nat.zero_le j) hj
    simpa [bracketed] using hbracketed
  · simp only [hloose, decide_false, Bool.false_eq_true, if_false] at hdepth ⊢
    exact (h depth hdepth).reads (by omega) hj

/-- A left operand: what is as loose as the operator needs no parentheses. -/
theorem builds_operand (h : ∀ depth, p.render.toList.length ≤ depth → p.Understood depth)
    (hj : j < 3)
    (hdepth : (bracketed (j + 1 < p.looseness) p.render).toList.length ≤ depth) :
    Builds depth j (bracketed (j + 1 < p.looseness) p.render).toList p.toNode := by
  by_cases heq : p.looseness = j + 1
  · rw [length_bracketed] at hdepth
    simp only [heq, lt_irrefl, decide_false, Bool.false_eq_true, if_false] at hdepth ⊢
    have hbuilds := h depth hdepth
    rw [Understood, heq] at hbuilds
    exact hbuilds
  · have hiff : (j + 1 < p.looseness) = (j < p.looseness) := propext (by omega)
    simp only [hiff] at hdepth ⊢
    exact (reads_operand h (by omega) hdepth).builds

/-- Arguments take no more room when they follow others. -/
theorem length_renderMore_le (ps : List Phrase) :
    (renderMore ps).toList.length ≤ (renderAll ps).toList.length + 2 := by
  cases ps with
  | nil => exact Nat.zero_le _
  | cons p ps =>
    have hcomma : ", ".toList.length = 2 := rfl
    simp only [renderMore, renderAll, String.toList_append, List.length_append]
    omega

theorem understood_call {name : Identifier} {arguments : List Phrase}
    (h : ∀ depth, (renderMore arguments).toList.length ≤ depth →
      ∀ p ∈ arguments, p.Understood depth)
    (hdepth : (call name arguments).render.toList.length ≤ depth) :
    (call name arguments).Understood depth := by
  have hname := List.length_pos_of_ne_nil name.isIdentifier.1.1
  have hlength := length_renderMore_le arguments
  simp only [render, String.toList_append, List.length_append] at hdepth
  have hparentheses : "(".toList.length = 1 ∧ ")".toList.length = 1 := ⟨rfl, rfl⟩
  obtain ⟨depth, rfl⟩ : ∃ inner, depth = inner + 1 := ⟨depth - 1, by omega⟩
  have hunderstood := h depth (by omega)
  exact reads_call (fun p hp => (hunderstood p hp).reads p.looseness_le le_rfl)
    fun p _ => p.starts

theorem understood_binary {o : Operator} {left right : Phrase}
    (hleft : ∀ depth, left.render.toList.length ≤ depth → left.Understood depth)
    (hright : ∀ depth, right.render.toList.length ≤ depth → right.Understood depth)
    (hdepth : (binary o left right).render.toList.length ≤ depth) :
    (binary o left right).Understood depth := by
  have hpos := o.looseness_pos
  have hle := o.looseness_le
  obtain ⟨j, hj⟩ : ∃ j, o.looseness = j + 1 := ⟨o.looseness - 1, by omega⟩
  rw [render, hj] at hdepth
  simp only [String.toList_append, List.length_append] at hdepth
  have hdepthLeft : (bracketed (j + 1 < left.looseness) left.render).toList.length ≤ depth := by
    omega
  have hdepthRight : (bracketed (j + 1 ≤ right.looseness) right.render).toList.length ≤ depth := by
    omega
  have hreads : Reads depth j (bracketed (j + 1 ≤ right.looseness) right.render).toList
      right.toNode := reads_operand hright (by omega) hdepthRight
  have hbinary := Builds.binary hj (builds_operand hleft (by omega) hdepthLeft) hreads
    (starts_bracketed right.starts)
  unfold Understood
  simp only [looseness, hj]
  rw [render, hj, toNode]
  simpa using hbinary

mutual

/-- **Every phrase is understood**, within a depth of its length. -/
theorem understood : (p : Phrase) → (depth : Nat) → p.render.toList.length ≤ depth →
    p.Understood depth
  | number literal, _, _ => reads_number literal
  | string quotation, _, _ => reads_string quotation
  | path route, _, _ => reads_path route
  | call _ arguments, _, hdepth => understood_call (understoodAll arguments) hdepth
  | binary _ left right, _, hdepth =>
    understood_binary left.understood right.understood hdepth

theorem understoodAll : (ps : List Phrase) → (depth : Nat) →
    (renderMore ps).toList.length ≤ depth → ∀ p ∈ ps, p.Understood depth
  | [], _, _ => fun _ hp => absurd hp List.not_mem_nil
  | p :: ps, depth, hdepth => by
    simp only [renderMore, String.toList_append, List.length_append] at hdepth
    exact List.forall_mem_cons.mpr
      ⟨p.understood depth (by omega), understoodAll ps depth (by omega)⟩

end

end Phrase

/-- **Parsing inverts writing**: the text of a phrase is an expression, and its tree is what the phrase
    stands for. -/
theorem parse_render (p : Phrase) :
    ∃ e, parse p.render = .ok e ∧ e.root = p.toNode := by
  have hunderstood := p.understood p.render.toList.length le_rfl
  obtain ⟨rest, hread, hrest⟩ := hunderstood.reads p.looseness_le le_rfl [] .nil
  have hblank := p.starts.skipSpaces_append []
  rw [List.append_nil] at hread hblank
  have hparse : parseChars? p.render.toList =
      some ⟨String.ofList (p.render.toList.take (p.render.toList.length - rest.length)), p.toNode⟩ := by
    rw [parseChars?, hblank, sourced, depthOf, expression?_succ, hread]
    simp only [Option.map_some, hrest]
    rfl
  exact ⟨_, by rw [parse, hparse], rfl⟩

end Faceted.Expression
