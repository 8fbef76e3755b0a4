import Faceted.Proofs.Expression.Parts
import Faceted.Proofs.Expression.RoundTrip

/-!
# Expressions in texts that go on

A word ends before what cannot belong to it, an operand before an operator that is looser, an argument
before a comma. So the readers of the language track texts that go on, each up to what stops it. For
every part of the grammar it is shown first that its reader is made of smaller ones, and then that these
fit.

* `Stops`: what ends a part that is no looser than said;
* `tracks_number`, `tracks_quoted`, `tracks_hops`, `tracks_operator`: the words;
* `tracks_level`, `tracks_callArguments`, `tracks_factor`: what is made of expressions that track shorter
  texts;
* **`tracks_expression`**: expressions, by induction on the length of the text.
-/

namespace Faceted.Expression

/-! ## 1. What stops a reader -/

/-- The text starts with such a character. -/
def StartsWith (P : Char → Prop) (cs : List Char) : Prop := ∃ c, cs.head? = some c ∧ P c

namespace StartsWith

variable {P Q : Char → Prop} {cs : List Char}

theorem imp (h : StartsWith P cs) (hPQ : ∀ c, P c → Q c) : StartsWith Q cs := by
  obtain ⟨c, hc, hP⟩ := h
  exact ⟨c, hc, hPQ c hP⟩

theorem ne_nil (h : StartsWith P cs) : cs ≠ [] := by
  rintro rfl
  obtain ⟨c, ⟨⟩, -⟩ := h

theorem both (h : StartsWith P cs) (h' : StartsWith Q cs) : ∃ c, P c ∧ Q c := by
  obtain ⟨c, hc, hP⟩ := h
  obtain ⟨d, hd, hQ⟩ := h'
  cases hc.symm.trans hd
  exact ⟨c, hP, hQ⟩

theorem append (h : StartsWith P cs) (more : List Char) : StartsWith P (cs ++ more) := by
  obtain ⟨c, hc, hP⟩ := h
  exact ⟨c, by rw [List.head?_append, hc]; rfl, hP⟩

end StartsWith

/-- Does the character stop a reader of what is no looser than said? It closes parentheses, separates
    arguments or begins a looser operator. -/
def closes (looseness : Nat) (c : Char) : Bool :=
  c == ')' || c == ',' || (looseness < 3 && (c == '=' || c == '<' || c == '>')) ||
    (looseness < 2 && (c == '+' || c == '-')) || (looseness < 1 && (c == '*' || c == '/'))

theorem closes_mono {i j : Nat} (hij : i ≤ j) {c : Char} (h : closes j c = true) :
    closes i c = true := by
  simp only [closes, Bool.or_eq_true, Bool.and_eq_true, decide_eq_true_iff] at h ⊢
  grind

/-- Behind blanks there is what stops the reader. -/
def Stops (looseness : Nat) (cs : List Char) : Prop :=
  StartsWith (fun c => closes looseness c = true) (skipSpaces cs)

namespace Stops

variable {i j : Nat} {cs : List Char}

theorem mono (h : Stops j cs) (hij : i ≤ j) : Stops i cs := h.imp fun _ => closes_mono hij

theorem of_skipSpaces (h : Stops j (skipSpaces cs)) : Stops j cs := by
  rwa [Stops, show skipSpaces (skipSpaces cs) = skipSpaces cs from
    List.dropWhile_idempotent isSpace cs] at h

theorem not_nil : ¬ Stops j [] := fun h => h.ne_nil rfl

/-- The text itself starts with a blank, or with what stops the reader. -/
theorem startsWith (h : Stops j cs) :
    StartsWith (fun c => isSpace c = true ∨ closes j c = true) cs := by
  cases cs with
  | nil => exact absurd h not_nil
  | cons c cs =>
    refine ⟨c, rfl, ?_⟩
    by_cases hc : isSpace c = true
    · exact .inl hc
    · obtain ⟨d, hd, hcloses⟩ := h
      rw [skipSpaces, List.dropWhile_cons_of_neg hc] at hd
      cases hd
      exact .inr hcloses

end Stops

theorem skipSpaces_append {cs : List Char} (h : skipSpaces cs ≠ []) (more : List Char) :
    skipSpaces (cs ++ more) = skipSpaces cs ++ more := by
  have hne : ¬ (cs.dropWhile isSpace).isEmpty = true := fun hnil => h (List.isEmpty_iff.mp hnil)
  rw [skipSpaces, List.dropWhile_append, if_neg hne]
  rfl

/-! ## 2. Words -/

section Words

variable {n : Nat}

theorem property?_eq : property? = mapped String.ofList (word isNameChar) := by
  funext cs
  unfold property? mapped word
  cases span isNameChar cs with
  | mk w rest => cases w <;> rfl

theorem tracks_property : Tracks n 1 (· ≠ []) property? property? := by
  rw [property?_eq]
  exact (tracks_word isNameChar).mapped _

theorem identifier?_eq :
    identifier? = headed fun c => if c = '-' ∨ c.isDigit then refuse else property? := by
  funext cs
  cases cs with
  | nil => rfl
  | cons c cs =>
    show (if c = '-' ∨ c.isDigit then none else property? (c :: cs)) =
      (if c = '-' ∨ c.isDigit then refuse else property?) (c :: cs)
    split_ifs <;> rfl

theorem tracks_identifier : Tracks n 1 (· ≠ []) identifier? identifier? := by
  rw [identifier?_eq]
  refine Tracks.headed fun c => ?_
  split
  · exact tracks_refuse
  · exact tracks_property

/-- A point and digits, if only none. -/
def fraction (whole : List Char) : Part (List Char) :=
  alternatively
    (andThen (letter '.') fun _ => mapped (fun digits => whole ++ '.' :: digits) (run Char.isDigit))
    (give whole)

theorem number?_eq : number? = andThen (word Char.isDigit) fraction := by
  funext cs
  unfold number? andThen word
  cases span Char.isDigit cs with
  | mk w rest =>
    cases w with
    | nil => rfl
    | cons d w =>
      cases rest with
      | nil => rfl
      | cons c rest =>
        by_cases hc : c = '.'
        · subst hc
          rfl
        · simp [hc, fraction, alternatively, andThen, letter, give]

theorem tracks_fraction (whole : List Char) :
    Tracks n 0 (· ≠ []) (fraction whole) (fraction whole) := by
  have hpoint := ((tracks_run Char.isDigit).mapped fun digits => whole ++ '.' :: digits).afterLetter '.'
    (Nat.le_succ n)
  refine hpoint.orGive whole fun cs more hnone hne => ?_
  obtain ⟨c, cs, rfl⟩ := List.exists_cons_of_ne_nil hne
  refine andThen_letter_of_ne _ fun rest hpoint => ?_
  cases hpoint
  cases hnone

theorem tracks_number : Tracks n 1 (· ≠ []) number? number? := by
  rw [number?_eq]
  exact .andThen (Nat.le_succ n) (tracks_word Char.isDigit) tracks_fraction
    (.of_total (fun h => h rfl) (fun w => (tracks_fraction w).takes) (fun w => (tracks_fraction w).takes)
      fun w r => exists_alternatively ⟨w, r, rfl⟩)

theorem quoted?_iff {q : Char} (hq : q ≠ '\\') {cs w rest : List Char} :
    quoted? q cs = some (w, rest) ↔ cs = w ++ q :: rest ∧ standsBetween q w = true := by
  refine ⟨fun h => ?_, fun ⟨htext, hw⟩ => htext ▸ quoted?_append hq hw⟩
  fun_induction quoted? q cs generalizing w with
  | case1 => cases h
  | case2 c cs ih =>
    obtain ⟨⟨s, last⟩, hread, ⟨⟩⟩ := Option.map_eq_some_iff.mp h
    obtain ⟨rfl, hs⟩ := ih hread
    exact ⟨rfl, hs⟩
  | case3 =>
    cases h
    exact ⟨rfl, rfl⟩
  | case4 c cs halone hne ih =>
    obtain ⟨⟨s, last⟩, hread, ⟨⟩⟩ := Option.map_eq_some_iff.mp h
    obtain ⟨rfl, hs⟩ := ih hread
    have hc : c ≠ '\\' := by
      rintro rfl
      cases s with
      | nil => exact halone _ _ rfl rfl
      | cons d s => exact halone _ _ rfl rfl
    exact ⟨rfl, by rw [standsBetween] <;> simp_all⟩

/-- What stands between quotes has its end in itself. -/
theorem tracks_quoted {q : Char} (hq : q ≠ '\\') {S : List Char → Prop} :
    Tracks n 1 S (quoted? q) (quoted? q) :=
  tracks_of_iff (P := fun w text => text = w ++ [q] ∧ standsBetween q w = true) (fun w => by simp)
    fun cs w rest => by
      rw [quoted?_iff hq]
      simp

end Words

/-! ## 3. Hops -/

section Hops

variable {n : Nat}

/-- The direction of a hop, and whether it is an array hop. -/
def markOf (c : Char) (next : Option Char) : Option ((Bool × Bool) × Bool) :=
  if c = '.' then some ((true, next == some '@'), next == some '@')
  else if c = '!' then some ((false, next == some '@'), next == some '@')
  else none

theorem peeks_markOf : Peeks markOf where
  alone c x both h d := by
    unfold markOf at h ⊢
    split_ifs at h ⊢
    · exact ⟨_, rfl⟩
    · exact ⟨_, rfl⟩
  apart c d x h := by
    unfold markOf at h ⊢
    split_ifs at h ⊢
    all_goals
      simp only [Option.some.injEq, Prod.mk.injEq] at h
      obtain ⟨rfl, hnot⟩ := h
      exact ⟨false, by rw [hnot]; rfl⟩

def braces : Part Bool :=
  alternatively (andThen (letter '\x7b') fun _ => mapped (fun _ => true) (letter '\x7d')) (give false)

/-- The property of a hop, with braces or without. -/
def hopAfter (mark : Bool × Bool) : Part Hop :=
  andThen property? fun property =>
    mapped (fun braced => ⟨property, mark.1, mark.2 || braced⟩) braces

theorem arrayMark_eq (cs : List Char) : braces cs = some (arrayMark cs) := by
  unfold arrayMark
  split
  · rfl
  · next h =>
    match cs with
    | [] => rfl
    | [c] => by_cases hc : c = '\x7b' <;> simp [braces, alternatively, andThen, mapped, letter, give, hc]
    | c :: d :: cs =>
      by_cases hc : c = '\x7b' <;> by_cases hd : d = '\x7d' <;>
        simp_all [braces, alternatively, andThen, mapped, letter, give]

theorem hopMark?_eq (cs : List Char) :
    hopMark? cs = (peek markOf cs).map fun (mark, rest) => (mark.1, mark.2, rest) := by
  unfold hopMark?
  split
  · rfl
  · rfl
  · next rest hnot =>
    cases rest with
    | nil => rfl
    | cons d rest =>
      have hd : d ≠ '@' := fun h => hnot rest (h ▸ rfl)
      simp [peek, markOf, hd]
  · next rest hnot =>
    cases rest with
    | nil => rfl
    | cons d rest =>
      have hd : d ≠ '@' := fun h => hnot rest (h ▸ rfl)
      simp [peek, markOf, hd]
  · next hpoint hmark =>
    cases cs with
    | nil => rfl
    | cons c cs =>
      have hc : c ≠ '.' := fun h => hpoint cs (h ▸ rfl)
      have hc' : c ≠ '!' := fun h => hmark cs (h ▸ rfl)
      simp [peek, markOf, hc, hc']

theorem hop?_eq : hop? = andThen (peek markOf) hopAfter := by
  funext cs
  unfold hop? andThen
  rw [hopMark?_eq]
  cases peek markOf cs with
  | none => rfl
  | some read =>
    obtain ⟨mark, rest⟩ := read
    dsimp only [Option.map_some]
    unfold hopAfter andThen
    cases property? rest with
    | none => rfl
    | some read =>
      simp [mapped, arrayMark_eq]

theorem tracks_braces : Tracks n 0 (StartsWith (· ≠ '\x7b')) braces braces := by
  have hpair := ((tracks_letter (S := StartsWith (· ≠ '\x7b')) '\x7d').mapped fun _ => true).afterLetter
    '\x7b' (Nat.le_succ n)
  refine hpair.orGive false fun cs more _ hstops => andThen_letter_of_ne _ fun rest hbrace => ?_
  obtain ⟨c, hc, hne⟩ := hstops.append more
  rw [hbrace] at hc
  cases hc
  exact hne rfl

theorem tracks_hop : Tracks n 1 (StartsWith (· ≠ '\x7b')) hop? hop? := by
  rw [hop?_eq]
  have hafter (mark : Bool × Bool) :
      Tracks n 1 (StartsWith (· ≠ '\x7b')) (hopAfter mark) (hopAfter mark) :=
    .andThen (Nat.le_succ n) tracks_property (fun _ => tracks_braces.mapped _)
      (.of_total (fun h => h.ne_nil rfl) (fun _ => tracks_braces.takes.mapped _)
        (fun _ => tracks_braces.takes.mapped _) fun _ r =>
          ⟨_, _, congrArg (Option.map _) (arrayMark_eq r)⟩)
  exact (Tracks.andThen (Nat.le_succ n) (tracks_peek peeks_markOf) hafter
    (.of_takes fun mark => (hafter mark).takes)).mono (Nat.le_refl n) (Nat.le_succ 1) fun _ => id

/-- A hop starts with its direction. -/
theorem startsWith_of_hop {cs rest : List Char} {h : Hop} (hread : hop? cs = some (h, rest)) :
    StartsWith (fun c => c = '.' ∨ c = '!') cs := by
  rw [hop?_eq, andThen_eq_some] at hread
  obtain ⟨mark, r, hmark, -⟩ := hread
  cases cs with
  | nil => cases hmark
  | cons c cs =>
    obtain ⟨read, hread, -⟩ := Option.map_eq_some_iff.mp hmark
    refine ⟨c, rfl, ?_⟩
    unfold markOf at hread
    split_ifs at hread with hpoint hback
    · exact .inl hpoint
    · exact .inr hback

theorem hops_eq (cs : List Char) : many hop? cs = some (hops cs) := by
  have hwithin (rounds : Nat) (cs : List Char) : manyWithin hop? rounds cs = hopsWithin rounds cs := by
    induction rounds generalizing cs with
    | zero => rfl
    | succ rounds ih =>
      unfold manyWithin hopsWithin
      cases hop? cs with
      | none => rfl
      | some read => simp only [ih]
  rw [many, hwithin, hops]

/-- Unless the text starts with a hop none is read. -/
theorem many_hop_cases {cs rest : List Char} {hs : List Hop} (h : many hop? cs = some (hs, rest)) :
    StartsWith (fun c => c = '.' ∨ c = '!') cs ∨ rest = cs := by
  cases hread : hop? cs with
  | none =>
    cases (many_of_none hread).symm.trans h
    exact .inr rfl
  | some read => exact .inl (startsWith_of_hop hread)

/-- Hops end before what starts no hop and goes on with no braces. -/
theorem tracks_hops : Tracks n 0 (StartsWith fun c => c ≠ '\x7b' ∧ ¬ (c = '.' ∨ c = '!'))
    (many hop?) (many hop?) := by
  refine tracks_hop.many (fun _ h => h.imp fun _ => And.left) (fun r h rest _ hread => ?_)
    fun r more hstops => ?_
  · exact (startsWith_of_hop hread).imp fun c hc => by rintro rfl; revert hc; decide
  · cases hread : hop? (r ++ more) with
    | none => rfl
    | some read =>
      obtain ⟨c, hc, hstops⟩ := (startsWith_of_hop hread).both (hstops.append more)
      exact absurd hc hstops.2

end Hops

/-! ## 4. Operators -/

section Operators

variable {n j : Nat}

/-- The operator of a looseness that a character begins, and whether the next one belongs to it. -/
def operatorOf (looseness : Nat) (c : Char) (next : Option Char) : Option (Operator × Bool) :=
  match looseness with
  | 1 => if c = '*' then some (.multiply, false) else if c = '/' then some (.divide, false) else none
  | 2 => if c = '+' then some (.add, false) else if c = '-' then some (.subtract, false) else none
  | _ =>
    if c = '<' then
      if next = some '>' then some (.notEqual, true)
      else if next = some '=' then some (.lessOrEqual, true)
      else some (.less, false)
    else if c = '>' then
      if next = some '=' then some (.greaterOrEqual, true) else some (.greater, false)
    else if c = '=' then some (.equal, false)
    else none

theorem comparisonOp?_eq (cs : List Char) : comparisonOp? cs = peek (operatorOf 3) cs := by
  match cs with
  | [] => rfl
  | c :: rest =>
    by_cases hless : c = '<'
    · subst hless
      match rest with
      | [] => rfl
      | d :: rest =>
        by_cases hgreater : d = '>'
        · exact hgreater ▸ rfl
        by_cases hequal : d = '='
        · exact hequal ▸ rfl
        simp [comparisonOp?, peek, operatorOf, hgreater, hequal]
    by_cases hgreater : c = '>'
    · subst hgreater
      match rest with
      | [] => rfl
      | d :: rest =>
        by_cases hequal : d = '='
        · exact hequal ▸ rfl
        simp [comparisonOp?, peek, operatorOf, hequal]
    by_cases hequal : c = '='
    · exact hequal ▸ rfl
    simp [comparisonOp?, peek, operatorOf, hless, hgreater, hequal]

theorem additiveOp?_eq (cs : List Char) : additiveOp? cs = peek (operatorOf 2) cs := by
  match cs with
  | [] => rfl
  | c :: rest =>
    by_cases hplus : c = '+'
    · exact hplus ▸ rfl
    by_cases hminus : c = '-'
    · exact hminus ▸ rfl
    simp [additiveOp?, peek, operatorOf, hplus, hminus]

theorem multiplicativeOp?_eq (cs : List Char) : multiplicativeOp? cs = peek (operatorOf 1) cs := by
  match cs with
  | [] => rfl
  | c :: rest =>
    by_cases htimes : c = '*'
    · exact htimes ▸ rfl
    by_cases hover : c = '/'
    · exact hover ▸ rfl
    simp [multiplicativeOp?, peek, operatorOf, htimes, hover]

theorem operator?_eq (looseness : Nat) : operator? looseness = peek (operatorOf looseness) := by
  funext cs
  match looseness with
  | 1 => exact multiplicativeOp?_eq cs
  | 2 => exact additiveOp?_eq cs
  | 0 => exact comparisonOp?_eq cs
  | _ + 3 => exact comparisonOp?_eq cs

theorem peeks_operatorOf (looseness : Nat) : Peeks (operatorOf looseness) where
  alone c x both h d := by
    unfold operatorOf at h ⊢
    split at h <;> grind
  apart c d x h := by
    unfold operatorOf at h ⊢
    split at h <;> grind

theorem tracks_operator (looseness : Nat) :
    Tracks n 1 (· ≠ []) (operator? looseness) (operator? looseness) := by
  rw [operator?_eq]
  exact tracks_peek (peeks_operatorOf looseness)

/-- Operators stop what is tighter. -/
theorem startsWith_of_operator (hj : j ≤ 2) {cs rest : List Char} {o : Operator}
    (h : operator? (j + 1) cs = some (o, rest)) : StartsWith (fun c => closes j c = true) cs := by
  rw [operator?_eq] at h
  cases cs with
  | nil => cases h
  | cons c cs =>
    obtain ⟨read, hread, -⟩ := Option.map_eq_some_iff.mp h
    refine ⟨c, rfl, ?_⟩
    obtain rfl | rfl | rfl : j = 0 ∨ j = 1 ∨ j = 2 := by omega
    all_goals
      simp only [operatorOf] at hread
      split_ifs at hread <;> (subst_vars; decide)

/-- What stops a reader is no operator of its own. -/
theorem operator?_of_closes (hj : j ≤ 2) {cs : List Char}
    (h : StartsWith (fun c => closes (j + 1) c = true) cs) : operator? (j + 1) cs = none := by
  obtain ⟨c, hc, hcloses⟩ := h
  obtain ⟨cs, rfl⟩ := List.head?_eq_some_iff.mp hc
  rw [operator?_eq, peek]
  suffices hnone : operatorOf (j + 1) c cs.head? = none by rw [hnone]; rfl
  obtain rfl | rfl | rfl : j = 0 ∨ j = 1 ∨ j = 2 := by omega
  all_goals
    simp only [operatorOf]
    split_ifs <;> first | rfl | (subst_vars; revert hcloses; decide)

end Operators

/-! ## 5. Chains of operands and of arguments -/

section Chains

variable {m n j : Nat} {e e' : Part Node}

/-- An operator, and its right operand. -/
def operation (operator : Part Operator) (operand : Part Node) : Part (Operator × Node) :=
  andThen blanks fun _ => andThen operator fun o => andThen blanks fun _ => mapped (o, ·) operand

/-- Operators group to the left. -/
def joined (first : Node) (operations : List (Operator × Node)) : Node :=
  operations.foldl (fun left step => .binary step.1 left step.2) first

theorem level_eq (operator : Part Operator) (operand : Part Node) :
    level operator operand = chain operand (operation operator operand) joined := by
  have hwithin (rounds : Nat) (left : Node) (cs : List Char) :
      operatorsWithin operator operand rounds left cs =
        (joined left (manyWithin (operation operator operand) rounds cs).1,
          (manyWithin (operation operator operand) rounds cs).2) := by
    induction rounds generalizing left cs with
    | zero => rfl
    | succ rounds ih =>
      unfold operatorsWithin manyWithin
      rw [operation, andThen_blanks, andThen]
      cases operator (skipSpaces cs) with
      | none => rfl
      | some read =>
        simp only [andThen_blanks, mapped]
        cases operand (skipSpaces read.2) with
        | none => rfl
        | some read => exact ih _ _
  funext cs
  unfold level chain andThen
  cases operand cs with
  | none => rfl
  | some read => exact congrArg some (hwithin _ _ _)

theorem tracks_operation (h : Tracks n 1 (Stops j) e e') (looseness : Nat) :
    Tracks n 1 (Stops j) (operation (operator? looseness) e) (operation (operator? looseness) e') := by
  have hright (o : Operator) := (h.mapped (o, ·)).afterBlanks
  have hsymbol : Tracks n 2 (Stops j)
      (andThen (operator? looseness) fun o => andThen blanks fun _ => mapped (o, ·) e)
      (andThen (operator? looseness) fun o => andThen blanks fun _ => mapped (o, ·) e') :=
    .andThen (Nat.le_succ n) (tracks_operator looseness) hright (.of_takes fun o => (hright o).takes)
  exact (hsymbol.mono (Nat.le_refl n) (Nat.le_succ 1) fun _ => id).afterBlanks

/-- **Operands of a level.** -/
theorem tracks_level (hj : j ≤ 2) (h : Tracks n 1 (Stops j) e e') : Tracks n 1 (Stops (j + 1))
    (level (operator? (j + 1)) e) (level (operator? (j + 1)) e') := by
  rw [level_eq, level_eq]
  refine tracks_chain (Nat.le_succ n) h (tracks_operation h (j + 1)) (fun _ => Stops.of_skipSpaces)
    Stops.not_nil (fun _ hstops => hstops.mono (Nat.le_succ j)) (fun r x rest _ hread => ?_)
    (fun r more hstops => ?_) joined
  · -- behind blanks there is an operator of this level
    obtain ⟨o, left, ho, -⟩ := andThen_eq_some.mp (show andThen (operator? (j + 1)) _ (skipSpaces r) = _
      from hread)
    exact startsWith_of_operator hj ho
  · have hnone : operator? (j + 1) (skipSpaces (r ++ more)) = none := by
      rw [skipSpaces_append hstops.ne_nil]
      exact operator?_of_closes hj (hstops.append more)
    show andThen (operator? (j + 1)) _ (skipSpaces (r ++ more)) = none
    rw [andThen, hnone]

/-- A comma, and what it separates from what is before. -/
def separated (element : Part Node) : Part Node :=
  andThen blanks fun _ => andThen (letter ',') fun _ => andThen blanks fun _ => element

theorem commaSeparated_eq (element : Part Node) :
    commaSeparated element = chain element (separated element) List.cons := by
  have hwithin (rounds : Nat) (cs : List Char) :
      commasWithin element rounds cs = manyWithin (separated element) rounds cs := by
    induction rounds generalizing cs with
    | zero => rfl
    | succ rounds ih =>
      unfold commasWithin manyWithin
      rw [separated, andThen_blanks]
      split
      · next rest hcomma =>
        rw [hcomma, andThen_letter, andThen_blanks]
        cases element (skipSpaces rest) with
        | none => rfl
        | some read => simp only [ih]; rfl
      · next hnot => rw [andThen_letter_of_ne _ hnot]
  funext cs
  unfold commaSeparated chain andThen
  cases element cs with
  | none => rfl
  | some read => exact congrArg some (by simp only [hwithin]; rfl)

theorem tracks_separated (h : Tracks n 1 (Stops 3) e e') :
    Tracks n 1 (Stops 3) (separated e) (separated e') :=
  (h.afterBlanks.afterLetter ',' (Nat.le_succ n)).afterBlanks

/-- Behind blanks the parenthesis is closed. -/
def Closed (cs : List Char) : Prop := StartsWith (· = ')') (skipSpaces cs)

theorem Closed.stops {cs : List Char} (h : Closed cs) : Stops j cs :=
  h.imp fun c hc => by rw [hc]; rfl

/-- **Arguments.** -/
theorem tracks_commaSeparated (h : Tracks n 1 (Stops 3) e e') :
    Tracks n 1 Closed (commaSeparated e) (commaSeparated e') := by
  rw [commaSeparated_eq, commaSeparated_eq]
  refine tracks_chain (Nat.le_succ n) h (tracks_separated h) (fun _ => Stops.of_skipSpaces)
    Stops.not_nil (fun _ => Closed.stops) (fun r x rest _ hread => ?_) (fun r more hclosed => ?_) _
  · rw [separated, andThen_blanks, andThen_eq_some] at hread
    obtain ⟨_, left, hcomma, -⟩ := hread
    exact ⟨',', by rw [letter_eq_some.mp hcomma]; rfl, by decide⟩
  · rw [separated, andThen_blanks, skipSpaces_append hclosed.ne_nil]
    refine andThen_letter_of_ne _ fun rest hcomma => ?_
    obtain ⟨c, hc, rfl⟩ := hclosed.append more
    rw [hcomma] at hc
    cases hc

/-- The closing parenthesis behind what has been read. -/
def closing {α : Type} (x : α) : Part α :=
  andThen blanks fun _ => andThen (letter ')') fun _ => give x

theorem closing_eq {α : Type} (x : α) (cs : List Char) : closing x cs = match skipSpaces cs with
    | ')' :: rest => some (x, rest)
    | _ => none := by
  rw [closing, andThen_blanks]
  split
  · next rest hclose => rw [hclose, andThen_letter, give]
  · next hnot => exact andThen_letter_of_ne _ hnot

theorem tracks_closing {α : Type} {S : List Char → Prop} (x : α) :
    Tracks n 1 S (closing x) (closing x) :=
  ((tracks_give x).afterLetter ')' (Nat.le_succ n)).afterBlanks

theorem Closed.of_closing {α : Type} {x y : α} {cs rest : List Char}
    (h : closing x cs = some (y, rest)) : Closed cs := by
  rw [closing_eq] at h
  split at h
  · next hclose => exact ⟨')', by rw [hclose]; rfl, rfl⟩
  · cases h

/-- Arguments in parentheses, or none. -/
def bracketedArguments (e : Part Node) : Part (List Node) :=
  andThen (letter '(') fun _ => andThen blanks fun _ =>
    andThen (alternatively (commaSeparated e) (give [])) closing

theorem callArguments?_eq (e : Part Node) :
    callArguments? e = andThen blanks fun _ => bracketedArguments e := by
  funext cs
  rw [andThen_blanks, bracketedArguments]
  unfold callArguments?
  split
  · next rest hopen =>
    rw [hopen, andThen_letter, andThen_blanks, andThen, alternatively]
    cases commaSeparated e (skipSpaces rest) with
    | none => exact (closing_eq _ _).symm
    | some read => exact (closing_eq _ _).symm
  · next hnot => rw [andThen_letter_of_ne _ hnot]

theorem callArguments?_of_startsWith (e : Part Node) {cs : List Char}
    (h : StartsWith (· ≠ '(') (skipSpaces cs)) : callArguments? e cs = none := by
  rw [callArguments?_eq, andThen_blanks, bracketedArguments]
  refine andThen_letter_of_ne _ fun rest hopen => ?_
  obtain ⟨c, hc, hne⟩ := h
  rw [hopen] at hc
  cases hc
  exact hne rfl

theorem tracks_callArguments {S : List Char → Prop} (h : Tracks n 1 (Stops 3) e e')
    (hclosed : ∀ cs, Closed cs → commaSeparated e' cs = none) :
    Tracks (n + 1) 1 S (callArguments? e) (callArguments? e') := by
  have harguments : Tracks n 0 Closed (alternatively (commaSeparated e) (give []))
      (alternatively (commaSeparated e') (give [])) := by
    refine (tracks_commaSeparated h).orGive [] fun cs more _ hstops => hclosed _ ?_
    rw [Closed, skipSpaces_append hstops.ne_nil]
    exact hstops.append more
  have hclose : Tracks n 1 S (andThen (alternatively (commaSeparated e) (give [])) closing)
      (andThen (alternatively (commaSeparated e') (give [])) closing) :=
    .andThen (Nat.le_refl n) harguments tracks_closing
      (.of_stops fun _ _ _ _ _ hread => Closed.of_closing hread)
  rw [callArguments?_eq, callArguments?_eq]
  exact (hclose.afterBlanks.afterLetter '(' (Nat.le_refl _)).afterBlanks

end Chains

/-! ## 6. Factors -/

section Factors

variable {n : Nat} {e e' : Part Node}

/-- What follows a name: arguments, or else hops. -/
def afterName (e : Part Node) (name : String) : Part Node :=
  alternatively (mapped (Node.ofCall name) (callArguments? e))
    (mapped (fun hs => .path ⟨some name, hs⟩) (many hop?))

theorem namedNode?_eq (e : Part Node) : namedNode? e = andThen identifier? (afterName e) := by
  funext cs
  unfold namedNode? andThen afterName alternatively mapped
  cases identifier? cs with
  | none => rfl
  | some read =>
    dsimp only
    cases callArguments? e read.2 with
    | none => simp only [Option.map_none, hops_eq]; rfl
    | some read => rfl

/-- What stops a factor goes on neither with hops nor with braces. -/
theorem Stops.ends_hops {cs : List Char} (h : Stops 0 cs) :
    StartsWith (fun c => c ≠ '\x7b' ∧ ¬ (c = '.' ∨ c = '!')) cs := by
  refine h.startsWith.imp fun c hc => ⟨?_, ?_⟩
  · rintro rfl
    revert hc
    decide
  · rintro (rfl | rfl) <;> (revert hc; decide)

theorem tracks_afterName (h : Tracks n 1 (Stops 3) e e')
    (hclosed : ∀ cs, Closed cs → commaSeparated e' cs = none) (name : String) :
    Tracks (n + 1) 0 (Stops 0) (afterName e name) (afterName e' name) := by
  have hcall : Tracks (n + 1) 0 (Stops 0) (mapped (Node.ofCall name) (callArguments? e))
      (mapped (Node.ofCall name) (callArguments? e')) :=
    ((tracks_callArguments h hclosed).mapped _).mono (Nat.le_refl _) (Nat.zero_le 1) fun _ => id
  -- before a hop there are no arguments
  have hnone {cs more} (hcs : StartsWith (fun c => c = '.' ∨ c = '!') cs) :
      mapped (Node.ofCall name) (callArguments? e') (cs ++ more) = none := by
    obtain ⟨c, hc, hmark⟩ := hcs
    obtain ⟨cs, rfl⟩ := List.head?_eq_some_iff.mp hc
    rw [mapped, callArguments?_of_startsWith e' ⟨c, ?_, ?_⟩, Option.map_none]
    · rcases hmark with rfl | rfl <;> rfl
    · rcases hmark with rfl | rfl <;> decide
  refine .alternatively hcall ((tracks_hops.mapped _).mono (Nat.le_refl _) (Nat.le_refl 0)
    fun _ => Stops.ends_hops) (fun cs more x y rest rest' _ hhops hread => ?_)
    fun cs more y rest _ hhops hstops => ?_
  · obtain ⟨hs, hhops, -⟩ := mapped_eq_some.mp hhops
    refine (many_hop_cases hhops).resolve_left fun hcs => ?_
    rw [hnone hcs] at hread
    cases hread
  · obtain ⟨hs, hhops, -⟩ := mapped_eq_some.mp hhops
    rcases many_hop_cases hhops with hcs | rfl
    · exact hnone hcs
    · rw [mapped, callArguments?_of_startsWith e' ?_, Option.map_none]
      rw [skipSpaces_append hstops.ne_nil]
      refine (hstops.append more).imp fun c hc => ?_
      rintro rfl
      revert hc
      decide

theorem tracks_named (h : Tracks n 1 (Stops 3) e e')
    (hclosed : ∀ cs, Closed cs → commaSeparated e' cs = none) :
    Tracks (n + 1) 1 (Stops 0) (namedNode? e) (namedNode? e') := by
  have hafter := tracks_afterName h hclosed
  rw [namedNode?_eq, namedNode?_eq]
  exact .andThen (Nat.le_succ _) tracks_identifier hafter
    (.of_total Stops.not_nil (fun name => (hafter name).takes) (fun name => (hafter name).takes')
      fun name r => exists_alternatively ⟨_, _, rfl⟩)

theorem parenthesized?_eq (e : Part Node) :
    parenthesized? e = andThen (letter '(') fun _ => andThen blanks fun _ => andThen e closing := by
  funext cs
  unfold parenthesized?
  split
  · next rest =>
    rw [andThen_letter, andThen_blanks, andThen]
    cases e (skipSpaces rest) with
    | none => rfl
    | some read => exact (closing_eq _ _).symm
  · next hnot => exact (andThen_letter_of_ne _ hnot).symm

theorem tracks_parenthesized {S : List Char → Prop} (h : Tracks n 1 (Stops 3) e e') :
    Tracks (n + 1) 1 S (parenthesized? e) (parenthesized? e') := by
  have hclose : Tracks n 2 S (andThen e closing) (andThen e' closing) :=
    .andThen (Nat.le_succ n) h tracks_closing
      (.of_stops fun _ _ _ _ _ hread => (Closed.of_closing hread).stops)
  rw [parenthesized?_eq, parenthesized?_eq]
  exact (hclose.mono (Nat.le_refl n) (Nat.le_succ 1) fun _ => id).afterBlanks.afterLetter '('
    (Nat.le_refl _)

theorem pathNode?_eq : pathNode? = andThen hop? fun h =>
    mapped (fun hs => .path ⟨none, h :: hs⟩) (many hop?) := by
  funext cs
  unfold pathNode? andThen
  have hhops := hops_eq cs
  cases hread : hop? cs with
  | none =>
    rw [many_of_none hread] at hhops
    rw [← Option.some.inj hhops]
  | some read =>
    obtain ⟨h, rest⟩ := read
    rw [many_of_some (tracks_hop (n := cs.length + 1)).takes (Nat.lt_succ_self _) hread] at hhops
    rw [mapped, hops_eq] at hhops
    rw [← Option.some.inj hhops]
    simp only [mapped, hops_eq, Option.map_some]

theorem tracks_path : Tracks n 1 (Stops 0) pathNode? pathNode? := by
  rw [pathNode?_eq]
  refine .andThen (Nat.le_succ n) tracks_hop
    (fun h => (tracks_hops.mapped _).mono (Nat.le_refl n) (Nat.le_refl 0) fun _ => Stops.ends_hops)
    fun h r y rest hr hread => ?_
  obtain ⟨hs, hhops, -⟩ := mapped_eq_some.mp hread
  rcases many_hop_cases hhops with hcs | rfl
  · exact .inl (hcs.imp fun c hc => by rintro rfl; revert hc; decide)
  · refine .inr ⟨fun hstops => hstops.ends_hops.imp fun _ => And.left, fun h' more r' hr' hsuffix => ?_⟩
    have hlt := Nat.lt_of_le_of_lt hsuffix.length_le hr'
    exact ⟨_, _, congrArg (Option.map _) (hops_eq r'),
      (tracks_hops.takes hlt (hops_eq r')).1.trans hsuffix⟩

/-- A string, from its quote on. -/
def stringFrom (q : Char) : Part Node :=
  andThen (letter q) fun _ => mapped (fun text => .constant (String.ofList text) .text) (quoted? q)

theorem stringNode?_eq (q : Char) (rest : List Char) :
    stringNode? (q :: rest) = stringFrom q (q :: rest) := by
  rw [stringFrom, andThen_letter]
  rfl

theorem factor?_eq (e : Part Node) : factor? e = headed fun c =>
    if c.isDigit then numberNode?
    else if c = '"' ∨ c = '\'' then stringFrom c
    else if c = '.' ∨ c = '!' then pathNode?
    else if c = '(' then parenthesized? e
    else namedNode? e := by
  funext cs
  cases cs with
  | nil => rfl
  | cons c cs =>
    simp only [factor?, headed, stringNode?_eq]
    split_ifs <;> rfl

theorem tracks_string {S : List Char → Prop} {q : Char} (hq : q = '"' ∨ q = '\'') :
    Tracks n 1 S (stringFrom q) (stringFrom q) := by
  have hne : q ≠ '\\' := by rcases hq with rfl | rfl <;> decide
  exact ((tracks_quoted hne).mapped _).afterLetter q (Nat.le_succ n)

/-- **Factors**: what they are is seen from the first character. -/
theorem tracks_factor (h : Tracks n 1 (Stops 3) e e')
    (hclosed : ∀ cs, Closed cs → commaSeparated e' cs = none) :
    Tracks (n + 1) 1 (Stops 0) (factor? e) (factor? e') := by
  have hne {cs : List Char} (hcs : Stops 0 cs) : cs ≠ [] := fun hnil => Stops.not_nil (hnil ▸ hcs)
  have hnumber : numberNode? = mapped (fun text =>
      .constant (formatNumber (parseFloat (String.ofList text))) .number) number? := rfl
  rw [factor?_eq, factor?_eq]
  refine .headed fun c => ?_
  split_ifs with hdigit hquote hhop hopen
  · rw [hnumber]
    exact (tracks_number.mapped _).mono (Nat.le_refl _) (Nat.le_refl 1) fun _ => hne
  · exact tracks_string hquote
  · exact tracks_path
  · exact tracks_parenthesized h
  · exact tracks_named h hclosed

end Factors

/-! ## 7. Whole expressions -/

section Expressions

variable {n depth depth' : Nat}

/-- No expression starts where a parenthesis is closed. -/
theorem expression?_of_closed {cs : List Char} (h : Closed cs) : expression? depth cs = none := by
  have hfactor (e : Part Node) : factor? e cs = none := by
    cases cs with
    | nil => exact absurd rfl h.ne_nil
    | cons c cs =>
      by_cases hspace : isSpace c = true
      · simp only [isSpace, Bool.or_eq_true, beq_iff_eq] at hspace
        rcases hspace with ((rfl | rfl) | rfl) | rfl <;> rfl
      · obtain ⟨d, hd, rfl⟩ := h
        rw [skipSpaces, List.dropWhile_cons_of_neg hspace] at hd
        cases hd
        rfl
  cases depth with
  | zero => rfl
  | succ depth => simp only [expression?, level, hfactor]

/-- **Expressions**, at depths that are enough. -/
theorem tracks_expression (hdepth : n ≤ depth) (hdepth' : n ≤ depth') :
    Tracks n 1 (Stops 3) (expression? depth) (expression? depth') := by
  induction n generalizing depth depth' with
  | zero => exact .zero
  | succ n ih =>
    obtain ⟨depth, rfl⟩ : ∃ d, depth = d + 1 := ⟨depth - 1, by omega⟩
    obtain ⟨depth', rfl⟩ : ∃ d, depth' = d + 1 := ⟨depth' - 1, by omega⟩
    have hinner : Tracks n 1 (Stops 3) (expression? depth) (expression? depth') :=
      ih (by omega) (by omega)
    have hclosed (cs : List Char) (h : Closed cs) :
        commaSeparated (expression? depth') cs = none := by
      rw [commaSeparated, expression?_of_closed h]
    rw [expression?_succ, expression?_succ]
    exact tracks_level (Nat.le_refl 2) (tracks_level (Nat.le_succ 1)
      (tracks_level (Nat.zero_le 2) (tracks_factor hinner hclosed)))

end Expressions

end Faceted.Expression
