import Mathlib.Data.List.Forall2
import Faceted.Proofs.Expression.Longest

/-!
# Expressions in a list

In a list commas stand between expressions, and also between the arguments of a call and in strings. An
expression is read from the list as from a text of its own all the same. That a comma stops it is known
where a comma is left; so it is shown first that no expression takes a comma as its last character.

* `EndsWith`: what may stand last in what a part takes; `endsWith_expression`: not a comma;
* `sourced_comma`: with a comma and more behind it, an expression with blanks is read as before;
* `Continues`: what follows an expression of a list, step by step;
* **`parseSeveral_eq_ok_iff`**: a text is read as a list iff it consists of texts with commas between
  them, each of which is read as the expression at its place.
-/

namespace Faceted.Expression

variable {α β γ : Type}

/-! ## 1. The last character -/

/-- What the part takes, if it is not nothing, ends with such a character. -/
def EndsWith (ok : Char → Prop) (p : Part α) : Prop :=
  ∀ ⦃cs x rest⦄, p cs = some (x, rest) → ∃ text, cs = text ++ rest ∧ ∀ c ∈ text.getLast?, ok c

namespace EndsWith

variable {ok : Char → Prop} {p q : Part α}

theorem imp {ok' : Char → Prop} (h : EndsWith ok p) (himp : ∀ c, ok c → ok' c) : EndsWith ok' p := by
  intro cs x rest hp
  obtain ⟨text, htext, hlast⟩ := h hp
  exact ⟨text, htext, fun c hc => himp c (hlast c hc)⟩

theorem give (x : α) : EndsWith ok (give x) := by
  rintro cs y rest ⟨⟩
  exact ⟨[], rfl, fun c hc => by cases hc⟩

theorem refuse : EndsWith ok (refuse : Part α) := by rintro cs x rest ⟨⟩

theorem letter {c : Char} (hc : ok c) : EndsWith ok (letter c) := by
  intro cs x rest h
  obtain rfl := letter_eq_some.mp h
  refine ⟨[c], rfl, fun d hd => ?_⟩
  cases hd
  exact hc

theorem run {test : Char → Bool} (h : ∀ c, test c = true → ok c) : EndsWith ok (run test) := by
  rintro cs w rest ⟨⟩
  refine ⟨cs.takeWhile test, List.takeWhile_append_dropWhile.symm, fun c hc => h c ?_⟩
  exact List.mem_takeWhile_imp (List.mem_of_getLast? hc)

theorem word {test : Char → Bool} (h : ∀ c, test c = true → ok c) : EndsWith ok (word test) :=
  fun _ _ _ hread => run h (word_eq_some.mp hread).1

/-- Of a character and a next one the last that is taken. -/
theorem peek {f : Char → Option Char → Option (α × Bool)}
    (halone : ∀ c next x, f c next = some (x, false) → ok c)
    (hboth : ∀ c next x, f c next = some (x, true) → ∃ d, next = some d ∧ ok d) :
    EndsWith ok (peek f) := by
  intro cs y rest h
  cases cs with
  | nil => cases h
  | cons c cs =>
    obtain ⟨⟨x, both⟩, hread, ⟨⟩⟩ := Option.map_eq_some_iff.mp h
    cases both with
    | false =>
      refine ⟨[c], rfl, fun d hd => ?_⟩
      cases hd
      exact halone _ _ _ hread
    | true =>
      obtain ⟨d, hnext, hd⟩ := hboth _ _ _ hread
      obtain ⟨cs, rfl⟩ := List.head?_eq_some_iff.mp hnext
      refine ⟨[c, d], rfl, fun d' hd' => ?_⟩
      cases hd'
      exact hd

theorem mapped (h : EndsWith ok p) (f : α → β) : EndsWith ok (mapped f p) := by
  intro cs y rest hread
  obtain ⟨x, hx, -⟩ := mapped_eq_some.mp hread
  exact h hx

theorem andThen {q : α → Part β} (hp : EndsWith ok p) (hq : ∀ x, EndsWith ok (q x)) :
    EndsWith ok (andThen p q) := by
  intro cs y rest hread
  obtain ⟨x, r, hx, hy⟩ := andThen_eq_some.mp hread
  obtain ⟨first, rfl, hfirst⟩ := hp hx
  obtain ⟨second, rfl, hsecond⟩ := hq x hy
  refine ⟨first ++ second, (List.append_assoc _ _ _).symm, fun c hc => ?_⟩
  rw [List.getLast?_append, Option.mem_def, Option.or_eq_some_iff] at hc
  rcases hc with hc | ⟨-, hc⟩
  · exact hsecond c hc
  · exact hfirst c hc

theorem alternatively (hp : EndsWith ok p) (hq : EndsWith ok q) : EndsWith ok (alternatively p q) :=
  fun _ _ _ hread => (alternatively_eq_some.mp hread).elim (fun h => hp h) fun h => hq h.2

theorem headed {f : Char → Part α} (h : ∀ c, EndsWith ok (f c)) : EndsWith ok (headed f) := by
  intro cs x rest hread
  cases cs with
  | nil => cases hread
  | cons c cs => exact h c hread

theorem many (hp : EndsWith ok p) : EndsWith ok (many p) := by
  have hwithin (rounds : Nat) (cs : List Char) : ∃ text,
      cs = text ++ (manyWithin p rounds cs).2 ∧ ∀ c ∈ text.getLast?, ok c := by
    induction rounds generalizing cs with
    | zero => exact ⟨[], rfl, fun c hc => by cases hc⟩
    | succ rounds ih =>
      rw [manyWithin]
      cases hread : p cs with
      | none => exact ⟨[], rfl, fun c hc => by cases hc⟩
      | some read =>
        have hnext : EndsWith ok (fun r => some ((), (manyWithin p rounds r).2)) := by
          rintro r x rest ⟨⟩
          exact ih r
        exact (hp.andThen fun _ => hnext) (andThen_eq_some.mpr ⟨_, _, hread, rfl⟩)
  intro cs xs rest hread
  have hrest : (manyWithin p cs.length cs).2 = rest := congrArg Prod.snd (Option.some.inj hread)
  exact hrest ▸ hwithin cs.length cs

theorem chain {step : Part β} (hp : EndsWith ok p) (hspace : ∀ c, isSpace c = true → ok c)
    (hstep : EndsWith ok step) (f : α → List β → γ) : EndsWith ok (chain p step f) :=
  hp.andThen fun _ => ((run hspace).mapped _).andThen fun _ => hstep.many.mapped _

end EndsWith

/-- A text is blanks and what is left without them. -/
theorem exists_gap (cs : List Char) : ∃ gap, skipSpaces gap = [] ∧ gap ++ skipSpaces cs = cs := by
  refine ⟨cs.takeWhile isSpace, List.dropWhile_eq_nil_iff.mpr fun c hc => ?_,
    List.takeWhile_append_dropWhile⟩
  exact List.mem_takeWhile_imp hc

/-- A closing parenthesis stands last whatever it closes. -/
theorem endsWith_closing {ok : Char → Prop} {p : Part α} (hp : EndsWith (fun _ => True) p)
    (hclose : ok ')') : EndsWith ok (andThen p closing) := by
  intro cs y rest hread
  obtain ⟨x, r, hx, hy⟩ := andThen_eq_some.mp hread
  obtain ⟨inner, rfl, -⟩ := hp hx
  rw [closing_eq] at hy
  split at hy
  · next rest' hrest =>
    obtain ⟨-, rfl⟩ := Prod.mk.inj (Option.some.inj hy)
    obtain ⟨gap, -, hgap⟩ := exists_gap r
    rw [hrest] at hgap
    refine ⟨inner ++ gap ++ [')'], ?_, fun c hc => ?_⟩
    · rw [List.append_assoc, List.append_assoc, List.singleton_append, hgap]
    · rw [List.getLast?_concat] at hc
      cases hc
      exact hclose
  · cases hy

section Commas

variable {e : Part Node}

theorem endsWith_name : EndsWith (· ≠ ',') property? := by
  rw [property?_eq]
  exact (EndsWith.word fun c hc => by rintro rfl; revert hc; decide).mapped _

theorem digit_ne_comma (c : Char) (h : c.isDigit = true) : c ≠ ',' := by
  rintro rfl
  revert h
  decide

theorem space_ne_comma (c : Char) (h : isSpace c = true) : c ≠ ',' := by
  rintro rfl
  revert h
  decide

theorem endsWith_blanks : EndsWith (· ≠ ',') blanks := (EndsWith.run space_ne_comma).mapped _

theorem endsWith_number : EndsWith (· ≠ ',') number? := by
  rw [number?_eq]
  refine (EndsWith.word digit_ne_comma).andThen fun whole => ?_
  exact ((EndsWith.letter (by decide)).andThen fun _ => (EndsWith.run digit_ne_comma).mapped _).alternatively
    (.give whole)

theorem endsWith_quoted {q : Char} (hq : q = '"' ∨ q = '\'') : EndsWith (· ≠ ',') (quoted? q) := by
  have hne : q ≠ '\\' := by rcases hq with rfl | rfl <;> decide
  intro cs w rest hread
  refine ⟨w ++ [q], by rw [((quoted?_iff hne).mp hread).1, List.append_assoc]; rfl, fun c hc => ?_⟩
  rw [List.getLast?_concat] at hc
  cases hc
  rcases hq with rfl | rfl <;> decide

theorem endsWith_hop : EndsWith (· ≠ ',') hop? := by
  have hmark : EndsWith (· ≠ ',') (peek markOf) := by
    refine .peek (fun c next x h => ?_) fun c next x h => ?_
    · unfold markOf at h
      split_ifs at h <;> (subst_vars; decide)
    · refine ⟨'@', ?_, by decide⟩
      unfold markOf at h
      split_ifs at h <;> simp_all
  have hbraces : EndsWith (· ≠ ',') braces :=
    ((EndsWith.letter (by decide)).andThen fun _ => (EndsWith.letter (by decide)).mapped _).alternatively
      (.give false)
  rw [hop?_eq]
  exact hmark.andThen fun mark => endsWith_name.andThen fun property => hbraces.mapped _

theorem endsWith_operator (looseness : Nat) : EndsWith (· ≠ ',') (operator? looseness) := by
  rw [operator?_eq]
  refine .peek (fun c next x h => ?_) fun c next x h => ?_
  · unfold operatorOf at h
    split at h <;> split_ifs at h <;> (subst_vars; decide)
  · unfold operatorOf at h
    split at h <;> split_ifs at h <;> simp_all

theorem endsWith_level (h : EndsWith (· ≠ ',') e) (looseness : Nat) :
    EndsWith (· ≠ ',') (level (operator? looseness) e) := by
  rw [level_eq]
  exact h.chain space_ne_comma (endsWith_blanks.andThen fun _ => (endsWith_operator looseness).andThen
    fun o => endsWith_blanks.andThen fun _ => h.mapped _) joined

theorem endsWith_callArguments (h : EndsWith (· ≠ ',') e) : EndsWith (· ≠ ',') (callArguments? e) := by
  have hany : EndsWith (fun _ => True) e := h.imp fun _ _ => trivial
  have hblanks : EndsWith (fun _ => True) blanks := endsWith_blanks.imp fun _ _ => trivial
  have harguments : EndsWith (fun _ => True) (commaSeparated e) := by
    rw [commaSeparated_eq]
    exact hany.chain (fun _ _ => trivial) (hblanks.andThen fun _ => (EndsWith.letter trivial).andThen
      fun _ => hblanks.andThen fun _ => hany) _
  rw [callArguments?_eq]
  refine endsWith_blanks.andThen fun _ => (EndsWith.letter (by decide)).andThen fun _ =>
    endsWith_blanks.andThen fun _ => endsWith_closing (harguments.alternatively (.give [])) (by decide)

theorem endsWith_parenthesized (h : EndsWith (· ≠ ',') e) : EndsWith (· ≠ ',') (parenthesized? e) := by
  rw [parenthesized?_eq]
  exact (EndsWith.letter (by decide)).andThen fun _ => endsWith_blanks.andThen fun _ =>
    endsWith_closing (h.imp fun _ _ => trivial) (by decide)

theorem endsWith_named (h : EndsWith (· ≠ ',') e) : EndsWith (· ≠ ',') (namedNode? e) := by
  have hidentifier : EndsWith (· ≠ ',') identifier? := by
    rw [identifier?_eq]
    refine .headed fun c => ?_
    split_ifs
    · exact .refuse
    · exact endsWith_name
  rw [namedNode?_eq]
  exact hidentifier.andThen fun name =>
    ((endsWith_callArguments h).mapped _).alternatively (endsWith_hop.many.mapped _)

theorem endsWith_factor (h : EndsWith (· ≠ ',') e) : EndsWith (· ≠ ',') (factor? e) := by
  have hnumber : EndsWith (· ≠ ',') numberNode? :=
    endsWith_number.mapped fun text =>
      Node.constant (formatNumber (parseFloat (String.ofList text))) .number
  rw [factor?_eq]
  refine .headed fun c => ?_
  split_ifs with hdigit hquote
  · exact hnumber
  · refine (EndsWith.letter ?_).andThen fun _ => (endsWith_quoted hquote).mapped _
    rcases hquote with rfl | rfl <;> decide
  · rw [pathNode?_eq]
    exact endsWith_hop.andThen fun _ => endsWith_hop.many.mapped _
  · exact endsWith_parenthesized h
  · exact endsWith_named h

/-- **No expression ends with a comma.** -/
theorem endsWith_expression (depth : Nat) : EndsWith (· ≠ ',') (expression? depth) := by
  induction depth with
  | zero => exact .refuse
  | succ depth ih =>
    rw [expression?_succ]
    exact endsWith_level (endsWith_level (endsWith_level (endsWith_factor ih) 1) 2) 3

end Commas

/-! ## 2. With a comma behind -/

section Behind

variable {depth : Nat} {cs more rest piece : List Char} {e : Faceted.Expression}

/-- A comma is no blank, so what is behind it is not passed over. -/
theorem skipSpaces_comma (cs more : List Char) :
    skipSpaces (cs ++ ',' :: more) = skipSpaces cs ++ ',' :: more := by
  by_cases h : skipSpaces cs = []
  · have hblank : ∀ c ∈ cs, isSpace c = true := List.dropWhile_eq_nil_iff.mp h
    rw [h, skipSpaces, List.dropWhile_append_of_pos hblank]
    rfl
  · exact skipSpaces_append h (',' :: more)

/-- An expression that leaves only blanks leaves a comma behind them too. -/
theorem expression?_comma (hlt : (cs ++ ',' :: more).length < depth) {root : Node}
    (h : expression? depth cs = some (root, rest)) (hblank : skipSpaces rest = []) :
    expression? depth (cs ++ ',' :: more) = some (root, rest ++ ',' :: more) := by
  have htracks := tracks_expression (Nat.le_refl depth) (Nat.le_refl depth)
  have hlt' : (cs ++ [',']).length < depth := by
    rw [List.length_append, List.length_cons] at hlt ⊢
    simp only [List.length_nil]
    omega
  -- with the comma alone behind it the comma is left, since no expression ends with one
  obtain ⟨root', rest', hread, hsuffix⟩ := htracks.grow hlt' h
  obtain ⟨text, htext, hlast⟩ := endsWith_expression depth hread
  rcases List.suffix_concat_iff.mp hsuffix with rfl | ⟨left, rfl, -⟩
  · rw [List.append_nil] at htext
    exact absurd rfl (hlast ',' (by rw [← htext, List.getLast?_concat]; rfl))
  · have hcut := htracks.cut hlt' hread
    rw [h] at hcut
    cases hcut
    have hstops : Stops 3 (rest ++ [',']) := by
      rw [Stops, skipSpaces_comma, hblank]
      exact ⟨',', rfl, by decide⟩
    have hmore : (cs ++ [','] ++ more).length < depth := by rwa [List.append_assoc]
    have hstay := htracks.stay hmore hread hstops
    rwa [List.append_assoc, List.append_assoc] at hstay

/-- **With a comma behind it an expression is read as without**, blanks before the comma included. -/
theorem sourced_comma (hlt : (cs ++ ',' :: more).length < depth) (hblank : skipSpaces rest = []) :
    sourced depth (cs ++ ',' :: more) = some (e, rest ++ ',' :: more) ↔
      sourced depth cs = some (e, rest) := by
  refine ⟨sourced_cut hlt, fun h => ?_⟩
  obtain ⟨root, hread, rfl⟩ := sourced_eq_some.mp h
  exact sourced_eq_some.mpr ⟨root, expression?_comma hlt hread hblank, by rw [take_append_more]⟩

/-- A text is an expression if only blanks are left of it, at any depth that is enough. -/
theorem parseChars?_eq_some (hlt : piece.length < depth) : parseChars? piece = some e ↔
    ∃ rest, sourced depth (skipSpaces piece) = some (e, rest) ∧ skipSpaces rest = [] := by
  have hle := skipSpaces_length_le piece
  have hdepth : sourced (depthOf piece) (skipSpaces piece) = sourced depth (skipSpaces piece) :=
    sourced_depth (Nat.lt_succ_of_le hle) (Nat.lt_of_le_of_lt hle hlt)
  rw [parseChars?, hdepth]
  cases sourced depth (skipSpaces piece) with
  | none => simp
  | some read =>
    obtain ⟨e', rest⟩ := read
    rw [Option.ite_none_right_eq_some, List.isEmpty_iff]
    constructor
    · rintro ⟨hblank, ⟨⟩⟩
      exact ⟨rest, rfl, hblank⟩
    · rintro ⟨rest, ⟨⟩, hblank⟩
      exact ⟨hblank, rfl⟩

/-- The same of a text with a comma behind it. -/
theorem parseChars?_comma (hlt : (piece ++ ',' :: more).length < depth) :
    parseChars? piece = some e ↔ ∃ gap, skipSpaces gap = [] ∧
      sourced depth (skipSpaces (piece ++ ',' :: more)) = some (e, gap ++ ',' :: more) := by
  rw [parseChars?_eq_some (length_lt_of_append hlt), skipSpaces_comma]
  have hlt' : (skipSpaces piece ++ ',' :: more).length < depth := by
    rw [← skipSpaces_comma]
    exact Nat.lt_of_le_of_lt (skipSpaces_length_le _) hlt
  constructor
  · rintro ⟨gap, hread, hblank⟩
    exact ⟨gap, hblank, (sourced_comma hlt' hblank).mpr hread⟩
  · rintro ⟨gap, hblank, hread⟩
    exact ⟨gap, (sourced_comma hlt' hblank).mp hread, hblank⟩

end Behind

/-! ## 3. Lists -/

/-- What follows an element of a list: nothing but blanks, or a comma and the next element, which is
    followed by others in its turn. -/
inductive Continues (element : Part α) : List Char → List α → Prop
  | done {cs : List Char} (hblank : skipSpaces cs = []) : Continues element cs []
  | next {cs more rest : List Char} {x : α} {xs : List α} (hcomma : skipSpaces cs = ',' :: more)
      (hread : element (skipSpaces more) = some (x, rest)) (hrest : Continues element rest xs) :
      Continues element cs (x :: xs)

/-- An element, and what follows it. -/
inductive IsList (element : Part α) (cs : List Char) : List α → Prop
  | intro {rest : List Char} {x : α} {xs : List α} (hread : element (skipSpaces cs) = some (x, rest))
      (hrest : Continues element rest xs) : IsList element cs (x :: xs)

section Elements

variable {element : Part α} {n rounds : Nat} {cs more rest : List Char} {x : α} {xs : List α}

/-- Behind the next element there is less than behind the one before. -/
theorem next_length_lt (htakes : Takes n 1 element) (hlt : cs.length < n)
    (hcomma : skipSpaces cs = ',' :: more) (hread : element (skipSpaces more) = some (x, rest)) :
    rest.length < cs.length := by
  have hmore : more.length + 1 ≤ cs.length := by
    have hle := skipSpaces_length_le cs
    rwa [hcomma, List.length_cons] at hle
  have hle := skipSpaces_length_le more
  have hrest := (htakes (by omega) hread).2
  omega

/-- Elements after commas are read until only blanks are left iff they follow one another. -/
theorem commasWithin_iff (htakes : Takes n 1 element) (hlt : cs.length < n)
    (hrounds : cs.length ≤ rounds) :
    (∃ rest, commasWithin element rounds cs = (xs, rest) ∧ skipSpaces rest = []) ↔
      Continues element cs xs := by
  constructor
  · rintro ⟨rest, hread, hblank⟩
    induction rounds generalizing cs xs with
    | zero =>
      cases hread
      exact .done hblank
    | succ rounds ih =>
      rw [commasWithin] at hread
      split at hread
      · next more hcomma =>
        split at hread
        · -- the comma is left, and no blank
          cases hread
          rw [hcomma] at hblank
          cases hblank
        · next x left hx =>
          have hleft := next_length_lt htakes hlt hcomma hx
          obtain ⟨rfl, rfl⟩ := Prod.mk.inj hread
          exact .next hcomma hx (ih (by omega) (by omega) rfl)
      · cases hread
        exact .done hblank
  · intro h
    induction h generalizing rounds with
    | @done cs hblank =>
      refine ⟨cs, ?_, hblank⟩
      cases rounds with
      | zero => rfl
      | succ rounds => rw [commasWithin, hblank]
    | next hcomma hread _ ih =>
      have hleft := next_length_lt htakes hlt hcomma hread
      obtain ⟨rounds, rfl⟩ : ∃ r, rounds = r + 1 := ⟨rounds - 1, by omega⟩
      obtain ⟨left, hxs, hblank⟩ := @ih rounds (by omega) (by omega)
      refine ⟨left, ?_, hblank⟩
      simp only [commasWithin, hcomma, hread, hxs]

/-- Blanks before what follows make no difference. -/
theorem Continues.skipSpaces_iff :
    Continues element (skipSpaces cs) xs ↔ Continues element cs xs := by
  have hskip : skipSpaces (skipSpaces cs) = skipSpaces cs := List.dropWhile_idempotent isSpace cs
  constructor
  · intro h
    cases h with
    | done hblank => exact .done (hskip ▸ hblank)
    | next hcomma hread hrest => exact .next (hskip ▸ hcomma) hread hrest
  · intro h
    cases h with
    | done hblank => exact .done (hskip.trans hblank)
    | next hcomma hread hrest => exact .next (hskip.trans hcomma) hread hrest

end Elements

section Pieces

variable {depth : Nat} {cs : List Char} {es : List Faceted.Expression}

/-- A text is read as a list iff its elements follow one another to its end. -/
theorem parseSeveralChars?_eq_some :
    parseSeveralChars? cs = some es ↔ IsList (sourced (depthOf cs)) cs es := by
  have hlt : (skipSpaces cs).length < depthOf cs := Nat.lt_succ_of_le (skipSpaces_length_le cs)
  unfold parseSeveralChars? commaSeparated
  cases hread : sourced (depthOf cs) (skipSpaces cs) with
  | none =>
    constructor
    · intro h
      cases h
    · rintro ⟨hsome, -⟩
      cases hread.symm.trans hsome
  | some read =>
    obtain ⟨e, rest⟩ := read
    have hrest := Nat.lt_of_le_of_lt (skipSpaces_length_le rest)
      (Nat.lt_trans (takes_sourced hlt hread).2 hlt)
    have hwithin (es : List Faceted.Expression) : (∃ left,
        commasWithin (sourced (depthOf cs)) (skipSpaces rest).length (skipSpaces rest) = (es, left) ∧
          skipSpaces left = []) ↔ Continues (sourced (depthOf cs)) rest es :=
      (commasWithin_iff takes_sourced hrest (Nat.le_refl _)).trans Continues.skipSpaces_iff
    simp only [Option.ite_none_right_eq_some, List.isEmpty_iff]
    constructor
    · rintro ⟨hblank, ⟨⟩⟩
      exact .intro hread ((hwithin _).mp ⟨_, rfl, hblank⟩)
    · rintro ⟨hread', hcontinues⟩
      cases hread.symm.trans hread'
      obtain ⟨left, hes, hblank⟩ := (hwithin _).mpr hcontinues
      rw [hes]
      exact ⟨hblank, rfl⟩

/-- Expressions that follow one another are those of pieces between commas. -/
theorem IsList.exists_pieces (hlt : cs.length < depth) (h : IsList (sourced depth) cs es) :
    ∃ pieces, pieces ≠ [] ∧ cs = [','].intercalate pieces ∧
      List.Forall₂ (fun piece e => parseChars? piece = some e) pieces es := by
  obtain @⟨rest, e, es, hread, hrest⟩ := h
  induction hrest generalizing cs e with
  | @done rest hblank =>
    refine ⟨[cs], List.cons_ne_nil _ _, List.intercalate_singleton.symm, .cons ?_ .nil⟩
    exact (parseChars?_eq_some hlt).mpr ⟨rest, hread, hblank⟩
  | @next rest more left e' es hcomma hnext _ ih =>
    -- the piece is what is before the comma
    obtain ⟨gap, hgap, hrest⟩ := exists_gap rest
    rw [hcomma] at hrest
    subst hrest
    have hsuffix : ',' :: more <:+ cs :=
      (List.suffix_append gap _).trans ((takes_sourced (Nat.lt_of_le_of_lt (skipSpaces_length_le cs) hlt)
        hread).1.trans (List.dropWhile_suffix isSpace))
    obtain ⟨piece, rfl⟩ := hsuffix
    have hmore : more.length < depth := by
      rw [List.length_append, List.length_cons] at hlt
      omega
    obtain ⟨pieces, hne, hpieces, hparse⟩ := ih hmore hnext
    obtain ⟨next, pieces, rfl⟩ := List.exists_cons_of_ne_nil hne
    refine ⟨piece :: next :: pieces, List.cons_ne_nil _ _, ?_, .cons ?_ hparse⟩
    · rw [List.intercalate_cons_cons, ← hpieces, List.append_assoc]
      rfl
    · exact (parseChars?_comma hlt).mpr ⟨gap, hgap, hread⟩

/-- Pieces that are expressions follow one another when commas are put between them. -/
theorem isList_intercalate {pieces : List (List Char)} (hne : pieces ≠ [])
    (h : List.Forall₂ (fun piece e => parseChars? piece = some e) pieces es)
    (hlt : ([','].intercalate pieces).length < depth) :
    IsList (sourced depth) ([','].intercalate pieces) es := by
  induction h with
  | nil => exact absurd rfl hne
  | @cons piece e pieces es hparse hrest ih =>
    cases hrest with
    | nil =>
      rw [List.intercalate_singleton] at hlt ⊢
      obtain ⟨rest, hread, hblank⟩ := (parseChars?_eq_some hlt).mp hparse
      exact .intro hread (.done hblank)
    | @cons next e' pieces es _ _ =>
      rw [List.intercalate_cons_cons, List.append_assoc, List.singleton_append] at hlt ⊢
      obtain ⟨gap, hgap, hread⟩ := (parseChars?_comma hlt).mp hparse
      have hcomma (more : List Char) : skipSpaces (gap ++ ',' :: more) = ',' :: more := by
        rw [skipSpaces_comma, hgap, List.nil_append]
      have hmore : ([','].intercalate (next :: pieces)).length < depth := by
        rw [List.length_append, List.length_cons] at hlt
        omega
      obtain ⟨hnext, hcontinues⟩ := ih (List.cons_ne_nil _ _) hmore
      exact .intro hread (.next (hcomma _) hnext hcontinues)

theorem parse_eq_ok {s : String} {e : Faceted.Expression} :
    parse s = .ok e ↔ parseChars? s.toList = some e := by
  unfold parse
  cases parseChars? s.toList <;> simp

/-- **A list is read as its parts are**: a text is read as a list of expressions iff it consists of one
    text or more with commas between them, and each of these is read as the expression at its place, from
    the same source. -/
theorem parseSeveral_eq_ok_iff (s : String) (es : List Faceted.Expression) :
    parseSeveral s = .ok es ↔ ∃ texts : List String, texts ≠ [] ∧ s = ",".intercalate texts ∧
      List.Forall₂ (fun text e => parse text = .ok e) texts es := by
  have hlt : s.toList.length < depthOf s.toList := Nat.lt_succ_self _
  have hchars : parseSeveral s = .ok es ↔ IsList (sourced (depthOf s.toList)) s.toList es := by
    rw [← parseSeveralChars?_eq_some, parseSeveral]
    cases parseSeveralChars? s.toList <;> simp
  rw [hchars]
  constructor
  · intro h
    obtain ⟨pieces, hne, hs, hparse⟩ := h.exists_pieces hlt
    refine ⟨pieces.map String.ofList, by simpa using hne, ?_, ?_⟩
    · rw [← String.toList_inj, String.toList_intercalate, List.map_map]
      simpa [Function.comp_def] using hs
    · rw [List.forall₂_map_left_iff]
      exact hparse.imp fun piece e h => parse_eq_ok.mpr (by rwa [String.toList_ofList])
  · rintro ⟨texts, hne, rfl, hparse⟩
    rw [String.toList_intercalate] at hlt ⊢
    refine isList_intercalate (by simpa using hne) ?_ hlt
    rw [List.forall₂_map_left_iff]
    exact hparse.imp fun text e => parse_eq_ok.mp

/-- Of three commas one stands between expressions. -/
example : parseSeveral "f(a, b) , 'x,y'" = .ok
    [⟨"f(a, b) ", .call "f" [.path ⟨some "a", []⟩, .path ⟨some "b", []⟩]⟩,
      ⟨"'x,y'", .constant "x,y" .text⟩] := by cbv

end Pieces

end Faceted.Expression
