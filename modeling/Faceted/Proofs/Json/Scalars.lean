import Faceted.Json.Reader

/-!
# Scalars read back

A scalar that has been written as JSON text is the next token that is read there, whatever follows it in
the text of a value. For strings and words this holds in general. A double is written with the shortest
digits that stand for it, and what is read from digits is another computation, so that a number is read
back is a property of the number (`ReadsBack`).

* `Ends`: what may follow a value;
* **`readToken?_number`**: a number that is read back on its own is read back before such a rest;
* **`readToken?_string`**: every string is read back, character by character;
* `readToken?_true`, `readToken?_false`, `readToken?_null`: the words.
-/

namespace Faceted.Json

open Faceted.Text Faceted.Decimal

variable {cs rest : List Char}

/-! ## 1. What follows a value -/

/-- Nothing follows, or what ends an element or a container. -/
def Ends (rest : List Char) : Prop := ∀ c ∈ rest.head?, c = ',' ∨ c = ']' ∨ c = '\x7d'

theorem ends_nil : Ends [] := fun _ h => absurd h (by simp)

theorem ends_comma (rest : List Char) : Ends (',' :: rest) := by simp [Ends]

theorem ends_closeArray (rest : List Char) : Ends (']' :: rest) := by simp [Ends]

theorem ends_closeObject (rest : List Char) : Ends ('\x7d' :: rest) := by simp [Ends]

/-- What follows does not begin with a given other character. -/
theorem Ends.head_ne (h : Ends rest) {c : Char} (hc : ¬ (c = ',' ∨ c = ']' ∨ c = '\x7d'))
    (tail : List Char) : rest ≠ c :: tail := by
  rintro rfl
  exact hc (h c rfl)

/-- What is left over of a piece has the rest behind it. -/
def followedBy {α : Type} (rest : List Char) (answer : α × List Char) : α × List Char :=
  (answer.1, answer.2 ++ rest)

/-! ## 2. Numbers -/

theorem takeWhile_digits_append (h : Ends rest) (cs : List Char) :
    (cs ++ rest).takeWhile Char.isDigit = cs.takeWhile Char.isDigit ∧
      (cs ++ rest).dropWhile Char.isDigit = cs.dropWhile Char.isDigit ++ rest := by
  induction cs with
  | nil =>
    cases rest with
    | nil => exact ⟨rfl, rfl⟩
    | cons c tail =>
      have hc : c.isDigit = false := by
        rcases h c rfl with rfl | rfl | rfl <;> rfl
      simp [hc]
  | cons c cs ih =>
    cases hc : c.isDigit with
    | true => simp [hc, ih.1, ih.2]
    | false => simp [hc]

theorem someDigits?_append (h : Ends rest) (cs : List Char) :
    someDigits? (cs ++ rest) = (someDigits? cs).map (followedBy rest) := by
  obtain ⟨htake, hdrop⟩ := takeWhile_digits_append h cs
  unfold someDigits?
  rw [htake, hdrop]
  cases cs.takeWhile Char.isDigit <;> rfl

/-! The parts of a number one by one. -/

def signOf : List Char → Bool × List Char
  | '-' :: rest => (true, rest)
  | cs => (false, cs)

/-- The digits after a point, if there is one. -/
def fractionPart? : List Char → Option (List Char × List Char)
  | '.' :: rest => someDigits? rest
  | cs => some ([], cs)

/-- An exponent, if there is one. -/
def exponentPart? (cs : List Char) : Option (Option Int × List Char) :=
  match cs with
  | e :: rest =>
    if e = 'e' ∨ e = 'E' then do
      let (minus, rest) := splitSign rest
      let (ds, rest) ← someDigits? rest
      let n : Int := ofDigits ds
      some (some (if minus then -n else n), rest)
    else some (none, cs)
  | [] => some (none, cs)

/-- A number without its sign. -/
def magnitude? (negative : Bool) (cs : List Char) : Option (Json × List Char) :=
  (someDigits? cs).bind fun (whole, cs) =>
    if whole.head? = some '0' ∧ whole.length ≠ 1 then none
    else
      (fractionPart? cs).bind fun (fraction, cs) =>
        (exponentPart? cs).bind fun (exponent, cs) => do
          let v ← number? negative whole fraction exponent
          return (v, cs)

theorem signOf_plain {c : Char} (hc : c ≠ '-') (cs : List Char) :
    signOf (c :: cs) = (false, c :: cs) := by
  unfold signOf
  split
  · next h => exact absurd (List.cons.inj h).1 hc
  · rfl

theorem fractionPart?_plain {c : Char} (hc : c ≠ '.') (cs : List Char) :
    fractionPart? (c :: cs) = some ([], c :: cs) := by
  unfold fractionPart?
  split
  · next h => exact absurd (List.cons.inj h).1 hc
  · rfl

/-- **A number** is read part by part. -/
theorem readNumber?_eq (cs : List Char) : readNumber? cs = magnitude? (signOf cs).1 (signOf cs).2 := by
  unfold readNumber?
  split
  next negative magnitude hsign =>
  have hsame : signOf cs = (negative, magnitude) := by
    rw [← hsign]
    cases cs with
    | nil => rfl
    | cons c cs =>
      by_cases hc : c = '-'
      · subst hc
        rfl
      · rw [signOf_plain hc]
        split
        · next h => exact absurd (List.cons.inj h).1 hc
        · rfl
  rw [hsame]
  clear hsame hsign
  unfold magnitude?
  refine Option.bind_congr fun whole _ => ?_
  dsimp only
  split
  · rfl
  · cases whole.2 with
    | nil => rfl
    | cons c rest =>
      by_cases hc : c = '.'
      · subst hc
        refine Option.bind_congr fun fraction _ => ?_
        cases fraction.2 with
        | nil => rfl
        | cons e rest =>
          unfold exponentPart?
          dsimp only
          split
          · cases someDigits? (splitSign rest).2 <;> rfl
          · rfl
      · rw [fractionPart?_plain hc]
        split
        · next h => exact absurd (List.cons.inj h).1 hc
        · unfold exponentPart?
          dsimp only
          show (if _ then _ else _) = Option.bind (if _ then _ else _) _
          split
          · cases someDigits? (splitSign rest).2 <;> rfl
          · rfl

theorem fractionPart?_append (h : Ends rest) (cs : List Char) :
    fractionPart? (cs ++ rest) = (fractionPart? cs).map (followedBy rest) := by
  cases cs with
  | nil =>
    unfold fractionPart?
    split
    · next tail heq => exact absurd heq (h.head_ne (by decide) tail)
    · rfl
  | cons c cs =>
    by_cases hc : c = '.'
    · subst hc
      exact someDigits?_append h cs
    · rw [List.cons_append, fractionPart?_plain hc, fractionPart?_plain hc]
      rfl

theorem splitSign_append (h : Ends rest) (cs : List Char) :
    splitSign (cs ++ rest) = followedBy rest (splitSign cs) := by
  cases cs with
  | nil =>
    unfold splitSign
    split
    · next tail heq => exact absurd heq (h.head_ne (by decide) tail)
    · next tail heq => exact absurd heq (h.head_ne (by decide) tail)
    · rfl
  | cons c cs =>
    by_cases hminus : c = '-'
    · subst hminus
      rfl
    · by_cases hplus : c = '+'
      · subst hplus
        rfl
      · have hplain (cs : List Char) : splitSign (c :: cs) = (false, c :: cs) := by
          unfold splitSign
          split
          · next heq => exact absurd (List.cons.inj heq).1 hminus
          · next heq => exact absurd (List.cons.inj heq).1 hplus
          · rfl
        rw [List.cons_append, hplain, hplain]
        rfl

theorem exponentPart?_append (h : Ends rest) (cs : List Char) :
    exponentPart? (cs ++ rest) = (exponentPart? cs).map (followedBy rest) := by
  cases cs with
  | nil =>
    cases rest with
    | nil => rfl
    | cons c tail =>
      have hc : ¬ (c = 'e' ∨ c = 'E') := by
        rcases h c rfl with rfl | rfl | rfl <;> decide
      exact if_neg hc
  | cons c cs =>
    unfold exponentPart?
    dsimp only [List.cons_append]
    rw [splitSign_append h]
    dsimp only [followedBy]
    rw [someDigits?_append h]
    split
    · cases someDigits? (splitSign cs).2 <;> rfl
    · rfl

theorem magnitude?_append (h : Ends rest) (negative : Bool) (cs : List Char) :
    magnitude? negative (cs ++ rest) = (magnitude? negative cs).map (followedBy rest) := by
  unfold magnitude?
  rw [someDigits?_append h]
  cases someDigits? cs with
  | none => rfl
  | some whole =>
    dsimp only [Option.map_some, Option.bind_some, followedBy]
    split
    · rfl
    · rw [fractionPart?_append h]
      cases fractionPart? whole.2 with
      | none => rfl
      | some fraction =>
        dsimp only [Option.map_some, Option.bind_some, followedBy]
        rw [exponentPart?_append h]
        cases exponentPart? fraction.2 with
        | none => rfl
        | some exponent =>
          dsimp only [Option.map_some, Option.bind_some, followedBy]
          cases number? negative whole.1 fraction.1 exponent.1 <;> rfl

/-- **What follows a value** is not read with a number. -/
theorem readNumber?_append (h : Ends rest) {cs : List Char} {answer : Json × List Char}
    (hcs : readNumber? cs = some answer) : readNumber? (cs ++ rest) = some (followedBy rest answer) := by
  have hsign : signOf (cs ++ rest) = followedBy rest (signOf cs) := by
    cases cs with
    | nil => cases hcs
    | cons c cs =>
      by_cases hc : c = '-'
      · subst hc
        rfl
      · rw [List.cons_append, signOf_plain hc, signOf_plain hc]
        rfl
  rw [readNumber?_eq] at hcs ⊢
  rw [hsign]
  dsimp only [followedBy]
  rw [magnitude?_append h, hcs]
  rfl

/-- A number begins with a digit or a minus. -/
theorem head_of_readNumber? {c : Char} {cs : List Char} {answer : Json × List Char}
    (h : readNumber? (c :: cs) = some answer) : c = '-' ∨ c.isDigit = true := by
  by_cases hc : c = '-'
  · exact .inl hc
  · cases hdigit : c.isDigit with
    | true => exact .inr rfl
    | false =>
      have hnone : someDigits? (c :: cs) = none := by
        unfold someDigits?
        rw [List.takeWhile_cons_of_neg (by simp [hdigit])]
      rw [readNumber?_eq, signOf_plain hc, magnitude?, hnone] at h
      cases h

/-! ## 3. Strings -/

/-- A character below the blank is written with four hexadecimal digits, the first two of them zeros. -/
theorem control_digits : ∀ n < 0x20,
    hex4? '0' '0' (if n < 16 then '0' else '1') (Nat.digitChar (n % 16)) = some n ∧
      List.replicate (4 - (Nat.toDigits 16 n).length) '0' ++ Nat.toDigits 16 n =
        ['0', '0', if n < 16 then '0' else '1', Nat.digitChar (n % 16)] := by
  decide +kernel

/-- A character that is written as it is is read as it is. -/
theorem readString?_plain {c : Char} (hquote : c ≠ '"') (hescape : c ≠ '\\') (hcontrol : ¬ c.toNat < 0x20)
    (read rest : List Char) : readString? read none (c :: rest) = readString? (c :: read) none rest := by
  rw [readString?.eq_def]
  split
  · next h => cases h
  · next h => exact absurd (List.cons.inj h).1 hescape
  · next h => exact absurd (List.cons.inj h).1 hescape
  · next h =>
    obtain ⟨rfl, rfl⟩ := List.cons.inj h
    rw [if_neg (by simp [hcontrol, hescape]), if_neg hquote]

theorem readString?_control {c : Char} (h : c.toNat < 0x20) (read rest : List Char) :
    readString? read none ((['\\', 'u'] ++ List.replicate (4 - (Nat.toDigits 16 c.toNat).length) '0' ++
      Nat.toDigits 16 c.toNat) ++ rest) = readString? (c :: read) none rest := by
  obtain ⟨hvalue, hdigits⟩ := control_digits c.toNat h
  rw [List.append_assoc ['\\', 'u'], hdigits]
  show readString? read none ('\\' :: 'u' :: '0' :: '0' :: _ :: _ :: rest) = _
  rw [readString?.eq_def]
  split
  · next heq => cases heq
  · next heq =>
    simp only [List.cons.injEq, true_and] at heq
    obtain ⟨rfl, rfl, rfl, rfl, rfl⟩ := heq
    rw [hvalue]
    dsimp only
    rw [if_neg (by omega), if_neg (by omega), Char.ofNat_toNat]
  · next hno heq =>
    simp only [List.cons.injEq, true_and] at heq
    obtain ⟨rfl, rfl⟩ := heq
    exact absurd rfl (hno _ _ _ _ _ rfl)
  · next hno heq =>
    obtain ⟨rfl, rfl⟩ := List.cons.inj heq
    exact (hno _ _ rfl rfl).elim

/-- **A character is read back** from how it is written. -/
theorem readString?_escapedChar (read : List Char) (c : Char) (rest : List Char) :
    readString? read none (escapedChar c ++ rest) = readString? (c :: read) none rest := by
  have hescape {e : Char} (he : escape? e = some c) (hu : e ≠ 'u') :
      readString? read none ('\\' :: e :: rest) = readString? (c :: read) none rest := by
    rw [readString?.eq_def]
    split
    · next h => cases h
    · next h => exact absurd (List.cons.inj (List.cons.inj h).2).1 hu
    · next h =>
      obtain ⟨rfl, rfl⟩ := List.cons.inj (List.cons.inj h).2
      rw [he]
    · next hno h =>
      obtain ⟨rfl, rfl⟩ := List.cons.inj h
      exact (hno e rest rfl rfl).elim
  unfold escapedChar
  split
  · next h => exact hescape (by rw [h]; rfl) (by decide)
  split
  · next h => exact hescape (by rw [h]; rfl) (by decide)
  split
  · next h => exact hescape (by rw [h]; rfl) (by decide)
  split
  · next h => exact hescape (by rw [h]; rfl) (by decide)
  split
  · next h => exact hescape (by rw [h]; rfl) (by decide)
  split
  · next h => exact hescape (by rw [h]; rfl) (by decide)
  split
  · next h => exact hescape (by rw [h]; rfl) (by decide)
  split
  · next h => exact readString?_control h read rest
  · exact readString?_plain ‹_› ‹_› ‹_› read rest

/-- The characters of a string up to its closing quote. -/
theorem readString?_chars (cs read rest : List Char) :
    readString? read none (cs.flatMap escapedChar ++ '"' :: rest) =
      some (String.ofList (read.reverse ++ cs), rest) := by
  induction cs generalizing read with
  | nil =>
    rw [List.append_nil]
    rfl
  | cons c cs ih =>
    rw [List.flatMap_cons, List.append_assoc, readString?_escapedChar, ih, List.reverse_cons,
      List.append_assoc, List.singleton_append]

/-! ## 4. Tokens -/

/-- **Every string is read back.** -/
theorem readToken?_string (s : String) (rest : List Char) :
    readToken? ((renderString s).toList ++ rest) = some (.scalar (.string s), rest) := by
  have hread := readString?_chars s.toList [] rest
  rw [List.reverse_nil, List.nil_append, String.ofList_toList] at hread
  rw [renderString, String.toList_ofList, List.cons_append, List.append_assoc, List.singleton_append,
    readToken?, hread]
  rfl

theorem readToken?_true (rest : List Char) :
    readToken? ("true".toList ++ rest) = some (.scalar (.bool true), rest) := rfl

theorem readToken?_false (rest : List Char) :
    readToken? ("false".toList ++ rest) = some (.scalar (.bool false), rest) := rfl

theorem readToken?_null (rest : List Char) :
    readToken? ("null".toList ++ rest) = some (.scalar .null, rest) := rfl

/-- What no other token begins with is read as a number. -/
theorem readToken?_of_head {c : Char}
    (hc : c ∉ ['[', ']', '\x7b', '\x7d', ',', ':', '"', 't', 'f', 'n']) (cs : List Char) :
    readToken? (c :: cs) = (readNumber? (c :: cs)).map fun (v, rest) => (.scalar v, rest) := by
  simp only [List.mem_cons, List.not_mem_nil, or_false, not_or] at hc
  obtain ⟨h₁, h₂, h₃, h₄, h₅, h₆, h₇, ht, hf, hn⟩ := hc
  have hword {w : List Char} {d : Char} (hd : c ≠ d) : (d :: w).isPrefixOf (c :: cs) = false := by
    rw [List.isPrefixOf_cons_cons, beq_eq_false_iff_ne.mpr hd.symm, Bool.false_and]
  have hnone : (words.find? fun w => w.1.isPrefixOf (c :: cs)) = none := by
    refine List.find?_eq_none.mpr fun w hw => ?_
    simp only [words, List.mem_cons, List.not_mem_nil, or_false] at hw
    rw [Bool.not_eq_true]
    rcases hw with rfl | rfl | rfl
    · exact hword ht
    · exact hword hf
    · exact hword hn
  unfold readToken?
  split
  · next h => exact absurd (List.cons.inj h).1 h₁
  · next h => exact absurd (List.cons.inj h).1 h₂
  · next h => exact absurd (List.cons.inj h).1 h₃
  · next h => exact absurd (List.cons.inj h).1 h₄
  · next h => exact absurd (List.cons.inj h).1 h₅
  · next h => exact absurd (List.cons.inj h).1 h₆
  · next h => exact absurd (List.cons.inj h).1 h₇
  · rw [hnone]

/-- No other token begins with a digit or a minus. -/
theorem not_mem_of_number {c : Char} (hc : c = '-' ∨ c.isDigit = true) :
    c ∉ ['[', ']', '\x7b', '\x7d', ',', ':', '"', 't', 'f', 'n'] := by
  intro hmem
  simp only [List.mem_cons, List.not_mem_nil, or_false] at hmem
  rcases hmem with rfl | rfl | rfl | rfl | rfl | rfl | rfl | rfl | rfl | rfl <;>
    exact absurd hc (by decide)

/-- **A number that is read back** on its own is read back in the text of a value. -/
theorem readToken?_number (h : Ends rest) {v : Json} (hcs : readNumber? cs = some (v, [])) :
    readToken? (cs ++ rest) = some (.scalar v, rest) := by
  cases cs with
  | nil => cases hcs
  | cons c cs =>
    rw [List.cons_append, readToken?_of_head (not_mem_of_number (head_of_readNumber? hcs)),
      ← List.cons_append, readNumber?_append h hcs]
    rfl

/-- The double is read back from its JSON text. -/
def ReadsBack (x : Float) : Prop :=
  readNumber? (Layout.jsonText.render x).toList = some (.float x, [])

/-- A token does not begin with a blank. -/
theorem dropWhile_of_readToken? {t : Token} (h : readToken? cs = some (t, rest)) :
    cs.dropWhile isSpace = cs := by
  cases cs with
  | nil => rfl
  | cons c cs =>
    cases hspace : isSpace c with
    | false => rw [List.dropWhile_cons_of_neg (by simp [hspace])]
    | true =>
      -- neither a number nor another token begins with a blank
      unfold isSpace at hspace
      simp only [Bool.or_eq_true, beq_iff_eq] at hspace
      have hother : c ∉ ['[', ']', '\x7b', '\x7d', ',', ':', '"', 't', 'f', 'n'] := by
        rcases hspace with ((rfl | rfl) | rfl) | rfl <;> decide
      rw [readToken?_of_head hother] at h
      obtain ⟨answer, hanswer, -⟩ := Option.map_eq_some_iff.mp h
      have hdigit := head_of_readNumber? hanswer
      rcases hspace with ((rfl | rfl) | rfl) | rfl <;> cases hdigit <;> contradiction

end Faceted.Json
