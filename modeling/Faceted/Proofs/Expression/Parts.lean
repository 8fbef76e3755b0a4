import Faceted.Expression.Parser

/-!
# Parts of a text that goes on

A reader of a part of an expression looks ahead, and so what it reads may depend on what follows. Here
texts are compared with the same texts going on: what is read of the one against what is read of the
other, by two readers, as expressions are read at different depths.

* `andThen`, `many` and their like make parts of parts;
* `Tracks`: with more behind it a text is read at least as far as without (`grow`), and as far and no
  further if it is read up to something that stops the reader (`stay`); what is read of it, if no more
  than the text itself is used up, is also read without what follows (`cut`);
* **`Tracks.andThen`**, `Tracks.alternatively`, `Tracks.many`: parts made of such parts are such parts,
  if what comes next is there only after what stops the one before.
-/

namespace Faceted.Expression

variable {α β γ : Type}

/-! ## 1. Parts made of parts -/

/-- One part and then another. -/
def andThen (p : Part α) (q : α → Part β) : Part β := fun cs =>
  match p cs with
  | none => none
  | some (x, rest) => q x rest

/-- The part, with something else made of what is read. -/
def mapped (f : α → β) (p : Part α) : Part β := fun cs => (p cs).map fun (x, rest) => (f x, rest)

/-- The first part, or else the second. -/
def alternatively (p q : Part α) : Part α := fun cs =>
  match p cs with
  | none => q cs
  | some read => some read

/-- Nothing is read. -/
def give (x : α) : Part α := fun cs => some (x, cs)

/-- Nothing is there to be read. -/
def refuse : Part α := fun _ => none

def letter (c : Char) : Part Unit
  | d :: rest => if d = c then some ((), rest) else none
  | [] => none

/-- Characters that pass the test, if only none. -/
def run (p : Char → Bool) : Part (List Char) := fun cs => some (span p cs)

/-- One character or more that pass the test. -/
def word (p : Char → Bool) : Part (List Char) := fun cs =>
  match span p cs with
  | ([], _) => none
  | (w, rest) => some (w, rest)

/-- A part that is chosen by the first character. -/
def headed (f : Char → Part α) : Part α := fun cs =>
  match cs with
  | [] => none
  | c :: _ => f c cs

/-- The part again and again, as long as it is there. -/
def manyWithin (p : Part α) : (rounds : Nat) → List Char → List α × List Char
  | 0, cs => ([], cs)
  | rounds + 1, cs =>
    match p cs with
    | none => ([], cs)
    | some (x, rest) => (x :: (manyWithin p rounds rest).1, (manyWithin p rounds rest).2)

def many (p : Part α) : Part (List α) := fun cs => some (manyWithin p cs.length cs)

/-- A character that may be taken together with the next one. -/
def peek (f : Char → Option Char → Option (α × Bool)) : Part α
  | [] => none
  | c :: rest => (f c rest.head?).map fun (x, both) => (x, if both then rest.tail else rest)

def blanks : Part Unit := mapped (fun _ => ()) (run isSpace)

/-- One part, and behind blanks another one again and again. -/
def chain (p : Part α) (step : Part β) (f : α → List β → γ) : Part γ :=
  andThen p fun x => andThen blanks fun _ => mapped (f x) (many step)

/-! ## 2. Reading on -/

/-- Of texts shorter than `n` the part leaves an end, and takes `k` characters at least. -/
def Takes (n k : Nat) (p : Part α) : Prop :=
  ∀ ⦃cs x rest⦄, cs.length < n → p cs = some (x, rest) → rest <:+ cs ∧ rest.length + k ≤ cs.length

/-- What is left and what follows it are together no longer than the text and what follows that. -/
theorem Takes.length_lt {n m k : Nat} {p : Part α} (hm : m ≤ n + k) (hp : Takes m k p)
    {cs more rest : List Char} {x : α} (hlt : (cs ++ more).length < m) (h : p cs = some (x, rest)) :
    (rest ++ more).length < n := by
  rw [List.length_append] at hlt ⊢
  have := (hp (by omega) h).2
  omega

/-- What the first reader reads of a text and what the second reads of the text with more behind it, which
    is shorter than `n`: the first takes `k` characters at least and is stopped where `stops` says. -/
structure Tracks (n k : Nat) (stops : List Char → Prop) (p p' : Part α) : Prop where
  takes : Takes n k p
  takes' : Takes n k p'
  /-- With more behind it the text is read as far, or further. -/
  grow : ∀ ⦃cs more x rest⦄, (cs ++ more).length < n → p cs = some (x, rest) →
    ∃ x' rest', p' (cs ++ more) = some (x', rest') ∧ rest' <:+ rest ++ more
  /-- What is stopped stays as it is. -/
  stay : ∀ ⦃cs more x rest⦄, (cs ++ more).length < n → p cs = some (x, rest) → stops rest →
    p' (cs ++ more) = some (x, rest ++ more)
  /-- What is read of the text alone can be cut off. -/
  cut : ∀ ⦃cs more x rest⦄, (cs ++ more).length < n → p' (cs ++ more) = some (x, rest ++ more) →
    p cs = some (x, rest)

namespace Tracks

variable {n m k l : Nat} {S T : List Char → Prop} {p p' : Part α}

theorem mono (h : Tracks n k S p p') (hm : m ≤ n) (hl : l ≤ k) (hT : ∀ r, T r → S r) :
    Tracks m l T p p' where
  takes _ _ _ hlt hp := (h.takes (by omega) hp).imp_right fun h => by omega
  takes' _ _ _ hlt hp := (h.takes' (by omega) hp).imp_right fun h => by omega
  grow _ _ _ _ hlt := h.grow (by omega)
  stay _ _ _ _ hlt hp hT' := h.stay (by omega) hp (hT _ hT')
  cut _ _ _ _ hlt := h.cut (by omega)

/-- No text is shorter than nothing. -/
theorem zero : Tracks 0 k S p p' where
  takes _ _ _ hlt := absurd hlt (Nat.not_lt_zero _)
  takes' _ _ _ hlt := absurd hlt (Nat.not_lt_zero _)
  grow _ _ _ _ hlt := absurd hlt (Nat.not_lt_zero _)
  stay _ _ _ _ hlt := absurd hlt (Nat.not_lt_zero _)
  cut _ _ _ _ hlt := absurd hlt (Nat.not_lt_zero _)

/-- What is not read with more behind it is not read without. -/
theorem none_of_none (h : Tracks n k S p p') {cs more : List Char} (hlt : (cs ++ more).length < n)
    (hnone : p' (cs ++ more) = none) : p cs = none := by
  cases hp : p cs with
  | none => rfl
  | some read =>
    obtain ⟨x', rest', hp', -⟩ := h.grow hlt hp
    rw [hnone] at hp'
    cases hp'

end Tracks

/-- A text that ends with another one and more ends with more. -/
theorem exists_append_of_suffix {r more t : List Char} (h : r ++ more <:+ t) :
    ∃ s, t = s ++ more ∧ r <:+ s := by
  obtain ⟨front, rfl⟩ := h
  exact ⟨front ++ r, (List.append_assoc _ _ _).symm, List.suffix_append _ _⟩

theorem length_lt_of_append {cs more : List Char} {n : Nat} (h : (cs ++ more).length < n) :
    cs.length < n :=
  Nat.lt_of_le_of_lt (List.sublist_append_left cs more).length_le h

/-! ## 3. Small parts -/

section Small

variable {n : Nat} {S : List Char → Prop}

theorem tracks_give (x : α) : Tracks n 0 S (give x) (give x) where
  takes := by
    rintro cs y rest - ⟨⟩
    exact ⟨List.suffix_rfl, Nat.le_refl _⟩
  takes' := by
    rintro cs y rest - ⟨⟩
    exact ⟨List.suffix_rfl, Nat.le_refl _⟩
  grow := by
    rintro cs more y rest - ⟨⟩
    exact ⟨x, _, rfl, List.suffix_rfl⟩
  stay := by
    rintro cs more y rest - ⟨⟩ -
    rfl
  cut := by
    intro cs more y rest _ h
    simp only [give, Option.some.injEq, Prod.mk.injEq, List.append_cancel_right_eq] at h ⊢
    exact h

theorem tracks_refuse {k : Nat} : Tracks n k S (refuse : Part α) refuse where
  takes := by rintro cs x rest - ⟨⟩
  takes' := by rintro cs x rest - ⟨⟩
  grow := by rintro cs more x rest - ⟨⟩
  stay := by rintro cs more x rest - ⟨⟩
  cut := by rintro cs more x rest - ⟨⟩

/-- What has its end in itself is the same whatever follows. -/
theorem tracks_of_iff {p : Part α} {P : α → List Char → Prop} (hP : ∀ x, ¬ P x [])
    (h : ∀ cs x rest, p cs = some (x, rest) ↔ ∃ text, cs = text ++ rest ∧ P x text) :
    Tracks n 1 S p p := by
  have htakes : Takes n 1 p := by
    intro cs x rest _ hp
    obtain ⟨text, rfl, hx⟩ := (h _ _ _).mp hp
    cases text with
    | nil => exact absurd hx (hP x)
    | cons c text =>
      refine ⟨List.suffix_append _ _, ?_⟩
      rw [List.length_append, List.length_cons]
      omega
  have happend {cs more x rest} (hp : p cs = some (x, rest)) :
      p (cs ++ more) = some (x, rest ++ more) := by
    obtain ⟨text, rfl, hx⟩ := (h _ _ _).mp hp
    exact (h _ _ _).mpr ⟨text, List.append_assoc _ _ _, hx⟩
  refine ⟨htakes, htakes, fun cs more x rest _ hp => ⟨x, _, happend hp, List.suffix_rfl⟩,
    fun cs more x rest _ hp _ => happend hp, fun cs more x rest _ hp => ?_⟩
  obtain ⟨text, htext, hx⟩ := (h _ _ _).mp hp
  rw [← List.append_assoc, List.append_cancel_right_eq] at htext
  exact (h _ _ _).mpr ⟨text, htext, hx⟩

theorem letter_eq_some {c : Char} {cs rest : List Char} {x : Unit} :
    letter c cs = some (x, rest) ↔ cs = c :: rest := by
  cases cs with
  | nil => simp [letter]
  | cons d cs =>
    simp only [letter, List.cons.injEq]
    split <;> simp_all

theorem tracks_letter (c : Char) : Tracks n 1 S (letter c) (letter c) :=
  tracks_of_iff (P := fun _ text => text = [c]) (fun _ => by simp) fun cs x rest => by
    rw [letter_eq_some]
    simp

/-- A character that is there alone is there whatever follows, and it stays what it is if what follows is
    not taken with it. -/
structure Peeks (f : Char → Option Char → Option (α × Bool)) : Prop where
  alone : ∀ ⦃c x both⦄, f c none = some (x, both) → ∀ d, ∃ read, f c (some d) = some read
  apart : ∀ ⦃c d x⦄, f c (some d) = some (x, false) → ∃ both, f c none = some (x, both)

theorem takes_peek (f : Char → Option Char → Option (α × Bool)) : Takes n 1 (peek f) := by
  intro cs x rest _ h
  cases cs with
  | nil => cases h
  | cons c cs =>
    obtain ⟨⟨y, both⟩, -, ⟨⟩⟩ := Option.map_eq_some_iff.mp h
    cases both with
    | false => exact ⟨List.suffix_cons c cs, Nat.le_refl _⟩
    | true =>
      exact ⟨(List.tail_suffix cs).trans (List.suffix_cons c cs),
        Nat.succ_le_succ (List.tail_suffix cs).length_le⟩

/-- Of two characters and more it is the same whatever follows. -/
theorem peek_append (f : Char → Option Char → Option (α × Bool)) {c d : Char} {cs : List Char}
    (more : List Char) {x : α} {rest : List Char} :
    peek f (c :: d :: cs ++ more) = some (x, rest ++ more) ↔ peek f (c :: d :: cs) = some (x, rest) := by
  simp only [peek, List.cons_append, List.head?_cons, List.tail_cons, Option.map_eq_some_iff,
    Prod.mk.injEq]
  refine exists_congr fun read => and_congr_right fun _ => and_congr_right fun _ => ?_
  split
  · exact List.append_cancel_right_eq _ _ _ |>.to_iff
  · rw [← List.cons_append, List.append_cancel_right_eq]

theorem tracks_peek {f : Char → Option Char → Option (α × Bool)} (hf : Peeks f) :
    Tracks n 1 (· ≠ []) (peek f) (peek f) := by
  -- a character alone leaves nothing
  have halone {c : Char} {x : α} {rest : List Char} :
      peek f [c] = some (x, rest) ↔ (∃ both, f c none = some (x, both)) ∧ rest = [] := by
    constructor
    · intro h
      obtain ⟨⟨y, both⟩, hread, ⟨⟩⟩ := Option.map_eq_some_iff.mp h
      exact ⟨⟨both, hread⟩, by cases both <;> rfl⟩
    · rintro ⟨⟨both, hread⟩, rfl⟩
      refine Option.map_eq_some_iff.mpr ⟨(x, both), hread, ?_⟩
      cases both <;> rfl
  refine ⟨takes_peek f, takes_peek f, fun cs more x rest hlt h => ?_, fun cs more x rest hlt h hne => ?_,
    fun cs more x rest hlt h => ?_⟩
  · match cs, more with
    | c :: d :: cs, more => exact ⟨x, _, (peek_append f more).mpr h, List.suffix_rfl⟩
    | [c], [] => exact ⟨x, rest, h, (List.append_nil rest).symm ▸ List.suffix_rfl⟩
    | [c], d :: more =>
      obtain ⟨⟨both, hread⟩, rfl⟩ := halone.mp h
      obtain ⟨⟨x', both'⟩, hread'⟩ := hf.alone hread d
      refine ⟨x', if both' then more else d :: more, by simp [peek, hread'], ?_⟩
      split
      · exact List.suffix_cons d more
      · exact List.suffix_rfl
  · match cs with
    | c :: d :: cs => exact (peek_append f more).mpr h
    | [c] => exact absurd (halone.mp h).2 hne
  · match cs, more with
    | c :: d :: cs, more => exact (peek_append f more).mp h
    | cs, [] => simpa using h
    | [], c :: more =>
      have hlength := (takes_peek f hlt h).2
      simp only [List.nil_append, List.length_append] at hlength
      omega
    | [c], d :: more =>
      obtain ⟨⟨y, both⟩, hread, hrest⟩ := Option.map_eq_some_iff.mp h
      cases both with
      | true =>
        have hlength : more.length = (rest ++ d :: more).length :=
          congrArg (fun read => read.2.length) hrest
        simp only [List.length_append, List.length_cons] at hlength
        omega
      | false =>
        obtain ⟨rfl, hleft⟩ : y = x ∧ d :: more = rest ++ d :: more := Prod.mk.inj hrest
        exact halone.mpr ⟨hf.apart hread, List.append_left_eq_self.mp hleft.symm⟩

theorem span_eq_iff {p : Char → Bool} {cs w rest : List Char} : span p cs = (w, rest) ↔
    cs = w ++ rest ∧ (∀ c ∈ w, p c = true) ∧ ∀ c, rest.head? = some c → p c = false := by
  constructor
  · intro h
    cases h
    refine ⟨List.takeWhile_append_dropWhile.symm, List.all_eq_true.mp List.all_takeWhile,
      fun c hc => ?_⟩
    have hnot := List.head?_dropWhile_not p cs
    rw [hc] at hnot
    exact hnot
  · rintro ⟨rfl, hw, hrest⟩
    exact span_append hw hrest

/-- With more behind it no less of a text is passed over. -/
theorem dropWhile_append_suffix (p : Char → Bool) (cs more : List Char) :
    (cs ++ more).dropWhile p <:+ cs.dropWhile p ++ more := by
  rw [List.dropWhile_append]
  split
  · next h =>
    rw [List.isEmpty_iff.mp h]
    exact List.dropWhile_suffix p
  · exact List.suffix_rfl

theorem dropWhile_suffix_dropWhile (p : Char → Bool) {cs text : List Char} (h : cs <:+ text) :
    cs.dropWhile p <:+ text.dropWhile p := by
  obtain ⟨front, rfl⟩ := h
  rw [List.dropWhile_append]
  split
  · exact List.suffix_rfl
  · exact (List.dropWhile_suffix p).trans (List.suffix_append _ _)

theorem takes_run (p : Char → Bool) : Takes n 0 (run p) := by
  rintro cs w rest - ⟨⟩
  exact ⟨List.dropWhile_suffix p, (List.dropWhile_suffix p).length_le⟩

/-- Characters are read up to where a text goes on with something else. -/
theorem tracks_run (p : Char → Bool) : Tracks n 0 (· ≠ []) (run p) (run p) where
  takes := takes_run p
  takes' := takes_run p
  grow := by
    rintro cs more w rest - ⟨⟩
    exact ⟨_, _, rfl, dropWhile_append_suffix p cs more⟩
  stay cs more w rest _ h hne := by
    obtain ⟨rfl, hw, hrest⟩ := span_eq_iff.mp (Option.some.inj h)
    obtain ⟨d, rest, rfl⟩ := List.exists_cons_of_ne_nil hne
    exact congrArg some (span_eq_iff.mpr ⟨List.append_assoc _ _ _, hw, hrest⟩)
  cut cs more w rest _ h := by
    obtain ⟨htext, hw, hrest⟩ := span_eq_iff.mp (Option.some.inj h)
    rw [← List.append_assoc, List.append_cancel_right_eq] at htext
    refine congrArg some (span_eq_iff.mpr ⟨htext, hw, fun c hc => hrest c ?_⟩)
    rw [List.head?_append, hc]
    rfl

theorem word_eq_some {p : Char → Bool} {cs w rest : List Char} :
    word p cs = some (w, rest) ↔ run p cs = some (w, rest) ∧ w ≠ [] := by
  unfold word run
  cases span p cs with
  | mk w' rest' => cases w' <;> grind

theorem length_run {p : Char → Bool} {cs w rest : List Char} (h : run p cs = some (w, rest)) :
    cs.length = w.length + rest.length := by
  rw [(span_eq_iff.mp (Option.some.inj h)).1, List.length_append]

theorem takes_word (p : Char → Bool) : Takes n 1 (word p) := by
  intro cs w rest hlt h
  obtain ⟨hrun, hw⟩ := word_eq_some.mp h
  have hlength := length_run hrun
  have hpos := List.length_pos_iff.mpr hw
  exact ⟨(takes_run p hlt hrun).1, by omega⟩

theorem tracks_word (p : Char → Bool) : Tracks n 1 (· ≠ []) (word p) (word p) where
  takes := takes_word p
  takes' := takes_word p
  grow cs more w rest hlt h := by
    obtain ⟨hrun, hw⟩ := word_eq_some.mp h
    obtain ⟨w', rest', hrun', hrest⟩ := (tracks_run p).grow hlt hrun
    refine ⟨w', rest', word_eq_some.mpr ⟨hrun', fun hw' => ?_⟩, hrest⟩
    -- what is read of more is no shorter
    have hlength := length_run hrun
    have hlength' := length_run hrun'
    have hle := hrest.length_le
    have hpos := List.length_pos_iff.mpr hw
    rw [hw'] at hlength'
    simp only [List.length_append, List.length_nil] at hlength' hle
    omega
  stay cs more w rest hlt h hne := by
    obtain ⟨hrun, hw⟩ := word_eq_some.mp h
    exact word_eq_some.mpr ⟨(tracks_run p).stay hlt hrun hne, hw⟩
  cut cs more w rest hlt h := by
    obtain ⟨hrun, hw⟩ := word_eq_some.mp h
    exact word_eq_some.mpr ⟨(tracks_run p).cut hlt hrun, hw⟩

end Small

/-! ## 4. Parts of parts -/

section Cases

variable {p : Part α} {q : α → Part β} {cs rest : List Char} {y : β}

theorem mapped_eq_some {f : α → β} :
    mapped f p cs = some (y, rest) ↔ ∃ x, p cs = some (x, rest) ∧ f x = y := by
  simp [mapped, Option.map_eq_some_iff]

theorem andThen_eq_some :
    andThen p q cs = some (y, rest) ↔ ∃ x r, p cs = some (x, r) ∧ q x r = some (y, rest) := by
  unfold andThen
  cases p cs with
  | none => simp
  | some read => exact ⟨fun h => ⟨read.1, read.2, rfl, h⟩, by rintro ⟨x, r, ⟨⟩, h⟩; exact h⟩

theorem alternatively_eq_some {p q : Part α} {x : α} : alternatively p q cs = some (x, rest) ↔
    p cs = some (x, rest) ∨ p cs = none ∧ q cs = some (x, rest) := by
  unfold alternatively
  cases p cs <;> simp

/-- Where the second part is there, something is. -/
theorem exists_alternatively {p q : Part α} (h : ∃ x rest, q cs = some (x, rest)) :
    ∃ x rest, alternatively p q cs = some (x, rest) := by
  unfold alternatively
  split
  · exact h
  · next read _ => exact ⟨read.1, read.2, rfl⟩

theorem andThen_blanks (q : Unit → Part β) (cs : List Char) :
    andThen blanks q cs = q () (skipSpaces cs) := rfl

theorem andThen_letter (c : Char) (q : Unit → Part β) (rest : List Char) :
    andThen (letter c) q (c :: rest) = q () rest := by
  simp only [andThen, letter, if_true]

theorem andThen_letter_of_ne {c : Char} (q : Unit → Part β) {cs : List Char}
    (h : ∀ rest, cs ≠ c :: rest) : andThen (letter c) q cs = none := by
  have hletter : letter c cs = none := by
    cases hread : letter c cs with
    | none => rfl
    | some read => exact absurd (letter_eq_some.mp hread) (h read.2)
  rw [andThen, hletter]

end Cases

namespace Takes

variable {m n k l : Nat}

theorem mapped {p : Part α} (h : Takes n k p) (f : α → β) : Takes n k (mapped f p) := by
  intro cs y rest hlt hp
  obtain ⟨x, hx, -⟩ := mapped_eq_some.mp hp
  exact h hlt hx

theorem headed {f : Char → Part α} (h : ∀ c, Takes n k (f c)) : Takes n k (headed f) := by
  intro cs x rest hlt hp
  cases cs with
  | nil => cases hp
  | cons c cs => exact h c hlt hp

theorem andThen {p : Part α} {q : α → Part β} (hm : m ≤ n + k) (hp : Takes m k p)
    (hq : ∀ x, Takes n l (q x)) : Takes m (k + l) (andThen p q) := by
  intro cs y rest hlt h
  obtain ⟨x, r, hx, hy⟩ := andThen_eq_some.mp h
  obtain ⟨hr, hlength⟩ := hp hlt hx
  obtain ⟨hrest, hlength'⟩ := hq x (by omega) hy
  exact ⟨hrest.trans hr, by omega⟩

theorem alternatively {p q : Part α} (hp : Takes n k p) (hq : Takes n k q) :
    Takes n k (alternatively p q) := by
  intro cs x rest hlt h
  rcases alternatively_eq_some.mp h with hx | ⟨-, hx⟩
  · exact hp hlt hx
  · exact hq hlt hx

end Takes

namespace Tracks

variable {m n k l : Nat} {S T : List Char → Prop}

theorem mapped {p p' : Part α} (h : Tracks n k S p p') (f : α → β) :
    Tracks n k S (mapped f p) (mapped f p') where
  takes := h.takes.mapped f
  takes' := h.takes'.mapped f
  grow cs more y rest hlt hp := by
    obtain ⟨x, hx, -⟩ := mapped_eq_some.mp hp
    obtain ⟨x', rest', hx', hrest⟩ := h.grow hlt hx
    exact ⟨f x', rest', mapped_eq_some.mpr ⟨x', hx', rfl⟩, hrest⟩
  stay cs more y rest hlt hp hstops := by
    obtain ⟨x, hx, hy⟩ := mapped_eq_some.mp hp
    exact mapped_eq_some.mpr ⟨x, h.stay hlt hx hstops, hy⟩
  cut cs more y rest hlt hp := by
    obtain ⟨x, hx, hy⟩ := mapped_eq_some.mp hp
    exact mapped_eq_some.mpr ⟨x, h.cut hlt hx, hy⟩

theorem blanks : Tracks n 0 (· ≠ []) blanks blanks := (tracks_run isSpace).mapped _

theorem headed {f f' : Char → Part α} (h : ∀ c, Tracks n (k + 1) S (f c) (f' c)) :
    Tracks n (k + 1) S (headed f) (headed f') where
  takes := .headed fun c => (h c).takes
  takes' := .headed fun c => (h c).takes'
  grow cs more x rest hlt hp := by
    cases cs with
    | nil => cases hp
    | cons c cs => exact (h c).grow hlt hp
  stay cs more x rest hlt hp hstops := by
    cases cs with
    | nil => cases hp
    | cons c cs => exact (h c).stay hlt hp hstops
  cut cs more x rest hlt hp := by
    cases cs with
    | nil =>
      -- something would be read of what follows, and yet all of it be left
      cases more with
      | nil => cases hp
      | cons c more =>
        have hlength : (rest ++ c :: more).length + (k + 1) ≤ (c :: more).length :=
          ((h c).takes' hlt hp).2
        rw [List.length_append] at hlength
        omega
    | cons c cs => exact (h c).cut hlt hp

/-- What comes next is there only after what stops the part before it, or else it is there whatever
    comes before it, and takes no less if that has taken more. -/
def Fits (n : Nat) (S T : List Char → Prop) (q q' : α → Part β) : Prop :=
  ∀ ⦃x r y rest⦄, r.length < n → q x r = some (y, rest) → S r ∨ (T rest → S r) ∧
    ∀ ⦃x' more r'⦄, (r ++ more).length < n → r' <:+ r ++ more →
      ∃ y' rest', q' x' r' = some (y', rest') ∧ rest' <:+ rest ++ more

namespace Fits

variable {q q' : α → Part β}

theorem of_stops (h : ∀ ⦃x r y rest⦄, r.length < n → q x r = some (y, rest) → S r) :
    Fits n S T q q' :=
  fun _ _ _ _ hlt hq => .inl (h hlt hq)

/-- What is there takes a character. -/
theorem of_takes (h : ∀ x, Takes n 1 (q x)) : Fits n (· ≠ []) T q q' := by
  refine of_stops fun x r y rest hlt hq => ?_
  rintro rfl
  exact absurd (h x hlt hq).2 (by simp)

/-- What may be nothing is there wherever the text ends. -/
theorem of_total (hT : ¬ T []) (hq : ∀ x, Takes n 0 (q x)) (hq' : ∀ x, Takes n 0 (q' x))
    (htotal : ∀ x r, ∃ y rest, q' x r = some (y, rest)) : Fits n (· ≠ []) T q q' := by
  intro x r y rest hlt h
  cases r with
  | cons c r => exact .inl (List.cons_ne_nil c r)
  | nil =>
    obtain rfl := List.suffix_nil.mp (hq x hlt h).1
    refine .inr ⟨fun hstops => absurd hstops hT, fun x' more r' hmore hr' => ?_⟩
    obtain ⟨y', rest', h'⟩ := htotal x' r'
    have hlt' := Nat.lt_of_le_of_lt hr'.length_le hmore
    exact ⟨y', rest', h', (hq' x' hlt' h').1.trans hr'⟩

end Fits

/-- **One part and then another.** -/
theorem andThen {p p' : Part α} {q q' : α → Part β} (hm : m ≤ n + k) (hp : Tracks m k S p p')
    (hq : ∀ x, Tracks n l T (q x) (q' x)) (hfits : Fits n S T q q') :
    Tracks m (k + l) T (andThen p q) (andThen p' q') := by
  refine ⟨hp.takes.andThen hm fun x => (hq x).takes, hp.takes'.andThen hm fun x => (hq x).takes',
    fun cs more y rest hlt h => ?_, fun cs more y rest hlt h hstops => ?_,
    fun cs more y rest hlt h => ?_⟩
  · obtain ⟨x, r, hx, hy⟩ := andThen_eq_some.mp h
    have hmore := hp.takes.length_lt hm hlt hx
    rcases hfits (length_lt_of_append hmore) hy with hstops | ⟨-, hany⟩
    · obtain ⟨y', rest', hy', hrest⟩ := (hq x).grow hmore hy
      exact ⟨y', rest', andThen_eq_some.mpr ⟨x, _, hp.stay hlt hx hstops, hy'⟩, hrest⟩
    · obtain ⟨x', r', hx', hr'⟩ := hp.grow hlt hx
      obtain ⟨y', rest', hy', hrest⟩ := @hany x' more r' hmore hr'
      exact ⟨y', rest', andThen_eq_some.mpr ⟨x', r', hx', hy'⟩, hrest⟩
  · obtain ⟨x, r, hx, hy⟩ := andThen_eq_some.mp h
    have hmore := hp.takes.length_lt hm hlt hx
    have hstop : S r := (hfits (length_lt_of_append hmore) hy).elim id fun h => h.1 hstops
    exact andThen_eq_some.mpr ⟨x, _, hp.stay hlt hx hstop, (hq x).stay hmore hy hstops⟩
  · obtain ⟨x, t, hx, hy⟩ := andThen_eq_some.mp h
    obtain ⟨-, hlength⟩ := hp.takes' hlt hx
    -- what the first part leaves ends with what follows the text
    obtain ⟨r, rfl, -⟩ := exists_append_of_suffix ((hq x).takes' (by omega) hy).1
    exact andThen_eq_some.mpr ⟨x, r, hp.cut hlt hx, (hq x).cut (by omega) hy⟩

/-- Behind blanks. -/
theorem afterBlanks {p p' : Part α} (h : Tracks n 1 S p p') :
    Tracks n 1 S (Expression.andThen Expression.blanks fun _ => p)
      (Expression.andThen Expression.blanks fun _ => p') :=
  .andThen (Nat.le_refl n) .blanks (fun _ => h) (.of_takes fun _ => h.takes)

/-- Behind a character, which makes the text longer by one. -/
theorem afterLetter {p p' : Part α} (c : Char) (h : Tracks n k S p p') (hm : m ≤ n + 1) :
    Tracks m 1 S (Expression.andThen (letter c) fun _ => p)
      (Expression.andThen (letter c) fun _ => p') :=
  (andThen (S := fun _ => True) hm (tracks_letter c) (fun _ => h)
    (.of_stops fun _ _ _ _ _ _ => trivial)).mono (Nat.le_refl m) (Nat.le_add_right 1 k) fun _ => id

/-- **The first part, or else the second**, where the first does not come to be there as the text goes on,
    unless the second reads nothing. -/
theorem alternatively {p p' q q' : Part α} (hp : Tracks n k S p p') (hq : Tracks n k S q q')
    (hgrow : ∀ ⦃cs more x y rest rest'⦄, p cs = none → q cs = some (y, rest) →
      p' (cs ++ more) = some (x, rest') → rest = cs)
    (hstay : ∀ ⦃cs more y rest⦄, p cs = none → q cs = some (y, rest) → S rest →
      p' (cs ++ more) = none) :
    Tracks n k S (alternatively p q) (alternatively p' q') where
  takes := hp.takes.alternatively hq.takes
  takes' := hp.takes'.alternatively hq.takes'
  grow cs more x rest hlt h := by
    rcases alternatively_eq_some.mp h with hx | ⟨hnone, hx⟩
    · obtain ⟨x', rest', hx', hrest⟩ := hp.grow hlt hx
      exact ⟨x', rest', alternatively_eq_some.mpr (.inl hx'), hrest⟩
    · cases hp' : p' (cs ++ more) with
      | none =>
        obtain ⟨x', rest', hx', hrest⟩ := hq.grow hlt hx
        exact ⟨x', rest', alternatively_eq_some.mpr (.inr ⟨hp', hx'⟩), hrest⟩
      | some read =>
        obtain ⟨x', rest'⟩ := read
        have hrest := hgrow hnone hx hp'
        exact ⟨x', rest', alternatively_eq_some.mpr (.inl hp'), hrest ▸ (hp.takes' hlt hp').1⟩
  stay cs more x rest hlt h hstops := by
    rcases alternatively_eq_some.mp h with hx | ⟨hnone, hx⟩
    · exact alternatively_eq_some.mpr (.inl (hp.stay hlt hx hstops))
    · exact alternatively_eq_some.mpr (.inr ⟨hstay hnone hx hstops, hq.stay hlt hx hstops⟩)
  cut cs more x rest hlt h := by
    rcases alternatively_eq_some.mp h with hx | ⟨hnone, hx⟩
    · exact alternatively_eq_some.mpr (.inl (hp.cut hlt hx))
    · exact alternatively_eq_some.mpr (.inr ⟨hp.none_of_none hlt hnone, hq.cut hlt hx⟩)

/-- The part, or else nothing, where the part does not come to be there as the text goes on. -/
theorem orGive {p p' : Part α} (hp : Tracks n k S p p') (x : α)
    (hstay : ∀ ⦃cs more⦄, p cs = none → S cs → p' (cs ++ more) = none) :
    Tracks n 0 S (Expression.alternatively p (give x)) (Expression.alternatively p' (give x)) := by
  refine alternatively (hp.mono (Nat.le_refl n) (Nat.zero_le k) fun _ => id) (tracks_give x) ?_ ?_
  · rintro cs more y z rest rest' - ⟨⟩ -
    rfl
  · rintro cs more y rest hnone ⟨⟩ hstops
    exact hstay hnone hstops

end Tracks

/-! ## 5. Again and again -/

section Many

variable {n : Nat} {S T : List Char → Prop} {p p' : Part α}

/-- Of a text as long as its rounds the part is read no more often in one round more. -/
theorem manyWithin_succ (hp : Takes n 1 p) {cs : List Char} (hlt : cs.length < n) {rounds : Nat}
    (hrounds : cs.length ≤ rounds) : manyWithin p (rounds + 1) cs = manyWithin p rounds cs := by
  induction rounds generalizing cs with
  | zero =>
    cases h : p cs with
    | none => simp only [manyWithin, h]
    | some read => exact absurd (hp hlt h).2 (by omega)
  | succ rounds ih =>
    rw [manyWithin, manyWithin]
    cases h : p cs with
    | none => rfl
    | some read =>
      have hlength := (hp hlt h).2
      have hrest : manyWithin p (rounds + 1) read.2 = manyWithin p rounds read.2 :=
        ih (by omega) (by omega)
      simp only [hrest]

theorem many_eq (hp : Takes n 1 p) {cs : List Char} (hlt : cs.length < n) {rounds : Nat}
    (hrounds : cs.length ≤ rounds) : many p cs = some (manyWithin p rounds cs) := by
  induction hrounds with
  | refl => rfl
  | step hrounds ih => rw [manyWithin_succ hp hlt hrounds, ih]

theorem many_of_none {cs : List Char} (h : p cs = none) : many p cs = some ([], cs) := by
  unfold many
  cases cs with
  | nil => rfl
  | cons c cs => rw [List.length_cons, manyWithin, h]

theorem many_of_some (hp : Takes n 1 p) {cs rest : List Char} (hlt : cs.length < n) {x : α}
    (h : p cs = some (x, rest)) : many p cs = mapped (x :: ·) (many p) rest := by
  have hlength := (hp hlt h).2
  have hrest : many p rest = some (manyWithin p (cs.length - 1) rest) :=
    many_eq hp (by omega) (by omega)
  rw [mapped, hrest]
  obtain ⟨c, cs, rfl⟩ := List.exists_cons_of_ne_nil (List.ne_nil_of_length_pos (by omega : 0 < cs.length))
  rw [many, List.length_cons, manyWithin, h]
  rfl

/-- The part is there once for every element, and then no more. -/
inductive Repeats (p : Part α) : List Char → List α → List Char → Prop
  | done {cs : List Char} (h : p cs = none) : Repeats p cs [] cs
  | more {cs r rest : List Char} {x : α} {xs : List α} (h : p cs = some (x, r))
      (hrest : Repeats p r xs rest) : Repeats p cs (x :: xs) rest

theorem many_iff (hp : Takes n 1 p) {cs rest : List Char} (hlt : cs.length < n) {xs : List α} :
    many p cs = some (xs, rest) ↔ Repeats p cs xs rest := by
  constructor
  · intro h
    induction hcs : cs.length using Nat.strongRecOn generalizing cs xs with
    | ind length ih =>
      cases hx : p cs with
      | none =>
        cases (many_of_none hx).symm.trans h
        exact .done hx
      | some read =>
        obtain ⟨x, r⟩ := read
        have hlength := (hp hlt hx).2
        obtain ⟨ys, hys, rfl⟩ := mapped_eq_some.mp ((many_of_some hp hlt hx).symm.trans h)
        exact .more hx (ih r.length (by omega) (by omega) hys rfl)
  · intro h
    induction h with
    | done h => exact many_of_none h
    | more h _ ih =>
      have hlength := (hp hlt h).2
      exact (many_of_some hp hlt h).trans (mapped_eq_some.mpr ⟨_, ih (by omega), rfl⟩)

/-- Something is always read, if only nothing. -/
theorem exists_repeats (hp : Takes n 1 p) {cs : List Char} (hlt : cs.length < n) :
    ∃ xs rest, Repeats p cs xs rest :=
  ⟨_, _, (many_iff hp hlt).mp rfl⟩

theorem Repeats.suffix {cs rest : List Char} {xs : List α} (h : Repeats p cs xs rest)
    (hp : Takes n 1 p) (hlt : cs.length < n) : rest <:+ cs := by
  induction h with
  | done h => exact List.suffix_rfl
  | more h _ ih =>
    obtain ⟨hr, hlength⟩ := hp hlt h
    exact (ih (by omega)).trans hr

theorem Takes.many (hp : Takes n 1 p) : Takes n 0 (many p) := by
  intro cs xs rest hlt h
  have hsuffix := ((many_iff hp hlt).mp h).suffix hp hlt
  exact ⟨hsuffix, hsuffix.length_le⟩

/-- **A part again and again**, where it is there again only after what stops it, and is not there where
    the whole is stopped. -/
theorem Tracks.many (hp : Tracks n 1 S p p') (hTS : ∀ r, T r → S r)
    (hnext : ∀ ⦃r x rest⦄, r.length < n → p r = some (x, rest) → S r)
    (hlast : ∀ ⦃r more⦄, T r → p' (r ++ more) = none) : Tracks n 0 T (many p) (many p') := by
  refine ⟨hp.takes.many, hp.takes'.many, fun cs more xs rest hlt h => ?_,
    fun cs more xs rest hlt h hstops => ?_, fun cs more xs rest hlt h => ?_⟩
  · rw [many_iff hp.takes (length_lt_of_append hlt)] at h
    suffices hrepeats : ∃ xs' rest', Repeats p' (cs ++ more) xs' rest' ∧ rest' <:+ rest ++ more by
      obtain ⟨xs', rest', h', hrest⟩ := hrepeats
      exact ⟨xs', rest', (many_iff hp.takes' hlt).mpr h', hrest⟩
    induction h with
    | done h =>
      obtain ⟨xs', rest', h'⟩ := exists_repeats hp.takes' hlt
      exact ⟨xs', rest', h', h'.suffix hp.takes' hlt⟩
    | more h hrest ih =>
      have hmore := hp.takes.length_lt (Nat.le_succ n) hlt h
      cases hrest with
      | done _ =>
        obtain ⟨x', r', hx', hr'⟩ := hp.grow hlt h
        have hlt' := Nat.lt_of_le_of_lt hr'.length_le hmore
        obtain ⟨xs', rest', h'⟩ := exists_repeats hp.takes' hlt'
        exact ⟨x' :: xs', rest', .more hx' h', (h'.suffix hp.takes' hlt').trans hr'⟩
      | more hnext' _ =>
        obtain ⟨xs', rest', h', hrest'⟩ := ih hmore
        exact ⟨_ :: xs', rest', .more (hp.stay hlt h (hnext (length_lt_of_append hmore) hnext')) h', hrest'⟩
  · rw [many_iff hp.takes (length_lt_of_append hlt)] at h
    rw [many_iff hp.takes' hlt]
    induction h with
    | done h => exact .done (hlast hstops)
    | more h hrest ih =>
      have hmore := hp.takes.length_lt (Nat.le_succ n) hlt h
      refine .more (hp.stay hlt h ?_) (ih hmore hstops)
      cases hrest with
      | done _ => exact hTS _ hstops
      | more hnext' _ => exact hnext (length_lt_of_append hmore) hnext'
  · rw [many_iff hp.takes' hlt] at h
    rw [many_iff hp.takes (length_lt_of_append hlt)]
    generalize htext : cs ++ more = text at hlt h
    generalize hleft : rest ++ more = left at h
    induction h generalizing cs with
    | done h =>
      obtain rfl : rest = cs := List.append_cancel_right (hleft.trans htext.symm)
      exact .done (hp.none_of_none (htext.symm ▸ hlt) (htext.symm ▸ h))
    | more h hrest ih =>
      subst htext hleft
      obtain ⟨hr, hlength⟩ := hp.takes' hlt h
      obtain ⟨r, rfl, -⟩ := exists_append_of_suffix (hrest.suffix hp.takes' (by omega))
      exact .more (hp.cut hlt h) (ih r rfl (by omega) rfl)

end Many

/-! ## 6. Chains -/

section Chains

variable {m n : Nat} {S T : List Char → Prop} {p p' : Part α} {step step' : Part β}

/-- **A chain**, where blanks make no difference to what stops its parts. -/
theorem tracks_chain (hm : m ≤ n + 1) (hp : Tracks m 1 S p p') (hstep : Tracks n 1 S step step')
    (hblanks : ∀ r, S (skipSpaces r) → S r) (hnil : ¬ S []) (hTS : ∀ r, T r → S r)
    (hnext : ∀ ⦃r x rest⦄, r.length < n → step r = some (x, rest) → S r)
    (hlast : ∀ ⦃r more⦄, T r → step' (r ++ more) = none) (f : α → List β → γ) :
    Tracks m 1 T (chain p step f) (chain p' step' f) := by
  have hmany := hstep.many hTS hnext hlast
  have htotal (f : List β → γ) (step : Part β) (r : List Char) :
      ∃ y rest, mapped f (many step) r = some (y, rest) := ⟨_, _, rfl⟩
  have hsteps (x : α) : Tracks n 0 T
      (andThen blanks fun _ => mapped (f x) (many step))
      (andThen blanks fun _ => mapped (f x) (many step')) :=
    Tracks.andThen (Nat.le_refl n) .blanks (fun _ => hmany.mapped (f x))
      (Tracks.Fits.of_total (fun h => hnil (hTS _ h)) (fun _ => hmany.takes.mapped _)
        (fun _ => hmany.takes'.mapped _) fun _ => htotal _ _)
  refine Tracks.andThen hm hp hsteps fun x r y rest hr h => ?_
  replace h : mapped (f x) (many step) (skipSpaces r) = some (y, rest) := h
  cases hx : step (skipSpaces r) with
  | some read =>
    have hlt := Nat.lt_of_le_of_lt (List.dropWhile_suffix isSpace).length_le hr
    exact .inl (hblanks r (hnext hlt hx))
  | none =>
    obtain ⟨ys, hys, -⟩ := mapped_eq_some.mp h
    cases (many_of_none hx).symm.trans hys
    refine .inr ⟨fun hstops => hblanks r (hTS _ hstops), fun x' more r' hmore hr' => ?_⟩
    obtain ⟨y', rest', h'⟩ := htotal (f x') step' (skipSpaces r')
    refine ⟨y', rest', h', ?_⟩
    have hlt := Nat.lt_of_le_of_lt ((List.dropWhile_suffix isSpace).trans hr').length_le hmore
    exact ((hmany.takes'.mapped _ hlt h').1.trans (dropWhile_suffix_dropWhile isSpace hr')).trans
      (dropWhile_append_suffix isSpace r more)

end Chains

end Faceted.Expression
