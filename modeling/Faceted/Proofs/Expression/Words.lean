import Faceted.Proofs.Expression.Phrase

/-!
# Reading the words of phrases

Every word of a phrase is read to its end, and no further, whatever comes after it. What comes after a
word in a phrase is a blank, a closing parenthesis or a comma (`WordEnds`); after a name it may also be
a hop or the arguments of a call.

* `property?_append`, `identifier?_append`, `number?_append` and `quoted?_append` read names, numbers
  and strings; `standsBetween_iff` says which strings there are;
* **`hops_append`** reads the hops of a path.
-/

namespace Faceted.Expression

/-! ## 1. What follows a word -/

/-- A name ends before the text. -/
def NameEnds (rest : List Char) : Prop := ∀ c, rest.head? = some c → isNameChar c = false

/-- A word ends before the text: a blank, a parenthesis or a comma follows, or nothing. -/
def WordEnds (rest : List Char) : Prop :=
  ∀ c, rest.head? = some c → c = ' ' ∨ c = ')' ∨ c = ','

variable {rest : List Char}

/-- Another character does not follow. -/
theorem WordEnds.ne_cons (h : WordEnds rest) {c : Char} (hc : ¬(c = ' ' ∨ c = ')' ∨ c = ','))
    (more : List Char) : rest ≠ c :: more := by
  rintro rfl
  exact hc (h c rfl)

/-! ## 2. Names -/

theorem property?_append {name : String} (hname : IsProperty name) (hrest : NameEnds rest) :
    property? (name.toList ++ rest) = some (name, rest) := by
  obtain ⟨c, more, hcs⟩ := List.exists_cons_of_ne_nil hname.1
  unfold property?
  rw [span_append hname.2 hrest, hcs]
  show some (String.ofList (c :: more), rest) = some (name, rest)
  rw [← hcs, String.ofList_toList]

theorem identifier?_append {name : String} (hname : IsIdentifier name) (hrest : NameEnds rest) :
    identifier? (name.toList ++ rest) = some (name, rest) := by
  have hproperty := property?_append hname.1 hrest
  obtain ⟨c, more, hcs⟩ := List.exists_cons_of_ne_nil hname.1.1
  obtain ⟨hminus, hdigit⟩ := hname.2 c (by rw [hcs]; rfl)
  rw [hcs, List.cons_append] at hproperty ⊢
  rw [identifier?, if_neg (by simp [hminus, hdigit]), hproperty]

/-! ## 3. Constants -/

theorem WordEnds.not_isDigit (h : WordEnds rest) :
    ∀ c, rest.head? = some c → c.isDigit = false := by
  intro c hc
  rcases h c hc with rfl | rfl | rfl <;> decide

theorem number?_append (n : Literal) (hrest : WordEnds rest) :
    number? (n.text.toList ++ rest) = some (n.text.toList, rest) := by
  obtain ⟨d, more, hcs⟩ := List.exists_cons_of_ne_nil n.isDigits.1
  have hdot : ∀ more, rest ≠ '.' :: more := hrest.ne_cons (by decide)
  unfold number? Literal.text Literal.tail
  cases hfraction : n.fraction with
  | none =>
    simp only [Option.map_none, Option.getD_none, String.append_empty]
    rw [span_append n.isDigits.2 hrest.not_isDigit, hcs]
    split
    · next h => cases h
    · next h =>
      cases h
      exact absurd rfl (hdot _)
    · next h =>
      cases h
      rfl
  | some digits =>
    have hpoint : ∀ c, ('.' :: (digits.toList ++ rest)).head? = some c → c.isDigit = false := by
      rintro c ⟨⟩
      decide
    simp only [Option.map_some, Option.getD_some, String.toList_append, List.append_assoc]
    have hchars : ".".toList ++ (digits.toList ++ rest) = '.' :: (digits.toList ++ rest) := rfl
    rw [hchars, span_append n.isDigits.2 hpoint, hcs]
    simp only [span_append (n.isDigits_fraction digits hfraction).2 hrest.not_isDigit]
    rfl

/-- A character that is no backslash protects nothing. -/
theorem quoted?_cons {quote c : Char} (hc : c ≠ '\\') (more : List Char) :
    quoted? quote (c :: more) = if c = quote then some ([], more)
      else (quoted? quote more).map fun (s, rest) => (c :: s, rest) := by
  rw [quoted?]
  rintro d rest rfl -
  exact hc rfl

theorem quoted?_append {quote : Char} {content : List Char} (hquote : quote ≠ '\\')
    (h : standsBetween quote content = true) :
    quoted? quote (content ++ quote :: rest) = some (content, rest) := by
  fun_induction standsBetween quote content with
  | case1 =>
    rw [List.nil_append, quoted?_cons hquote, if_pos rfl]
  | case2 c more ih =>
    rw [List.cons_append, List.cons_append, quoted?, ih h]
    rfl
  | case3 c more _ ih =>
    simp only [Bool.and_eq_true, bne_iff_ne] at h
    rw [List.cons_append, quoted?_cons h.1.2, if_neg h.1.1, ih h.2]
    rfl

/-- What can stand between two quotes is what is read between them. -/
theorem standsBetween_iff {quote : Char} {content : List Char} (hquote : quote ≠ '\\') :
    standsBetween quote content = true ↔
      quoted? quote (content ++ [quote]) = some (content, []) := by
  refine ⟨quoted?_append hquote, fun h => ?_⟩
  fun_induction standsBetween quote content with
  | case1 => rfl
  | case2 c more ih =>
    rw [List.cons_append, List.cons_append, quoted?, Option.map_eq_some_iff] at h
    obtain ⟨⟨s, last⟩, hmore, heq⟩ := h
    cases heq
    exact ih hmore
  | case3 c more halone ih =>
    by_cases hc : c = '\\'
    · subst hc
      cases more with
      | nil => simp [quoted?] at h
      | cons d more => exact absurd rfl (halone d more rfl)
    · rw [List.cons_append, quoted?_cons hc] at h
      split at h
      · cases h
      · next hne =>
        obtain ⟨⟨s, last⟩, hmore, heq⟩ := Option.map_eq_some_iff.mp h
        cases heq
        simp [hne, hc, ih hmore]

/-! ## 4. Hops -/

theorem Hop.toList_render (h : Hop) : h.render.toList =
    (if h.forward then '.' else '!') :: ((if h.isArray then ['@'] else []) ++ h.property.toList) := by
  obtain ⟨property, forward, isArray⟩ := h
  cases forward <;> cases isArray <;> simp [Hop.render, Hop.mark]

/-- The mark of a hop is told from the name after it. -/
theorem hopMark?_append {h : Hop} (hproperty : IsProperty h.property) :
    hopMark? (h.render.toList ++ rest) =
      some (h.forward, h.isArray, h.property.toList ++ rest) := by
  obtain ⟨c, more, hcs⟩ := List.exists_cons_of_ne_nil hproperty.1
  have hc : c ≠ '@' := by
    rintro rfl
    exact absurd (hproperty.2 '@' (by rw [hcs]; exact List.mem_cons_self)) (by decide)
  rw [Hop.toList_render, hcs]
  cases h.forward <;> cases h.isArray
  case false.true | true.true => rfl
  case false.false =>
    show hopMark? ('!' :: c :: (more ++ rest)) = some (false, false, c :: (more ++ rest))
    rw [hopMark?]
    rintro _ ⟨⟩
    exact hc rfl
  case true.false =>
    show hopMark? ('.' :: c :: (more ++ rest)) = some (true, false, c :: (more ++ rest))
    rw [hopMark?]
    rintro _ ⟨⟩
    exact hc rfl

theorem hop?_append {h : Hop} (hproperty : IsProperty h.property) (hrest : NameEnds rest)
    (hbrace : ∀ more, rest ≠ '\x7b' :: more) :
    hop? (h.render.toList ++ rest) = some (h, rest) := by
  have harray : arrayMark rest = (false, rest) := by
    unfold arrayMark
    split
    · exact absurd rfl (hbrace _)
    · rfl
  unfold hop?
  simp only [hopMark?_append hproperty, property?_append hproperty hrest, harray, Bool.or_false]

/-- No hop starts where a word ends. -/
theorem WordEnds.hop? (hrest : WordEnds rest) : hop? rest = none := by
  have hmark : hopMark? rest = none := by
    unfold hopMark?
    split <;> first | rfl | exact absurd rfl (hrest.ne_cons (by decide) _)
  rw [Expression.hop?, hmark]

/-- Hops follow, or the word ends. -/
theorem head?_hops (hs : List Hop) (hrest : WordEnds rest) {c : Char}
    (hc : ((String.join (hs.map Hop.render)).toList ++ rest).head? = some c) :
    c = '.' ∨ c = '!' ∨ c = ' ' ∨ c = ')' ∨ c = ',' := by
  cases hs with
  | nil =>
    rw [List.map_nil, String.join_nil] at hc
    exact .inr (.inr (hrest c hc))
  | cons h hs =>
    rw [List.map_cons, String.join_cons, String.toList_append, Hop.toList_render] at hc
    cases hc
    cases h.forward
    · exact .inr (.inl rfl)
    · exact .inl rfl

/-- The hops are read when there are rounds enough. -/
theorem hopsWithin_append {hs : List Hop} (hproperties : ∀ h ∈ hs, IsProperty h.property)
    (hrest : WordEnds rest) {rounds : Nat} (hrounds : hs.length ≤ rounds) :
    hopsWithin rounds ((String.join (hs.map Hop.render)).toList ++ rest) = (hs, rest) := by
  induction hs generalizing rounds with
  | nil =>
    cases rounds with
    | zero => rfl
    | succ rounds =>
      show hopsWithin (rounds + 1) rest = ([], rest)
      rw [hopsWithin, hrest.hop?]
  | cons h hs ih =>
    cases rounds with
    | zero => cases hrounds
    | succ rounds =>
      have hmore {c : Char} := head?_hops (c := c) hs hrest
      have hname : NameEnds ((String.join (hs.map Hop.render)).toList ++ rest) := by
        intro c hc
        rcases hmore hc with rfl | rfl | rfl | rfl | rfl <;> decide
      have hbrace : ∀ more, (String.join (hs.map Hop.render)).toList ++ rest ≠ '\x7b' :: more :=
        fun more heq => absurd (hmore (by rw [heq]; rfl)) (by decide)
      rw [List.map_cons, String.join_cons, String.toList_append, List.append_assoc, hopsWithin,
        hop?_append (hproperties h List.mem_cons_self) hname hbrace]
      simp only [ih (fun h' hmem => hproperties h' (List.mem_cons_of_mem h hmem))
        (Nat.le_of_succ_le_succ hrounds)]

theorem hops_append {hs : List Hop} (hproperties : ∀ h ∈ hs, IsProperty h.property)
    (hrest : WordEnds rest) :
    hops ((String.join (hs.map Hop.render)).toList ++ rest) = (hs, rest) := by
  refine hopsWithin_append hproperties hrest ?_
  rw [String.toList_join, List.length_append]
  induction hs with
  | nil => exact Nat.zero_le _
  | cons h hs ih =>
    have := ih fun h' hmem => hproperties h' (List.mem_cons_of_mem h hmem)
    simp only [List.map_cons, List.flatMap_cons, List.length_append, Hop.toList_render,
      List.length_cons]
    omega

end Faceted.Expression
