import Faceted.Proofs.Expression.Cutting

/-!
# The longest expression

From an offset on the longest expression is read, and the offset where it ends is returned. What stands
between the two offsets is then read as the same expression as a whole, and if more of the text is taken
there is no expression, unless all that is taken more are blanks.

* `dropBytes?_iff` and `slice?_iff`: offsets count the bytes of characters;
* `parseChars?_of_sourced`: what is read at the start of a text, against what is read of its beginnings;
* **`parseFrom_longest`**: what is read from an offset on is read of the text up to its end and of no
  longer one but for blanks.
-/

namespace Faceted.Expression

/-! ## 1. Offsets -/

theorem byteCount_append (cs ds : List Char) : byteCount (cs ++ ds) = byteCount cs + byteCount ds := by
  have hfold (n : Nat) (ds : List Char) :
      ds.foldl (fun n c => n + c.utf8Size) n = n + ds.foldl (fun n c => n + c.utf8Size) 0 := by
    induction ds generalizing n with
    | nil => rfl
    | cons d ds ih =>
      rw [List.foldl_cons, List.foldl_cons, ih (n + d.utf8Size), ih (0 + d.utf8Size)]
      omega
  rw [byteCount, List.foldl_append, hfold]
  rfl

theorem byteCount_cons (c : Char) (cs : List Char) : byteCount (c :: cs) = c.utf8Size + byteCount cs := by
  rw [← List.singleton_append, byteCount_append]
  simp [byteCount]

theorem byteCount_eq_zero {cs : List Char} (h : byteCount cs = 0) : cs = [] := by
  cases cs with
  | nil => rfl
  | cons c cs =>
    rw [byteCount_cons] at h
    have := c.utf8Size_pos
    omega

/-- Of two beginnings of a text that with fewer bytes is a beginning of the other. -/
theorem exists_of_byteCount_le {cs ds cs' ds' : List Char} (h : cs ++ ds = cs' ++ ds')
    (hle : byteCount cs ≤ byteCount cs') : ∃ gap, cs' = cs ++ gap ∧ ds = gap ++ ds' := by
  rcases List.append_eq_append_iff.mp h with ⟨gap, hcs, hds⟩ | ⟨gap, hcs, hds⟩
  · exact ⟨gap, hcs, hds⟩
  · rw [hcs, byteCount_append] at hle
    obtain rfl := byteCount_eq_zero (by omega : byteCount gap = 0)
    exact ⟨[], by rw [hcs, List.append_nil, List.append_nil], hds.symm⟩

theorem dropBytes?_iff {n : Nat} {cs rest : List Char} :
    dropBytes? n cs = some rest ↔ ∃ front, cs = front ++ rest ∧ byteCount front = n := by
  induction cs generalizing n with
  | nil =>
    cases n with
    | zero =>
      rw [dropBytes?, Option.some.injEq]
      constructor
      · rintro rfl
        exact ⟨[], rfl, rfl⟩
      · rintro ⟨front, htext, -⟩
        exact (List.append_eq_nil_iff.mp htext.symm).2.symm
    | succ n =>
      simp only [dropBytes?, reduceCtorEq, false_iff]
      rintro ⟨front, htext, hcount⟩
      rw [(List.append_eq_nil_iff.mp htext.symm).1] at hcount
      cases hcount
  | cons c cs ih =>
    cases n with
    | zero =>
      rw [dropBytes?, Option.some.injEq]
      constructor
      · rintro rfl
        exact ⟨[], rfl, rfl⟩
      · rintro ⟨front, htext, hcount⟩
        rw [byteCount_eq_zero hcount] at htext
        exact htext
    | succ n =>
      have hpos := c.utf8Size_pos
      show (if c.utf8Size ≤ n + 1 then dropBytes? (n + 1 - c.utf8Size) cs else none) = some rest ↔ _
      constructor
      · intro h
        split at h
        · next hle =>
          obtain ⟨front, rfl, hcount⟩ := ih.mp h
          exact ⟨c :: front, rfl, by rw [byteCount_cons, hcount]; omega⟩
        · cases h
      · rintro ⟨front, htext, hcount⟩
        cases front with
        | nil => cases hcount
        | cons d front =>
          cases htext
          rw [byteCount_cons] at hcount
          rw [if_pos (by omega)]
          exact ih.mpr ⟨front, rfl, by omega⟩

/-- The text between two offsets, neither of which is inside a character. -/
def slice? (s : String) (start stop : Nat) : Option String :=
  if start ≤ stop then
    (dropBytes? start s.toList).bind fun cs =>
      (dropBytes? (stop - start) cs).map fun rest =>
        String.ofList (cs.take (cs.length - rest.length))
  else none

theorem slice?_iff {s text : String} {start stop : Nat} : slice? s start stop = some text ↔
    ∃ front back, s.toList = front ++ (text.toList ++ back) ∧ byteCount front = start ∧
      start + byteCount text.toList = stop := by
  have htake (piece rest : List Char) :
      (piece ++ rest).take ((piece ++ rest).length - rest.length) = piece :=
    List.take_left' (by rw [List.length_append]; omega)
  unfold slice?
  constructor
  · intro h
    split at h
    · next hle =>
      obtain ⟨cs, hcs, h⟩ := Option.bind_eq_some_iff.mp h
      obtain ⟨rest, hrest, rfl⟩ := Option.map_eq_some_iff.mp h
      obtain ⟨front, htext, hfront⟩ := dropBytes?_iff.mp hcs
      obtain ⟨piece, rfl, hpiece⟩ := dropBytes?_iff.mp hrest
      rw [htake, String.toList_ofList]
      exact ⟨front, rest, htext, hfront, by omega⟩
    · cases h
  · rintro ⟨front, back, htext, hfront, hstop⟩
    have hcs : dropBytes? start s.toList = some (text.toList ++ back) :=
      dropBytes?_iff.mpr ⟨front, htext, hfront⟩
    have hrest : dropBytes? (stop - start) (text.toList ++ back) = some back :=
      dropBytes?_iff.mpr ⟨text.toList, rfl, by omega⟩
    rw [if_pos (by omega), hcs, Option.bind_some, hrest, Option.map_some, htake, String.ofList_toList]

/-! ## 2. Beginnings -/

theorem expression?_depth {depth depth' : Nat} {cs : List Char} (h : cs.length < depth)
    (h' : cs.length < depth') : expression? depth cs = expression? depth' cs := by
  have htracks := tracks_expression (n := cs.length + 1) h h'
  have hlt : (cs ++ []).length < cs.length + 1 := by rw [List.append_nil]; exact Nat.lt_succ_self _
  cases hread : expression? depth' cs with
  | none => exact htracks.none_of_none hlt (by rw [List.append_nil, hread])
  | some read => exact htracks.cut hlt (by rw [List.append_nil, List.append_nil, hread])

theorem sourced_depth {depth depth' : Nat} {cs : List Char} (h : cs.length < depth)
    (h' : cs.length < depth') : sourced depth cs = sourced depth' cs := by
  rw [sourced, sourced, expression?_depth h h']

/-- The source of an expression is what has been used up of the text. -/
theorem sourced_eq_some {depth : Nat} {cs rest : List Char} {e : Faceted.Expression} :
    sourced depth cs = some (e, rest) ↔ ∃ root, expression? depth cs = some (root, rest) ∧
      ⟨String.ofList (cs.take (cs.length - rest.length)), root⟩ = e := by
  rw [sourced, Option.map_eq_some_iff]
  constructor
  · rintro ⟨⟨root, left⟩, hread, hsource⟩
    obtain ⟨he, rfl⟩ := Prod.mk.inj hsource
    exact ⟨root, hread, he⟩
  · rintro ⟨root, hread, rfl⟩
    exact ⟨(root, rest), hread, rfl⟩

theorem takes_sourced : Takes depth 1 (sourced depth) := by
  intro cs e rest hlt h
  obtain ⟨root, hread, -⟩ := sourced_eq_some.mp h
  exact (tracks_expression (Nat.le_refl depth) (Nat.le_refl depth)).takes hlt hread

/-- The source does not depend on what is behind it. -/
theorem take_append_more {cs rest : List Char} (more : List Char) :
    (cs ++ more).take ((cs ++ more).length - (rest ++ more).length) =
      cs.take (cs.length - rest.length) := by
  have hlength : (cs ++ more).length - (rest ++ more).length = cs.length - rest.length := by
    rw [List.length_append, List.length_append]
    omega
  rw [hlength, List.take_append_of_le_length (Nat.sub_le _ _)]

/-- What is read with more behind it is read without, and from the same text. -/
theorem sourced_cut {depth : Nat} {cs more rest : List Char} {e : Faceted.Expression}
    (hlt : (cs ++ more).length < depth) (h : sourced depth (cs ++ more) = some (e, rest ++ more)) :
    sourced depth cs = some (e, rest) := by
  obtain ⟨root, hread, rfl⟩ := sourced_eq_some.mp h
  have hcut := (tracks_expression (Nat.le_refl depth) (Nat.le_refl depth)).cut hlt hread
  exact sourced_eq_some.mpr ⟨root, hcut, by rw [take_append_more]⟩

theorem parseChars?_of_sourced {piece back gap : List Char} {e : Faceted.Expression}
    (h : sourced (depthOf (piece ++ back)) (skipSpaces (piece ++ back)) = some (e, gap ++ back)) :
    parseChars? piece = if gap.all isSpace then some e else none := by
  -- what follows the leading blanks ends with what is left
  have hsuffix := (takes_sourced (Nat.lt_succ_of_le (skipSpaces_length_le _)) h).1
  obtain ⟨start, hstart, -⟩ := exists_append_of_suffix hsuffix
  have hpiece : skipSpaces piece = start := by
    have hblanks := (Tracks.blanks (n := (piece ++ back).length + 1)).cut (Nat.lt_succ_self _)
      (show blanks (piece ++ back) = some ((), start ++ back) by rw [← hstart]; rfl)
    exact congrArg Prod.snd (Option.some.inj hblanks)
  have hle := skipSpaces_length_le piece
  rw [hpiece] at hle
  rw [hstart] at h
  have hread : sourced (depthOf piece) start = some (e, gap) := by
    have hdepth : sourced (depthOf piece) start = sourced (depthOf (piece ++ back)) start :=
      sourced_depth (by rw [depthOf]; omega) (by rw [depthOf, List.length_append]; omega)
    rw [hdepth]
    exact sourced_cut (by rw [depthOf, List.length_append, List.length_append]; omega) h
  have hblank : (skipSpaces gap).isEmpty = gap.all isSpace := by
    rw [Bool.eq_iff_iff, List.isEmpty_iff, skipSpaces, List.dropWhile_eq_nil_iff, List.all_eq_true]
  rw [parseChars?, hpiece, hread]
  simp only [hblank]

/-- Beginnings of a text that an expression is read from, from where it starts to where it ends and
    further. -/
theorem parse_of_sourced {text : String} {back gap : List Char} {e : Faceted.Expression}
    (h : sourced (depthOf (text.toList ++ back)) (skipSpaces (text.toList ++ back)) =
      some (e, gap ++ back)) :
    ((∀ c ∈ gap, isSpace c = true) → parse text = .ok e) ∧
      (¬ (∀ c ∈ gap, isSpace c = true) → ∃ failure, parse text = .error failure) := by
  have hparse := parseChars?_of_sourced h
  unfold parse
  constructor
  · intro hblank
    rw [hparse, if_pos (List.all_eq_true.mpr hblank)]
  · intro hnot
    rw [hparse, if_neg (mt List.all_eq_true.mp hnot)]
    exact ⟨_, rfl⟩

/-! ## 3. From an offset on -/

/-- From an offset on an expression is read that leaves the rest. -/
theorem parseFrom_eq_ok {s : String} {start stop : Nat} {e : Faceted.Expression}
    (h : parseFrom s start = .ok (e, stop)) : ∃ front body rest,
    s.toList = front ++ (body ++ rest) ∧ byteCount front = start ∧ start + byteCount body = stop ∧
      sourced (depthOf (body ++ rest)) (skipSpaces (body ++ rest)) = some (e, rest) := by
  unfold parseFrom at h
  split at h
  · cases h
  · next cs hcs =>
    obtain ⟨front, hs, hfront⟩ := dropBytes?_iff.mp hcs
    split at h
    · next e' rest hread =>
      have hrest := (takes_sourced (Nat.lt_succ_of_le (skipSpaces_length_le cs)) hread).1.trans
        (List.dropWhile_suffix isSpace)
      obtain ⟨body, rfl⟩ := hrest
      obtain ⟨rfl, hstop⟩ := Prod.mk.inj (Except.ok.inj h)
      rw [byteCount_append] at hstop
      exact ⟨front, body, rest, hs, hfront, by omega, hread⟩
    · cases h

/-- **The longest expression is read**: the text from the offset to where the expression ends is read as
    the same expression from the same source, and a longer text from the offset on is no expression,
    unless what it is longer by are blanks. -/
theorem parseFrom_longest {s : String} {start stop : Nat} {e : Faceted.Expression}
    (h : parseFrom s start = .ok (e, stop)) :
    start ≤ stop ∧ stop ≤ byteCount s.toList ∧
    (∃ text, slice? s start stop = some text ∧ parse text = .ok e) ∧
    ∀ further text, stop < further → slice? s start further = some text →
      ∃ gap, slice? s stop further = some gap ∧
        ((∀ c ∈ gap.toList, isSpace c = true) → parse text = .ok e) ∧
        (¬ (∀ c ∈ gap.toList, isSpace c = true) → ∃ failure, parse text = .error failure) := by
  obtain ⟨front, body, rest, hs, hfront, hstop, hread⟩ := parseFrom_eq_ok h
  have hcount : byteCount s.toList = start + byteCount body + byteCount rest := by
    rw [hs, byteCount_append, byteCount_append, hfront]
    omega
  refine ⟨by omega, by omega, ⟨String.ofList body, ?_, ?_⟩, fun further text hlt htext => ?_⟩
  · rw [slice?_iff, String.toList_ofList]
    exact ⟨front, rest, hs, hfront, hstop⟩
  · have hbody : sourced (depthOf ((String.ofList body).toList ++ rest))
        (skipSpaces ((String.ofList body).toList ++ rest)) = some (e, [] ++ rest) := by
      rw [String.toList_ofList]
      exact hread
    exact (parse_of_sourced hbody).1 (by simp)
  · obtain ⟨front', back, hs', hfront', hfurther⟩ := slice?_iff.mp htext
    rw [hs] at hs'
    obtain ⟨none, hsame, hbody⟩ := exists_of_byteCount_le hs' (by omega)
    rw [hsame, byteCount_append] at hfront'
    obtain rfl := byteCount_eq_zero (by omega : byteCount none = 0)
    rw [List.nil_append] at hbody
    obtain ⟨gap, hpiece, hrest⟩ := exists_of_byteCount_le hbody (by omega)
    refine ⟨String.ofList gap, ?_, ?_⟩
    · rw [slice?_iff, String.toList_ofList]
      rw [hpiece, byteCount_append] at hfurther
      refine ⟨front ++ body, back, ?_, ?_, by omega⟩
      · rw [hs, hrest, List.append_assoc]
      · rw [byteCount_append, hfront, hstop]
    · rw [String.toList_ofList]
      have hsame : text.toList ++ back = body ++ rest := by rw [hpiece, hrest, List.append_assoc]
      rw [← hsame, hrest] at hread
      exact parse_of_sourced hread

/-- An age between braces: the closing one is no part of it. -/
theorem parseFrom_age :
    parseFrom "\x7bage\x7d" 1 = .ok (⟨"age", .path ⟨some "age", []⟩⟩, 4) ∧
      parse "age" = .ok ⟨"age", .path ⟨some "age", []⟩⟩ ∧
      ∃ failure, parse "age\x7d" = .error failure := by
  have h : parseFrom "\x7bage\x7d" 1 = .ok (⟨"age", .path ⟨some "age", []⟩⟩, 4) := rfl
  obtain ⟨-, -, ⟨text, htext, hparse⟩, hlonger⟩ := parseFrom_longest h
  have hage : slice? "\x7bage\x7d" 1 4 = some "age" := rfl
  obtain rfl := Option.some.inj (hage.symm.trans htext)
  obtain ⟨gap, hgap, -, hfails⟩ := hlonger 5 "age\x7d" (by decide) rfl
  have hbrace : slice? "\x7bage\x7d" 4 5 = some "\x7d" := rfl
  obtain rfl := Option.some.inj (hbrace.symm.trans hgap)
  exact ⟨h, hparse, hfails fun hblank => absurd (hblank '\x7d' (.head _)) (by decide)⟩

/-- **Blanks behind three levels of operators are left, and may as well be taken.** -/
theorem parseFrom_blank : ∃ e, parseFrom "a = b + c * d " 0 = .ok (e, 13) ∧
    slice? "a = b + c * d " 0 14 = some "a = b + c * d " ∧ parse "a = b + c * d " = .ok e :=
  ⟨_, rfl, rfl, rfl⟩

end Faceted.Expression
