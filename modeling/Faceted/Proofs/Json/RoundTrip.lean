import Faceted.Proofs.Json.Scalars

/-!
# JSON texts read back

A value that is written as JSON text is read back as the same value, but for the order of the fields:
an object that has been read has them in ascending order of their names. The value must not nest deeper
than the reader allows, and its numbers must be read back each on its own.

* `sorted`: the value with the fields of all its objects in order;
* `Legible`: what can be read back, and how deep it nests;
* `Reads`: part of a text takes the machine from one state to another; `reads_value` is the induction
  over the depth, with one lemma for the elements of an array and one for the fields of an object;
* **`parse?_render`**: the statement.
-/

namespace Faceted.Json

open Faceted.Decimal

/-! ## 1. What is read back -/

mutual

/-- The value with the fields of every object in ascending order of their names. -/
def sorted : Json → Json
  | .array elements => .array (sortedElements elements)
  | .object fields => .object (KeyMap.ofList (sortedFields fields)).toList
  | v => v

def sortedElements : List Json → List Json
  | [] => []
  | v :: rest => sorted v :: sortedElements rest

def sortedFields : List (String × Json) → List (String × Json)
  | [] => []
  | (name, v) :: rest => (name, sorted v) :: sortedFields rest

end

theorem sortedElements_eq (vs : List Json) : sortedElements vs = vs.map sorted := by
  induction vs with
  | nil => rfl
  | cons v vs ih => rw [sortedElements, ih, List.map_cons]

theorem sortedFields_eq (fields : List (String × Json)) :
    sortedFields fields = fields.map fun f => (f.1, f.2.sorted) := by
  induction fields with
  | nil => rfl
  | cons f fields ih => rw [sortedFields, ih, List.map_cons]

theorem renderElements_eq (vs : List Json) : renderElements vs = vs.map render := by
  induction vs with
  | nil => rfl
  | cons v vs ih => rw [renderElements, ih, List.map_cons]

/-- The text of a field. -/
def renderField (f : String × Json) : String := renderString f.1 ++ ":" ++ f.2.render

theorem renderFields_eq (fields : List (String × Json)) :
    renderFields fields = fields.map renderField := by
  induction fields with
  | nil => rfl
  | cons f fields ih => rw [renderFields, ih, List.map_cons, renderField]

/-- A value without parts that is read back. -/
def LegibleScalar : Json → Prop
  | .null | .bool _ | .string _ => True
  | .int n => readNumber? (render (.int n)).toList = some (.int n, [])
  | .float x => ReadsBack x
  | .array _ | .object _ => False

/-- The value nests to the given depth at most, and its scalars are read back. -/
def Legible : Nat → Json → Prop
  | n + 1, .array vs => ∀ v ∈ vs, Legible n v
  | n + 1, .object fields => ∀ f ∈ fields, Legible n f.2
  | _, v => LegibleScalar v

theorem LegibleScalar.legible {v : Json} (h : v.LegibleScalar) (n : Nat) : v.Legible n := by
  cases v <;> cases n <;> first | exact h | exact h.elim

theorem legible_null (n : Nat) : null.Legible n := LegibleScalar.legible (v := .null) trivial n

theorem legible_bool (b : Bool) (n : Nat) : (bool b).Legible n :=
  LegibleScalar.legible (v := .bool b) trivial n

theorem legible_string (s : String) (n : Nat) : (string s).Legible n :=
  LegibleScalar.legible (v := .string s) trivial n

theorem legible_float {x : Float} (h : ReadsBack x) (n : Nat) : (float x).Legible n :=
  LegibleScalar.legible (v := .float x) h n

/-- What is legible at a depth is so at the next one. -/
theorem Legible.succ {n : Nat} {v : Json} (h : v.Legible n) : v.Legible (n + 1) := by
  induction n generalizing v with
  | zero => exact LegibleScalar.legible (by cases v <;> exact h) 1
  | succ n ih =>
    cases v with
    | array vs => exact fun v hv => ih (h v hv)
    | object fields => exact fun f hf => ih (h f hf)
    | _ => exact h

theorem Legible.mono {m n : Nat} (hmn : m ≤ n) {v : Json} (h : v.Legible m) : v.Legible n := by
  induction hmn with
  | refl => exact h
  | step _ ih => exact ih.succ

theorem LegibleScalar.readToken? {v : Json} (h : v.LegibleScalar) {rest : List Char}
    (hrest : Ends rest) : Json.readToken? (v.render.toList ++ rest) = some (.scalar v, rest) := by
  cases v with
  | null => exact readToken?_null rest
  | bool b =>
    cases b with
    | true => exact readToken?_true rest
    | false => exact readToken?_false rest
  | int n => exact readToken?_number hrest h
  | float x => exact readToken?_number hrest h
  | string s => exact readToken?_string s rest
  | array vs => exact h.elim
  | object fields => exact h.elim

theorem LegibleScalar.render_ne_nil {v : Json} (h : v.LegibleScalar) : v.render.toList ≠ [] := by
  intro hnil
  cases v with
  | null => cases hnil
  | bool b => cases b <;> cases hnil
  | int n =>
    rw [LegibleScalar, hnil] at h
    cases h
  | float x =>
    rw [LegibleScalar, ReadsBack, show (Layout.jsonText.render x).toList = [] from hnil] at h
    cases h
  | string s =>
    rw [render, renderString, String.toList_ofList] at hnil
    cases hnil
  | array vs => exact h
  | object fields => exact h

/-! ## 2. Parts of a text -/

/-- Reading the first text up to the second one takes the machine from the one state to the other. -/
inductive Reads : List Char → Machine → List Char → Machine → Prop where
  | done (cs : List Char) (m : Machine) : Reads cs m cs m
  | token {piece cs cs' : List Char} {t : Token} {m m' m'' : Machine} (hpiece : piece ≠ [])
    (hread : readToken? (piece ++ cs) = some (t, cs)) (hstep : m.step t = some m')
    (hrest : Reads cs m' cs' m'') : Reads (piece ++ cs) m cs' m''

theorem Reads.trans {cs cs' cs'' : List Char} {m m' m'' : Machine} (h : Reads cs m cs' m')
    (h' : Reads cs' m' cs'' m'') : Reads cs m cs'' m'' := by
  induction h with
  | done _ _ => exact h'
  | token hpiece hread hstep _ ih => exact .token hpiece hread hstep (ih h')

/-- A token of one character. -/
theorem Reads.char {c : Char} {cs cs' : List Char} {t : Token} {m m' m'' : Machine}
    (hread : readToken? (c :: cs) = some (t, cs)) (hstep : m.step t = some m')
    (hrest : Reads cs m' cs' m'') : Reads (c :: cs) m cs' m'' := by
  have hpiece : [c] ≠ [] := List.cons_ne_nil c []
  exact .token hpiece hread hstep hrest

/-- **A text that takes the machine to its end** is read. -/
theorem Reads.tokens {cs : List Char} {m m' : Machine} (h : Reads cs m [] m') :
    ∃ ts, (∀ rounds ≥ cs.length, ∀ read, tokensWithin rounds read cs = some (read.reverse ++ ts)) ∧
      ts.foldlM Machine.step m = some m' := by
  generalize hend : ([] : List Char) = cs' at h
  induction h with
  | done cs m =>
    subst hend
    refine ⟨[], fun rounds _ read => ?_, rfl⟩
    rw [List.append_nil]
    cases rounds <;> rfl
  | @token piece cs cs' t m m' m'' hpiece hread hstep _ ih =>
    obtain ⟨ts, htokens, hfold⟩ := ih hend
    refine ⟨t :: ts, fun rounds hrounds read => ?_, ?_⟩
    · have hlength := List.length_pos_iff.mpr hpiece
      rw [List.length_append] at hrounds
      obtain ⟨rounds, rfl⟩ : ∃ n, rounds = n + 1 := ⟨rounds - 1, by omega⟩
      rw [tokensWithin, dropWhile_of_readToken? hread]
      split
      · next hnil => exact absurd (List.append_eq_nil_iff.mp hnil).1 hpiece
      · rw [hread]
        dsimp only
        rw [htokens rounds (by omega), List.reverse_cons, List.append_assoc, List.singleton_append]
    · rw [List.foldlM_cons, hstep]
      exact hfold

theorem parse?_of_reads {text : String} {v : Json}
    (h : Reads text.toList ⟨[], .value⟩ [] ⟨[], .finished v⟩) : parse? text = some v := by
  obtain ⟨ts, htokens, hfold⟩ := h.tokens
  have hts : tokens? text.toList = some ts := htokens _ (Nat.le_refl _) []
  unfold parse?
  rw [hts]
  simp only [Option.bind_eq_bind, Option.bind_some]
  rw [hfold]
  rfl

/-! ## 3. Values -/

theorem intercalate_cons (x : List Char) (xs : List (List Char)) :
    List.intercalate [','] (x :: xs) = x ++ xs.flatMap fun y => ',' :: y := by
  induction xs generalizing x with
  | nil => simp [List.intercalate]
  | cons y ys ih =>
    have hcons : List.intercalate [','] (x :: y :: ys) =
        x ++ ',' :: List.intercalate [','] (y :: ys) := by
      simp [List.intercalate, List.intersperse]
    rw [hcons, ih, List.flatMap_cons, List.cons_append]

/-- The texts after the first one, each after a comma. -/
def commaed (texts : List String) : List Char := texts.flatMap fun text => ',' :: text.toList

theorem between_cons (opening closing text : String) (texts : List String) :
    (between opening closing (text :: texts)).toList =
      opening.toList ++ (text.toList ++ (commaed texts ++ closing.toList)) := by
  rw [between, String.toList_append, String.toList_append, String.toList_intercalate, List.map_cons,
    show (",".toList) = [','] from rfl, intercalate_cons, List.flatMap_map, List.append_assoc,
    List.append_assoc]
  rfl

theorem ends_commaed {rest : List Char} (h : Ends rest) (texts : List String) :
    Ends (commaed texts ++ rest) := by
  cases texts with
  | nil => exact h
  | cons text texts => exact ends_comma _

/-- A value may start. -/
def Machine.AwaitsValue (expected : Expected) : Prop := expected = .value ∨ expected = .valueOrClose

theorem Machine.step_of_awaitsValue {expected : Expected} (h : AwaitsValue expected)
    (outer : List Container) {t : Token} (ht : t ≠ .closeArray) :
    Machine.step ⟨outer, expected⟩ t = startValue t outer := by
  rcases h with rfl | rfl
  · rfl
  · cases t <;> first | rfl | exact absurd rfl ht

section Parts

-- What the parts of a value are read as.
variable {n : Nat} (ih : ∀ (v : Json), v.Legible n → ∀ (outer : List Container),
    outer.length + n ≤ maxDepth → ∀ {rest : List Char}, Ends rest → ∀ {expected : Expected},
      Machine.AwaitsValue expected →
        Reads (v.render.toList ++ rest) ⟨outer, expected⟩ rest (Machine.complete v.sorted outer))
  {outer : List Container} (hdepth : outer.length + (n + 1) ≤ maxDepth)

include ih hdepth

/-- The elements of an array after the first one. -/
theorem reads_elements {vs : List Json} (hvs : ∀ v ∈ vs, v.Legible n) (done : List Json)
    (rest : List Char) :
    Reads (commaed (vs.map render) ++ ']' :: rest) ⟨.array done :: outer, .commaOrClose⟩ rest
      (Machine.complete (.array (done.reverse ++ vs.map sorted)) outer) := by
  induction vs generalizing done with
  | nil =>
    refine .char rfl ?_ (.done rest _)
    rw [List.map_nil, List.append_nil]
    rfl
  | cons v vs ihvs =>
    obtain ⟨hv, hvs⟩ := List.forall_mem_cons.mp hvs
    have hfirst := ih v hv (.array done :: outer) (by rw [List.length_cons]; omega)
      (ends_commaed (ends_closeArray rest) (vs.map render)) (.inl rfl)
    have hrest := ihvs hvs (v.sorted :: done)
    rw [List.reverse_cons, List.append_assoc, List.singleton_append] at hrest
    rw [List.map_cons, List.map_cons, commaed, List.flatMap_cons, List.cons_append, List.cons_append,
      List.append_assoc]
    exact .char rfl rfl (hfirst.trans hrest)

/-- One field of an object. -/
theorem reads_field {f : String × Json} (hf : f.2.Legible n) (done : List (String × Json)) (last : String)
    {expected : Expected} (hexpected : expected = .name ∨ expected = .nameOrClose) {rest : List Char}
    (hrest : Ends rest) :
    Reads ((renderField f).toList ++ rest) ⟨.object done last :: outer, expected⟩ rest
      ⟨.object ((f.1, f.2.sorted) :: done) f.1 :: outer, .commaOrClose⟩ := by
  have hvalue := ih f.2 hf (.object done f.1 :: outer) (by rw [List.length_cons]; omega) hrest
    (.inl rfl)
  have htext : (renderField f).toList ++ rest =
      (renderString f.1).toList ++ (':' :: (f.2.render.toList ++ rest)) := by
    rw [renderField, String.toList_append, String.toList_append, List.append_assoc, List.append_assoc]
    rfl
  rw [htext]
  have hname : Machine.step ⟨.object done last :: outer, expected⟩ (.scalar (.string f.1)) =
      some ⟨.object done f.1 :: outer, .colon⟩ := by
    rcases hexpected with rfl | rfl <;> rfl
  refine .token ?_ (readToken?_string f.1 _) hname (.char rfl rfl hvalue)
  rw [renderString, String.toList_ofList]
  exact List.cons_ne_nil _ _

/-- The fields of an object after the first one. -/
theorem reads_fields {fields : List (String × Json)} (hfields : ∀ f ∈ fields, f.2.Legible n)
    (done : List (String × Json)) (last : String) (rest : List Char) :
    Reads (commaed (fields.map renderField) ++ '\x7d' :: rest)
      ⟨.object done last :: outer, .commaOrClose⟩ rest
      (Machine.complete (ofFieldsRead ((fields.map fun f => (f.1, f.2.sorted)).reverse ++ done))
        outer) := by
  induction fields generalizing done last with
  | nil =>
    have hclose : Machine.step ⟨.object done last :: outer, .commaOrClose⟩ .closeObject =
        some (Machine.complete (ofFieldsRead done) outer) := rfl
    exact .char rfl hclose (.done rest _)
  | cons f fields ihfields =>
    obtain ⟨hf, hfields⟩ := List.forall_mem_cons.mp hfields
    have hfirst := reads_field ih hdepth hf done last (.inl rfl)
      (ends_commaed (ends_closeObject rest) (fields.map renderField))
    have hrest := ihfields hfields ((f.1, f.2.sorted) :: done) f.1
    rw [List.map_cons, List.map_cons, commaed, List.flatMap_cons, List.cons_append, List.cons_append,
      List.append_assoc, List.reverse_cons, List.append_assoc, List.singleton_append]
    exact .char rfl rfl (hfirst.trans hrest)

theorem reads_array {vs : List Json} (hvs : ∀ v ∈ vs, v.Legible n) {expected : Expected}
    (hexpected : Machine.AwaitsValue expected) (rest : List Char) :
    Reads ((render (.array vs)).toList ++ rest) ⟨outer, expected⟩ rest
      (Machine.complete (.array (vs.map sorted)) outer) := by
  have hopen : Machine.step ⟨outer, expected⟩ .openArray = some ⟨.array [] :: outer, .valueOrClose⟩ := by
    rw [Machine.step_of_awaitsValue (t := .openArray) hexpected outer nofun]
    exact if_pos (by omega)
  rw [render, renderElements_eq]
  cases vs with
  | nil => exact .char rfl hopen (.char rfl rfl (.done rest _))
  | cons v vs =>
    obtain ⟨hv, hvs⟩ := List.forall_mem_cons.mp hvs
    have hfirst := ih v hv (.array [] :: outer) (by rw [List.length_cons]; omega)
      (ends_commaed (ends_closeArray rest) (vs.map render)) (.inr rfl)
    have hrest := reads_elements ih hdepth hvs [v.sorted] rest
    rw [List.map_cons, between_cons, List.append_assoc, List.append_assoc, List.append_assoc]
    exact .char rfl hopen (hfirst.trans hrest)

theorem reads_object {fields : List (String × Json)} (hfields : ∀ f ∈ fields, f.2.Legible n)
    {expected : Expected} (hexpected : Machine.AwaitsValue expected) (rest : List Char) :
    Reads ((render (.object fields)).toList ++ rest) ⟨outer, expected⟩ rest
      (Machine.complete (.object (KeyMap.ofList (fields.map fun f => (f.1, f.2.sorted))).toList)
        outer) := by
  have hopen : Machine.step ⟨outer, expected⟩ .openObject =
      some ⟨.object [] "" :: outer, .nameOrClose⟩ := by
    rw [Machine.step_of_awaitsValue (t := .openObject) hexpected outer nofun]
    exact if_pos (by omega)
  rw [render, renderFields_eq]
  cases fields with
  | nil =>
    have hclose : Machine.step ⟨.object [] "" :: outer, .nameOrClose⟩ .closeObject =
        some (Machine.complete (ofFieldsRead []) outer) := rfl
    show Reads ('\x7b' :: '\x7d' :: rest) _ rest (Machine.complete (ofFieldsRead []) outer)
    exact .char rfl hopen (.char rfl hclose (.done rest _))
  | cons f fields =>
    obtain ⟨hf, hfields⟩ := List.forall_mem_cons.mp hfields
    have hfirst := reads_field ih hdepth hf [] "" (.inr rfl)
      (ends_commaed (ends_closeObject rest) (fields.map renderField))
    have hrest := reads_fields ih hdepth hfields [(f.1, f.2.sorted)] f.1 rest
    rw [ofFieldsRead, List.reverse_append, List.reverse_reverse, List.reverse_singleton,
      List.singleton_append] at hrest
    rw [List.map_cons, List.map_cons, between_cons, List.append_assoc, List.append_assoc,
      List.append_assoc, show ("\x7b".toList) = ['\x7b'] from rfl, List.singleton_append]
    exact .char rfl hopen (hfirst.trans hrest)

end Parts

theorem reads_scalar {v : Json} (hv : v.LegibleScalar) {outer : List Container} {rest : List Char}
    (hrest : Ends rest) {expected : Expected} (hexpected : Machine.AwaitsValue expected) :
    Reads (v.render.toList ++ rest) ⟨outer, expected⟩ rest (Machine.complete v.sorted outer) := by
  have hread := hv.readToken? hrest
  have hsorted : v.sorted = v := by
    cases v with
    | array vs => exact hv.elim
    | object fields => exact hv.elim
    | _ => rfl
  rw [hsorted]
  exact .token hv.render_ne_nil hread (Machine.step_of_awaitsValue hexpected outer nofun) (.done rest _)

/-- **A value is read** where one may start, by induction on how deep it nests. -/
theorem reads_value (n : Nat) (v : Json) (hv : v.Legible n) (outer : List Container)
    (hdepth : outer.length + n ≤ maxDepth) {rest : List Char} (hrest : Ends rest) {expected : Expected}
    (hexpected : Machine.AwaitsValue expected) :
    Reads (v.render.toList ++ rest) ⟨outer, expected⟩ rest (Machine.complete v.sorted outer) := by
  induction n generalizing v outer rest expected with
  | zero => exact reads_scalar (by cases v <;> exact hv) hrest hexpected
  | succ n ih =>
    cases v with
    | array vs =>
      rw [sorted, sortedElements_eq]
      exact reads_array ih hdepth hv hexpected rest
    | object fields =>
      rw [sorted, sortedFields_eq]
      exact reads_object ih hdepth hv hexpected rest
    | _ => exact reads_scalar hv hrest hexpected

/-- **A value is read back** from its text, with the fields of its objects in order. -/
theorem parse?_render {v : Json} (h : v.Legible maxDepth) : parse? v.render = some v.sorted := by
  have hreads := reads_value maxDepth v h [] (by simp) ends_nil (.inl rfl)
  rw [List.append_nil] at hreads
  exact parse?_of_reads hreads

end Faceted.Json
