import Faceted.Proofs.Store.Ledger
import Faceted.Store.Ranges
import Mathlib.Data.List.Induction

/-!
# Runs of a store

Everything that can be done to the statements of a store, as data (`StoreOperation`), and what it does
to the ledger of the store:

* `Store.describedBy` has the statements that the description of an item stands for, in their order;
  which item it describes depends on the known items only;
* `StoreOperation.names` says which statements an operation removes, `entered` which it adds;
* `perform_refines` is the step, and **`reads_ledgerOf`** the run: whatever is read of a store is read
  off the ledger of its run.
-/

namespace Faceted

namespace Store

/-! ## 1. What descriptions of items say -/

/-- The id and the label by which a description is entered. -/
def entryOf (s : Store) (fields : List (String × Json)) : String × Option String :=
  (identity? fields).getD (s.nextAnonymous, some s.nextAnonymous)

/-- The store once the description has a name: counting names one more item. -/
def counted (s : Store) (fields : List (String × Json)) : Store :=
  match identity? fields with
  | some _ => s
  | none => { s with anonymous := s.anonymous + 1 }

/-- Who an item is, as statements. -/
def identityStatements (base id label : String) (fields : List (String × Json)) : List Statement :=
  [⟨id, "uri", (firstText? fields "uri").getD (defaultItemUri base id)⟩, ⟨id, "label", label⟩,
    ⟨id, "type", (firstText? fields "type").getD itemType⟩]

/-- The statements of one field; the fields that say who the item is have none. -/
def fieldStatements (id : String) (field : String × Json) : List Statement :=
  if field.1 ∈ identityFields then [] else (allTexts field.2).map fun text => ⟨id, field.1, text⟩

/-- Is it entered who the item is? -/
def isIntroduced (s : Store) (fields : List (String × Json)) : Bool :=
  (s.entryOf fields).2.isSome || !s.items.contains (s.entryOf fields).1

/-- The statements that a description of an item stands for: who the item is, if it is new or has a
    label, and then the values of the fields. -/
def describedBy (s : Store) (base : String) (entry : Json) : List Statement :=
  match entry with
  | .object fields =>
    let (id, label) := s.entryOf fields
    (if s.isIntroduced fields then identityStatements base id (label.getD id) fields else []) ++
      fields.flatMap (fieldStatements id)
  | _ => []

/-- The statements of several descriptions, each read when those before it are loaded. -/
def describedByAll (base : String) : Store → List Json → List Statement
  | _, [] => []
  | s, entry :: rest => s.describedBy base entry ++ describedByAll base (s.loadItem base entry) rest

/-- A description is loaded in three steps: it gets its name, says who the item is, and says the
    rest. -/
theorem loadItem_object (s : Store) (base : String) (fields : List (String × Json)) :
    s.loadItem base (.object fields) =
      (((fields.foldl (enterField base (s.entryOf fields).1)
        (if s.isIntroduced fields then
          (s.counted fields).enterIdentity base (s.entryOf fields).1
            ((s.entryOf fields).2.getD (s.entryOf fields).1) fields
        else s.counted fields)).invalidate "uri").invalidate "label").invalidate "type" := by
  unfold loadItem isIntroduced entryOf counted
  dsimp only
  cases identity? fields <;> rfl

/-! ## 2. What loading enters -/

namespace Refines

variable {s : Store} {l : Ledger}

theorem addAll_append (l : Ledger) (ts us : List Statement) :
    l.addAll (ts ++ us) = (l.addAll ts).addAll us :=
  List.foldl_append

theorem enterTexts (h : s.Refines l) (id p : String) (texts : List String) :
    (texts.foldl (fun s text => s.enter id p text) s).Refines
      (l.addAll (texts.map fun text => ⟨id, p, text⟩)) := by
  induction texts generalizing s l with
  | nil => exact h
  | cons text texts ih => exact ih (h.enter ⟨id, p, text⟩)

theorem enterField (h : s.Refines l) (base id : String) (field : String × Json) :
    (Store.enterField base id s field).Refines (l.addAll (fieldStatements id field)) := by
  obtain ⟨p, value⟩ := field
  unfold Store.enterField fieldStatements
  dsimp only
  by_cases hp : p ∈ identityFields
  · rw [if_pos hp, if_pos hp]
    exact h
  · rw [if_neg hp, if_neg hp]
    exact ((h.ensureProperty p base).invalidate p).enterTexts id p (allTexts value)

theorem enterFields (h : s.Refines l) (base id : String) (fields : List (String × Json)) :
    (fields.foldl (Store.enterField base id) s).Refines
      (l.addAll (fields.flatMap (fieldStatements id))) := by
  induction fields generalizing s l with
  | nil => exact h
  | cons field fields ih =>
    rw [List.flatMap_cons, addAll_append]
    exact ih (h.enterField base id field)

theorem enterIdentity (h : s.Refines l) (base id label : String) (fields : List (String × Json)) :
    (s.enterIdentity base id label fields).Refines
      (l.addAll (identityStatements base id label fields)) := by
  have hitems : Refines { s with items := s.items.insert id } l := h.congr rfl rfl
  exact (((hitems.enter ⟨id, "uri", _⟩).enter ⟨id, "label", _⟩).enter ⟨id, "type", _⟩).ensureType _ _

theorem counted (h : s.Refines l) (fields : List (String × Json)) : (s.counted fields).Refines l := by
  unfold Store.counted
  split
  · exact h
  · exact h.congr rfl rfl

theorem loadItem (h : s.Refines l) (base : String) (entry : Json) :
    (s.loadItem base entry).Refines (l.addAll (s.describedBy base entry)) := by
  cases entry with
  | object fields =>
    rw [loadItem_object, describedBy, addAll_append]
    refine ((enterFields ?_ _ _ _).invalidate _ |>.invalidate _).invalidate _
    by_cases hintro : s.isIntroduced fields = true
    · rw [if_pos hintro, if_pos hintro]
      exact (h.counted fields).enterIdentity _ _ _ _
    · rw [if_neg hintro, if_neg hintro]
      exact h.counted fields
  | _ => exact h

theorem loadItems (h : s.Refines l) (items : List Json) (base : String) :
    (s.loadItems items base).1.Refines (l.addAll (describedByAll base s items)) := by
  suffices hfold : (items.foldl (Store.loadItem base) s).Refines
      (l.addAll (describedByAll base s items)) from hfold.congr rfl rfl
  induction items generalizing s l with
  | nil => exact h
  | cons entry rest ih =>
    unfold describedByAll
    rw [addAll_append]
    exact ih (h.loadItem base entry)

theorem loadTypes (h : s.Refines l) (types : List (String × Json)) (base : String) :
    (s.loadTypes types base).1.Refines l := by
  suffices hfold : (types.foldl (Store.loadType base) s).Refines l from hfold.congr rfl rfl
  induction types generalizing s with
  | nil => exact h
  | cons entry rest ih =>
    refine ih ?_
    unfold Store.loadType
    split
    · exact h.congr rfl rfl
    · exact h

theorem loadProperties (h : s.Refines l) (properties : List (String × Json)) (base : String) :
    (s.loadProperties properties base).1.Refines l := by
  suffices hfold : (properties.foldl (Store.loadProperty base) s).Refines l from hfold.congr rfl rfl
  induction properties generalizing s with
  | nil => exact h
  | cons entry rest ih =>
    refine ih ?_
    unfold Store.loadProperty
    split
    · exact h.congr rfl rfl
    · exact h

end Refines

end Store

/-! ## 3. Operations -/

/-- What can be done to a store. Two of the questions leave their mark in it: the index of a property
    and the list of all properties are kept once they have been asked for. -/
inductive StoreOperation where
  | load (payload : Json) (base : String)
  | loadTypes (types : List (String × Json)) (base : String)
  | loadProperties (properties : List (String × Json)) (base : String)
  | loadItems (items : List Json) (base : String)
  | add (t : Statement)
  | remove (t : Statement)
  | removeObjects (subject property : String)
  | removeSubjects (object property : String)
  | removeAll
  | askRanges (property : String)
  | askProperties

namespace StoreOperation

/-- Does the operation. A removal by name answers whether it removed anything; a payload that cannot
    be loaded changes nothing. -/
def perform (op : StoreOperation) (s : Store) : Option Bool × Store :=
  match op with
  | load payload base =>
    match s.load payload base with
    | .ok (s, _) => (none, s)
    | .error _ => (none, s)
  | loadTypes types base => (none, (s.loadTypes types base).1)
  | loadProperties properties base => (none, (s.loadProperties properties base).1)
  | loadItems items base => (none, (s.loadItems items base).1)
  | add t => (none, s.addStatement t.subject t.property t.object)
  | remove t => (s.removeStatement t.subject t.property t.object).map some id
  | removeObjects x p => (s.removeObjects x p).map some id
  | removeSubjects x p => (s.removeSubjects x p).map some id
  | removeAll => (none, s.removeAll.1)
  | askRanges p => (none, (s.rangeIndex? p).2)
  | askProperties => (none, s.allProperties.2)

/-- The statements that the operation is to remove. -/
def names (op : StoreOperation) (t : Statement) : Bool :=
  match op with
  | remove u => t == u
  | removeObjects x p => t.subject == x && t.property == p
  | removeSubjects x p => t.object == x && t.property == p
  | removeAll => true
  | _ => false

/-- Does the operation answer whether it removed anything? -/
def answers : StoreOperation → Bool
  | remove _ | removeObjects _ _ | removeSubjects _ _ => true
  | _ => false

/-- The store as the items of a payload find it, once its types and properties are loaded. -/
def vocabularyLoaded (s : Store) (payload : Json) (base : String) : Store :=
  (Store.loadPart ((payload.get? "properties").bind Json.fields?)
    (fun s given => s.loadProperties given base)
    (Store.loadPart ((payload.get? "types").bind Json.fields?)
      (fun s given => s.loadTypes given base) (s, []))).1

/-- The statements that the operation adds unless they are there, in their order. -/
def entered (op : StoreOperation) (s : Store) : List Statement :=
  match op with
  | load payload base =>
    match payload, (payload.get? "items").bind Json.elements? with
    | .object _, some items => Store.describedByAll base (vocabularyLoaded s payload base) items
    | _, _ => []
  | loadItems items base => Store.describedByAll base s items
  | add t => [t]
  | _ => []

/-- **The ledger after the operation**: what it names is gone, the rest keeps its order, and what it
    enters comes behind. -/
def after (op : StoreOperation) (s : Store) (l : Ledger) : Ledger :=
  Ledger.addAll (l.filter fun t => !op.names t) (op.entered s)

/-- **What the operation answers**, by the ledger before it. -/
def answer (op : StoreOperation) (l : Ledger) : Option Bool :=
  if op.answers then some (l.any op.names) else none

variable {s : Store} {l : Ledger}

/-- An operation that names no statement leaves those that are there. -/
theorem after_of_names_false {op : StoreOperation} (h : ∀ t, op.names t = false) (s : Store)
    (l : Ledger) : op.after s l = l.addAll (op.entered s) := by
  simp [after, h]

theorem vocabularyLoaded_refines (h : s.Refines l) (payload : Json) (base : String) :
    (vocabularyLoaded s payload base).Refines l := by
  have htypes : (Store.loadPart ((payload.get? "types").bind Json.fields?)
      (fun s given => s.loadTypes given base) (s, [])).1.Refines l := by
    unfold Store.loadPart
    split
    · exact h
    · exact h.loadTypes _ base
  unfold vocabularyLoaded
  unfold Store.loadPart at htypes ⊢
  split
  · exact htypes
  · exact htypes.loadProperties _ base

theorem load_refines (h : s.Refines l) (payload : Json) (base : String) :
    ((load payload base).perform s).2.Refines (l.addAll ((load payload base).entered s)) := by
  cases payload with
  | object fields =>
    have hvocabulary := vocabularyLoaded_refines h (.object fields) base
    simp only [perform, Store.load, entered]
    cases hitems : ((Json.object fields).get? "items").bind Json.elements? with
    | none => exact hvocabulary
    | some items => exact hvocabulary.loadItems items base
  | _ => exact h

/-- Removals by name remove what they name: it is the same whether the statements are looked up first
    or picked out of the ledger. -/
theorem removals_refine (h : s.Refines l) {ts : List Statement} {named : Statement → Bool}
    (hts : ∀ t ∈ l, t ∈ ts ↔ named t = true) :
    (s.removeStatements (ts.map fun t => (t.subject, t.property, t.object))).1 = l.any named ∧
      (s.removeStatements (ts.map fun t => (t.subject, t.property, t.object))).2.Refines
        (l.filter fun t => !named t) := by
  obtain ⟨hanswer, hstore⟩ := h.removeStatements ts
  constructor
  · rw [hanswer, Bool.eq_iff_iff, List.any_eq_true, List.any_eq_true]
    exact exists_congr fun t => and_congr_right fun ht => by simpa using hts t ht
  · rw [List.filter_congr fun t ht => ?_] at hstore
    · exact hstore
    · rw [Bool.eq_iff_iff]
      simpa using not_congr (hts t ht)

theorem removeObjects_refines (h : s.Refines l) (x p : String) :
    (s.removeObjects x p).1 = l.any (removeObjects x p).names ∧
      (s.removeObjects x p).2.Refines (l.filter fun t => !(removeObjects x p).names t) := by
  have hmem : ∀ t ∈ l, t ∈ (l.objects x p).map (Statement.mk x p) ↔
      (removeObjects x p).names t = true := by
    intro t ht
    simp only [List.mem_map, Ledger.mem_objects, names, Bool.and_eq_true, beq_iff_eq]
    constructor
    · rintro ⟨z, _, rfl⟩
      exact ⟨rfl, rfl⟩
    · rintro ⟨rfl, rfl⟩
      exact ⟨t.object, ht, rfl⟩
  have hremoved := removals_refine h hmem
  rw [List.map_map, ← h.objectList] at hremoved
  exact hremoved

theorem removeSubjects_refines (h : s.Refines l) (x p : String) :
    (s.removeSubjects x p).1 = l.any (removeSubjects x p).names ∧
      (s.removeSubjects x p).2.Refines (l.filter fun t => !(removeSubjects x p).names t) := by
  have hmem : ∀ t ∈ l, t ∈ (l.subjects x p).map (fun z => Statement.mk z p x) ↔
      (removeSubjects x p).names t = true := by
    intro t ht
    simp only [List.mem_map, Ledger.mem_subjects, names, Bool.and_eq_true, beq_iff_eq]
    constructor
    · rintro ⟨z, _, rfl⟩
      exact ⟨rfl, rfl⟩
    · rintro ⟨rfl, rfl⟩
      exact ⟨t.subject, ht, rfl⟩
  have hremoved := removals_refine h hmem
  rw [List.map_map, ← h.subjectList] at hremoved
  exact hremoved

/-- **One operation**: the store refines the ledger after it, and answers by the ledger before it. -/
theorem perform_refines (h : s.Refines l) (op : StoreOperation) :
    (op.perform s).1 = op.answer l ∧ (op.perform s).2.Refines (op.after s l) := by
  cases op with
  | load payload base =>
    refine ⟨?_, ?_⟩
    · cases payload <;> rfl
    · rw [after_of_names_false fun _ => rfl]
      exact load_refines h payload base
  | loadTypes types base =>
    refine ⟨rfl, ?_⟩
    rw [after_of_names_false fun _ => rfl]
    exact h.loadTypes types base
  | loadProperties properties base =>
    refine ⟨rfl, ?_⟩
    rw [after_of_names_false fun _ => rfl]
    exact h.loadProperties properties base
  | loadItems items base =>
    refine ⟨rfl, ?_⟩
    rw [after_of_names_false fun _ => rfl]
    exact h.loadItems items base
  | add t =>
    refine ⟨rfl, ?_⟩
    rw [after_of_names_false fun _ => rfl]
    exact ((h.enter t).ensureProperty _ _).invalidate _
  | remove t =>
    obtain ⟨hanswer, hstore⟩ := h.removeStatement t
    refine ⟨?_, hstore⟩
    simp only [perform, Prod.map_fst, hanswer, answer, answers, if_true]
    congr 1
    rw [Bool.eq_iff_iff]
    simp [names]
  | removeObjects x p =>
    obtain ⟨hanswer, hstore⟩ := removeObjects_refines h x p
    exact ⟨congrArg some hanswer, hstore⟩
  | removeSubjects x p =>
    obtain ⟨hanswer, hstore⟩ := removeSubjects_refines h x p
    exact ⟨congrArg some hanswer, hstore⟩
  | removeAll =>
    refine ⟨rfl, ?_⟩
    have hnone : (removeAll).after s l = [] := by simp [after, names, entered, Ledger.addAll]
    rw [hnone]
    exact Store.Refines.empty.congr rfl rfl
  | askRanges p =>
    refine ⟨rfl, ?_⟩
    rw [after_of_names_false fun _ => rfl]
    refine h.congr ?_ ?_ <;> (simp only [perform, Store.rangeIndex?]; repeat' split) <;> rfl
  | askProperties =>
    refine ⟨rfl, ?_⟩
    rw [after_of_names_false fun _ => rfl]
    refine h.congr ?_ ?_ <;> (simp only [perform, Store.allProperties]; split) <;> rfl

end StoreOperation

/-! ## 4. Runs -/

/-- The store after a run, and beside it the ledger of the run. -/
def replay (ops : List StoreOperation) : Store × Ledger :=
  ops.foldl (fun (s, l) op => ((op.perform s).2, op.after s l)) (Store.empty, [])

/-- The store after a run from a new store. -/
def storeAfter (ops : List StoreOperation) : Store :=
  ops.foldl (fun s op => (op.perform s).2) Store.empty

/-- The ledger of a run. -/
def ledgerOf (ops : List StoreOperation) : Ledger := (replay ops).2

theorem replay_concat (ops : List StoreOperation) (op : StoreOperation) :
    replay (ops ++ [op]) =
      ((op.perform (replay ops).1).2, op.after (replay ops).1 (replay ops).2) := by
  simp [replay, List.foldl_append]

theorem replay_fst (ops : List StoreOperation) : (replay ops).1 = storeAfter ops := by
  induction ops using List.reverseRecOn with
  | nil => rfl
  | append_singleton ops op ih => rw [replay_concat, ih]; simp [storeAfter, List.foldl_append]

/-- The ledger of a run grows by what the last operation does to it. -/
theorem ledgerOf_concat (ops : List StoreOperation) (op : StoreOperation) :
    ledgerOf (ops ++ [op]) = op.after (storeAfter ops) (ledgerOf ops) := by
  rw [ledgerOf, replay_concat, replay_fst, ledgerOf]

theorem storeAfter_concat (ops : List StoreOperation) (op : StoreOperation) :
    storeAfter (ops ++ [op]) = (op.perform (storeAfter ops)).2 := by
  simp [storeAfter, List.foldl_append]

/-- A store after any run refines the ledger of the run. -/
theorem storeAfter_refines (ops : List StoreOperation) : (storeAfter ops).Refines (ledgerOf ops) := by
  induction ops using List.reverseRecOn with
  | nil => exact Store.Refines.empty
  | append_singleton ops op ih =>
    rw [storeAfter_concat, ledgerOf_concat]
    exact (StoreOperation.perform_refines ih op).2

/-- **A store reads as the ledger of its run**: a list without repetitions from which every list of
    objects and of subjects, every first one, and the properties of every text are read; a removal
    answers whether it finds anything there, and every operation does to it what it does to a list. -/
theorem reads_ledgerOf (ops : List StoreOperation) :
    (ledgerOf ops).Nodup ∧
      (∀ x p, (storeAfter ops).objectList x p = (ledgerOf ops).objects x p) ∧
      (∀ x p, (storeAfter ops).subjectList x p = (ledgerOf ops).subjects x p) ∧
      (∀ x p, (storeAfter ops).object? x p = ((ledgerOf ops).objects x p).head?) ∧
      (∀ x p, (storeAfter ops).subject? x p = ((ledgerOf ops).subjects x p).head?) ∧
      (∀ x, (storeAfter ops).forwardProperties x = (ledgerOf ops).forwardProperties x) ∧
      (∀ x, (storeAfter ops).backwardProperties x = (ledgerOf ops).backwardProperties x) ∧
      ∀ op, (op.perform (storeAfter ops)).1 = op.answer (ledgerOf ops) ∧
        ledgerOf (ops ++ [op]) = op.after (storeAfter ops) (ledgerOf ops) := by
  have h := storeAfter_refines ops
  refine ⟨h.nodup, h.objectList, h.subjectList, fun x p => ?_, fun x p => ?_, h.forwardProperties,
    h.backwardProperties, fun op => ⟨(StoreOperation.perform_refines h op).1, ledgerOf_concat ops op⟩⟩
  · rw [Store.object?, h.objectList]
  · rw [Store.subject?, h.subjectList]

/-! ## 5. Stores that have a ledger -/

namespace Store

/-- The store refines some ledger. -/
def Recorded (s : Store) : Prop := ∃ l, s.Refines l

namespace Recorded

variable {s t : Store}

theorem perform (h : s.Recorded) (op : StoreOperation) : (op.perform s).2.Recorded := by
  obtain ⟨l, hl⟩ := h
  exact ⟨_, (StoreOperation.perform_refines hl op).2⟩

theorem load {payload : Json} {base : String} {events : List StoreEvent} (h : s.Recorded)
    (hload : s.load payload base = .ok (t, events)) : t.Recorded := by
  have hperform := h.perform (.load payload base)
  rw [StoreOperation.perform, hload] at hperform
  exact hperform

end Recorded

end Store

end Faceted
