import Faceted.Proofs.Store.Registered

/-!
# The list of all properties

A property becomes known when a payload describes it, when an item has a field of its name, or when a
statement is entered under it, and it stays known from then on. The list of all properties is kept
from one question to the next, so each of these has to make the store forget it.

* `Store.Learns`: the known properties after a change are those before it and some more;
* `StoreOperation.named`: the properties that an operation speaks of; `learns_perform` is the step;
* **`properties_listed`**: whenever all properties are asked for, the answer is the ascending list of
  those that are known, and no statement has another one.
-/

namespace Faceted

namespace Store

/-! ## 1. Becoming known -/

/-- After the change the named properties are known, and those that were known before. -/
def Learns (named : List String) (s t : Store) : Prop :=
  ∀ p, p ∈ t.properties.keys ↔ p ∈ named ∨ p ∈ s.properties.keys

/-- The id of a property, if it comes with a description. -/
def describedId : String × Json → List String
  | (id, .object _) => [id]
  | _ => []

/-- The name of a field, if what it holds are statements. -/
def fieldNamed (field : String × Json) : List String :=
  if field.1 ∈ identityFields then [] else [field.1]

/-- The properties that the description of an item has fields for. -/
def fieldsNamed : Json → List String
  | .object fields => fields.flatMap fieldNamed
  | _ => []

namespace Learns

variable {s t u : Store} {named more : List String}

theorem nothing (h : t.properties.keys = s.properties.keys) : Learns [] s t := fun p => by
  rw [h]
  simp

theorem trans (hst : Learns named s t) (htu : Learns more t u) : Learns (named ++ more) s u := by
  intro p
  rw [htu p, hst p, List.mem_append, or_left_comm, or_assoc]

/-- A change that leaves the known properties alone may follow. -/
theorem then_same (h : Learns named s t) (hkeys : u.properties.keys = t.properties.keys) :
    Learns named s u := fun p => by rw [hkeys, h p]

/-- One change after the other. -/
theorem foldl {α : Type} {step : Store → α → Store} {names : α → List String}
    (hstep : ∀ s a, Learns (names a) s (step s a)) (as : List α) (s : Store) :
    Learns (as.flatMap names) s (as.foldl step s) := by
  induction as generalizing s with
  | nil => exact nothing rfl
  | cons a as ih => exact (hstep s a).trans (ih (step s a))

/-! ## 2. Loading -/

theorem ensureProperty (s : Store) (property base : String) :
    Learns [property] s (s.ensureProperty property base) := by
  intro p
  unfold Store.ensureProperty
  rw [List.mem_singleton]
  split
  · next hknown =>
    have hmem : property ∈ s.properties.keys := KeyMap.mem_keys_iff.mpr hknown
    exact ⟨.inr, fun h => h.elim (fun hp => hp ▸ hmem) id⟩
  · exact KeyMap.mem_keys_insert

theorem properties_enterTexts (s : Store) (id property : String) (texts : List String) :
    (texts.foldl (fun s text => s.enter id property text) s).properties = s.properties := by
  induction texts generalizing s with
  | nil => rfl
  | cons text texts ih => exact ih (s.enter id property text)

theorem enterField (base id : String) (s : Store) (field : String × Json) :
    Learns (fieldNamed field) s (s.enterField base id field) := by
  obtain ⟨property, value⟩ := field
  unfold Store.enterField fieldNamed
  dsimp only
  split
  · exact nothing rfl
  · refine (ensureProperty s property base).then_same ?_
    rw [properties_enterTexts]
    exact KeyMap.keys_modify _ _ _

theorem properties_enterIdentity (s : Store) (base id label : String) (fields : List (String × Json)) :
    (s.enterIdentity base id label fields).properties = s.properties := by
  unfold Store.enterIdentity Store.ensureType
  dsimp only
  split <;> rfl

theorem loadItem (base : String) (s : Store) (entry : Json) :
    Learns (fieldsNamed entry) s (s.loadItem base entry) := by
  cases entry with
  | object fields =>
    rw [loadItem_object]
    have hcounted : (s.counted fields).properties = s.properties := by
      unfold Store.counted
      split <;> rfl
    have hentered {t : Store} (ht : t.properties = s.properties) :
        Learns (fieldsNamed (.object fields)) s
          (fields.foldl (Store.enterField base (s.entryOf fields).1) t) := fun p => by
      rw [← ht]
      exact foldl (enterField base (s.entryOf fields).1) fields t p
    refine (((hentered ?_).then_same (KeyMap.keys_modify _ _ _)).then_same
      (KeyMap.keys_modify _ _ _)).then_same (KeyMap.keys_modify _ _ _)
    split
    · rw [properties_enterIdentity, hcounted]
    · exact hcounted
  | _ => exact nothing rfl

theorem loadProperty (base : String) (s : Store) (entry : String × Json) :
    Learns (describedId entry) s (s.loadProperty base entry) := by
  obtain ⟨id, description⟩ := entry
  cases description with
  | object fields =>
    intro p
    rw [describedId, List.mem_singleton]
    exact KeyMap.mem_keys_insert
  | _ => exact nothing rfl

theorem loadTypes (s : Store) (types : List (String × Json)) (base : String) :
    Learns [] s (s.loadTypes types base).1 := by
  refine nothing (congrArg KeyMap.keys ?_)
  refine List.foldlRecOn (motive := fun t : Store => t.properties = s.properties) types
    (Store.loadType base) rfl fun t ht entry _ => ?_
  unfold Store.loadType
  split
  · exact ht
  · exact ht

theorem loadProperties (s : Store) (properties : List (String × Json)) (base : String) :
    Learns (properties.flatMap describedId) s (s.loadProperties properties base).1 :=
  (foldl (loadProperty base) properties s).then_same rfl

theorem loadItems (s : Store) (items : List Json) (base : String) :
    Learns (items.flatMap fieldsNamed) s (s.loadItems items base).1 :=
  (foldl (loadItem base) items s).then_same rfl

/-- A part of a payload is loaded if it is there. -/
theorem loadPart {α : Type} {names : α → List String}
    {loader : Store → α → Store × List StoreEvent} {state : Store × List StoreEvent}
    (h : Learns named s state.1) (hloader : ∀ s a, Learns (names a) s (loader s a).1)
    (part : Option α) :
    Learns (named ++ part.toList.flatMap names) s (Store.loadPart part loader state).1 := by
  cases part with
  | none => simpa [Store.loadPart] using h
  | some given => simpa [Store.loadPart] using h.trans (hloader state.1 given)

/-! ## 3. Operations -/

theorem removeStatement (s : Store) (x p y : String) : Learns [] s (s.removeStatement x p y).2 := by
  unfold Store.removeStatement
  split
  · exact nothing (KeyMap.keys_modify _ _ _)
  · exact nothing rfl

theorem removeStatements (s : Store) (ts : List (String × String × String)) :
    Learns [] s (s.removeStatements ts).2 := by
  have hnames : ts.flatMap (fun _ => ([] : List String)) = [] :=
    List.flatMap_eq_nil_iff.mpr fun _ _ => rfl
  rw [removeStatements_snd, ← hnames]
  exact foldl (fun s t => removeStatement s t.1 t.2.1 t.2.2) ts s

theorem rangeIndex? (s : Store) (property : String) : Learns [] s (s.rangeIndex? property).2 := by
  rcases s.rangeIndex?_snd property with hsame | ⟨p, hp, -, -, hindexed⟩
  · exact nothing (by rw [hsame])
  · rw [hindexed]
    exact nothing (KeyMap.keys_insert_of_get? hp)

end Learns

end Store

namespace StoreOperation

/-- The properties that the operation speaks of, be it that it describes them or uses them. -/
def named : StoreOperation → List String
  | load payload _ =>
    match payload with
    | .object _ =>
      ((payload.get? "properties").bind Json.fields?).toList.flatMap (·.flatMap Store.describedId) ++
        ((payload.get? "items").bind Json.elements?).toList.flatMap (·.flatMap Store.fieldsNamed)
    | _ => []
  | loadProperties properties _ => properties.flatMap Store.describedId
  | loadItems items _ => items.flatMap Store.fieldsNamed
  | add t => [t.property]
  | _ => []

/-- **One operation**: known afterwards are the properties that it speaks of, and those from before. -/
theorem learns_perform (op : StoreOperation) (s : Store) : Store.Learns op.named s (op.perform s).2 := by
  cases op with
  | load payload base =>
    cases payload with
    | object fields =>
      have htypes : Store.Learns [] s
          (Store.loadPart (((Json.object fields).get? "types").bind Json.fields?)
            (fun s given => s.loadTypes given base) (s, [])).1 := by
        cases ((Json.object fields).get? "types").bind Json.fields? with
        | none => exact .nothing rfl
        | some types => exact .loadTypes s types base
      have hproperties := htypes.loadPart (fun s given => .loadProperties s given base)
        (((Json.object fields).get? "properties").bind Json.fields?)
      exact hproperties.loadPart (fun s given => .loadItems s given base)
        (((Json.object fields).get? "items").bind Json.elements?)
    | _ => exact .nothing rfl
  | loadTypes types base => exact .loadTypes s types base
  | loadProperties properties base => exact .loadProperties s properties base
  | loadItems items base => exact .loadItems s items base
  | add t =>
    have hentered : Store.Learns [] s (s.enter t.subject t.property t.object) := .nothing rfl
    exact (hentered.trans (.ensureProperty _ t.property "")).then_same (KeyMap.keys_modify _ _ _)
  | remove t => exact .removeStatement s t.subject t.property t.object
  | removeObjects x p => exact .removeStatements s _
  | removeSubjects x p => exact .removeStatements s _
  | removeAll => exact .nothing (KeyMap.keys_mapValues _ _)
  | askRanges p => exact .rangeIndex? s p
  | askProperties =>
    unfold perform Store.allProperties
    dsimp only
    split <;> exact .nothing rfl

end StoreOperation

/-! ## 4. Runs -/

/-- **After any run** those properties are known that every store knows or an operation has spoken of. -/
theorem mem_properties_storeAfter (ops : List StoreOperation) (p : String) :
    p ∈ (storeAfter ops).properties.keys ↔
      p ∈ Store.entryProperties ∨ ∃ op ∈ ops, p ∈ op.named := by
  have hrun : Store.Learns (ops.flatMap StoreOperation.named) Store.empty (storeAfter ops) :=
    .foldl (fun s op => StoreOperation.learns_perform op s) ops Store.empty
  have hstart : p ∈ Store.empty.properties.keys ↔ p ∈ Store.entryProperties := by
    show p ∈ ["label", "type", "uri"] ↔ p ∈ ["uri", "label", "type"]
    simp only [List.mem_cons]
    grind
  rw [← hstart, or_comm, ← List.mem_flatMap]
  exact hrun p

/-- **The list of all properties is complete and current.** Wherever in a run all properties are asked
    for, the answer is strictly ascending and lists exactly the known properties: those that every store
    knows, and those that the run has spoken of so far. Every statement has one of them. -/
theorem properties_listed (ops : List StoreOperation) :
    (storeAfter ops).allProperties.1.Pairwise (· < ·) ∧
      (∀ p, p ∈ (storeAfter ops).allProperties.1 ↔
        ((storeAfter ops).properties.get? p).isSome) ∧
      (∀ p, p ∈ (storeAfter ops).allProperties.1 ↔
        p ∈ Store.entryProperties ∨ ∃ op ∈ ops, p ∈ op.named) ∧
      ∀ x p y, (y ∈ (storeAfter ops).objectList x p ∨ x ∈ (storeAfter ops).subjectList y p) →
        p ∈ (storeAfter ops).allProperties.1 := by
  have hregistered := Store.registered_of_run ops
  rw [hregistered.allProperties_fst]
  refine ⟨(storeAfter ops).properties.keys_ascending, fun p => KeyMap.mem_keys_iff,
    mem_properties_storeAfter ops, fun x p y hstated => ?_⟩
  have hobject : y ∈ (storeAfter ops).objectList x p :=
    hstated.elim id (storeAfter_refines ops).mem_objectList_iff.mpr
  exact hregistered.stated x p y hobject

/-- A colour is listed after the question that was asked before it came, and stays when it goes. -/
example : (storeAfter [.askProperties, .add ⟨"rose", "colour", "red"⟩, .askProperties,
    .removeAll]).allProperties.1 = ["colour", "label", "type", "uri"] := by decide +kernel

end Faceted
