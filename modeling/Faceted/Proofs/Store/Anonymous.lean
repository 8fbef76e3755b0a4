import Faceted.Proofs.KeySet.Sizes
import Faceted.Proofs.Store.Unasked

/-!
# Items that are named by counting

An entry that gives no id, no label and no URI is named by counting. The count knows nothing of the names
that other entries choose: if one of them has chosen the name that comes up, the two items are one.

* `Register`: the known items and the count. It changes by the entries alone, `register_perform` is the
  step, and `mem_items_storeAfter_iff` tells the known items of a run;
* `counted_mem_items_iff`: a name that is still to come up by counting is known exactly if an entry has
  chosen it since the statements were last removed;
* `objectList_of_isAnonymous`: what is said after such entries have been loaded;
* **`anonymous_loaded`**: what any number of such entries do to a store after any run;
* **`anonymous_merged`**: an entry without a name and an item that is called `item1`.
-/

namespace Faceted

theorem counted_inj {stem : String} {m n : Nat} (h : stem ++ toString m = stem ++ toString n) :
    m = n := by
  have hdigits := (String.append_right_inj stem).mp h
  rw [Nat.toString_eq_ofList_toDigits, Nat.toString_eq_ofList_toDigits, String.ofList_inj] at hdigits
  rw [← Nat.ofDigitChars_ten_toDigits (n := m), hdigits, Nat.ofDigitChars_ten_toDigits]

namespace KeySet

theorem insert_of_mem {s : KeySet} {k : String} (h : k ∈ s) : s.insert k = s :=
  ext fun a => by
    rw [mem_insert]
    exact ⟨fun ha => ha.elim (fun heq => heq ▸ h) id, .inr⟩

end KeySet

namespace Store

/-! ## 1. Entries and their names -/

/-- The name of the `n`th item that is named by counting. -/
def countedName (n : Nat) : String := "item" ++ toString n

/-- The id that an entry chooses for its item. -/
def chosenId? : Json → Option String
  | .object fields => (identity? fields).map Prod.fst
  | _ => none

/-- Is this an item that is to be named by counting? -/
def isAnonymous : Json → Bool
  | .object fields => (identity? fields).isNone
  | _ => false

/-- The ids that entries choose. -/
def chosenIn (entries : List Json) : List String := entries.filterMap chosenId?

/-- How many of the entries are named by counting. -/
def anonymousIn (entries : List Json) : Nat := entries.countP isAnonymous

/-- The known items, and how many have been named by counting. -/
structure Register where
  items : KeySet
  counted : Nat

/-- An entry is put down under its name. -/
def Register.enter (r : Register) (entry : Json) : Register :=
  match chosenId? entry with
  | some id => { r with items := r.items.insert id }
  | none =>
    if isAnonymous entry then ⟨r.items.insert (countedName (r.counted + 1)), r.counted + 1⟩ else r

theorem isAnonymous_of_chosen {entry : Json} {id : String} (h : chosenId? entry = some id) :
    isAnonymous entry = false := by
  cases entry with
  | object fields =>
    obtain ⟨identity, hidentity, -⟩ := Option.map_eq_some_iff.mp h
    rw [isAnonymous, hidentity, Option.isNone_some]
  | _ => cases h

theorem chosen_of_isAnonymous {entry : Json} (h : isAnonymous entry = true) :
    chosenId? entry = none := by
  by_contra hsome
  obtain ⟨id, hid⟩ := Option.ne_none_iff_exists'.mp hsome
  rw [isAnonymous_of_chosen hid] at h
  cases h

namespace Register

variable {r : Register} {x : String}

theorem enter_anonymous {entry : Json} (h : isAnonymous entry = true) (r : Register) :
    r.enter entry = ⟨r.items.insert (countedName (r.counted + 1)), r.counted + 1⟩ := by
  rw [enter, chosen_of_isAnonymous h]
  exact if_pos h

theorem counted_enterAll (entries : List Json) (r : Register) :
    (entries.foldl enter r).counted = r.counted + anonymousIn entries := by
  induction entries generalizing r with
  | nil => rfl
  | cons entry rest ih =>
    rw [List.foldl_cons, ih, anonymousIn, anonymousIn, List.countP_cons]
    unfold enter
    cases h : chosenId? entry with
    | some id => simp [isAnonymous_of_chosen h]
    | none =>
      by_cases hanon : isAnonymous entry = true
      · simp only [hanon, if_true]
        omega
      · simp [hanon]

/-- Known are the items that were known, those that are chosen, and those that the count goes through. -/
theorem mem_enterAll {entries : List Json} :
    x ∈ (entries.foldl enter r).items ↔ x ∈ r.items ∨ x ∈ chosenIn entries ∨
      ∃ n, r.counted < n ∧ n ≤ r.counted + anonymousIn entries ∧ x = countedName n := by
  induction entries generalizing r with
  | nil =>
    have hnone (n : Nat) : ¬ (r.counted < n ∧ n ≤ r.counted) := by omega
    simp [chosenIn, anonymousIn, ← and_assoc, hnone]
  | cons entry rest ih =>
    rw [List.foldl_cons, ih]
    unfold enter chosenIn anonymousIn
    cases h : chosenId? entry with
    | some id => simp [h, isAnonymous_of_chosen h, or_assoc, or_left_comm]
    | none =>
      by_cases hanon : isAnonymous entry = true
      · simp only [hanon, if_true, KeySet.mem_insert, List.filterMap_cons, h, List.countP_cons]
        -- the first of the names is the one that the entry gets
        have hsplit : (∃ n, r.counted < n ∧ n ≤ r.counted + (rest.countP isAnonymous + 1) ∧
            x = countedName n) ↔ x = countedName (r.counted + 1) ∨
              ∃ n, r.counted + 1 < n ∧ n ≤ r.counted + 1 + rest.countP isAnonymous ∧
                x = countedName n := by
          constructor
          · intro hnamed
            obtain ⟨n, hlt, hle, hx⟩ := hnamed
            by_cases hn : n = r.counted + 1
            · exact .inl (hn ▸ hx)
            · exact .inr ⟨n, by omega, by omega, hx⟩
          · intro hx
            rcases hx with hx | ⟨n, hlt, hle, hx⟩
            · exact ⟨_, by omega, by omega, hx⟩
            · exact ⟨n, by omega, by omega, hx⟩
        rw [hsplit]
        tauto
      · simp [hanon, h]

/-- Every name that is not known yet makes one more item; the names that come up differ. -/
theorem size_enterAll {entries : List Json} (h : ∀ entry ∈ entries, isAnonymous entry = true) :
    (entries.foldl enter r).items.size = r.items.size +
      (List.range' (r.counted + 1) entries.length).countP fun n => countedName n ∉ r.items := by
  induction entries generalizing r with
  | nil => rfl
  | cons entry rest ih =>
    obtain ⟨hentry, hrest⟩ := List.forall_mem_cons.mp h
    rw [List.foldl_cons, ih hrest, enter_anonymous hentry, List.length_cons, List.range'_succ,
      List.countP_cons]
    have hlater : (List.range' (r.counted + 1 + 1) rest.length).countP (fun n =>
          countedName n ∉ r.items.insert (countedName (r.counted + 1))) =
        (List.range' (r.counted + 1 + 1) rest.length).countP fun n => countedName n ∉ r.items := by
      refine List.countP_congr fun n hn => ?_
      have hne : countedName n ≠ countedName (r.counted + 1) := fun heq => by
        have hn := (List.mem_range'_1.mp hn).1
        have heq := counted_inj heq
        omega
      simp [hne]
    rw [hlater]
    by_cases hknown : countedName (r.counted + 1) ∈ r.items
    · simp [KeySet.insert_of_mem hknown, hknown]
    · simp only [KeySet.size_insert_of_not_mem hknown, hknown, not_false_eq_true, decide_true,
        if_true]
      omega

end Register

/-! ## 2. The register of a store -/

/-- What a store knows of the names of its items. -/
def register (s : Store) : Register := ⟨s.items, s.anonymous⟩

@[simp] theorem register_items (s : Store) : s.register.items = s.items := rfl

@[simp] theorem register_counted (s : Store) : s.register.counted = s.anonymous := rfl

section

variable {s : Store}

theorem register_foldl {α : Type} {f : Store → α → Store}
    (hf : ∀ s a, (f s a).register = s.register) (xs : List α) (s : Store) :
    (xs.foldl f s).register = s.register :=
  List.foldlRecOn (motive := fun t : Store => t.register = s.register) xs f rfl
    fun t ht a _ => (hf t a).trans ht

theorem register_ensureProperty (s : Store) (property base : String) :
    (s.ensureProperty property base).register = s.register := by
  unfold ensureProperty
  split <;> rfl

theorem register_ensureType (s : Store) (type base : String) :
    (s.ensureType type base).register = s.register := by
  unfold ensureType
  split <;> rfl

theorem register_removeStatements (s : Store) (ts : List (String × String × String)) :
    (s.removeStatements ts).2.register = s.register := by
  rw [removeStatements_snd]
  refine register_foldl (fun s t => ?_) ts s
  unfold removeStatement
  split <;> rfl

theorem register_enterField (base id : String) (s : Store) (field : String × Json) :
    (s.enterField base id field).register = s.register := by
  unfold enterField
  dsimp only
  split
  · rfl
  · exact (register_foldl (f := fun s text => s.enter id field.1 text) (fun _ _ => rfl) _ _).trans
      (register_ensureProperty s field.1 base)

theorem register_loadItem (base : String) (s : Store) (entry : Json) :
    (s.loadItem base entry).register = s.register.enter entry := by
  cases entry with
  | object fields =>
    rw [loadItem_object]
    have hfields (t : Store) (id : String) :
        ((((fields.foldl (enterField base id) t).invalidate "uri").invalidate "label").invalidate
          "type").register = t.register :=
      register_foldl (register_enterField base id) fields t
    have hidentity (t : Store) (id label : String) :
        (t.enterIdentity base id label fields).register = ⟨t.items.insert id, t.anonymous⟩ :=
      register_ensureType _ _ _
    rw [hfields]
    cases hid : identity? fields with
    | none =>
      have hanon : isAnonymous (.object fields) = true := by rw [isAnonymous, hid, Option.isNone_none]
      have hentry : s.entryOf fields = (s.nextAnonymous, some s.nextAnonymous) := by
        rw [entryOf, hid, Option.getD_none]
      have hcounted : s.counted fields = { s with anonymous := s.anonymous + 1 } := by
        unfold counted
        rw [hid]
      rw [Register.enter_anonymous hanon, isIntroduced, hentry, hcounted, Option.isSome_some,
        Bool.true_or, if_pos rfl]
      exact hidentity _ _ _
    | some identity =>
      obtain ⟨id, label⟩ := identity
      have hchosen : chosenId? (.object fields) = some id := congrArg (Option.map Prod.fst) hid
      have hentry : s.entryOf fields = (id, label) := by rw [entryOf, hid, Option.getD_some]
      have hcounted : s.counted fields = s := by
        unfold counted
        rw [hid]
      rw [Register.enter, hchosen, isIntroduced, hentry, hcounted]
      split
      · exact hidentity _ _ _
      · next hknown =>
        -- an item that is not introduced is known already
        simp only [Bool.or_eq_true, not_or, Bool.not_eq_true, Bool.not_eq_false',
          KeySet.contains_iff] at hknown
        exact congrArg (Register.mk · s.anonymous) (KeySet.insert_of_mem hknown.2).symm
  | _ => rfl

theorem register_loadItems (s : Store) (entries : List Json) (base : String) :
    (s.loadItems entries base).1.register = entries.foldl Register.enter s.register := by
  show (entries.foldl (loadItem base) s).register = _
  induction entries generalizing s with
  | nil => rfl
  | cons entry rest ih => rw [List.foldl_cons, List.foldl_cons, ih, register_loadItem]

theorem register_vocabularyLoaded (s : Store) (payload : Json) (base : String) :
    (StoreOperation.vocabularyLoaded s payload base).register = s.register := by
  have htypes (s : Store) (types : List (String × Json)) :
      (s.loadTypes types base).1.register = s.register := by
    refine register_foldl (fun s entry => ?_) types s
    unfold loadType
    split <;> rfl
  have hproperties (s : Store) (properties : List (String × Json)) :
      (s.loadProperties properties base).1.register = s.register := by
    refine register_foldl (fun s entry => ?_) properties s
    unfold loadProperty
    split <;> rfl
  unfold StoreOperation.vocabularyLoaded loadPart
  cases (payload.get? "properties").bind Json.fields? <;>
    cases (payload.get? "types").bind Json.fields?
  · rfl
  · exact htypes _ _
  · exact hproperties _ _
  · exact (hproperties _ _).trans (htypes _ _)

end

end Store

namespace StoreOperation

open Store

/-- The entries of items that the operation loads. -/
def loads? : StoreOperation → Option (List Json)
  | load payload _ => (payload.get? "items").bind Json.elements?
  | loadItems entries _ => some entries
  | _ => none

def entries (op : StoreOperation) : List Json := op.loads?.getD []

def isRemoval : StoreOperation → Bool
  | removeAll => true
  | _ => false

/-- **One operation**: entries of items are put down one after the other, and a removal of all statements
    forgets the items and not the count. -/
theorem register_perform (s : Store) (op : StoreOperation) :
    (op.perform s).2.register =
      if op.isRemoval then ⟨∅, s.anonymous⟩ else op.entries.foldl Register.enter s.register := by
  cases op with
  | load payload base =>
    cases payload with
    | object fields =>
      have hvocabulary := register_vocabularyLoaded s (.object fields) base
      rw [if_neg (by simp [isRemoval])]
      simp only [perform, Store.load, entries, loads?]
      cases ((Json.object fields).get? "items").bind Json.elements? with
      | none => exact hvocabulary
      | some items =>
        exact (register_loadItems _ items base).trans
          (congrArg (items.foldl Register.enter) hvocabulary)
    | _ => rfl
  | loadTypes types base => exact register_vocabularyLoaded s (.object [("types", .object types)]) base
  | loadProperties properties base =>
    exact register_vocabularyLoaded s (.object [("properties", .object properties)]) base
  | loadItems items base => exact register_loadItems s items base
  | add t => exact register_ensureProperty _ _ _
  | remove t => exact register_removeStatements s [(t.subject, t.property, t.object)]
  | removeObjects x p => exact register_removeStatements s _
  | removeSubjects x p => exact register_removeStatements s _
  | removeAll => rfl
  | askRanges p =>
    have hsame : SameButAsked _ s := perform_asks (rfl : (askRanges p).asks = true) s
    exact congrArg₂ Register.mk hsame.items hsame.anonymous
  | askProperties =>
    have hsame : SameButAsked _ s := perform_asks (rfl : askProperties.asks = true) s
    exact congrArg₂ Register.mk hsame.items hsame.anonymous

end StoreOperation

open Store

/-! ## 3. Runs -/

/-- The entries that a run loads. -/
def entriesOf (ops : List StoreOperation) : List Json := ops.flatMap StoreOperation.entries

/-- The operations since the statements were last removed. -/
def sinceRemoval (ops : List StoreOperation) : List StoreOperation :=
  ops.foldl (fun recent op => if op.isRemoval then [] else recent ++ [op]) []

theorem entriesOf_concat (ops : List StoreOperation) (op : StoreOperation) :
    entriesOf (ops ++ [op]) = entriesOf ops ++ op.entries := by
  simp [entriesOf]

theorem sinceRemoval_concat (ops : List StoreOperation) (op : StoreOperation) :
    sinceRemoval (ops ++ [op]) = if op.isRemoval then [] else sinceRemoval ops ++ [op] := by
  rw [sinceRemoval, List.foldl_append]
  rfl

theorem StoreOperation.entries_of_isRemoval {op : StoreOperation} (h : op.isRemoval = true) :
    op.entries = [] := by
  cases op with
  | removeAll => rfl
  | _ => cases h

theorem anonymousIn_append (entries more : List Json) :
    anonymousIn (entries ++ more) = anonymousIn entries + anonymousIn more :=
  List.countP_append

/-- The count goes on over all removals. -/
theorem anonymous_storeAfter (ops : List StoreOperation) :
    (storeAfter ops).anonymous = anonymousIn (entriesOf ops) := by
  induction ops using List.reverseRecOn with
  | nil => rfl
  | append_singleton ops op ih =>
    have hcounted := congrArg Register.counted (StoreOperation.register_perform (storeAfter ops) op)
    rw [storeAfter_concat, entriesOf_concat, anonymousIn_append, ← ih]
    refine hcounted.trans ?_
    split
    · next h =>
      rw [StoreOperation.entries_of_isRemoval h]
      rfl
    · exact Register.counted_enterAll op.entries (storeAfter ops).register

/-- **The known items**: those that entries have chosen since the statements were last removed, and
    those that have been counted since then. -/
theorem mem_items_storeAfter_iff (ops : List StoreOperation) (x : String) :
    x ∈ (storeAfter ops).items ↔ x ∈ chosenIn (entriesOf (sinceRemoval ops)) ∨
      ∃ n, anonymousIn (entriesOf ops) < n + anonymousIn (entriesOf (sinceRemoval ops)) ∧
        n ≤ anonymousIn (entriesOf ops) ∧ x = countedName n := by
  induction ops using List.reverseRecOn with
  | nil =>
    have hnone : x ∉ (storeAfter []).items := KeySet.not_mem_empty
    simp [hnone, sinceRemoval, entriesOf, chosenIn, anonymousIn]
  | append_singleton ops op ih =>
    have hitems : (storeAfter (ops ++ [op])).items = (if op.isRemoval then
        ⟨∅, (storeAfter ops).anonymous⟩
        else op.entries.foldl Register.enter (storeAfter ops).register : Register).items := by
      rw [storeAfter_concat]
      exact congrArg Register.items (StoreOperation.register_perform (storeAfter ops) op)
    rw [hitems, sinceRemoval_concat, entriesOf_concat]
    split
    · next h =>
      have hempty : x ∉ (∅ : KeySet) := KeySet.not_mem_empty
      have hnone (n m : Nat) : ¬ (m < n ∧ n ≤ m) := by omega
      simp [hempty, entriesOf, chosenIn, anonymousIn, StoreOperation.entries_of_isRemoval h,
        ← and_assoc, hnone]
    · rw [Register.mem_enterAll, register_counted, anonymous_storeAfter, register_items, ih,
        entriesOf_concat, chosenIn, chosenIn, chosenIn, List.filterMap_append, List.mem_append,
        anonymousIn_append, anonymousIn_append]
      -- the numbers that are counted now follow those that were counted before
      constructor
      · intro h
        rcases h with (h | ⟨n, hlt, hle, hx⟩) | h | ⟨n, hlt, hle, hx⟩
        · exact .inl (.inl h)
        · exact .inr ⟨n, by omega, by omega, hx⟩
        · exact .inl (.inr h)
        · exact .inr ⟨n, by omega, by omega, hx⟩
      · intro h
        rcases h with (h | h) | ⟨n, hlt, hle, hx⟩
        · exact .inl (.inl h)
        · exact .inr (.inl h)
        · by_cases hn : n ≤ anonymousIn (entriesOf ops)
          · exact .inl (.inr ⟨n, by omega, hn, hx⟩)
          · exact .inr (.inr ⟨n, by omega, hle, hx⟩)

/-- **A name that is still to come** is known exactly if an entry has chosen it. -/
theorem counted_mem_items_iff {ops : List StoreOperation} {n : Nat}
    (hn : anonymousIn (entriesOf ops) < n) :
    countedName n ∈ (storeAfter ops).items ↔
      countedName n ∈ chosenIn (entriesOf (sinceRemoval ops)) := by
  rw [mem_items_storeAfter_iff]
  constructor
  · intro h
    rcases h with h | ⟨m, -, hle, heq⟩
    · exact h
    · have heq := counted_inj heq
      omega
  · exact .inl

/-! ## 4. Names that come up -/

/-- The names that the next `n` items get by counting. -/
def upcoming (first n : Nat) : List String := (List.range' (first + 1) n).map countedName

theorem mem_upcoming {first n : Nat} {x : String} :
    x ∈ upcoming first n ↔ ∃ m, first < m ∧ m ≤ first + n ∧ x = countedName m := by
  simp only [upcoming, List.mem_map, List.mem_range'_1]
  exact exists_congr fun m => by
    rw [and_assoc, eq_comm (a := x)]
    exact and_congr (by omega) (and_congr (by omega) Iff.rfl)

theorem upcoming_nodup (first n : Nat) : (upcoming first n).Nodup :=
  List.Nodup.map (fun _ _ => counted_inj) List.nodup_range'

theorem length_upcoming (first n : Nat) : (upcoming first n).length = n := by
  rw [upcoming, List.length_map, List.length_range']

namespace Store.Register

variable {r : Register} {entries : List Json}

/-- Entries that are named by counting add the names that come up. -/
theorem mem_enterAll_of_isAnonymous (h : ∀ entry ∈ entries, isAnonymous entry = true) (x : String) :
    x ∈ (entries.foldl enter r).items ↔ x ∈ r.items ∨ x ∈ upcoming r.counted entries.length := by
  have hnone : chosenIn entries = [] :=
    List.filterMap_eq_nil_iff.mpr fun entry hentry => chosen_of_isAnonymous (h entry hentry)
  have hall : anonymousIn entries = entries.length := List.countP_eq_length.mpr h
  rw [mem_enterAll, hnone, hall, mem_upcoming]
  simp

/-- Every one of these names that is not known yet makes one more item. -/
theorem size_enterAll_of_isAnonymous (h : ∀ entry ∈ entries, isAnonymous entry = true) :
    (entries.foldl enter r).items.size =
      r.items.size + (upcoming r.counted entries.length).countP (· ∉ r.items) := by
  rw [size_enterAll h, upcoming, List.countP_map]
  rfl

end Store.Register

/-- Loading entries enters them into the register and leaves it at that. -/
theorem register_of_loads {op : StoreOperation} {entries : List Json}
    (hloads : op.loads? = some entries) (ops : List StoreOperation) :
    (storeAfter (ops ++ [op])).register = entries.foldl Register.enter (storeAfter ops).register := by
  have hremoval : op.isRemoval = false := by
    cases op with
    | removeAll => cases hloads
    | _ => rfl
  rw [storeAfter_concat, StoreOperation.register_perform, hremoval, StoreOperation.entries, hloads]
  rfl

/-! ## 5. Statements -/

namespace Ledger

variable {l : Ledger} {ts : List Statement} {x : String}

theorem mem_addAll {t : Statement} : t ∈ l.addAll ts ↔ t ∈ l ∨ t ∈ ts := by
  induction ts generalizing l with
  | nil => simp [addAll]
  | cons u ts ih =>
    have hadd : t ∈ l.add u ↔ t ∈ l ∨ t = u := by
      unfold add
      split
      · next hu => exact ⟨.inl, fun h => h.elim id fun heq => heq ▸ hu⟩
      · rw [List.mem_append, List.mem_singleton]
    show t ∈ (l.add u).addAll ts ↔ _
    rw [ih, hadd, List.mem_cons, or_assoc]

/-- What is there stays where it is. -/
theorem objects_addAll_prefix (l : Ledger) (ts : List Statement) (x p : String) :
    l.objects x p <+: (l.addAll ts).objects x p := by
  induction ts generalizing l with
  | nil => exact List.prefix_rfl
  | cons t ts ih =>
    refine List.IsPrefix.trans ?_ (ih (l.add t))
    rw [objects_add]
    split
    · next h =>
      rw [h.1, h.2.1]
      exact List.prefix_append _ _
    · exact List.prefix_rfl

/-- Of other subjects nothing is said. -/
theorem objects_addAll_of_ne (h : ∀ t ∈ ts, t.subject ≠ x) (p : String) :
    (l.addAll ts).objects x p = l.objects x p := by
  induction ts generalizing l with
  | nil => rfl
  | cons t ts ih =>
    obtain ⟨ht, hts⟩ := List.forall_mem_cons.mp h
    show Ledger.objects ((l.add t).addAll ts) x p = _
    rw [ih hts, objects_add, if_neg fun hx => ht hx.1.symm]

end Ledger

namespace Store

variable {base : String} {s : Store}

/-- An entry is about the item of its name. -/
theorem subject_of_mem_describedBy {fields : List (String × Json)} {t : Statement}
    (h : t ∈ s.describedBy base (.object fields)) : t.subject = (s.entryOf fields).1 := by
  rcases List.mem_append.mp h with h | h
  · split at h
    · simp only [identityStatements, List.mem_cons, List.not_mem_nil, or_false] at h
      rcases h with rfl | rfl | rfl <;> rfl
    · cases h
  · obtain ⟨field, -, ht⟩ := List.mem_flatMap.mp h
    unfold fieldStatements at ht
    split at ht
    · cases ht
    · obtain ⟨text, -, rfl⟩ := List.mem_map.mp ht
      rfl

theorem entryOf_of_isAnonymous {fields : List (String × Json)}
    (h : isAnonymous (.object fields) = true) :
    s.entryOf fields = (countedName (s.anonymous + 1), some (countedName (s.anonymous + 1))) := by
  rw [entryOf, Option.isNone_iff_eq_none.mp h]
  rfl

/-- An item that is named by counting is labelled with its name. -/
theorem label_mem_describedBy {fields : List (String × Json)}
    (h : isAnonymous (.object fields) = true) :
    ⟨countedName (s.anonymous + 1), "label", countedName (s.anonymous + 1)⟩ ∈
      s.describedBy base (.object fields) := by
  have hname := entryOf_of_isAnonymous (s := s) h
  simp [describedBy, isIntroduced, hname, identityStatements]

/-- Entries that are named by counting are about the items whose names come up, and each of them is
    labelled with its name. -/
theorem describedByAll_of_isAnonymous {entries : List Json}
    (h : ∀ entry ∈ entries, isAnonymous entry = true) :
    (∀ t ∈ describedByAll base s entries, t.subject ∈ upcoming s.anonymous entries.length) ∧
      ∀ x ∈ upcoming s.anonymous entries.length, ⟨x, "label", x⟩ ∈ describedByAll base s entries := by
  induction entries generalizing s with
  | nil => exact ⟨fun _ => nofun, fun _ => nofun⟩
  | cons entry rest ih =>
    obtain ⟨hentry, hrest⟩ := List.forall_mem_cons.mp h
    have hcount : (s.loadItem base entry).anonymous = s.anonymous + 1 := by
      have hregister := register_loadItem base s entry
      rw [Register.enter_anonymous hentry] at hregister
      exact congrArg Register.counted hregister
    have hupcoming : upcoming s.anonymous (entry :: rest).length =
        countedName (s.anonymous + 1) :: upcoming (s.anonymous + 1) rest.length := rfl
    obtain ⟨hsubjects, hlabels⟩ := ih hrest (s := s.loadItem base entry)
    rw [hcount] at hsubjects hlabels
    rw [hupcoming, describedByAll]
    cases entry with
    | object fields =>
      constructor
      · intro t ht
        rcases List.mem_append.mp ht with ht | ht
        · rw [subject_of_mem_describedBy ht, entryOf_of_isAnonymous hentry]
          exact List.mem_cons_self
        · exact List.mem_cons_of_mem _ (hsubjects t ht)
      · intro x hx
        rcases List.mem_cons.mp hx with rfl | hx
        · exact List.mem_append_left _ (label_mem_describedBy hentry)
        · exact List.mem_append_right _ (hlabels x hx)
    | _ => cases hentry

end Store

/-- What is said of items by an operation that loads them. -/
theorem StoreOperation.entered_of_loads {op : StoreOperation} {entries : List Json}
    (h : op.loads? = some entries) (s : Store) :
    (∀ t, op.names t = false) ∧ ∃ base s', s'.anonymous = s.anonymous ∧
      op.entered s = describedByAll base s' entries := by
  cases op with
  | load payload base =>
    refine ⟨fun _ => rfl, base, vocabularyLoaded s payload base,
      congrArg Register.counted (register_vocabularyLoaded s payload base), ?_⟩
    cases payload with
    | object fields =>
      simp only [entered]
      rw [show ((Json.object fields).get? "items").bind Json.elements? = some entries from h]
    | _ => cases h
  | loadItems items base =>
    obtain rfl := Option.some.inj h
    exact ⟨fun _ => rfl, base, s, rfl, rfl⟩
  | _ => cases h

/-- **What is said after entries have been loaded that are named by counting**: of other texts what was
    said before, and of the names that come up what was said of them and more, their labels among it. -/
theorem objectList_of_isAnonymous {op : StoreOperation} {entries : List Json}
    (hloads : op.loads? = some entries) (hentries : ∀ entry ∈ entries, isAnonymous entry = true)
    (ops : List StoreOperation) :
    let s := storeAfter ops
    let t := storeAfter (ops ++ [op])
    let names := upcoming (anonymousIn (entriesOf ops)) entries.length
    (∀ x ∉ names, ∀ p, t.objectList x p = s.objectList x p) ∧
      ∀ x ∈ names, x ∈ t.objectList x "label" ∧ ∀ p, s.objectList x p <+: t.objectList x p := by
  intro s t names
  obtain ⟨hkept, base, s', hs', hentered⟩ := StoreOperation.entered_of_loads hloads s
  obtain ⟨hsubjects, hlabels⟩ := @describedByAll_of_isAnonymous base s' _ hentries
  rw [hs', anonymous_storeAfter] at hsubjects hlabels
  have hbefore := (storeAfter_refines ops).objectList
  have hafter := (storeAfter_refines (ops ++ [op])).objectList
  rw [ledgerOf_concat, StoreOperation.after_of_names_false hkept, hentered] at hafter
  refine ⟨fun x hx p => ?_, fun x hx => ⟨?_, fun p => ?_⟩⟩
  · rw [hafter, hbefore]
    refine Ledger.objects_addAll_of_ne (fun u hu heq => hx ?_) p
    rw [← heq]
    exact hsubjects u hu
  · rw [hafter]
    exact Ledger.mem_objects.mpr (Ledger.mem_addAll.mpr (.inr (hlabels x hx)))
  · rw [hafter, hbefore]
    exact Ledger.objects_addAll_prefix _ _ x p

/-! ## 6. The statement -/

/-- **Entries that are named by counting**, in any number, loaded after any run. The items with the names
    that come up are known then, and no others in addition; of other texts nothing is said, and what has
    been said of these stays. There are as many new items as names that no entry has chosen since the
    statements were last removed. A name that has been chosen is that of an item that is known already:
    its statements get those of the entry beside them. -/
theorem anonymous_loaded (ops : List StoreOperation) {op : StoreOperation} {entries : List Json}
    (hloads : op.loads? = some entries) (hentries : ∀ entry ∈ entries, isAnonymous entry = true) :
    let s := storeAfter ops
    let t := storeAfter (ops ++ [op])
    let names := upcoming (anonymousIn (entriesOf ops)) entries.length
    let chosen := chosenIn (entriesOf (sinceRemoval ops))
    (names.Nodup ∧ names.length = entries.length) ∧
      (∀ x, x ∈ t.items ↔ x ∈ s.items ∨ x ∈ names) ∧
      (∀ x ∈ names, x ∈ s.items ↔ x ∈ chosen) ∧
      t.items.size = s.items.size + names.countP (· ∉ chosen) ∧
      (t.items.size = s.items.size + entries.length ↔ ∀ x ∈ names, x ∉ chosen) ∧
      (∀ x ∉ names, ∀ p, t.objectList x p = s.objectList x p) ∧
      ∀ x ∈ names, x ∈ t.objectList x "label" ∧ ∀ p, s.objectList x p <+: t.objectList x p := by
  intro s t names chosen
  have hcount : s.anonymous = anonymousIn (entriesOf ops) := anonymous_storeAfter ops
  have hregister : t.register = entries.foldl Register.enter s.register := register_of_loads hloads ops
  have hlength : names.length = entries.length := length_upcoming _ _
  have hnamed : ∀ x ∈ names, x ∈ s.items ↔ x ∈ chosen := by
    intro x hx
    obtain ⟨n, hn, -, rfl⟩ := mem_upcoming.mp hx
    exact counted_mem_items_iff hn
  have hitems (x : String) : x ∈ t.items ↔ x ∈ s.items ∨ x ∈ names := by
    have hmem := Register.mem_enterAll_of_isAnonymous (r := s.register) hentries x
    rwa [← hregister, register_counted, hcount] at hmem
  have hsize : t.items.size = s.items.size + names.countP (· ∉ chosen) := by
    have hsize := Register.size_enterAll_of_isAnonymous (r := s.register) hentries
    rw [← hregister, register_counted, hcount] at hsize
    exact hsize.trans (congrArg _ (List.countP_congr fun x hx => by simp [hnamed x hx]))
  have hnew : t.items.size = s.items.size + entries.length ↔ ∀ x ∈ names, x ∉ chosen := by
    rw [hsize, ← hlength, Nat.add_left_cancel_iff, List.countP_eq_length]
    simp
  exact ⟨⟨upcoming_nodup _ _, hlength⟩, hitems, hnamed, hsize, hnew,
    objectList_of_isAnonymous hloads hentries ops⟩

/-- An item whose id looks like a name that is given by counting. -/
def chosenItem : StoreOperation :=
  .loadItems [.object [("id", .string "item1")]] "http://example.org/"

/-- An item of which nothing is known but its colour. -/
def redThing : Json := .object [("color", .string "red")]

/-- Two of them come after the chosen name: the first is taken for the item of that name, and the second
    is new. -/
theorem anonymous_loaded_twice :
    let op := StoreOperation.loadItems [redThing, redThing] "http://example.org/"
    let t := storeAfter ([chosenItem] ++ [op])
    (op.loads? = some [redThing, redThing] ∧ ∀ entry ∈ [redThing, redThing], isAnonymous entry = true) ∧
      t.items.size = 1 + 1 ∧ "item2" ∈ t.items ∧ "item1" ∈ t.objectList "item1" "label" := by
  intro op t
  have hloads : op.loads? = some [redThing, redThing] := rfl
  have hentries : ∀ entry ∈ [redThing, redThing], isAnonymous entry = true := by decide +kernel
  obtain ⟨-, hitems, -, hsize, -, -, hlabels⟩ :=
    anonymous_loaded [chosenItem] hloads hentries
  have hnames : upcoming (anonymousIn (entriesOf [chosenItem])) 2 = ["item1", "item2"] := by
    decide +kernel
  simp only [List.length_cons, List.length_nil, Nat.zero_add, Nat.reduceAdd, hnames]
    at hitems hsize hlabels
  refine ⟨⟨hloads, hentries⟩, ?_, (hitems "item2").mpr (.inr (by simp)), (hlabels "item1" (by simp)).1⟩
  rw [hsize]
  decide +kernel

/-- **An entry without a name is taken for an item that is there**: it makes no new item, and the item
    gets a colour that is not its own. -/
theorem anonymous_merged :
    let s := storeAfter [chosenItem]
    let t := storeAfter [chosenItem, .loadItems [redThing] "http://example.org/"]
    isAnonymous redThing = true ∧ s.items.toList = ["item1"] ∧ t.items.toList = ["item1"] ∧
      s.objectList "item1" "color" = [] ∧ t.objectList "item1" "color" = ["red"] := by
  decide +kernel

end Faceted
