import Faceted.Proofs.Store.Unasked

/-!
# Statements and the known properties

A search over everything reads the texts of an item property by property, along the list of all
properties that the store keeps. It sees all of them only if no statement has a property that is missing
there, whatever has been loaded, entered, removed and asked for.

* `Store.Covered`: the property of every statement is known. Three properties are known from the start,
  because items are entered under them without a look;
* `Store.Registered`: besides, a list of all properties that is kept is the list of the known ones;
* `Registered.perform` is the step, and **`registered_of_run`** the run;
* `Registered.mem_textsOf`: then the texts of an item are its objects under any property.
-/

namespace Faceted

/-! ## 1. Keys that stay -/

namespace KeyMap

variable {α β : Type} {m : KeyMap α} {k a : String}

theorem keys_insert (m : KeyMap α) (k : String) (v : α) : (m.insert k v).keys = insertKey k m.keys :=
  keys_insertEntry k v m.entries

theorem mem_keys_insert {v : α} : a ∈ (m.insert k v).keys ↔ a = k ∨ a ∈ m.keys := by
  rw [keys_insert, mem_insertKey]

theorem keys_modify (m : KeyMap α) (k : String) (f : α → α) : (m.modify k f).keys = m.keys := by
  unfold modify
  split
  · next v hv => exact keys_insert_of_get? hv
  · rfl

theorem keys_mapValues (f : α → β) (m : KeyMap α) : (m.mapValues f).keys = m.keys := by
  simp [keys, mapValues, Function.comp_def]

end KeyMap

namespace Store

/-! ## 2. The invariant -/

/-- The properties under which items are entered without making them known. -/
def entryProperties : List String := ["uri", "label", "type"]

/-- Whatever is stated has a known property. -/
structure Covered (s : Store) : Prop where
  entry : ∀ p ∈ entryProperties, p ∈ s.properties.keys
  stated : ∀ x p z, z ∈ s.objectList x p → p ∈ s.properties.keys

/-- Besides, the list of all properties is right as long as it is kept. -/
structure Registered (s : Store) : Prop extends s.Covered where
  kept : ∀ ids, s.propertyList = some ids → ids = s.properties.keys

variable {s t : Store}

namespace Covered

/-- Properties may become known, as long as nothing else is stated. -/
theorem of_keys (h : s.Covered) (hforward : t.forward = s.forward)
    (hkeys : ∀ p ∈ s.properties.keys, p ∈ t.properties.keys) : t.Covered where
  entry p hp := hkeys p (h.entry p hp)
  stated x p z hz := by
    unfold objectList at hz
    rw [hforward] at hz
    exact hkeys p (h.stated x p z hz)

/-- Of what is stated something may be gone, as long as the same properties are known. -/
theorem of_objects (h : s.Covered) (hkeys : t.properties.keys = s.properties.keys)
    (hobjects : ∀ x p z, z ∈ t.objectList x p → z ∈ s.objectList x p) : t.Covered where
  entry := hkeys ▸ h.entry
  stated x p z hz := hkeys ▸ h.stated x p z (hobjects x p z hz)

theorem congr (h : s.Covered) (hforward : t.forward = s.forward)
    (hkeys : t.properties.keys = s.properties.keys) : t.Covered :=
  h.of_keys hforward fun _ hp => hkeys ▸ hp

/-! ### Making known and entering -/

theorem invalidate (h : s.Covered) (property : String) : (s.invalidate property).Covered :=
  h.congr rfl (KeyMap.keys_modify _ _ _)

theorem mem_keys_ensureProperty (s : Store) (property base : String) :
    property ∈ (s.ensureProperty property base).properties.keys := by
  unfold Store.ensureProperty
  split
  · next hknown => exact KeyMap.mem_keys_iff.mpr hknown
  · exact KeyMap.mem_keys_insert.mpr (.inl rfl)

theorem ensureProperty (h : s.Covered) (property base : String) :
    (s.ensureProperty property base).Covered := by
  unfold Store.ensureProperty
  split
  · exact h
  · exact h.of_keys rfl fun p hp => KeyMap.mem_keys_insert.mpr (.inr hp)

theorem ensureType (h : s.Covered) (type base : String) : (s.ensureType type base).Covered := by
  unfold Store.ensureType
  split
  · exact h
  · exact h.congr rfl rfl

/-- Entering says something new under one property only. -/
theorem enter (h : s.Covered) {p : String} (hp : p ∈ s.properties.keys) (x y : String) :
    (s.enter x p y).Covered where
  entry := h.entry
  stated a q z hz := by
    have hlisted : z ∈ (s.forward.put x p y).listed a q := hz
    rw [Index.listed_put] at hlisted
    split at hlisted
    · next hpair => exact hpair.2.1 ▸ hp
    · exact h.stated a q z hlisted

theorem enterTexts (h : s.Covered) {p : String} (hp : p ∈ s.properties.keys) (id : String)
    (texts : List String) : (texts.foldl (fun s text => s.enter id p text) s).Covered := by
  induction texts generalizing s with
  | nil => exact h
  | cons text texts ih => exact ih (h.enter hp id text) hp

/-! ### Loading -/

theorem enterField (h : s.Covered) (base id : String) (field : String × Json) :
    (s.enterField base id field).Covered := by
  obtain ⟨p, value⟩ := field
  unfold Store.enterField
  dsimp only
  split
  · exact h
  · refine ((h.ensureProperty p base).invalidate p).enterTexts ?_ id _
    rw [show ((s.ensureProperty p base).invalidate p).properties.keys =
      (s.ensureProperty p base).properties.keys from KeyMap.keys_modify _ _ _]
    exact mem_keys_ensureProperty s p base

theorem enterIdentity (h : s.Covered) (base id label : String) (fields : List (String × Json)) :
    (s.enterIdentity base id label fields).Covered := by
  have hitem : Covered { s with items := s.items.insert id } := h.congr rfl rfl
  have huri : "uri" ∈ s.properties.keys := h.entry _ (by decide)
  have hlabel : "label" ∈ s.properties.keys := h.entry _ (by decide)
  have htype : "type" ∈ s.properties.keys := h.entry _ (by decide)
  exact (((hitem.enter huri id _).enter hlabel id label).enter htype id _).ensureType _ base

theorem loadItem (h : s.Covered) (base : String) (entry : Json) : (s.loadItem base entry).Covered := by
  cases entry with
  | object fields =>
    have hcounted : (s.counted fields).Covered := by
      unfold Store.counted
      split
      · exact h
      · exact h.congr rfl rfl
    rw [loadItem_object]
    refine ((Covered.invalidate ?_ _).invalidate _).invalidate _
    refine List.foldlRecOn fields _ ?_ fun _ hs field _ => Covered.enterField hs base _ field
    split
    · exact hcounted.enterIdentity _ _ _ _
    · exact hcounted
  | _ => exact h

theorem loadItems (h : s.Covered) (items : List Json) (base : String) :
    (s.loadItems items base).1.Covered :=
  (List.foldlRecOn items (Store.loadItem base) h fun _ hs entry _ => hs.loadItem base entry).congr
    rfl rfl

theorem loadProperty (h : s.Covered) (base : String) (entry : String × Json) :
    (s.loadProperty base entry).Covered := by
  unfold Store.loadProperty
  split
  · exact h.of_keys rfl fun p hp => KeyMap.mem_keys_insert.mpr (.inr hp)
  · exact h

theorem loadProperties (h : s.Covered) (properties : List (String × Json)) (base : String) :
    (s.loadProperties properties base).1.Covered :=
  (List.foldlRecOn properties (Store.loadProperty base) h
    fun _ hs entry _ => hs.loadProperty base entry).congr rfl rfl

end Covered

/-! ## 3. What keeps it -/

namespace Registered

theorem empty : Store.empty.Registered where
  entry := by decide
  stated x p z hz := by cases hz
  kept ids h := by cases h

/-- No list is kept, so none is wrong. -/
theorem of_forgotten (h : t.Covered) (hlist : t.propertyList = none) : t.Registered where
  toCovered := h
  kept ids hids := by rw [hlist] at hids; cases hids

/-- The list and the known properties stay. -/
theorem of_same (h : s.Registered) (ht : t.Covered) (hkeys : t.properties.keys = s.properties.keys)
    (hlist : t.propertyList = s.propertyList) : t.Registered where
  toCovered := ht
  kept ids hids := (h.kept ids (hlist ▸ hids)).trans hkeys.symm

theorem invalidate (h : s.Registered) (property : String) : (s.invalidate property).Registered :=
  h.of_same (h.toCovered.invalidate property) (KeyMap.keys_modify _ _ _) rfl

/-- A property that becomes known makes the store forget its list. -/
theorem ensureProperty_eq_or (s : Store) (property base : String) :
    s.ensureProperty property base = s ∨ (s.ensureProperty property base).propertyList = none := by
  unfold Store.ensureProperty
  split
  · exact .inl rfl
  · exact .inr rfl

theorem addStatement (h : s.Registered) (x p y : String) : (s.addStatement x p y).Registered := by
  refine Registered.invalidate ?_ p
  -- The statement is entered before its property is made known; the other way round comes to the same.
  have hswap : (s.enter x p y).ensureProperty p "" = (s.ensureProperty p "").enter x p y := by
    unfold Store.ensureProperty Store.enter
    split <;> rfl
  have hcovered := (h.toCovered.ensureProperty p "").enter (Covered.mem_keys_ensureProperty s p "") x y
  rw [hswap]
  rcases ensureProperty_eq_or s p "" with hsame | hforgotten
  · rw [hsame] at hcovered ⊢
    exact h.of_same hcovered rfl rfl
  · exact of_forgotten hcovered hforgotten

theorem removeStatement (h : s.Registered) (x p y : String) :
    (s.removeStatement x p y).2.Registered := by
  unfold Store.removeStatement
  split
  · refine Registered.invalidate
      (s := { s with forward := s.forward.remove x p y, backward := s.backward.remove y p x })
      (h.of_same (h.toCovered.of_objects rfl fun a q z hz => ?_) rfl rfl) p
    have hlisted : z ∈ (s.forward.remove x p y).listed a q := hz
    rw [Index.listed_remove] at hlisted
    split at hlisted
    · next hpair =>
      obtain ⟨rfl, rfl⟩ := hpair
      exact List.mem_of_mem_erase hlisted
    · exact hlisted
  · exact h

theorem removeStatements (h : s.Registered) (ts : List (String × String × String)) :
    (s.removeStatements ts).2.Registered := by
  rw [removeStatements_snd]
  exact List.foldlRecOn ts _ h fun _ hs t _ => hs.removeStatement t.1 t.2.1 t.2.2

theorem removeAll (h : s.Registered) : s.removeAll.1.Registered := by
  have hkeys := KeyMap.keys_mapValues Property.withoutIndex s.properties
  exact of_forgotten (h.toCovered.of_objects hkeys fun x p z hz => by cases hz) rfl

theorem loadTypes (h : s.Registered) (types : List (String × Json)) (base : String) :
    (s.loadTypes types base).1.Registered := by
  refine List.foldlRecOn types (Store.loadType base) h fun s hs entry _ => ?_
  unfold Store.loadType
  split
  · exact hs.of_same (hs.toCovered.congr rfl rfl) rfl rfl
  · exact hs

theorem loadProperties (h : s.Registered) (properties : List (String × Json)) (base : String) :
    (s.loadProperties properties base).1.Registered :=
  of_forgotten (h.toCovered.loadProperties properties base) rfl

theorem loadItems (h : s.Registered) (items : List Json) (base : String) :
    (s.loadItems items base).1.Registered :=
  of_forgotten (h.toCovered.loadItems items base) rfl

theorem loadPart {α : Type} {part : Option α} {loader : Store → α → Store × List StoreEvent}
    {state : Store × List StoreEvent} (h : state.1.Registered)
    (hloader : ∀ {s : Store} (a : α), s.Registered → (loader s a).1.Registered) :
    (Store.loadPart part loader state).1.Registered := by
  unfold Store.loadPart
  split
  · exact h
  · exact hloader _ h

theorem load {payload : Json} {base : String} {events : List StoreEvent} (h : s.Registered)
    (hload : s.load payload base = .ok (t, events)) : t.Registered := by
  cases payload with
  | object fields =>
    obtain rfl := congrArg Prod.fst (Except.ok.inj hload)
    refine loadPart (loadPart (loadPart h ?_) ?_) ?_
    · exact fun types h => h.loadTypes types base
    · exact fun properties h => h.loadProperties properties base
    · exact fun items h => h.loadItems items base
  | _ => cases hload

theorem rangeIndex? (h : s.Registered) (property : String) : (s.rangeIndex? property).2.Registered := by
  rcases s.rangeIndex?_snd property with hsame | ⟨p, hp, -, -, hindexed⟩
  · rw [hsame]
    exact h
  · have hkeys := KeyMap.keys_insert_of_get?
      (v := { p with rangeIndex := some (s.buildRangeIndex p.id p.valueType) }) hp
    rw [hindexed]
    exact h.of_same (h.toCovered.congr rfl hkeys) hkeys rfl

theorem allProperties (h : s.Registered) : s.allProperties.2.Registered := by
  unfold Store.allProperties
  split
  · exact h
  · refine ⟨h.toCovered.congr rfl rfl, fun ids hids => ?_⟩
    exact (Option.some.inj hids).symm

/-- **One operation** keeps the property of every statement known and listed. -/
theorem perform (h : s.Registered) (op : StoreOperation) : (op.perform s).2.Registered := by
  cases op with
  | load payload base =>
    simp only [StoreOperation.perform]
    split
    · next hload => exact h.load hload
    · exact h
  | loadTypes types base => exact h.loadTypes types base
  | loadProperties properties base => exact h.loadProperties properties base
  | loadItems items base => exact h.loadItems items base
  | add t => exact h.addStatement t.subject t.property t.object
  | remove t => exact h.removeStatement t.subject t.property t.object
  | removeObjects x p => exact h.removeStatements _
  | removeSubjects x p => exact h.removeStatements _
  | removeAll => exact h.removeAll
  | askRanges p => exact h.rangeIndex? p
  | askProperties => exact h.allProperties

end Registered

/-! ## 4. Runs -/

/-- **After any run** the property of every statement is known, and listed where all properties are. -/
theorem registered_of_run (ops : List StoreOperation) : (storeAfter ops).Registered := by
  induction ops using List.reverseRecOn with
  | nil => exact Registered.empty
  | append_singleton ops op ih =>
    rw [storeAfter_concat]
    exact ih.perform op

/-! ## 5. The texts of an item -/

namespace Registered

/-- Asked for all properties, the store answers with those it knows, kept or not. -/
theorem allProperties_fst (h : s.Registered) : s.allProperties.1 = s.properties.keys := by
  unfold Store.allProperties
  split
  · next ids hids => exact h.kept ids hids
  · rfl

/-- Read property by property, the texts of an item are all that is stated of it. -/
theorem mem_textsOf (h : s.Registered) {item text : String} :
    text ∈ s.textsOf item ↔ ∃ p, text ∈ s.objectList item p := by
  unfold textsOf
  rw [h.allProperties_fst, List.mem_flatMap]
  constructor
  · rintro ⟨p, -, htext⟩
    exact ⟨p, htext⟩
  · rintro ⟨p, htext⟩
    exact ⟨p, h.stated item p text htext, htext⟩

end Registered

end Store

end Faceted
