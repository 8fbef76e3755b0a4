import Faceted.Proofs.Store.Kept
import Faceted.Proofs.Store.Redescribing

/-!
# Loading again

A payload that has been loaded has nothing more to say: loading it again leaves the store as it is.

* `Grows`: whatever is loaded, a store goes on knowing what it knows;
* a description of an item is taken in (`TakenIn`) once the store knows all that it says. Loading takes
  it in (`takenIn_loadItem`), growth leaves it taken in, and one that is taken in changes nothing
  (`loadItem_of_takenIn`);
* **`load_again`**: the second time is like no time at all, for every store and every payload whose items
  can be named. Items that are named by counting are new ones each time.
-/

namespace Faceted

namespace Store

/-! ## 1. Stores that know more -/

/-- Does the statement stand in both indexes? -/
structure Knows (s : Store) (t : Statement) : Prop where
  object : t.object ∈ s.objectList t.subject t.property
  subject : t.subject ∈ s.subjectList t.object t.property

theorem knows_enter (s : Store) (t : Statement) : (s.enter t.subject t.property t.object).Knows t := by
  constructor
  · show t.object ∈ (s.forward.put _ _ _).listed _ _
    rw [Index.listed_put]
    by_cases h : t.object ∈ s.forward.listed t.subject t.property <;> simp [h]
  · show t.subject ∈ (s.backward.put _ _ _).listed _ _
    rw [Index.listed_put]
    by_cases h : t.subject ∈ s.backward.listed t.object t.property <;> simp [h]

/-- A statement that stands is not entered again. -/
theorem Knows.enter_eq {s : Store} {t : Statement} (h : s.Knows t) :
    s.enter t.subject t.property t.object = s := by
  have hforward : s.forward.put t.subject t.property t.object = s.forward := if_pos h.object
  have hbackward : s.backward.put t.object t.property t.subject = s.backward := if_pos h.subject
  unfold enter
  rw [hforward, hbackward]

/-- `t` knows all that `s` knows; it may have dropped indexes over values, and has no new ones. -/
structure Grows (s t : Store) : Prop where
  items : ∀ item ∈ s.items, item ∈ t.items
  knows : ∀ st, s.Knows st → t.Knows st
  types : ∀ id known, s.types.get? id = some known → t.types.get? id = some known
  properties : ∀ id p, s.properties.get? id = some p →
    t.properties.get? id = some p ∨ t.properties.get? id = some p.withoutIndex
  unindexed : ∀ id, s.keptIndex? id = none → t.keptIndex? id = none

namespace Grows

variable {s t u : Store}

theorem refl (s : Store) : s.Grows s :=
  ⟨fun _ => id, fun _ => id, fun _ _ => id, fun _ _ => .inl, fun _ => id⟩

theorem trans (h : s.Grows t) (h' : t.Grows u) : s.Grows u where
  items item := h'.items item ∘ h.items item
  knows st := h'.knows st ∘ h.knows st
  types id known := h'.types id known ∘ h.types id known
  properties id p hp := by
    rcases h.properties id p hp with hp | hp
    · exact h'.properties id p hp
    · rcases h'.properties id _ hp with hp | hp
      · exact .inr hp
      · exact .inr hp
  unindexed id := h'.unindexed id ∘ h.unindexed id

/-- A change of statements and items that takes nothing away. -/
theorem of_knows (htypes : t.types = s.types) (hproperties : t.properties = s.properties)
    (hitems : ∀ item ∈ s.items, item ∈ t.items) (hknows : ∀ st, s.Knows st → t.Knows st) :
    s.Grows t where
  items := hitems
  knows := hknows
  types := by rw [htypes]; exact fun _ _ => id
  properties := by rw [hproperties]; exact fun _ _ => .inl
  unindexed := by unfold keptIndex?; rw [hproperties]; exact fun _ => id

theorem enter (s : Store) (x p y : String) : s.Grows (s.enter x p y) := by
  refine of_knows rfl rfl (fun _ => id) fun st hst => ?_
  constructor
  · show st.object ∈ (s.forward.put x p y).listed st.subject st.property
    rw [Index.listed_put]
    split
    · next h =>
      obtain ⟨hx, hp, -⟩ := h
      rw [← hx, ← hp]
      exact List.mem_append_left _ hst.object
    · exact hst.object
  · show st.subject ∈ (s.backward.put y p x).listed st.object st.property
    rw [Index.listed_put]
    split
    · next h =>
      obtain ⟨hy, hp, -⟩ := h
      rw [← hy, ← hp]
      exact List.mem_append_left _ hst.subject
    · exact hst.subject

theorem enterTexts (s : Store) (id p : String) (texts : List String) :
    s.Grows (texts.foldl (fun s text => s.enter id p text) s) := by
  induction texts generalizing s with
  | nil => exact refl s
  | cons text texts ih => exact (enter s id p text).trans (ih _)

theorem ensureType (s : Store) (type base : String) : s.Grows (s.ensureType type base) := by
  unfold Store.ensureType KeyMap.contains
  split
  · exact refl s
  · next hnew =>
    refine ⟨fun _ => id, fun _ hst => ⟨hst.object, hst.subject⟩, fun id known hknown => ?_,
      fun _ _ => .inl, fun _ => id⟩
    have hid : id ≠ type := fun hid => hnew (by rw [← hid, hknown]; rfl)
    rw [KeyMap.get?_insert, if_neg hid, hknown]

theorem ensureProperty (s : Store) (property base : String) :
    s.Grows (s.ensureProperty property base) := by
  unfold Store.ensureProperty KeyMap.contains
  split
  · exact refl s
  · next hnew =>
    refine ⟨fun _ => id, fun _ hst => ⟨hst.object, hst.subject⟩, fun _ _ => id, fun id p hp => ?_,
      fun id hid => ?_⟩
    · have hne : id ≠ property := fun hne => hnew (by rw [← hne, hp]; rfl)
      exact .inl (by rw [KeyMap.get?_insert, if_neg hne, hp])
    · unfold keptIndex? at hid ⊢
      rw [KeyMap.get?_insert]
      split
      · rfl
      · exact hid

theorem invalidate (s : Store) (property : String) : s.Grows (s.invalidate property) := by
  refine ⟨fun _ => id, fun _ hst => ⟨hst.object, hst.subject⟩, fun _ _ => id, fun id p hp => ?_,
    fun id hid => ?_⟩
  · show (s.properties.modify _ _).get? id = _ ∨ (s.properties.modify _ _).get? id = _
    rw [KeyMap.get?_modify, hp]
    by_cases hid : id = property <;> simp [hid]
  · by_cases h : id = property
    · rw [h]
      exact keptIndex?_invalidate s property
    · unfold keptIndex? Store.invalidate at *
      rw [KeyMap.get?_modify, if_neg h, hid]

theorem foldl {α : Type} {f : Store → α → Store} (hf : ∀ (s : Store) a, s.Grows (f s a)) (xs : List α)
    (s : Store) : s.Grows (xs.foldl f s) := by
  induction xs generalizing s with
  | nil => exact refl s
  | cons x xs ih => exact (hf s x).trans (ih _)

theorem enterField (base id : String) (s : Store) (field : String × Json) :
    s.Grows (Store.enterField base id s field) := by
  unfold Store.enterField
  split
  split
  · exact refl s
  · exact ((ensureProperty s _ base).trans (invalidate _ _)).trans (enterTexts _ id _ _)

theorem enterIdentity (s : Store) (base id label : String) (fields : List (String × Json)) :
    s.Grows (s.enterIdentity base id label fields) := by
  have hitems : s.Grows { s with items := s.items.insert id } :=
    of_knows rfl rfl (fun _ h => KeySet.mem_insert.mpr (.inr h))
      fun _ hst => ⟨hst.object, hst.subject⟩
  exact (((hitems.trans (enter _ _ _ _)).trans (enter _ _ _ _)).trans (enter _ _ _ _)).trans
    (ensureType _ _ _)

theorem loadItem (base : String) (s : Store) (entry : Json) : s.Grows (s.loadItem base entry) := by
  cases entry with
  | object fields =>
    rw [loadItem_object]
    have hcounted : s.Grows (s.counted fields) := by
      unfold counted
      split
      · exact refl s
      · exact of_knows rfl rfl (fun _ => id) fun _ hst => ⟨hst.object, hst.subject⟩
    refine .trans ?_ (((invalidate _ _).trans (invalidate _ _)).trans (invalidate _ _))
    refine .trans ?_ (foldl (enterField base _) fields _)
    split
    · exact hcounted.trans (enterIdentity _ _ _ _ _)
    · exact hcounted
  | _ => exact refl s

theorem forgetList (s : Store) : s.Grows { s with propertyList := none } :=
  of_knows rfl rfl (fun _ => id) fun _ hst => ⟨hst.object, hst.subject⟩

theorem loadItems (s : Store) (items : List Json) (base : String) :
    s.Grows (s.loadItems items base).1 :=
  (foldl (loadItem base) items s).trans (forgetList _)

end Grows

/-! ## 2. Items -/

/-- The store knows all that the description says of the item: who it is, if that is to be entered of an
    item that is known, and the values of all fields, whose properties are known and keep no index. -/
structure TakenIn (s : Store) (base id : String) (label : Option String)
    (fields : List (String × Json)) : Prop where
  item : id ∈ s.items
  identity : label.isSome = true →
    ∀ st ∈ identityStatements base id (label.getD id) fields, s.Knows st
  type : label.isSome = true → s.types.contains ((firstText? fields "type").getD itemType) = true
  values : ∀ st ∈ fields.flatMap (fieldStatements id), s.Knows st
  properties : ∀ field ∈ fields, field.1 ∉ identityFields → s.properties.contains field.1 = true
  unindexed : ∀ field ∈ fields, field.1 ∉ identityFields → s.keptIndex? field.1 = none
  unindexedIdentity : ∀ property ∈ ["uri", "label", "type"], s.keptIndex? property = none

theorem Grows.contains {s t : Store} (h : s.Grows t) {property : String}
    (hs : s.properties.contains property = true) : t.properties.contains property = true := by
  unfold KeyMap.contains at hs ⊢
  obtain ⟨p, hp⟩ := Option.isSome_iff_exists.mp hs
  rcases h.properties property p hp with ht | ht <;> rw [ht] <;> rfl

variable {s t : Store} {base id : String} {label : Option String} {fields : List (String × Json)}

theorem TakenIn.grows (h : s.TakenIn base id label fields) (hst : s.Grows t) :
    t.TakenIn base id label fields where
  item := hst.items id h.item
  identity hlabel st hmem := hst.knows st (h.identity hlabel st hmem)
  type hlabel := by
    obtain ⟨known, hknown⟩ := Option.isSome_iff_exists.mp (h.type hlabel)
    unfold KeyMap.contains
    rw [hst.types _ known hknown]
    rfl
  values st hmem := hst.knows st (h.values st hmem)
  properties field hfield hplain := hst.contains (h.properties field hfield hplain)
  unindexed field hfield hplain := hst.unindexed _ (h.unindexed field hfield hplain)
  unindexedIdentity property hmem := hst.unindexed _ (h.unindexedIdentity property hmem)

/-! ### What is taken in changes nothing -/

theorem invalidate_of_unindexed {property : String} (h : s.keptIndex? property = none) :
    s.invalidate property = s := by
  have hproperties : s.properties.modify property Property.withoutIndex = s.properties := by
    refine KeyMap.ext fun q => ?_
    rw [KeyMap.get?_modify]
    split
    · next hq =>
      subst hq
      unfold keptIndex? at h
      cases hp : s.properties.get? q with
      | none => rfl
      | some p =>
        rw [hp] at h
        have hindex : p.rangeIndex = none := h
        rw [Option.map_some, Property.withoutIndex, ← hindex]
    · rfl
  unfold invalidate
  rw [hproperties]

theorem ensureProperty_of_contains {property : String} (h : s.properties.contains property = true)
    (base : String) : s.ensureProperty property base = s := if_pos h

theorem ensureType_of_contains {type : String} (h : s.types.contains type = true) (base : String) :
    s.ensureType type base = s := if_pos h

theorem enterTexts_of_knows {property : String} {texts : List String}
    (h : ∀ text ∈ texts, s.Knows ⟨id, property, text⟩) :
    texts.foldl (fun s text => s.enter id property text) s = s := by
  induction texts with
  | nil => rfl
  | cons text texts ih =>
    rw [List.foldl_cons, (h text List.mem_cons_self).enter_eq]
    exact ih fun other hother => h other (List.mem_cons_of_mem text hother)

theorem TakenIn.enterField_eq (h : s.TakenIn base id label fields) {field : String × Json}
    (hfield : field ∈ fields) : enterField base id s field = s := by
  obtain ⟨property, value⟩ := field
  unfold enterField
  dsimp only
  split
  · rfl
  · next hplain =>
    rw [ensureProperty_of_contains (h.properties _ hfield hplain),
      invalidate_of_unindexed (h.unindexed _ hfield hplain)]
    refine enterTexts_of_knows fun text htext => h.values _ (List.mem_flatMap.mpr ⟨_, hfield, ?_⟩)
    unfold fieldStatements
    rw [if_neg hplain]
    exact List.mem_map_of_mem htext

theorem foldl_eq_self {α β : Type} {f : β → α → β} {b : β} {xs : List α}
    (h : ∀ x ∈ xs, f b x = b) : xs.foldl f b = b := by
  induction xs with
  | nil => rfl
  | cons x xs ih =>
    rw [List.foldl_cons, h x List.mem_cons_self]
    exact ih fun y hy => h y (List.mem_cons_of_mem x hy)

theorem TakenIn.enterIdentity_eq (h : s.TakenIn base id label fields)
    (hlabel : label.isSome = true) : s.enterIdentity base id (label.getD id) fields = s := by
  have hitems : s.items.insert id = s.items :=
    KeySet.ext fun item => by
      rw [KeySet.mem_insert]
      exact ⟨fun hitem => hitem.elim (fun e => e ▸ h.item) fun hmem => hmem, .inr⟩
  have hstatements := h.identity hlabel
  simp only [identityStatements, List.forall_mem_cons] at hstatements
  obtain ⟨huri, hname, htype, -⟩ := hstatements
  unfold enterIdentity
  dsimp only
  rw [hitems, huri.enter_eq, hname.enter_eq, htype.enter_eq, ensureType_of_contains (h.type hlabel)]

/-- The store as the fields of an item find it: the item is introduced, unless it is known and its
    description says nothing of its label. -/
def introduced (s : Store) (base id : String) (label : Option String) (fields : List (String × Json)) :
    Store :=
  if label.isSome || !s.items.contains id then s.enterIdentity base id (label.getD id) fields else s

/-- The steps of loading an item that is not named by counting. -/
theorem loadItem_of_identity (hidentity : identity? fields = some (id, label)) (s : Store)
    (base : String) :
    s.loadItem base (.object fields) =
      (((fields.foldl (enterField base id) (s.introduced base id label fields)).invalidate
        "uri").invalidate "label").invalidate "type" := by
  have hcounted : s.counted fields = s := by
    unfold counted
    rw [hidentity]
  have hentry : s.entryOf fields = (id, label) := by
    unfold entryOf
    rw [hidentity]
    rfl
  rw [loadItem_object, isIntroduced, hentry, hcounted]
  rfl

/-- **What is taken in changes nothing.** -/
theorem loadItem_of_takenIn (hidentity : identity? fields = some (id, label))
    (h : s.TakenIn base id label fields) : s.loadItem base (.object fields) = s := by
  have hcontains : s.items.contains id = true := KeySet.contains_iff.mpr h.item
  have hintroduced : s.introduced base id label fields = s := by
    unfold introduced
    rw [hcontains, Bool.not_true, Bool.or_false]
    split
    · next hlabel => exact h.enterIdentity_eq hlabel
    · rfl
  rw [loadItem_of_identity hidentity, hintroduced,
    foldl_eq_self fun field hfield => h.enterField_eq hfield,
    invalidate_of_unindexed (h.unindexedIdentity "uri" (by simp)),
    invalidate_of_unindexed (h.unindexedIdentity "label" (by simp)),
    invalidate_of_unindexed (h.unindexedIdentity "type" (by simp))]

/-! ### What is loaded is taken in -/

/-- What a step brings about and growth keeps, holds of every entry once all steps are done. -/
theorem Grows.foldl_establishes {α : Type} {f : Store → α → Store} {Q : α → Store → Prop}
    (hgrows : ∀ (s : Store) a, s.Grows (f s a)) (hstep : ∀ (s : Store) a, Q a (f s a))
    (hkeep : ∀ a (s t : Store), s.Grows t → Q a s → Q a t) (xs : List α) (s : Store) :
    ∀ a ∈ xs, Q a (xs.foldl f s) := by
  induction xs generalizing s with
  | nil => simp
  | cons x xs ih =>
    intro a ha
    rcases List.mem_cons.mp ha with rfl | ha
    · exact hkeep a _ _ (Grows.foldl hgrows xs (f s a)) (hstep s a)
    · exact ih _ a ha

theorem knows_enterTexts (s : Store) (id property : String) (texts : List String) :
    ∀ text ∈ texts, (texts.foldl (fun s text => s.enter id property text) s).Knows
      ⟨id, property, text⟩ :=
  Grows.foldl_establishes (Q := fun text s => s.Knows ⟨id, property, text⟩)
    (fun s text => Grows.enter s id property text)
    (fun s text => knows_enter s ⟨id, property, text⟩)
    (fun text _ _ h => h.knows ⟨id, property, text⟩) texts s

theorem contains_ensureProperty (s : Store) (property base : String) :
    (s.ensureProperty property base).properties.contains property = true := by
  unfold ensureProperty
  split
  · next h => exact h
  · unfold KeyMap.contains
    rw [KeyMap.get?_insert, if_pos rfl]
    rfl

theorem contains_ensureType (s : Store) (type base : String) :
    (s.ensureType type base).types.contains type = true := by
  unfold ensureType
  split
  · next h => exact h
  · unfold KeyMap.contains
    rw [KeyMap.get?_insert, if_pos rfl]
    rfl

/-- The store knows the values of one field of an item. -/
structure FieldTaken (id : String) (field : String × Json) (s : Store) : Prop where
  values : ∀ st ∈ fieldStatements id field, s.Knows st
  property : field.1 ∉ identityFields → s.properties.contains field.1 = true
  unindexed : field.1 ∉ identityFields → s.keptIndex? field.1 = none

theorem fieldTaken_enterField (base id : String) (s : Store) (field : String × Json) :
    FieldTaken id field (enterField base id s field) := by
  obtain ⟨property, value⟩ := field
  unfold enterField
  dsimp only
  split
  · next hidentity =>
    refine ⟨?_, fun h => absurd hidentity h, fun h => absurd hidentity h⟩
    unfold fieldStatements
    rw [if_pos hidentity]
    simp
  · next hplain =>
    have hgrows := Grows.enterTexts ((s.ensureProperty property base).invalidate property) id property
      (allTexts value)
    refine ⟨fun st hst => ?_, fun _ => ?_, fun _ => ?_⟩
    · unfold fieldStatements at hst
      rw [if_neg hplain] at hst
      obtain ⟨text, htext, rfl⟩ := List.mem_map.mp hst
      exact knows_enterTexts _ id property _ text htext
    · refine hgrows.contains ?_
      exact (Grows.invalidate _ property).contains (contains_ensureProperty s property base)
    · exact hgrows.unindexed property (keptIndex?_invalidate _ property)

theorem FieldTaken.grows {field : String × Json} (h : FieldTaken id field s) (hst : s.Grows t) :
    FieldTaken id field t :=
  ⟨fun st hmem => hst.knows st (h.values st hmem), fun hplain => hst.contains (h.property hplain),
    fun hplain => hst.unindexed _ (h.unindexed hplain)⟩

theorem knows_enterIdentity (s : Store) (base id label : String) (fields : List (String × Json)) :
    ∀ st ∈ identityStatements base id label fields,
      (s.enterIdentity base id label fields).Knows st := by
  intro st hst
  simp only [identityStatements, List.mem_cons, List.not_mem_nil, or_false] at hst
  unfold enterIdentity
  dsimp only
  refine (Grows.ensureType _ _ _).knows st ?_
  rcases hst with rfl | rfl | rfl
  · exact (Grows.enter _ _ _ _).knows _ ((Grows.enter _ _ _ _).knows _ (knows_enter _ ⟨id, "uri", _⟩))
  · exact (Grows.enter _ _ _ _).knows _ (knows_enter _ ⟨id, "label", _⟩)
  · exact knows_enter _ ⟨id, "type", _⟩

theorem mem_introduced (s : Store) (base id : String) (label : Option String)
    (fields : List (String × Json)) : id ∈ (s.introduced base id label fields).items := by
  unfold introduced
  split
  · show id ∈ (Store.ensureType _ _ _).items
    exact (Grows.ensureType _ _ _).items id (KeySet.mem_insert.mpr (.inl rfl))
  · next hknown =>
    simp only [Bool.or_eq_true, not_or, Bool.not_eq_true', Bool.not_eq_false] at hknown
    exact KeySet.contains_iff.mp hknown.2

/-- **What is loaded is taken in.** -/
theorem takenIn_loadItem (hidentity : identity? fields = some (id, label)) (s : Store)
    (base : String) : (s.loadItem base (.object fields)).TakenIn base id label fields := by
  rw [loadItem_of_identity hidentity]
  have hitem := mem_introduced s base id label fields
  have hintroduced (hlabel : label.isSome = true) :
      s.introduced base id label fields = s.enterIdentity base id (label.getD id) fields := by
    rw [introduced, hlabel, Bool.true_or, if_pos rfl]
  generalize s.introduced base id label fields = start at hitem hintroduced
  have hfields := Grows.foldl_establishes (Q := FieldTaken id) (Grows.enterField base id)
    (fieldTaken_enterField base id) (fun _ _ _ hst h => h.grows hst) fields start
  have hgrows := Grows.foldl (Grows.enterField base id) fields start
  generalize fields.foldl (enterField base id) start = entered at hfields hgrows
  have huri := Grows.invalidate entered "uri"
  have hlabel := Grows.invalidate (entered.invalidate "uri") "label"
  have htype := Grows.invalidate ((entered.invalidate "uri").invalidate "label") "type"
  have hend := (huri.trans hlabel).trans htype
  exact {
    item := (hgrows.trans hend).items id hitem
    identity := fun hsome st hst => by
      refine (hgrows.trans hend).knows st ?_
      rw [hintroduced hsome]
      exact knows_enterIdentity s base id _ fields st hst
    type := fun hsome => by
      have hknown : start.types.contains ((firstText? fields "type").getD itemType) = true := by
        rw [hintroduced hsome]
        exact contains_ensureType _ _ base
      obtain ⟨known, hget⟩ := Option.isSome_iff_exists.mp hknown
      unfold KeyMap.contains
      rw [(hgrows.trans hend).types _ known hget]
      rfl
    values := fun st hst => by
      obtain ⟨field, hfield, hmem⟩ := List.mem_flatMap.mp hst
      exact hend.knows st ((hfields field hfield).values st hmem)
    properties := fun field hfield hplain => hend.contains ((hfields field hfield).property hplain)
    unindexed := fun field hfield hplain =>
      hend.unindexed _ ((hfields field hfield).unindexed hplain)
    unindexedIdentity := by
      simp only [List.forall_mem_cons]
      exact ⟨htype.unindexed _ (hlabel.unindexed _ (keptIndex?_invalidate _ _)),
        htype.unindexed _ (keptIndex?_invalidate _ _), keptIndex?_invalidate _ _, by simp⟩ }

/-- Do the descriptions that are objects say which item they are about? -/
def AllNamed (items : List Json) : Prop :=
  ∀ fields, Json.object fields ∈ items → (identity? fields).isSome = true

/-- Items that have been loaded have nothing more to say. -/
theorem loadItems_again {items : List Json} (hnamed : AllNamed items) (s : Store) (base : String) :
    ((s.loadItems items base).1.loadItems items base).1 = (s.loadItems items base).1 := by
  have htaken := Grows.foldl_establishes
    (Q := fun entry s => ∀ fields id label, entry = .object fields →
      identity? fields = some (id, label) → s.TakenIn base id label fields)
    (Grows.loadItem base)
    (fun s entry fields id label hentry hidentity => hentry ▸ takenIn_loadItem hidentity s base)
    (fun entry s t hst h fields id label hentry hidentity =>
      (h fields id label hentry hidentity).grows hst)
    items s
  have hfold : items.foldl (loadItem base) (s.loadItems items base).1 = (s.loadItems items base).1 := by
    refine foldl_eq_self fun entry hentry => ?_
    cases entry with
    | object fields =>
      obtain ⟨⟨id, label⟩, hidentity⟩ := Option.isSome_iff_exists.mp (hnamed fields hentry)
      refine loadItem_of_takenIn hidentity ?_
      exact (htaken _ hentry fields id label rfl hidentity).grows (Grows.forgetList _)
    | _ => rfl
  exact congrArg (fun t : Store => { t with propertyList := none }) hfold

/-! ## 3. Payloads -/

/-- Do all items of the payload say which item they are about? -/
def NamesItems (payload : Json) : Prop :=
  ∀ items, (payload.get? "items").bind Json.elements? = some items → AllNamed items

/-- A part of a payload that changes nothing; what is told of it does not depend on the store. -/
theorem loadPart_again {α : Type} {part : Option α} {loader : Store → α → Store × List StoreEvent}
    (state : Store × List StoreEvent) {t : Store}
    (hstore : ∀ given, part = some given → (loader t given).1 = t)
    (htold : ∀ given, (loader t given).2 = (loader state.1 given).2) :
    loadPart part loader (t, state.2) = (t, (loadPart part loader state).2) := by
  cases part with
  | none => rfl
  | some given => exact Prod.ext (hstore given rfl) (congrArg (state.2 ++ ·) (htold given))

/-- Properties are described apart from types. -/
theorem types_loadProperties (s : Store) (given : List (String × Json)) (base : String) :
    (s.loadProperties given base).1.types = s.types := by
  show (given.foldl (loadProperty base) s).types = _
  rw [foldl_loadProperty]

/-- **Loading a payload again changes nothing.** -/
theorem load_again (s : Store) (parts : List (String × Json)) (base : String)
    (hnamed : NamesItems (.object parts)) :
    ∃ t events, s.load (.object parts) base = .ok (t, events) ∧
      t.load (.object parts) base = .ok (t, events) := by
  unfold NamesItems at hnamed
  unfold load
  dsimp only
  generalize ((Json.object parts).get? "items").bind Json.elements? = items at hnamed ⊢
  generalize ((Json.object parts).get? "properties").bind Json.fields? = properties
  generalize ((Json.object parts).get? "types").bind Json.fields? = types
  generalize htyped : loadPart types (fun s given => s.loadTypes given base) (s, []) = typed
  generalize hrefined : loadPart properties (fun s given => s.loadProperties given base) typed = refined
  generalize hdone : loadPart items (fun s given => s.loadItems given base) refined = done
  refine ⟨done.1, done.2, rfl, ?_⟩
  have hgrows : refined.1.Grows done.1 := by
    rw [← hdone]
    cases items with
    | none => exact .refl _
    | some given => exact Grows.loadItems _ given base
  -- Properties do not touch types, and items keep those there are.
  have htypes : ∀ given, types = some given → (done.1.loadTypes given base).1 = done.1 := by
    rintro given rfl
    refine loadTypes_again (s := s) fun id known hknown => hgrows.types id known ?_
    have hsame : refined.1.types = typed.1.types := by
      rw [← hrefined]
      cases properties with
      | none => rfl
      | some given' => exact types_loadProperties typed.1 given' base
    rw [hsame, ← htyped]
    exact hknown
  have hproperties : ∀ given, properties = some given →
      (done.1.loadProperties given base).1 = done.1 := by
    rintro given rfl
    refine loadProperties_again (s := typed.1) (fun id p hp hindex => ?_) ?_
    · have hdescribed : refined.1.properties.get? id = some p := by
        rw [← hrefined]
        exact hp
      rcases hgrows.properties id p hdescribed with h | h
      · exact h
      · rw [h, Property.withoutIndex, ← hindex]
    · rw [← hdone, ← hrefined]
      cases items <;> rfl
  have hitems : ∀ given, items = some given → (done.1.loadItems given base).1 = done.1 := by
    rintro given rfl
    rw [← hdone]
    exact loadItems_again (hnamed given rfl) refined.1 base
  have htypesAgain : loadPart types (fun s given => s.loadTypes given base) (done.1, []) =
      (done.1, typed.2) := by
    rw [← htyped]
    exact loadPart_again (s, []) htypes fun _ => rfl
  have hpropertiesAgain : loadPart properties (fun s given => s.loadProperties given base)
      (done.1, typed.2) = (done.1, refined.2) := by
    rw [← hrefined]
    exact loadPart_again typed hproperties fun _ => rfl
  have hitemsAgain : loadPart items (fun s given => s.loadItems given base) (done.1, refined.2) =
      (done.1, done.2) := by
    rw [← hdone]
    exact loadPart_again refined (hdone ▸ hitems) fun _ => rfl
  rw [htypesAgain, hpropertiesAgain, hitemsAgain]

/-- A payload that describes a type twice and speaks of one item in two ways, before and after it is
    introduced. -/
def roster : Json :=
  .object [
    ("types", .object [("Person", .object [("label", .string "person")]),
      ("Person", .object [("label", .string "Person"), ("pluralLabel", .string "People")])]),
    ("properties", .object [("knows", .object [("valueType", .string "item")])]),
    ("items", .array [
      .object [("id", .string "ann"), ("knows", .string "bob")],
      .object [("id", .string "ann"), ("label", .string "Ann"), ("type", .string "Person"),
        ("knows", .array [.string "cem", .string "bob"])]])]

theorem namesItems_roster : NamesItems roster := by
  intro items hitems fields hfields
  obtain rfl : items = _ := (Option.some.inj hitems).symm
  simp only [List.mem_cons, List.not_mem_nil, or_false, Json.object.injEq] at hfields
  rcases hfields with rfl | rfl <;> decide

/-- Whom ann knows and what she is, after the roster is loaded once as after it is loaded twice. -/
theorem roster_again : NamesItems roster ∧
    ∃ t events, Store.empty.load roster "http://town/" = .ok (t, events) ∧
      t.load roster "http://town/" = .ok (t, events) ∧
      t.objectList "ann" "knows" = ["bob", "cem"] ∧ t.objectList "ann" "type" = ["Item", "Person"] := by
  obtain ⟨t, events, hload, hagain⟩ := load_again Store.empty _ "http://town/" namesItems_roster
  have hlists : (Store.empty.load roster "http://town/").toOption.map
      (fun loaded => (loaded.1.objectList "ann" "knows", loaded.1.objectList "ann" "type")) =
      some (["bob", "cem"], ["Item", "Person"]) := by
    decide +kernel
  rw [roster, hload] at hlists
  simp only [Except.toOption, Option.map_some, Option.some.injEq, Prod.mk.injEq] at hlists
  obtain ⟨hknows, htype⟩ := hlists
  exact ⟨namesItems_roster, t, events, hload, hagain, hknows, htype⟩

end Store

end Faceted
