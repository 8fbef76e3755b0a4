import Faceted.Proofs.Store.Unasked

/-!
# Kept indexes

The index over the values of a property is built when a query first needs it, and kept. What changes
the statements or the type of a property drops its index; but an index is over the values of the items
that are known, and an item that becomes known drops only the indexes of the properties that it is
described with.

* `Store.Carries`: what one store keeps, another has kept before it, over the same statements and type;
  every operation that asks for no index is of this kind (`StoreOperation.carries`);
* `itemsIndexed`: the items that the index of a property is over, told by the run;
* `rangeIndex?_storeAfter`: every answer is the index over those items;
* **`rangeAnswers_of_run`**: after any run, the answers for a property are those of an index built anew
  if and only if no item that has become known since has a value that has a place in it.
-/

namespace Faceted

namespace Store

/-! ## 1. What an index is built from -/

/-- The index that is kept for the property. -/
def keptIndex? (s : Store) (property : String) : Option RangeIndex :=
  (s.properties.get? property).bind Property.rangeIndex

/-- Can the values of the property be queried by range? It is known, and its values are not items. -/
def isRanged (s : Store) (property : String) : Bool :=
  (s.properties.get? property).any fun p => decide (p.valueType ≠ .item)

/-- The places of an item's values in ranges over the property. -/
def placesOf (s : Store) (property item : String) : List RangeValue :=
  (s.objects item property ∅ none).toList.flatMap (rangeValues (s.valueTypeOf property))

/-- The index over the values that some items have now. -/
def indexOver? (s : Store) (property : String) (items : KeySet) : Option RangeIndex :=
  if s.isRanged property then some (.ofItems items (s.placesOf property)) else none

/-- The index built anew: over the values that all known items have now. -/
def indexAnew? (s : Store) (property : String) : Option RangeIndex :=
  s.indexOver? property s.items

/-- Every property is known by its own id. -/
def Named (s : Store) : Prop := ∀ property p, s.properties.get? property = some p → p.id = property

section

variable {s : Store} {property : String} {p : Property}

theorem isRanged_iff : s.isRanged property = true ↔
    ∃ p, s.properties.get? property = some p ∧ p.valueType ≠ .item := by
  simp [isRanged, Option.any_eq_true]

theorem indexAnew?_eq_build (hs : s.Named) (hp : s.properties.get? property = some p)
    (hitem : p.valueType ≠ .item) :
    s.indexAnew? property = some (s.buildRangeIndex p.id p.valueType) := by
  have htype : s.valueTypeOf property = p.valueType := by rw [valueTypeOf, hp]
  have hplaces : s.placesOf property = fun item =>
      (s.objects item p.id ∅ none).toList.flatMap (rangeValues p.valueType) := by
    unfold placesOf
    rw [htype, hs property p hp]
  rw [indexAnew?, indexOver?, if_pos (isRanged_iff.mpr ⟨p, hp, hitem⟩), hplaces]
  rfl

/-- What is answered: the index that is kept, else the one built anew. -/
theorem rangeIndex?_fst (hs : s.Named) (property : String) :
    (s.rangeIndex? property).1 =
      if s.isRanged property then (s.keptIndex? property).or (s.indexAnew? property) else none := by
  cases hp : s.properties.get? property with
  | none => simp [rangeIndex?, isRanged, hp]
  | some p =>
    by_cases hitem : p.valueType = .item
    · simp [rangeIndex?, isRanged, hp, hitem]
    · rw [if_pos (isRanged_iff.mpr ⟨p, hp, hitem⟩), indexAnew?_eq_build hs hp hitem]
      cases hindex : p.rangeIndex <;> simp [rangeIndex?, keptIndex?, hp, hitem, hindex]

end

/-! ## 2. What is kept is carried over -/

/-- The index of the property would read the same in both stores, but for items that have become
    known. -/
structure ReadsAlike (property : String) (s t : Store) : Prop where
  isRanged : t.isRanged property = s.isRanged property
  placesOf : t.placesOf property = s.placesOf property
  items : ∀ item ∈ s.items, item ∈ t.items

theorem ReadsAlike.of_get? {property : String} {s t : Store}
    (hget : t.properties.get? property = s.properties.get? property)
    (hlisted : ∀ x, t.objectList x property = s.objectList x property)
    (hitems : ∀ item ∈ s.items, item ∈ t.items) : ReadsAlike property s t where
  isRanged := by unfold Store.isRanged; rw [hget]
  placesOf := by
    funext item
    have hitem : t.forward.listed item property = s.forward.listed item property := hlisted item
    unfold Store.placesOf objects valueTypeOf Index.collect
    rw [hget, hitem]
  items := hitems

/-- What `t` keeps for a property, `s` has kept, and the index reads alike. `off` are properties to which
    this need not apply. -/
structure Carries (off : List String) (s t : Store) : Prop where
  named : s.Named → t.Named
  kept : ∀ property, property ∉ off → ∀ index, t.keptIndex? property = some index →
    s.keptIndex? property = some index ∧ ReadsAlike property s t

namespace Carries

variable {off : List String} {s t u : Store}

theorem refl (s : Store) : Carries off s s := ⟨id, fun _ _ _ h => ⟨h, rfl, rfl, fun _ => id⟩⟩

theorem trans (h : Carries off s t) (h' : Carries off t u) : Carries off s u where
  named := h'.named ∘ h.named
  kept property hoff index hindex := by
    obtain ⟨ht, halike'⟩ := h'.kept property hoff index hindex
    obtain ⟨hs, halike⟩ := h.kept property hoff index ht
    exact ⟨hs, halike'.isRanged.trans halike.isRanged, halike'.placesOf.trans halike.placesOf,
      fun item hitem => halike'.items item (halike.items item hitem)⟩

theorem of_subset {off' : List String} (h : Carries off s t) (hoff : ∀ p ∈ off, p ∈ off') :
    Carries off' s t :=
  ⟨h.named, fun property hp => h.kept property (mt (hoff property) hp)⟩

/-- A change of neither statements nor properties. -/
theorem of_eq (hforward : t.forward = s.forward) (hproperties : t.properties = s.properties)
    (hitems : ∀ item ∈ s.items, item ∈ t.items) : Carries off s t := by
  refine ⟨fun hs => by unfold Named; rw [hproperties]; exact hs, fun property _ index h => ?_⟩
  rw [keptIndex?, hproperties] at h
  exact ⟨h, .of_get? (by rw [hproperties]) (fun x => by unfold objectList; rw [hforward]) hitems⟩

/-- A change of the statements under a property that keeps no index. -/
theorem of_listed (property : String) (hproperties : t.properties = s.properties)
    (hitems : t.items = s.items)
    (hlisted : ∀ q, q ≠ property → ∀ x, t.objectList x q = s.objectList x q)
    (h : property ∈ off ∨ s.keptIndex? property = none) : Carries off s t := by
  refine ⟨fun hs => by unfold Named; rw [hproperties]; exact hs, fun q hoff index hkept => ?_⟩
  rw [keptIndex?, hproperties] at hkept
  have hq : q ≠ property := by
    rintro rfl
    rcases h with h | h
    · exact hoff h
    · exact absurd (hkept.symm.trans h) (by simp)
  exact ⟨hkept, .of_get? (by rw [hproperties]) (hlisted q hq) (by rw [hitems]; exact fun _ => id)⟩

/-- A change of one property that leaves it without index. -/
theorem of_property (property : String) (hforward : t.forward = s.forward)
    (hitems : t.items = s.items)
    (hrest : ∀ q, q ≠ property → t.properties.get? q = s.properties.get? q)
    (hproperty : ∀ p, t.properties.get? property = some p →
      p.rangeIndex = none ∧ (s.Named → p.id = property)) : Carries off s t := by
  refine ⟨fun hs q p hp => ?_, fun q _ index hkept => ?_⟩
  · by_cases hq : q = property
    · subst hq
      exact (hproperty p hp).2 hs
    · rw [hrest q hq] at hp
      exact hs q p hp
  · have hq : q ≠ property := by
      rintro rfl
      obtain ⟨p, hp, hindex⟩ := Option.bind_eq_some_iff.mp hkept
      rw [(hproperty p hp).1] at hindex
      cases hindex
    rw [keptIndex?, hrest q hq] at hkept
    exact ⟨hkept, .of_get? (hrest q hq) (fun x => by unfold objectList; rw [hforward])
      (by rw [hitems]; exact fun _ => id)⟩

/-! ## 3. Operations carry what is kept -/

theorem enter (x y : String) {p : String} (h : p ∈ off ∨ s.keptIndex? p = none) :
    Carries off s (s.enter x p y) := by
  refine of_listed p rfl rfl (fun q hq item => ?_) h
  simp only [objectList, Store.enter, Index.listed_put, hq, false_and, and_false, if_false]

theorem ensureProperty (s : Store) (property base : String) :
    Carries off s (s.ensureProperty property base) := by
  unfold Store.ensureProperty
  split
  · exact refl s
  · refine of_property property rfl rfl (fun q hq => ?_) fun p hp => ?_
    · simp [hq]
    · simp only [KeyMap.get?_insert, if_true, Option.some.injEq] at hp
      subst hp
      exact ⟨rfl, fun _ => rfl⟩

theorem ensureType (s : Store) (type base : String) : Carries off s (s.ensureType type base) := by
  unfold Store.ensureType
  split
  · exact refl s
  · exact of_eq rfl rfl fun _ => id

theorem invalidate (s : Store) (property : String) : Carries off s (s.invalidate property) := by
  refine of_property property rfl rfl (fun q hq => ?_) fun p hp => ?_
  · simp [Store.invalidate, hq]
  · simp only [Store.invalidate, KeyMap.get?_modify, if_true, Option.map_eq_some_iff] at hp
    obtain ⟨q, hq, rfl⟩ := hp
    exact ⟨rfl, fun hs => hs property q hq⟩

end Carries

theorem keptIndex?_invalidate (s : Store) (property : String) :
    (s.invalidate property).keptIndex? property = none := by
  unfold keptIndex? invalidate
  rw [KeyMap.get?_modify, if_pos rfl]
  cases s.properties.get? property <;> rfl

namespace Carries

variable {off : List String} {s t u : Store}

/-- Dropping an index settles its property. -/
theorem settle {property : String} (h : Carries (property :: off) s t) :
    Carries off s (t.invalidate property) := by
  have hlast : Carries (property :: off) s (t.invalidate property) :=
    h.trans (invalidate t property)
  refine ⟨hlast.named, fun q hoff index hkept => hlast.kept q ?_ index hkept⟩
  rw [List.mem_cons, not_or]
  refine ⟨?_, hoff⟩
  rintro rfl
  rw [keptIndex?_invalidate] at hkept
  cases hkept

theorem foldl {α : Type} {f : Store → α → Store} (hf : ∀ s a, Carries off s (f s a)) (xs : List α)
    (s : Store) : Carries off s (xs.foldl f s) := by
  induction xs generalizing s with
  | nil => exact refl s
  | cons x xs ih => exact (hf s x).trans (ih (f s x))

theorem addStatement (s : Store) (x p y : String) : Carries off s (s.addStatement x p y) :=
  ((enter x y (.inl List.mem_cons_self)).trans (ensureProperty _ p "")).settle

theorem removeStatement (s : Store) (x p y : String) :
    Carries off s (s.removeStatement x p y).2 := by
  unfold Store.removeStatement
  split
  · refine settle (of_listed p rfl rfl (fun q hq item => ?_) (.inl List.mem_cons_self))
    simp only [objectList, Index.listed_remove, hq, and_false, if_false]
  · exact refl s

theorem removeStatements (s : Store) (ts : List (String × String × String)) :
    Carries off s (s.removeStatements ts).2 := by
  rw [removeStatements_snd]
  exact foldl (fun s t => removeStatement s t.1 t.2.1 t.2.2) ts s

/-! ### Loading -/

theorem loadType (base : String) (s : Store) (entry : String × Json) :
    Carries off s (s.loadType base entry) := by
  unfold Store.loadType
  split
  · exact of_eq rfl rfl fun _ => id
  · exact refl s

theorem loadProperty (base : String) (s : Store) (entry : String × Json) :
    Carries off s (s.loadProperty base entry) := by
  unfold Store.loadProperty
  split
  · next id fields =>
    refine of_property id rfl rfl (fun q hq => by simp [hq]) fun p hp => ?_
    simp only [KeyMap.get?_insert, if_true, Option.some.injEq] at hp
    subst hp
    refine ⟨rfl, fun hs => ?_⟩
    cases hknown : s.properties.get? id with
    | none => rfl
    | some known => exact hs id known hknown
  · exact refl s

/-- Texts entered under a property that keeps no index. -/
theorem enterTexts {id p : String} (texts : List String) (h : s.keptIndex? p = none) :
    Carries off s (texts.foldl (fun s text => s.enter id p text) s) := by
  induction texts generalizing s with
  | nil => exact refl s
  | cons text texts ih => exact (enter id text (.inr h)).trans (ih h)

theorem enterField (base id : String) (s : Store) (field : String × Json) :
    Carries off s (s.enterField base id field) := by
  unfold Store.enterField
  dsimp only
  split
  · exact refl s
  · exact ((ensureProperty s field.1 base).trans (invalidate _ field.1)).trans
      (enterTexts _ (keptIndex?_invalidate _ _))

/-- Who an item is, is entered under three properties; their indexes are dropped afterwards. -/
theorem enterIdentity (s : Store) (base id label : String) (fields : List (String × Json)) :
    Carries ["type", "label", "uri"] s (s.enterIdentity base id label fields) := by
  have hitem : Carries ["type", "label", "uri"] s { s with items := s.items.insert id } :=
    of_eq rfl rfl fun item hitem => KeySet.mem_insert.mpr (.inr hitem)
  exact (((hitem.trans (enter id _ (.inl (by decide)))).trans (enter id _ (.inl (by decide)))).trans
    (enter id _ (.inl (by decide)))).trans (ensureType _ _ _)

theorem loadItem (base : String) (s : Store) (entry : Json) :
    Carries off s (s.loadItem base entry) := by
  cases entry with
  | object fields =>
    rw [loadItem_object]
    have hcounted {off : List String} : Carries off s (s.counted fields) := by
      unfold Store.counted
      split
      · exact refl s
      · exact of_eq rfl rfl fun _ => id
    have hidentity : Carries ("uri" :: "label" :: "type" :: off) s
        (if s.isIntroduced fields then (s.counted fields).enterIdentity base (s.entryOf fields).1
          ((s.entryOf fields).2.getD (s.entryOf fields).1) fields else s.counted fields) := by
      split
      · exact (hcounted.trans (enterIdentity _ _ _ _ _)).of_subset (by simp)
      · exact hcounted
    exact (hidentity.trans (foldl (enterField base _) fields _)).settle.settle.settle
  | _ => exact refl s

theorem loadTypes (s : Store) (types : List (String × Json)) (base : String) :
    Carries off s (s.loadTypes types base).1 :=
  foldl (loadType base) types s

theorem loadProperties (s : Store) (properties : List (String × Json)) (base : String) :
    Carries off s (s.loadProperties properties base).1 :=
  (foldl (loadProperty base) properties s).trans (of_eq rfl rfl fun _ => id)

theorem loadItems (s : Store) (items : List Json) (base : String) :
    Carries off s (s.loadItems items base).1 :=
  (foldl (loadItem base) items s).trans (of_eq rfl rfl fun _ => id)

theorem loadPart {α : Type} {part : Option α} {loader : Store → α → Store × List StoreEvent}
    {state : Store × List StoreEvent} (hloader : ∀ s given, Carries off s (loader s given).1)
    (h : Carries off s state.1) : Carries off s (Store.loadPart part loader state).1 := by
  unfold Store.loadPart
  split
  · exact h
  · exact h.trans (hloader _ _)

theorem removeAll (s : Store) : Carries off s s.removeAll.1 := by
  refine ⟨fun hs property p hp => ?_, fun property _ index hkept => ?_⟩
  · simp only [Store.removeAll, KeyMap.get?_mapValues, Option.map_eq_some_iff] at hp
    obtain ⟨q, hq, rfl⟩ := hp
    exact hs property q hq
  · simp only [keptIndex?, Store.removeAll, KeyMap.get?_mapValues] at hkept
    cases hp : s.properties.get? property <;> rw [hp] at hkept <;> cases hkept

/-- A question keeps an index for the property that it is about, and none else. -/
theorem rangeIndex? (s : Store) (property : String) :
    Carries [property] s (s.rangeIndex? property).2 := by
  rcases s.rangeIndex?_snd property with h | ⟨p, hp, -, -, h⟩
  · rw [h]
    exact refl s
  · rw [h]
    refine ⟨fun hs q r hr => ?_, fun q hq index hkept => ?_⟩
    · simp only [withIndex, KeyMap.get?_insert] at hr
      split at hr
      · next hq =>
        cases hr
        exact (hs property p hp).trans hq.symm
      · exact hs q r hr
    · rw [List.mem_singleton] at hq
      have hget : (s.withIndex property p).properties.get? q = s.properties.get? q := by
        simp [withIndex, hq]
      rw [keptIndex?, hget] at hkept
      exact ⟨hkept, .of_get? hget (fun _ => rfl) fun _ => id⟩

end Carries

end Store

namespace StoreOperation

/-- **What is kept is carried over** by every operation but for the index that it asks for. -/
theorem carries (op : StoreOperation) (s : Store) :
    Store.Carries (match op with | askRanges property => [property] | _ => []) s
      (op.perform s).2 := by
  cases op with
  | load payload base =>
    simp only [perform]
    cases payload with
    | object fields =>
      exact .loadPart (fun s given => .loadItems s given base)
        (.loadPart (fun s given => .loadProperties s given base)
          (.loadPart (fun s given => .loadTypes s given base) (.refl s)))
    | _ => exact .refl s
  | loadTypes types base => exact .loadTypes s types base
  | loadProperties properties base => exact .loadProperties s properties base
  | loadItems items base => exact .loadItems s items base
  | add t => exact .addStatement s _ _ _
  | remove t => exact .removeStatement s _ _ _
  | removeObjects x p => exact .removeStatements s _
  | removeSubjects x p => exact .removeStatements s _
  | removeAll => exact .removeAll s
  | askRanges property => exact .rangeIndex? s property
  | askProperties =>
    simp only [perform, Store.allProperties]
    split
    · exact .refl s
    · exact .of_eq rfl rfl fun _ => id

/-- What is kept after an operation has been kept before it, or it is what would be built now. -/
theorem kept_perform {s : Store} (hs : s.Named) (op : StoreOperation) {property : String}
    {index : RangeIndex} (h : (op.perform s).2.keptIndex? property = some index) :
    (s.keptIndex? property = some index ∧ Store.ReadsAlike property s (op.perform s).2) ∨
      (s.keptIndex? property = none ∧ (op.perform s).2.items = s.items ∧
        (op.perform s).2.indexAnew? property = some index) := by
  by_cases hasks : op = .askRanges property
  · subst hasks
    simp only [perform] at h ⊢
    rcases s.rangeIndex?_snd property with hsame | ⟨p, hp, hitem, hnone, hbuilt⟩
    · rw [hsame] at h ⊢
      exact .inl ⟨h, rfl, rfl, fun _ => id⟩
    · right
      rw [hbuilt] at h ⊢
      simp only [Store.keptIndex?, Store.withIndex, KeyMap.get?_insert, if_true,
        Option.bind_some, Option.some.injEq] at h
      have hnamed : (s.withIndex property p).Named :=
        hbuilt ▸ ((askRanges property).carries s).named hs
      have hget : (s.withIndex property p).properties.get? property =
          some { p with rangeIndex := some (s.buildRangeIndex p.id p.valueType) } := by
        simp [Store.withIndex]
      refine ⟨by rw [Store.keptIndex?, hp]; exact hnone, rfl, ?_⟩
      rw [Store.indexAnew?_eq_build hnamed hget hitem, ← h]
      rfl
  · refine .inl ((op.carries s).kept property ?_ index h)
    cases op with
    | askRanges q =>
      rw [List.mem_singleton]
      exact fun hq => hasks (hq ▸ rfl)
    | _ => exact List.not_mem_nil

end StoreOperation

/-! ## 4. Runs -/

/-- The store after a run, and beside it the items that the index of each property is over: those that
    were known when the index that is kept was built, and without an index those that are known now. -/
def replayIndexed (ops : List StoreOperation) : Store × (String → KeySet) :=
  ops.foldl
    (fun (s, items) op =>
      let t := (op.perform s).2
      (t, fun property => if (t.keptIndex? property).isSome then items property else t.items))
    (Store.empty, fun _ => ∅)

/-- The items that the index of the property is over. -/
def itemsIndexed (ops : List StoreOperation) : String → KeySet := (replayIndexed ops).2

/-- The items that have become known since the index of the property was built. -/
def latecomers (ops : List StoreOperation) (property : String) : KeySet :=
  (storeAfter ops).items.diff (itemsIndexed ops property)

/-- What the indexes of a store are over. -/
structure Store.Indexed (s : Store) (items : String → KeySet) : Prop where
  named : s.Named
  kept : ∀ property index, s.keptIndex? property = some index →
    s.indexOver? property (items property) = some index
  built : ∀ property, s.keptIndex? property = none → items property = s.items
  known : ∀ property, ∀ item ∈ items property, item ∈ s.items

/-- The properties that a new store knows. -/
theorem Store.property_of_empty {property : String} {p : Property}
    (hp : Store.empty.properties.get? property = some p) :
    p.id = property ∧ p.rangeIndex = none := by
  simp only [Store.empty, Store.builtIns, List.map_cons, List.map_nil, KeyMap.ofList,
    List.foldl_cons, List.foldl_nil, KeyMap.get?_insert, KeyMap.get?_empty] at hp
  split at hp
  · next hproperty => cases hp; exact ⟨hproperty.symm, rfl⟩
  · split at hp
    · next hproperty => cases hp; exact ⟨hproperty.symm, rfl⟩
    · split at hp
      · next hproperty => cases hp; exact ⟨hproperty.symm, rfl⟩
      · cases hp

theorem Store.keptIndex?_empty (property : String) : Store.empty.keptIndex? property = none := by
  rw [Store.keptIndex?, Option.bind_eq_none_iff]
  exact fun p hp => (Store.property_of_empty hp).2

theorem Store.Indexed.empty : Store.empty.Indexed fun _ => ∅ where
  named _ _ hp := (Store.property_of_empty hp).1
  kept property _ h := absurd ((Store.keptIndex?_empty property).symm.trans h) (by simp)
  built _ _ := rfl
  known _ _ := id

theorem Store.Indexed.perform {s : Store} {items : String → KeySet} (h : s.Indexed items)
    (op : StoreOperation) : (op.perform s).2.Indexed fun property =>
      if ((op.perform s).2.keptIndex? property).isSome then items property
      else (op.perform s).2.items := by
  refine ⟨(op.carries s).named h.named, fun property index hkept => ?_, fun property hkept => ?_,
    fun property item hitem => ?_⟩
  · simp only [hkept, Option.isSome_some, if_true]
    rcases StoreOperation.kept_perform h.named op hkept with ⟨hs, halike⟩ | ⟨hs, hitems, hanew⟩
    · rw [← h.kept property index hs, Store.indexOver?, Store.indexOver?, halike.isRanged,
        halike.placesOf]
    · rw [h.built property hs, ← hitems]
      exact hanew
  · simp only [hkept, Option.isSome_none, Bool.false_eq_true, if_false]
  · cases hkept : (op.perform s).2.keptIndex? property with
    | none => simpa [hkept] using hitem
    | some index =>
      simp only [hkept, Option.isSome_some, if_true] at hitem
      rcases StoreOperation.kept_perform h.named op hkept with ⟨-, halike⟩ | ⟨-, hitems, -⟩
      · exact halike.items item (h.known property item hitem)
      · exact hitems ▸ h.known property item hitem

theorem replayIndexed_concat (ops : List StoreOperation) (op : StoreOperation) :
    replayIndexed (ops ++ [op]) =
      ((op.perform (replayIndexed ops).1).2, fun property =>
        if ((op.perform (replayIndexed ops).1).2.keptIndex? property).isSome then
          (replayIndexed ops).2 property
        else (op.perform (replayIndexed ops).1).2.items) := by
  rw [replayIndexed, List.foldl_append]
  rfl

theorem replayIndexed_fst (ops : List StoreOperation) :
    (replayIndexed ops).1 = storeAfter ops := by
  induction ops using List.reverseRecOn with
  | nil => rfl
  | append_singleton ops op ih => rw [replayIndexed_concat, ih, storeAfter_concat]

/-- The indexes of a store after any run are over the items told by the run. -/
theorem storeAfter_indexed (ops : List StoreOperation) :
    (storeAfter ops).Indexed (itemsIndexed ops) := by
  rw [itemsIndexed, ← replayIndexed_fst]
  induction ops using List.reverseRecOn with
  | nil => exact Store.Indexed.empty
  | append_singleton ops op ih =>
    rw [replayIndexed_concat]
    exact ih.perform op

/-- **What is answered** is the index over those items. -/
theorem rangeIndex?_storeAfter (ops : List StoreOperation) (property : String) :
    ((storeAfter ops).rangeIndex? property).1 =
      (storeAfter ops).indexOver? property (itemsIndexed ops property) := by
  have h := storeAfter_indexed ops
  rw [Store.rangeIndex?_fst h.named]
  cases hkept : (storeAfter ops).keptIndex? property with
  | none =>
    rw [h.built property hkept, Option.none_or, Store.indexAnew?, Store.indexOver?]
    split <;> rfl
  | some index =>
    rw [← h.kept property index hkept, Store.indexOver?]
    split <;> rfl

/-! ## 5. Transparency -/

theorem RangeIndex.entriesOf_eq_of_subset {items known : KeySet} {values : String → List RangeValue}
    (hsub : ∀ x ∈ items, x ∈ known) (hrest : ∀ x ∈ known.diff items, values x = []) :
    entriesOf items values = entriesOf known values := by
  have hitems : items = known.filter items.contains := KeySet.ext fun x => by
    simp only [KeySet.mem_filter, KeySet.contains_iff]
    exact ⟨fun hx => ⟨hsub x hx, hx⟩, And.right⟩
  have hlist : items.toList = known.toList.filter items.contains := congrArg KeySet.toList hitems
  have hfilter : ∀ xs : List String, (∀ x ∈ xs, x ∈ known) →
      (xs.filter items.contains).flatMap (fun item => (values item).map (RangeEntry.mk item)) =
        xs.flatMap fun item => (values item).map (RangeEntry.mk item) := by
    intro xs hxs
    induction xs with
    | nil => rfl
    | cons x xs ih =>
      obtain ⟨hx, hxs⟩ := List.forall_mem_cons.mp hxs
      by_cases hmem : x ∈ items
      · rw [List.filter_cons_of_pos (by simpa using hmem), List.flatMap_cons, List.flatMap_cons,
          ih hxs]
      · rw [List.filter_cons_of_neg (by simpa using hmem), List.flatMap_cons,
          hrest x (KeySet.mem_diff.mpr ⟨hx, hmem⟩), ih hxs]
        rfl
  rw [entriesOf, entriesOf, hlist]
  exact hfilter known.toList fun x => KeySet.mem_toList.mp

/-- An index over some of the items is the one over all if the others have no values. -/
theorem RangeIndex.ofItems_eq_iff {items known : KeySet} {values : String → List RangeValue}
    (hsub : ∀ x ∈ items, x ∈ known) :
    ofItems items values = ofItems known values ↔ ∀ x ∈ known.diff items, values x = [] := by
  constructor
  · intro heq x hx
    obtain ⟨hknown, hitems⟩ := KeySet.mem_diff.mp hx
    rw [List.eq_nil_iff_forall_not_mem]
    intro value hvalue
    have hentry : (⟨x, value⟩ : RangeEntry) ∈ (ofItems known values).entries :=
      mem_entries_ofItems.mpr ⟨hknown, hvalue⟩
    rw [← heq] at hentry
    exact hitems (mem_entries_ofItems.mp hentry).1
  · intro hrest
    rw [ofItems, ofItems, entriesOf_eq_of_subset hsub hrest]

/-- All answers for the property are those of an index built anew. -/
def Store.AnswersAnew (s : Store) (property : String) : Prop :=
  (s.rangeIndex? property).1 = s.indexAnew? property ∧
    ∀ low high inclusive into filter,
      (s.subjectsInRange property low high inclusive into filter).1 =
        match s.indexAnew? property with
        | some index => index.subjectsBetween low high inclusive into filter
        | none => into

/-- Queries read the store through the index. -/
theorem Store.answersAnew_iff (s : Store) (property : String) :
    s.AnswersAnew property ↔ (s.rangeIndex? property).1 = s.indexAnew? property := by
  refine ⟨And.left, fun heq => ⟨heq, fun low high inclusive into filter => ?_⟩⟩
  have hanswer := s.subjectsInRange_fst property low high inclusive into filter
  rw [heq] at hanswer
  exact hanswer

/-- Nothing comes late where no index is kept. -/
theorem latecomers_of_keptIndex? {ops : List StoreOperation} {property : String}
    (hkept : (storeAfter ops).keptIndex? property = none) (item : String) :
    ¬ item ∈ latecomers ops property := by
  simp [latecomers, (storeAfter_indexed ops).built property hkept]

theorem answersAnew_iff_latecomers (ops : List StoreOperation) (property : String) :
    (storeAfter ops).AnswersAnew property ↔
      ∀ item ∈ latecomers ops property, (storeAfter ops).placesOf property item = [] := by
  have h := storeAfter_indexed ops
  rw [Store.answersAnew_iff, rangeIndex?_storeAfter, Store.indexAnew?, Store.indexOver?,
    Store.indexOver?]
  by_cases hranged : (storeAfter ops).isRanged property = true
  · rw [if_pos hranged, if_pos hranged, Option.some.injEq]
    exact RangeIndex.ofItems_eq_iff (h.known property)
  · rw [if_neg hranged, if_neg hranged]
    have hkept : (storeAfter ops).keptIndex? property = none := by
      rw [Option.eq_none_iff_forall_ne_some]
      intro index hkept
      have hover := h.kept property index hkept
      rw [Store.indexOver?, if_neg hranged] at hover
      cases hover
    exact iff_of_true rfl fun item hitem => absurd hitem (latecomers_of_keptIndex? hkept item)

/-! ## 6. Without questions -/

theorem Store.SameButAsked.indexAnew? {s t : Store} (h : s.SameButAsked t) (property : String) :
    s.indexAnew? property = t.indexAnew? property := by
  have htype : s.valueTypeOf property = t.valueTypeOf property := by
    have hmap := h.map_eq (f := Property.valueType) (fun _ => rfl) property
    unfold Store.valueTypeOf
    cases hs : s.properties.get? property <;> cases ht : t.properties.get? property <;>
      rw [hs, ht] at hmap <;> first | rfl | cases hmap | exact Option.some.inj hmap
  have hranged : s.isRanged property = t.isRanged property := by
    have hmap := h.map_eq (f := fun p => decide (p.valueType ≠ .item)) (fun _ => rfl) property
    unfold Store.isRanged
    cases hs : s.properties.get? property <;> cases ht : t.properties.get? property <;>
      rw [hs, ht] at hmap <;> first | rfl | cases hmap | exact Option.some.inj hmap
  have hplaces : s.placesOf property = t.placesOf property := by
    unfold Store.placesOf Store.objects
    rw [htype, h.forward]
  rw [Store.indexAnew?, Store.indexAnew?, Store.indexOver?, Store.indexOver?, hranged, hplaces,
    h.items]

/-- Without questions no index is kept. -/
theorem keptIndex?_of_not_asks {ops : List StoreOperation} (hops : ∀ op ∈ ops, op.asks = false)
    (property : String) : (storeAfter ops).keptIndex? property = none := by
  induction ops using List.reverseRecOn with
  | nil => exact Store.keptIndex?_empty property
  | append_singleton ops op ih =>
    have hnone := ih fun op' hop' => hops op' (List.mem_append_left _ hop')
    have hasks := hops op (List.mem_append_right _ List.mem_cons_self)
    rw [storeAfter_concat, Option.eq_none_iff_forall_ne_some]
    intro index hkept
    have hoff : property ∉ (match op with | .askRanges property => [property] | _ => []) := by
      cases op with
      | askRanges q => cases hasks
      | _ => exact List.not_mem_nil
    have hbefore := ((op.carries (storeAfter ops)).kept property hoff index hkept).1
    exact absurd (hnone.symm.trans hbefore) (by simp)

/-- **Kept indexes are transparent** if and only if no item that has become known since they were built
    has a value that has a place in them, and if and only if the questions before have not changed the
    answer. What is answered in any case is the index over the items that were known then. -/
theorem rangeAnswers_of_run (ops : List StoreOperation) (property : String) :
    ((storeAfter ops).rangeIndex? property).1 =
        (storeAfter ops).indexOver? property (itemsIndexed ops property) ∧
      ((storeAfter ops).AnswersAnew property ↔
        ∀ item ∈ latecomers ops property, (storeAfter ops).placesOf property item = []) ∧
      ((storeAfter ops).AnswersAnew property ↔ ((storeAfter ops).rangeIndex? property).1 =
        ((storeAfter (withoutQuestions ops)).rangeIndex? property).1) := by
  refine ⟨rangeIndex?_storeAfter ops property, answersAnew_iff_latecomers ops property, ?_⟩
  have hasks : ∀ op ∈ withoutQuestions ops, op.asks = false := fun op hop => by
    simpa using (List.mem_filter.mp hop).2
  have hunasked : (storeAfter (withoutQuestions ops)).AnswersAnew property :=
    (answersAnew_iff_latecomers _ property).mpr fun item hitem =>
      absurd hitem (latecomers_of_keptIndex? (keptIndex?_of_not_asks hasks property) item)
  rw [Store.answersAnew_iff, hunasked.1,
    (storeAfter_withoutQuestions ops).indexAnew? property]

/-- A property is asked for when it has the value of something that is no item yet. -/
def lateRun : List StoreOperation :=
  [.add ⟨"x", "age", "5"⟩, .askRanges "age",
    .loadItems [.object [("id", .string "x")]] "http://example.org/"]

/-- Its index stays empty when that becomes an item. -/
theorem age_of_latecomer : ¬ (storeAfter lateRun).AnswersAnew "age" ∧
    ((storeAfter lateRun).rangeIndex? "age").1.map RangeIndex.count = some 0 ∧
    ((storeAfter lateRun).indexAnew? "age").map RangeIndex.count = some 1 := by
  have hcount (items : KeySet) (values : String → List RangeValue) :
      (RangeIndex.ofItems items values).count = (RangeIndex.entriesOf items values).length :=
    List.length_mergeSort _
  have hranged : (storeAfter lateRun).isRanged "age" = true := by decide
  have hanswer : ((storeAfter lateRun).rangeIndex? "age").1.map RangeIndex.count = some 0 := by
    rw [rangeIndex?_storeAfter, Store.indexOver?, if_pos hranged, Option.map_some, hcount]
    decide
  have hanew : ((storeAfter lateRun).indexAnew? "age").map RangeIndex.count = some 1 := by
    rw [Store.indexAnew?, Store.indexOver?, if_pos hranged, Option.map_some, hcount]
    decide
  refine ⟨fun h => ?_, hanswer, hanew⟩
  rw [h.1, hanew] at hanswer
  cases hanswer

end Faceted
