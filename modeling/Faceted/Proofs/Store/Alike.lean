import Faceted.Store.Ranges

/-!
# Stores that answer alike

Asking a store may leave an index behind, so a store that has been asked is another value than before
although nobody can tell the two apart. `Store.SameContent` says what can be told of what is stored: the
statements in both directions, the items, the types of values, the texts of an item over all properties,
and the answers to range queries. For `Store.Alike` it is the same moment as well.

* `Store.SameContent` and `Store.Alike` are equivalences;
* `sameContent_atMoment`: the clock changes nothing that is stored;
* **`Store.rangeIndex?_alike`**: building an index changes nothing that can be told, since the index
  that is kept is the one that would be built;
* `Store.subjectsInRange_alike` is the same for a query.
-/

namespace Faceted

/-! ## 1. Keys of a map -/

namespace KeyMap

variable {α : Type}

theorem insertKey_of_mem {k : String} : ∀ {xs : List String}, xs.Pairwise (· < ·) → k ∈ xs →
    insertKey k xs = xs
  | x :: xs, hasc, hk => by
    obtain ⟨hx, hxs⟩ := List.pairwise_cons.mp hasc
    unfold insertKey
    rcases List.mem_cons.mp hk with rfl | hk
    · rw [if_neg (String.lt_irrefl _), if_neg (String.lt_irrefl _)]
    · have hlt := hx k hk
      have hge : ¬ k < x := fun h => String.lt_irrefl x (String.lt_trans hlt h)
      rw [if_neg hge, if_pos hlt, insertKey_of_mem hxs hk]

/-- Replacing the value of a key leaves the keys as they are. -/
theorem keys_insert_of_get? {m : KeyMap α} {k : String} {v w : α} (h : m.get? k = some w) :
    (m.insert k v).keys = m.keys := by
  have hk : k ∈ m.keys := mem_keys_iff.mpr (by rw [h]; rfl)
  unfold keys insert
  rw [keys_insertEntry]
  exact insertKey_of_mem m.ascending hk

end KeyMap

namespace Store

/-! ## 2. What can be told -/

/-- All texts of an item, property by property, as a search over everything reads them. -/
def textsOf (s : Store) (item : String) : List String :=
  s.allProperties.1.flatMap fun property => s.objectList item property

/-- Nothing but the moment tells the two stores apart. -/
structure SameContent (s t : Store) : Prop where
  forward : s.forward = t.forward
  backward : s.backward = t.backward
  items : s.items = t.items
  valueTypeOf : ∀ property, s.valueTypeOf property = t.valueTypeOf property
  textsOf : ∀ item, s.textsOf item = t.textsOf item
  inRange : ∀ property low high inclusive into filter,
    (s.subjectsInRange property low high inclusive into filter).1 =
      (t.subjectsInRange property low high inclusive into filter).1

/-- Nothing that facets, expressions and collections ask tells the two stores apart. -/
structure Alike (s t : Store) : Prop where
  content : s.SameContent t
  present : s.present = t.present

namespace SameContent

variable {s t u : Store}

theorem refl (s : Store) : s.SameContent s :=
  ⟨rfl, rfl, rfl, fun _ => rfl, fun _ => rfl, fun _ _ _ _ _ _ => rfl⟩

theorem symm (h : s.SameContent t) : t.SameContent s where
  forward := h.forward.symm
  backward := h.backward.symm
  items := h.items.symm
  valueTypeOf property := (h.valueTypeOf property).symm
  textsOf item := (h.textsOf item).symm
  inRange property low high inclusive into filter :=
    (h.inRange property low high inclusive into filter).symm

theorem trans (h : s.SameContent t) (h' : t.SameContent u) : s.SameContent u where
  forward := h.forward.trans h'.forward
  backward := h.backward.trans h'.backward
  items := h.items.trans h'.items
  valueTypeOf property := (h.valueTypeOf property).trans (h'.valueTypeOf property)
  textsOf item := (h.textsOf item).trans (h'.textsOf item)
  inRange property low high inclusive into filter :=
    (h.inRange property low high inclusive into filter).trans
      (h'.inRange property low high inclusive into filter)

theorem objects (h : s.SameContent t) (subject property : String) (into : KeySet)
    (filter : Option KeySet) :
    s.objects subject property into filter = t.objects subject property into filter := by
  unfold Store.objects
  rw [h.forward]

theorem subjects (h : s.SameContent t) (object property : String) (into : KeySet)
    (filter : Option KeySet) :
    s.subjects object property into filter = t.subjects object property into filter := by
  unfold Store.subjects
  rw [h.backward]

theorem objectsUnion (h : s.SameContent t) (xs : KeySet) (property : String) (into : KeySet)
    (filter : Option KeySet) :
    s.objectsUnion xs property into filter = t.objectsUnion xs property into filter := by
  unfold Store.objectsUnion
  rw [h.forward]

theorem subjectsUnion (h : s.SameContent t) (xs : KeySet) (property : String) (into : KeySet)
    (filter : Option KeySet) :
    s.subjectsUnion xs property into filter = t.subjectsUnion xs property into filter := by
  unfold Store.subjectsUnion
  rw [h.backward]

end SameContent

namespace Alike

variable {s t u : Store}

theorem refl (s : Store) : s.Alike s := ⟨.refl s, rfl⟩

theorem symm (h : s.Alike t) : t.Alike s := ⟨h.content.symm, h.present.symm⟩

theorem trans (h : s.Alike t) (h' : t.Alike u) : s.Alike u :=
  ⟨h.content.trans h'.content, h.present.trans h'.present⟩

end Alike

/-! ## 3. Asking for ranges -/

/-- The store with the missing index of a property kept. -/
def withIndex (s : Store) (property : String) (p : Property) : Store :=
  { s with
    properties := s.properties.insert property
      { p with rangeIndex := some (s.buildRangeIndex p.id p.valueType) } }

/-- What asking for an index does to the store: nothing, or the index that is missing is kept. -/
theorem rangeIndex?_snd (s : Store) (property : String) :
    (s.rangeIndex? property).2 = s ∨
      ∃ p, s.properties.get? property = some p ∧ p.valueType ≠ .item ∧ p.rangeIndex = none ∧
        (s.rangeIndex? property).2 = s.withIndex property p := by
  unfold rangeIndex?
  cases hp : s.properties.get? property with
  | none => exact .inl rfl
  | some p =>
    by_cases hitem : p.valueType = .item
    · simp [hitem]
    · cases hindex : p.rangeIndex with
      | some index => simp [hitem, hindex]
      | none => exact .inr ⟨p, rfl, hitem, hindex, by simp [hitem, hindex, withIndex]⟩

section Keeping

variable {s : Store} {property : String} {p : Property}

theorem rangeIndex?_withIndex (hp : s.properties.get? property = some p)
    (hindex : p.rangeIndex = none) (q : String) :
    ((s.withIndex property p).rangeIndex? q).1 = (s.rangeIndex? q).1 := by
  unfold rangeIndex? withIndex
  by_cases hq : q = property
  · subst hq
    by_cases hitem : p.valueType = .item
    · simp [hp, hitem]
    · simp [hp, hitem, hindex]
  · simp only [KeyMap.get?_insert, hq, if_false]
    cases hq' : s.properties.get? q with
    | none => rfl
    | some r =>
      by_cases hitem : r.valueType = .item
      · simp [hitem]
      · cases hr : r.rangeIndex with
        | some index => simp [hitem, hr]
        | none =>
          simp only [hitem, hr, if_false]
          rfl

/-- A query reads the store only through the index. -/
theorem subjectsInRange_fst (s : Store) (property : String) (low high : RangeValue)
    (inclusive : Bool) (into : KeySet) (filter : Option KeySet) :
    (s.subjectsInRange property low high inclusive into filter).1 =
      match (s.rangeIndex? property).1 with
      | some index => index.subjectsBetween low high inclusive into filter
      | none => into := by
  unfold subjectsInRange
  split
  · next index _ h => simp [h]
  · next _ h => simp [h]

theorem subjectsInRange_snd (s : Store) (property : String) (low high : RangeValue)
    (inclusive : Bool) (into : KeySet) (filter : Option KeySet) :
    (s.subjectsInRange property low high inclusive into filter).2 = (s.rangeIndex? property).2 := by
  unfold subjectsInRange
  split
  · next h => simp [h]
  · next h => simp [h]

theorem sameContent_withIndex (hp : s.properties.get? property = some p)
    (hindex : p.rangeIndex = none) : s.SameContent (s.withIndex property p) where
  forward := rfl
  backward := rfl
  items := rfl
  valueTypeOf q := by
    unfold valueTypeOf withIndex
    by_cases hq : q = property
    · subst hq
      simp [hp]
    · simp [hq]
  textsOf item := by
    have hkeys : (s.withIndex property p).allProperties.1 = s.allProperties.1 := by
      unfold allProperties withIndex
      cases s.propertyList with
      | some ids => rfl
      | none => exact KeyMap.keys_insert_of_get? hp
    unfold Store.textsOf
    rw [hkeys]
    rfl
  inRange q low high inclusive into filter := by
    rw [subjectsInRange_fst, subjectsInRange_fst, rangeIndex?_withIndex hp hindex]

end Keeping

/-- **Asking for an index changes nothing that can be told.** -/
theorem rangeIndex?_alike (s : Store) (property : String) :
    s.Alike (s.rangeIndex? property).2 := by
  rcases s.rangeIndex?_snd property with h | ⟨p, hp, -, hindex, h⟩
  · rw [h]
    exact Alike.refl s
  · rw [h]
    exact ⟨sameContent_withIndex hp hindex, rfl⟩

theorem subjectsInRange_alike (s : Store) (property : String) (low high : RangeValue)
    (inclusive : Bool) (into : KeySet) (filter : Option KeySet) :
    s.Alike (s.subjectsInRange property low high inclusive into filter).2 := by
  rw [subjectsInRange_snd]
  exact s.rangeIndex?_alike property

/-! ## 4. The clock -/

/-- The same properties over the same statements and items have the same indexes. -/
theorem rangeIndex?_of_eq {s t : Store} (hforward : s.forward = t.forward)
    (hitems : s.items = t.items) (hproperties : s.properties = t.properties) (property : String) :
    (s.rangeIndex? property).1 = (t.rangeIndex? property).1 := by
  have hbuild (p : Property) :
      s.buildRangeIndex p.id p.valueType = t.buildRangeIndex p.id p.valueType := by
    unfold buildRangeIndex objects
    rw [hforward, hitems]
  unfold rangeIndex?
  rw [← hproperties]
  cases s.properties.get? property with
  | none => rfl
  | some p =>
    by_cases hitem : p.valueType = .item
    · simp only [hitem, if_true]
    · simp only [hitem, if_false]
      cases p.rangeIndex with
      | some index => rfl
      | none => simp only [hbuild]

/-- What is told of a store depends on its statements, its items and its properties only. -/
theorem sameContent_of_eq {s t : Store} (hforward : s.forward = t.forward)
    (hbackward : s.backward = t.backward) (hitems : s.items = t.items)
    (hproperties : s.properties = t.properties) (hlist : s.propertyList = t.propertyList) :
    s.SameContent t where
  forward := hforward
  backward := hbackward
  items := hitems
  valueTypeOf property := by
    unfold valueTypeOf
    rw [hproperties]
  textsOf item := by
    unfold Store.textsOf allProperties objectList
    rw [hproperties, hlist, hforward]
    cases t.propertyList <;> rfl
  inRange property low high inclusive into filter := by
    rw [subjectsInRange_fst, subjectsInRange_fst, rangeIndex?_of_eq hforward hitems hproperties]

theorem rangeIndex?_atMoment (s : Store) (moment : Int) (property : String) :
    (s.rangeIndex? property).1 = ((s.atMoment moment).rangeIndex? property).1 :=
  rangeIndex?_of_eq (s := s) (t := s.atMoment moment) rfl rfl rfl property

/-- **The clock changes nothing that is stored.** -/
theorem sameContent_atMoment (s : Store) (moment : Int) : s.SameContent (s.atMoment moment) :=
  sameContent_of_eq rfl rfl rfl rfl rfl

theorem SameContent.atMoment {s t : Store} (h : s.SameContent t) (moment : Int) :
    (s.atMoment moment).SameContent (t.atMoment moment) :=
  ((s.sameContent_atMoment moment).symm.trans h).trans (t.sameContent_atMoment moment)

/-- What is alike stays so when the clock moves on. -/
theorem Alike.atMoment {s t : Store} (h : s.Alike t) (moment : Int) :
    (s.atMoment moment).Alike (t.atMoment moment) := ⟨h.content.atMoment moment, rfl⟩

end Store

end Faceted
