import Faceted.Proofs.Store.Alike
import Faceted.Proofs.Store.Run

/-!
# Runs without questions

Two of the questions leave their mark in a store: what they have computed is kept. Nothing that is done
to the statements, items, types and properties afterwards reads it, so a store after a run and the store
after the same run without its questions differ in these marks only.

* `Store.SameButAsked`: two stores that differ at most in what is kept;
* `StoreOperation.sameButAsked`: operations keep them so;
* **`storeAfter_withoutQuestions`**: a run and the run without its questions.
-/

namespace Faceted

namespace Store

/-- Statements are removed one after the other. -/
theorem removeStatements_snd (s : Store) (ts : List (String × String × String)) :
    (s.removeStatements ts).2 = ts.foldl (fun s t => (s.removeStatement t.1 t.2.1 t.2.2).2) s := by
  unfold removeStatements
  exact (List.foldl_hom Prod.snd fun _ _ => rfl).symm

/-- The stores differ at most in what is kept of answers. -/
structure SameButAsked (s t : Store) : Prop where
  forward : s.forward = t.forward
  backward : s.backward = t.backward
  items : s.items = t.items
  anonymous : s.anonymous = t.anonymous
  properties : ∀ property, (s.properties.get? property).map Property.withoutIndex =
    (t.properties.get? property).map Property.withoutIndex

namespace SameButAsked

variable {s t u : Store}

theorem refl (s : Store) : s.SameButAsked s := ⟨rfl, rfl, rfl, rfl, fun _ => rfl⟩

theorem symm (h : s.SameButAsked t) : t.SameButAsked s :=
  ⟨h.forward.symm, h.backward.symm, h.items.symm, h.anonymous.symm, fun q => (h.properties q).symm⟩

theorem trans (h : s.SameButAsked t) (h' : t.SameButAsked u) : s.SameButAsked u :=
  ⟨h.forward.trans h'.forward, h.backward.trans h'.backward, h.items.trans h'.items,
    h.anonymous.trans h'.anonymous, fun q => (h.properties q).trans (h'.properties q)⟩

theorem objectList (h : s.SameButAsked t) (x p : String) : s.objectList x p = t.objectList x p := by
  unfold Store.objectList
  rw [h.forward]

theorem subjectList (h : s.SameButAsked t) (x p : String) :
    s.subjectList x p = t.subjectList x p := by
  unfold Store.subjectList
  rw [h.backward]

theorem contains (h : s.SameButAsked t) (p : String) :
    s.properties.contains p = t.properties.contains p := by
  have hp := congrArg Option.isSome (h.properties p)
  rwa [Option.isSome_map, Option.isSome_map] at hp

/-- What is read of a property without its index is the same. -/
theorem map_eq {α : Type} (h : s.SameButAsked t) {f : Property → α}
    (hf : ∀ p, f p.withoutIndex = f p) (property : String) :
    (s.properties.get? property).map f = (t.properties.get? property).map f := by
  have hfun : f ∘ Property.withoutIndex = f := funext hf
  rw [← hfun, ← Option.map_map, ← Option.map_map, h.properties]

/-! ## 1. One change in both stores -/

/-- The same property is entered into both stores. -/
theorem insert (h : s.SameButAsked t) (property : String) (p : Property)
    (list list' : Option (List String)) :
    SameButAsked { s with properties := s.properties.insert property p, propertyList := list }
      { t with properties := t.properties.insert property p, propertyList := list' } := by
  refine ⟨h.forward, h.backward, h.items, h.anonymous, fun q => ?_⟩
  simp only [KeyMap.get?_insert]
  split
  · rfl
  · exact h.properties q

theorem invalidate (h : s.SameButAsked t) (property : String) :
    (s.invalidate property).SameButAsked (t.invalidate property) := by
  refine ⟨h.forward, h.backward, h.items, h.anonymous, fun q => ?_⟩
  simp only [Store.invalidate, KeyMap.get?_modify]
  split
  · rw [h.properties]
  · exact h.properties q

theorem enter (h : s.SameButAsked t) (x p y : String) :
    (s.enter x p y).SameButAsked (t.enter x p y) := by
  refine ⟨?_, ?_, h.items, h.anonymous, h.properties⟩
  · unfold Store.enter
    rw [h.forward]
  · unfold Store.enter
    rw [h.backward]

theorem ensureProperty (h : s.SameButAsked t) (property base : String) :
    (s.ensureProperty property base).SameButAsked (t.ensureProperty property base) := by
  unfold Store.ensureProperty
  rw [h.contains]
  split
  · exact h
  · exact h.insert property _ none none

theorem ensureType_left (h : s.SameButAsked t) (type base : String) :
    (s.ensureType type base).SameButAsked t := by
  unfold Store.ensureType
  split
  · exact h
  · exact ⟨h.forward, h.backward, h.items, h.anonymous, h.properties⟩

theorem ensureType (h : s.SameButAsked t) (type base : String) :
    (s.ensureType type base).SameButAsked (t.ensureType type base) :=
  ((h.ensureType_left type base).symm.ensureType_left type base).symm

theorem addStatement (h : s.SameButAsked t) (x p y : String) :
    (s.addStatement x p y).SameButAsked (t.addStatement x p y) :=
  ((h.enter x p y).ensureProperty p "").invalidate p

theorem removeStatement (h : s.SameButAsked t) (x p y : String) :
    (s.removeStatement x p y).2.SameButAsked (t.removeStatement x p y).2 := by
  unfold Store.removeStatement holds
  rw [h.objectList, h.subjectList]
  split
  · have hremoved : SameButAsked
        { s with forward := s.forward.remove x p y, backward := s.backward.remove y p x }
        { t with forward := t.forward.remove x p y, backward := t.backward.remove y p x } :=
      ⟨by rw [h.forward], by rw [h.backward], h.items, h.anonymous, h.properties⟩
    exact hremoved.invalidate p
  · exact h

theorem foldl {α : Type} {f : Store → α → Store}
    (hf : ∀ {s t : Store} (a : α), s.SameButAsked t → (f s a).SameButAsked (f t a)) (xs : List α)
    (h : s.SameButAsked t) : (xs.foldl f s).SameButAsked (xs.foldl f t) := by
  induction xs generalizing s t with
  | nil => exact h
  | cons x xs ih => exact ih (hf x h)

theorem removeStatements (h : s.SameButAsked t) (ts : List (String × String × String)) :
    (s.removeStatements ts).2.SameButAsked (t.removeStatements ts).2 := by
  rw [removeStatements_snd, removeStatements_snd]
  exact foldl (fun u h => h.removeStatement u.1 u.2.1 u.2.2) ts h

theorem removeAll (h : s.SameButAsked t) : s.removeAll.1.SameButAsked t.removeAll.1 := by
  refine ⟨rfl, rfl, rfl, h.anonymous, fun q => ?_⟩
  simp only [Store.removeAll, KeyMap.get?_mapValues, Option.map_map]
  exact h.map_eq (fun _ => rfl) q

/-! ## 2. Loading into both stores -/

theorem loadType_left (h : s.SameButAsked t) (base : String) (entry : String × Json) :
    (s.loadType base entry).SameButAsked t := by
  unfold Store.loadType
  split
  · exact ⟨h.forward, h.backward, h.items, h.anonymous, h.properties⟩
  · exact h

theorem loadProperty (h : s.SameButAsked t) (base : String) (entry : String × Json) :
    (s.loadProperty base entry).SameButAsked (t.loadProperty base entry) := by
  unfold Store.loadProperty
  split
  · next id fields =>
    -- A description reads nothing of an index, and leaves none.
    have hknown := h.map_eq (f := fun p => p.described base fields) (fun _ => rfl) id
    have hdescribed : ((s.properties.get? id).getD (.ofId base id)).described base fields =
        ((t.properties.get? id).getD (.ofId base id)).described base fields := by
      cases hs : s.properties.get? id <;> cases ht : t.properties.get? id <;>
        rw [hs, ht] at hknown <;> first | rfl | cases hknown | exact Option.some.inj hknown
    dsimp only
    rw [hdescribed]
    exact h.insert id _ s.propertyList t.propertyList
  · exact h

theorem enterField (h : s.SameButAsked t) (base id : String) (field : String × Json) :
    (s.enterField base id field).SameButAsked (t.enterField base id field) := by
  unfold Store.enterField
  dsimp only
  split
  · exact h
  · exact foldl (fun text h => h.enter id field.1 text) _ ((h.ensureProperty _ _).invalidate _)

theorem enterIdentity (h : s.SameButAsked t) (base id label : String)
    (fields : List (String × Json)) :
    (s.enterIdentity base id label fields).SameButAsked (t.enterIdentity base id label fields) := by
  have hitem : SameButAsked { s with items := s.items.insert id }
      { t with items := t.items.insert id } :=
    ⟨h.forward, h.backward, by rw [h.items], h.anonymous, h.properties⟩
  exact (((hitem.enter _ _ _).enter _ _ _).enter _ _ _).ensureType _ _

theorem loadItem (h : s.SameButAsked t) (base : String) (entry : Json) :
    (s.loadItem base entry).SameButAsked (t.loadItem base entry) := by
  cases entry with
  | object fields =>
    have hname : s.entryOf fields = t.entryOf fields := by
      unfold entryOf nextAnonymous
      rw [h.anonymous]
    have hintroduced : s.isIntroduced fields = t.isIntroduced fields := by
      unfold isIntroduced
      rw [hname, h.items]
    have hcounted : (s.counted fields).SameButAsked (t.counted fields) := by
      unfold Store.counted
      split
      · exact h
      · exact ⟨h.forward, h.backward, h.items, by rw [h.anonymous], h.properties⟩
    rw [loadItem_object, loadItem_object, hname, hintroduced]
    refine ((foldl (fun field h => h.enterField base _ field) fields ?_).invalidate _ |>.invalidate _
      ).invalidate _
    split
    · exact hcounted.enterIdentity _ _ _ _
    · exact hcounted
  | _ => exact h

/-- Either store may be replaced by one that differs in what is kept. -/
theorem congr {s' t' : Store} (h : s.SameButAsked t) (hs : s'.SameButAsked s)
    (ht : t'.SameButAsked t) : s'.SameButAsked t' :=
  (hs.trans h).trans ht.symm

theorem loadTypes (h : s.SameButAsked t) (types : List (String × Json)) (base : String) :
    (s.loadTypes types base).1.SameButAsked (t.loadTypes types base).1 :=
  foldl (fun entry h => ((h.loadType_left base entry).symm.loadType_left base entry).symm) types h

theorem loadProperties (h : s.SameButAsked t) (properties : List (String × Json)) (base : String) :
    (s.loadProperties properties base).1.SameButAsked (t.loadProperties properties base).1 :=
  (foldl (fun entry h => h.loadProperty base entry) properties h).congr
    ⟨rfl, rfl, rfl, rfl, fun _ => rfl⟩ ⟨rfl, rfl, rfl, rfl, fun _ => rfl⟩

theorem loadItems (h : s.SameButAsked t) (items : List Json) (base : String) :
    (s.loadItems items base).1.SameButAsked (t.loadItems items base).1 :=
  (foldl (fun entry h => h.loadItem base entry) items h).congr
    ⟨rfl, rfl, rfl, rfl, fun _ => rfl⟩ ⟨rfl, rfl, rfl, rfl, fun _ => rfl⟩

theorem loadPart {α : Type} {part : Option α} {loader : Store → α → Store × List StoreEvent}
    {a b : Store × List StoreEvent}
    (hloader : ∀ {s t : Store} (given : α), s.SameButAsked t →
      (loader s given).1.SameButAsked (loader t given).1)
    (h : a.1.SameButAsked b.1) :
    (Store.loadPart part loader a).1.SameButAsked (Store.loadPart part loader b).1 := by
  unfold Store.loadPart
  split
  · exact h
  · exact hloader _ h

/-! ## 3. Questions -/

theorem rangeIndex? (s : Store) (property : String) :
    (s.rangeIndex? property).2.SameButAsked s := by
  rcases s.rangeIndex?_snd property with h | ⟨p, hp, -, -, h⟩
  · rw [h]
    exact refl s
  · rw [h]
    refine ⟨rfl, rfl, rfl, rfl, fun q => ?_⟩
    simp only [withIndex, KeyMap.get?_insert]
    split
    · next hq =>
      rw [hq, hp]
      rfl
    · rfl

theorem allProperties (s : Store) : s.allProperties.2.SameButAsked s := by
  unfold Store.allProperties
  split
  · exact refl s
  · exact ⟨rfl, rfl, rfl, rfl, fun _ => rfl⟩

end SameButAsked

end Store

namespace StoreOperation

/-- Is the operation only a question? -/
def asks : StoreOperation → Bool
  | askRanges _ | askProperties => true
  | _ => false

/-- A question changes nothing but what is kept. -/
theorem perform_asks {op : StoreOperation} (h : op.asks = true) (s : Store) :
    (op.perform s).2.SameButAsked s := by
  cases op with
  | askRanges property => exact .rangeIndex? s property
  | askProperties => exact .allProperties s
  | _ => cases h

/-- Operations on two stores that differ in what is kept lead to two such stores. -/
theorem sameButAsked {s t : Store} (h : s.SameButAsked t) (op : StoreOperation) :
    (op.perform s).2.SameButAsked (op.perform t).2 := by
  cases op with
  | load payload base =>
    simp only [perform]
    cases payload with
    | object fields =>
      exact .loadPart (fun given h => h.loadItems given base)
        (.loadPart (fun given h => h.loadProperties given base)
          (.loadPart (fun given h => h.loadTypes given base) h))
    | _ => exact h
  | loadTypes types base => exact h.loadTypes types base
  | loadProperties properties base => exact h.loadProperties properties base
  | loadItems items base => exact h.loadItems items base
  | add u => exact h.addStatement _ _ _
  | remove u => exact h.removeStatement _ _ _
  | removeObjects x p =>
    simp only [perform, Prod.map_snd, Store.removeObjects, id]
    rw [h.objectList]
    exact h.removeStatements _
  | removeSubjects x p =>
    simp only [perform, Prod.map_snd, Store.removeSubjects, id]
    rw [h.subjectList]
    exact h.removeStatements _
  | removeAll => exact h.removeAll
  | askRanges property => exact h.congr (.rangeIndex? s property) (.rangeIndex? t property)
  | askProperties => exact h.congr (.allProperties s) (.allProperties t)

end StoreOperation

/-- The run without its questions. -/
def withoutQuestions (ops : List StoreOperation) : List StoreOperation :=
  ops.filter fun op => !op.asks

/-- **Questions leave nothing but what is kept**: the run without them leads to the same store
    otherwise. -/
theorem storeAfter_withoutQuestions (ops : List StoreOperation) :
    (storeAfter ops).SameButAsked (storeAfter (withoutQuestions ops)) := by
  induction ops using List.reverseRecOn with
  | nil => exact .refl _
  | append_singleton ops op ih =>
    rw [withoutQuestions, List.filter_append, storeAfter_concat]
    cases hasks : op.asks with
    | true =>
      rw [List.filter_cons_of_neg (by simp [hasks]), List.filter_nil, List.append_nil]
      exact (op.perform_asks hasks _).trans ih
    | false =>
      rw [List.filter_cons_of_pos (by simp [hasks]), List.filter_nil, storeAfter_concat]
      exact StoreOperation.sameButAsked ih op

end Faceted
