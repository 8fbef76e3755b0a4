import Faceted.Store.Loading
import Mathlib.Data.List.Nodup

/-!
# The store as a list of statements

The two indexes of a store say the same thing twice. What they say is one list of statements without
repetitions, in the order of arrival:

* `Ledger` is that list, `Ledger.add` and `List.filter` are all that ever happens to it;
* `Index.Lists` ties one index to a list; the backward index lists the statements read from object to
  subject (`Statement.flipped`), so every fact is proved for one index only;
* `Store.Refines` ties a store to its ledger; `Refines.enter` and `Refines.removeStatement` say what the
  two elementary changes of a store do to it.
-/

namespace Faceted

/-! ## 1. Statements and ledgers -/

structure Statement where
  subject : String
  property : String
  object : String
  deriving DecidableEq

/-- The statement read from its object. -/
def Statement.flipped (t : Statement) : Statement := ⟨t.object, t.property, t.subject⟩

@[simp] theorem Statement.flipped_flipped (t : Statement) : t.flipped.flipped = t := rfl

theorem Statement.flipped_injective : Function.Injective Statement.flipped := fun a b h => by
  rw [← a.flipped_flipped, ← b.flipped_flipped, h]

/-- Statements in the order of their arrival. -/
abbrev Ledger := List Statement

namespace Ledger

/-- Appends a statement, unless it is there. -/
def add (l : Ledger) (t : Statement) : Ledger := if t ∈ l then l else l ++ [t]

/-- Appends those of the statements that are not there, in their order. -/
def addAll (l : Ledger) (ts : List Statement) : Ledger := ts.foldl add l

/-- The objects of a subject and a property, in the order of arrival. -/
def objects (l : Ledger) (subject property : String) : List String :=
  (l.filter fun t => t.subject == subject && t.property == property).map Statement.object

/-- The subjects of an object and a property, in the order of arrival. -/
def subjects (l : Ledger) (object property : String) : List String :=
  (l.filter fun t => t.object == object && t.property == property).map Statement.subject

/-- The properties of which the text is a subject, in ascending order. -/
def forwardProperties (l : Ledger) (subject : String) : List String :=
  (KeySet.ofList ((l.filter fun t => t.subject == subject).map Statement.property)).toList

/-- The properties of which the text is an object, in ascending order. -/
def backwardProperties (l : Ledger) (object : String) : List String :=
  (KeySet.ofList ((l.filter fun t => t.object == object).map Statement.property)).toList

theorem mem_objects {l : Ledger} {x p z : String} : z ∈ l.objects x p ↔ ⟨x, p, z⟩ ∈ l := by
  simp only [objects, List.mem_map, List.mem_filter, Bool.and_eq_true, beq_iff_eq]
  constructor
  · rintro ⟨t, ⟨ht, rfl, rfl⟩, rfl⟩
    exact ht
  · intro h
    exact ⟨_, ⟨h, rfl, rfl⟩, rfl⟩

theorem subjects_eq_objects (l : Ledger) (x p : String) :
    l.subjects x p = Ledger.objects (l.map Statement.flipped) x p := by
  simp only [subjects, objects, List.filter_map, List.map_map]
  rfl

theorem backwardProperties_eq_forwardProperties (l : Ledger) (x : String) :
    l.backwardProperties x = Ledger.forwardProperties (l.map Statement.flipped) x := by
  simp only [backwardProperties, forwardProperties, List.filter_map, List.map_map]
  rfl

theorem mem_subjects {l : Ledger} {x p z : String} : z ∈ l.subjects x p ↔ ⟨z, p, x⟩ ∈ l := by
  rw [subjects_eq_objects, mem_objects, ← Statement.flipped_flipped ⟨x, p, z⟩,
    List.mem_map_of_injective Statement.flipped_injective]
  rfl

theorem objects_nodup {l : Ledger} (h : l.Nodup) (x p : String) : (l.objects x p).Nodup := by
  refine List.Nodup.map_on (fun a ha b hb e => ?_) (h.filter _)
  simp only [List.mem_filter, Bool.and_eq_true, beq_iff_eq] at ha hb
  obtain ⟨_, _, _⟩ := a
  obtain ⟨_, _, _⟩ := b
  simp_all

theorem nodup_add {l : Ledger} (h : l.Nodup) (t : Statement) : (l.add t).Nodup := by
  unfold add
  split
  · exact h
  · next ht =>
    rw [← List.concat_eq_append]
    exact h.concat ht

theorem map_flipped_add (l : Ledger) (t : Statement) :
    (l.add t).map Statement.flipped = Ledger.add (l.map Statement.flipped) t.flipped := by
  simp only [add, List.mem_map_of_injective Statement.flipped_injective]
  split
  · rfl
  · simp

/-- What an added statement does to the objects of every pair. -/
theorem objects_add (l : Ledger) (t : Statement) (x p : String) :
    (l.add t).objects x p =
      if x = t.subject ∧ p = t.property ∧ ¬ t.object ∈ l.objects t.subject t.property then
        l.objects t.subject t.property ++ [t.object]
      else l.objects x p := by
  simp only [add, mem_objects]
  by_cases ht : t ∈ l
  · simp [ht]
  · simp only [ht, if_false, not_false_eq_true, and_true]
    by_cases h : x = t.subject ∧ p = t.property
    · obtain ⟨rfl, rfl⟩ := h
      simp [objects]
    · have : (t.subject == x && t.property == p) = false := by
        simp only [Bool.and_eq_false_iff, beq_eq_false_iff_ne]
        by_contra hne
        simp only [not_or, not_not] at hne
        exact h ⟨hne.1.symm, hne.2.symm⟩
      simp [objects, h, this]

/-- Dropping one statement drops one object. -/
theorem objects_erase {l : Ledger} (hl : l.Nodup) (t : Statement) (x p : String) :
    Ledger.objects (l.filter (· != t)) x p =
      if x = t.subject ∧ p = t.property then (l.objects x p).erase t.object else l.objects x p := by
  by_cases h : x = t.subject ∧ p = t.property
  · rw [if_pos h, (objects_nodup hl x p).erase_eq_filter]
    obtain ⟨rfl, rfl⟩ := h
    simp only [objects, List.filter_map, List.filter_filter]
    congr 1
    refine List.filter_congr fun a _ => ?_
    obtain ⟨s, q, o⟩ := a
    obtain ⟨s', q', o'⟩ := t
    rw [Bool.eq_iff_iff]
    simp only [Bool.and_eq_true, beq_iff_eq, bne_iff_ne, Function.comp_apply, ne_eq,
      Statement.mk.injEq, not_and]
    constructor
    · rintro ⟨⟨hs, hq⟩, ho⟩
      exact ⟨ho hs hq, hs, hq⟩
    · rintro ⟨ho, hs, hq⟩
      exact ⟨⟨hs, hq⟩, fun _ _ => ho⟩
  · rw [if_neg h]
    simp only [objects, List.filter_filter]
    congr 1
    refine List.filter_congr fun a _ => ?_
    by_cases ha : a = t
    · subst ha
      simp only [not_and] at h
      by_cases hx : a.subject = x
      · simp [hx, Ne.symm (h hx.symm)]
      · simp [hx]
    · simp [bne, ha]

/-- One of several statements is there iff the first one is or one of the others. -/
theorem any_mem_cons (l : Ledger) (t : Statement) (ts : List Statement) :
    l.any (· ∈ t :: ts) = (decide (t ∈ l) || (l.filter (· != t)).any (· ∈ ts)) := by
  rw [Bool.eq_iff_iff]
  simp only [Bool.or_eq_true, decide_eq_true_eq, List.any_eq_true, List.mem_filter, bne_iff_ne,
    List.mem_cons]
  constructor
  · rintro ⟨a, ha, rfl | hts⟩
    · exact .inl ha
    · by_cases e : a = t
      · exact .inl (e ▸ ha)
      · exact .inr ⟨a, ⟨ha, e⟩, hts⟩
  · rintro (ht | ⟨a, ⟨ha, _⟩, hts⟩)
    · exact ⟨t, ht, .inl rfl⟩
    · exact ⟨a, ha, .inr hts⟩

end Ledger

/-! ## 2. One index -/

namespace Index

/-- Whatever the index mentions it also lists: no level of it is empty. -/
def Tight (index : Index) : Prop :=
  ∀ x inner, index.get? x = some inner →
    inner.isEmpty = false ∧ ∀ y zs, inner.get? y = some zs → zs ≠ []

/-- The index lists exactly the statements, by subject and property and in their order. -/
structure Lists (index : Index) (l : Ledger) : Prop where
  listed : ∀ x y, index.listed x y = l.objects x y
  tight : index.Tight

theorem lists_empty : Lists ∅ [] where
  listed _ _ := rfl
  tight _ _ h := nomatch h

theorem isEmpty_of_get? {α : Type} {m : KeyMap α} {k : String} {v : α} (h : m.get? k = some v) :
    m.isEmpty = false := by
  cases he : m.isEmpty with
  | false => rfl
  | true => rw [get?_of_isEmpty he] at h; cases h

/-- A pair is mentioned iff something is listed under it. -/
theorem mem_secondKeys {index : Index} (h : index.Tight) {x y : String} :
    y ∈ index.secondKeys x ↔ index.listed x y ≠ [] := by
  unfold secondKeys listed
  cases hx : index.get? x with
  | none => simp
  | some inner =>
    rw [KeyMap.mem_keys_iff]
    cases hy : inner.get? y with
    | none => simp [hy]
    | some zs => simpa [hy] using (h x inner hx).2 y zs hy

theorem secondKeys_ascending (index : Index) (x : String) :
    (index.secondKeys x).Pairwise (· < ·) := by
  unfold secondKeys
  cases index.get? x with
  | none => exact List.Pairwise.nil
  | some inner => exact inner.keys_ascending

theorem Tight.put {index : Index} (h : index.Tight) (x y z : String) : (index.put x y z).Tight := by
  unfold Index.put
  dsimp only
  split
  · exact h
  · intro a inner ha
    rw [KeyMap.get?_insert] at ha
    split at ha
    · obtain rfl := Option.some.inj ha
      have hy : (((index.get? x).getD ∅).insert y (index.listed x y ++ [z])).get? y =
          some (index.listed x y ++ [z]) := by simp
      refine ⟨isEmpty_of_get? hy, fun b zs hb => ?_⟩
      rw [KeyMap.get?_insert] at hb
      split at hb
      · obtain rfl := Option.some.inj hb
        simp
      · -- what was listed beside the new pair was listed before
        cases hx : index.get? x with
        | none => rw [hx] at hb; cases hb
        | some old => exact (h x old hx).2 b zs (by simpa [hx] using hb)
    · exact h a inner ha

theorem Tight.remove {index : Index} (h : index.Tight) (x y z : String) :
    (index.remove x y z).Tight := by
  unfold Index.remove
  cases hx : index.get? x with
  | none => exact h
  | some old =>
    dsimp only
    split
    · have hkept : ∀ left : List String, (if left.isEmpty then none else some left) ≠ some [] := by
        intro left
        cases left <;> simp
      generalize hk : (if (((old.get? y).getD []).erase z).isEmpty then none
        else some (((old.get? y).getD []).erase z)) = kept
      have hne : kept ≠ some [] := hk ▸ hkept _
      intro a inner ha
      rw [KeyMap.get?_set] at ha
      split at ha
      · split at ha
        · cases ha
        · next hfull =>
          obtain rfl := Option.some.inj ha
          refine ⟨by simpa using hfull, fun b zs hb => ?_⟩
          rw [KeyMap.get?_set] at hb
          split at hb
          · rintro rfl
            exact hne hb
          · exact (h x old hx).2 b zs hb
      · exact h a inner ha
    · exact h

theorem Lists.put {index : Index} {l : Ledger} (h : Lists index l) (t : Statement) :
    Lists (index.put t.subject t.property t.object) (l.add t) where
  listed x y := by
    rw [listed_put, Ledger.objects_add, h.listed, h.listed]
  tight := h.tight.put _ _ _

theorem Lists.remove {index : Index} {l : Ledger} (h : Lists index l) (hl : l.Nodup)
    (t : Statement) :
    Lists (index.remove t.subject t.property t.object) (l.filter (· != t)) where
  listed x y := by
    rw [listed_remove, Ledger.objects_erase hl, h.listed, h.listed]
    by_cases hxy : x = t.subject ∧ y = t.property
    · simp [hxy]
    · simp [hxy]
  tight := h.tight.remove _ _ _

theorem Lists.secondKeys {index : Index} {l : Ledger} (h : Lists index l) (x : String) :
    index.secondKeys x = l.forwardProperties x := by
  refine eq_of_mem_iff (index.secondKeys_ascending x) (KeySet.ascending _) fun y => ?_
  have hne : ∀ zs : List String, zs ≠ [] ↔ ∃ z, z ∈ zs := fun zs =>
    ⟨List.exists_mem_of_ne_nil zs, fun ⟨_, hz⟩ => List.ne_nil_of_mem hz⟩
  rw [mem_secondKeys h.tight, h.listed, hne]
  show _ ↔ y ∈ KeySet.ofList _
  simp only [Ledger.mem_objects, KeySet.mem_ofList, List.mem_map, List.mem_filter, beq_iff_eq]
  constructor
  · rintro ⟨z, hz⟩
    exact ⟨_, ⟨hz, rfl⟩, rfl⟩
  · rintro ⟨t, ⟨ht, rfl⟩, rfl⟩
    exact ⟨t.object, ht⟩

end Index

/-! ## 3. Stores -/

namespace Store

/-- **A store refines a ledger**: both indexes list its statements, one of them from behind. -/
structure Refines (s : Store) (l : Ledger) : Prop where
  nodup : l.Nodup
  forward : s.forward.Lists l
  backward : s.backward.Lists (l.map Statement.flipped)

namespace Refines

variable {s : Store} {l : Ledger}

theorem empty : Store.empty.Refines [] where
  nodup := List.nodup_nil
  forward := Index.lists_empty
  backward := Index.lists_empty

/-- Only the indexes of a store say anything about statements. -/
theorem congr {t : Store} (h : s.Refines l) (hf : t.forward = s.forward)
    (hb : t.backward = s.backward) : t.Refines l where
  nodup := h.nodup
  forward := hf ▸ h.forward
  backward := hb ▸ h.backward

theorem objectList (h : s.Refines l) (x p : String) : s.objectList x p = l.objects x p :=
  h.forward.listed x p

theorem subjectList (h : s.Refines l) (x p : String) : s.subjectList x p = l.subjects x p := by
  rw [Ledger.subjects_eq_objects]
  exact h.backward.listed x p

theorem forwardProperties (h : s.Refines l) (x : String) :
    s.forwardProperties x = l.forwardProperties x :=
  h.forward.secondKeys x

theorem backwardProperties (h : s.Refines l) (x : String) :
    s.backwardProperties x = l.backwardProperties x := by
  rw [Ledger.backwardProperties_eq_forwardProperties]
  exact h.backward.secondKeys x

/-- **The mirror**: what is an object of a subject has it as a subject. -/
theorem mem_objectList_iff (h : s.Refines l) {x p z : String} :
    z ∈ s.objectList x p ↔ x ∈ s.subjectList z p := by
  rw [h.objectList, h.subjectList, Ledger.mem_objects, Ledger.mem_subjects]

theorem invalidate (h : s.Refines l) (p : String) : (s.invalidate p).Refines l := h.congr rfl rfl

theorem ensureProperty (h : s.Refines l) (p base : String) : (s.ensureProperty p base).Refines l := by
  unfold Store.ensureProperty
  split
  · exact h
  · exact h.congr rfl rfl

theorem ensureType (h : s.Refines l) (t base : String) : (s.ensureType t base).Refines l := by
  unfold Store.ensureType
  split
  · exact h
  · exact h.congr rfl rfl

theorem enter (h : s.Refines l) (t : Statement) :
    (s.enter t.subject t.property t.object).Refines (l.add t) where
  nodup := Ledger.nodup_add h.nodup t
  forward := h.forward.put t
  backward := by
    rw [Ledger.map_flipped_add]
    exact h.backward.put t.flipped

theorem holds_iff (h : s.Refines l) (t : Statement) :
    s.holds t.subject t.property t.object = true ↔ t ∈ l := by
  simp only [holds, Bool.or_eq_true, decide_eq_true_eq]
  rw [← h.mem_objectList_iff, or_self, h.objectList, Ledger.mem_objects]

/-- Removing a statement removes nothing else, and says whether it was there. -/
theorem removeStatement (h : s.Refines l) (t : Statement) :
    (s.removeStatement t.subject t.property t.object).1 = decide (t ∈ l) ∧
      (s.removeStatement t.subject t.property t.object).2.Refines (l.filter (· != t)) := by
  unfold Store.removeStatement
  by_cases ht : t ∈ l
  · rw [if_pos ((h.holds_iff t).mpr ht)]
    refine ⟨by simp [ht], Refines.invalidate ⟨h.nodup.filter _, h.forward.remove h.nodup t, ?_⟩ _⟩
    have hback := h.backward.remove (h.nodup.map Statement.flipped_injective) t.flipped
    rw [List.filter_map] at hback
    refine cast (congrArg _ (congrArg _ (List.filter_congr fun a _ => ?_))) hback
    rw [Bool.eq_iff_iff]
    simp [Statement.flipped_injective.eq_iff]
  · rw [if_neg (mt (h.holds_iff t).mp ht)]
    refine ⟨by simp [ht], ?_⟩
    rw [List.filter_eq_self.mpr fun a ha => bne_iff_ne.mpr fun (e : a = t) => ht (e ▸ ha)]
    exact h

/-- Removing several statements one after the other. `removed` is what has been answered so far. -/
theorem foldl_removeStatement (ts : List Statement) :
    ∀ {s : Store} {l : Ledger} (removed : Bool), s.Refines l →
      let r := (ts.map fun t => (t.subject, t.property, t.object)).foldl
        (fun (removed, s) (subject, property, object) =>
          let (here, s) := s.removeStatement subject property object
          (removed || here, s))
        (removed, s)
      r.1 = (removed || l.any (· ∈ ts)) ∧ r.2.Refines (l.filter (· ∉ ts)) := by
  induction ts with
  | nil =>
    intro s l removed h
    simpa using h
  | cons t ts ih =>
    intro s l removed h
    obtain ⟨hanswer, hstore⟩ := h.removeStatement t
    obtain ⟨hanswers, hstores⟩ := ih (removed || decide (t ∈ l)) hstore
    simp only [List.map_cons, List.foldl_cons]
    rw [← hanswer] at hanswers hstores
    refine ⟨hanswers.trans ?_, cast (congrArg _ ?_) hstores⟩
    · rw [hanswer, Bool.or_assoc, ← Ledger.any_mem_cons]
    · rw [List.filter_filter]
      refine List.filter_congr fun a _ => ?_
      by_cases ha : a = t <;> simp [ha]

theorem removeStatements (h : s.Refines l) (ts : List Statement) :
    (s.removeStatements (ts.map fun t => (t.subject, t.property, t.object))).1 =
        l.any (· ∈ ts) ∧
      (s.removeStatements (ts.map fun t => (t.subject, t.property, t.object))).2.Refines
        (l.filter (· ∉ ts)) :=
  foldl_removeStatement ts false h

end Refines

end Store

end Faceted
