import Faceted.Proofs.Expression.Converse
import Faceted.Proofs.KeySet.Sizes
import Faceted.Proofs.Store.Run

/-!
# Sets, unions and counts

What is listed under a pair of texts can be asked for as a set, beside what a set holds already and of
what passes a filter; the same for several first texts together; and either can be counted instead. The
counts go ways of their own: one takes the length of a list, the other visits lists one after the other
and remembers what it has visited. They come to the size of the set because nothing is listed twice.

* `Index.visit_eq`: visiting collects, so `Index.countUnion_eq`;
* `Index.Lists.countListed_eq`: a list is as long as its set is large;
* `Lookups.Agree`: the laws between the four questions in one direction of a store, and what they are
  told by; `Refines.agree_objects` and `Refines.agree_subjects` are the two directions;
* **`lookups_of_run`**: they hold after any run.
-/

namespace Faceted

/-! ## 1. Visiting and counting -/

namespace Index

variable {index : Index} {x y : String} {filter : Option KeySet}

/-- Visiting texts collects those that pass. -/
theorem visit_eq (filter : Option KeySet) (visited : KeySet) (zs : List String) :
    visit filter visited zs = visited.insertMany (zs.filter (KeySet.passes filter)) := by
  induction zs generalizing visited with
  | nil => rfl
  | cons z zs ih =>
    show visit filter (if KeySet.passes filter z then visited.insert z else visited) zs = _
    rw [ih]
    cases hz : KeySet.passes filter z with
    | true => rw [List.filter_cons_of_pos hz]; rfl
    | false => rw [List.filter_cons_of_neg (by simp [hz])]; rfl

/-- What is visited list by list is the union of the lists. -/
theorem countUnion_eq (index : Index) (xs : KeySet) (y : String) (filter : Option KeySet) :
    index.countUnion xs y filter = (index.collectUnion xs y ∅ filter).size := by
  unfold countUnion collectUnion
  simp only [visit_eq]
  rfl

/-- The union of one list is that list. -/
theorem collectUnion_single (index : Index) (x y : String) (into : KeySet)
    (filter : Option KeySet) :
    index.collectUnion (KeySet.ofList [x]) y into filter = index.collect x y into filter :=
  rfl

theorem Lists.nodup_listed {l : Ledger} (h : index.Lists l) (hl : l.Nodup) (x y : String) :
    (index.listed x y).Nodup := by
  rw [h.listed]
  exact Ledger.objects_nodup hl x y

/-- Nothing is listed twice, so a list need not be visited to be counted. -/
theorem Lists.countListed_eq {l : Ledger} (h : index.Lists l) (hl : l.Nodup) (x y : String)
    (filter : Option KeySet) :
    index.countListed x y filter = (index.collect x y ∅ filter).size := by
  refine (KeySet.size_eq_length ((h.nodup_listed hl x y).filter _) fun z => ?_).symm
  rw [mem_collect, List.mem_filter]
  simp

end Index

/-! ## 2. The laws -/

/-- What can be asked of one direction of a store. -/
structure Lookups where
  /-- What is listed under a text and a property, added to a set, of what passes a filter. -/
  listed : String → String → KeySet → Option KeySet → KeySet
  /-- The same for any of several texts. -/
  union : KeySet → String → KeySet → Option KeySet → KeySet
  count : String → String → Option KeySet → Nat
  countUnion : KeySet → String → Option KeySet → Nat

namespace Store

/-- The questions for objects. -/
def objectLookups (s : Store) : Lookups :=
  ⟨s.objects, s.objectsUnion, s.countObjects, s.countObjectsUnion⟩

/-- The questions for subjects. -/
def subjectLookups (s : Store) : Lookups :=
  ⟨s.subjects, s.subjectsUnion, s.countSubjects, s.countSubjectsUnion⟩

end Store

/-- **The questions agree** on which texts `related` relates, under which property. -/
structure Lookups.Agree (q : Lookups) (related : String → String → String → Prop) : Prop where
  /-- What is related is found beside what the set holds, if it passes. -/
  mem_listed : ∀ x p into filter z, z ∈ q.listed x p into filter ↔
    z ∈ into ∨ KeySet.passes filter z = true ∧ related x p z
  /-- A union adds what passes of what is found for any of the texts. -/
  mem_union : ∀ xs p into filter z, z ∈ q.union xs p into filter ↔
    z ∈ into ∨ KeySet.passes filter z = true ∧ ∃ x ∈ xs, z ∈ q.listed x p ∅ none
  /-- The union is counted. -/
  countUnion_eq : ∀ xs p filter, q.countUnion xs p filter = (q.union xs p ∅ filter).size
  /-- What is found for one text is counted. -/
  count_eq : ∀ x p filter, q.count x p filter = (q.listed x p ∅ filter).size
  /-- One text counts as a set of one. -/
  count_single : ∀ x p filter, q.count x p filter = q.countUnion (KeySet.ofList [x]) p filter

namespace Lookups.Agree

variable {q : Lookups} {related : String → String → String → Prop}

/-- Without a set to add to and a filter, what is related is found. -/
theorem mem_listed_iff (h : q.Agree related) (x p z : String) :
    z ∈ q.listed x p ∅ none ↔ related x p z := by
  rw [h.mem_listed]
  simp

theorem mem_union_iff (h : q.Agree related) (xs : KeySet) (p z : String) :
    z ∈ q.union xs p ∅ none ↔ ∃ x ∈ xs, related x p z := by
  rw [h.mem_union]
  simp only [KeySet.not_mem_emptySet, false_or, KeySet.passes_none, true_and, h.mem_listed_iff]

end Lookups.Agree

/-- The questions to an index agree on what the statements of its list say. -/
theorem Index.Lists.agree {index : Index} {l : Ledger} (h : index.Lists l) (hl : l.Nodup) :
    Lookups.Agree ⟨index.collect, index.collectUnion, index.countListed, index.countUnion⟩
      fun x p z => ⟨x, p, z⟩ ∈ l where
  mem_listed x p into filter z := by
    rw [mem_collect, h.listed, Ledger.mem_objects, and_comm]
  mem_union xs p into filter z := by
    rw [mem_collectUnion]
    simp only [mem_collect, KeySet.not_mem_emptySet, false_or, KeySet.passes_none, and_true]
    refine or_congr_right ⟨?_, ?_⟩
    · rintro ⟨x, hx, hz, hpasses⟩
      exact ⟨hpasses, x, hx, hz⟩
    · rintro ⟨hpasses, x, hx, hz⟩
      exact ⟨x, hx, hz, hpasses⟩
  countUnion_eq := index.countUnion_eq
  count_eq := h.countListed_eq hl
  count_single x p filter := by
    show index.countListed x p filter = index.countUnion (KeySet.ofList [x]) p filter
    rw [index.countUnion_eq, collectUnion_single, h.countListed_eq hl]

namespace Store.Refines

variable {s : Store} {l : Ledger}

theorem agree_objects (h : s.Refines l) : s.objectLookups.Agree fun x p z => ⟨x, p, z⟩ ∈ l :=
  h.forward.agree h.nodup

theorem agree_subjects (h : s.Refines l) : s.subjectLookups.Agree fun x p z => ⟨z, p, x⟩ ∈ l := by
  have hflipped := h.backward.agree (h.nodup.map Statement.flipped_injective)
  have hmem (x p z : String) : ⟨x, p, z⟩ ∈ l.map Statement.flipped ↔ ⟨z, p, x⟩ ∈ l :=
    List.mem_map_of_injective Statement.flipped_injective (a := ⟨z, p, x⟩)
  simp only [hmem] at hflipped
  exact hflipped

end Store.Refines

/-! ## 3. Runs -/

/-- **Sets, unions and counts agree after any run**, for objects and for subjects, each told by the
    statements of the run; and the two directions meet: a text is in the union of the objects of some
    subjects exactly if its own subjects meet them, and the other way about. -/
theorem lookups_of_run (ops : List StoreOperation) :
    (storeAfter ops).objectLookups.Agree (fun x p z => ⟨x, p, z⟩ ∈ ledgerOf ops) ∧
      (storeAfter ops).subjectLookups.Agree (fun x p z => ⟨z, p, x⟩ ∈ ledgerOf ops) ∧
      (∀ xs p z, z ∈ (storeAfter ops).objectsUnion xs p ∅ none ↔
        ∃ x ∈ xs, x ∈ (storeAfter ops).subjects z p ∅ none) ∧
      ∀ zs p x, x ∈ (storeAfter ops).subjectsUnion zs p ∅ none ↔
        ∃ z ∈ zs, z ∈ (storeAfter ops).objects x p ∅ none := by
  have hobjects := (storeAfter_refines ops).agree_objects
  have hsubjects := (storeAfter_refines ops).agree_subjects
  refine ⟨hobjects, hsubjects, fun xs p z => ?_, fun zs p x => ?_⟩
  · exact (hobjects.mem_union_iff xs p z).trans
      (exists_congr fun x => and_congr_right fun _ => (hsubjects.mem_listed_iff z p x).symm)
  · exact (hsubjects.mem_union_iff zs p x).trans
      (exists_congr fun z => and_congr_right fun _ => (hobjects.mem_listed_iff x p z).symm)

end Faceted
