import Faceted.Proofs.Facet.Itemwise
import Faceted.Proofs.Hierarchy.Growing
import Mathlib.Data.List.Nodup
import Mathlib.Data.List.Pairwise

/-!
# The walk that shows a tree

A tree is shown by one walk from the roots down. A value is entered when it is met for the first time,
and whatever stands below it that has not been met is walked before the walk goes on; so every value has
one place, below the first of its parents that the walk comes to.

* `HierarchyEntry.nodes`, `values`: what is shown in a subtree;
* `Drawn`: how an entry goes with a tree, and that it counts the items of the values that are shown in
  its subtree;
* `Visit`: what a part of the walk brings about; it composes along a list (`visit_showEach`);
* **`visit_node`**: walking from one value visits all that it leads to and that has not been met;
* **`displays_shownTree`**: what is shown of a tree in the end.
-/

namespace Faceted

/-! ## 1. Empty sets and sorting -/

theorem KeySet.not_mem_of_isEmpty {s : KeySet} (h : s.isEmpty = true) (k : String) : k ∉ s := by
  rw [← mem_toList, show s.toList = [] from List.isEmpty_iff.mp h]
  exact List.not_mem_nil

namespace EntryOrder

variable {α : Type}

theorem perm_insertDescending (comesBefore : α → α → Bool) (x : α) (ys : List α) :
    (insertDescending comesBefore x ys).Perm (x :: ys) := by
  induction ys with
  | nil => exact List.Perm.refl _
  | cons y ys ih =>
    unfold insertDescending
    split
    · exact (ih.cons y).trans (List.Perm.swap x y ys)
    · exact List.Perm.refl _

/-- Sorting rearranges. -/
theorem perm_sortBy (order : EntryOrder) (type : ValueType) (entry : α → Entry) (xs : List α) :
    (order.sortBy type entry xs).Perm xs := by
  unfold sortBy insertionSort
  generalize (fun a b => order.compare type (entry a) (entry b) == .lt) = comesBefore
  refine (List.reverse_perm _).trans ?_
  suffices hfold : ∀ sorted : List α,
      (xs.foldl (fun sorted x => insertDescending comesBefore x sorted) sorted).Perm (xs ++ sorted) by
    simpa using hfold []
  induction xs with
  | nil => exact fun sorted => List.Perm.refl _
  | cons x xs ih =>
    intro sorted
    refine (ih _).trans (((perm_insertDescending comesBefore x sorted).append_left xs).trans ?_)
    exact List.perm_middle

end EntryOrder

/-! ## 2. What is shown -/

namespace HierarchyEntry

/-- Does the entry stand for the items at a node only? -/
def others : HierarchyEntry → Bool
  | .node _ others _ => others

def children : HierarchyEntry → List HierarchyEntry
  | .node _ _ children => children

/-- The value whose subtree the entry stands for. -/
def value? (e : HierarchyEntry) : Option String := if e.others then none else e.entry.value

mutual

/-- The entry and all entries below it. -/
def nodes : HierarchyEntry → List HierarchyEntry
  | .node entry others children => .node entry others children :: nodesOfEach children

def nodesOfEach : List HierarchyEntry → List HierarchyEntry
  | [] => []
  | e :: rest => e.nodes ++ nodesOfEach rest

end

theorem nodesOfEach_eq (entries : List HierarchyEntry) : nodesOfEach entries = entries.flatMap nodes := by
  induction entries with
  | nil => rfl
  | cons e rest ih => rw [nodesOfEach, ih, List.flatMap_cons]

theorem nodes_eq (e : HierarchyEntry) : e.nodes = e :: e.children.flatMap nodes := by
  obtain ⟨entry, others, children⟩ := e
  rw [nodes, nodesOfEach_eq]
  rfl

/-- The values that are shown at the entry and below it. -/
def values (e : HierarchyEntry) : List String := e.nodes.filterMap value?

theorem values_eq (e : HierarchyEntry) :
    e.values = e.value?.toList ++ e.children.flatMap values := by
  unfold values
  rw [nodes_eq, List.filterMap_cons, List.filterMap_flatMap]
  cases e.value? <;> rfl

theorem value?_eq_some_iff {e : HierarchyEntry} {v : String} :
    e.value? = some v ↔ e.entry.value = some v ∧ e.others = false := by
  unfold value?
  cases e.others <;> simp

theorem mem_values_of_mem_nodes {entries : List HierarchyEntry} {n : HierarchyEntry}
    (hn : n ∈ entries.flatMap nodes) {v : String} (hv : n.value? = some v) :
    v ∈ entries.flatMap values := by
  obtain ⟨e, he, hn⟩ := List.mem_flatMap.mp hn
  exact List.mem_flatMap.mpr ⟨e, he, List.mem_filterMap.mpr ⟨n, hn, hv⟩⟩

/-- A value that is shown once is shown by one entry. -/
theorem eq_of_value?_eq {entries : List HierarchyEntry} (hnodup : (entries.flatMap values).Nodup)
    {n m : HierarchyEntry} (hn : n ∈ entries.flatMap nodes) (hm : m ∈ entries.flatMap nodes)
    {v : String} (hnv : n.value? = some v) (hmv : m.value? = some v) : n = m := by
  unfold values at hnodup
  rw [← List.filterMap_flatMap, List.Nodup, List.pairwise_filterMap] at hnodup
  by_contra hne
  have hsymm : Std.Symm fun a a' : HierarchyEntry =>
      ∀ b, a.value? = some b → ∀ b', a'.value? = some b' → b ≠ b' :=
    ⟨fun _ _ h b hb b' hb' => (h b' hb' b hb).symm⟩
  exact hnodup.forall hn hm hne v hnv v hmv rfl

end HierarchyEntry

/-! ## 3. Entries and trees -/

/-- What is entered in a relation under a value is what the value leads to. -/
theorem Relation.next_of_get? {r : Relation} {v : String} {values : KeySet} (h : r.get? v = some values) :
    r.next v = values := by
  unfold next
  rw [h]
  rfl

theorem Relation.not_mem_next_of_get? {r : Relation} {v w : String} (h : r.get? v = none) :
    w ∉ r.next v := by
  unfold next
  rw [h]
  exact KeySet.not_mem_emptySet

/-- Those of the items that hold one of the values. -/
def Hierarchy.heldBy (t : Hierarchy) (items : KeySet) (values : List String) : KeySet :=
  values.foldl (fun set v => set.union ((t.holders v).inter items)) ∅

theorem Hierarchy.mem_heldBy {t : Hierarchy} {items : KeySet} {values : List String} {x : String} :
    x ∈ t.heldBy items values ↔ x ∈ items ∧ ∃ v ∈ values, x ∈ t.holders v := by
  unfold heldBy
  rw [KeySet.mem_foldl_union, or_iff_right KeySet.not_mem_emptySet]
  simp only [KeySet.mem_inter]
  grind

/-- An entry that is drawn from a tree: others stand at the node above them, what is below a value is
    below it in the tree, and the count is that of the items of what is shown in the subtree. -/
inductive Drawn (t : Hierarchy) (items : KeySet) : HierarchyEntry → Prop where
  | others {entry : Entry} {v : String} (hvalue : entry.value = some v)
      (hcount : entry.count = ((t.holders v).inter items).size) : Drawn t items (.node entry true [])
  | node {entry : Entry} {children : List HierarchyEntry} {v : String} (hvalue : entry.value = some v)
      (hbelow : ∀ c ∈ children, ∀ w, c.value? = some w → w ∈ t.children.next v)
      (hdrawn : ∀ c ∈ children, Drawn t items c)
      (hcount : entry.count =
        (t.heldBy items (HierarchyEntry.values (.node entry false children))).size) :
      Drawn t items (.node entry false children)

namespace HierarchicalFacet

variable {f : HierarchicalFacet} {t : Hierarchy} {s : Store} {items : KeySet}

/-- A value that is selected or held by one of the items. -/
def Concerns (f : HierarchicalFacet) (t : Hierarchy) (items : KeySet) (v : String) : Prop :=
  f.isSelected (some v) false = true ∨ ∃ x ∈ items, x ∈ t.holders v

/-! ## 4. Visits -/

/-- The values that are shown by what has been found. -/
def shownBy (found : List (HierarchyEntry × KeySet)) : List String :=
  (found.map Prod.fst).flatMap HierarchyEntry.values

@[simp] theorem shownBy_append (found found' : List (HierarchyEntry × KeySet)) :
    shownBy (found ++ found') = shownBy found ++ shownBy found' := by
  unfold shownBy
  rw [List.map_append, List.flatMap_append]

/-- A part of the walk, from some values on. It meets what these lead to, unless that has been met
    before, and shows what is of concern; each entry comes with the items that it counts. -/
structure Visit (f : HierarchicalFacet) (t : Hierarchy) (items : KeySet) (sources : List String)
    (before : KeySet) (found : List (HierarchyEntry × KeySet)) (after : KeySet) : Prop where
  grows : ∀ v ∈ before, v ∈ after
  entered : ∀ v ∈ sources, v ∈ after
  closed : ∀ v ∈ after, v ∉ before → ∀ w ∈ t.children.next v, w ∈ after
  reached : ∀ v ∈ after, v ∉ before → ∃ source ∈ sources, t.children.Reaches source v
  fresh : ∀ v ∈ shownBy found, v ∈ after ∧ v ∉ before
  nodup : (shownBy found).Nodup
  concerns : ∀ v ∈ after, v ∉ before → f.Concerns t items v → v ∈ shownBy found
  drawn : ∀ b ∈ found, Drawn t items b.1
  starts : ∀ b ∈ found, ∃ v ∈ sources, b.1.value? = some v
  held : ∀ b ∈ found, b.2 = t.heldBy items b.1.values

namespace Visit

variable {sources more : List String} {before between after : KeySet}
  {found found' : List (HierarchyEntry × KeySet)} {v : String}

theorem nil (f : HierarchicalFacet) (t : Hierarchy) (items before : KeySet) :
    Visit f t items [] before [] before where
  grows _ hv := hv
  entered _ hv := by cases hv
  closed _ hv hnot := absurd hv hnot
  reached _ hv hnot := absurd hv hnot
  fresh _ hv := by cases hv
  nodup := List.nodup_nil
  concerns _ hv hnot := absurd hv hnot
  drawn _ hb := by cases hb
  starts _ hb := by cases hb
  held _ hb := by cases hb

/-- A value that has been met is passed over. -/
theorem skip (h : Visit f t items sources before found after) (hv : v ∈ before) :
    Visit f t items (v :: sources) before found after :=
  { h with
    entered := List.forall_mem_cons.mpr ⟨h.grows v hv, h.entered⟩
    reached := fun w hw hnot => by
      obtain ⟨source, hsource, hreaches⟩ := h.reached w hw hnot
      exact ⟨source, List.mem_cons_of_mem v hsource, hreaches⟩
    starts := fun b hb => by
      obtain ⟨w, hw, hvalue⟩ := h.starts b hb
      exact ⟨w, List.mem_cons_of_mem v hw, hvalue⟩ }

/-- One part after the other. -/
theorem append (h : Visit f t items sources before found between)
    (h' : Visit f t items more between found' after) :
    Visit f t items (sources ++ more) before (found ++ found') after where
  grows v hv := h'.grows v (h.grows v hv)
  entered := List.forall_mem_append.mpr ⟨fun v hv => h'.grows v (h.entered v hv), h'.entered⟩
  closed v hv hnot := by
    by_cases hbetween : v ∈ between
    · exact fun w hw => h'.grows w (h.closed v hbetween hnot w hw)
    · exact h'.closed v hv hbetween
  reached v hv hnot := by
    by_cases hbetween : v ∈ between
    · obtain ⟨source, hsource, hreaches⟩ := h.reached v hbetween hnot
      exact ⟨source, List.mem_append_left more hsource, hreaches⟩
    · obtain ⟨source, hsource, hreaches⟩ := h'.reached v hv hbetween
      exact ⟨source, List.mem_append_right sources hsource, hreaches⟩
  fresh := by
    rw [shownBy_append]
    refine List.forall_mem_append.mpr ⟨fun v hv => ?_, fun v hv => ?_⟩
    · obtain ⟨hbetween, hnot⟩ := h.fresh v hv
      exact ⟨h'.grows v hbetween, hnot⟩
    · obtain ⟨hafter, hnot⟩ := h'.fresh v hv
      exact ⟨hafter, fun hbefore => hnot (h.grows v hbefore)⟩
  nodup := by
    rw [shownBy_append]
    refine List.nodup_append.mpr ⟨h.nodup, h'.nodup, ?_⟩
    rintro v hv _ hv' rfl
    exact (h'.fresh v hv').2 (h.fresh v hv).1
  concerns v hv hnot hconcern := by
    rw [shownBy_append, List.mem_append]
    by_cases hbetween : v ∈ between
    · exact .inl (h.concerns v hbetween hnot hconcern)
    · exact .inr (h'.concerns v hv hbetween hconcern)
  drawn := List.forall_mem_append.mpr ⟨h.drawn, h'.drawn⟩
  starts := by
    refine List.forall_mem_append.mpr ⟨fun b hb => ?_, fun b hb => ?_⟩
    · obtain ⟨v, hv, hvalue⟩ := h.starts b hb
      exact ⟨v, List.mem_append_left more hv, hvalue⟩
    · obtain ⟨v, hv, hvalue⟩ := h'.starts b hb
      exact ⟨v, List.mem_append_right sources hv, hvalue⟩
  held := List.forall_mem_append.mpr ⟨h.held, h'.held⟩

end Visit

/-- The walk along a list, if each of the values is walked as long as it has not been met. -/
theorem visit_showEach {showOne : String → KeySet → Option (HierarchyEntry × KeySet) × KeySet}
    {values : List String} {shown : KeySet}
    (hone : ∀ v ∈ values, ∀ before : KeySet, (∀ w ∈ shown, w ∈ before) → v ∉ before →
      Visit f t items [v] before (showOne v (before.insert v)).1.toList
        (showOne v (before.insert v)).2) :
    Visit f t items values shown (showEach showOne values shown).1 (showEach showOne values shown).2 := by
  induction values generalizing shown with
  | nil => exact .nil f t items shown
  | cons v rest ih =>
    obtain ⟨hv, hrest⟩ := List.forall_mem_cons.mp hone
    unfold showEach
    by_cases hmet : v ∈ shown
    · rw [if_pos (KeySet.contains_iff.mpr hmet)]
      exact (ih hrest).skip hmet
    · rw [if_neg (by simpa using hmet)]
      have hfirst := hv shown (fun w hw => hw) hmet
      refine hfirst.append (ih fun w hw before hbefore => ?_)
      exact hrest w hw before fun u hu => hbefore u (hfirst.grows u hu)

/-! ## 5. One node -/

section Node

variable {v : String} {children : List String} {before after : KeySet}
  {below found : List (HierarchyEntry × KeySet)}

/-- The visit of a value is that of what it leads to, and the value itself. -/
theorem Visit.of_below (h : Visit f t items children (before.insert v) below after)
    (hnext : ∀ w, w ∈ t.children.next v ↔ w ∈ children)
    (hfound : ∀ w ∈ shownBy found, w = v ∨ w ∈ shownBy below) (hnodup : (shownBy found).Nodup)
    (hshown : ∀ w, w = v ∧ f.Concerns t items w ∨ w ∈ shownBy below → w ∈ shownBy found)
    (hnew : v ∉ before) (hdrawn : ∀ b ∈ found, Drawn t items b.1)
    (hstarts : ∀ b ∈ found, b.1.value? = some v)
    (hheld : ∀ b ∈ found, b.2 = t.heldBy items b.1.values) :
    Visit f t items [v] before found after where
  grows w hw := h.grows w (KeySet.mem_insert.mpr (.inr hw))
  entered := List.forall_mem_singleton.mpr (h.grows v (KeySet.mem_insert.mpr (.inl rfl)))
  closed w hw hnot := by
    by_cases hwv : w = v
    · subst hwv
      exact fun u hu => h.entered u ((hnext u).mp hu)
    · exact h.closed w hw (by simp [hwv, hnot])
  reached w hw hnot := by
    refine ⟨v, List.mem_singleton_self v, ?_⟩
    by_cases hwv : w = v
    · subst hwv
      exact .refl
    · obtain ⟨source, hsource, hreaches⟩ := h.reached w hw (by simp [hwv, hnot])
      exact .head ((hnext source).mpr hsource) hreaches
  fresh w hw := by
    rcases hfound w hw with rfl | hbelow
    · exact ⟨h.grows w (KeySet.mem_insert.mpr (.inl rfl)), hnew⟩
    · obtain ⟨hafter, hnot⟩ := h.fresh w hbelow
      exact ⟨hafter, fun hbefore => hnot (KeySet.mem_insert.mpr (.inr hbefore))⟩
  nodup := hnodup
  concerns w hw hnot hconcerns := by
    by_cases hwv : w = v
    · exact hshown w (.inl ⟨hwv, hconcerns⟩)
    · exact hshown w (.inr (h.concerns w hw (by simp [hwv, hnot]) hconcerns))
  drawn := hdrawn
  starts b hb := ⟨v, List.mem_singleton_self v, hstarts b hb⟩
  held := hheld

/-- A value that is of no concern and leads to nothing that is. -/
theorem Visit.nothing (h : Visit f t items children (before.insert v) [] after)
    (hnext : ∀ w, w ∈ t.children.next v ↔ w ∈ children) (hnew : v ∉ before)
    (hnone : ¬ f.Concerns t items v) : Visit f t items [v] before [] after := by
  refine h.of_below hnext (fun w hw => by cases hw) List.nodup_nil ?_ hnew (fun b hb => by cases hb)
    (fun b hb => by cases hb) (fun b hb => by cases hb)
  rintro w (⟨rfl, hconcerns⟩ | hw)
  · exact absurd hconcerns hnone
  · exact hw

/-- What has been found, in another order. -/
theorem Visit.of_perm (h : Visit f t items children before below after) {entries : List HierarchyEntry}
    (hentries : entries.Perm (below.map Prod.fst)) :
    (entries.flatMap HierarchyEntry.values).Perm (shownBy below) ∧
      (∀ c ∈ entries, ∀ w, c.value? = some w → w ∈ children) ∧ ∀ c ∈ entries, Drawn t items c := by
  refine ⟨hentries.flatMap_right _, fun c hc w hw => ?_, fun c hc => ?_⟩
  · obtain ⟨b, hb, rfl⟩ := List.mem_map.mp (hentries.mem_iff.mp hc)
    obtain ⟨u, hu, hvalue⟩ := h.starts b hb
    obtain rfl := Option.some.inj (hw.symm.trans hvalue)
    exact hu
  · obtain ⟨b, hb, rfl⟩ := List.mem_map.mp (hentries.mem_iff.mp hc)
    exact h.drawn b hb

/-- A value with an entry. -/
theorem Visit.entry (h : Visit f t items children (before.insert v) below after)
    (hnext : ∀ w, w ∈ t.children.next v ↔ w ∈ children) (hnew : v ∉ before) {entry : Entry}
    {entries : List HierarchyEntry} {held : KeySet} (hvalue : entry.value = some v)
    (hentries : (entries.flatMap HierarchyEntry.values).Perm (shownBy below))
    (hbelow : ∀ c ∈ entries, ∀ w, c.value? = some w → w ∈ children)
    (hdrawn : ∀ c ∈ entries, Drawn t items c)
    (hheld : held = t.heldBy items (v :: shownBy below)) (hcount : entry.count = held.size) :
    Visit f t items [v] before [(.node entry false entries, held)] after := by
  have hvalue? : (HierarchyEntry.node entry false entries).value? = some v := hvalue
  have hvalues : (HierarchyEntry.node entry false entries).values =
      v :: entries.flatMap HierarchyEntry.values := by
    rw [HierarchyEntry.values_eq, hvalue?]
    rfl
  have hshown : shownBy [(HierarchyEntry.node entry false entries, held)] =
      v :: entries.flatMap HierarchyEntry.values := by
    unfold shownBy
    rw [← hvalues]
    exact List.flatMap_singleton ..
  have hmem (w : String) : w ∈ v :: entries.flatMap HierarchyEntry.values ↔
      w = v ∨ w ∈ shownBy below := by
    rw [List.mem_cons, hentries.mem_iff]
  have hheld' : held = t.heldBy items (HierarchyEntry.node entry false entries).values := by
    rw [hheld, hvalues]
    refine KeySet.ext fun x => ?_
    simp only [Hierarchy.mem_heldBy, hmem, List.mem_cons]
  refine h.of_below hnext (fun w hw => ?_) ?_ (fun w hw => ?_) hnew ?_ ?_ ?_
  · rw [hshown] at hw
    exact (hmem w).mp hw
  · rw [hshown, (hentries.cons v).nodup_iff, List.nodup_cons]
    exact ⟨fun hv => (h.fresh v hv).2 (KeySet.mem_insert.mpr (.inl rfl)), h.nodup⟩
  · rw [hshown]
    exact (hmem w).mpr (hw.imp_left And.left)
  · refine List.forall_mem_singleton.mpr (.node hvalue ?_ hdrawn (hheld' ▸ hcount))
    exact fun c hc w hw => (hnext w).mpr (hbelow c hc w hw)
  · exact List.forall_mem_singleton.mpr hvalue
  · exact List.forall_mem_singleton.mpr hheld'

end Node

theorem not_concerns {v : String} (hselected : f.isSelected (some v) false = false)
    (hown : ((t.holders v).inter items).isEmpty = true) : ¬ f.Concerns t items v := by
  rintro (hsel | ⟨x, hx, hheld⟩)
  · rw [hselected] at hsel
    cases hsel
  · exact KeySet.not_mem_of_isEmpty hown x (KeySet.mem_inter.mpr ⟨hheld, hx⟩)

/-- What is found below a value and at the value itself. -/
theorem heldBy_below {v : String} {below : List (HierarchyEntry × KeySet)}
    (hheld : ∀ b ∈ below, b.2 = t.heldBy items b.1.values) :
    (below.foldl (fun (set : KeySet) b => set.union b.2) ∅).union ((t.holders v).inter items) =
      t.heldBy items (v :: shownBy below) := by
  refine KeySet.ext fun x => ?_
  rw [KeySet.mem_union, KeySet.mem_foldl_union, or_iff_right KeySet.not_mem_emptySet,
    Hierarchy.mem_heldBy, KeySet.mem_inter]
  unfold shownBy
  simp only [List.exists_mem_cons_iff, List.mem_flatMap, List.mem_map]
  constructor
  · rintro (⟨b, hb, hx⟩ | ⟨hown, hx⟩)
    · rw [hheld b hb, Hierarchy.mem_heldBy] at hx
      obtain ⟨hx, w, hw, hholds⟩ := hx
      exact ⟨hx, .inr ⟨w, ⟨b.1, ⟨b, hb, rfl⟩, hw⟩, hholds⟩⟩
    · exact ⟨hx, .inl hown⟩
  · rintro ⟨hx, hown | ⟨w, ⟨_, ⟨b, hb, rfl⟩, hw⟩, hholds⟩⟩
    · exact .inr ⟨hown, hx⟩
    · refine .inl ⟨b, hb, ?_⟩
      rw [hheld b hb]
      exact Hierarchy.mem_heldBy.mpr ⟨hx, w, hw, hholds⟩

section Walk

variable {s : Store} {depth : Nat} {v : String} {before : KeySet}

/-- A value that nothing stands below. -/
theorem visit_leaf (hget : t.children.get? v = none) (hnew : v ∉ before) :
    Visit f t items [v] before (f.node t s items (depth + 1) v (before.insert v)).1.toList
      (f.node t s items (depth + 1) v (before.insert v)).2 := by
  have hnext : ∀ w, w ∈ t.children.next v ↔ w ∈ ([] : List String) := fun w =>
    iff_of_false (Relation.not_mem_next_of_get? hget) List.not_mem_nil
  unfold node
  simp only [hget]
  split
  · refine (Visit.nil f t items _).entry hnext hnew rfl (List.Perm.refl _) (by simp) (by simp) ?_ rfl
    rw [← heldBy_below (by simp)]
    refine KeySet.ext fun x => ?_
    simp
  · next hnothing =>
    simp only [Bool.not_eq_true, Bool.or_eq_false_iff, Bool.not_eq_false'] at hnothing
    exact (Visit.nil f t items _).nothing hnext hnew (not_concerns hnothing.2 hnothing.1)

/-- A value that others stand below, which are walked first. -/
theorem visit_inner {children : KeySet} (hget : t.children.get? v = some children) (hnew : v ∉ before)
    (hbelow : Visit f t items children.toList (before.insert v)
      (showEach (f.node t s items depth) children.toList (before.insert v)).1
      (showEach (f.node t s items depth) children.toList (before.insert v)).2) :
    Visit f t items [v] before (f.node t s items (depth + 1) v (before.insert v)).1.toList
      (f.node t s items (depth + 1) v (before.insert v)).2 := by
  have hnext : ∀ w, w ∈ t.children.next v ↔ w ∈ children.toList := fun w => by
    rw [Relation.next_of_get? hget, KeySet.mem_toList]
  unfold node
  simp only [hget]
  generalize showEach (f.node t s items depth) children.toList (before.insert v) = walked at hbelow ⊢
  obtain ⟨below, after⟩ := walked
  dsimp only at hbelow ⊢
  have hsorted := f.order.perm_sortBy t.type HierarchyEntry.entry (below.map Prod.fst)
  generalize f.order.sortBy t.type HierarchyEntry.entry (below.map Prod.fst) = sorted at hsorted ⊢
  obtain ⟨hshown, hstarts, hdrawn⟩ := hbelow.of_perm hsorted
  have hheld := heldBy_below (v := v) hbelow.held
  by_cases hown : ((t.holders v).inter items).isEmpty = true
  · rw [if_pos hown]
    dsimp only
    split
    · refine hbelow.entry hnext hnew rfl hshown hstarts hdrawn ?_ rfl
      rw [← hheld]
      refine KeySet.ext fun x => ?_
      rw [KeySet.mem_union, or_iff_left (KeySet.not_mem_of_isEmpty hown x)]
    · next hnothing =>
      simp only [Bool.not_eq_true, Bool.or_eq_false_iff, Bool.not_eq_false'] at hnothing
      obtain ⟨⟨hselected, -⟩, hnone⟩ := hnothing
      obtain rfl := List.isEmpty_iff.mp hnone
      obtain rfl := List.map_eq_nil_iff.mp hsorted.symm.eq_nil
      exact hbelow.nothing hnext hnew (not_concerns hselected hown)
  · -- the items at the value itself get an entry of their own, which shows no value
    rw [if_neg hown]
    dsimp only
    have hothers : (f.othersEntry v ((t.holders v).inter items)).value? = none := rfl
    have hvalues : (f.othersEntry v ((t.holders v).inter items)).values = [] := by
      rw [HierarchyEntry.values_eq, hothers]
      rfl
    rw [if_pos (by simp)]
    refine hbelow.entry hnext hnew rfl ?_ ?_ ?_ hheld rfl
    · rw [List.flatMap_append, List.flatMap_singleton, hvalues, List.append_nil]
      exact hshown
    · refine List.forall_mem_append.mpr ⟨hstarts, List.forall_mem_singleton.mpr fun w hw => ?_⟩
      rw [hothers] at hw
      cases hw
    · exact List.forall_mem_append.mpr ⟨hdrawn, List.forall_mem_singleton.mpr (.others rfl rfl)⟩

/-- **Walking from one value visits all that it leads to** and that has not been met, if the walk may go
    deeper than there is something to find. -/
theorem visit_node (hnew : v ∉ before) (hdepth : t.children.unreached (before.insert v) < depth) :
    Visit f t items [v] before (f.node t s items depth v (before.insert v)).1.toList
      (f.node t s items depth v (before.insert v)).2 := by
  induction depth generalizing v before with
  | zero => omega
  | succ depth ih =>
    cases hget : t.children.get? v with
    | none => exact visit_leaf hget hnew
    | some children =>
      refine visit_inner hget hnew (visit_showEach fun w hw between hgrows hmet => ih hmet ?_)
      -- each value that is met leaves less to find
      have hnext : w ∈ t.children.next v := by
        rwa [Relation.next_of_get? hget, ← KeySet.mem_toList]
      have hless := Relation.unreached_insert_lt hnext hmet
      have hmono := Relation.unreached_mono (r := t.children) hgrows
      omega

end Walk

/-! ## 6. The whole walk -/

/-- **The walk from the roots** visits all that stands below them. -/
theorem visit_roots (f : HierarchicalFacet) (t : Hierarchy) (s : Store) (items : KeySet) :
    Visit f t items t.roots.toList ∅ (showEach (f.node t s items (maxDepth t)) t.roots.toList ∅).1
      (showEach (f.node t s items (maxDepth t)) t.roots.toList ∅).2 := by
  refine visit_showEach fun v _ before _ hmet => visit_node hmet ?_
  have hle := t.children.unreached_le (before.insert v)
  unfold maxDepth
  omega

/-- What is shown of a tree: the roots with what is drawn below them, and the items without value. Every
    value below a root that is of concern is shown, and no value is shown twice. -/
structure Displays (f : HierarchicalFacet) (t : Hierarchy) (items : KeySet)
    (entries : List HierarchyEntry) : Prop where
  tops : ∀ n ∈ entries, (∃ selected, n = f.missingEntry (t.missing.inter items).size selected) ∨
    Drawn t items n ∧ ∃ v ∈ t.roots, n.value? = some v
  nodup : (entries.flatMap HierarchyEntry.values).Nodup
  rooted : ∀ v ∈ entries.flatMap HierarchyEntry.values, t.IsRooted v
  concerns : ∀ v, t.IsRooted v → f.Concerns t items v → v ∈ entries.flatMap HierarchyEntry.values

/-- What starts with nothing met has met all that its values lead to. -/
theorem Visit.mem_of_reaches {sources : List String} {found : List (HierarchyEntry × KeySet)}
    {after : KeySet} (h : Visit f t items sources ∅ found after) {v w : String} (hv : v ∈ after)
    (hreaches : t.children.Reaches v w) : w ∈ after := by
  induction hreaches with
  | refl => exact hv
  | tail _ hnext ih => exact h.closed _ ih KeySet.not_mem_emptySet _ hnext

theorem Visit.displays {found : List (HierarchyEntry × KeySet)} {after : KeySet}
    {entries : List HierarchyEntry} (h : Visit f t items t.roots.toList ∅ found after)
    (hentries : entries.Perm (found.map Prod.fst)) : f.Displays t items entries where
  tops n hn := by
    obtain ⟨b, hb, rfl⟩ := List.mem_map.mp (hentries.mem_iff.mp hn)
    exact .inr ⟨h.drawn b hb, h.starts b hb⟩
  nodup := (hentries.flatMap_right _).nodup_iff.mpr h.nodup
  rooted v hv := by
    obtain ⟨hafter, hnot⟩ := h.fresh v ((hentries.flatMap_right _).mem_iff.mp hv)
    exact h.reached v hafter hnot
  concerns v hv hconcerns := by
    obtain ⟨root, hroot, hreaches⟩ := hv
    have hafter := h.mem_of_reaches (h.entered root hroot) hreaches
    exact (hentries.flatMap_right _).mem_iff.mpr (h.concerns v hafter KeySet.not_mem_emptySet hconcerns)

/-- The entry for the items without value shows no value. -/
theorem Displays.cons_missing {entries : List HierarchyEntry} (h : f.Displays t items entries)
    (selected : Bool) :
    f.Displays t items (f.missingEntry (t.missing.inter items).size selected :: entries) where
  tops := List.forall_mem_cons.mpr ⟨.inl ⟨selected, rfl⟩, h.tops⟩
  nodup := h.nodup
  rooted := h.rooted
  concerns := h.concerns

/-- **What is shown of a tree.** -/
theorem displays_shownTree (f : HierarchicalFacet) (t : Hierarchy) (s : Store) (items : KeySet) :
    f.Displays t items (f.shownTree t s items) := by
  have hdisplays := (f.visit_roots t s items).displays
    (f.order.perm_sortBy t.type HierarchyEntry.entry _)
  unfold shownTree
  dsimp only
  split
  · split
    · exact hdisplays.cons_missing _
    · exact hdisplays
  · exact hdisplays

/-- An update that succeeds shows the tree that the facet goes by, if it goes by one. -/
theorem update_displays {scene : Scene} (h : (f.update scene items).1 = .ok ()) :
    f.expression = none ∧ (f.update scene items).2.entries = [] ∨
      ∃ t, (f.getTree scene).1 = .ok (some t) ∧
        (f.getTree scene).2.Displays t items (f.update scene items).2.entries := by
  unfold update at h ⊢
  cases hget : f.getTree scene with
  | mk outcome g =>
    rw [hget] at h
    match outcome with
    | .error failure => cases h
    | .ok none => exact .inl ⟨expression_eq_none (congrArg Prod.fst hget), rfl⟩
    | .ok (some t) => exact .inr ⟨t, rfl, g.displays_shownTree t scene.store items⟩

end HierarchicalFacet

end Faceted
