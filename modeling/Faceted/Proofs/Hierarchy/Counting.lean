import Faceted.Proofs.Hierarchy.Walking
import Faceted.Proofs.Store.Run

/-!
# What a hierarchy counts

A node stands for its subtree: selecting it lets through the items of all values that it leads to. Its
count is that of the items of the values that are shown below it. A value that several values lead to is
shown below one of them only, so the others count too little.

* `mem_itemsOf`: what a selection lets through;
* `Hierarchy.Encloses`: nothing else leads to what is below a value;
* `Drawn.mem_values_of_encloses`: then all of that is shown below it, wherever it is shown;
* **`count_eq_iff`**: the count of a node is never too large, and it is right exactly if all that the node
  lets through is held by what is shown below it.
-/

namespace Faceted

namespace HierarchicalFacet

variable {f : HierarchicalFacet} {t : Hierarchy} {scene : Scene} {items : KeySet}

/-! ## 1. Selecting one node -/

theorem mem_itemsOf {n : NodeSelection} {x : String} :
    x ∈ itemsOf t n ↔
      match n.value, n.others with
      | none, _ => x ∈ t.missing
      | some v, true => x ∈ t.holders v
      | some v, false => ∃ w, t.children.Reaches v w ∧ x ∈ t.holders w := by
  obtain ⟨value, others⟩ := n
  unfold itemsOf
  cases value with
  | none => exact Iff.rfl
  | some v =>
    cases others with
    | true => exact Iff.rfl
    | false =>
      have hsubtree (w : String) : w ∈ ((t.descendants v).insert v).toList ↔ t.children.Reaches v w := by
        rw [KeySet.mem_toList, KeySet.mem_insert, Hierarchy.descendants, Relation.mem_closure_iff]
        by_cases hw : w = v
        · subst hw
          exact iff_of_true (.inl rfl) .refl
        · simp [hw]
      dsimp only
      rw [if_neg Bool.false_ne_true, KeySet.mem_foldl_union, or_iff_right KeySet.not_mem_emptySet]
      simp only [hsubtree]

/-- The facet with nothing but the node selected. -/
def withOnly (f : HierarchicalFacet) (n : NodeSelection) : HierarchicalFacet :=
  { f with selections := [n] }

/-- With one node selected the facet lets through what the node stands for. -/
theorem restrict_withOnly {g : HierarchicalFacet} {n : NodeSelection} (items : KeySet)
    (hg : ((g.withOnly n).getTree scene).1 = .ok (some t)) :
    ∃ kept, ((g.withOnly n).restrict scene items).1 = .ok kept ∧
      ∀ x, x ∈ kept ↔ x ∈ itemsOf t n ∧ x ∈ items := by
  obtain ⟨e, he, htree⟩ := exists_of_getTree hg
  rw [restrict_fst he, if_pos (show (g.withOnly n).hasRestrictions = true from rfl), htree]
  refine ⟨_, rfl, fun x => ?_⟩
  rw [KeySet.mem_foldl_union, or_iff_right KeySet.not_mem_emptySet]
  show (∃ m ∈ [n], x ∈ (itemsOf t m).inter items) ↔ _
  simp only [List.mem_singleton, exists_eq_left, KeySet.mem_inter]

end HierarchicalFacet

/-! ## 2. Enclosed values -/

/-- Whatever stands above something below the value is at the value or below it. The value itself may
    have any parents. -/
def Hierarchy.Encloses (t : Hierarchy) (v : String) : Prop :=
  ∀ w, w ≠ v → t.children.Reaches v w → ∀ u, u ∈ t.parents.next w → t.children.Reaches v u

/-- Where no value has several parents, every value encloses what is below it. -/
theorem Hierarchy.Paired.encloses {t : Hierarchy} (h : t.Paired)
    (hsingle : ∀ w u u', u ∈ t.parents.next w → u' ∈ t.parents.next w → u = u') (v : String) :
    t.Encloses v := by
  intro w hne hreaches u hu
  rcases hreaches.cases_tail with rfl | ⟨u', hreaches', hnext⟩
  · exact absurd rfl hne
  · obtain rfl := hsingle w u u' hu ((h w u').mpr hnext)
    exact hreaches'

namespace Drawn

variable {t : Hierarchy} {items : KeySet} {e n : HierarchyEntry} {v w : String}

theorem of_mem_nodes (h : Drawn t items e) (hn : n ∈ e.nodes) : Drawn t items n := by
  induction h with
  | others hvalue hcount =>
    rw [HierarchyEntry.nodes_eq] at hn
    obtain rfl := List.mem_singleton.mp hn
    exact .others hvalue hcount
  | node hvalue hbelow hdrawn hcount ih =>
    rw [HierarchyEntry.nodes_eq] at hn
    rcases List.mem_cons.mp hn with rfl | hn
    · exact .node hvalue hbelow hdrawn hcount
    · obtain ⟨c, hc, hn⟩ := List.mem_flatMap.mp hn
      exact ih c hc hn

/-- Others show no value. -/
theorem values_eq_nil (h : Drawn t items e) (hnone : e.value? = none) : e.values = [] := by
  cases h with
  | others =>
    rw [HierarchyEntry.values_eq, hnone]
    rfl
  | node hvalue => cases hnone.symm.trans hvalue

/-- A value leads to what is shown below it. -/
theorem reaches_of_mem_values (h : Drawn t items e) (hv : e.value? = some v) (hw : w ∈ e.values) :
    t.children.Reaches v w := by
  induction h generalizing v with
  | others => cases hv
  | @node entry children u hvalue hbelow hdrawn hcount ih =>
    obtain rfl : v = u := Option.some.inj (hv.symm.trans hvalue)
    rw [HierarchyEntry.values_eq, hv] at hw
    rcases List.mem_append.mp hw with hw | hw
    · obtain rfl := List.mem_singleton.mp hw
      exact .refl
    · obtain ⟨c, hc, hw⟩ := List.mem_flatMap.mp hw
      cases hcv : c.value? with
      | none =>
        rw [(hdrawn c hc).values_eq_nil hcv] at hw
        cases hw
      | some x => exact .head (hbelow c hc x hcv) (ih c hc hcv hw)

/-- Going up from something that an enclosing value leads to, one comes by that value or is still below
    it at the top. -/
theorem climbs (hpaired : t.Paired) (hencloses : t.Encloses v) (h : Drawn t items e) {u : String}
    (hu : e.value? = some u) (hw : w ∈ e.values) (hreaches : t.children.Reaches v w) :
    t.children.Reaches v u ∨ ∃ n ∈ e.nodes, n.value? = some v ∧ w ∈ n.values := by
  induction h generalizing u with
  | others => cases hu
  | @node entry children u' hvalue hbelow hdrawn hcount ih =>
    obtain rfl : u = u' := Option.some.inj (hu.symm.trans hvalue)
    rw [HierarchyEntry.values_eq, hu] at hw
    rcases List.mem_append.mp hw with hw | hw
    · obtain rfl := List.mem_singleton.mp hw
      exact .inl hreaches
    · obtain ⟨c, hc, hw⟩ := List.mem_flatMap.mp hw
      have hnodes : ∀ n ∈ c.nodes, n ∈ (HierarchyEntry.node entry false children).nodes := by
        intro n hn
        rw [HierarchyEntry.nodes_eq]
        exact List.mem_cons_of_mem _ (List.mem_flatMap.mpr ⟨c, hc, hn⟩)
      cases hcv : c.value? with
      | none =>
        rw [(hdrawn c hc).values_eq_nil hcv] at hw
        cases hw
      | some x =>
        rcases ih c hc hcv hw with hx | ⟨n, hn, hnv, hw⟩
        · by_cases hxv : x = v
          · refine .inr ⟨c, hnodes c ?_, hxv ▸ hcv, hw⟩
            rw [HierarchyEntry.nodes_eq]
            exact List.mem_cons_self
          · exact .inl (hencloses x hxv hx u ((hpaired x u).mpr (hbelow c hc x hcv)))
        · exact .inr ⟨n, hnodes n hn, hnv, hw⟩

end Drawn

namespace HierarchicalFacet

variable {f : HierarchicalFacet} {t : Hierarchy} {scene : Scene} {items : KeySet}
  {entries : List HierarchyEntry} {n : HierarchyEntry} {v w : String}

/-- Entries of a display are drawn from the tree, but for the one of the items without value. -/
theorem Displays.drawn (h : f.Displays t items entries) (hn : n ∈ entries.flatMap HierarchyEntry.nodes) :
    (∃ selected, n = f.missingEntry (t.missing.inter items).size selected) ∨ Drawn t items n := by
  obtain ⟨e, he, hn⟩ := List.mem_flatMap.mp hn
  rcases h.tops e he with ⟨selected, rfl⟩ | ⟨hdrawn, -⟩
  · rw [HierarchyEntry.nodes_eq] at hn
    exact .inl ⟨selected, List.mem_singleton.mp hn⟩
  · exact .inr (hdrawn.of_mem_nodes hn)

/-- **What an enclosed value leads to is shown below it**, wherever the walk has come to it. -/
theorem Displays.mem_values_of_encloses {s : Store} {grouping : Option Expression}
    (h : f.Displays t items entries) (hstems : t.StemsFrom s grouping)
    (hn : n ∈ entries.flatMap HierarchyEntry.nodes) (hnv : n.value? = some v)
    (hencloses : t.Encloses v) (hreaches : t.children.Reaches v w)
    (hw : w ∈ entries.flatMap HierarchyEntry.values) : w ∈ n.values := by
  obtain ⟨e, he, hwe⟩ := List.mem_flatMap.mp hw
  rcases h.tops e he with ⟨selected, rfl⟩ | ⟨hdrawn, root, hroot, heroot⟩
  · cases hwe
  · have hsame : ∀ m ∈ e.nodes, m.value? = some v → m = n := fun m hm hmv =>
      HierarchyEntry.eq_of_value?_eq h.nodup (List.mem_flatMap.mpr ⟨e, he, hm⟩) hn hmv hnv
    rcases hdrawn.climbs hstems.paired hencloses heroot hwe hreaches with htop | ⟨m, hm, hmv, hwm⟩
    · -- nothing leads to a root but the root itself
      rcases htop.cases_tail with rfl | ⟨u, -, hnext⟩
      · have hself : e ∈ e.nodes := by
          rw [HierarchyEntry.nodes_eq]
          exact List.mem_cons_self
        exact hsame e hself heroot ▸ hwe
      · exact absurd hnext (hstems.not_mem_children hroot)
    · exact hsame m hm hmv ▸ hwm

/-! ## 3. Counts -/

theorem getTree_update (f : HierarchicalFacet) (n : NodeSelection) :
    (((f.update scene items).2.withOnly n).getTree scene).1 = (f.getTree scene).1 := by
  have hupdate : ∃ entries, (f.update scene items).2 = { (f.getTree scene).2 with entries } := by
    unfold update
    cases f.getTree scene with
    | mk outcome g =>
      match outcome with
      | .error failure => exact ⟨g.entries, rfl⟩
      | .ok none => exact ⟨[], rfl⟩
      | .ok (some t) => exact ⟨g.shownTree t scene.store items, rfl⟩
  obtain ⟨entries, hupdate⟩ := hupdate
  rw [hupdate]
  exact getTree_again (.inr rfl) [n] entries

/-- An entry counts some of the items that it stands for, and all of them exactly if they are held by
    what is shown below it. -/
theorem Displays.exists_counted (h : f.Displays t items entries)
    (hn : n ∈ entries.flatMap HierarchyEntry.nodes) {kept : KeySet}
    (hkept : ∀ x, x ∈ kept ↔ x ∈ itemsOf t ⟨n.entry.value, n.others⟩ ∧ x ∈ items) :
    ∃ counted : KeySet, n.entry.count = counted.size ∧ (∀ x ∈ counted, x ∈ kept) ∧
      ((∀ x ∈ kept, x ∈ counted) ↔
        ∀ v, n.value? = some v → ∀ x ∈ kept, ∃ w ∈ n.values, x ∈ t.holders w) := by
  rcases h.drawn hn with ⟨selected, rfl⟩ | hdrawn
  · have hmissing : ∀ x, x ∈ kept ↔ x ∈ t.missing.inter items := fun x => by
      rw [hkept, mem_itemsOf, KeySet.mem_inter]
      rfl
    refine ⟨t.missing.inter items, rfl, fun x hx => (hmissing x).mpr hx, ?_⟩
    exact iff_of_true (fun x hx => (hmissing x).mp hx) fun v hv => by cases hv
  · cases hdrawn with
    | @others entry v hvalue hcount =>
      have hown : ∀ x, x ∈ kept ↔ x ∈ (t.holders v).inter items := fun x => by
        rw [hkept, mem_itemsOf, KeySet.mem_inter]
        simp only [HierarchyEntry.entry, HierarchyEntry.others, hvalue]
      refine ⟨(t.holders v).inter items, hcount, fun x hx => (hown x).mpr hx, ?_⟩
      exact iff_of_true (fun x hx => (hown x).mp hx) fun v hv => by cases hv
    | @node entry children v hvalue hbelow hdrawn hcount =>
      have hsubtree : ∀ x, x ∈ kept ↔ (∃ w, t.children.Reaches v w ∧ x ∈ t.holders w) ∧ x ∈ items :=
        fun x => by
          rw [hkept, mem_itemsOf]
          simp only [HierarchyEntry.entry, HierarchyEntry.others, hvalue]
      have hwhole : Drawn t items (.node entry false children) := .node hvalue hbelow hdrawn hcount
      refine ⟨_, hcount, fun x hx => ?_, fun hall u _ x hx => ?_, fun hall x hx => ?_⟩
      · obtain ⟨hitem, w, hw, hholds⟩ := Hierarchy.mem_heldBy.mp hx
        exact (hsubtree x).mpr ⟨⟨w, hwhole.reaches_of_mem_values hvalue hw, hholds⟩, hitem⟩
      · exact (Hierarchy.mem_heldBy.mp (hall x hx)).2
      · exact Hierarchy.mem_heldBy.mpr ⟨((hsubtree x).mp hx).2, hall v hvalue x hx⟩

/-- **A node counts what it lets through, except for what is shown elsewhere.** With the node as all that
    is selected the facet lets through at least as many items as the node counts. They are as many exactly
    if all of them are held by values that are shown at the node or below it. So it is if nothing else
    leads to what is below its value, in particular where no value has several parents. -/
theorem count_eq_iff (f : HierarchicalFacet) (scene : Scene) (items : KeySet)
    (hkeeps : (Facet.hierarchical f).KeepsTrue scene) (hok : (f.update scene items).1 = .ok ())
    {n : HierarchyEntry} (hn : n ∈ (f.update scene items).2.entries.flatMap HierarchyEntry.nodes) :
    ∃ t kept, (f.getTree scene).1 = .ok (some t) ∧
      (((f.update scene items).2.withOnly ⟨n.entry.value, n.others⟩).restrict scene items).1 = .ok kept ∧
      n.entry.count ≤ kept.size ∧
      (n.entry.count = kept.size ↔
        ∀ v, n.value? = some v → ∀ x ∈ kept, ∃ w ∈ n.values, x ∈ t.holders w) ∧
      ((∀ v, n.value? = some v → t.Encloses v) → n.entry.count = kept.size) ∧
      ((∀ w u u', u ∈ t.parents.next w → u' ∈ t.parents.next w → u = u') →
        n.entry.count = kept.size) := by
  rcases update_displays hok with ⟨-, hnone⟩ | ⟨t, ht, hdisplays⟩
  · rw [hnone] at hn
    cases hn
  obtain ⟨e, -, hbuilt⟩ := build_of_getTree hkeeps ht
  have hstems := (Hierarchy.build_tells hbuilt).1
  obtain ⟨kept, hrestrict, hkept⟩ := restrict_withOnly items
    ((getTree_update f ⟨n.entry.value, n.others⟩).trans ht)
  obtain ⟨counted, hcount, hsub, hwhole⟩ := hdisplays.exists_counted hn hkept
  have hiff : n.entry.count = kept.size ↔
      ∀ v, n.value? = some v → ∀ x ∈ kept, ∃ w ∈ n.values, x ∈ t.holders w := by
    rw [hcount, KeySet.size_eq_iff hsub, hwhole]
  have hencloses : (∀ v, n.value? = some v → t.Encloses v) → n.entry.count = kept.size := by
    refine fun hencloses => hiff.mpr fun v hv x hx => ?_
    obtain ⟨hx, hitem⟩ := (hkept x).mp hx
    obtain ⟨hvalue, hothers⟩ := HierarchyEntry.value?_eq_some_iff.mp hv
    rw [hvalue, hothers, mem_itemsOf] at hx
    obtain ⟨w, hreaches, hholds⟩ := hx
    obtain ⟨root, hroot, hrooted⟩ :=
      hdisplays.rooted v (HierarchyEntry.mem_values_of_mem_nodes hn hv)
    have hw := hdisplays.concerns w ⟨root, hroot, hrooted.trans hreaches⟩ (.inr ⟨x, hitem, hholds⟩)
    exact ⟨w, hdisplays.mem_values_of_encloses hstems hn hv (hencloses v hv) hreaches hw, hholds⟩
  refine ⟨t, kept, ht, hrestrict, ?_, hiff, hencloses, fun hsingle => ?_⟩
  · rw [hcount]
    exact KeySet.size_le hsub
  · exact hencloses fun v _ => hstems.paired.encloses hsingle v

/-- Bats are mammals that fly. -/
def bats : Scene where
  store := storeAfter [.add ⟨"vlad", "kind", "bat"⟩, .add ⟨"rex", "kind", "mammal"⟩,
    .add ⟨"bat", "parent", "flyer"⟩, .add ⟨"bat", "parent", "mammal"⟩]
  allItems := KeySet.ofList ["rex", "vlad"]

/-- What flies, with the bat below it. -/
def flyers : HierarchyEntry :=
  .node ⟨some "flyer", "flyer", 1, false⟩ false [.node ⟨some "bat", "bat", 1, false⟩ false []]

/-- The mammals, with no more than the others below them. -/
def mammals : HierarchyEntry :=
  .node ⟨some "mammal", "mammal", 1, false⟩ false [.node ⟨some "mammal", "(others)", 1, false⟩ true []]

/-- The flyers are counted in full, though the bat is not enclosed by them: it is shown there. -/
theorem count_flyers :
    (Facet.hierarchical kinds).KeepsTrue bats ∧ (kinds.update bats bats.allItems).1 = .ok () ∧
      flyers ∈ (kinds.update bats bats.allItems).2.entries.flatMap HierarchyEntry.nodes ∧
      ∃ kept, (((kinds.update bats bats.allItems).2.withOnly ⟨some "flyer", false⟩).restrict bats
          bats.allItems).1 = .ok kept ∧ kept = KeySet.ofList ["vlad"] ∧ flyers.entry.count = kept.size := by
  have hkeeps : (Facet.hierarchical kinds).KeepsTrue bats := Facet.keepsTrue_of_memo_eq_none rfl
  have hshown : (kinds.update bats bats.allItems).2.entries = [flyers, mammals] := rfl
  have hn : flyers ∈ (kinds.update bats bats.allItems).2.entries.flatMap HierarchyEntry.nodes := by
    rw [hshown]
    exact List.mem_cons_self
  obtain ⟨t, kept, ht, hrestrict, -, hiff, -, -⟩ :=
    count_eq_iff kinds bats bats.allItems hkeeps rfl hn
  have hvlad : kept = KeySet.ofList ["vlad"] := (Except.ok.inj hrestrict).symm
  refine ⟨hkeeps, rfl, hn, kept, hrestrict, hvlad, hiff.mpr fun v _ x hx => ?_⟩
  obtain rfl := Option.some.inj (Except.ok.inj ht)
  obtain rfl : x = "vlad" := by simpa [hvlad] using hx
  exact ⟨"bat", by decide, by decide +kernel⟩

/-- **A value with several parents is missed in the count of one of them.** The mammals let through both
    animals and count one of them, since the bat is shown below the flyers. -/
theorem count_mammals :
    mammals ∈ (kinds.update bats bats.allItems).2.entries.flatMap HierarchyEntry.nodes ∧
      (((kinds.update bats bats.allItems).2.withOnly ⟨mammals.entry.value, mammals.others⟩).restrict bats
          bats.allItems).1 = .ok (KeySet.ofList ["rex", "vlad"]) ∧
      mammals.entry.count = 1 ∧ (KeySet.ofList ["rex", "vlad"]).size = 2 := by
  have hshown : (kinds.update bats bats.allItems).2.entries = [flyers, mammals] := rfl
  refine ⟨?_, rfl, rfl, rfl⟩
  rw [hshown]
  exact List.mem_flatMap.mpr ⟨mammals, by simp, List.mem_cons_self⟩

end HierarchicalFacet

end Faceted
