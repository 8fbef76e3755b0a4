import Faceted.Proofs.Hierarchy.Looking
import Faceted.Proofs.Hierarchy.Visible

/-!
# Showing every value once

A tree is shown by a recursion that has nothing to go by but the values that have been met: children are
called for only if they are new. Here the recursion has no limit to its depth, so that to have an end is
something to be proved.

* `HierarchicalFacet.draw`: what a call makes of what is found below its value;
* `Calls`: the recursion along a list of values, with the values that it is called for;
* **`calls_showEach`**: deep enough, what is shown within a limit is what the recursion shows;
* `CallsRoots`: the recursion from the roots, which does not ask whether these are new;
* **`building_and_showing_end`**: over every store, a hierarchy whose grouping is a path is built and
  shown in finitely many steps, which look up each known value once and show each value at most once.
-/

namespace Faceted

open Faceted.Expression

namespace HierarchicalFacet

variable {f : HierarchicalFacet} {t : Hierarchy} {s : Store} {items before between after : KeySet}
  {values calls : List String} {found : List (HierarchyEntry × KeySet)} {depth : Nat} {v w : String}

/-! ## 1. One call -/

/-- What the call for a value makes of what has been found below it. -/
def draw (f : HierarchicalFacet) (t : Hierarchy) (s : Store) (items : KeySet) (value : String)
    (below : List (HierarchyEntry × KeySet)) : Option (HierarchyEntry × KeySet) :=
  let selected := f.isSelected (some value) false
  let own := (t.holders value).inter items
  let entry (count : Nat) : Entry := ⟨some value, valueLabel s value t.type, count, selected⟩
  match t.children.get? value with
  | none => if !own.isEmpty || selected then some (.node (entry own.size) false [], own) else none
  | some _ =>
    let sorted := f.order.sortBy t.type HierarchyEntry.entry (below.map Prod.fst)
    let held := below.foldl (fun set b => set.union b.2) ∅
    let (entries, held) :=
      if own.isEmpty then (sorted, held) else (sorted ++ [f.othersEntry value own], held.union own)
    if selected || !held.isEmpty || !entries.isEmpty then
      some (.node (entry held.size) false entries, held)
    else none

/-- A call shows what is below the value, and then the value. -/
theorem node_succ (f : HierarchicalFacet) (t : Hierarchy) (s : Store) (items : KeySet) (depth : Nat)
    (v : String) (shown : KeySet) :
    f.node t s items (depth + 1) v shown =
      (f.draw t s items v
        (showEach (f.node t s items depth) (t.children.next v).toList shown).1,
        (showEach (f.node t s items depth) (t.children.next v).toList shown).2) := by
  cases hget : t.children.get? v with
  | none =>
    have hnext : (t.children.next v).toList = [] := by
      unfold Relation.next
      rw [hget]
      rfl
    unfold node draw
    simp only [hget, hnext, showEach]
    split <;> rfl
  | some children =>
    rw [Relation.next_of_get? hget]
    unfold node draw
    simp only [hget]
    generalize showEach (f.node t s items depth) children.toList shown = walked
    obtain ⟨below, after⟩ := walked
    dsimp only
    split <;> split <;> rfl

/-! ## 2. The recursion -/

/-- The recursion along a list of values, with what is met before and after: it finds the entries, each
    with its items, and is called for the values `calls`, in this order. -/
inductive Calls (f : HierarchicalFacet) (t : Hierarchy) (s : Store) (items : KeySet) :
    (values : List String) → (before : KeySet) → (found : List (HierarchyEntry × KeySet)) →
      (calls : List String) → (after : KeySet) → Prop where
  | nil {before : KeySet} : Calls f t s items [] before [] [] before
  /-- A value that has been met is passed over. -/
  | skip {v : String} {rest : List String} {before : KeySet} {found : List (HierarchyEntry × KeySet)}
      {calls : List String} {after : KeySet} (hmet : v ∈ before)
      (hrest : Calls f t s items rest before found calls after) :
      Calls f t s items (v :: rest) before found calls after
  /-- A new value is met, and what is below it comes first. -/
  | call {v : String} {rest : List String} {before between after : KeySet}
      {below found : List (HierarchyEntry × KeySet)} {inner calls : List String} (hnew : v ∉ before)
      (hbelow : Calls f t s items (t.children.next v).toList (before.insert v) below inner between)
      (hrest : Calls f t s items rest between found calls after) :
      Calls f t s items (v :: rest) before ((f.draw t s items v below).toList ++ found)
        (v :: inner ++ calls) after

/-- The recursion from the roots: it is called for each of them. -/
inductive CallsRoots (f : HierarchicalFacet) (t : Hierarchy) (s : Store) (items : KeySet) :
    (roots : List String) → (before : KeySet) → (found : List (HierarchyEntry × KeySet)) →
      (calls : List String) → (after : KeySet) → Prop where
  | nil {before : KeySet} : CallsRoots f t s items [] before [] [] before
  | call {v : String} {rest : List String} {before between after : KeySet}
      {below found : List (HierarchyEntry × KeySet)} {inner calls : List String}
      (hbelow : Calls f t s items (t.children.next v).toList (before.insert v) below inner between)
      (hrest : CallsRoots f t s items rest between found calls after) :
      CallsRoots f t s items (v :: rest) before ((f.draw t s items v below).toList ++ found)
        (v :: inner ++ calls) after

namespace Calls

/-- What has been met is what had been met and what the recursion has been called for. -/
theorem mem_after_iff (h : Calls f t s items values before found calls after) :
    w ∈ after ↔ w ∈ calls ∨ w ∈ before := by
  induction h with
  | nil => simp
  | skip _ _ ih => exact ih
  | call _ _ _ ihbelow ihrest =>
    rw [ihrest, ihbelow, KeySet.mem_insert, List.cons_append, List.mem_cons, List.mem_append]
    grind

/-- **No value is called for twice**, and none that had been met. -/
theorem nodup (h : Calls f t s items values before found calls after) :
    calls.Nodup ∧ ∀ w ∈ calls, w ∉ before := by
  induction h with
  | nil => exact ⟨List.nodup_nil, by simp⟩
  | skip _ _ ih => exact ih
  | @call v rest before between after below found inner calls hnew hbelow _ ihbelow ihrest =>
    obtain ⟨hinner, hfresh⟩ := ihbelow
    obtain ⟨hcalls, hlater⟩ := ihrest
    have hmet : ∀ w ∈ v :: inner, w ∈ between := fun w hw => by
      rw [hbelow.mem_after_iff, KeySet.mem_insert]
      exact (List.mem_cons.mp hw).elim (fun heq => .inr (.inl heq)) .inl
    refine ⟨List.nodup_append.mpr ⟨List.nodup_cons.mpr ⟨fun hv => ?_, hinner⟩, hcalls, ?_⟩, ?_⟩
    · exact hfresh v hv (KeySet.mem_insert.mpr (.inl rfl))
    · rintro w hw _ hw' rfl
      exact hlater w hw' (hmet w hw)
    · intro w hw hbefore
      rw [List.cons_append, List.mem_cons, List.mem_append] at hw
      rcases hw with rfl | hw | hw
      · exact hnew hbefore
      · exact hfresh w hw (KeySet.mem_insert.mpr (.inr hbefore))
      · exact hlater w hw (hbelow.mem_after_iff.mpr (.inr (KeySet.mem_insert.mpr (.inr hbefore))))

/-- What is called for is in the list or below some value. -/
theorem mem_calls (h : Calls f t s items values before found calls after) :
    ∀ w ∈ calls, w ∈ values ∨ ∃ u, w ∈ t.children.next u := by
  induction h with
  | nil => simp
  | skip _ _ ih => exact fun w hw => (ih w hw).imp_left (List.mem_cons_of_mem _)
  | @call v _ _ _ _ _ _ _ _ _ _ _ ihbelow ihrest =>
    intro w hw
    rw [List.cons_append, List.mem_cons, List.mem_append] at hw
    rcases hw with rfl | hw | hw
    · exact .inl List.mem_cons_self
    · rcases ihbelow w hw with hchild | hchild
      · exact .inr ⟨v, hchild⟩
      · exact .inr hchild
    · exact (ihrest w hw).imp_left (List.mem_cons_of_mem _)

/-- Roots that are below nothing are new, so that it makes no difference whether the recursion asks. -/
theorem roots (h : Calls f t s items values before found calls after) (hnodup : values.Nodup)
    (hnew : ∀ v ∈ values, v ∉ before) (htop : ∀ v ∈ values, ∀ u, v ∉ t.children.next u) :
    CallsRoots f t s items values before found calls after := by
  induction values generalizing before found calls after with
  | nil =>
    cases h
    exact .nil
  | cons v rest ih =>
    obtain ⟨hv, hrest⟩ := List.nodup_cons.mp hnodup
    obtain ⟨-, hnewrest⟩ := List.forall_mem_cons.mp hnew
    obtain ⟨-, htoprest⟩ := List.forall_mem_cons.mp htop
    cases h with
    | skip hmet _ => exact absurd hmet (hnew v List.mem_cons_self)
    | call _ hbelow hcalls =>
      refine .call hbelow (ih hcalls hrest (fun w hw hmet => ?_) htoprest)
      rcases hbelow.mem_after_iff.mp hmet with hinner | hbefore
      · rcases hbelow.mem_calls w hinner with hchild | ⟨u, hchild⟩
        · exact htoprest w hw v hchild
        · exact htoprest w hw u hchild
      · rcases KeySet.mem_insert.mp hbefore with rfl | hbefore
        · exact hv hw
        · exact hnewrest w hw hbefore

end Calls

/-- **Within a limit that is deep enough** the recursion comes to its end: each call leaves less to be
    met below it. -/
theorem calls_showEach (hdepth : ∀ v ∈ values, v ∉ before →
      t.children.unreached (before.insert v) < depth) :
    ∃ calls, Calls f t s items values before (showEach (f.node t s items depth) values before).1 calls
      (showEach (f.node t s items depth) values before).2 := by
  induction depth generalizing values before with
  | zero =>
    induction values with
    | nil => exact ⟨[], .nil⟩
    | cons v rest ih =>
      obtain ⟨hv, hrest⟩ := List.forall_mem_cons.mp hdepth
      have hmet : v ∈ before := by_contra fun hnew => absurd (hv hnew) (Nat.not_lt_zero _)
      obtain ⟨calls, hcalls⟩ := ih hrest
      rw [showEach, if_pos (KeySet.contains_iff.mpr hmet)]
      exact ⟨calls, .skip hmet hcalls⟩
  | succ depth ih =>
    induction values generalizing before with
    | nil => exact ⟨[], .nil⟩
    | cons v rest ihrest =>
      obtain ⟨hv, hrest⟩ := List.forall_mem_cons.mp hdepth
      rw [showEach]
      by_cases hmet : v ∈ before
      · obtain ⟨calls, hcalls⟩ := ihrest hrest
        rw [if_pos (KeySet.contains_iff.mpr hmet)]
        exact ⟨calls, .skip hmet hcalls⟩
      · rw [if_neg (by simpa using hmet), node_succ]
        have hbelow : ∀ w ∈ (t.children.next v).toList, w ∉ before.insert v →
            t.children.unreached ((before.insert v).insert w) < depth := fun w hw hnew => by
          have hless := Relation.unreached_insert_lt (KeySet.mem_toList.mp hw) hnew
          have hbound := hv hmet
          omega
        obtain ⟨inner, hinner⟩ := ih hbelow
        generalize showEach (f.node t s items depth) (t.children.next v).toList (before.insert v) =
          walked at hinner ⊢
        have hgrows : ∀ u ∈ before, u ∈ walked.2 := fun u hu =>
          hinner.mem_after_iff.mpr (.inr (KeySet.mem_insert.mpr (.inr hu)))
        have hlater : ∀ w ∈ rest, w ∉ walked.2 →
            t.children.unreached (walked.2.insert w) < depth + 1 := fun w hw hnew => by
          have hmono : t.children.unreached (walked.2.insert w) ≤
              t.children.unreached (before.insert w) :=
            Relation.unreached_mono fun u hu =>
              KeySet.mem_insert.mpr ((KeySet.mem_insert.mp hu).imp_right (hgrows u))
          have hbound := hrest w hw fun hbefore => hnew (hgrows w hbefore)
          omega
        obtain ⟨calls, hcalls⟩ := ihrest hlater
        exact ⟨v :: inner ++ calls, .call hmet hinner hcalls⟩

/-! ## 3. The whole tree -/

/-- **Showing a tree comes to an end**: the recursion is called for each value that stands below a root
    and for no other, once, and what it finds is what is shown. -/
theorem callsRoots_showEach (f : HierarchicalFacet) (t : Hierarchy) (s : Store) (items : KeySet)
    (htop : ∀ v ∈ t.roots, ∀ u, v ∉ t.children.next u) :
    ∃ found calls after, CallsRoots f t s items t.roots.toList ∅ found calls after ∧
      showEach (f.node t s items (maxDepth t)) t.roots.toList ∅ = (found, after) ∧
      calls.Nodup ∧ ∀ v, v ∈ calls ↔ t.IsRooted v := by
  have hdepth : ∀ v ∈ t.roots.toList, v ∉ (∅ : KeySet) →
      t.children.unreached ((∅ : KeySet).insert v) < maxDepth t := fun v _ _ =>
    Nat.lt_succ_of_le (t.children.unreached_le _)
  obtain ⟨calls, hcalls⟩ : ∃ calls, Calls f t s items t.roots.toList ∅
      (showEach (f.node t s items (maxDepth t)) t.roots.toList ∅).1 calls
      (showEach (f.node t s items (maxDepth t)) t.roots.toList ∅).2 := calls_showEach hdepth
  have hvisit := f.visit_roots t s items
  generalize showEach (f.node t s items (maxDepth t)) t.roots.toList ∅ = walked at hcalls hvisit ⊢
  refine ⟨walked.1, calls, walked.2, hcalls.roots t.roots.nodup_toList
    (fun _ _ => KeySet.not_mem_empty) htop, rfl, hcalls.nodup.1, fun v => ?_⟩
  have hmet : v ∈ calls ↔ v ∈ walked.2 := by
    rw [hcalls.mem_after_iff, or_iff_left KeySet.not_mem_emptySet]
  rw [hmet]
  constructor
  · exact fun hv => hvisit.reached v hv KeySet.not_mem_empty
  · rintro ⟨root, hroot, hreaches⟩
    exact hvisit.mem_of_reaches (hvisit.entered root hroot) hreaches

/-- **Building and showing a hierarchy come to an end.** Let the grouping be a path. The loop that builds
    the tree ends, and so does building; it fails only if the path starts from a name that stands for
    nothing, and then with its first look. Otherwise it has looked up each known value once, that is the
    values of the root items and all values above them. The pairs that are left are those of the known
    values and their parents, entered from both sides, and the roots are the known values without
    parents. The recursion that shows the tree to any facet ends as well, and is called for each value
    below a root once and for no other. -/
theorem building_and_showing_end {scene : Scene} {e grouping : Expression} {p : Path} {maps : ValueMaps}
    (hstore : scene.store.Recorded) (hp : grouping.path? = some p)
    (hmaps : ValueMaps.build scene e = .ok maps) :
    ∃ looked outcome,
      Hierarchy.Growth.Looks scene.store grouping [] (.starting maps) looked outcome ∧
      Hierarchy.build scene e (some grouping) = outcome.map Hierarchy.Growth.tree ∧
      ((∃ failure, outcome = .error failure) ↔
        p.root.getD Roots.defaultName ≠ Roots.defaultName ∧ maps.itemsOf.keySet.toList ≠ []) ∧
      (∀ failure, outcome = .error failure → looked.length = 1) ∧
      ∀ grown, outcome = .ok grown →
        looked.Nodup ∧ (∀ v, v ∈ looked ↔ v ∈ grown.known) ∧
        (∀ v, v ∈ grown.known ↔ ∃ u ∈ maps.itemsOf.keySet,
          Relation.ReflTransGen (HasParent scene.store (some grouping)) u v) ∧
        (∀ v w, w ∈ grown.tree.parents.next v ↔
          v ∈ grown.known ∧ grouping.Yields scene.store v w) ∧
        grown.tree.Paired ∧
        (∀ v, v ∈ grown.tree.roots ↔ v ∈ grown.known ∧ grouping.YieldsNothing scene.store v) ∧
        ∀ (f : HierarchicalFacet) (items : KeySet), ∃ found calls after,
          CallsRoots f grown.tree scene.store items grown.tree.roots.toList ∅ found calls after ∧
          showEach (f.node grown.tree scene.store items (maxDepth grown.tree))
            grown.tree.roots.toList ∅ = (found, after) ∧
          calls.Nodup ∧ ∀ v, v ∈ calls ↔ grown.tree.IsRooted v := by
  obtain ⟨looked, outcome, hlooks, hbuild, hfails, hfirst⟩ :=
    Hierarchy.Growth.ends_of_path hstore hp hmaps
  refine ⟨looked, outcome, hlooks, hbuild, hfails, hfirst, ?_⟩
  rintro grown rfl
  obtain ⟨hnodup, hmem, hknown, hparents, hpaired, hroots⟩ := hlooks.leaves
  refine ⟨hnodup, hmem, hknown, hparents, hpaired, hroots, fun f items => ?_⟩
  refine callsRoots_showEach f grown.tree scene.store items fun v hv u hchild => ?_
  -- a root with something above it would have a parent
  exact ((hparents v u).mp ((hpaired v u).mpr hchild)).2.not_nothing ((hroots v).mp hv).2

/-- The kinds that items are given. -/
def kindsGiven : Expression := ⟨".kind", .path ⟨none, [⟨"kind", true, false⟩]⟩⟩

/-- The parents that values are given. -/
def parentsGiven : Expression := ⟨".parent", .path ⟨none, [⟨"parent", true, false⟩]⟩⟩

/-- The cat that is a kind of cat is looked up once, though it is above itself. -/
theorem building_and_showing_strays :
    strays.store.Recorded ∧ ∃ p maps, parentsGiven.path? = some p ∧
      ValueMaps.build strays kindsGiven = .ok maps ∧ ∃ looked grown,
        Hierarchy.Growth.Looks strays.store parentsGiven [] (.starting maps) looked (.ok grown) ∧
        looked.Nodup ∧ "cat" ∈ looked ∧ "cat" ∈ grown.tree.parents.next "cat" ∧
        "cat" ∉ grown.tree.roots := by
  have hstore : strays.store.Recorded := ⟨_, storeAfter_refines _⟩
  have hp : parentsGiven.path? = some ⟨none, [⟨"parent", true, false⟩]⟩ := rfl
  have hmaps : ValueMaps.build strays kindsGiven = .ok _ := rfl
  refine ⟨hstore, _, _, hp, hmaps, ?_⟩
  obtain ⟨looked, outcome, hlooks, -, hfails, -, hends⟩ := building_and_showing_end hstore hp hmaps
  cases outcome with
  | error failure => exact absurd rfl (hfails.mp ⟨failure, rfl⟩).1
  | ok grown =>
    obtain ⟨hnodup, hmem, hknown, hparents, -, hroots, -⟩ := hends grown rfl
    have hcat : "cat" ∈ grown.known := (hknown "cat").mpr ⟨"cat", by decide +kernel, .refl⟩
    have habove : parentsGiven.Yields strays.store "cat" "cat" := ⟨_, rfl, by decide +kernel⟩
    exact ⟨looked, grown, hlooks, hnodup, (hmem "cat").mpr hcat,
      (hparents "cat" "cat").mpr ⟨hcat, habove⟩,
      fun hroot => habove.not_nothing ((hroots "cat").mp hroot).2⟩

end HierarchicalFacet

end Faceted
