import Faceted.Proofs.Facet.Fresh
import Faceted.Proofs.Hierarchy.Reaching
import Faceted.Proofs.Running

/-!
# What a tree says

A tree is made from the values of the root items, and from what a grouping expression yields for each
value that is known. So it tells which root items hold a value, which hold none, and which values stand
above which.

* `ValueMaps.mem_holders_build`, `mem_missing_build`: which root items hold a value, and which hold none;
* `Hierarchy.Paired`: children are the converse of parents, so descendants are the converse of ancestors;
* `StemsFrom`: all pairs of a tree come from looking values up, and its roots have no parents;
* **`Hierarchy.build_tells`**: this is what every tree says that is built;
* **`StemsFrom.isRooted_iff`**: if all values have been looked up, to stand below a root of the tree is to
  be led by the grouping to a value without parents.
-/

namespace Faceted

open Faceted.Expression

/-! ## 1. Values of items -/

namespace Expression

/-- The value is one of the expression's on the item. -/
def Yields (e : Expression) (s : Store) (item value : String) : Prop :=
  ∃ found, e.evalOnItem item s = .ok found ∧ value ∈ found.toList

/-- The expression has no value on the item. -/
def YieldsNothing (e : Expression) (s : Store) (item : String) : Prop :=
  ∃ found, e.evalOnItem item s = .ok found ∧ found.toList = []

theorem Yields.not_nothing {e : Expression} {s : Store} {item value : String}
    (h : e.Yields s item value) : ¬ e.YieldsNothing s item := by
  obtain ⟨found, hfound, hvalue⟩ := h
  rintro ⟨found', hfound', hnil⟩
  cases hfound.symm.trans hfound'
  rw [hnil] at hvalue
  cases hvalue

end Expression

namespace ValueMaps

variable {scene : Scene} {e : Expression} {maps : ValueMaps} {item v x : String}

theorem mem_addTo {m : KeyMap KeySet} {k member a : String} :
    x ∈ ((addTo m k member).get? a).getD ∅ ↔ a = k ∧ x = member ∨ x ∈ (m.get? a).getD ∅ := by
  unfold addTo
  rw [KeyMap.get?_insert]
  by_cases h : a = k
  · subst h
    simp
  · simp [h]

theorem mem_holders_foldl {values : List String} {m : KeyMap KeySet} :
    x ∈ ((values.foldl (fun m v => addTo m v item) m).get? v).getD ∅ ↔
      v ∈ values ∧ x = item ∨ x ∈ (m.get? v).getD ∅ := by
  induction values generalizing m with
  | nil => simp
  | cons first rest ih =>
    rw [List.foldl_cons, ih, mem_addTo, List.mem_cons]
    grind

theorem mem_holders_enter {values : Values} :
    x ∈ (maps.enter item values).holders v ↔
      x = item ∧ v ∈ values.toList ∨ x ∈ maps.holders v := by
  unfold enter Values.isEmpty
  split
  · next hnil =>
    rw [List.isEmpty_iff.mp hnil]
    simp [holders]
  · unfold holders
    rw [mem_holders_foldl, and_comm]

theorem mem_missing_enter {values : Values} :
    x ∈ (maps.enter item values).missing ↔
      x = item ∧ values.toList = [] ∨ x ∈ maps.missing := by
  unfold enter Values.isEmpty
  split
  · next hnil => simp [List.isEmpty_iff.mp hnil]
  · next hsome => simp [mt List.isEmpty_iff.mpr hsome]

theorem mem_keySet_of_mem_holders (h : x ∈ maps.holders v) : v ∈ maps.itemsOf.keySet := by
  unfold holders at h
  cases hget : maps.itemsOf.get? v with
  | none =>
    rw [hget] at h
    cases h
  | some items => exact KeyMap.mem_keys_iff.mpr (Option.isSome_of_eq_some hget)

/-- Entering items one after the other. -/
theorem mem_foldl_enter (results : List (String × Values)) (maps : ValueMaps) :
    (x ∈ (results.foldl (fun maps r => maps.enter r.1 r.2) maps).holders v ↔
      (∃ r ∈ results, x = r.1 ∧ v ∈ r.2.toList) ∨ x ∈ maps.holders v) ∧
    (x ∈ (results.foldl (fun maps r => maps.enter r.1 r.2) maps).missing ↔
      (∃ r ∈ results, x = r.1 ∧ r.2.toList = []) ∨ x ∈ maps.missing) := by
  induction results generalizing maps with
  | nil => simp
  | cons r rest ih =>
    obtain ⟨hholders, hmissing⟩ := ih (maps.enter r.1 r.2)
    rw [List.foldl_cons, hholders, hmissing, mem_holders_enter, mem_missing_enter,
      List.exists_mem_cons_iff, List.exists_mem_cons_iff]
    constructor <;> rw [or_left_comm, or_assoc]

theorem exists_result {results : List (String × Values)} {p : Values → Prop}
    (hresults : (scene.allItems.toList.mapM fun item => return (item, ← e.evalOnItem item scene.store) :
      Outcome (List (String × Values))) = .ok results) :
    (∃ r ∈ results, x = r.1 ∧ p r.2) ↔
      x ∈ scene.allItems ∧ ∃ found, e.evalOnItem x scene.store = .ok found ∧ p found := by
  obtain ⟨hitems, heval⟩ := ok_of_mapM_pairs hresults
  constructor
  · rintro ⟨r, hr, rfl, hp⟩
    refine ⟨?_, r.2, heval r hr, hp⟩
    rw [← KeySet.mem_toList, ← hitems]
    exact List.mem_map_of_mem hr
  · rintro ⟨hx, found, hfound, hp⟩
    rw [← KeySet.mem_toList, ← hitems] at hx
    obtain ⟨r, hr, rfl⟩ := List.mem_map.mp hx
    cases (heval r hr).symm.trans hfound
    exact ⟨r, hr, rfl, hp⟩

/-- The maps are entered item by item. -/
theorem exists_results (h : build scene e = .ok maps) : ∃ results,
    (scene.allItems.toList.mapM fun item => return (item, ← e.evalOnItem item scene.store) :
      Outcome (List (String × Values))) = .ok results ∧
    maps = results.foldl (fun maps r => maps.enter r.1 r.2) empty := by
  unfold build at h
  cases hresults : (scene.allItems.toList.mapM fun item =>
      return (item, ← e.evalOnItem item scene.store) : Outcome (List (String × Values))) with
  | error failure =>
    rw [hresults] at h
    cases h
  | ok results =>
    rw [hresults] at h
    exact ⟨results, rfl, (Except.ok.inj h).symm⟩

theorem mem_holders_build (h : build scene e = .ok maps) :
    x ∈ maps.holders v ↔ x ∈ scene.allItems ∧ e.Yields scene.store x v := by
  obtain ⟨results, hresults, rfl⟩ := exists_results h
  rw [(mem_foldl_enter results empty).1, exists_result hresults (p := fun found => v ∈ found.toList)]
  exact or_iff_left KeySet.not_mem_empty

theorem mem_missing_build (h : build scene e = .ok maps) :
    x ∈ maps.missing ↔ x ∈ scene.allItems ∧ e.YieldsNothing scene.store x := by
  obtain ⟨results, hresults, rfl⟩ := exists_results h
  rw [(mem_foldl_enter (v := x) results empty).2,
    exists_result hresults (p := fun found => found.toList = [])]
  exact or_iff_left KeySet.not_mem_empty

end ValueMaps

/-! ## 2. Trees -/

/-- The grouping yields the parent for the value; without a grouping there are no parents. -/
def HasParent (s : Store) (grouping : Option Expression) (v parent : String) : Prop :=
  ∃ g, grouping = some g ∧ g.Yields s v parent

/-- The value is looked up and has no parents. -/
def IsTop (s : Store) (grouping : Option Expression) (v : String) : Prop :=
  ∀ g, grouping = some g → g.YieldsNothing s v

theorem HasParent.not_isTop {s : Store} {grouping : Option Expression} {v parent : String}
    (h : HasParent s grouping v parent) : ¬ IsTop s grouping v := by
  obtain ⟨g, hg, hyields⟩ := h
  exact fun htop => hyields.not_nothing (htop g hg)

namespace Hierarchy

variable {t : Hierarchy} {s : Store} {grouping : Option Expression} {v w x : String}

/-- Parents and children tell of the same pairs. -/
def Paired (t : Hierarchy) : Prop := ∀ v w, w ∈ t.parents.next v ↔ v ∈ t.children.next w

theorem Paired.mem_ancestors_iff (h : t.Paired) : w ∈ t.ancestors v ↔ v ∈ t.descendants w :=
  Relation.mem_closure_converse h

/-- The value is a root or stands below one. -/
def IsRooted (t : Hierarchy) (v : String) : Prop := ∃ root ∈ t.roots, t.children.Reaches root v

/-- The tree has met the value: a root item holds it, or it is a parent. -/
def Knows (t : Hierarchy) (v : String) : Prop :=
  (∃ x, x ∈ t.holders v) ∨ ∃ u, v ∈ t.parents.next u

/-- Every value that the tree has met has been looked up. -/
def IsComplete (t : Hierarchy) : Prop := ∀ v, t.Knows v → v ∈ t.roots ∨ ∃ w, w ∈ t.parents.next v

/-- The tree is made of what a grouping says: a value stands below all of its parents or has not been
    looked up, and roots have no parents. -/
structure StemsFrom (t : Hierarchy) (s : Store) (grouping : Option Expression) : Prop where
  paired : t.Paired
  parents : ∀ v, (∀ w, w ∉ t.parents.next v) ∨
    ∀ w, w ∈ t.parents.next v ↔ HasParent s grouping v w
  roots : ∀ v ∈ t.roots, IsTop s grouping v

namespace StemsFrom

/-- Without pairs only the roots count. -/
theorem of_no_pairs (hparents : t.parents = ∅) (hchildren : t.children = ∅)
    (hroots : ∀ v ∈ t.roots, IsTop s grouping v) : t.StemsFrom s grouping where
  paired v w := by
    rw [hparents, hchildren]
    exact iff_of_false KeySet.not_mem_empty KeySet.not_mem_empty
  parents v := by
    rw [hparents]
    exact .inl fun w => KeySet.not_mem_empty
  roots := hroots

theorem hasParent (h : t.StemsFrom s grouping) (hw : w ∈ t.parents.next v) :
    HasParent s grouping v w := by
  rcases h.parents v with hnone | hall
  · exact absurd hw (hnone w)
  · exact (hall w).mp hw

/-- Nothing stands above a root. -/
theorem not_mem_children (h : t.StemsFrom s grouping) (hv : v ∈ t.roots) :
    v ∉ t.children.next w := fun hchild =>
  (h.hasParent ((h.paired v w).mpr hchild)).not_isTop (h.roots v hv)

/-- **Standing below a root is to be led to a value without parents**, if every value that the tree has
    met has been looked up. -/
theorem isRooted_iff (h : t.StemsFrom s grouping) (hcomplete : t.IsComplete) (hv : t.Knows v) :
    t.IsRooted v ↔
      ∃ top, Relation.ReflTransGen (HasParent s grouping) v top ∧ IsTop s grouping top := by
  constructor
  · rintro ⟨root, hroot, hreaches⟩
    have hup : t.parents.Reaches v root := (Relation.reaches_converse h.paired).mpr hreaches
    have htells : (fun v w => w ∈ t.parents.next v) ≤ HasParent s grouping :=
      fun v w hw => h.hasParent hw
    exact ⟨root, Relation.ReflTransGen.mono htells v root hup, h.roots root hroot⟩
  · rintro ⟨top, hchain, htop⟩
    suffices hup : ∃ root ∈ t.roots, t.parents.Reaches v root by
      obtain ⟨root, hroot, hreaches⟩ := hup
      exact ⟨root, hroot, (Relation.reaches_converse h.paired).mp hreaches⟩
    induction hchain using Relation.ReflTransGen.head_induction_on with
    | refl =>
      rcases hcomplete top hv with hroot | ⟨w, hw⟩
      · exact ⟨top, hroot, .refl⟩
      · exact absurd htop (h.hasParent hw).not_isTop
    | @head u w hparent _ ih =>
      rcases hcomplete u hv with hroot | ⟨w', hw'⟩
      · exact absurd (h.roots u hroot) hparent.not_isTop
      · have hw : w ∈ t.parents.next u := by
          rcases h.parents u with hnone | hall
          · exact absurd hw' (hnone w')
          · exact (hall w).mpr hparent
        obtain ⟨root, hroot, hreaches⟩ := ih (.inr ⟨u, hw⟩)
        exact ⟨root, hroot, .head hw hreaches⟩

end StemsFrom

/-! ## 3. Growth -/

namespace Growth

/-- Enters one parent of a value. -/
def link (value : String) (g : Growth) (parent : String) : Growth where
  tree := { g.tree with
    parents := g.tree.parents.add value parent
    children := g.tree.children.add parent value }
  known := g.known.insert parent
  frontier := if g.known.contains parent then g.frontier else g.frontier ++ [parent]

/-- What has been entered with parents of a value. -/
structure Linked (value : String) (above : List String) (g g' : Growth) : Prop where
  parents : ∀ v w, w ∈ g'.tree.parents.next v ↔ v = value ∧ w ∈ above ∨ w ∈ g.tree.parents.next v
  children : ∀ v w, v ∈ g'.tree.children.next w ↔ v = value ∧ w ∈ above ∨ v ∈ g.tree.children.next w
  known : ∀ v, v ∈ g'.known ↔ v ∈ above ∨ v ∈ g.known
  waits : ∀ v, v ∈ g'.frontier ↔ (v ∈ above ∧ v ∉ g.known) ∨ v ∈ g.frontier
  roots : g'.tree.roots = g.tree.roots
  itemsOf : g'.tree.itemsOf = g.tree.itemsOf
  missing : g'.tree.missing = g.tree.missing

theorem linked_foldl (value : String) (above : List String) (g : Growth) :
    Linked value above g (above.foldl (link value) g) := by
  induction above generalizing g with
  | nil => constructor <;> simp
  | cons parent rest ih =>
    have h := ih (g.link value parent)
    have hwaits (v : String) : v ∈ (link value g parent).frontier ↔
        v = parent ∧ v ∉ g.known ∨ v ∈ g.frontier := by
      unfold link
      by_cases hknown : parent ∈ g.known
      · simp only [KeySet.contains_iff.mpr hknown, if_true]
        grind
      · simp only [KeySet.contains_eq_false_iff.mpr hknown, Bool.false_eq_true, if_false,
          List.mem_append, List.mem_singleton]
        grind
    rw [List.foldl_cons]
    constructor
    · intro v w
      rw [h.parents]
      simp only [link, Relation.mem_next_add, List.mem_cons]
      grind
    · intro v w
      rw [h.children]
      simp only [link, Relation.mem_next_add, List.mem_cons]
      grind
    · intro v
      rw [h.known]
      simp only [link, KeySet.mem_insert, List.mem_cons]
      grind
    · intro v
      rw [h.waits, hwaits]
      simp only [link, KeySet.mem_insert, List.mem_cons]
      grind
    · exact h.roots
    · exact h.itemsOf
    · exact h.missing

theorem enter_nil (g : Growth) (value : String) :
    g.enter value [] = { g with tree := { g.tree with roots := g.tree.roots.insert value } } := rfl

theorem enter_cons (g : Growth) (value parent : String) (rest : List String) :
    g.enter value (parent :: rest) = (parent :: rest).foldl (link value) g := rfl

/-- A level is what the grouping yields for each value of the frontier, entered one after the other. -/
theorem exists_of_level {g g' : Growth} {e : Expression} (hlevel : g.level s e = .ok g') :
    ∃ results : List (String × Values), results.map Prod.fst = g.frontier ∧
      (∀ r ∈ results, e.evalOnItem r.1 s = .ok r.2) ∧
      g' = results.foldl (fun g r => g.enter r.1 r.2.toList) { g with frontier := [] } := by
  unfold level at hlevel
  cases hresults : (g.frontier.mapM fun value => return (value, ← e.evalOnItem value s) :
      Outcome (List (String × Values))) with
  | error failure =>
    rw [hresults] at hlevel
    cases hlevel
  | ok results =>
    rw [hresults] at hlevel
    obtain ⟨hfrontier, heval⟩ := ok_of_mapM_pairs hresults
    exact ⟨results, hfrontier, heval, (Except.ok.inj hlevel).symm⟩

/-- A tree on the way: it stems from the grouping, and what is known and not looked up waits, be it in
    the level that is looked up now or in the next one. -/
structure Growing (s : Store) (e : Expression) (maps : ValueMaps) (now : List String) (g : Growth) :
    Prop where
  itemsOf : g.tree.itemsOf = maps.itemsOf
  missing : g.tree.missing = maps.missing
  held : ∀ v x, x ∈ maps.holders v → v ∈ g.known
  stems : g.tree.StemsFrom s (some e)
  parents : ∀ v w, w ∈ g.tree.parents.next v → w ∈ g.known
  waits : ∀ v ∈ g.known,
    v ∈ now ∨ v ∈ g.frontier ∨ v ∈ g.tree.roots ∨ ∃ w, w ∈ g.tree.parents.next v

variable {e : Expression} {maps : ValueMaps} {g : Growth} {now : List String}

namespace Growing

/-- A value without parents becomes a root. -/
theorem root (h : Growing s e maps (v :: now) g) (htop : e.YieldsNothing s v) :
    Growing s e maps now (g.enter v []) where
  itemsOf := h.itemsOf
  missing := h.missing
  held := h.held
  stems := {
    paired := h.stems.paired
    parents := h.stems.parents
    roots := fun u hu grouping hgrouping => by
      cases hgrouping
      rcases KeySet.mem_insert.mp hu with rfl | hu
      · exact htop
      · exact h.stems.roots u hu e rfl }
  parents := h.parents
  waits u hu := by
    rw [enter_nil]
    simp only [KeySet.mem_insert]
    rcases h.waits u hu with hnow | hfrontier | hroot | hparent
    · rcases List.mem_cons.mp hnow with rfl | hnow
      · exact .inr (.inr (.inl (.inl rfl)))
      · exact .inl hnow
    · exact .inr (.inl hfrontier)
    · exact .inr (.inr (.inl (.inr hroot)))
    · exact .inr (.inr (.inr hparent))

/-- A value with parents is put below all of them. -/
theorem linked {g' : Growth} {above : List String} (h : Growing s e maps (v :: now) g)
    (hlinked : Linked v above g g') (habove : ∀ w, w ∈ above ↔ e.Yields s v w)
    (hsome : above ≠ []) : Growing s e maps now g' where
  itemsOf := hlinked.itemsOf.trans h.itemsOf
  missing := hlinked.missing.trans h.missing
  held u x hx := (hlinked.known u).mpr (.inr (h.held u x hx))
  stems := {
    paired := fun u w => by
      rw [hlinked.parents, hlinked.children, h.stems.paired u w]
    parents := fun u => by
      simp only [hlinked.parents]
      by_cases hu : u = v
      · subst hu
        -- what was entered before for the value, if anything, is the same
        refine .inr fun w => ?_
        have htells : HasParent s (some e) u w ↔ w ∈ above := by
          rw [habove]
          exact ⟨fun ⟨_, hsome, hyields⟩ => Option.some.inj hsome ▸ hyields,
            fun hyields => ⟨e, rfl, hyields⟩⟩
        rw [htells]
        constructor
        · rintro (⟨-, hw⟩ | hw)
          · exact hw
          · exact htells.mp (h.stems.hasParent hw)
        · exact fun hw => .inl ⟨rfl, hw⟩
      · simpa [hu] using h.stems.parents u
    roots := fun u hu => h.stems.roots u (hlinked.roots ▸ hu) }
  parents u w hw := by
    rw [hlinked.known]
    rcases (hlinked.parents u w).mp hw with ⟨-, hw⟩ | hw
    · exact .inl hw
    · exact .inr (h.parents u w hw)
  waits u hu := by
    simp only [hlinked.waits, hlinked.roots, hlinked.parents]
    by_cases hknown : u ∈ g.known
    · rcases h.waits u hknown with hnow | hfrontier | hroot | ⟨w, hw⟩
      · rcases List.mem_cons.mp hnow with rfl | hnow
        · obtain ⟨w, hw⟩ := List.exists_mem_of_ne_nil above hsome
          exact .inr (.inr (.inr ⟨w, .inl ⟨rfl, hw⟩⟩))
        · exact .inl hnow
      · exact .inr (.inl (.inr hfrontier))
      · exact .inr (.inr (.inl hroot))
      · exact .inr (.inr (.inr ⟨w, .inr hw⟩))
    · rcases (hlinked.known u).mp hu with habove | hknown'
      · exact .inr (.inl (.inl ⟨habove, hknown⟩))
      · exact absurd hknown' hknown

/-- One value is looked up. -/
theorem enter {found : Values} (h : Growing s e maps (v :: now) g) (hfound : e.evalOnItem v s = .ok found) :
    Growing s e maps now (g.enter v found.toList) := by
  cases habove : found.toList with
  | nil => exact h.root ⟨found, hfound, habove⟩
  | cons parent rest =>
    rw [enter_cons]
    refine h.linked (linked_foldl v (parent :: rest) g) (fun w => ?_) (List.cons_ne_nil parent rest)
    rw [← habove]
    constructor
    · exact fun hw => ⟨found, hfound, hw⟩
    · rintro ⟨found', hfound', hw⟩
      cases hfound.symm.trans hfound'
      exact hw

theorem foldl_enter {results : List (String × Values)}
    (hresults : ∀ r ∈ results, e.evalOnItem r.1 s = .ok r.2)
    (h : Growing s e maps (results.map Prod.fst) g) :
    Growing s e maps [] (results.foldl (fun g r => g.enter r.1 r.2.toList) g) := by
  induction results generalizing g with
  | nil => exact h
  | cons r rest ih =>
    obtain ⟨hr, hrest⟩ := List.forall_mem_cons.mp hresults
    exact ih hrest (h.enter hr)

/-- The next level is taken up. -/
theorem turn (h : Growing s e maps [] g) : Growing s e maps g.frontier { g with frontier := [] } :=
  { h with
    waits := fun u hu => by
      rcases h.waits u hu with hnow | hwaits | hlooked
      · cases hnow
      · exact .inl hwaits
      · exact .inr (.inr hlooked) }

/-- One level is looked up. -/
theorem level {g' : Growth} (h : Growing s e maps [] g) (hlevel : g.level s e = .ok g') :
    Growing s e maps [] g' := by
  obtain ⟨results, hfrontier, heval, rfl⟩ := exists_of_level hlevel
  exact foldl_enter heval (hfrontier ▸ h.turn)

theorem levels {rounds : Nat} {g' : Growth} (h : Growing s e maps [] g)
    (hlevels : Growth.levels s e rounds g = .ok g') : Growing s e maps [] g' := by
  induction rounds generalizing g with
  | zero =>
    unfold Growth.levels at hlevels
    split at hlevels
    · cases hlevels
      exact h
    · cases hlevels
  | succ rounds ih =>
    unfold Growth.levels at hlevels
    split at hlevels
    · cases hlevels
      exact h
    · split at hlevels
      · cases hlevels
      · next g'' hlevel => exact ih (h.level hlevel) hlevels

/-- When nothing waits any more, all values that the tree has met have been looked up. -/
theorem isComplete (h : Growing s e maps [] g) (hfrontier : g.frontier = []) : g.tree.IsComplete := by
  intro v hv
  have hknown : v ∈ g.known := by
    rcases hv with ⟨x, hx⟩ | ⟨u, hu⟩
    · unfold holders at hx
      rw [h.itemsOf] at hx
      exact h.held v x hx
    · exact h.parents u v hu
  rcases h.waits v hknown with hnow | hwaits | hlooked
  · cases hnow
  · rw [hfrontier] at hwaits
    cases hwaits
  · exact hlooked

/-- All values wait at the start. -/
theorem start (s : Store) (e : Expression) (maps : ValueMaps) (type : ValueType) :
    Growing s e maps [] ⟨ofMaps maps type, maps.itemsOf.keySet, maps.itemsOf.keySet.toList⟩ where
  itemsOf := rfl
  missing := rfl
  held _ _ hx := ValueMaps.mem_keySet_of_mem_holders hx
  stems := .of_no_pairs rfl rfl fun _ hv => absurd hv KeySet.not_mem_empty
  parents _ _ hw := absurd hw KeySet.not_mem_empty
  waits _ hv := .inr (.inl hv)

end Growing

end Growth

/-! ## 4. Trees that are built -/

section Build

variable {scene : Scene} {e : Expression}

theorem eq_of_build_none (h : build scene e none = .ok t) :
    ∃ maps type, ValueMaps.build scene e = .ok maps ∧
      t = { ofMaps maps type with roots := maps.itemsOf.keySet } := by
  unfold build at h
  cases hmaps : ValueMaps.build scene e with
  | error failure =>
    rw [hmaps] at h
    cases h
  | ok maps =>
    rw [hmaps, ok_bind] at h
    exact ⟨maps, _, rfl, (Except.ok.inj h).symm⟩

/-- With a grouping, a tree that is built has grown from what the root items yield. -/
theorem grown_of_build_some {g : Expression} (h : build scene e (some g) = .ok t) :
    ∃ maps type grown, ValueMaps.build scene e = .ok maps ∧
      Growth.levels scene.store g (maxLevels scene.store maps.itemsOf.keySet)
        ⟨ofMaps maps type, maps.itemsOf.keySet, maps.itemsOf.keySet.toList⟩ = .ok grown ∧
      t = grown.tree := by
  unfold build at h
  cases hmaps : ValueMaps.build scene e with
  | error failure =>
    rw [hmaps] at h
    cases h
  | ok maps =>
    rw [hmaps, ok_bind] at h
    dsimp only at h
    cases hgrown : Growth.levels scene.store g (maxLevels scene.store maps.itemsOf.keySet)
        ⟨ofMaps maps (if maps.itemsOf.keySet.isEmpty then .item else maps.type),
          maps.itemsOf.keySet, maps.itemsOf.keySet.toList⟩ with
    | error failure =>
      rw [hgrown] at h
      cases h
    | ok grown =>
      rw [hgrown] at h
      exact ⟨maps, _, grown, rfl, hgrown, (Except.ok.inj h).symm⟩

/-- **What a tree says**: its items are the root items that yield the value, its pairs and its roots are
    what the grouping says. -/
theorem build_tells (h : build scene e grouping = .ok t) :
    t.StemsFrom scene.store grouping ∧
      (∀ v x, x ∈ t.holders v ↔ x ∈ scene.allItems ∧ e.Yields scene.store x v) ∧
      ∀ x, x ∈ t.missing ↔ x ∈ scene.allItems ∧ e.YieldsNothing scene.store x := by
  cases grouping with
  | none =>
    obtain ⟨maps, type, hmaps, rfl⟩ := eq_of_build_none h
    have htops : ∀ v ∈ maps.itemsOf.keySet, IsTop scene.store none v := fun v _ g hg => by cases hg
    exact ⟨.of_no_pairs rfl rfl htops,
      fun v x => ValueMaps.mem_holders_build hmaps, fun x => ValueMaps.mem_missing_build hmaps⟩
  | some g =>
    obtain ⟨maps, type, grown, hmaps, hgrown, rfl⟩ := grown_of_build_some h
    have hdone := (Growth.Growing.start scene.store g maps type).levels hgrown
    refine ⟨hdone.stems, fun v x => ?_, fun x => ?_⟩
    · unfold holders
      rw [hdone.itemsOf]
      exact ValueMaps.mem_holders_build hmaps
    · rw [hdone.missing]
      exact ValueMaps.mem_missing_build hmaps

end Build

end Hierarchy

/-! ## 5. The tree that a facet goes by -/

namespace HierarchicalFacet

/-- A facet that keeps what is true goes by the tree of its expression. -/
theorem build_of_getTree {f : HierarchicalFacet} {scene : Scene} {t : Hierarchy}
    (hkeeps : (Facet.hierarchical f).KeepsTrue scene) (h : (f.getTree scene).1 = .ok (some t)) :
    ∃ e, f.expression = some e ∧ Hierarchy.build scene e f.grouping = .ok t := by
  obtain ⟨e, he, hanswer⟩ := exists_of_getTree h
  refine ⟨e, he, ?_⟩
  cases htree : f.tree with
  | none =>
    rw [htree] at hanswer
    exact hanswer
  | some kept =>
    rw [htree] at hanswer
    obtain rfl := Except.ok.inj hanswer
    have hbuilt := hkeeps (.tree kept) (by rw [Facet.memo, htree]; rfl)
    rw [Facet.memoFor, he, Option.map_some] at hbuilt
    generalize Hierarchy.build scene e f.grouping = built at hbuilt
    cases built with
    | error failure => cases hbuilt
    | ok tree =>
      cases hbuilt
      rfl

/-- The kinds of things, arranged by the parents that they are given. -/
def kinds : HierarchicalFacet :=
  new "kind" (some ⟨".kind", .path ⟨none, [⟨"kind", true, false⟩]⟩⟩)
    (some ⟨".parent", .path ⟨none, [⟨"parent", true, false⟩]⟩⟩)

end HierarchicalFacet

end Faceted
