import Faceted.Proofs.Expression.Converse
import Faceted.Proofs.Hierarchy.Growing
import Faceted.Proofs.Store.Run

/-!
# Trees with all their levels

Values are looked up level by level, and a tree is done when a level brings nothing new. A tree that is
built is done: where the rounds do not suffice there is no tree. They suffice if the values that a
grouping can lead to are few enough, since each level but the last brings a value that has not been known.

* **`Hierarchy.isComplete_of_build`**: every tree that is built is complete;
* `Growth.Arriving`: what a level brings is new;
* `Growth.levels_succeed`: with enough rounds there is a tree;
* **`Growth.levels_succeed_of_path`**: a path leads to subjects and objects of the store only, so its
  rounds are enough.
-/

namespace Faceted

open Faceted.Expression

namespace Hierarchy

variable {s : Store} {e : Expression} {limit before : KeySet} {v w : String}

/-! ## 1. Trees that are built -/

namespace Growth

variable {g g' : Growth}

/-- Levels that come to an end leave nothing to look up. -/
theorem frontier_levels {rounds : Nat} (hlevels : Growth.levels s e rounds g = .ok g') :
    g'.frontier = [] := by
  induction rounds generalizing g with
  | zero =>
    unfold Growth.levels at hlevels
    split at hlevels
    · next hdone =>
      cases hlevels
      exact List.isEmpty_iff.mp hdone
    · cases hlevels
  | succ rounds ih =>
    unfold Growth.levels at hlevels
    split at hlevels
    · next hdone =>
      cases hlevels
      exact List.isEmpty_iff.mp hdone
    · split at hlevels
      · cases hlevels
      · exact ih hlevels

end Growth

/-- **Every tree that is built is complete**: without a grouping there is nothing to look up, and with
    one there is a tree only when nothing is left. -/
theorem isComplete_of_build {scene : Scene} {t : Hierarchy} {grouping : Option Expression}
    (h : build scene e grouping = .ok t) : t.IsComplete := by
  cases grouping with
  | none =>
    obtain ⟨maps, type, -, rfl⟩ := eq_of_build_none h
    rintro v (⟨x, hx⟩ | ⟨u, hu⟩)
    · exact .inl (ValueMaps.mem_keySet_of_mem_holders hx)
    · exact absurd hu KeySet.not_mem_empty
  | some g =>
    obtain ⟨maps, type, grown, -, hgrown, rfl⟩ := grown_of_build_some h
    exact ((Growth.Growing.start scene.store g maps type).levels hgrown).isComplete
      (Growth.frontier_levels hgrown)

/-! ## 2. One level after the other -/

namespace Growth

variable {g g' : Growth}

/-- While a level is looked up: nothing that was known is forgotten, what is known is within limits, and
    what waits for the next level was not known before this one. -/
structure Arriving (limit before : KeySet) (g : Growth) : Prop where
  keeps : ∀ v ∈ before, v ∈ g.known
  within : ∀ v ∈ g.known, v ∈ limit
  new : ∀ v ∈ g.frontier, v ∈ g.known ∧ v ∉ before

namespace Arriving

/-- One value is looked up, with parents that are within limits. -/
theorem enter {above : List String} (h : Arriving limit before g) (habove : ∀ w ∈ above, w ∈ limit) :
    Arriving limit before (g.enter v above) := by
  cases above with
  | nil => exact { keeps := h.keeps, within := h.within, new := h.new }
  | cons parent rest =>
    have hlinked := linked_foldl v (parent :: rest) g
    rw [enter_cons]
    constructor
    · exact fun w hw => (hlinked.known w).mpr (.inr (h.keeps w hw))
    · intro w hw
      exact ((hlinked.known w).mp hw).elim (habove w) (h.within w)
    · intro w hw
      rw [hlinked.known]
      rcases (hlinked.waits w).mp hw with ⟨hw, hnot⟩ | hw
      · exact ⟨.inl hw, fun hbefore => hnot (h.keeps w hbefore)⟩
      · exact ⟨.inr (h.new w hw).1, (h.new w hw).2⟩

theorem foldl_enter {results : List (String × Values)}
    (hresults : ∀ r ∈ results, ∀ w ∈ r.2.toList, w ∈ limit) (h : Arriving limit before g) :
    Arriving limit before (results.foldl (fun g r => g.enter r.1 r.2.toList) g) := by
  induction results generalizing g with
  | nil => exact h
  | cons r rest ih =>
    obtain ⟨hr, hrest⟩ := List.forall_mem_cons.mp hresults
    exact ih hrest (h.enter hr)

/-- A level keeps within limits that the grouping does not lead out of. -/
theorem level (hlimit : ∀ v ∈ limit, ∀ w, e.Yields s v w → w ∈ limit)
    (hwithin : ∀ v ∈ g.known, v ∈ limit) (hfrontier : ∀ v ∈ g.frontier, v ∈ g.known)
    (hlevel : g.level s e = .ok g') : Arriving limit g.known g' := by
  obtain ⟨results, hvalues, heval, rfl⟩ := exists_of_level hlevel
  refine foldl_enter (fun r hr w hw => ?_)
    { keeps := fun v hv => hv, within := hwithin, new := fun v hv => by cases hv }
  have hr' : r.1 ∈ g.frontier := hvalues ▸ List.mem_map_of_mem hr
  exact hlimit r.1 (hwithin _ (hfrontier _ hr')) w ⟨r.2, heval r hr, hw⟩

end Arriving

/-- Where looking up never fails, no level does. -/
theorem level_succeeds (hfound : ∀ v, ∃ found, e.evalOnItem v s = .ok found) (g : Growth) :
    ∃ next, g.level s e = .ok next := by
  have hfrontier : ∀ v ∈ g.frontier, ∃ found, e.evalOnItem v s = .ok found := fun v _ => hfound v
  obtain ⟨results, hresults⟩ := mapM_pairs_succeeds hfrontier
  unfold level
  rw [hresults]
  exact ⟨_, rfl⟩

/-- **With enough rounds the levels come to an end**: each level that brings something new takes it from
    what is within limits and not known. -/
theorem levels_succeed {rounds : Nat} (hfound : ∀ v, ∃ found, e.evalOnItem v s = .ok found)
    (hlimit : ∀ v ∈ limit, ∀ w, e.Yields s v w → w ∈ limit)
    (hwithin : ∀ v ∈ g.known, v ∈ limit) (hfrontier : ∀ v ∈ g.frontier, v ∈ g.known)
    (hrounds : g.frontier = [] ∨ (limit.diff g.known).size < rounds) :
    ∃ grown, Growth.levels s e rounds g = .ok grown := by
  induction rounds generalizing g with
  | zero =>
    have hdone := hrounds.resolve_right (Nat.not_lt_zero _)
    exact ⟨g, if_pos (List.isEmpty_iff.mpr hdone)⟩
  | succ rounds ih =>
    unfold Growth.levels
    split
    · exact ⟨g, rfl⟩
    · next hwaiting =>
      obtain ⟨between, hlevel⟩ := level_succeeds hfound g
      have harriving := Arriving.level hlimit hwithin hfrontier hlevel
      rw [hlevel]
      refine ih harriving.within (fun v hv => (harriving.new v hv).1) ?_
      cases hnext : between.frontier with
      | nil => exact .inl rfl
      | cons v rest =>
        obtain ⟨hknown, hnew⟩ := harriving.new v (hnext ▸ List.mem_cons_self)
        have hless : (limit.diff between.known).size < (limit.diff g.known).size := by
          refine KeySet.size_lt (k := v) (fun w hw => ?_) ?_ ?_
          · rw [KeySet.mem_diff] at hw ⊢
            exact ⟨hw.1, fun hold => hw.2 (harriving.keeps w hold)⟩
          · exact KeySet.mem_diff.mpr ⟨harriving.within v hknown, hnew⟩
          · exact fun hv => (KeySet.mem_diff.mp hv).2 hknown
        have hbound := hrounds.resolve_left (mt List.isEmpty_iff.mpr hwaiting)
        exact .inr (by omega)

/-- The rounds are enough if the grouping leads to few values beside the one that it is asked about. -/
theorem levels_succeed_of_few {maps : ValueMaps} {type : ValueType} {few : KeySet}
    (hfound : ∀ v, ∃ found, e.evalOnItem v s = .ok found)
    (hfew : ∀ v w, e.Yields s v w → w = v ∨ w ∈ few)
    (hsize : few.size ≤ s.forward.size + s.backward.size) :
    ∃ grown, Growth.levels s e (maxLevels s maps.itemsOf.keySet)
      ⟨ofMaps maps type, maps.itemsOf.keySet, maps.itemsOf.keySet.toList⟩ = .ok grown := by
  have hlimit : ∀ v ∈ maps.itemsOf.keySet.union few, ∀ w, e.Yields s v w →
      w ∈ maps.itemsOf.keySet.union few := fun v hv w hw => by
    rcases hfew v w hw with rfl | hw
    · exact hv
    · exact KeySet.mem_union.mpr (.inr hw)
  have hleft : ((maps.itemsOf.keySet.union few).diff maps.itemsOf.keySet).size ≤ few.size :=
    KeySet.size_le fun v hv => by
      rw [KeySet.mem_diff, KeySet.mem_union] at hv
      exact hv.1.resolve_left hv.2
  refine levels_succeed hfound hlimit ?_ ?_ (.inr ?_)
  · exact fun v hv => KeySet.mem_union.mpr (.inl hv)
  · exact fun v hv => hv
  · unfold maxLevels
    dsimp only
    omega

end Growth

end Hierarchy

/-! ## 3. Paths -/

/-- The subjects and objects of a store. -/
def Store.ends (s : Store) : KeySet := s.forward.keySet.union s.backward.keySet

theorem Store.size_ends_le (s : Store) : s.ends.size ≤ s.forward.size + s.backward.size := by
  have hkeys (index : Index) : index.keySet.size = index.size := List.length_map ..
  rw [← hkeys, ← hkeys]
  exact KeySet.size_union_le _ _

theorem Index.mem_keySet_of_mem_listed {index : Index} {x p y : String} (h : y ∈ index.listed x p) :
    x ∈ index.keySet := by
  unfold listed at h
  cases hget : index.get? x with
  | none =>
    rw [hget] at h
    cases h
  | some inner => exact KeyMap.mem_keys_iff.mpr (Option.isSome_of_eq_some hget)

/-- What a hop leads to is the subject of a statement or the object of one. -/
theorem Expression.mem_ends_of_mem_listed {s : Store} (hs : s.Recorded) {h : Hop} {x y : String}
    (hy : y ∈ h.listed s x) : y ∈ s.ends := by
  obtain ⟨l, hl⟩ := hs
  unfold Hop.listed at hy
  rw [Store.ends, KeySet.mem_union]
  split at hy
  · exact .inr (Index.mem_keySet_of_mem_listed (hl.mem_objectList_iff.mp hy))
  · exact .inl (Index.mem_keySet_of_mem_listed (hl.mem_objectList_iff.mpr hy))

/-- Hops lead to nothing but subjects and objects, except for no hops at all. -/
theorem Expression.Leads.mem {s : Store} (hs : s.Recorded) {hops : List Hop} {x y : String}
    (h : Leads s hops x y) : y = x ∨ y ∈ s.ends := by
  induction hops generalizing x with
  | nil => exact .inl h.symm
  | cons hop rest ih =>
    obtain ⟨z, hz, hrest⟩ := h
    rcases ih hrest with rfl | hy
    · exact .inr (mem_ends_of_mem_listed hs hz)
    · exact .inr hy

/-- A path that is asked about a value yields subjects and objects only, or the value itself. -/
theorem Expression.Yields.mem_ends {s : Store} (hs : s.Recorded) {e : Expression} {p : Path}
    (hp : e.path? = some p) {v w : String} (h : e.Yields s v w) : w = v ∨ w ∈ s.ends := by
  obtain ⟨found, hfound, hw⟩ := h
  rw [evalOnItem_of_path hp] at hfound
  split at hfound
  · cases hfound
    obtain ⟨x, hx, hleads⟩ := mem_walkForward.mp hw
    obtain rfl : x = v := List.mem_singleton.mp hx
    exact hleads.mem hs
  · cases hfound

/-- **The rounds are enough for a path** that starts from the value that it is asked about: it never
    fails, and it leads to subjects and objects only. -/
theorem Hierarchy.Growth.levels_succeed_of_path {s : Store} {e : Expression} {p : Path}
    (hs : s.Recorded) (hp : e.path? = some p)
    (hroot : p.root.getD Roots.defaultName = Roots.defaultName) (maps : ValueMaps) (type : ValueType) :
    ∃ grown, Growth.levels s e (maxLevels s maps.itemsOf.keySet)
      ⟨ofMaps maps type, maps.itemsOf.keySet, maps.itemsOf.keySet.toList⟩ = .ok grown := by
  have hfound (v : String) : ∃ found, e.evalOnItem v s = .ok found :=
    ⟨_, by rw [evalOnItem_of_path hp, if_pos hroot]⟩
  exact levels_succeed_of_few hfound (fun _ _ hw => hw.mem_ends hs hp) s.size_ends_le

end Faceted
