import Faceted.Proofs.Hierarchy.Complete

/-!
# Looking up every value once

A tree grows in a loop: the parents of the values of one level are looked up one after the other, and
those that have not been known are the next level. Here the loop has no limit to its rounds, so that to
have an end is something to be proved.

* `Growth.Looks`: the loop, with the values that it looks up;
* `Growth.InTurn`: every known value has been looked up once or waits to be;
* **`Looks.once`**: a loop that ends has looked up all known values, each of them once;
* **`Looks.leaves`**: these are the values at the start and all values above them, and the tree that is
  left has the pairs of the known values and their parents;
* **`ends_of_path`**: the loop of a path comes to an end over every store, and building a tree comes to
  the same end.
-/

namespace Faceted

open Faceted.Expression

namespace Hierarchy

namespace Growth

variable {s : Store} {e : Expression} {maps : ValueMaps} {first : KeySet} {g g' grown : Growth}
  {past now looked : List String} {outcome : Outcome Growth} {u v w : String}

/-! ## 1. The loop -/

/-- With the values `now` still to be looked up in this level, the loop goes on to look up the values
    `looked`, in this order, and ends with the outcome. -/
inductive Looks (s : Store) (e : Expression) :
    (now : List String) → Growth → (looked : List String) → Outcome Growth → Prop where
  /-- Nothing waits any more. -/
  | done {g : Growth} (hdone : g.frontier = []) : Looks s e [] g [] (.ok g)
  /-- The level is done, and the next one is taken up. -/
  | turn {g : Growth} {looked : List String} {outcome : Outcome Growth} (hwaiting : g.frontier ≠ [])
      (rest : Looks s e g.frontier { g with frontier := [] } looked outcome) :
      Looks s e [] g looked outcome
  /-- The parents of one value are looked up and entered. -/
  | look {v : String} {now : List String} {g : Growth} {found : Values} {looked : List String}
      {outcome : Outcome Growth} (hfound : e.evalOnItem v s = .ok found)
      (rest : Looks s e now (g.enter v found.toList) looked outcome) :
      Looks s e (v :: now) g (v :: looked) outcome
  /-- Looking up fails, and so does the loop. -/
  | fail {v : String} {now : List String} {g : Growth} {failure : Failure}
      (hfails : e.evalOnItem v s = .error failure) : Looks s e (v :: now) g [v] (.error failure)

/-- The values of a level, if looking them up succeeds. -/
theorem Looks.of_results {results : List (String × Values)}
    (hresults : ∀ r ∈ results, e.evalOnItem r.1 s = .ok r.2)
    (rest : Looks s e [] (results.foldl (fun g r => g.enter r.1 r.2.toList) g) looked outcome) :
    Looks s e (results.map Prod.fst) g (results.map Prod.fst ++ looked) outcome := by
  induction results generalizing g with
  | nil => exact rest
  | cons r results ih =>
    obtain ⟨hr, hrest⟩ := List.forall_mem_cons.mp hresults
    exact .look hr (ih hrest rest)

/-- Rounds that suffice are those of the loop. -/
theorem looks_of_levels {rounds : Nat} (hlevels : Growth.levels s e rounds g = .ok grown) :
    ∃ looked, Looks s e [] g looked (.ok grown) := by
  induction rounds generalizing g with
  | zero =>
    unfold Growth.levels at hlevels
    split at hlevels
    · next hdone =>
      cases hlevels
      exact ⟨[], .done (List.isEmpty_iff.mp hdone)⟩
    · cases hlevels
  | succ rounds ih =>
    unfold Growth.levels at hlevels
    split at hlevels
    · next hdone =>
      cases hlevels
      exact ⟨[], .done (List.isEmpty_iff.mp hdone)⟩
    · next hwaiting =>
      split at hlevels
      · cases hlevels
      · next between hlevel =>
        obtain ⟨looked, hrest⟩ := ih hlevels
        obtain ⟨results, hfrontier, hresults, rfl⟩ := exists_of_level hlevel
        refine ⟨g.frontier ++ looked, .turn (mt List.isEmpty_iff.mpr hwaiting) ?_⟩
        rw [← hfrontier]
        exact .of_results hresults hrest

/-! ## 2. One look after the other -/

theorem mem_known_link : v ∈ (link w g u).known ↔ v = u ∨ v ∈ g.known := KeySet.mem_insert

theorem frontier_link_of_mem (hknown : w ∈ g.known) : (link v g w).frontier = g.frontier :=
  if_pos (KeySet.contains_iff.mpr hknown)

theorem frontier_link_of_not_mem (hknown : w ∉ g.known) :
    (link v g w).frontier = g.frontier ++ [w] :=
  if_neg (by simpa using hknown)

/-- Every known value has been taken up or waits, and no value has been or does twice. What is known is
    what was known at the start and what stands above it; the roots are among it, and so is whatever has
    parents. -/
structure InTurn (s : Store) (e : Expression) (first : KeySet) (taken : List String) (g : Growth) :
    Prop where
  nodup : (taken ++ g.frontier).Nodup
  mem_iff : ∀ v, v ∈ taken ++ g.frontier ↔ v ∈ g.known
  keeps : ∀ v ∈ first, v ∈ g.known
  above : ∀ v ∈ g.known, ∃ u ∈ first, Relation.ReflTransGen (HasParent s (some e)) u v
  roots : ∀ v ∈ g.tree.roots, v ∈ g.known
  below : ∀ v w, w ∈ g.tree.parents.next v → v ∈ g.known

namespace InTurn

/-- The next level is taken up. -/
theorem turn (h : InTurn s e first past g) :
    InTurn s e first (past ++ g.frontier) { g with frontier := [] } where
  nodup := by
    rw [List.append_nil]
    exact h.nodup
  mem_iff v := by
    rw [List.append_nil]
    exact h.mem_iff v
  keeps := h.keeps
  above := h.above
  roots := h.roots
  below := h.below

/-- A parent is known from now on, and waits if it has not been. -/
theorem link (h : InTurn s e first past g) (hv : v ∈ g.known) (hw : e.Yields s v w) :
    InTurn s e first past (link v g w) where
  nodup := by
    by_cases hknown : w ∈ g.known
    · rw [frontier_link_of_mem hknown]
      exact h.nodup
    · rw [frontier_link_of_not_mem hknown, ← List.append_assoc, List.nodup_append]
      refine ⟨h.nodup, List.nodup_singleton w, ?_⟩
      rintro u hu _ hw rfl
      obtain rfl := List.mem_singleton.mp hw
      exact hknown ((h.mem_iff u).mp hu)
  mem_iff u := by
    rw [mem_known_link]
    by_cases hknown : w ∈ g.known
    · rw [frontier_link_of_mem hknown, h.mem_iff]
      exact ⟨.inr, fun hu => hu.elim (fun heq => heq ▸ hknown) id⟩
    · rw [frontier_link_of_not_mem hknown, ← List.append_assoc, List.mem_append, h.mem_iff,
        List.mem_singleton]
      exact or_comm
  keeps u hu := mem_known_link.mpr (.inr (h.keeps u hu))
  above u hu := by
    rcases mem_known_link.mp hu with rfl | hu
    · obtain ⟨x, hx, hchain⟩ := h.above v hv
      exact ⟨x, hx, hchain.tail ⟨e, rfl, hw⟩⟩
    · exact h.above u hu
  roots u hu := mem_known_link.mpr (.inr (h.roots u hu))
  below u x hx := by
    rcases (Relation.mem_next_add _ _ _ _ _).mp hx with ⟨rfl, -⟩ | hx
    · exact mem_known_link.mpr (.inr hv)
    · exact mem_known_link.mpr (.inr (h.below u x hx))

/-- One value is looked up. -/
theorem enter {found : Values} (h : InTurn s e first past g) (hv : v ∈ g.known)
    (hfound : e.evalOnItem v s = .ok found) : InTurn s e first past (g.enter v found.toList) := by
  have hlinks : ∀ (above : List String) (g : Growth), (∀ w ∈ above, e.Yields s v w) → v ∈ g.known →
      InTurn s e first past g → InTurn s e first past (above.foldl (Growth.link v) g) := by
    intro above
    induction above with
    | nil => exact fun g _ _ h => h
    | cons w rest ih =>
      intro g habove hv h
      obtain ⟨hw, hrest⟩ := List.forall_mem_cons.mp habove
      exact ih _ hrest (KeySet.mem_insert.mpr (.inr hv)) (h.link hv hw)
  cases habove : found.toList with
  | nil =>
    refine ⟨h.nodup, h.mem_iff, h.keeps, h.above, fun u hu => ?_, h.below⟩
    rcases KeySet.mem_insert.mp hu with rfl | hu
    · exact hv
    · exact h.roots u hu
  | cons w rest =>
    rw [enter_cons]
    exact hlinks _ g (fun u hu => ⟨found, hfound, habove ▸ hu⟩) hv h

/-- All values wait at the start. -/
theorem start (s : Store) (e : Expression) (maps : ValueMaps) (type : ValueType) :
    InTurn s e maps.itemsOf.keySet []
      ⟨ofMaps maps type, maps.itemsOf.keySet, maps.itemsOf.keySet.toList⟩ where
  nodup := maps.itemsOf.keySet.nodup_toList
  mem_iff _ := KeySet.mem_toList
  keeps _ hv := hv
  above v hv := ⟨v, hv, .refl⟩
  roots _ hv := absurd hv KeySet.not_mem_empty
  below _ _ hw := absurd hw KeySet.not_mem_empty

end InTurn

namespace Looks

/-- What holds of a tree on the way holds in the end. -/
theorem growing (h : Looks s e now g looked (.ok grown)) (hg : Growing s e maps now g) :
    Growing s e maps [] grown := by
  generalize houtcome : Except.ok grown = outcome at h
  induction h with
  | done =>
    cases houtcome
    exact hg
  | turn _ _ ih => exact ih hg.turn houtcome
  | look hfound _ ih => exact ih (hg.enter hfound) houtcome
  | fail => cases houtcome

theorem frontier (h : Looks s e now g looked (.ok grown)) : grown.frontier = [] := by
  generalize houtcome : Except.ok grown = outcome at h
  induction h with
  | done hdone =>
    cases houtcome
    exact hdone
  | turn _ _ ih => exact ih houtcome
  | look _ _ ih => exact ih houtcome
  | fail => cases houtcome

/-- What has been taken up before the loop and within it. -/
theorem inTurn (h : Looks s e now g looked (.ok grown)) (hg : InTurn s e first (past ++ now) g) :
    InTurn s e first (past ++ looked) grown := by
  generalize houtcome : Except.ok grown = outcome at h
  induction h generalizing past with
  | done =>
    cases houtcome
    exact hg
  | turn _ _ ih =>
    rw [List.append_nil] at hg
    exact ih hg.turn houtcome
  | @look v now g found looked _ hfound _ ih =>
    have hv : v ∈ g.known := (hg.mem_iff v).mp (by simp)
    have hnext := hg.enter hv hfound
    rw [List.append_cons] at hnext ⊢
    exact ih hnext houtcome
  | fail => cases houtcome

/-- **A loop that ends has looked up all known values**, each of them once. -/
theorem once (h : Looks s e now g looked (.ok grown)) (hg : InTurn s e first now g) :
    looked.Nodup ∧ ∀ v, v ∈ looked ↔ v ∈ grown.known := by
  have hdone : InTurn s e first ([] ++ looked) grown := h.inTurn hg
  have hnodup := hdone.nodup
  have hmem := hdone.mem_iff
  rw [h.frontier, List.nil_append, List.append_nil] at hnodup hmem
  exact ⟨hnodup, hmem⟩

end Looks

/-! ## 3. What is left in the end -/

/-- A tree that is done has all parents of what is known. -/
theorem Growing.mem_parents_iff (h : Growing s e maps [] g) (hdone : g.frontier = [])
    (hv : v ∈ g.known) : w ∈ g.tree.parents.next v ↔ e.Yields s v w := by
  have htells : HasParent s (some e) v w ↔ e.Yields s v w :=
    ⟨fun ⟨_, hsome, hyields⟩ => Option.some.inj hsome ▸ hyields, fun hyields => ⟨e, rfl, hyields⟩⟩
  rw [← htells]
  rcases h.stems.parents v with hnone | hall
  · refine iff_of_false (hnone w) fun hparent => ?_
    rcases h.waits v hv with hnow | hwaits | hroot | ⟨u, hu⟩
    · cases hnow
    · rw [hdone] at hwaits
      cases hwaits
    · exact hparent.not_isTop (h.stems.roots v hroot)
    · exact hnone u hu
  · exact hall w

/-- Its roots are the known values without parents. -/
theorem Growing.mem_roots_iff (h : Growing s e maps [] g) (hdone : g.frontier = [])
    (hturn : InTurn s e first past g) : v ∈ g.tree.roots ↔ v ∈ g.known ∧ e.YieldsNothing s v := by
  refine ⟨fun hroot => ⟨hturn.roots v hroot, h.stems.roots v hroot e rfl⟩, fun ⟨hv, htop⟩ => ?_⟩
  rcases h.waits v hv with hnow | hwaits | hroot | ⟨w, hw⟩
  · cases hnow
  · rw [hdone] at hwaits
    cases hwaits
  · exact hroot
  · exact absurd htop ((h.mem_parents_iff hdone hv).mp hw).not_nothing

/-- What is known in the end is what was known at the start and what stands above it. -/
theorem Growing.mem_known_iff (h : Growing s e maps [] g) (hdone : g.frontier = [])
    (hturn : InTurn s e first past g) :
    v ∈ g.known ↔ ∃ u ∈ first, Relation.ReflTransGen (HasParent s (some e)) u v := by
  refine ⟨hturn.above v, ?_⟩
  rintro ⟨u, hu, hchain⟩
  induction hchain with
  | refl => exact hturn.keeps u hu
  | tail _ hparent ih =>
    obtain ⟨_, hsome, hyields⟩ := hparent
    cases hsome
    exact h.parents _ _ ((h.mem_parents_iff hdone ih).mpr hyields)

/-- The tree at the start of the loop: all values of the root items wait. -/
def starting (maps : ValueMaps) : Growth where
  tree := ofMaps maps (if maps.itemsOf.keySet.isEmpty then .item else maps.type)
  known := maps.itemsOf.keySet
  frontier := maps.itemsOf.keySet.toList

/-- **What the loop leaves** when it ends: it has looked up each known value once, and these are the
    values at the start and all values above them. The pairs are those of the known values and their
    parents, entered from both sides, and the roots are the known values without parents. -/
theorem Looks.leaves (h : Looks s e [] (starting maps) looked (.ok grown)) :
    looked.Nodup ∧ (∀ v, v ∈ looked ↔ v ∈ grown.known) ∧
      (∀ v, v ∈ grown.known ↔
        ∃ u ∈ maps.itemsOf.keySet, Relation.ReflTransGen (HasParent s (some e)) u v) ∧
      (∀ v w, w ∈ grown.tree.parents.next v ↔ v ∈ grown.known ∧ e.Yields s v w) ∧
      grown.tree.Paired ∧ ∀ v, v ∈ grown.tree.roots ↔ v ∈ grown.known ∧ e.YieldsNothing s v := by
  have hgrowing := h.growing (Growing.start s e maps _)
  have hstart := InTurn.start s e maps (if maps.itemsOf.keySet.isEmpty then .item else maps.type)
  have hturn : InTurn s e maps.itemsOf.keySet ([] ++ looked) grown := h.inTurn hstart
  have hdone := h.frontier
  obtain ⟨hnodup, hmem⟩ := h.once hstart
  refine ⟨hnodup, hmem, fun v => hgrowing.mem_known_iff hdone hturn, fun v w => ⟨fun hw => ?_, ?_⟩,
    hgrowing.stems.paired, fun v => hgrowing.mem_roots_iff hdone hturn⟩
  · have hv := hturn.below v w hw
    exact ⟨hv, (hgrowing.mem_parents_iff hdone hv).mp hw⟩
  · exact fun ⟨hv, hw⟩ => (hgrowing.mem_parents_iff hdone hv).mpr hw

/-! ## 4. Paths -/

theorem build_eq_levels {scene : Scene} {e grouping : Expression} {maps : ValueMaps}
    (hmaps : ValueMaps.build scene e = .ok maps) :
    build scene e (some grouping) =
      ((starting maps).levels scene.store grouping (maxLevels scene.store maps.itemsOf.keySet)).map
        Growth.tree := by
  unfold build
  rw [hmaps, ok_bind]
  dsimp only [starting]
  generalize Growth.levels _ _ _ _ = grown
  cases grown <;> rfl

section Path

variable {scene : Scene} {grouping : Expression} {p : Path}

/-- A path that starts from the value that it is asked about never fails, and it leads to so few values
    that the rounds are enough. -/
theorem looks_of_path (hstore : scene.store.Recorded) (hp : grouping.path? = some p)
    (hroot : p.root.getD Roots.defaultName = Roots.defaultName)
    (hmaps : ValueMaps.build scene e = .ok maps) :
    ∃ looked grown, Looks scene.store grouping [] (starting maps) looked (.ok grown) ∧
      build scene e (some grouping) = .ok grown.tree := by
  obtain ⟨grown, hgrown⟩ := levels_succeed_of_path hstore hp hroot maps
    (if maps.itemsOf.keySet.isEmpty then .item else maps.type)
  have hgrown : (starting maps).levels scene.store grouping (maxLevels scene.store maps.itemsOf.keySet) =
    .ok grown := hgrown
  obtain ⟨looked, hlooks⟩ := looks_of_levels hgrown
  exact ⟨looked, grown, hlooks, by rw [build_eq_levels hmaps, hgrown]; rfl⟩

/-- Without values there is nothing to look up. -/
theorem looks_of_nil (hmaps : ValueMaps.build scene e = .ok maps)
    (hknown : maps.itemsOf.keySet.toList = []) :
    Looks scene.store grouping [] (starting maps) [] (.ok (starting maps)) ∧
      build scene e (some grouping) = .ok (starting maps).tree := by
  have hdone : (starting maps).frontier = [] := hknown
  refine ⟨.done hdone, ?_⟩
  rw [build_eq_levels hmaps, maxLevels, levels, if_pos (List.isEmpty_iff.mpr hdone)]
  rfl

/-- A path that starts from another name fails as soon as it is asked about a value. -/
theorem fails_of_path (hp : grouping.path? = some p)
    (hroot : p.root.getD Roots.defaultName ≠ Roots.defaultName)
    (hmaps : ValueMaps.build scene e = .ok maps) {rest : List String}
    (hknown : maps.itemsOf.keySet.toList = v :: rest) :
    ∃ failure, Looks scene.store grouping [] (starting maps) [v] (.error failure) ∧
      build scene e (some grouping) = .error failure := by
  have hfails : grouping.evalOnItem v scene.store =
      .error (.evaluation (.noVariable (p.root.getD Roots.defaultName))) := by
    rw [evalOnItem_of_path hp, if_neg hroot]
  have hfrontier : (starting maps).frontier = v :: rest := hknown
  have hwaiting : (starting maps).frontier ≠ [] := hfrontier ▸ List.cons_ne_nil v rest
  refine ⟨_, .turn hwaiting (by rw [hfrontier]; exact .fail hfails), ?_⟩
  rw [build_eq_levels hmaps, maxLevels, levels, if_neg (mt List.isEmpty_iff.mp hwaiting), level,
    hfrontier, List.mapM_cons, hfails]
  rfl

/-- **The loop of a path comes to an end**, and building the tree comes to the same end. It fails only if
    the path starts from another name and there is a value to look up, which is the last one then. -/
theorem ends_of_path (hstore : scene.store.Recorded) (hp : grouping.path? = some p)
    (hmaps : ValueMaps.build scene e = .ok maps) :
    ∃ looked outcome, Looks scene.store grouping [] (starting maps) looked outcome ∧
      build scene e (some grouping) = outcome.map Growth.tree ∧
      ((∃ failure, outcome = .error failure) ↔
        p.root.getD Roots.defaultName ≠ Roots.defaultName ∧ maps.itemsOf.keySet.toList ≠ []) ∧
      ∀ failure, outcome = .error failure → looked.length = 1 := by
  by_cases hroot : p.root.getD Roots.defaultName = Roots.defaultName
  · obtain ⟨looked, grown, hlooks, hbuild⟩ := looks_of_path hstore hp hroot hmaps
    exact ⟨looked, .ok grown, hlooks, hbuild, ⟨nofun, fun hfails => absurd hroot hfails.1⟩, nofun⟩
  · cases hknown : maps.itemsOf.keySet.toList with
    | nil =>
      exact ⟨[], .ok (starting maps), (looks_of_nil hmaps hknown).1, (looks_of_nil hmaps hknown).2,
        ⟨nofun, fun hfails => absurd rfl hfails.2⟩, nofun⟩
    | cons v rest =>
      obtain ⟨failure, hlooks, hbuild⟩ := fails_of_path hp hroot hmaps hknown
      exact ⟨[v], .error failure, hlooks, hbuild,
        ⟨fun _ => ⟨hroot, List.cons_ne_nil v rest⟩, fun _ => ⟨failure, rfl⟩⟩, fun _ _ => rfl⟩

end Path

end Growth

end Hierarchy

end Faceted
