import Faceted.Proofs.Facet.Counting
import Faceted.Proofs.Hierarchy.Growing
import Faceted.Proofs.Running
import Faceted.Proofs.Store.Run

/-!
# Tallies of values

Lists ask which values some items have, and how many of them have each. The answer should be a tally:
every value once, with the number of the items that have it. Two ways lead to it. A path is walked
forward from all the items at once, and backward from each value met; any other expression has been
evaluated item by item. The walks keep what array hops repeat, so along a path a value may come twice,
and an item count more than once.

* `Tallies` is the specification, and `Tallies.perm` says that there is one tally up to its order;
* `tallies_of_maps`: what has been evaluated is tallied rightly;
* `tallies_path_iff`: a path is, exactly if no walk meets anything twice (`WalkedOnce`), as if only hops
  in the middle of the path are array hops (`walkedOnce_of_hops`);
* **`countsOf_tallies_iff`**: so are all expressions over the store after any run, and in that case alone a
  path is tallied like any other expression with the same values.
-/

namespace Faceted

open Faceted.Expression

/-! ## 1. Tallies -/

namespace Expression

instance (e : Expression) (s : Store) (item value : String) : Decidable (e.Yields s item value) :=
  inferInstanceAs (Decidable (∃ found, e.evalOnItem item s = .ok found ∧ value ∈ found.toList))

/-- Those of the items on which the expression has the value. -/
def havers (e : Expression) (s : Store) (value : String) (items : KeySet) : KeySet :=
  items.filter fun x => decide (e.Yields s x value)

theorem mem_havers {e : Expression} {s : Store} {value x : String} {items : KeySet} :
    x ∈ e.havers s value items ↔ x ∈ items ∧ e.Yields s x value := by
  rw [havers, KeySet.mem_filter, decide_eq_true_iff]

end Expression

/-- Every value that the expression has on some of the items is counted once, with the number of the
    items on which it has it. -/
structure Tallies (counts : List (String × Nat)) (e : Expression) (s : Store) (items : KeySet) :
    Prop where
  once : (counts.map Prod.fst).Nodup
  complete : ∀ v, v ∈ counts.map Prod.fst ↔ ∃ x ∈ items, e.Yields s x v
  exact : ∀ c ∈ counts, c.2 = (e.havers s c.1 items).size

namespace Tallies

variable {counts counts' : List (String × Nat)} {e e' : Expression} {s : Store} {items : KeySet}

theorem mem_iff (h : Tallies counts e s items) {c : String × Nat} : c ∈ counts ↔
    (∃ x ∈ items, e.Yields s x c.1) ∧ c.2 = (e.havers s c.1 items).size := by
  constructor
  · intro hc
    exact ⟨(h.complete c.1).mp (List.mem_map_of_mem hc), h.exact c hc⟩
  · rintro ⟨hsome, hcount⟩
    obtain ⟨d, hd, hvalue⟩ := List.mem_map.mp ((h.complete c.1).mpr hsome)
    have hsame : d = c := Prod.ext hvalue (by rw [h.exact d hd, hvalue, hcount])
    exact hsame ▸ hd

/-- Expressions with the same values on the items have the same tallies. -/
theorem congr (hvalues : ∀ x ∈ items, ∀ v, e.Yields s x v ↔ e'.Yields s x v)
    (h : Tallies counts e s items) : Tallies counts e' s items where
  once := h.once
  complete v := by
    rw [h.complete]
    exact exists_congr fun x => and_congr_right fun hx => hvalues x hx v
  exact c hc := by
    rw [h.exact c hc]
    refine congrArg KeySet.size (KeySet.ext fun x => ?_)
    rw [mem_havers, mem_havers]
    exact and_congr_right fun hx => hvalues x hx c.1

/-- **There is one tally**, up to its order. -/
theorem perm (h : Tallies counts e s items) (h' : Tallies counts' e s items) : counts.Perm counts' :=
  (List.perm_ext_iff_of_nodup h.once.of_map h'.once.of_map).mpr fun _ => h.mem_iff.trans h'.mem_iff.symm

theorem of_perm (hperm : counts.Perm counts') (h : Tallies counts e s items) :
    Tallies counts' e s items where
  once := (hperm.map Prod.fst).nodup_iff.mp h.once
  complete v := by rw [← (hperm.map Prod.fst).mem_iff, h.complete]
  exact c hc := h.exact c (hperm.mem_iff.mpr hc)

end Tallies

/-- What is counted for values is told apart by the values. -/
theorem map_fst_counted (values : List String) (count : String → Nat) :
    (values.map fun v => (v, count v)).map Prod.fst = values := by
  rw [List.map_map]
  exact List.map_id _

/-! ## 2. What has been evaluated -/

/-- **The maps of an expression tally it.** -/
theorem tallies_of_maps {scene : Scene} {e : Expression} {maps : ValueMaps}
    (hbuild : ValueMaps.build scene e = .ok maps) {items : KeySet}
    (hitems : ∀ x ∈ items, x ∈ scene.allItems) :
    Tallies ((maps.itemsOf.toList.map fun (v, holders) => (v, (holders.inter items).size)).filter
      fun c => 0 < c.2) e scene.store items := by
  have hhavers (v : String) : (maps.holders v).inter items = e.havers scene.store v items := by
    refine KeySet.ext fun x => ?_
    rw [KeySet.mem_inter, ValueMaps.mem_holders_build hbuild, mem_havers, and_comm]
    exact and_congr_right fun hx => and_iff_right (hitems x hx)
  have hcounts : (maps.itemsOf.toList.map fun (v, holders) => (v, (holders.inter items).size)) =
      maps.itemsOf.keys.map fun v => (v, (e.havers scene.store v items).size) := by
    rw [KeyMap.keys, List.map_map]
    refine List.map_congr_left fun entry hentry => ?_
    show (entry.1, _) = (entry.1, _)
    rw [← hhavers, ValueMaps.holders, KeyMap.get?_of_mem_toList hentry]
    rfl
  rw [hcounts]
  refine ⟨?_, fun v => ?_, fun c hc => ?_⟩
  · refine (List.filter_sublist.map Prod.fst).nodup ?_
    rw [map_fst_counted]
    exact maps.itemsOf.nodup_keys
  · simp only [List.mem_map, List.mem_filter, decide_eq_true_iff]
    constructor
    · rintro ⟨c, ⟨⟨v, -, rfl⟩, hpos⟩, rfl⟩
      obtain ⟨x, hx⟩ := List.exists_mem_of_length_pos hpos
      exact ⟨x, mem_havers.mp hx⟩
    · rintro ⟨x, hx, hyields⟩
      have hholds : x ∈ maps.holders v := (ValueMaps.mem_holders_build hbuild).mpr ⟨hitems x hx, hyields⟩
      have hmem : x ∈ e.havers scene.store v items := mem_havers.mpr ⟨hx, hyields⟩
      exact ⟨_, ⟨⟨v, ValueMaps.mem_keySet_of_mem_holders hholds, rfl⟩, List.length_pos_of_mem hmem⟩, rfl⟩
  · obtain ⟨v, -, rfl⟩ := List.mem_map.mp (List.mem_filter.mp hc).1
    rfl

/-! ## 3. What is walked -/

/-- The walk forward from the items meets no value twice, and the walk back from none of these meets an
    item twice. -/
def WalkedOnce (s : Store) (hops : List Hop) (items : KeySet) : Prop :=
  (walkForward s hops (.ofSet items .item)).toList.Nodup ∧
    ∀ v ∈ (walkForward s hops (.ofSet items .item)).toList,
      ∀ type, (walkBackward s (some items) hops (.single v type)).toList.Nodup

/-- Along an expression without path nothing is walked. -/
def Expression.walkedOnce (e : Expression) (s : Store) (items : KeySet) : Prop :=
  ∀ p, e.path? = some p → WalkedOnce s p.hops items

/-- Hops repeat values if the last of them is an array hop. -/
def repeatsValues (hops : List Hop) : Bool := hops.getLast?.any Hop.isArray

theorem nodup_walkForward {s : Store} {hops : List Hop} (h : repeatsValues hops = false)
    (items : KeySet) : (walkForward s hops (.ofSet items .item)).toList.Nodup := by
  rcases List.eq_nil_or_concat hops with rfl | ⟨front, last, rfl⟩
  · exact items.nodup_toList
  · rw [List.concat_eq_append, walkForward_append]
    have harray : last.isArray = false := by simpa [repeatsValues] using h
    exact nodup_follow_of_set harray

/-- **Hops in the middle of a path repeat nothing.** -/
theorem walkedOnce_of_hops {s : Store} {hops : List Hop} (hvalues : repeatsValues hops = false)
    (hitems : repeatsItems hops = false) (items : KeySet) : WalkedOnce s hops items :=
  ⟨nodup_walkForward hvalues items, fun v _ type => nodup_walkBackward_single hitems (some items) v type⟩

section Paths

variable {s : Store} {l : Ledger} {e : Expression} {p : Path} {items : KeySet} {x v : String}

/-- Where the path can be evaluated on an item, it leads from the item to its values. -/
theorem yields_iff_leads (hp : e.path? = some p) (heval : ∃ found, e.evalOnItem x s = .ok found) :
    e.Yields s x v ↔ Leads s p.hops x v := by
  obtain ⟨found, hfound⟩ := heval
  unfold Yields
  rw [evalOnItem_of_path hp] at hfound ⊢
  split at hfound
  · next hroot =>
    rw [if_pos hroot]
    simp only [Except.ok.injEq, exists_eq_left', mem_walkForward]
    simp [Values.single]
  · cases hfound

/-- Of a value that is met the walk back finds the items that have it. -/
theorem mem_walkBackward_met (hs : s.Refines l) (hp : e.path? = some p)
    (heval : ∀ x ∈ items, ∃ found, e.evalOnItem x s = .ok found)
    (hv : v ∈ (walkForward s p.hops (.ofSet items .item)).toList) (type : ValueType) :
    x ∈ (walkBackward s (some items) p.hops (.single v type)).toList ↔ x ∈ e.havers s v items := by
  have hmember : x ∈ (walkBackward s (some items) p.hops (.single v type)).toList ↔
      x ∈ items ∧ Leads s p.hops x v := by
    by_cases hhops : p.hops = []
    · -- without hops the walk stays at the value, which is an item
      rw [hhops] at hv ⊢
      show x ∈ [v] ↔ x ∈ items ∧ x = v
      have hitem : v ∈ items := hv
      rw [List.mem_singleton]
      exact ⟨fun h => ⟨h ▸ hitem, h⟩, And.right⟩
    · rw [mem_walkBackward_filter hhops, mem_walkBackward hs]
      simp [Values.single]
  rw [hmember, mem_havers]
  exact and_congr_right fun hx => (yields_iff_leads hp (heval x hx)).symm

/-- **What is walked is a tally exactly if nothing is met twice.** -/
theorem tallies_path_iff (hs : s.Refines l) (hp : e.path? = some p)
    (heval : ∀ x ∈ items, ∃ found, e.evalOnItem x s = .ok found) :
    Tallies ((walkForward s p.hops (.ofSet items .item)).toList.map fun v =>
      (v, (walkBackward s (some items) p.hops
        (.single v (walkForward s p.hops (.ofSet items .item)).type)).size)) e s items ↔
    WalkedOnce s p.hops items := by
  generalize hvalues : walkForward s p.hops (.ofSet items .item) = values
  have hmet {v x : String} (hv : v ∈ values.toList) (type : ValueType) :=
    mem_walkBackward_met (x := x) hs hp heval (hvalues ▸ hv) type
  have hsize {v : String} (hv : v ∈ values.toList) (type : ValueType) :
      (walkBackward s (some items) p.hops (.single v type)).size = (e.havers s v items).size ↔
        (walkBackward s (some items) p.hops (.single v type)).toList.Nodup := by
    rw [← Values.size_toSet_eq_iff, eq_comm]
    refine Eq.congr_left (congrArg KeySet.size (KeySet.ext fun x => ?_))
    rw [Values.mem_toSet, hmet hv type]
  have hcomplete (v : String) : v ∈ values.toList ↔ ∃ x ∈ items, e.Yields s x v := by
    rw [← hvalues, mem_walkForward]
    exact exists_congr fun x => and_congr_right fun hx => (yields_iff_leads hp (heval x hx)).symm
  unfold WalkedOnce
  rw [hvalues]
  constructor
  · rintro ⟨honce, -, hexact⟩
    rw [map_fst_counted] at honce
    refine ⟨honce, fun v hv type => ?_⟩
    rw [toList_walkBackward_congr s (some items) p.hops
      (show (Values.single v type).toList = (Values.single v values.type).toList from rfl), ← hsize hv]
    exact hexact _ (List.mem_map_of_mem hv)
  · rintro ⟨honce, hback⟩
    refine ⟨?_, fun v => ?_, fun c hc => ?_⟩
    · rw [map_fst_counted]
      exact honce
    · rw [map_fst_counted, hcomplete]
    · obtain ⟨v, hv, rfl⟩ := List.mem_map.mp hc
      exact (hsize hv values.type).mpr (hback v hv values.type)

end Paths

/-! ## 4. Counts -/

/-- The expression has values on every item there is, and what is kept of them has been found there. -/
structure ValueCache.Serves (cache : ValueCache) (scene : Scene) (e : Expression) : Prop where
  evaluates : ∀ x ∈ scene.allItems, ∃ found, e.evalOnItem x scene.store = .ok found
  current : ∀ maps, cache = some maps → ValueMaps.build scene e = .ok maps

namespace ValueCache.Serves

variable {cache : ValueCache} {scene : Scene} {e : Expression} {items : KeySet}

theorem answering_build (h : cache.Serves scene e) : ∃ maps,
    answering cache (ValueMaps.build scene e) = .ok maps ∧ ValueMaps.build scene e = .ok maps := by
  cases hcache : cache with
  | some maps => exact ⟨maps, rfl, h.current maps hcache⟩
  | none =>
    obtain ⟨results, hresults⟩ := mapM_pairs_succeeds
      fun (x : String) (hx : x ∈ scene.allItems.toList) => h.evaluates x hx
    have hbuild : ∃ maps, ValueMaps.build scene e = .ok maps := by
      unfold ValueMaps.build
      rw [hresults]
      exact ⟨_, rfl⟩
    obtain ⟨maps, hmaps⟩ := hbuild
    exact ⟨maps, hmaps, hmaps⟩

/-- An expression that is no path is tallied. -/
theorem tallies_computed (h : cache.Serves scene e) (hp : e.path? = none)
    (hitems : ∀ x ∈ items, x ∈ scene.allItems) : ∃ counts type,
    (cache.countsOf scene e items).1 = .ok (counts, type) ∧ Tallies counts e scene.store items := by
  obtain ⟨maps, hanswer, hbuild⟩ := h.answering_build
  refine ⟨_, maps.type, ?_, tallies_of_maps hbuild hitems⟩
  rw [ValueCache.countsOf, hp]
  dsimp only
  rw [ValueCache.ask_eq, hanswer]
  rfl

theorem tallies_iff {l : Ledger} (hs : scene.store.Refines l) (h : cache.Serves scene e)
    (hitems : ∀ x ∈ items, x ∈ scene.allItems) : ∃ counts type,
    (cache.countsOf scene e items).1 = .ok (counts, type) ∧
      (Tallies counts e scene.store items ↔ e.walkedOnce scene.store items) := by
  unfold walkedOnce
  cases hp : e.path? with
  | none =>
    obtain ⟨counts, type, hcounts, htallies⟩ := h.tallies_computed hp hitems
    exact ⟨counts, type, hcounts, iff_of_true htallies nofun⟩
  | some p =>
    refine ⟨_, _, by rw [ValueCache.countsOf, hp], ?_⟩
    rw [tallies_path_iff hs hp fun x hx => h.evaluates x (hitems x hx)]
    simp

end ValueCache.Serves

/-- **Values are tallied**, over the store after any run, exactly unless a walk along the expression meets
    something twice, which along a path it only does if the first of several hops or the last hop is an
    array hop. In that case and in no other the counts are those of any expression that is no path and
    has the same values. -/
theorem countsOf_tallies_iff (ops : List StoreOperation) {allItems items : KeySet}
    (hitems : ∀ x ∈ items, x ∈ allItems) {e : Expression} {cache : ValueCache}
    (h : cache.Serves ⟨storeAfter ops, allItems⟩ e) : ∃ counts type,
    (cache.countsOf ⟨storeAfter ops, allItems⟩ e items).1 = .ok (counts, type) ∧
    (Tallies counts e (storeAfter ops) items ↔ e.walkedOnce (storeAfter ops) items) ∧
    ((∀ p, e.path? = some p → repeatsValues p.hops = false ∧ repeatsItems p.hops = false) →
      e.walkedOnce (storeAfter ops) items) ∧
    ∀ (e' : Expression) (cache' : ValueCache), e'.path? = none →
      cache'.Serves ⟨storeAfter ops, allItems⟩ e' →
      (∀ x ∈ items, ∀ v, e'.Yields (storeAfter ops) x v ↔ e.Yields (storeAfter ops) x v) →
      ∃ counts' type',
        (cache'.countsOf ⟨storeAfter ops, allItems⟩ e' items).1 = .ok (counts', type') ∧
        (counts.Perm counts' ↔ e.walkedOnce (storeAfter ops) items) := by
  obtain ⟨counts, type, hcounts, htallies⟩ := h.tallies_iff (storeAfter_refines ops) hitems
  refine ⟨counts, type, hcounts, htallies, fun hhops p hp => ?_, fun e' cache' hp' h' hvalues => ?_⟩
  · obtain ⟨hvalues, hback⟩ := hhops p hp
    exact walkedOnce_of_hops hvalues hback items
  · obtain ⟨counts', type', hcounts', htallies'⟩ := h'.tallies_computed hp' hitems
    have hsame : Tallies counts' e (storeAfter ops) items := htallies'.congr hvalues
    refine ⟨counts', type', hcounts', ?_⟩
    rw [← htallies]
    exact ⟨fun hperm => hsame.of_perm hperm.symm, fun hown => hown.perm hsame⟩

/-- Two grey trees. -/
def grove : List StoreOperation := [.add ⟨"ash", "colour", "grey"⟩, .add ⟨"elm", "colour", "grey"⟩]

/-- The colours of an item, by a plain hop or by an array hop. -/
def coloursBy (array : Bool) : Expression :=
  ⟨if array then ".@colour" else ".colour", .path ⟨none, [⟨"colour", true, array⟩]⟩⟩

theorem countsOf_grey :
    (∀ x ∈ KeySet.ofList ["ash", "elm"], x ∈ KeySet.ofList ["ash", "elm"]) ∧
    ValueCache.Serves none ⟨storeAfter grove, KeySet.ofList ["ash", "elm"]⟩ (coloursBy false) ∧
    (ValueCache.countsOf none ⟨storeAfter grove, KeySet.ofList ["ash", "elm"]⟩ (coloursBy false)
      (KeySet.ofList ["ash", "elm"])).1 = .ok ([("grey", 2)], .text) ∧
    Tallies [("grey", 2)] (coloursBy false) (storeAfter grove) (KeySet.ofList ["ash", "elm"]) := by
  have hitems : ∀ x ∈ KeySet.ofList ["ash", "elm"], x ∈ KeySet.ofList ["ash", "elm"] := fun _ => id
  have hserves : ValueCache.Serves none ⟨storeAfter grove, KeySet.ofList ["ash", "elm"]⟩
      (coloursBy false) := ⟨fun x _ => ⟨_, (evalOnItem_of_path rfl x _).trans (if_pos rfl)⟩, nofun⟩
  have hcounts : (ValueCache.countsOf none ⟨storeAfter grove, KeySet.ofList ["ash", "elm"]⟩
      (coloursBy false) (KeySet.ofList ["ash", "elm"])).1 = .ok ([("grey", 2)], .text) := rfl
  obtain ⟨counts, type, hok, htallies, hsufficient, -⟩ := countsOf_tallies_iff grove hitems hserves
  cases hcounts.symm.trans hok
  refine ⟨hitems, hserves, hcounts, htallies.mpr (hsufficient fun p hp => ?_)⟩
  cases hp
  exact ⟨rfl, rfl⟩

/-- **Grey comes twice where two trees have it and an array hop leads there.** -/
theorem countsOf_grey_twice :
    (ValueCache.countsOf none ⟨storeAfter grove, KeySet.ofList ["ash", "elm"]⟩ (coloursBy true)
      (KeySet.ofList ["ash", "elm"])).1 = .ok ([("grey", 2), ("grey", 2)], .text) ∧
    ¬ Tallies [("grey", 2), ("grey", 2)] (coloursBy true) (storeAfter grove)
      (KeySet.ofList ["ash", "elm"]) :=
  ⟨rfl, fun h => absurd h.once (by decide)⟩

end Faceted
