import Faceted.Proofs.Expression.Converse
import Faceted.Proofs.KeySet.Sizes
import Faceted.Proofs.Store.Run
import Mathlib.Data.List.Nodup
import Mathlib.Data.Set.Card

/-!
# Chains of statements

What a path leads to from a text is told by the statements of the store alone: there is a chain of
them, one statement for each hop. The marks of array hops play no part in that. They matter for how often
a value is met: along array hops it is met once for every chain.

* `Chain` is a chain of statements of a ledger, and `leads_iff_chain`: a path leads to where one ends;
* `chains` lists all chains from a text (`mem_chains`), none of them twice (`nodup_chains`);
* `perm_walkForward`: along array hops what is met are the ends of the chains, one by one;
* **`walkForward_chains`**: walks from several items, without regard to array marks, and along array hops.
-/

namespace Faceted.Expression

variable {s : Store} {l : Ledger} {h : Hop} {hops : List Hop} {x y : String} {ts : List Statement}

/-! ## 1. Chains -/

/-- Where a statement is taken up along the hop. -/
def Hop.source (h : Hop) (t : Statement) : String := if h.forward then t.subject else t.object

/-- Where a statement leads to along the hop. -/
def Hop.target (h : Hop) (t : Statement) : String := if h.forward then t.object else t.subject

/-- The statements, one for each hop, lead from the one text to the other. -/
inductive Chain (l : Ledger) : List Hop → String → List Statement → String → Prop
  | done (x : String) : Chain l [] x [] x
  | step {h : Hop} {hops : List Hop} {x y : String} {t : Statement} {ts : List Statement}
      (hmem : t ∈ l) (hproperty : t.property = h.property) (hsource : h.source t = x)
      (hrest : Chain l hops (h.target t) ts y) : Chain l (h :: hops) x (t :: ts) y

/-- The statements of a ledger that can be taken up at a text. -/
def Hop.statements (h : Hop) (l : Ledger) (x : String) : List Statement :=
  l.filter fun t => h.source t == x && t.property == h.property

theorem Hop.mem_statements {t : Statement} :
    t ∈ h.statements l x ↔ t ∈ l ∧ h.source t = x ∧ t.property = h.property := by
  simp only [Hop.statements, List.mem_filter, Bool.and_eq_true, beq_iff_eq]

/-- What is listed for a text is where its statements lead to. -/
theorem Hop.listed_eq (hs : s.Refines l) (h : Hop) (x : String) :
    h.listed s x = (h.statements l x).map h.target := by
  unfold Hop.listed Hop.statements Hop.source Hop.target
  cases h.forward with
  | true => exact hs.objectList x h.property
  | false => exact hs.subjectList x h.property

/-- **A path leads to where a chain ends.** -/
theorem leads_iff_chain (hs : s.Refines l) : Leads s hops x y ↔ ∃ ts, Chain l hops x ts y := by
  induction hops generalizing x with
  | nil =>
    constructor
    · rintro rfl
      exact ⟨[], .done x⟩
    · rintro ⟨ts, hchain⟩
      cases hchain
      rfl
  | cons h hops ih =>
    simp only [Leads, ih, Hop.listed_eq hs, List.mem_map, Hop.mem_statements]
    constructor
    · rintro ⟨z, ⟨t, ⟨hmem, hsource, hproperty⟩, rfl⟩, ts, hrest⟩
      exact ⟨t :: ts, .step hmem hproperty hsource hrest⟩
    · rintro ⟨ts, hchain⟩
      cases hchain with
      | step hmem hproperty hsource hrest =>
        exact ⟨_, ⟨_, ⟨hmem, hsource, hproperty⟩, rfl⟩, _, hrest⟩

/-! ## 2. All chains -/

/-- The chains from a text along the hops, each with where it leads to. -/
def chains (l : Ledger) : List Hop → String → List (List Statement × String)
  | [], x => [([], x)]
  | h :: hops, x => (h.statements l x).flatMap fun t =>
      (chains l hops (h.target t)).map fun (ts, y) => (t :: ts, y)

theorem mem_chains : (ts, y) ∈ chains l hops x ↔ Chain l hops x ts y := by
  induction hops generalizing x ts with
  | nil =>
    simp only [chains, List.mem_singleton, Prod.mk.injEq]
    constructor
    · rintro ⟨rfl, rfl⟩
      exact .done y
    · intro hchain
      cases hchain
      exact ⟨rfl, rfl⟩
  | cons h hops ih =>
    simp only [chains, List.mem_flatMap, List.mem_map, Prod.exists, Prod.mk.injEq,
      Hop.mem_statements]
    constructor
    · rintro ⟨t, ⟨hmem, hsource, hproperty⟩, us, z, hrest, rfl, rfl⟩
      exact .step hmem hproperty hsource (ih.mp hrest)
    · intro hchain
      cases hchain with
      | step hmem hproperty hsource hrest =>
        exact ⟨_, ⟨hmem, hsource, hproperty⟩, _, _, ih.mpr hrest, rfl, rfl⟩

theorem nodup_chains (hl : l.Nodup) : (chains l hops x).Nodup := by
  induction hops generalizing x with
  | nil => exact List.nodup_singleton _
  | cons h hops ih =>
    rw [chains, List.nodup_flatMap]
    refine ⟨fun t _ => ih.map fun a b hab => ?_, ?_⟩
    · simpa [Prod.ext_iff] using hab
    · -- chains that begin with different statements differ
      refine (hl.filter _).imp fun {t u} hne => ?_
      simp only [Function.onFun, List.disjoint_left, List.mem_map, Prod.exists, not_exists, not_and]
      rintro _ ⟨ts, y, -, rfl⟩ us z - heq
      simp only [Prod.mk.injEq, List.cons.injEq] at heq
      exact hne heq.1.1.symm

/-- Chains from different texts differ, if there is a hop. -/
theorem Chain.start_unique (hhops : hops ≠ []) {x' y' : String} (hchain : Chain l hops x ts y)
    (hchain' : Chain l hops x' ts y') : x = x' := by
  cases hchain with
  | done => exact absurd rfl hhops
  | step _ _ hsource _ =>
    cases hchain' with
    | step _ _ hsource' _ => exact hsource.symm.trans hsource'

/-! ## 3. Walks -/

/-- The hop without its array mark. -/
def Hop.unmarked (h : Hop) : Hop := { h with isArray := false }

theorem leads_unmarked : Leads s (hops.map Hop.unmarked) x y ↔ Leads s hops x y := by
  induction hops generalizing x with
  | nil => exact Iff.rfl
  | cons h hops ih =>
    simp only [List.map_cons, Leads, ih]
    exact Iff.rfl

/-- What a walk leads to depends on the values it starts from, and not on array marks. -/
theorem mem_toSet_walkForward {vs : Values} :
    y ∈ (walkForward s hops vs).toSet ↔
      ∃ x ∈ vs.toList, Leads s (hops.map Hop.unmarked) x y := by
  simp only [Values.mem_toSet, mem_walkForward, leads_unmarked]

/-- Following an array hop from a text is to take up each of its statements. -/
theorem perm_targets (hs : s.Refines l) (h : Hop) (x : String) :
    (h.targets s x none).toList.Perm ((h.statements l x).map h.target) := by
  have hnodup : ((h.statements l x).map h.target).Nodup := by
    rw [← Hop.listed_eq hs]
    unfold Hop.listed
    split
    · rw [hs.objectList]
      exact Ledger.objects_nodup hs.nodup x h.property
    · rw [hs.subjectList, Ledger.subjects_eq_objects]
      exact Ledger.objects_nodup (hs.nodup.map Statement.flipped_injective) x h.property
  refine KeySet.perm_toList hnodup fun y => ?_
  rw [mem_targets, Hop.listed_eq hs, KeySet.passes_none, eq_self, and_true]

/-- **Along array hops the ends of all chains are met**, one by one. -/
theorem perm_walkForward (hs : s.Refines l) (harray : ∀ h ∈ hops, h.isArray = true) (vs : Values) :
    (walkForward s hops vs).toList.Perm
      (vs.toList.flatMap fun x => (chains l hops x).map Prod.snd) := by
  induction hops generalizing vs with
  | nil =>
    have hends : (vs.toList.flatMap fun x => (chains l [] x).map Prod.snd) = vs.toList :=
      List.flatMap_singleton' vs.toList
    rw [hends]
    exact .refl _
  | cons h hops ih =>
    obtain ⟨hmark, harray⟩ := List.forall_mem_cons.mp harray
    have hfollow : (follow s h none vs).toList =
        vs.toList.flatMap fun x => (h.targets s x none).toList := by
      unfold follow
      rw [if_pos hmark]
      rfl
    refine (ih harray (follow s h none vs)).trans ?_
    rw [hfollow, List.flatMap_assoc]
    refine List.Perm.flatMap_left _ fun x _ => ?_
    refine ((perm_targets hs h x).flatMap_right _).trans (.of_eq ?_)
    simp only [chains, List.flatMap_map, List.map_flatMap, List.map_map]
    rfl

/-- Along array hops a walk from a set meets a value once for every chain that leads to it from a
    member. -/
theorem count_walkForward (hs : s.Refines l) (hhops : hops ≠ [])
    (harray : ∀ h ∈ hops, h.isArray = true) (items : KeySet) (type : ValueType) (v : String) :
    (((walkForward s hops (.ofSet items type)).toList.count v : ℕ) : ℕ∞) =
      {ts | ∃ x ∈ items, Chain l hops x ts v}.encard := by
  let all := items.toList.flatMap (chains l hops)
  let toV := (all.filter fun c => c.2 == v).map Prod.fst
  have hall : all.Nodup := by
    rw [List.nodup_flatMap]
    refine ⟨fun x _ => nodup_chains hs.nodup, (KeySet.nodup_toList items).imp fun {x x'} hne => ?_⟩
    rw [Function.onFun, List.disjoint_left]
    rintro ⟨ts, y⟩ hts hts'
    exact hne ((mem_chains.mp hts).start_unique hhops (mem_chains.mp hts'))
  have hnodup : toV.Nodup := by
    refine (hall.filter _).map_on ?_
    rintro ⟨ts, y⟩ hy ⟨us, z⟩ hz heq
    simp only [List.mem_filter, beq_iff_eq] at hy hz heq
    rw [heq, hy.2, hz.2]
  have hset : {ts | ∃ x ∈ items, Chain l hops x ts v} = (toV.toFinset : Set (List Statement)) := by
    ext ts
    simp [toV, all, mem_chains]
  have hcount : (walkForward s hops (.ofSet items type)).toList.count v = toV.length := by
    rw [(perm_walkForward hs harray _).count_eq, ← List.map_flatMap, List.count_eq_countP,
      List.countP_map, List.length_map, List.countP_eq_length_filter]
    rfl
  rw [hset, Set.encard_coe_eq_coe_finsetCard, List.toFinset_card_of_nodup hnodup, hcount]

/-- An array hop, if it is the last one, leaves a list. -/
theorem walkForward_eq_ofList (hhops : hops ≠ []) (harray : ∀ h ∈ hops, h.isArray = true)
    (vs : Values) : ∃ found type, walkForward s hops vs = .ofList found type := by
  obtain ⟨front, last, rfl⟩ := (List.eq_nil_or_concat' hops).resolve_left hhops
  have hmark : last.isArray = true := harray last (by simp)
  rw [walkForward_append, walkForward, List.foldl_cons, List.foldl_nil, follow, if_pos hmark]
  exact ⟨_, _, rfl⟩

/-! ## 4. Runs -/

/-- **Walks add up, and array marks only keep repetitions.** Over the store after any run, a walk from the
    items of two sets leads to what the walks from each lead to, and a walk along the same hops with other
    marks to the same values. Along array hops only, a walk from a set is a list that holds each value as
    often as there are chains of statements to it from a member. -/
theorem walkForward_chains (ops : List StoreOperation) (hops : List Hop) :
    (∀ (items items' : KeySet) (type : ValueType),
      (walkForward (storeAfter ops) hops (.ofSet (items.union items') type)).toSet =
        (walkForward (storeAfter ops) hops (.ofSet items type)).toSet.union
          (walkForward (storeAfter ops) hops (.ofSet items' type)).toSet) ∧
    (∀ hops' : List Hop, hops'.map Hop.unmarked = hops.map Hop.unmarked → ∀ values : Values,
      (walkForward (storeAfter ops) hops' values).toSet =
        (walkForward (storeAfter ops) hops values).toSet) ∧
    (hops ≠ [] → (∀ h ∈ hops, h.isArray = true) → ∀ (items : KeySet) (type : ValueType),
      ∃ found foundType,
        walkForward (storeAfter ops) hops (.ofSet items type) = .ofList found foundType ∧
          ∀ v, ((found.count v : ℕ) : ℕ∞) =
            {ts | ∃ x ∈ items, Chain (ledgerOf ops) hops x ts v}.encard) := by
  refine ⟨fun items items' type => KeySet.ext fun y => ?_, fun hops' hmarks values =>
    KeySet.ext fun y => ?_, fun hhops harray items type => ?_⟩
  · simp only [KeySet.mem_union, mem_toSet_walkForward, Values.toList_ofSet, KeySet.mem_toList,
      or_and_right, exists_or]
  · rw [mem_toSet_walkForward, mem_toSet_walkForward, hmarks]
  · obtain ⟨found, foundType, hfound⟩ :=
      walkForward_eq_ofList (s := storeAfter ops) hhops harray (.ofSet items type)
    refine ⟨found, foundType, hfound, fun v => ?_⟩
    rw [← count_walkForward (storeAfter_refines ops) hhops harray items type v, hfound]
    rfl

/-- Who knows whom, and who wears what. -/
def wardrobe : List StoreOperation :=
  [.add ⟨"ann", "knows", "bea"⟩, .add ⟨"eve", "knows", "bea"⟩, .add ⟨"eve", "knows", "cid"⟩,
    .add ⟨"bea", "wears", "red"⟩, .add ⟨"cid", "wears", "red"⟩]

/-- There are three ways to come from Ann or Eve to red. -/
theorem three_ways_to_red :
    ([⟨"knows", true, false⟩, ⟨"wears", true, true⟩] : List Hop).map Hop.unmarked =
        ([⟨"knows", true, true⟩, ⟨"wears", true, true⟩] : List Hop).map Hop.unmarked ∧
      ([⟨"knows", true, true⟩, ⟨"wears", true, true⟩] : List Hop) ≠ [] ∧
      (∀ h ∈ ([⟨"knows", true, true⟩, ⟨"wears", true, true⟩] : List Hop), h.isArray = true) ∧
      (walkForward (storeAfter wardrobe) [⟨"knows", true, false⟩, ⟨"wears", true, true⟩]
        (.ofSet (KeySet.ofList ["ann", "eve"]) .item)).toSet = KeySet.ofList ["red"] ∧
      {ts | ∃ x ∈ KeySet.ofList ["ann", "eve"], Chain (ledgerOf wardrobe)
        [⟨"knows", true, true⟩, ⟨"wears", true, true⟩] x ts "red"}.encard = 3 := by
  obtain ⟨-, hmarks, hcounts⟩ := walkForward_chains wardrobe
    [⟨"knows", true, true⟩, ⟨"wears", true, true⟩]
  have hsame : ([⟨"knows", true, false⟩, ⟨"wears", true, true⟩] : List Hop).map Hop.unmarked =
      ([⟨"knows", true, true⟩, ⟨"wears", true, true⟩] : List Hop).map Hop.unmarked := rfl
  have hhops : ([⟨"knows", true, true⟩, ⟨"wears", true, true⟩] : List Hop) ≠ [] := List.cons_ne_nil _ _
  have harray : ∀ h ∈ ([⟨"knows", true, true⟩, ⟨"wears", true, true⟩] : List Hop), h.isArray = true :=
    by decide
  obtain ⟨found, foundType, hfound, hcount⟩ :=
    hcounts hhops harray (KeySet.ofList ["ann", "eve"]) .item
  have hthree : found.count "red" = 3 := by
    rw [← Values.toList_ofList found foundType, ← hfound]
    decide
  refine ⟨hsame, hhops, harray, ?_, ?_⟩
  · rw [hmarks _ hsame]
    decide
  · rw [← hcount "red", hthree]
    rfl

end Faceted.Expression
