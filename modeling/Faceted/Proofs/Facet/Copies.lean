import Faceted.Proofs.Facet.Fresh
import Faceted.Proofs.Facet.Showing

/-!
# Copies that keep nothing

Whatever a facet is used for, it is left with what is true of store and root items; and as long as that
is so, it answers like a copy of itself that keeps nothing.

* `Facet.Use`: what a facet may be used for;
* **`keepsTrue_use`**: a use keeps what is true;
* **`sameAnswer_restrict`**, **`sameAnswer_update`** and **`sameAnswer_perform`**: the answers of a facet
  that keeps what is true are those of its copy, and what is left behind differs in what is kept at
  most.
-/

namespace Faceted

namespace Facet

variable {scene scene' : Scene} {f g : Facet}

/-! ## 1. Uses -/

/-- What a facet may be used for, with what is left of facet and store: it narrows, it counts, it is
    changed, or it is made to drop what it keeps. -/
inductive Use (f : Facet) (scene : Scene) : Facet → Store → Prop where
  | restrict (items : KeySet) :
      f.Use scene (f.restrict scene items).2.1 (f.restrict scene items).2.2
  | update (items : KeySet) : f.Use scene (f.update scene items).2.1 (f.update scene items).2.2
  | perform (change : Change) : f.Use scene (f.perform scene change).2 scene.store
  | dropCaches : f.Use scene f.dropCaches scene.store

/-- What a facet works out depends on what is stored and on what its expressions yield. -/
theorem memoFor_alikeFor (hs : scene.AlikeFor f.expressions scene') :
    f.memoFor scene = f.memoFor scene' := by
  cases f with
  | list f =>
    exact Option.map_congr fun e he =>
      congrArg (Except.map Memo.maps) (hs.maps (Option.mem_toList.mpr he))
  | cloud f =>
    exact Option.map_congr fun e he =>
      congrArg (Except.map Memo.maps) (hs.maps (Option.mem_toList.mpr he))
  | numericRange f =>
    exact Option.map_congr fun e he =>
      congrArg (Except.map Memo.index) (hs.index (Option.mem_toList.mpr he) _)
  | alphaRange f =>
    exact Option.map_congr fun e he =>
      congrArg (Except.map Memo.index) (hs.index (Option.mem_toList.mpr he) _)
  | hierarchical f =>
    exact Option.map_congr fun e he =>
      congrArg (Except.map Memo.tree) (HierarchicalFacet.tree_alike he hs)
  | textSearch f =>
    exact congrArg (fun built => some (Except.map Memo.texts built)) (hs.texts fun _ he => he)
  | derived f => rfl

theorem keepsTrue_alikeFor (hs : scene.AlikeFor f.expressions scene') (hf : f.KeepsTrue scene) :
    f.KeepsTrue scene' := by
  intro m hm
  rw [← memoFor_alikeFor hs]
  exact hf m hm

theorem keepsTrue_alike (hs : scene.Alike scene') (hf : f.KeepsTrue scene) : f.KeepsTrue scene' :=
  keepsTrue_alikeFor (hs.alikeFor f.expressions) hf

/-- What stands for the same keeps what is true, if it keeps nothing else. -/
theorem keepsTrue_of_settled (h : g.settled scene = f.settled scene)
    (hmemo : f.memoFor scene = none → g.memo = f.memo) (hf : f.KeepsTrue scene) :
    g.KeepsTrue scene := by
  obtain ⟨hfresh, hnone⟩ := keepsTrue_iff.mp hf
  refine keepsTrue_iff.mpr ⟨fresh_of_settled h hfresh, fun hsilent => ?_⟩
  rw [← memoFor_settled, h, memoFor_settled] at hsilent
  rw [hmemo hsilent, hnone hsilent]

theorem SameMemo.keepsTrue (h : f.SameMemo g) (hf : f.KeepsTrue scene) : g.KeepsTrue scene := by
  intro m hm
  rw [h.memoFor]
  exact hf m (h.memo ▸ hm)

theorem Use.store_alike {store : Store} (h : f.Use scene g store) : scene.store.Alike store := by
  cases h with
  | restrict items => exact f.restrict_store_alike scene items
  | update items => exact f.update_store_alike scene items
  | perform change => exact Store.Alike.refl _
  | dropCaches => exact Store.Alike.refl _

/-- **A use keeps what is true.** -/
theorem keepsTrue_use {store : Store} (h : f.Use scene g store) (hf : f.KeepsTrue scene) :
    g.KeepsTrue scene := by
  cases h with
  | restrict items =>
    exact keepsTrue_of_settled (f.settled_restrict scene items)
      (fun hnone => memo_restrict hnone items) hf
  | update items =>
    exact keepsTrue_of_settled (f.settled_update scene items) (fun hnone => memo_update hnone items) hf
  | perform change =>
    rcases f.sameMemo_perform scene change with hsame | ⟨t, rfl, hsame⟩
    · exact hsame.keepsTrue hf
    · refine hsame.keepsTrue (keepsTrue_of_settled (f := .hierarchical t) ?_ (fun hnone => ?_) hf)
      · exact congrArg Facet.hierarchical (t.settled_getTree scene (t.getTree scene).2.entries)
      · have hexpression : t.expression = none := by simpa [memoFor] using hnone
        simp only [HierarchicalFacet.getTree, hexpression]
  | dropCaches => exact keepsTrue_of_memo_eq_none f.memo_dropCaches

/-! ## 2. Answers of copies -/

/-- The answers are the same, and so is what they leave behind, up to what facets and stores keep. -/
structure SameAnswer {α : Type} (a b : Outcome α × Facet × Store) : Prop where
  outcome : a.1 = b.1
  facet : a.2.1.dropCaches = b.2.1.dropCaches
  store : a.2.2.Alike b.2.2

theorem settled_of_keepsTrue (hf : f.KeepsTrue scene) :
    f.dropCaches.settled scene = f.settled scene := (keepsTrue_iff.mp hf).1.symm

theorem sameAnswer_update (hf : f.KeepsTrue scene) (items : KeySet) :
    SameAnswer (f.dropCaches.update scene items) (f.update scene items) := by
  obtain ⟨houtcome, hfacet⟩ :=
    update_of_copy (f := f.dropCaches) (g := f) f.dropCaches_dropCaches (settled_of_keepsTrue hf) items
  exact ⟨houtcome, hfacet,
    (f.dropCaches.update_store_alike scene items).symm.trans (f.update_store_alike scene items)⟩

theorem dropCaches_getTree (f : HierarchicalFacet) (scene : Scene) :
    (f.getTree scene).2.dropCaches = f.dropCaches := by
  unfold HierarchicalFacet.getTree
  split
  · rfl
  · rfl
  · split <;> rfl

/-- Narrowing changes nothing but what is kept. -/
theorem dropCaches_restrict (f : Facet) (scene : Scene) (items : KeySet) :
    (f.restrict scene items).2.1.dropCaches = f.dropCaches := by
  have hlist (l : ListFacet) : (l.restrict scene items).2.dropCaches = l.dropCaches := by
    unfold ListFacet.restrict
    split
    · rfl
    · split
      · rfl
      · split
        · rfl
        · split <;> rfl
  cases f with
  | list f => exact congrArg Facet.list (hlist f)
  | cloud f => exact congrArg (fun list => Facet.cloud { f with list }) (hlist f.list)
  | numericRange f =>
    refine congrArg Facet.numericRange ?_
    unfold NumericRangeFacet.restrict
    split
    · rfl
    · split
      · exact f.dropCaches_itemsInAny scene _ items ∅ f.chosen
      · rfl
  | alphaRange f =>
    refine congrArg Facet.alphaRange ?_
    unfold AlphaRangeFacet.restrict
    split
    · rfl
    · split <;> rfl
  | hierarchical f =>
    refine congrArg Facet.hierarchical ?_
    have htree : (f.getTree scene).2.dropCaches = f.dropCaches := dropCaches_getTree f scene
    unfold HierarchicalFacet.restrict
    split
    · rfl
    · split <;> next heq => rw [heq] at htree; exact htree
  | textSearch f =>
    refine congrArg Facet.textSearch ?_
    unfold TextSearchFacet.restrict
    split
    · rfl
    · split
      · rfl
      · rw [TextSearchFacet.getTexts_eq]
        rfl
  | derived f => rfl

theorem sameAnswer_restrict (hf : f.KeepsTrue scene) (items : KeySet) :
    SameAnswer (f.dropCaches.restrict scene items) (f.restrict scene items) := by
  refine ⟨restrict_congr ((Scene.Alike.refl scene).alikeFor _) (settled_of_keepsTrue hf) items, ?_,
    (f.dropCaches.restrict_store_alike scene items).symm.trans (f.restrict_store_alike scene items)⟩
  rw [dropCaches_restrict, dropCaches_restrict, dropCaches_dropCaches]

/-! ## 3. Changes of copies -/

theorem differs_dropCaches (f : Facet) (state : FacetState) :
    f.dropCaches.differs state = f.differs state := by
  cases f <;> rfl

theorem clear_dropCaches (f : Facet) : f.dropCaches.clear.2 = f.clear.2.dropCaches := by
  cases f <;> rfl

theorem setText_dropCaches (f : TextSearchFacet) (text : String) :
    f.dropCaches.setText text = ((f.setText text).1, (f.setText text).2.dropCaches) := by
  simp only [TextSearchFacet.setText, TextSearchFacet.dropCaches]

theorem apply_dropCaches (f : Facet) (state : FacetState) :
    f.dropCaches.apply state = (f.apply state).map dropCaches := by
  cases f with
  | textSearch f =>
    cases state with
    | text query =>
      have hset := congrArg Prod.snd (setText_dropCaches f (query.getD ""))
      exact congrArg (fun t => Except.ok (Facet.textSearch t)) hset
    | _ => rfl
  | _ => cases state <;> rfl

theorem importState_dropCaches (f : Facet) (state : FacetState) :
    f.dropCaches.importState state = (f.importState state).map fun r => (r.1, r.2.dropCaches) := by
  unfold importState
  rw [differs_dropCaches, apply_dropCaches, clear_dropCaches,
    show f.dropCaches.emptyState = f.emptyState by cases f <;> rfl]
  split
  · rfl
  · split
    · rfl
    · cases f.apply state <;> rfl

/-- The answer of a copy, if the original has given the other one. -/
def copied {α : Type} (answer : α × Facet) : α × Facet := (answer.1, answer.2.dropCaches)

theorem orStay_dropCaches (f : Facet) (answer : Outcome (Bool × Facet)) :
    f.dropCaches.orStay (answer.map fun r => (r.1, r.2.dropCaches)) = copied (f.orStay answer) := by
  cases answer <;> rfl

theorem onList_dropCaches {act : ListFacet → Bool × ListFacet}
    (hact : ∀ l : ListFacet, act l.dropCaches = ((act l).1, (act l).2.dropCaches)) (f : Facet) :
    f.dropCaches.onList act = copied (f.onList act) := by
  cases f <;> simp only [dropCaches, onList, copied, surely, hact]

theorem onNumbers_dropCaches {act : NumericRangeFacet → Bool × NumericRangeFacet}
    (hact : ∀ n : NumericRangeFacet, act n.dropCaches = ((act n).1, (act n).2.dropCaches))
    (f : Facet) : f.dropCaches.onNumbers act = copied (f.onNumbers act) := by
  cases f <;> simp only [dropCaches, onNumbers, copied, surely, hact]

theorem onTextSearch_dropCaches {act : TextSearchFacet → Bool × TextSearchFacet}
    (hact : ∀ t : TextSearchFacet, act t.dropCaches = ((act t).1, (act t).2.dropCaches))
    (f : Facet) : f.dropCaches.onTextSearch act = copied (f.onTextSearch act) := by
  cases f <;> simp only [dropCaches, onTextSearch, copied, surely, hact]

theorem listToggle_dropCaches (f : ListFacet) (value : Option String) (only : Bool) :
    f.dropCaches.toggle value only =
      ((f.toggle value only).1, (f.toggle value only).2.dropCaches) := by
  cases value with
  | none => cases only <;> rfl
  | some v =>
    cases only with
    | true => rfl
    | false =>
      simp only [ListFacet.toggle, ListFacet.toggleValue, Bool.false_eq_true, if_false]
      rw [show f.dropCaches.selection = f.selection from rfl]
      split <;> rfl

theorem input_dropCaches (f : TextSearchFacet) (text : String) (now : Nat) (enter : Bool) :
    f.dropCaches.input text now enter =
      ((f.input text now enter).1, (f.input text now enter).2.dropCaches) := by
  simp only [TextSearchFacet.input]
  rw [show f.dropCaches.requiresEnter = f.requiresEnter from rfl]
  split
  · exact setText_dropCaches { f with debouncer := f.debouncer.cancel } text
  · split <;> rfl

theorem poll_dropCaches (f : TextSearchFacet) (now : Nat) :
    f.dropCaches.poll now = ((f.poll now).1, (f.poll now).2.dropCaches) := by
  simp only [TextSearchFacet.poll]
  rw [show f.dropCaches.debouncer = f.debouncer from rfl]
  split
  · next text debouncer _ => exact setText_dropCaches { f with debouncer } text
  · rfl

/-- Changes treat a copy like the original, but for a click on a node, which asks for the tree. -/
theorem perform_dropCaches (f : Facet) (scene : Scene) {change : Change}
    (h : ∀ node only, change ≠ .toggleNode node only) :
    f.dropCaches.perform scene change = copied (f.perform scene change) := by
  cases change with
  | importState state =>
    show f.dropCaches.orStay (f.dropCaches.importState state) = _
    rw [importState_dropCaches, orStay_dropCaches]
    rfl
  | apply state =>
    show f.dropCaches.orStay ((f.dropCaches.apply state).map _) = copied (f.orStay _)
    rw [← orStay_dropCaches, apply_dropCaches]
    cases f.apply state <;> rfl
  | clear =>
    show ((.ok true : Outcome Bool), f.dropCaches.clear.2) = copied (.ok true, f.clear.2)
    rw [clear_dropCaches]
    rfl
  | toggleValue value only => exact onList_dropCaches (fun l => listToggle_dropCaches l value only) f
  | select values missing => exact onList_dropCaches (fun _ => rfl) f
  | toggleNumbers low high only => exact onNumbers_dropCaches (fun _ => rfl) f
  | setNumbers low high selected => exact onNumbers_dropCaches (fun _ => rfl) f
  | toggleLetters low high only => cases f <;> rfl
  | toggleNode node only => exact absurd rfl (h node only)
  | restrictTo allowed => cases f <;> rfl
  | setText text =>
    refine onTextSearch_dropCaches (fun t => ?_) f
    exact setText_dropCaches t text
  | input text now enter => exact onTextSearch_dropCaches (fun t => input_dropCaches t text now enter) f
  | poll now => exact onTextSearch_dropCaches (fun t => poll_dropCaches t now) f
  | requireEnter on => exact onTextSearch_dropCaches (fun _ => rfl) f

/-- A click on a node of a copy finds the same tree. -/
theorem toggle_dropCaches {f : HierarchicalFacet} (hf : (Facet.hierarchical f).KeepsTrue scene)
    (n : NodeSelection) (only : Bool) :
    (f.dropCaches.toggle scene n only).1 = (f.toggle scene n only).1 ∧
      (f.dropCaches.toggle scene n only).2.dropCaches = (f.toggle scene n only).2.dropCaches := by
  cases he : f.expression with
  | none =>
    have htree (g : HierarchicalFacet) (hg : g.expression = none) :
        g.getTree scene = (.ok none, g) := by
      simp only [HierarchicalFacet.getTree, hg]
    unfold HierarchicalFacet.toggle
    rw [htree f he, htree f.dropCaches he]
    dsimp only
    rw [show f.dropCaches.selections = f.selections from rfl]
    split
    · exact ⟨rfl, rfl⟩
    · split <;> exact ⟨rfl, rfl⟩
  | some e =>
    have hanswer : answering f.dropCaches.tree (Hierarchy.build scene e f.grouping) =
        answering f.tree (Hierarchy.build scene e f.grouping) := by
      have hsettled := (congrArg HierarchicalFacet.tree
        (Facet.hierarchical.inj (settled_of_keepsTrue hf)) :)
      simp only [HierarchicalFacet.settled, he, HierarchicalFacet.dropCaches,
        Option.bind_some] at hsettled
      exact answering_of_keeping_eq hsettled
    unfold HierarchicalFacet.toggle
    rw [HierarchicalFacet.getTree_eq he, HierarchicalFacet.getTree_eq (f := f.dropCaches) he]
    dsimp only
    rw [show f.dropCaches.selections = f.selections from rfl,
      show f.dropCaches.grouping = f.grouping from rfl, hanswer]
    split
    · exact ⟨rfl, rfl⟩
    · split
      · exact ⟨rfl, rfl⟩
      · cases answering f.tree (Hierarchy.build scene e f.grouping) <;> exact ⟨rfl, rfl⟩

/-- **Changes of a copy** come to the same, and leave a copy. -/
theorem sameAnswer_perform (hf : f.KeepsTrue scene) (change : Change) :
    (f.dropCaches.perform scene change).1 = (f.perform scene change).1 ∧
      (f.dropCaches.perform scene change).2.dropCaches = (f.perform scene change).2.dropCaches := by
  have hcopied (h : f.dropCaches.perform scene change = copied (f.perform scene change)) :
      (f.dropCaches.perform scene change).1 = (f.perform scene change).1 ∧
        (f.dropCaches.perform scene change).2.dropCaches = (f.perform scene change).2.dropCaches := by
    rw [h]
    exact ⟨rfl, dropCaches_dropCaches _⟩
  cases change with
  | toggleNode node only =>
    cases f with
    | hierarchical f =>
      obtain ⟨houtcome, hfacet⟩ := toggle_dropCaches hf node only
      exact ⟨houtcome, congrArg Facet.hierarchical hfacet⟩
    | _ => exact ⟨rfl, rfl⟩
  | _ => exact hcopied (perform_dropCaches f scene (by simp))

end Facet

end Faceted
