import Faceted.Proofs.Facet.Bringing

/-!
# What collections display

After calls that have all succeeded every facet displays what an update over the items that the other
facets let through would show. Told item by item, these are the root items that pass each of the others,
unless one of the others brings something along: that comes back whatever the facets before have
decided, and need not be a root item.

* `Scene.BringsBack`: an item comes along with a facet and passes those after it;
* **`Scene.mem_throughEach_iff`**: what several facets let through, told item by item;
* **`displayed_of_operations`**: what every facet displays after a run of operations, and over which
  items;
* **`displayed_of_overridden`**: a list of items over a variable makes another list show what no root
  item has that passes both of the others.
-/

namespace Faceted

open Faceted.Expression

namespace Scene

variable {scene : Scene} {fs : List Facet} {items kept : KeySet} {x : String}

/-- The item comes along with one of the facets and passes those after it. -/
def BringsBack (scene : Scene) (fs : List Facet) (x : String) : Prop :=
  ∃ front f back, fs = front ++ f :: back ∧ x ∈ f.brought ∧ ∀ g ∈ back, g.Passes scene x

theorem bringsBack_cons {f : Facet} : scene.BringsBack (f :: fs) x ↔
    (x ∈ f.brought ∧ ∀ g ∈ fs, g.Passes scene x) ∨ scene.BringsBack fs x := by
  constructor
  · rintro ⟨front, g, back, heq, hx, hback⟩
    cases front with
    | nil =>
      obtain ⟨rfl, rfl⟩ := List.cons.inj heq
      exact .inl ⟨hx, hback⟩
    | cons first front =>
      obtain ⟨-, heq⟩ := List.cons.inj heq
      exact .inr ⟨front, g, back, heq, hx, hback⟩
  · rintro (⟨hx, hfs⟩ | ⟨front, g, back, rfl, hx, hback⟩)
    · exact ⟨[], f, fs, rfl, hx, hfs⟩
    · exact ⟨f :: front, g, back, rfl, hx, hback⟩

/-- Facets that are not over a variable on its own bring nothing back. -/
theorem not_bringsBack (h : ∀ f ∈ fs, f.isBare = false) : ¬ scene.BringsBack fs x := by
  rintro ⟨front, f, back, rfl, hx, -⟩
  rw [Facet.brought_of_not_isBare (h f (by simp))] at hx
  exact KeySet.not_mem_emptySet hx

/-- **What several facets let through**: of the items those that pass each of them, and what is brought
    back. -/
theorem mem_throughEach_iff (h : scene.throughEach fs items = .ok kept) :
    x ∈ kept ↔ (x ∈ items ∧ ∀ f ∈ fs, f.Passes scene x) ∨ scene.BringsBack fs x := by
  induction fs generalizing items with
  | nil =>
    cases h
    simp [BringsBack]
  | cons f rest ih =>
    obtain ⟨narrowed, hnarrowed, hrest⟩ := throughEach_cons_ok h
    rw [ih hrest, bringsBack_cons, Facet.mem_restrict hnarrowed, List.forall_mem_cons]
    tauto

/-- Nothing else is let through exactly if what is brought back is among the items and passes the
    facets that have left it out. -/
theorem throughEach_exact_iff (h : scene.throughEach fs items = .ok kept) :
    (∀ x, x ∈ kept ↔ x ∈ items ∧ ∀ f ∈ fs, f.Passes scene x) ↔
      ∀ x, scene.BringsBack fs x → x ∈ items ∧ ∀ f ∈ fs, f.Passes scene x := by
  constructor
  · intro hexact x hback
    exact (hexact x).mp ((mem_throughEach_iff h).mpr (.inr hback))
  · intro hback x
    rw [mem_throughEach_iff h]
    exact ⟨fun hx => hx.elim (fun hx => hx) (hback x), .inl⟩

end Scene

/-! ## 2. Runs -/

/-- An operation on a collection: a call, or anything that is done to one of its facets; and what a
    collection does by itself after either, which may also be asked for. -/
inductive CollectionOperation where
  | call (call : Call)
  | withFacet (id : String) (act : Facet → Scene → Outcome Bool × Facet)
  | facetChanged
  | updateFacets

namespace CollectionOperation

/-- What is done to a facet reports its changes. -/
def Truthful : CollectionOperation → Prop
  | withFacet _ act => View.ReportsChanges act
  | _ => True

def after (operation : CollectionOperation) (v : View) : View :=
  match operation with
  | call c => c.after v
  | withFacet id act => (View.changeFacetBy id act v).2
  | facetChanged => (View.facetChanged v).2
  | updateFacets => (View.updateFacets v).2

def succeeds (operation : CollectionOperation) (v : View) : Bool :=
  match operation with
  | call c => c.succeeds v
  | withFacet id act => (View.changeFacetBy id act v).1.isOk
  | facetChanged => (View.facetChanged v).1.isOk
  | updateFacets => (View.updateFacets v).1.isOk

/-- Do all operations succeed, one after the other? -/
def allSucceed : List CollectionOperation → View → Bool
  | [], _ => true
  | operation :: rest, v => operation.succeeds v && allSucceed rest (operation.after v)

/-- The view after the operations. -/
def afterAll (operations : List CollectionOperation) (v : View) : View :=
  operations.foldl (fun v operation => operation.after v) v

/-- **One operation** that succeeds keeps a collection up to date. -/
theorem upToDate_after {operation : CollectionOperation} {v : View}
    (htruthful : operation.Truthful) (h : operation.succeeds v = true) (hv : v.UpToDate) :
    (operation.after v).UpToDate := by
  cases operation with
  | call c => exact Call.upToDate_after h hv
  | withFacet id act =>
    obtain ⟨_, hok⟩ := Action.exists_of_isOk h
    exact View.upToDate_changeFacetBy hok htruthful hv
  | facetChanged =>
    have hok := Action.eq_of_isOk h
    exact View.refresh_upToDate ((View.facetChanged_of_updating hv.updating).symm.trans hok)
      hv.updating
  | updateFacets =>
    exact View.upToDate_updateFacets (Action.eq_of_isOk h) hv.narrowed hv.updating

theorem upToDate_afterAll {operations : List CollectionOperation} {v : View}
    (htruthful : ∀ operation ∈ operations, operation.Truthful)
    (h : allSucceed operations v = true) (hv : v.UpToDate) : (afterAll operations v).UpToDate := by
  induction operations generalizing v with
  | nil => exact hv
  | cons operation rest ih =>
    obtain ⟨hfirst, hrest⟩ := Bool.and_eq_true_iff.mp h
    obtain ⟨hhead, htail⟩ := List.forall_mem_cons.mp htruthful
    exact ih htail hrest (upToDate_after hhead hfirst hv)

end CollectionOperation

open CollectionOperation in
/-- **Every facet displays what an update over what the others let through would show.** After operations
    on a collection that have all succeeded, and whichever way the items were handed out, these are the
    root items that pass all other facets and what one of the others brings back; so they are no other
    than the former exactly if what is brought back is among them. Facets that are not over a variable on
    its own bring nothing back. -/
theorem displayed_of_operations {s : Store} {name : String} {source : ItemSource}
    {operations : List CollectionOperation}
    (htruthful : ∀ operation ∈ operations, operation.Truthful)
    (hsucceed : allSucceed operations ⟨s, Collection.new name source⟩ = true) {v : View}
    (hv : v = afterAll operations ⟨s, Collection.new name source⟩) {place : Nat} {f : Facet}
    (hf : v.collection.facets[place]? = some f) :
    ∃ input, f.wouldShow v.scene input = .ok f.shown ∧
      (∀ x, x ∈ input ↔
        (x ∈ v.collection.items ∧ ∀ g ∈ v.others place, g.Passes v.scene x) ∨
          v.scene.BringsBack (v.others place) x) ∧
      ((∀ x, x ∈ input ↔ x ∈ v.collection.items ∧ ∀ g ∈ v.others place, g.Passes v.scene x) ↔
        ∀ x, v.scene.BringsBack (v.others place) x →
          x ∈ v.collection.items ∧ ∀ g ∈ v.others place, g.Passes v.scene x) ∧
      ((∀ g ∈ v.others place, g.isBare = false) →
        ∀ x, x ∈ input ↔ x ∈ v.collection.items ∧ ∀ g ∈ v.others place, g.Passes v.scene x) := by
  subst hv
  obtain ⟨input, hinput, hfacet⟩ :=
    (upToDate_afterAll htruthful hsucceed (upToDate_new s name source)).shown place f hf
  refine ⟨input, hfacet, fun x => Scene.mem_throughEach_iff hinput,
    Scene.throughEach_exact_iff hinput, fun hbare => ?_⟩
  exact (Scene.throughEach_exact_iff hinput).mpr fun x hx =>
    absurd hx (Scene.not_bringsBack hbare)

/-- A list of the colours of plants. -/
def colours (id : String) : Facet :=
  .list (.new id (some ⟨".colour", .path ⟨none, [⟨"colour", true, false⟩]⟩⟩))

/-- Two lists of colours; red is clicked in the first by a change that takes care of the report itself. -/
def redFirst : List CollectionOperation :=
  [.call (.setRoot (KeySet.ofList ["ash", "rose"])), .call (.addFacet (colours "first")),
    .call (.addFacet (colours "second")),
    .withFacet "first" fun f scene => f.perform scene (.toggleValue (some "red") false)]

/-- The second list shows what an update over the rose would show, which alone passes the first. -/
theorem displayed_redFirst :
    (∀ operation ∈ redFirst, operation.Truthful) ∧
    CollectionOperation.allSucceed redFirst ⟨plants, Collection.new "plants" .allItems⟩ = true ∧
    ∃ v f input, v = CollectionOperation.afterAll redFirst
        ⟨plants, Collection.new "plants" .allItems⟩ ∧
      v.collection.facets[1]? = some f ∧
      f.shown = .entries [⟨some "red", "red", 1, false⟩] ∧ f.wouldShow v.scene input = .ok f.shown ∧
      ∀ x, x ∈ input ↔ x ∈ v.collection.items ∧ ∀ g ∈ v.others 1, g.Passes v.scene x := by
  have htruthful : ∀ operation ∈ redFirst, operation.Truthful := by
    intro operation hoperation
    simp only [redFirst, List.mem_cons, List.not_mem_nil, or_false] at hoperation
    rcases hoperation with rfl | rfl | rfl | rfl
    · trivial
    · trivial
    · trivial
    · exact View.reportsChanges_perform (.toggleValue (some "red") false)
  have hsucceed : CollectionOperation.allSucceed redFirst
      ⟨plants, Collection.new "plants" .allItems⟩ = true := rfl
  have hf : (CollectionOperation.afterAll redFirst
      ⟨plants, Collection.new "plants" .allItems⟩).collection.facets[1]? = some _ := rfl
  obtain ⟨input, hshown, -, -, hexact⟩ := displayed_of_operations htruthful hsucceed rfl hf
  refine ⟨htruthful, hsucceed, _, _, input, rfl, hf, rfl, hshown, hexact ?_⟩
  intro g hg
  have hbare : ((CollectionOperation.afterAll redFirst
      ⟨plants, Collection.new "plants" .allItems⟩).others 1).all (fun g => !g.isBare) = true := rfl
  simpa using List.all_eq_true.mp hbare g hg

/-- A list of colours in which red is selected, one of the plants in which the ash is selected, and a
    second list of colours. -/
def redAsh : List CollectionOperation :=
  [.call (.setRoot (KeySet.ofList ["ash", "rose"])), .call (.addFacet (Facet.byColour ["red"])),
    .call (.addFacet (Facet.byItself ["ash"])), .call (.addFacet (colours "again"))]

/-- **The second list of colours counts what no root item has that passes the others.** The ash is the one
    item that passes the list of the plants, and it is not red; so an update over the items that pass
    both would show nothing. -/
theorem displayed_of_overridden :
    CollectionOperation.allSucceed redAsh ⟨plants, Collection.new "plants" .allItems⟩ = true ∧
    ∃ v f, v = CollectionOperation.afterAll redAsh ⟨plants, Collection.new "plants" .allItems⟩ ∧
      v.collection.facets[2]? = some f ∧
      (∀ x ∈ v.collection.items, ¬ ∀ g ∈ v.others 2, g.Passes v.scene x) ∧
      f.wouldShow v.scene ∅ = .ok (.entries []) ∧
      f.shown = .entries [⟨some "grey", "grey", 1, false⟩] := by
  refine ⟨rfl, _, _, rfl, rfl, fun x hx hpasses => ?_, rfl, rfl⟩
  have hothers : (CollectionOperation.afterAll redAsh
      ⟨plants, Collection.new "plants" .allItems⟩).others 2 = [_, _] := rfl
  rw [show (CollectionOperation.afterAll redAsh
      ⟨plants, Collection.new "plants" .allItems⟩).collection.items = KeySet.ofList ["ash", "rose"]
      from rfl] at hx
  simp only [KeySet.mem_ofList, List.mem_cons, List.not_mem_nil, or_false] at hx
  simp only [hothers, List.mem_cons, List.not_mem_nil, or_false, forall_eq_or_imp,
    forall_eq] at hpasses
  obtain ⟨⟨kept, hkept, hred⟩, ⟨alone, halone, hash⟩⟩ := hpasses
  rcases hx with rfl | rfl
  · cases (show _ = Except.ok (KeySet.ofList []) from rfl).symm.trans hkept
    simp at hred
  · cases (show _ = Except.ok (KeySet.ofList ["ash"]) from rfl).symm.trans halone
    simp at hash

end Faceted
