import Faceted.Proofs.Collection.Current
import Faceted.Proofs.Collection.InLine

/-!
# What a click gives

An entry is shown with the number of items that hold it, and a click that makes it the only choice
narrows the collection to them. The count was taken over what the other facets let through, and the
click goes through all facets in their order; the two meet because facets decide item by item.

They meet in the items, and in the number only if no item is counted twice. A path that begins with an
array hop and goes on meets an item once for every way that leads from it to the value.

* `Facet.Narrows`: of any root items the facet lets through those that pass on their own. Facets do so
  whose expression is no bare variable and which have been applied once (`Facet.narrows_of_ok`);
* `Scene.throughEach_narrows`: so several facets let through what passes each of them, in any order;
* **`View.click_of_current`**: a click on an entry of a current collection succeeds and leaves the items
  that hold the entry;
* **`count_of_click`** is the run: after calls that have all succeeded, what is left is what the entry
  counted, each item once;
* **`red_counted_twice`**: an item with two ways to a value is counted twice.
-/

namespace Faceted

open Faceted.Expression

/-! ## 1. Narrowing item by item -/

namespace Facet

variable {f : Facet} {scene : Scene}

/-- Is the expression of the facet a variable on its own? -/
def isBare (f : Facet) : Bool := f.expression?.any Expression.isBare

/-- If it is a derived facet, its expression is a path or can be evaluated on every root item. -/
def Evaluates (f : Facet) (scene : Scene) : Prop :=
  ∀ e, f.role.2 = some e → e.path? = none →
    ∀ x ∈ scene.allItems, ∃ values, e.evalOnItem x scene.store = .ok values

/-- The facet lets the item through if it is given nothing else. -/
def Passes (f : Facet) (scene : Scene) (x : String) : Prop :=
  ∃ alone, (f.restrict scene (KeySet.ofList [x])).1 = .ok alone ∧ x ∈ alone

/-- Of root items the facet lets through those that pass. -/
def Narrows (f : Facet) (scene : Scene) : Prop :=
  ∀ items : KeySet, (∀ x ∈ items, x ∈ scene.allItems) →
    ∃ kept, (f.restrict scene items).1 = .ok kept ∧ ∀ x, x ∈ kept ↔ x ∈ items ∧ f.Passes scene x

theorem narrows_of_itemwise (h : Itemwise fun items => (f.restrict scene items).1)
    {items kept : KeySet} (hkept : (f.restrict scene items).1 = .ok kept) : f.Narrows scene := by
  intro items' _
  have hsucceeds : ∃ kept', (f.restrict scene items').1 = .ok kept' := by
    rcases h with ⟨failure, hfail⟩ | ⟨passes, hpasses⟩
    · exact absurd ((hfail items).symm.trans hkept) (by simp)
    · obtain ⟨kept', hkept', -⟩ := hpasses items'
      exact ⟨kept', hkept'⟩
  obtain ⟨kept', hkept'⟩ := hsucceeds
  exact ⟨kept', hkept', h.mem_iff hkept'⟩

end Facet

/-- Where the value on every item is known, so are the values on all of them. -/
theorem mapM_known_of_mem {known : String → Outcome Values} {values : String → Values}
    {items : List String} (h : ∀ item ∈ items, known item = .ok (values item)) :
    (items.mapM fun item => return (item, ← known item) : Outcome (List (String × Values))) =
      .ok (items.map fun item => (item, values item)) := by
  induction items with
  | nil => rfl
  | cons item rest ih =>
    rw [List.mapM_cons, h item List.mem_cons_self, List.map_cons]
    show (_ >>= fun rest => (Except.ok ((item, values item) :: rest) : Outcome _)) = _
    rw [ih fun x hx => h x (List.mem_cons_of_mem item hx)]
    rfl

/-- A derived facet lets through the items with a value that it allows. -/
theorem DerivedFacet.mem_restrict {f : DerivedFacet} (hp : f.expression.path? = none) {s : Store}
    {allowed : KeySet} (hallowed : f.restriction = some allowed) {values : String → Values}
    (items : KeySet) (h : ∀ x ∈ items, f.expression.evalOnItem x s = .ok (values x)) :
    ∃ kept, f.restrict s items = .ok kept ∧
      ∀ x, x ∈ kept ↔ x ∈ items ∧ (values x).toList.any allowed.contains = true := by
  unfold restrict
  rw [hallowed]
  simp only [hp]
  have hvalues : ∀ x ∈ items.toList, f.expression.evalOnItem x s = .ok (values x) := h
  rw [mapM_known_of_mem hvalues]
  refine ⟨_, rfl, fun x => ?_⟩
  rw [KeySet.mem_ofList, List.filter_map, List.map_map]
  simp [Function.comp_def]

namespace Facet

variable {f : Facet} {scene : Scene}

/-- A derived facet without a path narrows item by item where its expression can be evaluated. -/
theorem narrows_derived {f : DerivedFacet} (hp : f.expression.path? = none)
    (heval : (Facet.derived f).Evaluates scene) : (Facet.derived f).Narrows scene := by
  cases hr : f.restriction with
  | none =>
    have hrestrict (items : KeySet) : f.restrict scene.store items = .ok items := by
      unfold DerivedFacet.restrict
      rw [hr]
    exact fun items _ => ⟨items, hrestrict items, fun x => ⟨fun hx =>
      ⟨hx, KeySet.ofList [x], hrestrict _, by simp⟩, And.left⟩⟩
  | some allowed =>
    let values (x : String) : Values := (f.expression.evalOnItem x scene.store).toOption.getD default
    have hvalues : ∀ x ∈ scene.allItems,
        f.expression.evalOnItem x scene.store = .ok (values x) := by
      intro x hx
      obtain ⟨found, hfound⟩ := heval f.expression rfl hp x hx
      simp only [values, hfound]
      rfl
    intro items hroot
    obtain ⟨kept, hkept, hmem⟩ :=
      DerivedFacet.mem_restrict hp hr items fun x hx => hvalues x (hroot x hx)
    refine ⟨kept, hkept, fun x => ?_⟩
    rw [hmem]
    refine and_congr_right fun hx => ?_
    have hsingle : ∀ y ∈ KeySet.ofList [x],
        f.expression.evalOnItem y scene.store = .ok (values y) := by
      intro y hy
      rw [KeySet.mem_ofList, List.mem_singleton] at hy
      exact hy ▸ hvalues x (hroot x hx)
    obtain ⟨alone, halone, hmem'⟩ := DerivedFacet.mem_restrict hp hr _ hsingle
    constructor
    · exact fun hany => ⟨alone, halone, (hmem' x).mpr ⟨by simp, hany⟩⟩
    · rintro ⟨alone', halone', hx'⟩
      cases halone.symm.trans halone'
      exact ((hmem' x).mp hx').2

/-- **Facets narrow item by item**, if they could be applied once. -/
theorem narrows_of_ok (hbare : f.isBare = false) (heval : f.Evaluates scene) {items kept : KeySet}
    (hkept : (f.restrict scene items).1 = .ok kept) : f.Narrows scene := by
  have hoverrides : f.overrides = false := by
    cases f with
    | list f => simp [overrides, show f.expression.any Expression.isBare = false from hbare]
    | cloud f => simp [overrides, show f.list.expression.any Expression.isBare = false from hbare]
    | _ => rfl
  by_cases hpath : f.GoesSomewhere
  · exact narrows_of_itemwise (itemwise_restrict hoverrides hpath scene) hkept
  · cases f with
    | derived f =>
      refine narrows_derived ?_ heval
      have hbare : f.expression.isBare = false := hbare
      cases hp : f.expression.path? with
      | none => rfl
      | some p =>
        refine absurd (fun g hg => ?_) hpath
        cases hg
        exact ⟨p, hp, Expression.hops_ne_nil hbare hp⟩
    | _ => exact absurd (fun g hg => by cases hg) hpath

theorem passes_of_not_hasRestrictions (h : f.hasRestrictions = false) (scene : Scene) (x : String) :
    f.Passes scene x :=
  ⟨KeySet.ofList [x], restrict_of_not_hasRestrictions h scene _, by simp⟩

end Facet

namespace Scene

variable {scene : Scene} {fs : List Facet} {items kept : KeySet}

/-- What several facets let through is what passes each of them, in any order. -/
theorem throughEach_narrows (h : ∀ f ∈ fs, f.Narrows scene)
    (hroot : ∀ x ∈ items, x ∈ scene.allItems) : ∃ kept, scene.throughEach fs items = .ok kept ∧
      ∀ x, x ∈ kept ↔ x ∈ items ∧ ∀ f ∈ fs, f.Passes scene x := by
  induction fs generalizing items with
  | nil => exact ⟨items, rfl, fun x => by simp⟩
  | cons f rest ih =>
    have hrest := fun g hg => h g (List.mem_cons_of_mem f hg)
    unfold throughEach
    cases hr : f.hasRestrictions with
    | false =>
      obtain ⟨kept, hkept, hmem⟩ := ih hrest hroot
      refine ⟨kept, by simpa using hkept, fun x => ?_⟩
      rw [hmem, List.forall_mem_cons, and_iff_right (Facet.passes_of_not_hasRestrictions hr scene x)]
    | true =>
      obtain ⟨narrowed, hnarrowed, hmem⟩ := h f List.mem_cons_self items hroot
      obtain ⟨kept, hkept, hmem'⟩ := ih hrest fun x hx => hroot x ((hmem x).mp hx).1
      refine ⟨kept, by simpa [hnarrowed] using hkept, fun x => ?_⟩
      rw [hmem', hmem, List.forall_mem_cons, and_assoc]

/-- Facets that have been applied one after the other have each been applied. -/
theorem applied_of_throughEach (h : scene.throughEach fs items = .ok kept) :
    ∀ f ∈ fs, ∃ items kept, (f.restrict scene items).1 = .ok kept := by
  induction fs generalizing items with
  | nil => simp
  | cons f rest ih =>
    obtain ⟨narrowed, hnarrowed, hrest⟩ := throughEach_cons_ok h
    rw [List.forall_mem_cons]
    exact ⟨⟨items, narrowed, hnarrowed⟩, ih hrest⟩

end Scene

/-! ## 2. The click -/

/-- What holds of a facet put at a place and of all the others, holds of all. -/
theorem forall_mem_set_iff {α : Type} {xs : List α} {place : Nat} (h : place < xs.length) {x : α}
    {p : α → Prop} : (∀ y ∈ xs.set place x, p y) ↔ p x ∧ ∀ y ∈ xs.eraseIdx place, p y := by
  simp only [(List.set_perm_cons_eraseIdx h x).mem_iff, List.forall_mem_cons]

namespace View

open Faceted.Action

variable {v w : View} {id : String} {f : Facet} {change : Change} {count : Nat}

theorem Current.allReady (hv : v.Current) : v.AllReady := by
  intro f hf
  obtain ⟨place, hplace⟩ := List.mem_iff_getElem?.mp hf
  obtain ⟨input, -, hshows⟩ := hv.shown place f hplace
  exact (f.update_eq v.scene ∅ input).trans hshows.ready

theorem Current.narrows (hv : v.Current) (hbare : ∀ g ∈ v.collection.facets, g.isBare = false)
    (heval : ∀ g ∈ v.collection.facets, g.Evaluates v.scene) :
    ∀ g ∈ v.collection.facets, g.Narrows v.scene := by
  intro g hg
  obtain ⟨items, kept, hkept⟩ := Scene.applied_of_throughEach hv.narrowed g hg
  exact Facet.narrows_of_ok (hbare g hg) (heval g hg) hkept

/-- Where facets narrow item by item and can be shown, a refresh succeeds and leaves the root items that
    pass all of them. -/
theorem refresh_narrows (hnarrows : ∀ g ∈ v.collection.facets, g.Narrows v.scene)
    (hready : v.AllReady) : ∃ w, refresh v = (.ok (), w) ∧ ∀ x, x ∈ w.collection.restricted ↔
      x ∈ v.collection.items ∧ ∀ g ∈ v.collection.facets, g.Passes v.scene x := by
  have hroot : ∀ x ∈ v.collection.items, x ∈ v.scene.allItems := fun _ hx => hx
  obtain ⟨restricted, hrestricted, hmem⟩ := Scene.throughEach_narrows hnarrows hroot
  obtain ⟨w, hw⟩ := refresh_succeeds hrestricted (fun place => by
    have hothers : ∀ g ∈ v.others place, g.Narrows v.scene := fun g hg =>
      hnarrows g (List.mem_of_mem_eraseIdx hg)
    obtain ⟨input, hinput, -⟩ := Scene.throughEach_narrows hothers hroot
    exact ⟨input, hinput⟩) hready
  have hsame := refresh_of_ok hrestricted
  rw [hw] at hsame
  exact ⟨w, hw, fun x => hsame.restricted ▸ hmem x⟩

/-- A change that reports itself is a refresh of the view with the changed facet. -/
theorem changeFacet_of_ok {place : Nat} {g : Facet} (hid : v.collection.place? id = some place)
    (hplace : v.collection.facets[place]? = some f) (hupdating : v.collection.updating = false)
    (hperform : f.perform v.scene change = (.ok true, g))
    (hrefresh : refresh (v.putFacet place g v.store) = (.ok (), w)) :
    changeFacet id change v = (.ok true, w) := by
  have hacted : v.actedAt place (fun f scene => f.perform scene change) f =
      v.putFacet place g v.store := by
    show v.putFacet place (f.perform v.scene change).2 v.store = _
    rw [hperform]
  unfold changeFacet
  rw [changeFacetBy_apply, hid]
  dsimp only
  rw [hplace]
  dsimp only
  rw [hacted, facetChanged_of_updating (v := v.putFacet place g v.store) hupdating, hrefresh,
    hperform]

/-- **A click on an entry** of a current collection succeeds and leaves the items that hold the entry,
    of those that the other facets let through. -/
theorem click_of_current (hv : v.Current) (hbare : ∀ g ∈ v.collection.facets, g.isBare = false)
    (heval : ∀ g ∈ v.collection.facets, g.Evaluates v.scene) (hf : v.collection.facet? id = some f)
    (hoffer : (change, count) ∈ f.offers) (hnot : f.hasOnly change = false) :
    ∃ w e input held, changeFacet id change v = (.ok true, w) ∧ f.expression? = some e ∧
      v.scene.throughEach (v.collection.dropFacet id).facets v.collection.items = .ok input ∧
      f.held v.scene e change input = .ok held ∧ held.size = count ∧
      w.collection.restricted = held.toSet := by
  obtain ⟨place, hid, hplace, hdrop⟩ := place_of_facet? hf
  obtain ⟨input, hinput, hshows⟩ := hv.shown place f hplace
  obtain ⟨g, e, held, hperform, hexpression, hready, he, hheld, hcount, hrestrict⟩ :=
    hshows.click hoffer hnot
  have hlt := (List.getElem?_eq_some_iff.mp hplace).1
  have hmem := List.mem_of_getElem? hplace
  -- the clicked facet has the expression that it had, so it narrows as well
  have hrole : g.role = f.role := by rw [← f.role_perform v.scene change, hperform]
  have hg : g.Narrows v.scene := by
    refine Facet.narrows_of_ok ?_ ?_ hrestrict
    · exact (congrArg (Option.any Expression.isBare) hexpression).trans (hbare f hmem)
    · unfold Facet.Evaluates
      rw [hrole]
      exact heval f hmem
  have hothers : ∀ h ∈ v.others place, h.Narrows v.scene := fun h hh =>
    hv.narrows hbare heval h (List.mem_of_mem_eraseIdx hh)
  obtain ⟨w, hw, hleft⟩ := refresh_narrows (v := v.putFacet place g v.store)
    ((forall_mem_set_iff hlt).mpr ⟨hg, hothers⟩)
    ((forall_mem_set_iff hlt).mpr ⟨(g.update_eq v.scene ∅ input).trans hready,
      fun h hh => hv.allReady h (List.mem_of_mem_eraseIdx hh)⟩)
  refine ⟨w, e, input, held, changeFacet_of_ok hid hplace hv.updating hperform hw, he,
    hdrop ▸ hinput, hheld, hcount, ?_⟩
  -- what is left passes the clicked facet and the others, and so does what holds the entry
  have hroot : ∀ x ∈ v.collection.items, x ∈ v.scene.allItems := fun _ hx => hx
  obtain ⟨input', hinput', hmemInput⟩ := Scene.throughEach_narrows hothers hroot
  cases hinput'.symm.trans hinput
  obtain ⟨kept, hkept, hmemKept⟩ := hg input fun x hx => ((hmemInput x).mp hx).1
  cases hkept.symm.trans hrestrict
  refine KeySet.ext fun x => ?_
  have hset : (∀ h ∈ v.collection.facets.set place g, h.Passes v.scene x) ↔ _ :=
    forall_mem_set_iff hlt
  rw [hleft, hmemKept, hmemInput, and_assoc, and_comm (b := g.Passes v.scene x)]
  exact and_congr_right' hset

end View

/-! ## 3. Runs -/

/-- **A displayed count is what a click gives, each item once.** After calls on a collection that have
    all succeeded, take any entry that a facet shows and that is not all that is selected there. To click
    it as the only choice succeeds and leaves the items that hold it, of those that the other facets let
    through. These were counted in the order and with the repetitions of a walk, so there are as many as
    counted exactly if the walk meets none of them twice; it never does unless the path of the facet
    repeats items. -/
theorem count_of_click {s : Store} {name : String} {source : ItemSource} {calls : List Call}
    (hcalls : Call.allSucceed calls ⟨s, Collection.new name source⟩ = true)
    (hbare : ∀ g ∈ (viewAfter s name source calls).collection.facets, g.isBare = false)
    (heval : ∀ g ∈ (viewAfter s name source calls).collection.facets,
      g.Evaluates (viewAfter s name source calls).scene)
    {id : String} {f : Facet} (hf : (viewAfter s name source calls).collection.facet? id = some f)
    {change : Change} {count : Nat} (hoffer : (change, count) ∈ f.offers)
    (hnot : f.hasOnly change = false) :
    ∃ w e input held,
      View.changeFacet id change (viewAfter s name source calls) = (.ok true, w) ∧
      f.expression? = some e ∧
      (viewAfter s name source calls).scene.throughEach
        ((viewAfter s name source calls).collection.dropFacet id).facets
        (viewAfter s name source calls).collection.items = .ok input ∧
      f.held (viewAfter s name source calls).scene e change input = .ok held ∧
      held.size = count ∧ w.collection.restricted = held.toSet ∧
      w.collection.restricted.size ≤ count ∧
      (w.collection.restricted.size = count ↔ held.toList.Nodup) ∧
      (e.repeats = false → w.collection.restricted.size = count) := by
  obtain ⟨w, e, input, held, hclick, he, hinput, hheld, hcount, hleft⟩ :=
    View.click_of_current (current_of_calls hcalls) hbare heval hf hoffer hnot
  refine ⟨w, e, input, held, hclick, he, hinput, hheld, hcount, hleft, ?_, ?_, fun hrepeats => ?_⟩
  · rw [hleft, ← hcount]
    exact held.size_toSet_le
  · rw [hleft, ← hcount]
    exact Values.size_toSet_eq_iff
  · rw [hleft, ← hcount]
    exact Values.size_toSet_eq_iff.mpr (Facet.nodup_held hrepeats hheld)

/-- Two friends wear red; x knows both of them, y knows one. -/
def friends : Store :=
  ((((Store.empty.addStatement "x" "friend" "f").addStatement "x" "friend" "g").addStatement
    "y" "friend" "f").addStatement "f" "colour" "red").addStatement "g" "colour" "red"

/-- A collection of these with a list of what they wear and a list of what their friends wear. -/
def friendCalls : List Call :=
  [.setRoot (KeySet.ofList ["f", "g", "x", "y"]),
    .addFacet (.list (.new "own" (some ⟨".colour", .path ⟨none, [⟨"colour", true, false⟩]⟩⟩))),
    .addFacet (.list (.new "known" (some ⟨".@friend.colour",
      .path ⟨none, [⟨"friend", true, true⟩, ⟨"colour", true, false⟩]⟩⟩)))]

def people : View := viewAfter friends "people" .allItems friendCalls

/-- Both lists are over paths with hops. -/
theorem lists_people :
    ∀ g ∈ people.collection.facets, g.isBare = false ∧ g.Evaluates people.scene := by
  intro g hg
  have hlists : (people.collection.facets.all fun g => !g.isBare && g.role.2.isNone) = true := rfl
  have hlist := List.all_eq_true.mp hlists g hg
  simp only [Bool.and_eq_true, Bool.not_eq_true', Option.isNone_iff_eq_none] at hlist
  refine ⟨hlist.1, fun e he => ?_⟩
  rw [hlist.2] at he
  cases he

/-- The red that the friends wear is shown with a count of two, and a click on it leaves two. -/
theorem red_of_click :
    Call.allSucceed friendCalls ⟨friends, Collection.new "people" .allItems⟩ = true ∧
    (∀ g ∈ people.collection.facets, g.isBare = false ∧ g.Evaluates people.scene) ∧
    ∃ f, people.collection.facet? "own" = some f ∧
      (.toggleValue (some "red") true, 2) ∈ f.offers ∧
      f.hasOnly (.toggleValue (some "red") true) = false ∧
      ∃ w, View.changeFacet "own" (.toggleValue (some "red") true) people = (.ok true, w) ∧
        w.collection.restricted.size = 2 := by
  have hcalls : Call.allSucceed friendCalls ⟨friends, Collection.new "people" .allItems⟩ = true :=
    rfl
  have hoffer : (.toggleValue (some "red") true, 2) ∈
      ((people.collection.facet? "own").get rfl).offers := .tail _ (.head _)
  have hown : people.collection.facet? "own" = some _ := rfl
  obtain ⟨w, e, input, held, hclick, he, -, -, -, -, -, -, hsize⟩ :=
    count_of_click hcalls (fun g hg => (lists_people g hg).1) (fun g hg => (lists_people g hg).2)
      hown hoffer rfl
  have hrepeats : e.repeats = false := by
    rw [← Option.some.inj he]
    rfl
  exact ⟨hcalls, lists_people, _, rfl, hoffer, rfl, w, hclick, hsize hrepeats⟩

/-- **An item with two ways to a value is counted twice.** Two items have a friend in red, which is what
    a click leaves; the list shows three. -/
theorem red_counted_twice :
    Call.allSucceed friendCalls ⟨friends, Collection.new "people" .allItems⟩ = true ∧
    (∀ g ∈ people.collection.facets, g.isBare = false ∧ g.Evaluates people.scene) ∧
    ∃ f, people.collection.facet? "known" = some f ∧
      (.toggleValue (some "red") true, 3) ∈ f.offers ∧
      f.hasOnly (.toggleValue (some "red") true) = false ∧
      ∃ w, View.changeFacet "known" (.toggleValue (some "red") true) people = (.ok true, w) ∧
        w.collection.restricted.toList = ["x", "y"] :=
  ⟨rfl, lists_people, _, rfl, .tail _ (.head _), rfl, _, rfl, rfl⟩

end Faceted
