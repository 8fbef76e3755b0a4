import Faceted.Proofs.Collection.Clicks

/-!
# What a facet brings along

Given some of the items that it has been given before, a facet should let through those of them that it
has let through before. All kinds do, whatever their expression, but for the facets that look up values
over a variable on its own: a list, a cloud and a derived facet have no step there at which to look at
what they are given, so their choice comes out of it (`Facet.brought`).

* `Sifts`: of what it is given a narrowing lets through what passes, and something comes along;
* `Facet.sifts_restrict`: every facet does so, one lemma for each way in which facets narrow;
* `Facet.restrict_again`: a question asked before changes no answer;
* **`Facet.restrict_of_subset`**: what a facet makes of some of the items, told by what it makes of all
  of them, and when two facets may be swapped;
* **`restrict_not_subset`**: a list over a variable lets through an item that it has not been given.
-/

namespace Faceted

open Faceted.Expression

/-! ## 1. Sifting -/

/-- If the narrowing succeeds, what comes out is what comes along in any case and what passes of the
    items that are given; and it would have succeeded for each of these alone. -/
structure Sifts (narrow : KeySet → Outcome KeySet) (brought : KeySet) : Prop where
  keeps : ∃ passes : String → Prop, ∀ items kept, narrow items = .ok kept →
    ∀ x, x ∈ kept ↔ x ∈ brought ∨ x ∈ items ∧ passes x
  alone : ∀ items kept x, narrow items = .ok kept → x ∈ items →
    ∃ alone, narrow (KeySet.ofList [x]) = .ok alone

namespace Sifts

variable {narrow : KeySet → Outcome KeySet} {brought items kept : KeySet} {x : String}

/-- What passes can be found out by giving one item at a time. -/
theorem mem_iff (h : Sifts narrow brought) (hkept : narrow items = .ok kept) :
    x ∈ kept ↔ x ∈ brought ∨
      x ∈ items ∧ ∃ alone, narrow (KeySet.ofList [x]) = .ok alone ∧ x ∈ alone := by
  obtain ⟨passes, hpasses⟩ := h.keeps
  rw [hpasses items kept hkept]
  constructor
  · rintro (hx | ⟨hx, hpass⟩)
    · exact .inl hx
    · obtain ⟨alone, halone⟩ := h.alone items kept x hkept hx
      exact .inr ⟨hx, alone, halone, (hpasses _ alone halone x).mpr (.inr ⟨by simp, hpass⟩)⟩
  · rintro (hx | ⟨hx, alone, halone, hmem⟩)
    · exact .inl hx
    · rcases (hpasses _ alone halone x).mp hmem with hx' | ⟨-, hpass⟩
      · exact .inl hx'
      · exact .inr ⟨hx, hpass⟩

/-- Of fewer items the same ones are let through. -/
theorem of_subset (h : Sifts narrow brought) {some all keptSome keptAll : KeySet}
    (hsub : ∀ x ∈ some, x ∈ all) (hsome : narrow some = .ok keptSome)
    (hall : narrow all = .ok keptAll) : keptSome = brought.union (keptAll.inter some) := by
  obtain ⟨passes, hpasses⟩ := h.keeps
  refine KeySet.ext fun x => ?_
  rw [KeySet.mem_union, KeySet.mem_inter, hpasses some keptSome hsome, hpasses all keptAll hall]
  constructor
  · rintro (hx | ⟨hx, hpass⟩)
    · exact .inl hx
    · exact .inr ⟨.inr ⟨hsub x hx, hpass⟩, hx⟩
  · rintro (hx | ⟨hx | ⟨-, hpass⟩, hx'⟩)
    · exact .inl hx
    · exact .inl hx
    · exact .inr ⟨hx', hpass⟩

end Sifts

theorem Itemwise.sifts {narrow : KeySet → Outcome KeySet} (h : Itemwise narrow) :
    Sifts narrow ∅ := by
  rcases h with ⟨failure, hfail⟩ | ⟨passes, hpasses⟩
  · have hnever {items kept : KeySet} (hkept : narrow items = .ok kept) : False := by
      rw [hfail] at hkept
      cases hkept
    exact ⟨⟨fun _ => True, fun _ _ hkept => (hnever hkept).elim⟩,
      fun _ _ _ hkept => (hnever hkept).elim⟩
  · refine ⟨⟨passes, fun items kept hkept x => ?_⟩, fun _ _ x _ _ => ?_⟩
    · obtain ⟨kept', hkept', hmem⟩ := hpasses items
      cases hkept.symm.trans hkept'
      simp [hmem]
    · obtain ⟨alone, halone, -⟩ := hpasses (KeySet.ofList [x])
      exact ⟨alone, halone⟩

/-- What comes out may depend on something that has to be found out first. -/
theorem sifts_map {α : Type} {known : Outcome α} {keep : α → KeySet → KeySet} {brought : KeySet}
    (passes : α → String → Prop)
    (h : ∀ a items x, x ∈ keep a items ↔ x ∈ brought ∨ x ∈ items ∧ passes a x) :
    Sifts (fun items => known.map fun a => keep a items) brought := by
  cases known with
  | error failure =>
    exact ⟨⟨fun _ => True, fun _ _ hkept => by cases hkept⟩, fun _ _ _ hkept => by cases hkept⟩
  | ok a =>
    refine ⟨⟨passes a, fun items kept hkept x => ?_⟩, fun _ _ x _ _ => ⟨_, rfl⟩⟩
    cases hkept
    exact h a items x

/-- A narrowing that does not look at what it is given. -/
theorem sifts_const (kept : KeySet) : Sifts (fun _ => .ok kept) kept :=
  ⟨⟨fun _ => False, fun _ _ h x => by cases h; simp⟩, fun _ _ _ _ _ => ⟨kept, rfl⟩⟩

/-! ## 2. The kinds that bring something along -/

theorem KeySet.eq_empty_of_isEmpty {s : KeySet} (h : s.isEmpty = true) : s = ∅ := by
  refine KeySet.ext fun x => ?_
  rw [← KeySet.mem_toList, show s.toList = [] from List.isEmpty_iff.mp h]
  simp

/-- Over a variable on its own all that is selected comes out of a list, and of the items that are
    given those without value if they are selected. -/
theorem ListFacet.sifts_restrict (f : ListFacet) (scene : Scene) :
    Sifts (fun items => (f.restrict scene items).1)
      (if f.expression.any Expression.isBare then f.selection else ∅) := by
  cases hr : f.hasRestrictions with
  | false =>
    have hnone : f.selection = ∅ := by
      rw [hasRestrictions, Bool.or_eq_false_iff, Bool.not_eq_false'] at hr
      exact KeySet.eq_empty_of_isEmpty hr.1
    simp only [restrict_of_not_hasRestrictions hr, hnone, ite_self]
    exact itemwise_ok.sifts
  | true =>
    by_cases hbare : f.expression.any Expression.isBare = true
    · rw [if_pos hbare]
      obtain ⟨e, he, hbare⟩ := (Option.any_eq_true _ _).mp hbare
      obtain ⟨p, hp, hhops⟩ := (Option.any_eq_true _ _).mp hbare
      have hwith (items : KeySet) :
          (f.cache.itemsWith scene e f.selection items).1 = .ok f.selection := by
        unfold ValueCache.itemsWith
        rw [hp]
        simp only [List.isEmpty_iff.mp hhops]
        rfl
      have hanswer (items : KeySet) : (f.restrict scene items).1 =
          if f.selectMissing then
            ((answering f.cache (ValueMaps.build scene e)).map fun maps =>
              items.inter maps.missing).map f.selection.union
          else .ok f.selection := by
        rw [restrict_fst_eq_itemsWith he hr, hwith]
        rfl
      simp only [hanswer]
      cases f.selectMissing with
      | false => exact sifts_const f.selection
      | true =>
        have hmap (items : KeySet) : ((answering f.cache (ValueMaps.build scene e)).map fun maps =>
            items.inter maps.missing).map f.selection.union =
              (answering f.cache (ValueMaps.build scene e)).map fun maps =>
                f.selection.union (items.inter maps.missing) := by
          cases answering f.cache (ValueMaps.build scene e) <;> rfl
        simp only [if_true, hmap]
        exact sifts_map (fun maps x => x ∈ maps.missing) fun _ _ _ => by simp
    · rw [if_neg hbare]
      refine (itemwise_restrict (fun _ e he => ?_) scene).sifts
      rw [he] at hbare
      exact Bool.eq_false_iff.mpr hbare

namespace DerivedFacet

/-- Where the expression is no path, the facet looks at the given items only. -/
theorem sifts_restrict_of_no_path {f : DerivedFacet} (hp : f.expression.path? = none) (s : Store) :
    Sifts (f.restrict s) ∅ := by
  cases hr : f.restriction with
  | none =>
    have hall (items : KeySet) : f.restrict s items = .ok items := by simp only [restrict, hr]
    rw [funext hall]
    exact itemwise_ok.sifts
  | some allowed =>
    let values (x : String) : Values := (f.expression.evalOnItem x s).toOption.getD default
    have hvalues {items kept : KeySet} (h : f.restrict s items = .ok kept) :
        ∀ x ∈ items, f.expression.evalOnItem x s = .ok (values x) := by
      intro x hx
      simp only [restrict, hr, hp] at h
      cases hm : (items.toList.mapM fun item =>
          return (item, ← f.expression.evalOnItem item s) : Outcome _) with
      | error failure =>
        rw [hm] at h
        cases h
      | ok results =>
        obtain ⟨result, hresult⟩ := ok_of_mapM hm hx
        cases heval : f.expression.evalOnItem x s with
        | error failure =>
          rw [heval] at hresult
          cases hresult
        | ok found =>
          simp only [values, heval]
          rfl
    refine ⟨⟨fun x => (values x).toList.any allowed.contains = true, fun items kept h x => ?_⟩,
      fun items kept x h hx => ?_⟩
    · obtain ⟨kept', hkept', hmem⟩ := mem_restrict hp hr items (hvalues h)
      cases hkept'.symm.trans h
      rw [hmem]
      simp
    · have hvalue : ∀ y ∈ KeySet.ofList [x], f.expression.evalOnItem y s = .ok (values y) := by
        intro y hy
        rw [KeySet.mem_ofList, List.mem_singleton] at hy
        exact hvalues h y (hy ▸ hx)
      obtain ⟨alone, halone, -⟩ := mem_restrict hp hr (KeySet.ofList [x]) hvalue
      exact ⟨alone, halone⟩

theorem sifts_restrict (f : DerivedFacet) (s : Store) :
    Sifts (f.restrict s) (if f.expression.isBare then f.restriction.getD ∅ else ∅) := by
  cases hp : f.expression.path? with
  | none =>
    rw [if_neg (by simp [Expression.isBare, hp])]
    exact sifts_restrict_of_no_path hp s
  | some p =>
    by_cases hhops : p.hops = []
    · rw [if_pos (by simp [Expression.isBare, hp, hhops])]
      cases hr : f.restriction with
      | none =>
        have hall (items : KeySet) : f.restrict s items = .ok items := by simp only [restrict, hr]
        rw [funext hall]
        exact itemwise_ok.sifts
      | some allowed =>
        have hall (items : KeySet) : f.restrict s items = .ok allowed := by
          simp only [restrict, hr, hp, hhops]
          rfl
        rw [funext hall]
        exact sifts_const allowed
    · rw [if_neg (by simpa [Expression.isBare, hp] using hhops)]
      exact (itemwise_restrict hp hhops s).sifts

end DerivedFacet

/-! ## 3. Facets -/

namespace Facet

variable {f g : Facet} {scene : Scene}

/-- What comes out of the facet whatever it is given: its choice, if its values are the items of a
    variable on its own. -/
def brought : Facet → KeySet
  | .list f => if f.expression.any Expression.isBare then f.selection else ∅
  | .cloud f => if f.list.expression.any Expression.isBare then f.list.selection else ∅
  | .derived f => if f.expression.isBare then f.restriction.getD ∅ else ∅
  | _ => ∅

/-- **Facets sift what they are given**, whatever their kind, expression and selection. -/
theorem sifts_restrict (f : Facet) (scene : Scene) :
    Sifts (fun items => (f.restrict scene items).1) f.brought := by
  cases f with
  | list f => exact f.sifts_restrict scene
  | cloud f => exact f.list.sifts_restrict scene
  | numericRange f => exact (f.itemwise_restrict scene).sifts
  | alphaRange f => exact (f.itemwise_restrict scene).sifts
  | hierarchical f => exact (f.itemwise_restrict scene).sifts
  | textSearch f => exact (f.itemwise_restrict scene).sifts
  | derived f => exact f.sifts_restrict scene.store

/-- Only facets over a variable on its own bring anything along. -/
theorem brought_of_not_isBare (h : f.isBare = false) : f.brought = ∅ := by
  cases f with
  | list f => exact if_neg (Bool.eq_false_iff.mp h)
  | cloud f => exact if_neg (Bool.eq_false_iff.mp h)
  | derived f => exact if_neg (Bool.eq_false_iff.mp h)
  | _ => rfl

/-- What comes along passes the facet. -/
theorem passes_of_mem_brought {items kept : KeySet} (h : (f.restrict scene items).1 = .ok kept)
    {x : String} (hx : x ∈ items) (hmem : x ∈ f.brought) : f.Passes scene x := by
  obtain ⟨alone, halone⟩ := (f.sifts_restrict scene).alone items kept x h hx
  exact ⟨alone, halone, ((f.sifts_restrict scene).mem_iff halone).mpr (.inl hmem)⟩

/-- What a facet lets through of some items. -/
theorem mem_restrict {items kept : KeySet} (h : (f.restrict scene items).1 = .ok kept) {x : String} :
    x ∈ kept ↔ x ∈ f.brought ∨ x ∈ items ∧ f.Passes scene x :=
  (f.sifts_restrict scene).mem_iff h

/-- **A question asked before changes no answer**, though it may have filled what facet and store
    keep. -/
theorem restrict_again (f : Facet) (scene : Scene) (before items : KeySet) :
    ((f.restrict scene before).2.1.restrict
      { scene with store := (f.restrict scene before).2.2 } items).1 = (f.restrict scene items).1 := by
  have hs : scene.Alike { scene with store := (f.restrict scene before).2.2 } :=
    ⟨f.restrict_store_alike scene before, rfl⟩
  refine (restrict_congr (hs.alikeFor _) ?_ items).symm
  rw [← settled_alike hs, f.settled_restrict scene before]

/-- What two facets let through one after the other; the second meets the store that the first leaves
    behind. -/
def inTurn (f g : Facet) (scene : Scene) (items : KeySet) : Outcome KeySet :=
  match f.restrict scene items with
  | (.ok kept, _, store) => (g.restrict { scene with store } kept).1
  | (.error failure, _, _) => .error failure

theorem inTurn_ok {items left : KeySet} (h : f.inTurn g scene items = .ok left) :
    ∃ kept, (f.restrict scene items).1 = .ok kept ∧ (g.restrict scene kept).1 = .ok left := by
  have hstore := f.restrict_store_alike scene items
  unfold inTurn at h
  generalize f.restrict scene items = answer at h hstore
  obtain ⟨outcome, f', store⟩ := answer
  cases outcome with
  | error failure => cases h
  | ok kept =>
    have hs : scene.Alike { scene with store } := ⟨hstore, rfl⟩
    exact ⟨kept, rfl, (restrict_congr (hs.alikeFor _) (settled_alike hs g) kept).trans h⟩

/-- What comes along with the second facet may pass the first; then the first has no say in it. -/
theorem mem_inTurn {items left : KeySet} (h : f.inTurn g scene items = .ok left) {x : String} :
    x ∈ left ↔ x ∈ g.brought ∨
      (x ∈ f.brought ∨ x ∈ items ∧ f.Passes scene x) ∧ g.Passes scene x := by
  obtain ⟨kept, hkept, hleft⟩ := inTurn_ok h
  rw [mem_restrict hleft, mem_restrict hkept]

/-- Two facets may be swapped exactly if each lets through what the other brings along. -/
theorem inTurn_comm_iff {items left right : KeySet} (hleft : f.inTurn g scene items = .ok left)
    (hright : g.inTurn f scene items = .ok right) :
    left = right ↔
      (∀ x ∈ f.brought, g.Passes scene x) ∧ ∀ x ∈ g.brought, f.Passes scene x := by
  constructor
  · intro heq
    have hbrings {f g : Facet} {left : KeySet} (hleft : f.inTurn g scene items = .ok left)
        {x : String} (hx : x ∈ f.brought) (hmem : x ∈ left) : g.Passes scene x := by
      obtain ⟨kept, hkept, hleft'⟩ := inTurn_ok hleft
      rcases (mem_inTurn hleft).mp hmem with hx' | ⟨-, hpass⟩
      · exact passes_of_mem_brought hleft' ((mem_restrict hkept).mpr (.inl hx)) hx'
      · exact hpass
    refine ⟨fun x hx => hbrings hleft hx ?_, fun x hx => hbrings hright hx ?_⟩
    · exact heq ▸ (mem_inTurn hright).mpr (.inl hx)
    · exact heq ▸ (mem_inTurn hleft).mpr (.inl hx)
  · rintro ⟨hfirst, hsecond⟩
    refine KeySet.ext fun x => ?_
    rw [mem_inTurn hleft, mem_inTurn hright]
    constructor
    · rintro (hx | ⟨hx | ⟨hx, hf⟩, hg⟩)
      · exact .inr ⟨.inl hx, hsecond x hx⟩
      · exact .inl hx
      · exact .inr ⟨.inr ⟨hx, hg⟩, hf⟩
    · rintro (hx | ⟨hx | ⟨hx, hg⟩, hf⟩)
      · exact .inr ⟨.inl hx, hfirst x hx⟩
      · exact .inl hx
      · exact .inr ⟨.inr ⟨hx, hf⟩, hg⟩

/-! ## 4. Fewer items -/

/-- **A facet makes of fewer items what it makes of more, and what it brings along.** So it restricts item
    by item, and to items that it has been given, exactly if what it brings along is among them; and two
    facets let through the same in either order exactly if each lets through what the other brings
    along. Facets that are not over a variable on its own bring nothing along. -/
theorem restrict_of_subset {few many keptFew keptMany : KeySet} (hsub : ∀ x ∈ few, x ∈ many)
    (hfew : (f.restrict scene few).1 = .ok keptFew)
    (hmany : (f.restrict scene many).1 = .ok keptMany) :
    keptFew = f.brought.union (keptMany.inter few) ∧
      (keptFew = keptMany.inter few ↔ ∀ x ∈ f.brought, x ∈ few) ∧
      ((∀ x ∈ keptFew, x ∈ few) ↔ ∀ x ∈ f.brought, x ∈ few) ∧
      (f.isBare = false → f.brought = ∅) ∧
      (∀ before items, ((f.restrict scene before).2.1.restrict
        { scene with store := (f.restrict scene before).2.2 } items).1 =
          (f.restrict scene items).1) ∧
      ∀ g left right, f.inTurn g scene few = .ok left → g.inTurn f scene few = .ok right →
        (left = right ↔
          (∀ x ∈ f.brought, g.Passes scene x) ∧ ∀ x ∈ g.brought, f.Passes scene x) := by
  have hkept := (f.sifts_restrict scene).of_subset hsub hfew hmany
  have hmem (x : String) : x ∈ keptFew ↔ x ∈ f.brought ∨ x ∈ keptMany ∧ x ∈ few := by
    rw [hkept, KeySet.mem_union, KeySet.mem_inter]
  have hbrings {x : String} (hx : x ∈ f.brought) : x ∈ keptFew ∧ x ∈ keptMany :=
    ⟨(hmem x).mpr (.inl hx), (mem_restrict hmany).mpr (.inl hx)⟩
  refine ⟨hkept, ⟨fun heq x hx => ?_, fun hfewer => KeySet.ext fun x => ?_⟩,
    ⟨fun hsubset x hx => hsubset x (hbrings hx).1, fun hfewer x hx => ?_⟩, brought_of_not_isBare,
    f.restrict_again scene, fun g left right hleft hright => inTurn_comm_iff hleft hright⟩
  · have hx' := heq ▸ (hbrings hx).1
    exact (KeySet.mem_inter.mp hx').2
  · rw [hmem, KeySet.mem_inter]
    exact ⟨fun h => h.elim (fun hx => ⟨(hbrings hx).2, hfewer x hx⟩) fun hx => hx, .inr⟩
  · exact ((hmem x).mp hx).elim (hfewer x) And.right

/-- The plants with a colour. -/
def byColour (selected : List String) : Facet :=
  .list { ListFacet.new "colour" (some ⟨".colour", .path ⟨none, [⟨"colour", true, false⟩]⟩⟩) with
    selection := KeySet.ofList selected }

/-- The plants themselves. -/
def byItself (selected : List String) : Facet :=
  .list { ListFacet.new "itself" (some ⟨"value", .path ⟨some "value", []⟩⟩) with
    selection := KeySet.ofList selected }

/-- Two plants, both of them root items. -/
def garden : Scene := ⟨plants, KeySet.ofList ["ash", "rose"]⟩

/-- A list of colours lets through of the rose alone what it lets through of both plants. -/
theorem restrict_redOfFew :
    (∀ x ∈ KeySet.ofList ["rose"], x ∈ garden.allItems) ∧
    ((byColour ["red"]).restrict garden (KeySet.ofList ["rose"])).1 = .ok (KeySet.ofList ["rose"]) ∧
    ((byColour ["red"]).restrict garden garden.allItems).1 = .ok (KeySet.ofList ["rose"]) ∧
    KeySet.ofList ["rose"] = (KeySet.ofList ["rose"]).inter (KeySet.ofList ["rose"]) := by
  have hsub : ∀ x ∈ KeySet.ofList ["rose"], x ∈ garden.allItems := by
    simp [garden]
  have hrose : ((byColour ["red"]).restrict garden (KeySet.ofList ["rose"])).1 =
      .ok (KeySet.ofList ["rose"]) := rfl
  have hboth : ((byColour ["red"]).restrict garden garden.allItems).1 =
      .ok (KeySet.ofList ["rose"]) := rfl
  obtain ⟨-, hiff, -, hbrought, -, -⟩ := restrict_of_subset hsub hrose hboth
  refine ⟨hsub, hrose, hboth, hiff.mpr ?_⟩
  rw [hbrought rfl]
  simp

/-- **A list over a variable lets through an item that it has not been given.** Given the rose it yields
    the ash, which is selected, though of both plants it yields the ash as well; so the choice of a
    colour is lost if it comes first. -/
theorem restrict_not_subset :
    (∀ x ∈ KeySet.ofList ["rose"], x ∈ garden.allItems) ∧
    ((byItself ["ash"]).restrict garden (KeySet.ofList ["rose"])).1 = .ok (KeySet.ofList ["ash"]) ∧
    ((byItself ["ash"]).restrict garden garden.allItems).1 = .ok (KeySet.ofList ["ash"]) ∧
    KeySet.ofList ["ash"] ≠ (KeySet.ofList ["ash"]).inter (KeySet.ofList ["rose"]) ∧
    (byItself ["ash"]).inTurn (byColour ["red"]) garden garden.allItems = .ok ∅ ∧
    (byColour ["red"]).inTurn (byItself ["ash"]) garden garden.allItems =
      .ok (KeySet.ofList ["ash"]) := by
  refine ⟨by simp [garden], rfl, rfl, fun heq => ?_, rfl, rfl⟩
  have hash : "ash" ∈ (KeySet.ofList ["ash"]).inter (KeySet.ofList ["rose"]) := heq ▸ by simp
  simp at hash

end Facet

end Faceted
