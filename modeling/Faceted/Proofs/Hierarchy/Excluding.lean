import Faceted.Proofs.Facet.Memo
import Faceted.Proofs.Hierarchy.Growing
import Faceted.Proofs.Store.Run
import Mathlib.Data.List.Nodup

/-!
# Selected nodes exclude each other

A node stands for its whole subtree, so nothing else is to be selected at it or below it. A click
restores this by dropping what is above and below the clicked node. It looks upward along the parents and
downward along the children, and the two agree because ancestors are the converse of descendants, on
cycles as well.

* `Excluding`: the selections are told apart, and none is at or below another one that is a node;
* `addSelection_eq`: an addition keeps those of the selections that get along with the new one;
* **`Excluding.add`**: so an addition keeps selections that exclude each other;
* **`excluding_clicked`**: after any clicks the selections exclude each other.
-/

namespace Faceted

open Faceted.Expression

namespace HierarchicalFacet

variable {t : Hierarchy} {selections left : List NodeSelection} {n x : NodeSelection}

/-! ## 1. Exclusion -/

/-- No selection comes twice, and beside a selected node nothing is selected at its value or at a value
    that its subtree leads to. -/
structure Excluding (t : Hierarchy) (selections : List NodeSelection) : Prop where
  nodup : selections.Nodup
  apart : ∀ v, ⟨some v, false⟩ ∈ selections → ∀ x ∈ selections, x ≠ ⟨some v, false⟩ →
    ∀ w, x.value = some w → ¬ t.children.Reaches v w

theorem Excluding.sublist (h : Excluding t selections) (hleft : left.Sublist selections) :
    Excluding t left where
  nodup := h.nodup.sublist hleft
  apart v hv x hx := h.apart v (hleft.subset hv) x (hleft.subset hx)

theorem Excluding.singleton (t : Hierarchy) (n : NodeSelection) : Excluding t [n] where
  nodup := List.nodup_singleton n
  apart v hv x hx hne := by
    rw [List.mem_singleton] at hv hx
    exact absurd (hx.trans hv.symm) hne

/-! ## 2. Additions -/

/-- The selection is not one of those that the new one excludes. -/
structure GetsAlong (t : Hierarchy) (n x : NodeSelection) : Prop where
  above : ∀ v w, n.value = some v → x = ⟨some w, false⟩ → w ∉ t.ancestors v
  at_ : ∀ v, n.value = some v → x.value = some v → x.others = n.others
  below : ∀ v w, n = ⟨some v, false⟩ → x.value = some w → w ∉ t.descendants v

/-- An addition keeps selections that get along with the new one, and has that one in the end. -/
theorem addSelection_eq (t : Hierarchy) (selections : List NodeSelection) (n : NodeSelection) :
    ∃ left, left.Sublist selections ∧ (∀ x ∈ left, GetsAlong t n x) ∧
      addSelection t selections n = if n ∈ left then left else left ++ [n] := by
  obtain ⟨value, others⟩ := n
  cases value with
  | none =>
    refine ⟨selections, List.Sublist.refl selections, fun x _ => ?_, rfl⟩
    exact { above := by simp, at_ := by simp, below := by simp }
  | some v =>
    cases others with
    | true =>
      refine ⟨_, List.filter_sublist.trans List.filter_sublist, fun x hx => ?_, rfl⟩
      obtain ⟨value, others⟩ := x
      simp only [List.mem_filter, valueIs] at hx
      constructor <;> grind [KeySet.contains_iff]
    | false =>
      refine ⟨_, List.filter_sublist.trans (List.filter_sublist.trans List.filter_sublist),
        fun x hx => ?_, rfl⟩
      obtain ⟨value, others⟩ := x
      simp only [List.mem_filter, valueIs] at hx
      constructor <;> grind [KeySet.contains_iff]

/-- What gets along with a new selection and is beside it in the result is apart from it. -/
theorem GetsAlong.apart (hpaired : t.Paired) (h : GetsAlong t n x) (hne : x ≠ n) {v w : String} :
    (n = ⟨some v, false⟩ → x.value = some w → ¬ t.children.Reaches v w) ∧
      (x = ⟨some w, false⟩ → n.value = some v → ¬ t.children.Reaches w v) := by
  constructor
  · rintro rfl hx hreaches
    by_cases heq : w = v
    · subst heq
      have hothers : x.others = false := h.at_ w rfl hx
      exact hne (by rw [← hx, ← hothers])
    · exact h.below v w rfl hx (Relation.mem_closure_iff.mpr ⟨heq, hreaches⟩)
  · rintro rfl hn hreaches
    by_cases heq : v = w
    · subst heq
      have hothers : false = n.others := h.at_ v hn rfl
      exact hne (by rw [← hn, hothers])
    · refine h.above v w hn rfl (hpaired.mem_ancestors_iff.mpr ?_)
      exact Relation.mem_closure_iff.mpr ⟨heq, hreaches⟩

/-- **Adding a selection keeps the selections exclusive.** -/
theorem Excluding.add (hpaired : t.Paired) (h : Excluding t selections) (n : NodeSelection) :
    Excluding t (addSelection t selections n) := by
  obtain ⟨left, hleft, halong, hadd⟩ := addSelection_eq t selections n
  have hold := h.sublist hleft
  rw [hadd]
  split
  · exact hold
  · next hnew =>
    refine { nodup := ?_, apart := ?_ }
    · exact List.nodup_append.mpr ⟨hold.nodup, List.nodup_singleton n, by grind⟩
    · intro v hv x hx hne w hw
      -- both were there before, or one of them is the new one
      rcases List.mem_append.mp hv with hvleft | hvnew
      · rcases List.mem_append.mp hx with hxleft | hxnew
        · exact hold.apart v hvleft x hxleft hne w hw
        · have hx := List.mem_singleton.mp hxnew
          exact ((halong _ hvleft).apart hpaired (hx ▸ hne.symm)).2 rfl (hx ▸ hw)
      · have hn := List.mem_singleton.mp hvnew
        rcases List.mem_append.mp hx with hxleft | hxnew
        · exact ((halong x hxleft).apart hpaired (hn ▸ hne)).1 hn.symm hw
        · exact absurd ((List.mem_singleton.mp hxnew).trans hn.symm) hne

/-! ## 3. Clicks -/

variable {scene : Scene} {f : HierarchicalFacet}

/-- A click leaves the tree that the facet goes by. -/
theorem getTree_toggle (f : HierarchicalFacet) (n : NodeSelection) (only : Bool) :
    ((f.toggle scene n only).2.getTree scene).1 = (f.getTree scene).1 := by
  obtain ⟨g, selections, hg, htoggle⟩ := Facet.toggle_cases f scene n only
  rw [htoggle]
  exact getTree_again hg selections g.entries

/-- A click leaves some of the selections, or the clicked one alone, or adds it to them. -/
theorem selections_toggle (f : HierarchicalFacet) (scene : Scene) (n : NodeSelection) (only : Bool) :
    let selections := (f.toggle scene n only).2.selections
    selections.Sublist f.selections ∨ selections = [n] ∨
      (∃ t, (f.getTree scene).1 = .ok (some t) ∧ selections = addSelection t f.selections n) ∨
      ((f.getTree scene).1 = .ok none ∧ n ∉ f.selections ∧ selections = f.selections ++ [n]) := by
  have hkept : (f.getTree scene).2.selections = f.selections := by
    cases he : f.expression with
    | none => simp only [getTree, he]
    | some e => rw [getTree_eq he]
  unfold toggle
  dsimp only
  split
  · split
    · exact .inl (List.nil_sublist _)
    · exact .inr (.inl rfl)
  · split
    · exact .inl List.filter_sublist
    · next hnew =>
      generalize hanswer : f.getTree scene = answer at hkept
      obtain ⟨outcome, g⟩ := answer
      dsimp only at hkept
      rcases outcome with failure | _ | t
      · exact .inl (hkept ▸ List.Sublist.refl _)
      · exact .inr (.inr (.inr ⟨rfl, by simpa using hnew, by rw [← hkept]; rfl⟩))
      · exact .inr (.inr (.inl ⟨t, rfl, by rw [← hkept]; rfl⟩))

/-- The facet after clicks on nodes, each with whether the node is to be the only one selected. -/
def clicked (f : HierarchicalFacet) (scene : Scene) (clicks : List (NodeSelection × Bool)) :
    HierarchicalFacet :=
  clicks.foldl (fun f click => (f.toggle scene click.1 click.2).2) f

/-- The selections are told apart, and they exclude each other in the tree that the facet goes by. -/
structure Exclusive (f : HierarchicalFacet) (scene : Scene) : Prop where
  nodup : f.selections.Nodup
  excluding : ∀ t, (f.getTree scene).1 = .ok (some t) → t.Paired ∧ Excluding t f.selections

/-- One click keeps the selections exclusive. -/
theorem Exclusive.toggle (h : f.Exclusive scene) (n : NodeSelection) (only : Bool) :
    (f.toggle scene n only).2.Exclusive scene := by
  have hselections := f.selections_toggle scene n only
  constructor
  · rcases hselections with hleft | hone | ⟨t, ht, hadd⟩ | ⟨-, hnew, hmore⟩
    · exact h.nodup.sublist hleft
    · rw [hone]
      exact List.nodup_singleton n
    · obtain ⟨hpaired, hexcluding⟩ := h.excluding t ht
      rw [hadd]
      exact (hexcluding.add hpaired n).nodup
    · rw [hmore]
      exact List.nodup_append.mpr ⟨h.nodup, List.nodup_singleton n, by grind⟩
  · intro t ht
    rw [getTree_toggle] at ht
    obtain ⟨hpaired, hexcluding⟩ := h.excluding t ht
    refine ⟨hpaired, ?_⟩
    rcases hselections with hleft | hone | ⟨t', ht', hadd⟩ | ⟨hnone, -, -⟩
    · exact hexcluding.sublist hleft
    · rw [hone]
      exact .singleton t n
    · obtain rfl := Option.some.inj (Except.ok.inj (ht.symm.trans ht'))
      rw [hadd]
      exact hexcluding.add hpaired n
    · cases ht.symm.trans hnone

theorem Exclusive.clicked (h : f.Exclusive scene) (clicks : List (NodeSelection × Bool)) :
    (f.clicked scene clicks).Exclusive scene := by
  induction clicks generalizing f with
  | nil => exact h
  | cons click rest ih => exact ih (h.toggle click.1 click.2)

/-- The trees that a facet goes by are built, or kept. -/
theorem paired_getTree (hkept : ∀ t, f.tree = some t → t.Paired) (h : (f.getTree scene).1 = .ok (some t)) :
    t.Paired := by
  obtain ⟨e, -, hanswer⟩ := exists_of_getTree h
  cases htree : f.tree with
  | some kept =>
    rw [htree] at hanswer
    obtain rfl := Except.ok.inj hanswer
    exact hkept kept htree
  | none =>
    rw [htree] at hanswer
    exact (Hierarchy.build_tells hanswer).1.paired

/-- **Clicks leave selections that exclude each other.** Starting without selections, whatever is clicked
    and however often: no selection comes twice, and a selected node is alone in its subtree, be it a
    tree or a graph with several parents and cycles. -/
theorem excluding_clicked (f : HierarchicalFacet) (scene : Scene) (hnone : f.selections = [])
    (hkept : ∀ t, f.tree = some t → t.Paired) (clicks : List (NodeSelection × Bool)) :
    (f.clicked scene clicks).selections.Nodup ∧
      ∀ t, ((f.clicked scene clicks).getTree scene).1 = .ok (some t) →
        ∀ v, ⟨some v, false⟩ ∈ (f.clicked scene clicks).selections →
          ∀ x ∈ (f.clicked scene clicks).selections, x ≠ ⟨some v, false⟩ →
            ∀ w, x.value = some w → w ≠ v ∧ w ∉ t.descendants v := by
  have hstart : f.Exclusive scene := {
    nodup := by
      rw [hnone]
      exact List.nodup_nil
    excluding := fun t ht => by
      refine ⟨paired_getTree hkept ht, ?_⟩
      rw [hnone]
      exact (Excluding.singleton t ⟨none, false⟩).sublist (List.nil_sublist _) }
  have hdone := hstart.clicked clicks
  refine ⟨hdone.nodup, fun t ht v hv x hx hne w hw => ?_⟩
  have hapart := (hdone.excluding t ht).2.apart v hv x hx hne w hw
  constructor
  · rintro rfl
    exact hapart .refl
  · exact fun hbelow => hapart (Relation.mem_closure_iff.mp hbelow).2

/-- Two kinds that are parents of each other and of a third one. -/
def looped : Scene where
  store := storeAfter [.add ⟨"rex", "kind", "dog"⟩, .add ⟨"dog", "parent", "pet"⟩,
    .add ⟨"dog", "parent", "beast"⟩, .add ⟨"pet", "parent", "beast"⟩, .add ⟨"beast", "parent", "pet"⟩]
  allItems := KeySet.ofList ["rex"]

/-- The others of one kind, the third kind, the other of the two, and what has no kind. -/
def rounds : List (NodeSelection × Bool) :=
  [(⟨some "pet", true⟩, false), (⟨some "dog", false⟩, false), (⟨some "beast", false⟩, false),
    (⟨none, false⟩, false)]

/-- On a cycle, too, the last node clicked drops what is below it. -/
theorem excluding_looped : kinds.selections = [] ∧ (∀ t, kinds.tree = some t → t.Paired) ∧
    (kinds.clicked looped rounds).selections = [⟨some "beast", false⟩, ⟨none, false⟩] ∧
    ∃ t, ((kinds.clicked looped rounds).getTree looped).1 = .ok (some t) ∧
      "pet" ∈ t.descendants "beast" ∧ "beast" ∈ t.descendants "pet" ∧
      (kinds.clicked looped rounds).selections.Nodup ∧
      ∀ x ∈ (kinds.clicked looped rounds).selections, x ≠ ⟨some "beast", false⟩ →
        ∀ w, x.value = some w → w ≠ "beast" ∧ w ∉ t.descendants "beast" := by
  have hkept : ∀ t, kinds.tree = some t → t.Paired := fun t ht => by cases ht
  have hselections : (kinds.clicked looped rounds).selections =
      [⟨some "beast", false⟩, ⟨none, false⟩] := by decide +kernel
  obtain ⟨hnodup, hexcluding⟩ := excluding_clicked kinds looped rfl hkept rounds
  refine ⟨rfl, hkept, hselections, _, rfl, by decide +kernel, by decide +kernel, hnodup, ?_⟩
  exact hexcluding _ rfl "beast" (hselections ▸ List.mem_cons_self)

end HierarchicalFacet

end Faceted
