import Faceted.Proofs.Facet.Copies

/-!
# What selecting leaves alone

Clicks, typing and states that are taken over are about the selection. Apart from that and from what it
keeps, shows and holds back, a facet stays what it was set up to be.

* `Facet.bare` is the facet with its selection only, `Facet.plain` the facet without even that;
* `Facet.Trimmed`: the query of a text search is what it stands for, so that it survives being exported;
* **`reselected_use`**: whatever a facet is used for, it is set up as before and stays trimmed.
-/

namespace Faceted

/-! ## 1. Queries -/

namespace Text

theorem trimStart_of_head? {cs : List Char} (h : ∀ c, cs.head? = some c → isBlank c = false) :
    trimStart cs = cs := by
  cases cs with
  | nil => rfl
  | cons c cs => rw [trimStart_cons, h c rfl, if_neg Bool.false_ne_true]

/-- Trimming once is enough. -/
theorem trim_trim (cs : List Char) : trim (trim cs) = trim cs := by
  have hstart : trimStart (trim cs) = trim cs := by
    refine trimStart_of_head? fun c hc => ?_
    -- what is left at the end is a prefix of what is left at the start
    have hprefix : trim cs <+: trimStart cs := by
      have hsuffix : trimStart (trimStart cs).reverse <:+ (trimStart cs).reverse :=
        List.dropWhile_suffix isBlank
      rw [← List.reverse_reverse (trimStart cs)]
      exact List.reverse_prefix.mpr hsuffix
    obtain ⟨rest, hrest⟩ := hprefix
    have hhead : (trimStart cs).head? = some c := by
      rw [← hrest, List.head?_append, hc]
      rfl
    exact head?_trimStart hhead
  show (trimStart (trimStart (trim cs)).reverse).reverse = trim cs
  rw [hstart]
  simp only [trim, List.reverse_reverse, trimStart_trimStart]

end Text

/-- A query stands for itself. -/
theorem TextSearchFacet.queryOf_queryOf (text : String) :
    (queryOf text).bind queryOf = queryOf text := by
  have htrimmed : Text.trimmed (Text.trimmed text) = Text.trimmed text := by
    simp only [Text.trimmed, String.toList_ofList, Text.trim_trim]
  cases h : (Text.trimmed text).isEmpty with
  | true => simp [queryOf, h]
  | false => simp [queryOf, h, htrimmed]

theorem TextSearchFacet.queryOf_getD {query : Option String} (h : query.bind queryOf = query) :
    queryOf (query.getD "") = query := by
  cases query with
  | none => simp [queryOf, Text.trimmed, Text.trim, Text.trimStart]
  | some query =>
    rw [Option.getD_some]
    rw [Option.bind_some] at h
    exact h

namespace Facet

variable {scene scene' : Scene} {f g h : Facet}

/-! ## 2. Setting up and selecting -/

/-- The facet with nothing kept, shown or typed. -/
def bare : Facet → Facet
  | .list f => .list f.bare
  | .cloud f => .cloud { f with list := f.list.bare, cloud := [] }
  | .numericRange f => .numericRange f.bare
  | .alphaRange f => .alphaRange f.bare
  | .hierarchical f => .hierarchical f.bare
  | .textSearch f =>
    .textSearch { f with requiresEnter := false, debouncer := .new 0, texts := none }
  | .derived f => .derived f.settled

@[simp] theorem bare_settled (f : Facet) (scene : Scene) : (f.settled scene).bare = f.bare := by
  cases f <;> rfl

@[simp] theorem bare_dropCaches (f : Facet) : f.dropCaches.bare = f.bare := by
  cases f <;> rfl

@[simp] theorem exportState_bare (f : Facet) : f.bare.exportState = f.exportState := by
  cases f <;> rfl

@[simp] theorem hasRestrictions_bare (f : Facet) : f.bare.hasRestrictions = f.hasRestrictions := by
  cases f <;> rfl

theorem bare_of_settled (h : f.settled scene = g.settled scene') : f.bare = g.bare := by
  rw [← bare_settled f scene, h, bare_settled]

/-- What a facet stands for that keeps nothing wrong can be told from the bare facet. -/
theorem settled_of_fresh (hf : f.Fresh scene) : f.settled scene = f.bare.settled scene := by
  have hdropped : f.dropCaches.settled scene = f.bare.settled scene := by cases f <;> rfl
  exact Eq.trans hf hdropped

/-- Facets that keep nothing wrong stand for the same if nothing else tells them apart. -/
theorem settled_of_bare (hs : scene.Alike scene') (hf : f.Fresh scene) (hg : g.Fresh scene')
    (h : f.bare = g.bare) : f.settled scene = g.settled scene' := by
  rw [settled_of_fresh hf, settled_of_fresh hg, h, settled_alike hs]

/-- The facet as it was set up: nothing is selected, kept, shown or typed. -/
def plain (f : Facet) : Facet := f.bare.clear.2

theorem expressions_plain (f : Facet) : f.plain.expressions = f.expressions := by
  cases f <;> rfl

theorem class?_plain (f : Facet) : f.plain.class? = f.class? := by
  cases f <;> rfl

/-- A text search has a query that stands for itself. -/
def Trimmed : Facet → Prop
  | .textSearch f => f.query.bind TextSearchFacet.queryOf = f.query
  | _ => True

theorem trimmed_bare (f : Facet) : f.bare.Trimmed ↔ f.Trimmed := by
  cases f <;> exact Iff.rfl

/-! ## 3. Another selection -/

/-- The facets differ at most in the selection and in what `bare` forgets. -/
structure Reselected (f g : Facet) : Prop where
  plain : f.plain = g.plain
  trimmed : f.Trimmed → g.Trimmed

namespace Reselected

theorem refl (f : Facet) : f.Reselected f := ⟨rfl, fun ht => ht⟩

theorem trans (hfg : f.Reselected g) (hgh : g.Reselected h) : f.Reselected h :=
  ⟨hfg.plain.trans hgh.plain, hgh.trimmed ∘ hfg.trimmed⟩

theorem of_bare (hfg : f.bare = g.bare) : f.Reselected g where
  plain := by rw [Facet.plain, hfg, Facet.plain]
  trimmed ht := by rwa [← trimmed_bare, ← hfg, trimmed_bare]

theorem of_settled (hfg : f.settled scene = g.settled scene') : f.Reselected g :=
  of_bare (bare_of_settled hfg)

theorem clear (f : Facet) : f.Reselected f.clear.2 := by
  cases f with
  | textSearch f => exact ⟨rfl, fun _ => rfl⟩
  | _ => exact ⟨rfl, fun _ => trivial⟩

/-- A text search with another query, whatever else is typed. -/
theorem withQuery {f g : TextSearchFacet} (hfg : (Facet.textSearch f).bare = (textSearch g).bare)
    {query : Option String} (hquery : query.bind TextSearchFacet.queryOf = query) :
    Reselected (.textSearch f) (.textSearch { g with query }) where
  plain := by
    have hplain := congrArg (fun f : Facet => f.clear.2) hfg
    exact hplain
  trimmed _ := hquery

theorem setText (f : TextSearchFacet) (text : String) :
    Reselected (.textSearch f) (.textSearch (f.setText text).2) :=
  withQuery rfl (TextSearchFacet.queryOf_queryOf text)

theorem apply {state : FacetState} (hg : f.apply state = .ok g) : f.Reselected g := by
  cases f with
  | textSearch f =>
    cases state <;> cases hg
    exact setText f _
  | _ =>
    cases state <;> cases hg
    exact ⟨rfl, fun _ => trivial⟩

theorem importState {state : FacetState} {changed : Bool}
    (hg : f.importState state = .ok (changed, g)) : f.Reselected g := by
  unfold Facet.importState at hg
  split at hg
  · cases hg
    exact refl f
  · split at hg
    · cases hg
      exact clear f
    · cases ha : f.apply state with
      | error failure =>
        rw [ha] at hg
        cases hg
      | ok g' =>
        rw [ha] at hg
        cases hg
        exact apply ha

theorem orStay {answer : Outcome (Bool × Facet)}
    (hanswer : ∀ changed g, answer = .ok (changed, g) → f.Reselected g) :
    f.Reselected (f.orStay answer).2 := by
  cases answer with
  | error failure => exact refl f
  | ok result => exact hanswer result.1 result.2 rfl

theorem onList {act : ListFacet → Bool × ListFacet}
    (hact : ∀ l : ListFacet, (act l).2.bare.clear.2 = l.bare.clear.2) :
    f.Reselected (f.onList act).2 := by
  cases f with
  | list l => exact ⟨congrArg Facet.list (hact l).symm, fun _ => trivial⟩
  | cloud c =>
    refine ⟨?_, fun _ => trivial⟩
    exact congrArg (fun list => Facet.cloud ⟨list, c.minimumCount, []⟩) (hact c.list).symm
  | _ => exact refl _

theorem onNumbers {act : NumericRangeFacet → Bool × NumericRangeFacet}
    (hact : ∀ n : NumericRangeFacet, (act n).2.bare.clear.2 = n.bare.clear.2) :
    f.Reselected (f.onNumbers act).2 := by
  cases f with
  | numericRange n => exact ⟨congrArg Facet.numericRange (hact n).symm, fun _ => trivial⟩
  | _ => exact refl _

theorem onTextSearch {act : TextSearchFacet → Bool × TextSearchFacet}
    (hact : ∀ t, Reselected (.textSearch t) (.textSearch (act t).2)) :
    f.Reselected (f.onTextSearch act).2 := by
  cases f with
  | textSearch t => exact hact t
  | _ => exact refl _

theorem input (f : TextSearchFacet) (text : String) (now : Nat) (enter : Bool) :
    Reselected (.textSearch f) (.textSearch (f.input text now enter).2) := by
  unfold TextSearchFacet.input
  split
  · exact withQuery (f := f) (g := { f with debouncer := f.debouncer.cancel }) rfl
      (TextSearchFacet.queryOf_queryOf text)
  · split <;> exact of_bare rfl

theorem poll (f : TextSearchFacet) (now : Nat) :
    Reselected (.textSearch f) (.textSearch (f.poll now).2) := by
  unfold TextSearchFacet.poll
  split
  · next text debouncer _ =>
    exact withQuery (f := f) (g := { f with debouncer }) rfl (TextSearchFacet.queryOf_queryOf text)
  · exact of_bare rfl

end Reselected

theorem bare_getTree (f : HierarchicalFacet) (scene : Scene) :
    (f.getTree scene).2.bare = f.bare := by
  have hdropped := congrArg HierarchicalFacet.bare (dropCaches_getTree f scene)
  exact hdropped

theorem reselected_toggle (f : HierarchicalFacet) (scene : Scene) (n : NodeSelection) (only : Bool) :
    Reselected (.hierarchical f) (.hierarchical (f.toggle scene n only).2) := by
  obtain ⟨g, selections, hg, htoggle⟩ := toggle_cases f scene n only
  have hbare : g.bare = f.bare := by
    rcases hg with rfl | rfl
    · rfl
    · exact bare_getTree f scene
  have hplain := congrArg (fun g : HierarchicalFacet => (Facet.hierarchical g).clear.2) hbare.symm
  rw [htoggle]
  exact ⟨hplain, fun _ => trivial⟩

/-- **Changes are about the selection**, and leave a trimmed query. -/
theorem reselected_perform (f : Facet) (scene : Scene) (change : Change) :
    f.Reselected (f.perform scene change).2 := by
  cases change with
  | importState state => exact .orStay fun _ _ hg => .importState hg
  | apply state =>
    refine .orStay fun changed g hg => ?_
    cases ha : f.apply state with
    | error failure =>
      rw [ha] at hg
      cases hg
    | ok g' =>
      rw [ha] at hg
      cases hg
      exact .apply ha
  | clear => exact .clear f
  | toggleValue value only =>
    refine .onList fun l => ?_
    obtain ⟨values, missing, heq⟩ := l.toggle_eq_select value only
    rw [heq]
    rfl
  | select values missing => exact .onList fun _ => rfl
  | toggleNumbers low high only => exact .onNumbers fun _ => rfl
  | setNumbers low high selected => exact .onNumbers fun _ => rfl
  | toggleLetters low high only =>
    cases f with
    | alphaRange f => exact ⟨rfl, fun _ => trivial⟩
    | _ => exact .refl _
  | toggleNode node only =>
    cases f with
    | hierarchical f => exact reselected_toggle f scene node only
    | _ => exact .refl _
  | restrictTo allowed =>
    cases f with
    | derived f => exact ⟨rfl, fun _ => trivial⟩
    | _ => exact .refl _
  | setText text => exact .onTextSearch fun t => .setText t text
  | input text now enter => exact .onTextSearch fun t => .input t text now enter
  | poll now => exact .onTextSearch fun t => .poll t now
  | requireEnter on => exact .onTextSearch fun _ => .of_bare rfl

/-- **Whatever a facet is used for**, it is set up as before. -/
theorem reselected_use {store : Store} (hg : f.Use scene g store) : f.Reselected g := by
  cases hg with
  | restrict items => exact .of_settled (f.settled_restrict scene items).symm
  | update items => exact .of_settled (f.settled_update scene items).symm
  | perform change => exact f.reselected_perform scene change
  | dropCaches => exact .of_bare f.bare_dropCaches.symm

end Facet

end Faceted
