import Faceted.Proofs.Browser.Run

/-!
# Browsers that match their store

Seen from outside: after a run of operations that all succeed, every collection has the root that the
store and its base give it, and its restricted items are what new copies of its facets let through.
This holds while the collections are in step with the store.

* `alike_load`: a payload that declares no properties and brings no items changes nothing that the
  store answers, so only loads that redeclare properties can bring the two out of step
  (`inStep_of_loads`);
* **`consistent_of_run`** is the statement;
* **`shelf_of_redeclared`**: a payload that declares a property anew leaves the restricted items as they
  were, although the facet would let none of them through any more.
-/

namespace Faceted

open Faceted.Action

/-! ## 1. Loads that change no answer -/

namespace Store

theorem alike_types (s : Store) (types : KeyMap ItemType) : s.Alike { s with types } :=
  ⟨sameContent_of_eq rfl rfl rfl rfl rfl, rfl⟩

theorem alike_loadTypes (s : Store) (types : List (String × Json)) (base : String) :
    s.Alike (s.loadTypes types base).1 := by
  suffices hfold : s.Alike (types.foldl (loadType base) s) from hfold
  induction types generalizing s with
  | nil => exact Alike.refl s
  | cons entry rest ih =>
    refine Alike.trans ?_ (ih (loadType base s entry))
    unfold loadType
    split
    · exact alike_types s _
    · exact Alike.refl s

/-- A payload without properties and items changes nothing that the store answers. -/
theorem alike_load {s t : Store} {payload : Json} {base : String} {events : List StoreEvent}
    (hproperties : (payload.get? "properties").bind Json.fields? = none)
    (hitems : (payload.get? "items").bind Json.elements? = none)
    (h : s.load payload base = .ok (t, events)) : s.Alike t := by
  cases payload with
  | object fields =>
    have ht : _ = t := congrArg Prod.fst (Except.ok.inj h)
    rw [hproperties, hitems] at ht
    rw [← ht]
    cases ((Json.object fields).get? "types").bind Json.fields? with
    | none => exact Alike.refl s
    | some types => exact alike_loadTypes s types base
  | _ => cases h

end Store

namespace Browser

/-- The payload declares properties but has no items. -/
def onlyDeclares (payload : Json) : Bool :=
  ((payload.get? "properties").bind Json.fields?).isSome && !hasItems payload

/-- An operation other than a load that only declares properties keeps a run in step. -/
theorem InStep.step {b : Browser} {ops : List BrowserOperation} {op : BrowserOperation}
    (h : InStep b ops) (hop : ∀ payload base, op = .load payload base → onlyDeclares payload = false)
    (hok : (run (ops ++ [op]) b).1.isOk = true) (hstrict : b.settings.errors ≠ .log) :
    InStep b (ops ++ [op]) := by
  have hrun := eq_of_isOk hok
  generalize (run (ops ++ [op]) b).2 = b' at hrun
  obtain ⟨u, hu, hperform⟩ := run_concat_ok hrun
  have hstrictU := strict_of_run hu hstrict
  cases hrefreshes : op.refreshes with
  | true => exact .refreshed ops hrefreshes
  | false =>
    refine h.kept ?_
    rw [hrun, hu]
    cases hdata : op.isAboutData with
    | false => exact (((op.obeys_perform hdata).ok hperform).2 rfl hstrictU).store
    | true =>
      cases op with
      | load payload base =>
        obtain ⟨store, events, hload, hall | ⟨-, rfl⟩⟩ := load_ok hperform hstrictU
        all_goals
          have hitems : (payload.get? "items").bind Json.elements? = none :=
            Option.not_isSome_iff_eq_none.mp (Bool.eq_false_iff.mp hrefreshes)
          have hproperties : (payload.get? "properties").bind Json.fields? = none := by
            have hdeclares := hop payload base rfl
            unfold onlyDeclares hasItems at hdeclares
            rw [hitems] at hdeclares
            exact Option.not_isSome_iff_eq_none.mp (by simpa using hdeclares)
          have halike := Store.alike_load hproperties hitems hload
        · exact halike.trans ((obeys_refreshAll.ok hall).2 rfl hstrictU).store
        · exact halike
      | update ops => cases hrefreshes
      | _ => cases hdata

/-- Loads that only declare properties are the only operations that can bring a run out of step. -/
theorem inStep_of_loads {b b' : Browser} {ops : List BrowserOperation}
    (hrun : run ops b = (.ok (), b')) (hstrict : b.settings.errors ≠ .log)
    (hloads : ∀ payload base, .load payload base ∈ ops → onlyDeclares payload = false) :
    InStep b ops := by
  induction ops using List.reverseRecOn generalizing b' with
  | nil => exact .start
  | append_singleton ops op ih =>
    obtain ⟨u, hu, -⟩ := run_concat_ok hrun
    have hbefore : InStep b ops := ih hu fun payload base h =>
      hloads payload base (List.mem_append_left [op] h)
    refine hbefore.step (fun payload base hop => ?_) (by rw [hrun]; rfl) hstrict
    exact hloads payload base (List.mem_append_right ops (hop ▸ List.mem_singleton_self op))

/-! ## 2. The statement -/

/-- **A browser is consistent with its store.** After operations that all succeed, where failures are
    not just logged: if since the last refresh nothing has changed what the store answers, then every
    collection has the root that its source calls for, and copies of its facets that keep nothing let
    exactly its restricted items through. -/
theorem consistent_of_run {settings : Settings} {present : Int} {ops : List BrowserOperation}
    {b : Browser} (hstrict : settings.errors ≠ .log)
    (hrun : run ops (start settings present) = (.ok (), b))
    (hstep : InStep (start settings present) ops) {c : Collection} (hc : c ∈ b.collections) :
    (c.isRestricting = false → b.rootOf c = .ok c.items) ∧
      Scene.throughEach ⟨b.store, c.items⟩ (c.facets.map Facet.dropCaches) c.items =
        .ok c.restricted := by
  have hin := inTune_of_run hrun hstrict (orderly_start settings present)
    (inTune_start settings present) hstep
  obtain ⟨place, hplace⟩ := List.mem_iff_getElem?.mp hc
  exact ⟨hin.roots place c hplace, (hin.inLine c hc).throughEach_fresh⟩

/-- A browser that returns its failures. -/
def library : Browser := start { Settings.default with errors := .throw } 0

/-- Two books, one of them lent; whether a book is lent is a truth value. -/
def lentBooks : Json :=
  .object [
    ("properties", .object [("lent", .object [("valueType", .string "boolean")])]),
    ("items", .array [
      .object [("id", .string "ash"), ("lent", .string "no")],
      .object [("id", .string "elm"), ("lent", .string "true")]])]

/-- The books that are in are selected. -/
def shelf : FacetConfig :=
  { FacetConfig.empty with
    id := some "shelf"
    expression := some "if(.lent, 'out', 'in')"
    selection := some ["in"] }

/-- The books are loaded, and those that are in selected; then those that are out are selected as
    well. -/
def lending : List BrowserOperation :=
  [.load lentBooks none, .addFacet defaultId shelf,
    .changeFacet defaultId "shelf" (.toggleValue (some "out") false)]

theorem inStep_lending : InStep library lending := by
  have hloaded : InStep library ([] ++ [.load lentBooks none]) := .refreshed [] rfl
  have hadded : InStep library ([.load lentBooks none] ++ [.addFacet defaultId shelf]) :=
    hloaded.step (fun _ _ h => by cases h) (by decide +kernel) (by decide)
  exact hadded.step (fun _ _ h => by cases h) (by decide +kernel) (by decide)

theorem consistent_lending :
    ∃ c ∈ (run lending library).2.collections, c.restricted.toList = ["ash", "elm"] ∧
      (c.isRestricting = false → (run lending library).2.rootOf c = .ok c.items) ∧
        Scene.throughEach ⟨(run lending library).2.store, c.items⟩
          (c.facets.map Facet.dropCaches) c.items = .ok c.restricted := by
  have hfirst : (run lending library).2.collections[0]?.map (fun c => c.restricted.toList) =
      some ["ash", "elm"] := by decide +kernel
  have hrun : run lending library = (.ok (), (run lending library).2) :=
    eq_of_isOk (by decide +kernel)
  obtain ⟨c, hc, hrestricted⟩ := Option.map_eq_some_iff.mp hfirst
  exact ⟨c, List.mem_of_getElem? hc, hrestricted,
    consistent_of_run (by decide) hrun inStep_lending (List.mem_of_getElem? hc)⟩

/-- Declares that whether a book is lent is a text, which brings no item. -/
def lentAsText : Json :=
  .object [("properties", .object [("lent", .object [("valueType", .string "text")])])]

/-- The books that are in are selected, and after that the property is declared anew. -/
def relabelling : List BrowserOperation :=
  [.load lentBooks none, .addFacet defaultId shelf, .load lentAsText none]

/-- **A property that is declared anew** leaves the restricted items as they were: every text counts as
    true, so the facet would let neither book through. -/
theorem shelf_of_redeclared :
    (run relabelling library).1.isOk = true ∧
      ((run relabelling library).2.collections.map fun c =>
        (c.isRestricting, c.restricted.toList,
          (Scene.throughEach ⟨(run relabelling library).2.store, c.items⟩
            (c.facets.map Facet.dropCaches) c.items).toOption.map KeySet.toList)) =
        [(false, ["ash"], some [])] := by
  decide +kernel

end Browser

end Faceted
