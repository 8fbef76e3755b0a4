import Faceted.Browser.Bookmark
import Faceted.Proofs.Json.RoundTrip

/-!
# States that are written and read

The text of a state does not tell its shape: a reader takes the first shape that fits. Every shape but
the last needs a field that the shapes after it do not have, so no state is taken for one of another
shape, whatever its fields hold, and in whatever order they come.

* `FacetState.ofJson?_list`, `ofJson?_ranges`, `ofJson?_nodes`, `ofJson?_text`: which objects are read as
  which shape;
* `FacetState.ofJson?_toJson` and `BrowserState.ofJson?_toJson`: states are read from the values they are
  written as, `ofJson?_sorted` from those with their fields in order;
* **`states_read_back`**: from their texts too.
-/

namespace Faceted

open Faceted.Decimal

/-! ## 1. Fields -/

theorem mapM_written {α β : Type} {write : α → β} {read : β → Option α}
    (h : ∀ x, read (write x) = some x) (xs : List α) : (xs.map write).mapM read = some xs := by
  induction xs with
  | nil => rfl
  | cons x xs ih => simp [h, ih]

namespace Json

/-- Putting the fields in order changes nothing about what is found under a name. -/
theorem lookup_sorted {fields : List (String × Json)} (hdistinct : (fields.map Prod.fst).Nodup)
    (name : String) :
    (KeyMap.ofList (sortedFields fields)).toList.lookup name = (fields.lookup name).map sorted := by
  have hnames : (sortedFields fields).map Prod.fst = fields.map Prod.fst := by
    rw [sortedFields_eq, List.map_map]
    rfl
  rw [lookup_eq_lookupKey]
  refine (KeyMap.get?_ofList (hnames ▸ hdistinct) name).trans ?_
  rw [sortedFields_eq, lookupKey_mapValues, lookup_eq_lookupKey]

/-- The fields of what was a map are in order. -/
theorem sorted_ofMap {α : Type} (write : α → Json) (m : KeyMap α) :
    sorted (.object (m.toList.map fun e => (e.1, write e.2))) =
      .object (m.toList.map fun e => (e.1, (write e.2).sorted)) := by
  have hfields : (m.toList.map fun e => (e.1, (write e.2).sorted)) =
      (m.mapValues fun x => (write x).sorted).toList := rfl
  rw [sorted, sortedFields_eq, List.map_map]
  show Json.object (KeyMap.ofList (m.toList.map fun e => (e.1, (write e.2).sorted))).toList = _
  rw [hfields, KeyMap.ofList_toList]

end Json

/-! ## 2. Parts of states -/

namespace RangeValue

@[simp] theorem ofJson?_toJson (v : RangeValue) : ofJson? v.toJson = some v := by
  cases v <;> rfl

@[simp] theorem sorted_toJson (v : RangeValue) : v.toJson.sorted = v.toJson := by
  cases v <;> rfl

end RangeValue

namespace FacetState

open Json

@[simp] theorem sorted_textJson (text : Option String) : (textJson text).sorted = textJson text := by
  cases text <;> rfl

@[simp] theorem text?_textJson (text : Option String) : text? (some (textJson text)) = some text := by
  cases text <;> rfl

theorem range?_object {fields : List (String × Json)} {r : RangeSelection}
    (hlow : fields.lookup "from" = some r.low.toJson) (hhigh : fields.lookup "to" = some r.high.toJson) :
    range? (.object fields) = some r := by
  simp [range?, hlow, hhigh]

theorem node?_object {fields : List (String × Json)} {n : NodeSelection}
    (hvalue : fields.lookup "value" = some (textJson n.value))
    (hothers : fields.lookup "selectOthers" = some (.bool n.others)) :
    node? (.object fields) = some n := by
  simp [node?, hvalue, hothers, Json.bool?]

theorem range?_sorted (r : RangeSelection) : range? (rangeJson r).sorted = some r := by
  rw [rangeJson, sorted]
  refine range?_object ?_ ?_ <;> rw [lookup_sorted (by simp)]
  · exact congrArg some r.low.sorted_toJson
  · exact congrArg some r.high.sorted_toJson

theorem node?_sorted (n : NodeSelection) : node? (nodeJson n).sorted = some n := by
  rw [nodeJson, sorted]
  refine node?_object ?_ ?_ <;> rw [lookup_sorted (by simp)]
  · exact congrArg some (sorted_textJson n.value)
  · rfl

/-! ## 3. Shapes -/

variable {fields : List (String × Json)}

theorem ofJson?_list {selection : List String} {missing : Bool}
    (hselection : fields.lookup "selection" = some (.array (selection.map .string)))
    (hmissing : fields.lookup "selectMissing" = some (.bool missing)) :
    ofJson? (.object fields) = some (.list selection missing) := by
  have hstring (s : String) : string? (.string s) = some s := rfl
  have hstrings := mapM_written hstring selection
  simp [ofJson?, listState?, hselection, hmissing, strings?, hstrings, Json.bool?]

/-- No object without a selection is read as a list. -/
theorem listState?_of_lookup (hselection : fields.lookup "selection" = none) :
    listState? fields = none := by
  simp [listState?, hselection]

theorem ofJson?_ranges {vs : List Json} {selected : List RangeSelection}
    (hselection : fields.lookup "selection" = none) (hranges : fields.lookup "ranges" = some (.array vs))
    (hvs : vs.mapM range? = some selected) : ofJson? (.object fields) = some (.ranges selected) := by
  simp [ofJson?, listState?_of_lookup hselection, rangesState?, hranges, elements?, hvs]

/-- No object without ranges is read as ranges. -/
theorem rangesState?_of_lookup (hranges : fields.lookup "ranges" = none) :
    rangesState? fields = none := by
  simp [rangesState?, hranges]

theorem ofJson?_nodes {vs : List Json} {selected : List NodeSelection}
    (hselection : fields.lookup "selection" = none) (hranges : fields.lookup "ranges" = none)
    (hnodes : fields.lookup "selections" = some (.array vs)) (hvs : vs.mapM node? = some selected) :
    ofJson? (.object fields) = some (.nodes selected) := by
  simp [ofJson?, listState?_of_lookup hselection, rangesState?_of_lookup hranges, nodesState?, hnodes,
    elements?, hvs]

theorem ofJson?_text {text : Option String} (hselection : fields.lookup "selection" = none)
    (hranges : fields.lookup "ranges" = none) (hnodes : fields.lookup "selections" = none)
    (htext : fields.lookup "text" = some (textJson text)) :
    ofJson? (.object fields) = some (.text text) := by
  simp [ofJson?, listState?_of_lookup hselection, rangesState?_of_lookup hranges, nodesState?, hnodes,
    textState?, htext]

/-- **A state is read** from the value it is written as. -/
theorem ofJson?_toJson (state : FacetState) : ofJson? state.toJson = some state := by
  cases state with
  | list selection missing => exact ofJson?_list rfl rfl
  | ranges selected =>
    exact ofJson?_ranges rfl rfl (mapM_written (fun _ => range?_object rfl rfl) selected)
  | nodes selected =>
    exact ofJson?_nodes rfl rfl rfl (mapM_written (fun _ => node?_object rfl rfl) selected)
  | text query => exact ofJson?_text rfl rfl rfl rfl

/-- A state is read from that value with its fields in order. -/
theorem ofJson?_sorted (state : FacetState) : ofJson? state.toJson.sorted = some state := by
  cases state with
  | list selection missing =>
    rw [toJson, sorted]
    refine ofJson?_list ?_ ?_ <;> rw [lookup_sorted (by simp)]
    · show some (Json.array (sortedElements (selection.map .string))) = _
      rw [sortedElements_eq, List.map_map]
      rfl
    · rfl
  | ranges selected =>
    refine ofJson?_ranges rfl rfl ?_
    rw [sortedElements_eq, List.map_map]
    exact mapM_written range?_sorted selected
  | nodes selected =>
    refine ofJson?_nodes rfl rfl rfl ?_
    rw [sortedElements_eq, List.map_map]
    exact mapM_written node?_sorted selected
  | text query => exact ofJson?_text rfl rfl rfl (congrArg some (sorted_textJson query))

/-- The numbers among the bounds. -/
def numbers : FacetState → List Float
  | .ranges selected => selected.flatMap fun r => r.low.number?.toList ++ r.high.number?.toList
  | _ => []

end FacetState

/-! ## 4. Texts of states -/

theorem RangeValue.legible {v : RangeValue} (h : ∀ x ∈ v.number?.toList, Json.ReadsBack x) (n : Nat) :
    v.toJson.Legible n := by
  cases v with
  | number x => exact Json.legible_float (h x (List.mem_singleton.mpr rfl)) n
  | text s => exact Json.legible_string s n

namespace FacetState

open Json

/-- A state nests three deep. -/
theorem legible {state : FacetState} (h : ∀ x ∈ state.numbers, ReadsBack x) :
    state.toJson.Legible 3 := by
  have htext (text : Option String) (n : Nat) : (textJson text).Legible n := by
    cases text with
    | none => exact legible_null n
    | some s => exact legible_string s n
  cases state with
  | list selection missing =>
    refine List.forall_mem_cons.mpr ⟨?_, List.forall_mem_singleton.mpr (legible_bool missing 2)⟩
    exact List.forall_mem_map.mpr fun text _ => legible_string text 1
  | ranges selected =>
    refine List.forall_mem_singleton.mpr (List.forall_mem_map.mpr fun r hr => ?_)
    have hr' : ∀ x ∈ r.low.number?.toList ++ r.high.number?.toList, ReadsBack x :=
      fun x hx => h x (List.mem_flatMap.mpr ⟨r, hr, hx⟩)
    obtain ⟨hlow, hhigh⟩ := List.forall_mem_append.mp hr'
    exact List.forall_mem_cons.mpr
      ⟨RangeValue.legible hlow 0, List.forall_mem_singleton.mpr (RangeValue.legible hhigh 0)⟩
  | nodes selected =>
    refine List.forall_mem_singleton.mpr (List.forall_mem_map.mpr fun n _ => ?_)
    exact List.forall_mem_cons.mpr
      ⟨htext n.value 0, List.forall_mem_singleton.mpr (legible_bool n.others 0)⟩
  | text query => exact List.forall_mem_singleton.mpr (htext query 2)

end FacetState

namespace BrowserState

open Json

/-- The numbers among the bounds of all facets. -/
def numbers (s : BrowserState) : List Float :=
  s.toList.flatMap fun (_, states) => states.toList.flatMap fun (_, state) => state.numbers

/-- What is written for the states of a collection. -/
def statesJson (states : KeyMap FacetState) : Json :=
  .object (states.toList.map fun e => (e.1, e.2.toJson))

/-- Entries that are read one by one make up the map again. -/
theorem mapM_entries {α : Type} {write : α → Json} {read : Json → Option α}
    (h : ∀ x, read (write x) = some x) (m : KeyMap α) :
    ((m.toList.map fun e => (e.1, write e.2)).mapM fun e => do return (e.1, ← read e.2)) =
      some m.toList :=
  mapM_written (fun e : String × α => by simp [h]) m.toList

theorem facetStates?_object {write : FacetState → Json} (h : ∀ x, FacetState.ofJson? (write x) = some x)
    (states : KeyMap FacetState) :
    facetStates? (.object (states.toList.map fun e => (e.1, write e.2))) = some states := by
  have hentries := mapM_entries h states
  simp only [facetStates?, fields?, Option.bind_eq_bind, Option.bind_some] at hentries ⊢
  rw [hentries]
  exact congrArg some states.ofList_toList

theorem ofJson?_object {write : KeyMap FacetState → Json} (h : ∀ x, facetStates? (write x) = some x)
    (s : BrowserState) : ofJson? (.object (s.toList.map fun e => (e.1, write e.2))) = some s := by
  have hentries := mapM_entries h s
  simp only [ofJson?, fields?, Option.bind_eq_bind, Option.bind_some] at hentries ⊢
  rw [hentries]
  exact congrArg some s.ofList_toList

/-- **A state is read** from the value it is written as. -/
theorem ofJson?_toJson (s : BrowserState) : ofJson? s.toJson = some s := by
  have hstates (states : KeyMap FacetState) : facetStates? (statesJson states) = some states :=
    facetStates?_object FacetState.ofJson?_toJson states
  exact ofJson?_object hstates s

/-- A state is read from that value with its fields in order. -/
theorem ofJson?_sorted (s : BrowserState) : ofJson? s.toJson.sorted = some s := by
  have hstates (states : KeyMap FacetState) : facetStates? (statesJson states).sorted = some states := by
    rw [statesJson, sorted_ofMap]
    exact facetStates?_object FacetState.ofJson?_sorted states
  show ofJson? (sorted (.object (s.toList.map fun e => (e.1, statesJson e.2)))) = some s
  rw [sorted_ofMap]
  exact ofJson?_object hstates s

/-- A state of a browser nests two deeper than those of its facets. -/
theorem legible {s : BrowserState} (h : ∀ x ∈ s.numbers, ReadsBack x) : s.toJson.Legible 5 := by
  refine List.forall_mem_map.mpr fun (collection, states) hstates => ?_
  refine List.forall_mem_map.mpr fun (facet, state) hstate => ?_
  refine FacetState.legible fun x hx => h x ?_
  exact List.mem_flatMap.mpr ⟨_, hstates, List.mem_flatMap.mpr ⟨_, hstate, hx⟩⟩

end BrowserState

/-- **States survive JSON.** The value that a state is written as is read as that state, in its shape, and
    so is the text of that value, if its numbers are written and read exactly; that goes for the states of
    facets and for those of browsers. -/
theorem states_read_back :
    (∀ state : FacetState, FacetState.ofJson? state.toJson = some state ∧
      ((∀ x ∈ state.numbers, Json.ReadsBack x) →
        (Json.parse? state.toJson.render).bind FacetState.ofJson? = some state)) ∧
    (∀ s : BrowserState, BrowserState.ofJson? s.toJson = some s ∧
      ((∀ x ∈ s.numbers, Json.ReadsBack x) →
        (Json.parse? s.toJson.render).bind BrowserState.ofJson? = some s)) := by
  refine ⟨fun state => ⟨state.ofJson?_toJson, fun h => ?_⟩, fun s => ⟨s.ofJson?_toJson, fun h => ?_⟩⟩
  · have hparse := Json.parse?_render ((FacetState.legible h).mono (by decide))
    rw [hparse]
    exact state.ofJson?_sorted
  · have hparse := Json.parse?_render ((BrowserState.legible h).mono (by decide))
    rw [hparse]
    exact s.ofJson?_sorted

/-- The double is written as its two digits, which are read as 25 over 10. -/
theorem readsBack_twoAndHalf : Json.ReadsBack 2.5 := by
  have htext : Layout.jsonText.render 2.5 = "2.5" := by decide +kernel
  have hdigits : Json.doubleOf? ['2'] ['5'] 0 = some 2.5 := by
    show Json.scaled? (ofInt 25) (-1) = some 2.5
    rw [Json.scaled?]
    rfl
  have hnumber : Json.number? false ['2'] ['5'] none = some (.float 2.5) := by
    show (Json.doubleOf? ['2'] ['5'] 0).map _ = _
    rw [hdigits]
    rfl
  rw [Json.ReadsBack, htext]
  show (Json.number? false ['2'] ['5'] none).bind _ = _
  rw [hnumber]
  rfl

/-- From a number up to a text. -/
def priced : FacetState := .ranges [⟨.number 2.5, .text "open"⟩]

/-- States of all shapes. -/
def shelved : BrowserState :=
  KeyMap.ofList [("books", KeyMap.ofList [("genre", .nodes [⟨none, true⟩]), ("price", priced),
    ("shelf", .list ["low"] true), ("title", .text none)])]

theorem shelved_read_back :
    (∀ x ∈ priced.numbers, Json.ReadsBack x) ∧ (∀ x ∈ shelved.numbers, Json.ReadsBack x) ∧
      (Json.parse? priced.toJson.render).bind FacetState.ofJson? = some priced ∧
      (Json.parse? shelved.toJson.render).bind BrowserState.ofJson? = some shelved := by
  have hpriced : ∀ x ∈ priced.numbers, Json.ReadsBack x :=
    List.forall_mem_singleton.mpr readsBack_twoAndHalf
  have hshelved : ∀ x ∈ shelved.numbers, Json.ReadsBack x :=
    List.forall_mem_singleton.mpr readsBack_twoAndHalf
  exact ⟨hpriced, hshelved, (states_read_back.1 priced).2 hpriced,
    (states_read_back.2 shelved).2 hshelved⟩

end Faceted
