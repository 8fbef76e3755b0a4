import Faceted.Proofs.Facet.Asking
import Faceted.Proofs.Facet.Gathering
import Faceted.Proofs.Store.Registered
import Faceted.Proofs.Text.Lowering

/-!
# Searching everything

A text search over all properties keeps the items of which some value contains the query, both in lower
case. The values are read along the list of all properties, so this takes a store in which no statement
stands outside that list.

* `containsText_iff`: containing is occurring without gaps;
* `SearchesAll.mem_restrict`: what is kept, in a store whose properties are all registered;
* **`search_of_run`**: what is kept after any run of the store, told by the statements of the run.

The query and the values are put in lower case each for itself. A value that has the query in it letter
by letter should be found, whatever stands around the query. It is not, where the query has a capital
sigma that ends a word alone and none in the value, or the other way round.

* `SearchesAll.finds`: what a query that is typed finds for certain;
* **`verbatim_found`**: a place at which the query stands as it does alone is found, and all places are
  iff the capital sigmas of the query are decided by the query itself;
* `odysseus_not_found`: a name is not found by its beginning.
-/

namespace Faceted

open Faceted.Text

namespace TextSearchFacet

/-! ## 1. Containing -/

theorem occursIn_iff (word text : List Char) : occursIn word text = true ↔ word <:+: text := by
  induction text with
  | nil => simp [occursIn]
  | cons c cs ih =>
    rw [occursIn, Bool.or_eq_true, List.isPrefixOf_iff_prefix, ih, List.infix_cons_iff]

theorem containsText_iff (text word : String) :
    containsText text word = true ↔ word.toList <:+: text.toList :=
  occursIn_iff word.toList text.toList

/-! ## 2. What is kept -/

/-- The texts that a search over all properties reads of an item. -/
theorem textsOf_allProperties (s : Store) (item : String) :
    textsOf .allProperties s item = .ok ((s.textsOf item).map lowerCased) := by
  rw [Store.textsOf, List.map_flatMap]
  rfl

/-- Nothing that such a search needs can fail. -/
theorem buildTexts_allProperties (scene : Scene) :
    ∃ texts, buildTexts .allProperties scene = .ok texts ∧
      ∀ x ∈ scene.allItems, texts.get? x = some ((scene.store.textsOf x).map lowerCased) := by
  obtain ⟨texts, hbuild, hget⟩ := buildTexts_get? .allProperties scene
    fun x _ => ⟨_, textsOf_allProperties scene.store x⟩
  exact ⟨texts, hbuild, fun x hx => hget x hx _ (textsOf_allProperties scene.store x)⟩

/-- The facet searches all properties, and has kept no texts but those of the scene. -/
structure SearchesAll (f : TextSearchFacet) (scene : Scene) : Prop where
  searched : f.searched = .allProperties
  current : ∀ texts, f.texts = some texts → buildTexts .allProperties scene = .ok texts

theorem SearchesAll.of_new {f : TextSearchFacet} (hsearched : f.searched = .allProperties)
    (htexts : f.texts = none) (scene : Scene) : f.SearchesAll scene where
  searched := hsearched
  current texts h := by rw [htexts] at h; cases h

/-- It reads the texts of the scene, whether it has kept them or not. -/
theorem SearchesAll.answering_eq {f : TextSearchFacet} {scene : Scene} (h : f.SearchesAll scene) :
    answering f.texts (buildTexts .allProperties scene) = buildTexts .allProperties scene := by
  cases htexts : f.texts with
  | none => rfl
  | some texts => exact (h.current texts htexts).symm

/-- **What a search over everything keeps**: the items with a value that contains the query. -/
theorem SearchesAll.mem_restrict {f : TextSearchFacet} {scene : Scene} (h : f.SearchesAll scene)
    (hstore : scene.store.Registered) {items : KeySet} (hitems : ∀ x ∈ items, x ∈ scene.allItems)
    {query : String} (hquery : f.query = some query) :
    ∃ kept, (f.restrict scene items).1 = .ok kept ∧
      ∀ x, x ∈ kept ↔ x ∈ items ∧ ∃ p, ∃ o ∈ scene.store.objectList x p,
        (lowerCased query).toList <:+: (lowerCased o).toList := by
  obtain ⟨texts, hbuild, hget⟩ := buildTexts_allProperties scene
  refine ⟨items.filter fun item =>
    ((texts.get? item).getD []).any fun text => containsText text (lowerCased query), ?_, fun x => ?_⟩
  · unfold restrict
    rw [hquery]
    dsimp only
    rw [h.searched, getTexts_eq, h.searched, h.answering_eq, hbuild]
    rfl
  · rw [KeySet.mem_filter]
    refine and_congr_right fun hx => ?_
    rw [hget x (hitems x hx), Option.getD_some, List.any_map, List.any_eq_true]
    simp only [hstore.mem_textsOf, Function.comp_apply, containsText_iff]
    constructor
    · rintro ⟨o, ⟨p, ho⟩, hfound⟩
      exact ⟨p, o, ho, hfound⟩
    · rintro ⟨p, o, ho, hfound⟩
      exact ⟨o, ⟨p, ho⟩, hfound⟩

end TextSearchFacet

/-! ## 3. After a run -/

/-- **A search over everything misses nothing and finds nothing else**: whatever has been loaded,
    entered, removed and asked of a store, a search that has kept no texts restricts items, which are
    root items, to those of which a statement stands whose object contains the query. -/
theorem search_of_run (ops : List StoreOperation) {roots items : KeySet}
    (hitems : ∀ x ∈ items, x ∈ roots) {f : TextSearchFacet} (hsearched : f.searched = .allProperties)
    (htexts : f.texts = none) {query : String} (hquery : f.query = some query) :
    ∃ kept, (f.restrict ⟨storeAfter ops, roots⟩ items).1 = .ok kept ∧
      ∀ x, x ∈ kept ↔ x ∈ items ∧ ∃ p o, ⟨x, p, o⟩ ∈ ledgerOf ops ∧
        (lowerCased query).toList <:+: (lowerCased o).toList := by
  have hall := TextSearchFacet.SearchesAll.of_new hsearched htexts ⟨storeAfter ops, roots⟩
  obtain ⟨kept, hkept, hmem⟩ := hall.mem_restrict (Store.registered_of_run ops) hitems hquery
  refine ⟨kept, hkept, fun x => (hmem x).trans (and_congr_right fun _ => ?_)⟩
  simp only [(storeAfter_refines ops).objectList, Ledger.mem_objects]

/-- A colour is found that has been entered behind a list of properties without it. -/
theorem search_after_asking :
    ∃ kept, (TextSearchFacet.restrict
        { TextSearchFacet.new "search" .allProperties 0 with query := some "RED" }
        ⟨storeAfter [.add ⟨"ash", "note", "tall"⟩, .askProperties, .add ⟨"rose", "colour", "dark red"⟩],
          KeySet.ofList ["ash", "rose"]⟩ (KeySet.ofList ["ash", "rose"])).1 = .ok kept ∧
      ∀ x, x ∈ kept ↔ x ∈ KeySet.ofList ["ash", "rose"] ∧ ∃ p o,
        ⟨x, p, o⟩ ∈ ledgerOf [.add ⟨"ash", "note", "tall"⟩, .askProperties,
          .add ⟨"rose", "colour", "dark red"⟩] ∧
        (lowerCased "RED").toList <:+: (lowerCased o).toList :=
  search_of_run _ (fun _ => id) rfl rfl rfl

/-! ## 4. Typing a query -/

namespace TextSearchFacet

variable {f : TextSearchFacet} {scene : Scene}

theorem query_setText (f : TextSearchFacet) (typed : String) :
    (f.setText typed).2.query = if trimmed typed = "" then none else some (trimmed typed) := by
  simp only [setText, queryOf, String.isEmpty_iff]

/-- The query has nothing to do with the texts. -/
theorem SearchesAll.withQuery (h : f.SearchesAll scene) (query : Option String) :
    SearchesAll { f with query } scene := ⟨h.searched, h.current⟩

theorem SearchesAll.setText (h : f.SearchesAll scene) (typed : String) :
    (f.setText typed).2.SearchesAll scene := h.withQuery (queryOf typed)

/-- The restriction goes well and keeps the item. -/
def Keeps (f : TextSearchFacet) (scene : Scene) (items : KeySet) (x : String) : Prop :=
  ∃ kept, (f.restrict scene items).1 = .ok kept ∧ x ∈ kept

/-- A blank query restricts nothing. -/
theorem keeps_of_blank (f : TextSearchFacet) (scene : Scene) {items : KeySet} {typed : String}
    (htyped : trimmed typed = "") {x : String} (hx : x ∈ items) :
    (f.setText typed).2.Keeps scene items x := by
  refine ⟨items, ?_, hx⟩
  unfold restrict
  rw [query_setText, if_pos htyped]

/-- Any other query keeps what has a value that contains it in lower case. -/
theorem SearchesAll.keeps_iff (h : f.SearchesAll scene) (hstore : scene.store.Registered)
    {items : KeySet} (hitems : ∀ x ∈ items, x ∈ scene.allItems) {typed : String}
    (htyped : trimmed typed ≠ "") {x : String} :
    (f.setText typed).2.Keeps scene items x ↔ x ∈ items ∧ ∃ p, ∃ o ∈ scene.store.objectList x p,
      toLower (trimmed typed).toList <:+: toLower o.toList := by
  have hquery : (f.setText typed).2.query = some (trimmed typed) := by
    rw [query_setText, if_neg htyped]
  obtain ⟨kept, hkept, hmem⟩ := (h.setText typed).mem_restrict hstore hitems hquery
  simp only [lowerCased, String.toList_ofList] at hmem
  rw [← hmem x]
  constructor
  · rintro ⟨other, hother, hx⟩
    rwa [Except.ok.inj (hkept.symm.trans hother)]
  · exact fun hx => ⟨kept, hkept, hx⟩

/-- **What is found for certain**: a value with the query where it stands as it does alone. -/
theorem SearchesAll.finds (h : f.SearchesAll scene) (hstore : scene.store.Registered)
    {items : KeySet} (hitems : ∀ x ∈ items, x ∈ scene.allItems) {typed x p : String}
    (hx : x ∈ items) {before after : List Char}
    (hstated : String.ofList (before ++ (trimmed typed).toList ++ after) ∈
      scene.store.objectList x p)
    (halike : StandsAlike before (trimmed typed).toList after) :
    (f.setText typed).2.Keeps scene items x := by
  by_cases htyped : trimmed typed = ""
  · exact keeps_of_blank f scene htyped hx
  · refine (h.keeps_iff hstore hitems htyped).mpr ⟨hx, p, _, hstated, ?_⟩
    rw [String.toList_ofList]
    exact halike.occurs

end TextSearchFacet

/-! ## 5. Typing after a run -/

/-- Whatever the run, every search over all properties for what is typed keeps every item that has a
    value in which the query stands between such texts. -/
def FoundBetween (typed : String) (between : List Char → List Char → Prop) : Prop :=
  ∀ (ops : List StoreOperation) (roots items : KeySet) (f : TextSearchFacet),
    (∀ x ∈ items, x ∈ roots) → f.SearchesAll ⟨storeAfter ops, roots⟩ →
    ∀ x ∈ items, ∀ p before after,
      ⟨x, p, String.ofList (before ++ (trimmed typed).toList ++ after)⟩ ∈ ledgerOf ops →
      between before after → (f.setText typed).2.Keeps ⟨storeAfter ops, roots⟩ items x

/-- A new search over everything. -/
def newSearch : TextSearchFacet := .new "search" .allProperties 0

theorem searchesAll_newSearch (scene : Scene) : newSearch.SearchesAll scene := .of_new rfl rfl scene

/-- The ledger of a run that adds one statement. -/
theorem ledgerOf_add (t : Statement) : ledgerOf [.add t] = [t] := by
  refine (ledgerOf_concat [] (.add t)).trans ?_
  rw [StoreOperation.after_of_names_false fun _ => rfl]
  rfl

theorem mem_ledgerOf_add (t : Statement) : t ∈ ledgerOf [.add t] := by
  rw [ledgerOf_add]
  exact List.mem_singleton_self t

/-- An item with one statement is not found, if in lower case its object does not contain the query. -/
theorem not_keeps_of_hidden {typed : String} (htyped : trimmed typed ≠ "") (value : String)
    (hhidden : ¬ toLower (trimmed typed).toList <:+: toLower value.toList) :
    ¬ (newSearch.setText typed).2.Keeps
      ⟨storeAfter [.add ⟨"hero", "name", value⟩], KeySet.ofList ["hero"]⟩ (KeySet.ofList ["hero"])
      "hero" := by
  rw [(searchesAll_newSearch _).keeps_iff (Store.registered_of_run _) (fun _ => id) htyped]
  rintro ⟨-, p, o, ho, hoccurs⟩
  rw [(storeAfter_refines _).objectList, Ledger.mem_objects, ledgerOf_add, List.mem_singleton] at ho
  obtain rfl : o = value := congrArg Statement.object ho
  exact hhidden hoccurs

/-- **A literal match is found** wherever the query stands as it does alone; and everywhere iff the query
    itself decides which of its capital sigmas end a word. -/
theorem verbatim_found (typed : String) :
    FoundBetween typed (fun before after => StandsAlike before (trimmed typed).toList after) ∧
      (FoundBetween typed (fun _ _ => True) ↔ SigmasDecided (trimmed typed).toList) := by
  have halike : FoundBetween typed fun before after =>
      StandsAlike before (trimmed typed).toList after := by
    intro ops roots items f hitems hall x hx p before after hstated hbetween
    refine hall.finds (Store.registered_of_run ops) hitems hx (p := p) ?_ hbetween
    rw [(storeAfter_refines ops).objectList, Ledger.mem_objects]
    exact hstated
  refine ⟨halike, fun hfound => ?_, fun hdecided => ?_⟩
  · by_contra hundecided
    obtain ⟨text, ⟨before, after, htext⟩, hhidden⟩ := exists_not_occurs hundecided
    have htyped : trimmed typed ≠ "" := by
      intro hblank
      rw [hblank] at hundecided
      exact hundecided (sigmasDecided_of_not_mem List.not_mem_nil)
    refine not_keeps_of_hidden htyped (String.ofList text) ?_ (hfound _ _ _ newSearch (fun _ => id)
      (searchesAll_newSearch _) "hero" (by decide) "name" before after ?_ trivial)
    · rwa [String.toList_ofList]
    · rw [htext]
      exact mem_ledgerOf_add _
  · intro ops roots items f hitems hall x hx p before after hstated _
    exact halike ops roots items f hitems hall x hx p before after hstated
      (standsAlike_of_decided hdecided before after)

/-- The capital sigma that ends the beginning of a name goes on in the name. -/
theorem odysseus_not_found :
    "ΟΔΥΣ".toList <:+: "ΟΔΥΣΣΕΑΣ".toList ∧
      ⟨"hero", "name", "ΟΔΥΣΣΕΑΣ"⟩ ∈ ledgerOf [.add ⟨"hero", "name", "ΟΔΥΣΣΕΑΣ"⟩] ∧
      ¬ (newSearch.setText "ΟΔΥΣ").2.Keeps
        ⟨storeAfter [.add ⟨"hero", "name", "ΟΔΥΣΣΕΑΣ"⟩], KeySet.ofList ["hero"]⟩
        (KeySet.ofList ["hero"]) "hero" := by
  have hoccurs : "ΟΔΥΣ".toList <:+: "ΟΔΥΣΣΕΑΣ".toList := ⟨[], "ΣΕΑΣ".toList, by decide⟩
  have hhidden : ¬ toLower (trimmed "ΟΔΥΣ").toList <:+: toLower "ΟΔΥΣΣΕΑΣ".toList := by
    decide +kernel
  exact ⟨hoccurs, mem_ledgerOf_add _, not_keeps_of_hidden (by decide +kernel) _ hhidden⟩

end Faceted
