import Faceted.Proofs.Expression.Chains
import Faceted.Proofs.Store.Kept
import Faceted.Proofs.Store.Scanning

/-!
# Ranges at the end of a path

A range query through a path asks the index of the last property for items, and walks back from them
along the other hops. The filter goes to the index if there are no other hops, and else to the end of the
walk.

* `Store.Places` says how the value of a statement is placed in ranges, and `Store.mem_rangeValues`
  that what cannot be placed is left out;
* `Store.mem_subjectsInRange`: what an index built now finds;
* **`rangeBackward_chains`**: through a path those are found from which a chain of statements leads to
  an item with a value in the range.
-/

namespace Faceted

namespace Store

variable {s : Store} {l : Ledger} {property : String}

/-! ## 1. Places of values -/

/-- The value is placed there in ranges over a property of the type: numbers by the numeral that they
    start with, dates as milliseconds, and all else as a number, if it is one as a whole, or as a text. -/
def Places (type : ValueType) (value : String) (v : RangeValue) : Prop :=
  match type with
  | .number | .currency => (parseFloat value).isNaN = false ∧ v = .number (parseFloat value)
  | .date => ∃ millis, Calendar.parse? value = some millis ∧ v = .number (Decimal.ofInt millis)
  | _ => (∃ x, parseNumber? value = some x ∧ v = .number x) ∨
      parseNumber? value = none ∧ v = .text value

theorem mem_rangeValues {type : ValueType} {value : String} {v : RangeValue} :
    v ∈ rangeValues type value ↔ Places type value v := by
  have hnumber : v ∈ (if (parseFloat value).isNaN then [] else [.number (parseFloat value)]) ↔
      (parseFloat value).isNaN = false ∧ v = .number (parseFloat value) := by
    cases (parseFloat value).isNaN <;> simp
  have htext : v ∈ [RangeValue.ofText value] ↔
      (∃ x, parseNumber? value = some x ∧ v = .number x) ∨
        parseNumber? value = none ∧ v = .text value := by
    rw [RangeValue.ofText]
    cases parseNumber? value <;> simp
  cases type with
  | number => exact hnumber
  | currency => exact hnumber
  | date =>
    rw [rangeValues, Places]
    cases Calendar.parse? value <;> simp
  | _ => exact htext

/-- The places of an item's values are those of its statements. -/
theorem mem_placesOf (hs : s.Refines l) {item : String} {v : RangeValue} :
    v ∈ s.placesOf property item ↔
      ∃ object, ⟨item, property, object⟩ ∈ l ∧ Places (s.valueTypeOf property) object v := by
  simp only [placesOf, List.mem_flatMap, KeySet.mem_toList, objects, Index.mem_collect,
    KeySet.not_mem_emptySet, false_or, KeySet.passes_none, and_true, mem_rangeValues]
  refine exists_congr fun object => and_congr_left fun _ => ?_
  rw [hs.forward.listed, Ledger.mem_objects]

/-! ## 2. An index built now -/

/-- Without a kept index a query finds the known items that have a statement whose value is in the
    range. -/
theorem mem_subjectsInRange (hs : s.Refines l) (hnamed : s.Named)
    (hranged : s.isRanged property = true) (hkept : s.keptIndex? property = none)
    (low high : RangeValue) (inclusive : Bool) (filter : Option KeySet) (x : String) :
    x ∈ (s.subjectsInRange property low high inclusive ∅ filter).1 ↔
      KeySet.passes filter x = true ∧ x ∈ s.items ∧ ∃ object v, ⟨x, property, object⟩ ∈ l ∧
        Places (s.valueTypeOf property) object v ∧ v.isWithin low high inclusive = true := by
  have hindex : (s.rangeIndex? property).1 = some (.ofItems s.items (s.placesOf property)) := by
    rw [rangeIndex?_fst hnamed, if_pos hranged, hkept, Option.none_or, indexAnew?, indexOver?,
      if_pos hranged]
  rw [subjectsInRange_fst, hindex]
  dsimp only
  rw [RangeIndex.mem_subjectsBetween_ofItems]
  simp only [KeySet.not_mem_emptySet, false_or, mem_placesOf hs]
  refine and_congr_right fun _ => and_congr_right fun _ => ?_
  constructor
  · rintro ⟨v, ⟨object, hmem, hplaces⟩, hwithin⟩
    exact ⟨object, v, hmem, hplaces, hwithin⟩
  · rintro ⟨object, v, hmem, hplaces, hwithin⟩
    exact ⟨v, ⟨object, hmem, hplaces⟩, hwithin⟩

theorem Refines.subjectsInRange (hs : s.Refines l) (low high : RangeValue) (inclusive : Bool)
    (into : KeySet) (filter : Option KeySet) :
    (s.subjectsInRange property low high inclusive into filter).2.Refines l :=
  have halike := s.subjectsInRange_alike property low high inclusive into filter
  hs.congr halike.content.forward.symm halike.content.backward.symm

end Store

/-! ## 3. Paths -/

namespace Expression

variable {s : Store} {l : Ledger} {hops : List Hop}

/-- Walking back along hops finds what chains lead from, of what passes the filter. -/
theorem mem_walkBackward_passes (hs : s.Refines l) (hhops : hops ≠ []) {filter : Option KeySet}
    {vs : Values} {x : String} : x ∈ (walkBackward s filter hops vs).toList ↔
      KeySet.passes filter x = true ∧ ∃ ts, ∃ y ∈ vs.toList, Chain l hops x ts y := by
  have hchain : x ∈ (walkBackward s none hops vs).toList ↔
      ∃ ts, ∃ y ∈ vs.toList, Chain l hops x ts y := by
    rw [mem_walkBackward hs, exists_comm]
    refine exists_congr fun y => ?_
    rw [leads_iff_chain hs, exists_and_left]
  cases filter with
  | none => rw [hchain, KeySet.passes_none, eq_self, true_and]
  | some items => rw [mem_walkBackward_filter hhops, hchain, KeySet.passes_some]

/-- The index is asked for what the last hop leads to, and the other hops are walked back. -/
theorem rangeBackward_concat {last : Hop} (hlast : last.forward = true) (front : List Hop)
    (low high : RangeValue) (inclusive : Bool) (filter : Option KeySet) :
    (rangeBackward s (front ++ [last]) low high inclusive filter).1 =
      let found := s.subjectsInRange last.property low high inclusive ∅
        (if front.isEmpty then filter else none)
      .ok (walkBackward found.2 filter front (.ofSet found.1 .item)) := by
  unfold rangeBackward
  rw [List.getLast?_concat, List.dropLast_concat]
  simp only [hlast, if_true]

/-- **A range query through a path** whose last hop is forward, over a property that has an index but no
    index built yet, finds those that pass the filter and from which a chain of statements along the other
    hops leads to a known item with a value in the range. -/
theorem rangeBackward_chains (ops : List StoreOperation) (last : Hop) (hlast : last.forward = true)
    (hranged : (storeAfter ops).isRanged last.property = true)
    (hkept : (storeAfter ops).keptIndex? last.property = none) (front : List Hop)
    (low high : RangeValue) (inclusive : Bool) (filter : Option KeySet) : ∃ found,
      (rangeBackward (storeAfter ops) (front ++ [last]) low high inclusive filter).1 = .ok found ∧
      ∀ x, x ∈ found.toList ↔ KeySet.passes filter x = true ∧ ∃ ts y object v,
        Chain (ledgerOf ops) front x ts y ∧ y ∈ (storeAfter ops).items ∧
        ⟨y, last.property, object⟩ ∈ ledgerOf ops ∧
        Store.Places ((storeAfter ops).valueTypeOf last.property) object v ∧
        v.isWithin low high inclusive = true := by
  have hs := storeAfter_refines ops
  have hnamed := (storeAfter_indexed ops).named
  have hfound := Store.mem_subjectsInRange hs hnamed hranged hkept low high inclusive
  refine ⟨_, rangeBackward_concat hlast front low high inclusive filter, fun x => ?_⟩
  cases front with
  | nil =>
    show x ∈ (Store.subjectsInRange _ _ low high inclusive ∅ filter).1 ↔ _
    rw [hfound]
    refine and_congr_right fun _ => ⟨?_, ?_⟩
    · rintro ⟨hitem, object, v, hmem, hplaces, hwithin⟩
      exact ⟨[], x, object, v, .done x, hitem, hmem, hplaces, hwithin⟩
    · rintro ⟨ts, y, object, v, hchain, hitem, hmem, hplaces, hwithin⟩
      cases hchain
      exact ⟨hitem, object, v, hmem, hplaces, hwithin⟩
  | cons h front =>
    rw [mem_walkBackward_passes (hs.subjectsInRange low high inclusive ∅ _) (List.cons_ne_nil h front)]
    simp only [Values.toList_ofSet, KeySet.mem_toList, List.isEmpty_cons, Bool.false_eq_true, if_false,
      hfound, KeySet.passes_none, true_and]
    refine and_congr_right fun _ => ⟨?_, ?_⟩
    · rintro ⟨ts, y, ⟨hitem, object, v, hmem, hplaces, hwithin⟩, hchain⟩
      exact ⟨ts, y, object, v, hchain, hitem, hmem, hplaces, hwithin⟩
    · rintro ⟨ts, y, object, v, hchain, hitem, hmem, hplaces, hwithin⟩
      exact ⟨ts, y, ⟨hitem, object, v, hmem, hplaces, hwithin⟩, hchain⟩

/-- Who knows whom, of whom one is an item and wears something. -/
def acquaintances : List StoreOperation :=
  [.loadItems [.object [("id", .string "bea")]] "http://example.org/", .add ⟨"ann", "knows", "bea"⟩,
    .add ⟨"eve", "knows", "bea"⟩, .add ⟨"bea", "wears", "red"⟩]

/-- Ann knows one who wears something between `o` and `t`. -/
theorem ann_knows_red : (⟨"wears", true, false⟩ : Hop).forward = true ∧
    (storeAfter acquaintances).isRanged "wears" = true ∧
    (storeAfter acquaintances).keptIndex? "wears" = none ∧
    ∃ found, (rangeBackward (storeAfter acquaintances)
        ([⟨"knows", true, false⟩] ++ [⟨"wears", true, false⟩]) (.text "o") (.text "t") false
        (some (KeySet.ofList ["ann"]))).1 = .ok found ∧
      "ann" ∈ found.toList ∧ ¬ "eve" ∈ found.toList := by
  have hranged : (storeAfter acquaintances).isRanged "wears" = true := by decide
  have hkept : (storeAfter acquaintances).keptIndex? "wears" = none := by decide
  obtain ⟨found, hfound, hmem⟩ := rangeBackward_chains acquaintances ⟨"wears", true, false⟩
    rfl hranged hkept [⟨"knows", true, false⟩] (.text "o") (.text "t") false
    (some (KeySet.ofList ["ann"]))
  refine ⟨rfl, hranged, hkept, found, hfound, (hmem "ann").mpr ⟨by decide, ?_⟩, fun h => ?_⟩
  · exact ⟨[⟨"ann", "knows", "bea"⟩], "bea", "red", .text "red",
      .step (by decide) rfl rfl (.done "bea"), by decide, by decide, .inr ⟨by decide, rfl⟩, by decide⟩
  · exact absurd ((hmem "eve").mp h).1 (by decide)

end Expression

end Faceted
