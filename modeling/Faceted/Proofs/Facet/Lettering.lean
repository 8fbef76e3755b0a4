import Faceted.Proofs.Facet.Gathering
import Faceted.Proofs.Facet.Letters
import Faceted.Proofs.Facet.SameSelection

/-!
# Buckets of letters

A facet of letters shows its values, in upper case, in buckets of first letters. A bucket is meant for
the items with a value that starts with one of its letters. Its range ends at the character that follows
the last letter, and at the last character of all if none follows: then the bucket may hold items that
it is not meant for, or miss some that it is.

* `StartsWith`: the first letters of an item, `StartingItem`: the items with one of some letters;
* `mem_itemsIn_ofItems`: what a bucket holds;
* **`lettered_buckets`**: each letter is in one bucket; every bucket counts what it restricts to, and it
  is told exactly which items that are, and when they are those that the bucket is meant for;
* `last_letter_missed`: an item that no range finds, because its name starts with the last character.
-/

namespace Faceted

open Faceted.Text

namespace AlphaRangeFacet

/-! ## 1. First letters -/

/-- Some value of the item starts with the letter, in upper case. -/
def StartsWith (scene : Scene) (e : Expression) (x : String) (c : Char) : Prop :=
  ∃ found, e.evalOnItem x scene.store = .ok found ∧
    ∃ v ∈ found.toList, (upperCased v).toList.head? = some c

/-- A root item, one of the items given, with a value that starts with a letter of some kind. -/
def StartingItem (scene : Scene) (e : Expression) (items : KeySet) (letters : Char → Prop)
    (x : String) : Prop :=
  (x ∈ items ∧ x ∈ scene.allItems) ∧ ∃ c, StartsWith scene e x c ∧ letters c

section Indexed

variable {scene : Scene} {e : Expression} {values : String → List RangeValue}
  (hvalues : ∀ x ∈ scene.allItems, ∃ found, e.evalOnItem x scene.store = .ok found)
  (hplaced : ∀ x ∈ scene.allItems, ∀ found, e.evalOnItem x scene.store = .ok found →
    values x = found.toList.filterMap place)
include hvalues hplaced

/-- The letters of an item are those of its texts in the index. -/
theorem startsWith_iff {x : String} (hx : x ∈ scene.allItems) {c : Char} :
    StartsWith scene e x c ↔ ∃ v ∈ values x, letter? v = some c := by
  obtain ⟨found, hfound⟩ := hvalues x hx
  have hmem (v : RangeValue) : v ∈ values x ↔ ∃ w ∈ found.toList, .text (upperCased w) = v := by
    rw [hplaced x hx found hfound, List.mem_filterMap]
    simp only [place, Option.some.injEq]
  constructor
  · rintro ⟨other, hother, w, hw, hletter⟩
    obtain rfl : other = found := Except.ok.inj (hother.symm.trans hfound)
    exact ⟨_, (hmem _).mpr ⟨w, hw, rfl⟩, hletter⟩
  · rintro ⟨v, hv, hletter⟩
    obtain ⟨w, hw, rfl⟩ := (hmem v).mp hv
    exact ⟨found, hfound, w, hw, hletter⟩

/-- The letters of the index are those of the root items. -/
theorem mem_lettersOf_ofItems {c : Char} :
    c ∈ lettersOf (RangeIndex.ofItems scene.allItems values) ↔
      ∃ x ∈ scene.allItems, StartsWith scene e x c := by
  rw [mem_lettersOf]
  constructor
  · rintro ⟨entry, hentry, hletter⟩
    obtain ⟨hx, hv⟩ := RangeIndex.mem_entries_ofItems.mp hentry
    exact ⟨entry.item, hx, (startsWith_iff hvalues hplaced hx).mpr ⟨entry.value, hv, hletter⟩⟩
  · rintro ⟨x, hx, hstarts⟩
    obtain ⟨v, hv, hletter⟩ := (startsWith_iff hvalues hplaced hx).mp hstarts
    exact ⟨⟨x, v⟩, RangeIndex.mem_entries_ofItems.mpr ⟨hx, hv⟩, hletter⟩

/-- **What a bucket holds**: the items with a letter from its first one on that comes before its end. -/
theorem mem_itemsIn_ofItems {first last : Char} {items : KeySet} {x : String} :
    x ∈ itemsIn (RangeIndex.ofItems scene.allItems values) (letterValue first) (letterValue last) ∅
        items ↔
      StartingItem scene e items (fun c => first ≤ c ∧ c < endChar last) x := by
  unfold itemsIn StartingItem
  rw [endAfter_letterValue, RangeIndex.mem_subjectsBetween_ofItems]
  simp only [KeySet.not_mem_emptySet, false_or, KeySet.passes_some]
  refine and_assoc.symm.trans (and_congr_right fun hx => ?_)
  simp only [startsWith_iff hvalues hplaced hx.2, isWithin_letters_iff]
  constructor
  · rintro ⟨v, hv, c, hletter, hbetween⟩
    exact ⟨c, ⟨v, hv, hletter⟩, hbetween⟩
  · rintro ⟨c, ⟨v, hv, hletter⟩, hbetween⟩
    exact ⟨v, hv, c, hletter, hbetween⟩

end Indexed

/-! ## 2. What a bucket is meant for -/

section Meant

variable {scene : Scene} {e : Expression} {items : KeySet} {first last : Char} {x : String}

/-- The items that a bucket is meant for: those with a value that starts with one of its letters. -/
def Meant (scene : Scene) (e : Expression) (items : KeySet) (first last : Char) : String → Prop :=
  StartingItem scene e items fun c => first ≤ c ∧ c ≤ last

/-- The items that its range finds. After a letter without a next one it goes on to the last character
    of all, which it does not find. -/
def Found (scene : Scene) (e : Expression) (items : KeySet) (first last : Char) : String → Prop :=
  StartingItem scene e items fun c =>
    first ≤ c ∧ if last = beforeSurrogates ∨ last = lastChar then c < lastChar else c ≤ last

/-- When the range is right: of the letters without a next one, the one before the surrogates finds
    besides what starts with a later letter, and the last of all misses what starts with it alone. -/
def IsRight (scene : Scene) (e : Expression) (items : KeySet) (first last : Char) : Prop :=
  (last = beforeSurrogates → ∀ x, StartingItem scene e items (fun c => last < c ∧ c < lastChar) x →
      Meant scene e items first last x) ∧
    (last = lastChar → ∀ x, StartingItem scene e items (· = last) x →
      StartingItem scene e items (fun c => first ≤ c ∧ c < last) x)

theorem StartingItem.imp {p q : Char → Prop} (h : ∀ c, p c → q c)
    (hx : StartingItem scene e items p x) : StartingItem scene e items q x :=
  ⟨hx.1, hx.2.imp fun c hc => ⟨hc.1, h c hc.2⟩⟩

theorem beforeSurrogates_lt : beforeSurrogates < lastChar := by decide

/-- With another last letter the range is right at once. -/
theorem found_of_ne (hbefore : last ≠ beforeSurrogates) (hlast : last ≠ lastChar) :
    Found scene e items first last = Meant scene e items first last := by
  unfold Found Meant
  simp only [hbefore, hlast, or_self, if_false]

/-- Before the surrogates nothing is missed. -/
theorem found_of_meant (hlast : last = beforeSurrogates) (h : Meant scene e items first last x) :
    Found scene e items first last x := by
  refine h.imp fun c hc => ⟨hc.1, ?_⟩
  rw [if_pos (.inl hlast)]
  exact lt_of_le_of_lt hc.2 (hlast ▸ beforeSurrogates_lt)

/-- At the end nothing is found besides. -/
theorem meant_of_found (hlast : last = lastChar) (h : Found scene e items first last x) :
    Meant scene e items first last x := by
  refine h.imp fun c hc => ⟨hc.1, ?_⟩
  have hlt := hc.2
  rw [if_pos (.inr hlast)] at hlt
  exact le_of_lt (hlast ▸ hlt)

/-- **When what is found is what is meant.** -/
theorem found_iff_meant (hle : first ≤ last) :
    (∀ x, Found scene e items first last x ↔ Meant scene e items first last x) ↔
      IsRight scene e items first last := by
  constructor
  · refine fun h => ⟨fun hlast x hx => (h x).mp (hx.imp fun c hc => ?_), fun hlast x hx => ?_⟩
    · rw [if_pos (.inl hlast)]
      exact ⟨le_trans hle (le_of_lt hc.1), hc.2⟩
    · have hmeant : Meant scene e items first last x := 
        hx.imp fun c (hc : c = last) => ⟨hc ▸ hle, le_of_eq hc⟩
      refine ((h x).mpr hmeant).imp fun c hc => ⟨hc.1, ?_⟩
      have hlt := hc.2
      rw [if_pos (.inr hlast)] at hlt
      exact hlast ▸ hlt
  · rintro ⟨hbefore, hend⟩ x
    by_cases hsurrogates : last = beforeSurrogates
    · refine ⟨fun hfound => ?_, found_of_meant hsurrogates⟩
      obtain ⟨hitem, c, hstarts, hfirst, hlt⟩ := hfound
      rw [if_pos (.inl hsurrogates)] at hlt
      rcases le_or_gt c last with hc | hc
      · exact ⟨hitem, c, hstarts, hfirst, hc⟩
      · exact hbefore hsurrogates x ⟨hitem, c, hstarts, hc, hlt⟩
    · by_cases hlast : last = lastChar
      · refine ⟨meant_of_found hlast, fun hmeant => ?_⟩
        have hsmaller : StartingItem scene e items (fun c => first ≤ c ∧ c < last) x := by
          obtain ⟨hitem, c, hstarts, hfirst, hc⟩ := hmeant
          rcases lt_or_eq_of_le hc with hc | hc
          · exact ⟨hitem, c, hstarts, hfirst, hc⟩
          · exact hend hlast x ⟨hitem, c, hstarts, hc⟩
        refine hsmaller.imp fun c hc => ⟨hc.1, ?_⟩
        rw [if_pos (.inr hlast)]
        exact hlast ▸ hc.2
      · rw [found_of_ne hsurrogates hlast]

/-- **The count is right iff the items are**: where they are wrong, they are too many or too few. -/
theorem size_eq_iff_eq {kept right : KeySet} (hkept : ∀ x, x ∈ kept ↔ Found scene e items first last x)
    (hright : ∀ x, x ∈ right ↔ Meant scene e items first last x) :
    kept.size = right.size ↔ kept = right := by
  by_cases hsurrogates : last = beforeSurrogates
  · rw [eq_comm, eq_comm (a := kept)]
    exact (KeySet.eq_iff_size_eq fun x hx =>
      (hkept x).mpr (found_of_meant hsurrogates ((hright x).mp hx))).symm
  · refine (KeySet.eq_iff_size_eq fun x hx => (hright x).mpr ?_).symm
    have hfound := (hkept x).mp hx
    by_cases hlast : last = lastChar
    · exact meant_of_found hlast hfound
    · rwa [found_of_ne hsurrogates hlast] at hfound

end Meant

/-! ## 3. Counting and restricting -/

section Buckets

variable {f : AlphaRangeFacet} {scene : Scene} {e : Expression} {index : RangeIndex}

/-- The facet that has counted. -/
def updated (f : AlphaRangeFacet) (index : RangeIndex) (items : KeySet) : AlphaRangeFacet :=
  { f with index := some index, buckets := f.bucketsOf index items }

/-- What is worked out from the values is shown and kept. -/
theorem update_eq (hexpression : f.expression = some e)
    (hcurrent : ∀ index, f.index = some index → LocalIndex.build scene e place = .ok index)
    (hbuild : LocalIndex.build scene e place = .ok index) (items : KeySet) :
    f.update scene items = (.ok (), f.updated index items) := by
  obtain ⟨id, label, expression, interval, chosen, kept, buckets⟩ := f
  cases hexpression
  have hget : LocalIndex.get kept scene e place = (.ok index, some index) := by
    rw [LocalIndex.get_eq, hbuild]
    cases kept with
    | none => rfl
    | some kept =>
      obtain rfl : kept = index := Except.ok.inj ((hcurrent kept rfl).symm.trans hbuild)
      rfl
  unfold update
  dsimp only
  rw [hget]
  rfl

/-- One range alone is found as its bucket finds it. -/
theorem restrict_alone (scene : Scene) (hexpression : f.expression = some e)
    (hindex : f.index = some index) (items : KeySet) (low high : RangeValue) :
    ∃ alone, f.apply (.ranges [⟨low, high⟩]) = .ok alone ∧
      (alone.restrict scene items).1 = .ok (itemsIn index low high ∅ items) := by
  refine ⟨{ f with chosen := [⟨low, high⟩] }, rfl, ?_⟩
  unfold restrict
  rw [hexpression]
  dsimp only
  rw [hindex]
  rfl

/-- Every bucket goes from a letter to one that is no less, and counts what it restricts to alone: the
    items that its range finds. -/
theorem told_of_mem_buckets (hexpression : f.expression = some e) (hinterval : 1 ≤ f.interval)
    {values : String → List RangeValue}
    (hvalues : ∀ x ∈ scene.allItems, ∃ found, e.evalOnItem x scene.store = .ok found)
    (hplaced : ∀ x ∈ scene.allItems, ∀ found, e.evalOnItem x scene.store = .ok found →
      values x = found.toList.filterMap place)
    {items : KeySet} {g : AlphaRangeFacet}
    (hg : g = f.updated (RangeIndex.ofItems scene.allItems values) items) {b : Bucket}
    (hb : b ∈ g.buckets) :
    ∃ first last, b.low = letterValue first ∧ b.high = letterValue last ∧ first ≤ last ∧
      ∃ alone kept, g.apply (.ranges [⟨b.low, b.high⟩]) = .ok alone ∧
        (alone.restrict scene items).1 = .ok kept ∧ b.count = kept.size ∧
        ∀ x, x ∈ kept ↔ Found scene e items first last x := by
  subst hg
  have hsorted := RangeIndex.isSorted_ofItems scene.allItems values
  obtain ⟨first, last, rfl, hle⟩ := exists_of_mem_bucketsOf hsorted hinterval hb
  obtain ⟨alone, halone, hkept⟩ := restrict_alone
    (f := f.updated (RangeIndex.ofItems scene.allItems values) items) scene hexpression rfl items
    (letterValue first) (letterValue last)
  refine ⟨first, last, rfl, rfl, hle, alone, _, halone, hkept, rfl, fun x => ?_⟩
  rw [mem_itemsIn_ofItems hvalues hplaced]
  simp only [lt_endChar_iff]
  rfl

end Buckets

/-- There is a set of the items that a bucket is meant for. -/
theorem exists_meant (scene : Scene) (e : Expression) (items : KeySet) (first last : Char) :
    ∃ meant : KeySet, ∀ x, x ∈ meant ↔ Meant scene e items first last x := by
  classical
  refine ⟨items.filter fun x => decide (Meant scene e items first last x), fun x => ?_⟩
  rw [KeySet.mem_filter, decide_eq_true_iff]
  exact ⟨And.right, fun h => ⟨h.1.1, h⟩⟩

/-- **Buckets of letters**: if all root items have values, counting goes well. Each letter that a value
    of a root item starts with then lies in one bucket. Every bucket goes from a letter to one that is no
    less, and counts what it restricts to alone, which are the items that it finds. These are the ones
    that it is meant for, in number and in fact, exactly if its range is right. -/
theorem lettered_buckets {f : AlphaRangeFacet} {scene : Scene} {e : Expression}
    (hexpression : f.expression = some e)
    (hcurrent : ∀ index, f.index = some index → LocalIndex.build scene e place = .ok index)
    (hinterval : 1 ≤ f.interval)
    (hvalues : ∀ x ∈ scene.allItems, ∃ found, e.evalOnItem x scene.store = .ok found)
    (items : KeySet) :
    ∃ g, f.update scene items = (.ok (), g) ∧
      (∀ x ∈ scene.allItems, ∀ c, StartsWith scene e x c →
        g.buckets.countP (fun b => spans b c) = 1) ∧
      ∀ b ∈ g.buckets, ∃ first last, b.low = letterValue first ∧ b.high = letterValue last ∧
        first ≤ last ∧ ∃ alone kept meant,
          g.apply (.ranges [⟨b.low, b.high⟩]) = .ok alone ∧
          (alone.restrict scene items).1 = .ok kept ∧ b.count = kept.size ∧
          (∀ x, x ∈ kept ↔ Found scene e items first last x) ∧
          (∀ x, x ∈ meant ↔ Meant scene e items first last x) ∧
          (kept = meant ↔ IsRight scene e items first last) ∧
          (b.count = meant.size ↔ IsRight scene e items first last) := by
  obtain ⟨values, hbuild, hplaced⟩ := LocalIndex.build_ofItems place hvalues
  refine ⟨_, update_eq hexpression hcurrent hbuild items, fun x hx c hstarts => ?_, fun b hb => ?_⟩
  · exact countP_spans_bucketsOf (RangeIndex.isSorted_ofItems scene.allItems values) hinterval
      ((mem_lettersOf_ofItems hvalues hplaced).mpr ⟨x, hx, hstarts⟩)
  · obtain ⟨first, last, hlow, hhigh, hle, alone, kept, halone, hkept, hcount, hfound⟩ :=
      told_of_mem_buckets hexpression hinterval hvalues hplaced rfl hb
    obtain ⟨meant, hmeant⟩ := exists_meant scene e items first last
    have hsame : kept = meant ↔ IsRight scene e items first last := by
      rw [← found_iff_meant hle]
      constructor
      · rintro rfl x
        rw [← hfound, hmeant]
      · exact fun h => KeySet.ext fun x => by rw [hfound, h, hmeant]
    refine ⟨first, last, hlow, hhigh, hle, alone, kept, meant, halone, hkept, hcount, hfound, hmeant,
      hsame, ?_⟩
    rw [hcount]
    exact (size_eq_iff_eq hfound hmeant).trans hsame

/-! ## 4. The last letter of all -/

def byName : Expression := ⟨".name", .path ⟨none, [⟨"name", true, false⟩]⟩⟩

/-- One item whose name is the last character of all. -/
def lastNamed : Scene where
  store := Store.empty.addStatement "omega" "name" (String.ofList [lastChar])
  allItems := KeySet.ofList ["omega"]

theorem byName_succeeds (s : Store) (x : String) : ∃ found, byName.evalOnItem x s = .ok found :=
  ⟨_, rfl⟩

theorem startsWith_lastNamed {c : Char} : StartsWith lastNamed byName "omega" c ↔ c = lastChar := by
  obtain ⟨found, hfound⟩ := byName_succeeds lastNamed.store "omega"
  have hlist : found.toList.map (fun v => (upperCased v).toList.head?) = [some lastChar] := by
    obtain rfl := Except.ok.inj hfound
    decide +kernel
  constructor
  · rintro ⟨other, hother, v, hv, hletter⟩
    obtain rfl : other = found := Except.ok.inj (hother.symm.trans hfound)
    have hmem := List.mem_map_of_mem (f := fun v => (upperCased v).toList.head?) hv
    rw [hlist, List.mem_singleton] at hmem
    exact Option.some.inj (hletter.symm.trans hmem)
  · rintro rfl
    have hmem : some lastChar ∈ found.toList.map fun v => (upperCased v).toList.head? := by
      rw [hlist]
      exact List.mem_singleton_self _
    obtain ⟨v, hv, hletter⟩ := List.mem_map.mp hmem
    exact ⟨found, hfound, v, hv, hletter⟩

/-- A new facet of single letters. -/
def newLetters : AlphaRangeFacet := .new "letters" (some byName) 1

/-- The name is in one bucket, and that counts what it restricts to. -/
theorem lettered_buckets_lastNamed :
    newLetters.expression = some byName ∧ newLetters.index = none ∧ 1 ≤ newLetters.interval ∧
      (∀ x ∈ lastNamed.allItems, ∃ found, byName.evalOnItem x lastNamed.store = .ok found) ∧
      ∃ g, newLetters.update lastNamed lastNamed.allItems = (.ok (), g) ∧
        g.buckets.countP (fun b => spans b lastChar) = 1 ∧
        ∀ b ∈ g.buckets, ∃ alone kept, g.apply (.ranges [⟨b.low, b.high⟩]) = .ok alone ∧
          (alone.restrict lastNamed lastNamed.allItems).1 = .ok kept ∧ b.count = kept.size := by
  have hvalues : ∀ x ∈ lastNamed.allItems, ∃ found,
      byName.evalOnItem x lastNamed.store = .ok found := fun x _ => byName_succeeds _ x
  obtain ⟨g, hupdate, hone, hbuckets⟩ := lettered_buckets (f := newLetters) (e := byName) rfl
    (fun index h => by cases h) (by decide) hvalues lastNamed.allItems
  refine ⟨rfl, rfl, by decide, hvalues, g, hupdate, ?_, fun b hb => ?_⟩
  · exact hone "omega" (by decide) lastChar (startsWith_lastNamed.mpr rfl)
  · obtain ⟨-, -, -, -, -, alone, kept, -, halone, hkept, hcount, -⟩ := hbuckets b hb
    exact ⟨alone, kept, halone, hkept, hcount⟩

/-- The item whose name starts with the last character of all is not in the bucket of that letter. -/
theorem last_letter_missed :
    "omega" ∈ lastNamed.allItems ∧ StartsWith lastNamed byName "omega" lastChar ∧
      ∃ g, newLetters.update lastNamed lastNamed.allItems = (.ok (), g) ∧
        ∃ b ∈ g.buckets, spans b lastChar = true ∧ b.count = 0 ∧
          ∃ alone, g.apply (.ranges [⟨b.low, b.high⟩]) = .ok alone ∧
            (alone.restrict lastNamed lastNamed.allItems).1 = .ok ∅ := by
  have homega : "omega" ∈ lastNamed.allItems := by decide
  have hstarts : StartsWith lastNamed byName "omega" lastChar := startsWith_lastNamed.mpr rfl
  have hvalues : ∀ x ∈ lastNamed.allItems, ∃ found,
      byName.evalOnItem x lastNamed.store = .ok found := fun x _ => byName_succeeds _ x
  obtain ⟨values, hbuild, hplaced⟩ := LocalIndex.build_ofItems place hvalues
  have hcurrent : ∀ index, newLetters.index = some index →
      LocalIndex.build lastNamed byName place = .ok index := fun index h => by cases h
  refine ⟨homega, hstarts, _, update_eq rfl hcurrent hbuild _, ?_⟩
  have hone : 0 < ((newLetters.updated (RangeIndex.ofItems lastNamed.allItems values)
      lastNamed.allItems).buckets).countP (fun b => spans b lastChar) := by
    refine Nat.lt_of_lt_of_eq Nat.zero_lt_one (countP_spans_bucketsOf
      (RangeIndex.isSorted_ofItems lastNamed.allItems values) (by decide) ?_).symm
    exact (mem_lettersOf_ofItems hvalues hplaced).mpr ⟨"omega", homega, hstarts⟩
  obtain ⟨b, hb, hspans⟩ := List.countP_pos_iff.mp hone
  obtain ⟨first, last, hlow, hhigh, -, alone, kept, halone, hkept, hcount, hfound⟩ :=
    told_of_mem_buckets rfl (by decide) hvalues hplaced rfl hb
  have hlast : last = lastChar :=
    le_antisymm (le_lastChar last) ((spans_iff hlow hhigh).mp hspans).2
  -- The only letter of the only item is the one at which the range ends.
  have hempty : kept = ∅ := by
    refine KeySet.ext fun x => iff_of_false (fun hx => ?_) KeySet.not_mem_emptySet
    obtain ⟨⟨hitem, -⟩, c, hletter, -, hbefore⟩ := (hfound x).mp hx
    obtain rfl : x = "omega" := List.mem_singleton.mp (KeySet.mem_ofList.mp hitem)
    rw [if_pos (.inr hlast), startsWith_lastNamed.mp hletter] at hbefore
    exact lt_irrefl _ hbefore
  rw [hempty] at hkept hcount
  exact ⟨b, hb, hspans, hcount, alone, halone, hkept⟩

end AlphaRangeFacet

end Faceted
