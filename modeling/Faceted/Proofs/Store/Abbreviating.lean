import Faceted.Proofs.Store.Anonymous
import Faceted.Proofs.Store.Scanning
import Faceted.Store.Namespaces

/-!
# Namespaces abbreviate one to one

The short names of the bases are made by counting and kept in a one-to-one map, where a name that came
up a second time would silently drop the base that had it before. No name does: letters and numbered
names are all different, however many bases there are.

* `Uri.Cuts`: where the URI of a property is cut; `Uri.splitNamespace?_eq_some_iff`;
* `Namespaces.shortName_injective`, `Namespaces.pairs_shortNamesOf`: every base has the short name of
  its place, and nothing else has it;
* **`Namespaces.abbreviates`**: which properties have a qualified name, what it stands for, and that
  short names and bases correspond.
-/

namespace Faceted

/-! ## 1. Cutting a URI -/

namespace Uri

variable {cs front rest base name : List Char}

/-- The text is cut at its first `#`, and something stands before it. -/
structure AtFragment (cs front rest : List Char) : Prop where
  parts : cs = front ++ '#' :: rest
  first : '#' ∉ front
  past : front ≠ []

/-- The text is cut at its last `/`, and something stands before it. -/
structure AtSlash (cs front rest : List Char) : Prop where
  parts : cs = front ++ '/' :: rest
  last : '/' ∉ rest
  past : front ≠ []

theorem splitAtFragment?_of_atFragment (h : AtFragment cs front rest) :
    splitAtFragment? cs = some (front ++ ['#'], rest) := by
  obtain ⟨rfl, hfirst, hpast⟩ := h
  have hpass : ∀ c ∈ front, (c != '#') = true := fun c hc =>
    bne_iff_ne.mpr fun heq => hfirst (heq ▸ hc)
  have htake : (front ++ '#' :: rest).takeWhile (· != '#') = front := by
    rw [List.takeWhile_append_of_pos hpass]
    simp
  unfold splitAtFragment?
  dsimp only
  rw [htake, List.drop_left]
  cases front with
  | nil => exact absurd rfl hpast
  | cons c front => rfl

theorem atFragment_of_splitAtFragment? (h : splitAtFragment? cs = some (base, name)) :
    ∃ front, AtFragment cs front name ∧ base = front ++ ['#'] := by
  unfold splitAtFragment? at h
  dsimp only at h
  have hparts := List.takeWhile_append_dropWhile (p := (· != '#')) (l := cs)
  rw [drop_length_takeWhile] at h
  split at h
  · next c front mark rest hfront hrest =>
    obtain ⟨rfl, rfl⟩ := Prod.mk.inj (Option.some.inj h)
    rw [hfront, hrest] at hparts
    have hmark : mark = '#' := by
      have hhead := List.head?_dropWhile_not (· != '#') cs
      rw [hrest] at hhead
      simpa using hhead
    subst hmark
    refine ⟨c :: front, ⟨hparts.symm, fun hmem => ?_, List.cons_ne_nil c front⟩, by simp [hfront]⟩
    rw [← hfront] at hmem
    simpa using List.mem_takeWhile_imp hmem
  · cases h

theorem splitAfterLast_of_last {p : Char → Bool} {mark : Char} (hmark : p mark = true)
    (hrest : ∀ c ∈ rest, p c = false) :
    splitAfterLast p (front ++ mark :: rest) = (front ++ [mark], rest) := by
  have hpass : ∀ c ∈ rest.reverse, (!p c) = true := fun c hc => by
    rw [hrest c (List.mem_reverse.mp hc)]
    rfl
  have hback : (front ++ mark :: rest).reverse.takeWhile (fun c => !p c) = rest.reverse := by
    rw [List.reverse_append, List.reverse_cons, List.append_assoc,
      List.takeWhile_append_of_pos hpass]
    simp [hmark]
  unfold splitAfterLast
  dsimp only
  rw [hback, List.reverse_reverse, List.append_cons, List.length_append, List.length_reverse,
    Nat.add_sub_cancel, List.take_left]

theorem splitAfterLast_of_none {p : Char → Bool} (h : ∀ c ∈ cs, p c = false) :
    splitAfterLast p cs = ([], cs) := by
  have hback : cs.reverse.takeWhile (fun c => !p c) = cs.reverse :=
    List.takeWhile_eq_self_iff.mpr fun c hc => by
      rw [h c (List.mem_reverse.mp hc)]
      rfl
  unfold splitAfterLast
  dsimp only
  rw [hback, List.reverse_reverse, List.length_reverse, Nat.sub_self, List.take_zero]

theorem splitAtSlash?_of_atSlash (h : AtSlash cs front rest) :
    splitAtSlash? cs = some (front ++ ['/'], rest) := by
  obtain ⟨rfl, hlast, hpast⟩ := h
  have hrest : ∀ c ∈ rest, (c == '/') = false := fun c hc =>
    beq_eq_false_iff_ne.mpr fun heq => hlast (heq ▸ hc)
  have hlength := List.length_pos_iff.mpr hpast
  have hlong : 2 ≤ (front ++ ['/']).length := by
    rw [List.length_append, List.length_singleton]
    omega
  unfold splitAtSlash?
  rw [splitAfterLast_of_last (by rfl) hrest]
  dsimp only
  rw [if_pos hlong]

theorem atSlash_of_splitAtSlash? (h : splitAtSlash? cs = some (base, name)) :
    ∃ front, AtSlash cs front name ∧ base = front ++ ['/'] := by
  by_cases hslash : '/' ∈ cs
  · obtain ⟨rest, front, hparts, hlast⟩ :=
      List.eq_append_cons_of_mem (List.mem_reverse.mpr hslash)
    have hcs : cs = front.reverse ++ '/' :: rest.reverse := by
      rw [← List.reverse_reverse cs, hparts]
      simp
    have hrest : ∀ c ∈ rest.reverse, (c == '/') = false := fun c hc =>
      beq_eq_false_iff_ne.mpr fun heq => hlast (heq ▸ List.mem_reverse.mp hc)
    unfold splitAtSlash? at h
    rw [hcs, splitAfterLast_of_last (by rfl) hrest] at h
    dsimp only at h
    split at h
    · next hlength =>
      obtain ⟨rfl, rfl⟩ := Prod.mk.inj (Option.some.inj h)
      refine ⟨front.reverse, ⟨hcs, by simpa using hlast, fun hnil => ?_⟩, rfl⟩
      rw [hnil] at hlength
      exact absurd hlength (by decide)
    · cases h
  · have hnone : ∀ c ∈ cs, (c == '/') = false := fun c hc =>
      beq_eq_false_iff_ne.mpr fun heq => hslash (heq ▸ hc)
    unfold splitAtSlash? at h
    rw [splitAfterLast_of_none hnone] at h
    cases h

/-- The URI has the base and the name: it is cut at its first `#` or, failing that, at its last `/`, if
    something stands before the mark. The mark stays with the base. -/
inductive Cuts (uri : String) : String → String → Prop where
  | fragment {front rest : List Char} (h : AtFragment uri.toList front rest) :
      Cuts uri (String.ofList (front ++ ['#'])) (String.ofList rest)
  | slash {front rest : List Char} (hnone : ∀ front rest, ¬ AtFragment uri.toList front rest)
      (h : AtSlash uri.toList front rest) :
      Cuts uri (String.ofList (front ++ ['/'])) (String.ofList rest)

/-- Base and name together are the URI. -/
theorem Cuts.append {uri base name : String} (h : Cuts uri base name) : base ++ name = uri := by
  cases h with
  | fragment h =>
    rw [← String.ofList_append, ← List.append_cons, ← h.parts, String.ofList_toList]
  | slash _ h =>
    rw [← String.ofList_append, ← List.append_cons, ← h.parts, String.ofList_toList]

theorem splitNamespace?_eq_some_iff {uri base name : String} :
    splitNamespace? uri = some (base, name) ↔ Cuts uri base name := by
  constructor
  · intro h
    unfold splitNamespace? at h
    split at h
    · next front rest hfragment =>
      obtain ⟨rfl, rfl⟩ := Prod.mk.inj (Option.some.inj h)
      obtain ⟨front, hcut, rfl⟩ := atFragment_of_splitAtFragment? hfragment
      exact .fragment hcut
    · next hnofragment =>
      split at h
      · next front rest hslash =>
        obtain ⟨rfl, rfl⟩ := Prod.mk.inj (Option.some.inj h)
        obtain ⟨front, hcut, rfl⟩ := atSlash_of_splitAtSlash? hslash
        refine .slash (fun front rest hfragment => ?_) hcut
        rw [splitAtFragment?_of_atFragment hfragment] at hnofragment
        cases hnofragment
      · cases h
  · intro h
    unfold splitNamespace?
    cases h with
    | fragment h => rw [splitAtFragment?_of_atFragment h]
    | slash hnone h =>
      cases hfragment : splitAtFragment? uri.toList with
      | some parts =>
        obtain ⟨front, hcut, -⟩ := atFragment_of_splitAtFragment? hfragment
        exact absurd hcut (hnone front _)
      | none =>
        dsimp only
        rw [splitAtSlash?_of_atSlash h]

end Uri

/-! ## 2. Short names -/

/-- In a list where no key comes twice, exactly what stands there is looked up. -/
theorem lookupKey_eq_some_iff {α : Type} {k : String} {v : α} {xs : List (String × α)}
    (hdistinct : (xs.map Prod.fst).Nodup) : lookupKey k xs = some v ↔ (k, v) ∈ xs := by
  refine ⟨fun h => ?_, lookupKey_of_mem hdistinct⟩
  obtain ⟨⟨k', w⟩, hmem, rfl⟩ :=
    List.mem_map.mp ((lookupKey_isSome_iff k xs).mp (Option.isSome_of_eq_some h))
  rw [lookupKey_of_mem hdistinct hmem] at h
  exact Option.some.inj h ▸ hmem

namespace Namespaces

/-- A letter is too short to be a numbered name. -/
theorem letter_ne_numbered (c : Char) (digits : String) : String.ofList [c] ≠ "ns" ++ digits := by
  intro h
  have hlength := congrArg String.length h
  rw [String.length_append, String.length_ofList, show "ns".length = 2 from rfl,
    List.length_singleton] at hlength
  omega

/-- **No short name comes twice**, neither among the letters nor among the numbered names. -/
theorem shortName_injective : Function.Injective shortName := by
  intro m n h
  have hnodup : letters.Nodup := by decide
  unfold shortName at h
  cases hm : letters[m]? with
  | some c =>
    rw [hm] at h
    have hlt : m < letters.length := (List.getElem?_eq_some_iff.mp hm).1
    cases hn : letters[n]? with
    | some c' =>
      rw [hn] at h
      obtain rfl : c = c' := by simpa using String.ofList_inj.mp h
      exact (List.getElem?_inj hlt hnodup).mp (hm.trans hn.symm)
    | none =>
      rw [hn] at h
      exact absurd h (letter_ne_numbered c _)
  | none =>
    rw [hm] at h
    cases hn : letters[n]? with
    | some c =>
      rw [hn] at h
      exact absurd h.symm (letter_ne_numbered c _)
    | none =>
      rw [hn] at h
      exact counted_inj h

example : shortName 25 = "z" ∧ shortName 26 = "ns26" := by decide

theorem shortNamesOf_concat (bases : List String) (base : String) :
    shortNamesOf (bases ++ [base]) = (shortNamesOf bases).insert (shortName bases.length) base := by
  unfold shortNamesOf
  rw [List.zipIdx_append, List.foldl_append]
  simp

/-- **Every base has the short name of its place**, and nothing else has it: no pair is dropped when
    another one is put in. -/
theorem pairs_shortNamesOf {bases : List String} (hnodup : bases.Nodup) {short base : String} :
    (shortNamesOf bases).Pairs short base ↔
      ∃ place, bases[place]? = some base ∧ short = shortName place := by
  induction bases using List.reverseRecOn with
  | nil => simp [shortNamesOf, TwoWayMap.pairs_empty]
  | append_singleton bases last ih =>
    obtain ⟨hbases, -, hlast⟩ := List.nodup_append.mp hnodup
    rw [shortNamesOf_concat, TwoWayMap.pairs_insert, ih hbases]
    constructor
    · rintro (⟨rfl, rfl⟩ | ⟨-, -, place, hplace, rfl⟩)
      · exact ⟨bases.length, List.getElem?_concat_length, rfl⟩
      · exact ⟨place, List.getElem?_append_left (List.getElem?_eq_some_iff.mp hplace).1 ▸ hplace, rfl⟩
    · rintro ⟨place, hplace, rfl⟩
      by_cases hlt : place < bases.length
      · rw [List.getElem?_append_left hlt] at hplace
        refine .inr ⟨fun heq => ?_, fun heq => ?_, place, hplace, rfl⟩
        · exact absurd (shortName_injective heq) (Nat.ne_of_lt hlt)
        · exact hlast base (List.mem_of_getElem? hplace) last (List.mem_singleton_self last) heq
      · rw [List.getElem?_append_right (Nat.le_of_not_lt hlt), List.getElem?_singleton] at hplace
        split at hplace
        · next hzero =>
          have hlast : place = bases.length := by omega
          exact .inl ⟨congrArg shortName hlast, (Option.some.inj hplace).symm⟩
        · cases hplace

/-! ## 3. The properties of a store -/

variable {s : Store} {id short base name : String} {q : QualifiedName}

theorem mem_splitUris : (id, base, name) ∈ splitUris s ↔
    ∃ p, s.properties.get? id = some p ∧ Uri.Cuts p.uri base name := by
  unfold splitUris
  simp only [List.mem_filterMap, Option.map_eq_some_iff, Prod.exists, Prod.mk.injEq]
  constructor
  · rintro ⟨id, p, hp, base, name, hcut, rfl, rfl, rfl⟩
    exact ⟨p, KeyMap.get?_of_mem_toList hp, Uri.splitNamespace?_eq_some_iff.mp hcut⟩
  · rintro ⟨p, hp, hcut⟩
    exact ⟨id, p, KeyMap.mem_toList_of_get? hp, base, name, Uri.splitNamespace?_eq_some_iff.mpr hcut,
      rfl, rfl, rfl⟩

theorem nodup_splitUris (s : Store) : ((splitUris s).map Prod.fst).Nodup := by
  have hkeys : s.properties.toList.Pairwise fun a b => a.1 ≠ b.1 :=
    List.pairwise_map.mp s.properties.nodup_keys
  refine List.pairwise_map.mpr (hkeys.filterMap _ fun a b hne x hx y hy => ?_)
  obtain ⟨-, -, rfl⟩ := Option.map_eq_some_iff.mp hx
  obtain ⟨-, -, rfl⟩ := Option.map_eq_some_iff.mp hy
  exact hne

theorem mem_basesOf : base ∈ basesOf s ↔
    ∃ id p name, s.properties.get? id = some p ∧ Uri.Cuts p.uri base name := by
  unfold basesOf
  rw [KeySet.mem_toList, KeySet.mem_ofList]
  simp only [List.mem_map, Prod.exists]
  constructor
  · rintro ⟨id, base, name, hmem, rfl⟩
    obtain ⟨p, hp, hcut⟩ := mem_splitUris.mp hmem
    exact ⟨id, p, name, hp, hcut⟩
  · rintro ⟨id, p, name, hp, hcut⟩
    exact ⟨id, base, name, mem_splitUris.mpr ⟨p, hp, hcut⟩, rfl⟩

theorem pairs_ofStore : (ofStore s).shortNames.Pairs short base ↔
    ∃ place, (basesOf s)[place]? = some base ∧ short = shortName place :=
  pairs_shortNamesOf (KeySet.nodup_toList _)

theorem exists_short (h : base ∈ basesOf s) : ∃ short, (ofStore s).shortNames.Pairs short base := by
  obtain ⟨place, hplace⟩ := List.getElem?_of_mem h
  exact ⟨shortName place, pairs_ofStore.mpr ⟨place, hplace, rfl⟩⟩

/-- A qualified name is that of a property whose URI has a base, and it has the short name of that. -/
theorem get?_names : (ofStore s).names.get? id = some q ↔
    ∃ p, s.properties.get? id = some p ∧ Uri.Cuts p.uri q.base q.localName ∧
      (ofStore s).shortNames.Pairs q.shortName q.base := by
  have hdistinct : (((splitUris s).map fun e => (e.1, QualifiedName.mk e.2.1 e.2.2
      (((ofStore s).shortNames.byRight.get? e.2.1).getD ""))).map Prod.fst).Nodup := by
    rw [List.map_map]
    exact nodup_splitUris s
  refine (iff_of_eq (congrArg (· = some q) (KeyMap.get?_ofList hdistinct id))).trans ?_
  rw [lookupKey_eq_some_iff hdistinct]
  simp only [List.mem_map, Prod.exists, Prod.mk.injEq]
  constructor
  · rintro ⟨id, base, name, hmem, rfl, rfl⟩
    obtain ⟨p, hp, hcut⟩ := mem_splitUris.mp hmem
    obtain ⟨short, hpair⟩ := exists_short (mem_basesOf.mpr ⟨id, p, name, hp, hcut⟩)
    rw [TwoWayMap.byRight_eq_some_iff.mpr hpair]
    exact ⟨p, hp, hcut, hpair⟩
  · rintro ⟨p, hp, hcut, hpair⟩
    refine ⟨id, q.base, q.localName, mem_splitUris.mpr ⟨p, hp, hcut⟩, rfl, ?_⟩
    rw [TwoWayMap.byRight_eq_some_iff.mpr hpair]
    rfl

theorem exists_name {p : Property} (hp : s.properties.get? id = some p)
    (hcut : Uri.Cuts p.uri base name) : ∃ short, (ofStore s).names.get? id = some ⟨base, name, short⟩ := by
  obtain ⟨short, hpair⟩ := exists_short (mem_basesOf.mpr ⟨id, p, name, hp, hcut⟩)
  exact ⟨short, get?_names.mpr ⟨p, hp, hcut, hpair⟩⟩

/-- **Namespaces abbreviate one to one.** Exactly the properties have a qualified name whose URI is cut
    somewhere. Base and local name make up the URI, and the short name stands for the base. The bases
    that short names stand for are exactly those of the qualified names, and each has one short name,
    however many there are; so two properties have the same short name exactly if they have the same
    base. -/
theorem abbreviates (s : Store) :
    (∀ id, ((ofStore s).names.get? id).isSome ↔
      ∃ p base name, s.properties.get? id = some p ∧ Uri.Cuts p.uri base name) ∧
    (∀ id q, (ofStore s).names.get? id = some q → ∃ p, s.properties.get? id = some p ∧
      Uri.Cuts p.uri q.base q.localName ∧ q.base ++ q.localName = p.uri ∧
      (ofStore s).bases.get? q.shortName = some q.base) ∧
    (∀ base, (∃ short, (ofStore s).bases.get? short = some base) ↔
      ∃ id q, (ofStore s).names.get? id = some q ∧ q.base = base) ∧
    (∀ short short' base, (ofStore s).bases.get? short = some base →
      (ofStore s).bases.get? short' = some base → short = short') ∧
    ∀ id id' q q', (ofStore s).names.get? id = some q → (ofStore s).names.get? id' = some q' →
      (q.shortName = q'.shortName ↔ q.base = q'.base) := by
  refine ⟨fun id => ⟨fun h => ?_, ?_⟩, fun id q hq => ?_, fun base => ⟨?_, ?_⟩,
    fun _ _ _ => TwoWayMap.left_unique, ?_⟩
  · obtain ⟨q, hq⟩ := Option.isSome_iff_exists.mp h
    obtain ⟨p, hp, hcut, -⟩ := get?_names.mp hq
    exact ⟨p, _, _, hp, hcut⟩
  · rintro ⟨p, base, name, hp, hcut⟩
    obtain ⟨short, hq⟩ := exists_name hp hcut
    exact Option.isSome_of_eq_some hq
  · obtain ⟨p, hp, hcut, hpair⟩ := get?_names.mp hq
    exact ⟨p, hp, hcut, hcut.append, hpair⟩
  · rintro ⟨short, hpair⟩
    obtain ⟨place, hplace, rfl⟩ := pairs_ofStore.mp hpair
    obtain ⟨id, p, name, hp, hcut⟩ := mem_basesOf.mp (List.mem_of_getElem? hplace)
    obtain ⟨short, hq⟩ := exists_name hp hcut
    exact ⟨id, _, hq, rfl⟩
  · rintro ⟨id, q, hq, rfl⟩
    obtain ⟨p, hp, hcut, hpair⟩ := get?_names.mp hq
    exact ⟨q.shortName, hpair⟩
  · intro id id' q q' hq hq'
    obtain ⟨-, -, -, hpair⟩ := get?_names.mp hq
    obtain ⟨-, -, -, hpair'⟩ := get?_names.mp hq'
    constructor
    · intro hshort
      rw [TwoWayMap.Pairs, hshort, hpair'] at hpair
      exact (Option.some.inj hpair).symm
    · intro hbase
      exact TwoWayMap.left_unique hpair (hbase ▸ hpair')

end Namespaces

end Faceted
