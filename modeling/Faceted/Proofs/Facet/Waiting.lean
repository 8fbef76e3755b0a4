import Faceted.Proofs.Collection.Lasting

/-!
# What text searches hold back

Apart from its query a text search may hold back input until it is due. Refreshes touch neither. A tick
makes a query of what is due; taking over the empty state drops the query and what is held back, but
only where there is a query.

* `Facet.query?` and `Facet.pending?`: the two, for every kind of facet; `Facet.Expects`: what is held
  back stands for another query;
* **`poll_cases`**, **`importState_emptyState`**: the two changes that are about what is held back;
* `Ticked` and `Calmed`: what becomes of a facet through ticks, and through empty states;
* `Facet.Typed`: what is held back stands for some query, which every use keeps.
-/

namespace Faceted

namespace Facet

variable {f g h : Facet}

/-! ## 1. Queries and what is held back -/

def query? : Facet → Option String
  | .textSearch f => f.query
  | _ => none

/-- The input that is held back, with the moment at which it is due. -/
def pending? : Facet → Option (String × Nat)
  | .textSearch f => f.debouncer.pending
  | _ => none

/-- What is held back stands for another query than there is. -/
def Expects (f : Facet) : Prop :=
  ∃ text due, f.pending? = some (text, due) ∧ TextSearchFacet.queryOf text ≠ f.query?

/-- What is held back is not due yet. -/
def Early (f : Facet) (now : Nat) : Prop := ∀ text due, f.pending? = some (text, due) → now < due

theorem early_of_none (hf : f.pending? = none) (now : Nat) : f.Early now := by
  intro text due hsome
  rw [hf] at hsome
  cases hsome

/-- The same facet with the same query, which holds back the same. -/
structure SameText (f g : Facet) : Prop where
  id : f.id = g.id
  query : f.query? = g.query?
  pending : f.pending? = g.pending?

theorem SameText.refl (f : Facet) : f.SameText f := ⟨rfl, rfl, rfl⟩

theorem SameText.trans (hfg : f.SameText g) (hgh : g.SameText h) : f.SameText h :=
  ⟨hfg.id.trans hgh.id, hfg.query.trans hgh.query, hfg.pending.trans hgh.pending⟩

theorem SameText.expects (hfg : f.SameText g) : f.Expects ↔ g.Expects := by
  unfold Expects
  rw [hfg.query, hfg.pending]

theorem isPending_iff : Browser.isPending f = true ↔ f.pending? ≠ none := by
  cases f with
  | textSearch f => exact Option.isSome_iff_ne_none
  | _ => exact ⟨nofun, fun hne => absurd rfl hne⟩

theorem Expects.isPending (hf : f.Expects) : Browser.isPending f = true := by
  obtain ⟨text, due, hpending, -⟩ := hf
  rw [isPending_iff, hpending]
  exact Option.some_ne_none _

/-- Another kind of facet has neither. -/
theorem sameText_of_none (hid : f.id = g.id) (hf : f.query? = none ∧ f.pending? = none)
    (hg : g.query? = none ∧ g.pending? = none) : f.SameText g :=
  ⟨hid, hf.1.trans hg.1.symm, hf.2.trans hg.2.symm⟩

theorem sameText_restrict (f : Facet) (scene : Scene) (items : KeySet) :
    f.SameText (f.restrict scene items).2.1 := by
  have hrole : (f.restrict scene items).2.1.role = f.role := role_use (.restrict items)
  have hid := congrArg Prod.fst hrole
  cases f with
  | textSearch f =>
    unfold restrict
    dsimp only [leaving]
    unfold TextSearchFacet.restrict
    split
    · exact .refl _
    · split
      · exact .refl _
      · rw [TextSearchFacet.getTexts_eq]
        exact ⟨rfl, rfl, rfl⟩
  | _ => exact sameText_of_none hid.symm ⟨rfl, rfl⟩ ⟨rfl, rfl⟩

theorem sameText_update (f : Facet) (scene : Scene) (items : KeySet) :
    f.SameText (f.update scene items).2.1 := by
  have hrole : (f.update scene items).2.1.role = f.role := role_use (.update items)
  have hid := congrArg Prod.fst hrole
  cases f with
  | textSearch f => exact .refl _
  | _ => exact sameText_of_none hid.symm ⟨rfl, rfl⟩ ⟨rfl, rfl⟩

theorem sameText_dropCaches (f : Facet) : f.SameText f.dropCaches := by
  cases f with
  | textSearch f => exact ⟨rfl, rfl, rfl⟩
  | _ => exact sameText_of_none rfl ⟨rfl, rfl⟩ ⟨rfl, rfl⟩

/-- What a derived facet lets through is not about text. -/
theorem sameText_restrictTo (f : Facet) (scene : Scene) (allowed : Option KeySet) :
    f.SameText (f.perform scene (.restrictTo allowed)).2 := by
  cases f with
  | derived f => exact sameText_of_none rfl ⟨rfl, rfl⟩ ⟨rfl, rfl⟩
  | _ => exact .refl _

/-- A relation that allows for the same text lasts. -/
theorem lasting_of_sameText {r : Facet → Facet → Prop} (hsame : ∀ {f g}, SameText f g → r f g)
    (htrans : ∀ {f g h}, r f g → r g h → r f h) : Lasting r where
  refl f := hsame (.refl f)
  trans := htrans
  restrict f scene items := hsame (sameText_restrict f scene items)
  update f scene items := hsame (sameText_update f scene items)
  dropCaches f := hsame (sameText_dropCaches f)

/-! ## 2. Ticks -/

/-- What was held back is the query now. -/
structure Fired (f g : Facet) (text : String) (due : Nat) : Prop where
  id : f.id = g.id
  before : f.pending? = some (text, due)
  query : g.query? = TextSearchFacet.queryOf text
  after : g.pending? = none

/-- What ticks make of a facet. -/
def Ticked (f g : Facet) : Prop := f.SameText g ∨ ∃ text due, Fired f g text due

theorem Ticked.id (hfg : f.Ticked g) : f.id = g.id := by
  rcases hfg with hsame | ⟨text, due, hfired⟩
  · exact hsame.id
  · exact hfired.id

theorem Ticked.trans (hfg : f.Ticked g) (hgh : g.Ticked h) : f.Ticked h := by
  rcases hfg with hsame | ⟨text, due, hfired⟩
  · rcases hgh with hsame' | ⟨text, due, hfired⟩
    · exact .inl (hsame.trans hsame')
    · exact .inr ⟨text, due, hsame.id.trans hfired.id, hsame.pending.trans hfired.before,
        hfired.query, hfired.after⟩
  · rcases hgh with hsame | ⟨text', due', hfired'⟩
    · exact .inr ⟨text, due, hfired.id.trans hsame.id, hfired.before,
        hsame.query.symm.trans hfired.query, hsame.pending.symm.trans hfired.after⟩
    · have hnone := hfired.after
      rw [hfired'.before] at hnone
      cases hnone

theorem lasting_ticked : Lasting Ticked := lasting_of_sameText .inl Ticked.trans

/-- Once nothing is held back, a tick has nothing to do. -/
theorem Ticked.sameText (hfg : f.Ticked g) (hf : f.pending? = none) : f.SameText g := by
  rcases hfg with hsame | ⟨text, due, hfired⟩
  · exact hsame
  · have hsome := hfired.before
    rw [hf] at hsome
    cases hsome

/-- What is held back after ticks has been held back before them. -/
theorem Ticked.sameText_of_pending (hfg : f.Ticked g) (hg : g.pending? ≠ none) : f.SameText g := by
  rcases hfg with hsame | ⟨text, due, hfired⟩
  · exact hsame
  · exact absurd hfired.after hg

/-- What is not due yet after ticks is what was not due before them. -/
theorem Ticked.early (hfg : f.Ticked g) {now : Nat} (hf : f.Early now) : g.Early now := by
  rcases hfg with hsame | ⟨text, due, hfired⟩
  · unfold Early
    rw [← hsame.pending]
    exact hf
  · exact early_of_none hfired.after now

/-- The two ways of a poll. -/
theorem textSearch_poll_cases (f : TextSearchFacet) (now : Nat) :
    (f.poll now = (false, f) ∧ ∀ text due, f.debouncer.pending = some (text, due) → now < due) ∨
      ∃ text due, due ≤ now ∧ f.debouncer.pending = some (text, due) ∧
        f.poll now = (TextSearchFacet.queryOf text != f.query,
          { f with debouncer := f.debouncer.cancel, query := TextSearchFacet.queryOf text }) := by
  unfold TextSearchFacet.poll Debouncer.poll
  cases hpending : f.debouncer.pending with
  | none => exact .inl ⟨rfl, nofun⟩
  | some held =>
    obtain ⟨text, due⟩ := held
    dsimp only
    by_cases hdue : due ≤ now
    · rw [if_pos hdue]
      exact .inr ⟨text, due, hdue, rfl, rfl⟩
    · rw [if_neg hdue]
      refine .inl ⟨rfl, fun text' due' hsome => ?_⟩
      cases hsome
      omega

theorem fired_of_pending {f : TextSearchFacet} {text : String} {due : Nat} {query : Option String}
    (hpending : f.debouncer.pending = some (text, due))
    (hquery : query = TextSearchFacet.queryOf text) :
    Fired (.textSearch f) (.textSearch { f with debouncer := f.debouncer.cancel, query }) text due where
  id := rfl
  before := hpending
  query := hquery
  after := rfl

/-- **A poll** applies what is held back and due, and reports whether that is another query. -/
theorem poll_cases (f : Facet) (scene : Scene) (now : Nat) :
    f.perform scene (.poll now) = (.ok false, f) ∧ f.Early now ∨
      ∃ text due, due ≤ now ∧ Fired f (f.perform scene (.poll now)).2 text due ∧
        (f.perform scene (.poll now)).1 =
          .ok (TextSearchFacet.queryOf text != f.query?) := by
  cases f with
  | textSearch f =>
    have hperform : (textSearch f).perform scene (.poll now) = surely .textSearch (f.poll now) := rfl
    rw [hperform]
    rcases textSearch_poll_cases f now with ⟨hidle, hearly⟩ | ⟨text, due, hdue, hpending, hpoll⟩
    · rw [hidle]
      exact .inl ⟨rfl, hearly⟩
    · rw [hpoll]
      refine .inr ⟨text, due, hdue, fired_of_pending hpending rfl, ?_⟩
      rw [surely, query?]
  | _ => exact .inl ⟨rfl, early_of_none rfl now⟩

theorem ticked_poll (f : Facet) (scene : Scene) (now : Nat) :
    f.Ticked (f.perform scene (.poll now)).2 := by
  rcases poll_cases f scene now with ⟨hidle, -⟩ | ⟨text, due, -, hfired, -⟩
  · rw [hidle]
    exact .inl (.refl f)
  · exact .inr ⟨text, due, hfired⟩

/-! ## 3. Empty states -/

/-- What empty states make of a facet: where there is a query, it goes together with what is held
    back. -/
def Calmed (f g : Facet) : Prop :=
  f.SameText g ∨ f.id = g.id ∧ f.query? ≠ none ∧ g.query? = none ∧ g.pending? = none

theorem Calmed.id (hfg : f.Calmed g) : f.id = g.id := by
  rcases hfg with hsame | ⟨hid, -⟩
  · exact hsame.id
  · exact hid

theorem Calmed.trans (hfg : f.Calmed g) (hgh : g.Calmed h) : f.Calmed h := by
  rcases hfg with hsame | ⟨hid, hquery, hnone, hpending⟩
  · rcases hgh with hsame' | ⟨hid, hquery, hnone, hpending⟩
    · exact .inl (hsame.trans hsame')
    · exact .inr ⟨hsame.id.trans hid, hsame.query ▸ hquery, hnone, hpending⟩
  · rcases hgh with hsame | ⟨-, hquery', -⟩
    · exact .inr ⟨hid.trans hsame.id, hquery, hsame.query ▸ hnone, hsame.pending ▸ hpending⟩
    · exact absurd hnone hquery'

theorem lasting_calmed : Lasting Calmed := lasting_of_sameText .inl Calmed.trans

/-- A query that is gone stays gone. -/
theorem Calmed.query_eq_none (hfg : f.Calmed g) (hf : f.query? = none) : g.query? = none := by
  rcases hfg with hsame | ⟨-, -, hnone, -⟩
  · exact hsame.query ▸ hf
  · exact hnone

/-- Taking over the empty state clears a facet that has another one. -/
theorem importState_emptyState (f : Facet) :
    f.differs f.emptyState = false ∧ f.importState f.emptyState = .ok (false, f) ∨
      f.differs f.emptyState = true ∧ f.importState f.emptyState = .ok (true, f.clear.2) := by
  unfold importState
  cases hdiffers : f.differs f.emptyState with
  | false => exact .inl ⟨rfl, rfl⟩
  | true =>
    rw [Bool.not_true, if_neg Bool.false_ne_true, if_pos (FacetState.same_refl _)]
    exact .inr ⟨rfl, rfl⟩

/-- **A query makes the difference**: without one, what is held back stays. -/
theorem calmed_importState (f : Facet) :
    f.Calmed (f.orStay (f.importState f.emptyState)).2 ∧
      (f.orStay (f.importState f.emptyState)).2.query? = none := by
  rcases importState_emptyState f with ⟨hsame, himport⟩ | ⟨hdiffers, himport⟩
  · rw [himport]
    refine ⟨.inl (.refl f), ?_⟩
    cases f with
    | textSearch f =>
      have hquery : (none != f.query) = false := hsame
      exact (by simpa using hquery : none = f.query).symm
    | _ => rfl
  · rw [himport]
    cases f with
    | textSearch f =>
      have hquery : (none != f.query) = true := hdiffers
      have hne : f.query ≠ none := fun hnone => by simp [hnone] at hquery
      exact ⟨.inr ⟨rfl, hne, rfl, rfl⟩, rfl⟩
    | _ => exact ⟨.inl (sameText_of_none rfl ⟨rfl, rfl⟩ ⟨rfl, rfl⟩), rfl⟩

/-! ## 4. Input that stands for a query -/

/-- What is held back stands for some query. -/
def Typed (f : Facet) : Prop :=
  ∀ text due, f.pending? = some (text, due) → TextSearchFacet.queryOf text ≠ none

theorem typed_of_none (hf : f.pending? = none) : f.Typed := by
  intro text due hsome
  rw [hf] at hsome
  cases hsome

theorem SameText.typed (hfg : f.SameText g) (hf : f.Typed) : g.Typed := by
  unfold Typed
  rw [← hfg.pending]
  exact hf

/-- A facet of another kind stays one. -/
theorem pending?_of_plain (hplain : f.plain = g.plain) (hf : ∀ t, f ≠ .textSearch t) :
    g.pending? = none := by
  cases g with
  | textSearch g =>
    cases f with
    | textSearch f => exact absurd rfl (hf f)
    | _ => cases hplain
  | _ => rfl

theorem typed_setText {f : TextSearchFacet} (hf : (textSearch f).Typed) (text : String) :
    (textSearch (f.setText text).2).Typed := by
  intro text' due hsome
  rw [TextSearchFacet.setText, pending?] at hsome
  exact hf text' due hsome

theorem typed_apply {f : TextSearchFacet} (hf : (textSearch f).Typed) {state : FacetState}
    (hg : (textSearch f).apply state = .ok g) : g.Typed := by
  cases state with
  | text query =>
    cases hg
    exact typed_setText hf _
  | _ => cases hg

/-- Only input that stands for a query is held back. -/
theorem typed_input {f : TextSearchFacet} (hf : (textSearch f).Typed) (text : String) (now : Nat)
    (enter : Bool) : (textSearch (f.input text now enter).2).Typed := by
  unfold TextSearchFacet.input
  split
  · exact typed_of_none rfl
  · next hheld =>
    split
    · exact hf
    · intro text' due hsome
      cases hsome
      intro hnone
      rw [hnone, Option.isNone_none, Bool.or_true] at hheld
      exact hheld rfl

theorem typed_perform_textSearch {f : TextSearchFacet} (hf : (textSearch f).Typed) (scene : Scene)
    (change : Change) : ((textSearch f).perform scene change).2.Typed := by
  cases change with
  | importState state =>
    show ((textSearch f).orStay ((textSearch f).importState state)).2.Typed
    unfold importState
    split
    · exact hf
    · split
      · exact typed_of_none rfl
      · cases happly : (textSearch f).apply state with
        | error failure => exact hf
        | ok g => exact typed_apply hf happly
  | apply state =>
    show ((textSearch f).orStay (((textSearch f).apply state).map fun f => (true, f))).2.Typed
    cases happly : (textSearch f).apply state with
    | error failure => exact hf
    | ok g => exact typed_apply hf happly
  | clear => exact typed_of_none rfl
  | setText text => exact typed_setText hf text
  | input text now enter => exact typed_input hf text now enter
  | poll now =>
    rcases poll_cases (textSearch f) scene now with ⟨hidle, -⟩ | ⟨text, due, -, hfired, -⟩
    · rw [hidle]
      exact hf
    · exact typed_of_none hfired.after
  | _ => exact hf

/-- **Whatever a facet is used for**, what it holds back stands for some query. -/
theorem typed_use {scene : Scene} {store : Store} (hg : f.Use scene g store) (hf : f.Typed) :
    g.Typed := by
  cases hg with
  | restrict items => exact (sameText_restrict f scene items).typed hf
  | update items => exact (sameText_update f scene items).typed hf
  | dropCaches => exact (sameText_dropCaches f).typed hf
  | perform change =>
    cases f with
    | textSearch f => exact typed_perform_textSearch hf scene change
    | _ => exact typed_of_none (pending?_of_plain (reselected_perform _ scene change).plain nofun)

/-- A facet that has just been set up holds nothing back. -/
theorem pending?_build {config : FacetConfig} {settings : Settings} {n : Nat}
    (hf : config.build settings n = .ok f) : f.pending? = none := by
  unfold FacetConfig.build at hf
  cases hclass : config.class? with
  | error failure =>
    rw [hclass] at hf
    cases hf
  | ok class? =>
    rw [hclass] at hf
    cases class? <;> (rw [← Except.ok.inj hf]; rfl)

end Facet

end Faceted
