import Faceted.Proofs.Browser.Roots

/-!
# Browsers in order and in tune

What holds of a browser between operations. The collections are in order, and every facet through
which a collection narrows its base belongs to a restricting collection there. While the data stay as
they are, the collections also show what the store and the selections call for.

* `Orderly` is what holds whatever the data, `InTune` what a change of the data may spoil: every
  collection in line and every root as it is to be;
* `Grows` is what an operation on facets and collections may do to a browser;
* **`grows_putView`**: the one argument behind all changes of one collection that are passed on.
-/

namespace Faceted

open Faceted.Action

namespace Browser

/-! ## 1. Order -/

/-- Facets of a collection have distinct ids, and those through which another collection narrows it
    belong to a restricting collection. -/
structure Attached (b : Browser) (c : Collection) : Prop where
  distinct : (c.facets.map Facet.id).Nodup
  belongs : ∀ r ∈ c.facets.map Facet.role, ∀ e, r.2 = some e →
    ∃ d ∈ b.collections, d.source = .based e c.id true ∧ r.1 = derivedId d.id

structure Orderly (b : Browser) : Prop where
  ordered : b.Ordered
  calm : b.Calm
  attached : ∀ c ∈ b.collections, b.Attached c

/-- The browser shows what the store and the selections call for. -/
structure InTune (b : Browser) : Prop where
  inLine : b.AllInLine
  roots : ∀ place, b.RootHolds place

/-- Nothing about order has to do with the clock. -/
theorem Orderly.atMoment {b : Browser} (hb : b.Orderly) (moment : Int) :
    (b.atMoment moment).Orderly where
  ordered := ⟨hb.ordered.distinct, hb.ordered.before⟩
  calm := hb.calm
  attached c hc := ⟨(hb.attached c hc).distinct, (hb.attached c hc).belongs⟩

/-- **The clock** leaves a browser in tune, unless an expression asks for the time. -/
theorem InTune.atMoment {b : Browser} (hb : b.InTune) (hasks : b.asksTime = false) (moment : Int) :
    (b.atMoment moment).InTune where
  inLine c hc := (hb.inLine c hc).atMoment (facets_asksTime hasks hc) moment
  roots place c hc hplain :=
    (rootOf_atMoment (source_asksTime hasks (List.mem_of_getElem? hc)) moment).trans
      (hb.roots place c hc hplain)

theorem Attached.congr {b b' : Browser} {c c' : Collection} (h : b.Attached c) (hid : c'.id = c.id)
    (hroles : c'.facets.map Facet.role = c.facets.map Facet.role)
    (hcollections : ∀ d ∈ b.collections, ∃ d' ∈ b'.collections, d'.id = d.id ∧ d'.source = d.source) :
    b'.Attached c' where
  distinct := ids_eq_of_roles hroles ▸ h.distinct
  belongs r hr e he := by
    rw [hroles] at hr
    obtain ⟨d, hd, hsource, hrid⟩ := h.belongs r hr e he
    obtain ⟨d', hd', hid', hsource'⟩ := hcollections d hd
    exact ⟨d', hd', by rw [hsource', hsource, hid], by rw [hrid, hid']⟩

/-- Order is a matter of outlines, as long as no batch is left under way. -/
theorem Orderly.same_outlines {b b' : Browser} (hb : b.Orderly) (h : b.SameOutlines b')
    (hcalm : b'.Calm) : b'.Orderly where
  ordered := h.ordered hb.ordered
  calm := hcalm
  attached c' hc' := by
    have hmem : c'.outline ∈ b.collections.map Collection.outline := by
      rw [show _ = _ from h]
      exact List.mem_map_of_mem hc'
    obtain ⟨c, hc, heq⟩ := List.mem_map.mp hmem
    refine (hb.attached c hc).congr (congrArg Collection.Outline.id heq.symm)
      (congrArg Collection.Outline.roles heq.symm) fun d hd => ?_
    have hmem' : d.outline ∈ b'.collections.map Collection.outline := by
      rw [← show _ = _ from h]
      exact List.mem_map_of_mem hd
    obtain ⟨d', hd', heq'⟩ := List.mem_map.mp hmem'
    exact ⟨d', hd', congrArg Collection.Outline.id heq', congrArg Collection.Outline.source heq'⟩

/-- Order is not a matter of the store and of the settings. -/
theorem Orderly.same_collections {b b' : Browser} (hb : b.Orderly)
    (h : b'.collections = b.collections) : b'.Orderly := by
  refine hb.same_outlines (congrArg (List.map Collection.outline) h.symm) ?_
  unfold Calm
  rw [h]
  exact hb.calm

theorem Advance.orderly {b b' : Browser} (h : b.Advance b') (hb : b.Orderly) : b'.Orderly :=
  hb.same_outlines h.same_outlines (h.calm hb.calm)

/-! ## 2. Growing -/

/-- What becomes of a browser while its data stay as they are. -/
structure Grows (b b' : Browser) : Prop where
  store : b.store.Alike b'.store
  orderly : b.Orderly → b'.Orderly
  inTune : b.Orderly → b.InTune → b'.InTune

theorem Grows.refl (b : Browser) : b.Grows b := ⟨Store.Alike.refl _, fun h => h, fun _ h => h⟩

theorem Grows.trans {a b c : Browser} (h : a.Grows b) (h' : b.Grows c) : a.Grows c where
  store := h.store.trans h'.store
  orderly := h'.orderly ∘ h.orderly
  inTune ha hin := h'.inTune (h.orderly ha) (h.inTune ha hin)

theorem frame_grows : Frame (Strictly Grows) := frame_strictly Grows.refl Grows.trans

/-- An action that leaves the settings alone is in a relation if its successes are. -/
theorem strictly_of_ok {α : Type} {S S' : Browser → Browser → Prop} {act : Action Browser α}
    (hact : Obeys (Strictly S) act)
    (h : ∀ {b b' x}, b.settings.errors ≠ .log → act b = (.ok x, b') → S' b b') :
    Obeys (Strictly S') act := by
  intro b
  refine ⟨(hact b).1, fun hok hstrict => ?_⟩
  cases hrun : act b with
  | mk outcome b' =>
    rw [hrun] at hok
    cases outcome with
    | ok x => exact h hstrict hrun
    | error failure => cases hok

/-- The action leaves the settings alone. -/
def Steady {α : Type} (act : Action Browser α) : Prop := Obeys (Strictly fun _ _ => True) act

theorem frame_steady : Frame (Strictly fun _ _ => True) :=
  frame_strictly (fun _ => trivial) fun _ _ => trivial

theorem steady_of_obeys {α : Type} {S : Browser → Browser → Prop} {act : Action Browser α}
    (h : Obeys (Strictly S) act) : Steady act := fun b => ⟨(h b).1, fun _ _ => trivial⟩

theorem steady_onCollection {α : Type} (place : Nat) (otherwise : α) (act : Action View α) :
    Steady (onCollection place otherwise act) := by
  intro b
  rw [onCollection_apply]
  split <;> exact ⟨rfl, fun _ _ => trivial⟩

section PutView

variable {b : Browser} {place : Nat} {c : Collection} {w : View}

theorem idAt_putView (hc : b.collections[place]? = some c) (hid : w.collection.id = c.id) (q : Nat) :
    (b.putView place w).idAt q = b.idAt q := by
  unfold idAt putView
  rw [List.getElem?_set]
  split
  · next heq =>
    subst heq
    rw [if_pos (List.getElem?_eq_some_iff.mp hc).1, hc, Option.map_some, Option.map_some, hid]
  · rfl

theorem baseAt_putView (hc : b.collections[place]? = some c)
    (hsource : w.collection.source = c.source) (q : Nat) :
    (b.putView place w).baseAt q = b.baseAt q := by
  unfold baseAt putView
  rw [List.getElem?_set]
  split
  · next heq =>
    subst heq
    rw [if_pos (List.getElem?_eq_some_iff.mp hc).1, hc, Option.bind_some, Option.bind_some,
      Collection.base?, Collection.base?, hsource]
  · rfl

theorem dependsOn_putView (hc : b.collections[place]? = some c) (hid : w.collection.id = c.id)
    (hsource : w.collection.source = c.source) {q on : Nat} :
    (b.putView place w).DependsOn q on ↔ b.DependsOn q on := by
  unfold DependsOn
  rw [idAt_putView hc hid, baseAt_putView hc hsource]

theorem mem_putView (hc : b.collections[place]? = some c) (hid : w.collection.id = c.id)
    (hsource : w.collection.source = c.source) {d : Collection} (hd : d ∈ b.collections) :
    ∃ d' ∈ (b.putView place w).collections, d'.id = d.id ∧ d'.source = d.source := by
  obtain ⟨q, hq⟩ := List.mem_iff_getElem?.mp hd
  have hlt : place < b.collections.length := (List.getElem?_eq_some_iff.mp hc).1
  by_cases heq : place = q
  · subst heq
    cases hc.symm.trans hq
    exact ⟨w.collection, List.mem_set hlt _, hid, hsource⟩
  · refine ⟨d, List.mem_of_getElem? (i := q) ?_, rfl, rfl⟩
    rw [putView, List.getElem?_set_ne heq, hq]

theorem ordered_putView (hb : b.Ordered) (hc : b.collections[place]? = some c)
    (hid : w.collection.id = c.id) (hsource : w.collection.source = c.source) :
    (b.putView place w).Ordered :=
  SameBases.ordered
    ⟨fun q => (idAt_putView hc hid q).symm, fun q => (baseAt_putView hc hsource q).symm⟩ hb

/-- A collection may be replaced by one whose facets that narrow it were there before. -/
theorem orderly_putView (hb : b.Orderly) (hc : b.collections[place]? = some c)
    (hid : w.collection.id = c.id) (hsource : w.collection.source = c.source)
    (hcalm : w.collection.updating = false) (hdistinct : (w.collection.facets.map Facet.id).Nodup)
    (hroles : ∀ r ∈ w.collection.facets.map Facet.role, r.2 ≠ none →
      r ∈ c.facets.map Facet.role) : (b.putView place w).Orderly where
  ordered := ordered_putView hb.ordered hc hid hsource
  calm := calm_putView hb.calm hcalm
  attached d hd := by
    have hsame := fun d (hd : d ∈ b.collections) => mem_putView hc hid hsource hd
    rcases List.mem_or_eq_of_mem_set hd with hd | rfl
    · exact (hb.attached d hd).congr rfl rfl hsame
    · refine ⟨hdistinct, fun r hr e he => ?_⟩
      have hr' := hroles r hr (by rw [he]; exact Option.some_ne_none e)
      obtain ⟨d, hd, hsource', hrid⟩ := (hb.attached c (List.mem_of_getElem? hc)).belongs r hr' e he
      obtain ⟨d', hd', hid', hsource''⟩ := hsame d hd
      exact ⟨d', hd', by rw [hsource'', hsource', hid], by rw [hrid, hid']⟩

/-- A collection has become what the view says, and that has been passed on if it had to be. -/
def Took (b : Browser) (place : Nat) (w : View) (passed : Bool) (b' : Browser) : Prop :=
  passed = true ∧ settle place (b.putView place w) = (.ok (), b') ∨
    passed = false ∧ b' = b.putView place w

/-- **A change to one collection** that leaves its root alone. If the restricted items may be others
    than before, it has been passed on. -/
theorem grows_putView {b' : Browser} {passed : Bool} (htook : b.Took place w passed b')
    (hc : b.collections[place]? = some c) (hstore : b.store.Alike w.store)
    (hid : w.collection.id = c.id) (hsource : w.collection.source = c.source)
    (hitems : w.collection.items = c.items) (hstrict : b.settings.errors ≠ .log)
    (horderly : b.Orderly → (b.putView place w).Orderly)
    (hline : View.InLine ⟨b.store, c⟩ → w.InLine)
    (hrestricted : passed = false → View.InLine ⟨b.store, c⟩ →
      w.collection.restricted = c.restricted) : b.Grows b' := by
  have hmem : c ∈ b.collections := List.mem_of_getElem? hc
  have hin (h : b.InTune) : (b.putView place w).AllInLine :=
    allInLine_putView hstore h.inLine (hline (h.inLine c hmem))
  rcases htook with ⟨-, hsettle⟩ | ⟨hfalse, rfl⟩
  · have hadvance := ((obeys_settle place).ok hsettle).2 rfl hstrict
    refine ⟨hstore.trans hadvance.store, fun hb => hadvance.orderly (horderly hb), fun hb h =>
      ⟨hadvance.inLine (hin h), ?_⟩⟩
    refine settle_roots hsettle hstrict (horderly hb).ordered fun q hq => ?_
    exact rootHolds_putView hc hstore hid hsource hitems
      (fun hon => absurd ((dependsOn_putView hc hid hsource).mpr hon) hq) (h.roots q)
  · refine ⟨hstore, horderly, fun hb h => ⟨hin h, fun q => ?_⟩⟩
    exact rootHolds_putView hc hstore hid hsource hitems
      (fun _ => hrestricted hfalse (h.inLine c hmem)) (h.roots q)

end PutView

end Browser

end Faceted
