import Faceted.Proofs.Collection.Restoring

/-!
# States that fit

A facet takes over a state if it is of its shape, and otherwise says that it cannot. The facets of a
collection are given their states one after the other; the first that cannot take its own stays as it
is, and so do those after it.

* `Facet.takes`: is the state of the shape of the facet? **`Facet.importState_fits`**: that decides
  whether it can be taken over;
* `FirstMisfit`: the first facet whose state does not fit;
* `actEach_importing`: facets take over states up to the first misfit;
* **`View.restoreFacets_fits`**: so does a collection.
-/

namespace Faceted

/-! ## 1. One facet -/

namespace Facet

/-- Is the state of the shape that the states of the facet have? -/
def takes (f : Facet) (state : FacetState) : Bool := state.shape == f.emptyState.shape

theorem emptyState_plain (f : Facet) : f.plain.emptyState = f.emptyState := by
  cases f <;> rfl

theorem SetUpAlike.emptyState {f g : Facet} (h : f.SetUpAlike g) : f.emptyState = g.emptyState := by
  rw [← f.emptyState_plain, h, g.emptyState_plain]

theorem SetUpAlike.takes {f g : Facet} (h : f.SetUpAlike g) (state : FacetState) :
    f.takes state = g.takes state := by
  rw [Facet.takes, Facet.takes, h.emptyState]

/-- A state of the right shape can be applied; one of another shape cannot, and it differs from
    whatever is selected. -/
theorem apply_fits (f : Facet) (state : FacetState) :
    f.takes state = true ∧ (∃ g, f.apply state = .ok g) ∨
      f.takes state = false ∧ f.differs state = true ∧ state.same f.emptyState = false ∧
        f.apply state = .error (.data (.stateMismatch f.id state.describe)) := by
  cases f <;> cases state <;>
    first | exact .inl ⟨rfl, _, rfl⟩ | exact .inr ⟨rfl, rfl, rfl, rfl⟩

/-- **A facet takes over a state exactly if it fits**; if it does not, the failure names the facet and
    the state. -/
theorem importState_fits (f : Facet) (state : FacetState) :
    f.takes state = true ∧ (∃ changed g, f.importState state = .ok (changed, g)) ∨
      f.takes state = false ∧
        f.importState state = .error (.data (.stateMismatch f.id state.describe)) := by
  unfold importState
  rcases f.apply_fits state with ⟨htakes, g, happly⟩ | ⟨hnot, hdiffers, hother, happly⟩
  · refine .inl ⟨htakes, ?_⟩
    split
    · exact ⟨false, f, rfl⟩
    · split
      · exact ⟨true, f.clear.2, rfl⟩
      · exact ⟨true, g, by rw [happly]; rfl⟩
  · refine .inr ⟨hnot, ?_⟩
    rw [hdiffers, hother, happly]
    rfl

end Facet

theorem BrowserState.target_congr (s : BrowserState) (collection : String) {f g : Facet}
    (h : f.SetUpAlike g) : s.target collection f = s.target collection g := by
  unfold target
  rw [h.id, h.emptyState]

/-! ## 2. Facets one after the other -/

/-- The facet at the place is the first one that its state does not fit. -/
structure FirstMisfit (target : Facet → FacetState) (fs : List Facet) (k : Nat) (f : Facet) :
    Prop where
  facet : fs[k]? = some f
  misfits : f.takes (target f) = false
  before : ∀ g ∈ fs.take k, g.takes (target g) = true

section Misfits

variable {target : Facet → FacetState} {fs gs : List Facet} {k : Nat} {f : Facet}

theorem FirstMisfit.cons (h : FirstMisfit target fs k f) {g : Facet} (hg : g.takes (target g) = true) :
    FirstMisfit target (g :: fs) (k + 1) f where
  facet := h.facet
  misfits := h.misfits
  before := by
    rw [List.take_succ_cons]
    exact List.forall_mem_cons.mpr ⟨hg, h.before⟩

/-- Facets that were set up alike are misfits alike. -/
theorem FirstMisfit.congr (h : FirstMisfit target fs k f)
    (halike : List.Forall₂ Facet.SetUpAlike fs gs)
    (htarget : ∀ {f g : Facet}, f.SetUpAlike g → target f = target g) :
    ∃ g, f.SetUpAlike g ∧ FirstMisfit target gs k g := by
  obtain ⟨g, hg, hfg⟩ := forall₂_getElem? halike h.facet
  refine ⟨g, hfg, hg, ?_, fun g' hg' => ?_⟩
  · rw [← htarget hfg, ← hfg.takes]
    exact h.misfits
  · obtain ⟨f', hf', hgf'⟩ := forall₂_mem (List.forall₂_take k halike).flip hg'
    have hfg' : f'.SetUpAlike g' := hgf'
    rw [← htarget hfg', ← hfg'.takes]
    exact h.before f' hf'

/-- **Facets take over states one after the other**: all of them, or those before the first misfit. -/
theorem actEach_importing (target : Facet → FacetState) (scene : Scene) (fs : List Facet) :
    (∀ f ∈ fs, f.takes (target f) = true) ∧
        (∃ answers restored, actEach (importing target) scene fs = (.ok answers, restored)) ∨
      ∃ k f restored, FirstMisfit target fs k f ∧ restored.drop k = fs.drop k ∧
        actEach (importing target) scene fs =
          (.error (.data (.stateMismatch f.id (target f).describe)), restored) := by
  induction fs with
  | nil => exact .inl ⟨fun f hf => (nomatch hf), [], [], rfl⟩
  | cons f fs ih =>
    rcases f.importState_fits (target f) with ⟨htakes, changed, g, himport⟩ | ⟨hnot, himport⟩
    · have hfirst : importing target f scene = (.ok changed, g) := by
        rw [importing, himport]
        rfl
      rcases ih with ⟨hall, answers, restored, hrest⟩ | ⟨k, f', restored, hmisfit, hdrop, hrest⟩
      · refine .inl ⟨List.forall_mem_cons.mpr ⟨htakes, hall⟩, changed :: answers, g :: restored, ?_⟩
        rw [actEach_of_ok hfirst, hrest]
        rfl
      · refine .inr ⟨k + 1, f', g :: restored, hmisfit.cons htakes, hdrop, ?_⟩
        rw [actEach_of_ok hfirst, hrest]
        rfl
    · refine .inr ⟨0, f, f :: fs, ⟨rfl, hnot, fun g hg => (nomatch hg)⟩, rfl, ?_⟩
      refine actEach_of_error ?_
      rw [importing, himport]
      rfl

end Misfits

/-! ## 3. One collection -/

/-- **A collection takes over states** if they all fit. If not, the failure is that of the first misfit,
    and from there on the facets are as they were, but for what they keep and show. -/
theorem View.restoreFacets_fits {v : View} (s : BrowserState) (hworks : v.Works) (hv : v.InLine)
    (huser : ∀ f ∈ v.collection.facets, f.isForUser = true)
    (hdistinct : (v.collection.facets.map Facet.id).Nodup) :
    (∀ f ∈ v.collection.facets, f.takes (s.target v.collection.id f) = true) ∧
        (∃ changed w, Browser.restoreFacets s v = (.ok changed, w)) ∨
      ∃ k f w, FirstMisfit (s.target v.collection.id) v.collection.facets k f ∧
        Browser.restoreFacets s v =
          (.error (.data (.stateMismatch f.id (s.target v.collection.id f).describe)), w) ∧
        List.Forall₂ Facet.SameBare (v.collection.facets.drop k) (w.collection.facets.drop k) := by
  rcases actEach_importing (s.target v.collection.id) v.scene v.collection.facets with
    ⟨hall, answers, restored, hact⟩ | ⟨k, f, restored, hmisfit, hdrop, hact⟩
  · obtain ⟨w, hrun, -⟩ := restoreFacets_apply s hworks hv huser hdistinct hact
    exact .inl ⟨hall, answers.any id, w, hrun⟩
  · obtain ⟨w, hrun, hbare⟩ := restoreFacets_apply s hworks hv huser hdistinct hact
    exact .inr ⟨k, f, w, hmisfit, hrun, hdrop ▸ List.forall₂_drop k hbare⟩

end Faceted
