import Mathlib.Data.List.Basic

/-! A part of a system that is driven by its own inputs: what a run leaves of it is what these
inputs make of it, whatever happens to the rest of the system meanwhile, as long as every input is
one that the system is allowed to get. -/
namespace Views

variable {σ ι ω κ : Type*}

/-- From a valid state the system takes the steps that are allowed and no others, and of the part
that `view` shows a step changes what `act` makes of the part's own input, if the step has one. -/
structure Separate (step : σ → ι → Option σ) (Valid : σ → Prop) (Allowed : σ → ι → Prop)
    (view : σ → ω) (part : ι → Option κ) (act : ω → κ → ω) : Prop where
  takes : ∀ s i, Valid s → Allowed s i → ∃ t, step s i = some t ∧ Valid t ∧
    view t = (part i).elim (view s) (act (view s))
  refuses : ∀ s i, Valid s → ¬ Allowed s i → step s i = none

/-- Every input of a run is allowed in the state in which it comes. -/
def AllAllowed (step : σ → ι → Option σ) (Allowed : σ → ι → Prop) : σ → List ι → Prop
  | _, [] => True
  | s, i :: inputs => Allowed s i ∧ ∀ t, step s i = some t → AllAllowed step Allowed t inputs

variable {step step' : σ → ι → Option σ} {Valid : σ → Prop} {Allowed : σ → ι → Prop} {view : σ → ω}
  {part : ι → Option κ} {act : ω → κ → ω} {s : σ}

/-- A run leaves what the part's own inputs make of it. -/
theorem Separate.run (h : Separate step Valid Allowed view part act) (hs : Valid s)
    {inputs : List ι} (hallowed : AllAllowed step Allowed s inputs) :
    ∃ t, inputs.foldlM step s = some t ∧ Valid t ∧
      view t = (inputs.filterMap part).foldl act (view s) := by
  induction inputs generalizing s with
  | nil => exact ⟨s, rfl, hs, rfl⟩
  | cons i inputs ih =>
    obtain ⟨t, hstep, ht, hview⟩ := h.takes s i hs hallowed.1
    obtain ⟨u, hrun, hu, hview'⟩ := ih ht (hallowed.2 t hstep)
    refine ⟨u, ?_, hu, ?_⟩
    · simp [hstep, hrun]
    · rw [hview', hview]
      cases hpart : part i with
      | none => simp [hpart]
      | some j => simp [hpart]

/-- A run that comes to its end has been allowed. -/
theorem Separate.allowed (h : Separate step Valid Allowed view part act) (hs : Valid s)
    {inputs : List ι} {u : σ} (hrun : inputs.foldlM step s = some u) :
    AllAllowed step Allowed s inputs := by
  induction inputs generalizing s with
  | nil => trivial
  | cons i inputs ih =>
    have hi : Allowed s i := by
      by_contra hnot
      rw [List.foldlM_cons, h.refuses s i hs hnot] at hrun
      cases hrun
    refine ⟨hi, fun t hstep => ?_⟩
    obtain ⟨t', hstep', ht, -⟩ := h.takes s i hs hi
    cases hstep.symm.trans hstep'
    rw [List.foldlM_cons, hstep] at hrun
    exact ih ht hrun

/-- Two runs with the same inputs for a part leave the same of it exactly when both are allowed. -/
theorem Separate.agree_iff (h : Separate step Valid Allowed view part act)
    (h' : Separate step' Valid Allowed view part act) (hs : Valid s) {inputs inputs' : List ι}
    (hsame : inputs.filterMap part = inputs'.filterMap part) :
    (∃ t t', inputs.foldlM step s = some t ∧ inputs'.foldlM step' s = some t' ∧
        view t = view t') ↔
      AllAllowed step Allowed s inputs ∧ AllAllowed step' Allowed s inputs' := by
  constructor
  · rintro ⟨t, t', hrun, hrun', -⟩
    exact ⟨h.allowed hs hrun, h'.allowed hs hrun'⟩
  · rintro ⟨hallowed, hallowed'⟩
    obtain ⟨t, hrun, -, hview⟩ := h.run hs hallowed
    obtain ⟨t', hrun', -, hview'⟩ := h'.run hs hallowed'
    refine ⟨t, t', hrun, hrun', ?_⟩
    rw [hview, hview', hsame]

end Views
