import Mathlib.Data.List.Forall2

/-! Loops that convert the elements of a list and append what they get, unless a conversion
fails. -/
namespace Appending

variable {ε α β : Type*} {f : α → Except ε β} {P R : α → β → Prop} {l : List α}

/-- The loop, behind what has been appended before. -/
def appendAll (f : α → Except ε β) (before : List β) (l : List α) : Except ε (List β) :=
  l.foldlM (fun copied a => do return copied ++ [← f a]) before

theorem appendAll_cons (before : List β) (a : α) (l : List α) :
    appendAll f before (a :: l) = f a >>= fun b => appendAll f (before ++ [b]) l := by
  unfold appendAll
  rw [List.foldlM_cons]
  cases f a <;> rfl

/-- The loop ends with one result for each element, in their order. -/
theorem appendAll_ok_iff (before after : List β) :
    appendAll f before l = .ok after ↔
      ∃ results, List.Forall₂ (fun a b => f a = .ok b) l results ∧ after = before ++ results := by
  induction l generalizing before with
  | nil =>
    constructor
    · intro h
      cases h
      exact ⟨[], .nil, (List.append_nil _).symm⟩
    · rintro ⟨_, ⟨⟩, rfl⟩
      rw [List.append_nil]
      rfl
  | cons a l ih =>
    rw [appendAll_cons]
    cases hfirst : f a with
    | error e =>
      constructor
      · nofun
      · rintro ⟨_, hresults, -⟩
        cases hresults with
        | cons hok _ => cases hfirst.symm.trans hok
    | ok b =>
      show appendAll f (before ++ [b]) l = .ok after ↔ _
      rw [ih]
      constructor
      · rintro ⟨results, hresults, rfl⟩
        exact ⟨b :: results, .cons hfirst hresults, by simp⟩
      · rintro ⟨_, hresults, rfl⟩
        cases hresults with
        | cons hok hrest =>
          cases hfirst.symm.trans hok
          exact ⟨_, hrest, by simp⟩

/-- Conversions that cannot fail. -/
theorem appendAll_map (g : α → β) (before : List β) (l : List α) :
    appendAll (fun a => (.ok (g a) : Except ε β)) before l = .ok (before ++ l.map g) := by
  rw [appendAll_ok_iff]
  refine ⟨l.map g, ?_, rfl⟩
  rw [List.forall₂_map_right_iff, List.forall₂_same]
  exact fun _ _ => rfl

/-- A list with related elements is found element by element. -/
theorem exists_forall₂_iff : (∃ l', List.Forall₂ P l l') ↔ ∀ a ∈ l, ∃ b, P a b := by
  induction l with
  | nil => simp
  | cons a l ih =>
    rw [List.forall_mem_cons, ← ih]
    constructor
    · rintro ⟨_, _ | ⟨hfirst, hrest⟩⟩
      exact ⟨⟨_, hfirst⟩, _, hrest⟩
    · rintro ⟨⟨b, hfirst⟩, results, hrest⟩
      exact ⟨b :: results, .cons hfirst hrest⟩

theorem forall₂_both {l' : List β} (h : List.Forall₂ P l l') (h' : List.Forall₂ R l l') :
    List.Forall₂ (fun a b => P a b ∧ R a b) l l' := by
  induction h with
  | nil => exact .nil
  | cons hfirst _ ih =>
    cases h' with
    | cons hfirst' hrest' => exact .cons ⟨hfirst, hfirst'⟩ (ih hrest')

/-- The results are related to the elements as they should be exactly when every conversion
succeeds with such a result. -/
theorem appendAll_related_iff :
    (∃ results, appendAll f [] l = .ok results ∧ List.Forall₂ R l results) ↔
      ∀ a ∈ l, ∃ b, f a = .ok b ∧ R a b := by
  rw [← exists_forall₂_iff]
  constructor
  · rintro ⟨results, hloop, hrelated⟩
    obtain ⟨_, hresults, rfl⟩ := (appendAll_ok_iff [] results).mp hloop
    exact ⟨_, forall₂_both hresults hrelated⟩
  · rintro ⟨results, hboth⟩
    have hok : List.Forall₂ (fun a b => f a = .ok b) l results := hboth.imp fun _ _ h => h.1
    exact ⟨results, (appendAll_ok_iff [] results).mpr ⟨results, hok, rfl⟩,
      hboth.imp fun _ _ h => h.2⟩

end Appending
