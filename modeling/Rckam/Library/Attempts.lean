import Mathlib.Tactic.Common

/-! Computations that make numbered calls, any of which may be refused: such a computation makes
all its calls, or it throws at the first that is refused. -/
namespace Attempts

/-- What holds below `m` and of the next `n` numbers. -/
theorem forall_lt_add {P : ℕ → Prop} {m n : ℕ} (h : ∀ j < m, P j) (hnext : ∀ j < n, P (m + j)) :
    ∀ j < m + n, P j := by
  intro j hj
  by_cases hlt : j < m
  · exact h j hlt
  · have hj' := hnext (j - m) (by omega)
    rwa [Nat.add_sub_cancel' (Nat.le_of_not_lt hlt)] at hj'

section Rules
variable {ε σ α β : Type} {made : σ → ℕ} {Refused : ℕ → Prop} {s : σ} {m n : ℕ}
  {Q Q' : α → σ → Prop} {E E' : ℕ → ε → σ → Prop}

/-- From `s` the computation makes `n` calls and ends as `Q` says, or it throws at the first of
them that is refused, as `E` says. -/
def Attempt (made : σ → ℕ) (Refused : ℕ → Prop) (a : EStateM ε σ α) (s : σ) (n : ℕ)
    (Q : α → σ → Prop) (E : ℕ → ε → σ → Prop) : Prop :=
  match a.run s with
  | .ok v t => made t = made s + n ∧ (∀ j < n, ¬ Refused (made s + j)) ∧ Q v t
  | .error e t => ∃ j < n, Refused (made s + j) ∧ (∀ i < j, ¬ Refused (made s + i)) ∧
      E (made s + j) e t

theorem attempt_ok {a : EStateM ε σ α} {v : α} {t : σ} (hrun : a.run s = .ok v t)
    (hmade : made t = made s + n) (haccepted : ∀ j < n, ¬ Refused (made s + j)) (hQ : Q v t) :
    Attempt made Refused a s n Q E := by
  unfold Attempt
  rw [hrun]
  exact ⟨hmade, haccepted, hQ⟩

theorem attempt_error {a : EStateM ε σ α} {e : ε} {t : σ} {j : ℕ} (hrun : a.run s = .error e t)
    (hj : j < n) (hrefused : Refused (made s + j)) (hbefore : ∀ i < j, ¬ Refused (made s + i))
    (hE : E (made s + j) e t) : Attempt made Refused a s n Q E := by
  unfold Attempt
  rw [hrun]
  exact ⟨j, hj, hrefused, hbefore, hE⟩

/-- The two ways in which it ends. -/
theorem Attempt.cases {a : EStateM ε σ α} (h : Attempt made Refused a s n Q E) :
    (∃ v t, a.run s = .ok v t ∧ made t = made s + n ∧ (∀ j < n, ¬ Refused (made s + j)) ∧
      Q v t) ∨
    ∃ e t j, a.run s = .error e t ∧ j < n ∧ Refused (made s + j) ∧
      (∀ i < j, ¬ Refused (made s + i)) ∧ E (made s + j) e t := by
  unfold Attempt at h
  cases hrun : a.run s with
  | ok v t =>
    rw [hrun] at h
    exact Or.inl ⟨v, t, rfl, h⟩
  | error e t =>
    rw [hrun] at h
    obtain ⟨j, h⟩ := h
    exact Or.inr ⟨e, t, j, rfl, h⟩

/-- Nothing is refused, so nothing is thrown. -/
theorem Attempt.ok {a : EStateM ε σ α} (h : Attempt made Refused a s n Q E)
    (haccepted : ∀ k, ¬ Refused k) : ∃ v t, a.run s = .ok v t ∧ Q v t := by
  rcases h.cases with ⟨v, t, hrun, -, -, hQ⟩ | ⟨e, t, j, -, -, hrefused, -⟩
  · exact ⟨v, t, hrun, hQ⟩
  · exact absurd hrefused (haccepted _)

theorem Attempt.mono {a : EStateM ε σ α} (h : Attempt made Refused a s n Q E)
    (hQ : ∀ v t, Q v t → Q' v t)
    (hE : ∀ j < n, ∀ e t, E (made s + j) e t → E' (made s + j) e t) :
    Attempt made Refused a s n Q' E' := by
  rcases h.cases with ⟨v, t, hrun, hmade, haccepted, h⟩ | ⟨e, t, j, hrun, hj, hrefused, hbefore, h⟩
  · exact attempt_ok hrun hmade haccepted (hQ v t h)
  · exact attempt_error hrun hj hrefused hbefore (hE j hj e t h)

/-- One computation after the other. -/
theorem Attempt.bind {a : EStateM ε σ α} {f : α → EStateM ε σ β} {P : β → σ → Prop}
    (h : Attempt made Refused a s n Q E) (n' : ℕ) (hm : n + n' = m)
    (hf : ∀ v t, made t = made s + n → Q v t → Attempt made Refused (f v) t n' P E) :
    Attempt made Refused (a >>= f) s m P E := by
  subst hm
  rcases h.cases with ⟨v, t, hrun, hmade, haccepted, hQ⟩ |
    ⟨e, t, j, hrun, hj, hrefused, hbefore, hE⟩
  · have hbind : (a >>= f).run s = (f v).run t := by rw [EStateM.run_bind, hrun]
    have hbefore : ∀ {j}, (∀ i < j, ¬ Refused (made t + i)) →
        ∀ i < n + j, ¬ Refused (made s + i) := by
      intro j hj
      apply forall_lt_add haccepted
      intro i hi
      rw [← Nat.add_assoc, ← hmade]
      exact hj i hi
    rcases (hf v t hmade hQ).cases with ⟨w, u, hrun', hmade', haccepted', hP⟩ |
      ⟨e, u, j, hrun', hj, hrefused, hbefore', hE⟩
    · exact attempt_ok (hbind.trans hrun') (by omega) (hbefore haccepted') hP
    · rw [hmade, Nat.add_assoc] at hrefused hE
      exact attempt_error (hbind.trans hrun') (by omega) hrefused (hbefore hbefore') hE
  · have hbind : (a >>= f).run s = .error e t := by rw [EStateM.run_bind, hrun]
    exact attempt_error hbind (by omega) hrefused hbefore hE

/-- What makes no call. -/
theorem attempt_pure {v : α} (hQ : Q v s) : Attempt made Refused (pure v) s 0 Q E :=
  attempt_ok rfl rfl (fun _ hj => absurd hj (Nat.not_lt_zero _)) hQ

end Rules

end Attempts
