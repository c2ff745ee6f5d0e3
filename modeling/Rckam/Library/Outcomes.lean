import Mathlib.Tactic.Common

/-! Computations that change a state and may throw: what holds of the result and the state when
such a computation ends, and of the state that it leaves when it throws. -/
namespace Outcomes

variable {ε σ α β : Type} {x : EStateM ε σ α} {s t : σ} {v : α} {e : ε} {Q Q' : α → σ → Prop}
  {E E' : ε → σ → Prop}

/-- From `s` the computation ends as `Q` says, or it throws as `E` says. -/
def Ends (x : EStateM ε σ α) (s : σ) (Q : α → σ → Prop) (E : ε → σ → Prop) : Prop :=
  match x.run s with
  | .ok v t => Q v t
  | .error e t => E e t

/-- What the computation returns, unless it throws, and the state that it leaves. -/
def outcome (x : EStateM ε σ α) (s : σ) : Option α × σ :=
  match x.run s with
  | .ok v t => (some v, t)
  | .error _ t => (none, t)

/-- How a computation ends says what its outcome is like. -/
theorem Ends.outcome {P : Option α × σ → Prop}
    (h : Ends x s (fun v t => P (some v, t)) fun _ t => P (none, t)) : P (outcome x s) := by
  unfold Ends at h
  unfold Outcomes.outcome
  cases hrun : x.run s with
  | ok v t => rwa [hrun] at h
  | error e t => rwa [hrun] at h

theorem Ends.ok (h : Ends x s Q E) (hrun : x.run s = .ok v t) : Q v t := by
  unfold Ends at h
  rwa [hrun] at h

theorem Ends.error (h : Ends x s Q E) (hrun : x.run s = .error e t) : E e t := by
  unfold Ends at h
  rwa [hrun] at h

/-- How it ends is how it runs. -/
theorem Ends.run (h : Ends x s Q E) :
    Ends x s (fun v t => x.run s = .ok v t ∧ Q v t) fun e t => x.run s = .error e t ∧ E e t := by
  unfold Ends at h ⊢
  cases hrun : x.run s with
  | ok v t =>
    rw [hrun] at h
    exact ⟨rfl, h⟩
  | error e t =>
    rw [hrun] at h
    exact ⟨rfl, h⟩

theorem Ends.mono (h : Ends x s Q E) (hQ : ∀ v t, Q v t → Q' v t) (hE : ∀ e t, E e t → E' e t) :
    Ends x s Q' E' := by
  unfold Ends at h ⊢
  cases hrun : x.run s with
  | ok v t =>
    rw [hrun] at h
    exact hQ v t h
  | error e t =>
    rw [hrun] at h
    exact hE e t h

/-- One computation after the other. -/
theorem Ends.bind {f : α → EStateM ε σ β} {P : β → σ → Prop} (h : Ends x s Q E)
    (hf : ∀ v t, Q v t → Ends (f v) t P E) : Ends (x >>= f) s P E := by
  unfold Ends at h ⊢
  rw [EStateM.run_bind]
  cases hrun : x.run s with
  | ok v t =>
    rw [hrun] at h
    exact hf v t h
  | error e t =>
    rw [hrun] at h
    exact h

/-- A loop over a list. `P` says what holds when a part of the list is still to come. -/
theorem ends_forM {f : α → EStateM ε σ PUnit} {P : List α → σ → Prop}
    (hstep : ∀ a rest s, P (a :: rest) s → Ends (f a) s (fun _ t => P rest t) E) (l : List α)
    (h : P l s) : Ends (l.forM f) s (fun _ t => P [] t) E := by
  induction l generalizing s with
  | nil => exact h
  | cons a rest ih =>
    apply (hstep a rest s h).bind
    intro _ t ht
    exact ih ht

theorem ends_any (x : EStateM ε σ α) (s : σ) : Ends x s (fun _ _ => True) fun _ _ => True := by
  unfold Ends
  cases x.run s <;> trivial

theorem ends_pure (h : Q v s) : Ends (pure v) s Q E := h

theorem ends_throw (h : E e s) : Ends (throw e : EStateM ε σ α) s Q E := h

theorem ends_get {Q : σ → σ → Prop} (h : Q s s) : Ends (get : EStateM ε σ σ) s Q E := h

theorem ends_modify {Q : PUnit → σ → Prop} {f : σ → σ} (h : Q ⟨⟩ (f s)) :
    Ends (modify f : EStateM ε σ PUnit) s Q E := h

/-- What has been read of the state is the state. -/
theorem ends_get_bind {f : σ → EStateM ε σ β} {P : β → σ → Prop} (h : Ends (f s) s P E) :
    Ends (get >>= f) s P E := h

theorem ends_modify_bind {f : σ → σ} {g : PUnit → EStateM ε σ β} {P : β → σ → Prop}
    (h : Ends (g ⟨⟩) (f s) P E) : Ends (modify f >>= g) s P E := h

/-- A check that throws. -/
theorem ends_check {c : Prop} [Decidable c] {k : α → EStateM ε σ β} {y : EStateM ε σ β}
    {P : β → σ → Prop} (hthrow : c → E e s) (hy : ¬ c → Ends y s P E) :
    Ends (if c then throw e >>= k else y) s P E := by
  by_cases h : c
  · rw [if_pos h]
    exact hthrow h
  · rw [if_neg h]
    exact hy h

/-- A check at the end. -/
theorem ends_check_last {c : Prop} [Decidable c] (hthrow : c → E e s) (hpure : ¬ c → Q v s) :
    Ends (if c then throw e else pure v) s Q E := by
  by_cases h : c
  · rw [if_pos h]
    exact hthrow h
  · rw [if_neg h]
    exact hpure h

/-! ### What a computation leaves as it is -/

variable {ω : Type} {view : σ → ω}

/-- What `view` shows of the state stays the same, also when the computation throws. -/
def Keeps (view : σ → ω) (x : EStateM ε σ α) : Prop :=
  ∀ s, Ends x s (fun _ t => view t = view s) fun _ t => view t = view s

theorem Keeps.bind {f : α → EStateM ε σ β} (h : Keeps view x) (hf : ∀ v, Keeps view (f v)) :
    Keeps view (x >>= f) := by
  intro s
  apply (h s).bind
  intro v t ht
  have hnext := hf v t
  rwa [ht] at hnext

theorem keeps_pure (v : α) : Keeps view (pure v : EStateM ε σ α) := fun _ => ends_pure rfl

theorem keeps_get : Keeps view (get : EStateM ε σ σ) := fun _ => ends_get rfl

theorem keeps_modify {f : σ → σ} (h : ∀ s, view (f s) = view s) :
    Keeps view (modify f : EStateM ε σ PUnit) := fun s => ends_modify (h s)

theorem keeps_check {c : Prop} [Decidable c] {k : α → EStateM ε σ β} {y : EStateM ε σ β}
    (hy : Keeps view y) : Keeps view (if c then throw e >>= k else y) :=
  fun s => ends_check (fun _ => rfl) fun _ => hy s

/-! ### What a computation preserves -/

variable {I : σ → Prop}

/-- What holds of the state still holds when the computation ends or throws. -/
def Preserves (I : σ → Prop) (x : EStateM ε σ α) : Prop :=
  ∀ s, I s → Ends x s (fun _ t => I t) fun _ t => I t

theorem Preserves.bind {f : α → EStateM ε σ β} (h : Preserves I x) (hf : ∀ v, Preserves I (f v)) :
    Preserves I (x >>= f) := by
  intro s hs
  apply (h s hs).bind
  intro v t ht
  exact hf v t ht

/-- What is computed first also says something about its result. -/
theorem preserves_bind_of {f : α → EStateM ε σ β} {R : α → Prop}
    (h : ∀ s, I s → Ends x s (fun v t => R v ∧ I t) fun _ t => I t)
    (hf : ∀ v, R v → Preserves I (f v)) : Preserves I (x >>= f) := by
  intro s hs
  apply (h s hs).bind
  intro v t ht
  exact hf v ht.1 t ht.2

theorem preserves_pure (v : α) : Preserves I (pure v : EStateM ε σ α) := fun _ h => ends_pure h

theorem preserves_throw (e : ε) : Preserves I (throw e : EStateM ε σ α) := fun _ h => ends_throw h

theorem preserves_check {c : Prop} [Decidable c] {k : α → EStateM ε σ β} {y : EStateM ε σ β}
    (hy : Preserves I y) : Preserves I (if c then throw e >>= k else y) :=
  fun s hs => ends_check (fun _ => hs) fun _ => hy s hs

theorem preserves_forM {f : α → EStateM ε σ PUnit} {l : List α}
    (h : ∀ a ∈ l, Preserves I (f a)) : Preserves I (l.forM f) := by
  induction l with
  | nil => exact preserves_pure _
  | cons a l ih =>
    apply (h a List.mem_cons_self).bind
    intro _
    exact ih fun b hb => h b (List.mem_cons_of_mem a hb)

theorem Preserves.ite {c : Prop} [Decidable c] {y : EStateM ε σ α} (hx : Preserves I x)
    (hy : Preserves I y) : Preserves I (if c then x else y) := by
  by_cases h : c <;> simpa [h]

/-! ### What a computation throws -/

variable {T : ε → Prop}

/-- Whatever the computation throws satisfies `T`. -/
def Throws (T : ε → Prop) (x : EStateM ε σ α) : Prop :=
  ∀ s, Ends x s (fun _ _ => True) fun e _ => T e

theorem Throws.bind {f : α → EStateM ε σ β} (h : Throws T x) (hf : ∀ v, Throws T (f v)) :
    Throws T (x >>= f) := by
  intro s
  apply (h s).bind
  intro v t _
  exact hf v t

theorem throws_pure (v : α) : Throws T (pure v : EStateM ε σ α) := fun _ => trivial

theorem throws_throw (h : T e) : Throws T (throw e : EStateM ε σ α) := fun _ => h

theorem throws_get : Throws T (get : EStateM ε σ σ) := fun _ => trivial

theorem throws_modify (f : σ → σ) : Throws T (modify f : EStateM ε σ PUnit) := fun _ => trivial

theorem Throws.ite {c : Prop} [Decidable c] {y : EStateM ε σ α} (hx : Throws T x)
    (hy : Throws T y) : Throws T (if c then x else y) := by
  by_cases h : c <;> simpa [h]

theorem throws_check {c : Prop} [Decidable c] {k : α → EStateM ε σ β} {y : EStateM ε σ β}
    (he : T e) (hy : Throws T y) : Throws T (if c then throw e >>= k else y) :=
  fun s => ends_check (fun _ => he) fun _ => hy s

end Outcomes
