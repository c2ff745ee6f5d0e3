import Rckam.Library.Outcomes

/-! Computations whose state carries a record that they make but do not look at, and what they are
without it. -/
namespace Erasure
open Outcomes

variable {ε σ τ η α β : Type} {erase : σ → τ} {x x' : EStateM ε σ α} {y y' : EStateM ε τ α}

/-- Without what `erase` takes from the state, `x` runs as `y`. -/
def Erases (erase : σ → τ) (x : EStateM ε σ α) (y : EStateM ε τ α) : Prop :=
  ∀ s, Ends x s (fun v t => y.run (erase s) = .ok v (erase t))
    fun e t => y.run (erase s) = .error e (erase t)

theorem Erases.outcome (h : Erases erase x y) (s : σ) :
    outcome y (erase s) = ((outcome x s).1, erase (outcome x s).2) := by
  have hends := h s
  unfold Ends at hends
  unfold Outcomes.outcome
  cases hrun : x.run s with
  | ok v t =>
    rw [hrun] at hends
    rw [hends]
  | error e t =>
    rw [hrun] at hends
    rw [hends]

theorem Erases.bind {f : α → EStateM ε σ β} {g : α → EStateM ε τ β} (h : Erases erase x y)
    (hf : ∀ v, Erases erase (f v) (g v)) : Erases erase (x >>= f) (y >>= g) := by
  intro s
  have hends : Ends x s (fun v t => (y >>= g).run (erase s) = (g v).run (erase t))
      fun e t => (y >>= g).run (erase s) = .error e (erase t) := by
    apply (h s).mono
    · intro v t hrun
      rw [EStateM.run_bind, hrun]
    · intro e t hrun
      rw [EStateM.run_bind, hrun]
  apply hends.bind
  intro v t hrun
  rw [hrun]
  exact hf v t

theorem erases_pure (v : α) : Erases erase (pure v : EStateM ε σ α) (pure v) := fun _ => rfl

theorem erases_throw (e : ε) : Erases erase (throw e : EStateM ε σ α) (throw e) := fun _ => rfl

/-- A computation that begins with a look at the state. -/
theorem erases_get {f : σ → EStateM ε σ α} {g : τ → EStateM ε τ α}
    (h : ∀ s, Erases erase (f s) (g (erase s))) : Erases erase (get >>= f) (get >>= g) :=
  fun s => h s s

theorem erases_modify {f : σ → σ} {g : τ → τ} (h : ∀ s, erase (f s) = g (erase s)) :
    Erases erase (modify f : EStateM ε σ PUnit) (modify g) := by
  intro s
  show EStateM.Result.ok PUnit.unit (g (erase s)) = _
  rw [← h s]

theorem Erases.ite {c c' : Prop} [Decidable c] [Decidable c'] (hc : c ↔ c')
    (hx : Erases erase x y) (hx' : Erases erase x' y') :
    Erases erase (if c then x else x') (if c' then y else y') := by
  by_cases h : c
  · rw [if_pos h, if_pos (hc.mp h)]
    exact hx
  · rw [if_neg h, if_neg (mt hc.mpr h)]
    exact hx'

/-- A check that throws. -/
theorem erases_check {c : Prop} [Decidable c] {e : ε} {f : β → EStateM ε σ α}
    {g : β → EStateM ε τ α} (h : Erases erase x y) :
    Erases erase (if c then throw e >>= f else x) (if c then throw e >>= g else y) :=
  Erases.ite Iff.rfl (fun _ => rfl) h

/-! ### Events -/

/-- A state with the events so far. -/
structure Logged (σ η : Type) where
  state : σ
  events : List η

def note (e : η) : EStateM ε (Logged σ η) Unit :=
  modify fun s => { s with events := s.events ++ [e] }

/-- A computation without events. -/
def silently (x : EStateM ε σ α) : EStateM ε (Logged σ η) α := fun s =>
  match x.run s.state with
  | .ok v t => .ok v { s with state := t }
  | .error e t => .error e { s with state := t }

/-- A computation with an event at its end, also when it throws. -/
def ending (x : EStateM ε (Logged σ η) α) (e : η) : EStateM ε (Logged σ η) α := fun s =>
  match x.run s with
  | .ok v t => .ok v { t with events := t.events ++ [e] }
  | .error d t => .error d { t with events := t.events ++ [e] }

section Events
variable {z : EStateM ε (Logged σ η) α} {w : EStateM ε σ α} {s : Logged σ η} {es : List η}

theorem Erases.note (h : Erases Logged.state z w) (e : η) :
    Erases Logged.state (do note e; z) w :=
  fun s => h { s with events := s.events ++ [e] }

theorem ends_silently {Q : α → Logged σ η → Prop} {E : ε → Logged σ η → Prop}
    (h : Ends w s.state (fun v t => Q v { s with state := t })
      fun e t => E e { s with state := t }) : Ends (silently w) s Q E := by
  unfold Ends silently EStateM.run at *
  cases hrun : w s.state with
  | ok v t => simpa only [hrun] using h
  | error e t => simpa only [hrun] using h

theorem ends_ending {Q : α → Logged σ η → Prop} {E : ε → Logged σ η → Prop} {e : η}
    (h : Ends z s (fun v t => Q v { t with events := t.events ++ [e] })
      fun d t => E d { t with events := t.events ++ [e] }) : Ends (ending z e) s Q E := by
  unfold Ends ending EStateM.run at *
  cases hrun : z s with
  | ok v t => simpa only [hrun] using h
  | error d t => simpa only [hrun] using h

theorem erases_silently (w : EStateM ε σ α) :
    Erases Logged.state (silently w : EStateM ε (Logged σ η) α) w := by
  intro s
  apply ends_silently
  exact (ends_any w s.state).run.mono (fun _ _ h => h.1) fun _ _ h => h.1

theorem Erases.ending (h : Erases Logged.state z w) (e : η) :
    Erases Logged.state (ending z e) w :=
  fun s => ends_ending (h s)

/-- From `s` the computation makes these events, also when it throws. -/
def Yields (z : EStateM ε (Logged σ η) α) (s : Logged σ η) (es : List η) : Prop :=
  Ends z s (fun _ t => t.events = s.events ++ es) fun _ t => t.events = s.events ++ es

theorem Yields.outcome (h : Yields z s es) :
    (Outcomes.outcome z s).2.events = s.events ++ es :=
  Ends.outcome (P := fun o : Option α × Logged σ η => o.2.events = s.events ++ es) h

theorem yields_pure (v : α) : Yields (pure v : EStateM ε (Logged σ η) α) s [] :=
  (List.append_nil _).symm

theorem yields_throw (e : ε) : Yields (throw e : EStateM ε (Logged σ η) α) s [] :=
  (List.append_nil _).symm

theorem yields_get {f : Logged σ η → EStateM ε (Logged σ η) α} (h : Yields (f s) s es) :
    Yields (get >>= f) s es := h

theorem yields_silently (w : EStateM ε σ α) : Yields (silently w) s [] := by
  apply ends_silently
  exact (ends_any w s.state).mono (fun _ _ _ => (List.append_nil _).symm)
    fun _ _ _ => (List.append_nil _).symm

theorem Yields.note {e : η} (h : Yields z { s with events := s.events ++ [e] } es) :
    Yields (do note e; z) s (e :: es) := by
  unfold Yields at h ⊢
  rwa [List.append_assoc] at h

/-- A part that changes the state only. -/
theorem Yields.set {t : σ} (h : Yields z { s with state := t } es) :
    Yields (do silently (set t); z) s es := h

theorem Yields.ending (h : Yields z s es) (e : η) : Yields (ending z e) s (es ++ [e]) := by
  have happend (t : Logged σ η) (ht : t.events = s.events ++ es) :
      t.events ++ [e] = s.events ++ (es ++ [e]) := by
    rw [ht, List.append_assoc]
  apply ends_ending
  exact h.mono (fun _ t ht => happend t ht) fun _ t ht => happend t ht

end Events

end Erasure
