import Rckam.Library.Outcomes

/-! Objects whose construction may throw and whose destruction may not: local objects, members of
classes, and the destruction of what has been constructed when a computation throws. Not every
end unwinds the stack: a process that is aborted destroys nothing. -/
namespace Lifetimes
open Outcomes

variable {ε σ α β γ : Type} (unwinds : ε → Bool)

/-- The state when `e` has left a scope in which `destroy` is due. -/
def unwound (destroy : σ → σ) (e : ε) (t : σ) : σ := if unwinds e then destroy t else t

/-- Runs `destroy` when the computation throws. -/
def unwinding (destroy : σ → σ) (x : EStateM ε σ α) : EStateM ε σ α := fun s =>
  match x.run s with
  | .ok v t => .ok v t
  | .error e t => .error e (unwound unwinds destroy e t)

/-- Runs `destroy` when the computation throws, and when it ends. -/
def leaving (destroy : σ → σ) (x : EStateM ε σ α) : EStateM ε σ α := fun s =>
  match x.run s with
  | .ok v t => .ok v (destroy t)
  | .error e t => .error e (unwound unwinds destroy e t)

/-- Goes on with `v` when the computation throws. -/
def catching (v : α) (x : EStateM ε σ α) : EStateM ε σ α := fun s =>
  match x.run s with
  | .ok w t => .ok w t
  | .error e t => if unwinds e then .ok v t else .error e t

/-- How the objects of a class are constructed and destroyed. -/
structure Class (ε σ α : Type) where
  construct : EStateM ε σ α
  destroy : α → σ → σ

@[simp] theorem unwinding_run (destroy : σ → σ) (x : EStateM ε σ α) (s : σ) :
    (unwinding unwinds destroy x).run s = match x.run s with
      | .ok v t => .ok v t
      | .error e t => .error e (unwound unwinds destroy e t) := rfl

@[simp] theorem leaving_run (destroy : σ → σ) (x : EStateM ε σ α) (s : σ) :
    (leaving unwinds destroy x).run s = match x.run s with
      | .ok v t => .ok v (destroy t)
      | .error e t => .error e (unwound unwinds destroy e t) := rfl

@[simp] theorem catching_run (v : α) (x : EStateM ε σ α) (s : σ) :
    (catching unwinds v x).run s = match x.run s with
      | .ok w t => .ok w t
      | .error e t => if unwinds e then .ok v t else .error e t := rfl

/-- What is due in two scopes, the inner one first. -/
theorem unwound_unwound (destroy destroy' : σ → σ) (e : ε) (t : σ) :
    unwound unwinds destroy e (unwound unwinds destroy' e t) =
      unwound unwinds (fun u => destroy (destroy' u)) e t := by
  cases h : unwinds e <;> simp [unwound, h]

section Rules
variable {unwinds} {x : EStateM ε σ α} {s : σ} {destroy : σ → σ} {Q : α → σ → Prop}
  {E : ε → σ → Prop}

theorem ends_leaving (h : Ends x s (fun v t => Q v (destroy t)) fun e t =>
    E e (unwound unwinds destroy e t)) : Ends (leaving unwinds destroy x) s Q E := by
  unfold Ends at h ⊢
  rw [leaving_run]
  cases hrun : x.run s with
  | ok v t =>
    rw [hrun] at h
    exact h
  | error e t =>
    rw [hrun] at h
    exact h

/-- What is destroyed turns a state of which `P` holds into one of which `Q` holds, whether the
computation ends or the stack is unwound. -/
theorem ends_leaving_of {P Q : σ → Prop} {R : ε → σ → Prop}
    (h : Ends x s (fun _ t => P t) fun e t => if unwinds e then P t else R e t)
    (hdestroy : ∀ t, P t → Q (destroy t)) :
    Ends (leaving unwinds destroy x) s (fun _ t => Q t)
      fun e t => if unwinds e then Q t else R e t := by
  apply ends_leaving
  apply Ends.mono h
  · intro _ t ht
    exact hdestroy t ht
  · intro e t ht
    cases hunwinds : unwinds e with
    | false => simpa [unwound, hunwinds] using ht
    | true => simpa [unwound, hunwinds] using hdestroy t (by simpa [hunwinds] using ht)

theorem ends_catching {v : α} (h : Ends x s Q fun e t => if unwinds e then Q v t else E e t) :
    Ends (catching unwinds v x) s Q E := by
  unfold Ends at h ⊢
  rw [catching_run]
  cases hrun : x.run s with
  | ok w t =>
    rw [hrun] at h
    exact h
  | error e t =>
    rw [hrun] at h
    cases hunwinds : unwinds e <;> simpa [hunwinds] using h

theorem preserves_catching {I : σ → Prop} (v : α) (h : Preserves I x) :
    Preserves I (catching unwinds v x) := by
  intro s hs
  apply ends_catching
  apply (h s hs).mono fun _ _ ht => ht
  intro e t ht
  cases unwinds e <;> simpa using ht

end Rules

namespace Class

/-- A computation with a local object. -/
def scope (c : Class ε σ α) (body : α → EStateM ε σ γ) : EStateM ε σ γ :=
  c.construct >>= fun a => leaving unwinds (c.destroy a) (body a)

/-- A class with one more member: it is constructed after those of `c` and destroyed before them.
The body of a constructor and that of the destructor are such a member. -/
def member (c : Class ε σ α) (d : α → Class ε σ β) : Class ε σ (α × β) where
  construct := c.construct >>= fun a =>
    unwinding unwinds (c.destroy a) ((d a).construct >>= fun b => pure (a, b))
  destroy x s := c.destroy x.1 ((d x.1).destroy x.2 s)

variable {unwinds} {c : Class ε σ α} {s : σ}

/-- A local object: what holds once it is constructed, and what holds when it is destroyed. -/
theorem ends_scope {body : α → EStateM ε σ γ} {A : α → σ → Prop} {P : α → σ → Prop}
    {Q : σ → Prop} {R : ε → σ → Prop}
    (hconstruct : Ends c.construct s A fun e t => if unwinds e then Q t else R e t)
    (hbody : ∀ a t, A a t → Ends (body a) t (fun _ u => P a u)
      fun e u => if unwinds e then P a u else R e u)
    (hdestroy : ∀ a t, P a t → Q (c.destroy a t)) :
    Ends (c.scope unwinds body) s (fun _ t => Q t)
      fun e t => if unwinds e then Q t else R e t := by
  apply hconstruct.bind
  intro a t ht
  exact ends_leaving_of (hbody a t ht) (hdestroy a)

/-- What the constructor, the destructor and the scope of an object preserve. -/
theorem preserves_scope {body : α → EStateM ε σ γ} {I : σ → Prop}
    (hconstruct : Preserves I c.construct) (hbody : ∀ a, Preserves I (body a))
    (hdestroy : ∀ a t, I t → I (c.destroy a t)) : Preserves I (c.scope unwinds body) := by
  apply hconstruct.bind
  intro a s hs
  apply ends_leaving
  apply (hbody a s hs).mono
  · intro _ t ht
    exact hdestroy a t ht
  · intro e t ht
    cases hunwinds : unwinds e with
    | false => simpa [unwound, hunwinds] using ht
    | true => simpa [unwound, hunwinds] using hdestroy a t ht

/-- An object with members lives as its members do, each in the scope of those before it. -/
theorem scope_member (d : α → Class ε σ β) (body : α × β → EStateM ε σ γ) :
    (c.member unwinds d).scope unwinds body =
      c.scope unwinds fun a => (d a).scope unwinds fun b => body (a, b) := by
  funext s
  show ((c.member unwinds d).scope unwinds body).run s = EStateM.run _ s
  unfold scope member
  simp only [EStateM.run_bind]
  cases hc : c.construct.run s with
  | error e t => rfl
  | ok a t =>
    cases hd : (d a).construct.run t with
    | error e u => simp only [unwinding_run, leaving_run, EStateM.run_bind, hd]
    | ok b u =>
      cases hbody : (body (a, b)).run u with
      | error e w =>
        simp only [unwinding_run, leaving_run, EStateM.run_bind, EStateM.run_pure, hd, hbody,
          unwound_unwound]
      | ok v w =>
        simp only [unwinding_run, leaving_run, EStateM.run_bind, EStateM.run_pure, hd, hbody]

end Class

end Lifetimes
