import Rckam.Library.Outcomes

/-! Computations that log what they do: what such a computation adds to its log, and how far it has
got with that when it throws. -/
namespace Traces
open Outcomes

variable {ε σ ω α β : Type} {log : σ → List ω} {x : EStateM ε σ α} {s : σ} {l l' : List ω}
  {Q Q' : α → σ → Prop} {v : α}

/-- The computation adds `l` to the log and ends as `Q` says, or it throws when it has added the
first elements of `l`. -/
def Emits (log : σ → List ω) (x : EStateM ε σ α) (s : σ) (l : List ω) (Q : α → σ → Prop) : Prop :=
  Ends x s (fun v t => log t = log s ++ l ∧ Q v t)
    fun _ t => ∃ done, done <+: l ∧ log t = log s ++ done

theorem Emits.mono (h : Emits log x s l Q) (hQ : ∀ v t, log t = log s ++ l → Q v t → Q' v t) :
    Emits log x s l Q' :=
  Ends.mono h (fun v t ht => ⟨ht.1, hQ v t ht.1 ht.2⟩) fun _ _ ht => ht

/-- One computation after the other. -/
theorem Emits.bind {f : α → EStateM ε σ β} {P : β → σ → Prop} (h : Emits log x s l Q)
    (hf : ∀ v t, log t = log s ++ l → Q v t → Emits log (f v) t l' P) :
    Emits log (x >>= f) s (l ++ l') P := by
  have hfirst : Ends x s (fun v t => log t = log s ++ l ∧ Q v t)
      fun _ t => ∃ done, done <+: l ++ l' ∧ log t = log s ++ done := by
    apply Ends.mono h (fun _ _ ht => ht)
    rintro e t ⟨done, hdone, hlog⟩
    exact ⟨done, hdone.trans (List.prefix_append l l'), hlog⟩
  apply hfirst.bind
  rintro v t ⟨hlog, hQ⟩
  apply Ends.mono (hf v t hlog hQ)
  · rintro w u ⟨hlog', hP⟩
    exact ⟨by rw [hlog', hlog, List.append_assoc], hP⟩
  · rintro e u ⟨done, hdone, hlog'⟩
    refine ⟨l ++ done, (List.prefix_append_right_inj l).mpr hdone, ?_⟩
    rw [hlog', hlog, List.append_assoc]

theorem emits_pure (hQ : Q v s) : Emits log (pure v : EStateM ε σ α) s [] Q :=
  ends_pure ⟨(List.append_nil _).symm, hQ⟩

/-- What a run has logged when it is over, however it ends. -/
theorem Emits.logged (h : Emits log x s l Q) : log (outcome x s).2 <+: log s ++ l ∧
    ∀ v, (outcome x s).1 = some v → log (outcome x s).2 = log s ++ l ∧ Q v (outcome x s).2 := by
  apply Ends.outcome (P := fun r => log r.2 <+: log s ++ l ∧
    ∀ v, r.1 = some v → log r.2 = log s ++ l ∧ Q v r.2)
  apply Ends.mono h
  · rintro v t ⟨hlog, hQ⟩
    refine ⟨hlog ▸ List.prefix_rfl, fun w hw => ?_⟩
    obtain rfl := Option.some_inj.mp hw
    exact ⟨hlog, hQ⟩
  · rintro e t ⟨done, hdone, hlog⟩
    refine ⟨?_, nofun⟩
    rw [hlog]
    exact (List.prefix_append_right_inj _).mpr hdone

/-- What the entries of a log lead to, when each of them is permitted, is what further ones go on
from. -/
theorem foldlM_append_some {next : β → ω → Option β} {b b' : β} (h : l.foldlM next b = some b') :
    (l ++ l').foldlM next b = l'.foldlM next b' := by
  simp [List.foldlM_append, h]

end Traces
