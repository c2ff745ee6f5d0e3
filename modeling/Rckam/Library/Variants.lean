import Mathlib.Data.Finset.Card
import Mathlib.Data.Finset.Range

/-! Runs in which only some of the steps count, and there can be only so many of them. -/
namespace Variants

variable {σ : Type*} {step counts : σ → σ → Prop} {inv : σ → Prop} {v : σ → ℕ}

/-- No step raises the variant, and a step that counts lowers it. -/
structure Variant (step counts : σ → σ → Prop) (inv : σ → Prop) (v : σ → ℕ) : Prop where
  keeps : ∀ {s t}, inv s → step s t → inv t
  le : ∀ {s t}, inv s → step s t → v t ≤ v s
  lt : ∀ {s t}, inv s → step s t → counts s t → v t < v s

namespace Variant
variable (h : Variant step counts inv v) {f : ℕ → σ} (hzero : inv (f 0)) {n : ℕ}
  (hsteps : ∀ k < n, step (f k) (f (k + 1)))
include h hzero hsteps

theorem run : inv (f n) := by
  induction n with
  | zero => exact hzero
  | succ n ih => exact h.keeps (ih fun k hk => hsteps k (by omega)) (hsteps n n.lt_succ_self)

/-- Every step that counts has been paid for by the variant. -/
theorem count_le [DecidablePred fun k => counts (f k) (f (k + 1))] :
    ((Finset.range n).filter fun k => counts (f k) (f (k + 1))).card + v (f n) ≤ v (f 0) := by
  induction n with
  | zero => simp
  | succ n ih =>
    have hbefore : ∀ k < n, step (f k) (f (k + 1)) := fun k hk => hsteps k (by omega)
    have hstep := hsteps n n.lt_succ_self
    have hinv := h.run hzero hbefore
    have hle := h.le hinv hstep
    have hcount := ih hbefore
    rw [Finset.range_add_one, Finset.filter_insert]
    split_ifs with hcounts
    · have hlt := h.lt hinv hstep hcounts
      rw [Finset.card_insert_of_notMem (by simp)]
      omega
    · omega

end Variant

/-- There is no endless run of steps that all count. -/
theorem Variant.no_endless_run (h : Variant step (fun _ _ => True) inv v) {s : σ} (hs : inv s) :
    ¬ ∃ f : ℕ → σ, f 0 = s ∧ ∀ n, step (f n) (f (n + 1)) := by
  rintro ⟨f, rfl, hsteps⟩
  have hcount := h.count_le hs fun k (_ : k < v (f 0) + 1) => hsteps k
  simp at hcount
  omega

end Variants
