import Mathlib.Data.List.Chain
import Mathlib.Data.List.FinRange

/-! Lists with elements lost at given positions. -/
namespace Losses

/-- The elements of a list at the positions that are not lost. -/
def survivors {α : Type*} (lost : ℕ → Bool) (l : List α) : List α :=
  (l.zipIdx.filter fun x => !lost x.2).map Prod.fst

variable {α γ : Type*} (lost : ℕ → Bool) (l : List α)

theorem survivors_sublist : (survivors lost l).Sublist l := by
  have h := (List.filter_sublist (p := fun x : α × ℕ => !lost x.2) (l := l.zipIdx)).map Prod.fst
  rwa [List.zipIdx_map_fst] at h

theorem forall_zipIdx {P : ℕ → Prop} :
    (∀ x ∈ l.zipIdx, P x.2) ↔ ∀ k < l.length, P k := by
  constructor
  · intro h k hk
    exact h (l[k], k) (List.mk_mem_zipIdx_iff_getElem?.mpr (List.getElem?_eq_getElem hk))
  · rintro h ⟨a, k⟩ hx
    obtain ⟨hk, -⟩ := List.getElem?_eq_some_iff.mp (List.mk_mem_zipIdx_iff_getElem?.mp hx)
    exact h k hk

theorem zipIdx_map_zipIdx (f : α × ℕ → γ) :
    (l.zipIdx.map f).zipIdx = l.zipIdx.map fun x => (f x, x.2) := by
  apply List.ext_getElem
  · simp
  · intro i h1 h2
    simp [List.getElem_zipIdx]

/-- The survivors by their positions. -/
theorem survivors_eq_range {n : ℕ} (hn : l.length = n) (default : α) :
    survivors lost l =
      ((List.finRange n).filter fun k : Fin n => !lost k).map
        fun k : Fin n => l.getD k default := by
  have hzip : l.zipIdx = (List.finRange n).map fun k : Fin n => (l.getD k default, (k : ℕ)) := by
    apply List.ext_getElem
    · simpa using hn
    · intro k hk _
      have hl : k < l.length := by simpa using hk
      simp [List.getElem_zipIdx, hl]
  rw [survivors, hzip, List.filter_map, List.map_map]
  rfl

theorem survivors_length_iff :
    (survivors lost l).length = l.length ↔ ∀ k < l.length, lost k = false := by
  rw [survivors, List.length_map, ← forall_zipIdx l, ← List.length_zipIdx (l := l) (i := 0),
    List.length_filter_eq_length_iff]
  simp

theorem survivors_eq_nil : survivors lost l = [] ↔ ∀ k < l.length, lost k = true := by
  rw [survivors, List.map_eq_nil_iff, ← forall_zipIdx l, List.filter_eq_nil_iff]
  simp

theorem survivors_cons (a : α) :
    survivors lost (a :: l) =
      (if lost 0 then [] else [a]) ++ survivors (fun k => lost (k + 1)) l := by
  have htail : ((l.zipIdx.map (Prod.map id (· + 1))).filter fun x => !lost x.2).map Prod.fst =
      survivors (fun k => lost (k + 1)) l := by
    rw [List.filter_map, List.map_map]
    rfl
  unfold survivors at htail ⊢
  rw [List.zipIdx_cons', List.filter_cons, ← htail]
  cases lost 0 <;> rfl

/-- A list that is cut short has lost its end. -/
theorem survivors_take (n : ℕ) :
    survivors lost (l.take n) = survivors (fun k => lost k || decide (n ≤ k)) l := by
  induction l generalizing lost n with
  | nil =>
    rw [List.take_nil]
    rfl
  | cons a l ih =>
    cases n with
    | zero => exact ((survivors_eq_nil _ _).mpr (by simp)).symm
    | succ n =>
      rw [List.take_succ_cons, survivors_cons, survivors_cons, ih]
      simp

/-- The first kept element comes after elements that are not kept. -/
theorem zipIdx_filter_head (f : α × ℕ → Bool) (n : ℕ) {y : α × ℕ}
    (hy : y ∈ ((l.zipIdx n).filter f).head?) :
    n ≤ y.2 ∧ ∀ z ∈ l.zipIdx n, z.2 < y.2 → f z = false := by
  induction l generalizing n with
  | nil => simp at hy
  | cons a l ih =>
    rw [List.zipIdx_cons] at hy ⊢
    by_cases ha : f (a, n)
    · rw [List.filter_cons_of_pos ha, List.head?_cons, Option.mem_some_iff] at hy
      subst hy
      refine ⟨le_rfl, fun z hz hlt => ?_⟩
      rcases List.mem_cons.mp hz with rfl | hz
      · exact absurd hlt (lt_irrefl n)
      · have := List.le_snd_of_mem_zipIdx hz
        omega
    · rw [List.filter_cons_of_neg ha] at hy
      obtain ⟨hle, hbefore⟩ := ih (n + 1) hy
      refine ⟨by omega, fun z hz hlt => ?_⟩
      rcases List.mem_cons.mp hz with rfl | hz
      · simpa using ha
      · exact hbefore z hz hlt

/-- Between neighbours among the kept elements nothing is kept. -/
theorem zipIdx_filter_isChain (f : α × ℕ → Bool) (n : ℕ) :
    ((l.zipIdx n).filter f).IsChain fun x y =>
      x.2 < y.2 ∧ ∀ z ∈ l.zipIdx n, x.2 < z.2 → z.2 < y.2 → f z = false := by
  induction l generalizing n with
  | nil => exact .nil
  | cons a l ih =>
    rw [List.zipIdx_cons]
    have htail := (ih (n + 1)).imp_of_mem_imp (S := fun x y =>
      x.2 < y.2 ∧ ∀ z ∈ (a, n) :: l.zipIdx (n + 1), x.2 < z.2 → z.2 < y.2 → f z = false) (by
      rintro x y hx - ⟨hlt, hbetween⟩
      refine ⟨hlt, fun z hz hxz hzy => ?_⟩
      rcases List.mem_cons.mp hz with rfl | hz
      · have := List.le_snd_of_mem_zipIdx (List.mem_of_mem_filter hx)
        omega
      · exact hbetween z hz hxz hzy)
    by_cases ha : f (a, n)
    · rw [List.filter_cons_of_pos ha]
      refine htail.cons fun y hy => ?_
      obtain ⟨hle, hbefore⟩ := zipIdx_filter_head l f (n + 1) hy
      refine ⟨hle, fun z hz hxz hzy => ?_⟩
      rcases List.mem_cons.mp hz with rfl | hz
      · exact absurd hxz (lt_irrefl n)
      · exact hbefore z hz hzy
    · rwa [List.filter_cons_of_neg ha]

end Losses
