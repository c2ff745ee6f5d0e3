import Rckam.Client.DoubleBuffer

/-! No buffer is used by both threads of the image loader. -/
namespace Rckam.DoubleBuffer

theorem Role.eq_or_other (w v : Role) : v = w ∨ v = w.other := by
  cases w <;> cases v <;> simp [Role.other]

theorem Role.other_ne (w : Role) : w.other ≠ w := by cases w <;> simp [Role.other]

@[simp] theorem Role.other_other (w : Role) : w.other.other = w := by cases w <;> rfl

theorem Role.waitsFor_other (w : Role) : w.other.waitsFor = !w.waitsFor := by cases w <;> rfl

/-- A property of both threads follows from the property of one and of the other. -/
theorem Role.forall_of {P : Role → Prop} (w : Role) (hself : P w) (hother : P w.other) :
    ∀ v, P v := by
  intro v
  obtain rfl | rfl := w.eq_or_other v
  · exact hself
  · exact hother

theorem Worker.owns_at {x : Worker} {pc : Pc} (hpc : x.pc = pc) : x.owns = pc.holds x.index :=
  congrArg (Pc.holds x.index) hpc

namespace Loader

variable {s : Loader}

@[simp] theorem put_worker_self (w : Role) (x : Worker) : (s.put w x).worker w = x :=
  Function.update_self ..

@[simp] theorem put_worker_other (w : Role) (x : Worker) :
    (s.put w x).worker w.other = s.worker w.other :=
  Function.update_of_ne w.other_ne ..

@[simp] theorem move_worker_self (w : Role) (pc : Pc) :
    (s.move w pc).worker w = { s.worker w with pc := pc } :=
  put_worker_self ..

@[simp] theorem move_worker_other (w : Role) (pc : Pc) :
    (s.move w pc).worker w.other = s.worker w.other :=
  put_worker_other ..

theorem move_comm (w : Role) (pc pc' : Pc) :
    (s.move w pc).move w.other pc' = (s.move w.other pc').move w pc := by
  have hcomm := Function.update_comm w.other_ne.symm { s.worker w with pc := pc }
    { s.worker w.other with pc := pc' } s.worker
  unfold move put
  congr 1
  simpa [Function.update_of_ne w.other_ne, Function.update_of_ne w.other_ne.symm] using hcomm

/-- `notify_all` does to each sleeper what waking up on its own does to it. -/
theorem notifyAll_rule {P : Loader → Prop} (m : Fin 2)
    (hwake : ∀ (r : Loader) (w : Role), (r.worker w).pc = .asleep → P r → P (r.move w .woken))
    (hs : P s) : P (s.notifyAll m) := by
  have heq : ∀ f : Role → Worker, (∀ w, f w = (s.notifyAll m).worker w) →
      { s with worker := f } = s.notifyAll m := by
    intro f hf
    obtain rfl : f = (s.notifyAll m).worker := funext hf
    rfl
  have hworker : ∀ w, (s.notifyAll m).worker w =
      if s.SleepsOn w m then { s.worker w with pc := .woken } else s.worker w := fun w => rfl
  by_cases hreader : s.SleepsOn .reader m
  · have hs' := hwake s .reader hreader.1 hs
    by_cases hsetter : s.SleepsOn .setter m
    · have h := hwake (s.move .reader .woken) .setter hsetter.1 hs'
      rw [← heq ((s.move .reader .woken).move .setter .woken).worker]
      · exact h
      · intro w
        cases w <;> simp [hworker, hreader, hsetter, move, put]
    · rw [← heq (s.move .reader .woken).worker]
      · exact hs'
      · intro w
        cases w <;> simp [hworker, hreader, hsetter, move, put]
  · by_cases hsetter : s.SleepsOn .setter m
    · rw [← heq (s.move .setter .woken).worker]
      · exact hwake s .setter hsetter.1 hs
      · intro w
        cases w <;> simp [hworker, hreader, hsetter, move, put]
    · rw [← heq s.worker]
      · exact hs
      · intro w
        cases w <;> simp [hworker, hreader, hsetter]

/-- No mutex is held by both threads. -/
def Exclusive (s : Loader) : Prop := ∀ m, ¬ ∀ w, (s.worker w).owns = some m

theorem Exclusive.put (h : s.Exclusive) {w : Role} {x : Worker}
    (hx : ∀ m, x.owns = some m → (s.worker w).owns = some m ∨ ∀ v, (s.worker v).owns ≠ some m) :
    (s.put w x).Exclusive := by
  intro m hboth
  have hself := hboth w
  have hother := hboth w.other
  rw [put_worker_self] at hself
  rw [put_worker_other] at hother
  obtain hheld | hfree := hx m hself
  · exact h m (w.forall_of hheld hother)
  · exact hfree w.other hother

theorem Exclusive.release (h : s.Exclusive) {w : Role} {pc : Pc} (hpc : ∀ i, pc.holds i = none) :
    (s.move w pc).Exclusive := by
  apply h.put
  intro m hm
  have hm' : pc.holds (s.worker w).index = some m := hm
  simp [hpc] at hm'

theorem Exclusive.keep (h : s.Exclusive) {w : Role} {pc pc' : Pc} (hpc : (s.worker w).pc = pc)
    (hsame : ∀ i, pc'.holds i = pc.holds i) : (s.move w pc').Exclusive := by
  apply h.put
  intro m hm
  left
  calc (s.worker w).owns = pc.holds (s.worker w).index := Worker.owns_at hpc
    _ = pc'.holds (s.worker w).index := (hsame _).symm
    _ = some m := hm

theorem Exclusive.woken (h : s.Exclusive) (w : Role) : (s.move w .woken).Exclusive :=
  h.release fun _ => rfl

theorem Exclusive.step {t : Loader} (h : s.Exclusive) (hstep : Step s t) : t.Exclusive := by
  cases hstep with
  | loop w hpc =>
    apply h.release
    intro i
    split <;> rfl
  | acquire w hpc hfree =>
    apply h.put
    intro m hm
    right
    intro v hv
    exact hfree v (hv.trans hm.symm)
  | test w hpc =>
    apply h.keep hpc
    intro i
    split <;> rfl
  | sleep w hpc => exact h.release fun _ => rfl
  | wake w hpc => exact h.woken w
  | check w hpc =>
    apply h.keep hpc
    intro i
    split <;> rfl
  | fill data hpc => exact h
  | complete image hpc =>
    have h' : (s.move .reader .flag).Exclusive := h.keep hpc fun _ => rfl
    exact h'
  | readThrows hpc => exact h.keep hpc fun _ => rfl
  | hand hpc =>
    have h' : (s.move .setter .flag).Exclusive := h.keep hpc fun _ => rfl
    exact h'
  | setThrows hpc =>
    have h' : (s.move .setter .leave).Exclusive := h.keep hpc fun _ => rfl
    exact h'
  | flag w hpc =>
    have h' : (s.move w .notify).Exclusive := h.keep hpc fun _ => rfl
    exact h'
  | notifyNobody w hpc hnobody => exact h.keep hpc fun _ => rfl
  | notifyOne w v hpc hasleep =>
    have h' : (s.move w .next).Exclusive := h.keep hpc fun _ => rfl
    exact h'.woken v
  | next w hpc =>
    -- the thread still holds the mutex of the buffer that it has just left
    apply h.put
    intro m hm
    left
    have hindex : (s.worker w).index + 1 + 1 = (s.worker w).index := by
      generalize (s.worker w).index = i
      revert i
      decide
    calc (s.worker w).owns = some (s.worker w).index := Worker.owns_at hpc
      _ = some ((s.worker w).index + 1 + 1) := congrArg some hindex.symm
      _ = some m := hm
  | unlock w hpc => exact h.release fun _ => rfl
  | leave w hpc => exact h.release fun _ => rfl
  | mainLock hmain => exact h
  | mainStore hmain => exact h
  | mainFirst hmain => exact notifyAll_rule 0 (fun r w _ hr => hr.woken w) h
  | mainSecond hmain => exact notifyAll_rule 1 (fun r w _ hr => hr.woken w) h
  | mainUnlock hmain => exact h

end Loader

end Rckam.DoubleBuffer
