import Rckam.Client.CriticalSections

/-! What a step of the image loader can do to a thread. -/
namespace Rckam.DoubleBuffer

/-- Where a thread can be after a step of its own. -/
def Pc.successors (stop : Bool) : Pc → List Pc
  | .loop => [if stop then .ended else .lock]
  | .lock | .woken => [.test]
  | .test => if stop then [.check] else [.check, .drowsy]
  | .drowsy => [.asleep]
  | .asleep => [.woken]
  | .check => [if stop then .leave else .body]
  | .body => [.flag, .leave]
  | .flag => [.notify]
  | .notify => [.next]
  | .next => [.unlock]
  | .unlock => [.loop]
  | .leave => [.ended]
  | .ended => []

/-- The local variables of a thread after a step of its own. -/
def Worker.turned (x : Worker) (pc : Pc) : Worker :=
  if x.pc = .next then ⟨pc, x.index + 1, x.iterations + 1⟩ else { x with pc := pc }

@[simp] theorem Worker.turned_pc (x : Worker) (pc : Pc) : (x.turned pc).pc = pc := by
  unfold Worker.turned
  split <;> rfl

theorem Worker.turned_index {x : Worker} {pc : Pc} (h : x.pc ≠ .next) :
    (x.turned pc).index = x.index := by
  unfold Worker.turned
  rw [if_neg h]

namespace Loader

variable {s t : Loader}

/-- The thread is as before, or took a step of its own. -/
def Turns (s : Loader) (w : Role) (x : Worker) : Prop :=
  x = s.worker w ∨ ∃ pc ∈ (s.worker w).pc.successors s.stop, x = (s.worker w).turned pc

theorem turns_of_pc {w : Role} {pc pc' : Pc} (hpc : (s.worker w).pc = pc) (hne : pc ≠ .next)
    (hmem : pc' ∈ pc.successors s.stop) : s.Turns w { s.worker w with pc := pc' } := by
  subst hpc
  refine Or.inr ⟨pc', hmem, ?_⟩
  unfold Worker.turned
  rw [if_neg hne]

theorem turns_put {v : Role} {x : Worker} (hx : s.Turns v x) (w : Role) :
    s.Turns w ((s.put v x).worker w) := by
  revert w
  refine v.forall_of ?_ ?_
  · rw [put_worker_self]
    exact hx
  · rw [put_worker_other]
    exact Or.inl rfl

theorem turns_move {v : Role} {pc pc' : Pc} (hpc : (s.worker v).pc = pc) (hne : pc ≠ .next)
    (hmem : pc' ∈ pc.successors s.stop) (w : Role) : s.Turns w ((s.move v pc').worker w) :=
  turns_put (turns_of_pc hpc hne hmem) w

theorem turns_notifyAll (m : Fin 2) (w : Role) : s.Turns w ((s.notifyAll m).worker w) := by
  have hworker : (s.notifyAll m).worker w =
      if s.SleepsOn w m then { s.worker w with pc := .woken } else s.worker w := rfl
  rw [hworker]
  split
  · next hsleeps => exact turns_of_pc hsleeps.1 (by decide) (by simp [Pc.successors])
  · exact Or.inl rfl

/-- What a step does to a thread. -/
theorem worker_step (hstep : Step s t) (w : Role) : s.Turns w (t.worker w) := by
  cases hstep with
  | loop v hpc => exact turns_move hpc (by decide) (by simp [Pc.successors]) w
  | acquire v hpc hfree =>
    rcases hpc with hpc | hpc
    · exact turns_move hpc (by decide) (by simp [Pc.successors]) w
    · exact turns_move hpc (by decide) (by simp [Pc.successors]) w
  | test v hpc =>
    refine turns_move hpc (by decide) ?_ w
    by_cases hstop : s.stop = true
    · have hpredicate : s.predicate v := Or.inr hstop
      rw [if_pos hpredicate]
      simp [Pc.successors, hstop]
    · simp only [Pc.successors, hstop, Bool.false_eq_true, ↓reduceIte]
      split <;> simp
  | sleep v hpc => exact turns_move hpc (by decide) (by simp [Pc.successors]) w
  | wake v hpc => exact turns_move hpc (by decide) (by simp [Pc.successors]) w
  | check v hpc => exact turns_move hpc (by decide) (by simp [Pc.successors]) w
  | fill data hpc => exact Or.inl rfl
  | complete image hpc =>
    have h : s.Turns w ((s.move .reader .flag).worker w) :=
      turns_move hpc (by decide) (by simp [Pc.successors]) w
    exact h
  | readThrows hpc => exact turns_move hpc (by decide) (by simp [Pc.successors]) w
  | hand hpc =>
    have h : s.Turns w ((s.move .setter .flag).worker w) :=
      turns_move hpc (by decide) (by simp [Pc.successors]) w
    exact h
  | setThrows hpc =>
    have h : s.Turns w ((s.move .setter .leave).worker w) :=
      turns_move hpc (by decide) (by simp [Pc.successors]) w
    exact h
  | flag v hpc =>
    have h : s.Turns w ((s.move v .notify).worker w) :=
      turns_move hpc (by decide) (by simp [Pc.successors]) w
    exact h
  | notifyNobody v hpc hnobody => exact turns_move hpc (by decide) (by simp [Pc.successors]) w
  | notifyOne v u hpc hasleep =>
    obtain rfl | rfl := v.eq_or_other u
    · cases hpc.symm.trans hasleep.1
    · revert w
      refine v.forall_of ?_ ?_
      · rw [move_comm, move_worker_self]
        have hself : ((s.move v.other .woken).worker v) = s.worker v := by
          have h := move_worker_other (s := s) v.other .woken
          rwa [Role.other_other] at h
        rw [hself]
        exact turns_of_pc hpc (by decide) (by simp [Pc.successors])
      · rw [move_worker_self, move_worker_other]
        exact turns_of_pc hasleep.1 (by decide) (by simp [Pc.successors])
  | next v hpc =>
    apply turns_put
    refine Or.inr ⟨.unlock, ?_, ?_⟩
    · rw [hpc]
      exact List.mem_singleton_self _
    · unfold Worker.turned
      rw [if_pos hpc]
  | unlock v hpc => exact turns_move hpc (by decide) (by simp [Pc.successors]) w
  | leave v hpc => exact turns_move hpc (by decide) (by simp [Pc.successors]) w
  | mainLock hmain => exact Or.inl rfl
  | mainStore hmain => exact Or.inl rfl
  | mainFirst hmain => exact turns_notifyAll 0 w
  | mainSecond hmain => exact turns_notifyAll 1 w
  | mainUnlock hmain => exact Or.inl rfl

end Loader

end Rckam.DoubleBuffer
