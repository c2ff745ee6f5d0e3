import Mathlib.Data.List.Infix
import Rckam.Client.Turns

/-! Every image that `readPreviews` completes reaches `setPreviews`, once and in order. -/
namespace Rckam.DoubleBuffer

/-- Whether the thread has dealt with the image of the iteration that it has not counted. -/
def Pc.finished : Pc → ℕ
  | .flag | .notify | .next => 1
  | _ => 0

theorem Pc.flagged_le_finished (pc : Pc) : pc.flagged ≤ pc.finished := by
  cases pc <;> simp [flagged, finished]

/-- The number of images that a thread has dealt with, but for one that made `set` throw. -/
def Worker.done (x : Worker) : ℕ := x.iterations + x.pc.finished

theorem Worker.done_at {x : Worker} {pc : Pc} (hpc : x.pc = pc) :
    x.done = x.iterations + pc.finished :=
  congrArg (fun pc => x.iterations + Pc.finished pc) hpc

theorem Worker.published_le_done (x : Worker) : x.published ≤ x.done :=
  Nat.add_le_add_left x.pc.flagged_le_finished _

/-- The thread runs no further iteration. -/
def Pc.left (pc : Pc) : Prop := pc = .leave ∨ pc = .ended

namespace Loader

variable {s : Loader}

/-- The images that have been completed and not yet given back lie in their buffers. -/
structure Recorded (s : Loader) : Prop where
  completedCount : s.completed.length = (s.worker .reader).done
  handedLow : (s.worker .setter).done ≤ s.handed.length
  handedCount : (s.worker .setter).pc.left ∨ s.handed.length = (s.worker .setter).done
  inOrder : s.handed <+: s.completed
  kept : ∀ k, (s.worker .setter).published ≤ k → k < s.completed.length →
    s.completed[k]? = some (s.buffers (slot k))

theorem Recorded.put (h : s.Recorded) {w : Role} {x : Worker}
    (hdone : x.done = (s.worker w).done) (hpublished : (s.worker w).published ≤ x.published)
    (hleft : (s.worker w).pc.left → x.pc.left) : (s.put w x).Recorded := by
  have hdone' : ∀ v, ((s.put w x).worker v).done = (s.worker v).done := by
    refine w.forall_of ?_ ?_
    · simpa using hdone
    · simp
  have hpublished' : ∀ v, (s.worker v).published ≤ ((s.put w x).worker v).published := by
    refine w.forall_of ?_ ?_
    · simpa using hpublished
    · simp
  have hleft' : ∀ v, (s.worker v).pc.left → ((s.put w x).worker v).pc.left := by
    refine w.forall_of ?_ ?_
    · simpa using hleft
    · simp
  constructor
  · rw [hdone']
    exact h.completedCount
  · rw [hdone']
    exact h.handedLow
  · rw [hdone']
    exact h.handedCount.imp_left (hleft' .setter)
  · exact h.inOrder
  · intro k hlow hhigh
    exact h.kept k ((hpublished' .setter).trans hlow) hhigh

theorem Recorded.move (h : s.Recorded) {w : Role} {old pc : Pc} (hpc : (s.worker w).pc = old)
    (hfinished : pc.finished = old.finished) (hflagged : old.flagged ≤ pc.flagged)
    (hleft : old.left → pc.left) : (s.move w pc).Recorded := by
  apply h.put
  · calc (Worker.mk pc _ _).done = (s.worker w).iterations + pc.finished := rfl
      _ = (s.worker w).iterations + old.finished := by rw [hfinished]
      _ = (s.worker w).done := (Worker.done_at hpc).symm
  · calc (s.worker w).published = (s.worker w).iterations + old.flagged :=
          Worker.published_at hpc
      _ ≤ (s.worker w).iterations + pc.flagged := Nat.add_le_add_left hflagged _
  · intro hold
    exact hleft (hpc ▸ hold)

theorem Recorded.woken (h : s.Recorded) {w : Role} (hpc : (s.worker w).pc = .asleep) :
    (s.move w .woken).Recorded :=
  h.move hpc rfl le_rfl (by simp [Pc.left])

theorem Recorded.completed_length (h : s.Recorded) (hpc : (s.worker .reader).pc = .body) :
    s.completed.length = (s.worker .reader).iterations :=
  h.completedCount.trans (Worker.done_at hpc)

/-- While the reader is in `readPreview`, its buffer holds no image that is still needed. -/
theorem Recorded.free (h : s.Recorded) (hsync : s.Synchronised)
    (hpc : (s.worker .reader).pc = .body) (data : List Byte) {k : ℕ}
    (hlow : (s.worker .setter).published ≤ k) (hhigh : k < s.completed.length) :
    Function.update s.buffers (s.worker .reader).index data (slot k) = s.buffers (slot k) := by
  apply Function.update_of_ne
  rw [hsync.index, ne_eq, slot_eq_iff]
  have hlimit : (s.worker .reader).iterations < (s.worker .setter).published + 2 :=
    hsync.standing_at hpc
  have hcount := h.completed_length hpc
  omega

theorem Recorded.fill (h : s.Recorded) (hsync : s.Synchronised)
    (hpc : (s.worker .reader).pc = .body) (data : List Byte) :
    { s with
      buffers := Function.update s.buffers (s.worker .reader).index data }.Recorded := by
  refine ⟨h.completedCount, h.handedLow, h.handedCount, h.inOrder, ?_⟩
  intro k hlow hhigh
  show s.completed[k]? = some (Function.update s.buffers (s.worker .reader).index data (slot k))
  rw [h.free hsync hpc data hlow hhigh]
  exact h.kept k hlow hhigh

theorem Recorded.complete (h : s.Recorded) (hsync : s.Synchronised)
    (hpc : (s.worker .reader).pc = .body) (image : List Byte) :
    ({ s with
      buffers := Function.update s.buffers (s.worker .reader).index image
      completed := s.completed ++ [image] }.move .reader .flag).Recorded := by
  have hcount := h.completed_length hpc
  constructor
  · show (s.completed ++ [image]).length = (s.worker .reader).iterations + 1
    simp [hcount]
  · exact h.handedLow
  · exact h.handedCount
  · exact h.inOrder.trans (List.prefix_append ..)
  · intro k hlow hhigh
    have hhigh' : k < (s.completed ++ [image]).length := hhigh
    show (s.completed ++ [image])[k]? =
      some (Function.update s.buffers (s.worker .reader).index image (slot k))
    rw [List.length_append, List.length_singleton] at hhigh'
    obtain hold | rfl := Nat.lt_succ_iff_lt_or_eq.mp hhigh'
    · rw [List.getElem?_append_left hold, h.free hsync hpc image hlow hold]
      exact h.kept k hlow hold
    · rw [hsync.index, ← hcount]
      simp

/-- The buffer that is passed to `set` holds the first image that has not been passed yet. -/
theorem Recorded.hand (h : s.Recorded) (hsync : s.Synchronised) {pc : Pc}
    (hpc : (s.worker .setter).pc = .body) (hleave : pc = .flag ∨ pc = .leave) :
    ({ s with
      handed := s.handed ++ [s.buffers (s.worker .setter).index] }.move .setter pc).Recorded := by
  have hcount : s.handed.length = (s.worker .setter).iterations := by
    obtain hleft | hdone := h.handedCount
    · simp [hpc, Pc.left] at hleft
    · exact hdone.trans (Worker.done_at hpc)
  have hpublished : (s.worker .setter).published = s.handed.length :=
    (Worker.published_at hpc).trans hcount.symm
  have hlt : s.handed.length < s.completed.length := by
    calc s.handed.length = (s.worker .setter).iterations := hcount
      _ < (s.worker .reader).published := hsync.standing_at hpc
      _ ≤ (s.worker .reader).done := Worker.published_le_done _
      _ = s.completed.length := h.completedCount.symm
  have himage : s.completed[s.handed.length] = s.buffers (s.worker .setter).index := by
    have hkept := h.kept s.handed.length hpublished.le hlt
    rw [hsync.index, ← hcount]
    simpa [hlt] using hkept
  have hprefix : s.handed ++ [s.buffers (s.worker .setter).index] <+: s.completed := by
    rw [← himage]
    exact List.concat_get_prefix h.inOrder hlt
  have hlength : (s.handed ++ [s.buffers (s.worker .setter).index]).length =
      (s.worker .setter).iterations + 1 := by
    simp [hcount]
  obtain rfl | rfl := hleave
  · exact ⟨h.completedCount, hlength.ge, .inr hlength, hprefix,
      fun k hlow hhigh => h.kept k (hpublished ▸ hcount ▸ hlow) hhigh⟩
  · exact ⟨h.completedCount, (Nat.le_succ _).trans hlength.ge, .inl (.inl rfl), hprefix,
      fun k hlow hhigh => h.kept k (hpublished ▸ hcount ▸ hlow) hhigh⟩

theorem Recorded.step {t : Loader} (h : s.Recorded) (hsync : s.Synchronised)
    (hstep : Step s t) : t.Recorded := by
  cases hstep with
  | loop w hpc => split <;> exact h.move hpc rfl le_rfl (by simp [Pc.left])
  | acquire w hpc hfree =>
    obtain hpc | hpc := hpc <;> exact h.move hpc rfl le_rfl (by simp [Pc.left])
  | test w hpc => split <;> exact h.move hpc rfl le_rfl (by simp [Pc.left])
  | sleep w hpc => exact h.move hpc rfl le_rfl (by simp [Pc.left])
  | wake w hpc => exact h.woken hpc
  | check w hpc => split <;> exact h.move hpc rfl le_rfl (by simp [Pc.left])
  | fill data hpc => exact h.fill hsync hpc data
  | complete image hpc => exact h.complete hsync hpc image
  | readThrows hpc => exact h.move hpc rfl le_rfl (by simp [Pc.left])
  | hand hpc => exact h.hand hsync hpc (.inl rfl)
  | setThrows hpc => exact h.hand hsync hpc (.inr rfl)
  | flag w hpc =>
    have h' : (s.move w .notify).Recorded := h.move hpc rfl (Nat.zero_le 1) (by simp [Pc.left])
    exact ⟨h'.completedCount, h'.handedLow, h'.handedCount, h'.inOrder, h'.kept⟩
  | notifyNobody w hpc hnobody => exact h.move hpc rfl le_rfl (by simp [Pc.left])
  | notifyOne w v hpc hasleep =>
    have h' : (s.move w .next).Recorded := h.move hpc rfl le_rfl (by simp [Pc.left])
    obtain rfl | rfl := w.eq_or_other v
    · cases hpc.symm.trans hasleep.1
    · apply h'.woken
      rw [move_worker_other]
      exact hasleep.1
  | next w hpc =>
    apply h.put
    · exact (Worker.done_at hpc).symm
    · exact (Worker.published_at hpc).le
    · simp [hpc, Pc.left]
  | unlock w hpc => exact h.move hpc rfl le_rfl (by simp [Pc.left])
  | leave w hpc => exact h.move hpc rfl le_rfl (by simp [Pc.left])
  | mainLock hmain => exact ⟨h.completedCount, h.handedLow, h.handedCount, h.inOrder, h.kept⟩
  | mainStore hmain => exact ⟨h.completedCount, h.handedLow, h.handedCount, h.inOrder, h.kept⟩
  | mainFirst hmain =>
    have h' : (s.notifyAll 0).Recorded := notifyAll_rule 0 (fun r w hpc hr => hr.woken hpc) h
    exact ⟨h'.completedCount, h'.handedLow, h'.handedCount, h'.inOrder, h'.kept⟩
  | mainSecond hmain =>
    have h' : (s.notifyAll 1).Recorded := notifyAll_rule 1 (fun r w hpc hr => hr.woken hpc) h
    exact ⟨h'.completedCount, h'.handedLow, h'.handedCount, h'.inOrder, h'.kept⟩
  | mainUnlock hmain => exact ⟨h.completedCount, h.handedLow, h.handedCount, h.inOrder, h.kept⟩

structure Invariant (s : Loader) : Prop where
  exclusive : s.Exclusive
  synchronised : s.Synchronised
  recorded : s.Recorded

theorem Invariant.step {t : Loader} (h : s.Invariant) (hstep : Step s t) : t.Invariant where
  exclusive := h.exclusive.step hstep
  synchronised := h.synchronised.step h.exclusive hstep
  recorded := h.recorded.step h.synchronised hstep

theorem Started.invariant (h : s.Started) : s.Invariant where
  exclusive := by
    intro m hboth
    have hreader := hboth .reader
    rw [h.worker] at hreader
    cases hreader
  synchronised := by
    have hlimit : ∀ w, s.limit w = w.lag := by
      intro w
      unfold limit
      rw [h.worker]
      exact Nat.zero_add _
    constructor
    · intro w
      rw [h.worker]
      rfl
    · intro w
      rw [h.worker]
      exact Nat.zero_le _
    · intro w k hlow hhigh
      rw [h.empty]
      cases w with
      | reader => rfl
      | setter =>
        rw [hlimit] at hhigh
        cases hhigh
    · intro w
      rw [h.worker]
      trivial
  recorded := by
    constructor
    · rw [h.completed, h.worker]
      rfl
    · rw [h.handed, h.worker]
      exact le_rfl
    · rw [h.handed, h.worker]
      exact .inr rfl
    · rw [h.handed]
      exact List.nil_prefix
    · intro k hlow hhigh
      rw [h.completed] at hhigh
      cases hhigh

end Loader

theorem Reachable.invariant {s : Loader} (h : Reachable s) : s.Invariant := by
  obtain ⟨s0, hstart, hrun⟩ := h
  induction hrun with
  | refl => exact hstart.invariant
  | tail _ hstep ih => exact ih.step hstep

theorem Loader.Synchronised.done_le {s : Loader} (h : s.Synchronised) :
    (s.worker .reader).done ≤ (s.worker .setter).published + 2 := by
  cases hpc : (s.worker .reader).pc with
  | flag =>
    have hlt : (s.worker .reader).iterations < (s.worker .setter).published + 2 :=
      h.standing_at hpc
    exact (Worker.done_at hpc).trans_le hlt
  | _ =>
    calc (s.worker .reader).done = (s.worker .reader).published :=
          (Worker.done_at hpc).trans (Worker.published_at hpc).symm
      _ ≤ (s.worker .setter).published + 2 := h.ordered .reader

theorem Loader.Invariant.length_le {s : Loader} (h : s.Invariant) :
    s.completed.length ≤ s.handed.length + 2 :=
  calc s.completed.length = (s.worker .reader).done := h.recorded.completedCount
    _ ≤ (s.worker .setter).published + 2 := h.synchronised.done_le
    _ ≤ (s.worker .setter).done + 2 := Nat.add_le_add_right (Worker.published_le_done _) 2
    _ ≤ s.handed.length + 2 := Nat.add_le_add_right h.recorded.handedLow 2

/-- A sleeper that nobody is about to notify is ahead of the other thread by its lag, and the
lags of both threads cannot be reached together. -/
theorem Loader.Synchronised.not_both_asleep {s : Loader} (h : s.Synchronised) :
    ¬ ∀ w, (s.worker w).pc = .asleep := by
  intro hasleep
  have hturn : ∀ w, (s.worker w).iterations = s.limit w := by
    intro w
    obtain hturn | ⟨hnotify, -⟩ := h.standing_at (hasleep w)
    · exact hturn
    · cases (hasleep w.other).symm.trans hnotify
  have hpublished : ∀ w, (s.worker w).published = (s.worker w).iterations :=
    fun w => Worker.published_at (hasleep w)
  have hreader : (s.worker .reader).iterations = (s.worker .setter).published + 2 := hturn .reader
  have hsetter : (s.worker .setter).iterations = (s.worker .reader).published := hturn .setter
  rw [hpublished] at hreader hsetter
  omega

/-- The buffers passed to `set` are the images completed by `readPreview`, in their order, but for
at most two that have not been passed yet; no buffer is used by both threads, and one thread can
always go on. -/
theorem double_buffering {s : Loader} (h : Reachable s) :
    s.handed <+: s.completed ∧ s.completed.length ≤ s.handed.length + 2 ∧
      (∀ m, ¬ ∀ w, (s.worker w).owns = some m) ∧ ¬ ∀ w, (s.worker w).pc = .asleep :=
  ⟨h.invariant.recorded.inOrder, h.invariant.length_le, h.invariant.exclusive,
    h.invariant.synchronised.not_both_asleep⟩

def started : Loader where
  stop := false
  buffers := fun _ => []
  buffersEmpty := fun _ => true
  worker := fun _ => ⟨.loop, 0, 0⟩
  main := .outside
  completed := []
  handed := []

/-- The reader is in `readPreview` for the first time. -/
def reading : Loader :=
  (((started.move .reader .lock).move .reader .test).move .reader .check).move .reader .body

def oneRead : Loader :=
  { reading with
    buffers := Function.update reading.buffers 0 [7]
    completed := [[7]] }.move .reader .flag

theorem reachable_oneRead : Reachable oneRead := by
  refine ⟨started, ⟨rfl, fun _ => rfl, fun _ => rfl, rfl, rfl, rfl⟩, ?_⟩
  have hlock : Step started (started.move .reader .lock) := .loop .reader rfl
  have hacquire : Step (started.move .reader .lock)
      ((started.move .reader .lock).move .reader .test) :=
    .acquire .reader (.inl rfl) (by intro v; cases v <;> decide)
  have htest : Step ((started.move .reader .lock).move .reader .test)
      (((started.move .reader .lock).move .reader .test).move .reader .check) := .test .reader rfl
  have hcheck : Step (((started.move .reader .lock).move .reader .test).move .reader .check)
      reading := .check .reader rfl
  have hcomplete : Step reading oneRead := .complete [7] rfl
  exact ((((Relation.ReflTransGen.single hlock).tail hacquire).tail htest).tail hcheck).tail
    hcomplete

theorem double_buffering_oneRead :
    oneRead.handed <+: oneRead.completed ∧
      oneRead.completed.length ≤ oneRead.handed.length + 2 ∧
      (∀ m, ¬ ∀ w, (oneRead.worker w).owns = some m) ∧
      ¬ ∀ w, (oneRead.worker w).pc = .asleep :=
  double_buffering reachable_oneRead

end Rckam.DoubleBuffer
