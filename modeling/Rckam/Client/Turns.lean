import Rckam.Client.CriticalSections

/-! The two threads of the image loader take turns on each buffer. -/
namespace Rckam.DoubleBuffer

/-- Whether the thread has assigned `buffersEmpty_` in the iteration that it has not counted. -/
def Pc.flagged : Pc → ℕ
  | .notify | .next => 1
  | _ => 0

/-- How often a thread has assigned `buffersEmpty_`. -/
def Worker.published (x : Worker) : ℕ := x.iterations + x.pc.flagged

theorem Worker.published_at {x : Worker} {pc : Pc} (hpc : x.pc = pc) :
    x.published = x.iterations + pc.flagged :=
  congrArg (fun pc => x.iterations + Pc.flagged pc) hpc

/-- By how many buffers a thread can be ahead of the other. -/
def Role.lag : Role → ℕ
  | .reader => 2
  | .setter => 0

theorem Role.lag_add_other (w : Role) : w.lag + w.other.lag = 2 := by cases w <;> rfl

/-- The buffer of an iteration. -/
def slot (k : ℕ) : Fin 2 := Fin.ofNat 2 k

theorem slot_eq_iff (j k : ℕ) : slot j = slot k ↔ j % 2 = k % 2 := by
  simp [slot, Fin.ext_iff]

theorem slot_succ (k : ℕ) : slot (k + 1) = slot k + 1 := by
  simp [slot, Fin.ext_iff, Fin.val_add]

theorem slot_add_lag (k : ℕ) (w : Role) : slot (k + w.lag) = slot k := by
  rw [slot_eq_iff]
  cases w <;> simp [Role.lag]

namespace Loader

variable {s : Loader}

/-- The iteration that `w` cannot enter before the other thread has finished another one. -/
def limit (s : Loader) (w : Role) : ℕ := (s.worker w.other).published + w.lag

/-- What a thread relies on at a place of its loop. A thread that sleeps while it could go on has
the other thread about to notify it. -/
def Standing (s : Loader) (w : Role) : Pc → Prop
  | .body | .flag => (s.worker w).iterations < s.limit w
  | .check => s.stop = true ∨ (s.worker w).iterations < s.limit w
  | .drowsy => (s.worker w).iterations = s.limit w
  | .asleep => (s.worker w).iterations = s.limit w ∨
      ((s.worker w.other).pc = .notify ∧ (s.worker w.other).index = (s.worker w).index)
  | _ => True

structure Synchronised (s : Loader) : Prop where
  index : ∀ w, (s.worker w).index = slot (s.worker w).iterations
  ordered : ∀ w, (s.worker w).published ≤ s.limit w
  flags : ∀ w k, (s.worker w).published ≤ k → k < s.limit w →
    s.buffersEmpty (slot k) = w.waitsFor
  standing : ∀ w, s.Standing w (s.worker w).pc

theorem Synchronised.standing_at (h : s.Synchronised) {w : Role} {pc : Pc}
    (hpc : (s.worker w).pc = pc) : s.Standing w pc := hpc ▸ h.standing w

theorem limit_other (w : Role) : s.limit w.other = (s.worker w).published + w.other.lag := by
  unfold limit
  rw [Role.other_other]

/-- The flag of the buffer that a thread locks tells it whether it can go on. -/
theorem Synchronised.ready_iff (h : s.Synchronised) {w : Role}
    (hpc : (s.worker w).pc.flagged = 0) :
    s.buffersEmpty (s.worker w).index = w.waitsFor ↔ (s.worker w).iterations < s.limit w := by
  have hpublished : (s.worker w).published = (s.worker w).iterations := by
    unfold Worker.published
    omega
  rw [h.index w]
  constructor
  · intro hflag
    by_contra hlimit
    -- then the whole window belongs to the other thread
    have heq : (s.worker w).iterations = (s.worker w.other).published + w.lag := by
      have := h.ordered w
      unfold limit at this hlimit
      omega
    have hother := h.flags w.other (s.worker w.other).published le_rfl (by
      have := w.lag_add_other
      rw [limit_other]
      omega)
    rw [heq, slot_add_lag, hother, Role.waitsFor_other] at hflag
    simp at hflag
  · intro hlimit
    exact h.flags w _ hpublished.le hlimit

/-- What `w` relies on survives a step that leaves its window as it is and undoes no
notification. -/
theorem Standing.congr {t : Loader} {w : Role} {pc : Pc} (h : s.Standing w pc)
    (hworker : t.worker w = s.worker w) (hlimit : t.limit w = s.limit w)
    (hstop : s.stop = true → t.stop = true)
    (hnotify : pc = .asleep →
      (s.worker w.other).pc = .notify ∧ (s.worker w.other).index = (s.worker w).index →
      (t.worker w.other).pc = .notify ∧ (t.worker w.other).index = (s.worker w).index) :
    t.Standing w pc := by
  unfold Standing at h ⊢
  rw [hworker, hlimit]
  cases pc with
  | body | flag | drowsy => exact h
  | check => exact h.imp_left hstop
  | asleep => exact h.imp_right (hnotify rfl)
  | _ => trivial

/-- Where `w` itself is does not matter. -/
theorem standing_move (w : Role) (pc pc' : Pc) :
    (s.move w pc').Standing w pc ↔ s.Standing w pc := by
  have hlimit : (s.move w pc').limit w = s.limit w := by
    unfold limit
    rw [move_worker_other]
  unfold Standing
  rw [move_worker_self, move_worker_other, hlimit]
  rfl

theorem Synchronised.put (h : s.Synchronised) {w : Role} {x : Worker}
    (hindex : x.index = slot x.iterations) (hpublished : x.published = (s.worker w).published)
    (hstanding : (s.put w x).Standing w x.pc)
    (hnotify : (s.worker w).pc = .notify → ¬ s.SleepsOn w.other (s.worker w).index) :
    (s.put w x).Synchronised := by
  have hsame : ∀ v, ((s.put w x).worker v).published = (s.worker v).published := by
    refine w.forall_of ?_ ?_
    · simpa using hpublished
    · simp
  have hlimit : ∀ v, (s.put w x).limit v = s.limit v := by
    intro v
    unfold limit
    rw [hsame]
  constructor
  · refine w.forall_of ?_ ?_
    · simpa using hindex
    · simpa using h.index w.other
  · intro v
    rw [hsame, hlimit]
    exact h.ordered v
  · intro v k
    rw [hsame, hlimit]
    exact h.flags v k
  · refine w.forall_of ?_ ?_
    · simpa using hstanding
    · rw [put_worker_other]
      apply (h.standing w.other).congr (put_worker_other w x) (hlimit w.other) id
      rintro hasleep ⟨hpc, hindex⟩
      rw [Role.other_other] at hpc hindex
      exact absurd ⟨hasleep, hindex.symm⟩ (hnotify hpc)

theorem Synchronised.move (h : s.Synchronised) {w : Role} {old pc : Pc}
    (hpc : (s.worker w).pc = old) (hflagged : pc.flagged = old.flagged)
    (hstanding : s.Standing w pc)
    (hnotify : old = .notify → ¬ s.SleepsOn w.other (s.worker w).index) :
    (s.move w pc).Synchronised := by
  apply h.put
  · exact h.index w
  · calc (Worker.mk pc _ _).published = (s.worker w).iterations + pc.flagged := rfl
      _ = (s.worker w).iterations + old.flagged := by rw [hflagged]
      _ = (s.worker w).published := (Worker.published_at hpc).symm
  · exact (standing_move w pc pc).mpr hstanding
  · intro hpc'
    exact hnotify (hpc.symm.trans hpc')

theorem Synchronised.woken (h : s.Synchronised) {w : Role} (hpc : (s.worker w).pc = .asleep) :
    (s.move w .woken).Synchronised :=
  h.move hpc rfl trivial (by simp)

theorem Synchronised.test (h : s.Synchronised) {w : Role} (hpc : (s.worker w).pc = .test) :
    (s.move w (if s.predicate w then .check else .drowsy)).Synchronised := by
  have hready := h.ready_iff (w := w) (by rw [hpc]; rfl)
  split
  · next hpredicate =>
    refine h.move hpc rfl ?_ (by simp)
    obtain hflag | hstop := hpredicate
    · exact .inr (hready.mp hflag)
    · exact .inl hstop
  · next hpredicate =>
    refine h.move hpc rfl ?_ (by simp)
    have hflag : ¬ (s.worker w).iterations < s.limit w := by
      intro hlt
      exact hpredicate (.inl (hready.mpr hlt))
    have hordered := h.ordered w
    unfold Worker.published at hordered
    show (s.worker w).iterations = s.limit w
    omega

/-! ### Giving a buffer to the other thread -/

theorem Synchronised.limit_le (h : s.Synchronised) (w : Role) :
    s.limit w ≤ (s.worker w).published + 2 := by
  have hordered := h.ordered w.other
  have hlag := w.lag_add_other
  rw [limit_other] at hordered
  unfold limit
  omega

/-- The iteration that the other thread cannot enter uses the buffer that `w` has next. -/
theorem slot_limit_other (w : Role) : slot (s.limit w.other) = slot (s.worker w).published :=
  calc slot (s.limit w.other) = slot ((s.worker w).published + w.other.lag) :=
        congrArg slot (limit_other w)
    _ = slot (s.worker w).published := slot_add_lag ..

section Flag
variable {w : Role} (h : s.Synchronised) (hpc : (s.worker w).pc = .flag)

include h hpc in
theorem assignFlag_slot (k : ℕ) :
    (s.assignFlag w).buffersEmpty (slot k) =
      if slot k = slot (s.worker w).published then w.other.waitsFor
      else s.buffersEmpty (slot k) := by
  have hindex : (s.worker w).index = slot (s.worker w).published := by
    rw [h.index w, Worker.published_at hpc]
    rfl
  rw [Role.waitsFor_other, ← hindex]
  exact Function.update_apply ..

include h hpc in
theorem assignFlag_self {k : ℕ} (hlow : (s.worker w).published < k) (hhigh : k < s.limit w) :
    (s.assignFlag w).buffersEmpty (slot k) = w.waitsFor := by
  have hwindow := h.limit_le w
  have hne : slot k ≠ slot (s.worker w).published := by
    rw [ne_eq, slot_eq_iff]
    omega
  rw [assignFlag_slot h hpc, if_neg hne]
  exact h.flags w k hlow.le hhigh

include h hpc in
theorem assignFlag_other {k : ℕ} (hlow : (s.worker w.other).published ≤ k)
    (hhigh : k ≤ s.limit w.other) :
    (s.assignFlag w).buffersEmpty (slot k) = w.other.waitsFor := by
  rw [assignFlag_slot h hpc]
  split
  · rfl
  · next hne =>
    have hk : k ≠ s.limit w.other := by
      rintro rfl
      exact hne (slot_limit_other w)
    exact h.flags w.other k hlow (lt_of_le_of_ne hhigh hk)

include h hpc in
theorem same_buffer (hturn : (s.worker w.other).iterations = s.limit w.other) :
    (s.worker w.other).index = (s.worker w).index :=
  calc (s.worker w.other).index = slot (s.worker w.other).iterations := h.index w.other
    _ = slot (s.worker w).published := hturn ▸ slot_limit_other w
    _ = slot (s.worker w).iterations := congrArg slot (Worker.published_at hpc)
    _ = (s.worker w).index := (h.index w).symm

/-- The other thread does not go to sleep meanwhile, and if it sleeps it is notified next. -/
theorem Standing.flagged {t : Loader}
    (hstanding : s.Standing w.other (s.worker w.other).pc) (hexclusive : s.Exclusive)
    (hsame : (s.worker w.other).iterations = s.limit w.other →
      (s.worker w.other).index = (s.worker w).index)
    (hpc : (s.worker w).pc = .flag) (hself : t.worker w = { s.worker w with pc := .notify })
    (hother : t.worker w.other = s.worker w.other)
    (hlimit : t.limit w.other = s.limit w.other + 1) (hstop : t.stop = s.stop) :
    t.Standing w.other (s.worker w.other).pc := by
  cases hpc' : (s.worker w.other).pc with
  | body | flag =>
    rw [hpc'] at hstanding
    show (t.worker w.other).iterations < t.limit w.other
    rw [hother, hlimit]
    exact Nat.lt_succ_of_lt hstanding
  | check =>
    rw [hpc'] at hstanding
    show t.stop = true ∨ (t.worker w.other).iterations < t.limit w.other
    rw [hother, hlimit, hstop]
    exact hstanding.imp_right Nat.lt_succ_of_lt
  | drowsy =>
    rw [hpc'] at hstanding
    -- both threads would be in the critical section of one buffer
    exfalso
    apply hexclusive (s.worker w).index
    refine w.forall_of ?_ ?_
    · exact Worker.owns_at hpc
    · exact (Worker.owns_at hpc').trans (congrArg some (hsame hstanding))
  | asleep =>
    rw [hpc'] at hstanding
    right
    rw [Role.other_other, hself, hother]
    obtain hturn | ⟨hnotify, -⟩ := hstanding
    · exact ⟨rfl, (hsame hturn).symm⟩
    · rw [Role.other_other, hpc] at hnotify
      cases hnotify
  | _ => trivial

include h hpc in
/-- `w` gives the buffer of its iteration to the other thread. -/
theorem Synchronised.flag (hexclusive : s.Exclusive) :
    ((s.assignFlag w).move w .notify).Synchronised := by
  set t := (s.assignFlag w).move w .notify
  have hself : t.worker w = { s.worker w with pc := .notify } := move_worker_self ..
  have hother : t.worker w.other = s.worker w.other := move_worker_other ..
  have hpublished : (t.worker w).published = (s.worker w).published + 1 := by
    rw [hself, Worker.published_at hpc]
    rfl
  have hlimit : t.limit w = s.limit w := by
    unfold limit
    rw [hother]
  have hlimitOther : t.limit w.other = s.limit w.other + 1 := by
    rw [limit_other, limit_other, hpublished]
    omega
  constructor
  · refine w.forall_of ?_ ?_
    · rw [hself]
      exact h.index w
    · rw [hother]
      exact h.index w.other
  · refine w.forall_of ?_ ?_
    · have hlt : (s.worker w).iterations < s.limit w := h.standing_at hpc
      rw [hpublished, hlimit, Worker.published_at hpc]
      exact hlt
    · rw [hother, hlimitOther]
      exact Nat.le_succ_of_le (h.ordered w.other)
  · refine w.forall_of ?_ ?_
    · intro k hlow hhigh
      exact assignFlag_self h hpc (hpublished.symm.trans_le hlow) (hhigh.trans_eq hlimit)
    · intro k hlow hhigh
      rw [hother] at hlow
      exact assignFlag_other h hpc hlow (Nat.le_of_lt_succ (hhigh.trans_eq hlimitOther))
  · refine w.forall_of ?_ ?_
    · rw [hself]
      trivial
    · have hstanding := (h.standing w.other).flagged hexclusive (same_buffer h hpc) hpc hself
        hother hlimitOther rfl
      rwa [hother]

end Flag

theorem Standing.check_body {w : Role} (h : s.Standing w .check) (hstop : s.stop = false) :
    s.Standing w .body := by
  unfold Standing at h ⊢
  simpa [hstop] using h

theorem Synchronised.step {t : Loader} (h : s.Synchronised) (hexclusive : s.Exclusive)
    (hstep : Step s t) : t.Synchronised := by
  cases hstep with
  | loop w hpc => split <;> exact h.move hpc rfl trivial (by simp)
  | acquire w hpc hfree =>
    obtain hpc | hpc := hpc <;> exact h.move hpc rfl trivial (by simp)
  | test w hpc => exact h.test hpc
  | sleep w hpc => exact h.move hpc rfl (.inl (h.standing_at hpc)) (by simp)
  | wake w hpc => exact h.woken hpc
  | check w hpc =>
    split
    · exact h.move hpc rfl trivial (by simp)
    · next hstop =>
      have hbody := (h.standing_at hpc).check_body (by simpa using hstop)
      exact h.move hpc rfl hbody (by simp)
  | fill data hpc => exact ⟨h.index, h.ordered, h.flags, h.standing⟩
  | complete image hpc =>
    have hstanding : s.Standing .reader .body := h.standing_at hpc
    have h' : (s.move .reader .flag).Synchronised := h.move hpc rfl hstanding (by simp)
    exact ⟨h'.index, h'.ordered, h'.flags, h'.standing⟩
  | readThrows hpc => exact h.move hpc rfl trivial (by simp)
  | hand hpc =>
    have hstanding : s.Standing .setter .body := h.standing_at hpc
    have h' : (s.move .setter .flag).Synchronised := h.move hpc rfl hstanding (by simp)
    exact ⟨h'.index, h'.ordered, h'.flags, h'.standing⟩
  | setThrows hpc =>
    have h' : (s.move .setter .leave).Synchronised := h.move hpc rfl trivial (by simp)
    exact ⟨h'.index, h'.ordered, h'.flags, h'.standing⟩
  | flag w hpc => exact h.flag hpc hexclusive
  | notifyNobody w hpc hnobody => exact h.move hpc rfl trivial fun _ => hnobody w.other
  | notifyOne w v hpc hasleep =>
    obtain rfl | rfl := w.eq_or_other v
    · cases hpc.symm.trans hasleep.1
    · -- the notified thread is no longer asleep when the notification has been made
      rw [move_comm]
      have h' := h.woken hasleep.1
      have hself : (s.move w.other .woken).worker w = s.worker w := by
        have := move_worker_other (s := s) w.other .woken
        rwa [Role.other_other] at this
      have hpc' : ((s.move w.other .woken).worker w).pc = .notify := by
        rw [hself]
        exact hpc
      refine h'.move hpc' rfl trivial ?_
      rintro - ⟨hpc', -⟩
      rw [move_worker_self] at hpc'
      cases hpc'
  | next w hpc =>
    refine h.put ?_ ?_ trivial (by simp [hpc])
    · show (s.worker w).index + 1 = slot ((s.worker w).iterations + 1)
      rw [h.index w, slot_succ]
    · exact (Worker.published_at hpc).symm
  | unlock w hpc => exact h.move hpc rfl trivial (by simp)
  | leave w hpc => exact h.move hpc rfl trivial (by simp)
  | mainLock hmain => exact ⟨h.index, h.ordered, h.flags, h.standing⟩
  | mainStore hmain =>
    refine ⟨h.index, h.ordered, h.flags, ?_⟩
    intro w
    exact (h.standing w).congr rfl rfl (fun _ => rfl) (fun _ => id)
  | mainFirst hmain =>
    have h' : (s.notifyAll 0).Synchronised := notifyAll_rule 0 (fun r w hpc hr => hr.woken hpc) h
    exact ⟨h'.index, h'.ordered, h'.flags, h'.standing⟩
  | mainSecond hmain =>
    have h' : (s.notifyAll 1).Synchronised := notifyAll_rule 1 (fun r w hpc hr => hr.woken hpc) h
    exact ⟨h'.index, h'.ordered, h'.flags, h'.standing⟩
  | mainUnlock hmain => exact ⟨h.index, h.ordered, h.flags, h.standing⟩

end Loader

end Rckam.DoubleBuffer
