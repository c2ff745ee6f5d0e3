import Rckam.Client.Stopping

/-! The destruction of `MainWindow`, while the threads of its image loader may still run:
`imagePreview_` is deleted first, then the loader is stopped and its threads are joined. -/
namespace Rckam.DoubleBuffer

/-- What a destructor does to the loader. -/
inductive Task where
  | stop
  | join (w : Role)
  deriving DecidableEq, Repr

/-- What follows `delete imagePreview_`: the rest of `~MainWindow`, and `~ImageLoader`. -/
def destructors : List Task := [.stop, .stop, .join .reader, .join .setter]

/-- The loader, and what is still to be done to it once `imagePreview_` has been deleted. -/
structure Window where
  loader : Loader
  tasks : Option (List Task)

namespace Window

inductive Step (x : Window) : Window → Prop where
  /-- While the window is in use, the button may call `stop`. -/
  | use (l : Loader) (htasks : x.tasks = none) (hstep : DoubleBuffer.Step x.loader l) :
      Step x { x with loader := l }
  | delete (htasks : x.tasks = none) (hmain : x.loader.main = .outside) :
      Step x { x with tasks := some destructors }
  /-- The threads go on during the destruction. -/
  | thread (l : Loader) (hstep : DoubleBuffer.Step x.loader l)
      (hmain : l.main = x.loader.main) : Step x { x with loader := l }
  | stop (l : Loader) (rest : List Task) (htasks : x.tasks = some (.stop :: rest))
      (hstep : DoubleBuffer.Step x.loader l) (hmain : l.main ≠ x.loader.main) :
      Step x ⟨l, if l.main = .outside then some rest else x.tasks⟩
  | join (w : Role) (rest : List Task) (htasks : x.tasks = some (.join w :: rest))
      (hended : (x.loader.worker w).pc = .ended) : Step x { x with tasks := some rest }

/-- The states of all runs that begin with a loader that has been started. -/
def Reachable (x : Window) : Prop :=
  ∃ s0 : Loader, s0.Started ∧ Relation.ReflTransGen Step ⟨s0, none⟩ x

theorem loader_step {x y : Window} (hstep : Step x y) :
    y.loader = x.loader ∨ DoubleBuffer.Step x.loader y.loader := by
  cases hstep with
  | use l htasks hstep => exact Or.inr hstep
  | delete htasks hmain => exact Or.inl rfl
  | thread l hstep hmain => exact Or.inr hstep
  | stop l rest htasks hstep hmain => exact Or.inr hstep
  | join w rest htasks hended => exact Or.inl rfl

theorem Reachable.loader {x : Window} (h : x.Reachable) : DoubleBuffer.Reachable x.loader := by
  obtain ⟨s0, hstarted, hrun⟩ := h
  refine ⟨s0, hstarted, ?_⟩
  induction hrun with
  | refl => exact .refl
  | tail _ hstep ih =>
    rcases loader_step hstep with hsame | hstep
    · rw [hsame]
      exact ih
    · exact ih.tail hstep

theorem Reachable.step {x y : Window} (h : x.Reachable) (hstep : Step x y) : y.Reachable := by
  obtain ⟨s0, hstarted, hrun⟩ := h
  exact ⟨s0, hstarted, hrun.tail hstep⟩

end Window

namespace Loader

variable {s t : Loader} {w : Role}

theorem left_successor {pc pc' : Pc} (hmem : pc' ∈ pc.successors s.stop) (h : pc.left) :
    pc'.left := by
  rcases h with rfl | rfl
  · exact Or.inr (List.mem_singleton.mp hmem)
  · exact absurd hmem List.not_mem_nil

theorem left_step (h : (s.worker w).pc.left) (hstep : Step s t) : (t.worker w).pc.left := by
  rcases worker_step hstep w with hsame | ⟨pc, hmem, hturned⟩
  · rw [hsame]
    exact h
  · rw [hturned, Worker.turned_pc]
    exact left_successor hmem h

theorem body_successor {pc pc' : Pc} (hmem : pc' ∈ pc.successors true) : pc' ≠ .body := by
  revert hmem
  cases pc <;> cases pc' <;> decide

/-- Once the flag is assigned, no thread enters the body of its loop. -/
theorem body_step (hstop : s.stop = true) (h : (s.worker w).pc ≠ .body) (hstep : Step s t) :
    (t.worker w).pc ≠ .body := by
  rcases worker_step hstep w with hsame | ⟨pc, hmem, hturned⟩
  · rw [hsame]
    exact h
  · rw [hstop] at hmem
    rw [hturned, Worker.turned_pc]
    exact body_successor hmem

theorem finished_successor {pc pc' : Pc} (stop : Bool) (hmem : pc' ∈ pc.successors stop)
    (hbody : pc ≠ .body) (hnext : pc ≠ .next) : pc'.finished = pc.finished := by
  revert hmem hbody hnext
  cases stop <;> cases pc <;> cases pc' <;> decide

/-- Only in the body of its loop does a thread deal with an image. -/
theorem done_step (hbody : (s.worker w).pc ≠ .body) (hstep : Step s t) :
    (t.worker w).done = (s.worker w).done := by
  rcases worker_step hstep w with hsame | ⟨pc, hmem, hturned⟩
  · rw [hsame]
  · rw [hturned]
    unfold Worker.turned
    by_cases hnext : (s.worker w).pc = .next
    · rw [hnext] at hmem
      obtain rfl : pc = .unlock := List.mem_singleton.mp hmem
      rw [if_pos hnext]
      exact (Worker.done_at hnext).symm
    · rw [if_neg hnext]
      have hfinished := finished_successor s.stop hmem hbody hnext
      calc (s.worker w).iterations + pc.finished
          = (s.worker w).iterations + (s.worker w).pc.finished := by rw [hfinished]
        _ = (s.worker w).done := rfl

/-- Only the setter in the body of its loop calls `set`. -/
theorem handed_step (hstep : Step s t) :
    t.handed = s.handed ∨ (s.worker .setter).pc = .body := by
  cases hstep with
  | hand hpc => exact Or.inr hpc
  | setThrows hpc => exact Or.inr hpc
  | _ => exact Or.inl rfl

/-- The setter does not call `set` again: it has left its loop, or will leave it at the flag, or
it has dealt with every image that the reader, which has left its loop, has given it. -/
def Harmless (s : Loader) : Prop :=
  (s.worker .setter).pc.left ∨
    (s.stop = true ∧ (s.worker .setter).pc ≠ .body) ∨
    ((s.worker .reader).pc.left ∧ (s.worker .reader).done = (s.worker .setter).done)

/-- Without an image the setter is not behind its test. -/
theorem idle_setter (h : s.Synchronised)
    (hdone : (s.worker .reader).done = (s.worker .setter).done) :
    (s.worker .setter).pc ≠ .body := by
  intro hpc
  have hlt : (s.worker .setter).iterations < s.limit .setter := h.standing_at hpc
  have hle : s.limit .setter ≤ (s.worker .reader).done := (s.worker .reader).published_le_done
  rw [hdone, Worker.done_at hpc] at hle
  exact absurd (hlt.trans_le hle) (lt_irrefl _)

theorem Harmless.step (h : s.Harmless) (hsync : s.Synchronised) (hstep : Step s t) :
    t.Harmless := by
  rcases h with hleft | ⟨hstop, hbody⟩ | ⟨hleft, hdone⟩
  · exact Or.inl (left_step hleft hstep)
  · exact Or.inr (Or.inl ⟨stop_step hstep hstop, body_step hstop hbody hstep⟩)
  · have hreader : (s.worker .reader).pc ≠ .body := by
      intro hpc
      rw [hpc] at hleft
      rcases hleft with h | h <;> contradiction
    have hdone' : (t.worker .reader).done = (t.worker .setter).done := by
      rw [done_step hreader hstep, done_step (idle_setter hsync hdone) hstep]
      exact hdone
    exact Or.inr (Or.inr ⟨left_step hleft hstep, hdone'⟩)

theorem Harmless.handed (h : s.Harmless) (hsync : s.Synchronised) (hstep : Step s t) :
    t.handed = s.handed := by
  rcases handed_step hstep with hsame | hpc
  · exact hsame
  · exfalso
    rcases h with hleft | ⟨-, hbody⟩ | ⟨-, hdone⟩
    · rw [hpc] at hleft
      rcases hleft with h | h <;> contradiction
    · exact hbody hpc
    · exact idle_setter hsync hdone hpc

end Loader

namespace Window

/-- When `imagePreview_` is deleted in a harmless state, `set` is not called afterwards. -/
theorem set_never_after_delete {x y z : Window} (hx : Reachable x) (huse : x.tasks = none)
    (hdelete : Step x y) (hdeleted : y.tasks ≠ none) (hharmless : x.loader.Harmless)
    (hrun : Relation.ReflTransGen Step y z) : z.loader.handed = y.loader.handed := by
  have hsame : y.loader = x.loader := by
    cases hdelete with
    | use l htasks hstep => exact absurd huse hdeleted
    | delete htasks hmain => rfl
    | thread l hstep hmain => exact absurd huse hdeleted
    | stop l rest htasks hstep hmain => cases huse.symm.trans htasks
    | join w rest htasks hended => cases huse.symm.trans htasks
  have hkept : Reachable z ∧ z.loader.Harmless ∧ z.loader.handed = y.loader.handed := by
    induction hrun with
    | refl => exact ⟨hx.step hdelete, hsame ▸ hharmless, rfl⟩
    | tail _ hstep ih =>
      obtain ⟨hreachable, hharmless, hhanded⟩ := ih
      refine ⟨hreachable.step hstep, ?_⟩
      have hsync := hreachable.loader.invariant.synchronised
      rcases loader_step hstep with hsame | hstep
      · rw [hsame]
        exact ⟨hharmless, hhanded⟩
      · exact ⟨hharmless.step hsync hstep, (hharmless.handed hsync hstep).trans hhanded⟩
  exact hkept.2.2

theorem use_run {s t : Loader} (hrun : Relation.ReflTransGen DoubleBuffer.Step s t) :
    Relation.ReflTransGen Step ⟨s, none⟩ ⟨t, none⟩ := by
  induction hrun with
  | refl => exact .refl
  | tail _ hstep ih => exact ih.tail (.use _ rfl hstep)

/-- The button has stopped the loader before the window is destroyed. -/
theorem set_never_after_stop :
    ∃ x y z : Window, Reachable x ∧ x.tasks = none ∧ Step x y ∧ y.tasks ≠ none ∧
      Relation.ReflTransGen Step y z ∧ (z.loader.worker .setter).pc = .ended ∧
        z.loader.handed = y.loader.handed := by
  have hstop : Relation.ReflTransGen DoubleBuffer.Step started started.afterStop :=
    Loader.stop_run rfl fun _ _ _ h => h
  have hx : Reachable ⟨started.afterStop, none⟩ := ⟨started, started_started, use_run hstop⟩
  have hdelete : Step ⟨started.afterStop, none⟩ ⟨started.afterStop, some destructors⟩ :=
    .delete rfl rfl
  have hended : Step ⟨started.afterStop, some destructors⟩
      ⟨started.afterStop.move .setter .ended, some destructors⟩ := .thread _ (.loop .setter rfl) rfl
  have hdeleted : some destructors ≠ none := Option.some_ne_none _
  have hharmless : started.afterStop.Harmless := Or.inr (Or.inl ⟨rfl, by decide⟩)
  refine ⟨_, _, _, hx, rfl, hdelete, hdeleted, .single hended, rfl, ?_⟩
  exact set_never_after_delete hx rfl hdelete hdeleted hharmless (.single hended)

end Window

/-- The reader has given its first image to the setter. -/
def oneFull : Loader :=
  ((((oneRead.assignFlag .reader).move .reader .notify).move .reader .next).put .reader
    ⟨.unlock, 1, 1⟩).move .reader .loop

/-- The setter is about to call `set` for the first time. -/
def setting : Loader :=
  (((oneFull.move .setter .lock).move .setter .test).move .setter .check).move .setter .body

theorem reachable_setting : Reachable setting := by
  obtain ⟨s0, hstarted, hrun⟩ := reachable_oneRead
  have hflag : Step oneRead ((oneRead.assignFlag .reader).move .reader .notify) := .flag .reader rfl
  have hnotify : Step ((oneRead.assignFlag .reader).move .reader .notify)
      (((oneRead.assignFlag .reader).move .reader .notify).move .reader .next) :=
    .notifyNobody .reader rfl (by intro v; cases v <;> decide)
  have hnext : Step (((oneRead.assignFlag .reader).move .reader .notify).move .reader .next)
      ((((oneRead.assignFlag .reader).move .reader .notify).move .reader .next).put .reader
        ⟨.unlock, 1, 1⟩) := .next .reader rfl
  have hunlock : Step ((((oneRead.assignFlag .reader).move .reader .notify).move .reader
      .next).put .reader ⟨.unlock, 1, 1⟩) oneFull := .unlock .reader rfl
  have hloop : Step oneFull (oneFull.move .setter .lock) := .loop .setter rfl
  have hacquire : Step (oneFull.move .setter .lock)
      ((oneFull.move .setter .lock).move .setter .test) :=
    .acquire .setter (.inl rfl) (by intro v; cases v <;> decide)
  have htest : Step ((oneFull.move .setter .lock).move .setter .test)
      (((oneFull.move .setter .lock).move .setter .test).move .setter .check) := .test .setter rfl
  have hcheck : Step (((oneFull.move .setter .lock).move .setter .test).move .setter .check)
      setting := .check .setter rfl
  exact ⟨s0, hstarted, (((((((hrun.tail hflag).tail hnotify).tail hnext).tail hunlock).tail
    hloop).tail hacquire).tail htest).tail hcheck⟩

/-- A setter in the body of its loop calls `set`, whatever the main thread has deleted. -/
theorem set_goes_on {s : Loader} (hpc : (s.worker .setter).pc = .body)
    (tasks : Option (List Task)) :
    ∃ z, Window.Step ⟨s, tasks⟩ z ∧ z.loader.handed ≠ s.handed := by
  have hne : s.handed ++ [s.buffers (s.worker .setter).index] ≠ s.handed := by simp
  exact ⟨_, .thread _ (.hand hpc) rfl, hne⟩

/-- The setter passes an image to the widget that has been deleted. -/
theorem set_after_delete :
    ∃ x y z : Window, Window.Reachable x ∧ x.tasks = none ∧ Window.Step x y ∧ y.tasks ≠ none ∧
      Window.Step y z ∧ z.loader.handed ≠ y.loader.handed := by
  obtain ⟨s0, hstarted, hrun⟩ := reachable_setting
  have hdelete : Window.Step ⟨setting, none⟩ ⟨setting, some destructors⟩ := .delete rfl rfl
  obtain ⟨z, hz, hne⟩ := set_goes_on (by rfl : (setting.worker .setter).pc = .body)
    (some destructors)
  exact ⟨⟨setting, none⟩, _, z, ⟨s0, hstarted, Window.use_run hrun⟩, rfl, hdelete,
    Option.some_ne_none _, hz, hne⟩

end Rckam.DoubleBuffer
