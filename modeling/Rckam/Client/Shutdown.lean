import Mathlib.Algebra.Order.BigOperators.Group.List
import Rckam.Client.Progress
import Rckam.Client.Teardown
import Rckam.Library.Variants

/-! How long the destruction of `MainWindow` takes: once `stop_` is set, the number of steps of the
destructor and of the threads is bounded. -/
namespace Rckam.DoubleBuffer
open Variants

/-- How many steps a thread takes at most until it has ended, when `stop_` is set. -/
def Pc.remaining : Pc → ℕ
  | .body | .drowsy => 6
  | .flag | .asleep => 5
  | .lock | .woken | .notify => 4
  | .test | .next => 3
  | .check | .unlock => 2
  | .leave | .loop => 1
  | .ended => 0

theorem Pc.remaining_successor {old pc : Pc} (hmem : pc ∈ old.successors true) :
    pc.remaining < old.remaining := by
  revert hmem
  cases old <;> cases pc <;> decide

theorem Pc.remaining_le (pc : Pc) : pc.remaining ≤ 6 := by cases pc <;> decide

/-- How many steps of `stop` are left, with the one that returns. -/
def Main.remaining : Main → ℕ
  | .outside => 4
  | .locked => 3
  | .stored => 2
  | .notifiedFirst => 1
  | .notifiedSecond => 0

def Task.steps : Task → ℕ
  | .stop => 5
  | .join _ => 1

namespace Loader

variable {s t : Loader} {w : Role}

theorem main_step (hstep : Step s t) : t.main = s.main ∨
    t.main ≠ .outside ∧ t.main.remaining < s.main.remaining ∨
      s.main = .notifiedSecond ∧ t.main = .outside := by
  cases hstep with
  | mainLock hmain | mainStore hmain | mainFirst hmain | mainSecond hmain =>
    refine Or.inr (Or.inl ⟨by simp, ?_⟩)
    simp [hmain, Main.remaining]
  | mainUnlock hmain => exact Or.inr (Or.inr ⟨hmain, rfl⟩)
  | _ => exact Or.inl rfl

/-- The main thread can always go on in `stop`. -/
theorem main_goes_on (s : Loader) : ∃ t, Step s t ∧ t.main ≠ s.main := by
  cases hmain : s.main with
  | outside => exact ⟨_, .mainLock hmain, by simp⟩
  | locked => exact ⟨_, .mainStore hmain, by simp⟩
  | stored => exact ⟨_, .mainFirst hmain, by simp⟩
  | notifiedFirst => exact ⟨_, .mainSecond hmain, by simp⟩
  | notifiedSecond => exact ⟨_, .mainUnlock hmain, by simp⟩

/-- Once the flag is assigned, every step of a thread brings it closer to its end. -/
theorem remaining_step (hstop : s.stop = true) (hstep : Step s t) (w : Role) :
    t.worker w = s.worker w ∨ (t.worker w).pc.remaining < (s.worker w).pc.remaining := by
  rcases worker_step hstep w with hsame | ⟨pc, hmem, hturned⟩
  · exact Or.inl hsame
  · right
    rw [hstop] at hmem
    rw [hturned, Worker.turned_pc]
    exact Pc.remaining_successor hmem

/-- The images that a thread has finished: those that have been completed, or passed to `set`. -/
def output (s : Loader) : Role → List (List Byte)
  | .reader => s.completed
  | .setter => s.handed

/-- Only a thread that leaves the body of its loop finishes an image. -/
theorem output_step (hstep : Step s t) (w : Role) : t.output w = s.output w ∨
    (s.worker w).pc = .body ∧ (t.worker w).pc ≠ .body ∧
      ∃ image, t.output w = s.output w ++ [image] := by
  cases hstep with
  | complete image hpc =>
    cases w with
    | reader => exact Or.inr ⟨hpc, by simp [move, put], image, rfl⟩
    | setter => exact Or.inl rfl
  | hand hpc | setThrows hpc =>
    cases w with
    | reader => exact Or.inl rfl
    | setter => exact Or.inr ⟨hpc, by simp [move, put], _, rfl⟩
  | _ =>
    left
    cases w <;> rfl

/-- Once the flag is assigned, a thread finishes at most the image that it is at. -/
theorem output_run (hstop : s.stop = true) (hrun : Relation.ReflTransGen Step s t) (w : Role) :
    t.output w = s.output w ∨
      (s.worker w).pc = .body ∧ ∃ image, t.output w = s.output w ++ [image] := by
  have hkept : t.stop = true ∧ ((t.worker w).pc = .body → (s.worker w).pc = .body) ∧
      (t.output w = s.output w ∨ (s.worker w).pc = .body ∧ (t.worker w).pc ≠ .body ∧
        ∃ image, t.output w = s.output w ++ [image]) := by
    induction hrun with
    | refl => exact ⟨hstop, id, Or.inl rfl⟩
    | @tail t u _ hstep ih =>
      obtain ⟨hstop, hback, hfinished⟩ := ih
      have hback' : (u.worker w).pc = .body → (t.worker w).pc = .body := by
        intro hbody
        by_contra hout
        exact body_step hstop hout hstep hbody
      refine ⟨stop_step hstep hstop, fun hbody => hback (hback' hbody), ?_⟩
      rcases hfinished with hsame | ⟨hbody, hout, himage⟩
      · rcases output_step hstep w with hsame' | ⟨hbody, hout, image, himage⟩
        · exact Or.inl (hsame'.trans hsame)
        · exact Or.inr ⟨hback hbody, hout, image, hsame ▸ himage⟩
      · rcases output_step hstep w with hsame' | ⟨hbody', -, -⟩
        · rw [hsame']
          exact Or.inr ⟨hbody, fun h => hout (hback' h), himage⟩
        · exact absurd hbody' hout
  rcases hkept.2.2 with hsame | ⟨hbody, -, himage⟩
  · exact Or.inl hsame
  · exact Or.inr ⟨hbody, himage⟩

/-- What is received may be what is in the buffer already. -/
theorem fill_self (hpc : (s.worker .reader).pc = .body) : Step s s := by
  have hfill := Step.fill (s.buffers (s.worker .reader).index) hpc
  rwa [Function.update_eq_self] at hfill

theorem ended_step (h : (s.worker w).pc = .ended) (hstep : Step s t) :
    t.worker w = s.worker w := by
  rcases worker_step hstep w with hsame | ⟨pc, hmem, -⟩
  · exact hsame
  · rw [h] at hmem
    exact absurd hmem List.not_mem_nil

end Loader

namespace Window

variable {x y : Window}

/-- Where the destructor and the threads are. -/
def place (x : Window) : Option (List Task) × Main × Pc × Pc :=
  (x.tasks, x.loader.main, (x.loader.worker .reader).pc, (x.loader.worker .setter).pc)

/-- How many steps the destructor and the threads take at most. -/
def remaining (x : Window) : ℕ :=
  ((x.tasks.getD []).map Task.steps).sum + x.loader.main.remaining +
    (x.loader.worker .reader).pc.remaining + (x.loader.worker .setter).pc.remaining

theorem remaining_of_place (h : y.place = x.place) : y.remaining = x.remaining := by
  simp only [place, Prod.mk.injEq] at h
  simp [remaining, h]

/-- `imagePreview_` has been deleted, and the flag is assigned. -/
structure Closing (x : Window) : Prop where
  tasks : x.tasks ≠ none
  stop : x.loader.stop = true

theorem Closing.step (h : x.Closing) (hstep : Step x y) : y.Closing := by
  have hnone {l : List Task} : some l ≠ none := Option.some_ne_none l
  cases hstep with
  | use l htasks hstep => exact absurd htasks h.tasks
  | delete htasks hmain => exact absurd htasks h.tasks
  | thread l hstep hmain => exact ⟨h.tasks, Loader.stop_step hstep h.stop⟩
  | stop l rest htasks hstep hmain =>
    refine ⟨?_, Loader.stop_step hstep h.stop⟩
    show (if l.main = .outside then some rest else x.tasks) ≠ none
    split
    · exact hnone
    · exact h.tasks
  | join w rest htasks hended => exact ⟨hnone, h.stop⟩

/-- A step of the threads alone. -/
theorem thread_place {l : Loader} (hstop : x.loader.stop = true)
    (hstep : DoubleBuffer.Step x.loader l) (hmain : l.main = x.loader.main) :
    place { x with loader := l } = x.place ∨ remaining { x with loader := l } < x.remaining := by
  have hreader := Loader.remaining_step hstop hstep .reader
  have hsetter := Loader.remaining_step hstop hstep .setter
  simp only [place, remaining, hmain]
  rcases hreader with hreader | hreader
  · rcases hsetter with hsetter | hsetter
    · simp [hreader, hsetter]
    · rw [hreader]
      omega
  · rcases hsetter with hsetter | hsetter
    · rw [hsetter]
      omega
    · omega

/-- A step of `stop`. -/
theorem stop_remaining {l : Loader} {rest : List Task} (hstop : x.loader.stop = true)
    (htasks : x.tasks = some (.stop :: rest)) (hstep : DoubleBuffer.Step x.loader l)
    (hmain : l.main ≠ x.loader.main) :
    remaining ⟨l, if l.main = .outside then some rest else x.tasks⟩ < x.remaining := by
  have hworker (w : Role) :
      (l.worker w).pc.remaining ≤ (x.loader.worker w).pc.remaining := by
    rcases Loader.remaining_step hstop hstep w with hsame | hlt
    · rw [hsame]
    · exact hlt.le
  have hreader := hworker .reader
  have hsetter := hworker .setter
  simp only [remaining, htasks]
  rcases Loader.main_step hstep with hsame | ⟨hinside, hlt⟩ | ⟨hlast, houtside⟩
  · exact absurd hsame hmain
  · rw [if_neg hinside]
    omega
  · rw [if_pos houtside, hlast, houtside]
    simp only [Option.getD_some, List.map_cons, List.sum_cons, Task.steps, Main.remaining]
    omega

/-- Nothing but a reception leaves the destructor and the threads where they are. -/
theorem Closing.place_step (h : x.Closing) (hstep : Step x y) :
    y.place = x.place ∨ y.remaining < x.remaining := by
  cases hstep with
  | use l htasks hstep => exact absurd htasks h.tasks
  | delete htasks hmain => exact absurd htasks h.tasks
  | thread l hstep hmain => exact thread_place h.stop hstep hmain
  | stop l rest htasks hstep hmain => exact Or.inr (stop_remaining h.stop htasks hstep hmain)
  | join w rest htasks hended =>
    right
    simp only [remaining, htasks, Option.getD_some, List.map_cons, List.sum_cons, Task.steps]
    omega

theorem closing_variant :
    Variant Step (fun x y => y.place ≠ x.place) Closing remaining where
  keeps h hstep := h.step hstep
  le h hstep := by
    rcases h.place_step hstep with hsame | hlt
    · exact (remaining_of_place hsame).le
    · exact hlt.le
  lt h hstep hmoved := (h.place_step hstep).resolve_left hmoved

/-- What has been done of the destruction. -/
structure Scheduled (x : Window) (l : List Task) : Prop where
  suffix : l <:+ destructors
  stopped : .stop ∉ l → x.loader.Stopped
  joined : ∀ w, .join w ∉ l → (x.loader.worker w).pc = .ended

theorem scheduled_of_reachable (h : Reachable x) : ∀ l, x.tasks = some l → x.Scheduled l := by
  obtain ⟨s0, hstarted, hrun⟩ := h
  induction hrun with
  | refl => nofun
  | @tail x y hrun hstep ih =>
    have hflagged := Loader.flagged_of_reachable (Reachable.loader ⟨s0, hstarted, hrun⟩)
    cases hstep with
    | use l htasks hstep =>
      intro l' htasks'
      cases htasks.symm.trans htasks'
    | delete htasks hmain =>
      rintro l ⟨⟩
      refine ⟨List.suffix_rfl, fun h => absurd List.mem_cons_self h, ?_⟩
      intro w h
      cases w <;> simp [destructors] at h
    | thread l hstep hmain =>
      intro l' htasks
      have hx := ih l' htasks
      refine ⟨hx.suffix, fun h => ?_, fun w h => ?_⟩
      · have hstopped := hx.stopped h
        exact ⟨Loader.stop_step hstep hstopped.stop, hmain.trans hstopped.main⟩
      · have hended := hx.joined w h
        show (l.worker w).pc = .ended
        rw [Loader.ended_step hended hstep]
        exact hended
    | stop l rest htasks hstep hmain =>
      have hx := ih _ htasks
      have hended (w : Role) (h : .join w ∉ rest) : (l.worker w).pc = .ended := by
        have hended := hx.joined w (by simp [h])
        rw [Loader.ended_step hended hstep]
        exact hended
      intro l' htasks'
      rcases Loader.main_step hstep with hsame | ⟨hinside, -⟩ | ⟨hlast, houtside⟩
      · exact absurd hsame hmain
      · obtain rfl : .stop :: rest = l' := by simpa [hinside, htasks] using htasks'
        exact ⟨hx.suffix, fun h => absurd List.mem_cons_self h,
          fun w h => hended w (by simpa using h)⟩
      · obtain rfl : rest = l' := by simpa [houtside] using htasks'
        have hstop := hflagged.stop (by simp [hlast]) (by simp [hlast])
        exact ⟨(List.suffix_cons _ _).trans hx.suffix,
          fun _ => ⟨Loader.stop_step hstep hstop, houtside⟩, hended⟩
    | join w rest htasks hended =>
      rintro l ⟨⟩
      have hx := ih _ htasks
      refine ⟨(List.suffix_cons _ _).trans hx.suffix, fun h => hx.stopped (by simpa using h), ?_⟩
      intro v h
      by_cases hv : v = w
      · rw [hv]
        exact hended
      · exact hx.joined v (by simp [h, hv])

theorem Reachable.remaining_le (h : x.Reachable) : x.remaining ≤ 28 := by
  have htasks : ((x.tasks.getD []).map Task.steps).sum ≤ 12 := by
    cases hl : x.tasks with
    | none => simp
    | some l =>
      have hsuffix := (scheduled_of_reachable h l hl).suffix
      exact (hsuffix.sublist.map Task.steps).sum_le_sum (by simp)
  have hmain : x.loader.main.remaining ≤ 4 := by cases x.loader.main <;> decide
  have hreader := (x.loader.worker .reader).pc.remaining_le
  have hsetter := (x.loader.worker .setter).pc.remaining_le
  unfold remaining
  omega

theorem loader_run {f : ℕ → Window} {n : ℕ} (hsteps : ∀ k < n, Step (f k) (f (k + 1))) :
    Relation.ReflTransGen DoubleBuffer.Step (f 0).loader (f n).loader := by
  induction n with
  | zero => exact .refl
  | succ n ih =>
    have hrun := ih fun k hk => hsteps k (by omega)
    rcases loader_step (hsteps n n.lt_succ_self) with hsame | hstep
    · rw [hsame]
      exact hrun
    · exact hrun.tail hstep

/-- When `imagePreview_` has been deleted and the flag is assigned, the destructor and the threads
take at most 28 steps in any run, and each thread finishes at most the image that it is at. -/
theorem closing_bounded {f : ℕ → Window} {n : ℕ} (hreachable : (f 0).Reachable)
    (hclosing : (f 0).Closing) (hsteps : ∀ k < n, Step (f k) (f (k + 1))) :
    ((Finset.range n).filter fun k => (f (k + 1)).place ≠ (f k).place).card ≤ 28 ∧
      ∀ w, (f n).loader.output w = (f 0).loader.output w ∨
        ((f 0).loader.worker w).pc = .body ∧
          ∃ image, (f n).loader.output w = (f 0).loader.output w ++ [image] := by
  have hcount := closing_variant.count_le hclosing hsteps
  have hle := hreachable.remaining_le
  refine ⟨?_, Loader.output_run hclosing.stop (loader_run hsteps)⟩
  omega

/-- `readPreviews` waits for a second datagram when the window is destroyed, and `setPreviews`
ends. -/
def closing : ℕ → Window
  | 0 => ⟨secondReading.afterStop, some destructors⟩
  | _ + 1 => ⟨secondReading.afterStop.move .setter .ended, some destructors⟩

theorem reachable_closing : (closing 0).Reachable := by
  obtain ⟨s0, hstarted, hrun⟩ := reachable_secondReading
  have hstop : Relation.ReflTransGen DoubleBuffer.Step secondReading secondReading.afterStop :=
    Loader.stop_run rfl fun _ _ _ h => h
  have hdelete : Step ⟨secondReading.afterStop, none⟩ (closing 0) := .delete rfl rfl
  exact ⟨s0, hstarted, (use_run (hrun.trans hstop)).tail hdelete⟩

theorem closing_step (n : ℕ) : Step (closing n) (closing (n + 1)) := by
  cases n with
  | zero => exact .thread _ (.loop .setter rfl) rfl
  | succ n => exact .thread _ (Loader.fill_self rfl) rfl

theorem closing_bounded_closing :
    ((Finset.range 3).filter fun k => (closing (k + 1)).place ≠ (closing k).place).card ≤ 28 ∧
      ∀ w, (closing 3).loader.output w = (closing 0).loader.output w ∨
        ((closing 0).loader.worker w).pc = .body ∧
          ∃ image, (closing 3).loader.output w = (closing 0).loader.output w ++ [image] :=
  closing_bounded reachable_closing ⟨Option.some_ne_none _, rfl⟩ fun k _ => closing_step k

end Window

end Rckam.DoubleBuffer
