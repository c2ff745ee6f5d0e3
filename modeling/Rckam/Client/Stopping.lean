import Rckam.Client.Handover
import Rckam.Client.Places

/-! Which threads of the image loader `stop` wakes: the flag is assigned under another mutex than
the one that a thread holds while it evaluates the predicate of `wait`. -/
namespace Rckam.DoubleBuffer

/-- The thread has found the predicate of `wait` false, and has not been notified since. A thread
that is notified in its sleep is `woken`. -/
def Pc.dozes : Pc → Bool
  | .drowsy | .asleep => true
  | _ => false

/-- The condition variables that `stop` has notified, when it has assigned the flag. -/
def Main.notified : Main → Fin 2 → Bool
  | .stored, _ => false
  | .notifiedFirst, m => m == 0
  | _, _ => true

namespace Loader

variable {s t : Loader}

/-- `stop` has returned. -/
structure Stopped (s : Loader) : Prop where
  stop : s.stop = true
  main : s.main = .outside

/-- A thread has found the predicate false and goes to sleep on a condition variable next. -/
def Drowsy (s : Loader) (m : Fin 2) : Prop :=
  ∃ w, (s.worker w).pc = .drowsy ∧ (s.worker w).index = m

/-- No thread sleeps on a condition variable or is about to. -/
def Quiet (s : Loader) (m : Fin 2) : Prop :=
  ∀ w, (s.worker w).index = m → (s.worker w).pc.dozes = false

/-- A step that is not a `notify_all` of `stop` on the condition variable of a drowsy thread. -/
structure Careful (s t : Loader) : Prop where
  step : Step s t
  first : s.main = .stored → t.main = .notifiedFirst → ¬ s.Drowsy 0
  second : s.main = .notifiedFirst → t.main = .notifiedSecond → ¬ s.Drowsy 1

variable {m : Fin 2}

theorem dozes_successor {pc pc' : Pc} (hmem : pc' ∈ pc.successors true)
    (hdozes : pc'.dozes = true) : pc.dozes = true := by
  revert hmem hdozes
  cases pc <;> cases pc' <;> decide

/-- Once the flag is assigned, no thread finds the predicate false. -/
theorem Quiet.step (h : s.Quiet m) (hstop : s.stop = true) (hstep : Step s t) : t.Quiet m := by
  intro w hindex
  rcases worker_step hstep w with hsame | ⟨pc, hmem, hturned⟩
  · rw [hsame] at hindex ⊢
    exact h w hindex
  · rw [hturned] at hindex ⊢
    rw [Worker.turned_pc]
    by_contra hdozes
    rw [hstop] at hmem
    have hdozed := dozes_successor hmem (Bool.eq_true_of_not_eq_false hdozes)
    have hnext : (s.worker w).pc ≠ .next := by
      intro hpc
      rw [hpc] at hdozed
      contradiction
    rw [Worker.turned_index hnext] at hindex
    have hawake := h w hindex
    rw [hdozed] at hawake
    contradiction

/-- `notify_all` wakes every thread that dozes on the condition variable, but for a drowsy one. -/
theorem quiet_notifyAll (hdrowsy : ¬ s.Drowsy m) : (s.notifyAll m).Quiet m := by
  intro w hindex
  have hworker : (s.notifyAll m).worker w =
      if s.SleepsOn w m then { s.worker w with pc := .woken } else s.worker w := rfl
  by_cases hsleeps : s.SleepsOn w m
  · rw [hworker, if_pos hsleeps]
    rfl
  · rw [hworker, if_neg hsleeps] at hindex ⊢
    cases hpc : (s.worker w).pc with
    | drowsy => exact absurd ⟨w, hpc, hindex⟩ hdrowsy
    | asleep => exact absurd ⟨hpc, hindex⟩ hsleeps
    | _ => rfl

/-- When the flag is assigned, the threads have been woken as far as they have been notified. -/
def Informed (s : Loader) : Prop :=
  s.stop = true → ∀ m, s.main.notified m = true → s.Quiet m

theorem Informed.step (h : s.Informed) (hstep : Careful s t) : t.Informed := by
  intro hstop m hnotified
  have hcases : (s.stop = true ∧ s.main.notified m = true) ∨ t.Quiet m := by
    have hfirst := hstep.first
    have hsecond := hstep.second
    cases hstep.step with
    | mainLock hmain =>
      rw [hmain]
      exact Or.inl ⟨hstop, rfl⟩
    | mainStore hmain => contradiction
    | mainFirst hmain =>
      right
      obtain rfl : m = 0 := by simpa [Main.notified] using hnotified
      have h' := quiet_notifyAll (hfirst hmain rfl)
      exact h'
    | mainSecond hmain =>
      by_cases hm : m = 0
      · left
        rw [hmain, hm]
        exact ⟨hstop, rfl⟩
      · right
        obtain rfl : m = 1 := by omega
        have h' := quiet_notifyAll (hsecond hmain rfl)
        exact h'
    | mainUnlock hmain =>
      rw [hmain]
      exact Or.inl ⟨hstop, rfl⟩
    | _ => exact Or.inl ⟨hstop, hnotified⟩
  rcases hcases with ⟨hstop, hnotified⟩ | hquiet
  · exact (h hstop m hnotified).step hstop hstep.step
  · exact hquiet

theorem Informed.run (h : s.Informed) (hrun : Relation.ReflTransGen Careful s t) : t.Informed := by
  induction hrun with
  | refl => exact h
  | tail _ hstep ih => exact ih.step hstep

theorem Started.informed (h : s.Started) : s.Informed := by
  intro hstop
  rw [h.stop] at hstop
  contradiction

theorem Informed.quiet (h : s.Informed) (hstopped : s.Stopped) (m : Fin 2) : s.Quiet m := by
  refine h hstopped.stop m ?_
  rw [hstopped.main]
  rfl

theorem stop_step (hstep : Step s t) (hstop : s.stop = true) : t.stop = true := by
  cases hstep with
  | mainStore hmain => rfl
  | _ => exact hstop

/-- Behind the return of `stop` no thread goes to sleep. -/
theorem quiet_run (hstop : s.stop = true) (hquiet : ∀ m, s.Quiet m)
    (hrun : Relation.ReflTransGen Step s t) : ∀ m, t.Quiet m := by
  have hboth : t.stop = true ∧ ∀ m, t.Quiet m := by
    induction hrun with
    | refl => exact ⟨hstop, hquiet⟩
    | tail _ hstep ih => exact ⟨stop_step hstep ih.1, fun m => (ih.2 m).step ih.1 hstep⟩
  exact hboth.2

/-! ### A notification that comes too early -/

/-- The flag is assigned before the first notification. -/
def Flagged (s : Loader) : Prop :=
  s.main = .outside ∨ s.main = .locked ∨ s.stop = true

theorem Flagged.step (h : s.Flagged) (hstep : Step s t) : t.Flagged := by
  cases hstep with
  | mainLock hmain => exact Or.inr (Or.inl rfl)
  | mainStore hmain => exact Or.inr (Or.inr rfl)
  | mainFirst hmain =>
    rcases h with h | h | h
    · cases hmain.symm.trans h
    · cases hmain.symm.trans h
    · exact Or.inr (Or.inr h)
  | mainSecond hmain =>
    rcases h with h | h | h
    · cases hmain.symm.trans h
    · cases hmain.symm.trans h
    · exact Or.inr (Or.inr h)
  | mainUnlock hmain => exact Or.inl rfl
  | _ => exact h

theorem flagged_of_reachable (h : Reachable s) : s.Flagged := by
  obtain ⟨s0, hstarted, hrun⟩ := h
  induction hrun with
  | refl => exact Or.inl hstarted.main
  | tail _ hstep ih => exact ih.step hstep

/-- A step of the main thread does not change where a drowsy thread is. -/
theorem drowsy_stays {w : Role} (hstep : Step s t) (hmain : t.main ≠ s.main)
    (hpc : (s.worker w).pc = .drowsy) : (t.worker w).pc = .drowsy := by
  have hnotified (n : Fin 2) : ((s.notifyAll n).worker w).pc = .drowsy := by
    have hawake : ¬ s.SleepsOn w n := by
      rintro ⟨hasleep, -⟩
      cases hpc.symm.trans hasleep
    have hstays : (s.notifyAll n).worker w = s.worker w := if_neg hawake
    rw [hstays]
    exact hpc
  cases hstep with
  | mainLock hmain => exact hpc
  | mainStore hmain => exact hpc
  | mainFirst hmain => exact hnotified 0
  | mainSecond hmain => exact hnotified 1
  | mainUnlock hmain => exact hpc
  | _ => exact absurd rfl hmain

/-- A thread that is drowsy behind its notification falls asleep, and `stop` returns. -/
theorem forgotten_second {w : Role} (hmain : s.main = .notifiedSecond) (hstop : s.stop = true)
    (hpc : (s.worker w).pc = .drowsy) :
    ∃ u, Relation.ReflTransGen Step s u ∧ u.Stopped ∧ (u.worker w).pc = .asleep := by
  have hsleep : Step s (s.move w .asleep) := .sleep w hpc
  have hunlock : Step (s.move w .asleep) { s.move w .asleep with main := .outside } :=
    .mainUnlock hmain
  refine ⟨_, (Relation.ReflTransGen.single hsleep).tail hunlock, ⟨hstop, rfl⟩, ?_⟩
  show ((s.move w .asleep).worker w).pc = .asleep
  rw [move_worker_self]

theorem forgotten_first {w : Role} (hmain : s.main = .notifiedFirst) (hstop : s.stop = true)
    (hpc : (s.worker w).pc = .drowsy) :
    ∃ u, Relation.ReflTransGen Step s u ∧ u.Stopped ∧ (u.worker w).pc = .asleep := by
  have hsecond : Step s { s.notifyAll 1 with main := .notifiedSecond } := .mainSecond hmain
  have hne : Main.notifiedSecond ≠ s.main := by
    rw [hmain]
    decide
  obtain ⟨u, hrun, hu⟩ := forgotten_second (s := { s.notifyAll 1 with main := .notifiedSecond })
    rfl hstop (drowsy_stays hsecond hne hpc)
  exact ⟨u, hrun.head hsecond, hu⟩

theorem Flagged.stop (h : s.Flagged) (houtside : s.main ≠ .outside) (hlocked : s.main ≠ .locked) :
    s.stop = true :=
  (h.resolve_left houtside).resolve_left hlocked

/-- A step that is not careful leads to a state in which `stop` has returned and a thread
sleeps. -/
theorem forgotten_of_careless (h : Reachable s) (hstep : Step s t) (hcareless : ¬ Careful s t) :
    ∃ u w, Relation.ReflTransGen Step t u ∧ u.Stopped ∧ (u.worker w).pc = .asleep := by
  have hflagged := (flagged_of_reachable h).step hstep
  by_cases hfirst : s.main = .stored ∧ t.main = .notifiedFirst ∧ s.Drowsy 0
  · obtain ⟨hmain, hmain', w, hpc, -⟩ := hfirst
    have hstop : t.stop = true := hflagged.stop (by rw [hmain']; decide) (by rw [hmain']; decide)
    have hpc' := drowsy_stays hstep (by rw [hmain, hmain']; decide) hpc
    obtain ⟨u, hu⟩ := forgotten_first hmain' hstop hpc'
    exact ⟨u, w, hu⟩
  · by_cases hsecond : s.main = .notifiedFirst ∧ t.main = .notifiedSecond ∧ s.Drowsy 1
    · obtain ⟨hmain, hmain', w, hpc, -⟩ := hsecond
      have hstop : t.stop = true := hflagged.stop (by rw [hmain']; decide) (by rw [hmain']; decide)
      have hpc' := drowsy_stays hstep (by rw [hmain, hmain']; decide) hpc
      obtain ⟨u, hu⟩ := forgotten_second hmain' hstop hpc'
      exact ⟨u, w, hu⟩
    · exfalso
      apply hcareless
      exact ⟨hstep, fun h h' hdrowsy => hfirst ⟨h, h', hdrowsy⟩,
        fun h h' hdrowsy => hsecond ⟨h, h', hdrowsy⟩⟩

/-- When no thread is drowsy at its notification, no thread sleeps behind the return of `stop`. -/
theorem stop_wakes_all {s0 s1 s2 : Loader} (h0 : s0.Started)
    (h1 : Relation.ReflTransGen Careful s0 s1) (hstopped : s1.Stopped)
    (h2 : Relation.ReflTransGen Step s1 s2) (w : Role) : (s2.worker w).pc ≠ .asleep := by
  have hquiet : ∀ m, s2.Quiet m :=
    quiet_run hstopped.stop ((h0.informed.run h1).quiet hstopped) h2
  intro hasleep
  have hdozes := hquiet _ w rfl
  rw [hasleep] at hdozes
  contradiction

theorem careful_of_same (hstep : Step s t) (hmain : t.main = s.main) : Careful s t where
  step := hstep
  first h h' := by cases h.symm.trans (hmain.symm.trans h')
  second h h' := by cases h.symm.trans (hmain.symm.trans h')

theorem careful_of_alert (hdrowsy : ∀ w, (s.worker w).pc ≠ .drowsy) (hstep : Step s t) :
    Careful s t := by
  have hnone (m : Fin 2) : ¬ s.Drowsy m := by
    rintro ⟨w, hpc, -⟩
    exact hdrowsy w hpc
  exact ⟨hstep, fun _ _ => hnone 0, fun _ _ => hnone 1⟩

theorem notifyAll_drowsy {w : Role} {n : Fin 2}
    (h : ((s.notifyAll n).worker w).pc = .drowsy) : (s.worker w).pc = .drowsy := by
  have hworker : (s.notifyAll n).worker w =
      if s.SleepsOn w n then { s.worker w with pc := .woken } else s.worker w := rfl
  rw [hworker] at h
  split at h
  · contradiction
  · exact h

/-- The state behind `stop` when the threads take no step meanwhile. -/
def afterStop (s : Loader) : Loader :=
  { ({ s with stop := true }.notifyAll 0).notifyAll 1 with main := .outside }

/-- The steps of `stop` make no thread drowsy. -/
theorem stop_run {R : Loader → Loader → Prop} (hmain : s.main = .outside)
    (hR : ∀ r t, (∀ w, (r.worker w).pc = .drowsy → (s.worker w).pc = .drowsy) → Step r t → R r t) :
    Relation.ReflTransGen R s s.afterStop := by
  have hlock : R s { s with main := .locked } := hR _ _ (fun _ => id) (.mainLock hmain)
  have hstore : R { s with main := .locked } { s with stop := true, main := .stored } :=
    hR _ _ (fun _ => id) (.mainStore rfl)
  have hfirst : R { s with stop := true, main := .stored }
      { { s with stop := true }.notifyAll 0 with main := .notifiedFirst } :=
    hR _ _ (fun _ => id) (.mainFirst rfl)
  have hsecond : R { { s with stop := true }.notifyAll 0 with main := .notifiedFirst }
      { ({ s with stop := true }.notifyAll 0).notifyAll 1 with main := .notifiedSecond } :=
    hR _ _ (fun _ h => notifyAll_drowsy (s := { s with stop := true }) h) (.mainSecond rfl)
  have hunlock : R
      { ({ s with stop := true }.notifyAll 0).notifyAll 1 with main := .notifiedSecond }
      s.afterStop :=
    hR _ _ (fun _ h => notifyAll_drowsy (s := { s with stop := true }) (notifyAll_drowsy h))
      (.mainUnlock rfl)
  exact ((((Relation.ReflTransGen.single hlock).tail hstore).tail hfirst).tail hsecond).tail
    hunlock

end Loader

open Loader

theorem started_started : started.Started :=
  ⟨rfl, fun _ => rfl, fun _ => rfl, rfl, rfl, rfl⟩

/-- The setter has found no image and is about to sleep. -/
def setterDrowsy : Loader :=
  ((started.move .setter .lock).move .setter .test).move .setter .drowsy

theorem setterDrowsy_run : Relation.ReflTransGen Careful started setterDrowsy := by
  have hloop : Step started (started.move .setter .lock) := .loop .setter rfl
  have hacquire : Step (started.move .setter .lock)
      ((started.move .setter .lock).move .setter .test) :=
    .acquire .setter (.inl rfl) (by intro v; cases v <;> decide)
  have htest : Step ((started.move .setter .lock).move .setter .test) setterDrowsy :=
    .test .setter rfl
  exact ((Relation.ReflTransGen.single (careful_of_same hloop rfl)).tail
    (careful_of_same hacquire rfl)).tail (careful_of_same htest rfl)

/-- The setter sleeps when `stop` is called. -/
theorem stop_wakes_setter :
    ∃ s, Relation.ReflTransGen Careful started s ∧ s.Stopped ∧
      (s.worker .setter).pc ≠ .asleep := by
  have hsleep : Step setterDrowsy (setterDrowsy.move .setter .asleep) := .sleep .setter rfl
  have hasleep := setterDrowsy_run.tail (careful_of_same hsleep rfl)
  have hstop : Relation.ReflTransGen Careful (setterDrowsy.move .setter .asleep)
      (setterDrowsy.move .setter .asleep).afterStop := by
    apply stop_run rfl
    intro r t hr hstep
    apply careful_of_alert _ hstep
    intro w hpc
    have hdrowsy := hr w hpc
    cases w <;> contradiction
  exact ⟨_, hasleep.trans hstop, ⟨rfl, rfl⟩,
    stop_wakes_all started_started (hasleep.trans hstop) ⟨rfl, rfl⟩ .refl .setter⟩

/-- The setter falls asleep behind both notifications, and the reader has ended. -/
theorem stop_forgets_setter :
    ∃ s t, Reachable s ∧ s.Stopped ∧ Relation.ReflTransGen Step s t ∧
      (t.worker .setter).pc = .asleep ∧ (t.worker .reader).pc = .ended := by
  have hdrowsy : Relation.ReflTransGen Step started setterDrowsy :=
    Relation.ReflTransGen.mono (fun _ _ h => h.step) _ _ setterDrowsy_run
  have hstop : Relation.ReflTransGen Step setterDrowsy setterDrowsy.afterStop :=
    stop_run rfl fun _ _ _ h => h
  have hsleep : Step setterDrowsy.afterStop (setterDrowsy.afterStop.move .setter .asleep) :=
    .sleep .setter rfl
  have hended : Step (setterDrowsy.afterStop.move .setter .asleep)
      ((setterDrowsy.afterStop.move .setter .asleep).move .reader .ended) := .loop .reader rfl
  exact ⟨_, _, ⟨started, started_started, hdrowsy.trans hstop⟩, ⟨rfl, rfl⟩,
    (Relation.ReflTransGen.single hsleep).tail hended, rfl, rfl⟩

end Rckam.DoubleBuffer
