import Rckam.Client.Shutdown

/-! Where the destruction of `MainWindow` can come to rest: at its end, at `readPreview`, or at a
thread that has not been woken. -/
namespace Rckam.DoubleBuffer
open Variants

namespace Loader

variable {s t : Loader} {w : Role}

/-- The thread goes on only when something comes from outside: a spurious wake-up, or the end of
`readPreview`. -/
def Awaits (s : Loader) (w : Role) : Prop :=
  (s.worker w).pc = .asleep ∨ w = .reader ∧ (s.worker w).pc = .body

/-- `setPreviews` waits for the mutex that `readPreviews` holds. -/
structure Blocked (s : Loader) : Prop where
  waits : (s.worker .setter).pc = .lock ∨ (s.worker .setter).pc = .woken
  index : (s.worker .setter).index = (s.worker .reader).index

/-- Nothing but what comes from outside moves a thread. -/
def Still (s : Loader) : Prop :=
  ∀ t, Step s t → t.main = s.main → ∀ w, t.worker w = s.worker w ∨ s.Awaits w

/-- Where a thread can be that does not move: at its end, at what it awaits, or at a mutex. -/
theorem Still.place (h : s.Still) (w : Role) : (s.worker w).pc = .ended ∨ s.Awaits w ∨
    ((s.worker w).pc = .lock ∨ (s.worker w).pc = .woken) ∧
      ∃ v, (s.worker v).owns = some (s.worker w).index := by
  have hstuck {t : Loader} (hstep : Step s t) (hmain : t.main = s.main)
      (hmoved : (t.worker w).pc ≠ (s.worker w).pc) : s.Awaits w :=
    (h t hstep hmain w).resolve_left fun hsame => hmoved (congrArg Worker.pc hsame)
  have hacquire (hpc : (s.worker w).pc = .lock ∨ (s.worker w).pc = .woken)
      (hne : Pc.test ≠ (s.worker w).pc) : s.Awaits w ∨
        ((s.worker w).pc = .lock ∨ (s.worker w).pc = .woken) ∧
          ∃ v, (s.worker v).owns = some (s.worker w).index := by
    by_cases hfree : ∀ v, (s.worker v).owns ≠ some (s.worker w).index
    · exact Or.inl (hstuck (.acquire w hpc hfree) rfl (by simpa using hne))
    · push Not at hfree
      exact Or.inr ⟨hpc, hfree⟩
  cases hpc : (s.worker w).pc with
  | ended => exact Or.inl rfl
  | asleep => exact Or.inr (Or.inl (Or.inl hpc))
  | lock =>
    right
    simpa [hpc] using hacquire (.inl hpc) (by simp [hpc])
  | woken =>
    right
    simpa [hpc] using hacquire (.inr hpc) (by simp [hpc])
  | loop =>
    have hne : (if s.stop then Pc.ended else .lock) ≠ .loop := by split <;> simp
    exact Or.inr (Or.inl (hstuck (.loop w hpc) rfl (by simpa [hpc] using hne)))
  | test =>
    have hne : (if s.predicate w then Pc.check else .drowsy) ≠ .test := by split <;> simp
    exact Or.inr (Or.inl (hstuck (.test w hpc) rfl (by simpa [hpc] using hne)))
  | drowsy => exact Or.inr (Or.inl (hstuck (.sleep w hpc) rfl (by simp [hpc])))
  | check =>
    have hne : (if s.stop then Pc.leave else .body) ≠ .check := by split <;> simp
    exact Or.inr (Or.inl (hstuck (.check w hpc) rfl (by simpa [hpc] using hne)))
  | body =>
    cases w with
    | reader => exact Or.inr (Or.inl (Or.inr ⟨rfl, hpc⟩))
    | setter => exact Or.inr (Or.inl (hstuck (.hand hpc) rfl (by simp [hpc, move])))
  | flag => exact Or.inr (Or.inl (hstuck (.flag w hpc) rfl (by simp [hpc])))
  | notify =>
    right; left
    by_cases hsleeps : ∃ v, s.SleepsOn v (s.worker w).index
    · obtain ⟨v, hv⟩ := hsleeps
      refine hstuck (.notifyOne w v hpc hv) rfl ?_
      obtain rfl | rfl := w.eq_or_other v
      · simp [hpc]
      · rw [move_comm, move_worker_self]
        simp [hpc]
    · push Not at hsleeps
      exact hstuck (.notifyNobody w hpc hsleeps) rfl (by simp [hpc])
  | next => exact Or.inr (Or.inl (hstuck (.next w hpc) rfl (by simp [hpc])))
  | unlock => exact Or.inr (Or.inl (hstuck (.unlock w hpc) rfl (by simp [hpc])))
  | leave => exact Or.inr (Or.inl (hstuck (.leave w hpc) rfl (by simp [hpc])))

/-- A step that leaves all of them where they are is a reception in `readPreview`. -/
theorem fills (hstep : Step s t) (hmain : t.main = s.main)
    (hsame : ∀ w, (t.worker w).pc = (s.worker w).pc) : (s.worker .reader).pc = .body := by
  cases hstep with
  | fill data hpc | complete image hpc | readThrows hpc => exact hpc
  | loop w hpc | test w hpc | check w hpc =>
    have hpc' := hsame w
    simp only [move_worker_self, hpc] at hpc'
    split at hpc' <;> cases hpc'
  | acquire w hpc hfree =>
    have hpc' := hsame w
    rcases hpc with hpc | hpc <;> simp [hpc] at hpc'
  | sleep w hpc | wake w hpc | flag w hpc | notifyNobody w hpc hnobody | next w hpc
  | unlock w hpc | leave w hpc =>
    have hpc' := hsame w
    simp [hpc] at hpc'
  | hand hpc | setThrows hpc =>
    have hpc' := hsame .setter
    simp [hpc, move] at hpc'
  | notifyOne w v hpc hasleep =>
    have hpc' := hsame v
    simp [hasleep.1] at hpc'
  | mainLock hmain' | mainStore hmain' | mainFirst hmain' | mainSecond hmain' | mainUnlock hmain' =>
    simp [hmain'] at hmain

theorem Still.reader (h : s.Still) : (s.worker .reader).pc = .ended ∨
    (s.worker .reader).pc = .asleep ∨ (s.worker .reader).pc = .body := by
  have hsetter : (s.worker .setter).owns = none := by
    rcases h.place .setter with hpc | (hpc | ⟨hrole, -⟩) | ⟨hpc | hpc, -⟩
    · simp [Worker.owns_at hpc, Pc.holds]
    · simp [Worker.owns_at hpc, Pc.holds]
    · cases hrole
    · simp [Worker.owns_at hpc, Pc.holds]
    · simp [Worker.owns_at hpc, Pc.holds]
  rcases h.place .reader with hpc | (hpc | ⟨-, hpc⟩) | ⟨hpc, v, howns⟩
  · exact Or.inl hpc
  · exact Or.inr (Or.inl hpc)
  · exact Or.inr (Or.inr hpc)
  · exfalso
    cases v with
    | reader => rcases hpc with hpc | hpc <;> simp [Worker.owns_at hpc, Pc.holds] at howns
    | setter => simp [hsetter] at howns

theorem Still.setter (h : s.Still) : (s.worker .setter).pc = .ended ∨
    (s.worker .setter).pc = .asleep ∨ (s.worker .reader).pc = .body ∧ s.Blocked := by
  rcases h.place .setter with hpc | (hpc | ⟨hrole, -⟩) | ⟨hpc, v, howns⟩
  · exact Or.inl hpc
  · exact Or.inr (Or.inl hpc)
  · cases hrole
  · cases v with
    | setter =>
      exfalso
      rcases hpc with hpc | hpc <;> simp [Worker.owns_at hpc, Pc.holds] at howns
    | reader =>
      rcases h.reader with hreader | hreader | hreader
      · simp [Worker.owns_at hreader, Pc.holds] at howns
      · simp [Worker.owns_at hreader, Pc.holds] at howns
      · refine Or.inr (Or.inr ⟨hreader, hpc, ?_⟩)
        simpa [Worker.owns_at hreader, Pc.holds, eq_comm] using howns

/-- `readPreviews` keeps its mutex at the end of `readPreview`. -/
theorem Blocked.step (h : s.Blocked) (hreader : (s.worker .reader).pc = .body)
    (hexclusive : s.Exclusive) (hstep : Step s t) : t.worker .setter = s.worker .setter := by
  rcases worker_step hstep .setter with hsame | ⟨pc, hmem, hturned⟩
  · exact hsame
  · exfalso
    have hne : (s.worker .setter).pc ≠ .next := by
      rcases h.waits with hpc | hpc <;> simp [hpc]
    obtain rfl : pc = .test := by
      rcases h.waits with hpc | hpc <;> simpa [hpc, Pc.successors] using hmem
    have hsetter : (t.worker .setter).owns = some (s.worker .reader).index := by
      rw [hturned, Worker.owns_at (Worker.turned_pc _ _), Worker.turned_index hne, h.index]
      rfl
    have hholds : (t.worker .reader).owns = some (s.worker .reader).index := by
      rcases worker_step hstep .reader with hsame | ⟨pc, hmem, hturned⟩
      · rw [hsame, Worker.owns_at hreader]
        rfl
      · have hpc : pc = .flag ∨ pc = .leave := by simpa [hreader, Pc.successors] using hmem
        rw [hturned, Worker.owns_at (Worker.turned_pc _ _),
          Worker.turned_index (by simp [hreader])]
        rcases hpc with rfl | rfl <;> rfl
    exact hexclusive.step hstep _ (Role.forall_of .reader hholds hsetter)

/-- The states in which no thread moves by itself. -/
theorem still_iff (hexclusive : s.Exclusive) : s.Still ↔
    ((s.worker .reader).pc = .ended ∨ (s.worker .reader).pc = .asleep ∨
      (s.worker .reader).pc = .body) ∧
    ((s.worker .setter).pc = .ended ∨ (s.worker .setter).pc = .asleep ∨
      (s.worker .reader).pc = .body ∧ s.Blocked) := by
  constructor
  · exact fun h => ⟨h.reader, h.setter⟩
  · rintro ⟨hreader, hsetter⟩ t hstep hmain w
    cases w with
    | reader =>
      rcases hreader with hpc | hpc | hpc
      · exact Or.inl (ended_step hpc hstep)
      · exact Or.inr (Or.inl hpc)
      · exact Or.inr (Or.inr ⟨rfl, hpc⟩)
    | setter =>
      rcases hsetter with hpc | hpc | ⟨hpc, hblocked⟩
      · exact Or.inl (ended_step hpc hstep)
      · exact Or.inr (Or.inl hpc)
      · exact Or.inl (hblocked.step hpc hexclusive hstep)

end Loader

namespace Window

variable {x y : Window}

/-- Nothing but what comes from outside changes where the destructor and the threads are. -/
def Idle (x : Window) : Prop :=
  ∀ y, Step x y → y.tasks = x.tasks ∧ y.loader.main = x.loader.main ∧
    ∀ w, y.loader.worker w = x.loader.worker w ∨ x.loader.Awaits w

/-- Both threads have ended and been joined. -/
structure Closed (x : Window) : Prop where
  tasks : x.tasks = some []
  ended : ∀ w, (x.loader.worker w).pc = .ended

/-- The destructor waits for `readPreviews`, which waits for the network. -/
structure Reading (x : Window) : Prop where
  tasks : x.tasks = some [.join .reader, .join .setter]
  reader : (x.loader.worker .reader).pc = .body
  setter : (x.loader.worker .setter).pc = .ended ∨ (x.loader.worker .setter).pc = .asleep ∨
    x.loader.Blocked

/-- The destructor waits for a thread that sleeps, and the other one has ended. -/
structure Forgotten (x : Window) (w : Role) : Prop where
  tasks : x.tasks = some (.join w :: if w = .reader then [.join .setter] else [])
  asleep : (x.loader.worker w).pc = .asleep
  other : (x.loader.worker w.other).pc = .ended

theorem Idle.still (h : x.Idle) : x.loader.Still :=
  fun t hstep hmain => (h _ (.thread t hstep hmain)).2.2

theorem Idle.not_joinable (h : x.Idle) {w : Role} {rest : List Task}
    (htasks : x.tasks = some (.join w :: rest)) : (x.loader.worker w).pc ≠ .ended := by
  intro hended
  have hsame := (h _ (.join w rest htasks hended)).1
  simp [htasks] at hsame

/-- `stop` does not hold up the destructor. -/
theorem Idle.tasks (h : x.Idle) : ∃ l, x.tasks = some l ∧ l.head? ≠ some .stop := by
  obtain ⟨t, hstep, hmain⟩ := Loader.main_goes_on x.loader
  cases htasks : x.tasks with
  | none => exact absurd (h _ (.use t htasks hstep)).2.1 hmain
  | some l =>
    refine ⟨l, rfl, ?_⟩
    intro hhead
    obtain ⟨rest, rfl⟩ := List.head?_eq_some_iff.mp hhead
    exact hmain (h _ (.stop t rest htasks hstep hmain)).2.1

theorem idle_of_still (hstill : x.loader.Still) {l : List Task} (htasks : x.tasks = some l)
    (hstop : l.head? ≠ some .stop)
    (hjoin : ∀ w rest, l = .join w :: rest → (x.loader.worker w).pc ≠ .ended) : x.Idle := by
  intro y hstep
  cases hstep with
  | use _ hnone _ | delete hnone _ => cases htasks.symm.trans hnone
  | thread t hstep hmain => exact ⟨rfl, hmain, hstill t hstep hmain⟩
  | stop t rest htasks' hstep hmain =>
    obtain rfl : l = _ := Option.some.inj (htasks.symm.trans htasks')
    exact absurd rfl hstop
  | join w rest htasks' hended =>
    exact absurd hended (hjoin w rest (Option.some.inj (htasks.symm.trans htasks')))

theorem suffix_cases {l : List Task} (h : l <:+ destructors) : l.head? = some .stop ∨
    l = [.join .reader, .join .setter] ∨ l = [.join .setter] ∨ l = [] := by
  simp only [destructors, List.suffix_cons_iff, List.suffix_nil] at h
  rcases h with rfl | rfl | rfl | rfl | rfl <;> simp

/-- From wherever the program has got to, the destruction of the window only comes to rest when it
is complete, when `readPreview` waits for the network, or when a thread has not been woken. -/
theorem idle_iff (h : x.Reachable) : x.Idle ↔ x.Closed ∨ x.Reading ∨ ∃ w, x.Forgotten w := by
  have hinvariant := h.loader.invariant
  have hboth := hinvariant.synchronised.not_both_asleep
  constructor
  · intro hidle
    obtain ⟨l, htasks, hstop⟩ := hidle.tasks
    have hscheduled := scheduled_of_reachable h l htasks
    have hreader := hidle.still.reader
    have hsetter := hidle.still.setter
    rcases suffix_cases hscheduled.suffix with hhead | rfl | rfl | rfl
    · exact absurd hhead hstop
    · have hrunning := hidle.not_joinable htasks
      rcases hreader with hpc | hpc | hpc
      · exact absurd hpc hrunning
      · have hsetter : (x.loader.worker .setter).pc = .ended := by
          rcases hsetter with hended | hasleep | ⟨hbody, -⟩
          · exact hended
          · exact absurd (Role.forall_of .reader hpc hasleep) hboth
          · cases hpc.symm.trans hbody
        exact Or.inr (Or.inr ⟨.reader, htasks, hpc, hsetter⟩)
      · exact Or.inr (Or.inl ⟨htasks, hpc, hsetter.imp_right (Or.imp_right And.right)⟩)
    · have hrunning := hidle.not_joinable htasks
      have hended := hscheduled.joined .reader (by simp)
      rcases hsetter with hpc | hpc | ⟨hbody, -⟩
      · exact absurd hpc hrunning
      · exact Or.inr (Or.inr ⟨.setter, htasks, hpc, hended⟩)
      · cases hended.symm.trans hbody
    · exact Or.inl ⟨htasks, fun w => hscheduled.joined w (by simp)⟩
  · have hstill := (Loader.still_iff hinvariant.exclusive).mpr
    rintro (hclosed | hreading | ⟨w, hforgotten⟩)
    · exact idle_of_still (hstill ⟨.inl (hclosed.ended _), .inl (hclosed.ended _)⟩) hclosed.tasks
        (by simp) (by simp)
    · have hsetter := hreading.setter.imp_right (Or.imp_right (And.intro hreading.reader))
      refine idle_of_still (hstill ⟨.inr (.inr hreading.reader), hsetter⟩) hreading.tasks
        (by simp) ?_
      rintro w rest ⟨⟩
      simp [hreading.reader]
    · have hpcs : x.loader.Still := by
        apply hstill
        cases w with
        | reader => exact ⟨.inr (.inl hforgotten.asleep), .inl hforgotten.other⟩
        | setter => exact ⟨.inl hforgotten.other, .inr (.inl hforgotten.asleep)⟩
      refine idle_of_still hpcs hforgotten.tasks (by simp) ?_
      rintro v rest ⟨⟩
      simp [hforgotten.asleep]

theorem idle_iff_closing : (closing 1).Idle ↔
    (closing 1).Closed ∨ (closing 1).Reading ∨ ∃ w, (closing 1).Forgotten w :=
  idle_iff (reachable_closing.step (closing_step 0))

/-- A step in which `stop` notifies no drowsy thread. -/
structure Careful (x y : Window) : Prop where
  step : Step x y
  careful : y.loader = x.loader ∨ Loader.Careful x.loader y.loader

theorem careful_run (h : Relation.ReflTransGen Careful x y) : Relation.ReflTransGen Step x y :=
  Relation.ReflTransGen.mono (fun _ _ h => h.step) _ _ h

theorem informed_of_careful {s0 : Loader} (hstarted : s0.Started)
    (hrun : Relation.ReflTransGen Careful ⟨s0, none⟩ x) : x.loader.Informed := by
  induction hrun with
  | refl => exact hstarted.informed
  | tail _ hstep ih =>
    rcases hstep.careful with hsame | hcareful
    · rw [hsame]
      exact ih
    · exact ih.step hcareful

/-- Behind careful steps the destructor does not wait for a thread that sleeps. -/
theorem not_forgotten {s0 : Loader} (hstarted : s0.Started)
    (hrun : Relation.ReflTransGen Careful ⟨s0, none⟩ x) (w : Role) : ¬ x.Forgotten w := by
  intro hforgotten
  have hreachable : x.Reachable := ⟨s0, hstarted, careful_run hrun⟩
  have hstopped := (scheduled_of_reachable hreachable _ hforgotten.tasks).stopped
    (by cases w <;> simp)
  have hquiet := (informed_of_careful hstarted hrun).quiet hstopped _ w rfl
  rw [hforgotten.asleep] at hquiet
  contradiction

/-- The flag is assigned, and `readPreviews` is not in `readPreview`. -/
structure Settling (x : Window) : Prop where
  closing : x.Closing
  reader : (x.loader.worker .reader).pc ≠ .body

theorem Settling.step (h : x.Settling) (hstep : Step x y) : y.Settling := by
  refine ⟨h.closing.step hstep, ?_⟩
  rcases loader_step hstep with hsame | hloader
  · rw [hsame]
    exact h.reader
  · exact Loader.body_step h.closing.stop h.reader hloader

theorem Settling.decreases (h : x.Settling) (hstep : Step x y) : y.remaining < x.remaining := by
  rcases h.closing.place_step hstep with hsame | hlt
  · exfalso
    simp only [place, Prod.mk.injEq] at hsame
    obtain ⟨htasks, hmain, hreader, hsetter⟩ := hsame
    have hfills : DoubleBuffer.Step x.loader y.loader → False := fun hloader =>
      h.reader (Loader.fills hloader hmain (Role.forall_of .reader hreader hsetter))
    cases hstep with
    | use l hnone hloader | thread l hloader hsame => exact hfills hloader
    | delete hnone hmain => exact absurd hnone h.closing.tasks
    | stop l rest hstop hloader hmoved => exact hfills hloader
    | join w rest hjoin hended =>
      simp [hjoin] at htasks
  · exact hlt

theorem settling_variant : Variant Step (fun _ _ => True) Settling remaining where
  keeps h hstep := h.step hstep
  le h hstep := (h.decreases hstep).le
  lt h hstep _ := h.decreases hstep

/-- When `readPreviews` is not in `readPreview`, the destruction of the window takes its end
whatever the threads do, and at its end both threads have ended. -/
theorem closes {s0 : Loader} (hstarted : s0.Started)
    (hrun : Relation.ReflTransGen Careful ⟨s0, none⟩ x) (hx : x.Settling) :
    (¬ ∃ f : ℕ → Window, f 0 = x ∧ ∀ n, Step (f n) (f (n + 1))) ∧
      ∀ y, Relation.ReflTransGen Careful x y → (¬ ∃ z, Step y z) → y.Closed := by
  refine ⟨settling_variant.no_endless_run hx, ?_⟩
  intro y hcareful hend
  have hreachable : y.Reachable := ⟨s0, hstarted, careful_run (hrun.trans hcareful)⟩
  have hsettling : y.Settling := by
    clear hend hreachable
    induction hcareful with
    | refl => exact hx
    | tail _ hstep ih => exact ih.step hstep.step
  have hidle : y.Idle := fun z hstep => absurd ⟨z, hstep⟩ hend
  rcases (idle_iff hreachable).mp hidle with hclosed | hreading | ⟨w, hforgotten⟩
  · exact hclosed
  · exact absurd hreading.reader hsettling.reader
  · exact absurd hforgotten (not_forgotten hstarted (hrun.trans hcareful) w)

/-- The button stops the loader as soon as it has been started, and the window is closed. -/
def stoppedAtOnce : Window := ⟨started.afterStop, some destructors⟩

theorem careful_stoppedAtOnce : Relation.ReflTransGen Careful ⟨started, none⟩ stoppedAtOnce := by
  have hstop : Relation.ReflTransGen (fun s t => Careful ⟨s, none⟩ ⟨t, none⟩)
      started started.afterStop := by
    apply Loader.stop_run rfl
    intro r t hr hstep
    refine ⟨.use t rfl hstep, Or.inr (Loader.careful_of_alert ?_ hstep)⟩
    intro w hpc
    cases w <;> cases hr _ hpc
  have hlift := Relation.ReflTransGen.lift (p := Careful) (fun s => Window.mk s none)
    (fun _ _ h => h) _ _ hstop
  exact hlift.tail ⟨.delete rfl rfl, Or.inl rfl⟩

theorem closes_stoppedAtOnce :
    (¬ ∃ f : ℕ → Window, f 0 = stoppedAtOnce ∧ ∀ n, Step (f n) (f (n + 1))) ∧
      ∀ y, Relation.ReflTransGen Careful stoppedAtOnce y → (¬ ∃ z, Step y z) → y.Closed :=
  closes started_started careful_stoppedAtOnce ⟨⟨Option.some_ne_none _, rfl⟩, by
    have hpc : (stoppedAtOnce.loader.worker .reader).pc = .loop := rfl
    simp [hpc]⟩

end Window

end Rckam.DoubleBuffer
