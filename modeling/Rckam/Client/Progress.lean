import Rckam.Client.Handover
import Rckam.Client.Places
import Rckam.Library.Variants

/-! While `readPreviews` waits for a datagram, `setPreviews` shows on its own every image that has
been completed. -/
namespace Rckam.DoubleBuffer
open Variants

/-- How far a thread is from the end of an iteration in which it has dealt with its buffer. -/
def Pc.rank : Pc → ℕ
  | .flag => 11
  | .notify => 10
  | .next => 9
  | .unlock => 8
  | .loop => 7
  | .lock | .woken => 6
  | .test => 5
  | .check | .drowsy => 4
  | .body => 3
  | .asleep | .leave | .ended => 0

/-- Only the end of `readPreview` and of `set` is an image more. -/
theorem Worker.turned_done {x : Worker} {stop : Bool} {pc : Pc} (hmem : pc ∈ x.pc.successors stop)
    (hbody : x.pc ≠ .body) : (x.turned pc).done = x.done := by
  obtain ⟨old, index, iterations⟩ := x
  revert hmem hbody
  cases old <;> cases stop <;> cases pc <;> simp [Pc.successors, Worker.turned, Worker.done,
    Pc.finished]

theorem Pc.rank_successor {old pc : Pc} (hmem : pc ∈ old.successors false) (hasleep : old ≠ .asleep)
    (hbody : old ≠ .body) (hleft : ¬ pc.left) : pc.rank < old.rank := by
  revert hmem hasleep hbody hleft
  cases old <;> cases pc <;> simp [Pc.successors, Pc.rank, Pc.left]

namespace Loader

/-- A step of `setPreviews`; it is not woken in its sleep, and `set` does not throw. -/
structure SetterStep (s t : Loader) : Prop where
  step : Step s t
  reader : t.worker .reader = s.worker .reader
  moved : t.worker .setter ≠ s.worker .setter
  awake : (s.worker .setter).pc ≠ .asleep
  stays : ¬ (t.worker .setter).pc.left

/-- `readPreviews` is in `readPreview`, and neither thread has ended nor will be stopped. -/
structure Waiting (s : Loader) : Prop where
  invariant : s.Invariant
  reader : (s.worker .reader).pc = .body
  stop : s.stop = false
  setter : ¬ (s.worker .setter).pc.left

/-- How many images are still to be shown, and how far the thread is from the next one. -/
def variant (s : Loader) : ℕ :=
  20 * (s.completed.length - (s.worker .setter).done) + (s.worker .setter).pc.rank

variable {s t : Loader}

/-- What the steps of `setPreviews` leave as it is. -/
theorem SetterStep.frame (h : SetterStep s t) (hbody : (s.worker .reader).pc = .body) :
    t.stop = s.stop ∧ t.completed = s.completed ∧ t.buffers = s.buffers := by
  cases h.step with
  | fill data hpc => exact absurd rfl h.moved
  | complete image hpc =>
    have hreader := congrArg Worker.pc h.reader
    rw [hbody] at hreader
    cases hreader
  | mainStore hmain => exact absurd rfl h.moved
  | _ => exact ⟨rfl, rfl, rfl⟩

/-- The thread takes one of the steps of its loop. -/
theorem SetterStep.turned (h : SetterStep s t) :
    ∃ pc ∈ (s.worker .setter).pc.successors s.stop,
      t.worker .setter = (s.worker .setter).turned pc := by
  rcases worker_step h.step .setter with hsame | hturned
  · exact absurd hsame h.moved
  · exact hturned

namespace Waiting
variable (h : s.Waiting)
include h

theorem handed_length : s.handed.length = (s.worker .setter).done := by
  rcases h.invariant.recorded.handedCount with hleft | hcount
  · exact absurd hleft h.setter
  · exact hcount

theorem completed_length : s.completed.length = (s.worker .reader).iterations :=
  h.invariant.recorded.completed_length h.reader

theorem limit_setter : s.limit .setter = s.completed.length :=
  calc s.limit .setter = (s.worker .reader).published := rfl
    _ = (s.worker .reader).iterations := Worker.published_at h.reader
    _ = s.completed.length := h.completed_length.symm

theorem next (hstep : SetterStep s t) : t.Waiting where
  invariant := h.invariant.step hstep.step
  reader := by
    rw [hstep.reader]
    exact h.reader
  stop := (hstep.frame h.reader).1.trans h.stop
  setter := hstep.stays

/-- Every step brings the thread closer to the end of its work. -/
theorem decreases (hstep : SetterStep s t) : t.variant < s.variant := by
  obtain ⟨pc, hmem, hturned⟩ := hstep.turned
  have hstays := hstep.stays
  rw [h.stop] at hmem
  rw [hturned, Worker.turned_pc] at hstays
  unfold variant
  rw [(hstep.frame h.reader).2.1, hturned, Worker.turned_pc]
  by_cases hbody : (s.worker .setter).pc = .body
  · have hflag : pc = .flag := by
      rw [hbody] at hmem
      simp only [Pc.successors, List.mem_cons, List.not_mem_nil, or_false] at hmem
      rcases hmem with hflag | hleave
      · exact hflag
      · exact absurd (.inl hleave) hstays
    have hlt : (s.worker .setter).iterations < s.limit .setter :=
      h.invariant.synchronised.standing_at hbody
    have hdone : (s.worker .setter).done = (s.worker .setter).iterations := Worker.done_at hbody
    have hdone' : ((s.worker .setter).turned pc).done = (s.worker .setter).iterations + 1 := by
      unfold Worker.turned Worker.done
      rw [hbody, hflag]
      rfl
    rw [h.limit_setter] at hlt
    rw [hdone', hdone, hbody, hflag]
    show 20 * (s.completed.length - ((s.worker .setter).iterations + 1)) + 11 <
      20 * (s.completed.length - (s.worker .setter).iterations) + 3
    omega
  · rw [Worker.turned_done hmem hbody]
    have hrank := Pc.rank_successor hmem hstep.awake hbody hstays
    omega

/-- The mutex of the next image that is to be shown is free. -/
theorem free (hpc : (s.worker .setter).pc = .lock ∨ (s.worker .setter).pc = .woken)
    (hmore : (s.worker .setter).done < s.completed.length) (w : Role) :
    (s.worker w).owns ≠ some (s.worker .setter).index := by
  cases w with
  | setter =>
    rcases hpc with hpc | hpc
    · simp [Worker.owns_at hpc, Pc.holds]
    · simp [Worker.owns_at hpc, Pc.holds]
  | reader =>
    have hdone : (s.worker .setter).done = (s.worker .setter).iterations := by
      rcases hpc with hpc | hpc
      · exact Worker.done_at hpc
      · exact Worker.done_at hpc
    have hpublished : (s.worker .setter).published = (s.worker .setter).iterations := by
      rcases hpc with hpc | hpc
      · exact Worker.published_at hpc
      · exact Worker.published_at hpc
    have hlimit : (s.worker .reader).iterations < (s.worker .setter).published + 2 :=
      h.invariant.synchronised.standing_at h.reader
    rw [h.completed_length, hdone] at hmore
    rw [Worker.owns_at h.reader, h.invariant.synchronised.index, h.invariant.synchronised.index]
    show some (slot (s.worker .reader).iterations) ≠ some (slot (s.worker .setter).iterations)
    rw [ne_eq, Option.some_inj, slot_eq_iff]
    omega

/-- As long as an image is to be shown the thread can go on. -/
theorem goes_on (hmore : (s.worker .setter).done < s.completed.length) : ∃ t, SetterStep s t := by
  have hmove (pc : Pc) {t : Loader} (hstep : Step s t)
      (hreader : t.worker .reader = s.worker .reader) (hsetter : (t.worker .setter).pc = pc)
      (hpc : pc ≠ (s.worker .setter).pc ∧ (s.worker .setter).pc ≠ .asleep ∧ ¬ pc.left) :
      ∃ t, SetterStep s t := by
    refine ⟨t, hstep, hreader, ?_, hpc.2.1, hsetter ▸ hpc.2.2⟩
    intro hsame
    exact hpc.1 (hsetter.symm.trans (congrArg Worker.pc hsame))
  have hready : (s.worker .setter).iterations ≠ s.limit .setter := by
    have hle : (s.worker .setter).iterations ≤ (s.worker .setter).done := Nat.le_add_right _ _
    rw [h.limit_setter]
    omega
  cases hpc : (s.worker .setter).pc with
  | loop =>
    have hstep := Step.loop .setter hpc
    rw [h.stop] at hstep
    exact hmove .lock hstep rfl rfl (by simp [hpc, Pc.left])
  | lock =>
    have hstep := Step.acquire .setter (.inl hpc) (h.free (.inl hpc) hmore)
    exact hmove .test hstep rfl rfl (by simp [hpc, Pc.left])
  | woken =>
    have hstep := Step.acquire .setter (.inr hpc) (h.free (.inr hpc) hmore)
    exact hmove .test hstep rfl rfl (by simp [hpc, Pc.left])
  | test =>
    have hstep := Step.test .setter hpc
    by_cases hpredicate : s.predicate .setter
    · rw [if_pos hpredicate] at hstep
      exact hmove .check hstep rfl rfl (by simp [hpc, Pc.left])
    · rw [if_neg hpredicate] at hstep
      exact hmove .drowsy hstep rfl rfl (by simp [hpc, Pc.left])
  | drowsy => exact absurd (h.invariant.synchronised.standing_at hpc) hready
  | asleep =>
    rcases h.invariant.synchronised.standing_at hpc with hturn | ⟨hnotify, -⟩
    · exact absurd hturn hready
    · cases h.reader.symm.trans hnotify
  | check =>
    have hstep := Step.check .setter hpc
    rw [h.stop] at hstep
    exact hmove .body hstep rfl rfl (by simp [hpc, Pc.left])
  | body => exact hmove .flag (.hand hpc) rfl rfl (by simp [hpc, Pc.left])
  | flag => exact hmove .notify (.flag .setter hpc) rfl rfl (by simp [hpc, Pc.left])
  | notify =>
    have hnobody : ∀ v, ¬ s.SleepsOn v (s.worker .setter).index := by
      rintro v ⟨hasleep, -⟩
      cases v with
      | reader => cases h.reader.symm.trans hasleep
      | setter => cases hpc.symm.trans hasleep
    exact hmove .next (.notifyNobody .setter hpc hnobody) rfl rfl (by simp [hpc, Pc.left])
  | next => exact hmove .unlock (.next .setter hpc) rfl rfl (by simp [hpc, Pc.left])
  | unlock => exact hmove .loop (.unlock .setter hpc) rfl rfl (by simp [hpc, Pc.left])
  | leave => exact absurd (.inl hpc) h.setter
  | ended => exact absurd (.inr hpc) h.setter

theorem shown (hend : ¬ ∃ t, SetterStep s t) : s.handed = s.completed := by
  apply h.invariant.recorded.inOrder.eq_of_length_le
  rw [h.handed_length]
  by_contra hmore
  exact hend (h.goes_on (Nat.lt_of_not_le hmore))

theorem run (hrun : Relation.ReflTransGen SetterStep s t) :
    t.Waiting ∧ t.completed = s.completed := by
  induction hrun with
  | refl => exact ⟨h, rfl⟩
  | tail _ hstep ih => exact ⟨ih.1.next hstep, (hstep.frame ih.1.reader).2.1.trans ih.2⟩

/-- The thread cannot go on for ever. -/
theorem no_endless_run : ¬ ∃ f : ℕ → Loader, f 0 = s ∧ ∀ n, SetterStep (f n) (f (n + 1)) := by
  have hvariant : Variant SetterStep (fun _ _ => True) Waiting variant :=
    ⟨next, fun h hstep => (h.decreases hstep).le, fun h hstep _ => h.decreases hstep⟩
  exact hvariant.no_endless_run h

end Waiting

end Loader

open Loader

/-- While `readPreviews` waits for the network, `setPreviews` needs no other thread to show every
image that has been completed: whatever steps it takes, they come to an end, and at the end there
is nothing left to be shown. -/
theorem setter_catches_up {s : Loader} (h : Reachable s) (hreader : (s.worker .reader).pc = .body)
    (hstop : s.stop = false) (hsetter : ¬ (s.worker .setter).pc.left) :
    (¬ ∃ f : ℕ → Loader, f 0 = s ∧ ∀ n, SetterStep (f n) (f (n + 1))) ∧
      ∀ t, Relation.ReflTransGen SetterStep s t → (¬ ∃ u, SetterStep t u) →
        t.handed = s.completed := by
  have hwaiting : s.Waiting := ⟨h.invariant, hreader, hstop, hsetter⟩
  refine ⟨hwaiting.no_endless_run, ?_⟩
  intro t hrun hend
  obtain ⟨hlast, hcompleted⟩ := hwaiting.run hrun
  exact (hlast.shown hend).trans hcompleted

/-- The reader gives its first image to the other thread. -/
def oneGiven : Loader :=
  ((oneRead.assignFlag .reader).move .reader .notify).move .reader .next

/-- It has the mutex of the second buffer. -/
def secondLocked : Loader :=
  (((oneGiven.put .reader ⟨.unlock, 1, 1⟩).move .reader .loop).move .reader .lock).move
    .reader .test

def secondReading : Loader := (secondLocked.move .reader .check).move .reader .body

theorem reachable_secondReading : Reachable secondReading := by
  obtain ⟨s0, hstarted, hrun⟩ := reachable_oneRead
  have hflag : Step oneRead ((oneRead.assignFlag .reader).move .reader .notify) :=
    .flag .reader rfl
  have hnotify : Step ((oneRead.assignFlag .reader).move .reader .notify) oneGiven :=
    .notifyNobody .reader rfl (by intro v; cases v <;> decide)
  have hnext : Step oneGiven (oneGiven.put .reader ⟨.unlock, 1, 1⟩) := .next .reader rfl
  have hunlock : Step (oneGiven.put .reader ⟨.unlock, 1, 1⟩)
      ((oneGiven.put .reader ⟨.unlock, 1, 1⟩).move .reader .loop) := .unlock .reader rfl
  have hloop : Step ((oneGiven.put .reader ⟨.unlock, 1, 1⟩).move .reader .loop)
      (((oneGiven.put .reader ⟨.unlock, 1, 1⟩).move .reader .loop).move .reader .lock) :=
    .loop .reader rfl
  have hlock : Step (((oneGiven.put .reader ⟨.unlock, 1, 1⟩).move .reader .loop).move .reader .lock)
      secondLocked := .acquire .reader (.inl rfl) (by intro v; cases v <;> decide)
  have htest : Step secondLocked (secondLocked.move .reader .check) := .test .reader rfl
  have hcheck : Step (secondLocked.move .reader .check) secondReading := .check .reader rfl
  exact ⟨s0, hstarted, (((((((hrun.tail hflag).tail hnotify).tail hnext).tail hunlock).tail
    hloop).tail hlock).tail htest).tail hcheck⟩

theorem setter_catches_up_secondReading :
    (¬ ∃ f : ℕ → Loader, f 0 = secondReading ∧ ∀ n, SetterStep (f n) (f (n + 1))) ∧
      ∀ t, Relation.ReflTransGen SetterStep secondReading t → (¬ ∃ u, SetterStep t u) →
        t.handed = [[7]] :=
  setter_catches_up reachable_secondReading rfl rfl (by
    have hpc : (secondReading.worker .setter).pc = .loop := rfl
    simp [hpc, Pc.left])

end Rckam.DoubleBuffer
