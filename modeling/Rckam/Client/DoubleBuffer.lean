import Mathlib.Data.Fin.Basic
import Mathlib.Logic.Function.Basic
import Mathlib.Logic.Relation
import Rckam.Common.Platform

/-! The two threads of `ImageLoader`, `readPreviews` and `setPreviews`, and `stop`, stepping in
any interleaving. -/
namespace Rckam.DoubleBuffer

/-- The thread that runs `readPreviews`, and the thread that runs `setPreviews`. -/
inductive Role where
  | reader | setter
  deriving DecidableEq, Repr

def Role.other : Role → Role
  | .reader => .setter
  | .setter => .reader

/-- The value of `buffersEmpty_[index]` that the predicate of `wait` asks for. -/
def Role.waitsFor : Role → Bool
  | .reader => true
  | .setter => false

/-- Where a thread is in its loop. -/
inductive Pc where
  /-- at `while (!stop_)` -/
  | loop
  /-- waits for `mutexes_[index]` -/
  | lock
  /-- evaluates the predicate of `wait` -/
  | test
  /-- found the predicate false -/
  | drowsy
  /-- has released the mutex and sleeps on `conditionVariables_[index]` -/
  | asleep
  /-- was woken and waits for the mutex -/
  | woken
  /-- at `if (stop_)` -/
  | check
  /-- in `readPreview`, or about to call `set` -/
  | body
  /-- about to assign `buffersEmpty_[index]` -/
  | flag
  /-- at `notify_one` -/
  | notify
  /-- at `index = (index + 1) % 2` -/
  | next
  /-- at the end of the iteration, where the lock is released -/
  | unlock
  /-- left the loop by `break` or by an exception, and still holds the lock -/
  | leave
  | ended
  deriving DecidableEq, Repr

/-- The local variables of a loop. `iterations` is `i`, which is only written to the log, as an
unbounded number. -/
structure Worker where
  pc : Pc
  index : Fin 2
  iterations : ℕ

/-- The mutex that a thread holds at a place of its loop. -/
def Pc.holds (index : Fin 2) : Pc → Option (Fin 2)
  | .loop | .lock | .asleep | .woken | .ended => none
  | .unlock => some (index + 1)
  | _ => some index

/-- The mutex of the critical section that a thread is in. -/
def Worker.owns (x : Worker) : Option (Fin 2) := x.pc.holds x.index

/-- Where the main thread is in `stop`. -/
inductive Main where
  | outside | locked | stored | notifiedFirst | notifiedSecond
  deriving DecidableEq, Repr

/-- The members of `ImageLoader` and its threads, with the images that `readPreview` has
completed and the buffers that were passed to `set`. -/
structure Loader where
  stop : Bool
  buffers : Fin 2 → List Byte
  buffersEmpty : Fin 2 → Bool
  worker : Role → Worker
  main : Main
  completed : List (List Byte)
  handed : List (List Byte)

namespace Loader

/-- The state in which `start` leaves the loader: nothing is said about the buffers. -/
structure Started (s : Loader) : Prop where
  stop : s.stop = false
  empty : ∀ m, s.buffersEmpty m = true
  worker : ∀ w, s.worker w = ⟨.loop, 0, 0⟩
  main : s.main = .outside
  completed : s.completed = []
  handed : s.handed = []

def put (s : Loader) (w : Role) (x : Worker) : Loader :=
  { s with worker := Function.update s.worker w x }

def move (s : Loader) (w : Role) (pc : Pc) : Loader := s.put w { s.worker w with pc := pc }

/-- The predicate of `wait`. -/
def predicate (s : Loader) (w : Role) : Prop :=
  s.buffersEmpty (s.worker w).index = w.waitsFor ∨ s.stop = true

instance (s : Loader) (w : Role) : Decidable (s.predicate w) :=
  inferInstanceAs (Decidable (_ ∨ _))

/-- `buffersEmpty_[index] = false` in `readPreviews`, and `= true` in `setPreviews`. -/
def assignFlag (s : Loader) (w : Role) : Loader :=
  { s with buffersEmpty := Function.update s.buffersEmpty (s.worker w).index (!w.waitsFor) }

/-- The thread sleeps on a condition variable. -/
def SleepsOn (s : Loader) (w : Role) (m : Fin 2) : Prop :=
  (s.worker w).pc = .asleep ∧ (s.worker w).index = m

instance (s : Loader) (w : Role) (m : Fin 2) : Decidable (s.SleepsOn w m) :=
  inferInstanceAs (Decidable (_ ∧ _))

/-- `conditionVariables_[m].notify_all()`. -/
def notifyAll (s : Loader) (m : Fin 2) : Loader :=
  { s with worker := fun w =>
      if s.SleepsOn w m then { s.worker w with pc := .woken } else s.worker w }

end Loader

/-- One step of one of the threads. -/
inductive Step (s : Loader) : Loader → Prop where
  | loop (w : Role) (hpc : (s.worker w).pc = .loop) :
      Step s (s.move w (if s.stop then .ended else .lock))
  | acquire (w : Role) (hpc : (s.worker w).pc = .lock ∨ (s.worker w).pc = .woken)
      (hfree : ∀ v, (s.worker v).owns ≠ some (s.worker w).index) :
      Step s (s.move w .test)
  | test (w : Role) (hpc : (s.worker w).pc = .test) :
      Step s (s.move w (if s.predicate w then .check else .drowsy))
  | sleep (w : Role) (hpc : (s.worker w).pc = .drowsy) : Step s (s.move w .asleep)
  /-- A thread may wake without having been notified. -/
  | wake (w : Role) (hpc : (s.worker w).pc = .asleep) : Step s (s.move w .woken)
  | check (w : Role) (hpc : (s.worker w).pc = .check) :
      Step s (s.move w (if s.stop then .leave else .body))
  /-- In the middle of `readPreview` the buffer can hold anything. -/
  | fill (data : List Byte) (hpc : (s.worker .reader).pc = .body) :
      Step s { s with buffers := Function.update s.buffers (s.worker .reader).index data }
  | complete (image : List Byte) (hpc : (s.worker .reader).pc = .body) :
      Step s ({ s with
        buffers := Function.update s.buffers (s.worker .reader).index image
        completed := s.completed ++ [image] }.move .reader .flag)
  | readThrows (hpc : (s.worker .reader).pc = .body) : Step s (s.move .reader .leave)
  | hand (hpc : (s.worker .setter).pc = .body) :
      Step s ({ s with
        handed := s.handed ++ [s.buffers (s.worker .setter).index] }.move .setter .flag)
  | setThrows (hpc : (s.worker .setter).pc = .body) :
      Step s ({ s with
        handed := s.handed ++ [s.buffers (s.worker .setter).index] }.move .setter .leave)
  | flag (w : Role) (hpc : (s.worker w).pc = .flag) :
      Step s ((s.assignFlag w).move w .notify)
  | notifyNobody (w : Role) (hpc : (s.worker w).pc = .notify)
      (hnobody : ∀ v, ¬ s.SleepsOn v (s.worker w).index) : Step s (s.move w .next)
  | notifyOne (w v : Role) (hpc : (s.worker w).pc = .notify)
      (hasleep : s.SleepsOn v (s.worker w).index) : Step s ((s.move w .next).move v .woken)
  | next (w : Role) (hpc : (s.worker w).pc = .next) :
      Step s (s.put w ⟨.unlock, (s.worker w).index + 1, (s.worker w).iterations + 1⟩)
  | unlock (w : Role) (hpc : (s.worker w).pc = .unlock) : Step s (s.move w .loop)
  | leave (w : Role) (hpc : (s.worker w).pc = .leave) : Step s (s.move w .ended)
  | mainLock (hmain : s.main = .outside) : Step s { s with main := .locked }
  | mainStore (hmain : s.main = .locked) : Step s { s with stop := true, main := .stored }
  | mainFirst (hmain : s.main = .stored) :
      Step s { s.notifyAll 0 with main := .notifiedFirst }
  | mainSecond (hmain : s.main = .notifiedFirst) :
      Step s { s.notifyAll 1 with main := .notifiedSecond }
  | mainUnlock (hmain : s.main = .notifiedSecond) : Step s { s with main := .outside }

/-- The states of all runs that begin when `start` has returned. -/
def Reachable (s : Loader) : Prop := ∃ s0 : Loader, s0.Started ∧ Relation.ReflTransGen Step s0 s

end Rckam.DoubleBuffer
