import Mathlib.Data.Fin.VecNotation
import Mathlib.Data.Int.Notation
import Mathlib.Logic.Function.Basic
import Mathlib.Tactic.Common
import Rckam.Common.Platform

/-! The rotary encoder of the tracker, `Encoder`. -/
namespace Rckam.Tracker

/-- `κ` is the type of the functions installed by `setCallback`. `lastGpio` is the `int` that the
code compares it as. `counter` is without the bounds of the `int` that it is in the code: it is the
value of that `int` in a run in which it has always stayed within them, and the code has no defined
behaviour in any other run. -/
structure Encoder (κ : Type) where
  gpios : Fin 2 → ℕ
  lastGpio : ℤ
  counter : ℤ
  states : Fin 2 → ℕ
  callback : Option κ

/-- The values of an `int`. -/
def IsInt (n : ℤ) : Prop := -2 ^ 31 ≤ n ∧ n < 2 ^ 31

instance (n : ℤ) : Decidable (IsInt n) := inferInstanceAs (Decidable (_ ∧ _))

theorem isInt_zero : IsInt 0 := by decide

namespace Encoder
variable {κ : Type}

/-- The members as the constructor initializes them. -/
def initial (a b : ℕ) : Encoder κ where
  gpios := ![a, b]
  lastGpio := -1
  counter := 0
  states := ![1, 1]
  callback := none

/-- The constructor; `gpioSetMode` is what the library returns for a GPIO put into INPUT mode.
The result is the encoder, or the message of the `GpioException` for the first GPIO that fails. -/
def construct (gpioSetMode : ℕ → ℤ) (a b : ℕ) : Except String (Encoder κ) :=
  match [a, b].find? fun gpio => gpioSetMode gpio ≠ 0 with
  | some gpio =>
      .error ("ERROR: failed to set GPIO " ++ toString gpio ++ " to INPUT mode: " ++
        toString (gpioSetMode gpio))
  | none => .ok (initial a b)

def setCallback (e : Encoder κ) (callback : κ) : Encoder κ := { e with callback := some callback }

def reset (e : Encoder κ) : Encoder κ := { e with counter := 0 }

/-- `interrupt`, without the value of `tick`, which it does not use. The result is the encoder
and the call made to the callback, or `none` when the assertion fails. -/
def interrupt (e : Encoder κ) (gpio : ℤ) (level : ℕ) : Option (Encoder κ × Option (κ × ℤ)) :=
  if gpio = e.gpios 0 ∨ gpio = e.gpios 1 then
    let gpioIndex : Fin 2 := if gpio = e.gpios 1 then 1 else 0
    let states := Function.update e.states gpioIndex level
    -- debounce if needed and update the counter on H/H
    if gpio ≠ e.lastGpio ∧ states 0 = 1 ∧ states 1 = 1 then
      let increment : ℤ := if gpioIndex = 0 then 1 else -1
      some ({ e with states := states, counter := e.counter + increment, lastGpio := gpio },
        e.callback.map fun f => (f, increment))
    else some ({ e with states := states, lastGpio := gpio }, none)
  else none

/-- The alert that the library raises for a level change on one of the two GPIOs. -/
def alert (e : Encoder κ) (channel : Fin 2) (level : ℕ) : Option (Encoder κ × Option (κ × ℤ)) :=
  e.interrupt (e.gpios channel) level

/-- The change of the counter that a level on a channel stands for. -/
def sign (channel : Fin 2) : ℤ := if channel = 0 then 1 else -1

/-- An alert on a channel counts when the other channel was the last to change and both levels
are high. -/
def Counts (e : Encoder κ) (channel : Fin 2) (level : ℕ) : Prop :=
  (e.gpios channel : ℤ) ≠ e.lastGpio ∧ ∀ c, Function.update e.states channel level c = 1

instance (e : Encoder κ) (channel : Fin 2) (level : ℕ) : Decidable (e.Counts channel level) :=
  inferInstanceAs (Decidable (_ ∧ _))

/-- With this alert the encoder counts, and its counter gets to a position. -/
def StepsTo (e : Encoder κ) (channel : Fin 2) (level : ℕ) (position : ℤ) : Prop :=
  let index : Fin 2 := if (e.gpios channel : ℤ) = e.gpios 1 then 1 else 0
  (e.gpios channel : ℤ) ≠ e.lastGpio ∧ (∀ c, Function.update e.states index level c = 1) ∧
    e.counter + sign index = position

/-- An alert comes from one of the two GPIOs. -/
theorem asserted (e : Encoder κ) (channel : Fin 2) :
    (e.gpios channel : ℤ) = e.gpios 0 ∨ (e.gpios channel : ℤ) = e.gpios 1 := by
  match channel with
  | 0 => exact Or.inl rfl
  | 1 => exact Or.inr rfl

/-- Everything an alert does. -/
theorem alert_eq {e : Encoder κ} (hdistinct : e.gpios 0 ≠ e.gpios 1) (channel : Fin 2)
    (level : ℕ) :
    e.alert channel level = some
      ({ e with
        states := Function.update e.states channel level
        counter := e.counter + if e.Counts channel level then sign channel else 0
        lastGpio := e.gpios channel },
      if e.Counts channel level then e.callback.map fun f => (f, sign channel) else none) := by
  have hindex : (if (e.gpios channel : ℤ) = e.gpios 1 then (1 : Fin 2) else 0) = channel := by
    match channel with
    | 0 => exact if_neg (by exact_mod_cast hdistinct)
    | 1 => exact if_pos rfl
  have hcounts : ((e.gpios channel : ℤ) ≠ e.lastGpio ∧
      Function.update e.states channel level 0 = 1 ∧
        Function.update e.states channel level 1 = 1) ↔ e.Counts channel level := by
    rw [Counts, Fin.forall_fin_two]
  rw [alert, interrupt, if_pos (e.asserted channel)]
  simp only [hindex, hcounts]
  by_cases h : e.Counts channel level
  · rw [if_pos h, if_pos h, if_pos h, sign]
  · rw [if_neg h, if_neg h, if_neg h, Int.add_zero]

/-- An alert counts at most once, and calls the callback when it counts. -/
theorem alert_cases (e : Encoder κ) (channel : Fin 2) (level : ℕ) :
    ∃ e' called, e.alert channel level = some (e', called) ∧ e'.callback = e.callback ∧
      (e'.counter = e.counter ∧ called = none ∨
        ∃ i, (i = 1 ∨ i = -1) ∧ e'.counter = e.counter + i ∧
          called = e.callback.map fun f => (f, i)) := by
  unfold alert interrupt
  rw [if_pos (e.asserted channel)]
  generalize (if (e.gpios channel : ℤ) = e.gpios 1 then (1 : Fin 2) else 0) = index
  by_cases hcounts : (e.gpios channel : ℤ) ≠ e.lastGpio ∧
      Function.update e.states index level 0 = 1 ∧ Function.update e.states index level 1 = 1
  · refine ⟨_, _, if_pos hcounts, rfl, Or.inr ⟨if index = 0 then 1 else -1, ?_, rfl, rfl⟩⟩
    by_cases h : index = 0
    · exact Or.inl (if_pos h)
    · exact Or.inr (if_neg h)
  · exact ⟨_, _, if_neg hcounts, rfl, Or.inl ⟨rfl, rfl⟩⟩

/-- An alert that does not count gets to no position, and one that counts to that of the counter. -/
theorem stepsTo_cases {e e' : Encoder κ} {channel : Fin 2} {level : ℕ} {called : Option (κ × ℤ)}
    (h : e.alert channel level = some (e', called)) :
    (called = none ∧ e'.counter = e.counter ∧ ∀ position, ¬ e.StepsTo channel level position) ∨
      ∃ i, called = (e.callback.map fun f => (f, i)) ∧
        ∀ position, e.StepsTo channel level position ↔ e'.counter = position := by
  unfold alert interrupt at h
  rw [if_pos (e.asserted channel)] at h
  unfold StepsTo
  dsimp only at h ⊢
  simp only [Fin.forall_fin_two]
  generalize (if (e.gpios channel : ℤ) = e.gpios 1 then (1 : Fin 2) else 0) = index at h ⊢
  split at h
  case isTrue hcounts =>
    cases h
    refine Or.inr ⟨_, rfl, fun position => ⟨fun hsteps => hsteps.2.2, fun hposition => ?_⟩⟩
    exact ⟨hcounts.1, hcounts.2, hposition⟩
  case isFalse hcounts =>
    cases h
    refine Or.inl ⟨rfl, rfl, fun position hsteps => ?_⟩
    exact hcounts ⟨hsteps.1, hsteps.2.1⟩

/-- Whether an alert brings an encoder to a position shows in its counter. -/
theorem stepsTo_iff {e e' : Encoder κ} {channel : Fin 2} {level : ℕ} {called : Option (κ × ℤ)}
    (h : e.alert channel level = some (e', called)) {f : κ} (hf : e.callback = some f)
    (position : ℤ) :
    e.StepsTo channel level position ↔ (∃ i, called = some (f, i)) ∧ e'.counter = position := by
  rcases stepsTo_cases h with ⟨rfl, -, hnot⟩ | ⟨i, rfl, hsteps⟩
  · refine iff_of_false (hnot position) ?_
    rintro ⟨⟨i, hcalled⟩, -⟩
    cases hcalled
  · rw [hsteps, hf]
    exact (and_iff_right ⟨i, rfl⟩).symm

/-- Whether a counter stays within the bounds. -/
theorem isInt_iff {e e' : Encoder κ} {channel : Fin 2} {level : ℕ} {called : Option (κ × ℤ)}
    (h : e.alert channel level = some (e', called)) (hint : IsInt e.counter) :
    IsInt e'.counter ↔ ∀ position, e.StepsTo channel level position → IsInt position := by
  rcases stepsTo_cases h with ⟨-, hcounter, hnot⟩ | ⟨i, -, hsteps⟩
  · exact iff_of_true (hcounter ▸ hint) fun position hsteps => absurd hsteps (hnot position)
  · simp only [hsteps, forall_eq']

end Encoder

end Rckam.Tracker
