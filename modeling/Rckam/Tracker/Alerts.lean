import Rckam.Tracker.Commands

/-! The alerts of the encoders, the callback of a `GotoMonitor`, and its stop function. -/
namespace Rckam.Tracker
open Attempts
open Tb6612fng (Motor)

/-- A pigpio whose calls succeed. -/
structure WorkingPigpio where
  answers : Pigpio
  ret : ∀ k, (answers k).ret = 0

theorem WorkingPigpio.refused (pigpio : WorkingPigpio) (k : ℕ) :
    False ↔ (pigpio.answers k).ret ≠ 0 := by
  simp [pigpio.ret]

/-- `panPosition` and `tiltPosition`. -/
def Machine.position (s : Machine) (motor : Motor) : ℤ := (s.encoders motor).counter

/-- The encoder behind an alert. -/
def Machine.turned (s : Machine) (a : Alert) :
    Option (Encoder GotoMonitor × Option (GotoMonitor × ℤ)) :=
  (s.encoders a.motor).alert a.channel a.level

/-- The final position of the callback that is armed in the encoder of an axis. -/
def Machine.target (s : Machine) (motor : Motor) : Option ℤ :=
  (s.encoders motor).callback.bind GotoMonitor.finalPosition

/-- With this alert an encoder gets to the final position that is installed in it. -/
def Alert.Arrives (s : Machine) (a : Alert) : Prop :=
  ∃ position, s.target a.motor = some position ∧
    (s.encoders a.motor).StepsTo a.channel a.level position

section Runs
variable {lib : Pigpio} {bridge : Tb6612fng} {s : Machine}

/-- The copy in the encoder that it refers to. -/
theorem callback_run {slot : Motor} {monitor : GotoMonitor} (hslot : monitor.encoder = slot)
    (i : ℤ) :
    (monitor.callback lib bridge slot i).run s =
      if some (s.position slot) = monitor.finalPosition then
        .error .undefined (s.setEncoder slot (s.encoders slot).clearCallback)
      else .ok () s := by
  subst hslot
  unfold GotoMonitor.callback Machine.position
  simp only [EStateM.run_bind, EStateM.run_get]
  split
  · rfl
  · rfl

theorem alert_quiet {a : Alert} {e : Encoder GotoMonitor} (h : s.turned a = some (e, none)) :
    (alert lib bridge a).run s = .ok () (s.setEncoder a.motor e) := by
  unfold Machine.turned at h
  unfold alert
  simp only [EStateM.run_bind, EStateM.run_get, h]
  rfl

theorem alert_called {a : Alert} {e : Encoder GotoMonitor} {monitor : GotoMonitor} {i : ℤ}
    (h : s.turned a = some (e, some (monitor, i))) :
    (alert lib bridge a).run s =
      (monitor.callback lib bridge a.motor i).run (s.setEncoder a.motor e) := by
  unfold Machine.turned at h
  unfold alert
  simp only [EStateM.run_bind, EStateM.run_get, h]
  rfl

end Runs

/-- The function that stops a motor. -/
def Tb6612fng.Motor.stop : Motor → Stop
  | .a => .pan 0
  | .b => .tilt 0

section Working
variable {pigpio : WorkingPigpio} {bridge : Tb6612fng} {s t : Machine} {motor : Motor}

theorem turnTowards_run (direction : Tb6612fng.Direction) {duty : ℕ} (hduty : duty ≤ 100) :
    ∃ t, (PanTiltMotors.turnTowards pigpio.answers bridge motor direction duty).run s =
      .ok () t ∧ Commanded s motor direction duty t := by
  have hattempt : Attempt Machine.made (fun _ => False)
      (PanTiltMotors.turnTowards pigpio.answers bridge motor direction duty) s 3
      (fun _ t => Commanded s motor direction duty t) (fun _ e t => CutShort s e t) :=
    turnTowards_attempt hduty fun j _ => pigpio.refused (s.made + j)
  obtain ⟨_, t, hrun, hcommanded⟩ := hattempt.ok fun _ h => h
  exact ⟨t, hrun, hcommanded⟩

theorem untouched_setEncoder {other : Motor} (hother : other ≠ motor)
    (e : Encoder GotoMonitor) : Untouched s (s.setEncoder motor e) other where
  encoder := Function.update_of_ne hother _ _
  dutycycle := rfl
  in1 := rfl
  in2 := rfl

theorem setEncoder_self (e : Encoder GotoMonitor) : (s.setEncoder motor e).encoders motor = e :=
  Function.update_self _ _ _

theorem setEncoder_twice (e e' : Encoder GotoMonitor) :
    (s.setEncoder motor e).setEncoder motor e' = s.setEncoder motor e' := by
  unfold Machine.setEncoder
  simp only [Function.update_idem]

end Working

section Alerting
variable {s : Machine} {a : Alert}

/-- What an alert calls is what is installed in its encoder. -/
theorem turned_callback {e : Encoder GotoMonitor} {monitor : GotoMonitor} {i : ℤ}
    (h : s.turned a = some (e, some (monitor, i))) :
    (s.encoders a.motor).callback = some monitor := by
  obtain ⟨e', called, halert, -, hcount⟩ := (s.encoders a.motor).alert_cases a.channel a.level
  cases h.symm.trans halert
  rcases hcount with ⟨-, hnone⟩ | ⟨j, -, -, hcalled⟩
  · contradiction
  · obtain ⟨f, hf, hpair⟩ := Option.map_eq_some_iff.mp hcalled.symm
    rw [hf, (Prod.mk.inj hpair).1]

/-- A copy that is called arrives when it finds its final position. -/
theorem arrives_iff {e : Encoder GotoMonitor} {called : Option (GotoMonitor × ℤ)}
    (hturned : s.turned a = some (e, called)) {monitor : GotoMonitor}
    (hcallback : (s.encoders a.motor).callback = some monitor) :
    a.Arrives s ↔ (∃ i, called = some (monitor, i)) ∧ some e.counter = monitor.finalPosition := by
  have htarget : s.target a.motor = monitor.finalPosition := by
    unfold Machine.target
    rw [hcallback, Option.bind_some]
  unfold Alert.Arrives
  simp only [htarget, Encoder.stepsTo_iff hturned hcallback]
  constructor
  · rintro ⟨position, hfinal, hcalled, rfl⟩
    exact ⟨hcalled, hfinal.symm⟩
  · rintro ⟨hcalled, hfinal⟩
    exact ⟨e.counter, hfinal.symm, hcalled, rfl⟩

/-- Without a callback nothing arrives. -/
theorem not_arrives_of_callback (hnone : (s.encoders a.motor).callback = none) : ¬ a.Arrives s := by
  rintro ⟨position, htarget, -⟩
  unfold Machine.target at htarget
  rw [hnone] at htarget
  cases htarget

/-- An alert that calls nothing does not arrive. -/
theorem not_arrives {e : Encoder GotoMonitor} (hturned : s.turned a = some (e, none)) :
    ¬ a.Arrives s := by
  intro harrives
  cases hcallback : (s.encoders a.motor).callback with
  | none => exact not_arrives_of_callback hcallback harrives
  | some monitor =>
    obtain ⟨⟨i, hcalled⟩, -⟩ := (arrives_iff hturned hcallback).mp harrives
    cases hcalled

/-- Unless it arrives, an alert does not count to a final position. -/
theorem counter_ne {e : Encoder GotoMonitor} {called : Option (GotoMonitor × ℤ)}
    (hturned : s.turned a = some (e, called)) (hnot : ¬ a.Arrives s) :
    e.counter = s.position a.motor ∨ s.target a.motor ≠ some e.counter := by
  obtain ⟨e', called', halert, -, hcount⟩ := (s.encoders a.motor).alert_cases a.channel a.level
  cases hturned.symm.trans halert
  refine hcount.imp And.left ?_
  rintro ⟨i, -, -, hcalled⟩ htarget
  cases hcallback : (s.encoders a.motor).callback with
  | none =>
    unfold Machine.target at htarget
    rw [hcallback] at htarget
    cases htarget
  | some monitor =>
    unfold Machine.target at htarget
    rw [hcallback] at hcalled htarget
    exact hnot ((arrives_iff hturned hcallback).mpr ⟨⟨i, hcalled⟩, htarget.symm⟩)

/-- How an alert runs that leaves an encoder with its call: it arrives, and then the copy that is
called is destroyed before its stop function is, or it does not. -/
inductive AlertRun (lib : Pigpio) (bridge : Tb6612fng) (s : Machine) (a : Alert)
    (e : Encoder GotoMonitor) : Prop where
  | quiet (hnot : ¬ a.Arrives s)
      (hrun : (alert lib bridge a).run s = .ok () (s.setEncoder a.motor e))
  | arriving (harrives : a.Arrives s)
      (hrun : (alert lib bridge a).run s =
        .error .undefined (s.setEncoder a.motor e.clearCallback))

/-- What an alert does when that which is installed in its encoder refers to this encoder. -/
theorem alert_run (lib : Pigpio) (bridge : Tb6612fng)
    (h : ∀ monitor, (s.encoders a.motor).callback = some monitor → monitor.encoder = a.motor) :
    ∃ e called, s.turned a = some (e, called) ∧
      e.callback = (s.encoders a.motor).callback ∧ AlertRun lib bridge s a e := by
  obtain ⟨e, called, hturned, hkept, -⟩ :=
    (s.encoders a.motor).alert_cases a.channel a.level
  refine ⟨e, called, hturned, hkept, ?_⟩
  cases called with
  | none => exact .quiet (not_arrives hturned) (alert_quiet hturned)
  | some call =>
    obtain ⟨monitor, i⟩ := call
    have hcallback := turned_callback hturned
    have hposition : (s.setEncoder a.motor e).position a.motor = e.counter :=
      congrArg Encoder.counter (setEncoder_self e)
    have hrun : (alert lib bridge a).run s =
        (monitor.callback lib bridge a.motor i).run (s.setEncoder a.motor e) := alert_called hturned
    rw [callback_run (h monitor hcallback), hposition, setEncoder_self, setEncoder_twice] at hrun
    by_cases hfinal : some e.counter = monitor.finalPosition
    · rw [if_pos hfinal] at hrun
      exact .arriving ((arrives_iff hturned hcallback).mpr ⟨⟨i, rfl⟩, hfinal⟩) hrun
    · rw [if_neg hfinal] at hrun
      exact .quiet (fun harrives => hfinal ((arrives_iff hturned hcallback).mp harrives).2) hrun

end Alerting

end Rckam.Tracker
