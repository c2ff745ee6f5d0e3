import Mathlib.Order.Interval.Set.UnorderedInterval
import Rckam.Tracker.Alerts

/-! `gotoPosition` and the encoder counts behind it: how each axis moves towards its target. -/
namespace Rckam.Tracker
open Tb6612fng (Motor)

/-- The change of a counter while its motor turns. -/
def Tb6612fng.Direction.sign : Tb6612fng.Direction → ℤ
  | .ccw => -1
  | .cw => 1

/-- While a motor is driven its encoder counts in the direction of the motor. -/
def Turns (s : Machine) (a : Alert) : Prop :=
  ∀ e called, s.turned a = some (e, called) → ∀ direction, s.Driven a.motor direction →
    e.counter = s.position a.motor ∨ e.counter = s.position a.motor + direction.sign

/-- An alert does not bring an axis to its target. -/
def Underway (s : Machine) (a : Alert) : Prop := ¬ a.Arrives s

section Definitions
variable (pigpio : WorkingPigpio) (bridge : Tb6612fng)

/-- Every alert of a sequence is as `P` says in the state in which it is raised. -/
def Throughout (P : Machine → Alert → Prop) : Machine → List Alert → Prop
  | _, [] => True
  | s, a :: rest =>
      P s a ∧ ∀ t, (alert pigpio.answers bridge a).run s = .ok () t → Throughout P t rest

/-- What is expected of an axis after some alerts behind `gotoPosition`, which ended in `s`. -/
structure Expected (s : Machine) (history : List Alert) (t : Machine) (motor : Motor)
    (start target : ℤ) : Prop where
  driven : t.dutycycle motor ≠ 0 → t.dutycycle motor = 20 * 10000 ∧
    (t.position motor < target ∧ t.Driven motor .cw ∨
      target < t.position motor ∧ t.Driven motor .ccw)
  stopped : ∀ front back u, history = front ++ back →
    (alerts pigpio.answers bridge front).run s = .ok () u → u.position motor = target →
      t.dutycycle motor = 0
  between : t.position motor ∈ Set.uIcc start target

/-- `gotoPosition` moves both axes towards their targets and stops them there, along the alerts
behind it. -/
def GoesTo (s : Machine) (target : Motor → ℤ) (history : List Alert) : Prop :=
  ∃ s', (PanTiltMotors.gotoPosition pigpio.answers bridge (target .a) (target .b)).run s =
      .ok () s' ∧
    (Throughout pigpio bridge Turns s' history → ∀ front back, history = front ++ back →
      ∃ t, (alerts pigpio.answers bridge front).run s' = .ok () t ∧
        ∀ motor, Expected pigpio bridge s' front t motor (s.position motor) (target motor))

/-- Neither axis is at its target when `gotoPosition` is called, and no alert brings it there. -/
def StaysUnderway (s : Machine) (target : Motor → ℤ) (history : List Alert) : Prop :=
  ∀ s', (PanTiltMotors.gotoPosition pigpio.answers bridge (target .a) (target .b)).run s =
      .ok () s' →
    Throughout pigpio bridge Turns s' history →
      (∀ motor, target motor ≠ s.position motor) ∧ Throughout pigpio bridge Underway s' history

end Definitions

/-! ### The two axes -/

section Working
variable {pigpio : WorkingPigpio} {bridge : Tb6612fng} {s t : Machine} {motor : Motor}

/-- An axis turns from `start` to its target and has not arrived. -/
structure Armed (s : Machine) (motor : Motor) (start target : ℤ) : Prop where
  duty : s.dutycycle motor = 20 * 10000
  towards : start ≤ s.position motor ∧ s.position motor < target ∧ s.Driven motor .cw ∨
    target < s.position motor ∧ s.position motor ≤ start ∧ s.Driven motor .ccw
  callback : (s.encoders motor).callback = some ⟨motor, some target, some motor.stop⟩

variable {start target : ℤ} {a : Alert}

theorem Armed.untouched (h : Armed s motor start target) (hsame : Untouched s t motor) :
    Armed t motor start target := by
  have hposition : t.position motor = s.position motor :=
    congrArg Encoder.counter hsame.encoder
  constructor
  · exact hsame.dutycycle.trans h.duty
  · rw [hposition]
    rcases h.towards with ⟨h1, h2, hdriven⟩ | ⟨h1, h2, hdriven⟩
    · exact Or.inl ⟨h1, h2, hsame.driven hdriven⟩
    · exact Or.inr ⟨h1, h2, hsame.driven hdriven⟩
  · rw [hsame.encoder]
    exact h.callback

theorem Armed.position_ne (h : Armed s motor start target) : s.position motor ≠ target := by
  rcases h.towards with ⟨-, hlt, -⟩ | ⟨hlt, -, -⟩
  · exact hlt.ne
  · exact hlt.ne'

theorem Armed.own (h : Armed s motor start target) (monitor : GotoMonitor)
    (hmonitor : (s.encoders motor).callback = some monitor) : monitor.encoder = motor := by
  cases h.callback.symm.trans hmonitor
  rfl

/-- An armed axis whose encoder has moved on in the direction of its motor, short of the target. -/
theorem Armed.advance (h : Armed s motor start target) {e : Encoder GotoMonitor}
    (hkept : e.callback = (s.encoders motor).callback)
    (hmoved : ∀ direction, s.Driven motor direction →
      e.counter = s.position motor ∨ e.counter = s.position motor + direction.sign)
    (hne : e.counter ≠ target) : Armed (s.setEncoder motor e) motor start target := by
  have hposition : (s.setEncoder motor e).position motor = e.counter :=
    congrArg Encoder.counter (setEncoder_self e)
  constructor
  · exact h.duty
  · rw [hposition]
    rcases h.towards with ⟨h1, h2, hdriven⟩ | ⟨h1, h2, hdriven⟩
    · have hmoved := hmoved .cw hdriven
      have hsign : Tb6612fng.Direction.cw.sign = 1 := rfl
      exact Or.inl ⟨by omega, by omega, hdriven.duty, hdriven.in1, hdriven.in2⟩
    · have hmoved := hmoved .ccw hdriven
      have hsign : Tb6612fng.Direction.ccw.sign = -1 := rfl
      exact Or.inr ⟨by omega, by omega, hdriven.duty, hdriven.in1, hdriven.in2⟩
  · rw [setEncoder_self, hkept]
    exact h.callback

theorem Armed.target_eq (h : Armed s motor start target) : s.target motor = some target := by
  unfold Machine.target
  rw [h.callback]
  rfl

/-- An alert of an armed axis that does not bring it to its target. -/
theorem Armed.alert (h : Armed s a.motor start target) (hturns : Turns s a)
    (hunderway : Underway s a) :
    ∃ t, (alert pigpio.answers bridge a).run s = .ok () t ∧
      (∀ other, other ≠ a.motor → Untouched s t other) ∧ Armed t a.motor start target := by
  obtain ⟨e, called, hturned, hkept, halert⟩ := alert_run pigpio.answers bridge h.own
  cases halert with
  | quiet hnot hrun =>
    have hne : e.counter ≠ target := by
      rintro rfl
      rcases counter_ne hturned hnot with hcounter | htarget
      · exact h.position_ne hcounter.symm
      · exact htarget h.target_eq
    exact ⟨_, hrun, fun other hother => untouched_setEncoder hother e,
      h.advance hkept (hturns e called hturned) hne⟩
  | arriving harrives => exact absurd harrives hunderway

/-- When it does, the copy of the monitor that is called has been destroyed before its stop function
is called. -/
theorem Armed.arrives (h : Armed s a.motor start target) (harrives : a.Arrives s) :
    ∃ t, (Tracker.alert pigpio.answers bridge a).run s = .error .undefined t := by
  obtain ⟨e, called, hturned, hkept, halert⟩ := alert_run pigpio.answers bridge h.own
  cases halert with
  | quiet hnot => exact absurd harrives hnot
  | arriving _ hrun => exact ⟨_, hrun⟩

/-- An alert that brings no axis to its target keeps both axes. -/
theorem armed_alert {start target : Motor → ℤ}
    (h : ∀ motor, Armed s motor (start motor) (target motor)) (hturns : Turns s a)
    (hunderway : Underway s a) :
    ∃ t, (alert pigpio.answers bridge a).run s = .ok () t ∧
      ∀ motor, Armed t motor (start motor) (target motor) := by
  obtain ⟨t, hrun, hothers, harmed⟩ := (h a.motor).alert hturns hunderway
  refine ⟨t, hrun, fun motor => ?_⟩
  by_cases hmotor : motor = a.motor
  · exact hmotor ▸ harmed
  · exact (h motor).untouched (hothers motor hmotor)

theorem alerts_cons (rest : List Alert) (hrun : (alert pigpio.answers bridge a).run s = .ok () t) :
    (alerts pigpio.answers bridge (a :: rest)).run s =
      (alerts pigpio.answers bridge rest).run t := by
  rw [alerts, EStateM.run_bind, hrun]

/-- A sequence of alerts keeps the axes as long as none of them brings one to its target. -/
theorem armed_alerts {start target : Motor → ℤ} (history : List Alert)
    (h : ∀ motor, Armed s motor (start motor) (target motor))
    (hturns : Throughout pigpio bridge Turns s history)
    (hunderway : Throughout pigpio bridge Underway s history) :
    ∃ t, (alerts pigpio.answers bridge history).run s = .ok () t ∧
      ∀ motor, Armed t motor (start motor) (target motor) := by
  induction history generalizing s with
  | nil => exact ⟨s, rfl, h⟩
  | cons a history ih =>
    obtain ⟨u, hrun, hu⟩ := armed_alert h hturns.1 hunderway.1
    obtain ⟨t, hrun', ht⟩ := ih hu (hturns.2 u hrun) (hunderway.2 u hrun)
    exact ⟨t, (alerts_cons history hrun).trans hrun', ht⟩

/-- A sequence of alerts that ends well brings no axis to its target. -/
theorem underway_of_alerts {start target : Motor → ℤ} (history : List Alert)
    (h : ∀ motor, Armed s motor (start motor) (target motor))
    (hturns : Throughout pigpio bridge Turns s history)
    (hrun : (alerts pigpio.answers bridge history).run s = .ok () t) :
    Throughout pigpio bridge Underway s history := by
  induction history generalizing s with
  | nil => trivial
  | cons a history ih =>
    have hunderway : Underway s a := by
      intro harrives
      obtain ⟨u, halert⟩ : ∃ u, (alert pigpio.answers bridge a).run s = .error .undefined u :=
        (h a.motor).arrives harrives
      rw [alerts, EStateM.run_bind, halert] at hrun
      cases hrun
    refine ⟨hunderway, fun u halert => ?_⟩
    obtain ⟨u', halert', hu⟩ : ∃ u, (alert pigpio.answers bridge a).run s = .ok () u ∧
        ∀ motor, Armed u motor (start motor) (target motor) := armed_alert h hturns.1 hunderway
    cases halert.symm.trans halert'
    exact ih hu (hturns.2 u halert) ((alerts_cons history halert).symm.trans hrun)

/-- What is installed in the encoder of a motor. -/
theorem arm_self (finalPosition : ℤ) (stop : Stop) :
    (s.arm motor finalPosition stop).position motor = s.position motor ∧
      ((s.arm motor finalPosition stop).encoders motor).callback =
        some ⟨motor, some finalPosition, some stop⟩ := by
  have hencoder : (s.arm motor finalPosition stop).encoders motor =
      (s.encoders motor).setCallback { s.gotoMonitors motor with
        finalPosition := some finalPosition, stop := some stop } := Function.update_self _ _ _
  unfold Machine.position
  rw [hencoder]
  exact ⟨rfl, congrArg (fun m => some (GotoMonitor.mk m (some finalPosition) (some stop)))
    (s.references motor)⟩

theorem arm_other {other : Motor} (hother : other ≠ motor) (finalPosition : ℤ) (stop : Stop) :
    (s.arm motor finalPosition stop).encoders other = s.encoders other :=
  Function.update_of_ne hother _ _

/-- The motors with both axes armed, before the commands of `gotoPosition`. -/
theorem armed_both (s : Machine) (target : Motor → ℤ) (motor : Motor) :
    ((s.arm .a (target .a) (.pan 0)).arm .b (target .b) (.tilt 0)).position motor =
        s.position motor ∧
      (((s.arm .a (target .a) (.pan 0)).arm .b (target .b) (.tilt 0)).encoders motor).callback =
        some ⟨motor, some (target motor), some motor.stop⟩ := by
  unfold Machine.position
  cases motor with
  | a =>
    rw [arm_other (by decide : Motor.a ≠ .b)]
    exact arm_self (target .a) (.pan 0)
  | b =>
    obtain ⟨hposition, hcallback⟩ :=
      arm_self (s := s.arm .a (target .a) (.pan 0)) (target .b) (.tilt 0)
    have hother := arm_other (s := s) (by decide : Motor.b ≠ .a) (target .a) (.pan 0)
    exact ⟨hposition.trans (congrArg Encoder.counter hother), hcallback⟩

/-- A command for each motor. -/
theorem commanded_both {s t u : Machine} {towards : Motor → Tb6612fng.Direction} {duty : ℕ}
    (hpan : Commanded s .a (towards .a) duty t) (htilt : Commanded t .b (towards .b) duty u)
    (hduty : duty ≠ 0) (motor : Motor) :
    u.dutycycle motor = duty * 10000 ∧ u.Driven motor (towards motor) := by
  cases motor with
  | a =>
    have hsame : Untouched t u .a := htilt.untouched (by decide)
    exact ⟨hsame.dutycycle.trans hpan.dutycycle_eq, hsame.driven (hpan.driven hduty)⟩
  | b => exact ⟨htilt.dutycycle_eq, htilt.driven hduty⟩

/-- An axis behind `gotoPosition`: its motor is driven, whether or not there is a way to go. -/
structure Departed (s s' : Machine) (motor : Motor) (target : ℤ) : Prop where
  position : s'.position motor = s.position motor
  duty : s'.dutycycle motor = 20 * 10000
  driven : s'.Driven motor (if target < s.position motor then .ccw else .cw)
  callback : (s'.encoders motor).callback = some ⟨motor, some target, some motor.stop⟩

theorem gotoPosition_run (s : Machine) (target : Motor → ℤ) :
    ∃ s', (PanTiltMotors.gotoPosition pigpio.answers bridge (target .a) (target .b)).run s =
        .ok () s' ∧ ∀ motor, Departed s s' motor (target motor) := by
  let towards : Motor → Tb6612fng.Direction := fun motor =>
    if target motor < s.position motor then .ccw else .cw
  let armed := (s.arm .a (target .a) (.pan 0)).arm .b (target .b) (.tilt 0)
  obtain ⟨t, hpan, hcommanded⟩ :
      ∃ t, (PanTiltMotors.turnTowards pigpio.answers bridge .a (towards .a) 20).run armed =
        .ok () t ∧ Commanded armed .a (towards .a) 20 t := turnTowards_run _ (by decide)
  obtain ⟨s', htilt, hcommanded'⟩ :
      ∃ s', (PanTiltMotors.turnTowards pigpio.answers bridge .b (towards .b) 20).run t =
        .ok () s' ∧ Commanded t .b (towards .b) 20 s' := turnTowards_run _ (by decide)
  have hencoders : s'.encoders = armed.encoders :=
    hcommanded'.encoders.trans hcommanded.encoders
  have hrun : (PanTiltMotors.gotoPosition pigpio.answers bridge (target .a) (target .b)).run s =
      .ok () s' := by
    show EStateM.run (do
      PanTiltMotors.turnTowards pigpio.answers bridge .a (towards .a) 20
      PanTiltMotors.turnTowards pigpio.answers bridge .b (towards .b) 20) armed = _
    simp only [EStateM.run_bind, hpan, htilt]
  refine ⟨s', hrun, fun motor => ?_⟩
  obtain ⟨hposition, hcallback⟩ := armed_both s target motor
  obtain ⟨hduty, hdriven⟩ := commanded_both hcommanded hcommanded' (by decide) motor
  constructor
  · unfold Machine.position
    rw [hencoders]
    exact hposition
  · exact hduty
  · exact hdriven
  · rw [hencoders]
    exact hcallback

theorem throughout_front {P : Machine → Alert → Prop} {front back : List Alert}
    (h : Throughout pigpio bridge P s (front ++ back)) : Throughout pigpio bridge P s front := by
  induction front generalizing s with
  | nil => trivial
  | cons a front ih => exact ⟨h.1, fun t hrun => ih (h.2 t hrun)⟩

/-- With a way to go, the axis is armed. -/
theorem Departed.armed {s' : Machine} {target : ℤ} (h : Departed s s' motor target)
    (hne : target ≠ s.position motor) : Armed s' motor (s.position motor) target := by
  have hdriven := h.driven
  constructor
  · exact h.duty
  · rw [h.position]
    by_cases hlt : target < s.position motor
    · rw [if_pos hlt] at hdriven
      exact Or.inr ⟨hlt, le_rfl, hdriven⟩
    · rw [if_neg hlt] at hdriven
      exact Or.inl ⟨le_rfl, lt_of_le_of_ne (not_lt.mp hlt) hne.symm, hdriven⟩
  · exact h.callback

theorem Armed.between (h : Armed t motor start target) :
    t.position motor ∈ Set.uIcc start target := by
  rw [Set.mem_uIcc]
  rcases h.towards with ⟨h1, h2, -⟩ | ⟨h1, h2, -⟩
  · exact Or.inl ⟨h1, h2.le⟩
  · exact Or.inr ⟨h1.le, h2⟩

theorem Armed.driven (h : Armed t motor start target) :
    t.position motor < target ∧ t.Driven motor .cw ∨
      target < t.position motor ∧ t.Driven motor .ccw := by
  rcases h.towards with ⟨-, hlt, hdriven⟩ | ⟨hlt, -, hdriven⟩
  · exact Or.inl ⟨hlt, hdriven⟩
  · exact Or.inr ⟨hlt, hdriven⟩

/-- With a way to go on both axes, and as long as neither arrives, they move towards their
targets. -/
theorem goesTo_of_underway {target : Motor → ℤ} {history : List Alert}
    (h : StaysUnderway pigpio bridge s target history) :
    GoesTo pigpio bridge s target history := by
  obtain ⟨s', hgoto, hdeparted⟩ := gotoPosition_run s target
  refine ⟨s', hgoto, ?_⟩
  rintro hturns front back rfl
  obtain ⟨hne, hunderway⟩ := h s' hgoto hturns
  have harmed (motor : Motor) : Armed s' motor (s.position motor) (target motor) :=
    (hdeparted motor).armed (hne motor)
  have hfront := throughout_front hturns
  have hunderway' := throughout_front hunderway
  obtain ⟨t, hrun, ht⟩ := armed_alerts front harmed hfront hunderway'
  refine ⟨t, hrun, fun motor => ⟨fun _ => ⟨(ht motor).duty, (ht motor).driven⟩, ?_,
    (ht motor).between⟩⟩
  rintro earlier later u rfl hearlier htarget
  obtain ⟨u', hrun', hu⟩ :=
    armed_alerts earlier harmed (throughout_front hfront) (throughout_front hunderway')
  cases hearlier.symm.trans hrun'
  exact absurd htarget (hu motor).position_ne

/-- Without a way to go an axis is driven at its target. -/
theorem not_expected {s' : Machine} {target : ℤ} (h : Departed s s' motor target)
    (hsame : target = s.position motor) :
    ¬ Expected pigpio bridge s' [] s' motor (s.position motor) target := by
  intro hexpected
  have hduty : s'.dutycycle motor ≠ 0 := by
    rw [h.duty]
    decide
  have hposition := h.position
  rcases (hexpected.driven hduty).2 with ⟨hlt, -⟩ | ⟨hlt, -⟩ <;> omega

/-- What goes to its targets has a way to go and does not arrive. -/
theorem GoesTo.underway {target : Motor → ℤ} {history : List Alert}
    (h : GoesTo pigpio bridge s target history) : StaysUnderway pigpio bridge s target history := by
  obtain ⟨s', hgoto, hexpected⟩ := h
  intro s'' hgoto'' hturns
  cases hgoto.symm.trans hgoto''
  obtain ⟨s'', hgoto', hdeparted⟩ : ∃ s'', (PanTiltMotors.gotoPosition pigpio.answers bridge
      (target .a) (target .b)).run s = .ok () s'' ∧
        ∀ motor, Departed s s'' motor (target motor) := gotoPosition_run s target
  cases hgoto.symm.trans hgoto'
  have hne (motor : Motor) : target motor ≠ s.position motor := by
    intro hsame
    obtain ⟨t, hrun, ht⟩ := hexpected hturns [] history rfl
    cases hrun
    exact not_expected (hdeparted motor) hsame (ht motor)
  obtain ⟨t, hrun, -⟩ := hexpected hturns history [] (List.append_nil history).symm
  exact ⟨hne, underway_of_alerts history (fun motor => (hdeparted motor).armed (hne motor))
    hturns hrun⟩

end Working

/-- `gotoPosition` moves both axes towards their targets and stops them there exactly as long as it
does not have to stop them: neither is at its target already and no alert brings it there. -/
theorem goesTo_iff (pigpio : WorkingPigpio) (bridge : Tb6612fng) (s : Machine)
    (target : Motor → ℤ) (history : List Alert) :
    GoesTo pigpio bridge s target history ↔ StaysUnderway pigpio bridge s target history :=
  ⟨GoesTo.underway, goesTo_of_underway⟩

/-- A pigpio that returns 0. -/
def quietPigpio : WorkingPigpio := ⟨fun _ => ⟨0, 0, 0⟩, fun _ => rfl⟩

/-- The pan axis is sent to where it is. -/
def tiltOnly : Motor → ℤ
  | .a => 0
  | .b => 5

theorem goto_runs_on : ¬ GoesTo quietPigpio defaultBridge (.initial 2 3 19 26) tiltOnly [] := by
  intro hgoes
  obtain ⟨s', hgoto, hdeparted⟩ : ∃ s', (PanTiltMotors.gotoPosition quietPigpio.answers
      defaultBridge 0 5).run (.initial 2 3 19 26) = .ok () s' ∧
        ∀ motor, Departed (.initial 2 3 19 26) s' motor (tiltOnly motor) :=
    gotoPosition_run (.initial 2 3 19 26) tiltOnly
  exact (hgoes.underway s' hgoto trivial).1 .a rfl

end Rckam.Tracker
