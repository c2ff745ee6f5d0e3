import Rckam.Tracker.Goto
import Rckam.Tracker.Operations

/-! A `gotoPosition` in progress, and what the other operations of the motors do to it. -/
namespace Rckam.Tracker
open Tb6612fng (Motor)

/-- A motor that turns in this direction gets from a position to another one. -/
def Tb6612fng.Direction.LeadsTo (position target : ℤ) : Tb6612fng.Direction → Prop
  | .cw => position < target
  | .ccw => target < position

/-- An axis that is armed and has a duty moves towards its final position. -/
def Machine.OnCourse (s : Machine) (motor : Motor) : Prop :=
  ∀ target, s.target motor = some target → s.dutycycle motor ≠ 0 →
    ∃ direction, s.Driven motor direction ∧ direction.LeadsTo (s.position motor) target

/-- The direction that `gotoPosition` chooses. -/
def Machine.towards (s : Machine) (motor : Motor) (target : ℤ) : Tb6612fng.Direction :=
  if target < s.position motor then .ccw else .cw

/-- The arguments of `gotoPosition`. -/
def targets (pan tilt : ℤ) : Motor → ℤ
  | .a => pan
  | .b => tilt

/-- The calls that `gotoPosition` makes before those for an axis. -/
def callsBefore : Motor → ℕ
  | .a => 0
  | .b => 3

/-- `gotoPosition` is called with targets that are not the counters, and while a motor is driven
its encoder counts in its direction. -/
def PanTiltMotors.Operation.Permitted (s : Machine) : PanTiltMotors.Operation → Prop
  | .gotoPosition pan tilt => ∀ motor, targets pan tilt motor ≠ s.position motor
  | .alert a => Turns s a
  | _ => True

/-- An operation that does not turn an armed axis away from its final position. -/
def PanTiltMotors.Operation.Respects (lib : Pigpio) (s : Machine) : PanTiltMotors.Operation → Prop
  | .command c =>
      -- the duty that the motor has behind the command, which may be cut short
      ∀ target, s.target c.motor = some target → Accepted lib s 1 →
        (if Accepted lib s 3 then c.duty ≠ 0 else s.dutycycle c.motor ≠ 0) →
          c.direction.LeadsTo (s.position c.motor) target
  | .gotoPosition pan tilt =>
      -- what a refused call leaves unwritten has the right level already
      ∀ motor, s.dutycycle motor ≠ 0 →
        (¬ Accepted lib s (callsBefore motor + 1) →
          s.level (.in1 motor) = some (s.towards motor (targets pan tilt motor)).level) ∧
        (¬ Accepted lib s (callsBefore motor + 2) →
          s.level (.in2 motor) = some (((s.towards motor (targets pan tilt motor)).level + 1) % 2))
  | .setZero =>
      -- zero is on the same side of the final position as the counter
      ∀ motor target, s.target motor = some target → s.dutycycle motor ≠ 0 →
        s.position motor < target ∧ 0 < target ∨ target < s.position motor ∧ target < 0
  | _ => True

section Definitions
variable (lib : Pigpio) (bridge : Tb6612fng)

/-- Both axes are on course in every state of a run. -/
def StaysOnCourse : Machine → List PanTiltMotors.Operation → Prop
  | s, [] => ∀ motor, s.OnCourse motor
  | s, o :: rest =>
      (∀ motor, s.OnCourse motor) ∧
        (o.Permitted s → ∀ t, left (o.perform lib bridge) s = some t → StaysOnCourse t rest)

def AllRespect : Machine → List PanTiltMotors.Operation → Prop
  | _, [] => True
  | s, o :: rest =>
      o.Permitted s →
        o.Respects lib s ∧ ∀ t, left (o.perform lib bridge) s = some t → AllRespect t rest

end Definitions

/-- What is installed in an encoder stops its own motor. -/
def Machine.Wired (s : Machine) : Prop :=
  ∀ motor monitor, (s.encoders motor).callback = some monitor →
    monitor.encoder = motor ∧ monitor.stop = some motor.stop ∧
      ∃ target, monitor.finalPosition = some target

section Axes
variable {lib : Pigpio} {bridge : Tb6612fng} {s t : Machine} {motor : Motor}

theorem Machine.Wired.own (h : s.Wired) (motor : Motor) (monitor : GotoMonitor)
    (hmonitor : (s.encoders motor).callback = some monitor) : monitor.encoder = motor :=
  (h motor monitor hmonitor).1

/-- Only one direction leads to a position. -/
theorem leadsTo_unique {d d' : Tb6612fng.Direction} {position target : ℤ}
    (h : d.LeadsTo position target) (h' : d'.LeadsTo position target) : d = d' := by
  cases d <;> cases d' <;> first | rfl | exact absurd h (lt_asymm h')

theorem towards_leadsTo {target : ℤ} (h : target ≠ s.position motor) :
    (s.towards motor target).LeadsTo (s.position motor) target := by
  unfold Machine.towards
  split
  · next hlt => exact hlt
  · next hge => exact lt_of_le_of_ne (not_lt.mp hge) h.symm

theorem target_congr (h : t.encoders motor = s.encoders motor) :
    t.target motor = s.target motor := by
  unfold Machine.target
  rw [h]

theorem position_congr (h : t.encoders motor = s.encoders motor) :
    t.position motor = s.position motor := by
  unfold Machine.position
  rw [h]

/-- An axis that is not touched stays on course. -/
theorem Machine.OnCourse.untouched (h : s.OnCourse motor) (hsame : Untouched s t motor) :
    t.OnCourse motor := by
  intro target htarget hduty
  rw [target_congr hsame.encoder] at htarget
  rw [hsame.dutycycle] at hduty
  obtain ⟨direction, hdriven, hleads⟩ := h target htarget hduty
  rw [position_congr hsame.encoder]
  exact ⟨direction, hsame.driven hdriven, hleads⟩

theorem onCourse_of_target (h : s.target motor = none) : s.OnCourse motor := by
  intro target htarget
  rw [h] at htarget
  contradiction

end Axes

/-! ### The operations, one by one -/

section Operations
variable {lib : Pigpio} {bridge : Tb6612fng} {s t : Machine} {motor : Motor}

theorem command_onCourse_iff {c : Command} (h : s.OnCourse c.motor) (heffect : Effect lib s c 3 t) :
    t.OnCourse c.motor ↔ (PanTiltMotors.Operation.command c).Respects lib s := by
  have hencoder : t.encoders c.motor = s.encoders c.motor := congrFun heffect.encoders c.motor
  have hsteered := heffect.steered
  have hduty := heffect.dutycycle
  simp only [show 1 ≤ 3 by decide, show 2 ≤ 3 by decide, le_refl, true_and] at hsteered hduty
  unfold Machine.OnCourse
  rw [target_congr hencoder, position_congr hencoder]
  constructor
  · intro hcourse target htarget hfirst hnew
    have hdriven : t.dutycycle c.motor ≠ 0 := by
      rw [hduty]
      by_cases hall : Accepted lib s 3
      · rw [if_pos hall] at hnew ⊢
        simpa using hnew
      · rwa [if_neg hall] at hnew ⊢
    obtain ⟨direction, hdirection, hleads⟩ := hcourse target htarget hdriven
    exact hsteered.direction_eq hfirst hdirection ▸ hleads
  · intro hrespects target htarget hdriven
    have hold : ¬ Accepted lib s 3 → s.dutycycle c.motor ≠ 0 := by
      intro hcut
      rwa [hduty, if_neg hcut] at hdriven
    by_cases hfirst : Accepted lib s 1
    · have hnew : if Accepted lib s 3 then c.duty ≠ 0 else s.dutycycle c.motor ≠ 0 := by
        split
        · next hall =>
          rw [hduty, if_pos hall] at hdriven
          simpa using hdriven
        · next hcut => exact hold hcut
      have hleads := hrespects target htarget hfirst hnew
      refine ⟨c.direction, (hsteered.driven_iff hdriven).mpr
        ⟨fun hnot => absurd hfirst hnot, fun hsecond => ?_⟩, hleads⟩
      -- only the first level has been written, so the direction was the right one before
      have hcut : ¬ Accepted lib s 3 := fun hall => hsecond (hall.mono (by decide))
      obtain ⟨direction, hdirection, hleads'⟩ := h target htarget (hold hcut)
      obtain rfl := leadsTo_unique hleads' hleads
      exact hdirection.in2
    · have hsecond : ¬ Accepted lib s 2 := fun hboth => hfirst (hboth.mono (by decide))
      have hcut : ¬ Accepted lib s 3 := fun hall => hfirst (hall.mono (by decide))
      obtain ⟨direction, hdirection, hleads⟩ := h target htarget (hold hcut)
      exact ⟨direction, (hsteered.kept hfirst hsecond hdriven (hold hcut)).mpr hdirection, hleads⟩

/-- What `gotoPosition` leaves of an axis, also when it is cut short. -/
structure Sent (lib : Pigpio) (s : Machine) (motor : Motor) (target : ℤ) (t : Machine) : Prop where
  position : t.position motor = s.position motor
  callback : (t.encoders motor).callback = some ⟨motor, some target, some motor.stop⟩
  in1 : t.level (.in1 motor) = if Accepted lib s (callsBefore motor + 1) then
    some (s.towards motor target).level else s.level (.in1 motor)
  in2 : t.level (.in2 motor) = if Accepted lib s (callsBefore motor + 2) then
    some (((s.towards motor target).level + 1) % 2) else s.level (.in2 motor)
  dutycycle : t.dutycycle motor = if Accepted lib s (callsBefore motor + 3) then 20 * 10000
    else s.dutycycle motor

theorem Sent.steered {target : ℤ} (h : Sent lib s motor target t) :
    Steered (Accepted lib s (callsBefore motor + 1)) (Accepted lib s (callsBefore motor + 2)) s
      motor (s.towards motor target) t :=
  ⟨h.in1, h.in2⟩

theorem Sent.onCourse_iff {target : ℤ} (h : Sent lib s motor target t)
    (hne : target ≠ s.position motor) :
    t.OnCourse motor ↔ (s.dutycycle motor ≠ 0 →
      (¬ Accepted lib s (callsBefore motor + 1) →
        s.level (.in1 motor) = some (s.towards motor target).level) ∧
      (¬ Accepted lib s (callsBefore motor + 2) →
        s.level (.in2 motor) = some (((s.towards motor target).level + 1) % 2))) := by
  have htarget : t.target motor = some target := by
    unfold Machine.target
    rw [h.callback]
    rfl
  have htowards := towards_leadsTo hne
  constructor
  · intro hcourse hold
    have hduty : t.dutycycle motor ≠ 0 := by
      rw [h.dutycycle]
      split
      · decide
      · exact hold
    obtain ⟨direction, hdriven, hleads⟩ := hcourse target htarget hduty
    rw [h.position] at hleads
    obtain rfl := leadsTo_unique hleads htowards
    exact (h.steered.driven_iff hduty).mp hdriven
  · intro hrespects target' htarget' hduty
    obtain rfl : target = target' := Option.some.inj (htarget.symm.trans htarget')
    have hold {n : ℕ} (hn : n ≤ 3) (hcut : ¬ Accepted lib s (callsBefore motor + n)) :
        s.dutycycle motor ≠ 0 := by
      have hshort : ¬ Accepted lib s (callsBefore motor + 3) :=
        fun hall => hcut (hall.mono (by omega))
      rwa [h.dutycycle, if_neg hshort] at hduty
    rw [h.position]
    refine ⟨s.towards motor target, (h.steered.driven_iff hduty).mpr ⟨?_, ?_⟩, htowards⟩
    · intro hcut
      exact (hrespects (hold (by decide) hcut)).1 hcut
    · intro hcut
      exact (hrespects (hold (by decide) hcut)).2 hcut

/-- The commands of `gotoPosition`. -/
def Machine.sending (s : Machine) (motor : Motor) (target : ℤ) : Command :=
  .send motor (s.towards motor target)

theorem sending_duty (target : ℤ) : (s.sending motor target).duty = 20 := rfl

/-- A command for each motor, the second only if the first is not cut short. -/
theorem both_effects (lib : Pigpio) (bridge : Tb6612fng) (s : Machine) {c : Motor → Command}
    (hc : ∀ motor, (c motor).motor = motor) (motor : Motor) :
    (s.requestAll lib ((c .a).requests bridge ++ (c .b).requests bridge)).level (.in1 motor) =
        (if Accepted lib s (callsBefore motor + 1) then some (c motor).direction.level
        else s.level (.in1 motor)) ∧
      (s.requestAll lib ((c .a).requests bridge ++ (c .b).requests bridge)).level (.in2 motor) =
        (if Accepted lib s (callsBefore motor + 2) then some (((c motor).direction.level + 1) % 2)
        else s.level (.in2 motor)) ∧
      (s.requestAll lib ((c .a).requests bridge ++ (c .b).requests bridge)).dutycycle motor =
        if Accepted lib s (callsBefore motor + 3) then (c motor).duty * 10000
        else s.dutycycle motor := by
  have hduty : (s.requestAll lib ((c .a).requests bridge ++ (c .b).requests bridge)).last
      (Call.dutycycle motor) =
        if Accepted lib s (callsBefore motor + 3) then some ((c motor).duty * 10000)
        else s.last (Call.dutycycle motor) := by
    cases motor with
    | a =>
      apply requestAll_last_all [_, _]
      all_goals simp [Command.requests, Tb6612fng.commandRequests, Call.dutycycle, hc]
    | b =>
      apply requestAll_last_all [_, _, _, _, _]
      all_goals simp [Call.dutycycle, hc]
  refine ⟨?_, ?_, ?_⟩
  · cases motor with
    | a =>
      apply requestAll_last_all []
      all_goals simp [Command.requests, Tb6612fng.commandRequests, Call.level, hc]
    | b =>
      apply requestAll_last_all [_, _, _]
      all_goals simp [Call.level, hc]
  · cases motor with
    | a =>
      apply requestAll_last_all [_]
      all_goals simp [Command.requests, Tb6612fng.commandRequests, Call.level, hc]
    | b =>
      apply requestAll_last_all [_, _, _, _]
      all_goals simp [Call.level, hc]
  · rw [dutycycle_eq_last, hduty]
    split <;> rfl

/-- The two commands of `gotoPosition` and their calls. -/
theorem sending_requests (lib : Pigpio) (bridge : Tb6612fng) (s : Machine) (pan tilt : ℤ) :
    Requests lib (do
      PanTiltMotors.panTowards lib bridge (s.towards .a pan) 20
      PanTiltMotors.tiltTowards lib bridge (s.towards .b tilt) 20)
      ((s.sending .a pan).requests bridge ++ (s.sending .b tilt).requests bridge) :=
  (turnTowards_requests .a _ (by decide)).bind (turnTowards_requests .b _ (by decide))

theorem gotoPosition_requested (pan tilt : ℤ) :
    left (PanTiltMotors.gotoPosition lib bridge pan tilt) s =
      some (((s.arm .a pan (.pan 0)).arm .b tilt (.tilt 0)).requestAll lib
        ((s.sending .a pan).requests bridge ++ (s.sending .b tilt).requests bridge)) := by
  have hboth := sending_requests lib bridge s pan tilt
  exact hboth.left _

theorem gotoPosition_sent {pan tilt : ℤ}
    (h : left (PanTiltMotors.gotoPosition lib bridge pan tilt) s = some t) (motor : Motor) :
    Sent lib s motor (targets pan tilt motor) t := by
  cases (gotoPosition_requested pan tilt).symm.trans h
  obtain ⟨hposition, hcallback⟩ := armed_both s (targets pan tilt) motor
  obtain ⟨hin1, hin2, hduty⟩ :=
    both_effects lib bridge ((s.arm .a pan (.pan 0)).arm .b tilt (.tilt 0))
      (c := fun motor => s.sending motor (targets pan tilt motor)) (fun _ => rfl) motor
  constructor
  · unfold Machine.position
    rw [requestAll_encoders]
    cases motor <;> exact hposition
  · rw [requestAll_encoders]
    cases motor <;> exact hcallback
  · exact hin1
  · exact hin2
  · rw [sending_duty] at hduty
    exact hduty

/-- What an alert leaves, if there is anything: the encoder has changed, and it has not counted to a
final position. -/
theorem alert_left (hwired : s.Wired) {a : Alert} (h : left (alert lib bridge a) s = some t) :
    ¬ a.Arrives s ∧ ∃ e called, s.turned a = some (e, called) ∧
      e.callback = (s.encoders a.motor).callback ∧ t = s.setEncoder a.motor e := by
  obtain ⟨e, called, hturned, hkept, halert⟩ := alert_run lib bridge (hwired.own a.motor)
  cases halert with
  | quiet hnot hrun =>
    cases (left_ok hrun).symm.trans h
    exact ⟨hnot, e, called, hturned, hkept, rfl⟩
  | arriving _ hrun =>
    cases (left_undefined hrun).symm.trans h

/-- Counts in the direction of the motor keep an armed axis on course. -/
theorem alert_onCourse {a : Alert} (hwired : s.Wired) (hturns : Turns s a)
    (h : ∀ motor, s.OnCourse motor) (hleft : left (alert lib bridge a) s = some t)
    (motor : Motor) : t.OnCourse motor := by
  obtain ⟨hnot, e, called, hturned, hkept, rfl⟩ := alert_left hwired hleft
  by_cases hmotor : motor = a.motor
  · subst hmotor
    intro target htarget hduty
    have hposition : (s.setEncoder a.motor e).position a.motor = e.counter :=
      congrArg Encoder.counter (setEncoder_self e)
    have hsame : (s.setEncoder a.motor e).target a.motor = s.target a.motor := by
      unfold Machine.target
      rw [setEncoder_self, hkept]
    rw [hsame] at htarget
    obtain ⟨direction, hdriven, hleads⟩ := h a.motor target htarget hduty
    have hcount := hturns e called hturned direction hdriven
    have hne : e.counter = s.position a.motor ∨ e.counter ≠ target := by
      refine (counter_ne hturned hnot).imp id fun hfinal => ?_
      rintro rfl
      exact hfinal htarget
    rw [hposition]
    refine ⟨direction, ⟨hdriven.duty, hdriven.in1, hdriven.in2⟩, ?_⟩
    cases direction <;>
      simp only [Tb6612fng.Direction.LeadsTo, Tb6612fng.Direction.sign] at hleads hcount ⊢ <;>
      omega
  · exact (h motor).untouched (untouched_setEncoder hmotor e)

theorem setZero_onCourse_iff (h : ∀ motor, s.OnCourse motor) :
    (∀ motor, s.setZero.OnCourse motor) ↔ PanTiltMotors.Operation.setZero.Respects lib s := by
  have hposition (motor : Motor) : s.setZero.position motor = 0 := rfl
  constructor
  · intro hcourse motor target htarget hduty
    obtain ⟨direction, hdriven, hleads⟩ := h motor target htarget hduty
    obtain ⟨direction', hdriven', hleads'⟩ := hcourse motor target htarget hduty
    obtain rfl := level_inj (hdriven.in1.symm.trans hdriven'.in1)
    rw [hposition] at hleads'
    cases direction with
    | cw => exact Or.inl ⟨hleads, hleads'⟩
    | ccw => exact Or.inr ⟨hleads, hleads'⟩
  · intro hrespects motor target htarget hduty
    obtain ⟨direction, hdriven, hleads⟩ := h motor target htarget hduty
    rw [hposition]
    refine ⟨direction, ⟨hdriven.duty, hdriven.in1, hdriven.in2⟩, ?_⟩
    have hside := hrespects motor target htarget hduty
    cases direction <;> simp only [Tb6612fng.Direction.LeadsTo] at hleads ⊢ <;> omega

/-- The writes to STBY change nothing of an axis. -/
theorem standby_untouched (level : ℕ) (a : Answer) (motor : Motor) :
    Untouched s (s.record ⟨.gpioWrite .stby level, a⟩) motor where
  encoder := rfl
  dutycycle := s.record_dutycycle _ motor
  in1 := s.record_level _ (.in1 motor)
  in2 := s.record_level _ (.in2 motor)

/-- An operation keeps the axes on course exactly when it respects them. -/
theorem onCourse_iff {o : PanTiltMotors.Operation} (hwired : s.Wired)
    (h : ∀ motor, s.OnCourse motor) (hpermitted : o.Permitted s) :
    (∀ t, left (o.perform lib bridge) s = some t → ∀ motor, t.OnCourse motor) ↔
      o.Respects lib s := by
  cases o with
  | command c =>
    have hleft : left (c.perform lib bridge) s = _ := c.requests_perform.left s
    have heffect : Effect lib s c 3 (s.requestAll lib (c.requests bridge)) := c.effect 3
    have hown := command_onCourse_iff (h c.motor) heffect
    constructor
    · intro hcourse
      exact hown.mp (hcourse _ hleft c.motor)
    · intro hrespects t ht motor
      cases hleft.symm.trans ht
      by_cases hmotor : motor = c.motor
      · exact hmotor ▸ hown.mpr hrespects
      · exact (h motor).untouched (heffect.other motor hmotor)
  | gotoPosition pan tilt =>
    have hleft : left (PanTiltMotors.gotoPosition lib bridge pan tilt) s = _ :=
      gotoPosition_requested pan tilt
    have hsent := gotoPosition_sent hleft
    have hboth := forall_congr' fun motor => (hsent motor).onCourse_iff (hpermitted motor)
    constructor
    · intro hcourse
      exact hboth.mp (hcourse _ hleft)
    · intro hrespects t ht
      cases hleft.symm.trans ht
      exact hboth.mpr hrespects
  | setZero =>
    constructor
    · intro hcourse
      exact (setZero_onCourse_iff h).mp (hcourse _ rfl)
    · rintro hrespects _ ⟨⟩
      exact (setZero_onCourse_iff h).mpr hrespects
  | drive =>
    refine iff_of_true ?_ trivial
    rintro _ ⟨⟩ motor
    exact (h motor).untouched (standby_untouched _ _ motor)
  | standby =>
    refine iff_of_true ?_ trivial
    rintro _ ⟨⟩ motor
    exact (h motor).untouched (standby_untouched _ _ motor)
  | alert a => exact iff_of_true (fun _ => alert_onCourse hwired hpermitted h) trivial

theorem Machine.Wired.congr (h : s.Wired)
    (hsame : ∀ motor, (t.encoders motor).callback = (s.encoders motor).callback) : t.Wired := by
  intro motor monitor hmonitor
  exact h motor monitor ((hsame motor).symm.trans hmonitor)

theorem setEncoder_callback {e : Encoder GotoMonitor}
    (hkept : e.callback = (s.encoders motor).callback) (other : Motor) :
    ((s.setEncoder motor e).encoders other).callback = (s.encoders other).callback := by
  by_cases hother : other = motor
  · subst hother
    rw [setEncoder_self, hkept]
  · exact congrArg Encoder.callback (untouched_setEncoder hother e).encoder

theorem Machine.Wired.left (h : s.Wired) {o : PanTiltMotors.Operation}
    (hleft : left (o.perform lib bridge) s = some t) : t.Wired := by
  cases o with
  | command c =>
    cases (c.requests_perform.left s).symm.trans hleft
    apply h.congr
    intro motor
    rw [requestAll_encoders]
  | gotoPosition pan tilt =>
    intro motor monitor hmonitor
    have hsent : Sent lib s motor (targets pan tilt motor) t := gotoPosition_sent hleft motor
    cases hsent.callback.symm.trans hmonitor
    exact ⟨rfl, rfl, _, rfl⟩
  | setZero =>
    cases hleft
    exact h.congr fun _ => rfl
  | drive =>
    cases hleft
    exact h.congr fun _ => rfl
  | standby =>
    cases hleft
    exact h.congr fun _ => rfl
  | alert a =>
    obtain ⟨-, e, called, -, hkept, rfl⟩ := alert_left h hleft
    exact h.congr (setEncoder_callback hkept)

theorem staysOnCourse_head {operations : List PanTiltMotors.Operation}
    (h : StaysOnCourse lib bridge s operations) : ∀ motor, s.OnCourse motor := by
  cases operations with
  | nil => exact h
  | cons o operations => exact h.1

theorem Machine.Wired.run_iff (hwired : s.Wired) (h : ∀ motor, s.OnCourse motor)
    (operations : List PanTiltMotors.Operation) :
    StaysOnCourse lib bridge s operations ↔ AllRespect lib bridge s operations := by
  induction operations generalizing s with
  | nil => exact iff_of_true h trivial
  | cons o operations ih =>
    unfold StaysOnCourse AllRespect
    rw [and_iff_right h]
    apply forall_congr'
    intro hpermitted
    have hstep : (∀ t, Tracker.left (o.perform lib bridge) s = some t → ∀ motor, t.OnCourse motor) ↔
        o.Respects lib s := onCourse_iff hwired h hpermitted
    constructor
    · intro hrun
      have hcourse (t : Machine) (ht : Tracker.left (o.perform lib bridge) s = some t) :=
        staysOnCourse_head (hrun t ht)
      exact ⟨hstep.mp hcourse, fun t ht => (ih (hwired.left ht) (hcourse t ht)).mp (hrun t ht)⟩
    · rintro ⟨hrespects, hrest⟩ t ht
      exact (ih (hwired.left ht) (hstep.mpr hrespects t ht)).mpr (hrest t ht)

end Operations

/-- The constructor installs no callback. -/
theorem initial_onCourse (panA panB tiltA tiltB : ℕ) :
    (Machine.initial panA panB tiltA tiltB).Wired ∧
      ∀ motor, (Machine.initial panA panB tiltA tiltB).OnCourse motor := by
  have hnone (motor : Motor) :
      ((Machine.initial panA panB tiltA tiltB).encoders motor).callback = none := by
    cases motor <;> rfl
  constructor
  · intro motor monitor hmonitor
    cases (hnone motor).symm.trans hmonitor
  · intro motor
    apply onCourse_of_target
    unfold Machine.target
    rw [hnone motor]
    rfl

/-- From the constructor on, both axes are always on course exactly when every operation respects
the final positions of the axes that are armed. -/
theorem staysOnCourse_iff (lib : Pigpio) (bridge : Tb6612fng) (panA panB tiltA tiltB : ℕ)
    (operations : List PanTiltMotors.Operation) :
    StaysOnCourse lib bridge (.initial panA panB tiltA tiltB) operations ↔
      AllRespect lib bridge (.initial panA panB tiltA tiltB) operations := by
  obtain ⟨hwired, hcourse⟩ := initial_onCourse panA panB tiltA tiltB
  exact hwired.run_iff hcourse operations

/-- A command that turns an axis back while its callback is armed. -/
def turnedBack : List PanTiltMotors.Operation :=
  [.gotoPosition 5 5, .command (.turn .a (-50) (by decide))]

theorem turned_back_off_course :
    ¬ StaysOnCourse quietPigpio.answers defaultBridge (.initial 2 3 19 26) turnedBack := by
  intro h
  obtain ⟨hwired, hcourse⟩ := initial_onCourse 2 3 19 26
  have hrespects := (hwired.run_iff hcourse _).mp h
  have hpermitted : (PanTiltMotors.Operation.gotoPosition 5 5).Permitted (.initial 2 3 19 26) := by
    intro motor
    cases motor <;> decide
  have hleft : left (PanTiltMotors.gotoPosition quietPigpio.answers defaultBridge 5 5)
      (.initial 2 3 19 26) = some _ := gotoPosition_requested 5 5
  have hback := ((hrespects hpermitted).2 _ hleft trivial).1 5 rfl (fun _ _ => rfl)
  have hduty : (50 : ℕ) ≠ 0 := by decide
  have hleads : (5 : ℤ) < 0 := hback ((if_pos fun _ _ => rfl).mpr hduty)
  exact absurd hleads (by decide)

end Rckam.Tracker
