import Mathlib.Data.List.Nodup
import Rckam.Library.Views
import Rckam.Tracker.OnCourse

/-! The two axes of the motors, which have nothing to do with each other. -/
namespace Rckam.Tracker
open Tb6612fng (Motor)

/-- The eleven GPIOs of the motors, all different. -/
structure Wiring where
  bridge : Tb6612fng
  panA : ℕ
  panB : ℕ
  tiltA : ℕ
  tiltB : ℕ
  distinct : [bridge.in1 .a, bridge.in2 .a, bridge.in1 .b, bridge.in2 .b, bridge.pwm .a,
    bridge.pwm .b, bridge.stby, panA, panB, tiltA, tiltB].Nodup

namespace Wiring

def initial (w : Wiring) : Machine := .initial w.panA w.panB w.tiltA w.tiltB

/-- The GPIO that a call writes. -/
def written (w : Wiring) : Request → Option ℕ
  | .gpioWrite pin _ => some (w.bridge.gpio pin)
  | .gpioHardwarePWM motor _ _ => some (w.bridge.pwm motor)
  | .spiXfer _ _ => none

/-- A call writes one of the pins or the PWM of a motor. -/
def Writes (w : Wiring) (motor : Motor) (r : Request) : Prop :=
  ∃ gpio ∈ w.written r, gpio = w.bridge.in1 motor ∨ gpio = w.bridge.in2 motor ∨
    gpio = w.bridge.pwm motor

instance (w : Wiring) (motor : Motor) (r : Request) : Decidable (w.Writes motor r) :=
  inferInstanceAs (Decidable (∃ gpio ∈ w.written r, _))

end Wiring

/-- What there is of an axis: its encoder with the callback, its monitor, and the calls that have
written its pins and its PWM, the newest first. -/
structure AxisState where
  encoder : Encoder GotoMonitor
  monitor : GotoMonitor
  writes : List Request

def Wiring.axis (w : Wiring) (motor : Motor) (s : Machine) : AxisState where
  encoder := s.encoders motor
  monitor := s.gotoMonitors motor
  writes := (s.calls.map Call.request).filter (w.Writes motor ·)

/-- What happens to a single axis. -/
inductive AxisInput where
  | command (c : Command)
  | goto (target : ℤ)
  | setZero
  | alert (channel : Fin 2) (level : ℕ)

/-- The inputs for an axis. -/
def inputFor (motor : Motor) : PanTiltMotors.Operation → Option AxisInput
  | .command c => if c.motor = motor then some (.command c) else none
  | .gotoPosition pan tilt => some (.goto (targets pan tilt motor))
  | .setZero => some .setZero
  | .alert a => if a.motor = motor then some (.alert a.channel a.level) else none
  | .drive | .standby => none

namespace AxisState
variable (bridge : Tb6612fng) (motor : Motor)

/-- A command on top of the calls before it. -/
def obey (x : AxisState) (c : Command) : AxisState :=
  { x with writes := (c.requests bridge).reverse ++ x.writes }

/-- An axis by itself. -/
def act (x : AxisState) : AxisInput → AxisState
  | .command c => x.obey bridge c
  | .goto target =>
      let monitor := { x.monitor with finalPosition := some target, stop := some motor.stop }
      let direction : Tb6612fng.Direction := if target < x.encoder.counter then .ccw else .cw
      obey bridge { x with encoder := x.encoder.setCallback monitor, monitor := monitor }
        (.send motor direction)
  | .setZero => { x with encoder := x.encoder.reset }
  | .alert channel level =>
      match x.encoder.alert channel level with
      | none => x
      | some (e, _) => { x with encoder := e }

end AxisState

/-- Both counters are within the bounds of an `int`. -/
def Machine.InRange (s : Machine) : Prop := ∀ motor, IsInt (s.position motor)

/-- What an operation leaves, unless it throws, it has no defined behaviour, or a counter
overflows. -/
def Machine.next (lib : Pigpio) (bridge : Tb6612fng) (s : Machine) (o : PanTiltMotors.Operation) :
    Option Machine :=
  match (o.perform lib bridge).run s with
  | .ok _ t => if IsInt (t.position .a) ∧ IsInt (t.position .b) then some t else none
  | .error _ _ => none

/-- An alert does not bring an axis to its final position, nor a counter to where an `int` ends. -/
def PanTiltMotors.Operation.Defined (s : Machine) : PanTiltMotors.Operation → Prop
  | .alert a => ∀ position, (s.encoders a.motor).StepsTo a.channel a.level position →
      s.target a.motor ≠ some position ∧ IsInt position
  | _ => True

/-- The motor that a call is for. -/
def Request.motor : Request → Option Motor
  | .gpioWrite (.in1 motor) _ | .gpioWrite (.in2 motor) _ | .gpioHardwarePWM motor _ _ => some motor
  | .gpioWrite .stby _ | .spiXfer _ _ => none

section Working
variable {pigpio : WorkingPigpio} {w : Wiring} {s t : Machine} {motor : Motor}

variable (pigpio) in
theorem accepted_working (n : ℕ) : Accepted pigpio.answers s n := fun _ _ => pigpio.ret _

theorem next_ok {o : PanTiltMotors.Operation} (hrange : t.InRange)
    (h : (o.perform pigpio.answers w.bridge).run s = .ok () t) :
    s.next pigpio.answers w.bridge o = some t := by
  unfold Machine.next
  rw [h]
  exact if_pos ⟨hrange .a, hrange .b⟩

/-- What a step leaves is within the bounds. -/
theorem next_inRange {o : PanTiltMotors.Operation}
    (h : s.next pigpio.answers w.bridge o = some t) :
    (o.perform pigpio.answers w.bridge).run s = .ok () t ∧ t.InRange := by
  unfold Machine.next at h
  split at h
  · next hrun =>
    obtain ⟨hrange, ht⟩ := Option.ite_none_right_eq_some.mp h
    cases ht
    refine ⟨hrun, fun motor => ?_⟩
    cases motor with
    | a => exact hrange.1
    | b => exact hrange.2
  · contradiction

theorem inRange_congr (h : s.InRange)
    (hsame : ∀ motor, (t.encoders motor).counter = (s.encoders motor).counter) : t.InRange := by
  intro motor
  unfold Machine.position
  rw [hsame motor]
  exact h motor

variable (pigpio) (s) in
/-- With every call accepted, all of them are made. -/
theorem requestAll_calls (rs : List Request) :
    (s.requestAll pigpio.answers rs).calls.map Call.request =
        rs.reverse ++ s.calls.map Call.request ∧
      (s.requestAll pigpio.answers rs).gotoMonitors = s.gotoMonitors := by
  induction rs generalizing s with
  | nil => exact ⟨rfl, rfl⟩
  | cons r rs ih =>
    rw [requestAll_accepted rs (pigpio.ret _)]
    obtain ⟨hcalls, hmonitors⟩ := ih (s.record ⟨r, pigpio.answers s.made⟩)
    refine ⟨?_, hmonitors⟩
    rw [hcalls]
    simp [Machine.record]

/-- The GPIOs tell which motor a call is for. -/
theorem writes_iff (w : Wiring) (motor : Motor) (r : Request) :
    w.Writes motor r ↔ r.motor = some motor := by
  have hdistinct := w.distinct
  simp only [List.nodup_cons, List.mem_cons, List.not_mem_nil, or_false, not_or] at hdistinct
  obtain ⟨h1, h2, h3, h4, h5, h6, -⟩ := hdistinct
  cases r with
  | gpioWrite pin level =>
    cases pin with
    | in1 m =>
      cases m <;> cases motor <;>
        simp [Wiring.Writes, Wiring.written, Tb6612fng.gpio, Request.motor] <;> grind
    | in2 m =>
      cases m <;> cases motor <;>
        simp [Wiring.Writes, Wiring.written, Tb6612fng.gpio, Request.motor] <;> grind
    | stby =>
      cases motor <;> simp [Wiring.Writes, Wiring.written, Tb6612fng.gpio, Request.motor] <;> grind
  | gpioHardwarePWM m freq dutycycle =>
    cases m <;> cases motor <;> simp [Wiring.Writes, Wiring.written, Request.motor] <;> grind
  | spiXfer spi buffer => simp [Wiring.Writes, Wiring.written, Request.motor]

theorem writes_requests (w : Wiring) (motor : Motor) (c : Command) :
    (c.requests w.bridge).filter (w.Writes motor ·) =
      if c.motor = motor then c.requests w.bridge else [] := by
  by_cases hmotor : c.motor = motor <;>
    simp [Command.requests, Tb6612fng.commandRequests, writes_iff, Request.motor, hmotor]

/-- A command of a motor is seen on its own axis only. -/
theorem axis_requestAll (w : Wiring) (s : Machine) (c : Command) (motor : Motor) :
    w.axis motor (s.requestAll pigpio.answers (c.requests w.bridge)) =
      if c.motor = motor then (w.axis motor s).obey w.bridge c else w.axis motor s := by
  obtain ⟨hcalls, hmonitors⟩ :=
    requestAll_calls pigpio s (c.requests w.bridge)
  have hwrites := writes_requests w motor c
  unfold Wiring.axis
  rw [requestAll_encoders, hmonitors, hcalls, List.filter_append, List.filter_reverse, hwrites]
  by_cases hmotor : c.motor = motor <;> simp [hmotor, AxisState.obey]

/-- Writes to STBY are on neither axis. -/
theorem axis_standby (w : Wiring) (s : Machine) (level : ℕ) (a : Answer) (motor : Motor) :
    w.axis motor (s.record ⟨.gpioWrite .stby level, a⟩) = w.axis motor s := by
  have hnot : ¬ w.Writes motor (.gpioWrite .stby level) := by
    rw [writes_iff]
    exact nofun
  simp [Wiring.axis, Machine.record, hnot]

/-- What `gotoPosition` installs in the encoder of an axis. -/
theorem axis_armed (w : Wiring) (s : Machine) (pan tilt : ℤ) (motor : Motor) :
    w.axis motor ((s.arm .a pan (.pan 0)).arm .b tilt (.tilt 0)) =
      { w.axis motor s with
        encoder := (s.encoders motor).setCallback { s.gotoMonitors motor with
          finalPosition := some (targets pan tilt motor), stop := some motor.stop }
        monitor := { s.gotoMonitors motor with
          finalPosition := some (targets pan tilt motor), stop := some motor.stop } } := by
  cases motor <;> simp [Wiring.axis, Machine.arm, targets, Tb6612fng.Motor.stop]

theorem axis_setEncoder (w : Wiring) (s : Machine) (m : Motor) (e : Encoder GotoMonitor)
    (motor : Motor) :
    w.axis motor (s.setEncoder m e) =
      if m = motor then { w.axis motor s with encoder := e } else w.axis motor s := by
  by_cases hmotor : m = motor
  · subst hmotor
    simp [Wiring.axis, Machine.setEncoder]
  · simp [Wiring.axis, Machine.setEncoder, hmotor, Ne.symm hmotor]

/-! ### The operations, one by one -/

theorem next_command (w : Wiring) (hrange : s.InRange) (c : Command) :
    s.next pigpio.answers w.bridge (.command c) =
      some (s.requestAll pigpio.answers (c.requests w.bridge)) := by
  refine next_ok (inRange_congr hrange fun motor => ?_)
    ((c.requests_perform s).1 (accepted_working pigpio _))
  rw [requestAll_encoders]

theorem next_gotoPosition (w : Wiring) (hrange : s.InRange) (pan tilt : ℤ) (motor : Motor) :
    ∃ t, s.next pigpio.answers w.bridge (.gotoPosition pan tilt) = some t ∧
      w.axis motor t =
        (w.axis motor s).act w.bridge motor (.goto (targets pan tilt motor)) := by
  have hboth := sending_requests pigpio.answers w.bridge s pan tilt
  refine ⟨_, next_ok ?_ ((hboth _).1 (accepted_working pigpio _)), ?_⟩
  · refine inRange_congr hrange fun motor => ?_
    rw [requestAll_encoders]
    exact (armed_both s (targets pan tilt) motor).1
  · rw [(requestAll_append _ _).1 (accepted_working pigpio _), axis_requestAll, axis_requestAll,
      axis_armed]
    cases motor <;> rfl

/-- An alert of the encoder of an axis is all its own. -/
theorem next_alert (w : Wiring) (hwired : s.Wired) (hrange : s.InRange) {a : Alert}
    (hdefined : (PanTiltMotors.Operation.alert a).Defined s) (motor : Motor) :
    ∃ t, s.next pigpio.answers w.bridge (.alert a) = some t ∧
      w.axis motor t = if a.motor = motor then
        (w.axis motor s).act w.bridge motor (.alert a.channel a.level) else w.axis motor s := by
  obtain ⟨e, called, hturned, -, halert⟩ := alert_run pigpio.answers w.bridge (hwired.own a.motor)
  have hchanged : (s.encoders a.motor).alert a.channel a.level = some (e, called) := hturned
  cases halert with
  | quiet _ hrun =>
    have hcounter : IsInt e.counter :=
      (Encoder.isInt_iff hchanged (hrange a.motor)).mpr fun position hsteps =>
        (hdefined position hsteps).2
    refine ⟨_, next_ok ?_ hrun, ?_⟩
    · intro other
      unfold Machine.position
      by_cases hother : other = a.motor
      · subst hother
        rwa [setEncoder_self]
      · rw [(untouched_setEncoder hother e).encoder]
        exact hrange other
    · rw [axis_setEncoder]
      by_cases hmotor : a.motor = motor
      · subst hmotor
        simp [AxisState.act, Wiring.axis, hchanged]
      · simp [hmotor]
  | arriving harrives =>
    obtain ⟨position, htarget, hsteps⟩ := harrives
    exact absurd htarget (hdefined position hsteps).1

/-- An alert that arrives or overflows leaves nothing that is defined. -/
theorem next_undefined (w : Wiring) (hwired : s.Wired) (hrange : s.InRange)
    {o : PanTiltMotors.Operation} (hnot : ¬ o.Defined s) :
    s.next pigpio.answers w.bridge o = none := by
  rw [Option.eq_none_iff_forall_ne_some]
  intro t hnext
  obtain ⟨hrun, hrange'⟩ := next_inRange hnext
  cases o with
  | alert a =>
    obtain ⟨e, called, hturned, -, halert⟩ := alert_run pigpio.answers w.bridge (hwired.own a.motor)
    have hchanged : (s.encoders a.motor).alert a.channel a.level = some (e, called) := hturned
    cases halert with
    | arriving _ hrun' => cases hrun.symm.trans hrun'
    | quiet hquiet hrun' =>
      cases hrun.symm.trans hrun'
      have hcounter := hrange' a.motor
      unfold Machine.position at hcounter
      rw [setEncoder_self] at hcounter
      refine hnot fun position hsteps => ⟨fun htarget => hquiet ⟨position, htarget, hsteps⟩, ?_⟩
      exact (Encoder.isInt_iff hchanged (hrange a.motor)).mp hcounter position hsteps
  | command c => exact hnot trivial
  | gotoPosition pan tilt => exact hnot trivial
  | setZero => exact hnot trivial
  | drive => exact hnot trivial
  | standby => exact hnot trivial

/-- Each operation does to an axis what the axis makes of its own input. -/
theorem next_axis (w : Wiring) (hwired : s.Wired) (hrange : s.InRange) {o : PanTiltMotors.Operation}
    (hdefined : o.Defined s) (motor : Motor) :
    ∃ t, s.next pigpio.answers w.bridge o = some t ∧
      w.axis motor t =
        (inputFor motor o).elim (w.axis motor s) ((w.axis motor s).act w.bridge motor) := by
  cases o with
  | command c =>
    refine ⟨_, next_command w hrange c, ?_⟩
    rw [axis_requestAll]
    by_cases hmotor : c.motor = motor <;> simp [inputFor, hmotor, AxisState.act]
  | gotoPosition pan tilt => exact next_gotoPosition w hrange pan tilt motor
  | setZero =>
    have hzero : s.setZero.InRange := fun _ => isInt_zero
    exact ⟨s.setZero, next_ok hzero rfl, rfl⟩
  | drive =>
    have hsame : (s.record ⟨.gpioWrite .stby 1, pigpio.answers s.made⟩).InRange := hrange
    exact ⟨_, next_ok hsame rfl, axis_standby w s 1 _ motor⟩
  | standby =>
    have hsame : (s.record ⟨.gpioWrite .stby 0, pigpio.answers s.made⟩).InRange := hrange
    exact ⟨_, next_ok hsame rfl, axis_standby w s 0 _ motor⟩
  | alert a =>
    obtain ⟨t, hnext, haxis⟩ : ∃ t, s.next pigpio.answers w.bridge (.alert a) = some t ∧
        w.axis motor t = if a.motor = motor then
          (w.axis motor s).act w.bridge motor (.alert a.channel a.level) else w.axis motor s :=
      next_alert w hwired hrange hdefined motor
    refine ⟨t, hnext, ?_⟩
    rw [haxis]
    by_cases hmotor : a.motor = motor <;> simp [inputFor, hmotor]

theorem axes_separate (pigpio : WorkingPigpio) (w : Wiring) (motor : Motor) :
    Views.Separate (Machine.next pigpio.answers w.bridge) (fun s => s.Wired ∧ s.InRange)
      (fun s o => o.Defined s) (w.axis motor) (inputFor motor) (AxisState.act w.bridge motor) where
  takes := by
    rintro s o ⟨hwired, hrange⟩ hdefined
    obtain ⟨t, hnext, haxis⟩ : ∃ t, s.next pigpio.answers w.bridge o = some t ∧ w.axis motor t =
        (inputFor motor o).elim (w.axis motor s) ((w.axis motor s).act w.bridge motor) :=
      next_axis w hwired hrange hdefined motor
    obtain ⟨hrun, hrange'⟩ := next_inRange hnext
    exact ⟨t, hnext, ⟨hwired.left (left_ok hrun), hrange'⟩, haxis⟩
  refuses := by
    rintro s o ⟨hwired, hrange⟩ hnot
    exact next_undefined w hwired hrange hnot

end Working

/-- No goto arrives in a run from the constructor on, and no counter overflows. -/
def Wiring.AllDefined (w : Wiring) (pigpio : WorkingPigpio)
    (operations : List PanTiltMotors.Operation) : Prop :=
  Views.AllAllowed (Machine.next pigpio.answers w.bridge) (fun s o => o.Defined s) w.initial
    operations

section Runs
variable (pigpio : WorkingPigpio) (w : Wiring)

theorem Wiring.initial_valid : w.initial.Wired ∧ w.initial.InRange := by
  constructor
  · intro motor monitor hmonitor
    cases motor <;> contradiction
  · intro motor
    cases motor <;> exact isInt_zero

theorem Wiring.allDefined (motor : Motor) {operations : List PanTiltMotors.Operation} {t : Machine}
    (hrun : operations.foldlM (Machine.next pigpio.answers w.bridge) w.initial = some t) :
    w.AllDefined pigpio operations :=
  (axes_separate pigpio w motor).allowed w.initial_valid hrun

end Runs

/-- Two runs from the constructor on with the same inputs for an axis leave it in the same state
(the writes of its pins and of its PWM, its counter, and its goto) exactly when no goto arrives in
either of them and no counter overflows. -/
theorem axes_independent (w : Wiring) (pigpio pigpio' : WorkingPigpio) (motor : Motor)
    (operations operations' : List PanTiltMotors.Operation)
    (hsame : operations.filterMap (inputFor motor) = operations'.filterMap (inputFor motor)) :
    (∃ t t', operations.foldlM (Machine.next pigpio.answers w.bridge) w.initial = some t ∧
      operations'.foldlM (Machine.next pigpio'.answers w.bridge) w.initial = some t' ∧
      w.axis motor t = w.axis motor t') ↔
        w.AllDefined pigpio operations ∧ w.AllDefined pigpio' operations' :=
  (axes_separate pigpio w motor).agree_iff (axes_separate pigpio' w motor) w.initial_valid hsame

def defaultWiring : Wiring where
  bridge := defaultBridge
  panA := 2
  panB := 3
  tiltA := 19
  tiltB := 26
  distinct := by decide

/-- A goto of the pan axis, with and without commands and alerts of the tilt axis. -/
theorem pan_despite_tilt :
    (∃ t t', List.foldlM (Machine.next quietPigpio.answers defaultBridge) defaultWiring.initial
        [.gotoPosition 1 5, .alert ⟨.a, 0, 1⟩, .alert ⟨.b, 1, 1⟩, .standby] = some t ∧
      List.foldlM (Machine.next quietPigpio.answers defaultBridge) defaultWiring.initial
        [.command (.turn .b 30 (by decide)), .gotoPosition 1 (-7), .alert ⟨.a, 0, 1⟩] = some t' ∧
      defaultWiring.axis .a t = defaultWiring.axis .a t') ↔
        defaultWiring.AllDefined quietPigpio
            [.gotoPosition 1 5, .alert ⟨.a, 0, 1⟩, .alert ⟨.b, 1, 1⟩, .standby] ∧
          defaultWiring.AllDefined quietPigpio
            [.command (.turn .b 30 (by decide)), .gotoPosition 1 (-7), .alert ⟨.a, 0, 1⟩] :=
  axes_independent defaultWiring quietPigpio quietPigpio .a _ _ rfl

/-- The pan axis is sent somewhere and makes one step forward, and then the tilt axis is turned. -/
def thenTilt (pan : ℤ) : List PanTiltMotors.Operation :=
  [.gotoPosition pan 5, .alert ⟨.a, 1, 0⟩, .alert ⟨.a, 0, 0⟩, .alert ⟨.a, 1, 1⟩, .alert ⟨.a, 0, 1⟩,
    .command (.turn .b 30 (by decide))]

/-- Whether the tilt axis gets its command depends on the target of the pan axis. -/
theorem tilt_depends_on_pan :
    (thenTilt 1).filterMap (inputFor .b) = (thenTilt 2).filterMap (inputFor .b) ∧
      (∃ t, (thenTilt 2).foldlM (Machine.next quietPigpio.answers defaultBridge)
        defaultWiring.initial = some t) ∧
      ¬ ∃ t, (thenTilt 1).foldlM (Machine.next quietPigpio.answers defaultBridge)
        defaultWiring.initial = some t := by
  refine ⟨rfl, ?_, ?_⟩
  · exact ⟨_, rfl⟩
  · rintro ⟨t, hrun⟩
    have hdefined := defaultWiring.allDefined quietPigpio .b hrun
    have harrives := ((((hdefined.2 _ rfl).2 _ rfl).2 _ rfl).2 _ rfl).1
    exact (harrives 1 ⟨by decide, by decide, rfl⟩).1 rfl

end Rckam.Tracker
