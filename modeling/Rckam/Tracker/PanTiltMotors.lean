import Rckam.Tracker.Encoder

/-! The pan and tilt motors of the tracker, the H-bridge `Tb6612fng` that drives them, and the
calls of pigpio that this takes. -/
namespace Rckam.Tracker

namespace Tb6612fng

/-- `PAN` is motor `A` and `TILT` is motor `B`. -/
inductive Motor where
  | a | b
  deriving DecidableEq, Repr

inductive Direction where
  | ccw | cw
  deriving DecidableEq, Repr

/-- `static_cast<unsigned>(direction)`. -/
def Direction.level : Direction → ℕ
  | .ccw => 0
  | .cw => 1

end Tb6612fng

open Tb6612fng (Motor)

/-- The GPIO numbers of the H-bridge and the frequency of its PWM signals. -/
structure Tb6612fng where
  in1 : Motor → ℕ
  in2 : Motor → ℕ
  pwm : Motor → ℕ
  stby : ℕ
  freq : ℕ

/-- The GPIO numbers that the options of the tracker have as defaults. -/
def defaultBridge : Tb6612fng where
  in1
    | .a => 16
    | .b => 14
  in2
    | .a => 20
    | .b => 15
  pwm
    | .a => 13
    | .b => 18
  stby := 23
  freq := 200

/-- What an output is connected to. -/
inductive Pin where
  | in1 (motor : Motor)
  | in2 (motor : Motor)
  | stby
  deriving DecidableEq, Repr

/-- A call of pigpio. -/
inductive Request where
  | gpioWrite (pin : Pin) (level : ℕ)
  | gpioHardwarePWM (motor : Motor) (freq dutycycle : ℕ)
  | spiXfer (spi : ℤ) (buffer : List Byte)
  deriving DecidableEq, Repr

/-- What a call returns, and the bytes 1 and 2 that `spiXfer` leaves in its buffer. -/
structure Answer where
  ret : ℤ
  byte1 : Byte
  byte2 : Byte

/-- The answers of pigpio to its successive calls. -/
abbrev Pigpio := ℕ → Answer

structure Call where
  request : Request
  answer : Answer

/-- Why a computation of the tracker does not go on. Behind `undefined`, which is no exception, the
program may do anything. -/
inductive Thrown where
  | gpioException (message : String)
  | badFunctionCall
  | assertionFailed
  | undefined
  deriving DecidableEq, Repr

/-- The calls that `gotoPosition` binds as stop functions. -/
inductive Stop where
  | pan (duty : ℤ)
  | tilt (duty : ℤ)
  deriving DecidableEq, Repr

/-- The encoder that a monitor refers to is named by its motor. The final position is not
initialized. -/
structure GotoMonitor where
  encoder : Motor
  finalPosition : Option ℤ
  stop : Option Stop
  deriving DecidableEq, Repr

/-- The members of `PanTiltMotors` that change, and the calls of pigpio so far, the newest
first. What is installed in an encoder is a copy of a monitor. -/
structure Machine where
  calls : List Call
  encoders : Motor → Encoder GotoMonitor
  gotoMonitors : Motor → GotoMonitor
  references : ∀ m, (gotoMonitors m).encoder = m

/-- The members as the constructor initializes them, with the GPIO numbers of the encoders. -/
def Machine.initial (panA panB tiltA tiltB : ℕ) : Machine where
  calls := []
  encoders
    | .a => .initial panA panB
    | .b => .initial tiltA tiltB
  gotoMonitors motor := ⟨motor, none, none⟩
  references _ := rfl

/-- A computation of the tracker: it makes calls also when it throws. -/
abbrev Action := EStateM Thrown Machine

def Machine.made (s : Machine) : ℕ := s.calls.length

def Machine.record (s : Machine) (c : Call) : Machine := { s with calls := c :: s.calls }

def call (lib : Pigpio) (r : Request) : Action Answer := do
  let s ← get
  let answer := lib s.made
  set (s.record ⟨r, answer⟩)
  return answer

namespace Tb6612fng
variable (lib : Pigpio) (bridge : Tb6612fng)

def gpio : Pin → ℕ
  | .in1 motor => bridge.in1 motor
  | .in2 motor => bridge.in2 motor
  | .stby => bridge.stby

/-- The body of the loop of `setDirection`. -/
def setLevel (pin : Pin) (level : ℕ) : Action Unit := do
  let answer ← call lib (.gpioWrite pin level)
  if 0 ≠ answer.ret then
    throw (.gpioException ("ERROR: failed to set GPIO " ++ toString (bridge.gpio pin) ++ " to " ++
      toString level ++ ": " ++ toString answer.ret))

def setDirection (motor : Motor) (direction : Direction) : Action Unit := do
  let level := direction.level
  bridge.setLevel lib (.in1 motor) level
  bridge.setLevel lib (.in2 motor) ((level + 1) % 2)

def setDuty (motor : Motor) (duty : ℕ) : Action Unit := do
  if ¬ 100 ≥ duty then throw .assertionFailed
  -- fully on is 1000000
  let answer ← call lib (.gpioHardwarePWM motor bridge.freq (duty * 10000))
  if 0 ≠ answer.ret then
    throw (.gpioException ("ERROR: failed to set hardware PWM for GPIO " ++
      toString (bridge.pwm motor) ++ " to frequency " ++ toString bridge.freq ++ " and duty " ++
      toString duty ++ ": " ++ toString answer.ret))

/-- What `gpioWrite` returns is not looked at. -/
def standby : Action Unit := do
  let _ ← call lib (.gpioWrite .stby 0)

def drive : Action Unit := do
  let _ ← call lib (.gpioWrite .stby 1)

end Tb6612fng

/-! ### The motors -/

namespace PanTiltMotors
variable (lib : Pigpio) (bridge : Tb6612fng)

/-- `pan` and `tilt` with a signed duty. -/
def turn (motor : Motor) (duty : ℤ) : Action Unit := do
  if ¬ (-100 ≤ duty ∧ 100 ≥ duty) then throw .assertionFailed
  bridge.setDirection lib motor (if duty < 0 then .ccw else .cw)
  bridge.setDuty lib motor duty.natAbs

/-- `pan` and `tilt` with a direction. -/
def turnTowards (motor : Motor) (direction : Tb6612fng.Direction) (duty : ℕ) : Action Unit := do
  if ¬ 100 ≥ duty then throw .assertionFailed
  bridge.setDirection lib motor direction
  bridge.setDuty lib motor duty

def pan (duty : ℤ) : Action Unit := turn lib bridge .a duty

def panTowards (direction : Tb6612fng.Direction) (duty : ℕ) : Action Unit :=
  turnTowards lib bridge .a direction duty

def tilt (duty : ℤ) : Action Unit := turn lib bridge .b duty

def tiltTowards (direction : Tb6612fng.Direction) (duty : ℕ) : Action Unit :=
  turnTowards lib bridge .b direction duty

end PanTiltMotors

section Goto
variable (lib : Pigpio) (bridge : Tb6612fng)

def Stop.call : Stop → Action Unit
  | .pan duty => PanTiltMotors.pan lib bridge duty
  | .tilt duty => PanTiltMotors.tilt lib bridge duty

/-- `setCallback(nullptr)`. -/
def Encoder.clearCallback {κ : Type} (e : Encoder κ) : Encoder κ := { e with callback := none }

def Machine.setEncoder (s : Machine) (motor : Motor) (e : Encoder GotoMonitor) : Machine :=
  { s with encoders := Function.update s.encoders motor e }

/-- `callback` on the copy of a monitor that is installed in the encoder of `slot`. It does not use
its argument. -/
def GotoMonitor.callback (slot : Motor) (monitor : GotoMonitor) (_increment : ℤ) :
    Action Unit := do
  let s ← get
  if some (s.encoders monitor.encoder).counter = monitor.finalPosition then
    set (s.setEncoder monitor.encoder (s.encoders monitor.encoder).clearCallback)
    -- the copy itself, with its stop function, has been destroyed with what was installed there
    if slot = monitor.encoder then throw .undefined
    match monitor.stop with
    | some stop => stop.call lib bridge
    | none => throw .badFunctionCall

/-- The final position and the stop function of a monitor, and its copy in the encoder. -/
def Machine.arm (s : Machine) (motor : Motor) (finalPosition : ℤ) (stop : Stop) : Machine where
  calls := s.calls
  encoders := Function.update s.encoders motor ((s.encoders motor).setCallback
    { s.gotoMonitors motor with finalPosition := some finalPosition, stop := some stop })
  gotoMonitors := Function.update s.gotoMonitors motor
    { s.gotoMonitors motor with finalPosition := some finalPosition, stop := some stop }
  references m := by
    by_cases h : m = motor
    · subst h
      rw [Function.update_self]
      exact s.references m
    · rw [Function.update_of_ne h]
      exact s.references m

def PanTiltMotors.gotoPosition (pan tilt : ℤ) : Action Unit := do
  let s ← get
  let panDirection : Tb6612fng.Direction := if pan < (s.encoders .a).counter then .ccw else .cw
  let tiltDirection : Tb6612fng.Direction := if tilt < (s.encoders .b).counter then .ccw else .cw
  set ((s.arm .a pan (.pan 0)).arm .b tilt (.tilt 0))
  PanTiltMotors.panTowards lib bridge panDirection 20
  PanTiltMotors.tiltTowards lib bridge tiltDirection 20

/-- A level change on a channel of an encoder. -/
structure Alert where
  motor : Motor
  channel : Fin 2
  level : ℕ

def alert (a : Alert) : Action Unit := do
  let s ← get
  match (s.encoders a.motor).alert a.channel a.level with
  | none => throw .assertionFailed
  | some (encoder, called) =>
    set (s.setEncoder a.motor encoder)
    match called with
    | none => return ()
    | some (monitor, increment) => monitor.callback lib bridge a.motor increment

def alerts : List Alert → Action Unit
  | [] => return ()
  | a :: rest => do
      alert lib bridge a
      alerts rest

end Goto

/-! ### What the calls have set -/

/-- The duty cycle that a call sets for a motor. -/
def Call.dutycycle (motor : Motor) (c : Call) : Option ℕ :=
  match c.request with
  | .gpioHardwarePWM m _ dutycycle => if m = motor ∧ c.answer.ret = 0 then some dutycycle else none
  | _ => none

/-- The level that a call writes to a pin. -/
def Call.level (pin : Pin) (c : Call) : Option ℕ :=
  match c.request with
  | .gpioWrite p level => if p = pin ∧ c.answer.ret = 0 then some level else none
  | _ => none

namespace Machine

/-- The duty cycle that was last set for a motor. It is 0 at the beginning. -/
def dutycycle (s : Machine) (motor : Motor) : ℕ :=
  (s.calls.findSome? (Call.dutycycle motor)).getD 0

/-- The level that was last written to a pin. -/
def level (s : Machine) (pin : Pin) : Option ℕ := s.calls.findSome? (Call.level pin)

/-- A motor has been commanded to turn in a direction. -/
structure Driven (s : Machine) (motor : Motor) (direction : Tb6612fng.Direction) : Prop where
  duty : s.dutycycle motor ≠ 0
  in1 : s.level (.in1 motor) = some direction.level
  in2 : s.level (.in2 motor) = some ((direction.level + 1) % 2)

variable (s : Machine) (c : Call)

theorem record_dutycycle (motor : Motor) :
    (s.record c).dutycycle motor = (c.dutycycle motor).getD (s.dutycycle motor) := by
  unfold dutycycle record
  rw [List.findSome?_cons]
  cases c.dutycycle motor <;> rfl

theorem record_level (pin : Pin) : (s.record c).level pin = (c.level pin).or (s.level pin) := by
  unfold level record
  rw [List.findSome?_cons]
  cases c.level pin <;> rfl

@[simp] theorem record_made : (s.record c).made = s.made + 1 := rfl

end Machine

end Rckam.Tracker
