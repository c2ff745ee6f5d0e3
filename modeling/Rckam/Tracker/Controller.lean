import Rckam.Tracker.PanTiltMotors

/-! The tracker: the joystick on its ADC, and `Controller::run`. -/
namespace Rckam.Tracker

/-- The ADC, with the handle of its SPI device. -/
structure Mcp3008 where
  spi : ℤ

/-- `getMaxValue`, for 10 bits. -/
def Mcp3008.maxValue : ℕ := 1024

/-- The 10 bits that a transfer has left in the buffer. On the processors that pigpio runs on a
`char` is unsigned. -/
def Answer.value (a : Answer) : ℕ := (a.byte1.toNat &&& 3) <<< 8 ||| a.byte2.toNat

def Mcp3008.read (lib : Pigpio) (adc : Mcp3008) (channel : ℕ) : Action ℕ := do
  if ¬ channel = channel &&& 7 then throw .assertionFailed
  let buffer : List Byte := [1, .ofNat ((8 ||| channel) <<< 4), 0]
  let answer ← call lib (.spiXfer adc.spi buffer)
  if 3 ≠ answer.ret then
    throw (.gpioException ("ERROR: failed to transfer 3 bytes for channel " ++ toString channel ++
      ": " ++ toString answer.ret))
  return answer.value

/-- The constructor reads the three channels, and `read` asserts their range. -/
structure Joystick where
  mcp3008 : Mcp3008
  switch : ℕ
  vrx : ℕ
  vry : ℕ
  switch_lt : switch < 8
  vrx_lt : vrx < 8
  vry_lt : vry < 8

namespace Joystick

/-- `round`, of a fraction: halves go away from zero. -/
def round (numerator : ℤ) (denominator : ℕ) : ℤ :=
  if 0 ≤ numerator then (2 * numerator + denominator) / (2 * denominator)
  else -((2 * -numerator + denominator) / (2 * denominator))

/-- The result of `directionValue` for a value of the ADC. Its floats are exact: with `m` the
neutral value, `(v - m) / m * 100 / 5` is `20 * (v - m) / m`, and `m` is a power of two. -/
def direction (current : ℕ) : ℤ :=
  let neutral : ℕ := Mcp3008.maxValue / 2
  let value := round (20 * ((current : ℤ) - neutral)) neutral
  if value ≤ -5 ∨ value ≥ 5 then value else 0

variable (lib : Pigpio) (joystick : Joystick)

def isPressed : Action Bool := do
  return 0 = (← joystick.mcp3008.read lib joystick.switch)

def swValue : Action ℕ := joystick.mcp3008.read lib joystick.switch

def directionValue (channel : ℕ) : Action ℤ := do
  return direction (← joystick.mcp3008.read lib channel)

def xValue : Action ℤ := joystick.directionValue lib joystick.vrx

def yValue : Action ℤ := joystick.directionValue lib joystick.vry

end Joystick

/-- A controller, with the GPIO numbers of the encoders. -/
structure Controller where
  bridge : Tb6612fng
  panA : ℕ
  panB : ℕ
  tiltA : ℕ
  tiltB : ℕ
  joystick : Joystick

namespace Controller
variable (lib : Pigpio) (c : Controller)

/-- The motors when `run` is called. -/
def initial : Machine := .initial c.panA c.panB c.tiltA c.tiltB

/-- `run` before its loop. -/
def start : Action Unit := do
  Tb6612fng.drive lib
  PanTiltMotors.pan lib c.bridge 0
  PanTiltMotors.pan lib c.bridge 0
  PanTiltMotors.panTowards lib c.bridge .ccw 50
  PanTiltMotors.pan lib c.bridge 0
  PanTiltMotors.panTowards lib c.bridge .cw 50
  PanTiltMotors.pan lib c.bridge 0
  PanTiltMotors.tiltTowards lib c.bridge .ccw 50
  PanTiltMotors.tilt lib c.bridge 0
  PanTiltMotors.tiltTowards lib c.bridge .cw 50
  PanTiltMotors.tilt lib c.bridge 0

/-- An iteration of the loop. The first three values are printed. -/
def iteration : Action Bool := do
  let _ ← c.joystick.swValue lib
  let _ ← c.joystick.xValue lib
  let _ ← c.joystick.yValue lib
  PanTiltMotors.pan lib c.bridge (← c.joystick.xValue lib)
  PanTiltMotors.tilt lib c.bridge (← c.joystick.yValue lib)
  PanTiltMotors.pan lib c.bridge 0
  PanTiltMotors.tilt lib c.bridge 0
  c.joystick.isPressed lib

/-- At most `n` iterations of the loop, and whether it is done. -/
def loop : ℕ → Action Bool
  | 0 => return false
  | n + 1 => do
      if ← c.iteration lib then return true
      loop n

/-- `run`, followed for at most `n` iterations of its loop, and whether it has returned. -/
def run (n : ℕ) : Action Bool := do
  c.start lib
  if ← c.loop lib n then
    Tb6612fng.standby lib
    return true
  return false

end Controller

end Rckam.Tracker
