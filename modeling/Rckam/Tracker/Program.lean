import Rckam.Common.Format
import Rckam.Library.Lifetimes
import Rckam.Tracker.Controller

/-! The program `rckam-tracker`: its `main`, and the constructors and destructors of the controller
and of the members of the controller. -/
namespace Rckam.Tracker
open Lifetimes
open Tb6612fng (Motor)

/-- `PI_INPUT` and `PI_OUTPUT`. -/
inductive Mode where
  | input | output
  deriving DecidableEq, Repr

/-- `PI_PUD_OFF` and `PI_PUD_UP`. -/
inductive Pull where
  | off | up
  deriving DecidableEq, Repr

/-- A call of pigpio that the program makes. The user data of `gpioSetAlertFuncEx` is the encoder,
which is named by its motor; its function is `Encoder::interrupt` or null. -/
inductive Query where
  | gpioInitialise
  | gpioTerminate
  | gpioSetMode (gpio : ℕ) (mode : Mode)
  | gpioSetPullUpDown (gpio : ℕ) (pud : Pull)
  | gpioSetAlertFuncEx (gpio : ℕ) (f : Bool) (encoder : Motor)
  | spiOpen (chipSelect baud flags : ℕ)
  | spiClose (spi : ℤ)
  | request (r : Request)
  deriving DecidableEq, Repr

structure Made where
  query : Query
  answer : Answer

/-- The calls that the program has made so far. -/
structure Process where
  made : List Made

/-- Why the program does not go on: an exception has been thrown, an assertion has failed, it has no
defined behaviour, or it has been followed no further. -/
inductive Halt where
  | gpioException (message : String)
  | badFunctionCall
  | format (e : FormatError)
  | assertionFailed
  | undefined
  | unfinished
  deriving DecidableEq, Repr

/-- Exceptions unwind the stack. -/
def Halt.unwinds : Halt → Bool
  | .gpioException _ | .badFunctionCall | .format _ => true
  | .assertionFailed | .undefined | .unfinished => false

def Thrown.halt : Thrown → Halt
  | .gpioException message => .gpioException message
  | .badFunctionCall => .badFunctionCall
  | .assertionFailed => .assertionFailed
  | .undefined => .undefined

/-- A part of the program, from its calls so far on. -/
abbrev Part := EStateM Halt Process

def Process.ask (lib : Pigpio) (q : Query) (s : Process) : Process :=
  ⟨s.made ++ [⟨q, lib s.made.length⟩]⟩

section Calls
variable (lib : Pigpio)

def query (q : Query) : Part Answer := do
  let s ← get
  set (s.ask lib q)
  return lib s.made.length

/-- A computation with the motors `m`, whose calls follow those made so far. -/
def within {α : Type} (m : Machine) (action : Pigpio → Action α) : Part α := fun s =>
  match (action fun k => lib (s.made.length + k)).run { m with calls := [] } with
  | .ok v t => .ok v ⟨s.made ++ t.calls.reverse.map fun c => ⟨.request c.request, c.answer⟩⟩
  | .error e t =>
    .error e.halt ⟨s.made ++ t.calls.reverse.map fun c => ⟨.request c.request, c.answer⟩⟩

end Calls

/-- The options that the controller is constructed from. -/
structure RckamTrackerOptions where
  bridge : Tb6612fng
  panA : ℕ
  panB : ℕ
  tiltA : ℕ
  tiltB : ℕ
  switchChannel : ℕ
  vrxChannel : ℕ
  vryChannel : ℕ

/-- Its default values. -/
def RckamTrackerOptions.default : RckamTrackerOptions where
  bridge := defaultBridge
  panA := 2
  panB := 3
  tiltA := 19
  tiltB := 26
  switchChannel := 7
  vrxChannel := 6
  vryChannel := 5

section Classes
variable (lib : Pigpio)

/-- `gpioSetMode`, and what both constructors that call it make of its answer. -/
def setMode (gpio : ℕ) (mode : Mode) (name : String) : Part Unit := do
  let answer ← query lib (.gpioSetMode gpio mode)
  if 0 ≠ answer.ret then
    throw (.gpioException ("ERROR: failed to set GPIO " ++ toString gpio ++ " to " ++ name ++
      " mode: " ++ toString answer.ret))

/-- The GPIOs that the constructor sets to output. That of `stby` is not among them. -/
def Tb6612fng.outputs (bridge : Tb6612fng) : List ℕ :=
  [bridge.in1 .a, bridge.in1 .b, bridge.in2 .a, bridge.in2 .b, bridge.pwm .a, bridge.pwm .b]

def Tb6612fng.lifetime (bridge : Tb6612fng) : Class Halt Process Unit where
  construct := bridge.outputs.forM fun gpio => setMode lib gpio .output "OUTPUT"
  destroy _ := id

/-- A GPIO of an encoder when the encoder is constructed. -/
def Encoder.connect (encoder : Motor) (gpio : ℕ) : Part Unit := do
  setMode lib gpio .input "INPUT"
  let _ ← query lib (.gpioSetPullUpDown gpio .up)
  let _ ← query lib (.gpioSetAlertFuncEx gpio true encoder)

/-- A GPIO of an encoder when the encoder is destroyed. -/
def Encoder.disconnect (encoder : Motor) (s : Process) (gpio : ℕ) : Process :=
  (s.ask lib (.gpioSetAlertFuncEx gpio false encoder)).ask lib (.gpioSetPullUpDown gpio .off)

def Encoder.lifetime (encoder : Motor) (gpios : List ℕ) : Class Halt Process Unit where
  construct := gpios.forM (Encoder.connect lib encoder)
  destroy _ s := gpios.foldl (Encoder.disconnect lib encoder) s

/-- Throws an exception with a formatted message. -/
def throwFormatted {α : Type} (format : String) (args : List String) : Part α :=
  match Format.str format args with
  | .ok message => throw (.gpioException message)
  | .error e => throw (.format e)

/-- The format has three places for the four values. -/
def Mcp3008.lifetime (chipSelect baud flags : ℕ) : Class Halt Process Mcp3008 where
  construct := do
    let answer ← query lib (.spiOpen chipSelect baud flags)
    if 0 > answer.ret then
      throwFormatted "ERROR: failed to open SPI device: CS=%i, baud=%i, flags=%i: $i"
        [toString chipSelect, toString baud, toString flags, toString answer.ret]
    return ⟨answer.ret⟩
  destroy adc s := if 0 ≤ adc.spi then s.ask lib (.spiClose adc.spi) else s

/-- The channels that a line of the constructor of the joystick reads: all of them, and those of
`isPressed`, `xValue` and `yValue`. -/
def RckamTrackerOptions.line (o : RckamTrackerOptions) : List ℕ :=
  List.range 8 ++ [o.switchChannel, o.vrxChannel, o.vryChannel]

/-- The motors before the joystick is used. -/
def RckamTrackerOptions.motors (o : RckamTrackerOptions) : Machine :=
  .initial o.panA o.panB o.tiltA o.tiltB

/-- The body of the constructor of the joystick, which prints twelve lines. `read` has asserted
the range of the channels when they are printed. -/
def RckamTrackerOptions.joystick (o : RckamTrackerOptions) (adc : Mcp3008) : Part Joystick := do
  (List.replicate 12 o.line).flatten.forM fun channel => do
    let _ ← within lib o.motors fun lib => adc.read lib channel
  if h : o.switchChannel < 8 ∧ o.vrxChannel < 8 ∧ o.vryChannel < 8 then
    return ⟨adc, o.switchChannel, o.vrxChannel, o.vryChannel, h.1, h.2.1, h.2.2⟩
  else throw .assertionFailed

def Joystick.lifetime (o : RckamTrackerOptions) : Class Halt Process (Mcp3008 × Joystick) :=
  (Mcp3008.lifetime lib 0 100000 0).member Halt.unwinds fun adc => ⟨o.joystick lib adc, fun _ => id⟩

/-- The members that make calls: the H-bridge and the two encoders. -/
def PanTiltMotors.lifetime (o : RckamTrackerOptions) : Class Halt Process ((Unit × Unit) × Unit) :=
  ((o.bridge.lifetime lib).member Halt.unwinds
    fun _ => Encoder.lifetime lib .a [o.panA, o.panB]).member Halt.unwinds
    fun _ => Encoder.lifetime lib .b [o.tiltA, o.tiltB]

def Controller.lifetime (o : RckamTrackerOptions) :
    Class Halt Process (((Unit × Unit) × Unit) × Mcp3008 × Joystick) :=
  (PanTiltMotors.lifetime lib o).member Halt.unwinds fun _ => Joystick.lifetime lib o

/-- A controller with the GPIOs of the options. -/
def RckamTrackerOptions.controller (o : RckamTrackerOptions) (joystick : Joystick) : Controller :=
  ⟨o.bridge, o.panA, o.panB, o.tiltA, o.tiltB, joystick⟩

/-- `run`, followed for at most `n` iterations of its loop. -/
def Controller.follow (c : Controller) (n : ℕ) : Part Unit := do
  let returned ← within lib c.initial fun lib => c.run lib n
  if ¬ returned then throw .unfinished

/-- `main`, when the options ask for a run. -/
def main (o : RckamTrackerOptions) (n : ℕ) : Part ℤ := do
  let answer ← query lib .gpioInitialise
  if -1 = answer.ret then return -1
  catching Halt.unwinds () ((Controller.lifetime lib o).scope Halt.unwinds fun c =>
    (o.controller c.2.2).follow lib n)
  let _ ← query lib .gpioTerminate
  return 0

end Classes

end Rckam.Tracker
