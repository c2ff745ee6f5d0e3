import Rckam.Library.Traces
import Rckam.Tracker.Operations
import Rckam.Tracker.Requests

/-! The motors follow the joystick: the requests that a run of the controller makes, as they depend
on what has been read from the ADC. -/
namespace Rckam.Tracker
open Outcomes Traces
open Tb6612fng (Motor)

/-- The requests so far, the first one first. -/
def Machine.requests (s : Machine) : List Request := s.calls.reverse.map fun c => c.request

/-- What turns a motor with a signed duty. -/
def Tb6612fng.turnRequests (bridge : Tb6612fng) (motor : Motor) (duty : ℤ) : List Request :=
  bridge.commandRequests motor (.ofDuty duty) duty.natAbs

namespace Controller

/-- What reads a channel of the ADC. -/
def readRequest (c : Controller) (channel : ℕ) : Request :=
  .spiXfer c.joystick.mcp3008.spi (channelBuffer channel)

/-- The requests before the loop: both motors are tried out. -/
def openingRequests (c : Controller) : List Request :=
  [.gpioWrite .stby 1] ++ (c.bridge.turnRequests .a 0 ++ (c.bridge.turnRequests .a 0 ++
    (c.bridge.commandRequests .a .ccw 50 ++ (c.bridge.turnRequests .a 0 ++
    (c.bridge.commandRequests .a .cw 50 ++ (c.bridge.turnRequests .a 0 ++
    (c.bridge.commandRequests .b .ccw 50 ++ (c.bridge.turnRequests .b 0 ++
    (c.bridge.commandRequests .b .cw 50 ++ c.bridge.turnRequests .b 0)))))))))

/-- The requests of an iteration that turns the motors by `x` and `y`. -/
def roundRequests (c : Controller) (x y : ℤ) : List Request :=
  [c.readRequest c.joystick.switch] ++ ([c.readRequest c.joystick.vrx] ++
    ([c.readRequest c.joystick.vry] ++ ([c.readRequest c.joystick.vrx] ++
    (c.bridge.turnRequests .a x ++ ([c.readRequest c.joystick.vry] ++
    (c.bridge.turnRequests .b y ++ (c.bridge.turnRequests .a 0 ++ (c.bridge.turnRequests .b 0 ++
    [c.readRequest c.joystick.switch]))))))))

instance decidablePressedAt (lib : Pigpio) (i : ℕ) : Decidable (PressedAt lib i) :=
  inferInstanceAs (Decidable (_ = _))

/-- The requests of at most `n` iterations from the `i`-th one on. -/
def loopRequests (lib : Pigpio) (c : Controller) : ℕ → ℕ → List Request
  | 0, _ => []
  | n + 1, i => c.roundRequests (xAt lib i) (yAt lib i) ++
      if PressedAt lib i then [] else loopRequests lib c n (i + 1)

/-- The switch is pressed in one of `n` iterations from the `i`-th one on. -/
def PressedWithin (lib : Pigpio) (n i : ℕ) : Prop := ∃ j < n, PressedAt lib (i + j)

instance decidablePressedWithin (lib : Pigpio) (n i : ℕ) :
    Decidable (PressedWithin lib n i) :=
  inferInstanceAs (Decidable (∃ j < n, _))

/-- The requests of a run that is followed for at most `n` iterations. -/
def runRequests (c : Controller) (lib : Pigpio) (n : ℕ) : List Request :=
  c.openingRequests ++ (loopRequests lib c n 0 ++
    if PressedWithin lib n 0 then [.gpioWrite .stby 0] else [])

end Controller

section Commands
variable {lib : Pigpio} {bridge : Tb6612fng} {s : Machine} {α : Type} {Q : α → Machine → Prop}

theorem Machine.requests_length (s : Machine) : s.requests.length = s.made := by
  simp [Machine.requests, Machine.made]

/-- A call, and what is made of its answer. -/
theorem emits_call {r : Request} {f : Answer → Action α}
    (hf : Ends (f (lib s.made)) (s.record ⟨r, lib s.made⟩)
      (fun v t => t = s.record ⟨r, lib s.made⟩ ∧ Q v t)
      fun _ t => t = s.record ⟨r, lib s.made⟩) :
    Emits Machine.requests (call lib r >>= f) s [r] Q := by
  have hrequests : (s.record ⟨r, lib s.made⟩).requests = s.requests ++ [r] := by
    simp [Machine.requests, Machine.record]
  apply Ends.mono (Q := fun v t => t = s.record ⟨r, lib s.made⟩ ∧ Q v t)
    (E := fun _ t => t = s.record ⟨r, lib s.made⟩) hf
  · rintro v t ⟨rfl, hQ⟩
    exact ⟨hrequests, hQ⟩
  · rintro e t rfl
    exact ⟨[r], List.prefix_rfl, hrequests⟩

theorem emits_setLevel (pin : Pin) (level : ℕ) : Emits Machine.requests
    (bridge.setLevel lib pin level) s [.gpioWrite pin level] fun _ _ => True := by
  apply emits_call
  apply ends_check_last
  · intro _
    rfl
  · intro _
    exact ⟨rfl, trivial⟩

theorem emits_command (motor : Motor) (direction : Tb6612fng.Direction) {duty : ℕ}
    (hduty : duty ≤ 100) : Emits Machine.requests (do
      bridge.setDirection lib motor direction
      bridge.setDuty lib motor duty) s (bridge.commandRequests motor direction duty)
      fun _ _ => True := by
  have hdirection : Emits Machine.requests (bridge.setDirection lib motor direction) s
      [.gpioWrite (.in1 motor) direction.level,
        .gpioWrite (.in2 motor) ((direction.level + 1) % 2)] fun _ _ => True :=
    (emits_setLevel _ _).bind fun _ _ _ _ => emits_setLevel _ _
  apply hdirection.bind
  intro _ t _ _
  unfold Tb6612fng.setDuty
  rw [if_neg (not_not.mpr hduty)]
  beta_reduce
  apply emits_call
  apply ends_check_last
  · intro _
    rfl
  · intro _
    exact ⟨rfl, trivial⟩

theorem emits_turnTowards (motor : Motor) (direction : Tb6612fng.Direction) {duty : ℕ}
    (hduty : duty ≤ 100) : Emits Machine.requests
      (PanTiltMotors.turnTowards lib bridge motor direction duty) s
      (bridge.commandRequests motor direction duty) fun _ _ => True := by
  unfold PanTiltMotors.turnTowards
  rw [if_neg (not_not.mpr hduty)]
  exact emits_command motor direction hduty

theorem emits_turn (motor : Motor) {duty : ℤ} (hduty : -100 ≤ duty ∧ duty ≤ 100) :
    Emits Machine.requests (PanTiltMotors.turn lib bridge motor duty) s
      (bridge.turnRequests motor duty) fun _ _ => True := by
  unfold PanTiltMotors.turn
  rw [if_neg (not_not.mpr hduty)]
  exact emits_command motor _ (by omega)

theorem emits_read (adc : Mcp3008) {channel : ℕ} (hchannel : channel < 8) :
    Emits Machine.requests (adc.read lib channel) s [.spiXfer adc.spi (channelBuffer channel)]
      fun v _ => v = (lib s.made).value := by
  unfold Mcp3008.read
  rw [if_neg (not_not.mpr ((masked_iff channel).mpr hchannel))]
  beta_reduce
  apply emits_call
  apply ends_check_last
  · intro _
    rfl
  · intro _
    exact ⟨rfl, rfl⟩

end Commands

namespace Controller

section Runs
variable {lib : Pigpio} {c : Controller} {s : Machine}

/-- The number of calls behind a computation that has made the requests `l`. -/
theorem made_of_requests {t : Machine} {l : List Request} (h : t.requests = s.requests ++ l) :
    t.made = s.made + l.length := by
  rw [← Machine.requests_length, h, List.length_append, Machine.requests_length]

theorem emits_start : Emits Machine.requests (c.start lib) s c.openingRequests
    fun _ _ => True := by
  have hdrive : Emits Machine.requests (Tb6612fng.drive lib) s [.gpioWrite .stby 1]
      fun _ _ => True := emits_call ⟨rfl, trivial⟩
  have hstop (motor : Motor) (u : Machine) : Emits Machine.requests
      (PanTiltMotors.turn lib c.bridge motor 0) u (c.bridge.turnRequests motor 0) fun _ _ => True :=
    emits_turn motor (by decide)
  have htry (motor : Motor) (direction : Tb6612fng.Direction) (u : Machine) :
      Emits Machine.requests (PanTiltMotors.turnTowards lib c.bridge motor direction 50) u
      (c.bridge.commandRequests motor direction 50) fun _ _ => True :=
    emits_turnTowards motor direction (by decide)
  unfold start openingRequests
  apply hdrive.bind
  intro _ t1 _ _
  apply (hstop .a t1).bind
  intro _ t2 _ _
  apply (hstop .a t2).bind
  intro _ t3 _ _
  apply (htry .a .ccw t3).bind
  intro _ t4 _ _
  apply (hstop .a t4).bind
  intro _ t5 _ _
  apply (htry .a .cw t5).bind
  intro _ t6 _ _
  apply (hstop .a t6).bind
  intro _ t7 _ _
  apply (htry .b .ccw t7).bind
  intro _ t8 _ _
  apply (hstop .b t8).bind
  intro _ t9 _ _
  apply (htry .b .cw t9).bind
  intro _ t10 _ _
  exact hstop .b t10

theorem emits_direction {channel : ℕ} (hchannel : channel < 8) : Emits Machine.requests
    (c.joystick.directionValue lib channel) s [c.readRequest channel]
      fun v _ => v = Joystick.direction (lib s.made).value := by
  have hpure (v : ℕ) (t : Machine) (hv : v = (lib s.made).value) : Emits Machine.requests
      (pure (Joystick.direction v) : Action ℤ) t []
      fun v _ => v = Joystick.direction (lib s.made).value :=
    emits_pure (congrArg Joystick.direction hv)
  exact (emits_read _ hchannel).bind fun v t _ hv => hpure v t hv

/-- An iteration turns the motors by what it has read of the joystick, and stops them. -/
theorem emits_iteration (i : ℕ) (hmade : s.made = 31 + 18 * i) : Emits Machine.requests
    (c.iteration lib) s (c.roundRequests (xAt lib i) (yAt lib i))
      fun pressed _ => pressed = true ↔ PressedAt lib i := by
  unfold iteration roundRequests
  apply (emits_read _ c.joystick.switch_lt).bind
  intro _ t1 h1 _
  have m1 : t1.made = s.made + 1 := made_of_requests h1
  apply (emits_direction c.joystick.vrx_lt).bind
  intro _ t2 h2 _
  have m2 : t2.made = t1.made + 1 := made_of_requests h2
  apply (emits_direction c.joystick.vry_lt).bind
  intro _ t3 h3 _
  have m3 : t3.made = t2.made + 1 := made_of_requests h3
  apply (emits_direction c.joystick.vrx_lt).bind
  intro x t4 h4 hx
  have m4 : t4.made = t3.made + 1 := made_of_requests h4
  obtain rfl : x = xAt lib i := by
    rw [hx, (by omega : t3.made = 31 + 18 * i + 3)]
    rfl
  apply (emits_turn .a (direction_bounds _)).bind
  intro _ t5 h5 _
  have m5 : t5.made = t4.made + 3 := made_of_requests h5
  apply (emits_direction c.joystick.vry_lt).bind
  intro y t6 h6 hy
  have m6 : t6.made = t5.made + 1 := made_of_requests h6
  obtain rfl : y = yAt lib i := by
    rw [hy, (by omega : t5.made = 31 + 18 * i + 7)]
    rfl
  apply (emits_turn .b (direction_bounds _)).bind
  intro _ t7 h7 _
  have m7 : t7.made = t6.made + 3 := made_of_requests h7
  apply (emits_turn .a (by decide)).bind
  intro _ t8 h8 _
  have m8 : t8.made = t7.made + 3 := made_of_requests h8
  apply (emits_turn .b (by decide)).bind
  intro _ t9 h9 _
  have m9 : t9.made = t8.made + 3 := made_of_requests h9
  have hpressed (v : ℕ) (t : Machine) (hv : v = (lib t9.made).value) : Emits Machine.requests
      (pure (decide (0 = v)) : Action Bool) t []
      fun pressed _ => pressed = true ↔ PressedAt lib i := by
    apply emits_pure
    rw [decide_eq_true_iff, hv, (by omega : t9.made = 31 + 18 * i + 17)]
    exact eq_comm
  exact (emits_read _ c.joystick.switch_lt).bind fun v t _ hv => hpressed v t hv

/-- The loop from an iteration on. -/
theorem emits_loop (n i : ℕ) (hmade : s.made = 31 + 18 * i) : Emits Machine.requests
    (c.loop lib n) s (loopRequests lib c n i)
      fun done _ => done = true ↔ PressedWithin lib n i := by
  induction n generalizing s i with
  | zero =>
    apply emits_pure
    simp [PressedWithin]
  | succ n ih =>
    apply (emits_iteration i hmade).bind
    intro pressed t ht hpressed
    have hlength : (c.roundRequests (xAt lib i) (yAt lib i)).length = 18 := rfl
    have hmade' := made_of_requests ht
    have hwithin : PressedWithin lib (n + 1) i ↔ PressedAt lib i ∨ PressedWithin lib n (i + 1) := by
      unfold PressedWithin
      rw [Nat.exists_lt_succ_left]
      simp [Nat.add_assoc, Nat.add_comm 1]
    cases pressed with
    | true =>
      have hnow : PressedAt lib i := hpressed.mp rfl
      rw [if_pos hnow]
      apply emits_pure
      simp [hwithin, hnow]
    | false =>
      have hnot : ¬ PressedAt lib i := fun h => Bool.false_ne_true (hpressed.mpr h)
      rw [if_neg hnot]
      apply (ih (i + 1) (by omega)).mono
      intro done u _ hdone
      simp [hdone, hwithin, hnot]

theorem emits_run (n : ℕ) : Emits Machine.requests (c.run lib n) c.initial (c.runRequests lib n)
    fun returned _ => returned = true ↔ PressedWithin lib n 0 := by
  apply emits_start.bind
  intro _ t ht _
  have hmade : t.made = 31 := made_of_requests ht
  apply (emits_loop n 0 hmade).bind
  intro done u _ hdone
  cases done with
  | true =>
    have hpressed : PressedWithin lib n 0 := hdone.mp rfl
    have hstandby : Emits Machine.requests (Tb6612fng.standby lib) u [.gpioWrite .stby 0]
        fun _ _ => True := emits_call ⟨rfl, trivial⟩
    rw [if_pos hpressed]
    exact hstandby.bind fun _ _ _ _ => emits_pure (by simp [hpressed])
  | false =>
    have hnot : ¬ PressedWithin lib n 0 := fun h => Bool.false_ne_true (hdone.mpr h)
    rw [if_neg hnot]
    exact emits_pure (by simp [hnot])

end Runs

/-- The joystick is neutral between 397 and 627, and it turns a motor to the one side below and to
the other side above. -/
theorem direction_sign (v : ℕ) :
    (Joystick.direction v < 0 ↔ v ≤ 396) ∧ (0 < Joystick.direction v ↔ 628 ≤ v) := by
  have hdirection : Joystick.direction v =
      if Joystick.round (20 * ((v : ℤ) - (512 : ℕ))) 512 ≤ -5 ∨
        Joystick.round (20 * ((v : ℤ) - (512 : ℕ))) 512 ≥ 5 then
        Joystick.round (20 * ((v : ℤ) - (512 : ℕ))) 512 else 0 := rfl
  rw [hdirection]
  unfold Joystick.round
  split_ifs <;> omega

/-- Whatever pigpio answers, a run makes the requests that follow from what it has read of the
joystick, up to the one at which it throws. It returns when the switch is pressed, and it goes on as
long as it is not. -/
theorem follows_joystick (lib : Pigpio) (c : Controller) (n : ℕ) :
    (outcome (c.run lib n) c.initial).2.requests <+: c.runRequests lib n ∧
      (∀ returned, (outcome (c.run lib n) c.initial).1 = some returned →
        (outcome (c.run lib n) c.initial).2.requests = c.runRequests lib n ∧
        (returned = true ↔ PressedWithin lib n 0)) ∧
      ∀ v, (Joystick.direction v < 0 ↔ v ≤ 396) ∧ (0 < Joystick.direction v ↔ 628 ≤ v) := by
  have hrun : Emits Machine.requests (c.run lib n) c.initial (c.runRequests lib n)
      fun returned _ => returned = true ↔ PressedWithin lib n 0 := emits_run n
  exact ⟨hrun.logged.1, hrun.logged.2, direction_sign⟩

end Controller

end Rckam.Tracker
