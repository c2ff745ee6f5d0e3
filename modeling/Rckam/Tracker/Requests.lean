import Rckam.Library.Outcomes
import Rckam.Tracker.LeftDriven

/-! The requests of a run of the controller, and how a read of the ADC ends. -/
namespace Rckam.Tracker
open Outcomes
open Tb6612fng (Motor)

/-- `P` holds of all requests so far. -/
def Machine.Asked (P : Request → Prop) (s : Machine) : Prop := ∀ c ∈ s.calls, P c.request

/-- What is transferred to read a channel. -/
def channelBuffer (channel : ℕ) : List Byte := [1, .ofNat ((8 ||| channel) <<< 4), 0]

/-- The duties that the joystick asks for, and the one that the motors are tried out with. -/
def RunDuty (duty : ℕ) : Prop := duty = 0 ∨ 5 ≤ duty ∧ duty ≤ 20 ∨ duty = 50

/-- `P` holds of the requests that a run of the controller makes. -/
structure Controller.Permits (c : Controller) (P : Request → Prop) : Prop where
  level : ∀ pin level, level ≤ 1 → P (.gpioWrite pin level)
  duty : ∀ motor duty, RunDuty duty → P (.gpioHardwarePWM motor c.bridge.freq (duty * 10000))
  transfer : ∀ channel < 8, P (.spiXfer c.joystick.mcp3008.spi (channelBuffer channel))

theorem masked_iff (channel : ℕ) : channel = channel &&& 7 ↔ channel < 8 := by
  have hmod : channel &&& 7 = channel % 8 := Nat.and_two_pow_sub_one_eq_mod channel 3
  omega

section Asked
variable {lib : Pigpio} {P : Request → Prop}

theorem asked_call {r : Request} (hr : P r) : Preserves (Machine.Asked P) (call lib r) := by
  intro s hs
  show Machine.Asked P (s.record ⟨r, lib s.made⟩)
  exact List.forall_mem_cons.mpr ⟨hr, hs⟩

/-- A read asks only for a channel that the ADC has, and returns what has been answered. -/
theorem read_value (adc : Mcp3008) (channel : ℕ)
    (h : channel < 8 → P (.spiXfer adc.spi (channelBuffer channel))) {s : Machine}
    (hs : s.Asked P) : Ends (adc.read lib channel) s
      (fun v t => (∃ a : Answer, v = a.value) ∧ t.Asked P) fun _ t => t.Asked P := by
  apply ends_check
  · intro _
    exact hs
  · intro hchannel
    rw [not_not, masked_iff] at hchannel
    apply Ends.bind (asked_call (h hchannel) s hs)
    intro answer t ht
    apply ends_check
    · intro _
      exact ht
    · intro _
      exact ends_pure ⟨⟨answer, rfl⟩, ht⟩

theorem asked_read (adc : Mcp3008) (channel : ℕ)
    (h : channel < 8 → P (.spiXfer adc.spi (channelBuffer channel))) :
    Preserves (Machine.Asked P) (adc.read lib channel) :=
  fun _ hs => (read_value adc channel h hs).mono (fun _ _ ht => ht.2) fun _ _ ht => ht

end Asked

/-- The joystick does not ask for less than 5%, nor for more than 20%. -/
theorem direction_duty (a : Answer) : RunDuty (Joystick.direction a.value).natAbs := by
  have hlt := Controller.value_lt a
  have hround : -20 ≤ Joystick.round (20 * ((a.value : ℤ) - (512 : ℕ))) 512 ∧
      Joystick.round (20 * ((a.value : ℤ) - (512 : ℕ))) 512 ≤ 20 := by
    unfold Joystick.round
    split
    · omega
    · omega
  have hdirection : Joystick.direction a.value =
      if Joystick.round (20 * ((a.value : ℤ) - (512 : ℕ))) 512 ≤ -5 ∨
        Joystick.round (20 * ((a.value : ℤ) - (512 : ℕ))) 512 ≥ 5 then
        Joystick.round (20 * ((a.value : ℤ) - (512 : ℕ))) 512 else 0 := rfl
  rw [hdirection]
  unfold RunDuty
  split
  · omega
  · exact Or.inl rfl

section Run
variable {lib : Pigpio} {c : Controller} {P : Request → Prop}

theorem asked_setLevel (h : c.Permits P) (pin : Pin) {level : ℕ} (hlevel : level ≤ 1) :
    Preserves (Machine.Asked P) (c.bridge.setLevel lib pin level) := by
  apply (asked_call (h.level pin level hlevel)).bind
  intro answer
  exact (preserves_throw _).ite (preserves_pure ())

theorem asked_setDuty (h : c.Permits P) (motor : Motor) {duty : ℕ} (hduty : RunDuty duty) :
    Preserves (Machine.Asked P) (c.bridge.setDuty lib motor duty) := by
  apply preserves_check
  apply (asked_call (h.duty motor duty hduty)).bind
  intro answer
  exact (preserves_throw _).ite (preserves_pure ())

theorem asked_command (h : c.Permits P) (motor : Motor) (direction : Tb6612fng.Direction)
    {duty : ℕ} (hduty : RunDuty duty) : Preserves (Machine.Asked P) (do
      c.bridge.setDirection lib motor direction
      c.bridge.setDuty lib motor duty) := by
  have hlevel : direction.level ≤ 1 := by cases direction <;> decide
  have hother : (direction.level + 1) % 2 ≤ 1 := by omega
  apply ((asked_setLevel h _ hlevel).bind fun _ => asked_setLevel h _ hother).bind
  intro _
  exact asked_setDuty h motor hduty

theorem asked_turn (h : c.Permits P) (motor : Motor) {duty : ℤ} (hduty : RunDuty duty.natAbs) :
    Preserves (Machine.Asked P) (PanTiltMotors.turn lib c.bridge motor duty) :=
  preserves_check (asked_command h motor _ hduty)

theorem asked_turnTowards (h : c.Permits P) (motor : Motor) (direction : Tb6612fng.Direction)
    {duty : ℕ} (hduty : RunDuty duty) : Preserves (Machine.Asked P)
      (PanTiltMotors.turnTowards lib c.bridge motor direction duty) :=
  preserves_check (asked_command h motor direction hduty)

theorem asked_stop (h : c.Permits P) (motor : Motor) :
    Preserves (Machine.Asked P) (PanTiltMotors.turn lib c.bridge motor 0) :=
  asked_turn h motor (Or.inl rfl)

theorem asked_try (h : c.Permits P) (motor : Motor) (direction : Tb6612fng.Direction) :
    Preserves (Machine.Asked P) (PanTiltMotors.turnTowards lib c.bridge motor direction 50) :=
  asked_turnTowards h motor direction (Or.inr (Or.inr rfl))

theorem asked_channel (h : c.Permits P) (channel : ℕ) :
    Preserves (Machine.Asked P) (c.joystick.mcp3008.read lib channel) :=
  asked_read _ channel (h.transfer channel)

theorem asked_direction (h : c.Permits P) (channel : ℕ) :
    Preserves (Machine.Asked P) (c.joystick.directionValue lib channel) :=
  (asked_channel h channel).bind fun _ => preserves_pure _

/-- A motor is turned with what has been read. -/
theorem asked_follow (h : c.Permits P) (motor : Motor) (channel : ℕ) {rest : Unit → Action Bool}
    (hrest : ∀ r, Preserves (Machine.Asked P) (rest r)) : Preserves (Machine.Asked P)
      (c.joystick.directionValue lib channel >>= fun duty =>
        PanTiltMotors.turn lib c.bridge motor duty >>= rest) := by
  apply preserves_bind_of (R := fun duty => RunDuty duty.natAbs)
  · intro s hs
    apply (read_value _ channel (h.transfer channel) hs).bind
    rintro _ t ⟨⟨a, rfl⟩, ht⟩
    exact ends_pure ⟨direction_duty a, ht⟩
  · intro duty hduty
    exact (asked_turn h motor hduty).bind hrest

theorem asked_standby (h : c.Permits P) {level : ℕ} (hlevel : level ≤ 1) :
    Preserves (Machine.Asked P) (do
      let _ ← call lib (.gpioWrite .stby level)) :=
  (asked_call (h.level .stby level hlevel)).bind fun _ => preserves_pure ()

theorem asked_start (h : c.Permits P) : Preserves (Machine.Asked P) (c.start lib) := by
  apply (asked_standby h le_rfl).bind fun _ => ?_
  apply (asked_stop h .a).bind fun _ => ?_
  apply (asked_stop h .a).bind fun _ => ?_
  apply (asked_try h .a .ccw).bind fun _ => ?_
  apply (asked_stop h .a).bind fun _ => ?_
  apply (asked_try h .a .cw).bind fun _ => ?_
  apply (asked_stop h .a).bind fun _ => ?_
  apply (asked_try h .b .ccw).bind fun _ => ?_
  apply (asked_stop h .b).bind fun _ => ?_
  apply (asked_try h .b .cw).bind fun _ => ?_
  exact asked_stop h .b

theorem asked_iteration (h : c.Permits P) : Preserves (Machine.Asked P) (c.iteration lib) := by
  apply (asked_channel h _).bind fun _ => ?_
  apply (asked_direction h _).bind fun _ => ?_
  apply (asked_direction h _).bind fun _ => ?_
  apply asked_follow h .a _ fun _ => ?_
  apply asked_follow h .b _ fun _ => ?_
  apply (asked_stop h .a).bind fun _ => ?_
  apply (asked_stop h .b).bind fun _ => ?_
  exact (asked_channel h _).bind fun _ => preserves_pure _

theorem asked_loop (h : c.Permits P) (n : ℕ) : Preserves (Machine.Asked P) (c.loop lib n) := by
  induction n with
  | zero => exact preserves_pure _
  | succ n ih =>
    apply (asked_iteration h).bind
    intro pressed
    exact (preserves_pure _).ite ih

theorem asked_run (h : c.Permits P) (n : ℕ) : Preserves (Machine.Asked P) (c.run lib n) := by
  apply (asked_start h).bind fun _ => ?_
  apply (asked_loop h n).bind fun done => ?_
  exact ((asked_standby h (Nat.zero_le 1)).bind fun _ => preserves_pure _).ite (preserves_pure _)

end Run

section Asserted
variable {lib : Pigpio} {s : Machine}

/-- A read fails on its assertion exactly when the channel is out of range. -/
theorem read_asserts (adc : Mcp3008) (channel : ℕ) :
    Ends (adc.read lib channel) s (fun _ _ => channel < 8) fun e _ =>
      e.IsGpio ∨ e = .assertionFailed ∧ ¬ channel < 8 := by
  apply ends_check
  · intro h
    rw [masked_iff] at h
    exact Or.inr ⟨rfl, h⟩
  · intro h
    rw [not_not, masked_iff] at h
    have hcall (r : Request) : Ends (call lib r) s (fun _ _ => True) fun e _ =>
        e.IsGpio ∨ e = .assertionFailed ∧ ¬ channel < 8 := trivial
    apply (hcall _).bind
    intro answer t _
    apply ends_check
    · intro _
      exact Or.inl ⟨_, rfl⟩
    · intro _
      exact ends_pure h

/-- A run of the controller fails on no assertion. -/
theorem run_asserts (c : Controller) (n : ℕ) :
    Ends (c.run lib n) c.initial (fun _ _ => True) fun e _ => e.IsGpio := by
  have hends : Controller.Ends lib n ((c.run lib n).run c.initial) := Controller.run_ends n
  unfold Ends
  generalize (c.run lib n).run c.initial = r at hends ⊢
  cases hends with
  | pressed => trivial
  | unpressed => trivial
  | failed k e t hfails hleft => exact hleft.thrown

end Asserted

end Rckam.Tracker
