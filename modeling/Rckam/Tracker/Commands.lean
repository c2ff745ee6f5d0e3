import Rckam.Library.Attempts
import Rckam.Tracker.PanTiltMotors

/-! What the commands of the H-bridge and of its motors set, and what they leave when a call of
pigpio is refused. -/
namespace Rckam.Tracker
open Attempts
open Tb6612fng (Motor)

def Thrown.IsGpio (e : Thrown) : Prop := ∃ message, e = .gpioException message

/-- A command that is cut short has changed the direction at most. -/
structure CutShort (s : Machine) (e : Thrown) (t : Machine) : Prop where
  thrown : e.IsGpio
  dutycycle : t.dutycycle = s.dutycycle
  stby : t.level .stby = s.level .stby

structure Wrote (s : Machine) (pin : Pin) (level : ℕ) (t : Machine) : Prop where
  encoders : t.encoders = s.encoders
  dutycycle : t.dutycycle = s.dutycycle
  level : t.level = Function.update s.level pin (some level)

structure Directed (s : Machine) (motor : Motor) (direction : Tb6612fng.Direction) (t : Machine) :
    Prop where
  encoders : t.encoders = s.encoders
  dutycycle : t.dutycycle = s.dutycycle
  level : t.level = Function.update (Function.update s.level (.in1 motor) (some direction.level))
    (.in2 motor) (some ((direction.level + 1) % 2))

theorem Directed.stby {s t : Machine} {motor : Motor} {direction : Tb6612fng.Direction}
    (h : Directed s motor direction t) : t.level .stby = s.level .stby := by
  rw [h.level]
  rfl

structure Commanded (s : Machine) (motor : Motor) (direction : Tb6612fng.Direction) (duty : ℕ)
    (t : Machine) : Prop where
  encoders : t.encoders = s.encoders
  dutycycle : t.dutycycle = Function.update s.dutycycle motor (duty * 10000)
  level : t.level = Function.update (Function.update s.level (.in1 motor) (some direction.level))
    (.in2 motor) (some ((direction.level + 1) % 2))

@[simp] theorem call_run (lib : Pigpio) (r : Request) (s : Machine) :
    (call lib r).run s = .ok (lib s.made) (s.record ⟨r, lib s.made⟩) := rfl

section Writes
variable {s : Machine} {a : Answer}

theorem record_gpioWrite (pin : Pin) (level : ℕ) (h : a.ret = 0) :
    Wrote s pin level (s.record ⟨.gpioWrite pin level, a⟩) where
  encoders := rfl
  dutycycle := by
    funext motor
    exact s.record_dutycycle _ motor
  level := by
    funext p
    rw [s.record_level]
    by_cases hp : p = pin
    · subst hp
      simp [Call.level, h]
    · rw [Function.update_of_ne hp]
      simp [Call.level, Ne.symm hp]

theorem record_refused (r : Request) (h : a.ret ≠ 0) :
    (s.record ⟨r, a⟩).dutycycle = s.dutycycle ∧ (s.record ⟨r, a⟩).level = s.level := by
  constructor
  · funext motor
    rw [s.record_dutycycle]
    cases r <;> simp [Call.dutycycle, h]
  · funext pin
    rw [s.record_level]
    cases r <;> simp [Call.level, h]

theorem record_spiXfer (spi : ℤ) (buffer : List Byte) :
    (s.record ⟨.spiXfer spi buffer, a⟩).dutycycle = s.dutycycle ∧
      (s.record ⟨.spiXfer spi buffer, a⟩).level = s.level := by
  constructor
  · funext motor
    exact s.record_dutycycle _ motor
  · funext pin
    exact s.record_level _ pin

theorem record_gpioHardwarePWM (motor : Motor) (freq dutycycle : ℕ) (h : a.ret = 0) :
    (s.record ⟨.gpioHardwarePWM motor freq dutycycle, a⟩).dutycycle =
        Function.update s.dutycycle motor dutycycle ∧
      (s.record ⟨.gpioHardwarePWM motor freq dutycycle, a⟩).level = s.level := by
  constructor
  · funext m
    rw [s.record_dutycycle]
    by_cases hm : m = motor
    · subst hm
      simp [Call.dutycycle, h]
    · rw [Function.update_of_ne hm]
      simp [Call.dutycycle, Ne.symm hm]
  · funext pin
    exact s.record_level _ pin

end Writes

section Commands
variable {lib : Pigpio} {bridge : Tb6612fng} {Refused : ℕ → Prop} {s : Machine}

/-- A call and the check of its answer. -/
theorem attempt_checked {α : Type} {r : Request} {f : Answer → Action α} {v : α}
    {Q : α → Machine → Prop} {E : ℕ → Thrown → Machine → Prop}
    (hok : ¬ Refused s.made → (f (lib s.made)).run (s.record ⟨r, lib s.made⟩) =
      .ok v (s.record ⟨r, lib s.made⟩) ∧ Q v (s.record ⟨r, lib s.made⟩))
    (herror : Refused s.made → ∃ e, (f (lib s.made)).run (s.record ⟨r, lib s.made⟩) =
      .error e (s.record ⟨r, lib s.made⟩) ∧ E s.made e (s.record ⟨r, lib s.made⟩)) :
    Attempt Machine.made Refused (call lib r >>= f) s 1 Q E := by
  have hbind : (call lib r >>= f).run s = (f (lib s.made)).run (s.record ⟨r, lib s.made⟩) := by
    rw [EStateM.run_bind, call_run]
  by_cases hrefused : Refused s.made
  · obtain ⟨e, hrun, hE⟩ := herror hrefused
    exact attempt_error (hbind.trans hrun) Nat.zero_lt_one hrefused
      (fun i hi => absurd hi (Nat.not_lt_zero i)) hE
  · obtain ⟨hrun, hQ⟩ := hok hrefused
    refine attempt_ok (hbind.trans hrun) rfl ?_ hQ
    intro j hj
    obtain rfl : j = 0 := by omega
    exact hrefused

/-- The check that an answer is 0. -/
theorem attempt_zero {r : Request} {message : Answer → String}
    {Q : Unit → Machine → Prop} {E : ℕ → Thrown → Machine → Prop}
    (hrefused : Refused s.made ↔ (lib s.made).ret ≠ 0)
    (hQ : (lib s.made).ret = 0 → Q () (s.record ⟨r, lib s.made⟩))
    (hE : ∀ e : Thrown, e.IsGpio → (lib s.made).ret ≠ 0 → E s.made e (s.record ⟨r, lib s.made⟩)) :
    Attempt Machine.made Refused (do
      let answer ← call lib r
      if 0 ≠ answer.ret then throw (.gpioException (message answer))) s 1 Q E := by
  apply attempt_checked
  · intro h
    have hret : (lib s.made).ret = 0 := by
      by_contra hret
      exact h (hrefused.mpr hret)
    rw [if_neg (by simp [hret])]
    exact ⟨rfl, hQ hret⟩
  · intro h
    have hret := hrefused.mp h
    rw [if_pos (Ne.symm hret)]
    exact ⟨_, rfl, hE _ ⟨_, rfl⟩ hret⟩

theorem setLevel_attempt (pin : Pin) (level : ℕ)
    (hrefused : Refused s.made ↔ (lib s.made).ret ≠ 0) :
    Attempt Machine.made Refused (bridge.setLevel lib pin level) s 1
      (fun _ t => Wrote s pin level t) (fun _ e t => CutShort s e t) := by
  unfold Tb6612fng.setLevel
  apply attempt_zero hrefused
  · exact record_gpioWrite pin level
  · intro e he hret
    obtain ⟨hduty, hlevel⟩ := record_refused (s := s) (.gpioWrite pin level) hret
    exact ⟨he, hduty, congrFun hlevel .stby⟩

variable {motor : Motor} {direction : Tb6612fng.Direction} {duty : ℕ}

theorem setDuty_attempt (hduty : duty ≤ 100)
    (hrefused : Refused s.made ↔ (lib s.made).ret ≠ 0) :
    Attempt Machine.made Refused (bridge.setDuty lib motor duty) s 1
      (fun _ t => t.encoders = s.encoders ∧
        t.dutycycle = Function.update s.dutycycle motor (duty * 10000) ∧ t.level = s.level)
      (fun _ e t => CutShort s e t) := by
  unfold Tb6612fng.setDuty
  rw [if_neg (not_not.mpr hduty)]
  beta_reduce
  apply attempt_zero hrefused
  · intro hret
    exact ⟨rfl, record_gpioHardwarePWM motor bridge.freq (duty * 10000) hret⟩
  · intro e he hret
    obtain ⟨hduty, hlevel⟩ :=
      record_refused (s := s) (.gpioHardwarePWM motor bridge.freq (duty * 10000)) hret
    exact ⟨he, hduty, congrFun hlevel .stby⟩

theorem setDirection_attempt
    (hrefused : ∀ j < 2, Refused (s.made + j) ↔ (lib (s.made + j)).ret ≠ 0) :
    Attempt Machine.made Refused (bridge.setDirection lib motor direction) s 2
      (fun _ t => Directed s motor direction t) (fun _ e t => CutShort s e t) := by
  apply (setLevel_attempt (.in1 motor) direction.level (hrefused 0 (by decide))).bind 1 rfl
  intro _ t hmade hfirst
  have hsecond : Refused t.made ↔ (lib t.made).ret ≠ 0 := by
    rw [hmade]
    exact hrefused 1 (by decide)
  apply (setLevel_attempt (.in2 motor) ((direction.level + 1) % 2) hsecond).mono
  · intro _ u hwrote
    constructor
    · rw [hwrote.encoders, hfirst.encoders]
    · rw [hwrote.dutycycle, hfirst.dutycycle]
    · rw [hwrote.level, hfirst.level]
  · intro j _ e u hcut
    constructor
    · exact hcut.thrown
    · rw [hcut.dutycycle, hfirst.dutycycle]
    · rw [hcut.stby, hfirst.level]
      rfl

/-- A direction and a duty for a motor. -/
theorem command_attempt (hduty : duty ≤ 100)
    (hrefused : ∀ j < 3, Refused (s.made + j) ↔ (lib (s.made + j)).ret ≠ 0) :
    Attempt Machine.made Refused (do
      bridge.setDirection lib motor direction
      bridge.setDuty lib motor duty) s 3
      (fun _ t => Commanded s motor direction duty t) (fun _ e t => CutShort s e t) := by
  apply (setDirection_attempt fun j hj => hrefused j (by omega)).bind 1 rfl
  intro _ t hmade hdirected
  have hlast : Refused t.made ↔ (lib t.made).ret ≠ 0 := by
    rw [hmade]
    exact hrefused 2 (by decide)
  apply (setDuty_attempt hduty hlast).mono
  · intro _ u hset
    obtain ⟨hencoders, hdutycycle, hlevel⟩ := hset
    constructor
    · rw [hencoders, hdirected.encoders]
    · rw [hdutycycle, hdirected.dutycycle]
    · rw [hlevel, hdirected.level]
  · intro j _ e u hcut
    constructor
    · exact hcut.thrown
    · rw [hcut.dutycycle, hdirected.dutycycle]
    · rw [hcut.stby, hdirected.stby]

theorem turnTowards_attempt (hduty : duty ≤ 100)
    (hrefused : ∀ j < 3, Refused (s.made + j) ↔ (lib (s.made + j)).ret ≠ 0) :
    Attempt Machine.made Refused (PanTiltMotors.turnTowards lib bridge motor direction duty) s 3
      (fun _ t => Commanded s motor direction duty t) (fun _ e t => CutShort s e t) := by
  unfold PanTiltMotors.turnTowards
  rw [if_neg (not_not.mpr hduty)]
  exact command_attempt hduty hrefused

/-- The direction of a signed duty. -/
def Tb6612fng.Direction.ofDuty (duty : ℤ) : Tb6612fng.Direction := if duty < 0 then .ccw else .cw

theorem turn_attempt {duty : ℤ} (hduty : -100 ≤ duty ∧ duty ≤ 100)
    (hrefused : ∀ j < 3, Refused (s.made + j) ↔ (lib (s.made + j)).ret ≠ 0) :
    Attempt Machine.made Refused (PanTiltMotors.turn lib bridge motor duty) s 3
      (fun _ t => Commanded s motor (.ofDuty duty) duty.natAbs t)
      (fun _ e t => CutShort s e t) := by
  unfold PanTiltMotors.turn
  rw [if_neg (not_not.mpr hduty)]
  exact command_attempt (by omega) hrefused

end Commands

section Frames
variable {s t : Machine} {motor : Motor} {direction : Tb6612fng.Direction} {duty : ℕ}

/-- Nothing of a motor and of its encoder has changed. -/
structure Untouched (s t : Machine) (motor : Motor) : Prop where
  encoder : t.encoders motor = s.encoders motor
  dutycycle : t.dutycycle motor = s.dutycycle motor
  in1 : t.level (.in1 motor) = s.level (.in1 motor)
  in2 : t.level (.in2 motor) = s.level (.in2 motor)

theorem Untouched.driven (h : Untouched s t motor)
    (hdriven : s.Driven motor direction) : t.Driven motor direction where
  duty := h.dutycycle.trans_ne hdriven.duty
  in1 := h.in1.trans hdriven.in1
  in2 := h.in2.trans hdriven.in2

theorem Commanded.dutycycle_eq (h : Commanded s motor direction duty t) :
    t.dutycycle motor = duty * 10000 := by
  rw [h.dutycycle]
  exact Function.update_self _ _ _

theorem Commanded.driven (h : Commanded s motor direction duty t) (hduty : duty ≠ 0) :
    t.Driven motor direction where
  duty := by
    rw [h.dutycycle_eq]
    omega
  in1 := by
    rw [h.level, Function.update_of_ne (by simp)]
    exact Function.update_self _ _ _
  in2 := by
    rw [h.level]
    exact Function.update_self _ _ _

theorem Commanded.untouched (h : Commanded s motor direction duty t) {other : Motor}
    (hother : other ≠ motor) : Untouched s t other where
  encoder := congrFun h.encoders other
  dutycycle := by
    rw [h.dutycycle]
    exact Function.update_of_ne hother _ _
  in1 := by
    rw [h.level, Function.update_of_ne (by simp), Function.update_of_ne (by simpa using hother)]
  in2 := by
    rw [h.level, Function.update_of_ne (by simpa using hother), Function.update_of_ne (by simp)]

end Frames

end Rckam.Tracker
