import Rckam.Tracker.Commands
import Rckam.Tracker.Controller

/-! How `Controller::run` leaves the motors when it returns and when it throws. The calls of
pigpio that it makes are numbered: 31 before its loop, and 18 in every iteration. -/
namespace Rckam.Tracker.Controller
open Attempts
open Tb6612fng (Motor)

section Calls
variable (lib : Pigpio)

/-- The joystick's value in an iteration that the pan motor turns by. -/
def xAt (i : ℕ) : ℤ := Joystick.direction (lib (31 + 18 * i + 3)).value

/-- The joystick's value in an iteration that the tilt motor turns by. -/
def yAt (i : ℕ) : ℤ := Joystick.direction (lib (31 + 18 * i + 7)).value

/-- The switch is found pressed at the end of an iteration. -/
def PressedAt (i : ℕ) : Prop := (lib (31 + 18 * i + 17)).value = 0

/-- The calls that read the ADC. -/
def IsTransfer (k : ℕ) : Prop :=
  31 ≤ k ∧ ((k - 31) % 18 < 4 ∨ (k - 31) % 18 = 7 ∨ (k - 31) % 18 = 17)

instance decidableIsTransfer (k : ℕ) : Decidable (IsTransfer k) :=
  inferInstanceAs (Decidable (_ ∧ _))

/-- A call is refused when its answer makes the code throw: that of `drive` never does. -/
def Refused (k : ℕ) : Prop :=
  k ≠ 0 ∧ (IsTransfer k ∧ (lib k).ret ≠ 3 ∨ ¬ IsTransfer k ∧ (lib k).ret ≠ 0)

instance decidableRefused (k : ℕ) : Decidable (Refused lib k) :=
  inferInstanceAs (Decidable (_ ∧ _))

/-- The calls of an iteration that are made while a motor turns. -/
def MovingIn (x y : ℤ) (j : ℕ) : Prop :=
  7 ≤ j ∧ j < 11 ∧ x ≠ 0 ∨ 11 ≤ j ∧ j < 14 ∧ (x ≠ 0 ∨ y ≠ 0) ∨ 14 ≤ j ∧ j < 17 ∧ y ≠ 0

/-- The calls that are made while a motor turns: those that stop one of the four motions before
the loop, and calls of an iteration. -/
def Moving (k : ℕ) : Prop :=
  10 ≤ k ∧ k < 13 ∨ 16 ≤ k ∧ k < 19 ∨ 22 ≤ k ∧ k < 25 ∨ 28 ≤ k ∧ k < 31 ∨
    31 ≤ k ∧ MovingIn (xAt lib ((k - 31) / 18)) (yAt lib ((k - 31) / 18)) ((k - 31) % 18)

/-- The first call that is refused, in a run that has not been ended by the switch before. -/
structure Fails (k : ℕ) : Prop where
  refused : Refused lib k
  first : ∀ j < k, ¬ Refused lib j
  running : ∀ i, 31 + 18 * (i + 1) ≤ k → ¬ PressedAt lib i

/-- When `run` returns or throws, the H-bridge is in standby or no motor turns. -/
def NeverLeftDriven (c : Controller) : Prop :=
  ∀ n t, (c.run lib n).run c.initial = .ok true t ∨
      (∃ message, (c.run lib n).run c.initial = .error (.gpioException message) t) →
    t.level .stby = some 0 ∨ ∀ motor, t.dutycycle motor = 0

end Calls

section Iterations
variable {lib : Pigpio} {i j : ℕ}

theorem moving_iteration (hj : j < 18) :
    Moving lib (31 + 18 * i + j) ↔ MovingIn (xAt lib i) (yAt lib i) j := by
  have hdiv : (31 + 18 * i + j - 31) / 18 = i := by omega
  have hmod : (31 + 18 * i + j - 31) % 18 = j := by omega
  unfold Moving
  rw [hdiv, hmod]
  have hlarge : 31 ≤ 31 + 18 * i + j := by omega
  constructor
  · rintro (h | h | h | h | ⟨-, h⟩)
    · omega
    · omega
    · omega
    · omega
    · exact h
  · intro h
    exact Or.inr (Or.inr (Or.inr (Or.inr ⟨hlarge, h⟩)))

theorem transfer_iteration (hj : j < 18) :
    IsTransfer (31 + 18 * i + j) ↔ j < 4 ∨ j = 7 ∨ j = 17 := by
  have hmod : (31 + 18 * i + j - 31) % 18 = j := by omega
  unfold IsTransfer
  rw [hmod]
  omega

end Iterations

/-- What is known behind every call: the duty cycles, and that there is no standby. -/
structure Running (s : Machine) (duties : Motor → ℕ) : Prop where
  dutycycle : s.dutycycle = duties
  stby : s.level .stby ≠ some 0

/-- The exception at a call, and what it leaves. -/
structure Left (lib : Pigpio) (k : ℕ) (e : Thrown) (t : Machine) : Prop where
  thrown : e.IsGpio
  stby : t.level .stby ≠ some 0
  still : (∀ motor, t.dutycycle motor = 0) ↔ ¬ Moving lib k

/-- The duty cycles of the two motors for duties in percent. -/
def duties (pan tilt : ℕ) : Motor → ℕ
  | .a => pan * 10000
  | .b => tilt * 10000

theorem duties_pan (pan tilt duty : ℕ) :
    Function.update (duties pan tilt) .a (duty * 10000) = duties duty tilt := by
  funext motor
  cases motor <;> rfl

theorem duties_tilt (pan tilt duty : ℕ) :
    Function.update (duties pan tilt) .b (duty * 10000) = duties pan duty := by
  funext motor
  cases motor <;> rfl

theorem duties_eq_zero (pan tilt : ℕ) :
    (∀ motor, duties pan tilt motor = 0) ↔ pan = 0 ∧ tilt = 0 := by
  constructor
  · intro h
    have hpan : pan * 10000 = 0 := h .a
    have htilt : tilt * 10000 = 0 := h .b
    omega
  · rintro ⟨rfl, rfl⟩ motor
    cases motor <;> rfl

section Steps
variable {lib : Pigpio} {bridge : Tb6612fng} {s : Machine} {D D' : Motor → ℕ}

theorem Running.left (h : Running s D) {k : ℕ} (hmoving : (∀ motor, D motor = 0) ↔ ¬ Moving lib k)
    {e : Thrown} {t : Machine} (hcut : CutShort s e t) : Left lib k e t where
  thrown := hcut.thrown
  stby := by
    rw [hcut.stby]
    exact h.stby
  still := by
    rw [hcut.dutycycle, h.dutycycle]
    exact hmoving

theorem Running.commanded (h : Running s D) {motor : Motor} {direction : Tb6612fng.Direction}
    {duty : ℕ} {t : Machine} (hcommanded : Commanded s motor direction duty t) 
    (hD : Function.update D motor (duty * 10000) = D') : Running t D' where
  dutycycle := by
    rw [hcommanded.dutycycle, h.dutycycle]
    exact hD
  stby := by
    rw [hcommanded.level]
    exact h.stby

/-- Three calls that write, while the motors turn as `D` says. -/
def Writes (lib : Pigpio) (D : Motor → ℕ) (k : ℕ) : Prop :=
  ∀ j < 3, k + j ≠ 0 ∧ ¬ IsTransfer (k + j) ∧ ((∀ motor, D motor = 0) ↔ ¬ Moving lib (k + j))

theorem Writes.refused {k j : ℕ} (h : Writes lib D k) (hj : j < 3) :
    Refused lib (k + j) ↔ (lib (k + j)).ret ≠ 0 := by
  obtain ⟨hne, htransfer, -⟩ := h j hj
  constructor
  · rintro ⟨-, ⟨hread, -⟩ | ⟨-, hret⟩⟩
    · exact absurd hread htransfer
    · exact hret
  · intro hret
    exact ⟨hne, Or.inr ⟨htransfer, hret⟩⟩

theorem turn_left (h : Running s D) {motor : Motor} {duty : ℤ} (hduty : -100 ≤ duty ∧ duty ≤ 100)
    (hwrites : Writes lib D s.made) (hD : Function.update D motor (duty.natAbs * 10000) = D') :
    Attempt Machine.made (Refused lib) (PanTiltMotors.turn lib bridge motor duty) s 3
      (fun _ t => Running t D') (Left lib) :=
  (turn_attempt hduty fun _ hj => hwrites.refused hj).mono
    (fun _ _ hcommanded => h.commanded hcommanded hD)
    (fun j hj _ _ hcut => h.left (hwrites j hj).2.2 hcut)

theorem turnTowards_left (h : Running s D) {motor : Motor} {direction : Tb6612fng.Direction}
    {duty : ℕ} (hduty : duty ≤ 100) (hwrites : Writes lib D s.made)
    (hD : Function.update D motor (duty * 10000) = D') :
    Attempt Machine.made (Refused lib) (PanTiltMotors.turnTowards lib bridge motor direction duty)
      s 3 (fun _ t => Running t D') (Left lib) :=
  (turnTowards_attempt hduty fun _ hj => hwrites.refused hj).mono
    (fun _ _ hcommanded => h.commanded hcommanded hD)
    (fun j hj _ _ hcut => h.left (hwrites j hj).2.2 hcut)

theorem refused_transfer {k : ℕ} (htransfer : IsTransfer k) :
    Refused lib k ↔ (lib k).ret ≠ 3 := by
  constructor
  · rintro ⟨-, ⟨-, hret⟩ | ⟨hwrite, -⟩⟩
    · exact hret
    · exact absurd htransfer hwrite
  · intro hret
    have hlarge : 31 ≤ k := htransfer.1
    exact ⟨by omega, Or.inl ⟨htransfer, hret⟩⟩

/-- The value that a read returns, and the exception when it is refused. -/
theorem read_left (h : Running s D) {adc : Mcp3008} {channel : ℕ} (hchannel : channel < 8)
    (htransfer : IsTransfer s.made) (hmoving : (∀ motor, D motor = 0) ↔ ¬ Moving lib s.made) :
    Attempt Machine.made (Refused lib) (adc.read lib channel) s 1
      (fun v t => v = (lib s.made).value ∧ Running t D) (Left lib) := by
  have hmask : channel = channel &&& 7 :=
    ((Nat.and_two_pow_sub_one_eq_mod channel 3).trans (Nat.mod_eq_of_lt hchannel)).symm
  unfold Mcp3008.read
  rw [if_neg (not_not.mpr hmask)]
  beta_reduce
  obtain ⟨hduty, hlevel⟩ := record_spiXfer (s := s) (a := lib s.made) adc.spi
    [1, .ofNat ((8 ||| channel) <<< 4), 0]
  apply attempt_checked
  · intro haccepted
    have hret : (lib s.made).ret = 3 := by
      by_contra hret
      exact haccepted ((refused_transfer htransfer).mpr hret)
    rw [if_neg (by simp [hret])]
    refine ⟨rfl, rfl, hduty.trans h.dutycycle, ?_⟩
    rw [hlevel]
    exact h.stby
  · intro hrefused
    rw [if_pos (Ne.symm ((refused_transfer htransfer).mp hrefused))]
    exact ⟨_, rfl, h.left hmoving ⟨⟨_, rfl⟩, hduty, congrFun hlevel .stby⟩⟩

end Steps

/-! ### Before the loop -/

section Start
variable {lib : Pigpio} {c : Controller} {s : Machine}

/-- What `gpioWrite` returns for STBY is not looked at. -/
theorem drive_left : Attempt Machine.made (Refused lib) (Tb6612fng.drive lib) c.initial 1
    (fun _ t => Running t (duties 0 0)) (Left lib) := by
  have hrun : (Tb6612fng.drive lib).run c.initial =
      .ok () (c.initial.record ⟨.gpioWrite .stby 1, lib 0⟩) := rfl
  refine attempt_ok hrun rfl ?_ ⟨?_, ?_⟩
  · intro j hj hrefused
    obtain rfl : j = 0 := by omega
    exact hrefused.1 rfl
  · funext motor
    cases motor <;> rfl
  · rw [Machine.record_level]
    by_cases hret : (lib 0).ret = 0
    · simp [Call.level, hret]
    · simp [Call.level, hret, initial, Machine.initial, Machine.level]

/-- The calls before the loop that are made while a motor turns. -/
theorem moving_start {k : ℕ} (hk : k < 31) :
    Moving lib k ↔ 10 ≤ k ∧ k < 13 ∨ 16 ≤ k ∧ k < 19 ∨ 22 ≤ k ∧ k < 25 ∨ 28 ≤ k := by
  unfold Moving
  constructor
  · rintro (h | h | h | h | ⟨h, -⟩)
    all_goals omega
  · intro h
    omega

theorem writes_start (lib : Pigpio) (pan tilt k : ℕ) (hmade : s.made = k) (hk : 1 ≤ k ∧ k + 3 ≤ 31)
    (hmoving : ∀ j < 3, (pan = 0 ∧ tilt = 0) ↔ ¬ (10 ≤ k + j ∧ k + j < 13 ∨
      16 ≤ k + j ∧ k + j < 19 ∨ 22 ≤ k + j ∧ k + j < 25 ∨ 28 ≤ k + j)) :
    Writes lib (duties pan tilt) s.made := by
  intro j hj
  rw [hmade]
  refine ⟨by omega, fun htransfer => ?_, ?_⟩
  · have hlarge := htransfer.1
    omega
  · rw [duties_eq_zero, moving_start (by omega)]
    exact hmoving j hj

theorem start_left : Attempt Machine.made (Refused lib) (c.start lib) c.initial 31
    (fun _ t => Running t (duties 0 0)) (Left lib) := by
  have h0 : c.initial.made = 0 := rfl
  have hzero : (-100 : ℤ) ≤ 0 ∧ (0 : ℤ) ≤ 100 := by decide
  have hhalf : 50 ≤ 100 := by decide
  unfold start
  apply drive_left.bind 30 rfl
  intro _ t1 h1 r1
  have w1 := writes_start lib 0 0 1 (by omega : t1.made = 1) (by decide) (by decide)
  apply (turn_left r1 hzero w1 (duties_pan _ _ _)).bind 27 rfl
  intro _ t2 h2 r2
  have w2 := writes_start lib 0 0 4 (by omega : t2.made = 4) (by decide) (by decide)
  apply (turn_left r2 hzero w2 (duties_pan _ _ _)).bind 24 rfl
  intro _ t3 h3 r3
  have w3 := writes_start lib 0 0 7 (by omega : t3.made = 7) (by decide) (by decide)
  apply (turnTowards_left r3 hhalf w3 (duties_pan _ _ _)).bind 21 rfl
  intro _ t4 h4 r4
  have w4 := writes_start lib 50 0 10 (by omega : t4.made = 10) (by decide) (by decide)
  apply (turn_left r4 hzero w4 (duties_pan _ _ _)).bind 18 rfl
  intro _ t5 h5 r5
  have w5 := writes_start lib 0 0 13 (by omega : t5.made = 13) (by decide) (by decide)
  apply (turnTowards_left r5 hhalf w5 (duties_pan _ _ _)).bind 15 rfl
  intro _ t6 h6 r6
  have w6 := writes_start lib 50 0 16 (by omega : t6.made = 16) (by decide) (by decide)
  apply (turn_left r6 hzero w6 (duties_pan _ _ _)).bind 12 rfl
  intro _ t7 h7 r7
  have w7 := writes_start lib 0 0 19 (by omega : t7.made = 19) (by decide) (by decide)
  apply (turnTowards_left r7 hhalf w7 (duties_tilt _ _ _)).bind 9 rfl
  intro _ t8 h8 r8
  have w8 := writes_start lib 0 50 22 (by omega : t8.made = 22) (by decide) (by decide)
  apply (turn_left r8 hzero w8 (duties_tilt _ _ _)).bind 6 rfl
  intro _ t9 h9 r9
  have w9 := writes_start lib 0 0 25 (by omega : t9.made = 25) (by decide) (by decide)
  apply (turnTowards_left r9 hhalf w9 (duties_tilt _ _ _)).bind 3 rfl
  intro _ t10 h10 r10
  have w10 := writes_start lib 0 50 28 (by omega : t10.made = 28) (by decide) (by decide)
  exact turn_left r10 hzero w10 (duties_tilt _ _ _)

end Start

/-! ### An iteration of the loop -/

theorem value_lt (a : Answer) : a.value < 1024 := by
  unfold Answer.value
  have hhigh : (a.byte1.toNat &&& 3) <<< 8 < 2 ^ 10 := by
    have hmask : a.byte1.toNat &&& 3 ≤ 3 := Nat.and_le_right
    rw [Nat.shiftLeft_eq]
    omega
  have hlow : a.byte2.toNat < 2 ^ 10 := by
    have hbyte := a.byte2.toNat_lt
    omega
  exact Nat.or_lt_two_pow hhigh hlow

theorem round_bounds {numerator : ℤ} (hlow : -(100 * 512) ≤ numerator)
    (hhigh : numerator ≤ 100 * 512) :
    -100 ≤ Joystick.round numerator 512 ∧ Joystick.round numerator 512 ≤ 100 := by
  unfold Joystick.round
  split
  · omega
  · omega

/-- The joystick asks for a duty that a motor accepts. -/
theorem direction_bounds (a : Answer) :
    -100 ≤ Joystick.direction a.value ∧ Joystick.direction a.value ≤ 100 := by
  have hlt := value_lt a
  have hround : -100 ≤ Joystick.round (20 * ((a.value : ℤ) - (512 : ℕ))) 512 ∧
      Joystick.round (20 * ((a.value : ℤ) - (512 : ℕ))) 512 ≤ 100 :=
    round_bounds (by omega) (by omega)
  show -100 ≤ (if _ then _ else (0 : ℤ)) ∧ (if _ then _ else (0 : ℤ)) ≤ 100
  split
  · exact hround
  · decide

section Iteration
variable {lib : Pigpio} {c : Controller} {s : Machine} {D : Motor → ℕ}

theorem direction_left (h : Running s D) {joystick : Joystick} {channel : ℕ}
    (hchannel : channel < 8)
    (htransfer : IsTransfer s.made) (hmoving : (∀ motor, D motor = 0) ↔ ¬ Moving lib s.made) :
    Attempt Machine.made (Refused lib) (joystick.directionValue lib channel) s 1
      (fun v t => v = Joystick.direction (lib s.made).value ∧ Running t D) (Left lib) := by
  apply (read_left h hchannel htransfer hmoving).bind 0 rfl
  rintro v t - ⟨rfl, hrunning⟩
  exact attempt_pure ⟨rfl, hrunning⟩

/-- The calls of an iteration that set a motor. -/
theorem writes_iteration (lib : Pigpio) (pan tilt i o : ℕ) (hmade : s.made = 31 + 18 * i + o)
    (hwrite : ∀ j < 3, o + j < 18 ∧ ¬ (o + j < 4 ∨ o + j = 7 ∨ o + j = 17))
    (hmoving : ∀ j < 3, (pan = 0 ∧ tilt = 0) ↔ ¬ MovingIn (xAt lib i) (yAt lib i) (o + j)) :
    Writes lib (duties pan tilt) s.made := by
  intro j hj
  obtain ⟨hlast, hwrite⟩ := hwrite j hj
  rw [hmade, Nat.add_assoc]
  refine ⟨by omega, ?_, ?_⟩
  · rw [transfer_iteration hlast]
    exact hwrite
  · rw [duties_eq_zero, moving_iteration hlast]
    exact hmoving j hj

/-- The calls of an iteration that read the ADC. -/
theorem reads_iteration (lib : Pigpio) (pan tilt i o : ℕ) (hmade : s.made = 31 + 18 * i + o)
    (ho : o < 18) (hread : o < 4 ∨ o = 7 ∨ o = 17)
    (hmoving : (pan = 0 ∧ tilt = 0) ↔ ¬ MovingIn (xAt lib i) (yAt lib i) o) :
    IsTransfer s.made ∧ ((∀ motor, duties pan tilt motor = 0) ↔ ¬ Moving lib s.made) := by
  rw [hmade, transfer_iteration ho, duties_eq_zero, moving_iteration ho]
  exact ⟨hread, hmoving⟩

theorem iteration_left (i : ℕ) (hmade : s.made = 31 + 18 * i) (h : Running s (duties 0 0)) :
    Attempt Machine.made (Refused lib) (c.iteration lib) s 18
      (fun pressed t => (pressed = true ↔ PressedAt lib i) ∧ Running t (duties 0 0))
      (Left lib) := by
  unfold iteration
  obtain ⟨k0, m0⟩ := reads_iteration lib 0 0 i 0 hmade (by decide) (by decide)
    (by simp [MovingIn])
  apply (read_left h c.joystick.switch_lt k0 m0).bind 17 rfl
  rintro _ t1 h1 ⟨-, r1⟩
  obtain ⟨k1, m1⟩ := reads_iteration lib 0 0 i 1 (by omega : t1.made = _) (by decide) (by decide)
    (by simp [MovingIn])
  apply (direction_left r1 c.joystick.vrx_lt k1 m1).bind 16 rfl
  rintro _ t2 h2 ⟨-, r2⟩
  obtain ⟨k2, m2⟩ := reads_iteration lib 0 0 i 2 (by omega : t2.made = _) (by decide) (by decide)
    (by simp [MovingIn])
  apply (direction_left r2 c.joystick.vry_lt k2 m2).bind 15 rfl
  rintro _ t3 h3 ⟨-, r3⟩
  obtain ⟨k3, m3⟩ := reads_iteration lib 0 0 i 3 (by omega : t3.made = _) (by decide) (by decide)
    (by simp [MovingIn])
  apply (direction_left r3 c.joystick.vrx_lt k3 m3).bind 14 rfl
  rintro x t4 h4 ⟨hx, r4⟩
  obtain rfl : x = xAt lib i := by
    rw [hx, (by omega : t3.made = 31 + 18 * i + 3)]
    rfl
  have w4 := writes_iteration lib 0 0 i 4 (by omega : t4.made = _) (by decide)
    (by intro j hj; unfold MovingIn; omega)
  apply (turn_left r4 (direction_bounds _) w4 (duties_pan _ _ _)).bind 11 rfl
  intro _ t5 h5 r5
  obtain ⟨k5, m5⟩ := reads_iteration lib (xAt lib i).natAbs 0 i 7 (by omega : t5.made = _)
    (by decide) (by decide) (by unfold MovingIn; omega)
  apply (direction_left r5 c.joystick.vry_lt k5 m5).bind 10 rfl
  rintro y t6 h6 ⟨hy, r6⟩
  obtain rfl : y = yAt lib i := by
    rw [hy, (by omega : t5.made = 31 + 18 * i + 7)]
    rfl
  have w6 := writes_iteration lib (xAt lib i).natAbs 0 i 8 (by omega : t6.made = _) (by decide)
    (by intro j hj; unfold MovingIn; omega)
  apply (turn_left r6 (direction_bounds _) w6 (duties_tilt _ _ _)).bind 7 rfl
  intro _ t7 h7 r7
  have w7 := writes_iteration lib (xAt lib i).natAbs (yAt lib i).natAbs i 11
    (by omega : t7.made = _) (by decide) (by intro j hj; unfold MovingIn; omega)
  apply (turn_left r7 (by decide) w7 (duties_pan _ _ _)).bind 4 rfl
  intro _ t8 h8 r8
  have w8 := writes_iteration lib 0 (yAt lib i).natAbs i 14 (by omega : t8.made = _) (by decide)
    (by intro j hj; unfold MovingIn; omega)
  apply (turn_left r8 (by decide) w8 (duties_tilt _ _ _)).bind 1 rfl
  intro _ t9 h9 r9
  obtain ⟨k9, m9⟩ := reads_iteration lib 0 0 i 17 (by omega : t9.made = _) (by decide) (by decide)
    (by simp [MovingIn])
  apply (read_left r9 c.joystick.switch_lt k9 m9).bind 0 rfl
  rintro v t10 h10 ⟨rfl, r10⟩
  apply attempt_pure
  refine ⟨?_, r10⟩
  rw [(by omega : t9.made = 31 + 18 * i + 17), decide_eq_true_iff]
  exact eq_comm

end Iteration

/-! ### Whole runs -/

section Runs
variable {lib : Pigpio} {c : Controller} {s : Machine}

/-- How a part of `run` ends: the switch has been found pressed, or no call of `n` iterations has
been refused, or a call has. -/
inductive Ends (lib : Pigpio) (n : ℕ) : EStateM.Result Thrown Machine Bool → Prop where
  | pressed (t : Machine) (i : ℕ) (hpressed : PressedAt lib i)
      (haccepted : ∀ j < 31 + 18 * (i + 1), ¬ Refused lib j)
      (hstill : ∀ motor, t.dutycycle motor = 0) : Ends lib n (.ok true t)
  | unpressed (t : Machine) (haccepted : ∀ j < 31 + 18 * n, ¬ Refused lib j) :
      Ends lib n (.ok false t)
  | failed (k : ℕ) (e : Thrown) (t : Machine) (hfails : Fails lib k) (hleft : Left lib k e t) :
      Ends lib n (.error e t)

/-- The loop from an iteration on. -/
theorem loop_ends (n i : ℕ) (hmade : s.made = 31 + 18 * i) (h : Running s (duties 0 0))
    (haccepted : ∀ j < 31 + 18 * i, ¬ Refused lib j) (hpressed : ∀ j < i, ¬ PressedAt lib j) :
    Ends lib (i + n) ((c.loop lib n).run s) := by
  induction n generalizing s i with
  | zero => exact .unpressed s haccepted
  | succ n ih =>
    have hiteration : Attempt Machine.made (Refused lib) (c.iteration lib) s 18 _ _ :=
      iteration_left i hmade h
    rcases hiteration.cases with ⟨pressed, t, hrun, hmade', hnext, hvalue, hrunning⟩ |
      ⟨e, t, j, hrun, hj, hrefused, hfirst, hleft⟩
    · rw [hmade] at hnext
      have haccepted' : ∀ j < 31 + 18 * i + 18, ¬ Refused lib j := forall_lt_add haccepted hnext
      cases pressed with
      | true =>
        have hdone : (c.loop lib (n + 1)).run s = .ok true t := by
          rw [loop, EStateM.run_bind, hrun]
          rfl
        rw [hdone]
        refine .pressed t i (hvalue.mp rfl) haccepted' ?_
        rw [hrunning.dutycycle, duties_eq_zero]
        exact ⟨rfl, rfl⟩
      | false =>
        have hrest : (c.loop lib (n + 1)).run s = (c.loop lib n).run t := by
          rw [loop, EStateM.run_bind, hrun]
          rfl
        rw [hrest, (by omega : i + (n + 1) = i + 1 + n)]
        refine ih (i + 1) (by omega) hrunning haccepted' ?_
        intro j hj hpressedAt
        by_cases hlt : j < i
        · exact hpressed j hlt hpressedAt
        · obtain rfl : j = i := by omega
          exact Bool.false_ne_true (hvalue.mpr hpressedAt)
    · have herror : (c.loop lib (n + 1)).run s = .error e t := by
        rw [loop, EStateM.run_bind, hrun]
      rw [herror]
      rw [hmade] at hrefused hfirst hleft
      refine .failed _ e t ⟨hrefused, forall_lt_add haccepted hfirst, fun k hk => ?_⟩ hleft
      exact hpressed k (by omega)

theorem run_ends (n : ℕ) : Ends lib n ((c.run lib n).run c.initial) := by
  have hstart : Attempt Machine.made (Refused lib) (c.start lib) c.initial 31 _ _ := start_left
  have h0 : c.initial.made = 0 := rfl
  rcases hstart.cases with ⟨_, t, hrun, hmade, haccepted, hrunning⟩ |
    ⟨e, t, j, hrun, hj, hrefused, hfirst, hleft⟩
  · simp only [h0, Nat.zero_add] at haccepted
    have hloop : Ends lib (0 + n) ((c.loop lib n).run t) :=
      loop_ends n 0 (by omega) hrunning haccepted fun j hj => absurd hj (Nat.not_lt_zero j)
    rw [Nat.zero_add] at hloop
    have hrest : (c.run lib n).run c.initial =
        ((c.loop lib n >>= fun done => if done then Tb6612fng.standby lib >>= fun _ => pure true
          else pure false) : Action Bool).run t := by
      rw [run, EStateM.run_bind, hrun]
    rw [hrest, EStateM.run_bind]
    generalize (c.loop lib n).run t = r at hloop ⊢
    cases hloop with
    | pressed u i hpressed haccepted' hstill => exact .pressed _ i hpressed haccepted' hstill
    | unpressed u haccepted' => exact .unpressed u haccepted'
    | failed k e u hfails hleft => exact .failed k e u hfails hleft
  · have herror : (c.run lib n).run c.initial = .error e t := by
      rw [run, EStateM.run_bind, hrun]
    rw [herror]
    simp only [h0, Nat.zero_add] at hrefused hfirst hleft
    exact .failed j e t ⟨hrefused, hfirst, fun k hk => absurd hk (by omega)⟩ hleft

theorem Fails.unique {k k' : ℕ} (h : Fails lib k) (h' : Fails lib k') : k = k' := by
  rcases lt_trichotomy k k' with hlt | heq | hlt
  · exact absurd h.refused (h'.first k hlt)
  · exact heq
  · exact absurd h'.refused (h.first k' hlt)

theorem neverLeftDriven_of (hstill : ∀ k, Fails lib k → ¬ Moving lib k) :
    NeverLeftDriven lib c := by
  intro n t h
  right
  have hends : Ends lib n ((c.run lib n).run c.initial) := run_ends n
  rcases h with h | ⟨message, h⟩
  · rw [h] at hends
    cases hends with
    | pressed _ _ _ _ hstill => exact hstill
  · rw [h] at hends
    cases hends with
    | failed k _ _ hfails hleft => exact hleft.still.mpr (hstill k hfails)

/-- A call that fails while a motor turns leaves it turning. -/
theorem left_driven {k : ℕ} (hfails : Fails lib k) (hmoving : Moving lib k) :
    ¬ NeverLeftDriven lib c := by
  intro hnever
  have hends : Ends lib k ((c.run lib k).run c.initial) := run_ends k
  cases hrun : (c.run lib k).run c.initial with
  | ok done t =>
    rw [hrun] at hends
    cases hends with
    | pressed _ i hpressed haccepted hstill =>
      by_cases hlt : k < 31 + 18 * (i + 1)
      · exact haccepted k hlt hfails.refused
      · exact hfails.running i (by omega) hpressed
    | unpressed _ haccepted => exact haccepted k (by omega) hfails.refused
  | error e t =>
    rw [hrun] at hends
    cases hends with
    | failed k' _ _ hfails' hleft =>
      obtain rfl : k = k' := hfails.unique hfails'
      obtain ⟨message, rfl⟩ := hleft.thrown
      rcases hnever k t (Or.inr ⟨message, hrun⟩) with hstby | hstill
      · exact hleft.stby hstby
      · exact hleft.still.mp hstill hmoving

end Runs

/-- The motors are never left driven exactly when no call fails while one of them turns. -/
theorem neverLeftDriven_iff (lib : Pigpio) (c : Controller) :
    NeverLeftDriven lib c ↔ ∀ k, Fails lib k → ¬ Moving lib k := by
  constructor
  · intro hnever k hfails hmoving
    exact left_driven hfails hmoving hnever
  · exact neverLeftDriven_of

/-- The joystick is held to one side, and the second time that its other value is read the
transfer fails. -/
def heldAside : Pigpio := fun k =>
  if k = 38 then ⟨-1, 0, 0⟩ else if IsTransfer k then ⟨3, 3, 255⟩ else ⟨0, 0, 0⟩

/-- The options of the tracker by default. -/
def byDefault : Controller where
  bridge := defaultBridge
  panA := 2
  panB := 3
  tiltA := 19
  tiltB := 26
  joystick := ⟨⟨0⟩, 7, 6, 5, by decide, by decide, by decide⟩

theorem pan_left_driven : ¬ NeverLeftDriven heldAside byDefault := by
  have hfails : Fails heldAside 38 := by
    constructor
    · decide
    · decide
    · intro i hi
      omega
  have hmoving : Moving heldAside (31 + 18 * 0 + 7) := by
    rw [moving_iteration (by decide)]
    exact Or.inl ⟨by decide, by decide, by decide⟩
  exact left_driven hfails hmoving

end Rckam.Tracker.Controller
