import Rckam.Tracker.Commands

/-! The operations of `PanTiltMotors` one after the other, and the calls of pigpio that each of
them makes until one is refused. -/
namespace Rckam.Tracker
open Tb6612fng (Motor)

/-- The calls of pigpio that turn a motor, if none is refused. -/
def Tb6612fng.commandRequests (bridge : Tb6612fng) (motor : Motor) (direction : Direction)
    (duty : ℕ) : List Request :=
  [.gpioWrite (.in1 motor) direction.level, .gpioWrite (.in2 motor) ((direction.level + 1) % 2),
    .gpioHardwarePWM motor bridge.freq (duty * 10000)]

/-- A call of `pan` or `tilt`, by a signed duty or by a direction. -/
inductive Command where
  | turn (motor : Motor) (duty : ℤ) (valid : -100 ≤ duty ∧ duty ≤ 100)
  | towards (motor : Motor) (direction : Tb6612fng.Direction) (duty : ℕ) (valid : duty ≤ 100)

namespace Command

def motor : Command → Motor
  | .turn motor _ _ => motor
  | .towards motor _ _ _ => motor

/-- The direction that is asked for. -/
def direction : Command → Tb6612fng.Direction
  | .turn _ duty _ => .ofDuty duty
  | .towards _ direction _ _ => direction

/-- The duty that is asked for, without its sign. -/
def duty : Command → ℕ
  | .turn _ duty _ => duty.natAbs
  | .towards _ _ duty _ => duty

def perform (lib : Pigpio) (bridge : Tb6612fng) : Command → Action Unit
  | .turn .a duty _ => PanTiltMotors.pan lib bridge duty
  | .turn .b duty _ => PanTiltMotors.tilt lib bridge duty
  | .towards .a direction duty _ => PanTiltMotors.panTowards lib bridge direction duty
  | .towards .b direction duty _ => PanTiltMotors.tiltTowards lib bridge direction duty

/-- What `gotoPosition` asks of a motor. -/
def send (motor : Motor) (direction : Tb6612fng.Direction) : Command :=
  .towards motor direction 20 (by decide)

/-- The calls of pigpio that a command makes, if none is refused. -/
def requests (bridge : Tb6612fng) (c : Command) : List Request :=
  bridge.commandRequests c.motor c.direction c.duty

end Command

def Machine.setZero (s : Machine) : Machine :=
  { s with encoders := fun motor => (s.encoders motor).reset }

/-- What can happen to the motors: the calls of their methods, and the alerts. -/
inductive PanTiltMotors.Operation where
  | command (c : Command)
  | gotoPosition (pan tilt : ℤ)
  | setZero
  | drive
  | standby
  | alert (a : Alert)

def PanTiltMotors.Operation.perform (lib : Pigpio) (bridge : Tb6612fng) :
    PanTiltMotors.Operation → Action Unit
  | .command c => c.perform lib bridge
  | .gotoPosition pan tilt => PanTiltMotors.gotoPosition lib bridge pan tilt
  | .setZero => modify Machine.setZero
  | .drive => Tb6612fng.drive lib
  | .standby => Tb6612fng.standby lib
  | .alert a => Tracker.alert lib bridge a

/-- The state that a computation leaves, also when it throws. -/
def after (action : Action Unit) (s : Machine) : Machine :=
  match action.run s with
  | .ok _ t => t
  | .error _ t => t

/-- The state from which a run goes on. There is none when the computation has no defined
behaviour. -/
def left {σ : Type} (action : EStateM Thrown σ Unit) (s : σ) : Option σ :=
  match action.run s with
  | .ok _ t => some t
  | .error e t => if e = .undefined then none else some t

/-- Calls of pigpio up to the first that is refused. -/
def Machine.requestAll (lib : Pigpio) : List Request → Machine → Machine
  | [], s => s
  | r :: rest, s =>
      if (lib s.made).ret = 0 then requestAll lib rest (s.record ⟨r, lib s.made⟩)
      else s.record ⟨r, lib s.made⟩

/-- The next `n` calls succeed. -/
def Accepted (lib : Pigpio) (s : Machine) (n : ℕ) : Prop := ∀ j < n, (lib (s.made + j)).ret = 0

instance (lib : Pigpio) (s : Machine) (n : ℕ) : Decidable (Accepted lib s n) :=
  inferInstanceAs (Decidable (∀ j < n, _))

/-- A computation that makes these calls, and throws when one of them is refused. -/
def Requests (lib : Pigpio) (action : Action Unit) (rs : List Request) : Prop :=
  ∀ s, (Accepted lib s rs.length → action.run s = .ok () (s.requestAll lib rs)) ∧
    (¬ Accepted lib s rs.length → ∃ message,
      action.run s = .error (.gpioException message) (s.requestAll lib rs))

section Requested
variable {lib : Pigpio} {bridge : Tb6612fng} {s : Machine} {rs rs' : List Request}

theorem accepted_cons (n : ℕ) (r : Request) :
    Accepted lib s (n + 1) ↔ (lib s.made).ret = 0 ∧ Accepted lib (s.record ⟨r, lib s.made⟩) n := by
  constructor
  · intro h
    refine ⟨h 0 (Nat.succ_pos n), fun j hj => ?_⟩
    rw [Machine.record_made, Nat.add_assoc, Nat.add_comm 1 j]
    exact h (j + 1) (by omega)
  · rintro ⟨hfirst, hrest⟩ j hj
    cases j with
    | zero => exact hfirst
    | succ j =>
      have hnext := hrest j (by omega)
      rwa [Machine.record_made, Nat.add_assoc, Nat.add_comm 1 j] at hnext

theorem accepted_zero : Accepted lib s 0 := fun _ hj => absurd hj (Nat.not_lt_zero _)

theorem Accepted.mono {m n : ℕ} (h : Accepted lib s n) (hle : m ≤ n) : Accepted lib s m :=
  fun j hj => h j (by omega)

theorem requestAll_accepted {r : Request} (rest : List Request) (h : (lib s.made).ret = 0) :
    s.requestAll lib (r :: rest) = (s.record ⟨r, lib s.made⟩).requestAll lib rest := if_pos h

theorem requestAll_refused {r : Request} (rest : List Request) (h : (lib s.made).ret ≠ 0) :
    s.requestAll lib (r :: rest) = s.record ⟨r, lib s.made⟩ := if_neg h

theorem requestAll_made (h : Accepted lib s rs.length) :
    (s.requestAll lib rs).made = s.made + rs.length := by
  induction rs generalizing s with
  | nil => rfl
  | cons r rs ih =>
    obtain ⟨hfirst, hrest⟩ := (accepted_cons rs.length r).mp h
    rw [requestAll_accepted rs hfirst, ih hrest, Machine.record_made, List.length_cons]
    omega

/-- The calls of a second list follow when none of the first is refused. -/
theorem requestAll_append (rs rs' : List Request) :
    (Accepted lib s rs.length →
        s.requestAll lib (rs ++ rs') = (s.requestAll lib rs).requestAll lib rs') ∧
      (¬ Accepted lib s rs.length → s.requestAll lib (rs ++ rs') = s.requestAll lib rs) := by
  induction rs generalizing s with
  | nil => exact ⟨fun _ => rfl, fun h => absurd accepted_zero h⟩
  | cons r rs ih =>
    by_cases hfirst : (lib s.made).ret = 0
    · rw [List.cons_append, requestAll_accepted _ hfirst, requestAll_accepted _ hfirst,
        List.length_cons, accepted_cons rs.length r]
      simpa [hfirst] using ih (s := s.record ⟨r, lib s.made⟩)
    · rw [List.cons_append, requestAll_refused _ hfirst, requestAll_refused _ hfirst]
      refine ⟨fun h => absurd ((accepted_cons rs.length r).mp h).1 hfirst, fun _ => rfl⟩

theorem accepted_add (m n : ℕ) :
    Accepted lib s (m + n) ↔ Accepted lib s m ∧ ∀ j < n, (lib (s.made + m + j)).ret = 0 := by
  constructor
  · intro h
    refine ⟨h.mono (by omega), fun j hj => ?_⟩
    rw [Nat.add_assoc]
    exact h (m + j) (by omega)
  · rintro ⟨hfirst, hrest⟩
    apply Attempts.forall_lt_add hfirst
    intro j hj
    rw [← Nat.add_assoc]
    exact hrest j hj

theorem Requests.bind {a b : Action Unit} (ha : Requests lib a rs) (hb : Requests lib b rs') :
    Requests lib (do a; b) (rs ++ rs') := by
  intro s
  rw [List.length_append, accepted_add]
  by_cases h : Accepted lib s rs.length
  · have hnext : (∀ j < rs'.length, (lib (s.made + rs.length + j)).ret = 0) ↔
        Accepted lib (s.requestAll lib rs) rs'.length := by
      unfold Accepted
      rw [requestAll_made h]
    have hrun : (do a; b : Action Unit).run s = b.run (s.requestAll lib rs) := by
      rw [EStateM.run_bind, (ha s).1 h]
    rw [hnext, hrun, (requestAll_append rs rs').1 h]
    simpa [h] using hb (s.requestAll lib rs)
  · obtain ⟨e, hrun⟩ := (ha s).2 h
    rw [(requestAll_append rs rs').2 h]
    refine ⟨fun hboth => absurd hboth.1 h, fun _ => ⟨e, ?_⟩⟩
    rw [EStateM.run_bind, hrun]

/-- A call and the check that its answer is 0. -/
theorem requests_checked (r : Request) (message : Answer → String) :
    Requests lib (do
      let answer ← call lib r
      if 0 ≠ answer.ret then throw (.gpioException (message answer))) [r] := by
  intro s
  have hone : Accepted lib s [r].length ↔ (lib s.made).ret = 0 := by
    rw [List.length_singleton, accepted_cons 0 r]
    exact and_iff_left accepted_zero
  rw [hone]
  constructor
  · intro hret
    rw [EStateM.run_bind, call_run, requestAll_accepted [] hret]
    simp [hret, Machine.requestAll]
  · intro hret
    refine ⟨message (lib s.made), ?_⟩
    rw [EStateM.run_bind, call_run, requestAll_refused [] hret]
    simp [Ne.symm hret]

theorem Requests.after {action : Action Unit} (h : Requests lib action rs) (s : Machine) :
    Tracker.after action s = s.requestAll lib rs := by
  unfold Tracker.after
  by_cases haccepted : Accepted lib s rs.length
  · rw [(h s).1 haccepted]
  · obtain ⟨e, hrun⟩ := (h s).2 haccepted
    rw [hrun]

theorem left_ok {action : Action Unit} {t : Machine} (h : action.run s = .ok () t) :
    left action s = some t := by
  unfold left
  rw [h]

theorem left_undefined {action : Action Unit} {t : Machine}
    (h : action.run s = .error .undefined t) : left action s = none := by
  unfold left
  rw [h]
  exact if_pos rfl

theorem Requests.left {action : Action Unit} (h : Requests lib action rs) (s : Machine) :
    Tracker.left action s = some (s.requestAll lib rs) := by
  unfold Tracker.left
  by_cases haccepted : Accepted lib s rs.length
  · rw [(h s).1 haccepted]
  · obtain ⟨e, hrun⟩ := (h s).2 haccepted
    rw [hrun]
    exact if_neg nofun

theorem setDirection_requests (motor : Motor) (direction : Tb6612fng.Direction) :
    Requests lib (bridge.setDirection lib motor direction)
      [.gpioWrite (.in1 motor) direction.level,
        .gpioWrite (.in2 motor) ((direction.level + 1) % 2)] :=
  (requests_checked _ _).bind (requests_checked _ _)

theorem setDuty_requests (motor : Motor) {duty : ℕ} (hduty : duty ≤ 100) :
    Requests lib (bridge.setDuty lib motor duty)
      [.gpioHardwarePWM motor bridge.freq (duty * 10000)] := by
  unfold Tb6612fng.setDuty
  rw [if_neg (not_not.mpr hduty)]
  exact requests_checked _ _

theorem turnTowards_requests (motor : Motor) (direction : Tb6612fng.Direction) {duty : ℕ}
    (hduty : duty ≤ 100) :
    Requests lib (PanTiltMotors.turnTowards lib bridge motor direction duty)
      ((Command.towards motor direction duty hduty).requests bridge) := by
  unfold PanTiltMotors.turnTowards
  rw [if_neg (not_not.mpr hduty)]
  exact (setDirection_requests motor direction).bind (setDuty_requests motor hduty)

theorem turn_requests (motor : Motor) {duty : ℤ} (hduty : -100 ≤ duty ∧ duty ≤ 100) :
    Requests lib (PanTiltMotors.turn lib bridge motor duty)
      ((Command.turn motor duty hduty).requests bridge) := by
  unfold PanTiltMotors.turn
  rw [if_neg (not_not.mpr hduty)]
  exact (setDirection_requests motor (.ofDuty duty)).bind (setDuty_requests motor (by omega))

/-- A command makes its calls. -/
theorem Command.requests_perform (c : Command) :
    Requests lib (c.perform lib bridge) (c.requests bridge) := by
  cases c with
  | turn motor duty valid => cases motor <;> exact turn_requests _ valid
  | towards motor direction duty valid =>
    cases motor <;> exact turnTowards_requests _ direction valid

end Requested

/-! ### The effects of a command -/

/-- The last value that the calls have set. -/
def Machine.last {α : Type} (s : Machine) (f : Call → Option α) : Option α := s.calls.findSome? f

section Last
variable {lib : Pigpio} {s : Machine} {α : Type} {f : Call → Option α}

theorem record_last (c : Call) : (s.record c).last f = (f c).or (s.last f) := by
  unfold Machine.last Machine.record
  rw [List.findSome?_cons]
  cases f c <;> rfl

/-- Calls that set nothing of a kind. -/
theorem requestAll_last_kept {rs : List Request} (h : ∀ r ∈ rs, ∀ a, f ⟨r, a⟩ = none) :
    (s.requestAll lib rs).last f = s.last f := by
  induction rs generalizing s with
  | nil => rfl
  | cons r rs ih =>
    have hkept : (s.record ⟨r, lib s.made⟩).last f = s.last f := by
      rw [record_last, h r List.mem_cons_self, Option.none_or]
    by_cases hret : (lib s.made).ret = 0
    · rw [requestAll_accepted rs hret, ih fun r' hr' => h r' (List.mem_cons_of_mem r hr'), hkept]
    · rw [requestAll_refused rs hret, hkept]

/-- Of the first `k` calls a single one, behind `front`, may set a value. -/
theorem requestAll_last (front back : List Request) {r : Request} {v : α} (k : ℕ)
    (hfront : ∀ r ∈ front, ∀ a, f ⟨r, a⟩ = none) (hback : ∀ r ∈ back, ∀ a, f ⟨r, a⟩ = none)
    (hr : ∀ a, f ⟨r, a⟩ = if a.ret = 0 then some v else none) :
    (s.requestAll lib ((front ++ r :: back).take k)).last f =
      if front.length + 1 ≤ k ∧ Accepted lib s (front.length + 1) then some v else s.last f := by
  induction front generalizing s k with
  | nil =>
    cases k with
    | zero => simp [Machine.requestAll]
    | succ k =>
      have hone : Accepted lib s 1 ↔ (lib s.made).ret = 0 :=
        (accepted_cons 0 r).trans (and_iff_left accepted_zero)
      have hrest : ∀ r ∈ back.take k, ∀ a, f ⟨r, a⟩ = none :=
        fun r hr => hback r (List.mem_of_mem_take hr)
      rw [List.nil_append, List.take_succ_cons]
      by_cases hret : (lib s.made).ret = 0
      · rw [requestAll_accepted _ hret, requestAll_last_kept hrest, record_last, hr]
        simp [hone, hret]
      · rw [requestAll_refused _ hret, record_last, hr]
        simp [hone, hret]
  | cons x front ih =>
    cases k with
    | zero => simp [Machine.requestAll]
    | succ k =>
      have hx : (s.record ⟨x, lib s.made⟩).last f = s.last f := by
        rw [record_last, hfront x List.mem_cons_self, Option.none_or]
      rw [List.cons_append, List.take_succ_cons, List.length_cons]
      simp only [accepted_cons (front.length + 1) x]
      by_cases hret : (lib s.made).ret = 0
      · rw [requestAll_accepted _ hret,
          ih k fun r' hr' => hfront r' (List.mem_cons_of_mem x hr'), hx]
        simp [hret]
      · rw [requestAll_refused _ hret, hx]
        simp [hret]

/-- The same with all of the calls. -/
theorem requestAll_last_all (front back : List Request) {r : Request} {v : α}
    (hfront : ∀ r ∈ front, ∀ a, f ⟨r, a⟩ = none) (hback : ∀ r ∈ back, ∀ a, f ⟨r, a⟩ = none)
    (hr : ∀ a, f ⟨r, a⟩ = if a.ret = 0 then some v else none) :
    (s.requestAll lib (front ++ r :: back)).last f =
      if Accepted lib s (front.length + 1) then some v else s.last f := by
  have h : (s.requestAll lib ((front ++ r :: back).take (front ++ r :: back).length)).last f = _ :=
    requestAll_last front back _ hfront hback hr
  rw [List.take_length] at h
  rw [h]
  have hle : front.length + 1 ≤ (front ++ r :: back).length := by simp
  simp only [hle, true_and]

theorem requestAll_encoders (rs : List Request) : (s.requestAll lib rs).encoders = s.encoders := by
  induction rs generalizing s with
  | nil => rfl
  | cons r rs ih =>
    by_cases hret : (lib s.made).ret = 0
    · rw [requestAll_accepted rs hret, ih]
      rfl
    · rw [requestAll_refused rs hret]
      rfl

end Last

theorem level_inj {d d' : Tb6612fng.Direction} (h : some d.level = some d'.level) : d = d' := by
  cases d <;> cases d' <;> first | rfl | contradiction

/-- What the first `k` calls of a command have set, when those after a refused call are not made. -/
structure Effect (lib : Pigpio) (s : Machine) (c : Command) (k : ℕ) (t : Machine) : Prop where
  encoders : t.encoders = s.encoders
  in1 : t.level (.in1 c.motor) =
    if 1 ≤ k ∧ Accepted lib s 1 then some c.direction.level else s.level (.in1 c.motor)
  in2 : t.level (.in2 c.motor) =
    if 2 ≤ k ∧ Accepted lib s 2 then some ((c.direction.level + 1) % 2)
    else s.level (.in2 c.motor)
  dutycycle : t.dutycycle c.motor =
    if 3 ≤ k ∧ Accepted lib s 3 then c.duty * 10000 else s.dutycycle c.motor
  stby : t.level .stby = s.level .stby
  other : ∀ motor, motor ≠ c.motor → Untouched s t motor

/-- The levels of a direction, of which the first or the second may not have been written. -/
structure Steered (first second : Prop) [Decidable first] [Decidable second] (s : Machine)
    (motor : Motor) (direction : Tb6612fng.Direction) (t : Machine) : Prop where
  in1 : t.level (.in1 motor) = if first then some direction.level else s.level (.in1 motor)
  in2 : t.level (.in2 motor) =
    if second then some ((direction.level + 1) % 2) else s.level (.in2 motor)

section Steering
variable {first second : Prop} [Decidable first] [Decidable second] {s t : Machine} {motor : Motor}
  {direction direction' : Tb6612fng.Direction}

/-- The first level tells the direction. -/
theorem Steered.direction_eq (h : Steered first second s motor direction t) (hfirst : first)
    (hdriven : t.Driven motor direction') : direction' = direction :=
  level_inj (hdriven.in1.symm.trans (h.in1.trans (if_pos hfirst)))

/-- A level that has not been written has to be right already. -/
theorem Steered.driven_iff (h : Steered first second s motor direction t)
    (hduty : t.dutycycle motor ≠ 0) :
    t.Driven motor direction ↔ (¬ first → s.level (.in1 motor) = some direction.level) ∧
      (¬ second → s.level (.in2 motor) = some ((direction.level + 1) % 2)) := by
  constructor
  · intro hdriven
    constructor
    · intro hnot
      exact (h.in1.trans (if_neg hnot)).symm.trans hdriven.in1
    · intro hnot
      exact (h.in2.trans (if_neg hnot)).symm.trans hdriven.in2
  · rintro ⟨hin1, hin2⟩
    refine ⟨hduty, ?_, ?_⟩
    · by_cases hfirst : first
      · exact h.in1.trans (if_pos hfirst)
      · exact (h.in1.trans (if_neg hfirst)).trans (hin1 hfirst)
    · by_cases hsecond : second
      · exact h.in2.trans (if_pos hsecond)
      · exact (h.in2.trans (if_neg hsecond)).trans (hin2 hsecond)

/-- With no level written the motor turns as before. -/
theorem Steered.kept (h : Steered first second s motor direction t) (hfirst : ¬ first)
    (hsecond : ¬ second) (hduty : t.dutycycle motor ≠ 0) (hold : s.dutycycle motor ≠ 0) :
    t.Driven motor direction' ↔ s.Driven motor direction' := by
  have hin1 := h.in1.trans (if_neg hfirst)
  have hin2 := h.in2.trans (if_neg hsecond)
  constructor
  · intro hdriven
    exact ⟨hold, hin1.symm.trans hdriven.in1, hin2.symm.trans hdriven.in2⟩
  · intro hdriven
    exact ⟨hduty, hin1.trans hdriven.in1, hin2.trans hdriven.in2⟩

end Steering

section Effects
variable {lib : Pigpio} {bridge : Tb6612fng} {s : Machine}

theorem Effect.steered {c : Command} {k : ℕ} {t : Machine} (h : Effect lib s c k t) :
    Steered (1 ≤ k ∧ Accepted lib s 1) (2 ≤ k ∧ Accepted lib s 2) s c.motor c.direction t :=
  ⟨h.in1, h.in2⟩

theorem dutycycle_eq_last (motor : Motor) :
    s.dutycycle motor = (s.last (Call.dutycycle motor)).getD 0 := rfl

/-- A command does nothing to the other motor. -/
theorem Command.untouched (c : Command) {motor : Motor} (hmotor : motor ≠ c.motor)
    {rs : List Request} (hrs : rs ⊆ c.requests bridge) :
    Untouched s (s.requestAll lib rs) motor := by
  have hkept {α : Type} {f : Call → Option α} (h : ∀ r ∈ c.requests bridge, ∀ a, f ⟨r, a⟩ = none) :
      (s.requestAll lib rs).last f = s.last f :=
    requestAll_last_kept fun r hr => h r (hrs hr)
  constructor
  · rw [requestAll_encoders]
  · rw [dutycycle_eq_last, hkept, dutycycle_eq_last]
    simp [Command.requests, Tb6612fng.commandRequests, Call.dutycycle, hmotor.symm]
  · apply hkept
    simp [Command.requests, Tb6612fng.commandRequests, Call.level, hmotor.symm]
  · apply hkept
    simp [Command.requests, Tb6612fng.commandRequests, Call.level, hmotor.symm]

/-- Each of the three calls sets a value of its own. -/
theorem Command.effect (c : Command) (k : ℕ) :
    Effect lib s c k (s.requestAll lib ((c.requests bridge).take k)) where
  encoders := requestAll_encoders _
  in1 := by
    apply requestAll_last []
    · simp
    · simp [Call.level]
    · simp [Call.level]
  in2 := by
    apply requestAll_last [_]
    · simp [Call.level]
    · simp [Call.level]
    · simp [Call.level]
  dutycycle := by
    have hlast : (s.requestAll lib ((c.requests bridge).take k)).last (Call.dutycycle c.motor) =
        if 3 ≤ k ∧ Accepted lib s 3 then some (c.duty * 10000)
        else s.last (Call.dutycycle c.motor) := by
      apply requestAll_last [_, _]
      · simp [Call.dutycycle]
      · simp [Call.dutycycle]
      · simp [Call.dutycycle]
    rw [dutycycle_eq_last, hlast]
    split <;> rfl
  stby := by
    apply requestAll_last_kept
    have hall : ∀ r ∈ c.requests bridge, ∀ a, Call.level .stby ⟨r, a⟩ = none := by
      simp [Command.requests, Tb6612fng.commandRequests, Call.level]
    exact fun r hr => hall r (List.mem_of_mem_take hr)
  other motor hmotor := c.untouched hmotor (List.take_subset _ _)

end Effects

end Rckam.Tracker
