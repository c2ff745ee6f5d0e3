import Mathlib.Algebra.Order.Group.Unbundled.Int
import Mathlib.Tactic.Ring
import Rckam.Tracker.Encoder

/-! An encoder on a shaft that turns in quarter steps, and what it counts when the shaft
reverses. -/
namespace Rckam.Tracker

inductive Direction where
  | forward | backward
  deriving DecidableEq, Repr

def Direction.sign : Direction → ℤ
  | .forward => 1
  | .backward => -1

/-- The level of a channel: both are high at the multiples of four, and the second falls first
when the shaft turns forward. -/
def level (channel : Fin 2) (q : ℤ) : ℕ :=
  if q % 4 = 0 ∨ q % 4 = (if channel = 0 then 1 else 3) then 1 else 0

/-- The channel whose level changes between two neighbouring positions. -/
def flips (q q' : ℤ) : Fin 2 := if level 0 q ≠ level 0 q' then 0 else 1

structure Shaft (κ : Type) where
  position : ℤ
  encoder : Encoder κ

/-- What happens to an encoder: quarter steps, and calls of its other methods. -/
inductive Operation (κ : Type) where
  | turn (d : Direction)
  | setCallback (callback : κ)
  | reset

namespace Shaft
variable {κ : Type}

/-- A quarter step raises one alert. -/
def turn (s : Shaft κ) (d : Direction) : Option (Shaft κ) :=
  let position := s.position + d.sign
  let channel := flips s.position position
  (s.encoder.alert channel (level channel position)).map fun r => ⟨position, r.1⟩

def perform (s : Shaft κ) : Operation κ → Option (Shaft κ)
  | .turn d => s.turn d
  | .setCallback callback => some { s with encoder := s.encoder.setCallback callback }
  | .reset => some { s with encoder := s.encoder.reset }

def performAll (s : Shaft κ) (operations : List (Operation κ)) : Option (Shaft κ) :=
  operations.foldlM perform s

def walk (s : Shaft κ) (steps : List Direction) : Option (Shaft κ) :=
  steps.foldlM turn s

end Shaft

def Operation.displacement {κ : Type} : Operation κ → ℤ
  | .turn d => d.sign
  | _ => 0

/-- An encoder on two different GPIOs, constructed when the shaft is at `start`, and what
happened to it until a rest position. -/
structure History (κ : Type) where
  a : ℕ
  b : ℕ
  distinct : a ≠ b
  start : ℤ
  operations : List (Operation κ)
  rest : ℤ
  atRest : start + (operations.map Operation.displacement).sum = 4 * rest

def History.initial {κ : Type} (h : History κ) : Shaft κ := ⟨h.start, .initial h.a h.b⟩

/-- A walk from `home` back to `home` that stays between the neighbouring rest positions. -/
structure Excursion (home : ℤ) where
  steps : List Direction
  returns : (steps.map Direction.sign).sum = 0
  inside : ∀ n, |(steps.take n |>.map Direction.sign).sum| < 4

/-- How often a walk from `q` reaches a rest position by two steps in direction `d`. -/
def straightReturns (d : Direction) : ℤ → List Direction → ℕ
  | q, x :: y :: steps =>
      (if x = d ∧ y = d ∧ 4 ∣ q + 2 * d.sign then 1 else 0) +
        straightReturns d (q + x.sign) (y :: steps)
  | _, _ => 0

/-- The difference counts a straight return in its direction. -/
theorem straightReturns_cons (q : ℤ) (x y : Direction) (steps : List Direction) :
    (straightReturns .forward q (x :: y :: steps) : ℤ) -
        straightReturns .backward q (x :: y :: steps) =
      (if x = y ∧ 4 ∣ q + x.sign + y.sign then y.sign else 0) +
        (straightReturns .forward (q + x.sign) (y :: steps) -
          straightReturns .backward (q + x.sign) (y :: steps)) := by
  have hone (d : Direction) : q + 2 * d.sign = q + d.sign + d.sign := by ring
  rw [straightReturns, straightReturns, hone, hone]
  by_cases hxy : x = y
  · subst hxy
    by_cases hrest : 4 ∣ q + x.sign + x.sign
    · cases x <;> simp [Direction.sign] at hrest ⊢ <;> simp [hrest] <;> ring
    · cases x <;> simp [Direction.sign] at hrest ⊢ <;> simp [hrest]
  · cases x <;> cases y <;> simp at hxy ⊢

section Levels
variable (q : ℤ) (d : Direction)

theorem level_eq_one (channel : Fin 2) :
    level channel q = 1 ↔ q % 4 = 0 ∨ q % 4 = (if channel = 0 then 1 else 3) := by
  rw [level, ite_eq_left_iff, imp_iff_not (by decide), not_not]

/-- Both levels are high at the rest positions only. -/
theorem levels_high : (∀ c, level c q = 1) ↔ 4 ∣ q := by
  have h10 : (1 : Fin 2) ≠ 0 := by decide
  simp only [Fin.forall_fin_two, level_eq_one, h10, ↓reduceIte]
  omega

/-- The channel that changes at an even position depends on the direction, and the other
channel changes at an odd position. -/
theorem flips_turn :
    flips q (q + d.sign) = if q % 2 = 0 ↔ d = .forward then 1 else 0 := by
  cases d <;> simp only [flips, level, Direction.sign, ↓reduceIte, reduceCtorEq, iff_true,
    iff_false] <;> split_ifs <;> first | rfl | omega

theorem level_turn {channel : Fin 2} (h : channel ≠ flips q (q + d.sign)) :
    level channel (q + d.sign) = level channel q := by
  match channel with
  | 0 =>
    by_contra hne
    exact h (if_pos (Ne.symm hne)).symm
  | 1 =>
    have h0 : flips q (q + d.sign) = 0 := by omega
    rw [flips_turn] at h0
    have h10 : (1 : Fin 2) ≠ 0 := by decide
    have hparity : ¬ (q % 2 = 0 ↔ d = .forward) := by
      intro h1
      rw [if_pos h1] at h0
      contradiction
    rw [level, level]
    congr 1
    simp only [h10, ↓reduceIte, eq_iff_iff]
    cases d <;> simp only [Direction.sign, reduceCtorEq, iff_true, iff_false] at hparity ⊢ <;>
      omega

end Levels

namespace Shaft
variable {κ : Type} {s : Shaft κ}

/-- A channel that is high is known to be high. Before its first alert a channel is believed to
be high, whatever its level is. -/
structure Sound (s : Shaft κ) : Prop where
  distinct : s.encoder.gpios 0 ≠ s.encoder.gpios 1
  high : ∀ c, level c s.position = 1 → s.encoder.states c = 1

/-- The levels are known. -/
structure Tracking (s : Shaft κ) : Prop where
  distinct : s.encoder.gpios 0 ≠ s.encoder.gpios 1
  exact : ∀ c, s.encoder.states c = level c s.position

theorem Sound.tracking (h : s.Sound) (hrest : 4 ∣ s.position) : s.Tracking where
  distinct := h.distinct
  exact := by
    intro c
    have hhigh := (levels_high s.position).mpr hrest c
    rw [h.high c hhigh, hhigh]

theorem turn_eq (hdistinct : s.encoder.gpios 0 ≠ s.encoder.gpios 1) (d : Direction) :
    ∃ s', s.turn d = some s' ∧ s'.position = s.position + d.sign ∧
      s'.encoder.gpios = s.encoder.gpios ∧
      s'.encoder.states = Function.update s.encoder.states (flips s.position s'.position)
        (level (flips s.position s'.position) s'.position) ∧
      s'.encoder.lastGpio = s.encoder.gpios (flips s.position s'.position) ∧
      s'.encoder.counter = s.encoder.counter +
        if s.encoder.Counts (flips s.position s'.position)
            (level (flips s.position s'.position) s'.position) then
          Encoder.sign (flips s.position s'.position)
        else 0 := by
  rw [turn, Encoder.alert_eq hdistinct]
  exact ⟨_, rfl, rfl, rfl, rfl, rfl, rfl⟩

theorem Sound.turn (h : s.Sound) (d : Direction) :
    ∃ s', s.turn d = some s' ∧ s'.position = s.position + d.sign ∧ s'.Sound := by
  obtain ⟨s', hs', hpos, hgpios, hstates, -, -⟩ := turn_eq h.distinct d
  refine ⟨s', hs', hpos, ?_, ?_⟩
  · rw [hgpios]
    exact h.distinct
  · intro c hc
    rw [hstates]
    by_cases hflip : c = flips s.position s'.position
    · rw [hflip, Function.update_self, ← hflip, hc]
    · rw [Function.update_of_ne hflip]
      apply h.high
      rw [hpos] at hc hflip
      rw [← level_turn _ _ hflip, hc]

theorem Sound.performAll (h : s.Sound) (operations : List (Operation κ)) :
    ∃ s', s.performAll operations = some s' ∧
      s'.position = s.position + (operations.map Operation.displacement).sum ∧ s'.Sound := by
  induction operations generalizing s with
  | nil => exact ⟨s, rfl, by simp, h⟩
  | cons operation operations ih =>
    have hstep : ∃ s', s.perform operation = some s' ∧
        s'.position = s.position + operation.displacement ∧ s'.Sound := by
      cases operation with
      | turn d => exact h.turn d
      | setCallback callback => exact ⟨_, rfl, (Int.add_zero _).symm, h.distinct, h.high⟩
      | reset => exact ⟨_, rfl, (Int.add_zero _).symm, h.distinct, h.high⟩
    obtain ⟨s1, hs1, hpos1, h1⟩ := hstep
    obtain ⟨s2, hs2, hpos2, h2⟩ := ih h1
    refine ⟨s2, ?_, ?_, h2⟩
    · rw [Shaft.performAll, List.foldlM_cons, hs1]
      exact hs2
    · rw [hpos2, hpos1, List.map_cons, List.sum_cons, Int.add_assoc]

/-- A step is counted when it reaches a rest position and continues the step before, and it is
counted in its direction. -/
theorem Tracking.turn (h : s.Tracking) (d : Direction) :
    ∃ s', s.turn d = some s' ∧ s'.position = s.position + d.sign ∧ s'.Tracking ∧
      s'.encoder.gpios = s.encoder.gpios ∧
      s'.encoder.lastGpio = s.encoder.gpios (flips s.position s'.position) ∧
      s'.encoder.counter = s.encoder.counter +
        if (s.encoder.gpios (flips s.position s'.position) : ℤ) ≠ s.encoder.lastGpio ∧
          4 ∣ s'.position then d.sign else 0 := by
  obtain ⟨s', hs', hpos, hgpios, hstates, hlast, hcounter⟩ := turn_eq h.distinct d
  have hexact : ∀ c, Function.update s.encoder.states (flips s.position s'.position)
      (level (flips s.position s'.position) s'.position) c = level c s'.position := by
    intro c
    by_cases hflip : c = flips s.position s'.position
    · rw [hflip, Function.update_self]
    · rw [Function.update_of_ne hflip, h.exact]
      rw [hpos] at hflip ⊢
      exact (level_turn _ _ hflip).symm
  refine ⟨s', hs', hpos, ⟨?_, ?_⟩, hgpios, hlast, ?_⟩
  · rw [hgpios]
    exact h.distinct
  · intro c
    rw [hstates, hexact]
  · have hcounts : s.encoder.Counts (flips s.position s'.position)
        (level (flips s.position s'.position) s'.position) ↔
        (s.encoder.gpios (flips s.position s'.position) : ℤ) ≠ s.encoder.lastGpio ∧
          4 ∣ s'.position := by
      simp only [Encoder.Counts, hexact, levels_high]
    rw [hcounter]
    simp only [hcounts]
    by_cases hyes : (s.encoder.gpios (flips s.position s'.position) : ℤ) ≠ s.encoder.lastGpio ∧
        4 ∣ s'.position
    · rw [if_pos hyes, if_pos hyes]
      have hdvd := hyes.2
      rw [hpos, flips_turn]
      rw [hpos] at hdvd
      cases d <;> simp only [Direction.sign, Encoder.sign, reduceCtorEq, iff_true,
        iff_false] at hdvd ⊢ <;> split_ifs <;> omega
    · rw [if_neg hyes, if_neg hyes]

/-- Two steps in a row change the same channel exactly when the second takes the first back. -/
theorem flips_straight (q : ℤ) (x y : Direction) :
    flips q (q + x.sign) ≠ flips (q + x.sign) (q + x.sign + y.sign) ↔ x = y := by
  rw [flips_turn, flips_turn]
  cases x <;> cases y <;> simp only [Direction.sign, reduceCtorEq, iff_true, iff_false] <;>
    split_ifs <;> simp <;> omega

/-- What is counted of a walk: the rest positions reached by two steps in one direction. `x` is
the step before. -/
theorem Tracking.walk (h : s.Tracking) {x : Direction} {q : ℤ} (hq : s.position = q + x.sign)
    (hlast : s.encoder.lastGpio = s.encoder.gpios (flips q (q + x.sign)))
    (steps : List Direction) :
    ∃ s', s.walk steps = some s' ∧
      s'.position = s.position + (steps.map Direction.sign).sum ∧
      s'.encoder.counter = s.encoder.counter + straightReturns .forward q (x :: steps) -
        straightReturns .backward q (x :: steps) := by
  induction steps generalizing s x q with
  | nil => exact ⟨s, rfl, by simp, by simp [straightReturns]⟩
  | cons y steps ih =>
    obtain ⟨s1, hs1, hpos1, h1, hgpios1, hlast1, hcounter1⟩ := h.turn y
    rw [hpos1, hq] at hlast1 hcounter1
    obtain ⟨s2, hs2, hpos2, hcounter2⟩ := ih h1 (x := y) (q := s.position) hpos1
      (by rw [hlast1, hgpios1, hq])
    refine ⟨s2, ?_, ?_, ?_⟩
    · rw [Shaft.walk, List.foldlM_cons, hs1]
      exact hs2
    · rw [hpos2, hpos1, List.map_cons, List.sum_cons, Int.add_assoc]
    · have hcounts : (s.encoder.gpios (flips (q + x.sign) (q + x.sign + y.sign)) : ℤ) ≠
          s.encoder.lastGpio ↔ x = y := by
        rw [← flips_straight q x y, hlast]
        have hinj : ∀ c c' : Fin 2, (s.encoder.gpios c : ℤ) ≠ s.encoder.gpios c' ↔ c' ≠ c := by
          have hd := h.distinct
          simp only [Fin.forall_fin_two]
          norm_cast
          simp [hd, hd.symm]
        exact hinj _ _
      simp only [hcounts] at hcounter1
      rw [hcounter2, hcounter1, hq]
      have hcons := straightReturns_cons q x y steps
      omega

/-- From a rest position on, the step before does not matter: the first step is not counted. -/
theorem Tracking.walk_rest (h : s.Tracking) (hrest : 4 ∣ s.position) (steps : List Direction) :
    ∃ s', s.walk steps = some s' ∧
      s'.position = s.position + (steps.map Direction.sign).sum ∧
      s'.encoder.counter = s.encoder.counter + straightReturns .forward s.position steps -
        straightReturns .backward s.position steps := by
  cases steps with
  | nil => exact ⟨s, rfl, by simp, by simp [straightReturns]⟩
  | cons x steps =>
    obtain ⟨s1, hs1, hpos1, h1, hgpios1, hlast1, hcounter1⟩ := h.turn x
    have hnot : ¬ 4 ∣ s1.position := by
      rw [hpos1]
      cases x <;> simp only [Direction.sign] <;> omega
    rw [if_neg fun hc => hnot hc.2, Int.add_zero] at hcounter1
    obtain ⟨s2, hs2, hpos2, hcounter2⟩ := h1.walk hpos1 (by rw [hlast1, hgpios1, hpos1]) steps
    refine ⟨s2, ?_, ?_, ?_⟩
    · rw [Shaft.walk, List.foldlM_cons, hs1]
      exact hs2
    · rw [hpos2, hpos1, List.map_cons, List.sum_cons, Int.add_assoc]
    · rw [hcounter2, hcounter1]

end Shaft

theorem History.sound {κ : Type} (h : History κ) : h.initial.Sound where
  distinct := h.distinct
  high := by
    intro c _
    match c with
    | 0 => rfl
    | 1 => rfl

/-- After an excursion the counter is the one before exactly when the rest position was reached
straight from below as often as straight from above. -/
theorem excursion_counter_iff {κ : Type} (history : History κ)
    (walk : Excursion (4 * history.rest)) :
    ∃ before after, history.initial.performAll history.operations = some before ∧
      before.position = 4 * history.rest ∧ before.walk walk.steps = some after ∧
      after.position = 4 * history.rest ∧
      (after.encoder.counter = before.encoder.counter ↔
        straightReturns .forward (4 * history.rest) walk.steps =
          straightReturns .backward (4 * history.rest) walk.steps) := by
  obtain ⟨before, hbefore, hpos, hsound⟩ := history.sound.performAll history.operations
  have hrest : before.position = 4 * history.rest := hpos.trans history.atRest
  have hdvd : 4 ∣ before.position := ⟨history.rest, hrest⟩
  obtain ⟨after, hafter, hpos', hcounter⟩ := (hsound.tracking hdvd).walk_rest hdvd walk.steps
  rw [hrest] at hcounter
  refine ⟨before, after, hbefore, hrest, hafter, ?_, ?_⟩
  · rw [hpos', hrest, walk.returns, Int.add_zero]
  · rw [hcounter]
    omega

/-- Half a cycle forward and back. -/
def halfCycle : Excursion (4 * 0) where
  steps := [.forward, .forward, .backward, .backward]
  returns := rfl
  inside := by
    intro n
    match n with
    | 0 | 1 | 2 | 3 => decide
    | n + 4 => simp [Direction.sign]

def untouched : History Unit where
  a := 17
  b := 27
  distinct := by decide
  start := 0
  operations := []
  rest := 0
  atRest := rfl

/-- Going half a cycle forward and back loses a count. -/
theorem half_cycle_drifts :
    ∃ before after, untouched.initial.performAll untouched.operations = some before ∧
      before.walk halfCycle.steps = some after ∧
      after.encoder.counter ≠ before.encoder.counter :=
  ⟨_, _, rfl, rfl, by decide⟩

end Rckam.Tracker
