import Mathlib.Data.List.Infix
import Rckam.Tracker.Operations

/-! What the motors do between the single writes of the commands `pan` and `tilt`. -/
namespace Rckam.Tracker
open Tb6612fng (Motor)

/-- A motor turns in a direction: the H-bridge is not in standby. -/
structure Machine.Drives (s : Machine) (motor : Motor) (direction : Tb6612fng.Direction) :
    Prop where
  stby : s.level .stby = some 1
  driven : s.Driven motor direction

/-- A motor that turns does so as one of the commands asks: in its direction, with its duty. -/
def AsAsked (commands : List Command) (s : Machine) : Prop :=
  ∀ motor direction, s.Drives motor direction →
    ∃ c ∈ commands, c.motor = motor ∧ c.direction = direction ∧
      s.dutycycle motor = c.duty * 10000

/-- A state behind one of the calls that lead from `s` to `t`. -/
structure Between (s t u : Machine) : Prop where
  front : s.calls <:+ u.calls
  back : u.calls <:+ t.calls

section Definitions
variable (lib : Pigpio) (bridge : Tb6612fng)

/-- Behind every single call, also one that fails, the motors turn only as they have been asked
to so far. -/
def OnlyAsAsked : Machine → List Command → List Command → Prop
  | _, _, [] => True
  | s, past, c :: rest =>
      (∀ u, Between s (after (c.perform lib bridge) s) u → AsAsked (c :: past) u) ∧
        OnlyAsAsked (after (c.perform lib bridge) s) (c :: past) rest

/-- When the motor has a duty and the levels of the command's direction get to it, that duty has
been asked for in that direction. -/
def Fits (s : Machine) (past : List Command) (c : Command) : Prop :=
  s.level .stby = some 1 → s.dutycycle c.motor ≠ 0 → Accepted lib s 1 →
    Accepted lib s 2 ∨ s.level (.in2 c.motor) = some ((c.direction.level + 1) % 2) →
      ∃ c' ∈ c :: past, c'.motor = c.motor ∧ c'.direction = c.direction ∧
        s.dutycycle c.motor = c'.duty * 10000

def AllFit : Machine → List Command → List Command → Prop
  | _, _, [] => True
  | s, past, c :: rest =>
      Fits lib s past c ∧ AllFit (after (c.perform lib bridge) s) (c :: past) rest

end Definitions

section Steps
variable {lib : Pigpio} {bridge : Tb6612fng} {s t u : Machine} {past : List Command} {c : Command}

theorem requestAll_suffix (rs : List Request) : s.calls <:+ (s.requestAll lib rs).calls := by
  induction rs generalizing s with
  | nil => exact List.suffix_rfl
  | cons r rs ih =>
    have hcons : s.calls <:+ (s.record ⟨r, lib s.made⟩).calls := List.suffix_cons _ _
    by_cases hret : (lib s.made).ret = 0
    · rw [requestAll_accepted rs hret]
      exact hcons.trans ih
    · rw [requestAll_refused rs hret]
      exact hcons

/-- The states behind the single calls are those that the first calls lead to. -/
theorem between_requestAll {rs : List Request} (h : Between s (s.requestAll lib rs) u) :
    ∃ k, u.calls = (s.requestAll lib (rs.take k)).calls := by
  induction rs generalizing s with
  | nil => exact ⟨0, h.back.eq_of_length_le h.front.length_le⟩
  | cons r rs ih =>
    by_cases hsame : u.calls.length ≤ s.calls.length
    · exact ⟨0, (h.front.eq_of_length_le hsame).symm⟩
    · have hlong : (s.record ⟨r, lib s.made⟩).calls.length ≤ u.calls.length := by
        show s.calls.length + 1 ≤ u.calls.length
        omega
      by_cases hret : (lib s.made).ret = 0
      · have hback := h.back
        rw [requestAll_accepted rs hret] at hback
        have hfront := List.suffix_of_suffix_length_le (requestAll_suffix rs) hback hlong
        obtain ⟨k, hk⟩ := ih ⟨hfront, hback⟩
        refine ⟨k + 1, ?_⟩
        rw [List.take_succ_cons, requestAll_accepted _ hret, hk]
      · have hback := h.back
        rw [requestAll_refused rs hret] at hback
        refine ⟨1, ?_⟩
        rw [List.take_succ_cons, requestAll_refused _ hret]
        exact hback.eq_of_length_le hlong

theorem requestAll_take_suffix (rs : List Request) (k : ℕ) :
    (s.requestAll lib (rs.take k)).calls <:+ (s.requestAll lib rs).calls := by
  induction rs generalizing s k with
  | nil => simp
  | cons r rs ih =>
    cases k with
    | zero => exact requestAll_suffix _
    | succ k =>
      rw [List.take_succ_cons]
      by_cases hret : (lib s.made).ret = 0
      · rw [requestAll_accepted _ hret, requestAll_accepted _ hret]
        exact ih k
      · rw [requestAll_refused _ hret, requestAll_refused _ hret]

/-- The motors turn alike when the calls are the same. -/
theorem AsAsked.congr (h : AsAsked past t) (hcalls : u.calls = t.calls) : AsAsked past u := by
  unfold AsAsked at h ⊢
  have hlevel : u.level = t.level := by
    unfold Machine.level
    rw [hcalls]
  have hduty : u.dutycycle = t.dutycycle := by
    unfold Machine.dutycycle
    rw [hcalls]
  intro motor direction hdrives
  rw [hduty]
  apply h motor direction
  obtain ⟨hstby, hdriven⟩ := hdrives
  rw [hlevel] at hstby
  refine ⟨hstby, ?_, ?_, ?_⟩
  · rw [← hduty]
    exact hdriven.duty
  · rw [← hlevel]
    exact hdriven.in1
  · rw [← hlevel]
    exact hdriven.in2

/-- What the first `k` calls of a command leave is as asked when the command fits. -/
theorem Fits.effect (hfits : Fits lib s past c) (hasked : AsAsked past s) {k : ℕ}
    (heffect : Effect lib s c k u) : AsAsked (c :: past) u := by
  rintro motor direction ⟨hstby, hdriven⟩
  rw [heffect.stby] at hstby
  by_cases hmotor : motor = c.motor
  · subst hmotor
    have hduty := hdriven.duty
    rw [heffect.dutycycle] at hduty ⊢
    by_cases hset : 3 ≤ k ∧ Accepted lib s 3
    · have hfirst : 1 ≤ k ∧ Accepted lib s 1 := ⟨by omega, hset.2.mono (by decide)⟩
      rw [if_pos hset]
      exact ⟨c, List.mem_cons_self, rfl, (heffect.steered.direction_eq hfirst hdriven).symm, rfl⟩
    · rw [if_neg hset] at hduty ⊢
      by_cases hfirst : 1 ≤ k ∧ Accepted lib s 1
      · obtain rfl := heffect.steered.direction_eq hfirst hdriven
        apply hfits hstby hduty hfirst.2
        by_cases hsecond : 2 ≤ k ∧ Accepted lib s 2
        · exact Or.inl hsecond.2
        · exact Or.inr (((heffect.steered.driven_iff hdriven.duty).mp hdriven).2 hsecond)
      · have hsecond : ¬ (2 ≤ k ∧ Accepted lib s 2) := by
          rintro ⟨hk, haccepted⟩
          exact hfirst ⟨by omega, haccepted.mono (by decide)⟩
        have hbefore := (heffect.steered.kept hfirst hsecond hdriven.duty hduty).mp hdriven
        obtain ⟨c', hmem, hc'⟩ := hasked c.motor direction ⟨hstby, hbefore⟩
        exact ⟨c', List.mem_cons_of_mem c hmem, hc'⟩
  · have hsame := heffect.other motor hmotor
    have hbefore : s.Driven motor direction :=
      ⟨hsame.dutycycle ▸ hdriven.duty, hsame.in1 ▸ hdriven.in1, hsame.in2 ▸ hdriven.in2⟩
    obtain ⟨c', hmem, hc'⟩ := hasked motor direction ⟨hstby, hbefore⟩
    rw [hsame.dutycycle]
    exact ⟨c', List.mem_cons_of_mem c hmem, hc'⟩

/-- Once the levels of its direction are set, a command turns the motor with the duty it had. -/
theorem Effect.drives (heffect : Effect lib s c 2 u) (hstby : s.level .stby = some 1)
    (hduty : s.dutycycle c.motor ≠ 0) (hfirst : Accepted lib s 1)
    (hsecond : Accepted lib s 2 ∨ s.level (.in2 c.motor) = some ((c.direction.level + 1) % 2)) :
    u.dutycycle c.motor = s.dutycycle c.motor ∧ u.Drives c.motor c.direction := by
  have hsame : u.dutycycle c.motor = s.dutycycle c.motor := by
    rw [heffect.dutycycle, if_neg fun h => absurd h.1 (by decide)]
  refine ⟨hsame, heffect.stby.trans hstby,
    (heffect.steered.driven_iff (hsame.trans_ne hduty)).mpr ⟨?_, ?_⟩⟩
  · intro hnot
    exact absurd ⟨by decide, hfirst⟩ hnot
  · intro hnot
    exact hsecond.resolve_left fun hboth => hnot ⟨le_rfl, hboth⟩

/-- A command is observed to do what has been asked exactly when it fits. -/
theorem observed_iff (hasked : AsAsked past s) :
    (∀ u, Between s (after (c.perform lib bridge) s) u → AsAsked (c :: past) u) ↔
      Fits lib s past c := by
  rw [c.requests_perform.after s]
  constructor
  · intro hobserved hstby hduty hfirst hsecond
    have hbetween : Between s (s.requestAll lib (c.requests bridge))
        (s.requestAll lib ((c.requests bridge).take 2)) :=
      ⟨requestAll_suffix _, requestAll_take_suffix _ 2⟩
    have heffect : Effect lib s c 2 (s.requestAll lib ((c.requests bridge).take 2)) := c.effect 2
    obtain ⟨hsame, hdrives⟩ := heffect.drives hstby hduty hfirst hsecond
    have hcommand := hobserved _ hbetween c.motor c.direction hdrives
    rwa [hsame] at hcommand
  · intro hfits u hbetween
    obtain ⟨k, hk⟩ := between_requestAll hbetween
    exact (hfits.effect hasked (c.effect k)).congr hk

theorem AsAsked.run_iff (hasked : AsAsked past s) (commands : List Command) :
    OnlyAsAsked lib bridge s past commands ↔ AllFit lib bridge s past commands := by
  induction commands generalizing s past with
  | nil => rfl
  | cons c commands ih =>
    unfold OnlyAsAsked AllFit
    rw [observed_iff hasked]
    apply and_congr_right
    intro hfits
    apply ih
    rw [c.requests_perform.after s]
    have hwhole : c.requests bridge = (c.requests bridge).take 3 := rfl
    rw [hwhole]
    exact hfits.effect hasked (c.effect 3)

end Steps

/-- A state in which no motor has a duty. -/
structure Still where
  machine : Machine
  still : ∀ motor, machine.dutycycle motor = 0

theorem Still.asAsked (s : Still) : AsAsked [] s.machine := by
  intro motor direction hdrives
  exact absurd (s.still motor) hdrives.driven.duty

/-- In a run of commands no motor ever turns as nobody has asked exactly when every command fits
what has been asked before. -/
theorem onlyAsAsked_iff (lib : Pigpio) (bridge : Tb6612fng) (s : Still)
    (commands : List Command) :
    OnlyAsAsked lib bridge s.machine [] commands ↔ AllFit lib bridge s.machine [] commands :=
  s.asAsked.run_iff commands

/-- A pigpio that returns 0. -/
def obliging : Pigpio := fun _ => ⟨0, 0, 0⟩

/-- The H-bridge out of standby. -/
def ready : Still where
  machine := (Machine.initial 2 3 19 26).record ⟨.gpioWrite .stby 1, obliging 0⟩
  still motor := by cases motor <;> rfl

/-- The command that stops a motor turns it the other way first. -/
theorem stop_reverses :
    ¬ OnlyAsAsked obliging defaultBridge ready.machine []
      [.turn .a (-50) (by decide), .turn .a 0 (by decide)] := by
  intro h
  have hfits := ((ready.asAsked.run_iff _).mp h).2.1
  obtain ⟨c, hmem, -, hdirection, hduty⟩ :=
    hfits (by decide) (by decide) (fun _ _ => rfl) (Or.inl fun _ _ => rfl)
  rcases List.mem_cons.mp hmem with rfl | hmem
  · revert hduty
    decide
  · obtain rfl := List.mem_singleton.mp hmem
    revert hdirection
    decide

end Rckam.Tracker
