import Rckam.Tracker.Drift

/-! An encoder whose contacts bounce while its shaft turns by full cycles. -/
namespace Rckam.Tracker

/-- Successive alerts. The result holds the calls that were made to the callback, in order. There is
none when an alert makes the counter overflow, which has no defined behaviour. -/
def Encoder.alertAll {κ : Type} (e : Encoder κ) :
    List (Fin 2 × ℕ) → Option (Encoder κ × List (κ × ℤ))
  | [] => some (e, [])
  | (channel, level) :: rest => do
      let (e, called) ← e.alert channel level
      guard (IsInt e.counter)
      let (e, calls) ← e.alertAll rest
      return (e, called.toList ++ calls)

/-- The alerts for an edge of a channel to `level` with `n` bounces. -/
def bouncing (channel : Fin 2) (level : ℕ) : ℕ → List (Fin 2 × ℕ)
  | 0 => [(channel, level)]
  | n + 1 => (channel, level) :: (channel, 1 - level) :: bouncing channel level n

/-- The channel that falls first, and rises first, in a cycle. -/
def Direction.leading : Direction → Fin 2
  | .forward => 1
  | .backward => 0

def Direction.trailing : Direction → Fin 2
  | .forward => 0
  | .backward => 1

/-- A full cycle, with the number of bounces of each of its four edges. -/
structure Cycle where
  direction : Direction
  bounces : Fin 4 → ℕ

def Cycle.alerts (c : Cycle) : List (Fin 2 × ℕ) :=
  bouncing c.direction.leading 0 (c.bounces 0) ++
    (bouncing c.direction.trailing 0 (c.bounces 1) ++
      (bouncing c.direction.leading 1 (c.bounces 2) ++
        bouncing c.direction.trailing 1 (c.bounces 3)))

/-- The GPIOs of the two channels of an encoder. -/
structure Channels where
  a : ℕ
  b : ℕ
  distinct : a ≠ b

/-- An encoder as it is constructed, when a callback may have been installed. -/
def Channels.encoder {κ : Type} (c : Channels) (callback : Option κ) : Encoder κ :=
  { (Encoder.initial c.a c.b : Encoder κ) with callback := callback }

namespace Encoder
variable {κ : Type} {e : Encoder κ}

theorem alertAll_append (e : Encoder κ) (l l' : List (Fin 2 × ℕ)) :
    e.alertAll (l ++ l') = do
      let (e', calls) ← e.alertAll l
      let (e'', calls') ← e'.alertAll l'
      return (e'', calls ++ calls') := by
  induction l generalizing e with
  | nil => simp [alertAll]
  | cons x l ih =>
    simp only [List.cons_append, alertAll, ih]
    cases e.alert x.1 x.2 with
    | none => rfl
    | some r =>
      by_cases hint : IsInt r.1.counter
      · cases h : r.1.alertAll l with
        | none => simp [h, hint]
        | some q => cases h' : q.1.alertAll l' <;> simp [h, h', hint]
      · simp [hint]

/-- A run of alerts behind one that calls nothing. -/
theorem alertAll_silent {e' : Encoder κ} {l l' : List (Fin 2 × ℕ)}
    (h : e.alertAll l = some (e', [])) :
    e.alertAll (l ++ l') = e'.alertAll l' := by
  rw [alertAll_append, h]
  cases h' : e'.alertAll l' <;> simp [h']

/-- One run of alerts after the other. -/
theorem alertAll_trans {e' e'' : Encoder κ} {l l' : List (Fin 2 × ℕ)} {calls calls' : List (κ × ℤ)}
    (h : e.alertAll l = some (e', calls)) (h' : e'.alertAll l' = some (e'', calls')) :
    e.alertAll (l ++ l') = some (e'', calls ++ calls') := by
  simp [alertAll_append, h, h']

/-- The state behind an edge. -/
def settled (e : Encoder κ) (channel : Fin 2) (level : ℕ) : Encoder κ :=
  { e with
    states := Function.update e.states channel level
    counter := e.counter + if e.Counts channel level then sign channel else 0
    lastGpio := e.gpios channel }

/-- The calls made for an edge. -/
def called (e : Encoder κ) (channel : Fin 2) (level : ℕ) : List (κ × ℤ) :=
  if e.Counts channel level then (e.callback.map fun f => (f, sign channel)).toList else []

theorem alert_settled (hdistinct : e.gpios 0 ≠ e.gpios 1) (channel : Fin 2) (level : ℕ) :
    ∃ call, e.alert channel level = some (e.settled channel level, call) ∧
      call.toList = e.called channel level := by
  refine ⟨_, alert_eq hdistinct channel level, ?_⟩
  unfold called
  split <;> rfl

/-- A channel that has just changed does not count. -/
theorem not_counts_again (channel : Fin 2) (level level' : ℕ) :
    ¬ (e.settled channel level).Counts channel level' := by
  rintro ⟨hlast, -⟩
  exact hlast rfl

theorem called_again (channel : Fin 2) (level level' : ℕ) :
    (e.settled channel level).called channel level' = [] :=
  if_neg (not_counts_again _ _ _)

theorem counter_again (channel : Fin 2) (level level' : ℕ) :
    ((e.settled channel level).settled channel level').counter =
      (e.settled channel level).counter := by
  show (e.settled channel level).counter + (if _ then _ else _) = _
  rw [if_neg (not_counts_again channel level level'), Int.add_zero]

/-- However often a contact bounces, its edge is counted as if it did not. -/
theorem alertAll_bouncing (hdistinct : e.gpios 0 ≠ e.gpios 1) (channel : Fin 2) (level n : ℕ) :
    e.alertAll (bouncing channel level n) =
      if IsInt (e.settled channel level).counter then
        some (e.settled channel level, e.called channel level)
      else none := by
  induction n generalizing e with
  | zero =>
    obtain ⟨call, halert, hcall⟩ := alert_settled hdistinct channel level
    by_cases hint : IsInt (e.settled channel level).counter <;>
      simp [bouncing, alertAll, halert, hcall, hint]
  | succ n ih =>
    obtain ⟨call, halert, hcall⟩ := alert_settled hdistinct channel level
    obtain ⟨call', halert', hcall'⟩ :=
      alert_settled (e := e.settled channel level) hdistinct channel (1 - level)
    have hrest : ((e.settled channel level).settled channel (1 - level)).alertAll
        (bouncing channel level n) = _ := ih hdistinct
    have hback : ((e.settled channel level).settled channel (1 - level)).settled channel level =
        e.settled channel level := by
      simp [settled, Counts]
    rw [called_again] at hcall' hrest
    by_cases hint : IsInt (e.settled channel level).counter <;>
      simp [bouncing, alertAll, halert, hcall, halert', hcall', hrest, hback, hint, counter_again]

/-- Both levels are known to be high. -/
structure Resting (e : Encoder κ) : Prop where
  distinct : e.gpios 0 ≠ e.gpios 1
  high : ∀ c, e.states c = 1

theorem trailing_ne (d : Direction) : d.trailing ≠ d.leading := by
  cases d <;> decide

theorem sign_trailing (d : Direction) : sign d.trailing = d.sign := by
  cases d <;> rfl

theorem update_high {channel : Fin 2} {states : Fin 2 → ℕ} {level : ℕ} :
    (∀ c, Function.update states channel level c = 1) ↔
      level = 1 ∧ ∀ c, c ≠ channel → states c = 1 :=
  Function.forall_update_iff states fun _ level => level = 1

/-- An edge that falls is not counted. -/
theorem settled_low (e : Encoder κ) (channel : Fin 2) :
    e.settled channel 0 =
        { e with states := Function.update e.states channel 0, lastGpio := e.gpios channel } ∧
      e.called channel 0 = [] := by
  have hnot : ¬ e.Counts channel 0 := by
    rintro ⟨-, hhigh⟩
    exact absurd (update_high.mp hhigh).1 (by decide)
  simp [settled, called, hnot]

/-- While the other channel is low, an edge that rises is not counted. -/
theorem not_counts_low {channel other : Fin 2} (hother : other ≠ channel)
    (hlow : e.states other = 0) : ¬ e.Counts channel 1 := by
  rintro ⟨-, hhigh⟩
  have hone := (update_high.mp hhigh).2 other hother
  rw [hlow] at hone
  contradiction

theorem gpios_ne (hdistinct : e.gpios 0 ≠ e.gpios 1) (d : Direction) :
    (e.gpios d.trailing : ℤ) ≠ e.gpios d.leading := by
  cases d
  · exact_mod_cast hdistinct
  · exact_mod_cast hdistinct.symm

theorem eq_leading {d : Direction} {channel : Fin 2} (h : channel ≠ d.trailing) :
    channel = d.leading := by
  cases d <;> simp only [Direction.trailing, Direction.leading] at h ⊢ <;> omega

/-- A cycle is counted once, when its last edge has risen. -/
theorem Resting.cycle (h : e.Resting) (hint : IsInt e.counter) (c : Cycle) :
    ∃ e', e.alertAll c.alerts =
        (if IsInt (e.counter + c.direction.sign) then
          some (e', (e.callback.map fun f => (f, c.direction.sign)).toList)
        else none) ∧
      e'.Resting ∧ e'.callback = e.callback ∧
      e'.counter = e.counter + c.direction.sign := by
  obtain ⟨d, bounces⟩ := c
  let e1 := e.settled d.leading 0
  let e2 := e1.settled d.trailing 0
  let e3 := e2.settled d.leading 1
  let e4 := e3.settled d.trailing 1
  have hrise : ¬ e2.Counts d.leading 1 :=
    not_counts_low (trailing_ne d) (Function.update_self ..)
  have hcounts : e3.Counts d.trailing 1 := by
    refine ⟨gpios_ne h.distinct d, update_high.mpr ⟨rfl, fun channel hchannel => ?_⟩⟩
    rw [eq_leading hchannel]
    exact Function.update_self ..
  have hcounter1 : e1.counter = e.counter := by
    simp [e1, settled_low]
  have hcounter2 : e2.counter = e.counter := by
    simp [e2, e1, settled_low]
  have hcounter3 : e3.counter = e.counter := by
    simp [e3, settled, hrise, hcounter2]
  have hcounter4 : e4.counter = e.counter + d.sign := by
    simp [e4, settled, hcounts, hcounter3, sign_trailing]
  have h1 : e.alertAll (bouncing d.leading 0 (bounces 0)) = some (e1, []) := by
    rw [alertAll_bouncing h.distinct, (settled_low e d.leading).2, if_pos (hcounter1 ▸ hint)]
  have h2 : e1.alertAll (bouncing d.trailing 0 (bounces 1)) = some (e2, []) := by
    rw [alertAll_bouncing (e := e1) h.distinct, (settled_low e1 d.trailing).2,
      if_pos (hcounter2 ▸ hint)]
  have h3 : e2.alertAll (bouncing d.leading 1 (bounces 2)) = some (e3, []) := by
    rw [alertAll_bouncing (e := e2) h.distinct, called, if_neg hrise, if_pos (hcounter3 ▸ hint)]
  have h4 : e3.alertAll (bouncing d.trailing 1 (bounces 3)) =
      if IsInt (e.counter + d.sign) then
        some (e4, (e.callback.map fun f => (f, d.sign)).toList)
      else none := by
    rw [alertAll_bouncing (e := e3) h.distinct, called, if_pos hcounts, sign_trailing]
    exact hcounter4 ▸ rfl
  refine ⟨e4, ?_, ⟨h.distinct, hcounts.2⟩, rfl, hcounter4⟩
  show e.alertAll (_ ++ (_ ++ (_ ++ _))) = _
  rw [alertAll_silent h1, alertAll_silent h2, alertAll_silent h3, h4]

end Encoder

/-- What cycles add to the counter. -/
def total (cycles : List Cycle) : ℤ := (cycles.map fun c => c.direction.sign).sum

/-- From `n` on the counter always stays within the bounds. -/
def WithinInt (n : ℤ) (cycles : List Cycle) : Prop :=
  ∀ front, front <+: cycles → IsInt (n + total front)

theorem withinInt_cons {n : ℤ} {c : Cycle} {cycles : List Cycle} (hint : IsInt n) :
    WithinInt n (c :: cycles) ↔ WithinInt (n + c.direction.sign) cycles := by
  have htotal (front : List Cycle) :
      n + total (c :: front) = n + c.direction.sign + total front := by
    simp [total, Int.add_assoc]
  constructor
  · intro h front hfront
    rw [← htotal front]
    exact h (c :: front) ((List.prefix_cons_inj c).mpr hfront)
  · intro h front hfront
    rcases List.prefix_cons_iff.mp hfront with rfl | ⟨rest, rfl, hrest⟩
    · simpa [total] using hint
    · rw [htotal rest]
      exact h rest hrest

theorem WithinInt.head {n : ℤ} {cycles : List Cycle} (h : WithinInt n cycles) : IsInt n := by
  simpa [total] using h [] List.nil_prefix

theorem Encoder.Resting.cycles {κ : Type} {e : Encoder κ} (h : e.Resting) (hint : IsInt e.counter)
    (cycles : List Cycle) :
    (WithinInt e.counter cycles → ∃ e', e.alertAll (cycles.flatMap Cycle.alerts) =
        some (e', cycles.flatMap fun c => (e.callback.map fun f => (f, c.direction.sign)).toList) ∧
      e'.counter = e.counter + total cycles) ∧
    (¬ WithinInt e.counter cycles → e.alertAll (cycles.flatMap Cycle.alerts) = none) := by
  induction cycles generalizing e with
  | nil =>
    refine ⟨fun _ => ⟨e, rfl, (Int.add_zero _).symm⟩, fun hnot => absurd ?_ hnot⟩
    intro front hfront
    rw [List.prefix_nil.mp hfront]
    simpa [total] using hint
  | cons c cycles ih =>
    obtain ⟨e1, hrun, hrest, hcallback, hcounter⟩ := h.cycle hint c
    rw [withinInt_cons hint, ← hcounter, List.flatMap_cons]
    rw [← hcounter] at hrun
    by_cases hwithin : IsInt e1.counter
    · rw [if_pos hwithin] at hrun
      obtain ⟨hsome, hnone⟩ := ih hrest hwithin
      rw [hcallback] at hsome
      constructor
      · intro hall
        obtain ⟨e2, hrun2, hcounter2⟩ := hsome hall
        refine ⟨e2, Encoder.alertAll_trans hrun hrun2, ?_⟩
        simp [hcounter2, hcounter, total, Int.add_assoc]
      · intro hnot
        simp [Encoder.alertAll_append, hrun, hnone hnot]
    · rw [if_neg hwithin] at hrun
      refine ⟨fun hall => absurd hall.head hwithin, fun _ => ?_⟩
      simp [Encoder.alertAll_append, hrun]

/-- The forward cycles and the backward cycles make up the sum of the directions. -/
theorem total_eq (cycles : List Cycle) :
    total cycles = (cycles.countP fun c => c.direction = .forward : ℕ) -
        (cycles.countP fun c => c.direction = .backward : ℕ) := by
  unfold total
  induction cycles with
  | nil => rfl
  | cons c cycles ih =>
    rw [List.map_cons, List.sum_cons, ih, List.countP_cons, List.countP_cons]
    cases c.direction <;> simp [Direction.sign] <;> omega

theorem withinInt_zero (cycles : List Cycle) :
    WithinInt 0 cycles ↔ ∀ front, front <+: cycles →
      IsInt ((front.countP fun c => c.direction = .forward : ℕ) -
        (front.countP fun c => c.direction = .backward : ℕ)) := by
  unfold WithinInt
  simp only [Int.zero_add, total_eq]

theorem Channels.encoder_resting {κ : Type} (channels : Channels) (callback : Option κ) :
    (channels.encoder callback).Resting := by
  refine ⟨channels.distinct, fun channel => ?_⟩
  match channel with
  | 0 => rfl
  | 1 => rfl

/-- However the contacts bounce, an encoder counts every cycle of its shaft once and in its
direction, and calls its callback as often, exactly when the difference of the cycles so far is
always one that an `int` can hold. -/
theorem cycles_counted {κ : Type} (channels : Channels) (callback : Option κ)
    (cycles : List Cycle) :
    (∃ e calls, (channels.encoder callback).alertAll (cycles.flatMap Cycle.alerts) =
        some (e, calls) ∧
      e.counter = (cycles.countP fun c => c.direction = .forward : ℕ) -
        (cycles.countP fun c => c.direction = .backward : ℕ) ∧
      ∀ f, callback = some f → calls = cycles.map fun c => (f, c.direction.sign)) ↔
    ∀ front, front <+: cycles → IsInt ((front.countP fun c => c.direction = .forward : ℕ) -
      (front.countP fun c => c.direction = .backward : ℕ)) := by
  have hint : IsInt (channels.encoder callback).counter := isInt_zero
  obtain ⟨hsome, hnone⟩ := (channels.encoder_resting callback).cycles hint cycles
  have hwithin : WithinInt (channels.encoder callback).counter cycles ↔ _ := withinInt_zero cycles
  rw [← hwithin]
  constructor
  · rintro ⟨e, calls, hrun, -, -⟩
    by_contra hnot
    cases hrun.symm.trans (hnone hnot)
  · intro hall
    obtain ⟨e, hrun, hcounter⟩ := hsome hall
    refine ⟨e, _, hrun, ?_, ?_⟩
    · rw [hcounter, total_eq]
      exact Int.zero_add _
    · rintro f rfl
      exact List.map_eq_flatMap.symm

/-- Cycles forward until there are too many for an `int`. -/
theorem forward_none {κ : Type} (channels : Channels) (callback : Option κ) {n : ℕ}
    (hn : ¬ IsInt n) :
    (channels.encoder callback).alertAll
      ((List.replicate n ⟨.forward, fun _ => 0⟩).flatMap Cycle.alerts) = none := by
  have hint : IsInt (channels.encoder callback).counter := isInt_zero
  apply ((channels.encoder_resting callback).cycles hint _).2
  intro hwithin
  have htotal : total (List.replicate n ⟨.forward, fun _ => 0⟩) = n := by
    simp [total, Direction.sign]
  have hall : IsInt (0 + total (List.replicate n ⟨.forward, fun _ => 0⟩)) :=
    hwithin _ List.prefix_rfl
  rw [htotal, Int.zero_add] at hall
  exact hn hall

theorem not_isInt : ¬ IsInt (2 ^ 31 : ℕ) := by
  rintro ⟨-, hlt⟩
  exact absurd hlt (by norm_num)

/-- A shaft that turns forward for so long that the counter overflows. -/
theorem forward_overflows : ¬ ∃ e calls, ((Channels.mk 2 3 (by decide)).encoder (some ())).alertAll
    ((List.replicate (2 ^ 31) ⟨.forward, fun _ => 0⟩).flatMap Cycle.alerts) = some (e, calls) := by
  rintro ⟨e, calls, hrun⟩
  have hnone := forward_none (κ := Unit) ⟨2, 3, by decide⟩ (some ()) not_isInt
  cases hrun.symm.trans hnone

/-- A cycle forward and one backward, with bounces on every edge. -/
example : ((Channels.encoder ⟨2, 3, by decide⟩ (some ())).alertAll
    ([⟨.forward, ![1, 2, 3, 4]⟩, ⟨.backward, ![4, 3, 2, 1]⟩].flatMap Cycle.alerts)).map
      Prod.snd = some [((), 1), ((), -1)] := by
  decide

end Rckam.Tracker
