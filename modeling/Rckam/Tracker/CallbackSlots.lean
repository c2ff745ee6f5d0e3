import Rckam.Library.Erasure
import Rckam.Library.Slots
import Rckam.Tracker.OnCourse

/-! The callback slots of the encoders while `interrupt` calls what is installed in them. -/
namespace Rckam.Tracker
open Erasure Outcomes
open Tb6612fng (Motor)

/-- The slots are those of the encoders; what is installed is a copy of a monitor. -/
abbrev SlotEvent := Slots.Event Motor GotoMonitor

abbrev Watched := Logged Machine SlotEvent

abbrev WatchedAction := EStateM Thrown Watched

section Definitions
variable (lib : Pigpio) (bridge : Tb6612fng)

/-- `callback` on the copy in the slot of an encoder, whose members are used one after the other. -/
def GotoMonitor.watchedCallback (slot : Motor) (monitor : GotoMonitor) (_increment : ℤ) :
    WatchedAction Unit := do
  -- `encoder_` and `finalPosition_`
  note (.used slot)
  let s := (← get).state
  if some (s.encoders monitor.encoder).counter = monitor.finalPosition then
    -- `encoder_`
    note (.used slot)
    silently (set (s.setEncoder monitor.encoder (s.encoders monitor.encoder).clearCallback))
    note (.assigned monitor.encoder none)
    -- `stop_`
    note (.used slot)
    if slot = monitor.encoder then throw .undefined
    match monitor.stop with
    | some stop => silently (stop.call lib bridge)
    | none => throw .badFunctionCall

/-- `gotoPosition`, which installs a copy in each slot. -/
def PanTiltMotors.watchedGotoPosition (pan tilt : ℤ) : WatchedAction Unit := do
  let s := (← get).state
  let panDirection : Tb6612fng.Direction := if pan < (s.encoders .a).counter then .ccw else .cw
  let tiltDirection : Tb6612fng.Direction := if tilt < (s.encoders .b).counter then .ccw else .cw
  let t := s.arm .a pan (.pan 0)
  let u := t.arm .b tilt (.tilt 0)
  silently (set t)
  note (.assigned .a (t.encoders .a).callback)
  silently (set u)
  note (.assigned .b (u.encoders .b).callback)
  silently do
    PanTiltMotors.panTowards lib bridge panDirection 20
    PanTiltMotors.tiltTowards lib bridge tiltDirection 20

/-- An alert; the call of what is installed ends also when it throws. -/
def watchedAlert (a : Alert) : WatchedAction Unit := do
  let s := (← get).state
  match (s.encoders a.motor).alert a.channel a.level with
  | none => throw .assertionFailed
  | some (encoder, called) =>
    silently (set (s.setEncoder a.motor encoder))
    match called with
    | none => return ()
    | some (monitor, increment) =>
      note (.entered a.motor)
      ending (monitor.watchedCallback lib bridge a.motor increment) (.returned a.motor)

/-- The other operations use no slot. -/
def PanTiltMotors.Operation.watched : PanTiltMotors.Operation → WatchedAction Unit
  | .gotoPosition pan tilt => PanTiltMotors.watchedGotoPosition lib bridge pan tilt
  | .alert a => watchedAlert lib bridge a
  | o => silently (o.perform lib bridge)

/-- The state behind some operations, of which those that throw end early. The first that has no
defined behaviour is the last that is watched. -/
def watchedRun : Watched → List PanTiltMotors.Operation → Watched
  | s, [] => s
  | s, o :: rest =>
      match left (o.watched lib bridge) s with
      | some t => watchedRun t rest
      | none => (outcome (o.watched lib bridge) s).2

end Definitions

/-- An operation makes an encoder arrive. -/
def PanTiltMotors.Operation.Arrives (s : Machine) : PanTiltMotors.Operation → Prop
  | .alert a => a.Arrives s
  | _ => False

/-- No operation makes an encoder arrive. -/
def NeverArrives (lib : Pigpio) (bridge : Tb6612fng) : Machine → List PanTiltMotors.Operation → Prop
  | _, [] => True
  | s, o :: rest =>
      ¬ o.Arrives s ∧ ∀ t, left (o.perform lib bridge) s = some t → NeverArrives lib bridge t rest

/-! ### What is watched is what the motors do -/

section Erased
variable (lib : Pigpio) (bridge : Tb6612fng)

theorem watchedCallback_erases (slot : Motor) (monitor : GotoMonitor) (i : ℤ) :
    Erases Logged.state (monitor.watchedCallback lib bridge slot i)
      (monitor.callback lib bridge slot i) := by
  unfold GotoMonitor.watchedCallback GotoMonitor.callback
  apply Erases.note
  apply erases_get
  intro s
  apply Erases.ite Iff.rfl
  · apply Erases.note
    apply (erases_silently _).bind
    intro _
    apply Erases.note
    apply Erases.note
    apply erases_check
    cases monitor.stop with
    | none => exact erases_throw _
    | some stop => exact erases_silently _
  · exact erases_pure _

theorem watchedAlert_erases (a : Alert) :
    Erases Logged.state (watchedAlert lib bridge a) (alert lib bridge a) := by
  unfold watchedAlert alert
  apply erases_get
  intro s
  dsimp only
  cases (s.state.encoders a.motor).alert a.channel a.level with
  | none => exact erases_throw _
  | some result =>
    obtain ⟨encoder, called⟩ := result
    apply (erases_silently _).bind
    intro _
    cases called with
    | none => exact erases_pure _
    | some call =>
      apply Erases.note
      exact (watchedCallback_erases lib bridge _ _ _).ending _

/-- The first copy is installed in a state that is left at once. -/
theorem watchedGotoPosition_erases (pan tilt : ℤ) :
    Erases Logged.state (PanTiltMotors.watchedGotoPosition lib bridge pan tilt)
      (PanTiltMotors.gotoPosition lib bridge pan tilt) := by
  unfold PanTiltMotors.watchedGotoPosition PanTiltMotors.gotoPosition
  apply erases_get
  intro s
  have hboth (e : SlotEvent) (t : Machine) (towards : Action Unit) :
      Erases Logged.state (do silently (set t); note e; silently towards : WatchedAction Unit)
        (do set t; towards) := by
    apply (erases_silently _).bind
    intro _
    exact (erases_silently towards).note e
  intro s'
  exact hboth _ _ _ ⟨s.state.arm .a pan (.pan 0), s'.events ++ [_]⟩

theorem watched_erases (o : PanTiltMotors.Operation) :
    Erases Logged.state (o.watched lib bridge) (o.perform lib bridge) := by
  cases o with
  | gotoPosition pan tilt => exact watchedGotoPosition_erases lib bridge pan tilt
  | alert a => exact watchedAlert_erases lib bridge a
  | command c => exact erases_silently _
  | setZero => exact erases_silently (PanTiltMotors.Operation.setZero.perform lib bridge)
  | drive => exact erases_silently (PanTiltMotors.Operation.drive.perform lib bridge)
  | standby => exact erases_silently (PanTiltMotors.Operation.standby.perform lib bridge)

theorem watched_left (o : PanTiltMotors.Operation) (s : Watched) :
    (left (o.watched lib bridge) s).map Logged.state = left (o.perform lib bridge) s.state := by
  have hends := watched_erases lib bridge o s
  unfold Ends at hends
  unfold left
  cases hrun : (o.watched lib bridge).run s with
  | ok v t =>
    rw [hrun] at hends
    rw [hends, Option.map_some]
  | error e t =>
    rw [hrun] at hends
    rw [hends]
    by_cases hundefined : e = .undefined
    · simp only [if_pos hundefined, Option.map_none]
    · simp only [if_neg hundefined, Option.map_some]

theorem left_outcome {action : WatchedAction Unit} {s t : Watched} (h : left action s = some t) :
    (outcome action s).2 = t := by
  unfold left at h
  unfold outcome
  cases hrun : action.run s with
  | ok v u =>
    rw [hrun] at h
    exact Option.some.inj h
  | error e u =>
    rw [hrun] at h
    exact Option.some.inj (Option.ite_none_left_eq_some.mp h).2

end Erased

/-! ### What an operation does to the slots -/

/-- An operation that does not arrive leaves the slots alone, calls a copy that goes on, or installs
a copy in each slot. -/
inductive SlotStep (s t : Machine) : List SlotEvent → Prop
  | kept (hkept : ∀ motor, (t.encoders motor).callback = (s.encoders motor).callback) :
      SlotStep s t []
  | called (motor : Motor) (monitor : GotoMonitor)
      (hcallback : (s.encoders motor).callback = some monitor)
      (hkept : ∀ motor, (t.encoders motor).callback = (s.encoders motor).callback) :
      SlotStep s t (Slots.Ownership.calling motor 1 ++ [.returned motor])
  | installed (monitors : Motor → GotoMonitor)
      (hinstalled : ∀ motor, (t.encoders motor).callback = some (monitors motor)) :
      SlotStep s t [.assigned .a (some (monitors .a)), .assigned .b (some (monitors .b))]

section Steps
variable (lib : Pigpio) (bridge : Tb6612fng) {s : Watched}

theorem watchedCallback_yields {slot : Motor} {monitor : GotoMonitor}
    (hslot : monitor.encoder = slot)
    (i : ℤ) :
    Yields (monitor.watchedCallback lib bridge slot i) s
      (if some (s.state.position slot) = monitor.finalPosition then
        [.used slot, .used slot, .assigned slot none, .used slot]
      else [.used slot]) := by
  subst hslot
  unfold GotoMonitor.watchedCallback Machine.position
  by_cases hfinal : some (s.state.encoders monitor.encoder).counter = monitor.finalPosition
  · rw [if_pos hfinal]
    apply Yields.note
    apply yields_get
    dsimp only
    rw [if_pos hfinal]
    apply Yields.note
    apply Yields.set
    apply Yields.note
    apply Yields.note
    rw [if_pos rfl]
    exact yields_throw _
  · rw [if_neg hfinal]
    apply Yields.note
    apply yields_get
    dsimp only
    rw [if_neg hfinal]
    exact yields_pure _

theorem watchedAlert_quiet {a : Alert} {e : Encoder GotoMonitor}
    (h : s.state.turned a = some (e, none)) : Yields (watchedAlert lib bridge a) s [] := by
  unfold Machine.turned at h
  unfold watchedAlert
  apply yields_get
  simp only [h]
  exact Yields.set (yields_pure _)

theorem watchedAlert_called {a : Alert} {e : Encoder GotoMonitor} {monitor : GotoMonitor} {i : ℤ}
    (h : s.state.turned a = some (e, some (monitor, i))) (hencoder : monitor.encoder = a.motor) :
    Yields (watchedAlert lib bridge a) s
      (.entered a.motor :: ((if some e.counter = monitor.finalPosition then
        [.used a.motor, .used a.motor, .assigned a.motor none, .used a.motor]
      else [.used a.motor]) ++ [.returned a.motor])) := by
  unfold Machine.turned at h
  unfold watchedAlert
  apply yields_get
  simp only [h]
  apply Yields.set
  apply Yields.note
  have hposition : (s.state.setEncoder a.motor e).position a.motor = e.counter :=
    congrArg Encoder.counter (setEncoder_self e)
  rw [← hposition]
  exact (watchedCallback_yields lib bridge hencoder i).ending _

theorem watchedAlert_step (hwired : s.state.Wired) {a : Alert} (hnot : ¬ a.Arrives s.state) :
    ∃ es t, Yields (watchedAlert lib bridge a) s es ∧
      left (alert lib bridge a) s.state = some t ∧ SlotStep s.state t es := by
  obtain ⟨e, called, hturned, hkept, halert⟩ := alert_run lib bridge (hwired.own a.motor)
  cases halert with
  | quiet _ hrun =>
    cases called with
    | none =>
      exact ⟨[], _, watchedAlert_quiet lib bridge hturned, left_ok hrun,
        .kept (setEncoder_callback hkept)⟩
    | some call =>
      obtain ⟨monitor, i⟩ := call
      have hcallback := turned_callback hturned
      have hyields := watchedAlert_called lib bridge hturned (hwired.own a.motor monitor hcallback)
      have hfinal : some e.counter ≠ monitor.finalPosition := fun hfinal =>
        hnot ((arrives_iff hturned hcallback).mpr ⟨⟨i, rfl⟩, hfinal⟩)
      rw [if_neg hfinal] at hyields
      exact ⟨_, _, hyields, left_ok hrun,
        .called a.motor monitor hcallback (setEncoder_callback hkept)⟩
  | arriving harrives => exact absurd harrives hnot

/-- An alert that arrives uses the copy that it calls behind the end of this copy. -/
theorem watchedAlert_arrives (hwired : s.state.Wired) {a : Alert} (harrives : a.Arrives s.state) :
    left (alert lib bridge a) s.state = none ∧
      ∃ motor monitor, (s.state.encoders motor).callback = some monitor ∧
        Yields (watchedAlert lib bridge a) s
          (Slots.Ownership.calling motor 2 ++
            [.assigned motor none, .used motor, .returned motor]) := by
  obtain ⟨e, called, hturned, hkept, halert⟩ := alert_run lib bridge (hwired.own a.motor)
  cases halert with
  | quiet hnot => exact absurd harrives hnot
  | arriving _ hrun =>
    refine ⟨left_undefined hrun, a.motor, ?_⟩
    cases hcallback : (s.state.encoders a.motor).callback with
    | none => exact absurd harrives (not_arrives_of_callback hcallback)
    | some monitor =>
      obtain ⟨⟨i, rfl⟩, hfinal⟩ := (arrives_iff hturned hcallback).mp harrives
      have hyields := watchedAlert_called lib bridge hturned (hwired.own a.motor monitor hcallback)
      rw [if_pos hfinal] at hyields
      exact ⟨monitor, rfl, hyields⟩

theorem watchedGotoPosition_yields (pan tilt : ℤ) :
    Yields (PanTiltMotors.watchedGotoPosition lib bridge pan tilt) s
      [.assigned .a (some ⟨.a, some pan, some (.pan 0)⟩),
        .assigned .b (some ⟨.b, some tilt, some (.tilt 0)⟩)] := by
  unfold PanTiltMotors.watchedGotoPosition
  apply yields_get
  dsimp only
  apply Yields.set
  rw [(arm_self pan (.pan 0)).2, (arm_self tilt (.tilt 0)).2]
  apply Yields.note
  apply Yields.set
  apply Yields.note
  exact yields_silently _

/-- What an operation does to the slots. -/
theorem watched_step (hwired : s.state.Wired) {o : PanTiltMotors.Operation}
    (hnot : ¬ o.Arrives s.state) :
    ∃ es t, Yields (o.watched lib bridge) s es ∧ left (o.perform lib bridge) s.state = some t ∧
      SlotStep s.state t es := by
  have hsilent (o : PanTiltMotors.Operation) :
      Yields (silently (o.perform lib bridge) : WatchedAction Unit) s [] := yields_silently _
  cases o with
  | alert a => exact watchedAlert_step lib bridge hwired hnot
  | gotoPosition pan tilt =>
    have hleft : left (PanTiltMotors.gotoPosition lib bridge pan tilt) s.state = _ :=
      gotoPosition_requested pan tilt
    exact ⟨_, _, watchedGotoPosition_yields lib bridge pan tilt, hleft,
      .installed _ fun motor => (gotoPosition_sent hleft motor).callback⟩
  | command c =>
    refine ⟨[], _, yields_silently _, c.requests_perform.left s.state, .kept fun motor => ?_⟩
    rw [requestAll_encoders]
  | setZero => exact ⟨[], _, hsilent .setZero, rfl, .kept fun _ => rfl⟩
  | drive => exact ⟨[], _, hsilent .drive, rfl, .kept fun _ => rfl⟩
  | standby => exact ⟨[], _, hsilent .standby, rfl, .kept fun _ => rfl⟩

/-- What an operation does to the slots when it arrives. -/
theorem watched_arrives (hwired : s.state.Wired) {o : PanTiltMotors.Operation}
    (harrives : o.Arrives s.state) :
    left (o.perform lib bridge) s.state = none ∧
      ∃ motor monitor, (s.state.encoders motor).callback = some monitor ∧
        Yields (o.watched lib bridge) s
          (Slots.Ownership.calling motor 2 ++
            [.assigned motor none, .used motor, .returned motor]) := by
  cases o with
  | alert a => exact watchedAlert_arrives lib bridge hwired harrives
  | gotoPosition pan tilt => cases harrives
  | command c => cases harrives
  | setZero => cases harrives
  | drive => cases harrives
  | standby => cases harrives

end Steps

/-! ### The copies in the slots -/

/-- Between the operations the slots hold copies of what is installed in the encoders. -/
structure Tracks (own : Slots.Ownership Motor GotoMonitor) (s : Machine) : Prop where
  sound : own.Sound
  slots : ∀ motor, (own.slots motor).map Slots.Copy.object = (s.encoders motor).callback

section Tracking
variable {own : Slots.Ownership Motor GotoMonitor} {s t : Machine} {es : List SlotEvent}

theorem Tracks.held (h : Tracks own s) {motor : Motor} {monitor : GotoMonitor}
    (hcallback : (s.encoders motor).callback = some monitor) :
    ∃ copy, own.slots motor = some copy ∧ copy.object = monitor := by
  apply Option.map_eq_some_iff.mp
  rw [h.slots motor, hcallback]

theorem Tracks.congr (h : Tracks own s)
    (hkept : ∀ motor, (t.encoders motor).callback = (s.encoders motor).callback) :
    Tracks own t :=
  ⟨h.sound, fun motor => (h.slots motor).trans (hkept motor).symm⟩

/-- An operation that does not arrive uses the slots as it should. -/
theorem Tracks.step (h : Tracks own s) (hstep : SlotStep s t es) :
    own.Safe es ∧ Tracks (own.after es) t := by
  cases hstep with
  | kept hkept => exact ⟨trivial, h.congr hkept⟩
  | called motor monitor hcallback hkept =>
    obtain ⟨copy, hcopy, -⟩ := h.held hcallback
    obtain ⟨hsafe, hafter⟩ := h.sound.call hcopy 1
    rw [hafter]
    exact ⟨hsafe, h.congr hkept⟩
  | installed monitors hinstalled =>
    obtain ⟨hpan, hsound⟩ := h.sound.assigned .a (some (monitors .a))
    obtain ⟨htilt, hsound⟩ := hsound.assigned .b (some (monitors .b))
    refine ⟨⟨hpan, htilt, trivial⟩, hsound, fun motor => ?_⟩
    rw [hinstalled motor]
    cases motor <;> rfl

/-- An operation that arrives assigns the slot of the copy that it is calling, and then it uses the
copy, which is destroyed. -/
theorem Tracks.arrived (h : Tracks own s) {motor : Motor} {monitor : GotoMonitor}
    (hcallback : (s.encoders motor).callback = some monitor) :
    ¬ (own.after (Slots.Ownership.calling motor 2)).Permits (.assigned motor none) ∧
      ¬ (own.after (Slots.Ownership.calling motor 2 ++ [.assigned motor none])).Permits
        (.used motor) := by
  obtain ⟨copy, hcopy, -⟩ := h.held hcallback
  exact Slots.Ownership.reassigned_in_call hcopy 2 none

end Tracking

section Runs
variable (lib : Pigpio) (bridge : Tb6612fng) {s : Watched}

/-- A run is safe as long as nothing arrives. -/
theorem watchedRun_safe_iff (hwired : s.state.Wired)
    (hsafe : Slots.Ownership.empty.Safe s.events)
    (h : Tracks (Slots.Ownership.empty.after s.events) s.state)
    (operations : List PanTiltMotors.Operation) :
    Slots.Ownership.empty.Safe (watchedRun lib bridge s operations).events ↔
      NeverArrives lib bridge s.state operations := by
  induction operations generalizing s with
  | nil => exact iff_of_true hsafe trivial
  | cons o operations ih =>
    have hstate := watched_left lib bridge o s
    unfold watchedRun NeverArrives
    by_cases harrives : o.Arrives s.state
    · obtain ⟨hleft, motor, monitor, hcallback, hyields⟩ :=
        watched_arrives lib bridge hwired harrives
      rw [hleft, Option.map_eq_none_iff] at hstate
      rw [hstate, hyields.outcome, Slots.Ownership.safe_append, Slots.Ownership.safe_append]
      refine iff_of_false ?_ fun hnever => hnever.1 harrives
      rintro ⟨-, -, hassigned, -⟩
      exact (h.arrived hcallback).1 hassigned
    · obtain ⟨es, t, hyields, hleft, hstep⟩ := watched_step lib bridge hwired harrives
      obtain ⟨hes, htracks⟩ := h.step hstep
      rw [hleft, Option.map_eq_some_iff] at hstate
      obtain ⟨u, hu, rfl⟩ := hstate
      have hevents : u.events = s.events ++ es := left_outcome hu ▸ hyields.outcome
      simp only [hu, hleft, harrives, not_false_eq_true, true_and, Option.some.injEq, forall_eq']
      apply ih (hwired.left hleft)
      · rw [hevents, Slots.Ownership.safe_append]
        exact ⟨hsafe, hes⟩
      · rw [hevents, Slots.Ownership.after_append]
        exact htracks

/-- A run from a state in which nothing has been watched. -/
theorem watchedRun_fresh_iff {s : Machine} (hwired : s.Wired)
    (h : Tracks Slots.Ownership.empty s) (operations : List PanTiltMotors.Operation) :
    Slots.Ownership.empty.Safe (watchedRun lib bridge ⟨s, []⟩ operations).events ↔
      NeverArrives lib bridge s operations :=
  watchedRun_safe_iff lib bridge (s := ⟨s, []⟩) hwired trivial h operations

end Runs

theorem initial_tracks (panA panB tiltA tiltB : ℕ) :
    Tracks Slots.Ownership.empty (.initial panA panB tiltA tiltB) := by
  refine ⟨Slots.Ownership.empty_sound, fun motor => ?_⟩
  cases motor <;> rfl

/-- From the constructor on, no callback slot is assigned and no destroyed copy is used during a
call exactly when no alert brings an encoder to the final position that is installed in it. -/
theorem callbackSlots_safe_iff (lib : Pigpio) (bridge : Tb6612fng) (panA panB tiltA tiltB : ℕ)
    (operations : List PanTiltMotors.Operation) :
    Slots.Ownership.empty.Safe
        (watchedRun lib bridge ⟨.initial panA panB tiltA tiltB, []⟩ operations).events ↔
      NeverArrives lib bridge (.initial panA panB tiltA tiltB) operations :=
  watchedRun_fresh_iff lib bridge (initial_onCourse panA panB tiltA tiltB).1
    (initial_tracks panA panB tiltA tiltB) operations

/-- The pan axis is sent one step ahead, and its encoder makes this step. -/
def oneStep : List PanTiltMotors.Operation :=
  [.gotoPosition 1 5, .alert ⟨.a, 1, 0⟩, .alert ⟨.a, 0, 0⟩, .alert ⟨.a, 1, 1⟩, .alert ⟨.a, 0, 1⟩]

/-- When the pan axis arrives its callback is cleared while it is being called. -/
theorem cleared_in_call : ¬ Slots.Ownership.empty.Safe
    (watchedRun quietPigpio.answers defaultBridge ⟨.initial 2 3 19 26, []⟩ oneStep).events := by
  intro hsafe
  have hiff := watchedRun_fresh_iff quietPigpio.answers defaultBridge
    (initial_onCourse 2 3 19 26).1 (initial_tracks 2 3 19 26) oneStep
  have hnever := hiff.mp hsafe
  have harrives := ((((hnever.2 _ rfl).2 _ rfl).2 _ rfl).2 _ rfl).1
  exact harrives ⟨1, rfl, by decide, by decide, rfl⟩

end Rckam.Tracker
