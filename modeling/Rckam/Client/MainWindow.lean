import Rckam.Client.CriticalSections

/-! The start/stop button of `MainWindow`, and what it makes of the image loader. -/
namespace Rckam.MainWindow
open DoubleBuffer (Role)

/-- A member `std::thread` of the loader, and whether its function still executes. -/
inductive Thread where
  | none
  | executing
  | ended
  deriving DecidableEq, Repr

/-- Only the destructor of the loader joins its threads. -/
def Thread.joinable (t : Thread) : Bool := t ≠ .none

/-- What the handler of the button and the loader look at. -/
structure Preview where
  active : Bool
  ipAddress : String
  dataPort : ℕ
  stop : Bool
  thread : Role → Thread
  socketOpen : Bool

/-- How `start` can fail. `alreadyOpen` is what `socket_.open` throws for an open socket. -/
inductive Failure where
  | invalidAddress (what : String)
  | assertionFailed
  | alreadyOpen
  | sendFailed (message : String)
  deriving DecidableEq, Repr

/-- What `make_address_v4` throws, and the error that `send_to` reports. -/
structure Network where
  addressError : Option String
  sendError : Option (ℤ × String)

/-- The icon and the status that a toggle shows, and the exception that leaves the handler. -/
structure Handled where
  icon : String
  status : String
  failure : Option Failure

namespace Preview

/-- The window before the button is used. -/
def initial (ipAddress : String) (dataPort : ℕ) : Preview where
  active := false
  ipAddress := ipAddress
  dataPort := dataPort
  stop := true
  thread := fun _ => .none
  socketOpen := false

def isRunning (s : Preview) : Bool :=
  (s.thread .reader).joinable || (s.thread .setter).joinable

def sendMessage (s : Preview) (value : ℤ) (message : String) : String :=
  "ERROR: failed to send to remote socket '" ++ s.ipAddress ++ ":" ++ toString s.dataPort ++
    "' (check that server is ready): " ++ toString value ++ ": " ++ message

/-- `ImageLoader::start`. The socket stays open when the send fails. -/
def start (s : Preview) (network : Network) : Option Failure × Preview :=
  match network.addressError with
  | some what => (some (.invalidAddress what), s)
  | none =>
    if s.isRunning then (some .assertionFailed, s)
    else if s.socketOpen then (some .alreadyOpen, s)
    else
      let s := { s with socketOpen := true }
      match network.sendError with
      | some (value, message) => (some (.sendFailed (s.sendMessage value message)), s)
      | none => (none, { s with stop := false, thread := fun _ => .executing })

/-- `on_startStopPreviewToggleButton_toggle`. -/
def toggle (s : Preview) (network : Network) : Handled × Preview :=
  let s := { s with active := !s.active }
  if s.active then
    if s.isRunning then (⟨"pause", "Image loader already running", none⟩, s)
    else
      let r := s.start network
      (⟨"pause", "Starting image loader", r.1⟩, r.2)
  else if ¬ s.isRunning then (⟨"play", "Image loader is not running", none⟩, s)
  else (⟨"play", "Stopping image loader", none⟩, { s with stop := true })

/-- The next toggle that activates the button. -/
def activate (s : Preview) (network : Network) : Handled × Preview :=
  if s.active then (s.toggle network).2.toggle network else s.toggle network

end Preview

/-- A toggle, or the end of the function of a thread: after `stop`, or by an exception. -/
inductive Event where
  | toggle (network : Network)
  | ends (w : Role)

def step (s : Preview) : Event → Option Preview
  | .toggle network => some (s.toggle network).2
  | .ends w =>
      if s.thread w = .executing then
        some { s with thread := Function.update s.thread w .ended }
      else none

/-- A property of all states of a run. -/
def Along (P : Preview → Prop) : Preview → List Event → Prop
  | s, [] => P s
  | s, e :: events => P s ∧ ∀ t, step s e = some t → Along P t events

/-- `isRunning` tells whether a function executes, and otherwise the preview can be started. -/
structure Restartable (s : Preview) : Prop where
  running : s.isRunning = true ↔ ∃ w, s.thread w = .executing
  activation : (∀ w, s.thread w ≠ .executing) → ∀ network,
    (s.activate network).1.status = "Starting image loader" ∧
      (s.activate network).1.failure ≠ some .assertionFailed ∧
      (s.activate network).1.failure ≠ some .alreadyOpen

/-- A start does not fail to send, and a thread does not end as the last one. -/
def Benign (s : Preview) : Event → Prop
  | .toggle network =>
      s.active = false → s.isRunning = false → network.addressError = none →
        network.sendError = none
  | .ends w => s.thread w.other = .executing

/-- Every step of a run is benign. -/
def BenignRun : Preview → List Event → Prop
  | _, [] => True
  | s, e :: events => ∀ t, step s e = some t → Benign s e ∧ BenignRun t events

/-- Nothing has been started, or a thread executes. -/
inductive Sound (s : Preview) : Prop where
  | fresh (hthread : ∀ w, s.thread w = .none) (hsocket : s.socketOpen = false)
  | busy (w : Role) (hexecuting : s.thread w = .executing)
      (hthread : ∀ v, s.thread v ≠ .none)

section Steps
variable {s t : Preview}

theorem isRunning_iff : s.isRunning = true ↔ ∃ w, s.thread w ≠ .none := by
  unfold Preview.isRunning Thread.joinable
  rw [Bool.or_eq_true, decide_eq_true_iff, decide_eq_true_iff]
  constructor
  · rintro (h | h)
    · exact ⟨.reader, h⟩
    · exact ⟨.setter, h⟩
  · rintro ⟨w, h⟩
    cases w
    · exact Or.inl h
    · exact Or.inr h

theorem isRunning_eq_false (h : ∀ w, s.thread w = .none) : s.isRunning = false := by
  rw [← Bool.not_eq_true, isRunning_iff]
  rintro ⟨w, hw⟩
  exact hw (h w)

theorem start_fresh (hthread : ∀ w, s.thread w = .none) (hsocket : s.socketOpen = false)
    (network : Network) : (s.start network).1 ≠ some .assertionFailed ∧
      (s.start network).1 ≠ some .alreadyOpen := by
  unfold Preview.start
  rw [isRunning_eq_false hthread, hsocket]
  cases network.addressError with
  | some what => exact ⟨by simp, by simp⟩
  | none =>
    cases network.sendError with
    | some error => exact ⟨by simp, by simp⟩
    | none => exact ⟨by simp, by simp⟩

theorem isRunning_active (s : Preview) (b : Bool) :
    { s with active := b }.isRunning = s.isRunning := rfl

theorem toggle_start (hactive : s.active = false) (hrunning : s.isRunning = false)
    (network : Network) :
    s.toggle network =
      (⟨"pause", "Starting image loader", ({ s with active := true }.start network).1⟩,
        ({ s with active := true }.start network).2) := by
  simp [Preview.toggle, hactive, hrunning, isRunning_active]

/-- Any other toggle leaves the threads and the socket as they are. -/
theorem toggle_other (h : s.active = true ∨ s.isRunning = true) (network : Network) :
    (s.toggle network).2.thread = s.thread ∧
      (s.toggle network).2.socketOpen = s.socketOpen := by
  unfold Preview.toggle
  cases hactive : s.active with
  | true => cases hrunning : s.isRunning <;> simp [isRunning_active, hrunning]
  | false =>
    have hrunning : s.isRunning = true := h.resolve_left (by simp [hactive])
    simp [isRunning_active, hrunning]

/-- Without a thread the next activation calls `start`. -/
theorem activate_start (hthread : ∀ w, s.thread w = .none) (network : Network) :
    ∃ r : Preview, r.thread = s.thread ∧ r.socketOpen = s.socketOpen ∧
      (s.activate network).1 =
        ⟨"pause", "Starting image loader", (r.start network).1⟩ := by
  have hrunning : s.isRunning = false := isRunning_eq_false hthread
  unfold Preview.activate
  cases hactive : s.active with
  | true =>
    have hstopped : (s.toggle network).2 = { s with active := false } := by
      simp [Preview.toggle, hactive, hrunning, isRunning_active]
    refine ⟨{ s with active := true }, rfl, rfl, ?_⟩
    have hstart := toggle_start (s := { s with active := false }) rfl hrunning network
    rw [if_pos rfl, hstopped, hstart]
  | false =>
    refine ⟨{ s with active := true }, rfl, rfl, ?_⟩
    rw [if_neg Bool.false_ne_true, toggle_start hactive hrunning]

theorem Sound.restartable (h : Sound s) : Restartable s := by
  cases h with
  | fresh hthread hsocket =>
    constructor
    · rw [isRunning_eq_false hthread]
      constructor
      · intro h
        contradiction
      · rintro ⟨w, hw⟩
        rw [hthread w] at hw
        contradiction
    · intro _ network
      obtain ⟨r, hr, hr', hactivate⟩ := activate_start hthread network
      have hstart := start_fresh (s := r) (fun w => hr ▸ hthread w) (hr'.trans hsocket) network
      rw [hactivate]
      exact ⟨rfl, hstart⟩
  | busy w hexecuting hthread =>
    constructor
    · constructor
      · intro _
        exact ⟨w, hexecuting⟩
      · intro _
        exact isRunning_iff.mpr ⟨w, hthread w⟩
    · intro hnone
      exact absurd hexecuting (hnone w)

/-- The state behind a call of `start` that gets to the socket. -/
theorem start_sends {network : Network} (hthread : ∀ w, s.thread w = .none)
    (hsocket : s.socketOpen = false) (haddress : network.addressError = none) :
    (s.start network).2 =
      match network.sendError with
      | some _ => { s with socketOpen := true }
      | none => { s with socketOpen := true, stop := false, thread := fun _ => .executing } := by
  unfold Preview.start
  rw [haddress, isRunning_eq_false hthread, hsocket]
  cases network.sendError <;> rfl

theorem start_refused {network : Network} (what : String)
    (haddress : network.addressError = some what) : (s.start network).2 = s := by
  unfold Preview.start
  rw [haddress]

theorem Sound.toggle (h : Sound s) {network : Network} (hbenign : Benign s (.toggle network)) :
    Sound (s.toggle network).2 := by
  cases h with
  | fresh hthread hsocket =>
    have hrunning : s.isRunning = false := isRunning_eq_false hthread
    cases hactive : s.active with
    | true =>
      obtain ⟨hsame, hsame'⟩ := toggle_other (Or.inl hactive) network
      exact .fresh (fun w => hsame ▸ hthread w) (hsame'.trans hsocket)
    | false =>
      rw [toggle_start hactive hrunning]
      cases haddress : network.addressError with
      | some what =>
        have hsame := start_refused (s := { s with active := true }) what haddress
        show Sound ({ s with active := true }.start network).2
        rw [hsame]
        exact .fresh hthread hsocket
      | none =>
        have hsend := hbenign hactive hrunning haddress
        have hstart := start_sends (s := { s with active := true }) hthread hsocket haddress
        show Sound ({ s with active := true }.start network).2
        rw [hstart, hsend]
        exact .busy .reader rfl fun _ => Thread.noConfusion
  | busy w hexecuting hthread =>
    have hrunning : s.isRunning = true := isRunning_iff.mpr ⟨w, hthread w⟩
    obtain ⟨hsame, -⟩ := toggle_other (Or.inr hrunning) network
    exact .busy w (hsame ▸ hexecuting) fun v => hsame ▸ hthread v

theorem Sound.ends (h : Sound s) {w : Role} (hother : s.thread w.other = .executing) :
    Sound { s with thread := Function.update s.thread w .ended } := by
  have hne : ∀ v, s.thread v ≠ .none := by
    cases h with
    | fresh hthread hsocket =>
      rw [hthread w.other] at hother
      contradiction
    | busy v hexecuting hthread => exact hthread
  refine .busy w.other ?_ ?_
  · show Function.update s.thread w .ended w.other = .executing
    rw [Function.update_of_ne w.other_ne]
    exact hother
  · refine w.forall_of ?_ ?_
    · show Function.update s.thread w .ended w ≠ .none
      rw [Function.update_self]
      exact Thread.noConfusion
    · show Function.update s.thread w .ended w.other ≠ .none
      rw [Function.update_of_ne w.other_ne]
      exact hne w.other

theorem step_ends {w : Role} (hstep : step s (.ends w) = some t) :
    t = { s with thread := Function.update s.thread w .ended } := by
  by_cases hexecuting : s.thread w = .executing
  · exact (Option.some.inj ((if_pos hexecuting).symm.trans hstep)).symm
  · cases (if_neg hexecuting).symm.trans hstep

theorem Sound.next (h : Sound s) {e : Event} (hstep : step s e = some t) (hbenign : Benign s e) :
    Sound t := by
  cases e with
  | toggle network =>
    obtain rfl := Option.some.inj hstep
    exact h.toggle hbenign
  | ends w =>
    rw [step_ends hstep]
    exact h.ends hbenign

/-- The next activation fails when the socket has been left open. -/
theorem not_restartable_open (hthread : ∀ w, s.thread w = .none) (hsocket : s.socketOpen = true) :
    ¬ Restartable s := by
  intro h
  have hnone : ∀ w, s.thread w ≠ .executing := by
    intro w
    rw [hthread w]
    exact Thread.noConfusion
  obtain ⟨-, -, hopen⟩ := h.activation hnone ⟨none, none⟩
  obtain ⟨r, hr, hr', hactivate⟩ := activate_start hthread ⟨none, none⟩
  rw [hactivate] at hopen
  apply hopen
  have hrunning : r.isRunning = false := isRunning_eq_false fun w => hr ▸ hthread w
  simp [Preview.start, hrunning, hr', hsocket]

/-- A thread that has ended counts as running. -/
theorem not_restartable_ended {w : Role} (hended : s.thread w = .ended)
    (hnone : ∀ v, s.thread v ≠ .executing) : ¬ Restartable s := by
  intro h
  have hjoinable : s.thread w ≠ .none := by
    rw [hended]
    exact Thread.noConfusion
  obtain ⟨v, hv⟩ := h.running.mp (isRunning_iff.mpr ⟨w, hjoinable⟩)
  exact hnone v hv

theorem Sound.not_restartable (h : Sound s) {e : Event} (hstep : step s e = some t)
    (hbenign : ¬ Benign s e) : ¬ Restartable t := by
  cases e with
  | toggle network =>
    obtain rfl := Option.some.inj hstep
    have hfailed : s.active = false ∧ s.isRunning = false ∧ network.addressError = none ∧
        network.sendError ≠ none := by
      simpa [Benign] using hbenign
    obtain ⟨hactive, hrunning, haddress, hsend⟩ := hfailed
    cases h with
    | fresh hthread hsocket =>
      obtain ⟨error, herror⟩ := Option.ne_none_iff_exists'.mp hsend
      have hstart := start_sends (s := { s with active := true }) hthread hsocket haddress
      rw [toggle_start hactive hrunning]
      show ¬ Restartable ({ s with active := true }.start network).2
      rw [hstart, herror]
      exact not_restartable_open hthread rfl
    | busy w hexecuting hthread =>
      have hbusy : s.isRunning = true := isRunning_iff.mpr ⟨w, hthread w⟩
      rw [hrunning] at hbusy
      contradiction
  | ends w =>
    rw [step_ends hstep]
    refine not_restartable_ended (w := w) (Function.update_self ..) ?_
    refine w.forall_of ?_ ?_
    · show Function.update s.thread w .ended w ≠ .executing
      rw [Function.update_self]
      exact Thread.noConfusion
    · show Function.update s.thread w .ended w.other ≠ .executing
      rw [Function.update_of_ne w.other_ne]
      exact hbenign

theorem along_head {P : Preview → Prop} {events : List Event} (h : Along P s events) : P s := by
  cases events with
  | nil => exact h
  | cons e events => exact h.1

theorem Sound.along_iff (h : Sound s) (events : List Event) :
    Along Restartable s events ↔ BenignRun s events := by
  induction events generalizing s with
  | nil => exact ⟨fun _ => trivial, fun _ => h.restartable⟩
  | cons e events ih =>
    constructor
    · rintro ⟨-, hnext⟩ t hstep
      have hbenign : Benign s e := by
        by_contra hbenign
        exact h.not_restartable hstep hbenign (along_head (hnext t hstep))
      exact ⟨hbenign, (ih (h.next hstep hbenign)).mp (hnext t hstep)⟩
    · intro hrun
      refine ⟨h.restartable, fun t hstep => ?_⟩
      obtain ⟨hbenign, hrest⟩ := hrun t hstep
      exact (ih (h.next hstep hbenign)).mpr hrest

end Steps

/-- The preview can be restarted in every state of a run exactly when no start fails to send and
no thread ends as the last one. -/
theorem restartable_iff (ipAddress : String) (dataPort : ℕ) (events : List Event) :
    Along Restartable (.initial ipAddress dataPort) events ↔
      BenignRun (.initial ipAddress dataPort) events :=
  Sound.along_iff (.fresh (fun _ => rfl) rfl) events

/-- Start, stop, and both threads end: then the loader still counts as running. -/
theorem stopped_not_restartable :
    ¬ Along Restartable (.initial "192.168.0.1" 5679)
      [.toggle ⟨none, none⟩, .toggle ⟨none, none⟩, .ends .reader, .ends .setter] := by
  intro h
  have hlast := (((h.2 _ rfl).2 _ rfl).2 _ rfl).2 _ rfl
  refine not_restartable_ended (w := .setter) ?_ ?_ hlast
  · decide
  · intro v
    cases v <;> decide

end Rckam.MainWindow
