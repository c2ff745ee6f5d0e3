import Rckam.Client.MainWindow

/-! What the start/stop button can do in the whole life of a window: the preview is started once at
most, whatever the network does and however its threads end. -/
namespace Rckam.MainWindow
open DoubleBuffer (Role)

/-- What the toggles of a run show, and the state behind them. The end of a function that does not
execute is no event. -/
def life : Preview → List Event → List Handled × Preview
  | s, [] => ([], s)
  | s, .toggle network :: events =>
      let rest := life (s.toggle network).2 events
      ((s.toggle network).1 :: rest.1, rest.2)
  | s, .ends w :: events => life ((step s (.ends w)).getD s) events

namespace Handled

/-- Nothing has been opened. -/
inductive Idle : Handled → Prop where
  | notRunning : Idle ⟨"play", "Image loader is not running", none⟩
  | invalidAddress (what : String) :
      Idle ⟨"pause", "Starting image loader", some (.invalidAddress what)⟩

/-- The threads have been started. -/
def Started (h : Handled) : Prop := h = ⟨"pause", "Starting image loader", none⟩

/-- The socket has been opened, and the first datagram has not been sent. -/
def SendFailed (h : Handled) : Prop :=
  ∃ message, h = ⟨"pause", "Starting image loader", some (.sendFailed message)⟩

inductive InSession : Handled → Prop where
  | running : InSession ⟨"pause", "Image loader already running", none⟩
  | stopping : InSession ⟨"play", "Stopping image loader", none⟩

/-- A further start that comes to the socket finds it open. -/
inductive Stuck : Handled → Prop where
  | idle {h : Handled} (hidle : Idle h) : Stuck h
  | alreadyOpen : Stuck ⟨"pause", "Starting image loader", some .alreadyOpen⟩

theorem Idle.not_stopping {h : Handled} (hidle : h.Idle) : h.status ≠ "Stopping image loader" := by
  cases hidle <;> simp

theorem Stuck.not_stopping {h : Handled} (hstuck : h.Stuck) :
    h.status ≠ "Stopping image loader" := by
  cases hstuck with
  | idle hidle => exact hidle.not_stopping
  | alreadyOpen => simp

/-- One start opens the socket at most: what is shown before it, and what after it. -/
inductive OneSession (shown : List Handled) : Prop where
  | none (hidle : ∀ h ∈ shown, h.Idle)
  | one (before : List Handled) (h : Handled) (after : List Handled)
      (hshown : shown = before ++ h :: after) (hbefore : ∀ b ∈ before, b.Idle)
      (hafter : (h.Started ∧ ∀ a ∈ after, a.InSession) ∨ (h.SendFailed ∧ ∀ a ∈ after, a.Stuck))

theorem OneSession.cons {h : Handled} {shown : List Handled} (hidle : h.Idle)
    (hshown : OneSession shown) : OneSession (h :: shown) := by
  cases hshown with
  | none hrest => exact .none (by simpa using ⟨hidle, hrest⟩)
  | one before g after hsplit hbefore hafter =>
    refine .one (h :: before) g after ?_ ?_ hafter
    · rw [hsplit, List.cons_append]
    · simpa using ⟨hidle, hbefore⟩

end Handled

section Toggles
variable {s : Preview}

theorem start_invalid {network : Network} {what : String}
    (haddress : network.addressError = some what) :
    s.start network = (some (.invalidAddress what), s) := by
  unfold Preview.start
  rw [haddress]

theorem start_alreadyOpen {network : Network} (hrunning : s.isRunning = false)
    (hsocket : s.socketOpen = true) (haddress : network.addressError = none) :
    s.start network = (some .alreadyOpen, s) := by
  unfold Preview.start
  rw [haddress, hrunning, hsocket]
  rfl

theorem start_sendFailed {network : Network} {error : ℤ × String} (hrunning : s.isRunning = false)
    (hsocket : s.socketOpen = false) (haddress : network.addressError = none)
    (hsend : network.sendError = some error) :
    s.start network =
      (some (.sendFailed (s.sendMessage error.1 error.2)), { s with socketOpen := true }) := by
  unfold Preview.start
  rw [haddress, hrunning, hsocket, hsend]
  rfl

theorem start_sent {network : Network} (hrunning : s.isRunning = false)
    (hsocket : s.socketOpen = false) (haddress : network.addressError = none)
    (hsend : network.sendError = none) :
    s.start network =
      (none, { s with socketOpen := true, stop := false, thread := fun _ => .executing }) := by
  unfold Preview.start
  rw [haddress, hrunning, hsocket, hsend]
  rfl

/-- A button whose loader counts as running: a toggle shows that or stops, and `stop_` stays
set. -/
theorem toggle_running (hrunning : s.isRunning = true) (network : Network) :
    (s.toggle network).1.InSession ∧ (s.toggle network).2.isRunning = true ∧
      (s.stop = true → (s.toggle network).2.stop = true) ∧
      ((s.toggle network).1.status = "Stopping image loader" →
        (s.toggle network).2.stop = true) := by
  unfold Preview.toggle
  cases hactive : s.active with
  | true =>
    simp only [isRunning_active, hrunning]
    exact ⟨.stopping, hrunning, fun _ => rfl, fun _ => rfl⟩
  | false =>
    simp only [isRunning_active, hrunning]
    refine ⟨.running, hrunning, fun hstop => hstop, ?_⟩
    simp

/-- Without a thread, and with the socket open. -/
theorem toggle_stuck (hthread : ∀ w, s.thread w = .none) (hsocket : s.socketOpen = true)
    (network : Network) :
    (s.toggle network).1.Stuck ∧ (∀ w, (s.toggle network).2.thread w = .none) ∧
      (s.toggle network).2.socketOpen = true := by
  have hrunning : s.isRunning = false := isRunning_eq_false hthread
  cases hactive : s.active with
  | true =>
    obtain ⟨hsame, hsame'⟩ := toggle_other (Or.inl hactive) network
    refine ⟨?_, fun w => hsame ▸ hthread w, hsame'.trans hsocket⟩
    simp only [Preview.toggle, hactive, isRunning_active, hrunning]
    exact .idle .notRunning
  | false =>
    rw [toggle_start hactive hrunning]
    cases haddress : network.addressError with
    | some what =>
      rw [start_invalid haddress]
      exact ⟨.idle (.invalidAddress what), hthread, hsocket⟩
    | none =>
      rw [start_alreadyOpen (by exact hrunning) (by exact hsocket) haddress]
      exact ⟨.alreadyOpen, hthread, hsocket⟩

/-- Before the socket is opened, a toggle opens it or leaves everything as it is. -/
theorem toggle_fresh (hthread : ∀ w, s.thread w = .none) (hsocket : s.socketOpen = false)
    (network : Network) :
    ((s.toggle network).1.Idle ∧ (∀ w, (s.toggle network).2.thread w = .none) ∧
      (s.toggle network).2.socketOpen = false) ∨
    ((s.toggle network).1.Started ∧ (s.toggle network).2.isRunning = true) ∨
    ((s.toggle network).1.SendFailed ∧ (∀ w, (s.toggle network).2.thread w = .none) ∧
      (s.toggle network).2.socketOpen = true) := by
  have hrunning : s.isRunning = false := isRunning_eq_false hthread
  cases hactive : s.active with
  | true =>
    obtain ⟨hsame, hsame'⟩ := toggle_other (Or.inl hactive) network
    refine Or.inl ⟨?_, fun w => hsame ▸ hthread w, hsame'.trans hsocket⟩
    simp only [Preview.toggle, hactive, isRunning_active, hrunning]
    exact .notRunning
  | false =>
    rw [toggle_start hactive hrunning]
    cases haddress : network.addressError with
    | some what =>
      rw [start_invalid haddress]
      exact Or.inl ⟨.invalidAddress what, hthread, hsocket⟩
    | none =>
      cases hsend : network.sendError with
      | some error =>
        rw [start_sendFailed (by exact hrunning) (by exact hsocket) haddress hsend]
        exact Or.inr (Or.inr ⟨⟨_, rfl⟩, hthread, rfl⟩)
      | none =>
        rw [start_sent (by exact hrunning) (by exact hsocket) haddress hsend]
        exact Or.inr (Or.inl ⟨rfl, rfl⟩)

/-- A thread that has ended is joinable as before. -/
theorem ends_keeps (w : Role) (s : Preview) :
    ((step s (.ends w)).getD s).stop = s.stop ∧
      ((step s (.ends w)).getD s).isRunning = s.isRunning := by
  by_cases hexecuting : s.thread w = .executing
  · rw [step, if_pos hexecuting]
    refine ⟨rfl, ?_⟩
    cases w <;> simp [Preview.isRunning, Thread.joinable, Function.update, hexecuting]
  · rw [step, if_neg hexecuting]
    exact ⟨rfl, rfl⟩

end Toggles

section Life
variable {s : Preview}

theorem life_running (hrunning : s.isRunning = true) (events : List Event) :
    (∀ h ∈ (life s events).1, h.InSession) ∧
      (s.stop = true ∨ (∃ h ∈ (life s events).1, h.status = "Stopping image loader") →
        (life s events).2.stop = true) := by
  induction events generalizing s with
  | nil =>
    refine ⟨by simp [life], ?_⟩
    rintro (hstop | ⟨h, hmem, -⟩)
    · exact hstop
    · cases hmem
  | cons e events ih =>
    cases e with
    | toggle network =>
      obtain ⟨hsession, hnext, hkeeps, hstops⟩ := toggle_running hrunning network
      obtain ⟨hrest, hrest'⟩ := ih hnext
      refine ⟨?_, ?_⟩
      · simp only [life, List.mem_cons, forall_eq_or_imp]
        exact ⟨hsession, hrest⟩
      · simp only [life, List.mem_cons, exists_eq_or_imp]
        rintro (hstop | hfirst | hlater)
        · exact hrest' (Or.inl (hkeeps hstop))
        · exact hrest' (Or.inl (hstops hfirst))
        · exact hrest' (Or.inr hlater)
    | ends w =>
      obtain ⟨hstop, hnext⟩ := ends_keeps w s
      obtain ⟨hrest, hrest'⟩ := ih (hnext.trans hrunning)
      rw [hstop] at hrest'
      exact ⟨hrest, hrest'⟩

theorem life_stuck (hthread : ∀ w, s.thread w = .none) (hsocket : s.socketOpen = true)
    (events : List Event) : ∀ h ∈ (life s events).1, h.Stuck := by
  induction events generalizing s with
  | nil => simp [life]
  | cons e events ih =>
    cases e with
    | toggle network =>
      obtain ⟨hstuck, hthread', hsocket'⟩ := toggle_stuck hthread hsocket network
      simp only [life, List.mem_cons, forall_eq_or_imp]
      exact ⟨hstuck, ih hthread' hsocket'⟩
    | ends w =>
      rw [life, step, if_neg (by rw [hthread w]; exact Thread.noConfusion)]
      exact ih hthread hsocket

theorem life_fresh (hthread : ∀ w, s.thread w = .none) (hsocket : s.socketOpen = false)
    (events : List Event) :
    Handled.OneSession (life s events).1 ∧
      ((∃ h ∈ (life s events).1, h.status = "Stopping image loader") →
        (life s events).2.stop = true) := by
  induction events generalizing s with
  | nil => exact ⟨.none (by simp [life]), by simp [life]⟩
  | cons e events ih =>
    cases e with
    | toggle network =>
      simp only [life, List.mem_cons, exists_eq_or_imp]
      rcases toggle_fresh hthread hsocket network with
        ⟨hidle, hthread', hsocket'⟩ | ⟨hstarted, hrunning⟩ | ⟨hfailed, hthread', hsocket'⟩
      · obtain ⟨hrest, hrest'⟩ := ih hthread' hsocket'
        refine ⟨hrest.cons hidle, ?_⟩
        rintro (hfirst | hlater)
        · exact absurd hfirst hidle.not_stopping
        · exact hrest' hlater
      · obtain ⟨hrest, hrest'⟩ := life_running hrunning events
        refine ⟨.one [] _ _ rfl (by simp) (Or.inl ⟨hstarted, hrest⟩), ?_⟩
        rintro (hfirst | hlater)
        · exact absurd hfirst (by rw [hstarted]; simp)
        · exact hrest' (Or.inr hlater)
      · have hrest := life_stuck hthread' hsocket' events
        refine ⟨.one [] _ _ rfl (by simp) (Or.inr ⟨hfailed, hrest⟩), ?_⟩
        obtain ⟨message, hmessage⟩ := hfailed
        rintro (hfirst | ⟨h, hmem, hlater⟩)
        · exact absurd hfirst (by rw [hmessage]; simp)
        · exact absurd hlater (hrest h hmem).not_stopping
    | ends w =>
      rw [life, step, if_neg (by rw [hthread w]; exact Thread.noConfusion)]
      exact ih hthread hsocket

end Life

/-- The preview is started once at most, and stopping it is final. -/
theorem one_session (ipAddress : String) (dataPort : ℕ) (events : List Event) :
    Handled.OneSession (life (.initial ipAddress dataPort) events).1 ∧
      ((∃ h ∈ (life (.initial ipAddress dataPort) events).1,
          h.status = "Stopping image loader") →
        (life (.initial ipAddress dataPort) events).2.stop = true) :=
  life_fresh (fun _ => rfl) rfl events

end Rckam.MainWindow
