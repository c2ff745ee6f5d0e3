import Mathlib.Data.Int.Notation
import Rckam.Common.Format
import Rckam.Library.Outcomes

/-! The HDMI capture of `CameraController`: `startHdmiCapture`, which runs until another thread
calls `stopHdmiCapture`. -/
namespace Rckam.HdmiCapture
open Outcomes

/-- The requests of V4L2 for a capture, `VIDIOC_S_FMT` with `V4L2_PIX_FMT_MJPEG` and
`V4L2_FIELD_NONE`, and `VIDIOC_REQBUFS` with `V4L2_MEMORY_MMAP`. -/
inductive Ioctl where
  | sFmt (width height : ℕ)
  | reqbufs (count : ℕ)
  | querybuf (index : ℕ)
  | streamon
  | streamoff
  | qbuf (index : ℕ)
  | dqbuf (index : ℕ)
  deriving DecidableEq, Repr

inductive Syscall where
  | open (path : String)
  | ioctl (fd : ℤ) (request : Ioctl)
  | mmap (fd : ℤ) (length offset : ℕ)
  | select (fd : ℤ) (seconds : ℕ)
  | munmap (length : ℕ)
  | close (fd : ℤ)
  deriving DecidableEq, Repr

/-- What a call returns, the `errno` it sets, and the members of the buffer that
`VIDIOC_QUERYBUF` writes. -/
structure Reply where
  ret : ℤ
  errno : ℤ
  length : ℕ
  offset : ℕ

structure Made where
  syscall : Syscall
  reply : Reply

/-- The kernel, whose replies may depend on the calls so far, and the steps of the capture right
before which another thread calls `stopHdmiCapture`. -/
structure Environment where
  kernel : List Made → Syscall → Reply
  strerror : ℤ → String
  stops : ℕ → Bool

/-- The calls of the captures so far, `stopHdmiCapture_`, and the number of steps. -/
structure Controller where
  made : List Made
  stop : Bool
  clock : ℕ

/-- Why a capture does not return: an exception has been thrown, or it has been followed no
further. -/
inductive Halt where
  | rckamException (message : String)
  | format (e : FormatError)
  | unfinished
  deriving DecidableEq, Repr

abbrev Action := EStateM Halt Controller

section Capture
variable (env : Environment)

/-- What happens up to a step: the other thread may set the member. -/
def Controller.tick (s : Controller) : Controller :=
  { s with stop := env.stops s.clock || s.stop, clock := s.clock + 1 }

def Controller.call (c : Syscall) (s : Controller) : Controller :=
  { s.tick env with made := s.made ++ [⟨c, env.kernel s.made c⟩] }

def syscall (c : Syscall) : Action Reply := do
  let s ← get
  set (s.call env c)
  return env.kernel s.made c

/-- A call whose failure throws. No format has a place for the two arguments. -/
def checked (c : Syscall) (format : String) : Action Reply := do
  let reply ← syscall env c
  if -1 = reply.ret then
    match Format.str format [toString reply.errno, env.strerror reply.errno] with
    | .ok message => throw (.rckamException message)
    | .error e => throw (.format e)
  return reply

/-- The loop, followed for at most `n` tests of its condition. The buffer is dequeued also when
`select` has timed out. -/
def loop (fd : ℤ) : ℕ → Action Unit
  | 0 => throw .unfinished
  | n + 1 => do
      modify (Controller.tick env)
      if (← get).stop then return ()
      let _ ← checked env (.ioctl fd (.qbuf 0)) "ERROR: failed to queue HDMI video buffer: "
      let _ ← checked env (.select fd 2) "ERROR: failed to wait for an HDMI frame: "
      let _ ← checked env (.ioctl fd (.dqbuf 0)) "ERROR: failed to dequeue HDMI video buffer: "
      loop fd n

/-- Up to the loop. What `open` and `mmap` return is not looked at. -/
def begin : Action ℤ := do
  let opened ← syscall env (.open "/dev/video0")
  let fd := opened.ret
  let _ ← checked env (.ioctl fd (.sFmt 1920 1080)) "ERROR: failed to set the HDMI video format: "
  let _ ← checked env (.ioctl fd (.reqbufs 2)) "ERROR: failed to request buffers for HDMI video: "
  let buf ← checked env (.ioctl fd (.querybuf 0))
    "ERROR: failed to retrieve V4L2 buffers for HDMI video: "
  let _ ← syscall env (.mmap fd buf.length buf.offset)
  let _ ← checked env (.ioctl fd .streamon) "ERROR: failed to start HDMI video stream: "
  modify fun s => { s.tick env with stop := false }
  return fd

/-- The last request is `VIDIOC_STREAMON` once more. -/
def startHdmiCapture (n : ℕ) : Action Unit := do
  let fd ← begin env
  loop env fd n
  let _ ← checked env (.ioctl fd .streamon) "ERROR: failed to stop HDMI video capture: "

/-- One capture after the other, each from what the one before has left, as long as they end. -/
def captures : List ℕ → Controller → List (Except Halt Unit) × Controller
  | [], s => ([], s)
  | n :: rest, s =>
      match (startHdmiCapture env n).run s with
      | .ok _ t => let (outcomes, u) := captures rest t; (.ok () :: outcomes, u)
      | .error .unfinished t => ([.error .unfinished], t)
      | .error e t => let (outcomes, u) := captures rest t; (.error e :: outcomes, u)

end Capture

/-! ### Its calls -/

section Calls
variable {env : Environment} {s : Controller} {c : Syscall} {format : String}

@[simp] theorem tick_made : (s.tick env).made = s.made := rfl

@[simp] theorem tick_clock : (s.tick env).clock = s.clock + 1 := rfl

@[simp] theorem tick_stop : (s.tick env).stop = (env.stops s.clock || s.stop) := rfl

@[simp] theorem call_clock : (s.call env c).clock = s.clock + 1 := rfl

@[simp] theorem call_stop : (s.call env c).stop = (env.stops s.clock || s.stop) := rfl

@[simp] theorem call_made : (s.call env c).made = s.made ++ [⟨c, env.kernel s.made c⟩] := rfl

theorem ends_syscall {Q : Reply → Controller → Prop} {E : Halt → Controller → Prop}
    (h : Q (env.kernel s.made c) (s.call env c)) : Ends (syscall env c) s Q E := h

/-- A checked call either succeeds or throws, and what it throws is never the exception with the
message. -/
theorem ends_checked {Q : Reply → Controller → Prop} {E : Halt → Controller → Prop}
    (hformat : Format.directives format.toList = 0)
    (hok : (env.kernel s.made c).ret ≠ -1 → Q (env.kernel s.made c) (s.call env c))
    (hfailed : (env.kernel s.made c).ret = -1 → E (.format .tooManyArgs) (s.call env c)) :
    Ends (checked env c format) s Q E := by
  unfold checked
  have hcall : Ends (syscall env c) s
      (fun reply t => reply = env.kernel s.made c ∧ t = s.call env c) E :=
    ends_syscall ⟨rfl, rfl⟩
  apply hcall.bind
  rintro reply t ⟨rfl, rfl⟩
  have hstr (errno text : String) : Format.str format [errno, text] = .error .tooManyArgs :=
    Format.str_tooMany (by simp [hformat])
  by_cases hret : -1 = (env.kernel s.made c).ret
  · simp only [if_pos hret, hstr]
    exact hfailed hret.symm
  · rw [if_neg hret]
    exact ends_pure (hok fun h => hret h.symm)

end Calls

/-! ### When a capture ends -/

section Working
variable {env : Environment} {s : Controller} {fd : ℤ}

/-- A kernel in which no call fails. -/
def Environment.Working (env : Environment) : Prop :=
  ∀ made c, (env.kernel made c).ret ≠ -1

/-- `stopHdmiCapture` has been called by the `i`-th test of a loop that begins in `s`. Each round
has four steps. -/
def Requested (env : Environment) (s : Controller) (i : ℕ) : Prop :=
  s.stop = true ∨ ∃ k ≤ 4 * i, env.stops (s.clock + k) = true

theorem requested_zero : Requested env s 0 ↔ (s.tick env).stop = true := by
  simp [Requested, or_comm]

/-- What a round leaves when no call fails. -/
def Controller.round (env : Environment) (fd : ℤ) (s : Controller) : Controller :=
  (((s.tick env).call env (.ioctl fd (.qbuf 0))).call env (.select fd 2)).call env
    (.ioctl fd (.dqbuf 0))

theorem round_stop : (s.round env fd).stop = true ↔
    s.stop = true ∨ ∃ k < 4, env.stops (s.clock + k) = true := by
  simp only [Controller.round, call_stop, tick_stop, call_clock, tick_clock, Bool.or_eq_true,
    Nat.exists_lt_succ_right, Nat.add_assoc, Nat.reduceAdd, Nat.not_lt_zero, false_and,
    exists_false, Nat.add_zero]
  tauto

theorem round_made : (s.round env fd).made.length = s.made.length + 3 := by
  simp [Controller.round]

/-- What has been requested by a later test is what the next round has seen. -/
theorem requested_succ {i : ℕ} :
    Requested env s (i + 1) ↔ Requested env (s.round env fd) i := by
  have hclock : (s.round env fd).clock = s.clock + 4 := rfl
  unfold Requested
  rw [round_stop, hclock, or_assoc]
  apply or_congr_right
  constructor
  · rintro ⟨k, hk, h⟩
    by_cases hround : k < 4
    · exact .inl ⟨k, hround, h⟩
    · refine .inr ⟨k - 4, by omega, ?_⟩
      rwa [show s.clock + 4 + (k - 4) = s.clock + k by omega]
  · rintro (⟨k, hk, h⟩ | ⟨k, hk, h⟩)
    · exact ⟨k, by omega, h⟩
    · refine ⟨k + 4, by omega, ?_⟩
      rwa [show s.clock + 4 + k = s.clock + (k + 4) by omega] at h

theorem ends_working (hworking : env.Working) {c : Syscall} {format : String}
    {Q : Reply → Controller → Prop} {E : Halt → Controller → Prop}
    (h : Q (env.kernel s.made c) (s.call env c)) : Ends (checked env c format) s Q E := by
  have hcall : Ends (syscall env c) s
      (fun reply t => reply = env.kernel s.made c ∧ t = s.call env c) E :=
    ends_syscall ⟨rfl, rfl⟩
  apply hcall.bind
  rintro reply t ⟨rfl, rfl⟩
  rw [if_neg fun hret => hworking s.made c hret.symm]
  exact ends_pure h

/-- The loop ends at the first test by which it has been asked to, after as many rounds. -/
theorem loop_working (hworking : env.Working) (n : ℕ) (s : Controller) :
    Ends (loop env fd n) s
      (fun _ t => ∃ m < n, Requested env s m ∧ (∀ j < m, ¬ Requested env s j) ∧
        t.made.length = s.made.length + 3 * m)
      (fun _ _ => ∀ j < n, ¬ Requested env s j) := by
  induction n generalizing s with
  | zero => exact ends_throw (by simp)
  | succ n ih =>
    unfold loop
    apply ends_modify_bind
    apply ends_get_bind
    by_cases hstop : (s.tick env).stop = true
    · rw [if_pos hstop]
      exact ends_pure ⟨0, by omega, requested_zero.mpr hstop, by simp, by simp⟩
    rw [if_neg hstop]
    apply Ends.bind (ends_working hworking (Q := fun _ t => t = (s.tick env).call env _) rfl)
    rintro _ _ rfl
    apply Ends.bind (ends_working hworking (Q := fun _ t => t = Controller.call env _ _) rfl)
    rintro _ _ rfl
    apply Ends.bind (ends_working hworking (Q := fun _ t => t = s.round env fd) rfl)
    rintro _ _ rfl
    have hbefore {m : ℕ} (h : ∀ j < m, ¬ Requested env (s.round env fd) j) :
        ∀ j < m + 1, ¬ Requested env s j := by
      intro j hj
      cases j with
      | zero => exact fun hreq => hstop (requested_zero.mp hreq)
      | succ j => exact requested_succ.not.mpr (h j (by omega))
    apply (ih _).mono
    · rintro _ u ⟨m, hm, hreq, hnot, hlength⟩
      refine ⟨m + 1, by omega, requested_succ.mpr hreq, hbefore hnot, ?_⟩
      rw [hlength, round_made]
      omega
    · intro _ _ hnot
      exact hbefore hnot

/-- What is found in `stopHdmiCapture_` before the loop is overwritten. -/
theorem begin_working (hworking : env.Working) (s : Controller) :
    Ends (begin env) s
      (fun _ t => t.clock = s.clock + 7 ∧ t.stop = false ∧ t.made.length = s.made.length + 6)
      (fun _ _ => False) := by
  unfold begin
  apply Ends.bind (ends_syscall (Q := fun _ t => t = s.call env _) rfl)
  rintro opened _ rfl
  apply Ends.bind (ends_working hworking (Q := fun _ t => t = Controller.call env _ _) rfl)
  rintro _ _ rfl
  apply Ends.bind (ends_working hworking (Q := fun _ t => t = Controller.call env _ _) rfl)
  rintro _ _ rfl
  apply Ends.bind (ends_working hworking (Q := fun _ t => t = Controller.call env _ _) rfl)
  rintro buf _ rfl
  apply Ends.bind (ends_syscall (Q := fun _ t => t = Controller.call env _ _) rfl)
  rintro _ _ rfl
  apply Ends.bind (ends_working hworking (Q := fun _ t => t = Controller.call env _ _) rfl)
  rintro _ _ rfl
  apply Ends.bind (ends_modify (Q := fun _ t => t.clock = s.clock + 7 ∧ t.stop = false ∧
    t.made.length = s.made.length + 6) (by simp))
  intro _ t ht
  exact ends_pure ht

/-- `stopHdmiCapture` has been called after the beginning of a capture and by the `m`-th test of
its loop. -/
def StoppedBy (env : Environment) (s : Controller) (m : ℕ) : Prop :=
  ∃ k ≤ 4 * m, env.stops (s.clock + 7 + k) = true

/-- A capture followed for `n` tests. -/
theorem capture_working (hworking : env.Working) (n : ℕ) (s : Controller) :
    Ends (startHdmiCapture env n) s
      (fun _ t => ∃ m < n, StoppedBy env s m ∧ (∀ j < m, ¬ StoppedBy env s j) ∧
        t.made.length = s.made.length + 7 + 3 * m)
      (fun _ _ => ∀ j < n, ¬ StoppedBy env s j) := by
  unfold startHdmiCapture
  apply Ends.bind ((begin_working hworking s).mono (fun _ _ h => h) fun _ _ h => h.elim)
  rintro fd t ⟨hclock, hstop, hbegun⟩
  have hrequested (j : ℕ) : Requested env t j ↔ StoppedBy env s j := by
    simp [Requested, StoppedBy, hclock, hstop]
  simp only [← hrequested]
  apply Ends.bind (loop_working hworking n t)
  rintro _ u ⟨m, hm, hreq, hnot, hlength⟩
  apply Ends.bind (ends_working hworking
    (Q := fun _ v => v.made.length = s.made.length + 7 + 3 * m) (by simp; omega))
  intro _ v hv
  exact ends_pure ⟨m, hm, hreq, hnot, hv⟩

/-- A capture on a working device returns if and only if `stopHdmiCapture` is called once the loop
has been entered, and then at the next test of the condition. What was called before is lost. -/
theorem ends_when_stopped (hworking : env.Working) (n m : ℕ) (s : Controller) :
    (∃ t, (startHdmiCapture env n).run s = .ok () t ∧
      t.made.length = s.made.length + 7 + 3 * m) ↔
      m < n ∧ StoppedBy env s m ∧ ∀ j < m, ¬ StoppedBy env s j := by
  have h := capture_working hworking n s
  constructor
  · rintro ⟨t, hrun, hlength⟩
    obtain ⟨k, hk, hby, hnot, hmade⟩ := h.ok hrun
    obtain rfl : k = m := by omega
    exact ⟨hk, hby, hnot⟩
  · rintro ⟨hm, hby, hnot⟩
    cases hrun : (startHdmiCapture env n).run s with
    | error e t => exact absurd hby (h.error hrun m hm)
    | ok v t =>
      obtain ⟨k, hk, hkby, hknot, hmade⟩ := h.ok hrun
      rcases Nat.lt_trichotomy k m with hlt | rfl | hlt
      · exact absurd hkby (hnot k hlt)
      · exact ⟨t, rfl, hmade⟩
      · exact absurd hby (hknot m hlt)

/-- A device that answers 3 to every call, stopped during the second round. -/
def stoppedInSecond : Environment where
  kernel := fun _ _ => ⟨3, 0, 0, 0⟩
  strerror := fun _ => ""
  stops := fun k => k = 2 || k = 13

theorem ends_when_stopped_second :
    (∃ t, (startHdmiCapture stoppedInSecond 5).run ⟨[], false, 0⟩ = .ok () t ∧
      t.made.length = ([] : List Made).length + 7 + 3 * 2) ↔
      2 < 5 ∧ StoppedBy stoppedInSecond ⟨[], false, 0⟩ 2 ∧
        ∀ j < 2, ¬ StoppedBy stoppedInSecond ⟨[], false, 0⟩ j :=
  ends_when_stopped (fun _ _ => (by decide : (3 : ℤ) ≠ -1)) 5 2 ⟨[], false, 0⟩

end Working

/-! ### One capture after the other -/

section History
variable {env : Environment} {s : Controller} {fd : ℤ}

/-- A call that gives something back: the file, the mapping, the stream or the buffers. -/
def Syscall.releases : Syscall → Bool
  | .close _ | .munmap _ | .ioctl _ .streamoff | .ioctl _ (.reqbufs 0) => true
  | _ => false

def Syscall.opens : Syscall → Bool
  | .open _ => true
  | _ => false

/-- Whether the device has buffers after a call: requesting buffers allocates them, requesting
none frees them, and so does closing the file. -/
def Made.allocates (allocated : Bool) (m : Made) : Bool :=
  match m.syscall with
  | .ioctl _ (.reqbufs count) => if m.reply.ret = -1 then allocated else decide (0 < count)
  | .close _ => false
  | _ => allocated

def allocated (made : List Made) : Bool :=
  made.foldl Made.allocates false

/-- The kernel does not let the format of a device be set that has buffers. -/
def Environment.Busy (env : Environment) : Prop :=
  ∀ made fd width height, allocated made = true →
    (env.kernel made (.ioctl fd (.sFmt width height))).ret = -1

/-- What the calls so far have opened, allocated and released. -/
structure Held where
  opened : ℕ
  allocated : Bool
  released : ℕ

def Controller.held (s : Controller) : Held where
  opened := s.made.countP (·.syscall.opens)
  allocated := HdmiCapture.allocated s.made
  released := s.made.countP (·.syscall.releases)

/-- A call that neither opens, nor requests, nor releases. -/
def Syscall.Plain (c : Syscall) : Prop :=
  c.opens = false ∧ c.releases = false ∧ ∀ fd count, c ≠ .ioctl fd (.reqbufs count)

theorem held_plain {c : Syscall} (hplain : c.Plain) : (s.call env c).held = s.held := by
  obtain ⟨hopens, hreleases, hreqbufs⟩ := hplain
  have hallocates (b : Bool) (reply : Reply) : Made.allocates b ⟨c, reply⟩ = b := by
    unfold Made.allocates
    split
    · rename_i fd count hc
      exact absurd hc (hreqbufs fd count)
    · rename_i fd hc
      subst hc
      cases hreleases
    · rfl
  simp [Controller.held, allocated, hopens, hreleases, hallocates]

theorem held_open (path : String) :
    (s.call env (.open path)).held =
      ⟨s.held.opened + 1, s.held.allocated, s.held.released⟩ := by
  simp [Controller.held, allocated, Syscall.opens, Syscall.releases, Made.allocates]

theorem held_reqbufs (hok : (env.kernel s.made (.ioctl fd (.reqbufs 2))).ret ≠ -1) :
    (s.call env (.ioctl fd (.reqbufs 2))).held = { s.held with allocated := true } := by
  simp [Controller.held, allocated, Syscall.opens, Syscall.releases, Made.allocates, hok]

theorem held_reqbufs_failed (hfailed : (env.kernel s.made (.ioctl fd (.reqbufs 2))).ret = -1) :
    (s.call env (.ioctl fd (.reqbufs 2))).held = s.held := by
  simp [Controller.held, allocated, Syscall.opens, Syscall.releases, Made.allocates, hfailed]

/-- A capture that ends early, with what is held then. -/
def Failed (h : Held) (e : Halt) (t : Controller) : Prop :=
  (e = .format .tooManyArgs ∨ e = .unfinished) ∧ t.held = h

theorem ends_plain {c : Syscall} {format : String} {h : Held} (hs : s.held = h) (hplain : c.Plain)
    (hformat : Format.directives format.toList = 0) :
    Ends (checked env c format) s (fun _ t => t.held = h) (Failed h) := by
  have hcall : (s.call env c).held = h := (held_plain hplain).trans hs
  exact ends_checked hformat (fun _ => hcall) fun _ => ⟨.inl rfl, hcall⟩

theorem loop_held {h : Held} (n : ℕ) (hs : s.held = h) :
    Ends (loop env fd n) s (fun _ t => t.held = h) (Failed h) := by
  induction n generalizing s with
  | zero => exact ends_throw ⟨.inr rfl, hs⟩
  | succ n ih =>
    unfold loop
    apply Ends.bind (ends_modify (Q := fun _ t => t.held = h) hs)
    intro _ t ht
    apply Ends.bind (ends_get (Q := fun _ t => t.held = h) ht)
    intro u t ht
    by_cases hstop : u.stop = true
    · rw [if_pos hstop]
      exact ends_pure ht
    rw [if_neg hstop]
    apply Ends.bind (ends_plain ht ⟨rfl, rfl, by simp⟩ rfl)
    intro _ t ht
    apply Ends.bind (ends_plain ht ⟨rfl, rfl, by simp⟩ rfl)
    intro _ t ht
    apply Ends.bind (ends_plain ht ⟨rfl, rfl, by simp⟩ rfl)
    intro _ t ht
    exact ih ht

/-- How a capture that begins in `s` ends without returning. -/
def Leaves (s : Controller) (e : Halt) (t : Controller) : Prop :=
  (e = .format .tooManyArgs ∨ e = .unfinished ∧ s.held.allocated = false) ∧
    t.held.opened = s.held.opened + 1 ∧ t.held.released = s.held.released ∧
    (s.held.allocated = true → t.held.allocated = true)

/-- A capture that gets past the format finds no buffers and leaves some. -/
theorem capture_held (hbusy : env.Busy) (n : ℕ) (s : Controller) :
    Ends (startHdmiCapture env n) s
      (fun _ t => s.held.allocated = false ∧ t.held = ⟨s.held.opened + 1, true, s.held.released⟩)
      (Leaves s) := by
  have hopen : (s.call env (.open "/dev/video0")).held =
      ⟨s.held.opened + 1, s.held.allocated, s.held.released⟩ := held_open _
  have hfree {b : Bool} (hnone : s.held.allocated = false) (e : Halt) (t : Controller)
      (h : Failed ⟨s.held.opened + 1, b, s.held.released⟩ e t) : Leaves s e t := by
    obtain ⟨he, ht⟩ := h
    refine ⟨he.imp_right fun he => ⟨he, hnone⟩, by rw [ht], by rw [ht], ?_⟩
    rw [hnone]
    nofun
  unfold startHdmiCapture begin
  simp only [bind_assoc]
  apply Ends.bind (ends_syscall (Q := fun _ t => t = s.call env (.open "/dev/video0")) rfl)
  rintro opened _ rfl
  -- The format is refused when there are buffers.
  apply Ends.bind (ends_checked (Q := fun _ t => s.held.allocated = false ∧
    t.held = ⟨s.held.opened + 1, false, s.held.released⟩) rfl ?_ ?_)
  · rintro _ t ⟨hnone, ht⟩
    apply Ends.mono (Q := fun _ t => t.held = ⟨s.held.opened + 1, true, s.held.released⟩) ?_
      (fun _ _ h => ⟨hnone, h⟩) fun _ _ h => h
    -- From here on only the request for buffers changes what is held.
    apply Ends.bind (ends_checked (Q := fun _ t =>
      t.held = ⟨s.held.opened + 1, true, s.held.released⟩) rfl ?_ ?_)
    · intro _ t ht
      apply Ends.mono (E := Failed ⟨s.held.opened + 1, true, s.held.released⟩) ?_
        (fun _ _ h => h) (hfree hnone)
      apply Ends.bind (ends_plain ht ⟨rfl, rfl, by simp⟩ rfl)
      intro buf t ht
      apply Ends.bind (ends_syscall (Q := fun _ t =>
        t.held = ⟨s.held.opened + 1, true, s.held.released⟩)
        ((held_plain ⟨rfl, rfl, by simp⟩).trans ht))
      intro _ t ht
      apply Ends.bind (ends_plain ht ⟨rfl, rfl, by simp⟩ rfl)
      intro _ t ht
      apply Ends.bind (ends_modify (Q := fun _ t =>
        t.held = ⟨s.held.opened + 1, true, s.held.released⟩) ht)
      intro _ t ht
      apply Ends.bind (ends_pure (Q := fun _ t =>
        t.held = ⟨s.held.opened + 1, true, s.held.released⟩) ht)
      intro fd t ht
      apply Ends.bind (loop_held n ht)
      intro _ t ht
      apply Ends.bind (ends_plain ht ⟨rfl, rfl, by simp⟩ rfl)
      intro _ t ht
      exact ends_pure ht
    · intro hok
      rw [held_reqbufs hok, ht]
    · intro hfailed
      exact hfree hnone _ _ ⟨.inl rfl, (held_reqbufs_failed hfailed).trans ht⟩
  · intro hok
    have hnone : s.held.allocated = false := by
      by_contra hsome
      have hafter : (s.call env (.open "/dev/video0")).held.allocated = true := by
        rw [hopen]
        simpa using hsome
      exact hok (hbusy _ _ _ _ hafter)
    refine ⟨hnone, ?_⟩
    rw [held_plain ⟨rfl, rfl, by simp⟩, hopen, hnone]
  · intro hfailed
    refine ⟨.inl rfl, ?_⟩
    rw [held_plain ⟨rfl, rfl, by simp⟩, hopen]
    exact ⟨rfl, rfl, id⟩

/-- Captures from `s`. -/
theorem captures_held (hbusy : env.Busy) (ns : List ℕ) (s : Controller) :
    (∀ o ∈ (captures env ns s).1, o = .ok () ∨ o = .error (.format .tooManyArgs) ∨
      o = .error .unfinished) ∧
    (s.held.allocated = true →
      ∀ o ∈ (captures env ns s).1, o = .error (.format .tooManyArgs)) ∧
    (captures env ns s).1.Pairwise
      (fun first later => first = .ok () → later = .error (.format .tooManyArgs)) ∧
    (captures env ns s).2.held.opened = s.held.opened + (captures env ns s).1.length ∧
    (captures env ns s).2.held.released = s.held.released := by
  induction ns generalizing s with
  | nil => simp [captures]
  | cons n ns ih =>
    have h := capture_held hbusy n s
    cases hrun : (startHdmiCapture env n).run s with
    | ok v t =>
      obtain ⟨hnone, ht⟩ := h.ok hrun
      obtain ⟨hends, hafter, hpairs, hopened, hreleased⟩ := ih t
      simp only [captures, hrun]
      refine ⟨by simpa using hends, ?_, ?_, ?_, ?_⟩
      · rw [hnone]
        nofun
      · exact List.pairwise_cons.mpr ⟨fun o ho _ => hafter (by rw [ht]) o ho, hpairs⟩
      · simp only [hopened, ht, List.length_cons]
        omega
      · rw [hreleased, ht]
    | error e t =>
      obtain ⟨he, hopen, hrelease, hallocated⟩ := h.error hrun
      obtain ⟨hends, hafter, hpairs, hopened, hreleased⟩ := ih t
      rcases he with rfl | ⟨rfl, hnone⟩
      · simp only [captures, hrun]
        refine ⟨by simpa using hends, ?_, ?_, ?_, ?_⟩
        · intro hsome
          simpa using hafter (hallocated hsome)
        · exact List.pairwise_cons.mpr ⟨fun _ _ h => (by cases h), hpairs⟩
        · rw [hopened, hopen, List.length_cons]
          omega
        · rw [hreleased, hrelease]
      · simp only [captures, hrun]
        refine ⟨by simp, ?_, by simp, hopen, hrelease⟩
        rw [hnone]
        nofun

/-- Whatever captures are begun one after the other, every one opens the device once more and gives
nothing back, so that after one that has returned no other gets past the format. A failure never
arrives as the exception with the message. -/
theorem captured_once (hbusy : env.Busy) (ns : List ℕ) (stop : Bool) (clock : ℕ) :
    (∀ o ∈ (captures env ns ⟨[], stop, clock⟩).1, o = .ok () ∨
      o = .error (.format .tooManyArgs) ∨ o = .error .unfinished) ∧
    (captures env ns ⟨[], stop, clock⟩).1.Pairwise
      (fun first later => first = .ok () → later = .error (.format .tooManyArgs)) ∧
    (captures env ns ⟨[], stop, clock⟩).2.held.opened =
      (captures env ns ⟨[], stop, clock⟩).1.length ∧
    (captures env ns ⟨[], stop, clock⟩).2.held.released = 0 := by
  obtain ⟨hends, -, hpairs, hopened, hreleased⟩ := captures_held hbusy ns ⟨[], stop, clock⟩
  refine ⟨hends, hpairs, ?_, hreleased⟩
  rw [hopened]
  exact Nat.zero_add _

/-- A device that is busy when it has buffers, and does everything else that it is asked. -/
def busyDevice : Environment where
  kernel := fun made c =>
    match c with
    | .ioctl _ (.sFmt _ _) => ⟨if allocated made then -1 else 0, 16, 0, 0⟩
    | _ => ⟨3, 0, 0, 0⟩
  strerror := fun _ => "Device or resource busy"
  stops := fun k => k = 13

theorem captured_once_busyDevice :
    (∀ o ∈ (captures busyDevice [5, 5] ⟨[], false, 0⟩).1, o = .ok () ∨
      o = .error (.format .tooManyArgs) ∨ o = .error .unfinished) ∧
    (captures busyDevice [5, 5] ⟨[], false, 0⟩).1.Pairwise
      (fun first later => first = .ok () → later = .error (.format .tooManyArgs)) ∧
    (captures busyDevice [5, 5] ⟨[], false, 0⟩).2.held.opened =
      (captures busyDevice [5, 5] ⟨[], false, 0⟩).1.length ∧
    (captures busyDevice [5, 5] ⟨[], false, 0⟩).2.held.released = 0 :=
  captured_once (fun made _ _ _ h => by simp [busyDevice, h]) [5, 5] false 0

end History

end Rckam.HdmiCapture
