import Rckam.Library.Outcomes
import Rckam.Server.Arrival
import Rckam.Server.Bounds

/-! How long the server serves: the connections that end its loop, those with which what it does
is undefined, and what becomes of the other ones. -/
namespace Rckam.Server
open Outcomes

namespace Connection

/-- A read waits for bytes that do not come. -/
def Stalls (c : Connection) : Prop :=
  c.stream.ending = .silent ∧ (c.stream.bytes.length < enumSize ∨
    ∃ available ∈ c.available,
      c.stream.bytes.length < enumSize + min available commandBufferSize)

/-- There is a command, and then `socket.available()` throws. -/
def Broken (c : Connection) : Prop := enumSize ≤ c.stream.bytes.length ∧ c.available = none

/-- What is available fits the buffer behind the command, and it arrives. -/
def Complete (c : Connection) : Prop :=
  ∃ available ∈ c.available, enumSize + available ≤ commandBufferSize ∧
    enumSize + available ≤ c.stream.bytes.length

def payload (c : Connection) : List Byte :=
  (c.stream.bytes.drop enumSize).take (c.available.getD 0)

/-- The command that a complete request is taken for. -/
def command (p : Platform) (c : Connection) : ℕ :=
  p.load ((c.payload ++ (c.stream.bytes.take enumSize).drop c.payload.length).take enumSize)

theorem Complete.not_stalls {c : Connection} (h : c.Complete) : ¬ c.Stalls := by
  obtain ⟨available, havailable, hfits, hlong⟩ := h
  rw [Option.mem_def] at havailable
  rintro ⟨-, hshort | ⟨n, hn, hshort⟩⟩
  · omega
  · rw [havailable, Option.mem_some] at hn
    omega

theorem Complete.not_broken {c : Connection} (h : c.Complete) : ¬ c.Broken := by
  obtain ⟨available, havailable, -, -⟩ := h
  rintro ⟨-, hnone⟩
  rw [Option.mem_def.mp havailable] at hnone
  contradiction

theorem Complete.not_overlong {c : Connection} (h : c.Complete) : ¬ c.Overlong := by
  obtain ⟨available, havailable, hfits, -⟩ := h
  rintro ⟨large, hlarge, hover, -, -⟩
  rw [Option.mem_def.mp havailable, Option.mem_some] at hlarge
  omega

end Connection

/-- A read waits for ever only when the bytes are too few and the peer is silent. -/
theorem read_none_iff (s : Stream) (n : ℕ) :
    s.read n = none ↔ s.ending = .silent ∧ s.bytes.length < min n commandBufferSize := by
  unfold Stream.read
  by_cases h : min n commandBufferSize ≤ s.bytes.length
  · simp only [h, ↓reduceDIte, reduceCtorEq, not_lt.mpr h, and_false]
  · simp only [h, ↓reduceDIte, not_le.mp h, and_true]
    cases s.ending <;> simp

theorem read_ending {s : Stream} {n : ℕ} {r : ReadResult} (h : s.read n = some r) :
    r.rest.ending = s.ending := by
  unfold Stream.read at h
  by_cases hlong : min n commandBufferSize ≤ s.bytes.length
  · simp only [hlong, ↓reduceDIte, Option.some.injEq] at h
    rw [← h]
  · simp only [hlong, ↓reduceDIte] at h
    cases hending : s.ending <;> simp only [hending, Option.some.injEq, reduceCtorEq] at h
    · rw [← h]
    · rw [← h]

section Receives
variable {p : Platform} {b : Buffer} {c : Connection}

/-- A complete request is a message and what follows it. -/
theorem Connection.Complete.receive (h : c.Complete) (p : Platform) (b : Buffer) :
    ∃ r b', receive p b c = (.request r, b') ∧ r.command = c.command p := by
  obtain ⟨available, havailable, hfits, hlong⟩ := h
  have hpayload : ((c.stream.bytes.drop enumSize).take available).length = available := by
    rw [List.length_take, List.length_drop]
    omega
  let m : Message := {
    command := c.stream.bytes.take enumSize
    commandSize := by
      rw [List.length_take]
      omega
    payload := (c.stream.bytes.drop enumSize).take available
    fits := by rwa [hpayload] }
  have hbytes : m.command ++ (m.payload ++ (c.stream.bytes.drop enumSize).drop available) =
      c.stream.bytes := by
    rw [List.take_append_drop, List.take_append_drop]
  have hconnection : (⟨⟨m.command ++ (m.payload ++ (c.stream.bytes.drop enumSize).drop available),
      c.stream.ending⟩, some m.payload.length⟩ : Connection) = c := by
    rw [hbytes, hpayload, ← havailable]
  obtain ⟨b', -, hreceive⟩ := receive_before p b m ((c.stream.bytes.drop enumSize).drop available)
    c.stream.ending
  rw [hconnection] at hreceive
  refine ⟨_, b', hreceive, ?_⟩
  rw [m.read_command]
  unfold Message.decoded Message.kept Connection.command Connection.payload
  rw [Option.mem_def.mp havailable]
  rfl

/-- What has arrived is a request, or more than the buffer has room for. -/
theorem arrive_fits {a : Arrived} (h : arrive b c = some a) :
    (a.available + enumSize ≤ commandBufferSize ∧ c.Complete) ∨
      (commandBufferSize < enumSize + a.available ∧ c.Overlong) := by
  obtain ⟨-, havailable, hfits, hlong⟩ := arrive_some h
  by_cases hroom : enumSize + a.available ≤ commandBufferSize
  · exact Or.inl ⟨by omega, a.available, havailable, hroom, hlong⟩
  · refine Or.inr ⟨not_le.mp hroom, a.available, havailable, ?_, hfits, hlong⟩
    exact (Nat.sub_lt_iff_lt_add' (by decide)).mpr (not_le.mp hroom)

theorem receive_request_iff : (∃ r, (receive p b c).1 = .request r) ↔ c.Complete := by
  constructor
  · rintro ⟨r, hr⟩
    rcases receive_arrive p b c with ⟨a, harrive, hreceive⟩ | ⟨-, hother⟩
    · rcases arrive_fits harrive with ⟨-, hcomplete⟩ | ⟨hover, -⟩
      · exact hcomplete
      · rw [hreceive, request, if_pos hover] at hr
        contradiction
    · rw [hr] at hother
      simp at hother
  · intro h
    obtain ⟨r, b', hreceive, -⟩ := h.receive p b
    exact ⟨r, congrArg Prod.fst hreceive⟩

theorem receive_undefined_iff : (receive p b c).1 = .undefined ↔ c.Overlong := by
  constructor
  · intro h
    rcases receive_arrive p b c with ⟨a, harrive, hreceive⟩ | ⟨-, hother⟩
    · rcases arrive_fits harrive with ⟨hroom, -⟩ | ⟨-, hover⟩
      · rw [hreceive, request, if_neg (by omega)] at h
        contradiction
      · exact hover
    · rw [h] at hother
      simp at hother
  · rintro ⟨available, havailable, hlarge, hfits, hlong⟩
    obtain ⟨a, harrive, hcount⟩ := arrive_of_long (b := b) havailable hfits hlong
    rcases receive_arrive p b c with ⟨a', harrive', hreceive⟩ | ⟨hnone, -⟩
    · obtain rfl : a = a' := Option.some_inj.mp (harrive.symm.trans harrive')
      rw [hreceive, request, if_pos (by omega)]
    · rw [harrive] at hnone
      contradiction

theorem request_received (p : Platform) (b : Buffer) (count available : ℕ) :
    request p b count available ≠ .blocked ∧ request p b count available ≠ .terminated := by
  unfold request
  split <;> simp

/-- Without a command nothing is looked at. -/
theorem receive_short (p : Platform) (b : Buffer) (h : c.stream.bytes.length < enumSize) :
    (c.Stalls ∧ (receive p b c).1 = .blocked) ∨ (¬ c.Stalls ∧ (receive p b c).1 = .rejected) := by
  have hmin : min enumSize commandBufferSize = enumSize := by decide
  have hstalls : c.Stalls ↔ c.stream.read enumSize = none := by
    rw [read_none_iff, hmin]
    unfold Connection.Stalls
    simp [h]
  rw [hstalls]
  unfold receive
  cases hfirst : c.stream.read enumSize with
  | none => simp
  | some first =>
    rcases read_command c.stream with ⟨hlong, -⟩ | ⟨-, hall⟩
    · omega
    · rcases hall first hfirst with hfailed | hfew
      · simp [hfailed]
      · by_cases hfailed : first.failed <;> simp [hfailed, hfew]

theorem receive_blocked_iff : (receive p b c).1 = .blocked ↔ c.Stalls := by
  rcases read_command c.stream with ⟨hlong, first, hfirst, hgood, -, hrest⟩ | ⟨hshort, -⟩
  · obtain ⟨hfailed, hfew⟩ := not_or.mp hgood
    unfold receive Connection.Stalls
    simp only [hfirst, hfailed, hfew, ↓reduceIte, not_lt.mpr hlong, false_or]
    cases havailable : c.available with
    | none => simp
    | some available =>
      have hnone : first.rest.read available = none ↔ c.stream.ending = .silent ∧
          c.stream.bytes.length < enumSize + min available commandBufferSize := by
        rw [read_none_iff, read_ending hfirst, hrest]
        apply and_congr_right
        intro _
        omega
      simp only [Option.mem_some, exists_eq_left', ← hnone]
      by_cases hzero : available = 0
      · have hsome : ¬ first.rest.read available = none := by
          rw [hnone]
          omega
        simp only [hzero, ↓reduceIte, (request_received _ _ _ _).1, false_iff]
        rwa [hzero] at hsome
      · cases hsecond : first.rest.read available with
        | none => simp [hzero]
        | some second =>
          by_cases hbad : second.failed ∨ available ≠ second.bytes.length
          · simp [hzero, hbad]
          · simp [hzero, hbad, (request_received _ _ _ _).1]
  · rcases receive_short p b hshort with ⟨hstalls, hreceive⟩ | ⟨hstalls, hreceive⟩
    · simp [hstalls, hreceive]
    · simp [hstalls, hreceive]

theorem receive_terminated_iff : (receive p b c).1 = .terminated ↔ c.Broken := by
  rcases read_command c.stream with ⟨hlong, first, hfirst, hgood, -, -⟩ | ⟨hshort, -⟩
  · obtain ⟨hfailed, hfew⟩ := not_or.mp hgood
    unfold receive Connection.Broken
    simp only [hfirst, hfailed, hfew, ↓reduceIte, hlong, true_and]
    cases havailable : c.available with
    | none => simp
    | some available =>
      by_cases hzero : available = 0
      · simp [hzero, (request_received _ _ _ _).2]
      · cases hsecond : first.rest.read available with
        | none => simp [hzero, hsecond]
        | some second =>
          by_cases hbad : second.failed ∨ available ≠ second.bytes.length
          · simp [hzero, hsecond, hbad]
          · simp [hzero, hsecond, hbad, (request_received _ _ _ _).2]
  · have hbroken : ¬ c.Broken := fun h => absurd h.1 (not_le.mpr hshort)
    rcases receive_short p b hshort with ⟨-, hreceive⟩ | ⟨-, hreceive⟩
    · simp [hbroken, hreceive]
    · simp [hbroken, hreceive]

end Receives

/-! ### The requests that end the program -/

/-- What a request throws is answered, unless it is no exception. -/
def Thrown.Answered (e : Thrown) : Prop := e ≠ .assertionFailed ∧ e ≠ .undefined

section Throws
variable {lib : Gphoto2}

theorem call_throws {ρ : Type} (f : lib.State → ρ × lib.State) :
    Throws Thrown.Answered (call f) := fun _ => trivial

theorem gphoto2Exception_answered (message : List Byte) : (gphoto2Exception message).Answered :=
  ⟨nofun, nofun⟩

theorem abilitiesList_throws :
    Throws Thrown.Answered (Camera.abilitiesList : Action lib (Option Handle)) := by
  unfold Camera.abilitiesList
  apply throws_get.bind
  intro s
  dsimp only
  split
  · apply (call_throws _).bind
    intro new
    apply (throws_modify _).bind
    intro _
    apply throws_check (gphoto2Exception_answered _)
    apply (call_throws _).bind
    intro ret2
    apply throws_check (gphoto2Exception_answered _)
    exact throws_get.bind fun _ => throws_pure _
  · exact throws_get.bind fun _ => throws_pure _

theorem portInfoList_throws :
    Throws Thrown.Answered (Camera.portInfoList : Action lib (Option Handle)) := by
  unfold Camera.portInfoList
  apply throws_get.bind
  intro s
  dsimp only
  split
  · apply (call_throws _).bind
    intro new
    apply (throws_modify _).bind
    intro _
    apply throws_check (gphoto2Exception_answered _)
    apply (call_throws _).bind
    intro ret2
    apply throws_check (gphoto2Exception_answered _)
    apply (call_throws _).bind
    intro ret3
    apply throws_check (gphoto2Exception_answered _)
    exact throws_get.bind fun _ => throws_pure _
  · exact throws_get.bind fun _ => throws_pure _

theorem setAbilities_throws (model : List Byte) :
    Throws Thrown.Answered (Camera.setAbilities model : Action lib Unit) := by
  have hindex : Throws Thrown.Answered (Camera.driverIndex model : Action lib ℤ) := by
    apply abilitiesList_throws.bind
    intro list
    apply (call_throws _).bind
    intro index
    apply throws_check (gphoto2Exception_answered _)
    exact throws_pure _
  unfold Camera.setAbilities
  apply throws_get.bind
  intro s
  cases s.camera with
  | none => exact throws_throw (gphoto2Exception_answered _)
  | some camera =>
    apply hindex.bind
    intro index
    apply abilitiesList_throws.bind
    intro list
    apply (call_throws _).bind
    intro abilities
    apply throws_check (gphoto2Exception_answered _)
    apply (call_throws _).bind
    intro ret2
    exact (throws_throw (gphoto2Exception_answered _)).ite (throws_pure _)

theorem setPortInfo_throws (port : List Byte) :
    Throws Thrown.Answered (Camera.setPortInfo port : Action lib Unit) := by
  unfold Camera.setPortInfo
  apply throws_get.bind
  intro s
  cases s.camera with
  | none => exact throws_throw (gphoto2Exception_answered _)
  | some camera =>
    apply portInfoList_throws.bind
    intro list
    apply (call_throws _).bind
    intro index
    apply throws_check (gphoto2Exception_answered _)
    apply portInfoList_throws.bind
    intro list'
    apply (call_throws _).bind
    intro info
    apply throws_check (gphoto2Exception_answered _)
    apply (call_throws _).bind
    intro ret3
    exact (throws_throw (gphoto2Exception_answered _)).ite (throws_pure _)

theorem argumentAt_throws (arguments : List (List Byte)) (n : ℕ) :
    Throws Thrown.Answered (argumentAt arguments n : Action lib (List Byte)) := by
  unfold argumentAt
  cases arguments[n]? with
  | none => exact throws_throw ⟨nofun, nofun⟩
  | some argument => exact throws_pure _

variable {p : Platform} {r : Request} {s : CameraController lib}

/-- Only a list can fail on an assertion or go astray. -/
theorem execute_throws (h : r.command ≠ ServerCommand.listCameras.value) :
    Throws Thrown.Answered (execute p r : Action lib (List Byte)) := by
  by_cases hecho : r.command = ServerCommand.echoOnly.value
  · rw [execute_echoOnly hecho]
    exact throws_pure _
  · by_cases hselect : r.command = ServerCommand.selectCamera.value
    · rw [execute_selectCamera hselect]
      apply (argumentAt_throws _ _).bind
      intro model
      apply (argumentAt_throws _ _).bind
      intro usbPort
      apply ((setAbilities_throws _).bind fun _ => setPortInfo_throws _).bind
      intro _
      exact throws_pure _
    · rw [execute_unsupported hecho h hselect]
      exact throws_pure _

/-- There is no answer when the autodetection for a list of cameras fails or finds cameras. -/
theorem respond_none_iff : (respond p r s).1 = none ↔
    r.command = ServerCommand.listCameras.value ∧ ∃ ret ∈ autodetected s, ret ≠ 0 := by
  by_cases hlist : r.command = ServerCommand.listCameras.value
  · simp only [hlist, true_and]
    cases hdetect : autodetected s with
    | none =>
      obtain ⟨message, t, hrespond⟩ := respond_undetected (p := p) (r := ⟨r, hlist⟩) hdetect
      simp [congrArg Prod.fst hrespond, failure, gphoto2Exception]
    | some ret =>
      simp only [Option.mem_some, exists_eq_left']
      rcases lt_or_ge ret 0 with hneg | hret
      · obtain ⟨t, hrespond⟩ := respond_negative (p := p) (r := ⟨r, hlist⟩) hdetect hneg
        exact ⟨fun _ => hneg.ne, fun _ => congrArg Prod.fst hrespond⟩
      · obtain ⟨t, hrespond⟩ := respond_detected (p := p) (r := ⟨r, hlist⟩) hdetect hret
        by_cases hzero : ret = 0
        · simp [hzero, congrArg Prod.fst hrespond]
        · simp [hzero, congrArg Prod.fst hrespond]
  · simp only [hlist, false_and, iff_false]
    have hends := execute_throws (p := p) hlist s
    unfold respond
    cases hrun : (execute p r).run s with
    | ok response t => simp
    | error e t =>
      have he : e.Answered := hends.error hrun
      cases e with
      | assertionFailed => exact absurd rfl he.1
      | undefined => exact absurd rfl he.2
      | exceptionData n message => simp [failure]
      | stdException what => simp [failure]

/-- A list of cameras goes astray when there are cameras to be listed. -/
theorem strays_iff : strays p r s = true ↔
    r.command = ServerCommand.listCameras.value ∧ ∃ ret ∈ autodetected s, 0 < ret := by
  by_cases hlist : r.command = ServerCommand.listCameras.value
  · simp only [hlist, true_and]
    cases hdetect : autodetected s with
    | none => simp [strays_undetected (p := p) (r := ⟨r, hlist⟩) hdetect]
    | some ret =>
      simp only [Option.mem_some, exists_eq_left']
      rcases lt_or_ge ret 0 with hneg | hret
      · simp [strays_negative (p := p) (r := ⟨r, hlist⟩) hdetect hneg, hneg.le]
      · simp [strays_detected (p := p) (r := ⟨r, hlist⟩) hdetect hret, hret.lt_iff_ne']
  · simp only [hlist, false_and, iff_false]
    have hends := execute_throws (p := p) hlist s
    unfold strays
    cases hrun : (execute p r).run s with
    | ok response t => simp
    | error e t =>
      have he : e.Answered := hends.error hrun
      cases e with
      | undefined => exact absurd rfl he.2
      | assertionFailed => simp
      | exceptionData n message => simp
      | stdException what => simp

end Throws

/-! ### How long the server serves -/

variable {lib : Gphoto2} {p : Platform}

/-- A complete request for a list of cameras, with what its autodetection returns. -/
def Detects (p : Platform) (s : Idle lib) (c : Connection) (ret : ℤ) : Prop :=
  c.Complete ∧ c.command p = ServerCommand.listCameras.value ∧ ret ∈ autodetected s.controller

/-- The server does not come back to `accept`: a read waits for ever, `socket.available()` throws,
or the autodetection for a list fails. -/
def Stops (p : Platform) (s : Idle lib) (c : Connection) : Prop :=
  c.Stalls ∨ c.Broken ∨ ∃ ret < 0, Detects p s c ret

/-- What the server does is undefined: it reads outside of its buffer, or it looks for the cameras
of a list in one that it has freed. -/
def Astray (p : Platform) (s : Idle lib) (c : Connection) : Prop :=
  c.Overlong ∨ ∃ ret > 0, Detects p s c ret

/-- An iteration that comes back has answered exactly a complete request, and nothing else can have
changed the cameras. -/
def Dealt (s : Idle lib) (c : Connection) (served : Served lib) : Prop :=
  ∃ response t, served = .next response t ∧ (response.isSome ↔ c.Complete) ∧
    (¬ c.Complete → t.controller = s.controller)

theorem serve_complete {s : Idle lib} {c : Connection} (hcomplete : c.Complete) :
    (serve p s c = .halted ↔ Stops p s c) ∧ (serve p s c = .undefined ↔ Astray p s c) ∧
      (¬ Stops p s c → ¬ Astray p s c → Dealt s c (serve p s c)) := by
  obtain ⟨r, b', hreceive, hcommand⟩ := hcomplete.receive p s.buffer
  have hdetects (ret : ℤ) : Detects p s c ret ↔
      r.command = ServerCommand.listCameras.value ∧ ret ∈ autodetected s.controller := by
    unfold Detects
    rw [hcommand]
    exact and_iff_right hcomplete
  have hastray : Astray p s c ↔ strays p r s.controller = true := by
    rw [strays_iff]
    simp only [Astray, hcomplete.not_overlong, false_or, hdetects]
    grind
  have hgone : Stops p s c ∨ Astray p s c ↔ (respond p r s.controller).1 = none := by
    rw [respond_none_iff]
    simp only [Stops, Astray, hcomplete.not_stalls, hcomplete.not_broken, hcomplete.not_overlong,
      false_or, hdetects]
    grind
  have hboth : Stops p s c → ¬ Astray p s c := by
    simp only [Stops, Astray, hcomplete.not_stalls, hcomplete.not_broken, hcomplete.not_overlong,
      false_or, hdetects]
    rintro ⟨ret, hneg, -, hret⟩ ⟨ret', hpos, -, hret'⟩
    rw [Option.mem_unique hret hret'] at hneg
    omega
  unfold serve
  simp only [hreceive]
  cases hrespond : respond p r s.controller with
  | mk response controller =>
    rw [hrespond] at hgone
    cases response with
    | some response =>
      have hnot : ¬ (Stops p s c ∨ Astray p s c) := by simp [hgone]
      obtain ⟨hstops, hstrays⟩ := not_or.mp hnot
      exact ⟨by simp [hstops], by simp [hstrays],
        fun _ _ => ⟨_, _, rfl, by simp [hcomplete], absurd hcomplete⟩⟩
    | none =>
      have hor : Stops p s c ∨ Astray p s c := hgone.mpr rfl
      cases hstrays : strays p r s.controller with
      | true =>
        have ha : Astray p s c := hastray.mpr hstrays
        have hstops : ¬ Stops p s c := fun h => hboth h ha
        exact ⟨by simp [hstops], by simp [ha], fun _ h => absurd ha h⟩
      | false =>
        have ha : ¬ Astray p s c := by simp [hastray, hstrays]
        have hstops : Stops p s c := hor.resolve_right ha
        exact ⟨by simp [hstops], by simp [ha], fun h _ => absurd hstops h⟩

/-- How an iteration ends. -/
theorem serve_ends (p : Platform) (s : Idle lib) (c : Connection) :
    (serve p s c = .halted ↔ Stops p s c) ∧ (serve p s c = .undefined ↔ Astray p s c) ∧
      (¬ Stops p s c → ¬ Astray p s c → Dealt s c (serve p s c)) := by
  by_cases hcomplete : c.Complete
  · exact serve_complete hcomplete
  · have hstops : Stops p s c ↔ c.Stalls ∨ c.Broken := by simp [Stops, Detects, hcomplete]
    have hastray : Astray p s c ↔ c.Overlong := by simp [Astray, Detects, hcomplete]
    rw [hstops, hastray, ← receive_blocked_iff (p := p) (b := s.buffer),
      ← receive_terminated_iff (p := p) (b := s.buffer),
      ← receive_undefined_iff (p := p) (b := s.buffer)]
    unfold serve Dealt
    cases hreceive : receive p s.buffer c with
    | mk inbound b' =>
      cases inbound with
      | request r => exact absurd (receive_request_iff.mp ⟨r, congrArg Prod.fst hreceive⟩) hcomplete
      | rejected => simp [hcomplete]
      | blocked => simp
      | terminated => simp
      | undefined => simp

theorem run_append (p : Platform) (s : Idle lib) (before after : List Connection) :
    run p s (before ++ after) = (run p s before).bind fun t => run p t after := by
  induction before generalizing s with
  | nil => rfl
  | cons c before ih =>
    rw [List.cons_append, run, run]
    cases serve p s c with
    | next response t => exact ih t
    | halted => rfl
    | undefined => rfl

/-- The server is followed up to the first connection at which it stops or goes astray. -/
theorem run_none_iff (p : Platform) (s : Idle lib) (connections : List Connection) :
    run p s connections = none ↔ ∃ before c after t, connections = before ++ c :: after ∧
      run p s before = some t ∧ (Stops p t c ∨ Astray p t c) := by
  constructor
  · intro h
    induction connections generalizing s with
    | nil => contradiction
    | cons c connections ih =>
      obtain ⟨hstops, hastray, hdealt⟩ := serve_ends p s c
      by_cases hends : Stops p s c ∨ Astray p s c
      · exact ⟨[], c, connections, s, rfl, rfl, hends⟩
      · obtain ⟨hnot, hnot'⟩ := not_or.mp hends
        obtain ⟨response, t, hserve, -⟩ := hdealt hnot hnot'
        rw [run, hserve] at h
        obtain ⟨before, c', after, u, rfl, hrun, hlast⟩ := ih t h
        refine ⟨c :: before, c', after, u, rfl, ?_, hlast⟩
        rw [run, hserve]
        exact hrun
  · rintro ⟨before, c, after, t, rfl, hrun, hlast⟩
    obtain ⟨hstops, hastray, -⟩ := serve_ends p t c
    rw [run_append, hrun, Option.bind_some, run]
    rcases hlast with h | h
    · rw [hstops.mpr h]
    · rw [hastray.mpr h]

/-- The server serves one connection after the other until the first one at which it stops or goes
astray. It stops exactly when a read waits for ever, when `socket.available()` throws and when the
autodetection for a complete list command has a negative result, and it goes astray exactly when
bytes are read outside of the buffer and when that autodetection finds a camera. Any other
connection is answered exactly if its request is complete, and leaves the cameras as they are if it
is not. -/
theorem serves_until (p : Platform) (s : Idle lib) :
    (∀ connections, run p s connections = none ↔ ∃ before c after t,
      connections = before ++ c :: after ∧ run p s before = some t ∧
        (Stops p t c ∨ Astray p t c)) ∧
      ∀ (t : Idle lib) c, (serve p t c = .halted ↔ Stops p t c) ∧
        (serve p t c = .undefined ↔ Astray p t c) ∧
        (¬ Stops p t c → ¬ Astray p t c → Dealt t c (serve p t c)) :=
  ⟨run_none_iff p s, serve_ends p⟩

end Rckam.Server
