import Rckam.Server.Detections

/-! A control request that arrives in pieces: `run` takes what `socket.available()` reports after
the first read for the rest of the request. -/
namespace Rckam.Server

variable {lib : Gphoto2}

/-! ### The responses told apart -/

inductive Answer where
  | echo | listing | refusal | unsupported
  deriving DecidableEq, Repr

/-- What the commands answer when no camera is selected. -/
def Answer.of (command : ℕ) : Answer :=
  if command = ServerCommand.echoOnly.value then .echo
  else if command = ServerCommand.listCameras.value then .listing
  else if command = ServerCommand.selectCamera.value then .refusal
  else .unsupported

theorem of_unsupported {command : ℕ} (hecho : command ≠ ServerCommand.echoOnly.value)
    (hlist : command ≠ ServerCommand.listCameras.value)
    (hselect : command ≠ ServerCommand.selectCamera.value) :
    Answer.of command = .unsupported := by
  unfold Answer.of
  rw [if_neg hecho, if_neg hlist, if_neg hselect]

/-- The command is settled by the kind of its answer, unless it is not supported. -/
theorem of_command (command : ℕ) :
    match Answer.of command with
    | .echo => command = ServerCommand.echoOnly.value
    | .listing => command = ServerCommand.listCameras.value
    | .refusal => command = ServerCommand.selectCamera.value
    | .unsupported => command ≠ ServerCommand.echoOnly.value ∧
        command ≠ ServerCommand.listCameras.value ∧
        command ≠ ServerCommand.selectCamera.value := by
  unfold Answer.of
  split_ifs with hecho hlist hselect
  · exact hecho
  · exact hlist
  · exact hselect
  · exact ⟨hecho, hlist, hselect⟩

/-- The kind of a response: the refusal of a selection begins with the text of `vector::at`. -/
def Answer.read (p : Platform) : Option (List Byte) → Answer
  | none => .listing
  | some response =>
      if response.length = 2 then .unsupported
      else if response.take enumSize = [0, 0, 0, 0] then .echo
      else if (ResponseCode.failure.bytes p ++ [tab, 118]) <+: response then .refusal
      else .listing

theorem store_zero (p : Platform) : p.store enumSize 0 = [0, 0, 0, 0] := by
  cases p with
  | mk word order => cases word <;> cases order <;> decide

theorem failure_bytes (p : Platform) : ResponseCode.failure.bytes p = [3, 0, 0, 0] ∨
    ResponseCode.failure.bytes p = [0, 0, 0, 3] := by
  cases p with
  | mk word order => cases word <;> cases order <;> decide

/-- Four bytes that read as the command `ECHO_ONLY`. -/
theorem bytes_of_echo {p : Platform} {bytes : List Byte} (hlen : bytes.length = enumSize)
    (h : p.load bytes = ServerCommand.echoOnly.value) : bytes = [0, 0, 0, 0] := by
  rw [← store_zero p]
  have hload : p.load (p.store enumSize 0) = 0 := p.load_store enumSize 0
  exact p.order.decode_inj (by simpa using hlen) (h.trans hload.symm)

theorem read_listing (p : Platform) (response : Option (List Byte))
    (h : response = some [] ∨ (∃ message, response = failure p (gphoto2Exception message)) ∨
      response = none) :
    Answer.read p response = .listing := by
  rcases h with rfl | ⟨message, rfl⟩ | rfl
  · rcases failure_bytes p with hp | hp <;> simp [Answer.read, hp]
  · have hfive : signedDecimal 5 = [53] := by simp [signedDecimal, decimal]
    rcases failure_bytes p with hp | hp <;>
      simp [Answer.read, failure, gphoto2Exception, hp, hfive, enumSize]
  · rfl

/-- The arguments that the switch passes to `selectCamera`, if it gets there. -/
def selection (r : Request) : Option (List Byte × List Byte) :=
  if r.command = ServerCommand.selectCamera.value then
    match r.arguments with
    | model :: usbPort :: _ => some (cString model, cString usbPort)
    | _ => none
  else none

/-- What `selection` finds in a request is what `execute` passes to `selectCamera`. -/
theorem execute_selection {p : Platform} {r : Request} {model usbPort : List Byte}
    (h : selection r = some (model, usbPort)) :
    (execute p r : Action lib (List Byte)) = do
      CameraController.selectCamera model usbPort
      return success p := by
  unfold selection at h
  split at h
  · next hcommand =>
    split at h
    · next model' usbPort' rest harguments =>
      obtain ⟨rfl, rfl⟩ := Prod.mk.inj (Option.some.inj h)
      exact execute_select hcommand harguments
    · contradiction
  · contradiction

/-- The message of `vector::at` for the first index that is not there. -/
def outOfRange (size : ℕ) : List Byte :=
  text "vector::_M_range_check: __n (which is " ++ decimal size ++
    text ") >= this->size() (which is " ++ decimal size ++ text ")"

section Kinds
variable {p : Platform} {r : Request} (controller : CameraController lib)

/-- With fewer than two arguments a selection is refused. -/
theorem respond_refusal (hcommand : r.command = ServerCommand.selectCamera.value)
    (hnone : selection r = none) :
    (respond p r controller).1 = failure p (.stdException (outOfRange r.arguments.length)) := by
  unfold selection at hnone
  rw [if_pos hcommand] at hnone
  unfold respond
  rw [execute_selectCamera hcommand]
  cases harguments : r.arguments with
  | nil => rfl
  | cons model rest =>
    cases rest with
    | nil => rfl
    | cons usbPort rest =>
      rw [harguments] at hnone
      contradiction

theorem respond_listing (hcommand : r.command = ServerCommand.listCameras.value) :
    (respond p r controller).1 = some [] ∨
      (∃ message, (respond p r controller).1 = failure p (gphoto2Exception message)) ∨
      (respond p r controller).1 = none := by
  cases h : autodetected controller with
  | none =>
    obtain ⟨message, t, hrespond⟩ := respond_undetected (p := p) (r := ⟨r, hcommand⟩) h
    exact Or.inr (Or.inl ⟨message, congrArg Prod.fst hrespond⟩)
  | some ret =>
    rcases lt_or_ge ret 0 with hneg | hret
    · obtain ⟨t, hrespond⟩ := respond_negative (p := p) (r := ⟨r, hcommand⟩) h hneg
      exact Or.inr (Or.inr (congrArg Prod.fst hrespond))
    · obtain ⟨t, hrespond⟩ := respond_detected (p := p) (r := ⟨r, hcommand⟩) h hret
      by_cases hzero : ret = 0
      · rw [if_pos hzero] at hrespond
        exact Or.inl (congrArg Prod.fst hrespond)
      · rw [if_neg hzero] at hrespond
        exact Or.inr (Or.inr (congrArg Prod.fst hrespond))

theorem respond_unsupported (hunsupported : Answer.of r.command = .unsupported) :
    (respond p r controller).1 = some commandNotSupported := by
  unfold Answer.of at hunsupported
  unfold respond
  split_ifs at hunsupported with hecho hlist hselect
  rw [execute_unsupported hecho hlist hselect]
  rfl

theorem respond_echo (hcommand : r.command = ServerCommand.echoOnly.value) :
    (respond p r controller).1 = some r.echo := by
  unfold respond
  rw [execute_echoOnly hcommand]
  rfl

end Kinds

section Reads
variable {p : Platform} {m : Message} {old : List Byte} (controller : CameraController lib)

theorem echo_take (m : Message) (p : Platform) (old : List Byte) :
    (m.read p old).echo.take enumSize = m.kept.take enumSize := by
  have hlen := m.kept_length
  rw [m.read_echo, List.take_append_of_le_length (by omega)]

/-- Unless a camera is selected, the response tells which command was taken. -/
theorem read_respond (hnone : selection (m.read p old) = none) :
    Answer.read p (respond p (m.read p old) controller).1 = .of (m.decoded p) := by
  have hcommand := m.read_command p old
  rw [← hcommand]
  by_cases hecho : (m.read p old).command = ServerCommand.echoOnly.value
  · have hlen := m.kept_length
    have hzero : m.kept.take enumSize = [0, 0, 0, 0] := by
      apply bytes_of_echo (p := p)
      · rw [List.length_take]
        omega
      · exact hcommand.symm.trans hecho
    have hlong : (m.read p old).echo.length ≠ 2 := by
      have hfour : 4 ≤ enumSize := by decide
      rw [m.read_echo, List.length_append]
      omega
    rw [respond_echo controller hecho, hecho]
    exact (if_neg hlong).trans (if_pos ((echo_take m p old).trans hzero))
  · by_cases hlist : (m.read p old).command = ServerCommand.listCameras.value
    · rw [read_listing p _ (respond_listing controller hlist), hlist]
      rfl
    · by_cases hselect : (m.read p old).command = ServerCommand.selectCamera.value
      · have htext : ∃ rest, text "vector::_M_range_check: __n (which is " = 118 :: rest :=
          ⟨_, rfl⟩
        obtain ⟨rest, hrest⟩ := htext
        rw [respond_refusal controller hselect hnone, hselect]
        unfold outOfRange
        rw [hrest]
        rcases failure_bytes p with hp | hp <;>
          simp [Answer.read, failure, hp, enumSize] <;> rfl
      · have hunsupported := of_unsupported hecho hlist hselect
        rw [respond_unsupported controller hunsupported, hunsupported]
        rfl

end Reads

/-! ### The same request on two schedules -/

/-- The bytes of a request that fits the buffer. -/
structure RequestBytes where
  bytes : List Byte
  whole : enumSize ≤ bytes.length
  fits : bytes.length ≤ commandBufferSize

namespace RequestBytes

/-- The number of bytes behind the command. -/
def extra (r : RequestBytes) : ℕ := r.bytes.length - enumSize

/-- The part of the request that `run` reads when `k` bytes are available behind the command. -/
def arrived (r : RequestBytes) (k : ℕ) : Message where
  command := r.bytes.take enumSize
  commandSize := by
    rw [List.length_take]
    exact Nat.min_eq_left r.whole
  payload := (r.bytes.drop enumSize).take k
  fits := by
    have hwhole := r.whole
    have hfits := r.fits
    rw [List.length_take, List.length_drop]
    omega

/-- The whole request comes in the end, and `k` bytes of it are there after the first read. -/
def connection (r : RequestBytes) (k : ℕ) (ending : Ending) : Connection :=
  ⟨⟨r.bytes, ending⟩, some k⟩

theorem arrived_length (r : RequestBytes) {k : ℕ} (hk : k ≤ r.extra) :
    (r.arrived k).payload.length = k := by
  show ((r.bytes.drop enumSize).take k).length = k
  rw [List.length_take, List.length_drop]
  exact Nat.min_eq_left hk

end RequestBytes

/-- The call of `selectCamera` that serves a connection. -/
def called (p : Platform) (b : Buffer) (c : Connection) : Option (List Byte × List Byte) :=
  match (receive p b c).1 with
  | .request r => selection r
  | _ => none

theorem receive_arrived (p : Platform) (b : Buffer) (r : RequestBytes) {k : ℕ}
    (hk : k ≤ r.extra) (ending : Ending) :
    ∃ b', receive p b (r.connection k ending) =
      (.request ((r.arrived k).read p b.bytes), b') := by
  obtain ⟨b', -, h⟩ := receive_before p b (r.arrived k) ((r.bytes.drop enumSize).drop k) ending
  have hbytes : (r.arrived k).command ++ ((r.arrived k).payload ++
      (r.bytes.drop enumSize).drop k) = r.bytes := by
    show r.bytes.take enumSize ++ ((r.bytes.drop enumSize).take k ++
      (r.bytes.drop enumSize).drop k) = r.bytes
    rw [List.take_append_drop, List.take_append_drop]
  rw [hbytes, r.arrived_length hk] at h
  exact ⟨b', h⟩

section Schedules
variable {p : Platform} {s : Idle lib} {r : RequestBytes} {k : ℕ} (hk : k ≤ r.extra)
  (ending : Ending)
include hk

theorem serve_arrived : (serve p s (r.connection k ending)).response =
    (respond p ((r.arrived k).read p s.buffer.bytes) s.controller).1 := by
  obtain ⟨b', hreceive⟩ := receive_arrived p s.buffer r hk ending
  exact serve_response hreceive

theorem called_arrived : called p s.buffer (r.connection k ending) =
    selection ((r.arrived k).read p s.buffer.bytes) := by
  obtain ⟨b', hreceive⟩ := receive_arrived p s.buffer r hk ending
  unfold called
  rw [hreceive]

end Schedules

/-- Whatever part of the request is there after the first read, the response and the call of
`selectCamera` are the same. -/
def Unsplit (p : Platform) (s : Idle lib) (r : RequestBytes) : Prop :=
  ∀ (k k' : ℕ) (ending ending' : Ending), k ≤ r.extra → k' ≤ r.extra →
    (serve p s (r.connection k ending)).response =
        (serve p s (r.connection k' ending')).response ∧
      called p s.buffer (r.connection k ending) = called p s.buffer (r.connection k' ending')

/-- The request is a command only, or every part of it reads as the listing of cameras, or as an
unsupported command, or as a selection with one argument. -/
def Uniform (p : Platform) (old : List Byte) (r : RequestBytes) : Prop :=
  r.extra = 0 ∨
    (∀ k ≤ r.extra, (r.arrived k).decoded p = ServerCommand.listCameras.value) ∨
    (∀ k ≤ r.extra, (r.arrived k).decoded p ≠ ServerCommand.echoOnly.value ∧
      (r.arrived k).decoded p ≠ ServerCommand.listCameras.value ∧
      (r.arrived k).decoded p ≠ ServerCommand.selectCamera.value) ∨
    ∀ k ≤ r.extra, (r.arrived k).decoded p = ServerCommand.selectCamera.value ∧
      tab ∉ (r.arrived k).payload.drop enumSize ++ (r.arrived k).stale old

section Outcomes
variable {p : Platform} {m m' : Message} {old : List Byte}

theorem selection_none (hselect : m.decoded p ≠ ServerCommand.selectCamera.value) :
    selection (m.read p old) = none := by
  unfold selection
  rw [m.read_command, if_neg hselect]

theorem read_single (htab : tab ∉ m.payload.drop enumSize ++ m.stale old) :
    (m.read p old).arguments = [m.payload.drop enumSize ++ m.stale old] := by
  rw [m.read_arguments]
  exact List.splitOn_eq_singleton htab

theorem selection_single (htab : tab ∉ m.payload.drop enumSize ++ m.stale old) :
    selection (m.read p old) = none := by
  unfold selection
  rw [read_single htab]
  split <;> rfl

/-- With a tab among the bytes of the arguments the selection is carried out. -/
theorem selection_some (hselect : m.decoded p = ServerCommand.selectCamera.value)
    (htab : tab ∈ m.payload.drop enumSize ++ m.stale old) :
    selection (m.read p old) ≠ none := by
  obtain ⟨model, rest, hsplit, hmodel⟩ := List.eq_append_cons_of_mem htab
  obtain ⟨usbPort, others, hothers⟩ := List.exists_cons_of_ne_nil (List.splitOn_ne_nil tab rest)
  have harguments : (m.read p old).arguments = model :: usbPort :: others := by
    rw [m.read_arguments, hsplit, parse, List.splitOn_append_cons_self_of_not_mem hmodel, hothers]
  unfold selection
  rw [m.read_command, if_pos hselect, harguments]
  exact Option.some_ne_none _

variable (controller : CameraController lib)

theorem respond_uniform (hselect : m.decoded p ≠ ServerCommand.selectCamera.value)
    (hecho : m.decoded p ≠ ServerCommand.echoOnly.value) (hsame : m.decoded p = m'.decoded p) :
    respond p (m.read p old) controller = respond p (m'.read p old) controller := by
  have hcommand : (m.read p old).command = (m'.read p old).command := by
    rw [m.read_command, m'.read_command, hsame]
  rw [← m.read_command p old] at hselect hecho
  unfold respond
  rw [execute_other hcommand hecho hselect]

end Outcomes

section Iff
variable {p : Platform} {s : Idle lib} {r : RequestBytes}

/-- On every schedule the request is answered as if nothing were there behind the command. -/
def Agrees (p : Platform) (s : Idle lib) (r : RequestBytes) (k : ℕ) : Prop :=
  (respond p ((r.arrived k).read p s.buffer.bytes) s.controller).1 =
      (respond p ((r.arrived 0).read p s.buffer.bytes) s.controller).1 ∧
    selection ((r.arrived k).read p s.buffer.bytes) =
      selection ((r.arrived 0).read p s.buffer.bytes)

theorem unsplit_iff_agrees : Unsplit p s r ↔ ∀ k ≤ r.extra, Agrees p s r k := by
  have hzero : 0 ≤ r.extra := Nat.zero_le _
  constructor
  · intro h k hk
    obtain ⟨hresponse, hcalled⟩ := h k 0 .silent .silent hk hzero
    rw [serve_arrived hk, serve_arrived hzero] at hresponse
    rw [called_arrived hk, called_arrived hzero] at hcalled
    exact ⟨hresponse, hcalled⟩
  · intro h k k' ending ending' hk hk'
    obtain ⟨hresponse, hselection⟩ := h k hk
    obtain ⟨hresponse', hselection'⟩ := h k' hk'
    rw [serve_arrived hk, serve_arrived hk', called_arrived hk, called_arrived hk']
    exact ⟨hresponse.trans hresponse'.symm, hselection.trans hselection'.symm⟩

theorem arrived_zero_tab (old : List Byte) :
    tab ∉ (r.arrived 0).payload.drop enumSize ++ (r.arrived 0).stale old := by
  have hnil : (r.bytes.drop enumSize).take 0 = [] := List.take_zero
  have hpayload : (r.arrived 0).payload = [] := hnil
  rw [Message.stale_nil hpayload, hpayload]
  exact List.not_mem_nil

theorem Uniform.agrees (h : Uniform p s.buffer.bytes r) {k : ℕ} (hk : k ≤ r.extra) :
    Agrees p s r k := by
  have hzero : 0 ≤ r.extra := Nat.zero_le _
  rcases h with h | h | h | h
  · obtain rfl : k = 0 := by omega
    exact ⟨rfl, rfl⟩
  · have hne : ServerCommand.listCameras.value ≠ ServerCommand.selectCamera.value ∧
        ServerCommand.listCameras.value ≠ ServerCommand.echoOnly.value := by decide
    have hk' := h k hk
    have h0 := h 0 hzero
    constructor
    · rw [respond_uniform s.controller (hk' ▸ hne.1) (hk' ▸ hne.2) (hk'.trans h0.symm)]
    · rw [selection_none (hk' ▸ hne.1), selection_none (h0 ▸ hne.1)]
  · obtain ⟨hecho, hlist, hselect⟩ := h k hk
    obtain ⟨hecho0, hlist0, hselect0⟩ := h 0 hzero
    rw [← (r.arrived k).read_command p s.buffer.bytes] at hecho hlist hselect
    rw [← (r.arrived 0).read_command p s.buffer.bytes] at hecho0 hlist0 hselect0
    constructor
    · rw [respond_unsupported s.controller (of_unsupported hecho hlist hselect),
        respond_unsupported s.controller (of_unsupported hecho0 hlist0 hselect0)]
    · unfold selection
      rw [if_neg hselect, if_neg hselect0]
  · obtain ⟨hselect, htab⟩ := h k hk
    obtain ⟨hselect0, -⟩ := h 0 hzero
    have hcommand := ((r.arrived k).read_command p s.buffer.bytes).trans hselect
    have hcommand0 := ((r.arrived 0).read_command p s.buffer.bytes).trans hselect0
    have hnone : selection ((r.arrived k).read p s.buffer.bytes) = none := selection_single htab
    have hnone0 : selection ((r.arrived 0).read p s.buffer.bytes) = none :=
      selection_single (arrived_zero_tab _)
    constructor
    · rw [respond_refusal s.controller hcommand hnone,
        respond_refusal s.controller hcommand0 hnone0, read_single htab,
        read_single (arrived_zero_tab _)]
      rfl
    · rw [hnone, hnone0]

theorem echo_length (k : ℕ) (hk : k ≤ r.extra) :
    ((r.arrived k).read p s.buffer.bytes).echo.length = enumSize + k := by
  have hlen := stored_length (r.arrived k) s.buffer.bytes s.buffer.size
  have hfits := (r.arrived k).fits
  show (((r.arrived k).stored s.buffer.bytes).take
    (enumSize + (r.arrived k).payload.length)).length = enumSize + k
  rw [List.length_take, hlen, Nat.min_eq_left hfits, r.arrived_length hk]

theorem uniform_of_agrees (h : ∀ k ≤ r.extra, Agrees p s r k) : Uniform p s.buffer.bytes r := by
  have hzero : 0 ≤ r.extra := Nat.zero_le _
  have hnone (k : ℕ) (hk : k ≤ r.extra) :
      selection ((r.arrived k).read p s.buffer.bytes) = none :=
    (h k hk).2.trans (selection_single (arrived_zero_tab _))
  have hanswer (k : ℕ) (hk : k ≤ r.extra) :
      Answer.of ((r.arrived k).decoded p) = Answer.of ((r.arrived 0).decoded p) := by
    rw [← read_respond s.controller (hnone k hk), ← read_respond s.controller (hnone 0 hzero),
      (h k hk).1]
  have hcommand (k : ℕ) (hk : k ≤ r.extra) := of_command ((r.arrived k).decoded p)
  by_cases hextra : r.extra = 0
  · exact Or.inl hextra
  · cases hkind : Answer.of ((r.arrived 0).decoded p) with
    | echo =>
      -- the echoes of the parts differ in length
      exfalso
      have hone : 1 ≤ r.extra := Nat.one_le_iff_ne_zero.mpr hextra
      have h0 := hcommand 0 hzero
      have h1 := hcommand 1 hone
      rw [hkind] at h0
      rw [hanswer 1 hone, hkind] at h1
      have hresponse := (h 1 hone).1
      rw [respond_echo s.controller (((r.arrived 1).read_command p _).trans h1),
        respond_echo s.controller (((r.arrived 0).read_command p _).trans h0)] at hresponse
      have hlength := congrArg List.length (Option.some.inj hresponse)
      rw [echo_length 1 hone, echo_length 0 hzero] at hlength
      omega
    | listing =>
      refine Or.inr (Or.inl fun k hk => ?_)
      have hk' := hcommand k hk
      rwa [hanswer k hk, hkind] at hk'
    | unsupported =>
      refine Or.inr (Or.inr (Or.inl fun k hk => ?_))
      have hk' := hcommand k hk
      rwa [hanswer k hk, hkind] at hk'
    | refusal =>
      refine Or.inr (Or.inr (Or.inr fun k hk => ?_))
      have hk' := hcommand k hk
      rw [hanswer k hk, hkind] at hk'
      exact ⟨hk', fun htab => selection_some hk' htab (hnone k hk)⟩

end Iff

def echoFive : RequestBytes := ⟨[0, 0, 0, 0, 7], by decide, by decide⟩

end Rckam.Server
