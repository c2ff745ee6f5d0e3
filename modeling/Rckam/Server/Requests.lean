import Rckam.Server.Server

/-! A control request that has fully arrived, and what `run` takes it for. -/
namespace Rckam.Server

/-- A command and a payload that fit the buffer. -/
structure Message where
  command : List Byte
  commandSize : command.length = enumSize
  payload : List Byte
  fits : enumSize + payload.length ≤ commandBufferSize

namespace Message

/-- The whole message is there when `socket.available()` is called. -/
def connection (m : Message) (ending : Ending) : Connection :=
  ⟨⟨m.command ++ m.payload, ending⟩, some m.payload.length⟩

/-- The buffer after both reads: the payload has overwritten the command. -/
def stored (m : Message) (old : List Byte) : List Byte :=
  m.payload ++ (m.command ++ old.drop enumSize).drop m.payload.length

/-- What `run` takes from the buffer. -/
def read (m : Message) (p : Platform) (old : List Byte) : Request where
  command := p.load ((m.stored old).take enumSize)
  arguments := parse (((m.stored old).drop enumSize).take m.payload.length)
  echo := (m.stored old).take (enumSize + m.payload.length)

end Message

theorem read_whole {bytes : List Byte} (rest : List Byte) (ending : Ending)
    (h : bytes.length ≤ commandBufferSize) :
    Stream.read ⟨bytes ++ rest, ending⟩ bytes.length =
      some ⟨bytes, h, none, ⟨rest, ending⟩⟩ := by
  have hmin : min bytes.length commandBufferSize = bytes.length := Nat.min_eq_left h
  have hle : bytes.length ≤ (bytes ++ rest).length := by
    rw [List.length_append]
    exact Nat.le_add_right _ _
  unfold Stream.read
  simp only [hmin, hle, ↓reduceDIte, List.take_left, List.drop_left]

theorem not_failed {bytes : List Byte} (h : bytes.length ≤ commandBufferSize) (rest : Stream) :
    ¬ (ReadResult.mk bytes h none rest).failed := by
  rintro ⟨value, hvalue, -⟩
  contradiction

/-- Both reads succeed, and the request is taken from what they leave in the buffer, whatever
follows the bytes that are read. -/
theorem receive_before (p : Platform) (b : Buffer) (m : Message) (rest : List Byte)
    (ending : Ending) :
    ∃ b' : Buffer, b'.bytes = m.stored b.bytes ∧
      receive p b ⟨⟨m.command ++ (m.payload ++ rest), ending⟩, some m.payload.length⟩ =
        (.request (m.read p b.bytes), b') := by
  have hfits := m.fits
  have hcommand : m.command.length ≤ commandBufferSize := by
    rw [m.commandSize]
    decide
  have hpayload : m.payload.length ≤ commandBufferSize := by omega
  have hfirst := read_whole (m.payload ++ rest) ending hcommand
  rw [m.commandSize] at hfirst
  have hsecond := read_whole rest ending hpayload
  have hroom : ¬ commandBufferSize < enumSize + m.payload.length := Nat.not_lt.mpr hfits
  by_cases hempty : m.payload.length = 0
  · have hnil : m.payload = [] := List.eq_nil_of_length_eq_zero hempty
    have hbytes : m.command ++ b.bytes.drop m.command.length = m.stored b.bytes := by
      rw [Message.stored, hnil, m.commandSize]
      rfl
    refine ⟨b.store ⟨m.command, hcommand, none, ⟨m.payload ++ rest, ending⟩⟩, hbytes, ?_⟩
    unfold receive
    simp only [hfirst, not_failed, hempty, ↓reduceIte, m.commandSize, request]
    have hroom' : ¬ commandBufferSize < enumSize + 0 := by decide
    rw [if_neg hroom', Message.read, hempty, ← hbytes]
    rfl
  · have hbytes : m.payload ++ (m.command ++ b.bytes.drop m.command.length).drop
        m.payload.length = m.stored b.bytes := by
      rw [Message.stored, m.commandSize]
    refine ⟨(b.store ⟨m.command, hcommand, none, ⟨m.payload ++ rest, ending⟩⟩).store
      ⟨m.payload, hpayload, none, ⟨rest, ending⟩⟩, hbytes, ?_⟩
    unfold receive
    simp only [hfirst, hsecond, not_failed, hempty, ↓reduceIte, m.commandSize, request,
      hroom, ne_eq, not_true_eq_false, or_self]
    rw [Message.read, ← hbytes]
    rfl

theorem receive_message (p : Platform) (b : Buffer) (m : Message) (ending : Ending) :
    ∃ b' : Buffer, b'.bytes = m.stored b.bytes ∧
      receive p b (m.connection ending) = (.request (m.read p b.bytes), b') := by
  have h := receive_before p b m [] ending
  rw [List.append_nil] at h
  exact h

section Stored
variable (m : Message) (old : List Byte)

theorem stored_payload {i : ℕ} (hi : i < m.payload.length) :
    (m.stored old)[i]? = m.payload[i]? := List.getElem?_append_left hi

theorem stored_command {i : ℕ} (hi : i < enumSize) (hp : m.payload.length ≤ i) :
    (m.stored old)[i]? = m.command[i]? := by
  have hc := m.commandSize
  unfold Message.stored
  rw [List.getElem?_append_right hp, List.getElem?_drop, Nat.add_sub_cancel' hp,
    List.getElem?_append_left (by omega)]

/-- Behind the command and the payload the buffer holds what it held before. -/
theorem stored_stale {i : ℕ} (hi : enumSize ≤ i) (hp : m.payload.length ≤ i) :
    (m.stored old)[i]? = old[i]? := by
  have hc := m.commandSize
  unfold Message.stored
  rw [List.getElem?_append_right hp, List.getElem?_drop, Nat.add_sub_cancel' hp,
    List.getElem?_append_right (by omega), List.getElem?_drop, hc, Nat.add_sub_cancel' hi]

theorem stored_length (hold : old.length = commandBufferSize) :
    (m.stored old).length = commandBufferSize := by
  have hc := m.commandSize
  have hfits := m.fits
  unfold Message.stored
  rw [List.length_append, List.length_drop, List.length_append, List.length_drop, hc, hold]
  omega

end Stored

/-- The payload repeats the command, and so do the bytes that the buffer holds behind it. -/
structure Message.Repeats (m : Message) (old : List Byte) : Prop where
  payload : ∀ i < m.payload.length, m.payload[i]? = m.command[i % enumSize]?
  stale : ∀ i, enumSize ≤ i → m.payload.length ≤ i → i < enumSize + m.payload.length →
    old[i]? = m.command[i % enumSize]?

/-- A list that starts with `p` starts with `cmd ++ p` exactly when it repeats `cmd` that far. -/
theorem starts_iff_repeats {l cmd p : List Byte} (hc : 0 < cmd.length)
    (hp : ∀ i < p.length, l[i]? = p[i]?) :
    (∀ i < cmd.length + p.length, l[i]? = (cmd ++ p)[i]?) ↔
      ∀ i < cmd.length + p.length, l[i]? = cmd[i % cmd.length]? := by
  constructor
  · intro h i hi
    induction i using Nat.strong_induction_on with
    | _ i ih =>
      rw [h i hi]
      by_cases hlow : i < cmd.length
      · rw [List.getElem?_append_left hlow, Nat.mod_eq_of_lt hlow]
      · have hback := ih (i - cmd.length) (by omega) (by omega)
        rw [hp _ (by omega), ← Nat.mod_eq_sub_mod (by omega)] at hback
        rw [List.getElem?_append_right (by omega), hback]
  · intro h i hi
    rw [h i hi]
    by_cases hlow : i < cmd.length
    · rw [List.getElem?_append_left hlow, Nat.mod_eq_of_lt hlow]
    · have hback := h (i - cmd.length) (by omega)
      rw [hp _ (by omega), ← Nat.mod_eq_sub_mod (by omega)] at hback
      rw [List.getElem?_append_right (by omega), hback]

/-- The buffer starts with the command and the payload exactly when both repeat the command. -/
theorem stored_eq_iff (m : Message) {old : List Byte} (hold : old.length = commandBufferSize) :
    (m.stored old).take (enumSize + m.payload.length) = m.command ++ m.payload ↔
      m.Repeats old := by
  have hc := m.commandSize
  have hfits := m.fits
  have hlen := stored_length m old hold
  have hpos : 0 < m.command.length := by
    rw [hc]
    decide
  have hstarts := starts_iff_repeats hpos fun i hi => stored_payload m old hi
  rw [hc] at hstarts
  have htake : (m.stored old).take (enumSize + m.payload.length) = m.command ++ m.payload ↔
      ∀ i < enumSize + m.payload.length, (m.stored old)[i]? = (m.command ++ m.payload)[i]? := by
    constructor
    · intro h i hi
      rw [← h, List.getElem?_take_of_lt hi]
    · intro h
      apply List.ext_getElem?
      intro i
      by_cases hi : i < enumSize + m.payload.length
      · rw [List.getElem?_take_of_lt hi, h i hi]
      · rw [List.getElem?_take_eq_none (by omega), List.getElem?_eq_none]
        rw [List.length_append, hc]
        omega
  rw [htake, hstarts]
  constructor
  · intro h
    refine ⟨fun i hi => ?_, fun i hlow hp hi => ?_⟩
    · rw [← stored_payload m old hi]
      exact h i (by omega)
    · rw [← stored_stale m old hlow hp]
      exact h i hi
  · intro h i hi
    by_cases hp : i < m.payload.length
    · rw [stored_payload m old hp]
      exact h.payload i hp
    · by_cases hlow : i < enumSize
      · rw [stored_command m old hlow (by omega), Nat.mod_eq_of_lt hlow]
      · rw [stored_stale m old (by omega) (by omega)]
        exact h.stale i (by omega) (by omega) hi

/-- A request is what the client sent: the command, the arguments as the pieces of the payload,
and what the echo and the camera selection do with them. -/
structure AsSent (p : Platform) (m : Message) (r : Request) : Prop where
  command : r.command = p.load m.command
  arguments : r.arguments = m.payload.splitOn tab
  echo : r.command = ServerCommand.echoOnly.value →
    ∀ (lib : Gphoto2) (controller : CameraController lib),
      respond p r controller = (some (m.command ++ m.payload), controller)
  select : r.command = ServerCommand.selectCamera.value →
    ∀ (lib : Gphoto2) (model usbPort : List Byte) (rest : List (List Byte)),
      m.payload.splitOn tab = model :: usbPort :: rest →
        (execute p r : Action lib (List Byte)) = do
          CameraController.selectCamera (cString model) (cString usbPort)
          return success p

/-- The command and the arguments are the ones sent exactly when the buffer starts with them. -/
theorem asSent_iff (p : Platform) (m : Message) {old : List Byte}
    (hold : old.length = commandBufferSize) :
    AsSent p m (m.read p old) ↔
      (m.stored old).take (enumSize + m.payload.length) = m.command ++ m.payload := by
  have hc := m.commandSize
  have hfits := m.fits
  have hlen := stored_length m old hold
  constructor
  · intro h
    have hcommand : (m.stored old).take enumSize = m.command := by
      apply p.order.decode_inj
      · rw [List.length_take, hlen, hc]
        rfl
      · exact h.command
    have hpayload : ((m.stored old).drop enumSize).take m.payload.length = m.payload := by
      have hjoin := congrArg (List.intercalate [tab]) h.arguments
      rwa [List.intercalate_splitOn, Message.read, parse, List.intercalate_splitOn] at hjoin
    rw [List.take_add, hcommand, hpayload]
  · intro h
    have hcommand : (m.stored old).take enumSize = m.command := by
      have htake := congrArg (List.take enumSize) h
      rwa [List.take_take, Nat.min_eq_left (by omega), ← hc, List.take_left, hc] at htake
    have hpayload : ((m.stored old).drop enumSize).take m.payload.length = m.payload := by
      rw [List.take_add, hcommand] at h
      exact List.append_cancel_left h
    have harguments : (m.read p old).arguments = m.payload.splitOn tab := by
      rw [Message.read, parse, hpayload]
    refine ⟨?_, harguments, ?_, ?_⟩
    · rw [Message.read, hcommand]
    · intro hecho lib controller
      have hreply : (m.read p old).echo = m.command ++ m.payload := h
      unfold respond
      rw [execute_echoOnly hecho, hreply]
      rfl
    · intro hselect lib model usbPort rest hpieces
      rw [execute_selectCamera hselect, harguments, hpieces]
      rfl

/-- A request is taken for what was sent exactly when the payload and the stale bytes behind it
repeat the command. -/
theorem request_as_sent_iff (p : Platform) (b : Buffer) (m : Message) (ending : Ending) :
    ∃ r b', receive p b (m.connection ending) = (.request r, b') ∧
      (AsSent p m r ↔ m.Repeats b.bytes) := by
  obtain ⟨b', -, hreceive⟩ := receive_message p b m ending
  refine ⟨_, b', hreceive, ?_⟩
  rw [asSent_iff p m b.size, stored_eq_iff m b.size]

def blankBuffer : Buffer := ⟨List.replicate commandBufferSize 0, List.length_replicate⟩

/-- The command `ECHO_ONLY` with a payload. -/
def Message.echoOnly (payload : List Byte) (fits : enumSize + payload.length ≤ commandBufferSize) :
    Message where
  command := [0, 0, 0, 0]
  commandSize := rfl
  payload := payload
  fits := fits

def echoOne : Message := .echoOnly [120] (by decide)

/-- The payload byte replaces the first byte of the command. -/
theorem echo_one_misread :
    ∃ r b', receive ⟨.eight, .little⟩ blankBuffer (echoOne.connection .silent) = (.request r, b') ∧
      ¬ AsSent ⟨.eight, .little⟩ echoOne r := by
  obtain ⟨b', -, hreceive⟩ := receive_message ⟨.eight, .little⟩ blankBuffer echoOne .silent
  refine ⟨_, b', hreceive, ?_⟩
  rw [asSent_iff _ _ blankBuffer.size, stored_eq_iff _ blankBuffer.size]
  intro h
  have hfirst := h.payload 0 (by decide)
  revert hfirst
  decide

end Rckam.Server
