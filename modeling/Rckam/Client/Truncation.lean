import Rckam.Client.RoundTrip

/-! Replies that are longer than the buffer that `query` reads them into. -/
namespace Rckam.Client
open Server (CameraController)

/-- `boost::asio::error::operation_aborted`. -/
def ErrorCode.operationAborted : ErrorCode := ⟨125, .system⟩

/-- The bytes received so far, which are in the buffer. -/
abbrev Received := { l : List Byte // l.length ≤ commandBufferSize }

/-- The first bytes of what has arrived, as many as the buffer holds. -/
def Received.of (arrived : List Byte) : Received :=
  ⟨arrived.take commandBufferSize, List.length_take_le _ _⟩

/-- How the reply gets to the client before the timeout: the pieces in which its bytes arrive, and
whether the end of the stream does. -/
structure Arrival where
  pieces : List (List Byte)
  closed : Bool

/-- All that the server writes. -/
def Arrival.reply (a : Arrival) : List Byte := a.pieces.flatten

/-- `boost::asio::async_read`: each piece goes behind what is in the buffer, as far as there is
room, until the buffer is full or the stream ends. Closing the socket after the timeout aborts
it. -/
def asyncRead (closed : Bool) (received : Received) : List (List Byte) → ReadOutcome
  | [] =>
      if closed then .completed ⟨.eof, received.1, received.2⟩
      else .cancelled ⟨.operationAborted, received.1, received.2⟩
  | piece :: rest =>
      let received := Received.of (received.1 ++ piece)
      if received.1.length = commandBufferSize then .completed ⟨.success, received.1, received.2⟩
      else asyncRead closed received rest

/-- The exchange of a query that has sent its command. -/
def Arrival.exchange (a : Arrival) : Exchange where
  connect := .success
  write := .success
  sentCount := enumSize
  read := asyncRead a.closed (.of []) a.pieces

/-- `query` has an error other than the end of the stream. -/
def ReportsError (result : List Byte × ErrorCode) : Prop := result.2.isSet ∧ result.2 ≠ .eof

/-- The response is the whole reply, or there is an error. -/
def Complete (a : Arrival) (error : ErrorCode) : Prop :=
  (query a.exchange error).1 = a.reply ∨ ReportsError (query a.exchange error)

theorem query_sent (a : Arrival) (error : ErrorCode) :
    query a.exchange error = receiveResponse a.exchange.read := rfl

/-- What `query` makes of the bytes that arrive, however they are cut into pieces. -/
theorem receiveResponse_asyncRead (closed : Bool) (pieces : List (List Byte)) {before : List Byte}
    (hroom : before.length < commandBufferSize) :
    receiveResponse (asyncRead closed (.of before) pieces) =
      if commandBufferSize ≤ (before ++ pieces.flatten).length then
        ((before ++ pieces.flatten).take commandBufferSize, .success)
      else if closed then (before ++ pieces.flatten, .eof)
      else ([], .operationAborted) := by
  induction pieces generalizing before with
  | nil =>
    have hkept : before.take commandBufferSize = before := List.take_of_length_le hroom.le
    cases closed <;> simp [asyncRead, Received.of, hkept, hroom, receiveResponse,
      ErrorCode.isSet, ErrorCode.eof, ErrorCode.operationAborted]
  | cons piece rest ih =>
    have hkept : before.take commandBufferSize = before := List.take_of_length_le hroom.le
    have hnext : Received.of ((Received.of before).1 ++ piece) = .of (before ++ piece) := by
      simp [Received.of, hkept]
    unfold asyncRead
    simp only [hnext]
    by_cases hfull : commandBufferSize ≤ (before ++ piece).length
    · have hlength : (Received.of (before ++ piece)).1.length = commandBufferSize := by
        simpa [Received.of] using hfull
      have hmore : commandBufferSize ≤ (before ++ (piece :: rest).flatten).length := by
        simp only [List.flatten_cons, List.length_append] at hfull ⊢
        omega
      have htake : (before ++ (piece :: rest).flatten).take commandBufferSize =
          (before ++ piece).take commandBufferSize := by
        rw [List.flatten_cons, ← List.append_assoc, List.take_append_of_le_length hfull]
      rw [if_pos hlength, if_pos hmore, htake]
      simp [receiveResponse, Received.of, ErrorCode.isSet, ErrorCode.success]
    · have hlength : (Received.of (before ++ piece)).1.length ≠ commandBufferSize := by
        simp only [Received.of, List.length_take]
        omega
      rw [if_neg hlength, ih (not_le.mp hfull), List.flatten_cons, ← List.append_assoc]

/-- The response to a reply. -/
theorem query_arrival (a : Arrival) (error : ErrorCode) :
    query a.exchange error =
      if commandBufferSize ≤ a.reply.length then (a.reply.take commandBufferSize, .success)
      else if a.closed then (a.reply, .eof)
      else ([], .operationAborted) := by
  rw [query_sent]
  exact receiveResponse_asyncRead a.closed a.pieces (by decide)

/-- The end of the stream is no error, and the abortion is one. -/
theorem reportsError_cases (response : List Byte) :
    ¬ ReportsError (response, .success) ∧ ¬ ReportsError (response, .eof) ∧
      ReportsError (response, .operationAborted) := by
  simp [ReportsError, ErrorCode.isSet, ErrorCode.success, ErrorCode.eof,
    ErrorCode.operationAborted]

theorem take_eq_self_iff (l : List Byte) :
    l.take commandBufferSize = l ↔ l.length ≤ commandBufferSize := by
  constructor
  · intro h
    rw [← h]
    exact List.length_take_le _ _
  · exact List.take_of_length_le

/-- A response to a longer reply is cut off without an error. -/
theorem not_complete_of_long {a : Arrival} (error : ErrorCode)
    (h : commandBufferSize < a.reply.length) : ¬ Complete a error := by
  unfold Complete
  rw [query_arrival, if_pos h.le, take_eq_self_iff]
  rintro (hfits | hreports)
  · exact absurd hfits (not_le.mpr h)
  · exact (reportsError_cases _).1 hreports

/-- A reply that fits is the response, or it has not come to its end in time. -/
theorem complete_of_short {a : Arrival} (error : ErrorCode)
    (h : a.reply.length ≤ commandBufferSize) : Complete a error := by
  unfold Complete
  rw [query_arrival]
  by_cases hfull : commandBufferSize ≤ a.reply.length
  · left
    rw [if_pos hfull]
    exact (take_eq_self_iff _).mpr h
  · rw [if_neg hfull]
    cases a.closed with
    | true => exact Or.inl rfl
    | false => exact Or.inr (reportsError_cases []).2.2

theorem response_eq_iff (a : Arrival) (error : ErrorCode) :
    (query a.exchange error).1 = a.reply ↔ a.reply.length ≤ commandBufferSize ∧
      (a.closed = true ∨ a.reply.length = commandBufferSize ∨ a.reply = []) := by
  rw [query_arrival]
  by_cases hfull : commandBufferSize ≤ a.reply.length
  · have hexact (h : a.reply.length ≤ commandBufferSize) : a.reply.length = commandBufferSize :=
      le_antisymm h hfull
    rw [if_pos hfull, take_eq_self_iff]
    exact ⟨fun h => ⟨h, Or.inr (Or.inl (hexact h))⟩, And.left⟩
  · have hshort : a.reply.length < commandBufferSize := not_le.mp hfull
    rw [if_neg hfull]
    cases hclosed : a.closed with
    | true => simp [hshort.le]
    | false =>
      have hempty : [] = a.reply ↔ a.reply = [] := eq_comm
      simp [hshort.le, hshort.ne, hempty]

/-- A response is the whole reply or there is an error exactly when the reply fits the buffer. It
is the whole reply exactly when besides the stream ends in time, unless the reply fills the buffer
or is empty. -/
theorem complete_iff (a : Arrival) (error : ErrorCode) :
    (Complete a error ↔ a.reply.length ≤ commandBufferSize) ∧
      ((query a.exchange error).1 = a.reply ↔ a.reply.length ≤ commandBufferSize ∧
        (a.closed = true ∨ a.reply.length = commandBufferSize ∨ a.reply = [])) := by
  constructor
  · constructor
    · intro hcomplete
      by_contra hlong
      exact not_complete_of_long error (not_le.mp hlong) hcomplete
    · exact complete_of_short error
  · exact response_eq_iff a error

/-- The model and the port of 20 cameras of one model. -/
def ptpModel (_ : ℕ) : List Byte := text "USB PTP Class Camera"

def ptpPort (i : ℕ) : List Byte := text "usb:001," ++ decimal (100 + i)

def twentyCameras : Arrival where
  pieces := [CameraController.listResponse 20 ptpModel ptpPort]
  closed := true

theorem twentyCameras_truncated : ¬ Complete twentyCameras .success := by
  have hnames (i : ℕ) : 28 ≤ (ptpModel i).length + (ptpPort i).length := by
    have hmodel : (ptpModel i).length = 20 := rfl
    have hport : (text "usb:001,").length = 8 := rfl
    unfold ptpPort
    rw [List.length_append]
    omega
  have hlong := CameraController.listResponse_length 20 hnames
  have hreply : twentyCameras.reply = CameraController.listResponse 20 ptpModel ptpPort :=
    List.append_nil _
  apply not_complete_of_long
  rw [hreply]
  exact lt_of_lt_of_le (by decide) hlong

end Rckam.Client
