import Rckam.Common.Protocol

/-! The client side of the control protocol: `Client::query`, `Client::listCameras` and what
`Application::run` does with them. -/
namespace Rckam.Client

inductive ErrorCategory where
  | system | generic | misc
  deriving DecidableEq, Repr

/-- `boost::system::error_code`. -/
structure ErrorCode where
  value : ℤ
  category : ErrorCategory
  deriving DecidableEq, Repr

namespace ErrorCode

/-- The code of a default constructed object. -/
def success : ErrorCode := ⟨0, .system⟩

def eof : ErrorCode := ⟨2, .misc⟩

def timedOut : ErrorCode := ⟨110, .generic⟩

/-- The conversion to `bool`. -/
def isSet (e : ErrorCode) : Prop := e.value ≠ 0

instance (e : ErrorCode) : Decidable e.isSet := inferInstanceAs (Decidable (¬ _))

end ErrorCode

/-- What the handler of the asynchronous read is called with. -/
structure Completion where
  error : ErrorCode
  bytes : List Byte
  fits : bytes.length ≤ commandBufferSize

/-- The read ends before the timeout, or is cancelled after it. -/
inductive ReadOutcome where
  | completed (c : Completion)
  | cancelled (c : Completion)

/-- What the socket operations of one query report. -/
structure Exchange where
  connect : ErrorCode
  write : ErrorCode
  sentCount : ℕ
  read : ReadOutcome

/-- The part of `query` after the command was sent. -/
def receiveResponse (outcome : ReadOutcome) : List Byte × ErrorCode :=
  let (c, error) := match outcome with
    | .completed c => (c, c.error)
    | .cancelled c => (c, if ¬ c.error.isSet then .timedOut else c.error)
  if error.isSet ∧ error ≠ .eof then ([], error) else (c.bytes, error)

/-- `query`; the second component is its own copy of the error code when it returns. -/
def query (exchange : Exchange) (_error : ErrorCode) : List Byte × ErrorCode :=
  if exchange.connect.isSet then ([], exchange.connect)
  else if exchange.write.isSet then ([], exchange.write)
  else if enumSize ≠ exchange.sentCount then ([], exchange.write)
  else receiveResponse exchange.read

structure CameraInfo where
  model : List Byte
  port : List Byte
  deriving DecidableEq, Repr

/-- An `std::istringstream`: the characters not yet extracted and two bits of its state. -/
structure IStream where
  rest : List Byte
  eofbit : Bool
  failbit : Bool

namespace IStream

/-- `std::getline`: the string and the stream after the call. -/
def getline (is : IStream) (str : List Byte) (delim : Byte) : List Byte × IStream :=
  if is.eofbit ∨ is.failbit then (str, { is with failbit := true })
  else
    let line := is.rest.takeWhile fun b => b ≠ delim
    if delim ∈ is.rest then (line, { is with rest := is.rest.drop (line.length + 1) })
    else (line, ⟨[], true, is.rest.isEmpty⟩)

/-- What is left to extract and to report. -/
def size (is : IStream) : ℕ :=
  is.rest.length + (if is.eofbit then 0 else 1) + (if is.failbit then 0 else 1)

section Getline
variable (str : List Byte) (delim : Byte)

theorem getline_bad {is : IStream} (h : is.eofbit ∨ is.failbit) :
    is.getline str delim = (str, { is with failbit := true }) := if_pos h

variable {delim} {rest : List Byte}

theorem getline_line (h : delim ∈ rest) :
    getline ⟨rest, false, false⟩ str delim =
      (rest.takeWhile fun b => b ≠ delim,
        ⟨rest.drop ((rest.takeWhile fun b => b ≠ delim).length + 1), false, false⟩) := by
  unfold getline
  rw [if_neg (by simp), if_pos h]

theorem getline_append {l : List Byte} (h : delim ∉ l) (rest : List Byte) :
    getline ⟨l ++ delim :: rest, false, false⟩ str delim = (l, ⟨rest, false, false⟩) := by
  have hline : (l ++ delim :: rest).takeWhile (fun b => b ≠ delim) = l := takeWhile_ne_append h rest
  have hdrop : (l ++ delim :: rest).drop (l.length + 1) = rest := by
    rw [← List.drop_drop, List.drop_left]
    rfl
  rw [getline_line str (List.mem_append_right l List.mem_cons_self), hline, hdrop]

theorem getline_last (h : delim ∉ rest) :
    getline ⟨rest, false, false⟩ str delim = (rest, ⟨[], true, rest.isEmpty⟩) := by
  have hall : rest.takeWhile (fun b => b ≠ delim) = rest := takeWhile_ne_self h
  unfold getline
  rw [if_neg (by simp), if_neg h, hall]

/-- An extraction from a stream that has not failed gets on. -/
theorem getline_size (is : IStream) (delim : Byte) :
    (is.getline str delim).2.size ≤ is.size ∧
      (is.failbit = false → (is.getline str delim).2.size < is.size) := by
  obtain ⟨rest, eofbit, failbit⟩ := is
  by_cases hbad : eofbit ∨ failbit
  · rw [getline_bad str delim hbad]
    cases eofbit <;> cases failbit <;> simp [size] at hbad ⊢
  · simp only [Bool.not_eq_true, not_or] at hbad
    obtain ⟨rfl, rfl⟩ := hbad
    by_cases hmem : delim ∈ rest
    · have hpos := List.length_pos_of_mem hmem
      rw [getline_line str hmem]
      simp only [size, List.length_drop]
      omega
    · rw [getline_last str hmem]
      cases rest <;> simp [size]

end Getline

end IStream

/-- The loop of `listCameras` over the response. -/
def cameraLoop (is : IStream) : List CameraInfo :=
  if is.failbit then []
  else
    let model := is.getline [] tab
    let port := model.2.getline [] newline
    ⟨model.1, port.1⟩ :: cameraLoop port.2
termination_by is.size
decreasing_by
  have hgood : is.failbit = false := by simpa using ‹¬ is.failbit = true›
  exact (IStream.getline_size _ _ _).1.trans_lt ((IStream.getline_size _ _ _).2 hgood)

/-- The entries read from a response. -/
def parseCameras (response : List Byte) : List CameraInfo := cameraLoop ⟨response, false, false⟩

/-- `listCameras`. The error code is passed to `query` by value, so the copy here keeps the value
it was called with. -/
def listCameras (exchange : Exchange) (error : ErrorCode) : List CameraInfo × ErrorCode :=
  let response := (query exchange error).1
  if error.isSet then ([], error) else (parseCameras response, error)

/-- The exception thrown by `Application::run`. -/
structure RckamException where
  errorNumber : ℤ
  message : String
  deriving DecidableEq, Repr

/-- The variables of a caller of `listCameras`. -/
structure Caller where
  cameraList : List CameraInfo
  error : ErrorCode

/-- `cameraList = listCameras(error)`: the parameter is a copy of the caller's error code, and
the copy that `listCameras` leaves is dropped. -/
def Caller.listCameras (exchange : Exchange) (error : ErrorCode) : Caller :=
  ⟨(Client.listCameras exchange error).1, error⟩

/-- `Application::run`; `gtkRun` is what `Gtk::Application::run` returns. -/
def run (exchange : Exchange) (gtkRun : ℤ) : Except RckamException ℤ :=
  let caller := Caller.listCameras exchange .success
  if caller.error.isSet then
    .error ⟨caller.error.value, "ERROR: failed to retrieve list of cameras from the server"⟩
  else .ok gtkRun

end Rckam.Client
