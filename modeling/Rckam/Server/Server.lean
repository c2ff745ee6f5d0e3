import Rckam.Server.CameraController

/-! The control loop `Server::run`: one request after the other, read into one buffer. -/
namespace Rckam.Server

/-- The array that `run` declares before its loop. It is not initialized. -/
structure Buffer where
  bytes : List Byte
  size : bytes.length = commandBufferSize

/-- What follows the bytes that a peer sends. -/
inductive Ending where
  | silent
  | closed
  | failed (value : ℤ)

/-- The bytes still to be read from a socket. -/
structure Stream where
  bytes : List Byte
  ending : Ending

/-- What `boost::asio::read` stored in the buffer, the error it reports, and what is left. -/
structure ReadResult where
  bytes : List Byte
  fits : bytes.length ≤ commandBufferSize
  error : Option ℤ
  rest : Stream

/-- `boost::asio::error::eof`. -/
def eof : ℤ := 2

/-- `boost::asio::read` of exactly `n` bytes into the buffer; it also ends when the buffer is
full. Without a result it waits for ever. -/
def Stream.read (s : Stream) (n : ℕ) : Option ReadResult :=
  let wanted := min n commandBufferSize
  if h : wanted ≤ s.bytes.length then
    some ⟨s.bytes.take wanted, by rw [List.length_take]; omega, none,
      { s with bytes := s.bytes.drop wanted }⟩
  else
    have hshort : s.bytes.length ≤ commandBufferSize := by omega
    match s.ending with
    | .silent => none
    | .closed => some ⟨s.bytes, hshort, some eof, { s with bytes := [] }⟩
    | .failed value => some ⟨s.bytes, hshort, some value, { s with bytes := [] }⟩

/-- `error && (boost::asio::error::eof != error.value())`. -/
def ReadResult.failed (r : ReadResult) : Prop := ∃ value ∈ r.error, eof ≠ value

instance (r : ReadResult) : Decidable r.failed :=
  match h : r.error with
  | none => .isFalse (by rintro ⟨value, hvalue, -⟩; simp [h] at hvalue)
  | some value =>
      if hv : eof ≠ value then .isTrue ⟨value, by simp [h], hv⟩
      else .isFalse (by
        rintro ⟨value', hvalue', hne⟩
        rw [h, Option.mem_some_iff] at hvalue'
        exact hv (hvalue' ▸ hne))

def Buffer.store (b : Buffer) (r : ReadResult) : Buffer where
  bytes := r.bytes ++ b.bytes.drop r.bytes.length
  size := by
    have h := r.fits
    have hb := b.size
    rw [List.length_append, List.length_drop]
    omega

/-- An accepted connection. `available` is what `socket.available()` returns after the first
read, unless it throws. -/
structure Connection where
  stream : Stream
  available : Option ℕ

/-- The values that `run` takes from the buffer for a request. -/
@[ext] structure Request where
  command : ℕ
  arguments : List (List Byte)
  echo : List Byte

def parse (data : List Byte) : List (List Byte) := data.splitOn tab

/-- How the reading part of one iteration ends. `undefined` is a read past the end of the
buffer. -/
inductive Inbound where
  | request (r : Request)
  | rejected
  | blocked
  | terminated
  | undefined

/-- The request in the buffer, of which `count` and then `available` bytes were read. -/
def request (p : Platform) (b : Buffer) (count available : ℕ) : Inbound :=
  if commandBufferSize < enumSize + available then .undefined
  else .request {
    command := p.load (b.bytes.take enumSize)
    arguments := parse ((b.bytes.drop enumSize).take available)
    echo := b.bytes.take (count + available) }

/-- The part of an iteration that reads from the connection. -/
def receive (p : Platform) (b : Buffer) (c : Connection) : Inbound × Buffer :=
  match c.stream.read enumSize with
  | none => (.blocked, b)
  | some first =>
    let b := b.store first
    if first.failed then (.rejected, b)
    else if enumSize > first.bytes.length then (.rejected, b)
    else match c.available with
    | none => (.terminated, b)
    | some available =>
      if available = 0 then (request p b first.bytes.length available, b)
      else match first.rest.read available with
      | none => (.blocked, b)
      | some second =>
        -- the second read goes to the start of the buffer, like the first
        let b := b.store second
        if second.failed ∨ available ≠ second.bytes.length then (.rejected, b)
        else (request p b first.bytes.length available, b)

variable {lib : Gphoto2}

def success (p : Platform) : List Byte := ResponseCode.success.bytes p

def commandNotSupported : List Byte := [0, UInt8.ofNat ResponseCode.notSupported.value]

/-- `std::vector::at`, with the message of its exception. -/
def argumentAt (arguments : List (List Byte)) (n : ℕ) : Action lib (List Byte) :=
  match arguments[n]? with
  | some argument => return argument
  | none => throw (.stdException (text "vector::_M_range_check: __n (which is " ++ decimal n ++
      text ") >= this->size() (which is " ++ decimal arguments.length ++ text ")"))

/-- The switch on the command. -/
def execute (p : Platform) (r : Request) : Action lib (List Byte) :=
  if r.command = ServerCommand.echoOnly.value then return r.echo
  else if r.command = ServerCommand.listCameras.value then CameraController.listCameras
  else if r.command = ServerCommand.selectCamera.value then do
    let model ← argumentAt r.arguments 0
    let usbPort ← argumentAt r.arguments 1
    CameraController.selectCamera (cString model) (cString usbPort)
    return success p
  else return commandNotSupported

section Execute
variable {p : Platform} {r : Request}

theorem execute_echoOnly (h : r.command = ServerCommand.echoOnly.value) :
    (execute p r : Action lib (List Byte)) = return r.echo := if_pos h

theorem execute_listCameras (h : r.command = ServerCommand.listCameras.value) :
    (execute p r : Action lib (List Byte)) = CameraController.listCameras := by
  have hne : ServerCommand.listCameras.value ≠ ServerCommand.echoOnly.value := by decide
  unfold execute
  rw [h, if_neg hne, if_pos rfl]

theorem execute_selectCamera (h : r.command = ServerCommand.selectCamera.value) :
    (execute p r : Action lib (List Byte)) = do
      let model ← argumentAt r.arguments 0
      let usbPort ← argumentAt r.arguments 1
      CameraController.selectCamera (cString model) (cString usbPort)
      return success p := by
  have hne : ServerCommand.selectCamera.value ≠ ServerCommand.echoOnly.value ∧
      ServerCommand.selectCamera.value ≠ ServerCommand.listCameras.value := by decide
  unfold execute
  rw [h, if_neg hne.1, if_neg hne.2, if_pos rfl]

theorem execute_unsupported (hecho : r.command ≠ ServerCommand.echoOnly.value)
    (hlist : r.command ≠ ServerCommand.listCameras.value)
    (hselect : r.command ≠ ServerCommand.selectCamera.value) :
    (execute p r : Action lib (List Byte)) = return commandNotSupported := by
  unfold execute
  rw [if_neg hecho, if_neg hlist, if_neg hselect]

end Execute

/-- `failure`, for the exceptions that are caught. -/
def failure (p : Platform) : Thrown → Option (List Byte)
  | .exceptionData errorNumber message =>
      some (ResponseCode.failure.bytes p ++ [tab] ++ signedDecimal errorNumber ++ [tab] ++ message)
  | .stdException what => some (ResponseCode.failure.bytes p ++ [tab] ++ what)
  | .assertionFailed | .undefined => none

/-- The response sent for a request, if the program goes on and is followed. -/
def respond (p : Platform) (r : Request) (controller : CameraController lib) :
    Option (List Byte) × CameraController lib :=
  match (execute p r).run controller with
  | .ok response controller => (some response, controller)
  | .error thrown controller => (failure p thrown, controller)

/-- The request makes the program use a list that is gone. -/
def strays (p : Platform) (r : Request) (controller : CameraController lib) : Bool :=
  match (execute p r).run controller with
  | .error .undefined _ => true
  | _ => false

/-- The buffer and the cameras between two requests. -/
structure Idle (lib : Gphoto2) where
  buffer : Buffer
  controller : CameraController lib

/-- How an iteration ends: `run` comes back to `accept`, with the response if one was sent, or it
does not, or what it does is undefined. -/
inductive Served (lib : Gphoto2) where
  | next (response : Option (List Byte)) (s : Idle lib)
  | halted
  | undefined

def serve (p : Platform) (s : Idle lib) (c : Connection) : Served lib :=
  match receive p s.buffer c with
  | (.request r, b) =>
      match respond p r s.controller with
      | (some response, controller) => .next (some response) ⟨b, controller⟩
      | (none, _) => if strays p r s.controller then .undefined else .halted
  | (.rejected, b) => .next none ⟨b, s.controller⟩
  | (.undefined, _) => .undefined
  | (.blocked, _) | (.terminated, _) => .halted

/-- The response of an iteration, if there is one. -/
def Served.response : Served lib → Option (List Byte)
  | .next response _ => response
  | .halted | .undefined => none

/-- The state after a history of connections, if all of them were dealt with. -/
def run (p : Platform) (s : Idle lib) : List Connection → Option (Idle lib)
  | [] => some s
  | c :: connections =>
      match serve p s c with
      | .next _ s => run p s connections
      | .halted | .undefined => none

/-- The response of an iteration that has received a request. -/
theorem serve_response {p : Platform} {s : Idle lib} {c : Connection} {r : Request} {b : Buffer}
    (h : receive p s.buffer c = (.request r, b)) :
    (serve p s c).response = (respond p r s.controller).1 := by
  unfold serve
  rw [h]
  cases hrespond : respond p r s.controller with
  | mk response controller =>
    cases response with
    | none => cases hstrays : strays p r s.controller <;> simp [hrespond, hstrays, Served.response]
    | some response => simp [hrespond, Served.response]

end Rckam.Server
