import Mathlib.Data.List.TakeDrop
import Rckam.Preview.TransferData

/-! The receiver of preview images, `ImageLoader::readPreview`. -/
namespace Rckam.ImageLoader
open CameraController (maxPacketSize headerSize maxPayload)

variable {β : Type} [Octet β]

/-- What `socket_.receive_from` reports. -/
inductive Received (β : Type) where
  | datagram (bytes : List β)
  | error (value : ℤ) (message : String)

/-- Copy `bytes` into `buffer` at `offset`. -/
def overwrite (buffer : List β) (offset : ℕ) (bytes : List β) : List β :=
  buffer.take offset ++ bytes ++ buffer.drop (offset + bytes.length)

/-- `data.resize(n)`. Memory is taken for unlimited: the vector can be as long as a byte count says,
where `std::vector` throws for a length that it cannot have. -/
def resize (data : List β) (n : ℕ) : List β := data.takeD n Octet.zero

/-- The local variables of `readPreview`, and the member `currentImageId_`. -/
structure Locals (β : Type) where
  header : List β
  data : List β
  offset : ℕ
  nextPacketId : ℕ
  discard : Bool
  byteCount : ℕ
  currentImageId : ℕ

/-- How one iteration of the receive loop ends. The last two outcomes are a receive window
that is not inside `data`, and a failed assertion. -/
inductive Iteration (β : Type) where
  | again (s : Locals β)
  | done (s : Locals β)
  | thrown (message : String)
  | outOfBounds
  | assertionFailed

/-- `resizeTo`, in the wrapping arithmetic of `size_t`. -/
def resizeTo (p : Platform) (byteCount : ℕ) : ℕ :=
  (byteCount + maxPayload - 1) % p.limit / maxPayload * maxPayload

/-- `socket_.receive_from`: the first bytes go to `header`, the others to the window of `data`
at `offset`. -/
def receiveFrom (s : Locals β) (bytes : List β) : Locals β :=
  { s with
    header := overwrite s.header 0 (bytes.take headerSize)
    data := overwrite s.data s.offset ((bytes.drop headerSize).take maxPayload) }

/-- The branch for the first packet of an image: initialize size, offset, counter and flags. -/
def firstPacket (p : Platform) (s : Locals β) (count imageId : ℕ) : Locals β :=
  let s := { s with currentImageId := imageId }
  if count ≠ headerSize + p.sizeT then
    { s with nextPacketId := 65535, discard := true, offset := 0 }
  else
    let byteCount := p.load (values ((s.data.drop s.offset).take p.sizeT))
    { s with
      byteCount := byteCount
      offset := 0
      data := resize s.data (resizeTo p byteCount)
      nextPacketId := 1
      discard := false }

/-- The end of an iteration, for the packet that was expected. -/
def expectedPacket (s : Locals β) (count : ℕ) : Iteration β :=
  let remaining := s.byteCount - s.offset
  let payloadSize := min maxPayload remaining
  let expectedSize := payloadSize + headerSize
  -- the write offset is kept here, unlike in the other rejections
  if count ≠ expectedSize then .again { s with discard := true, nextPacketId := 65535 }
  else
    let s := { s with
      offset := s.offset + payloadSize
      nextPacketId := (s.nextPacketId + 1) % 65536 }
    if s.byteCount = s.offset then .done s else .again s

/-- The branches for the packets that are not the first of an image. -/
def dataPacket (s : Locals β) (count imageId packetId : ℕ) : Iteration β :=
  if s.discard = true ∨ imageId ≠ s.currentImageId ∨ packetId ≠ s.nextPacketId then
    .again { s with
      discard := true
      currentImageId := imageId
      nextPacketId := 65535
      offset := 0 }
  else if ¬ s.byteCount > s.offset then .assertionFailed
  else expectedPacket s count

/-- One iteration of the loop `while (!done)`. -/
def iteration (p : Platform) (s : Locals β) (received : Received β) : Iteration β :=
  if s.data.length < s.offset + maxPayload then .outOfBounds
  else match received with
  | .error value message =>
      .thrown ("ERROR: failed to read byte count from data socket: " ++ toString value ++
        ": " ++ message)
  | .datagram bytes =>
    let count := min bytes.length maxPacketSize
    let s := receiveFrom s bytes
    let imageId := p.load (values (s.header.take 2))
    let packetId := p.load (values ((s.header.drop 2).take 2))
    if packetId = 0 then .again (firstPacket p s count imageId)
    else dataPacket s count imageId packetId

/-- How a call of `readPreview` ends. `blocked` is a call that waits for a datagram when
nothing more arrives. -/
inductive Result (β : Type) where
  | returned (data : List β) (currentImageId : ℕ) (rest : List (Received β))
  | blocked (s : Locals β)
  | thrown (message : String)
  | outOfBounds
  | assertionFailed

def readLoop (p : Platform) : Locals β → List (Received β) → Result β
  | s, [] => .blocked s
  | s, received :: rest =>
      match iteration p s received with
      | .again s => readLoop p s rest
      | .done s => .returned (resize s.data s.byteCount) s.currentImageId rest
      | .thrown message => .thrown message
      | .outOfBounds => .outOfBounds
      | .assertionFailed => .assertionFailed

/-- The local variables at the start of a call; `header` is not initialized by the code. -/
def enter (header data : List β) (currentImageId : ℕ) : Locals β where
  header := header
  data := resize data maxPayload
  offset := 0
  nextPacketId := 0
  discard := true
  byteCount := 0
  currentImageId := currentImageId

def readPreview (p : Platform) (header data : List β) (currentImageId : ℕ)
    (stream : List (Received β)) : Result β :=
  readLoop p (enter header data currentImageId) stream

theorem readLoop_rest {p : Platform} {s : Locals β} {stream : List (Received β)}
    {data : List β} {id : ℕ} {rest : List (Received β)}
    (h : readLoop p s stream = .returned data id rest) : rest.length < stream.length := by
  induction stream generalizing s with
  | nil => simp [readLoop] at h
  | cons received stream ih =>
    rw [readLoop] at h
    rw [List.length_cons]
    cases hi : iteration p s received with
    | again s' =>
      rw [hi] at h
      exact (ih h).trans (Nat.lt_succ_self _)
    | done s' =>
      rw [hi] at h
      injection h with _ _ hrest
      rw [hrest]
      exact Nat.lt_succ_self _
    | _ => simp [hi] at h

end ImageLoader

/-- The members of `ImageLoader` that `readPreview` reads and writes. -/
structure ImageLoader (β : Type) where
  buffers : Fin 2 → List β
  currentImageId : ℕ

namespace ImageLoader
variable {β : Type} [Octet β]

/-- The buffers returned by successive calls of `readPreview`, from the `i`-th call of the
thread on: the calls use the two buffers in turn. -/
def previews (p : Platform) (header : ℕ → List β) (i : ℕ) (loader : ImageLoader β)
    (stream : List (Received β)) : List (List β) :=
  match h : readPreview p (header i) (loader.buffers (Fin.ofNat 2 i)) loader.currentImageId
      stream with
  | .returned data id rest =>
      data :: previews p header (i + 1)
        ⟨Function.update loader.buffers (Fin.ofNat 2 i) data, id⟩ rest
  | _ => []
termination_by stream.length
decreasing_by exact readLoop_rest h

section Calls
variable {p : Platform} {header : ℕ → List β} {i : ℕ} {loader : ImageLoader β}
  {stream : List (Received β)}

theorem previews_returned {data : List β} {id : ℕ} {rest : List (Received β)}
    (h : readPreview p (header i) (loader.buffers (Fin.ofNat 2 i)) loader.currentImageId stream =
      .returned data id rest) :
    previews p header i loader stream = data :: previews p header (i + 1)
      ⟨Function.update loader.buffers (Fin.ofNat 2 i) data, id⟩ rest := by
  rw [previews]
  split
  · next h' =>
    rw [h] at h'
    injection h' with hdata hid hrest
    rw [hdata, hid, hrest]
  · next h' => exact absurd h (h' data id rest)

theorem previews_stopped
    (h : ∀ data id rest, readPreview p (header i) (loader.buffers (Fin.ofNat 2 i))
      loader.currentImageId stream ≠ .returned data id rest) :
    previews p header i loader stream = [] := by
  rw [previews]
  split
  · next h' => exact absurd h' (h _ _ _)
  · rfl

end Calls

end Rckam.ImageLoader
