import Rckam.Common.Platform

/-! The sender of preview images, `CameraController::transferData`. -/
namespace Rckam.CameraController

/-! Constants declared with the same values by `transferData` and by `readPreview`. -/

def maxPacketSize : ℕ := 1472

/-- Two bytes for the image id, two for the packet id. -/
def headerSize : ℕ := 4

def maxPayload : ℕ := maxPacketSize - headerSize

abbrev Datagram := List Byte

/-- What `socket_.send_to` reports. -/
inductive SendResult where
  | ok (count : ℕ)
  | error (value : ℤ) (message : String)

/-- What the socket reports for the `n`-th datagram handed to it. -/
abbrev Socket := ℕ → Datagram → SendResult

/-- Every datagram is sent in full. -/
def reliable : Socket := fun _ datagram => .ok datagram.length

/-- `*imageId` and `*packetId` are 16-bit integers: higher bits are dropped. -/
def header (p : Platform) (imageId packetId : ℕ) : List Byte :=
  p.store 2 imageId ++ p.store 2 packetId

/-- The datagrams sent by one step, and the message of the exception that ended it. -/
abbrev Sent (α : Type) := List α × Option String

/-- The loop over the data packets of one image, from `offset` on. `n` counts the datagrams
handed to the socket before. -/
def sendData (p : Platform) (socket : Socket) (n imageId : ℕ) (data : List Byte)
    (offset packetId : ℕ) : Sent Datagram :=
  if data.length > offset then
    let packetId := (packetId + 1) % 65536
    let remaining := data.length - offset
    let size := min maxPayload remaining
    let datagram := header p imageId packetId ++ (data.drop offset).take size
    match socket n datagram with
    | .error value message =>
        ([], some ("ERROR: failed to send image data to data socket: " ++ toString value ++
          ": " ++ message))
    | .ok count2 =>
        if size + headerSize ≠ count2 then
          ([datagram.take count2], some ("ERROR: failed to send " ++
            toString (size + headerSize) ++ " bytes of image data to data socket: sent only " ++
            toString count2))
        else
          let rest := sendData p socket (n + 1) imageId data (offset + size) packetId
          (datagram :: rest.1, rest.2)
  else ([], none)
termination_by data.length - offset
decreasing_by
  simp only [maxPayload, maxPacketSize, headerSize]
  omega

/-- One iteration of the loop over the images: the size packet, then the data packets. -/
def sendImage (p : Platform) (socket : Socket) (n currentImageId : ℕ) (data : List Byte) :
    Sent Datagram :=
  let byteCount := data.length
  let datagram := header p currentImageId 0 ++ p.store p.sizeT byteCount
  match socket n datagram with
  | .error value message =>
      ([], some ("ERROR: failed to send byte count to data socket: " ++ toString value ++
        ": " ++ message))
  | .ok count1 =>
      if p.sizeT + headerSize ≠ count1 then
        ([datagram.take count1], some ("ERROR: failed to send " ++
          toString (headerSize + p.sizeT) ++
          " bytes for byte count to data socket: sent only " ++ toString count1))
      else
        let rest := sendData p socket (n + 1) currentImageId data 0 0
        (datagram :: rest.1, rest.2)

/-- The loop over the images handed over by the capture, until `stopPreview_` is set after the
last one. The result has one list of datagrams for each iteration. -/
def transferLoop (p : Platform) (socket : Socket) :
    ℕ → ℕ → List (List Byte) → Sent (List Datagram)
  | _, _, [] => ([], none)
  | n, currentImageId, data :: images =>
      let now := sendImage p socket n currentImageId data
      match now.2 with
      | some message => ([now.1], some message)
      | none =>
          let rest := transferLoop p socket (n + now.1.length)
            ((currentImageId + 1) % 4294967296) images
          (now.1 :: rest.1, rest.2)

def transferData (p : Platform) (socket : Socket) (images : List (List Byte)) :
    Sent (List Datagram) :=
  transferLoop p socket 0 0 images

end Rckam.CameraController
