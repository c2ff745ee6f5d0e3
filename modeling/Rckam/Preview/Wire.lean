import Rckam.Library.Completions
import Rckam.Preview.TransferData

/-! The preview datagrams as frames of the reassembly protocol: what `transferData` sends for
an image are the fragments of the image, and the fragments can be read back. -/
namespace Rckam.CameraController
open Reassembly

/-- The first packet of an image carries its size, the others the next bytes. -/
def encodeFrame (p : Platform) : Frame ℕ Byte → Datagram
  | .start id total => header p id 0 ++ p.store p.sizeT total
  | .chunk id seq payload => header p id seq ++ payload
  | .noise => []

/-- A datagram as `readPreview` reads it: a first packet must carry exactly a `size_t`, and at
most `maxPayload` bytes of any packet are received. -/
def decodeFrame {β : Type} [Octet β] (p : Platform) (bytes : List β) : Frame ℕ β :=
  let imageId := p.load (values (bytes.take 2))
  let packetId := p.load (values ((bytes.drop 2).take 2))
  if packetId = 0 then
    if bytes.length = headerSize + p.sizeT then
      .start imageId (p.load (values (bytes.drop headerSize)))
    else .noise
  else .chunk imageId packetId ((bytes.drop headerSize).take maxPayload)

/-- The datagrams sent for one image when no send fails. -/
def imageDatagrams (p : Platform) (imageId : ℕ) (data : List Byte) : List Datagram :=
  (sendImage p reliable 0 imageId data).1

@[simp] theorem header_length (p : Platform) (imageId packetId : ℕ) :
    (header p imageId packetId).length = headerSize := by
  simp [header, headerSize]

theorem store_mod (p : Platform) (w n : ℕ) : p.store w (n % 256 ^ w) = p.store w n := by
  apply p.order.decode_inj (by simp)
  change p.load _ = p.load _
  rw [p.load_store, p.load_store, Nat.mod_mod]

/-- The ids wrap at 16 bits, and so do the fields they are copied to. -/
theorem header_congr (p : Platform) {i i' k k' : ℕ} (hi : i % 65536 = i' % 65536)
    (hk : k % 65536 = k' % 65536) : header p i k = header p i' k' := by
  have h (n : ℕ) : p.store 2 n = p.store 2 (n % 65536) := (store_mod p 2 n).symm
  rw [header, header, h i, h k, h i', h k', hi, hk]

theorem encode_chunks_congr (p : Platform) {i i' k k' : ℕ} (hi : i % 65536 = i' % 65536)
    (hk : k % 65536 = k' % 65536) (n : ℕ) (l : List Byte) :
    (chunks maxPayload i n k l).map (encodeFrame p) =
      (chunks maxPayload i' n k' l).map (encodeFrame p) := by
  induction n generalizing k k' l with
  | zero => rfl
  | succ n ih =>
    have hnext : (k + 1) % 65536 = (k' + 1) % 65536 := by omega
    simp only [chunks, List.map_cons, encodeFrame]
    rw [header_congr p hi hk, ih hnext]

theorem sendData_done (p : Platform) (socket : Socket) (n imageId : ℕ) {data : List Byte}
    {offset : ℕ} (packetId : ℕ) (h : data.length ≤ offset) :
    sendData p socket n imageId data offset packetId = ([], none) := by
  rw [sendData]
  simp [Nat.not_lt.mpr h]

theorem sendData_step (p : Platform) (n imageId : ℕ) {data : List Byte} {offset : ℕ}
    (packetId : ℕ) (h : offset < data.length) :
    sendData p reliable n imageId data offset packetId =
      let rest := sendData p reliable (n + 1) imageId data
        (offset + min maxPayload (data.length - offset)) ((packetId + 1) % 65536)
      ((header p imageId ((packetId + 1) % 65536) ++ (data.drop offset).take maxPayload) ::
        rest.1, rest.2) := by
  have htake : (data.drop offset).take (min maxPayload (data.length - offset)) =
      (data.drop offset).take maxPayload := by
    rw [← List.length_drop, List.take_eq_take_iff]
    omega
  have hsize : min maxPayload (data.length - offset) + headerSize =
      (header p imageId ((packetId + 1) % 65536) ++
        (data.drop offset).take maxPayload).length := by
    rw [List.length_append, header_length, List.length_take, List.length_drop]
    omega
  conv_lhs => rw [sendData]
  simp only [gt_iff_lt, h, ↓reduceIte, reliable, htake, hsize, ne_eq, not_true_eq_false]

/-- The loop over the data packets sends the chunks of the rest of the image. -/
theorem sendData_reliable (p : Platform) (n imageId : ℕ) (data : List Byte)
    (offset packetId : ℕ) :
    sendData p reliable n imageId data offset packetId =
      ((chunks maxPayload imageId (chunkCount maxPayload (data.drop offset).length)
        (packetId + 1) (data.drop offset)).map (encodeFrame p), none) := by
  have hM : 0 < maxPayload := by decide
  induction hm : data.length - offset using Nat.strong_induction_on
    generalizing n offset packetId with
  | _ m ih =>
    subst hm
    by_cases hoff : data.length ≤ offset
    · have hnil : data.drop offset = [] := List.drop_eq_nil_of_le hoff
      rw [sendData_done p reliable n imageId packetId hoff, hnil, List.length_nil,
        chunkCount_zero hM]
      rfl
    · have hlt : offset < data.length := by omega
      have hpos : 0 < (data.drop offset).length := by
        rw [List.length_drop]
        omega
      have hdrop : data.drop (offset + min maxPayload (data.length - offset)) =
          (data.drop offset).drop maxPayload := by
        rw [List.drop_drop, List.drop_eq_drop_iff]
        omega
      have hr := ih (data.length - (offset + min maxPayload (data.length - offset)))
        (by omega) (n + 1) (offset + min maxPayload (data.length - offset))
        ((packetId + 1) % 65536) rfl
      rw [sendData_step p n imageId packetId hlt, hr, hdrop, chunkCount_pos hM hpos, chunks,
        List.map_cons, encodeFrame, List.length_drop]
      rw [header_congr p rfl (Nat.mod_mod (packetId + 1) 65536),
        encode_chunks_congr p rfl (by omega : ((packetId + 1) % 65536 + 1) % 65536 =
          (packetId + 1 + 1) % 65536)]

/-- What is sent for an image are its fragments. -/
theorem sendImage_reliable (p : Platform) (n imageId : ℕ) (data : List Byte) :
    sendImage p reliable n imageId data =
      ((fragments maxPayload imageId data).map (encodeFrame p), none) := by
  have hsize : p.sizeT + headerSize =
      (header p imageId 0 ++ p.store p.sizeT data.length).length := by
    rw [List.length_append, header_length, Platform.store_length, Nat.add_comm]
  simp only [sendImage, reliable, hsize, ne_eq, not_true_eq_false, ↓reduceIte]
  change (_ :: (sendData p reliable (n + 1) imageId data 0 0).1, _) = _
  rw [sendData_reliable p (n + 1) imageId data 0 0]
  rfl

theorem imageDatagrams_eq (p : Platform) (imageId : ℕ) (data : List Byte) :
    imageDatagrams p imageId data =
      (fragments maxPayload imageId data).map (encodeFrame p) := by
  rw [imageDatagrams, sendImage_reliable]

theorem imageDatagrams_congr (p : Platform) {i i' : ℕ} (h : i % 65536 = i' % 65536)
    (data : List Byte) : imageDatagrams p i data = imageDatagrams p i' data := by
  rw [imageDatagrams_eq, imageDatagrams_eq, fragments, fragments, List.map_cons,
    List.map_cons, encode_chunks_congr p h rfl, encodeFrame, encodeFrame, header_congr p h rfl]

/-- Without send errors every image is sent in full, under its number. -/
theorem transferLoop_reliable (p : Platform) (n i : ℕ) (images : List (List Byte)) :
    transferLoop p reliable n (i % 4294967296) images =
      ((images.zipIdx i).map fun x => imageDatagrams p x.2 x.1, none) := by
  induction images generalizing n i with
  | nil => rfl
  | cons data images ih =>
    have hnext : (i % 4294967296 + 1) % 4294967296 = (i + 1) % 4294967296 := by omega
    have hid : i % 4294967296 % 65536 = i % 65536 := by omega
    simp only [transferLoop, sendImage_reliable]
    rw [hnext, ih, List.zipIdx_cons, List.map_cons, imageDatagrams_congr p hid.symm,
      imageDatagrams_eq]

theorem transferData_reliable (p : Platform) (images : List (List Byte)) :
    transferData p reliable images =
      (images.zipIdx.map fun x => imageDatagrams p x.2 x.1, none) :=
  transferLoop_reliable p 0 0 images

/-- An image of one byte at least, whose packets can be numbered with 16 bits. -/
structure Image where
  bytes : List Byte
  nonempty : 1 ≤ bytes.length
  fits : bytes.length ≤ 65535 * maxPayload

theorem Image.bytes_ne_nil (image : Image) : image.bytes ≠ [] :=
  List.length_pos_iff.mp image.nonempty

/-- The size of an image is a `size_t` on every platform, and so is the size of the buffer it
is received in. -/
theorem Image.room (image : Image) (p : Platform) :
    image.bytes.length + maxPayload ≤ p.limit := by
  have h := image.fits
  have hl := p.limit_ge
  simp only [maxPayload, maxPacketSize, headerSize] at h ⊢
  omega

@[simp] theorem header_take (p : Platform) (imageId packetId : ℕ) (l : List Byte) :
    (header p imageId packetId ++ l).take 2 = p.store 2 imageId := by
  rw [header, List.append_assoc, List.take_left' (by simp)]

@[simp] theorem header_drop (p : Platform) (imageId packetId : ℕ) (l : List Byte) :
    ((header p imageId packetId ++ l).drop 2).take 2 = p.store 2 packetId := by
  rw [header, List.append_assoc, List.drop_left' (by simp), List.take_left' (by simp)]

theorem decode_start (p : Platform) (id : ℕ) {total : ℕ} (h : total < p.limit) :
    decodeFrame p (encodeFrame p (.start id total)) = .start (id % 65536) total := by
  have hid : p.load (p.store 2 id) = id % 65536 := p.load_store 2 id
  have hzero : p.load (p.store 2 0) = 0 := p.load_store 2 0
  have hdrop : (header p id 0 ++ p.store p.sizeT total).drop headerSize =
      p.store p.sizeT total := List.drop_left' (header_length p id 0)
  have hload : p.load (p.store p.sizeT total) = total := by
    rw [p.load_store]
    exact Nat.mod_eq_of_lt h
  simp only [decodeFrame, encodeFrame, values_byte, header_take, header_drop, hid, hzero,
    hdrop, hload, List.length_append, header_length, Platform.store_length, ↓reduceIte]

theorem decode_chunk (p : Platform) (id : ℕ) {seq : ℕ} {payload : List Byte}
    (hseq : 1 ≤ seq) (hlast : seq ≤ 65535) (hlen : payload.length ≤ maxPayload) :
    decodeFrame p (encodeFrame p (.chunk id seq payload)) = .chunk (id % 65536) seq payload := by
  have hid : p.load (p.store 2 id) = id % 65536 := p.load_store 2 id
  have hpacket : p.load (p.store 2 seq) = seq := by
    rw [p.load_store]
    exact Nat.mod_eq_of_lt (by omega)
  have hne : seq ≠ 0 := by omega
  have hdrop : (header p id seq ++ payload).drop headerSize = payload :=
    List.drop_left' (header_length p id seq)
  simp only [decodeFrame, encodeFrame, values_byte, header_take, header_drop, hid, hpacket, hne,
    hdrop, ↓reduceIte, List.take_of_length_le hlen]

theorem decode_chunks (p : Platform) (id n seq : ℕ) (l : List Byte) (hseq : 1 ≤ seq)
    (hlast : seq + n ≤ 65536) :
    ((chunks maxPayload id n seq l).map (encodeFrame p)).map (decodeFrame p) =
      chunks maxPayload (id % 65536) n seq l := by
  induction n generalizing seq l with
  | zero => rfl
  | succ n ih =>
    have hlen : (l.take maxPayload).length ≤ maxPayload := by simp
    simp only [chunks, List.map_cons]
    rw [decode_chunk p id hseq (by omega) hlen, ih (seq + 1) _ (by omega) (by omega)]

/-- The datagrams of an image read back as its fragments. -/
theorem decode_imageDatagrams (p : Platform) (imageId : ℕ) (image : Image) :
    (imageDatagrams p imageId image.bytes).map (decodeFrame p) =
      fragments maxPayload (imageId % 65536) image.bytes := by
  have hcount := chunkCount_le (by decide : 0 < maxPayload) image.fits
  have hroom := image.room p
  have hpos : 0 < maxPayload := by decide
  rw [imageDatagrams_eq, fragments, List.map_cons, List.map_cons,
    decode_start p imageId (by omega), decode_chunks p imageId _ 1 _ le_rfl (by omega), fragments]

end Rckam.CameraController
