import Rckam.Preview.ReadPreview
import Rckam.Preview.Wire

/-! `readPreview` refines the reassembly protocol: on datagrams with a whole header and usable
sizes, the buffers it returns are the messages the protocol completes. -/
namespace Rckam.ImageLoader
open Reassembly CameraController

variable {β : Type}

section Buffers

theorem overwrite_length {buffer bytes : List β} {offset : ℕ}
    (h : offset + bytes.length ≤ buffer.length) :
    (overwrite buffer offset bytes).length = buffer.length := by
  simp only [overwrite, List.length_append, List.length_take, List.length_drop]
  omega

theorem overwrite_take {buffer : List β} {offset : ℕ} (bytes : List β)
    (h : offset ≤ buffer.length) :
    (overwrite buffer offset bytes).take (offset + bytes.length) =
      buffer.take offset ++ bytes := by
  apply List.take_left'
  simp only [List.length_append, List.length_take]
  omega

theorem overwrite_drop {buffer : List β} {offset : ℕ} (bytes : List β)
    (h : offset ≤ buffer.length) :
    ((overwrite buffer offset bytes).drop offset).take bytes.length = bytes := by
  rw [List.take_drop, overwrite_take bytes h]
  apply List.drop_left'
  simpa using h

theorem overwrite_zero (buffer bytes : List β) :
    overwrite buffer 0 bytes = bytes ++ buffer.drop bytes.length := by
  simp [overwrite]

/-- The payload of a datagram, as far as it is received. -/
def payload (bytes : List β) : List β := (bytes.drop headerSize).take maxPayload

theorem payload_length (bytes : List β) :
    (payload bytes).length = min maxPayload (bytes.length - headerSize) := by
  simp [payload]

theorem count_eq {bytes : List β} (hlen : headerSize ≤ bytes.length) :
    min bytes.length maxPacketSize = (payload bytes).length + headerSize := by
  rw [payload_length]
  simp only [maxPayload, maxPacketSize, headerSize] at *
  omega

variable [Octet β]

@[simp] theorem resize_length (data : List β) (n : ℕ) : (resize data n).length = n :=
  List.takeD_length n data Octet.zero

theorem resize_eq_take {data : List β} {n : ℕ} (h : n ≤ data.length) :
    resize data n = data.take n :=
  List.takeD_eq_take Octet.zero h

end Buffers

/-- The loop is in the middle of the image `g`: the bytes below `offset` are the received ones,
and the buffer is the image size rounded up to whole packets. -/
structure Receiving (s : Locals β) (g : Progress ℕ β) : Prop where
  live : s.discard = false
  id : g.id = s.currentImageId
  total : g.total = s.byteCount
  got : g.got = s.data.take s.offset
  short : s.offset < s.byteCount
  last : g.next ≤ 65536
  next : s.nextPacketId = g.next % 65536
  whole : s.offset + maxPayload = g.next * maxPayload
  room : s.data.length = chunkCount maxPayload s.byteCount * maxPayload

/-- The loop state as a state of the protocol. -/
structure Related (s : Locals β) (st : Option (Progress ℕ β)) : Prop where
  window : s.offset + maxPayload ≤ s.data.length
  idle : s.discard = true → st = none
  busy : s.discard = false → ∃ g, st = some g ∧ Receiving s g

theorem Related.discarded {s : Locals β} (hd : s.discard = true)
    (hw : s.offset + maxPayload ≤ s.data.length) : Related s none where
  window := hw
  idle := fun _ => rfl
  busy := fun h => by simp [hd] at h

variable [Octet β]

/-- The datagrams the protocol speaks about: the header is whole, and the size announced by a
first packet is not zero and can be rounded up in `size_t`. -/
def Usable (p : Platform) (bytes : List β) : Prop :=
  headerSize ≤ bytes.length ∧
    ∀ id total, decodeFrame p bytes = .start id total →
      1 ≤ total ∧ total + maxPayload ≤ p.limit

theorem related_enter (header data : List β) (currentImageId : ℕ) :
    Related (enter header data currentImageId) none where
  window := by simp [enter]
  idle := fun _ => rfl
  busy := fun h => by simp [enter] at h

/-- An iteration of the loop and a step of the protocol agree: both go on in related states, or
both complete the same image. -/
inductive Refines : Iteration β → Option (Progress ℕ β) × Option (List β) → Prop where
  | again {s : Locals β} {st : Option (Progress ℕ β)} (h : Related s st) :
      Refines (.again s) (st, none)
  | done {s : Locals β} {image : List β} (h : image = resize s.data s.byteCount) :
      Refines (.done s) (none, some image)

section Receive
variable {s : Locals β} {bytes : List β}

omit [Octet β] in
theorem receive_header (hlen : headerSize ≤ bytes.length) :
    (receiveFrom s bytes).header.take 2 = bytes.take 2 ∧
      ((receiveFrom s bytes).header.drop 2).take 2 = (bytes.drop 2).take 2 := by
  have hfull : (bytes.take headerSize).length = 4 := by
    rw [List.length_take]
    simp only [headerSize] at *
    omega
  have hheader : (receiveFrom s bytes).header = bytes.take headerSize ++ s.header.drop 4 := by
    rw [← hfull]
    exact overwrite_zero s.header (bytes.take headerSize)
  rw [hheader]
  constructor
  · rw [List.take_append_of_le_length (by omega), List.take_take]
    rfl
  · rw [List.drop_append_of_le_length (by omega), List.take_append_of_le_length
      (by rw [List.length_drop]; omega), List.drop_take, List.take_take]
    rfl

omit [Octet β] in
theorem receive_window (hw : s.offset + maxPayload ≤ s.data.length) (bytes : List β) :
    (receiveFrom s bytes).data.length = s.data.length := by
  apply overwrite_length
  have h : (payload bytes).length ≤ maxPayload := by
    rw [payload_length]
    exact Nat.min_le_left _ _
  exact (Nat.add_le_add_left h s.offset).trans hw

end Receive

/-! ### The first packet -/

section First
variable {p : Platform} {s : Locals β} {bytes : List β}

theorem sizePacket_lt (p : Platform) : headerSize + p.sizeT < maxPacketSize := by
  rcases p.sizeT_eq with h | h <;> simp [h, headerSize, maxPacketSize]

/-- The state behind an accepted first packet receives the announced image from its start. -/
theorem related_opened {header data : List β} {imageId total : ℕ} (hpos : 1 ≤ total)
    (hroom : total + maxPayload ≤ p.limit) :
    Related
      { header := header
        data := resize data (resizeTo p total)
        offset := 0
        byteCount := total
        currentImageId := imageId
        nextPacketId := 1
        discard := false }
      (opened imageId total) := by
  have hM : 0 < maxPayload := by decide
  have hresize : resizeTo p total = chunkCount maxPayload total * maxPayload := by
    unfold resizeTo chunkCount
    rw [Nat.mod_eq_of_lt (by omega)]
  have hne : total ≠ 0 := by omega
  rw [opened, if_neg hne, hresize]
  refine {
    window := ?_
    idle := fun h => by simp at h
    busy := fun _ => ⟨_, rfl, {
      live := rfl
      id := rfl
      total := rfl
      got := rfl
      short := hpos
      last := by simp
      next := rfl
      whole := by simp
      room := by simp }⟩ }
  show 0 + maxPayload ≤ (resize data (chunkCount maxPayload total * maxPayload)).length
  rw [resize_length, chunkCount_pos hM hpos, Nat.succ_mul, Nat.zero_add]
  exact Nat.le_add_left _ _

omit [Octet β] in
/-- The announced size is read from where the payload was received. -/
theorem receive_announced (hw : s.offset + maxPayload ≤ s.data.length)
    (hbytes : bytes.length = headerSize + p.sizeT) :
    ((receiveFrom s bytes).data.drop (receiveFrom s bytes).offset).take p.sizeT =
      bytes.drop headerSize := by
  have hle := sizePacket_lt p
  have hpay : payload bytes = bytes.drop headerSize := by
    apply List.take_of_length_le
    rw [List.length_drop]
    simp only [maxPayload] at *
    omega
  have hpaylen : (payload bytes).length = p.sizeT := by
    rw [hpay, List.length_drop]
    omega
  have hdrop := overwrite_drop (payload bytes) (Nat.le_of_add_right_le hw)
  rw [hpaylen] at hdrop
  rw [← hpay]
  exact hdrop

/-- A first packet opens the image it announces, in any state. -/
theorem firstPacket_refines (hw : s.offset + maxPayload ≤ s.data.length) (hb : Usable p bytes)
    (st : Option (Progress ℕ β)) (hfirst : p.load (values ((bytes.drop 2).take 2)) = 0) :
    Refines (.again (firstPacket p (receiveFrom s bytes) (min bytes.length maxPacketSize)
      (p.load (values (bytes.take 2))))) (step maxPayload st (decodeFrame p bytes)) := by
  have hle := sizePacket_lt p
  by_cases hsize : min bytes.length maxPacketSize = headerSize + p.sizeT
  · have hbytes : bytes.length = headerSize + p.sizeT := by omega
    have hdecode : decodeFrame p bytes = .start (p.load (values (bytes.take 2)))
        (p.load (values (bytes.drop headerSize))) := by
      simp only [decodeFrame, hfirst, hbytes, ↓reduceIte]
    obtain ⟨hpos, hroom⟩ := hb.2 _ _ hdecode
    rw [hdecode, step_start]
    simp only [firstPacket, hsize, ne_eq, not_true_eq_false, ↓reduceIte,
      receive_announced hw hbytes]
    exact .again (related_opened hpos hroom)
  · have hbytes : bytes.length ≠ headerSize + p.sizeT := by omega
    have hdecode : decodeFrame p bytes = .noise := by
      simp only [decodeFrame, hfirst, hbytes, ↓reduceIte]
    have hstep : step maxPayload st (decodeFrame p bytes) = (none, none) := by
      rw [hdecode]
      cases st <;> rfl
    have hlen := receive_window hw bytes
    rw [hstep]
    simp only [firstPacket, hsize, ne_eq, not_false_eq_true, ↓reduceIte]
    refine .again (Related.discarded rfl ?_)
    simp only [hlen]
    omega

end First

/-! ### The expected packet -/

section Expected
variable {s : Locals β} {g : Progress ℕ β} (hr : Receiving s g)
  (hw : s.offset + maxPayload ≤ s.data.length) (bytes : List β)

include hr hw

omit [Octet β] in
theorem Receiving.got_length : g.got.length = s.offset := by
  rw [hr.got, List.length_take]
  omega

omit [Octet β] in
theorem Receiving.accepts_iff :
    g.Accepts maxPayload g.id g.next (payload bytes) ↔
      (payload bytes).length = min maxPayload (s.byteCount - s.offset) := by
  simp only [Progress.Accepts, hr.got_length hw, hr.total, true_and]

omit [Octet β] in
theorem Receiving.received :
    (receiveFrom s bytes).data.take (s.offset + (payload bytes).length) =
      g.got ++ payload bytes := by
  rw [hr.got]
  exact overwrite_take (payload bytes) (by omega)

omit [Octet β] hw in
/-- The packet after a full one starts below the announced size, so its window is in the
buffer. -/
theorem Receiving.room_next (hmore : s.offset + maxPayload < s.byteCount) :
    (g.next + 1) * maxPayload ≤ s.data.length := by
  have hM : 0 < maxPayload := by decide
  have hge := chunkCount_mul_ge hM s.byteCount
  have hwhole := hr.whole
  have hlt : g.next * maxPayload < chunkCount maxPayload s.byteCount * maxPayload := by omega
  have hcap : g.next + 1 ≤ chunkCount maxPayload s.byteCount := Nat.lt_of_mul_lt_mul_right hlt
  rw [hr.room]
  exact Nat.mul_le_mul_right maxPayload hcap

omit [Octet β] in
/-- After a full packet the loop receives the same image, one packet further. -/
theorem Receiving.advance (hnext : g.next ≤ 65535) (hfull : (payload bytes).length = maxPayload)
    (hmore : s.offset + maxPayload < s.byteCount) :
    Related
      { receiveFrom s bytes with
        offset := s.offset + (payload bytes).length
        nextPacketId := (s.nextPacketId + 1) % 65536 }
      (some { g with next := g.next + 1, got := g.got ++ payload bytes }) := by
  have hroom := hr.room_next hmore
  have hwhole := hr.whole
  have hwin := receive_window hw bytes
  rw [Nat.succ_mul] at hroom
  refine {
    window := ?_
    idle := fun hd => absurd (hr.live.symm.trans hd) Bool.false_ne_true
    busy := fun _ => ⟨_, rfl, {
      live := hr.live
      id := hr.id
      total := hr.total
      got := (hr.received hw bytes).symm
      short := ?_
      last := Nat.succ_le_succ hnext
      next := ?_
      whole := ?_
      room := hwin.trans hr.room }⟩ }
  · change s.offset + (payload bytes).length + maxPayload ≤ (receiveFrom s bytes).data.length
    omega
  · change s.offset + (payload bytes).length < s.byteCount
    omega
  · change (s.nextPacketId + 1) % 65536 = (g.next + 1) % 65536
    rw [hr.next]
    omega
  · change s.offset + (payload bytes).length + maxPayload = (g.next + 1) * maxPayload
    rw [Nat.succ_mul]
    omega

/-- The expected packet continues the image under way or completes it, unless its size is
wrong. -/
theorem expectedPacket_refines (hlen : headerSize ≤ bytes.length) (hnext : g.next ≤ 65535) :
    Refines (expectedPacket (receiveFrom s bytes) (min bytes.length maxPacketSize))
      (step maxPayload (some g) (.chunk g.id g.next (payload bytes))) := by
  have hwin := receive_window hw bytes
  have hcount := count_eq hlen
  have hshort := hr.short
  have hoffset : (receiveFrom s bytes).offset = s.offset := rfl
  have hbyteCount : (receiveFrom s bytes).byteCount = s.byteCount := rfl
  by_cases hsize : (payload bytes).length = min maxPayload (s.byteCount - s.offset)
  · have hok : min bytes.length maxPacketSize =
        min maxPayload (s.byteCount - s.offset) + headerSize := by rw [hcount, hsize]
    simp only [expectedPacket, hoffset, hbyteCount, hok, ne_eq, not_true_eq_false, ↓reduceIte,
      step, (hr.accepts_iff hw bytes).mpr hsize, hr.got_length hw, hr.total]
    rw [← hsize]
    by_cases hdone : s.byteCount = s.offset + (payload bytes).length
    · rw [if_pos hdone, if_pos hdone.symm]
      have hfit : s.byteCount ≤ (receiveFrom s bytes).data.length := by
        rw [hwin]
        omega
      refine .done ?_
      change _ = resize (receiveFrom s bytes).data s.byteCount
      rw [resize_eq_take hfit, hdone, hr.received hw bytes]
    · rw [if_neg hdone, if_neg (Ne.symm hdone)]
      have hadvance := hr.advance hw bytes hnext (by omega) (by omega)
      rw [hr.total] at hadvance
      exact .again hadvance
  · have hbad : min bytes.length maxPacketSize ≠
        min maxPayload (s.byteCount - s.offset) + headerSize := by
      rw [hcount]
      omega
    have hrej : ¬ g.Accepts maxPayload g.id g.next (payload bytes) :=
      mt (hr.accepts_iff hw bytes).mp hsize
    simp only [expectedPacket, hoffset, hbyteCount, hbad, ne_eq, not_false_eq_true, ↓reduceIte,
      step, hrej]
    refine .again (Related.discarded rfl ?_)
    change s.offset + maxPayload ≤ (receiveFrom s bytes).data.length
    omega

end Expected

/-- Another packet is the expected one, or makes the loop discard. -/
theorem dataPacket_refines {s : Locals β} {bytes : List β} {st : Option (Progress ℕ β)}
    (h : Related s st) (hlen : headerSize ≤ bytes.length) (imageId : ℕ) {packetId : ℕ}
    (hfirst : packetId ≠ 0) (hlast : packetId ≤ 65535) :
    Refines (dataPacket (receiveFrom s bytes) (min bytes.length maxPacketSize) imageId packetId)
      (step maxPayload st (.chunk imageId packetId (payload bytes))) := by
  by_cases hskip : s.discard = true ∨ imageId ≠ s.currentImageId ∨ packetId ≠ s.nextPacketId
  · have hrej : step maxPayload st (.chunk imageId packetId (payload bytes)) = (none, none) := by
      apply step_chunk_rejected
      rintro g hg ⟨hid, hseq, -⟩
      cases hd : s.discard with
      | true =>
        rw [h.idle hd] at hg
        contradiction
      | false =>
        obtain ⟨g', hg', hr⟩ := h.busy hd
        obtain rfl : g = g' := Option.some.inj (hg.symm.trans hg')
        have hnext := hr.next
        rcases hskip with hd' | hi | hk
        · exact absurd (hd.symm.trans hd') Bool.false_ne_true
        · exact hi (hid.trans hr.id)
        · omega
    have hgo : dataPacket (receiveFrom s bytes) (min bytes.length maxPacketSize) imageId packetId =
        .again { receiveFrom s bytes with
          discard := true
          currentImageId := imageId
          nextPacketId := 65535
          offset := 0 } := if_pos hskip
    rw [hgo, hrej]
    refine .again (Related.discarded rfl ?_)
    change 0 + maxPayload ≤ (receiveFrom s bytes).data.length
    rw [receive_window h.window]
    have := h.window
    omega
  · obtain ⟨hd, hi, hk⟩ := not_or.mp hskip |>.imp_right not_or.mp
    have hlive : s.discard = false := by simpa using hd
    obtain ⟨g, rfl, hr⟩ := h.busy hlive
    have hnext : packetId = g.next := by
      have hn := hr.next
      have hl := hr.last
      omega
    have hid : imageId = g.id := (not_not.mp hi).trans hr.id.symm
    have hgo : dataPacket (receiveFrom s bytes) (min bytes.length maxPacketSize) imageId packetId =
        expectedPacket (receiveFrom s bytes) (min bytes.length maxPacketSize) :=
      (if_neg hskip).trans (if_neg (not_not.mpr hr.short))
    rw [hgo, hnext, hid]
    exact expectedPacket_refines hr h.window bytes hlen (by omega)

/-- One iteration of the receive loop is one step of the protocol. -/
theorem iteration_refines {p : Platform} {s : Locals β} {st : Option (Progress ℕ β)}
    (h : Related s st) {bytes : List β} (hb : Usable p bytes) :
    Refines (iteration p s (.datagram bytes)) (step maxPayload st (decodeFrame p bytes)) := by
  have hwin : ¬ s.data.length < s.offset + maxPayload := Nat.not_lt.mpr h.window
  obtain ⟨himage, hpacket⟩ := receive_header (s := s) hb.1
  simp only [iteration, hwin, ↓reduceIte, himage, hpacket]
  by_cases hfirst : p.load (values ((bytes.drop 2).take 2)) = 0
  · rw [if_pos hfirst]
    exact firstPacket_refines h.window hb st hfirst
  · rw [if_neg hfirst]
    have hdecode : decodeFrame p bytes = .chunk (p.load (values (bytes.take 2)))
        (p.load (values ((bytes.drop 2).take 2))) (payload bytes) := by
      simp only [decodeFrame, hfirst, ↓reduceIte]
      rfl
    have hlast : p.load (values ((bytes.drop 2).take 2)) ≤ 65535 := by
      have hlt := p.load_lt (values ((bytes.drop 2).take 2))
      have hpow : 256 ^ (values ((bytes.drop 2).take 2)).length ≤ 256 ^ 2 := by
        apply Nat.pow_le_pow_right (by decide)
        simp
      omega
    rw [hdecode]
    exact dataPacket_refines h hb.1 _ hfirst hlast

/-- A call returns at the first datagram that completes an image, and gives this image. -/
theorem readLoop_refines {p : Platform} {s : Locals β} {st : Option (Progress ℕ β)}
    (h : Related s st) {stream : List (List β)} (hs : ∀ bytes ∈ stream, Usable p bytes) :
    (∃ image id now rest, stream = now ++ rest ∧ now ≠ [] ∧
      readLoop p s (stream.map .datagram) = .returned image id (rest.map .datagram) ∧
      run maxPayload st (now.map (decodeFrame p)) = (none, [image])) ∨
    ((∃ s', readLoop p s (stream.map .datagram) = .blocked s') ∧
      (run maxPayload st (stream.map (decodeFrame p))).2 = []) := by
  induction stream generalizing s st with
  | nil => exact Or.inr ⟨⟨s, rfl⟩, rfl⟩
  | cons bytes stream ih =>
    have hstep := iteration_refines h (hs bytes (by simp))
    rw [List.map_cons, List.map_cons, readLoop, run_cons]
    generalize iteration p s (.datagram bytes) = outcome at hstep
    generalize hnow : step maxPayload st (decodeFrame p bytes) = now at hstep
    cases hstep with
    | @again s' st' h' =>
      rcases ih h' (fun b hb => hs b (by simp [hb])) with
        ⟨image, id, front, rest, rfl, -, hret, hrun⟩ | ⟨hblock, hrun⟩
      · left
        refine ⟨image, id, bytes :: front, rest, rfl, by simp, hret, ?_⟩
        rw [List.map_cons, run_cons, hnow, hrun]
        rfl
      · exact Or.inr ⟨hblock, hrun⟩
    | @done s' image himage =>
      left
      refine ⟨image, s'.currentImageId, [bytes], stream, rfl, by simp, ?_, ?_⟩
      · rw [himage]
      · simp [run_cons, hnow]

/-- The buffers returned by successive calls are the images completed by the protocol. -/
theorem previews_refines {p : Platform} (header : ℕ → List β) (i : ℕ) (loader : ImageLoader β)
    {stream : List (List β)} (hs : ∀ bytes ∈ stream, Usable p bytes) :
    previews p header i loader (stream.map .datagram) =
      (run maxPayload none (stream.map (decodeFrame p))).2 := by
  induction hn : stream.length using Nat.strong_induction_on generalizing i loader stream with
  | _ n ih =>
    subst hn
    have henter := related_enter (header i) (loader.buffers (Fin.ofNat 2 i)) loader.currentImageId
    rcases readLoop_refines henter hs with
      ⟨image, id, now, rest, rfl, hne, hret, hrun⟩ | ⟨⟨s', hblock⟩, hrun⟩
    · have hlt : rest.length < (now ++ rest).length := by
        have := List.length_pos_iff.mpr hne
        rw [List.length_append]
        omega
      have hrest : ∀ bytes ∈ rest, Usable p bytes := fun b hb => hs b (by simp [hb])
      rw [previews_returned hret, ih _ hlt _ _ hrest rfl, List.map_append, run_append, hrun]
      rfl
    · rw [hrun]
      apply previews_stopped
      intro data id rest hret
      have := hblock.symm.trans hret
      contradiction

end Rckam.ImageLoader
