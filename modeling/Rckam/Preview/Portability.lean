import Rckam.Preview.Delivery

/-! Server and client on different platforms: the wire format is the native layout of the
sender, so only a client of the same platform can read it. -/
namespace Rckam.Preview
open Reassembly CameraController ImageLoader

variable {server client : Platform}

/-- A receive loop that never comes to the end of an image. -/
def Deaf {β : Type} [Octet β] (p : Platform) (s : Locals β) (stream : List (Received β)) : Prop :=
  ∀ data id rest, readLoop p s stream ≠ .returned data id rest

section Loop
variable {s : Locals Byte} {bytes : Datagram} {tail : List (Received Byte)}

theorem deaf_nil : Deaf client s [] := by
  intro data id rest h
  contradiction

theorem deaf_again {s' : Locals Byte}
    (h : iteration client s (.datagram bytes) = .again s' ∨
      iteration client s (.datagram bytes) = .outOfBounds)
    (htail : Deaf client s' tail) : Deaf client s (.datagram bytes :: tail) := by
  intro data id rest hret
  rw [readLoop] at hret
  rcases h with h | h
  · rw [h] at hret
    exact htail data id rest hret
  · rw [h] at hret
    contradiction

/-- A packet that is neither a first packet nor the expected one makes the loop discard. -/
theorem iteration_unexpected (client : Platform) (hlen : headerSize ≤ bytes.length)
    (hdata : client.load ((bytes.drop 2).take 2) ≠ 0)
    (hskip : s.discard = true ∨ client.load ((bytes.drop 2).take 2) ≠ s.nextPacketId) :
    ∃ s' : Locals Byte, s'.discard = true ∧
      (iteration client s (.datagram bytes) = .again s' ∨
        iteration client s (.datagram bytes) = .outOfBounds) := by
  by_cases hw : s.data.length < s.offset + maxPayload
  · exact ⟨{ s with discard := true }, rfl, Or.inr (if_pos hw)⟩
  · obtain ⟨-, hpacket⟩ := receive_header (s := s) hlen
    have hgo : iteration client s (.datagram bytes) = .again { receiveFrom s bytes with
        discard := true
        currentImageId := client.load (values ((receiveFrom s bytes).header.take 2))
        nextPacketId := 65535
        offset := 0 } := by
      rw [iteration, if_neg hw]
      simp only [hpacket, values_byte, if_neg hdata]
      exact if_pos (hskip.imp id Or.inr)
    exact ⟨_, rfl, Or.inl hgo⟩

/-- A first packet makes the loop wait for packet 1, or discard. -/
theorem iteration_first (client : Platform) (hlen : headerSize ≤ bytes.length)
    (hfirst : client.load ((bytes.drop 2).take 2) = 0) :
    ∃ s' : Locals Byte, (s'.discard = true ∨
        s'.nextPacketId = 1 ∧ bytes.length = headerSize + client.sizeT) ∧
      (iteration client s (.datagram bytes) = .again s' ∨
        iteration client s (.datagram bytes) = .outOfBounds) := by
  by_cases hw : s.data.length < s.offset + maxPayload
  · exact ⟨{ s with discard := true }, Or.inl rfl, Or.inr (if_pos hw)⟩
  · obtain ⟨-, hpacket⟩ := receive_header (s := s) hlen
    have hgo : iteration client s (.datagram bytes) =
        .again (firstPacket client (receiveFrom s bytes) (min bytes.length maxPacketSize)
          (client.load (values ((receiveFrom s bytes).header.take 2)))) := by
      rw [iteration, if_neg hw]
      simp only [hpacket, values_byte, if_pos hfirst]
    refine ⟨_, ?_, Or.inl hgo⟩
    by_cases hsize : min bytes.length maxPacketSize = headerSize + client.sizeT
    · right
      have hsmall : client.sizeT + headerSize < maxPacketSize := by
        rcases client.sizeT_eq with h | h <;> rw [h] <;> decide
      refine ⟨?_, by omega⟩
      rw [firstPacket, if_neg (not_not.mpr hsize)]
    · left
      rw [firstPacket, if_pos hsize]

end Loop

/-- The packet id of a data packet does not read as zero on any platform. -/
theorem packetId_data (client : Platform) (i : ℕ) {seq : ℕ} (l : List Byte) (hseq : 1 ≤ seq)
    (hlast : seq ≤ 65535) :
    client.load (((header server i seq ++ l).drop 2).take 2) ≠ 0 := by
  rw [header_drop]
  intro h
  have hzero := (server.order.decode_encode_eq_zero client.order
    (by omega : seq < 256 ^ 2)).mp h
  omega

theorem packetId_first (client : Platform) (i : ℕ) (l : List Byte) :
    client.load (((header server i 0 ++ l).drop 2).take 2) = 0 := by
  rw [header_drop]
  exact (server.order.decode_encode_eq_zero client.order (by decide)).mpr rfl

/-- A loop that discards stays so as long as no first packet arrives. -/
theorem deaf_chunks {s : Locals Byte} (hs : s.discard = true) (i n : ℕ) {seq : ℕ}
    (l : List Byte) (hseq : 1 ≤ seq) (hlast : seq + n ≤ 65536) {tail : List (Received Byte)}
    (htail : ∀ s', Deaf client s' tail) :
    Deaf client s
      (((chunks maxPayload i n seq l).map (encodeFrame server)).map .datagram ++ tail) := by
  induction n generalizing s seq l with
  | zero => exact htail s
  | succ n ih =>
    have hlen : headerSize ≤ (header server i seq ++ l.take maxPayload).length := by
      rw [List.length_append, header_length]
      exact Nat.le_add_right _ _
    obtain ⟨s', hs', hgo⟩ := iteration_unexpected (s := s) client hlen
      (packetId_data client i (l.take maxPayload) hseq (by omega)) (Or.inl hs)
    exact deaf_again hgo (ih hs' (l.drop maxPayload) (by omega) (by omega))

/-- The datagrams of an image complete nothing on another platform: either the size packet has
the wrong size, or packet 1 does not read as packet 1. -/
theorem deaf_image (hne : server ≠ client) (i : ℕ) (image : Image)
    {tail : List (Received Byte)} (htail : ∀ s', Deaf client s' tail) (s : Locals Byte) :
    Deaf client s ((imageDatagrams server i image.bytes).map .datagram ++ tail) := by
  have hM : 0 < maxPayload := by decide
  have hcount := chunkCount_le hM image.fits
  have hpos := chunkCount_pos hM image.nonempty
  rw [imageDatagrams_eq, fragments, List.map_cons, List.map_cons, encodeFrame, List.cons_append]
  have hlen : headerSize ≤
      (header server i 0 ++ server.store server.sizeT image.bytes.length).length := by
    rw [List.length_append, header_length]
    exact Nat.le_add_right _ _
  obtain ⟨s1, hs1, hgo1⟩ := iteration_first (s := s) client hlen (packetId_first client i _)
  apply deaf_again hgo1
  rcases hs1 with hs1 | ⟨hnext, hsize⟩
  · exact deaf_chunks hs1 i _ image.bytes le_rfl (by omega) htail
  · -- the sizes agree, so the byte orders do not
    have hword : server.word = client.word := by
      rw [Platform.word_eq_iff]
      rw [List.length_append, header_length, Platform.store_length] at hsize
      omega
    have horder : server.order ≠ client.order := by
      intro h
      apply hne
      cases server
      cases client
      simp_all
    rw [hpos, chunks, List.map_cons, List.map_cons, encodeFrame, List.cons_append]
    have hlen2 : headerSize ≤ (header server i 1 ++ image.bytes.take maxPayload).length := by
      rw [List.length_append, header_length]
      exact Nat.le_add_right _ _
    have hid : client.load (((header server i 1 ++ image.bytes.take maxPayload).drop 2).take 2) =
        256 := by
      rw [header_drop]
      exact ByteOrder.decode_encode_one horder
    obtain ⟨s2, hs2, hgo2⟩ := iteration_unexpected (s := s1) client hlen2
      (by omega) (Or.inr (by omega))
    exact deaf_again hgo2 (deaf_chunks hs2 i _ (image.bytes.drop maxPayload) (by omega)
      (by omega) htail)

theorem deaf_run (hne : server ≠ client) (images : List (Image × ℕ)) (s : Locals Byte) :
    Deaf client s
      ((images.flatMap fun x => imageDatagrams server x.2 x.1.bytes).map .datagram) := by
  induction images generalizing s with
  | nil => exact deaf_nil
  | cons x images ih =>
    rw [List.flatMap_cons, List.map_append]
    exact deaf_image hne x.2 x.1 ih s

theorem sent_flatten (p : Platform) (images : List Image) :
    (sent p images).flatten =
      images.zipIdx.flatMap fun x => imageDatagrams p x.2 x.1.bytes := by
  rw [sent_eq, List.flatMap_def]

/-- A client on another platform gets nothing of a run. -/
theorem previews_other_platform (hne : server ≠ client) (images : List Image)
    (header : ℕ → List Byte) (loader : ImageLoader Byte) :
    previews client header 0 loader ((sent server images).flatten.map .datagram) = [] := by
  rw [sent_flatten]
  apply previews_stopped
  exact deaf_run hne images.zipIdx _

/-- A client on the same platform gets the run. -/
theorem previews_same_platform (p : Platform) (images : List Image) (header : ℕ → List Byte)
    (loader : ImageLoader Byte) :
    previews p header 0 loader ((sent p images).flatten.map .datagram) =
      images.map Image.bytes := by
  have hM : 0 < maxPayload := by decide
  have hrun : ∀ xs : List (Image × ℕ), ∀ st,
      (run maxPayload st ((xs.flatMap fun x => imageDatagrams p x.2 x.1.bytes).map
        (decodeFrame p))).2 = xs.map fun x => x.1.bytes := by
    intro xs
    induction xs with
    | nil =>
      intro st
      rfl
    | cons x xs ih =>
      intro st
      rw [List.flatMap_cons, List.map_append, run_append, decode_imageDatagrams,
        run_fragments hM st _ x.1.bytes_ne_nil, ih]
      rfl
  rw [previews_refines header 0 loader, sent_flatten, hrun]
  · rw [← List.zipIdx_map_fst 0 images, List.map_map, List.zipIdx_map_fst]
    rfl
  · intro d hd
    rw [sent_flatten] at hd
    obtain ⟨x, -, hx⟩ := List.mem_flatMap.mp hd
    exact usable_sent hx

/-- Without losses a run of images arrives exactly when both programs are on the same platform. -/
theorem portable_iff (server client : Platform) (image : Image) (images : List Image)
    (header : ℕ → List Byte) (loader : ImageLoader Byte) :
    previews client header 0 loader ((sent server (image :: images)).flatten.map .datagram) =
      (image :: images).map Image.bytes ↔ server = client := by
  constructor
  · intro h
    by_contra hne
    rw [previews_other_platform hne] at h
    contradiction
  · rintro rfl
    exact previews_same_platform server (image :: images) header loader

/-- A 64-bit server and a 32-bit client. -/
theorem narrow_client_gets_nothing :
    ¬ previews ⟨.four, .little⟩ (fun _ => []) 0 ⟨fun _ => [], 0⟩
      ((sent ⟨.eight, .little⟩ [⟨[7], by decide, by decide⟩]).flatten.map .datagram) =
        [[7]] := by
  rw [previews_other_platform (by decide)]
  decide

end Rckam.Preview
