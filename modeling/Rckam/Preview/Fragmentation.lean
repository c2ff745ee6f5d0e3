import Rckam.Preview.Wire

/-! The datagrams of one image, as a receiver tells them apart by their headers. -/
namespace Rckam.CameraController
open Reassembly

section Fields
variable (p : Platform)

def imageIdOf (d : Datagram) : ℕ := p.load (d.take 2)

def packetIdOf (d : Datagram) : ℕ := p.load ((d.drop 2).take 2)

def payloadOf (d : Datagram) : List Byte := d.drop headerSize

theorem imageIdOf_header (id seq : ℕ) (l : List Byte) :
    imageIdOf p (header p id seq ++ l) = id % 65536 := by
  unfold imageIdOf
  rw [header_take]
  exact p.load_store 2 id

theorem packetIdOf_header (id seq : ℕ) (l : List Byte) :
    packetIdOf p (header p id seq ++ l) = seq % 65536 := by
  unfold packetIdOf
  rw [header_drop]
  exact p.load_store 2 seq

theorem payloadOf_header (id seq : ℕ) (l : List Byte) :
    payloadOf (header p id seq ++ l) = l :=
  List.drop_left' (header_length p id seq)

end Fields

/-- A size packet and the data packets of an image, which are numbered apart from it. -/
structure Fragmented (p : Platform) (data : List Byte) (first : Datagram)
    (packets : List Datagram) : Prop where
  id : packetIdOf p first = 0
  size : payloadOf first = p.store p.sizeT data.length
  count : packets.length = chunkCount maxPayload data.length
  payload : ∀ d ∈ packets, 1 ≤ (payloadOf d).length ∧ (payloadOf d).length ≤ maxPayload
  image : packets.flatMap payloadOf = data
  same : ∀ d ∈ packets, imageIdOf p d = imageIdOf p first
  increasing : (packets.map (packetIdOf p)).Pairwise (· < ·)
  nonzero : ∀ d ∈ packets, packetIdOf p d ≠ 0

section Packets
variable (p : Platform) (id : ℕ) (data : List Byte)

/-- The data packets sent for an image. -/
def dataPackets : List Datagram :=
  (chunks maxPayload id (chunkCount maxPayload data.length) 1 data).map (encodeFrame p)

theorem sendImage_packets (n : ℕ) :
    (sendImage p reliable n id data).1 =
      (header p id 0 ++ p.store p.sizeT data.length) :: dataPackets p id data :=
  congrArg Prod.fst (sendImage_reliable p n id data)

/-- The ids of the data packets count from one, and wrap. -/
theorem dataPackets_ids : (dataPackets p id data).map (packetIdOf p) =
    (List.range' 1 (chunkCount maxPayload data.length)).map (· % 65536) := by
  have hseq (f : Frame ℕ Byte) (hf : f ∈ chunks maxPayload id
      (chunkCount maxPayload data.length) 1 data) :
      packetIdOf p (encodeFrame p f) = f.seq % 65536 := by
    obtain ⟨k, -, rfl⟩ := mem_chunks.mp hf
    exact packetIdOf_header p id (1 + k) _
  calc (dataPackets p id data).map (packetIdOf p)
      = (chunks maxPayload id (chunkCount maxPayload data.length) 1 data).map
          fun f => packetIdOf p (encodeFrame p f) := List.map_map
    _ = (chunks maxPayload id (chunkCount maxPayload data.length) 1 data).map
          fun f => f.seq % 65536 := List.map_congr_left hseq
    _ = ((chunks maxPayload id (chunkCount maxPayload data.length) 1 data).map
          Frame.seq).map (· % 65536) := by
      rw [List.map_map]
      rfl
    _ = (List.range' 1 (chunkCount maxPayload data.length)).map (· % 65536) := by
      rw [chunks_map_seq]

theorem dataPackets_image : (dataPackets p id data).flatMap payloadOf = data := by
  have hpayload (f : Frame ℕ Byte) (hf : f ∈ chunks maxPayload id
      (chunkCount maxPayload data.length) 1 data) :
      payloadOf (encodeFrame p f) = f.payload := by
    obtain ⟨k, -, rfl⟩ := mem_chunks.mp hf
    exact payloadOf_header p id (1 + k) _
  calc (dataPackets p id data).flatMap payloadOf
      = (chunks maxPayload id (chunkCount maxPayload data.length) 1 data).flatMap
          fun f => payloadOf (encodeFrame p f) := List.flatMap_map ..
    _ = (chunks maxPayload id (chunkCount maxPayload data.length) 1 data).flatMap
          Frame.payload := List.flatMap_congr hpayload
    _ = data.take (chunkCount maxPayload data.length * maxPayload) := by
      rw [chunks_flatMap_payload]
    _ = data := List.take_of_length_le (chunkCount_mul_ge (by decide) data.length)

variable {p id data} in
/-- A data packet lies inside the image. -/
theorem mem_dataPackets {d : Datagram} (hd : d ∈ dataPackets p id data) :
    ∃ k, k * maxPayload < data.length ∧
      d = header p id (1 + k) ++ (data.drop (k * maxPayload)).take maxPayload := by
  obtain ⟨f, hf, rfl⟩ := List.mem_map.mp hd
  obtain ⟨k, hk, rfl⟩ := mem_chunks.mp hf
  refine ⟨k, ?_, rfl⟩
  by_contra hle
  have hcount : chunkCount maxPayload data.length ≤ k :=
    chunkCount_le (by decide) (Nat.le_of_not_lt hle)
  omega

/-- Up to 65535 packets are numbered apart from each other and from the size packet. -/
theorem dataPackets_fragmented (hfits : data.length ≤ 65535 * maxPayload) :
    Fragmented p data (header p id 0 ++ p.store p.sizeT data.length)
      (dataPackets p id data) where
  id := packetIdOf_header p id 0 _
  size := payloadOf_header p id 0 _
  count := by rw [dataPackets, List.length_map, chunks_length]
  payload := by
    intro d hd
    obtain ⟨k, hk, rfl⟩ := mem_dataPackets hd
    have hM : 0 < maxPayload := by decide
    rw [payloadOf_header, List.length_take, List.length_drop]
    omega
  image := dataPackets_image p id data
  same := by
    intro d hd
    obtain ⟨k, -, rfl⟩ := mem_dataPackets hd
    rw [imageIdOf_header, imageIdOf_header]
  increasing := by
    have hcount : chunkCount maxPayload data.length ≤ 65535 := chunkCount_le (by decide) hfits
    have hsame : (List.range' 1 (chunkCount maxPayload data.length)).map (· % 65536) =
        List.range' 1 (chunkCount maxPayload data.length) := by
      have hid : ∀ seq ∈ List.range' 1 (chunkCount maxPayload data.length),
          seq % 65536 = seq := by
        intro seq hseq
        rw [List.mem_range'_1] at hseq
        exact Nat.mod_eq_of_lt (by omega)
      calc _ = (List.range' 1 (chunkCount maxPayload data.length)).map fun seq => seq :=
            List.map_congr_left hid
        _ = _ := List.map_id _
    rw [dataPackets_ids, hsame]
    exact List.pairwise_lt_range'
  nonzero := by
    intro d hd
    obtain ⟨k, hk, rfl⟩ := mem_dataPackets hd
    have hlast : k < 65535 := Nat.lt_of_mul_lt_mul_right (hk.trans_le hfits)
    rw [packetIdOf_header, Nat.mod_eq_of_lt (by omega)]
    omega

/-- The packet behind the 65535-th one carries the id of a size packet. -/
theorem dataPackets_wrap (hlong : 65535 * maxPayload < data.length) :
    ∃ d ∈ dataPackets p id data, packetIdOf p d = 0 := by
  have hcount : 65535 < chunkCount maxPayload data.length := by
    by_contra hle
    have hge := chunkCount_mul_ge (by decide : 0 < maxPayload) data.length
    have hmul := Nat.mul_le_mul_right maxPayload (Nat.le_of_not_lt hle)
    omega
  refine ⟨_, List.mem_map_of_mem (mem_chunks.mpr ⟨65535, hcount, rfl⟩), ?_⟩
  exact packetIdOf_header p id (1 + 65535) _

end Packets

/-- The datagrams sent for an image are one size packet and data packets. -/
def Unambiguous (p : Platform) (data : List Byte) (sent : List Datagram) : Prop :=
  ∃ first packets, sent = first :: packets ∧ Fragmented p data first packets

theorem ambiguous_of_long (p : Platform) (n id : ℕ) {data : List Byte}
    (hlong : 65535 * maxPayload < data.length) :
    ¬ Unambiguous p data (sendImage p reliable n id data).1 := by
  rintro ⟨first, packets, hsent, hfragmented⟩
  rw [sendImage_packets] at hsent
  obtain ⟨-, rfl⟩ := List.cons.inj hsent
  obtain ⟨d, hd, hzero⟩ := dataPackets_wrap p id data hlong
  exact hfragmented.nonzero d hd hzero

/-- An image is sent unambiguously exactly when 16 bits number its packets. -/
theorem fragmentation_unambiguous_iff (p : Platform) (n id : ℕ) (data : List Byte) :
    Unambiguous p data (sendImage p reliable n id data).1 ↔
      data.length ≤ 65535 * maxPayload := by
  constructor
  · intro h
    by_contra hlong
    exact ambiguous_of_long p n id (Nat.lt_of_not_le hlong) h
  · intro hfits
    exact ⟨_, _, sendImage_packets p id data n, dataPackets_fragmented p id data hfits⟩

/-- The 65536-th data packet of this image carries the id of a size packet. -/
theorem fragmentation_wraps :
    ¬ Unambiguous ⟨.eight, .little⟩ (List.replicate (65535 * maxPayload + 1) 0)
      (sendImage ⟨.eight, .little⟩ reliable 0 0
        (List.replicate (65535 * maxPayload + 1) 0)).1 := by
  apply ambiguous_of_long
  rw [List.length_replicate]
  exact Nat.lt_succ_self _

end Rckam.CameraController
