import Rckam.Preview.Delivery

/-! When the image ids wrap during an outage: the runs in which `readPreview` puts data packets
of several images into one buffer. -/
namespace Rckam.Preview
open Reassembly CameraController ImageLoader Losses

/-- The `packet`-th datagram sent for the `number`-th image. -/
structure Packet where
  image : Image
  number : ℕ
  packet : ℕ
  inside : packet < datagramCount image

namespace Packet

def datagram (p : Platform) (d : Packet) : Datagram :=
  (imageDatagrams p d.number d.image.bytes).getD d.packet []

/-- The same bytes, with the image they were sent for. -/
def tagged (p : Platform) (d : Packet) : List Tagged := tag d.number (d.datagram p)

/-- The number of image bytes in the data packet `packet` of an image. -/
def payloadSize (image : Image) (packet : ℕ) : ℕ :=
  min maxPayload (image.bytes.length - (packet - 1) * maxPayload)

def frame (d : Packet) : Frame ℕ Tagged :=
  if d.packet = 0 then .start (d.number % 65536) d.image.bytes.length
  else .chunk (d.number % 65536) d.packet
    (tag d.number ((d.image.bytes.drop ((d.packet - 1) * maxPayload)).take maxPayload))

theorem frame_first {d : Packet} (h : d.packet = 0) :
    d.frame = .start (d.number % 65536) d.image.bytes.length := if_pos h

theorem frame_data {d : Packet} (h : d.packet ≠ 0) :
    d.frame = .chunk (d.number % 65536) d.packet
      (tag d.number ((d.image.bytes.drop ((d.packet - 1) * maxPayload)).take maxPayload)) :=
  if_neg h

/-- The image bytes a packet carries. -/
def payload (d : Packet) : List Tagged := d.frame.payload

theorem payload_length {d : Packet} (h : d.packet ≠ 0) :
    d.payload.length = payloadSize d.image d.packet := by
  rw [payload, frame_data h, Frame.payload, tag, List.length_map, List.length_take,
    List.length_drop, payloadSize]

theorem payload_origin {d : Packet} {b : Tagged} (hb : b ∈ d.payload) :
    b.origin = some d.number := by
  by_cases h : d.packet = 0
  · rw [payload, frame_first h] at hb
    contradiction
  · rw [payload, frame_data h, Frame.payload, tag] at hb
    obtain ⟨c, -, rfl⟩ := List.mem_map.mp hb
    rfl

/-- Every data packet carries a byte. -/
theorem payloadSize_pos {d : Packet} (h : d.packet ≠ 0) :
    0 < payloadSize d.image d.packet := by
  have hin := d.inside
  have hM : 0 < maxPayload := by decide
  have hlt : (d.packet - 1) * maxPayload < d.image.bytes.length := by
    by_contra hge
    have hcount := chunkCount_le hM (Nat.le_of_not_lt hge)
    rw [datagramCount] at hin
    omega
  rw [payloadSize]
  omega

theorem getElem_datagram (p : Platform) (d : Packet) :
    (imageDatagrams p d.number d.image.bytes)[d.packet]? = some (d.datagram p) := by
  have hlen : d.packet < (imageDatagrams p d.number d.image.bytes).length := by
    rw [imageDatagrams_length]
    exact d.inside
  rw [datagram, List.getD_eq_getElem?_getD, List.getElem?_eq_getElem hlen]
  rfl

theorem datagram_mem (p : Platform) (d : Packet) :
    d.datagram p ∈ imageDatagrams p d.number d.image.bytes :=
  List.mem_of_getElem? (d.getElem_datagram p)

/-- What `readPreview` reads in a packet. -/
theorem decodeFrame_tagged (p : Platform) (d : Packet) :
    decodeFrame p (d.tagged p) = d.frame := by
  have hget := congrArg (Option.map (decodeFrame p)) (d.getElem_datagram p)
  rw [← List.getElem?_map, decode_imageDatagrams p d.number d.image] at hget
  have htag : decodeFrame p (d.tagged p) =
      (decodeFrame p (d.datagram p)).map fun b => ⟨b, some d.number⟩ :=
    decodeFrame_map p (f := fun b => (⟨b, some d.number⟩ : Tagged)) (fun _ => rfl) (d.datagram p)
  rw [htag]
  cases hk : d.packet with
  | zero =>
    rw [hk] at hget
    obtain h := Option.some.inj hget
    rw [← h, frame_first hk]
    rfl
  | succ k =>
    have hin := d.inside
    rw [hk, datagramCount] at hin
    rw [hk, fragments, List.getElem?_cons_succ, chunks_getElem? _ (by omega)] at hget
    obtain h := Option.some.inj hget
    rw [← h, frame_data (by omega), hk, Nat.add_comm 1 k]
    rfl

theorem usable_tagged (p : Platform) (d : Packet) : Usable p (d.tagged p) := by
  apply usable_values
  rw [tagged, values_tag]
  exact usable_sent (d.datagram_mem p)

end Packet

/-- The packets that arrive, in order. -/
def arrived (images : List Image) (lost : ℕ → ℕ → Bool) : List Packet :=
  images.zipIdx.flatMap fun x =>
    ((List.finRange (datagramCount x.1)).filter fun k : Fin _ => !lost x.2 k).map fun k : Fin _ =>
      ⟨x.1, x.2, k, k.isLt⟩

theorem delivered_eq (p : Platform) (images : List Image) (lost : ℕ → ℕ → Bool) :
    delivered p images lost = (arrived images lost).map (Packet.datagram p) := by
  rw [delivered, sent_eq, zipIdx_map_zipIdx, List.map_map, arrived, List.map_flatMap,
    List.flatMap_def]
  congr 1
  apply List.map_congr_left
  intro x _
  rw [Function.comp_apply, survivors_eq_range _ _ (imageDatagrams_length p x.2 x.1) [],
    List.map_map]
  rfl

theorem arrived_sent {images : List Image} {lost : ℕ → ℕ → Bool} {d : Packet}
    (hd : d ∈ arrived images lost) : (d.image, d.number) ∈ images.zipIdx := by
  obtain ⟨x, hx, hd⟩ := List.mem_flatMap.mp hd
  obtain ⟨k, -, rfl⟩ := List.mem_map.mp hd
  exact hx

/-- `readPreview` takes the packets for one image: a size packet, then as many data packets as
it announces, numbered from one, with its image id and the sizes it announces. -/
structure TakenForWhole (head : Packet) (data : List Packet) : Prop where
  first : head.packet = 0
  numbered : data.map Packet.packet =
    List.range' 1 (chunkCount maxPayload head.image.bytes.length)
  sameId : ∀ d ∈ data, d.number % 65536 = head.number % 65536
  sizes : ∀ d ∈ data, Packet.payloadSize d.image d.packet =
    Packet.payloadSize head.image d.packet

/-- Packets that arrive one after the other and are taken for one image carry bytes of one
image only. -/
def NoSplice (images : List Image) (lost : ℕ → ℕ → Bool) : Prop :=
  ∀ head data, (head :: data) <:+: arrived images lost → TakenForWhole head data →
    ∀ d ∈ data, ∀ d' ∈ data, d.number = d'.number

/-- All bytes of the buffer were sent for one image of the run. -/
def SingleOrigin (images : List Image) (buffer : List Tagged) : Prop :=
  ∃ x ∈ images.zipIdx, ∀ b ∈ buffer, b.origin = some x.2

/-- Data packets numbered from `seq` on with the right id and sizes are the chunks of what they
carry. -/
theorem chunks_of_numbered (id : ℕ) {len seq : ℕ} {data : List Packet} (hseq : 1 ≤ seq)
    (hnum : data.map Packet.packet = List.range' seq (chunkCount maxPayload len))
    (hid : ∀ d ∈ data, d.number % 65536 = id)
    (hsize : ∀ d ∈ data, d.payload.length = min maxPayload (len - (d.packet - seq) * maxPayload)) :
    (data.flatMap Packet.payload).length = len ∧ data.map Packet.frame =
      chunks maxPayload id (chunkCount maxPayload len) seq (data.flatMap Packet.payload) := by
  have hM : 0 < maxPayload := by decide
  induction data generalizing len seq with
  | nil =>
    have hcount : chunkCount maxPayload len = 0 := by
      simpa using (congrArg List.length hnum).symm
    have hle := chunkCount_mul_ge hM len
    rw [hcount, Nat.zero_mul] at hle
    rw [hcount]
    exact ⟨(Nat.le_zero.mp hle).symm, rfl⟩
  | cons d data ih =>
    have hpos : 0 < len := by
      by_contra h0
      obtain rfl : len = 0 := by omega
      rw [chunkCount_zero hM] at hnum
      contradiction
    rw [chunkCount_pos hM hpos, List.range'_succ, List.map_cons] at hnum
    obtain ⟨hd, hrest⟩ := List.cons.inj hnum
    have hlater : ∀ e ∈ data, seq + 1 ≤ e.packet := by
      intro e he
      have hmem := List.mem_map_of_mem (f := Packet.packet) he
      rw [hrest] at hmem
      exact List.left_le_of_mem_range' hmem
    obtain ⟨hlen, hframes⟩ := @ih (len - maxPayload) (seq + 1) (by omega) hrest
      (fun e he => hid e (List.mem_cons_of_mem d he)) fun e he => by
        have hs := hsize e (List.mem_cons_of_mem d he)
        obtain ⟨k, hk⟩ := Nat.exists_eq_add_of_le (hlater e he)
        have hk' : e.packet - seq = k + 1 := by omega
        have hk'' : e.packet - (seq + 1) = k := by omega
        rw [hk', Nat.succ_mul] at hs
        rw [hs, hk'']
        omega
    have hnow : d.payload.length = min maxPayload len := by
      have hs := hsize d List.mem_cons_self
      rwa [hd, Nat.sub_self, Nat.zero_mul, Nat.sub_zero] at hs
    have hne : d.packet ≠ 0 := by omega
    have hframe : d.frame = .chunk id seq d.payload := by
      rw [Packet.payload, Packet.frame_data hne, hid d List.mem_cons_self, hd]
      rfl
    have hsplit : (d.payload ++ data.flatMap Packet.payload).take maxPayload = d.payload ∧
        (d.payload ++ data.flatMap Packet.payload).drop maxPayload =
          data.flatMap Packet.payload := by
      by_cases hfull : maxPayload ≤ len
      · have hM' : d.payload.length = maxPayload := by omega
        exact ⟨List.take_left' hM', List.drop_left' hM'⟩
      · have hnil : data.flatMap Packet.payload = [] := by
          apply List.eq_nil_of_length_eq_zero
          omega
        rw [hnil, List.append_nil]
        exact ⟨List.take_of_length_le (by omega), List.drop_of_length_le (by omega)⟩
    rw [List.flatMap_cons]
    constructor
    · rw [List.length_append, hlen, hnow]
      omega
    · rw [chunkCount_pos hM hpos, chunks, hsplit.1, hsplit.2, List.map_cons, hframe, hframes]

theorem TakenForWhole.numbered_pos {head : Packet} {data : List Packet}
    (h : TakenForWhole head data) : ∀ d ∈ data, d.packet ≠ 0 := by
  intro d hd
  have hmem := List.mem_map_of_mem (f := Packet.packet) hd
  rw [h.numbered] at hmem
  exact Nat.ne_of_gt (List.left_le_of_mem_range' hmem)

/-- Every one of the data packets brings a byte. -/
theorem TakenForWhole.exists_byte {head : Packet} {data : List Packet}
    (h : TakenForWhole head data) {d : Packet} (hd : d ∈ data) : ∃ b, b ∈ d.payload := by
  have hne := h.numbered_pos d hd
  apply List.exists_mem_of_length_pos
  rw [Packet.payload_length hne]
  exact Packet.payloadSize_pos hne

theorem TakenForWhole.data_ne_nil {head : Packet} {data : List Packet}
    (h : TakenForWhole head data) : data ≠ [] := by
  have hM : 0 < maxPayload := by decide
  rintro rfl
  have hnum := h.numbered
  rw [chunkCount_pos hM head.image.nonempty] at hnum
  contradiction

theorem TakenForWhole.fragments {head : Packet} {data : List Packet}
    (h : TakenForWhole head data) :
    (head :: data).map Packet.frame =
      fragments maxPayload (head.number % 65536) (data.flatMap Packet.payload) := by
  obtain ⟨hlen, hframes⟩ := chunks_of_numbered (head.number % 65536) le_rfl h.numbered h.sameId
    fun d hd => by
      rw [Packet.payload_length (h.numbered_pos d hd), h.sizes d hd, Packet.payloadSize]
  rw [List.map_cons, Packet.frame_first h.first, hframes, Reassembly.fragments, hlen]

/-- Packets that read as the fragments of a message are taken for one image, and the message is
what they carry. -/
theorem taken_of_fragments {head : Packet} {data : List Packet} {id : ℕ} {b : List Tagged}
    (h : (head :: data).map Packet.frame = fragments maxPayload id b) :
    TakenForWhole head data ∧ b = data.flatMap Packet.payload := by
  have hM : 0 < maxPayload := by decide
  rw [List.map_cons, fragments] at h
  obtain ⟨hhead, hdata⟩ := List.cons.inj h
  have hfirst : head.packet = 0 := by
    by_contra hne
    rw [Packet.frame_data hne] at hhead
    contradiction
  rw [Packet.frame_first hfirst] at hhead
  obtain ⟨hid, hlen⟩ := Frame.start.inj hhead
  have hchunk : ∀ d ∈ data, d.packet ≠ 0 ∧ d.number % 65536 = id ∧
      d.payload.length = min maxPayload (b.length - (d.packet - 1) * maxPayload) := by
    intro d hd
    have hmem := List.mem_map_of_mem (f := Packet.frame) hd
    rw [hdata] at hmem
    obtain ⟨k, -, hk⟩ := mem_chunks.mp hmem
    have hne : d.packet ≠ 0 := by
      intro h0
      rw [Packet.frame_first h0] at hk
      contradiction
    have hpay : d.payload = (b.drop (k * maxPayload)).take maxPayload := by
      rw [Packet.payload, hk]
      rfl
    rw [Packet.frame_data hne] at hk
    obtain ⟨hnum, hseq, -⟩ := Frame.chunk.inj hk
    have hk' : d.packet - 1 = k := by omega
    refine ⟨hne, hnum, ?_⟩
    rw [hpay, List.length_take, List.length_drop, hk']
  constructor
  · refine ⟨hfirst, ?_, ?_, ?_⟩
    · have hseq := congrArg (List.map Frame.seq) hdata
      rw [chunks_map_seq, List.map_map] at hseq
      rw [hlen, ← hseq]
      apply List.map_congr_left
      intro d hd
      rw [Function.comp_apply, Packet.frame_data (hchunk d hd).1]
      rfl
    · intro d hd
      rw [hid]
      exact (hchunk d hd).2.1
    · intro d hd
      obtain ⟨hne, -, hl⟩ := hchunk d hd
      rw [← Packet.payload_length hne, hl, Packet.payloadSize, hlen]
  · have hpay := congrArg (List.flatMap Frame.payload) hdata
    rw [chunks_flatMap_payload, List.flatMap_map,
      List.take_of_length_le (chunkCount_mul_ge hM b.length)] at hpay
    exact hpay.symm

/-- The stream of the tagged datagrams that arrive. -/
def taggedStream (p : Platform) (images : List Image) (lost : ℕ → ℕ → Bool) :
    List (Received Tagged) :=
  ((arrived images lost).map (Packet.tagged p)).map .datagram

theorem tagged_previews (p : Platform) (images : List Image) (lost : ℕ → ℕ → Bool)
    (header : ℕ → List Tagged) (loader : ImageLoader Tagged) :
    previews p header 0 loader (taggedStream p images lost) =
      (run maxPayload none ((arrived images lost).map Packet.frame)).2 := by
  rw [taggedStream, previews_refines header 0 loader, List.map_map]
  · congr 2
    apply List.map_congr_left
    intro d _
    exact d.decodeFrame_tagged p
  · intro bytes hbytes
    obtain ⟨d, -, rfl⟩ := List.mem_map.mp hbytes
    exact d.usable_tagged p

/-- A buffer is returned exactly when packets taken for one image arrive one after the other
and carry it. -/
theorem mem_tagged_previews {p : Platform} {images : List Image} {lost : ℕ → ℕ → Bool}
    {header : ℕ → List Tagged} {loader : ImageLoader Tagged} {buffer : List Tagged} :
    buffer ∈ previews p header 0 loader (taggedStream p images lost) ↔
      ∃ head data, (head :: data) <:+: arrived images lost ∧ TakenForWhole head data ∧
        buffer = data.flatMap Packet.payload := by
  have hM : 0 < maxPayload := by decide
  rw [tagged_previews, mem_run_iff hM]
  constructor
  · rintro ⟨-, id, hinf⟩
    obtain ⟨seg, hseg, hframes⟩ := List.infix_map_iff.mp hinf
    cases seg with
    | nil => contradiction
    | cons head data =>
      obtain ⟨htaken, hbuffer⟩ := taken_of_fragments hframes.symm
      exact ⟨head, data, hseg, htaken, hbuffer⟩
  · rintro ⟨head, data, hseg, htaken, rfl⟩
    constructor
    · obtain ⟨d, hd⟩ := List.exists_mem_of_ne_nil data htaken.data_ne_nil
      obtain ⟨b, hb⟩ := htaken.exists_byte hd
      exact List.ne_nil_of_mem (List.mem_flatMap.mpr ⟨d, hd, hb⟩)
    · exact ⟨_, htaken.fragments ▸ hseg.map Packet.frame⟩

/-- What the receiver does with tagged bytes is what it does with the bytes. -/
theorem tagged_values (p : Platform) (images : List Image) (lost : ℕ → ℕ → Bool)
    (header : ℕ → List Tagged) (loader : ImageLoader Tagged) (header' : ℕ → List Byte)
    (loader' : ImageLoader Byte) :
    (previews p header 0 loader (taggedStream p images lost)).map values =
      previews p header' 0 loader' ((delivered p images lost).map .datagram) := by
  rw [previews_refines header' 0 loader' fun d hd => delivered_usable hd, tagged_previews,
    delivered_eq, List.map_map]
  have hframes : (arrived images lost).map (decodeFrame p ∘ Packet.datagram p) =
      ((arrived images lost).map Packet.frame).map (Frame.map Octet.value) := by
    rw [List.map_map]
    apply List.map_congr_left
    intro d _
    rw [Function.comp_apply, Function.comp_apply, ← d.decodeFrame_tagged p, ← decodeFrame_values,
      Packet.tagged, values_tag]
  have hrun := run_map (M := maxPayload) Octet.value none ((arrived images lost).map Packet.frame)
  rw [hframes]
  exact (congrArg Prod.snd hrun).symm

theorem single_origin_iff (p : Platform) (images : List Image) (lost : ℕ → ℕ → Bool)
    (header : ℕ → List Tagged) (loader : ImageLoader Tagged) :
    (∀ buffer ∈ previews p header 0 loader (taggedStream p images lost),
      SingleOrigin images buffer) ↔ NoSplice images lost := by
  constructor
  · intro h head data hseg htaken d hd d' hd'
    obtain ⟨x, -, hx⟩ := h _ (mem_tagged_previews.mpr ⟨head, data, hseg, htaken, rfl⟩)
    have horigin : ∀ e ∈ data, e.number = x.2 := by
      intro e he
      obtain ⟨b, hb⟩ := htaken.exists_byte he
      have h1 := Packet.payload_origin hb
      have h2 := hx b (List.mem_flatMap.mpr ⟨e, he, hb⟩)
      exact Option.some.inj (h1.symm.trans h2)
    rw [horigin d hd, horigin d' hd']
  · intro h buffer hbuffer
    obtain ⟨head, data, hseg, htaken, rfl⟩ := mem_tagged_previews.mp hbuffer
    cases data with
    | nil =>
      have hsent := arrived_sent (hseg.subset List.mem_cons_self)
      refine ⟨_, hsent, ?_⟩
      intro b hb
      contradiction
    | cons d data =>
      have hsent := arrived_sent (hseg.subset (List.mem_cons_of_mem head List.mem_cons_self))
      refine ⟨_, hsent, ?_⟩
      intro b hb
      obtain ⟨e, he, hb⟩ := List.mem_flatMap.mp hb
      rw [Packet.payload_origin hb, h head (d :: data) hseg htaken e he d List.mem_cons_self]

/-- The buffers hold bytes of one image each exactly in the runs without a splice. -/
theorem no_mixing_iff (p : Platform) (images : List Image) (lost : ℕ → ℕ → Bool)
    (header : ℕ → List Tagged) (loader : ImageLoader Tagged) (header' : ℕ → List Byte)
    (loader' : ImageLoader Byte) :
    (previews p header 0 loader (taggedStream p images lost)).map values =
        previews p header' 0 loader' ((delivered p images lost).map .datagram) ∧
      ((∀ buffer ∈ previews p header 0 loader (taggedStream p images lost),
        SingleOrigin images buffer) ↔ NoSplice images lost) :=
  ⟨tagged_values p images lost header loader header' loader',
    single_origin_iff p images lost header loader⟩

/-! ### An outage of 65535 images in the middle of an image -/

/-- Only the size packet and the first data packet of image 0, and the last data packet of image
65536, arrive. -/
def outage (number packet : ℕ) : Bool :=
  !((number == 0 && packet ≤ 1) || (number == 65536 && packet == 2))

section Outage
variable {image : Image} (hcount : datagramCount image = 3)

/-- The `packet`-th datagram of the `number`-th image of the run. -/
def outagePacket (number : ℕ) (packet : Fin 3) : Packet :=
  ⟨image, number, packet, packet.isLt.trans_eq hcount.symm⟩

theorem arrived_outage (number : ℕ) :
    (((List.finRange (datagramCount image)).filter fun k : Fin _ => !outage number k).map
      fun k : Fin _ => (⟨image, number, k, k.isLt⟩ : Packet)) =
      ((List.finRange 3).filter fun k : Fin 3 => !outage number k).map
        (outagePacket hcount number) := by
  have h : ∀ (n : ℕ) (hn : n = 3) (hin : ∀ k : Fin n, k < datagramCount image),
      (((List.finRange n).filter fun k : Fin n => !outage number k).map
        fun k : Fin n => (⟨image, number, k, hin k⟩ : Packet)) =
      ((List.finRange 3).filter fun k : Fin 3 => !outage number k).map
        (outagePacket hcount number) := by
    rintro n rfl hin
    rfl
  exact h _ hcount fun k => k.isLt

theorem arrived_during_outage :
    arrived (List.replicate 65537 image) outage =
      [outagePacket hcount 0 0, outagePacket hcount 0 1, outagePacket hcount 65536 2] := by
  have hmiddle : ((List.replicate 65535 image).zipIdx 1).flatMap (fun x =>
      ((List.finRange (datagramCount x.1)).filter fun k : Fin _ => !outage x.2 k).map
        fun k : Fin _ => (⟨x.1, x.2, k, k.isLt⟩ : Packet)) = [] := by
    rw [List.flatMap_eq_nil_iff]
    intro x hx
    have hlow := List.le_snd_of_mem_zipIdx hx
    have hhigh := List.snd_lt_of_mem_zipIdx hx
    rw [List.length_replicate] at hhigh
    have hlost : ∀ k, outage x.2 k = true := by
      intro k
      have h0 : x.2 ≠ 0 := by omega
      have h1 : x.2 ≠ 65536 := by omega
      simp [outage, h0, h1]
    simp [hlost]
  have hsplit : List.replicate 65537 image =
      [image] ++ List.replicate 65535 image ++ [image] := by
    have hone : [image] = List.replicate 1 image := rfl
    rw [hone, List.replicate_append_replicate, List.replicate_append_replicate]
  rw [arrived, hsplit, List.zipIdx_append, List.zipIdx_append, List.flatMap_append,
    List.flatMap_append, List.zipIdx_singleton, List.zipIdx_singleton, List.flatMap_singleton,
    List.flatMap_singleton, List.length_append, List.length_singleton, List.length_replicate,
    arrived_outage hcount, arrived_outage hcount, hmiddle]
  rfl

include hcount in
/-- The data packets of image 0 and of image 65536 are taken for one image. -/
theorem outage_splice : ¬ NoSplice (List.replicate 65537 image) outage := by
  intro h
  have hnumber := h (outagePacket hcount 0 0)
    [outagePacket hcount 0 1, outagePacket hcount 65536 2]
    (by rw [arrived_during_outage hcount]) {
      first := rfl
      numbered := by
        have hdata : chunkCount maxPayload image.bytes.length = 2 := Nat.succ.inj hcount
        change _ = List.range' 1 (chunkCount maxPayload image.bytes.length)
        rw [hdata]
        rfl
      sameId := by simp [outagePacket]
      sizes := by simp [outagePacket] }
    (outagePacket hcount 0 1) (by simp) (outagePacket hcount 65536 2) (by simp)
  contradiction

end Outage

/-- An image of two data packets. -/
def twoPackets : Image where
  bytes := List.replicate 1469 0
  nonempty := by
    rw [List.length_replicate]
    decide
  fits := by
    rw [List.length_replicate]
    decide

theorem twoPackets_count : datagramCount twoPackets = 3 := by
  have hlen : twoPackets.bytes.length = 1469 := List.length_replicate
  rw [datagramCount, hlen]
  rfl

/-- The two halves of a returned buffer were sent for image 0 and for image 65536. -/
theorem mixing_after_outage :
    ¬ ∀ buffer ∈ previews ⟨.eight, .little⟩ (fun _ => []) 0 ⟨fun _ => [], 0⟩
      (taggedStream ⟨.eight, .little⟩ (List.replicate 65537 twoPackets) outage),
      SingleOrigin (List.replicate 65537 twoPackets) buffer := by
  intro h
  exact outage_splice twoPackets_count ((single_origin_iff _ _ _ _ _).mp h)

end Rckam.Preview
