import Rckam.Preview.AnyDatagrams
import Rckam.Preview.Delivery

/-! From every state that the receive loop comes to, the next complete image is received. -/
namespace Rckam.ImageLoader
open Reassembly CameraController

section Loop
variable {p : Platform} {s t : Locals Byte}

theorem readLoop_blocked_append {stream : List (Received Byte)}
    (h : readLoop p s stream = .blocked t) (later : List (Received Byte)) :
    readLoop p s (stream ++ later) = readLoop p t later := by
  induction stream generalizing s with
  | nil =>
    rw [readLoop] at h
    obtain rfl : s = t := Result.blocked.inj h
    rfl
  | cons received stream ih =>
    rw [readLoop] at h
    rw [List.cons_append, readLoop]
    cases hi : iteration p s received with
    | again s' =>
      rw [hi] at h
      exact ih h
    | _ => simp [hi] at h

/-- What arrives after the datagram that completes the image is left to the next call. -/
theorem readLoop_returned_append {stream rest : List (Received Byte)} {data : List Byte} {id : ℕ}
    (h : readLoop p s stream = .returned data id rest) (later : List (Received Byte)) :
    readLoop p s (stream ++ later) = .returned data id (rest ++ later) := by
  induction stream generalizing s with
  | nil =>
    rw [readLoop] at h
    contradiction
  | cons received stream ih =>
    rw [readLoop] at h
    rw [List.cons_append, readLoop]
    cases hi : iteration p s received with
    | again s' =>
      rw [hi] at h
      exact ih h
    | done s' =>
      rw [hi] at h
      obtain ⟨rfl, rfl, rfl⟩ := Result.returned.inj h
      rfl
    | _ => simp [hi] at h

theorem Framed.blocked (h : Framed s) {stream : List Datagram}
    (hstream : ∀ bytes ∈ stream, Admissible p bytes)
    (hblocked : readLoop p s (stream.map .datagram) = .blocked t) : Framed t := by
  induction stream generalizing s with
  | nil =>
    obtain rfl : s = t := Result.blocked.inj hblocked
    exact h
  | cons bytes stream ih =>
    obtain ⟨hbytes, hrest⟩ := List.forall_mem_cons.mp hstream
    rw [List.map_cons, readLoop] at hblocked
    rcases h.step hbytes with ⟨s', hagain, hs'⟩ | ⟨s', hdone⟩
    · rw [hagain] at hblocked
      exact ih hs' hrest hblocked
    · rw [hdone] at hblocked
      contradiction

end Loop

/-- The data packets of an image, and nothing less, complete it. -/
theorem readLoop_packets {p : Platform} {s : Locals Byte} {imageId : ℕ} {image : Image}
    {packets : List Datagram} (hs : Related s (opened (imageId % 65536) image.bytes.length))
    (husable : ∀ bytes ∈ packets, Usable p bytes)
    (hpackets : packets.map (decodeFrame p) = chunks maxPayload (imageId % 65536)
      (chunkCount maxPayload image.bytes.length) 1 image.bytes) :
    ∃ id, readLoop p s (packets.map .datagram) = .returned image.bytes id [] := by
  have hM : 0 < maxPayload := by decide
  have hopened := opened_message (imageId % 65536) image.bytes_ne_nil
  have hrun := run_chunks hM (imageId % 65536) 1 [] image.bytes image.bytes_ne_nil
  rw [hopened] at hs
  rcases readLoop_refines hs husable with
    ⟨data, id, now, rest, rfl, -, hreturned, hnow⟩ | ⟨-, hnone⟩
  · have hlength : now.length + rest.length = chunkCount maxPayload image.bytes.length := by
      have hcount := congrArg List.length hpackets
      rwa [List.length_map, List.length_append, chunks_length] at hcount
    by_cases hrest : rest = []
    · subst hrest
      rw [List.append_nil] at hpackets
      rw [hpackets, hrun] at hnow
      have hdata : image.bytes = data := List.head_eq_of_cons_eq (congrArg Prod.snd hnow)
      rw [hdata]
      exact ⟨id, hreturned⟩
    · -- a part of the packets completes nothing
      exfalso
      have hpos := List.length_pos_iff.mpr hrest
      have hsublist : (now.map (decodeFrame p)).Sublist (chunks maxPayload (imageId % 65536)
          (chunkCount maxPayload image.bytes.length) 1 image.bytes) := by
        rw [← hpackets, List.map_append]
        exact List.sublist_append_left _ _
      have hlost := run_chunks_lossy hM (imageId % 65536) 1 [] image.bytes image.bytes_ne_nil
        hsublist (by rw [List.length_map]; omega)
      rw [hnow] at hlost
      exact absurd hlost.1 (List.cons_ne_nil _ _)
  · rw [hpackets, hrun] at hnone
    exact absurd hnone (List.cons_ne_nil _ _)

/-- The size packet opens the image in every state of the loop. -/
theorem readLoop_image {p : Platform} {s : Locals Byte} (hs : Framed s) (imageId : ℕ)
    (image : Image) :
    ∃ id, readLoop p s ((imageDatagrams p imageId image.bytes).map .datagram) =
      .returned image.bytes id [] := by
  have husable : ∀ bytes ∈ imageDatagrams p imageId image.bytes, Usable p bytes :=
    fun bytes hbytes => Preview.usable_sent hbytes
  have hdecode := decode_imageDatagrams p imageId image
  have hroom := image.room p
  have hload : p.load (p.store p.sizeT image.bytes.length) = image.bytes.length := by
    have hlt : image.bytes.length < p.limit := by
      have hM : 0 < maxPayload := by decide
      omega
    rw [p.load_store]
    exact Nat.mod_eq_of_lt hlt
  have hfirst : Announces p (header p imageId 0 ++ p.store p.sizeT image.bytes.length)
      image.bytes.length := by
    refine ⟨?_, ?_, ?_⟩
    · rw [List.length_append, header_length, Platform.store_length]
    · rw [values_byte, header_drop, p.load_store, Nat.zero_mod]
    · rw [values_byte, List.drop_left' (header_length p imageId 0), hload]
  rw [imageDatagrams_eq, fragments, List.map_cons] at husable hdecode ⊢
  obtain ⟨-, hpackets⟩ := List.cons.inj hdecode
  obtain ⟨-, hrest⟩ := List.forall_mem_cons.mp husable
  have hid : p.load (values ((header p imageId 0 ++
      p.store p.sizeT image.bytes.length).take 2)) = imageId % 65536 := by
    rw [values_byte, header_take]
    exact p.load_store 2 imageId
  rw [List.map_cons, encodeFrame, readLoop, iteration_announces hs hfirst, hid]
  exact readLoop_packets (related_opened image.nonempty hroom) hrest hpackets

/-- Whatever the loop has received before, it returns the next complete image at the last
datagram of the image. -/
theorem resynchronises (p : Platform) (header data : List Byte) (currentImageId : ℕ)
    (garbage : List Datagram) (hgarbage : ∀ bytes ∈ garbage, Admissible p bytes) (s : Locals Byte)
    (hs : readPreview p header data currentImageId (garbage.map .datagram) = .blocked s)
    (imageId : ℕ) (image : Image) (later : List (Received Byte)) :
    ∃ id, readPreview p header data currentImageId
      ((garbage ++ imageDatagrams p imageId image.bytes).map .datagram ++ later) =
        .returned image.bytes id later := by
  have hframed : Framed s := (framed_enter header data currentImageId).blocked hgarbage hs
  obtain ⟨id, hreturned⟩ := readLoop_image (p := p) hframed imageId image
  refine ⟨id, ?_⟩
  unfold readPreview at hs ⊢
  rw [List.map_append, List.append_assoc, readLoop_blocked_append hs]
  exact readLoop_returned_append hreturned later

/-- The size packet of another image of five bytes. -/
def otherStart : Datagram := header ⟨.eight, .little⟩ 9 0 ++ Platform.store ⟨.eight, .little⟩ 8 5

theorem otherStart_announces : Announces ⟨.eight, .little⟩ otherStart 5 := by
  refine ⟨?_, ?_, ?_⟩ <;> decide

/-- In the middle of another image an image of three bytes arrives. -/
theorem resynchronises_inside :
    ∃ id, readPreview ⟨.eight, .little⟩ [] [] 65535
      (([otherStart] ++ imageDatagrams ⟨.eight, .little⟩ 9 Preview.threeBytes.bytes).map
        .datagram ++ []) = .returned Preview.threeBytes.bytes id [] := by
  have hagain := iteration_announces (framed_enter [] [] 65535) otherStart_announces
  obtain ⟨s, hs⟩ : ∃ s, readPreview ⟨.eight, .little⟩ [] [] 65535
      ([otherStart].map .datagram) = .blocked s := by
    unfold readPreview
    rw [List.map_singleton, readLoop, hagain]
    exact ⟨_, rfl⟩
  have hadmissible : ∀ bytes ∈ [otherStart], Admissible ⟨.eight, .little⟩ bytes := by
    intro bytes hbytes size hsize
    obtain rfl := List.mem_singleton.mp hbytes
    obtain rfl : 5 = size := otherStart_announces.2.2.symm.trans hsize.2.2
    exact ⟨by decide, by decide⟩
  exact resynchronises ⟨.eight, .little⟩ [] [] 65535 [otherStart] hadmissible s hs 9
    Preview.threeBytes []

end Rckam.ImageLoader
