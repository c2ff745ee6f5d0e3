import Rckam.Library.Losses
import Rckam.Preview.Refinement

/-! What `readPreview` returns of a run of images sent over an unreliable network. -/
namespace Rckam.Preview
open Reassembly CameraController ImageLoader Losses

/-- The datagrams sent for a run of images, one list for each image. -/
def sent (p : Platform) (images : List Image) : List (List Datagram) :=
  (transferData p reliable (images.map Image.bytes)).1

theorem sent_eq (p : Platform) (images : List Image) :
    sent p images = images.zipIdx.map fun x => imageDatagrams p x.2 x.1.bytes := by
  rw [sent, transferData_reliable, List.zipIdx_map, List.map_map]
  rfl

/-- The size packet and the data packets of an image. -/
def datagramCount (image : Image) : ℕ := chunkCount maxPayload image.bytes.length + 1

theorem imageDatagrams_length (p : Platform) (i : ℕ) (image : Image) :
    (imageDatagrams p i image.bytes).length = datagramCount image := by
  rw [imageDatagrams_eq, List.length_map, fragments, List.length_cons, chunks_length,
    datagramCount]

section Usable
variable {β γ : Type} [Octet β] [Octet γ] (p : Platform)

/-- Reading a datagram does not depend on what its bytes carry besides their values. -/
theorem decodeFrame_map {f : β → γ} (hf : ∀ b, Octet.value (f b) = Octet.value b)
    (bytes : List β) : decodeFrame p (bytes.map f) = (decodeFrame p bytes).map f := by
  have hvalues : Octet.value ∘ f = (Octet.value : β → Byte) := funext hf
  have hread (l : List β) : values (l.map f) = values l := by
    rw [values, List.map_map, hvalues, values]
  simp only [decodeFrame, ← List.map_take, ← List.map_drop, hread, List.length_map]
  split_ifs <;> rfl

theorem decodeFrame_values (bytes : List β) :
    decodeFrame p (values bytes) = (decodeFrame p bytes).map Octet.value :=
  decodeFrame_map p (f := (Octet.value : β → Byte)) (fun _ => rfl) bytes

theorem usable_values {bytes : List β} (h : Usable p (values bytes)) : Usable p bytes := by
  refine ⟨by simpa using h.1, fun id total hstart => h.2 id total ?_⟩
  rw [decodeFrame_values, hstart]
  rfl

variable {p}

theorem decode_mem {i : ℕ} {image : Image} {d : Datagram}
    (hd : d ∈ imageDatagrams p i image.bytes) :
    decodeFrame p d ∈ fragments maxPayload (i % 65536) image.bytes := by
  rw [← decode_imageDatagrams p]
  exact List.mem_map_of_mem hd

/-- What is sent can be received. -/
theorem usable_sent {i : ℕ} {image : Image} {d : Datagram}
    (hd : d ∈ imageDatagrams p i image.bytes) : Usable p d := by
  constructor
  · rw [imageDatagrams_eq] at hd
    obtain ⟨f, hf, rfl⟩ := List.mem_map.mp hd
    rw [fragments, List.mem_cons] at hf
    rcases hf with rfl | hf
    · simp [encodeFrame]
    · obtain ⟨k, -, rfl⟩ := mem_chunks.mp hf
      simp [encodeFrame]
  · intro id total hstart
    have hf := decode_mem hd
    rw [hstart, fragments, List.mem_cons] at hf
    rcases hf with hf | hf
    · obtain ⟨-, rfl⟩ := Frame.start.inj hf
      exact ⟨image.nonempty, image.room p⟩
    · obtain ⟨k, -, hf⟩ := mem_chunks.mp hf
      contradiction

end Usable

/-! ### A network that loses datagrams -/

/-- The datagrams that arrive when the `k`-th datagram of the `i`-th image is lost according to
`lost i k`, and the others keep their order. -/
def delivered (p : Platform) (images : List Image) (lost : ℕ → ℕ → Bool) : List Datagram :=
  ((sent p images).zipIdx.map fun x => survivors (lost x.2) x.1).flatten

/-- No datagram of the image was lost. -/
def Intact (lost : ℕ → Bool) (image : Image) : Prop :=
  ∀ k < datagramCount image, lost k = false

/-- Every datagram of the image was lost. -/
def Gone (lost : ℕ → Bool) (image : Image) : Prop :=
  ∀ k < datagramCount image, lost k = true

instance (lost : ℕ → Bool) (image : Image) : Decidable (Intact lost image) :=
  inferInstanceAs (Decidable (∀ k < datagramCount image, lost k = false))

instance (lost : ℕ → Bool) (image : Image) : Decidable (Gone lost image) :=
  inferInstanceAs (Decidable (∀ k < datagramCount image, lost k = true))

/-- The images none of whose datagrams was lost, in sending order. -/
def intactImages (images : List Image) (lost : ℕ → ℕ → Bool) : List (List Byte) :=
  (images.zipIdx.filter fun x => decide (Intact (lost x.2) x.1)).map fun x => x.1.bytes

/-- Among any `n` consecutive images of the run, one is not entirely lost. -/
def OutagesBelow (n : ℕ) (images : List Image) (lost : ℕ → ℕ → Bool) : Prop :=
  ∀ i, i + n ≤ images.length →
    ∃ x ∈ images.zipIdx, i ≤ x.2 ∧ x.2 < i + n ∧ ¬ Gone (lost x.2) x.1

/-- The frames that arrive of one image. -/
def arrival (p : Platform) (lost : ℕ → ℕ → Bool) (x : Image × ℕ) : Part maxPayload ℕ Byte where
  id := x.2 % 65536
  message := x.1.bytes
  delivered := (survivors (lost x.2) (imageDatagrams p x.2 x.1.bytes)).map (decodeFrame p)
  nonempty := x.1.bytes_ne_nil
  sublist := by
    have h := (survivors_sublist (lost x.2) (imageDatagrams p x.2 x.1.bytes)).map (decodeFrame p)
    rwa [decode_imageDatagrams] at h

theorem arrival_seen (p : Platform) (lost : ℕ → ℕ → Bool) (x : Image × ℕ) :
    (arrival p lost x).seen = !decide (Gone (lost x.2) x.1) := by
  have h := survivors_eq_nil (lost x.2) (imageDatagrams p x.2 x.1.bytes)
  rw [imageDatagrams_length] at h
  have hgone : Gone (lost x.2) x.1 ↔
      survivors (lost x.2) (imageDatagrams p x.2 x.1.bytes) = [] := h.symm
  have hempty : (arrival p lost x).delivered.isEmpty =
      (survivors (lost x.2) (imageDatagrams p x.2 x.1.bytes)).isEmpty := List.isEmpty_map
  show (!(arrival p lost x).delivered.isEmpty) = _
  rw [hempty, Bool.not_inj_iff, Bool.eq_iff_iff, List.isEmpty_iff, decide_eq_true_iff]
  exact hgone.symm

theorem arrival_intact (p : Platform) (lost : ℕ → ℕ → Bool) (x : Image × ℕ) :
    (arrival p lost x).intact = decide (Intact (lost x.2) x.1) := by
  have h := survivors_length_iff (lost x.2) (imageDatagrams p x.2 x.1.bytes)
  have hlen := congrArg List.length (decode_imageDatagrams p x.2 x.1)
  rw [imageDatagrams_length] at h
  rw [List.length_map, imageDatagrams_length] at hlen
  have hintact : Intact (lost x.2) x.1 ↔
      (survivors (lost x.2) (imageDatagrams p x.2 x.1.bytes)).length = datagramCount x.1 := h.symm
  rw [Part.intact, decide_eq_decide.mpr hintact, arrival, List.length_map, ← hlen]
  rfl

theorem delivered_frames (p : Platform) (images : List Image) (lost : ℕ → ℕ → Bool) :
    (delivered p images lost).map (decodeFrame p) =
      (images.zipIdx.map (arrival p lost)).flatMap Part.delivered := by
  rw [delivered, sent_eq, zipIdx_map_zipIdx, List.map_map, List.map_flatten, List.map_map,
    List.flatMap_map, List.flatMap_def]
  rfl

theorem delivered_usable {p : Platform} {images : List Image} {lost : ℕ → ℕ → Bool}
    {d : Datagram} (hd : d ∈ delivered p images lost) : Usable p d := by
  rw [delivered, sent_eq, zipIdx_map_zipIdx, List.map_map] at hd
  obtain ⟨ds, hds, hd⟩ := List.mem_flatten.mp hd
  obtain ⟨x, -, rfl⟩ := List.mem_map.mp hds
  exact usable_sent ((survivors_sublist _ _).subset hd)

/-- Neighbours among the images of which something arrives have different 16-bit ids. -/
theorem arrivals_distinct (p : Platform) {images : List Image} {lost : ℕ → ℕ → Bool}
    (houtage : OutagesBelow 65535 images lost) :
    ((images.zipIdx.map (arrival p lost)).filter Part.seen).IsChain
      fun a b => a.id ≠ b.id := by
  rw [List.filter_map, List.isChain_map]
  refine (zipIdx_filter_isChain images (Part.seen ∘ arrival p lost) 0).imp_of_mem_imp ?_
  rintro x y - hy ⟨hlt, hbetween⟩ hid
  have hylen : y.2 < images.length := by
    simpa using List.snd_lt_of_mem_zipIdx (List.mem_of_mem_filter hy)
  change x.2 % 65536 = y.2 % 65536 at hid
  obtain ⟨z, hz, hxz, hzy, hgone⟩ := houtage (x.2 + 1) (by omega)
  have hunseen := hbetween z hz (by omega) (by omega)
  rw [Function.comp_apply, arrival_seen] at hunseen
  simp [hgone] at hunseen

/-- Over a network that only loses datagrams, and never all the datagrams of 65535 consecutive
images, the calls return exactly the intact images, in sending order. -/
theorem lossy_delivery (p : Platform) (images : List Image) (lost : ℕ → ℕ → Bool)
    (header : ℕ → List Byte) (loader : ImageLoader Byte)
    (houtage : OutagesBelow 65535 images lost) :
    previews p header 0 loader ((delivered p images lost).map .datagram) =
      intactImages images lost := by
  have hrun := run_parts (by decide) (images.zipIdx.map (arrival p lost))
    (arrivals_distinct p houtage)
  rw [previews_refines header 0 loader fun d hd => delivered_usable hd, delivered_frames, hrun,
    List.filter_map, List.map_map, intactImages]
  congr 1
  apply List.filter_congr
  intro x _
  exact arrival_intact p lost x

/-- Of two images the second loses its data packet. -/
theorem lossy_delivery_two :
    previews ⟨.eight, .little⟩ (fun _ => []) 0 ⟨fun _ => [], 65535⟩
      ((delivered ⟨.eight, .little⟩ [⟨[1, 2], by decide, by decide⟩, ⟨[3], by decide, by decide⟩]
        fun i k => i == 1 && k == 1).map .datagram) = [[1, 2]] := by
  refine (lossy_delivery ⟨.eight, .little⟩ _ _ (fun _ => []) ⟨fun _ => [], 65535⟩ ?_).trans
    (by decide)
  intro i hi
  simp at hi

/-! ### A network that loses, repeats and reorders datagrams -/

theorem mem_sent {p : Platform} {images : List Image} {d : Datagram}
    (hd : d ∈ (sent p images).flatten) :
    ∃ x ∈ images.zipIdx, d ∈ imageDatagrams p x.2 x.1.bytes := by
  rw [sent_eq] at hd
  obtain ⟨ds, hds, hd⟩ := List.mem_flatten.mp hd
  obtain ⟨x, hx, rfl⟩ := List.mem_map.mp hds
  exact ⟨x, hx, hd⟩

theorem usable_arrived {p : Platform} {images : List Image} {d : Datagram}
    (hd : d ∈ (sent p images).flatten) : Usable p d := by
  obtain ⟨x, -, hx⟩ := mem_sent hd
  exact usable_sent hx

/-- As long as the 16-bit ids are distinct, every buffer returned is an image that was sent,
whichever of the datagrams sent arrive, how often and in which order. -/
theorem reordered_integrity (p : Platform) (images : List Image)
    (hcount : images.length ≤ 65536) (arrived : List Datagram)
    (hsent : ∀ d ∈ arrived, d ∈ (sent p images).flatten) (header : ℕ → List Byte)
    (loader : ImageLoader Byte) :
    ∀ buffer ∈ previews p header 0 loader (arrived.map .datagram),
      ∃ image ∈ images, buffer = image.bytes := by
  intro buffer hbuffer
  rw [previews_refines header 0 loader fun d hd => usable_arrived (hsent d hd)] at hbuffer
  obtain ⟨id, hid, rfl⟩ := run_genuine (by decide)
    (fun id => ((images[id]?).map Image.bytes).getD []) (fun id => id < images.length)
    (fun f hf => by
      obtain ⟨d, hd, rfl⟩ := List.mem_map.mp hf
      obtain ⟨x, hx, hdx⟩ := mem_sent (hsent d hd)
      have hlt : x.2 < images.length := by simpa using List.snd_lt_of_mem_zipIdx hx
      have hget : images[x.2]? = some x.1 := List.mem_zipIdx_iff_getElem?.mp hx
      have hmem := decode_mem hdx
      rw [Nat.mod_eq_of_lt (by omega)] at hmem
      refine ⟨x.2, hlt, ?_⟩
      rw [hget]
      exact hmem) hbuffer
  refine ⟨images[id], List.getElem_mem hid, ?_⟩
  rw [List.getElem?_eq_getElem hid]
  rfl

def threeBytes : Image := ⟨[7, 8, 9], by decide, by decide⟩

/-- The datagrams of one image, in the wrong order and once more in their order. -/
def shuffled : List Datagram :=
  let ds := imageDatagrams ⟨.four, .big⟩ 0 threeBytes.bytes
  ds.reverse ++ ds

theorem reordered_integrity_shuffled :
    [7, 8, 9] ∈ previews ⟨.four, .big⟩ (fun _ => []) 0 ⟨fun _ => [], 0⟩
        (shuffled.map .datagram) ∧
      ∃ image ∈ [threeBytes], [7, 8, 9] = image.bytes := by
  have hsent : ∀ d ∈ shuffled, d ∈ (sent ⟨.four, .big⟩ [threeBytes]).flatten := by
    intro d hd
    rw [sent_eq]
    simpa [shuffled] using hd
  have hmem : [7, 8, 9] ∈ previews ⟨.four, .big⟩ (fun _ => []) 0 ⟨fun _ => [], 0⟩
      (shuffled.map .datagram) := by
    rw [previews_refines _ _ _ fun d hd => usable_arrived (hsent d hd), shuffled,
      List.map_append, List.map_reverse, decode_imageDatagrams]
    decide
  exact ⟨hmem, reordered_integrity _ _ (by decide) shuffled hsent _ _ _ hmem⟩

end Rckam.Preview
