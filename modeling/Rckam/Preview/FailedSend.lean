import Rckam.Preview.Delivery

/-! A run of images that ends with a send that fails, over a network that loses datagrams. -/
namespace Rckam.Preview
open Reassembly CameraController ImageLoader Losses

/-- What the socket accepts it sends in full: a datagram is not split. -/
def Undivided (socket : Socket) : Prop :=
  ∀ n datagram count, socket n datagram = .ok count → count = datagram.length

theorem reliable_undivided : Undivided reliable := by
  intro n datagram count h
  injection h with h
  exact h.symm

/-- What a step has sent is the front of `full`, and all of it exactly when no send failed. -/
structure Cut {α : Type} (s : Sent α) (full : List α) : Prop where
  front : s.1 <+: full
  all : s.2 = none → s.1 = full
  short : ∀ message, s.2 = some message → s.1.length < full.length

namespace Cut
variable {α : Type} {s : Sent α} {full : List α}

theorem failed (message : String) (a : α) (full : List α) : Cut ([], some message) (a :: full) where
  front := List.nil_prefix
  all := by simp
  short := by simp

theorem cons (h : Cut s full) (a : α) : Cut (a :: s.1, s.2) (a :: full) where
  front := (List.prefix_cons_inj a).mpr h.front
  all := fun hnone => congrArg (a :: ·) (h.all hnone)
  short := fun message hsome => Nat.succ_lt_succ (h.short message hsome)

end Cut

section Cut
variable {p : Platform} {socket : Socket} (hsocket : Undivided socket)
include hsocket

theorem sendData_cut (n imageId : ℕ) (data : List Byte) (offset packetId : ℕ) :
    Cut (sendData p socket n imageId data offset packetId)
      (sendData p reliable n imageId data offset packetId).1 := by
  induction hm : data.length - offset using Nat.strong_induction_on
    generalizing n offset packetId with
  | _ m ih =>
    subst hm
    by_cases hoff : data.length ≤ offset
    · rw [sendData_done p socket n imageId packetId hoff,
        sendData_done p reliable n imageId packetId hoff]
      exact ⟨List.nil_prefix, fun _ => rfl, nofun⟩
    · have hlt : offset < data.length := Nat.lt_of_not_le hoff
      have htake : (data.drop offset).take (min maxPayload (data.length - offset)) =
          (data.drop offset).take maxPayload := by
        rw [← List.length_drop, List.take_eq_take_iff]
        omega
      rw [sendData_step p n imageId packetId hlt, sendData]
      simp only [gt_iff_lt, hlt, ↓reduceIte, htake]
      cases hsend : socket n (header p imageId ((packetId + 1) % 65536) ++
          (data.drop offset).take maxPayload) with
      | error value message => exact Cut.failed _ _ _
      | ok count =>
        have hsize : min maxPayload (data.length - offset) + headerSize = count := by
          rw [hsocket n _ count hsend, List.length_append, header_length, List.length_take,
            List.length_drop]
          omega
        have hpayload : 0 < maxPayload := by decide
        simp only [hsize, ne_eq, not_true_eq_false, ↓reduceIte]
        apply (ih _ _ (n + 1) _ _ rfl).cons
        omega

/-- What is sent of an image. -/
theorem sendImage_cut (n imageId : ℕ) (data : List Byte) :
    Cut (sendImage p socket n imageId data) (imageDatagrams p imageId data) := by
  have hreliable : imageDatagrams p imageId data = (header p imageId 0 ++
      p.store p.sizeT data.length) :: (sendData p reliable (n + 1) imageId data 0 0).1 := by
    rw [imageDatagrams_eq, sendData_reliable]
    rfl
  rw [hreliable, sendImage]
  cases hsend : socket n (header p imageId 0 ++ p.store p.sizeT data.length) with
  | error value message => exact Cut.failed _ _ _
  | ok count =>
    have hsize : p.sizeT + headerSize = count := by
      rw [hsocket n _ count hsend, List.length_append, header_length, Platform.store_length,
        Nat.add_comm]
    simp only [hsize, ne_eq, not_true_eq_false, ↓reduceIte]
    exact (sendData_cut hsocket (n + 1) imageId data 0 0).cons _

/-- All images are sent in full, or the last one that is begun is not. -/
theorem transferLoop_cases (n i : ℕ) (images : List (List Byte)) :
    transferLoop p socket n (i % 4294967296) images =
        ((images.zipIdx i).map fun x => imageDatagrams p x.2 x.1, none) ∨
      ∃ before data after part message, images = before ++ data :: after ∧
        transferLoop p socket n (i % 4294967296) images =
          (((before.zipIdx i).map fun x => imageDatagrams p x.2 x.1) ++ [part], some message) ∧
        part <+: imageDatagrams p (i + before.length) data ∧
        part.length < (imageDatagrams p (i + before.length) data).length := by
  induction images generalizing n i with
  | nil => exact Or.inl rfl
  | cons data images ih =>
    have hid : imageDatagrams p (i % 4294967296) data = imageDatagrams p i data :=
      imageDatagrams_congr p (by omega) data
    have hcut := sendImage_cut hsocket (p := p) n (i % 4294967296) data
    rw [hid] at hcut
    rw [transferLoop]
    cases hnow : (sendImage p socket n (i % 4294967296) data).2 with
    | some message =>
      refine Or.inr ⟨[], data, images, _, message, rfl, rfl, hcut.front, ?_⟩
      exact hcut.short message hnow
    | none =>
      have hnext : (i % 4294967296 + 1) % 4294967296 = (i + 1) % 4294967296 := by omega
      simp only [hcut.all hnow, hnext]
      rcases ih (n + (imageDatagrams p i data).length) (i + 1) with
        hall | ⟨before, data', after, part, message, rfl, hloop, hfront, hshort⟩
      · left
        rw [hall]
        rfl
      · right
        have hlast : i + 1 + before.length = i + (data :: before).length := by
          rw [List.length_cons]
          omega
        rw [hlast] at hfront hshort
        refine ⟨data :: before, data', after, part, message, rfl, ?_, hfront, hshort⟩
        rw [hloop]
        rfl

end Cut

/-- The calls return the intact images when neighbours among the images of which something arrives
have different ids. -/
theorem previews_of_distinct (p : Platform) (images : List Image) (lost : ℕ → ℕ → Bool)
    (header : ℕ → List Byte) (loader : ImageLoader Byte)
    (hdistinct : ((images.zipIdx.map (arrival p lost)).filter Part.seen).IsChain
      fun a b => a.id ≠ b.id) :
    previews p header 0 loader ((delivered p images lost).map .datagram) =
      intactImages images lost := by
  rw [previews_refines header 0 loader fun d hd => delivered_usable hd, delivered_frames,
    run_parts (by decide) _ hdistinct, List.filter_map, List.map_map, intactImages]
  congr 1
  apply List.filter_congr
  intro x _
  exact arrival_intact p lost x

/-- The datagrams that arrive of a run whose sends can fail. -/
def carried (p : Platform) (socket : Socket) (images : List Image) (lost : ℕ → ℕ → Bool) :
    List Datagram :=
  ((transferData p socket (images.map Image.bytes)).1.zipIdx.map fun x =>
    survivors (lost x.2) x.1).flatten

/-- How many images have been sent in full: the last one that was begun was not, if an exception
ended the run. -/
def sentInFull (p : Platform) (socket : Socket) (images : List Image) : ℕ :=
  let run := transferData p socket (images.map Image.bytes)
  if run.2.isSome then run.1.length - 1 else run.1.length

/-- What is lost when also the packets from `n` on of the image number `last` are. -/
def lostFrom (last n : ℕ) (lost : ℕ → ℕ → Bool) (i k : ℕ) : Bool :=
  lost i k || (decide (i = last) && decide (n ≤ k))

section Last
variable {p : Platform} {before : List Image} {image : Image} {n : ℕ} {lost : ℕ → ℕ → Bool}

theorem lostFrom_before {x : Image × ℕ} (hx : x ∈ before.zipIdx) :
    lostFrom before.length n lost x.2 = lost x.2 := by
  have hlt : x.2 < before.length := by simpa using List.snd_lt_of_mem_zipIdx hx
  funext k
  simp [lostFrom, Nat.ne_of_lt hlt]

theorem lostFrom_last :
    lostFrom before.length n lost before.length =
      fun k => lost before.length k || decide (n ≤ k) := by
  funext k
  simp [lostFrom]

/-- An image that is not sent to its end is an image that loses its end. -/
theorem delivered_lostFrom :
    delivered p (before ++ [image]) (lostFrom before.length n lost) =
      delivered p before lost ++
        survivors (lost before.length) ((imageDatagrams p before.length image.bytes).take n) := by
  have hbefore : (before.zipIdx.map fun x =>
        survivors (lostFrom before.length n lost x.2) (imageDatagrams p x.2 x.1.bytes)) =
      before.zipIdx.map fun x => survivors (lost x.2) (imageDatagrams p x.2 x.1.bytes) :=
    List.map_congr_left fun x hx => by rw [lostFrom_before hx]
  simp only [delivered, sent_eq, zipIdx_map_zipIdx, List.map_map, Function.comp_def,
    List.zipIdx_append, List.map_append, List.flatten_append, hbefore]
  simp [lostFrom_last, survivors_take]

theorem delivered_gone (hgone : Gone (lostFrom before.length n lost before.length) image) :
    delivered p (before ++ [image]) (lostFrom before.length n lost) = delivered p before lost := by
  have hlast : survivors (lostFrom before.length n lost before.length)
      (imageDatagrams p before.length image.bytes) = [] := by
    rw [survivors_eq_nil, imageDatagrams_length]
    exact hgone
  rw [lostFrom_last, ← survivors_take] at hlast
  rw [delivered_lostFrom, hlast, List.append_nil]

/-- It is not intact. -/
theorem intactImages_lostFrom (hn : n < datagramCount image) :
    intactImages (before ++ [image]) (lostFrom before.length n lost) =
      intactImages before lost := by
  have hbefore : (before.zipIdx.filter fun x =>
        decide (Intact (lostFrom before.length n lost x.2) x.1)) =
      before.zipIdx.filter fun x => decide (Intact (lost x.2) x.1) :=
    List.filter_congr fun x hx => by rw [lostFrom_before hx]
  have hlast : ¬ Intact (fun k => lost before.length k || decide (n ≤ k)) image := by
    intro hintact
    simpa using hintact n hn
  simp [intactImages, List.zipIdx_append, List.filter_append, hbefore, lostFrom_last, hlast]

/-- When something arrives of the last image it ends no outage. -/
theorem outagesBelow_lostFrom {m : ℕ} (hm : 0 < m) (houtage : OutagesBelow m before lost)
    (harrives : ¬ Gone (lostFrom before.length n lost before.length) image) :
    OutagesBelow m (before ++ [image]) (lostFrom before.length n lost) := by
  intro i hi
  rw [List.length_append, List.length_singleton] at hi
  rw [List.zipIdx_append]
  by_cases hlast : i + m ≤ before.length
  · obtain ⟨x, hx, hlow, hhigh, hgone⟩ := houtage i hlast
    refine ⟨x, List.mem_append_left _ hx, hlow, hhigh, ?_⟩
    rwa [lostFrom_before hx]
  · refine ⟨(image, before.length), List.mem_append_right _ ?_, ?_, ?_, harrives⟩
    · simp
    · show i ≤ before.length
      omega
    · show before.length < i + m
      omega

end Last

section Failing
variable {p : Platform} {socket : Socket}

/-- The run of images goes to its end, or it ends with an image that is not sent to its end. -/
theorem run_cases (hsocket : Undivided socket) (images : List Image) :
    (transferData p socket (images.map Image.bytes) = (sent p images, none) ∧
        sentInFull p socket images = images.length) ∨
      ∃ before image after part message, images = before ++ image :: after ∧
        transferData p socket (images.map Image.bytes) =
          (sent p before ++ [part], some message) ∧
        sentInFull p socket images = before.length ∧
        part <+: imageDatagrams p before.length image.bytes ∧
        part.length < datagramCount image := by
  rcases transferLoop_cases (p := p) hsocket 0 0 (images.map Image.bytes) with
    hall | ⟨before, data, after, part, message, himages, hpart, hfront, hshort⟩
  · have hrun : transferData p socket (images.map Image.bytes) = (sent p images, none) := by
      rw [sent, transferData_reliable]
      exact hall
    refine Or.inl ⟨hrun, ?_⟩
    rw [sentInFull, hrun, sent_eq]
    simp
  · obtain ⟨before, rest, rfl, rfl, hrest⟩ := List.map_eq_append_iff.mp himages
    obtain ⟨image, after, rfl, rfl, rfl⟩ := List.map_eq_cons_iff.mp hrest
    rw [List.length_map, Nat.zero_add] at hfront hshort
    rw [imageDatagrams_length] at hshort
    have hrun : transferData p socket ((before ++ image :: after).map Image.bytes) =
        (sent p before ++ [part], some message) := by
      rw [sent, transferData_reliable]
      exact hpart
    refine Or.inr ⟨before, image, after, part, message, rfl, hrun, ?_, hfront, hshort⟩
    rw [sentInFull, hrun, sent_eq]
    simp

theorem previews_carried (hsocket : Undivided socket) (images : List Image)
    (lost : ℕ → ℕ → Bool) (header : ℕ → List Byte) (loader : ImageLoader Byte)
    (houtage : OutagesBelow 65535 (images.take (sentInFull p socket images)) lost) :
    previews p header 0 loader ((carried p socket images lost).map .datagram) =
      intactImages (images.take (sentInFull p socket images)) lost := by
  rcases run_cases (p := p) hsocket images with
    ⟨hrun, hcount⟩ | ⟨before, image, after, part, message, rfl, hrun, hcount, hfront, hshort⟩
  · rw [hcount, List.take_length] at houtage ⊢
    rw [carried, hrun]
    exact previews_of_distinct p images lost header loader (arrivals_distinct p houtage)
  · have htake : part = (imageDatagrams p before.length image.bytes).take part.length :=
      List.prefix_iff_eq_take.mp hfront
    have hcarried : carried p socket (before ++ image :: after) lost =
        delivered p before lost ++ survivors (lost before.length) part := by
      rw [carried, hrun, delivered, List.zipIdx_append, List.map_append, List.flatten_append]
      simp [sent_eq]
    rw [hcount, List.take_left] at houtage ⊢
    rw [hcarried, htake, ← delivered_lostFrom]
    by_cases hgone : Gone (lostFrom before.length part.length lost before.length) image
    · rw [delivered_gone hgone]
      exact previews_of_distinct p before lost header loader (arrivals_distinct p houtage)
    · rw [← intactImages_lostFrom hshort]
      exact previews_of_distinct p _ _ header loader
        (arrivals_distinct p (outagesBelow_lostFrom (by decide) houtage hgone))

theorem sentInFull_eq_iff (hsocket : Undivided socket) (images : List Image) :
    sentInFull p socket images = images.length ↔
      (transferData p socket (images.map Image.bytes)).2 = none := by
  rcases run_cases (p := p) hsocket images with
    ⟨hrun, hcount⟩ | ⟨before, image, after, part, message, rfl, hrun, hcount, -, -⟩
  · simp [hrun, hcount]
  · rw [hrun, hcount]
    simp

end Failing

/-- When a send fails, and the network loses datagrams but never all those of 65535 consecutive
images, the calls return the images that were sent in full and of which nothing was lost. Those
are all the images exactly when no exception ended the run. -/
theorem failing_delivery (p : Platform) (socket : Socket) (hsocket : Undivided socket)
    (images : List Image) (lost : ℕ → ℕ → Bool) (header : ℕ → List Byte)
    (loader : ImageLoader Byte)
    (houtage : OutagesBelow 65535 (images.take (sentInFull p socket images)) lost) :
    previews p header 0 loader ((carried p socket images lost).map .datagram) =
        intactImages (images.take (sentInFull p socket images)) lost ∧
      (sentInFull p socket images = images.length ↔
        (transferData p socket (images.map Image.bytes)).2 = none) :=
  ⟨previews_carried hsocket images lost header loader houtage, sentInFull_eq_iff hsocket images⟩

/-- The second image cannot be sent to its end. -/
def refusing : Socket := fun n datagram =>
  if n < 3 then .ok datagram.length else .error 101 "Network is unreachable"

theorem refusing_undivided : Undivided refusing := by
  intro n datagram count h
  unfold refusing at h
  split at h
  case isTrue hn =>
    injection h with h
    exact h.symm
  case isFalse hn => contradiction

def twoImages : List Image := [⟨[1, 2], by decide, by decide⟩, ⟨[3], by decide, by decide⟩]

theorem sentInFull_refusing : sentInFull ⟨.eight, .little⟩ refusing twoImages = 1 := by
  simp [sentInFull, twoImages, transferData, transferLoop, sendImage, sendData, refusing,
    maxPayload, maxPacketSize, headerSize, Platform.sizeT]

theorem failing_delivery_refusing :
    previews ⟨.eight, .little⟩ (fun _ => []) 0 ⟨fun _ => [], 65535⟩
        ((carried ⟨.eight, .little⟩ refusing twoImages fun _ _ => false).map .datagram) =
          [[1, 2]] ∧
      (1 = twoImages.length ↔
        (transferData ⟨.eight, .little⟩ refusing (twoImages.map Image.bytes)).2 = none) := by
  have hdelivery := failing_delivery ⟨.eight, .little⟩ refusing refusing_undivided twoImages
    (fun _ _ => false) (fun _ => []) ⟨fun _ => [], 65535⟩
  rw [sentInFull_refusing] at hdelivery
  have houtage : OutagesBelow 65535 (twoImages.take 1) fun _ _ => false := by
    intro i hi
    simp [twoImages] at hi
  obtain ⟨hprevious, hended⟩ := hdelivery houtage
  exact ⟨hprevious.trans (by decide), hended⟩

end Rckam.Preview
