import Rckam.Preview.Refinement

/-! Successive calls of `readPreview` that receive datagrams of any sender. -/
namespace Rckam.ImageLoader
open Reassembly (chunkCount chunkCount_mul_ge)
open CameraController

variable {β : Type} [Octet β]

/-- The thread in its `i`-th call of `readPreview`, at the start of an iteration of the receive
loop. -/
structure Reading (β : Type) where
  i : ℕ
  buffers : Fin 2 → List β
  locals : Locals β

namespace Reading

/-- The start of the `i`-th call. -/
def call (header : ℕ → List β) (i : ℕ) (loader : ImageLoader β) : Reading β where
  i := i
  buffers := loader.buffers
  locals := enter (header i) (loader.buffers (Fin.ofNat 2 i)) loader.currentImageId

/-- The next iteration, which is the first one of the next call when the image is complete. -/
def receive (p : Platform) (header : ℕ → List β) (x : Reading β) (bytes : List β) :
    Option (Reading β) :=
  match iteration p x.locals (.datagram bytes) with
  | .again s => some { x with locals := s }
  | .done s =>
      some (call header (x.i + 1)
        ⟨Function.update x.buffers (Fin.ofNat 2 x.i) (resize s.data s.byteCount),
          s.currentImageId⟩)
  | _ => none

def run (p : Platform) (header : ℕ → List β) (x : Reading β) : List (List β) → Option (Reading β)
  | [] => some x
  | bytes :: rest => (x.receive p header bytes).bind fun x => run p header x rest

theorem run_append (p : Platform) (header : ℕ → List β) (x : Reading β)
    (front rest : List (List β)) :
    x.run p header (front ++ rest) = (x.run p header front).bind fun x => x.run p header rest := by
  induction front generalizing x with
  | nil => rfl
  | cons bytes front ih =>
    show (x.receive p header bytes).bind _ = ((x.receive p header bytes).bind _).bind _
    rw [Option.bind_assoc]
    congr 1
    funext x
    exact ih x

end Reading

/-- The receive window and the size read from it lie inside `data`, and the assertion holds
whichever datagram comes next. -/
structure Safe (p : Platform) (s : Locals β) : Prop where
  window : s.offset + maxPayload ≤ s.data.length
  size : s.offset + p.sizeT ≤ s.data.length
  assertion : ∀ bytes, iteration p s (.datagram bytes) ≠ .assertionFailed

/-- Every iteration is safe, also the last one, which waits for a datagram behind the stream. -/
def Survives (p : Platform) (header : ℕ → List β) (x : Reading β) (stream : List (List β)) :
    Prop :=
  ∀ received rest, stream = received ++ rest →
    ∀ x', x.run p header received = some x' → Safe p x'.locals

/-- A datagram from which the receiver takes the size of an image. -/
def Announces (p : Platform) (bytes : List β) (size : ℕ) : Prop :=
  bytes.length = headerSize + p.sizeT ∧ p.load (values ((bytes.drop 2).take 2)) = 0 ∧
    p.load (values (bytes.drop headerSize)) = size

/-- A size that is not zero and can be rounded up in `size_t`. -/
def Admissible (p : Platform) (bytes : List β) : Prop :=
  ∀ size, Announces p bytes size → 1 ≤ size ∧ size + maxPayload ≤ p.limit

/-- The window is inside `data`, and behind an accepted first packet it is a whole packet of the
image. -/
structure Framed (s : Locals β) : Prop where
  window : s.offset + maxPayload ≤ s.data.length
  short : s.discard = false → s.offset < s.byteCount
  aligned : s.discard = false → maxPayload ∣ s.offset
  room : s.discard = false → s.data.length = chunkCount maxPayload s.byteCount * maxPayload

omit [Octet β] in
theorem framed_discarded {s : Locals β} (hw : s.offset + maxPayload ≤ s.data.length)
    (hd : s.discard = true) : Framed s where
  window := hw
  short h := absurd (hd.symm.trans h) Bool.false_ne_true.symm
  aligned h := absurd (hd.symm.trans h) Bool.false_ne_true.symm
  room h := absurd (hd.symm.trans h) Bool.false_ne_true.symm

theorem framed_enter (header data : List β) (id : ℕ) : Framed (enter header data id) :=
  framed_discarded (by simp [enter]) rfl

section Steps
variable {p : Platform} {s : Locals β} {bytes : List β}

omit [Octet β] in
/-- Receiving a datagram changes neither the window nor what it depends on. -/
theorem Framed.receive (h : Framed s) (bytes : List β) : Framed (receiveFrom s bytes) := by
  have hlen := receive_window h.window bytes
  exact {
    window := h.window.trans hlen.ge
    short := h.short
    aligned := h.aligned
    room := fun hd => hlen.trans (h.room hd) }

omit [Octet β] in
/-- The next full packet of the image has a window of its own. -/
theorem Framed.next (h : Framed s) (hd : s.discard = false)
    (hmore : s.offset + maxPayload < s.byteCount) :
    s.offset + maxPayload + maxPayload ≤ s.data.length := by
  have hM : 0 < maxPayload := by decide
  obtain ⟨k, hk⟩ := h.aligned hd
  have hge := chunkCount_mul_ge hM s.byteCount
  have hmul : s.offset = k * maxPayload := by rw [hk, Nat.mul_comm]
  have hlt : (k + 1) * maxPayload < chunkCount maxPayload s.byteCount * maxPayload := by
    rw [Nat.succ_mul, ← hmul]
    omega
  have hcount : k + 1 + 1 ≤ chunkCount maxPayload s.byteCount := Nat.lt_of_mul_lt_mul_right hlt
  calc s.offset + maxPayload + maxPayload = (k + 1 + 1) * maxPayload := by
        rw [hmul, Nat.succ_mul, Nat.succ_mul]
    _ ≤ chunkCount maxPayload s.byteCount * maxPayload := Nat.mul_le_mul_right maxPayload hcount
    _ = s.data.length := (h.room hd).symm

omit [Octet β] in
theorem Framed.expected (h : Framed s) (hd : s.discard = false) (count : ℕ) :
    (∃ s', expectedPacket s count = .again s' ∧ Framed s') ∨
      ∃ s', expectedPacket s count = .done s' := by
  unfold expectedPacket
  by_cases hcount : count = min maxPayload (s.byteCount - s.offset) + headerSize
  · by_cases hdone : s.byteCount = s.offset + min maxPayload (s.byteCount - s.offset)
    · right
      rw [if_neg (not_not.mpr hcount), if_pos hdone]
      exact ⟨_, rfl⟩
    · left
      have hshort := h.short hd
      have hfull : min maxPayload (s.byteCount - s.offset) = maxPayload := by omega
      rw [if_neg (not_not.mpr hcount), if_neg hdone, hfull]
      have hnext := h.next hd (by omega)
      refine ⟨_, rfl, hnext, fun _ => ?_, fun _ => ?_, h.room⟩
      · show s.offset + maxPayload < s.byteCount
        omega
      · exact Nat.dvd_add (h.aligned hd) (Nat.dvd_refl _)
  · left
    rw [if_pos hcount]
    exact ⟨_, rfl, framed_discarded h.window rfl⟩

omit [Octet β] in
theorem Framed.dataPacket (h : Framed s) (count imageId packetId : ℕ) :
    (∃ s', ImageLoader.dataPacket s count imageId packetId = .again s' ∧ Framed s') ∨
      ∃ s', ImageLoader.dataPacket s count imageId packetId = .done s' := by
  unfold ImageLoader.dataPacket
  by_cases hskip : s.discard = true ∨ imageId ≠ s.currentImageId ∨ packetId ≠ s.nextPacketId
  · left
    have hw := h.window
    rw [if_pos hskip]
    refine ⟨_, rfl, framed_discarded ?_ rfl⟩
    show 0 + maxPayload ≤ s.data.length
    omega
  · have hd : s.discard = false := Bool.eq_false_iff.mpr fun hd => hskip (Or.inl hd)
    rw [if_neg hskip, if_neg (not_not.mpr (h.short hd))]
    exact h.expected hd count

/-- A whole header and a size of a first packet are read as they arrived. -/
theorem iteration_announces (h : Framed s) {size : ℕ} (hsize : Announces p bytes size) :
    iteration p s (.datagram bytes) = .again
      { receiveFrom s bytes with
        currentImageId := p.load (values (bytes.take 2))
        byteCount := size
        offset := 0
        data := resize (receiveFrom s bytes).data (resizeTo p size)
        nextPacketId := 1
        discard := false } := by
  obtain ⟨hlen, hpacket, hload⟩ := hsize
  have hheader : headerSize ≤ bytes.length := hlen.ge.trans' (Nat.le_add_right _ _)
  obtain ⟨hid, hseq⟩ := receive_header (s := s) hheader
  have hsmall := sizePacket_lt p
  have hcount : min bytes.length maxPacketSize = headerSize + p.sizeT := by omega
  unfold iteration
  rw [if_neg (Nat.not_lt.mpr h.window)]
  simp only [hid, hseq, hpacket, firstPacket, hcount, ne_eq, not_true_eq_false, ↓reduceIte,
    receive_announced h.window hlen, hload]

/-- Any other datagram keeps the size of `data`. -/
theorem Framed.other (h : Framed s) (hother : ∀ size, ¬ Announces p bytes size) :
    (∃ s', iteration p s (.datagram bytes) = .again s' ∧ Framed s') ∨
      ∃ s', iteration p s (.datagram bytes) = .done s' := by
  have hreceive := h.receive bytes
  unfold iteration
  rw [if_neg (Nat.not_lt.mpr h.window)]
  by_cases hfirst : p.load (values (((receiveFrom s bytes).header.drop 2).take 2)) = 0
  · left
    have hsmall := sizePacket_lt p
    have hcount : min bytes.length maxPacketSize ≠ headerSize + p.sizeT := by
      intro hcount
      have hlen : bytes.length = headerSize + p.sizeT := by omega
      obtain ⟨-, hseq⟩ := receive_header (s := s) (hlen.ge.trans' (Nat.le_add_right _ _))
      rw [hseq] at hfirst
      exact hother _ ⟨hlen, hfirst, rfl⟩
    have hw := hreceive.window
    simp only [hfirst, firstPacket, hcount, ne_eq, not_false_eq_true, ↓reduceIte]
    refine ⟨_, rfl, framed_discarded ?_ rfl⟩
    show 0 + maxPayload ≤ (receiveFrom s bytes).data.length
    omega
  · simp only [hfirst, ↓reduceIte]
    exact hreceive.dataPacket _ _ _

theorem framed_announced {header data : List β} {imageId size : ℕ} (hpos : 1 ≤ size)
    (hroom : size + maxPayload ≤ p.limit) :
    Framed
      { header := header
        data := resize data (resizeTo p size)
        offset := 0
        byteCount := size
        currentImageId := imageId
        nextPacketId := 1
        discard := false } := by
  have hrelated := @related_opened β _ p header data imageId size hpos hroom
  obtain ⟨g, -, hg⟩ := hrelated.busy rfl
  exact {
    window := hrelated.window
    short := fun _ => hg.short
    aligned := fun _ => dvd_zero _
    room := fun _ => hg.room }

theorem Framed.step (h : Framed s) (hbytes : Admissible p bytes) :
    (∃ s', iteration p s (.datagram bytes) = .again s' ∧ Framed s') ∨
      ∃ s', iteration p s (.datagram bytes) = .done s' := by
  by_cases hsize : ∃ size, Announces p bytes size
  · obtain ⟨size, hsize⟩ := hsize
    obtain ⟨hpos, hroom⟩ := hbytes size hsize
    left
    exact ⟨_, iteration_announces h hsize, framed_announced hpos hroom⟩
  · exact h.other fun size hsize' => hsize ⟨size, hsize'⟩

theorem Framed.safe (h : Framed s) (p : Platform) : Safe p s where
  window := h.window
  size := by
    have hsmall := sizePacket_lt p
    have hw := h.window
    simp only [maxPayload] at hw
    omega
  assertion := by
    intro bytes hfail
    by_cases hsize : ∃ size, Announces p bytes size
    · obtain ⟨size, hsize⟩ := hsize
      rw [iteration_announces h hsize] at hfail
      contradiction
    · rcases h.other fun size hsize' => hsize ⟨size, hsize'⟩ with ⟨s', hagain, -⟩ | ⟨s', hdone⟩
      · rw [hagain] at hfail
        contradiction
      · rw [hdone] at hfail
        contradiction

/-- A size that is zero, or too large to be rounded up, leaves no room for a packet. -/
theorem resizeTo_inadmissible {size : ℕ} (hsize : size < p.limit)
    (h : ¬ (1 ≤ size ∧ size + maxPayload ≤ p.limit)) : resizeTo p size = 0 := by
  have hM : maxPayload ≤ p.limit := by
    have hlimit := p.limit_ge
    have hsmall : maxPayload ≤ 2 ^ 32 := by decide
    omega
  have hlow : (size + maxPayload - 1) % p.limit < maxPayload := by
    by_cases hzero : size = 0
    · have hpos : 0 < maxPayload := by decide
      rw [Nat.mod_eq_of_lt (by omega)]
      omega
    · rw [Nat.mod_eq_sub_mod (by omega), Nat.mod_eq_of_lt (by omega)]
      omega
  unfold resizeTo
  rw [Nat.div_eq_of_lt hlow, Nat.zero_mul]

theorem iteration_inadmissible (h : Framed s) (hbytes : ¬ Admissible p bytes) :
    ∃ s', iteration p s (.datagram bytes) = .again s' ∧ ¬ Safe p s' := by
  obtain ⟨size, hnot⟩ := not_forall.mp hbytes
  obtain ⟨hsize, hbad⟩ := Classical.not_imp.mp hnot
  have hlt : size < p.limit := by
    obtain ⟨hlen, -, rfl⟩ := hsize
    have hload := p.load_lt (values (bytes.drop headerSize))
    have hcount : (values (bytes.drop headerSize)).length = p.sizeT := by
      rw [values_length, List.length_drop]
      omega
    rw [hcount] at hload
    exact hload
  refine ⟨_, iteration_announces h hsize, fun hsafe => ?_⟩
  have hw := hsafe.window
  rw [resizeTo_inadmissible hlt hbad, resize_length] at hw
  have hpos : 0 < maxPayload := by decide
  omega

end Steps

section Runs
variable {p : Platform} (header : ℕ → List β) {x : Reading β}

theorem Framed.received (h : Framed x.locals) {bytes : List β} (hbytes : Admissible p bytes) :
    ∃ x', x.receive p header bytes = some x' ∧ Framed x'.locals := by
  unfold Reading.receive
  rcases h.step hbytes with ⟨s', hagain, hs'⟩ | ⟨s', hdone⟩
  · rw [hagain]
    exact ⟨_, rfl, hs'⟩
  · rw [hdone]
    exact ⟨_, rfl, framed_enter _ _ _⟩

theorem Framed.run (h : Framed x.locals) {stream : List (List β)}
    (hstream : ∀ bytes ∈ stream, Admissible p bytes) :
    ∃ x', x.run p header stream = some x' ∧ Framed x'.locals := by
  induction stream generalizing x with
  | nil => exact ⟨x, rfl, h⟩
  | cons bytes stream ih =>
    obtain ⟨hbytes, hrest⟩ := List.forall_mem_cons.mp hstream
    obtain ⟨x', hx', h'⟩ := h.received header hbytes
    obtain ⟨y, hy, hframed⟩ := ih h' hrest
    refine ⟨y, ?_, hframed⟩
    show (x.receive p header bytes).bind _ = _
    rw [hx']
    exact hy

theorem Framed.survives (h : Framed x.locals) {stream : List (List β)}
    (hstream : ∀ bytes ∈ stream, Admissible p bytes) : Survives p header x stream := by
  rintro received rest rfl x' hx'
  obtain ⟨y, hy, hframed⟩ := h.run header fun bytes hbytes =>
    hstream bytes (List.mem_append_left rest hbytes)
  obtain rfl : y = x' := Option.some.inj (hy.symm.trans hx')
  exact hframed.safe p

/-- The iteration behind the first inadmissible size is not safe. -/
theorem Framed.not_survives (h : Framed x.locals) {front rest : List (List β)} {bytes : List β}
    (hfront : ∀ bytes ∈ front, Admissible p bytes) (hbytes : ¬ Admissible p bytes) :
    ¬ Survives p header x (front ++ bytes :: rest) := by
  intro hsurvives
  obtain ⟨x', hx', hframed⟩ := h.run header hfront
  obtain ⟨s', hagain, hunsafe⟩ := iteration_inadmissible hframed hbytes
  have hsplit : front ++ bytes :: rest = (front ++ [bytes]) ++ rest := by simp
  have hrun : x.run p header (front ++ [bytes]) = some { x' with locals := s' } := by
    rw [Reading.run_append, hx']
    show (x'.receive p header bytes).bind _ = _
    unfold Reading.receive
    rw [hagain]
    rfl
  exact hunsafe (hsurvives _ rest hsplit _ hrun)

end Runs

/-- The first element that does not have a property. -/
theorem exists_first_not {α : Type} {P : α → Prop} {l : List α} (h : ¬ ∀ a ∈ l, P a) :
    ∃ front a rest, l = front ++ a :: rest ∧ (∀ b ∈ front, P b) ∧ ¬ P a := by
  induction l with
  | nil => exact absurd (fun a ha => absurd ha List.not_mem_nil) h
  | cons a l ih =>
    by_cases ha : P a
    · obtain ⟨front, b, rest, rfl, hfront, hb⟩ := ih fun hl => h (List.forall_mem_cons.mpr ⟨ha, hl⟩)
      exact ⟨a :: front, b, rest, rfl, List.forall_mem_cons.mpr ⟨ha, hfront⟩, hb⟩
    · exact ⟨[], a, l, rfl, fun b hb => absurd hb List.not_mem_nil, ha⟩

/-- The calls of `readPreview` survive a sequence of datagrams exactly when every size announced
in it is admissible. -/
theorem survives_iff (p : Platform) (header : ℕ → List β) (i : ℕ) (loader : ImageLoader β)
    (stream : List (List β)) :
    Survives p header (.call header i loader) stream ↔ ∀ bytes ∈ stream, Admissible p bytes := by
  have hframed : Framed (Reading.call header i loader).locals := framed_enter _ _ _
  constructor
  · intro hsurvives
    by_contra hnot
    obtain ⟨front, bytes, rest, rfl, hfront, hbytes⟩ := exists_first_not hnot
    exact hframed.not_survives header hfront hbytes hsurvives
  · exact hframed.survives header

/-- A first packet that announces an image of no bytes. -/
theorem zero_size_unsafe :
    ¬ Survives ⟨.eight, .little⟩ (fun _ => []) (.call (fun _ => []) 0 ⟨fun _ => [], 65535⟩)
      [List.replicate 12 (0 : Byte)] := by
  have hfront : ∀ bytes ∈ ([] : List Datagram), Admissible ⟨.eight, .little⟩ bytes :=
    fun bytes hbytes => absurd hbytes List.not_mem_nil
  refine (framed_enter _ _ _).not_survives (fun _ => []) hfront fun hadmissible => ?_
  have hpos := (hadmissible 0 ⟨by decide, by decide, by decide⟩).1
  contradiction

end Rckam.ImageLoader
