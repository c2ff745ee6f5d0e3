import Mathlib.Tactic.Common

/-! Streams of frames. Each frame follows a header of a fixed width, which says how long it is. -/

/-- Headers of `width` elements for the lengths below `limit`. -/
structure Framing (β : Type) where
  width : ℕ
  width_pos : 0 < width
  limit : ℕ
  header : ℕ → List β
  value : List β → ℕ
  header_length : ∀ n, (header n).length = width
  value_header : ∀ n < limit, value (header n) = n
  value_lt : ∀ h, h.length = width → value h < limit
  header_value : ∀ h, h.length = width → header (value h) = h

namespace Framing
variable {β : Type} (c : Framing β)

def frame (data : List β) : List β := c.header data.length ++ data

/-- The frames one after the other. -/
def encode (frames : List (List β)) : List β := frames.flatMap c.frame

/-- The first frame of a stream and what follows it, if the frame is complete. -/
def next (s : List β) : Option (List β × List β) :=
  if c.width ≤ s.length then
    if c.value (s.take c.width) ≤ (s.drop c.width).length then
      some ((s.drop c.width).take (c.value (s.take c.width)),
        (s.drop c.width).drop (c.value (s.take c.width)))
    else none
  else none

/-- A stream cut into frames and a rest in which no frame is complete. -/
structure Cut (s : List β) (frames : List (List β)) (rest : List β) : Prop where
  stream : s = c.encode frames ++ rest
  fit : ∀ data ∈ frames, data.length < c.limit
  incomplete : c.next rest = none

variable {c} {s rest data : List β} {frames : List (List β)}

@[simp] theorem encode_nil : c.encode [] = [] := rfl

@[simp] theorem encode_cons : c.encode (data :: frames) = c.frame data ++ c.encode frames :=
  List.flatMap_cons

theorem next_frame (h : data.length < c.limit) : c.next (c.frame data ++ s) = some (data, s) := by
  have hheader : (c.header data.length).length = c.width := c.header_length _
  have htake : (c.frame data ++ s).take c.width = c.header data.length := by
    rw [frame, List.append_assoc, List.take_left' hheader]
  have hdrop : (c.frame data ++ s).drop c.width = data ++ s := by
    rw [frame, List.append_assoc, List.drop_left' hheader]
  have hwidth : c.width ≤ (c.frame data ++ s).length := by
    simp only [frame, List.length_append, hheader]
    omega
  rw [next, if_pos hwidth, htake, hdrop, c.value_header _ h, if_pos (by simp)]
  simp

/-- What is taken off a stream is a frame. -/
theorem next_eq_some (h : c.next s = some (data, rest)) :
    s = c.frame data ++ rest ∧ data.length < c.limit := by
  unfold next at h
  split at h
  · rename_i hwidth
    have htake : (s.take c.width).length = c.width := List.length_take_of_le hwidth
    split at h
    · rename_i hvalue
      simp only [Option.some.injEq, Prod.mk.injEq] at h
      obtain ⟨rfl, rfl⟩ := h
      have hlength : ((s.drop c.width).take (c.value (s.take c.width))).length =
          c.value (s.take c.width) := List.length_take_of_le hvalue
      rw [frame, hlength, c.header_value _ htake]
      refine ⟨?_, c.value_lt _ htake⟩
      rw [List.append_assoc, List.take_append_drop, List.take_append_drop]
    · cases h
  · cases h

theorem length_frame : (c.frame data).length = c.width + data.length := by
  simp [frame, c.header_length]

theorem Cut.nil (h : c.next s = none) : c.Cut s [] s := ⟨rfl, by simp, h⟩

theorem Cut.cons (h : c.Cut s frames rest) (hdata : data.length < c.limit) :
    c.Cut (c.frame data ++ s) (data :: frames) rest where
  stream := by rw [encode_cons, List.append_assoc, ← h.stream]
  fit := List.forall_mem_cons.mpr ⟨hdata, h.fit⟩
  incomplete := h.incomplete

/-- A stream whose first frame is complete is cut behind it. -/
theorem Cut.uncons (h : c.Cut s (data :: frames) rest) :
    c.next s = some (data, c.encode frames ++ rest) ∧
      c.Cut (c.encode frames ++ rest) frames rest := by
  have hfit := List.forall_mem_cons.mp h.fit
  refine ⟨?_, rfl, hfit.2, h.incomplete⟩
  rw [h.stream, encode_cons, List.append_assoc]
  exact next_frame hfit.1

theorem Cut.of_nil (h : c.Cut s [] rest) : c.next s = none ∧ rest = s := by
  obtain rfl : s = rest := h.stream
  exact ⟨h.incomplete, rfl⟩

/-- Every stream can be cut in exactly one way. -/
theorem cut_unique {frames' : List (List β)} {rest' : List β} (h : c.Cut s frames rest)
    (h' : c.Cut s frames' rest') : frames' = frames ∧ rest' = rest := by
  induction frames generalizing s frames' with
  | nil =>
    obtain ⟨hnone, rfl⟩ := h.of_nil
    cases frames' with
    | nil => exact ⟨rfl, h'.of_nil.2⟩
    | cons data' frames' => cases hnone.symm.trans h'.uncons.1
  | cons data frames ih =>
    obtain ⟨hsome, hcut⟩ := h.uncons
    cases frames' with
    | nil => cases h'.of_nil.1.symm.trans hsome
    | cons data' frames' =>
      obtain ⟨hsome', hcut'⟩ := h'.uncons
      rw [hsome, Option.some.injEq, Prod.mk.injEq] at hsome'
      obtain ⟨rfl, hrest⟩ := hsome'
      rw [← hrest] at hcut'
      obtain ⟨rfl, rfl⟩ := ih hcut hcut'
      exact ⟨rfl, rfl⟩

theorem cut_exists (s : List β) : ∃ frames rest, c.Cut s frames rest := by
  cases hnext : c.next s with
  | none => exact ⟨[], s, .nil hnext⟩
  | some x =>
    obtain ⟨data, after⟩ := x
    obtain ⟨rfl, hdata⟩ := next_eq_some hnext
    have hshorter : after.length < (c.frame data ++ after).length := by
      have hpos := c.width_pos
      simp only [List.length_append, length_frame]
      omega
    obtain ⟨frames, rest, hcut⟩ := cut_exists after
    exact ⟨data :: frames, rest, hcut.cons hdata⟩
termination_by s.length

end Framing
