import Rckam.Server.Requests

/-! The bytes of the buffer that `run` and `parse` read for a request. -/
namespace Rckam.Server

/-- The request that the two reads have left in the buffer, with what they counted. -/
structure Arrived where
  count : ℕ
  available : ℕ
  buffer : Buffer

/-- The reading part of an iteration, up to the request. -/
def arrive (b : Buffer) (c : Connection) : Option Arrived :=
  match c.stream.read enumSize with
  | none => none
  | some first =>
    if first.failed ∨ enumSize > first.bytes.length then none
    else match c.available with
    | none => none
    | some available =>
      if available = 0 then some ⟨first.bytes.length, available, b.store first⟩
      else match first.rest.read available with
      | none => none
      | some second =>
        if second.failed ∨ available ≠ second.bytes.length then none
        else some ⟨first.bytes.length, available, (b.store first).store second⟩

/-- The indices of the bytes that are taken from the buffer: the command, what `parse` is given,
and what is echoed. -/
def Arrived.indices (p : Platform) (a : Arrived) : List ℕ :=
  List.range' 0 enumSize ++ List.range' enumSize a.available ++
    if p.load (a.buffer.bytes.take enumSize) = ServerCommand.echoOnly.value then
      List.range' 0 (a.count + a.available)
    else []

def InBounds (p : Platform) (b : Buffer) (c : Connection) : Prop :=
  ∀ a ∈ arrive b c, ∀ i ∈ a.indices p, i < commandBufferSize

/-- After the first read so many bytes are available that they fit the buffer, but not behind a
command, and they all arrive. -/
def Connection.Overlong (c : Connection) : Prop :=
  ∃ available ∈ c.available, commandBufferSize - enumSize < available ∧
    available ≤ commandBufferSize ∧ enumSize + available ≤ c.stream.bytes.length

section Reads
variable {b : Buffer} {c : Connection}

/-- A read without an error has got all of its bytes, or the buffer full of them. -/
theorem read_cases (s : Stream) (n : ℕ) :
    (min n commandBufferSize ≤ s.bytes.length ∧ ∃ r, s.read n = some r ∧ r.error = none ∧
        r.bytes.length = min n commandBufferSize ∧
        r.rest.bytes.length = s.bytes.length - min n commandBufferSize) ∨
      (s.bytes.length < min n commandBufferSize ∧
        ∀ r, s.read n = some r → r.bytes.length = s.bytes.length) := by
  unfold Stream.read
  by_cases h : min n commandBufferSize ≤ s.bytes.length
  · left
    simp only [h, ↓reduceDIte, true_and]
    refine ⟨_, rfl, rfl, ?_, ?_⟩
    · rw [List.length_take, Nat.min_eq_left h]
    · rw [List.length_drop]
  · right
    simp only [h, ↓reduceDIte]
    refine ⟨not_le.mp h, ?_⟩
    cases s.ending <;> simp

theorem not_failed_of_none {r : ReadResult} (h : r.error = none) : ¬ r.failed := by
  rintro ⟨value, hvalue, -⟩
  rw [h] at hvalue
  contradiction

/-- The first read gets a command, or its result is rejected. -/
theorem read_command (s : Stream) :
    (enumSize ≤ s.bytes.length ∧ ∃ first, s.read enumSize = some first ∧
        ¬ (first.failed ∨ enumSize > first.bytes.length) ∧ first.bytes.length = enumSize ∧
        first.rest.bytes.length = s.bytes.length - enumSize) ∨
      (s.bytes.length < enumSize ∧
        ∀ first, s.read enumSize = some first → first.failed ∨ enumSize > first.bytes.length) := by
  have hmin : min enumSize commandBufferSize = enumSize := by decide
  rcases read_cases s enumSize with ⟨hlong, first, hfirst, herror, hcount, hrest⟩ | ⟨hshort, hall⟩
  · rw [hmin] at hlong hcount hrest
    left
    refine ⟨hlong, first, hfirst, ?_, hcount, hrest⟩
    rintro (hfailed | hfew)
    · exact not_failed_of_none herror hfailed
    · omega
  · rw [hmin] at hshort
    right
    refine ⟨hshort, fun first hfirst => Or.inr ?_⟩
    rw [hall first hfirst]
    exact hshort

/-- A read that has got as many bytes as it was asked for. -/
theorem read_exactly {s : Stream} {n : ℕ} {r : ReadResult} (h : s.read n = some r)
    (hlength : n = r.bytes.length) : n ≤ commandBufferSize ∧ n ≤ s.bytes.length := by
  have hfits := r.fits
  refine ⟨hlength.trans_le hfits, ?_⟩
  rcases read_cases s n with ⟨hle, -⟩ | ⟨-, hall⟩
  · omega
  · exact (hlength.trans (hall r h)).le

/-- What arrives has been counted. -/
theorem arrive_some {a : Arrived} (h : arrive b c = some a) :
    a.count = enumSize ∧ c.available = some a.available ∧ a.available ≤ commandBufferSize ∧
      enumSize + a.available ≤ c.stream.bytes.length := by
  unfold arrive at h
  rcases read_command c.stream with ⟨hlong, first, hfirst, hgood, hcount, hrest⟩ | ⟨-, hbad⟩
  · simp only [hfirst, if_neg hgood] at h
    cases havailable : c.available with
    | none => simp [havailable] at h
    | some available =>
      simp only [havailable] at h
      by_cases hzero : available = 0
      · rw [if_pos hzero, Option.some_inj] at h
        subst h
        simp [hcount, hzero, hlong]
      · rw [if_neg hzero] at h
        cases hsecond : first.rest.read available with
        | none => simp [hsecond] at h
        | some second =>
          simp only [hsecond] at h
          split at h
          · contradiction
          · next hboth =>
            rw [Option.some_inj] at h
            subst h
            obtain ⟨hfits, hthere⟩ :=
              read_exactly hsecond (of_not_not fun hne => hboth (Or.inr hne))
            refine ⟨hcount, rfl, hfits, ?_⟩
            show enumSize + available ≤ c.stream.bytes.length
            omega
  · cases hfirst : c.stream.read enumSize with
    | none => simp [hfirst] at h
    | some first =>
      simp only [hfirst, if_pos (hbad first hfirst)] at h
      contradiction

/-- A request arrives when all of its available bytes do. -/
theorem arrive_of_long {available : ℕ} (h : c.available = some available)
    (hfits : available ≤ commandBufferSize) (hlong : enumSize + available ≤ c.stream.bytes.length) :
    ∃ a, arrive b c = some a ∧ a.available = available := by
  unfold arrive
  rcases read_command c.stream with ⟨-, first, hfirst, hgood, -, hrest⟩ | ⟨hshort, -⟩
  · simp only [hfirst, if_neg hgood, h]
    by_cases hzero : available = 0
    · rw [if_pos hzero]
      exact ⟨_, rfl, rfl⟩
    · rw [if_neg hzero]
      rcases read_cases first.rest available with
        ⟨-, second, hsecond, herror, hcount, -⟩ | ⟨hshort, -⟩
      · rw [Nat.min_eq_left hfits] at hcount
        have hboth : ¬ (second.failed ∨ available ≠ second.bytes.length) := by
          rw [hcount]
          simp [not_failed_of_none herror]
        simp only [hsecond, if_neg hboth]
        exact ⟨_, rfl, rfl⟩
      · omega
  · omega

/-- What `receive` comes to is the request that arrives; without one nothing is taken from the
buffer. -/
theorem receive_arrive (p : Platform) (b : Buffer) (c : Connection) :
    (∃ a, arrive b c = some a ∧
        receive p b c = (request p a.buffer a.count a.available, a.buffer)) ∨
      (arrive b c = none ∧ ((receive p b c).1 = .blocked ∨ (receive p b c).1 = .rejected ∨
        (receive p b c).1 = .terminated)) := by
  unfold arrive receive
  cases hfirst : c.stream.read enumSize with
  | none => simp
  | some first =>
    by_cases hfailed : first.failed
    · simp [hfailed]
    · by_cases hshort : enumSize > first.bytes.length
      · simp [hfailed, hshort]
      · cases havailable : c.available with
        | none => simp [hfailed, hshort]
        | some available =>
          by_cases hzero : available = 0
          · simp [hfailed, hshort, hzero]
          · cases hsecond : first.rest.read available with
            | none => simp [hfailed, hshort, hzero, hsecond]
            | some second =>
              by_cases hbad : second.failed ∨ available ≠ second.bytes.length
              · simp [hfailed, hshort, hzero, hsecond, hbad]
              · simp [hfailed, hshort, hzero, hsecond, hbad]

end Reads

theorem indices_inBounds_iff (p : Platform) {a : Arrived} (h : a.count = enumSize) :
    (∀ i ∈ a.indices p, i < commandBufferSize) ↔ enumSize + a.available ≤ commandBufferSize := by
  have hroom : enumSize < commandBufferSize := by decide
  constructor
  · intro hall
    by_cases hzero : a.available = 0
    · omega
    · have hlast : enumSize + (a.available - 1) ∈ a.indices p := by
        unfold Arrived.indices
        simp only [List.mem_append, List.mem_range'_1]
        left
        right
        omega
      have hlt := hall _ hlast
      omega
  · intro hle i hi
    unfold Arrived.indices at hi
    rw [List.mem_append, List.mem_append, List.mem_range'_1, List.mem_range'_1] at hi
    rcases hi with (hi | hi) | hi
    · omega
    · omega
    · split at hi
      · rw [List.mem_range'_1, h] at hi
        omega
      · contradiction

theorem Connection.Overlong.out_of_bounds {c : Connection} (h : c.Overlong) (p : Platform)
    (b : Buffer) : ¬ InBounds p b c := by
  obtain ⟨available, havailable, hlarge, hfits, hlong⟩ := h
  intro hall
  obtain ⟨a, harrive, hcount⟩ := arrive_of_long (b := b) havailable hfits hlong
  have hin := (indices_inBounds_iff p (arrive_some harrive).1).mp (hall a harrive)
  rw [hcount] at hin
  omega

/-- Every byte that is read for a request lies in the buffer, unless the request has more bytes
than the buffer and they are there after the first read. -/
theorem inBounds_iff (p : Platform) (b : Buffer) (c : Connection) :
    InBounds p b c ↔ ¬ c.Overlong := by
  constructor
  · intro hall hlong
    exact hlong.out_of_bounds p b hall
  · intro hshort a harrive
    obtain ⟨hcount, havailable, hfits, hlong⟩ := arrive_some harrive
    rw [indices_inBounds_iff p hcount]
    by_contra hlarge
    have hlast : commandBufferSize - enumSize < a.available :=
      (Nat.sub_lt_iff_lt_add' (by decide)).mpr (not_le.mp hlarge)
    exact hshort ⟨a.available, havailable, hlast, hfits, hlong⟩

/-- The iteration is undefined exactly when a byte is read outside of the buffer. -/
theorem undefined_iff (p : Platform) (b : Buffer) (c : Connection) :
    (receive p b c).1 = .undefined ↔ ¬ InBounds p b c := by
  unfold InBounds
  rcases receive_arrive p b c with ⟨a, harrive, hreceive⟩ | ⟨hnone, hother⟩
  · have hin := indices_inBounds_iff p (arrive_some harrive).1
    have hrequest : request p a.buffer a.count a.available = .undefined ↔
        commandBufferSize < enumSize + a.available := by
      unfold request
      split <;> simp [*]
    rw [hreceive, hrequest, ← not_le, ← hin, harrive]
    simp
  · rw [hnone]
    rcases hother with h | h | h <;> simp [h]

/-- A request of one byte more than the buffer. -/
def longEcho : Connection where
  stream := ⟨List.replicate 513 0, .silent⟩
  available := some 509

theorem longEcho_out_of_bounds : ¬ InBounds ⟨.eight, .little⟩ blankBuffer longEcho := by
  apply Connection.Overlong.out_of_bounds
  refine ⟨509, rfl, by decide, by decide, ?_⟩
  show 513 ≤ (List.replicate 513 0).length
  rw [List.length_replicate]

end Rckam.Server
