import Rckam.Common.Text
import Rckam.Library.Framing
import Rckam.Library.Outcomes

/-! The image loader of the Qt client, which reads images from a TCP socket and stores each of them
in a file. -/
namespace Rckam.Qt5
open Outcomes

/-- What follows the bytes of the stream: an error of `boost::asio::read` with its message, also
when the stream is closed, or nothing for ever. -/
structure ReadError where
  value : ℤ
  message : List Byte

/-- The platform, what ends the stream, and the tests of the condition of the loop before which
`stop` has been called. -/
structure Environment where
  platform : Platform
  error : Option ReadError
  stops : ℕ → Bool

/-- The bytes still to be read, the files, and what the preview has been given. -/
structure ImageLoader where
  stream : List Byte
  files : List Byte → Option (List Byte)
  shown : List (List Byte)

/-- Why `read` does not return. -/
inductive Halt where
  | rckamException (message : List Byte)
  | filesystemError
  | blocked
  | unfinished

abbrev Action := EStateM Halt ImageLoader

/-- The format `%04d`. -/
def fourDigits (n : ℕ) : List Byte := List.replicate (4 - (decimal n).length) 48 ++ decimal n

/-- `/tmp/preview%04d.jpg`. -/
def previewPath (i : ℕ) : List Byte := text "/tmp/preview" ++ fourDigits i ++ text ".jpg"

section Loader
variable (env : Environment)

/-- `boost::asio::read` with `transfer_exactly`, and the check of its error. -/
def readExactly (what : List Byte) (n : ℕ) : Action (List Byte) := do
  let s ← get
  if n ≤ s.stream.length then
    set { s with stream := s.stream.drop n }
    return s.stream.take n
  else
    set { s with stream := [] }
    match env.error with
    | some error => throw (.rckamException (text "ERROR: failed to read " ++ what ++
        text " from data socket: " ++ signedDecimal error.value ++ text ": " ++ error.message))
    | none => throw .blocked

/-- The body of the loop for image `i`. The preview is given what was in the first file at the
beginning. The file of the image can be opened and written. -/
def iteration (i : ℕ) (data : List Byte) : Action Unit := do
  let size ← readExactly env (text "byte count") env.platform.sizeT
  let image ← readExactly env (text "image data") (env.platform.load size)
  modify fun s => { s with
    files := Function.update s.files (previewPath i) (some image)
    shown := s.shown ++ [data] }

/-- The loop from its `k`-th test on, followed for at most `n` tests. The number of the image is
an `unsigned`. -/
def loop (data : List Byte) : ℕ → ℕ → Action Unit
  | 0, _ => throw .unfinished
  | n + 1, k => do
      if env.stops k then return ()
      iteration env (k % 2 ^ 32) data
      loop data n (k + 1)

/-- `read`, followed for at most `n` tests. `file_size` throws when there is no first file; one that
is there can be read. -/
def read (n : ℕ) : Action Unit := do
  match (← get).files (previewPath 0) with
  | none => throw .filesystemError
  | some data => loop env data n 0

end Loader

/-! ### The files of a stream -/

/-- The stream is a sequence of images, each behind its size as a native `size_t`. -/
def framing (p : Platform) : Framing Byte where
  width := p.sizeT
  width_pos := by rcases p.sizeT_eq with h | h <;> omega
  limit := p.limit
  header n := p.store p.sizeT n
  value := p.load
  header_length n := p.store_length _ n
  value_header n h := (p.load_store _ n).trans (Nat.mod_eq_of_lt h)
  value_lt h hlength := by
    have hlt := p.load_lt h
    rwa [hlength] at hlt
  header_value h hlength := by
    rw [← hlength]
    exact p.order.encode_decode h

section Paths

theorem decimalValue_zeros (k : ℕ) (l : List Byte) :
    decimalValue (List.replicate k 48 ++ l) = decimalValue l := by
  induction k with
  | zero => rfl
  | succ k ih =>
    rw [← ih]
    simp [decimalValue, List.replicate_succ]

theorem previewPath_inj {i j : ℕ} (h : previewPath i = previewPath j) : i = j := by
  have hdigits : fourDigits i = fourDigits j :=
    List.append_cancel_left (List.append_cancel_right h)
  have hvalue := congrArg decimalValue hdigits
  simpa [fourDigits, decimalValue_zeros] using hvalue

/-- A file is not written again before `2 ^ 32` images have been read. -/
theorem previewPath_ne {k i : ℕ} (h : i + 1 < 2 ^ 32) :
    previewPath (k % 2 ^ 32) ≠ previewPath ((k + 1 + i) % 2 ^ 32) := by
  intro hsame
  have hindex := previewPath_inj hsame
  omega

end Paths

/-- Images have been stored from image `k` on, and for each of them the preview has been given
`data`. -/
structure Stored (s : ImageLoader) (data : List Byte) (k : ℕ) (images : List (List Byte))
    (t : ImageLoader) : Prop where
  files : ∀ i < images.length, images.length ≤ i + 2 ^ 32 →
    t.files (previewPath ((k + i) % 2 ^ 32)) = images[i]?
  others : ∀ path, (∀ i < images.length, path ≠ previewPath ((k + i) % 2 ^ 32)) →
    t.files path = s.files path
  shown : t.shown = s.shown ++ List.replicate images.length data

/-- How a stream that is incomplete ends the thread. -/
def Environment.EndsWith (env : Environment) (e : Halt) : Prop :=
  match env.error with
  | some _ => ∃ message, e = .rckamException message
  | none => e = .blocked

section Reading
variable {env : Environment} {s t : ImageLoader} {data image : List Byte}
  {images : List (List Byte)} {k : ℕ}

theorem Stored.nil (hfiles : t.files = s.files) (hshown : t.shown = s.shown) :
    Stored s data k [] t := by
  constructor
  · intro i hi
    cases hi
  · intro path _
    rw [hfiles]
  · simpa using hshown

theorem Stored.cons {u : ImageLoader}
    (hfiles : u.files = Function.update s.files (previewPath (k % 2 ^ 32)) (some image))
    (hshown : u.shown = s.shown ++ [data]) (h : Stored u data (k + 1) images t) :
    Stored s data k (image :: images) t := by
  constructor
  · intro i hi hlast
    rw [List.length_cons] at hi hlast
    cases i with
    | zero =>
      have hkept : t.files (previewPath (k % 2 ^ 32)) = u.files (previewPath (k % 2 ^ 32)) :=
        h.others _ fun j hj => previewPath_ne (by omega)
      simpa [hfiles] using hkept
    | succ i =>
      have hrest := h.files i (by omega) (by omega)
      simpa [Nat.add_assoc, Nat.add_comm 1] using hrest
  · intro path hpath
    have hfirst : path ≠ previewPath (k % 2 ^ 32) := hpath 0 (by simp)
    have hother (i : ℕ) (hi : i < images.length) : path ≠ previewPath ((k + 1 + i) % 2 ^ 32) := by
      have hne := hpath (i + 1) (by simpa using hi)
      simpa [Nat.add_assoc, Nat.add_comm 1] using hne
    rw [h.others path hother, hfiles, Function.update_of_ne hfirst]
  · rw [h.shown, hshown, List.length_cons, List.replicate_succ, List.append_assoc,
      List.singleton_append]

theorem ends_readExactly {what : List Byte} {n : ℕ} {Q : List Byte → ImageLoader → Prop}
    {E : Halt → ImageLoader → Prop}
    (hread : n ≤ s.stream.length → Q (s.stream.take n) { s with stream := s.stream.drop n })
    (hshort : s.stream.length < n → ∀ e, env.EndsWith e → E e { s with stream := [] }) :
    Ends (readExactly env what n) s Q E := by
  unfold readExactly
  apply ends_get_bind
  by_cases hn : n ≤ s.stream.length
  · rw [if_pos hn]
    exact hread hn
  · rw [if_neg hn]
    have hend := hshort (Nat.lt_of_not_le hn)
    unfold Environment.EndsWith at hend
    cases herror : env.error with
    | some error =>
      rw [herror] at hend
      exact hend _ ⟨_, rfl⟩
    | none =>
      rw [herror] at hend
      exact hend _ rfl

/-- An iteration takes the next frame off the stream. -/
theorem iteration_ends (env : Environment) (i : ℕ) (data : List Byte) (s : ImageLoader) :
    Ends (iteration env i data) s
      (fun _ t => ∃ image, (framing env.platform).next s.stream = some (image, t.stream) ∧
        t.files = Function.update s.files (previewPath i) (some image) ∧
        t.shown = s.shown ++ [data])
      (fun e t => (framing env.platform).next s.stream = none ∧ env.EndsWith e ∧
        t.files = s.files ∧ t.shown = s.shown) := by
  have hnext : (framing env.platform).next s.stream =
      if env.platform.sizeT ≤ s.stream.length then
        if env.platform.load (s.stream.take env.platform.sizeT) ≤
            (s.stream.drop env.platform.sizeT).length then
          some ((s.stream.drop env.platform.sizeT).take
              (env.platform.load (s.stream.take env.platform.sizeT)),
            (s.stream.drop env.platform.sizeT).drop
              (env.platform.load (s.stream.take env.platform.sizeT)))
        else none
      else none := rfl
  rw [hnext]
  unfold iteration
  apply Ends.bind (Q := fun size t => env.platform.sizeT ≤ s.stream.length ∧
    size = s.stream.take env.platform.sizeT ∧
    t = { s with stream := s.stream.drop env.platform.sizeT })
  · apply ends_readExactly
    · intro hwidth
      exact ⟨hwidth, rfl, rfl⟩
    · intro hshort e he
      exact ⟨if_neg (Nat.not_le.mpr hshort), he, rfl, rfl⟩
  rintro size t ⟨hwidth, rfl, rfl⟩
  simp only [if_pos hwidth]
  apply Ends.bind (Q := fun image t =>
    env.platform.load (s.stream.take env.platform.sizeT) ≤
      (s.stream.drop env.platform.sizeT).length ∧
    image = (s.stream.drop env.platform.sizeT).take
      (env.platform.load (s.stream.take env.platform.sizeT)) ∧
    t.stream = (s.stream.drop env.platform.sizeT).drop
      (env.platform.load (s.stream.take env.platform.sizeT)) ∧
    t.files = s.files ∧ t.shown = s.shown)
  · apply ends_readExactly
    · intro hvalue
      exact ⟨hvalue, rfl, rfl, rfl, rfl⟩
    · intro hshort e he
      exact ⟨if_neg (Nat.not_le.mpr hshort), he, rfl, rfl⟩
  rintro image t ⟨hvalue, rfl, hstream, hfiles, hshown⟩
  rw [if_pos hvalue, ← hstream]
  exact ends_modify ⟨_, rfl, by rw [hfiles], by rw [hshown]⟩

/-- How the thread ends, with the frames of the stream that are complete. -/
def Environment.Finished (env : Environment) (s : ImageLoader) (data : List Byte) (k : ℕ)
    (images : List (List Byte)) (e : Halt) (t : ImageLoader) : Prop :=
  env.EndsWith e ∧ (∀ j ≤ images.length, env.stops (k + j) = false) ∧ Stored s data k images t

theorem loop_ends (n : ℕ) {rest : List Byte}
    (hcut : (framing env.platform).Cut s.stream images rest) :
    Ends (loop env data n k) s
      (fun _ t => ∃ m < n, m ≤ images.length ∧ env.stops (k + m) = true ∧
        (∀ j < m, env.stops (k + j) = false) ∧ Stored s data k (images.take m) t)
      (fun e t => (e = .unfinished ∧ n ≤ images.length ∧
        ∀ j < n, env.stops (k + j) = false) ∨ env.Finished s data k images e t) := by
  induction n generalizing s k images with
  | zero => exact ends_throw (.inl ⟨rfl, by omega, by simp⟩)
  | succ n ih =>
    unfold loop
    cases hstop : env.stops k with
    | true =>
      rw [if_pos rfl]
      refine ends_pure ⟨0, by omega, by omega, hstop, by simp, ?_⟩
      exact .nil rfl rfl
    | false =>
      rw [if_neg (by simp)]
      have hbefore {m : ℕ} (h : ∀ j < m, env.stops (k + 1 + j) = false) :
          ∀ j < m + 1, env.stops (k + j) = false := by
        intro j hj
        cases j with
        | zero => exact hstop
        | succ j =>
          have hj' := h j (by omega)
          rwa [Nat.add_right_comm, Nat.add_assoc] at hj'
      apply Ends.bind ((iteration_ends env (k % 2 ^ 32) data s).mono (fun _ _ h => h) ?_)
      · rintro _ u ⟨image, hnext, hfiles, hshown⟩
        cases images with
        | nil => cases hcut.of_nil.1.symm.trans hnext
        | cons first images =>
          obtain ⟨hfirst, hrest⟩ := hcut.uncons
          rw [hnext, Option.some.injEq, Prod.mk.injEq] at hfirst
          obtain ⟨rfl, hstream⟩ := hfirst
          rw [← hstream] at hrest
          apply (ih hrest).mono
          · rintro _ t ⟨m, hm, hlength, hstopped, hnot, hstored⟩
            refine ⟨m + 1, by omega, by simpa using hlength, ?_, hbefore hnot, ?_⟩
            · rwa [Nat.add_right_comm, Nat.add_assoc] at hstopped
            · exact hstored.cons hfiles hshown
          · rintro e t (⟨he, hlength, hnot⟩ | ⟨he, hnot, hstored⟩)
            · exact .inl ⟨he, by simpa using hlength, hbefore hnot⟩
            · refine .inr ⟨he, ?_, hstored.cons hfiles hshown⟩
              intro j hj
              rw [List.length_cons] at hj
              exact hbefore (m := images.length + 1) (fun j hj => hnot j (by omega)) j (by omega)
      · rintro e t ⟨hnone, he, hfiles, hshown⟩
        cases images with
        | nil =>
          refine .inr ⟨he, ?_, .nil hfiles hshown⟩
          intro j hj
          obtain rfl : j = 0 := by simpa using hj
          exact hstop
        | cons first images => cases hnone.symm.trans hcut.uncons.1

end Reading

/-- The bytes of the stream can be cut into images in exactly one way. The thread stores each image
that has arrived in full in the file with its number until it is stopped, and otherwise it ends as
the stream does. The preview is given `data` as often. -/
def Environment.Stores (env : Environment) (s : ImageLoader) (data : List Byte) : Prop :=
  ∃ images rest, (framing env.platform).Cut s.stream images rest ∧
    (∀ images' rest', (framing env.platform).Cut s.stream images' rest' → images' = images) ∧
    ∀ n, Ends (read env n) s
      (fun _ t => ∃ m < n, m ≤ images.length ∧ env.stops m = true ∧
        (∀ j < m, env.stops j = false) ∧ Stored s data 0 (images.take m) t)
      (fun e t => (e = .unfinished ∧ n ≤ images.length ∧ ∀ j < n, env.stops j = false) ∨
        env.EndsWith e ∧ (∀ j ≤ images.length, env.stops j = false) ∧ Stored s data 0 images t)

/-- Whatever bytes arrive, the images among them are stored. What the preview is given is the old
contents of the first file. -/
theorem stream_stored (env : Environment) (s : ImageLoader) (data : List Byte)
    (hfile : s.files (previewPath 0) = some data) : env.Stores s data := by
  obtain ⟨images, rest, hcut⟩ := Framing.cut_exists (c := framing env.platform) s.stream
  refine ⟨images, rest, hcut, fun images' rest' hcut' => (Framing.cut_unique hcut hcut').1, ?_⟩
  intro n
  have hloop : Ends (loop env data n 0) s _ _ := loop_ends n hcut
  simp only [Environment.Finished, Nat.zero_add] at hloop
  unfold read
  apply ends_get_bind
  rw [hfile]
  exact hloop

/-- A stream that is closed behind one image of one byte. -/
def closing : Environment := ⟨⟨.eight, .little⟩, some ⟨2, text "End of file"⟩, fun _ => false⟩

def oneByte : ImageLoader := ⟨[1, 0, 0, 0, 0, 0, 0, 0, 255], fun _ => some [], []⟩

theorem stream_stored_oneByte : closing.Stores oneByte [] := stream_stored closing oneByte [] rfl

end Rckam.Qt5
