import Mathlib.Data.List.Chain
import Mathlib.Data.List.Infix
import Mathlib.Tactic.Linarith
import Mathlib.Tactic.Ring

/-! In-order reassembly of messages sent as a sized start frame and numbered chunks.
The receiver keeps one message at a time and gives it up at the first frame that is
not the expected one. -/
namespace Reassembly

variable {κ β γ : Type*}

/-- A frame of the message `id`: its announced length, or its `seq`-th chunk. -/
inductive Frame (κ β : Type*) where
  | start (id : κ) (total : ℕ)
  | chunk (id : κ) (seq : ℕ) (payload : List β)
  | noise

/-- A message being received: `got` is what the chunks before `next` carried. -/
structure Progress (κ β : Type*) where
  id : κ
  total : ℕ
  next : ℕ
  got : List β

def Progress.Accepts (M : ℕ) (g : Progress κ β) (id : κ) (seq : ℕ) (payload : List β) : Prop :=
  id = g.id ∧ seq = g.next ∧ payload.length = min M (g.total - g.got.length)

instance [DecidableEq κ] (M : ℕ) (g : Progress κ β) (id : κ) (seq : ℕ) (payload : List β) :
    Decidable (g.Accepts M id seq payload) := by
  unfold Progress.Accepts
  infer_instance

/-- `got` was received, `l` is to come from chunk `seq` on. -/
def Progress.awaiting (id : κ) (seq : ℕ) (got l : List β) : Progress κ β :=
  ⟨id, got.length + l.length, seq, got⟩

/-- An empty message has no chunk, so it is never under way. -/
def opened (id : κ) (total : ℕ) : Option (Progress κ β) :=
  if total = 0 then none else some ⟨id, total, 1, []⟩

/-- One frame gives the message under way and the message completed by the frame. -/
def step [DecidableEq κ] (M : ℕ) :
    Option (Progress κ β) → Frame κ β → Option (Progress κ β) × Option (List β)
  | _, .start id total => (opened id total, none)
  | some g, .chunk id seq payload =>
      if g.Accepts M id seq payload then
        if g.got.length + payload.length = g.total then (none, some (g.got ++ payload))
        else (some { g with next := g.next + 1, got := g.got ++ payload }, none)
      else (none, none)
  | none, .chunk _ _ _ => (none, none)
  | _, .noise => (none, none)

/-- The message under way after the frames, and the messages completed, in order. -/
def run [DecidableEq κ] (M : ℕ) :
    Option (Progress κ β) → List (Frame κ β) → Option (Progress κ β) × List (List β)
  | st, [] => (st, [])
  | st, f :: fs =>
      let now := step M st f
      let rest := run M now.1 fs
      (rest.1, now.2.toList ++ rest.2)

/-- The `n` chunks that carry `l`, numbered from `seq`. -/
def chunks (M : ℕ) (id : κ) : ℕ → ℕ → List β → List (Frame κ β)
  | 0, _, _ => []
  | n + 1, seq, l => .chunk id seq (l.take M) :: chunks M id n (seq + 1) (l.drop M)

/-- The number of chunks of a message of length `len`. -/
def chunkCount (M len : ℕ) : ℕ := (len + M - 1) / M

/-- Everything the sender emits for one message. -/
def fragments (M : ℕ) (id : κ) (l : List β) : List (Frame κ β) :=
  .start id l.length :: chunks M id (chunkCount M l.length) 1 l

section Runs
variable [DecidableEq κ] (M : ℕ)

@[simp] theorem run_nil (st : Option (Progress κ β)) : run M st [] = (st, []) := rfl

theorem run_cons (st : Option (Progress κ β)) (f : Frame κ β) (fs : List (Frame κ β)) :
    run M st (f :: fs) = ((run M (step M st f).1 fs).1,
      (step M st f).2.toList ++ (run M (step M st f).1 fs).2) := rfl

theorem run_append (st : Option (Progress κ β)) (fs gs : List (Frame κ β)) :
    run M st (fs ++ gs) = ((run M (run M st fs).1 gs).1,
      (run M st fs).2 ++ (run M (run M st fs).1 gs).2) := by
  induction fs generalizing st with
  | nil => rfl
  | cons f fs ih => simp only [List.cons_append, run_cons, ih, List.append_assoc]

@[simp] theorem step_start (st : Option (Progress κ β)) (id : κ) (total : ℕ) :
    step M st (.start id total) = (opened id total, none) := by
  cases st <;> rfl

theorem step_chunk_rejected {st : Option (Progress κ β)} {id : κ} {seq : ℕ} {payload : List β}
    (h : ∀ g, st = some g → ¬ g.Accepts M id seq payload) :
    step M st (.chunk id seq payload) = (none, none) := by
  cases st with
  | none => rfl
  | some g => simp only [step, h g rfl, ↓reduceIte]

end Runs

section Counting
variable {M : ℕ}

@[simp] theorem chunkCount_zero (hM : 0 < M) : chunkCount M 0 = 0 := by
  unfold chunkCount
  exact Nat.div_eq_of_lt (by omega)

theorem chunkCount_pos (hM : 0 < M) {len : ℕ} (h : 0 < len) :
    chunkCount M len = chunkCount M (len - M) + 1 := by
  unfold chunkCount
  by_cases hl : len ≤ M
  · have h1 : (len + M - 1) / M = 1 := by
      apply Nat.div_eq_of_lt_le <;> omega
    have h0 : (len - M + M - 1) / M = 0 := Nat.div_eq_of_lt (by omega)
    rw [h1, h0]
  · have he : len + M - 1 = (len - M + M - 1) + M := by omega
    rw [he, Nat.add_div_right _ hM]

/-- `n` full chunks and a non-empty last one. -/
theorem chunkCount_eq {len n : ℕ} (h1 : n * M < len) (h2 : len ≤ (n + 1) * M) :
    chunkCount M len = n + 1 := by
  unfold chunkCount
  apply Nat.div_eq_of_lt_le
  · have : (n + 1) * M = n * M + M := by ring
    omega
  · have : (n + 1 + 1) * M = n * M + M + M := by ring
    have : (n + 1) * M = n * M + M := by ring
    have : 0 < M := by nlinarith
    omega

theorem chunkCount_le (hM : 0 < M) {len n : ℕ} (h : len ≤ n * M) : chunkCount M len ≤ n := by
  unfold chunkCount
  apply Nat.le_of_lt_succ
  rw [Nat.div_lt_iff_lt_mul hM, Nat.succ_mul]
  omega

theorem chunkCount_mul_ge (hM : 0 < M) (len : ℕ) : len ≤ chunkCount M len * M := by
  have h := Nat.div_add_mod (len + M - 1) M
  have hm := Nat.mod_lt (len + M - 1) hM
  unfold chunkCount
  rw [Nat.mul_comm]
  omega

@[simp] theorem chunks_length (id : κ) (n seq : ℕ) (l : List β) :
    (chunks M id n seq l).length = n := by
  induction n generalizing seq l with
  | zero => rfl
  | succ n ih => simp [chunks, ih]

theorem chunks_snoc (id : κ) (n seq : ℕ) (l payload : List β) (hl : l.length = n * M) :
    chunks M id n seq l ++ [.chunk id (seq + n) (payload.take M)] =
      chunks M id (n + 1) seq (l ++ payload) := by
  induction n generalizing seq l with
  | zero =>
    have : l = [] := List.eq_nil_of_length_eq_zero (by simpa using hl)
    simp [chunks, this]
  | succ n ih =>
    have hl' : l.length = n * M + M := by rw [hl]; ring
    have hd : (l.drop M).length = n * M := by simp [hl']
    have ht : (l ++ payload).take M = l.take M := List.take_append_of_le_length (by omega)
    have hr : (l ++ payload).drop M = l.drop M ++ payload :=
      List.drop_append_of_le_length (by omega)
    rw [chunks, chunks, ht, hr, List.cons_append, ← ih (seq + 1) _ hd]
    simp only [Nat.add_comm, Nat.add_left_comm]

theorem mem_chunks {id : κ} {n seq : ℕ} {l : List β} {f : Frame κ β} :
    f ∈ chunks M id n seq l ↔
      ∃ k < n, f = .chunk id (seq + k) ((l.drop (k * M)).take M) := by
  induction n generalizing seq l with
  | zero => simp [chunks]
  | succ n ih =>
    rw [chunks, List.mem_cons, ih]
    constructor
    · rintro (rfl | ⟨k, hk, rfl⟩)
      · exact ⟨0, by omega, by simp⟩
      · refine ⟨k + 1, by omega, ?_⟩
        rw [List.drop_drop, Nat.add_assoc, Nat.add_comm 1 k]
        congr 3
        ring
    · rintro ⟨k, hk, rfl⟩
      cases k with
      | zero => left; simp
      | succ k =>
        refine Or.inr ⟨k, by omega, ?_⟩
        rw [List.drop_drop, Nat.add_assoc, Nat.add_comm 1 k]
        congr 3
        ring

theorem chunks_getElem? (id : κ) {n k : ℕ} (hk : k < n) (seq : ℕ) (l : List β) :
    (chunks M id n seq l)[k]? = some (.chunk id (seq + k) ((l.drop (k * M)).take M)) := by
  induction n generalizing k seq l with
  | zero => contradiction
  | succ n ih =>
    cases k with
    | zero => simp [chunks]
    | succ k =>
      have hskip : M + k * M = (k + 1) * M := by ring
      rw [chunks, List.getElem?_cons_succ, ih (by omega), List.drop_drop, hskip, Nat.add_assoc,
        Nat.add_comm 1 k]

def Frame.seq : Frame κ β → ℕ
  | .chunk _ seq _ => seq
  | _ => 0

def Frame.payload : Frame κ β → List β
  | .chunk _ _ payload => payload
  | _ => []

theorem chunks_map_seq (id : κ) (n seq : ℕ) (l : List β) :
    (chunks M id n seq l).map Frame.seq = List.range' seq n := by
  induction n generalizing seq l with
  | zero => rfl
  | succ n ih =>
    rw [chunks, List.map_cons, ih, List.range'_succ]
    rfl

theorem chunks_flatMap_payload (id : κ) (n seq : ℕ) (l : List β) :
    (chunks M id n seq l).flatMap Frame.payload = l.take (n * M) := by
  induction n generalizing seq l with
  | zero => simp [chunks]
  | succ n ih =>
    rw [chunks, List.flatMap_cons, ih, Nat.succ_mul, Nat.add_comm, List.take_add]
    rfl

/-- A message is what its chunks carry. -/
theorem take_eq_of_chunks {l l' : List β} {n : ℕ}
    (h : ∀ k < n, (l.drop (k * M)).take M = (l'.drop (k * M)).take M) :
    l.take (n * M) = l'.take (n * M) := by
  induction n with
  | zero => simp
  | succ n ih =>
    rw [Nat.succ_mul, List.take_add, List.take_add, ih fun k hk => h k (by omega),
      h n (by omega)]

theorem awaiting_accepts (id : κ) (seq : ℕ) (got l : List β) :
    (Progress.awaiting id seq got l).Accepts M id seq (l.take M) :=
  ⟨rfl, rfl, by simp [Progress.awaiting]⟩

/-- The chunks of a non-empty rest: the only one, or the next one and a non-empty rest. -/
theorem chunks_cases (hM : 0 < M) (id : κ) (seq : ℕ) {l : List β} (hl : l ≠ []) :
    (l.length ≤ M ∧
      chunks M id (chunkCount M l.length) seq l = [.chunk id seq (l.take M)]) ∨
    (M < l.length ∧ l.drop M ≠ [] ∧ chunks M id (chunkCount M l.length) seq l =
      .chunk id seq (l.take M) ::
        chunks M id (chunkCount M (l.drop M).length) (seq + 1) (l.drop M)) := by
  have hpos := List.length_pos_iff.mpr hl
  rw [chunkCount_pos hM hpos, chunks, List.length_drop]
  by_cases h : l.length ≤ M
  · left
    have h0 : l.length - M = 0 := by omega
    rw [h0, chunkCount_zero hM]
    exact ⟨h, rfl⟩
  · right
    refine ⟨by omega, ?_, rfl⟩
    rw [Ne, List.drop_eq_nil_iff]
    exact h

theorem opened_message (id : κ) {l : List β} (hl : l ≠ []) :
    opened id l.length = some (.awaiting id 1 [] l) := by
  have hpos : l.length ≠ 0 := by simpa using hl
  simp [opened, Progress.awaiting, hpos]

end Counting

section Delivery
variable [DecidableEq κ] {M : ℕ}

theorem step_last (id : κ) (seq : ℕ) (got : List β) {l : List β} (h : l.length ≤ M) :
    step M (some (.awaiting id seq got l)) (.chunk id seq (l.take M)) =
      (none, some (got ++ l)) := by
  have ha := awaiting_accepts (M := M) id seq got l
  rw [List.take_of_length_le h] at ha ⊢
  have ht : (Progress.awaiting id seq got l).got.length + l.length =
      (Progress.awaiting id seq got l).total := rfl
  simp only [step, ha, ht, ↓reduceIte]
  rfl

theorem step_next (id : κ) (seq : ℕ) (got : List β) {l : List β} (h : M < l.length) :
    step M (some (.awaiting id seq got l)) (.chunk id seq (l.take M)) =
      (some (.awaiting id (seq + 1) (got ++ l.take M) (l.drop M)), none) := by
  have ha := awaiting_accepts (M := M) id seq got l
  have ht : ¬ (Progress.awaiting id seq got l).got.length + (l.take M).length =
      (Progress.awaiting id seq got l).total := by
    simp only [Progress.awaiting, List.length_take]
    omega
  have htot : (got ++ l.take M).length + (l.drop M).length = got.length + l.length := by
    rw [List.length_append, Nat.add_assoc, ← List.length_append, List.take_append_drop]
  simp only [step, ha, ht, ↓reduceIte]
  rw [Progress.awaiting, Progress.awaiting, htot]

/-- Every chunk still to come, in order, completes the message under way. -/
theorem run_chunks (hM : 0 < M) (id : κ) (seq : ℕ) (got l : List β) (hl : l ≠ []) :
    run M (some (.awaiting id seq got l)) (chunks M id (chunkCount M l.length) seq l) =
      (none, [got ++ l]) := by
  induction hn : l.length using Nat.strong_induction_on generalizing seq got l with
  | _ n ih =>
    subst n
    rcases chunks_cases hM id seq hl with ⟨hle, hc⟩ | ⟨hlt, hd, hc⟩
    · rw [hc, run_cons, step_last id seq got hle]
      rfl
    · have hr := ih _ (by rw [List.length_drop]; omega) (seq + 1) (got ++ l.take M) _ hd rfl
      rw [hc, run_cons, step_next id seq got hlt, hr]
      simp

/-- A whole message is completed by its last frame, whatever was under way before. -/
theorem run_fragments (hM : 0 < M) (st : Option (Progress κ β)) (id : κ) {l : List β}
    (hl : l ≠ []) : run M st (fragments M id l) = (none, [l]) := by
  rw [fragments, run_cons, step_start, opened_message id hl, run_chunks hM id 1 [] l hl]
  rfl

/-- Once a chunk was missed, the later chunks of the message complete nothing. -/
theorem run_behind {st : Option (Progress κ β)} {id : κ} {n seq : ℕ} {l : List β}
    {ds : List (Frame κ β)} (hst : ∀ g, st = some g → g.id = id → g.next < seq)
    (hds : ds.Sublist (chunks M id n seq l)) :
    run M st ds = (if ds = [] then st else none, []) := by
  induction n generalizing st seq l ds with
  | zero =>
    have : ds = [] := by simpa [chunks] using hds
    simp [this]
  | succ n ih =>
    rw [chunks] at hds
    cases hds with
    | cons _ hds =>
      refine ih (fun g hg hid => ?_) hds
      have := hst g hg hid
      omega
    | @cons_cons ds' _ _ hds =>
      have hrej : step M st (.chunk id seq (l.take M)) = (none, none) := by
        apply step_chunk_rejected
        rintro g hg ⟨hid, hseq, -⟩
        have := hst g hg hid.symm
        omega
      have hnone : ∀ g : Progress κ β, none = some g → g.id = id → g.next < seq + 1 := by simp
      have hr := ih hnone hds
      rw [run_cons, hrej, hr]
      by_cases h : ds' = [] <;> simp [h]

/-- From a receiver waiting for chunk `seq`, the rest of the message is completed when none
of it is lost, and otherwise nothing is. -/
theorem run_chunks_lossy (hM : 0 < M) (id : κ) (seq : ℕ) (got l : List β) (hl : l ≠ [])
    {ds : List (Frame κ β)} (hds : ds.Sublist (chunks M id (chunkCount M l.length) seq l))
    (hlost : ds.length ≠ chunkCount M l.length) :
    (run M (some (.awaiting id seq got l)) ds).2 = [] ∧
      ∀ g, (run M (some (.awaiting id seq got l)) ds).1 = some g → g.id = id := by
  induction hn : l.length using Nat.strong_induction_on generalizing seq got l ds with
  | _ n ih =>
    subst n
    have hlen := chunks_length (M := M) id (chunkCount M l.length) seq l
    obtain ⟨fs, hc⟩ : ∃ fs, chunks M id (chunkCount M l.length) seq l =
        .chunk id seq (l.take M) :: fs := by
      rcases chunks_cases hM id seq hl with ⟨-, hc⟩ | ⟨-, -, hc⟩ <;> exact ⟨_, hc⟩
    rw [hc] at hds
    cases hds with
    | cons _ hskip =>
      -- chunk `seq` is lost: the receiver stays behind
      have hfs : fs = chunks M id (chunkCount M l.length - 1) (seq + 1) (l.drop M) := by
        have hpos := chunkCount_pos hM (List.length_pos_iff.mpr hl)
        rw [hpos, chunks] at hc
        rw [hpos, Nat.add_sub_cancel]
        exact (List.cons.inj hc).2.symm
      have hb : ∀ g, some (Progress.awaiting id seq got l) = some g → g.id = id →
          g.next < seq + 1 := by
        rintro g hg -
        obtain rfl := Option.some.inj hg
        exact Nat.lt_succ_self seq
      rw [hfs] at hskip
      rw [run_behind hb hskip]
      refine ⟨rfl, fun g hg => ?_⟩
      split at hg
      · obtain rfl := Option.some.inj hg
        rfl
      · contradiction
    | @cons_cons ds' _ _ hkeep =>
      rcases chunks_cases hM id seq hl with ⟨-, hc'⟩ | ⟨hlt, hd, hc'⟩
      · -- the only chunk has arrived, so nothing is lost
        rw [hc] at hc'
        rw [(List.cons.inj hc').2] at hkeep
        rw [hc, (List.cons.inj hc').2, List.length_singleton] at hlen
        simp [List.sublist_nil.mp hkeep, ← hlen] at hlost
      · rw [hc] at hc'
        have hfs := (List.cons.inj hc').2
        rw [hc, hfs, List.length_cons, chunks_length] at hlen
        rw [hfs] at hkeep
        have hlost' : ds'.length ≠ chunkCount M (l.drop M).length := by
          rw [List.length_cons] at hlost
          omega
        have hr := ih _ (by rw [List.length_drop]; omega) (seq + 1) (got ++ l.take M) _ hd
          hkeep hlost' rfl
        rw [run_cons, step_next id seq got hlt]
        simpa using hr

/-- What survives of one message, received by a receiver that is not under way with a
message of the same identifier. -/
theorem run_fragments_lossy (hM : 0 < M) {st : Option (Progress κ β)} {id : κ} {l : List β}
    (hl : l ≠ []) (hst : ∀ g, st = some g → g.id ≠ id) {ds : List (Frame κ β)}
    (hds : ds.Sublist (fragments M id l)) :
    (run M st ds).2 = (if ds.length = (fragments M id l).length then [l] else []) ∧
      (ds ≠ [] → ∀ g, (run M st ds).1 = some g → g.id = id) := by
  by_cases hall : ds.length = (fragments M id l).length
  · rw [hds.eq_of_length hall, run_fragments hM st id hl]
    simp
  rw [if_neg hall]
  rw [fragments] at hds
  cases hds with
  | cons _ hskip =>
    rw [run_behind (fun g hg hid => absurd hid (hst g hg)) hskip]
    refine ⟨rfl, fun hne g hg => ?_⟩
    simp [hne] at hg
  | cons_cons _ hkeep =>
    rw [fragments, List.length_cons, List.length_cons, chunks_length] at hall
    have h := run_chunks_lossy hM id 1 [] l hl hkeep (by omega)
    rw [run_cons, step_start, opened_message id hl]
    exact ⟨h.1, fun _ => h.2⟩

/-- One message of a lossy run: the frames of `message` that were delivered. -/
structure Part (M : ℕ) (κ β : Type*) where
  id : κ
  message : List β
  delivered : List (Frame κ β)
  nonempty : message ≠ []
  sublist : delivered.Sublist (fragments M id message)

namespace Part

/-- Some frame of the message arrived. -/
def seen (p : Part M κ β) : Bool := !p.delivered.isEmpty

/-- Every frame of the message arrived. -/
def intact (p : Part M κ β) : Bool := p.delivered.length == (fragments M p.id p.message).length

end Part

theorem run_parts_from (hM : 0 < M) (parts : List (Part M κ β)) (st : Option (Progress κ β))
    (hst : ∀ g, st = some g → ∀ p ∈ (parts.filter Part.seen).head?, g.id ≠ p.id)
    (hids : (parts.filter Part.seen).IsChain fun p q => p.id ≠ q.id) :
    (run M st (parts.flatMap Part.delivered)).2 =
      (parts.filter Part.intact).map Part.message := by
  induction parts generalizing st with
  | nil => rfl
  | cons p ps ih =>
    rw [List.flatMap_cons, run_append]
    by_cases hseen : p.seen
    · rw [List.filter_cons_of_pos hseen] at hst hids
      have hne : p.delivered ≠ [] := by simpa [Part.seen] using hseen
      have hp := run_fragments_lossy hM p.nonempty
        (fun g hg => hst g hg p (by simp)) p.sublist
      have hrest := ih (run M st p.delivered).1 (fun g hg q hq => by
        rw [hp.2 hne g hg]
        exact hids.rel_head? hq) hids.tail
      rw [hp.1, hrest]
      by_cases hin : p.delivered.length = (fragments M p.id p.message).length
      · rw [if_pos hin, List.filter_cons_of_pos (by simp [Part.intact, hin])]
        rfl
      · rw [if_neg hin, List.filter_cons_of_neg (by simp [Part.intact, hin])]
        rfl
    · rw [List.filter_cons_of_neg hseen] at hst hids
      have he : p.delivered = [] := by simpa [Part.seen] using hseen
      have hin : ¬ p.intact := by simp [Part.intact, he, fragments]
      rw [he, run_nil, List.nil_append, List.filter_cons_of_neg hin]
      exact ih st hst hids

/-- Over a lossy link whose neighbouring seen messages have different identifiers, exactly the
intact messages are completed, in sending order. -/
theorem run_parts (hM : 0 < M) (parts : List (Part M κ β))
    (hids : (parts.filter Part.seen).IsChain fun p q => p.id ≠ q.id) :
    (run M none (parts.flatMap Part.delivered)).2 =
      (parts.filter Part.intact).map Part.message :=
  run_parts_from hM parts none (by simp) hids

end Delivery
end Reassembly
