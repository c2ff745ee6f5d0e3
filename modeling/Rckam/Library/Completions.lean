import Rckam.Library.Reassembly

/-! Which messages a reassembling receiver completes: exactly those whose own fragments occur
in the frame stream without interruption. -/
namespace Reassembly

variable {κ β γ : Type*} {M : ℕ}

/-- The frames already received end with the start and the first chunks of the message under
way; all of these chunks were full. -/
def Trails (M : ℕ) (fs : List (Frame κ β)) (g : Progress κ β) : Prop :=
  ∃ n, g.next = n + 1 ∧ g.got.length = n * M ∧ n * M < g.total ∧
    (.start g.id g.total :: chunks M g.id n 1 g.got) <:+ fs

theorem trails_opened (fs : List (Frame κ β)) {id : κ} {total : ℕ} {g : Progress κ β}
    (h : opened id total = some g) : Trails M (fs ++ [.start id total]) g := by
  unfold opened at h
  split at h
  · contradiction
  · obtain rfl := Option.some.inj h
    refine ⟨0, rfl, by simp, by simp only [Nat.zero_mul]; omega, ?_⟩
    exact List.suffix_append fs [Frame.start id total]

/-- The chunk that was expected extends the trail by one chunk. -/
theorem trails_chunk {fs : List (Frame κ β)} {g : Progress κ β} {payload : List β}
    (hg : Trails M fs g) (hlen : payload.length = min M (g.total - g.got.length)) :
    ∃ n, g.next = n + 1 ∧ g.got.length = n * M ∧ n * M < g.total ∧
      (.start g.id g.total :: chunks M g.id (n + 1) 1 (g.got ++ payload)) <:+
        fs ++ [.chunk g.id g.next payload] := by
  obtain ⟨n, hnext, hgot, htot, t, ht⟩ := hg
  refine ⟨n, hnext, hgot, htot, t, ?_⟩
  have htake : payload.take M = payload := List.take_of_length_le (by omega)
  rw [← chunks_snoc g.id n 1 g.got payload hgot, htake, hnext, Nat.add_comm 1 n, ← ht]
  simp

variable [DecidableEq κ]

/-- One frame keeps the trail, and completes a message only at the end of its fragments. -/
theorem step_trails {fs : List (Frame κ β)} {st : Option (Progress κ β)}
    (hst : ∀ g, st = some g → Trails M fs g) (f : Frame κ β) :
    (∀ g, (step M st f).1 = some g → Trails M (fs ++ [f]) g) ∧
      ∀ b, (step M st f).2 = some b → b ≠ [] ∧ ∃ id, fragments M id b <:+ fs ++ [f] := by
  cases f with
  | noise => cases st <;> simp [step]
  | start id total =>
    rw [step_start]
    exact ⟨fun g hg => trails_opened fs hg, by simp⟩
  | chunk id seq payload =>
    cases st with
    | none => simp [step]
    | some g =>
      by_cases ha : g.Accepts M id seq payload
      · obtain ⟨rfl, rfl, hlen⟩ := ha
        have ha : g.Accepts M g.id g.next payload := ⟨rfl, rfl, hlen⟩
        obtain ⟨n, hnext, hgot, htot, hsuf⟩ := trails_chunk (hst g rfl) hlen
        by_cases hdone : g.got.length + payload.length = g.total
        · simp only [step, ha, hdone, ↓reduceIte, reduceCtorEq, false_implies, implies_true,
            Option.some.injEq, forall_eq', true_and]
          have hb : (g.got ++ payload).length = g.total := by
            rw [List.length_append, hdone]
          have hcount : chunkCount M (g.got ++ payload).length = n + 1 := by
            apply chunkCount_eq (by omega)
            rw [Nat.succ_mul]
            omega
          refine ⟨?_, g.id, ?_⟩
          · intro he
            rw [he, List.length_nil] at hb
            omega
          · rwa [fragments, hcount, hb]
        · simp only [step, ha, hdone, ↓reduceIte, reduceCtorEq, false_implies, implies_true,
            and_true, Option.some.injEq, forall_eq']
          have hfull : payload.length = M := by omega
          refine ⟨n + 1, by rw [hnext], ?_, ?_, hsuf⟩
          · rw [List.length_append, hgot, hfull, Nat.succ_mul]
          · change (n + 1) * M < g.total
            rw [Nat.succ_mul]
            omega
      · simp [step, ha]

theorem mem_run_trails {done : List (Frame κ β)} {st : Option (Progress κ β)}
    (hst : ∀ g, st = some g → Trails M done g) (fs : List (Frame κ β)) {b : List β}
    (hb : b ∈ (run M st fs).2) :
    b ≠ [] ∧ ∃ id, fragments M id b <:+: done ++ fs := by
  induction fs generalizing done st with
  | nil => simp at hb
  | cons f fs ih =>
    obtain ⟨hnext, hnow⟩ := step_trails hst f
    have happ : done ++ f :: fs = done ++ [f] ++ fs := by simp
    rw [run_cons, List.mem_append] at hb
    rcases hb with hb | hb
    · obtain ⟨hne, id, hsuf⟩ := hnow b (by simpa using hb)
      exact ⟨hne, id, happ ▸ hsuf.isInfix.trans (List.prefix_append _ fs).isInfix⟩
    · exact happ ▸ ih hnext hb

/-- A message is completed exactly when its fragments occur in the stream, in order and
without another frame between them. -/
theorem mem_run_iff (hM : 0 < M) (fs : List (Frame κ β)) (b : List β) :
    b ∈ (run M none fs).2 ↔ b ≠ [] ∧ ∃ id, fragments M id b <:+: fs := by
  constructor
  · intro hb
    have h : ∀ g : Progress κ β, none = some g → Trails M [] g := by simp
    exact mem_run_trails h fs hb
  · rintro ⟨hne, id, pre, post, rfl⟩
    rw [run_append, run_append, run_fragments hM _ id hne]
    simp

/-- When every frame is a fragment of the source of its identifier, in whatever order and
number, every completed message is one of the sources. -/
theorem run_genuine (hM : 0 < M) (source : κ → List β) (sent : κ → Prop)
    {fs : List (Frame κ β)}
    (hfs : ∀ f ∈ fs, ∃ id, sent id ∧ f ∈ fragments M id (source id)) {b : List β}
    (hb : b ∈ (run M none fs).2) : ∃ id, sent id ∧ b = source id := by
  obtain ⟨hne, id, hinf⟩ := (mem_run_iff hM fs b).mp hb
  obtain ⟨id', hsent, hstart⟩ := hfs (.start id b.length) (hinf.subset (by simp [fragments]))
  rw [fragments, List.mem_cons] at hstart
  rcases hstart with hstart | hstart
  swap
  · obtain ⟨k, -, h⟩ := mem_chunks.mp hstart
    contradiction
  obtain ⟨rfl, hlen⟩ := Frame.start.inj hstart
  refine ⟨id, hsent, ?_⟩
  have hpieces : ∀ k < chunkCount M b.length,
      (b.drop (k * M)).take M = ((source id).drop (k * M)).take M := by
    intro k hk
    have hmem : Frame.chunk id (1 + k) ((b.drop (k * M)).take M) ∈ fragments M id b := by
      rw [fragments, List.mem_cons]
      exact Or.inr (mem_chunks.mpr ⟨k, hk, rfl⟩)
    obtain ⟨id', -, hf⟩ := hfs _ (hinf.subset hmem)
    rw [fragments, List.mem_cons] at hf
    rcases hf with hf | hf
    · contradiction
    · obtain ⟨k', -, he⟩ := mem_chunks.mp hf
      obtain ⟨rfl, hk', hp⟩ := Frame.chunk.inj he
      rw [hp, Nat.add_left_cancel hk']
  have htake := take_eq_of_chunks hpieces
  rwa [List.take_of_length_le (chunkCount_mul_ge hM b.length),
    List.take_of_length_le (hlen ▸ chunkCount_mul_ge hM b.length)] at htake

section Map

def Frame.map (f : β → γ) : Frame κ β → Frame κ γ
  | .start id total => .start id total
  | .chunk id seq payload => .chunk id seq (payload.map f)
  | .noise => .noise

def Progress.map (f : β → γ) (g : Progress κ β) : Progress κ γ :=
  ⟨g.id, g.total, g.next, g.got.map f⟩

omit [DecidableEq κ] in
theorem accepts_map (f : β → γ) (g : Progress κ β) (id : κ) (seq : ℕ) (payload : List β) :
    (g.map f).Accepts M id seq (payload.map f) ↔ g.Accepts M id seq payload := by
  simp [Progress.Accepts, Progress.map]

/-- The receiver copies payloads without looking at them. -/
theorem step_map (f : β → γ) (st : Option (Progress κ β)) (fr : Frame κ β) :
    step M (st.map (Progress.map f)) (fr.map f) =
      ((step M st fr).1.map (Progress.map f), (step M st fr).2.map (List.map f)) := by
  cases fr with
  | noise => cases st <;> rfl
  | start id total =>
    rw [Frame.map, step_start, step_start]
    unfold opened
    split <;> rfl
  | chunk id seq payload =>
    cases st with
    | none => rfl
    | some g =>
      simp only [Option.map_some, Frame.map, step, accepts_map]
      by_cases ha : g.Accepts M id seq payload
      · by_cases hd : g.got.length + payload.length = g.total <;>
          simp [ha, hd, Progress.map]
      · simp [ha]

theorem run_map (f : β → γ) (st : Option (Progress κ β)) (fs : List (Frame κ β)) :
    run M (st.map (Progress.map f)) (fs.map (Frame.map f)) =
      ((run M st fs).1.map (Progress.map f), (run M st fs).2.map (List.map f)) := by
  induction fs generalizing st with
  | nil => rfl
  | cons fr fs ih =>
    rw [List.map_cons, run_cons, step_map, ih, run_cons, List.map_append]
    cases (step M st fr).2 <;> rfl

end Map
end Reassembly
