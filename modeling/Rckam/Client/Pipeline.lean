import Rckam.Client.Progress
import Rckam.Preview.FailedSend

/-! The way of the images from the server to the window: the datagrams that arrive, the calls of
`readPreview` that take them, and the two threads of the image loader. -/
namespace Rckam.ImageLoader

section Resumed
variable (p : Platform) (header : ℕ → List Byte) (i : ℕ) (buffers : Fin 2 → List Byte)

/-- The buffers returned by the call number `i`, which has come to these local variables, and by
the calls after it. -/
def resumed (s : Locals Byte) (stream : List (Received Byte)) : List (List Byte) :=
  match readLoop p s stream with
  | .returned data id rest =>
      data :: previews p header (i + 1) ⟨Function.update buffers (Fin.ofNat 2 i) data, id⟩ rest
  | _ => []

variable {p header i buffers}

theorem previews_eq_resumed (currentImageId : ℕ) (stream : List (Received Byte)) :
    previews p header i ⟨buffers, currentImageId⟩ stream =
      resumed p header i buffers (enter (header i) (buffers (Fin.ofNat 2 i)) currentImageId)
        stream := by
  rw [resumed]
  split
  · next data id rest h => exact previews_returned h
  · next h => exact previews_stopped h

theorem resumed_again {s t : Locals Byte} {received : Received Byte}
    (h : iteration p s received = .again t) (stream : List (Received Byte)) :
    resumed p header i buffers s (received :: stream) = resumed p header i buffers t stream := by
  simp only [resumed, readLoop, h]

theorem resumed_done {s t : Locals Byte} {received : Received Byte}
    (h : iteration p s received = .done t) (stream : List (Received Byte)) :
    resumed p header i buffers s (received :: stream) =
      resize t.data t.byteCount :: previews p header (i + 1)
        ⟨Function.update buffers (Fin.ofNat 2 i) (resize t.data t.byteCount), t.currentImageId⟩
        stream := by
  simp only [resumed, readLoop, h]

/-- The buffer of the call is written to while the call is in progress. -/
theorem resumed_update (data : List Byte) (s : Locals Byte) (stream : List (Received Byte)) :
    resumed p header i (Function.update buffers (Fin.ofNat 2 i) data) s stream =
      resumed p header i buffers s stream := by
  simp only [resumed, Function.update_idem]

theorem resumed_nil (s : Locals Byte) : resumed p header i buffers s [] = [] := rfl

theorem previews_nil (loader : ImageLoader Byte) : previews p header i loader [] = [] := by
  rw [previews]
  rfl

end Resumed

end ImageLoader

/-- The threads of the image loader, the local variables of `readPreview`, and the datagrams that
have been received. -/
structure Pipeline where
  threads : DoubleBuffer.Loader
  locals : ImageLoader.Locals Byte
  received : List CameraController.Datagram

namespace Pipeline
open CameraController ImageLoader DoubleBuffer

/-- A call of `readPreview` is in progress. -/
def Reading (s : Pipeline) : Prop := (s.threads.worker .reader).pc = .body

instance (s : Pipeline) : Decidable s.Reading := inferInstanceAs (Decidable (_ = _))

/-- The members that the next call of `readPreview` starts from. -/
def loader (s : Pipeline) : ImageLoader Byte := ⟨s.threads.buffers, s.locals.currentImageId⟩

/-- The number of calls of `readPreview` that have returned. -/
def calls (s : Pipeline) : ℕ := (s.threads.worker .reader).done

/-- A step of the threads that is none of `readPreview`. A call that begins sets up its local
variables. -/
def advance (header : ℕ → List Byte) (s : Pipeline) (t : Loader) : Pipeline where
  threads := t
  locals :=
    if (t.worker .reader).pc = .body ∧ ¬ s.Reading then
      enter (header s.calls) (t.buffers (t.worker .reader).index) s.locals.currentImageId
    else s.locals
  received := s.received

/-- A datagram has been taken, and the call goes on. -/
def refill (s : Pipeline) (d : Datagram) (l : Locals Byte) : Pipeline where
  threads := { s.threads with
    buffers := Function.update s.threads.buffers (s.threads.worker .reader).index l.data }
  locals := l
  received := s.received ++ [d]

/-- A datagram has been taken, and the call returns. -/
def finish (s : Pipeline) (d : Datagram) (l : Locals Byte) : Pipeline where
  threads := { s.threads with
    buffers := Function.update s.threads.buffers (s.threads.worker .reader).index
      (resize l.data l.byteCount)
    completed := s.threads.completed ++ [resize l.data l.byteCount] }.move .reader .flag
  locals := l
  received := s.received ++ [d]

/-- The steps of the threads. Those of `readPreview` take the datagrams. -/
inductive Step (p : Platform) (header : ℕ → List Byte) (s : Pipeline) : Pipeline → Prop where
  | thread (t : Loader) (hstep : DoubleBuffer.Step s.threads t)
      (hreader : s.Reading → t.worker .reader = s.threads.worker .reader)
      (hbuffers : t.buffers = s.threads.buffers) : Step p header s (s.advance header t)
  | receive (d : Datagram) (l : Locals Byte) (hreading : s.Reading)
      (hd : iteration p s.locals (.datagram d) = .again l) : Step p header s (s.refill d l)
  | complete (d : Datagram) (l : Locals Byte) (hreading : s.Reading)
      (hd : iteration p s.locals (.datagram d) = .done l) : Step p header s (s.finish d l)
  | fail (value : ℤ) (message text : String) (hreading : s.Reading)
      (hfail : iteration p s.locals (.error value message) = .thrown text) :
      Step p header s { s with threads := s.threads.move .reader .leave }

/-- The state in which `start` leaves the image loader, before anything has been received. -/
structure Started (s : Pipeline) : Prop where
  threads : s.threads.Started
  received : s.received = []

/-- The runs of a loader that has been started. -/
def Runs (p : Platform) (header : ℕ → List Byte) (s0 s : Pipeline) : Prop :=
  s0.Started ∧ Relation.ReflTransGen (Step p header) s0 s

/-! ### What the calls return is what the datagrams make them return -/

variable {p : Platform} {header : ℕ → List Byte} {s0 s s' : Pipeline} {t : Loader}

/-- What the call in progress and the next ones return, when `stream` arrives. -/
def future (p : Platform) (header : ℕ → List Byte) (s : Pipeline)
    (stream : List (Received Byte)) : List (List Byte) :=
  if s.Reading then resumed p header s.calls s.threads.buffers s.locals stream
  else previews p header s.calls s.loader stream

/-- The images completed are those that `readPreview` returns of what has been received, and as
long as the thread goes on, of everything that will be received. -/
structure Explained (p : Platform) (header : ℕ → List Byte) (s0 s : Pipeline) : Prop where
  threads : Reachable s.threads
  goesOn : ¬ (s.threads.worker .reader).pc.left → ∀ stream,
    previews p header 0 s0.loader (s.received.map .datagram ++ stream) =
      s.threads.completed ++ s.future p header stream
  front : ∀ stream, s.threads.completed <+:
    previews p header 0 s0.loader (s.received.map .datagram ++ stream)

theorem completed_step (hstep : DoubleBuffer.Step s.threads t)
    (hreader : s.Reading → t.worker .reader = s.threads.worker .reader) :
    t.completed = s.threads.completed := by
  cases hstep with
  | complete image hpc =>
    have hsame := congrArg Worker.pc (hreader hpc)
    rw [hpc] at hsame
    cases hsame
  | _ => rfl

theorem reachable_step {r t : Loader} (h : Reachable r) (hstep : DoubleBuffer.Step r t) :
    Reachable t := by
  obtain ⟨s0, hstarted, hrun⟩ := h
  exact ⟨s0, hstarted, hrun.tail hstep⟩

theorem reading_goesOn (hreading : s.Reading) : ¬ (s.threads.worker .reader).pc.left := by
  have hpc : (s.threads.worker .reader).pc = .body := hreading
  simp [hpc, Pc.left]

theorem left_successor {old pc : Pc} {stop : Bool} (hmem : pc ∈ old.successors stop)
    (hleft : old.left) : pc.left := by
  rcases hleft with rfl | rfl
  · exact .inr (List.mem_singleton.mp hmem)
  · cases hmem

theorem left_advance (hstep : DoubleBuffer.Step s.threads t)
    (hleft : (s.threads.worker .reader).pc.left) : (t.worker .reader).pc.left := by
  rcases Loader.worker_step hstep .reader with hsame | ⟨pc, hmem, hturned⟩
  · rwa [hsame]
  · rw [hturned, Worker.turned_pc]
    exact left_successor hmem hleft

/-- The other steps change nothing of what will be returned. -/
theorem future_advance (hreachable : Reachable t) (hstep : DoubleBuffer.Step s.threads t)
    (hreader : s.Reading → t.worker .reader = s.threads.worker .reader)
    (hbuffers : t.buffers = s.threads.buffers) (stream : List (Received Byte)) :
    (s.advance header t).future p header stream = s.future p header stream := by
  have hsame (h : t.worker .reader = s.threads.worker .reader) :
      (s.advance header t).future p header stream = s.future p header stream := by
    have hreading : (s.advance header t).Reading ↔ s.Reading := by
      unfold Reading advance
      rw [h]
    have hlocals : (s.advance header t).locals = s.locals := by
      unfold advance
      rw [h]
      exact if_neg fun hboth => hboth.2 hboth.1
    have hcalls : (s.advance header t).calls = s.calls := congrArg Worker.done h
    have hthreads : (s.advance header t).threads.buffers = s.threads.buffers := hbuffers
    simp only [future, hreading, hcalls, loader, hlocals, hthreads]
  rcases Loader.worker_step hstep .reader with h | ⟨pc, hmem, hturned⟩
  · exact hsame h
  · by_cases hreading : s.Reading
    · exact hsame (hreader hreading)
    · have hcalls : (s.advance header t).calls = s.calls := by
        show (t.worker .reader).done = _
        rw [hturned, Worker.turned_done hmem hreading]
        rfl
      have hpc : (t.worker .reader).pc = pc := by rw [hturned, Worker.turned_pc]
      by_cases hbody : pc = .body
      · -- a call begins
        have hindex : (t.worker .reader).index = Fin.ofNat 2 s.calls := by
          rw [hreachable.invariant.synchronised.index .reader, ← hcalls]
          show slot _ = slot (t.worker .reader).done
          rw [Worker.done_at (hpc.trans hbody)]
          rfl
        have hnow : (s.advance header t).Reading := hpc.trans hbody
        rw [future, future, if_pos hnow, if_neg hreading, hcalls]
        unfold loader
        rw [previews_eq_resumed]
        unfold advance
        rw [if_pos ⟨hpc.trans hbody, hreading⟩, hindex, hbuffers]
      · have hnow : ¬ (s.advance header t).Reading := fun h => hbody (hpc.symm.trans h)
        have hlocals : (s.advance header t).locals = s.locals := if_neg fun hboth => hnow hboth.1
        rw [future, future, if_neg hnow, if_neg hreading, hcalls, loader, hlocals]
        unfold loader advance
        rw [hbuffers]

theorem advance_begins (hbody : (t.worker .reader).pc = .body) (hreading : ¬ s.Reading) :
    s.advance header t = ⟨t, enter (header s.calls) (t.buffers (t.worker .reader).index)
      s.locals.currentImageId, s.received⟩ := by
  unfold advance
  rw [if_pos ⟨hbody, hreading⟩]

theorem index_reading (hreachable : Reachable s.threads) (hreading : s.Reading) :
    (s.threads.worker .reader).index = Fin.ofNat 2 s.calls := by
  rw [hreachable.invariant.synchronised.index .reader]
  unfold calls
  rw [Worker.done_at hreading]
  rfl

theorem future_refill (hreachable : Reachable s.threads) (hreading : s.Reading) {d : Datagram}
    {l : Locals Byte} (hd : iteration p s.locals (.datagram d) = .again l)
    (stream : List (Received Byte)) :
    s.future p header (.datagram d :: stream) = (s.refill d l).future p header stream := by
  have hnow : (s.refill d l).Reading := hreading
  rw [future, future, if_pos hreading, if_pos hnow, resumed_again hd]
  show _ = resumed p header s.calls (Function.update s.threads.buffers
    (s.threads.worker .reader).index l.data) l stream
  rw [index_reading hreachable hreading, resumed_update]

theorem future_finish (hreachable : Reachable s.threads) (hreading : s.Reading) {d : Datagram}
    {l : Locals Byte} (hd : iteration p s.locals (.datagram d) = .done l)
    (stream : List (Received Byte)) :
    s.future p header (.datagram d :: stream) =
      resize l.data l.byteCount :: (s.finish d l).future p header stream := by
  have hnow : ¬ (s.finish d l).Reading := by
    unfold Reading finish
    simp
  have hcalls : (s.finish d l).calls = s.calls + 1 := by
    unfold calls finish
    rw [Loader.move_worker_self, Worker.done_at rfl, Worker.done_at hreading]
    rfl
  rw [future, future, if_pos hreading, if_neg hnow, resumed_done hd, hcalls, loader]
  unfold finish
  rw [index_reading hreachable hreading]
  rfl

theorem Explained.of_goesOn (hthreads : Reachable s.threads)
    (hgoesOn : ∀ stream, previews p header 0 s0.loader (s.received.map .datagram ++ stream) =
      s.threads.completed ++ s.future p header stream) : Explained p header s0 s where
  threads := hthreads
  goesOn := fun _ => hgoesOn
  front := fun stream => by
    rw [hgoesOn]
    exact List.prefix_append _ _

theorem Explained.step (h : Explained p header s0 s) (hstep : Step p header s s') :
    Explained p header s0 s' := by
  cases hstep with
  | thread t hstep hreader hbuffers =>
    have hthreads : Reachable t := reachable_step h.threads hstep
    have hcompleted : (s.advance header t).threads.completed = s.threads.completed :=
      completed_step hstep hreader
    refine ⟨hthreads, fun hgoes stream => ?_, fun stream => ?_⟩
    · rw [hcompleted, future_advance hthreads hstep hreader hbuffers]
      exact h.goesOn (fun hleft => hgoes (left_advance hstep hleft)) stream
    · rw [hcompleted]
      exact h.front stream
  | receive d l hreading hd =>
    refine .of_goesOn (reachable_step h.threads (.fill l.data hreading)) fun stream => ?_
    have hnow := h.goesOn (reading_goesOn hreading) (.datagram d :: stream)
    rw [future_refill h.threads hreading hd] at hnow
    show previews p header 0 s0.loader ((s.received ++ [d]).map .datagram ++ stream) = _
    rw [List.map_append, List.append_assoc]
    exact hnow
  | complete d l hreading hd =>
    refine .of_goesOn (reachable_step h.threads (.complete _ hreading)) fun stream => ?_
    have hnow := h.goesOn (reading_goesOn hreading) (.datagram d :: stream)
    rw [future_finish h.threads hreading hd] at hnow
    show previews p header 0 s0.loader ((s.received ++ [d]).map .datagram ++ stream) =
      (s.threads.completed ++ [resize l.data l.byteCount]) ++ _
    rw [List.map_append, List.append_assoc, List.append_assoc]
    exact hnow
  | fail value message text hreading hfail =>
    refine ⟨reachable_step h.threads (.readThrows hreading), fun hgoes => ?_, h.front⟩
    exact absurd (.inl rfl) hgoes

theorem Runs.explained (h : Runs p header s0 s) : Explained p header s0 s := by
  obtain ⟨hstarted, hrun⟩ := h
  induction hrun with
  | refl =>
    have hworker := hstarted.threads.worker .reader
    have hreading : ¬ s0.Reading := by
      unfold Reading
      simp [hworker]
    have hcalls : s0.calls = 0 := by
      unfold calls
      rw [hworker]
      rfl
    refine .of_goesOn ⟨s0.threads, hstarted.threads, .refl⟩ fun stream => ?_
    rw [future, if_neg hreading, hcalls, hstarted.received, hstarted.threads.completed]
    rfl
  | tail _ hstep ih => exact ih.step hstep

/-- Nothing is to come when nothing arrives. -/
theorem future_nil : s.future p header [] = [] := by
  unfold future
  split
  case isTrue hreading => exact resumed_nil _
  case isFalse hreading => exact previews_nil _

/-- The images completed are those that arrived. -/
theorem Explained.completed_eq (h : Explained p header s0 s)
    (hgoes : ¬ (s.threads.worker .reader).pc.left) :
    s.threads.completed = previews p header 0 s0.loader (s.received.map .datagram) := by
  have hnow := h.goesOn hgoes []
  rw [future_nil, List.append_nil, List.append_nil] at hnow
  exact hnow.symm

theorem Explained.handed_prefix (h : Explained p header s0 s) {arriving : List Datagram}
    (harrived : s.received <+: arriving) :
    s.threads.handed <+: previews p header 0 s0.loader (arriving.map .datagram) := by
  obtain ⟨rest, rfl⟩ := harrived
  rw [List.map_append]
  exact h.threads.invariant.recorded.inOrder.trans (h.front _)

/-- Whatever the threads and the network do, the window shows the images that were sent in full and
of which nothing was lost, in sending order and none of them twice. When everything has arrived and
the thread of `readPreviews` has not ended, at most two of them are still to be shown. -/
theorem shown_in_order (p : Platform) (socket : Socket) (hsocket : Preview.Undivided socket)
    (images : List Image) (lost : ℕ → ℕ → Bool)
    (houtage : Preview.OutagesBelow 65535
      (images.take (Preview.sentInFull p socket images)) lost)
    (header : ℕ → List Byte) {s0 s : Pipeline} (h : Runs p header s0 s)
    (harrived : s.received <+: Preview.carried p socket images lost) :
    let arrived := Preview.intactImages (images.take (Preview.sentInFull p socket images)) lost
    s.threads.handed <+: arrived ∧
      (s.received = Preview.carried p socket images lost →
        ¬ (s.threads.worker .reader).pc.left → arrived.length ≤ s.threads.handed.length + 2) := by
  have hpreviews := Preview.previews_carried hsocket images lost header s0.loader houtage
  refine ⟨?_, fun hall hgoes => ?_⟩
  · rw [← hpreviews]
    exact h.explained.handed_prefix harrived
  · rw [← hpreviews, ← hall, ← h.explained.completed_eq hgoes]
    exact h.explained.threads.invariant.length_le

/-- When everything has arrived and `readPreviews` waits for more, the other thread needs nobody to
show the rest: its steps come to an end, and then every image that arrived has been shown. -/
theorem all_shown (p : Platform) (socket : Socket) (hsocket : Preview.Undivided socket)
    (images : List Image) (lost : ℕ → ℕ → Bool)
    (houtage : Preview.OutagesBelow 65535
      (images.take (Preview.sentInFull p socket images)) lost)
    (header : ℕ → List Byte) {s0 s : Pipeline} (h : Runs p header s0 s)
    (harrived : s.received = Preview.carried p socket images lost) (hreading : s.Reading)
    (hstop : s.threads.stop = false) (hsetter : ¬ (s.threads.worker .setter).pc.left) :
    (¬ ∃ f : ℕ → Loader, f 0 = s.threads ∧ ∀ n, Loader.SetterStep (f n) (f (n + 1))) ∧
      ∀ t, Relation.ReflTransGen Loader.SetterStep s.threads t →
        (¬ ∃ u, Loader.SetterStep t u) → t.handed =
          Preview.intactImages (images.take (Preview.sentInFull p socket images)) lost := by
  have hwaiting : s.threads.Waiting :=
    ⟨h.explained.threads.invariant, hreading, hstop, hsetter⟩
  refine ⟨hwaiting.no_endless_run, fun t hrun hend => ?_⟩
  obtain ⟨hlast, hcompleted⟩ := hwaiting.run hrun
  rw [hlast.shown hend, hcompleted, h.explained.completed_eq (reading_goesOn hreading), harrived]
  exact Preview.previews_carried hsocket images lost header s0.loader houtage

/-! ### A run with one image -/

theorem taken_again {l : Locals Byte} {st u : Option (Reassembly.Progress ℕ Byte)}
    (h : Related l st) (d : Datagram) (hd : Usable p d)
    (hstep : Reassembly.step maxPayload st (decodeFrame p d) = (u, none)) :
    ∃ l', iteration p l (.datagram d) = .again l' ∧ Related l' u := by
  have hrefines := iteration_refines h hd
  rw [hstep] at hrefines
  generalize iteration p l (.datagram d) = i at hrefines
  cases hrefines with
  | again hrelated => exact ⟨_, rfl, hrelated⟩

theorem taken_done {l : Locals Byte} {st u : Option (Reassembly.Progress ℕ Byte)}
    (h : Related l st) (d : Datagram) (hd : Usable p d) {b : List Byte}
    (hstep : Reassembly.step maxPayload st (decodeFrame p d) = (u, some b)) :
    ∃ l', iteration p l (.datagram d) = .done l' := by
  have hrefines := iteration_refines h hd
  rw [hstep] at hrefines
  generalize iteration p l (.datagram d) = i at hrefines
  cases hrefines with
  | done himage => exact ⟨_, rfl⟩

theorem Runs.thread (h : Runs p header s0 s) {r : Loader} (hs : s.threads = r)
    (hstep : DoubleBuffer.Step r t) (hr : (r.worker .reader).pc ≠ .body)
    (hbuffers : t.buffers = r.buffers) : Runs p header s0 (s.advance header t) := by
  subst hs
  exact ⟨h.1, h.2.tail (.thread t hstep (fun hnow => absurd hnow hr) hbuffers)⟩

def machine : Platform := ⟨.eight, .little⟩

def twoBytes : Image where
  bytes := [1, 2]
  nonempty := Nat.le_of_ble_eq_true rfl
  fits := Nat.le_of_ble_eq_true rfl

def sizePacket : Datagram := [0, 0, 0, 0, 2, 0, 0, 0, 0, 0, 0, 0]

def dataPacket : Datagram := [0, 0, 1, 0, 1, 2]

theorem carried_twoBytes :
    Preview.carried machine reliable [twoBytes] (fun _ _ => false) = [sizePacket, dataPacket] := by
  show Preview.delivered machine [twoBytes] (fun _ _ => false) = _
  simp only [Preview.delivered, Preview.sent_eq, imageDatagrams_eq]
  decide

theorem usable_twoBytes (d : Datagram) (hd : d ∈ [sizePacket, dataPacket]) : Usable machine d := by
  rw [← carried_twoBytes] at hd
  have hdelivered : d ∈ Preview.delivered machine [twoBytes] fun _ _ => false := hd
  exact Preview.delivered_usable hdelivered

/-- The local variables when the first call begins, after its first datagram, and at its end. -/
def firstLocals : Locals Byte := enter [] [] 65535

@[irreducible] def sizeTaken : Locals Byte :=
  match iteration machine firstLocals (.datagram sizePacket) with
  | .again l => l
  | _ => firstLocals

@[irreducible] def dataTaken : Locals Byte :=
  match iteration machine sizeTaken (.datagram dataPacket) with
  | .done l => l
  | _ => sizeTaken

theorem takes_twoBytes :
    iteration machine firstLocals (.datagram sizePacket) = .again sizeTaken ∧
      iteration machine sizeTaken (.datagram dataPacket) = .done dataTaken := by
  obtain ⟨l, hsize, hrelated⟩ := taken_again (u := some ⟨0, 2, 1, []⟩)
    (related_enter [] [] 65535) sizePacket (usable_twoBytes sizePacket (by simp)) rfl
  have hl : sizeTaken = l := by
    unfold sizeTaken firstLocals
    rw [hsize]
  rw [← hl] at hsize hrelated
  obtain ⟨l', hdata⟩ := taken_done (b := [1, 2]) (u := none) hrelated
    dataPacket (usable_twoBytes dataPacket (by simp)) rfl
  have hl' : dataTaken = l' := by
    unfold dataTaken
    rw [hdata]
  rw [← hl'] at hdata
  exact ⟨hsize, hdata⟩

/-- `readPreview` has been called for the first time. -/
def firstCall : Pipeline := ⟨DoubleBuffer.reading, firstLocals, []⟩

theorem run_firstCall : Runs machine (fun _ => []) ⟨started, firstLocals, []⟩ firstCall := by
  have hstarted : Started ⟨started, firstLocals, []⟩ :=
    ⟨⟨rfl, fun _ => rfl, fun _ => rfl, rfl, rfl, rfl⟩, rfl⟩
  have hzero : Runs machine (fun _ => []) ⟨started, firstLocals, []⟩ _ := ⟨hstarted, .refl⟩
  have hloop := hzero.thread rfl (t := started.move .reader .lock) (.loop .reader rfl) (by decide)
    rfl
  have hlock := hloop.thread rfl (t := (started.move .reader .lock).move .reader .test)
    (.acquire .reader (.inl rfl) (by intro v; cases v <;> decide)) (by decide) rfl
  have htest := hlock.thread rfl
    (t := ((started.move .reader .lock).move .reader .test).move .reader .check)
    (.test .reader rfl) (by decide) rfl
  have hcheck := htest.thread rfl (t := DoubleBuffer.reading) (.check .reader rfl) (by decide) rfl
  rwa [advance_begins rfl (by decide)] at hcheck

theorem run_sizeTaken :
    Runs machine (fun _ => []) ⟨started, firstLocals, []⟩ (firstCall.refill sizePacket sizeTaken) :=
  ⟨run_firstCall.1, run_firstCall.2.tail (.receive sizePacket sizeTaken rfl takes_twoBytes.1)⟩

/-- It has returned the image. -/
def oneReturned : Pipeline := (firstCall.refill sizePacket sizeTaken).finish dataPacket dataTaken

theorem run_oneReturned : Runs machine (fun _ => []) ⟨started, firstLocals, []⟩ oneReturned :=
  ⟨run_firstCall.1,
    run_sizeTaken.2.tail (.complete dataPacket dataTaken rfl takes_twoBytes.2)⟩

/-- The reader gives the image to the other thread. -/
def oneGiven : Loader := (oneReturned.threads.assignFlag .reader).move .reader .notify

/-- It begins a new iteration. -/
def oneCounted : Loader :=
  (oneGiven.move .reader .next).put .reader ⟨.unlock,
    ((oneGiven.move .reader .next).worker .reader).index + 1,
    ((oneGiven.move .reader .next).worker .reader).iterations + 1⟩

theorem put_buffers (r : Loader) (w : Role) (x : Worker) : (r.put w x).buffers = r.buffers := rfl

def secondLocked : Loader :=
  ((oneCounted.move .reader .loop).move .reader .lock).move .reader .test

def secondCall : Loader := (secondLocked.move .reader .check).move .reader .body

theorem run_secondCall : ∃ s, Runs machine (fun _ => []) ⟨started, firstLocals, []⟩ s ∧
    s.threads = secondCall ∧ s.received = [sizePacket, dataPacket] := by
  have hflag : DoubleBuffer.Step oneReturned.threads oneGiven := .flag .reader rfl
  have hnotify : DoubleBuffer.Step oneGiven (oneGiven.move .reader .next) :=
    .notifyNobody .reader rfl (by intro v; cases v <;> decide)
  have hnext : DoubleBuffer.Step (oneGiven.move .reader .next) oneCounted := .next .reader rfl
  have hunlock : DoubleBuffer.Step oneCounted (oneCounted.move .reader .loop) :=
    .unlock .reader rfl
  have hloop : DoubleBuffer.Step (oneCounted.move .reader .loop)
      ((oneCounted.move .reader .loop).move .reader .lock) := .loop .reader rfl
  have hlock : DoubleBuffer.Step ((oneCounted.move .reader .loop).move .reader .lock)
      secondLocked := .acquire .reader (.inl rfl) (by intro v; cases v <;> decide)
  have htest : DoubleBuffer.Step secondLocked (secondLocked.move .reader .check) :=
    .test .reader rfl
  have hcheck : DoubleBuffer.Step (secondLocked.move .reader .check) secondCall :=
    .check .reader rfl
  have hgiven := run_oneReturned.thread rfl hflag (by decide) rfl
  have hcounted := (hgiven.thread rfl hnotify (by decide) (put_buffers _ _ _)).thread rfl hnext
    (by decide) (put_buffers _ _ _)
  have hagain := (hcounted.thread rfl hunlock (by decide) (put_buffers _ _ _)).thread rfl hloop
    (by decide) (put_buffers _ _ _)
  have hready := (hagain.thread rfl hlock (by decide) (put_buffers _ _ _)).thread rfl htest
    (by decide) (put_buffers _ _ _)
  exact ⟨_, hready.thread rfl hcheck (by decide) (put_buffers _ _ _), rfl, rfl⟩

theorem noOutage (lost : ℕ → ℕ → Bool) (n : ℕ) :
    Preview.OutagesBelow 65535 ([twoBytes].take n) lost := by
  intro i hi
  have hlength := List.length_take_le' n [twoBytes]
  rw [List.length_singleton] at hlength
  omega

theorem sentInFull_twoBytes : Preview.sentInFull machine reliable [twoBytes] = 1 :=
  (Preview.sentInFull_eq_iff Preview.reliable_undivided [twoBytes]).mpr (by
    rw [transferData_reliable])

theorem shown_in_order_twoBytes :
    [] <+: [twoBytes.bytes] ∧ [twoBytes.bytes].length ≤ 0 + 2 := by
  have hshown := shown_in_order machine reliable Preview.reliable_undivided [twoBytes]
    (fun _ _ => false) (noOutage _ _) (fun _ => []) run_oneReturned (by
      rw [carried_twoBytes]
      exact List.prefix_rfl)
  rw [sentInFull_twoBytes] at hshown
  exact ⟨hshown.1, hshown.2 carried_twoBytes.symm (by rintro (h | h) <;> cases h)⟩

theorem all_shown_twoBytes : ∃ s : Pipeline, s.received = [sizePacket, dataPacket] ∧
    (¬ ∃ f : ℕ → Loader, f 0 = s.threads ∧ ∀ n, Loader.SetterStep (f n) (f (n + 1))) ∧
      ∀ t, Relation.ReflTransGen Loader.SetterStep s.threads t →
        (¬ ∃ u, Loader.SetterStep t u) → t.handed = [twoBytes.bytes] := by
  obtain ⟨s, hrun, hthreads, hreceived⟩ := run_secondCall
  have hsetter : (s.threads.worker .setter).pc = .loop := by
    rw [hthreads]
    rfl
  have hall := all_shown machine reliable Preview.reliable_undivided [twoBytes]
    (fun _ _ => false) (noOutage _ _) (fun _ => []) hrun (hreceived.trans carried_twoBytes.symm)
    (by rw [Reading, hthreads]; rfl) (by rw [hthreads]; rfl) (by simp [hsetter, Pc.left])
  rw [sentInFull_twoBytes] at hall
  exact ⟨s, hreceived, hall⟩

end Pipeline

end Rckam
