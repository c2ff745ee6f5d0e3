import Rckam.Client.Truncation
import Rckam.Server.Arrival

/-! The queries of clients at one server, each of them compiled for a platform of its own. -/
namespace Rckam.Client
open Server

/-- What `query` sends for `listCameras`. -/
def queryMessage (p : Platform) : Message where
  command := p.store enumSize ServerCommand.listCameras.value
  commandSize := p.store_length _ _
  payload := []
  fits := by decide

/-- The client waits for the response behind its command. -/
def queryConnection (p : Platform) : Connection := (queryMessage p).connection .silent

section Lists
variable {lib : Gphoto2}

/-- The response to a list command, if the program goes on. -/
def listing (q : Platform) (controller : CameraController lib) :
    Option (List Byte) × CameraController lib :=
  respond q ⟨ServerCommand.listCameras.value, [], []⟩ controller

/-- The cameras after a number of list commands, if the program still goes on. -/
def listed (q : Platform) : ℕ → CameraController lib → Option (CameraController lib)
  | 0, controller => some controller
  | n + 1, controller =>
      if (listing q controller).1.isSome then listed q n (listing q controller).2 else none

variable {p q : Platform}

/-- The command is understood on platforms of one byte order, and is none of the other commands
that the server knows on platforms of different ones. -/
theorem load_query :
    if p.order = q.order then
      q.load (queryMessage p).command = ServerCommand.listCameras.value
    else q.load (queryMessage p).command = 33554432 := by
  have hdecode : ∀ o o' : ByteOrder, if o = o' then
      o'.decode (o.encode enumSize ServerCommand.listCameras.value) =
        ServerCommand.listCameras.value
      else o'.decode (o.encode enumSize ServerCommand.listCameras.value) = 33554432 := by
    intro o o'
    cases o <;> cases o' <;> decide
  exact hdecode p.order q.order

theorem receive_query (b : Buffer) (p : Platform) : ∃ r b',
    receive q b (queryConnection p) = (.request r, b') ∧
      r.command = q.load (queryMessage p).command := by
  obtain ⟨b', -, hreceive⟩ := receive_message q b (queryMessage p) .silent
  refine ⟨_, b', hreceive, ?_⟩
  have hstored : ((queryMessage p).stored b.bytes).take enumSize = (queryMessage p).command :=
    List.take_left' (queryMessage p).commandSize
  simp [Message.read, hstored]

/-- Only the command of the request matters. -/
theorem respond_listing {r : Request} (h : r.command = ServerCommand.listCameras.value)
    (controller : CameraController lib) : respond q r controller = listing q controller := by
  unfold listing respond
  rw [execute_listCameras h, execute_listCameras rfl]

/-- An iteration that has received a request and comes back from it. -/
theorem serve_request {s : Idle lib} {c : Connection} {r : Request} {b' : Buffer}
    (h : receive q s.buffer c = (.request r, b')) {response : List Byte}
    {controller : CameraController lib}
    (hrespond : respond q r s.controller = (some response, controller)) :
    serve q s c = .next (some response) ⟨b', controller⟩ := by
  unfold serve
  simp only [h, hrespond]

/-- What becomes of a list command: it is answered with an exception when no list is created, and
with nothing when there is no camera, it ends the server when the autodetection fails, and otherwise
the names are looked for in a list that is gone. -/
structure Listing (q : Platform) (s : Idle lib) (served : Served lib) : Prop where
  refused : autodetected s.controller = none →
    ∃ message u, served = .next (failure q (gphoto2Exception message)) u
  empty : autodetected s.controller = some 0 → ∃ u, served = .next (some []) u
  failed : ∀ ret ∈ autodetected s.controller, ret < 0 → served = .halted
  found : ∀ ret ∈ autodetected s.controller, 0 < ret → served = .undefined

theorem serve_listing {s : Idle lib} {c : Connection} {r : Request} {b' : Buffer}
    (h : receive q s.buffer c = (.request r, b'))
    (hlist : r.command = ServerCommand.listCameras.value) : Listing q s (serve q s c) where
  refused hnone := by
    obtain ⟨message, t, hrespond⟩ := respond_undetected (p := q) (r := ⟨r, hlist⟩) hnone
    exact ⟨message, ⟨b', t⟩, serve_request h hrespond⟩
  empty hzero := by
    obtain ⟨t, hrespond⟩ := respond_detected (p := q) (r := ⟨r, hlist⟩) hzero le_rfl
    exact ⟨⟨b', t⟩, serve_request h hrespond⟩
  failed ret hret hneg := by
    obtain ⟨t, hrespond⟩ := respond_negative (p := q) (r := ⟨r, hlist⟩) hret hneg
    have hstrays := strays_negative (p := q) (r := ⟨r, hlist⟩) hret hneg
    unfold serve
    simp [h, hrespond, hstrays]
  found ret hret hpos := by
    obtain ⟨t, hrespond⟩ := respond_detected (p := q) (r := ⟨r, hlist⟩) hret hpos.le
    have hstrays := strays_detected (p := q) (r := ⟨r, hlist⟩) hret hpos.le
    unfold serve
    simp [h, hrespond, hstrays, hpos.ne']

theorem serve_same (h : p.order = q.order) (s : Idle lib) :
    Listing q s (serve q s (queryConnection p)) := by
  obtain ⟨r, b', hreceive, hcommand⟩ := receive_query (q := q) s.buffer p
  have hload := load_query (p := p) (q := q)
  rw [if_pos h, ← hcommand] at hload
  exact serve_listing hreceive hload

/-- The server comes back from a list command exactly when it has answered it. -/
theorem run_same (h : p.order = q.order) (s : Idle lib) (connections : List Connection) :
    ∃ b', Server.run q s (queryConnection p :: connections) =
      if (listing q s.controller).1.isSome then
        Server.run q ⟨b', (listing q s.controller).2⟩ connections
      else none := by
  obtain ⟨r, b', hreceive, hcommand⟩ := receive_query (q := q) s.buffer p
  have hload := load_query (p := p) (q := q)
  rw [if_pos h, ← hcommand] at hload
  refine ⟨b', ?_⟩
  rw [Server.run, ← respond_listing hload]
  cases hrespond : respond q r s.controller with
  | mk response controller =>
    cases response with
    | some response => rw [serve_request hreceive hrespond]; rfl
    | none =>
      unfold serve
      cases hstrays : strays q r s.controller <;> simp [hreceive, hrespond, hstrays]

theorem serve_other (h : p.order ≠ q.order) (s : Idle lib) : ∃ b',
    serve q s (queryConnection p) = .next (some commandNotSupported) ⟨b', s.controller⟩ := by
  obtain ⟨r, b', hreceive, hcommand⟩ := receive_query (q := q) s.buffer p
  have hload := load_query (p := p) (q := q)
  rw [if_neg h, ← hcommand] at hload
  have hrespond : respond q r s.controller = (some commandNotSupported, s.controller) := by
    unfold respond
    rw [execute_unsupported (by rw [hload]; decide) (by rw [hload]; decide)
      (by rw [hload]; decide)]
    rfl
  exact ⟨b', serve_request hreceive hrespond⟩

/-- Clients of the other byte order leave no trace in the cameras. -/
theorem run_queries (ps : List Platform) (s : Idle lib) :
    (Server.run q s (ps.map queryConnection)).map Idle.controller =
      listed q (ps.countP fun p => p.order = q.order) s.controller := by
  induction ps generalizing s with
  | nil => rfl
  | cons p ps ih =>
    by_cases h : p.order = q.order
    · obtain ⟨b', hrun⟩ := run_same h s (ps.map queryConnection)
      rw [List.map_cons, hrun, List.countP_cons_of_pos (by simpa using h), listed]
      split
      · exact ih _
      · rfl
    · obtain ⟨b', hserve⟩ := serve_other h s
      simp only [List.map_cons, Server.run, hserve]
      rw [ih, List.countP_cons_of_neg (by simpa using h)]

end Lists

/-- A reply that arrives to its end is read as far as the buffer holds it. -/
theorem listCameras_arrival {a : Arrival} (hclosed : a.closed = true) :
    (listCameras a.exchange .success).1 = parseCameras (a.reply.take commandBufferSize) := by
  have hclear : ¬ ErrorCode.success.isSet := by decide
  unfold listCameras
  rw [if_neg hclear, query_arrival, hclosed]
  split
  · rfl
  · next hshort => rw [if_pos rfl, List.take_of_length_le (not_le.mp hshort).le]

/-- The reply to a command that is not supported looks like a camera. -/
theorem parse_notSupported : parseCameras commandNotSupported = [⟨[0, 1], []⟩] := by
  have hmodel : IStream.getline ⟨commandNotSupported, false, false⟩ [] tab =
      ([0, 1], ⟨[], true, false⟩) := IStream.getline_last [] (by decide)
  have hport : IStream.getline ⟨[], true, false⟩ [] newline = ([], ⟨[], true, true⟩) :=
    IStream.getline_bad [] newline (Or.inl rfl)
  exact (cameraLoop_turn rfl hmodel hport).trans (by rw [cameraLoop_failed rfl])

/-- Nothing looks like a camera without names. -/
theorem parse_nothing : parseCameras [] = [⟨[], []⟩] := cameraLoop_end rfl (Or.inr rfl)

/-- Whatever clients query a server: its cameras depend only on how many of them have its byte
order. Such a client is answered as the autodetection goes, and takes the empty answer for one
camera without names. Any other one is told that its command is not supported, which leaves no trace
and is taken for one camera. -/
theorem queries_served {lib : Gphoto2} (q : Platform) (s : Idle lib) (ps : List Platform)
    (p : Platform) :
    (Server.run q s (ps.map queryConnection)).map Idle.controller =
        listed q (ps.countP fun p => p.order = q.order) s.controller ∧
      ∀ t, Server.run q s (ps.map queryConnection) = some t →
        (p.order = q.order → Listing q t (serve q t (queryConnection p)) ∧
          ∀ a : Arrival, a.reply = [] → a.closed = true →
            (listCameras a.exchange .success).1 = [⟨[], []⟩]) ∧
        (p.order ≠ q.order →
          (∃ b, serve q t (queryConnection p) =
            .next (some commandNotSupported) ⟨b, t.controller⟩) ∧
            ∀ a : Arrival, a.reply = commandNotSupported → a.closed = true →
              (listCameras a.exchange .success).1 = [⟨[0, 1], []⟩]) := by
  refine ⟨run_queries ps s, fun t _ => ⟨?_, ?_⟩⟩
  · intro hsame
    refine ⟨serve_same hsame t, fun a hreply hclosed => ?_⟩
    rw [listCameras_arrival hclosed, hreply, ← parse_nothing]
    rfl
  · intro hother
    refine ⟨serve_other hother t, fun a hreply hclosed => ?_⟩
    rw [listCameras_arrival hclosed, hreply, ← parse_notSupported]
    rfl

end Rckam.Client
