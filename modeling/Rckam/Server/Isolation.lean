import Rckam.Server.Requests

/-! Which requests are answered without regard to what earlier requests left in the buffer. -/
namespace Rckam.Server

namespace Message

/-- The bytes of the request that are still in the buffer when it is served. -/
def kept (m : Message) : List Byte := m.payload ++ m.command.drop m.payload.length

/-- The bytes taken for a part of the request that were in the buffer before. -/
def stale (m : Message) (old : List Byte) : List Byte :=
  (old.drop (max m.payload.length enumSize)).take (min m.payload.length enumSize)

theorem kept_length (m : Message) : m.kept.length = max m.payload.length enumSize := by
  have hc := m.commandSize
  unfold kept
  rw [List.length_append, List.length_drop, hc]
  omega

theorem stored_eq_kept (m : Message) (old : List Byte) :
    m.stored old = m.kept ++ old.drop (max m.payload.length enumSize) := by
  have hc := m.commandSize
  have hmax : enumSize + (m.payload.length - enumSize) = max m.payload.length enumSize := by omega
  unfold stored kept
  rw [List.drop_append, List.append_assoc, hc, List.drop_drop, hmax]

/-- The command that `run` takes from the buffer. -/
def decoded (m : Message) (p : Platform) : ℕ := p.load (m.kept.take enumSize)

/-! What is taken from the buffer, by where it comes from. -/

theorem read_command (m : Message) (p : Platform) (old : List Byte) :
    (m.read p old).command = m.decoded p := by
  have hlen := m.kept_length
  show p.load ((m.stored old).take enumSize) = p.load (m.kept.take enumSize)
  rw [stored_eq_kept, List.take_append_of_le_length (by omega)]

theorem read_arguments (m : Message) (p : Platform) (old : List Byte) :
    (m.read p old).arguments = parse (m.payload.drop enumSize ++ m.stale old) := by
  have hc := m.commandSize
  have hlen := m.kept_length
  have hdrop : m.kept.drop enumSize = m.payload.drop enumSize := by
    unfold kept
    by_cases hlong : enumSize ≤ m.payload.length
    · have hnil : m.command.drop m.payload.length = [] := List.drop_of_length_le (by omega)
      rw [hnil, List.append_nil]
    · rw [List.drop_of_length_le, List.drop_of_length_le (by omega)]
      rw [List.length_append, List.length_drop, hc]
      omega
  have hsize : m.payload.length - (m.payload.drop enumSize).length =
      min m.payload.length enumSize := by
    rw [List.length_drop]
    omega
  have hshort : (m.payload.drop enumSize).length ≤ m.payload.length := by
    rw [List.length_drop]
    omega
  show parse (((m.stored old).drop enumSize).take m.payload.length) = _
  unfold stale
  rw [stored_eq_kept, List.drop_append_of_le_length (by omega), hdrop, List.take_append, hsize,
    List.take_of_length_le hshort]

theorem read_echo (m : Message) (p : Platform) (old : List Byte) :
    (m.read p old).echo = m.kept ++ m.stale old := by
  have hlen := m.kept_length
  have hrest : enumSize + m.payload.length - m.kept.length =
      min m.payload.length enumSize := by omega
  show (m.stored old).take (enumSize + m.payload.length) = _
  unfold stale
  rw [stored_eq_kept, List.take_append, hrest, List.take_of_length_le (by omega)]

/-- Only the stale bytes matter. -/
theorem read_congr {m : Message} (p : Platform) {old old' : List Byte}
    (h : m.stale old = m.stale old') : m.read p old = m.read p old' := by
  apply Request.ext
  · rw [m.read_command, m.read_command]
  · rw [m.read_arguments, m.read_arguments, h]
  · rw [m.read_echo, m.read_echo, h]

theorem stale_nil {m : Message} (h : m.payload = []) (old : List Byte) : m.stale old = [] := by
  unfold stale
  rw [h]
  rfl

/-- Every byte value can be stale. -/
theorem stale_replicate {m : Message} (h : m.payload ≠ []) (v : Byte) :
    ∃ n, m.stale (List.replicate commandBufferSize v) = v :: List.replicate n v := by
  have hpos := List.length_pos_iff.mpr h
  have hfits := m.fits
  have hmin : 0 < min m.payload.length enumSize := lt_min hpos (by decide)
  have hroom : min m.payload.length enumSize ≤
      commandBufferSize - max m.payload.length enumSize := by omega
  refine ⟨min m.payload.length enumSize - 1, ?_⟩
  unfold stale
  rw [List.drop_replicate, List.take_replicate, Nat.min_eq_left hroom, ← List.replicate_succ,
    Nat.sub_add_cancel hmin]

end Message

/-- Whatever follows these bytes, they settle the first two arguments: there is a tab, and after
it another tab or the end of a C string. -/
def Settles (data : List Byte) : Prop :=
  ∃ model rest, data = model ++ tab :: rest ∧ tab ∉ model ∧ (tab ∈ rest ∨ 0 ∈ rest)

theorem splitOn_append {l : List Byte} (h : tab ∉ l) (l' : List Byte) :
    (l ++ l').splitOn tab = (l'.splitOn tab).modifyHead (l ++ ·) := by
  induction l with
  | nil =>
    have hid : (fun x : List Byte => [] ++ x) = id := rfl
    rw [hid, List.modifyHead_id]
    rfl
  | cons b l ih =>
    have hb : (b == tab) = false := by
      rw [beq_eq_false_iff_ne]
      exact fun h0 => h (h0 ▸ List.mem_cons_self)
    rw [List.cons_append, List.splitOn_cons_eq_if_modifyHead, hb,
      ih fun h0 => h (List.mem_cons_of_mem b h0)]
    cases (l'.splitOn tab) <;> rfl

theorem settles_arguments {data : List Byte} (h : Settles data) :
    ∃ model port, ∀ stale, ∃ usbPort rest,
      parse (data ++ stale) = model :: usbPort :: rest ∧ cString usbPort = port := by
  obtain ⟨model, tail, rfl, hmodel, htail⟩ := h
  by_cases htab : tab ∈ tail
  · obtain ⟨usbPort, rest, rfl, hport⟩ := List.eq_append_cons_of_mem htab
    refine ⟨model, cString usbPort, fun stale => ⟨usbPort, (rest ++ stale).splitOn tab, ?_, rfl⟩⟩
    unfold parse
    rw [List.append_assoc, List.cons_append, List.append_assoc, List.cons_append,
      List.splitOn_append_cons_self_of_not_mem hmodel,
      List.splitOn_append_cons_self_of_not_mem hport]
  · refine ⟨model, cString tail, fun stale => ?_⟩
    obtain ⟨first, rest, hsplit⟩ := List.exists_cons_of_ne_nil (List.splitOn_ne_nil tab stale)
    refine ⟨tail ++ first, rest, ?_, cString_append (htail.resolve_left htab)⟩
    unfold parse
    rw [List.append_assoc, List.cons_append, List.splitOn_append_cons_self_of_not_mem hmodel,
      splitOn_append htab, hsplit]
    rfl

/-- The request is answered in the same way after any two histories that leave the same cameras,
whatever the buffer held at the start. -/
def Isolated (p : Platform) (m : Message) : Prop :=
  ∀ (lib : Gphoto2) (ending : Ending) (start start' s s' : Idle lib)
    (history history' : List Connection),
    run p start history = some s → run p start' history' = some s' →
      s.controller = s'.controller →
        (serve p s (m.connection ending)).response = (serve p s' (m.connection ending)).response

/-- The request has no payload, or the command taken from the buffer uses neither echo nor
arguments, or it is a camera selection whose arguments are settled by the bytes of the payload
that are taken for arguments. -/
def SelfContained (p : Platform) (m : Message) : Prop :=
  m.payload = [] ∨
    (m.decoded p ≠ ServerCommand.echoOnly.value ∧
      m.decoded p ≠ ServerCommand.selectCamera.value) ∨
    (m.decoded p = ServerCommand.selectCamera.value ∧ Settles (m.payload.drop enumSize))

variable {lib : Gphoto2} {p : Platform} {m : Message}

theorem serve_message (p : Platform) (s : Idle lib) (m : Message) (ending : Ending) :
    (serve p s (m.connection ending)).response =
      (respond p (m.read p s.buffer.bytes) s.controller).1 := by
  obtain ⟨b', -, hreceive⟩ := receive_message p s.buffer m ending
  exact serve_response hreceive

theorem argumentAt_none (lib : Gphoto2) {arguments : List (List Byte)} {n : ℕ}
    (h : arguments[n]? = none) :
    ∃ what, (argumentAt arguments n : Action lib (List Byte)) = throw (.stdException what) := by
  unfold argumentAt
  rw [h]
  exact ⟨_, rfl⟩

theorem execute_select {r : Request} (hcommand : r.command = ServerCommand.selectCamera.value)
    {model usbPort : List Byte} {rest : List (List Byte)}
    (harguments : r.arguments = model :: usbPort :: rest) :
    (execute p r : Action lib (List Byte)) = do
      CameraController.selectCamera (cString model) (cString usbPort)
      return success p := by
  rw [execute_selectCamera hcommand, harguments]
  rfl

/-- The other commands look at the command only. -/
theorem execute_other {r r' : Request} (hcommand : r.command = r'.command)
    (hecho : r.command ≠ ServerCommand.echoOnly.value)
    (hselect : r.command ≠ ServerCommand.selectCamera.value) :
    (execute p r : Action lib (List Byte)) = execute p r' := by
  unfold execute
  rw [← hcommand, if_neg hecho, if_neg hecho, if_neg hselect, if_neg hselect]

/-- A self-contained request is executed in the same way whatever the buffer held before. -/
theorem SelfContained.execute_eq (h : SelfContained p m) (old old' : List Byte) :
    (execute p (m.read p old) : Action lib (List Byte)) = execute p (m.read p old') := by
  have hcommand := m.read_command p old
  have hcommand' := m.read_command p old'
  rcases h with h | ⟨hecho, hselect⟩ | ⟨hselect, hsettles⟩
  · rw [Message.read_congr p ((Message.stale_nil h old).trans (Message.stale_nil h old').symm)]
  · apply execute_other (hcommand.trans hcommand'.symm)
    · rw [hcommand]
      exact hecho
    · rw [hcommand]
      exact hselect
  · obtain ⟨model, port, hsettled⟩ := settles_arguments hsettles
    obtain ⟨usbPort, rest, hparse, hport⟩ := hsettled (m.stale old)
    obtain ⟨usbPort', rest', hparse', hport'⟩ := hsettled (m.stale old')
    rw [execute_select (hcommand.trans hselect) ((m.read_arguments p old).trans hparse),
      execute_select (hcommand'.trans hselect) ((m.read_arguments p old').trans hparse'),
      hport, hport']

theorem SelfContained.isolated (h : SelfContained p m) : Isolated p m := by
  intro lib ending start start' s s' history history' _ _ hcontroller
  rw [serve_message, serve_message, hcontroller]
  unfold respond
  rw [h.execute_eq s.buffer.bytes s'.buffer.bytes]

/-! ### The other requests -/

/-- A library that knows every camera model, and the ports that `ok` accepts. -/
def accepting (ok : List Byte → Bool) : Gphoto2 where
  State := Unit
  Abilities := Unit
  PortInfo := Unit
  gpListNew := fun s => ((0, some 1), s)
  gpListReset := fun _ s => s
  gpCameraAutodetect := fun _ s => (0, s)
  gpListFree := fun _ s => s
  gpListGetName := fun _ _ s => ((0, some []), s)
  gpListGetValue := fun _ _ s => ((0, some []), s)
  gpAbilitiesListNew := fun s => ((0, some 2), s)
  gpAbilitiesListLoad := fun _ s => (0, s)
  gpAbilitiesListLookupModel := fun _ _ s => (0, s)
  gpAbilitiesListGetAbilities := fun _ _ s => ((0, ()), s)
  gpCameraSetAbilities := fun _ _ s => (0, s)
  gpPortInfoListNew := fun s => ((0, some 3), s)
  gpPortInfoListLoad := fun _ s => (0, s)
  gpPortInfoListCount := fun _ s => (0, s)
  gpPortInfoListLookupPath := fun _ port s => (if ok port then 0 else -1, s)
  gpPortInfoListGetInfo := fun _ _ s => ((0, ()), s)
  gpCameraSetPortInfo := fun _ _ s => (0, s)

def fresh (ok : List Byte → Bool) : CameraController (accepting ok) :=
  ⟨(), none, none, ⟨none, 0⟩, some 4, ∅⟩

section Accepting
variable {ok : List Byte → Bool}

theorem setAbilities_accepting (model : List Byte) :
    (Camera.setAbilities model).run (fresh ok) =
      .ok () { fresh ok with abilitiesList := some 2 } := rfl

theorem portInfoList_accepting {s : CameraController (accepting ok)}
    (hnew : s.portInfoList = none) :
    Camera.portInfoList.run s = .ok (some 3) { s with portInfoList := some 3 } := by
  cases s
  subst hnew
  rfl

theorem lookup_accepting (list : Option Handle) (port : List Byte) :
    (accepting ok).gpPortInfoListLookupPath list port () = (if ok port then 0 else -1, ()) := rfl

theorem setPortInfo_accepted {port : List Byte} (hok : ok port = true) :
    (Camera.setPortInfo port).run { fresh ok with abilitiesList := some 2 } =
      .ok () { fresh ok with abilitiesList := some 2, portInfoList := some 3 } := by
  unfold Camera.setPortInfo
  simp only [EStateM.run_bind, EStateM.run_get, fresh, portInfoList_accepting, run_call,
    lookup_accepting, hok, ↓reduceIte]
  rfl

theorem setPortInfo_refused {port : List Byte} (hok : ok port = false) :
    ∃ message s, (Camera.setPortInfo port).run { fresh ok with abilitiesList := some 2 } =
      .error (gphoto2Exception message) s := by
  unfold Camera.setPortInfo
  simp only [EStateM.run_bind, EStateM.run_get, fresh, portInfoList_accepting, run_call,
    lookup_accepting, hok, Bool.false_eq_true, ↓reduceIte]
  exact ⟨_, _, rfl⟩

variable {p : Platform} {r : Request} (hcommand : r.command = ServerCommand.selectCamera.value)
  {model usbPort : List Byte} {rest : List (List Byte)}
include hcommand

theorem respond_accepted (harguments : r.arguments = model :: usbPort :: rest)
    (hok : ok (cString usbPort) = true) :
    (respond p r (fresh ok)).1 = some (success p) := by
  unfold respond
  simp only [execute_select hcommand harguments, CameraController.selectCamera, EStateM.run_bind,
    setAbilities_accepting, setPortInfo_accepted hok]
  rfl

variable (ok) in
theorem respond_refused (harguments : r.arguments = model :: usbPort :: rest)
    (hok : ok (cString usbPort) = false) :
    ∃ thrown, (respond p r (fresh ok)).1 = failure p thrown := by
  obtain ⟨message, s, hrefused⟩ := setPortInfo_refused hok
  unfold respond
  simp only [execute_select hcommand harguments, CameraController.selectCamera, EStateM.run_bind,
    setAbilities_accepting, hrefused]
  exact ⟨_, rfl⟩

variable (ok) in
theorem respond_short (harguments : r.arguments = [model]) :
    ∃ thrown, (respond p r (fresh ok)).1 = failure p thrown := by
  obtain ⟨what, hwhat⟩ := argumentAt_none (accepting ok)
    (by rfl : [model][1]? = none)
  refine ⟨.stdException what, ?_⟩
  unfold respond
  rw [execute_selectCamera hcommand, harguments]
  simp only [EStateM.run_bind, hwhat]
  rfl

end Accepting

theorem success_ne_failure (p : Platform) (thrown : Thrown) :
    some (success p) ≠ failure p thrown := by
  have hne (what : List Byte) : success p ≠ ResponseCode.failure.bytes p ++ what := by
    intro h
    have htake := congrArg (List.take enumSize) h
    rw [success, List.take_of_length_le (by simp), List.take_left' (by simp)] at htake
    have hcode := ResponseCode.bytes_inj p htake
    contradiction
  intro h
  cases thrown with
  | exceptionData errorNumber message =>
    have hbytes := Option.some.inj h
    simp only [List.append_assoc] at hbytes
    exact hne _ hbytes
  | stdException what =>
    have hbytes := Option.some.inj h
    rw [List.append_assoc] at hbytes
    exact hne _ hbytes
  | assertionFailed => contradiction
  | undefined => contradiction

/-- Two contents of the buffer for which the answers differ. -/
theorem not_isolated (ok : List Byte → Bool) (v v' : Byte)
    (h : (respond p (m.read p (List.replicate commandBufferSize v)) (fresh ok)).1 ≠
      (respond p (m.read p (List.replicate commandBufferSize v')) (fresh ok)).1) :
    ¬ Isolated p m := by
  intro hisolated
  have heq := hisolated (accepting ok) .silent
    ⟨⟨List.replicate commandBufferSize v, List.length_replicate⟩, fresh ok⟩
    ⟨⟨List.replicate commandBufferSize v', List.length_replicate⟩, fresh ok⟩ _ _ [] [] rfl rfl rfl
  rw [serve_message, serve_message] at heq
  exact h heq

theorem echo_not_isolated (hpayload : m.payload ≠ [])
    (hcommand : m.decoded p = ServerCommand.echoOnly.value) : ¬ Isolated p m := by
  have hecho (v : Byte) : ∃ n, (respond p (m.read p (List.replicate commandBufferSize v))
      (fresh fun _ => true)).1 = some (m.kept ++ v :: List.replicate n v) := by
    obtain ⟨n, hstale⟩ := Message.stale_replicate hpayload v
    refine ⟨n, ?_⟩
    have hif : (m.read p (List.replicate commandBufferSize v)).command =
        ServerCommand.echoOnly.value := (m.read_command p _).trans hcommand
    unfold respond
    rw [execute_echoOnly hif, m.read_echo, hstale]
    rfl
  obtain ⟨n, hn⟩ := hecho 0
  obtain ⟨n', hn'⟩ := hecho 1
  apply not_isolated (fun _ => true) 0 1
  intro heq
  rw [hn, hn'] at heq
  have htail := List.append_cancel_left (Option.some.inj heq)
  have hhead := (List.cons.inj htail).1
  revert hhead
  decide

/-- A second argument that is not ended goes on with the stale bytes. -/
theorem open_port_not_isolated (hpayload : m.payload ≠ [])
    (hselect : ∀ old, (m.read p old).command = ServerCommand.selectCamera.value)
    {model tail : List Byte} (hsplit : m.payload.drop enumSize = model ++ tab :: tail)
    (hmodel : tab ∉ model) (htab : tab ∉ tail) (hnul : 0 ∉ tail) : ¬ Isolated p m := by
  have harguments {v : Byte} (hv : v ≠ tab ∧ v ≠ 0) :
      ∃ n, (m.read p (List.replicate commandBufferSize v)).arguments =
        [model, tail ++ v :: List.replicate n v] ∧
          cString (tail ++ v :: List.replicate n v) = tail ++ v :: List.replicate n v := by
    obtain ⟨n, hstale⟩ := Message.stale_replicate hpayload v
    have hnot {b : Byte} (hb : b ∉ tail) (hne : v ≠ b) : b ∉ tail ++ v :: List.replicate n v := by
      rw [← List.replicate_succ, List.mem_append, List.mem_replicate]
      rintro (h | ⟨-, h⟩)
      · exact hb h
      · exact hne h.symm
    refine ⟨n, ?_, cString_eq_self (hnot hnul hv.2)⟩
    rw [m.read_arguments, hsplit, hstale, parse, List.append_assoc, List.cons_append,
      List.splitOn_append_cons_self_of_not_mem hmodel,
      List.splitOn_eq_singleton (hnot htab hv.1)]
  obtain ⟨n, hn, hport⟩ := harguments (v := 1) (by decide)
  obtain ⟨n', hn', hport'⟩ := harguments (v := 2) (by decide)
  -- the camera library knows only one of the two ports
  apply not_isolated (fun port => port == tail ++ 1 :: List.replicate n 1) 1 2
  rw [respond_accepted (hselect _) hn (by rw [hport]; exact beq_self_eq_true _)]
  obtain ⟨thrown, hrefused⟩ := respond_refused (p := p)
    (fun port => port == tail ++ 1 :: List.replicate n 1) (hselect _) hn' (by
      rw [hport', beq_eq_false_iff_ne]
      intro heq
      have hhead := (List.cons.inj (List.append_cancel_left heq)).1
      revert hhead
      decide)
  rw [hrefused]
  exact success_ne_failure p thrown

/-- Without a tab in the payload, it depends on the stale bytes whether there is a second
argument. -/
theorem one_argument_not_isolated (hpayload : m.payload ≠ [])
    (hselect : ∀ old, (m.read p old).command = ServerCommand.selectCamera.value)
    (htab : tab ∉ m.payload.drop enumSize) : ¬ Isolated p m := by
  obtain ⟨n, hstale⟩ := Message.stale_replicate hpayload tab
  obtain ⟨n', hstale'⟩ := Message.stale_replicate hpayload 1
  obtain ⟨usbPort, rest, hrest⟩ := List.exists_cons_of_ne_nil
    (List.splitOn_ne_nil tab (List.replicate n tab))
  have htwo : (m.read p (List.replicate commandBufferSize tab)).arguments =
      m.payload.drop enumSize :: usbPort :: rest := by
    rw [m.read_arguments, hstale, parse, List.splitOn_append_cons_self_of_not_mem htab, hrest]
  have hone : (m.read p (List.replicate commandBufferSize 1)).arguments =
      [m.payload.drop enumSize ++ 1 :: List.replicate n' 1] := by
    rw [m.read_arguments, hstale', parse, List.splitOn_eq_singleton]
    rw [← List.replicate_succ, List.mem_append, List.mem_replicate]
    rintro (h | ⟨-, h⟩)
    · exact htab h
    · revert h
      decide
  apply not_isolated (fun _ => true) tab 1
  rw [respond_accepted (hselect _) htwo rfl]
  obtain ⟨thrown, hrefused⟩ := respond_short (p := p) (fun _ => true) (hselect _) hone
  rw [hrefused]
  exact success_ne_failure p thrown

theorem select_not_isolated (hpayload : m.payload ≠ [])
    (hcommand : m.decoded p = ServerCommand.selectCamera.value)
    (hopen : ¬ Settles (m.payload.drop enumSize)) : ¬ Isolated p m := by
  have hselect (old : List Byte) : (m.read p old).command = ServerCommand.selectCamera.value :=
    (m.read_command p old).trans hcommand
  by_cases htab : tab ∈ m.payload.drop enumSize
  · obtain ⟨model, tail, hsplit, hmodel⟩ := List.eq_append_cons_of_mem htab
    apply open_port_not_isolated hpayload hselect hsplit hmodel
    · exact fun h => hopen ⟨model, tail, hsplit, hmodel, Or.inl h⟩
    · exact fun h => hopen ⟨model, tail, hsplit, hmodel, Or.inr h⟩
  · exact one_argument_not_isolated hpayload hselect htab

def echoZero : Message := .echoOnly [0] (by decide)

end Rckam.Server
