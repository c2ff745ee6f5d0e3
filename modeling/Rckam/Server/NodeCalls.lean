import Rckam.Library.Outcomes
import Rckam.Library.Traces
import Rckam.Server.CaptureCard

/-! The system calls that `CaptureCard::detect` makes for the nodes of the video devices. -/
namespace Rckam.NodeCalls
open Server Outcomes

inductive Syscall where
  | open (devNode : List Byte)
  | querycap (fd : ℤ)
  | mediaDeviceInfo (fd : ℤ)
  | close (fd : ℤ)
  deriving DecidableEq, Repr

/-- What a call returns, and what the two requests write. -/
structure Reply where
  ret : ℤ
  capability : Capability
  info : MediaDeviceInfo

structure Made where
  syscall : Syscall
  reply : Reply

/-- The kernel, which may answer as it likes after the calls so far. -/
abbrev Kernel := List Made → Syscall → Reply

/-- A computation that makes calls. It throws nothing. -/
abbrev Action := EStateM Empty (List Made)

/-- The `bus_info` and the `card` that are taken from the information on a media device. -/
def names (mdi : MediaDeviceInfo) : List Byte × List Byte :=
  (if mdi.busInfo.headD 0 ≠ 0 then cString mdi.busInfo
    else text "platform:" ++ cString mdi.driver,
  if mdi.model.headD 0 ≠ 0 then cString mdi.model else cString mdi.driver)

section Calls
variable (kernel : Kernel)

def call (c : Syscall) : Action Reply := do
  let made ← get
  set (made ++ [⟨c, kernel made c⟩])
  return kernel made c

/-- The `bus_info` and the `card`, unless both requests fail. -/
def identify (fd : ℤ) : Action (Option (List Byte × List Byte)) := do
  let vcap ← call kernel (.querycap fd)
  if vcap.ret ≠ 0 then
    let mdi ← call kernel (.mediaDeviceInfo fd)
    if mdi.ret = 0 then return some (names mdi.info) else return none
  else return some (cString vcap.capability.busInfo, cString vcap.capability.card)

/-- The body of the loop up to the search for the card. -/
def visit (devNode : List Byte) : Action (Option (List Byte × List Byte)) := do
  let fd ← call kernel (.open devNode)
  if fd.ret < 0 then return none
  else
    let found ← identify kernel fd.ret
    let _ ← call kernel (.close fd.ret)
    return found

def detectLoop : List VideoDevice → List CaptureCard → Action (List CaptureCard)
  | [], cards => return cards
  | device :: devices, cards => do
      match ← visit kernel device.devNode with
      | none => detectLoop devices cards
      | some (busInfo, card) =>
        detectLoop devices (CaptureCard.record cards busInfo card device.devNode)

/-- `detect`, for the devices that `matchProperty` finds. -/
def detect (p : Platform) (devices : List VideoDevice) : Action (List CaptureCard) :=
  detectLoop kernel (sortDevices p devices) []

end Calls

/-! ### The file descriptors -/

/-- The open file after one more call, if that is permitted: at most one file is open, and it is
the one that is used and closed. -/
def next (u : Option ℤ) (m : Made) : Option (Option ℤ) :=
  match m.syscall with
  | .open _ =>
      if u = none then some (if 0 ≤ m.reply.ret then some m.reply.ret else none) else none
  | .querycap fd | .mediaDeviceInfo fd => if u = some fd then some u else none
  | .close fd => if u = some fd then some none else none

/-- The file that is open after some calls, if they are permitted. -/
def after (made : List Made) : Option (Option ℤ) := made.foldlM next none

def Made.opens (m : Made) : Option (List Byte) :=
  match m.syscall with
  | .open devNode => some devNode
  | _ => none

/-- The nodes that have been opened, or that it has been tried to open. -/
def opened (made : List Made) : List (List Byte) := made.filterMap Made.opens

/-- The kernel answers as the devices are, whatever has been called before. -/
structure Serves (kernel : Kernel) (system : System) : Prop where
  opens : ∀ made devNode,
    0 ≤ (kernel made (.open devNode)).ret ↔ system.opens devNode = true
  querycap : ∀ made devNode fd, (opened made).getLast? = some devNode →
    system.querycap devNode = if (kernel made (.querycap fd)).ret = 0 then
      some (kernel made (.querycap fd)).capability else none
  mediaDeviceInfo : ∀ made devNode fd, (opened made).getLast? = some devNode →
    system.mediaDeviceInfo devNode = if (kernel made (.mediaDeviceInfo fd)).ret = 0 then
      some (kernel made (.mediaDeviceInfo fd)).info else none

/-- A kernel for the devices of a system, with one file at a time. -/
def kernelOf (system : System) : Kernel := fun made c =>
  let devNode := (opened made).getLast?.getD []
  let vcap := system.querycap devNode
  let mdi := system.mediaDeviceInfo devNode
  let ret := match c with
    | .open devNode => if system.opens devNode then 3 else -1
    | .querycap _ => if vcap.isSome then 0 else -1
    | .mediaDeviceInfo _ => if mdi.isSome then 0 else -1
    | .close _ => 0
  ⟨ret, vcap.getD ⟨[], []⟩, mdi.getD ⟨[], [], []⟩⟩

/-- There is a kernel for any devices. -/
theorem kernelOf_serves (system : System) : Serves (kernelOf system) system where
  opens := by
    intro made devNode
    cases h : system.opens devNode <;> simp [kernelOf, h]
  querycap := by
    intro made devNode fd hlast
    cases h : system.querycap devNode <;> simp [kernelOf, hlast, h]
  mediaDeviceInfo := by
    intro made devNode fd hlast
    cases h : system.mediaDeviceInfo devNode <;> simp [kernelOf, hlast, h]

/-- The calls so far are permitted, with `u` open after them, and they have opened `nodes`. -/
structure Stands (made : List Made) (u : Option ℤ) (nodes : List (List Byte)) : Prop where
  after : after made = some u
  opened : opened made = nodes

/-- What a device adds to the cards, as the nodes report. -/
def recorded (system : System) (cards : List CaptureCard) (device : VideoDevice) :
    List CaptureCard :=
  (system.report device.devNode).elim cards fun x =>
    CaptureCard.record cards x.1 x.2 device.devNode

section Visits
variable {kernel : Kernel} {made : List Made} {u v : Option ℤ} {nodes : List (List Byte)}
  {devNode : List Byte}

theorem Stands.call {c : Syscall} (h : Stands made u nodes)
    (hnext : next u ⟨c, kernel made c⟩ = some v) :
    Ends (call kernel c) made (fun reply t => reply = kernel made c ∧
      Stands t v (nodes ++ (Made.mk c reply).opens.toList)) fun _ _ => False := by
  refine ⟨rfl, ?_, ?_⟩
  · exact (Traces.foldlM_append_some h.after).trans (by simp [hnext])
  · rw [NodeCalls.opened, List.filterMap_append, ← NodeCalls.opened, h.opened]
    cases hopens : (Made.mk c (kernel made c)).opens <;> simp [hopens]

/-- A request leaves the file open. -/
theorem Stands.request {c : Syscall} (h : Stands made u nodes)
    (hnext : ∀ reply, next u ⟨c, reply⟩ = some u ∧ (Made.mk c reply).opens = none) :
    Ends (NodeCalls.call kernel c) made (fun reply t => reply = kernel made c ∧ Stands t u nodes)
      fun _ _ => False := by
  apply (h.call (hnext _).1).mono
  · rintro reply t ⟨rfl, ht⟩
    rw [(hnext _).2] at ht
    exact ⟨rfl, by simpa using ht⟩
  · exact fun _ _ hfalse => hfalse

theorem report_capability {system : System} {vcap : Capability}
    (hopens : system.opens devNode = true) (h : system.querycap devNode = some vcap) :
    system.report devNode = some (cString vcap.busInfo, cString vcap.card) := by
  simp [System.report, hopens, h]

theorem report_media {system : System} (hopens : system.opens devNode = true)
    (h : system.querycap devNode = none) :
    system.report devNode = (system.mediaDeviceInfo devNode).map names := by
  cases hinfo : system.mediaDeviceInfo devNode <;> simp [System.report, hopens, h, hinfo, names]

/-- The two requests tell what the open node is. -/
theorem identify_ends {fd : ℤ} (h : Stands made (some fd) nodes)
    (hlast : nodes.getLast? = some devNode) :
    Ends (identify kernel fd) made (fun found t => Stands t (some fd) nodes ∧
      ∀ system, Serves kernel system → system.opens devNode = true →
        found = system.report devNode) fun _ _ => False := by
  unfold identify
  apply (h.request (c := .querycap fd) fun _ => ⟨if_pos rfl, rfl⟩).bind
  rintro vcap t ⟨rfl, ht⟩
  have hquery (system : System) (hserves : Serves kernel system) :=
    hserves.querycap made devNode fd (by rwa [h.opened])
  by_cases hvcap : (kernel made (.querycap fd)).ret = 0
  · rw [if_neg (not_not.mpr hvcap)]
    refine ends_pure ⟨ht, fun system hserves hopens => ?_⟩
    have hcapability := hquery system hserves
    rw [if_pos hvcap] at hcapability
    exact (report_capability hopens hcapability).symm
  · rw [if_pos hvcap]
    apply (ht.request (c := .mediaDeviceInfo fd) fun _ => ⟨if_pos rfl, rfl⟩).bind
    rintro mdi w ⟨rfl, hw⟩
    have hinfo (system : System) (hserves : Serves kernel system)
        (hopens : system.opens devNode = true) : system.report devNode =
          (if (kernel t (.mediaDeviceInfo fd)).ret = 0 then
            some (kernel t (.mediaDeviceInfo fd)).info else none).map names := by
      have hcapability := hquery system hserves
      rw [if_neg hvcap] at hcapability
      rw [report_media hopens hcapability,
        hserves.mediaDeviceInfo t devNode fd (by rwa [ht.opened])]
    by_cases hmdi : (kernel t (.mediaDeviceInfo fd)).ret = 0
    · rw [if_pos hmdi] at hinfo ⊢
      exact ends_pure ⟨hw, fun system hserves hopens => (hinfo system hserves hopens).symm⟩
    · rw [if_neg hmdi] at hinfo ⊢
      exact ends_pure ⟨hw, fun system hserves hopens => (hinfo system hserves hopens).symm⟩

/-- One node: what has been opened is closed again. -/
theorem visit_ends (h : Stands made none nodes) :
    Ends (visit kernel devNode) made (fun found t => Stands t none (nodes ++ [devNode]) ∧
      ∀ system, Serves kernel system → found = system.report devNode) fun _ _ => False := by
  unfold visit
  have hopen (reply : Reply) : next none ⟨.open devNode, reply⟩ =
      some (if 0 ≤ reply.ret then some reply.ret else none) := by simp [next]
  apply (h.call (hopen _)).bind
  rintro fd t ⟨rfl, ht⟩
  have hopens (system : System) (hserves : Serves kernel system) := hserves.opens made devNode
  by_cases hfd : (kernel made (.open devNode)).ret < 0
  · rw [if_neg (not_le.mpr hfd)] at ht
    rw [if_pos hfd]
    refine ends_pure ⟨ht, fun system hserves => ?_⟩
    have hclosed : ¬ system.opens devNode = true :=
      mt (hopens system hserves).mpr (not_le.mpr hfd)
    rw [System.report, if_neg hclosed]
  · rw [if_pos (not_lt.mp hfd)] at ht
    rw [if_neg hfd]
    apply (identify_ends ht List.getLast?_concat).bind
    rintro found w ⟨hw, hfound⟩
    apply (hw.call (c := .close _) (if_pos rfl)).bind
    rintro _ z ⟨-, hz⟩
    refine ends_pure ⟨by simpa [Made.opens] using hz, fun system hserves => ?_⟩
    exact hfound system hserves ((hopens system hserves).mp (not_lt.mp hfd))

/-- The cards grow as they do without the calls. -/
theorem Stands.detectLoop_ends (h : Stands made none nodes) (devices : List VideoDevice)
    (cards : List CaptureCard) :
    Ends (detectLoop kernel devices cards) made (fun detected t =>
      Stands t none (nodes ++ devices.map fun d => d.devNode) ∧
      ∀ system, Serves kernel system → detected = devices.foldl (recorded system) cards)
      fun _ _ => False := by
  induction devices generalizing made nodes cards with
  | nil => exact ends_pure ⟨by simpa using h, fun _ _ => rfl⟩
  | cons device devices ih =>
    rw [detectLoop]
    apply (visit_ends h).bind
    rintro found t ⟨ht, hfound⟩
    have hgrown (grown : List CaptureCard)
        (hrecorded : ∀ system, Serves kernel system → grown = recorded system cards device) :
        Ends (detectLoop kernel devices grown) t (fun detected t =>
          Stands t none (nodes ++ (device :: devices).map fun d => d.devNode) ∧
          ∀ system, Serves kernel system →
            detected = (device :: devices).foldl (recorded system) cards) fun _ _ => False := by
      apply (ih ht grown).mono
      · rintro detected w ⟨hw, hdetected⟩
        refine ⟨by simpa using hw, fun system hserves => ?_⟩
        rw [List.foldl_cons, ← hrecorded system hserves]
        exact hdetected system hserves
      · exact fun _ _ hfalse => hfalse
    cases found with
    | none =>
      refine hgrown cards fun system hserves => ?_
      simp [recorded, ← hfound system hserves]
    | some x =>
      refine hgrown (CaptureCard.record cards x.1 x.2 device.devNode) fun system hserves => ?_
      simp [recorded, ← hfound system hserves]

theorem detect_eq_foldl (p : Platform) (system : System) (devices : List VideoDevice) :
    CaptureCard.detect p system devices = (sortDevices p devices).foldl (recorded system) [] := by
  unfold CaptureCard.detect
  congr 1
  funext cards device
  cases hreport : system.report device.devNode <;> simp [recorded, hreport]

end Visits

/-- Whatever the kernel answers, `detect` opens the node of every device once, in their order, and
everything that it has opened it closes again before it opens the next one. Where the kernel answers
as the devices are, the cards are those that the devices make. -/
theorem detect_calls (kernel : Kernel) (p : Platform) (devices : List VideoDevice) :
    ∃ cards made, (detect kernel p devices).run [] = .ok cards made ∧ after made = some none ∧
      opened made = (sortDevices p devices).map (fun d => d.devNode) ∧
      ∀ system, Serves kernel system → cards = CaptureCard.detect p system devices := by
  have hstart : Stands [] none [] := ⟨rfl, rfl⟩
  cases hrun : (detect kernel p devices).run [] with
  | error e => exact e.elim
  | ok cards made =>
    obtain ⟨hstands, hcards⟩ := (hstart.detectLoop_ends (sortDevices p devices) []).ok hrun
    refine ⟨cards, made, rfl, hstands.after, by simpa using hstands.opened, ?_⟩
    intro system hserves
    rw [detect_eq_foldl]
    exact hcards system hserves

end Rckam.NodeCalls
