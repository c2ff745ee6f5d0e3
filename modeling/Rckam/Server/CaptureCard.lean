import Rckam.Server.UserspaceDevice

/-! The capture cards that `CaptureCard::detect` puts together from the video devices. -/
namespace Rckam.Server
open Grouping

/-- What `VIDIOC_QUERYCAP` writes. -/
structure Capability where
  busInfo : List Byte
  card : List Byte

/-- What `MEDIA_IOC_DEVICE_INFO` writes. -/
structure MediaDeviceInfo where
  driver : List Byte
  model : List Byte
  busInfo : List Byte

/-- The device nodes as `detect` finds them: whether they can be opened, and what the two requests
write unless they fail. -/
structure System where
  opens : List Byte → Bool
  querycap : List Byte → Option Capability
  mediaDeviceInfo : List Byte → Option MediaDeviceInfo

/-- What `detect` takes for the `bus_info` and the `card` of a node, unless it continues. -/
def System.report (system : System) (devNode : List Byte) : Option (List Byte × List Byte) :=
  if system.opens devNode then
    match system.querycap devNode with
    | some vcap => some (cString vcap.busInfo, cString vcap.card)
    | none =>
      match system.mediaDeviceInfo devNode with
      | some mdi => some
          (if mdi.busInfo.headD 0 ≠ 0 then cString mdi.busInfo
            else text "platform:" ++ cString mdi.driver,
          if mdi.model.headD 0 ≠ 0 then cString mdi.model else cString mdi.driver)
      | none => none
  else none

structure CaptureCard where
  busInfo : List Byte
  card : List Byte
  devNodes : List (List Byte)

namespace CaptureCard

def addDevNode (c : CaptureCard) (devNode : List Byte) : CaptureCard :=
  { c with devNodes := c.devNodes ++ [devNode] }

/-- The end of the loop of `detect`: the first card with this `bus_info` gets the node, or else a
new one. -/
def record (cards : List CaptureCard) (busInfo card devNode : List Byte) : List CaptureCard :=
  match cards.findIdx? fun c => c.busInfo = busInfo with
  | none => cards ++ [addDevNode ⟨busInfo, card, []⟩ devNode]
  | some found => cards.modify found fun c => c.addDevNode devNode

/-- `detect`, for the devices that `matchProperty` finds with `MAJOR` 81. -/
def detect (p : Platform) (system : System) (devices : List VideoDevice) : List CaptureCard :=
  (sortDevices p devices).foldl
    (fun cards device =>
      match system.report device.devNode with
      | none => cards
      | some (busInfo, card) => record cards busInfo card device.devNode) []

end CaptureCard

/-! ### The groups -/

/-- A device and what its node reports. -/
structure Report where
  device : VideoDevice
  busInfo : List Byte
  card : List Byte

def System.reportOf (system : System) (device : VideoDevice) : Option Report :=
  (system.report device.devNode).map fun x => ⟨device, x.1, x.2⟩

/-- The reports of the sorted devices. -/
def System.reports (system : System) (devices : List VideoDevice) : List Report :=
  (sortBy VideoDevice.key devices).filterMap system.reportOf

/-- The card of a group of devices. -/
def CaptureCard.of (g : Cluster Report) : CaptureCard :=
  ⟨g.first.busInfo, g.first.card, g.members.map fun r => r.device.devNode⟩

section Loop

theorem record_cons (c : CaptureCard) (cards : List CaptureCard)
    (busInfo card devNode : List Byte) :
    CaptureCard.record (c :: cards) busInfo card devNode =
      if c.busInfo = busInfo then c.addDevNode devNode :: cards
      else c :: CaptureCard.record cards busInfo card devNode := by
  unfold CaptureCard.record
  rw [List.findIdx?_cons]
  by_cases hsame : c.busInfo = busInfo
  · simp [hsame]
  · simp only [hsame, decide_false, Bool.false_eq_true, ↓reduceIte]
    cases cards.findIdx? fun c => c.busInfo = busInfo <;> simp

/-- Recording a report is placing it in a group. -/
theorem record_of (groups : List (Cluster Report)) (r : Report) :
    CaptureCard.record (groups.map CaptureCard.of) r.busInfo r.card r.device.devNode =
      (place Report.busInfo r groups).map CaptureCard.of := by
  induction groups with
  | nil => rfl
  | cons g groups ih =>
    rw [List.map_cons, record_cons, ih, place_cons]
    by_cases hsame : g.first.busInfo = r.busInfo
    · simp [CaptureCard.of, CaptureCard.addDevNode, hsame]
    · simp [CaptureCard.of, hsame]

/-- `detect` groups the reports of the sorted devices. -/
theorem detect_eq (p : Platform) (system : System) (devices : List VideoDevice) :
    CaptureCard.detect p system devices =
      (groupBy Report.busInfo (system.reports devices)).map CaptureCard.of := by
  have hloop (sorted : List VideoDevice) (groups : List (Cluster Report)) :
      sorted.foldl (fun cards device =>
        match system.report device.devNode with
        | none => cards
        | some (busInfo, card) => CaptureCard.record cards busInfo card device.devNode)
        (groups.map CaptureCard.of) =
      ((sorted.filterMap system.reportOf).foldl
        (fun groups r => place Report.busInfo r groups) groups).map CaptureCard.of := by
    induction sorted generalizing groups with
    | nil => rfl
    | cons device sorted ih =>
      rw [List.foldl_cons]
      cases hreport : system.report device.devNode with
      | none =>
        have hnone : system.reportOf device = none := by simp [System.reportOf, hreport]
        rw [List.filterMap_cons_none hnone]
        exact ih groups
      | some x =>
        have hsome : system.reportOf device = some ⟨device, x.1, x.2⟩ := by
          simp [System.reportOf, hreport]
        have hrecord := record_of groups ⟨device, x.1, x.2⟩
        rw [List.filterMap_cons_some hsome, List.foldl_cons, ← ih]
        exact congrArg (fun cards => List.foldl _ cards sorted) hrecord
  unfold CaptureCard.detect System.reports
  rw [sortDevices_eq, ← foldl_place]
  exact hloop _ []

end Loop

/-! ### What is detected -/

/-- A card lists the nodes of a group of devices in increasing order. All of them report its
`bus_info`, and it has the name that the first one reports. -/
structure Describes (system : System) (g : Cluster VideoDevice) (c : CaptureCard) : Prop where
  name : system.report g.first.devNode = some (c.busInfo, c.card)
  busInfo : ∀ d ∈ g.members, ∃ card, system.report d.devNode = some (c.busInfo, card)
  devNodes : c.devNodes = g.members.map fun d => d.devNode
  increasing : g.members.Pairwise fun d d' => d.key < d'.key

/-- The cards are those of groups of devices: each device that reports is in one group, and the
groups are in the order of their first devices. -/
structure Detected (system : System) (devices : List VideoDevice) (cards : List CaptureCard)
    (groups : List (Cluster VideoDevice)) : Prop where
  distinct : (cards.map CaptureCard.busInfo).Nodup
  cards : List.Forall₂ (Describes system) groups cards
  once : (groups.flatMap Cluster.members).Perm
    (devices.filter fun d => (system.report d.devNode).isSome)
  ordered : (groups.map Cluster.first).Pairwise fun d d' => d.key < d'.key

/-- Devices with distinct pairs of `sysType` and `sysNum`. -/
structure Enumeration where
  devices : List VideoDevice
  distinct : (devices.map VideoDevice.key).Nodup

section Detection
variable (system : System) (e : Enumeration)

theorem report_of_mem {devices : List VideoDevice} {r : Report}
    (h : r ∈ system.reports devices) :
    system.report r.device.devNode = some (r.busInfo, r.card) := by
  obtain ⟨d, -, hd⟩ := List.mem_filterMap.mp h
  obtain ⟨x, hx, rfl⟩ := Option.map_eq_some_iff.mp hd
  exact hx

/-- The devices of the reports are those that report. -/
theorem reports_devices (devices : List VideoDevice) :
    (system.reports devices).map Report.device =
      (sortBy VideoDevice.key devices).filter fun d => (system.report d.devNode).isSome := by
  unfold System.reports
  induction sortBy VideoDevice.key devices with
  | nil => rfl
  | cons d sorted ih =>
    cases hreport : system.report d.devNode with
    | none => simpa [System.reportOf, hreport] using ih
    | some x => simpa [System.reportOf, hreport] using ih

theorem reports_increasing :
    ((system.reports e.devices).map Report.device).Pairwise fun d d' => d.key < d'.key := by
  rw [reports_devices]
  exact (sortBy_lt VideoDevice.key e.distinct).filter _

theorem describes_of_mem {g : Cluster Report}
    (hg : g ∈ groupBy Report.busInfo (system.reports e.devices)) :
    Describes system (g.map Report.device) (CaptureCard.of g) := by
  have hsublist := members_sublist Report.busInfo hg
  have hreport (r : Report) (hr : r ∈ g.members) :
      system.report r.device.devNode = some (g.first.busInfo, r.card) := by
    rw [← members_key Report.busInfo hg r hr]
    exact report_of_mem system (hsublist.subset hr)
  constructor
  · exact hreport g.first List.mem_cons_self
  · intro d hd
    rw [Cluster.map_members] at hd
    obtain ⟨r, hr, rfl⟩ := List.mem_map.mp hd
    exact ⟨r.card, hreport r hr⟩
  · simp [CaptureCard.of]
  · exact (reports_increasing system e).sublist (hsublist.map Report.device)

/-- The groups that `detect` makes. -/
theorem detect_detected (p : Platform) :
    Detected system e.devices (CaptureCard.detect p system e.devices)
      ((groupBy Report.busInfo (system.reports e.devices)).map fun g => g.map Report.device) := by
  rw [detect_eq]
  constructor
  · rw [List.map_map]
    exact firsts_nodup Report.busInfo _
  · rw [List.forall₂_map_left_iff, List.forall₂_map_right_iff, List.forall₂_same]
    intro g hg
    exact describes_of_mem system e hg
  · have hdevices : ((groupBy Report.busInfo (system.reports e.devices)).map
        fun g => g.map Report.device).flatMap Cluster.members =
        ((groupBy Report.busInfo (system.reports e.devices)).flatMap Cluster.members).map
          Report.device := by
      simp [List.flatMap_map, List.map_flatMap]
    rw [hdevices]
    apply ((groupBy_perm Report.busInfo _).map Report.device).trans
    rw [reports_devices]
    exact (sortBy_perm VideoDevice.key e.devices).filter _
  · have hfirsts : ((groupBy Report.busInfo (system.reports e.devices)).map
        fun g => g.map Report.device).map Cluster.first =
        ((groupBy Report.busInfo (system.reports e.devices)).map Cluster.first).map
          Report.device := by
      simp [Function.comp_def]
    rw [hfirsts]
    exact (reports_increasing system e).sublist
      ((firsts_sublist Report.busInfo _).map Report.device)

theorem devNodes_eq {groups : List (Cluster VideoDevice)} {cards : List CaptureCard}
    (h : List.Forall₂ (Describes system) groups cards) :
    cards.flatMap CaptureCard.devNodes =
      (groups.flatMap Cluster.members).map fun d => d.devNode := by
  induction h with
  | nil => rfl
  | cons hfirst _ ih =>
    rw [List.flatMap_cons, List.flatMap_cons, List.map_append, ih, hfirst.devNodes]

/-- The nodes of the cards are those of the devices that report, each as often as it is the node of
such a device. -/
theorem Detected.nodes {system : System} {devices : List VideoDevice} {cards : List CaptureCard}
    {groups : List (Cluster VideoDevice)} (h : Detected system devices cards groups) :
    (cards.flatMap CaptureCard.devNodes).Perm
      ((devices.filter fun d => (system.report d.devNode).isSome).map fun d => d.devNode) := by
  rw [devNodes_eq system h.cards]
  exact h.once.map _

end Detection

/-- `detect` groups the devices that report by their `bus_info`, lists the node of each of them
once and no other node, and the order in which the devices are enumerated does not matter. -/
theorem detect_groups (p : Platform) (system : System) (e : Enumeration) :
    (∃ groups, Detected system e.devices (CaptureCard.detect p system e.devices) groups) ∧
      ((CaptureCard.detect p system e.devices).flatMap CaptureCard.devNodes).Perm
        ((e.devices.filter fun d => (system.report d.devNode).isSome).map fun d => d.devNode) ∧
      ∀ devices : List VideoDevice, devices.Perm e.devices →
        CaptureCard.detect p system devices = CaptureCard.detect p system e.devices := by
  have hdetected := detect_detected system e p
  refine ⟨⟨_, hdetected⟩, hdetected.nodes, fun devices hperm => ?_⟩
  rw [detect_eq, detect_eq, System.reports, sortBy_eq_of_perm VideoDevice.key e.distinct hperm]
  rfl

/-- `/dev/video0` and `/dev/video10`. -/
def video0 : VideoDevice where
  devNode := text "/dev/video0"
  sysName := text "video0"
  sysNumString := text "0"
  sysNum_ne_nil := by decide
  sysNum_digits := List.all_eq_true.1 (by decide)
  sysNum_lt := by decide
  suffix := ⟨text "video", by decide⟩
  proper := by decide

def video10 : VideoDevice where
  devNode := text "/dev/video10"
  sysName := text "video10"
  sysNumString := text "10"
  sysNum_ne_nil := by decide
  sysNum_digits := List.all_eq_true.1 (by decide)
  sysNum_lt := by decide
  suffix := ⟨text "video", by decide⟩
  proper := by decide

def videoDevices : Enumeration := ⟨[video0, video10], by decide⟩

/-- A capture card with both nodes. -/
def oneCard : System where
  opens := fun _ => true
  querycap := fun _ => some ⟨text "usb-1.2", text "HDMI"⟩
  mediaDeviceInfo := fun _ => none

theorem video_devices_swapped :
    CaptureCard.detect ⟨.eight, .little⟩ oneCard [video10, video0] =
      CaptureCard.detect ⟨.eight, .little⟩ oneCard [video0, video10] :=
  (detect_groups _ oneCard videoDevices).2.2 [video10, video0] (.swap video0 video10 [])

end Rckam.Server
