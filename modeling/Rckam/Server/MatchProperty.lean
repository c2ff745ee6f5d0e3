import Rckam.Library.Appending
import Rckam.Server.CameraController
import Rckam.Server.UserspaceDevice

/-! The devices that `UserspaceDevice::matchProperty` takes over from udev. -/
namespace Rckam.Server
open Appending

/-- The bytes of a C string, without the zero behind them. -/
@[ext] structure CString where
  bytes : List Byte
  ends : 0 ∉ bytes

/-- `std::string::c_str`, as far as it is read. -/
def CString.of (s : List Byte) : CString where
  bytes := cString s
  ends := by
    intro hmem
    have hpass := List.mem_takeWhile_imp hmem
    simp at hpass

/-- An entry of one of the lists of libudev. It always has a name. -/
structure UdevEntry where
  name : CString
  value : Option CString

/-- What libudev returns for a device; it may be a null pointer unless it is the path that the
device was created from. -/
structure UdevDevice where
  devPath : CString
  devType : Option CString
  devNode : Option CString
  subsystem : Option CString
  sysPath : CString
  sysName : Option CString
  sysNum : Option CString
  isInitialized : ℤ
  devlinks : List UdevEntry
  properties : List UdevEntry
  tags : List UdevEntry
  sysattrs : List UdevEntry
  propertyValue : CString → Option CString
  sysattrValue : CString → Option CString

/-- All the members of a `UserspaceDevice`. -/
structure MatchedDevice extends UserspaceDevice where
  devPath : List Byte
  devType : List Byte
  subsystem : List Byte
  sysPath : List Byte
  isInitialized : Bool
  devlinks : List (List Byte)
  properties : List (List Byte × List Byte)
  tags : List (List Byte)
  sysattrs : List (List Byte × List Byte)

/-- An assertion that a pointer is not null. -/
def asserted : Option CString → Except Thrown (List Byte)
  | some s => .ok s.bytes
  | none => .error .assertionFailed

/-- An empty string in the place of a null pointer. -/
def orEmpty : Option CString → List Byte
  | some s => s.bytes
  | none => []

namespace UdevDevice
variable (d : UdevDevice)

def getDevlinks : Except Thrown (List (List Byte)) :=
  appendAll (fun e => .ok e.name.bytes) [] d.devlinks

def getProperties : Except Thrown (List (List Byte × List Byte)) :=
  appendAll (fun e => do return (e.name.bytes, ← asserted e.value)) [] d.properties

def getTags : Except Thrown (List (List Byte)) :=
  appendAll (fun e => .ok e.name.bytes) [] d.tags

/-- The list that it goes through is that of the tags. -/
def getSysattrs : Except Thrown (List (List Byte × List Byte)) :=
  appendAll (fun e => .ok (e.name.bytes, orEmpty (d.sysattrValue e.name))) [] d.tags

/-- The body of the loop for a device whose property has the value. -/
def construct : Except Thrown MatchedDevice := do
  let devlinks ← d.getDevlinks
  let properties ← d.getProperties
  let tags ← d.getTags
  let sysattrs ← d.getSysattrs
  let devNode ← asserted d.devNode
  let subsystem ← asserted d.subsystem
  let sysName ← asserted d.sysName
  let sysNumString ← asserted d.sysNum
  return {
    devNode, sysName, sysNumString, subsystem, devlinks, properties, tags, sysattrs
    devPath := d.devPath.bytes
    devType := orEmpty d.devType
    sysPath := d.sysPath.bytes
    isInitialized := d.isInitialized ≠ 0 }

/-- `value && (property.second == value)`. -/
def Matches (property : List Byte × List Byte) : Prop :=
  ∃ value ∈ d.propertyValue (.of property.1), property.2 = value.bytes

instance (property : List Byte × List Byte) : Decidable (d.Matches property) :=
  match h : d.propertyValue (.of property.1) with
  | none => .isFalse (by rintro ⟨value, hvalue, -⟩; simp [h] at hvalue)
  | some value =>
      if hv : property.2 = value.bytes then .isTrue ⟨value, h, hv⟩
      else .isFalse (by
        rintro ⟨value', hvalue', hsame⟩
        rw [h, Option.mem_some_iff] at hvalue'
        exact hv (hvalue' ▸ hsame))

end UdevDevice

/-- libudev: the `errno` with which `udev_new` and `udev_enumerate_new` fail, if they do, its text,
and the devices of the enumeration. One that cannot be opened has no properties. -/
structure Udev where
  newErrno : Option ℤ
  enumerateErrno : Option ℤ
  strerror : ℤ → List Byte
  devices : List UdevDevice

/-- `RckamException`, whose error number is 0. -/
def rckamException (message : List Byte) : Thrown := .exceptionData 0 message

def matchProperty (udev : Udev) (property : List Byte × List Byte) :
    Except Thrown (List MatchedDevice) := do
  if let some errno := udev.newErrno then
    throw (rckamException (text "ERROR: failed to allocate a new udev context object: " ++
      signedDecimal errno ++ text ": " ++ udev.strerror errno))
  if let some errno := udev.enumerateErrno then
    throw (rckamException (text "ERROR: failed to create a udev enumerate object: " ++
      signedDecimal errno ++ text ": " ++ udev.strerror errno))
  udev.devices.foldlM (fun devices d =>
    if d.Matches property then do return devices ++ [← d.construct] else return devices) []

/-! ### What should be reported -/

/-- What is reported of a device is what libudev knows of it. -/
structure Reports (d : UdevDevice) (r : MatchedDevice) : Prop where
  devPath : r.devPath = d.devPath.bytes
  devType : r.devType = orEmpty d.devType
  devNode : d.devNode.map CString.bytes = some r.devNode
  subsystem : d.subsystem.map CString.bytes = some r.subsystem
  sysPath : r.sysPath = d.sysPath.bytes
  sysName : d.sysName.map CString.bytes = some r.sysName
  sysNum : d.sysNum.map CString.bytes = some r.sysNumString
  isInitialized : r.isInitialized = true ↔ d.isInitialized ≠ 0
  devlinks : r.devlinks = d.devlinks.map fun e => e.name.bytes
  properties : r.properties.map (fun x => (x.1, some x.2)) =
    d.properties.map fun e => (e.name.bytes, e.value.map CString.bytes)
  tags : r.tags = d.tags.map fun e => e.name.bytes
  sysattrs : r.sysattrs = d.sysattrs.map fun e => (e.name.bytes, orEmpty (d.sysattrValue e.name))

/-- A device has a device node, a subsystem, a sysname and a sysnum, as the assertions ask. -/
structure UdevDevice.Complete (d : UdevDevice) : Prop where
  devNode : d.devNode ≠ none
  subsystem : d.subsystem ≠ none
  sysName : d.sysName ≠ none
  sysNum : d.sysNum ≠ none

/-- An enumeration of such devices. -/
structure UdevScan where
  strerror : ℤ → List Byte
  devices : List UdevDevice
  complete : ∀ d ∈ devices, d.Complete

def UdevScan.udev (scan : UdevScan) : Udev := ⟨none, none, scan.strerror, scan.devices⟩

/-- The result has one report for each device whose property has the value, in their order. -/
def Faithful (scan : UdevScan) (property : List Byte × List Byte) : Prop :=
  ∃ devices, matchProperty scan.udev property = .ok devices ∧
    List.Forall₂ Reports (scan.devices.filter (·.Matches property)) devices

/-- The tags of a device are called as its sysattrs are, and each of its properties has a value. -/
structure UdevDevice.Copied (d : UdevDevice) : Prop where
  names : d.tags.map UdevEntry.name = d.sysattrs.map UdevEntry.name
  values : ∀ e ∈ d.properties, e.value ≠ none

section Devices
variable {d : UdevDevice}

theorem getDevlinks_eq (d : UdevDevice) :
    d.getDevlinks = .ok (d.devlinks.map fun e => e.name.bytes) := appendAll_map _ _ _

theorem getTags_eq (d : UdevDevice) : d.getTags = .ok (d.tags.map fun e => e.name.bytes) :=
  appendAll_map _ _ _

theorem getSysattrs_eq (d : UdevDevice) :
    d.getSysattrs = .ok (d.tags.map fun e => (e.name.bytes, orEmpty (d.sysattrValue e.name))) :=
  appendAll_map _ _ _

/-- The properties are the device's own, if the assertions on their values hold. -/
theorem getProperties_ok_iff (properties : List (List Byte × List Byte)) :
    d.getProperties = .ok properties ↔ properties.map (fun x => (x.1, some x.2)) =
      d.properties.map fun e => (e.name.bytes, e.value.map CString.bytes) := by
  have hentry (e : UdevEntry) (x : List Byte × List Byte) :
      (do return (e.name.bytes, ← asserted e.value) : Except Thrown _) = .ok x ↔
        (e.name.bytes, e.value.map CString.bytes) = (x.1, some x.2) := by
    cases hvalue : e.value with
    | none => simp [asserted, bind, Except.bind]
    | some s =>
      simp [asserted, bind, Except.bind, pure, Except.pure, Prod.ext_iff]
  unfold UdevDevice.getProperties
  rw [appendAll_ok_iff]
  simp only [hentry, List.nil_append, exists_eq_right']
  rw [← List.forall₂_map_right_iff, ← List.forall₂_map_left_iff, List.forall₂_eq_eq_eq, eq_comm]

/-- The properties can be copied exactly when each of them has a value. -/
theorem getProperties_ok (d : UdevDevice) :
    (∃ properties, d.getProperties = .ok properties) ↔ ∀ e ∈ d.properties, e.value ≠ none := by
  simp only [getProperties_ok_iff]
  constructor
  · rintro ⟨properties, hsame⟩ e he hnone
    have hmem : (e.name.bytes, e.value.map CString.bytes) ∈
        properties.map fun x => (x.1, some x.2) := hsame ▸ List.mem_map_of_mem he
    obtain ⟨x, -, hx⟩ := List.mem_map.mp hmem
    rw [hnone] at hx
    cases (Prod.mk.inj hx).2
  · intro hvalues
    refine ⟨d.properties.map fun e => (e.name.bytes, orEmpty e.value), ?_⟩
    rw [List.map_map]
    apply List.map_congr_left
    intro e he
    obtain ⟨s, hs⟩ := Option.ne_none_iff_exists'.mp (hvalues e he)
    simp [hs, orEmpty]

/-- The sysattrs are the device's own exactly when the tags are called as they are. -/
theorem sysattrs_eq_iff (d : UdevDevice) :
    (d.tags.map fun e => (e.name.bytes, orEmpty (d.sysattrValue e.name))) =
        (d.sysattrs.map fun e => (e.name.bytes, orEmpty (d.sysattrValue e.name))) ↔
      d.tags.map UdevEntry.name = d.sysattrs.map UdevEntry.name := by
  have hsplit (l : List UdevEntry) :
      (l.map fun e => (e.name.bytes, orEmpty (d.sysattrValue e.name))) =
        (l.map UdevEntry.name).map fun name => (name.bytes, orEmpty (d.sysattrValue name)) := by
    simp [Function.comp_def]
  rw [hsplit, hsplit]
  apply List.map_injective_iff.mpr _ |>.eq_iff
  intro name name' hpair
  exact CString.ext (Prod.mk.inj hpair).1

/-- A device whose properties can be copied is taken over, with the names of its tags in the place
of those of its sysattrs. -/
theorem construct_ok {devNode subsystem sysName sysNum : CString}
    {properties : List (List Byte × List Byte)} (hdevNode : d.devNode = some devNode)
    (hsubsystem : d.subsystem = some subsystem) (hsysName : d.sysName = some sysName)
    (hsysNum : d.sysNum = some sysNum) (hproperties : d.getProperties = .ok properties) :
    d.construct = .ok {
      devNode := devNode.bytes
      sysName := sysName.bytes
      sysNumString := sysNum.bytes
      devPath := d.devPath.bytes
      devType := orEmpty d.devType
      subsystem := subsystem.bytes
      sysPath := d.sysPath.bytes
      isInitialized := d.isInitialized ≠ 0
      devlinks := d.devlinks.map fun e => e.name.bytes
      properties
      tags := d.tags.map fun e => e.name.bytes
      sysattrs := d.tags.map fun e => (e.name.bytes, orEmpty (d.sysattrValue e.name)) } := by
  simp only [UdevDevice.construct, getDevlinks_eq, hproperties, getTags_eq, getSysattrs_eq,
    hdevNode, hsubsystem, hsysName, hsysNum, asserted, bind, Except.bind, pure, Except.pure]

/-- If the properties can be copied, the device is taken over, faithfully exactly when its tags are
called as its sysattrs are. -/
theorem construct_reports_iff {properties : List (List Byte × List Byte)} (h : d.Complete)
    (hproperties : d.getProperties = .ok properties) :
    ∃ r, d.construct = .ok r ∧
      (Reports d r ↔ d.tags.map UdevEntry.name = d.sysattrs.map UdevEntry.name) := by
  obtain ⟨devNode, hdevNode⟩ := Option.ne_none_iff_exists'.mp h.devNode
  obtain ⟨subsystem, hsubsystem⟩ := Option.ne_none_iff_exists'.mp h.subsystem
  obtain ⟨sysName, hsysName⟩ := Option.ne_none_iff_exists'.mp h.sysName
  obtain ⟨sysNum, hsysNum⟩ := Option.ne_none_iff_exists'.mp h.sysNum
  refine ⟨_, construct_ok hdevNode hsubsystem hsysName hsysNum hproperties, ?_⟩
  rw [← sysattrs_eq_iff]
  constructor
  · exact fun hreports => hreports.sysattrs
  · intro hsysattrs
    exact {
      devPath := rfl
      devType := rfl
      devNode := by rw [hdevNode, Option.map_some]
      subsystem := by rw [hsubsystem, Option.map_some]
      sysPath := rfl
      sysName := by rw [hsysName, Option.map_some]
      sysNum := by rw [hsysNum, Option.map_some]
      isInitialized := decide_eq_true_iff
      devlinks := rfl
      properties := (getProperties_ok_iff properties).mp hproperties
      tags := rfl
      sysattrs := hsysattrs }

/-- A device is taken over faithfully exactly when its tags are called as its sysattrs are and each
of its properties has a value. -/
theorem construct_faithful_iff (h : d.Complete) :
    (∃ r, d.construct = .ok r ∧ Reports d r) ↔ d.Copied := by
  cases hproperties : d.getProperties with
  | error e =>
    have hfailed : d.construct = .error e := by
      simp [UdevDevice.construct, getDevlinks_eq, hproperties, bind, Except.bind]
    constructor
    · rintro ⟨r, hr, -⟩
      cases hfailed.symm.trans hr
    · intro hcopied
      obtain ⟨properties, hok⟩ := (getProperties_ok d).mpr hcopied.values
      cases hproperties.symm.trans hok
  | ok properties =>
    have hvalues := (getProperties_ok d).mp ⟨properties, hproperties⟩
    obtain ⟨r, hr, hreports⟩ := construct_reports_iff h hproperties
    constructor
    · rintro ⟨r', hr', hreports'⟩
      cases hr.symm.trans hr'
      exact ⟨hreports.mp hreports', hvalues⟩
    · intro hcopied
      exact ⟨r, hr, hreports.mpr hcopied.names⟩

end Devices

/-- The devices whose property has not the value are passed over. -/
theorem matchProperty_eq (scan : UdevScan) (property : List Byte × List Byte) :
    matchProperty scan.udev property =
      appendAll UdevDevice.construct [] (scan.devices.filter (·.Matches property)) := by
  unfold appendAll
  rw [List.foldlM_filter]
  simp only [decide_eq_true_eq]
  rfl

theorem faithful_iff_reported (scan : UdevScan) (property : List Byte × List Byte) :
    Faithful scan property ↔
      ∀ d ∈ scan.devices, d.Matches property → ∃ r, d.construct = .ok r ∧ Reports d r := by
  unfold Faithful
  rw [matchProperty_eq, Appending.appendAll_related_iff]
  simp only [List.mem_filter, decide_eq_true_eq, and_imp]

/-- `matchProperty` is faithful exactly when the devices that it takes over have tags that are
called as their sysattrs are, and a value for each property. -/
theorem matchProperty_faithful_iff (scan : UdevScan) (property : List Byte × List Byte) :
    Faithful scan property ↔ ∀ d ∈ scan.devices, d.Matches property → d.Copied := by
  rw [faithful_iff_reported]
  constructor
  · intro h d hd hmatches
    exact (construct_faithful_iff (scan.complete d hd)).mp (h d hd hmatches)
  · intro h d hd hmatches
    exact (construct_faithful_iff (scan.complete d hd)).mpr (h d hd hmatches)

/-- A video device with one tag and one sysattr. -/
def taggedVideo : UdevDevice where
  devPath := .of (text "/devices/virtual/video4linux/video0")
  devType := none
  devNode := some (.of (text "/dev/video0"))
  subsystem := some (.of (text "video4linux"))
  sysPath := .of (text "/sys/devices/virtual/video4linux/video0")
  sysName := some (.of (text "video0"))
  sysNum := some (.of (text "0"))
  isInitialized := 1
  devlinks := []
  properties := [⟨.of (text "MAJOR"), some (.of (text "81"))⟩]
  tags := [⟨.of (text "uaccess"), none⟩]
  sysattrs := [⟨.of (text "dev"), none⟩]
  propertyValue name := if name.bytes = text "MAJOR" then some (.of (text "81")) else none
  sysattrValue name := if name.bytes = text "dev" then some (.of (text "81:0")) else none

def videoScan : UdevScan where
  strerror _ := []
  devices := [taggedVideo]
  complete := by
    intro d hd
    cases List.mem_singleton.mp hd
    exact ⟨nofun, nofun, nofun, nofun⟩

/-- The only sysattr that is reported of the device is its tag, without a value. -/
theorem matchProperty_taggedVideo : ¬ Faithful videoScan (text "MAJOR", text "81") := by
  intro h
  have hmatches : taggedVideo.Matches (text "MAJOR", text "81") := by decide
  have hreported := (faithful_iff_reported _ _).mp h taggedVideo List.mem_cons_self hmatches
  have hcopied := (construct_faithful_iff (videoScan.complete _ List.mem_cons_self)).mp hreported
  have hbytes := congrArg (List.map CString.bytes) hcopied.names
  exact absurd hbytes (by decide)

end Rckam.Server
