import Rckam.Server.Isolation

/-! The cameras that libgphoto2 detects, and the answers to the requests that list them. -/
namespace Rckam.Server

variable {lib : Gphoto2}

/-- What `gp_camera_autodetect` returns in the constructor of a list, if the constructor gets to
it. -/
def autodetected (s : CameraController lib) : Option ℤ :=
  let created := lib.gpListNew s.library
  if created.1.1 = 0 then
    some (lib.gpCameraAutodetect created.1.2 (lib.gpListReset created.1.2 created.2)).1
  else none

/-- A request `LIST_CAMERAS`. -/
structure ListRequest where
  request : Request
  command : request.command = ServerCommand.listCameras.value

/-- The lines of a list, as the library has its entries. -/
def CameraList.lines (list : CameraList) (s : CameraController lib) : List (List Byte) :=
  (List.range list.count).map (CameraController.line
    (fun i => cString ((lib.gpListGetName list.cameraList i s.library).1.2.getD []))
    (fun i => cString ((lib.gpListGetValue list.cameraList i s.library).1.2.getD [])))

/-- A negative result is an exception of the constructor and is answered with `FAILURE`; the list
is not changed. Another one is the number of lines of the answer, and they are those of the list
that is constructed. -/
structure Listed (p : Platform) (r : ListRequest) (s : CameraController lib) (ret : ℤ) : Prop where
  negative : ret < 0 →
    (∃ message t, (CameraList.construct : Action lib CameraList).run s =
      .error (gphoto2Exception message) t) ∧
    ∃ response t, respond p r.request s = (some response, t) ∧
      ResponseCode.failure.bytes p <+: response ∧ t.cameraList = s.cameraList
  detected : 0 ≤ ret → ∃ list t u, (CameraList.construct : Action lib CameraList).run s =
    .ok list t ∧ list.count = ret.toNat ∧
      respond p r.request s = (some ([newline].intercalate (list.lines t)), u)

/-- Every request of a sequence is answered as the result of its autodetection asks for. -/
def AllListed (p : Platform) : CameraController lib → List ListRequest → Prop
  | _, [] => True
  | s, r :: rest =>
      (∀ ret ∈ autodetected s, Listed p r s ret) ∧
        ∀ response t, respond p r.request s = (some response, t) → AllListed p t rest

/-- No autodetection of a sequence of requests fails or finds a camera. -/
def AllDetected (p : Platform) : CameraController lib → List ListRequest → Prop
  | _, [] => True
  | s, r :: rest =>
      (∀ ret ∈ autodetected s, ret = 0) ∧
        ∀ response t, respond p r.request s = (some response, t) → AllDetected p t rest

section Construct
variable {s : CameraController lib}

/-- No list is created. -/
theorem construct_refused (h : autodetected s = none) :
    ∃ message t, (CameraList.construct : Action lib CameraList).run s =
      .error (gphoto2Exception message) t := by
  have hret : (lib.gpListNew s.library).1.1 ≠ 0 := by
    intro hzero
    simp [autodetected, hzero] at h
  simp [CameraList.construct, EStateM.run_bind, hret]

variable {ret : ℤ}

theorem autodetected_some (h : autodetected s = some ret) :
    (lib.gpListNew s.library).1.1 = 0 ∧
      (lib.gpCameraAutodetect (lib.gpListNew s.library).1.2
        (lib.gpListReset (lib.gpListNew s.library).1.2 (lib.gpListNew s.library).2)).1 = ret := by
  simpa [autodetected] using h

/-- The list exists. -/
theorem construct_detected (h : autodetected s = some ret) (hret : 0 ≤ ret) :
    ∃ list t, (CameraList.construct : Action lib CameraList).run s = .ok list t ∧
      list.count = ret.toNat ∧ ∀ handle ∈ list.cameraList, handle ∈ t.lists := by
  obtain ⟨hzero, hdetect⟩ := autodetected_some h
  simp only [CameraList.construct, EStateM.run_bind, run_call, hzero]
  rw [if_neg (not_not.mpr rfl)]
  simp only [EStateM.run_bind, run_call, EStateM.run_modify, hdetect]
  rw [if_neg (Nat.lt_irrefl 0), if_neg (not_not.mpr hret)]
  refine ⟨_, _, rfl, rfl, fun handle hhandle => ?_⟩
  have hlist : (lib.gpListNew s.library).1.2 = some handle := hhandle
  simp [hlist]

/-- The test before the assertion looks at the member that is still zero. -/
theorem construct_negative (h : autodetected s = some ret) (hret : ret < 0) :
    ∃ t, (CameraList.construct : Action lib CameraList).run s = .error .assertionFailed t := by
  obtain ⟨hzero, hdetect⟩ := autodetected_some h
  simp only [CameraList.construct, EStateM.run_bind, run_call, hzero]
  rw [if_neg (not_not.mpr rfl)]
  simp only [EStateM.run_bind, run_call, EStateM.run_modify, hdetect]
  rw [if_neg (Nat.lt_irrefl 0), if_pos (not_le.mpr hret)]
  exact ⟨_, rfl⟩

end Construct

/-- A list that exists is gone when it is destroyed. -/
theorem destroy_gone {list : CameraList} {s : CameraController lib}
    (hlive : ∀ handle ∈ list.cameraList, handle ∈ s.lists) :
    ∃ t, list.destroy.run s = .ok () t ∧ t.cameraList = s.cameraList ∧
      ∀ handle ∈ list.cameraList, handle ∉ t.lists := by
  cases hlist : list.cameraList with
  | none => exact ⟨s, CameraList.destroy_none hlist, rfl, nofun⟩
  | some handle =>
    refine ⟨_, CameraList.destroy_run hlist (hlive handle hlist), rfl, fun handle' hhandle' => ?_⟩
    rw [← Option.some.inj hhandle']
    exact Finset.notMem_erase _ _

section Requests
variable {p : Platform} {r : ListRequest} {s : CameraController lib} {ret : ℤ}

/-- When the loop comes to a list it is gone, so that only a list without entries is dealt with. -/
theorem listCameras_detected (h : autodetected s = some ret) (hret : 0 ≤ ret) :
    ∃ t, (CameraController.listCameras : Action lib (List Byte)).run s =
      if ret = 0 then .ok [] t else .error .undefined t := by
  obtain ⟨list, t, hrun, hcount, hlive⟩ := construct_detected h hret
  obtain ⟨u, hdestroy, hlist, hgone⟩ := destroy_gone (s := { t with cameraList := list }) hlive
  unfold CameraController.listCameras
  simp only [EStateM.run_bind, hrun, EStateM.run_modify, hdestroy, EStateM.run_get, hlist]
  by_cases hzero : ret = 0
  · have hempty : ¬ list.count > 0 := by
      rw [hcount, hzero]
      decide
    refine ⟨u, ?_⟩
    rw [if_pos hzero, CameraController.listEntries, if_neg hempty]
    rfl
  · have hentry : 0 < list.count := by omega
    exact ⟨_, by rw [if_neg hzero, CameraController.listEntries_undefined hentry hgone]⟩

theorem listCameras_negative (h : autodetected s = some ret) (hret : ret < 0) :
    ∃ t, (CameraController.listCameras : Action lib (List Byte)).run s =
      .error .assertionFailed t := by
  obtain ⟨t, hrun⟩ := construct_negative h hret
  simp only [CameraController.listCameras, EStateM.run_bind, hrun]
  exact ⟨t, rfl⟩

theorem listCameras_refused (h : autodetected s = none) :
    ∃ message t, (CameraController.listCameras : Action lib (List Byte)).run s =
      .error (gphoto2Exception message) t := by
  obtain ⟨message, t, hrun⟩ := construct_refused h
  simp only [CameraController.listCameras, EStateM.run_bind, hrun]
  exact ⟨message, t, rfl⟩

/-- Without cameras the answer is empty, and with cameras there is none. -/
theorem respond_detected (h : autodetected s = some ret) (hret : 0 ≤ ret) :
    ∃ t, respond p r.request s = (if ret = 0 then some [] else none, t) := by
  obtain ⟨t, hrun⟩ := listCameras_detected h hret
  refine ⟨t, ?_⟩
  unfold respond
  rw [execute_listCameras r.command, hrun]
  by_cases hzero : ret = 0
  · simp only [hzero, ↓reduceIte]
  · simp only [hzero, ↓reduceIte]
    rfl

theorem respond_negative (h : autodetected s = some ret) (hret : ret < 0) :
    ∃ t, respond p r.request s = (none, t) := by
  obtain ⟨t, hrun⟩ := listCameras_negative h hret
  unfold respond
  rw [execute_listCameras r.command, hrun]
  exact ⟨t, rfl⟩

theorem respond_undetected (h : autodetected s = none) :
    ∃ message t, respond p r.request s = (failure p (gphoto2Exception message), t) := by
  obtain ⟨message, t, hrun⟩ := listCameras_refused h
  refine ⟨message, t, ?_⟩
  unfold respond
  rw [execute_listCameras r.command, hrun]

theorem strays_detected (h : autodetected s = some ret) (hret : 0 ≤ ret) :
    strays p r.request s = decide (ret ≠ 0) := by
  obtain ⟨t, hrun⟩ := listCameras_detected h hret
  unfold strays
  rw [execute_listCameras r.command, hrun]
  by_cases hzero : ret = 0
  · simp [hzero]
  · simp [hzero]

theorem strays_negative (h : autodetected s = some ret) (hret : ret < 0) :
    strays p r.request s = false := by
  obtain ⟨t, hrun⟩ := listCameras_negative h hret
  unfold strays
  rw [execute_listCameras r.command, hrun]

theorem strays_undetected (h : autodetected s = none) : strays p r.request s = false := by
  obtain ⟨message, t, hrun⟩ := listCameras_refused h
  unfold strays
  rw [execute_listCameras r.command, hrun]
  rfl

/-- A request is answered as it should be exactly when the result is zero. -/
theorem listed_iff (h : autodetected s = some ret) : Listed p r s ret ↔ ret = 0 := by
  constructor
  · intro hlisted
    by_contra hzero
    rcases lt_or_ge ret 0 with hneg | hret
    · obtain ⟨t, hrespond⟩ := respond_negative (p := p) (r := r) h hneg
      obtain ⟨-, response, u, hanswer, -⟩ := hlisted.negative hneg
      rw [hrespond] at hanswer
      cases hanswer
    · obtain ⟨t, hrespond⟩ := respond_detected (p := p) (r := r) h hret
      obtain ⟨list, u, v, -, -, hanswer⟩ := hlisted.detected hret
      rw [hrespond, if_neg hzero] at hanswer
      cases hanswer
  · rintro rfl
    refine ⟨fun hneg => absurd hneg (lt_irrefl 0), fun hret => ?_⟩
    obtain ⟨list, t, hrun, hcount, -⟩ := construct_detected h hret
    obtain ⟨u, hrespond⟩ := respond_detected (p := p) (r := r) h hret
    refine ⟨list, t, u, hrun, hcount, ?_⟩
    rw [hrespond, CameraList.lines, hcount]
    rfl

end Requests

/-- In a sequence of requests all are answered as they should be exactly when every autodetection
succeeds and finds no camera. -/
theorem allListed_iff (p : Platform) (s : CameraController lib) (requests : List ListRequest) :
    AllListed p s requests ↔ AllDetected p s requests := by
  induction requests generalizing s with
  | nil => exact Iff.rfl
  | cons r requests ih =>
    unfold AllListed AllDetected
    apply and_congr
    · exact forall₂_congr fun ret h => listed_iff h
    · exact forall₃_congr fun response t _ => ih t

/-- A library that cannot detect cameras: the bus cannot be read. -/
def undetecting : Gphoto2 :=
  { accepting fun _ => true with gpCameraAutodetect := fun _ s => (-7, s) }

def undetectingController : CameraController undetecting :=
  ⟨(), none, none, ⟨none, 0⟩, some 0, ∅⟩

def listRequest : ListRequest := ⟨⟨ServerCommand.listCameras.value, [[]], []⟩, rfl⟩

theorem undetecting_not_listed :
    ¬ AllListed ⟨.eight, .little⟩ undetectingController [listRequest] := by
  intro h
  have hret : (-7 : ℤ) = 0 := (listed_iff rfl).mp (h.1 (-7) rfl)
  exact absurd hret (by decide)

end Rckam.Server
