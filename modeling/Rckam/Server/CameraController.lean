import Mathlib.Data.Finset.Basic
import Rckam.Common.Protocol

/-! The cameras of the server: `CameraList`, `Camera` and the requests of `CameraController`,
over the functions of libgphoto2 that they call. -/
namespace Rckam.Server

/-- A non-null pointer to an object of libgphoto2. -/
abbrev Handle := ℕ

/-- libgphoto2 and the devices it sees. A function takes the state of the library and returns
what it returns, what it writes through its pointers, if it does, and the next state. Texts are
given up to any length: a C string ends at its first zero. -/
structure Gphoto2 where
  State : Type
  Abilities : Type
  PortInfo : Type
  gpListNew : State → (ℤ × Option Handle) × State
  gpListReset : Option Handle → State → State
  gpCameraAutodetect : Option Handle → State → ℤ × State
  gpListFree : Handle → State → State
  gpListGetName : Option Handle → ℕ → State → (ℤ × Option (List Byte)) × State
  gpListGetValue : Option Handle → ℕ → State → (ℤ × Option (List Byte)) × State
  gpAbilitiesListNew : State → (ℤ × Option Handle) × State
  gpAbilitiesListLoad : Option Handle → State → ℤ × State
  gpAbilitiesListLookupModel : Option Handle → List Byte → State → ℤ × State
  gpAbilitiesListGetAbilities : Option Handle → ℤ → State → (ℤ × Abilities) × State
  gpCameraSetAbilities : Handle → Abilities → State → ℤ × State
  gpPortInfoListNew : State → (ℤ × Option Handle) × State
  gpPortInfoListLoad : Option Handle → State → ℤ × State
  gpPortInfoListCount : Option Handle → State → ℤ × State
  gpPortInfoListLookupPath : Option Handle → List Byte → State → ℤ × State
  gpPortInfoListGetInfo : Option Handle → ℤ → State → (ℤ × PortInfo) × State
  gpCameraSetPortInfo : Handle → PortInfo → State → ℤ × State

/-- What a function can throw; a failed assertion ends the program, and behind an access through a
pointer that is freed or not set nothing is said about it. -/
inductive Thrown where
  | exceptionData (errorNumber : ℤ) (message : List Byte)
  | stdException (what : List Byte)
  | assertionFailed
  | undefined

/-- `Gphoto2Exception`, whose error number is `EIO`. -/
def gphoto2Exception (message : List Byte) : Thrown := .exceptionData 5 message

structure CameraList where
  cameraList : Option Handle
  count : ℕ

/-- The members that the requests use, with the static lists of `Camera` and the state of the
library. `lists` are the camera lists that exist: created, and not freed yet. -/
structure CameraController (lib : Gphoto2) where
  library : lib.State
  abilitiesList : Option Handle
  portInfoList : Option Handle
  cameraList : CameraList
  camera : Option Handle
  lists : Finset Handle

/-- A computation of the server: it changes the controller, also when it throws. -/
abbrev Action (lib : Gphoto2) := EStateM Thrown (CameraController lib)

variable {lib : Gphoto2}

def call {ρ : Type} (f : lib.State → ρ × lib.State) : Action lib ρ := do
  let s ← get
  let r := f s.library
  set { s with library := r.2 }
  return r.1

@[simp] theorem run_call {ρ : Type} (f : lib.State → ρ × lib.State) (s : CameraController lib) :
    (call f).run s = .ok (f s.library).1 { s with library := (f s.library).2 } := rfl

namespace CameraList

/-- The constructor. The second test is on `count_`, which is still zero, not on what
`gp_camera_autodetect` returns. -/
def construct : Action lib CameraList := do
  let count : ℕ := 0
  let (ret, cameraList) ← call lib.gpListNew
  if ret ≠ 0 then
    throw (gphoto2Exception
      (text "ERROR: failed to greate the camera list: " ++ signedDecimal ret))
  modify fun s => { s with lists := cameraList.elim s.lists fun handle => insert handle s.lists }
  call fun s => ((), lib.gpListReset cameraList s)
  let ret2 ← call (lib.gpCameraAutodetect cameraList)
  if 0 > count then
    throw (gphoto2Exception (text "ERROR: failed to autodetect cameras: " ++ decimal count))
  if ¬ 0 ≤ ret2 then
    throw .assertionFailed
  return ⟨cameraList, ret2.toNat⟩

def destroy (list : CameraList) : Action lib Unit := do
  match list.cameraList with
  | some handle =>
    call fun s => ((), lib.gpListFree handle s)
    if handle ∉ (← get).lists then
      throw .undefined
    modify fun s => { s with lists := s.lists.erase handle }
  | none => return ()

section Destroy
variable {list : CameraList} {handle : Handle} {s : CameraController lib}

theorem destroy_none (h : list.cameraList = none) : list.destroy.run s = .ok () s := by
  unfold destroy
  rw [h]
  rfl

theorem destroy_run (h : list.cameraList = some handle) (hlive : handle ∈ s.lists) :
    list.destroy.run s = .ok () { s with
      library := lib.gpListFree handle s.library
      lists := s.lists.erase handle } := by
  unfold destroy
  simp only [h, EStateM.run_bind, run_call, EStateM.run_get]
  rw [if_neg (not_not.mpr hlive)]
  rfl

theorem destroy_undefined (h : list.cameraList = some handle) (hgone : handle ∉ s.lists) :
    list.destroy.run s =
      .error .undefined { s with library := lib.gpListFree handle s.library } := by
  unfold destroy
  simp only [h, EStateM.run_bind, run_call, EStateM.run_get]
  rw [if_pos hgone]
  rfl

end Destroy

/-- `model` and `port`, by what they call. The pointer `tmp` is not initialized, and a text is gone
with the list that it belongs to. -/
def entry (gpListGet : Option Handle → ℕ → lib.State → (ℤ × Option (List Byte)) × lib.State)
    (list : CameraList) (i : ℕ) : Action lib (List Byte) := do
  if ¬ list.count > i then
    throw .assertionFailed
  let (_, tmp) ← call (gpListGet list.cameraList i)
  let s ← get
  match list.cameraList, tmp with
  | some handle, some text => if handle ∈ s.lists then return cString text else throw .undefined
  | _, _ => throw .undefined

def model (list : CameraList) (i : ℕ) : Action lib (List Byte) := entry lib.gpListGetName list i

def port (list : CameraList) (i : ℕ) : Action lib (List Byte) := entry lib.gpListGetValue list i

section Entries
variable {gpListGet : Option Handle → ℕ → lib.State → (ℤ × Option (List Byte)) × lib.State}
  {list : CameraList} {i : ℕ} {s : CameraController lib}

theorem entry_undefined (hi : i < list.count)
    (hgone : ∀ handle ∈ list.cameraList, handle ∉ s.lists) :
    (entry gpListGet list i).run s =
      .error .undefined { s with library := (gpListGet list.cameraList i s.library).2 } := by
  unfold entry
  rw [if_neg (not_not.mpr hi)]
  simp only [EStateM.run_bind, run_call, EStateM.run_get]
  cases hlist : list.cameraList with
  | none => rfl
  | some handle =>
    have hnot : handle ∉ s.lists := hgone handle hlist
    cases (gpListGet (some handle) i s.library).1.2 with
    | none => rfl
    | some text =>
      simp only [hnot, ↓reduceIte]
      rfl

/-- A text that can be read, by a call that changes nothing. -/
def Reads (gpListGet : Option Handle → ℕ → lib.State → (ℤ × Option (List Byte)) × lib.State)
    (list : CameraList) (s : CameraController lib) (i : ℕ) (text : List Byte) : Prop :=
  ∃ handle ∈ s.lists, list.cameraList = some handle ∧
    ∃ ret, gpListGet (some handle) i s.library = ((ret, some text), s.library)

theorem Reads.run {text : List Byte} (h : Reads gpListGet list s i text) (hi : i < list.count) :
    (entry gpListGet list i).run s = .ok (cString text) s := by
  obtain ⟨handle, hlive, hlist, ret, hget⟩ := h
  unfold entry
  rw [if_neg (not_not.mpr hi)]
  simp only [EStateM.run_bind, run_call, EStateM.run_get, hlist, hget, hlive, ↓reduceIte]
  rfl

end Entries

end CameraList

namespace Camera

def abilitiesList : Action lib (Option Handle) := do
  let s ← get
  if s.abilitiesList = none then
    let (ret1, list) ← call lib.gpAbilitiesListNew
    modify fun s => { s with abilitiesList := list }
    if 0 > ret1 then
      throw (gphoto2Exception
        (text "ERROR: Failed to create a new abilities list: " ++ signedDecimal ret1))
    let ret2 ← call (lib.gpAbilitiesListLoad list)
    if 0 > ret2 then
      throw (gphoto2Exception
        (text "ERROR: Failed to load abilities list: " ++ signedDecimal ret2))
  return (← get).abilitiesList

def driverIndex (model : List Byte) : Action lib ℤ := do
  let list ← abilitiesList
  let index ← call (lib.gpAbilitiesListLookupModel list model)
  if 0 > index then
    throw (gphoto2Exception (text "ERROR: Failed to find driver for camera " ++ model ++
      text ": " ++ signedDecimal index))
  return index

def setAbilities (model : List Byte) : Action lib Unit := do
  let some camera := (← get).camera
    | throw (gphoto2Exception (text "ERROR: camera not initialized"))
  let index ← driverIndex model
  let list ← abilitiesList
  let (ret1, abilities) ← call (lib.gpAbilitiesListGetAbilities list index)
  if 0 > ret1 then
    throw (gphoto2Exception (text "ERROR: failed to get abilities for camera " ++ model ++
      text ": " ++ signedDecimal ret1))
  let ret2 ← call (lib.gpCameraSetAbilities camera abilities)
  if 0 > ret2 then
    throw (gphoto2Exception (text "ERROR: failed to set abilities for camera " ++ model ++
      text ": " ++ signedDecimal ret2))

def portInfoList : Action lib (Option Handle) := do
  let s ← get
  if s.portInfoList = none then
    let (ret1, list) ← call lib.gpPortInfoListNew
    modify fun s => { s with portInfoList := list }
    if 0 > ret1 then
      throw (gphoto2Exception
        (text "ERROR: failed to create new port info list: " ++ signedDecimal ret1))
    let ret2 ← call (lib.gpPortInfoListLoad list)
    if 0 > ret2 then
      throw (gphoto2Exception
        (text "ERROR: failed to load port info list: " ++ signedDecimal ret2))
    let ret3 ← call (lib.gpPortInfoListCount list)
    if 0 > ret3 then
      throw (gphoto2Exception
        (text "ERROR: failed to count the number of ports: " ++ signedDecimal ret3))
  return (← get).portInfoList

def setPortInfo (port : List Byte) : Action lib Unit := do
  let some camera := (← get).camera
    | throw (gphoto2Exception (text "ERROR: camera not initialized"))
  let index ← call (lib.gpPortInfoListLookupPath (← portInfoList) port)
  if 0 > index then
    throw (gphoto2Exception (text "ERROR: failed to lookup path for port '" ++ port ++
      text "' (use 'gphoto2 --list-ports'): " ++ signedDecimal index))
  let (ret2, portInfo) ← call (lib.gpPortInfoListGetInfo (← portInfoList) index)
  if 0 > ret2 then
    throw (gphoto2Exception (text "ERROR: failed to get port info for port '" ++ port ++
      text "': " ++ signedDecimal ret2))
  let ret3 ← call (lib.gpCameraSetPortInfo camera portInfo)
  if 0 > ret3 then
    throw (gphoto2Exception (text "ERROR: failed to set camera port info for port '" ++ port ++
      text "': " ++ signedDecimal ret3))

end Camera

namespace CameraController

/-- The loop of `listCameras` over the entries of the list, from the `i`-th on. -/
def listEntries (list : CameraList) (i : ℕ) (separator response : List Byte) :
    Action lib (List Byte) := do
  if list.count > i then
    let response := response ++ separator ++ decimal i ++ [tab]
    let model ← list.model i
    let response := response ++ model ++ [tab]
    let port ← list.port i
    listEntries list (i + 1) [newline] (response ++ port)
  else
    return response
termination_by list.count - i

/-- The temporary list is copied to `cameraList_` and destroyed at the end of the statement. -/
def listCameras : Action lib (List Byte) := do
  let temporary ← CameraList.construct
  modify fun s => { s with cameraList := temporary }
  temporary.destroy
  listEntries (← get).cameraList 0 [] []

def selectCamera (model usbPort : List Byte) : Action lib Unit := do
  Camera.setAbilities model
  Camera.setPortInfo usbPort

/-! ### The response for a list that can be read -/

section Lines
variable (count : ℕ) (model port : ℕ → List Byte)

/-- What the loop returns when it gets these names. -/
def listLoop (i : ℕ) (separator response : List Byte) : List Byte :=
  if count > i then
    listLoop (i + 1) [newline]
      (response ++ separator ++ decimal i ++ [tab] ++ model i ++ [tab] ++ port i)
  else response
termination_by count - i

/-- The response for a list of `count` cameras. -/
def listResponse : List Byte := listLoop count model port 0 [] []

/-- The line of `listCameras` for the entry at an index. -/
def line (i : ℕ) : List Byte := decimal i ++ [tab] ++ model i ++ [tab] ++ port i

/-- Every line but the first comes after a newline. -/
theorem listLoop_lines (i : ℕ) (separator response : List Byte) :
    listLoop count model port i separator response =
      response ++ (if i < count then separator else []) ++
        [newline].intercalate ((List.range' i (count - i)).map (line model port)) := by
  fun_induction listLoop count model port i separator response with
  | case1 i separator response hlt ih =>
    obtain ⟨n, hn⟩ : ∃ n, count - i = n + 1 := ⟨count - i - 1, by omega⟩
    have hrest : count - (i + 1) = n := by omega
    rw [ih, if_pos hlt, hn, hrest, List.range'_succ, List.map_cons]
    cases n with
    | zero =>
      have hlast : ¬ i + 1 < count := by omega
      simp [hlast, line]
    | succ n =>
      have hmore : i + 1 < count := by omega
      rw [if_pos hmore, List.range'_succ, List.map_cons, List.intercalate_cons_cons]
      simp [line]
  | case2 i separator response hge =>
    have hzero : count - i = 0 := by omega
    simp [hzero, Nat.not_lt.mpr (Nat.sub_eq_zero_iff_le.mp hzero)]

/-- The response has a line for every index. -/
theorem listResponse_lines :
    listResponse count model port =
      [newline].intercalate ((List.range count).map (line model port)) := by
  rw [listResponse, listLoop_lines, List.range_eq_range']
  simp

variable {model port : ℕ → List Byte} {m : ℕ}

theorem listLoop_length (hnames : ∀ i, m ≤ (model i).length + (port i).length) (i : ℕ)
    (separator response : List Byte) :
    response.length + (count - i) * (m + 2) ≤
      (listLoop count model port i separator response).length := by
  fun_induction listLoop count model port i separator response with
  | case1 i separator response hlt ih =>
    have hline := hnames i
    have hstep : (count - i) * (m + 2) = (count - (i + 1)) * (m + 2) + (m + 2) := by
      obtain ⟨n, hn⟩ : ∃ n, count - i = n + 1 := ⟨count - i - 1, by omega⟩
      have hn' : count - (i + 1) = n := by omega
      rw [hn, hn', Nat.succ_mul]
    simp only [List.length_append, List.length_singleton] at ih
    omega
  | case2 i separator response hge =>
    have hzero : count - i = 0 := by omega
    simp [hzero]

/-- The response is at least as long as the names and two tabs for each of the entries. -/
theorem listResponse_length (hnames : ∀ i, m ≤ (model i).length + (port i).length) :
    count * (m + 2) ≤ (listResponse count model port).length := by
  have hloop := listLoop_length count hnames 0 [] []
  rw [List.length_nil, Nat.zero_add] at hloop
  exact hloop

end Lines

/-- The loop over a list that exists returns what the library reads in it. -/
theorem listEntries_run {list : CameraList} {s : CameraController lib} {model port : ℕ → List Byte}
    (hmodel : ∀ i < list.count, CameraList.Reads lib.gpListGetName list s i (model i))
    (hport : ∀ i < list.count, CameraList.Reads lib.gpListGetValue list s i (port i)) (i : ℕ)
    (separator response : List Byte) :
    (listEntries list i separator response).run s =
      .ok (listLoop list.count (fun i => cString (model i)) (fun i => cString (port i)) i
        separator response) s := by
  rw [listEntries, listLoop]
  by_cases hi : i < list.count
  · rw [if_pos hi, if_pos hi]
    simp only [EStateM.run_bind, CameraList.model, CameraList.port, (hmodel i hi).run hi,
      (hport i hi).run hi]
    rw [listEntries_run hmodel hport (i + 1)]
  · rw [if_neg hi, if_neg hi]
    rfl
termination_by list.count - i

/-- With a list that is gone the loop ends at its first entry. -/
theorem listEntries_undefined {list : CameraList} {s : CameraController lib} {i : ℕ}
    (hi : i < list.count) (hgone : ∀ handle ∈ list.cameraList, handle ∉ s.lists)
    (separator response : List Byte) :
    (listEntries list i separator response).run s = .error .undefined
      { s with library := (lib.gpListGetName list.cameraList i s.library).2 } := by
  rw [listEntries, if_pos hi]
  simp only [EStateM.run_bind, CameraList.model, CameraList.entry_undefined hi hgone]

end CameraController

end Rckam.Server
