import Rckam.Library.Outcomes
import Rckam.Server.Server

/-! The two parts of the camera that `SELECT_CAMERA` sets one after the other. -/
namespace Rckam.Server
open Outcomes

/-- The functions of libgphoto2 that look for the driver and the port of a camera. -/
inductive Lookup (lib : Gphoto2) (s : lib.State) : lib.State → Prop where
  | abilitiesListNew : Lookup lib s (lib.gpAbilitiesListNew s).2
  | abilitiesListLoad (list : Option Handle) : Lookup lib s (lib.gpAbilitiesListLoad list s).2
  | lookupModel (list : Option Handle) (model : List Byte) :
      Lookup lib s (lib.gpAbilitiesListLookupModel list model s).2
  | getAbilities (list : Option Handle) (index : ℤ) :
      Lookup lib s (lib.gpAbilitiesListGetAbilities list index s).2
  | portInfoListNew : Lookup lib s (lib.gpPortInfoListNew s).2
  | portInfoListLoad (list : Option Handle) : Lookup lib s (lib.gpPortInfoListLoad list s).2
  | portInfoListCount (list : Option Handle) : Lookup lib s (lib.gpPortInfoListCount list s).2
  | lookupPath (list : Option Handle) (port : List Byte) :
      Lookup lib s (lib.gpPortInfoListLookupPath list port s).2
  | getInfo (list : Option Handle) (index : ℤ) :
      Lookup lib s (lib.gpPortInfoListGetInfo list index s).2

/-- The abilities and the port info of a camera in the state of the library. A setter changes its
part exactly when it succeeds, and the lookups change neither. -/
structure Parts (lib : Gphoto2) where
  abilities : Handle → lib.State → lib.Abilities
  portInfo : Handle → lib.State → lib.PortInfo
  setAbilities : ∀ camera a s, abilities camera (lib.gpCameraSetAbilities camera a s).2 =
    if 0 > (lib.gpCameraSetAbilities camera a s).1 then abilities camera s else a
  setAbilities_portInfo : ∀ camera a s,
    portInfo camera (lib.gpCameraSetAbilities camera a s).2 = portInfo camera s
  setPortInfo : ∀ camera i s, portInfo camera (lib.gpCameraSetPortInfo camera i s).2 =
    if 0 > (lib.gpCameraSetPortInfo camera i s).1 then portInfo camera s else i
  setPortInfo_abilities : ∀ camera i s,
    abilities camera (lib.gpCameraSetPortInfo camera i s).2 = abilities camera s
  lookup : ∀ camera {s t}, Lookup lib s t →
    abilities camera t = abilities camera s ∧ portInfo camera t = portInfo camera s

variable {lib : Gphoto2}

/-- The camera of the controller with its two parts. -/
def Parts.view (parts : Parts lib) (camera : Handle) (s : CameraController lib) :
    Option Handle × lib.Abilities × lib.PortInfo :=
  (s.camera, parts.abilities camera s.library, parts.portInfo camera s.library)

/-- The abilities are what `setAbilities` finds for the model from this state on: those in the list
of `Camera` at the index of the driver, which has been looked up in that list. -/
def CameraController.Finds (s : CameraController lib) (model : List Byte) (a : lib.Abilities) :
    Prop :=
  ∃ index t list u ret, (Camera.driverIndex model : Action lib ℤ).run s = .ok index t ∧
    (Camera.abilitiesList : Action lib (Option Handle)).run t = .ok list u ∧
    (lib.gpAbilitiesListGetAbilities list index u.library).1 = (ret, a) ∧ 0 ≤ ret

section Steps
variable {parts : Parts lib} {camera : Handle} {s : CameraController lib}

theorem lookup_ends {ρ : Type} {f : lib.State → ρ × lib.State} (h : ∀ s, Lookup lib s (f s).2)
    (E : Thrown → CameraController lib → Prop) :
    Ends (call f : Action lib ρ) s
      (fun r t => r = (f s.library).1 ∧ parts.view camera t = parts.view camera s) E := by
  obtain ⟨habilities, hport⟩ := parts.lookup camera (h s.library)
  refine ⟨rfl, ?_⟩
  simp [Parts.view, habilities, hport]

theorem keeps_lookup {ρ : Type} {f : lib.State → ρ × lib.State} (h : ∀ s, Lookup lib s (f s).2) :
    Keeps (parts.view camera) (call f : Action lib ρ) :=
  fun _ => (lookup_ends h fun _ _ => False).mono (fun _ _ hr => hr.2) fun _ _ hfalse => hfalse.elim

theorem setAbilities_call (a : lib.Abilities) (E : Thrown → CameraController lib → Prop) :
    Ends (call (lib.gpCameraSetAbilities camera a) : Action lib ℤ) s
      (fun ret t => parts.view camera t =
        if 0 > ret then parts.view camera s
        else (s.camera, a, parts.portInfo camera s.library)) E := by
  show parts.view camera { s with library := (lib.gpCameraSetAbilities camera a s.library).2 } = _
  unfold Parts.view
  rw [parts.setAbilities, parts.setAbilities_portInfo]
  split <;> rfl

theorem setPortInfo_call (i : lib.PortInfo) (E : Thrown → CameraController lib → Prop) :
    Ends (call (lib.gpCameraSetPortInfo camera i) : Action lib ℤ) s
      (fun ret t => parts.view camera t =
        if 0 > ret then parts.view camera s
        else (s.camera, parts.abilities camera s.library, i)) E := by
  show parts.view camera { s with library := (lib.gpCameraSetPortInfo camera i s.library).2 } = _
  unfold Parts.view
  rw [parts.setPortInfo, parts.setPortInfo_abilities]
  split <;> rfl

theorem abilitiesList_keeps :
    Keeps (parts.view camera) (Camera.abilitiesList : Action lib (Option Handle)) := by
  have hreturn : Keeps (parts.view camera)
      (do return (← get).abilitiesList : Action lib (Option Handle)) :=
    keeps_get.bind fun _ => keeps_pure _
  unfold Camera.abilitiesList
  apply keeps_get.bind
  intro t
  dsimp only
  split
  · apply (keeps_lookup fun _ => .abilitiesListNew).bind
    rintro ⟨ret1, list⟩
    refine Keeps.bind (keeps_modify fun _ => rfl) fun _ => ?_
    apply keeps_check
    apply (keeps_lookup fun _ => .abilitiesListLoad list).bind
    intro ret2
    exact keeps_check hreturn
  · exact hreturn

theorem portInfoList_keeps :
    Keeps (parts.view camera) (Camera.portInfoList : Action lib (Option Handle)) := by
  have hreturn : Keeps (parts.view camera)
      (do return (← get).portInfoList : Action lib (Option Handle)) :=
    keeps_get.bind fun _ => keeps_pure _
  unfold Camera.portInfoList
  apply keeps_get.bind
  intro t
  dsimp only
  split
  · apply (keeps_lookup fun _ => .portInfoListNew).bind
    rintro ⟨ret1, list⟩
    refine Keeps.bind (keeps_modify fun _ => rfl) fun _ => ?_
    apply keeps_check
    apply (keeps_lookup fun _ => .portInfoListLoad list).bind
    intro ret2
    apply keeps_check
    apply (keeps_lookup fun _ => .portInfoListCount list).bind
    intro ret3
    exact keeps_check hreturn
  · exact hreturn

/-- A computation that keeps the parts, behind one that has kept them. -/
theorem keeps_behind {α : Type} {x : Action lib α} {t : CameraController lib}
    (h : Keeps (parts.view camera) x) (ht : parts.view camera t = parts.view camera s) :
    Ends x t (fun _ u => parts.view camera u = parts.view camera s)
      fun _ u => parts.view camera u = parts.view camera s := by
  rw [← ht]
  exact h t

theorem driverIndex_keeps (model : List Byte) :
    Keeps (parts.view camera) (Camera.driverIndex model : Action lib ℤ) := by
  unfold Camera.driverIndex
  apply abilitiesList_keeps.bind
  intro list
  apply (keeps_lookup fun _ => .lookupModel list model).bind
  intro index
  exact keeps_check (keeps_pure _)

/-- The abilities are set last, or they are what they were. -/
theorem setAbilities_ends (model : List Byte) (hcamera : s.camera = some camera) :
    Ends (Camera.setAbilities model : Action lib Unit) s
      (fun _ t => ∃ a, s.Finds model a ∧
        parts.view camera t = (s.camera, a, parts.portInfo camera s.library))
      fun _ t => parts.view camera t = parts.view camera s := by
  unfold Camera.setAbilities
  apply ends_get_bind
  rw [hcamera]
  apply ((driverIndex_keeps model _).run.mono (fun _ _ h => h) fun _ _ h => h.2).bind
  rintro index t ⟨hindex, ht⟩
  apply ((keeps_behind abilitiesList_keeps ht).run.mono (fun _ _ h => h) fun _ _ h => h.2).bind
  rintro list u ⟨hlist, hu⟩
  apply (lookup_ends (fun _ => .getAbilities list _) _).bind
  rintro ⟨ret1, a⟩ v ⟨hret, hv⟩
  dsimp only
  apply ends_check
  · intro _
    exact hv.trans hu
  · intro hret1
    apply (setAbilities_call a _).bind
    intro ret2 w hw
    have hsame := hv.trans hu
    apply ends_check_last
    · intro hfailed
      rw [hw, if_pos hfailed, hsame]
    · intro hset
      have hkept : v.camera = _ := congrArg Prod.fst hsame
      have hport : parts.portInfo camera v.library = _ := congrArg (fun x => x.2.2) hsame
      refine ⟨a, ⟨index, t, list, u, ret1, hindex, hlist, hret.symm, not_lt.mp hret1⟩, ?_⟩
      rw [hw, if_neg hset, hkept, hport, ← hcamera]
      rfl

/-- The port info is set last, or nothing changes. -/
theorem setPortInfo_ends (port : List Byte) (hcamera : s.camera = some camera) :
    Ends (Camera.setPortInfo port : Action lib Unit) s (fun _ _ => True)
      fun _ t => parts.view camera t = parts.view camera s := by
  unfold Camera.setPortInfo
  apply ends_get_bind
  rw [hcamera]
  apply (portInfoList_keeps _).bind
  intro list t ht
  apply (keeps_behind (keeps_lookup fun _ => .lookupPath list port) ht).bind
  intro index u hu
  apply ends_check
  · intro _
    exact hu
  · intro _
    apply (keeps_behind portInfoList_keeps hu).bind
    intro list' v hv
    apply (keeps_behind (keeps_lookup fun _ => .getInfo list' index) hv).bind
    rintro ⟨ret2, i⟩ w hw
    dsimp only
    apply ends_check
    · intro _
      exact hw
    · intro _
      apply (setPortInfo_call i _).bind
      intro ret3 x hx
      apply ends_check_last
      · intro hfailed
        rw [hx, if_pos hfailed, hw]
      · intro _
        trivial

end Steps

/-- The abilities have been set for the model: `setAbilities` has succeeded, and the camera still
has what was found and set then. -/
def AbilitiesSet (parts : Parts lib) (camera : Handle) (model : List Byte)
    (s t : CameraController lib) : Prop :=
  ∃ u a, (Camera.setAbilities model : Action lib Unit).run s = .ok () u ∧ s.Finds model a ∧
    parts.abilities camera u.library = a ∧ parts.abilities camera t.library = a

/-- The port info is the same, and so are the abilities unless they have been set for the model. -/
structure AtMostAbilities (parts : Parts lib) (camera : Handle) (model : List Byte)
    (s t : CameraController lib) : Prop where
  portInfo : parts.portInfo camera t.library = parts.portInfo camera s.library
  abilities : parts.abilities camera t.library = parts.abilities camera s.library ∨
    AbilitiesSet parts camera model s t

section Requests
variable {parts : Parts lib} {camera : Handle} {s : CameraController lib}

theorem atMostAbilities_of_view {t : CameraController lib} (model : List Byte)
    (h : parts.view camera t = parts.view camera s) : AtMostAbilities parts camera model s t :=
  ⟨congrArg (fun x => x.2.2) h, Or.inl (congrArg (fun x => x.2.1) h)⟩

/-- A selection that throws has set the abilities at most. -/
theorem selectCamera_ends (model port : List Byte) (hcamera : s.camera = some camera) :
    Ends (CameraController.selectCamera model port : Action lib Unit) s (fun _ _ => True)
      fun _ t => AtMostAbilities parts camera model s t := by
  unfold CameraController.selectCamera
  apply ((setAbilities_ends model hcamera).run.mono (fun _ _ h => h)
    fun _ _ h => atMostAbilities_of_view model h.2).bind
  rintro _ t ⟨hrun, a, ha, ht⟩
  have hcamera' : t.camera = some camera := (congrArg Prod.fst ht).trans hcamera
  apply (setPortInfo_ends port hcamera').mono
  · intro _ _ _
    trivial
  · intro _ u hu
    have hview := hu.trans ht
    exact ⟨congrArg (fun x => x.2.2) hview, Or.inr ⟨t, a, hrun, ha,
      congrArg (fun x => x.2.1) ht, congrArg (fun x => x.2.1) hview⟩⟩

theorem argumentAt_ends (arguments : List (List Byte)) (n : ℕ) :
    Ends (argumentAt arguments n : Action lib (List Byte)) s
      (fun v t => t = s ∧ arguments[n]? = some v) fun _ t => t = s := by
  unfold argumentAt
  cases h : arguments[n]? with
  | none => exact ends_throw rfl
  | some v => exact ends_pure ⟨rfl, rfl⟩

variable (parts) in
theorem execute_ends (p : Platform) {r : Request} (hcamera : s.camera = some camera)
    (hselect : r.command = ServerCommand.selectCamera.value) :
    Ends (execute p r : Action lib (List Byte)) s (fun response _ => response = success p)
      fun _ t => AtMostAbilities parts camera (cString (r.arguments.headD [])) s t := by
  rw [execute_selectCamera hselect]
  apply ((argumentAt_ends r.arguments 0).mono (fun _ _ h => h)
    fun _ t ht => atMostAbilities_of_view _ (congrArg _ ht)).bind
  rintro model _ ⟨rfl, hmodel⟩
  have hhead : r.arguments.headD [] = model := by
    rw [List.headD_eq_head?_getD, List.head?_eq_getElem?, hmodel]
    rfl
  apply ((argumentAt_ends r.arguments 1).mono (fun _ _ h => h)
    fun _ t ht => atMostAbilities_of_view _ (congrArg _ ht)).bind
  rintro usbPort _ ⟨rfl, -⟩
  rw [hhead]
  apply (selectCamera_ends (cString model) (cString usbPort) hcamera).bind
  intro _ _ _
  exact ends_pure rfl

end Requests

/-- The request `SELECT_CAMERA` is answered with `FAILURE`. -/
structure Refused (p : Platform) (r : Request) (s t : CameraController lib) : Prop where
  command : r.command = ServerCommand.selectCamera.value
  response : ∃ response, respond p r s = (some response, t) ∧
    ResponseCode.failure.bytes p <+: response

/-- A refused selection leaves the port info as it was, and the abilities too unless they have been
set for the model. -/
theorem refused_selection (parts : Parts lib) (p : Platform) (r : Request)
    (s t : CameraController lib) (camera : Handle) (hcamera : s.camera = some camera)
    (hrefused : Refused p r s t) :
    AtMostAbilities parts camera (cString (r.arguments.headD [])) s t := by
  obtain ⟨hselect, response, hrespond, hfailure⟩ := hrefused
  have hends := execute_ends parts p hcamera hselect
  unfold respond at hrespond
  cases hrun : (execute p r : Action lib (List Byte)).run s with
  | ok v u =>
    have hsuccess := hends.ok hrun
    rw [hrun] at hrespond
    obtain ⟨hv, -⟩ := Prod.mk.inj hrespond
    rw [← Option.some.inj hv, hsuccess] at hfailure
    have heq : ResponseCode.failure.bytes p = success p :=
      hfailure.eq_of_length (by simp [success])
    exact absurd (ResponseCode.bytes_inj p heq) (by decide)
  | error e u =>
    rw [hrun] at hrespond
    obtain ⟨-, rfl⟩ := Prod.mk.inj hrespond
    exact hends.error hrun

/-- A refused selection changes nothing. -/
def Atomic (parts : Parts lib) : Prop :=
  ∀ (p : Platform) (r : Request) (s t : CameraController lib) (camera : Handle),
    s.camera = some camera → Refused p r s t →
      parts.abilities camera t.library = parts.abilities camera s.library ∧
        parts.portInfo camera t.library = parts.portInfo camera s.library

/-- A library that knows every model but no port. -/
def noPorts : Gphoto2 where
  State := ℕ × ℕ
  Abilities := ℕ
  PortInfo := ℕ
  gpListNew := fun s => ((0, some 1), s)
  gpListReset := fun _ s => s
  gpCameraAutodetect := fun _ s => (0, s)
  gpListFree := fun _ s => s
  gpListGetName := fun _ _ s => ((0, some []), s)
  gpListGetValue := fun _ _ s => ((0, some []), s)
  gpAbilitiesListNew := fun s => ((0, some 2), s)
  gpAbilitiesListLoad := fun _ s => (0, s)
  gpAbilitiesListLookupModel := fun _ _ s => (3, s)
  gpAbilitiesListGetAbilities := fun _ index s => ((0, index.toNat), s)
  gpCameraSetAbilities := fun _ a s => (0, a, s.2)
  gpPortInfoListNew := fun s => ((0, some 3), s)
  gpPortInfoListLoad := fun _ s => (0, s)
  gpPortInfoListCount := fun _ s => (0, s)
  gpPortInfoListLookupPath := fun _ _ s => (-5, s)
  gpPortInfoListGetInfo := fun _ index s => ((0, index.toNat), s)
  gpCameraSetPortInfo := fun _ i s => (0, s.1, i)

def noPortsParts : Parts noPorts where
  abilities := fun _ s => s.1
  portInfo := fun _ s => s.2
  setAbilities := fun _ _ _ => rfl
  setAbilities_portInfo := fun _ _ _ => rfl
  setPortInfo := fun _ _ _ => rfl
  setPortInfo_abilities := fun _ _ _ => rfl
  lookup := by
    intro camera s t h
    cases h <;> exact ⟨rfl, rfl⟩

/-- The controller with abilities 0 and port info 0, and what a selection makes of it. -/
def selectedZero : CameraController noPorts := ⟨(0, 0), some 2, some 3, ⟨none, 0⟩, some 7, ∅⟩

def selectedThree : CameraController noPorts := ⟨(3, 0), some 2, some 3, ⟨none, 0⟩, some 7, ∅⟩

def canonRequest : Request where
  command := ServerCommand.selectCamera.value
  arguments := [text "Canon EOS 5D", text "usb:009,009"]
  echo := []

theorem canonRequest_refused :
    Refused ⟨.eight, .little⟩ canonRequest selectedZero selectedThree := by
  refine ⟨rfl, _, rfl, ?_⟩
  simp only [List.append_assoc]
  exact List.prefix_append _ _

theorem canonRequest_atMostAbilities : AtMostAbilities noPortsParts 7
    (cString (canonRequest.arguments.headD [])) selectedZero selectedThree :=
  refused_selection noPortsParts _ _ _ _ 7 rfl canonRequest_refused

/-- The abilities are those of the new model, although the selection is refused. -/
theorem half_selected : ¬ Atomic noPortsParts := by
  intro h
  have hsame := (h _ _ _ _ 7 rfl canonRequest_refused).1
  exact absurd hsame (by decide : ¬ (3 : ℕ) = 0)

end Rckam.Server
