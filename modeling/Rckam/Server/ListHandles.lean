import Mathlib.Data.Finset.Lattice.Fold
import Mathlib.Order.Lattice.Nat
import Rckam.Library.Outcomes
import Rckam.Server.CameraController

/-! The camera lists of libgphoto2 that the server creates, passes on and frees. -/
namespace Rckam.Server
open Outcomes

inductive ListFunction where
  | new | reset | autodetect
  | getName (i : ℕ)
  | getValue (i : ℕ)
  | free
  deriving DecidableEq, Repr

/-- A call of a function of libgphoto2 with a list, in the order of the calls. -/
structure ListCall where
  function : ListFunction
  handle : Option Handle
  deriving DecidableEq, Repr

/-- What a call does to the set of live lists. -/
def ListCall.apply (live : Finset Handle) (c : ListCall) : Finset Handle :=
  match c.function, c.handle with
  | .new, some h => insert h live
  | .free, some h => live.erase h
  | _, _ => live

/-- The live lists after these calls. -/
def live (calls : List ListCall) : Finset Handle := calls.foldl ListCall.apply ∅

theorem live_append (calls calls' : List ListCall) :
    live (calls ++ calls') = calls'.foldl ListCall.apply (live calls) :=
  List.foldl_append

/-- Every list that is used is live, and every list created is freed once. -/
structure Disciplined (calls : List ListCall) : Prop where
  live : ∀ front c rest, calls = front ++ c :: rest → c.function ≠ .new →
    ∃ h ∈ live front, c.handle = some h
  freed : ∀ h, calls.count ⟨.new, some h⟩ = calls.count ⟨.free, some h⟩

/-- What libgphoto2 gives the server: the address of a new list, which no live list has, the
number of cameras detected, and what it reads through a handle. -/
structure Detection where
  fresh : List ListCall → Handle
  fresh_notMem : ∀ calls, fresh calls ∉ live calls
  cameras : List ListCall → ℕ
  name : Option Handle → ℕ → List ListCall → List Byte
  value : Option Handle → ℕ → List ListCall → List Byte

/-- The library with the calls so far as its state. -/
@[reducible] def Detection.library (d : Detection) : Gphoto2 where
  State := List ListCall
  Abilities := Unit
  PortInfo := Unit
  gpListNew := fun calls => ((0, some (d.fresh calls)), calls ++ [⟨.new, some (d.fresh calls)⟩])
  gpListReset := fun h calls => calls ++ [⟨.reset, h⟩]
  gpCameraAutodetect := fun h calls => (d.cameras calls, calls ++ [⟨.autodetect, h⟩])
  gpListFree := fun h calls => calls ++ [⟨.free, some h⟩]
  gpListGetName := fun h i calls => ((0, some (d.name h i calls)), calls ++ [⟨.getName i, h⟩])
  gpListGetValue := fun h i calls => ((0, some (d.value h i calls)), calls ++ [⟨.getValue i, h⟩])
  gpAbilitiesListNew := fun calls => ((0, none), calls)
  gpAbilitiesListLoad := fun _ calls => (0, calls)
  gpAbilitiesListLookupModel := fun _ _ calls => (0, calls)
  gpAbilitiesListGetAbilities := fun _ _ calls => ((0, ()), calls)
  gpCameraSetAbilities := fun _ _ calls => (0, calls)
  gpPortInfoListNew := fun calls => ((0, none), calls)
  gpPortInfoListLoad := fun _ calls => (0, calls)
  gpPortInfoListCount := fun _ calls => (0, calls)
  gpPortInfoListLookupPath := fun _ _ calls => (0, calls)
  gpPortInfoListGetInfo := fun _ _ calls => ((0, ()), calls)
  gpCameraSetPortInfo := fun _ _ calls => (0, calls)

namespace Detection

variable (d : Detection)

def requests : ℕ → Action d.library Unit
  | 0 => return ()
  | n + 1 => do
      let _ ← CameraController.listCameras
      requests n

/-- The controller from its constructor to its destructor. -/
def lifetime (n : ℕ) : Action d.library Unit := do
  let list ← CameraList.construct
  modify fun s => { s with cameraList := list }
  d.requests n
  (← get).cameraList.destroy

/-- The members of a controller that is not constructed yet are not looked at. -/
def blank : CameraController d.library := ⟨[], none, none, ⟨none, 0⟩, none, ∅⟩

/-- The calls of the lists in the life of a controller that serves `n` requests, as far as it can be
followed. -/
def calls (n : ℕ) : List ListCall :=
  match (d.lifetime n).run d.blank with
  | .ok _ s => s.library
  | .error _ s => s.library

/-- What the constructor of a list adds to these calls. -/
def created (calls : List ListCall) : List ListCall :=
  let list := some (d.fresh calls)
  [⟨.new, list⟩, ⟨.reset, list⟩, ⟨.autodetect, list⟩]

variable {d}

theorem construct_run (s : CameraController d.library) :
    (CameraList.construct : Action d.library CameraList).run s =
      .ok ⟨some (d.fresh s.library), d.cameras (s.library ++
          [⟨.new, some (d.fresh s.library)⟩, ⟨.reset, some (d.fresh s.library)⟩])⟩
        { s with
          library := s.library ++ d.created s.library
          lists := insert (d.fresh s.library) s.lists } := by
  simp [CameraList.construct, EStateM.run_bind, created, not_lt.mpr (Int.natCast_nonneg _)]

end Detection

/-! ### The lists that are live -/

/-- A call that is no creation is made with a list that is not live. -/
def UsesDead (calls : List ListCall) : Prop :=
  ∃ front c rest, calls = front ++ c :: rest ∧ c.function ≠ .new ∧ ∀ h ∈ c.handle, h ∉ live front

theorem UsesDead.not_disciplined {calls : List ListCall} (h : UsesDead calls) :
    ¬ Disciplined calls := by
  obtain ⟨front, c, rest, hcalls, hnew, hdead⟩ := h
  intro hdisciplined
  obtain ⟨list, hlive, hlist⟩ := hdisciplined.live front c rest hcalls hnew
  exact hdead list hlist hlive

namespace Detection
variable {d : Detection}

/-- The lists of the controller are those that its calls leave alive. -/
def Tracked (s : CameraController d.library) : Prop := s.lists = live s.library

/-- The controller holds a list that has been freed. -/
def Dangling (s : CameraController d.library) : Prop :=
  ∃ h, s.cameraList.cameraList = some h ∧ h ∉ live s.library

/-- A request leaves the controller with a list that it has freed, unless it looks for a camera in
that list. -/
theorem listCameras_dangling {s : CameraController d.library} (h : Tracked s) :
    Ends (CameraController.listCameras : Action d.library (List Byte)) s
      (fun _ t => Tracked t ∧ Dangling t) fun _ t => UsesDead t.library := by
  generalize hlist : d.fresh s.library = list
  generalize hcount : d.cameras (s.library ++ [⟨.new, some list⟩, ⟨.reset, some list⟩]) = count
  have hmem : list ∈ insert list s.lists := Finset.mem_insert_self _ _
  have hfreed : live (s.library ++ d.created s.library ++ [⟨.free, some list⟩]) =
      (insert list s.lists).erase list := by
    rw [h, live_append, live_append, created, hlist]
    rfl
  have hgone : list ∉ (insert list s.lists).erase list := Finset.notMem_erase _ _
  unfold CameraController.listCameras
  apply Ends.bind (Q := fun made t => made = ⟨some list, count⟩ ∧ t = { s with
    library := s.library ++ d.created s.library
    lists := insert list s.lists })
  · unfold Ends
    rw [construct_run, hlist, hcount]
    exact ⟨rfl, rfl⟩
  rintro _ _ ⟨rfl, rfl⟩
  apply ends_modify_bind
  apply Ends.bind (Q := fun _ t => t = { s with
    library := s.library ++ d.created s.library ++ [⟨.free, some list⟩]
    cameraList := ⟨some list, count⟩
    lists := (insert list s.lists).erase list })
  · unfold Ends
    rw [CameraList.destroy_run rfl hmem]
  rintro _ _ rfl
  apply ends_get_bind
  cases count with
  | zero =>
    rw [CameraController.listEntries, if_neg (Nat.lt_irrefl 0)]
    refine ends_pure ⟨hfreed.symm, list, rfl, ?_⟩
    show list ∉ live (s.library ++ d.created s.library ++ [⟨.free, some list⟩])
    rw [hfreed]
    exact hgone
  | succ n =>
    unfold Ends
    rw [CameraController.listEntries_undefined (Nat.succ_pos n) (by simp)]
    refine ⟨_, ⟨.getName 0, some list⟩, [], rfl, by simp, ?_⟩
    intro h' hh'
    obtain rfl : list = h' := Option.some.inj hh'
    rw [hfreed]
    exact hgone

theorem requests_dangling (n : ℕ) {s : CameraController d.library} (h : Tracked s)
    (hzero : n = 0 → Dangling s) :
    Ends (d.requests n) s (fun _ t => Tracked t ∧ Dangling t) fun _ t => UsesDead t.library := by
  induction n generalizing s with
  | zero => exact ends_pure ⟨h, hzero rfl⟩
  | succ n ih =>
    apply (listCameras_dangling h).bind
    rintro _ t ⟨ht, hdangling⟩
    exact ih ht fun _ => hdangling

/-- The destructor frees such a list again. -/
theorem destroy_dangling {s : CameraController d.library} (h : Tracked s) (hdangling : Dangling s) :
    Ends s.cameraList.destroy s (fun _ _ => False) fun _ t => UsesDead t.library := by
  obtain ⟨list, hlist, hdead⟩ := hdangling
  have hgone : list ∉ s.lists := by rwa [h]
  unfold Ends
  rw [CameraList.destroy_undefined hlist hgone]
  refine ⟨s.library, ⟨.free, some list⟩, [], rfl, nofun, ?_⟩
  intro h' hh'
  obtain rfl : list = h' := Option.some.inj hh'
  exact hdead

theorem calls_misused {n : ℕ} (hn : n ≠ 0) : UsesDead (d.calls n) := by
  have hlifetime : Ends (d.lifetime n) d.blank (fun _ _ => False)
      fun _ t => UsesDead t.library := by
    unfold lifetime
    apply Ends.bind (Q := fun list t => Tracked t) ?_ ?_
    · unfold Ends
      rw [construct_run]
      rfl
    · intro list t ht
      apply ends_modify_bind
      apply (requests_dangling n (s := { t with cameraList := list }) ht
        fun hzero => absurd hzero hn).bind
      rintro _ v ⟨hv, hdangling⟩
      apply ends_get_bind
      exact destroy_dangling hv hdangling
  unfold Ends at hlifetime
  unfold calls
  cases hrun : (d.lifetime n).run d.blank with
  | ok v t =>
    rw [hrun] at hlifetime
    exact hlifetime.elim
  | error e t =>
    rw [hrun] at hlifetime
    exact hlifetime

end Detection

variable (d : Detection)

theorem calls_zero : d.calls 0 = [⟨.new, some (d.fresh [])⟩, ⟨.reset, some (d.fresh [])⟩,
    ⟨.autodetect, some (d.fresh [])⟩, ⟨.free, some (d.fresh [])⟩] := by
  have hmem : d.fresh [] ∈ insert (d.fresh []) (∅ : Finset Handle) := Finset.mem_insert_self _ _
  unfold Detection.calls Detection.lifetime Detection.requests
  simp only [EStateM.run_bind, Detection.construct_run, EStateM.run_modify, EStateM.run_get]
  simp only [EStateM.run_pure]
  rw [CameraList.destroy_run rfl hmem]
  rfl

theorem disciplined_zero : Disciplined (d.calls 0) := by
  rw [calls_zero]
  constructor
  · intro front c rest hsplit hnew
    have hlive : d.fresh [] ∈ insert (d.fresh []) (∅ : Finset Handle) :=
      Finset.mem_insert_self _ _
    rcases front with _ | ⟨c1, _ | ⟨c2, _ | ⟨c3, _ | ⟨c4, front⟩⟩⟩⟩
    · cases hsplit
      exact absurd rfl hnew
    · cases hsplit
      exact ⟨_, hlive, rfl⟩
    · cases hsplit
      exact ⟨_, hlive, rfl⟩
    · cases hsplit
      exact ⟨_, hlive, rfl⟩
    · simp at hsplit
  · intro h
    rcases eq_or_ne (d.fresh []) h with hh | hh
    · simp [hh]
    · simp [hh]

/-- The lists of a controller are used as libgphoto2 requires exactly when no request asks it
for the cameras. -/
theorem disciplined_iff : ∀ (d : Detection) (n : ℕ), Disciplined (d.calls n) ↔ n = 0 := by
  intro d n
  constructor
  · intro hdisciplined
    by_contra hn
    exact (Detection.calls_misused hn).not_disciplined hdisciplined
  · rintro rfl
    exact disciplined_zero d

/-- One camera is detected. A new list gets the address after the largest one in use. -/
def oneCamera : Detection where
  fresh := fun calls => (live calls).sup id + 1
  fresh_notMem := by
    intro calls hmem
    have hle : (live calls).sup id + 1 ≤ (live calls).sup id := Finset.le_sup (f := id) hmem
    exact Nat.not_succ_le_self _ hle
  cameras := fun _ => 1
  name := fun _ _ _ => text "USB PTP Class Camera"
  value := fun _ _ _ => text "usb:001,005"

/-- One request frees the list that it then reads, and that the destructor is left to free again. -/
theorem freed_twice : ¬ Disciplined (oneCamera.calls 1) :=
  (Detection.calls_misused one_ne_zero).not_disciplined

end Rckam.Server
