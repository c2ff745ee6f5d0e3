import Rckam.Library.Traces
import Rckam.Server.Lifetime

/-! What is alive in the life of a server: every object is used only while it exists, and whatever
ends the server, what it has created is released. That holds up to the first use of a camera list
that is gone. -/
namespace Rckam.Server
open Outcomes Lifetimes

/-- The objects that exist after some calls: the context, by its pointer, the camera, which is
exited before it is freed, the socket, and the camera files, the last one first. -/
structure Alive where
  context : Option (Option Handle)
  camera : Option Handle
  exited : Bool
  socket : Bool
  files : List Handle
  deriving DecidableEq

namespace Alive

def nothing : Alive := ⟨none, none, false, false, []⟩

/-- What is alive after one more call, if that is permitted. A call that fails creates nothing. The
context is there for the calls that take it, and it outlives all the other objects. -/
def next (u : Alive) (m : Used) : Option Alive :=
  match m.use with
  | .contextNew =>
      if u = nothing then some { nothing with context := some m.answer.handle } else none
  | .contextUnref context =>
      if u = { nothing with context := some context } then some nothing else none
  | .autodetect _ | .abilitiesListLoad _ => if u.context.isSome then some u else none
  | .cameraNew =>
      if u.context.isSome ∧ u.camera = none then
        some { u with camera := if m.answer.ret = 0 then m.answer.handle else none }
      else none
  | .setAbilities camera | .setPortInfo camera =>
      if u.camera = some camera ∧ ¬ u.exited then some u else none
  | .cameraExit camera =>
      if u.context.isSome ∧ u.camera = some camera ∧ ¬ u.exited then
        some { u with exited := true }
      else none
  | .cameraFree camera =>
      if u.camera = some camera ∧ u.exited then some { u with camera := none, exited := false }
      else none
  | .socketOpen _ => if ¬ u.socket then some { u with socket := m.answer.ret = 0 } else none
  | .socketClose => if u.socket then some { u with socket := false } else none
  | .fileNew =>
      some { u with
        files := (if m.answer.ret = 0 then m.answer.handle.toList else []) ++ u.files }
  | .fileUnref file =>
      if u.files.head? = some file then some { u with files := u.files.tail } else none
  -- the lists have rules of their own
  | .listNew | .listReset _ | .listGetName _ _ | .listGetValue _ _ | .listFree _
  | .abilitiesListNew | .lookupModel _ _ | .getAbilities _ _
  | .portInfoListNew | .portInfoListLoad _ | .portInfoListCount _ | .lookupPath _ _
  | .getInfo _ _ => some u

/-- What is alive after a list of calls, if they are permitted. -/
def after (used : List Used) : Option Alive := used.foldlM next nothing

theorem after_append {l : List Used} {u v : Alive} {m : Used} (h : after l = some u)
    (hnext : u.next m = some v) : after (l ++ [m]) = some v :=
  (Traces.foldlM_append_some h).trans (by simp [hnext])

end Alive

/-- The lists after some calls: the camera lists that exist, and the abilities list and the port
list, which are never released. -/
structure Lists where
  cameraLists : Finset Handle
  abilities : Option Handle
  portInfos : Option Handle

namespace Lists

def nothing : Lists := ⟨∅, none, none⟩

/-- The lists after one more call, if that is permitted: the list that it takes is there, and
there is only one abilities list and one port list at a time. -/
def next (l : Lists) (m : Used) : Option Lists :=
  match m.use with
  | .listNew =>
      if m.answer.ret = 0 then
        some { l with
          cameraLists := m.answer.handle.elim l.cameraLists fun list => insert list l.cameraLists }
      else some l
  | .listReset list | .autodetect list | .listGetName list _ | .listGetValue list _ =>
      if ∃ handle ∈ l.cameraLists, list = some handle then some l else none
  | .listFree list =>
      if list ∈ l.cameraLists then some { l with cameraLists := l.cameraLists.erase list } else none
  | .abilitiesListNew =>
      if l.abilities = none then some { l with abilities := m.answer.handle } else none
  | .abilitiesListLoad list | .lookupModel list _ | .getAbilities list _ =>
      if l.abilities = list then some l else none
  | .portInfoListNew =>
      if l.portInfos = none then some { l with portInfos := m.answer.handle } else none
  | .portInfoListLoad list | .portInfoListCount list | .lookupPath list _ | .getInfo list _ =>
      if l.portInfos = list then some l else none
  | .contextNew | .contextUnref _ | .cameraNew | .cameraExit _ | .cameraFree _ | .setAbilities _
  | .setPortInfo _ | .socketOpen _ | .socketClose | .fileNew | .fileUnref _ => some l

/-- The lists after a list of calls, if they are permitted. -/
def after (used : List Used) : Option Lists := used.foldlM next nothing

theorem after_append {used : List Used} {l l' : Lists} {m : Used} (h : after used = some l)
    (hnext : l.next m = some l') : after (used ++ [m]) = some l' :=
  (Traces.foldlM_append_some h).trans (by simp [hnext])

end Lists

/-- The camera lists that have been created. -/
def created (used : List Used) : ℕ :=
  used.countP fun m => m.use = .listNew ∧ m.answer.ret = 0

/-- Every call was permitted up to one that reads the first name in a camera list that is gone, or
that frees such a list. -/
def Misused (used : List Used) : Prop :=
  ∃ front m rest u l list, used = front ++ m :: rest ∧ Alive.after front = some u ∧
    Lists.after front = some l ∧ list ∉ l.cameraLists ∧
    (m.use = .listGetName (some list) 0 ∨ m.use = .listFree list)

theorem Misused.append {used : List Used} (h : Misused used) (more : List Used) :
    Misused (used ++ more) := by
  obtain ⟨front, m, rest, u, l, list, hused, hmisuse⟩ := h
  exact ⟨front, m, rest ++ more, u, l, list, by simp [hused], hmisuse⟩

theorem created_append (used : List Used) (m : Used) :
    created (used ++ [m]) =
      created used + if m.use = .listNew ∧ m.answer.ret = 0 then 1 else 0 := by
  unfold created
  rw [List.countP_append, List.countP_singleton]
  simp

/-- The calls so far leave `u` alive, with the camera of the controller, and the lists `l`, with the
list pointers of the controller. -/
structure CameraController.Has {env : Surroundings} (s : CameraController env.library)
    (u : Alive) (l : Lists) : Prop where
  alive : Alive.after s.library = some u
  lists : Lists.after s.library = some l
  camera : s.camera = u.camera
  cameraLists : s.lists = l.cameraLists
  abilities : s.abilitiesList = l.abilities
  portInfos : s.portInfoList = l.portInfos

/-- `cameraList_` is the only camera list that has ever been created, or it is gone. -/
def CameraController.Holds {env : Surroundings} (s : CameraController env.library) (l : Lists) :
    Prop :=
  ∃ list, s.cameraList.cameraList = some list ∧
    (created s.library = 1 ∧ l.cameraLists = {list} ∨
      2 ≤ created s.library ∧ list ∉ l.cameraLists)

section Calls
variable {env : Surroundings} {s : CameraController env.library} {u v : Alive} {l : Lists} {c : Use}

/-- What is alive between two requests. -/
def Serving (u : Alive) (s : CameraController env.library) : Prop := ∃ l, s.Has u l ∧ s.Holds l

/-- What a request leaves that throws. -/
def Threw (u : Alive) : Thrown → CameraController env.library → Prop
  | .exceptionData _ _, t | .stdException _, t => Serving u t
  | .assertionFailed, t => ∃ l, t.Has u l
  | .undefined, t => Misused t.library

theorem CameraController.Has.used (h : s.Has u l)
    (hu : u.next ⟨c, env.answer s.library c⟩ = some v)
    (hl : l.next ⟨c, env.answer s.library c⟩ = some l) (hcamera : v.camera = u.camera) :
    (used env c s).Has v l where
  alive := Alive.after_append h.alive hu
  lists := Lists.after_append h.lists hl
  camera := h.camera.trans hcamera.symm
  cameraLists := h.cameraLists
  abilities := h.abilities
  portInfos := h.portInfos

theorem created_used (hc : c ≠ .listNew) :
    created (used env c s).library = created s.library := by
  show created (s.library ++ [⟨c, env.answer s.library c⟩]) = _
  rw [created_append, if_neg fun h => hc h.1]
  rfl

theorem ends_call_bind {ρ α : Type} {f : List Used → ρ × List Used}
    {g : ρ → Action env.library α} {Q : α → CameraController env.library → Prop}
    {E : Thrown → CameraController env.library → Prop}
    (h : Ends (g (f s.library).1) { s with library := (f s.library).2 } Q E) :
    Ends (call f >>= g) s Q E := h

/-- A call that creates no camera list leaves `cameraList_` as it is. -/
theorem CameraController.Holds.used {t : CameraController env.library} {l' : Lists}
    (h : s.Holds l) (hc : c ≠ .listNew) (hlibrary : t.library = (used env c s).library)
    (hlist : t.cameraList = s.cameraList) (hsame : l'.cameraLists = l.cameraLists) :
    t.Holds l' := by
  unfold CameraController.Holds
  rw [hlibrary, created_used hc, hlist, hsame]
  exact h

/-- A call that leaves the lists as they are. -/
theorem Serving.used (h : Serving u s) (hc : c ≠ .listNew)
    (hu : u.next ⟨c, env.answer s.library c⟩ = some v) (hcamera : v.camera = u.camera)
    (hl : ∀ l, s.Has u l → l.next ⟨c, env.answer s.library c⟩ = some l) :
    Serving v (used env c s) := by
  obtain ⟨l, hhas, hholds⟩ := h
  exact ⟨l, hhas.used hu (hl l hhas) hcamera, hholds.used hc rfl rfl rfl⟩

/-- The pointer to the abilities list is set to what has been created. -/
theorem Serving.abilitiesListNew (h : Serving u s) (hnone : s.abilitiesList = none) :
    Serving u { Server.used env .abilitiesListNew s with
      abilitiesList := (env.answer s.library .abilitiesListNew).handle } := by
  obtain ⟨l, hhas, hholds⟩ := h
  have hnew : l.next ⟨.abilitiesListNew, env.answer s.library .abilitiesListNew⟩ =
      some { l with abilities := (env.answer s.library .abilitiesListNew).handle } := by
    simp [Lists.next, ← hhas.abilities, hnone]
  exact ⟨_, ⟨Alive.after_append hhas.alive rfl, Lists.after_append hhas.lists hnew, hhas.camera,
    hhas.cameraLists, rfl, hhas.portInfos⟩, hholds.used (c := .abilitiesListNew) nofun rfl rfl rfl⟩

theorem Serving.portInfoListNew (h : Serving u s) (hnone : s.portInfoList = none) :
    Serving u { Server.used env .portInfoListNew s with
      portInfoList := (env.answer s.library .portInfoListNew).handle } := by
  obtain ⟨l, hhas, hholds⟩ := h
  have hnew : l.next ⟨.portInfoListNew, env.answer s.library .portInfoListNew⟩ =
      some { l with portInfos := (env.answer s.library .portInfoListNew).handle } := by
    simp [Lists.next, ← hhas.portInfos, hnone]
  exact ⟨_, ⟨Alive.after_append hhas.alive rfl, Lists.after_append hhas.lists hnew, hhas.camera,
    hhas.cameraLists, hhas.abilities, rfl⟩, hholds.used (c := .portInfoListNew) nofun rfl rfl rfl⟩

end Calls

/-! ### Selections -/

section Selections
variable {env : Surroundings} {s : CameraController env.library} {u : Alive}

/-- The pointer that is returned is that of the static list. -/
theorem portInfoList_serving (h : Serving u s) :
    Ends (Camera.portInfoList : Action env.library (Option Handle)) s
      (fun list t => Serving u t ∧ t.portInfoList = list) (Threw u) := by
  unfold Camera.portInfoList
  apply ends_get_bind
  dsimp only
  split
  · next hnone =>
    have hnew := h.portInfoListNew hnone
    have hload := hnew.used (c := .portInfoListLoad (env.answer s.library .portInfoListNew).handle)
      nofun rfl rfl fun l hl => by simp [Lists.next, ← hl.portInfos]
    have hcount := hload.used
      (c := .portInfoListCount (env.answer s.library .portInfoListNew).handle)
      nofun rfl rfl fun l hl => by simp [Lists.next, ← hl.portInfos, used]
    apply ends_call_bind
    apply ends_modify_bind
    refine ends_check (fun _ => hnew) fun _ => ?_
    apply ends_call_bind
    refine ends_check (fun _ => hload) fun _ => ?_
    apply ends_call_bind
    refine ends_check (fun _ => hcount) fun _ => ?_
    exact ⟨hcount, rfl⟩
  · exact ⟨h, rfl⟩

theorem Serving.camera (h : Serving u s) : s.camera = u.camera := by
  obtain ⟨l, hhas, -⟩ := h
  exact hhas.camera

/-- A camera is there to be set as long as it is not exited. -/
theorem setPortInfo_serving (hexited : u.exited = false) (port : List Byte) (h : Serving u s) :
    Ends (Camera.setPortInfo port : Action env.library Unit) s (fun _ t => Serving u t)
      (Threw u) := by
  unfold Camera.setPortInfo
  apply ends_get_bind
  cases hcamera : s.camera with
  | none => exact ends_throw h
  | some camera =>
    have hset (answer : UseAnswer) : u.next ⟨.setPortInfo camera, answer⟩ = some u := by
      simp [Alive.next, hexited, ← h.camera, hcamera]
    apply (portInfoList_serving h).bind
    rintro list t ⟨ht, hlist⟩
    have hlookup := ht.used (c := .lookupPath list port) nofun rfl rfl fun l hl => by
      simp [Lists.next, ← hl.portInfos, hlist]
    apply ends_call_bind
    refine ends_check (fun _ => hlookup) fun _ => ?_
    apply (portInfoList_serving hlookup).bind
    rintro list' v ⟨hv, hlist'⟩
    apply ends_call_bind
    generalize (env.library.gpPortInfoListLookupPath list port t.library).1 = index
    have hinfo := hv.used (c := .getInfo list' index) nofun rfl rfl fun l hl => by
      simp [Lists.next, ← hl.portInfos, hlist']
    refine ends_check (fun _ => hinfo) fun _ => ?_
    have hport := hinfo.used (c := .setPortInfo camera) nofun (hset _) rfl fun _ _ => rfl
    apply ends_call_bind
    exact ends_check_last (fun _ => hport) fun _ => hport

variable (hcontext : u.context.isSome)
include hcontext

theorem abilitiesList_serving (h : Serving u s) :
    Ends (Camera.abilitiesList : Action env.library (Option Handle)) s
      (fun list t => Serving u t ∧ t.abilitiesList = list) (Threw u) := by
  unfold Camera.abilitiesList
  apply ends_get_bind
  dsimp only
  split
  · next hnone =>
    have hnew := h.abilitiesListNew hnone
    have hload := hnew.used
      (c := .abilitiesListLoad (env.answer s.library .abilitiesListNew).handle) nofun
      (by simp [Alive.next, hcontext]) rfl fun l hl => by simp [Lists.next, ← hl.abilities]
    apply ends_call_bind
    apply ends_modify_bind
    refine ends_check (fun _ => hnew) fun _ => ?_
    apply ends_call_bind
    refine ends_check (fun _ => hload) fun _ => ?_
    exact ⟨hload, rfl⟩
  · exact ⟨h, rfl⟩

theorem driverIndex_serving (model : List Byte) (h : Serving u s) :
    Ends (Camera.driverIndex model : Action env.library ℤ) s (fun _ t => Serving u t)
      (Threw u) := by
  unfold Camera.driverIndex
  apply (abilitiesList_serving hcontext h).bind
  rintro list t ⟨ht, hlist⟩
  have hlookup := ht.used (c := .lookupModel list model) nofun rfl rfl fun l hl => by
    simp [Lists.next, ← hl.abilities, hlist]
  apply ends_call_bind
  exact ends_check (fun _ => hlookup) fun _ => hlookup

theorem setAbilities_serving (hexited : u.exited = false) (model : List Byte) (h : Serving u s) :
    Ends (Camera.setAbilities model : Action env.library Unit) s (fun _ t => Serving u t)
      (Threw u) := by
  unfold Camera.setAbilities
  apply ends_get_bind
  cases hcamera : s.camera with
  | none => exact ends_throw h
  | some camera =>
    have hset (answer : UseAnswer) : u.next ⟨.setAbilities camera, answer⟩ = some u := by
      simp [Alive.next, hexited, ← h.camera, hcamera]
    apply (driverIndex_serving hcontext model h).bind
    intro index t ht
    apply (abilitiesList_serving hcontext ht).bind
    rintro list v ⟨hv, hlist⟩
    have habilities := hv.used (c := .getAbilities list index) nofun rfl rfl fun l hl => by
      simp [Lists.next, ← hl.abilities, hlist]
    apply ends_call_bind
    refine ends_check (fun _ => habilities) fun _ => ?_
    have hlast := habilities.used (c := .setAbilities camera) nofun (hset _) rfl fun _ _ => rfl
    apply ends_call_bind
    exact ends_check_last (fun _ => hlast) fun _ => hlast

end Selections

/-! ### Lists of cameras -/

section Listings
variable {env : Surroundings} {s : CameraController env.library} {u : Alive} {l : Lists}
  (hcontext : u.context.isSome)

/-- The state with the list that has been created. -/
structure CameraController.Adds (s t : CameraController env.library) (u : Alive) (l : Lists)
    (list : Handle) : Prop where
  has : t.Has u { l with cameraLists := insert list l.cameraLists }
  created : created t.library = created s.library + 1
  cameraList : t.cameraList = s.cameraList

theorem CameraController.Adds.used {t : CameraController env.library} {list : Handle} {c : Use}
    (h : s.Adds t u l list) (hc : c ≠ .listNew)
    (hu : u.next ⟨c, env.answer t.library c⟩ = some u)
    (hl : ∀ m : Lists, list ∈ m.cameraLists → m.next ⟨c, env.answer t.library c⟩ = some m) :
    s.Adds (Server.used env c t) u l list where
  has := h.has.used hu (hl _ (Finset.mem_insert_self _ _)) rfl
  created := (created_used hc).trans h.created
  cameraList := h.cameraList

theorem listNew_adds (h : s.Has u l) {list : Handle}
    (hret : (env.answer s.library .listNew).ret = 0)
    (hlist : (env.answer s.library .listNew).handle = some list) :
    s.Adds { Server.used env .listNew s with
      lists := (env.answer s.library .listNew).handle.elim s.lists fun new =>
        insert new s.lists } u l list where
  has := by
    refine ⟨Alive.after_append h.alive rfl, Lists.after_append h.lists ?_, h.camera, ?_,
      h.abilities, h.portInfos⟩
    · simp [Lists.next, hret, hlist]
    · simp [hlist, h.cameraLists]
  created := (created_append _ _).trans (by rw [if_pos ⟨rfl, hret⟩])
  cameraList := rfl

include hcontext in
/-- The constructor of a list creates one, or it throws before it does. -/
theorem construct_adds (h : s.Has u l) :
    Ends (CameraList.construct : Action env.library CameraList) s
      (fun made t => ∃ list, made.cameraList = some list ∧ s.Adds t u l list)
      fun e t => match e with
        | .assertionFailed => ∃ l, t.Has u l
        | .undefined => False
        | _ => t.Has u l ∧ created t.library = created s.library ∧ t.cameraList = s.cameraList := by
  unfold CameraList.construct
  apply ends_call_bind
  by_cases hret : (env.answer s.library .listNew).ret = 0
  · obtain ⟨list, hlist⟩ := Option.ne_none_iff_exists'.mp (env.listNew_handle s.library hret)
    have hreset := (listNew_adds h hret hlist).used
      (c := .listReset (env.answer s.library .listNew).handle) nofun rfl fun m hm => by
        simp [Lists.next, hlist, hm]
    have hdetect := hreset.used
      (c := .autodetect (env.answer s.library .listNew).handle) nofun
      (by simp [Alive.next, hcontext]) fun m hm => by simp [Lists.next, hlist, hm]
    refine ends_check (fun hne => absurd hret hne) fun _ => ?_
    apply ends_modify_bind
    apply ends_call_bind
    apply ends_call_bind
    refine ends_check (fun hzero => absurd hzero (Nat.lt_irrefl 0)) fun _ => ?_
    refine ends_check (fun _ => ⟨_, hdetect.has⟩) fun _ => ?_
    exact ends_pure ⟨list, hlist, hdetect⟩
  · have hnone : Lists.next l ⟨.listNew, env.answer s.library .listNew⟩ = some l := by
      simp [Lists.next, hret]
    refine ends_check (fun _ => ⟨h.used rfl hnone rfl, ?_, rfl⟩) fun hzero =>
      absurd (not_not.mp hzero) hret
    exact (created_append _ _).trans (by rw [if_neg fun hnew => hret hnew.2]; rfl)

/-- A list is gone when it is destroyed. -/
theorem destroy_has {list : Handle} {made : CameraList} (hmade : made.cameraList = some list)
    (h : s.Has u l) (hlive : list ∈ l.cameraLists) :
    Ends (made.destroy : Action env.library Unit) s
      (fun _ t => t.Has u { l with cameraLists := l.cameraLists.erase list } ∧
        created t.library = created s.library ∧ t.cameraList = s.cameraList)
      fun _ _ => False := by
  have hmem : list ∈ s.lists := h.cameraLists ▸ hlive
  have hfree : Lists.next l ⟨.listFree list, env.answer s.library (.listFree list)⟩ =
      some { l with cameraLists := l.cameraLists.erase list } := by
    simp [Lists.next, hlive]
  unfold Ends
  rw [CameraList.destroy_run hmade hmem]
  refine ⟨⟨Alive.after_append h.alive rfl, Lists.after_append h.lists hfree, h.camera, ?_,
    h.abilities, h.portInfos⟩, ?_, rfl⟩
  · exact congrArg (·.erase list) h.cameraLists
  · exact created_used (c := .listFree list) nofun

include hcontext in
/-- A list of cameras is answered when there are none; the list is gone then. -/
theorem listCameras_serving (h : Serving u s) :
    Ends (CameraController.listCameras : Action env.library (List Byte)) s
      (fun _ t => Serving u t) (Threw u) := by
  obtain ⟨l, hhas, list, hlist, hholds⟩ := h
  have hpositive : 1 ≤ created s.library := by omega
  unfold CameraController.listCameras
  refine Ends.bind ((construct_adds hcontext hhas).mono (fun _ _ h => h) ?_) ?_
  · intro e t ht
    cases e with
    | assertionFailed => exact ht
    | undefined => exact ht.elim
    | exceptionData n message =>
      obtain ⟨ht, hcreated, hsame⟩ := ht
      exact ⟨l, ht, list, hsame ▸ hlist, hcreated ▸ hholds⟩
    | stdException what =>
      obtain ⟨ht, hcreated, hsame⟩ := ht
      exact ⟨l, ht, list, hsame ▸ hlist, hcreated ▸ hholds⟩
  · rintro made t ⟨new, hmade, hadds⟩
    apply ends_modify_bind
    have hassigned : CameraController.Has { t with cameraList := made } u
        { l with cameraLists := insert new l.cameraLists } :=
      ⟨hadds.has.alive, hadds.has.lists, hadds.has.camera, hadds.has.cameraLists,
        hadds.has.abilities, hadds.has.portInfos⟩
    apply ((destroy_has hmade hassigned (Finset.mem_insert_self _ _)).mono (fun _ _ h => h)
      fun _ _ hfalse => hfalse.elim).bind
    rintro _ v ⟨hv, hcreated, hsame⟩
    apply ends_get_bind
    have hgone : new ∉ (insert new l.cameraLists).erase new := Finset.notMem_erase _ _
    have hmany : 2 ≤ created v.library := by
      rw [hcreated]
      show 2 ≤ created t.library
      rw [hadds.created]
      omega
    rw [hsame]
    by_cases hcount : made.count > 0
    · unfold Ends
      rw [CameraController.listEntries_undefined hcount]
      · exact ⟨v.library, ⟨.listGetName (some new) 0, _⟩, [], u, _, new, by rw [hmade]; rfl,
          hv.alive, hv.lists, hgone, .inl rfl⟩
      · intro handle hhandle
        rw [hv.cameraLists, ← Option.some.inj (hmade.symm.trans hhandle)]
        exact hgone
    · rw [CameraController.listEntries, if_neg hcount]
      exact ends_pure ⟨_, hv, new, by rw [hsame]; exact hmade, .inr ⟨hmany, hgone⟩⟩

end Listings

section Requests
variable {env : Surroundings} {s : CameraController env.library} {u : Alive}

theorem argumentAt_serving (arguments : List (List Byte)) (n : ℕ) (h : Serving u s) :
    Ends (argumentAt arguments n : Action env.library (List Byte)) s (fun _ t => Serving u t)
      (Threw u) := by
  unfold argumentAt
  cases arguments[n]? with
  | none => exact ends_throw h
  | some argument => exact ends_pure h

theorem execute_serving (hcontext : u.context.isSome) (hexited : u.exited = false) (p : Platform)
    (r : Request) (h : Serving u s) :
    Ends (execute p r : Action env.library (List Byte)) s (fun _ t => Serving u t) (Threw u) := by
  by_cases hecho : r.command = ServerCommand.echoOnly.value
  · rw [execute_echoOnly hecho]
    exact ends_pure h
  · by_cases hlist : r.command = ServerCommand.listCameras.value
    · rw [execute_listCameras hlist]
      exact listCameras_serving hcontext h
    · by_cases hselect : r.command = ServerCommand.selectCamera.value
      · rw [execute_selectCamera hselect]
        apply (argumentAt_serving r.arguments 0 h).bind
        intro model t ht
        apply (argumentAt_serving r.arguments 1 ht).bind
        intro usbPort v hv
        apply ((setAbilities_serving hcontext hexited _ hv).bind fun _ _ hw =>
          setPortInfo_serving hexited _ hw).bind
        intro _ w hw
        exact ends_pure hw
      · rw [execute_unsupported hecho hlist hselect]
        exact ends_pure h

end Requests

/-! ### Scopes -/

section Scopes
variable {env : Surroundings} {s : CameraController env.library} {u v : Alive} {l : Lists}
  {α β : Type}

/-- What a server has kept to that is not unwound. -/
structure Stuck (e : Halt) (t : CameraController env.library) : Prop where
  undefined : e = .thrown .undefined → Misused t.library
  permitted : e ≠ .thrown .undefined → ∃ u l, t.Has u l

/-- A part of the program leaves `u` alive, with a camera list, when it ends and when it throws. -/
abbrev Leaves (x : Part env α) (s : CameraController env.library) (u : Alive) : Prop :=
  Ends x s (fun _ t => Serving u t) fun e t => if e.unwinds then Serving u t else Stuck e t

theorem CameraController.Has.stuck (h : s.Has u l) {e : Halt} (he : e ≠ .thrown .undefined) :
    Stuck e s := ⟨fun heq => absurd heq he, fun _ => ⟨u, l, h⟩⟩

theorem Serving.halted (h : Serving u s) {e : Halt} (he : e ≠ .thrown .undefined) :
    if e.unwinds then Serving u s else Stuck e s := by
  obtain ⟨l, hhas, -⟩ := id h
  cases e.unwinds with
  | false => exact hhas.stuck he
  | true => exact h

theorem ends_within {x : Action env.library α} {Q : α → CameraController env.library → Prop}
    {E : Thrown → CameraController env.library → Prop}
    {E' : Halt → CameraController env.library → Prop} (h : Ends x s Q E)
    (hE : ∀ e t, E e t → E' (.thrown e) t) : Ends (within env x) s Q E' := by
  unfold Ends EStateM.run at h ⊢
  unfold within
  cases hrun : x s with
  | ok v t =>
    rw [hrun] at h
    simpa [EStateM.run, hrun] using h
  | error e t =>
    rw [hrun] at h
    simpa [EStateM.run, hrun] using hE e t h

theorem ends_use_bind {c : Use} {f : UseAnswer → Part env α}
    {Q : α → CameraController env.library → Prop}
    {E : Halt → CameraController env.library → Prop}
    (h : Ends (f (env.answer s.library c)) (used env c s) Q E) : Ends (use env c >>= f) s Q E := h

/-- With the context alone. -/
def Alive.withContext (context : Option Handle) : Alive :=
  { Alive.nothing with context := some context }

/-- When `cameraList_` is destroyed no camera list is left, or one was freed twice. -/
structure Closed (u : Alive) (t : CameraController env.library) : Prop where
  single : created t.library ≤ 1 → ∃ l, t.Has u l ∧ l.cameraLists = ∅
  several : 2 ≤ created t.library → Misused t.library

theorem context_leaves {body : Gphoto2Context → Part env α} (h : s.Has .nothing l)
    (hcreated : created s.library = 0)
    (hbody : ∀ c t, t.Has (.withContext c.context) l → created t.library = 0 →
      Ends (body c) t (fun _ t => Closed (.withContext c.context) t) fun e t =>
        if e.unwinds then Closed (.withContext c.context) t else Stuck e t) :
    Ends ((Gphoto2Context.lifetime env).scope Halt.unwinds body) s (fun _ t => Closed .nothing t)
      fun e t => if e.unwinds then Closed .nothing t else Stuck e t := by
  -- The destructor drops as many references as the context counts.
  have hconstruct : Ends (Gphoto2Context.lifetime env).construct s
      (fun c t => c.refCount = 1 ∧ t.Has (.withContext c.context) l ∧ created t.library = 0)
      fun e t => if e.unwinds then Closed .nothing t else Stuck e t := by
    apply ends_use_bind
    apply ends_pure
    exact ⟨rfl, h.used (by simp [Alive.next, Alive.withContext]) rfl rfl,
      (created_used (c := .contextNew) nofun).trans hcreated⟩
  apply Ends.bind hconstruct
  rintro ⟨context, refCount⟩ t ⟨rfl, ht, hnew⟩
  apply ends_leaving_of (hbody _ t ht hnew)
  intro w hw
  have hsame : created (used env (.contextUnref context) w).library = created w.library :=
    created_used nofun
  constructor
  · intro hone
    obtain ⟨l', hw', hempty'⟩ := hw.single (hsame ▸ hone)
    exact ⟨l', hw'.used (by simp [Alive.next, Alive.withContext]) rfl rfl, hempty'⟩
  · intro htwo
    exact (hw.several (hsame ▸ htwo)).append _

theorem destroy_closed (h : Serving u s) :
    Closed u (outcome (s.cameraList.destroy : Action env.library Unit) s).2 := by
  obtain ⟨l, hhas, list, hlist, ⟨hcreated, hsingle⟩ | ⟨hcreated, hgone⟩⟩ := h
  · have hlive : list ∈ l.cameraLists := by simp [hsingle]
    apply Ends.outcome (P := fun r : Option Unit × CameraController env.library => Closed u r.2)
    apply (destroy_has hlist hhas hlive).mono
    · rintro _ t ⟨ht, hsame, -⟩
      have hone : created t.library = 1 := hsame.trans hcreated
      exact ⟨fun _ => ⟨_, ht, by simp [hsingle]⟩, fun htwo => absurd (hone ▸ htwo) (by decide)⟩
    · exact fun _ _ hfalse => hfalse.elim
  · have hnot : list ∉ s.lists := hhas.cameraLists ▸ hgone
    have hmisused : Misused (used env (.listFree list) s).library :=
      ⟨s.library, ⟨.listFree list, _⟩, [], u, l, list, rfl, hhas.alive, hhas.lists, hgone, .inr rfl⟩
    have hsame : created (used env (.listFree list) s).library = created s.library :=
      created_used nofun
    have hclosed : Closed u (used env (.listFree list) s) :=
      ⟨fun hone => by omega, fun _ => hmisused⟩
    apply Ends.outcome (P := fun r : Option Unit × CameraController env.library => Closed u r.2)
    unfold Ends
    rw [CameraList.destroy_undefined hlist hnot]
    exact hclosed

theorem cameraList_leaves {body : Unit → Part env α} (hcontext : u.context.isSome)
    (h : s.Has u l) (hempty : l.cameraLists = ∅) (hcreated : created s.library = 0)
    (hbody : ∀ t, Serving u t → Leaves (body ()) t u) :
    Ends ((CameraList.lifetime env).scope Halt.unwinds body) s (fun _ t => Closed u t)
      fun e t => if e.unwinds then Closed u t else Stuck e t := by
  apply Class.ends_scope (A := fun _ t => Serving u t) ?_ (fun _ => hbody) ?_
  · have hunmade (t : CameraController env.library) (ht : t.Has u l)
        (hsame : created t.library = created s.library) : Closed u t :=
      ⟨fun _ => ⟨l, ht, hempty⟩, fun htwo => by omega⟩
    have hmake : Ends (do
        let list ← CameraList.construct
        modify fun s => { s with cameraList := list } : Action env.library Unit) s
        (fun _ t => Serving u t) fun e t => match e with
          | .assertionFailed => ∃ l, t.Has u l
          | .undefined => False
          | _ => Closed u t := by
      refine Ends.bind ((construct_adds hcontext h).mono (fun _ _ h => h) ?_) ?_
      · intro e t ht
        cases e with
        | assertionFailed => exact ht
        | undefined => exact ht
        | exceptionData n message => exact hunmade t ht.1 ht.2.1
        | stdException what => exact hunmade t ht.1 ht.2.1
      · rintro made t ⟨new, hmade, hadds⟩
        have hone : created t.library = 1 := by rw [hadds.created, hcreated]
        have hnew : insert new l.cameraLists = {new} := by
          rw [hempty]
          rfl
        exact ends_modify ⟨_, ⟨hadds.has.alive, hadds.has.lists, hadds.has.camera,
          hadds.has.cameraLists, hadds.has.abilities, hadds.has.portInfos⟩, new, hmade,
          .inl ⟨hone, hnew⟩⟩
    apply ends_within hmake
    intro e t ht
    cases e with
    | assertionFailed =>
      obtain ⟨l', hl'⟩ := ht
      exact hl'.stuck nofun
    | undefined => exact ht.elim
    | exceptionData n message => exact ht
    | stdException what => exact ht
  · intro _ t ht
    exact destroy_closed ht

theorem camera_leaves {body : Option Handle → Part env α} (hcontext : u.context.isSome)
    (hnone : u.camera = none) (hexited : u.exited = false) (h : Serving u s)
    (hbody : ∀ camera t, Serving { u with camera := camera } t →
      Leaves (body camera) t { u with camera := camera }) :
    Leaves ((Camera.lifetime env).scope Halt.unwinds body) s u := by
  have hsame : ({ u with camera := none } : Alive) = u := by rw [← hnone]
  have hnew (answer : UseAnswer) : u.next ⟨.cameraNew, answer⟩ =
      some { u with camera := if answer.ret = 0 then answer.handle else none } := by
    simp [Alive.next, hcontext, hnone]
  apply Class.ends_scope (A := fun camera t => Serving { u with camera := camera } t) ?_ hbody ?_
  · apply ends_use_bind
    apply ends_check
    · intro hret
      refine (h.used (c := .cameraNew) nofun ?_ rfl fun _ _ => rfl).halted nofun
      rw [hnew, if_neg (Ne.symm hret), hsame]
    · intro hret
      apply ends_modify_bind
      obtain ⟨l, hhas, hholds⟩ := h
      refine ends_pure ⟨l, ⟨Alive.after_append hhas.alive ?_, Lists.after_append hhas.lists rfl,
        rfl, hhas.cameraLists, hhas.abilities, hhas.portInfos⟩,
        hholds.used (c := .cameraNew) nofun rfl rfl rfl⟩
      rw [hnew, if_pos (not_not.mp hret).symm]
  · intro camera t ht
    cases camera with
    | none => exact hsame ▸ ht
    | some camera =>
      have hexit : Serving { u with camera := some camera, exited := true }
          (used env (.cameraExit camera) t) :=
        ht.used nofun (by simp [Alive.next, hcontext, hexited]) rfl fun _ _ => rfl
      have hback : ({ u with camera := none, exited := false } : Alive) = u := by
        rw [← hnone, ← hexited]
      obtain ⟨l, hhas, hholds⟩ := hexit
      refine ⟨l, ⟨Alive.after_append hhas.alive ?_, Lists.after_append hhas.lists rfl, hnone.symm,
        hhas.cameraLists, hhas.abilities, hhas.portInfos⟩,
        hholds.used (c := .cameraFree camera) nofun rfl rfl rfl⟩
      simp [Alive.next, hback]

theorem socket_leaves {body : Unit → Part env α} {port : ℕ} (hsocket : u.socket = false)
    (h : Serving u s) (hbody : ∀ t, Serving { u with socket := true } t →
      Leaves (body ()) t { u with socket := true }) :
    Leaves ((socketLifetime env port).scope Halt.unwinds body) s u := by
  have hsame : ({ u with socket := false } : Alive) = u := by rw [← hsocket]
  have hopen (answer : UseAnswer) : u.next ⟨.socketOpen port, answer⟩ =
      some { u with socket := answer.ret = 0 } := by
    simp [Alive.next, hsocket]
  apply Class.ends_scope (A := fun _ t => Serving { u with socket := true } t) ?_
    (fun _ => hbody) ?_
  · apply ends_use_bind
    by_cases hret : 0 ≠ (env.answer s.library (.socketOpen port)).ret
    · rw [if_pos hret]
      apply ends_get_bind
      apply ends_throw
      refine (h.used (c := .socketOpen port) nofun ?_ rfl fun _ _ => rfl).halted nofun
      simp [hopen, Ne.symm hret, hsame]
    · rw [if_neg hret]
      apply ends_pure
      refine h.used (c := .socketOpen port) nofun ?_ rfl fun _ _ => rfl
      simp [hopen, (not_not.mp hret).symm]
  · intro _ t ht
    exact ht.used nofun (by simp [Alive.next, hsame]) rfl fun _ _ => rfl

theorem file_leaves {body : Option Handle → Part env α} (h : Serving u s)
    (hbody : ∀ file t, Serving { u with files := file.toList ++ u.files } t →
      Leaves (body file) t { u with files := file.toList ++ u.files }) :
    Leaves ((CameraFile.lifetime env).scope Halt.unwinds body) s u := by
  apply Class.ends_scope
    (A := fun file t => Serving { u with files := file.toList ++ u.files } t) ?_ hbody ?_
  · apply ends_use_bind
    apply ends_check
    · intro hret
      refine (h.used (c := .fileNew) nofun ?_ rfl fun _ _ => rfl).halted nofun
      simp [Alive.next, Ne.symm hret]
    · intro hret
      apply ends_pure
      refine h.used (c := .fileNew) nofun ?_ rfl fun _ _ => rfl
      simp [Alive.next, (not_not.mp hret).symm]
  · intro file t ht
    cases file with
    | none => exact ht
    | some file => exact ht.used nofun (by simp [Alive.next]) rfl fun _ _ => rfl

/-- A request, also one that ends the program. -/
theorem answer_leaves (hcontext : u.context.isSome) (hexited : u.exited = false) (p : Platform)
    (r : Request) (h : Serving u s) : Leaves (answer env p r) s u := by
  have hends := execute_serving hcontext hexited p r h
  unfold Leaves
  unfold Ends EStateM.run at hends ⊢
  unfold answer respond strays
  cases hrun : execute p r s with
  | ok response t =>
    rw [hrun] at hends
    simpa [EStateM.run, hrun] using hends
  | error thrown t =>
    rw [hrun] at hends
    cases thrown with
    | exceptionData n message =>
      have hserving : Serving u t := hends
      simpa [EStateM.run, hrun, failure] using hserving
    | stdException what =>
      have hserving : Serving u t := hends
      simpa [EStateM.run, hrun, failure] using hserving
    | assertionFailed =>
      obtain ⟨l, hl⟩ := hends
      have hstuck : Stuck (.thrown .assertionFailed) t := hl.stuck nofun
      simpa [EStateM.run, hrun, failure, Halt.unwinds] using hstuck
    | undefined =>
      have hstuck : Stuck (.thrown .undefined) t := ⟨fun _ => hends, fun hne => absurd rfl hne⟩
      simpa [EStateM.run, hrun, failure, Halt.unwinds] using hstuck

theorem follow_leaves (hcontext : u.context.isSome) (hexited : u.exited = false) (p : Platform)
    (accept : Option (List Byte)) (b : Buffer) (connections : List Connection) (h : Serving u s) :
    Leaves (follow env p accept b connections) s u := by
  induction connections generalizing b s with
  | nil =>
    cases accept with
    | none => exact ends_throw (h.halted nofun)
    | some what => exact ends_throw (h.halted nofun)
  | cons c connections ih =>
    unfold follow
    obtain ⟨inbound, b'⟩ := receive p b c
    cases inbound with
    | request r =>
      apply (answer_leaves hcontext hexited p r h).bind
      intro _ t ht
      exact ih b' ht
    | rejected => exact ih b' h
    | blocked => exact ends_throw (h.halted nofun)
    | terminated =>
      apply ends_get_bind
      exact ends_throw (h.halted nofun)
    | undefined => exact ends_throw (h.halted nofun)

end Scopes

/-- Whatever the library and the network answer and whatever connections are accepted, every
object is used only while it exists, up to the first use of a camera list that is gone. `main`
returns by an exception. When at most one camera list has been created, all that was created has
been released then, each once and the context last, but for the abilities list and the port list;
when there were more, a list that was gone has been freed. `main` does not return when it waits,
when an assertion fails, or when the name of a camera is read in a list that is gone. -/
theorem released (env : Surroundings) (p : Platform) (dataPort : ℕ) (accept : Option (List Byte))
    (b : Buffer) (connections : List Connection) :
    Ends (main env p dataPort accept b connections) (blank env)
      (fun _ t => (created t.library ≤ 1 → Alive.after t.library = some .nothing ∧
          ∃ l, Lists.after t.library = some l ∧ l.cameraLists = ∅) ∧
        (2 ≤ created t.library → Misused t.library))
      fun e t => e.unwinds = false ∧ (e = .thrown .undefined → Misused t.library) ∧
        (e ≠ .thrown .undefined → (∃ u, Alive.after t.library = some u) ∧
          ∃ l, Lists.after t.library = some l) := by
  have hblank : (blank env).Has .nothing .nothing := ⟨rfl, rfl, rfl, rfl, rfl, rfl⟩
  have hserver : Ends ((Gphoto2Context.lifetime env).scope Halt.unwinds fun _ =>
      (CameraController.lifetime env dataPort).scope Halt.unwinds fun _ =>
        follow env p accept b connections) (blank env) (fun _ t => Closed .nothing t)
      fun e t => if e.unwinds then Closed .nothing t else Stuck e t := by
    simp only [CameraController.lifetime, Class.scope_member]
    apply context_leaves hblank rfl
    intro c t ht hnew
    apply cameraList_leaves rfl ht rfl hnew
    intro t ht
    apply camera_leaves rfl rfl rfl ht
    intro camera t ht
    apply socket_leaves rfl ht
    intro t ht
    apply file_leaves ht
    intro first t ht
    apply file_leaves ht
    intro second t ht
    exact follow_leaves rfl rfl p accept b connections ht
  have hclosed (t : CameraController env.library) (ht : Closed .nothing t) :
      (created t.library ≤ 1 → Alive.after t.library = some .nothing ∧
        ∃ l, Lists.after t.library = some l ∧ l.cameraLists = ∅) ∧
        (2 ≤ created t.library → Misused t.library) := by
    refine ⟨fun hone => ?_, ht.several⟩
    obtain ⟨l, hhas, hempty⟩ := ht.single hone
    exact ⟨hhas.alive, l, hhas.lists, hempty⟩
  apply ends_catching
  apply Ends.mono hserver
  · exact fun _ => hclosed
  · intro e t ht
    cases hunwinds : e.unwinds with
    | false =>
      rw [hunwinds] at ht
      have hstuck : Stuck e t := ht
      refine ⟨rfl, hstuck.undefined, fun hne => ?_⟩
      obtain ⟨u, l, hhas⟩ := hstuck.permitted hne
      exact ⟨⟨u, hhas.alive⟩, l, hhas.lists⟩
    | true =>
      rw [hunwinds] at ht
      exact hclosed t ht

end Rckam.Server
