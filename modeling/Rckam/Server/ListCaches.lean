import Rckam.Library.Erasure
import Rckam.Server.Isolation

/-! The lists of libgphoto2 that `Camera` keeps in static pointers: whether those that are returned
have been loaded. -/
namespace Rckam.Server
open Erasure Outcomes

inductive CachedList where
  | abilities | portInfo
  deriving DecidableEq, Repr

/-- What libgphoto2 returned when a list was to be loaded. -/
structure Load where
  list : Option Handle
  ret : ℤ
  deriving DecidableEq, Repr

namespace Gphoto2
variable (lib : Gphoto2)

abbrev Recorded := lib.State × (CachedList → List Load)

variable {lib}

/-- A function that loads no list. -/
def beside {ρ : Type} (f : lib.State → ρ × lib.State) (s : lib.Recorded) : ρ × lib.Recorded :=
  ((f s.1).1, (f s.1).2, s.2)

/-- A function that loads a list. -/
def recorded (kind : CachedList) (f : Option Handle → lib.State → ℤ × lib.State)
    (list : Option Handle) (s : lib.Recorded) : ℤ × lib.Recorded :=
  ((f list s.1).1, (f list s.1).2,
    Function.update s.2 kind (s.2 kind ++ [⟨list, (f list s.1).1⟩]))

variable (lib)

/-- The library, with a record of the loads of each of the lists. -/
@[reducible] def recording : Gphoto2 where
  State := lib.Recorded
  Abilities := lib.Abilities
  PortInfo := lib.PortInfo
  gpListNew := beside lib.gpListNew
  gpListReset list s := (lib.gpListReset list s.1, s.2)
  gpCameraAutodetect list := beside (lib.gpCameraAutodetect list)
  gpListFree list s := (lib.gpListFree list s.1, s.2)
  gpListGetName list i := beside (lib.gpListGetName list i)
  gpListGetValue list i := beside (lib.gpListGetValue list i)
  gpAbilitiesListNew := beside lib.gpAbilitiesListNew
  gpAbilitiesListLoad := recorded .abilities lib.gpAbilitiesListLoad
  gpAbilitiesListLookupModel list model := beside (lib.gpAbilitiesListLookupModel list model)
  gpAbilitiesListGetAbilities list index := beside (lib.gpAbilitiesListGetAbilities list index)
  gpCameraSetAbilities camera abilities := beside (lib.gpCameraSetAbilities camera abilities)
  gpPortInfoListNew := beside lib.gpPortInfoListNew
  gpPortInfoListLoad := recorded .portInfo lib.gpPortInfoListLoad
  gpPortInfoListCount list := beside (lib.gpPortInfoListCount list)
  gpPortInfoListLookupPath list port := beside (lib.gpPortInfoListLookupPath list port)
  gpPortInfoListGetInfo list index := beside (lib.gpPortInfoListGetInfo list index)
  gpCameraSetPortInfo camera info := beside (lib.gpCameraSetPortInfo camera info)

/-- `gp_abilities_list_new` or `gp_port_info_list_new`. -/
def newList : CachedList → lib.State → (ℤ × Option Handle) × lib.State
  | .abilities => lib.gpAbilitiesListNew
  | .portInfo => lib.gpPortInfoListNew

/-- `gp_abilities_list_load` or `gp_port_info_list_load`. -/
def loadList : CachedList → Option Handle → lib.State → ℤ × lib.State
  | .abilities => lib.gpAbilitiesListLoad
  | .portInfo => lib.gpPortInfoListLoad

/-- The load of a list behind its creation. -/
def loadNew (kind : CachedList) (s : lib.State) : Load where
  list := (lib.newList kind s).1.2
  ret := (lib.loadList kind (lib.newList kind s).1.2 (lib.newList kind s).2).1

end Gphoto2

variable {lib : Gphoto2}

/-- A static pointer, and the loads of its list so far. -/
structure Cache where
  pointer : Option Handle
  loads : List Load

namespace CameraController

def pointer (s : CameraController lib) : CachedList → Option Handle
  | .abilities => s.abilitiesList
  | .portInfo => s.portInfoList

def cache (s : CameraController lib.recording) (kind : CachedList) : Cache where
  pointer := s.pointer kind
  loads := s.library.2 kind

/-- The static pointers as they are initialized. -/
def starting (s : CameraController lib) : CameraController lib :=
  { s with abilitiesList := none, portInfoList := none }

/-- The same with the recording library, before any load. -/
def recorded (s : CameraController lib) : CameraController lib.recording where
  library := (s.library, fun _ => [])
  abilitiesList := s.abilitiesList
  portInfoList := s.portInfoList
  cameraList := s.cameraList
  camera := s.camera
  lists := s.lists

/-- The controller without the record. -/
def unrecorded (s : CameraController lib.recording) : CameraController lib where
  library := s.library.1
  abilitiesList := s.abilitiesList
  portInfoList := s.portInfoList
  cameraList := s.cameraList
  camera := s.camera
  lists := s.lists

theorem unrecorded_pointer (s : CameraController lib.recording) (kind : CachedList) :
    s.unrecorded.pointer kind = (s.cache kind).pointer := by
  cases kind <;> rfl

end CameraController

/-- `abilitiesList` or `portInfoList`. -/
def Camera.cachedList : CachedList → Action lib (Option Handle)
  | .abilities => abilitiesList
  | .portInfo => portInfoList

/-! ### What is expected of the calls -/

/-- A call returns a list that has been loaded, and behind a failed load it throws or it loads
again. -/
structure LoadedOnly (s : CameraController lib.recording) (kind : CachedList) : Prop where
  returned : ∀ list, (outcome (Camera.cachedList kind) s).1 = some list →
    ∃ load ∈ ((outcome (Camera.cachedList kind) s).2.cache kind).loads,
      load.list = list ∧ 0 ≤ load.ret
  retried : ∀ load ∈ (s.cache kind).loads.getLast?, load.ret < 0 →
    (outcome (Camera.cachedList kind) s).1 = none ∨
      (s.cache kind).loads.length < ((outcome (Camera.cachedList kind) s).2.cache kind).loads.length

/-- Each of some calls is as `P` says in the state in which it is made. -/
def EveryCall (P : CameraController lib.recording → CachedList → Prop) :
    CameraController lib.recording → List CachedList → Prop
  | _, [] => True
  | s, kind :: kinds => P s kind ∧ EveryCall P (outcome (Camera.cachedList kind) s).2 kinds

/-- A call would leave the static pointer at a list that it has not loaded. -/
def LeavesUnloaded (s : CameraController lib) (kind : CachedList) : Prop :=
  s.pointer kind = none ∧ (lib.loadNew kind s.library).list ≠ none ∧
    ((lib.newList kind s.library).1.1 < 0 ∨ (lib.loadNew kind s.library).ret < 0)

/-- No call that leaves a list unloaded is followed by one for the same list. -/
def NoneRepeated : CameraController lib → List CachedList → Prop
  | _, [] => True
  | s, kind :: kinds => (LeavesUnloaded s kind → kind ∉ kinds) ∧
      NoneRepeated (outcome (Camera.cachedList kind) s).2 kinds

/-! ### A call -/

/-- Everything that a call can do: it returns the list of the static pointer, or it fails to create
a list, or it loads the list that it has created and may return it if this succeeds. -/
inductive CacheStep (s : CameraController lib.recording) (kind : CachedList) :
    Option (Option Handle) × CameraController lib.recording → Prop
  | kept {h : Handle} (hpointer : (s.cache kind).pointer = some h) :
      CacheStep s kind (some (some h), s)
  | notCreated {t : CameraController lib.recording} (hpointer : (s.cache kind).pointer = none)
      (hnew : (lib.newList kind s.library.1).1.1 < 0)
      (hself : t.cache kind = ⟨(lib.loadNew kind s.library.1).list, (s.cache kind).loads⟩)
      (hother : ∀ other ≠ kind, t.cache other = s.cache other) : CacheStep s kind (none, t)
  | attempted {answer : Option (Option Handle)} {t : CameraController lib.recording}
      (hpointer : (s.cache kind).pointer = none) (hnew : 0 ≤ (lib.newList kind s.library.1).1.1)
      (hself : t.cache kind = ⟨(lib.loadNew kind s.library.1).list,
        (s.cache kind).loads ++ [lib.loadNew kind s.library.1]⟩)
      (hother : ∀ other ≠ kind, t.cache other = s.cache other)
      (hanswer : answer = none ∨ answer = some (lib.loadNew kind s.library.1).list ∧
        0 ≤ (lib.loadNew kind s.library.1).ret) : CacheStep s kind (answer, t)

theorem call_ends {ρ : Type} {s : CameraController lib} (f : lib.State → ρ × lib.State)
    {E : Thrown → CameraController lib → Prop} :
    Ends (call f : Action lib ρ) s
      (fun r t => r = (f s.library).1 ∧ t = { s with library := (f s.library).2 }) E :=
  ⟨rfl, rfl⟩

/-- There is only one other list. -/
theorem others {s t : CameraController lib.recording} {kind : CachedList} (other : CachedList)
    (hother : other ≠ kind) (h : t.cache other = s.cache other) :
    ∀ kind' ≠ kind, t.cache kind' = s.cache kind' := by
  intro kind' hkind'
  have hsame : kind' = other := by
    cases kind <;> cases other <;> cases kind' <;> first | rfl | contradiction
  rw [hsame]
  exact h

theorem abilitiesList_step (s : CameraController lib.recording) :
    CacheStep s .abilities (outcome Camera.abilitiesList s) := by
  apply Ends.outcome
  unfold Camera.abilitiesList
  apply ends_get_bind
  dsimp only
  split
  case isTrue hpointer =>
    apply (call_ends _).bind
    rintro _ _ ⟨rfl, rfl⟩
    apply ends_modify_bind
    apply ends_check
    · intro hnew
      exact .notCreated hpointer hnew rfl (others .portInfo nofun rfl)
    · intro hnew
      apply (call_ends _).bind
      rintro _ _ ⟨rfl, rfl⟩
      apply ends_check
      · intro _
        exact .attempted hpointer (not_lt.mp hnew) rfl (others .portInfo nofun rfl) (.inl rfl)
      · intro hload
        exact .attempted hpointer (not_lt.mp hnew) rfl (others .portInfo nofun rfl)
          (.inr ⟨rfl, not_lt.mp hload⟩)
  case isFalse hpointer =>
    obtain ⟨h, hpointer⟩ := Option.ne_none_iff_exists'.mp hpointer
    show CacheStep s .abilities (some s.abilitiesList, s)
    rw [hpointer]
    exact .kept hpointer

theorem portInfoList_step (s : CameraController lib.recording) :
    CacheStep s .portInfo (outcome Camera.portInfoList s) := by
  apply Ends.outcome
  unfold Camera.portInfoList
  apply ends_get_bind
  dsimp only
  split
  case isTrue hpointer =>
    apply (call_ends _).bind
    rintro _ _ ⟨rfl, rfl⟩
    apply ends_modify_bind
    apply ends_check
    · intro hnew
      exact .notCreated hpointer hnew rfl (others .abilities nofun rfl)
    · intro hnew
      apply (call_ends _).bind
      rintro _ _ ⟨rfl, rfl⟩
      apply ends_check
      · intro _
        exact .attempted hpointer (not_lt.mp hnew) rfl (others .abilities nofun rfl) (.inl rfl)
      · intro hload
        -- the ports are counted behind a load that has succeeded
        apply (call_ends _).bind
        rintro _ _ ⟨rfl, rfl⟩
        apply ends_check
        · intro _
          exact .attempted hpointer (not_lt.mp hnew) rfl (others .abilities nofun rfl) (.inl rfl)
        · intro _
          exact .attempted hpointer (not_lt.mp hnew) rfl (others .abilities nofun rfl)
            (.inr ⟨rfl, not_lt.mp hload⟩)
  case isFalse hpointer =>
    obtain ⟨h, hpointer⟩ := Option.ne_none_iff_exists'.mp hpointer
    show CacheStep s .portInfo (some s.portInfoList, s)
    rw [hpointer]
    exact .kept hpointer

theorem cachedList_step (s : CameraController lib.recording) (kind : CachedList) :
    CacheStep s kind (outcome (Camera.cachedList kind) s) := by
  cases kind with
  | abilities => exact abilitiesList_step s
  | portInfo => exact portInfoList_step s

/-! ### The record -/

/-- A call of the recording library is one of the library itself. -/
theorem erases_call {ρ : Type} {f : lib.State → ρ × lib.State}
    {f' : lib.Recorded → ρ × lib.Recorded}
    (h : ∀ s, ((f' s).1, (f' s).2.1) = f s.1) :
    Erases CameraController.unrecorded (call f' : Action lib.recording ρ) (call f) := by
  intro s
  show (call f : Action lib ρ).run s.unrecorded = _
  rw [run_call]
  show EStateM.Result.ok (f s.library.1).1 _ = _
  simp only [← h s.library, CameraController.unrecorded]

/-- The record changes nothing that a call does. -/
theorem recording_erases (kind : CachedList) :
    Erases CameraController.unrecorded
      (Camera.cachedList kind : Action lib.recording (Option Handle)) (Camera.cachedList kind) := by
  cases kind with
  | abilities =>
    have hreturn : Erases CameraController.unrecorded
        (do return (← get).abilitiesList : Action lib.recording (Option Handle))
        (do return (← get).abilitiesList) := erases_get fun _ => erases_pure _
    unfold Camera.cachedList Camera.abilitiesList
    apply erases_get
    intro s
    dsimp only
    apply Erases.ite Iff.rfl
    · apply (erases_call fun _ => rfl).bind
      rintro ⟨ret1, list⟩
      refine Erases.bind (erases_modify fun _ => rfl) fun _ => erases_check ?_
      apply (erases_call fun _ => rfl).bind
      intro ret2
      exact erases_check hreturn
    · exact hreturn
  | portInfo =>
    have hreturn : Erases CameraController.unrecorded
        (do return (← get).portInfoList : Action lib.recording (Option Handle))
        (do return (← get).portInfoList) := erases_get fun _ => erases_pure _
    unfold Camera.cachedList Camera.portInfoList
    apply erases_get
    intro s
    dsimp only
    apply Erases.ite Iff.rfl
    · apply (erases_call fun _ => rfl).bind
      rintro ⟨ret1, list⟩
      refine Erases.bind (erases_modify fun _ => rfl) fun _ => erases_check ?_
      apply (erases_call fun _ => rfl).bind
      intro ret2
      apply erases_check
      apply (erases_call fun _ => rfl).bind
      intro ret3
      exact erases_check hreturn
    · exact hreturn

/-! ### One call after the other -/

/-- A list that is still to be loaded, or that has been loaded. -/
def Cache.Sound (c : Cache) : Prop :=
  (c.pointer = none ∧ ∀ load ∈ c.loads, 0 ≤ load.ret → load.list = none) ∨
    ∃ load, c.loads.getLast? = some load ∧ 0 ≤ load.ret ∧ load.list ≠ none ∧ c.pointer = load.list

/-- A list that none of the loads has filled. -/
def Cache.Stuck (c : Cache) : Prop :=
  c.pointer ≠ none ∧ ∀ load ∈ c.loads, 0 ≤ load.ret → load.list ≠ c.pointer

section Calls
variable {s : CameraController lib.recording} {kind : CachedList}

/-- The other list is left as it is. -/
theorem outcome_other {other : CachedList} (hother : other ≠ kind) :
    (outcome (Camera.cachedList kind) s).2.cache other = s.cache other := by
  have hstep := cachedList_step s kind
  generalize outcome (Camera.cachedList kind) s = o at hstep ⊢
  cases hstep with
  | kept => rfl
  | notCreated _ _ _ hothers => exact hothers other hother
  | attempted _ _ _ hothers _ => exact hothers other hother

/-- A call for a list that is not stuck is as expected. -/
theorem Cache.Sound.loadedOnly (h : (s.cache kind).Sound) : LoadedOnly s kind := by
  have hstep := cachedList_step s kind
  constructor
  · intro list hlist
    generalize outcome (Camera.cachedList kind) s = o at hstep hlist ⊢
    cases hstep with
    | kept hpointer =>
      cases hlist
      rcases h with ⟨hnone, -⟩ | ⟨load, hlast, hret, -, hsame⟩
      · cases hnone.symm.trans hpointer
      · exact ⟨load, List.mem_of_getLast? hlast, hsame.symm.trans hpointer, hret⟩
    | notCreated => cases hlist
    | attempted _ _ hself _ hanswer =>
      rcases hanswer with rfl | ⟨rfl, hret⟩
      · cases hlist
      · cases hlist
        rw [hself]
        exact ⟨_, List.mem_append_right _ (List.mem_singleton_self _), rfl, hret⟩
  · intro load hload hfailed
    generalize outcome (Camera.cachedList kind) s = o at hstep ⊢
    cases hstep with
    | kept hpointer =>
      rcases h with ⟨hnone, -⟩ | ⟨load', hlast, hret, -, -⟩
      · cases hnone.symm.trans hpointer
      · cases hlast.symm.trans hload
        exact absurd hfailed (not_lt.mpr hret)
    | notCreated => exact Or.inl rfl
    | attempted _ _ hself _ _ =>
      right
      rw [hself, List.length_append]
      exact Nat.lt_succ_self _

/-- A failed load behind others. -/
theorem failed_append {loads : List Load} {load : Load} (hfailed : load.ret < 0)
    (h : ∀ load ∈ loads, 0 ≤ load.ret → load.list = none) :
    ∀ load' ∈ loads ++ [load], 0 ≤ load'.ret → load'.list = none := by
  intro load' hmem hret
  rcases List.mem_append.mp hmem with hbefore | hlast
  · exact h load' hbefore hret
  · cases List.mem_singleton.mp hlast
    exact absurd hret (not_le.mpr hfailed)

theorem Cache.Sound.loads (h : (s.cache kind).Sound) (hpointer : (s.cache kind).pointer = none) :
    ∀ load ∈ (s.cache kind).loads, 0 ≤ load.ret → load.list = none := by
  rcases h with ⟨-, hloads⟩ | ⟨load, -, -, hne, hsame⟩
  · exact hloads
  · exact absurd (hsame.symm.trans hpointer) hne

/-- A list that has not been loaded now, nor before, is stuck unless it could not be created. -/
theorem unfilled (list : Option Handle) {loads : List Load}
    (hloads : ∀ load ∈ loads, 0 ≤ load.ret → load.list = none) :
    (list ≠ none → (Cache.mk list loads).Stuck) ∧ (list = none → (Cache.mk list loads).Sound) := by
  constructor
  · intro hne
    exact ⟨hne, fun load hload hret hsame => hne (hsame.symm.trans (hloads load hload hret))⟩
  · intro hnone
    exact Or.inl ⟨hnone, hloads⟩

/-- A call leaves the list stuck, or as it should be. -/
theorem Cache.Sound.outcome (h : (s.cache kind).Sound) :
    (LeavesUnloaded s.unrecorded kind →
        ((outcome (Camera.cachedList kind) s).2.cache kind).Stuck) ∧
      (¬ LeavesUnloaded s.unrecorded kind →
        ((outcome (Camera.cachedList kind) s).2.cache kind).Sound) := by
  unfold LeavesUnloaded
  rw [CameraController.unrecorded_pointer]
  have hstep := cachedList_step s kind
  generalize Outcomes.outcome (Camera.cachedList kind) s = o at hstep ⊢
  cases hstep with
  | kept hpointer =>
    refine ⟨fun hleaves => ?_, fun _ => h⟩
    cases hleaves.1.symm.trans hpointer
  | notCreated hpointer hnew hself _ =>
    rw [hself]
    obtain ⟨hstuck, hsound⟩ := unfilled (lib.loadNew kind s.library.1).list
      (h.loads hpointer)
    refine ⟨fun hleaves => hstuck hleaves.2.1, fun hleaves => hsound ?_⟩
    by_contra hne
    exact hleaves ⟨hpointer, hne, Or.inl hnew⟩
  | attempted hpointer hnew hself _ _ =>
    rw [hself]
    by_cases hret : (lib.loadNew kind s.library.1).ret < 0
    · obtain ⟨hstuck, hsound⟩ := unfilled (lib.loadNew kind s.library.1).list
        (failed_append hret (h.loads hpointer))
      refine ⟨fun hleaves => hstuck hleaves.2.1, fun hleaves => hsound ?_⟩
      by_contra hne
      exact hleaves ⟨hpointer, hne, Or.inr hret⟩
    · refine ⟨fun hleaves => ?_, fun _ => ?_⟩
      · exact (hleaves.2.2.elim (not_lt.mpr hnew) hret).elim
      · by_cases hlist : (lib.loadNew kind s.library.1).list = none
        · refine Or.inl ⟨hlist, fun load hload hret => ?_⟩
          rcases List.mem_append.mp hload with hbefore | hlast
          · exact h.loads hpointer load hbefore hret
          · exact List.mem_singleton.mp hlast ▸ hlist
        · exact Or.inr ⟨_, List.getLast?_concat, not_lt.mp hret, hlist, rfl⟩

/-- A stuck list is returned though it has not been loaded. -/
theorem Cache.Stuck.not_loadedOnly (h : (s.cache kind).Stuck) : ¬ LoadedOnly s kind := by
  intro hloaded
  have hreturned := hloaded.returned
  have hstep := cachedList_step s kind
  generalize Outcomes.outcome (Camera.cachedList kind) s = o at hstep hreturned
  cases hstep with
  | kept hpointer =>
    obtain ⟨load, hload, hlist, hret⟩ := hreturned _ rfl
    exact h.2 load hload hret (hlist.trans hpointer.symm)
  | notCreated hpointer => exact h.1 hpointer
  | attempted hpointer => exact h.1 hpointer

/-- It stays stuck until it is asked for. -/
theorem Cache.Stuck.not_everyCall {kinds : List CachedList} (h : (s.cache kind).Stuck)
    (hmem : kind ∈ kinds) : ¬ EveryCall LoadedOnly s kinds := by
  induction kinds generalizing s with
  | nil => cases hmem
  | cons first kinds ih =>
    rintro ⟨hfirst, hrest⟩
    by_cases hkind : kind = first
    · subst hkind
      exact h.not_loadedOnly hfirst
    · refine ih ?_ ((List.mem_cons.mp hmem).resolve_left hkind) hrest
      rw [outcome_other hkind]
      exact h

/-- The calls for lists that are not stuck. -/
theorem everyCall_iff {kinds : List CachedList} (h : ∀ kind ∈ kinds, (s.cache kind).Sound) :
    EveryCall LoadedOnly s kinds ↔ NoneRepeated s.unrecorded kinds := by
  induction kinds generalizing s with
  | nil => exact Iff.rfl
  | cons kind kinds ih =>
    have hfirst : (s.cache kind).Sound := h kind List.mem_cons_self
    have hother (other : CachedList) (hne : other ≠ kind) (hmem : other ∈ kinds) :
        ((outcome (Camera.cachedList kind) s).2.cache other).Sound := by
      rw [outcome_other hne]
      exact h other (List.mem_cons_of_mem kind hmem)
    unfold EveryCall NoneRepeated
    rw [and_iff_right hfirst.loadedOnly, (recording_erases kind).outcome s]
    by_cases hleaves : LeavesUnloaded s.unrecorded kind
    · have hstuck := hfirst.outcome.1 hleaves
      by_cases hmem : kind ∈ kinds
      · exact iff_of_false (hstuck.not_everyCall hmem) fun hnone => hnone.1 hleaves hmem
      · rw [and_iff_right fun _ => hmem]
        exact ih fun other hother' => hother other (fun heq => hmem (heq ▸ hother')) hother'
    · rw [and_iff_right fun hleaves' => absurd hleaves' hleaves]
      apply ih
      intro other hmem
      by_cases hne : other = kind
      · subst hne
        exact hfirst.outcome.2 hleaves
      · exact hother other hne hmem

end Calls

/-- From the start of the program on, the lists that are returned are loaded exactly when no call
that has left a list unloaded is followed by one for the same list. -/
theorem cachedList_loaded_iff (lib : Gphoto2) (s : CameraController lib)
    (kinds : List CachedList) :
    EveryCall LoadedOnly s.starting.recorded kinds ↔ NoneRepeated s.starting kinds := by
  apply everyCall_iff
  intro kind _
  cases kind with
  | abilities => exact Or.inl ⟨rfl, nofun⟩
  | portInfo => exact Or.inl ⟨rfl, nofun⟩

/-- No list of camera drivers can be loaded. -/
def driverless : Gphoto2 :=
  { accepting fun _ => true with gpAbilitiesListLoad := fun _ s => (-1, s) }

def controller : CameraController driverless := ⟨(), none, none, ⟨none, 0⟩, none, ∅⟩

/-- The second call returns the list that the first one has not loaded. -/
theorem returned_unloaded :
    ¬ EveryCall LoadedOnly controller.starting.recorded [.abilities, .abilities] := by
  rintro ⟨-, hsecond, -⟩
  obtain ⟨load, hmem, -, hret⟩ := hsecond.returned (some 2) rfl
  have hload : load = ⟨some 2, -1⟩ := List.mem_singleton.mp hmem
  rw [hload] at hret
  exact absurd hret (by decide)

end Rckam.Server
