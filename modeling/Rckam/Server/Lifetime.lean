import Rckam.Library.Lifetimes
import Rckam.Server.Server

/-! The objects of a server in their scopes: the context of libgphoto2, the camera, the socket for
the previews and the two camera files, from the constructor of `Server` to its destructor. -/
namespace Rckam.Server
open Outcomes Lifetimes

/-- A call of the library, or what happens to the socket. -/
inductive Use where
  | contextNew
  | contextUnref (context : Option Handle)
  | listNew
  | listReset (list : Option Handle)
  | autodetect (list : Option Handle)
  | listGetName (list : Option Handle) (i : ℕ)
  | listGetValue (list : Option Handle) (i : ℕ)
  | listFree (list : Handle)
  | cameraNew
  | cameraExit (camera : Handle)
  | cameraFree (camera : Handle)
  | abilitiesListNew
  | abilitiesListLoad (list : Option Handle)
  | lookupModel (list : Option Handle) (model : List Byte)
  | getAbilities (list : Option Handle) (index : ℤ)
  | setAbilities (camera : Handle)
  | portInfoListNew
  | portInfoListLoad (list : Option Handle)
  | portInfoListCount (list : Option Handle)
  | lookupPath (list : Option Handle) (port : List Byte)
  | getInfo (list : Option Handle) (index : ℤ)
  | setPortInfo (camera : Handle)
  | socketOpen (port : ℕ)
  | socketClose
  | fileNew
  | fileUnref (file : Handle)
  deriving DecidableEq, Repr

/-- What a call returns, and the pointer that it returns or writes. -/
structure UseAnswer where
  ret : ℤ
  handle : Option Handle
  deriving DecidableEq, Repr

structure Used where
  use : Use
  answer : UseAnswer
  deriving DecidableEq, Repr

/-- The library and the network, which may answer as they like after the calls so far, with the
texts of the library and of a failure of the network. A camera list that is created has an
address. -/
structure Surroundings where
  answer : List Used → Use → UseAnswer
  text : List Used → Use → Option (List Byte)
  systemError : List Used → List Byte
  listNew_handle : ∀ used, (answer used .listNew).ret = 0 → (answer used .listNew).handle ≠ none

namespace Surroundings
variable (env : Surroundings)

def use (u : Use) (used : List Used) : UseAnswer × List Used :=
  (env.answer used u, used ++ [⟨u, env.answer used u⟩])

/-- The library, with the calls so far as its state. -/
@[reducible] def library : Gphoto2 where
  State := List Used
  Abilities := Option Handle
  PortInfo := Option Handle
  gpListNew := fun s => let (a, t) := env.use .listNew s; ((a.ret, a.handle), t)
  gpListReset := fun list s => (env.use (.listReset list) s).2
  gpCameraAutodetect := fun list s => let (a, t) := env.use (.autodetect list) s; (a.ret, t)
  gpListFree := fun list s => (env.use (.listFree list) s).2
  gpListGetName := fun list i s =>
    let (a, t) := env.use (.listGetName list i) s; ((a.ret, env.text s (.listGetName list i)), t)
  gpListGetValue := fun list i s =>
    let (a, t) := env.use (.listGetValue list i) s; ((a.ret, env.text s (.listGetValue list i)), t)
  gpAbilitiesListNew := fun s =>
    let (a, t) := env.use .abilitiesListNew s; ((a.ret, a.handle), t)
  gpAbilitiesListLoad := fun list s =>
    let (a, t) := env.use (.abilitiesListLoad list) s; (a.ret, t)
  gpAbilitiesListLookupModel := fun list model s =>
    let (a, t) := env.use (.lookupModel list model) s; (a.ret, t)
  gpAbilitiesListGetAbilities := fun list index s =>
    let (a, t) := env.use (.getAbilities list index) s; ((a.ret, a.handle), t)
  gpCameraSetAbilities := fun camera _ s =>
    let (a, t) := env.use (.setAbilities camera) s; (a.ret, t)
  gpPortInfoListNew := fun s =>
    let (a, t) := env.use .portInfoListNew s; ((a.ret, a.handle), t)
  gpPortInfoListLoad := fun list s =>
    let (a, t) := env.use (.portInfoListLoad list) s; (a.ret, t)
  gpPortInfoListCount := fun list s =>
    let (a, t) := env.use (.portInfoListCount list) s; (a.ret, t)
  gpPortInfoListLookupPath := fun list port s =>
    let (a, t) := env.use (.lookupPath list port) s; (a.ret, t)
  gpPortInfoListGetInfo := fun list index s =>
    let (a, t) := env.use (.getInfo list index) s; ((a.ret, a.handle), t)
  gpCameraSetPortInfo := fun camera _ s =>
    let (a, t) := env.use (.setPortInfo camera) s; (a.ret, t)

end Surroundings

/-- Why the server does not go on. It is followed no further when it waits for ever, when it has
read past the end of its buffer, and behind the last connection that is looked at. -/
inductive Halt where
  | thrown (t : Thrown)
  | unfinished

/-- Exceptions unwind the stack. -/
def Halt.unwinds : Halt → Bool
  | .thrown .assertionFailed | .thrown .undefined | .unfinished => false
  | .thrown _ => true

section Classes
variable (env : Surroundings)

/-- A part of the program, which may change the members of the controller. -/
abbrev Part := EStateM Halt (CameraController env.library)

def within {α : Type} (action : Action env.library α) : Part env α := fun s =>
  match action.run s with
  | .ok v t => .ok v t
  | .error e t => .error (.thrown e) t

def use (u : Use) : Part env UseAnswer :=
  within env (call (env.use u) : Action env.library UseAnswer)

/-- A call in a destructor. -/
def used (u : Use) (s : CameraController env.library) : CameraController env.library :=
  { s with library := (env.use u s.library).2 }

structure Gphoto2Context where
  context : Option Handle
  refCount : ℕ

/-- The loop of the destructor. -/
def Gphoto2Context.unref (c : Option Handle) :
    ℕ → CameraController env.library → CameraController env.library
  | 0, s => s
  | refCount + 1, s => unref c refCount (used env (.contextUnref c) s)

def Gphoto2Context.lifetime : Class Halt (CameraController env.library) Gphoto2Context where
  construct := do
    let answer ← use env .contextNew
    return ⟨answer.handle, 1⟩
  destroy c s := Gphoto2Context.unref env c.context c.refCount s

/-- `cameraList_`, which is what it has been assigned last when it is destroyed. What follows when
it is freed a second time is undefined; that call is recorded. -/
def CameraList.lifetime : Class Halt (CameraController env.library) Unit where
  construct := within env do
    let list ← CameraList.construct
    modify fun s => { s with cameraList := list }
  destroy _ s := (outcome (s.cameraList.destroy) s).2

/-- `camera_`, which is constructed without a model and a port. -/
def Camera.lifetime : Class Halt (CameraController env.library) (Option Handle) where
  construct := do
    let answer ← use env .cameraNew
    if 0 ≠ answer.ret then
      throw (.thrown (gphoto2Exception
        (text "ERROR: failed to initialize a camera object: " ++ signedDecimal answer.ret)))
    modify fun s => { s with camera := answer.handle }
    return answer.handle
  destroy camera s :=
    match camera with
    | some camera =>
      { used env (.cameraFree camera) (used env (.cameraExit camera) s) with camera := none }
    | none => s

/-- The socket for the previews. Its constructor throws when it cannot be opened and bound. -/
def socketLifetime (port : ℕ) : Class Halt (CameraController env.library) Unit where
  construct := do
    let answer ← use env (.socketOpen port)
    if 0 ≠ answer.ret then
      let s ← get
      throw (.thrown (.stdException (env.systemError s.library)))
  destroy _ s := used env .socketClose s

def CameraFile.lifetime : Class Halt (CameraController env.library) (Option Handle) where
  construct := do
    let answer ← use env .fileNew
    if 0 ≠ answer.ret then
      throw (.thrown (gphoto2Exception
        (text "ERROR: Failed to create new camera file: " ++ signedDecimal answer.ret)))
    return answer.handle
  destroy file s :=
    match file with
    | some file => used env (.fileUnref file) s
    | none => s

/-- The members of the controller that are constructed and destroyed. -/
def CameraController.lifetime (dataPort : ℕ) :
    Class Halt (CameraController env.library)
      ((((Unit × Option Handle) × Unit) × Option Handle) × Option Handle) :=
  ((((CameraList.lifetime env).member Halt.unwinds fun _ => Camera.lifetime env).member
    Halt.unwinds fun _ => socketLifetime env dataPort).member
    Halt.unwinds fun _ => CameraFile.lifetime env).member
    Halt.unwinds fun _ => CameraFile.lifetime env

/-- The response to a request. -/
def answer (p : Platform) (r : Request) : Part env (List Byte) := fun s =>
  match respond p r s with
  | (some response, t) => .ok response t
  | (none, t) => .error (.thrown (if strays p r s then .undefined else .assertionFailed)) t

/-- `run` over these connections. Behind the last one `accept` throws a `std::exception`, or
waits. -/
def follow (p : Platform) (accept : Option (List Byte)) : Buffer → List Connection → Part env Unit
  | _, [] =>
      match accept with
      | some what => throw (.thrown (.stdException what))
      | none => throw .unfinished
  | b, c :: connections =>
      match receive p b c with
      | (.request r, b) => do
          let _ ← answer env p r
          follow p accept b connections
      | (.rejected, b) => follow p accept b connections
      | (.terminated, _) => do
          let s ← get
          throw (.thrown (.stdException (env.systemError s.library)))
      | (.blocked, _) | (.undefined, _) => throw .unfinished

/-- `main` from the construction of the server on, with what is in the array of `run`. -/
def main (p : Platform) (dataPort : ℕ) (accept : Option (List Byte)) (b : Buffer)
    (connections : List Connection) : Part env Unit :=
  catching Halt.unwinds () ((Gphoto2Context.lifetime env).scope Halt.unwinds fun _ =>
    (CameraController.lifetime env dataPort).scope Halt.unwinds fun _ =>
      follow env p accept b connections)

/-- The members that are not constructed yet are not looked at. -/
def blank : CameraController env.library := ⟨[], none, none, ⟨none, 0⟩, none, ∅⟩

end Classes

end Rckam.Server
