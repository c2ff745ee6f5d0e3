import Rckam.Library.Outcomes
import Rckam.Server.Server

/-! The replies that carry a status, and what can be read from them. -/
namespace Rckam.Server
open Outcomes

/-- The outcome of a request whose reply is a status. -/
inductive Status where
  | success
  | exceptionData (errorNumber : ℤ) (message : List Byte)
  | stdException (what : List Byte)
  | unsupported

namespace Status

def code : Status → ResponseCode
  | .success => .success
  | .exceptionData _ _ | .stdException _ => .failure
  | .unsupported => .notSupported

/-- A `std::exception` has no error number. -/
def errorNumber : Status → Option ℤ
  | .exceptionData errorNumber _ => some errorNumber
  | _ => none

def message : Status → Option (List Byte)
  | .exceptionData _ message => some message
  | .stdException what => some what
  | _ => none

/-- What the server sends. -/
def reply (p : Platform) : Status → List Byte
  | .success => Server.success p
  | .exceptionData errorNumber message =>
      ResponseCode.failure.bytes p ++ [tab] ++ signedDecimal errorNumber ++ [tab] ++ message
  | .stdException what => ResponseCode.failure.bytes p ++ [tab] ++ what
  | .unsupported => commandNotSupported

/-- The reply begins with the response code, and a failure continues with the error number and the
message. -/
structure Formatted (p : Platform) (o : Status) : Prop where
  code : o.code.bytes p <+: o.reply p
  failure : ∀ message ∈ o.message, ∃ errorNumber, (∀ n ∈ o.errorNumber, n = errorNumber) ∧
    o.reply p = o.code.bytes p ++ [tab] ++ signedDecimal errorNumber ++ [tab] ++ message

/-- A reply that is a success or comes from an `ExceptionData`. -/
def Regular : Status → Prop
  | .success | .exceptionData _ _ => True
  | .stdException _ | .unsupported => False

end Status

/-- What a decoder makes of a reply. -/
structure Contents where
  code : ℕ
  failure : Option (ℤ × List Byte)

/-- The code, and behind a tab the error number up to the next tab and the message. -/
def decode (p : Platform) (reply : List Byte) : Contents where
  code := p.load (reply.take enumSize)
  failure :=
    match reply.drop enumSize with
    | [] => none
    | _ :: rest =>
        let number := rest.takeWhile fun b => b ≠ tab
        some (signedDecimalValue number, rest.drop (number.length + 1))

def Status.contents (o : Status) : Contents where
  code := o.code.value
  failure := o.message.map fun message => (o.errorNumber.getD 0, message)

/-- The replies to these outcomes have one format, from which a single decoder recovers the code,
the error number and the message, and no two of them are the same. -/
structure SharedFormat (p : Platform) (outcomes : Set Status) : Prop where
  formatted : ∀ o ∈ outcomes, o.Formatted p
  decodable : ∃ decoder : List Byte → Contents,
    ∀ o ∈ outcomes, decoder (o.reply p) = o.contents
  distinct : ∀ o ∈ outcomes, ∀ o' ∈ outcomes, o.reply p = o'.reply p → o = o'

section Replies
variable {p : Platform}

theorem code_load (code : ResponseCode) : p.load (code.bytes p) = code.value := by
  rw [ResponseCode.bytes, p.load_store]
  cases code <;> decide

theorem decode_success : decode p (Status.success.reply p) = Status.success.contents := by
  have htake : (Status.success.reply p).take enumSize = ResponseCode.success.bytes p :=
    List.take_of_length_le (ResponseCode.bytes_length p _).le
  have hdrop : (Status.success.reply p).drop enumSize = [] :=
    List.drop_of_length_le (ResponseCode.bytes_length p _).le
  unfold decode
  rw [htake, hdrop, code_load]
  rfl

theorem decode_exceptionData (errorNumber : ℤ) (message : List Byte) :
    decode p ((Status.exceptionData errorNumber message).reply p) =
      (Status.exceptionData errorNumber message).contents := by
  have hlength : (ResponseCode.failure.bytes p).length = enumSize := ResponseCode.bytes_length p _
  have hreply : (Status.exceptionData errorNumber message).reply p =
      ResponseCode.failure.bytes p ++ tab :: (signedDecimal errorNumber ++ tab :: message) := by
    simp [Status.reply]
  have hnumber : (signedDecimal errorNumber ++ tab :: message).takeWhile (fun b => b ≠ tab) =
      signedDecimal errorNumber :=
    takeWhile_ne_append (tab_notMem_signedDecimal errorNumber) message
  have hmessage : (signedDecimal errorNumber ++ tab :: message).drop
      ((signedDecimal errorNumber).length + 1) = message := by
    rw [← List.drop_drop, List.drop_left]
    rfl
  unfold decode
  rw [hreply, List.take_left' hlength, List.drop_left' hlength, code_load]
  simp only [hnumber, hmessage, signedDecimalValue_signedDecimal]
  rfl

theorem formatted_success : Status.success.Formatted p where
  code := List.prefix_rfl
  failure := nofun

theorem formatted_exceptionData (errorNumber : ℤ) (message : List Byte) :
    (Status.exceptionData errorNumber message).Formatted p where
  code := by
    simp only [Status.reply, List.append_assoc]
    exact List.prefix_append _ _
  failure := by
    intro text htext
    obtain rfl : message = text := Option.some.inj htext
    exact ⟨errorNumber, fun n hn => (Option.some.inj hn).symm, rfl⟩

/-- The text of a `std::exception` would have to contain itself behind a number. -/
theorem not_formatted_stdException (what : List Byte) :
    ¬ (Status.stdException what).Formatted p := by
  intro h
  obtain ⟨errorNumber, -, hreply⟩ := h.failure what rfl
  have hlength := congrArg List.length hreply
  simp only [Status.reply, Status.code, List.length_append, List.length_singleton] at hlength
  omega

/-- The two bytes of the reply are fewer than those of a response code. -/
theorem not_formatted_unsupported : ¬ Status.unsupported.Formatted p := by
  intro h
  have hlength := h.code.length_le
  rw [ResponseCode.bytes_length] at hlength
  have hshort : ¬ enumSize ≤ commandNotSupported.length := by decide
  exact hshort hlength

theorem formatted_iff (o : Status) : o.Formatted p ↔ o.Regular := by
  cases o with
  | success => exact iff_of_true formatted_success trivial
  | exceptionData errorNumber message =>
    exact iff_of_true (formatted_exceptionData errorNumber message) trivial
  | stdException what => exact iff_of_false (not_formatted_stdException what) id
  | unsupported => exact iff_of_false not_formatted_unsupported id

theorem decode_regular {o : Status} (h : o.Regular) : decode p (o.reply p) = o.contents := by
  cases o with
  | success => exact decode_success
  | exceptionData errorNumber message => exact decode_exceptionData errorNumber message
  | stdException what => exact h.elim
  | unsupported => exact h.elim

theorem contents_inj {o o' : Status} (h : o.Regular) (h' : o'.Regular)
    (heq : o.contents = o'.contents) : o = o' := by
  cases o <;> cases o' <;> simp_all [Status.contents, Status.Regular, Status.message,
    Status.errorNumber]

end Replies

/-- The replies to a set of outcomes share one format exactly when none of them comes from a
`std::exception` or from an unsupported command. -/
theorem sharedFormat_iff (p : Platform) (outcomes : Set Status) :
    SharedFormat p outcomes ↔ ∀ o ∈ outcomes, o.Regular := by
  constructor
  · intro h o ho
    exact (formatted_iff o).mp (h.formatted o ho)
  · intro h
    constructor
    · intro o ho
      exact (formatted_iff o).mpr (h o ho)
    · exact ⟨decode p, fun o ho => decode_regular (h o ho)⟩
    · intro o ho o' ho' heq
      apply contents_inj (h o ho) (h o' ho')
      rw [← decode_regular (p := p) (h o ho), heq, decode_regular (h o' ho')]

/-- A `std::exception` and an `ExceptionData` may have the same reply. -/
theorem same_reply (p : Platform) (errorNumber : ℤ) (message : List Byte) :
    (Status.stdException (signedDecimal errorNumber ++ [tab] ++ message)).reply p =
      (Status.exceptionData errorNumber message).reply p := by
  simp [Status.reply]

/-- An unsupported command is answered with two bytes. -/
theorem unsupported_too_short : ¬ SharedFormat ⟨.eight, .little⟩ {.unsupported} := by
  intro h
  exact not_formatted_unsupported (h.formatted .unsupported rfl)

/-! ### The outcomes of requests -/

variable {lib : Gphoto2}

/-- The outcome of a request, if it is a status. -/
def outcome (p : Platform) (r : Request) (controller : CameraController lib) : Option Status :=
  match (execute p r).run controller with
  | .ok _ _ =>
      if r.command = ServerCommand.selectCamera.value then some .success
      else if r.command = ServerCommand.echoOnly.value ∨
        r.command = ServerCommand.listCameras.value then none
      else some .unsupported
  | .error (.exceptionData errorNumber message) _ => some (.exceptionData errorNumber message)
  | .error (.stdException what) _ => some (.stdException what)
  | .error .assertionFailed _ | .error .undefined _ => none

section Requests
variable {p : Platform} {r : Request} {controller : CameraController lib}

/-- A selection that does not throw is a success. -/
theorem execute_success (hselect : r.command = ServerCommand.selectCamera.value)
    {response : List Byte} {t : CameraController lib}
    (hrun : (execute p r).run controller = .ok response t) : response = success p := by
  rw [execute_selectCamera hselect] at hrun
  have hends : Ends (do
      let model ← argumentAt r.arguments 0
      let usbPort ← argumentAt r.arguments 1
      CameraController.selectCamera (cString model) (cString usbPort)
      return success p : Action lib (List Byte)) controller
      (fun response _ => response = success p) fun _ _ => True := by
    apply (ends_any _ _).bind
    intro model _ _
    apply (ends_any _ _).bind
    intro usbPort _ _
    apply (ends_any _ _).bind
    intro _ _ _
    exact ends_pure rfl
  exact hends.ok hrun

/-- The response to a request is the reply to its outcome. -/
theorem respond_outcome {o : Status} (h : outcome p r controller = some o) :
    (respond p r controller).1 = some (o.reply p) := by
  unfold outcome at h
  unfold respond
  cases hrun : (execute p r).run controller with
  | ok response t =>
    simp only [hrun] at h ⊢
    split_ifs at h with hselect hother
    · cases h
      rw [execute_success hselect hrun]
      rfl
    · rw [not_or] at hother
      rw [execute_unsupported hother.1 hother.2 hselect] at hrun
      cases hrun
      cases h
      rfl
  | error thrown t =>
    simp only [hrun] at h ⊢
    cases thrown <;> cases h <;> rfl

end Requests

end Rckam.Server
