import Rckam.Client.Client

/-! Which failures of a camera query reach the caller of `listCameras`. -/
namespace Rckam.Client

/-- The bytes that arrived before the read ended. -/
def Exchange.reply (exchange : Exchange) : List Byte :=
  match exchange.read with
  | .completed c => c.bytes
  | .cancelled c => c.bytes

/-- The connection, the request or the read of the response failed, or there was a timeout. -/
def Exchange.Fails (exchange : Exchange) : Prop :=
  exchange.connect.isSet ∨ exchange.write.isSet ∨ exchange.sentCount ≠ enumSize ∨
    match exchange.read with
    | .completed c => c.error.isSet ∧ c.error ≠ .eof
    | .cancelled _ => True

/-- The server on platform `p` answered with a `FAILURE` response. -/
def Exchange.Refused (p : Platform) (exchange : Exchange) : Prop :=
  ResponseCode.failure.bytes p <+: exchange.reply

/-- The exchange brought no list of cameras. -/
def Exchange.Unobtained (p : Platform) (exchange : Exchange) : Prop :=
  exchange.Fails ∨ exchange.Refused p

/-- The caller sees whether the list was obtained, and so does the user. -/
structure Reported (p : Platform) (exchange : Exchange) (error : ErrorCode) : Prop where
  failure : exchange.Unobtained p →
    (Caller.listCameras exchange error).error.isSet ∧
      (Caller.listCameras exchange error).cameraList = []
  success : ¬ exchange.Unobtained p → ¬ (Caller.listCameras exchange error).error.isSet
  raises : ∀ gtkRun, (∃ e, run exchange gtkRun = .error e) ↔ exchange.Unobtained p

/-- `run` never raises: its error code is the one it passed. -/
theorem run_returns (exchange : Exchange) (gtkRun : ℤ) : run exchange gtkRun = .ok gtkRun := by
  have hclear : ¬ ErrorCode.success.isSet := by decide
  unfold run Caller.listCameras
  exact if_neg hclear

/-- The outcome is reported exactly when there is no failure to report and the code passed is
clear. -/
theorem reported_iff (p : Platform) (exchange : Exchange) (error : ErrorCode) :
    Reported p exchange error ↔ ¬ exchange.Unobtained p ∧ ¬ error.isSet := by
  constructor
  · intro h
    have hobtained : ¬ exchange.Unobtained p := by
      intro hlost
      obtain ⟨e, he⟩ := (h.raises 0).mpr hlost
      rw [run_returns] at he
      contradiction
    exact ⟨hobtained, h.success hobtained⟩
  · rintro ⟨hobtained, hclear⟩
    refine ⟨fun hlost => absurd hlost hobtained, fun _ => hclear, fun gtkRun => ?_⟩
    constructor
    · rintro ⟨e, he⟩
      rw [run_returns] at he
      contradiction
    · exact fun hlost => absurd hlost hobtained

/-- Nobody listens on the control port: `connect` reports `ECONNREFUSED`. -/
def unreachable : Exchange where
  connect := ⟨111, .system⟩
  write := .success
  sentCount := 0
  read := .completed ⟨.success, [], by decide⟩

theorem unreachable_not_reported : ¬ Reported ⟨.eight, .little⟩ unreachable .success := by
  intro h
  have hlost : unreachable.Unobtained ⟨.eight, .little⟩ := Or.inl (Or.inl (by decide))
  have hset := (h.failure hlost).1
  revert hset
  decide

end Rckam.Client
