import Rckam.Common.Text

/-! The control protocol between client and server, as both programs declare it. -/
namespace Rckam

/-- An enumeration is a native 4-byte unsigned integer. -/
def enumSize : ℕ := 4

inductive ServerCommand where
  | echoOnly | getServerConfig | listCameras | selectCamera | getCameraConfig
  | getCameraSingleConfig | listCameraConfig | setCameraConfig | setCameraSingleConfig
  | cameraCapture | cameraTriggerCapture | cameraCapturePreview | cameraSummary | cameraAbout
  | cameraWaitForEvent | pan | tilt | lastCommand
  deriving DecidableEq, Repr

/-- The enumerators are numbered from zero. -/
def ServerCommand.value (c : ServerCommand) : ℕ := c.ctorIdx

inductive ResponseCode where
  | notSupported | success | failure | lastCode
  deriving DecidableEq, Repr

/-- The enumerators are numbered from one. -/
def ResponseCode.value (c : ResponseCode) : ℕ := c.ctorIdx + 1

def commandBufferSize : ℕ := 512

/-- `std::string(reinterpret_cast<const char *>(&code), sizeof(code))`. -/
def ResponseCode.bytes (p : Platform) (code : ResponseCode) : List Byte :=
  p.store enumSize code.value

@[simp] theorem ResponseCode.bytes_length (p : Platform) (code : ResponseCode) :
    (code.bytes p).length = enumSize := p.store_length _ _

theorem ResponseCode.bytes_inj (p : Platform) {c c' : ResponseCode}
    (h : c.bytes p = c'.bytes p) : c = c' := by
  have hload := congrArg p.load h
  rw [bytes, bytes, p.load_store, p.load_store] at hload
  revert hload
  cases c <;> cases c' <;> decide

end Rckam
