import Rckam.Client.Client
import Rckam.Server.CameraController

/-! A list of cameras, written by the server and read by the client. -/
namespace Rckam.Client
open Server (CameraController)
open Server.CameraController (listResponse)

/-- The line of the response for the `i`-th camera. -/
def line (i : ℕ) (camera : CameraInfo) : List Byte :=
  decimal i ++ [tab] ++ camera.model ++ [tab] ++ camera.port

/-- The response of the server to `LIST_CAMERAS` when it detects the cameras. -/
def response (cameras : List CameraInfo) : List Byte :=
  listResponse cameras.length (fun i => (cameras.getD i ⟨[], []⟩).model)
    (fun i => (cameras.getD i ⟨[], []⟩).port)

/-- Cameras with names that a line can hold, and whose response fits the buffer of the client. -/
structure Detected where
  cameras : List CameraInfo
  model_ne_nil : ∀ c ∈ cameras, c.model ≠ []
  port_ne_nil : ∀ c ∈ cameras, c.port ≠ []
  no_tab : ∀ c ∈ cameras, tab ∉ c.model ∧ tab ∉ c.port
  no_newline : ∀ c ∈ cameras, newline ∉ c.model ∧ newline ∉ c.port
  fits : (response cameras).length ≤ commandBufferSize

/-- The server sends its response and closes the connection. -/
def Detected.exchange (d : Detected) : Exchange where
  connect := .success
  write := .success
  sentCount := enumSize
  read := .completed ⟨.eof, response d.cameras, d.fits⟩

theorem response_eq (cameras : List CameraInfo) :
    response cameras =
      [newline].intercalate (cameras.zipIdx.map fun x => line x.2 x.1) := by
  have hlines : (List.range cameras.length).map (CameraController.line
        (fun i => (cameras.getD i ⟨[], []⟩).model) fun i => (cameras.getD i ⟨[], []⟩).port) =
      cameras.zipIdx.map fun x => line x.2 x.1 := by
    apply List.ext_getElem
    · simp
    · intro i hi _
      have hlt : i < cameras.length := by simpa using hi
      simp [line, CameraController.line, hlt]
  rw [response, CameraController.listResponse_lines, hlines]

/-- The loop of the server returns it for a list that exists. -/
theorem listEntries_response {lib : Server.Gphoto2} {list : Server.CameraList}
    {s : CameraController lib} {model port : ℕ → List Byte}
    (hmodel : ∀ i < list.count, Server.CameraList.Reads lib.gpListGetName list s i (model i))
    (hport : ∀ i < list.count, Server.CameraList.Reads lib.gpListGetValue list s i (port i)) :
    (CameraController.listEntries list 0 [] []).run s =
      .ok (response ((List.range list.count).map fun i =>
        ⟨cString (model i), cString (port i)⟩)) s := by
  have hresponse : response ((List.range list.count).map fun i =>
      ⟨cString (model i), cString (port i)⟩) =
        listResponse list.count (fun i => cString (model i)) fun i => cString (port i) := by
    unfold response
    rw [CameraController.listResponse_lines, CameraController.listResponse_lines, List.length_map,
      List.length_range]
    congr 1
    apply List.map_congr_left
    intro i hi
    have hlt : i < list.count := List.mem_range.mp hi
    simp [CameraController.line, hlt]
  rw [CameraController.listEntries_run hmodel hport, hresponse]
  rfl

theorem cameraLoop_failed {is : IStream} (h : is.failbit = true) : cameraLoop is = [] := by
  rw [cameraLoop, if_pos h]

/-- One turn of the loop. -/
theorem cameraLoop_turn {is is1 is2 : IStream} {model port : List Byte}
    (hgood : is.failbit = false) (hmodel : is.getline [] tab = (model, is1))
    (hport : is1.getline [] newline = (port, is2)) :
    cameraLoop is = ⟨model, port⟩ :: cameraLoop is2 := by
  rw [cameraLoop, if_neg (by simp [hgood])]
  simp only [hmodel, hport]

/-- A stream at its end that has not failed gives one more entry, an empty one. -/
theorem cameraLoop_end {is : IStream} (hgood : is.failbit = false)
    (hend : is.eofbit = true ∨ is.rest = []) : cameraLoop is = [⟨[], []⟩] := by
  obtain ⟨is1, hmodel, hfailed⟩ : ∃ is1, is.getline [] tab = ([], is1) ∧ is1.failbit = true := by
    obtain ⟨rest, eofbit, failbit⟩ := is
    obtain rfl : failbit = false := hgood
    cases eofbit with
    | true => exact ⟨_, rfl, rfl⟩
    | false =>
      obtain rfl : rest = [] := by simpa using hend
      exact ⟨_, rfl, rfl⟩
  have hport := IStream.getline_bad [] newline (Or.inr hfailed)
  rw [cameraLoop_turn hgood hmodel hport, cameraLoop_failed rfl]

/-- What `listCameras` reads from lines of two fields: both fields of every line, and an empty
entry after the last line. -/
theorem cameraLoop_lines (lines : List (List Byte × List Byte))
    (hlines : ∀ x ∈ lines, tab ∉ x.1 ∧ newline ∉ x.2 ∧ x.2 ≠ []) :
    cameraLoop ⟨[newline].intercalate (lines.map fun x => x.1 ++ tab :: x.2), false, false⟩ =
      lines.map (fun x => ⟨x.1, x.2⟩) ++ [⟨[], []⟩] := by
  induction lines with
  | nil => exact cameraLoop_end rfl (Or.inr rfl)
  | cons x lines ih =>
    obtain ⟨htab, hnewline, hne⟩ := hlines x List.mem_cons_self
    have hrest := ih fun y hy => hlines y (List.mem_cons_of_mem x hy)
    cases lines with
    | nil =>
      have hempty : x.2.isEmpty = false := by
        cases hx : x.2 with
        | nil => exact absurd hx hne
        | cons b l => rfl
      have hport := IStream.getline_last [] hnewline
      rw [hempty] at hport
      rw [List.map_singleton, List.intercalate_singleton,
        cameraLoop_turn rfl (IStream.getline_append [] htab x.2) hport,
        cameraLoop_end rfl (Or.inl rfl)]
      rfl
    | cons y lines =>
      generalize hmore : [newline].intercalate
        ((y :: lines).map fun x : List Byte × List Byte => x.1 ++ tab :: x.2) = more at hrest
      have hjoin : [newline].intercalate
          ((x :: y :: lines).map fun x : List Byte × List Byte => x.1 ++ tab :: x.2) =
          x.1 ++ tab :: (x.2 ++ newline :: more) := by
        rw [← hmore, List.map_cons, List.map_cons, List.intercalate_cons_cons]
        simp
      rw [hjoin, cameraLoop_turn rfl (IStream.getline_append [] htab _)
        (IStream.getline_append [] hnewline more), hrest]
      rfl

/-- The client takes the index for the model and the rest of the line for the port. -/
theorem listCameras_detected (d : Detected) :
    (listCameras d.exchange .success).1 =
      d.cameras.zipIdx.map (fun x => ⟨decimal x.2, x.1.model ++ tab :: x.1.port⟩) ++
        [⟨[], []⟩] := by
  have hlines : response d.cameras = [newline].intercalate
      ((d.cameras.zipIdx.map fun x => (decimal x.2, x.1.model ++ tab :: x.1.port)).map
        fun x => x.1 ++ tab :: x.2) := by
    rw [response_eq, List.map_map]
    congr 1
    apply List.map_congr_left
    intro x _
    simp [line]
  have hfields : ∀ x ∈ d.cameras.zipIdx.map
      (fun x => (decimal x.2, x.1.model ++ tab :: x.1.port)),
      tab ∉ x.1 ∧ newline ∉ x.2 ∧ x.2 ≠ [] := by
    intro x hx
    obtain ⟨y, hy, rfl⟩ := List.mem_map.mp hx
    have hmem : y.1 ∈ d.cameras := List.fst_mem_of_mem_zipIdx hy
    obtain ⟨hmodel, hport⟩ := d.no_newline y.1 hmem
    refine ⟨tab_notMem_decimal y.2, ?_, by simp⟩
    intro h
    rcases List.mem_append.mp h with h | h
    · exact hmodel h
    · rcases List.mem_cons.mp h with h | h
      · revert h
        decide
      · exact hport h
  have hquery : (query d.exchange .success).1 = response d.cameras := rfl
  unfold listCameras parseCameras
  rw [hquery, if_neg (by decide)]
  show cameraLoop ⟨response d.cameras, false, false⟩ = _
  rw [hlines, cameraLoop_lines _ hfields, List.map_map]
  rfl

/-- The list that the client reads is never the list that the server wrote: its entries are
others, and there is one too many. -/
theorem camera_list_never_read (d : Detected) :
    (listCameras d.exchange .success).1 =
        d.cameras.zipIdx.map (fun x => ⟨decimal x.2, x.1.model ++ tab :: x.1.port⟩) ++
          [⟨[], []⟩] ∧
      (listCameras d.exchange .success).1 ≠ d.cameras := by
  refine ⟨listCameras_detected d, ?_⟩
  intro h
  have hlength := congrArg List.length (h.symm.trans (listCameras_detected d))
  simp at hlength

def noCameras : Detected where
  cameras := []
  model_ne_nil := by simp
  port_ne_nil := by simp
  no_tab := by simp
  no_newline := by simp
  fits := by simp [response_eq]

/-- Without cameras the client reads one. -/
theorem no_cameras_misread : (listCameras noCameras.exchange .success).1 ≠ [] := by
  rw [listCameras_detected]
  exact List.cons_ne_nil _ _

end Rckam.Client
