import VirtualCamera.CameraService.InFlight

namespace VirtualCamera.Zsl

open CameraService.InFlight (CameraMetadata ANDROID_REQUEST_FRAME_COUNT ANDROID_REQUEST_ID
  ANDROID_SENSOR_TIMESTAMP)

def OK : ℤ := 0
def NO_BUFFER_AVAILABLE : ℤ := 2
def BAD_VALUE : ℤ := -22
def INVALID_OPERATION : ℤ := -38
def NOT_ENOUGH_DATA : ℤ := -61

def ANDROID_COLOR_CORRECTION_MODE : ℕ := 0x00000000
def ANDROID_COLOR_CORRECTION_ABERRATION_MODE : ℕ := 0x00000003
def ANDROID_CONTROL_AF_MODE : ℕ := 0x00010007
def ANDROID_CONTROL_CAPTURE_INTENT : ℕ := 0x0001000d
def ANDROID_CONTROL_AE_STATE : ℕ := 0x0001001f
def ANDROID_CONTROL_AF_STATE : ℕ := 0x00010020
def ANDROID_EDGE_MODE : ℕ := 0x00030000
def ANDROID_HOT_PIXEL_MODE : ℕ := 0x00060000
def ANDROID_JPEG_GPS_COORDINATES : ℕ := 0x00070000
def ANDROID_JPEG_GPS_PROCESSING_METHOD : ℕ := 0x00070001
def ANDROID_JPEG_GPS_TIMESTAMP : ℕ := 0x00070002
def ANDROID_JPEG_ORIENTATION : ℕ := 0x00070003
def ANDROID_JPEG_QUALITY : ℕ := 0x00070004
def ANDROID_JPEG_THUMBNAIL_QUALITY : ℕ := 0x00070005
def ANDROID_JPEG_THUMBNAIL_SIZE : ℕ := 0x00070006
def ANDROID_NOISE_REDUCTION_MODE : ℕ := 0x000a0000
def ANDROID_REQUEST_INPUT_STREAMS : ℕ := 0x000c0002
def ANDROID_REQUEST_OUTPUT_STREAMS : ℕ := 0x000c0004
def ANDROID_REQUEST_TYPE : ℕ := 0x000c0005
def ANDROID_SHADING_MODE : ℕ := 0x00100000
def ANDROID_TONEMAP_MODE : ℕ := 0x00130003

def ANDROID_CONTROL_AE_STATE_CONVERGED : ℤ := 2
def ANDROID_CONTROL_AE_STATE_LOCKED : ℤ := 3
def ANDROID_CONTROL_AF_MODE_OFF : ℤ := 0
def ANDROID_CONTROL_AF_MODE_AUTO : ℤ := 1
def ANDROID_CONTROL_AF_MODE_MACRO : ℤ := 2
def ANDROID_CONTROL_AF_MODE_CONTINUOUS_VIDEO : ℤ := 3
def ANDROID_CONTROL_AF_MODE_CONTINUOUS_PICTURE : ℤ := 4
def ANDROID_CONTROL_AF_MODE_EDOF : ℤ := 5
def ANDROID_CONTROL_AF_STATE_PASSIVE_FOCUSED : ℤ := 2
def ANDROID_CONTROL_AF_STATE_FOCUSED_LOCKED : ℤ := 4
def ANDROID_CONTROL_AF_STATE_NOT_FOCUSED_LOCKED : ℤ := 5
def ANDROID_CONTROL_CAPTURE_INTENT_STILL_CAPTURE : ℤ := 2
def ANDROID_REQUEST_TYPE_REPROCESS : ℤ := 1

/-! ### Edits of a request -/

inductive Edit
  | update (tag : ℕ) (data : List ℤ)
  | erase (tag : ℕ)
  deriving DecidableEq, Repr

def Edit.tag : Edit → ℕ
  | .update tag _ => tag
  | .erase tag => tag

def Edit.apply (request : CameraMetadata) : Edit → CameraMetadata
  | .update tag data => request.update tag data
  | .erase tag => request.erase tag

/-- The edits up to the first that fails; `answer` is the status of the edit of a tag. -/
def edit (answer : ℕ → ℤ) : List Edit → CameraMetadata → ℤ × CameraMetadata
  | [], request => (OK, request)
  | e :: edits, request =>
    if answer e.tag ≠ OK then (answer e.tag, request) else edit answer edits (e.apply request)

theorem edit_ok_iff {answer : ℕ → ℤ} {edits : List Edit} {request : CameraMetadata} :
    (edit answer edits request).1 = OK ↔ ∀ e ∈ edits, answer e.tag = OK := by
  induction edits generalizing request with
  | nil => exact ⟨fun _ _ he ↦ absurd he List.not_mem_nil, fun _ ↦ rfl⟩
  | cons e edits ih =>
    rw [List.forall_mem_cons, edit]
    split
    · rename_i hfail
      exact ⟨fun h ↦ absurd h hfail, fun h ↦ absurd h.1 hfail⟩
    · rename_i hok
      rw [ih]
      exact ⟨fun h ↦ ⟨not_not.mp hok, h⟩, And.right⟩

theorem Edit.find_apply (request : CameraMetadata) {e : Edit} {tag : ℕ} (h : tag ≠ e.tag) :
    CameraMetadata.find (e.apply request) tag = request.find tag := by
  cases e with
  | update tag' data => exact CameraMetadata.find_update_ne request data h
  | erase tag' => exact CameraMetadata.find_erase_ne request h

/-- A tag that is not edited keeps its values, also when an edit fails. -/
theorem find_edit (answer : ℕ → ℤ) {edits : List Edit} (request : CameraMetadata) {tag : ℕ}
    (h : ∀ e ∈ edits, tag ≠ e.tag) :
    CameraMetadata.find (edit answer edits request).2 tag = request.find tag := by
  induction edits generalizing request with
  | nil => rfl
  | cons e edits ih =>
    rw [List.forall_mem_cons] at h
    rw [edit]
    split
    · rfl
    · rw [ih _ h.2, Edit.find_apply request h.1]

/-- What `updateRequestJpeg` reads of the parameters. A coordinate is known by a number, the
processing method by its bytes, to which an update adds the one that ends a string. -/
structure Parameters where
  jpegThumbSize : ℤ × ℤ
  jpegThumbQuality : ℤ := 90
  jpegQuality : ℤ := 90
  jpegRotation : ℤ := 0
  gpsEnabled : Bool := false
  gpsCoordinates : List ℤ := [0, 0, 0]
  gpsTimestamp : ℤ := 0
  gpsProcessingMethod : List ℤ := [0x75, 0x6e, 0x6b, 0x6e, 0x6f, 0x77, 0x6e]
  deriving DecidableEq, Repr

def Parameters.jpegEdits (p : Parameters) : List Edit :=
  [.update ANDROID_JPEG_THUMBNAIL_SIZE [p.jpegThumbSize.1, p.jpegThumbSize.2],
    .update ANDROID_JPEG_THUMBNAIL_QUALITY [p.jpegThumbQuality],
    .update ANDROID_JPEG_QUALITY [p.jpegQuality],
    .update ANDROID_JPEG_ORIENTATION [p.jpegRotation]] ++
  if p.gpsEnabled then
    [.update ANDROID_JPEG_GPS_COORDINATES p.gpsCoordinates,
      .update ANDROID_JPEG_GPS_TIMESTAMP [p.gpsTimestamp],
      .update ANDROID_JPEG_GPS_PROCESSING_METHOD (p.gpsProcessingMethod ++ [0])]
  else
    [.erase ANDROID_JPEG_GPS_COORDINATES, .erase ANDROID_JPEG_GPS_TIMESTAMP,
      .erase ANDROID_JPEG_GPS_PROCESSING_METHOD]

def Parameters.updateRequestJpeg (p : Parameters) (answer : ℕ → ℤ) (request : CameraMetadata) :
    ℤ × CameraMetadata := edit answer p.jpegEdits request

theorem Parameters.timestamp_ne_jpegEdits (p : Parameters) :
    ∀ e ∈ p.jpegEdits, ANDROID_SENSOR_TIMESTAMP ≠ e.tag := by
  have htags : p.jpegEdits.map Edit.tag =
      [ANDROID_JPEG_THUMBNAIL_SIZE, ANDROID_JPEG_THUMBNAIL_QUALITY, ANDROID_JPEG_QUALITY,
        ANDROID_JPEG_ORIENTATION, ANDROID_JPEG_GPS_COORDINATES, ANDROID_JPEG_GPS_TIMESTAMP,
        ANDROID_JPEG_GPS_PROCESSING_METHOD] := by
    unfold Parameters.jpegEdits
    split <;> rfl
  intro e he heq
  have hmem := List.mem_map_of_mem (f := Edit.tag) he
  rw [htags, ← heq] at hmem
  exact absurd hmem (by decide)

def postProcessingTags : List ℕ :=
  [ANDROID_NOISE_REDUCTION_MODE, ANDROID_COLOR_CORRECTION_ABERRATION_MODE,
    ANDROID_COLOR_CORRECTION_MODE, ANDROID_TONEMAP_MODE, ANDROID_SHADING_MODE,
    ANDROID_HOT_PIXEL_MODE, ANDROID_EDGE_MODE]

/-- Only the first value of an entry is taken, and an update that fails is passed over. -/
def updateFromTemplate (answer : ℕ → ℤ) (stillTemplate : CameraMetadata) :
    List ℕ → CameraMetadata → CameraMetadata
  | [], request => request
  | tag :: tags, request =>
    match stillTemplate.find tag with
    | [] => updateFromTemplate answer stillTemplate tags request
    | value :: _ =>
      updateFromTemplate answer stillTemplate tags
        (if answer tag = OK then request.update tag [value] else request)

/-- With the client and its device there. -/
def updateRequestWithDefaultStillRequest (answer : ℕ → ℤ) (stillTemplate request : CameraMetadata) :
    CameraMetadata := updateFromTemplate answer stillTemplate postProcessingTags request

theorem find_updateFromTemplate (answer : ℕ → ℤ) (stillTemplate request : CameraMetadata)
    {tags : List ℕ} {tag : ℕ} (h : tag ∉ tags) :
    CameraMetadata.find (updateFromTemplate answer stillTemplate tags request) tag =
      request.find tag := by
  induction tags generalizing request with
  | nil => rfl
  | cons first tags ih =>
    rw [List.mem_cons, not_or] at h
    rw [updateFromTemplate]
    split
    · exact ih _ h.2
    rw [ih _ h.2]
    split
    · exact CameraMetadata.find_update_ne request _ h.1
    · rfl

/-! ### The candidate for reprocessing -/

def isFixedFocusMode (afMode : ℤ) : Bool :=
  if afMode = ANDROID_CONTROL_AF_MODE_AUTO ∨ afMode = ANDROID_CONTROL_AF_MODE_CONTINUOUS_VIDEO ∨
      afMode = ANDROID_CONTROL_AF_MODE_CONTINUOUS_PICTURE ∨
      afMode = ANDROID_CONTROL_AF_MODE_MACRO then false
  else if afMode = ANDROID_CONTROL_AF_MODE_OFF ∨ afMode = ANDROID_CONTROL_AF_MODE_EDOF then true
  else false

def aeGood (frame : CameraMetadata) : Bool :=
  match frame.find ANDROID_CONTROL_AE_STATE with
  | [] => false
  | aeState :: _ =>
    aeState = ANDROID_CONTROL_AE_STATE_CONVERGED ∨ aeState = ANDROID_CONTROL_AE_STATE_LOCKED

def afStateGood (frame : CameraMetadata) : Bool :=
  match frame.find ANDROID_CONTROL_AF_STATE with
  | [] => false
  | afState :: _ =>
    afState = ANDROID_CONTROL_AF_STATE_PASSIVE_FOCUSED ∨
      afState = ANDROID_CONTROL_AF_STATE_FOCUSED_LOCKED ∨
      afState = ANDROID_CONTROL_AF_STATE_NOT_FOCUSED_LOCKED

def afGood (mHasFocuser : Bool) (frame : CameraMetadata) : Bool :=
  match frame.find ANDROID_CONTROL_AF_MODE with
  | [] => false
  | afMode :: _ => if mHasFocuser && !isFixedFocusMode afMode then afStateGood frame else true

/-- The local variables of the search; a timestamp of -1 is none. -/
structure Candidate where
  idx : ℕ := 0
  minTimestamp : ℤ := -1
  deriving DecidableEq, Repr

def Candidate.visit (mHasFocuser : Bool) (c : Candidate) (j : ℕ) (frame : CameraMetadata) :
    Candidate :=
  if frame.isEmpty then c
  else
    match frame.find ANDROID_SENSOR_TIMESTAMP with
    | [] => c
    | frameTimestamp :: _ =>
      if c.minTimestamp > frameTimestamp ∨ c.minTimestamp = -1 then
        if aeGood frame && afGood mHasFocuser frame then ⟨j, frameTimestamp⟩ else c
      else c

def Candidate.loop (mHasFocuser : Bool) (c : Candidate) (j : ℕ) : List CameraMetadata → Candidate
  | [] => c
  | frame :: frames => (c.visit mHasFocuser j frame).loop mHasFocuser (j + 1) frames

/-- A frame that is good for reprocessing at this timestamp. -/
structure Good (mHasFocuser : Bool) (frame : CameraMetadata) (timestamp : ℤ) : Prop where
  timestamp : (frame.find ANDROID_SENSOR_TIMESTAMP).head? = some timestamp
  ae : aeGood frame = true
  af : afGood mHasFocuser frame = true

/-- The frame at the index is good, unless there is no candidate. -/
def Candidate.Found (mHasFocuser : Bool) (c : Candidate) (frames : List CameraMetadata) : Prop :=
  c.minTimestamp = -1 ∨
    ∃ frame, frames[c.idx]? = some frame ∧ Good mHasFocuser frame c.minTimestamp

variable {mHasFocuser : Bool} {c : Candidate} {frames : List CameraMetadata}

theorem Candidate.Found.append (h : c.Found mHasFocuser frames) (frame : CameraMetadata) :
    c.Found mHasFocuser (frames ++ [frame]) := by
  obtain hnone | ⟨old, hget, hgood⟩ := h
  · exact .inl hnone
  · have hlt := (List.getElem?_eq_some_iff.mp hget).1
    exact .inr ⟨old, (List.getElem?_append_left hlt).trans hget, hgood⟩

theorem Candidate.Found.visit (h : c.Found mHasFocuser frames) (frame : CameraMetadata) :
    (c.visit mHasFocuser frames.length frame).Found mHasFocuser (frames ++ [frame]) := by
  unfold Candidate.visit
  split
  · exact h.append frame
  split
  · exact h.append frame
  rename_i frameTimestamp _ hfind
  split
  · split
    · rename_i hgood
      rw [Bool.and_eq_true] at hgood
      refine .inr ⟨frame, List.getElem?_concat_length, ?_, hgood.1, hgood.2⟩
      rw [hfind]
      rfl
    · exact h.append frame
  · exact h.append frame

theorem Candidate.Found.loop (h : c.Found mHasFocuser frames) (rest : List CameraMetadata) :
    (c.loop mHasFocuser frames.length rest).Found mHasFocuser (frames ++ rest) := by
  induction rest generalizing c frames with
  | nil => rwa [List.append_nil]
  | cons frame rest ih =>
    have hrest := ih (h.visit frame)
    rw [List.length_append, List.length_singleton, List.append_assoc] at hrest
    exact hrest

theorem candidate_found (mHasFocuser : Bool) (frames : List CameraMetadata) :
    (Candidate.loop mHasFocuser {} 0 frames).Found mHasFocuser frames := by
  have hempty : Candidate.Found mHasFocuser {} [] := .inl rfl
  exact hempty.loop frames

end VirtualCamera.Zsl
