import Mathlib.Data.List.Sort
import VirtualCamera.Library.Assoc

namespace VirtualCamera.CameraService.InFlight

open Library.Assoc

/-! ### Metadata -/

/-- The entries of a metadata buffer, each a tag with its values. -/
abbrev CameraMetadata := List (ℕ × List ℤ)

def ANDROID_REQUEST_FRAME_COUNT : ℕ := 0x000c0000
def ANDROID_REQUEST_ID : ℕ := 0x000c0001
def ANDROID_SENSOR_TIMESTAMP : ℕ := 0x000e0010
def ANDROID_LOGICAL_MULTI_CAMERA_ACTIVE_PHYSICAL_ID : ℕ := 0x001b0002

namespace CameraMetadata

/-- The values of the first entry with the tag, none when there is no entry. -/
def find (m : CameraMetadata) (tag : ℕ) : List ℤ := (m.lookup tag).getD []

def update (m : CameraMetadata) (tag : ℕ) (data : List ℤ) : CameraMetadata :=
  if m.any fun entry ↦ entry.1 = tag then
    m.map fun entry ↦ if entry.1 = tag then (tag, data) else entry
  else m ++ [(tag, data)]

def erase (m : CameraMetadata) (tag : ℕ) : CameraMetadata := m.filter fun entry ↦ entry.1 ≠ tag

def sort (m : CameraMetadata) : CameraMetadata := m.insertionSort fun a b ↦ a.1 ≤ b.1

variable {tag tag' : ℕ}

theorem find_update_ne (m : CameraMetadata) (data : List ℤ) (h : tag' ≠ tag) :
    (m.update tag data).find tag' = m.find tag' := by
  have hmap : (m.map fun entry ↦ if entry.1 = tag then (tag, data) else entry).lookup tag' =
      m.lookup tag' := by
    induction m with
    | nil => rfl
    | cons entry m ih =>
      rw [List.map_cons]
      split
      · rename_i htag
        rw [List.lookup_cons, List.lookup_cons, ih, htag, beq_false_of_ne h]
      · rw [List.lookup_cons, List.lookup_cons, ih]
  unfold find update
  split
  · rw [hmap]
  · rw [List.lookup_append, List.lookup_cons, beq_false_of_ne h, List.lookup_nil, Option.or_none]

theorem find_erase_ne (m : CameraMetadata) (h : tag' ≠ tag) :
    (m.erase tag).find tag' = m.find tag' := by
  have hfilter : (m.filter fun entry ↦ entry.1 ≠ tag).lookup tag' = m.lookup tag' := by
    induction m with
    | nil => rfl
    | cons entry m ih =>
      by_cases htag : entry.1 = tag
      · rw [List.filter_cons_of_neg (by simpa using htag), ih, List.lookup_cons, htag,
          beq_false_of_ne h]
      · rw [List.filter_cons_of_pos (by simpa using htag), List.lookup_cons, List.lookup_cons, ih]
  exact congrArg (Option.getD · []) hfilter

end CameraMetadata

structure PhysicalCaptureResultInfo where
  mPhysicalCameraId : String
  mPhysicalCameraMetadata : CameraMetadata
  deriving DecidableEq, Repr

/-! ### Buffers and requests -/

inductive BufferStatus
  | OK
  | ERROR
  deriving DecidableEq, Repr

/-- A stream is known by its id, a buffer by its handle. -/
structure StreamBuffer where
  stream : ℤ
  buffer : Option ℕ
  status : BufferStatus
  release_fence : Option ℕ
  deriving DecidableEq, Repr

inductive ErrorBufStrategy
  | ERROR_BUF_CACHE
  | ERROR_BUF_RETURN
  | ERROR_BUF_RETURN_NOTIFY
  deriving DecidableEq, Repr

structure CaptureResultExtras where
  requestId : ℤ
  burstId : ℤ
  frameNumber : ℕ
  partialResultCount : ℕ
  lastCompletedRegularFrameNumber : ℤ
  lastCompletedReprocessFrameNumber : ℤ
  lastCompletedZslFrameNumber : ℤ
  deriving DecidableEq, Repr

/-- The error codes of the callbacks. -/
inductive ErrorCode
  | ERROR_CAMERA_DEVICE
  | ERROR_CAMERA_REQUEST
  | ERROR_CAMERA_RESULT
  | ERROR_CAMERA_BUFFER
  deriving DecidableEq, Repr

/-- `requestStatus` is the error that was reported, if any. -/
structure InFlightRequest where
  shutterTimestamp : ℤ
  sensorTimestamp : ℤ
  requestStatus : Option ErrorCode
  haveResultMetadata : Bool
  numBuffersLeft : ℤ
  resultExtras : CaptureResultExtras
  hasInputBuffer : Bool
  pendingMetadata : CameraMetadata
  collectedPartialResult : CameraMetadata
  pendingOutputBuffers : List StreamBuffer
  hasCallback : Bool
  skipResultMetadata : Bool
  errorBufStrategy : ErrorBufStrategy
  physicalCameraIds : List (List String)
  physicalMetadatas : List PhysicalCaptureResultInfo
  stillCapture : Bool
  zslCapture : Bool
  rotateAndCropAuto : Bool
  cameraIdsWithZoom : List String
  outputSurfaces : List ℤ
  transform : ℤ
  deriving DecidableEq, Repr

/-- What the request thread registers for a frame. -/
structure Registration where
  numBuffers : ℤ
  resultExtras : CaptureResultExtras
  hasInput : Bool
  hasAppCallback : Bool
  physicalCameraIds : List (List String)
  isStillCapture : Bool
  isZslCapture : Bool
  rotateAndCropAuto : Bool
  cameraIdsWithZoom : List String
  outputSurfaces : List ℤ
  deriving DecidableEq, Repr

def InFlightRequest.create (r : Registration) : InFlightRequest where
  shutterTimestamp := 0
  sensorTimestamp := 0
  requestStatus := none
  haveResultMetadata := false
  numBuffersLeft := r.numBuffers
  resultExtras := r.resultExtras
  hasInputBuffer := r.hasInput
  pendingMetadata := []
  collectedPartialResult := []
  pendingOutputBuffers := []
  hasCallback := r.hasAppCallback
  skipResultMetadata := false
  errorBufStrategy := .ERROR_BUF_CACHE
  physicalCameraIds := r.physicalCameraIds
  physicalMetadatas := []
  stillCapture := r.isStillCapture
  zslCapture := r.isZslCapture
  rotateAndCropAuto := r.rotateAndCropAuto
  cameraIdsWithZoom := r.cameraIdsWithZoom
  outputSurfaces := r.outputSurfaces
  transform := -1

/-! ### The states of the device -/

/-- A call of `returnBuffer` of a stream. -/
structure ReturnedBuffer where
  stream : ℤ
  buffer : ℕ
  status : BufferStatus
  timestamp : ℤ
  frameNumber : ℕ
  transform : ℤ
  deriving DecidableEq, Repr

inductive Notification
  | error (code : ErrorCode) (extras : CaptureResultExtras) (errorStreamId : ℤ)
  | shutter (extras : CaptureResultExtras) (timestamp : ℤ)
  deriving DecidableEq, Repr

/-- What has gone to the streams and to the listener. -/
structure Outputs where
  returned : List ReturnedBuffer
  notifications : List Notification
  deriving DecidableEq, Repr

structure CaptureResult where
  mResultExtras : CaptureResultExtras
  mMetadata : CameraMetadata
  mPhysicalMetadatas : List PhysicalCaptureResultInfo
  deriving DecidableEq, Repr

/-- `final` records which function has queued the result. -/
structure QueuedResult where
  result : CaptureResult
  final : Bool
  deriving DecidableEq, Repr

inductive StreamType
  | CAMERA_STREAM_OUTPUT
  | CAMERA_STREAM_INPUT
  deriving DecidableEq, Repr

/-- What does not change while requests are in flight. The corrections of the metadata are
those of the distortion, zoom ratio and rotate-and-crop mappers and of the tags of a
monochrome camera; `timesOut` says which calls of `returnBuffer` time out. -/
structure Config where
  useHalBufManager : Bool
  usePartialResult : Bool
  numPartialResults : ℕ
  legacyClient : Bool
  listener : Bool
  outputStreams : List ℤ
  inputStream : Option ℤ
  deletedStreams : List (ℤ × StreamType)
  remappedKeys : List ℕ
  fixupMonochromeTags : CameraMetadata → Option CameraMetadata
  correctCaptureResult : Bool → List String → CameraMetadata →
    List PhysicalCaptureResultInfo → Option (CameraMetadata × List PhysicalCaptureResultInfo)
  getRotationTransform : List ℤ → Option ℤ
  timesOut : ReturnedBuffer → Bool

/-- The two maps of `BufferRecords` are part of the state: the one by frame and stream, and
the one by buffer id that is used with the HAL buffer manager. -/
structure State where
  inflightMap : Map ℕ InFlightRequest
  resultQueue : List QueuedResult
  outputs : Outputs
  returnedInputs : List (ℤ × ℕ)
  lastCompletedRegularFrameNumber : ℤ
  lastCompletedReprocessFrameNumber : ℤ
  lastCompletedZslFrameNumber : ℤ
  nextShutterFrameNum : ℕ
  nextReprocShutterFrameNum : ℕ
  nextZslShutterFrameNum : ℕ
  nextResultFrameNum : ℕ
  nextReprocResultFrameNum : ℕ
  nextZslResultFrameNum : ℕ
  mInflightBufferMap : Map (ℕ × ℤ) ℕ
  mRequestedBufferMap : Map ℕ (ℤ × ℕ)
  inError : Bool

def State.create : State where
  inflightMap := ∅
  resultQueue := []
  outputs := ⟨[], []⟩
  returnedInputs := []
  lastCompletedRegularFrameNumber := -1
  lastCompletedReprocessFrameNumber := -1
  lastCompletedZslFrameNumber := -1
  nextShutterFrameNum := 0
  nextReprocShutterFrameNum := 0
  nextZslShutterFrameNum := 0
  nextResultFrameNum := 0
  nextReprocResultFrameNum := 0
  nextZslResultFrameNum := 0
  mInflightBufferMap := ∅
  mRequestedBufferMap := ∅
  inError := false

/-- `SET_ERR`. -/
def State.setErr (s : State) : State := { s with inError := true }

/-! ### Returning buffers -/

/-- The status and the strategy let the buffer go back. -/
def ErrorBufStrategy.returns (strategy : ErrorBufStrategy) (b : StreamBuffer) : Bool :=
  b.status ≠ .ERROR ∨ strategy ≠ .ERROR_BUF_CACHE

/-- One round of the loop of `returnOutputBuffers`. A call that times out has taken the buffer
from the ones that are outstanding, so the stream refuses the second call that is to cancel it. -/
def Outputs.returnOutputBuffer (c : Config) (timestamp : ℤ) (outputSurfaces : List ℤ)
    (extras : CaptureResultExtras) (strategy : ErrorBufStrategy) (transform : ℤ) (o : Outputs)
    (b : StreamBuffer) : Outputs :=
  let bufferError := Notification.error .ERROR_CAMERA_BUFFER extras b.stream
  let o :=
    if b.status = .ERROR ∧ strategy = .ERROR_BUF_RETURN_NOTIFY ∧ c.listener then
      { o with notifications := o.notifications ++ [bufferError] }
    else o
  match b.buffer with
  | none => o
  | some buffer =>
    if strategy.returns b then
      let r : ReturnedBuffer :=
        ⟨b.stream, buffer, b.status, timestamp, extras.frameNumber, transform⟩
      let o := { o with returned := o.returned ++ [r] }
      if b.stream ∈ outputSurfaces ∧ c.timesOut r ∧ b.status = .OK ∧ c.listener then
        { o with notifications := o.notifications ++ [bufferError] }
      else o
    else o

def Outputs.returnOutputBuffers (c : Config) (o : Outputs) (outputBuffers : List StreamBuffer)
    (timestamp : ℤ) (outputSurfaces : List ℤ) (extras : CaptureResultExtras)
    (strategy : ErrorBufStrategy) (transform : ℤ) : Outputs :=
  outputBuffers.foldl
    (Outputs.returnOutputBuffer c timestamp outputSurfaces extras strategy transform) o

def InFlightRequest.returnAndRemovePendingOutputBuffers (c : Config) (r : InFlightRequest)
    (o : Outputs) : InFlightRequest × Outputs :=
  ({ r with
      pendingOutputBuffers := r.pendingOutputBuffers.filter fun b ↦ !r.errorBufStrategy.returns b },
    o.returnOutputBuffers c r.pendingOutputBuffers r.shutterTimestamp r.outputSurfaces
      r.resultExtras r.errorBufStrategy r.transform)

/-! ### Results -/

/-- The tags that are set in every result that is queued. -/
def CaptureResult.stamp (result : CaptureResult) (frameNumber : ℕ) : CaptureResult :=
  { result with
    mMetadata := (CameraMetadata.update result.mMetadata ANDROID_REQUEST_FRAME_COUNT
      [(frameNumber : ℤ)]).update ANDROID_REQUEST_ID [result.mResultExtras.requestId] }

def State.insertResultLocked (s : State) (result : CaptureResult) (frameNumber : ℕ)
    (final : Bool) : State :=
  { s with resultQueue := s.resultQueue ++ [⟨result.stamp frameNumber, final⟩] }

def State.sendPartialCaptureResult (c : Config) (s : State) (partialResult : CameraMetadata)
    (resultExtras : CaptureResultExtras) (frameNumber : ℕ) : State :=
  match c.fixupMonochromeTags partialResult with
  | none => s.setErr
  | some metadata =>
    let metadata := c.remappedKeys.foldl CameraMetadata.erase metadata
    if metadata = [] then s else s.insertResultLocked ⟨resultExtras, metadata, []⟩ frameNumber false

/-- The three kinds of requests, each with its own order of frame numbers. -/
inductive Order
  | reprocess
  | zslStillCapture
  | regular
  deriving DecidableEq, Repr

def InFlightRequest.order (r : InFlightRequest) : Order :=
  if r.hasInputBuffer then .reprocess
  else if r.zslCapture ∧ r.stillCapture then .zslStillCapture
  else .regular

def State.nextResult (s : State) : Order → ℕ
  | .reprocess => s.nextReprocResultFrameNum
  | .zslStillCapture => s.nextZslResultFrameNum
  | .regular => s.nextResultFrameNum

def State.setNextResult (s : State) (next : ℕ) : Order → State
  | .reprocess => { s with nextReprocResultFrameNum := next }
  | .zslStillCapture => { s with nextZslResultFrameNum := next }
  | .regular => { s with nextResultFrameNum := next }

def State.nextShutter (s : State) : Order → ℕ
  | .reprocess => s.nextReprocShutterFrameNum
  | .zslStillCapture => s.nextZslShutterFrameNum
  | .regular => s.nextShutterFrameNum

def State.setNextShutter (s : State) (next : ℕ) : Order → State
  | .reprocess => { s with nextReprocShutterFrameNum := next }
  | .zslStillCapture => { s with nextZslShutterFrameNum := next }
  | .regular => { s with nextShutterFrameNum := next }

/-- The metadata of a final result, unless a check fails: a time stamp for the camera and for
each physical one, and the corrections. -/
def InFlightRequest.finalMetadata (c : Config) (r : InFlightRequest)
    (pendingMetadata collectedPartialResult : CameraMetadata) :
    Option (CameraMetadata × List PhysicalCaptureResultInfo) :=
  let metadata :=
    CameraMetadata.sort (if c.usePartialResult then pendingMetadata ++ collectedPartialResult
      else pendingMetadata)
  if metadata.find ANDROID_SENSOR_TIMESTAMP = [] ∨ r.physicalMetadatas.any fun p ↦
      p.mPhysicalCameraMetadata.find ANDROID_SENSOR_TIMESTAMP = [] then none
  else c.correctCaptureResult r.rotateAndCropAuto r.cameraIdsWithZoom metadata r.physicalMetadatas

def State.sendCaptureResult (c : Config) (s : State) (r : InFlightRequest)
    (pendingMetadata collectedPartialResult : CameraMetadata) (frameNumber : ℕ) : State :=
  if pendingMetadata = [] then s
  else if frameNumber < s.nextResult r.order then s.setErr
  else
    let s := s.setNextResult (frameNumber + 1) r.order
    match r.finalMetadata c pendingMetadata collectedPartialResult with
    | none => s.setErr
    | some (metadata, physicalMetadatas) =>
      s.insertResultLocked ⟨r.resultExtras, metadata, physicalMetadatas⟩ frameNumber true

/-! ### The end of a request -/

/-- All that is to come for the request has come. -/
def InFlightRequest.ready (r : InFlightRequest) : Bool :=
  r.numBuffersLeft = 0 ∧
    (r.skipResultMetadata ∨ (r.haveResultMetadata ∧ r.shutterTimestamp ≠ 0))

def State.setLastCompleted (s : State) (r : InFlightRequest) (frameNumber : ℕ) : State :=
  if r.hasInputBuffer then { s with lastCompletedReprocessFrameNumber := frameNumber }
  else if r.zslCapture then { s with lastCompletedZslFrameNumber := frameNumber }
  else { s with lastCompletedRegularFrameNumber := frameNumber }

/-- The entry is `r`, which is not in the map any more when it is ready. -/
def State.removeInFlightRequestIfReadyLocked (c : Config) (s : State) (frameNumber : ℕ)
    (r : InFlightRequest) : State :=
  if r.ready then
    let s :=
      if r.hasCallback ∧ r.requestStatus = none ∧ r.sensorTimestamp ≠ r.shutterTimestamp then
        s.setErr
      else s
    let outputs := s.outputs.returnOutputBuffers c r.pendingOutputBuffers 0 r.outputSurfaces
      r.resultExtras r.errorBufStrategy r.transform
    { s.setLastCompleted r frameNumber with
      outputs := outputs
      inflightMap := s.inflightMap.erase frameNumber }
  else { s with inflightMap := s.inflightMap.insert frameNumber r }

end VirtualCamera.CameraService.InFlight
