import VirtualCamera.CameraService.Results
import VirtualCamera.Library.Transition

namespace VirtualCamera.CameraService.InFlight

open Library Assoc

/-! ### The records of the buffers -/

def State.pushInflightBuffer (s : State) (frameNumber : ℕ) (streamId : ℤ) (buffer : ℕ) : State :=
  { s with mInflightBufferMap := s.mInflightBufferMap.insert (frameNumber, streamId) buffer }

def State.popInflightBuffer (s : State) (frameNumber : ℕ) (streamId : ℤ) : Option (ℕ × State) :=
  (s.mInflightBufferMap.lookup (frameNumber, streamId)).map fun buffer ↦
    (buffer, { s with mInflightBufferMap := s.mInflightBufferMap.erase (frameNumber, streamId) })

def State.pushInflightRequestBuffer (s : State) (bufferId : ℕ) (buf : ℕ) (streamId : ℤ) : State :=
  { s with mRequestedBufferMap := emplace bufferId (streamId, buf) s.mRequestedBufferMap }

/-- The buffer comes with the stream it is recorded for. -/
def State.popInflightRequestBuffer (s : State) (bufferId : ℕ) : Option ((ℤ × ℕ) × State) :=
  (s.mRequestedBufferMap.lookup bufferId).map fun record ↦
    (record, { s with mRequestedBufferMap := s.mRequestedBufferMap.erase bufferId })

/-! ### One capture result of the interface -/

/-- The release fence is the file descriptors of its handle. -/
structure HidlStreamBuffer where
  streamId : ℤ
  bufferId : ℕ
  status : BufferStatus
  releaseFence : Option (List ℕ)
  deriving DecidableEq, Repr

/-- `none` is metadata that cannot be read; an empty buffer is no metadata. -/
structure HidlCaptureResult where
  frameNumber : ℕ
  result : Option (Option CameraMetadata)
  physicalCameraMetadata : List (String × Option CameraMetadata)
  outputBuffers : List HidlStreamBuffer
  inputBuffer : HidlStreamBuffer
  partialResult : ℕ
  deriving DecidableEq, Repr

def BUFFER_ID_NO_BUFFER : ℕ := 0

def readPhysicalMetadata (physicalCameraMetadata : List (String × Option CameraMetadata)) :
    Option (List PhysicalCaptureResultInfo) :=
  physicalCameraMetadata.mapM fun p ↦ p.2.map fun metadata ↦ ⟨p.1, metadata⟩

/-- A fence has one file descriptor. -/
def HidlStreamBuffer.fence (b : HidlStreamBuffer) : Option (Option ℕ) :=
  match b.releaseFence with
  | none => some none
  | some [fd] => some (some fd)
  | some _ => none

def State.popOutput (c : Config) (s : State) (frameNumber : ℕ) (b : HidlStreamBuffer) :
    Option (Option ℕ × State) :=
  if c.useHalBufManager then
    if b.bufferId = BUFFER_ID_NO_BUFFER then some (none, s)
    else (s.popInflightRequestBuffer b.bufferId).map fun popped ↦ (some popped.1.2, popped.2)
  else (s.popInflightBuffer frameNumber b.streamId).map fun popped ↦ (some popped.1, popped.2)

/-- The functions that read the buffers give back the state in which they have stopped. -/
def State.readOutput (c : Config) (s : State) (frameNumber : ℕ) (b : HidlStreamBuffer) :
    Except State (StreamBuffer × State) :=
  if b.streamId ∉ c.outputStreams then .error s
  else
    match s.popOutput c frameNumber b with
    | none => .error s
    | some (buffer, s) =>
      match b.fence with
      | none => .error s
      | some release_fence => .ok (⟨b.streamId, buffer, b.status, release_fence⟩, s)

def State.readOutputs (c : Config) (s : State) (frameNumber : ℕ) :
    List HidlStreamBuffer → Except State (List StreamBuffer × State)
  | [] => .ok ([], s)
  | b :: bs =>
    match s.readOutput c frameNumber b with
    | .error s => .error s
    | .ok (output, s) =>
      match State.readOutputs c s frameNumber bs with
      | .error s => .error s
      | .ok (outputs, s) => .ok (output :: outputs, s)

/-- There is no state after a null pointer is read: the result has an input buffer, the camera
has no input stream. -/
def State.readInput (c : Config) (s : State) (frameNumber : ℕ) (b : HidlStreamBuffer) :
    Option (Except State (Option StreamBuffer × State)) :=
  if b.streamId = -1 then some (.ok (none, s))
  else
    c.inputStream.map fun id ↦
      if id ≠ b.streamId then .error s
      else
        match s.popInflightBuffer frameNumber b.streamId with
        | none => .error s
        | some (buffer, s) =>
          match b.fence with
          | none => .error s
          | some release_fence => .ok (some ⟨b.streamId, some buffer, b.status, release_fence⟩, s)

def State.processOneCaptureResultLocked (c : Config) (s : State) (result : HidlCaptureResult) :
    Option State :=
  match result.result, readPhysicalMetadata result.physicalCameraMetadata with
  | some metadata, some physcam_metadata =>
    match s.readOutputs c result.frameNumber result.outputBuffers with
    | .error s => some s
    | .ok (output_buffers, s) =>
      (s.readInput c result.frameNumber result.inputBuffer).map fun
        | .error s => s
        | .ok (input_buffer, s) =>
          s.processCaptureResult c ⟨result.frameNumber, metadata, output_buffers, input_buffer,
            result.partialResult, physcam_metadata⟩
  | _, _ => some s

/-! ### Flushing -/

def Config.getAllStreams (c : Config) : List (ℤ × StreamType) :=
  (c.inputStream.toList.map fun id ↦ (id, .CAMERA_STREAM_INPUT)) ++
    (c.outputStreams.map fun id ↦ (id, .CAMERA_STREAM_OUTPUT)) ++ c.deletedStreams

/-- The buffers that wait in the map go back, by increasing frame number. -/
def State.returnPending (c : Config) (s : State) : Outputs :=
  (s.inflightMap.entries.insertionSort fun a b ↦ a.1 ≤ b.1).foldl
    (fun o entry ↦ o.returnOutputBuffers c entry.2.pendingOutputBuffers 0 entry.2.outputSurfaces
      entry.2.resultExtras entry.2.errorBufStrategy (-1)) s.outputs

/-- A buffer that the HAL has not returned; there is no frame for one of the HAL buffer manager. -/
structure InflightBuffer where
  streamId : ℤ
  frameNumber : ℤ
  buffer : ℕ
  deriving DecidableEq, Repr

def State.drainInflightBuffers (s : State) : List (ℕ × ℤ) → List InflightBuffer × State
  | [] => ([], s)
  | (frameNumber, streamId) :: keys =>
    match s.popInflightBuffer frameNumber streamId with
    | none => State.drainInflightBuffers s keys
    | some (buffer, s) =>
      let (buffers, s) := State.drainInflightBuffers s keys
      (⟨streamId, frameNumber, buffer⟩ :: buffers, s)

def State.drainInflightRequestBuffers (s : State) : List ℕ → List InflightBuffer × State
  | [] => ([], s)
  | bufferId :: keys =>
    match s.popInflightRequestBuffer bufferId with
    | none => State.drainInflightRequestBuffers s keys
    | some ((streamId, buffer), s) =>
      let (buffers, s) := State.drainInflightRequestBuffers s keys
      (⟨streamId, -1, buffer⟩ :: buffers, s)

/-- A buffer goes back to the stream with its id. A frame number is passed as 64 bits. -/
def State.returnInflightBuffer (c : Config) (s : State) (b : InflightBuffer) : State :=
  match c.getAllStreams.find? fun stream ↦ stream.1 = b.streamId with
  | none => s
  | some (_, .CAMERA_STREAM_OUTPUT) =>
    let r : ReturnedBuffer :=
      ⟨b.streamId, b.buffer, .ERROR, 0, (b.frameNumber % 2 ^ 64).toNat, -1⟩
    { s with outputs := { s.outputs with returned := s.outputs.returned ++ [r] } }
  | some (_, .CAMERA_STREAM_INPUT) =>
    { s with returnedInputs := s.returnedInputs ++ [(b.streamId, b.buffer)] }

def State.flushInflightRequests (c : Config) (s : State) : State :=
  let s := { s with outputs := s.returnPending c, inflightMap := ∅ }
  let inflightKeys := s.mInflightBufferMap.keys
  let inflightRequestBufferKeys := s.mRequestedBufferMap.keys
  let (buffers, s) := s.drainInflightBuffers inflightKeys
  let (requested, s) := s.drainInflightRequestBuffers inflightRequestBufferKeys
  (buffers ++ requested).foldl (State.returnInflightBuffer c) s

/-! ### The system -/

def State.registerInFlight (s : State) (r : Registration) : State :=
  { s with inflightMap :=
      s.inflightMap.insert r.resultExtras.frameNumber (InFlightRequest.create r) }

/-- What the request thread and the HAL do. -/
inductive Label
  | registerInFlight (r : Registration)
  | pushInflightBuffer (frameNumber : ℕ) (streamId : ℤ) (buffer : ℕ)
  | pushInflightRequestBuffer (bufferId buf : ℕ) (streamId : ℤ)
  | notifyShutter (frame_number : ℕ) (timestamp : ℤ)
  | notifyError (frame_number : ℕ) (errorCode : Option ErrorCode)
      (error_stream : Option ErrorStream)
  | processCaptureResult (result : HalResult)
  | processOneCaptureResultLocked (result : HidlCaptureResult)
  | flushInflightRequests
  deriving DecidableEq, Repr

def State.step (c : Config) (s : State) : Label → Option State
  | .registerInFlight r => some (s.registerInFlight r)
  | .pushInflightBuffer frameNumber streamId buffer =>
    some (s.pushInflightBuffer frameNumber streamId buffer)
  | .pushInflightRequestBuffer bufferId buf streamId =>
    some (s.pushInflightRequestBuffer bufferId buf streamId)
  | .notifyShutter frame_number timestamp => some (s.notifyShutter c frame_number timestamp)
  | .notifyError frame_number errorCode error_stream =>
    some (s.notifyError c frame_number errorCode error_stream)
  | .processCaptureResult result => some (s.processCaptureResult c result)
  | .processOneCaptureResultLocked result => s.processOneCaptureResultLocked c result
  | .flushInflightRequests => some (s.flushInflightRequests c)

def Step (c : Config) : State → Label → State → Prop := Transition.ofPartial (State.step c)

/-- One output stream, partial results, and no metadata that needs a correction. -/
def Config.plain : Config where
  useHalBufManager := false
  usePartialResult := true
  numPartialResults := 2
  legacyClient := false
  listener := true
  outputStreams := [0]
  inputStream := none
  deletedStreams := []
  remappedKeys := []
  fixupMonochromeTags := some
  correctCaptureResult _ _ metadata physicalMetadatas := some (metadata, physicalMetadatas)
  getRotationTransform _ := none
  timesOut _ := false

/-- A request for one output buffer. -/
def Registration.plain (frameNumber : ℕ) : Registration where
  numBuffers := 1
  resultExtras := ⟨1, 0, frameNumber, 0, -1, -1, -1⟩
  hasInput := false
  hasAppCallback := true
  physicalCameraIds := []
  isStillCapture := false
  isZslCapture := false
  rotateAndCropAuto := false
  cameraIdsWithZoom := []
  outputSurfaces := []

end VirtualCamera.CameraService.InFlight
