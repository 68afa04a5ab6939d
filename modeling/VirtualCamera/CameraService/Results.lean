import VirtualCamera.CameraService.InFlight

namespace VirtualCamera.CameraService.InFlight

/-! ### Capture results -/

/-- `camera_capture_result`; the physical cameras come with their metadata. -/
structure HalResult where
  frame_number : ℕ
  result : Option CameraMetadata
  output_buffers : List StreamBuffer
  input_buffer : Option StreamBuffer
  partial_result : ℕ
  physcam_metadata : List PhysicalCaptureResultInfo
  deriving DecidableEq, Repr

/-- The first of the sets that has the camera is taken out. -/
def erasePhysicalCameraIdSet (physicalCameraIds : List (List String)) (id : String) :
    Option (List (List String)) :=
  if physicalCameraIds.any fun ids ↦ id ∈ ids then
    some (physicalCameraIds.eraseP fun ids ↦ id ∈ ids)
  else none

def receiveExtras (c : Config) (r : InFlightRequest) (result : HalResult) : InFlightRequest :=
  let r :=
    if result.partial_result ≠ 0 then
      { r with resultExtras := { r.resultExtras with partialResultCount := result.partial_result } }
    else r
  match result.result with
  | none => r
  | some metadata =>
    let physicalId := metadata.find ANDROID_LOGICAL_MULTI_CAMERA_ACTIVE_PHYSICAL_ID
    if c.legacyClient = false ∧ physicalId ≠ [] then
      { r with transform := (c.getRotationTransform physicalId).getD r.transform }
    else r

/-- The result carries only a part of the metadata. -/
def HalResult.isPartial (c : Config) (result : HalResult) : Bool :=
  c.usePartialResult ∧ result.result.isSome ∧ result.partial_result < c.numPartialResults

/-- The checks of the partial count. The functions that receive a part of a result give the
entry back, as an error when the result is dropped. -/
def receivePartial (c : Config) (r : InFlightRequest) (result : HalResult) :
    Except InFlightRequest InFlightRequest :=
  match result.result with
  | none => .ok r
  | some metadata =>
    if c.usePartialResult then
      if c.numPartialResults < result.partial_result ∨ result.partial_result < 1 then .error r
      else if result.isPartial c ∧ result.physcam_metadata ≠ [] then .error r
      else if result.isPartial c then
        .ok { r with collectedPartialResult := r.collectedPartialResult ++ metadata }
      else .ok r
    else .ok r

/-- Each physical camera is taken out of the ones that are expected. -/
def receivePhysical (r : InFlightRequest) :
    List PhysicalCaptureResultInfo → Except InFlightRequest InFlightRequest
  | [] => .ok r
  | p :: ps =>
    match erasePhysicalCameraIdSet r.physicalCameraIds p.mPhysicalCameraId with
    | none => .error r
    | some physicalCameraIds => receivePhysical { r with physicalCameraIds := physicalCameraIds } ps

def receiveFinal (c : Config) (r : InFlightRequest) (result : HalResult) :
    Except InFlightRequest (CameraMetadata × InFlightRequest) :=
  if result.result.isSome ∧ ¬ result.isPartial c then
    if r.physicalCameraIds.length ≠ result.physcam_metadata.length then .error r
    else if r.haveResultMetadata then .error r
    else
      match receivePhysical r result.physcam_metadata with
      | .error r => .error r
      | .ok r =>
        let collected := if c.usePartialResult then r.collectedPartialResult else []
        .ok (collected, { r with
          collectedPartialResult := if c.usePartialResult then [] else r.collectedPartialResult
          haveResultMetadata := true
          errorBufStrategy := .ERROR_BUF_RETURN_NOTIFY })
  else .ok ([], r)

/-- How many of the buffers of the request are returned with the result. -/
def numBuffersReturned (r : InFlightRequest) (result : HalResult) : ℕ :=
  result.output_buffers.length + if result.input_buffer.isSome ∧ r.hasInputBuffer then 1 else 0

def receiveBuffers (r : InFlightRequest) (result : HalResult) :
    Except InFlightRequest InFlightRequest :=
  let r := { r with numBuffersLeft := r.numBuffersLeft - numBuffersReturned r result }
  if r.numBuffersLeft < 0 then .error r
  else
    .ok { r with
      sensorTimestamp :=
        match (result.result.getD []).find ANDROID_SENSOR_TIMESTAMP with
        | [timestamp] => timestamp
        | _ => r.sensorTimestamp
      pendingOutputBuffers := r.pendingOutputBuffers ++ result.output_buffers }

/-- The buffers go back if the shutter has been notified. -/
def InFlightRequest.returnAfterShutter (c : Config) (r : InFlightRequest) (o : Outputs) :
    InFlightRequest × Outputs :=
  if r.shutterTimestamp ≠ 0 then r.returnAndRemovePendingOutputBuffers c o else (r, o)

/-- The final metadata waits in the entry for the shutter, and is sent if that has come. -/
def State.deliverMetadata (c : Config) (s : State) (r : InFlightRequest) (result : HalResult)
    (collectedPartialResult : CameraMetadata) : State × InFlightRequest :=
  match result.result with
  | none => (s, r)
  | some metadata =>
    if result.isPartial c then (s, r)
    else
      let r : InFlightRequest :=
        { r with physicalMetadatas := r.physicalMetadatas ++ result.physcam_metadata }
      if r.shutterTimestamp = 0 then
        (s, { r with
          pendingMetadata := metadata
          collectedPartialResult := collectedPartialResult })
      else if r.hasCallback then
        (s.sendCaptureResult c r metadata collectedPartialResult result.frame_number, r)
      else (s, r)

def State.deliverResult (c : Config) (s : State) (r : InFlightRequest) (result : HalResult)
    (collectedPartialResult : CameraMetadata) : State :=
  let (r, outputs) := r.returnAfterShutter c s.outputs
  let (s, r) := State.deliverMetadata c { s with outputs := outputs } r result collectedPartialResult
  s.removeInFlightRequestIfReadyLocked c result.frame_number r

/-- An input buffer goes back when the request has had one. -/
def State.returnInput (s : State) (hasInputBufferInRequest : Bool) (result : HalResult) : State :=
  match result.input_buffer with
  | none => s
  | some b =>
    if hasInputBufferInRequest then
      { s with returnedInputs := s.returnedInputs ++ b.buffer.toList.map fun h ↦ (b.stream, h) }
    else s

/-- What is left of the entry by a result that is dropped. -/
def State.drop (s : State) (frameNumber : ℕ) (r : InFlightRequest) : State :=
  { s.setErr with inflightMap := s.inflightMap.insert frameNumber r }

def State.sendPartial (c : Config) (s : State) (r : InFlightRequest) (result : HalResult) : State :=
  if result.isPartial c ∧ r.hasCallback then
    s.sendPartialCaptureResult c (result.result.getD []) r.resultExtras result.frame_number
  else s

def State.receive (c : Config) (s : State) (r : InFlightRequest) (result : HalResult) : State :=
  let r := receiveExtras c r result
  match receivePartial c r result with
  | .error r => s.drop result.frame_number r
  | .ok r =>
    let s := State.sendPartial c s r result
    match receiveFinal c r result with
    | .error r => s.drop result.frame_number r
    | .ok (collectedPartialResult, r) =>
      match receiveBuffers r result with
      | .error r => s.drop result.frame_number r
      | .ok r =>
        (State.deliverResult c s r result collectedPartialResult).returnInput r.hasInputBuffer result

def State.processCaptureResult (c : Config) (s : State) (result : HalResult) : State :=
  if result.result = none ∧ result.output_buffers = [] ∧ result.input_buffer = none then s.setErr
  else if c.usePartialResult = false ∧ result.result ≠ none ∧ result.partial_result ≠ 1 then s.setErr
  else
    match s.inflightMap.lookup result.frame_number with
    | none => s.setErr
    | some r => State.receive c s r result

/-! ### Notifications -/

/-- The extras of a request, with the frames that were completed last. -/
def State.shutterExtras (s : State) (extras : CaptureResultExtras) : CaptureResultExtras :=
  { extras with
    lastCompletedRegularFrameNumber := s.lastCompletedRegularFrameNumber
    lastCompletedReprocessFrameNumber := s.lastCompletedReprocessFrameNumber
    lastCompletedZslFrameNumber := s.lastCompletedZslFrameNumber }

def State.notify (s : State) (n : Notification) : State :=
  { s with outputs := { s.outputs with notifications := s.outputs.notifications ++ [n] } }

def State.shutter (c : Config) (s : State) (r : InFlightRequest) (frame_number : ℕ)
    (timestamp : ℤ) : State :=
  let s := s.setNextShutter (frame_number + 1) r.order
  let r := { r with shutterTimestamp := timestamp }
  let r :=
    if r.hasCallback ∧ c.listener then
      { r with resultExtras := State.shutterExtras s r.resultExtras }
    else r
  let s :=
    if r.hasCallback ∧ c.listener then State.notify s (.shutter r.resultExtras timestamp) else s
  let s :=
    if r.hasCallback then
      s.sendCaptureResult c r r.pendingMetadata r.collectedPartialResult frame_number
    else s
  let (r, outputs) := r.returnAndRemovePendingOutputBuffers c s.outputs
  State.removeInFlightRequestIfReadyLocked c { s with outputs := outputs } frame_number r

def State.notifyShutter (c : Config) (s : State) (frame_number : ℕ) (timestamp : ℤ) : State :=
  match s.inflightMap.lookup frame_number with
  | none => s.setErr
  | some r =>
    if frame_number < s.nextShutter r.order then s.setErr
    else State.shutter c s r frame_number timestamp

structure ErrorStream where
  id : ℤ
  physicalCameraId : String
  deriving DecidableEq, Repr

def errorNotification (errorCode : ErrorCode) (extras : CaptureResultExtras)
    (error_stream : Option ErrorStream) : Notification :=
  .error errorCode extras ((error_stream.map ErrorStream.id).getD 0)

def State.requestError (c : Config) (s : State) (r : InFlightRequest) (frame_number : ℕ)
    (errorCode : ErrorCode) : State :=
  let r := { r with
    requestStatus := some errorCode
    skipResultMetadata := true
    errorBufStrategy :=
      if errorCode = .ERROR_CAMERA_RESULT then .ERROR_BUF_RETURN_NOTIFY else .ERROR_BUF_RETURN }
  s.removeInFlightRequestIfReadyLocked c frame_number r

def physicalError (errorCode : ErrorCode) (error_stream : Option ErrorStream) : Option String :=
  if errorCode = .ERROR_CAMERA_RESULT then
    error_stream.bind fun stream ↦
      if stream.physicalCameraId = "" then none else some stream.physicalCameraId
  else none

def State.report (c : Config) (s : State) (errorCode : ErrorCode) (extras : CaptureResultExtras)
    (error_stream : Option ErrorStream) : State :=
  if c.listener then State.notify s (errorNotification errorCode extras error_stream) else s

/-- A physical camera that is not part of the request is not reported. -/
def State.notifyRequestError (c : Config) (s : State) (frame_number : ℕ) (errorCode : ErrorCode)
    (error_stream : Option ErrorStream) : State :=
  match s.inflightMap.lookup frame_number with
  | none => s.report c errorCode ⟨0, 0, frame_number, 0, -1, -1, -1⟩ error_stream
  | some r =>
    match physicalError errorCode error_stream with
    | some physicalCameraId =>
      let r := { r with requestStatus := some errorCode }
      match erasePhysicalCameraIdSet r.physicalCameraIds physicalCameraId with
      | none => { s with inflightMap := s.inflightMap.insert frame_number r }
      | some physicalCameraIds =>
        let r := { r with physicalCameraIds := physicalCameraIds }
        State.report c { s with inflightMap := s.inflightMap.insert frame_number r } errorCode
          r.resultExtras error_stream
    | none =>
      (s.requestError c r frame_number errorCode).report c errorCode r.resultExtras error_stream

/-- There is no code for an unknown error. -/
def State.notifyError (c : Config) (s : State) (frame_number : ℕ) (errorCode : Option ErrorCode)
    (error_stream : Option ErrorStream) : State :=
  match errorCode with
  | some .ERROR_CAMERA_DEVICE | none => s.setErr
  | some .ERROR_CAMERA_BUFFER => s
  | some errorCode => State.notifyRequestError c s frame_number errorCode error_stream

end VirtualCamera.CameraService.InFlight
