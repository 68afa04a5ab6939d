import VirtualCamera.Library.Transition

namespace VirtualCamera.CaptureSequencer

open Library.Transition

inductive AeState
  | INACTIVE
  | SEARCHING
  | CONVERGED
  | LOCKED
  | FLASH_REQUIRED
  | PRECAPTURE
  deriving DecidableEq, Repr

/-- `Parameters::State`. -/
inductive ParametersState
  | DISCONNECTED
  | STOPPED
  | WAITING_FOR_PREVIEW_WINDOW
  | PREVIEW
  | RECORD
  | STILL_CAPTURE
  | VIDEO_SNAPSHOT
  deriving DecidableEq, Repr

inductive ErrorCode
  | ERROR_CAMERA_DISCONNECTED
  | ERROR_CAMERA_DEVICE
  | ERROR_CAMERA_SERVICE
  | ERROR_CAMERA_REQUEST
  | ERROR_CAMERA_RESULT
  | ERROR_CAMERA_BUFFER
  deriving DecidableEq, Repr

def kCaptureRequestIdStart : ℤ := 30000000
def kCaptureRequestIdEnd : ℤ := 40000000
def kMaxTimeoutsForPrecaptureStart : ℤ := 10
def kMaxTimeoutsForPrecaptureEnd : ℤ := 20
def kMaxTimeoutsForCaptureEnd : ℤ := 40
def kMaxRetryCount : ℕ := 3

/-- Where the thread is: at the start of the manager of a state, in one of the waits that release
`mInputMutex`, or between two steps of `manageDone`. -/
inductive Position
  | IDLE
  | START
  | ZSL_START
  | ZSL_WAITING
  | ZSL_REPROCESSING
  | STANDARD_START
  | STANDARD_PRECAPTURE_WAIT
  | newNotifyWait
  | STANDARD_CAPTURE
  | STANDARD_CAPTURE_WAIT
  | shutterNotifyWait
  | newFrameWait
  | newCaptureWait
  | DONE
  | notBusy
  | discarded
  | accepted
  | sent
  deriving DecidableEq, Repr

/-- Why a capture came to its end. -/
inductive Ending
  | notSubmitted
  | shutterTimedOut
  | retriesExceeded
  | timedOut
  | captured
  deriving DecidableEq, Repr

/-- The end of a capture, the notifications received before its start, and the still image that
went to the client with the notifications received before it. -/
structure Outcome (B : Type) where
  ending : Ending
  startedAt : ℕ
  image : Option (B × ℕ)
  deriving DecidableEq, Repr

/-- What the client, its parameters, the device and the clock answer to one step of the thread.
Each `Bool` that names a call says that the call succeeds. -/
structure Client where
  timedOut : Bool := false
  updateCaptureRequest : Bool := true
  useZeroShutterLag : Bool := false
  state : ParametersState := .STILL_CAPTURE
  flashModeOn : Bool := false
  precaptureTriggerCounter : ℤ := 0
  zslProcessor : Bool := true
  pushToReprocess : Bool := true
  createJpegStream : Bool := true
  setUpRequest : Bool := true
  stopStream : Bool := true
  capture : Bool := true
  waitUntilDrained : Bool := true
  remoteCallback : Bool := true

/-- `received` counts the notifications, `bufferAt` is its value at the last image, `startedAt` at
the last accepted `startCapture` and `captureStart` at that of the capture that runs. The
identifier and the timestamp of the last result and image only go to the log. -/
structure State (B : Type) where
  mStartCapture : Bool := false
  mBusy : Bool := false
  mNewAEState : Bool := false
  mAEState : AeState
  mAETriggerId : ℤ
  mNewFrameReceived : Bool := false
  mNewFrameId : ℤ := 0
  mNewCaptureReceived : Bool := false
  mNewCaptureErrorCnt : ℕ := 0
  mCaptureTimestamp : ℤ := 0
  mCaptureBuffer : Option B := none
  mShutterNotified : Bool := false
  mHalNotifiedShutter : Bool := false
  mShutterCaptureId : ℤ := -1
  position : Position := .IDLE
  mTriggerId : ℤ := 0
  mTimeoutCount : ℤ := 0
  mAeInPrecapture : Bool := false
  mCaptureId : ℤ := kCaptureRequestIdStart
  mRangeListeners : List (ℤ × ℤ) := []
  received : ℕ := 0
  bufferAt : ℕ := 0
  startedAt : ℕ := 0
  captureStart : ℕ := 0
  ending : Ending := .captured
  outcomes : List (Outcome B) := []
  deriving DecidableEq

/-- `captureStreamId` is that of the client, when it is still there. -/
inductive Label (B : Type)
  | startCapture
  | notifyAutoExposure (newState : AeState) (triggerId : ℤ)
  | notifyShutter (requestId : ℤ)
  | notifyError (errorCode : ErrorCode) (requestId errorStreamId : ℤ)
      (captureStreamId : Option ℤ)
  | onResultAvailable (requestId : ℤ)
  | onCaptureAvailable (timestamp : ℤ) (captureBuffer : Option B) (captureError : Bool)
  | threadLoop (client : Client)

variable {B : Type}

namespace State

/-- The constructor leaves the exposure state of the notifications as it finds it. -/
def create (mAEState : AeState) (mAETriggerId : ℤ) : State B :=
  { mAEState := mAEState, mAETriggerId := mAETriggerId }

/-! ### Calls of other threads -/

def startCapture (s : State B) : State B :=
  if s.mBusy then s
  else if s.mStartCapture then s
  else { s with mStartCapture := true, startedAt := s.received }

def notifyAutoExposure (s : State B) (newState : AeState) (triggerId : ℤ) : State B :=
  { s with mAEState := newState, mAETriggerId := triggerId, mNewAEState := true }

def notifyShutter (s : State B) (requestId : ℤ) : State B :=
  { s with
    received := s.received + 1
    mHalNotifiedShutter := s.mHalNotifiedShutter || requestId = s.mShutterCaptureId }

def onCaptureAvailable (s : State B) (timestamp : ℤ) (captureBuffer : Option B)
    (captureError : Bool) : State B :=
  { s with
    received := s.received + 1
    bufferAt := s.received
    mCaptureTimestamp := timestamp
    mCaptureBuffer := captureBuffer
    mNewCaptureReceived := true
    mNewCaptureErrorCnt :=
      if s.mNewCaptureReceived then s.mNewCaptureErrorCnt
      else if captureError then s.mNewCaptureErrorCnt + 1
      else 0 }

/-- Whether an error notification says that the JPEG of the capture is lost. -/
def jpegBufferLost (s : State B) (errorCode : ErrorCode) (requestId errorStreamId : ℤ)
    (captureStreamId : Option ℤ) : Bool :=
  match errorCode with
  | .ERROR_CAMERA_BUFFER => captureStreamId = some errorStreamId
  | .ERROR_CAMERA_REQUEST => requestId = s.mShutterCaptureId
  | _ => false

def notifyError (s : State B) (errorCode : ErrorCode) (requestId errorStreamId : ℤ)
    (captureStreamId : Option ℤ) : State B :=
  if s.jpegBufferLost errorCode requestId errorStreamId captureStreamId then
    s.onCaptureAvailable 0 none true
  else { s with received := s.received + 1 }

def onResultAvailable (s : State B) (requestId : ℤ) : State B :=
  { s with received := s.received + 1, mNewFrameId := requestId, mNewFrameReceived := true }

/-! ### The thread -/

def registerFrameListener (s : State B) (minId maxId : ℤ) : State B :=
  if (minId, maxId) ∈ s.mRangeListeners then s
  else { s with mRangeListeners := s.mRangeListeners ++ [(minId, maxId)] }

def removeFrameListener (s : State B) (minId maxId : ℤ) : State B :=
  { s with mRangeListeners := s.mRangeListeners.filter (· ≠ (minId, maxId)) }

def done (s : State B) (ending : Ending) : State B :=
  { s with position := .DONE, ending := ending }

def manageIdle (s : State B) : State B :=
  if s.mStartCapture then
    { s with
      mStartCapture := false
      mBusy := true
      captureStart := s.startedAt
      position := .START }
  else s

def manageStart (s : State B) (client : Client) : State B :=
  if !client.updateCaptureRequest then s.done .notSubmitted
  else
    { s with
      mShutterCaptureId := s.mCaptureId
      mHalNotifiedShutter := false
      mShutterNotified := false
      position :=
        if client.useZeroShutterLag && client.state = .STILL_CAPTURE && !client.flashModeOn then
          .ZSL_START
        else .STANDARD_START }

def manageZslStart (s : State B) (client : Client) : State B :=
  if !client.zslProcessor then s.done .notSubmitted
  else
    let s := s.registerFrameListener s.mCaptureId (s.mCaptureId + 1)
    if !client.pushToReprocess then { s with position := .STANDARD_START }
    else
      { s with
        mShutterNotified := true
        mTimeoutCount := kMaxTimeoutsForCaptureEnd
        position := .STANDARD_CAPTURE_WAIT }

def manageStandardStart (s : State B) (client : Client) : State B :=
  let s := s.registerFrameListener s.mCaptureId (s.mCaptureId + 1)
  if !client.flashModeOn && s.mAEState = .CONVERGED then { s with position := .STANDARD_CAPTURE }
  else
    { s with
      mTriggerId := client.precaptureTriggerCounter
      mAeInPrecapture := false
      mTimeoutCount := kMaxTimeoutsForPrecaptureStart
      position := .STANDARD_PRECAPTURE_WAIT }

/-- `manageStandardPrecaptureWait` after its wait. -/
def precaptureNotified (s : State B) : State B :=
  if s.mTimeoutCount ≤ 0 then { s with position := .STANDARD_CAPTURE }
  else if s.mNewAEState then
    if !s.mAeInPrecapture then
      if s.mAETriggerId = s.mTriggerId then
        if s.mAEState = .PRECAPTURE then
          { s with
            mAeInPrecapture := true
            mTimeoutCount := kMaxTimeoutsForPrecaptureEnd
            mNewAEState := false
            position := .STANDARD_PRECAPTURE_WAIT }
        else if s.mAEState = .CONVERGED ∨ s.mAEState = .FLASH_REQUIRED then
          { s with position := .STANDARD_CAPTURE }
        else { s with mNewAEState := false, position := .STANDARD_PRECAPTURE_WAIT }
      else { s with mNewAEState := false, position := .STANDARD_PRECAPTURE_WAIT }
    else if s.mAETriggerId = s.mTriggerId ∧ s.mAEState ≠ .PRECAPTURE then
      { s with position := .STANDARD_CAPTURE }
    else { s with mNewAEState := false, position := .STANDARD_PRECAPTURE_WAIT }
  else { s with position := .STANDARD_PRECAPTURE_WAIT }

/-- `manageStandardPrecaptureWait` at the head of its loop. -/
def manageStandardPrecaptureWait (s : State B) : State B :=
  if !s.mNewAEState then { s with position := .newNotifyWait } else s.precaptureNotified

/-- Whether the capture request is set up and reaches the device. -/
def submits (client : Client) : Bool :=
  client.createJpegStream && client.setUpRequest &&
    (client.state ≠ .STILL_CAPTURE || client.stopStream) && client.capture

def manageStandardCapture (s : State B) (client : Client) : State B :=
  if submits client then
    { s with mTimeoutCount := kMaxTimeoutsForCaptureEnd, position := .STANDARD_CAPTURE_WAIT }
  else s.done .notSubmitted

/-- `manageStandardCaptureWait` after its waits. -/
def captureNotified (s : State B) : State B :=
  if s.mNewCaptureReceived ∧ kMaxRetryCount < s.mNewCaptureErrorCnt then s.done .retriesExceeded
  else if s.mNewCaptureReceived ∧ 0 < s.mNewCaptureErrorCnt then
    { s with mNewCaptureReceived := false, position := .STANDARD_CAPTURE }
  else if s.mTimeoutCount ≤ 0 then s.done .timedOut
  else if s.mNewFrameReceived ∧ s.mNewCaptureReceived then
    let s := s.removeFrameListener s.mCaptureId (s.mCaptureId + 1)
    { s with mNewFrameReceived := false, mNewCaptureReceived := false }.done .captured
  else { s with position := .STANDARD_CAPTURE_WAIT }

/-- `manageStandardCaptureWait` at the head of its loop for the image. -/
def waitForCapture (s : State B) : State B :=
  if s.mNewFrameReceived && !s.mNewCaptureReceived then { s with position := .newCaptureWait }
  else s.captureNotified

/-- `manageStandardCaptureWait` at the head of its loop for the metadata result. -/
def waitForFrame (s : State B) : State B :=
  if !s.mNewFrameReceived then { s with position := .newFrameWait } else s.waitForCapture

/-- The shutter notification has gone to the client. -/
def shutterNotify (s : State B) : State B := { s with mShutterNotified := true }

/-- `manageStandardCaptureWait` at the head of its loop for the shutter. -/
def manageStandardCaptureWait (s : State B) : State B :=
  if s.mHalNotifiedShutter then s.shutterNotify.waitForFrame
  else if s.mTimeoutCount ≤ 0 then s.done .shutterTimedOut
  else { s with position := .shutterNotifyWait }

/-- The first steps of `manageDone`, until another capture can be started. -/
def manageDone (s : State B) : State B :=
  { s with
    mCaptureId :=
      if kCaptureRequestIdEnd ≤ s.mCaptureId + 1 then kCaptureRequestIdStart
      else s.mCaptureId + 1
    mBusy := false
    position := .notBusy }

/-- Whether `manageDone` may send an image, by the state of the client. -/
def sendsImage (client : Client) : Bool :=
  match client.state with
  | .STILL_CAPTURE => client.waitUntilDrained
  | .VIDEO_SNAPSHOT => true
  | _ => false

def sendImage (s : State B) (client : Client) (ok : Bool) : State B :=
  { s with
    position := .sent
    outcomes := s.outcomes ++
      [⟨s.ending, s.captureStart,
        if ok && client.remoteCallback then s.mCaptureBuffer.map (·, s.bufferAt) else none⟩] }

def timeOut (s : State B) : State B := { s with mTimeoutCount := s.mTimeoutCount - 1 }

/-- What the thread does until it waits or lets others in. -/
def threadLoop (s : State B) (client : Client) : State B :=
  match s.position with
  | .IDLE => s.manageIdle
  | .START => s.manageStart client
  | .ZSL_START => s.manageZslStart client
  | .ZSL_WAITING => s.done .notSubmitted
  | .ZSL_REPROCESSING => { s with position := .START }
  | .STANDARD_START => s.manageStandardStart client
  | .STANDARD_PRECAPTURE_WAIT => s.manageStandardPrecaptureWait
  | .newNotifyWait =>
    if client.timedOut then (s.timeOut).precaptureNotified
    else s.manageStandardPrecaptureWait
  | .STANDARD_CAPTURE => s.manageStandardCapture client
  | .STANDARD_CAPTURE_WAIT => s.manageStandardCaptureWait
  | .shutterNotifyWait =>
    if client.timedOut then { s.timeOut with position := .STANDARD_CAPTURE_WAIT }
    else s.manageStandardCaptureWait
  | .newFrameWait =>
    if client.timedOut then (s.timeOut).waitForCapture else s.waitForFrame
  | .newCaptureWait =>
    if client.timedOut then (s.timeOut).captureNotified else s.waitForCapture
  | .DONE => s.manageDone
  | .notBusy => { s with position := if sendsImage client then .accepted else .discarded }
  | .discarded => s.sendImage client false
  | .accepted => s.sendImage client true
  | .sent => { s with mCaptureBuffer := none, position := .IDLE }

def step (s : State B) : Label B → State B
  | .startCapture => s.startCapture
  | .notifyAutoExposure newState triggerId => s.notifyAutoExposure newState triggerId
  | .notifyShutter requestId => s.notifyShutter requestId
  | .notifyError errorCode requestId errorStreamId captureStreamId =>
    s.notifyError errorCode requestId errorStreamId captureStreamId
  | .onResultAvailable requestId => s.onResultAvailable requestId
  | .onCaptureAvailable timestamp captureBuffer captureError =>
    s.onCaptureAvailable timestamp captureBuffer captureError
  | .threadLoop client => s.threadLoop client

def Step : State B → Label B → State B → Prop := ofPartial fun s l ↦ some (s.step l)

end State

end VirtualCamera.CaptureSequencer
