import VirtualCamera.Library.SlotQueue
import VirtualCamera.RingBuffer.Finder
import VirtualCamera.Zsl.Metadata

namespace VirtualCamera.Zsl

open Library SlotQueue Memory Transition
open CameraService.InFlight (CameraMetadata ANDROID_REQUEST_FRAME_COUNT ANDROID_REQUEST_ID
  ANDROID_SENSOR_TIMESTAMP)
open RingBuffer (BufferItem Rect)

def NO_STREAM : ℤ := -1

def kDefaultMaxPipelineDepth : UInt8 := 4

inductive ProcessorState
  | RUNNING
  | LOCKED
  deriving DecidableEq, Repr

structure QueueBufferInput where
  timestamp : ℤ
  crop : Rect
  scalingMode : ℕ
  transform : ℕ
  fence : ℕ
  deriving DecidableEq, Repr

/-- The queue of the input stream; graphic buffers are known by a number. -/
abbrev InputQueue (Q : Type) := Contract Q ℕ QueueBufferInput

abbrev InputItem := Item ℕ QueueBufferInput

/-- What a call that creates a stream answers, with the id when one was made. -/
structure Created where
  res : ℤ := OK
  id : Option ℤ
  deriving DecidableEq, Repr

/-- The request of a call of `pushToReprocess`, and what the calls answer that it makes out of the
processor. `edit` is the status of an edit of a tag; `needConfig` is whether `capture` configures
the streams first. -/
structure Reprocess where
  requestId : ℤ
  client : Bool := true
  getInputBufferProducer : ℤ := OK
  addReleaseFenceLocked : RingBuffer.StatusT := .OK
  edit : ℕ → ℤ := fun _ ↦ OK
  captureStreamId : ℤ := 0
  stopStream : ℤ := OK
  parameters : Parameters
  stillTemplate : CameraMetadata := []
  needConfig : Bool := false
  capture : ℤ := OK

/-- `mInputProducer` is whether there is one. From `inputQueue` on it is the state of the device:
the queue of the input stream, the reprocess requests that wait for their input buffer, the
buffers that the input stream has handed out, the calls of `onBufferReleased` that have still to
get `mInputMutex`, and the requests that were given an input buffer, with it. -/
structure State (Q : Type) where
  mLatestClearedBufferTimestamp : ℤ := 0
  mState : ProcessorState := .RUNNING
  mZslStreamId : ℤ := NO_STREAM
  mInputStreamId : ℤ := NO_STREAM
  mBufferQueueDepth : { n : ℤ // 0 < n ∧ n ≤ INT_MAX }
  mFrameListDepth : ℕ
  mFrameList : List CameraMetadata
  mFrameListHead : ℕ := 0
  mLatestCapturedRequest : CameraMetadata := []
  mHasFocuser : Bool
  mInputBuffer : Option BufferItem := none
  mProducer : Option RingBuffer.State := none
  mInputProducer : Bool := false
  mInputProducerSlot : ℤ := -1
  mBuffersToDetach : ℕ := 0
  inputQueue : Q
  requests : List CameraMetadata := []
  mBuffersInFlight : List InputItem := []
  onBufferReleased : ℕ := 0
  submitted : List (CameraMetadata × InputItem) := []

/-- `outcomes` and `addReleaseFenceLocked` are what the ring's base answers. -/
inductive Label
  | onResultAvailable (mMetadata : CameraMetadata)
  | updateStream (client : Bool) (createInputStream createStream : Created)
  | deleteStream (client : Bool) (deleteZslStream deleteInputStream : ℤ)
  | onFrameAvailable (o : RingBuffer.Outcome) (acquired : Option (BufferItem × ℕ))
  | pushToReprocess (c : Reprocess)
  | clearZslQueue (addReleaseFenceLocked : RingBuffer.StatusT) (outcomes : ℕ → RingBuffer.Outcome)
  | notifyInputReleased
  | threadLoop (addReleaseFenceLocked : ℕ → RingBuffer.StatusT)
  | takeRequest (res : ℤ)
  | abortRequest
  | configureStreams
  | returnInputBuffer (buffer : ℕ)

variable {Q : Type}

namespace State

def mBufferQueueDepthOf (pipelineMaxDepth : UInt8) : { n : ℤ // 0 < n ∧ n ≤ INT_MAX } :=
  ⟨pipelineMaxDepth.toNat + 1, by
    have hlt := pipelineMaxDepth.toNat_lt
    unfold INT_MAX
    omega⟩

def create (B : InputQueue Q) (pipelineMaxDepth : Option UInt8) (mHasFocuser : Bool) : State Q :=
  let depth := pipelineMaxDepth.getD kDefaultMaxPipelineDepth
  { mBufferQueueDepth := mBufferQueueDepthOf depth
    mFrameListDepth := depth.toNat
    mFrameList := List.replicate depth.toNat []
    mHasFocuser := mHasFocuser
    inputQueue := B.new }

/-- `none` when a null pointer is read, or the frame list is too short. -/
def onResultAvailable (mMetadata : CameraMetadata) (s : State Q) : Option (State Q) :=
  match mMetadata.find ANDROID_SENSOR_TIMESTAMP with
  | [] => none
  | timestamp :: _ =>
    if mMetadata.find ANDROID_REQUEST_FRAME_COUNT = [] then some s
    else if s.mState ≠ .RUNNING then some s
    else if timestamp ≤ s.mLatestClearedBufferTimestamp then some s
    else if s.mFrameListHead < s.mFrameList.length then
      some { s with
        mFrameList := s.mFrameList.set s.mFrameListHead mMetadata
        mFrameListHead := (s.mFrameListHead + 1) % s.mFrameListDepth }
    else none

/-! ### Streams -/

def createInputStream (B : InputQueue Q) (created : Created) (s : State Q) : State Q :=
  match created.id with
  | none => s
  | some id => { s with
      mInputStreamId := id
      inputQueue := B.new
      requests := []
      mBuffersInFlight := [] }

def createZslStream (created : Created) (s : State Q) : State Q :=
  let s := { s with mProducer := some (.create s.mBufferQueueDepth) }
  match created.id with
  | none => s
  | some id => { s with mZslStreamId := id }

def updateStream (B : InputQueue Q) (client : Bool) (createInputStream createStream : Created)
    (s : State Q) : ℤ × State Q :=
  if !client then (INVALID_OPERATION, s)
  else
    let create := s.mInputStreamId = NO_STREAM
    let s := if create then s.createInputStream B createInputStream else s
    if create ∧ createInputStream.res ≠ OK then (createInputStream.res, s)
    else if s.mZslStreamId = NO_STREAM then (createStream.res, s.createZslStream createStream)
    else (OK, s)

/-- The requests that wait for a buffer of the input stream get none from a deleted stream, which
has all its buffers back. -/
def forgetInputStream (B : InputQueue Q) (s : State Q) : State Q :=
  { s with
    mInputStreamId := NO_STREAM
    inputQueue := B.new
    requests := []
    mBuffersInFlight := [] }

def deleteStream (B : InputQueue Q) (client : Bool) (deleteZslStream deleteInputStream : ℤ)
    (s : State Q) : ℤ × State Q :=
  if (s.mZslStreamId ≠ NO_STREAM ∨ s.mInputStreamId ≠ NO_STREAM) ∧ !client then
    (INVALID_OPERATION, s)
  else if s.mZslStreamId ≠ NO_STREAM ∧ deleteZslStream ≠ OK then (deleteZslStream, s)
  else
    let s := { s with mZslStreamId := NO_STREAM }
    if s.mInputStreamId ≠ NO_STREAM then
      if deleteInputStream ≠ OK then (deleteInputStream, s)
      else (OK, { s.forgetInputStream B with mInputProducer := false })
    else (OK, { s with mInputProducer := false })

/-! ### The input stream -/

/-- What the input stream acquires, for a stream that is configured. -/
def getInputBuffer (B : InputQueue Q) (s : State Q) : Option InputItem × State Q :=
  let (res, item, inputQueue) := B.acquire s.inputQueue
  match item with
  | none => (none, { s with inputQueue })
  | some item =>
    if res ≠ OK then (none, { s with inputQueue })
    else (some item, { s with inputQueue, mBuffersInFlight := s.mBuffersInFlight ++ [item] })

/-- The processor listens to the releases once it is connected. -/
def releaseBuffer (B : InputQueue Q) (item : InputItem) (s : State Q) : State Q :=
  let (res, inputQueue) := B.release s.inputQueue item
  { s with
    inputQueue
    onBufferReleased := if res = OK ∧ s.mInputProducer then s.onBufferReleased + 1
      else s.onBufferReleased }

def returnInputBuffer (B : InputQueue Q) (buffer : ℕ) (s : State Q) : Option (State Q) :=
  (s.mBuffersInFlight.find? fun item ↦ item.buffer = buffer).map fun item ↦
    { s with
      mBuffersInFlight := s.mBuffersInFlight.eraseP fun item ↦ item.buffer = buffer }.releaseBuffer
      B item

/-- The request thread takes the next request and its input buffer. `res` is the answer of the
checks and the wait of `getInputBuffer` before it acquires; a request without buffer is skipped. -/
def takeRequest (B : InputQueue Q) (res : ℤ) (s : State Q) : Option (State Q) :=
  match s.requests with
  | [] => none
  | request :: requests =>
    let s := { s with requests }
    if res ≠ OK then some s
    else
      match s.getInputBuffer B with
      | (none, s) => some s
      | (some item, s) => some { s with submitted := s.submitted ++ [(request, item)] }

/-- The request thread is cleared, one request at a time. -/
def abortRequest (B : InputQueue Q) (s : State Q) : Option (State Q) :=
  match s.requests with
  | [] => none
  | _ :: requests =>
    match { s with requests }.getInputBuffer B with
    | (none, s) => some s
    | (some item, s) => s.returnInputBuffer B item.buffer

/-- The loop of `configureStreamsLocked` over the queued input buffers. -/
def abortInputBuffers (B : InputQueue Q) : ℕ → State Q → State Q
  | 0, s => s
  | fuel + 1, s =>
    match s.getInputBuffer B with
    | (none, s) => s
    | (some item, s) => abortInputBuffers B fuel ((s.returnInputBuffer B item.buffer).getD s)

/-- Each buffer that is acquired leaves the queue, so that this many rounds are enough. -/
def configureStreams (B : InputQueue Q) (s : State Q) : State Q :=
  s.abortInputBuffers B ((B.queued s.inputQueue).length + 1)

/-! ### Reprocessing -/

def getCandidateTimestampLocked (s : State Q) : Candidate :=
  Candidate.loop s.mHasFocuser {} 0 s.mFrameList

/-- The handle that `mInputBuffer` has ends. It is of no use to a ring of another stream. -/
def clearInputBuffer (addReleaseFenceLocked : RingBuffer.StatusT) (s : State Q) : State Q :=
  match s.mInputBuffer with
  | none => s
  | some item => { s with
      mInputBuffer := none
      mProducer := s.mProducer.map fun ring ↦
        (ring.destroyHandle (ring.handles.idxOf item) addReleaseFenceLocked).getD ring }

/-- The part of `pushToReprocess` that makes sure that there is a producer. -/
def retrieveInputProducer (B : InputQueue Q) (c : Reprocess) (s : State Q) : ℤ × State Q :=
  if s.mInputProducer then (OK, s)
  else if c.getInputBufferProducer ≠ OK then (c.getInputBufferProducer, s)
  else
    let (res, inputQueue) := B.connect s.inputQueue
    (res, { s with inputQueue, mInputProducer := true })

/-- The buffer that is pinned for a timestamp. -/
def selected (ring : RingBuffer.State) (timestamp : ℤ) : Option BufferItem :=
  (RingBuffer.select (RingBuffer.TimestampFinder.comparator timestamp) none
    ring.mBufferItemList).map RingBuffer.RingBufferItem.toBufferItem

/-- `mInputBuffer = mProducer->pinSelectedBuffer(...)`: the old handle ends when the new one is
there. -/
def pinInputBuffer (addReleaseFenceLocked : RingBuffer.StatusT) (ring : RingBuffer.State)
    (timestamp : ℤ) (s : State Q) : State Q :=
  let pinned := ring.pinSelectedBuffer (RingBuffer.TimestampFinder.comparator timestamp)
  { { s with mProducer := some pinned }.clearInputBuffer addReleaseFenceLocked with
    mInputBuffer := selected ring timestamp }

def queueInput (item : BufferItem) : QueueBufferInput where
  timestamp := item.mTimestamp
  crop := item.mCrop
  scalingMode := item.mScalingMode
  transform := item.mTransform
  fence := item.mFence

def queueInputBuffer (B : InputQueue Q) (item : BufferItem) (s : State Q) : ℤ × State Q :=
  let (rc, slot, inputQueue) := B.attach s.inputQueue item.mGraphicBuffer
  if rc ≠ OK then (rc, { s with inputQueue })
  else
    let (rc, inputQueue) := B.queue inputQueue slot (queueInput item)
    (rc, { s with inputQueue, mInputProducerSlot := slot })

/-- `none` when there is no ring. The ring and the queue have locks of their own; what is done to
them by others during the call could be done before it or after it. -/
def enqueueInputBufferByTimestamp (B : InputQueue Q) (c : Reprocess) (timestamp : ℤ)
    (s : State Q) : Option (ℤ × State Q) :=
  s.mProducer.map fun ring ↦
    let s := s.pinInputBuffer c.addReleaseFenceLocked ring timestamp
    match s.mInputBuffer with
    | none => (NO_BUFFER_AVAILABLE, s)
    | some item => s.queueInputBuffer B item

/-- `capture` of the device, which queues the request unless it fails. -/
def capture (B : InputQueue Q) (c : Reprocess) (request : CameraMetadata) (s : State Q) :
    ℤ × State Q :=
  let s := { s with mLatestCapturedRequest := request }
  let s := if c.needConfig then s.configureStreams B else s
  if c.capture ≠ OK then (c.capture, s)
  else (OK, { s with requests := s.requests ++ [request], mState := .LOCKED })

def reprocessEdits (c : Reprocess) (s : State Q) : List Edit :=
  [.update ANDROID_REQUEST_TYPE [ANDROID_REQUEST_TYPE_REPROCESS],
    .update ANDROID_REQUEST_INPUT_STREAMS [s.mInputStreamId],
    .update ANDROID_CONTROL_CAPTURE_INTENT [ANDROID_CONTROL_CAPTURE_INTENT_STILL_CAPTURE],
    .update ANDROID_REQUEST_OUTPUT_STREAMS [c.captureStreamId],
    .update ANDROID_REQUEST_ID [c.requestId]]

/-- The part of `pushToReprocess` after the buffer has been queued. -/
def sendRequest (B : InputQueue Q) (c : Reprocess) (metadataIdx : ℕ) (s : State Q) :
    ℤ × State Q :=
  let request := s.mFrameList.getD metadataIdx []
  match request.find ANDROID_CONTROL_AE_STATE with
  | [] => (BAD_VALUE, s)
  | aeState :: _ =>
    if aeState ≠ ANDROID_CONTROL_AE_STATE_CONVERGED ∧ aeState ≠ ANDROID_CONTROL_AE_STATE_LOCKED then
      (NOT_ENOUGH_DATA, s)
    else
      let (res, request) := edit c.edit (s.reprocessEdits c) request
      if res ≠ OK then (INVALID_OPERATION, s)
      else if c.stopStream ≠ OK then (INVALID_OPERATION, s)
      else
        let (res, request) := c.parameters.updateRequestJpeg c.edit request
        if res ≠ OK then (res, s)
        else s.capture B c (updateRequestWithDefaultStillRequest c.edit c.stillTemplate request)

def pushToReprocess (B : InputQueue Q) (c : Reprocess) (s : State Q) : Option (ℤ × State Q) :=
  if !c.client then some (INVALID_OPERATION, s)
  else
    let candidate := s.getCandidateTimestampLocked
    if candidate.minTimestamp = -1 then some (NOT_ENOUGH_DATA, s)
    else
      let (res, s) := s.retrieveInputProducer B c
      if res ≠ OK then some (res, s)
      else
        (s.enqueueInputBufferByTimestamp B c candidate.minTimestamp).map fun (res, s) ↦
          if res = NO_BUFFER_AVAILABLE then (NOT_ENOUGH_DATA, s)
          else if res ≠ OK then (res, s)
          else s.sendRequest B c candidate.idx

/-! ### The end of a reprocess request -/

def clearZslResultQueueLocked (s : State Q) : State Q :=
  { s with mFrameList := List.replicate s.mFrameListDepth [], mFrameListHead := 0 }

/-- `none` when there is no ring. -/
def clearInputRingBufferLocked (addReleaseFenceLocked : RingBuffer.StatusT)
    (outcomes : ℕ → RingBuffer.Outcome) (s : State Q) : Option (RingBuffer.StatusT × State Q) :=
  s.mProducer.bind fun ring ↦
    let s := { s with mLatestClearedBufferTimestamp := ring.getLatestTimestamp }.clearInputBuffer
      addReleaseFenceLocked
    s.mProducer.bind fun ring ↦
      (ring.clear outcomes (ring.mBufferItemList.length + 1)).map fun (res, ring) ↦
        (res, { s with mProducer := some ring })

def clearZslQueue (addReleaseFenceLocked : RingBuffer.StatusT)
    (outcomes : ℕ → RingBuffer.Outcome) (s : State Q) : Option (RingBuffer.StatusT × State Q) :=
  if s.mState = .LOCKED then some (.OK, s)
  else if s.mZslStreamId = NO_STREAM then some (.OK, s)
  else s.clearZslResultQueueLocked.clearInputRingBufferLocked addReleaseFenceLocked outcomes

/-- `none` when an assertion fails, or a null pointer is used. -/
def doNotifyInputReleasedLocked (B : InputQueue Q) (addReleaseFenceLocked : RingBuffer.StatusT)
    (s : State Q) : Option (State Q) :=
  match s.mInputBuffer with
  | none => none
  | some item =>
    if !s.mInputProducer then none
    else
      let (rc, gb, inputQueue) := B.detachNext s.inputQueue
      let s := { s with inputQueue }
      if rc ≠ OK then some s
      else gb.map fun gb ↦
        if gb ≠ item.mGraphicBuffer then s
        else { (s.clearInputBuffer addReleaseFenceLocked).clearZslResultQueueLocked with
          mState := .RUNNING }

def notifyInputReleased (s : State Q) : Option (State Q) :=
  if s.onBufferReleased = 0 then none
  else some { s with
    onBufferReleased := s.onBufferReleased - 1
    mBuffersToDetach := s.mBuffersToDetach + 1 }

/-- The loop of `threadLoop`, with so many buffers to detach. -/
def detachLoop (B : InputQueue Q) (addReleaseFenceLocked : ℕ → RingBuffer.StatusT) :
    ℕ → State Q → Option (State Q)
  | 0, s => some s
  | n + 1, s => (s.doNotifyInputReleasedLocked B (addReleaseFenceLocked n)).bind fun s ↦
      detachLoop B addReleaseFenceLocked n { s with mBuffersToDetach := n }

def threadLoop (B : InputQueue Q) (addReleaseFenceLocked : ℕ → RingBuffer.StatusT)
    (s : State Q) : Option (State Q) := s.detachLoop B addReleaseFenceLocked s.mBuffersToDetach

/-- Each call of the processor holds `mInputMutex`. -/
def step (B : InputQueue Q) (s : State Q) : Label → Option (State Q)
  | .onResultAvailable mMetadata => s.onResultAvailable mMetadata
  | .updateStream client createInputStream createStream =>
    some (s.updateStream B client createInputStream createStream).2
  | .deleteStream client deleteZslStream deleteInputStream =>
    some (s.deleteStream B client deleteZslStream deleteInputStream).2
  | .onFrameAvailable o acquired => s.mProducer.bind fun ring ↦
      (ring.step (.onFrameAvailable o acquired)).map fun ring ↦ { s with mProducer := some ring }
  | .pushToReprocess c => (s.pushToReprocess B c).map Prod.snd
  | .clearZslQueue addReleaseFenceLocked outcomes =>
    (s.clearZslQueue addReleaseFenceLocked outcomes).map Prod.snd
  | .notifyInputReleased => s.notifyInputReleased
  | .threadLoop addReleaseFenceLocked => s.threadLoop B addReleaseFenceLocked
  | .takeRequest res => s.takeRequest B res
  | .abortRequest => s.abortRequest B
  | .configureStreams => some (s.configureStreams B)
  | .returnInputBuffer buffer => s.returnInputBuffer B buffer

end State

end VirtualCamera.Zsl
