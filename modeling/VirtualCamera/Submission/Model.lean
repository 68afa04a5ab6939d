import VirtualCamera.CameraService.InFlight

namespace VirtualCamera.Submission

open Library Assoc
open CameraService.InFlight (BufferStatus)

/-- The answers of a HAL. -/
inductive Status
  | OK
  | ILLEGAL_ARGUMENT
  | CAMERA_IN_USE
  | MAX_CAMERAS_IN_USE
  | METHOD_NOT_SUPPORTED
  | OPERATION_NOT_SUPPORTED
  | CAMERA_DISCONNECTED
  | INTERNAL_ERROR
  deriving DecidableEq, Repr

inductive StatusT
  | OK
  | BAD_VALUE
  | EBUSY
  | EUSERS
  | UNKNOWN_TRANSACTION
  | INVALID_OPERATION
  | DEAD_OBJECT
  deriving DecidableEq, Repr

def mapToStatusT : Status → StatusT
  | .OK => .OK
  | .ILLEGAL_ARGUMENT => .BAD_VALUE
  | .CAMERA_IN_USE => .EBUSY
  | .MAX_CAMERAS_IN_USE => .EUSERS
  | .METHOD_NOT_SUPPORTED => .UNKNOWN_TRANSACTION
  | .OPERATION_NOT_SUPPORTED => .INVALID_OPERATION
  | .CAMERA_DISCONNECTED => .DEAD_OBJECT
  | .INTERNAL_ERROR => .INVALID_OPERATION

theorem mapToStatusT_eq_ok {s : Status} : mapToStatusT s = .OK ↔ s = .OK := by
  cases s <;> decide

/-- `valid` is whether there is a session with the HAL. -/
structure Config where
  valid : Bool
  mUseHalBufManager : Bool

structure StreamBuffer where
  stream : ℤ
  buffer : Option ℕ
  deriving DecidableEq, Repr

/-- A request of the batch; `input_buffer` is the stream and the buffer of its input. -/
structure NextRequest where
  frame_number : ℕ
  input_buffer : Option (ℤ × ℕ) := none
  outputBuffers : List StreamBuffer
  submitted : Bool := false
  deriving DecidableEq, Repr

/-- A call of `returnBuffer` or `returnInputBuffer`. -/
structure ReturnedBuffer where
  frame_number : ℕ
  stream : ℤ
  buffer : Option ℕ
  status : BufferStatus
  deriving DecidableEq, Repr

/-- A buffer is recorded under its frame number and its stream. -/
abbrev Key := ℕ × ℤ

abbrev Records := Map Key ℕ

/-- What comes back from the call of the HAL: whether the transaction was one, and the arguments
of its callback if that was called. -/
structure Answer where
  isOk : Bool
  reply : Option (Status × ℕ)
  deriving DecidableEq, Repr

/-! ### The interface of the HAL -/

/-- The records while requests are wrapped, and those that are new. -/
structure Wrapping where
  mInflightBufferMap : Records
  inflightBuffers : List Key

def Wrapping.pushInflightBuffer (w : Wrapping) (frameNumber : ℕ) (streamId : ℤ) (buffer : ℕ) :
    Wrapping :=
  ⟨w.mInflightBufferMap.insert (frameNumber, streamId) buffer,
    w.inflightBuffers ++ [(frameNumber, streamId)]⟩

def popInflightBuffers (mInflightBufferMap : Records) (buffers : List Key) : Records :=
  eraseAll buffers mInflightBufferMap

/-- The loop over the output buffers, which stops at one that cannot be sent. Nothing is
recorded of the buffers that the HAL is still to request. -/
def wrapOutputBuffers (c : Config) (frame_number : ℕ) (w : Wrapping) :
    List StreamBuffer → Bool × Wrapping
  | [] => (true, w)
  | src :: output_buffers =>
    if c.mUseHalBufManager then wrapOutputBuffers c frame_number w output_buffers
    else
      match src.buffer with
      | none => (false, w)
      | some buffer =>
        wrapOutputBuffers c frame_number (w.pushInflightBuffer frame_number src.stream buffer)
          output_buffers

def wrapInputBuffer (w : Wrapping) (request : NextRequest) : Wrapping :=
  match request.input_buffer with
  | none => w
  | some (stream, buffer) => w.pushInflightBuffer request.frame_number stream buffer

def wrapAsHidlRequest (c : Config) (w : Wrapping) (request : NextRequest) : Bool × Wrapping :=
  wrapOutputBuffers c request.frame_number (wrapInputBuffer w request) request.outputBuffers

def wrapRequests (c : Config) (w : Wrapping) : List NextRequest → Bool × Wrapping
  | [] => (true, w)
  | request :: requests =>
    match wrapAsHidlRequest c w request with
    | (false, w) => (false, w)
    | (true, w) => wrapRequests c w requests

structure Processed where
  res : StatusT
  numRequestProcessed : ℕ
  mInflightBufferMap : Records

/-- The status of the call: a HAL that takes fewer requests has failed. -/
def Answer.status (answer : Answer) (batchSize : ℕ) : Status :=
  let (status, numRequestProcessed) := answer.reply.getD (.INTERNAL_ERROR, 0)
  let status := if answer.isOk then status else .CAMERA_DISCONNECTED
  if status = .OK ∧ numRequestProcessed ≠ batchSize then .INTERNAL_ERROR else status

def Answer.numRequestProcessed (answer : Answer) : ℕ :=
  (answer.reply.getD (.INTERNAL_ERROR, 0)).2

def processBatchCaptureRequests (c : Config) (answer : Answer) (mInflightBufferMap : Records)
    (requests : List NextRequest) : Processed :=
  if c.valid then
    match wrapRequests c ⟨mInflightBufferMap, []⟩ requests with
    | (false, w) =>
      ⟨.BAD_VALUE, 0, popInflightBuffers w.mInflightBufferMap w.inflightBuffers⟩
    | (true, w) =>
      let res := mapToStatusT (answer.status requests.length)
      if res = .OK then ⟨res, answer.numRequestProcessed, w.mInflightBufferMap⟩
      else
        ⟨res, answer.numRequestProcessed,
          popInflightBuffers w.mInflightBufferMap w.inflightBuffers⟩
  else ⟨.INVALID_OPERATION, 0, mInflightBufferMap⟩

/-! ### The request thread -/

/-- The buffers of a request that the thread returns when the request has failed. -/
def NextRequest.returnBuffers (c : Config) (request : NextRequest) : List ReturnedBuffer :=
  (request.input_buffer.toList.map fun (stream, buffer) ↦
    ⟨request.frame_number, stream, some buffer, .ERROR⟩) ++
  if c.mUseHalBufManager then []
  else request.outputBuffers.map fun b ↦ ⟨request.frame_number, b.stream, b.buffer, .ERROR⟩

def cleanUpFailedRequests (c : Config) (mNextRequests : List NextRequest) :
    List ReturnedBuffer :=
  (mNextRequests.filter (!·.submitted)).flatMap (·.returnBuffers c)

/-- The batch in the loop over the processed requests. -/
structure Submitting where
  mNextRequests : List NextRequest
  triggerRemoveFailed : Bool := false

/-- A turn of the loop. `triggerFailedRequest` is a reference, so the assignment to it goes to
the first request. There is no batch after an access past its end. -/
def Submitting.submit (removeTriggers : ℕ → Bool) (s : Submitting) (i : ℕ) :
    Option Submitting :=
  s.mNextRequests[i]?.map fun nextRequest ↦
    let nextRequest := { nextRequest with submitted := true }
    let mNextRequests := s.mNextRequests.set i nextRequest
    if !s.triggerRemoveFailed && !removeTriggers i then ⟨mNextRequests.set 0 nextRequest, true⟩
    else ⟨mNextRequests, s.triggerRemoveFailed⟩

structure Sent where
  success : Bool
  mInflightBufferMap : Records
  returned : List ReturnedBuffer

/-- `removeTriggers` is how the removals of the triggers turn out. -/
def sendRequestsBatch (c : Config) (answer : Answer) (removeTriggers : ℕ → Bool)
    (mInflightBufferMap : Records) (mNextRequests : List NextRequest) : Option Sent :=
  let p := processBatchCaptureRequests c answer mInflightBufferMap mNextRequests
  mNextRequests[0]?.bind fun _ ↦
    ((List.range p.numRequestProcessed).foldlM (Submitting.submit removeTriggers)
      ⟨mNextRequests, false⟩).bind fun s ↦
      let failed : Sent :=
        ⟨false, p.mInflightBufferMap, cleanUpFailedRequests c s.mNextRequests⟩
      if s.triggerRemoveFailed then some failed
      -- The message names the frame of the request after the processed ones.
      else if p.res ≠ .OK then s.mNextRequests[p.numRequestProcessed]?.map fun _ ↦ failed
      else some ⟨true, p.mInflightBufferMap, []⟩

end VirtualCamera.Submission
