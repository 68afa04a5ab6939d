import Mathlib.Data.Multiset.AddSub
import Mathlib.Logic.Function.Basic

namespace VirtualCamera.CameraService.StreamBuffers

/-! ### The records of the buffers -/

/-- Each configured stream has a map from its handles to their ids. -/
structure BufferRecords where
  mBufferIdMaps : ℤ → ℕ → Option ℕ
  mNextBufferId : ℕ
  mRequestedBufferMap : ℕ → Option (ℤ × ℕ)

namespace BufferRecords

/-- Whether the id is new, and the id. -/
def getBufferId (r : BufferRecords) (buf : ℕ) (streamId : ℤ) : (Bool × ℕ) × BufferRecords :=
  match r.mBufferIdMaps streamId buf with
  | some bufferId => ((false, bufferId), r)
  | none =>
    ((true, r.mNextBufferId), { r with
      mBufferIdMaps := Function.update r.mBufferIdMaps streamId
        (Function.update (r.mBufferIdMaps streamId) buf (some r.mNextBufferId))
      mNextBufferId := r.mNextBufferId + 1 })

def removeOneBufferCache (r : BufferRecords) (streamId : ℤ) (handle : ℕ) : BufferRecords :=
  { r with
    mBufferIdMaps := Function.update r.mBufferIdMaps streamId
      (Function.update (r.mBufferIdMaps streamId) handle none) }

/-- None when the id is in flight already. -/
def pushInflightRequestBuffer (r : BufferRecords) (bufferId buf : ℕ) (streamId : ℤ) :
    Option BufferRecords :=
  if (r.mRequestedBufferMap bufferId).isSome then none
  else some { r with
    mRequestedBufferMap := Function.update r.mRequestedBufferMap bufferId (some (streamId, buf)) }

def popInflightRequestBuffer (r : BufferRecords) (bufferId : ℕ) : Option BufferRecords :=
  (r.mRequestedBufferMap bufferId).map fun _ ↦
    { r with mRequestedBufferMap := Function.update r.mRequestedBufferMap bufferId none }

end BufferRecords

/-! ### Requests and answers -/

structure BufferRequest where
  streamId : ℤ
  numBuffersRequested : ℕ
  deriving DecidableEq, Repr

inductive BufferRequestStatus
  | OK
  | FAILED_PARTIAL
  | FAILED_CONFIGURING
  | FAILED_ILLEGAL_ARGUMENTS
  | FAILED_UNKNOWN
  deriving DecidableEq, Repr

inductive StreamBufferRequestError
  | NO_BUFFER_AVAILABLE
  | MAX_BUFFER_EXCEEDED
  | STREAM_DISCONNECTED
  | UNKNOWN_ERROR
  deriving DecidableEq, Repr

/-- What a buffer of the answer tells the HAL; the handle comes only with a new id. -/
structure StreamBuffer where
  streamId : ℤ
  bufferId : ℕ
  buffer : Option ℕ
  acquireFence : Option ℤ
  deriving DecidableEq, Repr

/-- An entry of `streamBuffers` with that of `tmpRetBuffers`. -/
structure Loan where
  buffer : ℕ
  hBuf : StreamBuffer
  deriving DecidableEq, Repr

structure StreamBufferRet where
  streamId : ℤ
  val : Except StreamBufferRequestError (List Loan)

def StreamBufferRet.buffers (ret : StreamBufferRet) : List Loan :=
  match ret.val with
  | .ok buffers => buffers
  | .error _ => []

def StreamBufferRet.succeeds (ret : StreamBufferRet) : Bool :=
  match ret.val with
  | .ok _ => true
  | .error _ => false

structure Answer where
  status : BufferRequestStatus
  bufRets : List StreamBufferRet

def delivered (bufRets : List StreamBufferRet) : List Loan :=
  bufRets.flatMap StreamBufferRet.buffers

inductive Status
  | NO_INIT
  | DEAD_OBJECT
  | TIMED_OUT
  | NO_MEMORY
  | OTHER
  deriving DecidableEq, Repr

/-- A `camera_stream_buffer` that a stream hands out. -/
structure CameraStreamBuffer where
  buffer : ℕ
  acquire_fence : ℤ
  deriving DecidableEq, Repr

/-- What the call finds: `setCapacity` tells whether the ids fit in memory, and `getBuffer` is
the answer of a stream when it is asked for its buffer with this number. -/
structure RequestBufferStates where
  useHalBufManager : Bool
  setCapacity : ℕ → Bool
  outputStreams : List ℤ
  isAbandoned : ℤ → Bool
  max_buffers : ℤ → ℕ
  startRequestBuffer : Bool
  getBuffer : ℤ → ℕ → Except Status CameraStreamBuffer

/-- The buffers that each stream has handed out, the records, and how often a request of buffers
has started and ended. -/
structure State where
  outstanding : ℤ → Multiset ℕ
  records : BufferRecords
  inError : Bool
  started : ℕ
  ended : ℕ

/-! ### The request of one stream -/

/-- The local variables of the loop over the buffers: those of `streamBuffers` that were
allocated, those of `tmpRetBuffers` that were pushed, and `newBuffers`. -/
structure Taking where
  allocated : List ℕ := []
  pushed : List Loan := []
  newBuffers : List ℕ := []
  deriving DecidableEq, Repr

def requestError : Status → StreamBufferRequestError
  | .NO_INIT | .DEAD_OBJECT => .STREAM_DISCONNECTED
  | .TIMED_OUT | .NO_MEMORY => .NO_BUFFER_AVAILABLE
  | .OTHER => .UNKNOWN_ERROR

namespace State

def take (s : State) (streamId : ℤ) (buffer : ℕ) : State :=
  { s with outstanding :=
      Function.update s.outstanding streamId (s.outstanding streamId + {buffer}) }

/-- `returnBuffer` of a stream, for a buffer that it has handed out. -/
def returnBuffer (s : State) (streamId : ℤ) (buffer : ℕ) : State :=
  { s with outstanding :=
      Function.update s.outstanding streamId ((s.outstanding streamId).erase buffer) }

def popInflight (s : State) (bufferId : ℕ) : State :=
  match s.records.popInflightRequestBuffer bufferId with
  | none => { s with inError := true }
  | some records => { s with records }

def uncache (s : State) (streamId : ℤ) (handle : ℕ) : State :=
  { s with records := s.records.removeOneBufferCache streamId handle }

/-- What is undone when a request fails. -/
def rollback (s : State) (streamId : ℤ) (t : Taking) : State :=
  let s := (t.pushed.map (·.hBuf.bufferId)).foldl popInflight s
  let s := t.allocated.foldl (returnBuffer · streamId) s
  t.newBuffers.foldl (uncache · streamId) s

end State

/-- The loop over the buffers, from the one with number `b`; the error is that of `bufRet`. -/
def takeLoop (c : RequestBufferStates) (streamId : ℤ) :
    ℕ → ℕ → Taking → State → Option StreamBufferRequestError × Taking × State
  | 0, _, t, s => (none, t, s)
  | left + 1, b, t, s =>
    match c.getBuffer streamId b with
    | .error res => (some (requestError res), t, s)
    | .ok sb =>
      let s := s.take streamId sb.buffer
      let ((isNewBuffer, bufferId), records) := s.records.getBufferId sb.buffer streamId
      let t := { t with
        allocated := t.allocated ++ [sb.buffer]
        newBuffers := if isNewBuffer then t.newBuffers ++ [sb.buffer] else t.newBuffers }
      let hBuf : StreamBuffer :=
        { streamId := streamId
          bufferId := bufferId
          buffer := if isNewBuffer then some sb.buffer else none
          acquireFence := if sb.acquire_fence ≠ -1 then some sb.acquire_fence else none }
      match records.pushInflightRequestBuffer bufferId sb.buffer streamId with
      | none => (some .UNKNOWN_ERROR, t, { s with records })
      | some records =>
        takeLoop c streamId left (b + 1) { t with pushed := t.pushed ++ [⟨sb.buffer, hBuf⟩] }
          { s with records }

/-- The request for a stream that is known. -/
def requestOne (c : RequestBufferStates) (s : State) (bufReq : BufferRequest) :
    StreamBufferRet × State :=
  let streamId := bufReq.streamId
  if c.isAbandoned streamId then (⟨streamId, .error .STREAM_DISCONNECTED⟩, s)
  else
    let totalHandout := (s.outstanding streamId).card + bufReq.numBuffersRequested
    if totalHandout > c.max_buffers streamId then (⟨streamId, .error .MAX_BUFFER_EXCEEDED⟩, s)
    else
      match takeLoop c streamId bufReq.numBuffersRequested 0 {} s with
      | (none, t, s) => (⟨streamId, .ok t.pushed⟩, s)
      | (some error, t, s) => (⟨streamId, .error error⟩, s.rollback streamId t)

/-! ### The whole call -/

/-- The loop over the requests; there are no answers of the streams when one is not found. -/
def requestLoop (c : RequestBufferStates) :
    List StreamBufferRet → State → List BufferRequest → Option (List StreamBufferRet) × State
  | bufRets, s, [] => (some bufRets, s)
  | bufRets, s, bufReq :: bufReqs =>
    if bufReq.streamId ∉ c.outputStreams then (none, s)
    else
      let (bufRet, s) := requestOne c s bufReq
      requestLoop c (bufRets ++ [bufRet]) s bufReqs

def finish (bufRets : List StreamBufferRet) : Answer where
  status :=
    if bufRets.all StreamBufferRet.succeeds then .OK
    else if bufRets.any StreamBufferRet.succeeds then .FAILED_PARTIAL
    else .FAILED_UNKNOWN
  bufRets := bufRets

def State.startRequestBuffer (s : State) : State := { s with started := s.started + 1 }

def State.endRequestBuffer (s : State) : State := { s with ended := s.ended + 1 }

def checks (c : RequestBufferStates) (bufReqs : List BufferRequest) : Option BufferRequestStatus :=
  if ¬ c.useHalBufManager then some .FAILED_ILLEGAL_ARGUMENTS
  else if ¬ c.setCapacity bufReqs.length then some .FAILED_ILLEGAL_ARGUMENTS
  else if bufReqs.length > c.outputStreams.length then some .FAILED_ILLEGAL_ARGUMENTS
  else if ¬ (bufReqs.map (·.streamId)).Nodup then some .FAILED_ILLEGAL_ARGUMENTS
  else if ¬ c.startRequestBuffer then some .FAILED_CONFIGURING
  else none

def requestStreamBuffers (c : RequestBufferStates) (s : State) (bufReqs : List BufferRequest) :
    Answer × State :=
  match checks c bufReqs with
  | some status => (⟨status, []⟩, s)
  | none =>
    match requestLoop c [] s.startRequestBuffer bufReqs with
    | (none, s) => (⟨.FAILED_ILLEGAL_ARGUMENTS, []⟩, s.endRequestBuffer)
    | (some bufRets, s) => (finish bufRets, s.endRequestBuffer)

end VirtualCamera.CameraService.StreamBuffers
