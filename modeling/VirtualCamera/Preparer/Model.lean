import VirtualCamera.Library.Assoc
import VirtualCamera.Library.Transition

namespace VirtualCamera.Preparer

open Library Assoc Transition

inductive StatusT
  | OK
  | NOT_ENOUGH_DATA
  | BAD_VALUE
  | INVALID_OPERATION
  | NO_INIT
  deriving DecidableEq, Repr

/-! ### A stream -/

inductive StreamState
  | ERROR
  | CONSTRUCTED
  | IN_CONFIG
  | IN_RECONFIG
  | CONFIGURED
  | PREPARING
  | ABANDONED
  | IN_IDLE
  deriving DecidableEq, Repr

def ALLOCATE_PIPELINE_MAX : ℕ := 0

/-- `mPreparedBuffers` is the length of the vector. -/
structure Stream where
  mState : StreamState := .CONFIGURED
  mStreamUnpreparable : Bool := false
  getHandoutOutputBufferCount : ℕ := 0
  getBufferCount : ℕ
  mPrepared : Bool := false
  mPrepareBlockRequest : Bool := true
  mPreparedBuffers : ℕ := 0
  mPreparedBufferIdx : ℕ := 0
  mLastMaxCount : ℕ := ALLOCATE_PIPELINE_MAX
  deriving DecidableEq, Repr

namespace Stream

/-- How many buffers a preparation for `maxCount` of them is for. -/
def bufferCount (s : Stream) (maxCount : ℕ) : ℕ :=
  if maxCount = ALLOCATE_PIPELINE_MAX then s.getBufferCount else min s.getBufferCount maxCount

def startPrepare (s : Stream) (maxCount : ℤ) (blockRequest : Bool) : StatusT × Stream :=
  if maxCount < 0 then (.BAD_VALUE, s)
  else if s.mState ≠ .CONFIGURED then (.INVALID_OPERATION, s)
  else if s.mStreamUnpreparable then (.INVALID_OPERATION, s)
  else if 0 < s.getHandoutOutputBufferCount then (.INVALID_OPERATION, s)
  else
    let bufferCount := s.bufferCount maxCount.toNat
    if bufferCount ≤ s.mLastMaxCount then
      (.OK, { s with mPrepared := true, mPrepareBlockRequest := blockRequest })
    else
      (.NOT_ENOUGH_DATA, { s with
        mPrepared := false
        mPrepareBlockRequest := blockRequest
        mLastMaxCount := bufferCount
        mPreparedBuffers := s.mPreparedBuffers + bufferCount
        mPreparedBufferIdx := 0
        mState := .PREPARING })

def cancelPrepare (s : Stream) : StatusT × Stream :=
  if s.mState ≠ .PREPARING then (.INVALID_OPERATION, s)
  else (.OK, { s with mPreparedBuffers := 0, mPreparedBufferIdx := 0, mState := .CONFIGURED })

/-- `allocated` is whether the buffer can be had. -/
def prepareNextBuffer (s : Stream) (allocated : Bool) : StatusT × Stream :=
  if s.mState ≠ .PREPARING then (.INVALID_OPERATION, s)
  else if !allocated then (.NO_INIT, s)
  else
    let s := { s with mPreparedBufferIdx := s.mPreparedBufferIdx + 1 }
    if s.mPreparedBufferIdx < s.mPreparedBuffers then (.NOT_ENOUGH_DATA, s)
    else { s with mPrepared := true }.cancelPrepare

end Stream

/-! ### The thread -/

/-- A stream to prepare, for the call of `prepare` with the number `call` among those that
return `OK`. -/
structure Entry where
  stream : ℤ
  call : ℕ
  deriving DecidableEq, Repr

/-- A call of `prepare` that returned `OK`, with the calls of `clear` before it. -/
structure Call where
  stream : ℤ
  clears : ℕ
  deriving DecidableEq, Repr

/-- The local variables of `pause`; it waits when the thread is active. -/
structure Pausing where
  waits : Bool
  pendingStreams : Map ℤ Entry
  currentStream : Option Entry
  currentMaxCount : ℤ

/-- Where the thread is outside of the lock. -/
inductive Stage
  | loop
  | preparing
  | failing
  | finishing
  deriving DecidableEq, Repr

/-- `calls`, `clears`, `notified` and `cancelled` are only written: the calls of `prepare` that
returned `OK`, how many calls of `clear` there were, the notifications, with the call they are
for, and the calls whose preparation was cancelled for good. -/
structure State where
  streams : ℤ → Stream
  mPendingStreams : Map ℤ Entry := ∅
  mActive : Bool := false
  mCancelNow : Bool := false
  mCurrentStream : Option Entry := none
  mCurrentMaxCount : ℤ := 0
  mCurrentPrepareComplete : Bool := false
  stage : Stage := .loop
  pausing : Option Pausing := none
  calls : List Call := []
  clears : ℕ := 0
  notified : List (ℤ × Option ℕ) := []
  cancelled : List ℕ := []

/-- `runs` is whether the thread can be started. The streams are kept without an order, so which
one is next and in which order `resume` goes over them is part of the label. `changeStream` is
what happens to a stream otherwise. -/
inductive Label
  | prepare (maxCount stream : ℤ) (runs : Bool)
  | pause
  | pauseEnds
  | pauseTimesOut
  | resume (order : List ℤ) (runs : Bool)
  | clear
  | threadLoop (next : ℤ)
  | prepareNextBuffer (allocated : Bool)
  | cancelPrepare
  | finish
  | changeStream (id : ℤ) (stream : Stream)

namespace State

/-- `listener` is whether there is somebody to notify. -/
def notifyPrepared (listener : Bool) (s : State) (stream : ℤ) (call : Option ℕ) : State :=
  if listener then { s with notified := s.notified ++ [(stream, call)] } else s

def setStream (s : State) (id : ℤ) (stream : Stream) : State :=
  { s with streams := Function.update s.streams id stream }

def cancelStream (streams : ℤ → Stream) (id : ℤ) : ℤ → Stream :=
  Function.update streams id (streams id).cancelPrepare.2

/-- `cancelPrepare` for all the streams of a map. -/
def cancelStreams (streams : ℤ → Stream) (m : Map ℤ Entry) : ℤ → Stream :=
  (m.entries.map fun entry ↦ entry.2.stream).foldl cancelStream streams

/-- The number of a call that returns `OK`. -/
def accept (s : State) (stream : ℤ) : State :=
  { s with calls := s.calls ++ [⟨stream, s.clears⟩] }

/-- A stream that needs work is queued, unless one with the same count is. -/
def queue (s : State) (maxCount stream : ℤ) : State :=
  { s with mPendingStreams := emplace maxCount ⟨stream, s.calls.length⟩ s.mPendingStreams }

def start (s : State) : State := { s with mCancelNow := false, mActive := true }

def prepare (listener : Bool) (s : State) (maxCount stream : ℤ) (runs : Bool) : State :=
  match (s.streams stream).startPrepare maxCount true with
  | (.OK, t) =>
    ((s.setStream stream t).notifyPrepared listener stream (some s.calls.length)).accept stream
  | (.NOT_ENOUGH_DATA, t) =>
    let s := s.setStream stream t
    if s.mActive then (s.queue maxCount stream).accept stream
    else if runs then (s.start.queue maxCount stream).accept stream
    else s.notifyPrepared listener stream none
  | _ => s

def pause (s : State) : State :=
  { s with
    pausing := some ⟨s.mActive, s.mPendingStreams, s.mCurrentStream, s.mCurrentMaxCount⟩
    mPendingStreams := ∅
    mCancelNow := true }

/-- The streams that `pause` has kept, with the one that was current when it is not complete. -/
def kept (s : State) (p : Pausing) : Map ℤ Entry :=
  match p.currentStream with
  | none => p.pendingStreams
  | some entry =>
    if s.mCurrentPrepareComplete then p.pendingStreams
    else emplace p.currentMaxCount entry p.pendingStreams

/-- The end of `pause`. Nothing is pending then: the calls come one after the other. -/
def pauseEnds (s : State) (p : Pausing) : State :=
  { s with
    pausing := none
    mPendingStreams := s.kept p
    streams := cancelStreams s.streams (s.kept p) }

/-- What `resume` does to a stream. -/
def resumeStream (listener : Bool) (s : State) (maxCount : ℤ) : State :=
  match s.mPendingStreams.lookup maxCount with
  | none => s
  | some entry =>
    match (s.streams entry.stream).startPrepare maxCount true with
    | (.OK, t) =>
      let s := (s.setStream entry.stream t).notifyPrepared listener entry.stream (some entry.call)
      { s with mPendingStreams := s.mPendingStreams.erase maxCount }
    | (.NOT_ENOUGH_DATA, t) => s.setStream entry.stream t
    | _ => { s with mPendingStreams := s.mPendingStreams.erase maxCount }

def resume (listener : Bool) (s : State) (order : List ℤ) (runs : Bool) : State :=
  if s.mActive then s
  else
    let s := order.foldl (resumeStream listener) s
    if s.mPendingStreams.keys = [] then s
    else if runs then s.start
    else s

def clear (s : State) : State :=
  { s with
    streams := cancelStreams s.streams s.mPendingStreams
    mPendingStreams := ∅
    mCancelNow := true
    clears := s.clears + 1
    cancelled := s.cancelled ++ s.mPendingStreams.entries.map fun entry ↦ entry.2.call }

/-- A cancelled stream is out of the hands of the thread; `pause` may still have it. -/
def cancelCurrent (s : State) (entry : Entry) : State :=
  { s with
    streams := cancelStream s.streams entry.stream
    mCurrentStream := none
    mCancelNow := false
    cancelled := if s.pausing.isSome then s.cancelled else s.cancelled ++ [entry.call] }

/-- The start of an iteration of the thread, with the lock held. -/
def threadLoop (s : State) (next : ℤ) : Option State :=
  match s.mCurrentStream with
  | none =>
    if s.mPendingStreams.keys = [] then some { s with mActive := false }
    else
      (s.mPendingStreams.lookup next).map fun entry ↦
        { s with
          mCurrentStream := some entry
          mCurrentMaxCount := next
          mCurrentPrepareComplete := false
          mPendingStreams := s.mPendingStreams.erase next
          stage := .preparing }
  | some entry =>
    if s.mCancelNow then some (s.cancelCurrent entry)
    else some { s with stage := .preparing }

def prepareNextBuffer (s : State) (entry : Entry) (allocated : Bool) : State :=
  let (res, t) := (s.streams entry.stream).prepareNextBuffer allocated
  { s.setStream entry.stream t with
    stage := if res = .NOT_ENOUGH_DATA then .loop else if res = .OK then .finishing else .failing }

def finish (listener : Bool) (s : State) (entry : Entry) : State :=
  { s.notifyPrepared listener entry.stream (some entry.call) with
    mCurrentStream := none
    mCurrentPrepareComplete := true
    stage := .loop }

/-- A call, which comes after the end of the one before. -/
def call (s : State) (t : State) : Option State := if s.pausing.isSome then none else some t

def step (listener : Bool) (s : State) : Label → Option State
  | .prepare maxCount stream runs => s.call (s.prepare listener maxCount stream runs)
  | .pause => s.call s.pause
  | .pauseEnds => if s.mActive then none else s.pausing.map s.pauseEnds
  | .pauseTimesOut =>
    s.pausing.bind fun p ↦ if p.waits then some { s with pausing := none } else none
  | .resume order runs =>
    if order.Perm s.mPendingStreams.keys then s.call (s.resume listener order runs) else none
  | .clear => s.call s.clear
  | .threadLoop next => if s.mActive ∧ s.stage = .loop then s.threadLoop next else none
  | .prepareNextBuffer allocated =>
    if s.stage = .preparing then s.mCurrentStream.map fun entry ↦ s.prepareNextBuffer entry allocated
    else none
  | .cancelPrepare =>
    if s.stage = .failing then
      s.mCurrentStream.map fun entry ↦
        { s with streams := cancelStream s.streams entry.stream, stage := .finishing }
    else none
  | .finish => if s.stage = .finishing then s.mCurrentStream.map (s.finish listener) else none
  | .changeStream id stream =>
    if (s.streams id).mState = .PREPARING ∨ stream.mState = .PREPARING then none
    else some (s.setStream id stream)

def Step (listener : Bool) : State → Label → State → Prop := ofPartial (step listener)

def create (streams : ℤ → Stream) : State := { streams := streams }

end State

end VirtualCamera.Preparer
