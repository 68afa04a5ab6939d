import Mathlib.Data.Prod.Lex
import VirtualCamera.Library.KeyedVector
import VirtualCamera.Library.Transition

namespace VirtualCamera.BufferManager

open Library Library.Transition

def CAMERA3_STREAM_ID_INVALID : ℤ := -1

def CAMERA3_STREAM_SET_ID_INVALID : ℤ := -1

def kMaxBufferCount : ℕ := 64

def BUFFER_WATERMARK_DEC_THRESHOLD : ℕ := 3

def BUFFER_FREE_THRESHOLD : ℕ := 3

inductive Status
  | OK
  | BAD_VALUE
  | INVALID_OPERATION
  | ALREADY_EXISTS
  | NO_MEMORY
  deriving DecidableEq, Repr

structure StreamInfo where
  streamId : ℤ
  streamSetId : ℤ
  isMultiRes : Bool
  totalBufferCount : ℕ
  isConfigured : Bool
  deriving DecidableEq, Repr

structure StreamSetKey where
  id : ℤ
  isMultiRes : Bool
  deriving DecidableEq, Repr

/-- The sets for streams of one resolution come first. -/
def StreamSetKey.order (key : StreamSetKey) : Bool ×ₗ ℤ := toLex (key.isMultiRes, key.id)

theorem StreamSetKey.order_injective : Function.Injective StreamSetKey.order := by
  rintro ⟨id, isMultiRes⟩ ⟨id', isMultiRes'⟩ h
  cases toLex_inj.mp h
  rfl

instance : LinearOrder StreamSetKey :=
  LinearOrder.lift' StreamSetKey.order StreamSetKey.order_injective

def StreamInfo.key (info : StreamInfo) : StreamSetKey := ⟨info.streamSetId, info.isMultiRes⟩

structure StreamSet where
  allocatedBufferWaterMark : ℕ := 0
  maxAllowedBufferCount : ℕ := 0
  streamInfoMap : KeyedVector ℤ StreamInfo := ∅
  handoutBufferCountMap : KeyedVector ℤ ℕ := ∅
  attachedBufferCountMap : KeyedVector ℤ ℕ := ∅

/-- A thread that has let go of the lock to detach a buffer of the stream `other`. `generation`
is how often the map of the sets, into which it keeps a reference, had changed by then. -/
structure Freeing where
  streamId : ℤ
  streamSetKey : StreamSetKey
  other : ℤ
  again : Bool
  generation : ℕ
  deriving DecidableEq

/-- `mStreamMap` holds weak pointers, here without a value. `wild` is set once something is
looked up that is not there. -/
structure State where
  mStreamSetMap : KeyedVector StreamSetKey StreamSet := ∅
  mStreamMap : KeyedVector ℤ Unit := ∅
  generation : ℕ := 0
  freeing : List Freeing := []
  wild : Bool := false

inductive Label
  | registerStream (streamInfo : StreamInfo)
  | unregisterStream (streamId : ℤ) (streamSetKey : StreamSetKey)
  | getBufferForStream (streamId : ℤ) (streamSetKey : StreamSetKey)
      (noFreeBufferAtConsumer allocated : Bool) (alive : ℤ → Bool)
  | detached (i : ℕ) (bufferFreed : Bool) (alive : ℤ → Bool)
  | onBufferReleased (streamId : ℤ) (streamSetKey : StreamSetKey)
  | onBuffersRemoved (streamId : ℤ) (streamSetKey : StreamSetKey) (count : ℕ)
  | notifyBufferRemoved (streamId : ℤ) (streamSetKey : StreamSetKey)

/-- `size_t` counts go round below zero. -/
def decrement (count : ℕ) : ℕ := (count + (2 ^ 64 - 1)) % 2 ^ 64

def increment (count : ℕ) : ℕ := (count + 1) % 2 ^ 64

def total (counts : KeyedVector ℤ ℕ) : ℕ := counts.values.sum % 2 ^ 64

namespace State

def lookupWild (s : State) : State := { s with wild := true }

def editSet (s : State) (streamSetKey : StreamSetKey) (streamSet : StreamSet) : State :=
  { s with mStreamSetMap := s.mStreamSetMap.add streamSetKey streamSet }

/-! ### Registration -/

/-- Whether the stream is in another stream set; a set counts as another one when both parts of
its key differ. -/
def registeredElsewhere (s : State) (streamInfo : StreamInfo) : Bool :=
  s.mStreamSetMap.values.any fun streamSet ↦
    match streamSet.streamInfoMap.find? streamInfo.streamId with
    | some other => other.streamSetId ≠ streamInfo.streamSetId &&
        other.isMultiRes ≠ streamInfo.isMultiRes
    | none => false

def valid (streamInfo : StreamInfo) : Bool :=
  !(streamInfo.streamId = CAMERA3_STREAM_ID_INVALID ||
    streamInfo.streamSetId = CAMERA3_STREAM_SET_ID_INVALID) &&
  !(streamInfo.totalBufferCount > kMaxBufferCount || streamInfo.totalBufferCount = 0) &&
  streamInfo.isConfigured

/-- The set of a stream that is registered, and whether it is new. -/
def setFor (s : State) (streamSetKey : StreamSetKey) : StreamSet × Bool :=
  match s.mStreamSetMap.find? streamSetKey with
  | some streamSet => (streamSet, false)
  | none => ({}, true)

def addStream (streamSet : StreamSet) (streamInfo : StreamInfo) : StreamSet :=
  { streamSet with
    streamInfoMap := streamSet.streamInfoMap.add streamInfo.streamId streamInfo
    handoutBufferCountMap := streamSet.handoutBufferCountMap.add streamInfo.streamId 0
    attachedBufferCountMap := streamSet.attachedBufferCountMap.add streamInfo.streamId 0
    maxAllowedBufferCount :=
      if streamInfo.totalBufferCount > streamSet.maxAllowedBufferCount
      then streamInfo.totalBufferCount else streamSet.maxAllowedBufferCount }

def registerStream (s : State) (streamInfo : StreamInfo) : Status × State :=
  if !valid streamInfo then (.BAD_VALUE, s)
  else if s.registeredElsewhere streamInfo then (.BAD_VALUE, s)
  else
    let (currentStreamSet, created) := s.setFor streamInfo.key
    let generation := if created then s.generation + 1 else s.generation
    match currentStreamSet.streamInfoMap.find? streamInfo.streamId with
    | some _ => (.OK, s)
    | none =>
      (.OK, { s.editSet streamInfo.key (addStream currentStreamSet streamInfo) with
        mStreamMap := s.mStreamMap.add streamInfo.streamId ()
        generation := generation })

def checkIfStreamRegisteredLocked (s : State) (streamId : ℤ) (streamSetKey : StreamSetKey) :
    Bool :=
  match s.mStreamSetMap.find? streamSetKey with
  | none => false
  | some streamSet =>
    match streamSet.streamInfoMap.find? streamId with
    | none => false
    | some _ => !(streamSet.maxAllowedBufferCount = 0 ||
        streamSet.maxAllowedBufferCount > kMaxBufferCount)

/-- The largest of the total buffer counts. -/
def maxTotal (infoMap : KeyedVector ℤ StreamInfo) : ℕ :=
  infoMap.values.foldl (fun maxAllowedBufferCount info ↦
    if info.totalBufferCount > maxAllowedBufferCount then info.totalBufferCount
    else maxAllowedBufferCount) 0

def removeStream (streamSet : StreamSet) (streamId : ℤ) : StreamSet where
  allocatedBufferWaterMark := 0
  maxAllowedBufferCount := maxTotal (streamSet.streamInfoMap.removeItem streamId)
  streamInfoMap := streamSet.streamInfoMap.removeItem streamId
  handoutBufferCountMap := streamSet.handoutBufferCountMap.removeItem streamId
  attachedBufferCountMap := streamSet.attachedBufferCountMap.removeItem streamId

def unregisterStream (s : State) (streamId : ℤ) (streamSetKey : StreamSetKey) : Status × State :=
  if !s.checkIfStreamRegisteredLocked streamId streamSetKey then (.BAD_VALUE, s)
  else
    match s.mStreamSetMap.find? streamSetKey with
    | none => (.OK, s.lookupWild)
    | some streamSet =>
      let currentSet := removeStream streamSet streamId
      let s := { s.editSet streamSetKey currentSet with
        mStreamMap := s.mStreamMap.removeItem streamId }
      if currentSet.handoutBufferCountMap.size = 0 && currentSet.streamInfoMap.size = 0 then
        (.OK, { s with
          mStreamSetMap := s.mStreamSetMap.removeItem streamSetKey
          generation := s.generation + 1 })
      else (.OK, s)

/-! ### Buffers -/

/-- The first other stream with a free buffer; the outer `none` is a count that is not there. -/
def findOther (streamSet : StreamSet) (streamId : ℤ) : List StreamInfo → Option (Option ℤ)
  | [] => some none
  | info :: rest =>
    if info.streamId ≠ streamId then
      match streamSet.handoutBufferCountMap.find? info.streamId,
        streamSet.attachedBufferCountMap.find? info.streamId with
      | some otherBufferCount, some otherAttachedBufferCount =>
        if otherAttachedBufferCount > otherBufferCount then some (some info.streamId)
        else findOther streamSet streamId rest
      | _, _ => none
    else findOther streamSet streamId rest

/-- How `checkAndFreeBufferOnOtherStreamsLocked` goes on: it returns, it detaches a buffer
without the lock, or it has looked for something that is not there. -/
inductive Check
  | returned (res : Status)
  | unlocked (other : ℤ)
  | wild
  deriving DecidableEq

def checkAndFreeBufferOnOtherStreamsLocked (s : State) (streamId : ℤ)
    (streamSetKey : StreamSetKey) (alive : ℤ → Bool) : Check :=
  match s.mStreamSetMap.find? streamSetKey with
  | none => .wild
  | some streamSet =>
    if streamSet.streamInfoMap.size = 1 then .returned .OK
    else
      match findOther streamSet streamId streamSet.streamInfoMap.values with
      | none => .wild
      | some none => .returned .OK
      | some (some firstOtherStreamId) =>
        if total streamSet.attachedBufferCountMap > streamSet.allocatedBufferWaterMark then
          match s.mStreamMap.find? firstOtherStreamId with
          | none => .wild
          | some _ =>
            if alive firstOtherStreamId then .unlocked firstOtherStreamId
            else .returned .INVALID_OPERATION
        else .returned .OK

/-- The second of the two calls in `getBufferForStream`. -/
def freeAgain (s : State) (streamId : ℤ) (streamSetKey : StreamSetKey) (alive : ℤ → Bool) :
    Status × State :=
  match s.checkAndFreeBufferOnOtherStreamsLocked streamId streamSetKey alive with
  | .returned res => (res, s)
  | .unlocked other =>
    (.OK, { s with freeing := s.freeing ++ [⟨streamId, streamSetKey, other, true, s.generation⟩] })
  | .wild => (.OK, s.lookupWild)

/-- Both calls. -/
def free (s : State) (streamId : ℤ) (streamSetKey : StreamSetKey) (alive : ℤ → Bool) :
    Status × State :=
  match s.checkAndFreeBufferOnOtherStreamsLocked streamId streamSetKey alive with
  | .returned .OK => s.freeAgain streamId streamSetKey alive
  | .returned res => (res, s)
  | .unlocked other =>
    (.OK, { s with
      freeing := s.freeing ++ [⟨streamId, streamSetKey, other, false, s.generation⟩] })
  | .wild => (.OK, s.lookupWild)

def setCounts (streamSet : StreamSet) (streamId : ℤ) (bufferCount attachedBufferCount : ℕ) :
    StreamSet :=
  { streamSet with
    handoutBufferCountMap := streamSet.handoutBufferCountMap.add streamId bufferCount
    attachedBufferCountMap := streamSet.attachedBufferCountMap.add streamId attachedBufferCount }

/-- `allocated` is whether a buffer can be allocated. The lock may be let go before this
returns: the status is then not the one the caller gets. -/
def getBufferForStream (s : State) (streamId : ℤ) (streamSetKey : StreamSetKey)
    (noFreeBufferAtConsumer allocated : Bool) (alive : ℤ → Bool) : Status × State :=
  if !s.checkIfStreamRegisteredLocked streamId streamSetKey then (.BAD_VALUE, s)
  else
    match s.mStreamSetMap.find? streamSetKey with
    | none => (.OK, s.lookupWild)
    | some streamSet =>
      match streamSet.handoutBufferCountMap.find? streamId,
        streamSet.attachedBufferCountMap.find? streamId with
      | some bufferCount, some attachedBufferCount =>
        let attachedBufferCount :=
          if noFreeBufferAtConsumer then bufferCount else attachedBufferCount
        let sNow := s.editSet streamSetKey
          (setCounts streamSet streamId bufferCount attachedBufferCount)
        if bufferCount ≥ streamSet.maxAllowedBufferCount then (.INVALID_OPERATION, sNow)
        else if attachedBufferCount > bufferCount then
          (.ALREADY_EXISTS, s.editSet streamSetKey
            (setCounts streamSet streamId (increment bufferCount) attachedBufferCount))
        else if !allocated then (.NO_MEMORY, sNow)
        else
          let bufferCount := increment bufferCount
          let streamSet :=
            setCounts streamSet streamId bufferCount (increment attachedBufferCount)
          let streamSet := { streamSet with
            allocatedBufferWaterMark :=
              if bufferCount + 1 > streamSet.allocatedBufferWaterMark then bufferCount + 1
              else streamSet.allocatedBufferWaterMark }
          (s.editSet streamSetKey streamSet).free streamId streamSetKey alive
      | _, _ => (.OK, s.lookupWild)

/-- A buffer is no longer attached to the stream: nothing is checked here. -/
def removeAttached (s : State) (streamId : ℤ) (streamSetKey : StreamSetKey) : State :=
  match s.mStreamSetMap.find? streamSetKey with
  | none => s.lookupWild
  | some streamSet =>
    match streamSet.attachedBufferCountMap.find? streamId with
    | none => s.lookupWild
    | some attachedBufferCount =>
      s.editSet streamSetKey { streamSet with
        attachedBufferCountMap := streamSet.attachedBufferCountMap.add streamId
          (decrement attachedBufferCount) }

/-- The count of the stream whose buffer was detached, through the reference that was kept. -/
def takeOff (s : State) (freeing : Freeing) : State :=
  if freeing.generation ≠ s.generation then s.lookupWild
  else s.removeAttached freeing.other freeing.streamSetKey

/-- The thread has the lock again. -/
def detached (s : State) (i : ℕ) (freeing : Freeing) (bufferFreed : Bool) (alive : ℤ → Bool) :
    State :=
  let s := { s with freeing := s.freeing.eraseIdx i }
  let s := if bufferFreed then s.takeOff freeing else s
  if freeing.again then s else (s.freeAgain freeing.streamId freeing.streamSetKey alive).2

/-- The second part is `shouldFreeBuffer`. -/
def onBufferReleased (s : State) (streamId : ℤ) (streamSetKey : StreamSetKey) :
    Status × Bool × State :=
  if !s.checkIfStreamRegisteredLocked streamId streamSetKey then (.OK, false, s)
  else
    match s.mStreamSetMap.find? streamSetKey with
    | none => (.OK, false, s.lookupWild)
    | some streamSet =>
      match streamSet.handoutBufferCountMap.find? streamId,
        streamSet.attachedBufferCountMap.find? streamId with
      | some bufferCount, some attachedBufferCount =>
        let bufferCount := decrement bufferCount
        let streamSet := setCounts streamSet streamId bufferCount attachedBufferCount
        let totalAllocatedBufferCount := total streamSet.attachedBufferCountMap
        let totalHandOutBufferCount := total streamSet.handoutBufferCountMap
        let newWaterMark := (totalHandOutBufferCount + BUFFER_WATERMARK_DEC_THRESHOLD) % 2 ^ 64
        let streamSet := { streamSet with
          allocatedBufferWaterMark :=
            if totalAllocatedBufferCount > newWaterMark &&
              streamSet.allocatedBufferWaterMark > newWaterMark then newWaterMark
            else streamSet.allocatedBufferWaterMark }
        let shouldFreeBuffer := attachedBufferCount > bufferCount &&
          totalAllocatedBufferCount > streamSet.allocatedBufferWaterMark &&
          attachedBufferCount > (bufferCount + BUFFER_FREE_THRESHOLD) % 2 ^ 64
        (.OK, shouldFreeBuffer, s.editSet streamSetKey streamSet)
      | _, _ => (.OK, false, s.lookupWild)

def onBuffersRemoved (s : State) (streamId : ℤ) (streamSetKey : StreamSetKey) (count : ℕ) :
    Status × State :=
  if !s.checkIfStreamRegisteredLocked streamId streamSetKey then (.OK, s)
  else
    match s.mStreamSetMap.find? streamSetKey with
    | none => (.OK, s.lookupWild)
    | some streamSet =>
      match streamSet.handoutBufferCountMap.find? streamId,
        streamSet.attachedBufferCountMap.find? streamId with
      | some totalHandoutCount, some totalAttachedCount =>
        if count > totalHandoutCount then (.BAD_VALUE, s)
        else if count > totalAttachedCount then (.BAD_VALUE, s)
        else (.OK, s.editSet streamSetKey (setCounts streamSet streamId
          (totalHandoutCount - count) (totalAttachedCount - count)))
      | _, _ => (.OK, s.lookupWild)

def notifyBufferRemoved (s : State) (streamId : ℤ) (streamSetKey : StreamSetKey) : State :=
  s.removeAttached streamId streamSetKey

def step (s : State) : Label → Option State
  | .registerStream streamInfo => some (s.registerStream streamInfo).2
  | .unregisterStream streamId streamSetKey => some (s.unregisterStream streamId streamSetKey).2
  | .getBufferForStream streamId streamSetKey noFreeBufferAtConsumer allocated alive =>
    some (s.getBufferForStream streamId streamSetKey noFreeBufferAtConsumer allocated alive).2
  | .detached i bufferFreed alive =>
    s.freeing[i]?.map fun freeing ↦ s.detached i freeing bufferFreed alive
  | .onBufferReleased streamId streamSetKey =>
    some (s.onBufferReleased streamId streamSetKey).2.2
  | .onBuffersRemoved streamId streamSetKey count =>
    some (s.onBuffersRemoved streamId streamSetKey count).2
  | .notifyBufferRemoved streamId streamSetKey =>
    some (s.notifyBufferRemoved streamId streamSetKey)

def Step : State → Label → State → Prop := ofPartial step

end State

end VirtualCamera.BufferManager
