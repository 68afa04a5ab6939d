import Mathlib.Data.Finset.Basic
import Mathlib.Logic.Function.Basic
import VirtualCamera.Library.Assoc
import VirtualCamera.Library.Transition

namespace VirtualCamera.Splitter

open Library Assoc Transition

def NUM_BUFFER_SLOTS : ℕ := 64

structure BufferTracker where
  mRequestedSurfaces : List ℕ
  mReferenceCount : ℕ
  deriving DecidableEq, Repr

namespace BufferTracker

def create (requestedSurfaces : List ℕ) : BufferTracker :=
  ⟨requestedSurfaces, requestedSurfaces.length⟩

def decrementReferenceCountLocked (t : BufferTracker) (surfaceId : ℕ) : BufferTracker :=
  if surfaceId ∈ t.mRequestedSurfaces then
    ⟨t.mRequestedSurfaces.erase surfaceId, t.mReferenceCount - 1⟩
  else t

end BufferTracker

/-- A null pointer is `none`. -/
abbrev OutputSlots := List (Option ℕ)

/-- `outputSlots[slot] = gb`, after the vector is made long enough. -/
def OutputSlots.store (slots : OutputSlots) (slot gb : ℕ) : OutputSlots :=
  (slots ++ List.replicate (slot + 1 - slots.length) none).set slot (some gb)

/-- What a thread has still to do. Each starts with the mutex held and runs until it is
released; `attachBuffer`, `queueBuffer` and `releaseInput` are calls without it. -/
inductive Instr
  | attach (gb : ℕ) (ids todo : List ℕ)
  | attachBuffer (gb surfaceId gbp : ℕ)
  | attached (gb surfaceId gbp slot : ℕ)
  | store (gb surfaceId gbp slot : ℕ)
  | frame (gb : ℕ) (todo : List ℕ)
  | queueBuffer (gb surfaceId gbp : ℕ) (slot : Option ℕ)
  | queued (gb surfaceId : ℕ) (ok bufferReplaced : Bool)
  | dequeued (gbp slot : ℕ) (fence : Bool)
  | decrement (id surfaceId : ℕ)
  | releaseInput (id consumerSlot frameNumber : ℕ) (detach : Bool)
  | disconnect (gbp : ℕ)
  deriving DecidableEq, Repr

/-- Where a buffer of the input is. -/
inductive Input
  | free
  | attaching
  | ready
  | acquired
  | detached
  deriving DecidableEq, Repr

/-- `queue` holds the buffers in the slots of the output queues, with `true` for those that were
queued and not dequeued since; `connected` are the queues that have a producer. `input` and
`requested` are the buffers of the input and the surfaces last requested for them, and `searches`
the buffers that a slot was found for, with what the queue had in it. -/
structure State where
  mOutputs : Map ℕ ℕ := ∅
  mOutputSlots : Map ℕ OutputSlots := ∅
  mBuffers : Map ℕ (Option BufferTracker) := ∅
  mInputSlots : Map ℕ (ℕ × ℕ) := ∅
  mDetachedBuffers : Finset ℕ := ∅
  threads : List (List Instr) := []
  queue : ℕ → ℕ → Option (ℕ × Bool) := fun _ _ ↦ none
  connected : Finset ℕ := ∅
  input : ℕ → Input := fun _ ↦ .free
  requested : ℕ → List ℕ := fun _ ↦ []
  searches : List (ℕ × Option ℕ) := []

/-- What a call answers: the slot of `attachBuffer`, whether `queueBuffer`, or the disconnection,
succeeds and replaces a buffer, the slot and the fence of `dequeueBuffer`, and whether
`detachBuffer` succeeds. -/
structure Answer where
  slot : Option ℕ := none
  ok : Bool := true
  bufferReplaced : Bool := false
  dequeued : Option (ℕ × Bool) := none
  detached : Bool := false

/-- `detached` are the slots whose `detachBuffer` succeeds, and `ok` is whether all that comes
after the connection does. -/
inductive Label
  | attachBufferToOutputs (gb : ℕ) (surface_ids : List ℕ)
  | onFrameAvailable (gb slot frameNumber : ℕ) (mGraphicBuffer mAcquireCalled : Bool)
  | onBufferReleasedByOutput (gbp slot : ℕ) (fence : Bool)
  | addOutput (surfaceId gbp : ℕ) (ok : Bool)
  | removeOutput (surfaceId : ℕ) (detached : List ℕ)
  | run (thread : ℕ) (answer : Answer)

/-- Set one slot of one output queue. -/
def setSlot (queue : ℕ → ℕ → Option (ℕ × Bool)) (gbp slot : ℕ) (x : Option (ℕ × Bool)) :
    ℕ → ℕ → Option (ℕ × Bool) :=
  fun p k ↦ if p = gbp ∧ k = slot then x else queue p k

/-- What is left to do when `attachBufferToOutputs` returns early. -/
def returned : List Instr → List Instr
  | .attach _ _ _ :: rest => rest
  | rest => rest

namespace State

/-- The buffer that is recorded in a slot of an output. -/
def mirror (s : State) (gbp slot : ℕ) : Option ℕ :=
  (s.mOutputSlots.lookup gbp).bind fun slots ↦ slots[slot]?.join

def content (s : State) (gbp slot : ℕ) : Option ℕ := (s.queue gbp slot).map Prod.fst

/-- The tracker of a buffer; an entry can be null. -/
def tracker (s : State) (id : ℕ) : Option BufferTracker := (s.mBuffers.lookup id).join

/-- `none` when the output has no slots. -/
def getSlotForOutputLocked (s : State) (gbp gb : ℕ) : Option (Option ℕ) :=
  (s.mOutputSlots.lookup gbp).map fun slots ↦ slots.findIdx? (· = some gb)

/-- The new state, and the call that has to be made to give the buffer back. -/
def decrementBufRefCountLocked (s : State) (id surfaceId : ℕ) : State × List Instr :=
  match s.tracker id with
  | none => ({ s with mBuffers := s.mBuffers.insert id none }, [])
  | some tracker =>
    let tracker := tracker.decrementReferenceCountLocked surfaceId
    if 0 < tracker.mReferenceCount then
      ({ s with mBuffers := s.mBuffers.insert id (some tracker) }, [])
    else
      let s := { s with mBuffers := s.mBuffers.erase id }
      match s.mInputSlots.entries.find? fun entry ↦ entry.2.1 = id with
      | none => (s, [])
      | some ⟨consumerSlot, _, frameNumber⟩ =>
        if id ∈ s.mDetachedBuffers then
          ({ s with
            mDetachedBuffers := s.mDetachedBuffers.erase id
            mInputSlots := s.mInputSlots.erase consumerSlot },
            [.releaseInput id consumerSlot frameNumber true])
        else (s, [.releaseInput id consumerSlot frameNumber false])

/-! ### attachBufferToOutputs -/

def attach (s : State) (gb : ℕ) (ids : List ℕ) : List ℕ → Option (State × List Instr)
  | [] => some ({ s with
      mBuffers := s.mBuffers.insert gb (some (.create ids))
      input := Function.update s.input gb .ready
      requested := Function.update s.requested gb ids }, [])
  | surface_id :: todo =>
    match s.mOutputs.lookup surface_id with
    | none => some (s, [.attach gb ids todo])
    | some gbp =>
      (s.getSlotForOutputLocked gbp gb).map fun
        | some slot => ({ s with searches := s.searches ++ [(gb, s.content gbp slot)] },
            [.attach gb ids todo])
        | none => (s, [.attachBuffer gb surface_id gbp, .attach gb ids todo])

/-- `attachBuffer` finds a slot that the producer has not dequeued. A failure ends the call of
`attachBufferToOutputs`. -/
def attachBuffer (s : State) (gb surface_id gbp : ℕ) (rest : List Instr) (slot : Option ℕ) :
    Option (State × List Instr) :=
  match slot with
  | none => some ({ s with input := Function.update s.input gb .free }, returned rest)
  | some slot =>
    if gbp ∈ s.connected ∧ slot < NUM_BUFFER_SLOTS ∧
        (s.queue gbp slot).map Prod.snd ≠ some false then
      some ({ s with queue := setSlot s.queue gbp slot (some (gb, false)) },
        .attached gb surface_id gbp slot :: rest)
    else none

/-- The output may have been removed, or removed and added again, during the call. -/
def attached (s : State) (gb surface_id slot : ℕ) (rest : List Instr) : State × List Instr :=
  if NUM_BUFFER_SLOTS < slot then
    ({ s with input := Function.update s.input gb .free }, returned rest)
  else
    match s.mOutputs.lookup surface_id with
    | none => (s, rest)
    | some gbp =>
      if gbp ∈ s.mOutputSlots then
        match s.mirror gbp slot with
        | none => (s, .store gb surface_id gbp slot :: rest)
        | some previous =>
          let (s, calls) := s.decrementBufRefCountLocked previous surface_id
          (s, calls ++ .store gb surface_id gbp slot :: rest)
      else (s, rest)

def store (s : State) (gb gbp slot : ℕ) : Option State :=
  (s.mOutputSlots.lookup gbp).map fun slots ↦
    { s with mOutputSlots := s.mOutputSlots.insert gbp (slots.store slot gb) }

/-! ### The outputs -/

/-- `none` when a null pointer is used. The slots it changes are a copy. -/
def returnOutputBufferLocked (s : State) (gbp surfaceId slot : ℕ) (fence detached : Bool) :
    Option (State × List Instr) :=
  if gbp ∈ s.mOutputSlots then
    match s.mirror gbp slot with
    | none => none
    | some buffer =>
      if fence ∧ s.tracker buffer = none then none
      else if buffer ∈ s.mDetachedBuffers ∧ detached then
        if (s.queue gbp slot).map Prod.snd = some false then
          some ({ s with queue := setSlot s.queue gbp slot none }.decrementBufRefCountLocked
            buffer surfaceId)
        else none
      else some (s.decrementBufRefCountLocked buffer surfaceId)
  else some (s, [])

/-- The successful `dequeueBuffer` of a buffer that an output has released. -/
def dequeueBuffer (s : State) (gbp slot : ℕ) : Option State :=
  match s.queue gbp slot with
  | some (buffer, true) => some { s with queue := setSlot s.queue gbp slot (some (buffer, false)) }
  | _ => none

def onBufferReleasedByOutput (s : State) (gbp slot : ℕ) (fence detached : Bool) :
    Option (State × List Instr) :=
  match s.mOutputs.entries.find? fun entry ↦ entry.2 = gbp with
  | none => some (s, [])
  | some entry => s.returnOutputBufferLocked gbp entry.1 slot fence detached

/-! ### onFrameAvailable -/

/-- The buffer that has been acquired is `gb`. An item comes with its buffer, or `mAcquireCalled`
tells that it is the one that was in the slot before; `none` when a null pointer is used. -/
def onFrameAvailable (s : State) (gb slot frameNumber : ℕ) (mGraphicBuffer mAcquireCalled : Bool) :
    Option (State × List Instr) :=
  let s := { s with input := Function.update s.input gb .acquired }
  if mGraphicBuffer || mAcquireCalled then
    let s := { s with mInputSlots := s.mInputSlots.insert slot (gb, frameNumber) }
    match s.mBuffers.lookup gb with
    | none => some (s, [])
    | some none => none
    | some (some tracker) => some (s, [.frame gb tracker.mRequestedSurfaces])
  else some (s, [])

/-- An iteration of the loop of `onFrameAvailable`, until `queueBuffer` is called. -/
def frame (s : State) (gb : ℕ) : List ℕ → Option (State × List Instr)
  | [] => some (s, [])
  | id :: todo =>
    match s.mOutputs.lookup id with
    | none => some (s, [.frame gb todo])
    | some gbp =>
      if s.tracker gb = none then none
      else
        (s.getSlotForOutputLocked gbp gb).map fun slot ↦
          ({ s with searches := s.searches ++ (slot.map fun k ↦ (gb, s.content gbp k)).toList },
            [.queueBuffer gb id gbp slot, .frame gb todo])

/-- `queueBuffer` accepts the slots that the producer has dequeued. -/
def queueBuffer (s : State) (gb surfaceId gbp : ℕ) (slot : Option ℕ) (ok bufferReplaced : Bool) :
    Option (State × List Instr) :=
  if ok then
    match slot.bind fun k ↦ (s.queue gbp k).map fun x ↦ (k, x) with
    | some (k, buffer, false) =>
      some ({ s with queue := setSlot s.queue gbp k (some (buffer, true)) },
        [.queued gb surfaceId true bufferReplaced])
    | _ => none
  else some (s, [.queued gb surfaceId false false])

/-- `outputBufferLocked` after the call of `queueBuffer`. -/
def queued (s : State) (gb surfaceId : ℕ) (ok bufferReplaced : Bool) (answer : Answer) :
    Option (State × List Instr) :=
  match s.mOutputs.lookup surfaceId with
  | none => some (s, [])
  | some gbp =>
    if gbp ∈ s.mOutputSlots then
      if !ok then some (s.decrementBufRefCountLocked gb surfaceId)
      else if bufferReplaced then
        match answer.dequeued with
        | none => some (s, [])
        | some (slot, fence) => (s.dequeueBuffer gbp slot).bind fun s ↦
            s.returnOutputBufferLocked gbp surfaceId slot fence answer.detached
      else some (s, [])
    else some (s, [])

/-! ### The set of outputs -/

def addOutput (s : State) (surfaceId gbp : ℕ) (ok : Bool) : State :=
  if surfaceId ∈ s.mOutputs then s
  else if gbp ∈ s.connected then s
  else
    let s := { s with connected := insert gbp s.connected }
    if ok then
      { s with
        mOutputs := s.mOutputs.insert surfaceId gbp
        mOutputSlots := s.mOutputSlots.insert gbp (List.replicate NUM_BUFFER_SLOTS none) }
    else s

/-- `removeOutputLocked` until the reference counts are decremented; `none` when a null pointer is
used. The producer has to hold a slot to detach it. -/
def removeOutput (s : State) (surfaceId : ℕ) (detached : List ℕ) :
    Option (State × List Instr) :=
  match s.mOutputs.lookup surfaceId with
  | none => some (s, [])
  | some gbp =>
    match s.mOutputSlots.lookup gbp with
    | none => none
    | some slots =>
      if ∀ k ∈ detached, slots[k]?.join ≠ none ∧ (s.queue gbp k).map Prod.snd = some false then
        let kept := slots.zipIdx.filterMap fun entry ↦
          if entry.2 ∈ detached then none else entry.1
        some ({ s with
          mOutputs := s.mOutputs.erase surfaceId
          mOutputSlots := s.mOutputSlots.erase gbp
          mDetachedBuffers := s.mDetachedBuffers ∪ kept.toFinset
          queue := fun p k ↦ if p = gbp ∧ k ∈ detached then none else s.queue p k },
          slots.reduceOption.map (.decrement · surfaceId) ++ [.disconnect gbp])
      else none

def disconnect (s : State) (gbp : ℕ) (ok : Bool) : State :=
  if ok then
    { s with
      connected := s.connected.erase gbp
      queue := fun p k ↦ if p = gbp then none else s.queue p k }
  else s

/-! ### Runs -/

/-- Run the first instruction of a thread: the new state and the new code of the thread. -/
def exec (s : State) (instr : Instr) (rest : List Instr) (answer : Answer) :
    Option (State × List Instr) :=
  match instr with
  | .attach gb ids todo => (s.attach gb ids todo).map fun r ↦ (r.1, r.2 ++ rest)
  | .attachBuffer gb surface_id gbp => s.attachBuffer gb surface_id gbp rest answer.slot
  | .attached gb surface_id _ slot => some (s.attached gb surface_id slot rest)
  | .store gb _ gbp slot => (s.store gb gbp slot).map fun s ↦ (s, rest)
  | .frame gb todo => (s.frame gb todo).map fun r ↦ (r.1, r.2 ++ rest)
  | .queueBuffer gb surfaceId gbp slot =>
    (s.queueBuffer gb surfaceId gbp slot answer.ok answer.bufferReplaced).map fun r ↦
      (r.1, r.2 ++ rest)
  | .queued gb surfaceId ok bufferReplaced =>
    (s.queued gb surfaceId ok bufferReplaced answer).map fun r ↦ (r.1, r.2 ++ rest)
  | .dequeued gbp slot fence =>
    (s.onBufferReleasedByOutput gbp slot fence answer.detached).map fun r ↦ (r.1, r.2 ++ rest)
  | .decrement id surfaceId =>
    let r := s.decrementBufRefCountLocked id surfaceId
    some (r.1, r.2 ++ rest)
  | .releaseInput id _ _ detach =>
    some ({ s with
      input := Function.update s.input id (if detach then .detached else .free) }, rest)
  | .disconnect gbp => some (s.disconnect gbp answer.ok, rest)

def spawn (s : State) (code : List Instr) : State := { s with threads := s.threads ++ [code] }

def step (s : State) : Label → Option State
  | .attachBufferToOutputs gb surface_ids =>
    some ({ s with input := Function.update s.input gb .attaching }.spawn
      [.attach gb surface_ids surface_ids])
  | .onFrameAvailable gb slot frameNumber mGraphicBuffer mAcquireCalled =>
    if !mGraphicBuffer && mAcquireCalled && (s.mInputSlots.lookup slot).map Prod.fst ≠ some gb then
      none
    else
      (s.onFrameAvailable gb slot frameNumber mGraphicBuffer mAcquireCalled).map fun r ↦
        r.1.spawn r.2
  | .onBufferReleasedByOutput gbp slot fence =>
    (s.dequeueBuffer gbp slot).map fun s ↦ s.spawn [.dequeued gbp slot fence]
  | .addOutput surfaceId gbp ok => some (s.addOutput surfaceId gbp ok)
  | .removeOutput surfaceId detached =>
    (s.removeOutput surfaceId detached).map fun r ↦ r.1.spawn r.2
  | .run thread answer =>
    match s.threads[thread]? with
    | some (instr :: rest) =>
      (s.exec instr rest answer).map fun r ↦ { r.1 with threads := s.threads.set thread r.2 }
    | _ => none

def Step : State → Label → State → Prop := ofPartial step

end State

end VirtualCamera.Splitter
