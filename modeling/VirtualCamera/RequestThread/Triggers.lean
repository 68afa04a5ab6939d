import VirtualCamera.RequestThread.Settings

namespace VirtualCamera.RequestThread

open Library.Assoc

structure RequestTrigger where
  metadataTag : Tag
  entryValue : ℤ
  deriving DecidableEq, Repr

/-- The two tags that go into the extras of the results and not into the settings. -/
def Tag.isTriggerId (tag : Tag) : Bool := tag = .controlAfTriggerId || tag = .controlAePrecaptureId

/-- A trigger in the map, of one of the two types that are let in. `serial` counts the triggers
that were queued before it, `since` the requests that had been prepared by then. -/
structure QueuedTrigger extends RequestTrigger where
  supported : metadataTag.type ≠ .other
  serial : ℕ
  since : ℕ
  deriving DecidableEq

namespace QueuedTrigger

/-- What a trigger writes under its tag. -/
def data (trigger : QueuedTrigger) : List ℤ :=
  match trigger.metadataTag.type with
  | .byte => [trigger.entryValue % 2 ^ 8]
  | _ => [trigger.entryValue]

def withValue (trigger : QueuedTrigger) (value : ℤ) : QueuedTrigger :=
  { trigger with entryValue := value }

def mixes (trigger : QueuedTrigger) : Bool := !trigger.metadataTag.isTriggerId

end QueuedTrigger

/-- The state `mTriggerMutex` guards, less the overrides. `prepared` counts the requests that
took what was in the map, and the three lists keep every trigger that was queued, those that a
later one for the same tag replaced and those that `clear` threw away. -/
structure Triggers where
  mTriggerMap : Map Tag QueuedTrigger := ∅
  mTriggerReplacedMap : Map Tag QueuedTrigger := ∅
  mTriggerRemovedMap : Map Tag QueuedTrigger := ∅
  mCurrentAfTriggerId : ℤ := 0
  mCurrentPreCaptureTriggerId : ℤ := 0
  prepared : ℕ := 0
  queued : List QueuedTrigger := []
  overwritten : List QueuedTrigger := []
  discarded : List QueuedTrigger := []

namespace Triggers

/-- `none` is `INVALID_OPERATION`. -/
def queueTriggerLocked (t : Triggers) (trigger : RequestTrigger) : Option Triggers :=
  if h : trigger.metadataTag.type = .other then none
  else
    let entry : QueuedTrigger :=
      { trigger with supported := h, serial := t.queued.length, since := t.prepared }
    some { t with
      mTriggerMap := t.mTriggerMap.insert trigger.metadataTag entry
      queued := t.queued ++ [entry]
      overwritten := t.overwritten ++ (t.mTriggerMap.lookup trigger.metadataTag).toList }

def queueTrigger (t : Triggers) : List RequestTrigger → Triggers
  | [] => t
  | trigger :: rest =>
    match t.queueTriggerLocked trigger with
    | none => t
    | some t => t.queueTrigger rest

def clear (t : Triggers) : Triggers :=
  { t with
    mTriggerMap := ∅
    discarded := t.discarded ++ t.mTriggerMap.entries.map (·.snd) }

/-- One turn of the loop of `insertTriggers`. -/
def mixIn (p : Triggers × CaptureRequest) (trigger : QueuedTrigger) : Triggers × CaptureRequest :=
  let (t, request) := p
  let triggerId := trigger.entryValue % 2 ^ 32
  if trigger.metadataTag = .controlAePrecaptureId then
    ({ t with mCurrentPreCaptureTriggerId := triggerId },
      { request with
        mResultExtras := { request.mResultExtras with precaptureTriggerId := triggerId } })
  else if trigger.metadataTag = .controlAfTriggerId then
    ({ t with mCurrentAfTriggerId := triggerId },
      { request with mResultExtras := { request.mResultExtras with afTriggerId := triggerId } })
  else
    let request' := request.setMetadata
      (request.metadata.update trigger.metadataTag trigger.data)
    match request.metadata.find trigger.metadataTag with
    | value :: _ =>
      -- only the first byte of the old entry is kept
      let oldTrigger := trigger.withValue (value % 2 ^ 8)
      ({ t with
        mTriggerReplacedMap := t.mTriggerReplacedMap.insert trigger.metadataTag oldTrigger },
        request')
    | [] =>
      ({ t with
        mTriggerRemovedMap := t.mTriggerRemovedMap.insert trigger.metadataTag trigger },
        request')

/-- The triggers of the map, in the order of the loop. -/
def pending (t : Triggers) : List QueuedTrigger := t.mTriggerMap.entries.map (·.snd)

def insertTriggers (t : Triggers) (request : CaptureRequest) : ℕ × Triggers × CaptureRequest :=
  let (t', request) := t.pending.foldl mixIn (t, request)
  (t.pending.length, { t' with mTriggerMap := ∅, prepared := t.prepared + 1 }, request)

def restore (t : Triggers) (m : Metadata) : Metadata :=
  let m := t.mTriggerReplacedMap.entries.foldl
    (fun m entry ↦ m.update entry.snd.metadataTag entry.snd.data) m
  t.mTriggerRemovedMap.entries.foldl (fun m entry ↦ m.erase entry.snd.metadataTag) m

def removeTriggers (t : Triggers) (request : CaptureRequest) : Triggers × CaptureRequest :=
  ({ t with mTriggerReplacedMap := ∅, mTriggerRemovedMap := ∅ },
    request.setMetadata (t.restore request.metadata))

/-- No trigger is mixed in at the moment. -/
def Clean (t : Triggers) : Prop := t.mTriggerReplacedMap = ∅ ∧ t.mTriggerRemovedMap = ∅

instance (t : Triggers) : Decidable t.Clean :=
  inferInstanceAs (Decidable (t.mTriggerReplacedMap = ∅ ∧ t.mTriggerRemovedMap = ∅))

theorem Clean.restore {t : Triggers} (h : t.Clean) (m : Metadata) : t.restore m = m := by
  unfold Triggers.restore
  rw [h.1, h.2]
  rfl

theorem Clean.removeTriggers {t : Triggers} (h : t.Clean) (request : CaptureRequest) :
    t.removeTriggers request = (t, request) := by
  unfold Triggers.removeTriggers
  rw [h.restore, CaptureRequest.setMetadata_metadata]
  cases t
  obtain ⟨rfl, rfl⟩ := h
  rfl

theorem maps_queueTrigger (t : Triggers) (trigger : List RequestTrigger) :
    (t.queueTrigger trigger).mTriggerReplacedMap = t.mTriggerReplacedMap ∧
      (t.queueTrigger trigger).mTriggerRemovedMap = t.mTriggerRemovedMap := by
  induction trigger generalizing t with
  | nil => exact ⟨rfl, rfl⟩
  | cons trigger rest ih =>
    simp only [queueTrigger, queueTriggerLocked]
    split
    · exact ⟨rfl, rfl⟩
    · rename_i t' he
      split at he
      · cases he
      · cases he
        exact ih _

end Triggers

/-- HAL workaround: a trigger always goes with an id. -/
def addFakeTriggerIds (m : Metadata) : Metadata :=
  let fakeTriggerId : ℤ := 1
  let m' :=
    match m.find .controlAfTrigger with
    | afTrigger :: _ =>
      if afTrigger % 2 ^ 8 ≠ ANDROID_CONTROL_AF_TRIGGER_IDLE ∧ m.find .controlAfTriggerId = [] then
        m.update .controlAfTriggerId [fakeTriggerId]
      else m
    | [] => m
  match m'.find .controlAePrecaptureTrigger with
  | pcTrigger :: _ =>
    if pcTrigger % 2 ^ 8 ≠ ANDROID_CONTROL_AE_PRECAPTURE_TRIGGER_IDLE ∧
        m'.find .controlAePrecaptureId = [] then
      m'.update .controlAePrecaptureId [fakeTriggerId]
    else m'
  | [] => m'

end VirtualCamera.RequestThread
