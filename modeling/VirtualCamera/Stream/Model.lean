import VirtualCamera.StatusTracker.Model

namespace VirtualCamera.Stream

open Library Library.Transition

inductive Status
  | OK
  | BAD_VALUE
  | INVALID_OPERATION
  | NOT_ENOUGH_DATA
  | NO_INIT
  | DEAD_OBJECT
  | OTHER (code : ℤ)
  deriving DecidableEq, Repr

inductive StreamState
  | ERROR
  | CONSTRUCTED
  | IN_CONFIG
  | IN_RECONFIG
  | CONFIGURED
  | PREPARING
  | ABANDONED
  | IN_IDLE
  deriving DecidableEq, Repr

inductive BufferStatus
  | OK
  | ERROR
  deriving DecidableEq, Repr

/-- `camera_stream_buffer`, with the handle that its pointer leads to. -/
structure StreamBuffer where
  buffer : Option ℕ := none
  status : BufferStatus := .OK
  release_fence : ℤ := 0
  deriving DecidableEq, Repr

def NO_STATUS_ID : ℤ := -1

def ALLOCATE_PIPELINE_MAX : ℕ := 0

/-- There is no tracker once it cannot be promoted. -/
structure Camera3Stream (F : Type) where
  mState : StreamState := .CONSTRUCTED
  mStatusTracker : Option (StatusTracker.State F) := none
  mStatusId : ℤ := NO_STATUS_ID
  mStreamUnpreparable : Bool := true
  mUsage : ℕ := 0
  mOldUsage : ℕ := 0
  max_buffers : ℕ := 0
  mOldMaxBuffers : ℕ := 0
  format : ℤ
  mOldFormat : ℤ := -1
  data_space : ℤ
  mOldDataSpace : ℤ := 0
  mPrepared : Bool := false
  mPrepareBlockRequest : Bool := true
  mPreparedBuffers : List StreamBuffer := []
  mPreparedBufferIdx : ℕ := 0
  mLastMaxCount : ℕ := ALLOCATE_PIPELINE_MAX
  mOutstandingBuffers : List ℕ := []
  mLastTimestamp : ℤ := 0

/-- What `disconnectLocked` did. -/
inductive Disconnect
  | disconnected
  | notConnected
  | failed (res : Status) (toError : Bool)
  deriving DecidableEq, Repr

variable {F : Type}

namespace Camera3Stream

/-- `sized` is false for a format that needs a size and has none. -/
def create (tracker : Option (StatusTracker.State F)) (format dataSpace : ℤ) (sized : Bool) :
    Camera3Stream F :=
  { mStatusTracker := tracker
    format := format
    data_space := dataSpace
    mState := if sized then .CONSTRUCTED else .ERROR }

/-! ### Configuration -/

def stopTracking (s : Camera3Stream F) : Camera3Stream F :=
  if s.mStatusId = NO_STATUS_ID then s
  else
    { s with
      mStatusTracker := s.mStatusTracker.map fun tracker ↦ tracker.removeComponent s.mStatusId
      mStatusId := NO_STATUS_ID }

def saveOld (s : Camera3Stream F) : Camera3Stream F :=
  { s with
    mOldUsage := s.mUsage
    mOldMaxBuffers := s.max_buffers
    mOldFormat := s.format
    mOldDataSpace := s.data_space }

/-- `startConfiguration` from a state that it accepts. What `getEndpointUsage` writes is kept
also where it fails. -/
def beginConfiguration (s : Camera3Stream F) (getEndpointUsage : Status × ℕ) :
    Bool × Camera3Stream F :=
  let s := { s.saveOld with mUsage := getEndpointUsage.2 }
  if getEndpointUsage.1 ≠ .OK then (false, s)
  else if s.mState = .IN_IDLE then (true, s)
  else
    let s := s.stopTracking
    (true, { s with mState := if s.mState = .CONSTRUCTED then .IN_CONFIG else .IN_RECONFIG })

/-- Whether a stream is returned. -/
def startConfiguration (s : Camera3Stream F) (hasOutstandingBuffersLocked : Bool)
    (getEndpointUsage : Status × ℕ) : Bool × Camera3Stream F :=
  match s.mState with
  | .ERROR | .PREPARING | .ABANDONED => (false, s)
  | .IN_CONFIG | .IN_RECONFIG => (true, s)
  | .CONSTRUCTED | .IN_IDLE => s.beginConfiguration getEndpointUsage
  | .CONFIGURED =>
    if hasOutstandingBuffersLocked then (false, s) else s.beginConfiguration getEndpointUsage

/-- What the HAL and the device change while the stream is configured. -/
def modify (s : Camera3Stream F) (usage max_buffers : ℕ) (format data_space : ℤ) :
    Camera3Stream F :=
  { s with mUsage := usage, max_buffers := max_buffers, format := format, data_space := data_space }

def startTracking (s : Camera3Stream F) : Camera3Stream F :=
  match s.mStatusTracker with
  | none => s
  | some tracker =>
    if s.mStatusId = NO_STATUS_ID then
      { s with mStatusTracker := some tracker.addComponent, mStatusId := tracker.mNextComponentId }
    else s

def Unchanged (s : Camera3Stream F) : Prop :=
  s.mState = .IN_RECONFIG ∧ s.mOldUsage = s.mUsage ∧ s.mOldMaxBuffers = s.max_buffers ∧
    s.mOldDataSpace = s.data_space ∧ s.mOldFormat = s.format

instance (s : Camera3Stream F) : Decidable s.Unchanged := inferInstanceAs (Decidable (_ ∧ _))

def resetPrepared (s : Camera3Stream F) : Camera3Stream F :=
  { s with mPrepared := false, mPrepareBlockRequest := true, mStreamUnpreparable := false }

/-- `finishConfiguration` from where the configuration has changed; the flag is
`streamReconfigured`. -/
def reconfigure (s : Camera3Stream F) (configureQueueLocked : Status) :
    Status × Bool × Camera3Stream F :=
  let s := s.resetPrepared
  let reconfiguring : Bool := s.mState = .IN_RECONFIG
  match configureQueueLocked with
  | .OK => (.OK, reconfiguring, { s with mState := .CONFIGURED })
  | .NO_INIT => (.NO_INIT, false, { s with mState := .ABANDONED })
  | .DEAD_OBJECT => (.DEAD_OBJECT, false, { s with mState := .ABANDONED })
  | res => (res, false, { s with mState := .ERROR })

def finishConfiguration (s : Camera3Stream F) (configureQueueLocked : Status) :
    Status × Bool × Camera3Stream F :=
  match s.mState with
  | .IN_CONFIG | .IN_RECONFIG =>
    let s := s.startTracking
    if s.Unchanged then (.OK, false, { s with mState := .CONFIGURED })
    else s.reconfigure configureQueueLocked
  | .IN_IDLE => (.OK, false, s)
  | _ => (.INVALID_OPERATION, false, s)

/-- The stream after its configuration was cancelled. -/
def restored (s : Camera3Stream F) : Camera3Stream F :=
  { s with
    mUsage := s.mOldUsage
    max_buffers := s.mOldMaxBuffers
    mState := if s.mState = .IN_RECONFIG ∨ s.mState = .IN_IDLE then .CONFIGURED
      else .CONSTRUCTED }

def cancelConfiguration (s : Camera3Stream F) : Status × Camera3Stream F :=
  match s.mState with
  | .IN_CONFIG | .IN_RECONFIG | .IN_IDLE => (.OK, s.restored)
  | _ => (.INVALID_OPERATION, s)

def forceToIdle (s : Camera3Stream F) (hasOutstandingBuffersLocked : Bool) (NO_FENCE : F) :
    Status × Camera3Stream F :=
  match s.mState with
  | .CONFIGURED =>
    let tracker := if hasOutstandingBuffersLocked then
      s.mStatusTracker.map fun tracker ↦ tracker.markComponent s.mStatusId .IDLE NO_FENCE
      else s.mStatusTracker
    (.OK, { s with mStatusTracker := tracker, mState := .IN_IDLE })
  | _ => (.NO_INIT, s)

def restoreConfiguredState (s : Camera3Stream F) (hasOutstandingBuffersLocked : Bool)
    (NO_FENCE : F) : Status × Camera3Stream F :=
  match s.mState with
  | .IN_IDLE =>
    let tracker := if hasOutstandingBuffersLocked then
      s.mStatusTracker.map fun tracker ↦ tracker.markComponent s.mStatusId .ACTIVE NO_FENCE
      else s.mStatusTracker
    (.OK, { s with mStatusTracker := tracker, mState := .CONFIGURED })
  | _ => (.NO_INIT, s)

/-! ### Preparation -/

/-- `bufferCount`, where `pipelineMax` is what `getBufferCountLocked` returns. -/
def bufferCount (pipelineMax : ℕ) (maxCount : ℤ) : ℕ :=
  let clampedCount := if pipelineMax < maxCount.toNat then pipelineMax else maxCount.toNat
  if maxCount = ALLOCATE_PIPELINE_MAX then pipelineMax else clampedCount

def beginPrepare (s : Camera3Stream F) (count : ℕ) (blockRequest : Bool) : Camera3Stream F :=
  { s with
    mPrepared := false
    mPrepareBlockRequest := blockRequest
    mLastMaxCount := count
    mPreparedBuffers := List.replicate count ({} : StreamBuffer) ++ s.mPreparedBuffers
    mPreparedBufferIdx := 0
    mState := .PREPARING }

/-- `handout` is what `getHandoutOutputBufferCountLocked` returns. -/
def startPrepare (s : Camera3Stream F) (maxCount : ℤ) (blockRequest : Bool)
    (pipelineMax handout : ℕ) : Status × Camera3Stream F :=
  if maxCount < 0 then (.BAD_VALUE, s)
  else if s.mState ≠ .CONFIGURED then (.INVALID_OPERATION, s)
  else if s.mStreamUnpreparable then (.INVALID_OPERATION, s)
  else if handout > 0 then (.INVALID_OPERATION, s)
  else
    let count := bufferCount pipelineMax maxCount
    if count ≤ s.mLastMaxCount then
      (.OK, { s with mPrepared := true, mPrepareBlockRequest := blockRequest })
    else (.NOT_ENOUGH_DATA, s.beginPrepare count blockRequest)

/-- The buffers that go back to the queue. -/
def returned (s : Camera3Stream F) : List StreamBuffer :=
  (s.mPreparedBuffers.take s.mPreparedBufferIdx).map fun b ↦
    { b with release_fence := -1, status := .ERROR }

def endPrepare (s : Camera3Stream F) : Camera3Stream F :=
  { s with mPreparedBuffers := [], mPreparedBufferIdx := 0, mState := .CONFIGURED }

def cancelPrepareLocked (s : Camera3Stream F) : Status × List StreamBuffer × Camera3Stream F :=
  if s.mState ≠ .PREPARING then (.INVALID_OPERATION, [], s)
  else (.OK, s.returned, s.endPrepare)

def cancelPrepare (s : Camera3Stream F) : Status × List StreamBuffer × Camera3Stream F :=
  s.cancelPrepareLocked

def addPrepared (s : Camera3Stream F) (buffer : StreamBuffer) : Camera3Stream F :=
  { s with
    mPreparedBuffers := s.mPreparedBuffers.set s.mPreparedBufferIdx buffer
    mPreparedBufferIdx := s.mPreparedBufferIdx + 1 }

def prepareNextBuffer (s : Camera3Stream F) (getBufferLocked : Except Status StreamBuffer) :
    Status × List StreamBuffer × Camera3Stream F :=
  if s.mState ≠ .PREPARING then (.INVALID_OPERATION, [], s)
  else
    match getBufferLocked with
    | .error _ => (.NO_INIT, [], s)
    | .ok buffer =>
      let s := s.addPrepared buffer
      if s.mPreparedBufferIdx < s.mPreparedBuffers.length then (.NOT_ENOUGH_DATA, [], s)
      else { s with mPrepared := true }.cancelPrepareLocked

def tearDown (s : Camera3Stream F) (handout : ℕ) (disconnectLocked : Disconnect)
    (configureQueueLocked : Status) : Status × Camera3Stream F :=
  if s.mState ≠ .CONFIGURED then (.INVALID_OPERATION, s)
  else if handout > 0 then (.INVALID_OPERATION, s)
  else
    match disconnectLocked with
    | .notConnected => (.OK, s)
    | .failed res toError => (res, if toError then { s with mState := .ERROR } else s)
    | .disconnected =>
      match configureQueueLocked with
      | .OK =>
        (.OK, { s with mPrepared := false, mStreamUnpreparable := false, mState := .CONFIGURED })
      | res => (res, { s with mState := .ERROR })

def markUnpreparable (s : Camera3Stream F) : Camera3Stream F :=
  { s with mStreamUnpreparable := true }

/-! ### Buffers -/

/-- A wait for a returned buffer ends with a status and the new number of buffers handed out; the
output stream is abandoned when its queue is. -/
def getBuffer (s : Camera3Stream F) (handout : ℕ) (wait : Status × ℕ)
    (getBufferLocked : Except Status StreamBuffer) : Status × Camera3Stream F :=
  if s.mState ≠ .CONFIGURED then
    (if s.mState = .ABANDONED then .DEAD_OBJECT else .INVALID_OPERATION, s)
  else if handout = s.max_buffers ∧ wait.1 ≠ .OK then (wait.1, s)
  else if handout = s.max_buffers ∧ wait.2 ≥ handout then (.INVALID_OPERATION, s)
  else
    match getBufferLocked with
    | .error res =>
      (res, if res = .NO_INIT ∨ res = .DEAD_OBJECT then { s with mState := .ABANDONED } else s)
    | .ok buffer =>
      (.OK, { s with mOutstandingBuffers := s.mOutstandingBuffers ++ buffer.buffer.toList })

def isOutstandingBuffer (s : Camera3Stream F) (buffer : StreamBuffer) : Bool :=
  match buffer.buffer with
  | none => false
  | some b => b ∈ s.mOutstandingBuffers

def removeOutstandingBuffer (s : Camera3Stream F) (buffer : StreamBuffer) : Camera3Stream F :=
  match buffer.buffer with
  | none => s
  | some b => { s with mOutstandingBuffers := s.mOutstandingBuffers.erase b }

/-- The buffer that is passed on to `returnBufferLocked`, unless it is not known. -/
def returnBuffer (s : Camera3Stream F) (buffer : StreamBuffer) (timestamp : ℤ)
    (timestampIncreasing : Bool) : Option StreamBuffer × Camera3Stream F :=
  if !s.isOutstandingBuffer buffer then (none, s)
  else
    let s := s.removeOutstandingBuffer buffer
    let b := if timestampIncreasing ∧ timestamp ≠ 0 ∧ timestamp ≤ s.mLastTimestamp then
      { buffer with status := .ERROR } else buffer
    (some b, { s with mLastTimestamp := timestamp })

/-! ### What a call can do -/

variable {s : Camera3Stream F}

theorem startConfiguration_cases (hasOutstanding : Bool) (usage : Status × ℕ) :
    s.startConfiguration hasOutstanding usage = s.beginConfiguration usage ∧
        s.mState ∈ [.CONSTRUCTED, .IN_IDLE, .CONFIGURED] ∨
      s.startConfiguration hasOutstanding usage = (true, s) ∧
        s.mState ∈ [.IN_CONFIG, .IN_RECONFIG] ∨
      s.startConfiguration hasOutstanding usage = (false, s) := by
  unfold startConfiguration
  cases h : s.mState with
  | CONFIGURED =>
    dsimp only
    split
    · exact .inr (.inr rfl)
    · exact .inl ⟨rfl, by decide⟩
  | CONSTRUCTED => exact .inl ⟨rfl, by decide⟩
  | IN_IDLE => exact .inl ⟨rfl, by decide⟩
  | IN_CONFIG => exact .inr (.inl ⟨rfl, by decide⟩)
  | IN_RECONFIG => exact .inr (.inl ⟨rfl, by decide⟩)
  | ERROR => exact .inr (.inr rfl)
  | PREPARING => exact .inr (.inr rfl)
  | ABANDONED => exact .inr (.inr rfl)

def begun (s : Camera3Stream F) (usage : ℕ) : Camera3Stream F :=
  { ({ s.saveOld with mUsage := usage } : Camera3Stream F).stopTracking with
    mState := if s.mState = .CONSTRUCTED then .IN_CONFIG else .IN_RECONFIG }

theorem stopTracking_mState (s : Camera3Stream F) : s.stopTracking.mState = s.mState := by
  unfold stopTracking
  split <;> rfl

theorem beginConfiguration_cases (usage : Status × ℕ) :
    s.beginConfiguration usage = (false, { s.saveOld with mUsage := usage.2 }) ∨
      s.mState = .IN_IDLE ∧
        s.beginConfiguration usage = (true, { s.saveOld with mUsage := usage.2 }) ∨
      s.mState ≠ .IN_IDLE ∧ s.beginConfiguration usage = (true, s.begun usage.2) := by
  by_cases hfailed : usage.1 ≠ .OK
  · exact .inl (if_pos hfailed)
  · have hcall : s.beginConfiguration usage = if s.mState = .IN_IDLE then
        (true, { s.saveOld with mUsage := usage.2 }) else _ := if_neg hfailed
    rw [hcall]
    by_cases hidle : s.mState = .IN_IDLE
    · exact .inr (.inl ⟨hidle, if_pos hidle⟩)
    · refine .inr (.inr ⟨hidle, (if_neg hidle).trans ?_⟩)
      dsimp only
      rw [begun, stopTracking_mState]
      rfl

theorem reconfigure_cases (configureQueue : Status) :
    ∃ m, (s.reconfigure configureQueue).2.2 = { s.resetPrepared with mState := m } ∧
      (configureQueue = .OK ∧ m = .CONFIGURED ∨
        configureQueue ≠ .OK ∧ m ∈ [.ABANDONED, .ERROR]) := by
  cases configureQueue with
  | OK => exact ⟨_, rfl, .inl ⟨rfl, rfl⟩⟩
  | NO_INIT => exact ⟨_, rfl, .inr ⟨by decide, by decide⟩⟩
  | DEAD_OBJECT => exact ⟨_, rfl, .inr ⟨by decide, by decide⟩⟩
  | BAD_VALUE => exact ⟨_, rfl, .inr ⟨by decide, by decide⟩⟩
  | INVALID_OPERATION => exact ⟨_, rfl, .inr ⟨by decide, by decide⟩⟩
  | NOT_ENOUGH_DATA => exact ⟨_, rfl, .inr ⟨by decide, by decide⟩⟩
  | OTHER code => exact ⟨_, rfl, .inr ⟨by simp, by decide⟩⟩

/-- A configuration that changes something; the allocations are no longer valid after it. -/
def Reconfigures (s : Camera3Stream F) : Prop :=
  s.mState ∈ [.IN_CONFIG, .IN_RECONFIG] ∧ ¬ s.Unchanged

instance (s : Camera3Stream F) : Decidable s.Reconfigures := inferInstanceAs (Decidable (_ ∧ _))

theorem startTracking_unchanged (s : Camera3Stream F) :
    s.startTracking.Unchanged ↔ s.Unchanged := by
  unfold startTracking
  split
  · rfl
  · split <;> rfl

theorem finishConfiguration_cases (configureQueue : Status) :
    ¬ s.Reconfigures ∧ ((s.finishConfiguration configureQueue).2.2 = s ∨
        s.mState = .IN_RECONFIG ∧ (s.finishConfiguration configureQueue).2.2 =
          { s.startTracking with mState := .CONFIGURED }) ∨
      s.Reconfigures ∧
        s.finishConfiguration configureQueue = s.startTracking.reconfigure configureQueue := by
  have hconfig (h : s.mState ∈ [.IN_CONFIG, .IN_RECONFIG]) :
      s.finishConfiguration configureQueue =
        if s.startTracking.Unchanged then
          (.OK, false, { s.startTracking with mState := .CONFIGURED })
        else s.startTracking.reconfigure configureQueue := by
    unfold finishConfiguration
    rcases List.mem_pair.mp h with h | h <;> rw [h]
  by_cases h : s.mState ∈ [.IN_CONFIG, .IN_RECONFIG]
  · rw [hconfig h]
    have hiff := s.startTracking_unchanged
    by_cases hsame : s.startTracking.Unchanged
    · rw [if_pos hsame]
      exact .inl ⟨fun hre ↦ hre.2 (hiff.mp hsame), .inr ⟨(hiff.mp hsame).1, rfl⟩⟩
    · rw [if_neg hsame]
      exact .inr ⟨⟨h, fun hs ↦ hsame (hiff.mpr hs)⟩, rfl⟩
  · refine .inl ⟨fun hre ↦ h hre.1, .inl ?_⟩
    unfold finishConfiguration
    cases hs : s.mState with
    | IN_CONFIG => exact absurd (by simp [hs]) h
    | IN_RECONFIG => exact absurd (by simp [hs]) h
    | _ => rfl

theorem cancelConfiguration_cases :
    s.cancelConfiguration = (.OK, s.restored) ∧
        s.mState ∈ [.IN_CONFIG, .IN_RECONFIG, .IN_IDLE] ∨
      s.cancelConfiguration = (.INVALID_OPERATION, s) := by
  unfold cancelConfiguration
  cases h : s.mState with
  | IN_CONFIG => exact .inl ⟨rfl, by decide⟩
  | IN_RECONFIG => exact .inl ⟨rfl, by decide⟩
  | IN_IDLE => exact .inl ⟨rfl, by decide⟩
  | _ => exact .inr rfl

theorem forceToIdle_cases (hasOutstanding : Bool) (NO_FENCE : F) :
    (s.forceToIdle hasOutstanding NO_FENCE).2 = s ∨
      s.mState = .CONFIGURED ∧ ∃ tracker, (s.forceToIdle hasOutstanding NO_FENCE).2 =
        { s with mStatusTracker := tracker, mState := .IN_IDLE } := by
  unfold forceToIdle
  cases h : s.mState with
  | CONFIGURED => exact .inr ⟨rfl, _, rfl⟩
  | _ => exact .inl rfl

theorem restoreConfiguredState_cases (hasOutstanding : Bool) (NO_FENCE : F) :
    (s.restoreConfiguredState hasOutstanding NO_FENCE).2 = s ∨
      s.mState = .IN_IDLE ∧ ∃ tracker, (s.restoreConfiguredState hasOutstanding NO_FENCE).2 =
        { s with mStatusTracker := tracker, mState := .CONFIGURED } := by
  unfold restoreConfiguredState
  cases h : s.mState with
  | IN_IDLE => exact .inr ⟨rfl, _, rfl⟩
  | _ => exact .inl rfl

theorem startPrepare_cases (maxCount : ℤ) (blockRequest : Bool) (pipelineMax handout : ℕ) :
    (∃ e, s.startPrepare maxCount blockRequest pipelineMax handout = (e, s) ∧ e ≠ .OK) ∨
      s.mState = .CONFIGURED ∧ s.mStreamUnpreparable = false ∧
        (bufferCount pipelineMax maxCount ≤ s.mLastMaxCount ∧
            s.startPrepare maxCount blockRequest pipelineMax handout =
              (.OK, { s with mPrepared := true, mPrepareBlockRequest := blockRequest }) ∨
          s.mLastMaxCount < bufferCount pipelineMax maxCount ∧
            s.startPrepare maxCount blockRequest pipelineMax handout =
              (.NOT_ENOUGH_DATA, s.beginPrepare (bufferCount pipelineMax maxCount) blockRequest)) := by
  unfold startPrepare
  by_cases hcount : maxCount < 0
  · exact .inl ⟨_, if_pos hcount, by decide⟩
  rw [if_neg hcount]
  by_cases hstate : s.mState = .CONFIGURED
  · rw [if_neg (not_not.mpr hstate)]
    cases hunprep : s.mStreamUnpreparable with
    | true => exact .inl ⟨_, if_pos rfl, by decide⟩
    | false =>
      rw [if_neg Bool.false_ne_true]
      by_cases hhandout : handout > 0
      · exact .inl ⟨_, if_pos hhandout, by decide⟩
      rw [if_neg hhandout]
      refine .inr ⟨hstate, rfl, ?_⟩
      by_cases hle : bufferCount pipelineMax maxCount ≤ s.mLastMaxCount
      · exact .inl ⟨hle, if_pos hle⟩
      · exact .inr ⟨not_le.mp hle, if_neg hle⟩
  · exact .inl ⟨_, if_pos hstate, by decide⟩

theorem cancelPrepare_cases :
    s.cancelPrepare.2.2 = s ∧ s.mState ≠ .PREPARING ∨
      s.mState = .PREPARING ∧ s.cancelPrepare.2.2 = s.endPrepare := by
  unfold cancelPrepare cancelPrepareLocked
  by_cases hstate : s.mState = .PREPARING
  · rw [if_neg (not_not.mpr hstate)]
    exact .inr ⟨hstate, rfl⟩
  · rw [if_pos hstate]
    exact .inl ⟨rfl, hstate⟩

/-- The call that gets the last buffer. -/
def Completes (s : Camera3Stream F) (getBufferLocked : Except Status StreamBuffer) : Prop :=
  s.mState = .PREPARING ∧ getBufferLocked.toOption.isSome ∧
    s.mPreparedBuffers.length ≤ s.mPreparedBufferIdx + 1

instance (s : Camera3Stream F) (next : Except Status StreamBuffer) : Decidable (s.Completes next) :=
  inferInstanceAs (Decidable (_ ∧ _))

theorem prepareNextBuffer_cases (next : Except Status StreamBuffer) :
    ¬ s.Completes next ∧ ((s.prepareNextBuffer next).2.2 = s ∨
        s.mState = .PREPARING ∧ s.mPreparedBufferIdx + 1 < s.mPreparedBuffers.length ∧
          ∃ b, (s.prepareNextBuffer next).2.2 = s.addPrepared b) ∨
      s.Completes next ∧ ∃ b, (s.prepareNextBuffer next).2.2 =
        { s.addPrepared b with mPrepared := true }.endPrepare := by
  unfold prepareNextBuffer
  by_cases hstate : s.mState = .PREPARING
  · rw [if_neg (not_not.mpr hstate)]
    cases next with
    | error res => exact .inl ⟨fun h ↦ Bool.false_ne_true h.2.1, .inl rfl⟩
    | ok buffer =>
      have hlength : (s.addPrepared buffer).mPreparedBuffers.length = s.mPreparedBuffers.length :=
        List.length_set
      have hidx : (s.addPrepared buffer).mPreparedBufferIdx = s.mPreparedBufferIdx + 1 := rfl
      dsimp only
      rw [hlength, hidx]
      by_cases hlt : s.mPreparedBufferIdx + 1 < s.mPreparedBuffers.length
      · refine .inl ⟨fun h ↦ absurd h.2.2 (by omega), .inr ⟨hstate, hlt, buffer, ?_⟩⟩
        rw [if_pos hlt]
      · refine .inr ⟨⟨hstate, rfl, not_lt.mp hlt⟩, buffer, ?_⟩
        rw [if_neg hlt, cancelPrepareLocked]
        exact congrArg (fun r : Status × List StreamBuffer × Camera3Stream F ↦ r.2.2)
          (if_neg (not_not.mpr hstate))
  · rw [if_pos hstate]
    exact .inl ⟨fun h ↦ hstate h.1, .inl rfl⟩

/-- A `tearDown` that finds the stream without its buffers, or frees them. -/
def TornDown (s : Camera3Stream F) (handout : ℕ) (disconnectLocked : Disconnect) : Prop :=
  s.mState = .CONFIGURED ∧ handout = 0 ∧
    (disconnectLocked = .disconnected ∨ disconnectLocked = .notConnected)

instance (s : Camera3Stream F) (handout : ℕ) (disconnect : Disconnect) :
    Decidable (s.TornDown handout disconnect) := inferInstanceAs (Decidable (_ ∧ _))

theorem tearDown_cases (handout : ℕ) (disconnect : Disconnect) (configureQueue : Status) :
    ¬ s.TornDown handout disconnect ∧
        ((s.tearDown handout disconnect configureQueue).2 = s ∨ s.mState = .CONFIGURED ∧
          (s.tearDown handout disconnect configureQueue).2 = { s with mState := .ERROR }) ∨
      s.TornDown handout disconnect ∧
        (disconnect = .notConnected ∧ (s.tearDown handout disconnect configureQueue).2 = s ∨
          disconnect = .disconnected ∧ configureQueue ≠ .OK ∧
            (s.tearDown handout disconnect configureQueue).2 = { s with mState := .ERROR } ∨
          disconnect = .disconnected ∧ configureQueue = .OK ∧
            (s.tearDown handout disconnect configureQueue).2 =
              { s with mPrepared := false, mStreamUnpreparable := false, mState := .CONFIGURED }) := by
  unfold tearDown
  by_cases hstate : s.mState = .CONFIGURED
  · rw [if_neg (not_not.mpr hstate)]
    by_cases hhandout : handout > 0
    · rw [if_pos hhandout]
      exact .inl ⟨fun h ↦ absurd h.2.1 hhandout.ne', .inl rfl⟩
    rw [if_neg hhandout]
    have hzero : handout = 0 := by omega
    cases disconnect with
    | notConnected => exact .inr ⟨⟨hstate, hzero, .inr rfl⟩, .inl ⟨rfl, rfl⟩⟩
    | failed res toError =>
      refine .inl ⟨?_, ?_⟩
      · rintro ⟨-, -, h | h⟩ <;> cases h
      · cases toError with
        | true => exact .inr ⟨hstate, rfl⟩
        | false => exact .inl rfl
    | disconnected =>
      refine .inr ⟨⟨hstate, hzero, .inl rfl⟩, .inr ?_⟩
      cases configureQueue with
      | OK => exact .inr ⟨rfl, rfl, rfl⟩
      | _ => exact .inl ⟨rfl, by simp, rfl⟩
  · rw [if_pos hstate]
    exact .inl ⟨fun h ↦ hstate h.1, .inl rfl⟩

theorem getBuffer_cases (handout : ℕ) (wait : Status × ℕ) (next : Except Status StreamBuffer) :
    (s.getBuffer handout wait next).2 = s ∨
      s.mState = .CONFIGURED ∧
        ((s.getBuffer handout wait next).2 = { s with mState := .ABANDONED } ∨
          ∃ buffers, (s.getBuffer handout wait next).2 =
            { s with mOutstandingBuffers := s.mOutstandingBuffers ++ buffers }) := by
  unfold getBuffer
  by_cases hstate : s.mState = .CONFIGURED
  · rw [if_neg (not_not.mpr hstate)]
    by_cases hwait : handout = s.max_buffers ∧ wait.1 ≠ .OK
    · rw [if_pos hwait]
      exact .inl rfl
    rw [if_neg hwait]
    by_cases hmore : handout = s.max_buffers ∧ wait.2 ≥ handout
    · rw [if_pos hmore]
      exact .inl rfl
    rw [if_neg hmore]
    cases next with
    | error res =>
      by_cases hres : res = .NO_INIT ∨ res = .DEAD_OBJECT
      · exact .inr ⟨hstate, .inl (if_pos hres)⟩
      · exact .inl (if_neg hres)
    | ok buffer => exact .inr ⟨hstate, .inr ⟨_, rfl⟩⟩
  · rw [if_pos hstate]
    exact .inl rfl

theorem returnBuffer_cases (buffer : StreamBuffer) (timestamp : ℤ) (timestampIncreasing : Bool) :
    s.isOutstandingBuffer buffer = false ∧
        s.returnBuffer buffer timestamp timestampIncreasing = (none, s) ∨
      s.isOutstandingBuffer buffer = true ∧ ∃ b,
        s.returnBuffer buffer timestamp timestampIncreasing =
          (some b, { s.removeOutstandingBuffer buffer with mLastTimestamp := timestamp }) ∧
        (timestampIncreasing = true → b.status = .OK → timestamp ≠ 0 →
          s.mLastTimestamp < timestamp) := by
  unfold returnBuffer
  cases houtstanding : s.isOutstandingBuffer buffer with
  | false => exact .inl ⟨rfl, rfl⟩
  | true =>
    refine .inr ⟨rfl, _, rfl, ?_⟩
    have hlast : (s.removeOutstandingBuffer buffer).mLastTimestamp = s.mLastTimestamp := by
      unfold removeOutstandingBuffer
      split <;> rfl
    rw [hlast]
    intro hincreasing hstatus hzero
    by_contra hle
    rw [if_pos ⟨hincreasing, hzero, not_lt.mp hle⟩] at hstatus
    cases hstatus

end Camera3Stream

/-! ### The system -/

/-- A call with the results of what it calls. That a filled buffer was returned is a label of its
own, after which the stream cannot be prepared. -/
inductive Label (F : Type)
  | startConfiguration (hasOutstandingBuffersLocked : Bool) (getEndpointUsage : Status × ℕ)
  | modify (usage max_buffers : ℕ) (format data_space : ℤ)
  | finishConfiguration (configureQueueLocked : Status)
  | cancelConfiguration
  | forceToIdle (hasOutstandingBuffersLocked : Bool) (NO_FENCE : F)
  | restoreConfiguredState (hasOutstandingBuffersLocked : Bool) (NO_FENCE : F)
  | startPrepare (maxCount : ℤ) (blockRequest : Bool) (pipelineMax handout : ℕ)
  | prepareNextBuffer (getBufferLocked : Except Status StreamBuffer)
  | cancelPrepare
  | tearDown (handout : ℕ) (disconnectLocked : Disconnect) (configureQueueLocked : Status)
  | markUnpreparable
  | getBuffer (handout : ℕ) (wait : Status × ℕ) (getBufferLocked : Except Status StreamBuffer)
  | returnBuffer (buffer : StreamBuffer) (timestamp : ℤ) (timestampIncreasing : Bool)

def Camera3Stream.call (s : Camera3Stream F) : Label F → Camera3Stream F
  | .startConfiguration hasOutstanding usage => (s.startConfiguration hasOutstanding usage).2
  | .modify usage max_buffers format data_space => s.modify usage max_buffers format data_space
  | .finishConfiguration configureQueue => (s.finishConfiguration configureQueue).2.2
  | .cancelConfiguration => s.cancelConfiguration.2
  | .forceToIdle hasOutstanding NO_FENCE => (s.forceToIdle hasOutstanding NO_FENCE).2
  | .restoreConfiguredState hasOutstanding NO_FENCE =>
    (s.restoreConfiguredState hasOutstanding NO_FENCE).2
  | .startPrepare maxCount blockRequest pipelineMax handout =>
    (s.startPrepare maxCount blockRequest pipelineMax handout).2
  | .prepareNextBuffer next => (s.prepareNextBuffer next).2.2
  | .cancelPrepare => s.cancelPrepare.2.2
  | .tearDown handout disconnect configureQueue => (s.tearDown handout disconnect configureQueue).2
  | .markUnpreparable => s.markUnpreparable
  | .getBuffer handout wait next => (s.getBuffer handout wait next).2
  | .returnBuffer buffer timestamp timestampIncreasing =>
    (s.returnBuffer buffer timestamp timestampIncreasing).2

end VirtualCamera.Stream
