import Mathlib.Logic.Function.Basic
import VirtualCamera.RequestThread.Corrections
import VirtualCamera.RequestThread.Queue

namespace VirtualCamera.RequestThread

open Library.Transition

structure Config where
  listener : Bool
  mSupportCameraMute : Bool
  mSessionParamKeys : List Tag
  mappers : Mappers

/-- A member of the batch in the hands of the thread. `settings` is `none` for the null pointer
that stands for the settings sent before. `capture`, `triggers` and `ordinal` are only written:
the capture, the triggers that were mixed in and how many requests were prepared before. -/
structure NextRequest where
  captureRequest : ℕ
  capture : ℕ
  frame_number : ℕ := 0
  settings : Option (List Metadata) := none
  submitted : Bool := false
  triggers : List QueuedTrigger := []
  ordinal : ℕ := 0
  deriving DecidableEq

def NextRequest.submit (next : NextRequest) : NextRequest := { next with submitted := true }

/-- A request as the HAL took it, with the settings the request had then. -/
structure Submission extends NextRequest where
  own : List Metadata
  deriving DecidableEq

inductive HalEvent
  | configured
  | submitted (submission : Submission)
  deriving DecidableEq

/-- Where the request thread is. `collecting` is the loop of `waitForNextRequestBatch` with the
lock held, and `waiting` the wait in it that lets go of the lock; `blocked` is a thread that
waits for a lock it holds itself. -/
inductive Stage
  | idle
  | collecting
  | waiting
  | collected
  | preparing (i : ℕ)
  | filling (i : ℕ)
  | checking
  | blocked
  | ended
  deriving DecidableEq, Repr

/-- `requests` are the objects, `hal` what the HAL was told, the latest first, and `errors` the
extras that `ERROR_CAMERA_REQUEST` was notified with. `mRequestLock` says whether the request
thread holds the lock: the calls of the application hold it for no longer than one step. -/
structure State where
  requests : ℕ → CaptureRequest
  queue : Queue := {}
  mRequestLock : Bool := false
  mNextRequests : List NextRequest := []
  mReconfigured : Bool := false
  mPrevRequest : Option ℕ := none
  mPrevTriggers : ℤ
  mLatestSessionParams : Metadata := ∅
  mConstrainedMode : Bool := false
  triggers : Triggers := {}
  overrides : Overrides := {}
  stage : Stage := .idle
  parent : Bool := true
  deviceError : Bool := false
  hal : List HalEvent := []
  errors : List CaptureResultExtras := []

/-- A request with the triggers and the overrides in its settings, and the triggers that are
left. -/
structure Mixed where
  triggerCount : ℕ
  changed : Bool
  triggers : Triggers
  request : CaptureRequest

/-- What `reconfigureCamera` comes to. -/
inductive Reconfigure
  | abandoned
  | configured (composerSurfacePresent : Bool)
  | failed (halConfigured error : Bool)
  deriving DecidableEq, Repr

/-- What the HAL, the input stream and the device answer while the session parameters change. -/
structure SessionAnswer where
  reconfigurationRequired : Bool
  forceToIdle : Bool
  reconfigure : Reconfigure
  deriving DecidableEq, Repr

/-- How the output buffers of a request and its registration turn out. -/
inductive Outcome
  | ready
  | timedOut
  | noSurfaceIds
  | notRegistered
  deriving DecidableEq, Repr

inductive Label
  | queueRequestList (requests : List CaptureRequest)
  | setRepeatingRequests (requests : List CaptureRequest)
  | clearRepeatingRequests
  | clear
  | queueTrigger (trigger : List RequestTrigger)
  | setRotateAndCropAutoBehavior (rotateAndCropValue : ℤ)
  | setCameraMute (muteMode : ℤ)
  | configureStreams (composerSurfacePresent : Bool) (sessionParams : Metadata)
      (isConstrainedHighSpeed : Bool)
  | destroy
  | begin
  | sleep
  | wake (exitPending : Bool)
  | take (input : Bool)
  | session (answer : SessionAnswer)
  | prepare
  | outputs (outcome : Outcome)
  | send (ok : Bool) (numRequestProcessed : ℕ)
  | check (surfaceAbandoned : Bool)

namespace State

/-- `mPrevTriggers` is not set before the first request is prepared. -/
def create (mPrevTriggers : ℤ) : State where
  requests := fun _ ↦ { settings := { cameraId := "", metadata := ∅ } }
  mPrevTriggers := mPrevTriggers

/-! ### Requests and notifications -/

def createRequests (cfg : Config) (s : State) (list : List CaptureRequest) (r : ℕ) :
    CaptureRequest :=
  if r < s.queue.allocated then s.requests r
  else
    match list[r - s.queue.allocated]? with
    | some request => createCaptureRequest cfg.mSupportCameraMute request
    | none => s.requests r

def setRequest (s : State) (r : ℕ) (request : CaptureRequest) : State :=
  { s with requests := Function.update s.requests r request }

/-- The request gets the next frame number. -/
def number (s : State) (r : ℕ) : State :=
  let request := s.requests r
  { s.setRequest r { request with
      mResultExtras := { request.mResultExtras with
        frameNumber := s.queue.mFrameNumber, capture := s.queue.handed.length } } with
    queue := s.queue.give r }

def setTriggerIds (s : State) (r : ℕ) : State :=
  let request := s.requests r
  s.setRequest r { request with
    mResultExtras := { request.mResultExtras with
      afTriggerId := s.triggers.mCurrentAfTriggerId
      precaptureTriggerId := s.triggers.mCurrentPreCaptureTriggerId } }

/-- `ERROR_CAMERA_REQUEST`. -/
def notifyError (cfg : Config) (s : State) (r : ℕ) : State :=
  if cfg.listener then { s with errors := s.errors ++ [(s.requests r).mResultExtras] } else s

/-- A device that is gone has no error state. -/
def setErrorState (s : State) : State := { s with deviceError := s.deviceError || s.parent }

/-! ### The calls of the application -/

def queueRequestList (cfg : Config) (s : State) (requests : List CaptureRequest) : State :=
  { s with
    requests := s.createRequests cfg requests
    queue := s.queue.queueRequestList requests.length }

def setRepeatingRequests (cfg : Config) (s : State) (requests : List CaptureRequest) : State :=
  { s with
    requests := s.createRequests cfg requests
    queue := s.queue.setRepeatingRequests requests.length }

def clearRepeatingRequests (s : State) : State :=
  { s with queue := s.queue.clearRepeatingRequestsLocked }

def abort (cfg : Config) (s : State) (r : ℕ) : State := (s.number r).notifyError cfg r

def clear (cfg : Config) (s : State) : State :=
  let s' := if cfg.listener then s.queue.mRequestQueue.foldl (abort cfg) s else s
  { s' with
    queue := { s'.queue.clearRepeatingRequestsLocked with mRequestQueue := [] }
    triggers := s'.triggers.clear }

def configureStreams (s : State) (composerSurfacePresent : Bool) (sessionParams : Metadata)
    (isConstrainedHighSpeed : Bool) : State :=
  { s with
    hal := .configured :: s.hal
    overrides := { s.overrides with mComposerOutput := composerSurfacePresent }
    mReconfigured := true
    mLatestSessionParams := sessionParams
    mConstrainedMode := isConstrainedHighSpeed }

/-! ### Collecting a batch -/

/-- Both the error path of a request and the end take `mRequestLock`: a thread that holds it
gets no further. -/
def cleanUpFailedRequests (cfg : Config) (s : State) (sendRequestError : Bool) (after : Stage) :
    State :=
  if s.mNextRequests = [] then { s with stage := after }
  else if s.mRequestLock then { s with stage := .blocked }
  else
    let failed := s.mNextRequests.filter (!·.submitted)
    let s' :=
      if sendRequestError then
        failed.foldl (fun s next ↦ s.notifyError cfg next.captureRequest) s
      else s
    { s' with mNextRequests := [], stage := after }

def batchSize (s : State) : ℕ :=
  match s.mNextRequests with
  | [] => 0
  | next :: _ => (s.requests next.captureRequest).mBatchSize

/-- `waitForNextRequestBatch` after a wait that brought no request. -/
def endBatch (cfg : Config) (s : State) : State :=
  if s.mNextRequests = [] then { s with mRequestLock := false, stage := .idle }
  else s.cleanUpFailedRequests cfg true .idle

def addNextRequest (s : State) (r : ℕ) : State :=
  let next : NextRequest :=
    { captureRequest := r, capture := (s.requests r).mResultExtras.capture }
  let s' := { s with mNextRequests := s.mNextRequests ++ [next] }
  if s'.mNextRequests.length < s'.batchSize then s'
  else { s' with mRequestLock := false, stage := .collected }

/-- The request that is taken gets its number, and the thread forgets what it sent before a
configuration. -/
def dequeue (s : State) (r : ℕ) (queue : Queue) : State :=
  let s' := { s with
    queue := queue
    mPrevRequest := if s.mReconfigured then none else s.mPrevRequest
    mReconfigured := false }
  (s'.number r).setTriggerIds r

/-- `waitForNextRequestLocked` once there is a request, and what the batch makes of it. `input`
is whether an input buffer can be had. -/
def takeRequest (cfg : Config) (s : State) (input : Bool) (r : ℕ) (queue : Queue) : State :=
  let s' := s.dequeue r queue
  if (s.requests r).mInputStream && !input then (s'.notifyError cfg r).endBatch cfg
  else s'.addNextRequest r

def take (cfg : Config) (s : State) (input : Bool) : Option State :=
  s.queue.select.map fun (r, queue) ↦ s.takeRequest cfg input r queue

def noWork (s : State) : Bool := s.queue.mRequestQueue = [] && s.queue.mRepeatingRequests = []

def wake (cfg : Config) (s : State) (exitPending : Bool) : State :=
  let s' := { s with mRequestLock := true, stage := .collecting }
  if s.noWork || exitPending then s'.endBatch cfg else s'

/-! ### Preparing and sending it -/

/-- `mReconfigured |= parent->reconfigureCamera(..)`. -/
def reconfigureCamera (s : State) : Reconfigure → State
  | .abandoned => { s with mReconfigured := true }
  | .configured composerSurfacePresent =>
    { s with
      hal := .configured :: s.hal
      overrides := { s.overrides with mComposerOutput := composerSurfacePresent }
      mReconfigured := true }
  | .failed halConfigured error =>
    { s with
      hal := if halConfigured then .configured :: s.hal else s.hal
      deviceError := s.deviceError || error }

/-- The session parameters as the first request of the batch would have them. -/
def sessionUpdate (cfg : Config) (s : State) (first : NextRequest) : Bool × Metadata :=
  updateSessionParameters s.mConstrainedMode cfg.mSessionParamKeys s.mLatestSessionParams
    (s.requests first.captureRequest).metadata

def reconfigureRequired (cfg : Config) (s : State) (answer : SessionAnswer)
    (first : NextRequest) : Bool :=
  (s.sessionUpdate cfg first).1 && answer.reconfigurationRequired

def forcedToIdle (s : State) (answer : SessionAnswer) (first : NextRequest) : Bool :=
  !(s.requests first.captureRequest).mInputStream || answer.forceToIdle

def updateSession (cfg : Config) (s : State) (first : NextRequest) : State :=
  { s with
    mLatestSessionParams :=
      if (s.sessionUpdate cfg first).1 then (s.sessionUpdate cfg first).2
      else s.mLatestSessionParams }

/-- The turn of `threadLoop` between the collection of the batch and its preparation. -/
def session (cfg : Config) (s : State) (answer : SessionAnswer) (first : NextRequest) : State :=
  let s' := s.updateSession cfg first
  if s.reconfigureRequired cfg answer first then
    if s.forcedToIdle answer first then
      let t := if s.parent then s'.reconfigureCamera answer.reconfigure else s'
      { t with stage := .preparing 0 }
    else s'.cleanUpFailedRequests cfg false .ended
  else { s' with stage := .preparing 0 }

/-- The triggers and the overrides in the settings of a request. -/
def mix (cfg : Config) (s : State) (r : ℕ) : Mixed :=
  let (triggerCount, triggers, request) := s.triggers.insertTriggers (s.requests r)
  let (rotateAndCropChanged, request) :=
    if s.overrides.mComposerOutput then (false, request)
    else s.overrides.overrideAutoRotateAndCrop request
  let (testPatternChanged, request) :=
    s.overrides.overrideTestPattern cfg.mSupportCameraMute request
  ⟨triggerCount, rotateAndCropChanged || testPatternChanged, triggers, request⟩

/-- Whether the settings are sent: within a batch only those of the first request are. -/
def newRequest (cfg : Config) (s : State) (i r : ℕ) : Bool :=
  let mixed := s.mix cfg r
  let triggersMixedIn := decide (0 < mixed.triggerCount) || decide (0 < s.mPrevTriggers)
  (decide (s.mPrevRequest ≠ some r) || triggersMixedIn || mixed.changed) &&
    !(decide (1 < s.batchSize) && decide (0 < i))

/-- `SET_ERR`, and the end of the thread. -/
def fail (cfg : Config) (s : State) : State :=
  s.setErrorState.cleanUpFailedRequests cfg false .ended

def setNext (s : State) (i : ℕ) (next : NextRequest) : State :=
  { s with mNextRequests := s.mNextRequests.set i next, stage := .filling i }

/-- The branch of a request whose settings are sent. -/
def prepareNew (cfg : Config) (s : State) (i : ℕ) (next : NextRequest)
    (request : CaptureRequest) : State :=
  let r := next.captureRequest
  let request := request.setMetadata (addFakeTriggerIds request.metadata)
  match cfg.mappers.correct request with
  | none => (s.setRequest r request).fail cfg
  | some request =>
    { s.setRequest r request with mPrevRequest := some r }.setNext i
      { next with settings := some request.allMetadata }

/-- The turn of `prepareHalRequests` for a request, up to its output buffers. -/
def prepare (cfg : Config) (s : State) (i : ℕ) (next : NextRequest) : State :=
  if s.parent then
    let r := next.captureRequest
    let mixed := s.mix cfg r
    let next := { next with
      frame_number := mixed.request.mResultExtras.frameNumber
      triggers := s.triggers.pending
      ordinal := s.triggers.prepared }
    let t := { s with triggers := mixed.triggers, mPrevTriggers := mixed.triggerCount }
    if s.newRequest cfg i r then t.prepareNew cfg i next mixed.request
    else (t.setRequest r mixed.request).setNext i next
  else s.fail cfg

def outputs (cfg : Config) (s : State) (i : ℕ) (outcome : Outcome) : State :=
  if s.parent then
    match outcome with
    | .ready => { s with stage := .preparing (i + 1) }
    | .timedOut => s.cleanUpFailedRequests cfg true .checking
    | .noSurfaceIds => s.cleanUpFailedRequests cfg false .ended
    | .notRegistered => s.fail cfg
  else s.cleanUpFailedRequests cfg false .ended

def submission (s : State) (next : NextRequest) : Submission :=
  { next with own := (s.requests next.captureRequest).allMetadata }

/-- `mPrevRequest` names the first request of the batch when this is called. -/
def removeTriggers (s : State) : State :=
  match s.mPrevRequest with
  | none => s
  | some r =>
    let (triggers, request) := s.triggers.removeTriggers (s.requests r)
    { s.setRequest r request with triggers := triggers }

/-- The HAL takes requests from the front of the batch; an answer that it took fewer is a
failure. -/
def send (cfg : Config) (s : State) (ok : Bool) (numRequestProcessed : ℕ) : State :=
  let batchSize := s.mNextRequests.length
  let processed := s.mNextRequests.take numRequestProcessed
  let s := { s with
    hal := processed.foldl (fun hal next ↦ .submitted (s.submission next) :: hal) s.hal
    mNextRequests := processed.map NextRequest.submit ++ s.mNextRequests.drop numRequestProcessed }
  let s := processed.foldl (fun s _ ↦ s.removeTriggers) s
  if ok && numRequestProcessed = batchSize then { s with mNextRequests := [], stage := .idle }
  else s.fail cfg

def checkAndStopRepeatingRequest (s : State) (surfaceAbandoned : Bool) : State :=
  let s := if surfaceAbandoned && s.queue.mRepeatingRequests ≠ [] then s.clearRepeatingRequests
    else s
  { s with stage := .idle }

/-- What a step answers in `lastFrameNumber`: a call to its caller, the thread that puts down a
repeating list to the listener. -/
def lastFrameNumber (s : State) : Label → Option ℤ
  | .queueRequestList requests =>
    some (s.queue.mFrameNumber + (s.queue.mRequestQueue.length + requests.length) - 1)
  | .setRepeatingRequests _ | .clearRepeatingRequests | .clear =>
    some s.queue.mRepeatingLastFrameNumber
  | .check surfaceAbandoned =>
    if surfaceAbandoned && s.queue.mRepeatingRequests ≠ [] then
      some s.queue.mRepeatingLastFrameNumber
    else none
  | _ => none

/-! ### The system -/

/-- A call that takes `mRequestLock`. -/
def locking (s : State) (t : State) : Option State := if s.mRequestLock then none else some t

/-- The device is configured while the thread has no request in its hands. -/
def step (cfg : Config) (s : State) : Label → Option State
  | .queueRequestList requests => s.locking (s.queueRequestList cfg requests)
  | .setRepeatingRequests requests => s.locking (s.setRepeatingRequests cfg requests)
  | .clearRepeatingRequests => s.locking s.clearRepeatingRequests
  | .clear => s.locking (s.clear cfg)
  | .queueTrigger trigger => some { s with triggers := s.triggers.queueTrigger trigger }
  | .setRotateAndCropAutoBehavior value =>
    some { s with overrides := s.overrides.setRotateAndCropAutoBehavior value }
  | .setCameraMute muteMode => some { s with overrides := s.overrides.setCameraMute muteMode }
  | .configureStreams composerSurfacePresent sessionParams isConstrainedHighSpeed =>
    if s.mNextRequests = [] then
      s.locking (s.configureStreams composerSurfacePresent sessionParams isConstrainedHighSpeed)
    else none
  | .destroy => some { s with parent := false }
  | .begin =>
    if s.stage = .idle then some { s with mRequestLock := true, stage := .collecting } else none
  | .sleep =>
    if s.stage = .collecting ∧ s.noWork then
      some { s with mRequestLock := false, stage := .waiting }
    else none
  | .wake exitPending => if s.stage = .waiting then some (s.wake cfg exitPending) else none
  | .take input => if s.stage = .collecting then s.take cfg input else none
  | .session answer =>
    match s.stage, s.mNextRequests with
    | .collected, first :: _ => some (s.session cfg answer first)
    | _, _ => none
  | .prepare =>
    match s.stage with
    | .preparing i => s.mNextRequests[i]?.map (s.prepare cfg i)
    | _ => none
  | .outputs outcome =>
    match s.stage with
    | .filling i => some (s.outputs cfg i outcome)
    | _ => none
  | .send ok numRequestProcessed =>
    match s.stage with
    | .preparing i =>
      if i = s.mNextRequests.length ∧ numRequestProcessed ≤ s.mNextRequests.length then
        some (s.send cfg ok numRequestProcessed)
      else none
    | _ => none
  | .check surfaceAbandoned =>
    if s.stage = .checking then some (s.checkAndStopRepeatingRequest surfaceAbandoned) else none

def Step (cfg : Config) : State → Label → State → Prop := ofPartial (step cfg)

end State

/-! ### A plain camera -/

def Mappers.none : Mappers where
  uhrCropAndMeteringRegion := fun _ ↦ Option.none
  distortion := fun _ ↦ Option.none
  zoomRatio := fun _ ↦ Option.none
  rotateAndCrop := fun _ ↦ Option.none
  corrects := fun _ ↦ false
  keeps := by
    intro find hfind cameraId correct m m' hc
    simp only [List.mem_cons, List.not_mem_nil, or_false] at hfind
    obtain rfl | rfl | rfl | rfl := hfind <;> cases hc

/-- A camera without mappers, whose listener lives. -/
def Config.plain : Config where
  listener := true
  mSupportCameraMute := false
  mSessionParamKeys := [.controlAeTargetFpsRange]
  mappers := .none

def CaptureRequest.plain (m : Metadata) : CaptureRequest where
  settings := { cameraId := "0", metadata := m }

/-- The thread takes a request and sends it. -/
def Label.round : List Label :=
  [.begin, .take true, .session ⟨false, true, .abandoned⟩, .prepare, .outputs .ready,
    .send true 1]

end VirtualCamera.RequestThread
