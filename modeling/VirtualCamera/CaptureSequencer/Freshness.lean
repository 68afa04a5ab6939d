import VirtualCamera.CaptureSequencer.Reach

namespace VirtualCamera.CaptureSequencer

open Library.Transition

variable {B : Type}

namespace Position

/-- Another capture can be started. -/
def idle : Position → Bool
  | IDLE | notBusy | discarded | accepted | sent => true
  | _ => false

/-- A capture has been taken up and its outcome is still open. -/
def running : Position → Bool
  | IDLE | sent => false
  | _ => true

/-- The frame listener of the capture may be registered. -/
def listens : Position → Bool
  | STANDARD_START | STANDARD_PRECAPTURE_WAIT | newNotifyWait | STANDARD_CAPTURE
  | STANDARD_CAPTURE_WAIT | shutterNotifyWait | newFrameWait | newCaptureWait => true
  | _ => false

end Position

namespace State

def run (s : State B) (labels : List (Label B)) : State B := labels.foldl step s

/-- How many captures have been taken up. -/
def captures (s : State B) : ℕ := s.outcomes.length + s.position.running.toNat

/-- The flags, counters and data of a capture as the constructor leaves them. -/
def forget (s : State B) : State B :=
  { s with
    mNewFrameReceived := false
    mNewFrameId := 0
    mNewCaptureReceived := false
    mNewCaptureErrorCnt := 0
    mCaptureTimestamp := 0
    mCaptureBuffer := none
    mShutterNotified := false
    mHalNotifiedShutter := false
    mTimeoutCount := 0
    mAeInPrecapture := false }

/-- What came before has no say in the outcome of the next capture. -/
def Fresh (s : State B) : Prop :=
  ∀ labels, (s.run labels).outcomes[s.captures]? = (s.forget.run labels).outcomes[s.captures]?

def ImagesFresh (s : State B) : Prop :=
  ∀ o ∈ s.outcomes, ∀ b at_, o.image = some (b, at_) → o.startedAt ≤ at_

/-- The sequencer is idle and listens to no frames. -/
def ListenerRemoved (s : State B) : Prop := s.position = .IDLE → s.mRangeListeners = []

/-- The next `startCapture` starts a capture. -/
def Starts (s : State B) : Prop := s.mBusy = false ∧ s.mStartCapture = false

/-- No result, no image and no lost image of earlier is left. -/
def Clean (s : State B) : Prop :=
  s.mNewFrameReceived = false ∧ s.mNewCaptureReceived = false ∧ s.mNewCaptureErrorCnt = 0

theorem core_run (n : ℕ) (s : State B) (labels : List (Label B)) :
    (s.run labels).core n = ((s.core n).run labels).core n := by
  induction labels generalizing s with
  | nil => exact (core_core n s).symm
  | cons l labels ih =>
    change ((s.step l).run labels).core n = (((s.core n).step l).run labels).core n
    rw [ih (s.step l), ih ((s.core n).step l), core_step]

/-- Two states that agree on what can reach an outcome have the same outcome. -/
theorem outcome_eq_of_core {n : ℕ} {s t : State B} (h : s.core n = t.core n)
    (labels : List (Label B)) : (s.run labels).outcomes[n]? = (t.run labels).outcomes[n]? := by
  have hrun : (s.run labels).core n = (t.run labels).core n := by
    rw [core_run n s, core_run n t, h]
  calc (s.run labels).outcomes[n]? = ((s.run labels).core n).outcomes[n]? :=
        (getElem?_blanked n _).symm
    _ = ((t.run labels).core n).outcomes[n]? := by rw [hrun]
    _ = (t.run labels).outcomes[n]? := getElem?_blanked n _

/-! ### Captures that are given up -/

def captureGivenUp (s : State B) : Prop :=
  s.mNewCaptureReceived = true ∧ kMaxRetryCount < s.mNewCaptureErrorCnt ∨
    ¬(s.mNewCaptureReceived = true ∧ 0 < s.mNewCaptureErrorCnt) ∧ s.mTimeoutCount ≤ 0

def waitGivenUp (s : State B) : Prop :=
  ¬(s.mNewFrameReceived = true ∧ s.mNewCaptureReceived = false) ∧ s.captureGivenUp

def frameGivenUp (s : State B) : Prop := s.mNewFrameReceived = true ∧ s.waitGivenUp

def shutterGivenUp (s : State B) : Prop :=
  if s.mHalNotifiedShutter then s.frameGivenUp else s.mTimeoutCount ≤ 0

/-- The request cannot be submitted, the time is over or the retries are used up, while the
frame listener is registered. -/
def GivesUp (s : State B) (client : Client) : Prop :=
  match s.position with
  | .STANDARD_CAPTURE => submits client = false
  | .STANDARD_CAPTURE_WAIT => s.shutterGivenUp
  | .shutterNotifyWait => client.timedOut = false ∧ s.shutterGivenUp
  | .newFrameWait => if client.timedOut then s.timeOut.waitGivenUp else s.frameGivenUp
  | .newCaptureWait => if client.timedOut then s.timeOut.captureGivenUp else s.waitGivenUp
  | _ => False

/-- A capture starts with nothing left of earlier, and none is given up once its listener is
registered. -/
def Orderly (s : State B) : Label B → Prop
  | .startCapture => s.Starts → s.Clean
  | .threadLoop client => ¬ s.GivesUp client
  | _ => True

/-! ### Images and listeners -/

structure Safe (s : State B) : Prop where
  idle : s.mBusy = false → s.position.idle = true
  image : s.position = .IDLE → s.mNewCaptureReceived = false → s.mCaptureBuffer = none
  pending : s.position = .IDLE → s.mStartCapture = true → s.mCaptureBuffer ≠ none →
    s.startedAt ≤ s.bufferAt
  running : s.position.running = true → s.mCaptureBuffer ≠ none → s.captureStart ≤ s.bufferAt
  startedAt : s.startedAt ≤ s.received
  captureStart : s.captureStart ≤ s.received
  images : s.ImagesFresh
  own : ∀ r ∈ s.mRangeListeners, r = (s.mCaptureId, s.mCaptureId + 1)
  quiet : s.position.listens = false → s.mRangeListeners = []

def kept (s : State B) :=
  (s.mBusy, s.mStartCapture, s.mCaptureBuffer, s.bufferAt, s.startedAt, s.captureStart, s.received,
    s.mCaptureId, s.outcomes)

/-- What a step of the thread within a capture does. -/
structure Advances (s t : State B) : Prop where
  kept : t.kept = s.kept
  running : t.position.running = true
  busy : t.position.idle = false
  own : ∀ r ∈ t.mRangeListeners, r ∈ s.mRangeListeners ∨ r = (s.mCaptureId, s.mCaptureId + 1)
  quiet : t.position.listens = false → t.mRangeListeners = []

theorem Safe.advance {s t : State B} (hs : s.Safe) (hb : s.position.idle = false)
    (h : s.Advances t) : t.Safe := by
  have hr : s.position.running = true := by
    cases hp : s.position <;> simp_all [Position.idle, Position.running]
  have hk := h.kept
  simp only [State.kept, Prod.mk.injEq] at hk
  obtain ⟨hbusy, hstart, himage, hat, hsa, hcs, hrec, hid, hout⟩ := hk
  have hidle : t.position ≠ .IDLE := fun ht ↦ by
    have := h.running
    rw [ht] at this
    cases this
  constructor
  · intro ht
    rw [hs.idle (hbusy ▸ ht)] at hb
    cases hb
  · exact fun ht ↦ absurd ht hidle
  · exact fun ht ↦ absurd ht hidle
  · intro _ hi
    rw [hcs, hat]
    exact hs.running hr (himage ▸ hi)
  · rw [hsa, hrec]
    exact hs.startedAt
  · rw [hcs, hrec]
    exact hs.captureStart
  · unfold ImagesFresh
    rw [hout]
    exact hs.images
  · intro r hmem
    rw [hid]
    obtain hmem | rfl := h.own r hmem
    · exact hs.own r hmem
    · rfl
  · exact h.quiet

theorem Advances.of_eq {s s' t : State B} (h : s'.Advances t) (hk : s'.kept = s.kept)
    (hl : s'.mRangeListeners = s.mRangeListeners) : s.Advances t := by
  have hid : s'.mCaptureId = s.mCaptureId := congrArg (·.2.2.2.2.2.2.2.1) hk
  refine ⟨h.kept.trans hk, h.running, h.busy, fun r hr ↦ ?_, h.quiet⟩
  rw [← hl, ← hid]
  exact h.own r hr

theorem own_registerFrameListener {s : State B} {r : ℤ × ℤ} {minId maxId : ℤ}
    (h : r ∈ (s.registerFrameListener minId maxId).mRangeListeners) :
    r ∈ s.mRangeListeners ∨ r = (minId, maxId) := by
  unfold registerFrameListener at h
  split at h
  · exact .inl h
  · simpa using h

theorem removeFrameListener_eq_nil {s : State B}
    (ho : ∀ r ∈ s.mRangeListeners, r = (s.mCaptureId, s.mCaptureId + 1)) :
    (s.removeFrameListener s.mCaptureId (s.mCaptureId + 1)).mRangeListeners = [] := by
  simp only [removeFrameListener, List.filter_eq_nil_iff]
  intro r hr
  simp [ho r hr]

theorem kept_registerFrameListener (s : State B) (minId maxId : ℤ) :
    (s.registerFrameListener minId maxId).kept = s.kept := by
  unfold registerFrameListener
  split <;> rfl

theorem advances_of_position {s t : State B} (hk : t.kept = s.kept)
    (hl : t.mRangeListeners = s.mRangeListeners) (hp : t.position.listens = true) :
    s.Advances t := by
  refine ⟨hk, ?_, ?_, fun r hr ↦ .inl (hl ▸ hr), fun h ↦ ?_⟩
  · cases h : t.position <;> simp_all [Position.listens, Position.running]
  · cases h : t.position <;> simp_all [Position.listens, Position.idle]
  · rw [hp] at h
    cases h

theorem advances_done {s t : State B} (hk : t.kept = s.kept) (hp : t.position = .DONE)
    (hl : t.mRangeListeners = []) : s.Advances t := by
  refine ⟨hk, ?_, ?_, fun r hr ↦ ?_, fun _ ↦ hl⟩
  · rw [hp]; rfl
  · rw [hp]; rfl
  · rw [hl] at hr
    cases hr

theorem advances_precaptureNotified (s : State B) : s.Advances s.precaptureNotified := by
  unfold precaptureNotified
  split_ifs <;> exact advances_of_position rfl rfl rfl

theorem advances_manageStandardPrecaptureWait (s : State B) :
    s.Advances s.manageStandardPrecaptureWait := by
  unfold manageStandardPrecaptureWait
  split
  · exact advances_of_position rfl rfl rfl
  · exact advances_precaptureNotified s

theorem advances_captureNotified {s : State B} (hs : s.Safe) (hg : ¬ s.captureGivenUp) :
    s.Advances s.captureNotified := by
  unfold captureGivenUp at hg
  unfold captureNotified
  split_ifs with hmax hretry htime hboth
  · exact absurd (.inl hmax) hg
  · exact advances_of_position rfl rfl rfl
  · exact absurd (.inr ⟨hretry, htime⟩) hg
  · exact advances_done rfl rfl (removeFrameListener_eq_nil hs.own)
  · exact advances_of_position rfl rfl rfl

theorem advances_waitForCapture {s : State B} (hs : s.Safe) (hg : ¬ s.waitGivenUp) :
    s.Advances s.waitForCapture := by
  unfold waitForCapture
  split
  · exact advances_of_position rfl rfl rfl
  · rename_i hw
    refine advances_captureNotified hs fun hc ↦ hg ⟨fun h ↦ hw ?_, hc⟩
    rw [h.1, h.2]
    rfl

theorem advances_waitForFrame {s : State B} (hs : s.Safe) (hg : ¬ s.frameGivenUp) :
    s.Advances s.waitForFrame := by
  unfold waitForFrame
  split
  · exact advances_of_position rfl rfl rfl
  · rename_i hf
    exact advances_waitForCapture hs fun hc ↦ hg ⟨by simpa using hf, hc⟩

theorem Safe.shutterNotify {s : State B} (hs : s.Safe) : s.shutterNotify.Safe :=
  ⟨hs.idle, hs.image, hs.pending, hs.running, hs.startedAt, hs.captureStart, hs.images, hs.own,
    hs.quiet⟩

theorem Safe.timeOut {s : State B} (hs : s.Safe) : s.timeOut.Safe :=
  ⟨hs.idle, hs.image, hs.pending, hs.running, hs.startedAt, hs.captureStart, hs.images, hs.own,
    hs.quiet⟩

theorem advances_manageStandardCaptureWait {s : State B} (hs : s.Safe)
    (hg : ¬ s.shutterGivenUp) : s.Advances s.manageStandardCaptureWait := by
  unfold shutterGivenUp at hg
  unfold manageStandardCaptureWait
  split_ifs at hg ⊢
  · exact (advances_waitForFrame (s := s.shutterNotify) hs.shutterNotify hg).of_eq rfl rfl
  · exact advances_of_position rfl rfl rfl

theorem advances_manageZslStart {s : State B} (client : Client) (hs : s.Safe)
    (hp : s.position = .ZSL_START) : s.Advances (s.manageZslStart client) := by
  have hkr := kept_registerFrameListener s s.mCaptureId (s.mCaptureId + 1)
  unfold manageZslStart
  dsimp only
  split
  · exact advances_done rfl rfl (hs.quiet (by rw [hp]; rfl))
  split
  · refine ⟨hkr, rfl, rfl, fun r hr ↦ own_registerFrameListener hr, fun h ↦ by cases h⟩
  · refine ⟨hkr, rfl, rfl, fun r hr ↦ own_registerFrameListener hr, fun h ↦ by cases h⟩

theorem advances_manageStandardStart (s : State B) (client : Client) :
    s.Advances (s.manageStandardStart client) := by
  have hkr := kept_registerFrameListener s s.mCaptureId (s.mCaptureId + 1)
  unfold manageStandardStart
  dsimp only
  split
  · refine ⟨hkr, rfl, rfl, fun r hr ↦ own_registerFrameListener hr, fun h ↦ by cases h⟩
  · refine ⟨hkr, rfl, rfl, fun r hr ↦ own_registerFrameListener hr, fun h ↦ by cases h⟩

theorem safe_manageIdle {s : State B} (hs : s.Safe) (hp : s.position = .IDLE) :
    s.manageIdle.Safe := by
  have hl : s.mRangeListeners = [] := hs.quiet (by rw [hp]; rfl)
  unfold manageIdle
  split
  · rename_i hc
    exact ⟨fun h ↦ (by cases h), fun h ↦ (by cases h), fun h ↦ (by cases h), fun _ ↦ hs.pending hp hc,
      hs.startedAt, hs.startedAt, hs.images, hs.own, fun _ ↦ hl⟩
  · exact hs

theorem safe_manageStart {s : State B} (client : Client) (hs : s.Safe) (hp : s.position = .START) :
    (s.manageStart client).Safe := by
  have hl : s.mRangeListeners = [] := hs.quiet (by rw [hp]; rfl)
  have hb : s.position.idle = false := by rw [hp]; rfl
  unfold manageStart
  split
  · exact hs.advance hb (advances_done rfl rfl hl)
  · refine hs.advance hb ⟨rfl, ?_, ?_, fun r hr ↦ .inl hr, fun _ ↦ hl⟩
    · dsimp only
      split <;> rfl
    · dsimp only
      split <;> rfl

theorem safe_manageDone {s : State B} (hs : s.Safe) (hp : s.position = .DONE) :
    s.manageDone.Safe := by
  have hl : s.mRangeListeners = [] := hs.quiet (by rw [hp]; rfl)
  refine ⟨fun _ ↦ rfl, fun h ↦ (by cases h), fun h ↦ (by cases h), fun _ ↦ ?_, hs.startedAt,
    hs.captureStart, hs.images, fun r hr ↦ ?_, fun _ ↦ hl⟩
  · exact hs.running (by rw [hp]; rfl)
  · rw [show s.manageDone.mRangeListeners = s.mRangeListeners from rfl, hl] at hr
    cases hr

theorem safe_sendImage {s : State B} (client : Client) (ok : Bool) (hs : s.Safe)
    (hp : s.position.running = true) (hl : s.mRangeListeners = []) :
    (s.sendImage client ok).Safe := by
  refine ⟨fun _ ↦ rfl, fun h ↦ (by cases h), fun h ↦ (by cases h), fun h ↦ (by cases h), hs.startedAt,
    hs.captureStart, ?_, hs.own, fun _ ↦ hl⟩
  intro o ho b at_ himage
  simp only [sendImage, List.mem_append, List.mem_singleton] at ho
  obtain ho | rfl := ho
  · exact hs.images o ho b at_ himage
  · dsimp only at himage ⊢
    split at himage
    · obtain ⟨b', hb', h⟩ := Option.map_eq_some_iff.mp himage
      obtain ⟨rfl, rfl⟩ := Prod.mk.inj h
      refine hs.running hp ?_
      rw [hb']
      exact Option.some_ne_none b'
    · cases himage

theorem safe_threadLoop {s : State B} {client : Client} (hs : s.Safe)
    (hg : ¬ s.GivesUp client) : (s.threadLoop client).Safe := by
  unfold GivesUp at hg
  unfold threadLoop
  cases hp : s.position <;> simp only [hp] at hg ⊢
  case IDLE => exact safe_manageIdle hs hp
  case START => exact safe_manageStart client hs hp
  case ZSL_START => exact hs.advance (by rw [hp]; rfl) (advances_manageZslStart client hs hp)
  case ZSL_WAITING =>
    exact hs.advance (by rw [hp]; rfl) (advances_done rfl rfl (hs.quiet (by rw [hp]; rfl)))
  case ZSL_REPROCESSING =>
    have hl : s.mRangeListeners = [] := hs.quiet (by rw [hp]; rfl)
    exact hs.advance (by rw [hp]; rfl) ⟨rfl, rfl, rfl, fun r hr ↦ .inl hr, fun _ ↦ hl⟩
  case STANDARD_START =>
    exact hs.advance (by rw [hp]; rfl) (advances_manageStandardStart s client)
  case STANDARD_PRECAPTURE_WAIT =>
    exact hs.advance (by rw [hp]; rfl) (advances_manageStandardPrecaptureWait s)
  case newNotifyWait =>
    refine hs.advance (by rw [hp]; rfl) ?_
    split
    · exact (advances_precaptureNotified s.timeOut).of_eq rfl rfl
    · exact advances_manageStandardPrecaptureWait s
  case STANDARD_CAPTURE =>
    refine hs.advance (by rw [hp]; rfl) ?_
    unfold manageStandardCapture
    rw [if_pos (by simpa using hg)]
    exact advances_of_position rfl rfl rfl
  case STANDARD_CAPTURE_WAIT =>
    exact hs.advance (by rw [hp]; rfl) (advances_manageStandardCaptureWait hs hg)
  case shutterNotifyWait =>
    refine hs.advance (by rw [hp]; rfl) ?_
    split
    · exact advances_of_position rfl rfl rfl
    · rename_i ht
      exact advances_manageStandardCaptureWait hs fun h ↦ hg ⟨by simpa using ht, h⟩
  case newFrameWait =>
    refine hs.advance (by rw [hp]; rfl) ?_
    split_ifs at hg ⊢
    · exact (advances_waitForCapture hs.timeOut hg).of_eq rfl rfl
    · exact advances_waitForFrame hs hg
  case newCaptureWait =>
    refine hs.advance (by rw [hp]; rfl) ?_
    split_ifs at hg ⊢
    · exact (advances_captureNotified hs.timeOut hg).of_eq rfl rfl
    · exact advances_waitForCapture hs hg
  case DONE => exact safe_manageDone hs hp
  case notBusy =>
    have hl : s.mRangeListeners = [] := hs.quiet (by rw [hp]; rfl)
    have hr := hs.running (by rw [hp]; rfl)
    split
    · exact ⟨fun _ ↦ rfl, fun h ↦ (by cases h), fun h ↦ (by cases h), fun _ ↦ hr, hs.startedAt,
        hs.captureStart, hs.images, hs.own, fun _ ↦ hl⟩
    · exact ⟨fun _ ↦ rfl, fun h ↦ (by cases h), fun h ↦ (by cases h), fun _ ↦ hr, hs.startedAt,
        hs.captureStart, hs.images, hs.own, fun _ ↦ hl⟩
  case discarded =>
    exact safe_sendImage client false hs (by rw [hp]; rfl) (hs.quiet (by rw [hp]; rfl))
  case accepted =>
    exact safe_sendImage client true hs (by rw [hp]; rfl) (hs.quiet (by rw [hp]; rfl))
  case sent =>
    have hl : s.mRangeListeners = [] := hs.quiet (by rw [hp]; rfl)
    exact ⟨fun _ ↦ rfl, fun _ _ ↦ rfl, fun _ _ h ↦ absurd rfl h, fun h ↦ (by cases h),
      hs.startedAt, hs.captureStart, hs.images, hs.own, fun _ ↦ hl⟩

theorem safe_onCaptureAvailable {s : State B} (timestamp : ℤ) (captureBuffer : Option B)
    (captureError : Bool) (hs : s.Safe) :
    (s.onCaptureAvailable timestamp captureBuffer captureError).Safe :=
  ⟨hs.idle, fun _ h ↦ (by cases h), fun _ _ _ ↦ hs.startedAt, fun _ _ ↦ hs.captureStart,
    Nat.le_succ_of_le hs.startedAt, Nat.le_succ_of_le hs.captureStart, hs.images, hs.own, hs.quiet⟩

/-- A notification of another kind. -/
theorem Safe.received {s : State B} (hs : s.Safe) : ({ s with received := s.received + 1 }).Safe :=
  ⟨hs.idle, hs.image, hs.pending, hs.running, Nat.le_succ_of_le hs.startedAt,
    Nat.le_succ_of_le hs.captureStart, hs.images, hs.own, hs.quiet⟩

theorem safe_startCapture {s : State B} (hs : s.Safe) (hc : s.Starts → s.Clean) :
    s.startCapture.Safe := by
  unfold startCapture
  split
  · exact hs
  rename_i hb
  split
  · exact hs
  rename_i hm
  obtain ⟨_, hn, _⟩ := hc ⟨by simpa using hb, by simpa using hm⟩
  exact ⟨hs.idle, hs.image, fun hp _ hi ↦ absurd (hs.image hp hn) hi, hs.running, le_rfl,
    hs.captureStart, hs.images, hs.own, hs.quiet⟩

theorem safe_step {s : State B} {l : Label B} (hs : s.Safe) (ho : s.Orderly l) :
    (s.step l).Safe := by
  cases l with
  | startCapture => exact safe_startCapture hs ho
  | notifyAutoExposure newState triggerId =>
    exact ⟨hs.idle, hs.image, hs.pending, hs.running, hs.startedAt, hs.captureStart, hs.images,
      hs.own, hs.quiet⟩
  | notifyShutter requestId =>
    have hr := hs.received
    exact ⟨hr.idle, hr.image, hr.pending, hr.running, hr.startedAt, hr.captureStart, hr.images,
      hr.own, hr.quiet⟩
  | notifyError errorCode requestId errorStreamId captureStreamId =>
    unfold step notifyError
    dsimp only
    split
    · exact safe_onCaptureAvailable 0 none true hs
    · exact hs.received
  | onResultAvailable requestId =>
    have hr := hs.received
    exact ⟨hr.idle, hr.image, hr.pending, hr.running, hr.startedAt, hr.captureStart, hr.images,
      hr.own, hr.quiet⟩
  | onCaptureAvailable timestamp captureBuffer captureError =>
    exact safe_onCaptureAvailable timestamp captureBuffer captureError hs
  | threadLoop client => exact safe_threadLoop hs ho

theorem safe_create (mAEState : AeState) (mAETriggerId : ℤ) :
    (create mAEState mAETriggerId : State B).Safe :=
  ⟨fun _ ↦ rfl, fun _ _ ↦ rfl, fun _ _ h ↦ absurd rfl h, fun h ↦ (by cases h), le_rfl, le_rfl,
    fun o ho ↦ (by cases ho), fun r hr ↦ (by cases hr), fun _ ↦ rfl⟩

theorem reads_of_idle {p : Position} (h : p.idle = true) :
    p.readsShutter = false ∧ p.readsTimeouts = false ∧ p.readsPrecapture = false := by
  cases p <;> first | exact ⟨rfl, rfl, rfl⟩ | cases h

/-- An image that is still being sent is not the one of the capture that starts. -/
theorem position_of_readsImage {s : State B} (hidle : s.position.idle = true)
    (h : s.position.readsImage s.captures s.outcomes.length = true) : s.position = .IDLE := by
  unfold captures at h
  cases hp : s.position <;> rw [hp] at h hidle
  case notBusy | discarded | accepted =>
    exact absurd (of_decide_eq_true h) (Nat.not_succ_le_self _)
  case sent => cases h
  all_goals cases hidle

theorem fresh_startCapture {s : State B} (hs : s.Safe) (hst : s.Starts) (hc : s.Clean) :
    s.startCapture.Fresh := by
  have ht : s.startCapture = { s with mStartCapture := true, startedAt := s.received } := by
    unfold startCapture
    rw [hst.1, hst.2]
    rfl
  obtain ⟨hf, hn, he⟩ := hc
  refine fun labels ↦ outcome_eq_of_core ?_ labels
  rw [ht]
  change core s.captures _ = core s.captures _
  have himage : s.position.readsImage s.captures s.outcomes.length = true →
      s.mCaptureBuffer = none := fun h ↦ hs.image (position_of_readsImage (hs.idle hst.1) h) hn
  have hshutter : s.position.readsShutter = false := (reads_of_idle (hs.idle hst.1)).1
  have htimeouts : s.position.readsTimeouts = false := (reads_of_idle (hs.idle hst.1)).2.1
  have hpre : s.position.readsPrecapture = false := (reads_of_idle (hs.idle hst.1)).2.2
  cases hi : s.position.readsImage s.captures s.outcomes.length
  · simp [core, forget, hf, hn, he, hshutter, htimeouts, hpre, hi]
  · simp [core, forget, hf, hn, he, hshutter, htimeouts, hpre, himage hi]

/-- In an orderly run the outcome of a capture does not depend on what was received before its
start, each image that goes to the client was received after the start of its capture, and an
idle sequencer listens to no frames. -/
theorem captures_fresh {mAEState : AeState} {mAETriggerId : ℤ} {s : State B}
    (h : Reachable (restrict Step Orderly) (create mAEState mAETriggerId) s) :
    (s.Starts → s.Orderly .startCapture → s.startCapture.Fresh) ∧ s.ImagesFresh ∧
      s.ListenerRemoved := by
  have hs : s.Safe := by
    refine h.invariant (P := Safe) ?_ (safe_create mAEState mAETriggerId)
    rintro s l t ⟨hstep, ho⟩ hs
    obtain rfl : s.step l = t := Option.some.inj hstep
    exact safe_step hs ho
  refine ⟨fun hst ho ↦ fresh_startCapture hs hst (ho hst), hs.images, fun hp ↦ hs.quiet ?_⟩
  rw [hp]
  rfl

instance (s : State B) : Decidable s.Starts := inferInstanceAs (Decidable (_ ∧ _))

instance (s : State B) : Decidable s.Clean := inferInstanceAs (Decidable (_ ∧ _ ∧ _))

instance (s : State B) (l : Label B) : Decidable (s.Orderly l) := by
  cases l <;> unfold Orderly
  case threadLoop client =>
    unfold GivesUp shutterGivenUp frameGivenUp waitGivenUp captureGivenUp
    cases s.position <;> infer_instance
  all_goals infer_instance

theorem reachable_run (s : State B) (labels : List (Label B)) :
    Reachable Step s (s.run labels) := by
  induction labels generalizing s with
  | nil => exact ⟨[], .nil s⟩
  | cons l labels ih =>
    obtain ⟨as, h⟩ := ih (s.step l)
    exact ⟨l :: as, .cons rfl h⟩

/-- The thread goes on when nothing fails and no wait times out. -/
def goesOn : Label Unit := .threadLoop {}

def submission (requestId : ℤ) : List (Label Unit) :=
  [.startCapture, goesOn, goesOn, goesOn, goesOn, .notifyShutter requestId]

theorem captures_fresh_one : ∃ s : State Unit,
    s.outcomes = [⟨.captured, 0, some ((), 2)⟩] ∧ s.Starts ∧ s.startCapture.Fresh ∧
      s.ImagesFresh ∧ s.ListenerRemoved := by
  let labels := submission kCaptureRequestIdStart ++
    [.onResultAvailable kCaptureRequestIdStart, goesOn, .onCaptureAvailable 7 (some ()) false,
      goesOn, goesOn, goesOn, goesOn, goesOn]
  obtain ⟨s, he, hf⟩ := Option.map_eq_some_iff.mp
    (show (exec (guarded (fun (s : State Unit) l ↦ some (s.step l)) Orderly)
        (create .CONVERGED 0) labels).map
        (fun s ↦ (s.outcomes, decide (s.Starts ∧ s.Clean))) =
      some ([⟨.captured, 0, some ((), 2)⟩], true) by decide +kernel)
  obtain ⟨hout, hs⟩ := Prod.mk.inj hf
  obtain ⟨hs, hc⟩ := of_decide_eq_true hs
  obtain ⟨hfresh, himages, hl⟩ := captures_fresh ⟨labels, run_restrict_of_exec he⟩
  exact ⟨s, hout, hs, hfresh hs fun _ ↦ hc, himages, hl⟩

def lost (requestId : ℤ) : Label Unit := .notifyError .ERROR_CAMERA_REQUEST requestId 0 none

/-- The image of the first capture is lost four times, and comes after all when the capture has
been given up. The next capture fails for it and sends it. -/
theorem not_captures_fresh : ∃ s : State Unit, Reachable Step (create .CONVERGED 0) s ∧
    s.Starts ∧ ¬ s.startCapture.Fresh ∧ ¬ s.ListenerRemoved ∧
      ∃ labels, ¬ (s.startCapture.run labels).ImagesFresh := by
  let retry := [lost kCaptureRequestIdStart, goesOn, goesOn]
  let first := submission kCaptureRequestIdStart ++
    .onResultAvailable kCaptureRequestIdStart :: retry ++ retry ++ retry ++ retry ++
    [goesOn, goesOn, goesOn, .onCaptureAvailable 7 (some ()) false]
  let second := (submission (kCaptureRequestIdStart + 1)).tail ++ [goesOn, goesOn, goesOn, goesOn]
  refine ⟨run (create .CONVERGED 0) first, reachable_run _ _, by decide +kernel, ?_, ?_,
    second, ?_⟩
  · intro h
    exact absurd (h second) (by decide +kernel)
  · intro h
    exact absurd (h (by decide +kernel)) (by decide +kernel)
  · intro h
    exact absurd (h ⟨.retriesExceeded, 7, some ((), 6)⟩ (by decide +kernel) () 6 rfl)
      (by decide +kernel)

end State

end VirtualCamera.CaptureSequencer
