import VirtualCamera.CaptureSequencer.Model
import Mathlib.Data.List.Indexes

namespace VirtualCamera.CaptureSequencer

open Library.Transition

variable {B : Type}

namespace Position

/-- The capture that runs has been started for the shutter notification. -/
def readsShutter : Position → Bool
  | ZSL_START | STANDARD_START | STANDARD_PRECAPTURE_WAIT | newNotifyWait | STANDARD_CAPTURE
  | STANDARD_CAPTURE_WAIT | shutterNotifyWait | newFrameWait | newCaptureWait => true
  | _ => false

def readsTimeouts : Position → Bool
  | STANDARD_PRECAPTURE_WAIT | newNotifyWait | STANDARD_CAPTURE_WAIT | shutterNotifyWait
  | newFrameWait | newCaptureWait => true
  | _ => false

def readsPrecapture : Position → Bool
  | STANDARD_PRECAPTURE_WAIT | newNotifyWait => true
  | _ => false

/-- Whether the image can still reach the outcome of capture `n`, when `ended` captures have their
outcome. -/
def readsImage (n ended : ℕ) : Position → Bool
  | notBusy | discarded | accepted => n ≤ ended
  | sent => false
  | _ => true

end Position

def blanked (n : ℕ) (outcomes : List (Outcome B)) : List (Outcome B) :=
  outcomes.mapIdx fun i o ↦ if i < n then ⟨.captured, 0, none⟩ else o

@[simp] theorem length_blanked (n : ℕ) (outcomes : List (Outcome B)) :
    (blanked n outcomes).length = outcomes.length := List.length_mapIdx

@[simp] theorem blanked_blanked (n : ℕ) (outcomes : List (Outcome B)) :
    blanked n (blanked n outcomes) = blanked n outcomes := by
  unfold blanked
  rw [List.mapIdx_mapIdx]
  congr 1
  funext i o
  simp only [Function.comp_apply]
  split <;> rfl

theorem blanked_concat (n : ℕ) (outcomes : List (Outcome B)) (o : Outcome B) :
    blanked n (outcomes ++ [o]) =
      blanked n outcomes ++ [if outcomes.length < n then ⟨.captured, 0, none⟩ else o] := by
  unfold blanked
  rw [List.mapIdx_append, List.mapIdx_singleton, Nat.zero_add]

theorem getElem?_blanked (n : ℕ) (outcomes : List (Outcome B)) :
    (blanked n outcomes)[n]? = outcomes[n]? := by
  simp [blanked, List.getElem?_mapIdx]

namespace State

/-- What of a state can still reach the outcome of capture `n`. -/
def core (n : ℕ) (s : State B) : State B :=
  { s with
    mNewFrameId := 0
    mCaptureTimestamp := 0
    mShutterNotified := false
    mHalNotifiedShutter := s.position.readsShutter && s.mHalNotifiedShutter
    mTimeoutCount := bif s.position.readsTimeouts then s.mTimeoutCount else 0
    mAeInPrecapture := s.position.readsPrecapture && s.mAeInPrecapture
    mCaptureBuffer :=
      bif s.position.readsImage n s.outcomes.length then s.mCaptureBuffer else none
    outcomes := blanked n s.outcomes }

attribute [local simp] Position.readsShutter Position.readsTimeouts Position.readsPrecapture
  Position.readsImage

theorem core_core (n : ℕ) (s : State B) : (s.core n).core n = s.core n := by
  simp only [core, length_blanked, blanked_blanked, Bool.and_self_left]
  cases s.position.readsTimeouts <;> cases s.position.readsImage n s.outcomes.length <;> rfl

theorem core_shutterNotify (n : ℕ) (s : State B) : s.shutterNotify.core n = s.core n := rfl

theorem core_registerFrameListener (n : ℕ) (s : State B) (minId maxId : ℤ) :
    (s.core n).registerFrameListener minId maxId =
      (s.registerFrameListener minId maxId).core n := by
  unfold registerFrameListener
  have hl : (s.core n).mRangeListeners = s.mRangeListeners := rfl
  rw [hl]
  split <;> rfl

theorem core_timeOut (n : ℕ) (s : State B) (ht : s.position.readsTimeouts = true) :
    (s.core n).timeOut = s.timeOut.core n := by
  simp only [core, timeOut, ht, cond_true]

/-- A position at which the thread waits for a capture that has been submitted. -/
structure Waits (n : ℕ) (s : State B) : Prop where
  shutter : s.position.readsShutter = true
  timeouts : s.position.readsTimeouts = true
  image : s.position.readsImage n s.outcomes.length = true

theorem Waits.core {n : ℕ} {s : State B} (hw : s.Waits n) : (s.core n).Waits n :=
  ⟨hw.shutter, hw.timeouts, by simpa [State.core] using hw.image⟩

theorem core_precaptureNotified {n : ℕ} {s : State B} (hw : s.Waits n)
    (hp : s.position.readsPrecapture = true) :
    s.precaptureNotified.core n = (s.core n).precaptureNotified.core n := by
  obtain ⟨hs, ht, hi⟩ := hw
  simp only [precaptureNotified, core, hs, ht, hi, hp, cond_true, Bool.true_and]
  split_ifs <;> simp

theorem core_captureNotified {n : ℕ} {s : State B} (hw : s.Waits n) :
    s.captureNotified.core n = (s.core n).captureNotified.core n := by
  obtain ⟨hs, ht, hi⟩ := hw
  simp only [captureNotified, core, hs, ht, hi, cond_true, Bool.true_and, done,
    removeFrameListener]
  split_ifs <;> simp

theorem core_waitForCapture {n : ℕ} {s : State B} (hw : s.Waits n) :
    s.waitForCapture.core n = (s.core n).waitForCapture.core n := by
  unfold waitForCapture
  have hc : ((s.core n).mNewFrameReceived && !(s.core n).mNewCaptureReceived) =
    (s.mNewFrameReceived && !s.mNewCaptureReceived) := rfl
  rw [hc]
  split
  · simp only [core, hw.shutter, hw.timeouts, hw.image, cond_true, Bool.true_and]
    simp
  · exact core_captureNotified hw

theorem core_waitForFrame {n : ℕ} {s : State B} (hw : s.Waits n) :
    s.waitForFrame.core n = (s.core n).waitForFrame.core n := by
  unfold waitForFrame
  have hf : (s.core n).mNewFrameReceived = s.mNewFrameReceived := rfl
  rw [hf]
  split
  · simp only [core, hw.shutter, hw.timeouts, hw.image, cond_true, Bool.true_and]
    simp
  · exact core_waitForCapture hw

theorem core_manageStandardCaptureWait {n : ℕ} {s : State B} (hw : s.Waits n) :
    s.manageStandardCaptureWait.core n = (s.core n).manageStandardCaptureWait.core n := by
  have hw' : (s.core n).Waits n := hw.core
  have hh : (s.core n).mHalNotifiedShutter = s.mHalNotifiedShutter := by
    simp only [core, hw.shutter, Bool.true_and]
  have hm : (s.core n).mTimeoutCount = s.mTimeoutCount := by
    simp only [core, hw.timeouts, cond_true]
  unfold manageStandardCaptureWait
  rw [hh, hm]
  split
  · rw [core_waitForFrame (s := s.shutterNotify) ⟨hw.shutter, hw.timeouts, hw.image⟩,
      core_waitForFrame (s := (s.core n).shutterNotify) ⟨hw'.shutter, hw'.timeouts, hw'.image⟩,
      core_shutterNotify, core_shutterNotify, core_core]
  · simp only [core, hw.shutter, hw.timeouts, hw.image, cond_true, Bool.true_and, done]
    split <;> simp

theorem registerFrameListener_position (s : State B) (minId maxId : ℤ) :
    (s.registerFrameListener minId maxId).position = s.position := by
  unfold registerFrameListener
  split <;> rfl

theorem core_manageZslStart {n : ℕ} {s : State B} (client : Client) (hp : s.position = .ZSL_START) :
    (s.manageZslStart client).core n = ((s.core n).manageZslStart client).core n := by
  have hc : (s.core n).mCaptureId = s.mCaptureId := rfl
  unfold manageZslStart
  dsimp only
  rw [hc, core_registerFrameListener]
  split
  · simp [core, done, hp]
  · have hr := registerFrameListener_position s s.mCaptureId (s.mCaptureId + 1)
    generalize s.registerFrameListener s.mCaptureId (s.mCaptureId + 1) = r at hr ⊢
    rw [hp] at hr
    split <;> simp [core, hr]

theorem core_manageStandardStart {n : ℕ} {s : State B} (client : Client)
    (hp : s.position = .STANDARD_START) :
    (s.manageStandardStart client).core n = ((s.core n).manageStandardStart client).core n := by
  have hc : (s.core n).mCaptureId = s.mCaptureId := rfl
  unfold manageStandardStart
  dsimp only
  rw [hc, core_registerFrameListener]
  have hr := registerFrameListener_position s s.mCaptureId (s.mCaptureId + 1)
  generalize s.registerFrameListener s.mCaptureId (s.mCaptureId + 1) = r at hr ⊢
  rw [hp] at hr
  simp only [core, hr]
  split_ifs <;> simp

theorem core_manageStandardPrecaptureWait {n : ℕ} {s : State B} (hw : s.Waits n)
    (hp : s.position.readsPrecapture = true) :
    s.manageStandardPrecaptureWait.core n = (s.core n).manageStandardPrecaptureWait.core n := by
  unfold manageStandardPrecaptureWait
  have ha : (s.core n).mNewAEState = s.mNewAEState := rfl
  rw [ha]
  split
  · simp only [core, hw.shutter, hw.timeouts, hw.image, hp, cond_true, Bool.true_and]
    simp
  · exact core_precaptureNotified hw hp

theorem core_timeOut_of_waits {n : ℕ} {s : State B} (f : State B → State B) (hw : s.Waits n)
    (hf : s.timeOut.Waits n → (f s.timeOut).core n = (f (s.timeOut.core n)).core n) :
    (f s.timeOut).core n = (f (s.core n).timeOut).core n := by
  rw [core_timeOut n s hw.timeouts]
  exact hf ⟨hw.shutter, hw.timeouts, hw.image⟩

theorem core_threadLoop (n : ℕ) (s : State B) (client : Client) :
    (s.threadLoop client).core n = ((s.core n).threadLoop client).core n := by
  have hpos : (s.core n).position = s.position := rfl
  unfold threadLoop
  rw [hpos]
  cases hp : s.position <;> dsimp only
  case IDLE => cases h : s.mStartCapture <;> simp [core, manageIdle, hp, h]
  case START =>
    simp only [core, manageStart, hp, done]
    split_ifs <;> simp
  case ZSL_START => exact core_manageZslStart client hp
  case ZSL_WAITING => simp [core, done, hp]
  case ZSL_REPROCESSING => simp [core, hp]
  case STANDARD_START => exact core_manageStandardStart client hp
  case STANDARD_PRECAPTURE_WAIT =>
    exact core_manageStandardPrecaptureWait (by constructor <;> rw [hp] <;> rfl) (by rw [hp]; rfl)
  case newNotifyWait =>
    have hw : s.Waits n := by constructor <;> rw [hp] <;> rfl
    have hpre : s.position.readsPrecapture = true := by rw [hp]; rfl
    split
    · exact core_timeOut_of_waits precaptureNotified hw fun h ↦ core_precaptureNotified h hpre
    · exact core_manageStandardPrecaptureWait hw hpre
  case STANDARD_CAPTURE =>
    simp only [core, manageStandardCapture, hp, done]
    split_ifs <;> simp
  case STANDARD_CAPTURE_WAIT =>
    exact core_manageStandardCaptureWait (by constructor <;> rw [hp] <;> rfl)
  case shutterNotifyWait =>
    have hw : s.Waits n := by constructor <;> rw [hp] <;> rfl
    split
    · rw [core_timeOut n s hw.timeouts]
      simp [core, hp, timeOut]
    · exact core_manageStandardCaptureWait hw
  case newFrameWait =>
    have hw : s.Waits n := by constructor <;> rw [hp] <;> rfl
    split
    · exact core_timeOut_of_waits waitForCapture hw core_waitForCapture
    · exact core_waitForFrame hw
  case newCaptureWait =>
    have hw : s.Waits n := by constructor <;> rw [hp] <;> rfl
    split
    · exact core_timeOut_of_waits captureNotified hw core_captureNotified
    · exact core_waitForCapture hw
  case DONE => by_cases hn : n ≤ s.outcomes.length <;> simp [core, manageDone, hp, hn]
  case notBusy => by_cases hn : n ≤ s.outcomes.length <;> split <;> simp [core, hp, hn]
  case discarded => simp [core, sendImage, hp, blanked_concat]
  case accepted =>
    by_cases hn : n ≤ s.outcomes.length
    · simp [core, sendImage, hp, blanked_concat, hn]
    · have hlt : s.outcomes.length < n := by omega
      simp [core, sendImage, hp, blanked_concat, hlt]
  case sent => simp [core, hp]

theorem core_onCaptureAvailable (n : ℕ) (s : State B) (timestamp : ℤ) (captureBuffer : Option B)
    (captureError : Bool) :
    (s.onCaptureAvailable timestamp captureBuffer captureError).core n =
      ((s.core n).onCaptureAvailable timestamp captureBuffer captureError).core n := by
  simp only [core, onCaptureAvailable, length_blanked, blanked_blanked, Bool.and_self_left]
  cases s.position.readsTimeouts <;> rfl

theorem core_step (n : ℕ) (s : State B) (l : Label B) :
    (s.step l).core n = ((s.core n).step l).core n := by
  have hcc := core_core n s
  cases l with
  | startCapture =>
    have hb : (s.core n).mBusy = s.mBusy := rfl
    have hc : (s.core n).mStartCapture = s.mStartCapture := rfl
    change s.startCapture.core n = (s.core n).startCapture.core n
    unfold startCapture
    rw [hb, hc]
    split
    · exact hcc.symm
    split
    · exact hcc.symm
    · exact congrArg (fun t : State B ↦ { t with mStartCapture := true, startedAt := s.received })
        hcc.symm
  | notifyAutoExposure newState triggerId =>
    exact congrArg (fun t : State B ↦ t.notifyAutoExposure newState triggerId) hcc.symm
  | notifyShutter requestId =>
    simp only [step, core, notifyShutter, length_blanked, blanked_blanked, Bool.and_self_left]
    cases s.position.readsTimeouts <;> cases s.position.readsShutter <;>
      cases s.position.readsImage n s.outcomes.length <;> rfl
  | notifyError errorCode requestId errorStreamId captureStreamId =>
    have hj : (s.core n).jpegBufferLost errorCode requestId errorStreamId captureStreamId =
      s.jpegBufferLost errorCode requestId errorStreamId captureStreamId := rfl
    simp only [step, notifyError]
    rw [hj]
    split
    · exact core_onCaptureAvailable n s 0 none true
    · exact congrArg (fun t : State B ↦ { t with received := s.received + 1 }) hcc.symm
  | onResultAvailable requestId =>
    exact congrArg (fun t : State B ↦ { t with
      received := s.received + 1, mNewFrameReceived := true }) hcc.symm
  | onCaptureAvailable timestamp captureBuffer captureError =>
    exact core_onCaptureAvailable n s timestamp captureBuffer captureError
  | threadLoop client => exact core_threadLoop n s client

end State

end VirtualCamera.CaptureSequencer
