import Mathlib.Data.List.Basic
import VirtualCamera.Encoder.Chunking
import VirtualCamera.Encoder.Muxer
import VirtualCamera.Encoder.Wakeup

namespace VirtualCamera.Encoder.StartCount

open Library Library.Transition
open Chunking (Call Fill Queued fillArray fillBuffer)
open Muxer (MediaMuxerWrapper)

/-! ### The encoders of one muxer -/

/-- Where a `drain` is: at the head of its loop, between `addTrack` and the call of `start`,
or in the wait until the muxer is ready. -/
inductive Drain
  | looping
  | tracked
  | awaiting
  deriving DecidableEq, Repr

/-- `started` and `released` record that the encoder has called `start` of the muxer and that
its `release` is over, `queuedEOS` that its codec was given an input buffer with the end of
the stream. -/
structure MediaEncoder where
  isAudio : Bool
  thread : Wakeup.State
  mMuxerStarted : Bool
  drain : Drain
  started : Bool
  released : Bool
  queuedEOS : Bool
  deriving DecidableEq, Repr

/-- An encoder after `prepare`. -/
def MediaEncoder.create (isAudio : Bool) : MediaEncoder :=
  ⟨isAudio, .create, false, .looping, false, false, false⟩

/-- A call of one of the two `encode`, with the answers of `dequeueInputBuffer` as far as its
loop went. -/
inductive EncodeCall
  | array (buffer : Option (List UInt8)) (length : ℤ) (answers : List (Option (Nio.Buffer UInt8)))
  | byteBuffer (buffer : Option (Nio.Buffer UInt8)) (length : ℤ)
      (answers : List (Option (Nio.Buffer UInt8)))

def rounds {β : Type} (fill : Fill β) (length : ℤ) (buffer : β)
    (answers : List (Option (Nio.Buffer UInt8))) : Call β :=
  answers.foldl (fun c inputBuffer ↦ c.round fill length inputBuffer) ⟨0, buffer, [], false, false⟩

def EncodeCall.queued : EncodeCall → List Queued
  | .array buffer length answers => (rounds fillArray length buffer answers).queued
  | .byteBuffer buffer length answers => (rounds fillBuffer length buffer answers).queued

/-- The call that `signalEndOfInputStream` makes between the last two drains. -/
def signalEndOfInputStream (answers : List (Option (Nio.Buffer UInt8))) : EncodeCall :=
  .array none 0 answers

def MediaEncoder.draining (e : MediaEncoder) : Bool :=
  match e.thread.phase with
  | .draining | .stopDraining | .endDraining => true
  | _ => false

inductive EncoderLabel
  | thread (l : Wakeup.Label)
  | encode (call : EncodeCall)
  | formatChanged
  | start
  | ready
  | interrupted

/-- The steps that other threads take on an encoder. -/
def isCall : Wakeup.Label → Bool
  | .frameAvailableSoon | .startRecording | .stopRecording => true
  | _ => false

/-- The muxer and the encoder after a step. A buffer with the end of the stream clears
`mMuxerStarted`; a change of the format when the muxer is started throws. -/
def MediaEncoder.step (muxer : MediaMuxerWrapper) (e : MediaEncoder) :
    EncoderLabel → Option (MediaMuxerWrapper × MediaEncoder)
  | .thread l =>
    if isCall l = false ∧ e.drain ≠ .looping then none
    else
      (e.thread.step l).bind fun thread ↦
        match l with
        | .drained true =>
          if e.thread.mIsCapturing then
            some (muxer, { e with thread := thread, mMuxerStarted := false })
          else none
        | .released =>
          some (if e.mMuxerStarted then muxer.stop else muxer,
            { e with thread := thread, released := true })
        | _ => some (muxer, { e with thread := thread })
  | .encode call =>
    some (muxer, { e with queuedEOS := e.queuedEOS || call.queued.any Queued.endOfStream })
  | .formatChanged =>
    if e.draining ∧ e.drain = .looping ∧ e.thread.mIsCapturing then
      if e.mMuxerStarted ∨ muxer.mIsStarted then
        some (muxer, { e with thread := { e.thread with phase := .exited } })
      else some (muxer, { e with mMuxerStarted := true, drain := .tracked })
    else none
  | .start =>
    if e.drain = .tracked then
      some (muxer.start,
        { e with drain := if muxer.start.mIsStarted then .looping else .awaiting, started := true })
    else none
  | .ready =>
    if e.drain = .awaiting ∧ muxer.mIsStarted then some (muxer, { e with drain := .looping })
    else none
  | .interrupted =>
    if e.drain = .awaiting then
      (e.thread.step (.drained false)).map fun thread ↦
        (muxer, { e with thread := thread, drain := .looping })
    else none

/-- The encoders in the order in which they were added; the two slots of the muxer hold
positions in that list. -/
structure State where
  muxer : MediaMuxerWrapper
  mVideoEncoder : Option ℕ
  mAudioEncoder : Option ℕ
  encoders : List MediaEncoder

def State.create : State := ⟨.create 0, none, none, []⟩

def State.slot (s : State) (isAudio : Bool) : Option ℕ :=
  if isAudio then s.mAudioEncoder else s.mVideoEncoder

def State.setSlot (s : State) (isAudio : Bool) (slot : Option ℕ) : State :=
  if isAudio then { s with mAudioEncoder := slot } else { s with mVideoEncoder := slot }

inductive Label
  | addEncoder (isAudio : Bool)
  | encoder (i : ℕ) (l : EncoderLabel)
  | startRecording (isAudio : Bool)
  | stopRecording (isAudio : Bool)

def State.encoder (s : State) (i : ℕ) (l : EncoderLabel) : Option State :=
  s.encoders[i]?.bind fun e ↦
    (e.step s.muxer l).map fun p ↦ { s with muxer := p.1, encoders := s.encoders.set i p.2 }

/-- A slot that is taken makes `addEncoder` throw. The calls for the two slots are steps of
their own. -/
def State.step (s : State) : Label → Option State
  | .addEncoder isAudio =>
    if (s.slot isAudio).isSome then none
    else
      let s := s.setSlot isAudio (some s.encoders.length)
      some { s with
        muxer := { s.muxer with
          mEncoderCount := s.mVideoEncoder.isSome.toNat + s.mAudioEncoder.isSome.toNat }
        encoders := s.encoders ++ [.create isAudio] }
  | .encoder i l => s.encoder i l
  | .startRecording isAudio =>
    (s.slot isAudio).bind fun i ↦ s.encoder i (.thread .startRecording)
  | .stopRecording isAudio =>
    (s.slot isAudio).bind fun i ↦
      (s.encoder i (.thread .stopRecording)).map fun s ↦ s.setSlot isAudio none

abbrev Step : State → Label → State → Prop := ofPartial State.step

/-! ### The balance -/

def MediaEncoder.holds (e : MediaEncoder) : Bool := e.started && !e.released

structure Balanced (s : State) : Prop where
  count : s.muxer.mStatredCount = s.encoders.countP MediaEncoder.holds
  nonneg : 0 ≤ s.muxer.mStatredCount
  stopped : (∀ e ∈ s.encoders, e.started = true → e.released = true) →
    s.muxer.mIsStarted = false

/-- What `MediaCodec` promises: an output buffer with the end of the stream comes only after
an input buffer with it was queued. -/
def ReportsQueued (s : State) : Label → Prop
  | .encoder i (.thread (.drained true)) => ∀ e ∈ s.encoders[i]?, e.queuedEOS = true
  | _ => True

instance (s : State) (l : Label) : Decidable (ReportsQueued s l) := by
  unfold ReportsQueued
  split <;> infer_instance

/-- What the flags of an encoder say about its share of the count. -/
structure MediaEncoder.Settled (e : MediaEncoder) : Prop where
  started : e.released = false → e.drain ≠ .tracked → e.started = e.mMuxerStarted
  tracked : e.drain = .tracked → e.mMuxerStarted = true ∧ e.started = false
  draining : e.drain ≠ .looping → e.draining = true
  released : e.released = true → e.thread.phase = .finishing ∨ e.thread.phase = .exited
  queuedEOS : e.queuedEOS = false

/-- What a step of an encoder does to the muxer goes with its share of the count. -/
inductive Exchange (muxer : MediaMuxerWrapper) (e : MediaEncoder) :
    MediaMuxerWrapper → MediaEncoder → Prop
  | keep {e' : MediaEncoder} : e'.holds = e.holds → Exchange muxer e muxer e'
  | start {e' : MediaEncoder} :
      e.holds = false → e'.holds = true → Exchange muxer e muxer.start e'
  | stop {e' : MediaEncoder} :
      e.holds = true → e'.holds = false → Exchange muxer e muxer.stop e'

/-! ### The calls of `encode` -/

section Rounds

variable {β : Type} {fill : Fill β} {length : ℤ}

/-- The loop is not entered for the length that means the end of the stream, so nothing is
queued with it. -/
structure NoEnd (length : ℤ) (c : Call β) : Prop where
  queued : ∀ q ∈ c.queued, q.endOfStream = false
  ix : length ≤ 0 → c.ix = 0

theorem NoEnd.offer {c : Call β} (h : NoEnd length c) (hlength : 0 < length)
    (inputBuffer : Nio.Buffer UInt8) : NoEnd length (c.offer fill length inputBuffer) := by
  have hno : ¬ length ≤ 0 := not_le.mpr hlength
  unfold Call.offer
  dsimp only
  split
  · exact ⟨h.queued, h.ix⟩
  · rw [if_neg hno]
    refine ⟨fun q hq ↦ ?_, fun hle ↦ absurd hle hno⟩
    obtain hq | hq := List.mem_append.mp hq
    · exact h.queued q hq
    · rw [List.mem_singleton.mp hq]

theorem NoEnd.round {c : Call β} (h : NoEnd length c) (inputBuffer : Option (Nio.Buffer UInt8)) :
    NoEnd length (c.round fill length inputBuffer) := by
  unfold Call.round
  split
  · rename_i hloops
    have hlength : 0 < length := by
      by_contra hno
      have hzero := h.ix (not_lt.mp hno)
      have hlt := hloops.2.2
      omega
    cases inputBuffer with
    | none => exact h
    | some inputBuffer => exact h.offer hlength inputBuffer
  · exact h

theorem noEnd_rounds (fill : Fill β) (length : ℤ) (buffer : β)
    (answers : List (Option (Nio.Buffer UInt8))) :
    NoEnd length (rounds fill length buffer answers) := by
  have hfold : ∀ (answers : List (Option (Nio.Buffer UInt8))) (c : Call β), NoEnd length c →
      NoEnd length (answers.foldl (fun c inputBuffer ↦ c.round fill length inputBuffer) c) := by
    intro answers
    induction answers with
    | nil => exact fun _ h ↦ h
    | cons inputBuffer answers ih => exact fun c h ↦ ih _ (h.round inputBuffer)
  exact hfold answers _ ⟨nofun, fun _ ↦ rfl⟩

end Rounds

theorem EncodeCall.not_endOfStream (call : EncodeCall) :
    call.queued.any Queued.endOfStream = false := by
  rw [List.any_eq_false]
  intro q hq
  rw [Bool.not_eq_true]
  cases call with
  | array buffer length answers =>
    exact (noEnd_rounds fillArray length buffer answers).queued q hq
  | byteBuffer buffer length answers =>
    exact (noEnd_rounds fillBuffer length buffer answers).queued q hq

/-! ### One step of an encoder -/

theorem phase_notifyAll (s : Wakeup.State) :
    s.notifyAll.phase = s.phase ∨ s.phase = .waiting false ∨ s.phase = .waiting true := by
  unfold Wakeup.State.notifyAll
  dsimp only
  split
  · rename_i n hphase
    cases n
    · exact .inr (.inl hphase)
    · exact .inr (.inr hphase)
  · exact .inl rfl

/-- A call from another thread moves the encoder thread only in its wait. -/
theorem phase_call {s t : Wakeup.State} {l : Wakeup.Label} (hcall : isCall l = true)
    (hst : s.step l = some t) :
    t.phase = s.phase ∨ s.phase = .waiting false ∨ s.phase = .waiting true := by
  cases l with
  | frameAvailableSoon =>
    cases hst
    unfold Wakeup.State.frameAvailableSoon
    split
    · exact .inl rfl
    · exact phase_notifyAll { s with mRequestDrain := s.mRequestDrain + 1 }
  | startRecording =>
    cases hst
    exact phase_notifyAll { s with mIsCapturing := true, mRequestStop := false }
  | stopRecording =>
    cases hst
    unfold Wakeup.State.stopRecording
    split
    · exact .inl rfl
    · exact phase_notifyAll { s with mRequestStop := true }
  | begin | examine | enterWait | wake | interrupt | drained | failed | released | finish =>
    cases hcall

/-- After `release` the thread only finishes. -/
theorem phase_after_release {s t : Wakeup.State} {l : Wakeup.Label}
    (hphase : s.phase = .finishing ∨ s.phase = .exited) (hst : s.step l = some t) :
    t.phase = .finishing ∨ t.phase = .exited := by
  cases hcall : isCall l with
  | true =>
    rcases phase_call hcall hst with hkeep | hwait
    · exact hkeep ▸ hphase
    · rcases hphase with hphase | hphase <;> simp [hphase] at hwait
  | false =>
    cases l with
    | finish =>
      obtain ⟨-, hst⟩ := Option.ite_none_right_eq_some.mp hst
      cases hst
      exact .inr rfl
    | frameAvailableSoon | startRecording | stopRecording => cases hcall
    | begin | examine | enterWait | wake | interrupt | drained | failed | released =>
      rcases hphase with hphase | hphase <;> simp [Wakeup.State.step, hphase] at hst

theorem MediaEncoder.draining_iff (e : MediaEncoder) :
    e.draining = true ↔ e.thread.phase = .draining ∨ e.thread.phase = .stopDraining ∨
      e.thread.phase = .endDraining := by
  unfold draining
  split <;> simp_all

/-- An encoder whose drain is under way is moved by calls only, and they leave it there. -/
theorem MediaEncoder.draining_call {e : MediaEncoder} {thread : Wakeup.State} {l : Wakeup.Label}
    (hcall : isCall l = true) (hst : e.thread.step l = some thread) (h : e.draining = true) :
    { e with thread := thread }.draining = true := by
  rw [draining_iff] at h ⊢
  rcases phase_call hcall hst with hkeep | hwait
  · exact hkeep ▸ h
  · rcases h with h | h | h <;> simp [h] at hwait

theorem MediaEncoder.Settled.thread {e : MediaEncoder} {thread : Wakeup.State} {l : Wakeup.Label}
    (h : e.Settled) (hst : e.thread.step l = some thread)
    (hown : ¬ (isCall l = false ∧ e.drain ≠ .looping)) : { e with thread := thread }.Settled where
  started := h.started
  tracked := h.tracked
  draining hdrain := by
    have hcall : isCall l = true := by
      by_contra hnot
      exact hown ⟨Bool.eq_false_iff.mpr hnot, hdrain⟩
    exact draining_call hcall hst (h.draining hdrain)
  released hreleased := phase_after_release (h.released hreleased) hst
  queuedEOS := h.queuedEOS

/-- The end of a drain leaves the thread in the next phase, not in `release`. -/
theorem MediaEncoder.not_released {e : MediaEncoder} (h : e.Settled) (hdrain : e.draining = true) :
    e.released = false := by
  rw [draining_iff] at hdrain
  cases hreleased : e.released with
  | false => rfl
  | true => rcases h.released hreleased with hphase | hphase <;> simp [hphase] at hdrain

theorem MediaEncoder.Settled.step {muxer muxer' : MediaMuxerWrapper} {e e' : MediaEncoder}
    {l : EncoderLabel} (h : e.Settled)
    (hend : l = .thread (.drained true) → e.queuedEOS = true)
    (hst : e.step muxer l = some (muxer', e')) : e'.Settled ∧ Exchange muxer e muxer' e' := by
  cases l with
  | thread l =>
    obtain ⟨hown, hst⟩ := Option.ite_none_left_eq_some.mp hst
    obtain ⟨thread, hthread, hst⟩ := Option.bind_eq_some_iff.mp hst
    have hsettled := h.thread hthread hown
    split at hst
    · -- nothing was queued with the end of the stream, so the codec does not report it
      have hqueued := hend rfl
      rw [h.queuedEOS] at hqueued
      cases hqueued
    · cases hst
      have hlooping : e.drain = .looping := by
        by_contra hnot
        exact hown ⟨rfl, hnot⟩
      obtain ⟨hphase, hdone⟩ := Option.ite_none_right_eq_some.mp hthread
      cases hdone
      have hfresh : e.released = false := by
        cases hreleased : e.released with
        | false => rfl
        | true => rcases h.released hreleased with hphase' | hphase' <;> simp [hphase'] at hphase
      have hstarted := h.started hfresh (by simp [hlooping])
      refine ⟨⟨nofun, fun ht ↦ ?_, fun hn ↦ absurd hlooping hn, fun _ ↦ .inl rfl, h.queuedEOS⟩, ?_⟩
      · exact absurd ht (by simp [hlooping])
      · split
        · rename_i hmuxer
          exact .stop (by simp [holds, hfresh, hstarted, hmuxer]) (by simp [holds])
        · rename_i hmuxer
          exact .keep (by simp [holds, hstarted, hmuxer])
    · cases hst
      exact ⟨hsettled, .keep rfl⟩
  | encode call =>
    cases hst
    have hsame : (e.queuedEOS || call.queued.any Queued.endOfStream) = false := by
      rw [h.queuedEOS, call.not_endOfStream]
      rfl
    exact ⟨⟨h.started, h.tracked, h.draining, h.released, hsame⟩, .keep rfl⟩
  | formatChanged =>
    obtain ⟨⟨hdraining, hlooping, -⟩, hst⟩ := Option.ite_none_right_eq_some.mp hst
    have hfresh := not_released h hdraining
    have hstarted := h.started hfresh (by simp [hlooping])
    dsimp only at hst
    split at hst
    · cases hst
      refine ⟨⟨h.started, h.tracked, fun hn ↦ absurd hlooping hn, fun _ ↦ .inr rfl, h.queuedEOS⟩,
        .keep rfl⟩
    · rename_i hnot
      cases hst
      have hunstarted : e.mMuxerStarted = false :=
        Bool.eq_false_iff.mpr fun hm ↦ hnot (.inl hm)
      refine ⟨⟨fun _ ht ↦ absurd rfl ht, fun _ ↦ ⟨rfl, hstarted.trans hunstarted⟩, fun _ ↦ ?_,
        fun hr ↦ h.released hr, h.queuedEOS⟩, .keep rfl⟩
      exact hdraining
  | start =>
    obtain ⟨htracked, hst⟩ := Option.ite_none_right_eq_some.mp hst
    cases hst
    obtain ⟨hmuxer, hnot⟩ := h.tracked htracked
    have hdraining := h.draining (by simp [htracked])
    have hfresh := not_released h hdraining
    refine ⟨⟨fun _ _ ↦ hmuxer.symm, fun ht ↦ ?_, fun _ ↦ hdraining, fun hr ↦ h.released hr,
      h.queuedEOS⟩, ?_⟩
    · dsimp only at ht
      split at ht <;> cases ht
    · exact .start (by simp [holds, hnot]) (by simp [holds, hfresh])
  | ready =>
    obtain ⟨⟨hawaiting, -⟩, hst⟩ := Option.ite_none_right_eq_some.mp hst
    cases hst
    refine ⟨⟨fun hr _ ↦ h.started hr (by simp [hawaiting]), nofun, fun hn ↦ absurd rfl hn,
      h.released, h.queuedEOS⟩, .keep rfl⟩
  | interrupted =>
    obtain ⟨hawaiting, hst⟩ := Option.ite_none_right_eq_some.mp hst
    obtain ⟨thread, hthread, hst⟩ := Option.map_eq_some_iff.mp hst
    cases hst
    refine ⟨⟨fun hr _ ↦ h.started hr (by simp [hawaiting]), nofun, fun hn ↦ absurd rfl hn,
      fun hr ↦ phase_after_release (h.released hr) hthread, h.queuedEOS⟩, .keep rfl⟩

/-! ### The balance over whole runs -/

theorem start_count (muxer : MediaMuxerWrapper) :
    muxer.start.mStatredCount = muxer.mStatredCount + 1 := by
  unfold MediaMuxerWrapper.start
  dsimp only
  split <;> rfl

theorem stop_count (muxer : MediaMuxerWrapper) :
    muxer.stop.mStatredCount = muxer.mStatredCount - 1 := by
  unfold MediaMuxerWrapper.stop
  dsimp only
  split <;> rfl

theorem start_encoderCount (muxer : MediaMuxerWrapper) :
    muxer.start.mEncoderCount = muxer.mEncoderCount := by
  unfold MediaMuxerWrapper.start
  dsimp only
  split <;> rfl

theorem stop_encoderCount (muxer : MediaMuxerWrapper) :
    muxer.stop.mEncoderCount = muxer.mEncoderCount := by
  unfold MediaMuxerWrapper.stop
  dsimp only
  split <;> rfl

/-- A stop that takes the last share of the count ends the muxer. -/
theorem stop_isStarted {muxer : MediaMuxerWrapper} (hcount : 0 < muxer.mEncoderCount)
    (hstarted : muxer.stop.mIsStarted = true) : 0 < muxer.stop.mStatredCount := by
  rw [stop_count]
  unfold MediaMuxerWrapper.stop at hstarted
  dsimp only at hstarted
  split at hstarted
  · cases hstarted
  · omega

theorem countP_set_of_getElem? {α : Type} {p : α → Bool} {l : List α} {i : ℕ} {a : α}
    (h : l[i]? = some a) (b : α) :
    (l.set i b).countP p + (p a).toNat = l.countP p + (p b).toNat := by
  induction l generalizing i with
  | nil => cases h
  | cons x l ih =>
    cases i with
    | zero =>
      cases h
      simp only [List.set_cons_zero, List.countP_cons]
      cases p a <;> cases p b <;> simp
    | succ i =>
      have htail := ih h
      simp only [List.set_cons_succ, List.countP_cons]
      omega

structure Consistent (s : State) : Prop where
  settled : ∀ e ∈ s.encoders, e.Settled
  count : s.muxer.mStatredCount = s.encoders.countP MediaEncoder.holds
  encoders : s.encoders ≠ [] → 0 < s.muxer.mEncoderCount
  running : s.muxer.mIsStarted = true → 0 < s.muxer.mStatredCount

theorem Consistent.create : Consistent State.create where
  settled _ he := absurd he List.not_mem_nil
  count := rfl
  encoders h := absurd rfl h
  running h := absurd h Bool.false_ne_true

theorem Consistent.balanced {s : State} (h : Consistent s) : Balanced s where
  count := h.count
  nonneg := by
    rw [h.count]
    exact Int.natCast_nonneg _
  stopped hall := by
    by_contra hnot
    have hpos := h.running (Bool.not_eq_false _ ▸ hnot)
    rw [h.count] at hpos
    obtain ⟨e, he, hholds⟩ := List.countP_pos_iff.mp (Int.natCast_pos.mp hpos)
    unfold MediaEncoder.holds at hholds
    obtain ⟨hstarted, hfresh⟩ := Bool.and_eq_true_iff.mp hholds
    rw [hall e he hstarted] at hfresh
    cases hfresh

theorem Consistent.setSlot {s : State} (h : Consistent s) (isAudio : Bool) (slot : Option ℕ) :
    Consistent (s.setSlot isAudio slot) := by
  unfold State.setSlot
  split
  · exact ⟨h.settled, h.count, h.encoders, h.running⟩
  · exact ⟨h.settled, h.count, h.encoders, h.running⟩

/-- The count follows the exchange. -/
theorem Exchange.count {muxer muxer' : MediaMuxerWrapper} {e e' : MediaEncoder}
    (h : Exchange muxer e muxer' e') :
    muxer'.mStatredCount + e.holds.toNat = muxer.mStatredCount + e'.holds.toNat := by
  cases h with
  | keep hsame => rw [hsame]
  | start hbefore hafter =>
    rw [start_count, hbefore, hafter]
    simp
  | stop hbefore hafter =>
    rw [stop_count, hbefore, hafter]
    simp

theorem Exchange.encoderCount {muxer muxer' : MediaMuxerWrapper} {e e' : MediaEncoder}
    (h : Exchange muxer e muxer' e') : muxer'.mEncoderCount = muxer.mEncoderCount := by
  cases h with
  | keep => rfl
  | start => exact start_encoderCount muxer
  | stop => exact stop_encoderCount muxer

theorem Exchange.running {muxer muxer' : MediaMuxerWrapper} {e e' : MediaEncoder}
    (h : Exchange muxer e muxer' e') (hcount : 0 < muxer.mEncoderCount)
    (hnonneg : 0 ≤ muxer.mStatredCount)
    (hrunning : muxer.mIsStarted = true → 0 < muxer.mStatredCount)
    (hstarted : muxer'.mIsStarted = true) : 0 < muxer'.mStatredCount := by
  cases h with
  | keep => exact hrunning hstarted
  | start =>
    rw [start_count]
    omega
  | stop => exact stop_isStarted hcount hstarted

theorem Consistent.encoder {s t : State} {i : ℕ} {l : EncoderLabel} (h : Consistent s)
    (hend : l = .thread (.drained true) → ∀ e ∈ s.encoders[i]?, e.queuedEOS = true)
    (hst : s.encoder i l = some t) : Consistent t := by
  obtain ⟨e, he, hst⟩ := Option.bind_eq_some_iff.mp hst
  obtain ⟨⟨muxer', e'⟩, hstep, ht⟩ := Option.map_eq_some_iff.mp hst
  cases ht
  have hmem := List.mem_of_getElem? he
  obtain ⟨hsettled, hexchange⟩ := (h.settled e hmem).step (fun hl ↦ hend hl e he) hstep
  have hne : s.encoders ≠ [] := List.ne_nil_of_mem hmem
  have hnonneg := h.balanced.nonneg
  refine ⟨fun x hx ↦ ?_, ?_, fun _ ↦ ?_, fun hstarted ↦ ?_⟩
  · rcases List.mem_or_eq_of_mem_set hx with hx | hx
    · exact h.settled x hx
    · exact hx ▸ hsettled
  · have hset := countP_set_of_getElem? (p := MediaEncoder.holds) he e'
    have hcount := hexchange.count
    have hbefore := h.count
    dsimp only
    omega
  · exact hexchange.encoderCount ▸ h.encoders hne
  · exact hexchange.running (h.encoders hne) hnonneg h.running hstarted

theorem Consistent.addEncoder {s t : State} {isAudio : Bool} (h : Consistent s)
    (hst : s.step (.addEncoder isAudio) = some t) : Consistent t := by
  obtain ⟨-, hst⟩ := Option.ite_none_left_eq_some.mp hst
  cases hst
  have hslot := h.setSlot isAudio (some s.encoders.length)
  refine ⟨fun x hx ↦ ?_, ?_, fun _ ↦ ?_, hslot.running⟩
  · rcases List.mem_append.mp hx with hx | hx
    · exact hslot.settled x hx
    · cases List.mem_singleton.mp hx
      exact ⟨fun _ _ ↦ rfl, nofun, fun hn ↦ absurd rfl hn, nofun, rfl⟩
  · simp [hslot.count, MediaEncoder.holds, MediaEncoder.create]
  · cases isAudio with
    | false =>
      simp only [State.setSlot, Bool.false_eq_true, if_false, Option.isSome_some, Bool.toNat_true]
      omega
    | true =>
      simp only [State.setSlot, if_true, Option.isSome_some, Bool.toNat_true]
      omega

theorem Consistent.step {s t : State} {l : Label} (h : Consistent s) (hst : Step s l t)
    (hok : ReportsQueued s l) : Consistent t := by
  cases l with
  | addEncoder isAudio => exact h.addEncoder hst
  | encoder i l => exact h.encoder (fun hl ↦ by subst hl; exact hok) hst
  | startRecording isAudio =>
    obtain ⟨i, -, hst⟩ := Option.bind_eq_some_iff.mp hst
    exact h.encoder (fun hl ↦ by cases hl) hst
  | stopRecording isAudio =>
    obtain ⟨i, -, hst⟩ := Option.bind_eq_some_iff.mp hst
    obtain ⟨u, hu, ht⟩ := Option.map_eq_some_iff.mp hst
    exact ht ▸ (h.encoder (fun hl ↦ by cases hl) hu).setSlot isAudio none

/-- In every run, of any encoders, the muxer counts those that have started and are not
released, as long as a codec reports the end of the stream only after it was queued. -/
theorem balanced_of_reportsQueued {s : State}
    (h : Reachable (restrict Step ReportsQueued) State.create s) : Balanced s := by
  have hconsistent : Consistent s := by
    apply h.invariant (P := Consistent)
    · exact fun s l t hst hs ↦ hs.step hst.1 hst.2
    · exact .create
  exact hconsistent.balanced

/-- A frame that goes into one input buffer. -/
def frame : EncodeCall :=
  .array (some [1, 2]) 2 [none, some ⟨[0, 0, 0, 0], 0, 4, Nat.zero_le _, le_rfl⟩]

/-- An encoder up to the point at which it has started the muxer, and a request to stop. -/
def startAndStop (i : ℕ) : List Label :=
  [.addEncoder false, .encoder i (.thread .begin), .startRecording false,
    .encoder i (.thread .frameAvailableSoon), .encoder i (.encode frame),
    .encoder i (.thread .examine), .encoder i .formatChanged, .encoder i .start,
    .encoder i (.thread (.drained false)), .stopRecording false, .encoder i (.thread .examine)]

def shutDown (i : ℕ) : List Label :=
  [.encoder i (.thread (.drained false)), .encoder i (.encode (signalEndOfInputStream [])),
    .encoder i (.thread (.drained false)), .encoder i (.thread .released)]

theorem balanced_of_reportsQueued_released : ∃ s,
    Reachable (restrict Step ReportsQueued) State.create s ∧
      s.encoders.map MediaEncoder.released = [true] ∧ Balanced s := by
  have h : (exec (guarded State.step ReportsQueued) State.create
      (startAndStop 0 ++ shutDown 0)).map (fun s ↦ s.encoders.map MediaEncoder.released) =
        some [true] := by decide +kernel
  obtain ⟨s, hs, he⟩ := Option.map_eq_some_iff.mp h
  have hreach : Reachable (restrict Step ReportsQueued) State.create s :=
    ⟨_, run_restrict_of_exec hs⟩
  exact ⟨s, hreach, he, balanced_of_reportsQueued hreach⟩

end VirtualCamera.Encoder.StartCount
