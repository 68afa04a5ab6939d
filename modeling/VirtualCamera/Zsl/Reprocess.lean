import Mathlib.Tactic.MkIffOfInductiveProp
import VirtualCamera.Zsl.Model

namespace VirtualCamera.Zsl

open Library SlotQueue Memory Transition
open CameraService.InFlight (CameraMetadata ANDROID_REQUEST_FRAME_COUNT ANDROID_REQUEST_ID
  ANDROID_SENSOR_TIMESTAMP)
open RingBuffer (BufferItem)

variable {Q : Type} {B : InputQueue Q}

/-- The buffer is the one of the frame that the metadata of the request are from. -/
def Belongs (item : InputItem) (request : CameraMetadata) : Prop :=
  (request.find ANDROID_SENSOR_TIMESTAMP).head? = some item.data.timestamp

instance (item : InputItem) (request : CameraMetadata) : Decidable (Belongs item request) :=
  inferInstanceAs (Decidable (_ = _))

namespace State

variable {s t u : State Q} {c : Reprocess}

/-! ### The input stream -/

/-- The queued buffers, the requests that wait for one, and those that were given one. -/
structure Same (B : InputQueue Q) (s t : State Q) : Prop where
  queued : B.queued t.inputQueue = B.queued s.inputQueue
  requests : t.requests = s.requests
  submitted : t.submitted = s.submitted

theorem Same.refl (s : State Q) : Same B s s := ⟨rfl, rfl, rfl⟩

theorem Same.trans (h : Same B s t) (h' : Same B t u) : Same B s u :=
  ⟨h'.queued.trans h.queued, h'.requests.trans h.requests, h'.submitted.trans h.submitted⟩

theorem getInputBuffer_cases (B : InputQueue Q) (s : State Q) :
    (∃ q, s.getInputBuffer B = (none, { s with inputQueue := q }) ∧
      B.queued q = B.queued s.inputQueue) ∨
    ∃ item q, s.getInputBuffer B = (some item, { s with
        inputQueue := q, mBuffersInFlight := s.mBuffersInFlight ++ [item] }) ∧
      B.queued s.inputQueue = item :: B.queued q := by
  rcases hacquire : B.acquire s.inputQueue with ⟨res, item, q⟩
  have hok := B.queued_acquire s.inputQueue
  have herror := B.queued_acquire_error s.inputQueue
  rw [hacquire] at hok herror
  simp only [getInputBuffer, hacquire]
  by_cases hres : res = OK
  · obtain ⟨item, rfl, hqueued⟩ := hok hres
    exact .inr ⟨item, q, if_neg (not_not.mpr hres), hqueued⟩
  · left
    refine ⟨q, ?_, herror hres⟩
    cases item with
    | none => rfl
    | some item => exact if_pos hres

theorem getInputBuffer_of_acquire (h : (B.acquire s.inputQueue).1 = OK) :
    ∃ item q, s.getInputBuffer B = (some item, { s with
        inputQueue := q, mBuffersInFlight := s.mBuffersInFlight ++ [item] }) ∧
      B.queued s.inputQueue = item :: B.queued q := by
  rcases hacquire : B.acquire s.inputQueue with ⟨res, item, q⟩
  have hok := B.queued_acquire s.inputQueue
  rw [hacquire] at h hok
  obtain ⟨item, rfl, hqueued⟩ := hok h
  simp only [getInputBuffer, hacquire]
  exact ⟨item, q, if_neg (not_not.mpr h), hqueued⟩

theorem getD_returnInputBuffer (B : InputQueue Q) (buffer : ℕ) (s : State Q) :
    ∃ q inFlight released, (s.returnInputBuffer B buffer).getD s = { s with
        inputQueue := q, mBuffersInFlight := inFlight, onBufferReleased := released } ∧
      B.queued q = B.queued s.inputQueue := by
  unfold returnInputBuffer
  cases s.mBuffersInFlight.find? fun item ↦ item.buffer = buffer with
  | none => exact ⟨_, _, _, rfl, rfl⟩
  | some item => exact ⟨_, _, _, rfl, B.queued_release s.inputQueue item⟩

theorem same_returnInputBuffer {buffer : ℕ} (h : s.returnInputBuffer B buffer = some t) :
    Same B s t := by
  obtain ⟨q, inFlight, released, heq, hqueued⟩ := getD_returnInputBuffer B buffer s
  rw [h, Option.getD_some] at heq
  rw [heq]
  exact ⟨hqueued, rfl, rfl⟩

/-- Some of the queued buffers are aborted, the oldest ones. -/
structure Aborts (B : InputQueue Q) (s t : State Q) : Prop where
  queued : ∃ n, B.queued t.inputQueue = (B.queued s.inputQueue).drop n
  requests : t.requests = s.requests
  submitted : t.submitted = s.submitted
  mInputBuffer : t.mInputBuffer = s.mInputBuffer

theorem abortInputBuffers_aborts (fuel : ℕ) (s : State Q) :
    Aborts B s (s.abortInputBuffers B fuel) := by
  induction fuel generalizing s with
  | zero => exact ⟨⟨0, rfl⟩, rfl, rfl, rfl⟩
  | succ fuel ih =>
    rw [abortInputBuffers]
    obtain ⟨q, heq, hqueued⟩ | ⟨item, q, heq, hqueued⟩ := getInputBuffer_cases B s
    · rw [heq]
      exact ⟨⟨0, hqueued⟩, rfl, rfl, rfl⟩
    · obtain ⟨q', _, _, hreturn, hqueued'⟩ := getD_returnInputBuffer B item.buffer
        { s with inputQueue := q, mBuffersInFlight := s.mBuffersInFlight ++ [item] }
      rw [heq]
      dsimp only
      rw [hreturn]
      obtain ⟨⟨n, hn⟩, hrequests, hsubmitted, hinput⟩ := ih _
      refine ⟨⟨n + 1, ?_⟩, hrequests, hsubmitted, hinput⟩
      rw [hn, hqueued, List.drop_succ_cons]
      exact congrArg (List.drop n) hqueued'

/-- The loop ends: more rounds than there are buffers change nothing. -/
theorem abortInputBuffers_eq {fuel : ℕ} (h : (B.queued s.inputQueue).length < fuel) :
    s.abortInputBuffers B fuel = s.configureStreams B := by
  unfold configureStreams
  induction hn : (B.queued s.inputQueue).length generalizing s fuel with
  | zero =>
    obtain ⟨fuel, rfl⟩ := Nat.exists_eq_add_one_of_ne_zero (Nat.ne_zero_of_lt h)
    rw [abortInputBuffers, abortInputBuffers]
    obtain ⟨q, heq, _⟩ | ⟨item, q, _, hqueued⟩ := getInputBuffer_cases B s
    · rw [heq]
    · rw [hqueued] at hn
      cases hn
  | succ n ih =>
    obtain ⟨fuel, rfl⟩ := Nat.exists_eq_add_one_of_ne_zero (Nat.ne_zero_of_lt h)
    rw [abortInputBuffers, abortInputBuffers]
    obtain ⟨q, heq, _⟩ | ⟨item, q, heq, hqueued⟩ := getInputBuffer_cases B s
    · rw [heq]
    · obtain ⟨q', _, _, hreturn, hqueued'⟩ := getD_returnInputBuffer B item.buffer
        { s with inputQueue := q, mBuffersInFlight := s.mBuffersInFlight ++ [item] }
      have hlength : (B.queued q').length = n := by
        rw [hqueued, List.length_cons] at hn
        rw [hqueued']
        exact Nat.succ.inj hn
      rw [heq]
      dsimp only
      rw [hreturn]
      exact ih (by dsimp only; omega) hlength

/-! ### The call -/

/-- There is no producer yet, and none is retrieved or the connection to it fails. -/
def Unconnected (B : InputQueue Q) (s : State Q) (c : Reprocess) : Prop :=
  s.mInputProducer = false ∧ (c.getInputBufferProducer ≠ OK ∨ (B.connect s.inputQueue).1 ≠ OK)

/-- The call returns before it pins a buffer. -/
def StopsEarly (B : InputQueue Q) (s : State Q) (c : Reprocess) : Prop :=
  c.client = false ∨ s.getCandidateTimestampLocked.minTimestamp = -1 ∨ s.Unconnected B c

/-- The input queue once the processor is connected to it. -/
def connectedQueue (B : InputQueue Q) (s : State Q) : Q :=
  if s.mInputProducer then s.inputQueue else (B.connect s.inputQueue).2

theorem queued_connectedQueue (B : InputQueue Q) (s : State Q) :
    B.queued (s.connectedQueue B) = B.queued s.inputQueue := by
  unfold connectedQueue
  split
  · rfl
  · exact B.queued_connect s.inputQueue

/-- No call fails from the first edit of the request on. -/
@[mk_iff]
structure Sends (s : State Q) (c : Reprocess) : Prop where
  update : ∀ e ∈ s.reprocessEdits c, c.edit e.tag = OK
  stopStream : c.stopStream = OK
  updateRequestJpeg : ∀ e ∈ c.parameters.jpegEdits, c.edit e.tag = OK
  capture : c.capture = OK

/-- The buffer gets into the input queue. -/
@[mk_iff]
structure Queues (B : InputQueue Q) (s : State Q) (item : BufferItem) : Prop where
  attachBuffer : (B.attach (s.connectedQueue B) item.mGraphicBuffer).1 = OK
  queueBuffer : (B.queue (B.attach (s.connectedQueue B) item.mGraphicBuffer).2.2
    (B.attach (s.connectedQueue B) item.mGraphicBuffer).2.1 (queueInput item)).1 = OK

/-- No call fails from the one that attaches the buffer on. -/
@[mk_iff]
structure GoesThrough (B : InputQueue Q) (s : State Q) (c : Reprocess) (item : BufferItem) :
    Prop extends s.Queues B item, s.Sends c

instance (c : Reprocess) : Decidable (s.Unconnected B c) := inferInstanceAs (Decidable (_ ∧ _))

instance (c : Reprocess) : Decidable (s.StopsEarly B c) :=
  inferInstanceAs (Decidable (_ ∨ _ ∨ _))

instance (c : Reprocess) : Decidable (s.Sends c) := decidable_of_iff' _ (sends_iff s c)

instance (item : BufferItem) : Decidable (s.Queues B item) :=
  decidable_of_iff' _ (queues_iff B s item)

instance (c : Reprocess) (item : BufferItem) : Decidable (s.GoesThrough B c item) :=
  decidable_of_iff' _ (goesThrough_iff B s c item)

theorem retrieveInputProducer_cases (B : InputQueue Q) (c : Reprocess) (s : State Q) :
    (s.Unconnected B c ∧ ∃ res q producer, res ≠ OK ∧ B.queued q = B.queued s.inputQueue ∧
      s.retrieveInputProducer B c =
        (res, { s with inputQueue := q, mInputProducer := producer })) ∨
    ¬ s.Unconnected B c ∧ s.retrieveInputProducer B c =
      (OK, { s with inputQueue := s.connectedQueue B, mInputProducer := true }) := by
  unfold retrieveInputProducer connectedQueue Unconnected
  cases hproducer : s.mInputProducer with
  | true =>
    refine .inr ⟨fun h ↦ Bool.noConfusion h.1, ?_⟩
    cases s
    cases hproducer
    rfl
  | false =>
    by_cases hget : c.getInputBufferProducer = OK
    · by_cases hconnect : (B.connect s.inputQueue).1 = OK
      · refine .inr ⟨fun h ↦ h.2.elim (absurd hget) (absurd hconnect), ?_⟩
        simp only [hget, hconnect, ne_eq, not_true, if_false, Bool.false_eq_true]
      · refine .inl ⟨⟨rfl, .inr hconnect⟩, _, _, true, hconnect, B.queued_connect _, ?_⟩
        simp only [hget, ne_eq, not_true, if_false, Bool.false_eq_true]
    · refine .inl ⟨⟨rfl, .inl hget⟩, _, s.inputQueue, false, hget, rfl, ?_⟩
      simp only [hget, ne_eq, not_false_eq_true, if_true, if_false, Bool.false_eq_true]
      cases s
      cases hproducer
      rfl

/-! ### The buffer that is pinned -/

theorem destroyHandle_empty {ring : RingBuffer.State} (h : ring.mBufferItemList = []) (handle : ℕ)
    (res : RingBuffer.StatusT) :
    ((ring.destroyHandle handle res).getD ring).mBufferItemList = [] := by
  unfold RingBuffer.State.destroyHandle
  cases ring.handles[handle]? with
  | none => exact h
  | some item =>
    simp only [Option.map_some, Option.getD_some, RingBuffer.State.unpinBuffer]
    split
    · rw [h]
      rfl
    · exact h

theorem pinInputBuffer_cases (res : RingBuffer.StatusT) (ring : RingBuffer.State) (timestamp : ℤ)
    (s : State Q) : ∃ pinned, s.pinInputBuffer res ring timestamp =
        { s with mProducer := some pinned, mInputBuffer := selected ring timestamp } ∧
      (ring.mBufferItemList = [] → pinned.mBufferItemList = []) := by
  have hempty : ring.mBufferItemList = [] → (ring.pinSelectedBuffer
      (RingBuffer.TimestampFinder.comparator timestamp)).mBufferItemList = [] := by
    intro h
    simp only [RingBuffer.State.pinSelectedBuffer, h, RingBuffer.select, Option.map_none]
  unfold pinInputBuffer clearInputBuffer
  cases hinput : s.mInputBuffer with
  | none =>
    exact ⟨_, rfl, hempty⟩
  | some item =>
    exact ⟨_, rfl, fun h ↦ destroyHandle_empty (hempty h) _ _⟩

theorem selected_eq_none {ring : RingBuffer.State} {timestamp : ℤ} :
    selected ring timestamp = none ↔ ring.mBufferItemList = [] := by
  unfold selected
  rw [Option.map_eq_none_iff]
  constructor
  · intro h
    by_contra hne
    obtain ⟨item, _, hsel, _⟩ :=
      (RingBuffer.TimestampFinder.comparator_chooses timestamp).select_none hne
    rw [hsel] at h
    cases h
  · intro h
    rw [h]
    rfl

/-- The buffer of the ring that is pinned has the timestamp, when there is one for it. -/
theorem selected_found {ring : RingBuffer.State} {timestamp : ℤ} {item : BufferItem}
    (h : selected ring timestamp = some item)
    (hmatch : ∃ other ∈ ring.mBufferItemList, other.mTimestamp = timestamp) :
    ∃ best ∈ ring.mBufferItemList, best.mTimestamp = timestamp ∧ best.toBufferItem = item := by
  obtain ⟨other, hother, _⟩ := id hmatch
  obtain ⟨best, hbest, hsel, hprefers⟩ :=
    (RingBuffer.TimestampFinder.comparator_chooses timestamp).select_none
      (List.ne_nil_of_mem hother)
  rw [selected, hsel] at h
  exact ⟨best, hbest, (RingBuffer.TimestampFinder.best_of_prefers hbest hprefers).identical hmatch,
    Option.some.inj h⟩

theorem queueInputBuffer_cases (B : InputQueue Q) (item : BufferItem) (s : State Q) :
    ((B.attach s.inputQueue item.mGraphicBuffer).1 = OK ∧
      (B.queue (B.attach s.inputQueue item.mGraphicBuffer).2.2
        (B.attach s.inputQueue item.mGraphicBuffer).2.1 (queueInput item)).1 = OK ∧
      ∃ q slot, s.queueInputBuffer B item =
          (OK, { s with inputQueue := q, mInputProducerSlot := slot }) ∧
        B.queued q =
          B.queued s.inputQueue ++ [⟨slot, item.mGraphicBuffer, queueInput item⟩]) ∨
    ¬ ((B.attach s.inputQueue item.mGraphicBuffer).1 = OK ∧
        (B.queue (B.attach s.inputQueue item.mGraphicBuffer).2.2
          (B.attach s.inputQueue item.mGraphicBuffer).2.1 (queueInput item)).1 = OK) ∧
      ∃ res q slot, res ≠ OK ∧ s.queueInputBuffer B item =
          (res, { s with inputQueue := q, mInputProducerSlot := slot }) ∧
        B.queued q = B.queued s.inputQueue := by
  have hqueued := B.queued_attach s.inputQueue item.mGraphicBuffer
  have hheld := B.held_attach s.inputQueue item.mGraphicBuffer
  unfold queueInputBuffer
  rcases hattach : B.attach s.inputQueue item.mGraphicBuffer with ⟨rc, slot, q⟩
  rw [hattach] at hqueued hheld
  dsimp only at hqueued hheld ⊢
  by_cases hrc : rc = OK
  · rw [if_neg (not_not.mpr hrc)]
    by_cases hqueue : (B.queue q slot (queueInput item)).1 = OK
    · refine .inl ⟨hrc, hqueue, _, slot, congrArg (·, _) hqueue, ?_⟩
      rw [B.queued_queue q slot (queueInput item) _ hqueue (hheld hrc), hqueued]
    · refine .inr ⟨fun h ↦ hqueue h.2, _, _, _, hqueue, rfl, ?_⟩
      rw [B.queued_queue_error q slot (queueInput item) hqueue, hqueued]
  · rw [if_pos hrc]
    exact .inr ⟨fun h ↦ hrc h.1, _, q, s.mInputProducerSlot, hrc, rfl, hqueued⟩

/-! ### The request -/

theorem find_reprocess (c : Reprocess) (s : State Q) (frame : CameraMetadata) :
    CameraMetadata.find (updateRequestWithDefaultStillRequest c.edit c.stillTemplate
        (c.parameters.updateRequestJpeg c.edit
          (edit c.edit (s.reprocessEdits c) frame).2).2) ANDROID_SENSOR_TIMESTAMP =
      frame.find ANDROID_SENSOR_TIMESTAMP := by
  have hreprocess : ∀ e ∈ s.reprocessEdits c, ANDROID_SENSOR_TIMESTAMP ≠ e.tag := by
    intro e he heq
    have hmem : e.tag ∈ [ANDROID_REQUEST_TYPE, ANDROID_REQUEST_INPUT_STREAMS,
        ANDROID_CONTROL_CAPTURE_INTENT, ANDROID_REQUEST_OUTPUT_STREAMS, ANDROID_REQUEST_ID] :=
      List.mem_map_of_mem (f := Edit.tag) he
    rw [← heq] at hmem
    exact absurd hmem (by decide)
  have htemplate : ANDROID_SENSOR_TIMESTAMP ∉ postProcessingTags := by decide
  rw [updateRequestWithDefaultStillRequest, find_updateFromTemplate _ _ _ htemplate,
    Parameters.updateRequestJpeg, find_edit _ _ c.parameters.timestamp_ne_jpegEdits,
    find_edit _ _ hreprocess]

theorem capture_cases (B : InputQueue Q) (c : Reprocess) (request : CameraMetadata) (s : State Q) :
    (c.capture = OK ∧ ∃ sent, s.capture B c request =
        (OK, { sent with requests := sent.requests ++ [request], mState := .LOCKED }) ∧
      (c.needConfig = false → sent = { s with mLatestCapturedRequest := request })) ∨
    c.capture ≠ OK ∧ ∃ t, s.capture B c request = (c.capture, t) ∧
      t.mInputBuffer = s.mInputBuffer ∧ (c.needConfig = false → Same B s t) := by
  unfold capture
  by_cases hcapture : c.capture = OK
  · refine .inl ⟨hcapture, _, if_neg (not_not.mpr hcapture), fun hconfig ↦ ?_⟩
    rw [hconfig]
    rfl
  · refine .inr ⟨hcapture, _, if_pos hcapture, ?_, fun hconfig ↦ ?_⟩
    · split
      · exact (abortInputBuffers_aborts _ _).mInputBuffer
      · rfl
    · rw [hconfig]
      exact ⟨rfl, rfl, rfl⟩

/-- From a frame with a good exposure state, the request is sent unless a call fails. -/
theorem sendRequest_cases (B : InputQueue Q) (c : Reprocess) {metadataIdx : ℕ}
    {frame : CameraMetadata} (hget : s.mFrameList[metadataIdx]? = some frame)
    (hae : aeGood frame = true) :
    (s.Sends c ∧ ∃ request sent, s.sendRequest B c metadataIdx =
        (OK, { sent with requests := sent.requests ++ [request], mState := .LOCKED }) ∧
      request.find ANDROID_SENSOR_TIMESTAMP = frame.find ANDROID_SENSOR_TIMESTAMP ∧
      (c.needConfig = false → sent = { s with mLatestCapturedRequest := request })) ∨
    ¬ s.Sends c ∧ ∃ res t, s.sendRequest B c metadataIdx = (res, t) ∧ res ≠ OK ∧
      t.mInputBuffer = s.mInputBuffer ∧ (c.needConfig = false → Same B s t) := by
  have hframe : s.mFrameList.getD metadataIdx [] = frame := by
    rw [List.getD_eq_getElem?_getD, hget, Option.getD_some]
  have hfind := find_reprocess c s frame
  unfold sendRequest
  rw [hframe]
  unfold aeGood at hae
  dsimp only
  cases hstate : frame.find ANDROID_CONTROL_AE_STATE with
  | nil =>
    rw [hstate] at hae
    cases hae
  | cons aeState rest =>
    rw [hstate] at hae
    have hgood : ¬ (aeState ≠ ANDROID_CONTROL_AE_STATE_CONVERGED ∧
        aeState ≠ ANDROID_CONTROL_AE_STATE_LOCKED) := by
      have := of_decide_eq_true hae
      tauto
    dsimp only
    rw [if_neg hgood]
    by_cases hupdate : ∀ e ∈ s.reprocessEdits c, c.edit e.tag = OK
    · rw [if_neg (not_not.mpr (edit_ok_iff.mpr hupdate))]
      by_cases hstop : c.stopStream = OK
      · rw [if_neg (not_not.mpr hstop)]
        by_cases hjpeg : ∀ e ∈ c.parameters.jpegEdits, c.edit e.tag = OK
        · have hres : (c.parameters.updateRequestJpeg c.edit
              (edit c.edit (s.reprocessEdits c) frame).2).1 = OK := edit_ok_iff.mpr hjpeg
          rw [if_neg (not_not.mpr hres)]
          obtain ⟨hcapture, sent, heq, hsent⟩ | ⟨hcapture, t, heq, ht⟩ := capture_cases B c _ s
          · exact .inl ⟨⟨hupdate, hstop, hjpeg, hcapture⟩, _, sent, heq, hfind, hsent⟩
          · exact .inr ⟨fun h ↦ hcapture h.capture, _, t, heq, hcapture, ht⟩
        · have hres : (c.parameters.updateRequestJpeg c.edit
              (edit c.edit (s.reprocessEdits c) frame).2).1 ≠ OK := mt edit_ok_iff.mp hjpeg
          rw [if_pos hres]
          exact .inr ⟨fun h ↦ hjpeg h.updateRequestJpeg, _, _, rfl, hres, rfl,
            fun _ ↦ .refl s⟩
      · rw [if_pos hstop]
        exact .inr ⟨fun h ↦ hstop h.stopStream, _, _, rfl, by decide, rfl, fun _ ↦ .refl s⟩
    · rw [if_pos (mt edit_ok_iff.mp hupdate)]
      exact .inr ⟨fun h ↦ hupdate h.update, _, _, rfl, by decide, rfl, fun _ ↦ .refl s⟩

/-! ### What a call can do -/

/-- A request for the frame of a timestamp was sent, and a buffer queued for it. -/
structure Sent (B : InputQueue Q) (s t : State Q) (timestamp : ℤ) (item : BufferItem) : Prop where
  queued : ∃ slot, B.queued t.inputQueue =
    B.queued s.inputQueue ++ [⟨slot, item.mGraphicBuffer, queueInput item⟩]
  requests : ∃ request : CameraMetadata,
    (request.find ANDROID_SENSOR_TIMESTAMP).head? = some timestamp ∧
      t.requests = s.requests ++ [request]
  submitted : t.submitted = s.submitted

/-- A buffer was queued, without a request for it. -/
structure Left (B : InputQueue Q) (s t : State Q) : Prop where
  queued : ∃ item, B.queued t.inputQueue = B.queued s.inputQueue ++ [item]
  requests : t.requests = s.requests

/-- The four ends of a call: before the pin, without a buffer to pin, with a call that fails after
the pin, and with the request sent. -/
inductive Pushed (B : InputQueue Q) (s : State Q) (c : Reprocess) : ℤ → State Q → Prop
  | stopped {res : ℤ} {q : Q} {producer : Bool} (hstop : s.StopsEarly B c) (hres : res ≠ OK)
      (hqueued : B.queued q = B.queued s.inputQueue) :
      Pushed B s c res { s with inputQueue := q, mInputProducer := producer }
  | empty {ring pinned : RingBuffer.State} {q : Q} {producer : Bool} (hgo : ¬ s.StopsEarly B c)
      (hring : s.mProducer = some ring) (hlist : ring.mBufferItemList = [])
      (hpinned : pinned.mBufferItemList = []) (hqueued : B.queued q = B.queued s.inputQueue) :
      Pushed B s c NOT_ENOUGH_DATA { s with
        inputQueue := q
        mInputProducer := producer
        mProducer := some pinned
        mInputBuffer := none }
  | broken {res : ℤ} {t : State Q} {ring : RingBuffer.State} {item : BufferItem}
      (hgo : ¬ s.StopsEarly B c) (hring : s.mProducer = some ring)
      (hsel : selected ring s.getCandidateTimestampLocked.minTimestamp = some item)
      (hbreak : ¬ s.GoesThrough B c item) (hres : res ≠ OK) (hinput : t.mInputBuffer = some item)
      (hsame : ¬ s.Queues B item → Same B s t)
      (hleft : s.Queues B item → c.needConfig = false → Left B s t) : Pushed B s c res t
  | sent {t : State Q} {ring : RingBuffer.State} {item : BufferItem} (hgo : ¬ s.StopsEarly B c)
      (hring : s.mProducer = some ring)
      (hsel : selected ring s.getCandidateTimestampLocked.minTimestamp = some item)
      (hthrough : s.GoesThrough B c item)
      (hsent : c.needConfig = false →
        Sent B s t s.getCandidateTimestampLocked.minTimestamp item) : Pushed B s c OK t

theorem enqueueInputBufferByTimestamp_eq (B : InputQueue Q) (c : Reprocess) (timestamp : ℤ)
    {ring : RingBuffer.State} (hring : s.mProducer = some ring) : ∃ pinned : RingBuffer.State,
      (ring.mBufferItemList = [] → pinned.mBufferItemList = []) ∧
      s.enqueueInputBufferByTimestamp B c timestamp = some (match selected ring timestamp with
        | none =>
          (NO_BUFFER_AVAILABLE, { s with mProducer := some pinned, mInputBuffer := none })
        | some item =>
          queueInputBuffer B item
            { s with mProducer := some pinned, mInputBuffer := some item }) := by
  obtain ⟨pinned, hpin, hempty⟩ := pinInputBuffer_cases c.addReleaseFenceLocked ring timestamp s
  refine ⟨pinned, hempty, ?_⟩
  unfold enqueueInputBufferByTimestamp
  rw [hring, Option.map_some, hpin]
  cases selected ring timestamp <;> rfl

/-- The candidate that a call goes on with is a good frame. -/
theorem exists_frame (h : s.getCandidateTimestampLocked.minTimestamp ≠ -1) :
    ∃ frame, s.mFrameList[s.getCandidateTimestampLocked.idx]? = some frame ∧
      Good s.mHasFocuser frame s.getCandidateTimestampLocked.minTimestamp :=
  (candidate_found s.mHasFocuser s.mFrameList).resolve_left h

/-- The part of the call after the pin. -/
theorem pushed_item {ring pinned : RingBuffer.State} {item : BufferItem} {res : ℤ}
    (hgo : ¬ s.StopsEarly B c) (hring : s.mProducer = some ring)
    (hsel : selected ring s.getCandidateTimestampLocked.minTimestamp = some item)
    (h : (match { s with
          inputQueue := s.connectedQueue B
          mInputProducer := true
          mProducer := some pinned
          mInputBuffer := some item }.queueInputBuffer B item with
        | (res, s') =>
          if res = NO_BUFFER_AVAILABLE then (NOT_ENOUGH_DATA, s')
          else if res ≠ OK then (res, s')
          else s'.sendRequest B c s.getCandidateTimestampLocked.idx) = (res, t)) :
    s.Pushed B c res t := by
  obtain ⟨frame, hget, hgood⟩ := exists_frame fun hnone ↦ hgo (.inr (.inl hnone))
  obtain ⟨hattach, hqueue, q, slot, heq, hqueued⟩ | ⟨hfail, res', q, slot, hres', heq, hqueued⟩ :=
    queueInputBuffer_cases B item { s with
      inputQueue := s.connectedQueue B
      mInputProducer := true
      mProducer := some pinned
      mInputBuffer := some item }
  · rw [heq] at h
    dsimp only at h hqueued
    rw [if_neg (by decide), if_neg (not_not.mpr rfl)] at h
    rw [queued_connectedQueue] at hqueued
    obtain ⟨hsends, request, sent, hsend, hfind, hsent⟩ | ⟨hfail, res', t', hsend, hres', hinput, hsame⟩ :=
      sendRequest_cases (s := { s with
        inputQueue := q
        mInputProducer := true
        mInputProducerSlot := slot
        mProducer := some pinned
        mInputBuffer := some item }) B c hget hgood.ae
    · rw [hsend] at h
      cases h
      have hsends : s.Sends c :=
        ⟨hsends.update, hsends.stopStream, hsends.updateRequestJpeg, hsends.capture⟩
      refine .sent hgo hring hsel ⟨⟨hattach, hqueue⟩, hsends⟩ fun hconfig ↦ ?_
      rw [hsent hconfig]
      exact ⟨⟨slot, hqueued⟩, ⟨request, hfind ▸ hgood.timestamp, rfl⟩, rfl⟩
    · rw [hsend] at h
      cases h
      refine .broken hgo hring hsel (fun hthrough ↦ hfail ?_) hres' hinput
        (absurd ⟨hattach, hqueue⟩) fun _ hconfig ↦ ?_
      · exact ⟨hthrough.update, hthrough.stopStream, hthrough.updateRequestJpeg, hthrough.capture⟩
      · exact ⟨⟨_, (hsame hconfig).queued.trans hqueued⟩, (hsame hconfig).requests⟩
  · rw [heq] at h
    dsimp only at h hqueued
    rw [queued_connectedQueue] at hqueued
    have hbreak : ¬ s.GoesThrough B c item := fun hthrough ↦
      hfail ⟨hthrough.attachBuffer, hthrough.queueBuffer⟩
    split at h
    · cases h
      exact .broken hgo hring hsel hbreak (by decide) rfl (fun _ ↦ ⟨hqueued, rfl, rfl⟩)
        fun h ↦ absurd ⟨h.attachBuffer, h.queueBuffer⟩ hfail
    · cases h
      exact .broken hgo hring hsel hbreak hres' rfl (fun _ ↦ ⟨hqueued, rfl, rfl⟩)
        fun h ↦ absurd ⟨h.attachBuffer, h.queueBuffer⟩ hfail

/-- A call comes to one of its ends, unless it gets to a ring that is not there. -/
theorem pushToReprocess_cases (B : InputQueue Q) (s : State Q) (c : Reprocess) :
    (¬ s.StopsEarly B c ∧ s.mProducer = none ∧ s.pushToReprocess B c = none) ∨
      ∃ res t, s.pushToReprocess B c = some (res, t) ∧ s.Pushed B c res t := by
  unfold pushToReprocess
  cases hclient : c.client with
  | false => exact .inr ⟨_, _, rfl, .stopped (.inl hclient) (by decide) rfl⟩
  | true =>
    simp only [Bool.not_true, Bool.false_eq_true, if_false]
    by_cases hcandidate : s.getCandidateTimestampLocked.minTimestamp = -1
    · rw [if_pos hcandidate]
      exact .inr ⟨_, _, rfl, .stopped (.inr (.inl hcandidate)) (by decide) rfl⟩
    rw [if_neg hcandidate]
    obtain ⟨hunconnected, res, q, producer, hres, hqueued, heq⟩ | ⟨hconnected, heq⟩ :=
      retrieveInputProducer_cases B c s
    · rw [heq]
      dsimp only
      rw [if_pos hres]
      exact .inr ⟨_, _, rfl, .stopped (.inr (.inr hunconnected)) hres hqueued⟩
    have hgo : ¬ s.StopsEarly B c := by
      rintro (hstop | hstop | hstop)
      · rw [hclient] at hstop
        cases hstop
      · exact hcandidate hstop
      · exact hconnected hstop
    rw [heq]
    dsimp only
    rw [if_neg (not_not.mpr rfl)]
    cases hring : s.mProducer with
    | none => exact .inl ⟨hgo, rfl, rfl⟩
    | some ring =>
      obtain ⟨pinned, hempty, henqueue⟩ := enqueueInputBufferByTimestamp_eq
        (s := { s with inputQueue := s.connectedQueue B, mInputProducer := true }) B c
        s.getCandidateTimestampLocked.minTimestamp hring
      rw [← hring, henqueue, Option.map_some]
      cases hsel : selected ring s.getCandidateTimestampLocked.minTimestamp with
      | none =>
        have hlist := selected_eq_none.mp hsel
        exact .inr ⟨_, _, rfl, .empty hgo hring hlist (hempty hlist) (queued_connectedQueue B s)⟩
      | some item => exact .inr ⟨_, _, rfl, pushed_item hgo hring hsel rfl⟩

theorem pushed {res : ℤ} (h : s.pushToReprocess B c = some (res, t)) : s.Pushed B c res t := by
  obtain ⟨_, _, heq⟩ | ⟨res', t', heq, hpushed⟩ := pushToReprocess_cases B s c
  · cases h.symm.trans heq
  · cases h.symm.trans heq
    exact hpushed

theorem exists_pushed (h : s.StopsEarly B c ∨ s.mProducer ≠ none) :
    ∃ r, s.pushToReprocess B c = some r := by
  obtain ⟨hgo, hring, _⟩ | ⟨res, t, heq, _⟩ := pushToReprocess_cases B s c
  · exact h.elim (absurd · hgo) (absurd hring)
  · exact ⟨_, heq⟩

end State

end VirtualCamera.Zsl
