import VirtualCamera.Zsl.Reprocess

namespace VirtualCamera.Zsl

open Library SlotQueue Memory Transition
open CameraService.InFlight (CameraMetadata ANDROID_REQUEST_FRAME_COUNT ANDROID_SENSOR_TIMESTAMP)
open RingBuffer (BufferItem)

variable {Q : Type} {B : InputQueue Q}

namespace State

variable {s t : State Q} {c : Reprocess}

/-! ### What a failed call leaves -/

/-- No buffer is pinned by the processor or queued at the input producer. -/
@[mk_iff]
structure Clean (B : InputQueue Q) (s : State Q) : Prop where
  mInputBuffer : s.mInputBuffer = none
  mPinCount : ∀ ring ∈ s.mProducer, ∀ item ∈ ring.mBufferItemList, item.mPinCount ≤ 0
  queued : B.queued s.inputQueue = []

instance : Decidable (s.Clean B) := decidable_of_iff' _ (clean_iff B s)

def LeavesNothing (B : InputQueue Q) (s : State Q) (c : Reprocess) : Prop :=
  ∀ res t, s.pushToReprocess B c = some (res, t) → res ≠ OK → t.Clean B

/-- A call that ends before the pin has nothing of the earlier calls to leave, nor has one that
finds the ring empty, and a call that pins a buffer does not fail any more. -/
@[mk_iff]
structure CleanWhen (B : InputQueue Q) (s : State Q) (c : Reprocess) : Prop where
  stopped : s.StopsEarly B c → s.Clean B
  empty : ¬ s.StopsEarly B c → ∀ ring ∈ s.mProducer,
    ring.mBufferItemList = [] → B.queued s.inputQueue = []
  goesThrough : ¬ s.StopsEarly B c → ∀ ring ∈ s.mProducer,
    ∀ item ∈ selected ring s.getCandidateTimestampLocked.minTimestamp, s.GoesThrough B c item

instance (c : Reprocess) : Decidable (s.CleanWhen B c) := decidable_of_iff' _ (cleanWhen_iff B s c)

theorem CleanWhen.leavesNothing (h : s.CleanWhen B c) : s.LeavesNothing B c := by
  intro res t hpush hres
  cases pushed hpush with
  | stopped hstop _ hqueued =>
    obtain ⟨hinput, hpin, hempty⟩ := h.stopped hstop
    exact ⟨hinput, hpin, hqueued.trans hempty⟩
  | empty hgo hring hlist hpinned hqueued =>
    refine ⟨rfl, fun ring hmem item hitem ↦ ?_, hqueued.trans (h.empty hgo _ hring hlist)⟩
    cases hmem
    rw [hpinned] at hitem
    cases hitem
  | broken hgo hring hsel hbreak => exact absurd (h.goesThrough hgo _ hring _ hsel) hbreak
  | sent => exact absurd rfl hres

theorem LeavesNothing.cleanWhen (h : s.LeavesNothing B c) : s.CleanWhen B c := by
  have hends : ∀ ring ∈ s.mProducer, ∃ r, s.pushToReprocess B c = some r := by
    intro ring hring
    exact exists_pushed (.inr (Option.ne_none_iff_exists'.mpr ⟨ring, hring⟩))
  constructor
  · intro hstop
    obtain ⟨⟨res, t⟩, hpush⟩ := exists_pushed (.inl hstop)
    cases pushed hpush with
    | stopped _ hres hqueued =>
      obtain ⟨hinput, hpin, hempty⟩ := h _ _ hpush hres
      exact ⟨hinput, hpin, hqueued.symm.trans hempty⟩
    | empty hgo => exact absurd hstop hgo
    | broken hgo => exact absurd hstop hgo
    | sent hgo => exact absurd hstop hgo
  · intro hgo ring hring hlist
    have hnone : selected ring s.getCandidateTimestampLocked.minTimestamp = none :=
      selected_eq_none.mpr hlist
    obtain ⟨⟨res, t⟩, hpush⟩ := hends ring hring
    cases pushed hpush with
    | stopped hstop => exact absurd hstop hgo
    | empty _ _ _ _ hqueued => exact hqueued.symm.trans (h _ _ hpush (by decide)).queued
    | broken _ hring' hsel =>
      cases hring.symm.trans hring'
      cases hnone.symm.trans hsel
    | sent _ hring' hsel =>
      cases hring.symm.trans hring'
      cases hnone.symm.trans hsel
  · intro hgo ring hring item hsel
    obtain ⟨⟨res, t⟩, hpush⟩ := hends ring hring
    cases pushed hpush with
    | stopped hstop => exact absurd hstop hgo
    | empty _ hring' hlist =>
      cases hring.symm.trans hring'
      cases (selected_eq_none.mpr hlist).symm.trans hsel
    | broken _ _ _ _ hres hinput => cases hinput.symm.trans (h _ _ hpush hres).mInputBuffer
    | sent _ hring' hsel' hthrough =>
      cases hring.symm.trans hring'
      cases hsel.symm.trans hsel'
      exact hthrough

/-! ### The requests and their buffers -/

/-- The queued buffers belong, in their order, to the requests that wait for one, and a request
was given its own. -/
structure Paired (B : InputQueue Q) (s : State Q) : Prop where
  waiting : List.Forall₂ Belongs (B.queued s.inputQueue) s.requests
  submitted : ∀ p ∈ s.submitted, Belongs p.2 p.1

theorem Same.paired (h : Same B s t) (hs : s.Paired B) : t.Paired B := by
  constructor
  · rw [h.queued, h.requests]
    exact hs.waiting
  · rw [h.submitted]
    exact hs.submitted

theorem paired_create (B : InputQueue Q) (pipelineMaxDepth : Option UInt8) (mHasFocuser : Bool) :
    (create B pipelineMaxDepth mHasFocuser).Paired B := by
  refine ⟨?_, fun _ hmem ↦ absurd hmem List.not_mem_nil⟩
  rw [create, B.queued_new]
  exact .nil

/-- A new queue is empty, and no request waits for a buffer of it. -/
theorem Paired.of_new (hs : s.Paired B) (hqueue : t.inputQueue = B.new)
    (hrequests : t.requests = []) (hsubmitted : t.submitted = s.submitted) : t.Paired B := by
  constructor
  · rw [hqueue, B.queued_new, hrequests]
    exact .nil
  · rw [hsubmitted]
    exact hs.submitted

/-- The condition of a step. A call that queues a buffer does not fail after that, has no streams
to configure and finds a buffer for its timestamp; streams are configured while no request waits
for a buffer, and the request thread acquires a buffer for each request that it takes or aborts. -/
def Meets (B : InputQueue Q) (s : State Q) : Label → Prop
  | .pushToReprocess c => ¬ s.StopsEarly B c → ∀ ring ∈ s.mProducer,
      ∀ item ∈ selected ring s.getCandidateTimestampLocked.minTimestamp, s.Queues B item →
        s.Sends c ∧ c.needConfig = false ∧ ∃ entry ∈ ring.mBufferItemList,
          entry.mTimestamp = s.getCandidateTimestampLocked.minTimestamp
  | .takeRequest res => res = OK ∧ (B.acquire s.inputQueue).1 = OK
  | .abortRequest => (B.acquire s.inputQueue).1 = OK
  | .configureStreams => s.requests = []
  | _ => True

instance : DecidablePred (s.Meets B)
  | .pushToReprocess _ => inferInstanceAs (Decidable (_ → _))
  | .takeRequest _ => inferInstanceAs (Decidable (_ ∧ _))
  | .abortRequest => inferInstanceAs (Decidable (_ = _))
  | .configureStreams => inferInstanceAs (Decidable (_ = _))
  | .onResultAvailable _ | .updateStream _ _ _ | .deleteStream _ _ _ | .onFrameAvailable _ _
  | .clearZslQueue _ _ | .notifyInputReleased | .threadLoop _ | .returnInputBuffer _ =>
    .isTrue trivial

/-- One request more waits, from the frame of the candidate; the buffer at its place of the input
queue is the one of the ring with that timestamp. -/
def Submits (B : InputQueue Q) (s t : State Q) : Prop :=
  ∃ request item, t.requests = s.requests ++ [request] ∧
    (request.find ANDROID_SENSOR_TIMESTAMP).head? =
      some s.getCandidateTimestampLocked.minTimestamp ∧
    (B.queued t.inputQueue)[s.requests.length]? = some item ∧ Belongs item request ∧
    ∃ ring ∈ s.mProducer, ∃ entry ∈ ring.mBufferItemList,
      item.buffer = entry.mGraphicBuffer ∧ item.data = queueInput entry.toBufferItem

theorem Paired.submits {res : ℤ} (hs : s.Paired B) (hmeets : s.Meets B (.pushToReprocess c))
    (hpush : s.pushToReprocess B c = some (res, t)) (hres : res = OK) : s.Submits B t := by
  cases pushed hpush with
  | stopped _ hne => exact absurd hres hne
  | empty => exact absurd hres (by decide)
  | broken _ _ _ _ hne => exact absurd hres hne
  | sent hgo hring hsel hthrough hsent =>
    obtain ⟨_, hconfig, hmatch⟩ := hmeets hgo _ hring _ hsel hthrough.toQueues
    obtain ⟨⟨slot, hqueued⟩, ⟨request, htimestamp, hrequests⟩, _⟩ := hsent hconfig
    obtain ⟨entry, hentry, hentrytime, rfl⟩ := selected_found hsel hmatch
    refine ⟨request, ⟨slot, entry.mGraphicBuffer, queueInput entry.toBufferItem⟩, hrequests,
      htimestamp, ?_, ?_, _, hring, entry, hentry, rfl, rfl⟩
    · rw [hqueued, ← hs.waiting.length_eq, List.getElem?_concat_length]
    · rw [Belongs, htimestamp, ← hentrytime]
      rfl

theorem Submits.paired (hs : s.Paired B) (h : s.Submits B t)
    (hqueued : ∃ item, B.queued t.inputQueue = B.queued s.inputQueue ++ [item])
    (hsubmitted : t.submitted = s.submitted) : t.Paired B := by
  obtain ⟨request, item, hrequests, _, hget, hbelongs, _⟩ := h
  obtain ⟨last, hqueued⟩ := hqueued
  rw [hqueued, ← hs.waiting.length_eq, List.getElem?_concat_length] at hget
  cases hget
  constructor
  · rw [hqueued, hrequests]
    exact List.rel_append hs.waiting (.cons hbelongs .nil)
  · rw [hsubmitted]
    exact hs.submitted

/-! ### One step -/

theorem Paired.pushToReprocess {res : ℤ} (hs : s.Paired B)
    (hmeets : s.Meets B (.pushToReprocess c))
    (hpush : s.pushToReprocess B c = some (res, t)) : t.Paired B := by
  cases pushed hpush with
  | stopped _ _ hqueued => exact Same.paired ⟨hqueued, rfl, rfl⟩ hs
  | empty _ _ _ _ hqueued => exact Same.paired ⟨hqueued, rfl, rfl⟩ hs
  | broken hgo hring hsel hbreak _ _ hsame =>
    have hqueues : ¬ s.Queues B _ := fun hqueues ↦
      hbreak ⟨hqueues, (hmeets hgo _ hring _ hsel hqueues).1⟩
    exact (hsame hqueues).paired hs
  | sent hgo hring hsel hthrough hsent =>
    obtain ⟨_, hconfig, _⟩ := hmeets hgo _ hring _ hsel hthrough.toQueues
    obtain ⟨⟨slot, hqueued⟩, _, hsubmitted⟩ := hsent hconfig
    exact (hs.submits hmeets hpush rfl).paired hs ⟨_, hqueued⟩ hsubmitted

/-- A buffer that is left belongs to no request. -/
theorem Left.not_paired (hs : s.Paired B) (h : s.Left B t) : ¬ t.Paired B := by
  intro ht
  obtain ⟨⟨item, hqueued⟩, hrequests⟩ := h
  have hlength := ht.waiting.length_eq
  rw [hqueued, hrequests, List.length_append, hs.waiting.length_eq] at hlength
  exact absurd hlength (Nat.succ_ne_self _)

/-- A call that has queued a buffer of its timestamp keeps the pairs exactly when no call fails
after that. -/
theorem Paired.pushToReprocess_iff {res : ℤ} {ring : RingBuffer.State} {item : BufferItem}
    (hs : s.Paired B) (hgo : ¬ s.StopsEarly B c) (hring : s.mProducer = some ring)
    (hsel : selected ring s.getCandidateTimestampLocked.minTimestamp = some item)
    (hqueues : s.Queues B item) (hconfig : c.needConfig = false)
    (hmatch : ∃ entry ∈ ring.mBufferItemList,
      entry.mTimestamp = s.getCandidateTimestampLocked.minTimestamp)
    (hpush : s.pushToReprocess B c = some (res, t)) : t.Paired B ↔ s.Sends c := by
  constructor
  · intro ht
    cases pushed hpush with
    | stopped hstop => exact absurd hstop hgo
    | empty _ hring' hlist =>
      cases hring.symm.trans hring'
      cases (selected_eq_none.mpr hlist).symm.trans hsel
    | broken _ hring' hsel' _ _ _ _ hleft =>
      cases hring.symm.trans hring'
      cases hsel.symm.trans hsel'
      exact absurd ht ((hleft hqueues hconfig).not_paired hs)
    | sent _ _ _ hthrough => exact hthrough.toSends
  · intro hsends
    apply hs.pushToReprocess _ hpush
    intro _ ring' hring' item' _ _
    cases hring.symm.trans hring'
    exact ⟨hsends, hconfig, hmatch⟩

theorem same_onResultAvailable {mMetadata : CameraMetadata}
    (h : s.onResultAvailable mMetadata = some t) : Same B s t := by
  unfold onResultAvailable at h
  split at h
  · cases h
  · split_ifs at h <;> cases h <;> exact ⟨rfl, rfl, rfl⟩

theorem same_createZslStream (createStream : Created) (s : State Q) :
    Same B s (s.createZslStream createStream) := by
  unfold createZslStream
  dsimp only
  split <;> exact ⟨rfl, rfl, rfl⟩

theorem paired_updateStream (client : Bool) (createInputStream createStream : Created)
    (hs : s.Paired B) : (s.updateStream B client createInputStream createStream).2.Paired B := by
  have hcreate : (if s.mInputStreamId = NO_STREAM then s.createInputStream B createInputStream
      else s).Paired B := by
    unfold State.createInputStream
    split
    · split
      · exact hs
      · exact hs.of_new rfl rfl rfl
    · exact hs
  unfold updateStream
  dsimp only
  generalize (if s.mInputStreamId = NO_STREAM then s.createInputStream B createInputStream else s)
    = created at hcreate
  split_ifs
  · exact hs
  · exact hcreate
  · exact (same_createZslStream createStream created).paired hcreate
  · exact hcreate

theorem paired_deleteStream (client : Bool) (deleteZslStream deleteInputStream : ℤ)
    (hs : s.Paired B) : (s.deleteStream B client deleteZslStream deleteInputStream).2.Paired B := by
  have hsame : ∀ t : State Q, Same B s t → t.Paired B := fun t h ↦ h.paired hs
  unfold deleteStream
  dsimp only
  split_ifs
  · exact hs
  · exact hs
  · exact hsame _ ⟨rfl, rfl, rfl⟩
  · exact hs.of_new rfl rfl rfl
  · exact hsame _ ⟨rfl, rfl, rfl⟩

theorem same_clearInputBuffer (addReleaseFenceLocked : RingBuffer.StatusT) (s : State Q) :
    Same B s (s.clearInputBuffer addReleaseFenceLocked) := by
  unfold clearInputBuffer
  split <;> exact ⟨rfl, rfl, rfl⟩

theorem same_clearZslQueue {addReleaseFenceLocked : RingBuffer.StatusT}
    {outcomes : ℕ → RingBuffer.Outcome} {res : RingBuffer.StatusT}
    (h : s.clearZslQueue addReleaseFenceLocked outcomes = some (res, t)) : Same B s t := by
  unfold clearZslQueue at h
  split_ifs at h
  · cases h
    exact .refl s
  · cases h
    exact .refl s
  · obtain ⟨ring, _, h⟩ := Option.bind_eq_some_iff.mp h
    obtain ⟨ring', _, h⟩ := Option.bind_eq_some_iff.mp h
    obtain ⟨⟨res', cleared⟩, _, h⟩ := Option.map_eq_some_iff.mp h
    cases h
    obtain ⟨hqueued, hrequests, hsubmitted⟩ := same_clearInputBuffer (B := B) addReleaseFenceLocked
      { s.clearZslResultQueueLocked with mLatestClearedBufferTimestamp := ring.getLatestTimestamp }
    exact ⟨hqueued, hrequests, hsubmitted⟩

theorem same_notifyInputReleased (h : s.notifyInputReleased = some t) : Same B s t := by
  unfold notifyInputReleased at h
  split at h
  · cases h
  · cases h
    exact ⟨rfl, rfl, rfl⟩

theorem same_doNotifyInputReleasedLocked {addReleaseFenceLocked : RingBuffer.StatusT}
    (h : s.doNotifyInputReleasedLocked B addReleaseFenceLocked = some t) : Same B s t := by
  have hdetach := B.queued_detachNext s.inputQueue
  unfold doNotifyInputReleasedLocked at h
  rcases heq : B.detachNext s.inputQueue with ⟨rc, gb, q⟩
  rw [heq] at h hdetach
  cases hinput : s.mInputBuffer with
  | none =>
    rw [hinput] at h
    cases h
  | some item =>
    rw [hinput] at h
    dsimp only at h hdetach
    split_ifs at h
    · cases h
      exact ⟨hdetach, rfl, rfl⟩
    · obtain ⟨gb, _, h⟩ := Option.map_eq_some_iff.mp h
      split_ifs at h
      · cases h
        exact ⟨hdetach, rfl, rfl⟩
      · cases h
        have hclear := same_clearInputBuffer (B := B) addReleaseFenceLocked
          { s with inputQueue := q, mInputBuffer := some item }
        exact ⟨hclear.queued.trans hdetach, hclear.requests, hclear.submitted⟩

theorem same_detachLoop {addReleaseFenceLocked : ℕ → RingBuffer.StatusT} {n : ℕ}
    (h : s.detachLoop B addReleaseFenceLocked n = some t) : Same B s t := by
  induction n generalizing s with
  | zero =>
    cases h
    exact .refl _
  | succ n ih =>
    obtain ⟨u, hu, h⟩ := Option.bind_eq_some_iff.mp h
    obtain ⟨hqueued, hrequests, hsubmitted⟩ := ih h
    exact (same_doNotifyInputReleasedLocked hu).trans ⟨hqueued, hrequests, hsubmitted⟩

theorem Paired.takeRequest (hs : s.Paired B) (hacquire : (B.acquire s.inputQueue).1 = OK)
    (h : s.takeRequest B OK = some t) : t.Paired B := by
  unfold State.takeRequest at h
  cases hrequests : s.requests with
  | nil =>
    rw [hrequests] at h
    cases h
  | cons request requests =>
    obtain ⟨item, q, heq, hqueued⟩ :=
      getInputBuffer_of_acquire (s := { s with requests }) hacquire
    rw [hrequests] at h
    dsimp only at h
    rw [if_neg (not_not.mpr rfl), heq] at h
    cases h
    have hwaiting := hs.waiting
    dsimp only at hqueued
    rw [hqueued, hrequests] at hwaiting
    obtain ⟨hbelongs, hwaiting⟩ := List.forall₂_cons.mp hwaiting
    refine ⟨hwaiting, fun p hp ↦ ?_⟩
    obtain hp | hp := List.mem_append.mp hp
    · exact hs.submitted p hp
    · rw [List.mem_singleton.mp hp]
      exact hbelongs

theorem Paired.abortRequest (hs : s.Paired B) (hacquire : (B.acquire s.inputQueue).1 = OK)
    (h : s.abortRequest B = some t) : t.Paired B := by
  unfold State.abortRequest at h
  cases hrequests : s.requests with
  | nil =>
    rw [hrequests] at h
    cases h
  | cons request requests =>
    obtain ⟨item, q, heq, hqueued⟩ :=
      getInputBuffer_of_acquire (s := { s with requests }) hacquire
    rw [hrequests] at h
    dsimp only at h
    rw [heq] at h
    have hwaiting := hs.waiting
    dsimp only at hqueued
    rw [hqueued, hrequests] at hwaiting
    exact (same_returnInputBuffer h).paired ⟨(List.forall₂_cons.mp hwaiting).2, hs.submitted⟩

theorem Paired.configureStreams (hs : s.Paired B) (hrequests : s.requests = []) :
    (s.configureStreams B).Paired B := by
  obtain ⟨⟨n, hn⟩, hrequests', hsubmitted, _⟩ :=
    abortInputBuffers_aborts (B := B) ((B.queued s.inputQueue).length + 1) s
  have hwaiting := hs.waiting
  rw [hrequests, List.forall₂_nil_right_iff] at hwaiting
  constructor
  · rw [State.configureStreams, hn, hrequests', hwaiting, hrequests, List.drop_nil]
    exact .nil
  · rw [State.configureStreams, hsubmitted]
    exact hs.submitted

/-- What one step preserves. -/
theorem paired_step {a : Label} (h : s.step B a = some t) (hmeets : s.Meets B a)
    (hs : s.Paired B) : t.Paired B := by
  cases a with
  | onResultAvailable mMetadata => exact (same_onResultAvailable h).paired hs
  | updateStream client createInputStream createStream =>
    cases h
    exact paired_updateStream client createInputStream createStream hs
  | deleteStream client deleteZslStream deleteInputStream =>
    cases h
    exact paired_deleteStream client deleteZslStream deleteInputStream hs
  | onFrameAvailable o acquired =>
    obtain ⟨ring, _, h⟩ := Option.bind_eq_some_iff.mp h
    obtain ⟨ring', _, rfl⟩ := Option.map_eq_some_iff.mp h
    exact ⟨hs.waiting, hs.submitted⟩
  | pushToReprocess c =>
    obtain ⟨⟨res, u⟩, hpush, rfl⟩ := Option.map_eq_some_iff.mp h
    exact hs.pushToReprocess hmeets hpush
  | clearZslQueue addReleaseFenceLocked outcomes =>
    obtain ⟨⟨res, u⟩, hclear, rfl⟩ := Option.map_eq_some_iff.mp h
    exact (same_clearZslQueue hclear).paired hs
  | notifyInputReleased => exact (same_notifyInputReleased h).paired hs
  | threadLoop addReleaseFenceLocked => exact (same_detachLoop h).paired hs
  | takeRequest res =>
    obtain ⟨rfl, hacquire⟩ := hmeets
    exact hs.takeRequest hacquire h
  | abortRequest => exact hs.abortRequest hmeets h
  | configureStreams =>
    cases h
    exact hs.configureStreams hmeets
  | returnInputBuffer buffer => exact (same_returnInputBuffer h).paired hs

/-- What a run preserves. -/
theorem paired_of_reachable {pipelineMaxDepth : Option UInt8} {mHasFocuser : Bool}
    (h : Reachable (restrict (ofPartial (step B)) (Meets B)) (create B pipelineMaxDepth mHasFocuser)
      s) : s.Paired B := by
  apply Reachable.invariant _ h (paired_create B pipelineMaxDepth mHasFocuser)
  intro u a v hstep hu
  exact paired_step hstep.1 hstep.2 hu

/-- A call leaves nothing exactly when it has nothing to leave. In a run whose steps all meet the
condition, a call that succeeds submits the buffer of the metadata it selected. -/
theorem reprocess_leaves_nothing (B : InputQueue Q) :
    (∀ (s : State Q) (c : Reprocess), s.LeavesNothing B c ↔ s.CleanWhen B c) ∧
      ∀ (pipelineMaxDepth : Option UInt8) (mHasFocuser : Bool) (s : State Q),
        Reachable (restrict (ofPartial (step B)) (Meets B))
          (create B pipelineMaxDepth mHasFocuser) s →
        (∀ c t, s.Meets B (.pushToReprocess c) → s.pushToReprocess B c = some (OK, t) →
          s.Submits B t) ∧
        ∀ p ∈ s.submitted, Belongs p.2 p.1 := by
  refine ⟨fun s c ↦ ⟨LeavesNothing.cleanWhen, CleanWhen.leavesNothing⟩, ?_⟩
  intro pipelineMaxDepth mHasFocuser s hreach
  have hs := paired_of_reachable hreach
  exact ⟨fun c t hmeets hpush ↦ hs.submits hmeets hpush rfl, hs.submitted⟩

/-! ### Runs -/

abbrev bufferQueue : InputQueue (Slots ℕ QueueBufferInput) := Slots.contract 64

/-- A frame that is a candidate. -/
def goodFrame (timestamp : ℤ) : CameraMetadata :=
  [(ANDROID_SENSOR_TIMESTAMP, [timestamp]), (ANDROID_REQUEST_FRAME_COUNT, [timestamp]),
    (ANDROID_CONTROL_AE_STATE, [ANDROID_CONTROL_AE_STATE_CONVERGED]),
    (ANDROID_CONTROL_AF_MODE, [ANDROID_CONTROL_AF_MODE_OFF])]

/-- A call without a thumbnail, which the device answers with `capture`. -/
def reprocess (requestId captureStreamId capture : ℤ) : Reprocess :=
  { requestId, captureStreamId, parameters := { jpegThumbSize := (0, 0) }, capture }

/-- A buffer of the ring and its metadata. -/
def frameLabels (timestamp : ℤ) (buffer : ℕ) : List Label :=
  [.onFrameAvailable {} (some ({ mTimestamp := timestamp }, buffer)),
    .onResultAvailable (goodFrame timestamp)]

def startLabels : List Label :=
  .updateStream true { id := some 0 } { id := some 1 } :: frameLabels 5 10

/-- A call before there is a frame leaves nothing, and the one after it submits its buffer. -/
theorem reprocess_leaves_nothing_run :
    (create bufferQueue none false).LeavesNothing bufferQueue (reprocess 0 2 OK) ∧
      (∃ s t : State (Slots ℕ QueueBufferInput),
        s.pushToReprocess bufferQueue (reprocess 1 2 OK) = some (OK, t) ∧
          s.Submits bufferQueue t) ∧
      ∃ s : State (Slots ℕ QueueBufferInput), s.submitted ≠ [] ∧
        ∀ p ∈ s.submitted, Belongs p.2 p.1 := by
  obtain ⟨hleaves, hruns⟩ := reprocess_leaves_nothing bufferQueue
  refine ⟨(hleaves _ _).mpr (by decide +kernel), ?_, ?_⟩
  · have hexec : (exec (guarded (step bufferQueue) (Meets bufferQueue))
        (create bufferQueue none false)
        (.pushToReprocess (reprocess 0 2 OK) :: startLabels)).map (fun s ↦
          ((s.pushToReprocess bufferQueue (reprocess 1 2 OK)).map Prod.fst,
            decide (s.Meets bufferQueue (.pushToReprocess (reprocess 1 2 OK))))) =
        some (some OK, true) := by decide +kernel
    obtain ⟨s, hs, hpush⟩ := Option.map_eq_some_iff.mp hexec
    obtain ⟨hpush, hmeets⟩ := Prod.mk.inj hpush
    obtain ⟨⟨res, t⟩, hpush, rfl⟩ := Option.map_eq_some_iff.mp hpush
    exact ⟨s, t, hpush, (hruns none false s ⟨_, run_restrict_of_exec hs⟩).1 _ t
      (of_decide_eq_true hmeets) hpush⟩
  · have hexec : (exec (guarded (step bufferQueue) (Meets bufferQueue))
        (create bufferQueue none false)
        (startLabels ++ [.pushToReprocess (reprocess 1 2 OK), .takeRequest OK])).map (fun s ↦
          s.submitted.length) = some 1 := by decide +kernel
    obtain ⟨s, hs, hlength⟩ := Option.map_eq_some_iff.mp hexec
    refine ⟨s, List.ne_nil_of_length_pos (hlength ▸ Nat.one_pos), ?_⟩
    exact (hruns none false s ⟨_, run_restrict_of_exec hs⟩).2

/-- The device refuses a capture, of which the buffer stays pinned and queued. The next call
succeeds, and its request is given that buffer. -/
theorem reprocess_leaves_buffer : ∃ s t u v w : State (Slots ℕ QueueBufferInput),
    Reachable (ofPartial (step bufferQueue)) (create bufferQueue none false) s ∧
      s.Clean bufferQueue ∧
      s.pushToReprocess bufferQueue (reprocess 0 (-1) BAD_VALUE) = some (BAD_VALUE, t) ∧
      ¬ t.Clean bufferQueue ∧
      Run (ofPartial (step bufferQueue)) t
        (.clearZslQueue .OK (fun _ ↦ {}) :: frameLabels 9 11) u ∧
      u.pushToReprocess bufferQueue (reprocess 1 2 OK) = some (OK, v) ∧
      v.takeRequest bufferQueue OK = some w ∧ ∃ p ∈ w.submitted, ¬ Belongs p.2 p.1 := by
  have hexec : ((exec (step bufferQueue) (create bufferQueue none false) startLabels).bind fun s ↦
      (s.pushToReprocess bufferQueue (reprocess 0 (-1) BAD_VALUE)).bind fun r ↦
        (exec (step bufferQueue) r.2
          (.clearZslQueue .OK (fun _ ↦ {}) :: frameLabels 9 11)).bind fun u ↦
            (u.pushToReprocess bufferQueue (reprocess 1 2 OK)).bind fun r' ↦
              (r'.2.takeRequest bufferQueue OK).map fun w ↦
                (decide (s.Clean bufferQueue), r.1, decide (r.2.Clean bufferQueue), r'.1,
                  decide (∃ p ∈ w.submitted, ¬ Belongs p.2 p.1))) =
      some (true, BAD_VALUE, false, OK, true) := by decide +kernel
  obtain ⟨s, hs, hexec⟩ := Option.bind_eq_some_iff.mp hexec
  obtain ⟨⟨res, t⟩, hfail, hexec⟩ := Option.bind_eq_some_iff.mp hexec
  obtain ⟨u, hu, hexec⟩ := Option.bind_eq_some_iff.mp hexec
  obtain ⟨⟨res', v⟩, hpush, hexec⟩ := Option.bind_eq_some_iff.mp hexec
  obtain ⟨w, hw, heq⟩ := Option.map_eq_some_iff.mp hexec
  simp only [Prod.mk.injEq, decide_eq_true_iff, decide_eq_false_iff_not] at heq
  obtain ⟨hclean, rfl, hleft, rfl, hsubmitted⟩ := heq
  exact ⟨s, t, u, v, w, ⟨_, (run_iff_exec _ _ _ _).mpr hs⟩, hclean, hfail, hleft,
    (run_iff_exec _ _ _ _).mpr hu, hpush, hw, hsubmitted⟩

end State

end VirtualCamera.Zsl
