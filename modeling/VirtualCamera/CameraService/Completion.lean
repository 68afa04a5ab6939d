import VirtualCamera.CameraService.Frames

namespace VirtualCamera.CameraService.Completion

open Library Assoc Transition InFlight

/-! ### The messages for one frame -/

inductive Message
  | registerInFlight (r : Registration)
  | notifyShutter (frame_number : ℕ) (timestamp : ℤ)
  | notifyError (frame_number : ℕ) (errorCode : Option ErrorCode)
      (error_stream : Option ErrorStream)
  | processCaptureResult (result : HalResult)
  deriving DecidableEq, Repr

def Message.frameNumber : Message → ℕ
  | .registerInFlight r => r.resultExtras.frameNumber
  | .notifyShutter frame_number _ => frame_number
  | .notifyError frame_number _ _ => frame_number
  | .processCaptureResult result => result.frame_number

def Message.arrive (c : Config) (s : State) : Message → State
  | .registerInFlight r => s.registerInFlight r
  | .notifyShutter frame_number timestamp => s.notifyShutter c frame_number timestamp
  | .notifyError frame_number errorCode error_stream =>
    s.notifyError c frame_number errorCode error_stream
  | .processCaptureResult result => s.processCaptureResult c result

def concernsRequest (errorCode : Option ErrorCode) : Bool :=
  errorCode = some .ERROR_CAMERA_REQUEST ∨ errorCode = some .ERROR_CAMERA_RESULT

/-- What has come for a frame; `skip` is an error that is not about one physical camera only. -/
structure Received where
  registration : Option Registration
  shutter : Bool
  partials : List CameraMetadata
  final : Option (CameraMetadata × List PhysicalCaptureResultInfo)
  buffers : List StreamBuffer
  inputs : ℕ
  error : Bool
  skip : Bool
  deriving DecidableEq, Repr

def Received.create : Received := ⟨none, false, [], none, [], 0, false, false⟩

/-- How many input buffers a result has for the request. -/
def Registration.inputs (reg : Registration) (result : HalResult) : ℕ :=
  if result.input_buffer.isSome ∧ reg.hasInput then 1 else 0

def Received.next (c : Config) (m : Received) : Message → Received
  | .registerInFlight r => { m with registration := some r }
  | .notifyShutter _ _ => { m with shutter := true }
  | .notifyError _ errorCode error_stream =>
    if concernsRequest errorCode then
      { m with
        error := true
        skip := m.skip || (errorCode.bind fun code ↦ physicalError code error_stream).isNone }
    else m
  | .processCaptureResult result =>
    { m with
      partials := if result.isPartial c then m.partials ++ [result.result.getD []] else m.partials
      final :=
        if result.isFinal c then some (result.result.getD [], result.physcam_metadata) else m.final
      buffers := m.buffers ++ result.output_buffers
      inputs := m.inputs + (m.registration.map fun reg ↦ Registration.inputs reg result).getD 0 }

/-- All that is to come has come: every buffer, and an error or the final metadata and the
shutter. -/
def Received.Complete (m : Received) (reg : Registration) : Prop :=
  reg.numBuffers = (m.buffers.length + m.inputs : ℕ) ∧ (m.skip ∨ (m.final.isSome ∧ m.shutter))

def content (result : CaptureResult) : CameraMetadata × List PhysicalCaptureResultInfo :=
  (result.mMetadata, result.mPhysicalMetadatas)

def finalResult (c : Config) (reg : Registration) (partials : List CameraMetadata)
    (final : CameraMetadata × List PhysicalCaptureResultInfo) :
    Option (CameraMetadata × List PhysicalCaptureResultInfo) :=
  let r : InFlightRequest := { InFlightRequest.create reg with physicalMetadatas := final.2 }
  (r.finalMetadata c final.1 partials.flatten).map fun metadata ↦
    content (CaptureResult.stamp ⟨reg.resultExtras, metadata.1, metadata.2⟩
      reg.resultExtras.frameNumber)

/-! ### What may come -/

/-- The checks of the metadata of a result. -/
structure MetadataOk (c : Config) (r : InFlightRequest) (result : HalResult) : Prop where
  partialRange : c.usePartialResult → result.result.isSome →
    1 ≤ result.partial_result ∧ result.partial_result ≤ c.numPartialResults
  partialPhysical : result.isPartial c → result.physcam_metadata = []
  physicalCount : result.isFinal c → r.physicalCameraIds.length = result.physcam_metadata.length
  physicalIds : result.isFinal c → (receivePhysical r result.physcam_metadata).isOk

instance (c : Config) (r : InFlightRequest) (result : HalResult) :
    Decidable (MetadataOk c r result) :=
  decidable_of_iff
    ((c.usePartialResult → result.result.isSome →
        1 ≤ result.partial_result ∧ result.partial_result ≤ c.numPartialResults) ∧
      (result.isPartial c → result.physcam_metadata = []) ∧
      (result.isFinal c → r.physicalCameraIds.length = result.physcam_metadata.length) ∧
      (result.isFinal c → (receivePhysical r result.physcam_metadata).isOk))
    ⟨fun ⟨h₁, h₂, h₃, h₄⟩ ↦ ⟨h₁, h₂, h₃, h₄⟩, fun ⟨h₁, h₂, h₃, h₄⟩ ↦ ⟨h₁, h₂, h₃, h₄⟩⟩

/-- The shutter comes once, in the order of the frames. -/
def ShutterAllowed (s : State) (m : Received) (f : ℕ) (reg : Registration) (timestamp : ℤ) : Prop :=
  timestamp ≠ 0 ∧ m.shutter = false ∧
    (f ∈ s.inflightMap →
      s.nextShutter (InFlightRequest.create reg).order ≤ f ∧
      (m.final.isSome → reg.hasAppCallback → s.nextResult (InFlightRequest.create reg).order ≤ f))

/-- A result brings metadata only up to the final one, no more buffers than there are, and
passes the checks of its metadata. -/
def ResultAllowed (c : Config) (s : State) (m : Received) (f : ℕ) (reg : Registration)
    (result : HalResult) : Prop :=
  ¬ (result.result = none ∧ result.output_buffers = [] ∧ result.input_buffer = none) ∧
    ¬ (c.usePartialResult = false ∧ result.result ≠ none ∧ result.partial_result ≠ 1) ∧
    (result.result.isSome → m.final = none) ∧
    (m.buffers.length + m.inputs + result.output_buffers.length + Registration.inputs reg result : ℕ) ≤
      reg.numBuffers ∧
    (∀ r ∈ s.inflightMap.lookup f, MetadataOk c r result) ∧
    (result.isFinal c → reg.hasAppCallback → result.result.getD [] ≠ [] ∧
      (finalResult c reg m.partials (result.result.getD [], result.physcam_metadata)).isSome) ∧
    (f ∈ s.inflightMap → result.isFinal c → m.shutter → reg.hasAppCallback →
      s.nextResult (InFlightRequest.create reg).order ≤ f)

/-- A frame is registered once, and its messages come after that. -/
def Allowed (c : Config) (s : State) (m : Received) (f : ℕ) : Message → Prop
  | .registerInFlight _ => m.registration = none
  | .notifyShutter _ timestamp => ∃ reg ∈ m.registration, ShutterAllowed s m f reg timestamp
  | .notifyError _ errorCode _ =>
    concernsRequest errorCode → m.registration.isSome ∧ m.error = false
  | .processCaptureResult result => ∃ reg ∈ m.registration, ResultAllowed c s m f reg result

instance (s : State) (m : Received) (f : ℕ) (reg : Registration) (timestamp : ℤ) :
    Decidable (ShutterAllowed s m f reg timestamp) :=
  inferInstanceAs (Decidable (_ ∧ _ ∧ (_ → _ ∧ (_ → _ → _))))

instance (c : Config) (s : State) (m : Received) (f : ℕ) (reg : Registration)
    (result : HalResult) : Decidable (ResultAllowed c s m f reg result) :=
  inferInstanceAs (Decidable (_ ∧ _ ∧ (_ → _) ∧ _ ∧ (∀ r ∈ s.inflightMap.lookup f, _) ∧
    (_ → _ → _ ∧ _) ∧ (_ → _ → _ → _ → _)))

instance (c : Config) (s : State) (m : Received) (f : ℕ) :
    (message : Message) → Decidable (Allowed c s m f message)
  | .registerInFlight _ => inferInstanceAs (Decidable (m.registration = none))
  | .notifyShutter _ timestamp =>
    inferInstanceAs (Decidable (∃ reg ∈ m.registration, ShutterAllowed s m f reg timestamp))
  | .notifyError _ errorCode _ => inferInstanceAs (Decidable (concernsRequest errorCode → _ ∧ _))
  | .processCaptureResult result =>
    inferInstanceAs (Decidable (∃ reg ∈ m.registration, ResultAllowed c s m f reg result))

/-! ### The run -/

/-- The state, and what has come for the frame that is looked at. -/
structure Watched where
  state : State
  received : Received

def Watched.create : Watched := ⟨State.create, Received.create⟩

def Watched.step (c : Config) (f : ℕ) (w : Watched) (message : Message) : Option Watched :=
  some ⟨message.arrive c w.state,
    if message.frameNumber = f then w.received.next c message else w.received⟩

def Step (c : Config) (f : ℕ) : Watched → Message → Watched → Prop := ofPartial (Watched.step c f)

/-- Messages for other frames may be anything. -/
def Regular (c : Config) (f : ℕ) (w : Watched) (message : Message) : Prop :=
  message.frameNumber = f → Allowed c w.state w.received f message

instance (c : Config) (f : ℕ) (w : Watched) (message : Message) :
    Decidable (Regular c f w message) := inferInstanceAs (Decidable (_ → _))

/-! ### The entry of the frame -/

/-- What the entry has from its registration. -/
structure Registered (reg : Registration) (r : InFlightRequest) : Prop where
  frameNumber : r.resultExtras.frameNumber = reg.resultExtras.frameNumber
  requestId : r.resultExtras.requestId = reg.resultExtras.requestId
  hasInputBuffer : r.hasInputBuffer = reg.hasInput
  hasCallback : r.hasCallback = reg.hasAppCallback
  stillCapture : r.stillCapture = reg.isStillCapture
  zslCapture : r.zslCapture = reg.isZslCapture
  rotateAndCropAuto : r.rotateAndCropAuto = reg.rotateAndCropAuto
  cameraIdsWithZoom : r.cameraIdsWithZoom = reg.cameraIdsWithZoom

/-- The entry tells what has come. -/
structure Counts (reg : Registration) (m : Received) (r : InFlightRequest) : Prop where
  registered : Registered reg r
  shutter : r.shutterTimestamp ≠ 0 ↔ m.shutter = true
  final : r.haveResultMetadata = m.final.isSome
  left : r.numBuffersLeft = reg.numBuffers - (m.buffers.length + m.inputs : ℕ)
  skip : r.skipResultMetadata = m.skip
  strategy : r.errorBufStrategy = .ERROR_BUF_CACHE → m.final = none ∧ m.skip = false

/-- The entry has the metadata until it is sent. -/
structure Carries (m : Received) (r : InFlightRequest) : Prop where
  collected : (m.final = none ∨ m.shutter = false) →
    r.collectedPartialResult = m.partials.flatten
  noMetadata : m.final = none → r.pendingMetadata = [] ∧ r.physicalMetadatas = []
  metadata : ∀ metadata physical, m.final = some (metadata, physical) →
    r.physicalMetadatas = physical ∧ (m.shutter = false → r.pendingMetadata = metadata)

structure Holds (reg : Registration) (m : Received) (r : InFlightRequest) : Prop extends
  Counts reg m r, Carries m r

/-- The final result has been queued when its metadata and the shutter are there. -/
def Queued (c : Config) (f : ℕ) (reg : Registration) (m : Received) (s : State) : Prop :=
  if m.final.isSome ∧ m.shutter ∧ reg.hasAppCallback then
    ∃ q, s.finalsFor f = [q] ∧ some (content q.result) = m.final.bind (finalResult c reg m.partials)
  else s.finalsFor f = []

/-- The entry waits in the state for what is still to come. -/
structure Waits (c : Config) (f : ℕ) (reg : Registration) (m : Received) (s : State)
    (r : InFlightRequest) : Prop where
  holds : Holds reg m r
  delivered : s.deliveredFor f + items f r.pendingOutputBuffers = items f m.buffers
  queued : Queued c f reg m s

/-- All that has come is complete. -/
structure Done (c : Config) (f : ℕ) (reg : Registration) (m : Received) (s : State) : Prop where
  complete : m.Complete reg
  delivered : s.deliveredFor f = items f m.buffers
  queued : m.error = false → Queued c f reg m s

/-- The entry waits, or it has left the map. -/
def Settled (c : Config) (f : ℕ) (reg : Registration) (m : Received) (s : State) : Prop :=
  match s.inflightMap.lookup f with
  | some r => Waits c f reg m s r ∧ ¬ m.Complete reg
  | none => Done c f reg m s

/-! ### The end of the request -/

theorem Holds.ready_iff {reg : Registration} {m : Received} {r : InFlightRequest}
    (h : Holds reg m r) : r.ready = true ↔ m.Complete reg := by
  unfold InFlightRequest.ready Received.Complete
  rw [decide_eq_true_eq, h.left, h.skip, h.final, h.shutter, sub_eq_zero]

/-- A request that ends keeps no buffer back. -/
theorem Holds.keptBack {reg : Registration} {m : Received} {r : InFlightRequest}
    (h : Holds reg m r) (hcomplete : m.Complete reg) : r.keptBack = [] := by
  apply List.filter_eq_nil_iff.mpr
  intro b _ hb
  have hcache : r.errorBufStrategy = .ERROR_BUF_CACHE := by
    simp only [ErrorBufStrategy.returns, Bool.not_eq_true', decide_eq_false_iff_not, not_or,
      not_not] at hb
    exact hb.2
  obtain ⟨hfinal, hskip⟩ := h.strategy hcache
  rcases hcomplete.2 with hs | hf
  · rw [hskip] at hs
    cases hs
  · rw [hfinal] at hf
    cases hf.1

/-- Nothing is queued while the metadata, the shutter or the callback is missing. -/
theorem queued_iff_nil {c : Config} {f : ℕ} {reg : Registration} {m : Received} {s : State}
    (h : m.final = none ∨ m.shutter = false ∨ reg.hasAppCallback = false) :
    Queued c f reg m s ↔ s.finalsFor f = [] := by
  have hmissing : ¬ (m.final.isSome ∧ m.shutter ∧ reg.hasAppCallback) := by
    intro hs
    obtain hm | hm | hm := h
    · rw [hm] at hs
      cases hs.1
    · rw [hm] at hs
      cases hs.2.1
    · rw [hm] at hs
      cases hs.2.2
  rw [Queued, if_neg hmissing]

theorem Queued.congr {c : Config} {f : ℕ} {reg : Registration} {m : Received} {s t : State}
    (h : Queued c f reg m s) (hfinals : t.finalsFor f = s.finalsFor f) : Queued c f reg m t := by
  unfold Queued at h ⊢
  rwa [hfinals]

/-- The end of a function that has changed the entry. -/
theorem Waits.remove {c : Config} {f : ℕ} {reg : Registration} {m : Received} {s : State}
    {r : InFlightRequest} (h : Waits c f reg m s r) (hf : reg.resultExtras.frameNumber = f) :
    Settled c f reg m (s.removeInFlightRequestIfReadyLocked c f r) := by
  have hframe : r.resultExtras.frameNumber = f := h.holds.registered.frameNumber.trans hf
  unfold Settled
  cases hready : r.ready with
  | false =>
    rw [removeInFlightRequestIfReadyLocked_of_not_ready c s f hready]
    rw [show AList.lookup f (s.inflightMap.insert f r) = some r from AList.lookup_insert _]
    refine ⟨⟨h.holds, h.delivered, h.queued⟩, fun hcomplete ↦ ?_⟩
    rw [h.holds.ready_iff.mpr hcomplete] at hready
    cases hready
  | true =>
    have hcomplete := h.holds.ready_iff.mp hready
    obtain ⟨outputs, n₁, n₂, n₃, e, heq, hbalance⟩ :=
      removeInFlightRequestIfReadyLocked_of_ready c s f hready
    rw [heq]
    rw [show AList.lookup f (s.inflightMap.erase f) = none from AList.lookup_erase f _]
    refine ⟨hcomplete, ?_, fun _ ↦ h.queued⟩
    rw [h.holds.keptBack hcomplete, hframe] at hbalance
    have hfilter := filter_delivered hbalance
    refine (add_zero _).symm.trans (hfilter.trans h.delivered)

theorem Settled.congr {c : Config} {f : ℕ} {reg : Registration} {m : Received} {s t : State}
    (h : Settled c f reg m s) (hlookup : t.inflightMap.lookup f = s.inflightMap.lookup f)
    (hdelivered : t.deliveredFor f = s.deliveredFor f) (hfinals : t.finalsFor f = s.finalsFor f) :
    Settled c f reg m t := by
  unfold Settled at h ⊢
  rw [hlookup]
  split
  · rename_i r hr
    rw [hr] at h
    exact ⟨⟨h.1.holds, hdelivered ▸ h.1.delivered, h.1.queued.congr hfinals⟩, h.2⟩
  · rename_i hr
    rw [hr] at h
    exact ⟨h.complete, hdelivered.trans h.delivered, fun he ↦ (h.queued he).congr hfinals⟩

/-! ### The final result -/

theorem Registered.order {reg : Registration} {r : InFlightRequest} (h : Registered reg r) :
    r.order = (InFlightRequest.create reg).order := by
  unfold InFlightRequest.order
  rw [h.hasInputBuffer, h.zslCapture, h.stillCapture]
  rfl

/-- The metadata that is sent depends on what was registered and on the metadata alone. -/
theorem Registered.finalMetadata {c : Config} {reg : Registration} {r : InFlightRequest}
    (h : Registered reg r) (metadata collected : CameraMetadata) :
    r.finalMetadata c metadata collected = InFlightRequest.finalMetadata c
      { InFlightRequest.create reg with physicalMetadatas := r.physicalMetadatas } metadata
        collected := by
  unfold InFlightRequest.finalMetadata
  rw [h.rotateAndCropAuto, h.cameraIdsWithZoom]
  rfl

/-- The final result is queued once its metadata passes the checks. -/
theorem Registered.sendCaptureResult {c : Config} {reg : Registration} {r : InFlightRequest}
    (h : Registered reg r) {s : State} {f : ℕ} (hf : reg.resultExtras.frameNumber = f)
    {partials : List CameraMetadata} {metadata : CameraMetadata} (hne : metadata ≠ [])
    (hfinal : (finalResult c reg partials (metadata, r.physicalMetadatas)).isSome)
    (horder : s.nextResult (InFlightRequest.create reg).order ≤ f) :
    ∃ q, (s.sendCaptureResult c r metadata partials.flatten f).finalsFor f =
        s.finalsFor f ++ [q] ∧
      some (content q.result) = finalResult c reg partials (metadata, r.physicalMetadatas) := by
  obtain ⟨result, hresult⟩ := Option.isSome_iff_exists.mp hfinal
  obtain ⟨m, hm, heq⟩ := Option.map_eq_some_iff.mp hresult
  have hm' : r.finalMetadata c metadata partials.flatten = some m :=
    (h.finalMetadata metadata partials.flatten).trans hm
  unfold State.sendCaptureResult
  rw [if_neg hne, h.order, if_neg (by omega)]
  dsimp only
  rw [hm']
  obtain ⟨metadata', physical⟩ := m
  refine ⟨⟨CaptureResult.stamp ⟨r.resultExtras, metadata', physical⟩ f, true⟩, ?_, ?_⟩
  · have hqueue : (s.setNextResult (f + 1) (InFlightRequest.create reg).order).resultQueue =
        s.resultQueue := by
      cases (InFlightRequest.create reg).order <;> rfl
    unfold State.insertResultLocked State.finalsFor
    dsimp only
    rw [hqueue, List.filter_append]
    congr 1
    exact List.filter_cons_of_pos (decide_eq_true ⟨rfl, h.frameNumber.trans hf⟩)
  · rw [hresult, ← heq, hf]
    unfold content CaptureResult.stamp
    rw [h.requestId]

/-! ### The shutter -/

theorem Received.Complete.shutter {m : Received} {reg : Registration} (h : m.Complete reg) :
    { m with shutter := true }.Complete reg :=
  ⟨h.1, h.2.imp_right fun hf ↦ ⟨hf.1, rfl⟩⟩

/-- The shutter of the entry: the metadata that waits is sent, and the buffers that wait go. -/
theorem Waits.shutter {c : Config} {f : ℕ} {reg : Registration} {m : Received} {s : State}
    {r : InFlightRequest} (h : Waits c f reg m s r) (hf : reg.resultExtras.frameNumber = f)
    (hfinal : ∀ final, m.final = some final → reg.hasAppCallback → final.1 ≠ [] ∧
      (finalResult c reg m.partials final).isSome)
    (hnot : m.shutter = false) {timestamp : ℤ} (htimestamp : timestamp ≠ 0)
    (horder : m.final.isSome → reg.hasAppCallback →
      s.nextResult (InFlightRequest.create reg).order ≤ f) :
    Settled c f reg { m with shutter := true } (s.shutter c r f timestamp) := by
  obtain ⟨extras, s₂, hframe, hrequest, hmap, hdelivered, hqueue, hnext, heq⟩ :=
    shutter_spec c s r f timestamp
  rw [heq]
  let r₂ : InFlightRequest := { r with shutterTimestamp := timestamp, resultExtras := extras }
  have hreg : Registered reg r₂ :=
    { h.holds.registered with
      frameNumber := hframe.trans h.holds.registered.frameNumber
      requestId := hrequest.trans h.holds.registered.requestId }
  let s₃ : State :=
    if r.hasCallback then
      s₂.sendCaptureResult c r₂ r.pendingMetadata r.collectedPartialResult f
    else s₂
  obtain ⟨-, hbalance⟩ := returnAndRemovePendingOutputBuffers_spec c r₂ s₃.outputs
  let o := (r₂.returnAndRemovePendingOutputBuffers c s₃.outputs).2
  apply Waits.remove (s := { s₃ with outputs := o }) ?_ hf
  obtain ⟨hmap₃, houtputs₃⟩ : s₃.inflightMap = s₂.inflightMap ∧ s₃.outputs = s₂.outputs :=
    sendCaptureResult_if_frame c s₂ r₂ r.pendingMetadata r.collectedPartialResult f r.hasCallback
  have hnone : s₂.finalsFor f = [] := by
    rw [State.finalsFor, hqueue]
    exact (queued_iff_nil (.inr (.inl hnot))).mp h.queued
  refine ⟨{ h.holds with
    registered := { hreg with }
    shutter := iff_of_true htimestamp rfl
    collected := fun hs ↦ h.holds.collected (hs.imp_right fun hc ↦ by cases hc)
    metadata := fun metadata physical hm ↦ ⟨
      (h.holds.metadata metadata physical hm).1, fun hc ↦ by cases hc⟩ },
    ?_, ?_⟩
  · have hframe₂ : r₂.resultExtras.frameNumber = f := hreg.frameNumber.trans hf
    rw [hframe₂] at hbalance
    refine (filter_delivered hbalance).trans ?_
    rw [houtputs₃, hdelivered]
    exact h.delivered
  · have hcallback : r.hasCallback = reg.hasAppCallback := h.holds.registered.hasCallback
    change Queued c f reg { m with shutter := true } s₃
    unfold Queued
    dsimp only [s₃]
    rw [hcallback]
    cases hm : m.final with
    | none =>
      rw [if_neg (fun hs ↦ by cases hs.1), (h.holds.noMetadata hm).1]
      split
      · rw [State.sendCaptureResult, if_pos rfl]
        exact hnone
      · exact hnone
    | some final =>
      obtain ⟨metadata, physical⟩ := final
      obtain ⟨hphysical, hpending⟩ := h.holds.metadata metadata physical hm
      rw [hpending hnot, h.holds.collected (.inr hnot)]
      cases hcb : reg.hasAppCallback with
      | false =>
        rw [if_neg (fun hs ↦ by cases hs.2.2), if_neg Bool.false_ne_true]
        exact hnone
      | true =>
        obtain ⟨hne, hsome⟩ := hfinal _ hm hcb
        have horder₂ := horder (by rw [hm]; rfl) hcb
        rw [← hphysical] at hsome
        obtain ⟨q, hq, hcontent⟩ := hreg.sendCaptureResult hf hne hsome
          (s := s₂) (hnext _ ▸ horder₂)
        rw [if_pos ⟨rfl, rfl, rfl⟩, if_pos rfl, hq, hnone]
        refine ⟨q, rfl, ?_⟩
        rw [hcontent, ← hphysical]
        rfl

/-! ### The errors -/

theorem Waits.requestError {c : Config} {f : ℕ} {reg : Registration} {m : Received} {s : State}
    {r : InFlightRequest} (h : Waits c f reg m s r) (hf : reg.resultExtras.frameNumber = f)
    (errorCode : ErrorCode) :
    Settled c f reg { m with error := true, skip := true } (s.requestError c r f errorCode) := by
  unfold State.requestError
  refine Waits.remove ⟨{ h.holds with
    registered := { h.holds.registered with }
    skip := rfl
    strategy := fun hs ↦ ?_ }, h.delivered, h.queued⟩ hf
  dsimp only at hs
  split at hs <;> cases hs

theorem Done.next {c : Config} {f : ℕ} {reg : Registration} {m : Received} {s : State}
    (h : Done c f reg m s) {skip : Bool} (hskip : m.skip = true → skip = true) :
    Done c f reg { m with error := true, skip := skip } s :=
  ⟨⟨h.complete.1, h.complete.2.imp_left hskip⟩, h.delivered, nofun⟩

theorem Settled.notifyRequestError {c : Config} {f : ℕ} {reg : Registration} {m : Received}
    {s : State} (h : Settled c f reg m s) (hf : reg.resultExtras.frameNumber = f)
    (errorCode : ErrorCode) (error_stream : Option ErrorStream) :
    Settled c f reg { m with
        error := true
        skip := m.skip || (physicalError errorCode error_stream).isNone }
      (s.notifyRequestError c f errorCode error_stream) := by
  have hreport {m : Received} {t : State} (ht : Settled c f reg m t) (extras : CaptureResultExtras) :
      Settled c f reg m (t.report c errorCode extras error_stream) := by
    obtain ⟨notifications, heq⟩ := report_frame c t errorCode extras error_stream
    rw [heq]
    exact ht.congr rfl rfl rfl
  unfold State.notifyRequestError
  split
  · rename_i hlookup
    apply hreport
    unfold Settled at h ⊢
    rw [hlookup] at h ⊢
    exact h.next fun hs ↦ by rw [hs]; rfl
  · rename_i r hlookup
    unfold Settled at h
    rw [hlookup] at h
    obtain ⟨hwaits, hincomplete⟩ := h
    split
    · rename_i physicalCameraId hphysical
      rw [hphysical, Option.isNone_some, Bool.or_false]
      let reported (ids : List (List String)) : InFlightRequest :=
        { r with requestStatus := some errorCode, physicalCameraIds := ids }
      have hinsert (ids : List (List String)) : Settled c f reg { m with error := true }
          { s with inflightMap := s.inflightMap.insert f (reported ids) } := by
        unfold Settled
        rw [show AList.lookup f (s.inflightMap.insert f (reported ids)) = some (reported ids) from
          AList.lookup_insert _]
        exact ⟨⟨{ hwaits.holds with registered := { hwaits.holds.registered with } },
          hwaits.delivered, hwaits.queued⟩, hincomplete⟩
      dsimp only
      split
      · exact hinsert r.physicalCameraIds
      · exact hreport (hinsert _) _
    · rename_i hphysical
      rw [hphysical, Option.isNone_none, Bool.or_true]
      exact hreport (hwaits.requestError hf errorCode) _

/-! ### The results -/

/-- What holds of the messages themselves. -/
structure Coherent (c : Config) (reg : Registration) (m : Received) : Prop where
  skip : m.skip = true → m.error = true
  partials : c.usePartialResult = false → m.partials = []
  checked : ∀ final, m.final = some final → reg.hasAppCallback = true → final.1 ≠ [] ∧
    (finalResult c reg m.partials final).isSome

theorem numBuffersReturned_eq {reg : Registration} {r : InFlightRequest} (h : Registered reg r)
    (result : HalResult) :
    numBuffersReturned r result = result.output_buffers.length + Registration.inputs reg result := by
  rw [numBuffersReturned, Registration.inputs, h.hasInputBuffer]

theorem Holds.accepts {c : Config} {reg : Registration} {m : Received} {r : InFlightRequest}
    {result : HalResult} (h : Holds reg m r) (hmetadata : MetadataOk c r result)
    (honce : result.result.isSome → m.final = none)
    (hbuffers : (m.buffers.length + m.inputs + result.output_buffers.length +
      Registration.inputs reg result : ℕ) ≤ reg.numBuffers) : Accepts c r result where
  partialRange := hmetadata.partialRange
  partialPhysical := hmetadata.partialPhysical
  physicalCount := hmetadata.physicalCount
  once hfinal := by
    have hsome : result.result.isSome = true := (of_decide_eq_true hfinal).1
    rw [h.final, honce hsome]
    rfl
  physicalIds := hmetadata.physicalIds
  buffers := by
    rw [numBuffersReturned_eq h.registered, h.left]
    push_cast at hbuffers ⊢
    omega

theorem Holds.received {reg : Registration} {m : Received} {r : InFlightRequest}
    (h : Holds reg m r) (c : Config) (result : HalResult) (hreg : m.registration = some reg)
    (count : ℕ) (transform : ℤ) (ids : List (List String)) (timestamp : ℤ) :
    Counts reg (m.next c (.processCaptureResult result))
      (r.received c result count transform ids timestamp) where
  registered := { h.registered with }
  shutter := h.shutter
  final := by
    simp only [InFlightRequest.received, Received.next, h.final]
    cases result.isFinal c <;> simp
  left := by
    simp only [InFlightRequest.received, Received.next, h.left, hreg, Option.map_some,
      Option.getD_some, numBuffersReturned_eq h.registered, List.length_append]
    push_cast
    omega
  skip := h.skip
  strategy hs := by
    simp only [InFlightRequest.received] at hs
    cases hfinal : result.isFinal c with
    | true => simp [hfinal] at hs
    | false =>
      rw [hfinal, if_neg Bool.false_ne_true] at hs
      simpa only [Received.next, hfinal, Bool.false_eq_true, if_false] using h.strategy hs

/-- The entry that is not given the final metadata. -/
theorem Waits.notFinal {c : Config} {f : ℕ} {reg : Registration} {m : Received} {s t : State}
    {r : InFlightRequest} {result : HalResult} (h : Waits c f reg m s r)
    (hreg : m.registration = some reg) (honce : result.result.isSome → m.final = none)
    (hfinal : result.isFinal c = false) (count : ℕ) (transform : ℤ) (ids : List (List String))
    (timestamp : ℤ) {bs : List StreamBuffer}
    (hdelivered : t.deliveredFor f + items f bs =
      items f (m.next c (.processCaptureResult result)).buffers)
    (hfinals : t.finalsFor f = s.finalsFor f) :
    Waits c f reg (m.next c (.processCaptureResult result)) t
      { r.received c result count transform ids timestamp with pendingOutputBuffers := bs } := by
  have hcounts := h.holds.received c result hreg count transform ids timestamp
  have hsame : (m.next c (.processCaptureResult result)).final = m.final := by
    simp only [Received.next, hfinal, Bool.false_eq_true, if_false]
  have hpartials : result.isPartial c = true → m.final = none := by
    intro hpiece
    exact honce (of_decide_eq_true hpiece).2.1
  refine ⟨{ hcounts with
    registered := { hcounts.registered with }
    collected := fun hs ↦ ?_
    noMetadata := fun hs ↦ h.holds.noMetadata (hsame ▸ hs)
    metadata := fun metadata physical hm ↦ h.holds.metadata metadata physical (hsame ▸ hm) },
    hdelivered, ?_⟩
  · rw [hsame] at hs
    simp only [InFlightRequest.received, Received.next, hfinal, Bool.false_eq_true, false_and,
      if_false, h.holds.collected hs]
    split
    · rw [List.flatten_append, List.flatten_singleton]
    · rfl
  · have hqueued := h.queued
    unfold Queued at hqueued ⊢
    rw [hfinals, hsame,
      show (m.next c (.processCaptureResult result)).shutter = m.shutter from rfl]
    split
    · rename_i hs
      rw [if_pos hs] at hqueued
      have hnot : result.isPartial c = false := by
        by_contra hpiece
        rw [hpartials (Bool.not_eq_false _ ▸ hpiece)] at hs
        cases hs.1
      simpa only [Received.next, hnot, Bool.false_eq_true, if_false] using hqueued
    · rename_i hs
      rwa [if_neg hs] at hqueued

theorem Received.next_final {c : Config} {reg : Registration} {m : Received} {result : HalResult}
    (hreg : m.registration = some reg) {metadata : CameraMetadata}
    (hmetadata : result.result = some metadata) (hnot : result.isPartial c = false)
    (hfinal : result.isFinal c = true) :
    m.next c (.processCaptureResult result) = { m with
      final := some (metadata, result.physcam_metadata)
      buffers := m.buffers ++ result.output_buffers
      inputs := m.inputs + Registration.inputs reg result } := by
  simp only [Received.next, hnot, hfinal, hmetadata, hreg, Bool.false_eq_true, if_false, if_true,
    Option.getD_some, Option.map_some]

/-- With the final metadata all the partial results are sent. -/
theorem Holds.collected_final {c : Config} {reg : Registration} {m : Received}
    {r : InFlightRequest} {result : HalResult} (h : Holds reg m r) (hco : Coherent c reg m)
    (hnone : m.final = none) (hfinal : result.isFinal c = true) :
    (if result.isFinal c ∧ c.usePartialResult then r.collectedPartialResult else []) =
      m.partials.flatten := by
  rw [hfinal]
  cases huse : c.usePartialResult with
  | false =>
    rw [if_neg (by simp), hco.partials huse]
    rfl
  | true => rw [if_pos ⟨rfl, rfl⟩, h.collected (.inl hnone)]

/-- The entry that is given the final metadata: it is sent if the shutter has come. -/
theorem Waits.final {c : Config} {f : ℕ} {reg : Registration} {m : Received} {s t : State}
    {r : InFlightRequest} {result : HalResult} (h : Waits c f reg m s r)
    (hf : reg.resultExtras.frameNumber = f) (hframe : result.frame_number = f)
    (hreg : m.registration = some reg) (hco : Coherent c reg m) {metadata : CameraMetadata}
    (hmetadata : result.result = some metadata) (hnone : m.final = none)
    (hfinal : result.isFinal c = true) (count : ℕ) (transform : ℤ) (ids : List (List String))
    (timestamp : ℤ) {bs : List StreamBuffer}
    (hdelivered : t.deliveredFor f + items f bs =
      items f (m.next c (.processCaptureResult result)).buffers)
    (hfinals : t.finalsFor f = s.finalsFor f)
    (hchecked : reg.hasAppCallback → metadata ≠ [] ∧
      (finalResult c reg m.partials (metadata, result.physcam_metadata)).isSome)
    (horder : m.shutter → reg.hasAppCallback →
      t.nextResult (InFlightRequest.create reg).order ≤ f) :
    let r₁ := { r.received c result count transform ids timestamp with pendingOutputBuffers := bs }
    let delivered := t.deliverMetadata c r₁ result
      (if result.isFinal c ∧ c.usePartialResult then r.collectedPartialResult else [])
    Waits c f reg (m.next c (.processCaptureResult result)) delivered.1 delivered.2 := by
  intro r₁ delivered
  have hcounts :=
    h.holds.received c result hreg count transform ids timestamp
  have hnot : result.isPartial c = false := by
    simpa using (of_decide_eq_true hfinal).2
  have hqueue : t.finalsFor f = [] := by
    rw [hfinals]
    exact (queued_iff_nil (.inl hnone)).mp h.queued
  have hphysical : r₁.physicalMetadatas ++ result.physcam_metadata = result.physcam_metadata := by
    rw [show r₁.physicalMetadatas = [] from (h.holds.noMetadata hnone).2, List.nil_append]
  have hnext := Received.next_final hreg hmetadata hnot hfinal
  have hshutter : r₁.shutterTimestamp ≠ 0 ↔ m.shutter = true := h.holds.shutter
  dsimp only [delivered]
  rw [h.holds.collected_final hco hnone hfinal, State.deliverMetadata, hmetadata]
  dsimp only
  rw [hnot, if_neg Bool.false_ne_true, hphysical]
  rw [hnext] at hcounts hdelivered ⊢
  split
  · rename_i hzero
    have hno : m.shutter = false := by
      rw [← Bool.not_eq_true]
      exact fun hs ↦ hshutter.mpr hs hzero
    refine ⟨{ hcounts with
      registered := { hcounts.registered with }
      collected := fun _ ↦ rfl
      noMetadata := nofun
      metadata := ?_ }, hdelivered, ?_⟩
    · intro _ _ hcond
      obtain ⟨⟩ := hcond
      exact ⟨rfl, fun _ ↦ rfl⟩
    · apply (queued_iff_nil (.inr (.inl _))).mpr hqueue
      exact hno
  · rename_i hnonzero
    have hyes : m.shutter = true := hshutter.mp hnonzero
    have hcarries : Holds reg
        { m with
          final := some (metadata, result.physcam_metadata)
          buffers := m.buffers ++ result.output_buffers
          inputs := m.inputs + Registration.inputs reg result }
        { r₁ with physicalMetadatas := result.physcam_metadata } := by
      refine { hcounts with
        registered := { hcounts.registered with }
        collected := ?_
        noMetadata := nofun
        metadata := ?_ }
      · intro hcond
        obtain hs | hs := hcond
        · cases hs
        · rw [hyes] at hs
          cases hs
      · intro _ _ hcond
        obtain ⟨⟩ := hcond
        refine ⟨rfl, fun hs ↦ ?_⟩
        rw [hyes] at hs
        cases hs
    have hcallback : r₁.hasCallback = reg.hasAppCallback := hcounts.registered.hasCallback
    split
    · rename_i hyes'
      have hcb : reg.hasAppCallback = true := hcallback.symm.trans hyes'
      obtain ⟨hne, hsome⟩ := hchecked hcb
      obtain ⟨q, hq, hcontent⟩ := hcarries.registered.sendCaptureResult hf hne hsome
        (horder hyes hcb)
      obtain ⟨qs, n₁, n₂, n₃, e, heq, -⟩ := sendCaptureResult_frame c t
        { r₁ with physicalMetadatas := result.physcam_metadata } metadata m.partials.flatten f
      rw [hframe]
      refine ⟨hcarries, ?_, ?_⟩
      · dsimp only
        rw [heq]
        exact hdelivered
      · rw [Queued, if_pos ⟨rfl, hyes, hcb⟩]
        refine ⟨q, hq.trans ?_, hcontent⟩
        rw [hqueue, List.nil_append]
    · rename_i hno
      refine ⟨hcarries, hdelivered, (queued_iff_nil (.inr (.inr ?_))).mpr hqueue⟩
      rwa [Bool.not_eq_true, hcallback] at hno

/-- A result for the frame, whose entry is in the map. -/
theorem Waits.processCaptureResult {c : Config} {f : ℕ} {reg : Registration} {m : Received}
    {s : State} {r : InFlightRequest} {result : HalResult} (h : Waits c f reg m s r)
    (hf : reg.resultExtras.frameNumber = f) (hframe : result.frame_number = f)
    (hlookup : s.inflightMap.lookup f = some r) (hreg : m.registration = some reg)
    (hco : Coherent c reg m) (hallowed : ResultAllowed c s m f reg result) :
    Settled c f reg (m.next c (.processCaptureResult result)) (s.processCaptureResult c result) := by
  obtain ⟨hdata, hpiece, honce, hbuffers, hmetadata, hchecked, horder⟩ := hallowed
  have haccepts := h.holds.accepts (hmetadata r hlookup) honce hbuffers
  obtain ⟨count, transform, ids, timestamp, qs, e, hqs, heq⟩ := receive_of_accepts s haccepts
  let s' : State := { s with resultQueue := s.resultQueue ++ qs, inError := e }
  let r' := r.received c result count transform ids timestamp
  let collected := if result.isFinal c ∧ c.usePartialResult then r.collectedPartialResult else []
  have hprocess : s.processCaptureResult c result =
      (s'.deliverResult c r' result collected).returnInput r.hasInputBuffer result := by
    rw [State.processCaptureResult, if_neg hdata, if_neg hpiece, hframe, hlookup]
    exact heq
  have hreturn {m : Received} {t : State} (ht : Settled c f reg m t) :
      Settled c f reg m (t.returnInput r.hasInputBuffer result) := by
    unfold State.returnInput
    split
    · exact ht
    · split
      · exact ht.congr rfl rfl rfl
      · exact ht
  rw [hprocess]
  apply hreturn
  obtain ⟨bs, hr₁, -, hbalance⟩ := returnAfterShutter_spec c r' s'.outputs
  let o := (r'.returnAfterShutter c s'.outputs).2
  let r₁ : InFlightRequest := { r' with pendingOutputBuffers := bs }
  have hfinals : { s' with outputs := o }.finalsFor f = s.finalsFor f :=
    filter_finals_append fun q hq hfinal ↦ absurd (hqs q hq) (by rw [hfinal]; decide)
  have hdelivered : { s' with outputs := o }.deliveredFor f + items f bs =
      items f (m.next c (.processCaptureResult result)).buffers := by
    have hframe' : r'.resultExtras.frameNumber = f := h.holds.registered.frameNumber.trans hf
    rw [hframe'] at hbalance
    refine (filter_delivered hbalance).trans ?_
    change s.deliveredFor f + items f (r.pendingOutputBuffers ++ result.output_buffers) =
      items f (m.buffers ++ result.output_buffers)
    rw [items_append, items_append, ← h.delivered, add_assoc]
  unfold State.deliverResult
  rw [show r'.returnAfterShutter c s'.outputs = (r₁, o) from Prod.ext hr₁ rfl]
  dsimp only
  rw [hframe]
  cases hfinal : result.isFinal c with
  | false =>
    have hsame : State.deliverMetadata c { s' with outputs := o } r₁ result collected =
        ({ s' with outputs := o }, r₁) := by
      unfold State.deliverMetadata
      split
      · rfl
      · rename_i metadata hresult
        have hyes : result.isPartial c = true := by
          by_contra hno
          have hf' : result.isFinal c = true := decide_eq_true ⟨by rw [hresult]; rfl, hno⟩
          rw [hfinal] at hf'
          cases hf'
        rw [if_pos hyes]
    rw [hsame]
    exact (h.notFinal hreg honce hfinal count transform ids timestamp hdelivered hfinals).remove hf
  | true =>
    obtain ⟨metadata, hresult⟩ := Option.isSome_iff_exists.mp (of_decide_eq_true hfinal).1
    rw [hresult] at hchecked
    have hmem : f ∈ s.inflightMap := AList.lookup_isSome.mp (Option.isSome_of_eq_some hlookup)
    have hwaits := h.final hf hframe hreg hco hresult (honce (by rw [hresult]; rfl)) hfinal count
      transform ids timestamp hdelivered hfinals (hchecked hfinal) (horder hmem hfinal)
    exact hwaits.remove hf

/-! ### The messages of the frame -/

theorem Coherent.result {c : Config} {s : State} {f : ℕ} {reg : Registration} {m : Received}
    {result : HalResult} (h : Coherent c reg m) (hallowed : ResultAllowed c s m f reg result) :
    Coherent c reg (m.next c (.processCaptureResult result)) := by
  obtain ⟨-, -, honce, -, -, hchecked, -⟩ := hallowed
  refine ⟨h.skip, fun huse ↦ ?_, fun final hfinal hcb ↦ ?_⟩
  · have hnot : result.isPartial c = false := decide_eq_false fun hp ↦ by
      rw [huse] at hp
      cases hp.1
    simp only [Received.next, hnot, Bool.false_eq_true, if_false, h.partials huse]
  · cases hyes : result.isFinal c with
    | true =>
      have hnot : result.isPartial c = false := by simpa using (of_decide_eq_true hyes).2
      simp only [Received.next, hyes, hnot, if_true, Bool.false_eq_true, if_false] at hfinal ⊢
      obtain rfl := Option.some.inj hfinal
      exact hchecked hyes hcb
    | false =>
      simp only [Received.next, hyes, Bool.false_eq_true, if_false] at hfinal ⊢
      have hnot : result.isPartial c = false := by
        by_contra hp
        rw [honce (of_decide_eq_true (Bool.not_eq_false _ ▸ hp)).2.1] at hfinal
        cases hfinal
      simp only [hnot, Bool.false_eq_true, if_false]
      exact h.checked final hfinal hcb

theorem Done.shutterCame {c : Config} {f : ℕ} {reg : Registration} {m : Received} {s : State}
    (h : Done c f reg m s) (hco : Coherent c reg m) (herror : m.error = false) :
    m.final.isSome ∧ m.shutter := by
  rcases h.complete.2 with hskip | hboth
  · rw [hco.skip hskip] at herror
    cases herror
  · exact hboth

theorem Settled.notifyShutter {c : Config} {f : ℕ} {reg : Registration} {m : Received} {s : State}
    (h : Settled c f reg m s) (hf : reg.resultExtras.frameNumber = f) (hco : Coherent c reg m)
    {timestamp : ℤ} (hallowed : ShutterAllowed s m f reg timestamp) :
    Settled c f reg { m with shutter := true } (s.notifyShutter c f timestamp) := by
  obtain ⟨htimestamp, hnot, horder⟩ := hallowed
  unfold State.notifyShutter
  split
  · rename_i hlookup
    unfold Settled at h ⊢
    rw [hlookup] at h
    rw [show s.setErr.inflightMap.lookup f = none from hlookup]
    refine ⟨h.complete.shutter, h.delivered, fun herror ↦ ?_⟩
    have hcame := (h.shutterCame hco herror).2
    rw [hnot] at hcame
    cases hcame
  · rename_i r hlookup
    have hmem : f ∈ s.inflightMap := AList.lookup_isSome.mp (Option.isSome_of_eq_some hlookup)
    unfold Settled at h
    rw [hlookup] at h
    obtain ⟨hwaits, -⟩ := h
    obtain ⟨hnext, hresult⟩ := horder hmem
    rw [hwaits.holds.registered.order, if_neg (by omega)]
    exact hwaits.shutter hf hco.checked hnot htimestamp hresult

theorem Settled.processCaptureResult {c : Config} {f : ℕ} {reg : Registration} {m : Received}
    {s : State} {result : HalResult} (h : Settled c f reg m s)
    (hf : reg.resultExtras.frameNumber = f) (hframe : result.frame_number = f)
    (hreg : m.registration = some reg) (hco : Coherent c reg m)
    (hallowed : ResultAllowed c s m f reg result) :
    Settled c f reg (m.next c (.processCaptureResult result)) (s.processCaptureResult c result) := by
  cases hlookup : s.inflightMap.lookup f with
  | some r =>
    unfold Settled at h
    rw [hlookup] at h
    exact h.1.processCaptureResult hf hframe hlookup hreg hco hallowed
  | none =>
    obtain ⟨hdata, hpiece, honce, hbuffers, -⟩ := hallowed
    have hprocess : s.processCaptureResult c result = s.setErr := by
      rw [State.processCaptureResult, if_neg hdata, if_neg hpiece, hframe, hlookup]
    rw [hprocess]
    unfold Settled at h ⊢
    rw [hlookup] at h
    rw [show s.setErr.inflightMap.lookup f = none from hlookup]
    -- no buffer is left for the result to bring
    have hcount := h.complete.1
    have houtputs : result.output_buffers = [] := List.length_eq_zero_iff.mp (by omega)
    have hinputs : Registration.inputs reg result = 0 := by omega
    have hnext : (m.next c (.processCaptureResult result)).buffers = m.buffers := by
      simp only [Received.next, houtputs, List.append_nil]
    refine ⟨⟨?_, ?_⟩, ?_, fun herror ↦ ?_⟩
    · simp only [Received.next, houtputs, hreg, Option.map_some, Option.getD_some, hinputs,
        List.append_nil, add_zero]
      exact hcount
    · refine h.complete.2.imp_right fun hs ↦ ⟨?_, hs.2⟩
      simp only [Received.next]
      split
      · rfl
      · exact hs.1
    · rw [hnext]
      exact h.delivered
    · have hfinal := (h.shutterCame hco herror).1
      have hno : result.result = none := by
        by_contra hsome
        rw [honce (Option.isSome_iff_ne_none.mpr hsome)] at hfinal
        cases hfinal
      have hqueued := h.queued herror
      have hsame : (m.next c (.processCaptureResult result)).final = m.final ∧
          (m.next c (.processCaptureResult result)).partials = m.partials := by
        simp [Received.next, HalResult.isPartial, HalResult.isFinal, hno]
      unfold Queued at hqueued ⊢
      rw [hsame.1, hsame.2]
      exact hqueued

/-! ### The run -/

/-- What holds in every state that is reached. -/
structure Inv (c : Config) (f : ℕ) (w : Watched) : Prop where
  named : Named w.state
  fresh : w.received.registration = none → w.received = Received.create ∧
    w.state.inflightMap.lookup f = none ∧ w.state.deliveredFor f = 0 ∧ w.state.finalsFor f = []
  settled : ∀ reg, w.received.registration = some reg → reg.resultExtras.frameNumber = f ∧
    Coherent c reg w.received ∧ Settled c f reg w.received w.state

theorem Inv.create (c : Config) (f : ℕ) : Inv c f Watched.create := by
  refine ⟨fun k r hr ↦ ?_, fun _ ↦ ⟨rfl, AList.lookup_empty f, rfl, rfl⟩, fun reg hreg ↦ ?_⟩
  · cases (AList.lookup_empty k).symm.trans hr
  · cases hreg

theorem arrive_touches (c : Config) {s : State} (hs : Named s) (message : Message) :
    Touches message.frameNumber s (message.arrive c s) := by
  cases message with
  | registerInFlight r => exact insert_touches rfl
  | notifyShutter frame_number timestamp => exact notifyShutter_touches c hs frame_number timestamp
  | notifyError frame_number errorCode error_stream =>
    exact notifyError_touches c hs frame_number errorCode error_stream
  | processCaptureResult result => exact processCaptureResult_touches c hs result

theorem Inv.other {c : Config} {f : ℕ} {w : Watched} (h : Inv c f w) {message : Message}
    (hframe : message.frameNumber ≠ f) : Inv c f ⟨message.arrive c w.state, w.received⟩ := by
  have htouches := arrive_touches c h.named message
  refine ⟨htouches.named h.named, fun hnone ↦ ?_, fun reg hreg ↦ ?_⟩
  · obtain ⟨hcreate, hlookup, hdelivered, hfinals⟩ := h.fresh hnone
    exact ⟨hcreate, (htouches.lookup f hframe.symm).trans hlookup,
      (htouches.delivered f hframe.symm).trans hdelivered,
      (htouches.finals f hframe.symm).trans hfinals⟩
  · obtain ⟨hf, hco, hsettled⟩ := h.settled reg hreg
    exact ⟨hf, hco, hsettled.congr (htouches.lookup f hframe.symm)
      (htouches.delivered f hframe.symm) (htouches.finals f hframe.symm)⟩

theorem Inv.register {c : Config} {f : ℕ} {w : Watched} (h : Inv c f w) {r : Registration}
    (hframe : r.resultExtras.frameNumber = f) (hnone : w.received.registration = none) :
    Settled c f r { w.received with registration := some r } (w.state.registerInFlight r) := by
  obtain ⟨hcreate, -, hdelivered, hfinals⟩ := h.fresh hnone
  unfold Settled State.registerInFlight
  rw [hframe, show AList.lookup f (w.state.inflightMap.insert f (InFlightRequest.create r)) =
    some (InFlightRequest.create r) from AList.lookup_insert _, hcreate]
  refine ⟨⟨?_, ?_, ?_⟩, ?_⟩
  · exact ⟨⟨⟨rfl, rfl, rfl, rfl, rfl, rfl, rfl, rfl⟩, by simp [InFlightRequest.create,
      Received.create], rfl, by simp [InFlightRequest.create, Received.create], rfl,
      fun _ ↦ ⟨rfl, rfl⟩⟩, ⟨fun _ ↦ rfl, fun _ ↦ ⟨rfl, rfl⟩, nofun⟩⟩
  · exact (congrArg (· + items f []) hdelivered).trans (zero_add _)
  · apply (queued_iff_nil (.inl _)).mpr hfinals
    rfl
  · intro hcond
    obtain ⟨-, hskip | hfinal⟩ := hcond
    · cases hskip
    · cases hfinal.1

theorem Settled.notifyError {c : Config} {f : ℕ} {reg : Registration} {m : Received} {s : State}
    (h : Settled c f reg m s) (hf : reg.resultExtras.frameNumber = f)
    (errorCode : Option ErrorCode) (error_stream : Option ErrorStream) :
    Settled c f reg (m.next c (.notifyError f errorCode error_stream))
      (s.notifyError c f errorCode error_stream) := by
  cases errorCode with
  | none => exact h.congr rfl rfl rfl
  | some code =>
    cases code with
    | ERROR_CAMERA_DEVICE => exact h.congr rfl rfl rfl
    | ERROR_CAMERA_BUFFER => exact h
    | ERROR_CAMERA_REQUEST => exact h.notifyRequestError hf _ error_stream
    | ERROR_CAMERA_RESULT => exact h.notifyRequestError hf _ error_stream

/-- A message that is allowed. -/
theorem Inv.step {c : Config} {f : ℕ} {w w' : Watched} {message : Message}
    (hstep : restrict (Step c f) (Regular c f) w message w') (h : Inv c f w) : Inv c f w' := by
  obtain ⟨hnext, hregular⟩ := hstep
  obtain rfl := Option.some.inj hnext
  by_cases hframe : message.frameNumber = f
  swap
  · rw [if_neg hframe]
    exact h.other hframe
  rw [if_pos hframe]
  have hallowed := hregular hframe
  have hnamed := (arrive_touches c h.named message).named h.named
  cases message with
  | registerInFlight r =>
    have hnone : w.received.registration = none := hallowed
    refine ⟨hnamed, nofun, ?_⟩
    intro _ hcond
    obtain ⟨⟩ := hcond
    refine ⟨hframe, ?_, h.register hframe hnone⟩
    rw [(h.fresh hnone).1]
    exact ⟨nofun, fun _ ↦ rfl, nofun⟩
  | notifyShutter k timestamp =>
    obtain rfl : k = f := hframe
    obtain ⟨reg, hreg, hshutter⟩ := hallowed
    obtain ⟨hf, hco, hsettled⟩ := h.settled reg hreg
    have hreg' : w.received.registration = some reg := hreg
    refine ⟨hnamed, fun hnone ↦ ?_, fun reg' hreg'' ↦ ?_⟩
    · cases hreg'.symm.trans hnone
    · obtain rfl := Option.some.inj (hreg'.symm.trans hreg'')
      exact ⟨hf, { hco with }, hsettled.notifyShutter hf hco hshutter⟩
  | notifyError k errorCode error_stream =>
    obtain rfl : k = f := hframe
    have hsame : (w.received.next c (.notifyError k errorCode error_stream)).registration =
        w.received.registration := by
      unfold Received.next
      dsimp only
      split <;> rfl
    refine ⟨hnamed, fun hnone ↦ ?_, fun reg hreg ↦ ?_⟩
    · have hnone' : w.received.registration = none := hsame.symm.trans hnone
      obtain ⟨hcreate, hempty⟩ := h.fresh hnone'
      cases hconcerns : concernsRequest errorCode with
      | true =>
        have hsome := (hallowed hconcerns).1
        rw [hnone'] at hsome
        cases hsome
      | false =>
        have hnext : w.received.next c (.notifyError k errorCode error_stream) = w.received := by
          rw [Received.next, hconcerns]
          rfl
        refine ⟨hnext.trans hcreate, ?_⟩
        cases errorCode with
        | none => exact hempty
        | some code =>
          cases code with
          | ERROR_CAMERA_DEVICE => exact hempty
          | ERROR_CAMERA_BUFFER => exact hempty
          | ERROR_CAMERA_REQUEST => exact absurd hconcerns (by decide)
          | ERROR_CAMERA_RESULT => exact absurd hconcerns (by decide)
    · obtain ⟨hf, hco, hsettled⟩ := h.settled reg (hsame ▸ hreg)
      refine ⟨hf, ?_, hsettled.notifyError hf errorCode error_stream⟩
      unfold Received.next
      dsimp only
      split
      · exact { hco with skip := fun _ ↦ rfl }
      · exact hco
  | processCaptureResult result =>
    obtain ⟨reg, hreg, hresult⟩ := hallowed
    obtain ⟨hf, hco, hsettled⟩ := h.settled reg hreg
    have hreg' : w.received.registration = some reg := hreg
    refine ⟨hnamed, fun hnone ↦ ?_, fun reg' hreg'' ↦ ?_⟩
    · cases hreg'.symm.trans hnone
    · obtain rfl := Option.some.inj (hreg'.symm.trans hreg'')
      exact ⟨hf, hco.result hresult,
        hsettled.processCaptureResult hf hframe hreg' hco hresult⟩

/-- Every request completes when all has come: its entry leaves the map then and not before, its
output buffers have gone to their streams once each, and its final result has been queued once,
with metadata that depends on the registration and the metadata that came, not on the order. -/
theorem completes {c : Config} {f : ℕ} {w : Watched}
    (h : Reachable (restrict (Step c f) (Regular c f)) Watched.create w) {reg : Registration}
    (hreg : w.received.registration = some reg) :
    (f ∉ w.state.inflightMap ↔ w.received.Complete reg) ∧
      (f ∉ w.state.inflightMap →
        w.state.deliveredFor f = items f w.received.buffers ∧
        (w.received.error = false → reg.hasAppCallback →
          ∃ q, w.state.finalsFor f = [q] ∧ some (content q.result) =
            w.received.final.bind (finalResult c reg w.received.partials))) := by
  have hinv : Inv c f w := h.invariant (fun _ _ _ hs hi ↦ hi.step hs) (Inv.create c f)
  obtain ⟨hf, hco, hsettled⟩ := hinv.settled reg hreg
  unfold Settled at hsettled
  cases hlookup : w.state.inflightMap.lookup f with
  | some r =>
    rw [hlookup] at hsettled
    have hmem : f ∈ w.state.inflightMap := AList.lookup_isSome.mp (Option.isSome_of_eq_some hlookup)
    exact ⟨iff_of_false (not_not.mpr hmem) hsettled.2, fun hno ↦ absurd hmem hno⟩
  | none =>
    rw [hlookup] at hsettled
    have hno : f ∉ w.state.inflightMap := AList.lookup_eq_none.mp hlookup
    refine ⟨iff_of_true hno hsettled.complete, fun _ ↦ ⟨hsettled.delivered, fun herror hcb ↦ ?_⟩⟩
    have hqueued := hsettled.queued herror
    obtain ⟨hfinal, hshutter⟩ := hsettled.shutterCame hco herror
    rwa [Queued, if_pos ⟨hfinal, hshutter, hcb⟩] at hqueued

/-- A partial result, the output buffer as an error, the final metadata, and last the shutter. -/
def shutterLast : List Message :=
  [.registerInFlight (.plain 0),
    .processCaptureResult ⟨0, some [(5, [1])], [], none, 1, []⟩,
    .processCaptureResult ⟨0, none, [⟨0, some 7, .ERROR, none⟩], none, 0, []⟩,
    .processCaptureResult ⟨0, some [(ANDROID_SENSOR_TIMESTAMP, [100])], [], none, 2, []⟩,
    .notifyShutter 0 100]

theorem completes_shutterLast :
    ∃ w, Reachable (restrict (Step .plain 0) (Regular .plain 0)) Watched.create w ∧
      0 ∉ w.state.inflightMap ∧ w.state.deliveredFor 0 = {⟨0, 0, 7, .ERROR⟩} ∧
      ∃ q, w.state.finalsFor 0 = [q] := by
  have hexec : (exec (guarded (Watched.step .plain 0) (Regular .plain 0)) Watched.create
      shutterLast).map Watched.received =
        some ⟨some (.plain 0), true, [[(5, [1])]], some ([(ANDROID_SENSOR_TIMESTAMP, [100])], []),
          [⟨0, some 7, .ERROR, none⟩], 0, false, false⟩ := by
    decide +kernel
  obtain ⟨w, hw, hreceived⟩ := Option.map_eq_some_iff.mp hexec
  have hreach : Reachable (restrict (Step .plain 0) (Regular .plain 0)) Watched.create w :=
    ⟨_, run_restrict_of_exec hw⟩
  obtain ⟨hleft, hdone⟩ := completes hreach (by rw [hreceived])
  rw [hreceived] at hleft hdone
  have hgone := hleft.mpr ⟨rfl, .inr ⟨rfl, rfl⟩⟩
  obtain ⟨hdelivered, hqueued⟩ := hdone hgone
  obtain ⟨q, hq, -⟩ := hqueued rfl rfl
  exact ⟨w, hreach, hgone, hdelivered, q, hq⟩

end VirtualCamera.CameraService.Completion
