import Mathlib.Tactic.Abel
import VirtualCamera.CameraService.Buffers

namespace VirtualCamera.CameraService.InFlight

open Library Assoc

/-! ### What the parts of the functions leave alone -/

theorem sendPartialCaptureResult_frame (c : Config) (s : State) (partialResult : CameraMetadata)
    (extras : CaptureResultExtras) (frameNumber : ℕ) :
    ∃ qs e, s.sendPartialCaptureResult c partialResult extras frameNumber =
      { s with resultQueue := s.resultQueue ++ qs, inError := e } ∧ ∀ q ∈ qs, q.final = false := by
  unfold State.sendPartialCaptureResult
  split
  · exact ⟨[], true, by rw [List.append_nil]; rfl, nofun⟩
  · dsimp only
    split
    · exact ⟨[], s.inError, by rw [List.append_nil], nofun⟩
    · refine ⟨_, s.inError, rfl, ?_⟩
      simp

theorem sendPartial_frame (c : Config) (s : State) (r : InFlightRequest) (result : HalResult) :
    ∃ qs e, s.sendPartial c r result =
      { s with resultQueue := s.resultQueue ++ qs, inError := e } ∧ ∀ q ∈ qs, q.final = false := by
  unfold State.sendPartial
  split
  · exact sendPartialCaptureResult_frame c s _ _ _
  · exact ⟨[], s.inError, by rw [List.append_nil], nofun⟩

theorem sendCaptureResult_frame (c : Config) (s : State) (r : InFlightRequest)
    (pendingMetadata collected : CameraMetadata) (frameNumber : ℕ) :
    ∃ qs n₁ n₂ n₃ e, s.sendCaptureResult c r pendingMetadata collected frameNumber =
      { s with
        resultQueue := s.resultQueue ++ qs
        nextResultFrameNum := n₁
        nextReprocResultFrameNum := n₂
        nextZslResultFrameNum := n₃
        inError := e } ∧
      ∀ q ∈ qs, q.result.mResultExtras = r.resultExtras := by
  unfold State.sendCaptureResult
  split
  · refine ⟨[], ?_⟩
    rw [List.append_nil]
    exact ⟨_, _, _, _, rfl, nofun⟩
  · split
    · refine ⟨[], ?_⟩
      rw [List.append_nil]
      exact ⟨_, _, _, _, rfl, nofun⟩
    · dsimp only
      split
      · refine ⟨[], ?_⟩
        rw [List.append_nil]
        cases r.order <;> exact ⟨_, _, _, _, rfl, nofun⟩
      · cases r.order <;> exact ⟨_, _, _, _, _, rfl, by simp [CaptureResult.stamp]⟩

theorem deliverMetadata_frame (c : Config) (s : State) (r : InFlightRequest) (result : HalResult)
    (collected : CameraMetadata) :
    ∃ qs n₁ n₂ n₃ e metadata collected' physical, s.deliverMetadata c r result collected =
      ({ s with
        resultQueue := s.resultQueue ++ qs
        nextResultFrameNum := n₁
        nextReprocResultFrameNum := n₂
        nextZslResultFrameNum := n₃
        inError := e },
      { r with
        pendingMetadata := metadata
        collectedPartialResult := collected'
        physicalMetadatas := physical }) ∧
      ∀ q ∈ qs, q.result.mResultExtras = r.resultExtras := by
  unfold State.deliverMetadata
  split
  · refine ⟨[], ?_⟩
    rw [List.append_nil]
    exact ⟨_, _, _, _, _, _, _, rfl, nofun⟩
  · split
    · refine ⟨[], ?_⟩
      rw [List.append_nil]
      exact ⟨_, _, _, _, _, _, _, rfl, nofun⟩
    · dsimp only
      split
      · refine ⟨[], ?_⟩
        rw [List.append_nil]
        exact ⟨_, _, _, _, _, _, _, rfl, nofun⟩
      · split
        · obtain ⟨qs, n₁, n₂, n₃, e, h, hqs⟩ := sendCaptureResult_frame c s
            { r with physicalMetadatas := r.physicalMetadatas ++ result.physcam_metadata } _
            collected result.frame_number
          rw [h]
          exact ⟨qs, _, _, _, _, _, _, _, rfl, hqs⟩
        · refine ⟨[], ?_⟩
          rw [List.append_nil]
          exact ⟨_, _, _, _, _, _, _, rfl, nofun⟩

/-! ### Returning the buffers of an entry -/

/-- The buffers of the entry that its strategy keeps back. -/
def InFlightRequest.keptBack (r : InFlightRequest) : List StreamBuffer :=
  r.pendingOutputBuffers.filter fun b ↦ !r.errorBufStrategy.returns b

theorem returnAndRemovePendingOutputBuffers_spec (c : Config) (r : InFlightRequest) (o : Outputs) :
    (r.returnAndRemovePendingOutputBuffers c o).1 = { r with pendingOutputBuffers := r.keptBack } ∧
      (r.returnAndRemovePendingOutputBuffers c o).2.delivered +
          items r.resultExtras.frameNumber r.keptBack =
        o.delivered + items r.resultExtras.frameNumber r.pendingOutputBuffers := by
  refine ⟨rfl, ?_⟩
  unfold InFlightRequest.returnAndRemovePendingOutputBuffers
  rw [delivered_returnOutputBuffers, add_assoc, InFlightRequest.keptBack, items_filter_add]

theorem returnAfterShutter_spec (c : Config) (r : InFlightRequest) (o : Outputs) :
    ∃ bs, (r.returnAfterShutter c o).1 = { r with pendingOutputBuffers := bs } ∧
      { r with pendingOutputBuffers := bs }.keptBack = r.keptBack ∧
      (r.returnAfterShutter c o).2.delivered + items r.resultExtras.frameNumber bs =
        o.delivered + items r.resultExtras.frameNumber r.pendingOutputBuffers := by
  unfold InFlightRequest.returnAfterShutter
  split
  · obtain ⟨heq, hdelivered⟩ := returnAndRemovePendingOutputBuffers_spec c r o
    refine ⟨r.keptBack, heq, ?_, hdelivered⟩
    simp only [InFlightRequest.keptBack, List.filter_filter, Bool.and_self]
  · exact ⟨r.pendingOutputBuffers, rfl, rfl, rfl⟩

theorem removeInFlightRequestIfReadyLocked_of_not_ready (c : Config) (s : State) (frameNumber : ℕ)
    {r : InFlightRequest} (h : r.ready = false) :
    s.removeInFlightRequestIfReadyLocked c frameNumber r =
      { s with inflightMap := s.inflightMap.insert frameNumber r } := by
  rw [State.removeInFlightRequestIfReadyLocked, h]
  rfl

/-- The entry goes with the buffers that it keeps back. -/
theorem removeInFlightRequestIfReadyLocked_of_ready (c : Config) (s : State) (frameNumber : ℕ)
    {r : InFlightRequest} (h : r.ready = true) :
    ∃ outputs n₁ n₂ n₃ e, s.removeInFlightRequestIfReadyLocked c frameNumber r =
        { s with
          inflightMap := s.inflightMap.erase frameNumber
          outputs := outputs
          lastCompletedRegularFrameNumber := n₁
          lastCompletedReprocessFrameNumber := n₂
          lastCompletedZslFrameNumber := n₃
          inError := e } ∧
      outputs.delivered + items r.resultExtras.frameNumber r.keptBack =
        s.outputs.delivered + items r.resultExtras.frameNumber r.pendingOutputBuffers := by
  rw [State.removeInFlightRequestIfReadyLocked, h]
  have hdelivered (o : Outputs) :
      (o.returnOutputBuffers c r.pendingOutputBuffers 0 r.outputSurfaces r.resultExtras
          r.errorBufStrategy r.transform).delivered + items r.resultExtras.frameNumber r.keptBack =
        o.delivered + items r.resultExtras.frameNumber r.pendingOutputBuffers := by
    rw [delivered_returnOutputBuffers, add_assoc, InFlightRequest.keptBack, items_filter_add]
  rw [if_pos rfl]
  unfold State.setLastCompleted State.setErr
  split_ifs <;> exact ⟨_, _, _, _, _, rfl, hdelivered _⟩

/-! ### Delivering a result -/

/-- The end of a request takes what the entry keeps back along. -/
theorem sent_removeInFlightRequestIfReadyLocked (c : Config) (s : State) (frameNumber : ℕ)
    (r : InFlightRequest) :
    let t := s.removeInFlightRequestIfReadyLocked c frameNumber r
    t.sent + pending t.inflightMap + handles (if r.ready then r.keptBack else []) =
        s.sent + handles r.pendingOutputBuffers + pending (s.inflightMap.erase frameNumber) ∧
      t.recorded = s.recorded := by
  dsimp only
  cases h : r.ready with
  | false =>
    rw [removeInFlightRequestIfReadyLocked_of_not_ready c s frameNumber h]
    refine ⟨?_, rfl⟩
    rw [pending_insert, if_neg Bool.false_ne_true, handles_nil, add_zero, add_assoc]
    rfl
  | true =>
    obtain ⟨outputs, n₁, n₂, n₃, e, heq, hdelivered⟩ :=
      removeInFlightRequestIfReadyLocked_of_ready c s frameNumber h
    rw [heq]
    refine ⟨?_, rfl⟩
    have hsent := congrArg (Multiset.map Item.handle) hdelivered
    rw [Multiset.map_add, Multiset.map_add, map_items, map_items] at hsent
    have hs : s.sent = s.outputs.sent + ↑s.returnedInputs := rfl
    rw [if_pos rfl, hs, State.sent, Outputs.sent]
    calc outputs.delivered.map Item.handle + ↑s.returnedInputs +
          pending (s.inflightMap.erase frameNumber) + handles r.keptBack
        = outputs.delivered.map Item.handle + handles r.keptBack + ↑s.returnedInputs +
            pending (s.inflightMap.erase frameNumber) := by abel
      _ = s.outputs.sent + ↑s.returnedInputs + handles r.pendingOutputBuffers +
            pending (s.inflightMap.erase frameNumber) := by
        rw [hsent, Outputs.sent]
        abel

/-- What a result that is delivered does: its buffers go to their streams or wait in the entry,
but those that the entry keeps back go with it when it is ready. -/
theorem sent_deliverResult (c : Config) (s : State) (r : InFlightRequest) (result : HalResult)
    (collected : CameraMetadata) :
    let t := s.deliverResult c r result collected
    t.sent + pending t.inflightMap + handles (if r.ready then r.keptBack else []) =
        s.sent + handles r.pendingOutputBuffers + pending (s.inflightMap.erase result.frame_number) ∧
      t.recorded = s.recorded := by
  obtain ⟨bs, hr, hkept, hdelivered⟩ := returnAfterShutter_spec c r s.outputs
  have hsent := congrArg (Multiset.map Item.handle) hdelivered
  rw [Multiset.map_add, Multiset.map_add, map_items, map_items] at hsent
  let o := (r.returnAfterShutter c s.outputs).2
  let r' : InFlightRequest := { r with pendingOutputBuffers := bs }
  obtain ⟨qs, n₁, n₂, n₃, e, metadata, collected', physical, hmetadata, -⟩ :=
    deliverMetadata_frame c { s with outputs := o } r' result collected
  dsimp only
  unfold State.deliverResult
  rw [show r.returnAfterShutter c s.outputs = (r', o) from Prod.ext hr rfl]
  dsimp only
  rw [hmetadata]
  obtain ⟨hremove, hrecorded⟩ := sent_removeInFlightRequestIfReadyLocked c
    { s with
      outputs := o
      resultQueue := s.resultQueue ++ qs
      nextResultFrameNum := n₁
      nextReprocResultFrameNum := n₂
      nextZslResultFrameNum := n₃
      inError := e } result.frame_number
    { r' with
      pendingMetadata := metadata
      collectedPartialResult := collected'
      physicalMetadatas := physical }
  refine ⟨?_, hrecorded⟩
  rw [← hkept]
  refine hremove.trans ?_
  have hs : s.sent = s.outputs.sent + ↑s.returnedInputs := rfl
  rw [hs, add_right_comm s.outputs.sent, Outputs.sent, ← hsent]
  exact congrArg (· + pending (s.inflightMap.erase result.frame_number)) (add_right_comm _ _ _)

/-! ### The checks of a result -/

/-- The result carries the final metadata. -/
def HalResult.isFinal (c : Config) (result : HalResult) : Bool :=
  result.result.isSome ∧ ¬ result.isPartial c

/-- The checks that a result passes when it is not dropped. -/
structure Accepts (c : Config) (r : InFlightRequest) (result : HalResult) : Prop where
  partialRange : c.usePartialResult → result.result.isSome →
    1 ≤ result.partial_result ∧ result.partial_result ≤ c.numPartialResults
  partialPhysical : result.isPartial c → result.physcam_metadata = []
  physicalCount : result.isFinal c → r.physicalCameraIds.length = result.physcam_metadata.length
  once : result.isFinal c → r.haveResultMetadata = false
  physicalIds : result.isFinal c → (receivePhysical r result.physcam_metadata).isOk
  buffers : numBuffersReturned r result ≤ r.numBuffersLeft

instance (c : Config) (r : InFlightRequest) (result : HalResult) : Decidable (Accepts c r result) :=
  decidable_of_iff
    ((c.usePartialResult → result.result.isSome →
        1 ≤ result.partial_result ∧ result.partial_result ≤ c.numPartialResults) ∧
      (result.isPartial c → result.physcam_metadata = []) ∧
      (result.isFinal c → r.physicalCameraIds.length = result.physcam_metadata.length) ∧
      (result.isFinal c → r.haveResultMetadata = false) ∧
      (result.isFinal c → (receivePhysical r result.physcam_metadata).isOk) ∧
      numBuffersReturned r result ≤ r.numBuffersLeft)
    ⟨fun ⟨h₁, h₂, h₃, h₄, h₅, h₆⟩ ↦ ⟨h₁, h₂, h₃, h₄, h₅, h₆⟩,
      fun ⟨h₁, h₂, h₃, h₄, h₅, h₆⟩ ↦ ⟨h₁, h₂, h₃, h₄, h₅, h₆⟩⟩

theorem receiveExtras_spec (c : Config) (r : InFlightRequest) (result : HalResult) :
    ∃ count transform, receiveExtras c r result =
      { r with
        resultExtras := { r.resultExtras with partialResultCount := count }
        transform := transform } := by
  unfold receiveExtras
  split <;> split
  · exact ⟨_, _, rfl⟩
  · dsimp only
    split <;> exact ⟨_, _, rfl⟩
  · exact ⟨r.resultExtras.partialResultCount, _, rfl⟩
  · dsimp only
    split <;> exact ⟨r.resultExtras.partialResultCount, _, rfl⟩

theorem receivePhysical_spec (r : InFlightRequest) (ps : List PhysicalCaptureResultInfo) :
    ∃ ids, receivePhysical r ps = .ok { r with physicalCameraIds := ids } ∨
      receivePhysical r ps = .error { r with physicalCameraIds := ids } := by
  induction ps generalizing r with
  | nil => exact ⟨r.physicalCameraIds, .inl rfl⟩
  | cons p ps ih =>
    unfold receivePhysical
    split
    · exact ⟨r.physicalCameraIds, .inr rfl⟩
    · exact ih _

/-- The physical cameras are all that the check of the physical metadata looks at. -/
theorem receivePhysical_isOk_congr {r r' : InFlightRequest} (ps : List PhysicalCaptureResultInfo)
    (h : r'.physicalCameraIds = r.physicalCameraIds) :
    (receivePhysical r' ps).isOk = (receivePhysical r ps).isOk := by
  induction ps generalizing r r' with
  | nil => rfl
  | cons p ps ih =>
    unfold receivePhysical
    rw [h]
    split
    · rfl
    · exact ih rfl

/-- The entry after the partial result of a result that is accepted. -/
def InFlightRequest.receivedPartial (c : Config) (r : InFlightRequest) (result : HalResult)
    (count : ℕ) (transform : ℤ) : InFlightRequest :=
  { r with
    resultExtras := { r.resultExtras with partialResultCount := count }
    transform := transform
    collectedPartialResult :=
      if result.isPartial c then r.collectedPartialResult ++ result.result.getD []
      else r.collectedPartialResult }

/-- The entry after a result that is accepted. -/
def InFlightRequest.received (c : Config) (r : InFlightRequest) (result : HalResult)
    (count : ℕ) (transform : ℤ) (physicalCameraIds : List (List String)) (timestamp : ℤ) :
    InFlightRequest :=
  { r with
    resultExtras := { r.resultExtras with partialResultCount := count }
    transform := transform
    collectedPartialResult :=
      if result.isFinal c ∧ c.usePartialResult then []
      else if result.isPartial c then r.collectedPartialResult ++ result.result.getD []
      else r.collectedPartialResult
    physicalCameraIds := physicalCameraIds
    haveResultMetadata := r.haveResultMetadata || result.isFinal c
    errorBufStrategy :=
      if result.isFinal c then .ERROR_BUF_RETURN_NOTIFY else r.errorBufStrategy
    numBuffersLeft := r.numBuffersLeft - numBuffersReturned r result
    sensorTimestamp := timestamp
    pendingOutputBuffers := r.pendingOutputBuffers ++ result.output_buffers }

theorem receivePartial_of_accepts {c : Config} {result : HalResult} (r : InFlightRequest)
    (hrange : c.usePartialResult → result.result.isSome →
      1 ≤ result.partial_result ∧ result.partial_result ≤ c.numPartialResults)
    (hphysical : result.isPartial c → result.physcam_metadata = []) :
    receivePartial c r result = .ok { r with
      collectedPartialResult :=
        if result.isPartial c then r.collectedPartialResult ++ result.result.getD []
        else r.collectedPartialResult } := by
  unfold receivePartial
  cases hresult : result.result with
  | none => simp [HalResult.isPartial, hresult]
  | some metadata =>
    dsimp only
    cases huse : c.usePartialResult with
    | false => simp [HalResult.isPartial, huse]
    | true =>
      obtain ⟨hlow, hhigh⟩ := hrange huse (by simp [hresult])
      rw [if_pos rfl, if_neg (by omega), if_neg (fun h ↦ h.2 (hphysical h.1))]
      split <;> rfl

theorem receivePartial_of_not_accepts {c : Config} {result : HalResult} (r : InFlightRequest)
    (h : ¬ ((c.usePartialResult → result.result.isSome →
      1 ≤ result.partial_result ∧ result.partial_result ≤ c.numPartialResults) ∧
      (result.isPartial c → result.physcam_metadata = []))) :
    receivePartial c r result = .error r := by
  unfold receivePartial
  cases hresult : result.result with
  | none => simp [HalResult.isPartial, hresult] at h
  | some metadata =>
    dsimp only
    cases huse : c.usePartialResult with
    | false => simp [HalResult.isPartial, huse] at h
    | true =>
      rw [if_pos rfl]
      split
      · rfl
      · rename_i hrange
        rw [if_pos]
        by_contra hphysical
        exact h ⟨fun _ _ ↦ by omega, fun hpiece ↦ by_contra fun hne ↦ hphysical ⟨hpiece, hne⟩⟩

theorem receiveFinal_of_accepts {c : Config} {r : InFlightRequest} {result : HalResult}
    (hcount : result.isFinal c → r.physicalCameraIds.length = result.physcam_metadata.length)
    (honce : result.isFinal c → r.haveResultMetadata = false)
    (hids : result.isFinal c → (receivePhysical r result.physcam_metadata).isOk) :
    ∃ ids, receiveFinal c r result =
      .ok (if result.isFinal c ∧ c.usePartialResult then r.collectedPartialResult else [],
        { r with
          collectedPartialResult :=
            if result.isFinal c ∧ c.usePartialResult then [] else r.collectedPartialResult
          physicalCameraIds := ids
          haveResultMetadata := r.haveResultMetadata || result.isFinal c
          errorBufStrategy :=
            if result.isFinal c then .ERROR_BUF_RETURN_NOTIFY else r.errorBufStrategy }) := by
  unfold receiveFinal
  by_cases hfinal : result.result.isSome ∧ ¬ result.isPartial c
  · have hf : result.isFinal c = true := decide_eq_true hfinal
    rw [if_pos hfinal, if_neg (fun hne ↦ hne (hcount hf)), honce hf, if_neg Bool.false_ne_true]
    obtain ⟨ids, hok | herror⟩ := receivePhysical_spec r result.physcam_metadata
    · rw [hok, hf]
      refine ⟨ids, ?_⟩
      cases c.usePartialResult <;> rfl
    · have h := hids hf
      rw [herror] at h
      cases h
  · have hf : result.isFinal c = false := decide_eq_false hfinal
    rw [if_neg hfinal, hf]
    exact ⟨r.physicalCameraIds, by simp⟩

theorem receiveFinal_of_not_accepts {c : Config} {r : InFlightRequest} {result : HalResult}
    (h : ¬ ((result.isFinal c → r.physicalCameraIds.length = result.physcam_metadata.length) ∧
      (result.isFinal c → r.haveResultMetadata = false) ∧
      (result.isFinal c → (receivePhysical r result.physcam_metadata).isOk))) :
    ∃ ids, receiveFinal c r result = .error { r with physicalCameraIds := ids } := by
  have hf : result.isFinal c = true := by
    by_contra hf
    exact h ⟨fun hf' ↦ absurd hf' hf, fun hf' ↦ absurd hf' hf, fun hf' ↦ absurd hf' hf⟩
  unfold receiveFinal
  rw [if_pos (of_decide_eq_true hf)]
  split
  · exact ⟨r.physicalCameraIds, rfl⟩
  · rename_i hcount
    split
    · exact ⟨r.physicalCameraIds, rfl⟩
    · rename_i honce
      obtain ⟨ids, hok | herror⟩ := receivePhysical_spec r result.physcam_metadata
      · exfalso
        apply h
        exact ⟨fun _ ↦ not_not.mp hcount, fun _ ↦ Bool.eq_false_iff.mpr honce,
          fun _ ↦ by rw [hok]; rfl⟩
      · exact ⟨ids, by rw [herror]⟩

theorem receiveBuffers_of_accepts {r : InFlightRequest} {result : HalResult}
    (h : numBuffersReturned r result ≤ r.numBuffersLeft) :
    ∃ timestamp, receiveBuffers r result = .ok { r with
      numBuffersLeft := r.numBuffersLeft - numBuffersReturned r result
      sensorTimestamp := timestamp
      pendingOutputBuffers := r.pendingOutputBuffers ++ result.output_buffers } := by
  unfold receiveBuffers
  rw [if_neg (by dsimp only; omega)]
  exact ⟨_, rfl⟩

theorem receiveBuffers_of_not_accepts {r : InFlightRequest} {result : HalResult}
    (h : ¬ numBuffersReturned r result ≤ r.numBuffersLeft) :
    receiveBuffers r result = .error { r with
      numBuffersLeft := r.numBuffersLeft - numBuffersReturned r result } := by
  unfold receiveBuffers
  rw [if_pos (by dsimp only; omega)]

theorem receivePartial_receiveExtras {c : Config} {result : HalResult} (r : InFlightRequest)
    (hrange : c.usePartialResult → result.result.isSome →
      1 ≤ result.partial_result ∧ result.partial_result ≤ c.numPartialResults)
    (hphysical : result.isPartial c → result.physcam_metadata = []) :
    ∃ count transform, receivePartial c (receiveExtras c r result) result =
      .ok (r.receivedPartial c result count transform) := by
  obtain ⟨count, transform, hextras⟩ := receiveExtras_spec c r result
  rw [receivePartial_of_accepts _ hrange hphysical, hextras]
  exact ⟨count, transform, rfl⟩

/-- A result that passes the checks is delivered with the entry that it leaves. -/
theorem receive_of_accepts {c : Config} (s : State) {r : InFlightRequest} {result : HalResult}
    (h : Accepts c r result) :
    ∃ count transform ids timestamp qs e, (∀ q ∈ qs, q.final = false) ∧
      s.receive c r result =
        (State.deliverResult c { s with resultQueue := s.resultQueue ++ qs, inError := e }
          (r.received c result count transform ids timestamp) result
          (if result.isFinal c ∧ c.usePartialResult then r.collectedPartialResult else [])).returnInput
            r.hasInputBuffer result := by
  obtain ⟨count, transform, hpiece⟩ :=
    receivePartial_receiveExtras r h.partialRange h.partialPhysical
  let r₁ := r.receivedPartial c result count transform
  obtain ⟨qs, e, hsend, hqs⟩ := sendPartial_frame c s r₁ result
  have hphysical : result.isFinal c → (receivePhysical r₁ result.physcam_metadata).isOk := by
    intro hfinal
    rw [receivePhysical_isOk_congr result.physcam_metadata
      (show r₁.physicalCameraIds = r.physicalCameraIds from rfl)]
    exact h.physicalIds hfinal
  obtain ⟨ids, hfinal⟩ := receiveFinal_of_accepts (r := r₁) h.physicalCount h.once hphysical
  obtain ⟨timestamp, hbuffers⟩ := receiveBuffers_of_accepts (r := { r₁ with
    collectedPartialResult :=
      if result.isFinal c ∧ c.usePartialResult then [] else r₁.collectedPartialResult
    physicalCameraIds := ids
    haveResultMetadata := r₁.haveResultMetadata || result.isFinal c
    errorBufStrategy :=
      if result.isFinal c then .ERROR_BUF_RETURN_NOTIFY else r₁.errorBufStrategy }) h.buffers
  refine ⟨count, transform, ids, timestamp, qs, e, hqs, ?_⟩
  dsimp only [State.receive]
  rw [hpiece]
  dsimp only
  rw [hsend, hfinal]
  dsimp only
  rw [hbuffers]
  have hcollected : (if result.isFinal c ∧ c.usePartialResult then r₁.collectedPartialResult else []) =
      if result.isFinal c ∧ c.usePartialResult then r.collectedPartialResult else [] := by
    split
    · rename_i hf
      have hnot : result.isPartial c = false := by
        simpa using (of_decide_eq_true hf.1).2
      simp only [r₁, InFlightRequest.receivedPartial, hnot, Bool.false_eq_true, if_false]
    · rfl
  rw [hcollected]
  rfl

/-- A result that fails a check is dropped; what waits in the entry stays there. -/
theorem receive_of_not_accepts {c : Config} (s : State) {r : InFlightRequest} {result : HalResult}
    (h : ¬ Accepts c r result) :
    ∃ qs e r', (∀ q ∈ qs, q.final = false) ∧
      r'.pendingOutputBuffers = r.pendingOutputBuffers ∧
      r'.resultExtras.frameNumber = r.resultExtras.frameNumber ∧ s.receive c r result =
      State.drop { s with resultQueue := s.resultQueue ++ qs, inError := e } result.frame_number
        r' := by
  dsimp only [State.receive]
  by_cases hpiece : (c.usePartialResult → result.result.isSome →
      1 ≤ result.partial_result ∧ result.partial_result ≤ c.numPartialResults) ∧
      (result.isPartial c → result.physcam_metadata = [])
  · obtain ⟨count, transform, hr₁⟩ := receivePartial_receiveExtras r hpiece.1 hpiece.2
    let r₁ := r.receivedPartial c result count transform
    obtain ⟨qs, e, hsend, hqs⟩ := sendPartial_frame c s r₁ result
    rw [hr₁]
    dsimp only
    rw [hsend]
    by_cases hfinal :
        (result.isFinal c → r₁.physicalCameraIds.length = result.physcam_metadata.length) ∧
        (result.isFinal c → r₁.haveResultMetadata = false) ∧
        (result.isFinal c → (receivePhysical r₁ result.physcam_metadata).isOk)
    · obtain ⟨ids, hr₂⟩ := receiveFinal_of_accepts hfinal.1 hfinal.2.1 hfinal.2.2
      have hbuffers : ¬ numBuffersReturned r result ≤ r.numBuffersLeft := by
        intro hbuffers
        refine h ⟨hpiece.1, hpiece.2, hfinal.1, hfinal.2.1, fun hf ↦ ?_, hbuffers⟩
        rw [receivePhysical_isOk_congr result.physcam_metadata
          (show r.physicalCameraIds = r₁.physicalCameraIds from rfl)]
        exact hfinal.2.2 hf
      rw [hr₂]
      dsimp only
      rw [receiveBuffers_of_not_accepts (by exact hbuffers)]
      refine ⟨qs, e, _, hqs, ?_, ?_, rfl⟩ <;> rfl
    · obtain ⟨ids, hr₂⟩ := receiveFinal_of_not_accepts hfinal
      rw [hr₂]
      refine ⟨qs, e, _, hqs, ?_, ?_, rfl⟩ <;> rfl
  · obtain ⟨count, transform, hextras⟩ := receiveExtras_spec c r result
    rw [receivePartial_of_not_accepts _ hpiece, hextras]
    refine ⟨[], ?_⟩
    rw [List.append_nil]
    refine ⟨_, _, nofun, ?_, ?_, rfl⟩ <;> rfl

end VirtualCamera.CameraService.InFlight
