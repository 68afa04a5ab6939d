import VirtualCamera.CameraService.Receiving

namespace VirtualCamera.CameraService.InFlight

open Library Assoc

/-! ### One frame at a time -/

/-- The buffers of a frame that have gone to their streams. -/
def State.deliveredFor (s : State) (f : ℕ) : Multiset Item :=
  s.outputs.delivered.filter fun i ↦ i.frameNumber = f

def State.finalsFor (s : State) (f : ℕ) : List QueuedResult :=
  s.resultQueue.filter fun q ↦ q.final ∧ q.result.mResultExtras.frameNumber = f

/-- Every entry is registered under the frame of its extras. -/
def Named (s : State) : Prop :=
  ∀ k r, s.inflightMap.lookup k = some r → r.resultExtras.frameNumber = k

/-- Only the entry, the buffers and the results of one frame have changed. -/
structure Touches (k : ℕ) (s t : State) : Prop where
  lookup : ∀ j, j ≠ k → t.inflightMap.lookup j = s.inflightMap.lookup j
  entry : ∀ r, t.inflightMap.lookup k = some r → r.resultExtras.frameNumber = k
  delivered : ∀ j, j ≠ k → t.deliveredFor j = s.deliveredFor j
  finals : ∀ j, j ≠ k → t.finalsFor j = s.finalsFor j

theorem Touches.named {k : ℕ} {s t : State} (h : Touches k s t) (hs : Named s) : Named t := by
  intro j r hr
  by_cases hj : j = k
  · subst hj
    exact h.entry r hr
  · exact hs j r (h.lookup j hj ▸ hr)

theorem mem_items {f : ℕ} {bs : List StreamBuffer} {i : Item} (h : i ∈ items f bs) :
    i.frameNumber = f := by
  obtain ⟨b, -, hb⟩ := List.mem_filterMap.mp (Multiset.mem_coe.mp h)
  obtain ⟨buffer, -, rfl⟩ := Option.map_eq_some_iff.mp hb
  rfl

theorem filter_items (f : ℕ) (bs : List StreamBuffer) :
    (items f bs).filter (fun i ↦ i.frameNumber = f) = items f bs :=
  Multiset.filter_eq_self.mpr fun _ hi ↦ mem_items hi

theorem filter_items_ne {f k : ℕ} (h : f ≠ k) (bs : List StreamBuffer) :
    (items k bs).filter (fun i ↦ i.frameNumber = f) = 0 :=
  Multiset.filter_eq_nil.mpr fun _ hi hf ↦ h (hf.symm.trans (mem_items hi))

/-- A balance of the buffers of one frame leaves those of the others alone. -/
theorem filter_delivered_ne {f k : ℕ} (h : f ≠ k) {o o' : Outputs} {bs bs' : List StreamBuffer}
    (hbalance : o'.delivered + items k bs' = o.delivered + items k bs) :
    o'.delivered.filter (fun i ↦ i.frameNumber = f) =
      o.delivered.filter fun i ↦ i.frameNumber = f := by
  have hf := congrArg (Multiset.filter fun i : Item ↦ i.frameNumber = f) hbalance
  rwa [Multiset.filter_add, Multiset.filter_add, filter_items_ne h, filter_items_ne h, add_zero,
    add_zero] at hf

theorem filter_delivered {f : ℕ} {o o' : Outputs} {bs bs' : List StreamBuffer}
    (hbalance : o'.delivered + items f bs' = o.delivered + items f bs) :
    o'.delivered.filter (fun i ↦ i.frameNumber = f) + items f bs' =
      o.delivered.filter (fun i ↦ i.frameNumber = f) + items f bs := by
  have hf := congrArg (Multiset.filter fun i : Item ↦ i.frameNumber = f) hbalance
  rwa [Multiset.filter_add, Multiset.filter_add, filter_items, filter_items] at hf

/-- Results that are not final, or are for another frame, do not count. -/
theorem filter_finals_append {f : ℕ} {queue qs : List QueuedResult}
    (h : ∀ q ∈ qs, q.final = true → q.result.mResultExtras.frameNumber ≠ f) :
    (queue ++ qs).filter (fun q ↦ q.final ∧ q.result.mResultExtras.frameNumber = f) =
      queue.filter fun q ↦ q.final ∧ q.result.mResultExtras.frameNumber = f := by
  have hnil : qs.filter (fun q ↦ q.final ∧ q.result.mResultExtras.frameNumber = f) = [] := by
    apply List.filter_eq_nil_iff.mpr
    intro q hq hf
    obtain ⟨hfinal, hframe⟩ := of_decide_eq_true hf
    exact h q hq hfinal hframe
  rw [List.filter_append, hnil, List.append_nil]

/-! ### What the functions touch -/

theorem removeInFlightRequestIfReadyLocked_touches (c : Config) {s t : State} {k : ℕ}
    {r : InFlightRequest} (hr : r.resultExtras.frameNumber = k)
    (hmap : t.inflightMap = s.inflightMap)
    (hdelivered : ∀ j, j ≠ k → t.deliveredFor j = s.deliveredFor j)
    (hfinals : ∀ j, j ≠ k → t.finalsFor j = s.finalsFor j) :
    Touches k s (t.removeInFlightRequestIfReadyLocked c k r) := by
  cases hready : r.ready with
  | false =>
    rw [removeInFlightRequestIfReadyLocked_of_not_ready c t k hready]
    refine ⟨fun j hj ↦ ?_, fun r' hr' ↦ ?_, hdelivered, hfinals⟩
    · exact (AList.lookup_insert_ne hj).trans (congrArg (AList.lookup j) hmap)
    · obtain rfl := Option.some.inj ((AList.lookup_insert _).symm.trans hr')
      exact hr
  | true =>
    obtain ⟨outputs, n₁, n₂, n₃, e, heq, hbalance⟩ :=
      removeInFlightRequestIfReadyLocked_of_ready c t k hready
    rw [heq]
    refine ⟨fun j hj ↦ ?_, fun r' hr' ↦ ?_, fun j hj ↦ ?_, hfinals⟩
    · exact (AList.lookup_erase_ne hj).trans (congrArg (AList.lookup j) hmap)
    · cases (AList.lookup_erase k t.inflightMap).symm.trans hr'
    · rw [hr] at hbalance
      exact (filter_delivered_ne hj hbalance).trans (hdelivered j hj)

theorem sendCaptureResult_finalsFor (c : Config) (s : State) {r : InFlightRequest} {j : ℕ}
    (hj : j ≠ r.resultExtras.frameNumber) (pendingMetadata collected : CameraMetadata)
    (frameNumber : ℕ) :
    (s.sendCaptureResult c r pendingMetadata collected frameNumber).finalsFor j = s.finalsFor j := by
  obtain ⟨qs, n₁, n₂, n₃, e, heq, hqs⟩ :=
    sendCaptureResult_frame c s r pendingMetadata collected frameNumber
  rw [heq]
  exact filter_finals_append fun q hq _ hf ↦ hj (hf.symm.trans (by rw [hqs q hq]))

theorem sendCaptureResult_if_frame (c : Config) (s : State) (r : InFlightRequest)
    (pendingMetadata collected : CameraMetadata) (frameNumber : ℕ) (b : Bool) :
    let t := if b then s.sendCaptureResult c r pendingMetadata collected frameNumber else s
    t.inflightMap = s.inflightMap ∧ t.outputs = s.outputs := by
  obtain ⟨qs, n₁, n₂, n₃, e, heq, -⟩ :=
    sendCaptureResult_frame c s r pendingMetadata collected frameNumber
  cases b with
  | false => exact ⟨rfl, rfl⟩
  | true =>
    rw [if_pos rfl, heq]
    exact ⟨rfl, rfl⟩

/-- A shutter in its steps: the listener is told, the final metadata that waits is sent, and the
buffers that wait go back. -/
theorem shutter_spec (c : Config) (s : State) (r : InFlightRequest) (k : ℕ) (timestamp : ℤ) :
    ∃ extras s₂, extras.frameNumber = r.resultExtras.frameNumber ∧
      extras.requestId = r.resultExtras.requestId ∧ s₂.inflightMap = s.inflightMap ∧
      s₂.outputs.delivered = s.outputs.delivered ∧ s₂.resultQueue = s.resultQueue ∧
      (∀ order, s₂.nextResult order = s.nextResult order) ∧
      let r₂ : InFlightRequest := { r with shutterTimestamp := timestamp, resultExtras := extras }
      let s₃ : State :=
        if r.hasCallback then
          s₂.sendCaptureResult c r₂ r.pendingMetadata r.collectedPartialResult k
        else s₂
      s.shutter c r k timestamp = State.removeInFlightRequestIfReadyLocked c
        { s₃ with outputs := (r₂.returnAndRemovePendingOutputBuffers c s₃.outputs).2 } k
        { r₂ with pendingOutputBuffers := r₂.keptBack } := by
  unfold State.shutter
  cases hcallback : r.hasCallback with
  | false =>
    refine ⟨r.resultExtras, s.setNextShutter (k + 1) r.order, rfl, rfl, ?_, ?_, ?_, ?_, rfl⟩ <;>
      cases r.order <;> intros <;> rfl
  | true =>
    cases hlistener : c.listener with
    | false =>
      refine ⟨r.resultExtras, s.setNextShutter (k + 1) r.order, rfl, rfl, ?_, ?_, ?_, ?_, rfl⟩ <;>
        cases r.order <;> intros <;> rfl
    | true =>
      refine ⟨(s.setNextShutter (k + 1) r.order).shutterExtras r.resultExtras,
        (s.setNextShutter (k + 1) r.order).notify _, rfl, rfl, ?_, ?_, ?_, ?_, rfl⟩ <;>
        cases r.order <;> intros <;> rfl

theorem shutter_touches (c : Config) (s : State) {r : InFlightRequest} {k : ℕ}
    (hr : r.resultExtras.frameNumber = k) (timestamp : ℤ) :
    Touches k s (s.shutter c r k timestamp) := by
  obtain ⟨extras, s₂, hframe, -, hmap, hdelivered, hqueue, -, heq⟩ :=
    shutter_spec c s r k timestamp
  rw [heq]
  have hframe' : extras.frameNumber = k := hframe.trans hr
  let r₂ : InFlightRequest := { r with shutterTimestamp := timestamp, resultExtras := extras }
  let s₃ : State :=
    if r.hasCallback then
      s₂.sendCaptureResult c r₂ r.pendingMetadata r.collectedPartialResult k
    else s₂
  obtain ⟨hmap₃, houtputs₃⟩ : s₃.inflightMap = s₂.inflightMap ∧ s₃.outputs = s₂.outputs :=
    sendCaptureResult_if_frame c s₂ r₂ r.pendingMetadata r.collectedPartialResult k r.hasCallback
  have hfinals (j : ℕ) (hj : j ≠ k) : s₃.finalsFor j = s.finalsFor j := by
    have hs₂ : s₂.finalsFor j = s.finalsFor j := by rw [State.finalsFor, hqueue]; rfl
    dsimp only [s₃]
    split
    · exact (sendCaptureResult_finalsFor c s₂ (hframe'.symm ▸ hj) r.pendingMetadata
        r.collectedPartialResult k).trans hs₂
    · exact hs₂
  obtain ⟨-, hbalance⟩ := returnAndRemovePendingOutputBuffers_spec c r₂ s₃.outputs
  let o := (r₂.returnAndRemovePendingOutputBuffers c s₃.outputs).2
  refine removeInFlightRequestIfReadyLocked_touches c (t := { s₃ with outputs := o }) hframe'
    (hmap₃.trans hmap) (fun j hj ↦ ?_) hfinals
  rw [show r₂.resultExtras.frameNumber = k from hframe'] at hbalance
  refine (filter_delivered_ne hj hbalance).trans ?_
  rw [houtputs₃, hdelivered]
  rfl

theorem notifyShutter_touches (c : Config) {s : State} (hs : Named s) (k : ℕ) (timestamp : ℤ) :
    Touches k s (s.notifyShutter c k timestamp) := by
  unfold State.notifyShutter
  split
  · exact ⟨fun _ _ ↦ rfl, hs k, fun _ _ ↦ rfl, fun _ _ ↦ rfl⟩
  · rename_i r hr
    split
    · exact ⟨fun _ _ ↦ rfl, hs k, fun _ _ ↦ rfl, fun _ _ ↦ rfl⟩
    · exact shutter_touches c s (hs k r hr) timestamp

theorem insert_touches {s : State} {k : ℕ} {r : InFlightRequest}
    (hr : r.resultExtras.frameNumber = k) :
    Touches k s { s with inflightMap := s.inflightMap.insert k r } := by
  refine ⟨fun j hj ↦ AList.lookup_insert_ne hj, fun r' hr' ↦ ?_, fun _ _ ↦ rfl, fun _ _ ↦ rfl⟩
  obtain rfl := Option.some.inj ((AList.lookup_insert _).symm.trans hr')
  exact hr

/-- The listener is told, which touches nothing. -/
theorem report_frame (c : Config) (s : State) (errorCode : ErrorCode) (extras : CaptureResultExtras)
    (error_stream : Option ErrorStream) :
    ∃ notifications, s.report c errorCode extras error_stream =
      { s with outputs := { s.outputs with notifications := notifications } } := by
  unfold State.report
  split
  · exact ⟨_, rfl⟩
  · exact ⟨_, rfl⟩

theorem notifyError_touches (c : Config) {s : State} (hs : Named s) (k : ℕ)
    (errorCode : Option ErrorCode) (error_stream : Option ErrorStream) :
    Touches k s (s.notifyError c k errorCode error_stream) := by
  have hsame : Touches k s s := ⟨fun _ _ ↦ rfl, hs k, fun _ _ ↦ rfl, fun _ _ ↦ rfl⟩
  have herror : Touches k s s.setErr := ⟨fun _ _ ↦ rfl, hs k, fun _ _ ↦ rfl, fun _ _ ↦ rfl⟩
  have hreport {t : State} (ht : Touches k s t) (code : ErrorCode) (extras : CaptureResultExtras) :
      Touches k s (t.report c code extras error_stream) := by
    obtain ⟨notifications, heq⟩ := report_frame c t code extras error_stream
    rw [heq]
    exact ⟨ht.lookup, ht.entry, ht.delivered, ht.finals⟩
  have hrequest (code : ErrorCode) :
      Touches k s (s.notifyRequestError c k code error_stream) := by
    unfold State.notifyRequestError
    split
    · exact hreport hsame code _
    · rename_i r hr
      split
      · dsimp only
        split
        · exact insert_touches (hs k r hr)
        · refine hreport (insert_touches ?_) code _
          exact hs k r hr
      · refine hreport ?_ code _
        exact removeInFlightRequestIfReadyLocked_touches c (hs k r hr) rfl (fun _ _ ↦ rfl)
          fun _ _ ↦ rfl
  unfold State.notifyError
  split
  · exact herror
  · exact herror
  · exact hsame
  · exact hrequest _

theorem deliverResult_touches (c : Config) {s t : State} {r : InFlightRequest} {result : HalResult}
    (hr : r.resultExtras.frameNumber = result.frame_number) (collected : CameraMetadata)
    (hmap : t.inflightMap = s.inflightMap) (houtputs : t.outputs = s.outputs)
    (hfinals : ∀ j, t.finalsFor j = s.finalsFor j) :
    Touches result.frame_number s (t.deliverResult c r result collected) := by
  obtain ⟨bs, hreturn, -, hbalance⟩ := returnAfterShutter_spec c r t.outputs
  let o := (r.returnAfterShutter c t.outputs).2
  let r' : InFlightRequest := { r with pendingOutputBuffers := bs }
  obtain ⟨qs, n₁, n₂, n₃, e, metadata, collected', physical, hmetadata, hqs⟩ :=
    deliverMetadata_frame c { t with outputs := o } r' result collected
  unfold State.deliverResult
  rw [show r.returnAfterShutter c t.outputs = (r', o) from Prod.ext hreturn rfl]
  dsimp only
  rw [hmetadata]
  refine removeInFlightRequestIfReadyLocked_touches c (t := { t with
    outputs := o
    resultQueue := t.resultQueue ++ qs
    nextResultFrameNum := n₁
    nextReprocResultFrameNum := n₂
    nextZslResultFrameNum := n₃
    inError := e }) hr hmap (fun j hj ↦ ?_) fun j hj ↦ ?_
  · rw [hr] at hbalance
    refine (filter_delivered_ne hj hbalance).trans ?_
    rw [houtputs]
    rfl
  · refine Eq.trans ?_ (hfinals j)
    exact filter_finals_append fun q hq _ hf ↦ hj (hf.symm.trans (by rw [hqs q hq]; exact hr))

theorem processCaptureResult_touches (c : Config) {s : State} (hs : Named s) (result : HalResult) :
    Touches result.frame_number s (s.processCaptureResult c result) := by
  have herror : Touches result.frame_number s s.setErr :=
    ⟨fun _ _ ↦ rfl, hs _, fun _ _ ↦ rfl, fun _ _ ↦ rfl⟩
  unfold State.processCaptureResult
  split
  · exact herror
  · split
    · exact herror
    · split
      · exact herror
      · rename_i r hr
        have hframe := hs _ r hr
        by_cases haccepts : Accepts c r result
        · obtain ⟨count, transform, ids, timestamp, qs, e, hqs, heq⟩ :=
            receive_of_accepts s haccepts
          rw [heq]
          have hdeliver := deliverResult_touches c (s := s)
            (t := { s with resultQueue := s.resultQueue ++ qs, inError := e })
            (r := r.received c result count transform ids timestamp) hframe
            (if result.isFinal c ∧ c.usePartialResult then r.collectedPartialResult else []) rfl rfl
            fun j ↦ filter_finals_append fun q hq hf ↦ absurd (hqs q hq) (by rw [hf]; decide)
          unfold State.returnInput
          split
          · exact hdeliver
          · split
            · exact ⟨hdeliver.lookup, hdeliver.entry, hdeliver.delivered, hdeliver.finals⟩
            · exact hdeliver
        · obtain ⟨qs, e, r', hqs, -, hframe', heq⟩ := receive_of_not_accepts s haccepts
          rw [heq]
          have hinsert := insert_touches (s := s) (hframe'.trans hframe)
          refine ⟨hinsert.lookup, hinsert.entry, fun _ _ ↦ rfl, fun j _ ↦ ?_⟩
          exact filter_finals_append fun q hq hf ↦ absurd (hqs q hq) (by rw [hf]; decide)

end VirtualCamera.CameraService.InFlight
