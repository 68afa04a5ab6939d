import VirtualCamera.Session.Configure
import VirtualCamera.Session.Progress

namespace VirtualCamera.Session.Conservation

open Library Library.Transition Library.Custody Streams Request Pipeline Holding Progress

/-! ### What has been done for a request -/

def isEnqueue : Effect → Bool
  | .enqueueV4l2Frame _ => true
  | _ => false

def isErase : Effect → Bool
  | .eraseInflight _ => true
  | _ => false

def isResult : Effect → Bool
  | .processCaptureResult _ | .resultNotDelivered _ => true
  | _ => false

/-- The frame goes back to the queue once, the frame number is erased once, and one
result with all the buffers of the request goes to the callback. For a request error, all
buffers are in error and the framework is told. -/
structure Returned (req : HalRequest) (error : Bool) (events : List Effect) : Prop where
  enqueued : events.filter isEnqueue = [.enqueueV4l2Frame req.frameIn]
  erased : events.filter isErase = [.eraseInflight req.frameNumber]
  result : ∃ result lockObtained,
    events.filter isResult = [Effect.turnOut (.processCaptureResult result) lockObtained] ∧
    result.frameNumber = req.frameNumber ∧
    result.outputBuffers.map (fun buf ↦ (buf.streamId, buf.bufferId)) =
      req.buffers.map bufferKey ∧
    (error → ∀ buf ∈ result.outputBuffers, buf.status = .error)
  notified : error → .notifyError req.frameNumber (-1) .errorRequest ∈ events

/-- Nothing is said about the two exits that do nothing for a request. -/
def Concluded (req : HalRequest) (conclusion : Conclusion) (events : List Effect) : Prop :=
  match conclusion with
  | .result => Returned req false events
  | .requestError => Returned req true events
  | .deviceError => events = [.notifyError req.frameNumber (-1) .errorDevice]
  | .unknownFormat | .noShareFd => True

theorem turnOut_of_not_result {e : Effect} (h : isResult e = false) (lockObtained : Bool) :
    Effect.turnOut e lockObtained = e := by
  cases e with
  | processCaptureResult result => cases h
  | _ => rfl

theorem events_of_plan {before events : List Effect} {result : CaptureResult}
    (hb : ∀ e ∈ before, isResult e = false)
    (h : (before ++ [Effect.processCaptureResult result]).Forall₂ protocol.emits events) :
    ∃ lockObtained,
      events = before ++ [Effect.turnOut (.processCaptureResult result) lockObtained] := by
  induction before generalizing events with
  | nil =>
    obtain ⟨e, rest, ⟨lockObtained, rfl⟩, hr, rfl⟩ := List.forall₂_cons_left_iff.mp h
    rw [List.forall₂_nil_left_iff.mp hr]
    exact ⟨lockObtained, rfl⟩
  | cons e before ih =>
    obtain ⟨e', rest, ⟨b, rfl⟩, hr, rfl⟩ := List.forall₂_cons_left_iff.mp h
    obtain ⟨lockObtained, rfl⟩ := ih (fun e he ↦ hb e (List.mem_cons_of_mem _ he)) hr
    rw [turnOut_of_not_result (hb e List.mem_cons_self)]
    exact ⟨lockObtained, rfl⟩

/-- The calls for a result and for a request error differ in the errors they tell of. -/
def calls (req : HalRequest) (errors : List (ℤ × ErrorCode)) : List Effect :=
  [Effect.enqueueV4l2Frame req.frameIn, Effect.notifyShutter req.frameNumber req.shutterTs] ++
    errors.map (fun e ↦ Effect.notifyError req.frameNumber e.1 e.2) ++
    [Effect.eraseInflight req.frameNumber]

theorem calls_not_result (req : HalRequest) (errors : List (ℤ × ErrorCode)) :
    ∀ e ∈ calls req errors, isResult e = false := by
  intro e he
  obtain he | he := List.mem_append.mp he
  · obtain he | he := List.mem_append.mp he
    · simp only [List.mem_cons, List.not_mem_nil, or_false] at he
      obtain rfl | rfl := he <;> rfl
    · obtain ⟨error, -, rfl⟩ := List.mem_map.mp he
      rfl
  · rw [List.mem_singleton.mp he]
    rfl

theorem filter_calls (p : Effect → Bool) (req : HalRequest) (errors : List (ℤ × ErrorCode))
    (e : Effect) (hp : ∀ streamId code, p (.notifyError req.frameNumber streamId code) = false) :
    (calls req errors ++ [e]).filter p =
      [Effect.enqueueV4l2Frame req.frameIn,
        Effect.notifyShutter req.frameNumber req.shutterTs].filter p ++
        [Effect.eraseInflight req.frameNumber, e].filter p := by
  have herrors : (errors.map fun e ↦ Effect.notifyError req.frameNumber e.1 e.2).filter p = [] := by
    rw [List.filter_eq_nil_iff]
    intro e he
    obtain ⟨error, -, rfl⟩ := List.mem_map.mp he
    rw [hp]
    exact Bool.false_ne_true
  unfold calls
  rw [List.append_assoc, List.filter_append, List.filter_append, herrors, List.append_nil]
  rfl

theorem returned_of_calls {a req : HalRequest} {errors : List (ℤ × ErrorCode)}
    {result : CaptureResult} {error lockObtained : Bool} (hs : Same a req)
    (hnumber : result.frameNumber = req.frameNumber)
    (hbuffers : result.outputBuffers.map (fun buf ↦ (buf.streamId, buf.bufferId)) =
      req.buffers.map bufferKey)
    (hstatus : error → ∀ buf ∈ result.outputBuffers, buf.status = .error)
    (hnotified : error → (-1, .errorRequest) ∈ errors) :
    Returned a error
      (calls req errors ++ [Effect.turnOut (.processCaptureResult result) lockObtained]) := by
  constructor
  · rw [filter_calls _ _ _ _ fun _ _ ↦ rfl, ← hs.frameIn]
    cases lockObtained <;> rfl
  · rw [filter_calls _ _ _ _ fun _ _ ↦ rfl, ← hs.frameNumber]
    cases lockObtained <;> rfl
  · refine ⟨result, lockObtained, ?_, hnumber.trans hs.frameNumber, ?_, hstatus⟩
    · rw [filter_calls _ _ _ _ fun _ _ ↦ rfl]
      cases lockObtained <;> rfl
    · rw [← hs.buffers]
      exact hbuffers
  · intro he
    rw [← hs.frameNumber]
    apply List.mem_append_left
    apply List.mem_append_left
    apply List.mem_append_right
    exact List.mem_map.mpr ⟨_, hnotified he, rfl⟩

theorem returned_of_error {a req : HalRequest} {events : List Effect} (hs : Same a req)
    (h : (processCaptureRequestError req).Forall₂ protocol.emits events) :
    Returned a true events := by
  have hplan : processCaptureRequestError req = calls req [(-1, .errorRequest)] ++
      [Effect.processCaptureResult ⟨req.frameNumber, req.buffers.map fun buf ↦
        ⟨buf.streamId, buf.bufferId, .error, buf.releaseFence⟩⟩] := rfl
  rw [hplan] at h
  obtain ⟨lockObtained, rfl⟩ := events_of_plan (calls_not_result _ _) h
  apply returned_of_calls hs
  · rfl
  · rw [List.map_map]
    rfl
  · intro _ buf hbuf
    obtain ⟨buf', -, rfl⟩ := List.mem_map.mp hbuf
    rfl
  · exact fun _ ↦ List.mem_singleton.mpr rfl

theorem returned_of_result {a req : HalRequest} {events : List Effect} (hs : Same a req)
    (h : (processCaptureResult req).Forall₂ protocol.emits events) :
    Returned a false events := by
  have hplan : processCaptureResult req =
      calls req ((req.buffers.filter HalStreamBuffer.fenceTimeout).map
        fun buf ↦ (buf.streamId, .errorBuffer)) ++
      [Effect.processCaptureResult ⟨req.frameNumber, req.buffers.map fun buf ↦
        ⟨buf.streamId, buf.bufferId, if buf.fenceTimeout then .error else .ok,
          buf.releaseFence⟩⟩] := by
    unfold calls
    rw [List.map_map, List.append_assoc _ [_] [_]]
    rfl
  rw [hplan] at h
  obtain ⟨lockObtained, rfl⟩ := events_of_plan (calls_not_result _ _) h
  apply returned_of_calls hs
  · rfl
  · rw [List.map_map]
    rfl
  · exact fun he ↦ (Bool.false_ne_true he).elim
  · exact fun he ↦ (Bool.false_ne_true he).elim

theorem concluded_of_completed {l : Ledger HalRequest Effect Ending} {id : ℕ} {e : Ending}
    (h : protocol.Completed l id e) :
    ∃ req, l.accepted[id]? = some req ∧ Concluded req e.conclusion (l.events id) := by
  obtain ⟨⟨req, ha, hs⟩, hp⟩ := h
  refine ⟨req, ha, ?_⟩
  have hs' : Same req e.request := hs
  have hp' : (effects e.request e.conclusion).Forall₂ protocol.emits (l.events id) := hp
  cases hc : e.conclusion with
  | result => exact returned_of_result hs' (by rw [hc] at hp'; exact hp')
  | requestError => exact returned_of_error hs' (by rw [hc] at hp'; exact hp')
  | deviceError =>
    rw [hc, effects] at hp'
    obtain ⟨e', rest, ⟨b, rfl⟩, hr, he⟩ := List.forall₂_cons_left_iff.mp hp'
    rw [List.forall₂_nil_left_iff.mp hr] at he
    rw [Concluded, he, ← hs'.frameNumber]
    rfl
  | unknownFormat => trivial
  | noShareFd => trivial

/-! ### What the parties leave alone -/

variable {F : Type}

structure CallFrame (s s' : State) : Prop where
  format : s'.format = s.format
  output : s'.output = s.output
  processingRequest : s'.processingRequest = s.processingRequest
  formatExit : s.formatExit = true → s'.formatExit = true
  outputExit : s.outputExit = true → s'.outputExit = true
  ended : s.ended ⊆ s'.ended

theorem flush_frame {s s' : State} {f : Flush} {l : Label F} (h : s.stepFlush f l = some s') :
    CallFrame s s' := by
  cases l <;> simp only [State.stepFlush, reduceCtorEq] at h
  case flushDone =>
    split at h <;> cases h
    exact ⟨rfl, rfl, rfl, id, id, List.subset_append_left _ _⟩
  case flushReturn =>
    split at h
    · split at h
      · cases h
        exact ⟨rfl, rfl, rfl, id, fun _ ↦ rfl, List.Subset.refl _⟩
      · cases h
        exact ⟨rfl, rfl, rfl, id, id, List.Subset.refl _⟩
    · cases h
  all_goals
    split at h <;> cases h
    exact ⟨rfl, rfl, rfl, id, id, List.Subset.refl _⟩

theorem call_frame {s s' : State} {l : Label F} (h : s.stepCall l = some s') :
    CallFrame s s' := by
  unfold State.stepCall at h
  split at h
  · split at h
    · obtain ⟨r, -, rfl⟩ := Option.map_eq_some_iff.mp h
      exact ⟨rfl, rfl, rfl, id, id, List.Subset.refl _⟩
    · split at h <;> cases h <;> exact ⟨rfl, rfl, rfl, id, id, List.Subset.refl _⟩
    · split at h <;> cases h <;> exact ⟨rfl, rfl, rfl, id, id, List.Subset.refl _⟩
    · split at h <;> cases h <;> exact ⟨rfl, rfl, rfl, id, id, List.Subset.refl _⟩
    · cases h
  · split at h <;> cases h
    exact ⟨rfl, rfl, rfl, id, id, List.Subset.refl _⟩
  · exact flush_frame h
  · split at h
    · split at h <;> cases h
      exact ⟨rfl, rfl, rfl, fun _ ↦ rfl, id, List.Subset.refl _⟩
    · cases h
  · split at h
    · split at h <;> cases h
      exact ⟨rfl, rfl, rfl, id, id, List.Subset.refl _⟩
    · cases h

structure FormatFrame (s s' : State) : Prop where
  call : s'.call = s.call
  output : s'.output = s.output
  processingRequest : s'.processingRequest = s.processingRequest
  outputExit : s'.outputExit = s.outputExit
  inflight : s'.device.inflightFrames = s.device.inflightFrames
  accepted : s'.accepted = s.accepted
  log : s'.log = s.log
  ended : s.ended ⊆ s'.ended

theorem format_frame {s s' : State} {l : Label F} (h : s.stepFormat l = some s') :
    FormatFrame s s' := by
  cases l <;> simp only [State.stepFormat, reduceCtorEq] at h
  case formatConvert decoded shareFd =>
    split at h
    · split at h
      · cases h
        exact ⟨rfl, rfl, rfl, rfl, rfl, rfl, rfl, List.Subset.refl _⟩
      · cases h
        exact ⟨rfl, rfl, rfl, rfl, rfl, rfl, rfl, List.subset_append_left _ _⟩
    · cases h
  all_goals
    split at h <;> cases h
    exact ⟨rfl, rfl, rfl, rfl, rfl, rfl, rfl, List.Subset.refl _⟩

/-! ### The frame numbers in flight -/

theorem program_inflight (ar : AspectArith F) (s : DeviceSession) (config : StreamConfiguration)
    (blobBufferSize : ℕ) (o : Capture.ConfigureOutcome) :
    (s.program ar config blobBufferSize o).2.2.inflightFrames = s.inflightFrames := by
  unfold DeviceSession.program
  dsimp only
  split
  · rfl
  · split
    · rfl
    · split
      · rfl
      · split
        · split <;> rfl
        · rfl

theorem configureStreams_inflight {ar : AspectArith F} {s : DeviceSession}
    {config : StreamConfiguration} {blobBufferSize : ℕ} {o : Capture.ConfigureOutcome}
    {r : Status × List HalStream × DeviceSession}
    (h : s.configureStreams ar config blobBufferSize o = some r) :
    r.2.2.inflightFrames = s.inflightFrames := by
  unfold DeviceSession.configureStreams at h
  split at h
  · cases h
    rfl
  · split at h
    · cases h
      rfl
    · split at h
      · cases h
        rfl
      · obtain ⟨maps, -, rfl⟩ := Option.map_eq_some_iff.mp h
        exact program_inflight ar { s with maps := maps } config blobBufferSize o

/-- What a step does to the frame numbers in flight: nothing, or it notes that of a new
request, or it performs an effect. -/
inductive Noted (s s' : State) : Prop
  | nothing :
      s'.device.inflightFrames = s.device.inflightFrames → s'.accepted = s.accepted →
      s'.log = s.log → Noted s s'
  | accepted (req : HalRequest) :
      s'.device.inflightFrames = insert req.frameNumber s.device.inflightFrames →
      s'.accepted = s.accepted ++ [req] → s'.log = s.log → Noted s s'
  | performed (id : ℕ) (e : Effect) (lockObtained : Bool) :
      s'.device.inflightFrames = eraseInflight s.device.inflightFrames e →
      s'.accepted = s.accepted → s'.log = s.log ++ [(id, Effect.turnOut e lockObtained)] →
      Noted s s'

theorem noted_flush {s s' : State} {f : Flush} {l : Label F} (h : s.stepFlush f l = some s') :
    Noted s s' := by
  cases l <;> simp only [State.stepFlush, reduceCtorEq] at h
  case flushPerform lockObtained =>
    split at h
    · cases h
      exact .performed _ _ lockObtained rfl rfl rfl
    · cases h
  case flushReturn =>
    split at h
    · split at h <;> cases h <;> exact .nothing rfl rfl rfl
    · cases h
  all_goals
    split at h <;> cases h
    exact .nothing rfl rfl rfl

theorem noted_call {s s' : State} {l : Label F} (h : s.stepCall l = some s') : Noted s s' := by
  unfold State.stepCall at h
  split at h
  · split at h
    · obtain ⟨r, hr, rfl⟩ := Option.map_eq_some_iff.mp h
      exact .nothing (configureStreams_inflight hr) rfl rfl
    · split at h
      · rename_i hr
        cases h
        exact .accepted _ (processOneCaptureRequest_accepted hr).inflight rfl rfl
      · rename_i hr
        cases h
        exact .nothing (processOneCaptureRequest_rejected hr) rfl rfl
    · split at h <;> cases h <;> exact .nothing rfl rfl rfl
    · split at h <;> cases h <;> exact .nothing rfl rfl rfl
    · cases h
  · split at h <;> cases h
    exact .nothing rfl rfl rfl
  · exact noted_flush h
  · split at h
    · split at h <;> cases h
      exact .nothing rfl rfl rfl
    · cases h
  · split at h
    · split at h <;> cases h
      exact .nothing rfl rfl rfl
    · cases h

theorem noted_output {s s' : State} {l : Label F} (h : s.stepOutput l = some s') :
    Noted s s' := by
  cases l <;> simp only [State.stepOutput, reduceCtorEq] at h
  case outputPerform lockObtained =>
    split at h
    · cases h
      exact .performed _ _ lockObtained rfl rfl rfl
    · cases h
  case outputDone =>
    split at h
    · split at h <;> cases h <;> exact .nothing rfl rfl rfl
    · cases h
  all_goals
    split at h <;> cases h
    exact .nothing rfl rfl rfl

theorem step_noted {s s' : State} {l : Label F} (h : s.step l = some s') : Noted s s' := by
  unfold State.step at h
  split at h
  · exact noted_call h
  · have hf := format_frame h
    exact .nothing hf.inflight hf.accepted hf.log
  · exact noted_output h

/-- A frame number is in flight for a request for which it has not been erased. -/
def InflightOwned (s : State) : Prop :=
  ∀ n ∈ s.device.inflightFrames, ∃ id req, s.accepted[id]? = some req ∧ req.frameNumber = n ∧
    (id, .eraseInflight n) ∉ s.log

theorem turnOut_erase {e : Effect} {lockObtained : Bool} {n : ℕ}
    (h : Effect.turnOut e lockObtained = .eraseInflight n) : e = .eraseInflight n := by
  cases e with
  | processCaptureResult result => cases lockObtained <;> cases h
  | _ => exact h

theorem inflightOwned_step {s s' : State} (hl : protocol.Invariant (ledger s))
    (h : Noted s s') (hi : InflightOwned s) : InflightOwned s' := by
  intro n hn
  cases h with
  | nothing hf ha hlog =>
    rw [ha, hlog]
    exact hi n (hf ▸ hn)
  | accepted req hf ha hlog =>
    rw [hf, Finset.mem_insert] at hn
    rw [ha, hlog]
    obtain rfl | hn := hn
    · refine ⟨s.accepted.length, req, List.getElem?_concat_length, rfl, fun he ↦ ?_⟩
      exact absurd (hl.logged _ _ he) (lt_irrefl _)
    · obtain ⟨id, req', hreq, hnum, he⟩ := hi n hn
      exact ⟨id, req', getElem?_append_of_some hreq, hnum, he⟩
  | performed id e lockObtained hf ha hlog =>
    have hne : e ≠ .eraseInflight n := by
      rintro rfl
      rw [hf] at hn
      exact Finset.notMem_erase n _ hn
    have hmem : n ∈ s.device.inflightFrames := by
      rw [hf] at hn
      unfold eraseInflight at hn
      split at hn
      · exact Finset.mem_of_mem_erase hn
      · exact hn
    obtain ⟨id', req, hreq, hnum, he⟩ := hi n hmem
    refine ⟨id', req, by rw [ha]; exact hreq, hnum, fun hm ↦ ?_⟩
    rw [hlog, List.mem_append, List.mem_singleton, Prod.mk.injEq] at hm
    obtain hm | ⟨-, hm⟩ := hm
    · exact he hm
    · exact hne (turnOut_erase hm.symm)

theorem inflightOwned {device : DeviceSession} {s : State}
    (h : Reachable (ofPartial (State.step (F := F))) (State.create device) s) :
    InflightOwned s := by
  have hinit : protocol.Invariant (ledger (State.create device)) ∧
      InflightOwned (State.create device) :=
    ⟨invariant_empty, fun n hn ↦ absurd hn (Finset.notMem_empty n)⟩
  have hstep (s : State) (l : Label F) (s' : State) (hs : ofPartial State.step s l s')
      (hi : protocol.Invariant (ledger s) ∧ InflightOwned s) :
      protocol.Invariant (ledger s') ∧ InflightOwned s' := by
    obtain ⟨ms, hr⟩ := step_moves hs
    exact ⟨run_invariant hr hi.1, inflightOwned_step hi.1 (step_noted hs) hi.2⟩
  exact (h.invariant (P := fun s ↦ protocol.Invariant (ledger s) ∧ InflightOwned s) hstep
    hinit).2

/-! ### Why a thread has exited -/

/-- The conversion thread exits when it is told to, the output thread also after a
device error. -/
structure Exits (s : State) : Prop where
  format : s.format = .exited → s.formatExit = true
  output : s.output = .exited →
    s.outputExit = true ∨ ∃ p ∈ s.ended, p.2.conclusion = .deviceError

theorem exits_call {s s' : State} {l : Label F} (h : s.stepCall l = some s') (he : Exits s) :
    Exits s' := by
  have hf := call_frame h
  constructor
  · intro hx
    exact hf.formatExit (he.format (hf.format ▸ hx))
  · intro hx
    obtain ho | ⟨p, hp, hc⟩ := he.output (hf.output ▸ hx)
    · exact .inl (hf.outputExit ho)
    · exact .inr ⟨p, hf.ended hp, hc⟩

theorem exits_format {s s' : State} {l : Label F} (h : s.stepFormat l = some s')
    (he : Exits s) : Exits s' := by
  have hf := format_frame h
  constructor
  · cases l <;> simp only [State.stepFormat, reduceCtorEq] at h
    case formatLoop =>
      split at h <;> cases h
      intro hx
      by_cases hexit : s.formatExit = true
      · exact hexit
      · simp [hexit] at hx
    case formatConvert decoded shareFd =>
      split at h
      · split at h <;> cases h <;> exact fun hx ↦ by cases hx
      · cases h
    all_goals
      split at h <;> cases h
      exact fun hx ↦ by cases hx
  · intro hx
    rw [hf.outputExit]
    obtain ho | ⟨p, hp, hc⟩ := he.output (hf.output ▸ hx)
    · exact .inl ho
    · exact .inr ⟨p, hf.ended hp, hc⟩

theorem exits_output {s s' : State} {l : Label F} (h : s.stepOutput l = some s')
    (he : Exits s) : Exits s' := by
  cases l <;> simp only [State.stepOutput, reduceCtorEq] at h
  case outputTake =>
    split at h <;> cases h
    exact ⟨he.format, fun hx ↦ by cases hx⟩
  case outputProcess o =>
    split at h <;> cases h
    exact ⟨he.format, fun hx ↦ by cases hx⟩
  case outputPerform lockObtained =>
    split at h <;> cases h
    exact ⟨he.format, fun hx ↦ by cases hx⟩
  case outputDone =>
    split at h
    · rename_i ending ho
      split at h
      · cases h
        exact ⟨he.format, fun hx ↦ by cases hx⟩
      · rename_i hc
        cases h
        refine ⟨he.format, fun _ ↦ .inr ⟨(ending.request.id, ending), ?_, hc⟩⟩
        exact List.mem_append_right _ (List.mem_singleton.mpr rfl)
      · cases h
        exact ⟨he.format, fun hx ↦ by cases hx⟩
    · cases h
  case outputIdle =>
    split at h <;> cases h
    exact ⟨he.format, fun hx ↦ by cases hx⟩
  case outputLoop =>
    split at h <;> cases h
    refine ⟨he.format, fun hx ↦ ?_⟩
    by_cases hexit : s.outputExit = true
    · exact .inl hexit
    · simp [hexit] at hx

theorem exits {device : DeviceSession} {s : State}
    (h : Reachable (ofPartial (State.step (F := F))) (State.create device) s) : Exits s := by
  have hstep (s : State) (l : Label F) (s' : State) (hs : ofPartial State.step s l s')
      (he : Exits s) : Exits s' := by
    unfold ofPartial State.step at hs
    split at hs
    · exact exits_call hs he
    · exact exits_format hs he
    · exact exits_output hs he
  exact h.invariant (P := Exits) hstep ⟨nofun, nofun⟩

/-! ### Conservation -/

/-- The request waits for a thread that has exited: the output thread after a device
error or a close, or the conversion thread after a close. -/
def Stranded (s : State) (id : ℕ) : Prop :=
  (id ∈ s.outputQueue.map HalRequest.id ∧
    (s.outputExit = true ∨ ∃ p ∈ s.ended, p.2.conclusion = .deviceError)) ∨
  (id ∈ s.formatQueue.map HalRequest.id ∧ s.formatExit = true)

theorem exists_of_mem_waitAll {reqs : List HalRequest} {x : Entry HalRequest Effect Ending}
    (h : x ∈ waitAll reqs) : x.id ∈ reqs.map HalRequest.id := by
  obtain ⟨req, hreq, rfl⟩ := List.mem_map.mp (Multiset.mem_coe.mp h)
  exact List.mem_map.mpr ⟨req, hreq, rfl⟩

theorem ended_or_stranded {device : DeviceSession} {s : State}
    (h : Reachable (ofPartial (State.step (F := F))) (State.create device) s)
    (hq : Quiet F s) {id : ℕ} (hid : id < s.accepted.length) :
    (∃ e, (id, e) ∈ s.ended) ∨ Stranded s id := by
  obtain ⟨hheld, hformat, houtput⟩ := hq.held
  by_cases hx : ∃ x ∈ held s, x.id = id
  · right
    obtain ⟨x, hx, rfl⟩ := hx
    rw [hheld, Multiset.mem_add] at hx
    obtain hx | hx := hx
    · have hm := exists_of_mem_waitAll hx
      obtain he | he := hformat
      · rw [he] at hm
        exact absurd hm List.not_mem_nil
      · exact .inr ⟨hm, (exits h).format he⟩
    · have hm := exists_of_mem_waitAll hx
      obtain he | he := houtput
      · rw [he] at hm
        exact absurd hm List.not_mem_nil
      · exact .inl ⟨hm, (exits h).output he⟩
  · left
    push Not at hx
    exact ended_of_not_held (ledger_invariant h) hid hx

/-- The accepted requests over every run of the session, in any interleaving of its
threads with the calls: each is in the hands of one party or has ended, once; what has been
done for one that has ended is what its conclusion asks for; a frame number is in flight only
for a request for which it has still to be erased; and the threads, left alone, come to a
point where every request has ended but those that wait for a thread that has exited. -/
theorem requests_conserved {device : DeviceSession} {s : State}
    (h : Reachable (ofPartial (State.step (F := F))) (State.create device) s) :
    (∀ id < s.accepted.length,
      ((held s).map Entry.id).count id + (s.ended.map Prod.fst).count id = 1) ∧
    (∀ id e, (id, e) ∈ s.ended → ∃ req, s.accepted[id]? = some req ∧
      Concluded req e.conclusion ((ledger s).events id)) ∧
    (∀ n ∈ s.device.inflightFrames, ∃ id req, s.accepted[id]? = some req ∧
      req.frameNumber = n ∧ (id, .eraseInflight n) ∉ s.log) ∧
    (∀ as t, Run (restrict (ofPartial State.step) fun _ (l : Label F) ↦ Internal l) s as t →
      as.length ≤ work s) ∧
    (Quiet F s → ∀ id < s.accepted.length, (∃ e, (id, e) ∈ s.ended) ∨ Stranded s id) := by
  have hinv := ledger_invariant h
  refine ⟨fun id hid ↦ ?_, fun id e he ↦ ?_, inflightOwned h, fun as t hr ↦ ?_,
    fun hq id hid ↦ ?_⟩
  · exact count_owner hinv hid
  · exact concluded_of_completed (hinv.completed id e he)
  · have hdec (s : State) (l : Label F) (t : State)
        (h : restrict (ofPartial State.step) (fun _ l ↦ Internal l) s l t) : work t < work s :=
      work_decreases h.2 h.1
    have := hr.length_le hdec
    omega
  · exact ended_or_stranded h hq hid

/-! ### One request -/

def previewing : DeviceSession :=
  { Configure.configured with v4l2 := { Configure.configured.v4l2 with streaming := true } }

def previewRequest : CaptureRequest := ⟨1, -1, [⟨1, 7⟩]⟩

def frameOutcome (fourcc : UInt32) : RequestOutcome where
  settings := .settings ⟨[]⟩
  idle := true
  configure := Configure.unused
  importStatus := .ok
  handle := fun _ ↦ some 42
  fence := fun _ ↦ -1
  frame := some (⟨1280, 720, fourcc, 0⟩, 1000)

def roundOutcome (formatConvert : Bool) : RoundOutcome :=
  ⟨true, true, fun _ ↦ ⟨true, true, true, formatConvert, -1, true⟩⟩

/-- From the acceptance of a request to its conclusion, and the calls that follow. -/
def handleRequest (fourcc : UInt32) (formatConvert : Bool) (calls : ℕ) : List (Label ℚ) :=
  .processOneCaptureRequest previewRequest (frameOutcome fourcc) :: .submitRequest ::
    .formatTake :: .formatConvert true 5 :: .outputTake ::
    .outputProcess (roundOutcome formatConvert) ::
    (List.replicate calls (Label.outputPerform true) ++ [Label.outputDone, Label.formatLoop])

theorem reachable_result :
    ∃ s, Reachable (ofPartial (State.step (F := ℚ))) (State.create previewing) s ∧
      (s.accepted.length, s.ended.map fun p ↦ (p.1, p.2.conclusion)) = (1, [(0, .result)]) :=
  exists_reachable_of_exec (handleRequest v4l2PixFmtMjpeg true 4) rfl

/-- A frame that cannot be converted. -/
theorem reachable_deviceError :
    ∃ s, Reachable (ofPartial (State.step (F := ℚ))) (State.create previewing) s ∧
      (s.call, s.formatQueue, s.format, s.outputQueue, s.output,
        s.accepted.map HalRequest.frameNumber, s.log) =
      (.idle, [], .waiting, [], .exited, [1], [(0, .notifyError 1 (-1) .errorDevice)]) :=
  exists_reachable_of_exec (handleRequest v4l2PixFmtYuyv false 1) rfl

theorem requests_conserved_result :
    ∃ s, Reachable (ofPartial (State.step (F := ℚ))) (State.create previewing) s ∧
      ∃ req, s.accepted[0]? = some req ∧ Returned req false ((ledger s).events 0) := by
  obtain ⟨s, h, hs⟩ := reachable_result
  rw [Prod.mk.injEq] at hs
  have hmem : (0, Conclusion.result) ∈ s.ended.map fun p ↦ (p.1, p.2.conclusion) := by
    rw [hs.2]
    exact List.mem_singleton.mpr rfl
  obtain ⟨⟨id, e⟩, he, heq⟩ := List.mem_map.mp hmem
  simp only [Prod.mk.injEq] at heq
  obtain ⟨rfl, hc⟩ := heq
  obtain ⟨-, hended, -⟩ := requests_conserved h
  obtain ⟨req, hreq, hr⟩ := hended 0 e he
  rw [hc] at hr
  exact ⟨s, h, req, hreq, hr⟩

theorem device_error_keeps_request :
    ¬ ∀ (device : DeviceSession) (s : State),
      Reachable (ofPartial (State.step (F := ℚ))) (State.create device) s → Quiet ℚ s →
      ∀ id req, s.accepted[id]? = some req → ∃ error, Returned req error ((ledger s).events id) := by
  intro hall
  obtain ⟨s, h, hs⟩ := reachable_deviceError
  simp only [Prod.mk.injEq] at hs
  obtain ⟨hc, hfq, hf, hoq, ho, ha, hl⟩ := hs
  obtain ⟨req, hreq⟩ : ∃ req, s.accepted[0]? = some req := by
    have hlen : s.accepted.length = 1 := by
      rw [← List.length_map (f := HalRequest.frameNumber), ha]
      rfl
    exact ⟨s.accepted[0], List.getElem?_eq_getElem (by omega)⟩
  obtain ⟨error, hr⟩ :=
    hall previewing s h (quiet_of_idle hc hfq hf hoq (.inr ho)) 0 req hreq
  have he := hr.enqueued
  have hev : (ledger s).events 0 = [.notifyError 1 (-1) .errorDevice] := by
    simp [Ledger.events, ledger, hl]
  rw [hev] at he
  cases he

end VirtualCamera.Session.Conservation
