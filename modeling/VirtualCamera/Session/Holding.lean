import Mathlib.Algebra.Order.Group.Multiset
import Mathlib.Tactic.Abel
import VirtualCamera.Library.Custody
import VirtualCamera.Session.Pipeline

namespace VirtualCamera.Session.Holding

open Library Library.Transition Library.Custody Streams Request Pipeline

/-! ### What the threads keep of a request -/

def bufferKey (buf : HalStreamBuffer) : ℤ × UInt64 := (buf.streamId, buf.bufferId)

/-- What no thread changes in a request. -/
structure Same (a b : HalRequest) : Prop where
  id : b.id = a.id
  frameNumber : b.frameNumber = a.frameNumber
  frameIn : b.frameIn = a.frameIn
  shutterTs : b.shutterTs = a.shutterTs
  buffers : b.buffers.map bufferKey = a.buffers.map bufferKey

theorem Same.refl (a : HalRequest) : Same a a := ⟨rfl, rfl, rfl, rfl, rfl⟩

theorem Same.trans {a b c : HalRequest} (h : Same a b) (h' : Same b c) : Same a c :=
  ⟨h'.id.trans h.id, h'.frameNumber.trans h.frameNumber, h'.frameIn.trans h.frameIn,
    h'.shutterTs.trans h.shutterTs, h'.buffers.trans h.buffers⟩

theorem waitFence_key (buf : HalStreamBuffer) (o : BufferOutcome) :
    bufferKey (buf.waitFence o) = bufferKey buf := by
  unfold HalStreamBuffer.waitFence
  split
  · rfl
  · split
    · split <;> rfl
    · rfl

theorem unlock_key (buf : HalStreamBuffer) (o : BufferOutcome) :
    bufferKey (buf.unlock o) = bufferKey buf := by
  unfold HalStreamBuffer.unlock
  split <;> rfl

theorem scale_key (buf : HalStreamBuffer) (o : BufferOutcome) :
    bufferKey (buf.scale o).2 = bufferKey buf := by
  unfold HalStreamBuffer.scale
  split
  · rfl
  · split
    · rfl
    · exact unlock_key buf o

theorem fill_key (buf : HalStreamBuffer) (fourcc : UInt32) (shareFd : ℕ) (o : BufferOutcome) :
    bufferKey (buf.fill fourcc shareFd o).2 = bufferKey buf := by
  have hyuv : bufferKey (if fourcc = v4l2PixFmtYuyv then buf.scale o
      else if fourcc = v4l2PixFmtNv12 then
        if ¬ o.shareFd then (some .noShareFd, buf) else (none, buf)
      else if fourcc = v4l2PixFmtSrggb10 then (none, buf)
      else if shareFd = 0 then (some .requestError, buf)
      else if ¬ o.shareFd then (some .noShareFd, buf)
      else (none, buf)).2 = bufferKey buf := by
    split_ifs
    · exact scale_key buf o
    all_goals rfl
  unfold HalStreamBuffer.fill
  split
  · dsimp only
    split
    · exact unlock_key buf o
    · exact unlock_key buf o
  · exact unlock_key buf o
  · rfl
  · rfl
  · rfl
  · exact scale_key buf o
  · exact hyuv
  · exact hyuv
  · exact hyuv
  · rfl

theorem fillOutputs_keys (fourcc : UInt32) (shareFd : ℕ) (o : ℕ → BufferOutcome) (i : ℕ)
    (bufs : List HalStreamBuffer) :
    (fillOutputs fourcc shareFd o i bufs).2.map bufferKey = bufs.map bufferKey := by
  induction bufs generalizing i with
  | nil => rfl
  | cons buf bufs ih =>
    unfold fillOutputs
    dsimp only
    split
    · simp only [List.map_cons, waitFence_key, ih]
    · have hk := fill_key (buf.waitFence (o i)) fourcc shareFd (o i)
      split
      · rename_i hf
        rw [hf] at hk
        simp only [List.map_cons, hk, waitFence_key]
      · rename_i hf
        rw [hf] at hk
        simp only [List.map_cons, hk, waitFence_key, ih]

theorem processRequest_same (req : HalRequest) (o : RoundOutcome) :
    Same req (processRequest req o).2 := by
  unfold processRequest
  split
  · exact .refl req
  · split
    · exact .refl req
    · split
      · exact .refl req
      · exact ⟨rfl, rfl, rfl, rfl, fillOutputs_keys _ _ _ _ _⟩

theorem convertFormat_same {req req' : HalRequest} {decoded : Bool} {shareFd : ℕ}
    (h : convertFormat req decoded shareFd = some req') : Same req req' := by
  unfold convertFormat at h
  split at h
  · cases h
  · split at h
    · split at h
      · cases h
        exact .refl _
      · cases h
        exact ⟨rfl, rfl, rfl, rfl, rfl⟩
    · cases h
      exact .refl _

theorem fillBuffers_keys (o : RequestOutcome) (streamMap : Assoc.Map ℤ Stream) (i : ℕ)
    (bufs : List OutputBuffer) :
    (fillBuffers o streamMap i bufs).1.map bufferKey =
      bufs.map fun buf ↦ (buf.streamId, buf.bufferId) := by
  induction bufs generalizing streamMap i with
  | nil => rfl
  | cons buf bufs ih => simp only [fillBuffers, List.map_cons, ih, bufferKey]

theorem adjustFps_inflight {s s' : DeviceSession} {o : RequestOutcome}
    (h : adjustFps s o = some s') : s'.inflightFrames = s.inflightFrames := by
  unfold adjustFps at h
  split at h
  · dsimp only at h
    split at h
    · split at h
      · cases h
      · cases h
        rfl
    · cases h
      rfl
  · cases h
    rfl

/-- A request is accepted as it was asked for, and its frame number is noted. -/
structure Accepted (s : DeviceSession) (id : ℕ) (request : CaptureRequest) (req : HalRequest)
    (s' : DeviceSession) : Prop where
  id : req.id = id
  frameNumber : req.frameNumber = request.frameNumber
  buffers : req.buffers.map bufferKey =
    request.outputBuffers.map fun buf ↦ (buf.streamId, buf.bufferId)
  inflight : s'.inflightFrames = insert req.frameNumber s.inflightFrames

theorem buildRequest_accepted {s s' : DeviceSession} {id : ℕ} {request : CaptureRequest}
    {o : RequestOutcome} {status : Status} {req : HalRequest}
    (h : buildRequest s id request o = (status, some req, s')) :
    Accepted s id request req s' := by
  unfold buildRequest at h
  split at h
  · cases h
  · split at h
    · cases h
    · rename_i hfps
      split at h
      · cases h
      · split at h
        · cases h
        · cases h
          exact ⟨rfl, rfl, fillBuffers_keys _ _ _ _, by rw [← adjustFps_inflight hfps]⟩

theorem buildRequest_rejected {s s' : DeviceSession} {id : ℕ} {request : CaptureRequest}
    {o : RequestOutcome} {status : Status}
    (h : buildRequest s id request o = (status, none, s')) :
    s'.inflightFrames = s.inflightFrames := by
  unfold buildRequest at h
  split at h
  · cases h
    rfl
  · split at h
    · cases h
      rfl
    · rename_i hfps
      split at h
      · cases h
        exact adjustFps_inflight hfps
      · split at h
        · cases h
          exact adjustFps_inflight hfps
        · cases h

theorem processOneCaptureRequest_accepted {s s' : DeviceSession} {id : ℕ}
    {request : CaptureRequest} {o : RequestOutcome} {status : Status} {req : HalRequest}
    (h : Request.processOneCaptureRequest s id request o = (status, some req, s')) :
    Accepted s id request req s' := by
  unfold Request.processOneCaptureRequest at h
  split at h
  · cases h
  · split at h
    · cases h
    · split at h
      · cases h
      · split at h
        · cases h
        · split at h
          · cases h
          · exact buildRequest_accepted h
        · obtain ⟨hid, hf, hb, hi⟩ := buildRequest_accepted h
          exact ⟨hid, hf, hb, hi⟩

theorem processOneCaptureRequest_rejected {s s' : DeviceSession} {id : ℕ}
    {request : CaptureRequest} {o : RequestOutcome} {status : Status}
    (h : Request.processOneCaptureRequest s id request o = (status, none, s')) :
    s'.inflightFrames = s.inflightFrames := by
  unfold Request.processOneCaptureRequest at h
  split at h
  · cases h
    rfl
  · split at h
    · cases h
      rfl
    · split at h
      · cases h
        rfl
      · split at h
        · cases h
          rfl
        · split at h
          · cases h
            rfl
          · exact buildRequest_rejected h
        · have hi := buildRequest_rejected h
          exact hi

/-! ### The pipeline as a ledger of requests -/

def protocol : Protocol HalRequest Effect Ending where
  same := Same
  refl := Same.refl
  trans := Same.trans
  about := Ending.request
  plan := Ending.effects
  emits e e' := ∃ lockObtained, e' = Effect.turnOut e lockObtained

abbrev Held := Multiset (Entry HalRequest Effect Ending)

def wait (req : HalRequest) : Entry HalRequest Effect Ending := .waiting req.id req

def deliver (ending : Ending) (todo : List Effect) : Entry HalRequest Effect Ending :=
  .performing ending.request.id ending todo

def waitAll (reqs : List HalRequest) : Held := (reqs.map wait : List _)

@[simp]
theorem waitAll_nil : waitAll [] = 0 := rfl

@[simp]
theorem waitAll_cons (req : HalRequest) (reqs : List HalRequest) :
    waitAll (req :: reqs) = wait req ::ₘ waitAll reqs := rfl

@[simp]
theorem waitAll_concat (reqs : List HalRequest) (req : HalRequest) :
    waitAll (reqs ++ [req]) = wait req ::ₘ waitAll reqs := by
  rw [waitAll, List.map_append, ← Multiset.coe_add, add_comm]
  rfl

def formatHeld : FormatThread → Held
  | .converting req => {wait req}
  | .waiting | .looping | .exited => 0

def outputHeld : OutputThread → Held
  | .processing req => {wait req}
  | .performing ending todo => {deliver ending todo}
  | .waiting | .looping | .exited => 0

def phaseHeld : FlushPhase → Held
  | .entered => 0
  | .waiting reqs _ => waitAll reqs
  | .returning reqs => waitAll reqs
  | .performing ending todo reqs => deliver ending todo ::ₘ waitAll reqs

def callHeld : Call → Held
  | .submitting req => {wait req}
  | .flushing f => phaseHeld f.phase
  | .idle | .joiningOutput | .joiningFormat => 0

def held (s : State) : Held :=
  callHeld s.call + waitAll s.formatQueue + formatHeld s.format + waitAll s.outputQueue +
    outputHeld s.output

def ledger (s : State) : Ledger HalRequest Effect Ending := ⟨s.accepted, held s, s.log, s.ended⟩

/-! ### Steps of the pipeline as moves of the ledger -/

abbrev Moves (s s' : State) : Prop := ∃ ms, Run (Step protocol) (ledger s) ms (ledger s')

theorem moves_none {s s' : State} (hh : held s' = held s) (ha : s'.accepted = s.accepted)
    (hl : s'.log = s.log) (he : s'.ended = s.ended) : Moves s s' := by
  have h : ledger s' = ledger s := by rw [ledger, ha, hh, hl, he, ledger]
  rw [Moves, h]
  exact ⟨[], .nil _⟩

theorem moves_accept {s s' : State} {req : HalRequest} (hid : req.id = s.accepted.length)
    (hh : held s' = wait req ::ₘ held s) (ha : s'.accepted = s.accepted ++ [req])
    (hl : s'.log = s.log) (he : s'.ended = s.ended) : Moves s s' := by
  have h : ledger s' = { ledger s with
      accepted := (ledger s).accepted ++ [req]
      held := .waiting (ledger s).accepted.length req ::ₘ (ledger s).held } := by
    rw [ledger, ha, hh, hl, he, wait, hid]
    rfl
  rw [Moves, h]
  exact ⟨[_], .one (.accept req)⟩

theorem moves_change {s s' : State} {req req' : HalRequest} {h : Held} (hs : Same req req')
    (hh : held s = wait req ::ₘ h) (hh' : held s' = wait req' ::ₘ h)
    (ha : s'.accepted = s.accepted) (hl : s'.log = s.log) (he : s'.ended = s.ended) :
    Moves s s' := by
  have h : ledger s' = { ledger s with held := .waiting req.id req' ::ₘ h } := by
    rw [ledger, ha, hh', hl, he, wait, hs.id]
    rfl
  rw [Moves, h]
  exact ⟨[_], .one (.change hh hs)⟩

theorem moves_conclude {s s' : State} {req : HalRequest} {ending : Ending} {h : Held}
    (hs : Same req ending.request) (hh : held s = wait req ::ₘ h)
    (hh' : held s' = deliver ending ending.effects ::ₘ h)
    (ha : s'.accepted = s.accepted) (hl : s'.log = s.log) (he : s'.ended = s.ended) :
    Moves s s' := by
  have h : ledger s' = { ledger s with
      held := .performing req.id ending (protocol.plan ending) ::ₘ h } := by
    rw [ledger, ha, hh', hl, he, deliver, hs.id]
    rfl
  rw [Moves, h]
  exact ⟨[_], .one (.conclude hh hs)⟩

theorem moves_perform {s s' : State} {ending : Ending} {e : Effect} {todo : List Effect}
    {lockObtained : Bool} {h : Held} (hh : held s = deliver ending (e :: todo) ::ₘ h)
    (hh' : held s' = deliver ending todo ::ₘ h) (ha : s'.accepted = s.accepted)
    (hl : s'.log = s.log ++ [(ending.request.id, Effect.turnOut e lockObtained)])
    (he : s'.ended = s.ended) : Moves s s' := by
  have h : ledger s' = { ledger s with
      held := .performing ending.request.id ending todo ::ₘ h
      log := (ledger s).log ++ [(ending.request.id, Effect.turnOut e lockObtained)] } := by
    rw [ledger, ha, hh', hl, he, deliver]
    rfl
  rw [Moves, h]
  exact ⟨[_], .one (.perform hh ⟨lockObtained, rfl⟩)⟩

theorem moves_finish {s s' : State} {ending : Ending} {h : Held}
    (hh : held s = deliver ending [] ::ₘ h) (hh' : held s' = h)
    (ha : s'.accepted = s.accepted) (hl : s'.log = s.log)
    (he : s'.ended = s.ended ++ [(ending.request.id, ending)]) : Moves s s' := by
  have h : ledger s' = { ledger s with
      held := h
      ended := (ledger s).ended ++ [(ending.request.id, ending)] } := by
    rw [ledger, ha, hh', hl, he]
    rfl
  rw [Moves, h]
  exact ⟨[_], .one (.finish hh)⟩

variable {F : Type}

/-- A conclusion that plans nothing, and the end of the request with it. -/
theorem moves_drop {s s' : State} {req : HalRequest} {ending : Ending} {h : Held}
    (hs : Same req ending.request) (hplan : ending.effects = [])
    (hh : held s = wait req ::ₘ h) (hh' : held s' = h) (ha : s'.accepted = s.accepted)
    (hl : s'.log = s.log) (he : s'.ended = s.ended ++ [(ending.request.id, ending)]) :
    Moves s s' := by
  have h' : ledger s' = { ledger s with
      held := h
      ended := (ledger s).ended ++ [(req.id, ending)] } := by
    rw [ledger, ha, hh', hl, he, hs.id]
    rfl
  have hc : Step protocol (ledger s) (.conclude req.id ending)
      { ledger s with held := .performing req.id ending (protocol.plan ending) ::ₘ h } :=
    .conclude hh hs
  have hp : protocol.plan ending = [] := hplan
  rw [hp] at hc
  rw [Moves, h']
  exact ⟨[_, .finish req.id], .cons hc (.one (.finish rfl))⟩

theorem callHeld_signal (c : Call) : callHeld c.signal = callHeld c := by
  cases c with
  | flushing f =>
    cases hp : f.phase <;> simp only [Call.signal, hp, callHeld, phaseHeld]
  | _ => rfl

theorem moves_flush {s s' : State} {f : Flush} {l : Label F} (hc : s.call = .flushing f)
    (h : s.stepFlush f l = some s') : Moves s s' := by
  have hheld : held s = phaseHeld f.phase + waitAll s.formatQueue + formatHeld s.format +
      waitAll s.outputQueue + outputHeld s.output := by rw [held, hc, callHeld]
  cases l <;> simp only [State.stepFlush, reduceCtorEq] at h
  case flushTake =>
    split at h
    · rename_i hp
      cases h
      refine moves_none ?_ rfl rfl rfl
      rw [hheld, hp]
      by_cases hr : s.processingRequest
      · simp only [held, State.flushTake, hr, callHeld, phaseHeld, waitAll_nil, if_true]
        abel
      · simp only [held, State.flushTake, hr, callHeld, phaseHeld, waitAll_nil]
        simp only [Bool.false_eq_true, if_false]
        abel
    · cases h
  case flushSignalled =>
    split at h
    · rename_i reqs hp
      cases h
      refine moves_none ?_ rfl rfl rfl
      rw [hheld, hp]
      rfl
    · cases h
  case flushTimeout =>
    split at h
    · rename_i reqs signalled hp
      cases h
      refine moves_none ?_ rfl rfl rfl
      rw [hheld, hp]
      rfl
    · cases h
  case flushNext =>
    split at h
    · rename_i req reqs hp
      cases h
      have hs : Same req (Ending.mk .requestError req).request := .refl req
      refine moves_conclude (h := waitAll reqs + waitAll s.formatQueue + formatHeld s.format +
        waitAll s.outputQueue + outputHeld s.output) hs ?_ ?_ rfl rfl rfl
      · rw [hheld, hp]
        simp only [phaseHeld, waitAll_cons, Multiset.cons_add]
      · simp only [held, callHeld, phaseHeld, Multiset.cons_add]
    · cases h
  case flushPerform lockObtained =>
    split at h
    · rename_i ending e todo reqs hp
      cases h
      have hh : held s = deliver ending (e :: todo) ::ₘ (waitAll reqs + waitAll s.formatQueue +
          formatHeld s.format + waitAll s.outputQueue + outputHeld s.output) := by
        rw [hheld, hp]
        simp only [phaseHeld, Multiset.cons_add]
      refine moves_perform hh ?_ rfl rfl rfl
      simp only [held, State.perform, callHeld, phaseHeld, Multiset.cons_add]
    · cases h
  case flushDone =>
    split at h
    · rename_i ending reqs hp
      cases h
      refine moves_finish (h := waitAll reqs + waitAll s.formatQueue + formatHeld s.format +
        waitAll s.outputQueue + outputHeld s.output) ?_ ?_ rfl rfl rfl
      · rw [hheld, hp]
        simp only [phaseHeld, Multiset.cons_add]
      · simp only [held, State.finish, callHeld, phaseHeld]
    · cases h
  case flushReturn =>
    split at h
    · rename_i hp
      split at h
      · cases h
        refine moves_none ?_ rfl rfl rfl
        rw [hheld, hp]
        rfl
      · cases h
        refine moves_none ?_ rfl rfl rfl
        rw [hheld, hp]
        rfl
    · cases h

theorem moves_call {s s' : State} {l : Label F} (h : s.stepCall l = some s') : Moves s s' := by
  unfold State.stepCall at h
  split at h
  · rename_i hc
    have hheld : held s = 0 + waitAll s.formatQueue + formatHeld s.format +
        waitAll s.outputQueue + outputHeld s.output := by rw [held, hc, callHeld]
    split at h
    · obtain ⟨r, -, rfl⟩ := Option.map_eq_some_iff.mp h
      exact moves_none rfl rfl rfl rfl
    · split at h
      · rename_i status req device hr
        cases h
        refine moves_accept (processOneCaptureRequest_accepted hr).id ?_ rfl rfl rfl
        rw [hheld]
        simp only [held, callHeld, Multiset.singleton_add, zero_add, Multiset.cons_add]
      · cases h
        exact moves_none rfl rfl rfl rfl
    · split at h
      · cases h
        exact moves_none rfl rfl rfl rfl
      · cases h
        refine moves_none ?_ rfl rfl rfl
        rw [hheld]
        rfl
    · split at h
      · cases h
        exact moves_none rfl rfl rfl rfl
      · cases h
        refine moves_none ?_ rfl rfl rfl
        rw [hheld]
        rfl
    · cases h
  · rename_i req hc
    split at h
    · cases h
      refine moves_none ?_ rfl rfl rfl
      simp only [held, hc, callHeld, waitAll_concat, ← Multiset.singleton_add]
      abel
    · cases h
  · rename_i f hc
    exact moves_flush hc h
  · rename_i hc
    split at h
    · split at h
      · cases h
        refine moves_none ?_ rfl rfl rfl
        simp only [held, hc, callHeld]
      · cases h
    · cases h
  · rename_i hc
    split at h
    · split at h
      · cases h
        refine moves_none ?_ rfl rfl rfl
        simp only [held, hc, callHeld]
      · cases h
    · cases h

theorem moves_format {s s' : State} {l : Label F} (h : s.stepFormat l = some s') :
    Moves s s' := by
  cases l <;> simp only [State.stepFormat, reduceCtorEq] at h
  case formatTake =>
    split at h
    · rename_i req reqs hf hq
      cases h
      refine moves_none ?_ rfl rfl rfl
      simp only [held, hf, hq, formatHeld, waitAll_cons, ← Multiset.singleton_add]
      abel
    · cases h
  case formatConvert decoded shareFd =>
    split at h
    · rename_i req hf
      split at h
      · rename_i req' hc
        cases h
        refine moves_change (h := callHeld s.call + waitAll s.formatQueue +
          waitAll s.outputQueue + outputHeld s.output) (convertFormat_same hc) ?_ ?_ rfl rfl rfl
        · simp only [held, hf, formatHeld, ← Multiset.singleton_add]
          abel
        · simp only [held, formatHeld, waitAll_concat, ← Multiset.singleton_add]
          abel
      · cases h
        have hs : Same req (Ending.mk .unknownFormat req).request := .refl req
        have hh : held s = wait req ::ₘ (callHeld s.call + waitAll s.formatQueue +
            waitAll s.outputQueue + outputHeld s.output) := by
          simp only [held, hf, formatHeld, ← Multiset.singleton_add]
          abel
        refine moves_drop hs rfl hh ?_ rfl rfl rfl
        simp only [held, State.finish, formatHeld, add_zero]
    · cases h
  case formatIdle =>
    split at h
    · rename_i hf
      cases h
      refine moves_none ?_ rfl rfl rfl
      simp only [held, hf.1, formatHeld]
    · cases h
  case formatLoop =>
    split at h
    · rename_i hf
      cases h
      refine moves_none ?_ rfl rfl rfl
      by_cases he : s.formatExit
      · simp only [held, hf, he, formatHeld, if_true]
      · simp only [held, hf, he, formatHeld]
        rfl
    · cases h

theorem moves_output {s s' : State} {l : Label F} (h : s.stepOutput l = some s') :
    Moves s s' := by
  cases l <;> simp only [State.stepOutput, reduceCtorEq] at h
  case outputTake =>
    split at h
    · rename_i req reqs ho hq
      cases h
      refine moves_none ?_ rfl rfl rfl
      simp only [held, ho, hq, outputHeld, waitAll_cons, ← Multiset.singleton_add]
      abel
    · cases h
  case outputProcess o =>
    split at h
    · rename_i req ho
      cases h
      have hs : Same req (Ending.mk (processRequest req o).1 (processRequest req o).2).request :=
        processRequest_same req o
      refine moves_conclude (h := callHeld s.call + waitAll s.formatQueue + formatHeld s.format +
        waitAll s.outputQueue) hs ?_ ?_ rfl rfl rfl
      · simp only [held, ho, outputHeld, ← Multiset.singleton_add]
        abel
      · simp only [held, outputHeld, ← Multiset.singleton_add]
        abel
    · cases h
  case outputPerform lockObtained =>
    split at h
    · rename_i ending e todo ho
      cases h
      have hh : held s = deliver ending (e :: todo) ::ₘ (callHeld s.call +
          waitAll s.formatQueue + formatHeld s.format + waitAll s.outputQueue) := by
        simp only [held, ho, outputHeld, ← Multiset.singleton_add]
        abel
      refine moves_perform hh ?_ rfl rfl rfl
      simp only [held, State.perform, outputHeld, ← Multiset.singleton_add]
      abel
    · cases h
  case outputDone =>
    split at h
    · rename_i ending ho
      have hh : held s = deliver ending [] ::ₘ (callHeld s.call + waitAll s.formatQueue +
          formatHeld s.format + waitAll s.outputQueue) := by
        simp only [held, ho, outputHeld, ← Multiset.singleton_add]
        abel
      split at h
      · cases h
        refine moves_finish hh ?_ rfl rfl rfl
        simp only [held, State.finish, outputHeld, add_zero]
      · cases h
        refine moves_finish hh ?_ rfl rfl rfl
        simp only [held, State.finish, State.signalRequestDone, callHeld_signal, outputHeld,
          add_zero]
      · cases h
        refine moves_finish hh ?_ rfl rfl rfl
        simp only [held, State.finish, State.signalRequestDone, callHeld_signal, outputHeld,
          add_zero]
    · cases h
  case outputIdle =>
    split at h
    · rename_i ho
      cases h
      refine moves_none ?_ rfl rfl rfl
      simp only [held, ho.1, outputHeld]
    · cases h
  case outputLoop =>
    split at h
    · rename_i ho
      cases h
      refine moves_none ?_ rfl rfl rfl
      by_cases he : s.outputExit
      · simp only [held, ho, he, outputHeld, if_true]
      · simp only [held, ho, he, outputHeld]
        rfl
    · cases h

/-- Every step of the pipeline is a run of moves of the ledger. -/
theorem step_moves {s s' : State} {l : Label F} (h : s.step l = some s') : Moves s s' := by
  unfold State.step at h
  split at h
  · exact moves_call h
  · exact moves_format h
  · exact moves_output h

theorem simulation :
    Simulation (fun s l ↦ l = ledger s) (ofPartial (State.step (F := F))) (Step protocol) := by
  rintro s a s' l rfl h
  obtain ⟨ms, hr⟩ := step_moves h
  exact ⟨ms, ledger s', hr, rfl⟩

theorem ledger_invariant {device : DeviceSession} {s : State}
    (h : Reachable (ofPartial (State.step (F := F))) (State.create device) s) :
    protocol.Invariant (ledger s) := by
  obtain ⟨as, h⟩ := h
  obtain ⟨ms, l, hr, rfl⟩ := simulation.run h _ rfl
  exact run_invariant hr invariant_empty

end VirtualCamera.Session.Holding
