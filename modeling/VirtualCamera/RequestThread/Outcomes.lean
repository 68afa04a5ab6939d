import Mathlib.Data.Multiset.Range
import VirtualCamera.RequestThread.Objects

namespace VirtualCamera.RequestThread

open Library.Transition

/-- What the thread does not change in a member of the batch while it has it. -/
def NextRequest.key (next : NextRequest) : ℕ × ℕ × Bool :=
  (next.captureRequest, next.capture, next.submitted)

namespace State

variable {cfg : Config} {s s' : State}

/-! ### What became of the captures -/

/-- The captures that were reported with `ERROR_CAMERA_REQUEST`. -/
def reported (s : State) : List ℕ := s.errors.map (·.capture)

/-- The captures that the HAL took. -/
def submitted (s : State) : List ℕ := s.submissions.map (·.capture)

/-- The captures in the hands of the thread. -/
def held (s : State) : List ℕ := s.mNextRequests.map (·.capture)

def captureOf (s : State) (r : ℕ) : ℕ := (s.requests r).mResultExtras.capture

/-- Every capture is accounted for once. -/
def Balanced (s : State) : Prop :=
  (s.reported + s.submitted + s.held : Multiset ℕ) = Multiset.range s.queue.handed.length

structure Ledger (s : State) : Prop where
  unsubmitted : ∀ next ∈ s.mNextRequests, next.submitted = false
  captures : ∀ next ∈ s.mNextRequests, s.captureOf next.captureRequest = next.capture
  balanced : s.deviceError = false → s.Balanced

/-! ### Steps that settle nothing -/

/-- Nothing the ledger speaks of changes. -/
structure Quiet (s s' : State) : Prop where
  handed : s'.queue.handed = s.queue.handed
  keys : s'.mNextRequests.map (·.key) = s.mNextRequests.map (·.key)
  captures : ∀ r, s'.captureOf r = s.captureOf r
  errors : s'.errors = s.errors
  submissions : s'.submissions = s.submissions
  deviceError : s'.deviceError = false → s.deviceError = false

theorem Quiet.refl (s : State) : s.Quiet s := ⟨rfl, rfl, fun _ ↦ rfl, rfl, rfl, id⟩

theorem map_of_keys {α : Type} {l l' : List NextRequest}
    (h : l'.map (·.key) = l.map (·.key)) (f : ℕ × ℕ × Bool → α) :
    l'.map (fun next ↦ f next.key) = l.map fun next ↦ f next.key := by
  have := congrArg (List.map f) h
  rw [List.map_map, List.map_map] at this
  exact this

theorem forall_of_keys {l l' : List NextRequest} (h : l'.map (·.key) = l.map (·.key))
    {p : ℕ × ℕ × Bool → Prop} (hl : ∀ next ∈ l, p next.key) : ∀ next ∈ l', p next.key := by
  intro next hn
  have hmem : next.key ∈ l.map (·.key) := h ▸ List.mem_map_of_mem hn
  obtain ⟨next', hn', he⟩ := List.mem_map.mp hmem
  exact he ▸ hl next' hn'

theorem Ledger.quiet (h : s.Ledger) (hq : s.Quiet s') : s'.Ledger := by
  have hheld : s'.held = s.held := map_of_keys hq.keys fun key ↦ key.2.1
  refine ⟨?_, ?_, fun he ↦ ?_⟩
  · exact forall_of_keys (p := fun key ↦ key.2.2 = false) hq.keys h.unsubmitted
  · refine forall_of_keys (p := fun key ↦ s'.captureOf key.1 = key.2.1) hq.keys fun next hn ↦ ?_
    exact (hq.captures _).trans (h.captures next hn)
  · have hb := h.balanced (hq.deviceError he)
    unfold Balanced reported submitted at hb ⊢
    rw [hheld, hq.handed, hq.errors, hq.submissions]
    exact hb

/-! ### The end of a batch -/

theorem foldl_notifyError (hlive : cfg.listener = true) (l : List NextRequest) (s : State) :
    l.foldl (fun s next ↦ s.notifyError cfg next.captureRequest) s =
      { s with
        errors := s.errors ++ l.map fun next ↦ (s.requests next.captureRequest).mResultExtras } := by
  induction l generalizing s with
  | nil => simp only [List.foldl_nil, List.map_nil, List.append_nil]
  | cons next l ih =>
    rw [List.foldl_cons, ih]
    simp only [notifyError, hlive, if_true, List.map_cons, List.append_assoc,
      List.cons_append, List.nil_append]

theorem cleanUpFailedRequests_error_eq (hlive : cfg.listener = true)
    (hlock : s.mRequestLock = false) (hun : ∀ next ∈ s.mNextRequests, next.submitted = false)
    (after : Stage) :
    s.cleanUpFailedRequests cfg true after =
      { s with
        errors := s.errors ++
          s.mNextRequests.map fun next ↦ (s.requests next.captureRequest).mResultExtras
        mNextRequests := []
        stage := after } := by
  have hall : s.mNextRequests.filter (!·.submitted) = s.mNextRequests :=
    List.filter_eq_self.mpr fun next hn ↦ by rw [hun next hn]; rfl
  simp only [cleanUpFailedRequests, hlock, Bool.false_eq_true, if_false, if_true, hall,
    foldl_notifyError hlive]
  split
  · rename_i hn
    simp [hn]
  · rfl

/-- The batch goes with the device: nothing is promised any more. -/
theorem ledger_give_up (hn : s.mNextRequests = []) (he : s.deviceError = true) : s.Ledger := by
  refine ⟨?_, ?_, fun hc ↦ ?_⟩
  · rw [hn]
    exact fun _ hm ↦ absurd hm List.not_mem_nil
  · rw [hn]
    exact fun _ hm ↦ absurd hm List.not_mem_nil
  · rw [he] at hc
    cases hc

/-- All of the batch is reported. -/
theorem Ledger.report (h : s.Ledger) (after : Stage) :
    Ledger { s with
      errors := s.errors ++
        s.mNextRequests.map fun next ↦ (s.requests next.captureRequest).mResultExtras
      mNextRequests := []
      stage := after } := by
  have hheld : (s.mNextRequests.map fun next ↦
      (s.requests next.captureRequest).mResultExtras).map (·.capture) = s.held := by
    rw [List.map_map]
    exact List.map_congr_left h.captures
  refine ⟨fun _ hm ↦ absurd hm List.not_mem_nil, fun _ hm ↦ absurd hm List.not_mem_nil,
    fun he ↦ ?_⟩
  have hb := h.balanced he
  unfold Balanced reported submitted submissions held at hb ⊢
  rw [List.map_append, hheld]
  rw [← hb]
  simp only [held, ← Multiset.coe_add, List.map_nil, Multiset.coe_nil, add_zero]
  exact add_right_comm _ _ _

/-- All of the batch is with the HAL. -/
theorem Ledger.submit (h : s.Ledger) (hn : s'.mNextRequests = [])
    (hq : s'.queue.handed = s.queue.handed) (he : s'.errors = s.errors)
    (hd : s'.deviceError = s.deviceError)
    (hs : (s'.submitted : Multiset ℕ) = s.submitted + s.held) : s'.Ledger := by
  refine ⟨?_, ?_, fun hc ↦ ?_⟩
  · rw [hn]
    exact fun _ hm ↦ absurd hm List.not_mem_nil
  · rw [hn]
    exact fun _ hm ↦ absurd hm List.not_mem_nil
  · have hb := h.balanced (hd ▸ hc)
    have hheld : s'.held = [] := by
      unfold held
      rw [hn]
      rfl
    unfold Balanced reported at hb ⊢
    rw [hq, he, hs, hheld, ← hb]
    simp only [Multiset.coe_nil, add_zero]
    exact (add_assoc _ _ _).symm

/-! ### The queues -/

/-- Requests are created, and none of the batch changes. -/
theorem Ledger.create (h : s.Ledger) (hobj : s.Objects) (requests : List CaptureRequest)
    {queue : Queue} (hq : queue.handed = s.queue.handed) :
    Ledger { s with requests := s.createRequests cfg requests, queue := queue } := by
  refine ⟨h.unsubmitted, fun next hn ↦ ?_, fun he ↦ ?_⟩
  · have := h.captures next hn
    simp only [captureOf, createRequests_of_lt (hobj.next hn)]
    exact this
  · have hb := h.balanced he
    unfold Balanced at hb ⊢
    rw [hq]
    exact hb

theorem captureOf_number_ne {r r' : ℕ} (h : r' ≠ r) :
    (s.number r).captureOf r' = s.captureOf r' := by
  simp only [captureOf, number, setRequest, Function.update_of_ne h]

theorem captureOf_number (s : State) (r : ℕ) :
    (s.number r).captureOf r = s.queue.handed.length := by
  simp only [captureOf, number, setRequest, Function.update_self]

theorem length_handed_number (s : State) (r : ℕ) :
    (s.number r).queue.handed.length = s.queue.handed.length + 1 := by
  simp only [number, Queue.give, List.length_append, List.length_cons, List.length_nil]

/-- One more capture is numbered and reported at once. -/
theorem Balanced.report (h : s.Balanced)
    (hr : s'.reported = s.reported ++ [s.queue.handed.length])
    (hs : s'.submitted = s.submitted) (hh : s'.held = s.held)
    (hl : s'.queue.handed.length = s.queue.handed.length + 1) : s'.Balanced := by
  unfold Balanced at h ⊢
  rw [hr, hs, hh, hl, Multiset.range_succ, ← h, ← Multiset.coe_add, Multiset.coe_singleton,
    add_right_comm _ ({_} : Multiset ℕ), add_right_comm _ ({_} : Multiset ℕ),
    ← Multiset.singleton_add, add_comm]

/-- A request that gets a number and is reported at once. -/
theorem Ledger.abort (hlive : cfg.listener = true) (h : s.Ledger) {r : ℕ} (hr : r ∉ s.batch) :
    (State.abort cfg s r).Ledger := by
  simp only [State.abort, notifyError, hlive, if_true]
  refine ⟨h.unsubmitted, fun next hn ↦ ?_, fun he ↦ ?_⟩
  · have hne : next.captureRequest ≠ r := fun hc ↦ hr (hc ▸ List.mem_map_of_mem hn)
    exact (captureOf_number_ne hne).trans (h.captures next hn)
  · refine (h.balanced he).report ?_ rfl rfl (length_handed_number s r)
    have hcap := captureOf_number s r
    unfold captureOf at hcap
    unfold reported
    rw [List.map_append, List.map_singleton, hcap]
    rfl

/-- Requests that are not in the batch are numbered and reported. -/
theorem Ledger.abortAll (hlive : cfg.listener = true) {l : List ℕ} (h : s.Ledger)
    (hl : ∀ r ∈ l, r ∉ s.batch) : (l.foldl (State.abort cfg) s).Ledger := by
  induction l generalizing s with
  | nil => exact h
  | cons r l ih =>
    refine ih (h.abort hlive (hl r List.mem_cons_self)) fun r' hr' ↦ ?_
    have hbatch : (State.abort cfg s r).batch = s.batch := batch_notifyError (s.number r) r
    rw [hbatch]
    exact hl r' (List.mem_cons_of_mem _ hr')

theorem Ledger.clear (hlive : cfg.listener = true) (hobj : s.Objects) (h : s.Ledger) :
    (s.clear cfg).Ledger := by
  have hout : ∀ r ∈ s.queue.mRequestQueue, r ∉ s.batch :=
    fun r hr hb ↦ List.disjoint_of_nodup_append hobj.distinct hr hb
  have hall := h.abortAll hlive hout
  simp only [State.clear, hlive, if_true]
  exact ⟨hall.unsubmitted, hall.captures, hall.balanced⟩

theorem captureOf_dequeue_ne {r r' : ℕ} {queue : Queue} (h : r' ≠ r) :
    (s.dequeue r queue).captureOf r' = s.captureOf r' := by
  simp only [captureOf, dequeue, setTriggerIds, number, setRequest, Function.update_of_ne h]

theorem captureOf_dequeue (s : State) (r : ℕ) (queue : Queue) :
    (s.dequeue r queue).captureOf r = queue.handed.length := by
  simp only [captureOf, dequeue, setTriggerIds, number, setRequest, Function.update_self]

section Dequeue

variable {r : ℕ} {queue : Queue}

theorem Ledger.dequeue_captures (h : s.Ledger) (hs : s.Selected r queue) :
    ∀ next ∈ s.mNextRequests,
      (s.dequeue r queue).captureOf next.captureRequest = next.capture :=
  fun next hn ↦ (captureOf_dequeue_ne (hs.ne_of_batch hn)).trans (h.captures next hn)

theorem length_handed_dequeue (hs : s.Selected r queue) :
    (s.dequeue r queue).queue.handed.length = s.queue.handed.length + 1 := by
  simp only [dequeue, queue_setTriggerIds, length_handed_number, hs.handed]

/-- A request that is numbered and goes into the batch. -/
theorem Ledger.collect (h : s.Ledger) (hs : s.Selected r queue) :
    ((s.dequeue r queue).addNextRequest r).Ledger := by
  have hcap := captureOf_dequeue s r queue
  let new : NextRequest :=
    { captureRequest := r, capture := (s.dequeue r queue).captureOf r }
  have hbase : Ledger { s.dequeue r queue with mNextRequests := s.mNextRequests ++ [new] } := by
    refine ⟨?_, ?_, fun he ↦ ?_⟩
    · intro next hn
      obtain hn | hn := List.mem_append.mp hn
      · exact h.unsubmitted next hn
      · rw [List.mem_singleton.mp hn]
    · intro next hn
      obtain hn | hn := List.mem_append.mp hn
      · exact h.dequeue_captures hs next hn
      · rw [List.mem_singleton.mp hn]
        rfl
    · have hb := h.balanced he
      have hlen := length_handed_dequeue hs
      unfold Balanced reported submitted submissions held at hb ⊢
      have hnew : new.capture = s.queue.handed.length := hcap.trans (by rw [hs.handed])
      rw [List.map_append, List.map_cons, List.map_nil, hnew, hlen, Multiset.range_succ, ← hb,
        ← Multiset.singleton_add, ← Multiset.coe_add, Multiset.coe_singleton, ← add_assoc,
        add_comm]
      rfl
  refine hbase.quiet ?_
  simp only [addNextRequest]
  split
  · exact ⟨rfl, rfl, fun _ ↦ rfl, rfl, rfl, id⟩
  · exact ⟨rfl, rfl, fun _ ↦ rfl, rfl, rfl, id⟩

theorem endBatch_empty (h : s.mNextRequests = []) :
    s.endBatch cfg = { s with mRequestLock := false, stage := .idle } := by
  simp only [endBatch, h, if_true]

/-- The first request of a batch, whose input buffer cannot be had. -/
theorem Ledger.skip (hlive : cfg.listener = true) (h : s.Ledger) (hs : s.Selected r queue)
    (hn : s.mNextRequests = []) :
    (((s.dequeue r queue).notifyError cfg r).endBatch cfg).Ledger := by
  have hnext : ((s.dequeue r queue).notifyError cfg r).mNextRequests = [] := by
    simp only [notifyError, hlive, if_true]
    exact hn
  rw [endBatch_empty hnext]
  simp only [notifyError, hlive, if_true]
  refine ⟨fun _ hm ↦ absurd (hn ▸ hm) List.not_mem_nil,
    fun _ hm ↦ absurd (hn ▸ hm) List.not_mem_nil, fun he ↦ ?_⟩
  refine (h.balanced he).report ?_ rfl rfl (length_handed_dequeue hs)
  have hcap := captureOf_dequeue s r queue
  unfold captureOf at hcap
  unfold reported
  rw [List.map_append, List.map_singleton, hcap, hs.handed]
  rfl

end Dequeue

/-! ### Preparing and sending -/

theorem captureOf_setRequest {r : ℕ} {request : CaptureRequest}
    (h : request.fixed = (s.requests r).fixed) (r' : ℕ) :
    (s.setRequest r request).captureOf r' = s.captureOf r' := by
  by_cases he : r' = r
  · subst he
    simp only [captureOf, setRequest, Function.update_self]
    exact congrArg Prod.fst h
  · simp only [captureOf, setRequest, Function.update_of_ne he]

theorem quiet_setNext {r i : ℕ} {request : CaptureRequest} {next : NextRequest}
    (next' : NextRequest) (hfixed : request.fixed = (s.requests r).fixed)
    (hn : s.mNextRequests[i]? = some next)
    (hkey : next'.key = next.key) : s.Quiet ((s.setRequest r request).setNext i next') := by
  refine ⟨rfl, ?_, captureOf_setRequest hfixed, rfl, rfl, id⟩
  have hat : (s.mNextRequests.map (·.key))[i]? = some next'.key := by
    rw [List.getElem?_map, hn, hkey]
    rfl
  simp only [setNext, setRequest, List.map_set]
  exact set_of_getElem? hat

/-- The HAL has all of the batch. -/
theorem Ledger.send (h : s.Ledger) :
    (s.send cfg true s.mNextRequests.length).Ledger := by
  obtain ⟨requests, triggers, he⟩ := send_shape cfg s true s.mNextRequests.length
  simp only [decide_true, Bool.and_self, if_true] at he
  rw [he]
  have hsub : ((s.handed s.mNextRequests.length requests triggers).submitted : Multiset ℕ) =
      s.submitted + s.held := by
    unfold submitted held
    rw [submissions_handed, List.take_length, List.map_append, List.map_reverse, List.map_map,
      ← Multiset.coe_add, Multiset.coe_reverse, add_comm]
    rfl
  exact h.submit rfl rfl rfl rfl hsub

theorem send_failed (cfg : Config) (hlock : s.mRequestLock = false) {ok : Bool} {n : ℕ}
    (hfail : (ok && decide (n = s.mNextRequests.length)) = false) :
    ∃ requests triggers hal, s.send cfg ok n =
      { s with
        requests := requests
        triggers := triggers
        hal := hal
        deviceError := s.deviceError || s.parent
        mNextRequests := []
        stage := .ended } := by
  obtain ⟨requests, triggers, he⟩ := send_shape cfg s ok n
  simp only [hfail, Bool.false_eq_true, if_false] at he
  rw [he]
  rw [fail_eq (by exact hlock)]
  exact ⟨_, _, _, rfl⟩

/-! ### Runs in which no batch is broken off -/

/-- A batch gets all its requests, with the input buffers they need; the device lives, and no
answer ends the thread without an error of the device. -/
def Unbroken (cfg : Config) (s : State) : Label → Prop
  | .take input => s.mNextRequests = [] ∨ s.Fills ∧
      ∀ p ∈ s.queue.select, (s.requests p.1).mInputStream = true → input = true
  | .wake exitPending => s.mNextRequests = [] ∨ (exitPending = false ∧ s.noWork = false)
  | .session answer => ∀ first ∈ s.mNextRequests.head?,
      s.reconfigureRequired cfg answer first = true → s.forcedToIdle answer first = true
  | .outputs outcome => outcome ≠ .noSurfaceIds
  | .destroy => False
  | _ => True

instance (cfg : Config) (s : State) : (l : Label) → Decidable (Unbroken cfg s l)
  | .take input => inferInstanceAs (Decidable (s.mNextRequests = [] ∨ s.Fills ∧
      ∀ p ∈ s.queue.select, (s.requests p.1).mInputStream = true → input = true))
  | .wake exitPending => inferInstanceAs
      (Decidable (s.mNextRequests = [] ∨ (exitPending = false ∧ s.noWork = false)))
  | .session answer => inferInstanceAs (Decidable (∀ first ∈ s.mNextRequests.head?,
      s.reconfigureRequired cfg answer first = true → s.forcedToIdle answer first = true))
  | .outputs outcome => inferInstanceAs (Decidable (outcome ≠ .noSurfaceIds))
  | .destroy => inferInstanceAs (Decidable False)
  | .queueRequestList _ | .setRepeatingRequests _ | .clearRepeatingRequests | .clear
  | .queueTrigger _ | .setRotateAndCropAutoBehavior _ | .setCameraMute _
  | .configureStreams _ _ _ | .begin | .sleep | .prepare | .send _ _ | .check _ =>
    inferInstanceAs (Decidable True)

/-- What holds of the thread by the stage it is in. -/
structure Phase (s : State) : Prop where
  parent : s.parent = true
  lock : s.mRequestLock = decide (s.stage = .collecting)
  free : s.stage ≠ .blocked
  empty : s.stage ∈ [Stage.idle, .checking, .ended] → s.mNextRequests = []

theorem Phase.unlocked (h : s.Phase) (hs : s.stage ≠ .collecting) : s.mRequestLock = false := by
  rw [h.lock]
  exact decide_eq_false hs

/-- The thread goes on to a stage in which it does not hold the lock. -/
theorem Phase.move (h : s.Phase) (stage : Stage) (hp : s'.parent = s.parent)
    (hl : s'.mRequestLock = false) (hs : s'.stage = stage)
    (hstage : stage ∉ [Stage.collecting, .blocked])
    (hn : stage ∈ [Stage.idle, .checking, .ended] → s'.mNextRequests = []) : s'.Phase := by
  simp only [List.mem_cons, List.not_mem_nil, or_false, not_or] at hstage
  refine ⟨hp.trans h.parent, ?_, ?_, ?_⟩
  · rw [hl, hs]
    exact (decide_eq_false hstage.1).symm
  · rw [hs]
    exact hstage.2
  · rw [hs]
    exact hn

structure Accounted (s : State) : Prop where
  phase : s.Phase
  ledger : s.Ledger

theorem Accounted.clear (hlive : cfg.listener = true) (hobj : s.Objects) (h : s.Accounted) :
    (s.clear cfg).Accounted := by
  refine ⟨?_, h.ledger.clear hlive hobj⟩
  obtain ⟨requests, queue, errors, he⟩ := foldl_abort_shape cfg s.queue.mRequestQueue s
  simp only [State.clear, hlive, if_true, he]
  exact ⟨h.phase.parent, h.phase.lock, h.phase.free, h.phase.empty⟩

theorem Accounted.wake (h : s.Accounted) {exitPending : Bool}
    (hok : s.mNextRequests = [] ∨ (exitPending = false ∧ s.noWork = false)) :
    (s.wake cfg exitPending).Accounted := by
  simp only [State.wake]
  split
  · rename_i hend
    have hn : s.mNextRequests = [] := by
      refine hok.resolve_right fun hc ↦ ?_
      have hwork : s.noWork = true ∨ exitPending = true := by simpa using hend
      obtain hw | hw := hwork
      · rw [hc.2] at hw
        cases hw
      · rw [hc.1] at hw
        cases hw
    rw [endBatch_empty (by exact hn)]
    exact ⟨h.phase.move .idle rfl rfl rfl (by decide) fun _ ↦ hn,
      h.ledger.quiet ⟨rfl, rfl, fun _ ↦ rfl, rfl, rfl, id⟩⟩
  · refine ⟨⟨h.phase.parent, rfl, Stage.noConfusion, fun hc ↦ ?_⟩,
      h.ledger.quiet ⟨rfl, rfl, fun _ ↦ rfl, rfl, rfl, id⟩⟩
    simp at hc

theorem Unbroken.fills {input : Bool} (h : Unbroken cfg s (.take input)) : s.Fills :=
  h.elim .inl And.left

theorem Accounted.take (hlive : cfg.listener = true) (hobj : s.Objects) (h : s.Accounted)
    (hs : s.stage = .collecting) {input : Bool}
    (hok : Unbroken cfg s (.take input))
    (ht : s.take cfg input = some s') : s'.Accounted := by
  simp only [State.take, Option.map_eq_some_iff] at ht
  obtain ⟨⟨r, queue⟩, hsel, rfl⟩ := ht
  have hselected := hobj.selected hsel hok.fills
  simp only [takeRequest]
  split
  · rename_i hinput
    -- only the first request of a batch goes without its input buffer
    have hn : s.mNextRequests = [] := by
      refine hok.resolve_right fun hrest ↦ ?_
      obtain ⟨-, hall⟩ := hrest
      have hboth : (s.requests r).mInputStream = true ∧ input = false := by simpa using hinput
      have hinp := hall (r, queue) hsel hboth.1
      rw [hboth.2] at hinp
      cases hinp
    refine ⟨?_, h.ledger.skip hlive hselected hn⟩
    have hnext : ((s.dequeue r queue).notifyError cfg r).mNextRequests = [] := by
      simp only [notifyError, hlive, if_true]
      exact hn
    rw [endBatch_empty hnext]
    refine h.phase.move .idle ?_ rfl rfl (by decide) fun _ ↦ hnext
    simp only [notifyError, hlive, if_true]
    rfl
  · refine ⟨?_, h.ledger.collect hselected⟩
    simp only [addNextRequest]
    split
    · refine ⟨h.phase.parent, h.phase.lock, h.phase.free, fun hc ↦ ?_⟩
      have hstage : (s.dequeue r queue).stage = .collecting := hs
      rw [hstage] at hc
      simp at hc
    · exact h.phase.move .collected rfl rfl rfl (by decide) (by simp)

theorem Accounted.session (h : s.Accounted) (hs : s.stage = .collected)
    {answer : SessionAnswer} {first : NextRequest}
    (hok : s.reconfigureRequired cfg answer first = true → s.forcedToIdle answer first = true) :
    (s.session cfg answer first).Accounted := by
  have hlock := h.phase.unlocked (by rw [hs]; decide)
  have hgo : ∀ t : State, s.Quiet t → t.parent = s.parent → t.mRequestLock = s.mRequestLock →
      Accounted { t with stage := .preparing 0 } := fun t hq hp hl ↦
    ⟨h.phase.move (.preparing 0) hp (hl.trans hlock) rfl (by decide) (by simp),
      h.ledger.quiet ⟨hq.handed, hq.keys, hq.captures, hq.errors, hq.submissions,
        hq.deviceError⟩⟩
  simp only [State.session]
  split
  · rename_i hreq
    rw [if_pos (hok hreq)]
    split
    · refine hgo _ ?_ ?_ ?_
      · cases answer.reconfigure with
        | abandoned => exact ⟨rfl, rfl, fun _ ↦ rfl, rfl, rfl, id⟩
        | configured composer => exact ⟨rfl, rfl, fun _ ↦ rfl, rfl, rfl, id⟩
        | failed halConfigured error =>
          refine ⟨rfl, rfl, fun _ ↦ rfl, rfl, ?_, fun he ↦ ?_⟩
          · cases halConfigured <;> rfl
          · exact (Bool.or_eq_false_iff.mp he).1
      · cases answer.reconfigure <;> rfl
      · cases answer.reconfigure <;> rfl
    · exact hgo (s.updateSession cfg first) ⟨rfl, rfl, fun _ ↦ rfl, rfl, rfl, id⟩ rfl rfl
  · exact hgo (s.updateSession cfg first) ⟨rfl, rfl, fun _ ↦ rfl, rfl, rfl, id⟩ rfl rfl

/-- The thread ends, with the device in its error state. -/
theorem Accounted.give_up (h : s.Accounted) (hn : s'.mNextRequests = [])
    (he : s'.deviceError = true) (hp : s'.parent = s.parent) (hl : s'.mRequestLock = false)
    (hs : s'.stage = .ended) : s'.Accounted :=
  ⟨h.phase.move .ended hp hl hs (by decide) fun _ ↦ hn, ledger_give_up hn he⟩

theorem Accounted.prepare (h : s.Accounted) {i : ℕ} (hs : s.stage = .preparing i)
    {next : NextRequest} (hn : s.mNextRequests[i]? = some next) :
    (s.prepare cfg i next).Accounted := by
  have hlock := h.phase.unlocked (by rw [hs]; simp)
  have hfixed := fixed_mix cfg s next.captureRequest
  simp only [State.prepare]
  rw [if_pos h.phase.parent]
  split
  · simp only [prepareNew]
    split
    · rw [fail_eq (by exact hlock)]
      refine h.give_up rfl ?_ rfl hlock rfl
      simp only [setRequest, h.phase.parent, Bool.or_true]
    · rename_i request hcorrect
      have hall : request.fixed = (s.requests next.captureRequest).fixed :=
        (Mappers.fixed_correct hcorrect).trans hfixed
      have hquiet := quiet_setNext { next with
        frame_number := (s.mix cfg next.captureRequest).request.mResultExtras.frameNumber
        triggers := s.triggers.pending
        ordinal := s.triggers.prepared
        settings := some request.allMetadata } hall hn rfl
      exact ⟨h.phase.move (.filling i) rfl hlock rfl (by simp) (by simp),
        h.ledger.quiet ⟨rfl, hquiet.keys, hquiet.captures, rfl, rfl, id⟩⟩
  · have hquiet := quiet_setNext { next with
      frame_number := (s.mix cfg next.captureRequest).request.mResultExtras.frameNumber
      triggers := s.triggers.pending
      ordinal := s.triggers.prepared } hfixed hn rfl
    exact ⟨h.phase.move (.filling i) rfl hlock rfl (by simp) (by simp),
      h.ledger.quiet ⟨rfl, hquiet.keys, hquiet.captures, rfl, rfl, id⟩⟩

theorem Accounted.outputs (hlive : cfg.listener = true) (h : s.Accounted) {i : ℕ}
    (hs : s.stage = .filling i) {outcome : Outcome} (hok : outcome ≠ .noSurfaceIds) :
    (s.outputs cfg i outcome).Accounted := by
  have hlock := h.phase.unlocked (by rw [hs]; simp)
  simp only [State.outputs]
  rw [if_pos h.phase.parent]
  cases outcome with
  | ready =>
    exact ⟨h.phase.move (.preparing (i + 1)) rfl hlock rfl (by simp) (by simp),
      h.ledger.quiet ⟨rfl, rfl, fun _ ↦ rfl, rfl, rfl, id⟩⟩
  | timedOut =>
    rw [cleanUpFailedRequests_error_eq hlive hlock h.ledger.unsubmitted]
    exact ⟨h.phase.move .checking rfl hlock rfl (by decide) fun _ ↦ rfl,
      h.ledger.report .checking⟩
  | noSurfaceIds => exact absurd rfl hok
  | notRegistered =>
    rw [fail_eq hlock]
    refine h.give_up rfl ?_ rfl hlock rfl
    simp only [h.phase.parent, Bool.or_true]

theorem Accounted.send (h : s.Accounted) {i n : ℕ} (hs : s.stage = .preparing i) (ok : Bool) :
    (s.send cfg ok n).Accounted := by
  have hlock := h.phase.unlocked (by rw [hs]; simp)
  cases hres : ok && decide (n = s.mNextRequests.length) with
  | false =>
    obtain ⟨requests, triggers, hal, he⟩ := send_failed cfg hlock hres
    rw [he]
    refine h.give_up rfl ?_ rfl hlock rfl
    simp only [h.phase.parent, Bool.or_true]
  | true =>
    simp only [Bool.and_eq_true, decide_eq_true_eq] at hres
    obtain ⟨rfl, rfl⟩ := hres
    refine ⟨?_, h.ledger.send⟩
    obtain ⟨requests, triggers, he⟩ := send_shape cfg s true s.mNextRequests.length
    simp only [decide_true, Bool.and_self, if_true] at he
    rw [he]
    exact h.phase.move .idle rfl hlock rfl (by decide) fun _ ↦ rfl

theorem Accounted.step (hlive : cfg.listener = true) (hobj : s.Objects) {l : Label}
    (hs : State.step cfg s l = some s') (hok : Unbroken cfg s l) (h : s.Accounted) :
    s'.Accounted := by
  have hsame : s.Quiet s' → s'.parent = s.parent → s'.mRequestLock = s.mRequestLock →
      s'.stage = s.stage → s'.mNextRequests = s.mNextRequests → s'.Accounted :=
    fun hq hp hl hst hn ↦ ⟨⟨hp.trans h.phase.parent, by rw [hl, hst]; exact h.phase.lock,
      by rw [hst]; exact h.phase.free, by rw [hst, hn]; exact h.phase.empty⟩, h.ledger.quiet hq⟩
  cases l with
  | queueRequestList requests =>
    obtain ⟨_, rfl⟩ := locking_eq_some hs
    exact ⟨⟨h.phase.parent, h.phase.lock, h.phase.free, h.phase.empty⟩,
      h.ledger.create hobj requests rfl⟩
  | setRepeatingRequests requests =>
    obtain ⟨_, rfl⟩ := locking_eq_some hs
    exact ⟨⟨h.phase.parent, h.phase.lock, h.phase.free, h.phase.empty⟩,
      h.ledger.create hobj requests rfl⟩
  | clearRepeatingRequests =>
    obtain ⟨_, rfl⟩ := locking_eq_some hs
    exact hsame ⟨rfl, rfl, fun _ ↦ rfl, rfl, rfl, id⟩ rfl rfl rfl rfl
  | clear =>
    obtain ⟨_, rfl⟩ := locking_eq_some hs
    exact h.clear hlive hobj
  | queueTrigger trigger =>
    cases hs
    exact hsame ⟨rfl, rfl, fun _ ↦ rfl, rfl, rfl, id⟩ rfl rfl rfl rfl
  | setRotateAndCropAutoBehavior value =>
    cases hs
    exact hsame ⟨rfl, rfl, fun _ ↦ rfl, rfl, rfl, id⟩ rfl rfl rfl rfl
  | setCameraMute muteMode =>
    cases hs
    exact hsame ⟨rfl, rfl, fun _ ↦ rfl, rfl, rfl, id⟩ rfl rfl rfl rfl
  | configureStreams composer sessionParams constrained =>
    simp only [State.step] at hs
    split at hs
    · obtain ⟨_, rfl⟩ := locking_eq_some hs
      exact hsame ⟨rfl, rfl, fun _ ↦ rfl, rfl, rfl, id⟩ rfl rfl rfl rfl
    · cases hs
  | destroy => exact hok.elim
  | begin =>
    simp only [State.step] at hs
    split at hs <;> cases hs
    refine ⟨⟨h.phase.parent, rfl, Stage.noConfusion, fun hc ↦ ?_⟩,
      h.ledger.quiet ⟨rfl, rfl, fun _ ↦ rfl, rfl, rfl, id⟩⟩
    simp at hc
  | sleep =>
    simp only [State.step] at hs
    split at hs <;> cases hs
    exact ⟨h.phase.move .waiting rfl rfl rfl (by decide) (by simp),
      h.ledger.quiet ⟨rfl, rfl, fun _ ↦ rfl, rfl, rfl, id⟩⟩
  | wake exitPending =>
    simp only [State.step] at hs
    split at hs <;> cases hs
    exact h.wake hok
  | take input =>
    simp only [State.step] at hs
    split at hs
    · exact h.take hlive hobj ‹_› hok hs
    · cases hs
  | session answer =>
    simp only [State.step] at hs
    split at hs
    · rename_i first rest hstage hnext
      cases hs
      exact h.session hstage (hok first (by rw [hnext]; rfl))
    · cases hs
  | prepare =>
    simp only [State.step] at hs
    split at hs
    · obtain ⟨next, hn, rfl⟩ := Option.map_eq_some_iff.mp hs
      exact h.prepare ‹_› hn
    · cases hs
  | outputs outcome =>
    simp only [State.step] at hs
    split at hs
    · cases hs
      exact h.outputs hlive ‹_› hok
    · cases hs
  | send ok numRequestProcessed =>
    simp only [State.step] at hs
    split at hs
    · split at hs <;> cases hs
      exact h.send ‹_› ok
    · cases hs
  | check surfaceAbandoned =>
    simp only [State.step] at hs
    split at hs <;> cases hs
    rename_i hstage
    have hn := h.phase.empty (by rw [hstage]; decide)
    have hlock := h.phase.unlocked (by rw [hstage]; decide)
    simp only [checkAndStopRepeatingRequest]
    split
    · exact ⟨h.phase.move .idle rfl hlock rfl (by decide) fun _ ↦ hn,
        h.ledger.quiet ⟨rfl, rfl, fun _ ↦ rfl, rfl, rfl, id⟩⟩
    · exact ⟨h.phase.move .idle rfl hlock rfl (by decide) fun _ ↦ hn,
        h.ledger.quiet ⟨rfl, rfl, fun _ ↦ rfl, rfl, rfl, id⟩⟩

theorem accounted_create (mPrevTriggers : ℤ) : (create mPrevTriggers).Accounted :=
  ⟨⟨rfl, rfl, Stage.noConfusion, fun _ ↦ rfl⟩,
    ⟨fun _ hn ↦ absurd hn List.not_mem_nil, fun _ hn ↦ absurd hn List.not_mem_nil,
      fun _ ↦ rfl⟩⟩

/-- The thread never waits for itself, and a capture that it does not hold any more was either
submitted or reported once, while the device has no error. -/
structure Answered (s : State) : Prop where
  lock : s.stage ≠ .blocked
  once : s.deviceError = false → ∀ k < s.queue.handed.length,
    (k ∈ s.held ∧ k ∉ s.submitted ∧ k ∉ s.reported) ∨
    (k ∉ s.held ∧ s.submitted.count k = 1 ∧ k ∉ s.reported) ∨
    (k ∉ s.held ∧ k ∉ s.submitted ∧ s.reported.count k = 1)
  idle : s.stage = .idle → s.held = []

theorem Balanced.once (h : s.Balanced) {k : ℕ} (hk : k < s.queue.handed.length) :
    (k ∈ s.held ∧ k ∉ s.submitted ∧ k ∉ s.reported) ∨
    (k ∉ s.held ∧ s.submitted.count k = 1 ∧ k ∉ s.reported) ∨
    (k ∉ s.held ∧ k ∉ s.submitted ∧ s.reported.count k = 1) := by
  have hcount : s.reported.count k + s.submitted.count k + s.held.count k = 1 := by
    have hone : (Multiset.range s.queue.handed.length).count k = 1 :=
      Multiset.count_eq_one_of_mem (Multiset.nodup_range _) (Multiset.mem_range.mpr hk)
    rw [← h, Multiset.count_add, Multiset.count_add] at hone
    simp only [Multiset.coe_count] at hone
    exact hone
  simp only [← List.count_pos_iff]
  omega

theorem answered (hlive : cfg.listener = true) {mPrevTriggers : ℤ}
    (h : Reachable (restrict (Step cfg) (Unbroken cfg)) (create mPrevTriggers) s) :
    s.Answered := by
  have ⟨_, hacc⟩ : s.Objects ∧ s.Accounted := by
    refine h.invariant (P := fun s ↦ s.Objects ∧ s.Accounted) (fun s l s' hs ha ↦ ?_)
      ⟨objects_create mPrevTriggers, accounted_create mPrevTriggers⟩
    refine ⟨ha.1.step hs.1 fun input hl ↦ ?_, ha.2.step hlive ha.1 hs.1 hs.2⟩
    subst hl
    exact hs.2.fills
  refine ⟨hacc.phase.free, fun he k hk ↦ (hacc.ledger.balanced he).once hk, fun hs ↦ ?_⟩
  have hn := hacc.phase.empty (by rw [hs]; decide)
  unfold held
  rw [hn]
  rfl

/-- A batch of two whose second output buffer times out, a request that is sent and one that is
cleared. -/
theorem answered_batch :
    ∃ s, Reachable (restrict (Step .plain) (Unbroken .plain)) (create 0) s ∧ s.Answered ∧
      s.submitted = [2] ∧ s.reported = [0, 1, 3] := by
  obtain ⟨s, he, hf⟩ := Option.map_eq_some_iff.mp (show
    (exec (guarded (step .plain) (Unbroken .plain)) (create 0)
      ([.queueRequestList [{ CaptureRequest.plain ∅ with mBatchSize := 2 }, .plain ∅], .begin,
        .take true, .take true, .session ⟨false, true, .abandoned⟩, .prepare, .outputs .ready,
        .prepare, .outputs .timedOut, .check false, .queueRequestList [.plain ∅]] ++
        Label.round ++ [.queueRequestList [.plain ∅], .clear])).map
          (fun s ↦ (s.submitted, s.reported)) = some ([2], [0, 1, 3]) by decide +kernel)
  have hs : Reachable (restrict (Step .plain) (Unbroken .plain)) (create 0) s :=
    ⟨_, run_restrict_of_exec he⟩
  simp only [Prod.mk.injEq] at hf
  exact ⟨s, hs, answered rfl hs, hf.1, hf.2⟩

/-- The input buffer of the second request of a batch cannot be had: the batch is cleaned up with
the lock held. -/
theorem not_answered_short_batch :
    ¬ ∀ s, Reachable (Step .plain) (create 0) s → s.Answered := by
  intro h
  obtain ⟨s, hs, hstage⟩ := exists_reachable_of_exec (s := create 0)
    (f := fun s ↦ s.stage) (b := .blocked)
    [.queueRequestList [{ CaptureRequest.plain ∅ with mBatchSize := 2, mInputStream := true },
      { CaptureRequest.plain ∅ with mInputStream := true }], .begin, .take true, .take false]
    (show (exec (step .plain) _ _).map _ = _ by decide +kernel)
  exact (h s hs).lock hstage

end State

end VirtualCamera.RequestThread
