import VirtualCamera.RequestThread.Edits

namespace VirtualCamera.RequestThread

open Library.Transition

namespace State

variable {cfg : Config} {s s' : State}

/-! ### Steps that leave the queues alone -/

@[simp] theorem queue_notifyError (s : State) (r : ℕ) : (s.notifyError cfg r).queue = s.queue := by
  unfold notifyError
  split <;> rfl

@[simp] theorem queue_setTriggerIds (s : State) (r : ℕ) : (s.setTriggerIds r).queue = s.queue :=
  rfl

theorem queue_foldl_notifyError (l : List NextRequest) (s : State) :
    (l.foldl (fun s next ↦ s.notifyError cfg next.captureRequest) s).queue = s.queue := by
  induction l generalizing s with
  | nil => rfl
  | cons next l ih => rw [List.foldl_cons, ih, queue_notifyError]

@[simp] theorem queue_cleanUpFailedRequests (s : State) (sendRequestError : Bool)
    (after : Stage) : (s.cleanUpFailedRequests cfg sendRequestError after).queue = s.queue := by
  simp only [cleanUpFailedRequests]
  split
  · rfl
  · split
    · rfl
    · split
      · exact queue_foldl_notifyError _ s
      · rfl

@[simp] theorem queue_endBatch (s : State) : (s.endBatch cfg).queue = s.queue := by
  simp only [endBatch]
  split
  · rfl
  · exact queue_cleanUpFailedRequests s true .idle

@[simp] theorem queue_addNextRequest (s : State) (r : ℕ) :
    (s.addNextRequest r).queue = s.queue := by
  simp only [addNextRequest]
  split <;> rfl

@[simp] theorem queue_fail (s : State) : (s.fail cfg).queue = s.queue :=
  queue_cleanUpFailedRequests s.setErrorState false .ended

@[simp] theorem queue_reconfigureCamera (s : State) (reconfigure : Reconfigure) :
    (s.reconfigureCamera reconfigure).queue = s.queue := by
  cases reconfigure <;> rfl

theorem queue_session (s : State) (answer : SessionAnswer) (first : NextRequest) :
    (s.session cfg answer first).queue = s.queue := by
  simp only [session]
  split
  · split
    · split
      · exact queue_reconfigureCamera _ _
      · rfl
    · exact queue_cleanUpFailedRequests _ false .ended
  · rfl

theorem queue_prepare (s : State) (i : ℕ) (next : NextRequest) :
    (s.prepare cfg i next).queue = s.queue := by
  simp only [prepare]
  split
  · split
    · simp only [prepareNew]
      split
      · exact queue_fail _
      · rfl
    · rfl
  · exact queue_fail s

theorem queue_outputs (s : State) (i : ℕ) (outcome : Outcome) :
    (s.outputs cfg i outcome).queue = s.queue := by
  simp only [outputs]
  split
  · cases outcome with
    | ready => rfl
    | timedOut => exact queue_cleanUpFailedRequests s true .checking
    | noSurfaceIds => exact queue_cleanUpFailedRequests s false .ended
    | notRegistered => exact queue_fail s
  · exact queue_cleanUpFailedRequests s false .ended

theorem queue_foldl_removeTriggers (l : List NextRequest) (s : State) :
    (l.foldl (fun s _ ↦ s.removeTriggers) s).queue = s.queue := by
  induction l generalizing s with
  | nil => rfl
  | cons next l ih =>
    rw [List.foldl_cons, ih]
    simp only [removeTriggers]
    split <;> rfl

theorem queue_send (s : State) (ok : Bool) (numRequestProcessed : ℕ) :
    (s.send cfg ok numRequestProcessed).queue = s.queue := by
  simp only [send]
  split
  · exact queue_foldl_removeTriggers _ _
  · rw [queue_fail]
    exact queue_foldl_removeTriggers _ _

/-! ### Steps of the queues -/

theorem queue_foldl_abort (l : List ℕ) (s : State) :
    (l.foldl (abort cfg) s).queue = l.foldl Queue.give s.queue := by
  induction l generalizing s with
  | nil => rfl
  | cons r l ih =>
    rw [List.foldl_cons, List.foldl_cons, ih]
    simp only [abort, queue_notifyError]
    rfl

theorem queue_clear (s : State) : (s.clear cfg).queue = s.queue.clear cfg.listener := by
  cases hlive : cfg.listener with
  | true => simp only [clear, hlive, if_true, Queue.clear, queue_foldl_abort]
  | false => simp only [clear, hlive, Bool.false_eq_true, if_false, Queue.clear]

theorem queue_takeRequest (s : State) (input : Bool) (r : ℕ) (queue : Queue) :
    (s.takeRequest cfg input r queue).queue = queue.give r := by
  simp only [takeRequest]
  split
  · rw [queue_endBatch, queue_notifyError]
    rfl
  · rw [queue_addNextRequest]
    rfl

theorem queue_wake (s : State) (exitPending : Bool) :
    (s.wake cfg exitPending).queue = s.queue := by
  simp only [wake]
  split
  · exact queue_endBatch _
  · rfl

theorem locking_eq_some {t : State} (h : s.locking t = some s') :
    s.mRequestLock = false ∧ s' = t := by
  unfold locking at h
  split at h
  · cases h
  · exact ⟨by simpa using ‹¬ s.mRequestLock = true›, (Option.some.inj h).symm⟩

/-! ### The batch -/

def batch (s : State) : List ℕ := s.mNextRequests.map (·.captureRequest)

/-- The stages in which requests may still come to the batch, or it is empty. -/
def gathering : List Stage := [.idle, .collecting, .waiting, .checking]

/-- The batch stays, or it is given up. -/
def Holds (s s' : State) : Prop :=
  s'.batch = s.batch ∧ (s'.stage ∈ gathering → s.stage ∈ gathering) ∨ s'.batch = []

/-- The batch gets a request, and asks for more as long as it gathers them. -/
def Gains (s s' : State) (r : ℕ) : Prop :=
  s'.batch = s.batch ++ [r] ∧ s.stage ∈ gathering ∧ (s'.stage ∈ gathering → 1 < s'.batchSize)

theorem Holds.of_eq (hb : s'.mNextRequests = s.mNextRequests) (hs : s'.stage = s.stage) :
    s.Holds s' :=
  .inl ⟨by unfold batch; rw [hb], fun h ↦ hs ▸ h⟩

theorem Holds.of_go (hb : s'.batch = s.batch) (hs : s'.stage ∉ gathering) : s.Holds s' :=
  .inl ⟨hb, fun h ↦ absurd h hs⟩

theorem Holds.of_nil (h : s'.mNextRequests = []) : s.Holds s' :=
  .inr (by unfold batch; rw [h]; rfl)

theorem set_of_getElem? {α : Type} {l : List α} {i : ℕ} {a : α} (h : l[i]? = some a) :
    l.set i a = l := by
  obtain ⟨hi, rfl⟩ := List.getElem?_eq_some_iff.mp h
  exact List.set_getElem_self hi

/-- The member of the batch that is prepared stays where it is. -/
theorem batch_set {i : ℕ} {next next' : NextRequest} (hn : s.mNextRequests[i]? = some next)
    (hr : next'.captureRequest = next.captureRequest) :
    (s.mNextRequests.set i next').map (·.captureRequest) = s.batch := by
  have hat : s.batch[i]? = some next'.captureRequest := by
    unfold batch
    rw [List.getElem?_map, hn, hr]
    rfl
  rw [List.map_set, ← batch, set_of_getElem? hat]

theorem foldl_notifyError_shape (cfg : Config) (l : List NextRequest) (s : State) : ∃ errors,
    l.foldl (fun s next ↦ s.notifyError cfg next.captureRequest) s =
      { s with errors := errors } := by
  induction l generalizing s with
  | nil => exact ⟨s.errors, rfl⟩
  | cons next l ih =>
    obtain ⟨errors, he⟩ := ih (s.notifyError cfg next.captureRequest)
    rw [List.foldl_cons, he]
    unfold notifyError
    split
    · exact ⟨errors, rfl⟩
    · exact ⟨errors, rfl⟩

/-- The batch is given up, or the thread waits for itself. -/
theorem cleanUpFailedRequests_shape (cfg : Config) (s : State) (sendRequestError : Bool) (after : Stage) :
    ∃ errors next stage, s.cleanUpFailedRequests cfg sendRequestError after =
      { s with errors := errors, mNextRequests := next, stage := stage } ∧
      (stage = .blocked ∧ next = s.mNextRequests ∨ stage = after ∧ next = []) := by
  simp only [cleanUpFailedRequests]
  split
  · rename_i hn
    exact ⟨s.errors, s.mNextRequests, after, rfl, .inr ⟨rfl, hn⟩⟩
  · split
    · exact ⟨s.errors, s.mNextRequests, .blocked, rfl, .inl ⟨rfl, rfl⟩⟩
    · split
      · obtain ⟨errors, he⟩ := foldl_notifyError_shape cfg
          (s.mNextRequests.filter (!·.submitted)) s
        rw [he]
        exact ⟨errors, [], after, rfl, .inr ⟨rfl, rfl⟩⟩
      · exact ⟨s.errors, [], after, rfl, .inr ⟨rfl, rfl⟩⟩

theorem cleanUpFailedRequests_eq (hlock : s.mRequestLock = false) (after : Stage) :
    s.cleanUpFailedRequests cfg false after =
      { s with mNextRequests := [], stage := after } := by
  simp only [cleanUpFailedRequests, hlock, Bool.false_eq_true, if_false]
  split
  · rename_i hn
    rw [← hn]
  · rfl

theorem fail_eq (hlock : s.mRequestLock = false) :
    s.fail cfg =
      { s with
        deviceError := s.deviceError || s.parent, mNextRequests := [], stage := .ended } :=
  cleanUpFailedRequests_eq (s := s.setErrorState) hlock .ended

theorem holds_cleanUpFailedRequests {t : State} (ht : t.batch = s.batch)
    (sendRequestError : Bool) (after : Stage) :
    s.Holds (t.cleanUpFailedRequests cfg sendRequestError after) := by
  obtain ⟨errors, next, stage, he, ⟨rfl, rfl⟩ | ⟨rfl, rfl⟩⟩ :=
    cleanUpFailedRequests_shape cfg t sendRequestError after
  · rw [he]
    exact Holds.of_go ht (by simp [gathering])
  · rw [he]
    exact .of_nil rfl

theorem holds_fail {t : State} (ht : t.batch = s.batch) : s.Holds (t.fail cfg) :=
  holds_cleanUpFailedRequests (t := t.setErrorState) ht false .ended

theorem holds_endBatch {t : State} (ht : t.batch = s.batch) : s.Holds (t.endBatch cfg) := by
  simp only [endBatch]
  split
  · rename_i hn
    exact .of_nil hn
  · exact holds_cleanUpFailedRequests ht true .idle

theorem batch_notifyError (s : State) (r : ℕ) : (s.notifyError cfg r).batch = s.batch := by
  unfold notifyError
  split <;> rfl

theorem batch_reconfigureCamera (s : State) (reconfigure : Reconfigure) :
    (s.reconfigureCamera reconfigure).batch = s.batch := by
  cases reconfigure <;> rfl

theorem holds_session (s : State) (answer : SessionAnswer) (first : NextRequest) :
    s.Holds (s.session cfg answer first) := by
  simp only [State.session]
  split
  · split
    · refine .of_go ?_ (by simp [gathering])
      split
      · exact batch_reconfigureCamera (s.updateSession cfg first) answer.reconfigure
      · rfl
    · exact holds_cleanUpFailedRequests rfl false .ended
  · exact .of_go rfl (by simp [gathering])

theorem holds_prepare {i : ℕ} {next : NextRequest} (hn : s.mNextRequests[i]? = some next) :
    s.Holds (s.prepare cfg i next) := by
  simp only [State.prepare]
  split
  · split
    · simp only [prepareNew]
      split
      · exact holds_fail rfl
      · exact .of_go (batch_set hn rfl) (by simp [setNext, gathering])
    · exact .of_go (batch_set hn rfl) (by simp [setNext, gathering])
  · exact holds_fail rfl

theorem holds_outputs (s : State) (i : ℕ) (outcome : Outcome) :
    s.Holds (s.outputs cfg i outcome) := by
  simp only [State.outputs]
  split
  · cases outcome with
    | ready => exact .of_go rfl (by simp [gathering])
    | timedOut => exact holds_cleanUpFailedRequests rfl true .checking
    | noSurfaceIds => exact holds_cleanUpFailedRequests rfl false .ended
    | notRegistered => exact holds_fail rfl
  · exact holds_cleanUpFailedRequests rfl false .ended

/-- Taking triggers out changes the settings and the maps of the triggers only. -/
theorem removeTriggers_shape (s : State) : ∃ requests triggers,
    s.removeTriggers = { s with requests := requests, triggers := triggers } := by
  simp only [removeTriggers]
  split
  · exact ⟨s.requests, s.triggers, rfl⟩
  · exact ⟨_, _, rfl⟩

theorem foldl_removeTriggers_shape (l : List NextRequest) (s : State) : ∃ requests triggers,
    l.foldl (fun s _ ↦ s.removeTriggers) s =
      { s with requests := requests, triggers := triggers } := by
  induction l generalizing s with
  | nil => exact ⟨s.requests, s.triggers, rfl⟩
  | cons next l ih =>
    obtain ⟨requests, triggers, he⟩ := removeTriggers_shape s
    obtain ⟨requests', triggers', he'⟩ := ih s.removeTriggers
    rw [List.foldl_cons, he', he]
    exact ⟨requests', triggers', rfl⟩

/-- The HAL has taken the first requests of the batch. -/
def handed (s : State) (n : ℕ) (requests : ℕ → CaptureRequest) (triggers : Triggers) : State :=
  { s with
    hal := (s.mNextRequests.take n).foldl
      (fun hal next ↦ .submitted (s.submission next) :: hal) s.hal
    mNextRequests := (s.mNextRequests.take n).map NextRequest.submit ++ s.mNextRequests.drop n
    requests
    triggers }

/-- The removal of the triggers touches the settings of the requests only. -/
theorem send_shape (cfg : Config) (s : State) (ok : Bool) (n : ℕ) : ∃ requests triggers,
    s.send cfg ok n =
      if ok && n = s.mNextRequests.length then
        { s.handed n requests triggers with
          mNextRequests := []
          stage := .idle }
      else (s.handed n requests triggers).fail cfg := by
  simp only [State.send]
  obtain ⟨requests, triggers, he⟩ := foldl_removeTriggers_shape (s.mNextRequests.take n)
    { s with
      hal := (s.mNextRequests.take n).foldl
        (fun hal next ↦ .submitted (s.submission next) :: hal) s.hal
      mNextRequests := (s.mNextRequests.take n).map NextRequest.submit ++
        s.mNextRequests.drop n }
  rw [he]
  exact ⟨requests, triggers, rfl⟩

theorem removeTriggers_of_clean (h : s.triggers.Clean) : s.removeTriggers = s := by
  unfold removeTriggers
  split
  · rfl
  · simp only [h.removeTriggers, setRequest, Function.update_eq_self]

theorem foldl_removeTriggers_of_clean (l : List NextRequest) (h : s.triggers.Clean) :
    l.foldl (fun s _ ↦ s.removeTriggers) s = s := by
  induction l with
  | nil => rfl
  | cons next l ih => rw [List.foldl_cons, removeTriggers_of_clean h, ih]

theorem clean_removeTriggers {r : ℕ} (h : s.mPrevRequest = some r) :
    s.removeTriggers.triggers.Clean := by
  unfold removeTriggers
  rw [h]
  exact ⟨rfl, rfl⟩

/-- The first removal takes all the triggers out. -/
theorem foldl_removeTriggers {r : ℕ} (h : s.mPrevRequest = some r) (next : NextRequest)
    (l : List NextRequest) :
    (next :: l).foldl (fun s _ ↦ s.removeTriggers) s = s.removeTriggers := by
  rw [List.foldl_cons, foldl_removeTriggers_of_clean l (clean_removeTriggers h)]

theorem batch_handed (s : State) (n : ℕ) (requests : ℕ → CaptureRequest) (triggers : Triggers) :
    (s.handed n requests triggers).batch = s.batch := by
  have hall : (s.mNextRequests.take n).map (fun next ↦ next.captureRequest) ++
      (s.mNextRequests.drop n).map (fun next ↦ next.captureRequest) = s.batch := by
    rw [← List.map_append, List.take_append_drop]
    rfl
  unfold batch at hall ⊢
  unfold handed
  rw [List.map_append, List.map_map, ← hall]
  rfl

theorem holds_send (s : State) (ok : Bool) (n : ℕ) : s.Holds (s.send cfg ok n) := by
  obtain ⟨requests, triggers, he⟩ := send_shape cfg s ok n
  rw [he]
  split
  · exact .of_nil rfl
  · exact holds_fail (batch_handed s n requests triggers)

theorem foldl_abort_shape (cfg : Config) (l : List ℕ) (s : State) : ∃ requests queue errors,
    l.foldl (abort cfg) s =
      { s with requests := requests, queue := queue, errors := errors } := by
  induction l generalizing s with
  | nil => exact ⟨s.requests, s.queue, s.errors, rfl⟩
  | cons r l ih =>
    obtain ⟨requests, queue, errors, he⟩ := ih (abort cfg s r)
    rw [List.foldl_cons, he]
    simp only [State.abort, notifyError]
    split
    · exact ⟨_, _, _, rfl⟩
    · exact ⟨_, _, _, rfl⟩

theorem clear_shape (cfg : Config) (s : State) : ∃ requests queue errors,
    s.clear cfg = { s with
      requests := requests, queue := queue, errors := errors, triggers := s.triggers.clear } := by
  obtain ⟨requests, queue, errors, he⟩ := foldl_abort_shape cfg s.queue.mRequestQueue s
  simp only [State.clear]
  split
  · rw [he]
    exact ⟨_, _, _, rfl⟩
  · exact ⟨_, _, _, rfl⟩

theorem holds_clear (s : State) : s.Holds (s.clear cfg) := by
  obtain ⟨requests, queue, errors, he⟩ := clear_shape cfg s
  rw [he]
  exact .of_eq rfl rfl

theorem gains_addNextRequest (hs : s.stage ∈ gathering) (r : ℕ) :
    s.Gains (s.addNextRequest r) r := by
  simp only [addNextRequest]
  split
  · rename_i hlt
    refine ⟨List.map_append, hs, fun _ ↦ ?_⟩
    simp only [List.length_append, List.length_singleton] at hlt
    omega
  · exact ⟨List.map_append, hs, fun hc ↦ absurd hc (by simp [gathering])⟩

/-! ### What a step does to the queues and the batch -/

inductive Moves (cfg : Config) (s s' : State) (l : Label) : Prop
  | kept (hl : s.lastFrameNumber l = none) (hq : s'.queue = s.queue) (hb : s.Holds s')
  | queueRequestList (requests : List CaptureRequest) (hl : l = .queueRequestList requests)
      (hq : s'.queue = s.queue.queueRequestList requests.length) (hb : s.Holds s')
  | setRepeatingRequests (requests : List CaptureRequest)
      (hl : l = .setRepeatingRequests requests)
      (hq : s'.queue = s.queue.setRepeatingRequests requests.length) (hb : s.Holds s')
  | clearRepeatingRequests (hl : l = .clearRepeatingRequests ∨ ∃ abandoned, l = .check abandoned)
      (hn : s.lastFrameNumber l = some s.queue.mRepeatingLastFrameNumber)
      (hq : s'.queue = s.queue.clearRepeatingRequestsLocked) (hb : s.Holds s')
  | clear (hl : l = .clear) (hq : s'.queue = s.queue.clear cfg.listener) (hb : s.Holds s')
  | take (r : ℕ) (queue : Queue) (input : Bool) (hl : l = .take input)
      (hs : s.queue.select = some (r, queue)) (hq : s'.queue = queue.give r)
      (hb : s.Holds s' ∨ s.Gains s' r)

theorem moves_take {input : Bool} (hstage : s.stage = .collecting)
    (ht : s.take cfg input = some s') : s.Moves cfg s' (.take input) := by
  simp only [State.take, Option.map_eq_some_iff] at ht
  obtain ⟨⟨r, queue⟩, hsel, rfl⟩ := ht
  refine .take r queue input rfl hsel (queue_takeRequest s input r queue) ?_
  simp only [takeRequest]
  split
  · exact .inl (holds_endBatch (batch_notifyError (s.dequeue r queue) r))
  · have hs : s.stage ∈ gathering := by
      rw [hstage]
      decide
    exact .inr (gains_addNextRequest (s := s.dequeue r queue) hs r)

theorem moves_step {l : Label} (h : step cfg s l = some s') : s.Moves cfg s' l := by
  cases l with
  | queueRequestList requests =>
    obtain ⟨_, rfl⟩ := locking_eq_some h
    exact .queueRequestList requests rfl rfl (.of_eq rfl rfl)
  | setRepeatingRequests requests =>
    obtain ⟨_, rfl⟩ := locking_eq_some h
    exact .setRepeatingRequests requests rfl rfl (.of_eq rfl rfl)
  | clearRepeatingRequests =>
    obtain ⟨_, rfl⟩ := locking_eq_some h
    exact .clearRepeatingRequests (.inl rfl) rfl rfl (.of_eq rfl rfl)
  | clear =>
    obtain ⟨_, rfl⟩ := locking_eq_some h
    exact .clear rfl (queue_clear s) (holds_clear s)
  | queueTrigger trigger =>
    cases h
    exact .kept rfl rfl (.of_eq rfl rfl)
  | setRotateAndCropAutoBehavior value =>
    cases h
    exact .kept rfl rfl (.of_eq rfl rfl)
  | setCameraMute muteMode =>
    cases h
    exact .kept rfl rfl (.of_eq rfl rfl)
  | configureStreams composer sessionParams constrained =>
    simp only [step] at h
    split at h
    · obtain ⟨_, rfl⟩ := locking_eq_some h
      exact .kept rfl rfl (.of_eq rfl rfl)
    · cases h
  | destroy =>
    cases h
    exact .kept rfl rfl (.of_eq rfl rfl)
  | begin =>
    simp only [step] at h
    split at h <;> cases h
    rename_i hs
    exact .kept rfl rfl (.inl ⟨rfl, fun _ ↦ by rw [hs]; decide⟩)
  | sleep =>
    simp only [step] at h
    split at h <;> cases h
    rename_i hs
    exact .kept rfl rfl (.inl ⟨rfl, fun _ ↦ by rw [hs.1]; decide⟩)
  | wake exitPending =>
    simp only [step] at h
    split at h <;> cases h
    rename_i hs
    refine .kept rfl (queue_wake s exitPending) ?_
    simp only [wake]
    split
    · exact holds_endBatch rfl
    · exact .inl ⟨rfl, fun _ ↦ by rw [hs]; decide⟩
  | take input =>
    simp only [step] at h
    split at h
    · exact moves_take ‹_› h
    · cases h
  | session answer =>
    simp only [step] at h
    split at h
    · cases h
      exact .kept rfl (queue_session s answer _) (holds_session s answer _)
    · cases h
  | prepare =>
    simp only [step] at h
    split at h
    · obtain ⟨next, hn, rfl⟩ := Option.map_eq_some_iff.mp h
      exact .kept rfl (queue_prepare s _ next) (holds_prepare hn)
    · cases h
  | outputs outcome =>
    simp only [step] at h
    split at h
    · cases h
      exact .kept rfl (queue_outputs s _ outcome) (holds_outputs s _ outcome)
    · cases h
  | send ok numRequestProcessed =>
    simp only [step] at h
    split at h
    · split at h <;> cases h
      exact .kept rfl (queue_send s ok numRequestProcessed) (holds_send s ok numRequestProcessed)
    · cases h
  | check surfaceAbandoned =>
    simp only [step] at h
    split at h <;> cases h
    rename_i hs
    have hidle : ∀ t : State, t.batch = s.batch → s.Holds { t with stage := .idle } :=
      fun t ht ↦ .inl ⟨ht, fun _ ↦ by rw [hs]; decide⟩
    simp only [checkAndStopRepeatingRequest]
    split
    · rename_i habandoned
      exact .clearRepeatingRequests (.inr ⟨surfaceAbandoned, rfl⟩) (if_pos habandoned) rfl
        (hidle s.clearRepeatingRequests rfl)
    · rename_i habandoned
      exact .kept (if_neg habandoned) rfl (hidle s rfl)

/-! ### What no step changes in a request -/

theorem constant_update {requests : ℕ → CaptureRequest} {r : ℕ} {request : CaptureRequest}
    (h : request.constant = (requests r).constant) (r' : ℕ) :
    (Function.update requests r request r').constant = (requests r').constant := by
  by_cases he : r' = r
  · subst he
    rw [Function.update_self]
    exact h
  · rw [Function.update_of_ne he]

theorem requests_cleanUpFailedRequests (s : State) (sendRequestError : Bool) (after : Stage) :
    (s.cleanUpFailedRequests cfg sendRequestError after).requests = s.requests := by
  obtain ⟨errors, next, stage, he, _⟩ :=
    cleanUpFailedRequests_shape cfg s sendRequestError after
  rw [he]

theorem requests_endBatch (s : State) : (s.endBatch cfg).requests = s.requests := by
  simp only [endBatch]
  split
  · rfl
  · exact requests_cleanUpFailedRequests s true .idle

theorem requests_fail (s : State) : (s.fail cfg).requests = s.requests :=
  requests_cleanUpFailedRequests s.setErrorState false .ended

theorem requests_reconfigureCamera (s : State) (reconfigure : Reconfigure) :
    (s.reconfigureCamera reconfigure).requests = s.requests := by
  cases reconfigure <;> rfl

theorem requests_session (s : State) (answer : SessionAnswer) (first : NextRequest) :
    (s.session cfg answer first).requests = s.requests := by
  simp only [State.session]
  split
  · split
    · split
      · exact requests_reconfigureCamera (s.updateSession cfg first) answer.reconfigure
      · rfl
    · exact requests_cleanUpFailedRequests (s.updateSession cfg first) false .ended
  · rfl

theorem requests_outputs (s : State) (i : ℕ) (outcome : Outcome) :
    (s.outputs cfg i outcome).requests = s.requests := by
  simp only [State.outputs]
  split
  · cases outcome with
    | ready => rfl
    | timedOut => exact requests_cleanUpFailedRequests s true .checking
    | noSurfaceIds => exact requests_cleanUpFailedRequests s false .ended
    | notRegistered => exact requests_fail s
  · exact requests_cleanUpFailedRequests s false .ended

theorem alike_take {input : Bool} (ht : s.take cfg input = some s') (r' : ℕ) :
    (s.requests r').Alike (s'.requests r') := by
  simp only [State.take, Option.map_eq_some_iff] at ht
  obtain ⟨⟨r, queue⟩, _, rfl⟩ := ht
  simp only [takeRequest]
  split
  · rw [requests_endBatch, requests_notifyError]
    exact alike_dequeue s r queue r'
  · simp only [addNextRequest]
    split
    · exact alike_dequeue s r queue r'
    · exact alike_dequeue s r queue r'

theorem constant_prepare (cfg : Config) (s : State) (i : ℕ) (next : NextRequest) (r : ℕ) :
    ((s.prepare cfg i next).requests r).constant = (s.requests r).constant := by
  have hmix := CaptureRequest.constant_of_fixed (fixed_mix cfg s next.captureRequest)
  simp only [State.prepare]
  split
  · split
    · simp only [prepareNew]
      split
      · rw [requests_fail]
        exact constant_update (by exact hmix) r
      · rename_i request hcorrect
        have hall := CaptureRequest.constant_of_fixed (Mappers.fixed_correct hcorrect)
        exact constant_update (hall.trans hmix) r
    · exact constant_update hmix r
  · rw [requests_fail]

theorem constant_foldl_removeTriggers (l : List NextRequest) (s : State) (r : ℕ) :
    ((l.foldl (fun s _ ↦ s.removeTriggers) s).requests r).constant =
      (s.requests r).constant := by
  induction l generalizing s with
  | nil => rfl
  | cons next l ih =>
    rw [List.foldl_cons, ih]
    simp only [removeTriggers]
    split
    · rfl
    · refine constant_update ?_ r
      rfl

theorem constant_send (s : State) (ok : Bool) (n r : ℕ) :
    ((s.send cfg ok n).requests r).constant = (s.requests r).constant := by
  simp only [State.send]
  split
  · exact constant_foldl_removeTriggers _ _ r
  · rw [requests_fail]
    exact constant_foldl_removeTriggers _ _ r

theorem constant_step {l : Label} (h : step cfg s l = some s') {r : ℕ}
    (hr : r < s.queue.allocated) : (s'.requests r).constant = (s.requests r).constant := by
  cases l with
  | queueRequestList requests =>
    obtain ⟨_, rfl⟩ := locking_eq_some h
    exact (alike_createRequests hr).constant
  | setRepeatingRequests requests =>
    obtain ⟨_, rfl⟩ := locking_eq_some h
    exact (alike_createRequests hr).constant
  | clearRepeatingRequests =>
    obtain ⟨_, rfl⟩ := locking_eq_some h
    rfl
  | clear =>
    obtain ⟨_, rfl⟩ := locking_eq_some h
    exact (alike_clear cfg s r).constant
  | queueTrigger trigger =>
    cases h
    rfl
  | setRotateAndCropAutoBehavior value =>
    cases h
    rfl
  | setCameraMute muteMode =>
    cases h
    rfl
  | configureStreams composer sessionParams constrained =>
    simp only [step] at h
    split at h
    · obtain ⟨_, rfl⟩ := locking_eq_some h
      rfl
    · cases h
  | destroy =>
    cases h
    rfl
  | begin =>
    simp only [step] at h
    split at h <;> cases h
    rfl
  | sleep =>
    simp only [step] at h
    split at h <;> cases h
    rfl
  | wake exitPending =>
    simp only [step] at h
    split at h <;> cases h
    simp only [wake]
    split
    · rw [requests_endBatch]
    · rfl
  | take input =>
    simp only [step] at h
    split at h
    · exact (alike_take h r).constant
    · cases h
  | session answer =>
    simp only [step] at h
    split at h
    · cases h
      rw [requests_session]
    · cases h
  | prepare =>
    simp only [step] at h
    split at h
    · obtain ⟨next, _, rfl⟩ := Option.map_eq_some_iff.mp h
      exact constant_prepare cfg s _ next r
    · cases h
  | outputs outcome =>
    simp only [step] at h
    split at h
    · cases h
      rw [requests_outputs]
    · cases h
  | send ok numRequestProcessed =>
    simp only [step] at h
    split at h
    · split at h <;> cases h
      exact constant_send s ok numRequestProcessed r
    · cases h
  | check surfaceAbandoned =>
    simp only [step] at h
    split at h <;> cases h
    simp only [checkAndStopRepeatingRequest]
    split <;> rfl

end State

end VirtualCamera.RequestThread
