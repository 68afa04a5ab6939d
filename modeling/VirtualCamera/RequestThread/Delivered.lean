import VirtualCamera.RequestThread.Delivery

namespace VirtualCamera.RequestThread

open Library.Transition

/-- Where no trigger was mixed in, the settings that are sent came with the request. -/
def NextRequest.Genuine (cfg : Config) (original : List Metadata) (next : NextRequest) : Prop :=
  ∀ m rest, next.settings = some (m :: rest) → ∀ tag, cfg.Keeps tag →
    (∀ trigger ∈ next.triggers, trigger.metadataTag ≠ tag) →
      ∃ own ∈ original.head?, m.find tag = own.find tag

namespace State

variable {cfg : Config} {s s' : State}

/-! ### The settings of the batch, and those that were sent -/

/-- The requests in the hands of the thread, and those the HAL has. -/
def members (s : State) : List NextRequest :=
  s.mNextRequests ++ s.submissions.map (·.toNextRequest)

/-- The members of the batch whose settings are not made yet. -/
def unprepared (s : State) : List NextRequest :=
  match s.stage with
  | .preparing i => s.mNextRequests.drop i
  | .filling i => s.mNextRequests.drop (i + 1)
  | .blocked => []
  | _ => s.mNextRequests

theorem unprepared_preparing {i : ℕ} (h : s.stage = .preparing i) :
    s.unprepared = s.mNextRequests.drop i := by
  unfold State.unprepared
  rw [h]

theorem unprepared_filling {i : ℕ} (h : s.stage = .filling i) :
    s.unprepared = s.mNextRequests.drop (i + 1) := by
  unfold State.unprepared
  rw [h]

structure Untouched (cfg : Config) (s : State) : Prop where
  known : ∀ next ∈ s.members, next.captureRequest < s.queue.allocated
  genuine : ∀ next ∈ s.members, next.Genuine cfg (s.requests next.captureRequest).original
  unprepared : ∀ next ∈ s.unprepared, next.settings = none

/-- A member of a later state was one before, or has no settings yet. -/
def Descends (s s' : State) : Prop :=
  ∀ next' ∈ s'.members,
    (∃ next ∈ s.members, next.captureRequest = next'.captureRequest ∧
      next.settings = next'.settings ∧ next.triggers = next'.triggers) ∨
    next' ∈ s'.mNextRequests ∧ next'.settings = none

theorem descends_of_subset (h : ∀ next ∈ s'.members, next ∈ s.members) : s.Descends s' :=
  fun next hn ↦ .inl ⟨next, h next hn, rfl, rfl, rfl⟩

theorem descends_of_eq (hn : s'.mNextRequests = s.mNextRequests) (hh : s'.hal = s.hal) :
    s.Descends s' := by
  refine descends_of_subset fun next hm ↦ ?_
  unfold members submissions at hm ⊢
  rwa [hn, hh] at hm

theorem members_cleanUpFailedRequests (s : State) (sendRequestError : Bool) (after : Stage) :
    ∀ next ∈ (s.cleanUpFailedRequests cfg sendRequestError after).members, next ∈ s.members := by
  intro next hm
  obtain ⟨errors, left, stage, he, ⟨_, rfl⟩ | ⟨_, rfl⟩⟩ :=
    cleanUpFailedRequests_shape cfg s sendRequestError after
  · rw [he] at hm
    exact hm
  · rw [he] at hm
    exact List.mem_append_right _ hm

theorem unprepared_cleanUpFailedRequests (s : State) (sendRequestError : Bool) {after : Stage} :
    (s.cleanUpFailedRequests cfg sendRequestError after).unprepared = [] := by
  obtain ⟨errors, left, stage, he, ⟨rfl, rfl⟩ | ⟨rfl, rfl⟩⟩ :=
    cleanUpFailedRequests_shape cfg s sendRequestError after
  · rw [he]
    rfl
  · rw [he]
    unfold unprepared
    split <;> simp

/-- The settings stay what they were, and the requests too. -/
theorem Untouched.descends (h : s.Untouched cfg) (hd : s.Descends s')
    (hknown : ∀ next ∈ s'.mNextRequests, next.captureRequest < s'.queue.allocated)
    (hle : s.queue.allocated ≤ s'.queue.allocated)
    (hconst : ∀ r < s.queue.allocated, (s'.requests r).constant = (s.requests r).constant)
    (hun : ∀ next ∈ s'.unprepared, next.settings = none) : s'.Untouched cfg := by
  refine ⟨fun next' hm ↦ ?_, fun next' hm ↦ ?_, hun⟩
  · obtain ⟨next, hn, hr, _⟩ | ⟨hn, _⟩ := hd next' hm
    · exact hr ▸ (h.known next hn).trans_le hle
    · exact hknown next' hn
  · obtain ⟨next, hn, hr, hs, ht⟩ | ⟨_, hs⟩ := hd next' hm
    · have horig : (s'.requests next.captureRequest).original =
          (s.requests next.captureRequest).original :=
        congrArg (fun c ↦ c.2.2) (hconst _ (h.known next hn))
      rw [← hr, horig]
      unfold NextRequest.Genuine
      rw [← hs, ← ht]
      exact h.genuine next hn
    · intro m rest hc
      rw [hs] at hc
      cases hc

theorem allocated_step {l : Label} (h : State.step cfg s l = some s') :
    s.queue.allocated ≤ s'.queue.allocated := by
  cases moves_step h with
  | kept _ hq _ => rw [hq]
  | queueRequestList requests _ hq _ =>
    rw [hq]
    exact Nat.le_add_right _ _
  | setRepeatingRequests requests _ hq _ =>
    rw [hq]
    exact Nat.le_add_right _ _
  | clearRepeatingRequests _ _ hq _ =>
    rw [hq]
    exact le_rfl
  | clear _ hq _ => rw [hq, allocated_clear]
  | take r queue input _ hsel hq _ =>
    rw [hq]
    exact (select_shape hsel).2.1.ge

theorem unprepared_endBatch (s : State) : (s.endBatch cfg).unprepared = [] := by
  simp only [State.endBatch]
  split
  · exact ‹s.mNextRequests = []›
  · exact unprepared_cleanUpFailedRequests s true

theorem members_endBatch (cfg : Config) (s : State) :
    ∀ next ∈ (s.endBatch cfg).members, next ∈ s.members := by
  simp only [State.endBatch]
  split
  · exact fun _ hm ↦ hm
  · exact members_cleanUpFailedRequests s true .idle

theorem unprepared_of_next (stage : Stage) (hs : s.stage ∈ gathering ∨ s.stage = .collected)
    (h : ∀ next ∈ s.unprepared, next.settings = none)
    (hst : stage ∈ gathering ∨ stage = .collected ∨ stage = .preparing 0) :
    ∀ next ∈ ({ s with stage := stage } : State).unprepared, next.settings = none := by
  have hall : s.unprepared = s.mNextRequests := by
    unfold State.unprepared
    cases hs' : s.stage <;> simp [hs', gathering] at hs ⊢
  have hall' : ({ s with stage := stage } : State).unprepared = s.mNextRequests := by
    unfold State.unprepared
    cases stage <;> simp [gathering] at hst ⊢
    rw [hst, List.drop_zero]
  rw [hall']
  rwa [hall] at h

/-! ### Preparing -/

/-- A trigger changes the entry of its tag only. -/
theorem find_insertTriggers {t : Triggers} {tag : Tag}
    (h : ∀ trigger ∈ t.pending, trigger.metadataTag ≠ tag) (request : CaptureRequest) :
    (t.insertTriggers request).2.2.metadata.find tag = request.metadata.find tag := by
  have hone : ∀ (q : Triggers × CaptureRequest) (trigger : QueuedTrigger),
      trigger.metadataTag ≠ tag →
      (Triggers.mixIn q trigger).2.metadata.find tag = q.2.metadata.find tag := by
    intro q trigger ht
    have hupdate := Metadata.find_update_ne q.2.metadata trigger.data ht.symm
    unfold Triggers.mixIn
    dsimp only
    split
    · rfl
    · split
      · rfl
      · split <;> exact hupdate
  have hfold : ∀ (l : List QueuedTrigger) (q : Triggers × CaptureRequest),
      (∀ trigger ∈ l, trigger.metadataTag ≠ tag) →
      (l.foldl Triggers.mixIn q).2.metadata.find tag = q.2.metadata.find tag := by
    intro l
    induction l with
    | nil => exact fun q _ ↦ rfl
    | cons trigger l ih =>
      intro q hl
      rw [List.foldl_cons, ih _ fun other ho ↦ hl other (List.mem_cons_of_mem _ ho)]
      exact hone q trigger (hl trigger List.mem_cons_self)
  exact hfold t.pending (t, request) h

/-- The settings that are made of a stored request. -/
theorem genuine_new {r : ℕ} {request : CaptureRequest} (hs : (s.requests r).Stored cfg)
    (hcorrect : cfg.mappers.correct ((s.mix cfg r).request.setMetadata
      (addFakeTriggerIds (s.mix cfg r).request.metadata)) = some request)
    {next : NextRequest} (hsettings : next.settings = some request.allMetadata)
    (htriggers : next.triggers = s.triggers.pending) :
    next.Genuine cfg (s.requests r).original := by
  intro m rest hm tag hkeep htag
  have ha := agree_new hcorrect
  rw [htriggers] at htag
  rw [hsettings, Option.some.injEq] at hm
  unfold CaptureRequest.Agree at ha
  rw [hm] at ha
  unfold CaptureRequest.Stored at hs
  unfold CaptureRequest.allMetadata at ha hs
  obtain _ | ⟨hnew, _⟩ := ha
  cases horig : (s.requests r).original with
  | nil =>
    rw [horig] at hs
    cases hs
  | cons own others =>
    rw [horig] at hs
    obtain _ | ⟨hold, _⟩ := hs
    refine ⟨own, rfl, ?_⟩
    rw [hnew tag hkeep, find_insertTriggers htag]
    exact hold tag hkeep

theorem Untouched.set (h : s.Untouched cfg) {i : ℕ} {next : NextRequest} (next' : NextRequest)
    (hs : s.stage = .preparing i) (hn : s.mNextRequests[i]? = some next)
    (hr : next'.captureRequest = next.captureRequest)
    (hgen : next'.Genuine cfg (s.requests next.captureRequest).original)
    (hnext : s'.mNextRequests = s.mNextRequests.set i next') (hstage : s'.stage = .filling i)
    (hsub : s'.submissions = s.submissions) (hall : s'.queue.allocated = s.queue.allocated)
    (hconst : ∀ r < s.queue.allocated, (s'.requests r).constant = (s.requests r).constant) :
    s'.Untouched cfg := by
  have horig : ∀ r < s.queue.allocated, (s'.requests r).original = (s.requests r).original :=
    fun r hlt ↦ congrArg (fun c ↦ c.2.2) (hconst r hlt)
  have hmem : next ∈ s.members := List.mem_append_left _ (List.mem_of_getElem? hn)
  have hcases : ∀ m ∈ s'.members, m ∈ s.members ∨ m = next' := by
    intro m hm
    unfold members at hm ⊢
    rw [hnext, hsub] at hm
    obtain hm | hm := List.mem_append.mp hm
    · exact (List.mem_or_eq_of_mem_set hm).imp_left (List.mem_append_left _)
    · exact .inl (List.mem_append_right _ hm)
  refine ⟨fun m hm ↦ ?_, fun m hm ↦ ?_, fun m hm ↦ ?_⟩
  · rw [hall]
    obtain hm | rfl := hcases m hm
    · exact h.known m hm
    · exact hr ▸ h.known next hmem
  · obtain hm | rfl := hcases m hm
    · rw [horig _ (h.known m hm)]
      exact h.genuine m hm
    · rw [hr, horig _ (h.known next hmem)]
      exact hgen
  · refine h.unprepared m ?_
    rw [unprepared_filling hstage, hnext, List.drop_set, if_pos (Nat.lt_succ_self i)] at hm
    rw [unprepared_preparing hs]
    exact (List.drop_sublist_drop_left _ (Nat.le_succ i)).subset hm

theorem Untouched.cleanUp {t : State} (h : s.Untouched cfg) (hn : t.mNextRequests = s.mNextRequests)
    (hsub : t.submissions = s.submissions) (hall : t.queue.allocated = s.queue.allocated)
    (hconst : ∀ r < s.queue.allocated, (t.requests r).constant = (s.requests r).constant)
    (sendRequestError : Bool) (after : Stage) :
    (t.cleanUpFailedRequests cfg sendRequestError after).Untouched cfg := by
  have hmem : ∀ next ∈ (t.cleanUpFailedRequests cfg sendRequestError after).members,
      next ∈ s.members := by
    intro next hm
    have := members_cleanUpFailedRequests t sendRequestError after next hm
    unfold members at this ⊢
    rwa [hn, hsub] at this
  refine h.descends (descends_of_subset hmem) (fun next hm ↦ ?_) ?_ ?_ ?_
  · rw [queue_cleanUpFailedRequests, hall]
    exact h.known next (hmem next (List.mem_append_left _ hm))
  · rw [queue_cleanUpFailedRequests, hall]
  · rw [requests_cleanUpFailedRequests]
    exact hconst
  · rw [unprepared_cleanUpFailedRequests]
    exact fun _ hm ↦ absurd hm List.not_mem_nil

theorem Untouched.fail {t : State} (h : s.Untouched cfg) (hn : t.mNextRequests = s.mNextRequests)
    (hsub : t.submissions = s.submissions) (hall : t.queue.allocated = s.queue.allocated)
    (hconst : ∀ r < s.queue.allocated, (t.requests r).constant = (s.requests r).constant) :
    (t.fail cfg).Untouched cfg :=
  h.cleanUp (t := t.setErrorState) hn hsub hall hconst false .ended

theorem Untouched.prepare (h : s.Untouched cfg) (ht : s.Tracked cfg) (hknown : s.Known) {i : ℕ}
    {next : NextRequest} (hs : s.stage = .preparing i) (hn : s.mNextRequests[i]? = some next) :
    (s.prepare cfg i next).Untouched cfg := by
  have hconst := fun r (_ : r < s.queue.allocated) ↦ constant_prepare cfg s i next r
  have hlt := hknown.next (List.mem_of_getElem? hn)
  have hnone : next.settings = none := by
    refine h.unprepared next ?_
    obtain ⟨hi, hget⟩ := List.getElem?_eq_some_iff.mp hn
    rw [unprepared_preparing hs, List.drop_eq_getElem_cons hi, hget]
    exact List.mem_cons_self
  have hmix := CaptureRequest.constant_of_fixed (fixed_mix cfg s next.captureRequest)
  let prepared : NextRequest := { next with
    frame_number := (s.mix cfg next.captureRequest).request.mResultExtras.frameNumber
    triggers := s.triggers.pending
    ordinal := s.triggers.prepared }
  simp only [State.prepare] at hconst ⊢
  split
  · rename_i hparent
    rw [if_pos hparent] at hconst
    split
    · rename_i hnew
      rw [if_pos hnew] at hconst
      have hzero : i = 0 := by
        cases i with
        | zero => rfl
        | succ i =>
          rw [hknown.newRequest_later hn] at hnew
          cases hnew
      subst hzero
      have hstored := (ht.calm_of_stage (by rw [hs]; rfl)).stored _ hlt
      simp only [prepareNew] at hconst ⊢
      split
      · exact h.fail rfl rfl rfl fun r _ ↦ constant_update (by exact hmix) r
      · rename_i request hcorrect
        rw [hcorrect] at hconst
        let sent : NextRequest := { prepared with settings := some request.allMetadata }
        exact h.set sent hs hn rfl (genuine_new hstored hcorrect rfl rfl) rfl rfl rfl
          rfl hconst
    · rename_i hnew
      rw [if_neg hnew] at hconst
      refine h.set prepared hs hn rfl (fun m rest hm ↦ ?_) rfl rfl rfl rfl hconst
      rw [hnone] at hm
      cases hm
  · exact h.fail rfl rfl rfl fun _ _ ↦ rfl

/-! ### The other steps -/

theorem Untouched.take_shape (hs : s.stage = .collecting) {input : Bool}
    (ht : s.take cfg input = some s') (h : s.Untouched cfg) :
    s.Descends s' ∧ ∀ next ∈ s'.unprepared, next.settings = none := by
  have hun : ∀ next ∈ s.mNextRequests, next.settings = none := by
    have hall := h.unprepared
    unfold State.unprepared at hall
    rwa [hs] at hall
  simp only [State.take, Option.map_eq_some_iff] at ht
  obtain ⟨⟨r, queue⟩, _, rfl⟩ := ht
  simp only [takeRequest]
  split
  · refine ⟨descends_of_subset fun next hm ↦ ?_, fun next hm ↦ ?_⟩
    · have hm := members_endBatch cfg _ next hm
      unfold notifyError at hm
      split at hm <;> exact hm
    · rw [unprepared_endBatch] at hm
      exact absurd hm List.not_mem_nil
  · have hadd : ∀ added : NextRequest, added.settings = none →
        ∀ next ∈ s.mNextRequests ++ [added], next.settings = none := by
      intro added ha next hm
      obtain hm | hm := List.mem_append.mp hm
      · exact hun next hm
      · rw [List.mem_singleton.mp hm, ha]
    have hdesc : ∀ t : State, (∃ added : NextRequest, added.settings = none ∧
        t.mNextRequests = s.mNextRequests ++ [added]) → t.submissions = s.submissions →
        s.Descends t := by
      rintro t ⟨added, ha, hn⟩ hsub next hm
      have hnext : next ∈ t.mNextRequests ∨ next ∈ s.members := by
        unfold members at hm ⊢
        rw [hsub] at hm
        exact (List.mem_append.mp hm).imp_right (List.mem_append_right _)
      obtain hm | hm := hnext
      · exact .inr ⟨hm, hadd added ha next (hn ▸ hm)⟩
      · exact .inl ⟨next, hm, rfl, rfl, rfl⟩
    simp only [addNextRequest]
    split
    · refine ⟨hdesc _ ⟨_, rfl, rfl⟩ rfl, ?_⟩
      have hstage : (s.dequeue r queue).stage = .collecting := hs
      unfold State.unprepared
      simp only [hstage]
      exact hadd _ rfl
    · exact ⟨hdesc _ ⟨_, rfl, rfl⟩ rfl, hadd _ rfl⟩

theorem members_session (s : State) (answer : SessionAnswer) (first : NextRequest) :
    ∀ next ∈ (s.session cfg answer first).members, next ∈ s.members := by
  simp only [State.session]
  split
  · split
    · split
      · intro next hm
        unfold members at hm ⊢
        have hsub := submissions_reconfigureCamera (s.updateSession cfg first) answer.reconfigure
        have hn : ((s.updateSession cfg first).reconfigureCamera answer.reconfigure).mNextRequests =
            s.mNextRequests := by
          cases answer.reconfigure <;> rfl
        rw [← hn]
        exact (congrArg (fun l ↦ next ∈ _ ++ l.map (·.toNextRequest)) hsub).mp hm
      · exact fun _ hm ↦ hm
    · exact members_cleanUpFailedRequests (s.updateSession cfg first) false .ended
  · exact fun _ hm ↦ hm

theorem unprepared_session (s : State) (answer : SessionAnswer) (first : NextRequest)
    (h : ∀ next ∈ s.mNextRequests, next.settings = none) :
    ∀ next ∈ (s.session cfg answer first).unprepared, next.settings = none := by
  simp only [State.session]
  split
  · split
    · split
      · rw [unprepared_preparing rfl, List.drop_zero]
        cases answer.reconfigure <;> exact h
      · exact h
    · rw [unprepared_cleanUpFailedRequests]
      exact fun _ hm ↦ absurd hm List.not_mem_nil
  · exact h

theorem members_outputs (s : State) (i : ℕ) (outcome : Outcome) :
    ∀ next ∈ (s.outputs cfg i outcome).members, next ∈ s.members := by
  simp only [State.outputs]
  split
  · cases outcome with
    | ready => exact fun _ hm ↦ hm
    | timedOut => exact members_cleanUpFailedRequests s true .checking
    | noSurfaceIds => exact members_cleanUpFailedRequests s false .ended
    | notRegistered => exact members_cleanUpFailedRequests s.setErrorState false .ended
  · exact members_cleanUpFailedRequests s false .ended

theorem unprepared_outputs {i : ℕ} (hs : s.stage = .filling i) (outcome : Outcome)
    (h : ∀ next ∈ s.unprepared, next.settings = none) :
    ∀ next ∈ (s.outputs cfg i outcome).unprepared, next.settings = none := by
  have hnil : ∀ {t : State}, t.unprepared = [] → ∀ next ∈ t.unprepared, next.settings = none := by
    intro t ht next hm
    rw [ht] at hm
    exact absurd hm List.not_mem_nil
  simp only [State.outputs]
  split
  · cases outcome with
    | ready =>
      rw [unprepared_filling hs] at h
      exact h
    | timedOut => exact hnil (unprepared_cleanUpFailedRequests s true)
    | noSurfaceIds => exact hnil (unprepared_cleanUpFailedRequests s false)
    | notRegistered => exact hnil (unprepared_cleanUpFailedRequests s.setErrorState false)
  · exact hnil (unprepared_cleanUpFailedRequests s false)

/-- What the HAL takes is in the batch, and the rest is given up. -/
theorem send_descends (cfg : Config) (s : State) (ok : Bool) (n : ℕ) :
    s.Descends (s.send cfg ok n) ∧ (s.send cfg ok n).unprepared = [] := by
  obtain ⟨requests, triggers, he⟩ := send_shape cfg s ok n
  let sent : State := s.handed n requests triggers
  have hsub : sent.submissions =
      ((s.mNextRequests.take n).map s.submission).reverse ++ s.submissions :=
    submissions_handed s n requests triggers
  have hold : ∀ next ∈ sent.submissions.map (·.toNextRequest), next ∈ s.members := by
    intro next hm
    rw [hsub, List.map_append, List.map_reverse, List.map_map] at hm
    obtain hm | hm := List.mem_append.mp hm
    · obtain ⟨next', hn', rfl⟩ := List.mem_map.mp (List.mem_reverse.mp hm)
      exact List.mem_append_left _ (List.mem_of_mem_take hn')
    · exact List.mem_append_right _ hm
  have hdesc : ∀ next' ∈ sent.members, ∃ next ∈ s.members,
      next.captureRequest = next'.captureRequest ∧ next.settings = next'.settings ∧
        next.triggers = next'.triggers := by
    intro next hm
    obtain hm | hm := List.mem_append.mp hm
    · obtain hm | hm := List.mem_append.mp hm
      · obtain ⟨next', hn', rfl⟩ := List.mem_map.mp hm
        exact ⟨next', List.mem_append_left _ (List.mem_of_mem_take hn'), rfl, rfl, rfl⟩
      · exact ⟨next, List.mem_append_left _ (List.mem_of_mem_drop hm), rfl, rfl, rfl⟩
    · exact ⟨next, hold next hm, rfl, rfl, rfl⟩
  rw [he]
  split
  · exact ⟨descends_of_subset hold, rfl⟩
  · refine ⟨fun next hm ↦ .inl (hdesc next ?_), unprepared_cleanUpFailedRequests _ false⟩
    exact members_cleanUpFailedRequests sent.setErrorState false .ended next hm

theorem Untouched.step {l : Label} (hs : State.step cfg s l = some s') (hknown : s.Known)
    (ht : s.Tracked cfg) (h : s.Untouched cfg) : s'.Untouched cfg := by
  have hgo : s.Descends s' → (∀ next ∈ s'.unprepared, next.settings = none) →
      s'.Untouched cfg := fun hd hun ↦
    h.descends hd (fun next hm ↦ (hknown.step hs).next hm) (allocated_step hs)
      (fun r hr ↦ constant_step hs hr) hun
  have hempty : ∀ {t : State}, t.unprepared = [] → ∀ next ∈ t.unprepared, next.settings = none := by
    intro t ht next hm
    rw [ht] at hm
    exact absurd hm List.not_mem_nil
  cases l with
  | queueRequestList requests =>
    obtain ⟨_, rfl⟩ := locking_eq_some hs
    exact hgo (descends_of_eq rfl rfl) h.unprepared
  | setRepeatingRequests requests =>
    obtain ⟨_, rfl⟩ := locking_eq_some hs
    exact hgo (descends_of_eq rfl rfl) h.unprepared
  | clearRepeatingRequests =>
    obtain ⟨_, rfl⟩ := locking_eq_some hs
    exact hgo (descends_of_eq rfl rfl) h.unprepared
  | clear =>
    obtain ⟨_, rfl⟩ := locking_eq_some hs
    obtain ⟨requests, queue, errors, he⟩ := clear_shape cfg s
    rw [he] at hgo ⊢
    exact hgo (descends_of_eq rfl rfl) h.unprepared
  | queueTrigger trigger =>
    cases hs
    exact hgo (descends_of_eq rfl rfl) h.unprepared
  | setRotateAndCropAutoBehavior value =>
    cases hs
    exact hgo (descends_of_eq rfl rfl) h.unprepared
  | setCameraMute muteMode =>
    cases hs
    exact hgo (descends_of_eq rfl rfl) h.unprepared
  | configureStreams composer sessionParams constrained =>
    simp only [State.step] at hs
    split at hs
    · obtain ⟨_, rfl⟩ := locking_eq_some hs
      exact hgo (descends_of_subset fun _ hm ↦ hm) h.unprepared
    · cases hs
  | destroy =>
    cases hs
    exact hgo (descends_of_eq rfl rfl) h.unprepared
  | begin =>
    simp only [State.step] at hs
    split at hs <;> cases hs
    rename_i hstage
    exact hgo (descends_of_eq rfl rfl) (unprepared_of_next .collecting
      (.inl (by rw [hstage]; decide)) h.unprepared (.inl (by decide)))
  | sleep =>
    simp only [State.step] at hs
    split at hs <;> cases hs
    rename_i hstage
    exact hgo (descends_of_eq rfl rfl) (unprepared_of_next .waiting
      (.inl (by rw [hstage.1]; decide)) h.unprepared (.inl (by decide)))
  | wake exitPending =>
    simp only [State.step] at hs
    split at hs <;> cases hs
    rename_i hstage
    simp only [State.wake] at hgo ⊢
    split at hgo <;> rename_i hw
    · rw [if_pos hw]
      refine hgo (descends_of_subset ?_) (hempty (unprepared_endBatch _))
      exact members_endBatch cfg { s with mRequestLock := true, stage := .collecting }
    · rw [if_neg hw]
      exact hgo (descends_of_eq rfl rfl) (unprepared_of_next .collecting
        (.inl (by rw [hstage]; decide)) h.unprepared (.inl (by decide)))
  | take input =>
    simp only [State.step] at hs
    split at hs
    · obtain ⟨hd, hun⟩ := Untouched.take_shape ‹_› hs h
      exact hgo hd hun
    · cases hs
  | session answer =>
    simp only [State.step] at hs
    split at hs
    · rename_i hstage _
      cases hs
      have hall : ∀ next ∈ s.mNextRequests, next.settings = none := by
        have hall := h.unprepared
        unfold State.unprepared at hall
        rwa [hstage] at hall
      exact hgo (descends_of_subset (members_session s answer _))
        (unprepared_session s answer _ hall)
    · cases hs
  | prepare =>
    simp only [State.step] at hs
    split at hs
    · obtain ⟨next, hn, rfl⟩ := Option.map_eq_some_iff.mp hs
      exact h.prepare ht hknown ‹_› hn
    · cases hs
  | outputs outcome =>
    simp only [State.step] at hs
    split at hs
    · rename_i hstage
      cases hs
      exact hgo (descends_of_subset (members_outputs s _ outcome))
        (unprepared_outputs hstage outcome h.unprepared)
    · cases hs
  | send ok numRequestProcessed =>
    simp only [State.step] at hs
    split at hs
    · split at hs <;> cases hs
      obtain ⟨hd, hun⟩ := send_descends cfg s ok numRequestProcessed
      exact hgo hd (hempty hun)
    · cases hs
  | check surfaceAbandoned =>
    simp only [State.step] at hs
    split at hs <;> cases hs
    rename_i hstage
    have hun := unprepared_of_next .idle (.inl (by rw [hstage]; decide)) h.unprepared
      (.inl (by decide))
    simp only [checkAndStopRepeatingRequest] at hgo ⊢
    split at hgo <;> rename_i hw
    · rw [if_pos hw]
      exact hgo (descends_of_eq rfl rfl) hun
    · rw [if_neg hw]
      exact hgo (descends_of_eq rfl rfl) hun

theorem untouched_create (mPrevTriggers : ℤ) : (create mPrevTriggers).Untouched cfg :=
  ⟨fun _ hm ↦ absurd hm List.not_mem_nil, fun _ hm ↦ absurd hm List.not_mem_nil,
    fun _ hm ↦ absurd hm List.not_mem_nil⟩

/-! ### Delivery -/

/-- A trigger that goes into the settings and is not replaced or thrown away is with one request,
the first to be prepared since, or still waits; the settings that are sent have it, and are
otherwise those that came with the request; and between batches all requests are as they came. -/
structure Delivered (cfg : Config) (s : State) : Prop where
  once : ∀ trigger ∈ s.triggers.queued, trigger.mixes = true →
    trigger ∉ s.triggers.overwritten → trigger ∉ s.triggers.discarded →
      s.triggers.pending.count trigger + (s.mNextRequests.flatMap (·.triggers)).count trigger +
        (s.submissions.flatMap (·.triggers)).count trigger = 1
  carried : ∀ submission ∈ s.submissions, submission.Carries cfg
  genuine : ∀ submission ∈ s.submissions,
    submission.Genuine cfg (s.requests submission.captureRequest).original
  stored : s.mNextRequests = [] → ∀ r < s.queue.allocated, (s.requests r).Stored cfg

theorem count_mixing {trigger : QueuedTrigger} (h : trigger.mixes = true)
    (l : List QueuedTrigger) : (mixing l).count trigger = l.count trigger := by
  have hpos := Multiset.count_filter_of_pos
    (p := fun trigger : QueuedTrigger ↦ trigger.mixes = true) (s := (l : Multiset QueuedTrigger)) h
  exact hpos.trans (Multiset.coe_count _ _)

/-- The serial numbers tell the triggers that were queued apart. -/
theorem nodup_queued {t : Triggers} {held : List NextRequest} {sent : List Submission}
    (h : Account cfg t held sent) : t.queued.Nodup := by
  refine List.Nodup.of_map (·.serial) ?_
  rw [h.serials]
  exact List.nodup_range

theorem delivered (ht : s.Tracked cfg) (hu : s.Untouched cfg) : s.Delivered cfg := by
  refine ⟨fun trigger hq hmix hover hdisc ↦ ?_, ht.account.sent, fun submission hs ↦ ?_,
    fun hn ↦ (ht.calm ?_).stored⟩
  · have hcount := congrArg (Multiset.count trigger) ht.account.balanced
    simp only [Multiset.count_add, count_mixing hmix] at hcount
    rw [List.count_eq_one_of_mem (nodup_queued ht.account) hq, List.count_eq_zero_of_not_mem hover,
      List.count_eq_zero_of_not_mem hdisc, Nat.zero_add] at hcount
    exact hcount.symm
  · exact hu.genuine _ (List.mem_append_right _ (List.mem_map_of_mem hs))
  · unfold Unloaded
    rw [hn]
    exact fun _ hm ↦ absurd hm List.not_mem_nil

theorem triggers_delivered {mPrevTriggers : ℤ}
    (h : Reachable (restrict (Step cfg) (Undropped cfg)) (create mPrevTriggers) s) :
    s.Delivered cfg := by
  have ⟨_, _, htracked, huntouched⟩ :
      s.Known ∧ s.Locked ∧ s.Tracked cfg ∧ s.Untouched cfg := by
    refine h.invariant
      (P := fun s ↦ s.Known ∧ s.Locked ∧ s.Tracked cfg ∧ s.Untouched cfg)
      (fun s l s' hs ha ↦ ?_) ⟨known_create mPrevTriggers, locked_create mPrevTriggers,
        tracked_create mPrevTriggers, untouched_create mPrevTriggers⟩
    obtain ⟨hknown, hlocked, htracked, huntouched⟩ := ha
    exact ⟨hknown.step hs.1, hlocked.step hs.1, htracked.step hs.1 hknown hlocked hs.2,
      huntouched.step hs.1 hknown htracked⟩
  exact delivered htracked huntouched

/-- A trigger is replaced before a repeating request takes the one that is left, and one more is
queued while that request is with the thread. -/
theorem triggers_delivered_repeated :
    ∃ s, Reachable (restrict (Step .plain) (Undropped .plain)) (create 0) s ∧
      s.Delivered .plain ∧ s.submissions.map (·.settings) =
        [some [∅], some [Metadata.update ∅ (.other .int32 6) [9]],
          some [Metadata.update ∅ (.other .int32 5) [8]]] := by
  obtain ⟨s, he, hf⟩ := Option.map_eq_some_iff.mp (show
    (exec (guarded (step .plain) (Undropped .plain)) (create 0)
      (([.configureStreams false ∅ false, .setRepeatingRequests [.plain ∅],
        .queueTrigger [⟨.other .int32 5, 7⟩], .queueTrigger [⟨.other .int32 5, 8⟩], .begin,
        .take true, .session ⟨false, true, .abandoned⟩, .prepare,
        .queueTrigger [⟨.other .int32 6, 9⟩], .outputs .ready, .send true 1] : List Label) ++
        Label.round ++ Label.round)).map
          (fun s ↦ s.submissions.map (·.settings)) = some [some [∅],
            some [Metadata.update ∅ (.other .int32 6) [9]],
            some [Metadata.update ∅ (.other .int32 5) [8]]] by decide +kernel)
  have hs : Reachable (restrict (Step .plain) (Undropped .plain)) (create 0) s :=
    ⟨_, run_restrict_of_exec he⟩
  exact ⟨s, hs, triggers_delivered hs, hf⟩

/-- The id of an autofocus trigger goes to the result extras, and the id that is made up for the
settings stays there. -/
theorem not_triggers_delivered_ids :
    (¬ ∀ s, Reachable (Step .plain) (create 0) s → s.mNextRequests = [] →
      ∀ trigger ∈ s.triggers.queued, trigger ∉ s.triggers.overwritten →
        trigger ∉ s.triggers.discarded → trigger ∉ s.triggers.pending →
          ∃ submission ∈ s.submissions, ∃ m ∈ submission.settings.getD [],
            m.find trigger.metadataTag = trigger.data) ∧
    ¬ ∀ s, Reachable (Step .plain) (create 0) s → s.mNextRequests = [] →
      ∀ r < s.queue.allocated, (s.requests r).allMetadata = (s.requests r).original := by
  obtain ⟨s, hs, hf⟩ := exists_reachable_of_exec (s := create 0)
    (f := fun s ↦ decide (s.mNextRequests = [] ∧ (∃ trigger ∈ s.triggers.queued,
      trigger ∉ s.triggers.overwritten ∧ trigger ∉ s.triggers.discarded ∧
        trigger ∉ s.triggers.pending ∧ ∀ submission ∈ s.submissions,
          ∀ m ∈ submission.settings.getD [], m.find trigger.metadataTag ≠ trigger.data) ∧
      0 < s.queue.allocated ∧ (s.requests 0).allMetadata ≠ (s.requests 0).original)) (b := true)
    ([.configureStreams false ∅ false, .setRepeatingRequests [.plain ∅],
      .queueTrigger [⟨.controlAfTrigger, 1⟩, ⟨.controlAfTriggerId, 7⟩]] ++ Label.round)
    (show (exec (step .plain) _ _).map _ = _ by decide +kernel)
  obtain ⟨hn, ⟨trigger, hq, hover, hdisc, hpend, hnone⟩, hall, hne⟩ := of_decide_eq_true hf
  refine ⟨fun h ↦ ?_, fun h ↦ hne (h s hs hn 0 hall)⟩
  obtain ⟨submission, hsub, m, hm, hfind⟩ := h s hs hn trigger hq hover hdisc hpend
  exact hnone submission hsub m hm hfind

end State

end VirtualCamera.RequestThread
