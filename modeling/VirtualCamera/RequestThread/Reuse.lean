import VirtualCamera.RequestThread.Objects

namespace VirtualCamera.RequestThread

open Library.Transition

/-! ### What the HAL was told -/

/-- The settings the HAL repeats for a request that comes without any. A configuration makes it
forget them. -/
def lastSettings : List HalEvent → Option (List Metadata)
  | [] => none
  | .configured :: _ => none
  | .submitted submission :: hal => submission.settings.or (lastSettings hal)

/-- A request that came without settings had those that were sent last. -/
def Reused : List HalEvent → Prop
  | [] => True
  | .configured :: hal => Reused hal
  | .submitted submission :: hal =>
    (submission.settings = none → lastSettings hal = some submission.own) ∧ Reused hal

instance decidableReused : (hal : List HalEvent) → Decidable (Reused hal)
  | [] => isTrue trivial
  | .configured :: hal => decidableReused hal
  | .submitted submission :: hal =>
    have := decidableReused hal
    inferInstanceAs (Decidable
      ((submission.settings = none → lastSettings hal = some submission.own) ∧ Reused hal))

def Reconfigure.configures : Reconfigure → Bool
  | .abandoned => false
  | .configured _ => true
  | .failed halConfigured _ => halConfigured

section Submit

variable (f : NextRequest → Submission)

theorem lastSettings_foldl_null {l : List NextRequest} (hal : List HalEvent)
    (hl : ∀ next ∈ l, (f next).settings = none) :
    lastSettings (l.foldl (fun hal next ↦ .submitted (f next) :: hal) hal) = lastSettings hal := by
  induction l generalizing hal with
  | nil => rfl
  | cons next l ih =>
    rw [List.foldl_cons, ih _ fun next' hn ↦ hl next' (List.mem_cons_of_mem _ hn)]
    simp only [lastSettings, hl next List.mem_cons_self, Option.none_or]

theorem reused_foldl_null {l : List NextRequest} {hal : List HalEvent} (h : Reused hal)
    (hl : ∀ next ∈ l, (f next).settings = none)
    (hown : ∀ next ∈ l, lastSettings hal = some (f next).own) :
    Reused (l.foldl (fun hal next ↦ .submitted (f next) :: hal) hal) := by
  induction l generalizing hal with
  | nil => exact h
  | cons next l ih =>
    have hnull := hl next List.mem_cons_self
    refine ih ⟨fun _ ↦ hown next List.mem_cons_self, h⟩
      (fun next' hn ↦ hl next' (List.mem_cons_of_mem _ hn)) fun next' hn ↦ ?_
    simp only [lastSettings, hnull, Option.none_or]
    exact hown next' (List.mem_cons_of_mem _ hn)

/-- A batch is submitted whose first request alone may come with settings. -/
theorem reused_foldl {first : NextRequest} {l : List NextRequest} {hal : List HalEvent}
    (h : Reused hal) (hsent : (f first).settings.or (lastSettings hal) = some (f first).own)
    (hl : ∀ next ∈ l, (f next).settings = none)
    (hown : ∀ next ∈ l, (f next).own = (f first).own) :
    Reused ((first :: l).foldl (fun hal next ↦ .submitted (f next) :: hal) hal) := by
  rw [List.foldl_cons]
  refine reused_foldl_null f ⟨fun hnull ↦ ?_, h⟩ hl fun next hn ↦ ?_
  · rw [hnull, Option.none_or] at hsent
    exact hsent
  · rw [hown next hn]
    exact hsent

end Submit

/-! ### Edits that change nothing -/

theorem Triggers.insertTriggers_none {t : Triggers} (h : t.pending = [])
    (request : CaptureRequest) :
    (t.insertTriggers request).2.2 = request ∧
      (t.Clean → (t.insertTriggers request).2.1.Clean) := by
  unfold insertTriggers
  rw [h]
  exact ⟨rfl, id⟩

namespace Overrides

theorem overrideAutoRotateAndCrop_unchanged {o : Overrides} {request : CaptureRequest}
    (h : (o.overrideAutoRotateAndCrop request).1 = false) :
    (o.overrideAutoRotateAndCrop request).2 = request := by
  unfold overrideAutoRotateAndCrop at h ⊢
  split at h
  · split at h
    · split at h
      · rw [if_pos ‹_›, if_pos ‹_›]
      · cases h
    · cases h
  · rw [if_neg ‹_›]

theorem overrideMode_unchanged {mode : ℤ} {settings : PhysicalCameraSettings}
    (h : (overrideMode mode settings).1 = false) :
    (overrideMode mode settings).2 = settings.metadata := by
  unfold overrideMode at h ⊢
  split at h
  · split at h
    · cases h
    · rw [if_neg ‹_›]
  · split at h
    · cases h
    · rw [if_neg ‹_›]

theorem overrideData_unchanged {data : List ℤ} {hasTag : Bool} {m : Metadata}
    (h : (overrideData data hasTag m).1 = false) : (overrideData data hasTag m).2 = m := by
  unfold overrideData at h ⊢
  dsimp only at h ⊢
  split at h
  · split at h
    · cases h
    · rw [if_pos ‹_›, if_neg ‹_›]
  · split at h
    · cases h
    · rw [if_neg ‹_›, if_neg ‹_›]

theorem overrideSettings_unchanged {o : Overrides} {settings : PhysicalCameraSettings}
    (h : (o.overrideSettings settings).1 = false) :
    (o.overrideSettings settings).2 = settings := by
  simp only [overrideSettings, Bool.or_eq_false_iff] at h ⊢
  rw [overrideData_unchanged h.2, overrideMode_unchanged h.1]

theorem overrideTestPattern_unchanged {mute : Bool} {o : Overrides} {request : CaptureRequest}
    (h : (o.overrideTestPattern mute request).1 = false) :
    (o.overrideTestPattern mute request).2 = request := by
  unfold overrideTestPattern at h ⊢
  split at h
  · simp only [Bool.or_eq_false_iff, List.any_eq_false, List.mem_map] at h
    rw [if_pos ‹_›]
    have hrest : (request.physical.map o.overrideSettings).map (·.2) = request.physical := by
      rw [List.map_map]
      refine (List.map_congr_left fun settings hs ↦ ?_).trans (List.map_id _)
      exact overrideSettings_unchanged (by simpa using h.2 _ ⟨settings, hs, rfl⟩)
    dsimp only
    rw [overrideSettings_unchanged h.1, hrest]
  · rw [if_neg ‹_›]

end Overrides

namespace State

variable {cfg : Config} {s s' : State}

def settingsOf (s : State) (r : ℕ) : List Metadata := (s.requests r).allMetadata

theorem triggerCount_mix (cfg : Config) (s : State) (r : ℕ) :
    (s.mix cfg r).triggerCount = s.triggers.pending.length := rfl

theorem clean_mix {r : ℕ} (h : s.triggers.pending = []) (hclean : s.triggers.Clean) :
    (s.mix cfg r).triggers.Clean :=
  (Triggers.insertTriggers_none h (s.requests r)).2 hclean

/-- Without triggers, and with overrides that change nothing, a request stays what it was. -/
theorem request_mix_unchanged {r : ℕ} (h : s.triggers.pending = [])
    (hc : (s.mix cfg r).changed = false) : (s.mix cfg r).request = s.requests r := by
  have hins := (Triggers.insertTriggers_none h (s.requests r)).1
  simp only [mix, Bool.or_eq_false_iff] at hc ⊢
  split at hc
  · rw [if_pos ‹_›]
    rw [Overrides.overrideTestPattern_unchanged hc.2]
    exact hins
  · rw [if_neg ‹_›]
    rw [Overrides.overrideTestPattern_unchanged hc.2,
      Overrides.overrideAutoRotateAndCrop_unchanged hc.1]
    exact hins

/-! ### The stages of a batch -/

/-- Nothing of the batch is prepared. The request that was sent last has the settings that were
sent last, when no trigger was in them. -/
structure Resting (s : State) : Prop where
  clean : s.triggers.Clean
  current : ∀ r, s.mPrevRequest = some r → s.mReconfigured = false → s.mPrevTriggers ≤ 0 →
    lastSettings s.hal = some (s.settingsOf r)
  unsent : ∀ next ∈ s.mNextRequests, next.settings = none
  settled : s.mNextRequests ≠ [] → s.mReconfigured = false

structure Ready (s : State) (first : NextRequest) (rest : List NextRequest) : Prop where
  batch : s.mNextRequests = first :: rest
  clean : s.triggers.Clean
  current : s.mPrevRequest = some first.captureRequest → s.mPrevTriggers ≤ 0 →
    lastSettings s.hal = some (s.settingsOf first.captureRequest)
  fresh : first.settings = none
  unsent : ∀ next ∈ rest, next.settings = none

/-- The first request of the batch is prepared. -/
structure Underway (s : State) (first : NextRequest) (rest : List NextRequest) : Prop where
  batch : s.mNextRequests = first :: rest
  prev : s.mPrevRequest = some first.captureRequest
  sent : first.settings.or (lastSettings s.hal) = some (s.settingsOf first.captureRequest)
  quiet : first.settings = none → s.mPrevTriggers ≤ 0
  clean : s.mPrevTriggers ≤ 0 → s.triggers.Clean
  unsent : ∀ next ∈ rest, next.settings = none

def AtStage (s : State) : Prop :=
  match s.stage with
  | .preparing 0 => ∃ first rest, s.Ready first rest
  | .preparing (_ + 1) => ∃ first rest, s.Underway first rest
  | .filling _ => ∃ first rest, s.Underway first rest
  | .blocked => True
  | .ended => True
  | _ => s.Resting

structure Coherent (s : State) : Prop where
  reused : Reused s.hal
  known : ∀ r, s.mPrevRequest = some r → r < s.queue.allocated
  atStage : s.AtStage

/-! ### Steps that change no settings -/

/-- Nothing changes that the settings depend on. -/
structure Still (s s' : State) : Prop where
  allocated : s.queue.allocated ≤ s'.queue.allocated
  requests : ∀ r < s.queue.allocated, (s.requests r).Alike (s'.requests r)
  mNextRequests : s'.mNextRequests = s.mNextRequests
  mPrevRequest : s'.mPrevRequest = s.mPrevRequest
  mReconfigured : s'.mReconfigured = s.mReconfigured
  mPrevTriggers : s'.mPrevTriggers = s.mPrevTriggers
  hal : s'.hal = s.hal
  clean : s.triggers.Clean → s'.triggers.Clean

section Still

variable (hq : s.Still s') (hobj : s.Objects)
include hq

theorem Still.settingsOf {r : ℕ} (hr : r < s.queue.allocated) :
    s'.settingsOf r = s.settingsOf r := (hq.requests r hr).allMetadata

theorem Resting.still (hknown : ∀ r, s.mPrevRequest = some r → r < s.queue.allocated)
    (h : s.Resting) : s'.Resting where
  clean := hq.clean h.clean
  current := by
    rw [hq.mPrevRequest, hq.mReconfigured, hq.mPrevTriggers, hq.hal]
    intro r hr
    rw [hq.settingsOf (hknown r hr)]
    exact h.current r hr
  unsent := by
    rw [hq.mNextRequests]
    exact h.unsent
  settled := by
    rw [hq.mNextRequests, hq.mReconfigured]
    exact h.settled

include hobj

theorem Ready.still {first : NextRequest} {rest : List NextRequest} (h : s.Ready first rest) :
    s'.Ready first rest where
  batch := hq.mNextRequests.trans h.batch
  clean := hq.clean h.clean
  current := by
    rw [hq.mPrevRequest, hq.mPrevTriggers, hq.hal, hq.settingsOf (hobj.next ?_)]
    · exact h.current
    · rw [h.batch]
      exact List.mem_cons_self
  fresh := h.fresh
  unsent := h.unsent

theorem Underway.still {first : NextRequest} {rest : List NextRequest}
    (h : s.Underway first rest) : s'.Underway first rest where
  batch := hq.mNextRequests.trans h.batch
  prev := hq.mPrevRequest.trans h.prev
  sent := by
    rw [hq.hal, hq.settingsOf (hobj.next ?_)]
    · exact h.sent
    · rw [h.batch]
      exact List.mem_cons_self
  quiet := by
    rw [hq.mPrevTriggers]
    exact h.quiet
  clean := by
    rw [hq.mPrevTriggers]
    exact fun hp ↦ hq.clean (h.clean hp)
  unsent := h.unsent

theorem Coherent.still (hst : s'.stage = s.stage) (h : s.Coherent) : s'.Coherent := by
  refine ⟨hq.hal ▸ h.reused, fun r hr ↦ ?_, ?_⟩
  · exact (h.known r (hq.mPrevRequest ▸ hr)).trans_le hq.allocated
  · have hat := h.atStage
    have hrest : s.Resting → s'.Resting := Resting.still hq h.known
    unfold AtStage at hat ⊢
    rw [hst]
    cases hs : s.stage with
    | preparing i =>
      rw [hs] at hat
      cases i with
      | zero =>
        obtain ⟨first, rest, hready⟩ := hat
        exact ⟨first, rest, Ready.still hq hobj hready⟩
      | succ i =>
        obtain ⟨first, rest, hunder⟩ := hat
        exact ⟨first, rest, Underway.still hq hobj hunder⟩
    | filling i =>
      rw [hs] at hat
      obtain ⟨first, rest, hunder⟩ := hat
      exact ⟨first, rest, Underway.still hq hobj hunder⟩
    | blocked => trivial
    | ended => trivial
    | idle => exact hrest (by rw [hs] at hat; exact hat)
    | collecting => exact hrest (by rw [hs] at hat; exact hat)
    | waiting => exact hrest (by rw [hs] at hat; exact hat)
    | collected => exact hrest (by rw [hs] at hat; exact hat)
    | checking => exact hrest (by rw [hs] at hat; exact hat)

end Still

/-! ### Between two batches -/

/-- The stages in which nothing of a batch is prepared. -/
def restingStages : List Stage := [.idle, .collecting, .waiting, .collected, .checking]

theorem atStage_resting (hs : s.stage ∈ restingStages) : s.AtStage ↔ s.Resting := by
  simp only [restingStages, List.mem_cons, List.not_mem_nil, or_false] at hs
  unfold AtStage
  obtain hs | hs | hs | hs | hs := hs <;> rw [hs]

theorem Coherent.resting (h : s.Coherent) (hs : s.stage ∈ restingStages) : s.Resting :=
  (atStage_resting hs).mp h.atStage

theorem coherent_halted (hr : Reused s.hal)
    (hk : ∀ r, s.mPrevRequest = some r → r < s.queue.allocated)
    (hs : s.stage = .blocked ∨ s.stage = .ended) : s.Coherent := by
  refine ⟨hr, hk, ?_⟩
  unfold AtStage
  obtain hs | hs := hs <;> rw [hs] <;> trivial

theorem coherent_end (hr : Reused s.hal)
    (hk : ∀ r, s.mPrevRequest = some r → r < s.queue.allocated) (sendRequestError : Bool) :
    (s.cleanUpFailedRequests cfg sendRequestError .ended).Coherent := by
  obtain ⟨errors, next, stage, he, hstage⟩ :=
    cleanUpFailedRequests_shape cfg s sendRequestError .ended
  rw [he]
  exact coherent_halted hr hk (hstage.imp And.left And.left)

theorem coherent_fail (hr : Reused s.hal)
    (hk : ∀ r, s.mPrevRequest = some r → r < s.queue.allocated) : (s.fail cfg).Coherent :=
  coherent_end (s := s.setErrorState) hr hk false

/-- The batch is given up before the HAL got any of it. -/
theorem coherent_cleanUp {after : Stage} (hafter : after ∈ restingStages) (hr : Reused s.hal)
    (hk : ∀ r, s.mPrevRequest = some r → r < s.queue.allocated) (hclean : s.triggers.Clean)
    (hcur : ∀ r, s.mPrevRequest = some r → s.mReconfigured = false → s.mPrevTriggers ≤ 0 →
      lastSettings s.hal = some (s.settingsOf r)) :
    (s.cleanUpFailedRequests cfg true after).Coherent := by
  obtain ⟨errors, next, stage, he, ⟨hstage, _⟩ | ⟨rfl, rfl⟩⟩ :=
    cleanUpFailedRequests_shape cfg s true after
  · rw [he]
    exact coherent_halted hr hk (.inl hstage)
  · rw [he]
    refine ⟨hr, hk, (atStage_resting hafter).mpr ⟨hclean, hcur, ?_, ?_⟩⟩
    · exact fun _ hn ↦ absurd hn List.not_mem_nil
    · exact fun hn ↦ absurd rfl hn

theorem coherent_endBatch (hr : Reused s.hal)
    (hk : ∀ r, s.mPrevRequest = some r → r < s.queue.allocated) (h : s.Resting) :
    (s.endBatch cfg).Coherent := by
  simp only [endBatch]
  split
  · have hidle : Stage.idle ∈ restingStages := by decide
    exact ⟨hr, hk, (atStage_resting hidle).mpr ⟨h.clean, h.current, h.unsent, h.settled⟩⟩
  · exact coherent_cleanUp (by decide) hr hk h.clean h.current

/-! ### Collecting -/

/-- What was sent before a configuration is forgotten with the first request after it. -/
theorem Resting.dequeue (h : s.Resting) (r : ℕ) (queue : Queue) : (s.dequeue r queue).Resting where
  clean := h.clean
  current := by
    intro r' hr' _ ht
    have halike := (alike_dequeue s r queue r').allMetadata
    unfold State.settingsOf
    rw [halike]
    simp only [State.dequeue, setTriggerIds, number, setRequest] at hr' ht ⊢
    split at hr'
    · cases hr'
    · exact h.current r' hr' (by simpa using ‹¬ s.mReconfigured = true›) ht
  unsent := h.unsent
  settled := fun _ ↦ rfl

theorem coherent_addNextRequest (hr : Reused s.hal)
    (hk : ∀ r, s.mPrevRequest = some r → r < s.queue.allocated)
    (hs : s.stage = .collecting) (hrec : s.mReconfigured = false) (h : s.Resting) (r : ℕ) :
    (s.addNextRequest r).Coherent := by
  have hunsent : ∀ next ∈ s.mNextRequests ++
      [{ captureRequest := r, capture := (s.requests r).mResultExtras.capture }],
      next.settings = none := by
    intro next hn
    obtain hn | hn := List.mem_append.mp hn
    · exact h.unsent next hn
    · rw [List.mem_singleton.mp hn]
  simp only [addNextRequest]
  split
  · have hcollecting : s.stage ∈ restingStages := by
      rw [hs]
      decide
    exact ⟨hr, hk, (atStage_resting (by exact hcollecting)).mpr
      ⟨h.clean, h.current, hunsent, fun _ ↦ hrec⟩⟩
  · have hcollected : Stage.collected ∈ restingStages := by decide
    exact ⟨hr, hk, (atStage_resting hcollected).mpr
      ⟨h.clean, h.current, hunsent, fun _ ↦ hrec⟩⟩

/-! ### The settings of a batch -/

/-- The HAL is configured anew, with the batch in the hands of the thread. -/
def reconfigures (cfg : Config) (s : State) (answer : SessionAnswer) (first : NextRequest) :
    Bool :=
  s.reconfigureRequired cfg answer first && s.forcedToIdle answer first && s.parent &&
    answer.reconfigure.configures

theorem reconfigureCamera_shape (s : State) (reconfigure : Reconfigure) :
    ∃ overrides mReconfigured deviceError, s.reconfigureCamera reconfigure =
      { s with
        hal := if reconfigure.configures then .configured :: s.hal else s.hal
        overrides := overrides
        mReconfigured := mReconfigured
        deviceError := deviceError } := by
  cases reconfigure with
  | abandoned => exact ⟨s.overrides, true, s.deviceError, rfl⟩
  | configured composer => exact ⟨_, true, s.deviceError, rfl⟩
  | failed halConfigured error => exact ⟨s.overrides, s.mReconfigured, _, rfl⟩

/-- The batch is ready, unless its first request is the one that was sent before a configuration
that comes between. -/
theorem ready_of_resting {first : NextRequest} {rest : List NextRequest} (h : s.Resting)
    (hn : s.mNextRequests = first :: rest) (hq : s'.mNextRequests = s.mNextRequests)
    (hreq : s'.requests = s.requests) (ht : s'.triggers = s.triggers)
    (hp : s'.mPrevRequest = s.mPrevRequest)
    (hpt : s'.mPrevTriggers = s.mPrevTriggers)
    (hhal : s.mPrevRequest = some first.captureRequest → s'.hal = s.hal) :
    s'.Ready first rest where
  batch := hq.trans hn
  clean := ht ▸ h.clean
  current := by
    intro hprev hle
    rw [hp] at hprev
    rw [hpt] at hle
    have hrec := h.settled (by rw [hn]; exact List.cons_ne_nil _ _)
    have hcur := h.current _ hprev hrec hle
    rw [hhal hprev]
    unfold State.settingsOf at hcur ⊢
    rw [hreq]
    exact hcur
  fresh := h.unsent first (by rw [hn]; exact List.mem_cons_self)
  unsent := fun next hm ↦ h.unsent next (by rw [hn]; exact List.mem_cons_of_mem _ hm)

theorem Coherent.session {answer : SessionAnswer} {first : NextRequest}
    {rest : List NextRequest} (h : s.Coherent) (hs : s.stage = .collected)
    (hn : s.mNextRequests = first :: rest)
    (hok : s.mPrevRequest = some first.captureRequest →
      s.reconfigures cfg answer first = false) : (s.session cfg answer first).Coherent := by
  have hrest := h.resting (by rw [hs]; decide)
  have hgo : Coherent { s.updateSession cfg first with stage := .preparing 0 } :=
    ⟨h.reused, h.known, first, rest,
      ready_of_resting hrest hn rfl rfl rfl rfl rfl fun _ ↦ rfl⟩
  simp only [State.session]
  split
  · rename_i hreq
    split
    · rename_i hforced
      split
      · rename_i hparent
        have hhal : s.mPrevRequest = some first.captureRequest →
            answer.reconfigure.configures = false := by
          intro hp
          simpa [reconfigures, hreq, hforced, hparent] using hok hp
        obtain ⟨overrides, reconfigured, error, he⟩ :=
          reconfigureCamera_shape (s.updateSession cfg first) answer.reconfigure
        rw [he]
        refine ⟨?_, h.known, first, rest,
          ready_of_resting hrest hn rfl rfl rfl rfl rfl fun hp ↦ ?_⟩
        · simp only
          split
          · exact h.reused
          · exact h.reused
        · simp only [hhal hp, Bool.false_eq_true, if_false]
          rfl
      · exact hgo
    · exact coherent_end (s := s.updateSession cfg first) h.reused h.known false
  · exact hgo

theorem newRequest_first {r : ℕ} (h : s.newRequest cfg 0 r = false) :
    s.mPrevRequest = some r ∧ s.triggers.pending = [] ∧ s.mPrevTriggers ≤ 0 ∧
      (s.mix cfg r).changed = false := by
  simp only [newRequest, triggerCount_mix, lt_irrefl, decide_false, Bool.and_false,
    Bool.not_false, Bool.and_true, Bool.or_eq_false_iff, decide_eq_false_iff_not, not_not,
    not_lt] at h
  obtain ⟨⟨hprev, hnone, hle⟩, hc⟩ := h
  have hlength := of_decide_eq_false hnone
  exact ⟨hprev, List.eq_nil_of_length_eq_zero (by omega), hle, hc⟩

theorem underway_setNext {first next : NextRequest} {rest : List NextRequest}
    (hn : s.mNextRequests = first :: rest) (hprev : s.mPrevRequest = some next.captureRequest)
    (hsent : next.settings.or (lastSettings s.hal) = some (s.settingsOf next.captureRequest))
    (hquiet : next.settings = none → s.mPrevTriggers ≤ 0)
    (hclean : s.mPrevTriggers ≤ 0 → s.triggers.Clean)
    (hunsent : ∀ next ∈ rest, next.settings = none) : (s.setNext 0 next).Underway next rest := by
  refine ⟨?_, hprev, hsent, hquiet, hclean, hunsent⟩
  simp only [setNext, hn, List.set_cons_zero]

/-- The first request of a batch is prepared. -/
theorem Coherent.prepare_first {first : NextRequest} {rest : List NextRequest}
    (h : s.Coherent) (hobj : s.Objects) (hready : s.Ready first rest) :
    (s.prepare cfg 0 first).Coherent := by
  have hclean : ((s.mix cfg first.captureRequest).triggerCount : ℤ) ≤ 0 →
      (s.mix cfg first.captureRequest).triggers.Clean := by
    intro hle
    rw [triggerCount_mix] at hle
    exact clean_mix (List.eq_nil_of_length_eq_zero (by omega)) hready.clean
  have hfirst : first.captureRequest < s.queue.allocated :=
    hobj.next (by rw [hready.batch]; exact List.mem_cons_self)
  have hat : ∀ (t : State) (request : CaptureRequest),
      (t.setRequest first.captureRequest request).requests first.captureRequest = request :=
    fun t request ↦ requests_setRequest_self t _ request
  simp only [State.prepare]
  split
  · split
    · simp only [prepareNew]
      split
      · exact coherent_fail h.reused h.known
      · rename_i request hcorrect
        -- the settings are made anew
        refine ⟨h.reused, fun r hr ↦ ?_, _, rest,
          underway_setNext hready.batch rfl ?_ ?_ hclean hready.unsent⟩
        · cases hr
          exact hfirst
        · exact congrArg (fun request ↦ some request.allMetadata) (hat _ request).symm
        · intro hc
          cases hc
    · rename_i hnew
      -- the settings stay those that were sent last
      obtain ⟨hprev, hnone, hle, hc⟩ := newRequest_first (by simpa using hnew)
      have hsame := request_mix_unchanged hnone hc
      refine ⟨h.reused, h.known, _, rest,
        underway_setNext hready.batch hprev ?_ (fun _ ↦ ?_) hclean hready.unsent⟩
      · have hcur := hready.current hprev hle
        rw [show State.settingsOf _ first.captureRequest = s.settingsOf first.captureRequest from
          congrArg (·.allMetadata) ((hat _ _).trans hsame), ← hcur, hready.fresh]
        rfl
      · rw [triggerCount_mix, hnone]
        exact le_rfl
  · exact coherent_fail h.reused h.known

theorem Underway.setNext {i : ℕ} {first next : NextRequest} (rest : List NextRequest)
    (h : s.Underway first rest) (hnull : next.settings = none) :
    (s.setNext (i + 1) next).Underway first (rest.set i next) := by
  have hbatch : (s.setNext (i + 1) next).mNextRequests = first :: rest.set i next := by
    simp only [State.setNext, h.batch, List.set_cons_succ]
  refine ⟨hbatch, h.prev, h.sent, h.quiet, h.clean, fun next' hm ↦ ?_⟩
  obtain hm | rfl := List.mem_or_eq_of_mem_set hm
  · exact h.unsent next' hm
  · exact hnull

/-- A later request of the batch is prepared: the first one stays as it is. -/
theorem Coherent.prepare_later {i : ℕ} {first next : NextRequest} {rest : List NextRequest}
    (h : s.Coherent) (hobj : s.Objects) (hunder : s.Underway first rest)
    (hn : s.mNextRequests[i + 1]? = some next) (hnone : s.triggers.pending = [])
    (hzero : s.mPrevTriggers = 0) : (s.prepare cfg (i + 1) next).Coherent := by
  have hnext : next ∈ rest := by
    rw [hunder.batch, List.getElem?_cons_succ] at hn
    exact List.mem_of_getElem? hn
  have hne : first.captureRequest ≠ next.captureRequest := by
    have hdist := (List.sublist_append_right s.queue.mRequestQueue s.batch).nodup hobj.distinct
    unfold batch at hdist
    rw [hunder.batch, List.map_cons, List.nodup_cons] at hdist
    exact fun hc ↦ hdist.1 (hc ▸ List.mem_map_of_mem hnext)
  simp only [State.prepare]
  split
  · rw [if_neg (by rw [hobj.newRequest_later hn]; decide)]
    refine ⟨h.reused, h.known, _, _, Underway.setNext rest ⟨hunder.batch, hunder.prev,
      ?_, fun _ ↦ ?_, fun _ ↦ ?_, hunder.unsent⟩ (hunder.unsent next hnext)⟩
    · simp only [settingsOf, requests_setRequest_ne _ _ hne]
      exact hunder.sent
    · simp only [setRequest, triggerCount_mix, hnone, List.length_nil]
      exact le_rfl
    · have hclean := hunder.clean hzero.le
      exact (Triggers.insertTriggers_none hnone (s.requests next.captureRequest)).2 hclean
  · exact coherent_fail h.reused h.known

/-! ### Outputs -/

theorem Coherent.outputs {i : ℕ} {outcome : Outcome} (h : s.Coherent)
    (hs : s.stage = .filling i)
    (hok : outcome = .timedOut → ∀ next ∈ s.mNextRequests, next.settings = none) :
    (s.outputs cfg i outcome).Coherent := by
  have ⟨first, rest, hunder⟩ : ∃ first rest, s.Underway first rest := by
    have hat := h.atStage
    unfold AtStage at hat
    rw [hs] at hat
    exact hat
  simp only [State.outputs]
  split
  · cases outcome with
    | ready =>
      exact ⟨h.reused, h.known, first, rest,
        ⟨hunder.batch, hunder.prev, hunder.sent, hunder.quiet, hunder.clean, hunder.unsent⟩⟩
    | timedOut =>
      have hnull : first.settings = none :=
        hok rfl first (by rw [hunder.batch]; exact List.mem_cons_self)
      have hsent := hunder.sent
      rw [hnull, Option.none_or] at hsent
      refine coherent_cleanUp (by decide) h.reused h.known
        (hunder.clean (hunder.quiet hnull)) fun r hr _ _ ↦ ?_
      rw [hunder.prev] at hr
      cases hr
      exact hsent
    | noSurfaceIds => exact coherent_end h.reused h.known false
    | notRegistered => exact coherent_fail h.reused h.known
  · exact coherent_end h.reused h.known false

/-! ### Sending -/

/-- The HAL has all of the batch, and the triggers are taken out. -/
theorem coherent_sent {r : ℕ} (hprev : s.mPrevRequest = some r)
    (hclean : s.mPrevTriggers ≤ 0 → s.triggers.Clean) (hreused : Reused s.hal)
    (hknown : r < s.queue.allocated) (hlast : lastSettings s.hal = some (s.settingsOf r)) :
    Coherent { s.removeTriggers with mNextRequests := [], stage := .idle } := by
  obtain ⟨requests, triggers, he⟩ := removeTriggers_shape s
  have hnone : triggers.Clean := by
    have := clean_removeTriggers hprev
    rw [he] at this
    exact this
  have hkept : s.mPrevTriggers ≤ 0 → requests = s.requests := by
    intro hle
    have := removeTriggers_of_clean (hclean hle)
    rw [he] at this
    exact congrArg State.requests this
  have hone : ∀ r', s.mPrevRequest = some r' → r' = r := by
    intro r' hr'
    rw [hprev] at hr'
    exact (Option.some.inj hr').symm
  rw [he]
  refine ⟨hreused, fun r' hr' ↦ hone r' hr' ▸ hknown, hnone, fun r' hr' _ hle ↦ ?_,
    fun _ hm ↦ absurd hm List.not_mem_nil, fun hc ↦ absurd rfl hc⟩
  rw [hone r' hr']
  simp only [settingsOf, hkept hle]
  exact hlast

theorem Coherent.send {i n : ℕ} (h : s.Coherent) (hs : s.stage = .preparing i)
    (hi : i = s.mNextRequests.length) (ok : Bool)
    (hok : ∀ first ∈ s.mNextRequests.head?, ∀ next ∈ s.mNextRequests.take n,
      s.settingsOf next.captureRequest = s.settingsOf first.captureRequest) :
    (s.send cfg ok n).Coherent := by
  have ⟨first, rest, hunder⟩ : ∃ first rest, s.Underway first rest := by
    have hat := h.atStage
    unfold AtStage at hat
    rw [hs] at hat
    cases i with
    | zero =>
      obtain ⟨first, rest, hready⟩ := hat
      rw [hready.batch] at hi
      cases hi
    | succ i => exact hat
  have hreused : Reused ((s.mNextRequests.take n).foldl
      (fun hal next ↦ .submitted (s.submission next) :: hal) s.hal) := by
    cases n with
    | zero => exact h.reused
    | succ n =>
      have hsame := hok first (by rw [hunder.batch]; rfl)
      rw [hunder.batch, List.take_succ_cons] at hsame ⊢
      refine reused_foldl s.submission h.reused hunder.sent (fun next hm ↦ ?_) fun next hm ↦ ?_
      · exact hunder.unsent next (List.mem_of_mem_take hm)
      · exact hsame next (List.mem_cons_of_mem _ hm)
  simp only [State.send]
  split
  · rename_i hall
    have hn : n = s.mNextRequests.length := by simpa using (Bool.and_eq_true_iff.mp hall).2
    have hlast : lastSettings ((s.mNextRequests.take n).foldl
        (fun hal next ↦ .submitted (s.submission next) :: hal) s.hal) =
          some (s.settingsOf first.captureRequest) := by
      rw [hn, List.take_length, hunder.batch, List.foldl_cons,
        lastSettings_foldl_null s.submission _ hunder.unsent]
      exact hunder.sent
    have htake : s.mNextRequests.take n = first :: rest := by
      rw [hn, List.take_length, hunder.batch]
    rw [htake] at hreused hlast ⊢
    rw [foldl_removeTriggers (by exact hunder.prev)]
    exact coherent_sent hunder.prev hunder.clean hreused (h.known _ hunder.prev) hlast
  · obtain ⟨requests, triggers, he⟩ := foldl_removeTriggers_shape (s.mNextRequests.take n)
      { s with
        hal := (s.mNextRequests.take n).foldl
          (fun hal next ↦ .submitted (s.submission next) :: hal) s.hal
        mNextRequests := (s.mNextRequests.take n).map NextRequest.submit ++
          s.mNextRequests.drop n }
    rw [he]
    exact coherent_fail hreused h.known

/-! ### Runs -/

/-- A batch has no request twice, and what the HAL gets of it has the settings of its first
request; triggers are for the first request of a batch of one. No request is dropped after its
settings were made, and the HAL is not configured between a request and its repetition. -/
def Faithful (cfg : Config) (s : State) : Label → Prop
  | .take _ => s.Fills
  | .session answer => ∀ first ∈ s.mNextRequests.head?,
      s.mPrevRequest = some first.captureRequest → s.reconfigures cfg answer first = false
  | .prepare => s.stage ≠ .preparing 0 → s.triggers.pending = [] ∧ s.mPrevTriggers = 0
  | .outputs outcome => outcome = .timedOut → ∀ next ∈ s.mNextRequests, next.settings = none
  | .send _ numRequestProcessed => ∀ first ∈ s.mNextRequests.head?,
      ∀ next ∈ s.mNextRequests.take numRequestProcessed,
        s.settingsOf next.captureRequest = s.settingsOf first.captureRequest
  | _ => True

instance (cfg : Config) (s : State) : (l : Label) → Decidable (Faithful cfg s l)
  | .take _ => inferInstanceAs (Decidable s.Fills)
  | .session answer => inferInstanceAs (Decidable (∀ first ∈ s.mNextRequests.head?,
      s.mPrevRequest = some first.captureRequest → s.reconfigures cfg answer first = false))
  | .prepare => inferInstanceAs (Decidable
      (s.stage ≠ .preparing 0 → s.triggers.pending = [] ∧ s.mPrevTriggers = 0))
  | .outputs outcome => inferInstanceAs (Decidable
      (outcome = .timedOut → ∀ next ∈ s.mNextRequests, next.settings = none))
  | .send _ numRequestProcessed => inferInstanceAs (Decidable (∀ first ∈ s.mNextRequests.head?,
      ∀ next ∈ s.mNextRequests.take numRequestProcessed,
        s.settingsOf next.captureRequest = s.settingsOf first.captureRequest))
  | .queueRequestList _ | .setRepeatingRequests _ | .clearRepeatingRequests | .clear
  | .queueTrigger _ | .setRotateAndCropAutoBehavior _ | .setCameraMute _
  | .configureStreams _ _ _ | .destroy | .begin | .sleep | .wake _ | .check _ =>
    inferInstanceAs (Decidable True)

theorem still_clear (s : State) : s.Still (s.clear cfg) := by
  have hreq : ∀ r < s.queue.allocated, (s.requests r).Alike ((s.clear cfg).requests r) :=
    fun r _ ↦ alike_clear _ s r
  have hall : (s.clear cfg).queue.allocated = s.queue.allocated := by
    rw [queue_clear, allocated_clear]
  obtain ⟨requests, queue, errors, he⟩ := clear_shape cfg s
  rw [he] at hreq hall ⊢
  exact ⟨hall.ge, hreq, rfl, rfl, rfl, rfl, rfl, id⟩

theorem stage_clear (s : State) : (s.clear cfg).stage = s.stage := by
  obtain ⟨requests, queue, errors, he⟩ := clear_shape cfg s
  rw [he]

theorem clean_queueTrigger (trigger : List RequestTrigger) {t : Triggers} (h : t.Clean) :
    (t.queueTrigger trigger).Clean := by
  obtain ⟨hreplaced, hremoved⟩ := t.maps_queueTrigger trigger
  exact ⟨hreplaced.trans h.1, hremoved.trans h.2⟩

theorem Coherent.move (h : s.Coherent) (hq : s.Still s')
    (hs : s.stage ∈ restingStages) (hs' : s'.stage ∈ restingStages) : s'.Coherent := by
  refine ⟨hq.hal ▸ h.reused, fun r hr ↦ ?_, (atStage_resting hs').mpr ?_⟩
  · exact (h.known r (hq.mPrevRequest ▸ hr)).trans_le hq.allocated
  · exact Resting.still hq h.known (h.resting hs)

theorem Coherent.take (h : s.Coherent) (hobj : s.Objects) (hs : s.stage = .collecting)
    {input : Bool} (hfill : s.Fills) (ht : s.take cfg input = some s') : s'.Coherent := by
  have hresting := h.resting (by rw [hs]; decide)
  simp only [State.take, Option.map_eq_some_iff] at ht
  obtain ⟨⟨r, queue⟩, hsel, rfl⟩ := ht
  have hselected := hobj.selected hsel hfill
  have hk : ∀ r', (s.dequeue r queue).mPrevRequest = some r' →
      r' < (s.dequeue r queue).queue.allocated := by
    intro r' hr'
    simp only [State.dequeue, setTriggerIds, number, setRequest] at hr'
    split at hr'
    · cases hr'
    · exact (h.known r' hr').trans_eq hselected.allocated.symm
  have hdeq := hresting.dequeue r queue
  simp only [takeRequest]
  split
  · have hskip : (s.dequeue r queue).notifyError cfg r =
        { s.dequeue r queue with errors := ((s.dequeue r queue).notifyError cfg r).errors } := by
      unfold notifyError
      split <;> rfl
    rw [hskip]
    exact coherent_endBatch (s := { s.dequeue r queue with
      errors := ((s.dequeue r queue).notifyError cfg r).errors }) h.reused hk
      ⟨hdeq.clean, hdeq.current, hdeq.unsent, hdeq.settled⟩
  · exact coherent_addNextRequest (s := s.dequeue r queue) h.reused hk hs rfl hdeq r

/-- Without a batch nothing is prepared. -/
theorem Coherent.of_empty (h : s.Coherent) (hn : s.mNextRequests = []) :
    s.stage ∈ restingStages ∨ s.stage = .blocked ∨ s.stage = .ended := by
  have hat := h.atStage
  unfold AtStage at hat
  cases hs : s.stage with
  | preparing i =>
    rw [hs] at hat
    cases i with
    | zero =>
      obtain ⟨first, rest, hready⟩ := hat
      exact absurd (hready.batch.symm.trans hn) (List.cons_ne_nil _ _)
    | succ i =>
      obtain ⟨first, rest, hunder⟩ := hat
      exact absurd (hunder.batch.symm.trans hn) (List.cons_ne_nil _ _)
  | filling i =>
    rw [hs] at hat
    obtain ⟨first, rest, hunder⟩ := hat
    exact absurd (hunder.batch.symm.trans hn) (List.cons_ne_nil _ _)
  | blocked => exact .inr (.inl rfl)
  | ended => exact .inr (.inr rfl)
  | idle => exact .inl (by decide)
  | collecting => exact .inl (by decide)
  | waiting => exact .inl (by decide)
  | collected => exact .inl (by decide)
  | checking => exact .inl (by decide)

theorem Coherent.configureStreams (h : s.Coherent) (hn : s.mNextRequests = [])
    (composerSurfacePresent : Bool) (sessionParams : Metadata) (isConstrainedHighSpeed : Bool) :
    (s.configureStreams composerSurfacePresent sessionParams
      isConstrainedHighSpeed).Coherent := by
  obtain hs | hs := h.of_empty hn
  · have hr := h.resting hs
    refine ⟨h.reused, h.known, (atStage_resting (by exact hs)).mpr ⟨hr.clean, fun _ _ hc ↦ ?_, hr.unsent,
      fun hc ↦ absurd hn hc⟩⟩
    cases hc
  · exact coherent_halted h.reused h.known hs

theorem Coherent.step (hobj : s.Objects) {l : Label} (hs : State.step cfg s l = some s')
    (hok : Faithful cfg s l) (h : s.Coherent) : s'.Coherent := by
  have hstill : s.Still s' → s'.stage = s.stage → s'.Coherent :=
    fun hq hst ↦ Coherent.still hq hobj hst h
  cases l with
  | queueRequestList requests =>
    obtain ⟨_, rfl⟩ := locking_eq_some hs
    exact hstill ⟨Nat.le_add_right _ _, fun r hr ↦ alike_createRequests hr, rfl, rfl, rfl, rfl,
      rfl, id⟩ rfl
  | setRepeatingRequests requests =>
    obtain ⟨_, rfl⟩ := locking_eq_some hs
    exact hstill ⟨Nat.le_add_right _ _, fun r hr ↦ alike_createRequests hr, rfl, rfl, rfl, rfl,
      rfl, id⟩ rfl
  | clearRepeatingRequests =>
    obtain ⟨_, rfl⟩ := locking_eq_some hs
    exact hstill ⟨le_rfl, fun _ _ ↦ .refl _, rfl, rfl, rfl, rfl, rfl, id⟩ rfl
  | clear =>
    obtain ⟨_, rfl⟩ := locking_eq_some hs
    exact hstill (still_clear s) (stage_clear s)
  | queueTrigger trigger =>
    cases hs
    exact hstill ⟨le_rfl, fun _ _ ↦ .refl _, rfl, rfl, rfl, rfl, rfl,
      clean_queueTrigger trigger⟩ rfl
  | setRotateAndCropAutoBehavior value =>
    cases hs
    exact hstill ⟨le_rfl, fun _ _ ↦ .refl _, rfl, rfl, rfl, rfl, rfl, id⟩ rfl
  | setCameraMute muteMode =>
    cases hs
    exact hstill ⟨le_rfl, fun _ _ ↦ .refl _, rfl, rfl, rfl, rfl, rfl, id⟩ rfl
  | configureStreams composer sessionParams constrained =>
    simp only [State.step] at hs
    split at hs
    · obtain ⟨_, rfl⟩ := locking_eq_some hs
      exact h.configureStreams ‹_› composer sessionParams constrained
    · cases hs
  | destroy =>
    cases hs
    exact hstill ⟨le_rfl, fun _ _ ↦ .refl _, rfl, rfl, rfl, rfl, rfl, id⟩ rfl
  | begin =>
    simp only [State.step] at hs
    split at hs <;> cases hs
    rename_i hstage
    exact h.move ⟨le_rfl, fun _ _ ↦ .refl _, rfl, rfl, rfl, rfl, rfl, id⟩
      (by rw [hstage]; decide) (by simp [restingStages])
  | sleep =>
    simp only [State.step] at hs
    split at hs <;> cases hs
    rename_i hstage
    exact h.move ⟨le_rfl, fun _ _ ↦ .refl _, rfl, rfl, rfl, rfl, rfl, id⟩
      (by rw [hstage.1]; decide) (by simp [restingStages])
  | wake exitPending =>
    simp only [State.step] at hs
    split at hs <;> cases hs
    rename_i hstage
    have hwoken : Coherent { s with mRequestLock := true, stage := .collecting } :=
      h.move ⟨le_rfl, fun _ _ ↦ .refl _, rfl, rfl, rfl, rfl, rfl, id⟩
        (by rw [hstage]; decide) (by simp [restingStages])
    simp only [State.wake]
    split
    · exact coherent_endBatch hwoken.reused hwoken.known
        (hwoken.resting (by simp [restingStages]))
    · exact hwoken
  | take input =>
    simp only [State.step] at hs
    split at hs
    · exact h.take hobj ‹_› hok hs
    · cases hs
  | session answer =>
    simp only [State.step] at hs
    split at hs
    · rename_i first rest hstage hnext
      cases hs
      exact h.session hstage hnext (hok first (by rw [hnext]; rfl))
    · cases hs
  | prepare =>
    simp only [State.step] at hs
    split at hs
    · rename_i i hstage
      obtain ⟨next, hn, rfl⟩ := Option.map_eq_some_iff.mp hs
      have hat := h.atStage
      unfold AtStage at hat
      rw [hstage] at hat
      cases i with
      | zero =>
        obtain ⟨first, rest, hready⟩ := hat
        have hfirst : next = first := by
          rw [hready.batch] at hn
          exact (Option.some.inj hn).symm
        rw [hfirst]
        exact h.prepare_first hobj hready
      | succ i =>
        obtain ⟨first, rest, hunder⟩ := hat
        obtain ⟨hnone, hzero⟩ := hok (by rw [hstage]; simp)
        exact h.prepare_later hobj hunder hn hnone hzero
    · cases hs
  | outputs outcome =>
    simp only [State.step] at hs
    split at hs
    · cases hs
      exact h.outputs ‹_› hok
    · cases hs
  | send ok numRequestProcessed =>
    simp only [State.step] at hs
    split at hs
    · rename_i i hstage
      split at hs <;> cases hs
      rename_i hlen
      exact h.send hstage hlen.1 ok hok
    · cases hs
  | check surfaceAbandoned =>
    simp only [State.step] at hs
    split at hs <;> cases hs
    rename_i hstage
    simp only [checkAndStopRepeatingRequest]
    split
    · exact h.move ⟨le_rfl, fun _ _ ↦ .refl _, rfl, rfl, rfl, rfl, rfl, id⟩
        (by rw [hstage]; decide) (by simp [restingStages])
    · exact h.move ⟨le_rfl, fun _ _ ↦ .refl _, rfl, rfl, rfl, rfl, rfl, id⟩
        (by rw [hstage]; decide) (by simp [restingStages])

theorem coherent_create (mPrevTriggers : ℤ) : (create mPrevTriggers).Coherent :=
  ⟨trivial, fun _ hr ↦ (by cases hr), ⟨rfl, rfl⟩, fun _ hr ↦ (by cases hr),
    fun _ hm ↦ absurd hm List.not_mem_nil, fun hc ↦ absurd rfl hc⟩

theorem settings_reused {mPrevTriggers : ℤ}
    (h : Reachable (restrict (Step cfg) (Faithful cfg)) (create mPrevTriggers) s) :
    Reused s.hal := by
  have ⟨_, hcoh⟩ : s.Objects ∧ s.Coherent := by
    refine h.invariant (P := fun s ↦ s.Objects ∧ s.Coherent) (fun s l s' hs ha ↦ ?_)
      ⟨objects_create mPrevTriggers, coherent_create mPrevTriggers⟩
    refine ⟨ha.1.step hs.1 fun input hl ↦ ?_, ha.2.step ha.1 hs.1 hs.2⟩
    subst hl
    exact hs.2
  exact hcoh.reused

/-- A request repeats with a trigger between, and then a batch of two comes. -/
theorem settings_reused_repeated :
    ∃ s, Reachable (restrict (Step .plain) (Faithful .plain)) (create 0) s ∧ Reused s.hal ∧
      s.submissions.map (·.settings) = [none, some [∅], some [∅],
        some [Metadata.update ∅ (.other .int32 5) [7]], none, some [∅]] := by
  obtain ⟨s, he, hf⟩ := Option.map_eq_some_iff.mp (show
    (exec (guarded (step .plain) (Faithful .plain)) (create 0)
      (([.configureStreams false ∅ false, .setRepeatingRequests [.plain ∅]] : List Label) ++
        Label.round ++ Label.round ++ [Label.queueTrigger [⟨.other .int32 5, 7⟩]] ++
        Label.round ++ Label.round ++
        ([.queueRequestList [{ CaptureRequest.plain ∅ with mBatchSize := 2 }, .plain ∅], .begin,
          .take true, .take true, .session ⟨false, true, .abandoned⟩, .prepare, .outputs .ready,
          .prepare, .outputs .ready, .send true 2] : List Label))).map
          (fun s ↦ s.submissions.map (·.settings)) = some [none, some [∅], some [∅],
            some [Metadata.update ∅ (.other .int32 5) [7]], none, some [∅]] by decide +kernel)
  have hs : Reachable (restrict (Step .plain) (Faithful .plain)) (create 0) s :=
    ⟨_, run_restrict_of_exec he⟩
  exact ⟨s, hs, settings_reused hs, hf⟩

/-- A request is dropped for its output buffer after its settings were made, and repeats. -/
theorem not_settings_reused_timed_out :
    ¬ ∀ s, Reachable (Step .plain) (create 0) s → Reused s.hal := by
  intro h
  obtain ⟨s, hs, hf⟩ := exists_reachable_of_exec (s := create 0)
    (f := fun s ↦ decide (Reused s.hal)) (b := false)
    ([.configureStreams false ∅ false, .setRepeatingRequests [.plain ∅], .begin, .take true,
      .session ⟨false, true, .abandoned⟩, .prepare, .outputs .timedOut, .check false] ++
      Label.round) (show (exec (step .plain) _ _).map _ = _ by decide +kernel)
  exact of_decide_eq_false hf (h s hs)

end State

end VirtualCamera.RequestThread
