import Mathlib.Tactic.Abel
import VirtualCamera.RequestThread.Mixing
import VirtualCamera.RequestThread.Objects

namespace VirtualCamera.RequestThread

open Library.Assoc Library.Transition

/-! ### Where the triggers are -/

/-- The triggers that go into the settings. -/
def mixing (triggers : Multiset QueuedTrigger) : Multiset QueuedTrigger :=
  triggers.filter fun trigger ↦ trigger.mixes = true

theorem mixing_add (a b : Multiset QueuedTrigger) : mixing (a + b) = mixing a + mixing b :=
  Multiset.filter_add _ a b

theorem mixing_eq_zero {triggers : Multiset QueuedTrigger} :
    mixing triggers = 0 ↔ ∀ trigger ∈ triggers, trigger.mixes = false := by
  unfold mixing
  rw [Multiset.filter_eq_nil]
  simp only [Bool.not_eq_true]

/-- The triggers of a request were queued since the request before it was prepared, and its
settings have them. -/
def NextRequest.Carries (cfg : Config) (next : NextRequest) : Prop :=
  ∀ trigger ∈ next.triggers, trigger.mixes = true → trigger.since = next.ordinal ∧
    (cfg.Keeps trigger.metadataTag → ∃ m rest, next.settings = some (m :: rest) ∧
      m.find trigger.metadataTag = trigger.data)

/-- A trigger that is queued waits, is replaced or thrown away, or is with one request. -/
structure Account (cfg : Config) (t : Triggers) (held : List NextRequest)
    (sent : List Submission) : Prop where
  keyed : t.Keyed
  serials : t.queued.map (·.serial) = List.range t.queued.length
  since : ∀ trigger ∈ t.pending, trigger.since = t.prepared
  balanced : mixing t.queued = mixing t.overwritten + mixing t.discarded + mixing t.pending +
    mixing (held.flatMap (·.triggers)) + mixing (sent.flatMap (·.triggers))
  held : ∀ next ∈ held, next.Carries cfg
  sent : ∀ submission ∈ sent, submission.toNextRequest.Carries cfg

section Account

variable {cfg : Config} {t t' : Triggers} {held : List NextRequest} {sent : List Submission}

theorem values_insert_add {α β : Type} [DecidableEq α] (a : α) (b : β) (m : Map α β) :
    values (m.insert a b) + ((m.lookup a).toList : Multiset β) = b ::ₘ values m := by
  rw [values_insert]
  cases h : m.lookup a with
  | none =>
    rw [erase_of_notMem (AList.lookup_eq_none.mp h)]
    exact add_zero _
  | some b' =>
    rw [values_of_lookup h, Option.toList_some, Multiset.coe_singleton, Multiset.cons_add,
      Multiset.add_comm, Multiset.singleton_add]

theorem coe_pending (t : Triggers) : (t.pending : Multiset QueuedTrigger) = values t.mTriggerMap :=
  rfl

theorem Account.queueTriggerLocked (h : Account cfg t held sent) {trigger : RequestTrigger}
    (ht : t.queueTriggerLocked trigger = some t') : Account cfg t' held sent := by
  unfold Triggers.queueTriggerLocked at ht
  split at ht
  · cases ht
  rename_i hsupported
  simp only [Option.some.injEq] at ht
  obtain rfl := ht
  let entry : QueuedTrigger :=
    { trigger with supported := hsupported, serial := t.queued.length, since := t.prepared }
  have hmem : ∀ e ∈ (t.mTriggerMap.insert trigger.metadataTag entry).entries,
      e = ⟨trigger.metadataTag, entry⟩ ∨ e ∈ t.mTriggerMap.entries := by
    intro e he
    rw [AList.entries_insert] at he
    obtain rfl | he := List.mem_cons.mp he
    · exact .inl rfl
    · exact .inr ((List.kerase_sublist _ _).subset he)
  refine ⟨fun e he ↦ ?_, ?_, fun other ho ↦ ?_, ?_, h.held, h.sent⟩
  · obtain rfl | he := hmem e he
    · rfl
    · exact h.keyed e he
  · rw [List.map_append, h.serials, List.length_append, List.length_singleton,
      List.range_succ]
    rfl
  · obtain ⟨e, he, rfl⟩ := List.mem_map.mp ho
    obtain rfl | he := hmem e he
    · rfl
    · exact h.since _ (List.mem_map_of_mem he)
  · have hvalues := values_insert_add trigger.metadataTag entry t.mTriggerMap
    have hmix := congrArg mixing hvalues
    rw [mixing_add, ← Multiset.singleton_add, mixing_add] at hmix
    have hbal := h.balanced
    simp only [coe_pending, ← Multiset.coe_add, mixing_add, Multiset.coe_singleton] at hbal ⊢
    have hswap : mixing t.overwritten + mixing ((t.mTriggerMap.lookup trigger.metadataTag).toList) +
        mixing t.discarded + mixing (values (t.mTriggerMap.insert trigger.metadataTag entry)) +
        mixing (held.flatMap (·.triggers)) + mixing (sent.flatMap (·.triggers)) =
        mixing t.overwritten + mixing t.discarded + (mixing {entry} + mixing (values t.mTriggerMap))
          + mixing (held.flatMap (·.triggers)) + mixing (sent.flatMap (·.triggers)) := by
      rw [← hmix]
      abel
    rw [hbal, hswap]
    abel

theorem Account.queueTrigger (h : Account cfg t held sent) (trigger : List RequestTrigger) :
    Account cfg (t.queueTrigger trigger) held sent := by
  induction trigger generalizing t with
  | nil => exact h
  | cons trigger rest ih =>
    simp only [Triggers.queueTrigger]
    split
    · exact h
    · exact ih (h.queueTriggerLocked ‹_›)

theorem Account.clear (h : Account cfg t held sent) : Account cfg t.clear held sent := by
  refine ⟨fun _ he ↦ absurd he List.not_mem_nil, h.serials,
    fun _ ht ↦ absurd ht List.not_mem_nil, ?_, h.held, h.sent⟩
  have hbal := h.balanced
  have hdisc : mixing t.clear.discarded = mixing t.discarded + mixing t.pending := by
    rw [← mixing_add, Multiset.coe_add]
    rfl
  have hpend : mixing t.clear.pending = 0 := rfl
  have hover : t.clear.overwritten = t.overwritten := rfl
  rw [hover, hdisc, hpend, add_zero]
  exact hbal.trans (by abel)

/-- The batch is given up with no trigger in it. -/
theorem Account.drop (h : Account cfg t held sent)
    (hun : ∀ next ∈ held, ∀ trigger ∈ next.triggers, trigger.mixes = false) :
    Account cfg t [] sent := by
  have hnone : mixing (held.flatMap (·.triggers)) = 0 := by
    rw [mixing_eq_zero]
    intro trigger ht
    obtain ⟨next, hn, ht⟩ := List.mem_flatMap.mp (Multiset.mem_coe.mp ht)
    exact hun next hn trigger ht
  refine ⟨h.keyed, h.serials, h.since, ?_, fun _ hm ↦ absurd hm List.not_mem_nil, h.sent⟩
  have hbal := h.balanced
  rw [hnone] at hbal
  exact hbal

theorem Account.append (h : Account cfg t held sent) {next : NextRequest}
    (hn : next.triggers = []) : Account cfg t (held ++ [next]) sent := by
  refine ⟨h.keyed, h.serials, h.since, ?_, fun n hm ↦ ?_, h.sent⟩
  · rw [List.flatMap_append, List.flatMap_singleton, hn, List.append_nil]
    exact h.balanced
  · obtain hm | hm := List.mem_append.mp hm
    · exact h.held n hm
    · rw [List.mem_singleton.mp hm]
      intro trigger ht
      rw [hn] at ht
      exact absurd ht List.not_mem_nil

/-- The maps of what is mixed in have no part in it. -/
theorem Account.maps (h : Account cfg t held sent) (replaced removed : Map Tag QueuedTrigger) :
    Account cfg { t with mTriggerReplacedMap := replaced, mTriggerRemovedMap := removed }
      held sent :=
  ⟨h.keyed, h.serials, h.since, h.balanced, h.held, h.sent⟩

theorem flatMap_set {α β : Type} (f : α → List β) {l : List α} {i : ℕ} {a : α}
    (h : l[i]? = some a) (b : α) :
    (((l.set i b).flatMap f : List β) : Multiset β) + f a = (l.flatMap f : List β) + f b := by
  induction l generalizing i with
  | nil => cases h
  | cons c l ih =>
    cases i with
    | zero =>
      cases h
      simp only [List.set_cons_zero, List.flatMap_cons, ← Multiset.coe_add]
      abel
    | succ i =>
      have := ih (i := i) h
      simp only [List.set_cons_succ, List.flatMap_cons, ← Multiset.coe_add, add_assoc] at this ⊢
      rw [this]

theorem foldl_mixIn_shape (l : List QueuedTrigger) (q : Triggers × CaptureRequest) :
    (l.foldl Triggers.mixIn q).1.queued = q.1.queued ∧
      (l.foldl Triggers.mixIn q).1.overwritten = q.1.overwritten ∧
      (l.foldl Triggers.mixIn q).1.discarded = q.1.discarded := by
  induction l generalizing q with
  | nil => exact ⟨rfl, rfl, rfl⟩
  | cons trigger l ih =>
    obtain ⟨h₁, h₂, h₃⟩ := ih (Triggers.mixIn q trigger)
    have hone : (Triggers.mixIn q trigger).1.queued = q.1.queued ∧
        (Triggers.mixIn q trigger).1.overwritten = q.1.overwritten ∧
        (Triggers.mixIn q trigger).1.discarded = q.1.discarded := by
      unfold Triggers.mixIn
      dsimp only
      split
      · exact ⟨rfl, rfl, rfl⟩
      · split
        · exact ⟨rfl, rfl, rfl⟩
        · split <;> exact ⟨rfl, rfl, rfl⟩
    exact ⟨h₁.trans hone.1, h₂.trans hone.2.1, h₃.trans hone.2.2⟩

/-- A request is prepared and takes the triggers that wait. -/
theorem Account.prepare (h : Account cfg t held sent) {i : ℕ} {next next' : NextRequest}
    (hn : held[i]? = some next) (hun : ∀ trigger ∈ next.triggers, trigger.mixes = false)
    (request : CaptureRequest) (htriggers : next'.triggers = t.pending)
    (hcarries : next'.Carries cfg) :
    Account cfg (t.insertTriggers request).2.1 (held.set i next') sent := by
  obtain ⟨hqueued, hover, hdisc⟩ := foldl_mixIn_shape t.pending (t, request)
  refine ⟨fun _ he ↦ absurd he List.not_mem_nil, ?_, fun _ ht ↦ absurd ht List.not_mem_nil, ?_,
    fun n hm ↦ ?_, h.sent⟩
  · have hq : (t.insertTriggers request).2.1.queued = t.queued := hqueued
    rw [hq]
    exact h.serials
  · have hset := congrArg mixing (flatMap_set (fun n : NextRequest ↦ n.triggers) hn next')
    have hnone : mixing (next.triggers : Multiset QueuedTrigger) = 0 := mixing_eq_zero.mpr hun
    rw [mixing_add, mixing_add, hnone, add_zero, htriggers] at hset
    have hbal := h.balanced
    have hq : (t.insertTriggers request).2.1.queued = t.queued := hqueued
    have ho : (t.insertTriggers request).2.1.overwritten = t.overwritten := hover
    have hd : (t.insertTriggers request).2.1.discarded = t.discarded := hdisc
    have hp : mixing (t.insertTriggers request).2.1.pending = 0 := rfl
    rw [hq, ho, hd, hp, hset, hbal]
    abel
  · obtain hm | rfl := List.mem_or_eq_of_mem_set hm
    · exact h.held n hm
    · exact hcarries

/-- The ids that wait are taken by a request that fails. -/
theorem Account.consume (h : Account cfg t held sent)
    (hids : ∀ trigger ∈ t.pending, trigger.mixes = false) (request : CaptureRequest) :
    Account cfg (t.insertTriggers request).2.1 held sent := by
  obtain ⟨hqueued, hover, hdisc⟩ := foldl_mixIn_shape t.pending (t, request)
  have hq : (t.insertTriggers request).2.1.queued = t.queued := hqueued
  have ho : (t.insertTriggers request).2.1.overwritten = t.overwritten := hover
  have hd : (t.insertTriggers request).2.1.discarded = t.discarded := hdisc
  have hp : mixing (t.insertTriggers request).2.1.pending = 0 := rfl
  have hnone : mixing (t.pending : Multiset QueuedTrigger) = 0 := mixing_eq_zero.mpr hids
  refine ⟨fun _ he ↦ absurd he List.not_mem_nil, ?_, fun _ ht ↦ absurd ht List.not_mem_nil, ?_,
    h.held, h.sent⟩
  · rw [hq]
    exact h.serials
  · have hbal := h.balanced
    rw [hnone] at hbal
    rw [hq, ho, hd, hp]
    exact hbal

/-- The HAL takes the front of the batch, and no trigger is in the rest. -/
theorem Account.send (h : Account cfg t held sent) (n : ℕ) (f : NextRequest → Submission)
    (hf : ∀ next, (f next).toNextRequest = next)
    (hun : ∀ next ∈ held.drop n, ∀ trigger ∈ next.triggers, trigger.mixes = false) :
    Account cfg t [] (((held.take n).map f).reverse ++ sent) := by
  have hrest : mixing ((held.drop n).flatMap (·.triggers)) = 0 := by
    rw [mixing_eq_zero]
    intro trigger ht
    obtain ⟨next, hn, ht⟩ := List.mem_flatMap.mp (Multiset.mem_coe.mp ht)
    exact hun next hn trigger ht
  have hall : mixing (held.flatMap (·.triggers)) =
      mixing ((held.take n).flatMap (·.triggers)) := by
    conv_lhs => rw [← List.take_append_drop n held]
    rw [List.flatMap_append, ← Multiset.coe_add, mixing_add, hrest, add_zero]
  have hsent : (((((held.take n).map f).reverse ++ sent).flatMap (·.triggers) :
      List QueuedTrigger) : Multiset QueuedTrigger) =
      ((held.take n).flatMap (·.triggers) : List QueuedTrigger) +
        (sent.flatMap (·.triggers) : List QueuedTrigger) := by
    rw [List.flatMap_append, ← Multiset.coe_add]
    refine congrArg (· + _) (Multiset.coe_eq_coe.mpr ?_)
    refine ((List.reverse_perm _).flatMap_right _).trans ?_
    rw [List.flatMap_map]
    refine List.Perm.of_eq (List.flatMap_congr fun next _ ↦ ?_)
    exact congrArg NextRequest.triggers (hf next)
  refine ⟨h.keyed, h.serials, h.since, ?_, fun _ hm ↦ absurd hm List.not_mem_nil,
    fun submission hm ↦ ?_⟩
  · have hbal := h.balanced
    rw [hsent, mixing_add, hbal, hall, List.flatMap_nil]
    have hzero : mixing (([] : List QueuedTrigger) : Multiset QueuedTrigger) = 0 := rfl
    rw [hzero]
    abel
  · obtain hm | hm := List.mem_append.mp hm
    · obtain ⟨next, hnext, rfl⟩ := List.mem_map.mp (List.mem_reverse.mp hm)
      rw [hf next]
      exact h.held next (List.mem_of_mem_take hnext)
    · exact h.sent submission hm

end Account

namespace State

variable {cfg : Config} {s s' : State}

/-! ### What is in the settings -/

/-- No request of the batch has a trigger in its settings. -/
def Unloaded (s : State) : Prop :=
  ∀ next ∈ s.mNextRequests, ∀ trigger ∈ next.triggers, trigger.mixes = false

instance (s : State) : Decidable s.Unloaded := by
  unfold Unloaded
  infer_instance

/-- No trigger is in the settings of a request. -/
structure Calm (cfg : Config) (s : State) : Prop where
  clean : s.triggers.Clean
  unloaded : s.Unloaded
  stored : ∀ r < s.queue.allocated, (s.requests r).Stored cfg

/-- Triggers are in the settings of the first request of the batch, and can be taken out. -/
structure Loaded (cfg : Config) (s : State) (first : NextRequest) (rest : List NextRequest) :
    Prop where
  batch : s.mNextRequests = first :: rest
  prev : s.mPrevRequest = some first.captureRequest
  loaded : ∃ trigger ∈ first.triggers, trigger.mixes = true
  unloaded : ∀ next ∈ rest, ∀ trigger ∈ next.triggers, trigger.mixes = false
  others : ∀ r < s.queue.allocated, r ≠ first.captureRequest → (s.requests r).Stored cfg
  restored : (s.triggers.removeTriggers (s.requests first.captureRequest)).2.Stored cfg

/-- The first request of the batch is prepared. -/
def underway : Stage → Bool
  | .filling _ => true
  | .preparing (_ + 1) => true
  | _ => false

structure Tracked (cfg : Config) (s : State) : Prop where
  account : Account cfg s.triggers s.mNextRequests s.submissions
  settled : s.Calm cfg ∨ underway s.stage = true ∧ ∃ first rest, s.Loaded cfg first rest

theorem Loaded.not_unloaded {first : NextRequest} {rest : List NextRequest}
    (h : s.Loaded cfg first rest) : ¬ s.Unloaded := by
  intro hun
  obtain ⟨trigger, ht, hmix⟩ := h.loaded
  rw [hun first (by rw [h.batch]; exact List.mem_cons_self) trigger ht] at hmix
  cases hmix

theorem Tracked.calm (h : s.Tracked cfg) (hun : s.Unloaded) : s.Calm cfg :=
  h.settled.resolve_right fun ⟨_, _, _, hl⟩ ↦ hl.not_unloaded hun

theorem Tracked.calm_of_stage (h : s.Tracked cfg) (hs : underway s.stage = false) :
    s.Calm cfg := by
  refine h.settled.resolve_right fun ⟨hc, _⟩ ↦ ?_
  rw [hs] at hc
  cases hc

theorem stored_of_alike {request request' : CaptureRequest} (h : request.Alike request')
    (hs : request.Stored cfg) : request'.Stored cfg := by
  obtain ⟨_, rfl⟩ := h
  exact hs

theorem removeTriggers_of_alike {t : Triggers} {request request' : CaptureRequest}
    (h : request.Alike request') (hs : (t.removeTriggers request).2.Stored cfg) :
    (t.removeTriggers request').2.Stored cfg := by
  obtain ⟨_, rfl⟩ := h
  exact hs

/-! ### Steps that leave the settings alone -/

/-- The requests there were stay, and new ones are as they came. -/
def Grows (cfg : Config) (s s' : State) : Prop :=
  ∀ r < s'.queue.allocated, r < s.queue.allocated ∧ (s.requests r).Alike (s'.requests r) ∨
    s.queue.allocated ≤ r ∧ (s'.requests r).Stored cfg

theorem grows_of_alike (hall : s'.queue.allocated = s.queue.allocated)
    (hreq : ∀ r, (s.requests r).Alike (s'.requests r)) : s.Grows cfg s' :=
  fun r hr ↦ .inl ⟨hall ▸ hr, hreq r⟩

theorem grows_of_eq (hall : s'.queue.allocated = s.queue.allocated)
    (hreq : s'.requests = s.requests) : s.Grows cfg s' :=
  grows_of_alike hall fun _ ↦ hreq ▸ .refl _

theorem grows_create {requests : List CaptureRequest} (hr : s'.requests =
    s.createRequests cfg requests) (hall : s'.queue.allocated =
      s.queue.allocated + requests.length) : s.Grows cfg s' := by
  intro r hlt
  by_cases hold : r < s.queue.allocated
  · exact .inl ⟨hold, hr ▸ alike_createRequests hold⟩
  · refine .inr ⟨Nat.le_of_not_lt hold, ?_⟩
    have hin : r - s.queue.allocated < requests.length := by omega
    rw [hr]
    unfold createRequests
    rw [if_neg hold, List.getElem?_eq_getElem hin]
    exact stored_createCaptureRequest cfg _ _

theorem Calm.grows (h : s.Calm cfg) (hg : s.Grows cfg s') (hclean : s'.triggers.Clean)
    (hun : s'.Unloaded) : s'.Calm cfg := by
  refine ⟨hclean, hun, fun r hr ↦ ?_⟩
  obtain ⟨hold, ha⟩ | ⟨_, hs⟩ := hg r hr
  · exact stored_of_alike ha (h.stored r hold)
  · exact hs

theorem Loaded.grows {first : NextRequest} {rest : List NextRequest}
    (h : s.Loaded cfg first rest) (hknown : s.Known) (hg : s.Grows cfg s')
    (hle : s.queue.allocated ≤ s'.queue.allocated) (hn : s'.mNextRequests = s.mNextRequests)
    (hp : s'.mPrevRequest = s.mPrevRequest)
    (hrep : s'.triggers.mTriggerReplacedMap = s.triggers.mTriggerReplacedMap)
    (hrem : s'.triggers.mTriggerRemovedMap = s.triggers.mTriggerRemovedMap) :
    s'.Loaded cfg first rest := by
  have hfirst : first.captureRequest < s.queue.allocated :=
    hknown.next (by rw [h.batch]; exact List.mem_cons_self)
  refine ⟨hn.trans h.batch, hp.trans h.prev, h.loaded, h.unloaded, fun r hr hne ↦ ?_, ?_⟩
  · obtain ⟨hold, ha⟩ | ⟨_, hs⟩ := hg r hr
    · exact stored_of_alike ha (h.others r hold hne)
    · exact hs
  · have hrest : ∀ request, (s'.triggers.removeTriggers request).2 =
        (s.triggers.removeTriggers request).2 := by
      intro request
      unfold Triggers.removeTriggers Triggers.restore
      rw [hrep, hrem]
    obtain ⟨_, ha⟩ | ⟨hge, _⟩ := hg _ (hfirst.trans_le hle)
    · rw [hrest]
      exact removeTriggers_of_alike ha h.restored
    · omega

theorem Tracked.grows (h : s.Tracked cfg) (hknown : s.Known) (hg : s.Grows cfg s')
    (hle : s.queue.allocated ≤ s'.queue.allocated) (hn : s'.mNextRequests = s.mNextRequests)
    (hp : s'.mPrevRequest = s.mPrevRequest) (hsub : s'.submissions = s.submissions)
    (hrep : s'.triggers.mTriggerReplacedMap = s.triggers.mTriggerReplacedMap)
    (hrem : s'.triggers.mTriggerRemovedMap = s.triggers.mTriggerRemovedMap)
    (hacc : Account cfg s'.triggers s.mNextRequests s.submissions)
    (hst : underway s.stage = true → underway s'.stage = true) : s'.Tracked cfg := by
  refine ⟨?_, ?_⟩
  · rw [hn, hsub]
    exact hacc
  · refine h.settled.imp (fun hc ↦ hc.grows hg ?_ ?_) fun ⟨hu, first, rest, hl⟩ ↦
      ⟨hst hu, first, rest, hl.grows hknown hg hle hn hp hrep hrem⟩
    · exact ⟨hrep.trans hc.clean.1, hrem.trans hc.clean.2⟩
    · unfold Unloaded
      rw [hn]
      exact hc.unloaded

/-! ### Batches without triggers -/

theorem tracked_of_calm (hacc : Account cfg s.triggers s.mNextRequests s.submissions)
    (h : s.Calm cfg) : s.Tracked cfg := ⟨hacc, .inl h⟩

theorem Tracked.cleanUp (h : s.Tracked cfg) (hun : s.Unloaded) (sendRequestError : Bool)
    (after : Stage) : (s.cleanUpFailedRequests cfg sendRequestError after).Tracked cfg := by
  have hcalm := h.calm hun
  obtain ⟨errors, next, stage, he, ⟨_, rfl⟩ | ⟨_, rfl⟩⟩ :=
    cleanUpFailedRequests_shape cfg s sendRequestError after
  · rw [he]
    exact tracked_of_calm h.account ⟨hcalm.clean, hcalm.unloaded, hcalm.stored⟩
  · rw [he]
    exact tracked_of_calm (h.account.drop hun)
      ⟨hcalm.clean, fun _ hm ↦ absurd hm List.not_mem_nil, hcalm.stored⟩

theorem Tracked.fail (h : s.Tracked cfg) (hun : s.Unloaded) : (s.fail cfg).Tracked cfg :=
  Tracked.cleanUp (s := s.setErrorState) ⟨h.account, h.settled.imp
    (fun hc ↦ ⟨hc.clean, hc.unloaded, hc.stored⟩) fun ⟨_, _, _, hl⟩ ↦ absurd hun hl.not_unloaded⟩
    hun false .ended

theorem Tracked.endBatch (h : s.Tracked cfg) (hun : s.Unloaded) :
    (s.endBatch cfg).Tracked cfg := by
  have hcalm := h.calm hun
  simp only [State.endBatch]
  split
  · exact tracked_of_calm h.account ⟨hcalm.clean, hcalm.unloaded, hcalm.stored⟩
  · exact h.cleanUp hun true .idle

theorem Tracked.take (h : s.Tracked cfg) (hs : s.stage = .collecting) {input : Bool}
    (ht : s.take cfg input = some s') : s'.Tracked cfg := by
  have hcalm := h.calm_of_stage (by rw [hs]; rfl)
  simp only [State.take, Option.map_eq_some_iff] at ht
  obtain ⟨⟨r, queue⟩, hsel, rfl⟩ := ht
  obtain ⟨_, hall, _⟩ := select_shape hsel
  have hdeq : (s.dequeue r queue).Calm cfg :=
    hcalm.grows (grows_of_alike hall (alike_dequeue s r queue)) hcalm.clean hcalm.unloaded
  simp only [takeRequest]
  split
  · refine Tracked.endBatch (tracked_of_calm ?_ ?_) ?_
    · unfold notifyError
      split <;> exact h.account
    · unfold notifyError
      split <;> exact ⟨hdeq.clean, hdeq.unloaded, hdeq.stored⟩
    · unfold notifyError
      split <;> exact hcalm.unloaded
  · have hun : ∀ added : NextRequest, added.triggers = [] → ∀ next ∈ s.mNextRequests ++ [added],
        ∀ trigger ∈ next.triggers, trigger.mixes = false := by
      intro added ha next hn
      obtain hn | hn := List.mem_append.mp hn
      · exact hcalm.unloaded next hn
      · rw [List.mem_singleton.mp hn, ha]
        exact fun _ hm ↦ absurd hm List.not_mem_nil
    simp only [addNextRequest]
    split
    · exact tracked_of_calm (h.account.append rfl) ⟨hdeq.clean, hun _ rfl, hdeq.stored⟩
    · exact tracked_of_calm (h.account.append rfl) ⟨hdeq.clean, hun _ rfl, hdeq.stored⟩

theorem submissions_reconfigureCamera (s : State) (reconfigure : Reconfigure) :
    (s.reconfigureCamera reconfigure).submissions = s.submissions := by
  cases reconfigure with
  | abandoned => rfl
  | configured composer => rfl
  | failed halConfigured error => cases halConfigured <;> rfl

theorem Tracked.session (h : s.Tracked cfg) (hs : s.stage = .collected) (answer : SessionAnswer)
    (first : NextRequest) : (s.session cfg answer first).Tracked cfg := by
  have hcalm := h.calm_of_stage (by rw [hs]; rfl)
  have hsame : Tracked cfg (s.updateSession cfg first) :=
    tracked_of_calm h.account ⟨hcalm.clean, hcalm.unloaded, hcalm.stored⟩
  have hgo : ∀ t : State, t.triggers = s.triggers → t.mNextRequests = s.mNextRequests →
      t.submissions = s.submissions → t.requests = s.requests → t.queue = s.queue →
      Tracked cfg { t with stage := .preparing 0 } := by
    intro t ht hn hsub hreq hq
    refine tracked_of_calm ?_ ⟨?_, ?_, ?_⟩
    · have hacc := h.account
      rw [← ht, ← hn, ← hsub] at hacc
      exact hacc
    · exact ht ▸ hcalm.clean
    · unfold Unloaded
      exact hn ▸ hcalm.unloaded
    · simp only [hq, hreq]
      exact hcalm.stored
  simp only [State.session]
  split
  · split
    · split
      · refine hgo _ ?_ ?_ (submissions_reconfigureCamera _ _) (requests_reconfigureCamera _ _)
          (queue_reconfigureCamera _ _)
        · cases answer.reconfigure <;> rfl
        · cases answer.reconfigure <;> rfl
      · exact hgo (s.updateSession cfg first) rfl rfl rfl rfl rfl
    · exact hsame.cleanUp hcalm.unloaded false .ended
  · exact hgo (s.updateSession cfg first) rfl rfl rfl rfl rfl

/-! ### Preparing -/

theorem triggers_mix (cfg : Config) (s : State) (r : ℕ) :
    (s.mix cfg r).triggers = (s.triggers.insertTriggers (s.requests r)).2.1 := rfl

/-- What is mixed in besides the triggers is only what the thread rewrites. -/
theorem agree_mix (cfg : Config) (s : State) (r : ℕ) :
    (s.triggers.insertTriggers (s.requests r)).2.2.Agree cfg (s.mix cfg r).request := by
  simp only [mix]
  refine CaptureRequest.Agree.trans ?_ (agree_overrideTestPattern s.overrides _)
  split
  · exact .refl cfg _
  · exact agree_overrideAutoRotateAndCrop s.overrides _

theorem agree_new {r : ℕ} {request : CaptureRequest}
    (h : cfg.mappers.correct ((s.mix cfg r).request.setMetadata
      (addFakeTriggerIds (s.mix cfg r).request.metadata)) = some request) :
    (s.triggers.insertTriggers (s.requests r)).2.2.Agree cfg request :=
  ((agree_mix cfg s r).trans (agree_setMetadata (agree_addFakeTriggerIds _))).trans
    (agree_correct h)

theorem original_of_fixed {request request' : CaptureRequest}
    (h : request'.fixed = request.fixed) : request'.original = request.original :=
  congrArg (fun p ↦ p.2.2.2) h

/-- Ids are taken, and nothing else happens to the settings. -/
theorem agree_ids {r : ℕ} {request : CaptureRequest}
    (hids : ∀ trigger ∈ s.triggers.pending, trigger.mixes = false)
    (ha : (s.triggers.insertTriggers (s.requests r)).2.2.Agree cfg request) :
    (s.requests r).Agree cfg request := by
  obtain ⟨_, _, hset, hphys⟩ := Triggers.insertTriggers_ids hids (s.requests r)
  have hall : (s.triggers.insertTriggers (s.requests r)).2.2.allMetadata =
      (s.requests r).allMetadata := by
    unfold CaptureRequest.allMetadata CaptureRequest.metadata
    rw [hset, hphys]
  unfold CaptureRequest.Agree at ha ⊢
  rw [← hall]
  exact ha

theorem agree_removeTriggers {t : Triggers} {request request' : CaptureRequest}
    (h : request.Agree cfg request') :
    (t.removeTriggers request).2.Agree cfg (t.removeTriggers request').2 := by
  unfold CaptureRequest.Agree CaptureRequest.allMetadata at h ⊢
  obtain _ | ⟨hm, hrest⟩ := h
  exact .cons (Triggers.agree_restore hm t) hrest

theorem physical_foldl_mixIn (l : List QueuedTrigger) (q : Triggers × CaptureRequest) :
    (l.foldl Triggers.mixIn q).2.physical = q.2.physical := by
  induction l generalizing q with
  | nil => rfl
  | cons trigger l ih =>
    rw [List.foldl_cons, ih]
    unfold Triggers.mixIn
    dsimp only
    split
    · rfl
    · split
      · rfl
      · split <;> rfl

/-- The triggers that were mixed in can be taken out of what the thread made of the request. -/
theorem stored_removeTriggers {r : ℕ} {request : CaptureRequest} (hkeyed : s.triggers.Keyed)
    (hclean : s.triggers.Clean) (hold : ∀ trigger ∈ s.triggers.pending, trigger.mixes = true →
      (s.requests r).metadata.Restorable trigger.metadataTag)
    (hs : (s.requests r).Stored cfg) (hfixed : request.original = (s.requests r).original)
    (ha : (s.triggers.insertTriggers (s.requests r)).2.2.Agree cfg request) :
    ((s.mix cfg r).triggers.removeTriggers request).2.Stored cfg := by
  have hundo := Triggers.undoes_insertTriggers hkeyed hclean hold
  have hback : (s.requests r).Agree cfg ((s.mix cfg r).triggers.removeTriggers
      (s.triggers.insertTriggers (s.requests r)).2.2).2 := by
    refine .cons (fun tag _ ↦ hundo.restores tag) ?_
    have hphys : (s.triggers.insertTriggers (s.requests r)).2.2.physical =
        (s.requests r).physical := physical_foldl_mixIn s.triggers.pending _
    simp only [Triggers.removeTriggers, CaptureRequest.setMetadata, hphys]
    exact List.forall₂_same.mpr fun _ _ ↦ .refl _ _
  exact hs.agree (hback.trans (agree_removeTriggers ha)) hfixed

theorem stored_update {requests : ℕ → CaptureRequest} {r n : ℕ} {request : CaptureRequest}
    {p : ℕ → Prop} (h : ∀ r' < n, p r' → (requests r').Stored cfg)
    (hr : p r → request.Stored cfg) :
    ∀ r' < n, p r' → (Function.update requests r request r').Stored cfg := by
  intro r' hlt hp
  by_cases he : r' = r
  · subst he
    rw [Function.update_self]
    exact hr hp
  · rw [Function.update_of_ne he]
    exact h r' hlt hp

/-- A request is prepared while only ids wait. -/
theorem Tracked.prepare_ids (h : s.Tracked cfg) (hknown : s.Known) {i : ℕ} {next : NextRequest}
    (hs : s.stage = .preparing i) (hn : s.mNextRequests[i]? = some next)
    (hids : ∀ trigger ∈ s.triggers.pending, trigger.mixes = false)
    (hok : s.parent = true ∨ s.Unloaded) : (s.prepare cfg i next).Tracked cfg := by
  have hmem : next ∈ s.mNextRequests := List.mem_of_getElem? hn
  have hlt := hknown.next hmem
  have hfixed := fixed_mix cfg s next.captureRequest
  obtain ⟨hrep, hrem, _⟩ := Triggers.insertTriggers_ids hids (s.requests next.captureRequest)
  have hset : ∀ {l : List NextRequest} {j : ℕ} {next' : NextRequest},
      (∀ n ∈ l, ∀ trigger ∈ n.triggers, trigger.mixes = false) →
      next'.triggers = s.triggers.pending →
      ∀ n ∈ l.set j next', ∀ trigger ∈ n.triggers, trigger.mixes = false := by
    intro l j next' hl ht n hm
    obtain hm | rfl := List.mem_or_eq_of_mem_set hm
    · exact hl n hm
    · rw [ht]
      exact hids
  have hcarries : ∀ next' : NextRequest, next'.triggers = s.triggers.pending →
      next'.Carries cfg := by
    intro next' ht trigger hmem hmix
    rw [ht] at hmem
    rw [hids trigger hmem] at hmix
    cases hmix
  simp only [State.prepare]
  split
  · rename_i hparent
    obtain hcalm | ⟨hunder, first, rest, hl⟩ := h.settled
    · have hun := hcalm.unloaded next hmem
      have hclean : (s.mix cfg next.captureRequest).triggers.Clean :=
        ⟨hrep.trans hcalm.clean.1, hrem.trans hcalm.clean.2⟩
      have hstored : ∀ request : CaptureRequest,
          (s.triggers.insertTriggers (s.requests next.captureRequest)).2.2.Agree cfg request →
          request.original = (s.requests next.captureRequest).original →
          ∀ r < s.queue.allocated,
            (Function.update s.requests next.captureRequest request r).Stored cfg :=
        fun request ha ho r hr ↦ stored_update (p := fun _ ↦ True) (fun r' hr' _ ↦
          hcalm.stored r' hr') (fun _ ↦ (hcalm.stored _ hlt).agree (agree_ids hids ha) ho) r hr
            trivial
      split
      · simp only [prepareNew]
        split
        · refine Tracked.fail (tracked_of_calm (h.account.consume hids _) ⟨hclean,
            hcalm.unloaded, ?_⟩) hcalm.unloaded
          exact hstored _ ((agree_mix cfg s _).trans (agree_setMetadata
            (agree_addFakeTriggerIds _))) (original_of_fixed hfixed)
        · rename_i request hcorrect
          refine tracked_of_calm (h.account.prepare hn hun _ rfl (hcarries _ rfl))
            ⟨hclean, hset hcalm.unloaded rfl, ?_⟩
          exact hstored request (agree_new hcorrect)
            (original_of_fixed ((Mappers.fixed_correct hcorrect).trans hfixed))
      · refine tracked_of_calm (h.account.prepare hn hun _ rfl (hcarries _ rfl))
          ⟨hclean, hset hcalm.unloaded rfl, ?_⟩
        exact hstored _ (agree_mix cfg s _) (original_of_fixed hfixed)
    · obtain ⟨j, rfl⟩ : ∃ j, i = j + 1 := by
        rw [hs] at hunder
        cases i with
        | zero => cases hunder
        | succ j => exact ⟨j, rfl⟩
      have hrest : next ∈ rest := by
        rw [hl.batch, List.getElem?_cons_succ] at hn
        exact List.mem_of_getElem? hn
      have ha := agree_ids hids (agree_mix cfg s next.captureRequest)
      have ho := original_of_fixed hfixed
      rw [if_neg (by rw [hknown.newRequest_later hn]; decide)]
      let next' : NextRequest := { next with
        frame_number := (s.mix cfg next.captureRequest).request.mResultExtras.frameNumber
        triggers := s.triggers.pending
        ordinal := s.triggers.prepared }
      have hun : ∀ n ∈ rest.set j next', ∀ trigger ∈ n.triggers, trigger.mixes = false :=
        hset hl.unloaded rfl
      refine ⟨h.account.prepare hn (hl.unloaded next hrest) _ rfl (hcarries next' rfl),
        .inr ⟨rfl, first, rest.set j next', ?_, hl.prev, hl.loaded, hun, ?_, ?_⟩⟩
      · simp only [setNext, setRequest, hl.batch, List.set_cons_succ]
        rfl
      · exact stored_update hl.others fun hne ↦ (hl.others _ hlt hne).agree ha ho
      · have hmaps : ∀ request, ((s.mix cfg next.captureRequest).triggers.removeTriggers request).2 =
            (s.triggers.removeTriggers request).2 := by
          intro request
          unfold Triggers.removeTriggers Triggers.restore
          rw [triggers_mix, hrep, hrem]
        simp only [setNext, setRequest, hmaps]
        by_cases he : first.captureRequest = next.captureRequest
        · rw [he, Function.update_self]
          have hrestored := hl.restored
          rw [he] at hrestored
          exact hrestored.agree (agree_removeTriggers ha) ho
        · rw [Function.update_of_ne he]
          exact hl.restored
  · rename_i hparent
    exact h.fail (hok.resolve_left hparent)

theorem newRequest_of_pending {r : ℕ} (h : s.triggers.pending ≠ []) :
    s.newRequest cfg 0 r = true := by
  have hcount : 0 < (s.mix cfg r).triggerCount := List.length_pos_iff.mpr h
  simp only [newRequest, hcount, decide_true, Bool.true_or, Bool.or_true, lt_irrefl,
    decide_false, Bool.and_false, Bool.not_false, Bool.and_true]

/-- What the corrections make of a request that is new. -/
def corrected (cfg : Config) (s : State) (r : ℕ) : Option CaptureRequest :=
  cfg.mappers.correct ((s.mix cfg r).request.setMetadata
    (addFakeTriggerIds (s.mix cfg r).request.metadata))

/-- The first request of a batch is prepared while a trigger waits. -/
theorem Tracked.prepare_mixing (h : s.Tracked cfg) (hknown : s.Known) {next : NextRequest}
    (hs : s.stage = .preparing 0) (hn : s.mNextRequests[0]? = some next)
    (hmix : ∃ trigger ∈ s.triggers.pending, trigger.mixes = true) (hparent : s.parent = true)
    (hold : ∀ trigger ∈ s.triggers.pending, trigger.mixes = true →
      (s.requests next.captureRequest).metadata.Restorable trigger.metadataTag)
    (hcorrect : (s.corrected cfg next.captureRequest).isSome = true) :
    (s.prepare cfg 0 next).Tracked cfg := by
  have hcalm := h.calm_of_stage (by rw [hs]; rfl)
  obtain ⟨request, hrequest⟩ := Option.isSome_iff_exists.mp hcorrect
  unfold corrected at hrequest
  have hmem : next ∈ s.mNextRequests := List.mem_of_getElem? hn
  have hbatch : s.mNextRequests = next :: s.mNextRequests.tail := by
    cases hall : s.mNextRequests with
    | nil =>
      rw [hall] at hn
      cases hn
    | cons first rest =>
      rw [hall] at hn
      cases hn
      rfl
  have hpend : s.triggers.pending ≠ [] := by
    obtain ⟨trigger, ht, _⟩ := hmix
    exact List.ne_nil_of_mem ht
  have hfixed := (Mappers.fixed_correct hrequest).trans
    (fixed_mix cfg s next.captureRequest)
  have ha := agree_new hrequest
  have hlt := hknown.next hmem
  have hundo := Triggers.undoes_insertTriggers h.account.keyed hcalm.clean hold
  simp only [State.prepare, hparent, if_true, newRequest_of_pending hpend, prepareNew, hrequest]
  let next' : NextRequest := { next with
    frame_number := (s.mix cfg next.captureRequest).request.mResultExtras.frameNumber
    triggers := s.triggers.pending
    ordinal := s.triggers.prepared
    settings := some request.allMetadata }
  have hcarries : next'.Carries cfg := by
    intro trigger ht htm
    refine ⟨h.account.since trigger ht, fun hkeep ↦ ⟨request.metadata, _, rfl, ?_⟩⟩
    have hfind := hundo.mixed trigger (List.mem_reverse.mpr ht) htm
    have hhead : Metadata.Agree cfg.Keeps
        (s.triggers.insertTriggers (s.requests next.captureRequest)).2.2.metadata
          request.metadata := by
      unfold CaptureRequest.Agree CaptureRequest.allMetadata at ha
      obtain _ | ⟨hhead, _⟩ := ha
      exact hhead
    exact (hhead _ hkeep).trans hfind
  refine ⟨h.account.prepare hn (hcalm.unloaded next hmem) _ rfl hcarries,
    .inr ⟨rfl, next', s.mNextRequests.tail, ?_, rfl, hmix, ?_, ?_, ?_⟩⟩
  · simp only [setNext, setRequest]
    conv_lhs => rw [hbatch, List.set_cons_zero]
  · exact fun n hm ↦ hcalm.unloaded n (List.mem_of_mem_tail hm)
  · exact stored_update (fun r hr _ ↦ hcalm.stored r hr) fun hne ↦ absurd rfl hne
  · have hst := stored_removeTriggers h.account.keyed hcalm.clean hold
      (hcalm.stored _ hlt) (original_of_fixed hfixed) ha
    simp only [setNext, setRequest, Function.update_self, next']
    exact hst

/-! ### Outputs, and the HAL -/

theorem Tracked.outputs (h : s.Tracked cfg) {i : ℕ} {outcome : Outcome}
    (hok : outcome = .ready ∧ s.parent = true ∨ s.Unloaded) :
    (s.outputs cfg i outcome).Tracked cfg := by
  have hgo : Tracked cfg { s with stage := .preparing (i + 1) } :=
    ⟨h.account, h.settled.imp (fun hc ↦ ⟨hc.clean, hc.unloaded, hc.stored⟩)
      fun ⟨_, first, rest, hl⟩ ↦ ⟨rfl, first, rest,
        ⟨hl.batch, hl.prev, hl.loaded, hl.unloaded, hl.others, hl.restored⟩⟩⟩
  obtain ⟨rfl, hparent⟩ | hun := hok
  · simp only [State.outputs]
    rw [if_pos hparent]
    exact hgo
  · simp only [State.outputs]
    split
    · cases outcome with
      | ready => exact hgo
      | timedOut => exact h.cleanUp hun true .checking
      | noSurfaceIds => exact h.cleanUp hun false .ended
      | notRegistered => exact h.fail hun
    · exact h.cleanUp hun false .ended

/-- The triggers are out of the settings, and the batch is with the HAL. -/
theorem Tracked.send (h : s.Tracked cfg) (hlock : s.mRequestLock = false) {n : ℕ} (ok : Bool)
    (hok : n ≠ 0 ∨ s.Unloaded) : (s.send cfg ok n).Tracked cfg := by
  let sent : State := { s with
    hal := (s.mNextRequests.take n).foldl
      (fun hal next ↦ .submitted (s.submission next) :: hal) s.hal
    mNextRequests := (s.mNextRequests.take n).map NextRequest.submit ++ s.mNextRequests.drop n }
  let out : State := (s.mNextRequests.take n).foldl (fun s _ ↦ s.removeTriggers) sent
  have hdrop : ∀ next ∈ s.mNextRequests.drop n,
      ∀ trigger ∈ next.triggers, trigger.mixes = false := by
    obtain hcalm | ⟨_, first, rest, hl⟩ := h.settled
    · exact fun next hm ↦ hcalm.unloaded next (List.mem_of_mem_drop hm)
    · obtain ⟨k, rfl⟩ := Nat.exists_eq_succ_of_ne_zero (hok.resolve_right hl.not_unloaded)
      rw [hl.batch, List.drop_succ_cons]
      exact fun next hm ↦ hl.unloaded next (List.mem_of_mem_drop hm)
  have hsub : sent.submissions =
      ((s.mNextRequests.take n).map s.submission).reverse ++ s.submissions :=
    foldl_submissions s.submission _ _
  have hacc : Account cfg s.triggers [] sent.submissions := by
    rw [hsub]
    exact h.account.send n s.submission (fun _ ↦ rfl) hdrop
  have hout : Account cfg out.triggers [] out.submissions ∧ out.triggers.Clean ∧
      out.queue = s.queue ∧ out.mRequestLock = false ∧
      ∀ r < s.queue.allocated, (out.requests r).Stored cfg := by
    obtain hcalm | ⟨_, first, rest, hl⟩ := h.settled
    · have he : out = sent := foldl_removeTriggers_of_clean _ hcalm.clean
      rw [he]
      exact ⟨hacc, hcalm.clean, rfl, hlock, hcalm.stored⟩
    · obtain ⟨k, rfl⟩ := Nat.exists_eq_succ_of_ne_zero (hok.resolve_right hl.not_unloaded)
      have he : out = sent.removeTriggers := by
        simp only [out]
        rw [hl.batch, List.take_succ_cons]
        exact foldl_removeTriggers (s := sent) hl.prev first _
      have hremoved : sent.removeTriggers =
          { sent.setRequest first.captureRequest
              (s.triggers.removeTriggers (s.requests first.captureRequest)).2 with
            triggers := (s.triggers.removeTriggers (s.requests first.captureRequest)).1 } := by
        have hprev : sent.mPrevRequest = some first.captureRequest := hl.prev
        unfold removeTriggers
        rw [hprev]
      rw [he, hremoved]
      refine ⟨hacc.maps ∅ ∅, ⟨rfl, rfl⟩, rfl, hlock, fun r hr ↦ ?_⟩
      by_cases hfirst : r = first.captureRequest
      · rw [hfirst]
        simp only [setRequest, Function.update_self]
        exact hl.restored
      · simp only [setRequest, Function.update_of_ne hfirst]
        exact hl.others r hr hfirst
  obtain ⟨hacc, hclean, hqueue, hlock, hstored⟩ := hout
  have hend : ∀ (stage : Stage) (error : Bool), Tracked cfg
      { out with deviceError := error, mNextRequests := [], stage := stage } :=
    fun stage error ↦ tracked_of_calm hacc
      ⟨hclean, fun _ hm ↦ absurd hm List.not_mem_nil, fun r hr ↦ hstored r (hqueue ▸ hr)⟩
  simp only [State.send]
  split
  · exact hend .idle out.deviceError
  · rw [fail_eq (by exact hlock)]
    exact hend .ended _

/-! ### The lock -/

/-- The thread holds the lock while it collects, or for ever. -/
def Locked (s : State) : Prop :=
  s.mRequestLock = true → s.stage = .collecting ∨ s.stage = .blocked

theorem locked_of_unlocked (h : s.mRequestLock = false) : s.Locked := by
  intro hc
  rw [h] at hc
  cases hc

theorem Locked.unlocked (h : s.Locked) (hc : s.stage ≠ .collecting) (hb : s.stage ≠ .blocked) :
    s.mRequestLock = false := by
  cases hlock : s.mRequestLock with
  | false => rfl
  | true => exact absurd (h hlock) (not_or.mpr ⟨hc, hb⟩)

theorem lock_cleanUpFailedRequests (s : State) (sendRequestError : Bool) (after : Stage) :
    (s.cleanUpFailedRequests cfg sendRequestError after).mRequestLock = s.mRequestLock := by
  obtain ⟨errors, next, stage, he, _⟩ :=
    cleanUpFailedRequests_shape cfg s sendRequestError after
  rw [he]

theorem lock_fail (s : State) : (s.fail cfg).mRequestLock = s.mRequestLock :=
  lock_cleanUpFailedRequests s.setErrorState false .ended

theorem lock_session (s : State) (answer : SessionAnswer) (first : NextRequest) :
    (s.session cfg answer first).mRequestLock = s.mRequestLock := by
  simp only [State.session]
  split
  · split
    · split
      · cases answer.reconfigure <;> rfl
      · rfl
    · exact lock_cleanUpFailedRequests _ false .ended
  · rfl

theorem lock_prepare (s : State) (i : ℕ) (next : NextRequest) :
    (s.prepare cfg i next).mRequestLock = s.mRequestLock := by
  simp only [State.prepare]
  split
  · split
    · simp only [prepareNew]
      split
      · exact lock_fail _
      · rfl
    · rfl
  · exact lock_fail s

theorem lock_outputs (s : State) (i : ℕ) (outcome : Outcome) :
    (s.outputs cfg i outcome).mRequestLock = s.mRequestLock := by
  simp only [State.outputs]
  split
  · cases outcome with
    | ready => rfl
    | timedOut => exact lock_cleanUpFailedRequests s true .checking
    | noSurfaceIds => exact lock_cleanUpFailedRequests s false .ended
    | notRegistered => exact lock_fail s
  · exact lock_cleanUpFailedRequests s false .ended

theorem lock_send (s : State) (ok : Bool) (n : ℕ) :
    (s.send cfg ok n).mRequestLock = s.mRequestLock := by
  obtain ⟨requests, triggers, he⟩ := send_shape cfg s ok n
  rw [he]
  split
  · rfl
  · exact lock_fail _

theorem locked_endBatch (s : State) : (s.endBatch cfg).Locked := by
  simp only [State.endBatch]
  split
  · exact locked_of_unlocked rfl
  · rename_i hn
    cases hlock : s.mRequestLock with
    | false => exact locked_of_unlocked ((lock_cleanUpFailedRequests s true .idle).trans hlock)
    | true =>
      refine fun _ ↦ .inr ?_
      simp only [cleanUpFailedRequests, hlock, if_true]
      rw [if_neg hn]

theorem Locked.take (hs : s.stage = .collecting) {input : Bool}
    (ht : s.take cfg input = some s') : s'.Locked := by
  simp only [State.take, Option.map_eq_some_iff] at ht
  obtain ⟨⟨r, queue⟩, _, rfl⟩ := ht
  simp only [takeRequest]
  split
  · exact locked_endBatch _
  · simp only [addNextRequest]
    split
    · exact fun _ ↦ .inl hs
    · exact locked_of_unlocked rfl

theorem Locked.step {l : Label} (hs : State.step cfg s l = some s') (h : s.Locked) :
    s'.Locked := by
  have hthread : ∀ {t : State}, s.stage ≠ .collecting → s.stage ≠ .blocked →
      t.mRequestLock = s.mRequestLock → t.Locked :=
    fun hc hb ht ↦ locked_of_unlocked (ht.trans (h.unlocked hc hb))
  cases l with
  | queueRequestList requests =>
    obtain ⟨_, rfl⟩ := locking_eq_some hs
    exact h
  | setRepeatingRequests requests =>
    obtain ⟨_, rfl⟩ := locking_eq_some hs
    exact h
  | clearRepeatingRequests =>
    obtain ⟨_, rfl⟩ := locking_eq_some hs
    exact h
  | clear =>
    obtain ⟨hlock, rfl⟩ := locking_eq_some hs
    obtain ⟨requests, queue, errors, he⟩ := clear_shape cfg s
    rw [he]
    exact locked_of_unlocked hlock
  | queueTrigger trigger =>
    cases hs
    exact h
  | setRotateAndCropAutoBehavior value =>
    cases hs
    exact h
  | setCameraMute muteMode =>
    cases hs
    exact h
  | configureStreams composer sessionParams constrained =>
    simp only [State.step] at hs
    split at hs
    · obtain ⟨_, rfl⟩ := locking_eq_some hs
      exact h
    · cases hs
  | destroy =>
    cases hs
    exact h
  | begin =>
    simp only [State.step] at hs
    split at hs <;> cases hs
    exact fun _ ↦ .inl rfl
  | sleep =>
    simp only [State.step] at hs
    split at hs <;> cases hs
    exact locked_of_unlocked rfl
  | wake exitPending =>
    simp only [State.step] at hs
    split at hs <;> cases hs
    simp only [State.wake]
    split
    · exact locked_endBatch _
    · exact fun _ ↦ .inl rfl
  | take input =>
    simp only [State.step] at hs
    split at hs
    · exact Locked.take ‹_› hs
    · cases hs
  | session answer =>
    simp only [State.step] at hs
    split at hs
    · rename_i hstage _
      cases hs
      exact hthread (by simp [hstage]) (by simp [hstage]) (lock_session s answer _)
    · cases hs
  | prepare =>
    simp only [State.step] at hs
    split at hs
    · rename_i hstage
      obtain ⟨next, _, rfl⟩ := Option.map_eq_some_iff.mp hs
      exact hthread (by simp [hstage]) (by simp [hstage]) (lock_prepare s _ next)
    · cases hs
  | outputs outcome =>
    simp only [State.step] at hs
    split at hs
    · rename_i hstage
      cases hs
      exact hthread (by simp [hstage]) (by simp [hstage]) (lock_outputs s _ outcome)
    · cases hs
  | send ok numRequestProcessed =>
    simp only [State.step] at hs
    split at hs
    · rename_i hstage
      split at hs <;> cases hs
      exact hthread (by simp [hstage]) (by simp [hstage]) (lock_send s ok numRequestProcessed)
    · cases hs
  | check surfaceAbandoned =>
    simp only [State.step] at hs
    split at hs <;> cases hs
    rename_i hstage
    refine hthread (by simp [hstage]) (by simp [hstage]) ?_
    simp only [checkAndStopRepeatingRequest]
    split <;> rfl

theorem locked_create (mPrevTriggers : ℤ) : (create mPrevTriggers).Locked :=
  locked_of_unlocked rfl

/-! ### Delivery -/

/-- The first request of the batch takes the triggers, their entries can be put back, and the
settings are sent. -/
structure Delivers (cfg : Config) (s : State) (i : ℕ) : Prop where
  first : i = 0
  parent : s.parent = true
  next : ∀ next ∈ s.mNextRequests.head?,
    (∀ trigger ∈ s.triggers.pending, trigger.mixes = true →
      (s.requests next.captureRequest).metadata.Restorable trigger.metadataTag) ∧
    (s.corrected cfg next.captureRequest).isSome = true

/-- No batch is given up while a trigger is in its settings, and triggers go into the settings
that are sent. -/
def Undropped (cfg : Config) (s : State) : Label → Prop
  | .prepare =>
    match s.stage with
    | .preparing i =>
      if ∀ trigger ∈ s.triggers.pending, trigger.mixes = false then s.parent = true ∨ s.Unloaded
      else s.Delivers cfg i
    | _ => True
  | .outputs outcome => outcome = .ready ∧ s.parent = true ∨ s.Unloaded
  | .send _ numRequestProcessed => numRequestProcessed ≠ 0 ∨ s.Unloaded
  | _ => True

instance (cfg : Config) (s : State) (i : ℕ) : Decidable (s.Delivers cfg i) :=
  decidable_of_iff (i = 0 ∧ s.parent = true ∧ ∀ next ∈ s.mNextRequests.head?,
    (∀ trigger ∈ s.triggers.pending, trigger.mixes = true →
      (s.requests next.captureRequest).metadata.Restorable trigger.metadataTag) ∧
    (s.corrected cfg next.captureRequest).isSome = true)
    ⟨fun ⟨hf, hp, hn⟩ ↦ ⟨hf, hp, hn⟩, fun h ↦ ⟨h.first, h.parent, h.next⟩⟩

instance (cfg : Config) (s : State) : (l : Label) → Decidable (s.Undropped cfg l)
  | .prepare =>
    match h : s.stage with
    | .preparing i => decidable_of_iff
        (if ∀ trigger ∈ s.triggers.pending, trigger.mixes = false then s.parent = true ∨ s.Unloaded
          else s.Delivers cfg i) (by unfold Undropped; rw [h])
    | .idle | .collecting | .waiting | .collected | .filling _ | .checking | .blocked | .ended =>
      isTrue (by unfold Undropped; rw [h]; trivial)
  | .outputs outcome =>
    inferInstanceAs (Decidable (outcome = .ready ∧ s.parent = true ∨ s.Unloaded))
  | .send _ numRequestProcessed =>
    inferInstanceAs (Decidable (numRequestProcessed ≠ 0 ∨ s.Unloaded))
  | .queueRequestList _ | .setRepeatingRequests _ | .clearRepeatingRequests | .clear
  | .queueTrigger _ | .setRotateAndCropAutoBehavior _ | .setCameraMute _
  | .configureStreams _ _ _ | .destroy | .begin | .sleep | .wake _ | .take _ | .session _
  | .check _ => isTrue trivial

theorem Tracked.prepare (h : s.Tracked cfg) (hknown : s.Known) {i : ℕ} {next : NextRequest}
    (hs : s.stage = .preparing i) (hn : s.mNextRequests[i]? = some next)
    (hok : s.Undropped cfg .prepare) : (s.prepare cfg i next).Tracked cfg := by
  simp only [Undropped, hs] at hok
  split at hok
  · exact h.prepare_ids hknown hs hn ‹_› hok
  · rename_i hids
    obtain ⟨rfl, hparent, hnext⟩ := hok
    have hmix : ∃ trigger ∈ s.triggers.pending, trigger.mixes = true := by
      push Not at hids
      simpa only [Bool.not_eq_false] using hids
    obtain ⟨hold, hcorrect⟩ := hnext next (by rw [List.head?_eq_getElem?, hn]; rfl)
    exact h.prepare_mixing hknown hs hn hmix hparent hold hcorrect

theorem Tracked.step {l : Label} (hs : State.step cfg s l = some s') (hknown : s.Known)
    (hlocked : s.Locked) (hok : s.Undropped cfg l) (h : s.Tracked cfg) : s'.Tracked cfg := by
  have hsame : ∀ {t : State}, s.Grows cfg t → s.queue.allocated ≤ t.queue.allocated →
      t.mNextRequests = s.mNextRequests → t.mPrevRequest = s.mPrevRequest →
      t.submissions = s.submissions → t.triggers = s.triggers → t.stage = s.stage →
      t.Tracked cfg := by
    intro t hg hle hn hp hsub ht hst
    exact h.grows hknown hg hle hn hp hsub (by rw [ht]) (by rw [ht]) (ht ▸ h.account)
      fun hu ↦ hst ▸ hu
  -- the thread moves on with nothing in the settings
  have hmove : ∀ {t : State}, underway s.stage = false → t.triggers = s.triggers →
      t.mNextRequests = s.mNextRequests → t.submissions = s.submissions →
      t.requests = s.requests → t.queue.allocated = s.queue.allocated → t.Tracked cfg := by
    intro t hst ht hn hsub hreq hq
    have hcalm := h.calm_of_stage hst
    refine tracked_of_calm ?_ ⟨ht ▸ hcalm.clean, ?_, ?_⟩
    · rw [ht, hn, hsub]
      exact h.account
    · unfold Unloaded
      rw [hn]
      exact hcalm.unloaded
    · rw [hq, hreq]
      exact hcalm.stored
  cases l with
  | queueRequestList requests =>
    obtain ⟨_, rfl⟩ := locking_eq_some hs
    exact hsame (grows_create rfl rfl) (Nat.le_add_right _ _) rfl rfl rfl rfl rfl
  | setRepeatingRequests requests =>
    obtain ⟨_, rfl⟩ := locking_eq_some hs
    exact hsame (grows_create rfl rfl) (Nat.le_add_right _ _) rfl rfl rfl rfl rfl
  | clearRepeatingRequests =>
    obtain ⟨_, rfl⟩ := locking_eq_some hs
    exact hsame (grows_of_eq rfl rfl) le_rfl rfl rfl rfl rfl rfl
  | clear =>
    obtain ⟨_, rfl⟩ := locking_eq_some hs
    have hall : (s.clear cfg).queue.allocated = s.queue.allocated := by
      rw [queue_clear, allocated_clear]
    have halike := alike_clear cfg s
    obtain ⟨requests, queue, errors, he⟩ := clear_shape cfg s
    rw [he] at hall halike ⊢
    exact h.grows hknown (grows_of_alike hall halike) hall.ge rfl rfl rfl rfl rfl h.account.clear id
  | queueTrigger trigger =>
    cases hs
    have hmaps : (s.triggers.queueTrigger trigger).mTriggerReplacedMap =
        s.triggers.mTriggerReplacedMap ∧ (s.triggers.queueTrigger trigger).mTriggerRemovedMap =
          s.triggers.mTriggerRemovedMap := s.triggers.maps_queueTrigger trigger
    exact h.grows hknown (grows_of_eq rfl rfl) le_rfl rfl rfl rfl hmaps.1 hmaps.2
      (h.account.queueTrigger trigger) id
  | setRotateAndCropAutoBehavior value =>
    cases hs
    exact hsame (grows_of_eq rfl rfl) le_rfl rfl rfl rfl rfl rfl
  | setCameraMute muteMode =>
    cases hs
    exact hsame (grows_of_eq rfl rfl) le_rfl rfl rfl rfl rfl rfl
  | configureStreams composer sessionParams constrained =>
    simp only [State.step] at hs
    split at hs
    · obtain ⟨_, rfl⟩ := locking_eq_some hs
      exact hsame (grows_of_eq rfl rfl) le_rfl rfl rfl rfl rfl rfl
    · cases hs
  | destroy =>
    cases hs
    exact hsame (grows_of_eq rfl rfl) le_rfl rfl rfl rfl rfl rfl
  | begin =>
    simp only [State.step] at hs
    split at hs <;> cases hs
    rename_i hstage
    exact hmove (by rw [hstage]; rfl) rfl rfl rfl rfl rfl
  | sleep =>
    simp only [State.step] at hs
    split at hs <;> cases hs
    rename_i hstage
    exact hmove (by rw [hstage.1]; rfl) rfl rfl rfl rfl rfl
  | wake exitPending =>
    simp only [State.step] at hs
    split at hs <;> cases hs
    rename_i hstage
    have hwoken : Tracked cfg { s with mRequestLock := true, stage := .collecting } :=
      hmove (by rw [hstage]; rfl) rfl rfl rfl rfl rfl
    simp only [State.wake]
    split
    · exact hwoken.endBatch (hwoken.calm_of_stage rfl).unloaded
    · exact hwoken
  | take input =>
    simp only [State.step] at hs
    split at hs
    · exact h.take ‹_› hs
    · cases hs
  | session answer =>
    simp only [State.step] at hs
    split at hs
    · cases hs
      exact h.session ‹_› answer _
    · cases hs
  | prepare =>
    simp only [State.step] at hs
    split at hs
    · obtain ⟨next, hn, rfl⟩ := Option.map_eq_some_iff.mp hs
      exact h.prepare hknown ‹_› hn hok
    · cases hs
  | outputs outcome =>
    simp only [State.step] at hs
    split at hs
    · cases hs
      exact h.outputs hok
    · cases hs
  | send ok numRequestProcessed =>
    simp only [State.step] at hs
    split at hs
    · rename_i hstage
      split at hs <;> cases hs
      exact h.send (hlocked.unlocked (by simp [hstage]) (by simp [hstage])) ok hok
    · cases hs
  | check surfaceAbandoned =>
    simp only [State.step] at hs
    split at hs <;> cases hs
    rename_i hstage
    have hst : underway s.stage = false := by rw [hstage]; rfl
    simp only [checkAndStopRepeatingRequest]
    split
    · exact hmove hst rfl rfl rfl rfl rfl
    · exact hmove hst rfl rfl rfl rfl rfl

theorem tracked_create (mPrevTriggers : ℤ) : (create mPrevTriggers).Tracked cfg := by
  refine tracked_of_calm ⟨fun _ he ↦ absurd he List.not_mem_nil, rfl,
    fun _ ht ↦ absurd ht List.not_mem_nil, rfl, fun _ hm ↦ absurd hm List.not_mem_nil,
    fun _ hm ↦ absurd hm List.not_mem_nil⟩ ⟨⟨rfl, rfl⟩, fun _ hm ↦ absurd hm List.not_mem_nil,
    fun r hr ↦ absurd hr (Nat.not_lt_zero r)⟩

end State

end VirtualCamera.RequestThread
