import VirtualCamera.RequestThread.Moves

namespace VirtualCamera.RequestThread

open Library.Transition

def HalEvent.submission? : HalEvent → Option Submission
  | configured => none
  | submitted submission => some submission

namespace State

variable {cfg : Config} {s s' : State}

def submissions (s : State) : List Submission := s.hal.filterMap (·.submission?)

theorem foldl_submissions (f : NextRequest → Submission) (l : List NextRequest)
    (hal : List HalEvent) :
    (l.foldl (fun hal next ↦ .submitted (f next) :: hal) hal).filterMap (·.submission?) =
      (l.map f).reverse ++ hal.filterMap (·.submission?) := by
  induction l generalizing hal with
  | nil => rfl
  | cons next l ih =>
    rw [List.foldl_cons, ih]
    simp [HalEvent.submission?]

theorem submissions_handed (s : State) (n : ℕ) (requests : ℕ → CaptureRequest)
    (triggers : Triggers) : (s.handed n requests triggers).submissions =
      ((s.mNextRequests.take n).map s.submission).reverse ++ s.submissions :=
  foldl_submissions s.submission _ _

/-! ### Known requests -/

/-- The requests that wait, and those in the hands of the thread. -/
def inUse (s : State) : List ℕ := s.queue.mRequestQueue ++ s.batch

/-- Requests are created before they are used, and a batch gets a second request only when its
first one asks for it. -/
structure Known (s : State) : Prop where
  inUse : ∀ r ∈ s.inUse, r < s.queue.allocated
  repeating : ∀ r ∈ s.queue.mRepeatingRequests, r < s.queue.allocated
  sized : s.batch = [] ∨ 1 < s.batchSize ∨ s.stage ∉ gathering ∧ s.batch.length ≤ 1

theorem Known.batch (h : s.Known) {r : ℕ} (hr : r ∈ s.batch) : r < s.queue.allocated :=
  h.inUse r (List.mem_append_right _ hr)

theorem Known.next (h : s.Known) {next : NextRequest} (hn : next ∈ s.mNextRequests) :
    next.captureRequest < s.queue.allocated :=
  h.batch (List.mem_map_of_mem hn)

theorem batchSize_eq (s : State) :
    s.batchSize = (s.batch.head?.map fun r ↦ (s.requests r).mBatchSize).getD 0 := by
  unfold batchSize State.batch
  split
  · rename_i hn
    rw [hn]
    rfl
  · rename_i hn
    rw [hn]
    rfl

theorem batchSize_of_head (hb : s'.batch.head? = s.batch.head?)
    (hsize : ∀ r ∈ s.batch, (s'.requests r).constant = (s.requests r).constant) :
    s'.batchSize = s.batchSize := by
  rw [batchSize_eq, batchSize_eq, hb]
  cases hall : s.batch with
  | nil => rfl
  | cons r rest => exact congrArg Prod.fst (hsize r (by rw [hall]; exact List.mem_cons_self))

/-- A batch that is not given up keeps its size. -/
theorem Known.sized_of_holds (h : s.Known) (hb : s.Holds s')
    (hsize : ∀ r < s.queue.allocated, (s'.requests r).constant = (s.requests r).constant) :
    s'.batch = [] ∨ 1 < s'.batchSize ∨ s'.stage ∉ gathering ∧ s'.batch.length ≤ 1 := by
  obtain ⟨he, hs⟩ | he := hb
  · rw [batchSize_of_head (congrArg _ he) fun r hr ↦ hsize r (h.batch hr), he]
    exact h.sized.imp_right fun hc ↦ hc.imp_right fun ⟨hout, hl⟩ ↦ ⟨fun hin ↦ hout (hs hin), hl⟩
  · exact .inl he

theorem Known.sized_of_gains (h : s.Known) {r : ℕ} (hb : s.Gains s' r)
    (hsize : ∀ r < s.queue.allocated, (s'.requests r).constant = (s.requests r).constant) :
    s'.batch = [] ∨ 1 < s'.batchSize ∨ s'.stage ∉ gathering ∧ s'.batch.length ≤ 1 := by
  obtain ⟨he, hs, hmore⟩ := hb
  by_cases hin : s'.stage ∈ gathering
  · exact .inr (.inl (hmore hin))
  by_cases hnil : s.batch = []
  · refine .inr (.inr ⟨hin, ?_⟩)
    rw [he, hnil]
    exact le_rfl
  · obtain hc | hbig | ⟨hout, _⟩ := h.sized
    · exact absurd hc hnil
    · refine .inr (.inl (hbig.trans_eq ?_))
      refine (batchSize_of_head ?_ fun r hr ↦ hsize r (h.batch hr)).symm
      rw [he, List.head?_append_of_ne_nil _ hnil]
    · exact absurd hs hout

/-- Where a batch has a second request, its first one asks for it. -/
theorem Known.batchSize_later (h : s.Known) {i : ℕ} {next : NextRequest}
    (hn : s.mNextRequests[i + 1]? = some next) : 1 < s.batchSize := by
  have hlen : i + 1 < s.batch.length := by
    unfold State.batch
    rw [List.length_map]
    exact (List.getElem?_eq_some_iff.mp hn).1
  obtain hc | hbig | ⟨_, hl⟩ := h.sized
  · rw [hc] at hlen
    exact absurd hlen (Nat.not_lt_zero _)
  · exact hbig
  · omega

theorem Known.newRequest_later (h : s.Known) {i : ℕ} {next : NextRequest}
    (hn : s.mNextRequests[i + 1]? = some next) (r : ℕ) : s.newRequest cfg (i + 1) r = false := by
  simp only [newRequest, h.batchSize_later hn, Nat.succ_pos, decide_true, Bool.and_true,
    Bool.not_true, Bool.and_false]

theorem allocated_foldl_give (l : List ℕ) (q : Queue) :
    (l.foldl Queue.give q).allocated = q.allocated := by
  induction l generalizing q with
  | nil => rfl
  | cons r l ih =>
    rw [List.foldl_cons, ih]
    rfl

theorem allocated_clear (q : Queue) (listener : Bool) :
    (q.clear listener).allocated = q.allocated := by
  cases listener with
  | true => exact allocated_foldl_give q.mRequestQueue q
  | false => rfl

/-- What is selected was known before. -/
theorem select_shape {q queue : Queue} {r : ℕ} (hs : q.select = some (r, queue)) :
    queue.handed = q.handed ∧ queue.allocated = q.allocated ∧
      queue.mRepeatingRequests = q.mRepeatingRequests ∧
      (q.mRequestQueue = r :: queue.mRequestQueue ∨
        q.mRequestQueue = [] ∧ q.mRepeatingRequests = r :: queue.mRequestQueue) := by
  unfold Queue.select at hs
  split at hs
  · cases hs
    exact ⟨rfl, rfl, rfl, .inl ‹_›⟩
  · cases hs
    exact ⟨rfl, rfl, rfl, .inr ⟨‹_›, ‹_›⟩⟩
  · cases hs

theorem Holds.sublist (h : s.Holds s') : s'.batch.Sublist s.batch := by
  obtain ⟨he, _⟩ | he := h
  · rw [he]
  · rw [he]
    exact List.nil_sublist _

/-- The queue loses the request it selects, and the batch may get it. -/
theorem inUse_take {r : ℕ} {queue : Queue} (hq : s'.queue = queue.give r)
    (hb : s.Holds s' ∨ s.Gains s' r) :
    ∃ l, s'.inUse.Perm l ∧ l.Sublist (r :: (queue.mRequestQueue ++ s.batch)) := by
  unfold inUse
  rw [hq]
  obtain hb | ⟨hb, _⟩ := hb
  · exact ⟨_, .refl _, (hb.sublist.append_left _).cons r⟩
  · refine ⟨_, ?_, List.Sublist.refl _⟩
    rw [hb, ← List.append_assoc]
    exact List.perm_append_singleton r _

theorem Known.selected (h : s.Known) {r : ℕ} {queue : Queue}
    (hs : s.queue.select = some (r, queue)) :
    ∀ r' ∈ r :: (queue.mRequestQueue ++ s.batch), r' < s.queue.allocated := by
  intro r' hr'
  rw [← List.cons_append] at hr'
  obtain ⟨_, _, _, hq | ⟨_, hq⟩⟩ := select_shape hs
  · exact h.inUse r' (by unfold State.inUse; rwa [hq])
  · obtain hr' | hr' := List.mem_append.mp hr'
    · exact h.repeating r' (by rwa [hq])
    · exact h.batch hr'

theorem Known.step {l : Label} (hs : State.step cfg s l = some s') (h : s.Known) :
    s'.Known := by
  have hconst := fun r (hr : r < s.queue.allocated) ↦ constant_step hs hr
  cases moves_step hs with
  | kept _ hq hb =>
    refine ⟨?_, hq ▸ h.repeating, h.sized_of_holds hb hconst⟩
    unfold State.inUse
    rw [hq]
    exact fun r hr ↦ h.inUse r ((hb.sublist.append_left _).subset hr)
  | queueRequestList requests _ hq hb =>
    refine ⟨fun r hr ↦ ?_, fun r hr ↦ ?_, h.sized_of_holds hb hconst⟩
    · unfold State.inUse at hr
      rw [hq] at hr ⊢
      obtain hr | hr := List.mem_append.mp hr
      · obtain hr | hr := List.mem_append.mp hr
        · exact Nat.lt_add_right _ (h.inUse r (List.mem_append_left _ hr))
        · exact (Queue.fresh_ge hr).2
      · exact Nat.lt_add_right _ (h.batch (hb.sublist.subset hr))
    · rw [hq] at hr ⊢
      exact Nat.lt_add_right _ (h.repeating r hr)
  | setRepeatingRequests requests _ hq hb =>
    refine ⟨fun r hr ↦ ?_, fun r hr ↦ ?_, h.sized_of_holds hb hconst⟩
    · unfold State.inUse at hr
      rw [hq] at hr ⊢
      exact Nat.lt_add_right _ (h.inUse r ((hb.sublist.append_left _).subset hr))
    · rw [hq] at hr ⊢
      exact (Queue.fresh_ge hr).2
  | clearRepeatingRequests _ _ hq hb =>
    refine ⟨fun r hr ↦ ?_, fun r hr ↦ ?_, h.sized_of_holds hb hconst⟩
    · unfold State.inUse at hr
      rw [hq] at hr ⊢
      exact h.inUse r ((hb.sublist.append_left _).subset hr)
    · rw [hq] at hr
      exact absurd hr List.not_mem_nil
  | clear _ hq hb =>
    refine ⟨fun r hr ↦ ?_, fun r hr ↦ ?_, h.sized_of_holds hb hconst⟩
    · unfold State.inUse at hr
      rw [hq] at hr ⊢
      rw [allocated_clear]
      exact h.batch (hb.sublist.subset hr)
    · rw [hq] at hr
      exact absurd hr List.not_mem_nil
  | take r queue input hl hsel hq hb =>
    obtain ⟨_, hall, hrep, _⟩ := select_shape hsel
    obtain ⟨l, hperm, hsub⟩ := inUse_take hq hb
    refine ⟨fun r' hr' ↦ ?_, fun r' hr' ↦ ?_, ?_⟩
    · rw [hq]
      exact (h.selected hsel r' (hsub.subset (hperm.mem_iff.mp hr'))).trans_eq hall.symm
    · rw [hq] at hr' ⊢
      exact (h.repeating r' (hrep ▸ hr')).trans_eq hall.symm
    · exact hb.elim (fun hb ↦ h.sized_of_holds hb hconst) fun hb ↦ h.sized_of_gains hb hconst

theorem known_create (mPrevTriggers : ℤ) : (create mPrevTriggers).Known :=
  ⟨fun _ hr ↦ absurd hr List.not_mem_nil, fun _ hr ↦ absurd hr List.not_mem_nil, .inl rfl⟩

/-! ### Distinct requests -/

/-- No request is in use twice. -/
structure Objects (s : State) : Prop extends s.Known where
  distinct : s.inUse.Nodup
  repeatingDistinct : s.queue.mRepeatingRequests.Nodup

/-- The next request of a batch is not one that the batch has already. -/
def Fills (s : State) : Prop :=
  s.mNextRequests = [] ∨ s.queue.mRequestQueue ≠ [] ∨
    ∀ r ∈ s.queue.mRepeatingRequests, r ∉ s.batch

instance (s : State) : Decidable s.Fills := by
  unfold Fills
  infer_instance

/-- What is selected leaves the queue, or the repeating list when the queue is empty. -/
structure Selected (s : State) (r : ℕ) (queue : Queue) : Prop where
  handed : queue.handed = s.queue.handed
  allocated : queue.allocated = s.queue.allocated
  distinct : (r :: (queue.mRequestQueue ++ s.batch)).Nodup

theorem Objects.selected (h : s.Objects) {r : ℕ} {queue : Queue}
    (hs : s.queue.select = some (r, queue)) (hfill : s.Fills) : s.Selected r queue := by
  have hdist := h.distinct
  unfold State.inUse at hdist
  obtain ⟨hhanded, hall, _, hq | ⟨hempty, hrep⟩⟩ := select_shape hs
  · rw [hq] at hdist
    exact ⟨hhanded, hall, hdist⟩
  · -- a new cycle of the repeating list, of which nothing is in the batch
    have hout : ∀ r ∈ s.queue.mRepeatingRequests, r ∉ s.batch := by
      obtain hn | hne | hout := hfill
      · unfold State.batch
        rw [hn]
        exact fun _ _ ↦ List.not_mem_nil
      · exact absurd hempty hne
      · exact hout
    have hrdist := h.repeatingDistinct
    rw [hempty, List.nil_append] at hdist
    rw [hrep] at hrdist hout
    refine ⟨hhanded, hall, ?_⟩
    rw [← List.cons_append]
    exact hrdist.append hdist fun r' hr' hc ↦ hout r' hr' hc

theorem Selected.ne_of_batch {r : ℕ} {queue : Queue} (h : s.Selected r queue)
    {next : NextRequest} (hn : next ∈ s.mNextRequests) : next.captureRequest ≠ r := by
  intro he
  refine (List.nodup_cons.mp h.distinct).1 (List.mem_append_right _ ?_)
  exact he ▸ List.mem_map_of_mem hn

theorem Objects.step {l : Label} (hs : State.step cfg s l = some s')
    (hfill : ∀ input, l = .take input → s.Fills) (h : s.Objects) : s'.Objects := by
  refine ⟨h.toKnown.step hs, ?_, ?_⟩
  · have hdist := h.distinct
    unfold State.inUse at hdist ⊢
    cases moves_step hs with
    | kept _ hq hb =>
      rw [hq]
      exact (hb.sublist.append_left _).nodup hdist
    | queueRequestList requests _ hq hb =>
      rw [hq]
      refine (List.Sublist.append_left hb.sublist _).nodup ?_
      have hperm : (s.queue.mRequestQueue ++ s.queue.fresh requests.length ++ s.batch).Perm
          (s.queue.mRequestQueue ++ s.batch ++ s.queue.fresh requests.length) := by
        rw [List.append_assoc, List.append_assoc]
        exact List.Perm.append_left _ List.perm_append_comm
      refine hperm.nodup_iff.mpr (List.Nodup.append hdist List.nodup_range' ?_)
      intro r hr hf
      have := (Queue.fresh_ge hf).1
      have := h.inUse r hr
      omega
    | setRepeatingRequests requests _ hq hb =>
      rw [hq]
      exact (hb.sublist.append_left _).nodup hdist
    | clearRepeatingRequests _ _ hq hb =>
      rw [hq]
      exact (hb.sublist.append_left _).nodup hdist
    | clear _ hq hb =>
      rw [hq]
      exact (hb.sublist.trans (List.sublist_append_right _ _)).nodup hdist
    | take r queue input hl hsel hq hb =>
      obtain ⟨l, hperm, hsub⟩ := inUse_take hq hb
      exact hperm.nodup_iff.mpr (hsub.nodup (h.selected hsel (hfill input hl)).distinct)
  · cases moves_step hs with
    | kept _ hq _ => exact hq ▸ h.repeatingDistinct
    | queueRequestList requests _ hq _ => exact hq ▸ h.repeatingDistinct
    | setRepeatingRequests requests _ hq _ =>
      rw [hq]
      exact List.nodup_range'
    | clearRepeatingRequests _ _ hq _ =>
      rw [hq]
      exact List.nodup_nil
    | clear _ hq _ =>
      rw [hq]
      exact List.nodup_nil
    | take r queue input hl hsel hq _ =>
      obtain ⟨_, _, hrep, _⟩ := select_shape hsel
      rw [hq]
      exact hrep.symm ▸ h.repeatingDistinct

theorem objects_create (mPrevTriggers : ℤ) : (create mPrevTriggers).Objects :=
  ⟨known_create mPrevTriggers, List.nodup_nil, List.nodup_nil⟩

end State

end VirtualCamera.RequestThread
