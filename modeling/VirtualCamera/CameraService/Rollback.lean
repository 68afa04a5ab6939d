import VirtualCamera.CameraService.Lending

namespace VirtualCamera.CameraService.StreamBuffers

variable {c : RequestBufferStates} {s s' : State} {bufReqs : List BufferRequest}

/-! ### The request of one stream -/

theorem requestOne_accounted (c : RequestBufferStates) (s : State) (bufReq : BufferRequest) :
    Accounted s (requestOne c s bufReq).2 (requestOne c s bufReq).1.buffers ∧
      ((requestOne c s bufReq).1.buffers = [] ↔ ¬ Served c s bufReq) := by
  have hnothing : Accounted s s [] := accounted_withNext s s.records.mNextBufferId
  unfold requestOne
  dsimp only
  by_cases habandoned : c.isAbandoned bufReq.streamId = true
  · rw [if_pos habandoned]
    refine ⟨hnothing, fun _ h ↦ ?_, fun _ ↦ rfl⟩
    exact absurd (habandoned.symm.trans h.1) (by decide)
  rw [if_neg habandoned]
  by_cases hmax : (s.outstanding bufReq.streamId).card + bufReq.numBuffersRequested >
      c.max_buffers bufReq.streamId
  · rw [if_pos hmax]
    exact ⟨hnothing, fun _ h ↦ absurd h.2.2.1 (not_le.mpr hmax), fun _ ↦ rfl⟩
  rw [if_neg hmax]
  have hloop := takeLoop_none_iff (c := c) (σ := bufReq.streamId) bufReq.numBuffersRequested 0 {} s
  simp only [Nat.zero_add] at hloop
  obtain ⟨hundo, hlent⟩ := takeLoop_lent (c := c) bufReq.numBuffersRequested 0
    (Lent.start s bufReq.streamId)
  cases htake : takeLoop c bufReq.streamId bufReq.numBuffersRequested 0 {} s with
  | mk error rest =>
    obtain ⟨t, s₁⟩ := rest
    rw [htake] at hloop hundo hlent
    cases error with
    | some error =>
      dsimp only
      rw [hundo.rollback]
      refine ⟨accounted_withNext s _, fun _ h ↦ ?_, fun _ ↦ rfl⟩
      cases hloop.mpr h.2.2.2
    | none =>
      obtain ⟨hlent, hlength⟩ := hlent rfl
      have hnil : t.pushed = [] ↔ ¬ 0 < bufReq.numBuffersRequested := by
        dsimp only at hlength
        rw [← List.length_eq_zero_iff, hlength, List.length_nil]
        omega
      have hserved : Served c s bufReq ↔ 0 < bufReq.numBuffersRequested := by
        refine ⟨fun h ↦ h.2.1, fun hpos ↦ ?_⟩
        exact ⟨Bool.not_eq_true _ ▸ habandoned, hpos, not_lt.mp hmax, hloop.mp rfl⟩
      refine ⟨hlent.accounted, ?_⟩
      rw [hserved]
      exact hnil

/-! ### The loop over the requests -/

/-- The state in which a request is met that stands behind others. -/
def after (c : RequestBufferStates) (s : State) (bufReqs : List BufferRequest) : State :=
  bufReqs.foldl (fun s bufReq ↦ (requestOne c s bufReq).2) s

def Known (c : RequestBufferStates) (bufReqs : List BufferRequest) : Prop :=
  ∀ bufReq ∈ bufReqs, bufReq.streamId ∈ c.outputStreams

/-- None of the requests in front of the first unknown stream is served. -/
def NoneServed (c : RequestBufferStates) (s : State) (bufReqs : List BufferRequest) : Prop :=
  ∀ pre bufReq post, bufReqs = pre ++ bufReq :: post → Known c (pre ++ [bufReq]) →
    ¬ Served c (after c s pre) bufReq

/-- A request that is served has only requests for known streams behind it. -/
def Clean (c : RequestBufferStates) (s : State) (bufReqs : List BufferRequest) : Prop :=
  ∀ pre bufReq post, bufReqs = pre ++ bufReq :: post → Known c (pre ++ [bufReq]) →
    Served c (after c s pre) bufReq → Known c post

theorem noneServed_cons {bufReq : BufferRequest} : NoneServed c s (bufReq :: bufReqs) ↔
    (bufReq.streamId ∈ c.outputStreams →
      ¬ Served c s bufReq ∧ NoneServed c (requestOne c s bufReq).2 bufReqs) := by
  constructor
  · intro h hknown
    refine ⟨h [] bufReq bufReqs rfl ?_, fun pre q post heq hpre ↦ ?_⟩
    · intro r hr
      rw [List.mem_singleton.mp hr]
      exact hknown
    · refine h (bufReq :: pre) q post (by rw [heq, List.cons_append]) fun r hr ↦ ?_
      obtain rfl | hr := List.mem_cons.mp hr
      · exact hknown
      · exact hpre r hr
  · intro h pre q post heq hknown
    cases pre with
    | nil =>
      obtain ⟨rfl, rfl⟩ := List.cons.inj heq
      exact (h (hknown _ List.mem_cons_self)).1
    | cons p pre =>
      obtain ⟨rfl, rfl⟩ := List.cons.inj heq
      refine (h (hknown _ List.mem_cons_self)).2 pre q post rfl fun r hr ↦ ?_
      exact hknown r (List.mem_cons_of_mem _ hr)

theorem clean_of_known (h : Known c bufReqs) : Clean c s bufReqs := by
  intro pre bufReq post heq _ _ r hr
  exact h r (by rw [heq]; exact List.mem_append_right _ (List.mem_cons_of_mem _ hr))

theorem clean_iff (h : ¬ Known c bufReqs) : Clean c s bufReqs ↔ NoneServed c s bufReqs := by
  constructor
  · intro hclean pre bufReq post heq hknown hserved
    have hpost := hclean pre bufReq post heq hknown hserved
    refine h fun r hr ↦ ?_
    rw [heq, List.append_cons] at hr
    obtain hr | hr := List.mem_append.mp hr
    · exact hknown r hr
    · exact hpost r hr
  · intro hnone pre bufReq post heq hknown hserved
    exact absurd hserved (hnone pre bufReq post heq hknown)

/-- The loop lends what is delivered, and stops at a stream that is not found. -/
theorem requestLoop_accounted (c : RequestBufferStates) (bufRets : List StreamBufferRet)
    (s : State) (bufReqs : List BufferRequest) : ∃ bufRets' s',
      Accounted s s' (delivered bufRets') ∧ (delivered bufRets' = [] ↔ NoneServed c s bufReqs) ∧
      (Known c bufReqs ∧ requestLoop c bufRets s bufReqs = (some (bufRets ++ bufRets'), s') ∨
        ¬ Known c bufReqs ∧ requestLoop c bufRets s bufReqs = (none, s')) := by
  have hnothing := accounted_withNext s s.records.mNextBufferId
  induction bufReqs generalizing s bufRets with
  | nil =>
    refine ⟨[], s, hnothing, ⟨fun _ pre q post heq ↦ ?_, fun _ ↦ rfl⟩, .inl ⟨?_, ?_⟩⟩
    · exact absurd heq.symm (List.append_ne_nil_of_right_ne_nil _ (List.cons_ne_nil _ _))
    · exact fun _ hr ↦ absurd hr List.not_mem_nil
    · rw [List.append_nil]
      rfl
  | cons bufReq bufReqs ih =>
    rw [noneServed_cons]
    by_cases hknown : bufReq.streamId ∈ c.outputStreams
    · obtain ⟨hone, hserved⟩ := requestOne_accounted c s bufReq
      obtain ⟨bufRets', s', hrest, hnone, hloop⟩ := ih
        (bufRets ++ [(requestOne c s bufReq).1]) (requestOne c s bufReq).2
        (accounted_withNext _ (requestOne c s bufReq).2.records.mNextBufferId)
      have hdelivered : delivered ((requestOne c s bufReq).1 :: bufRets') =
          (requestOne c s bufReq).1.buffers ++ delivered bufRets' := List.flatMap_cons
      have hcons : Known c (bufReq :: bufReqs) ↔ Known c bufReqs := by
        unfold Known
        rw [List.forall_mem_cons]
        exact and_iff_right hknown
      refine ⟨(requestOne c s bufReq).1 :: bufRets', s', ?_, ?_, ?_⟩
      · rw [hdelivered]
        exact hone.trans hrest
      · rw [hdelivered, List.append_eq_nil_iff, hserved, hnone]
        exact ⟨fun h _ ↦ h, fun h ↦ h hknown⟩
      · rw [hcons, requestLoop, if_neg (not_not.mpr hknown)]
        dsimp only
        rwa [List.append_assoc] at hloop
    · refine ⟨[], s, hnothing, ⟨fun _ h ↦ absurd h hknown, fun _ ↦ rfl⟩, .inr ⟨fun h ↦ ?_, ?_⟩⟩
      · exact hknown (h bufReq List.mem_cons_self)
      · rw [requestLoop, if_pos hknown]

/-! ### The whole call -/

/-- Each buffer that was taken is delivered, or is back in its stream and in no record that was not
there before; the HAL is told each id with its handle first; and a request of buffers that has
started has ended once. -/
structure Kept (s s' : State) (answer : Answer) : Prop where
  buffers : ∀ σ, s'.outstanding σ = s.outstanding σ + ofStream (delivered answer.bufRets) σ
  inflight : ∀ l ∈ delivered answer.bufRets,
    s'.records.mRequestedBufferMap l.hBuf.bufferId = some (l.hBuf.streamId, l.buffer)
  others : ∀ id, id ∉ (delivered answer.bufRets).map (·.hBuf.bufferId) →
    s'.records.mRequestedBufferMap id = s.records.mRequestedBufferMap id
  cached : ∀ l ∈ delivered answer.bufRets,
    s'.records.mBufferIdMaps l.hBuf.streamId l.buffer = some l.hBuf.bufferId
  uncached : ∀ σ h, (∀ l ∈ delivered answer.bufRets, (l.hBuf.streamId, l.buffer) ≠ (σ, h)) →
    s'.records.mBufferIdMaps σ h = s.records.mBufferIdMaps σ h
  seen : ∀ seen : Set ℕ, (∀ σ h id, s.records.mBufferIdMaps σ h = some id → id ∈ seen) →
    (∀ l ∈ delivered answer.bufRets, l.hBuf.buffer = none → l.hBuf.bufferId ∈ seen) ∧
    ∀ σ h id, s'.records.mBufferIdMaps σ h = some id → id ∈ seen ∨
      ∃ l ∈ delivered answer.bufRets, l.hBuf.bufferId = id ∧ l.hBuf.buffer.isSome
  ended : ∃ n, s'.started = s.started + n ∧ s'.ended = s.ended + n

theorem Accounted.seen {loans : List Loan} (h : Accounted s s' loans) {seen : Set ℕ}
    (hseen : ∀ σ b id, s.records.mBufferIdMaps σ b = some id → id ∈ seen) :
    (∀ l ∈ loans, l.hBuf.buffer = none → l.hBuf.bufferId ∈ seen) ∧
      ∀ σ b id, s'.records.mBufferIdMaps σ b = some id → id ∈ seen ∨
        ∃ l ∈ loans, l.hBuf.bufferId = id ∧ l.hBuf.buffer.isSome := by
  have hknown : ∀ l ∈ loans, l.hBuf.buffer = none → l.hBuf.bufferId ∈ seen := by
    intro l hl hnone
    obtain ⟨hsent, hid⟩ := h.sent l hl
    cases hcached : s.records.mBufferIdMaps l.hBuf.streamId l.buffer with
    | none =>
      rw [hcached, if_pos rfl, hnone] at hsent
      cases hsent
    | some id =>
      rw [← hid id hcached]
      exact hseen _ _ _ hcached
  refine ⟨hknown, fun σ b id hid ↦ ?_⟩
  by_cases hlent : ∃ l ∈ loans, (l.hBuf.streamId, l.buffer) = (σ, b)
  · obtain ⟨l, hl, heq⟩ := hlent
    obtain ⟨rfl, rfl⟩ := Prod.mk.inj heq
    rw [h.cached l hl] at hid
    cases hid
    cases hbuf : l.hBuf.buffer with
    | none => exact .inl (hknown l hl hbuf)
    | some handle => exact .inr ⟨l, hl, rfl, by rw [hbuf, Option.isSome_some]⟩
  · rw [h.uncached σ b fun l hl heq ↦ hlent ⟨l, hl, heq⟩] at hid
    exact .inl (hseen σ b id hid)

theorem Accounted.kept {answer : Answer}
    (h : Accounted s.startRequestBuffer s' (delivered answer.bufRets)) :
    Kept s s'.endRequestBuffer answer where
  buffers := h.outstanding
  inflight := h.inflight
  others := h.others
  cached := h.cached
  uncached := h.uncached
  seen _ hseen := h.seen hseen
  ended := ⟨1, h.frame.2.1, congrArg (· + 1) h.frame.2.2⟩

theorem kept_refl (s : State) (status : BufferRequestStatus) : Kept s s ⟨status, []⟩ := by
  have h := accounted_withNext s s.records.mNextBufferId
  exact ⟨h.outstanding, h.inflight, h.others, h.cached, h.uncached, fun _ ↦ h.seen, 0, rfl, rfl⟩

/-- Buffers that were lent and are not delivered are lost. -/
theorem Accounted.not_kept {loans : List Loan} (h : Accounted s.startRequestBuffer s' loans)
    (hloans : loans ≠ []) (status : BufferRequestStatus) :
    ¬ Kept s s'.endRequestBuffer ⟨status, []⟩ := by
  intro hkept
  obtain ⟨l, rest, rfl⟩ := List.exists_cons_of_ne_nil hloans
  have hlost := hkept.buffers l.hBuf.streamId
  have hlent := h.outstanding l.hBuf.streamId
  have hsame : s'.endRequestBuffer.outstanding = s'.outstanding := rfl
  have hbefore : s.startRequestBuffer.outstanding = s.outstanding := rfl
  rw [hsame, hlent, hbefore] at hlost
  have hmem : l.buffer ∈ ((l :: rest).filter fun r ↦ r.hBuf.streamId = l.hBuf.streamId).map
      (·.buffer) :=
    List.mem_map_of_mem (List.mem_filter.mpr ⟨List.mem_cons_self, decide_eq_true rfl⟩)
  have hpos := List.length_pos_of_mem hmem
  have hcard := congrArg Multiset.card hlost
  rw [Multiset.card_add, Multiset.card_add] at hcard
  have hlength : (ofStream (l :: rest) l.hBuf.streamId).card = (((l :: rest).filter
      fun r ↦ r.hBuf.streamId = l.hBuf.streamId).map (·.buffer)).length := rfl
  have hzero : (ofStream (delivered []) l.hBuf.streamId).card = 0 := rfl
  dsimp only at hcard
  omega

/-- The buffers are kept exactly when no unknown stream stands behind a request that is served. -/
theorem kept_iff (c : RequestBufferStates) (s : State) (bufReqs : List BufferRequest) :
    Kept s (requestStreamBuffers c s bufReqs).2 (requestStreamBuffers c s bufReqs).1 ↔
      (checks c bufReqs = none → Clean c s.startRequestBuffer bufReqs) := by
  unfold requestStreamBuffers
  cases hchecks : checks c bufReqs with
  | some status => exact ⟨fun _ h ↦ (by cases h), fun _ ↦ kept_refl s status⟩
  | none =>
    obtain ⟨bufRets, s₁, hlent, hnone, ⟨hknown, hloop⟩ | ⟨hknown, hloop⟩⟩ :=
      requestLoop_accounted c [] s.startRequestBuffer bufReqs
    · dsimp only
      rw [hloop, List.nil_append]
      exact ⟨fun _ _ ↦ clean_of_known hknown, fun _ ↦ hlent.kept⟩
    · dsimp only
      rw [hloop, forall_prop_of_true rfl, clean_iff hknown, ← hnone]
      constructor
      · intro hkept
        by_contra hne
        exact hlent.not_kept hne _ hkept
      · intro hnil
        rw [hnil] at hlent
        refine Accounted.kept ?_
        exact hlent

/-- One buffer for a stream that is found, and one for a stream that is not. -/
theorem not_kept_unknown : ∃ (c : RequestBufferStates) (s : State),
    ¬ Kept s (requestStreamBuffers c s [⟨0, 1⟩, ⟨7, 1⟩]).2
      (requestStreamBuffers c s [⟨0, 1⟩, ⟨7, 1⟩]).1 := by
  refine ⟨⟨true, fun _ ↦ true, [0, 1], fun _ ↦ false, fun _ ↦ 4, true, fun _ _ ↦ .ok ⟨100, -1⟩⟩,
    ⟨fun _ ↦ 0, ⟨fun _ _ ↦ none, 1, fun _ ↦ none⟩, false, 0, 0⟩, fun h ↦ ?_⟩
  exact absurd (h.buffers 0) (by decide)

end VirtualCamera.CameraService.StreamBuffers
