import VirtualCamera.CameraService.StreamBuffers

namespace VirtualCamera.CameraService.StreamBuffers

namespace BufferRecords

variable {r : BufferRecords} {buf : ℕ} {streamId : ℤ}

/-- An id that is known is kept; a new one changes the map at its handle. -/
theorem getBufferId_cases (r : BufferRecords) (buf : ℕ) (streamId : ℤ) :
    (∃ id, r.mBufferIdMaps streamId buf = some id ∧
        r.getBufferId buf streamId = ((false, id), r)) ∨
      r.mBufferIdMaps streamId buf = none ∧ ∃ r', r.getBufferId buf streamId =
          ((true, r.mNextBufferId), r') ∧ r'.mRequestedBufferMap = r.mRequestedBufferMap ∧
        r'.mBufferIdMaps streamId buf = some r.mNextBufferId ∧
        ∀ σ h, (σ, h) ≠ (streamId, buf) → r'.mBufferIdMaps σ h = r.mBufferIdMaps σ h := by
  unfold getBufferId
  cases hcached : r.mBufferIdMaps streamId buf with
  | some id => exact .inl ⟨id, rfl, rfl⟩
  | none =>
    refine .inr ⟨rfl, _, rfl, rfl, ?_, fun σ h hne ↦ ?_⟩
    · simp only [Function.update_self]
    · by_cases hσ : σ = streamId
      · subst hσ
        have hh : h ≠ buf := fun hh ↦ hne (by rw [hh])
        simp only [Function.update_self, Function.update_of_ne hh]
      · simp only [Function.update_of_ne hσ]

/-- The ids of handles that a stream hands out one after the other. -/
def ids (r : BufferRecords) (streamId : ℤ) : List ℕ → List ℕ
  | [] => []
  | buf :: bufs =>
    (r.getBufferId buf streamId).1.2 :: ids (r.getBufferId buf streamId).2 streamId bufs

def Registers (r : BufferRecords) (streamId : ℤ) (bufs : List ℕ) : Prop :=
  (r.ids streamId bufs).Nodup ∧ ∀ id ∈ r.ids streamId bufs, r.mRequestedBufferMap id = none

theorem ids_congr {r r' : BufferRecords} (hmaps : r.mBufferIdMaps = r'.mBufferIdMaps)
    (hnext : r.mNextBufferId = r'.mNextBufferId) (streamId : ℤ) (bufs : List ℕ) :
    r.ids streamId bufs = r'.ids streamId bufs := by
  induction bufs generalizing r r' with
  | nil => rfl
  | cons buf bufs ih =>
    have hget : (r.getBufferId buf streamId).1 = (r'.getBufferId buf streamId).1 ∧
        (r.getBufferId buf streamId).2.mBufferIdMaps =
          (r'.getBufferId buf streamId).2.mBufferIdMaps ∧
        (r.getBufferId buf streamId).2.mNextBufferId =
          (r'.getBufferId buf streamId).2.mNextBufferId := by
      unfold getBufferId
      rw [hmaps, hnext]
      split
      · exact ⟨rfl, hmaps, hnext⟩
      · exact ⟨rfl, rfl, rfl⟩
    simp only [ids]
    rw [hget.1, ih hget.2.1 hget.2.2]

theorem ids_requested (r : BufferRecords) (m : ℕ → Option (ℤ × ℕ)) (streamId : ℤ)
    (bufs : List ℕ) : ids { r with mRequestedBufferMap := m } streamId bufs =
      r.ids streamId bufs := by
  apply ids_congr <;> rfl

theorem getBufferId_requested (r : BufferRecords) (buf : ℕ) (streamId : ℤ) :
    (r.getBufferId buf streamId).2.mRequestedBufferMap = r.mRequestedBufferMap := by
  obtain ⟨id, -, heq⟩ | ⟨-, r', heq, hreq, -⟩ := r.getBufferId_cases buf streamId
  · rw [heq]
  · rw [heq]
    exact hreq

end BufferRecords

/-- A request that can be met for a stream that is known, of one buffer at least. -/
def Served (c : RequestBufferStates) (s : State) (bufReq : BufferRequest) : Prop :=
  c.isAbandoned bufReq.streamId = false ∧ 0 < bufReq.numBuffersRequested ∧
    (s.outstanding bufReq.streamId).card + bufReq.numBuffersRequested ≤
      c.max_buffers bufReq.streamId ∧
    ∃ sbs : List CameraStreamBuffer, sbs.length = bufReq.numBuffersRequested ∧
      (∀ b sb, sbs[b]? = some sb → c.getBuffer bufReq.streamId b = .ok sb) ∧
      s.records.Registers bufReq.streamId (sbs.map (·.buffer))

variable {c : RequestBufferStates} {s₀ s s' : State} {σ : ℤ} {t : Taking}

/-! ### The loop over the buffers -/

theorem registers_cons (r : BufferRecords) (σ : ℤ) (buf : ℕ) (bufs : List ℕ) :
    r.Registers σ (buf :: bufs) ↔
      ∃ r', (r.getBufferId buf σ).2.pushInflightRequestBuffer (r.getBufferId buf σ).1.2 buf σ =
          some r' ∧ r'.Registers σ bufs := by
  have hreq := r.getBufferId_requested buf σ
  unfold BufferRecords.pushInflightRequestBuffer BufferRecords.Registers
  simp only [BufferRecords.ids, List.nodup_cons, List.mem_cons, forall_eq_or_imp]
  rw [hreq]
  generalize (r.getBufferId buf σ).1.2 = id
  cases hid : r.mRequestedBufferMap id with
  | some record => simp
  | none =>
    simp only [Option.isSome_none, Bool.false_eq_true, if_false, Option.some_inj, true_and,
      exists_eq_left']
    rw [BufferRecords.ids_requested _ (Function.update r.mRequestedBufferMap id (some (σ, buf)))]
    constructor
    · intro h
      obtain ⟨⟨hnotin, hnodup⟩, hnone⟩ := h
      refine ⟨hnodup, fun id' hid' ↦ ?_⟩
      have hne : id' ≠ id := fun heq ↦ hnotin (heq ▸ hid')
      rw [Function.update_of_ne hne]
      exact hnone id' hid'
    · intro h
      obtain ⟨hnodup, hnone⟩ := h
      have hnotin : id ∉ (r.getBufferId buf σ).2.ids σ bufs := by
        intro hmem
        have hself := hnone id hmem
        rw [Function.update_self] at hself
        cases hself
      refine ⟨⟨hnotin, hnodup⟩, fun id' hid' ↦ ?_⟩
      have hne : id' ≠ id := fun heq ↦ hnotin (heq ▸ hid')
      have hother := hnone id' hid'
      rwa [Function.update_of_ne hne] at hother

/-- The buffers that a stream hands out one after the other, the first apart. -/
theorem exists_handedOut_succ (n b : ℕ) (P : List CameraStreamBuffer → Prop) :
    (∃ sbs : List CameraStreamBuffer, sbs.length = n + 1 ∧
      (∀ i sb, sbs[i]? = some sb → c.getBuffer σ (b + i) = .ok sb) ∧ P sbs) ↔
    ∃ sb, c.getBuffer σ b = .ok sb ∧ ∃ sbs : List CameraStreamBuffer, sbs.length = n ∧
      (∀ i sb, sbs[i]? = some sb → c.getBuffer σ (b + 1 + i) = .ok sb) ∧ P (sb :: sbs) := by
  constructor
  · intro h
    obtain ⟨sbs, hlength, hsbs, hP⟩ := h
    obtain ⟨first, sbs, rfl⟩ := List.exists_cons_of_length_eq_add_one hlength
    refine ⟨first, hsbs 0 first rfl, sbs, Nat.succ.inj hlength, fun i other hi ↦ ?_, hP⟩
    have hother := hsbs (i + 1) other hi
    rwa [← Nat.add_assoc, Nat.add_right_comm] at hother
  · intro h
    obtain ⟨sb, hget, sbs, hlength, hsbs, hP⟩ := h
    refine ⟨sb :: sbs, congrArg Nat.succ hlength, fun i other hi ↦ ?_, hP⟩
    cases i with
    | zero =>
      cases hi
      exact hget
    | succ i =>
      have hother := hsbs i other hi
      rwa [Nat.add_right_comm, Nat.add_assoc] at hother

/-- The loop goes to its end exactly when the stream has all the buffers and they can be
registered. -/
theorem takeLoop_none_iff (n b : ℕ) (t : Taking) (s : State) :
    (takeLoop c σ n b t s).1 = none ↔ ∃ sbs : List CameraStreamBuffer, sbs.length = n ∧
      (∀ i sb, sbs[i]? = some sb → c.getBuffer σ (b + i) = .ok sb) ∧
      s.records.Registers σ (sbs.map (·.buffer)) := by
  induction n generalizing b t s with
  | zero =>
    refine ⟨fun _ ↦ ⟨[], rfl, fun i sb h ↦ (by cases h), List.nodup_nil, ?_⟩, fun _ ↦ rfl⟩
    exact fun id hid ↦ absurd hid List.not_mem_nil
  | succ n ih =>
    rw [exists_handedOut_succ]
    simp only [takeLoop]
    cases hget : c.getBuffer σ b with
    | error res =>
      refine ⟨fun h ↦ (by cases h), fun h ↦ ?_⟩
      obtain ⟨sb, hsb, -⟩ := h
      cases hsb
    | ok sb =>
      simp only [Except.ok.injEq, exists_eq_left', List.map_cons, registers_cons, State.take]
      cases hpush : (s.records.getBufferId sb.buffer σ).2.pushInflightRequestBuffer
          (s.records.getBufferId sb.buffer σ).1.2 sb.buffer σ with
      | none => simp
      | some r' =>
        simp only [Option.some_inj, exists_eq_left']
        exact ih _ _ _

/-! ### What is undone -/

/-- What the loop has done up to a failure, next to what was there before. -/
structure Undoable (s₀ : State) (σ : ℤ) (t : Taking) (s : State) : Prop where
  outstanding : s.outstanding =
    Function.update s₀.outstanding σ (s₀.outstanding σ + (t.allocated : Multiset ℕ))
  frame : s.inError = s₀.inError ∧ s.started = s₀.started ∧ s.ended = s₀.ended
  inflight : ∀ l ∈ t.pushed,
    s.records.mRequestedBufferMap l.hBuf.bufferId = some (σ, l.buffer)
  others : ∀ id, id ∉ t.pushed.map (·.hBuf.bufferId) →
    s.records.mRequestedBufferMap id = s₀.records.mRequestedBufferMap id
  fresh : ∀ l ∈ t.pushed, s₀.records.mRequestedBufferMap l.hBuf.bufferId = none
  nodup : (t.pushed.map (·.hBuf.bufferId)).Nodup
  uncached : ∀ τ h, (τ = σ → h ∉ t.newBuffers) →
    s.records.mBufferIdMaps τ h = s₀.records.mBufferIdMaps τ h
  created : ∀ h ∈ t.newBuffers, s₀.records.mBufferIdMaps σ h = none

/-- The state of before, but for the ids that were given. -/
def State.withNext (s : State) (mNextBufferId : ℕ) : State :=
  { s with records := { s.records with mNextBufferId } }

theorem foldl_popInflight {ids : List ℕ} (s : State) (hnodup : ids.Nodup)
    (hids : ∀ id ∈ ids, (s.records.mRequestedBufferMap id).isSome) :
    ids.foldl State.popInflight s = { s with
      records := { s.records with
        mRequestedBufferMap := fun id ↦
          if id ∈ ids then none else s.records.mRequestedBufferMap id } } := by
  induction ids generalizing s with
  | nil => simp
  | cons id ids ih =>
    obtain ⟨hnotin, hnodup⟩ := List.nodup_cons.mp hnodup
    obtain ⟨record, hrecord⟩ := Option.isSome_iff_exists.mp (hids id List.mem_cons_self)
    have hpop : s.popInflight id = { s with
        records := { s.records with
          mRequestedBufferMap := Function.update s.records.mRequestedBufferMap id none } } := by
      unfold State.popInflight BufferRecords.popInflightRequestBuffer
      rw [hrecord]
      rfl
    have hrest : ∀ id' ∈ ids,
        (Function.update s.records.mRequestedBufferMap id none id').isSome := by
      intro id' hid'
      have hne : id' ≠ id := fun heq ↦ hnotin (heq ▸ hid')
      rw [Function.update_of_ne hne]
      exact hids id' (List.mem_cons_of_mem _ hid')
    rw [List.foldl_cons, hpop, ih _ hnodup hrest]
    have hmap : (fun id' ↦ if id' ∈ ids then none
        else Function.update s.records.mRequestedBufferMap id none id') =
          fun id' ↦ if id' ∈ id :: ids then none else s.records.mRequestedBufferMap id' := by
      funext id'
      by_cases heq : id' = id
      · subst heq
        simp
      · simp [heq]
    rw [hmap]

theorem foldl_returnBuffer (s : State) (σ : ℤ) (bufs : List ℕ) :
    bufs.foldl (State.returnBuffer · σ) s = { s with
      outstanding :=
        Function.update s.outstanding σ (s.outstanding σ - (bufs : Multiset ℕ)) } := by
  induction bufs generalizing s with
  | nil => simp
  | cons buf bufs ih =>
    rw [List.foldl_cons, ih]
    simp only [State.returnBuffer, Function.update_self, Function.update_idem]
    rw [← Multiset.cons_coe, Multiset.sub_cons]

theorem foldl_uncache (s : State) (σ : ℤ) (bufs : List ℕ) :
    bufs.foldl (State.uncache · σ) s = { s with
      records := { s.records with
        mBufferIdMaps := fun τ h ↦
          if τ = σ ∧ h ∈ bufs then none else s.records.mBufferIdMaps τ h } } := by
  induction bufs generalizing s with
  | nil => simp
  | cons buf bufs ih =>
    rw [List.foldl_cons, ih]
    simp only [State.uncache, BufferRecords.removeOneBufferCache]
    have hmap : (fun τ h ↦ if τ = σ ∧ h ∈ bufs then none
        else Function.update s.records.mBufferIdMaps σ
          (Function.update (s.records.mBufferIdMaps σ) buf none) τ h) =
        fun τ h ↦ if τ = σ ∧ h ∈ buf :: bufs then none else s.records.mBufferIdMaps τ h := by
      funext τ h
      by_cases hτ : τ = σ
      · subst hτ
        by_cases hh : h = buf
        · subst hh
          simp
        · simp [hh]
      · simp [hτ]
    rw [hmap]

/-- A request that fails leaves nothing but the ids that it was given. -/
theorem Undoable.rollback (h : Undoable s₀ σ t s) :
    s.rollback σ t = s₀.withNext s.records.mNextBufferId := by
  have hids : ∀ id ∈ t.pushed.map (·.hBuf.bufferId),
      (s.records.mRequestedBufferMap id).isSome := by
    intro id hid
    obtain ⟨l, hl, rfl⟩ := List.mem_map.mp hid
    rw [h.inflight l hl, Option.isSome_some]
  have hrequested : (fun id ↦ if id ∈ t.pushed.map (·.hBuf.bufferId) then none
      else s.records.mRequestedBufferMap id) = s₀.records.mRequestedBufferMap := by
    funext id
    by_cases hid : id ∈ t.pushed.map (·.hBuf.bufferId)
    · obtain ⟨l, hl, rfl⟩ := List.mem_map.mp hid
      rw [if_pos hid, h.fresh l hl]
    · rw [if_neg hid, h.others id hid]
  have hcached : (fun τ b ↦ if τ = σ ∧ b ∈ t.newBuffers then none
      else s.records.mBufferIdMaps τ b) = s₀.records.mBufferIdMaps := by
    funext τ b
    by_cases hnew : τ = σ ∧ b ∈ t.newBuffers
    · rw [if_pos hnew, hnew.1, h.created b hnew.2]
    · rw [if_neg hnew, h.uncached τ b fun hτ hb ↦ hnew ⟨hτ, hb⟩]
  have houtstanding : Function.update s.outstanding σ
      (s.outstanding σ - (t.allocated : Multiset ℕ)) = s₀.outstanding := by
    rw [h.outstanding, Function.update_self, Function.update_idem, Multiset.add_sub_cancel_right,
      Function.update_eq_self]
  obtain ⟨herror, hstarted, hended⟩ := h.frame
  unfold State.rollback State.withNext
  dsimp only
  rw [foldl_popInflight s h.nodup hids, foldl_returnBuffer, foldl_uncache]
  dsimp only
  rw [hrequested, hcached, houtstanding, herror, hstarted, hended]

/-! ### What is lent -/

/-- A buffer that was taken, with an id that may be new. -/
def Taking.take (t : Taking) (isNewBuffer : Bool) (buf : ℕ) : Taking :=
  { t with
    allocated := t.allocated ++ [buf]
    newBuffers := if isNewBuffer then t.newBuffers ++ [buf] else t.newBuffers }

theorem Undoable.take (h : Undoable s₀ σ t s) (buf : ℕ) :
    Undoable s₀ σ (t.take (s.records.getBufferId buf σ).1.1 buf)
      { s.take σ buf with records := (s.records.getBufferId buf σ).2 } := by
  have houtstanding : (s.take σ buf).outstanding = Function.update s₀.outstanding σ
      (s₀.outstanding σ + ((t.allocated ++ [buf] : List ℕ) : Multiset ℕ)) := by
    simp only [State.take]
    rw [h.outstanding, Function.update_self, Function.update_idem, ← Multiset.coe_add,
      Multiset.add_assoc]
    rfl
  obtain ⟨id, -, hget⟩ | ⟨hnone, r', hget, hreq, -, hmaps⟩ := s.records.getBufferId_cases buf σ
  · rw [hget]
    exact ⟨houtstanding, h.frame, h.inflight, h.others, h.fresh, h.nodup, h.uncached, h.created⟩
  · rw [hget]
    refine ⟨houtstanding, h.frame, ?_, ?_, h.fresh, h.nodup, ?_, ?_⟩
    · intro l hl
      rw [hreq]
      exact h.inflight l hl
    · intro id hid
      rw [hreq]
      exact h.others id hid
    · intro τ b hb
      have hne : (τ, b) ≠ (σ, buf) := by
        intro heq
        obtain ⟨rfl, rfl⟩ := Prod.mk.inj heq
        exact hb rfl (List.mem_append_right _ List.mem_cons_self)
      rw [hmaps τ b hne]
      exact h.uncached τ b fun hτ hmem ↦ hb hτ (List.mem_append_left _ hmem)
    · intro b hb
      obtain hb | hb := List.mem_append.mp hb
      · exact h.created b hb
      · rw [List.mem_singleton.mp hb]
        by_cases hmem : buf ∈ t.newBuffers
        · exact h.created buf hmem
        · rw [← h.uncached σ buf fun _ ↦ hmem, hnone]

theorem push_eq_some {r r' : BufferRecords} {bufferId buf : ℕ} {streamId : ℤ}
    (h : r.pushInflightRequestBuffer bufferId buf streamId = some r') :
    r.mRequestedBufferMap bufferId = none ∧ r' = { r with
      mRequestedBufferMap :=
        Function.update r.mRequestedBufferMap bufferId (some (streamId, buf)) } := by
  unfold BufferRecords.pushInflightRequestBuffer at h
  split at h
  · cases h
  · rename_i hnone
    exact ⟨Option.not_isSome_iff_eq_none.mp hnone, (Option.some.inj h).symm⟩

theorem Undoable.push (h : Undoable s₀ σ t s) {l : Loan} {records : BufferRecords}
    (hpush : s.records.pushInflightRequestBuffer l.hBuf.bufferId l.buffer σ = some records) :
    Undoable s₀ σ { t with pushed := t.pushed ++ [l] } { s with records } := by
  obtain ⟨hnone, rfl⟩ := push_eq_some hpush
  have hnotin : l.hBuf.bufferId ∉ t.pushed.map (·.hBuf.bufferId) := by
    intro hmem
    obtain ⟨l', hl', hid⟩ := List.mem_map.mp hmem
    rw [← hid, h.inflight l' hl'] at hnone
    cases hnone
  refine ⟨h.outstanding, h.frame, ?_, ?_, ?_, ?_, h.uncached, h.created⟩
  · intro l' hl'
    obtain hl' | hl' := List.mem_append.mp hl'
    · have hne : l'.hBuf.bufferId ≠ l.hBuf.bufferId :=
        fun heq ↦ hnotin (heq ▸ List.mem_map_of_mem hl')
      simp only [Function.update_of_ne hne]
      exact h.inflight l' hl'
    · rw [List.mem_singleton.mp hl']
      exact Function.update_self ..
  · intro id hid
    rw [List.map_append, List.mem_append, not_or] at hid
    have hne : id ≠ l.hBuf.bufferId := fun heq ↦ hid.2 (heq ▸ List.mem_cons_self)
    simp only [Function.update_of_ne hne]
    exact h.others id hid.1
  · intro l' hl'
    obtain hl' | hl' := List.mem_append.mp hl'
    · exact h.fresh l' hl'
    · rw [List.mem_singleton.mp hl', ← h.others _ hnotin]
      exact hnone
  · rw [List.map_append, List.map_singleton, List.nodup_append]
    refine ⟨h.nodup, List.nodup_singleton _, fun id hid id' hid' ↦ ?_⟩
    rw [List.mem_singleton.mp hid']
    exact fun heq ↦ hnotin (heq ▸ hid)

/-- In front of the next buffer, each buffer that was taken is lent under its id. -/
structure Lent (s₀ : State) (σ : ℤ) (t : Taking) (s : State) : Prop
    extends Undoable s₀ σ t s where
  allocated : t.allocated = t.pushed.map (·.buffer)
  cached : ∀ l ∈ t.pushed, s.records.mBufferIdMaps σ l.buffer = some l.hBuf.bufferId
  pushed : ∀ h ∈ t.newBuffers, h ∈ t.pushed.map (·.buffer)
  sent : ∀ l ∈ t.pushed, l.hBuf.streamId = σ ∧
    (l.hBuf.buffer = if s₀.records.mBufferIdMaps σ l.buffer = none then some l.buffer else none) ∧
    ∀ id, s₀.records.mBufferIdMaps σ l.buffer = some id → id = l.hBuf.bufferId

theorem Lent.start (s : State) (σ : ℤ) : Lent s σ {} s where
  outstanding := by
    rw [Multiset.coe_nil, Multiset.add_zero, Function.update_eq_self]
  frame := ⟨rfl, rfl, rfl⟩
  inflight _ hl := absurd hl List.not_mem_nil
  others _ _ := rfl
  fresh _ hl := absurd hl List.not_mem_nil
  nodup := List.nodup_nil
  uncached _ _ _ := rfl
  created _ hh := absurd hh List.not_mem_nil
  allocated := rfl
  cached _ hl := absurd hl List.not_mem_nil
  pushed _ hh := absurd hh List.not_mem_nil
  sent _ hl := absurd hl List.not_mem_nil

/-- An id that is registered is new exactly when the handle had none before the request. -/
theorem Lent.id_before (h : Lent s₀ σ t s) {buf : ℕ} {records : BufferRecords}
    (hpush : (s.records.getBufferId buf σ).2.pushInflightRequestBuffer
      (s.records.getBufferId buf σ).1.2 buf σ = some records) :
    (s.records.getBufferId buf σ).2.mBufferIdMaps σ buf =
        some (s.records.getBufferId buf σ).1.2 ∧
      ((s.records.getBufferId buf σ).1.1 = true ∧ s₀.records.mBufferIdMaps σ buf = none ∧
          s.records.mBufferIdMaps σ buf = none ∨
        (s.records.getBufferId buf σ).1.1 = false ∧
          s₀.records.mBufferIdMaps σ buf = some (s.records.getBufferId buf σ).1.2) := by
  obtain ⟨hfree, -⟩ := push_eq_some hpush
  obtain ⟨id, hcached, hget⟩ | ⟨hnone, r', hget, -, hself, -⟩ := s.records.getBufferId_cases buf σ
  · rw [hget] at hfree ⊢
    refine ⟨hcached, .inr ⟨rfl, ?_⟩⟩
    have hold : buf ∉ t.newBuffers := by
      intro hmem
      obtain ⟨l, hl, hbuf⟩ := List.mem_map.mp (h.pushed buf hmem)
      have hid := h.cached l hl
      rw [hbuf, hcached] at hid
      have hinflight := h.inflight l hl
      rw [← Option.some.inj hid, hfree] at hinflight
      cases hinflight
    rw [← h.uncached σ buf fun _ ↦ hold]
    exact hcached
  · rw [hget]
    refine ⟨hself, .inl ⟨rfl, ?_, hnone⟩⟩
    by_cases hmem : buf ∈ t.newBuffers
    · exact h.created buf hmem
    · rw [← h.uncached σ buf fun _ ↦ hmem]
      exact hnone

/-- The handles that were lent keep their ids. -/
theorem Lent.cached_take (h : Lent s₀ σ t s) (buf : ℕ) {l : Loan} (hl : l ∈ t.pushed) :
    (s.records.getBufferId buf σ).2.mBufferIdMaps σ l.buffer = some l.hBuf.bufferId := by
  obtain ⟨id, -, hget⟩ | ⟨hnone, r', hget, -, -, hmaps⟩ := s.records.getBufferId_cases buf σ
  · rw [hget]
    exact h.cached l hl
  · rw [hget]
    have hne : (σ, l.buffer) ≠ (σ, buf) := by
      intro heq
      have hcached := h.cached l hl
      rw [(Prod.mk.inj heq).2, hnone] at hcached
      cases hcached
    rw [hmaps σ l.buffer hne]
    exact h.cached l hl

theorem Lent.push (h : Lent s₀ σ t s) {buf : ℕ} {fence : Option ℤ} {records : BufferRecords}
    (hpush : (s.records.getBufferId buf σ).2.pushInflightRequestBuffer
      (s.records.getBufferId buf σ).1.2 buf σ = some records) :
    Lent s₀ σ
      { t.take (s.records.getBufferId buf σ).1.1 buf with
        pushed := t.pushed ++ [⟨buf, ⟨σ, (s.records.getBufferId buf σ).1.2,
          if (s.records.getBufferId buf σ).1.1 then some buf else none, fence⟩⟩] }
      { s.take σ buf with records } := by
  obtain ⟨hself, hbefore⟩ := h.id_before hpush
  obtain ⟨-, hrecords⟩ := push_eq_some hpush
  have hmaps : records.mBufferIdMaps = (s.records.getBufferId buf σ).2.mBufferIdMaps := by
    rw [hrecords]
  refine ⟨(h.take buf).push hpush, ?_, ?_, ?_, ?_⟩
  · simp only [Taking.take, h.allocated, List.map_append, List.map_cons, List.map_nil]
  · intro l hl
    dsimp only
    rw [hmaps]
    obtain hl | hl := List.mem_append.mp hl
    · exact h.cached_take buf hl
    · rw [List.mem_singleton.mp hl]
      exact hself
  · intro b hb
    rw [List.map_append, List.mem_append]
    simp only [Taking.take] at hb
    split at hb
    · obtain hb | hb := List.mem_append.mp hb
      · exact .inl (h.pushed b hb)
      · exact .inr hb
    · exact .inl (h.pushed b hb)
  · intro l hl
    obtain hl | hl := List.mem_append.mp hl
    · exact h.sent l hl
    · rw [List.mem_singleton.mp hl]
      obtain ⟨hnew, hnone, -⟩ | ⟨hnew, hsome⟩ := hbefore
      · rw [hnew]
        simp [hnone]
      · rw [hnew]
        simp [hsome]

/-- The loop from a place where everything that was taken is lent. -/
theorem takeLoop_lent (n b : ℕ) (h : Lent s₀ σ t s) :
    Undoable s₀ σ (takeLoop c σ n b t s).2.1 (takeLoop c σ n b t s).2.2 ∧
      ((takeLoop c σ n b t s).1 = none →
        Lent s₀ σ (takeLoop c σ n b t s).2.1 (takeLoop c σ n b t s).2.2 ∧
          (takeLoop c σ n b t s).2.1.pushed.length = t.pushed.length + n) := by
  induction n generalizing b t s with
  | zero => exact ⟨h.toUndoable, fun _ ↦ ⟨h, rfl⟩⟩
  | succ n ih =>
    simp only [takeLoop]
    cases hget : c.getBuffer σ b with
    | error res => exact ⟨h.toUndoable, fun hnone ↦ (by cases hnone)⟩
    | ok sb =>
      have hrecords : (s.take σ sb.buffer).records = s.records := rfl
      dsimp only
      rw [hrecords]
      cases hpush : (s.records.getBufferId sb.buffer σ).2.pushInflightRequestBuffer
          (s.records.getBufferId sb.buffer σ).1.2 sb.buffer σ with
      | none => exact ⟨h.take sb.buffer, fun hnone ↦ (by cases hnone)⟩
      | some records =>
        obtain ⟨hundo, hlent⟩ := ih (b + 1) (h.push hpush)
        refine ⟨hundo, fun hnone ↦ ?_⟩
        obtain ⟨hlent, hlength⟩ := hlent hnone
        refine ⟨hlent, hlength.trans ?_⟩
        simp only [List.length_append, List.length_singleton]
        omega

/-! ### Accounts -/

/-- The buffers of a stream among those that are lent. -/
def ofStream (loans : List Loan) (σ : ℤ) : Multiset ℕ :=
  ((loans.filter fun l ↦ l.hBuf.streamId = σ).map (·.buffer) : List ℕ)

theorem ofStream_append (loans loans' : List Loan) (σ : ℤ) :
    ofStream (loans ++ loans') σ = ofStream loans σ + ofStream loans' σ := by
  unfold ofStream
  rw [List.filter_append, List.map_append, Multiset.coe_add]

theorem ofStream_of_forall {loans : List Loan} (h : ∀ l ∈ loans, l.hBuf.streamId = σ) :
    ofStream loans σ = (loans.map (·.buffer) : List ℕ) := by
  unfold ofStream
  rw [List.filter_eq_self.mpr fun l hl ↦ decide_eq_true (h l hl)]

theorem ofStream_of_ne {loans : List Loan} (h : ∀ l ∈ loans, l.hBuf.streamId = σ) {τ : ℤ}
    (hτ : τ ≠ σ) : ofStream loans τ = 0 := by
  unfold ofStream
  rw [List.filter_eq_nil_iff.mpr fun l hl ↦ by simpa [h l hl] using hτ.symm]
  rfl

/-- The second state is the first with some buffers lent. -/
structure Accounted (s s' : State) (loans : List Loan) : Prop where
  outstanding : ∀ σ, s'.outstanding σ = s.outstanding σ + ofStream loans σ
  frame : s'.inError = s.inError ∧ s'.started = s.started ∧ s'.ended = s.ended
  inflight : ∀ l ∈ loans,
    s'.records.mRequestedBufferMap l.hBuf.bufferId = some (l.hBuf.streamId, l.buffer)
  others : ∀ id, id ∉ loans.map (·.hBuf.bufferId) →
    s'.records.mRequestedBufferMap id = s.records.mRequestedBufferMap id
  fresh : ∀ l ∈ loans, s.records.mRequestedBufferMap l.hBuf.bufferId = none
  cached : ∀ l ∈ loans,
    s'.records.mBufferIdMaps l.hBuf.streamId l.buffer = some l.hBuf.bufferId
  uncached : ∀ σ h, (∀ l ∈ loans, (l.hBuf.streamId, l.buffer) ≠ (σ, h)) →
    s'.records.mBufferIdMaps σ h = s.records.mBufferIdMaps σ h
  sent : ∀ l ∈ loans,
    (l.hBuf.buffer =
      if s.records.mBufferIdMaps l.hBuf.streamId l.buffer = none then some l.buffer else none) ∧
    ∀ id, s.records.mBufferIdMaps l.hBuf.streamId l.buffer = some id → id = l.hBuf.bufferId

theorem accounted_withNext (s : State) (next : ℕ) : Accounted s (s.withNext next) [] where
  outstanding _ := (Multiset.add_zero _).symm
  frame := ⟨rfl, rfl, rfl⟩
  inflight _ hl := absurd hl List.not_mem_nil
  others _ _ := rfl
  fresh _ hl := absurd hl List.not_mem_nil
  cached _ hl := absurd hl List.not_mem_nil
  uncached _ _ _ := rfl
  sent _ hl := absurd hl List.not_mem_nil

theorem Lent.accounted (h : Lent s₀ σ t s) : Accounted s₀ s t.pushed where
  outstanding τ := by
    have hstream : ∀ l ∈ t.pushed, l.hBuf.streamId = σ := fun l hl ↦ (h.sent l hl).1
    rw [h.outstanding]
    by_cases hτ : τ = σ
    · subst hτ
      rw [Function.update_self, ofStream_of_forall hstream, h.allocated]
    · rw [Function.update_of_ne hτ, ofStream_of_ne hstream hτ, Multiset.add_zero]
  frame := h.frame
  inflight l hl := by
    rw [(h.sent l hl).1]
    exact h.inflight l hl
  others := h.others
  fresh := h.fresh
  cached l hl := by
    rw [(h.sent l hl).1]
    exact h.cached l hl
  uncached τ b hb := by
    refine h.uncached τ b fun hτ hmem ↦ ?_
    obtain ⟨l, hl, hbuf⟩ := List.mem_map.mp (h.pushed b hmem)
    exact hb l hl (by rw [(h.sent l hl).1, hτ, hbuf])
  sent l hl := by
    rw [(h.sent l hl).1]
    exact (h.sent l hl).2

/-- A loan is not lent once more: its id is in flight. -/
theorem Accounted.not_again {s₁ s₂ : State} {loans loans' : List Loan} (h : Accounted s s₁ loans)
    (h' : Accounted s₁ s₂ loans') {l l' : Loan} (hl : l ∈ loans) (hl' : l' ∈ loans') :
    l.hBuf.bufferId ≠ l'.hBuf.bufferId ∧
      (l.hBuf.streamId, l.buffer) ≠ (l'.hBuf.streamId, l'.buffer) := by
  have hid : l.hBuf.bufferId ≠ l'.hBuf.bufferId := by
    intro heq
    have hinflight := h.inflight l hl
    rw [heq, h'.fresh l' hl'] at hinflight
    cases hinflight
  refine ⟨hid, fun heq ↦ hid ?_⟩
  obtain ⟨hstream, hbuf⟩ := Prod.mk.inj heq
  apply (h'.sent l' hl').2
  rw [← hstream, ← hbuf]
  exact h.cached l hl

theorem Accounted.trans {s₁ s₂ : State} {loans loans' : List Loan} (h : Accounted s s₁ loans)
    (h' : Accounted s₁ s₂ loans') : Accounted s s₂ (loans ++ loans') where
  outstanding σ := by
    rw [h'.outstanding, h.outstanding, ofStream_append, Multiset.add_assoc]
  frame := ⟨h'.frame.1.trans h.frame.1, h'.frame.2.1.trans h.frame.2.1,
    h'.frame.2.2.trans h.frame.2.2⟩
  inflight l hl := by
    obtain hl | hl := List.mem_append.mp hl
    · have hnotin : l.hBuf.bufferId ∉ loans'.map (·.hBuf.bufferId) := by
        intro hmem
        obtain ⟨l', hl', heq⟩ := List.mem_map.mp hmem
        exact (h.not_again h' hl hl').1 heq.symm
      rw [h'.others _ hnotin]
      exact h.inflight l hl
    · exact h'.inflight l hl
  others id hid := by
    rw [List.map_append, List.mem_append, not_or] at hid
    rw [h'.others id hid.2, h.others id hid.1]
  fresh l hl := by
    obtain hl | hl := List.mem_append.mp hl
    · exact h.fresh l hl
    · have hnotin : l.hBuf.bufferId ∉ loans.map (·.hBuf.bufferId) := by
        intro hmem
        obtain ⟨l', hl', heq⟩ := List.mem_map.mp hmem
        exact (h.not_again h' hl' hl).1 heq
      rw [← h.others _ hnotin]
      exact h'.fresh l hl
  cached l hl := by
    obtain hl | hl := List.mem_append.mp hl
    · rw [h'.uncached _ _ fun l' hl' ↦ (h.not_again h' hl hl').2.symm]
      exact h.cached l hl
    · exact h'.cached l hl
  uncached σ b hb := by
    rw [h'.uncached σ b fun l hl ↦ hb l (List.mem_append_right _ hl),
      h.uncached σ b fun l hl ↦ hb l (List.mem_append_left _ hl)]
  sent l hl := by
    obtain hl | hl := List.mem_append.mp hl
    · exact h.sent l hl
    · rw [← h.uncached _ _ fun l' hl' ↦ (h.not_again h' hl' hl).2]
      exact h'.sent l hl

end VirtualCamera.CameraService.StreamBuffers
