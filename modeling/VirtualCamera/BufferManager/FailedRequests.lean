import VirtualCamera.BufferManager.Registration

namespace VirtualCamera.BufferManager

open Library Library.Transition

/-- What one call of `checkAndFreeBufferOnOtherStreamsLocked` meets: the streams that can be
promoted, and whether a buffer is detached. -/
structure Pass where
  alive : ℤ → Bool
  bufferFreed : Bool

namespace State

variable {s : State}

/-! ### The whole call

No other thread calls in while the lock is let go. -/

/-- The thread has the lock again, and one buffer of the other stream less. -/
def dropOther (s : State) (streamSetKey : StreamSetKey) (other : ℤ) (bufferFreed : Bool) :
    State :=
  if bufferFreed then s.removeAttached other streamSetKey else s

/-- The second of the two calls. -/
def freeSecond (s : State) (streamId : ℤ) (streamSetKey : StreamSetKey) (second : Pass) :
    Status × State :=
  match s.checkAndFreeBufferOnOtherStreamsLocked streamId streamSetKey second.alive with
  | .returned res => (res, s)
  | .unlocked other => (.OK, s.dropOther streamSetKey other second.bufferFreed)
  | .wild => (.OK, s.lookupWild)

/-- Both calls. -/
def freeBoth (s : State) (streamId : ℤ) (streamSetKey : StreamSetKey) (first second : Pass) :
    Status × State :=
  match s.checkAndFreeBufferOnOtherStreamsLocked streamId streamSetKey first.alive with
  | .returned .OK => s.freeSecond streamId streamSetKey second
  | .returned res => (res, s)
  | .unlocked other =>
    (s.dropOther streamSetKey other first.bufferFreed).freeSecond streamId streamSetKey second
  | .wild => (.OK, s.lookupWild)

/-- One more buffer is handed out and attached, and the water mark follows. -/
def countNew (streamSet : StreamSet) (streamId : ℤ) (bufferCount attachedBufferCount : ℕ) :
    StreamSet :=
  { setCounts streamSet streamId (increment bufferCount) (increment attachedBufferCount) with
    allocatedBufferWaterMark :=
      if increment bufferCount + 1 > streamSet.allocatedBufferWaterMark
      then increment bufferCount + 1 else streamSet.allocatedBufferWaterMark }

/-- `getBufferForStream` to its return, with the status that its caller gets. -/
def getBufferForStreamAlone (s : State) (streamId : ℤ) (streamSetKey : StreamSetKey)
    (noFreeBufferAtConsumer allocated : Bool) (first second : Pass) : Status × State :=
  if !s.checkIfStreamRegisteredLocked streamId streamSetKey then (.BAD_VALUE, s)
  else
    match s.mStreamSetMap.find? streamSetKey with
    | none => (.OK, s.lookupWild)
    | some streamSet =>
      match streamSet.handoutBufferCountMap.find? streamId,
        streamSet.attachedBufferCountMap.find? streamId with
      | some bufferCount, some attachedBufferCount =>
        let attachedBufferCount :=
          if noFreeBufferAtConsumer then bufferCount else attachedBufferCount
        let sNow := s.editSet streamSetKey
          (setCounts streamSet streamId bufferCount attachedBufferCount)
        if bufferCount ≥ streamSet.maxAllowedBufferCount then (.INVALID_OPERATION, sNow)
        else if attachedBufferCount > bufferCount then
          (.ALREADY_EXISTS, s.editSet streamSetKey
            (setCounts streamSet streamId (increment bufferCount) attachedBufferCount))
        else if !allocated then (.NO_MEMORY, sNow)
        else
          (s.editSet streamSetKey (countNew streamSet streamId bufferCount
            attachedBufferCount)).freeBoth streamId streamSetKey first second
      | _, _ => (.OK, s.lookupWild)

/-! ### The whole call as a run of the model -/

/-- A check that returns OK does not look at the streams. -/
theorem check_returned_ok {streamId : ℤ} {streamSetKey : StreamSetKey} {alive : ℤ → Bool}
    (h : s.checkAndFreeBufferOnOtherStreamsLocked streamId streamSetKey alive = .returned .OK)
    (alive' : ℤ → Bool) :
    s.checkAndFreeBufferOnOtherStreamsLocked streamId streamSetKey alive' = .returned .OK := by
  rw [checkAndFreeBufferOnOtherStreamsLocked] at h ⊢
  split at h
  · cases h
  split at h
  · rename_i hone
    rw [if_pos hone]
  rename_i hone
  rw [if_neg hone]
  split at h
  · cases h
  · rfl
  split at h
  · split at h
    · cases h
    split at h
    · cases h
    · cases h
  · rename_i hmark
    rw [if_neg hmark]

/-- What is detached by the thread that came last. -/
theorem detached_last {streamId : ℤ} {streamSetKey : StreamSetKey} {other : ℤ} (again : Bool)
    (bufferFreed : Bool) (alive : ℤ → Bool) :
    State.step { s with freeing := s.freeing ++
        [⟨streamId, streamSetKey, other, again, s.generation⟩] }
      (.detached s.freeing.length bufferFreed alive) =
    some (if again then s.dropOther streamSetKey other bufferFreed
      else ((s.dropOther streamSetKey other bufferFreed).freeAgain streamId streamSetKey
        alive).2) := by
  simp only [State.step, List.getElem?_concat_length, Option.map_some, detached,
    List.eraseIdx_append_of_length_le le_rfl, Nat.sub_self, List.eraseIdx_cons_zero,
    List.append_nil, takeOff, dropOther, ne_eq, not_true_eq_false, if_false]

theorem freeSecond_run (s : State) (streamId : ℤ) (streamSetKey : StreamSetKey) (second : Pass) :
    ∃ labels, Run Step (s.freeAgain streamId streamSetKey second.alive).2 labels
      (s.freeSecond streamId streamSetKey second).2 := by
  rw [freeAgain, freeSecond]
  cases s.checkAndFreeBufferOnOtherStreamsLocked streamId streamSetKey second.alive with
  | returned res => exact ⟨[], .nil s⟩
  | unlocked other => exact ⟨[_], .one (detached_last true second.bufferFreed second.alive)⟩
  | wild => exact ⟨[], .nil s.lookupWild⟩

theorem freeBoth_run (s : State) (streamId : ℤ) (streamSetKey : StreamSetKey)
    (first second : Pass) :
    ∃ labels, Run Step (s.free streamId streamSetKey first.alive).2 labels
      (s.freeBoth streamId streamSetKey first second).2 := by
  rw [free, freeBoth]
  cases hcheck : s.checkAndFreeBufferOnOtherStreamsLocked streamId streamSetKey first.alive with
  | returned res =>
    cases res with
    | OK =>
      simp only [freeAgain, freeSecond, hcheck, check_returned_ok hcheck]
      exact ⟨[], .nil s⟩
    | _ => exact ⟨[], .nil s⟩
  | unlocked other =>
    obtain ⟨labels, hrun⟩ := (s.dropOther streamSetKey other first.bufferFreed).freeSecond_run
      streamId streamSetKey second
    exact ⟨_, .cons (detached_last false first.bufferFreed second.alive) hrun⟩
  | wild => exact ⟨[], .nil s.lookupWild⟩

section Found

variable {streamId : ℤ} {streamSetKey : StreamSetKey} {streamSet : StreamSet}
  {bufferCount attachedBufferCount now : ℕ} {noFreeBufferAtConsumer : Bool}
  (hreg : s.checkIfStreamRegisteredLocked streamId streamSetKey = true)
  (hset : s.mStreamSetMap.find? streamSetKey = some streamSet)
  (hb : streamSet.handoutBufferCountMap.find? streamId = some bufferCount)
  (ha : streamSet.attachedBufferCountMap.find? streamId = some attachedBufferCount)
  (hnow : (if noFreeBufferAtConsumer then bufferCount else attachedBufferCount) = now)

include hreg hset hb ha hnow

theorem getBufferForStream_found (allocated : Bool) (alive : ℤ → Bool) :
    s.getBufferForStream streamId streamSetKey noFreeBufferAtConsumer allocated alive =
      if bufferCount ≥ streamSet.maxAllowedBufferCount then
        (.INVALID_OPERATION, s.editSet streamSetKey (setCounts streamSet streamId bufferCount now))
      else if now > bufferCount then
        (.ALREADY_EXISTS,
          s.editSet streamSetKey (setCounts streamSet streamId (increment bufferCount) now))
      else if !allocated then
        (.NO_MEMORY, s.editSet streamSetKey (setCounts streamSet streamId bufferCount now))
      else (s.editSet streamSetKey (countNew streamSet streamId bufferCount now)).free streamId
        streamSetKey alive := by
  subst hnow
  simp only [getBufferForStream, hreg, hset, hb, ha]
  rfl

theorem getBufferForStreamAlone_found (allocated : Bool) (first second : Pass) :
    s.getBufferForStreamAlone streamId streamSetKey noFreeBufferAtConsumer allocated first second =
      if bufferCount ≥ streamSet.maxAllowedBufferCount then
        (.INVALID_OPERATION, s.editSet streamSetKey (setCounts streamSet streamId bufferCount now))
      else if now > bufferCount then
        (.ALREADY_EXISTS,
          s.editSet streamSetKey (setCounts streamSet streamId (increment bufferCount) now))
      else if !allocated then
        (.NO_MEMORY, s.editSet streamSetKey (setCounts streamSet streamId bufferCount now))
      else (s.editSet streamSetKey (countNew streamSet streamId bufferCount now)).freeBoth streamId
        streamSetKey first second := by
  subst hnow
  simp only [getBufferForStreamAlone, hreg, hset, hb, ha]
  rfl

end Found

/-- What a call finds: a stream that is not registered, something that is not there, or the counts
of the stream. -/
theorem found_cases (s : State) (streamId : ℤ) (streamSetKey : StreamSetKey)
    (noFreeBufferAtConsumer allocated : Bool) (first second : Pass) :
    (s.checkIfStreamRegisteredLocked streamId streamSetKey = false ∨
        (s.getBufferForStreamAlone streamId streamSetKey noFreeBufferAtConsumer allocated first
            second = (.OK, s.lookupWild) ∧
          s.getBufferForStream streamId streamSetKey noFreeBufferAtConsumer allocated first.alive =
            (.OK, s.lookupWild))) ∨
      s.checkIfStreamRegisteredLocked streamId streamSetKey = true ∧
        ∃ streamSet bufferCount attachedBufferCount,
          s.mStreamSetMap.find? streamSetKey = some streamSet ∧
          streamSet.handoutBufferCountMap.find? streamId = some bufferCount ∧
          streamSet.attachedBufferCountMap.find? streamId = some attachedBufferCount := by
  rw [getBufferForStreamAlone, getBufferForStream]
  cases s.checkIfStreamRegisteredLocked streamId streamSetKey with
  | false => exact .inl (.inl rfl)
  | true =>
    cases s.mStreamSetMap.find? streamSetKey with
    | none => exact .inl (.inr ⟨rfl, rfl⟩)
    | some streamSet =>
      dsimp only
      cases hb : streamSet.handoutBufferCountMap.find? streamId with
      | none => exact .inl (.inr ⟨rfl, rfl⟩)
      | some bufferCount =>
        cases ha : streamSet.attachedBufferCountMap.find? streamId with
        | none => exact .inl (.inr ⟨rfl, rfl⟩)
        | some attachedBufferCount => exact .inr ⟨rfl, streamSet, _, _, rfl, hb, ha⟩

theorem getBufferForStreamAlone_unregistered {streamId : ℤ} {streamSetKey : StreamSetKey}
    (hreg : s.checkIfStreamRegisteredLocked streamId streamSetKey = false)
    (noFreeBufferAtConsumer allocated : Bool) (first second : Pass) :
    s.getBufferForStreamAlone streamId streamSetKey noFreeBufferAtConsumer allocated first second =
      (.BAD_VALUE, s) := by
  rw [getBufferForStreamAlone, hreg]
  rfl

/-- A whole call is a run of the thread that makes it. -/
theorem getBufferForStreamAlone_run (s : State) (streamId : ℤ) (streamSetKey : StreamSetKey)
    (noFreeBufferAtConsumer allocated : Bool) (first second : Pass) :
    ∃ labels, Run Step s (.getBufferForStream streamId streamSetKey noFreeBufferAtConsumer allocated
        first.alive :: labels)
      (s.getBufferForStreamAlone streamId streamSetKey noFreeBufferAtConsumer allocated first
        second).2 := by
  have hrest : ∃ labels, Run Step
      (s.getBufferForStream streamId streamSetKey noFreeBufferAtConsumer allocated first.alive).2
      labels (s.getBufferForStreamAlone streamId streamSetKey noFreeBufferAtConsumer allocated first
        second).2 := by
    obtain (hreg | ⟨halone, hcall⟩) | ⟨hreg, streamSet, bufferCount, attached, hset, hb, ha⟩ :=
      s.found_cases streamId streamSetKey noFreeBufferAtConsumer allocated first second
    · rw [getBufferForStreamAlone_unregistered hreg, getBufferForStream, hreg]
      exact ⟨[], .nil s⟩
    · rw [halone, hcall]
      exact ⟨[], .nil s.lookupWild⟩
    · obtain ⟨now, hnow⟩ : ∃ now, (if noFreeBufferAtConsumer then bufferCount else attached) = now :=
        ⟨_, rfl⟩
      rw [getBufferForStream_found hreg hset hb ha hnow,
        getBufferForStreamAlone_found hreg hset hb ha hnow]
      split
      · exact ⟨[], .nil _⟩
      split
      · exact ⟨[], .nil _⟩
      split
      · exact ⟨[], .nil _⟩
      · exact freeBoth_run _ streamId streamSetKey first second
  obtain ⟨labels, hrun⟩ := hrest
  exact ⟨labels, .cons rfl hrun⟩

/-! ### What a failed call leaves behind -/

def waterMark (s : State) (streamSetKey : StreamSetKey) : Option ℕ :=
  (s.mStreamSetMap.find? streamSetKey).map (·.allocatedBufferWaterMark)

/-- The call gets as far as a new buffer. -/
def Allocates (s : State) (streamId : ℤ) (streamSetKey : StreamSetKey)
    (noFreeBufferAtConsumer allocated : Bool) : Prop :=
  s.checkIfStreamRegisteredLocked streamId streamSetKey = true ∧ allocated = true ∧
    ∃ streamSet bufferCount attachedBufferCount,
      s.mStreamSetMap.find? streamSetKey = some streamSet ∧
      streamSet.handoutBufferCountMap.find? streamId = some bufferCount ∧
      streamSet.attachedBufferCountMap.find? streamId = some attachedBufferCount ∧
      bufferCount < streamSet.maxAllowedBufferCount ∧
      (noFreeBufferAtConsumer = true ∨ attachedBufferCount ≤ bufferCount)

/-- What `noFreeBufferAtConsumer` says is taken note of: the stream's attached buffers are those
that are handed out. -/
def synced (s : State) (streamId : ℤ) (streamSetKey : StreamSetKey)
    (noFreeBufferAtConsumer : Bool) (key : StreamSetKey) (id : ℤ) : Option (ℕ × ℕ) :=
  if s.checkIfStreamRegisteredLocked streamId streamSetKey && noFreeBufferAtConsumer &&
      key = streamSetKey && id = streamId then
    (s.counts key id).map fun counts ↦ (counts.1, counts.1)
  else s.counts key id

theorem waterMark_editSet {streamSetKey : StreamSetKey} {streamSet streamSet' : StreamSet}
    (hset : s.mStreamSetMap.find? streamSetKey = some streamSet)
    (h : streamSet'.allocatedBufferWaterMark = streamSet.allocatedBufferWaterMark)
    (key : StreamSetKey) : (s.editSet streamSetKey streamSet').waterMark key = s.waterMark key := by
  by_cases hkey : key = streamSetKey
  · subst hkey
    simp [waterMark, editSet, hset, h]
  · simp [waterMark, editSet, KeyedVector.find?_add_ne _ hkey]

theorem counts_editSet_setCounts {streamSetKey : StreamSetKey} {streamSet : StreamSet}
    {streamId : ℤ} (hset : s.mStreamSetMap.find? streamSetKey = some streamSet)
    (bufferCount attached : ℕ) (key : StreamSetKey) (id : ℤ) :
    (s.editSet streamSetKey (setCounts streamSet streamId bufferCount attached)).counts key id =
      if key = streamSetKey ∧ id = streamId then some (bufferCount, attached)
      else s.counts key id := by
  by_cases hkey : key = streamSetKey
  · subst hkey
    by_cases hid : id = streamId
    · subst hid
      simp [counts, editSet, setCounts]
    · simp [counts, editSet, setCounts, hset, hid, KeyedVector.find?_add_ne _ hid]
  · simp [counts, editSet, hkey, KeyedVector.find?_add_ne _ hkey]

/-- What every call writes first. -/
theorem counts_editSet_synced {streamSetKey : StreamSetKey} {streamSet : StreamSet} {streamId : ℤ}
    {noFreeBufferAtConsumer : Bool} {bufferCount attached now : ℕ}
    (hreg : s.checkIfStreamRegisteredLocked streamId streamSetKey = true)
    (hset : s.mStreamSetMap.find? streamSetKey = some streamSet)
    (hb : streamSet.handoutBufferCountMap.find? streamId = some bufferCount)
    (ha : streamSet.attachedBufferCountMap.find? streamId = some attached)
    (hnow : (if noFreeBufferAtConsumer then bufferCount else attached) = now)
    (key : StreamSetKey) (id : ℤ) :
    (s.editSet streamSetKey (setCounts streamSet streamId bufferCount now)).counts key id =
      s.synced streamId streamSetKey noFreeBufferAtConsumer key id := by
  rw [counts_editSet_setCounts hset, synced, hreg]
  have hcounts := counts_eq hset hb ha
  by_cases hat : key = streamSetKey ∧ id = streamId
  · obtain ⟨rfl, rfl⟩ := hat
    cases noFreeBufferAtConsumer <;> simp_all
  · rw [if_neg hat, if_neg (by simpa using fun _ ↦ not_and.mp hat)]

theorem failed_request_counts {streamId : ℤ} {streamSetKey : StreamSetKey}
    {noFreeBufferAtConsumer allocated : Bool} {first second : Pass}
    (hok : (s.getBufferForStreamAlone streamId streamSetKey noFreeBufferAtConsumer allocated first
      second).1 ≠ .OK)
    (hexists : (s.getBufferForStreamAlone streamId streamSetKey noFreeBufferAtConsumer allocated
      first second).1 ≠ .ALREADY_EXISTS)
    (hnew : ¬ s.Allocates streamId streamSetKey noFreeBufferAtConsumer allocated)
    (key : StreamSetKey) (id : ℤ) :
    (s.getBufferForStreamAlone streamId streamSetKey noFreeBufferAtConsumer allocated first
        second).2.counts key id =
      s.synced streamId streamSetKey noFreeBufferAtConsumer key id ∧
    (s.getBufferForStreamAlone streamId streamSetKey noFreeBufferAtConsumer allocated first
        second).2.waterMark key = s.waterMark key := by
  obtain (hreg | ⟨halone, -⟩) | ⟨hreg, streamSet, bufferCount, attached, hset, hb, ha⟩ :=
    s.found_cases streamId streamSetKey noFreeBufferAtConsumer allocated first second
  · rw [getBufferForStreamAlone_unregistered hreg, synced, hreg]
    exact ⟨rfl, rfl⟩
  · exact absurd (congrArg Prod.fst halone) hok
  · obtain ⟨now, hnow⟩ : ∃ now, (if noFreeBufferAtConsumer then bufferCount else attached) = now :=
      ⟨_, rfl⟩
    have hsync := counts_editSet_synced hreg hset hb ha hnow key id
    have hmark := waterMark_editSet (s := s) hset
      (rfl : (setCounts streamSet streamId bufferCount now).allocatedBufferWaterMark = _) key
    rw [getBufferForStreamAlone_found hreg hset hb ha hnow] at hok hexists ⊢
    split
    · exact ⟨hsync, hmark⟩
    rename_i hmax
    rw [if_neg hmax] at hok hexists
    split
    · rename_i hmore
      rw [if_pos hmore] at hexists
      exact absurd rfl hexists
    rename_i hless
    split
    · exact ⟨hsync, hmark⟩
    · rename_i halloc
      refine absurd ⟨hreg, by simpa using halloc, streamSet, bufferCount, attached, hset, hb, ha,
        not_le.mp hmax, ?_⟩ hnew
      cases noFreeBufferAtConsumer with
      | false => exact .inr (hnow.trans_le (not_lt.mp hless))
      | true => exact .inl rfl

/-- A second request, after the first buffer was released and thrown away by the consumer, finds
no memory. -/
theorem failed_request_counts_no_memory :
    let info : StreamInfo := ⟨1, 7, false, 4, true⟩
    let pass : Pass := ⟨fun _ ↦ true, true⟩
    let s₁ := (({} : State).registerStream info).2
    let s₂ := (s₁.getBufferForStreamAlone 1 ⟨7, false⟩ false true pass pass).2
    let s := (s₂.onBufferReleased 1 ⟨7, false⟩).2.2
    s.counts ⟨7, false⟩ 1 = some (0, 1) ∧
      (s.getBufferForStreamAlone 1 ⟨7, false⟩ true false pass pass).2.counts ⟨7, false⟩ 1 =
        s.synced 1 ⟨7, false⟩ true ⟨7, false⟩ 1 ∧
      (s.getBufferForStreamAlone 1 ⟨7, false⟩ true false pass pass).2.waterMark ⟨7, false⟩ =
        s.waterMark ⟨7, false⟩ := by
  intro info pass s₁ s₂ s
  refine ⟨by decide +kernel, failed_request_counts (by decide +kernel) (by decide +kernel) ?_
    ⟨7, false⟩ 1⟩
  exact fun h ↦ Bool.false_ne_true h.2.1

/-- The count of the attached buffers is lowered by a call that gets no buffer. -/
theorem failed_request_synced :
    ¬ ∀ (s : State) (streamId : ℤ) (streamSetKey : StreamSetKey)
      (noFreeBufferAtConsumer allocated : Bool) (first second : Pass),
      (s.getBufferForStreamAlone streamId streamSetKey noFreeBufferAtConsumer allocated first
          second).1 ≠ .OK →
        (s.getBufferForStreamAlone streamId streamSetKey noFreeBufferAtConsumer allocated first
            second).1 ≠ .ALREADY_EXISTS →
          ∀ key id, (s.getBufferForStreamAlone streamId streamSetKey noFreeBufferAtConsumer
            allocated first second).2.counts key id = s.counts key id := by
  intro h
  let pass : Pass := ⟨fun _ ↦ true, true⟩
  let s₁ := (({} : State).registerStream ⟨1, 7, false, 4, true⟩).2
  let s₂ := (s₁.getBufferForStreamAlone 1 ⟨7, false⟩ false true pass pass).2
  let s := (s₂.onBufferReleased 1 ⟨7, false⟩).2.2
  have hs := h s 1 ⟨7, false⟩ true false pass pass (by decide +kernel) (by decide +kernel)
    ⟨7, false⟩ 1
  exact absurd hs (by decide +kernel)

/-! ### A call that fails after its buffer was counted -/

def handedOut (s : State) (streamSetKey : StreamSetKey) (streamId : ℤ) : Option ℕ :=
  (s.mStreamSetMap.find? streamSetKey).bind fun streamSet ↦
    streamSet.handoutBufferCountMap.find? streamId

theorem handedOut_dropOther (s : State) (streamSetKey : StreamSetKey) (other : ℤ)
    (bufferFreed : Bool) (key : StreamSetKey) (id : ℤ) :
    (s.dropOther streamSetKey other bufferFreed).handedOut key id = s.handedOut key id := by
  rw [dropOther]
  split
  · rw [removeAttached]
    split
    · rfl
    rename_i streamSet hset
    split
    · rfl
    by_cases hkey : key = streamSetKey
    · subst hkey
      simp [handedOut, editSet, hset]
    · simp [handedOut, editSet, KeyedVector.find?_add_ne _ hkey]
  · rfl

theorem handedOut_freeSecond (s : State) (streamId : ℤ) (streamSetKey : StreamSetKey)
    (second : Pass) (key : StreamSetKey) (id : ℤ) :
    (s.freeSecond streamId streamSetKey second).2.handedOut key id = s.handedOut key id := by
  rw [freeSecond]
  split
  · rfl
  · exact handedOut_dropOther s streamSetKey _ second.bufferFreed key id
  · rfl

theorem handedOut_freeBoth (s : State) (streamId : ℤ) (streamSetKey : StreamSetKey)
    (first second : Pass) (key : StreamSetKey) (id : ℤ) :
    (s.freeBoth streamId streamSetKey first second).2.handedOut key id = s.handedOut key id := by
  rw [freeBoth]
  split
  · exact handedOut_freeSecond s streamId streamSetKey second key id
  · rfl
  · rw [handedOut_freeSecond, handedOut_dropOther]
  · rfl

/-- Whatever a call returns once it has a new buffer, that buffer stays counted as handed out. -/
theorem handedOut_of_allocates {streamId : ℤ} {streamSetKey : StreamSetKey}
    {noFreeBufferAtConsumer allocated : Bool}
    (h : s.Allocates streamId streamSetKey noFreeBufferAtConsumer allocated)
    (first second : Pass) :
    (s.getBufferForStreamAlone streamId streamSetKey noFreeBufferAtConsumer allocated first
        second).2.handedOut streamSetKey streamId =
      (s.handedOut streamSetKey streamId).map increment := by
  obtain ⟨hreg, rfl, streamSet, bufferCount, attached, hset, hb, ha, hmax, hless⟩ := h
  obtain ⟨now, hnow⟩ : ∃ now, (if noFreeBufferAtConsumer then bufferCount else attached) = now :=
    ⟨_, rfl⟩
  have hle : now ≤ bufferCount := by
    cases noFreeBufferAtConsumer with
    | false => exact hnow.symm.trans_le (hless.resolve_left Bool.false_ne_true)
    | true => exact hnow.symm.le
  rw [getBufferForStreamAlone_found hreg hset hb ha hnow, if_neg (not_le.mpr hmax),
    if_neg (not_lt.mpr hle), if_neg (by decide), handedOut_freeBoth]
  simp [handedOut, editSet, countNew, setCounts, hset, hb]

end State

end VirtualCamera.BufferManager
