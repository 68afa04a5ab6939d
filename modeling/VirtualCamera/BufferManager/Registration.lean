import VirtualCamera.BufferManager.Model

namespace VirtualCamera.BufferManager

open Library Library.Transition

/-! ### One stream set -/

/-- What a stream set says of its streams. -/
structure StreamSet.Ok (streamSet : StreamSet) (streamSetKey : StreamSetKey) : Prop where
  handout : ∀ id, id ∈ streamSet.handoutBufferCountMap.keys ↔ id ∈ streamSet.streamInfoMap.keys
  attached : ∀ id, id ∈ streamSet.attachedBufferCountMap.keys ↔ id ∈ streamSet.streamInfoMap.keys
  info : ∀ id info, streamSet.streamInfoMap.find? id = some info →
    info.streamId = id ∧ info.key = streamSetKey ∧ 0 < info.totalBufferCount ∧
      info.totalBufferCount ≤ streamSet.maxAllowedBufferCount
  max : streamSet.maxAllowedBufferCount ≤ kMaxBufferCount

namespace State

variable {s s' : State}

theorem ok_empty (streamSetKey : StreamSetKey) : StreamSet.Ok {} streamSetKey :=
  ⟨fun _ ↦ Iff.rfl, fun _ ↦ Iff.rfl, fun _ _ h ↦ (by cases h), Nat.zero_le _⟩

theorem valid_iff {streamInfo : StreamInfo} (h : valid streamInfo = true) :
    0 < streamInfo.totalBufferCount ∧ streamInfo.totalBufferCount ≤ kMaxBufferCount := by
  simp only [valid, Bool.and_eq_true, Bool.not_eq_true', Bool.or_eq_false_iff,
    decide_eq_false_iff_not] at h
  obtain ⟨⟨_, hmax, hzero⟩, _⟩ := h
  exact ⟨Nat.pos_of_ne_zero hzero, not_lt.mp hmax⟩

theorem ok_addStream {streamSet : StreamSet} {streamInfo : StreamInfo}
    (h : streamSet.Ok streamInfo.key) (hvalid : valid streamInfo = true) :
    (addStream streamSet streamInfo).Ok streamInfo.key := by
  obtain ⟨hpos, hmax⟩ := valid_iff hvalid
  have hle : streamSet.maxAllowedBufferCount ≤
      (addStream streamSet streamInfo).maxAllowedBufferCount ∧
        streamInfo.totalBufferCount ≤ (addStream streamSet streamInfo).maxAllowedBufferCount := by
    simp only [addStream]
    split <;> omega
  refine ⟨fun id ↦ ?_, fun id ↦ ?_, fun id info hi ↦ ?_, ?_⟩
  · simp only [addStream, KeyedVector.mem_keys_add, h.handout id]
  · simp only [addStream, KeyedVector.mem_keys_add, h.attached id]
  · simp only [addStream] at hi
    by_cases hid : id = streamInfo.streamId
    · rw [hid, KeyedVector.find?_add_self] at hi
      cases hi
      exact ⟨hid.symm, rfl, hpos, hle.2⟩
    · rw [KeyedVector.find?_add_ne _ hid] at hi
      obtain ⟨h₁, h₂, h₃, h₄⟩ := h.info id info hi
      exact ⟨h₁, h₂, h₃, h₄.trans hle.1⟩
  · have := h.max
    simp only [addStream]
    split <;> omega

theorem le_maxTotal {infoMap : KeyedVector ℤ StreamInfo} {info : StreamInfo}
    (h : info ∈ infoMap.values) : info.totalBufferCount ≤ maxTotal infoMap := by
  have hfold : ∀ (l : List StreamInfo) (n : ℕ), n ≤ l.foldl (fun maxAllowedBufferCount info ↦
      if info.totalBufferCount > maxAllowedBufferCount then info.totalBufferCount
      else maxAllowedBufferCount) n ∧ ∀ info ∈ l, info.totalBufferCount ≤
        l.foldl (fun maxAllowedBufferCount info ↦
          if info.totalBufferCount > maxAllowedBufferCount then info.totalBufferCount
          else maxAllowedBufferCount) n := by
    intro l
    induction l with
    | nil => exact fun n ↦ ⟨le_rfl, fun _ hm ↦ absurd hm List.not_mem_nil⟩
    | cons other l ih =>
      intro n
      obtain ⟨hn, hl⟩ := ih (if other.totalBufferCount > n then other.totalBufferCount else n)
      have hstep : n ≤ (if other.totalBufferCount > n then other.totalBufferCount else n) ∧
          other.totalBufferCount ≤
            (if other.totalBufferCount > n then other.totalBufferCount else n) := by
        split <;> omega
      refine ⟨hstep.1.trans hn, fun info hm ↦ ?_⟩
      obtain rfl | hm := List.mem_cons.mp hm
      · exact hstep.2.trans hn
      · exact hl info hm
  exact (hfold infoMap.values 0).2 info h

theorem maxTotal_le {infoMap : KeyedVector ℤ StreamInfo} {n : ℕ}
    (h : ∀ info ∈ infoMap.values, info.totalBufferCount ≤ n) : maxTotal infoMap ≤ n := by
  have hfold : ∀ (l : List StreamInfo) (m : ℕ), m ≤ n →
      (∀ info ∈ l, info.totalBufferCount ≤ n) → l.foldl (fun maxAllowedBufferCount info ↦
        if info.totalBufferCount > maxAllowedBufferCount then info.totalBufferCount
        else maxAllowedBufferCount) m ≤ n := by
    intro l
    induction l with
    | nil => exact fun _ hm _ ↦ hm
    | cons other l ih =>
      intro m hm hl
      refine ih _ ?_ fun info hi ↦ hl info (List.mem_cons_of_mem _ hi)
      have := hl other List.mem_cons_self
      dsimp only
      split <;> omega
  exact hfold infoMap.values 0 (Nat.zero_le n) h

theorem ok_removeStream {streamSet : StreamSet} {streamSetKey : StreamSetKey}
    (h : streamSet.Ok streamSetKey) (streamId : ℤ) :
    (removeStream streamSet streamId).Ok streamSetKey := by
  have hinfo : ∀ id info, (streamSet.streamInfoMap.removeItem streamId).find? id = some info →
      streamSet.streamInfoMap.find? id = some info := by
    intro id info hi
    by_cases hid : id = streamId
    · rw [hid, KeyedVector.find?_removeItem_self] at hi
      cases hi
    · rwa [KeyedVector.find?_removeItem_ne _ hid] at hi
  refine ⟨fun id ↦ ?_, fun id ↦ ?_, fun id info hi ↦ ?_, maxTotal_le fun info hm ↦ ?_⟩
  · simp only [removeStream, KeyedVector.mem_keys_removeItem, h.handout id]
  · simp only [removeStream, KeyedVector.mem_keys_removeItem, h.attached id]
  · obtain ⟨h₁, h₂, h₃, _⟩ := h.info id info (hinfo id info hi)
    exact ⟨h₁, h₂, h₃, le_maxTotal ((KeyedVector.mem_values _).mpr ⟨id, hi⟩)⟩
  · obtain ⟨id, hi⟩ := (KeyedVector.mem_values _).mp hm
    exact (h.info id info (hinfo id info hi)).2.2.2.trans h.max

/-! ### Counts -/

/-- The counts of one stream change in a stream set, and nothing else but the water mark. -/
structure Recount (streamSet streamSet' : StreamSet) (id : ℤ) (bufferCount attached : ℕ) :
    Prop where
  info : streamSet'.streamInfoMap = streamSet.streamInfoMap
  max : streamSet'.maxAllowedBufferCount = streamSet.maxAllowedBufferCount
  handout : streamSet'.handoutBufferCountMap.find? id = some bufferCount
  attached : streamSet'.attachedBufferCountMap.find? id = some attached
  others : ∀ other, other ≠ id →
    streamSet'.handoutBufferCountMap.find? other = streamSet.handoutBufferCountMap.find? other ∧
      streamSet'.attachedBufferCountMap.find? other =
        streamSet.attachedBufferCountMap.find? other

def counts (s : State) (streamSetKey : StreamSetKey) (streamId : ℤ) : Option (ℕ × ℕ) :=
  match s.mStreamSetMap.find? streamSetKey with
  | none => none
  | some streamSet =>
    match streamSet.handoutBufferCountMap.find? streamId,
      streamSet.attachedBufferCountMap.find? streamId with
    | some bufferCount, some attachedBufferCount => some (bufferCount, attachedBufferCount)
    | _, _ => none

theorem counts_eq {streamSetKey : StreamSetKey} {streamSet : StreamSet} {streamId : ℤ}
    {bufferCount attached : ℕ} (hset : s.mStreamSetMap.find? streamSetKey = some streamSet)
    (hb : streamSet.handoutBufferCountMap.find? streamId = some bufferCount)
    (ha : streamSet.attachedBufferCountMap.find? streamId = some attached) :
    s.counts streamSetKey streamId = some (bufferCount, attached) := by
  simp only [counts, hset, hb, ha]

/-- The counts of at most one stream change, as `R` says of the counts before and after and of
the most that may be handed out. -/
def Recounts (R : ℕ × ℕ → ℕ × ℕ → ℕ → Prop) (s s' : State) : Prop :=
  s'.mStreamMap = s.mStreamMap ∧ s'.generation = s.generation ∧
    (s'.mStreamSetMap = s.mStreamSetMap ∨ ∃ streamSetKey streamSet streamSet' id old new,
      s.mStreamSetMap.find? streamSetKey = some streamSet ∧
      s.counts streamSetKey id = some old ∧ Recount streamSet streamSet' id new.1 new.2 ∧
      s'.mStreamSetMap = s.mStreamSetMap.add streamSetKey streamSet' ∧
      R old new streamSet.maxAllowedBufferCount)

variable {R R' : ℕ × ℕ → ℕ × ℕ → ℕ → Prop}

theorem Recounts.of_eq (hsets : s'.mStreamSetMap = s.mStreamSetMap)
    (hmap : s'.mStreamMap = s.mStreamMap) (hgen : s'.generation = s.generation) :
    Recounts R s s' :=
  ⟨hmap, hgen, .inl hsets⟩

theorem Recounts.mono (h : Recounts R s s') (hR : ∀ old new n, R old new n → R' old new n) :
    Recounts R' s s' := by
  obtain ⟨hmap, hgen, hsame | ⟨key, set, set', id, old, new, h₁, h₂, h₃, h₄, h₅⟩⟩ := h
  · exact ⟨hmap, hgen, .inl hsame⟩
  · exact ⟨hmap, hgen, .inr ⟨key, set, set', id, old, new, h₁, h₂, h₃, h₄, hR _ _ _ h₅⟩⟩

theorem recount_setCounts {streamSet : StreamSet} {id : ℤ} {bufferCount attached waterMark : ℕ} :
    Recount streamSet { setCounts streamSet id bufferCount attached with
      allocatedBufferWaterMark := waterMark } id bufferCount attached :=
  ⟨rfl, rfl, KeyedVector.find?_add_self _ _ _, KeyedVector.find?_add_self _ _ _,
    fun _ h ↦ ⟨KeyedVector.find?_add_ne _ h _, KeyedVector.find?_add_ne _ h _⟩⟩

theorem recounts_editSet {streamSetKey : StreamSetKey} {streamSet streamSet' : StreamSet}
    {id : ℤ} {bufferCount attached bufferCount' attached' : ℕ}
    (hset : s.mStreamSetMap.find? streamSetKey = some streamSet)
    (hb : streamSet.handoutBufferCountMap.find? id = some bufferCount)
    (ha : streamSet.attachedBufferCountMap.find? id = some attached)
    (h : Recount streamSet streamSet' id bufferCount' attached')
    (hR : R (bufferCount, attached) (bufferCount', attached') streamSet.maxAllowedBufferCount) :
    Recounts R s (s.editSet streamSetKey streamSet') :=
  ⟨rfl, rfl, .inr ⟨streamSetKey, streamSet, streamSet', id, _, (bufferCount', attached'), hset,
    counts_eq hset hb ha, h, rfl, hR⟩⟩

/-! ### What a call does to the counts -/

/-- `getBufferForStream` first corrects the count of the attached buffers, then counts one more
buffer as handed out, and as attached when it is new. -/
def Gets (old new : ℕ × ℕ) (n : ℕ) : Prop :=
  ∃ attached, (attached = old.1 ∨ attached = old.2) ∧
    (new = (old.1, attached) ∨
      old.1 < n ∧ old.1 < attached ∧ new = (increment old.1, attached) ∨
      old.1 < n ∧ attached ≤ old.1 ∧ new = (increment old.1, increment attached))

/-- Freeing leaves the sets alone until the lock is let go. -/
theorem Recounts.freeAgain (h : Recounts R s s') (streamId : ℤ) (streamSetKey : StreamSetKey)
    (alive : ℤ → Bool) : Recounts R s (s'.freeAgain streamId streamSetKey alive).2 := by
  simp only [State.freeAgain]
  split <;> exact h

theorem Recounts.free (h : Recounts R s s') (streamId : ℤ) (streamSetKey : StreamSetKey)
    (alive : ℤ → Bool) : Recounts R s (s'.free streamId streamSetKey alive).2 := by
  simp only [State.free]
  split
  · exact h.freeAgain streamId streamSetKey alive
  · exact h
  · exact h
  · exact h

theorem recounts_getBufferForStream (s : State) (streamId : ℤ) (streamSetKey : StreamSetKey)
    (noFreeBufferAtConsumer allocated : Bool) (alive : ℤ → Bool) :
    Recounts Gets s (s.getBufferForStream streamId streamSetKey noFreeBufferAtConsumer allocated
      alive).2 := by
  simp only [getBufferForStream]
  split
  · exact .of_eq rfl rfl rfl
  split
  · exact .of_eq rfl rfl rfl
  rename_i streamSet hset
  split
  · rename_i bufferCount attached hb ha
    have hnow : (if noFreeBufferAtConsumer = true then bufferCount else attached) = bufferCount ∨
        (if noFreeBufferAtConsumer = true then bufferCount else attached) = attached := by
      split
      · exact .inl rfl
      · exact .inr rfl
    generalize (if noFreeBufferAtConsumer = true then bufferCount else attached) = now at hnow ⊢
    split
    · exact recounts_editSet hset hb ha recount_setCounts ⟨now, hnow, .inl rfl⟩
    rename_i hmax
    split
    · rename_i hmore
      exact recounts_editSet hset hb ha recount_setCounts
        ⟨now, hnow, .inr (.inl ⟨not_le.mp hmax, hmore, rfl⟩)⟩
    rename_i hless
    split
    · exact recounts_editSet hset hb ha recount_setCounts ⟨now, hnow, .inl rfl⟩
    · refine Recounts.free ?_ streamId streamSetKey alive
      exact recounts_editSet hset hb ha recount_setCounts
        ⟨now, hnow, .inr (.inr ⟨not_le.mp hmax, not_lt.mp hless, rfl⟩)⟩
  · exact .of_eq rfl rfl rfl

theorem recounts_removeAttached {streamSetKey : StreamSetKey} (streamId : ℤ)
    (hok : ∀ streamSet, s.mStreamSetMap.find? streamSetKey = some streamSet →
      streamSet.Ok streamSetKey) :
    Recounts (fun old new _ ↦ s.counts streamSetKey streamId = some old ∧
      new = (old.1, decrement old.2)) s (s.removeAttached streamId streamSetKey) := by
  simp only [removeAttached]
  split
  · exact .of_eq rfl rfl rfl
  rename_i streamSet hset
  split
  · exact .of_eq rfl rfl rfl
  rename_i attached ha
  have hkey : streamId ∈ streamSet.handoutBufferCountMap.keys :=
    ((hok streamSet hset).handout streamId).mpr
      (((hok streamSet hset).attached streamId).mp ((KeyedVector.mem_keys _).mpr ⟨attached, ha⟩))
  obtain ⟨bufferCount, hb⟩ := (KeyedVector.mem_keys _).mp hkey
  have hrecount : Recount streamSet { streamSet with
      attachedBufferCountMap := streamSet.attachedBufferCountMap.add streamId
        (decrement attached) } streamId bufferCount (decrement attached) :=
    ⟨rfl, rfl, hb, KeyedVector.find?_add_self _ _ _,
      fun _ h ↦ ⟨rfl, KeyedVector.find?_add_ne _ h _⟩⟩
  exact recounts_editSet hset hb ha hrecount ⟨counts_eq hset hb ha, rfl⟩

theorem recounts_onBufferReleased (s : State) (streamId : ℤ) (streamSetKey : StreamSetKey) :
    Recounts (fun old new _ ↦ s.checkIfStreamRegisteredLocked streamId streamSetKey = true ∧
      s.counts streamSetKey streamId = some old ∧ new = (decrement old.1, old.2)) s
      (s.onBufferReleased streamId streamSetKey).2.2 := by
  simp only [onBufferReleased]
  split
  · exact .of_eq rfl rfl rfl
  rename_i hreg
  split
  · exact .of_eq rfl rfl rfl
  rename_i streamSet hset
  split
  · rename_i bufferCount attached hb ha
    exact recounts_editSet hset hb ha recount_setCounts
      ⟨by simpa using hreg, counts_eq hset hb ha, rfl⟩
  · exact .of_eq rfl rfl rfl

theorem recounts_onBuffersRemoved (s : State) (streamId : ℤ) (streamSetKey : StreamSetKey)
    (count : ℕ) : Recounts (fun old new _ ↦ count ≤ old.1 ∧ count ≤ old.2 ∧
      new = (old.1 - count, old.2 - count)) s
      (s.onBuffersRemoved streamId streamSetKey count).2 := by
  simp only [onBuffersRemoved]
  split
  · exact .of_eq rfl rfl rfl
  split
  · exact .of_eq rfl rfl rfl
  rename_i streamSet hset
  split
  · rename_i bufferCount attached hb ha
    split
    · exact .of_eq rfl rfl rfl
    split
    · exact .of_eq rfl rfl rfl
    exact recounts_editSet hset hb ha recount_setCounts
      ⟨not_lt.mp ‹_›, not_lt.mp ‹_›, rfl⟩
  · exact .of_eq rfl rfl rfl

/-! ### Registered streams -/

def In (s : State) (streamSetKey : StreamSetKey) (streamId : ℤ) : Prop :=
  ∃ streamSet, s.mStreamSetMap.find? streamSetKey = some streamSet ∧
    streamId ∈ streamSet.streamInfoMap.keys

/-- A stream belongs to one set at most, the streams that are known are those of the sets, and
the sets are in order. -/
structure Tidy (s : State) : Prop where
  ok : ∀ streamSetKey streamSet, s.mStreamSetMap.find? streamSetKey = some streamSet →
    streamSet.Ok streamSetKey
  unique : ∀ streamId key key', s.In key streamId → s.In key' streamId → key = key'
  mapped : ∀ streamId, streamId ∈ s.mStreamMap.keys ↔ ∃ key, s.In key streamId

theorem in_editSet (s : State) (key : StreamSetKey) (streamSet : StreamSet) (key' : StreamSetKey)
    (streamId : ℤ) : (s.editSet key streamSet).In key' streamId ↔
      key' = key ∧ streamId ∈ streamSet.streamInfoMap.keys ∨
        key' ≠ key ∧ s.In key' streamId := by
  unfold In editSet
  by_cases h : key' = key
  · subst h
    simp
  · rw [KeyedVector.find?_add_ne _ h]
    simp [h]

theorem ok_editSet (h : s.Tidy) {key : StreamSetKey} {streamSet : StreamSet}
    (hok : streamSet.Ok key) : ∀ key' streamSet',
      (s.editSet key streamSet).mStreamSetMap.find? key' = some streamSet' →
        streamSet'.Ok key' := by
  intro key' streamSet' hf
  unfold editSet at hf
  by_cases hk : key' = key
  · rw [hk, KeyedVector.find?_add_self] at hf
    cases hf
    exact hk ▸ hok
  · rw [KeyedVector.find?_add_ne _ hk] at hf
    exact h.ok key' streamSet' hf

theorem Tidy.recounts (h : s.Tidy) (hr : Recounts R s s') : s'.Tidy := by
  obtain ⟨hmap, -, hsame | ⟨key, streamSet, streamSet', id, old, new, hset, hold, hnew, hedit, -⟩⟩ :=
    hr
  · have hin : ∀ key id, s'.In key id ↔ s.In key id := fun _ _ ↦ by
      unfold In
      rw [hsame]
    refine ⟨?_, fun id key key' ↦ ?_, fun id ↦ ?_⟩
    · rw [hsame]
      exact h.ok
    · rw [hin, hin]
      exact h.unique id key key'
    · rw [hmap, h.mapped]
      exact exists_congr fun key ↦ (hin key id).symm
  · have hok := h.ok key streamSet hset
    obtain ⟨⟨bufferCount, hb⟩, ⟨attached, ha⟩⟩ :
        (∃ v, streamSet.handoutBufferCountMap.find? id = some v) ∧
          ∃ v, streamSet.attachedBufferCountMap.find? id = some v := by
      simp only [counts, hset] at hold
      split at hold
      · exact ⟨⟨_, ‹_›⟩, ⟨_, ‹_›⟩⟩
      · cases hold
    -- the counts are those of the same streams
    have hkeys : (∀ other, other ∈ streamSet'.handoutBufferCountMap.keys ↔
        other ∈ streamSet.handoutBufferCountMap.keys) ∧
          ∀ other, other ∈ streamSet'.attachedBufferCountMap.keys ↔
            other ∈ streamSet.attachedBufferCountMap.keys := by
      constructor <;>
      · intro other
        rw [KeyedVector.mem_keys, KeyedVector.mem_keys]
        by_cases ho : other = id
        · subst ho
          simp [hnew.handout, hnew.attached, hb, ha]
        · simp [hnew.others other ho]
    have hok' : streamSet'.Ok key := by
      refine ⟨fun other ↦ ?_, fun other ↦ ?_, ?_, ?_⟩
      · rw [hkeys.1, hok.handout, hnew.info]
      · rw [hkeys.2, hok.attached, hnew.info]
      · rw [hnew.info, hnew.max]
        exact hok.info
      · rw [hnew.max]
        exact hok.max
    have hin : ∀ key' other, s'.In key' other ↔ s.In key' other := by
      intro key' other
      have hs' : s'.In key' other ↔ (s.editSet key streamSet').In key' other := by
        unfold In
        rw [hedit]
        rfl
      rw [hs', in_editSet]
      by_cases hk : key' = key
      · subst hk
        simp [In, hset, hnew.info]
      · simp [hk]
    refine ⟨?_, fun id key key' ↦ ?_, fun id ↦ ?_⟩
    · rw [hedit]
      exact ok_editSet h hok'
    · rw [hin, hin]
      exact h.unique id key key'
    · rw [hmap, h.mapped]
      exact exists_congr fun key ↦ (hin key id).symm

/-- The stream is in another set already, with which the new one shares a part of its key. -/
def Overlaps (s : State) (streamInfo : StreamInfo) : Prop :=
  valid streamInfo = true ∧ ∃ entry ∈ s.mStreamSetMap.entries,
    streamInfo.streamId ∈ entry.2.streamInfoMap.keys ∧ entry.1 ≠ streamInfo.key ∧
      (entry.1.id = streamInfo.streamSetId ∨ entry.1.isMultiRes = streamInfo.isMultiRes)

instance (s : State) (streamInfo : StreamInfo) : Decidable (s.Overlaps streamInfo) := by
  unfold Overlaps
  infer_instance

/-- A stream that is not refused is in no other set. -/
theorem not_in_other (h : s.Tidy) {streamInfo : StreamInfo} (hvalid : valid streamInfo = true)
    (helsewhere : s.registeredElsewhere streamInfo = false) (hover : ¬ s.Overlaps streamInfo)
    {key : StreamSetKey} (hin : s.In key streamInfo.streamId) : key = streamInfo.key := by
  by_contra hne
  obtain ⟨streamSet, hset, hkey⟩ := hin
  obtain ⟨other, ho⟩ := (KeyedVector.mem_keys _).mp hkey
  have hother := ((h.ok key streamSet hset).info _ other ho).2.1
  refine hover ⟨hvalid, ⟨key, streamSet⟩, (KeyedVector.mem_entries _).mpr hset, hkey, hne, ?_⟩
  unfold registeredElsewhere at helsewhere
  rw [List.any_eq_false] at helsewhere
  have := helsewhere streamSet ((KeyedVector.mem_values _).mpr ⟨key, hset⟩)
  simp only [ho] at this
  rw [← hother]
  simp only [StreamInfo.key]
  by_contra hc
  rw [not_or] at hc
  exact this (by simpa using hc)

theorem Tidy.registerStream (h : s.Tidy) {streamInfo : StreamInfo}
    (hover : ¬ s.Overlaps streamInfo) : (s.registerStream streamInfo).2.Tidy := by
  simp only [State.registerStream]
  split
  · exact h
  rename_i hvalid
  split
  · exact h
  rename_i helsewhere
  rw [Bool.not_eq_true, Bool.not_eq_false'] at hvalid
  split
  · exact h
  have honly : ∀ key, s.In key streamInfo.streamId → key = streamInfo.key :=
    fun key hk ↦ not_in_other h hvalid (by simpa using helsewhere) hover hk
  obtain ⟨hok, hkeys⟩ : (s.setFor streamInfo.key).1.Ok streamInfo.key ∧
      ∀ id, id ∈ (s.setFor streamInfo.key).1.streamInfoMap.keys ↔ s.In streamInfo.key id := by
    unfold setFor In
    split
    · rename_i streamSet hset
      exact ⟨h.ok _ _ hset, fun id ↦ by simp [hset]⟩
    · rename_i hset
      exact ⟨ok_empty _, fun id ↦ by simp [hset, KeyedVector.mem_keys, KeyedVector.find?_empty]⟩
  let next := s.editSet streamInfo.key (addStream (s.setFor streamInfo.key).1 streamInfo)
  have hin : ∀ key id, next.In key id ↔
      s.In key id ∨ key = streamInfo.key ∧ id = streamInfo.streamId := by
    intro key id
    rw [in_editSet]
    simp only [addStream, KeyedVector.mem_keys_add, hkeys]
    by_cases hk : key = streamInfo.key
    · subst hk
      simp [or_comm]
    · simp [hk]
  refine ⟨ok_editSet h (ok_addStream hok hvalid), fun id key key' hk hk' ↦ ?_, fun id ↦ ?_⟩
  · obtain hk | ⟨hkey, hid⟩ := (hin key id).mp hk <;>
      obtain hk' | ⟨hkey', hid'⟩ := (hin key' id).mp hk'
    · exact h.unique id key key' hk hk'
    · exact (honly key (hid' ▸ hk)).trans hkey'.symm
    · exact hkey.trans (honly key' (hid ▸ hk')).symm
    · exact hkey.trans hkey'.symm
  · rw [KeyedVector.mem_keys_add, h.mapped]
    constructor
    · intro hcond
      obtain rfl | ⟨key, hk⟩ := hcond
      · exact ⟨_, (hin _ _).mpr (.inr ⟨rfl, rfl⟩)⟩
      · exact ⟨key, (hin _ _).mpr (.inl hk)⟩
    · intro hcond
      obtain ⟨key, hk⟩ := hcond
      obtain hk | ⟨_, hid⟩ := (hin key id).mp hk
      · exact .inr ⟨key, hk⟩
      · exact .inl hid

theorem Tidy.unregisterStream (h : s.Tidy) (streamId : ℤ) (streamSetKey : StreamSetKey) :
    (s.unregisterStream streamId streamSetKey).2.Tidy := by
  simp only [State.unregisterStream]
  split
  · exact h
  rename_i hreg
  split
  · exact ⟨h.ok, h.unique, h.mapped⟩
  rename_i streamSet hset
  have hstream : s.In streamSetKey streamId := by
    simp only [checkIfStreamRegisteredLocked, hset] at hreg
    cases hf : streamSet.streamInfoMap.find? streamId with
    | none => simp [hf] at hreg
    | some info => exact ⟨streamSet, hset, (KeyedVector.mem_keys _).mpr ⟨info, hf⟩⟩
  let next := s.editSet streamSetKey (removeStream streamSet streamId)
  have hkeys : ∀ id, id ∈ (removeStream streamSet streamId).streamInfoMap.keys ↔
      id ≠ streamId ∧ s.In streamSetKey id := by
    intro id
    simp only [removeStream, KeyedVector.mem_keys_removeItem, In, hset, Option.some.injEq,
      exists_eq_left']
  have hin : ∀ key id, next.In key id ↔ s.In key id ∧ id ≠ streamId := by
    intro key id
    rw [in_editSet, hkeys]
    constructor
    · intro hcond
      obtain ⟨rfl, hne, hk⟩ | ⟨hk, hs⟩ := hcond
      · exact ⟨hk, hne⟩
      · exact ⟨hs, fun hc ↦ hk (h.unique id key streamSetKey hs (hc ▸ hstream))⟩
    · intro hcond
      obtain ⟨hs, hne⟩ := hcond
      by_cases hk : key = streamSetKey
      · exact .inl ⟨hk, hne, hk ▸ hs⟩
      · exact .inr ⟨hk, hs⟩
  have hok := ok_editSet h (ok_removeStream (h.ok streamSetKey streamSet hset) streamId)
  have hmapped : ∀ id, id ∈ (s.mStreamMap.removeItem streamId).keys ↔ ∃ key, next.In key id := by
    intro id
    rw [KeyedVector.mem_keys_removeItem, h.mapped]
    constructor
    · intro hcond
      obtain ⟨hne, key, hk⟩ := hcond
      exact ⟨key, (hin key id).mpr ⟨hk, hne⟩⟩
    · intro hcond
      obtain ⟨key, hk⟩ := hcond
      obtain ⟨hk, hne⟩ := (hin key id).mp hk
      exact ⟨hne, key, hk⟩
  have hunique : ∀ id key key', next.In key id → next.In key' id → key = key' :=
    fun id key key' hk hk' ↦ h.unique id key key' ((hin _ _).mp hk).1 ((hin _ _).mp hk').1
  split
  · rename_i hempty
    rw [Bool.and_eq_true, decide_eq_true_eq, decide_eq_true_eq] at hempty
    have hnone := (KeyedVector.size_eq_zero _).mp hempty.2
    have hgone : ∀ key id, In { next with
        mStreamSetMap := next.mStreamSetMap.removeItem streamSetKey } key id ↔ next.In key id := by
      intro key id
      unfold In
      by_cases hk : key = streamSetKey
      · subst hk
        constructor
        · intro hcond
          obtain ⟨streamSet', hs', _⟩ := hcond
          simp at hs'
        · intro hcond
          obtain ⟨streamSet', hs', hid⟩ := hcond
          simp only [next, editSet, KeyedVector.find?_add_self, Option.some.injEq] at hs'
          exact absurd (hs' ▸ hid) (hnone id)
      · rw [KeyedVector.find?_removeItem_ne _ hk]
    refine ⟨fun key streamSet' hs' ↦ ?_, fun id key key' hk hk' ↦ ?_, fun id ↦ ?_⟩
    · by_cases hk : key = streamSetKey
      · rw [hk] at hs'
        simp at hs'
      · rw [KeyedVector.find?_removeItem_ne _ hk] at hs'
        exact hok key streamSet' hs'
    · exact hunique id key key' ((hgone _ _).mp hk) ((hgone _ _).mp hk')
    · exact (hmapped id).trans (exists_congr fun key ↦ (hgone key id).symm)
  · exact ⟨hok, hunique, hmapped⟩

theorem Tidy.takeOff (h : s.Tidy) (freeing : Freeing) : (s.takeOff freeing).Tidy := by
  simp only [State.takeOff]
  split
  · exact ⟨h.ok, h.unique, h.mapped⟩
  · exact h.recounts (recounts_removeAttached _ fun streamSet hs ↦ h.ok _ streamSet hs)

theorem Tidy.detached (h : s.Tidy) (i : ℕ) (freeing : Freeing) (bufferFreed : Bool)
    (alive : ℤ → Bool) : (s.detached i freeing bufferFreed alive).Tidy := by
  have hgone : Tidy { s with freeing := s.freeing.eraseIdx i } := ⟨h.ok, h.unique, h.mapped⟩
  have hfree : ∀ t : State, t.Tidy → Tidy (if freeing.again then t
      else (t.freeAgain freeing.streamId freeing.streamSetKey alive).2) := by
    intro t ht
    split
    · exact ht
    · exact ht.recounts (R := fun _ _ _ ↦ True)
        (Recounts.freeAgain (.of_eq rfl rfl rfl) freeing.streamId freeing.streamSetKey alive)
  simp only [State.detached]
  refine hfree _ ?_
  split
  · exact hgone.takeOff freeing
  · exact hgone

/-- No stream is registered with a set while it is in another one that shares a part of the
key. -/
def Separate (s : State) : Label → Prop
  | .registerStream streamInfo => ¬ s.Overlaps streamInfo
  | _ => True

instance (s : State) : (l : Label) → Decidable (s.Separate l)
  | .registerStream streamInfo => inferInstanceAs (Decidable (¬ s.Overlaps streamInfo))
  | .unregisterStream _ _ | .getBufferForStream _ _ _ _ _ | .detached _ _ _
  | .onBufferReleased _ _ | .onBuffersRemoved _ _ _ | .notifyBufferRemoved _ _ => isTrue trivial

theorem Tidy.step {l : Label} (hs : State.step s l = some s') (hsep : s.Separate l)
    (h : s.Tidy) : s'.Tidy := by
  cases l with
  | registerStream streamInfo =>
    cases hs
    exact h.registerStream hsep
  | unregisterStream streamId streamSetKey =>
    cases hs
    exact h.unregisterStream streamId streamSetKey
  | getBufferForStream streamId streamSetKey noFreeBufferAtConsumer allocated alive =>
    cases hs
    exact h.recounts (recounts_getBufferForStream s streamId streamSetKey _ allocated alive)
  | detached i bufferFreed alive =>
    obtain ⟨freeing, _, rfl⟩ := Option.map_eq_some_iff.mp hs
    exact h.detached i freeing bufferFreed alive
  | onBufferReleased streamId streamSetKey =>
    cases hs
    exact h.recounts (recounts_onBufferReleased s streamId streamSetKey)
  | onBuffersRemoved streamId streamSetKey count =>
    cases hs
    exact h.recounts (recounts_onBuffersRemoved s streamId streamSetKey count)
  | notifyBufferRemoved streamId streamSetKey =>
    cases hs
    exact h.recounts (recounts_removeAttached _ fun streamSet hset ↦ h.ok _ streamSet hset)

theorem tidy_create : Tidy {} :=
  ⟨fun _ _ h ↦ (by cases h), fun _ _ _ ⟨_, h, _⟩ ↦ (by cases h),
    fun _ ↦ ⟨fun h ↦ absurd h List.not_mem_nil, fun ⟨_, _, h, _⟩ ↦ (by cases h)⟩⟩

theorem tidy_of_reachable (h : Reachable (restrict Step Separate) {} s) : s.Tidy :=
  h.invariant (P := Tidy) (fun _ _ _ hs ht ↦ ht.step hs.1 hs.2) tidy_create

/-- The streams that are known are those of the stream sets, each in one set, with its counts
there. -/
structure Registered (s : State) : Prop where
  unique : ∀ streamId key key', s.In key streamId → s.In key' streamId → key = key'
  mapped : ∀ streamId, streamId ∈ s.mStreamMap.keys ↔ ∃ key, s.In key streamId
  counted : ∀ key streamId, s.In key streamId ↔ ∃ counts, s.counts key streamId = some counts

theorem Tidy.counted (h : s.Tidy) (key : StreamSetKey) (streamId : ℤ) :
    s.In key streamId ↔ ∃ counts, s.counts key streamId = some counts := by
  unfold In State.counts
  cases hset : s.mStreamSetMap.find? key with
  | none => simp
  | some streamSet =>
    have hok := h.ok key streamSet hset
    have hhandout := hok.handout streamId
    have hattached := hok.attached streamId
    rw [KeyedVector.mem_keys] at hhandout hattached
    simp only [Option.some.injEq, exists_eq_left']
    rw [← hhandout]
    cases hb : streamSet.handoutBufferCountMap.find? streamId with
    | none => simp
    | some bufferCount =>
      obtain ⟨attached, ha⟩ := hattached.mpr (hhandout.mp ⟨bufferCount, hb⟩)
      simp [ha]

theorem streams_registered (h : Reachable (restrict Step Separate) {} s) : s.Registered :=
  have ht := tidy_of_reachable h
  ⟨ht.unique, ht.mapped, ht.counted⟩

/-- A stream is refused by a set that differs in both parts of the key, registered again after it
was unregistered, and shares its set with another. -/
theorem streams_registered_shared :
    ∃ s, Reachable (restrict Step Separate) {} s ∧ s.Registered ∧ s.mStreamMap.keys = [1, 2] ∧
      s.mStreamSetMap.keys = [⟨9, true⟩] := by
  obtain ⟨s, he, hf⟩ := Option.map_eq_some_iff.mp (show
    (exec (guarded step Separate) {} [.registerStream ⟨1, 7, false, 4, true⟩,
      .registerStream ⟨1, 9, true, 4, true⟩, .unregisterStream 1 ⟨7, false⟩,
      .registerStream ⟨1, 9, true, 4, true⟩, .registerStream ⟨2, 9, true, 8, true⟩]).map
        (fun s ↦ (s.mStreamMap.keys, s.mStreamSetMap.keys)) =
          some ([1, 2], [⟨9, true⟩]) by decide +kernel)
  simp only [Prod.mk.injEq] at hf
  have hs : Reachable (restrict Step Separate) {} s := ⟨_, run_restrict_of_exec he⟩
  exact ⟨s, hs, streams_registered hs, hf.1, hf.2⟩

/-- The same stream is registered with two sets that differ in their ids only. -/
theorem not_streams_registered_twice : ¬ ∀ s, Reachable Step {} s → s.Registered := by
  intro h
  obtain ⟨s, hs, hf⟩ := exists_reachable_of_exec (s := {})
    (f := fun s : State ↦ ((s.mStreamSetMap.find? ⟨7, false⟩).map (·.streamInfoMap.keys),
      (s.mStreamSetMap.find? ⟨9, false⟩).map (·.streamInfoMap.keys)))
    (b := (some [1], some [1]))
    [.registerStream ⟨1, 7, false, 4, true⟩, .registerStream ⟨1, 9, false, 4, true⟩]
    (show (exec step _ _).map _ = _ by decide +kernel)
  simp only [Prod.mk.injEq, Option.map_eq_some_iff] at hf
  obtain ⟨⟨first, hfirst, hin⟩, second, hsecond, hin'⟩ := hf
  have := (h s hs).unique 1 ⟨7, false⟩ ⟨9, false⟩ ⟨first, hfirst, hin ▸ List.mem_cons_self⟩
    ⟨second, hsecond, hin' ▸ List.mem_cons_self⟩
  cases this

end State

end VirtualCamera.BufferManager
