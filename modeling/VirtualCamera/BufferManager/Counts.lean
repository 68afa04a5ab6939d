import VirtualCamera.BufferManager.Registration

namespace VirtualCamera.BufferManager

open Library Library.Transition

namespace State

variable {s s' : State}

/-! ### Nothing is looked up in vain -/

theorem Tidy.found (h : s.Tidy) {streamId : ℤ} {streamSetKey : StreamSetKey}
    (hreg : s.checkIfStreamRegisteredLocked streamId streamSetKey = true) :
    ∃ streamSet bufferCount attached, s.mStreamSetMap.find? streamSetKey = some streamSet ∧
      streamSet.handoutBufferCountMap.find? streamId = some bufferCount ∧
      streamSet.attachedBufferCountMap.find? streamId = some attached := by
  unfold checkIfStreamRegisteredLocked at hreg
  split at hreg
  · cases hreg
  rename_i streamSet hset
  split at hreg
  · cases hreg
  rename_i info hinfo
  have hin : streamId ∈ streamSet.streamInfoMap.keys := (KeyedVector.mem_keys _).mpr ⟨info, hinfo⟩
  have hok := h.ok streamSetKey streamSet hset
  obtain ⟨bufferCount, hb⟩ := (KeyedVector.mem_keys _).mp ((hok.handout streamId).mpr hin)
  obtain ⟨attached, ha⟩ := (KeyedVector.mem_keys _).mp ((hok.attached streamId).mpr hin)
  exact ⟨streamSet, bufferCount, attached, hset, hb, ha⟩

theorem findOther_spec {streamSet : StreamSet} (streamId : ℤ) {l : List StreamInfo}
    (hl : ∀ info ∈ l, (∃ n, streamSet.handoutBufferCountMap.find? info.streamId = some n) ∧
      ∃ n, streamSet.attachedBufferCountMap.find? info.streamId = some n) :
    ∃ other, findOther streamSet streamId l = some other ∧
      ∀ id, other = some id → ∃ info ∈ l, info.streamId = id := by
  induction l with
  | nil => exact ⟨none, rfl, fun _ h ↦ (by cases h)⟩
  | cons info l ih =>
    obtain ⟨other, ho, hid⟩ := ih fun info hi ↦ hl info (List.mem_cons_of_mem _ hi)
    have hskip : ∀ id, other = some id → ∃ info' ∈ info :: l, info'.streamId = id := by
      intro id he
      obtain ⟨info', hi, h⟩ := hid id he
      exact ⟨info', List.mem_cons_of_mem _ hi, h⟩
    obtain ⟨⟨bufferCount, hb⟩, attached, ha⟩ := hl info List.mem_cons_self
    simp only [findOther]
    split
    · simp only [hb, ha]
      split
      · refine ⟨_, rfl, fun id he ↦ ⟨info, List.mem_cons_self, ?_⟩⟩
        exact Option.some.inj he
      · exact ⟨other, ho, hskip⟩
    · exact ⟨other, ho, hskip⟩

theorem Tidy.check (h : s.Tidy) {streamId : ℤ} {streamSetKey : StreamSetKey}
    (hset : (s.mStreamSetMap.find? streamSetKey).isSome = true) (alive : ℤ → Bool) :
    s.checkAndFreeBufferOnOtherStreamsLocked streamId streamSetKey alive ≠ .wild := by
  obtain ⟨streamSet, hset⟩ := Option.isSome_iff_exists.mp hset
  have hok := h.ok streamSetKey streamSet hset
  have hmem : ∀ info ∈ streamSet.streamInfoMap.values,
      info.streamId ∈ streamSet.streamInfoMap.keys := by
    intro info hi
    obtain ⟨id, hid⟩ := (KeyedVector.mem_values _).mp hi
    rw [(hok.info id info hid).1]
    exact (KeyedVector.mem_keys _).mpr ⟨info, hid⟩
  obtain ⟨other, ho, hid⟩ := findOther_spec streamId
    fun info (hi : info ∈ streamSet.streamInfoMap.values) ↦
      ⟨(KeyedVector.mem_keys _).mp ((hok.handout _).mpr (hmem info hi)),
        (KeyedVector.mem_keys _).mp ((hok.attached _).mpr (hmem info hi))⟩
  simp only [checkAndFreeBufferOnOtherStreamsLocked, hset, ho]
  split
  · exact Check.noConfusion
  split
  · rename_i hc
    cases hc
  · exact Check.noConfusion
  rename_i first hfirst
  split
  · obtain ⟨info, hi, rfl⟩ := hid first (Option.some.inj hfirst)
    obtain ⟨_, hmap⟩ := (KeyedVector.mem_keys _).mp ((h.mapped info.streamId).mpr
      ⟨streamSetKey, streamSet, hset, hmem info hi⟩)
    rw [hmap]
    dsimp only
    split <;> exact Check.noConfusion
  · exact Check.noConfusion

theorem Tidy.wild_freeAgain (h : s.Tidy) {streamId : ℤ} {streamSetKey : StreamSetKey}
    (hset : (s.mStreamSetMap.find? streamSetKey).isSome = true) (alive : ℤ → Bool) :
    (s.freeAgain streamId streamSetKey alive).2.wild = s.wild := by
  simp only [freeAgain]
  split
  · rfl
  · rfl
  · exact absurd ‹_› (h.check hset alive)

theorem Tidy.wild_free (h : s.Tidy) {streamId : ℤ} {streamSetKey : StreamSetKey}
    (hset : (s.mStreamSetMap.find? streamSetKey).isSome = true) (alive : ℤ → Bool) :
    (s.free streamId streamSetKey alive).2.wild = s.wild := by
  simp only [free]
  split
  · exact h.wild_freeAgain hset alive
  · rfl
  · rfl
  · exact absurd ‹_› (h.check hset alive)

theorem Tidy.wild_getBufferForStream (h : s.Tidy) (streamId : ℤ) (streamSetKey : StreamSetKey)
    (noFreeBufferAtConsumer allocated : Bool) (alive : ℤ → Bool) :
    (s.getBufferForStream streamId streamSetKey noFreeBufferAtConsumer allocated alive).2.wild =
      s.wild := by
  simp only [getBufferForStream]
  split
  · rfl
  rename_i hreg
  obtain ⟨streamSet, bufferCount, attached, hset, hb, ha⟩ := h.found (by simpa using hreg)
  simp only [hset, hb, ha]
  generalize (if noFreeBufferAtConsumer = true then bufferCount else attached) = now
  split
  · rfl
  split
  · rfl
  split
  · rfl
  · refine (Tidy.wild_free (h.recounts (R := fun _ _ _ ↦ True)
      (recounts_editSet hset hb ha recount_setCounts trivial)) ?_ alive).trans rfl
    simp [editSet]

/-! ### The counts -/

/-- The counts of every stream are in order. -/
def Bounded (s : State) : Prop :=
  ∀ key streamSet id counts, s.mStreamSetMap.find? key = some streamSet →
    s.counts key id = some counts → counts.1 ≤ counts.2 ∧
      counts.1 ≤ streamSet.maxAllowedBufferCount ∧ counts.2 ≤ kMaxBufferCount

theorem Bounded.recounts (h : s.Bounded) (ht : s.Tidy)
    (hr : Recounts (fun old new n ↦ old.1 ≤ old.2 → old.1 ≤ n → old.2 ≤ kMaxBufferCount →
      n ≤ kMaxBufferCount → new.1 ≤ new.2 ∧ new.1 ≤ n ∧ new.2 ≤ kMaxBufferCount) s s') :
    s'.Bounded := by
  obtain ⟨-, -, hsame | ⟨key, streamSet, streamSet', id, old, new, hset, hold, hnew, hedit, hR⟩⟩ :=
    hr
  · intro key streamSet id counts hset hc
    unfold State.counts at hc
    rw [hsame] at hset hc
    exact h key streamSet id counts hset hc
  · intro key' other id' counts hother hc
    rw [hedit] at hother
    by_cases hk : key' = key
    · subst hk
      rw [KeyedVector.find?_add_self] at hother
      cases hother
      have hset' : s'.mStreamSetMap.find? key' = some streamSet' := by
        rw [hedit, KeyedVector.find?_add_self]
      rw [hnew.max]
      by_cases hi : id' = id
      · subst hi
        have hcounts := counts_eq hset' hnew.handout hnew.attached
        rw [hcounts] at hc
        cases hc
        obtain ⟨h₁, h₂, h₃⟩ := h _ _ _ _ hset hold
        exact hR h₁ h₂ h₃ (ht.ok _ _ hset).max
      · have hcounts : s.counts key' id' = some counts := by
          simp only [State.counts, hset'] at hc
          simp only [State.counts, hset]
          rwa [(hnew.others id' hi).1, (hnew.others id' hi).2] at hc
        exact h _ _ _ _ hset hcounts
    · rw [KeyedVector.find?_add_ne _ hk] at hother
      have hcounts : s.counts key' id' = some counts := by
        unfold State.counts at hc ⊢
        rwa [hedit, KeyedVector.find?_add_ne _ hk] at hc
      exact h _ _ _ _ hother hcounts

theorem decrement_eq {n : ℕ} (hpos : 0 < n) (hle : n ≤ kMaxBufferCount) :
    decrement n = n - 1 := by
  unfold decrement kMaxBufferCount at *
  omega

theorem increment_eq {n : ℕ} (h : n < kMaxBufferCount) : increment n = n + 1 := by
  unfold increment kMaxBufferCount at *
  omega

theorem Bounded.gets (h : s.Bounded) (ht : s.Tidy) (hr : Recounts Gets s s') : s'.Bounded := by
  refine h.recounts ht (hr.mono fun old new n hg h₁ h₂ h₃ h₄ ↦ ?_)
  obtain ⟨attached, hnow, rfl | ⟨hmax, hmore, rfl⟩ | ⟨hmax, hless, rfl⟩⟩ := hg
  · obtain rfl | rfl := hnow <;> dsimp only <;> omega
  · rw [increment_eq (by omega)]
    obtain rfl | rfl := hnow <;> dsimp only <;> omega
  · rw [increment_eq (by omega), increment_eq (by omega)]
    obtain rfl | rfl := hnow <;> dsimp only <;> omega

theorem Bounded.removeAttached (h : s.Bounded) (ht : s.Tidy) {streamId : ℤ}
    {streamSetKey : StreamSetKey}
    (hless : ∀ counts, s.counts streamSetKey streamId = some counts → counts.1 < counts.2) :
    (s.removeAttached streamId streamSetKey).Bounded := by
  refine h.recounts ht ((recounts_removeAttached _ fun streamSet hset ↦
    ht.ok _ streamSet hset).mono fun old new n hg h₁ h₂ h₃ h₄ ↦ ?_)
  obtain ⟨hold, rfl⟩ := hg
  have := hless old hold
  rw [decrement_eq (by omega) h₃]
  dsimp only
  omega

/-- The counts of every stream of a set are in order. -/
def SetBounded (streamSet : StreamSet) : Prop :=
  ∀ id bufferCount attached, streamSet.handoutBufferCountMap.find? id = some bufferCount →
    streamSet.attachedBufferCountMap.find? id = some attached → bufferCount ≤ attached ∧
      bufferCount ≤ streamSet.maxAllowedBufferCount ∧ attached ≤ kMaxBufferCount

theorem bounded_iff : s.Bounded ↔ ∀ key streamSet,
    s.mStreamSetMap.find? key = some streamSet → SetBounded streamSet := by
  constructor
  · intro h key streamSet hset id bufferCount attached hb ha
    exact h key streamSet id _ hset (counts_eq hset hb ha)
  · intro h key streamSet id counts hset hc
    simp only [State.counts, hset] at hc
    split at hc
    · cases hc
      exact h key streamSet hset id _ _ ‹_› ‹_›
    · cases hc

theorem Bounded.editSet (h : s.Bounded) {key : StreamSetKey} {streamSet : StreamSet}
    (hset : SetBounded streamSet) : (s.editSet key streamSet).Bounded := by
  rw [bounded_iff] at h ⊢
  intro key' streamSet' hf
  unfold State.editSet at hf
  by_cases hk : key' = key
  · rw [hk, KeyedVector.find?_add_self] at hf
    cases hf
    exact hset
  · rw [KeyedVector.find?_add_ne _ hk] at hf
    exact h key' streamSet' hf

theorem bounded_addStream {streamSet : StreamSet} (h : SetBounded streamSet)
    (streamInfo : StreamInfo) : SetBounded (addStream streamSet streamInfo) := by
  intro id bufferCount attached hb ha
  simp only [addStream] at hb ha ⊢
  by_cases hid : id = streamInfo.streamId
  · rw [hid, KeyedVector.find?_add_self] at hb ha
    cases hb
    cases ha
    exact ⟨le_rfl, Nat.zero_le _, Nat.zero_le _⟩
  · rw [KeyedVector.find?_add_ne _ hid] at hb ha
    obtain ⟨h₁, h₂, h₃⟩ := h id bufferCount attached hb ha
    refine ⟨h₁, ?_, h₃⟩
    split <;> omega

theorem Bounded.registerStream (h : s.Bounded) (streamInfo : StreamInfo) :
    (s.registerStream streamInfo).2.Bounded := by
  simp only [State.registerStream]
  split
  · exact h
  split
  · exact h
  split
  · exact h
  have hset : SetBounded (s.setFor streamInfo.key).1 := by
    unfold setFor
    split
    · exact bounded_iff.mp h _ _ ‹_›
    · exact fun _ _ _ hb ↦ (by cases hb)
  exact h.editSet (bounded_addStream hset streamInfo)

/-- The streams that stay in the set have no more buffers than they may have without the one that
goes. -/
def Fits (streamSet : StreamSet) (streamId : ℤ) : Prop :=
  ∀ entry ∈ streamSet.handoutBufferCountMap.entries, entry.1 ≠ streamId →
    entry.2 ≤ (removeStream streamSet streamId).maxAllowedBufferCount

theorem bounded_removeStream {streamSet : StreamSet} (h : SetBounded streamSet) {streamId : ℤ}
    (hfits : Fits streamSet streamId) : SetBounded (removeStream streamSet streamId) := by
  intro id bufferCount attached hb ha
  by_cases hid : id = streamId
  · simp only [removeStream, hid, KeyedVector.find?_removeItem_self] at hb
    cases hb
  · simp only [removeStream, KeyedVector.find?_removeItem_ne _ hid] at hb ha
    obtain ⟨h₁, _, h₃⟩ := h id bufferCount attached hb ha
    exact ⟨h₁, hfits ⟨id, bufferCount⟩ ((KeyedVector.mem_entries _).mpr hb) hid, h₃⟩

theorem Bounded.unregisterStream (h : s.Bounded) {streamId : ℤ} {streamSetKey : StreamSetKey}
    (hfits : s.checkIfStreamRegisteredLocked streamId streamSetKey = true →
      ∀ streamSet, s.mStreamSetMap.find? streamSetKey = some streamSet →
        Fits streamSet streamId) : (s.unregisterStream streamId streamSetKey).2.Bounded := by
  simp only [State.unregisterStream]
  split
  · exact h
  rename_i hreg
  split
  · exact h
  rename_i streamSet hset
  have hedit : (s.editSet streamSetKey (removeStream streamSet streamId)).Bounded :=
    h.editSet (bounded_removeStream (bounded_iff.mp h _ _ hset)
      (hfits (by simpa using hreg) streamSet hset))
  split
  · rw [bounded_iff] at hedit ⊢
    intro key streamSet' hf
    by_cases hk : key = streamSetKey
    · rw [hk, KeyedVector.find?_removeItem_self] at hf
      cases hf
    · rw [KeyedVector.find?_removeItem_ne _ hk] at hf
      exact hedit key streamSet' hf
  · exact hedit

/-! ### The system -/

/-- The thread that has the lock again finds the sets as it left them, and the stream still has
a buffer that is attached and not handed out. -/
structure Untouched (s : State) (freeing : Freeing) (bufferFreed : Bool) : Prop where
  freed : bufferFreed = true → freeing.generation = s.generation ∧
    ∃ counts ∈ s.counts freeing.streamSetKey freeing.other, counts.1 < counts.2
  again : freeing.again = false → (s.mStreamSetMap.find? freeing.streamSetKey).isSome = true

/-- Each stream is in one set, a stream leaves no other one with more buffers than are allowed,
buffers are released and removed that were handed out or attached, and what was seen before the
lock was let go holds after it. -/
def Orderly (s : State) : Label → Prop
  | .registerStream streamInfo => ¬ s.Overlaps streamInfo
  | .unregisterStream streamId streamSetKey =>
    s.checkIfStreamRegisteredLocked streamId streamSetKey = true →
      ∀ streamSet ∈ s.mStreamSetMap.find? streamSetKey, Fits streamSet streamId
  | .detached i bufferFreed _ => ∀ freeing ∈ s.freeing[i]?, s.Untouched freeing bufferFreed
  | .onBufferReleased streamId streamSetKey =>
    s.checkIfStreamRegisteredLocked streamId streamSetKey = true →
      ∀ counts ∈ s.counts streamSetKey streamId, 0 < counts.1
  | .notifyBufferRemoved streamId streamSetKey =>
    ∃ counts ∈ s.counts streamSetKey streamId, counts.1 < counts.2
  | .getBufferForStream _ _ _ _ _ | .onBuffersRemoved _ _ _ => True

theorem Orderly.separate {l : Label} (h : s.Orderly l) : s.Separate l := by
  cases l with
  | registerStream streamInfo => exact h
  | _ => trivial

theorem wild_removeAttached {streamId : ℤ} {streamSetKey : StreamSetKey}
    (h : ∃ counts ∈ s.counts streamSetKey streamId, counts.1 < counts.2) :
    (s.removeAttached streamId streamSetKey).wild = s.wild := by
  obtain ⟨counts, hc, _⟩ := h
  simp only [State.counts, Option.mem_def] at hc
  simp only [removeAttached]
  split at hc
  · cases hc
  rename_i streamSet hset
  split at hc
  · rename_i attached hattached
    simp only [hset, hattached]
    rfl
  · cases hc

theorem less_of_mem {key : StreamSetKey} {id : ℤ}
    (h : ∃ counts ∈ s.counts key id, counts.1 < counts.2) :
    ∀ counts, s.counts key id = some counts → counts.1 < counts.2 := by
  obtain ⟨counts, hc, hlt⟩ := h
  intro counts' hc'
  rw [Option.mem_def] at hc
  rw [hc] at hc'
  cases hc'
  exact hlt

theorem isSome_recounts {R : ℕ × ℕ → ℕ × ℕ → ℕ → Prop} (h : Recounts R s s')
    {key : StreamSetKey} (hs : (s.mStreamSetMap.find? key).isSome = true) :
    (s'.mStreamSetMap.find? key).isSome = true := by
  obtain ⟨-, -, hsame | ⟨key', _, streamSet', _, _, _, _, _, _, hedit, _⟩⟩ := h
  · rwa [hsame]
  · rw [hedit]
    by_cases hk : key = key'
    · rw [hk, KeyedVector.find?_add_self]
      rfl
    · rwa [KeyedVector.find?_add_ne _ hk]

/-- The counts are in order, and nothing was looked up in vain. -/
structure Kept (s : State) : Prop where
  tidy : s.Tidy
  bounded : s.Bounded
  found : s.wild = false

theorem Kept.freeAgain (h : s.Kept) {streamId : ℤ} {streamSetKey : StreamSetKey}
    (hset : (s.mStreamSetMap.find? streamSetKey).isSome = true) (alive : ℤ → Bool) :
    (s.freeAgain streamId streamSetKey alive).2.Kept := by
  have hr : Recounts (fun _ _ _ ↦ False) s (s.freeAgain streamId streamSetKey alive).2 :=
    Recounts.freeAgain (.of_eq rfl rfl rfl) streamId streamSetKey alive
  exact ⟨h.tidy.recounts hr, h.bounded.recounts h.tidy (hr.mono fun _ _ _ hc ↦ hc.elim),
    (h.tidy.wild_freeAgain hset alive).trans h.found⟩

theorem Kept.detached (h : s.Kept) {i : ℕ} {freeing : Freeing} {bufferFreed : Bool}
    (hun : s.Untouched freeing bufferFreed) (alive : ℤ → Bool) :
    (s.detached i freeing bufferFreed alive).Kept := by
  have hgone : Kept { s with freeing := s.freeing.eraseIdx i } :=
    ⟨⟨h.tidy.ok, h.tidy.unique, h.tidy.mapped⟩, h.bounded, h.found⟩
  have htaken : Kept (if bufferFreed = true then
      takeOff { s with freeing := s.freeing.eraseIdx i } freeing
      else { s with freeing := s.freeing.eraseIdx i }) ∧
      (freeing.again = false → ((if bufferFreed = true then
        takeOff { s with freeing := s.freeing.eraseIdx i } freeing
        else { s with freeing := s.freeing.eraseIdx i }).mStreamSetMap.find?
          freeing.streamSetKey).isSome = true) := by
    split
    · obtain ⟨hgen, hless⟩ := hun.freed ‹_›
      have hsame : takeOff { s with freeing := s.freeing.eraseIdx i } freeing =
          removeAttached { s with freeing := s.freeing.eraseIdx i } freeing.other
            freeing.streamSetKey := by
        unfold takeOff
        rw [if_neg (not_not.mpr hgen)]
      have hr := recounts_removeAttached (s := { s with freeing := s.freeing.eraseIdx i })
        freeing.other fun streamSet hset ↦ h.tidy.ok freeing.streamSetKey streamSet hset
      rw [hsame]
      exact ⟨⟨hgone.tidy.recounts hr, hgone.bounded.removeAttached hgone.tidy (less_of_mem hless),
        (wild_removeAttached (s := { s with freeing := s.freeing.eraseIdx i }) hless).trans
          h.found⟩, fun ha ↦ isSome_recounts hr (hun.again ha)⟩
    · exact ⟨hgone, hun.again⟩
  obtain ⟨hkept, hset⟩ := htaken
  simp only [State.detached]
  split
  · exact hkept
  · rename_i hagain
    exact hkept.freeAgain (hset (by simpa using hagain)) alive

theorem Kept.step {l : Label} (hs : State.step s l = some s') (hok : s.Orderly l)
    (h : s.Kept) : s'.Kept := by
  have htidy := h.tidy.step hs hok.separate
  cases l with
  | registerStream streamInfo =>
    cases hs
    refine ⟨htidy, h.bounded.registerStream streamInfo, ?_⟩
    simp only [State.registerStream]
    split
    · exact h.found
    split
    · exact h.found
    split <;> exact h.found
  | unregisterStream streamId streamSetKey =>
    cases hs
    refine ⟨htidy, h.bounded.unregisterStream hok, ?_⟩
    simp only [State.unregisterStream]
    split
    · exact h.found
    rename_i hreg
    obtain ⟨streamSet, _, _, hset, _, _⟩ := h.tidy.found (by simpa using hreg)
    simp only [hset]
    split <;> exact h.found
  | getBufferForStream streamId streamSetKey noFreeBufferAtConsumer allocated alive =>
    cases hs
    exact ⟨htidy, h.bounded.gets h.tidy (recounts_getBufferForStream s _ _ _ _ _),
      (h.tidy.wild_getBufferForStream _ _ _ _ _).trans h.found⟩
  | detached i bufferFreed alive =>
    obtain ⟨freeing, hf, rfl⟩ := Option.map_eq_some_iff.mp hs
    exact h.detached (hok freeing hf) alive
  | onBufferReleased streamId streamSetKey =>
    cases hs
    refine ⟨htidy, h.bounded.recounts h.tidy ((recounts_onBufferReleased s streamId
      streamSetKey).mono fun old new n hg h₁ h₂ h₃ h₄ ↦ ?_), ?_⟩
    · obtain ⟨hreg, hold, rfl⟩ := hg
      have := hok hreg old hold
      rw [decrement_eq this (by omega)]
      dsimp only
      omega
    · simp only [State.onBufferReleased]
      split
      · exact h.found
      rename_i hreg
      obtain ⟨streamSet, bufferCount, attached, hset, hb, ha⟩ :=
        h.tidy.found (by simpa using hreg)
      simp only [hset, hb, ha]
      exact h.found
  | onBuffersRemoved streamId streamSetKey count =>
    cases hs
    refine ⟨htidy, h.bounded.recounts h.tidy ((recounts_onBuffersRemoved s streamId streamSetKey
      count).mono fun old new n hg h₁ h₂ h₃ h₄ ↦ ?_), ?_⟩
    · obtain ⟨hle, hle', rfl⟩ := hg
      dsimp only
      omega
    · simp only [State.onBuffersRemoved]
      split
      · exact h.found
      rename_i hreg
      obtain ⟨streamSet, bufferCount, attached, hset, hb, ha⟩ :=
        h.tidy.found (by simpa using hreg)
      simp only [hset, hb, ha]
      split
      · exact h.found
      split <;> exact h.found
  | notifyBufferRemoved streamId streamSetKey =>
    cases hs
    exact ⟨htidy, h.bounded.removeAttached h.tidy (less_of_mem hok),
      (wild_removeAttached hok).trans h.found⟩

/-- Every registered stream has been handed out no more buffers than are attached to it and than
its set allows, and no count was looked up that is not there. -/
structure Counted (s : State) : Prop where
  counts : ∀ key streamSet streamId, s.mStreamSetMap.find? key = some streamSet →
    streamId ∈ streamSet.streamInfoMap.keys → ∃ bufferCount attached,
      s.counts key streamId = some (bufferCount, attached) ∧ bufferCount ≤ attached ∧
        bufferCount ≤ streamSet.maxAllowedBufferCount
  found : s.wild = false

theorem buffers_counted (h : Reachable (restrict Step Orderly) {} s) : s.Counted := by
  have hkept : s.Kept := h.invariant (P := Kept) (fun _ _ _ hs hk ↦ hk.step hs.1 hs.2)
    ⟨tidy_create, fun _ _ _ _ hset ↦ (by cases hset), rfl⟩
  refine ⟨fun key streamSet streamId hset hin ↦ ?_, hkept.found⟩
  obtain ⟨⟨bufferCount, attached⟩, hc⟩ :=
    (hkept.tidy.counted key streamId).mp ⟨streamSet, hset, hin⟩
  obtain ⟨hle, hmax, _⟩ := hkept.bounded key streamSet streamId _ hset hc
  exact ⟨bufferCount, attached, hc, hle, hmax⟩

instance (streamSet : StreamSet) (streamId : ℤ) : Decidable (Fits streamSet streamId) := by
  unfold Fits
  infer_instance

instance (s : State) (freeing : Freeing) (bufferFreed : Bool) :
    Decidable (s.Untouched freeing bufferFreed) :=
  decidable_of_iff ((bufferFreed = true → freeing.generation = s.generation ∧
    ∃ counts ∈ s.counts freeing.streamSetKey freeing.other, counts.1 < counts.2) ∧
    (freeing.again = false → (s.mStreamSetMap.find? freeing.streamSetKey).isSome = true))
    ⟨fun ⟨hf, ha⟩ ↦ ⟨hf, ha⟩, fun h ↦ ⟨h.freed, h.again⟩⟩

instance (s : State) : (l : Label) → Decidable (s.Orderly l)
  | .registerStream streamInfo => inferInstanceAs (Decidable (¬ s.Overlaps streamInfo))
  | .unregisterStream streamId streamSetKey => inferInstanceAs (Decidable
      (s.checkIfStreamRegisteredLocked streamId streamSetKey = true →
        ∀ streamSet ∈ s.mStreamSetMap.find? streamSetKey, Fits streamSet streamId))
  | .detached i bufferFreed _ => inferInstanceAs (Decidable
      (∀ freeing ∈ s.freeing[i]?, s.Untouched freeing bufferFreed))
  | .onBufferReleased streamId streamSetKey => inferInstanceAs (Decidable
      (s.checkIfStreamRegisteredLocked streamId streamSetKey = true →
        ∀ counts ∈ s.counts streamSetKey streamId, 0 < counts.1))
  | .notifyBufferRemoved streamId streamSetKey => inferInstanceAs (Decidable
      (∃ counts ∈ s.counts streamSetKey streamId, counts.1 < counts.2))
  | .getBufferForStream _ _ _ _ _ | .onBuffersRemoved _ _ _ => isTrue trivial

/-- Two streams of a set: the second had buffers, and the first asks for two. -/
def twoStreams : List Label :=
  let alive : ℤ → Bool := fun _ ↦ true
  [.registerStream ⟨1, 7, false, 8, true⟩, .registerStream ⟨2, 7, false, 8, true⟩,
    .getBufferForStream 2 ⟨7, false⟩ false true alive,
    .getBufferForStream 2 ⟨7, false⟩ false true alive, .onBufferReleased 2 ⟨7, false⟩,
    .onBufferReleased 2 ⟨7, false⟩, .getBufferForStream 1 ⟨7, false⟩ false true alive,
    .getBufferForStream 1 ⟨7, false⟩ false true alive]

/-- A buffer of the second stream is freed while it takes the other one. -/
theorem buffers_counted_freed :
    ∃ s, Reachable (restrict Step Orderly) {} s ∧ s.Counted ∧
      s.counts ⟨7, false⟩ 1 = some (2, 2) ∧ s.counts ⟨7, false⟩ 2 = some (1, 1) := by
  obtain ⟨s, he, hf⟩ := Option.map_eq_some_iff.mp (show
    (exec (guarded step Orderly) {} (twoStreams ++
      [Label.getBufferForStream 2 ⟨7, false⟩ false true fun _ ↦ true,
        Label.detached 0 true fun _ ↦ true])).map
        (fun s ↦ (s.counts ⟨7, false⟩ 1, s.counts ⟨7, false⟩ 2)) =
          some (some (2, 2), some (1, 1)) by decide +kernel)
  simp only [Prod.mk.injEq] at hf
  have hs : Reachable (restrict Step Orderly) {} s := ⟨_, run_restrict_of_exec he⟩
  exact ⟨s, hs, buffers_counted hs, hf.1, hf.2⟩

/-- The second stream takes both of its buffers while one of them is detached. -/
theorem not_buffers_counted_window : ¬ ∀ s, Reachable Step {} s → s.Counted := by
  intro h
  obtain ⟨s, hs, hf⟩ := exists_reachable_of_exec (s := {})
    (f := fun s : State ↦ (s.counts ⟨7, false⟩ 2,
      (s.mStreamSetMap.find? ⟨7, false⟩).map (·.streamInfoMap.keys)))
    (b := (some (2, 1), some [1, 2]))
    (twoStreams ++ [.getBufferForStream 2 ⟨7, false⟩ false true fun _ ↦ true,
      .getBufferForStream 2 ⟨7, false⟩ false true fun _ ↦ true, .detached 0 true fun _ ↦ true])
    (show (exec step _ _).map _ = _ by decide +kernel)
  simp only [Prod.mk.injEq, Option.map_eq_some_iff] at hf
  obtain ⟨hcounts, streamSet, hset, hkeys⟩ := hf
  obtain ⟨bufferCount, attached, hc, hle, _⟩ := (h s hs).counts ⟨7, false⟩ streamSet 2 hset
    (hkeys ▸ by decide)
  rw [hcounts] at hc
  cases hc
  exact absurd hle (by decide)

end State

end VirtualCamera.BufferManager
