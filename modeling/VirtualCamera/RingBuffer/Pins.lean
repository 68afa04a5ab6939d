import VirtualCamera.RingBuffer.Model
import Mathlib.Data.List.Nodup
import Mathlib.Data.List.Perm.Basic

namespace VirtualCamera.RingBuffer

open Library Memory Transition

/-- An item without pins is released, and none without pins is older. -/
def Release.Oldest (r : Release) : Prop :=
  r.item ∈ r.among ∧ r.item.mPinCount ≤ 0 ∧
    ∀ other ∈ r.among, other.mPinCount ≤ 0 → r.item.mTimestamp ≤ other.mTimestamp

/-- The base's own errors are not those of the search. -/
def Outcome.Own (o : Outcome) : Prop :=
  (o.addReleaseFenceLocked = .OK ∨ o.addReleaseFenceLocked = .ERROR) ∧
    (o.releaseBufferLocked = .OK ∨ o.releaseBufferLocked = .ERROR)

namespace State

/-- The items of the list, without their pin counts. -/
def items (s : State) : List BufferItem := s.mBufferItemList.map RingBufferItem.toBufferItem

def gone (s : State) : List BufferItem := s.released.map (·.item.toBufferItem)

/-- What the ring promises; each acquired item is in the list or was released once. -/
structure Kept (s : State) : Prop where
  room : (s.mBufferItemList.length : ℤ) ≤ s.mBufferCount
  pins : ∀ item ∈ s.mBufferItemList, item.mPinCount = s.handles.count item.toBufferItem
  held : ∀ handle ∈ s.handles, handle ∈ s.items
  oldest : ∀ r ∈ s.released, r.Oldest
  once : s.acquired.Perm (s.gone ++ s.items)
  clears : ∀ outcomes, ∃ result, ∀ fuel, s.mBufferItemList.length < fuel →
    s.clear outcomes fuel = some result

def Distinct (s : State) : Prop := (s.mBufferItemList.map (·.mGraphicBuffer)).Nodup

structure Inv (s : State) : Prop where
  few : s.handles.length ≤ INT_MAX
  room : (s.mBufferItemList.length : ℤ) ≤ s.mBufferCount
  distinct : (s.mBufferItemList.map (·.mGraphicBuffer)).Nodup
  pins : ∀ item ∈ s.mBufferItemList, item.mPinCount = s.handles.count item.toBufferItem
  held : ∀ handle ∈ s.handles, handle ∈ s.items
  oldest : ∀ r ∈ s.released, r.Oldest
  once : s.acquired.Perm (s.gone ++ s.items)

variable {s t : State} {o : Outcome}

/-! ### The release of the oldest item -/

def Evicts (s t : State) : Prop :=
  ∃ it item, s.mBufferItemList[it]? = some item ∧ Release.Oldest ⟨item, s.mBufferItemList⟩ ∧
    t = { s with
      mBufferItemList := s.mBufferItemList.eraseIdx it
      released := s.released ++ [⟨item, s.mBufferItemList⟩] }

/-- The release fails and changes nothing, or one item is released. -/
theorem releaseOldest_cases (o : Outcome) (s : State) :
    (∃ err n, err ≠ .OK ∧ s.releaseOldestBufferLocked o = (err, n, s)) ∨
      ∃ n t, s.releaseOldestBufferLocked o = (.OK, n, t) ∧ s.Evicts t := by
  unfold releaseOldestBufferLocked
  split
  · exact .inl ⟨_, _, StatusT.noConfusion, rfl⟩
  have hfound := scan_found s.mBufferItemList
  dsimp only
  split
  · exact .inl ⟨_, _, StatusT.noConfusion, rfl⟩
  rename_i it item hacc
  obtain ⟨hget, hpin, hle⟩ := hfound.oldest it item hacc
  split
  · exact .inl ⟨_, _, ‹_›, rfl⟩
  split
  · exact .inl ⟨_, _, ‹_›, rfl⟩
  · exact .inr ⟨_, _, rfl, it, item, hget, ⟨List.mem_of_getElem? hget, hpin, hle⟩, rfl⟩

/-- The search ends without a release only when the list is empty or all of it is pinned; then
the count of the pinned items is that of all items. -/
theorem releaseOldest_none {err : StatusT} {n : ℕ} (ho : o.Own) (hok : err ≠ .OK)
    (herr : err ≠ .ERROR) (h : s.releaseOldestBufferLocked o = (err, n, t)) :
    t = s ∧ n = s.mBufferItemList.length ∧ ∀ item ∈ s.mBufferItemList, 0 < item.mPinCount := by
  unfold releaseOldestBufferLocked at h
  split at h
  · rename_i hempty
    rw [List.isEmpty_iff] at hempty
    cases h
    rw [hempty]
    exact ⟨rfl, rfl, fun _ hi ↦ absurd hi List.not_mem_nil⟩
  have hfound := scan_found s.mBufferItemList
  dsimp only at h
  split at h
  · rename_i hacc
    cases h
    exact ⟨rfl, hfound.frames hacc, hfound.pinned hacc⟩
  split at h
  · rename_i hfence
    cases h
    exact absurd (ho.1.resolve_left hfence) herr
  split at h
  · rename_i hrelease
    cases h
    exact absurd (ho.2.resolve_left hrelease) herr
  · exact absurd (congrArg Prod.fst h).symm hok

theorem Evicts.length (h : s.Evicts t) :
    t.mBufferItemList.length + 1 = s.mBufferItemList.length := by
  obtain ⟨it, item, hget, _, rfl⟩ := h
  exact List.length_eraseIdx_add_one (List.getElem?_eq_some_iff.mp hget).1

/-- The released item and those that stay are the items that were there. -/
theorem Evicts.perm {it : ℕ} {item : RingBufferItem} (hget : s.mBufferItemList[it]? = some item) :
    (item :: s.mBufferItemList.eraseIdx it).Perm s.mBufferItemList := by
  obtain ⟨hit, rfl⟩ := List.getElem?_eq_some_iff.mp hget
  exact List.getElem_cons_eraseIdx_perm hit

theorem Evicts.distinct (he : s.Evicts t) (h : s.Distinct) : t.Distinct := by
  obtain ⟨it, item, _, _, rfl⟩ := he
  exact h.sublist ((List.eraseIdx_sublist _ _).map _)

theorem Inv.evicts (h : s.Inv) (he : s.Evicts t) : t.Inv := by
  have hlength := he.length
  have hdistinct := he.distinct h.distinct
  obtain ⟨it, item, hget, hold, rfl⟩ := he
  have hperm := Evicts.perm hget
  have hitems := hperm.map RingBufferItem.toBufferItem
  have hsub := List.eraseIdx_sublist s.mBufferItemList it
  refine ⟨h.few, ?_, hdistinct, ?_, ?_, ?_, ?_⟩
  · have := h.room
    dsimp only at hlength ⊢
    omega
  · exact fun other ho ↦ h.pins other (hsub.mem ho)
  · intro handle hh
    obtain rfl | hmem := List.mem_cons.mp (hitems.mem_iff.mpr (h.held handle hh))
    · have hpin := h.pins item hold.1
      have hpos := List.count_pos_iff.mpr hh
      have := hold.2.1
      dsimp only at this hpos
      omega
    · exact hmem
  · intro r hr
    obtain hr | hr := List.mem_append.mp hr
    · exact h.oldest r hr
    · rw [List.mem_singleton.mp hr]
      exact hold
  · simp only [gone, items, List.map_append, List.map_cons, List.map_nil, List.append_assoc,
      List.singleton_append]
    exact h.once.trans (hitems.symm.append_left _)

/-! ### The other steps -/

theorem makeRoom_cases (o : Outcome) (s : State) :
    (s.makeRoom o).2 = s ∧ ((s.makeRoom o).1 = .OK →
      s.mBufferItemList.length < sizeT s.mBufferCount) ∨ s.Evicts (s.makeRoom o).2 := by
  unfold makeRoom
  split
  · obtain ⟨err, n, herr, heq⟩ | ⟨n, t, heq, he⟩ := releaseOldest_cases o s
    · rw [heq]
      exact .inl ⟨rfl, fun hok ↦ absurd hok herr⟩
    · rw [heq]
      exact .inr he
  · exact .inl ⟨rfl, fun _ ↦ not_le.mp ‹_›⟩

theorem sizeT_mBufferCount (s : State) : (sizeT s.mBufferCount : ℤ) = s.mBufferCount := by
  obtain ⟨hpos, hle⟩ := s.mBufferCount.2
  unfold INT_MAX at hle
  rw [sizeT_of_nonneg (by omega) (by omega)]
  omega

/-- There is room for one more item after the first part of `onFrameAvailable`. -/
theorem Inv.makeRoom (h : s.Inv) (o : Outcome) :
    (s.makeRoom o).2.Inv ∧ ((s.makeRoom o).1 = .OK →
      ((s.makeRoom o).2.mBufferItemList.length : ℤ) < (s.makeRoom o).2.mBufferCount) := by
  obtain ⟨heq, hroom⟩ | he := makeRoom_cases o s
  · rw [heq]
    refine ⟨h, fun hok ↦ ?_⟩
    have := hroom hok
    have := sizeT_mBufferCount s
    omega
  · have hlength := he.length
    have hcount : (s.makeRoom o).2.mBufferCount = s.mBufferCount := by
      obtain ⟨_, _, _, _, ht⟩ := he
      rw [ht]
    refine ⟨h.evicts he, fun _ ↦ ?_⟩
    have := h.room
    rw [hcount]
    omega

theorem Distinct.acquireBuffer (h : s.Distinct) {acquired : Option (BufferItem × ℕ)}
    (hout : HandedOut acquired s) : (s.acquireBuffer acquired).Distinct := by
  cases acquired with
  | none => exact h
  | some a =>
    have hnew : ∀ other ∈ s.mBufferItemList, other.mGraphicBuffer ≠ a.2 := hout a rfl
    simp only [Distinct, State.acquireBuffer, List.map_append, List.map_cons, List.map_nil]
    apply List.nodup_append.mpr
    refine ⟨h, List.nodup_singleton _, fun x hx y hy ↦ ?_⟩
    obtain ⟨other, ho, rfl⟩ := List.mem_map.mp hx
    rw [List.mem_singleton.mp hy]
    exact hnew other ho

theorem Inv.acquireBuffer (h : s.Inv) {acquired : Option (BufferItem × ℕ)}
    (hroom : (s.mBufferItemList.length : ℤ) < s.mBufferCount) (hout : HandedOut acquired s) :
    (s.acquireBuffer acquired).Inv := by
  cases acquired with
  | none => exact h
  | some a =>
    obtain ⟨item, b⟩ := a
    have hnew : ∀ other ∈ s.mBufferItemList, other.mGraphicBuffer ≠ b := hout (item, b) rfl
    have hdistinct : s.Distinct := h.distinct
    refine ⟨h.few, ?_, hdistinct.acquireBuffer hout, ?_, ?_, h.oldest, ?_⟩
    · simp only [State.acquireBuffer, List.length_append, List.length_singleton]
      omega
    · intro other ho
      obtain ho | ho := List.mem_append.mp ho
      · exact h.pins other ho
      · rw [List.mem_singleton.mp ho]
        have hnone : { item with mGraphicBuffer := b } ∉ s.handles := by
          intro hmem
          obtain ⟨other, ho, heq⟩ := List.mem_map.mp (h.held _ hmem)
          exact hnew other ho (congrArg BufferItem.mGraphicBuffer heq)
        exact (congrArg Nat.cast (List.count_eq_zero.mpr hnone)).symm
    · intro handle hh
      simp only [items, State.acquireBuffer, List.map_append]
      exact List.mem_append_left _ (h.held handle hh)
    · simp only [gone, items, State.acquireBuffer, List.map_append, List.map_cons, List.map_nil,
        ← List.append_assoc]
      exact h.once.append_right _

theorem Inv.onFrameAvailable (h : s.Inv) {acquired : Option (BufferItem × ℕ)}
    (hout : HandedOut acquired (s.makeRoom o).2) : (s.onFrameAvailable o acquired).Inv := by
  obtain ⟨hinv, hroom⟩ := h.makeRoom o
  simp only [State.onFrameAvailable]
  split
  · exact hinv.acquireBuffer (hroom ‹_›) hout
  · exact hinv

theorem Inv.eq_of_mGraphicBuffer (h : s.Inv) {x y : RingBufferItem} (hx : x ∈ s.mBufferItemList)
    (hy : y ∈ s.mBufferItemList) (hb : x.mGraphicBuffer = y.mGraphicBuffer) : x = y :=
  List.inj_on_of_nodup_map h.distinct hx hy hb

theorem Distinct.changePin (h : s.Distinct) (b : ℕ) (change : ℤ) (handles : List BufferItem) :
    Distinct { s with mBufferItemList := changePin b change s.mBufferItemList, handles } := by
  have hbuffers := congrArg (List.map BufferItem.mGraphicBuffer)
    (changePin_toBufferItem b change s.mBufferItemList)
  rw [List.map_map, List.map_map] at hbuffers
  exact (congrArg List.Nodup hbuffers).mpr h

theorem Inv.changePin (h : s.Inv) {handle : BufferItem} (hmem : handle ∈ s.items) {change : ℤ}
    {handles : List BufferItem} (hfew : handles.length ≤ INT_MAX)
    (hsub : ∀ other ∈ handles, other ∈ s.items)
    (hother : ∀ other, other ≠ handle → handles.count other = s.handles.count other)
    (hcount : int32 (s.handles.count handle + change) = handles.count handle) :
    { s with
      mBufferItemList := changePin handle.mGraphicBuffer change s.mBufferItemList
      handles }.Inv := by
  have hitems := changePin_toBufferItem handle.mGraphicBuffer change s.mBufferItemList
  have hdistinct : s.Distinct := h.distinct
  refine ⟨hfew, ?_, hdistinct.changePin _ change handles, ?_, ?_, h.oldest, ?_⟩
  · rw [changePin_length]
    exact h.room
  · intro item hi
    obtain ⟨old, hold, heq, hpin⟩ := mem_changePin h.distinct hi
    obtain ⟨item', hi', rfl⟩ := List.mem_map.mp hmem
    rw [hpin, heq, h.pins old hold]
    split
    · rename_i hb
      rw [h.eq_of_mGraphicBuffer hi' hold hb] at hcount
      exact hcount
    · rename_i hb
      rw [hother old.toBufferItem fun heq ↦ hb (congrArg BufferItem.mGraphicBuffer heq).symm]
  · intro other ho
    have := hsub other ho
    simp only [items, hitems] at this ⊢
    exact this
  · have := h.once
    simp only [gone, items, hitems] at this ⊢
    exact this

theorem Inv.pinSelectedBuffer (h : s.Inv) (hlt : s.handles.length < INT_MAX)
    (filter : RingBufferComparator) : (s.pinSelectedBuffer filter).Inv := by
  unfold State.pinSelectedBuffer
  split
  · exact h
  · rename_i accIt hsel
    obtain ⟨_, hacc⟩ | hmem := select_mem hsel
    · cases hacc
    have hmem : accIt.toBufferItem ∈ s.items := List.mem_map_of_mem hmem
    apply h.changePin hmem
    · rw [List.length_append, List.length_singleton]
      omega
    · intro other ho
      obtain ho | ho := List.mem_append.mp ho
      · exact h.held other ho
      · rwa [List.mem_singleton.mp ho]
    · intro other hne
      rw [List.count_append, List.count_singleton, if_neg (by simpa using hne.symm), Nat.add_zero]
    · have hle : s.handles.count accIt.toBufferItem ≤ s.handles.length := List.count_le_length
      unfold INT_MAX at hlt
      rw [List.count_append, List.count_singleton_self, int32_of_range (by omega) (by omega)]
      omega

theorem Inv.destroyHandle (h : s.Inv) {handle : ℕ}
    (hs : s.destroyHandle handle .OK = some t) : t.Inv := by
  obtain ⟨item, hget, rfl⟩ := Option.map_eq_some_iff.mp hs
  obtain ⟨hlt, rfl⟩ := List.getElem?_eq_some_iff.mp hget
  have hperm := List.getElem_cons_eraseIdx_perm hlt
  have hsub := List.eraseIdx_sublist s.handles handle
  have hfew : (s.handles.eraseIdx handle).length ≤ INT_MAX := hsub.length_le.trans h.few
  apply h.changePin (h.held _ (List.mem_of_getElem? hget)) hfew
  · exact fun other ho ↦ h.held other (hsub.mem ho)
  · intro other hne
    rw [← hperm.count_eq, List.count_cons_of_ne hne.symm]
  · have hle := List.count_le_length (a := s.handles[handle]) (l := s.handles.eraseIdx handle)
    unfold INT_MAX at hfew
    rw [← hperm.count_eq, List.count_cons_self, int32_of_range (by omega) (by omega)]
    omega

/-! ### The loop of `clear` -/

/-- Each iteration but the last releases one item. -/
theorem clearLoop_preserves {P : State → Prop} (hP : ∀ s t, s.Evicts t → P s → P t)
    {outcomes : ℕ → Outcome} {fuel : ℕ} {err : StatusT} (h : P s)
    (hs : s.clearLoop outcomes fuel = some (err, t)) : P t := by
  induction fuel generalizing s with
  | zero => cases hs
  | succ fuel ih =>
    simp only [State.clearLoop] at hs
    obtain ⟨err', n, herr, heq⟩ | ⟨n, s', heq, he⟩ :=
      releaseOldest_cases (outcomes s.mBufferItemList.length) s
    · rw [heq] at hs
      cases err' with
      | OK => exact absurd rfl herr
      | NOT_ENOUGH_DATA | NO_BUFFER_AVAILABLE | ERROR =>
        cases hs
        exact h
    · rw [heq] at hs
      exact ih (hP s s' he h) hs

theorem clear_preserves {P : State → Prop} (hP : ∀ s t, s.Evicts t → P s → P t)
    {outcomes : ℕ → Outcome} {fuel : ℕ} {err : StatusT} (h : P s)
    (hs : s.clear outcomes fuel = some (err, t)) : P t := by
  unfold State.clear at hs
  split at hs
  · cases hs
    exact h
  · exact clearLoop_preserves hP h hs

/-- One item less after each iteration but the last. -/
theorem clearLoop_terminates (outcomes : ℕ → Outcome) (s : State) : ∃ result, ∀ fuel,
    s.mBufferItemList.length < fuel → s.clearLoop outcomes fuel = some result := by
  induction hn : s.mBufferItemList.length generalizing s with
  | zero =>
    refine ⟨(.OK, s), fun fuel hfuel ↦ ?_⟩
    obtain ⟨fuel, rfl⟩ := Nat.exists_eq_add_one_of_ne_zero hfuel.ne'
    have hempty := List.isEmpty_iff_length_eq_zero.mpr hn
    simp only [State.clearLoop, releaseOldestBufferLocked, hempty, if_true]
  | succ n ih =>
    obtain ⟨err, k, herr, heq⟩ | ⟨k, t, heq, he⟩ := releaseOldest_cases (outcomes (n + 1)) s
    · refine ⟨(if err = .ERROR then .ERROR else .OK, s), fun fuel hfuel ↦ ?_⟩
      obtain ⟨fuel, rfl⟩ := Nat.exists_eq_add_one_of_ne_zero (by omega : fuel ≠ 0)
      simp only [State.clearLoop, hn, heq]
      cases err with
      | OK => exact absurd rfl herr
      | NOT_ENOUGH_DATA | NO_BUFFER_AVAILABLE | ERROR => rfl
    · have hlength := he.length
      obtain ⟨result, hresult⟩ := ih t (by omega)
      refine ⟨result, fun fuel hfuel ↦ ?_⟩
      obtain ⟨fuel, rfl⟩ := Nat.exists_eq_add_one_of_ne_zero (by omega : fuel ≠ 0)
      simp only [State.clearLoop, hn, heq]
      exact hresult fuel (by omega)

theorem clear_terminates (outcomes : ℕ → Outcome) (s : State) : ∃ result, ∀ fuel,
    s.mBufferItemList.length < fuel → s.clear outcomes fuel = some result := by
  unfold State.clear
  split
  · exact ⟨_, fun _ _ ↦ rfl⟩
  · exact clearLoop_terminates outcomes s

theorem clearLoop_pinned {outcomes : ℕ → Outcome} (ho : ∀ n, (outcomes n).Own) {fuel : ℕ}
    (hs : s.clearLoop outcomes fuel = some (.OK, t)) :
    ∀ item ∈ t.mBufferItemList, 0 < item.mPinCount := by
  induction fuel generalizing s with
  | zero => cases hs
  | succ fuel ih =>
    simp only [State.clearLoop] at hs
    obtain ⟨err, n, herr, heq⟩ | ⟨n, s', heq, _⟩ :=
      releaseOldest_cases (outcomes s.mBufferItemList.length) s
    · rw [heq] at hs
      cases err with
      | OK => exact absurd rfl herr
      | ERROR => cases hs
      | NOT_ENOUGH_DATA | NO_BUFFER_AVAILABLE =>
        cases hs
        exact (releaseOldest_none (ho _) herr StatusT.noConfusion heq).2.2
    · rw [heq] at hs
      exact ih hs

theorem clear_pinned {outcomes : ℕ → Outcome} (ho : ∀ n, (outcomes n).Own) {fuel : ℕ}
    (hs : s.clear outcomes fuel = some (.OK, t)) :
    ∀ item ∈ t.mBufferItemList, 0 < item.mPinCount := by
  unfold State.clear at hs
  split at hs
  · cases hs
    rename_i hempty
    rw [List.eq_nil_of_length_eq_zero hempty]
    exact fun _ hi ↦ absurd hi List.not_mem_nil
  · exact clearLoop_pinned ho hs

theorem Inv.toKept (h : s.Inv) : s.Kept :=
  ⟨h.room, h.pins, h.held, h.oldest, h.once, fun outcomes ↦ clear_terminates outcomes s⟩

/-- No handle is lost to a failure, and there are not as many as an `int` can count. -/
def Counted (s : State) : Label → Prop
  | .unpinBuffer _ addReleaseFenceLocked => addReleaseFenceLocked = .OK
  | .pinSelectedBuffer _ => s.handles.length < INT_MAX
  | _ => True

instance (s : State) (l : Label) : Decidable (s.Counted l) :=
  match l with
  | .unpinBuffer _ _ => inferInstanceAs (Decidable (_ = _))
  | .pinSelectedBuffer _ => inferInstanceAs (Decidable (_ < _))
  | .onFrameAvailable _ _ => inferInstanceAs (Decidable True)
  | .clear _ => inferInstanceAs (Decidable True)

theorem Inv.step {l : Label} (h : s.Inv) (hs : s.step l = some t) (hl : s.Counted l) :
    t.Inv := by
  cases l with
  | onFrameAvailable o acquired =>
    simp only [State.step] at hs
    split at hs
    · cases hs
      exact h.onFrameAvailable ‹_›
    · cases hs
  | pinSelectedBuffer filter =>
    cases hs
    exact h.pinSelectedBuffer hl filter
  | unpinBuffer handle addReleaseFenceLocked =>
    cases hl
    exact h.destroyHandle hs
  | clear outcomes =>
    obtain ⟨⟨err, t⟩, hclear, rfl⟩ := Option.map_eq_some_iff.mp hs
    exact clear_preserves (fun _ _ he hi ↦ hi.evicts he) h hclear

theorem inv_create (bufferCount : { n : ℤ // 0 < n ∧ n ≤ INT_MAX }) : (create bufferCount).Inv where
  few := Nat.zero_le _
  room := bufferCount.2.1.le
  distinct := List.nodup_nil
  pins := fun _ hi ↦ absurd hi List.not_mem_nil
  held := fun _ hh ↦ absurd hh List.not_mem_nil
  oldest := fun _ hr ↦ absurd hr List.not_mem_nil
  once := .refl _

/-- In every run in which no handle is lost, the ring keeps its promises. -/
theorem pins_kept {bufferCount : { n : ℤ // 0 < n ∧ n ≤ INT_MAX }}
    (hs : Reachable (restrict (ofPartial step) Counted) (create bufferCount) s) : s.Kept :=
  (hs.invariant (P := Inv) (fun _ _ _ hst hi ↦ hi.step hst.1 hst.2) (inv_create bufferCount)).toKept

/-- A handle that is lost leaves an item with a pin that nobody has. -/
theorem not_kept_of_failure (h : s.Kept) {handle : ℕ} {err : StatusT} (herr : err ≠ .OK)
    (hs : s.step (.unpinBuffer handle err) = some t) : ¬ t.Kept := by
  obtain ⟨item, hget, rfl⟩ := Option.map_eq_some_iff.mp hs
  obtain ⟨hlt, rfl⟩ := List.getElem?_eq_some_iff.mp hget
  intro ht
  obtain ⟨found, hmem, heq⟩ := List.mem_map.mp (h.held _ (List.getElem_mem hlt))
  have hbefore := h.pins found hmem
  have hlist : (s.unpinBuffer s.handles[handle] err).mBufferItemList = s.mBufferItemList := by
    rw [unpinBuffer, if_neg herr]
  have hafter := ht.pins found (hlist ▸ hmem)
  have hcount := (List.getElem_cons_eraseIdx_perm hlt).count_eq s.handles[handle]
  rw [List.count_cons_self] at hcount
  dsimp only at hafter
  rw [heq] at hbefore hafter
  omega

/-- Two buffers; the newer is pinned twice, the older evicted for a third, one handle ends, and
`clear` releases the third. -/
theorem pins_kept_evicted : ∃ s : State, s.Kept ∧
    s.mBufferItemList.map (fun item ↦ (item.mGraphicBuffer, item.mPinCount)) = [(11, 1)] ∧
    s.gone.map BufferItem.mGraphicBuffer = [10, 12] := by
  obtain ⟨s, he, hf⟩ := Option.map_eq_some_iff.mp (show (exec (guarded step Counted)
    (create ⟨2, by decide⟩) [.onFrameAvailable {} (some ({ mTimestamp := 5 }, 10)),
      .onFrameAvailable {} (some ({ mSlot := 1, mTimestamp := 7 }, 11)),
      .pinSelectedBuffer fun _ _ ↦ 1, .pinSelectedBuffer fun _ _ ↦ 1,
      .onFrameAvailable {} (some ({ mSlot := 2, mTimestamp := 3 }, 12)),
      .unpinBuffer 0 .OK, .clear fun _ ↦ {}]).map (fun s ↦
        (s.mBufferItemList.map (fun item ↦ (item.mGraphicBuffer, item.mPinCount)),
          s.gone.map BufferItem.mGraphicBuffer)) = some ([(11, 1)], [10, 12]) by decide +kernel)
  obtain ⟨hlist, hgone⟩ := Prod.mk.inj hf
  exact ⟨s, pins_kept ⟨_, run_restrict_of_exec he⟩, hlist, hgone⟩

/-- The release fence of the only handle cannot be added. -/
theorem pin_left_behind : ∃ s : State,
    Reachable (ofPartial step) (create ⟨1, by decide⟩) s ∧ ¬ s.Kept := by
  obtain ⟨s, hs, hf⟩ := exists_reachable_of_exec (s := create ⟨1, by decide⟩)
    (f := fun s ↦ (s.mBufferItemList.map RingBufferItem.mPinCount, s.handles)) (b := ([1], []))
    [.onFrameAvailable {} (some ({ mTimestamp := 5 }, 10)), .pinSelectedBuffer fun _ _ ↦ 1,
      .unpinBuffer 0 .ERROR]
    (show (exec step _ _).map _ = _ by decide +kernel)
  obtain ⟨hpins, hhandles⟩ := Prod.mk.inj hf
  refine ⟨s, hs, fun h ↦ ?_⟩
  have hone : 1 ∈ s.mBufferItemList.map RingBufferItem.mPinCount := by
    rw [hpins]
    exact List.mem_singleton_self 1
  obtain ⟨item, hi, hpin⟩ := List.mem_map.mp hone
  have hcount := h.pins item hi
  rw [hhandles, List.count_nil] at hcount
  omega

end State

end VirtualCamera.RingBuffer
