import VirtualCamera.RingBuffer.Pins

namespace VirtualCamera.RingBuffer

open Library Memory Transition

/-! ### Selection by a preference -/

/-- Two items are compared by a preference, and the first item is taken. -/
structure RingBufferComparator.Chooses (filter : RingBufferComparator)
    (prefers : BufferInfo → BufferInfo → Prop) : Prop where
  trans : ∀ a b c, prefers a b → prefers b c → prefers a c
  first : ∀ cur, 0 < filter none cur
  choice : ∀ acc cur, filter (some acc) cur < 0 ∧ prefers acc cur ∨
    0 < filter (some acc) cur ∧ prefers cur acc

variable {filter : RingBufferComparator} {prefers : BufferInfo → BufferInfo → Prop}

theorem RingBufferComparator.Chooses.refl (h : filter.Chooses prefers) (a : BufferInfo) :
    prefers a a := by
  obtain ⟨_, ha⟩ | ⟨_, ha⟩ := h.choice a a <;> exact ha

/-- The accumulator is preferred to all items before, so what beats it beats them. -/
theorem RingBufferComparator.Chooses.select (h : filter.Chooses prefers) (acc : RingBufferItem)
    (items : List RingBufferItem) : ∃ item,
      RingBuffer.select filter (some (acc.info, acc)) items = some item ∧
        prefers item.info acc.info ∧ ∀ other ∈ items, prefers item.info other.info := by
  induction items generalizing acc with
  | nil => exact ⟨acc, rfl, h.refl _, fun _ ho ↦ absurd ho List.not_mem_nil⟩
  | cons cur items ih =>
    simp only [RingBuffer.select, Option.map_some]
    obtain ⟨hret, hprefers⟩ | ⟨hret, hprefers⟩ := h.choice acc.info cur.info
    · rw [if_neg hret.ne, if_neg hret.not_gt]
      obtain ⟨item, hsel, hacc, hitems⟩ := ih acc
      refine ⟨item, hsel, hacc, fun other ho ↦ ?_⟩
      obtain rfl | ho := List.mem_cons.mp ho
      · exact h.trans _ _ _ hacc hprefers
      · exact hitems other ho
    · rw [if_neg hret.ne', if_pos hret]
      obtain ⟨item, hsel, hcur, hitems⟩ := ih cur
      refine ⟨item, hsel, h.trans _ _ _ hcur hprefers, fun other ho ↦ ?_⟩
      obtain rfl | ho := List.mem_cons.mp ho
      · exact hcur
      · exact hitems other ho

theorem RingBufferComparator.Chooses.select_none (h : filter.Chooses prefers)
    {items : List RingBufferItem} (hitems : items ≠ []) : ∃ item ∈ items,
      RingBuffer.select filter none items = some item ∧
        ∀ other ∈ items, prefers item.info other.info := by
  obtain ⟨first, rest, rfl⟩ := List.exists_cons_of_ne_nil hitems
  obtain ⟨item, hsel, hfirst, hrest⟩ := h.select first rest
  have hcons : RingBuffer.select filter none (first :: rest) = some item := by
    have hret := h.first first.info
    simp only [RingBuffer.select, Option.map_none]
    rwa [if_neg hret.ne', if_pos hret]
  refine ⟨item, ?_, hcons, fun other ho ↦ ?_⟩
  · obtain ⟨_, hnone⟩ | hmem := select_mem hcons
    · cases hnone
    · exact hmem
  · obtain rfl | ho := List.mem_cons.mp ho
    · exact hfirst
    · exact hrest other ho

/-! ### The item closest to a timestamp -/

namespace TimestampFinder

def SELECT_I1 : ℤ := -1

def SELECT_I2 : ℤ := 1

def compare (mTimestamp : ℤ) (i1 i2 : Option BufferInfo) : ℤ :=
  match i1, i2 with
  | none, _ => SELECT_I2
  | some _, none => SELECT_I1
  | some i1, some i2 =>
    if i1.mTimestamp = mTimestamp then SELECT_I1
    else if i2.mTimestamp = mTimestamp then SELECT_I2
    else
      let ordered := ((i1, SELECT_I1), (i2, SELECT_I2))
      let ordered := if i1.mTimestamp > i2.mTimestamp then ordered.swap else ordered
      if ordered.2.1.mTimestamp < mTimestamp then ordered.2.2
      else if ordered.1.1.mTimestamp < mTimestamp then ordered.1.2
      else ordered.1.2

/-- `pinSelectedBuffer` always has a second item. -/
def comparator (mTimestamp : ℤ) : RingBufferComparator :=
  fun i1 i2 ↦ compare mTimestamp i1 (some i2)

/-- A match, then the latest timestamp below, then the earliest above. -/
def Prefers (mTimestamp : ℤ) (i1 i2 : BufferInfo) : Prop :=
  i1.mTimestamp = mTimestamp ∨ i2.mTimestamp ≠ mTimestamp ∧
    (i1.mTimestamp < mTimestamp ∧
        (i2.mTimestamp < mTimestamp → i2.mTimestamp ≤ i1.mTimestamp) ∨
      mTimestamp < i1.mTimestamp ∧ mTimestamp < i2.mTimestamp ∧ i1.mTimestamp ≤ i2.mTimestamp)

theorem comparator_chooses (mTimestamp : ℤ) :
    (comparator mTimestamp).Chooses (Prefers mTimestamp) where
  trans a b c hab hbc := by
    unfold Prefers at *
    omega
  first _ := Int.one_pos
  choice i1 i2 := by
    unfold comparator compare Prefers SELECT_I1 SELECT_I2
    dsimp only
    by_cases hfirst : i1.mTimestamp = mTimestamp
    · rw [if_pos hfirst]
      omega
    rw [if_neg hfirst]
    by_cases hsecond : i2.mTimestamp = mTimestamp
    · rw [if_pos hsecond]
      omega
    rw [if_neg hsecond]
    by_cases horder : i1.mTimestamp > i2.mTimestamp
    · rw [if_pos horder]
      dsimp only [Prod.swap]
      split_ifs <;> omega
    · rw [if_neg horder]
      dsimp only
      split_ifs <;> omega

/-- The best buffer for a timestamp among the items of a ring. -/
structure Best (mTimestamp : ℤ) (items : List RingBufferItem) (item : RingBufferItem) : Prop where
  mem : item ∈ items
  identical : (∃ other ∈ items, other.mTimestamp = mTimestamp) → item.mTimestamp = mTimestamp
  lower : (∀ other ∈ items, other.mTimestamp ≠ mTimestamp) →
    (∃ other ∈ items, other.mTimestamp < mTimestamp) → item.mTimestamp < mTimestamp ∧
      ∀ other ∈ items, other.mTimestamp < mTimestamp → other.mTimestamp ≤ item.mTimestamp
  higher : (∀ other ∈ items, mTimestamp < other.mTimestamp) →
    ∀ other ∈ items, item.mTimestamp ≤ other.mTimestamp

theorem best_of_prefers {mTimestamp : ℤ} {items : List RingBufferItem} {item : RingBufferItem}
    (hmem : item ∈ items) (h : ∀ other ∈ items, Prefers mTimestamp item.info other.info) :
    Best mTimestamp items item := by
  simp only [Prefers, RingBufferItem.info] at h
  refine ⟨hmem, ?_, ?_, ?_⟩
  · intro hmatch
    obtain ⟨other, ho, heq⟩ := hmatch
    have := h other ho
    omega
  · intro hnone hbelow
    obtain ⟨below, hb, hlt⟩ := hbelow
    have hne := hnone item hmem
    have := h below hb
    refine ⟨by omega, fun other ho hother ↦ ?_⟩
    have := h other ho
    omega
  · intro habove other ho
    have := h other ho
    have := habove item hmem
    omega

end TimestampFinder

/-! ### The item that is pinned -/

/-- Where the graphic buffers differ, the item that is pinned is the one that was chosen. -/
theorem changePin_eq_set {items : List RingBufferItem} {it : ℕ} {item : RingBufferItem}
    (change : ℤ) (hdistinct : (items.map (·.mGraphicBuffer)).Nodup) (hget : items[it]? = some item) :
    changePin item.mGraphicBuffer change items =
      items.set it { item with mPinCount := int32 (item.mPinCount + change) } := by
  induction items generalizing it with
  | nil => cases hget
  | cons find items ih =>
    obtain ⟨hnotin, hdistinct⟩ := List.nodup_cons.mp hdistinct
    cases it with
    | zero =>
      cases hget
      exact if_pos rfl
    | succ it =>
      rw [List.getElem?_cons_succ] at hget
      have hne : item.mGraphicBuffer ≠ find.mGraphicBuffer := by
        intro heq
        exact hnotin (List.mem_map.mpr ⟨item, List.mem_of_getElem? hget, heq⟩)
      rw [changePin, if_neg hne, ih hdistinct hget, List.set_cons_succ]

namespace State

variable {s t : State}

theorem Distinct.step {l : Label} (h : s.Distinct) (hs : s.step l = some t) : t.Distinct := by
  cases l with
  | onFrameAvailable o acquired =>
    simp only [State.step] at hs
    split at hs
    · rename_i hout
      cases hs
      have hroom : (s.makeRoom o).2.Distinct := by
        obtain ⟨heq, _⟩ | he := makeRoom_cases o s
        · rwa [heq]
        · exact he.distinct h
      unfold State.onFrameAvailable
      dsimp only
      split
      · exact hroom.acquireBuffer hout
      · exact hroom
    · cases hs
  | pinSelectedBuffer filter =>
    cases hs
    unfold State.pinSelectedBuffer
    split
    · exact h
    · exact h.changePin _ _ _
  | unpinBuffer handle addReleaseFenceLocked =>
    obtain ⟨item, _, rfl⟩ := Option.map_eq_some_iff.mp hs
    unfold State.unpinBuffer
    split
    · exact h.changePin _ _ _
    · exact h
  | clear outcomes =>
    obtain ⟨⟨err, t⟩, hclear, rfl⟩ := Option.map_eq_some_iff.mp hs
    exact clear_preserves (fun _ _ he hd ↦ he.distinct hd) h hclear

theorem distinct_of_reachable {bufferCount : { n : ℤ // 0 < n ∧ n ≤ INT_MAX }}
    (hs : Reachable (ofPartial step) (create bufferCount) s) : s.Distinct :=
  hs.invariant (P := Distinct) (fun _ _ _ hst h ↦ h.step hst) List.nodup_nil

theorem Distinct.pinSelectedBuffer {filter : RingBufferComparator}
    {prefers : BufferInfo → BufferInfo → Prop} (h : s.Distinct) (hfilter : filter.Chooses prefers)
    (hitems : s.mBufferItemList ≠ []) : ∃ it item, s.mBufferItemList[it]? = some item ∧
      (∀ other ∈ s.mBufferItemList, prefers item.info other.info) ∧
      s.pinSelectedBuffer filter = { s with
        mBufferItemList :=
          s.mBufferItemList.set it { item with mPinCount := int32 (item.mPinCount + 1) }
        handles := s.handles ++ [item.toBufferItem] } := by
  obtain ⟨item, hmem, hsel, hprefers⟩ := hfilter.select_none hitems
  obtain ⟨it, hget⟩ := List.mem_iff_getElem?.mp hmem
  refine ⟨it, item, hget, hprefers, ?_⟩
  simp only [State.pinSelectedBuffer, hsel, pinBufferLocked]
  rw [changePin_eq_set 1 h hget]

/-- The best item for the timestamp is pinned, and the other items are as before. -/
theorem pinSelectedBuffer_best {bufferCount : { n : ℤ // 0 < n ∧ n ≤ INT_MAX }}
    (hs : Reachable (ofPartial step) (create bufferCount) s) (hitems : s.mBufferItemList ≠ [])
    (mTimestamp : ℤ) : ∃ it item, s.mBufferItemList[it]? = some item ∧
      TimestampFinder.Best mTimestamp s.mBufferItemList item ∧
      s.pinSelectedBuffer (TimestampFinder.comparator mTimestamp) = { s with
        mBufferItemList :=
          s.mBufferItemList.set it { item with mPinCount := int32 (item.mPinCount + 1) }
        handles := s.handles ++ [item.toBufferItem] } := by
  obtain ⟨it, item, hget, hprefers, heq⟩ := (distinct_of_reachable hs).pinSelectedBuffer
    (TimestampFinder.comparator_chooses mTimestamp) hitems
  exact ⟨it, item, hget,
    TimestampFinder.best_of_prefers (List.mem_of_getElem? hget) hprefers, heq⟩

/-- The timestamps come in no order, and some twice. One target is among them, one between them
and one below them all. -/
theorem pinSelectedBuffer_best_several : ∃ s : State,
    s.mBufferItemList.map (·.mTimestamp) = [7, 3, 7, 5, 3] ∧
      ∀ target ∈ [((7 : ℤ), (7 : ℤ)), (6, 5), (2, 3)], ∃ it item,
        s.mBufferItemList[it]? = some item ∧
          TimestampFinder.Best target.1 s.mBufferItemList item ∧ item.mTimestamp = target.2 ∧
          (s.pinSelectedBuffer (TimestampFinder.comparator target.1)).mBufferItemList =
            s.mBufferItemList.set it { item with mPinCount := int32 (item.mPinCount + 1) } := by
  obtain ⟨s, hs, hf⟩ := exists_reachable_of_exec (s := create ⟨5, by decide⟩)
    (f := fun s ↦ s.mBufferItemList.map (·.mTimestamp)) (b := [7, 3, 7, 5, 3])
    [.onFrameAvailable {} (some ({ mTimestamp := 7 }, 10)),
      .onFrameAvailable {} (some ({ mTimestamp := 3 }, 11)),
      .onFrameAvailable {} (some ({ mTimestamp := 7 }, 12)),
      .onFrameAvailable {} (some ({ mTimestamp := 5 }, 13)),
      .onFrameAvailable {} (some ({ mTimestamp := 3 }, 14))]
    (show (exec step _ _).map _ = _ by decide +kernel)
  have hne : s.mBufferItemList ≠ [] := by
    intro hnil
    rw [hnil] at hf
    cases hf
  have hin : ∀ x ∈ [(7 : ℤ), 3, 7, 5, 3], ∃ other ∈ s.mBufferItemList, other.mTimestamp = x := by
    intro x hx
    rw [← hf] at hx
    exact List.mem_map.mp hx
  have hout : ∀ other ∈ s.mBufferItemList,
      other.mTimestamp = 3 ∨ other.mTimestamp = 5 ∨ other.mTimestamp = 7 := by
    intro other ho
    have hx := List.mem_map_of_mem (f := fun item : RingBufferItem ↦ item.mTimestamp) ho
    rw [hf] at hx
    simp only [List.mem_cons, List.not_mem_nil, or_false] at hx
    omega
  refine ⟨s, hf, fun target htarget ↦ ?_⟩
  obtain ⟨it, item, hget, hbest, hpin⟩ := pinSelectedBuffer_best hs hne target.1
  refine ⟨it, item, hget, hbest, ?_, by rw [hpin]⟩
  simp only [List.mem_cons, List.not_mem_nil, or_false] at htarget
  obtain rfl | rfl | rfl := htarget
  · exact hbest.identical (hin 7 (by decide))
  · obtain ⟨below, hb, hbelow⟩ := hin 5 (by decide)
    have hnone : ∀ other ∈ s.mBufferItemList, other.mTimestamp ≠ 6 := by
      intro other ho
      have := hout other ho
      omega
    obtain ⟨hlt, hle⟩ := hbest.lower hnone ⟨below, hb, by dsimp only; omega⟩
    have := hle below hb (by dsimp only; omega)
    dsimp only at hlt ⊢
    omega
  · obtain ⟨above, ha, habove⟩ := hin 3 (by decide)
    have hall : ∀ other ∈ s.mBufferItemList, 2 < other.mTimestamp := by
      intro other ho
      have := hout other ho
      omega
    have hle := hbest.higher hall above ha
    have := hout item hbest.mem
    dsimp only
    omega

end State

end VirtualCamera.RingBuffer
