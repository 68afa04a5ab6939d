import VirtualCamera.Library.Memory
import VirtualCamera.Library.Transition

namespace VirtualCamera.RingBuffer

open Library Memory Transition

inductive StatusT
  | OK
  | NOT_ENOUGH_DATA
  | NO_BUFFER_AVAILABLE
  | ERROR
  deriving DecidableEq, Repr

structure Rect where
  left : ℤ
  top : ℤ
  right : ℤ
  bottom : ℤ
  deriving DecidableEq, Repr

/-- Graphic buffers and fences are known by a number. -/
structure BufferItem where
  mSlot : ℕ := 0
  mGraphicBuffer : ℕ := 0
  mFence : ℕ := 0
  mCrop : Rect := ⟨0, 0, 0, 0⟩
  mTransform : ℕ := 0
  mScalingMode : ℕ := 0
  mTimestamp : ℤ := 0
  mFrameNumber : ℕ := 0
  deriving DecidableEq, Repr

structure RingBufferItem extends BufferItem where
  mPinCount : ℤ := 0
  deriving DecidableEq, Repr

structure BufferInfo where
  mCrop : Rect
  mTransform : ℕ
  mScalingMode : ℕ
  mTimestamp : ℤ
  mFrameNumber : ℕ
  mPinned : Bool
  deriving DecidableEq, Repr

def RingBufferItem.info (item : RingBufferItem) : BufferInfo where
  mCrop := item.mCrop
  mTransform := item.mTransform
  mScalingMode := item.mScalingMode
  mTimestamp := item.mTimestamp
  mFrameNumber := item.mFrameNumber
  mPinned := decide (0 < item.mPinCount)

abbrev RingBufferComparator := Option BufferInfo → BufferInfo → ℤ

/-- What the calls into the consumer's base return when an item is to be released. -/
structure Outcome where
  addReleaseFenceLocked : StatusT := .OK
  releaseBufferLocked : StatusT := .OK
  deriving DecidableEq, Repr

/-- An item that was released, with the list it was taken from. -/
structure Release where
  item : RingBufferItem
  among : List RingBufferItem
  deriving DecidableEq, Repr

/-- `handles` has the item of each `PinnedBufferItem` that is alive. `acquired` and `released` are
only written: the items that were acquired, and those that were released. -/
structure State where
  mBufferCount : { n : ℤ // 0 < n ∧ n ≤ INT_MAX }
  mBufferItemList : List RingBufferItem := []
  mLatestTimestamp : ℤ := 0
  handles : List BufferItem := []
  acquired : List BufferItem := []
  released : List Release := []
  deriving DecidableEq

/-- The local variables of the search for the oldest item: `accIt` with its position, and the
count of pinned items. -/
structure Scan where
  accIt : Option (ℕ × RingBufferItem) := none
  pinnedFrames : ℕ := 0
  deriving DecidableEq, Repr

/-- The comparison with `accIt` is made before `accIt` is compared with `end`; its value does not
matter then. -/
def Scan.visit (scan : Scan) (it : ℕ) (find : RingBufferItem) : Scan :=
  if 0 < find.mPinCount then { scan with pinnedFrames := scan.pinnedFrames + 1 }
  else match scan.accIt with
    | none => { scan with accIt := some (it, find) }
    | some (_, acc) =>
      if find.mTimestamp < acc.mTimestamp then { scan with accIt := some (it, find) } else scan

def Scan.loop (scan : Scan) (it : ℕ) : List RingBufferItem → Scan
  | [] => scan
  | find :: items => (scan.visit it find).loop (it + 1) items

/-- The selection by a filter: `acc` with the item it was made from. -/
def select (filter : RingBufferComparator) (acc : Option (BufferInfo × RingBufferItem)) :
    List RingBufferItem → Option RingBufferItem
  | [] => acc.map Prod.snd
  | item :: items =>
    let cur := item.info
    let ret := filter (acc.map Prod.fst) cur
    if ret = 0 then select filter none items
    else if 0 < ret then select filter (some (cur, item)) items
    else select filter acc items

/-- Adds to the pin count of the first item with this graphic buffer. -/
def changePin (mGraphicBuffer : ℕ) (change : ℤ) : List RingBufferItem → List RingBufferItem
  | [] => []
  | find :: items =>
    if mGraphicBuffer = find.mGraphicBuffer then
      { find with mPinCount := int32 (find.mPinCount + change) } :: items
    else find :: changePin mGraphicBuffer change items

namespace State

def create (bufferCount : { n : ℤ // 0 < n ∧ n ≤ INT_MAX }) : State where
  mBufferCount := bufferCount

/-- The second component is what is added to `*pinnedFrames`. -/
def releaseOldestBufferLocked (o : Outcome) (s : State) : StatusT × ℕ × State :=
  if s.mBufferItemList.isEmpty then (.NOT_ENOUGH_DATA, 0, s)
  else
    let scan := Scan.loop {} 0 s.mBufferItemList
    match scan.accIt with
    | none => (.NO_BUFFER_AVAILABLE, scan.pinnedFrames, s)
    | some (it, item) =>
      if o.addReleaseFenceLocked ≠ .OK then (o.addReleaseFenceLocked, scan.pinnedFrames, s)
      else if o.releaseBufferLocked ≠ .OK then (o.releaseBufferLocked, scan.pinnedFrames, s)
      else (.OK, scan.pinnedFrames, { s with
        mBufferItemList := s.mBufferItemList.eraseIdx it
        released := s.released ++ [⟨item, s.mBufferItemList⟩] })

def makeRoom (o : Outcome) (s : State) : StatusT × State :=
  if sizeT s.mBufferCount ≤ s.mBufferItemList.length then
    let (err, _, s) := s.releaseOldestBufferLocked o
    (err, s)
  else (.OK, s)

/-- The second part. `acquired` is the item that `acquireBufferLocked` fills in, with the graphic
buffer that its slot has then; on an error the new item is erased again. -/
def acquireBuffer (acquired : Option (BufferItem × ℕ)) (s : State) : State :=
  match acquired with
  | none => s
  | some (item, mGraphicBuffer) =>
    let item := { item with mGraphicBuffer }
    { s with
      mBufferItemList := s.mBufferItemList ++ [{ item with }]
      mLatestTimestamp := item.mTimestamp
      acquired := s.acquired ++ [item] }

def onFrameAvailable (o : Outcome) (acquired : Option (BufferItem × ℕ)) (s : State) : State :=
  let (err, s) := s.makeRoom o
  if err = .OK then s.acquireBuffer acquired else s

def pinBufferLocked (item : BufferItem) (s : State) : State :=
  { s with mBufferItemList := changePin item.mGraphicBuffer 1 s.mBufferItemList }

def pinSelectedBuffer (filter : RingBufferComparator) (s : State) : State :=
  match select filter none s.mBufferItemList with
  | none => s
  | some accIt =>
    let pinnedBuffer := accIt.toBufferItem
    { s.pinBufferLocked pinnedBuffer with handles := s.handles ++ [pinnedBuffer] }

/-- `addReleaseFenceLocked` is called only for an item of the list. -/
def unpinBuffer (item : BufferItem) (addReleaseFenceLocked : StatusT) (s : State) : State :=
  if addReleaseFenceLocked = .OK then
    { s with mBufferItemList := changePin item.mGraphicBuffer (-1) s.mBufferItemList }
  else s

/-- The end of a `PinnedBufferItem`. -/
def destroyHandle (handle : ℕ) (addReleaseFenceLocked : StatusT) (s : State) : Option State :=
  (s.handles[handle]?).map fun item ↦
    { s.unpinBuffer item addReleaseFenceLocked with handles := s.handles.eraseIdx handle }

/-- `outcomes` has what the consumer's base answers in the iteration that starts with so many
items. -/
def clearLoop (outcomes : ℕ → Outcome) : ℕ → State → Option (StatusT × State)
  | 0, _ => none
  | fuel + 1, s =>
    let (err, _, t) := s.releaseOldestBufferLocked (outcomes s.mBufferItemList.length)
    match err with
    | .NO_BUFFER_AVAILABLE => some (.OK, t)
    | .NOT_ENOUGH_DATA => some (.OK, t)
    | .ERROR => some (.ERROR, t)
    | .OK => clearLoop outcomes fuel t

def clear (outcomes : ℕ → Outcome) (fuel : ℕ) (s : State) : Option (StatusT × State) :=
  if s.mBufferItemList.length = 0 then some (.OK, s) else clearLoop outcomes fuel s

def getLatestTimestamp (s : State) : ℤ :=
  if s.mBufferItemList.length = 0 then 0 else s.mLatestTimestamp

/-- A buffer queue does not hand out a buffer that its consumer still has. -/
def HandedOut (acquired : Option (BufferItem × ℕ)) (s : State) : Prop :=
  ∀ a ∈ acquired, ∀ item ∈ s.mBufferItemList, item.mGraphicBuffer ≠ a.2

instance (acquired : Option (BufferItem × ℕ)) (s : State) : Decidable (HandedOut acquired s) :=
  inferInstanceAs (Decidable (∀ a ∈ acquired, ∀ item ∈ s.mBufferItemList, _))

end State

inductive Label
  | onFrameAvailable (o : Outcome) (acquired : Option (BufferItem × ℕ))
  | pinSelectedBuffer (filter : RingBufferComparator)
  | unpinBuffer (handle : ℕ) (addReleaseFenceLocked : StatusT)
  | clear (outcomes : ℕ → Outcome)

namespace State

/-- Each call holds `mMutex`. -/
def step (s : State) : Label → Option State
  | .onFrameAvailable o acquired =>
    if HandedOut acquired (s.makeRoom o).2 then some (s.onFrameAvailable o acquired) else none
  | .pinSelectedBuffer filter => some (s.pinSelectedBuffer filter)
  | .unpinBuffer handle addReleaseFenceLocked => s.destroyHandle handle addReleaseFenceLocked
  | .clear outcomes => (s.clear outcomes (s.mBufferItemList.length + 1)).map Prod.snd

end State

/-! ### The search for the oldest item -/

/-- What the search knows of the items it went over. -/
structure Scan.Found (scan : Scan) (items : List RingBufferItem) : Prop where
  pinned : scan.accIt = none → ∀ item ∈ items, 0 < item.mPinCount
  frames : scan.accIt = none → scan.pinnedFrames = items.length
  oldest : ∀ it item, scan.accIt = some (it, item) → items[it]? = some item ∧
    item.mPinCount ≤ 0 ∧ ∀ other ∈ items, other.mPinCount ≤ 0 → item.mTimestamp ≤ other.mTimestamp

/-- The part of it about a chosen item, for one more item that is not older. -/
theorem Scan.Found.oldest_append {scan : Scan} {items : List RingBufferItem}
    (h : scan.Found items) {find : RingBufferItem} {it : ℕ} {item : RingBufferItem}
    (hacc : scan.accIt = some (it, item))
    (hfind : find.mPinCount ≤ 0 → item.mTimestamp ≤ find.mTimestamp) :
    (items ++ [find])[it]? = some item ∧ item.mPinCount ≤ 0 ∧
      ∀ other ∈ items ++ [find], other.mPinCount ≤ 0 → item.mTimestamp ≤ other.mTimestamp := by
  obtain ⟨hget, hpin, hle⟩ := h.oldest it item hacc
  have hit : it < items.length := (List.getElem?_eq_some_iff.mp hget).1
  refine ⟨?_, hpin, ?_⟩
  · rw [List.getElem?_append_left hit]
    exact hget
  · intro other ho hother
    obtain ho | ho := List.mem_append.mp ho
    · exact hle other ho hother
    · rw [List.mem_singleton.mp ho] at hother ⊢
      exact hfind hother

/-- The choice of an item that is not newer than those before. -/
theorem Scan.found_append (scan : Scan) {items : List RingBufferItem} {find : RingBufferItem}
    (hpin : find.mPinCount ≤ 0)
    (hle : ∀ other ∈ items, other.mPinCount ≤ 0 → find.mTimestamp ≤ other.mTimestamp) :
    Scan.Found { scan with accIt := some (items.length, find) } (items ++ [find]) := by
  refine ⟨fun hacc ↦ (by cases hacc), fun hacc ↦ (by cases hacc), fun it item hacc ↦ ?_⟩
  cases hacc
  refine ⟨List.getElem?_concat_length, hpin, fun other ho hother ↦ ?_⟩
  obtain ho | ho := List.mem_append.mp ho
  · exact hle other ho hother
  · rw [List.mem_singleton.mp ho]

theorem Scan.Found.visit {scan : Scan} {items : List RingBufferItem} (h : scan.Found items)
    (find : RingBufferItem) : (scan.visit items.length find).Found (items ++ [find]) := by
  unfold Scan.visit
  split
  · rename_i hpin
    refine ⟨fun hacc item hi ↦ ?_, fun hacc ↦ ?_, fun it item hacc ↦ ?_⟩
    · obtain hi | hi := List.mem_append.mp hi
      · exact h.pinned hacc item hi
      · rw [List.mem_singleton.mp hi]
        exact hpin
    · simp only [h.frames hacc, List.length_append, List.length_singleton]
    · apply h.oldest_append hacc
      omega
  rename_i hpin
  split
  · rename_i hnone
    apply scan.found_append (not_lt.mp hpin)
    intro other ho hother
    have := h.pinned hnone other ho
    omega
  rename_i acc hsome
  obtain ⟨_, _, hle⟩ := h.oldest _ _ hsome
  split
  · rename_i hlt
    apply scan.found_append (not_lt.mp hpin)
    intro other ho hother
    have := hle other ho hother
    omega
  · refine ⟨fun hacc ↦ ?_, fun hacc ↦ ?_, fun it item hacc ↦ ?_⟩
    · rw [hsome] at hacc
      cases hacc
    · rw [hsome] at hacc
      cases hacc
    · cases hsome.symm.trans hacc
      apply h.oldest_append hacc
      omega

theorem Scan.Found.loop {scan : Scan} {done : List RingBufferItem} (h : scan.Found done)
    (items : List RingBufferItem) : (scan.loop done.length items).Found (done ++ items) := by
  induction items generalizing scan done with
  | nil => rwa [List.append_nil]
  | cons find items ih =>
    have hrest := ih (h.visit find)
    rw [List.length_append, List.length_singleton, List.append_assoc] at hrest
    exact hrest

theorem scan_found (items : List RingBufferItem) : (Scan.loop {} 0 items).Found items := by
  have hempty : Scan.Found {} [] :=
    ⟨fun _ _ hi ↦ absurd hi List.not_mem_nil, fun _ ↦ rfl, fun _ _ hacc ↦ by cases hacc⟩
  exact hempty.loop items

/-! ### Pins -/

theorem select_mem {filter : RingBufferComparator} {acc : Option (BufferInfo × RingBufferItem)}
    {items : List RingBufferItem} {item : RingBufferItem} (h : select filter acc items = some item) :
    (∃ info, acc = some (info, item)) ∨ item ∈ items := by
  induction items generalizing acc with
  | nil =>
    obtain ⟨⟨info, _⟩, hacc, rfl⟩ := Option.map_eq_some_iff.mp h
    exact .inl ⟨info, hacc⟩
  | cons first items ih =>
    simp only [select] at h
    split at h
    · obtain ⟨info, hacc⟩ | hmem := ih h
      · cases hacc
      · exact .inr (List.mem_cons_of_mem _ hmem)
    split at h
    · obtain ⟨info, hacc⟩ | hmem := ih h
      · cases hacc
        exact .inr List.mem_cons_self
      · exact .inr (List.mem_cons_of_mem _ hmem)
    · exact (ih h).imp_right (List.mem_cons_of_mem _)

variable {b : ℕ} {change : ℤ} {items : List RingBufferItem}

theorem changePin_toBufferItem (b : ℕ) (change : ℤ) (items : List RingBufferItem) :
    (changePin b change items).map RingBufferItem.toBufferItem =
      items.map RingBufferItem.toBufferItem := by
  induction items with
  | nil => rfl
  | cons find items ih =>
    simp only [changePin]
    split
    · rfl
    · rw [List.map_cons, ih, List.map_cons]

theorem changePin_length (b : ℕ) (change : ℤ) (items : List RingBufferItem) :
    (changePin b change items).length = items.length := by
  have := congrArg List.length (changePin_toBufferItem b change items)
  simpa only [List.length_map] using this

/-- Where the graphic buffers differ, only the item with the graphic buffer changes. -/
theorem mem_changePin (hdistinct : (items.map (·.mGraphicBuffer)).Nodup) {item : RingBufferItem}
    (h : item ∈ changePin b change items) :
    ∃ old ∈ items, item.toBufferItem = old.toBufferItem ∧ item.mPinCount =
      if b = old.mGraphicBuffer then int32 (old.mPinCount + change) else old.mPinCount := by
  induction items with
  | nil => cases h
  | cons find items ih =>
    obtain ⟨hnotin, hdistinct⟩ := List.nodup_cons.mp hdistinct
    simp only [changePin] at h
    split at h
    · rename_i hb
      obtain rfl | h := List.mem_cons.mp h
      · exact ⟨find, List.mem_cons_self, rfl, (if_pos hb).symm⟩
      · refine ⟨item, List.mem_cons_of_mem _ h, rfl, (if_neg fun hbi ↦ hnotin ?_).symm⟩
        exact List.mem_map.mpr ⟨item, h, hbi.symm.trans hb⟩
    · rename_i hb
      obtain rfl | h := List.mem_cons.mp h
      · exact ⟨item, List.mem_cons_self, rfl, (if_neg hb).symm⟩
      · obtain ⟨old, hold, heq⟩ := ih hdistinct h
        exact ⟨old, List.mem_cons_of_mem _ hold, heq⟩

end VirtualCamera.RingBuffer
