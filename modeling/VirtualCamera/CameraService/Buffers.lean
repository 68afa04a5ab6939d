import VirtualCamera.CameraService.Records

namespace VirtualCamera.CameraService.InFlight

open Library Assoc

/-! ### Where the buffers are

A buffer counts with the stream that it is of, so a buffer that goes to another stream is
missing. -/

/-- The buffers of a list of stream buffers, some of which have none. -/
def handles (bs : List StreamBuffer) : Multiset (ℤ × ℕ) :=
  ↑(bs.filterMap fun b ↦ b.buffer.map fun buffer ↦ (b.stream, buffer))

structure Item where
  frameNumber : ℕ
  stream : ℤ
  buffer : ℕ
  status : BufferStatus
  deriving DecidableEq, Repr

def items (frameNumber : ℕ) (bs : List StreamBuffer) : Multiset Item :=
  ↑(bs.filterMap fun b ↦
    b.buffer.map fun buffer ↦ (⟨frameNumber, b.stream, buffer, b.status⟩ : Item))

def Item.handle (i : Item) : ℤ × ℕ := (i.stream, i.buffer)

/-- The buffers that wait in the entries of the map. -/
def pending (inflightMap : Map ℕ InFlightRequest) : Multiset (ℤ × ℕ) :=
  (values inflightMap).bind fun r ↦ handles r.pendingOutputBuffers

/-- The buffers in the two maps of `BufferRecords`. -/
def State.recorded (s : State) : Multiset (ℤ × ℕ) :=
  ((s.mInflightBufferMap.entries.map fun entry ↦ (entry.1.2, entry.2) : List (ℤ × ℕ)) :
    Multiset (ℤ × ℕ)) + values s.mRequestedBufferMap

/-- The buffers that have gone to the output streams. -/
def Outputs.delivered (o : Outputs) : Multiset Item :=
  ↑(o.returned.map fun r ↦ (⟨r.frameNumber, r.stream, r.buffer, r.status⟩ : Item))

def Outputs.sent (o : Outputs) : Multiset (ℤ × ℕ) := o.delivered.map Item.handle

/-- The buffers that have gone back to their streams. -/
def State.sent (s : State) : Multiset (ℤ × ℕ) := s.outputs.sent + ↑s.returnedInputs

/-- The buffers that are still to go back. -/
def State.outstanding (s : State) : Multiset (ℤ × ℕ) := pending s.inflightMap + s.recorded

@[simp] theorem handles_nil : handles [] = 0 := rfl

theorem map_items (frameNumber : ℕ) (bs : List StreamBuffer) :
    (items frameNumber bs).map Item.handle = handles bs := by
  unfold items handles
  rw [Multiset.map_coe, List.map_filterMap]
  congr 2
  funext b
  rw [Option.map_map]
  rfl

theorem items_append (frameNumber : ℕ) (bs cs : List StreamBuffer) :
    items frameNumber (bs ++ cs) = items frameNumber bs + items frameNumber cs := by
  rw [items, List.filterMap_append, ← Multiset.coe_add]
  rfl

theorem handles_append (bs cs : List StreamBuffer) :
    handles (bs ++ cs) = handles bs + handles cs := by
  rw [← map_items 0, items_append, Multiset.map_add, map_items, map_items]

theorem mem_handles {bs : List StreamBuffer} {p : ℤ × ℕ} :
    p ∈ handles bs ↔ ∃ b ∈ bs, b.stream = p.1 ∧ b.buffer = some p.2 := by
  unfold handles
  rw [Multiset.mem_coe, List.mem_filterMap]
  apply exists_congr
  intro b
  rw [Option.map_eq_some_iff]
  grind

/-- A part of the buffers and the rest of them. -/
theorem items_filter_add (frameNumber : ℕ) (p : StreamBuffer → Bool) (bs : List StreamBuffer) :
    items frameNumber (bs.filter p) + items frameNumber (bs.filter fun b ↦ !p b) =
      items frameNumber bs := by
  rw [← items_append, items, items, Multiset.coe_eq_coe]
  exact (List.filter_append_perm p bs).filterMap _

theorem handles_filter_add (p : StreamBuffer → Bool) (bs : List StreamBuffer) :
    handles (bs.filter p) + handles (bs.filter fun b ↦ !p b) = handles bs := by
  rw [← map_items 0, ← map_items 0, ← map_items 0, ← Multiset.map_add, items_filter_add]

/-! ### The map -/

theorem pending_insert (inflightMap : Map ℕ InFlightRequest) (frameNumber : ℕ)
    (r : InFlightRequest) :
    pending (inflightMap.insert frameNumber r) =
      handles r.pendingOutputBuffers + pending (inflightMap.erase frameNumber) := by
  rw [pending, values_insert, Multiset.cons_bind]
  rfl

theorem pending_of_lookup {inflightMap : Map ℕ InFlightRequest} {frameNumber : ℕ}
    {r : InFlightRequest} (h : inflightMap.lookup frameNumber = some r) :
    pending inflightMap =
      handles r.pendingOutputBuffers + pending (inflightMap.erase frameNumber) := by
  rw [pending, values_of_lookup h, Multiset.cons_bind]
  rfl

/-! ### The records -/

theorem popInflightBuffer_some {s t : State} {frameNumber : ℕ} {streamId : ℤ} {buffer : ℕ}
    (h : s.popInflightBuffer frameNumber streamId = some (buffer, t)) :
    s.recorded = (streamId, buffer) ::ₘ t.recorded ∧
      t = { s with mInflightBufferMap := s.mInflightBufferMap.erase (frameNumber, streamId) } := by
  obtain ⟨buffer', hlookup, heq⟩ := Option.map_eq_some_iff.mp h
  obtain ⟨rfl, rfl⟩ := Prod.mk.inj heq
  refine ⟨?_, rfl⟩
  have he := congrArg (Multiset.map fun entry ↦ (entry.1.2, entry.2)) (entries_of_lookup hlookup)
  rw [Multiset.map_cons] at he
  unfold State.recorded
  rw [← Multiset.map_coe, he, Multiset.cons_add]
  rfl

theorem popInflightBuffer_none {s : State} {frameNumber : ℕ} {streamId : ℤ}
    (h : s.popInflightBuffer frameNumber streamId = none) :
    s.mInflightBufferMap.erase (frameNumber, streamId) = s.mInflightBufferMap := by
  apply erase_of_notMem
  exact AList.lookup_eq_none.mp (Option.map_eq_none_iff.mp h)

theorem popInflightRequestBuffer_some {s t : State} {bufferId : ℕ} {record : ℤ × ℕ}
    (h : s.popInflightRequestBuffer bufferId = some (record, t)) :
    s.recorded = record ::ₘ t.recorded ∧
      t = { s with mRequestedBufferMap := s.mRequestedBufferMap.erase bufferId } := by
  obtain ⟨record', hlookup, heq⟩ := Option.map_eq_some_iff.mp h
  obtain ⟨rfl, rfl⟩ := Prod.mk.inj heq
  refine ⟨?_, rfl⟩
  unfold State.recorded
  rw [values_of_lookup hlookup, Multiset.add_cons]

theorem popInflightRequestBuffer_none {s : State} {bufferId : ℕ}
    (h : s.popInflightRequestBuffer bufferId = none) :
    s.mRequestedBufferMap.erase bufferId = s.mRequestedBufferMap := by
  apply erase_of_notMem
  exact AList.lookup_eq_none.mp (Option.map_eq_none_iff.mp h)

/-! ### Returning -/

/-- What a stream is given for a buffer. -/
def StreamBuffer.returned (b : StreamBuffer) (strategy : ErrorBufStrategy) (timestamp : ℤ)
    (frameNumber : ℕ) (transform : ℤ) : Option ReturnedBuffer :=
  if strategy.returns b then
    b.buffer.map fun buffer ↦ ⟨b.stream, buffer, b.status, timestamp, frameNumber, transform⟩
  else none

theorem returned_returnOutputBuffer (c : Config) (timestamp : ℤ) (outputSurfaces : List ℤ)
    (extras : CaptureResultExtras) (strategy : ErrorBufStrategy) (transform : ℤ) (o : Outputs)
    (b : StreamBuffer) :
    (o.returnOutputBuffer c timestamp outputSurfaces extras strategy transform b).returned =
      o.returned ++ (b.returned strategy timestamp extras.frameNumber transform).toList := by
  unfold Outputs.returnOutputBuffer StreamBuffer.returned
  cases b.buffer <;> dsimp only <;> split_ifs <;> simp

theorem returned_returnOutputBuffers (c : Config) (o : Outputs) (bs : List StreamBuffer)
    (timestamp : ℤ) (outputSurfaces : List ℤ) (extras : CaptureResultExtras)
    (strategy : ErrorBufStrategy) (transform : ℤ) :
    (o.returnOutputBuffers c bs timestamp outputSurfaces extras strategy transform).returned =
      o.returned ++ bs.filterMap fun b ↦
        b.returned strategy timestamp extras.frameNumber transform := by
  unfold Outputs.returnOutputBuffers
  induction bs generalizing o with
  | nil => simp
  | cons b bs ih =>
    rw [List.foldl_cons, ih, returned_returnOutputBuffer, List.append_assoc]
    congr 1
    cases hb : b.returned strategy timestamp extras.frameNumber transform <;>
      simp [hb]

/-- The buffers that the strategy lets go back are delivered. -/
theorem delivered_returnOutputBuffers (c : Config) (o : Outputs) (bs : List StreamBuffer)
    (timestamp : ℤ) (outputSurfaces : List ℤ) (extras : CaptureResultExtras)
    (strategy : ErrorBufStrategy) (transform : ℤ) :
    (o.returnOutputBuffers c bs timestamp outputSurfaces extras strategy transform).delivered =
      o.delivered + items extras.frameNumber (bs.filter strategy.returns) := by
  unfold Outputs.delivered items
  rw [returned_returnOutputBuffers, List.map_append, ← Multiset.coe_add, List.map_filterMap,
    List.filterMap_filter]
  congr 3
  funext b
  unfold StreamBuffer.returned
  split
  · rw [Option.map_map]
    rfl
  · rfl

theorem sent_returnOutputBuffers (c : Config) (o : Outputs) (bs : List StreamBuffer)
    (timestamp : ℤ) (outputSurfaces : List ℤ) (extras : CaptureResultExtras)
    (strategy : ErrorBufStrategy) (transform : ℤ) :
    (o.returnOutputBuffers c bs timestamp outputSurfaces extras strategy transform).sent =
      o.sent + handles (bs.filter strategy.returns) := by
  rw [Outputs.sent, delivered_returnOutputBuffers, Multiset.map_add, map_items]
  rfl

end VirtualCamera.CameraService.InFlight
