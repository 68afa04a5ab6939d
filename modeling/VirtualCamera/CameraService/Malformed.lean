import Mathlib.Data.Multiset.OrderedMonoid
import VirtualCamera.CameraService.Receiving

namespace VirtualCamera.CameraService.Malformed

open Library Assoc Transition InFlight

/-! ### Reading the outputs -/

/-- The HAL has returned the output before it has got a buffer. -/
def NoBuffer (c : Config) (b : HidlStreamBuffer) : Prop :=
  c.useHalBufManager ∧ b.bufferId = BUFFER_ID_NO_BUFFER

instance (c : Config) (b : HidlStreamBuffer) : Decidable (NoBuffer c b) :=
  inferInstanceAs (Decidable (_ ∧ _))

/-- What an output is recorded under. -/
def key (c : Config) (b : HidlStreamBuffer) : ℤ :=
  if c.useHalBufManager then b.bufferId else b.streamId

/-- The buffer that is recorded for an output, with its stream. -/
def record (c : Config) (s : State) (frameNumber : ℕ) (b : HidlStreamBuffer) : Option (ℤ × ℕ) :=
  if c.useHalBufManager then
    if b.bufferId = BUFFER_ID_NO_BUFFER then none else s.mRequestedBufferMap.lookup b.bufferId
  else
    (s.mInflightBufferMap.lookup (frameNumber, b.streamId)).map fun buffer ↦ (b.streamId, buffer)

/-- The parts of the state that reading a result changes. -/
structure Reads (s t : State) : Prop where
  inflightMap : t.inflightMap = s.inflightMap
  outputs : t.outputs = s.outputs
  returnedInputs : t.returnedInputs = s.returnedInputs

theorem Reads.trans {s t u : State} (h : Reads s t) (h' : Reads t u) : Reads s u :=
  ⟨h'.inflightMap.trans h.inflightMap, h'.outputs.trans h.outputs,
    h'.returnedInputs.trans h.returnedInputs⟩

/-- What is left when an output has given its buffer up. -/
structure Pops (c : Config) (frameNumber : ℕ) (b : HidlStreamBuffer) (s t : State) : Prop where
  reads : Reads s t
  record : ∀ b', record c t frameNumber b' =
    if key c b' = key c b then none else record c s frameNumber b'
  lookup : ∀ id, t.mInflightBufferMap.lookup (frameNumber, id) =
    if c.useHalBufManager = false ∧ id = b.streamId then none
    else s.mInflightBufferMap.lookup (frameNumber, id)

theorem popOutput_none {c : Config} {s : State} {frameNumber : ℕ} {b : HidlStreamBuffer}
    (h : s.popOutput c frameNumber b = none) :
    ¬ NoBuffer c b ∧ record c s frameNumber b = none := by
  unfold State.popOutput at h
  split at h
  · rename_i huse
    split at h
    · cases h
    · rename_i hbuffer
      refine ⟨fun hno ↦ hbuffer hno.2, ?_⟩
      rw [record, if_pos huse, if_neg hbuffer]
      exact Option.map_eq_none_iff.mp (Option.map_eq_none_iff.mp h)
  · rename_i huse
    refine ⟨fun hno ↦ huse hno.1, ?_⟩
    rw [record, if_neg huse, Option.map_eq_none_iff.mp (Option.map_eq_none_iff.mp h)]
    rfl

theorem popOutput_some {c : Config} {s t : State} {frameNumber : ℕ} {b : HidlStreamBuffer}
    {buffer : Option ℕ} (h : s.popOutput c frameNumber b = some (buffer, t)) :
    (NoBuffer c b ∧ buffer = none ∧ t = s) ∨
      ∃ p, ¬ NoBuffer c b ∧ record c s frameNumber b = some p ∧ buffer = some p.2 ∧
        s.recorded = p ::ₘ t.recorded ∧ Pops c frameNumber b s t := by
  unfold State.popOutput at h
  split at h
  · rename_i huse
    split at h
    · rename_i hbuffer
      obtain ⟨rfl, rfl⟩ := Prod.mk.inj (Option.some.inj h)
      exact .inl ⟨⟨huse, hbuffer⟩, rfl, rfl⟩
    · rename_i hbuffer
      obtain ⟨⟨p, t'⟩, hpop, heq⟩ := Option.map_eq_some_iff.mp h
      obtain ⟨rfl, rfl⟩ := Prod.mk.inj heq
      obtain ⟨hrecorded, ht⟩ := popInflightRequestBuffer_some hpop
      have hlookup : s.mRequestedBufferMap.lookup b.bufferId = some p := by
        obtain ⟨p', hlookup, heq⟩ := Option.map_eq_some_iff.mp hpop
        rw [hlookup, (Prod.mk.inj heq).1]
      refine .inr ⟨p, fun hno ↦ hbuffer hno.2, ?_, rfl, hrecorded, ?_⟩
      · rw [record, if_pos huse, if_neg hbuffer, hlookup]
      · subst ht
        refine ⟨⟨rfl, rfl, rfl⟩, fun b' ↦ ?_, fun id ↦ ?_⟩
        · simp only [record, key, huse, if_true, lookup_erase, Nat.cast_inj]
          split_ifs <;> rfl
        · rw [if_neg (fun hf ↦ by simp [huse] at hf)]
  · rename_i huse
    obtain ⟨⟨buffer', t'⟩, hpop, heq⟩ := Option.map_eq_some_iff.mp h
    obtain ⟨rfl, rfl⟩ := Prod.mk.inj heq
    obtain ⟨hrecorded, ht⟩ := popInflightBuffer_some hpop
    have hlookup : s.mInflightBufferMap.lookup (frameNumber, b.streamId) = some buffer' := by
      obtain ⟨p', hlookup, heq⟩ := Option.map_eq_some_iff.mp hpop
      rw [hlookup, (Prod.mk.inj heq).1]
    refine .inr ⟨(b.streamId, buffer'), fun hno ↦ huse hno.1, ?_, rfl, hrecorded, ?_⟩
    · rw [record, if_neg huse, hlookup]
      rfl
    · subst ht
      refine ⟨⟨rfl, rfl, rfl⟩, fun b' ↦ ?_, fun id ↦ ?_⟩
      · simp only [record, key, Bool.eq_false_iff.mpr huse, Bool.false_eq_true, if_false,
          lookup_erase, Prod.mk.injEq, true_and]
        split_ifs <;> rfl
      · simp only [lookup_erase, Prod.mk.injEq, true_and, Bool.eq_false_iff.mpr huse]

/-- Every output can be read: its stream is there, its fence has one descriptor, and its buffer
is recorded under a key of its own. -/
structure Readable (c : Config) (s : State) (frameNumber : ℕ) (bs : List HidlStreamBuffer) :
    Prop where
  stream : ∀ b ∈ bs, b.streamId ∈ c.outputStreams
  fence : ∀ b ∈ bs, b.fence ≠ none
  recorded : ∀ b ∈ bs, NoBuffer c b ∨ record c s frameNumber b ≠ none
  distinct : ((bs.filter fun b ↦ ¬ NoBuffer c b).map (key c)).Nodup

/-- The output has nothing to give up and stops nothing. -/
def Skipped (c : Config) (b : HidlStreamBuffer) : Prop :=
  NoBuffer c b ∧ b.streamId ∈ c.outputStreams ∧ b.fence ≠ none

instance (c : Config) (b : HidlStreamBuffer) : Decidable (Skipped c b) :=
  inferInstanceAs (Decidable (_ ∧ _))

/-- The first output that is not skipped gives a buffer up. -/
def TakesOutput (c : Config) (s : State) (frameNumber : ℕ) (bs : List HidlStreamBuffer) : Prop :=
  ∃ b, bs.find? (fun b ↦ ¬ Skipped c b) = some b ∧ b.streamId ∈ c.outputStreams ∧
    record c s frameNumber b ≠ none

/-- The output as `processCaptureResult` is given it. -/
def output (c : Config) (s : State) (frameNumber : ℕ) (b : HidlStreamBuffer) : StreamBuffer :=
  ⟨b.streamId, (record c s frameNumber b).map Prod.snd, b.status, b.fence.join⟩

theorem record_of_noBuffer {c : Config} {s : State} {frameNumber : ℕ} {b : HidlStreamBuffer}
    (h : NoBuffer c b) : record c s frameNumber b = none := by
  rw [record, if_pos h.1, if_pos h.2]

theorem readable_cons_iff {c : Config} {s t : State} {frameNumber : ℕ} {b : HidlStreamBuffer}
    (bs : List HidlStreamBuffer) (hb : ¬ NoBuffer c b) (h : Pops c frameNumber b s t) :
    Readable c s frameNumber (b :: bs) ↔ b.streamId ∈ c.outputStreams ∧ b.fence ≠ none ∧
      record c s frameNumber b ≠ none ∧ Readable c t frameNumber bs := by
  have hfilter : ((b :: bs).filter fun b ↦ ¬ NoBuffer c b) =
      b :: bs.filter fun b ↦ ¬ NoBuffer c b := List.filter_cons_of_pos (by simpa using hb)
  have hfresh : key c b ∉ (bs.filter fun b ↦ ¬ NoBuffer c b).map (key c) ↔
      ∀ b' ∈ bs, NoBuffer c b' ∨ key c b' ≠ key c b := by
    simp only [List.mem_map, List.mem_filter, decide_eq_true_eq]
    grind
  constructor
  · intro hr
    have hdistinct := hr.distinct
    rw [hfilter, List.map_cons, List.nodup_cons] at hdistinct
    refine ⟨hr.stream b List.mem_cons_self, hr.fence b List.mem_cons_self,
      (hr.recorded b List.mem_cons_self).resolve_left hb,
      fun b' hb' ↦ hr.stream b' (List.mem_cons_of_mem b hb'),
      fun b' hb' ↦ hr.fence b' (List.mem_cons_of_mem b hb'), fun b' hb' ↦ ?_, hdistinct.2⟩
    rcases hfresh.mp hdistinct.1 b' hb' with hno | hkey
    · exact .inl hno
    · rw [h.record, if_neg hkey]
      exact hr.recorded b' (List.mem_cons_of_mem b hb')
  · intro hcond
    obtain ⟨hstream, hfence, hrecord, hr⟩ := hcond
    refine ⟨List.forall_mem_cons.mpr ⟨hstream, hr.stream⟩,
      List.forall_mem_cons.mpr ⟨hfence, hr.fence⟩,
      List.forall_mem_cons.mpr ⟨.inr hrecord, fun b' hb' ↦ ?_⟩, ?_⟩
    · have hb'' := hr.recorded b' hb'
      rw [h.record] at hb''
      split at hb''
      · exact .inl (hb''.resolve_right fun hne ↦ hne rfl)
      · exact hb''
    · rw [hfilter, List.map_cons, List.nodup_cons]
      refine ⟨hfresh.mpr fun b' hb' ↦ ?_, hr.distinct⟩
      have hb'' := hr.recorded b' hb'
      rw [h.record] at hb''
      split at hb''
      · exact .inl (hb''.resolve_right fun hne ↦ hne rfl)
      · rename_i hkey
        exact .inr hkey

theorem readable_skip_iff {c : Config} (s : State) (frameNumber : ℕ) {b : HidlStreamBuffer}
    (bs : List HidlStreamBuffer) (hb : NoBuffer c b) :
    Readable c s frameNumber (b :: bs) ↔ b.streamId ∈ c.outputStreams ∧ b.fence ≠ none ∧
      Readable c s frameNumber bs := by
  have hfilter : ((b :: bs).filter fun b ↦ ¬ NoBuffer c b) = bs.filter fun b ↦ ¬ NoBuffer c b :=
    List.filter_cons_of_neg (by simpa using hb)
  constructor
  · intro h
    have hdistinct := h.distinct
    rw [hfilter] at hdistinct
    exact ⟨h.stream b List.mem_cons_self, h.fence b List.mem_cons_self,
      fun b' hb' ↦ h.stream b' (List.mem_cons_of_mem b hb'),
      fun b' hb' ↦ h.fence b' (List.mem_cons_of_mem b hb'),
      fun b' hb' ↦ h.recorded b' (List.mem_cons_of_mem b hb'), hdistinct⟩
  · intro hcond
    obtain ⟨hstream, hfence, h⟩ := hcond
    refine ⟨List.forall_mem_cons.mpr ⟨hstream, h.stream⟩,
      List.forall_mem_cons.mpr ⟨hfence, h.fence⟩,
      List.forall_mem_cons.mpr ⟨.inl hb, h.recorded⟩, ?_⟩
    rw [hfilter]
    exact h.distinct

/-- What has been read is what was recorded before. -/
theorem record_of_pops {c : Config} {s t : State} {frameNumber : ℕ} {b : HidlStreamBuffer}
    {bs : List HidlStreamBuffer} (h : Pops c frameNumber b s t) (hr : Readable c t frameNumber bs) :
    ∀ b' ∈ bs, record c t frameNumber b' = record c s frameNumber b' := by
  intro b' hb'
  rcases hr.recorded b' hb' with hno | hrecord
  · rw [record_of_noBuffer hno, record_of_noBuffer hno]
  · rw [h.record] at hrecord ⊢
    split at hrecord
    · exact absurd rfl hrecord
    · rename_i hkey
      exact if_neg hkey

/-- The outputs can be read, and this is what is left. -/
structure Read (c : Config) (frameNumber : ℕ) (bs : List HidlStreamBuffer) (s t : State) : Prop where
  readOutputs : s.readOutputs c frameNumber bs = .ok (bs.map (output c s frameNumber), t)
  reads : Reads s t
  recorded : s.recorded = ↑(bs.filterMap (record c s frameNumber)) + t.recorded
  lookup : ∀ id, t.mInflightBufferMap.lookup (frameNumber, id) =
    if c.useHalBufManager = false ∧ id ∈ bs.map HidlStreamBuffer.streamId then none
    else s.mInflightBufferMap.lookup (frameNumber, id)

/-- The outputs cannot be read, and this is what is left. -/
structure Stopped (c : Config) (frameNumber : ℕ) (bs : List HidlStreamBuffer) (s t : State)
    (taken : Multiset (ℤ × ℕ)) : Prop where
  readOutputs : s.readOutputs c frameNumber bs = .error t
  reads : Reads s t
  recorded : s.recorded = taken + t.recorded
  taken : taken = 0 ↔ ¬ TakesOutput c s frameNumber bs

theorem takesOutput_cons_of_not_skipped {c : Config} {s : State} {frameNumber : ℕ}
    {b : HidlStreamBuffer} {bs : List HidlStreamBuffer} (h : ¬ Skipped c b) :
    TakesOutput c s frameNumber (b :: bs) ↔
      b.streamId ∈ c.outputStreams ∧ record c s frameNumber b ≠ none := by
  unfold TakesOutput
  rw [List.find?_cons_of_pos (by simpa using h)]
  simp only [Option.some.injEq]
  constructor
  · intro hcond
    obtain ⟨b', rfl, hb'⟩ := hcond
    exact hb'
  · intro hb
    exact ⟨b, rfl, hb⟩

/-- The first output stops the reading before it gives a buffer up. -/
theorem Stopped.first {c : Config} {frameNumber : ℕ} {b : HidlStreamBuffer}
    {bs : List HidlStreamBuffer} {s : State} (hread : s.readOutput c frameNumber b = .error s)
    (hskipped : ¬ Skipped c b)
    (hb : ¬ (b.streamId ∈ c.outputStreams ∧ record c s frameNumber b ≠ none)) :
    Stopped c frameNumber (b :: bs) s s 0 where
  readOutputs := by rw [State.readOutputs, hread]
  reads := ⟨rfl, rfl, rfl⟩
  recorded := (zero_add _).symm
  taken := by
    rw [takesOutput_cons_of_not_skipped hskipped]
    exact iff_of_true rfl hb

/-- The outputs are read or stop the reading. -/
def Reading (c : Config) (frameNumber : ℕ) (s : State) (bs : List HidlStreamBuffer) : Prop :=
  (Readable c s frameNumber bs ∧ ∃ t, Read c frameNumber bs s t) ∨
    (¬ Readable c s frameNumber bs ∧ ∃ t taken, Stopped c frameNumber bs s t taken)

theorem Reading.skip {c : Config} {frameNumber : ℕ} {s : State} {b : HidlStreamBuffer}
    {bs : List HidlStreamBuffer} (hstream : b.streamId ∈ c.outputStreams) (hno : NoBuffer c b)
    (hpop : s.popOutput c frameNumber b = some (none, s)) (ih : Reading c frameNumber s bs) :
    Reading c frameNumber s (b :: bs) := by
  have hread := readable_skip_iff s frameNumber bs hno
  cases hfence : b.fence with
  | none =>
    refine .inr ⟨fun h ↦ h.fence b List.mem_cons_self hfence, s, 0,
      .first ?_ (fun h ↦ h.2.2 hfence) fun h ↦ h.2 (record_of_noBuffer hno)⟩
    rw [State.readOutput, if_neg (not_not.mpr hstream), hpop]
    dsimp only
    rw [hfence]
  | some fence =>
    have hfence' : b.fence ≠ none := by rw [hfence]; exact Option.some_ne_none fence
    have houtput : s.readOutput c frameNumber b = .ok (output c s frameNumber b, s) := by
      rw [State.readOutput, if_neg (not_not.mpr hstream), hpop]
      dsimp only
      rw [hfence, output, record_of_noBuffer hno, hfence]
      rfl
    have hmatch : TakesOutput c s frameNumber (b :: bs) ↔ TakesOutput c s frameNumber bs := by
      unfold TakesOutput
      rw [List.find?_cons_of_neg (by simpa using ⟨hno, hstream, hfence'⟩)]
    rcases ih with ⟨hreadable, t, h⟩ | ⟨hreadable, t, taken, h⟩
    · refine .inl ⟨hread.mpr ⟨hstream, hfence', hreadable⟩, t, ?_, h.reads, ?_, fun id ↦ ?_⟩
      · rw [State.readOutputs, houtput]
        dsimp only
        rw [h.readOutputs]
        rfl
      · rw [List.filterMap_cons_none (record_of_noBuffer hno)]
        exact h.recorded
      · rw [h.lookup, hno.1]
        simp
    · refine .inr ⟨fun hr ↦ hreadable (hread.mp hr).2.2, t, taken, ?_, h.reads, h.recorded,
        h.taken.trans (not_congr hmatch.symm)⟩
      rw [State.readOutputs, houtput]
      dsimp only
      rw [h.readOutputs]

theorem Reading.take {c : Config} {frameNumber : ℕ} {s t : State} {b : HidlStreamBuffer}
    {bs : List HidlStreamBuffer} {p : ℤ × ℕ} (hstream : b.streamId ∈ c.outputStreams)
    (hno : ¬ NoBuffer c b) (hrecord : record c s frameNumber b = some p)
    (hpop : s.popOutput c frameNumber b = some (some p.2, t))
    (hrecorded : s.recorded = p ::ₘ t.recorded) (hpops : Pops c frameNumber b s t)
    (ih : Reading c frameNumber t bs) : Reading c frameNumber s (b :: bs) := by
  have hread := readable_cons_iff bs hno hpops
  have hrecord' : record c s frameNumber b ≠ none := by
    rw [hrecord]
    exact Option.some_ne_none p
  have htakes : TakesOutput c s frameNumber (b :: bs) :=
    (takesOutput_cons_of_not_skipped fun h ↦ hno h.1).mpr ⟨hstream, hrecord'⟩
  cases hfence : b.fence with
  | none =>
    refine .inr ⟨fun h ↦ h.fence b List.mem_cons_self hfence, t, {p}, ?_, hpops.reads, hrecorded, ?_⟩
    · have herror : s.readOutput c frameNumber b = .error t := by
        rw [State.readOutput, if_neg (not_not.mpr hstream), hpop]
        dsimp only
        rw [hfence]
      rw [State.readOutputs, herror]
    · exact iff_of_false (Multiset.singleton_ne_zero p) (not_not.mpr htakes)
  | some fence =>
    have hfence' : b.fence ≠ none := by rw [hfence]; exact Option.some_ne_none fence
    have houtput : s.readOutput c frameNumber b = .ok (output c s frameNumber b, t) := by
      rw [State.readOutput, if_neg (not_not.mpr hstream), hpop]
      dsimp only
      rw [hfence, output, hrecord, hfence]
      rfl
    rcases ih with ⟨hreadable, u, h⟩ | ⟨hreadable, u, taken, h⟩
    · have hsame := record_of_pops hpops hreadable
      refine .inl ⟨hread.mpr ⟨hstream, hfence', hrecord', hreadable⟩, u, ?_,
        hpops.reads.trans h.reads, ?_, fun id ↦ ?_⟩
      · have houtputs : bs.map (output c t frameNumber) = bs.map (output c s frameNumber) :=
          List.map_congr_left fun b' hb' ↦ by rw [output, output, hsame b' hb']
        rw [State.readOutputs, houtput]
        dsimp only
        rw [h.readOutputs, houtputs]
        rfl
      · rw [List.filterMap_cons_some hrecord, hrecorded, h.recorded,
          List.filterMap_congr hsame, ← Multiset.cons_coe, Multiset.cons_add]
      · rw [h.lookup, hpops.lookup, List.map_cons, ← ite_or]
        refine if_congr ?_ rfl rfl
        rw [← and_or_left, List.mem_cons, or_comm]
    · refine .inr ⟨fun hr ↦ hreadable (hread.mp hr).2.2.2, u, p ::ₘ taken, ?_,
        hpops.reads.trans h.reads, ?_, ?_⟩
      · rw [State.readOutputs, houtput]
        dsimp only
        rw [h.readOutputs]
      · rw [hrecorded, h.recorded, Multiset.cons_add]
      · exact iff_of_false (Multiset.cons_ne_zero) (not_not.mpr htakes)

/-- How the outputs are read. -/
theorem reading (c : Config) (frameNumber : ℕ) (s : State) (bs : List HidlStreamBuffer) :
    Reading c frameNumber s bs := by
  induction bs generalizing s with
  | nil =>
    refine .inl ⟨⟨nofun, nofun, nofun, List.nodup_nil⟩, s, rfl, ⟨rfl, rfl, rfl⟩, ?_, fun id ↦ ?_⟩
    · exact (zero_add _).symm
    · simp
  | cons b bs ih =>
    by_cases hstream : b.streamId ∈ c.outputStreams
    · cases hpop : s.popOutput c frameNumber b with
      | none =>
        obtain ⟨hno, hrecord⟩ := popOutput_none hpop
        refine .inr ⟨fun h ↦ ?_, s, 0, .first ?_ (fun h ↦ hno h.1) fun h ↦ h.2 hrecord⟩
        · rcases h.recorded b List.mem_cons_self with hno' | hrecord'
          · exact hno hno'
          · exact hrecord' hrecord
        · rw [State.readOutput, if_neg (not_not.mpr hstream), hpop]
      | some popped =>
        obtain ⟨buffer, t⟩ := popped
        rcases popOutput_some hpop with ⟨hno, rfl, rfl⟩ | ⟨p, hno, hrecord, rfl, hrecorded, hpops⟩
        · exact .skip hstream hno hpop (ih _)
        · exact .take hstream hno hrecord hpop hrecorded hpops (ih t)
    · refine .inr ⟨fun h ↦ hstream (h.stream b List.mem_cons_self), s, 0,
        .first ?_ (fun h ↦ hstream h.2.1) fun h ↦ hstream h.1⟩
      rw [State.readOutput, if_pos hstream]

/-! ### Delivering what has been read -/

/-- The result passes every check of `processCaptureResult`; `r` is the entry of its frame. -/
structure Delivered (c : Config) (s : State) (result : HalResult) (r : InFlightRequest) : Prop where
  data : ¬ (result.result = none ∧ result.output_buffers = [] ∧ result.input_buffer = none)
  partialResult : ¬ (c.usePartialResult = false ∧ result.result ≠ none ∧ result.partial_result ≠ 1)
  lookup : s.inflightMap.lookup result.frame_number = some r
  accepts : Accepts c r result

/-- The request ends with the result while its error buffers are kept back. -/
def EndsWithCached (c : Config) (r : InFlightRequest) (result : HalResult) : Prop :=
  r.errorBufStrategy = .ERROR_BUF_CACHE ∧ result.isFinal c = false ∧
    r.numBuffersLeft = numBuffersReturned r result ∧
    (r.skipResultMetadata ∨ (r.haveResultMetadata ∧ r.shutterTimestamp ≠ 0)) ∧
    ∃ b ∈ r.pendingOutputBuffers ++ result.output_buffers, b.status = .ERROR ∧ b.buffer ≠ none

/-- The input buffer that goes back with the result. -/
def returnedInput (r : InFlightRequest) (result : HalResult) : Multiset (ℤ × ℕ) :=
  if r.hasInputBuffer then handles result.input_buffer.toList else 0

/-- What waits and what has gone back. -/
def delivered (s : State) : Multiset (ℤ × ℕ) := s.sent + pending s.inflightMap

theorem delivered_drop (s : State) {frameNumber : ℕ} {r r' : InFlightRequest}
    (hlookup : s.inflightMap.lookup frameNumber = some r)
    (h : r'.pendingOutputBuffers = r.pendingOutputBuffers) :
    delivered (s.drop frameNumber r') = delivered s := by
  unfold delivered
  rw [pending_of_lookup hlookup, ← h]
  exact congrArg (s.sent + ·) (pending_insert _ _ _)

theorem sent_returnInput (s : State) (r : InFlightRequest) (result : HalResult) :
    delivered (s.returnInput r.hasInputBuffer result) = delivered s + returnedInput r result := by
  unfold State.returnInput returnedInput
  cases result.input_buffer with
  | none => simp
  | some b =>
    cases r.hasInputBuffer with
    | false => simp
    | true =>
      have hhandles : handles [b] = ↑(b.buffer.toList.map fun h ↦ (b.stream, h)) := by
        cases hb : b.buffer <;> simp [handles, hb]
      simp only [if_true, Option.toList_some, hhandles, delivered, State.sent, ← Multiset.coe_add]
      abel

theorem returns_eq_false_iff {strategy : ErrorBufStrategy} {b : StreamBuffer} :
    strategy.returns b = false ↔ b.status = .ERROR ∧ strategy = .ERROR_BUF_CACHE := by
  simp [ErrorBufStrategy.returns]

theorem handles_eq_zero_iff {bs : List StreamBuffer} :
    handles bs = 0 ↔ ∀ b ∈ bs, b.buffer = none := by
  constructor
  · intro h b hb
    by_contra hbuffer
    obtain ⟨buffer, hbuffer⟩ := Option.ne_none_iff_exists'.mp hbuffer
    have hmem : (b.stream, buffer) ∈ handles bs := mem_handles.mpr ⟨b, hb, rfl, hbuffer⟩
    rw [h] at hmem
    exact Multiset.notMem_zero _ hmem
  · intro h
    apply Multiset.eq_zero_of_forall_notMem
    intro p hp
    obtain ⟨b, hb, -, hbuffer⟩ := mem_handles.mp hp
    rw [h b hb] at hbuffer
    cases hbuffer

theorem handles_keptBack_eq_zero_iff {r : InFlightRequest} :
    handles r.keptBack = 0 ↔ ¬ (r.errorBufStrategy = .ERROR_BUF_CACHE ∧
      ∃ b ∈ r.pendingOutputBuffers, b.status = .ERROR ∧ b.buffer ≠ none) := by
  unfold InFlightRequest.keptBack
  simp only [handles_eq_zero_iff, List.mem_filter, Bool.not_eq_true', returns_eq_false_iff]
  grind

/-- What the end of the request loses. -/
theorem handles_lost_eq_zero_iff (c : Config) (r : InFlightRequest) (result : HalResult)
    (count : ℕ) (transform : ℤ) (ids : List (List String)) (timestamp : ℤ) :
    let r' := r.received c result count transform ids timestamp
    handles (if r'.ready then r'.keptBack else []) = 0 ↔ ¬ EndsWithCached c r result := by
  intro r'
  have hready : r'.ready = true ↔ r.numBuffersLeft = numBuffersReturned r result ∧
      (r.skipResultMetadata ∨
        ((r.haveResultMetadata ∨ result.isFinal c) ∧ r.shutterTimestamp ≠ 0)) := by
    simp only [r', InFlightRequest.ready, InFlightRequest.received, decide_eq_true_eq, sub_eq_zero,
      Bool.or_eq_true]
  have hkept : handles r'.keptBack = 0 ↔ ¬ (r.errorBufStrategy = .ERROR_BUF_CACHE ∧
      result.isFinal c = false ∧ ∃ b ∈ r.pendingOutputBuffers ++ result.output_buffers,
        b.status = .ERROR ∧ b.buffer ≠ none) := by
    rw [handles_keptBack_eq_zero_iff]
    simp only [r', InFlightRequest.received]
    cases result.isFinal c <;> simp
  unfold EndsWithCached
  split
  · rename_i h
    rw [hkept]
    have h' := hready.mp h
    cases hfinal : result.isFinal c <;> simp_all
  · rename_i h
    have h' := mt hready.mpr h
    refine iff_of_true rfl ?_
    intro hcond
    obtain ⟨-, hfinal, hbuffers, hend, -⟩ := hcond
    exact h' ⟨hbuffers, hend.imp_right fun he ↦ ⟨.inl he.1, he.2⟩⟩

/-- A result that is not dropped: its buffers wait or go back, unless the request ends with
cached errors. -/
theorem processCaptureResult_of_delivered {c : Config} {s : State} {result : HalResult}
    {r : InFlightRequest} (h : Delivered c s result r) :
    ∃ lost, (lost = 0 ↔ ¬ EndsWithCached c r result) ∧
      delivered (s.processCaptureResult c result) + lost =
        delivered s + handles result.output_buffers + returnedInput r result ∧
      (s.processCaptureResult c result).recorded = s.recorded := by
  obtain ⟨count, transform, ids, timestamp, qs, e, -, heq⟩ := receive_of_accepts s h.accepts
  let r' := r.received c result count transform ids timestamp
  let s' : State := { s with resultQueue := s.resultQueue ++ qs, inError := e }
  let collected := if result.isFinal c ∧ c.usePartialResult then r.collectedPartialResult else []
  obtain ⟨hsent, hrecorded⟩ := sent_deliverResult c s' r' result collected
  have hprocess : s.processCaptureResult c result =
      (s'.deliverResult c r' result collected).returnInput r.hasInputBuffer result := by
    rw [State.processCaptureResult, if_neg h.data, if_neg h.partialResult, h.lookup]
    exact heq
  refine ⟨_, handles_lost_eq_zero_iff c r result count transform ids timestamp, ?_, ?_⟩
  · rw [hprocess, sent_returnInput, add_right_comm]
    refine congrArg (· + returnedInput r result) ?_
    refine hsent.trans ?_
    unfold delivered
    rw [pending_of_lookup h.lookup, show r'.pendingOutputBuffers =
      r.pendingOutputBuffers ++ result.output_buffers from rfl, handles_append]
    change s.sent + _ + pending (s.inflightMap.erase _) = _
    abel
  · rw [hprocess]
    refine Eq.trans ?_ hrecorded
    unfold State.returnInput
    split
    · rfl
    · split <;> rfl

/-- A result that is dropped leaves the buffers where they are, those it has named apart. -/
theorem processCaptureResult_of_not_delivered {c : Config} {s : State} {result : HalResult}
    (h : ∀ r, ¬ Delivered c s result r) :
    delivered (s.processCaptureResult c result) = delivered s ∧
      (s.processCaptureResult c result).recorded = s.recorded := by
  unfold State.processCaptureResult
  split
  · exact ⟨rfl, rfl⟩
  · rename_i hdata
    split
    · exact ⟨rfl, rfl⟩
    · rename_i hpiece
      split
      · exact ⟨rfl, rfl⟩
      · rename_i r hlookup
        have haccepts : ¬ Accepts c r result := fun ha ↦ h r ⟨hdata, hpiece, hlookup, ha⟩
        obtain ⟨qs, e, r', -, hpending, -, heq⟩ := receive_of_not_accepts s haccepts
        rw [heq]
        refine ⟨?_, rfl⟩
        exact delivered_drop { s with resultQueue := s.resultQueue ++ qs, inError := e } hlookup
          hpending

/-! ### The whole result -/

/-- The buffer that is recorded for the input, unless an output has given it up before. -/
def inputRecord (c : Config) (s : State) (result : HidlCaptureResult) : Option ℕ :=
  if c.useHalBufManager = false ∧
      result.inputBuffer.streamId ∈ result.outputBuffers.map HidlStreamBuffer.streamId then none
  else s.mInflightBufferMap.lookup (result.frameNumber, result.inputBuffer.streamId)

/-- There is no input buffer, or it can be read. -/
def InputReadable (c : Config) (s : State) (result : HidlCaptureResult) : Prop :=
  result.inputBuffer.streamId = -1 ∨
    (c.inputStream = some result.inputBuffer.streamId ∧ inputRecord c s result ≠ none ∧
      result.inputBuffer.fence ≠ none)

/-- The input buffer as `processCaptureResult` is given it. -/
def input (c : Config) (s : State) (result : HidlCaptureResult) : Option StreamBuffer :=
  if result.inputBuffer.streamId = -1 then none
  else some ⟨result.inputBuffer.streamId, inputRecord c s result, result.inputBuffer.status,
    result.inputBuffer.fence.join⟩

/-- The result as `processCaptureResult` is given it. -/
def assembled (c : Config) (s : State) (result : HidlCaptureResult)
    (metadata : Option CameraMetadata) (physical : List PhysicalCaptureResultInfo) : HalResult :=
  ⟨result.frameNumber, metadata, result.outputBuffers.map (output c s result.frameNumber),
    input c s result, result.partialResult, physical⟩

/-- The result gives a buffer up, whether or not a defect follows. -/
def TakesAny (c : Config) (s : State) (result : HidlCaptureResult) : Prop :=
  TakesOutput c s result.frameNumber result.outputBuffers ∨
    (Readable c s result.frameNumber result.outputBuffers ∧ result.inputBuffer.streamId ≠ -1 ∧
      c.inputStream = some result.inputBuffer.streamId ∧ inputRecord c s result ≠ none)

theorem readInput_spec {c : Config} {s t : State} {result : HidlCaptureResult}
    (h : Read c result.frameNumber result.outputBuffers s t)
    (hnull : result.inputBuffer.streamId ≠ -1 → c.inputStream ≠ none) :
    (InputReadable c s result ∧ ∃ u, Reads t u ∧
      t.readInput c result.frameNumber result.inputBuffer = some (.ok (input c s result, u)) ∧
      t.recorded = handles (input c s result).toList + u.recorded) ∨
    (¬ InputReadable c s result ∧ ∃ u taken, Reads t u ∧
      t.readInput c result.frameNumber result.inputBuffer = some (.error u) ∧
      t.recorded = taken + u.recorded ∧ (taken = 0 ↔
        ¬ (c.inputStream = some result.inputBuffer.streamId ∧ inputRecord c s result ≠ none))) := by
  have hlookup : t.mInflightBufferMap.lookup
      (result.frameNumber, result.inputBuffer.streamId) = inputRecord c s result :=
    h.lookup result.inputBuffer.streamId
  unfold State.readInput
  by_cases hnone : result.inputBuffer.streamId = -1
  · refine .inl ⟨.inl hnone, t, ⟨rfl, rfl, rfl⟩, ?_, ?_⟩
    · rw [if_pos hnone, input, if_pos hnone]
    · rw [input, if_pos hnone]
      exact (zero_add _).symm
  · rw [if_neg hnone]
    obtain ⟨id, hid⟩ := Option.ne_none_iff_exists'.mp (hnull hnone)
    rw [hid, Option.map_some]
    by_cases heq : id = result.inputBuffer.streamId
    · subst heq
      rw [if_neg (not_not.mpr rfl)]
      cases hpop : t.popInflightBuffer result.frameNumber result.inputBuffer.streamId with
      | none =>
        have hrecord : inputRecord c s result = none := by
          rw [← hlookup]
          exact Option.map_eq_none_iff.mp hpop
        refine .inr ⟨?_, t, 0, ⟨rfl, rfl, rfl⟩, rfl, (zero_add _).symm,
          iff_of_true rfl fun h ↦ h.2 hrecord⟩
        intro hcond
        obtain h | h := hcond
        · exact hnone h
        · exact h.2.1 hrecord
      | some popped =>
        obtain ⟨buffer, u⟩ := popped
        obtain ⟨hrecorded, hu⟩ := popInflightBuffer_some hpop
        have hrecord : inputRecord c s result = some buffer := by
          obtain ⟨buffer', hbuffer, heq⟩ := Option.map_eq_some_iff.mp hpop
          rw [← hlookup, hbuffer, (Prod.mk.inj heq).1]
        have hrecord' : inputRecord c s result ≠ none := by
          rw [hrecord]
          exact Option.some_ne_none buffer
        have hreads : Reads t u := by
          rw [hu]
          exact ⟨rfl, rfl, rfl⟩
        dsimp only
        cases hfence : result.inputBuffer.fence with
        | none =>
          refine .inr ⟨?_, u, {(result.inputBuffer.streamId, buffer)}, hreads, rfl, hrecorded,
            iff_of_false (Multiset.singleton_ne_zero _) (not_not.mpr ⟨rfl, hrecord'⟩)⟩
          intro hcond
          obtain h | h := hcond
          · exact hnone h
          · exact h.2.2 hfence
        | some fence =>
          refine .inl ⟨.inr ⟨hid, hrecord', ?_⟩, u, hreads, ?_, ?_⟩
          · rw [hfence]
            exact Option.some_ne_none fence
          · rw [input, if_neg hnone, hrecord, hfence]
            rfl
          · rw [input, if_neg hnone, hrecord]
            exact hrecorded
    · rw [if_pos heq]
      have hne : some id ≠ some result.inputBuffer.streamId := fun h ↦ heq (Option.some.inj h)
      refine .inr ⟨?_, t, 0, ⟨rfl, rfl, rfl⟩, rfl, (zero_add _).symm,
        iff_of_true rfl fun h ↦ hne h.1⟩
      intro hcond
      obtain h | h := hcond
      · exact hnone h
      · exact hne (hid ▸ h.1)

/-- Every buffer is where it was, or has gone from the records to its stream or to an entry of
the map. -/
def Keeps (c : Config) (s : State) (result : HidlCaptureResult) : Prop :=
  ∃ t, s.processOneCaptureResultLocked c result = some t ∧
    t.sent + t.outstanding = s.sent + s.outstanding

/-- The result has no defect; `r` is the entry of its frame. -/
structure Sound (c : Config) (s : State) (result : HidlCaptureResult) (hal : HalResult)
    (r : InFlightRequest) : Prop where
  outputs : Readable c s result.frameNumber result.outputBuffers
  input : InputReadable c s result
  delivered : Delivered c s hal r

/-- No null pointer is read. A result with a defect gives nothing up before the first one; a
result with none names every buffer with its own stream, has an input buffer only if the request
has one, and does not end the request while error buffers are kept back. -/
structure KeepableAs (c : Config) (s : State) (result : HidlCaptureResult) (hal : HalResult) :
    Prop where
  notNull : Readable c s result.frameNumber result.outputBuffers →
    result.inputBuffer.streamId ≠ -1 → c.inputStream ≠ none
  untouched : (∀ r, ¬ Sound c s result hal r) → ¬ TakesAny c s result
  input : ∀ r, Sound c s result hal r → hal.input_buffer ≠ none → r.hasInputBuffer
  streams : ∀ r, Sound c s result hal r → handles hal.output_buffers =
    ↑(result.outputBuffers.filterMap (record c s result.frameNumber))
  cached : ∀ r, Sound c s result hal r → ¬ EndsWithCached c r hal

/-- The metadata cannot be read, or the result can be kept. -/
def Keepable (c : Config) (s : State) (result : HidlCaptureResult) : Prop :=
  ∀ metadata physical, result.result = some metadata →
    readPhysicalMetadata result.physicalCameraMetadata = some physical →
    KeepableAs c s result (assembled c s result metadata physical)

theorem sent_add_outstanding (s : State) : s.sent + s.outstanding = delivered s + s.recorded :=
  (add_assoc _ _ _).symm

theorem Reads.delivered {s t : State} (h : Reads s t) : delivered t = delivered s := by
  unfold Malformed.delivered State.sent
  rw [h.inflightMap, h.outputs, h.returnedInputs]

/-- Nothing has been given back for the buffers that were taken. -/
theorem keeps_iff_of_taken {c : Config} {s t : State} {result : HidlCaptureResult}
    {taken : Multiset (ℤ × ℕ)} (h : s.processOneCaptureResultLocked c result = some t)
    (hdelivered : delivered t = delivered s) (hrecorded : s.recorded = taken + t.recorded) :
    Keeps c s result ↔ taken = 0 := by
  have hbuffers : t.sent + t.outstanding = s.sent + s.outstanding ↔ taken = 0 := by
    rw [sent_add_outstanding, sent_add_outstanding, hdelivered, hrecorded, add_right_inj,
      right_eq_add]
  constructor
  · intro hcond
    obtain ⟨t', ht', heq⟩ := hcond
    obtain rfl := Option.some.inj (h.symm.trans ht')
    exact hbuffers.mp heq
  · intro htaken
    exact ⟨t, h, hbuffers.mpr htaken⟩

/-- When the outputs can be read, none gives a buffer up or the first one does that can. -/
theorem filterMap_record_eq_zero_iff {c : Config} {s : State} {frameNumber : ℕ}
    {bs : List HidlStreamBuffer} (h : Readable c s frameNumber bs) :
    (bs.filterMap (record c s frameNumber) : Multiset (ℤ × ℕ)) = 0 ↔
      ¬ TakesOutput c s frameNumber bs := by
  rw [Multiset.coe_eq_zero, List.filterMap_eq_nil_iff]
  constructor
  · intro hnone hcond
    obtain ⟨b, hb, -, hrecord⟩ := hcond
    exact hrecord (hnone b (List.mem_of_find?_eq_some hb))
  · intro htakes b hb
    by_contra hrecord
    have hb' : ¬ Skipped c b := fun hs ↦ hrecord (record_of_noBuffer hs.1)
    cases hfind : bs.find? (fun b ↦ ¬ Skipped c b) with
    | none => exact absurd (List.find?_eq_none.mp hfind b hb) (by simpa using hb')
    | some first =>
      have hmem := List.mem_of_find?_eq_some hfind
      have hfirst : ¬ Skipped c first := by simpa using List.find?_some hfind
      have hstream := h.stream first hmem
      have hno : ¬ NoBuffer c first := fun hno ↦ hfirst ⟨hno, hstream, h.fence first hmem⟩
      exact htakes ⟨first, hfind, hstream, (h.recorded first hmem).resolve_left hno⟩

theorem handles_input_eq_zero_iff {c : Config} {s : State} {result : HidlCaptureResult}
    (h : InputReadable c s result) :
    handles (input c s result).toList = 0 ↔ result.inputBuffer.streamId = -1 := by
  rw [handles_eq_zero_iff, input]
  by_cases hnone : result.inputBuffer.streamId = -1
  · simp [hnone]
  · have hrecord := (h.resolve_left hnone).2.1
    simp [hnone, hrecord]

/-- The result is delivered: what is taken goes on, up to an input buffer that is not wanted,
buffers that are named with other streams, and cached errors. -/
theorem keeps_iff_of_delivered {c : Config} {s u : State} {result : HidlCaptureResult}
    {hal : HalResult} {r : InFlightRequest} {taken : Multiset (ℤ × ℕ)}
    (hprocess : s.processOneCaptureResultLocked c result = some (u.processCaptureResult c hal))
    (hdelivered : delivered u = delivered s)
    (hrecorded : s.recorded = taken + handles hal.input_buffer.toList + u.recorded)
    (hcard : (handles hal.output_buffers).card = taken.card) (h : Delivered c u hal r) :
    Keeps c s result ↔ returnedInput r hal = handles hal.input_buffer.toList ∧
      handles hal.output_buffers = taken ∧ ¬ EndsWithCached c r hal := by
  obtain ⟨lost, hlost, hsent, hsame⟩ := processCaptureResult_of_delivered h
  have hbuffers : (u.processCaptureResult c hal).sent + (u.processCaptureResult c hal).outstanding =
      s.sent + s.outstanding ↔
      handles hal.output_buffers + returnedInput r hal =
        taken + handles hal.input_buffer.toList + lost := by
    rw [sent_add_outstanding, sent_add_outstanding, hsame, hrecorded, ← add_left_inj lost,
      add_right_comm, hsent, hdelivered]
    have hleft : delivered s + handles hal.output_buffers + returnedInput r hal + u.recorded =
        delivered s + u.recorded + (handles hal.output_buffers + returnedInput r hal) := by abel
    have hright : delivered s + (taken + handles hal.input_buffer.toList + u.recorded) + lost =
        delivered s + u.recorded + (taken + handles hal.input_buffer.toList + lost) := by abel
    rw [hleft, hright, add_right_inj]
  have hle : returnedInput r hal ≤ handles hal.input_buffer.toList := by
    unfold returnedInput
    split
    · exact le_rfl
    · exact Multiset.zero_le _
  have hsplit : handles hal.output_buffers + returnedInput r hal =
        taken + handles hal.input_buffer.toList + lost ↔
      returnedInput r hal = handles hal.input_buffer.toList ∧
        handles hal.output_buffers = taken ∧ lost = 0 := by
    constructor
    · intro heq
      have hcards := congrArg Multiset.card heq
      simp only [Multiset.card_add] at hcards
      have hinput : returnedInput r hal = handles hal.input_buffer.toList :=
        Multiset.eq_of_le_of_card_le hle (by omega)
      have hzero : lost = 0 := by
        have hcard' := Multiset.card_le_card hle
        exact Multiset.card_eq_zero.mp (by omega)
      rw [hinput, hzero, add_zero, add_left_inj] at heq
      exact ⟨hinput, heq, hzero⟩
    · intro hcond
      obtain ⟨hinput, houtputs, hzero⟩ := hcond
      rw [hinput, houtputs, hzero, add_zero]
  rw [← hlost, ← hsplit, ← hbuffers]
  constructor
  · intro hcond
    obtain ⟨t', ht', heq⟩ := hcond
    obtain rfl := Option.some.inj (hprocess.symm.trans ht')
    exact heq
  · intro heq
    exact ⟨_, hprocess, heq⟩

theorem card_handles_output {c : Config} {s : State} {frameNumber : ℕ}
    (bs : List HidlStreamBuffer) : (handles (bs.map (output c s frameNumber))).card =
      (bs.filterMap (record c s frameNumber) : Multiset (ℤ × ℕ)).card := by
  unfold handles
  rw [List.filterMap_map, Multiset.coe_card, Multiset.coe_card]
  induction bs with
  | nil => rfl
  | cons b bs ih =>
    cases h : record c s frameNumber b with
    | none =>
      rw [List.filterMap_cons_none h, List.filterMap_cons_none (by simp [output, h])]
      exact ih
    | some p =>
      rw [List.filterMap_cons_some h,
        List.filterMap_cons_some (b := (b.streamId, p.2)) (by simp [output, h])]
      exact congrArg (· + 1) ih

theorem Delivered.congr {c : Config} {s u : State} {hal : HalResult} {r : InFlightRequest}
    (h : u.inflightMap = s.inflightMap) : Delivered c u hal r ↔ Delivered c s hal r := by
  constructor
  · intro hd
    exact ⟨hd.data, hd.partialResult, h ▸ hd.lookup, hd.accepts⟩
  · intro hd
    exact ⟨hd.data, hd.partialResult, h.symm ▸ hd.lookup, hd.accepts⟩

theorem returnedInput_eq_iff {c : Config} {s : State} {result : HidlCaptureResult}
    {r : InFlightRequest} {hal : HalResult} (hhal : hal.input_buffer = input c s result)
    (h : InputReadable c s result) :
    returnedInput r hal = handles hal.input_buffer.toList ↔
      (hal.input_buffer ≠ none → r.hasInputBuffer) := by
  have hzero := handles_input_eq_zero_iff h
  unfold returnedInput
  rw [hhal]
  split
  · rename_i hinput
    exact iff_of_true rfl fun _ ↦ hinput
  · rename_i hinput
    rw [eq_comm, hzero, input]
    split
    · rename_i hnone
      exact iff_of_true hnone fun h ↦ absurd rfl h
    · rename_i hnone
      exact iff_of_false hnone fun h ↦ hinput (h (Option.some_ne_none _))

/-- The outputs and the input have been read, and `u` is what is left. -/
theorem keeps_iff_of_read {c : Config} {s t u : State} {result : HidlCaptureResult}
    {hal : HalResult} (hinput : hal.input_buffer = input c s result)
    (houtputs : hal.output_buffers = result.outputBuffers.map (output c s result.frameNumber))
    (hprocess : s.processOneCaptureResultLocked c result = some (u.processCaptureResult c hal))
    (hread : Read c result.frameNumber result.outputBuffers s t) (htu : Reads t u)
    (hrecorded : t.recorded = handles (input c s result).toList + u.recorded)
    (hreadable : Readable c s result.frameNumber result.outputBuffers)
    (hinputReadable : InputReadable c s result)
    (hnull : result.inputBuffer.streamId ≠ -1 → c.inputStream ≠ none) :
    Keeps c s result ↔ KeepableAs c s result hal := by
  have hreads := hread.reads.trans htu
  have hall : s.recorded = ↑(result.outputBuffers.filterMap (record c s result.frameNumber)) +
      handles hal.input_buffer.toList + u.recorded := by
    rw [hread.recorded, hrecorded, hinput, add_assoc]
  have hsound (r : InFlightRequest) : Sound c s result hal r ↔ Delivered c u hal r := by
    rw [Delivered.congr hreads.inflightMap]
    exact ⟨fun h ↦ h.delivered, fun h ↦ ⟨hreadable, hinputReadable, h⟩⟩
  by_cases hdelivered : ∃ r, Delivered c u hal r
  · obtain ⟨r, hr⟩ := hdelivered
    have hunique (r' : InFlightRequest) (hr' : Sound c s result hal r') : r' = r :=
      Option.some.inj (((hsound r').mp hr').lookup.symm.trans hr.lookup)
    rw [keeps_iff_of_delivered hprocess hreads.delivered hall
      (by rw [houtputs]; exact card_handles_output _) hr, returnedInput_eq_iff hinput hinputReadable]
    constructor
    · intro hcond
      obtain ⟨hwanted, hstreams, hcached⟩ := hcond
      refine ⟨fun _ ↦ hnull, fun hnone ↦ absurd ((hsound r).mpr hr) (hnone r), ?_, ?_, ?_⟩
      · intro r' hr'
        rwa [hunique r' hr']
      · exact fun _ _ ↦ hstreams
      · intro r' hr'
        rwa [hunique r' hr']
    · intro h
      have hs := (hsound r).mpr hr
      exact ⟨h.input r hs, h.streams r hs, h.cached r hs⟩
  · have hnone : ∀ r, ¬ Delivered c u hal r := not_exists.mp hdelivered
    obtain ⟨hsame, hsameRecorded⟩ := processCaptureResult_of_not_delivered hnone
    have htaken : ↑(result.outputBuffers.filterMap (record c s result.frameNumber)) +
        handles hal.input_buffer.toList = 0 ↔ ¬ TakesAny c s result := by
      rw [add_eq_zero, hinput, filterMap_record_eq_zero_iff hreadable,
        handles_input_eq_zero_iff hinputReadable, TakesAny, not_or]
      apply and_congr_right
      intro _
      constructor
      · intro hnone hcond
        obtain ⟨-, hsome, -⟩ := hcond
        exact hsome hnone
      · intro huntaken
        by_contra hsome
        obtain ⟨hstream, hrecord, -⟩ := hinputReadable.resolve_left hsome
        exact huntaken ⟨hreadable, hsome, hstream, hrecord⟩
    rw [keeps_iff_of_taken hprocess (hsame.trans hreads.delivered)
      (by rw [hsameRecorded]; exact hall), htaken]
    have hnone' : ∀ r, ¬ Sound c s result hal r := fun r hr ↦ hnone r ((hsound r).mp hr)
    exact ⟨fun h ↦ ⟨fun _ ↦ hnull, fun _ ↦ h, fun r hr ↦ absurd hr (hnone' r),
      fun r hr ↦ absurd hr (hnone' r), fun r hr ↦ absurd hr (hnone' r)⟩, fun h ↦ h.untouched hnone'⟩

/-- A defect has stopped the reading; what was taken before is lost. -/
theorem keeps_iff_of_stopped {c : Config} {s t : State} {result : HidlCaptureResult}
    {hal : HalResult} {taken : Multiset (ℤ × ℕ)}
    (hprocess : s.processOneCaptureResultLocked c result = some t) (hreads : Reads s t)
    (hrecorded : s.recorded = taken + t.recorded) (htaken : taken = 0 ↔ ¬ TakesAny c s result)
    (hdefect : ¬ (Readable c s result.frameNumber result.outputBuffers ∧ InputReadable c s result))
    (hnull : Readable c s result.frameNumber result.outputBuffers →
      result.inputBuffer.streamId ≠ -1 → c.inputStream ≠ none) :
    Keeps c s result ↔ KeepableAs c s result hal := by
  have hnone : ∀ r, ¬ Sound c s result hal r := fun r hr ↦ hdefect ⟨hr.outputs, hr.input⟩
  rw [keeps_iff_of_taken hprocess hreads.delivered hrecorded, htaken]
  exact ⟨fun h ↦ ⟨hnull, fun _ ↦ h, fun r hr ↦ absurd hr (hnone r),
    fun r hr ↦ absurd hr (hnone r), fun r hr ↦ absurd hr (hnone r)⟩, fun h ↦ h.untouched hnone⟩

section Assembled

variable {c : Config} {s t : State} {result : HidlCaptureResult} {metadata : Option CameraMetadata}
  {physical : List PhysicalCaptureResultInfo} (hmetadata : result.result = some metadata)
  (hphysical : readPhysicalMetadata result.physicalCameraMetadata = some physical)

include hmetadata hphysical

/-- The metadata are read, but not all of the outputs. -/
theorem keeps_iff_of_outputs_stopped {taken : Multiset (ℤ × ℕ)}
    (hreadable : ¬ Readable c s result.frameNumber result.outputBuffers)
    (h : Stopped c result.frameNumber result.outputBuffers s t taken) :
    Keeps c s result ↔ KeepableAs c s result (assembled c s result metadata physical) := by
  refine keeps_iff_of_stopped ?_ h.reads h.recorded ?_ (fun hr ↦ hreadable hr.1)
    fun hr ↦ absurd hr hreadable
  · rw [State.processOneCaptureResultLocked, hmetadata, hphysical]
    dsimp only
    rw [h.readOutputs]
  · rw [h.taken, TakesAny]
    exact not_congr ⟨.inl, fun ht ↦ ht.resolve_right fun hi ↦ hreadable hi.1⟩

theorem not_keeps_of_no_input_stream
    (h : Read c result.frameNumber result.outputBuffers s t)
    (hnull : ¬ (result.inputBuffer.streamId ≠ -1 → c.inputStream ≠ none)) :
    ¬ Keeps c s result := by
  intro hcond
  obtain ⟨u, hu, -⟩ := hcond
  obtain ⟨hsome, hstream⟩ := Classical.not_imp.mp hnull
  rw [State.processOneCaptureResultLocked, hmetadata, hphysical] at hu
  dsimp only at hu
  rw [h.readOutputs] at hu
  dsimp only at hu
  rw [State.readInput, if_neg hsome, not_not.mp hstream] at hu
  cases hu

theorem keeps_iff_of_outputs_read
    (hreadable : Readable c s result.frameNumber result.outputBuffers)
    (h : Read c result.frameNumber result.outputBuffers s t)
    (hnull : result.inputBuffer.streamId ≠ -1 → c.inputStream ≠ none) :
    Keeps c s result ↔ KeepableAs c s result (assembled c s result metadata physical) := by
  rcases readInput_spec h hnull with
    ⟨hinput, u, hreads, hread, hrecorded⟩ | ⟨hinput, u, taken, hreads, hread, hrecorded, htaken⟩
  · refine keeps_iff_of_read rfl rfl ?_ h hreads hrecorded hreadable hinput hnull
    rw [State.processOneCaptureResultLocked, hmetadata, hphysical]
    dsimp only
    rw [h.readOutputs]
    dsimp only
    rw [hread]
    rfl
  · have hall : s.recorded = ↑(result.outputBuffers.filterMap
        (record c s result.frameNumber)) + taken + u.recorded := by
      rw [h.recorded, hrecorded, add_assoc]
    refine keeps_iff_of_stopped ?_ (h.reads.trans hreads) hall ?_
      (fun hr ↦ hinput hr.2) fun _ ↦ hnull
    · rw [State.processOneCaptureResultLocked, hmetadata, hphysical]
      dsimp only
      rw [h.readOutputs]
      dsimp only
      rw [hread]
      rfl
    · rw [add_eq_zero, filterMap_record_eq_zero_iff hreadable, htaken, TakesAny, not_or]
      apply and_congr_right
      intro _
      apply not_congr
      have hsome : result.inputBuffer.streamId ≠ -1 := fun hnone ↦ hinput (.inl hnone)
      exact ⟨fun hi ↦ ⟨hreadable, hsome, hi⟩, fun hi ↦ hi.2.2⟩

end Assembled

/-- A result loses no buffer exactly when this holds. -/
theorem keeps_iff (c : Config) (s : State) (result : HidlCaptureResult) :
    Keeps c s result ↔ Keepable c s result := by
  unfold Keepable
  cases hmetadata : result.result with
  | none =>
    refine iff_of_true ⟨s, ?_, rfl⟩ nofun
    rw [State.processOneCaptureResultLocked, hmetadata]
  | some metadata =>
    cases hphysical : readPhysicalMetadata result.physicalCameraMetadata with
    | none =>
      refine iff_of_true ⟨s, ?_, rfl⟩ nofun
      rw [State.processOneCaptureResultLocked, hmetadata, hphysical]
    | some physical =>
      have hkeepable : Keeps c s result ↔
          KeepableAs c s result (assembled c s result metadata physical) := by
        rcases reading c result.frameNumber s result.outputBuffers with
          ⟨hreadable, t, h⟩ | ⟨hreadable, t, taken, h⟩
        · by_cases hnull : result.inputBuffer.streamId ≠ -1 → c.inputStream ≠ none
          · exact keeps_iff_of_outputs_read hmetadata hphysical hreadable h hnull
          · exact iff_of_false (not_keeps_of_no_input_stream hmetadata hphysical h hnull)
              fun hk ↦ hnull (hk.notNull hreadable)
        · exact keeps_iff_of_outputs_stopped hmetadata hphysical hreadable h
      rw [hkeepable]
      constructor
      · intro h metadata' physical' hm hp
        cases hm
        cases hp
        exact h
      · intro h
        exact h metadata physical rfl rfl

/-- The output buffer of the request, then an output of a stream that is not there. -/
def unknownStream : HidlCaptureResult :=
  ⟨0, some none, [], [⟨0, 1, .OK, none⟩, ⟨5, 2, .OK, none⟩], ⟨-1, 0, .OK, none⟩, 0⟩

theorem not_keeps_with_unknown_stream :
    ¬ ∀ (c : Config) (s : State) (result : HidlCaptureResult),
      Reachable (Step c) State.create s → Keeps c s result := by
  intro h
  have hexec : (exec (State.step .plain) State.create
      [.registerInFlight (.plain 0), .pushInflightBuffer 0 0 7]).map
        (fun s ↦ (s.sent + s.outstanding,
          (s.processOneCaptureResultLocked .plain unknownStream).map
            fun t ↦ t.sent + t.outstanding)) =
      some ({(0, 7)}, some 0) := by
    rfl
  obtain ⟨s, hs, hbuffers⟩ := exists_reachable_of_exec _ hexec
  obtain ⟨hbefore, hafter⟩ := Prod.mk.inj hbuffers
  obtain ⟨t, ht, hkept⟩ := h .plain s unknownStream hs
  rw [ht, Option.map_some, Option.some.injEq, hkept, hbefore] at hafter
  exact Multiset.singleton_ne_zero _ hafter

end VirtualCamera.CameraService.Malformed
