import Mathlib.Data.Multiset.OrderedMonoid
import Mathlib.Tactic.Abel
import VirtualCamera.CameraService.Buffers

namespace VirtualCamera.CameraService.Flush

open Library Assoc Transition InFlight

/-! ### The entries of the map -/

theorem sent_returnPending_aux (c : Config) (entries : List (Sigma fun _ : ℕ ↦ InFlightRequest))
    (o : Outputs) :
    (entries.foldl (fun o entry ↦ o.returnOutputBuffers c entry.2.pendingOutputBuffers 0
        entry.2.outputSurfaces entry.2.resultExtras entry.2.errorBufStrategy (-1)) o).sent =
      o.sent + (entries : Multiset (Sigma fun _ : ℕ ↦ InFlightRequest)).bind fun entry ↦
        handles (entry.2.pendingOutputBuffers.filter entry.2.errorBufStrategy.returns) := by
  induction entries generalizing o with
  | nil => simp
  | cons entry entries ih =>
    rw [List.foldl_cons, ih, sent_returnOutputBuffers, ← Multiset.cons_coe, Multiset.cons_bind,
      add_assoc]

/-- The buffers of the entries that go back when the map is flushed. -/
def flushed (inflightMap : Map ℕ InFlightRequest) : Multiset (ℤ × ℕ) :=
  (values inflightMap).bind fun r ↦
    handles (r.pendingOutputBuffers.filter r.errorBufStrategy.returns)

theorem sent_returnPending (c : Config) (s : State) :
    (s.returnPending c).sent = s.outputs.sent + flushed s.inflightMap := by
  unfold State.returnPending
  rw [sent_returnPending_aux, flushed, values, ← Multiset.map_coe, Multiset.bind_map,
    Multiset.coe_eq_coe.mpr (List.perm_insertionSort _ _)]

/-- The buffers of the entries that are kept back as errors. -/
def cached (inflightMap : Map ℕ InFlightRequest) : Multiset (ℤ × ℕ) :=
  (values inflightMap).bind fun r ↦
    handles (r.pendingOutputBuffers.filter fun b ↦ !r.errorBufStrategy.returns b)

theorem flushed_add_cached (inflightMap : Map ℕ InFlightRequest) :
    flushed inflightMap + cached inflightMap = pending inflightMap := by
  unfold flushed cached pending
  rw [← Multiset.bind_add]
  apply Multiset.bind_congr
  intro r _
  exact handles_filter_add r.errorBufStrategy.returns r.pendingOutputBuffers

theorem cached_eq_zero_iff (inflightMap : Map ℕ InFlightRequest) :
    cached inflightMap = 0 ↔
      ∀ r ∈ values inflightMap, r.errorBufStrategy = .ERROR_BUF_CACHE →
        ∀ b ∈ r.pendingOutputBuffers, b.status = .ERROR → b.buffer = none := by
  constructor
  · intro h r hr hstrategy b hb hstatus
    by_contra hbuffer
    obtain ⟨buffer, hbuffer⟩ := Option.ne_none_iff_exists'.mp hbuffer
    have hmem : (b.stream, buffer) ∈ cached inflightMap := by
      refine Multiset.mem_bind.mpr ⟨r, hr, mem_handles.mpr ⟨b, ?_, rfl, hbuffer⟩⟩
      exact List.mem_filter.mpr ⟨hb, by simp [ErrorBufStrategy.returns, hstrategy, hstatus]⟩
    rw [h] at hmem
    exact Multiset.notMem_zero _ hmem
  · intro h
    apply Multiset.eq_zero_of_forall_notMem
    intro p hp
    obtain ⟨r, hr, hp⟩ := Multiset.mem_bind.mp hp
    obtain ⟨b, hb, -, hbuffer⟩ := mem_handles.mp hp
    obtain ⟨hb, hreturns⟩ := List.mem_filter.mp hb
    have hkept : b.status = .ERROR ∧ r.errorBufStrategy = .ERROR_BUF_CACHE := by
      simpa [ErrorBufStrategy.returns] using hreturns
    rw [h r hr hkept.2 b hb hkept.1] at hbuffer
    cases hbuffer

/-! ### The records -/

def handle (b : InflightBuffer) : ℤ × ℕ := (b.streamId, b.buffer)

/-- The keys that are drained give their buffers up, and nothing else changes. -/
theorem drainInflightBuffers_spec (s : State) (keys : List (ℕ × ℤ)) :
    (((s.drainInflightBuffers keys).1.map handle : List (ℤ × ℕ)) : Multiset (ℤ × ℕ)) +
        (s.drainInflightBuffers keys).2.recorded = s.recorded ∧
      (s.drainInflightBuffers keys).2 =
        { s with mInflightBufferMap := eraseAll keys s.mInflightBufferMap } := by
  induction keys generalizing s with
  | nil => exact ⟨zero_add _, rfl⟩
  | cons key keys ih =>
    obtain ⟨frameNumber, streamId⟩ := key
    rw [eraseAll_cons]
    cases hpop : s.popInflightBuffer frameNumber streamId with
    | none =>
      rw [popInflightBuffer_none hpop]
      simpa only [State.drainInflightBuffers, hpop] using ih s
    | some popped =>
      obtain ⟨buffer, t⟩ := popped
      obtain ⟨hrecorded, ht⟩ := popInflightBuffer_some hpop
      obtain ⟨hbuffers, heq⟩ := ih t
      simp only [State.drainInflightBuffers, hpop]
      refine ⟨?_, ?_⟩
      · rw [hrecorded, ← hbuffers, List.map_cons, ← Multiset.cons_coe, Multiset.cons_add]
        rfl
      · rw [heq, ht]

theorem drainInflightRequestBuffers_spec (s : State) (keys : List ℕ) :
    (((s.drainInflightRequestBuffers keys).1.map handle : List (ℤ × ℕ)) : Multiset (ℤ × ℕ)) +
        (s.drainInflightRequestBuffers keys).2.recorded = s.recorded ∧
      (s.drainInflightRequestBuffers keys).2 =
        { s with mRequestedBufferMap := eraseAll keys s.mRequestedBufferMap } := by
  induction keys generalizing s with
  | nil => exact ⟨zero_add _, rfl⟩
  | cons bufferId keys ih =>
    rw [eraseAll_cons]
    cases hpop : s.popInflightRequestBuffer bufferId with
    | none =>
      rw [popInflightRequestBuffer_none hpop]
      simpa only [State.drainInflightRequestBuffers, hpop] using ih s
    | some popped =>
      obtain ⟨⟨streamId, buffer⟩, t⟩ := popped
      obtain ⟨hrecorded, ht⟩ := popInflightRequestBuffer_some hpop
      obtain ⟨hbuffers, heq⟩ := ih t
      simp only [State.drainInflightRequestBuffers, hpop]
      refine ⟨?_, ?_⟩
      · rw [hrecorded, ← hbuffers, List.map_cons, ← Multiset.cons_coe, Multiset.cons_add]
        rfl
      · rw [heq, ht]

/-! ### The streams -/

/-- A stream with the id of the buffer is there. -/
def Known (c : Config) (p : ℤ × ℕ) : Prop := p.1 ∈ c.getAllStreams.map Prod.fst

instance (c : Config) : DecidablePred (Known c) := fun p ↦
  inferInstanceAs (Decidable (p.1 ∈ c.getAllStreams.map Prod.fst))

theorem known_handle (c : Config) (b : InflightBuffer) :
    Known c (handle b) ↔ (c.getAllStreams.find? fun stream ↦ stream.1 = b.streamId).isSome := by
  rw [List.find?_isSome, Known, List.mem_map]
  exact exists_congr fun stream ↦ and_congr_right fun _ ↦ decide_eq_true_iff.symm

theorem returnInflightBuffer_spec (c : Config) (s : State) (b : InflightBuffer) :
    (s.returnInflightBuffer c b).sent =
        s.sent + (if Known c (handle b) then {handle b} else 0) ∧
      ∃ outputs returnedInputs, s.returnInflightBuffer c b =
        { s with outputs := outputs, returnedInputs := returnedInputs } := by
  simp only [known_handle]
  dsimp only [State.returnInflightBuffer]
  split
  · rename_i h
    rw [h]
    exact ⟨(add_zero s.sent).symm, _, _, rfl⟩
  · rename_i h
    rw [h]
    refine ⟨?_, _, _, rfl⟩
    simp only [State.sent, Outputs.sent, Outputs.delivered, Option.isSome_some, if_true,
      List.map_append, ← Multiset.coe_add, List.map_cons, List.map_nil, Multiset.coe_singleton,
      Multiset.map_add, Multiset.map_singleton, Item.handle, handle]
    exact add_right_comm _ _ _
  · rename_i h
    rw [h]
    refine ⟨?_, _, _, rfl⟩
    simp only [State.sent, Option.isSome_some, if_true, ← Multiset.coe_add,
      Multiset.coe_singleton, handle]
    exact (add_assoc _ _ _).symm

theorem returnInflightBuffers_spec (c : Config) (s : State) (bs : List InflightBuffer) :
    (bs.foldl (State.returnInflightBuffer c) s).sent =
        s.sent + ((bs.map handle : List (ℤ × ℕ)) : Multiset (ℤ × ℕ)).filter (Known c) ∧
      ∃ outputs returnedInputs, bs.foldl (State.returnInflightBuffer c) s =
        { s with outputs := outputs, returnedInputs := returnedInputs } := by
  induction bs generalizing s with
  | nil => exact ⟨(add_zero s.sent).symm, _, _, rfl⟩
  | cons b bs ih =>
    obtain ⟨hsent, outputs, returnedInputs, heq⟩ := returnInflightBuffer_spec c s b
    obtain ⟨hrest, outputs', returnedInputs', heq'⟩ := ih (s.returnInflightBuffer c b)
    rw [List.foldl_cons]
    refine ⟨?_, outputs', returnedInputs', by rw [heq', heq]⟩
    rw [hrest, hsent, List.map_cons, ← Multiset.cons_coe, Multiset.filter_cons, add_assoc]

/-! ### The flush -/

/-- Every buffer that was to go back has gone back once, and none is left. -/
structure Flushed (s t : State) : Prop where
  sent : t.sent = s.sent + s.outstanding
  inflightMap : t.inflightMap = ∅
  mInflightBufferMap : t.mInflightBufferMap = ∅
  mRequestedBufferMap : t.mRequestedBufferMap = ∅

/-- No error buffer waits in a request whose strategy keeps error buffers back, and every
buffer is recorded for a stream that is there. -/
structure Returnable (c : Config) (s : State) : Prop where
  pending : ∀ r ∈ values s.inflightMap, r.errorBufStrategy = .ERROR_BUF_CACHE →
    ∀ b ∈ r.pendingOutputBuffers, b.status = .ERROR → b.buffer = none
  recorded : ∀ p ∈ s.recorded, p.1 ∈ c.getAllStreams.map Prod.fst

theorem flushInflightRequests_spec (c : Config) (s : State) :
    (s.flushInflightRequests c).sent + cached s.inflightMap +
        s.recorded.filter (fun p ↦ ¬ Known c p) = s.sent + s.outstanding ∧
      (s.flushInflightRequests c).inflightMap = ∅ ∧
      (s.flushInflightRequests c).mInflightBufferMap = ∅ ∧
      (s.flushInflightRequests c).mRequestedBufferMap = ∅ := by
  let s₁ : State := { s with outputs := s.returnPending c, inflightMap := ∅ }
  obtain ⟨hbuffers, h₂⟩ := drainInflightBuffers_spec s₁ s.mInflightBufferMap.keys
  let s₂ : State := { s₁ with mInflightBufferMap := ∅ }
  have hs₂ : (s₁.drainInflightBuffers s.mInflightBufferMap.keys).2 = s₂ := by
    rw [h₂, show s₁.mInflightBufferMap = s.mInflightBufferMap from rfl, eraseAll_keys]
  rw [hs₂] at hbuffers
  obtain ⟨hrequested, h₃⟩ := drainInflightRequestBuffers_spec s₂ s.mRequestedBufferMap.keys
  let s₃ : State := { s₂ with mRequestedBufferMap := ∅ }
  have hs₃ : (s₂.drainInflightRequestBuffers s.mRequestedBufferMap.keys).2 = s₃ := by
    rw [h₃, show s₂.mRequestedBufferMap = s.mRequestedBufferMap from rfl, eraseAll_keys]
  rw [hs₃] at hrequested
  let bs := (s₁.drainInflightBuffers s.mInflightBufferMap.keys).1 ++
    (s₂.drainInflightRequestBuffers s.mRequestedBufferMap.keys).1
  have hbs : ((bs.map handle : List (ℤ × ℕ)) : Multiset (ℤ × ℕ)) = s.recorded := by
    have hempty : s₃.recorded = 0 := rfl
    rw [hempty, add_zero] at hrequested
    rw [show s.recorded = s₁.recorded from rfl, ← hbuffers, ← hrequested, List.map_append,
      Multiset.coe_add]
  obtain ⟨hsent, outputs, returnedInputs, h₄⟩ := returnInflightBuffers_spec c s₃ bs
  have heq : s.flushInflightRequests c = bs.foldl (State.returnInflightBuffer c) s₃ := by
    rw [← hs₃]
    dsimp only [bs]
    rw [← hs₂]
    rfl
  rw [heq]
  refine ⟨?_, by rw [h₄], by rw [h₄], by rw [h₄]⟩
  have hflushed : s₃.sent = s.sent + flushed s.inflightMap := by
    rw [show s₃.sent = (s.returnPending c).sent + ↑s.returnedInputs from rfl, sent_returnPending,
      add_right_comm]
    rfl
  calc (bs.foldl (State.returnInflightBuffer c) s₃).sent + cached s.inflightMap +
        s.recorded.filter (fun p ↦ ¬ Known c p)
      = s.sent + (flushed s.inflightMap + cached s.inflightMap) +
          (s.recorded.filter (Known c) + s.recorded.filter fun p ↦ ¬ Known c p) := by
        rw [hsent, hbs, hflushed]
        abel
    _ = s.sent + s.outstanding := by
        rw [flushed_add_cached, Multiset.filter_add_not, State.outstanding, add_assoc]

/-- What is lost are the errors that are kept back and the buffers of unknown streams. -/
theorem sent_flushInflightRequests_iff (c : Config) (s : State) :
    (s.flushInflightRequests c).sent = s.sent + s.outstanding ↔
      cached s.inflightMap = 0 ∧ ∀ p ∈ s.recorded, Known c p := by
  rw [← (flushInflightRequests_spec c s).1, add_assoc, left_eq_add, add_eq_zero]
  apply and_congr_right
  intro _
  exact Multiset.filter_eq_nil.trans (forall₂_congr fun p _ ↦ not_not)

/-- A flush returns all there is to return exactly when no error buffer is kept back and no
stream is missing. -/
theorem flushed_iff (c : Config) (s : State) :
    Flushed s (s.flushInflightRequests c) ↔ Returnable c s := by
  obtain ⟨-, hinflight, hbuffers, hrequested⟩ := flushInflightRequests_spec c s
  constructor
  · intro h
    obtain ⟨hcached, hknown⟩ := (sent_flushInflightRequests_iff c s).mp h.sent
    exact ⟨(cached_eq_zero_iff s.inflightMap).mp hcached, hknown⟩
  · intro h
    have hcached := (cached_eq_zero_iff s.inflightMap).mpr h.pending
    have hsent := (sent_flushInflightRequests_iff c s).mpr ⟨hcached, h.recorded⟩
    exact ⟨hsent, hinflight, hbuffers, hrequested⟩

/-- The output buffer of the request comes back as an error, before the shutter and the
metadata. -/
def cachedError : List Label :=
  [.registerInFlight (.plain 0), .pushInflightBuffer 0 0 7,
    .processOneCaptureResultLocked ⟨0, some none, [], [⟨0, 1, .ERROR, none⟩], ⟨-1, 0, .OK, none⟩, 0⟩]

theorem not_flushed_with_cached_error :
    ¬ ∀ (c : Config) (s : State), Reachable (Step c) State.create s →
      Flushed s (s.flushInflightRequests c) := by
  intro h
  have hexec : (exec (State.step .plain) State.create cachedError).map
      (fun s ↦ (values s.inflightMap).map fun r ↦ (r.errorBufStrategy, r.pendingOutputBuffers)) =
      some {(.ERROR_BUF_CACHE, [⟨0, some 7, .ERROR, none⟩])} := by
    rfl
  obtain ⟨s, hs, hentry⟩ := exists_reachable_of_exec cachedError hexec
  have hflushed := h _ s hs
  obtain ⟨r, hr, heq⟩ := Multiset.mem_map.mp (hentry ▸ Multiset.mem_singleton_self _)
  obtain ⟨hstrategy, hpending⟩ := Prod.mk.inj heq
  have hcached := ((sent_flushInflightRequests_iff _ s).mp hflushed.sent).1
  have hnull := (cached_eq_zero_iff s.inflightMap).mp hcached r hr hstrategy
    ⟨0, some 7, .ERROR, none⟩ (by rw [hpending]; exact List.mem_singleton_self _) rfl
  cases hnull

end VirtualCamera.CameraService.Flush
