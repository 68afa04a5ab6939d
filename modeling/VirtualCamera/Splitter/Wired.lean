import VirtualCamera.Library.Threads
import VirtualCamera.Splitter.Model

namespace VirtualCamera.Splitter

open Library Assoc

/-! ### Slots -/

theorem OutputSlots.getElem?_store (slots : OutputSlots) (slot gb k : ℕ) :
    (slots.store slot gb)[k]?.join = if k = slot then some gb else slots[k]?.join := by
  unfold OutputSlots.store
  rw [List.getElem?_set]
  by_cases hk : slot = k
  · subst hk
    have hlt : slot < (slots ++ List.replicate (slot + 1 - slots.length) none).length := by
      rw [List.length_append, List.length_replicate]
      omega
    rw [if_pos rfl, if_pos hlt, if_pos rfl]
    rfl
  · rw [if_neg hk, if_neg (Ne.symm hk), List.getElem?_append, List.getElem?_replicate]
    split
    · rfl
    · rename_i hlen
      rw [List.getElem?_eq_none (by omega)]
      split <;> rfl

theorem setSlot_self (queue : ℕ → ℕ → Option (ℕ × Bool)) (p k : ℕ) (x : Option (ℕ × Bool)) :
    setSlot queue p k x p k = x := if_pos ⟨rfl, rfl⟩

theorem setSlot_of_ne {queue : ℕ → ℕ → Option (ℕ × Bool)} {p k p' k' : ℕ}
    {x : Option (ℕ × Bool)} (h : ¬(p' = p ∧ k' = k)) :
    setSlot queue p k x p' k' = queue p' k' := if_neg h

namespace Instr

/-- The surface and the output that a buffer is being attached to. -/
def attachesTo : Instr → Option (ℕ × ℕ)
  | .attachBuffer _ surfaceId gbp | .attached _ surfaceId gbp _ | .store _ surfaceId gbp _ =>
    some (surfaceId, gbp)
  | _ => none

/-- The slot that a buffer has been attached at, and not yet recorded. -/
def attachedAt : Instr → Option (ℕ × ℕ × ℕ)
  | .attached gb _ gbp slot | .store gb _ gbp slot => some (gbp, slot, gb)
  | _ => none

def disconnects : Instr → Option ℕ
  | .disconnect gbp => some gbp
  | _ => none

/-- The instruction does not matter for the slots of the outputs. -/
def Neutral (i : Instr) : Prop :=
  i.attachesTo = none ∧ i.attachedAt = none ∧ i.disconnects = none

theorem exists_attachesTo {i : Instr} {gbp slot gb : ℕ} (h : i.attachedAt = some (gbp, slot, gb)) :
    ∃ surfaceId, i.attachesTo = some (surfaceId, gbp) := by
  cases i with
  | attached gb' surfaceId gbp' slot' =>
    cases h
    exact ⟨surfaceId, rfl⟩
  | store gb' surfaceId gbp' slot' =>
    cases h
    exact ⟨surfaceId, rfl⟩
  | _ => cases h

end Instr

/-- A buffer has been attached at a slot, and the slot is not yet recorded. -/
def Attaching (code : Multiset Instr) (gbp slot : ℕ) : Prop :=
  ∃ i ∈ code, ∃ gb, i.attachedAt = some (gbp, slot, gb)

theorem Attaching.mono {code code' : Multiset Instr} {p k : ℕ} (h : Attaching code p k)
    (hle : code ≤ code') : Attaching code' p k := by
  obtain ⟨i, hi, hat⟩ := h
  exact ⟨i, Multiset.mem_of_le hle hi, hat⟩

theorem attaching_cons {code : Multiset Instr} {i : Instr} {p k : ℕ}
    (h : Attaching (i ::ₘ code) p k) :
    (∃ gb, i.attachedAt = some (p, k, gb)) ∨ Attaching code p k := by
  obtain ⟨j, hj, hat⟩ := h
  obtain rfl | hj := Multiset.mem_cons.mp hj
  · exact .inl hat
  · exact .inr ⟨j, hj, hat⟩

theorem returned_le (rest : List Instr) : (returned rest : Multiset Instr) ≤ rest := by
  unfold returned
  split
  · exact Multiset.le_cons_self _ _
  · exact le_rfl

namespace State

def code (s : State) : Multiset Instr := Threads.code s.threads

/-! ### The outputs and the calls for them -/

/-- How the outputs, their queues and the calls on their way go together. -/
structure Wired (s : State) (code : Multiset Instr) : Prop where
  inj : ∀ id id' p, s.mOutputs.lookup id = some p → s.mOutputs.lookup id' = some p → id = id'
  slots : ∀ p, p ∈ s.mOutputSlots ↔ ∃ id, s.mOutputs.lookup id = some p
  connected : ∀ p, p ∈ s.mOutputSlots → p ∈ s.connected
  empty : ∀ p, p ∉ s.connected → ∀ k, s.queue p k = none
  disconnecting : ∀ p, .disconnect p ∈ code → p ∈ s.connected ∧ p ∉ s.mOutputSlots
  once : ∀ p, code.count (.disconnect p) ≤ 1
  output : ∀ i ∈ code, ∀ id p, i.attachesTo = some (id, p) →
    s.mOutputs.lookup id = some p ∨ id ∉ s.mOutputs ∧ p ∉ s.mOutputSlots
  pending : ∀ i ∈ code, ∀ p k gb, i.attachedAt = some (p, k, gb) →
    k < NUM_BUFFER_SLOTS ∧ (p ∈ s.mOutputSlots → s.queue p k = some (gb, false))

/-- The part of a state that the calls for the outputs are about. -/
def wiring (s : State) := (s.mOutputs, s.mOutputSlots, s.queue, s.connected)

theorem Wired.congr {s t : State} {code : Multiset Instr} (h : Wired s code)
    (ht : t.wiring = s.wiring) : Wired t code := by
  simp only [wiring, Prod.mk.injEq] at ht
  obtain ⟨ho, hs, hq, hc⟩ := ht
  constructor
  · rw [ho]; exact h.inj
  · rw [ho, hs]; exact h.slots
  · rw [hs, hc]; exact h.connected
  · rw [hc, hq]; exact h.empty
  · rw [hs, hc]; exact h.disconnecting
  · exact h.once
  · rw [ho, hs]; exact h.output
  · rw [hs, hq]; exact h.pending

/-- Calls may be dropped. -/
theorem Wired.mono {s : State} {code code' : Multiset Instr} (h : Wired s code)
    (hle : code' ≤ code) : Wired s code' := by
  refine ⟨h.inj, h.slots, h.connected, h.empty, fun p hp ↦ ?_, fun p ↦ ?_, fun i hi ↦ ?_,
    fun i hi ↦ ?_⟩
  · exact h.disconnecting p (Multiset.mem_of_le hle hp)
  · exact (Multiset.count_le_of_le _ hle).trans (h.once p)
  · exact h.output i (Multiset.mem_of_le hle hi)
  · exact h.pending i (Multiset.mem_of_le hle hi)

theorem Wired.of_cons {s : State} {code : Multiset Instr} {i : Instr}
    (h : Wired s (i ::ₘ code)) : Wired s code := h.mono (Multiset.le_cons_self _ _)

theorem Wired.push {s : State} {code : Multiset Instr} {i : Instr} (h : Wired s code)
    (hd : ∀ p, i = .disconnect p →
      p ∈ s.connected ∧ p ∉ s.mOutputSlots ∧ .disconnect p ∉ code)
    (ho : ∀ id p, i.attachesTo = some (id, p) →
      s.mOutputs.lookup id = some p ∨ id ∉ s.mOutputs ∧ p ∉ s.mOutputSlots)
    (hp : ∀ p k gb, i.attachedAt = some (p, k, gb) →
      k < NUM_BUFFER_SLOTS ∧ (p ∈ s.mOutputSlots → s.queue p k = some (gb, false))) :
    Wired s (i ::ₘ code) := by
  refine ⟨h.inj, h.slots, h.connected, h.empty, fun p hmem ↦ ?_, fun p ↦ ?_, fun j hj ↦ ?_,
    fun j hj ↦ ?_⟩
  · obtain rfl | hmem := Multiset.mem_cons.mp hmem
    · exact ⟨(hd p rfl).1, (hd p rfl).2.1⟩
    · exact h.disconnecting p hmem
  · by_cases hi : i = .disconnect p
    · subst hi
      rw [Multiset.count_cons_self, Multiset.count_eq_zero_of_notMem (hd p rfl).2.2]
    · rw [Multiset.count_cons_of_ne (Ne.symm hi)]
      exact h.once p
  · obtain rfl | hj := Multiset.mem_cons.mp hj
    · exact ho
    · exact h.output j hj
  · obtain rfl | hj := Multiset.mem_cons.mp hj
    · exact hp
    · exact h.pending j hj

/-- Only the calls about slots and connections matter. -/
theorem Wired.neutral {s : State} {code extra : Multiset Instr} (h : Wired s code)
    (hn : ∀ i ∈ extra, i.Neutral) : Wired s (extra + code) := by
  induction extra using Multiset.induction_on with
  | empty => rwa [zero_add]
  | cons i extra ih =>
    rw [Multiset.cons_add]
    obtain ⟨hto, hat, hdis⟩ := hn i (Multiset.mem_cons_self _ _)
    refine (ih fun j hj ↦ hn j (Multiset.mem_cons_of_mem hj)).push ?_ ?_ ?_
    · rintro p rfl
      cases hdis
    · intro id p h'
      rw [hto] at h'
      cases h'
    · intro p k gb h'
      rw [hat] at h'
      cases h'

/-- What is in the slots of an output that is connected may change where nothing is being
attached. -/
theorem Wired.setSlot {s : State} {code : Multiset Instr} {p k : ℕ} {x : Option (ℕ × Bool)}
    (h : Wired s code) (hc : p ∈ s.connected) (hp : p ∈ s.mOutputSlots → ¬ Attaching code p k) :
    Wired { s with queue := setSlot s.queue p k x } code := by
  refine ⟨h.inj, h.slots, h.connected, fun p' hp' k' ↦ ?_, h.disconnecting, h.once, h.output,
    fun i hi p' k' gb hat ↦ ?_⟩
  · change Splitter.setSlot s.queue p k x p' k' = none
    have hne : ¬(p' = p ∧ k' = k) := by
      intro hcond
      obtain ⟨rfl, _⟩ := hcond
      exact hp' hc
    rw [setSlot_of_ne hne]
    exact h.empty p' hp' k'
  · obtain ⟨hlt, hq⟩ := h.pending i hi p' k' gb hat
    refine ⟨hlt, fun hreg ↦ ?_⟩
    change Splitter.setSlot s.queue p k x p' k' = some (gb, false)
    rw [setSlot_of_ne ?_]
    · exact hq hreg
    · intro hcond
      obtain ⟨rfl, rfl⟩ := hcond
      exact hp hreg ⟨i, hi, gb, hat⟩

theorem Wired.connected_of_queue {s : State} {code : Multiset Instr} {p k : ℕ} (h : Wired s code)
    (hq : s.queue p k ≠ none) : p ∈ s.connected := by
  by_contra hc
  exact hq (h.empty p hc k)

/-- Nothing is being attached where the producer has not dequeued. -/
theorem Wired.not_attaching {s : State} {code : Multiset Instr} {p k : ℕ} (h : Wired s code)
    (hp : p ∈ s.mOutputSlots) (hq : (s.queue p k).map Prod.snd ≠ some false) :
    ¬ Attaching code p k := by
  intro hcond
  obtain ⟨i, hi, gb, hat⟩ := hcond
  rw [(h.pending i hi p k gb hat).2 hp] at hq
  exact hq rfl

theorem wiring_decrement (s : State) (id surfaceId : ℕ) :
    (s.decrementBufRefCountLocked id surfaceId).1.wiring = s.wiring := by
  unfold decrementBufRefCountLocked
  split
  · rfl
  · dsimp only
    split
    · rfl
    · split
      · rfl
      · split <;> rfl

/-- The only call that follows is one to the input. -/
theorem calls_decrement {s : State} {id surfaceId : ℕ} {i : Instr}
    (hi : i ∈ (s.decrementBufRefCountLocked id surfaceId).2) :
    ∃ slot frameNumber detach, i = .releaseInput id slot frameNumber detach := by
  unfold decrementBufRefCountLocked at hi
  split at hi
  · cases hi
  · dsimp only at hi
    split at hi
    · cases hi
    · split at hi
      · cases hi
      · split at hi
        all_goals exact ⟨_, _, _, List.mem_singleton.mp hi⟩

theorem neutral_decrement {s : State} {id surfaceId : ℕ} :
    ∀ i ∈ (s.decrementBufRefCountLocked id surfaceId).2, i.Neutral := by
  intro i hi
  obtain ⟨_, _, _, rfl⟩ := calls_decrement hi
  exact ⟨rfl, rfl, rfl⟩

theorem Wired.decrement {s : State} {code : Multiset Instr} (h : Wired s code)
    (id surfaceId : ℕ) : Wired (s.decrementBufRefCountLocked id surfaceId).1
      (((s.decrementBufRefCountLocked id surfaceId).2 : Multiset Instr) + code) := by
  refine (h.congr (wiring_decrement s id surfaceId)).neutral fun i hi ↦ ?_
  exact neutral_decrement i (Multiset.mem_coe.mp hi)

theorem queue_of_dequeueBuffer {s t : State} {p k : ℕ} (ht : s.dequeueBuffer p k = some t) :
    ∃ buffer, s.queue p k = some (buffer, true) ∧
      t = { s with queue := setSlot s.queue p k (some (buffer, false)) } := by
  unfold dequeueBuffer at ht
  split at ht
  · rename_i buffer hq
    exact ⟨buffer, hq, (Option.some.inj ht).symm⟩
  · cases ht

theorem Wired.dequeueBuffer {s t : State} {code : Multiset Instr} {p k : ℕ}
    (h : Wired s code) (ht : s.dequeueBuffer p k = some t) : Wired t code := by
  obtain ⟨buffer, hq, rfl⟩ := queue_of_dequeueBuffer ht
  refine h.setSlot (h.connected_of_queue (by rw [hq]; exact Option.some_ne_none _)) fun hp ↦ ?_
  refine h.not_attaching hp ?_
  rw [hq]
  exact fun h ↦ by cases h

theorem Wired.returnOutputBufferLocked {s t : State} {code : Multiset Instr}
    {p surfaceId k : ℕ} {fence detached : Bool} {pushed : List Instr} (h : Wired s code)
    (hd : detached = true → ∀ b ∈ s.mirror p k, b ∈ s.mDetachedBuffers → ¬ Attaching code p k)
    (ht : s.returnOutputBufferLocked p surfaceId k fence detached = some (t, pushed)) :
    Wired t ((pushed : Multiset Instr) + code) := by
  unfold State.returnOutputBufferLocked at ht
  split at ht
  · split at ht
    · cases ht
    rename_i buffer hbuffer
    split at ht
    · cases ht
    split at ht
    · rename_i hdetach
      split at ht
      · rename_i hq
        obtain hr := Option.some.inj ht
        have hset := (h.setSlot (x := none)
          (h.connected_of_queue fun hn ↦ by rw [hn] at hq; cases hq)
          fun _ ↦ hd hdetach.2 buffer hbuffer hdetach.1).decrement buffer surfaceId
        rw [hr] at hset
        exact hset
      · cases ht
    · obtain hr := Option.some.inj ht
      have hdec := h.decrement buffer surfaceId
      rw [hr] at hdec
      exact hdec
  · obtain ⟨rfl, rfl⟩ := Prod.mk.inj (Option.some.inj ht)
    rwa [Multiset.coe_nil, zero_add]

theorem Wired.onBufferReleasedByOutput {s t : State} {code : Multiset Instr} {p k : ℕ}
    {fence detached : Bool} {pushed : List Instr} (h : Wired s code)
    (hd : detached = true → ∀ b ∈ s.mirror p k, b ∈ s.mDetachedBuffers → ¬ Attaching code p k)
    (ht : s.onBufferReleasedByOutput p k fence detached = some (t, pushed)) :
    Wired t ((pushed : Multiset Instr) + code) := by
  unfold State.onBufferReleasedByOutput at ht
  split at ht
  · obtain ⟨rfl, rfl⟩ := Prod.mk.inj (Option.some.inj ht)
    rwa [Multiset.coe_nil, zero_add]
  · exact h.returnOutputBufferLocked hd ht

/-- What is left to do after `queueBuffer`. -/
theorem queued_cases {s t : State} {gb surfaceId : ℕ} {ok bufferReplaced : Bool} {answer : Answer}
    {pushed : List Instr} (ht : s.queued gb surfaceId ok bufferReplaced answer = some (t, pushed)) :
    (t = s ∧ pushed = [] ∧ (ok = true ∨ s.mOutputs.lookup surfaceId = none ∨
      ∃ p ∉ s.mOutputSlots, s.mOutputs.lookup surfaceId = some p)) ∨
    (ok = false ∧ s.decrementBufRefCountLocked gb surfaceId = (t, pushed)) ∨
    ok = true ∧ ∃ p k fence u, s.mOutputs.lookup surfaceId = some p ∧
      answer.dequeued = some (k, fence) ∧ s.dequeueBuffer p k = some u ∧
      u.returnOutputBufferLocked p surfaceId k fence answer.detached = some (t, pushed) := by
  unfold State.queued at ht
  split at ht
  · rename_i hnone
    obtain ⟨rfl, rfl⟩ := Prod.mk.inj (Option.some.inj ht)
    exact .inl ⟨rfl, rfl, .inr (.inl hnone)⟩
  rename_i p hp
  split at ht
  · cases ok with
    | false => exact .inr (.inl ⟨rfl, Option.some.inj ht⟩)
    | true =>
      rw [if_neg (by simp)] at ht
      split at ht
      · split at ht
        · obtain ⟨rfl, rfl⟩ := Prod.mk.inj (Option.some.inj ht)
          exact .inl ⟨rfl, rfl, .inl rfl⟩
        · rename_i k fence hdequeued
          obtain ⟨u, hu, ht⟩ := Option.bind_eq_some_iff.mp ht
          exact .inr (.inr ⟨rfl, p, k, fence, u, hp, hdequeued, hu, ht⟩)
      · obtain ⟨rfl, rfl⟩ := Prod.mk.inj (Option.some.inj ht)
        exact .inl ⟨rfl, rfl, .inl rfl⟩
  · rename_i hreg
    obtain ⟨rfl, rfl⟩ := Prod.mk.inj (Option.some.inj ht)
    exact .inl ⟨rfl, rfl, .inr (.inr ⟨p, hreg, hp⟩)⟩

theorem Wired.queued {s t : State} {code : Multiset Instr} {gb surfaceId : ℕ}
    {ok bufferReplaced : Bool} {answer : Answer} {pushed : List Instr} (h : Wired s code)
    (hd : answer.detached = true → ∀ p ∈ s.mOutputs.lookup surfaceId, ∀ x ∈ answer.dequeued,
      ∀ b ∈ s.mirror p x.1, b ∈ s.mDetachedBuffers → ¬ Attaching code p x.1)
    (ht : s.queued gb surfaceId ok bufferReplaced answer = some (t, pushed)) :
    Wired t ((pushed : Multiset Instr) + code) := by
  obtain ⟨rfl, rfl, -⟩ | ⟨-, hr⟩ | ⟨-, p, k, fence, u, hp, hdequeued, hu, ht⟩ := queued_cases ht
  · rwa [Multiset.coe_nil, zero_add]
  · have hdec := h.decrement gb surfaceId
    rw [hr] at hdec
    exact hdec
  · refine (h.dequeueBuffer hu).returnOutputBufferLocked (fun ha b hb ↦ ?_) ht
    obtain ⟨buffer, -, rfl⟩ := queue_of_dequeueBuffer hu
    exact hd ha p hp (k, fence) hdequeued b hb

/-- `attachBuffer` is called for a registered output. -/
theorem Wired.call {s : State} {code : Multiset Instr} {gb id p : ℕ} (h : Wired s code)
    (hp : s.mOutputs.lookup id = some p) : Wired s (.attachBuffer gb id p ::ₘ code) := by
  refine h.push (fun _ hi ↦ by cases hi) (fun id' p' hto ↦ ?_) (fun _ _ _ hat ↦ by cases hat)
  obtain ⟨rfl, rfl⟩ := Prod.mk.inj (Option.some.inj hto)
  exact .inl hp

/-- A search has found the slot of a buffer. -/
theorem mirror_of_getSlot {s : State} {p gb k : ℕ}
    (h : s.getSlotForOutputLocked p gb = some (some k)) : s.mirror p k = some gb := by
  obtain ⟨slots, hslots, hk⟩ := Option.map_eq_some_iff.mp h
  obtain ⟨hlt, hgb, -⟩ := List.findIdx?_eq_some_iff_getElem.mp hk
  have hget : slots.get ⟨k, hlt⟩ = some gb := by simpa using hgb
  unfold mirror
  rw [hslots, Option.bind_some, List.getElem?_eq_getElem hlt]
  exact hget

/-- An iteration of the loop of `attachBufferToOutputs`. -/
theorem attach_cases {s t : State} {gb id : ℕ} {ids todo : List ℕ} {pushed : List Instr}
    (ht : s.attach gb ids (id :: todo) = some (t, pushed)) :
    (s.mOutputs.lookup id = none ∧ t = s ∧ pushed = [.attach gb ids todo]) ∨
    (∃ p k, s.mOutputs.lookup id = some p ∧ s.getSlotForOutputLocked p gb = some (some k) ∧
      t = { s with searches := s.searches ++ [(gb, s.content p k)] } ∧
      pushed = [.attach gb ids todo]) ∨
    ∃ p, s.mOutputs.lookup id = some p ∧ s.getSlotForOutputLocked p gb = some none ∧ t = s ∧
      pushed = [.attachBuffer gb id p, .attach gb ids todo] := by
  unfold State.attach at ht
  dsimp only at ht
  split at ht
  · rename_i hnone
    obtain ⟨rfl, rfl⟩ := Prod.mk.inj (Option.some.inj ht)
    exact .inl ⟨hnone, rfl, rfl⟩
  · rename_i p hp
    obtain ⟨slot, hslot, ht⟩ := Option.map_eq_some_iff.mp ht
    cases slot with
    | some k =>
      obtain ⟨rfl, rfl⟩ := Prod.mk.inj ht
      exact .inr (.inl ⟨p, k, hp, hslot, rfl, rfl⟩)
    | none =>
      obtain ⟨rfl, rfl⟩ := Prod.mk.inj ht
      exact .inr (.inr ⟨p, hp, hslot, rfl, rfl⟩)

theorem neutral_attach {gb : ℕ} {ids todo : List ℕ} :
    ∀ i ∈ (([.attach gb ids todo] : List Instr) : Multiset Instr), i.Neutral := by
  intro i hi
  obtain rfl := List.mem_singleton.mp hi
  exact ⟨rfl, rfl, rfl⟩

theorem Wired.attach {s t : State} {code : Multiset Instr} {gb : ℕ} {ids todo : List ℕ}
    {pushed : List Instr} (h : Wired s code) (ht : s.attach gb ids todo = some (t, pushed)) :
    Wired t ((pushed : Multiset Instr) + code) := by
  cases todo with
  | nil =>
    obtain ⟨rfl, rfl⟩ := Prod.mk.inj (Option.some.inj ht)
    rw [Multiset.coe_nil, zero_add]
    exact h.congr rfl
  | cons id todo =>
    obtain ⟨-, rfl, rfl⟩ | ⟨p, k, -, -, rfl, rfl⟩ | ⟨p, hp, -, rfl, rfl⟩ := attach_cases ht
    · exact h.neutral neutral_attach
    · exact Wired.neutral (h.congr rfl) neutral_attach
    · rw [← Multiset.cons_coe, Multiset.cons_add]
      exact (h.neutral neutral_attach).call hp

theorem Wired.attachBuffer {s t : State} {code : Multiset Instr} {gb id p : ℕ}
    {slot : Option ℕ} {rest new : List Instr}
    (h : Wired s (.attachBuffer gb id p ::ₘ ((rest : Multiset Instr) + code)))
    (ht : s.attachBuffer gb id p rest slot = some (t, new)) :
    Wired t ((new : Multiset Instr) + code) := by
  have hcode := h.of_cons
  cases slot with
  | none =>
    obtain ⟨rfl, rfl⟩ := Prod.mk.inj (Option.some.inj ht)
    exact (hcode.mono (add_le_add_left (returned_le rest) _)).congr rfl
  | some k =>
    unfold State.attachBuffer at ht
    dsimp only at ht
    split at ht
    · rename_i hguard
      obtain ⟨hc, hk, hfree⟩ := hguard
      obtain ⟨rfl, rfl⟩ := Prod.mk.inj (Option.some.inj ht)
      rw [← Multiset.cons_coe, Multiset.cons_add]
      -- What is in the slot was not attached just before.
      refine (hcode.setSlot hc fun hp ↦ hcode.not_attaching hp hfree).push
        (fun _ hi ↦ by cases hi) (fun id' p' hto ↦ ?_) fun p' k' gb' hat ↦ ?_
      · exact h.output _ (Multiset.mem_cons_self _ _) id' p' hto
      · simp only [Instr.attachedAt, Option.some.injEq, Prod.mk.injEq] at hat
        obtain ⟨rfl, rfl, rfl⟩ := hat
        exact ⟨hk, fun _ ↦ setSlot_self _ _ _ _⟩
    · cases ht

/-- The result of `attachBuffer` has been looked at; the slot is still to be recorded. -/
theorem Wired.storing {s : State} {code : Multiset Instr} {gb id p k : ℕ}
    (h : Wired s (.attached gb id p k ::ₘ code)) : Wired s (.store gb id p k ::ₘ code) := by
  refine h.of_cons.push (fun _ hi ↦ by cases hi) ?_ ?_
  · exact h.output (.attached gb id p k) (Multiset.mem_cons_self _ _)
  · exact h.pending (.attached gb id p k) (Multiset.mem_cons_self _ _)

/-- What follows `attachBuffer`: the output is gone, or a buffer that was in the slot is given up
and the slot is recorded. -/
theorem attached_cases {s t : State} {code : Multiset Instr} {gb id p k : ℕ}
    {rest new : List Instr} (h : Wired s (.attached gb id p k ::ₘ code))
    (ht : s.attached gb id k rest = (t, new)) :
    (s.mOutputs.lookup id = none ∧ p ∉ s.mOutputSlots ∧ t = s ∧ new = rest) ∨
    (s.mOutputs.lookup id = some p ∧ s.mirror p k = none ∧ t = s ∧
      new = .store gb id p k :: rest) ∨
    ∃ previous, s.mOutputs.lookup id = some p ∧ s.mirror p k = some previous ∧
      t = (s.decrementBufRefCountLocked previous id).1 ∧
      new = (s.decrementBufRefCountLocked previous id).2 ++ .store gb id p k :: rest := by
  have hlt := (h.pending _ (Multiset.mem_cons_self _ _) p k gb rfl).1
  have ho := h.output _ (Multiset.mem_cons_self _ _) id p rfl
  unfold State.attached at ht
  rw [if_neg (Nat.not_lt.mpr hlt.le)] at ht
  split at ht
  · rename_i hnone
    obtain ⟨rfl, rfl⟩ := Prod.mk.inj ht
    refine .inl ⟨hnone, fun hreg ↦ ?_, rfl, rfl⟩
    obtain ho | ho := ho
    · rw [hnone] at ho
      cases ho
    · exact ho.2 hreg
  · rename_i p' hp'
    obtain rfl : p' = p := by
      obtain ho | ho := ho
      · exact Option.some.inj (hp'.symm.trans ho)
      · exact absurd (AList.lookup_isSome.mp (Option.isSome_of_eq_some hp')) ho.1
    rw [if_pos ((h.slots p').mpr ⟨id, hp'⟩)] at ht
    split at ht
    · rename_i hmirror
      obtain ⟨rfl, rfl⟩ := Prod.mk.inj ht
      exact .inr (.inl ⟨hp', hmirror, rfl, rfl⟩)
    · rename_i previous hmirror
      obtain ⟨rfl, rfl⟩ := Prod.mk.inj ht
      exact .inr (.inr ⟨previous, hp', hmirror, rfl, rfl⟩)

theorem coe_append_cons (calls rest : List Instr) (i : Instr) (code : Multiset Instr) :
    ((calls ++ i :: rest : List Instr) : Multiset Instr) + code =
      (calls : Multiset Instr) + (i ::ₘ ((rest : Multiset Instr) + code)) := by
  rw [← Multiset.coe_add, ← Multiset.cons_coe, add_assoc, Multiset.cons_add]

theorem Wired.attached {s t : State} {code : Multiset Instr} {gb id p k : ℕ}
    {rest new : List Instr}
    (h : Wired s (.attached gb id p k ::ₘ ((rest : Multiset Instr) + code)))
    (ht : s.attached gb id k rest = (t, new)) : Wired t ((new : Multiset Instr) + code) := by
  obtain ⟨-, -, rfl, rfl⟩ | ⟨-, -, rfl, rfl⟩ | ⟨previous, -, -, rfl, rfl⟩ := attached_cases h ht
  · exact h.of_cons
  · rw [← Multiset.cons_coe, Multiset.cons_add]
    exact h.storing
  · rw [coe_append_cons]
    exact h.storing.decrement previous id

theorem mem_insert_of_mem {s : State} {p : ℕ} {slots : OutputSlots} (hreg : p ∈ s.mOutputSlots)
    (q : ℕ) : q ∈ s.mOutputSlots.insert p slots ↔ q ∈ s.mOutputSlots := by
  rw [AList.mem_insert]
  refine ⟨fun hq ↦ ?_, .inr⟩
  obtain rfl | hq := hq
  · exact hreg
  · exact hq

/-- A buffer has been recorded in a slot. -/
theorem store_spec {s t : State} {gb p k : ℕ} (ht : s.store gb p k = some t) :
    p ∈ s.mOutputSlots ∧ (∀ q, q ∈ t.mOutputSlots ↔ q ∈ s.mOutputSlots) ∧
    (∀ q k', t.mirror q k' = if q = p ∧ k' = k then some gb else s.mirror q k') ∧
    t = { s with mOutputSlots := t.mOutputSlots } := by
  obtain ⟨slots, hslots, rfl⟩ := Option.map_eq_some_iff.mp ht
  have hreg : p ∈ s.mOutputSlots := AList.lookup_isSome.mp (Option.isSome_of_eq_some hslots)
  refine ⟨hreg, mem_insert_of_mem hreg, fun q k' ↦ ?_, rfl⟩
  unfold State.mirror
  by_cases hqp : q = p
  · subst hqp
    rw [AList.lookup_insert, hslots, Option.bind_some, Option.bind_some,
      OutputSlots.getElem?_store]
    simp
  · rw [AList.lookup_insert_ne hqp, if_neg fun h ↦ hqp h.1]

theorem Wired.store {s t : State} {code : Multiset Instr} {gb id p k : ℕ}
    (h : Wired s (.store gb id p k ::ₘ code)) (ht : s.store gb p k = some t) :
    Wired t code := by
  obtain ⟨-, hmem, -, heq⟩ := store_spec ht
  have hcode := h.of_cons
  rw [heq] at hmem ⊢
  refine ⟨h.inj, fun q ↦ (hmem q).trans (h.slots q), fun q hq ↦ h.connected q ((hmem q).mp hq),
    h.empty, fun q hq ↦ ?_, hcode.once, fun i hi id' p' hto ↦ ?_, fun i hi p' k' gb' hat ↦ ?_⟩
  · obtain ⟨hqc, hqn⟩ := hcode.disconnecting q hq
    exact ⟨hqc, fun hqs ↦ hqn ((hmem q).mp hqs)⟩
  · refine (hcode.output i hi id' p' hto).imp_right fun ho ↦ ?_
    exact ⟨ho.1, fun hqs ↦ ho.2 ((hmem p').mp hqs)⟩
  · obtain ⟨hlt, hq'⟩ := hcode.pending i hi p' k' gb' hat
    exact ⟨hlt, fun hqs ↦ hq' ((hmem p').mp hqs)⟩

/-- An iteration of the loop of `onFrameAvailable`. -/
theorem frame_cases {s t : State} {gb id : ℕ} {todo : List ℕ} {pushed : List Instr}
    (ht : s.frame gb (id :: todo) = some (t, pushed)) :
    (s.mOutputs.lookup id = none ∧ t = s ∧ pushed = [.frame gb todo]) ∨
    ∃ p slot, s.mOutputs.lookup id = some p ∧ s.tracker gb ≠ none ∧
      s.getSlotForOutputLocked p gb = some slot ∧
      t = { s with searches := s.searches ++ (slot.map fun k ↦ (gb, s.content p k)).toList } ∧
      pushed = [.queueBuffer gb id p slot, .frame gb todo] := by
  unfold State.frame at ht
  dsimp only at ht
  split at ht
  · rename_i hnone
    obtain ⟨rfl, rfl⟩ := Prod.mk.inj (Option.some.inj ht)
    exact .inl ⟨hnone, rfl, rfl⟩
  · rename_i p hp
    split at ht
    · cases ht
    rename_i htracker
    obtain ⟨slot, hslot, ht⟩ := Option.map_eq_some_iff.mp ht
    obtain ⟨rfl, rfl⟩ := Prod.mk.inj ht
    exact .inr ⟨p, slot, hp, htracker, hslot, rfl, rfl⟩

theorem Wired.frame {s t : State} {code : Multiset Instr} {gb : ℕ} {todo : List ℕ}
    {pushed : List Instr} (h : Wired s code) (ht : s.frame gb todo = some (t, pushed)) :
    Wired t ((pushed : Multiset Instr) + code) := by
  cases todo with
  | nil =>
    obtain ⟨rfl, rfl⟩ := Prod.mk.inj (Option.some.inj ht)
    rwa [Multiset.coe_nil, zero_add]
  | cons id todo =>
    obtain ⟨-, rfl, rfl⟩ | ⟨p, slot, -, -, -, rfl, rfl⟩ := frame_cases ht
    · refine h.neutral fun i hi ↦ ?_
      obtain rfl := List.mem_singleton.mp hi
      exact ⟨rfl, rfl, rfl⟩
    · refine Wired.neutral (h.congr rfl) fun i hi ↦ ?_
      simp only [Multiset.mem_coe, List.mem_cons, List.not_mem_nil, or_false] at hi
      obtain rfl | rfl := hi <;> exact ⟨rfl, rfl, rfl⟩

/-- The call of `queueBuffer` fails, or it queues a slot that the producer had dequeued. -/
theorem queueBuffer_cases {s t : State} {gb id p : ℕ} {slot : Option ℕ} {ok bufferReplaced : Bool}
    {pushed : List Instr}
    (ht : s.queueBuffer gb id p slot ok bufferReplaced = some (t, pushed)) :
    (ok = false ∧ t = s ∧ pushed = [.queued gb id false false]) ∨
    ∃ k buffer, slot = some k ∧ s.queue p k = some (buffer, false) ∧
      t = { s with queue := setSlot s.queue p k (some (buffer, true)) } ∧
      pushed = [.queued gb id true bufferReplaced] := by
  unfold State.queueBuffer at ht
  split at ht
  · split at ht
    · rename_i k buffer hq
      obtain ⟨rfl, rfl⟩ := Prod.mk.inj (Option.some.inj ht)
      obtain ⟨k', hk, hq⟩ := Option.bind_eq_some_iff.mp hq
      obtain ⟨x, hx, hq⟩ := Option.map_eq_some_iff.mp hq
      obtain ⟨rfl, rfl⟩ := Prod.mk.inj hq
      exact .inr ⟨k', buffer, hk, hx, rfl, rfl⟩
    · cases ht
  · rename_i hok
    obtain ⟨rfl, rfl⟩ := Prod.mk.inj (Option.some.inj ht)
    exact .inl ⟨Bool.eq_false_of_not_eq_true hok, rfl, rfl⟩

theorem neutral_queued {gb id : ℕ} {ok r : Bool} :
    ∀ i ∈ (([.queued gb id ok r] : List Instr) : Multiset Instr), i.Neutral := by
  intro i hi
  obtain rfl := List.mem_singleton.mp hi
  exact ⟨rfl, rfl, rfl⟩

theorem Wired.queueBuffer {s t : State} {code : Multiset Instr} {gb id p : ℕ}
    {slot : Option ℕ} {ok bufferReplaced : Bool} {pushed : List Instr} (h : Wired s code)
    (hs : ∀ k, slot = some k → p ∈ s.mOutputSlots → ¬ Attaching code p k)
    (ht : s.queueBuffer gb id p slot ok bufferReplaced = some (t, pushed)) :
    Wired t ((pushed : Multiset Instr) + code) := by
  obtain ⟨-, rfl, rfl⟩ | ⟨k, buffer, hk, hq, rfl, rfl⟩ := queueBuffer_cases ht
  · exact h.neutral neutral_queued
  · have hsome : s.queue p k ≠ none := by
      rw [hq]
      exact Option.some_ne_none _
    exact (h.setSlot (h.connected_of_queue hsome) (hs k hk)).neutral neutral_queued

theorem Wired.disconnect {s : State} {code : Multiset Instr} {p : ℕ} (ok : Bool)
    (h : Wired s (.disconnect p ::ₘ code)) : Wired (s.disconnect p ok) code := by
  have hcode := h.of_cons
  obtain ⟨-, hp⟩ := h.disconnecting p (Multiset.mem_cons_self _ _)
  have hnone : .disconnect p ∉ code := by
    intro hmem
    have h2 := h.once p
    rw [Multiset.count_cons_self] at h2
    have h1 := Multiset.count_pos.mpr hmem
    omega
  unfold State.disconnect
  split
  · have hne : ∀ q ∈ s.mOutputSlots, q ≠ p := fun q hq heq ↦ hp (heq ▸ hq)
    refine ⟨h.inj, h.slots, fun q hq ↦ ?_, fun q hq k ↦ ?_, fun q hq ↦ ?_, hcode.once,
      hcode.output, fun i hi q k gb hat ↦ ?_⟩
    · exact Finset.mem_erase.mpr ⟨hne q hq, h.connected q hq⟩
    · dsimp only at hq ⊢
      split
      · rfl
      · rename_i hqp
        exact h.empty q (fun hc ↦ hq (Finset.mem_erase.mpr ⟨hqp, hc⟩)) k
    · obtain ⟨hc, hs⟩ := hcode.disconnecting q hq
      refine ⟨Finset.mem_erase.mpr ⟨?_, hc⟩, hs⟩
      rintro rfl
      exact hnone hq
    · obtain ⟨hlt, hq⟩ := hcode.pending i hi q k gb hat
      refine ⟨hlt, fun hreg ↦ ?_⟩
      dsimp only
      rw [if_neg (hne q hreg)]
      exact hq hreg
  · exact hcode

/-- An output is removed: its slots are forgotten, and what was in them has to be counted down. -/
theorem removeOutput_cases {s t : State} {id : ℕ} {detached : List ℕ} {pushed : List Instr}
    (ht : s.removeOutput id detached = some (t, pushed)) :
    (s.mOutputs.lookup id = none ∧ t = s ∧ pushed = []) ∨
    ∃ p slots, s.mOutputs.lookup id = some p ∧ s.mOutputSlots.lookup p = some slots ∧
      pushed = slots.reduceOption.map (.decrement · id) ++ [.disconnect p] ∧
      t.wiring = (s.mOutputs.erase id, s.mOutputSlots.erase p,
        fun q k ↦ if q = p ∧ k ∈ detached then none else s.queue q k, s.connected) ∧
      t = { s with
        mOutputs := t.mOutputs
        mOutputSlots := t.mOutputSlots
        mDetachedBuffers := t.mDetachedBuffers
        queue := t.queue } := by
  unfold State.removeOutput at ht
  split at ht
  · rename_i hnone
    obtain ⟨rfl, rfl⟩ := Prod.mk.inj (Option.some.inj ht)
    exact .inl ⟨hnone, rfl, rfl⟩
  rename_i p hp
  split at ht
  · cases ht
  rename_i slots hslots
  split at ht
  · obtain ⟨rfl, rfl⟩ := Prod.mk.inj (Option.some.inj ht)
    exact .inr ⟨p, slots, hp, hslots, rfl, rfl, rfl⟩
  · cases ht

theorem neutral_decrements {l : List ℕ} {id : ℕ} :
    ∀ i ∈ ((l.map (.decrement · id) : List Instr) : Multiset Instr), i.Neutral := by
  intro i hi
  obtain ⟨x, -, rfl⟩ := List.mem_map.mp (Multiset.mem_coe.mp hi)
  exact ⟨rfl, rfl, rfl⟩

theorem coe_append_singleton (l : List Instr) (i : Instr) (code : Multiset Instr) :
    ((l ++ [i] : List Instr) : Multiset Instr) + code = (l : Multiset Instr) + (i ::ₘ code) := by
  rw [← Multiset.coe_add, add_assoc]
  rfl

theorem Wired.removeOutput {s t : State} {code : Multiset Instr} {id : ℕ} {detached : List ℕ}
    {pushed : List Instr} (h : Wired s code)
    (ht : s.removeOutput id detached = some (t, pushed)) :
    Wired t ((pushed : Multiset Instr) + code) := by
  obtain ⟨-, rfl, rfl⟩ | ⟨p, slots, hp, hslots, rfl, hw, -⟩ := removeOutput_cases ht
  · rwa [Multiset.coe_nil, zero_add]
  have hreg : p ∈ s.mOutputSlots := AList.lookup_isSome.mp (Option.isSome_of_eq_some hslots)
  simp only [wiring, Prod.mk.injEq] at hw
  obtain ⟨ho, hs, hq, hc⟩ := hw
  have hmem : ∀ q, q ∈ t.mOutputSlots ↔ q ≠ p ∧ q ∈ s.mOutputSlots := by
    intro q
    rw [hs]
    exact AList.mem_erase
  have hlookup : ∀ a q, t.mOutputs.lookup a = some q ↔ a ≠ id ∧ s.mOutputs.lookup a = some q := by
    intro a q
    rw [ho, lookup_erase]
    split
    · rename_i ha
      exact ⟨(by cases ·), fun h ↦ absurd ha h.1⟩
    · rename_i ha
      exact ⟨fun h ↦ ⟨ha, h⟩, fun h ↦ h.2⟩
  have hgone : p ∉ t.mOutputSlots := fun hm ↦ ((hmem p).mp hm).1 rfl
  rw [coe_append_singleton]
  refine Wired.neutral (Wired.push ?_ ?_ (fun _ _ hto ↦ by cases hto) fun _ _ _ hat ↦ by
    cases hat) neutral_decrements
  · refine ⟨fun a b q ha hb ↦ ?_, fun q ↦ ?_, fun q hq ↦ ?_, fun q hqc k ↦ ?_, fun q hqc ↦ ?_,
      h.once, fun i hi a q hto ↦ ?_, fun i hi q k gb hat ↦ ?_⟩
    · exact h.inj a b q ((hlookup a q).mp ha).2 ((hlookup b q).mp hb).2
    · rw [hmem, h.slots]
      constructor
      · intro hcond
        obtain ⟨hqp, a, ha⟩ := hcond
        refine ⟨a, (hlookup a q).mpr ⟨?_, ha⟩⟩
        rintro rfl
        exact hqp (Option.some.inj (ha.symm.trans hp))
      · intro hcond
        obtain ⟨a, ha⟩ := hcond
        obtain ⟨hne, ha⟩ := (hlookup a q).mp ha
        refine ⟨?_, a, ha⟩
        rintro rfl
        exact hne (h.inj a id q ha hp)
    · rw [hc]
      exact h.connected q ((hmem q).mp hq).2
    · rw [hc] at hqc
      rw [hq]
      dsimp only
      split
      · rfl
      · exact h.empty q hqc k
    · obtain ⟨hcon, hn⟩ := h.disconnecting q hqc
      rw [hc]
      exact ⟨hcon, fun hm ↦ hn ((hmem q).mp hm).2⟩
    · obtain hout | hout := h.output i hi a q hto
      · by_cases ha : a = id
        · subst ha
          obtain rfl : p = q := Option.some.inj (hp.symm.trans hout)
          refine .inr ⟨fun hm ↦ ?_, hgone⟩
          rw [ho] at hm
          exact (AList.mem_erase.mp hm).1 rfl
        · exact .inl ((hlookup a q).mpr ⟨ha, hout⟩)
      · refine .inr ⟨fun hm ↦ hout.1 ?_, fun hm ↦ hout.2 ((hmem q).mp hm).2⟩
        rw [ho] at hm
        exact (AList.mem_erase.mp hm).2
    · obtain ⟨hlt, hpend⟩ := h.pending i hi q k gb hat
      refine ⟨hlt, fun hm ↦ ?_⟩
      rw [hq]
      dsimp only
      rw [if_neg fun hqp ↦ ((hmem q).mp hm).1 hqp.1]
      exact hpend ((hmem q).mp hm).2
  · intro q hq'
    obtain rfl : p = q := by cases hq'; rfl
    rw [hc]
    exact ⟨h.connected p hreg, hgone, fun hd ↦ (h.disconnecting p hd).2 hreg⟩

/-- An output is added, or it was there, or it was connected, or it can not be set up. -/
theorem addOutput_cases (s : State) (id p : ℕ) (ok : Bool) :
    s.addOutput id p ok = s ∨
    (p ∉ s.connected ∧ s.addOutput id p ok = { s with connected := insert p s.connected }) ∨
    id ∉ s.mOutputs ∧ p ∉ s.connected ∧ s.addOutput id p ok = { s with
      connected := insert p s.connected
      mOutputs := s.mOutputs.insert id p
      mOutputSlots := s.mOutputSlots.insert p (List.replicate NUM_BUFFER_SLOTS none) } := by
  unfold State.addOutput
  split
  · exact .inl rfl
  rename_i hid
  split
  · exact .inl rfl
  rename_i hp
  cases ok with
  | false => exact .inr (.inl ⟨hp, rfl⟩)
  | true => exact .inr (.inr ⟨hid, hp, rfl⟩)

theorem Wired.connect {s : State} {code : Multiset Instr} (h : Wired s code) (p : ℕ) :
    Wired { s with connected := insert p s.connected } code := by
  refine ⟨h.inj, h.slots, fun q hq ↦ Finset.mem_insert_of_mem (h.connected q hq),
    fun q hq k ↦ h.empty q (fun hc ↦ hq (Finset.mem_insert_of_mem hc)) k, fun q hq ↦ ?_,
    h.once, h.output, h.pending⟩
  exact ⟨Finset.mem_insert_of_mem (h.disconnecting q hq).1, (h.disconnecting q hq).2⟩

theorem lookup_insert_output (s : State) (id p a : ℕ) :
    (s.mOutputs.insert id p).lookup a = if a = id then some p else s.mOutputs.lookup a := by
  split
  · rename_i ha
    rw [ha, AList.lookup_insert]
  · rename_i ha
    exact AList.lookup_insert_ne ha

theorem Wired.register {s : State} {code : Multiset Instr} {id p : ℕ} (h : Wired s code)
    (hid : id ∉ s.mOutputs) (hp : p ∉ s.connected)
    (hout : ∀ i ∈ code, ∀ a q, i.attachesTo = some (a, q) → a ≠ id ∧ q ≠ p) :
    Wired { s with
      connected := insert p s.connected
      mOutputs := s.mOutputs.insert id p
      mOutputSlots := s.mOutputSlots.insert p (List.replicate NUM_BUFFER_SLOTS none) } code := by
  have hnew : p ∉ s.mOutputSlots := fun hm ↦ hp (h.connected p hm)
  have hmem : ∀ q, q ∈ s.mOutputSlots.insert p (List.replicate NUM_BUFFER_SLOTS none) ↔
      q = p ∨ q ∈ s.mOutputSlots := fun q ↦ AList.mem_insert _
  have hfresh : ∀ a, s.mOutputs.lookup a ≠ some p := fun a ha ↦ hnew ((h.slots p).mpr ⟨a, ha⟩)
  have hnone : s.mOutputs.lookup id = none := AList.lookup_eq_none.mpr hid
  refine ⟨fun a b q ha hb ↦ ?_, fun q ↦ (hmem q).trans ?_, fun q hq ↦ ?_, (h.connect p).empty,
    fun q hq ↦ ?_, h.once, fun i hi a q hto ↦ ?_, fun i hi q k gb hat ↦ ?_⟩
  · dsimp only at ha hb
    rw [lookup_insert_output] at ha hb
    split at ha <;> split at hb
    · exact ‹a = id›.trans ‹b = id›.symm
    · exact absurd (hb.trans ha.symm) (hfresh b)
    · exact absurd (ha.trans hb.symm) (hfresh a)
    · exact h.inj a b q ha hb
  · rw [h.slots]
    dsimp only
    constructor
    · intro hcond
      obtain rfl | ⟨a, ha⟩ := hcond
      · exact ⟨id, AList.lookup_insert _⟩
      · refine ⟨a, ?_⟩
        rw [lookup_insert_output, if_neg ?_]
        · exact ha
        · rintro rfl
          rw [hnone] at ha
          cases ha
    · intro hcond
      obtain ⟨a, ha⟩ := hcond
      rw [lookup_insert_output] at ha
      split at ha
      · exact .inl (Option.some.inj ha).symm
      · exact .inr ⟨a, ha⟩
  · obtain rfl | hq := (hmem q).mp hq
    · exact Finset.mem_insert_self _ _
    · exact (h.connect p).connected q hq
  · obtain ⟨hc, hn⟩ := (h.connect p).disconnecting q hq
    refine ⟨hc, fun hm ↦ ?_⟩
    obtain rfl | hm := (hmem q).mp hm
    · exact hp (h.disconnecting q hq).1
    · exact hn hm
  · obtain ⟨hne, hneq⟩ := hout i hi a q hto
    obtain ho | ho := h.output i hi a q hto
    · refine .inl ?_
      dsimp only
      rw [lookup_insert_output, if_neg hne]
      exact ho
    · refine .inr ⟨fun hm ↦ ?_, fun hm ↦ ?_⟩
      · obtain ha | hm := (AList.mem_insert _).mp hm
        · exact hne ha
        · exact ho.1 hm
      · obtain hq | hm := (hmem q).mp hm
        · exact hneq hq
        · exact ho.2 hm
  · obtain ⟨hlt, hq⟩ := h.pending i hi q k gb hat
    refine ⟨hlt, fun hm ↦ ?_⟩
    obtain rfl | hm := (hmem q).mp hm
    · obtain ⟨a, hto⟩ := Instr.exists_attachesTo hat
      exact absurd rfl (hout i hi a q hto).2
    · exact hq hm

theorem Wired.addOutput {s : State} {code : Multiset Instr} {id p : ℕ} {ok : Bool}
    (h : Wired s code)
    (hout : ∀ i ∈ code, ∀ a q, i.attachesTo = some (a, q) → a ≠ id ∧ q ≠ p) :
    Wired (s.addOutput id p ok) code := by
  obtain heq | ⟨-, heq⟩ | ⟨hid, hp, heq⟩ := addOutput_cases s id p ok
  · rw [heq]
    exact h
  · rw [heq]
    exact h.connect p
  · rw [heq]
    exact h.register hid hp hout

/-! ### Threads -/

theorem threads_dequeueBuffer {s t : State} {p k : ℕ} (ht : s.dequeueBuffer p k = some t) :
    t.threads = s.threads := by
  obtain ⟨_, -, rfl⟩ := queue_of_dequeueBuffer ht
  rfl

theorem threads_addOutput (s : State) (id p : ℕ) (ok : Bool) :
    (s.addOutput id p ok).threads = s.threads := by
  unfold addOutput
  split_ifs <;> rfl

theorem threads_removeOutput {s t : State} {id : ℕ} {detached : List ℕ} {pushed : List Instr}
    (ht : s.removeOutput id detached = some (t, pushed)) : t.threads = s.threads := by
  obtain ⟨-, rfl, -⟩ | ⟨_, _, -, -, -, -, heq⟩ := removeOutput_cases ht
  · rfl
  · rw [heq]

theorem Wired.exec {s t : State} {others : Multiset Instr} {i : Instr} {rest new : List Instr}
    {answer : Answer} (h : Wired s (((i :: rest : List Instr) : Multiset Instr) + others))
    (hqueue : ∀ gb id gbp slot, i = .queueBuffer gb id gbp (some slot) → gbp ∈ s.mOutputSlots →
      ¬ Attaching ((rest : Multiset Instr) + others) gbp slot)
    (hqueued : ∀ gb id ok r, i = .queued gb id ok r → answer.detached = true →
      ∀ gbp ∈ s.mOutputs.lookup id, ∀ x ∈ answer.dequeued, ∀ b ∈ s.mirror gbp x.1,
        b ∈ s.mDetachedBuffers → ¬ Attaching ((rest : Multiset Instr) + others) gbp x.1)
    (hdequeued : ∀ gbp slot fence, i = .dequeued gbp slot fence → answer.detached = true →
      ∀ b ∈ s.mirror gbp slot, b ∈ s.mDetachedBuffers →
        ¬ Attaching ((rest : Multiset Instr) + others) gbp slot)
    (ht : s.exec i rest answer = some (t, new)) : Wired t ((new : Multiset Instr) + others) := by
  rw [← Multiset.cons_coe, Multiset.cons_add] at h
  have hpush : ∀ r : State × List Instr,
      Wired r.1 ((r.2 : Multiset Instr) + ((rest : Multiset Instr) + others)) →
      (r.1, r.2 ++ rest) = (t, new) → Wired t ((new : Multiset Instr) + others) := by
    intro r hr heq
    obtain ⟨rfl, rfl⟩ := Prod.mk.inj heq
    rwa [← Multiset.coe_add, add_assoc]
  cases i with
  | attach gb ids todo =>
    obtain ⟨r, hr, heq⟩ := Option.map_eq_some_iff.mp ht
    exact hpush r (h.of_cons.attach hr) heq
  | attachBuffer gb id p => exact h.attachBuffer ht
  | attached gb id p k => exact h.attached (Option.some.inj ht)
  | store gb id p k =>
    obtain ⟨u, hu, heq⟩ := Option.map_eq_some_iff.mp ht
    obtain ⟨rfl, rfl⟩ := Prod.mk.inj heq
    exact h.store hu
  | frame gb todo =>
    obtain ⟨r, hr, heq⟩ := Option.map_eq_some_iff.mp ht
    exact hpush r (h.of_cons.frame hr) heq
  | queueBuffer gb id p slot =>
    obtain ⟨r, hr, heq⟩ := Option.map_eq_some_iff.mp ht
    refine hpush r (h.of_cons.queueBuffer (fun k hk ↦ ?_) hr) heq
    subst hk
    exact hqueue gb id p k rfl
  | queued gb id ok r =>
    obtain ⟨x, hx, heq⟩ := Option.map_eq_some_iff.mp ht
    exact hpush x (h.of_cons.queued (hqueued gb id ok r rfl) hx) heq
  | dequeued p k fence =>
    obtain ⟨x, hx, heq⟩ := Option.map_eq_some_iff.mp ht
    exact hpush x (h.of_cons.onBufferReleasedByOutput (hdequeued p k fence rfl) hx) heq
  | decrement b id =>
    exact hpush _ (h.of_cons.decrement b id) (Option.some.inj ht)
  | releaseInput b slot frameNumber detach =>
    obtain ⟨rfl, rfl⟩ := Prod.mk.inj (Option.some.inj ht)
    exact h.of_cons.congr rfl
  | disconnect p =>
    obtain ⟨rfl, rfl⟩ := Prod.mk.inj (Option.some.inj ht)
    exact h.disconnect answer.ok

theorem wired_init : Wired {} ({} : State).code := by
  refine ⟨fun _ _ _ h ↦ ?_, fun p ↦ ⟨fun h ↦ ?_, fun ⟨_, h⟩ ↦ ?_⟩, fun p h ↦ ?_, fun _ _ _ ↦ rfl,
    fun p h ↦ ?_, fun p ↦ Nat.zero_le _, fun i h ↦ ?_, fun i h ↦ ?_⟩
  all_goals cases h

end State

end VirtualCamera.Splitter
