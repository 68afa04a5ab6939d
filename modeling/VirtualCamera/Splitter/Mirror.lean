import VirtualCamera.Splitter.Wired

namespace VirtualCamera.Splitter

open Library Assoc Transition

namespace State

/-- The slots of the registered outputs record what the splitter attached there and has not
detached since, but for the slots that are being attached. -/
def MirrorExact (s : State) : Prop :=
  ∀ surfaceId gbp, s.mOutputs.lookup surfaceId = some gbp → ∀ slot,
    ¬ Attaching s.code gbp slot → s.mirror gbp slot = s.content gbp slot

/-- Each search for the slot of a buffer has found one that the buffer was in. -/
def SearchesExact (s : State) : Prop := ∀ x ∈ s.searches, x.2 = some x.1

/-! ### The invariant -/

structure Mirrored (s : State) (code : Multiset Instr) : Prop extends Wired s code where
  mirror : ∀ p ∈ s.mOutputSlots, ∀ k, ¬ Attaching code p k → s.mirror p k = s.content p k
  searches : s.SearchesExact

/-- The part of a state that the slots are about. -/
def outputs (s : State) := (s.mOutputs, s.mOutputSlots, s.queue, s.connected, s.searches)

theorem Mirrored.congr {s t : State} {code : Multiset Instr} (h : Mirrored s code)
    (ht : t.outputs = s.outputs) : Mirrored t code := by
  simp only [outputs, Prod.mk.injEq] at ht
  obtain ⟨ho, hs, hq, hc, hx⟩ := ht
  have hm : t.mirror = s.mirror := by
    funext p k
    unfold State.mirror
    rw [hs]
  have hcontent : t.content = s.content := by
    funext p k
    unfold content
    rw [hq]
  refine ⟨h.toWired.congr (by simp only [wiring, ho, hs, hq, hc]), ?_, ?_⟩
  · rw [hs, hm, hcontent]; exact h.mirror
  · unfold SearchesExact
    rw [hx]
    exact h.searches

/-- Only the instructions about slots and connections matter. -/
theorem Mirrored.neutral {s : State} {code extra : Multiset Instr} (h : Mirrored s code)
    (hn : ∀ i ∈ extra, i.Neutral) : Mirrored s (extra + code) := by
  refine ⟨h.toWired.neutral hn, fun p hp k hna ↦ h.mirror p hp k fun ⟨i, hi, hat⟩ ↦ ?_, h.searches⟩
  exact hna ⟨i, Multiset.mem_add.mpr (.inr hi), hat⟩

/-- An instruction that attaches nothing may be dropped. -/
theorem Mirrored.of_cons {s : State} {code : Multiset Instr} {i : Instr}
    (h : Mirrored s (i ::ₘ code)) (hn : i.attachedAt = none) : Mirrored s code := by
  refine ⟨h.toWired.of_cons, fun p hp k hna ↦ h.mirror p hp k fun hat ↦ ?_, h.searches⟩
  obtain ⟨gb, hat⟩ | hat := attaching_cons hat
  · rw [hn] at hat
    cases hat
  · exact hna hat

theorem outputs_decrement (s : State) (id surfaceId : ℕ) :
    (s.decrementBufRefCountLocked id surfaceId).1.outputs = s.outputs := by
  unfold decrementBufRefCountLocked
  split
  · rfl
  · dsimp only
    split
    · rfl
    · split
      · rfl
      · split <;> rfl

theorem Mirrored.decrement {s : State} {code : Multiset Instr} (h : Mirrored s code)
    (id surfaceId : ℕ) : Mirrored (s.decrementBufRefCountLocked id surfaceId).1
      (((s.decrementBufRefCountLocked id surfaceId).2 : Multiset Instr) + code) := by
  refine (h.congr (outputs_decrement s id surfaceId)).neutral fun i hi ↦ ?_
  exact neutral_decrement i (Multiset.mem_coe.mp hi)

/-- A slot changes hands between the splitter and the output. -/
theorem Mirrored.setSlot {s : State} {code : Multiset Instr} {p k : ℕ} {x : Option (ℕ × Bool)}
    (h : Mirrored s code) (hx : x.map Prod.fst = s.content p k) (hsome : s.queue p k ≠ none)
    (hp : p ∈ s.mOutputSlots → ¬ Attaching code p k) :
    Mirrored { s with queue := setSlot s.queue p k x } code := by
  refine ⟨h.toWired.setSlot (h.connected_of_queue hsome) hp, fun p' hp' k' hna ↦ ?_, h.searches⟩
  have hm := h.mirror p' hp' k' hna
  change s.mirror p' k' = (Splitter.setSlot s.queue p k x p' k').map Prod.fst
  by_cases hpk : p' = p ∧ k' = k
  · obtain ⟨rfl, rfl⟩ := hpk
    rw [setSlot_self, hx]
    exact hm
  · rw [setSlot_of_ne hpk]
    exact hm

theorem Mirrored.dequeueBuffer {s t : State} {code : Multiset Instr} {p k : ℕ}
    (h : Mirrored s code) (ht : s.dequeueBuffer p k = some t) : Mirrored t code := by
  obtain ⟨buffer, hq, rfl⟩ := queue_of_dequeueBuffer ht
  refine h.setSlot (by rw [State.content, hq]; rfl) (by rw [hq]; exact Option.some_ne_none _) ?_
  intro hreg
  refine h.not_attaching hreg ?_
  rw [hq]
  exact fun h ↦ by cases h

theorem Mirrored.returnOutputBufferLocked {s t : State} {code : Multiset Instr}
    {p surfaceId k : ℕ} {fence detached : Bool} {pushed : List Instr} (h : Mirrored s code)
    (hd : detached = true → ∀ b ∈ s.mirror p k, b ∉ s.mDetachedBuffers)
    (ht : s.returnOutputBufferLocked p surfaceId k fence detached = some (t, pushed)) :
    Mirrored t ((pushed : Multiset Instr) + code) := by
  unfold State.returnOutputBufferLocked at ht
  split at ht
  · split at ht
    · cases ht
    · rename_i buffer hbuffer
      split at ht
      · cases ht
      · rw [if_neg fun hb ↦ hd hb.2 buffer hbuffer hb.1] at ht
        obtain hr := Option.some.inj ht
        have hd := h.decrement buffer surfaceId
        rw [hr] at hd
        exact hd
  · obtain ⟨rfl, rfl⟩ := Prod.mk.inj (Option.some.inj ht)
    rwa [Multiset.coe_nil, zero_add]

theorem Mirrored.onBufferReleasedByOutput {s t : State} {code : Multiset Instr} {p k : ℕ}
    {fence detached : Bool} {pushed : List Instr} (h : Mirrored s code)
    (hd : detached = true → ∀ b ∈ s.mirror p k, b ∉ s.mDetachedBuffers)
    (ht : s.onBufferReleasedByOutput p k fence detached = some (t, pushed)) :
    Mirrored t ((pushed : Multiset Instr) + code) := by
  unfold State.onBufferReleasedByOutput at ht
  split at ht
  · obtain ⟨rfl, rfl⟩ := Prod.mk.inj (Option.some.inj ht)
    rwa [Multiset.coe_nil, zero_add]
  · exact h.returnOutputBufferLocked hd ht

theorem Mirrored.queued {s t : State} {code : Multiset Instr} {gb surfaceId : ℕ}
    {ok bufferReplaced : Bool} {answer : Answer} {pushed : List Instr} (h : Mirrored s code)
    (hd : answer.detached = true → ∀ p ∈ s.mOutputs.lookup surfaceId, ∀ x ∈ answer.dequeued,
      ∀ b ∈ s.mirror p x.1, b ∉ s.mDetachedBuffers)
    (ht : s.queued gb surfaceId ok bufferReplaced answer = some (t, pushed)) :
    Mirrored t ((pushed : Multiset Instr) + code) := by
  obtain ⟨rfl, rfl, -⟩ | ⟨-, hr⟩ | ⟨-, p, k, fence, u, hp, hdequeued, hu, ht⟩ := queued_cases ht
  · rwa [Multiset.coe_nil, zero_add]
  · have hdec := h.decrement gb surfaceId
    rw [hr] at hdec
    exact hdec
  · refine (h.dequeueBuffer hu).returnOutputBufferLocked (fun ha b hb ↦ ?_) ht
    obtain ⟨buffer, -, rfl⟩ := queue_of_dequeueBuffer hu
    exact hd ha p hp (k, fence) hdequeued b hb

theorem Mirrored.search {s : State} {code : Multiset Instr} {id p gb k : ℕ} (h : Mirrored s code)
    (ho : s.mOutputs.lookup id = some p) (hk : s.getSlotForOutputLocked p gb = some (some k))
    (hna : ¬ Attaching code p k) :
    Mirrored { s with searches := s.searches ++ [(gb, s.content p k)] } code := by
  refine ⟨h.toWired.congr rfl, h.mirror, fun x hx ↦ ?_⟩
  obtain hx | hx := List.mem_append.mp hx
  · exact h.searches x hx
  · obtain rfl := List.mem_singleton.mp hx
    change s.content p k = some gb
    rw [← h.mirror p ((h.slots p).mpr ⟨id, ho⟩) k hna]
    exact mirror_of_getSlot hk

theorem Mirrored.attach {s t : State} {code : Multiset Instr} {gb : ℕ} {ids todo : List ℕ}
    {pushed : List Instr} (h : Mirrored s code)
    (hs : ∀ id p k, todo.head? = some id → s.mOutputs.lookup id = some p →
      s.getSlotForOutputLocked p gb = some (some k) → ¬ Attaching code p k)
    (ht : s.attach gb ids todo = some (t, pushed)) :
    Mirrored t ((pushed : Multiset Instr) + code) := by
  cases todo with
  | nil =>
    obtain ⟨rfl, rfl⟩ := Prod.mk.inj (Option.some.inj ht)
    rw [Multiset.coe_nil, zero_add]
    exact h.congr rfl
  | cons id todo =>
    obtain ⟨-, rfl, rfl⟩ | ⟨p, k, hp, hk, rfl, rfl⟩ | ⟨p, hp, -, rfl, rfl⟩ := attach_cases ht
    · exact h.neutral neutral_attach
    · exact (h.search hp hk (hs id p k rfl hp hk)).neutral neutral_attach
    · have hneutral : Mirrored t ((([.attach gb ids todo] : List Instr) : Multiset Instr) + code) :=
        h.neutral neutral_attach
      rw [← Multiset.cons_coe, Multiset.cons_add]
      refine ⟨hneutral.toWired.call hp, fun q hq k hna ↦ hneutral.mirror q hq k fun hat ↦ ?_,
        h.searches⟩
      exact hna (hat.mono (Multiset.le_cons_self _ _))

theorem Mirrored.attachBuffer {s t : State} {code : Multiset Instr} {gb id p : ℕ}
    {slot : Option ℕ} {rest new : List Instr}
    (h : Mirrored s (.attachBuffer gb id p ::ₘ ((rest : Multiset Instr) + code)))
    (ht : s.attachBuffer gb id p rest slot = some (t, new)) :
    Mirrored t ((new : Multiset Instr) + code) := by
  refine ⟨h.toWired.attachBuffer ht, ?_, ?_⟩
  all_goals have hcode := h.of_cons rfl
  · intro q hq k' hna
    cases slot with
    | none =>
      obtain ⟨rfl, rfl⟩ := Prod.mk.inj (Option.some.inj ht)
      refine hcode.mirror q hq k' fun ⟨i, hi, gb', hat⟩ ↦ hna ⟨i, ?_, gb', hat⟩
      refine Multiset.mem_add.mpr ((Multiset.mem_add.mp hi).imp_left fun hi ↦ ?_)
      unfold returned
      split
      · obtain rfl | hi := List.mem_cons.mp (Multiset.mem_coe.mp hi)
        · cases hat
        · exact Multiset.mem_coe.mpr hi
      · exact hi
    | some k =>
      unfold State.attachBuffer at ht
      dsimp only at ht
      split at ht
      · obtain ⟨rfl, rfl⟩ := Prod.mk.inj (Option.some.inj ht)
        rw [← Multiset.cons_coe, Multiset.cons_add] at hna
        have hne : ¬(q = p ∧ k' = k) := by
          intro hcond
          obtain ⟨rfl, rfl⟩ := hcond
          exact hna ⟨_, Multiset.mem_cons_self _ _, gb, rfl⟩
        change s.mirror q k' = (Splitter.setSlot s.queue p k _ q k').map Prod.fst
        rw [setSlot_of_ne hne]
        exact hcode.mirror q hq k' fun hat ↦ hna (hat.mono (Multiset.le_cons_self _ _))
      · cases ht
  · cases slot with
    | none =>
      obtain ⟨rfl, -⟩ := Prod.mk.inj (Option.some.inj ht)
      exact h.searches
    | some k =>
      unfold State.attachBuffer at ht
      dsimp only at ht
      split at ht
      · obtain ⟨rfl, -⟩ := Prod.mk.inj (Option.some.inj ht)
        exact h.searches
      · cases ht

/-- A buffer that has been attached to an output that is not registered any more. -/
theorem Mirrored.forget {s : State} {code : Multiset Instr} {i : Instr} {p k gb : ℕ}
    (h : Mirrored s (i ::ₘ code)) (hat : i.attachedAt = some (p, k, gb))
    (hp : p ∉ s.mOutputSlots) : Mirrored s code := by
  refine ⟨h.toWired.of_cons, fun p' hp' k' hna ↦ h.mirror p' hp' k' fun hatt ↦ ?_, h.searches⟩
  obtain ⟨gb', hat'⟩ | hatt := attaching_cons hatt
  · rw [hat] at hat'
    obtain ⟨rfl, _⟩ := Prod.mk.inj (Option.some.inj hat')
    exact hp hp'
  · exact hna hatt

/-- The result of `attachBuffer` has been looked at; the slot is still to be recorded. -/
theorem Mirrored.storing {s : State} {code : Multiset Instr} {gb id p k : ℕ}
    (h : Mirrored s (.attached gb id p k ::ₘ code)) : Mirrored s (.store gb id p k ::ₘ code) := by
  refine ⟨h.toWired.storing, fun p' hp' k' hna ↦ h.mirror p' hp' k' fun hatt ↦ hna ?_, h.searches⟩
  obtain ⟨gb', hat⟩ | hatt := attaching_cons hatt
  · exact ⟨_, Multiset.mem_cons_self _ _, gb', hat⟩
  · exact hatt.mono (Multiset.le_cons_self _ _)

theorem Mirrored.attached {s t : State} {code : Multiset Instr} {gb id p k : ℕ}
    {rest new : List Instr}
    (h : Mirrored s (.attached gb id p k ::ₘ ((rest : Multiset Instr) + code)))
    (ht : s.attached gb id k rest = (t, new)) : Mirrored t ((new : Multiset Instr) + code) := by
  obtain ⟨-, hp, rfl, rfl⟩ | ⟨-, -, rfl, rfl⟩ | ⟨previous, -, -, rfl, rfl⟩ :=
    attached_cases h.toWired ht
  · exact h.forget rfl hp
  · rw [← Multiset.cons_coe, Multiset.cons_add]
    exact h.storing
  · rw [coe_append_cons]
    exact h.storing.decrement previous id

theorem Mirrored.store {s t : State} {code : Multiset Instr} {gb id p k : ℕ}
    (h : Mirrored s (.store gb id p k ::ₘ code)) (ht : s.store gb p k = some t) :
    Mirrored t code := by
  obtain ⟨hreg, hmem, hm, heq⟩ := store_spec ht
  have hq := (h.pending _ (Multiset.mem_cons_self _ _) p k gb rfl).2 hreg
  have hqueue : t.queue = s.queue := by rw [heq]
  refine ⟨h.toWired.store ht, fun q hqs k' hna ↦ ?_, by rw [heq]; exact h.searches⟩
  rw [hm, content, hqueue]
  split
  · rename_i hqk
    obtain ⟨rfl, rfl⟩ := hqk
    rw [hq]
    rfl
  · rename_i hqk
    refine h.mirror q ((hmem q).mp hqs) k' fun hatt ↦ ?_
    obtain ⟨gb', hat⟩ | hatt := attaching_cons hatt
    · simp only [Instr.attachedAt, Option.some.injEq, Prod.mk.injEq] at hat
      exact hqk ⟨hat.1.symm, hat.2.1.symm⟩
    · exact hna hatt

theorem Mirrored.frame {s t : State} {code : Multiset Instr} {gb : ℕ} {todo : List ℕ}
    {pushed : List Instr} (h : Mirrored s code)
    (hs : ∀ id p k, todo.head? = some id → s.mOutputs.lookup id = some p →
      s.getSlotForOutputLocked p gb = some (some k) → ¬ Attaching code p k)
    (ht : s.frame gb todo = some (t, pushed)) : Mirrored t ((pushed : Multiset Instr) + code) := by
  cases todo with
  | nil =>
    obtain ⟨rfl, rfl⟩ := Prod.mk.inj (Option.some.inj ht)
    rwa [Multiset.coe_nil, zero_add]
  | cons id todo =>
    obtain ⟨-, rfl, rfl⟩ | ⟨p, slot, hp, -, hslot, rfl, rfl⟩ := frame_cases ht
    · refine h.neutral fun i hi ↦ ?_
      obtain rfl := List.mem_singleton.mp hi
      exact ⟨rfl, rfl, rfl⟩
    · refine Mirrored.neutral ?_ fun i hi ↦ ?_
      · cases slot with
        | some k => exact h.search hp hslot (hs id p k rfl hp hslot)
        | none => exact h.congr (by simp [outputs])
      · simp only [Multiset.mem_coe, List.mem_cons, List.not_mem_nil, or_false] at hi
        obtain rfl | rfl := hi <;> exact ⟨rfl, rfl, rfl⟩

theorem Mirrored.queueBuffer {s t : State} {code : Multiset Instr} {gb id p : ℕ}
    {slot : Option ℕ} {ok bufferReplaced : Bool} {pushed : List Instr} (h : Mirrored s code)
    (hs : ∀ k, slot = some k → ¬ Attaching code p k)
    (ht : s.queueBuffer gb id p slot ok bufferReplaced = some (t, pushed)) :
    Mirrored t ((pushed : Multiset Instr) + code) := by
  obtain ⟨-, rfl, rfl⟩ | ⟨k, buffer, hk, hq, rfl, rfl⟩ := queueBuffer_cases ht
  · exact h.neutral neutral_queued
  · refine (h.setSlot ?_ ?_ fun _ ↦ hs k hk).neutral neutral_queued
    · rw [content, hq]
      rfl
    · rw [hq]
      exact Option.some_ne_none _

theorem Mirrored.disconnect {s : State} {code : Multiset Instr} {p : ℕ} (ok : Bool)
    (h : Mirrored s (.disconnect p ::ₘ code)) : Mirrored (s.disconnect p ok) code := by
  have hcode := h.of_cons rfl
  obtain ⟨-, hp⟩ := h.disconnecting p (Multiset.mem_cons_self _ _)
  refine ⟨h.toWired.disconnect ok, ?_, ?_⟩
  all_goals
    unfold State.disconnect
    split
  · intro q hq k hna
    change s.mirror q k = (if q = p then none else s.queue q k).map Prod.fst
    have hqp : q ≠ p := by
      rintro rfl
      exact hp hq
    rw [if_neg hqp]
    exact hcode.mirror q hq k hna
  · exact hcode.mirror
  · exact h.searches
  · exact h.searches

theorem Mirrored.removeOutput {s t : State} {code : Multiset Instr} {id : ℕ} {detached : List ℕ}
    {pushed : List Instr} (h : Mirrored s code)
    (ht : s.removeOutput id detached = some (t, pushed)) :
    Mirrored t ((pushed : Multiset Instr) + code) := by
  refine ⟨h.toWired.removeOutput ht, ?_, ?_⟩
  all_goals obtain ⟨-, rfl, rfl⟩ | ⟨p, slots, -, -, rfl, hw, heq⟩ := removeOutput_cases ht
  · rw [Multiset.coe_nil, zero_add]
    exact h.mirror
  · simp only [wiring, Prod.mk.injEq] at hw
    obtain ⟨-, hs, hq, -⟩ := hw
    intro q hm k hna
    rw [hs] at hm
    obtain ⟨hqp, hm⟩ := AList.mem_erase.mp hm
    have hle : code ≤ ((slots.reduceOption.map (.decrement · id) ++ [.disconnect p] :
        List Instr) : Multiset Instr) + code := Multiset.le_add_left _ _
    have hmirror := h.mirror q hm k fun hat ↦ hna (hat.mono hle)
    unfold State.mirror State.content at hmirror ⊢
    rw [hs, hq, AList.lookup_erase_ne hqp]
    dsimp only
    rw [if_neg fun hq ↦ hqp hq.1]
    exact hmirror
  · exact h.searches
  · rw [heq]
    exact h.searches

theorem Mirrored.addOutput {s : State} {code : Multiset Instr} {id p : ℕ} {ok : Bool}
    (h : Mirrored s code)
    (hout : ∀ i ∈ code, ∀ a q, i.attachesTo = some (a, q) → a ≠ id ∧ q ≠ p) :
    Mirrored (s.addOutput id p ok) code := by
  obtain heq | ⟨-, heq⟩ | ⟨hid, hp, heq⟩ := addOutput_cases s id p ok
  · rw [heq]
    exact h
  · rw [heq]
    exact ⟨h.toWired.connect p, h.mirror, h.searches⟩
  · rw [heq]
    refine ⟨h.toWired.register hid hp hout, fun q hm k hna ↦ ?_, h.searches⟩
    unfold State.mirror State.content
    dsimp only
    obtain rfl | hm' := (AList.mem_insert _).mp hm
    · rw [AList.lookup_insert, h.empty q hp k, Option.bind_some, List.getElem?_replicate]
      split <;> rfl
    · have hqp : q ≠ p := by
        rintro rfl
        exact hp (h.connected q hm')
      rw [AList.lookup_insert_ne hqp]
      exact h.mirror q hm' k hna

/-! ### Runs -/

/-- No slot that is found for a buffer, or queued, is being attached, and no buffer that
`mDetachedBuffers` has is detached from the output that returns it. -/
def SteadyCode (s : State) (answer : Answer) : Option (List Instr) → Prop
  | some (.attach gb _ (id :: _) :: _) | some (.frame gb (id :: _) :: _) =>
    ∀ gbp ∈ s.mOutputs.lookup id, ∀ slot ∈ (s.getSlotForOutputLocked gbp gb).join,
      ¬ Attaching s.code gbp slot
  | some (.queueBuffer _ _ gbp (some slot) :: _) => ¬ Attaching s.code gbp slot
  | some (.queued _ id _ _ :: _) => answer.detached = true → ∀ gbp ∈ s.mOutputs.lookup id,
    ∀ x ∈ answer.dequeued, ∀ b ∈ s.mirror gbp x.1, b ∉ s.mDetachedBuffers
  | some (.dequeued gbp slot _ :: _) =>
    answer.detached = true → ∀ b ∈ s.mirror gbp slot, b ∉ s.mDetachedBuffers
  | _ => True

/-- The code that runs is steady, and no output is added that a buffer is still being attached
to. -/
def Steady (s : State) : Label → Prop
  | .addOutput surfaceId gbp _ =>
    ∀ i ∈ s.code, ∀ x ∈ i.attachesTo, x.1 ≠ surfaceId ∧ x.2 ≠ gbp
  | .run thread answer => s.SteadyCode answer s.threads[thread]?
  | _ => True

theorem not_attaching_of_search {s : State} {code : Multiset Instr} {id p gb k : ℕ}
    {i : Instr} (hs : ∀ gbp ∈ s.mOutputs.lookup id,
      ∀ slot ∈ (s.getSlotForOutputLocked gbp gb).join, ¬ Attaching (i ::ₘ code) gbp slot)
    (hp : s.mOutputs.lookup id = some p) (hk : s.getSlotForOutputLocked p gb = some (some k)) :
    ¬ Attaching code p k := by
  intro h
  obtain ⟨j, hj, hat⟩ := h
  exact hs p hp k (by rw [hk]; rfl) ⟨j, Multiset.mem_cons_of_mem hj, hat⟩

theorem Mirrored.exec {s t : State} {others : Multiset Instr} {i : Instr} {rest new : List Instr}
    {answer : Answer} (h : Mirrored s (((i :: rest : List Instr) : Multiset Instr) + others))
    (hsearch : ∀ gb ids id todo, i = .attach gb ids (id :: todo) ∨ i = .frame gb (id :: todo) →
      ∀ gbp ∈ s.mOutputs.lookup id, ∀ slot ∈ (s.getSlotForOutputLocked gbp gb).join,
        ¬ Attaching (((i :: rest : List Instr) : Multiset Instr) + others) gbp slot)
    (hqueue : ∀ gb id gbp slot, i = .queueBuffer gb id gbp (some slot) →
      ¬ Attaching (((i :: rest : List Instr) : Multiset Instr) + others) gbp slot)
    (hqueued : ∀ gb id ok r, i = .queued gb id ok r → answer.detached = true →
      ∀ gbp ∈ s.mOutputs.lookup id, ∀ x ∈ answer.dequeued, ∀ b ∈ s.mirror gbp x.1,
        b ∉ s.mDetachedBuffers)
    (hdequeued : ∀ gbp slot fence, i = .dequeued gbp slot fence → answer.detached = true →
      ∀ b ∈ s.mirror gbp slot, b ∉ s.mDetachedBuffers)
    (ht : s.exec i rest answer = some (t, new)) : Mirrored t ((new : Multiset Instr) + others) := by
  rw [← Multiset.cons_coe, Multiset.cons_add] at h hsearch hqueue
  have hpush : ∀ r : State × List Instr,
      Mirrored r.1 ((r.2 : Multiset Instr) + ((rest : Multiset Instr) + others)) →
      (r.1, r.2 ++ rest) = (t, new) → Mirrored t ((new : Multiset Instr) + others) := by
    intro r hr heq
    obtain ⟨rfl, rfl⟩ := Prod.mk.inj heq
    rwa [← Multiset.coe_add, add_assoc]
  cases i with
  | attach gb ids todo =>
    obtain ⟨r, hr, heq⟩ := Option.map_eq_some_iff.mp ht
    refine hpush r ((h.of_cons rfl).attach (fun id p k hid hp hk ↦ ?_) hr) heq
    cases todo with
    | nil => cases hid
    | cons id' todo =>
      obtain rfl : id' = id := Option.some.inj hid
      exact not_attaching_of_search (hsearch gb ids id' todo (.inl rfl)) hp hk
  | attachBuffer gb id p => exact h.attachBuffer ht
  | attached gb id p k => exact h.attached (Option.some.inj ht)
  | store gb id p k =>
    obtain ⟨u, hu, heq⟩ := Option.map_eq_some_iff.mp ht
    obtain ⟨rfl, rfl⟩ := Prod.mk.inj heq
    exact h.store hu
  | frame gb todo =>
    obtain ⟨r, hr, heq⟩ := Option.map_eq_some_iff.mp ht
    refine hpush r ((h.of_cons rfl).frame (fun id p k hid hp hk ↦ ?_) hr) heq
    cases todo with
    | nil => cases hid
    | cons id' todo =>
      obtain rfl : id' = id := Option.some.inj hid
      exact not_attaching_of_search (hsearch gb [] id' todo (.inr rfl)) hp hk
  | queueBuffer gb id p slot =>
    obtain ⟨r, hr, heq⟩ := Option.map_eq_some_iff.mp ht
    refine hpush r ((h.of_cons rfl).queueBuffer (fun k hk ↦ ?_) hr) heq
    subst hk
    intro hcond
    obtain ⟨j, hj, hat⟩ := hcond
    exact hqueue gb id p k rfl ⟨j, Multiset.mem_cons_of_mem hj, hat⟩
  | queued gb id ok r =>
    obtain ⟨x, hx, heq⟩ := Option.map_eq_some_iff.mp ht
    exact hpush x ((h.of_cons rfl).queued (hqueued gb id ok r rfl) hx) heq
  | dequeued p k fence =>
    obtain ⟨x, hx, heq⟩ := Option.map_eq_some_iff.mp ht
    exact hpush x ((h.of_cons rfl).onBufferReleasedByOutput (hdequeued p k fence rfl) hx) heq
  | decrement b id =>
    exact hpush _ ((h.of_cons rfl).decrement b id) (Option.some.inj ht)
  | releaseInput b slot frameNumber detach =>
    obtain ⟨rfl, rfl⟩ := Prod.mk.inj (Option.some.inj ht)
    exact (h.of_cons rfl).congr rfl
  | disconnect p =>
    obtain ⟨rfl, rfl⟩ := Prod.mk.inj (Option.some.inj ht)
    exact h.disconnect answer.ok

theorem Mirrored.spawn {s : State} {new : List Instr}
    (h : Mirrored s ((new : Multiset Instr) + s.code)) :
    Mirrored (s.spawn new) (s.spawn new).code := by
  unfold code State.spawn
  rw [Threads.code_concat]
  exact h.congr rfl

theorem Mirrored.spawn_neutral {s t : State} {new : List Instr} (h : Mirrored s s.code)
    (ht : t.outputs = s.outputs) (hthreads : t.threads = s.threads) (hn : ∀ i ∈ new, i.Neutral) :
    Mirrored (t.spawn new) (t.spawn new).code := by
  have hcode : t.code = s.code := congrArg Threads.code hthreads
  refine Mirrored.spawn (Mirrored.neutral ?_ fun i hi ↦ hn i (Multiset.mem_coe.mp hi))
  rw [hcode]
  exact h.congr ht

theorem Mirrored.step {s t : State} {l : Label} (h : Mirrored s s.code) (hl : s.Steady l)
    (ht : s.step l = some t) : Mirrored t t.code := by
  cases l with
  | attachBufferToOutputs gb surface_ids =>
    obtain rfl := Option.some.inj ht
    refine h.spawn_neutral rfl rfl fun i hi ↦ ?_
    obtain rfl := List.mem_singleton.mp hi
    exact ⟨rfl, rfl, rfl⟩
  | onFrameAvailable gb slot frameNumber mGraphicBuffer mAcquireCalled =>
    unfold State.step State.onFrameAvailable at ht
    dsimp only at ht
    split at ht
    · cases ht
    obtain ⟨r, hr, rfl⟩ := Option.map_eq_some_iff.mp ht
    split at hr
    · split at hr
      · obtain rfl := Option.some.inj hr
        exact h.spawn_neutral rfl rfl fun i hi ↦ by cases hi
      · cases hr
      · obtain rfl := Option.some.inj hr
        refine h.spawn_neutral rfl rfl fun i hi ↦ ?_
        obtain rfl := List.mem_singleton.mp hi
        exact ⟨rfl, rfl, rfl⟩
    · obtain rfl := Option.some.inj hr
      exact h.spawn_neutral rfl rfl fun i hi ↦ by cases hi
  | onBufferReleasedByOutput gbp slot fence =>
    obtain ⟨u, hu, rfl⟩ := Option.map_eq_some_iff.mp ht
    refine Mirrored.spawn (Mirrored.neutral ?_ fun i hi ↦ ?_)
    · rw [show u.code = s.code from congrArg Threads.code (threads_dequeueBuffer hu)]
      exact h.dequeueBuffer hu
    · obtain rfl := List.mem_singleton.mp hi
      exact ⟨rfl, rfl, rfl⟩
  | addOutput surfaceId gbp ok =>
    obtain rfl := Option.some.inj ht
    rw [show (s.addOutput surfaceId gbp ok).code = s.code from
      congrArg Threads.code (threads_addOutput s surfaceId gbp ok)]
    exact h.addOutput fun i hi a q hto ↦ hl i hi (a, q) hto
  | removeOutput surfaceId detached =>
    obtain ⟨⟨u, pushed⟩, hu, rfl⟩ := Option.map_eq_some_iff.mp ht
    refine Mirrored.spawn ?_
    rw [show u.code = s.code from congrArg Threads.code (threads_removeOutput hu)]
    exact h.removeOutput hu
  | run thread answer =>
    unfold State.step at ht
    dsimp only at ht
    split at ht
    · rename_i i rest hthread
      obtain ⟨others, hcode, hset⟩ := Threads.exists_others hthread
      obtain ⟨⟨u, new⟩, hu, rfl⟩ := Option.map_eq_some_iff.mp ht
      have hs : s.code = ((i :: rest : List Instr) : Multiset Instr) + others := hcode
      unfold Steady at hl
      dsimp only at hl
      rw [hthread] at hl
      unfold SteadyCode at hl
      rw [hs] at hl
      rw [hs] at h
      have hexec : Mirrored u ((new : Multiset Instr) + others) := by
        refine h.exec ?_ ?_ ?_ ?_ hu
        · rintro gb ids id todo (rfl | rfl) <;> exact hl
        · rintro gb id gbp slot rfl
          exact hl
        · rintro gb id ok r rfl
          exact hl
        · rintro gbp slot fence rfl
          exact hl
      unfold code
      dsimp only
      rw [hset]
      exact hexec.congr rfl
    · cases ht

theorem mirrored_init : Mirrored {} ({} : State).code := by
  refine ⟨wired_init, fun p h ↦ ?_, fun x h ↦ ?_⟩
  all_goals cases h

/-- In a run without the steps that go wrong, `mOutputSlots` says what the splitter attached to the
registered outputs and has not detached since, and the searches only find such slots. -/
theorem mirror_exact {s : State} (h : Reachable (restrict Step Steady) {} s) :
    s.MirrorExact ∧ s.SearchesExact := by
  have hm : Mirrored s s.code := by
    refine h.invariant (P := fun s ↦ Mirrored s s.code) ?_ mirrored_init
    rintro s l t ⟨hstep, hl⟩ hs
    exact hs.step hl hstep
  exact ⟨fun id p hp k hna ↦ hm.mirror p ((hm.slots p).mpr ⟨id, hp⟩) k hna, hm.searches⟩

instance (code : Multiset Instr) (gbp slot : ℕ) : Decidable (Attaching code gbp slot) :=
  haveI := Multiset.decidableExistsMultiset (m := code)
    (p := fun i ↦ i.attachedAt.map (fun x ↦ (x.1, x.2.1)) = some (gbp, slot))
  decidable_of_iff (∃ i ∈ code, i.attachedAt.map (fun x ↦ (x.1, x.2.1)) = some (gbp, slot)) <| by
    refine exists_congr fun i ↦ and_congr_right fun _ ↦ ?_
    simp [Option.map_eq_some_iff]

instance (code : Multiset Instr) (p : Instr → Prop) [DecidablePred p] :
    Decidable (∀ i ∈ code, p i) := Multiset.decidableForallMultiset

instance (s : State) (answer : Answer) (code : Option (List Instr)) :
    Decidable (s.SteadyCode answer code) := by
  unfold SteadyCode
  split <;> infer_instance

instance (s : State) (l : Label) : Decidable (s.Steady l) := by
  cases l <;> unfold Steady <;> infer_instance

/-- Two outputs get a buffer: it is attached to both, and queued when its frame is available. -/
def shared : List Label :=
  [.addOutput 1 10 true, .addOutput 2 20 true, .attachBufferToOutputs 5 [1, 2], .run 0 {},
    .run 0 { slot := some 0 }, .run 0 {}, .run 0 {}, .run 0 {}, .run 0 { slot := some 0 },
    .run 0 {}, .run 0 {}, .run 0 {}, .onFrameAvailable 5 0 1 true false, .run 1 {}, .run 1 {},
    .run 1 {}, .run 1 {}, .run 1 {}, .run 1 {}, .run 1 {}]

theorem mirror_exact_shared : ∃ s : State, s.mirror 20 0 = some 5 ∧ s.content 20 0 = some 5 ∧
    s.mirror 10 0 = some 5 ∧ s.MirrorExact ∧ s.SearchesExact := by
  let labels := shared ++ [.onBufferReleasedByOutput 20 0 true, .run 2 { detached := true }]
  obtain ⟨s, he, hf⟩ := Option.map_eq_some_iff.mp
    (show (Transition.exec (guarded step Steady) {} labels).map
        (fun s ↦ (s.mirror 20 0, s.content 20 0, s.mirror 10 0)) =
      some (some 5, some 5, some 5) by decide +kernel)
  simp only [Prod.mk.injEq] at hf
  obtain ⟨hm, hc, hm'⟩ := hf
  exact ⟨s, hm, hc, hm', mirror_exact ⟨labels, run_restrict_of_exec he⟩⟩

/-- The first output is removed while it has the buffer, so that it is detached from the second
one as soon as that returns it; the slot stays recorded. -/
def removed : List Label :=
  shared ++ [.removeOutput 1 [], .run 2 {}, .run 2 {}, .onBufferReleasedByOutput 20 0 false,
    .run 3 { detached := true }]

theorem not_mirror_exact : (∃ s : State, Reachable Step {} s ∧ ¬ s.MirrorExact) ∧
    ∃ s : State, Reachable Step {} s ∧ ¬ s.SearchesExact := by
  obtain ⟨s, hs, hf⟩ := exists_reachable_of_exec (f := fun s : State ↦
      decide (s.mOutputs.lookup 2 = some 20 ∧ ¬ Attaching s.code 20 0 ∧
        s.mirror 20 0 = some 5 ∧ s.content 20 0 = none)) (b := true) removed
    (show (Transition.exec step {} removed).map _ = _ by decide +kernel)
  obtain ⟨ho, ha, hm, hc⟩ := of_decide_eq_true hf
  obtain ⟨t, ht, hx⟩ := exists_reachable_of_exec (f := fun t : State ↦ t.searches)
    (b := [(5, some 5), (5, some 5), (5, none)])
    (removed ++ [.attachBufferToOutputs 5 [2], .run 4 {}])
    (show (Transition.exec step {} _).map _ = _ by decide +kernel)
  refine ⟨⟨s, hs, fun h ↦ ?_⟩, t, ht, fun h ↦ ?_⟩
  · have hmc := h 2 20 ho 0 ha
    rw [hm, hc] at hmc
    cases hmc
  · have hx' := h (5, none) (by rw [hx]; decide)
    cases hx'

end State

end VirtualCamera.Splitter
