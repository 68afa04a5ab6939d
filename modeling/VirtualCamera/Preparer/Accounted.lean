import Mathlib.Data.Multiset.Range
import VirtualCamera.Preparer.Model

namespace VirtualCamera.Preparer

open Library Assoc Transition

/-! ### Streams -/

theorem Stream.cancelPrepare_mState (s : Stream) : s.cancelPrepare.2.mState ≠ .PREPARING := by
  unfold cancelPrepare
  split
  · assumption
  · exact StreamState.noConfusion

theorem Stream.startPrepare_ok {s : Stream} {maxCount : ℤ} {blockRequest : Bool}
    (h : (s.startPrepare maxCount blockRequest).1 = .OK) :
    (s.startPrepare maxCount blockRequest).2.mState ≠ .PREPARING := by
  unfold startPrepare at h ⊢
  split_ifs at h ⊢ with hneg hstate hun hout
  dsimp only at h ⊢
  split_ifs at h ⊢
  rw [not_not.mp hstate]
  exact StreamState.noConfusion

theorem Stream.prepareNextBuffer_ok {s : Stream} (allocated : Bool)
    (h : (s.prepareNextBuffer allocated).1 = .OK) :
    (s.prepareNextBuffer allocated).2.mState ≠ .PREPARING := by
  unfold prepareNextBuffer at h ⊢
  split_ifs at h ⊢
  dsimp only at h ⊢
  split_ifs at h ⊢
  exact cancelPrepare_mState _

def CoveredAt (streams : ℤ → Stream) (m : Multiset Entry) (id : ℤ) : Prop :=
  (streams id).mState = .PREPARING → ∃ e ∈ m, e.stream = id

section

variable {streams : ℤ → Stream} {m m' : Multiset Entry} {id : ℤ} {e : Entry}

theorem CoveredAt.mono (h : CoveredAt streams m id) (hle : m ≤ m') : CoveredAt streams m' id := by
  intro hp
  obtain ⟨e, he, hid⟩ := h hp
  exact ⟨e, Multiset.mem_of_le hle he, hid⟩

/-- A stream that is not preparing any more needs no entry. -/
theorem CoveredAt.update_ne {t : Stream} (h : CoveredAt streams (e ::ₘ m) id)
    (ht : t.mState ≠ .PREPARING) : CoveredAt (Function.update streams e.stream t) m id := by
  intro hp
  by_cases hid : id = e.stream
  · subst hid
    rw [Function.update_self] at hp
    exact absurd hp ht
  · rw [Function.update_of_ne hid] at hp
    obtain ⟨e', he', heq⟩ := h hp
    rcases Multiset.mem_cons.mp he' with rfl | he'
    · exact absurd heq.symm hid
    · exact ⟨e', he', heq⟩

theorem CoveredAt.update_mem {t : Stream} (h : CoveredAt streams m id) (he : e ∈ m) :
    CoveredAt (Function.update streams e.stream t) m id := by
  intro hp
  by_cases hid : id = e.stream
  · exact ⟨e, he, hid.symm⟩
  · rw [Function.update_of_ne hid] at hp
    exact h hp

theorem CoveredAt.cancelStream (h : CoveredAt streams (e ::ₘ m) id) :
    CoveredAt (State.cancelStream streams e.stream) m id :=
  h.update_ne (Stream.cancelPrepare_mState _)

theorem CoveredAt.cancelStreams {l : List Entry} (h : CoveredAt streams (↑l + m) id) :
    CoveredAt ((l.map Entry.stream).foldl State.cancelStream streams) m id := by
  induction l generalizing streams with
  | nil => simpa using h
  | cons e l ih =>
    apply ih
    apply CoveredAt.cancelStream
    rwa [← Multiset.cons_coe, Multiset.cons_add] at h

end

theorem notMem_of_eq_none {α : Type} {o : Option α} (h : o = none) (a : α) : a ∉ o :=
  h ▸ Option.not_mem_none a

/-! ### The calls -/

/-- Each call of `prepare` that returned `OK` has been notified once, or its preparation has been
cancelled with a call of `clear` after it, or its stream is in the hands of the preparer. -/
structure Accounted (calls : List Call) (clears : ℕ) (notified : List (ℤ × Option ℕ))
    (cancelled : List ℕ) (known : Multiset Entry) : Prop where
  fates : (notified.filterMap Prod.snd : Multiset ℕ) + cancelled + known.map Entry.call =
    Multiset.range calls.length
  notified : ∀ id n, (id, some n) ∈ notified → ∃ c, calls[n]? = some c ∧ c.stream = id
  cleared : ∀ n ∈ cancelled, ∃ c, calls[n]? = some c ∧ c.clears < clears
  known : ∀ e ∈ known, ∃ c, calls[e.call]? = some c ∧ c.stream = e.stream
  before : ∀ c ∈ calls, c.clears ≤ clears

section

variable {calls : List Call} {clears : ℕ} {notified : List (ℤ × Option ℕ)} {cancelled : List ℕ}
  {known m : Multiset Entry}

theorem getElem?_append_call {n : ℕ} {c : Call} (h : calls[n]? = some c) (c' : Call) :
    (calls ++ [c'])[n]? = some c := by
  obtain ⟨hlt, -⟩ := List.getElem?_eq_some_iff.mp h
  exact (List.getElem?_append_left hlt).trans h

/-- A call whose stream is notified, or kept, at once. -/
theorem Accounted.accept (h : Accounted calls clears notified cancelled known) (stream : ℤ)
    {notified' : List (ℤ × Option ℕ)} {known' : Multiset Entry}
    (hfates : (notified'.filterMap Prod.snd : Multiset ℕ) + known'.map Entry.call =
      calls.length ::ₘ ((notified.filterMap Prod.snd : Multiset ℕ) + known.map Entry.call))
    (hnotified : ∀ p ∈ notified', p ∈ notified ∨ p = (stream, some calls.length))
    (hknown : ∀ e ∈ known', e ∈ known ∨ e = ⟨stream, calls.length⟩) :
    Accounted (calls ++ [⟨stream, clears⟩]) clears notified' cancelled known' := by
  have hlast : (calls ++ [(⟨stream, clears⟩ : Call)])[calls.length]? = some ⟨stream, clears⟩ :=
    List.getElem?_concat_length
  constructor
  · rw [add_right_comm, hfates, Multiset.cons_add, add_right_comm, h.fates, List.length_append,
      List.length_singleton, Multiset.range_succ]
  · intro id n hn
    rcases hnotified _ hn with hn | hn
    · obtain ⟨c, hc, hid⟩ := h.notified id n hn
      exact ⟨c, getElem?_append_call hc _, hid⟩
    · cases hn
      exact ⟨_, hlast, rfl⟩
  · intro n hn
    obtain ⟨c, hc, hlt⟩ := h.cleared n hn
    exact ⟨c, getElem?_append_call hc _, hlt⟩
  · intro e he
    rcases hknown e he with he | rfl
    · obtain ⟨c, hc, hs⟩ := h.known e he
      exact ⟨c, getElem?_append_call hc _, hs⟩
    · exact ⟨_, hlast, rfl⟩
  · intro c hc
    rcases List.mem_append.mp hc with hc | hc
    · exact h.before c hc
    · rw [List.mem_singleton.mp hc]

theorem Accounted.accept_notified (h : Accounted calls clears notified cancelled known)
    (stream : ℤ) :
    Accounted (calls ++ [⟨stream, clears⟩]) clears (notified ++ [(stream, some calls.length)])
      cancelled known := by
  apply h.accept stream
  · rw [List.filterMap_append, ← Multiset.coe_add, add_right_comm, Multiset.add_comm _ _]
    rfl
  · intro p hp
    exact (List.mem_append.mp hp).imp_right List.mem_singleton.mp
  · exact fun e he ↦ .inl he

theorem Accounted.accept_known (h : Accounted calls clears notified cancelled known)
    (stream : ℤ) :
    Accounted (calls ++ [⟨stream, clears⟩]) clears notified cancelled
      (⟨stream, calls.length⟩ ::ₘ known) := by
  apply h.accept stream
  · rw [Multiset.map_cons, Multiset.add_cons]
  · exact fun p hp ↦ .inl hp
  · intro e he
    exact (Multiset.mem_cons.mp he).symm

theorem Accounted.notify {e : Entry} (h : Accounted calls clears notified cancelled (e ::ₘ m)) :
    Accounted calls clears (notified ++ [(e.stream, some e.call)]) cancelled m := by
  refine ⟨?_, ?_, h.cleared, fun e' he ↦ h.known e' (Multiset.mem_cons_of_mem he), h.before⟩
  · rw [← h.fates, List.filterMap_append, ← Multiset.coe_add, Multiset.map_cons,
      ← Multiset.singleton_add, ← add_assoc, add_right_comm _ _ (cancelled : Multiset ℕ)]
    rfl
  · intro id n hn
    rcases List.mem_append.mp hn with hn | hn
    · exact h.notified id n hn
    · cases List.mem_singleton.mp hn
      exact h.known e (Multiset.mem_cons_self e m)

/-- Streams whose preparation is cancelled after a call of `clear`. -/
theorem Accounted.cancel {l : List Entry} (h : Accounted calls clears notified cancelled (↑l + m))
    (hl : ∀ e ∈ l, ∃ c, calls[e.call]? = some c ∧ c.clears < clears) :
    Accounted calls clears notified (cancelled ++ l.map Entry.call) m := by
  refine ⟨?_, h.notified, ?_, fun e he ↦ h.known e (Multiset.mem_add.mpr (.inr he)), h.before⟩
  · rw [← h.fates, Multiset.map_add, ← Multiset.coe_add, Multiset.map_coe, ← add_assoc,
      ← add_assoc]
  · intro n hn
    rcases List.mem_append.mp hn with hn | hn
    · exact h.cleared n hn
    · obtain ⟨e, he, rfl⟩ := List.mem_map.mp hn
      exact hl e he

theorem Accounted.clear (h : Accounted calls clears notified cancelled known) :
    Accounted calls (clears + 1) notified cancelled known := by
  refine ⟨h.fates, h.notified, ?_, h.known, fun c hc ↦ (h.before c hc).trans (Nat.le_succ _)⟩
  intro n hn
  obtain ⟨c, hc, hlt⟩ := h.cleared n hn
  exact ⟨c, hc, hlt.trans (Nat.lt_succ_self _)⟩

end

end VirtualCamera.Preparer
