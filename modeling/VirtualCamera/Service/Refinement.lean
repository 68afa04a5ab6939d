import VirtualCamera.Service.Receive

namespace VirtualCamera.Service.Refinement

open Library.Memory Library.Reassembly Receive

/-- A payload whose header bytes are there to be read. -/
structure Formed (payload : Payload) : Prop where
  nonempty : 0 < payload.length
  header : payload.getD 0 0 &&& 0x1f = 28 → 2 ≤ payload.length

instance (payload : Payload) : Decidable (Formed payload) :=
  decidable_of_iff (0 < payload.length ∧ (payload.getD 0 0 &&& 0x1f = 28 → 2 ≤ payload.length))
    ⟨fun h ↦ ⟨h.1, h.2⟩, fun h ↦ ⟨h.1, h.2⟩⟩

/-- What the receiver takes a payload for. -/
def fragment (payload : Payload) : Fragment UInt8 :=
  if payload.getD 0 0 &&& 0x1f = 28 then
    let flag := payload.getD 1 0 &&& 0xC0
    if flag = 0x80 then .first (payload.drop 2)
    else if flag = 0x40 then .last (payload.drop 2)
    else .middle (payload.drop 2)
  else .whole payload

variable {ι : Type}

def fragments (ps : List (ι × Payload)) : List (ι × Fragment UInt8) :=
  ps.map fun p ↦ (p.1, fragment p.2)

@[simp] theorem fragments_nil : fragments ([] : List (ι × Payload)) = [] := rfl

@[simp] theorem fragments_cons (p : ι × Payload) (ps : List (ι × Payload)) :
    fragments (p :: ps) = (p.1, fragment p.2) :: fragments ps := rfl

def decoderUnit (u : List UInt8) : DecoderUnit := ⟨u, toInt32 u.length⟩

def decoderUnits (us : List (ι × List UInt8)) : List (ι × DecoderUnit) :=
  us.map fun u ↦ (u.1, decoderUnit u.2)

/-- The receive buffer has capacity `c`, and its used part is `p`. -/
structure Holds (c : ℕ) (p : List UInt8) (s : RecvState) : Prop where
  capacity : s.srecvData.length = c
  used : s.srecvLen = p.length
  content : s.srecvData.take s.srecvLen = p

theorem holds_empty (srecvData : List UInt8) :
    Holds srecvData.length [] (RecvState.mk srecvData 0) := ⟨rfl, rfl, rfl⟩

variable {c : ℕ} {p : List UInt8} {s : RecvState}

theorem Holds.clear (h : Holds c p s) : Holds c [] s.clear := ⟨h.capacity, rfl, rfl⟩

theorem Holds.receiveData (h : Holds c p s) : s.receiveData = decoderUnit p := by
  rw [RecvState.receiveData, h.content, h.used]
  rfl

/-- The offset each branch copies to. -/
def offset (s : RecvState) (f : Fragment UInt8) : ℕ := if f.resets then 0 else s.srecvLen

theorem offset_store (h : Holds c p s) (f : Fragment UInt8) :
    s.srecvData.take (offset s f) ++ f.body = store p f ∧
      offset s f + f.body.length = (store p f).length := by
  rw [offset, store]
  cases f.resets with
  | true => simp
  | false =>
    have hcontent := h.content
    rw [h.used] at hcontent
    simp [hcontent, h.used]

theorem copy_overflow (h : Holds c p s) {f : Fragment UInt8} (hlen : c < (store p f).length) :
    s.copy (offset s f) f.body = .error .writePastBuffer := by
  have hoff := (offset_store h f).2
  have hcap := h.capacity
  have hnone : memcpy s.srecvData (offset s f) f.body = none := by
    rw [memcpy, if_neg (by omega)]
  rw [RecvState.copy, hnone]

theorem copy_fits (h : Holds c p s) {f : Fragment UInt8} (hlen : (store p f).length ≤ c) :
    ∃ s', s.copy (offset s f) f.body = .ok s' ∧ Holds c (store p f) s' := by
  obtain ⟨hstore, hoff⟩ := offset_store h f
  have hcap := h.capacity
  obtain ⟨data, hdata⟩ := Option.isSome_iff_exists.mp
    ((memcpy_isSome s.srecvData (offset s f) f.body).mpr (by omega))
  refine ⟨⟨data, offset s f + f.body.length⟩, ?_, ?_⟩
  · rw [RecvState.copy, hdata]
  · refine ⟨(memcpy_length hdata).trans hcap, hoff, ?_⟩
    rw [memcpy_take hdata, hstore]

theorem receivePacket_malformed {q : Payload} (h : ¬ Formed q) :
    s.receivePacket q = .error .readPastPayload := by
  cases q with
  | nil => rfl
  | cons b0 q =>
    cases q with
    | nil =>
      have hb : b0 &&& 0x1f = 28 := by
        by_contra hb
        exact h ⟨Nat.succ_pos _, fun hb' ↦ absurd hb' hb⟩
      simp [RecvState.receivePacket, hb]
    | cons b1 q => exact absurd ⟨Nat.succ_pos _, fun _ ↦ by simp⟩ h

/-- Every branch copies a fragment's body to the fragment's offset. -/
theorem receivePacket_formed {q : Payload} (h : Formed q) :
    s.receivePacket q =
      match s.copy (offset s (fragment q)) (fragment q).body with
      | .error f => .error f
      | .ok s =>
        if (fragment q).closes then .ok (s.clear, some s.receiveData) else .ok (s, none) := by
  obtain ⟨hne, hheader⟩ := h
  cases q with
  | nil => cases hne
  | cons b0 q =>
    by_cases hb : b0 &&& 0x1f = 28
    · cases q with
      | nil => exact absurd (hheader hb) (by simp)
      | cons b1 q =>
        have hlen : ¬ (b0 :: b1 :: q).length < 2 := by simp
        simp only [RecvState.receivePacket, fragment, List.getElem?_cons_zero,
          List.getElem?_cons_succ, List.getD_cons_zero, List.getD_cons_succ, hb, hlen, if_true,
          if_false]
        split
        · rfl
        · split <;> rfl
    · simp only [RecvState.receivePacket, fragment, List.getElem?_cons_zero, List.getD_cons_zero,
        hb, if_false]
      rfl

/-- One packet, by what it carries and whether it fits. -/
theorem receivePacket_cases (h : Holds c p s) (q : Payload) :
    (¬ Formed q ∧ s.receivePacket q = .error .readPastPayload) ∨
    (Formed q ∧ c < (store p (fragment q)).length ∧
      s.receivePacket q = .error .writePastBuffer) ∨
    (Formed q ∧ (store p (fragment q)).length ≤ c ∧
      ∃ s', s.receivePacket q =
          .ok (s', if (fragment q).closes then some (decoderUnit (store p (fragment q))) else none) ∧
        Holds c (pending p (fragment q)) s') := by
  by_cases hq : Formed q
  · rcases Nat.lt_or_ge c (store p (fragment q)).length with hlen | hlen
    · refine .inr (.inl ⟨hq, hlen, ?_⟩)
      rw [receivePacket_formed hq, copy_overflow h hlen]
    · obtain ⟨s', hcopy, hs'⟩ := copy_fits h hlen
      refine .inr (.inr ⟨hq, hlen, ?_⟩)
      rw [receivePacket_formed hq, hcopy]
      cases hc : (fragment q).closes with
      | true =>
        refine ⟨s'.clear, ?_, ?_⟩
        · simp only [if_true, hs'.receiveData]
        · simp only [pending, hc, if_true]
          exact hs'.clear
      | false =>
        refine ⟨s', rfl, ?_⟩
        rw [pending_of_not_closes hc]
        exact hs'
  · exact .inl ⟨hq, receivePacket_malformed hq⟩

/-- Whatever is delivered, the decoder is handed a prefix of the reassembled units. -/
theorem receivePackets_isPrefix (h : Holds c p s) (ps : List (ι × Payload)) :
    (s.receivePackets ps).1 <+: decoderUnits (units p (fragments ps)) := by
  induction ps generalizing p s with
  | nil => exact List.nil_prefix
  | cons q ps ih =>
    obtain ⟨i, q⟩ := q
    rcases receivePacket_cases h q with ⟨-, hr⟩ | ⟨-, -, hr⟩ | ⟨-, -, s', hr, hs'⟩
    · simp only [RecvState.receivePackets, hr]
      exact List.nil_prefix
    · simp only [RecvState.receivePackets, hr]
      exact List.nil_prefix
    · have hrest := ih hs'
      simp only [RecvState.receivePackets, hr, fragments_cons, units, decoderUnits, List.map_append]
      cases (fragment q).closes with
      | true => exact (List.prefix_append_right_inj _).mpr hrest
      | false => exact hrest

/-- A faultless run hands over all reassembled units. -/
theorem receivePackets_units (h : Holds c p s) {ps : List (ι × Payload)} {s' : RecvState}
    (hok : (s.receivePackets ps).2 = .ok s') :
    (s.receivePackets ps).1 = decoderUnits (units p (fragments ps)) ∧
      Holds c (pendingAll p (fragments ps)) s' := by
  induction ps generalizing p s with
  | nil =>
    cases hok
    exact ⟨rfl, h⟩
  | cons q ps ih =>
    obtain ⟨i, q⟩ := q
    rcases receivePacket_cases h q with ⟨-, hr⟩ | ⟨-, -, hr⟩ | ⟨-, -, t, hr, ht⟩
    · simp only [RecvState.receivePackets, hr] at hok
      cases hok
    · simp only [RecvState.receivePackets, hr] at hok
      cases hok
    · simp only [RecvState.receivePackets, hr] at hok
      obtain ⟨hunits, hs'⟩ := ih ht hok
      refine ⟨?_, hs'⟩
      simp only [RecvState.receivePackets, hr, hunits, fragments_cons, units, decoderUnits,
        List.map_append]
      cases (fragment q).closes <;> rfl

/-- A run is faultless exactly when every payload has its header bytes and every
store fits the buffer. -/
theorem receivePackets_ok_iff (h : Holds c p s) (ps : List (ι × Payload)) :
    (∃ s', (s.receivePackets ps).2 = .ok s') ↔
      (∀ q ∈ ps, Formed q.2) ∧ Fits c p (fragments ps) := by
  induction ps generalizing p s with
  | nil => exact ⟨fun _ ↦ ⟨fun q hq ↦ (by cases hq), trivial⟩, fun _ ↦ ⟨s, rfl⟩⟩
  | cons q ps ih =>
    obtain ⟨i, q⟩ := q
    simp only [RecvState.receivePackets, fragments_cons, Fits, List.forall_mem_cons]
    rcases receivePacket_cases h q with ⟨hq, hr⟩ | ⟨-, hlen, hr⟩ | ⟨hq, hlen, t, hr, ht⟩
    · simp only [hr]
      constructor
      · intro hcond
        obtain ⟨s', hs'⟩ := hcond
        cases hs'
      · intro hcond
        obtain ⟨⟨hq', -⟩, -⟩ := hcond
        exact absurd hq' hq
    · simp only [hr]
      constructor
      · intro hcond
        obtain ⟨s', hs'⟩ := hcond
        cases hs'
      · intro hcond
        obtain ⟨-, hfit, -⟩ := hcond
        exact absurd hfit (Nat.not_le.mpr hlen)
    · simp only [hr, ih ht]
      constructor
      · intro hcond
        obtain ⟨hqs, hfits⟩ := hcond
        exact ⟨⟨hq, hqs⟩, hlen, hfits⟩
      · intro hcond
        obtain ⟨⟨-, hqs⟩, -, hfits⟩ := hcond
        exact ⟨hqs, hfits⟩

/-- The units of a run in which every store fits. -/
theorem thread_units {srecvData : List UInt8} {polls : List (List (List (ι × Payload)))}
    (hformed : ∀ q ∈ deliveries polls, Formed q.2)
    (hfits : Fits srecvData.length [] (fragments (deliveries polls))) :
    (threadRecvVirtualcamera srecvData polls).1 =
      decoderUnits (units [] (fragments (deliveries polls))) := by
  have hempty := holds_empty srecvData
  obtain ⟨r, hr⟩ := (receivePackets_ok_iff hempty _).mpr ⟨hformed, hfits⟩
  rw [thread_eq]
  exact (receivePackets_units hempty hr).1

section Own

variable [DecidableEq ι] (a : ι)

theorem own_decoderUnits (us : List (ι × List UInt8)) :
    own a (decoderUnits us) = decoderUnits (own a us) := own_map decoderUnit us

theorem own_fragments (ps : List (ι × Payload)) :
    own a (fragments ps) = fragments (own a ps) := own_map fragment ps

end Own

end VirtualCamera.Service.Refinement
