import Mathlib.Data.List.Chain
import VirtualCamera.Rtp.Slices

namespace VirtualCamera.Rtp.Timestamps

open Library.Memory PacketBuilder Session Slices

/-- Consecutive groups are one increment apart. -/
def NextStamp : List UInt32 → List (List RTPPacket) → Prop
  | inc :: incs, g :: g' :: gs =>
    (∀ p ∈ g, ∀ q ∈ g', q.timestamp = p.timestamp + inc) ∧ NextStamp incs (g' :: gs)
  | _, _ => True

/-- The packets of each NAL share a stamp, the last one alone is marked, the
stamps advance by the increments, and the sequence numbers by one. -/
structure OneTimestampPerNal (incs : List UInt32) (groups : List (List RTPPacket)) : Prop where
  same : ∀ g ∈ groups, ∀ p ∈ g, ∀ q ∈ g, p.timestamp = q.timestamp
  marker : ∀ g ∈ groups, ∃ init last, g = init ++ [last] ∧ last.hasmarker = true ∧
    ∀ p ∈ init, p.hasmarker = false
  next : NextStamp incs groups
  seqnr : groups.flatten.IsChain fun p q ↦ q.seqnr = p.seqnr + 1

theorem packets_seqnr (pt : UInt8) (b : RTPPacketBuilder) (rs : List SendRequest) :
    (packets pt b rs).IsChain (fun p q ↦ q.seqnr = p.seqnr + 1) ∧
      ∀ p ∈ (packets pt b rs).head?, p.seqnr = b.seqnr := by
  induction rs generalizing b with
  | nil => exact ⟨.nil, fun p hp ↦ by cases hp⟩
  | cons r rs ih =>
    obtain ⟨hchain, hhead⟩ := ih (b.next r.data r.timestampinc)
    refine ⟨List.isChain_cons.mpr ⟨?_, hchain⟩, ?_⟩
    · intro q hq
      exact hhead q hq
    · intro p hp
      cases hp
      rfl

theorem packets_timestamp {rs : List SendRequest} (h : ∀ r ∈ rs, r.timestampinc = 0) (pt : UInt8)
    (b : RTPPacketBuilder) : ∀ p ∈ packets pt b rs, p.timestamp = b.timestamp := by
  induction rs generalizing b with
  | nil => intro p hp; cases hp
  | cons r rs ih =>
    obtain ⟨hr, hrs⟩ := List.forall_mem_cons.mp h
    intro p hp
    rcases List.mem_cons.mp hp with rfl | hp
    · rfl
    · rw [ih hrs _ p hp, next_timestamp, hr, UInt32.add_zero]

/-- The sliced path passes the increment with the first fragment. -/
theorem sendRequests_sliced {max : ℕ} (hmax : 0 < max) {data : List UInt8}
    (hlt : max < data.length) (mark : Bool) (inc : UInt32) :
    ∃ first mid last, sendRequests max data mark inc = first :: (mid ++ [last]) ∧
      first.timestampinc = inc ∧ ∀ r ∈ mid ++ [last], r.timestampinc = 0 := by
  obtain ⟨h2, -⟩ := sliceCount_pred hmax hlt
  obtain ⟨k, hk⟩ := Nat.exists_eq_add_of_le' h2
  let f := sliceRequest max data inc (data.getD 4 0) (k + 2)
  refine ⟨f 0, ((List.range k).map Nat.succ).map f, f (k + 1), ?_, ?_, ?_⟩
  · rw [sendRequests, if_neg (by omega), hk, range_split, List.map_cons, List.map_append,
      List.map_singleton]
  · simp only [f, sliceRequest, if_true]
  · have hinc : ∀ step, step ≠ 0 → (f step).timestampinc = 0 := by
      intro step hstep
      simp only [f, sliceRequest, hstep, if_false]
      split <;> rfl
    intro r hr
    rcases List.mem_append.mp hr with hr | hr
    · obtain ⟨i, hi, rfl⟩ := List.mem_map.mp hr
      obtain ⟨j, -, rfl⟩ := List.mem_map.mp hi
      exact hinc _ (Nat.succ_ne_zero j)
    · rw [List.mem_singleton.mp hr]
      exact hinc _ (Nat.succ_ne_zero k)

variable (pt : UInt8) {max : ℕ}

/-- A NAL that fits one packet: one stamped and marked packet. -/
theorem packets_unsliced {data : List UInt8} (h : data.length ≤ max) (b : RTPPacketBuilder)
    (inc : UInt32) :
    packets pt b (sendRequests max data true inc) = [b.packet data pt true] ∧
      nextAll b (sendRequests max data true inc) = b.next data inc := by
  rw [sendRequests, if_pos h]
  exact ⟨rfl, rfl⟩

/-- A sliced NAL carries two stamps. -/
theorem packets_sliced_stamps {data : List UInt8} (hmax : 0 < max) (hlt : max < data.length)
    (b : RTPPacketBuilder) (inc : UInt32) :
    ∃ p ∈ packets pt b (sendRequests max data true inc),
      ∃ q ∈ packets pt b (sendRequests max data true inc),
        p.timestamp = b.timestamp ∧ q.timestamp = b.timestamp + inc := by
  obtain ⟨first, mid, last, heq, hfirst, hrest⟩ := sendRequests_sliced hmax hlt true inc
  have hne : packets pt (b.next first.data first.timestampinc) (mid ++ [last]) ≠ [] := by
    intro hnil
    have hlen := congrArg List.length (congrArg (List.map RTPPacket.payload) hnil)
    rw [packets_payload] at hlen
    simp at hlen
  obtain ⟨q, hq⟩ := List.exists_mem_of_ne_nil _ hne
  refine ⟨b.packet first.data pt first.mark, ?_, q, ?_, rfl, ?_⟩
  · rw [heq]
    exact List.mem_cons_self
  · rw [heq]
    exact List.mem_cons_of_mem _ hq
  · rw [packets_timestamp hrest pt _ q hq, next_timestamp, hfirst]

theorem callPackets_unsliced {cs : List SendCall} (h : ∀ c ∈ cs, c.data.length ≤ max)
    (b : RTPPacketBuilder) :
    (∀ g ∈ callPackets pt max b cs, ∃ p, g = [p] ∧ p.hasmarker = true) ∧
      (∀ g ∈ (callPackets pt max b cs).head?, ∀ p ∈ g, p.timestamp = b.timestamp) ∧
      NextStamp (cs.map SendCall.timestampinc) (callPackets pt max b cs) := by
  induction cs generalizing b with
  | nil => exact ⟨fun g hg ↦ (by cases hg), fun g hg ↦ (by cases hg), trivial⟩
  | cons c cs ih =>
    obtain ⟨hc, hcs⟩ := List.forall_mem_cons.mp h
    obtain ⟨hp, hn⟩ := packets_unsliced pt hc b c.timestampinc
    obtain ⟨hone, hhead, hnext⟩ := ih hcs (b.next c.data c.timestampinc)
    simp only [callPackets, hp, hn]
    refine ⟨List.forall_mem_cons.mpr ⟨⟨_, rfl, rfl⟩, hone⟩, ?_, ?_⟩
    · intro g hg p hp
      cases hg
      rw [List.mem_singleton.mp hp]
      rfl
    · cases hrest : callPackets pt max (b.next c.data c.timestampinc) cs with
      | nil => trivial
      | cons g gs =>
        rw [hrest] at hhead hnext
        refine ⟨fun p hp q hq ↦ ?_, hnext⟩
        rw [List.mem_singleton.mp hp, hhead g rfl q hq]
        rfl

theorem callPackets_sliced {cs : List SendCall} (hmax : 0 < max)
    (hinc : ∀ c ∈ cs, 0 < c.timestampinc) (b : RTPPacketBuilder)
    (hsame : ∀ g ∈ callPackets pt max b cs, ∀ p ∈ g, ∀ q ∈ g, p.timestamp = q.timestamp) :
    ∀ c ∈ cs, c.data.length ≤ max := by
  induction cs generalizing b with
  | nil => intro c hc; cases hc
  | cons c cs ih =>
    obtain ⟨hc, hcs⟩ := List.forall_mem_cons.mp hinc
    obtain ⟨hg, hgs⟩ := List.forall_mem_cons.mp hsame
    refine List.forall_mem_cons.mpr ⟨?_, ih hcs _ hgs⟩
    by_contra hlong
    obtain ⟨p, hp, q, hq, hps, hqs⟩ :=
      packets_sliced_stamps pt hmax (Nat.lt_of_not_le hlong) b c.timestampinc
    have h := hg p hp q hq
    rw [hps, hqs] at h
    have hzero : c.timestampinc = 0 := by
      have hadd : b.timestamp + 0 = b.timestamp + c.timestampinc := by rw [UInt32.add_zero]; exact h
      exact (UInt32.add_right_inj _).mp hadd.symm
    rw [hzero] at hc
    exact absurd hc (by decide)

variable {pt}

/-- Every run of sends stamps each NAL once exactly when no NAL is sliced. -/
theorem one_timestamp_per_nal {maxpacksize : ℕ} {ssrc timestamp : UInt32} {seqnr : UInt16}
    {s : RTPSession} (hs : RTPSession.create maxpacksize ssrc timestamp seqnr = .ok s)
    (hpt : ValidPayloadType pt) (calls : List SendCall) (hinc : ∀ c ∈ calls, 0 < c.timestampinc) :
    ∃ groups, s.emissions pt calls = some groups ∧
      (OneTimestampPerNal (calls.map SendCall.timestampinc) groups ↔
        ∀ c ∈ calls, c.data.length ≤ s.sliceDataMaxSize) := by
  obtain ⟨hmin, rfl⟩ := create_ok hs
  simp only [RTP_MINPACKETSIZE] at hmin
  let s := RTPSession.internalCreate maxpacksize ssrc timestamp seqnr
  have hready : Ready s := ready_internalCreate (by omega) ssrc timestamp seqnr
  have hmax : s.sliceDataMaxSize = maxpacksize - 200 := rfl
  have hpos : 0 < s.sliceDataMaxSize := by omega
  have hheader : ∀ c ∈ calls, s.sliceDataMaxSize < c.data.length → 5 ≤ c.data.length :=
    fun c _ hlt ↦ by omega
  refine ⟨_, emissions_eq hpt hready hpos hheader, ?_, ?_⟩
  · intro h
    exact callPackets_sliced pt hpos hinc _ h.same
  · intro h
    obtain ⟨hone, -, hnext⟩ := callPackets_unsliced pt h s.packetbuilder
    refine ⟨?_, ?_, hnext, ?_⟩
    · intro g hg p hp q hq
      obtain ⟨r, rfl, -⟩ := hone g hg
      rw [List.mem_singleton.mp hp, List.mem_singleton.mp hq]
    · intro g hg
      obtain ⟨r, rfl, hr⟩ := hone g hg
      exact ⟨[], r, rfl, hr, fun p hp ↦ by cases hp⟩
    · rw [callPackets_flatten]
      exact (packets_seqnr pt s.packetbuilder _).1

theorem length_twoNals : ([0, 0, 0, 1, 0x65] : List UInt8).length ≤ INT_MAX := by decide

def twoNals : List SendCall :=
  [⟨[0, 0, 0, 1, 0x65], 10, length_twoNals⟩, ⟨[0, 0, 0, 1, 0x41], 20, length_twoNals⟩]

theorem one_timestamp_per_nal_two :
    ∃ groups, (RTPSession.internalCreate 600 1 2 3).emissions 96 twoNals = some groups ∧
      OneTimestampPerNal [10, 20] groups := by
  have hcreate : RTPSession.create 600 1 2 3 = .ok (RTPSession.internalCreate 600 1 2 3) := rfl
  obtain ⟨groups, hgroups, hiff⟩ := one_timestamp_per_nal hcreate (by decide : ValidPayloadType 96)
    twoNals (by decide)
  exact ⟨groups, hgroups, hiff.mpr (by decide)⟩

def longCall : SendCall where
  data := List.replicate 401 0x65
  timestampinc := 10
  length_le := by
    rw [List.length_replicate]
    decide

/-- One byte more than the slice size: the two fragments carry two stamps. -/
theorem sliced_nal_two_timestamps :
    ∃ groups, (RTPSession.internalCreate 600 1 2 3).emissions 96 [longCall] = some groups ∧
      ¬ OneTimestampPerNal [10] groups := by
  have hlen : longCall.data.length = 401 := List.length_replicate
  have hready : Ready (RTPSession.internalCreate 600 1 2 3) := ready_internalCreate (by decide) 1 2 3
  refine ⟨_, emissions_eq (by decide) hready (by decide) ?_, ?_⟩
  · intro c hc _
    rw [List.mem_singleton.mp hc, hlen]
    decide
  · intro h
    have hinc : ∀ c ∈ [longCall], 0 < c.timestampinc := by decide
    have hle := callPackets_sliced 96 (by decide) hinc _ h.same longCall List.mem_cons_self
    rw [hlen] at hle
    exact absurd hle (by decide)

end VirtualCamera.Rtp.Timestamps
