import VirtualCamera.Rtp.Delivery
import VirtualCamera.Rtp.PacketRoundTrip
import VirtualCamera.Rtp.Slices

namespace VirtualCamera.Rtp.Stream

open Library.Memory Library.Wire PacketFormat PacketRoundTrip Slices Delivery
open PacketBuilder (RTPError RTPPacketBuilder RTP_MAXCSRCS ValidPayloadType packetLength)
open Packet (builtExtension sizeofRTPHeader)

/-- A packet of the sending side with its buffer, and as the receiving side holds it. -/
def wire (p : PacketBuilder.RTPPacket) : Packet.RTPPacket :=
  Packet.RTPPacket.filled p.payloadtype p.payload p.seqnr p.timestamp p.ssrc p.hasmarker p.csrcs
    none

def packetContents (p : PacketBuilder.RTPPacket) : Contents :=
  { hasmarker := p.hasmarker, payloadtype := p.payloadtype, seqnr := p.seqnr,
    timestamp := p.timestamp, ssrc := p.ssrc, csrcs := p.csrcs, extension := none,
    payload := p.payload }

/-- The packet the sender keeps and the bytes it puts in the buffer belong together. -/
theorem buildPacket_wire (pt : UInt8) (data : List UInt8) (seqnr : UInt16)
    (timestamp ssrc : UInt32) (mark : Bool) (csrcs : List UInt32) (maxsize : ℕ) :
    Packet.RTPPacket.buildPacket pt data seqnr timestamp ssrc mark csrcs none maxsize =
      (PacketBuilder.RTPPacket.buildPacket pt data seqnr timestamp ssrc mark csrcs maxsize).map
        wire := by
  have hlen : sizeofRTPHeader + 4 * csrcs.length + builtExtension none + data.length =
      packetLength csrcs.length data.length := rfl
  simp only [Packet.RTPPacket.buildPacket, PacketBuilder.RTPPacket.buildPacket, hlen]
  by_cases hcsrcs : csrcs.length > RTP_MAXCSRCS
  · rw [if_pos hcsrcs, if_pos hcsrcs]
    rfl
  · rw [if_neg hcsrcs, if_neg hcsrcs]
    by_cases hlarge : pt > 127
    · rw [if_pos hlarge, if_pos hlarge]
      rfl
    · rw [if_neg hlarge, if_neg hlarge]
      by_cases hreserved : pt = 72 ∨ pt = 73
      · rw [if_pos hreserved, if_pos hreserved]
        rfl
      · rw [if_neg hreserved, if_neg hreserved]
        by_cases hsize : maxsize > 0 ∧ packetLength csrcs.length data.length > maxsize
        · rw [if_pos hsize, if_pos hsize]
          rfl
        · have hpt : ValidPayloadType pt := ⟨hlarge, hreserved⟩
          rw [if_neg hsize, if_neg hsize, hpt.masked]
          rfl

theorem length_wire (p : PacketBuilder.RTPPacket) :
    (wire p).packet.length = p.getPacketLength := by
  simp only [wire, Packet.RTPPacket.filled, List.length_append, Packet.RTPHeader.length_toBytes,
    length_putMany, Packet.extensionBytes, List.length_nil, WireWord.width]
  simp only [sizeofRTPHeader, PacketBuilder.RTPPacket.getPacketLength, packetLength]
  omega

/-- A packet without an extension comes back as the very object it was built as. -/
theorem parse_wire {p : PacketBuilder.RTPPacket} (hcsrcs : p.csrcs.length ≤ RTP_MAXCSRCS)
    (hpt : ValidPayloadType p.payloadtype) (hlen : p.getPacketLength ≤ INT_MAX) :
    Packet.RTPPacket.parseRawPacket ⟨true, (wire p).packet⟩ = some (.ok (wire p)) ∧
      contents (wire p) = some (packetContents p) := by
  let c := packetContents p
  obtain ⟨hbytes, hw, hrtcp⟩ := wirePacket_spec c hcsrcs hpt
  have hpacket : (c.wirePacket hcsrcs).packet = wire p := by
    have htype : UInt8.ofBitVec (((p.payloadtype &&& 127).toBitVec.extractLsb' 0 7).setWidth 8) =
        p.payloadtype := ofBitVec_low hpt.1
    simp only [WirePacket.packet, hbytes]
    simp only [c, Contents.wirePacket, packetContents, htype]
    rfl
  have hlength : (c.wirePacket hcsrcs).toBytes.length ≤ INT_MAX := by
    rw [hbytes]
    exact (length_wire p).trans_le hlen
  have hparse := WirePacket.parse_toBytes _ hrtcp hlength
  have hcontents := contents_packet (c.wirePacket hcsrcs)
  rw [hpacket, hbytes] at hparse
  rw [hpacket, hw] at hcontents
  exact ⟨hparse, hcontents⟩

section Numbers

/-- The packets of a builder follow one another. -/
theorem packets_getElem (pt : UInt8) (b : RTPPacketBuilder) (rs : List SendRequest) {i : ℕ}
    (hi : i < (packets pt b rs).length) :
    (packets pt b rs)[i].seqnr = UInt16.ofNat (b.seqnr.toNat + i) ∧
      (packets pt b rs)[i].csrcs = b.csrcs ∧ (packets pt b rs)[i].payloadtype = pt := by
  induction rs generalizing b i with
  | nil => cases hi
  | cons r rs ih =>
    cases i with
    | zero => exact ⟨UInt16.ofNat_toNat.symm, rfl, rfl⟩
    | succ i =>
      obtain ⟨hseq, hrest⟩ := ih (b.next r.data r.timestampinc) (Nat.lt_of_succ_lt_succ hi)
      refine ⟨?_, hrest⟩
      have hnext : (b.next r.data r.timestampinc).seqnr = b.seqnr + 1 := rfl
      simp only [packets, List.getElem_cons_succ]
      rw [hseq, hnext]
      apply UInt16.toNat_inj.mp
      simp only [UInt16.toNat_ofNat', UInt16.toNat_add, UInt16.toNat_one]
      omega

/-- A run of packets with consecutive sequence numbers, the first one `base`. -/
structure Consecutive (sent : List PacketBuilder.RTPPacket) (base : ℕ) : Prop where
  seqnr : ∀ i (hi : i < sent.length), sent[i].seqnr = UInt16.ofNat (base + i)
  csrcs : ∀ p ∈ sent, p.csrcs.length ≤ RTP_MAXCSRCS
  payloadtype : ∀ p ∈ sent, ValidPayloadType p.payloadtype
  length : ∀ p ∈ sent, p.getPacketLength ≤ INT_MAX

def blank : PacketBuilder.RTPPacket :=
  { payloadtype := 0, hasmarker := false, seqnr := 0, timestamp := 0, ssrc := 0, csrcs := [],
    payload := [] }

/-- The packet of a number. -/
def sentPacket (sent : List PacketBuilder.RTPPacket) (base n : ℕ) : Packet.RTPPacket :=
  { wire (sent.getD (n - base) blank) with extseqnr := (UInt16.ofNat n).toUInt32 }

theorem sentPacket_numbered (sent : List PacketBuilder.RTPPacket) (base : ℕ) :
    Numbered (sentPacket sent base) := fun _ ↦ rfl

theorem getD_blank {sent : List PacketBuilder.RTPPacket} {i : ℕ} (hi : i < sent.length) :
    sent.getD i blank = sent[i] := by
  rw [List.getD_eq_getElem?_getD, List.getElem?_eq_getElem hi, Option.getD_some]

theorem sentPacket_eq {sent : List PacketBuilder.RTPPacket} {base i : ℕ}
    (h : Consecutive sent base) (hi : i < sent.length) :
    sentPacket sent base (base + i) = wire sent[i] := by
  have hseq : (UInt16.ofNat (base + i)).toUInt32 = (wire sent[i]).extseqnr := by
    rw [← h.seqnr i hi]
    rfl
  unfold sentPacket
  rw [Nat.add_sub_cancel_left, hseq, getD_blank hi]

end Numbers

section Bytes

variable {T A : Type}

open Source (RTPSourceData)

/-- A raw packet comes for a source. -/
def receiveRaw (s : RTPSourceData T A) (data : List UInt8) (t : T) : Option (RTPSourceData T A) :=
  (Packet.RTPPacket.parseRawPacket ⟨true, data⟩).map fun
    | .ok p => (s.processRTPPacket p t false).source
    | .error _ => s

def receiveRaws (s : RTPSourceData T A) : List (List UInt8 × T) → Option (RTPSourceData T A)
  | [] => some s
  | (data, t) :: raws => (receiveRaw s data t).bind fun s ↦ receiveRaws s raws

/-- Raw packets come in batches, and after each the queue is fetched. -/
def fetchRaws (s : RTPSourceData T A) : List (List (List UInt8 × T)) →
    Option (List (List Packet.RTPPacket) × RTPSourceData T A)
  | [] => some ([], s)
  | b :: bs => (receiveRaws s b).bind fun s ↦
    let r := s.fetchAll
    (fetchRaws r.2 bs).map fun rs ↦ (r.1 :: rs.1, rs.2)

/-- The bytes of the packets at some places of a run. -/
def rawsAt (sent : List PacketBuilder.RTPPacket) (arrivals : List (ℕ × T)) :
    List (List UInt8 × T) :=
  arrivals.map fun a ↦ ((wire (sent.getD a.1 blank)).packet, a.2)

variable {sent : List PacketBuilder.RTPPacket} {base : ℕ}

theorem receiveRaws_eq (h : Consecutive sent base) {arrivals : List (ℕ × T)}
    (ha : ∀ a ∈ arrivals, a.1 < sent.length) (s : RTPSourceData T A) :
    receiveRaws s (rawsAt sent arrivals) =
      some (receive (sentPacket sent base) s (arrivals.map fun a ↦ (base + a.1, a.2))) := by
  induction arrivals generalizing s with
  | nil => rfl
  | cons a arrivals ih =>
    have hi := ha a List.mem_cons_self
    have hmem := List.getElem_mem hi
    have hone : receiveRaw s (wire (sent.getD a.1 blank)).packet a.2 =
        some (s.processRTPPacket (sentPacket sent base (base + a.1)) a.2 false).source := by
      rw [receiveRaw, getD_blank hi,
        (parse_wire (h.csrcs _ hmem) (h.payloadtype _ hmem) (h.length _ hmem)).1,
        sentPacket_eq h hi]
      rfl
    have hrest := ih (fun b hb ↦ ha b (List.mem_cons_of_mem a hb))
      (s.processRTPPacket (sentPacket sent base (base + a.1)) a.2 false).source
    rw [rawsAt, List.map_cons, receiveRaws, hone, Option.bind_some]
    exact hrest

theorem fetchRaws_eq (h : Consecutive sent base) {batches : List (List (ℕ × T))}
    (ha : ∀ b ∈ batches, ∀ a ∈ b, a.1 < sent.length) (s : RTPSourceData T A) :
    fetchRaws s (batches.map (rawsAt sent)) =
      some (fetchBatches (sentPacket sent base) s
        (batches.map (List.map fun a ↦ (base + a.1, a.2)))) := by
  induction batches generalizing s with
  | nil => rfl
  | cons b bs ih =>
    have hb := receiveRaws_eq h (ha b List.mem_cons_self) s
    simp only [List.map_cons, fetchRaws, hb, Option.bind_some, fetchBatches,
      ih fun b' hb' ↦ ha b' (List.mem_cons_of_mem b hb'), Option.map_some]

end Bytes

section Order

theorem complete_add {k m : ℕ} (base : ℕ) {bs : List (List ℕ)} (h : Complete k bs m) :
    Complete (base + k) (bs.map (List.map (base + ·))) (base + m) := by
  induction bs generalizing k with
  | nil => exact congrArg (base + ·) h
  | cons b bs ih =>
    obtain ⟨k', hk, hb, h⟩ := h
    refine ⟨base + k', by omega, fun n ↦ ?_, ih h⟩
    constructor
    · intro hn
      obtain ⟨i, hi, rfl⟩ := List.mem_map.mp hn
      have := (hb i).mp hi
      omega
    · intro hn
      refine List.mem_map.mpr ⟨n - base, (hb _).mpr (by omega), ?_⟩
      show base + (n - base) = n
      omega

theorem mem_lt_of_complete {k m : ℕ} {bs : List (List ℕ)} (h : Complete k bs m) {b : List ℕ}
    (hb : b ∈ bs) {n : ℕ} (hn : n ∈ b) : n < m := by
  induction bs generalizing k with
  | nil => cases hb
  | cons b' bs ih =>
    obtain ⟨k', hk, hb', h⟩ := h
    obtain rfl | hb := List.mem_cons.mp hb
    · have := h.le
      have := (hb' n).mp hn
      omega
    · exact ih h hb

/-- An order in which the `total` packets of a run can come: three packets in a row
first, then any order and copies with each packet near the highest one before it, and
the queue fetched when no packet is missing. -/
def Arrives (base total : ℕ) (batches : List (List ℕ)) : Prop :=
  ∃ a b bs, batches = (a :: (a + 1) :: (a + 2) :: b) :: bs ∧ base + a + 1 < 2 ^ 16 ∧
    Library.Unwrap.AllTrack SourceStats.SEQ_MOD (base + a + 2)
      ((b :: bs).map (List.map (base + ·))).flatten ∧
    Complete 0 batches total

variable {T A : Type}

/-- What is fetched of such a run: all packets, each once and in order. -/
theorem fetchBatches_arrives {pk : ℕ → Packet.RTPPacket} (hpk : Numbered pk) (zero : T)
    (ssrc : UInt32) {base total : ℕ} (hbase : base + total ≤ 2 ^ 32)
    {batches : List (List (ℕ × T))} (h : Arrives base total (batches.map (List.map Prod.fst))) :
    (fetchBatches pk (.new zero ssrc .probationStore : Source.RTPSourceData T A)
      (batches.map (List.map fun a ↦ (base + a.1, a.2)))).1.flatten =
        (List.range' base total).map (stamped pk) := by
  obtain ⟨a, ns, nss, hns, hstart, htrack, hcomplete⟩ := h
  have hadd := complete_add base hcomplete
  obtain ⟨c, bs, rfl, hc, rfl⟩ := List.map_eq_cons_iff.mp hns
  obtain ⟨⟨a₀, t₀⟩, c, rfl, rfl, hc⟩ := List.map_eq_cons_iff.mp hc
  obtain ⟨⟨a₁, t₁⟩, c, rfl, h₁, hc⟩ := List.map_eq_cons_iff.mp hc
  obtain ⟨⟨a₂, t₂⟩, c, rfl, h₂, rfl⟩ := List.map_eq_cons_iff.mp hc
  simp only at h₁ h₂ hstart htrack
  subst h₁ h₂
  have hfst : ∀ l : List (ℕ × T), (l.map Prod.fst).map (base + ·) =
      (l.map fun a ↦ (base + a.1, a.2)).map Prod.fst := by
    intro l
    simp [List.map_map, Function.comp_def]
  have hfsts : ∀ l : List (List (ℕ × T)), (l.map (List.map Prod.fst)).map (List.map (base + ·)) =
      (l.map (List.map fun a ↦ (base + a.1, a.2))).map (List.map Prod.fst) := by
    intro l
    rw [List.map_map, List.map_map]
    exact List.map_congr_left fun b _ ↦ hfst b
  rw [hfsts] at hadd
  have htrack' : Library.Unwrap.AllTrack SourceStats.SEQ_MOD (base + a₀ + 2)
      (((c :: bs).map (List.map fun a ↦ (base + a.1, a.2))).map (List.map Prod.fst)).flatten := by
    rw [← hfsts]
    exact htrack
  have hall := fetchBatches_new (A := A) hpk zero ssrc (n := base + a₀) hstart hbase t₀ t₁ t₂ htrack'
    hadd
  rw [show base + total - (base + 0) = total by omega, Nat.add_zero] at hall
  exact hall

end Order

theorem contents_stamped (q : Packet.RTPPacket) {n : ℕ}
    (hq : q.extseqnr = (UInt16.ofNat n).toUInt32) :
    contents { q with extseqnr := UInt32.ofNat n } = contents q := by
  have hseq : (UInt32.ofNat n).toUInt16 = q.extseqnr.toUInt16 := by
    rw [hq, UInt16.toUInt16_toUInt32]
    apply UInt16.toNat_inj.mp
    rw [UInt32.toNat_toUInt16, UInt32.toNat_ofNat', UInt16.toNat_ofNat']
    omega
  unfold contents
  simp only [hseq]
  rfl

/-- A run that arrives near its order is fetched in its order: from bytes to packets, with
what every packet says, none missing and none twice. -/
theorem fetchRaws_in_order {T A : Type} {sent : List PacketBuilder.RTPPacket} {base : ℕ}
    (h : Consecutive sent base) (hbase : base + sent.length ≤ 2 ^ 32) (zero : T) (ssrc : UInt32)
    {batches : List (List (ℕ × T))}
    (harr : Arrives base sent.length (batches.map (List.map Prod.fst))) :
    ∃ polls source,
      fetchRaws (.new zero ssrc .probationStore : Source.RTPSourceData T A)
        (batches.map (rawsAt sent)) = some (polls, source) ∧
      polls.flatten.map contents = sent.map fun p ↦ some (packetContents p) := by
  have hmem : ∀ b ∈ batches, ∀ a ∈ b, a.1 < sent.length := by
    intro b hb a ha
    obtain ⟨_, _, _, _, _, _, hcomplete⟩ := harr
    exact mem_lt_of_complete hcomplete (List.mem_map_of_mem hb) (List.mem_map_of_mem ha)
  refine ⟨_, _, fetchRaws_eq h hmem _, ?_⟩
  rw [fetchBatches_arrives (sentPacket_numbered sent base) zero ssrc hbase harr]
  apply List.ext_getElem
  · simp
  · intro i h₁ h₂
    have hi : i < sent.length := by simpa using h₂
    have hp := List.getElem_mem hi
    have hnum := sentPacket_numbered sent base (base + i)
    simp only [List.getElem_map, List.getElem_range', Nat.one_mul]
    rw [stamped, contents_stamped _ hnum, sentPacket_eq h hi]
    exact (parse_wire (h.csrcs _ hp) (h.payloadtype _ hp) (h.length _ hp)).2

end VirtualCamera.Rtp.Stream
