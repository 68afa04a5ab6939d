import VirtualCamera.Rtp.Limits
import VirtualCamera.Rtp.Stream
import VirtualCamera.Service.RoundTrip

namespace VirtualCamera.Service.Transport

open Library.Memory Rtp.PacketBuilder Rtp.Session Rtp.Slices Rtp.Stream Receive Fragments
open Rtp.Limits (RTPUDPV4TRANS_MAXPACKSIZE)
open Rtp.PacketRoundTrip (contents Contents)
open Rtp.Source (RTPSourceData)

theorem sendRequests_length (max : ℕ) (data : List UInt8) (mark : Bool) (timestampinc : UInt32) :
    ∀ r ∈ sendRequests max data mark timestampinc, r.data.length ≤ max + 2 := by
  intro r hr
  unfold sendRequests at hr
  split at hr
  · rw [List.mem_singleton.mp hr]
    simp only
    omega
  · obtain ⟨step, -, rfl⟩ := List.mem_map.mp hr
    exact sliceRequest_length _ _ _ _ _ _

/-- The packets of a session's run follow one another and fit the transmitter. -/
theorem consecutive_packets {s : RTPSession} (h : Ready s)
    (htrans : s.transMaxpacksize ≤ RTPUDPV4TRANS_MAXPACKSIZE) {pt : UInt8}
    (hpt : ValidPayloadType pt) {rs : List SendRequest}
    (hrs : ∀ r ∈ rs, r.data.length ≤ s.sliceDataMaxSize + 2) :
    Consecutive (packets pt s.packetbuilder rs) s.packetbuilder.seqnr.toNat := by
  have hcsrcs : ∀ p ∈ packets pt s.packetbuilder rs, p.csrcs = s.packetbuilder.csrcs := by
    intro p hp
    obtain ⟨i, hi, rfl⟩ := List.mem_iff_getElem.mp hp
    exact (packets_getElem pt s.packetbuilder rs hi).2.1
  constructor
  · exact fun i hi ↦ (packets_getElem pt s.packetbuilder rs hi).1
  · intro p hp
    rw [hcsrcs p hp]
    exact h.csrcs
  · intro p hp
    obtain ⟨i, hi, rfl⟩ := List.mem_iff_getElem.mp hp
    rw [(packets_getElem pt s.packetbuilder rs hi).2.2]
    exact hpt
  · intro p hp
    have hpayload : p.payload ∈ rs.map SendRequest.data := by
      rw [← packets_payload pt s.packetbuilder rs]
      exact List.mem_map_of_mem hp
    obtain ⟨r, hr, hdata⟩ := List.mem_map.mp hpayload
    have hlen := hrs r hr
    have hroom := h.fits.room
    have hmax := h.trans
    rw [hdata] at hlen
    unfold packetLength at hroom
    unfold RTPUDPV4TRANS_MAXPACKSIZE at htrans
    unfold RTPPacket.getPacketLength packetLength INT_MAX
    rw [hcsrcs p hp]
    omega

/-- The payloads the receiving loop sees in one poll, all of one sender. -/
def pollPayloads (ps : List Rtp.Packet.RTPPacket) : List (List (Unit × Payload)) :=
  [ps.map fun p ↦ ((), p.getPayloadData.getD [])]

theorem payload_of_contents {q : Rtp.Packet.RTPPacket} {c : Contents} (h : contents q = some c) :
    q.getPayloadData.getD [] = c.payload := by
  simp only [contents, Option.bind_eq_bind, Option.bind_eq_some_iff, Option.pure_def,
    Option.some.injEq] at h
  obtain ⟨_, -, _, -, payload, hpayload, rfl⟩ := h
  rw [hpayload, Option.getD_some]

theorem deliveries_polls {polls : List (List Rtp.Packet.RTPPacket)} {sent : List RTPPacket}
    (h : polls.flatten.map contents = sent.map fun p ↦ some (packetContents p)) :
    deliveries (polls.map pollPayloads) = sent.map fun p ↦ ((), p.payload) := by
  have hflat : deliveries (polls.map pollPayloads) =
      polls.flatten.map fun p ↦ ((), p.getPayloadData.getD []) := by
    rw [deliveries, List.map_map, List.map_flatten]
    congr 1
    apply List.map_congr_left
    intro ps _
    simp [pollPayloads]
  rw [hflat]
  generalize polls.flatten = fetched at h
  have hlen : fetched.length = sent.length := by simpa using congrArg List.length h
  apply List.ext_getElem
  · simpa using hlen
  · intro i h₁ h₂
    have hi : i < fetched.length := by simpa using h₁
    have hi' : i < sent.length := by simpa using h₂
    have hc : contents fetched[i] = some (packetContents sent[i]) := by
      have := List.getElem_of_eq h (i := i) (by simpa using hi)
      simpa using this
    simp only [List.getElem_map, payload_of_contents hc]
    rfl

theorem payloads_unnamed {sends : List (Send Unit)} {groups : List (List RTPPacket)} {max : ℕ}
    (h : List.Forall₂ (fun n g ↦ g.map RTPPacket.payload = slices max n.nal.bytes) sends groups) :
    groups.flatten.map (fun p ↦ ((), p.payload)) = payloads sends groups := by
  induction h with
  | nil => rfl
  | @cons n g sends groups hg _ ih =>
    rw [List.flatten_cons, List.map_append, ih]
    rfl

/-- From the session that sends video to the decoder that plays it: sliced, put in
packets, carried as bytes in any order that stays near the order of sending, parsed, put
back in order and reassembled, every unit comes out once, in order and whole. -/
theorem video_arrives {s : RTPSession} (h : Ready s)
    (htrans : s.transMaxpacksize ≤ RTPUDPV4TRANS_MAXPACKSIZE) (hmax : 0 < s.sliceDataMaxSize)
    {pt : UInt8} (hpt : ValidPayloadType pt) (sends : List (Send Unit)) {r : RecvState}
    (hr : r.srecvLen = 0) (hcap : ∀ n ∈ sends, n.nal.bytes.length ≤ r.srecvData.length)
    {T A : Type} (zero : T) (ssrc : UInt32) :
    ∃ groups, s.emissions pt (sends.map Send.call) = some groups ∧
      ∀ batches : List (List (ℕ × T)),
        Arrives s.packetbuilder.seqnr.toNat groups.flatten.length
          (batches.map (List.map Prod.fst)) →
        s.packetbuilder.seqnr.toNat + groups.flatten.length ≤ 2 ^ 32 →
        ∃ polls source,
          fetchRaws (.new zero ssrc .probationStore : RTPSourceData T A)
            (batches.map (rawsAt groups.flatten)) = some (polls, source) ∧
          ∃ r', r.poll (polls.map pollPayloads) =
            (sends.map fun n ↦ ((), ⟨n.nal.bytes, n.nal.bytes.length⟩), .ok r') := by
  have hheader : ∀ c ∈ sends.map Send.call,
      s.sliceDataMaxSize < c.data.length → 5 ≤ c.data.length := by
    intro c hc _
    obtain ⟨n, -, rfl⟩ := List.mem_map.mp hc
    exact n.nal.header
  have hslices := callPackets_slices pt s.sliceDataMaxSize s.packetbuilder sends
  refine ⟨_, emissions_eq hpt h hmax hheader, fun batches harr hbound ↦ ?_⟩
  have hconsecutive : Consecutive (callPackets pt s.sliceDataMaxSize s.packetbuilder
      (sends.map Send.call)).flatten s.packetbuilder.seqnr.toNat := by
    rw [callPackets_flatten]
    apply consecutive_packets h htrans hpt
    intro r hr
    obtain ⟨c, -, hr⟩ := List.mem_flatMap.mp hr
    exact sendRequests_length _ _ _ _ r hr
  obtain ⟨polls, source, hfetch, hcontents⟩ :=
    fetchRaws_in_order (A := A) hconsecutive hbound zero ssrc harr
  refine ⟨polls, source, hfetch, ?_⟩
  rw [poll_eq, deliveries_polls hcontents, payloads_unnamed hslices, payloads_slices hslices]
  exact RoundTrip.receive_sentSlices hmax sends hr hcap

def units : List (Send Unit) :=
  [⟨(), RoundTrip.unit 0x65 7, 10⟩, ⟨(), RoundTrip.unit 0x41 8, 10⟩,
    ⟨(), RoundTrip.unit 0x41 9, 10⟩]

theorem length_units : ∀ n ∈ units, n.nal.bytes.length = 600 := by
  intro n hn
  simp only [units, List.mem_cons, List.not_mem_nil, or_false] at hn
  obtain rfl | rfl | rfl := hn
  all_goals exact RoundTrip.length_unitBytes _ 595 _

/-- Three units in six packets. The fifth packet comes before the fourth, and the second
twice. -/
theorem video_arrives_units :
    ∃ groups, (RTPSession.internalCreate 600 1 2 3).emissions 96 (units.map Send.call) =
        some groups ∧
      ∃ polls source,
        fetchRaws (.new 0 9 .probationStore : RTPSourceData ℕ Unit)
          ([[(0, 5), (1, 6), (2, 7), (4, 8), (3, 9), (1, 9), (5, 9)]].map (rawsAt groups.flatten)) =
            some (polls, source) ∧
        ∃ r', (RecvState.mk (List.replicate 600 0) 0).poll (polls.map pollPayloads) =
          (units.map fun n ↦ ((), ⟨n.nal.bytes, n.nal.bytes.length⟩), .ok r') := by
  have hcap : ∀ n ∈ units, n.nal.bytes.length ≤ (List.replicate 600 (0 : UInt8)).length := by
    intro n hn
    rw [length_units n hn, List.length_replicate]
  obtain ⟨groups, hgroups, harrive⟩ := video_arrives (s := RTPSession.internalCreate 600 1 2 3)
    (ready_internalCreate (by decide) 1 2 3) (by decide) (by decide)
    (show ValidPayloadType 96 by decide) units (r := RecvState.mk (List.replicate 600 0) 0) rfl
    hcap (A := Unit) (0 : ℕ) 9
  have hcount : ((RTPSession.internalCreate 600 1 2 3).emissions 96 (units.map Send.call)).map
      (fun g ↦ g.flatten.length) = some 6 := by decide +kernel
  rw [hgroups, Option.map_some, Option.some.injEq] at hcount
  refine ⟨groups, hgroups, harrive
    [[(0, 5), (1, 6), (2, 7), (4, 8), (3, 9), (1, 9), (5, 9)]] ?_ ?_⟩
  · rw [hcount]
    refine ⟨0, [4, 3, 1, 5], [], rfl, by decide, by decide +kernel, 6, by decide, fun n ↦ ?_, rfl⟩
    simp only [List.map_cons, List.map_nil, List.mem_cons, List.not_mem_nil, or_false]
    omega
  · rw [hcount]
    decide

end VirtualCamera.Service.Transport
