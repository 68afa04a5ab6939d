import Mathlib.Algebra.Order.BigOperators.Group.List
import VirtualCamera.Rtp.CompoundInput
import VirtualCamera.Rtp.RtcpReading

namespace VirtualCamera.Rtp.CompoundSizes

open Library.Memory Library.Wire Library.Groups Library.Fallible
open RtcpPacket RtcpReading SDESFormat CompoundBuilder CompoundInput

@[simp] theorem length_senderInfoBytes (i : SenderInfo) :
    (senderInfoBytes i).length = sizeofRTCPSenderReport := by
  simp [senderInfoBytes, WireWord.width, sizeofRTCPSenderReport]

@[simp] theorem length_reportBlockBytes (b : ReportBlock) :
    (reportBlockBytes b).length = sizeofRTCPReceiverReport := by
  simp [reportBlockBytes, WireWord.width, sizeofRTCPReceiverReport]

section Report

variable {r : Option (UInt32 × Option SenderInfo)}

theorem length_reportHeader (h : r ≠ none) :
    (reportHeader r).length = 4 + if isSender r then sizeofRTCPSenderReport else 0 := by
  cases r with
  | none => exact (h rfl).elim
  | some r =>
    obtain ⟨ssrc, info⟩ := r
    cases info with
    | none => simp [reportHeader, isSender, WireWord.width]
    | some info => simp [reportHeader, isSender, WireWord.width]

variable {i : Input}

/-- The header and the sender are in each packet, and what the sender says in the first
one. -/
theorem length_packet (h : i.report ≠ none) (first : Bool) (blocks : List (List UInt8)) :
    (i.toReport.packet first blocks).2.length =
      sizeofRTCPCommonHeader + 4 + (if first ∧ isSender i.report then sizeofRTCPSenderReport else 0) +
        (blocks.map List.length).sum := by
  have hheader := length_reportHeader h
  simp only [Report.packet, Input.toReport, List.length_append, RTCPCommonHeader.length_toBytes,
    List.length_flatten]
  cases first with
  | false =>
    simp only [Bool.false_eq_true, false_and, if_false, List.length_take, hheader]
    omega
  | true =>
    by_cases hsr : isSender i.report = true
    · simp only [hsr, and_self, if_true, hheader]
      omega
    · simp only [hsr, Bool.false_eq_true, and_false, if_false, List.length_take, hheader]
      omega

theorem sum_blocks (blocks : List ReportBlock) :
    ((blocks.map reportBlockBytes).map List.length).sum =
      blocks.length * sizeofRTCPReceiverReport := by
  induction blocks with
  | nil => simp
  | cons b blocks ih =>
    rw [List.map_cons, List.map_cons, List.sum_cons, ih, length_reportBlockBytes, List.length_cons]
    ring

theorem packets_cons {r : Report} {g : List (List UInt8)} {gs : List (List (List UInt8))}
    (h : groups 31 r.reportblocks = g :: gs) :
    r.packets = r.packet true g :: gs.map (r.packet false) := by
  unfold Report.packets
  rw [h]

/-- The packets of the report take what was reckoned for them. -/
theorem length_reportPackets (h : i.report ≠ none) :
    ((i.toReport.packets).map fun p ↦ p.2.length).sum = i.toReport.neededBytes := by
  obtain ⟨g, gs, hg⟩ := exists_groups_cons 31 i.toReport.reportblocks
  have hsum := sum_groups 31 (sizeofRTCPCommonHeader + 4) List.length i.toReport.reportblocks
  have hblocks : (i.toReport.reportblocks.map List.length).sum =
      i.blocks.length * sizeofRTCPReceiverReport := sum_blocks i.blocks
  have hlength : i.toReport.reportblocks.length = i.blocks.length := List.length_map _
  have hheader : i.toReport.headerlength = 4 + if isSender i.report then sizeofRTCPSenderReport else 0 :=
    length_reportHeader h
  have hrest : ((gs.map (i.toReport.packet false)).map fun p ↦ p.2.length) =
      gs.map fun g ↦ sizeofRTCPCommonHeader + 4 + (g.map List.length).sum := by
    rw [List.map_map]
    apply List.map_congr_left
    intro g _
    simp only [Function.comp_apply, length_packet h, Bool.false_eq_true, false_and, if_false,
      Nat.add_zero]
  have hall : ((i.toReport.packets).map fun p ↦ p.2.length).sum =
      (groups 31 i.toReport.reportblocks).length * (sizeofRTCPCommonHeader + 4) +
        i.blocks.length * sizeofRTCPReceiverReport +
          if isSender i.report then sizeofRTCPSenderReport else 0 := by
    rw [hg, List.map_cons, List.sum_cons] at hsum
    rw [packets_cons hg, List.map_cons, List.sum_cons, hrest, length_packet h, hg]
    simp only [true_and]
    omega
  have hsr : i.toReport.isSR = isSender i.report := rfl
  rw [hall]
  unfold Report.neededBytes
  by_cases hzero : i.blocks.length = 0
  · have hne : ¬ i.toReport.headerlength = 0 := by omega
    rw [hlength, if_pos hzero, if_neg hne, hheader]
    have hnil : i.toReport.reportblocks = [] := List.length_eq_zero_iff.mp (hlength.trans hzero)
    rw [hnil, hzero]
    simp only [groups, groupsFrom, List.length_cons, List.length_nil]
    omega
  · have hne : i.toReport.reportblocks ≠ [] := fun hno ↦ hzero (by rw [← hlength, hno]; rfl)
    rw [hlength, if_neg hzero, length_groups (by decide) hne, hlength, Report.blocksSize, hsr]
    omega

end Report

section Chunks

/-- The size of a chunk does not depend on where it begins, when that is a boundary. -/
theorem length_chunkAt (s : SDESSource) {offset : ℕ} (h : offset % 4 = 0) :
    (s.chunkAt offset).length = s.neededBytes := by
  have hitems : (put s.ssrc ++ (s.items.flatten ++ put (0 : UInt8))).length =
      4 + (s.totalitemsize + 1) := by
    simp only [List.length_append, length_put, WireWord.width, ← s.totalitemsize_eq]
  unfold SDESSource.chunkAt SDESSource.neededBytes SDESSource.aligned
  simp only
  rw [List.length_append, List.length_replicate, hitems]
  unfold alignment
  split <;> split <;> omega

theorem neededBytes_mod (s : SDESSource) : s.neededBytes % 4 = 0 := by
  have := add_alignment (s.totalitemsize + 1)
  unfold SDESSource.neededBytes SDESSource.aligned
  omega

theorem length_chunks (sources : List SDESSource) {offset : ℕ} (h : offset % 4 = 0) :
    (SDES.chunks offset sources).length = (sources.map SDESSource.neededBytes).sum := by
  induction sources generalizing offset with
  | nil => rfl
  | cons s sources ih =>
    have hmod := neededBytes_mod s
    rw [SDES.chunks, List.length_append, length_chunkAt s h, ih (by omega), List.map_cons,
      List.sum_cons]

theorem length_sdesPacket (sources : List SDESSource) :
    (SDES.packet sources).2.length =
      sizeofRTCPCommonHeader + (sources.map SDESSource.neededBytes).sum := by
  simp only [SDES.packet, List.length_append, RTCPCommonHeader.length_toBytes]
  rw [length_chunks sources (by decide)]

theorem length_sdesPackets (sdessources : List SDESSource) :
    ((SDES.packets sdessources).map fun p ↦ p.2.length).sum = SDES.neededBytes sdessources := by
  unfold SDES.packets SDES.neededBytes
  split
  · rfl
  · rename_i hne
    rw [← length_groups (by decide) hne, Nat.add_comm,
      ← sum_groups 31 sizeofRTCPCommonHeader SDESSource.neededBytes sdessources, List.map_map]
    congr 1
    apply List.map_congr_left
    intro g _
    exact length_sdesPacket g

end Chunks

/-- The packet is as long as was reckoned, and so is its buffer. -/
theorem length_packets {i : Input} (maximumpacketsize : ℕ) (external : Bool) (h : i.report ≠ none) :
    (((i.builder maximumpacketsize external).packets.map Prod.snd).flatten).length =
      (i.builder maximumpacketsize external).length := by
  have hreport := length_reportPackets h
  have hsdes := length_sdesPackets (i.sources.map SourceInput.toSource)
  rw [List.length_flatten, List.map_map]
  simp only [RTCPCompoundPacketBuilder.packets, RTCPCompoundPacketBuilder.length,
    RTCPCompoundPacketBuilder.totalotherbytes, List.map_append, List.sum_append, List.map_map]
  have happs : ((i.builder maximumpacketsize external).apppackets.packets.map
      ((List.length ∘ Prod.snd) ∘ fun p ↦ (RTP_RTCPTYPE_APP, p))).sum =
        (i.builder maximumpacketsize external).apppackets.size := by
    rw [Buffers.size_eq, List.length_flatten]
    rfl
  have hbyes : ((i.builder maximumpacketsize external).byepackets.packets.map
      ((List.length ∘ Prod.snd) ∘ fun p ↦ (RTP_RTCPTYPE_BYE, p))).sum =
        (i.builder maximumpacketsize external).byepackets.size := by
    rw [Buffers.size_eq, List.length_flatten]
    rfl
  have hreport' : ((i.builder maximumpacketsize external).report.packets.map
      (List.length ∘ Prod.snd)).sum = (i.builder maximumpacketsize external).report.neededBytes :=
    hreport
  have hsdes' : ((SDES.packets (i.builder maximumpacketsize external).sdes).map
      (List.length ∘ Prod.snd)).sum =
        SDES.neededBytes (i.builder maximumpacketsize external).sdes := hsdes
  rw [happs, hbyes, hreport', hsdes']
  omega

section Fits

variable {b b' : RTCPCompoundPacketBuilder} {maximumpacketsize : ℕ} {external : Bool}

/-- The first source is taken without its twelve bytes, and with too much already taken
what is left for a report wraps around. -/
def Fits (b : RTCPCompoundPacketBuilder) : Prop :=
  b.length ≤ b.maximumpacketsize ∨
    (∃ ssrc, b.sdes = [.new ssrc]) ∧
      b.length ≤ b.maximumpacketsize + 12 + if b.report.headerlength = 0 then 0 else 28

theorem neededBytes_addItem (s : SDESSource) (buf : List UInt8) :
    (s.addItem buf).neededBytes = SDESSource.aligned (s.totalitemsize + buf.length + 1) := rfl

theorem neededBytes_addItem_last {sdessources : List SDESSource} (h : sdessources ≠ [])
    (sdesid : UInt8) (itemdata : List UInt8) :
    SDES.neededBytes (SDES.addItem sdessources
      (put sdesid ++ (put (UInt8.ofNat itemdata.length) ++ itemdata))) =
      SDES.neededBytesWithExtraItem sdessources itemdata.length := by
  obtain rfl | ⟨front, s, rfl⟩ := sdessources.eq_nil_or_concat
  · exact (h rfl).elim
  · have hlen : (put sdesid ++ (put (UInt8.ofNat itemdata.length) ++ itemdata)).length =
        sizeofRTCPSDESHeader + itemdata.length := by
      simp only [List.length_append, length_put, WireWord.width, sizeofRTCPSDESHeader]
      omega
    simp only [SDES.addItem, SDES.neededBytesWithExtraItem, SDES.neededBytes,
      List.concat_eq_append, List.getLast?_append, List.getLast?_singleton, Option.some_or,
      List.dropLast_concat, List.map_append, List.map_cons, List.map_nil, List.sum_append,
      List.sum_cons, List.sum_nil, List.length_append, List.length_singleton,
      neededBytes_addItem, hlen, SDESSource.neededBytesWithExtraItem, ← Nat.add_assoc]
    rw [if_neg (by simp)]
    rfl

theorem sizeT_le {a c : ℕ} (h : c ≤ a) : sizeT ((a : ℤ) - (c : ℕ)) ≤ a - c := by
  unfold sizeT
  omega

/-- A report that is started takes a header and the bytes of its own. -/
theorem fits_startReport {report : Report} {size : ℕ} (hfits : Fits b)
    (hnone : b.report.headerlength = 0) (hblocks : b.report.reportblocks = [])
    (hsize : sizeofRTCPCommonHeader + report.headerlength = size) (hle : size ≤ 28)
    (hpos : report.headerlength ≠ 0) (hnew : report.reportblocks = [])
    (hleft : ¬ size > b.sizeleft) : Fits { b with report := report } := by
  have hneeded : report.neededBytes = size := by
    rw [Report.neededBytes, hnew, List.length_nil, if_pos rfl, if_neg hpos, hsize]
  have hold : b.report.neededBytes = 0 := by
    rw [Report.neededBytes, hblocks, List.length_nil, if_pos rfl, if_pos hnone]
  simp only [Fits, RTCPCompoundPacketBuilder.length, RTCPCompoundPacketBuilder.totalotherbytes,
    hneeded, hold, if_neg hpos, if_pos hnone, Nat.add_zero] at hfits ⊢
  unfold RTCPCompoundPacketBuilder.sizeleft at hleft
  obtain hfits | ⟨hone, hmore⟩ := hfits
  · have hsub := sizeT_le hfits
    left
    omega
  · right
    exact ⟨hone, by omega⟩

theorem fits_addItem {sdesid : UInt8} {itemdata : List UInt8} (hsources : b.sdes ≠ [])
    (h : b.addItem sdesid itemdata = .ok b') : Fits b' := by
  simp only [RTCPCompoundPacketBuilder.addItem, check_eq_ok] at h
  obtain ⟨hfit, h⟩ := h
  cases h
  have hneeded := neededBytes_addItem_last hsources sdesid itemdata
  left
  simp only [RTCPCompoundPacketBuilder.length, RTCPCompoundPacketBuilder.totalotherbytes] at hfit ⊢
  omega

/-- One source more: what was checked, but for the first one. -/
theorem fits_addSDESSource {ssrc : UInt32} (h : b.addSDESSource ssrc = .ok b') : Fits b' := by
  simp only [RTCPCompoundPacketBuilder.addSDESSource, check_eq_ok] at h
  obtain ⟨-, hfit, h⟩ := h
  cases h
  have hnew : (SDESSource.new ssrc).neededBytes = 8 := rfl
  by_cases hnil : b.sdes = []
  · right
    refine ⟨⟨ssrc, by rw [hnil, List.nil_append]⟩, ?_⟩
    have hone : SDES.neededBytes [SDESSource.new ssrc] = 12 := by
      simp [SDES.neededBytes, hnew, groupCount, sizeofRTCPCommonHeader]
    simp only [SDES.neededBytesWithExtraSource, RTCPCompoundPacketBuilder.length,
      RTCPCompoundPacketBuilder.totalotherbytes, hnil, List.nil_append, hone] at hfit ⊢
    omega
  · left
    have hneeded : SDES.neededBytes (b.sdes ++ [.new ssrc]) =
        SDES.neededBytesWithExtraSource b.sdes := by
      simp only [SDES.neededBytes, SDES.neededBytesWithExtraSource, if_neg hnil, List.map_append,
        List.map_cons, List.map_nil, List.sum_append, List.sum_cons, List.sum_nil, hnew,
        List.length_append, List.length_singleton]
      exact if_neg (by simp)
    simp only [RTCPCompoundPacketBuilder.length,
      RTCPCompoundPacketBuilder.totalotherbytes] at hfit ⊢
    omega

/-- What is taken fits, unless the first source or the report is the last thing that did. -/
theorem fits_call {c : Call} (hnil : b.report.headerlength = 0 → b.report.reportblocks = [])
    (hfits : Fits b) (h : b.call c = .ok b') : Fits b' := by
  cases c with
  | startSenderReport senderssrc info =>
    simp only [RTCPCompoundPacketBuilder.call, RTCPCompoundPacketBuilder.startSenderReport,
      check_eq_ok] at h
    obtain ⟨-, hheader, hleft, h⟩ := h
    cases h
    have hnone := not_not.mp hheader
    have hlen : (put senderssrc ++ senderInfoBytes info).length = 24 := by
      rw [List.length_append, length_put, length_senderInfoBytes]
      rfl
    refine fits_startReport hfits hnone (hnil hnone) ?_ (Nat.le_refl _) ?_ (hnil hnone) hleft
    · rw [Report.headerlength, hlen]
      rfl
    · rw [Report.headerlength, hlen]
      omega
  | startReceiverReport senderssrc =>
    simp only [RTCPCompoundPacketBuilder.call, RTCPCompoundPacketBuilder.startReceiverReport,
      check_eq_ok] at h
    obtain ⟨-, hheader, hleft, h⟩ := h
    cases h
    have hnone := not_not.mp hheader
    have hlen : (put senderssrc).length = 4 := length_put senderssrc
    refine fits_startReport hfits hnone (hnil hnone) ?_ (by decide) ?_ (hnil hnone) hleft
    · rw [Report.headerlength, hlen]
    · rw [Report.headerlength, hlen]
      omega
  | addReportBlock block =>
    simp only [RTCPCompoundPacketBuilder.call, RTCPCompoundPacketBuilder.addReportBlock,
      check_eq_ok] at h
    obtain ⟨-, -, hfit, h⟩ := h
    cases h
    left
    simp only [RTCPCompoundPacketBuilder.length, RTCPCompoundPacketBuilder.totalotherbytes,
      Report.neededBytes, Report.neededBytesWithExtraReportBlock, List.length_append,
      List.length_singleton] at hfit ⊢
    rw [if_neg (Nat.succ_ne_zero _)]
    omega
  | addSDESSource ssrc => exact fits_addSDESSource h
  | addSDESNormalItem t itemdata =>
    simp only [RTCPCompoundPacketBuilder.call, RTCPCompoundPacketBuilder.addSDESNormalItem,
      check_eq_ok] at h
    obtain ⟨-, hsources, h⟩ := h
    cases hid : RTCPCompoundPacketBuilder.itemId t with
    | none =>
      rw [hid] at h
      cases h
    | some sdesid =>
      rw [hid] at h
      exact fits_addItem hsources h
  | addSDESPrivateItem prefixdata valuedata =>
    simp only [RTCPCompoundPacketBuilder.call, RTCPCompoundPacketBuilder.addSDESPrivateItem,
      check_eq_ok] at h
    obtain ⟨-, hsources, -, h⟩ := h
    exact fits_addItem hsources h
  | addBYEPacket ssrcs reason =>
    simp only [RTCPCompoundPacketBuilder.call, RTCPCompoundPacketBuilder.addBYEPacket,
      check_eq_ok] at h
    obtain ⟨-, -, hfit, h⟩ := h
    cases h
    left
    simp only [RTCPCompoundPacketBuilder.length, RTCPCompoundPacketBuilder.totalotherbytes,
      Buffers.push] at hfit ⊢
    omega
  | addAPPPacket subtype ssrc name appdata =>
    simp only [RTCPCompoundPacketBuilder.call, RTCPCompoundPacketBuilder.addAPPPacket,
      check_eq_ok] at h
    obtain ⟨-, -, -, -, hfit, h⟩ := h
    cases h
    left
    have hlen : (RTCPCompoundPacketBuilder.appPacket subtype ssrc name.val appdata).length =
        sizeofRTCPCommonHeader + 4 * 2 + appdata.length := by
      simp only [RTCPCompoundPacketBuilder.appPacket, List.length_append,
        RTCPCommonHeader.length_toBytes, length_put, WireWord.width, name.property]
      omega
    simp only [RTCPCompoundPacketBuilder.length, RTCPCompoundPacketBuilder.totalotherbytes,
      Buffers.push, hlen] at hfit ⊢
    omega

theorem blocks_of_header {i : Input}
    (h : (i.builder maximumpacketsize external).report.headerlength = 0) :
    (i.builder maximumpacketsize external).report.reportblocks = [] := by
  have hnone := reportHeader_eq_nil.mp h
  simp [Input.builder, Input.toReport, i.blocks_nil hnone]

theorem run_fits (calls : List Call) {i : Input} (hfits : Fits (i.builder maximumpacketsize external)) :
    ∃ i' : Input, calls.foldl step (i.builder maximumpacketsize external, i.contents) =
      (i'.builder maximumpacketsize external, i'.contents) ∧
        Fits (i'.builder maximumpacketsize external) := by
  induction calls generalizing i with
  | nil => exact ⟨i, rfl, hfits⟩
  | cons c calls ih =>
    rw [List.foldl_cons]
    unfold step
    cases h : (i.builder maximumpacketsize external).call c with
    | error e => exact ih hfits
    | ok b =>
      obtain ⟨i', rfl, hc⟩ := call_builder h
      simp only [← hc]
      exact ih (fits_call blocks_of_header hfits h)

theorem run_of_new {b : RTCPCompoundPacketBuilder}
    (h : RTCPCompoundPacketBuilder.new.initBuild external maximumpacketsize = .ok b)
    (calls : List Call) :
    ∃ i : Input, run b calls = (i.builder maximumpacketsize external, i.contents) ∧
      Fits (i.builder maximumpacketsize external) := by
  rw [initBuild_new h]
  exact run_fits calls (.inl (Nat.zero_le _))

end Fits

section Headers

variable {i : Input} {maximumpacketsize : ℕ} {external : Bool}

/-- A packet as it is written: a header without padding, and as many words as it says. -/
def Headed (p : BitVec 8 × List UInt8) : Prop :=
  ∃ count words body, 0 < words ∧ p.2 = (packetHeader count p.1 words).toBytes ++ body ∧
    p.2.length = 4 * words

theorem headed_of_length {count len : ℕ} {packettype : BitVec 8} {body : List UInt8}
    (hlen : len = sizeofRTCPCommonHeader + body.length) (hmod : len % 4 = 0) :
    Headed (packettype, (packetHeader count packettype (len / 4)).toBytes ++ body) := by
  unfold sizeofRTCPCommonHeader at hlen
  refine ⟨count, len / 4, body, by omega, rfl, ?_⟩
  rw [List.length_append, RTCPCommonHeader.length_toBytes]
  unfold sizeofRTCPCommonHeader
  omega

/-- The four kinds of packets, of which the reports and the descriptions hold at most 31
blocks or chunks. -/
theorem mem_packets {p : BitVec 8 × List UInt8}
    (hp : p ∈ (i.builder maximumpacketsize external).packets) :
    (∃ first, ∃ g : List ReportBlock, g.length ≤ 31 ∧
      p = i.toReport.packet first (g.map reportBlockBytes)) ∨
    (∃ g : List SourceInput, p = SDES.packet (g.map SourceInput.toSource) ∧
      p ∈ SDES.packets (i.sources.map SourceInput.toSource)) ∨
    (∃ a : AppInput, p = (RTP_RTCPTYPE_APP, a.toBytes)) ∨
    ∃ b : ByeInput, p = (RTP_RTCPTYPE_BYE, b.toBytes) := by
  simp only [RTCPCompoundPacketBuilder.packets, List.mem_append] at hp
  obtain hreport | hsdes | happ | hbye := hp
  · left
    have hgroups : groups 31 i.toReport.reportblocks = _ := groups_map 31 reportBlockBytes i.blocks
    obtain ⟨g, gs, hg⟩ := exists_groups_cons 31 i.blocks
    rw [hg] at hgroups
    have hmem : ∀ g' ∈ g :: gs, g'.length ≤ 31 := fun g' hg' ↦
      length_of_mem_groups (by decide) (hg ▸ hg')
    have hpackets : p ∈ i.toReport.packets := hreport
    rw [packets_cons hgroups, List.map_map] at hpackets
    obtain rfl | hpackets := List.mem_cons.mp hpackets
    · exact ⟨true, g, hmem g List.mem_cons_self, rfl⟩
    · obtain ⟨g', hg', rfl⟩ := List.mem_map.mp hpackets
      exact ⟨false, g', hmem g' (List.mem_cons_of_mem _ hg'), rfl⟩
  · right
    left
    have hpackets := hsdes
    unfold SDES.packets at hpackets
    split at hpackets
    · cases hpackets
    · obtain ⟨g, hg, rfl⟩ := List.mem_map.mp hpackets
      have hg' : g ∈ groups 31 (i.sources.map SourceInput.toSource) := hg
      rw [groups_map] at hg'
      obtain ⟨g', -, rfl⟩ := List.mem_map.mp hg'
      exact ⟨g', rfl, hsdes⟩
  · obtain ⟨bytes, hbytes, rfl⟩ := List.mem_map.mp happ
    obtain ⟨a, -, rfl⟩ := List.mem_map.mp (show bytes ∈ i.apps.map AppInput.toBytes from hbytes)
    exact .inr (.inr (.inl ⟨a, rfl⟩))
  · obtain ⟨bytes, hbytes, rfl⟩ := List.mem_map.mp hbye
    obtain ⟨b, -, rfl⟩ := List.mem_map.mp (show bytes ∈ i.byes.map ByeInput.toBytes from hbytes)
    exact .inr (.inr (.inr ⟨b, rfl⟩))

theorem headed_report (h : i.report ≠ none) (first : Bool) (g : List ReportBlock) :
    Headed (i.toReport.packet first (g.map reportBlockBytes)) := by
  have hlen := length_packet h first (g.map reportBlockBytes)
  rw [sum_blocks] at hlen
  simp only [Report.packet, List.length_append, RTCPCommonHeader.length_toBytes] at hlen
  unfold sizeofRTCPCommonHeader sizeofRTCPSenderReport sizeofRTCPReceiverReport at hlen
  simp only [Report.packet]
  apply headed_of_length
  · rw [List.length_append]
    omega
  · have hsender : (if first = true ∧ isSender i.report = true then 20 else 0) % 4 = 0 := by
      split <;> rfl
    unfold sizeofRTCPCommonHeader
    omega

theorem headed_sdes (sources : List SDESSource) : Headed (SDES.packet sources) := by
  have hmod : (SDES.chunks sizeofRTCPCommonHeader sources).length % 4 = 0 := by
    rw [length_chunks sources (by decide)]
    induction sources with
    | nil => rfl
    | cons s sources ih =>
      have hs := neededBytes_mod s
      rw [List.map_cons, List.sum_cons]
      omega
  apply headed_of_length rfl
  unfold sizeofRTCPCommonHeader at hmod ⊢
  omega

theorem headed_app (a : AppInput) : Headed (RTP_RTCPTYPE_APP, a.toBytes) := by
  have hmod := a.appdata_mod
  have hname := a.name_eq
  refine ⟨_, _, put a.ssrc ++ (a.name ++ a.appdata), ?_, rfl, ?_⟩
  · omega
  · simp only [AppInput.toBytes, RTCPCompoundPacketBuilder.appPacket, List.length_append,
      RTCPCommonHeader.length_toBytes, length_put, WireWord.width, hname, sizeofRTCPCommonHeader]
    omega

/-- The reason is filled up to a boundary. -/
theorem length_reasonBytes {offset : ℕ} (h : offset % 4 = 0) (reason : List UInt8) :
    (RTCPCompoundPacketBuilder.reasonBytes offset reason).length % 4 = 0 ∧
      (RTCPCompoundPacketBuilder.reasonBytes offset reason).length ≤ reason.length + 4 := by
  unfold RTCPCompoundPacketBuilder.reasonBytes
  split
  · have hmod := add_alignment (offset + 1 + reason.length)
    have hle : alignment (offset + 1 + reason.length) ≤ 3 := by
      unfold alignment
      split <;> omega
    simp only [List.length_append, length_put, WireWord.width, List.length_replicate]
    omega
  · exact ⟨rfl, Nat.zero_le _⟩

theorem headed_bye (b : ByeInput) : Headed (RTP_RTCPTYPE_BYE, b.toBytes) := by
  have hmod := (length_reasonBytes (show (sizeofRTCPCommonHeader + 4 * b.ssrcs.length) % 4 = 0 by
    unfold sizeofRTCPCommonHeader; omega) b.reason).1
  apply headed_of_length
  · simp only [List.length_append, length_putMany, WireWord.width]
    omega
  · unfold sizeofRTCPCommonHeader at hmod ⊢
    omega

theorem headed_packets (h : i.report ≠ none) {p : BitVec 8 × List UInt8}
    (hp : p ∈ (i.builder maximumpacketsize external).packets) : Headed p := by
  obtain ⟨first, g, -, rfl⟩ | ⟨g, rfl, -⟩ | ⟨a, rfl⟩ | ⟨b, rfl⟩ := mem_packets hp
  · exact headed_report h first g
  · exact headed_sdes _
  · exact headed_app a
  · exact headed_bye b

/-- Only the description of many sources can be longer than a header can say. -/
theorem length_packet_le (h : i.report ≠ none)
    (hsdes : SDES.neededBytes (i.sources.map SourceInput.toSource) ≤ 2 ^ 18)
    {p : BitVec 8 × List UInt8} (hp : p ∈ (i.builder maximumpacketsize external).packets) :
    p.2.length ≤ 2 ^ 18 := by
  obtain ⟨first, g, hg, rfl⟩ | ⟨g, -, hmem⟩ | ⟨a, rfl⟩ | ⟨b, rfl⟩ := mem_packets hp
  · rw [length_packet h, sum_blocks]
    unfold sizeofRTCPCommonHeader sizeofRTCPSenderReport sizeofRTCPReceiverReport
    split <;> omega
  · have hle := List.single_le_sum (fun _ _ ↦ Nat.zero_le _) _
      (List.mem_map_of_mem (f := fun p ↦ p.2.length) hmem)
    rw [length_sdesPackets] at hle
    exact Nat.le_trans hle hsdes
  · have hname := a.name_eq
    have hmod := a.appdata_mod
    have hle := a.appdata_le
    simp only [AppInput.toBytes, RTCPCompoundPacketBuilder.appPacket, List.length_append,
      RTCPCommonHeader.length_toBytes, length_put, WireWord.width, hname, sizeofRTCPCommonHeader]
    omega
  · have hreason := (length_reasonBytes (show (sizeofRTCPCommonHeader + 4 * b.ssrcs.length) % 4 = 0 by
      unfold sizeofRTCPCommonHeader; omega) b.reason).2
    have hssrcs := b.ssrcs_le
    have hle := b.reason_le
    simp only [ByeInput.toBytes, RTCPCompoundPacketBuilder.byePacket, List.length_append,
      RTCPCommonHeader.length_toBytes, length_putMany, WireWord.width]
    unfold sizeofRTCPCommonHeader at hreason ⊢
    omega

end Headers

section EndBuild

variable {i : Input} {maximumpacketsize : ℕ} {external : Bool}

theorem Headed.le {p : BitVec 8 × List UInt8} (h : Headed p) : sizeofRTCPCommonHeader ≤ p.2.length := by
  obtain ⟨_, words, _, hpos, -, hlen⟩ := h
  unfold sizeofRTCPCommonHeader
  omega

/-- Nothing is wrong with the build but a packet that is longer than its external buffer. -/
theorem endBuild_builder (h : i.report ≠ none) :
    (i.builder maximumpacketsize external).endBuild = none ↔
      external = true ∧ maximumpacketsize < (i.builder maximumpacketsize external).length := by
  have hlen := length_packets maximumpacketsize external h
  have hheader : ¬ (i.builder maximumpacketsize external).report.headerlength = 0 :=
    fun hno ↦ h (reportHeader_eq_nil.mp hno)
  obtain ⟨ps, hps⟩ := exists_mapM (f := fun p : BitVec 8 × List UInt8 ↦ RTCPPacket.ofData p.1 p.2)
    (l := (i.builder maximumpacketsize external).packets) fun p hp ↦
      (ofData_readable p.1 (headed_packets h hp).le).imp fun _ hq ↦ hq.1
  have hbuilding : (i.builder maximumpacketsize external).arebuilding = true := rfl
  have hexternal : (i.builder maximumpacketsize external).external = external := rfl
  have hmax : (i.builder maximumpacketsize external).maximumpacketsize = maximumpacketsize := rfl
  simp only [RTCPCompoundPacketBuilder.endBuild, hbuilding, not_true_eq_false, if_false,
    if_neg hheader, hlen, hps, hexternal, hmax, Option.bind_eq_bind, Option.bind_some]
  cases external with
  | false => simp
  | true => simp

/-- What is built can be longer than it was allowed to be, by forty bytes at most and with a
single source of which nothing is described, and an external buffer then overflows. -/
theorem endBuild_run {b : RTCPCompoundPacketBuilder}
    (h : RTCPCompoundPacketBuilder.new.initBuild external maximumpacketsize = .ok b)
    (calls : List Call) :
    Fits (run b calls).1 ∧ (run b calls).1.maximumpacketsize = maximumpacketsize ∧
      ((run b calls).1.report.headerlength ≠ 0 →
        ((run b calls).1.endBuild = none ↔
          external = true ∧ maximumpacketsize < (run b calls).1.length)) := by
  obtain ⟨i, hrun, hfits⟩ := run_of_new h calls
  rw [hrun]
  exact ⟨hfits, rfl, fun hheader ↦ endBuild_builder fun hno ↦ hheader (reportHeader_eq_nil.mpr hno)⟩

theorem length_name : [97, 98, 99, 100].length = 4 := rfl

def overflowingCalls : List Call :=
  [.startReceiverReport 1, .addAPPPacket 0 1 ⟨[97, 98, 99, 100], length_name⟩ (List.replicate 580 0),
    .addSDESSource 2]

theorem endBuild_run_overflow :
    (run (Input.empty.builder 600 true) overflowingCalls).1.endBuild = none := by
  have hrun := endBuild_run (b := Input.empty.builder 600 true)
    (show RTCPCompoundPacketBuilder.new.initBuild true 600 = .ok _ from rfl) overflowingCalls
  have hheader : (run (Input.empty.builder 600 true) overflowingCalls).1.report.headerlength = 4 := by
    decide +kernel
  have hlen : (run (Input.empty.builder 600 true) overflowingCalls).1.length = 612 := by
    decide +kernel
  apply (hrun.2.2 (by rw [hheader]; decide)).mpr
  rw [hlen]
  decide

end EndBuild

end VirtualCamera.Rtp.CompoundSizes
