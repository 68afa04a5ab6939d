import VirtualCamera.Rtp.CompoundSizes

namespace VirtualCamera.Rtp.CompoundRoundTrip

open Library.Wire Library.Groups Library.Fallible
open RtcpPacket RtcpReading SDESFormat CompoundBuilder CompoundInput CompoundSizes
open Packet (RTP_VERSION RTP_RTCPTYPE_SR RTP_RTCPTYPE_RR)

section Lost

theorem count_of_bytes (p : BitVec 32) :
    (p.setWidth 8).setWidth 32 ||| ((p >>> 8).setWidth 8).setWidth 32 <<< 8 |||
      ((p >>> 16).setWidth 8).setWidth 32 <<< 16 = (p.setWidth 24).setWidth 32 := by
  apply BitVec.eq_of_getLsbD_eq
  intro i hi
  simp only [BitVec.getLsbD_or, BitVec.getLsbD_setWidth, BitVec.getLsbD_shiftLeft,
    BitVec.getLsbD_ushiftRight]
  grind

theorem and_signBit (q : BitVec 32) : q &&& 0x00800000 = 0 ↔ q.getLsbD 23 = false := by
  have hpow : (0x00800000 : BitVec 32) = BitVec.twoPow 32 23 := rfl
  rw [hpow]
  constructor
  · intro h
    have hbit := congrArg (fun x : BitVec 32 ↦ x.getLsbD 23) h
    simpa using hbit
  · intro h
    apply BitVec.eq_of_getLsbD_eq
    intro i hi
    rw [BitVec.getLsbD_and, BitVec.getLsbD_twoPow]
    grind

/-- The upper byte is filled with the sign. -/
theorem fill_sign (q : BitVec 24) :
    (if q.setWidth 32 &&& 0x00800000 ≠ 0 then q.setWidth 32 ||| 0xFF000000 else q.setWidth 32) =
      q.signExtend 32 := by
  have hfill : (0xFF000000 : BitVec 32) = BitVec.allOnes 32 <<< 24 := rfl
  have hmsb : q.msb = q.getLsbD 23 := rfl
  have hbit := and_signBit (q.setWidth 32)
  rw [BitVec.getLsbD_setWidth] at hbit
  apply BitVec.eq_of_getLsbD_eq
  intro i hi
  rw [BitVec.getLsbD_signExtend, hmsb, hfill]
  split
  · rw [BitVec.getLsbD_or, BitVec.getLsbD_setWidth, BitVec.getLsbD_shiftLeft,
      BitVec.getLsbD_allOnes]
    grind
  · rw [BitVec.getLsbD_setWidth]
    grind

theorem lostPacketCount_bytes (v : UInt32) :
    RTCPPacket.lostPacketCount (v >>> 16).toUInt8 (v >>> 8).toUInt8 v.toUInt8 =
      Int32.ofBitVec ((v.toBitVec.setWidth 24).signExtend 32) := by
  have hcount : v.toUInt8.toUInt32 ||| (v >>> 8).toUInt8.toUInt32 <<< 8 |||
      (v >>> 16).toUInt8.toUInt32 <<< 16 = UInt32.ofBitVec ((v.toBitVec.setWidth 24).setWidth 32) :=
    UInt32.toBitVec_inj.mp (count_of_bytes v.toBitVec)
  rw [RTCPPacket.lostPacketCount, hcount, ← fill_sign]
  by_cases h : (v.toBitVec.setWidth 24).setWidth 32 &&& 0x00800000 = (0 : BitVec 32)
  · have h' : UInt32.ofBitVec ((v.toBitVec.setWidth 24).setWidth 32) &&& 0x00800000 = 0 :=
      UInt32.toBitVec_inj.mp h
    simp only [h, h', ne_eq, not_true_eq_false, if_false]
    rfl
  · have h' : ¬ UInt32.ofBitVec ((v.toBitVec.setWidth 24).setWidth 32) &&& 0x00800000 = 0 :=
      fun hno ↦ h (congrArg UInt32.toBitVec hno)
    simp only [h, h', ne_eq, not_false_eq_true, if_true]
    rfl

end Lost

section Reports

variable {p : RTCPPacket} {off : ℕ}

theorem word_of_stands {α : Type} [WireWord α] {x : α} (hknown : p.knownformat = true)
    (h : StandsAt p.data off (put x)) : p.word off = some x := by
  rw [RTCPPacket.word, if_neg (not_not_intro hknown)]
  exact h.get

/-- A block is read back as far as it is kept. -/
theorem getReport_of_stands (hknown : p.knownformat = true) {reportoffset index : ℕ}
    {b : ReportBlock}
    (h : StandsAt p.data (reportoffset + index * sizeofRTCPReceiverReport) (reportBlockBytes b)) :
    p.getReport reportoffset index = some (keptBlock b) := by
  have h₁ := h.right
  have h₂ := h₁.right
  have h₃ := h₂.right
  have h₄ := h₃.right
  have h₅ := h₄.right
  have h₆ := h₅.right
  have h₇ := h₆.right
  have h₈ := h₇.right
  simp only [length_put, WireWord.width, Nat.add_assoc, Nat.reduceAdd] at h₁ h₂ h₃ h₄ h₅ h₆ h₇ h₈
  simp only [RTCPPacket.getReport, Nat.add_assoc, word_of_stands hknown h.left,
    word_of_stands hknown h₁.left, word_of_stands hknown h₂.left, word_of_stands hknown h₃.left,
    word_of_stands hknown h₄.left, word_of_stands hknown h₅.left, word_of_stands hknown h₆.left,
    word_of_stands hknown h₇.left, word_of_stands hknown h₈, Option.bind_eq_bind, Option.bind_some,
    lostPacketCount_bytes]
  rfl

theorem getSenderInfo_of_stands (hknown : p.knownformat = true) {info : SenderInfo}
    (h : StandsAt p.data 8 (senderInfoBytes info)) : p.getSenderInfo = some info := by
  have h₁ := h.right
  have h₂ := h₁.right
  have h₃ := h₂.right
  have h₄ := h₃.right
  simp only [length_put, WireWord.width, Nat.reduceAdd] at h₁ h₂ h₃ h₄
  simp only [RTCPPacket.getSenderInfo, word_of_stands hknown h.left, word_of_stands hknown h₁.left,
    word_of_stands hknown h₂.left, word_of_stands hknown h₃.left, word_of_stands hknown h₄,
    Option.bind_eq_bind, Option.bind_some]
  rfl

theorem getReports_of_stands (reportoffset : ℕ) (hknown : p.knownformat = true)
    {blocks : List ReportBlock} (hcount : p.count = some blocks.length)
    (h : StandsAt p.data reportoffset (blocks.flatMap reportBlockBytes)) :
    p.getReports reportoffset = some (blocks.map keptBlock) := by
  have hlen : blocks.length = (blocks.map keptBlock).length := (List.length_map _).symm
  simp only [RTCPPacket.getReports, hcount, Option.bind_eq_bind, Option.bind_some]
  rw [hlen]
  apply mapM_range
  intro index hindex
  rw [← hlen] at hindex
  rw [getReport_of_stands hknown (standsAt_record length_reportBlockBytes h hindex),
    List.getElem_map]

end Reports

section Says

/-- What is read of a packet that was written. -/
def Says (p : BitVec 8 × List UInt8) (c : Content) : Prop :=
  ∃ q, RTCPPacket.ofData p.1 p.2 = some q ∧ q.read = some c

variable {count words : ℕ} {packettype : BitVec 8} {body : List UInt8}

theorem unpadded_packetHeader (data : List UInt8) :
    (packetHeader count packettype words).unpadded data = some (some data.length) := rfl

theorem count_packetHeader (packettype : BitVec 8) (words : ℕ) (h : count ≤ 31) :
    (packetHeader count packettype words).count.toNat = count := by
  simp only [packetHeader, BitVec.toNat_ofNat]
  omega

theorem count_of_packetHeader (t : PacketType) (h : count ≤ 31) :
    (RTCPPacket.known t ((packetHeader count packettype words).toBytes ++ body)).count =
      some count := by
  rw [count_known _ (RTCPCommonHeader.read_toBytes _ _), count_packetHeader _ _ h]

/-- The body of a packet stands behind its header. -/
theorem standsAt_body (count : ℕ) (packettype : BitVec 8) (words : ℕ) (body : List UInt8) :
    StandsAt ((packetHeader count packettype words).toBytes ++ body)
    sizeofRTCPCommonHeader body := by
  have h := (standsAt_self ((packetHeader count packettype words).toBytes ++ body)).right
  rwa [RTCPCommonHeader.length_toBytes, Nat.zero_add] at h

theorem length_blocks (g : List ReportBlock) :
    (g.flatMap reportBlockBytes).length = sizeofRTCPReceiverReport * g.length := by
  rw [List.length_flatMap, Nat.mul_comm, ← sum_blocks, List.map_map]
  rfl

theorem reportPacket_packetHeader (t : PacketType) (reportoffset : ℕ) (h : count ≤ 31)
    (hbody : sizeofRTCPCommonHeader + body.length = reportoffset + sizeofRTCPReceiverReport * count) :
    reportPacket t reportoffset ((packetHeader count packettype words).toBytes ++ body) =
      some (.known t ((packetHeader count packettype words).toBytes ++ body)) := by
  simp only [reportPacket, RTCPCommonHeader.read_toBytes, unpadded_packetHeader,
    Option.bind_eq_bind, Option.bind_some, List.length_append, RTCPCommonHeader.length_toBytes,
    count_packetHeader _ _ h, hbody, ne_eq, not_true_eq_false, if_false]
  rfl

theorem says_sr (ssrc : UInt32) (info : SenderInfo) {g : List ReportBlock} (hg : g.length ≤ 31) :
    Says (RTP_RTCPTYPE_SR, (packetHeader g.length RTP_RTCPTYPE_SR words).toBytes ++
      (put ssrc ++ senderInfoBytes info ++ g.flatMap reportBlockBytes))
      (.sr ssrc info (g.map keptBlock)) := by
  refine ⟨_, reportPacket_packetHeader .sr srReportOffset hg ?_, ?_⟩
  · simp only [List.length_append, length_put, WireWord.width, length_senderInfoBytes,
      length_blocks, srReportOffset]
    omega
  · have hbody := standsAt_body g.length RTP_RTCPTYPE_SR words
      (put ssrc ++ senderInfoBytes info ++ g.flatMap reportBlockBytes)
    have hblocks := hbody.right
    have hinfo := hbody.left.right
    rw [List.length_append, length_put, length_senderInfoBytes] at hblocks
    rw [length_put] at hinfo
    simp only [RTCPPacket.read, RTCPPacket.known_knownformat, not_true_eq_false, if_false,
      RTCPPacket.known_packettype, RTCPPacket.getSenderSSRC,
      word_of_stands (p := .known .sr _) rfl hbody.left.left,
      getSenderInfo_of_stands (p := .known .sr _) rfl hinfo,
      getReports_of_stands (p := .known .sr _) srReportOffset rfl
        (count_of_packetHeader .sr hg) hblocks, Option.bind_eq_bind, Option.bind_some]
    rfl

theorem says_rr (ssrc : UInt32) {g : List ReportBlock} (hg : g.length ≤ 31) :
    Says (RTP_RTCPTYPE_RR, (packetHeader g.length RTP_RTCPTYPE_RR words).toBytes ++
      (put ssrc ++ g.flatMap reportBlockBytes)) (.rr ssrc (g.map keptBlock)) := by
  refine ⟨_, reportPacket_packetHeader .rr rrReportOffset hg ?_, ?_⟩
  · simp only [List.length_append, length_put, WireWord.width, length_blocks, rrReportOffset]
    omega
  · have hbody := standsAt_body g.length RTP_RTCPTYPE_RR words
      (put ssrc ++ g.flatMap reportBlockBytes)
    have hblocks := hbody.right
    rw [length_put] at hblocks
    simp only [RTCPPacket.read, RTCPPacket.known_knownformat, not_true_eq_false, if_false,
      RTCPPacket.known_packettype, RTCPPacket.getSenderSSRC,
      word_of_stands (p := .known .rr _) rfl hbody.left,
      getReports_of_stands (p := .known .rr _) rrReportOffset rfl
        (count_of_packetHeader .rr hg) hblocks, Option.bind_eq_bind, Option.bind_some]
    rfl

theorem alignment_add {offset : ℕ} (h : offset % 4 = 0) (n : ℕ) :
    alignment (offset + n) = alignment n := by
  unfold alignment
  rw [Nat.add_mod, h, Nat.zero_add, Nat.mod_mod]

/-- The chunk that is written for a source. -/
def toChunk (s : SourceInput) : WireChunk :=
  ⟨s.ssrc, s.items, List.replicate (alignment (4 + (itemsBytes s.items).length + 1)) 0,
    List.length_replicate⟩

theorem chunkAt_toSource (s : SourceInput) {offset : ℕ} (h : offset % 4 = 0) :
    s.toSource.chunkAt offset = (toChunk s).toBytes := by
  have hitems : s.toSource.items.flatten = itemsBytes s.items := by
    rw [itemsBytes, List.flatMap_def]
    rfl
  have hlen : (put s.toSource.ssrc ++ (itemsBytes s.items ++ put (0 : UInt8))).length =
      4 + (itemsBytes s.items).length + 1 := by
    simp only [List.length_append, length_put, WireWord.width, Nat.add_assoc]
  simp only [SDESSource.chunkAt, hitems, hlen, alignment_add h, List.append_assoc]
  rfl

theorem chunks_toSource (g : List SourceInput) {offset : ℕ} (h : offset % 4 = 0) :
    SDES.chunks offset (g.map SourceInput.toSource) = chunksBytes (g.map toChunk) := by
  induction g generalizing offset with
  | nil => rfl
  | cons s g ih =>
    have hmod := neededBytes_mod s.toSource
    rw [List.map_cons, List.map_cons, SDES.chunks, chunksBytes_cons, length_chunkAt _ h,
      ih (by omega), chunkAt_toSource s h]

theorem says_sdes {g : List SourceInput} (hg : g.length ≤ 31) :
    Says (SDES.packet (g.map SourceInput.toSource)) (.sdes (g.map SourceInput.read)) := by
  have hform : SDESForm (SDES.packet (g.map SourceInput.toSource)).2 (g.map toChunk) := by
    simp only [SDES.packet, chunks_toSource g (show sizeofRTCPCommonHeader % 4 = 0 from rfl),
      List.length_map]
    refine ⟨⟨_, RTCPCommonHeader.read_toBytes _ _, ?_, ?_⟩, standsAt_body _ _ _ _⟩
    · rw [count_packetHeader _ _ hg, List.length_map]
    · rw [unpadded_packetHeader, List.length_append, RTCPCommonHeader.length_toBytes]
  refine ⟨_, RTCPSDESPacket_of_form hform, ?_⟩
  have hread : (g.map toChunk).map WireChunk.read = g.map SourceInput.read := by
    rw [List.map_map]
    rfl
  simp only [RTCPPacket.read, RTCPPacket.known_knownformat, not_true_eq_false, if_false,
    RTCPPacket.known_packettype, readSDES_of_form hform, hread, Option.map_some]

theorem says_app (a : AppInput) : Says (RTP_RTCPTYPE_APP, a.toBytes) a.read := by
  have hname := a.name_eq
  obtain ⟨data, hdata⟩ : ∃ data, data = a.toBytes := ⟨_, rfl⟩
  have hread : RTCPCommonHeader.read data =
      some (packetHeader a.subtype.toNat RTP_RTCPTYPE_APP (a.appdata.length / 4 + 3)) :=
    hdata ▸ RTCPCommonHeader.read_toBytes _ _
  have hbody : StandsAt data sizeofRTCPCommonHeader (put a.ssrc ++ (a.name ++ a.appdata)) :=
    hdata ▸ standsAt_body _ _ _ _
  have hnamed := hbody.right.left
  have happ := hbody.right.right
  rw [length_put] at hnamed happ
  rw [hname] at happ
  have hlen : data.length = sizeofRTCPCommonHeader + 4 * 2 + a.appdata.length := by
    simp only [hdata, AppInput.toBytes, RTCPCompoundPacketBuilder.appPacket, List.length_append,
      RTCPCommonHeader.length_toBytes, length_put, WireWord.width, hname]
    omega
  have hcount : (packetHeader a.subtype.toNat RTP_RTCPTYPE_APP (a.appdata.length / 4 + 3)).count =
      a.subtype.toBitVec.setWidth 5 := BitVec.ofNat_toNat 5 a.subtype.toBitVec
  rw [← hdata]
  refine ⟨⟨.app, data, true, 0, a.appdata.length⟩, ?_, ?_⟩
  · show RTCPAPPPacket data = _
    simp only [RTCPAPPPacket, hread, unpadded_packetHeader, Option.bind_eq_bind, Option.bind_some,
      hlen]
    rw [if_neg (by omega), Nat.add_sub_cancel_left]
    rfl
  · have hssrc := word_of_stands (p := ⟨.app, data, true, 0, a.appdata.length⟩) rfl hbody.left
    have hgetName : RTCPPacket.getName ⟨.app, data, true, 0, a.appdata.length⟩ = some a.name := by
      rw [RTCPPacket.getName, if_neg (not_not_intro rfl)]
      exact hnamed.slice hname
    have hgetData : RTCPPacket.getAPPData ⟨.app, data, true, 0, a.appdata.length⟩ =
        some a.appdata := by
      rw [RTCPPacket.getAPPData, if_neg (not_not_intro rfl)]
      split
      · rename_i hzero
        rw [List.length_eq_zero_iff.mp hzero]
      · exact happ.slice rfl
    simp only [RTCPPacket.read, not_true_eq_false, if_false, hread, RTCPPacket.getSenderSSRC, hssrc,
      hgetName, hgetData, hcount, AppInput.read, Option.bind_eq_bind, Option.bind_some]
    rfl

theorem getSSRCs_of_stands {p : RTCPPacket} (hknown : p.knownformat = true) {ssrcs : List UInt32}
    (hcount : p.count = some ssrcs.length)
    (h : StandsAt p.data sizeofRTCPCommonHeader (putMany ssrcs)) : p.getSSRCs = some ssrcs := by
  simp only [RTCPPacket.getSSRCs, hcount, Option.bind_eq_bind, Option.bind_some]
  apply mapM_range
  intro index hindex
  have hword := standsAt_record (n := 4) (fun x ↦ length_put x) h hindex
  rw [Nat.mul_comm] at hword
  exact word_of_stands hknown hword

/-- Without a reason the packet ends behind its sources. -/
theorem says_bye (b : ByeInput) : Says (RTP_RTCPTYPE_BYE, b.toBytes) b.read := by
  have hreason := b.reason_le
  obtain ⟨offset, hoffset⟩ : ∃ n, n = sizeofRTCPCommonHeader + 4 * b.ssrcs.length := ⟨_, rfl⟩
  obtain ⟨data, hdata⟩ : ∃ data, data = b.toBytes := ⟨_, rfl⟩
  have hread : RTCPCommonHeader.read data = some (packetHeader b.ssrcs.length RTP_RTCPTYPE_BYE
      ((offset + (RTCPCompoundPacketBuilder.reasonBytes offset b.reason).length) / 4)) := by
    rw [hdata, hoffset]
    exact RTCPCommonHeader.read_toBytes _ _
  have hbody : StandsAt data sizeofRTCPCommonHeader
      (putMany b.ssrcs ++ RTCPCompoundPacketBuilder.reasonBytes offset b.reason) := by
    rw [hdata, hoffset]
    exact standsAt_body _ _ _ _
  have hlen : data.length = offset + (RTCPCompoundPacketBuilder.reasonBytes offset b.reason).length := by
    rw [hdata, hoffset]
    simp only [ByeInput.toBytes, RTCPCompoundPacketBuilder.byePacket, List.length_append,
      RTCPCommonHeader.length_toBytes, length_putMany, WireWord.width]
    omega
  have hstands := hbody.right
  rw [length_putMany, show WireWord.width UInt32 = 4 from rfl, ← hoffset] at hstands
  have hcount := count_packetHeader RTP_RTCPTYPE_BYE
    ((offset + (RTCPCompoundPacketBuilder.reasonBytes offset b.reason).length) / 4) b.ssrcs_le
  have hssrclen : b.ssrcs.length * 4 + sizeofRTCPCommonHeader = offset := by omega
  have hssrcs : ∀ reasonoffset,
      RTCPPacket.getSSRCs ⟨.bye, data, true, reasonoffset, 0⟩ = some b.ssrcs := fun reasonoffset ↦
    getSSRCs_of_stands rfl (by simp [RTCPPacket.count, hread, hcount]) hbody.left
  rw [← hdata]
  by_cases hpos : b.reason.length > 0
  · have hbytes : RTCPCompoundPacketBuilder.reasonBytes offset b.reason =
        put (UInt8.ofNat b.reason.length) ++ (b.reason ++
          List.replicate (alignment (offset + 1 + b.reason.length)) 0) := if_pos hpos
    have hbyte : (UInt8.ofNat b.reason.length).toNat = b.reason.length := by
      rw [UInt8.toNat_ofNat', Nat.mod_eq_of_lt (by omega)]
    have hlonger : offset + 1 + b.reason.length ≤ data.length := by
      rw [hlen, hbytes]
      simp only [List.length_append, length_put, WireWord.width]
      omega
    rw [hbytes] at hstands
    have hget := hstands.left.get
    refine ⟨⟨.bye, data, true, offset, 0⟩, ?_, ?_⟩
    · show RTCPBYEPacket data = _
      simp only [RTCPBYEPacket, hread, unpadded_packetHeader, Option.bind_eq_bind,
        Option.bind_some, hcount, hssrclen, hget, hbyte]
      rw [if_neg (by omega), if_pos (by omega), if_neg (by omega)]
      rfl
    · have hne : UInt8.ofNat b.reason.length ≠ 0 := fun hno ↦ by
        have := congrArg UInt8.toNat hno
        rw [hbyte] at this
        exact Nat.ne_of_gt hpos this
      have hgetReason : RTCPPacket.getReason ⟨.bye, data, true, offset, 0⟩ = some b.reason := by
        have hzero : ¬ offset = 0 := by
          unfold sizeofRTCPCommonHeader at hoffset
          omega
        simp only [RTCPPacket.getReason, not_true_eq_false, if_false, if_neg hzero, hget,
          Option.bind_eq_bind, Option.bind_some, hbyte, if_neg hne]
        exact hstands.right.left.slice rfl
      simp only [RTCPPacket.read, not_true_eq_false, if_false, hssrcs, hgetReason, ByeInput.read,
        Option.bind_eq_bind, Option.bind_some]
      rfl
  · have hbytes : RTCPCompoundPacketBuilder.reasonBytes offset b.reason = [] := if_neg hpos
    rw [hbytes, List.length_nil, Nat.add_zero] at hlen
    refine ⟨.known .bye data, ?_, ?_⟩
    · show RTCPBYEPacket data = _
      simp only [RTCPBYEPacket, hread, unpadded_packetHeader, Option.bind_eq_bind,
        Option.bind_some, hcount, hssrclen]
      rw [if_neg (by omega), if_neg (by omega)]
      rfl
    · have hgetReason : RTCPPacket.getReason ⟨.bye, data, true, 0, 0⟩ = some b.reason := by
        rw [List.length_eq_zero_iff.mp (Nat.eq_zero_of_not_pos hpos)]
        rfl
      simp only [RTCPPacket.read, RTCPPacket.known, not_true_eq_false, if_false, hssrcs, hgetReason,
        ByeInput.read, Option.bind_eq_bind, Option.bind_some]
      rfl

end Says

section EndBuild

variable {i : Input} {maximumpacketsize : ℕ} {external : Bool}

theorem says_report {ssrc : UInt32} {info : Option SenderInfo} (h : i.report = some (ssrc, info))
    {g : List ReportBlock} (hg : g.length ≤ 31) :
    Says (i.toReport.packet true (g.map reportBlockBytes))
        (firstReport ssrc info (g.map keptBlock)) ∧
      Says (i.toReport.packet false (g.map reportBlockBytes)) (.rr ssrc (g.map keptBlock)) := by
  obtain ⟨report, blocks, sources, apps, byes, hnil⟩ := i
  cases h
  have hflatten : (g.map reportBlockBytes).flatten = g.flatMap reportBlockBytes :=
    (List.flatMap_def ..).symm
  have hssrc : (put ssrc).take 4 = put ssrc := List.take_of_length_le (Nat.le_of_eq (length_put ssrc))
  cases info with
  | none =>
    simp only [Report.packet, Input.toReport, isSender, reportHeader, Bool.false_eq_true, and_false,
      if_false, List.length_map, hssrc, hflatten, firstReport]
    exact ⟨says_rr ssrc hg, says_rr ssrc hg⟩
  | some info =>
    have htake : (put ssrc ++ senderInfoBytes info).take 4 = put ssrc :=
      List.take_left' (length_put ssrc)
    simp only [Report.packet, Input.toReport, isSender, reportHeader, Bool.false_eq_true, and_true,
      if_false, if_true, List.length_map, htake, hflatten, firstReport]
    exact ⟨says_sr ssrc info hg, says_rr ssrc hg⟩

theorem forall₂_map {α β γ : Type} {r : β → γ → Prop} {f : α → β} {g : α → γ} {l : List α}
    (h : ∀ a ∈ l, r (f a) (g a)) : List.Forall₂ r (l.map f) (l.map g) := by
  rw [List.forall₂_map_left_iff, List.forall₂_map_right_iff, List.forall₂_same]
  exact h

/-- The packets that are written say what the builder was told. -/
theorem says_packets (maximumpacketsize : ℕ) (external : Bool) (h : i.report ≠ none) :
    List.Forall₂ Says (i.builder maximumpacketsize external).packets i.contents.packets := by
  obtain ⟨⟨ssrc, info⟩, hreport⟩ := Option.ne_none_iff_exists'.mp h
  obtain ⟨g, gs, hg⟩ := exists_groups_cons 31 i.blocks
  have hmem : ∀ g' ∈ g :: gs, g'.length ≤ 31 := fun g' hg' ↦
    length_of_mem_groups (by decide) (hg ▸ hg')
  have hreports : List.Forall₂ Says i.toReport.packets
      (firstReport ssrc info (g.map keptBlock) :: gs.map fun g ↦ .rr ssrc (g.map keptBlock)) := by
    have hgroups : groups 31 i.toReport.reportblocks = _ := groups_map 31 reportBlockBytes i.blocks
    rw [hg] at hgroups
    rw [packets_cons hgroups, List.map_map]
    apply List.Forall₂.cons
    · exact (says_report hreport (hmem g List.mem_cons_self)).1
    · exact forall₂_map fun g' hg' ↦ (says_report hreport (hmem g' (List.mem_cons_of_mem _ hg'))).2
  have hsdes : List.Forall₂ Says (SDES.packets (i.sources.map SourceInput.toSource))
      (if i.sources.map SourceInput.read = [] then []
        else (groups 31 (i.sources.map SourceInput.read)).map .sdes) := by
    unfold SDES.packets
    simp only [List.map_eq_nil_iff]
    split
    · exact .nil
    · rw [groups_map, groups_map, List.map_map, List.map_map]
      exact forall₂_map fun g hg ↦ says_sdes (length_of_mem_groups (by decide) hg)
  have happs : List.Forall₂ Says ((i.apps.map AppInput.toBytes).map fun p ↦ (RTP_RTCPTYPE_APP, p))
      (i.apps.map AppInput.read) := by
    rw [List.map_map]
    exact forall₂_map fun a _ ↦ says_app a
  have hbyes : List.Forall₂ Says ((i.byes.map ByeInput.toBytes).map fun p ↦ (RTP_RTCPTYPE_BYE, p))
      (i.byes.map ByeInput.read) := by
    rw [List.map_map]
    exact forall₂_map fun b _ ↦ says_bye b
  have hcontents : i.contents.packets =
      (firstReport ssrc info (g.map keptBlock) :: gs.map fun g ↦ .rr ssrc (g.map keptBlock)) ++
        ((if i.sources.map SourceInput.read = [] then []
          else (groups 31 (i.sources.map SourceInput.read)).map .sdes) ++
        (i.apps.map AppInput.read ++ i.byes.map ByeInput.read)) := by
    simp only [Contents.packets, Input.contents, hreport, groups_map 31 keptBlock, hg, List.map_cons,
      List.map_map]
    rfl
  rw [hcontents]
  exact List.rel_append hreports (List.rel_append hsdes (List.rel_append happs hbyes))

theorem mapM_of_says {ps : List (BitVec 8 × List UInt8)} {cs : List Content}
    (h : List.Forall₂ Says ps cs) :
    ∃ qs, (ps.mapM fun p ↦ RTCPPacket.ofData p.1 p.2) = some qs ∧
      qs.mapM RTCPPacket.read = some cs := by
  induction h with
  | nil => exact ⟨[], rfl, rfl⟩
  | cons hp hps ih =>
    obtain ⟨q, hq, hread⟩ := hp
    obtain ⟨qs, hqs, hreads⟩ := ih
    refine ⟨q :: qs, ?_, ?_⟩
    · rw [List.mapM_cons, hq, hqs]
      rfl
    · rw [List.mapM_cons, hread, hreads]
      rfl

/-- A packet that a header can tell the length of is a frame without padding. -/
theorem frame_of_headed {p : BitVec 8 × List UInt8} (h : Headed p) (hle : p.2.length ≤ 2 ^ 18)
    {first : Bool} (hfirst : first = true → p.1 = RTP_RTCPTYPE_SR ∨ p.1 = RTP_RTCPTYPE_RR) :
    ∃ hdr, Frame first p.2 hdr ∧ hdr.padding = 0 ∧ hdr.packettype = p.1 := by
  obtain ⟨count, words, body, hpos, hbytes, hlen⟩ := h
  refine ⟨packetHeader count p.1 words, ⟨?_, rfl, hfirst, ?_⟩, rfl, rfl⟩
  · rw [hbytes]
    exact RTCPCommonHeader.read_toBytes _ _
  · have hwords : (UInt16.ofNat (words - 1)).toNat = words - 1 := by
      rw [UInt16.toNat_ofNat', Nat.mod_eq_of_lt (by omega)]
    simp only [packetHeader, hwords, hlen]
    omega

theorem frames_of_headed {p : BitVec 8 × List UInt8} {ps : List (BitVec 8 × List UInt8)}
    (h : ∀ q ∈ p :: ps, Headed q ∧ q.2.length ≤ 2 ^ 18) {first : Bool}
    (hfirst : first = true → p.1 = RTP_RTCPTYPE_SR ∨ p.1 = RTP_RTCPTYPE_RR) :
    Frames first ((p :: ps).map Prod.snd) := by
  induction ps generalizing p first with
  | nil =>
    obtain ⟨hheaded, hle⟩ := h p List.mem_cons_self
    obtain ⟨hdr, hframe, -, -⟩ := frame_of_headed hheaded hle hfirst
    exact .last hframe
  | cons q ps ih =>
    obtain ⟨hheaded, hle⟩ := h p List.mem_cons_self
    obtain ⟨hdr, hframe, hpad, -⟩ := frame_of_headed hheaded hle hfirst
    exact .cons hframe hpad
      (ih (fun r hr ↦ h r (List.mem_cons_of_mem _ hr)) fun hno ↦ (Bool.false_ne_true hno).elim)

theorem framePacket_of_headed {p : BitVec 8 × List UInt8} (h : Headed p) :
    framePacket p.2 = RTCPPacket.ofData p.1 p.2 := by
  obtain ⟨count, words, body, -, hbytes, -⟩ := h
  have hread : RTCPCommonHeader.read p.2 = some (packetHeader count p.1 words) := by
    rw [hbytes]
    exact RTCPCommonHeader.read_toBytes _ _
  simp only [framePacket, hread, Option.bind_eq_bind, Option.bind_some]
  rfl

/-- The first packet is a report. -/
theorem packets_report (maximumpacketsize : ℕ) (external : Bool) (i : Input) : ∃ p ps,
    (i.builder maximumpacketsize external).packets = p :: ps ∧
      (p.1 = RTP_RTCPTYPE_SR ∨ p.1 = RTP_RTCPTYPE_RR) := by
  obtain ⟨g, gs, hg⟩ := exists_groups_cons 31 i.toReport.reportblocks
  have hpackets : (i.builder maximumpacketsize external).report.packets =
      i.toReport.packet true g :: gs.map (i.toReport.packet false) := packets_cons hg
  refine ⟨i.toReport.packet true g, _, hpackets ▸ List.cons_append, ?_⟩
  · simp only [Report.packet]
    split
    · exact .inl rfl
    · exact .inr rfl

/-- What a build leaves behind. -/
theorem endBuild_eq_ok {b b' : RTCPCompoundPacketBuilder} (h : b.endBuild = some (.ok b')) :
    b.report.headerlength ≠ 0 ∧
      b'.compoundpacket = some (b.packets.map Prod.snd).flatten ∧
      b'.compoundpacketlength = b.length ∧
      (b.packets.mapM fun p ↦ RTCPPacket.ofData p.1 p.2) = some b'.rtcppacklist := by
  unfold RTCPCompoundPacketBuilder.endBuild at h
  split at h
  · cases h
  · split at h
    · cases h
    · rename_i hheader
      simp only at h
      by_cases hfit : (b.packets.map Prod.snd).flatten.length >
          if b.external = true then b.maximumpacketsize else b.length
      · rw [if_pos hfit] at h
        cases h
      · rw [if_neg hfit] at h
        simp only [Option.bind_eq_bind, Option.bind_eq_some_iff, Option.pure_def,
          Option.some.injEq] at h
        obtain ⟨qs, hqs, hok⟩ := h
        cases hok
        exact ⟨hheader, rfl, rfl, hqs⟩

theorem mapM_map_congr {ps : List (BitVec 8 × List UInt8)} (h : ∀ p ∈ ps, Headed p) :
    (ps.map Prod.snd).map framePacket = ps.map fun p ↦ RTCPPacket.ofData p.1 p.2 := by
  rw [List.map_map]
  exact List.map_congr_left fun p hp ↦ framePacket_of_headed (h p hp)

theorem sdes_le_of_fits (hfits : Fits (i.builder maximumpacketsize external))
    (hmax : maximumpacketsize ≤ 2 ^ 18) :
    SDES.neededBytes (i.sources.map SourceInput.toSource) ≤ 2 ^ 18 := by
  obtain hfits | ⟨⟨ssrc, hone⟩, -⟩ := hfits
  · simp only [RTCPCompoundPacketBuilder.length, Input.builder] at hfits
    omega
  · have hsdes : i.sources.map SourceInput.toSource = [SDESSource.new ssrc] := hone
    have hnew : (SDESSource.new ssrc).neededBytes = 8 := rfl
    rw [hsdes]
    simp [SDES.neededBytes, hnew, groupCount, sizeofRTCPCommonHeader]

/-- What has been built is accepted as a compound packet, of the packets that the builder
lists itself, and reading them tells all that was added, and nothing else. -/
theorem endBuild_parse {b b' : RTCPCompoundPacketBuilder}
    (h : RTCPCompoundPacketBuilder.new.initBuild external maximumpacketsize = .ok b)
    (hmax : maximumpacketsize ≤ 2 ^ 18) (calls : List Call)
    (hend : (run b calls).1.endBuild = some (.ok b')) :
    ∃ data, b'.compoundpacket = some data ∧ data.length = b'.compoundpacketlength ∧
      parseData data = some (.ok b'.rtcppacklist) ∧
      b'.rtcppacklist.mapM RTCPPacket.read = some (run b calls).2.packets := by
  obtain ⟨i, hrun, hfits⟩ := run_of_new h calls
  rw [hrun] at hend ⊢
  obtain ⟨hheader, hdata, hlen, hqs⟩ := endBuild_eq_ok hend
  have hsome : i.report ≠ none := fun hno ↦ hheader (reportHeader_eq_nil.mpr hno)
  refine ⟨_, hdata, (length_packets _ _ hsome).trans hlen.symm, ?_, ?_⟩
  · obtain ⟨p, ps, hpackets, htype⟩ := packets_report maximumpacketsize external i
    have hheaded : ∀ q ∈ p :: ps, Headed q ∧ q.2.length ≤ 2 ^ 18 := fun q hq ↦
      ⟨headed_packets hsome (hpackets ▸ hq),
        length_packet_le hsome (sdes_le_of_fits hfits hmax) (hpackets ▸ hq)⟩
    apply parseData_of_frames
    · rw [hpackets]
      exact frames_of_headed hheaded fun _ ↦ htype
    · rw [mapM_eq_some, mapM_map_congr fun p hp ↦ headed_packets hsome hp]
      exact mapM_eq_some.mp hqs
  · obtain ⟨qs, hqs', hread⟩ := mapM_of_says
      (says_packets maximumpacketsize external hsome)
    rw [hqs, Option.some.injEq] at hqs'
    exact hqs' ▸ hread

theorem length_reasonName : [98, 121, 101].length ≤ 255 := by decide

def goodbyeCalls : List Call :=
  [.addSDESSource 7, .startSenderReport 7 ⟨1, 2, 3, 4, 5⟩,
    .addReportBlock ⟨9, 1, -2, 100, 0, 0, 0⟩,
    .addSDESNormalItem .cname ⟨[98, 121, 101], length_reasonName⟩,
    .addBYEPacket [7] ⟨[98, 121, 101], length_reasonName⟩]

theorem endBuild_parse_goodbye : ∃ b' data,
    (run (Input.empty.builder 600 false) goodbyeCalls).1.endBuild = some (.ok b') ∧
      b'.compoundpacket = some data ∧ parseData data = some (.ok b'.rtcppacklist) ∧
      b'.rtcppacklist.mapM RTCPPacket.read = some
        [.sr 7 ⟨1, 2, 3, 4, 5⟩ [⟨9, 1, -2, 100, 0, 0, 0⟩],
          .sdes [⟨7, [.normal .cname [98, 121, 101]]⟩], .bye [7] [98, 121, 101]] := by
  obtain ⟨b', hend⟩ : ∃ b', (run (Input.empty.builder 600 false) goodbyeCalls).1.endBuild =
      some (.ok b') := ⟨_, rfl⟩
  obtain ⟨data, hdata, -, hparse, hread⟩ := endBuild_parse (b := Input.empty.builder 600 false)
    (show RTCPCompoundPacketBuilder.new.initBuild false 600 = .ok _ from rfl) (by decide)
    goodbyeCalls hend
  exact ⟨b', data, hend, hdata, hparse, hread⟩

end EndBuild

end VirtualCamera.Rtp.CompoundRoundTrip
