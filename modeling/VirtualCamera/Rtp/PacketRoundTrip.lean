import VirtualCamera.Rtp.PacketFormat

namespace VirtualCamera.Rtp.PacketRoundTrip

open Library.Memory Library.Wire Packet PacketFormat
open PacketBuilder (RTPError RTP_MAXCSRCS ValidPayloadType)

/-- What the accessors of a packet tell. -/
structure Contents where
  hasmarker : Bool
  payloadtype : UInt8
  seqnr : UInt16
  timestamp : UInt32
  ssrc : UInt32
  csrcs : List UInt32
  extension : Option HeaderExtension
  payload : List UInt8
  deriving DecidableEq

/-- The extension's length comes in words. -/
def headerExtension (q : RTPPacket) (extensiondata : List UInt8) : Option HeaderExtension :=
  if h : extensiondata.length = 4 * (UInt16.ofNat (q.extensionlength / 4)).toNat then
    some ⟨q.extid, _, extensiondata, h⟩
  else none

def contents (q : RTPPacket) : Option Contents := do
  let csrcs ← (List.range q.numcsrcs).mapM fun i : ℕ ↦ q.getCSRC i
  let extensiondata ← q.getExtensionData
  let payload ← q.getPayloadData
  return { hasmarker := q.hasmarker, payloadtype := q.payloadtype,
           seqnr := q.extseqnr.toUInt16, timestamp := q.timestamp, ssrc := q.ssrc, csrcs,
           extension := extensiondata.bind (headerExtension q), payload }

def Contents.build (c : Contents) (maxsize : ℕ) : Except RTPError RTPPacket :=
  RTPPacket.buildPacket c.payloadtype c.payload c.seqnr c.timestamp c.ssrc c.hasmarker c.csrcs
    c.extension maxsize

def wireContents (w : WirePacket) : Contents :=
  { hasmarker := w.marker, payloadtype := UInt8.ofBitVec (w.payloadtype.setWidth 8),
    seqnr := w.seqnr, timestamp := w.timestamp, ssrc := w.ssrc, csrcs := w.csrcs,
    extension := w.extension, payload := w.payload }

theorem headerExtension_packet (w : WirePacket) {e : HeaderExtension} (he : w.extension = some e) :
    headerExtension w.packet e.extensiondata = some e := by
  have hwords : w.packet.extensionlength = 4 * e.extensionlen_numwords.toNat := by
    simp [WirePacket.packet, he]
  have hnum : UInt16.ofNat (w.packet.extensionlength / 4) = e.extensionlen_numwords := by
    rw [hwords, Nat.mul_div_cancel_left _ (by decide), UInt16.ofNat_toNat]
  have hid : w.packet.extid = e.extensionid := by simp [WirePacket.packet, he]
  have hlen : e.extensiondata.length =
      4 * (UInt16.ofNat (w.packet.extensionlength / 4)).toNat := hnum ▸ e.length_eq
  unfold headerExtension
  rw [dif_pos hlen]
  simp only [hid, hnum]

/-- The accessors of a received packet give what it says. -/
theorem contents_packet (w : WirePacket) : contents w.packet = some (wireContents w) := by
  have hcsrcs : ((List.range w.packet.numcsrcs).mapM fun i : ℕ ↦ w.packet.getCSRC i) =
      some w.csrcs := by
    have hget : (fun i : ℕ ↦ w.packet.getCSRC i) = fun i ↦ pure (w.csrcs[i]?.getD 0) :=
      funext (getCSRC_packet w)
    rw [hget, List.mapM_pure]
    apply congrArg some
    apply List.ext_getElem
    · simp [WirePacket.packet]
    · intro i h₁ h₂
      simp [h₂]
  have hext : (w.extension.map HeaderExtension.extensiondata).bind (headerExtension w.packet) =
      w.extension := by
    cases he : w.extension with
    | none => rfl
    | some e => exact headerExtension_packet w he
  unfold contents
  rw [hcsrcs, Option.bind_eq_bind, Option.bind_some, getExtensionData_packet,
    Option.bind_eq_bind, Option.bind_some, getPayloadData_packet, Option.bind_eq_bind,
    Option.bind_some, hext]
  simp only [wireContents, WirePacket.packet, UInt16.toUInt16_toUInt32]
  rfl

section Build

theorem setWidth_low (x : BitVec 8) (h : ¬ UInt8.ofBitVec x > 127) :
    ((x &&& 127).extractLsb' 0 7).setWidth 8 = x := by
  revert x
  decide +kernel

theorem low_eq (x : BitVec 8) (r : BitVec 7) (h : ¬ UInt8.ofBitVec x > 127)
    (h' : (x &&& 127).extractLsb' 0 7 = r) : x = r.setWidth 8 := by
  rw [← h', setWidth_low x h]

/-- The low seven bits of a payload type and back. -/
theorem ofBitVec_low {pt : UInt8} (h : ¬ pt > 127) :
    UInt8.ofBitVec (((pt &&& 127).toBitVec.extractLsb' 0 7).setWidth 8) = pt :=
  congrArg UInt8.ofBitVec (setWidth_low pt.toBitVec h)

theorem low_ne_rtcp {pt : UInt8} (h : ValidPayloadType pt) :
    ¬ ((pt &&& 127).toBitVec.extractLsb' 0 7 = (RTP_RTCPTYPE_SR &&& 127).setWidth 7 ∨
      (pt &&& 127).toBitVec.extractLsb' 0 7 = (RTP_RTCPTYPE_RR &&& 127).setWidth 7) := by
  rintro (hr | hr)
  · exact h.2 (.inl (congrArg UInt8.ofBitVec (low_eq pt.toBitVec _ h.1 hr)))
  · exact h.2 (.inr (congrArg UInt8.ofBitVec (low_eq pt.toBitVec _ h.1 hr)))

/-- The packet of the format that building lays out: it has no padding. -/
def Contents.wirePacket (c : Contents) (hcsrcs : c.csrcs.length ≤ RTP_MAXCSRCS) : WirePacket :=
  { marker := c.hasmarker
    payloadtype := (c.payloadtype &&& 127).toBitVec.extractLsb' 0 7
    seqnr := c.seqnr, timestamp := c.timestamp, ssrc := c.ssrc, csrcs := c.csrcs
    csrcs_le := hcsrcs
    extension := c.extension, payload := c.payload, padding := none }

theorem wirePacket_spec (c : Contents) (hcsrcs : c.csrcs.length ≤ RTP_MAXCSRCS)
    (hpt : ValidPayloadType c.payloadtype) :
    (c.wirePacket hcsrcs).toBytes = (RTPPacket.filled c.payloadtype c.payload c.seqnr c.timestamp
        c.ssrc c.hasmarker c.csrcs c.extension).packet ∧
      wireContents (c.wirePacket hcsrcs) = c ∧
      ¬ (c.wirePacket hcsrcs).header.looksLikeRTCP := by
  refine ⟨?_, ?_, fun hrtcp ↦ low_ne_rtcp hpt hrtcp.2⟩
  · rw [WirePacket.toBytes_eq]
    simp only [Contents.wirePacket, paddingBytes, List.append_nil]
    rfl
  · simp only [wireContents, Contents.wirePacket, ofBitVec_low hpt.1]

/-- What was built is parsed back, and says the same. -/
theorem parse_build {c : Contents} {maxsize : ℕ} {p : RTPPacket} (h : c.build maxsize = .ok p)
    (hlen : p.packet.length ≤ INT_MAX) :
    ∃ q, RTPPacket.parseRawPacket ⟨true, p.packet⟩ = some (.ok q) ∧ contents q = some c := by
  obtain ⟨hcsrcs, hpt, rfl⟩ := RTPPacket.buildPacket_ok h
  obtain ⟨hbytes, hw, hrtcp⟩ := wirePacket_spec c hcsrcs hpt
  rw [← hbytes] at hlen ⊢
  refine ⟨_, WirePacket.parse_toBytes _ hrtcp hlen, ?_⟩
  rw [contents_packet, hw]

theorem length_plainExtension : ([1, 2, 3, 4] : List UInt8).length = (1 : UInt16).toNat * 4 := rfl

def plainContents : Contents :=
  { hasmarker := true, payloadtype := 96, seqnr := 65535, timestamp := 7, ssrc := 9,
    csrcs := [3, 4], extension := some ⟨1, 1, [1, 2, 3, 4], length_plainExtension⟩,
    payload := [5] }

theorem parse_build_plain : ∃ p q, plainContents.build 1400 = .ok p ∧
    RTPPacket.parseRawPacket ⟨true, p.packet⟩ = some (.ok q) ∧ contents q = some plainContents := by
  have hbuild : ∃ p, plainContents.build 1400 = .ok p ∧ p.packet.length ≤ INT_MAX :=
    ⟨_, rfl, by decide⟩
  obtain ⟨p, hp, hlen⟩ := hbuild
  obtain ⟨q, hq, hc⟩ := parse_build hp hlen
  exact ⟨p, q, hp, hq, hc⟩

/-- The sender's object does not know where its extension is. -/
theorem getExtensionData_build {c : Contents} {maxsize : ℕ} {p : RTPPacket}
    (h : c.build maxsize = .ok p) : p.getExtensionData = some none := by
  obtain ⟨-, -, rfl⟩ := RTPPacket.buildPacket_ok h
  rfl

end Build

section Rebuild

/-- A packet of the format without its padding. -/
def unpadded (w : WirePacket) : WirePacket := { w with padding := none }

theorem low_ofBitVec (x : BitVec 7) :
    (UInt8.ofBitVec (x.setWidth 8) &&& 127).toBitVec.extractLsb' 0 7 = x := by
  revert x
  decide +kernel

theorem ofBitVec_le (x : BitVec 7) : ¬ UInt8.ofBitVec (x.setWidth 8) > 127 := by
  revert x
  decide +kernel

theorem build_wireContents (w : WirePacket)
    (hpt : ¬ ((wireContents w).payloadtype = 72 ∨ (wireContents w).payloadtype = 73)) :
    ∃ p, (wireContents w).build 0 = .ok p ∧ p.packet = (unpadded w).toBytes := by
  refine ⟨RTPPacket.filled (wireContents w).payloadtype w.payload w.seqnr w.timestamp w.ssrc
    w.marker w.csrcs w.extension, ?_, ?_⟩
  · have hpt' : ¬ (wireContents w).payloadtype > 127 := ofBitVec_le _
    have hcsrcs : ¬ (wireContents w).csrcs.length > RTP_MAXCSRCS := not_lt.mpr w.csrcs_le
    simp only [Contents.build, RTPPacket.buildPacket]
    rw [if_neg hcsrcs, if_neg hpt', if_neg hpt, if_neg (by simp)]
    rfl
  · rw [WirePacket.toBytes_eq]
    simp only [RTPPacket.filled, unpadded, paddingBytes, List.append_nil, RTPPacket.buildHeader,
      wireContents, low_ofBitVec]
    rfl

/-- Only the first byte and the padding itself depend on the padding. -/
theorem toBytes_unpadded (w : WirePacket) :
    w.toBytes.drop 1 = (unpadded w).toBytes.drop 1 ++ paddingBytes w.padding := by
  simp only [WirePacket.toBytes_eq, RTPHeader.toBytes, put_byte, List.cons_append, List.nil_append,
    List.drop_one, List.tail_cons, unpadded, WirePacket.header, paddingBytes, List.append_assoc]

/-- What was parsed can be built again: it says the same, only the padding is gone. -/
theorem build_parse {raw : RTPRawPacket} {q : RTPPacket} (hlen : raw.data.length ≤ INT_MAX)
    (h : RTPPacket.parseRawPacket raw = some (.ok q))
    (hpt : ¬ (q.payloadtype = 72 ∨ q.payloadtype = 73)) :
    ∃ (w : WirePacket) (c : Contents) (p : RTPPacket),
      w.toBytes = raw.data ∧ w.packet = q ∧ contents q = some c ∧ c.build 0 = .ok p ∧
        p.packet = (unpadded w).toBytes ∧
        raw.data.drop 1 = p.packet.drop 1 ++ paddingBytes w.padding ∧
        (w.padding = none → raw.data = p.packet) := by
  obtain ⟨-, w, -, hbytes, rfl⟩ := exists_of_parse hlen h
  obtain ⟨p, hp, hpacket⟩ := build_wireContents w hpt
  refine ⟨w, wireContents w, p, hbytes, rfl, contents_packet w, hp, hpacket, ?_, fun hpad ↦ ?_⟩
  · rw [← hbytes, hpacket, toBytes_unpadded]
  · rw [← hbytes, hpacket, unpadded, ← hpad]

theorem build_parse_padded :
    ∃ (w : WirePacket) (c : Contents) (p : RTPPacket),
      w.toBytes = paddedPacket.toBytes ∧ contents paddedPacket.packet = some c ∧
        c.build 0 = .ok p ∧ p.packet = (unpadded w).toBytes ∧
        paddedPacket.toBytes.drop 1 = p.packet.drop 1 ++ paddingBytes w.padding := by
  have hlen : paddedPacket.toBytes.length ≤ INT_MAX := by decide
  have hparse := paddedPacket.parse_toBytes (by decide) hlen
  obtain ⟨w, c, p, hw, -, hc, hp, hpacket, hdrop, -⟩ := build_parse hlen hparse (by decide)
  exact ⟨w, c, p, hw, hc, hp, hpacket, hdrop⟩

end Rebuild

end VirtualCamera.Rtp.PacketRoundTrip
