import VirtualCamera.Library.Memory
import VirtualCamera.Library.Wire
import VirtualCamera.Rtp.PacketBuilder

namespace VirtualCamera.Rtp.Packet

open Library.Memory Library.Wire
open PacketBuilder (RTPError RTP_MAXCSRCS ValidPayloadType)

def ERR_RTP_PACKET_INVALIDPACKET : ℤ := -25

def RTP_VERSION : BitVec 2 := 2

def RTP_RTCPTYPE_SR : BitVec 8 := 200

def RTP_RTCPTYPE_RR : BitVec 8 := 201

def sizeofRTPHeader : ℕ := 12

def sizeofRTPExtensionHeader : ℕ := 4

/-- The bit fields as a little-endian target lays them out: the first one declared
takes the lowest bits of its byte. -/
structure RTPHeader where
  csrccount : BitVec 4
  extension : BitVec 1
  padding : BitVec 1
  version : BitVec 2
  payloadtype : BitVec 7
  marker : BitVec 1
  sequencenumber : UInt16
  timestamp : UInt32
  ssrc : UInt32
  deriving DecidableEq

def RTPHeader.toBytes (h : RTPHeader) : List UInt8 :=
  put (UInt8.ofBitVec (h.version ++ h.padding ++ h.extension ++ h.csrccount)) ++
    (put (UInt8.ofBitVec (h.marker ++ h.payloadtype)) ++
      (put h.sequencenumber ++ (put h.timestamp ++ put h.ssrc)))

def RTPHeader.ofWords (flags markerAndType : UInt8) (sequencenumber : UInt16)
    (timestamp ssrc : UInt32) : RTPHeader :=
  { csrccount := flags.toBitVec.extractLsb' 0 4
    extension := flags.toBitVec.extractLsb' 4 1
    padding := flags.toBitVec.extractLsb' 5 1
    version := flags.toBitVec.extractLsb' 6 2
    payloadtype := markerAndType.toBitVec.extractLsb' 0 7
    marker := markerAndType.toBitVec.extractLsb' 7 1
    sequencenumber, timestamp, ssrc }

/-- The header the packet's first bytes are read as. -/
def RTPHeader.read (packetbytes : List UInt8) : Option RTPHeader := do
  let flags ← get 0 packetbytes
  let markerAndType ← get 1 packetbytes
  let sequencenumber ← get 2 packetbytes
  let timestamp ← get 4 packetbytes
  let ssrc ← get 8 packetbytes
  return RTPHeader.ofWords flags markerAndType sequencenumber timestamp ssrc

structure RTPRawPacket where
  isrtp : Bool
  data : List UInt8

/-- The pointers into the packet's buffer are offsets; a null one is `none`. -/
structure RTPPacket where
  hasextension : Bool
  hasmarker : Bool
  numcsrcs : ℕ
  payloadtype : UInt8
  extseqnr : UInt32
  timestamp : UInt32
  ssrc : UInt32
  packet : List UInt8
  payload : ℕ
  payloadlength : ℕ
  extid : UInt16
  extension : Option ℕ
  extensionlength : ℕ
  deriving DecidableEq

def RTPPacket.getPayloadData (p : RTPPacket) : Option (List UInt8) :=
  slice p.payload p.payloadlength p.packet

def RTPPacket.getExtensionData (p : RTPPacket) : Option (Option (List UInt8)) :=
  match p.extension with
  | none => some none
  | some extension => (slice extension p.extensionlength p.packet).map some

/-- A read out of the buffer is `none`. -/
def RTPPacket.getCSRC (p : RTPPacket) (num : ℤ) : Option UInt32 :=
  if num ≥ p.numcsrcs then some 0
  else if sizeofRTPHeader + 4 * num < 0 then none
  else get (sizeofRTPHeader + 4 * num).toNat p.packet

/-- A header extension as the callers hand it over: as many words as they say. -/
structure HeaderExtension where
  extensionid : UInt16
  extensionlen_numwords : UInt16
  extensiondata : List UInt8
  length_eq : extensiondata.length = 4 * extensionlen_numwords.toNat
  deriving DecidableEq

def HeaderExtension.toBytes (e : HeaderExtension) : List UInt8 :=
  put e.extensionid ++ (put e.extensionlen_numwords ++ e.extensiondata)

@[simp] theorem HeaderExtension.length_toBytes (e : HeaderExtension) :
    e.toBytes.length = sizeofRTPExtensionHeader + e.extensiondata.length := by
  simp only [toBytes, List.length_append, length_put, WireWord.width, sizeofRTPExtensionHeader]
  omega

def extensionBytes : Option HeaderExtension → List UInt8
  | none => []
  | some e => e.toBytes

/-- The header that building fills in. -/
def RTPPacket.buildHeader (payloadtype : UInt8) (seqnr : UInt16) (timestamp ssrc : UInt32)
    (gotmarker : Bool) (numcsrcs : ℕ) (gotextension : Bool) : RTPHeader :=
  { csrccount := BitVec.ofNat 4 numcsrcs
    extension := BitVec.ofBool gotextension
    padding := 0
    version := RTP_VERSION
    payloadtype := (payloadtype &&& 127).toBitVec.extractLsb' 0 7
    marker := BitVec.ofBool gotmarker
    sequencenumber := seqnr, timestamp, ssrc }

/-- The bytes that an extension handed to the builder takes. -/
def builtExtension : Option HeaderExtension → ℕ
  | none => 0
  | some e => sizeofRTPExtensionHeader + 4 * e.extensionlen_numwords.toNat

/-- The packet with its members and its buffer filled in. `extension` is not set. -/
def RTPPacket.filled (payloadtype : UInt8) (payloaddata : List UInt8) (seqnr : UInt16)
    (timestamp ssrc : UInt32) (gotmarker : Bool) (csrcs : List UInt32)
    (ext : Option HeaderExtension) : RTPPacket :=
  let rtphdr := RTPPacket.buildHeader payloadtype seqnr timestamp ssrc gotmarker csrcs.length
    ext.isSome
  { hasextension := ext.isSome
    hasmarker := gotmarker
    numcsrcs := csrcs.length
    payloadtype
    extseqnr := seqnr.toUInt32
    timestamp, ssrc
    packet := rtphdr.toBytes ++ (putMany csrcs ++ (extensionBytes ext ++ payloaddata))
    payload := sizeofRTPHeader + 4 * csrcs.length + builtExtension ext
    payloadlength := payloaddata.length
    extid := (ext.map HeaderExtension.extensionid).getD 0
    extension := none
    extensionlength := 4 * ((ext.map HeaderExtension.extensionlen_numwords).getD 0).toNat }

/-- The packet is built in a buffer of its own. Without an extension its arguments are zero. -/
def RTPPacket.buildPacket (payloadtype : UInt8) (payloaddata : List UInt8) (seqnr : UInt16)
    (timestamp ssrc : UInt32) (gotmarker : Bool) (csrcs : List UInt32)
    (ext : Option HeaderExtension) (maxsize : ℕ) : Except RTPError RTPPacket :=
  let packetlength := sizeofRTPHeader + 4 * csrcs.length + builtExtension ext +
    payloaddata.length
  if csrcs.length > RTP_MAXCSRCS then .error .packetTooManyCSRCs
  else if payloadtype > 127 then .error .packetBadPayloadType
  else if payloadtype = 72 ∨ payloadtype = 73 then .error .packetBadPayloadType
  else if maxsize > 0 ∧ packetlength > maxsize then .error .packetDataExceedsMaxSize
  else
    .ok (RTPPacket.filled payloadtype payloaddata seqnr timestamp ssrc gotmarker csrcs ext)

theorem RTPPacket.buildPacket_ok {payloadtype : UInt8} {payloaddata : List UInt8}
    {seqnr : UInt16} {timestamp ssrc : UInt32} {gotmarker : Bool} {csrcs : List UInt32}
    {ext : Option HeaderExtension} {maxsize : ℕ} {p : RTPPacket}
    (h : RTPPacket.buildPacket payloadtype payloaddata seqnr timestamp ssrc gotmarker csrcs ext
      maxsize = .ok p) :
    csrcs.length ≤ RTP_MAXCSRCS ∧ ValidPayloadType payloadtype ∧
      p = RTPPacket.filled payloadtype payloaddata seqnr timestamp ssrc gotmarker csrcs ext := by
  simp only [RTPPacket.buildPacket] at h
  by_cases hcsrcs : csrcs.length > RTP_MAXCSRCS
  · rw [if_pos hcsrcs] at h
    cases h
  · rw [if_neg hcsrcs] at h
    by_cases hlarge : payloadtype > 127
    · rw [if_pos hlarge] at h
      cases h
    · rw [if_neg hlarge] at h
      by_cases hreserved : payloadtype = 72 ∨ payloadtype = 73
      · rw [if_pos hreserved] at h
        cases h
      · rw [if_neg hreserved] at h
        refine ⟨not_lt.mp hcsrcs, ⟨hlarge, hreserved⟩, ?_⟩
        split at h
        · simp at h
        · exact (Except.ok.inj h).symm

/-- Could the header's second byte be the type of a sender or receiver report? -/
def RTPHeader.looksLikeRTCP (h : RTPHeader) : Prop :=
  h.marker ≠ 0 ∧ (h.payloadtype = (RTP_RTCPTYPE_SR &&& 127).setWidth 7 ∨
    h.payloadtype = (RTP_RTCPTYPE_RR &&& 127).setWidth 7)

instance (h : RTPHeader) : Decidable h.looksLikeRTCP := inferInstanceAs (Decidable (_ ∧ _))

/-- The last byte counts the padding. -/
def RTPHeader.numPadBytes (h : RTPHeader) (packetbytes : List UInt8) : Option UInt8 :=
  if h.padding ≠ 0 then get (packetbytes.length - 1) packetbytes else some 0

/-- The words of the extension header, read without a look at the length. -/
def RTPHeader.readExtension (h : RTPHeader) (packetbytes : List UInt8) :
    Option (Option (UInt16 × UInt16)) :=
  let payloadoffset := sizeofRTPHeader + 4 * h.csrccount.toNat
  if h.extension ≠ 0 then do
    let extid ← get payloadoffset packetbytes
    let exthdrlen ← get (payloadoffset + 2) packetbytes
    return some (extid, exthdrlen)
  else some none

/-- The bytes the extension takes, given the words of its header. -/
def extensionSize : Option (UInt16 × UInt16) → ℕ
  | none => 0
  | some (_, exthdrlen) => sizeofRTPExtensionHeader + 4 * exthdrlen.toNat

/-- The last part of the parser, with the words of the extension header at hand. -/
def RTPPacket.fill (rtpheader : RTPHeader) (packetbytes : List UInt8) (numpadbytes : UInt8)
    (rtpextheader : Option (UInt16 × UInt16)) : Except ℤ RTPPacket :=
  let extoffset := sizeofRTPHeader + 4 * rtpheader.csrccount.toNat
  let payloadoffset := extoffset + extensionSize rtpextheader
  let payloadlength := int32 (packetbytes.length - numpadbytes.toNat - payloadoffset)
  if payloadlength < 0 then .error ERR_RTP_PACKET_INVALIDPACKET
  else
    .ok
      { hasextension := rtpextheader.isSome
        hasmarker := rtpheader.marker ≠ 0
        numcsrcs := rtpheader.csrccount.toNat
        payloadtype := UInt8.ofBitVec (rtpheader.payloadtype.setWidth 8)
        extseqnr := rtpheader.sequencenumber.toUInt32
        timestamp := rtpheader.timestamp
        ssrc := rtpheader.ssrc
        packet := packetbytes
        payload := payloadoffset
        payloadlength := payloadlength.toNat
        extid := (rtpextheader.map Prod.fst).getD 0
        extension := rtpextheader.map fun _ ↦ extoffset + sizeofRTPExtensionHeader
        extensionlength := 4 * ((rtpextheader.map Prod.snd).getD 0).toNat }

/-- A read past the end of the packet is `none`. -/
def RTPPacket.parseRawPacket (rawpack : RTPRawPacket) : Option (Except ℤ RTPPacket) :=
  if ¬ rawpack.isrtp then some (.error ERR_RTP_PACKET_INVALIDPACKET)
  else if rawpack.data.length < sizeofRTPHeader then some (.error ERR_RTP_PACKET_INVALIDPACKET)
  else do
    let rtpheader ← RTPHeader.read rawpack.data
    if rtpheader.version ≠ RTP_VERSION ∨ rtpheader.looksLikeRTCP then
      return .error ERR_RTP_PACKET_INVALIDPACKET
    else
      let numpadbytes ← rtpheader.numPadBytes rawpack.data
      if rtpheader.padding ≠ 0 ∧ numpadbytes = 0 then
        return .error ERR_RTP_PACKET_INVALIDPACKET
      else
        let rtpextheader ← rtpheader.readExtension rawpack.data
        return RTPPacket.fill rtpheader rawpack.data numpadbytes rtpextheader

section Header

theorem RTPHeader.ofWords_pack (h : RTPHeader) :
    RTPHeader.ofWords (UInt8.ofBitVec (h.version ++ h.padding ++ h.extension ++ h.csrccount))
      (UInt8.ofBitVec (h.marker ++ h.payloadtype)) h.sequencenumber h.timestamp h.ssrc = h := by
  obtain ⟨csrccount, extension, padding, version, payloadtype, marker, _, _, _⟩ := h
  simp only [ofWords, RTPHeader.mk.injEq, and_true]
  refine ⟨?_, ?_, ?_, ?_, ?_, ?_⟩
  · exact BitVec.extractLsb'_append_eq_right
  · rw [BitVec.extractLsb'_append_eq_of_le (by decide)]
    exact BitVec.extractLsb'_append_eq_right
  · rw [BitVec.extractLsb'_append_eq_of_le (by decide),
      BitVec.extractLsb'_append_eq_of_le (by decide)]
    exact BitVec.extractLsb'_append_eq_right
  · rw [BitVec.extractLsb'_append_eq_of_le (by decide),
      BitVec.extractLsb'_append_eq_of_le (by decide)]
    exact BitVec.extractLsb'_append_eq_left
  · exact BitVec.extractLsb'_append_eq_right
  · exact BitVec.extractLsb'_append_eq_left

theorem RTPHeader.pack_ofWords (flags markerAndType : UInt8) (sequencenumber : UInt16)
    (timestamp ssrc : UInt32) :
    (RTPHeader.ofWords flags markerAndType sequencenumber timestamp ssrc).toBytes =
      put flags ++ (put markerAndType ++ (put sequencenumber ++ (put timestamp ++ put ssrc))) := by
  have hflags : flags.toBitVec.extractLsb' 6 2 ++ flags.toBitVec.extractLsb' 5 1 ++
      flags.toBitVec.extractLsb' 4 1 ++ flags.toBitVec.extractLsb' 0 4 = flags.toBitVec := by
    rw [BitVec.extractLsb'_append_extractLsb'_eq_extractLsb' (by decide),
      BitVec.extractLsb'_append_extractLsb'_eq_extractLsb' (by decide),
      BitVec.extractLsb'_append_extractLsb'_eq_extractLsb' (by decide)]
    exact BitVec.extractLsb'_eq_self
  have htype : markerAndType.toBitVec.extractLsb' 7 1 ++ markerAndType.toBitVec.extractLsb' 0 7 =
      markerAndType.toBitVec := by
    rw [BitVec.extractLsb'_append_extractLsb'_eq_extractLsb' (by decide)]
    exact BitVec.extractLsb'_eq_self
  simp only [toBytes, ofWords, hflags, htype]

@[simp] theorem RTPHeader.length_toBytes (h : RTPHeader) :
    h.toBytes.length = sizeofRTPHeader := by
  simp [toBytes, WireWord.width, sizeofRTPHeader]

theorem RTPHeader.read_toBytes (h : RTPHeader) (l : List UInt8) :
    RTPHeader.read (h.toBytes ++ l) = some h := by
  have hflags := get_put (UInt8.ofBitVec (h.version ++ h.padding ++ h.extension ++ h.csrccount))
    (put (UInt8.ofBitVec (h.marker ++ h.payloadtype)) ++
      (put h.sequencenumber ++ (put h.timestamp ++ (put h.ssrc ++ l))))
  have htype := get_behind (n := 1)
    (l := put (UInt8.ofBitVec (h.version ++ h.padding ++ h.extension ++ h.csrccount)))
    (by simp [WireWord.width]) (UInt8.ofBitVec (h.marker ++ h.payloadtype))
    (put h.sequencenumber ++ (put h.timestamp ++ (put h.ssrc ++ l)))
  have hseq := get_behind (n := 2)
    (l := put (UInt8.ofBitVec (h.version ++ h.padding ++ h.extension ++ h.csrccount)) ++
      put (UInt8.ofBitVec (h.marker ++ h.payloadtype)))
    (by simp [WireWord.width]) h.sequencenumber (put h.timestamp ++ (put h.ssrc ++ l))
  have hstamp := get_behind (n := 4)
    (l := put (UInt8.ofBitVec (h.version ++ h.padding ++ h.extension ++ h.csrccount)) ++
      (put (UInt8.ofBitVec (h.marker ++ h.payloadtype)) ++ put h.sequencenumber))
    (by simp [WireWord.width]) h.timestamp (put h.ssrc ++ l)
  have hssrc := get_behind (n := 8)
    (l := put (UInt8.ofBitVec (h.version ++ h.padding ++ h.extension ++ h.csrccount)) ++
      (put (UInt8.ofBitVec (h.marker ++ h.payloadtype)) ++
        (put h.sequencenumber ++ put h.timestamp)))
    (by simp [WireWord.width]) h.ssrc l
  simp only [List.append_assoc] at hflags htype hseq hstamp hssrc
  simp only [read, toBytes, List.append_assoc, hflags, htype, hseq, hstamp, hssrc,
    Option.bind_eq_bind, Option.bind_some]
  exact congrArg some h.ofWords_pack

theorem RTPHeader.toBytes_of_read {h : RTPHeader} {l : List UInt8}
    (hread : RTPHeader.read l = some h) : l = h.toBytes ++ l.drop sizeofRTPHeader := by
  simp only [read, Option.bind_eq_bind, Option.bind_eq_some_iff, Option.pure_def,
    Option.some.injEq] at hread
  obtain ⟨flags, hflags, markerAndType, htype, seq, hseq, stamp, hstamp, ssrc, hssrc, rfl⟩ := hread
  rw [pack_ofWords]
  simp only [List.append_assoc]
  have h₀ := drop_of_get hflags
  rw [List.drop_zero] at h₀
  exact h₀.trans (congrArg _ ((drop_of_get htype).trans (congrArg _ ((drop_of_get hseq).trans
    (congrArg _ ((drop_of_get hstamp).trans (congrArg _ (drop_of_get hssrc))))))))

theorem RTPHeader.exists_read {l : List UInt8} (h : sizeofRTPHeader ≤ l.length) :
    ∃ hdr, RTPHeader.read l = some hdr := by
  have hsome : ∀ {α : Type} [WireWord α] (off : ℕ), off + WireWord.width α ≤ 12 →
      ∃ a : α, get off l = some a := by
    intro α _ off hoff
    rw [← Option.isSome_iff_exists, Option.isSome_iff_ne_none, Ne, get_eq_none]
    unfold sizeofRTPHeader at h
    omega
  obtain ⟨flags, hflags⟩ := hsome (α := UInt8) 0 (by decide)
  obtain ⟨markerAndType, htype⟩ := hsome (α := UInt8) 1 (by decide)
  obtain ⟨seq, hseq⟩ := hsome (α := UInt16) 2 (by decide)
  obtain ⟨stamp, hstamp⟩ := hsome (α := UInt32) 4 (by decide)
  obtain ⟨ssrc, hssrc⟩ := hsome (α := UInt32) 8 (by decide)
  refine ⟨RTPHeader.ofWords flags markerAndType seq stamp ssrc, ?_⟩
  simp only [read, hflags, htype, hseq, hstamp, hssrc, Option.bind_eq_bind, Option.bind_some]
  rfl

end Header

end VirtualCamera.Rtp.Packet
