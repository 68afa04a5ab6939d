import VirtualCamera.Rtp.Packet

namespace VirtualCamera.Rtp.RtcpPacket

open Library.Wire
open Packet (RTP_VERSION RTP_RTCPTYPE_SR RTP_RTCPTYPE_RR RTPRawPacket)

def ERR_RTP_RTCPCOMPOUND_INVALIDPACKET : ℤ := -30

def RTP_RTCPTYPE_SDES : BitVec 8 := 202

def RTP_RTCPTYPE_BYE : BitVec 8 := 203

def RTP_RTCPTYPE_APP : BitVec 8 := 204

def RTCP_SDES_ID_PRIVATE : UInt8 := 8

def sizeofRTCPCommonHeader : ℕ := 4

def sizeofRTCPSenderReport : ℕ := 20

def sizeofRTCPReceiverReport : ℕ := 24

def sizeofRTCPSDESHeader : ℕ := 2

structure RTCPCommonHeader where
  count : BitVec 5
  padding : BitVec 1
  version : BitVec 2
  packettype : BitVec 8
  length : UInt16
  deriving DecidableEq

namespace RTCPCommonHeader

def toBytes (h : RTCPCommonHeader) : List UInt8 :=
  put (UInt8.ofBitVec (h.version ++ h.padding ++ h.count)) ++
    (put (UInt8.ofBitVec h.packettype) ++ put h.length)

def ofWords (flags packettype : UInt8) (length : UInt16) : RTCPCommonHeader :=
  { count := flags.toBitVec.extractLsb' 0 5
    padding := flags.toBitVec.extractLsb' 5 1
    version := flags.toBitVec.extractLsb' 6 2
    packettype := packettype.toBitVec, length }

/-- The header at the start of some bytes; reading past their end is `none`. -/
def read (data : List UInt8) : Option RTCPCommonHeader := do
  let flags ← get 0 data
  let packettype ← get 1 data
  let length ← get 2 data
  return ofWords flags packettype length

theorem ofWords_pack (h : RTCPCommonHeader) :
    ofWords (UInt8.ofBitVec (h.version ++ h.padding ++ h.count)) (UInt8.ofBitVec h.packettype)
      h.length = h := by
  obtain ⟨count, padding, version, packettype, _⟩ := h
  simp only [ofWords, RTCPCommonHeader.mk.injEq, and_true]
  refine ⟨?_, ?_, ?_⟩
  · exact BitVec.extractLsb'_append_eq_right
  · rw [BitVec.extractLsb'_append_eq_of_le (by decide)]
    exact BitVec.extractLsb'_append_eq_right
  · rw [BitVec.extractLsb'_append_eq_of_le (by decide)]
    exact BitVec.extractLsb'_append_eq_left

theorem pack_ofWords (flags packettype : UInt8) (length : UInt16) :
    (ofWords flags packettype length).toBytes = put flags ++ (put packettype ++ put length) := by
  have hflags : flags.toBitVec.extractLsb' 6 2 ++ flags.toBitVec.extractLsb' 5 1 ++
      flags.toBitVec.extractLsb' 0 5 = flags.toBitVec := by
    rw [BitVec.extractLsb'_append_extractLsb'_eq_extractLsb' (by decide),
      BitVec.extractLsb'_append_extractLsb'_eq_extractLsb' (by decide)]
    exact BitVec.extractLsb'_eq_self
  simp only [toBytes, ofWords, hflags]

@[simp] theorem length_toBytes (h : RTCPCommonHeader) :
    h.toBytes.length = sizeofRTCPCommonHeader := by
  simp [toBytes, WireWord.width, sizeofRTCPCommonHeader]

theorem read_toBytes (h : RTCPCommonHeader) (l : List UInt8) : read (h.toBytes ++ l) = some h := by
  have hflags := get_put (UInt8.ofBitVec (h.version ++ h.padding ++ h.count))
    (put (UInt8.ofBitVec h.packettype) ++ (put h.length ++ l))
  have htype := get_behind (n := 1) (l := put (UInt8.ofBitVec (h.version ++ h.padding ++ h.count)))
    (by simp [WireWord.width]) (UInt8.ofBitVec h.packettype) (put h.length ++ l)
  have hlength := get_behind (n := 2)
    (l := put (UInt8.ofBitVec (h.version ++ h.padding ++ h.count)) ++
      put (UInt8.ofBitVec h.packettype))
    (by simp [WireWord.width]) h.length l
  simp only [List.append_assoc] at hflags htype hlength
  simp only [read, toBytes, List.append_assoc, hflags, htype, hlength, Option.bind_eq_bind,
    Option.bind_some]
  exact congrArg some h.ofWords_pack

theorem toBytes_of_read {h : RTCPCommonHeader} {l : List UInt8} (hread : read l = some h) :
    l = h.toBytes ++ l.drop sizeofRTCPCommonHeader := by
  simp only [read, Option.bind_eq_bind, Option.bind_eq_some_iff, Option.pure_def,
    Option.some.injEq] at hread
  obtain ⟨flags, hflags, packettype, htype, length, hlength, rfl⟩ := hread
  rw [pack_ofWords]
  simp only [List.append_assoc]
  have h₀ := drop_of_get hflags
  rw [List.drop_zero] at h₀
  exact h₀.trans (congrArg _ ((drop_of_get htype).trans (congrArg _ (drop_of_get hlength))))

theorem exists_read {l : List UInt8} (h : sizeofRTCPCommonHeader ≤ l.length) :
    ∃ hdr, read l = some hdr := by
  have hsome : ∀ {α : Type} [WireWord α] (off : ℕ), off + WireWord.width α ≤ 4 →
      ∃ a : α, get off l = some a := by
    intro α _ off hoff
    rw [← Option.isSome_iff_exists, Option.isSome_iff_ne_none, Ne, get_eq_none]
    unfold sizeofRTCPCommonHeader at h
    omega
  obtain ⟨flags, hflags⟩ := hsome (α := UInt8) 0 (by decide)
  obtain ⟨packettype, htype⟩ := hsome (α := UInt8) 1 (by decide)
  obtain ⟨length, hlength⟩ := hsome (α := UInt16) 2 (by decide)
  refine ⟨ofWords flags packettype length, ?_⟩
  simp only [read, hflags, htype, hlength, Option.bind_eq_bind, Option.bind_some]
  rfl

/-- The length of a packet without its padding, if the padding is right. -/
def unpadded (h : RTCPCommonHeader) (data : List UInt8) : Option (Option ℕ) :=
  if h.padding ≠ 0 then do
    let padcount : UInt8 ← get (data.length - 1) data
    if padcount &&& 0x03 ≠ 0 then return none
    else if padcount.toNat ≥ data.length then return none
    else return some (data.length - padcount.toNat)
  else some (some data.length)

theorem exists_unpadded (h : RTCPCommonHeader) {data : List UInt8} (hdata : 0 < data.length) :
    ∃ r, h.unpadded data = some r := by
  unfold unpadded
  split
  · obtain ⟨padcount, hpad⟩ := exists_get (α := UInt8) (l := data) (data.length - 1)
      (show _ + 1 ≤ _ by omega)
    rw [hpad]
    simp only [Option.bind_eq_bind, Option.bind_some]
    split
    · exact ⟨_, rfl⟩
    · split
      · exact ⟨_, rfl⟩
      · exact ⟨_, rfl⟩
  · exact ⟨_, rfl⟩

theorem unpadded_le {h : RTCPCommonHeader} {data : List UInt8} {len : ℕ}
    (hlen : h.unpadded data = some (some len)) : (0 < data.length → 0 < len) ∧ len ≤ data.length := by
  unfold unpadded at hlen
  split at hlen
  · simp only [Option.bind_eq_bind, Option.bind_eq_some_iff] at hlen
    obtain ⟨padcount, -, hlen⟩ := hlen
    split at hlen
    · cases hlen
    · split at hlen
      · cases hlen
      · cases hlen
        omega
  · cases hlen
    omega

end RTCPCommonHeader

inductive PacketType
  | sr | rr | sdes | bye | app | unknown
  deriving DecidableEq

/-- A packet of one of the subclasses, with the members that some of them add: where the
reason for leaving is, or none, and how long the data of the application are. -/
structure RTCPPacket where
  packettype : PacketType
  data : List UInt8
  knownformat : Bool
  reasonoffset : ℕ
  appdatalen : ℕ
  deriving DecidableEq

def RTCPPacket.unknownFormat (packettype : PacketType) (data : List UInt8) : RTCPPacket :=
  ⟨packettype, data, false, 0, 0⟩

def RTCPPacket.known (packettype : PacketType) (data : List UInt8) : RTCPPacket :=
  ⟨packettype, data, true, 0, 0⟩

section Known

variable (packettype : PacketType) (data : List UInt8)

@[simp] theorem RTCPPacket.known_packettype :
    (RTCPPacket.known packettype data).packettype = packettype := rfl

@[simp] theorem RTCPPacket.known_data : (RTCPPacket.known packettype data).data = data := rfl

@[simp] theorem RTCPPacket.known_knownformat :
    (RTCPPacket.known packettype data).knownformat = true := rfl

end Known

/-- A report: the header, the sender and what it says of itself, the report blocks. -/
def reportPacket (packettype : PacketType) (reportoffset : ℕ) (data : List UInt8) :
    Option RTCPPacket := do
  let hdr ← RTCPCommonHeader.read data
  match ← hdr.unpadded data with
  | none => return .unknownFormat packettype data
  | some len =>
    let expectedlength := reportoffset + sizeofRTCPReceiverReport * hdr.count.toNat
    if expectedlength ≠ len then return .unknownFormat packettype data
    else return .known packettype data

def srReportOffset : ℕ := sizeofRTCPCommonHeader + 4 + sizeofRTCPSenderReport

def rrReportOffset : ℕ := sizeofRTCPCommonHeader + 4

def RTCPSRPacket (data : List UInt8) : Option RTCPPacket := reportPacket .sr srReportOffset data

def RTCPRRPacket (data : List UInt8) : Option RTCPPacket := reportPacket .rr rrReportOffset data

/-- The bytes up to the next boundary of four. -/
def alignment (offset : ℕ) : ℕ := if offset % 4 ≠ 0 then 4 - offset % 4 else 0

/-- The loop over the items of a chunk: what is left of the packet behind it and where it
ends, if it has the right form. -/
def scanItems (data : List UInt8) (chunk : ℕ) : ℕ → ℕ → ℕ → Option (Option (ℕ × ℕ))
  | 0, _, _ => none
  | fuel + 1, len, chunkoffset =>
    if len < 1 then some none
    else do
      let sdesid : UInt8 ← get (chunk + chunkoffset) data
      if sdesid = 0 then
        let addoffset := alignment (chunkoffset + 1)
        if addoffset > len - 1 then return none
        else return some (len - 1 - addoffset, chunkoffset + 1 + addoffset)
      else if len < sizeofRTCPSDESHeader then return none
      else
        let length : UInt8 ← get (chunk + chunkoffset + 1) data
        if length.toNat > len - sizeofRTCPSDESHeader then return none
        else
          scanItems data chunk fuel (len - sizeofRTCPSDESHeader - length.toNat)
            (chunkoffset + sizeofRTCPSDESHeader + length.toNat)

/-- The loop over the chunks: are there as many as there should be, and nothing else? -/
def scanChunks (data : List UInt8) : ℕ → ℕ → ℕ → Option Bool
  | 0, _, len => some (len = 0)
  | ssrccount + 1, chunk, len =>
    if len = 0 then some false
    else if len < 8 then some false
    else do
      match ← scanItems data chunk len (len - 4) 4 with
      | none => return false
      | some (len, chunkoffset) => scanChunks data ssrccount (chunk + chunkoffset) len

def RTCPSDESPacket (data : List UInt8) : Option RTCPPacket := do
  let hdr ← RTCPCommonHeader.read data
  match ← hdr.unpadded data with
  | none => return .unknownFormat .sdes data
  | some len =>
    if hdr.count = 0 then
      if len ≠ sizeofRTCPCommonHeader then return .unknownFormat .sdes data
      else return .known .sdes data
    else if len < sizeofRTCPCommonHeader then return .unknownFormat .sdes data
    else
      let knownformat ← scanChunks data hdr.count.toNat sizeofRTCPCommonHeader
        (len - sizeofRTCPCommonHeader)
      if knownformat then return .known .sdes data else return .unknownFormat .sdes data

def RTCPBYEPacket (data : List UInt8) : Option RTCPPacket := do
  let hdr ← RTCPCommonHeader.read data
  match ← hdr.unpadded data with
  | none => return .unknownFormat .bye data
  | some len =>
    let ssrclen := hdr.count.toNat * 4 + sizeofRTCPCommonHeader
    if ssrclen > len then return .unknownFormat .bye data
    else if ssrclen < len then
      let reaslen : UInt8 ← get ssrclen data
      if reaslen.toNat > len - ssrclen - 1 then return .unknownFormat .bye data
      else return ⟨.bye, data, true, ssrclen, 0⟩
    else return .known .bye data

def RTCPAPPPacket (data : List UInt8) : Option RTCPPacket := do
  let hdr ← RTCPCommonHeader.read data
  match ← hdr.unpadded data with
  | none => return .unknownFormat .app data
  | some len =>
    if len < sizeofRTCPCommonHeader + 4 * 2 then return .unknownFormat .app data
    else return ⟨.app, data, true, 0, len - (sizeofRTCPCommonHeader + 4 * 2)⟩

def RTCPUnknownPacket (data : List UInt8) : Option RTCPPacket := some (.known .unknown data)

/-- The packet that is made of some bytes under a type. -/
def RTCPPacket.ofData (packettype : BitVec 8) (data : List UInt8) : Option RTCPPacket :=
  if packettype = RTP_RTCPTYPE_SR then RTCPSRPacket data
  else if packettype = RTP_RTCPTYPE_RR then RTCPRRPacket data
  else if packettype = RTP_RTCPTYPE_SDES then RTCPSDESPacket data
  else if packettype = RTP_RTCPTYPE_BYE then RTCPBYEPacket data
  else if packettype = RTP_RTCPTYPE_APP then RTCPAPPPacket data
  else RTCPUnknownPacket data

/-- The loop over the packets of a compound packet, with the list that it makes. -/
def parseLoop : ℕ → Bool → List UInt8 → Option (Except ℤ (List RTCPPacket))
  | 0, _, _ => none
  | fuel + 1, first, data => do
    let rtcphdr ← RTCPCommonHeader.read data
    let length := (rtcphdr.length.toNat + 1) * 4
    if rtcphdr.version ≠ RTP_VERSION then return .error ERR_RTP_RTCPCOMPOUND_INVALIDPACKET
    else if first ∧
        ¬ (rtcphdr.packettype = RTP_RTCPTYPE_SR ∨ rtcphdr.packettype = RTP_RTCPTYPE_RR) then
      return .error ERR_RTP_RTCPCOMPOUND_INVALIDPACKET
    else if length > data.length then return .error ERR_RTP_RTCPCOMPOUND_INVALIDPACKET
    else if rtcphdr.padding ≠ 0 ∧ length ≠ data.length then
      return .error ERR_RTP_RTCPCOMPOUND_INVALIDPACKET
    else
      let p ← RTCPPacket.ofData rtcphdr.packettype (data.take length)
      let rest := data.drop length
      if rest.length ≥ sizeofRTCPCommonHeader then
        (parseLoop fuel false rest).map fun r ↦ r.map (p :: ·)
      else if rest.length ≠ 0 then return .error ERR_RTP_RTCPCOMPOUND_INVALIDPACKET
      else return .ok [p]

/-- A read out of a packet's bytes is `none`. -/
def parseData (data : List UInt8) : Option (Except ℤ (List RTCPPacket)) :=
  if data.length < sizeofRTCPCommonHeader then some (.error ERR_RTP_RTCPCOMPOUND_INVALIDPACKET)
  else parseLoop data.length true data

def RTCPCompoundPacket (rawpack : RTPRawPacket) : Option (Except ℤ (List RTCPPacket)) :=
  if rawpack.isrtp then some (.error ERR_RTP_RTCPCOMPOUND_INVALIDPACKET)
  else parseData rawpack.data

/-! ### The getters, and what a reader gets with them -/

structure SenderInfo where
  ntptime_msw : UInt32
  ntptime_lsw : UInt32
  rtptimestamp : UInt32
  packetcount : UInt32
  octetcount : UInt32
  deriving DecidableEq

structure ReportBlock where
  ssrc : UInt32
  fractionlost : UInt8
  packetslost : Int32
  exthighseqnr : UInt32
  jitter : UInt32
  lsr : UInt32
  dlsr : UInt32
  deriving DecidableEq

inductive ItemType
  | none | cname | name | email | phone | loc | tool | note | priv | unknown
  deriving DecidableEq

def ItemType.ofId (sdesid : UInt8) : ItemType :=
  if sdesid = 0 then .none
  else if sdesid = 1 then .cname
  else if sdesid = 2 then .name
  else if sdesid = 3 then .email
  else if sdesid = 4 then .phone
  else if sdesid = 5 then .loc
  else if sdesid = 6 then .tool
  else if sdesid = 7 then .note
  else if sdesid = RTCP_SDES_ID_PRIVATE then .priv
  else .unknown

/-- An item as it is read, a private one with the strings it is made of. -/
inductive SDESItem
  | normal (t : ItemType) (itemdata : List UInt8)
  | priv (prefixdata valuedata : List UInt8)
  deriving DecidableEq

structure SDESChunk where
  ssrc : UInt32
  items : List SDESItem
  deriving DecidableEq

/-- What a packet tells its reader. -/
inductive Content
  | sr (senderssrc : UInt32) (info : SenderInfo) (blocks : List ReportBlock)
  | rr (senderssrc : UInt32) (blocks : List ReportBlock)
  | sdes (chunks : List SDESChunk)
  | bye (ssrcs : List UInt32) (reason : List UInt8)
  | app (subtype : BitVec 5) (ssrc : UInt32) (name appdata : List UInt8)
  | unknownType
  | unknownFormat
  deriving DecidableEq

namespace RTCPPacket

def count (p : RTCPPacket) : Option ℕ :=
  if ¬ p.knownformat then some 0
  else (RTCPCommonHeader.read p.data).map fun hdr ↦ hdr.count.toNat

/-- A word of the packet, or zero where the format is unknown. -/
def word {α : Type} [WireWord α] (p : RTCPPacket) (offset : ℕ) : Option α :=
  if ¬ p.knownformat then some (WireWord.ofNat 0) else get offset p.data

def getSenderSSRC (p : RTCPPacket) : Option UInt32 := p.word sizeofRTCPCommonHeader

def getSenderInfo (p : RTCPPacket) : Option SenderInfo := do
  let ntptime_msw ← p.word 8
  let ntptime_lsw ← p.word 12
  let rtptimestamp ← p.word 16
  let packetcount ← p.word 20
  let octetcount ← p.word 24
  return { ntptime_msw, ntptime_lsw, rtptimestamp, packetcount, octetcount }

/-- Three bytes, read as a number with its sign. -/
def lostPacketCount (high middle low : UInt8) : Int32 :=
  let count : UInt32 := low.toUInt32 ||| (middle.toUInt32 <<< 8) ||| (high.toUInt32 <<< 16)
  (if count &&& 0x00800000 ≠ 0 then count ||| 0xFF000000 else count).toInt32

/-- The report block at an index, with all that the getters say of it. -/
def getReport (p : RTCPPacket) (reportoffset index : ℕ) : Option ReportBlock := do
  let r := reportoffset + index * sizeofRTCPReceiverReport
  let ssrc ← p.word r
  let fractionlost ← p.word (r + 4)
  let high ← p.word (r + 5)
  let middle ← p.word (r + 6)
  let low ← p.word (r + 7)
  let exthighseqnr ← p.word (r + 8)
  let jitter ← p.word (r + 12)
  let lsr ← p.word (r + 16)
  let dlsr ← p.word (r + 20)
  return { ssrc, fractionlost, packetslost := lostPacketCount high middle low, exthighseqnr,
           jitter, lsr, dlsr }

def getReports (p : RTCPPacket) (reportoffset : ℕ) : Option (List ReportBlock) := do
  let num ← p.count
  (List.range num).mapM (p.getReport reportoffset)

/-- The sources of a goodbye. -/
def getSSRCs (p : RTCPPacket) : Option (List UInt32) := do
  let num ← p.count
  (List.range num).mapM fun index ↦ p.word (sizeofRTCPCommonHeader + 4 * index)

/-- The reason, as long as it says; a null one is empty. -/
def getReason (p : RTCPPacket) : Option (List UInt8) :=
  if ¬ p.knownformat then some []
  else if p.reasonoffset = 0 then some []
  else do
    let reasonlen : UInt8 ← get p.reasonoffset p.data
    if reasonlen = 0 then return []
    else slice (p.reasonoffset + 1) reasonlen.toNat p.data

def getName (p : RTCPPacket) : Option (List UInt8) :=
  if ¬ p.knownformat then some [] else slice (sizeofRTCPCommonHeader + 4) 4 p.data

def getAPPData (p : RTCPPacket) : Option (List UInt8) :=
  if ¬ p.knownformat then some []
  else if p.appdatalen = 0 then some []
  else slice (sizeofRTCPCommonHeader + 4 * 2) p.appdatalen p.data

end RTCPPacket

/-- A source description packet while it is read: the chunk that is looked at, and where in
the chunk the item is. -/
structure SDESCursor where
  packet : RTCPPacket
  currentchunk : ℕ
  curchunknum : ℕ
  itemoffset : ℕ

namespace SDESCursor

def gotoFirstChunk (packet : RTCPPacket) : Option (Option SDESCursor) := do
  let count ← packet.count
  if count = 0 then return none
  else
    return some { packet, currentchunk := sizeofRTCPCommonHeader, curchunknum := 1, itemoffset := 4 }

/-- The loop to the end of the items, from an offset in the chunk. -/
def skipItems (data : List UInt8) (currentchunk : ℕ) : ℕ → ℕ → Option ℕ
  | 0, _ => none
  | fuel + 1, offset => do
    let sdesid : UInt8 ← get (currentchunk + offset) data
    if sdesid ≠ 0 then
      let length : UInt8 ← get (currentchunk + offset + 1) data
      skipItems data currentchunk fuel (offset + sizeofRTCPSDESHeader + length.toNat)
    else return offset

def gotoNextChunk (c : SDESCursor) : Option (Option SDESCursor) := do
  let count ← c.packet.count
  if c.curchunknum = count then return none
  else
    let offset ← skipItems c.packet.data c.currentchunk c.packet.data.length 4
    return some
      { c with
        currentchunk := c.currentchunk + (offset + 1 + alignment (offset + 1))
        curchunknum := c.curchunknum + 1
        itemoffset := 4 }

def getChunkSSRC (c : SDESCursor) : Option UInt32 := get c.currentchunk c.packet.data

def item (c : SDESCursor) : ℕ := c.currentchunk + c.itemoffset

def gotoFirstItem (c : SDESCursor) : Option (Option SDESCursor) := do
  let c := { c with itemoffset := 4 }
  let sdesid : UInt8 ← get c.item c.packet.data
  if sdesid = 0 then return none else return some c

def gotoNextItem (c : SDESCursor) : Option (Option SDESCursor) := do
  let sdesid : UInt8 ← get c.item c.packet.data
  if sdesid = 0 then return none
  else
    let length : UInt8 ← get (c.item + 1) c.packet.data
    let offset := c.itemoffset + sizeofRTCPSDESHeader + length.toNat
    let sdesid : UInt8 ← get (c.currentchunk + offset) c.packet.data
    if sdesid = 0 then return none else return some { c with itemoffset := offset }

def getItemType (c : SDESCursor) : Option ItemType := (get c.item c.packet.data).map ItemType.ofId

def getItemData (c : SDESCursor) : Option (List UInt8) := do
  let sdesid : UInt8 ← get c.item c.packet.data
  if sdesid = 0 then return []
  else
    let length : UInt8 ← get (c.item + 1) c.packet.data
    slice (c.item + sizeofRTCPSDESHeader) length.toNat c.packet.data

/-- The prefix and the value of a private item; both are empty when the prefix is said to
be longer than the item. -/
def getPRIVData (c : SDESCursor) : Option (List UInt8 × List UInt8) := do
  let sdesid : UInt8 ← get c.item c.packet.data
  let length : UInt8 ← get (c.item + 1) c.packet.data
  if sdesid ≠ RTCP_SDES_ID_PRIVATE then return ([], [])
  else if length = 0 then return ([], [])
  else
    let prefixlength : UInt8 ← get (c.item + sizeofRTCPSDESHeader) c.packet.data
    if prefixlength.toNat > length.toNat - 1 then return ([], [])
    else
      let prefixdata ← slice (c.item + sizeofRTCPSDESHeader + 1) prefixlength.toNat c.packet.data
      let valuedata ← slice (c.item + sizeofRTCPSDESHeader + 1 + prefixlength.toNat)
        (length.toNat - prefixlength.toNat - 1) c.packet.data
      return (prefixdata, valuedata)

def readItem (c : SDESCursor) : Option SDESItem := do
  let t ← c.getItemType
  if t ≠ .priv then
    let itemdata ← c.getItemData
    return .normal t itemdata
  else
    let (prefixdata, valuedata) ← c.getPRIVData
    return .priv prefixdata valuedata

def readItems : ℕ → SDESCursor → Option (List SDESItem)
  | 0, _ => none
  | fuel + 1, c => do
    let item ← c.readItem
    match ← c.gotoNextItem with
    | none => return [item]
    | some c => (readItems fuel c).map (item :: ·)

def readChunk (c : SDESCursor) : Option SDESChunk := do
  let ssrc ← c.getChunkSSRC
  match ← c.gotoFirstItem with
  | none => return { ssrc, items := [] }
  | some c => (readItems c.packet.data.length c).map fun items ↦ { ssrc, items }

def readChunks : ℕ → SDESCursor → Option (List SDESChunk)
  | 0, _ => none
  | fuel + 1, c => do
    let chunk ← c.readChunk
    match ← c.gotoNextChunk with
    | none => return [chunk]
    | some c => (readChunks fuel c).map (chunk :: ·)

end SDESCursor

def RTCPPacket.readSDES (p : RTCPPacket) : Option (List SDESChunk) := do
  match ← SDESCursor.gotoFirstChunk p with
  | none => return []
  | some c => SDESCursor.readChunks p.data.length c

/-- What the reader of a compound packet gets of one of its packets. -/
def RTCPPacket.read (p : RTCPPacket) : Option Content :=
  if ¬ p.knownformat then some .unknownFormat
  else
    match p.packettype with
    | .sr => do
      let senderssrc ← p.getSenderSSRC
      let info ← p.getSenderInfo
      return .sr senderssrc info (← p.getReports srReportOffset)
    | .rr => do
      let senderssrc ← p.getSenderSSRC
      return .rr senderssrc (← p.getReports rrReportOffset)
    | .sdes => p.readSDES.map .sdes
    | .bye => do
      let ssrcs ← p.getSSRCs
      return .bye ssrcs (← p.getReason)
    | .app => do
      let hdr ← RTCPCommonHeader.read p.data
      let ssrc ← p.getSenderSSRC
      let name ← p.getName
      return .app hdr.count ssrc name (← p.getAPPData)
    | .unknown => some .unknownType

end VirtualCamera.Rtp.RtcpPacket
