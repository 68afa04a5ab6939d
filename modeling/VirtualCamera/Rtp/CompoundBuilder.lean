import VirtualCamera.Library.Groups
import VirtualCamera.Rtp.RtcpPacket

namespace VirtualCamera.Rtp.CompoundBuilder

open Library.Memory Library.Wire Library.Groups RtcpPacket
open Packet (RTP_VERSION RTP_RTCPTYPE_SR RTP_RTCPTYPE_RR)

def RTP_MINPACKETSIZE : ℕ := 600

inductive BuilderError
  | alreadyBuilding
  | alreadyBuilt
  | alreadyGotReport
  | appDataLenTooBig
  | bufferSizeTooSmall
  | illegalAppDataLength
  | illegalSubtype
  | invalidItemType
  | maxPacketSizeTooSmall
  | noCurrentSource
  | noReportPresent
  | notBuilding
  | notEnoughBytesLeft
  | reportNotStarted
  | tooManySSRCs
  | totalItemLengthTooBig
  deriving DecidableEq, Repr

/-- Bytes that come with their number as a `uint8_t`. -/
abbrev ShortBytes : Type := { l : List UInt8 // l.length ≤ 255 }

def packetHeader (count : ℕ) (packettype : BitVec 8) (numwords : ℕ) : RTCPCommonHeader :=
  { count := BitVec.ofNat 5 count
    padding := 0
    version := RTP_VERSION
    packettype
    length := UInt16.ofNat (numwords - 1) }

def senderInfoBytes (i : SenderInfo) : List UInt8 :=
  put i.ntptime_msw ++ (put i.ntptime_lsw ++ (put i.rtptimestamp ++
    (put i.packetcount ++ put i.octetcount)))

/-- Of the lost packets three bytes are kept. -/
def reportBlockBytes (b : ReportBlock) : List UInt8 :=
  let packlost2 := b.packetslost.toUInt32
  put b.ssrc ++ (put b.fractionlost ++ (put (packlost2 >>> 16).toUInt8 ++
    (put (packlost2 >>> 8).toUInt8 ++ (put packlost2.toUInt8 ++ (put b.exthighseqnr ++
      (put b.jitter ++ (put b.lsr ++ put b.dlsr)))))))

/-- `headerdata` are the bytes that are in use. -/
structure Report where
  isSR : Bool
  headerdata : List UInt8
  reportblocks : List (List UInt8)

namespace Report

def clear : Report := ⟨false, [], []⟩

def headerlength (r : Report) : ℕ := r.headerdata.length

/-- What so many blocks take, with a header and the sender for every 31 of them. -/
def blocksSize (isSR : Bool) (n : ℕ) : ℕ :=
  n * sizeofRTCPReceiverReport + groupCount 31 n * (sizeofRTCPCommonHeader + 4) +
    if isSR then sizeofRTCPSenderReport else 0

def neededBytes (r : Report) : ℕ :=
  if r.reportblocks.length = 0 then
    if r.headerlength = 0 then 0 else sizeofRTCPCommonHeader + r.headerlength
  else blocksSize r.isSR r.reportblocks.length

def neededBytesWithExtraReportBlock (r : Report) : ℕ :=
  blocksSize r.isSR (r.reportblocks.length + 1)

def packet (r : Report) (firstpacket : Bool) (blocks : List (List UInt8)) : BitVec 8 × List UInt8 :=
  let packettype := if firstpacket ∧ r.isSR then RTP_RTCPTYPE_SR else RTP_RTCPTYPE_RR
  let header := if firstpacket ∧ r.isSR then r.headerdata else r.headerdata.take 4
  let offset := sizeofRTCPCommonHeader + header.length + blocks.flatten.length
  (packettype, (packetHeader blocks.length packettype (offset / 4)).toBytes ++
    (header ++ blocks.flatten))

/-- The loop goes on until there are no more blocks, and makes a packet without them, too. -/
def packets (r : Report) : List (BitVec 8 × List UInt8) :=
  match groups 31 r.reportblocks with
  | [] => []
  | blocks :: rest => r.packet true blocks :: rest.map (r.packet false)

end Report

structure SDESSource where
  ssrc : UInt32
  items : List (List UInt8)
  totalitemsize : ℕ
  totalitemsize_eq : totalitemsize = items.flatten.length

namespace SDESSource

def new (ssrc : UInt32) : SDESSource := ⟨ssrc, [], 0, rfl⟩

def aligned (x : ℕ) : ℕ := x + alignment x + 4

def neededBytes (s : SDESSource) : ℕ := aligned (s.totalitemsize + 1)

def neededBytesWithExtraItem (s : SDESSource) (itemdatalength : ℕ) : ℕ :=
  aligned (s.totalitemsize + sizeofRTCPSDESHeader + itemdatalength + 1)

def addItem (s : SDESSource) (buf : List UInt8) : SDESSource where
  ssrc := s.ssrc
  items := s.items ++ [buf]
  totalitemsize := s.totalitemsize + buf.length
  totalitemsize_eq := by
    rw [List.flatten_append, List.length_append, ← s.totalitemsize_eq]
    simp

def chunkAt (s : SDESSource) (offset : ℕ) : List UInt8 :=
  let chunk := put s.ssrc ++ (s.items.flatten ++ put (0 : UInt8))
  chunk ++ List.replicate (alignment (offset + chunk.length)) 0

end SDESSource

namespace SDES

def neededBytes (sdessources : List SDESSource) : ℕ :=
  if sdessources = [] then 0
  else (sdessources.map SDESSource.neededBytes).sum +
    groupCount 31 sdessources.length * sizeofRTCPCommonHeader

/-- Of the last source, with another item. -/
def neededBytesWithExtraItem (sdessources : List SDESSource) (itemdatalength : ℕ) : ℕ :=
  match sdessources.getLast? with
  | none => 0
  | some s =>
    (sdessources.dropLast.map SDESSource.neededBytes).sum +
      s.neededBytesWithExtraItem itemdatalength +
        groupCount 31 sdessources.length * sizeofRTCPCommonHeader

/-- The first source is not counted. -/
def neededBytesWithExtraSource (sdessources : List SDESSource) : ℕ :=
  if sdessources = [] then 0
  else (sdessources.map SDESSource.neededBytes).sum + 4 * 2 +
    groupCount 31 (sdessources.length + 1) * sizeofRTCPCommonHeader

def addItem (sdessources : List SDESSource) (buf : List UInt8) : List SDESSource :=
  match sdessources.getLast? with
  | none => sdessources
  | some s => sdessources.dropLast ++ [s.addItem buf]

def chunks : ℕ → List SDESSource → List UInt8
  | _, [] => []
  | offset, s :: sources => s.chunkAt offset ++ chunks (offset + (s.chunkAt offset).length) sources

def packet (sources : List SDESSource) : BitVec 8 × List UInt8 :=
  let body := chunks sizeofRTCPCommonHeader sources
  (RTP_RTCPTYPE_SDES,
    (packetHeader sources.length RTP_RTCPTYPE_SDES
      ((sizeofRTCPCommonHeader + body.length) / 4)).toBytes ++ body)

def packets (sdessources : List SDESSource) : List (BitVec 8 × List UInt8) :=
  if sdessources = [] then [] else (groups 31 sdessources).map packet

end SDES

structure Buffers where
  packets : List (List UInt8)
  size : ℕ
  size_eq : size = packets.flatten.length

def Buffers.clear : Buffers := ⟨[], 0, rfl⟩

def Buffers.push (b : Buffers) (packet : List UInt8) : Buffers where
  packets := b.packets ++ [packet]
  size := b.size + packet.length
  size_eq := by
    rw [List.flatten_append, List.length_append, ← b.size_eq]
    simp

/-- An external buffer is as long as `maximumpacketsize`. -/
structure RTCPCompoundPacketBuilder where
  maximumpacketsize : ℕ
  external : Bool
  arebuilding : Bool
  report : Report
  sdes : List SDESSource
  byepackets : Buffers
  apppackets : Buffers
  compoundpacket : Option (List UInt8)
  compoundpacketlength : ℕ
  rtcppacklist : List RTCPPacket

namespace RTCPCompoundPacketBuilder

def new : RTCPCompoundPacketBuilder :=
  { maximumpacketsize := 0
    external := false
    arebuilding := false
    report := .clear
    sdes := []
    byepackets := .clear
    apppackets := .clear
    compoundpacket := none
    compoundpacketlength := 0
    rtcppacklist := [] }

/-- Before this nothing was added, so that only the sizes could have to be cleared. -/
def initBuild (b : RTCPCompoundPacketBuilder) (external : Bool) (maxpacketsize : ℕ) :
    Except BuilderError RTCPCompoundPacketBuilder :=
  if b.arebuilding then .error .alreadyBuilding
  else if b.compoundpacket.isSome then .error .alreadyBuilt
  else if maxpacketsize < RTP_MINPACKETSIZE then
    .error (if external then .bufferSizeTooSmall else .maxPacketSizeTooSmall)
  else
    .ok { b with
      maximumpacketsize := maxpacketsize
      external
      byepackets := .clear
      apppackets := .clear
      arebuilding := true }

/-- What is left for a report. The difference is one of `size_t`. -/
def sizeleft (b : RTCPCompoundPacketBuilder) : ℕ :=
  sizeT (b.maximumpacketsize - (b.byepackets.size + b.apppackets.size + SDES.neededBytes b.sdes : ℕ))

def startSenderReport (b : RTCPCompoundPacketBuilder) (senderssrc : UInt32) (info : SenderInfo) :
    Except BuilderError RTCPCompoundPacketBuilder :=
  if ¬ b.arebuilding then .error .notBuilding
  else if b.report.headerlength ≠ 0 then .error .alreadyGotReport
  else if sizeofRTCPCommonHeader + 4 + sizeofRTCPSenderReport > b.sizeleft then
    .error .notEnoughBytesLeft
  else
    .ok { b with
      report := { b.report with isSR := true, headerdata := put senderssrc ++ senderInfoBytes info } }

def startReceiverReport (b : RTCPCompoundPacketBuilder) (senderssrc : UInt32) :
    Except BuilderError RTCPCompoundPacketBuilder :=
  if ¬ b.arebuilding then .error .notBuilding
  else if b.report.headerlength ≠ 0 then .error .alreadyGotReport
  else if sizeofRTCPCommonHeader + 4 > b.sizeleft then .error .notEnoughBytesLeft
  else .ok { b with report := { b.report with isSR := false, headerdata := put senderssrc } }

def addReportBlock (b : RTCPCompoundPacketBuilder) (block : ReportBlock) :
    Except BuilderError RTCPCompoundPacketBuilder :=
  if ¬ b.arebuilding then .error .notBuilding
  else if b.report.headerlength = 0 then .error .reportNotStarted
  else
    let totalothersize := b.byepackets.size + b.apppackets.size + SDES.neededBytes b.sdes
    if totalothersize + b.report.neededBytesWithExtraReportBlock > b.maximumpacketsize then
      .error .notEnoughBytesLeft
    else
      .ok { b with
        report := { b.report with reportblocks := b.report.reportblocks ++ [reportBlockBytes block] } }

def totalotherbytes (b : RTCPCompoundPacketBuilder) : ℕ :=
  b.byepackets.size + b.apppackets.size + b.report.neededBytes

def addSDESSource (b : RTCPCompoundPacketBuilder) (ssrc : UInt32) :
    Except BuilderError RTCPCompoundPacketBuilder :=
  if ¬ b.arebuilding then .error .notBuilding
  else if b.totalotherbytes + SDES.neededBytesWithExtraSource b.sdes > b.maximumpacketsize then
    .error .notEnoughBytesLeft
  else .ok { b with sdes := b.sdes ++ [.new ssrc] }

def itemId : ItemType → Option UInt8
  | .cname => some 1
  | .name => some 2
  | .email => some 3
  | .phone => some 4
  | .loc => some 5
  | .tool => some 6
  | .note => some 7
  | _ => none

def addItem (b : RTCPCompoundPacketBuilder) (sdesid : UInt8) (itemdata : List UInt8) :
    Except BuilderError RTCPCompoundPacketBuilder :=
  if SDES.neededBytesWithExtraItem b.sdes itemdata.length + b.totalotherbytes >
      b.maximumpacketsize then .error .notEnoughBytesLeft
  else
    .ok { b with
      sdes := SDES.addItem b.sdes
        (put sdesid ++ (put (UInt8.ofNat itemdata.length) ++ itemdata)) }

def addSDESNormalItem (b : RTCPCompoundPacketBuilder) (t : ItemType) (itemdata : ShortBytes) :
    Except BuilderError RTCPCompoundPacketBuilder :=
  if ¬ b.arebuilding then .error .notBuilding
  else if b.sdes = [] then .error .noCurrentSource
  else
    match itemId t with
    | none => .error .invalidItemType
    | some itemid => b.addItem itemid itemdata.val

def addSDESPrivateItem (b : RTCPCompoundPacketBuilder) (prefixdata valuedata : ShortBytes) :
    Except BuilderError RTCPCompoundPacketBuilder :=
  if ¬ b.arebuilding then .error .notBuilding
  else if b.sdes = [] then .error .noCurrentSource
  else if prefixdata.val.length + 1 + valuedata.val.length > 255 then
    .error .totalItemLengthTooBig
  else
    b.addItem RTCP_SDES_ID_PRIVATE
      (put (UInt8.ofNat prefixdata.val.length) ++ (prefixdata.val ++ valuedata.val))

def reasonBytes (offset : ℕ) (reason : List UInt8) : List UInt8 :=
  if reason.length > 0 then
    put (UInt8.ofNat reason.length) ++
      (reason ++ List.replicate (alignment (offset + 1 + reason.length)) 0)
  else []

def byePacket (ssrcs : List UInt32) (reason : List UInt8) : List UInt8 :=
  let offset := sizeofRTCPCommonHeader + 4 * ssrcs.length
  let packsize := offset + (reasonBytes offset reason).length
  (packetHeader ssrcs.length RTP_RTCPTYPE_BYE (packsize / 4)).toBytes ++
    (putMany ssrcs ++ reasonBytes offset reason)

def addBYEPacket (b : RTCPCompoundPacketBuilder) (ssrcs : List UInt32) (reason : ShortBytes) :
    Except BuilderError RTCPCompoundPacketBuilder :=
  if ¬ b.arebuilding then .error .notBuilding
  else if ssrcs.length > 31 then .error .tooManySSRCs
  else
    let packet := byePacket ssrcs reason.val
    if b.totalotherbytes + SDES.neededBytes b.sdes + packet.length > b.maximumpacketsize then
      .error .notEnoughBytesLeft
    else .ok { b with byepackets := b.byepackets.push packet }

def appPacket (subtype : UInt8) (ssrc : UInt32) (name appdata : List UInt8) : List UInt8 :=
  (packetHeader subtype.toNat RTP_RTCPTYPE_APP (appdata.length / 4 + 3)).toBytes ++
    (put ssrc ++ (name ++ appdata))

def addAPPPacket (b : RTCPCompoundPacketBuilder) (subtype : UInt8) (ssrc : UInt32)
    (name : { l : List UInt8 // l.length = 4 }) (appdata : List UInt8) :
    Except BuilderError RTCPCompoundPacketBuilder :=
  if ¬ b.arebuilding then .error .notBuilding
  else if subtype > 31 then .error .illegalSubtype
  else if appdata.length % 4 ≠ 0 then .error .illegalAppDataLength
  else if appdata.length / 4 + 2 > 65535 then .error .appDataLenTooBig
  else
    let packsize := sizeofRTCPCommonHeader + 4 * 2 + appdata.length
    if b.totalotherbytes + SDES.neededBytes b.sdes + packsize > b.maximumpacketsize then
      .error .notEnoughBytesLeft
    else
      .ok { b with apppackets := b.apppackets.push (appPacket subtype ssrc name.val appdata) }

/-- The packets of a compound packet in their order, each with its type. -/
def packets (b : RTCPCompoundPacketBuilder) : List (BitVec 8 × List UInt8) :=
  b.report.packets ++ (SDES.packets b.sdes ++
    (b.apppackets.packets.map (fun p ↦ (RTP_RTCPTYPE_APP, p)) ++
      b.byepackets.packets.map fun p ↦ (RTP_RTCPTYPE_BYE, p)))

def length (b : RTCPCompoundPacketBuilder) : ℕ := b.totalotherbytes + SDES.neededBytes b.sdes

/-- What is written is as long as its buffer, or shorter; a byte that is written past the
end of the buffer is `none`. -/
def endBuild (b : RTCPCompoundPacketBuilder) :
    Option (Except BuilderError RTCPCompoundPacketBuilder) :=
  if ¬ b.arebuilding then some (.error .notBuilding)
  else if b.report.headerlength = 0 then some (.error .noReportPresent)
  else
    let bytes := (b.packets.map Prod.snd).flatten
    if bytes.length > (if b.external then b.maximumpacketsize else b.length) then none
    else do
      let rtcppacklist ← b.packets.mapM fun p ↦ RTCPPacket.ofData p.1 p.2
      return .ok
        { b with
          compoundpacket := some bytes
          compoundpacketlength := b.length
          rtcppacklist
          arebuilding := false
          report := .clear
          sdes := []
          byepackets := .clear
          apppackets := .clear }

end RTCPCompoundPacketBuilder

inductive Call
  | startSenderReport (senderssrc : UInt32) (info : SenderInfo)
  | startReceiverReport (senderssrc : UInt32)
  | addReportBlock (block : ReportBlock)
  | addSDESSource (ssrc : UInt32)
  | addSDESNormalItem (t : ItemType) (itemdata : ShortBytes)
  | addSDESPrivateItem (prefixdata valuedata : ShortBytes)
  | addBYEPacket (ssrcs : List UInt32) (reason : ShortBytes)
  | addAPPPacket (subtype : UInt8) (ssrc : UInt32) (name : { l : List UInt8 // l.length = 4 })
      (appdata : List UInt8)

def RTCPCompoundPacketBuilder.call (b : RTCPCompoundPacketBuilder) :
    Call → Except BuilderError RTCPCompoundPacketBuilder
  | .startSenderReport senderssrc info => b.startSenderReport senderssrc info
  | .startReceiverReport senderssrc => b.startReceiverReport senderssrc
  | .addReportBlock block => b.addReportBlock block
  | .addSDESSource ssrc => b.addSDESSource ssrc
  | .addSDESNormalItem t itemdata => b.addSDESNormalItem t itemdata
  | .addSDESPrivateItem prefixdata valuedata => b.addSDESPrivateItem prefixdata valuedata
  | .addBYEPacket ssrcs reason => b.addBYEPacket ssrcs reason
  | .addAPPPacket subtype ssrc name appdata => b.addAPPPacket subtype ssrc name appdata

end VirtualCamera.Rtp.CompoundBuilder
