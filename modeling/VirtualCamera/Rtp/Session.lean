import VirtualCamera.Library.Memory
import VirtualCamera.Rtp.PacketBuilder

namespace VirtualCamera.Rtp.Session

open Library.Memory PacketBuilder

structure RTPSession where
  created : Bool
  maxpacksize : ℕ
  sliceDataMaxSize : ℕ
  packetbuilder : RTPPacketBuilder
  /-- The transmitter's own packet size limit. -/
  transMaxpacksize : ℕ
  sentpackets : Bool
  /-- The packets handed to the transmitter, oldest first. -/
  sent : List RTPPacket
  deriving DecidableEq, Repr

/-- The builder's `Init`: identifier, stamp and sequence number are random. -/
def RTPPacketBuilder.fresh (max : ℕ) (ssrc timestamp : UInt32) (seqnr : UInt16) :
    RTPPacketBuilder :=
  { init := true, maxpacksize := max, seqnr, timestamp, ssrc, csrcs := [], numpayloadbytes := 0,
    numpackets := 0, lastrtptimestamp := 0, prevrtptimestamp := 0 }

def RTPSession.internalCreate (maxpacksize : ℕ) (ssrc timestamp : UInt32) (seqnr : UInt16) :
    RTPSession :=
  { created := true, maxpacksize, sliceDataMaxSize := maxpacksize - 200,
    packetbuilder := RTPPacketBuilder.fresh maxpacksize ssrc timestamp seqnr,
    transMaxpacksize := maxpacksize, sentpackets := false, sent := [] }

def RTPSession.create (maxpacksize : ℕ) (ssrc timestamp : UInt32) (seqnr : UInt16) :
    Except RTPError RTPSession :=
  if maxpacksize < RTP_MINPACKETSIZE then .error .sessionMaxPacketSizeTooSmall
  else .ok (RTPSession.internalCreate maxpacksize ssrc timestamp seqnr)

def RTPSession.sendRTPData (s : RTPSession) (p : RTPPacket) : Status × RTPSession :=
  if p.getPacketLength > s.transMaxpacksize then (.error .udpv4transSpecifiedSizeTooBig, s)
  else (.ok (), { s with sent := s.sent ++ [p] })

def RTPSession.sendPacket (s : RTPSession) (data : List UInt8) (pt : UInt8) (mark : Bool)
    (timestampinc : UInt32) : Status × RTPSession :=
  if ¬ s.created then (.error .sessionNotCreated, s)
  else
    match s.packetbuilder.buildPacket data pt mark timestampinc with
    | .error e => (.error e, s)
    | .ok (p, b) =>
      match { s with packetbuilder := b }.sendRTPData p with
      | (.error e, s) => (.error e, s)
      | (.ok (), s) => (.ok (), { s with sentpackets := true })

def fuIndicator (naluHeader : UInt8) : UInt8 := (naluHeader &&& 0xE0) ||| 28

def fuStart (naluHeader : UInt8) : UInt8 := (naluHeader &&& 0x1F) ||| 0x80

def fuEnd (naluHeader : UInt8) : UInt8 := (naluHeader &&& 0x1F) ||| 0x40

def fuMiddle (naluHeader : UInt8) : UInt8 := naluHeader &&& 0x1F

/-- The slicing loop with `remaining` of its `n` steps left. A failed send
leaves the process through `exit`, which is `none`. -/
def sliceLoop (data : List UInt8) (pt : UInt8) (timestampinc : UInt32) (naluHeader : UInt8)
    (n : ℕ) (l : ℤ) : (remaining : ℕ) → RTPSession → Option RTPSession
  | 0, s => some s
  | remaining + 1, s =>
    let step := n - (remaining + 1)
    let max := s.sliceDataMaxSize
    let status :=
      if step = 0 then
        s.sendPacket (fuIndicator naluHeader :: fuStart naluHeader :: data.take max) pt false
          timestampinc
      else if step = n - 1 then
        if l = 0 then
          s.sendPacket (fuIndicator naluHeader :: fuEnd naluHeader ::
            (data.drop (step * max)).take max) pt true 0
        else
          s.sendPacket (fuIndicator naluHeader :: fuEnd naluHeader ::
            (data.drop (step * max)).take l.toNat) pt true 0
      else
        s.sendPacket (fuIndicator naluHeader :: fuMiddle naluHeader ::
          (data.drop (step * max)).take max) pt false 0
    match status with
    | (.error _, _) => none
    | (.ok (), s) => sliceLoop data pt timestampinc naluHeader n l remaining s

/-- The payload is assumed to begin with the start code, so byte 4 is the NAL
header; reading it past the end of the buffer is `none`. -/
def RTPSession.sendPacketAfterSlice (s : RTPSession) (data : List UInt8) (pt : UInt8)
    (mark : Bool) (timestampinc : UInt32) : Option (Status × RTPSession) :=
  if ¬ s.created then some (.error .sessionNotCreated, s)
  else if data.length > s.sliceDataMaxSize then
    match data[4]? with
    | none => none
    | some naluHeader =>
      let l := toInt32 (data.length % s.sliceDataMaxSize)
      let n := toInt32 (data.length / s.sliceDataMaxSize) + if l = 0 then 0 else 1
      (sliceLoop data pt timestampinc naluHeader n.toNat l n.toNat s).map fun s ↦ (.ok (), s)
  else
    -- the status of the single send is not looked at
    some (.ok (), (s.sendPacket data pt mark timestampinc).2)

/-- One call of `sendPacketAfterSlice`. The senders pass the length on from a
Java `int`. -/
structure SendCall where
  data : List UInt8
  timestampinc : UInt32
  length_le : data.length ≤ INT_MAX

/-- The packets each call of a run emits. The senders pass `true` for the marker. -/
def RTPSession.emissions (s : RTPSession) (pt : UInt8) : List SendCall → Option (List (List RTPPacket))
  | [] => some []
  | c :: cs =>
    match s.sendPacketAfterSlice c.data pt true c.timestampinc with
    | none => none
    | some (_, s') => (s'.emissions pt cs).map (s'.sent.drop s.sent.length :: ·)

end VirtualCamera.Rtp.Session
