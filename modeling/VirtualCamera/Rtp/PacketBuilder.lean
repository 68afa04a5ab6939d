import Mathlib.Data.UInt
import Mathlib.Data.List.Basic

namespace VirtualCamera.Rtp.PacketBuilder

/-- The negative status codes the sending path returns. -/
inductive RTPError
  | packbuildNotInit
  | packetBadPayloadType
  | packetDataExceedsMaxSize
  | packetTooManyCSRCs
  | sessionNotCreated
  | sessionMaxPacketSizeTooSmall
  | udpv4transSpecifiedSizeTooBig
  deriving DecidableEq, Repr

abbrev Status := Except RTPError Unit

def RTP_MAXCSRCS : ℕ := 15

def RTP_MINPACKETSIZE : ℕ := 600

structure RTPPacket where
  payloadtype : UInt8
  hasmarker : Bool
  seqnr : UInt16
  timestamp : UInt32
  ssrc : UInt32
  csrcs : List UInt32
  payload : List UInt8
  deriving DecidableEq, Repr

/-- `sizeof(RTPHeader)`, one word for each CSRC, and the payload. -/
def packetLength (numcsrcs payloadlen : ℕ) : ℕ := 12 + 4 * numcsrcs + payloadlen

def RTPPacket.getPacketLength (p : RTPPacket) : ℕ := packetLength p.csrcs.length p.payload.length

def RTPPacket.buildPacket (payloadtype : UInt8) (payloaddata : List UInt8) (seqnr : UInt16)
    (timestamp ssrc : UInt32) (gotmarker : Bool) (csrcs : List UInt32) (maxsize : ℕ) :
    Except RTPError RTPPacket :=
  if csrcs.length > RTP_MAXCSRCS then .error .packetTooManyCSRCs
  else if payloadtype > 127 then .error .packetBadPayloadType
  else if payloadtype = 72 ∨ payloadtype = 73 then .error .packetBadPayloadType
  else if maxsize > 0 ∧ packetLength csrcs.length payloaddata.length > maxsize then
    .error .packetDataExceedsMaxSize
  else
    .ok { payloadtype := payloadtype &&& 127, hasmarker := gotmarker, seqnr, timestamp, ssrc,
          csrcs, payload := payloaddata }

/-- The payload types `buildPacket` accepts. -/
def ValidPayloadType (pt : UInt8) : Prop := ¬ pt > 127 ∧ ¬ (pt = 72 ∨ pt = 73)

instance (pt : UInt8) : Decidable (ValidPayloadType pt) := inferInstanceAs (Decidable (_ ∧ _))

theorem ValidPayloadType.masked {pt : UInt8} (h : ValidPayloadType pt) : pt &&& 127 = pt := by
  have hlt : pt.toNat < 128 := by
    have := h.1
    simp only [gt_iff_lt, UInt8.lt_iff_toNat_lt] at this
    have h127 : (127 : UInt8).toNat = 127 := rfl
    omega
  apply UInt8.toNat_inj.mp
  rw [UInt8.toNat_and]
  exact Nat.and_two_pow_sub_one_of_lt_two_pow (n := 7) hlt

structure RTPPacketBuilder where
  init : Bool
  maxpacksize : ℕ
  seqnr : UInt16
  timestamp : UInt32
  ssrc : UInt32
  csrcs : List UInt32
  numpayloadbytes : UInt32
  numpackets : UInt32
  lastrtptimestamp : UInt32
  prevrtptimestamp : UInt32
  deriving DecidableEq, Repr

variable (b : RTPPacketBuilder) (data : List UInt8) (pt : UInt8) (mark : Bool)
  (timestampinc : UInt32)

/-- The counters, the stamp and the sequence number after a packet was built. -/
def RTPPacketBuilder.next : RTPPacketBuilder :=
  let newstamp := b.numpackets = 0 ∨ b.timestamp ≠ b.prevrtptimestamp
  { b with
    lastrtptimestamp := if newstamp then b.timestamp else b.lastrtptimestamp
    prevrtptimestamp := if newstamp then b.timestamp else b.prevrtptimestamp
    numpayloadbytes := b.numpayloadbytes + UInt32.ofNat data.length
    numpackets := b.numpackets + 1
    timestamp := b.timestamp + timestampinc
    seqnr := b.seqnr + 1 }

/-- The packet carries the stamp held before the increment is added. -/
def RTPPacketBuilder.privateBuildPacket : Except RTPError (RTPPacket × RTPPacketBuilder) :=
  match RTPPacket.buildPacket pt data b.seqnr b.timestamp b.ssrc mark b.csrcs b.maxpacksize with
  | .error e => .error e
  | .ok p => .ok (p, b.next p.payload timestampinc)

def RTPPacketBuilder.buildPacket : Except RTPError (RTPPacket × RTPPacketBuilder) :=
  if ¬ b.init then .error .packbuildNotInit
  else b.privateBuildPacket data pt mark timestampinc

/-- The packet that building succeeds with. -/
def RTPPacketBuilder.packet : RTPPacket :=
  { payloadtype := pt, hasmarker := mark, seqnr := b.seqnr, timestamp := b.timestamp,
    ssrc := b.ssrc, csrcs := b.csrcs, payload := data }

@[simp] theorem next_timestamp : (b.next data timestampinc).timestamp = b.timestamp + timestampinc :=
  rfl

/-- A packet that fits is built, and only the counters and the stamp move. -/
theorem buildPacket_ok {b : RTPPacketBuilder} {data : List UInt8} {pt : UInt8} (hinit : b.init)
    (hpt : ValidPayloadType pt) (hcsrcs : b.csrcs.length ≤ RTP_MAXCSRCS)
    (hfit : packetLength b.csrcs.length data.length ≤ b.maxpacksize) :
    b.buildPacket data pt mark timestampinc =
      .ok (b.packet data pt mark, b.next data timestampinc) := by
  have hsize : ¬ (b.maxpacksize > 0 ∧
      packetLength b.csrcs.length data.length > b.maxpacksize) := by omega
  have hp : RTPPacket.buildPacket pt data b.seqnr b.timestamp b.ssrc mark b.csrcs b.maxpacksize =
      .ok (b.packet data pt mark) := by
    unfold RTPPacket.buildPacket
    rw [if_neg (by omega), if_neg hpt.1, if_neg hpt.2, if_neg hsize, hpt.masked]
    rfl
  unfold RTPPacketBuilder.buildPacket RTPPacketBuilder.privateBuildPacket
  rw [if_neg (not_not_intro hinit), hp]
  rfl

/-- Any other packet is refused. -/
theorem buildPacket_error {b : RTPPacketBuilder} {data : List UInt8} {pt : UInt8}
    (hinit : b.init) (hmax : 0 < b.maxpacksize)
    (hbad : ValidPayloadType pt → b.maxpacksize < packetLength b.csrcs.length data.length) :
    ∃ e, b.buildPacket data pt mark timestampinc = .error e := by
  have hp : ∃ e, RTPPacket.buildPacket pt data b.seqnr b.timestamp b.ssrc mark b.csrcs
      b.maxpacksize = .error e := by
    unfold RTPPacket.buildPacket
    by_cases hcsrcs : b.csrcs.length > RTP_MAXCSRCS
    · exact ⟨_, if_pos hcsrcs⟩
    · rw [if_neg hcsrcs]
      by_cases hlarge : pt > 127
      · exact ⟨_, if_pos hlarge⟩
      · rw [if_neg hlarge]
        by_cases hreserved : pt = 72 ∨ pt = 73
        · exact ⟨_, if_pos hreserved⟩
        · rw [if_neg hreserved]
          exact ⟨_, if_pos ⟨hmax, hbad ⟨hlarge, hreserved⟩⟩⟩
  obtain ⟨e, hp⟩ := hp
  refine ⟨e, ?_⟩
  unfold RTPPacketBuilder.buildPacket RTPPacketBuilder.privateBuildPacket
  rw [if_neg (not_not_intro hinit), hp]

end VirtualCamera.Rtp.PacketBuilder
