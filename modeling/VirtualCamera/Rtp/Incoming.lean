import VirtualCamera.Library.Halting
import VirtualCamera.Rtp.PacketFormat
import VirtualCamera.Rtp.RtcpReading
import VirtualCamera.Rtp.SourceAddresses

namespace VirtualCamera.Rtp.Incoming

open Library.Cursor Library.CursorTable Library.Fallible Library.Halting Library.Transition
open Library.Memory Library.Wire
open Packet PacketFormat SourceStats Source Sources SourceCounts SourceAddresses
open RtcpPacket RtcpReading SDESFormat
open PacketBuilder (RTP_MAXCSRCS)

def ERR_RTP_SDES_LENGTHTOOBIG : ℤ := -55

def ERR_RTP_SOURCES_ILLEGALSDESTYPE : ℤ := -67

/-- A packet as the transmitter hands it over. -/
structure ReceivedPacket (T A : Type) extends RTPRawPacket where
  receivetime : T
  senderaddress : Option A

/-- The items that may be processed. -/
def sdesid : ItemType → Option SDESItemType
  | .cname => some .cname
  | .name => some .name
  | .email => some .email
  | .phone => some .phone
  | .loc => some .location
  | .tool => some .tool
  | .note => some .note
  | .none | .priv | .unknown => none

variable {T A : Type}

/-- What `ProcessSDESItem` returns. It is the status of a setter, but for the `CNAME`. -/
def itemStatus (d : RTPSourceData T A) (sdesid : SDESItemType) (itemdata : List UInt8) :
    Except ℤ Unit :=
  let set : Bool := match sdesid with
    | .cname => false
    | .name => d.sdesinf.name.isEmpty
    | .email => d.sdesinf.email.isEmpty
    | .tool => d.sdesinf.tool.isEmpty
    | .phone | .location | .note => true
  if set ∧ itemdata.length > RTCP_SDES_MAXITEMLENGTH then .error ERR_RTP_SDES_LENGTHTOOBIG
  else .ok ()

/-- The sources that a packet was mixed from. -/
def readCSRCs (p : RTPPacket) : Option (List UInt32) :=
  (List.range (min p.numcsrcs RTP_MAXCSRCS)).mapM fun i : ℕ ↦ p.getCSRC i

section Model

variable [DecidableEq A] [RTPAddress A] (zero : T) (receivetime : T) (senderaddress : Option A)
  (s : RTPSources T A)

/-- Of what the sender says of itself, the time is all that is kept here. -/
def processRTCPSenderInfo (ssrc : UInt32) (_info : SenderInfo) : RTPSources T A :=
  s.updateReceiveTime zero ssrc receivetime senderaddress

def processRTCPReportBlock (ssrc : UInt32) (_block : ReportBlock) : RTPSources T A :=
  s.updateReceiveTime zero ssrc receivetime senderaddress

def processSDESNormalItem (ssrc : UInt32) (t : ItemType) (itemdata : List UInt8) :
    Except ℤ Unit × RTPSources T A :=
  match sdesid t with
  | none => (.error ERR_RTP_SOURCES_ILLEGALSDESTYPE, s)
  | some sdesid =>
    let status := match (s.getRTCPSourceData zero ssrc senderaddress).1 with
      | none => .ok ()
      | some srcdat => itemStatus srcdat sdesid itemdata
    (status, s.processSDESNormalItem zero ssrc sdesid itemdata receivetime senderaddress)

/-- That there are too many prefixes is no error. Private items are not kept here. -/
def processSDESPrivateItem (ssrc : UInt32) (_prefixdata _valuedata : List UInt8) :
    RTPSources T A := s.updateReceiveTime zero ssrc receivetime senderaddress

def processItem (ssrc : UInt32) (s : RTPSources T A) : SDESItem → Except ℤ Unit × RTPSources T A
  | .normal t itemdata => processSDESNormalItem zero receivetime senderaddress s ssrc t itemdata
  | .priv prefixdata valuedata =>
    (.ok (), processSDESPrivateItem zero receivetime senderaddress s ssrc prefixdata valuedata)

/-- A chunk without items tells that its source is still there. -/
def processChunk (s : RTPSources T A) (c : SDESChunk) : Except ℤ Unit × RTPSources T A :=
  if c.items.isEmpty then (.ok (), s.updateReceiveTime zero c.ssrc receivetime senderaddress)
  else runUntil (processItem zero receivetime senderaddress c.ssrc) s c.items

/-- The blocks that are about the own source. When there are none, the sender is still
there. -/
def processReports (ownssrc : Option UInt32) (senderssrc : UInt32) (blocks : List ReportBlock) :
    RTPSources T A :=
  if blocks.any fun b ↦ ownssrc = some b.ssrc then
    blocks.foldl (fun s b ↦
      if ownssrc = some b.ssrc then
        processRTCPReportBlock zero receivetime senderaddress s senderssrc b
      else s) s
  else s.updateReceiveTime zero senderssrc receivetime senderaddress

def processContent (ownssrc : Option UInt32) (s : RTPSources T A) :
    Content → Except ℤ Unit × RTPSources T A
  | .sr senderssrc info blocks =>
    let s := processRTCPSenderInfo zero receivetime senderaddress s senderssrc info
    (.ok (), processReports zero receivetime senderaddress s ownssrc senderssrc blocks)
  | .rr senderssrc blocks =>
    (.ok (), processReports zero receivetime senderaddress s ownssrc senderssrc blocks)
  | .sdes chunks => runUntil (processChunk zero receivetime senderaddress) s chunks
  | .bye ssrcs reason =>
    (.ok (), ssrcs.foldl (fun s ssrc ↦
      s.processBYE zero ssrc reason receivetime senderaddress) s)
  | .app _ _ _ _ | .unknownType | .unknownFormat => (.ok (), s)

/-- The own number is looked up once. -/
def processRTCPCompoundPacket (contents : List Content) : Except ℤ Unit × RTPSources T A :=
  runUntil (processContent zero receivetime senderaddress s.owndata) s contents

/-- The address that a packet is processed under, if it is. A packet of the session itself
gets the null one. -/
def acceptedAddress (comesFromThisTransmitter : Option A → Bool) (acceptownpackets : Bool)
    (senderaddress : Option A) : Option (Option A) :=
  if comesFromThisTransmitter senderaddress then if acceptownpackets then some none else none
  else some senderaddress

/-- `handled` tells which packets `OnValidatedRTPPacket` takes. A read out of the packet's
bytes is `none`. -/
def processRawPacket (handled : RTPPacket → Bool) (comesFromThisTransmitter : Option A → Bool)
    (acceptownpackets : Bool) (rawpack : ReceivedPacket T A) :
    Option (Except ℤ Unit × RTPSources T A) :=
  let accepted := acceptedAddress comesFromThisTransmitter acceptownpackets rawpack.senderaddress
  if rawpack.isrtp then do
    match ← RTPPacket.parseRawPacket rawpack.toRTPRawPacket with
    | .error e => if e = ERR_RTP_PACKET_INVALIDPACKET then return (.ok (), s) else return (.error e, s)
    | .ok rtppack =>
      match accepted with
      | none => return (.ok (), s)
      | some address =>
        let csrcs ← readCSRCs rtppack
        return (.ok (), (s.processRTPPacket zero rtppack csrcs rawpack.receivetime address
          (handled rtppack)).sources)
  else do
    match ← RTCPCompoundPacket rawpack.toRTPRawPacket with
    | .error e =>
      if e = ERR_RTP_RTCPCOMPOUND_INVALIDPACKET then return (.ok (), s) else return (.error e, s)
    | .ok packets =>
      match accepted with
      | none => return (.ok (), s)
      | some address =>
        let contents ← packets.mapM RTCPPacket.read
        return processRTCPCompoundPacket zero rawpack.receivetime address s contents

end Model

section Reading

/-- The chunks of a content are chunks of the wire format, as they are read. -/
def Read : Content → Prop
  | .sdes chunks => ∃ ws : List WireChunk, chunks = ws.map WireChunk.read
  | _ => True

theorem packettype_of_read {p : RTCPPacket} {chunks : List SDESChunk}
    (h : p.read = some (.sdes chunks)) : p.knownformat = true ∧ p.packettype = .sdes := by
  unfold RTCPPacket.read at h
  split at h
  · cases h
  · rename_i hknown
    refine ⟨not_not.mp hknown, ?_⟩
    cases htype : p.packettype with
    | sdes => rfl
    | _ => simp [htype, Option.bind_eq_some_iff] at h

theorem packettype_reportPacket {t : PacketType} {reportoffset : ℕ} {data : List UInt8}
    {p : RTCPPacket} (h : reportPacket t reportoffset data = some p) : p.packettype = t := by
  simp only [reportPacket, Option.bind_eq_bind, Option.bind_eq_some_iff] at h
  obtain ⟨hdr, -, r, -, h⟩ := h
  cases r with
  | none =>
    cases h
    rfl
  | some len =>
    simp only at h
    split at h
    · cases h
      rfl
    · cases h
      rfl

theorem packettype_RTCPBYEPacket {data : List UInt8} {p : RTCPPacket}
    (h : RTCPBYEPacket data = some p) : p.packettype = .bye := by
  simp only [RTCPBYEPacket, Option.bind_eq_bind, Option.bind_eq_some_iff] at h
  obtain ⟨hdr, -, r, -, h⟩ := h
  cases r with
  | none =>
    cases h
    rfl
  | some len =>
    simp only at h
    split at h
    · cases h
      rfl
    · split at h
      · obtain ⟨reaslen, -, h⟩ := Option.bind_eq_some_iff.mp h
        split at h
        · cases h
          rfl
        · cases h
          rfl
      · cases h
        rfl

theorem packettype_RTCPAPPPacket {data : List UInt8} {p : RTCPPacket}
    (h : RTCPAPPPacket data = some p) : p.packettype = .app := by
  simp only [RTCPAPPPacket, Option.bind_eq_bind, Option.bind_eq_some_iff] at h
  obtain ⟨hdr, -, r, -, h⟩ := h
  cases r with
  | none =>
    cases h
    rfl
  | some len =>
    simp only at h
    split at h
    · cases h
      rfl
    · cases h
      rfl

/-- Only the packets that describe sources say what they are. -/
theorem RTCPSDESPacket_of_ofData {packettype : BitVec 8} {data : List UInt8} {p : RTCPPacket}
    (h : RTCPPacket.ofData packettype data = some p) (htype : p.packettype = .sdes) :
    RTCPSDESPacket data = some p := by
  unfold RTCPPacket.ofData at h
  split at h
  · rw [packettype_reportPacket h] at htype
    cases htype
  · split at h
    · rw [packettype_reportPacket h] at htype
      cases htype
    · split at h
      · exact h
      · split at h
        · rw [packettype_RTCPBYEPacket h] at htype
          cases htype
        · split at h
          · rw [packettype_RTCPAPPPacket h] at htype
            cases htype
          · cases h
            cases htype

theorem read_ofData {packettype : BitVec 8} {data : List UInt8} {p : RTCPPacket} {c : Content}
    (hlen : sizeofRTCPCommonHeader ≤ data.length) (h : RTCPPacket.ofData packettype data = some p)
    (hc : p.read = some c) : Read c := by
  cases c with
  | sdes chunks =>
    obtain ⟨hknown, htype⟩ := packettype_of_read hc
    have hp := RTCPSDESPacket_of_ofData h htype
    obtain ⟨p', hp', -, -, hform⟩ := form_of_known hlen
    rw [hp, Option.some.injEq] at hp'
    obtain ⟨ws, hws⟩ := hform (hp' ▸ hknown)
    rw [RTCPSDESPacket_of_form hws, Option.some.injEq] at hp
    have hread := readSDES_of_form hws
    rw [hp] at hread
    rw [RTCPPacket.read, if_neg (not_not_intro hknown), htype] at hc
    simp only [hread, Option.map_some, Option.some.injEq, Content.sdes.injEq] at hc
    exact ⟨ws, hc.symm⟩
  | _ => trivial

theorem read_parseData {data : List UInt8} {packets : List RTCPPacket} {contents : List Content}
    (h : parseData data = some (.ok packets)) (hc : packets.mapM RTCPPacket.read = some contents) :
    ∀ c ∈ contents, Read c := by
  intro c hmem
  have hreads := mapM_eq_some.mp hc
  obtain ⟨p, hp, hpc⟩ := List.mem_map.mp
    (hreads ▸ List.mem_map_of_mem hmem : some c ∈ packets.map RTCPPacket.read)
  obtain ⟨packettype, b, hlen, hb⟩ := ofData_of_parseData h hp
  exact read_ofData hlen hb hpc

theorem exists_contents {data : List UInt8} {packets : List RTCPPacket}
    (h : parseData data = some (.ok packets)) :
    ∃ contents, packets.mapM RTCPPacket.read = some contents :=
  exists_mapM fun _ hp ↦ readable_of_parseData h hp

/-- The sources that an accepted packet was mixed from are in the packet. -/
theorem exists_readCSRCs {raw : RTPRawPacket} {p : RTPPacket}
    (h : RTPPacket.parseRawPacket raw = some (.ok p)) : ∃ csrcs, readCSRCs p = some csrcs := by
  obtain ⟨-, hdr, numpadbytes, ext, hacc⟩ := accepted_of_parse h
  have hfill := hacc.fill
  have hcc : hdr.csrccount.toNat < 16 := hdr.csrccount.isLt
  have hfit : sizeofRTPHeader + 4 * hdr.csrccount.toNat ≤ raw.data.length := by
    by_cases hlen : raw.data.length ≤ INT_MAX
    · have := le_of_fill hlen hfill
      omega
    · unfold INT_MAX at hlen
      unfold sizeofRTPHeader
      omega
  have hp : p.numcsrcs = hdr.csrccount.toNat ∧ p.packet = raw.data := by
    simp only [RTPPacket.fill] at hfill
    split at hfill
    · cases hfill
    · cases hfill
      exact ⟨rfl, rfl⟩
  obtain ⟨hnum, hpacket⟩ := hp
  apply exists_mapM
  intro i hi
  have hlt := List.mem_range.mp hi
  unfold RTPPacket.getCSRC
  rw [if_neg (by omega), if_neg (by omega), hpacket]
  apply exists_get
  simp only [WireWord.width]
  omega

end Reading

section Failures

/-- An item of a type that is none of the eight. -/
def Illegal (x : SDESItem) : Prop := ∃ itemdata, x = .normal .unknown itemdata

def HasIllegalItem : Content → Prop
  | .sdes chunks => ∃ c ∈ chunks, ∃ x ∈ c.items, Illegal x
  | _ => False

theorem sdesid_ofId {i : UInt8} (hzero : i ≠ 0) (hpriv : i ≠ RTCP_SDES_ID_PRIVATE) :
    sdesid (ItemType.ofId i) = none ↔ ItemType.ofId i = .unknown := by
  have hne : ItemType.ofId i ≠ .priv := fun h ↦ hpriv (ofId_eq_priv.mp h)
  have hnone : ItemType.ofId i ≠ .none := by
    unfold ItemType.ofId
    rw [if_neg hzero]
    split_ifs <;> exact ItemType.noConfusion
  cases hi : ItemType.ofId i with
  | none => exact absurd hi hnone
  | priv => exact absurd hi hne
  | unknown => exact iff_of_true rfl rfl
  | _ => exact iff_of_false (by simp [sdesid]) (by simp)

theorem itemStatus_ok (d : RTPSourceData T A) (i : SDESItemType) {itemdata : List UInt8}
    (hlen : itemdata.length ≤ 255) : itemStatus d i itemdata = .ok () :=
  if_neg fun hno ↦ absurd hno.2 (not_lt.mpr hlen)

variable [DecidableEq A] [RTPAddress A] {zero : T} {receivetime : T} {senderaddress : Option A}

/-- An item that was read fails for its type, and for nothing else. -/
theorem processItem_error_iff (s : RTPSources T A) (ssrc : UInt32) (w : WireItem) (e : ℤ) :
    (processItem zero receivetime senderaddress ssrc s w.read).1 = .error e ↔
      Illegal w.read ∧ e = ERR_RTP_SOURCES_ILLEGALSDESTYPE := by
  unfold WireItem.read
  by_cases hpriv : w.sdesid = RTCP_SDES_ID_PRIVATE
  · rw [if_neg (not_not_intro hpriv)]
    refine iff_of_false (fun hno ↦ by cases hno) ?_
    rintro ⟨⟨_, hno⟩, -⟩
    cases hno
  · rw [if_pos hpriv]
    have hillegal : Illegal (.normal (ItemType.ofId w.sdesid) w.itemdata) ↔
        sdesid (ItemType.ofId w.sdesid) = none := by
      rw [sdesid_ofId w.sdesid_ne hpriv]
      constructor
      · rintro ⟨_, h⟩
        exact (SDESItem.normal.inj h).1
      · exact fun h ↦ ⟨w.itemdata, by rw [h]⟩
    rw [hillegal]
    simp only [processItem, processSDESNormalItem]
    cases hid : sdesid (ItemType.ofId w.sdesid) with
    | none =>
      simp only [Except.error.injEq, true_and]
      exact eq_comm
    | some i =>
      refine iff_of_false ?_ fun hno ↦ by cases hno.1
      simp only
      split
      · exact fun hno ↦ by cases hno
      · rw [itemStatus_ok _ _ w.length_le]
        exact fun hno ↦ by cases hno

theorem processChunk_error_iff (s : RTPSources T A) (w : WireChunk) (e : ℤ) :
    (processChunk zero receivetime senderaddress s w.read).1 = .error e ↔
      (∃ x ∈ w.read.items, Illegal x) ∧ e = ERR_RTP_SOURCES_ILLEGALSDESTYPE := by
  unfold processChunk
  split
  · rename_i hnil
    rw [List.isEmpty_iff] at hnil
    refine iff_of_false (fun hno ↦ by cases hno) ?_
    rintro ⟨⟨x, hx, -⟩, -⟩
    rw [hnil] at hx
    cases hx
  · apply runUntil_error_iff (P := fun _ ↦ True)
    · exact fun _ _ _ _ ↦ trivial
    · intro x hx s _ e
      obtain ⟨i, -, rfl⟩ := List.mem_map.mp (show x ∈ w.items.map WireItem.read from hx)
      exact processItem_error_iff s _ i e
    · trivial

theorem processContent_error_iff (ownssrc : Option UInt32) (s : RTPSources T A) {c : Content}
    (hread : Read c) (e : ℤ) :
    (processContent zero receivetime senderaddress ownssrc s c).1 = .error e ↔
      HasIllegalItem c ∧ e = ERR_RTP_SOURCES_ILLEGALSDESTYPE := by
  cases c with
  | sdes chunks =>
    obtain ⟨ws, rfl⟩ := hread
    apply runUntil_error_iff (P := fun _ ↦ True)
    · exact fun _ _ _ _ ↦ trivial
    · intro c hc s _ e
      obtain ⟨w, -, rfl⟩ := List.mem_map.mp hc
      exact processChunk_error_iff s w e
    · trivial
  | _ => exact iff_of_false (fun hno ↦ by cases hno) fun hno ↦ hno.1

theorem processRTCPCompoundPacket_error_iff (s : RTPSources T A) {contents : List Content}
    (hread : ∀ c ∈ contents, Read c) (e : ℤ) :
    (processRTCPCompoundPacket zero receivetime senderaddress s contents).1 = .error e ↔
      (∃ c ∈ contents, HasIllegalItem c) ∧ e = ERR_RTP_SOURCES_ILLEGALSDESTYPE := by
  apply runUntil_error_iff (P := fun _ ↦ True)
  · exact fun _ _ _ _ ↦ trivial
  · exact fun c hc s _ e ↦ processContent_error_iff _ s (hread c hc) e
  · trivial

/-- What cannot be parsed is not told apart. -/
theorem parseRawPacket_error {raw : RTPRawPacket} {e : ℤ}
    (h : RTPPacket.parseRawPacket raw = some (.error e)) : e = ERR_RTP_PACKET_INVALIDPACKET := by
  unfold RTPPacket.parseRawPacket at h
  split at h
  · cases h
    rfl
  · split at h
    · cases h
      rfl
    · simp only [Option.bind_eq_bind, Option.bind_eq_some_iff] at h
      obtain ⟨hdr, -, h⟩ := h
      split at h
      · cases h
        rfl
      · obtain ⟨numpadbytes, -, h⟩ := Option.bind_eq_some_iff.mp h
        split at h
        · cases h
          rfl
        · obtain ⟨ext, -, h⟩ := Option.bind_eq_some_iff.mp h
          have hfill := Option.some.inj h
          simp only [RTPPacket.fill] at hfill
          split at hfill
          · cases hfill
            rfl
          · cases hfill

theorem parseLoop_error {fuel : ℕ} {first : Bool} {data : List UInt8} {e : ℤ}
    (h : parseLoop fuel first data = some (.error e)) :
    e = ERR_RTP_RTCPCOMPOUND_INVALIDPACKET := by
  induction fuel generalizing first data with
  | zero => cases h
  | succ fuel ih =>
    simp only [parseLoop, Option.bind_eq_bind, Option.bind_eq_some_iff] at h
    obtain ⟨hdr, -, h⟩ := h
    -- the four checks of the header, and then the rest of the bytes
    split_ifs at h
    · cases h
      rfl
    · cases h
      rfl
    · cases h
      rfl
    · cases h
      rfl
    · obtain ⟨p, -, h⟩ := Option.bind_eq_some_iff.mp h
      obtain ⟨r, hr, h⟩ := Option.map_eq_some_iff.mp h
      cases r with
      | error e' =>
        cases h
        exact ih hr
      | ok ps => cases h
    · obtain ⟨p, -, h⟩ := Option.bind_eq_some_iff.mp h
      cases h
      rfl
    · obtain ⟨p, -, h⟩ := Option.bind_eq_some_iff.mp h
      cases h

theorem parseData_error {data : List UInt8} {e : ℤ} (h : parseData data = some (.error e)) :
    e = ERR_RTP_RTCPCOMPOUND_INVALIDPACKET := by
  unfold parseData at h
  split at h
  · cases h
    rfl
  · exact parseLoop_error h

/-- The bytes are a compound packet that is processed, and one of its chunks has an item of
an illegal type. -/
def Stops (comesFromThisTransmitter : Option A → Bool) (acceptownpackets : Bool)
    (rawpack : ReceivedPacket T A) : Prop :=
  rawpack.isrtp = false ∧
    (acceptedAddress comesFromThisTransmitter acceptownpackets rawpack.senderaddress).isSome ∧
    ∃ packets contents, parseData rawpack.data = some (.ok packets) ∧
      packets.mapM RTCPPacket.read = some contents ∧ ∃ c ∈ contents, HasIllegalItem c

end Failures

section Steps

variable [DecidableEq A] [RTPAddress A] [LT T] [DecidableLT T] {zero : T}
  {receivetime : T} {senderaddress : Option A}

def Step (zero : T) (s : RTPSources T A) (e : Event T A) (s' : RTPSources T A) : Prop :=
  step zero s e = s'

theorem reachable_step (s : RTPSources T A) (e : Event T A) :
    Reachable (Step zero) s (step zero s e) := ⟨[e], .one rfl⟩

theorem reachable_foldl {β : Type} {f : RTPSources T A → β → RTPSources T A}
    (hf : ∀ s b, Reachable (Step zero) s (f s b)) (l : List β) (s : RTPSources T A) :
    Reachable (Step zero) s (l.foldl f s) := by
  induction l generalizing s with
  | nil => exact ⟨[], .nil s⟩
  | cons b l ih =>
    obtain ⟨es, hes⟩ := ih (f s b)
    exact (hf s b).trans hes

theorem processItem_reachable (ssrc : UInt32) (s : RTPSources T A) (x : SDESItem) :
    Reachable (Step zero) s (processItem zero receivetime senderaddress ssrc s x).2 := by
  cases x with
  | priv prefixdata valuedata => exact reachable_step s (.report ssrc receivetime senderaddress)
  | normal t itemdata =>
    simp only [processItem, processSDESNormalItem]
    cases sdesid t with
    | none => exact ⟨[], .nil s⟩
    | some i => exact reachable_step s (.sdes ssrc i itemdata receivetime senderaddress)

theorem processChunk_reachable (s : RTPSources T A) (c : SDESChunk) :
    Reachable (Step zero) s (processChunk zero receivetime senderaddress s c).2 := by
  unfold processChunk
  split
  · exact reachable_step s (.report c.ssrc receivetime senderaddress)
  · exact runUntil_reachable (fun x _ s ↦ processItem_reachable c.ssrc s x) s

theorem processReports_reachable (ownssrc : Option UInt32) (senderssrc : UInt32)
    (blocks : List ReportBlock) (s : RTPSources T A) :
    Reachable (Step zero) s
      (processReports zero receivetime senderaddress s ownssrc senderssrc blocks) := by
  unfold processReports
  split
  · apply reachable_foldl
    intro s b
    split
    · exact reachable_step s (.report senderssrc receivetime senderaddress)
    · exact ⟨[], .nil s⟩
  · exact reachable_step s (.report senderssrc receivetime senderaddress)

theorem processContent_reachable (ownssrc : Option UInt32) (s : RTPSources T A) (c : Content) :
    Reachable (Step zero) s (processContent zero receivetime senderaddress ownssrc s c).2 := by
  cases c with
  | sr senderssrc info blocks =>
    obtain ⟨es, hes⟩ := processReports_reachable ownssrc senderssrc blocks
      (s.updateReceiveTime zero senderssrc receivetime senderaddress)
    exact (reachable_step s (.report senderssrc receivetime senderaddress)).trans hes
  | rr senderssrc blocks => exact processReports_reachable ownssrc senderssrc blocks s
  | sdes chunks => exact runUntil_reachable (fun c _ s ↦ processChunk_reachable s c) s
  | bye ssrcs reason =>
    exact reachable_foldl
      (fun s ssrc ↦ reachable_step s (.bye ssrc reason receivetime senderaddress)) ssrcs s
  | app | unknownType | unknownFormat => exact ⟨[], .nil s⟩

theorem processRTCPCompoundPacket_reachable (s : RTPSources T A) (contents : List Content) :
    Reachable (Step zero) s
      (processRTCPCompoundPacket zero receivetime senderaddress s contents).2 :=
  runUntil_reachable (fun c _ s ↦ processContent_reachable _ s c) s

end Steps

section Received

variable [DecidableEq A] [RTPAddress A] [LT T] [DecidableLT T] (zero : T) (s : RTPSources T A)
  (handled : RTPPacket → Bool) (comesFromThisTransmitter : Option A → Bool)
  (acceptownpackets : Bool) (rawpack : ReceivedPacket T A)

/-- A packet that comes by RTP is never an error. -/
theorem processRawPacket_rtp (hrtp : rawpack.isrtp) :
    RTPPacket.parseRawPacket rawpack.toRTPRawPacket = none ∧
        processRawPacket zero s handled comesFromThisTransmitter acceptownpackets rawpack = none ∨
      RTPPacket.parseRawPacket rawpack.toRTPRawPacket ≠ none ∧ ∃ s', Reachable (Step zero) s s' ∧
        processRawPacket zero s handled comesFromThisTransmitter acceptownpackets rawpack =
          some (.ok (), s') := by
  simp only [processRawPacket, if_pos hrtp, Option.bind_eq_bind]
  cases hparse : RTPPacket.parseRawPacket rawpack.toRTPRawPacket with
  | none => exact .inl ⟨rfl, rfl⟩
  | some parsed =>
    refine .inr ⟨Option.some_ne_none parsed, ?_⟩
    rw [Option.bind_some]
    cases parsed with
    | error e => exact ⟨s, ⟨[], .nil s⟩, if_pos (parseRawPacket_error hparse)⟩
    | ok rtppack =>
      obtain ⟨csrcs, hcsrcs⟩ := exists_readCSRCs hparse
      dsimp only
      split
      · exact ⟨s, ⟨[], .nil s⟩, rfl⟩
      · rw [hcsrcs]
        exact ⟨_, reachable_step s (.rtp rtppack csrcs rawpack.receivetime _ (handled rtppack)), rfl⟩

omit [LT T] [DecidableLT T] in
/-- A packet that comes by RTCP is processed, or it is dropped. -/
theorem processRawPacket_rtcp (hrtcp : rawpack.isrtp = false) :
    (∃ packets contents address, parseData rawpack.data = some (.ok packets) ∧
        packets.mapM RTCPPacket.read = some contents ∧
        acceptedAddress comesFromThisTransmitter acceptownpackets rawpack.senderaddress =
          some address ∧
        processRawPacket zero s handled comesFromThisTransmitter acceptownpackets rawpack =
          some (processRTCPCompoundPacket zero rawpack.receivetime address s contents)) ∨
      ((∃ e, parseData rawpack.data = some (.error e)) ∨
        acceptedAddress comesFromThisTransmitter acceptownpackets rawpack.senderaddress = none) ∧
        processRawPacket zero s handled comesFromThisTransmitter acceptownpackets rawpack =
          some (.ok (), s) := by
  have hnot : ¬ rawpack.isrtp = true := by rw [hrtcp]; exact Bool.false_ne_true
  obtain ⟨parsed, hparse⟩ := exists_parseData rawpack.data
  simp only [processRawPacket, if_neg hnot, RTCPCompoundPacket, hparse, Option.bind_eq_bind,
    Option.bind_some]
  cases parsed with
  | error e => exact .inr ⟨.inl ⟨e, rfl⟩, if_pos (parseData_error hparse)⟩
  | ok packets =>
    obtain ⟨contents, hcontents⟩ := exists_contents hparse
    cases haddress :
        acceptedAddress comesFromThisTransmitter acceptownpackets rawpack.senderaddress with
    | none => exact .inr ⟨.inr rfl, rfl⟩
    | some address =>
      refine .inl ⟨packets, contents, address, rfl, hcontents, rfl, ?_⟩
      dsimp only
      rw [hcontents]
      rfl

theorem processRawPacket_reachable {r : Except ℤ Unit} {s' : RTPSources T A}
    (h : processRawPacket zero s handled comesFromThisTransmitter acceptownpackets rawpack =
      some (r, s')) : Reachable (Step zero) s s' := by
  cases hrtp : rawpack.isrtp with
  | true =>
    obtain ⟨-, hnone⟩ | ⟨-, t, ht, hok⟩ := processRawPacket_rtp zero s handled
      comesFromThisTransmitter acceptownpackets rawpack hrtp
    · rw [h] at hnone
      cases hnone
    · rw [h] at hok
      cases hok
      exact ht
  | false =>
    obtain ⟨_, contents, address, -, -, -, hcall⟩ | ⟨-, hcall⟩ := processRawPacket_rtcp zero s
      handled comesFromThisTransmitter acceptownpackets rawpack hrtp
    · have hs' : (processRTCPCompoundPacket zero rawpack.receivetime address s contents).2 = s' :=
        congrArg Prod.snd (Option.some.inj (hcall.symm.trans h))
      rw [← hs']
      exact processRTCPCompoundPacket_reachable s contents
    · rw [h] at hcall
      cases hcall
      exact ⟨[], .nil s⟩

theorem processRawPacket_none_iff :
    processRawPacket zero s handled comesFromThisTransmitter acceptownpackets rawpack = none ↔
      rawpack.isrtp ∧ RTPPacket.parseRawPacket rawpack.toRTPRawPacket = none := by
  cases hrtp : rawpack.isrtp with
  | true =>
    rw [and_iff_right rfl]
    obtain ⟨hparse, hcall⟩ | ⟨hparse, t, -, hcall⟩ := processRawPacket_rtp zero s handled
      comesFromThisTransmitter acceptownpackets rawpack hrtp
    · exact iff_of_true hcall hparse
    · rw [hcall]
      exact iff_of_false (Option.some_ne_none _) hparse
  | false =>
    refine iff_of_false ?_ fun h ↦ Bool.false_ne_true h.1
    obtain ⟨_, _, _, -, -, -, hcall⟩ | ⟨-, hcall⟩ := processRawPacket_rtcp zero s
      handled comesFromThisTransmitter acceptownpackets rawpack hrtp
    · rw [hcall]
      exact Option.some_ne_none _
    · rw [hcall]
      exact Option.some_ne_none _

theorem processRawPacket_error_iff (e : ℤ) :
    (∃ s', processRawPacket zero s handled comesFromThisTransmitter acceptownpackets rawpack =
        some (.error e, s')) ↔
      Stops comesFromThisTransmitter acceptownpackets rawpack ∧
        e = ERR_RTP_SOURCES_ILLEGALSDESTYPE := by
  cases hrtp : rawpack.isrtp with
  | true =>
    refine iff_of_false ?_ fun h ↦ Bool.false_ne_true (h.1.1.symm.trans hrtp)
    rintro ⟨s', h⟩
    obtain ⟨-, hcall⟩ | ⟨-, t, -, hcall⟩ := processRawPacket_rtp zero s handled
      comesFromThisTransmitter acceptownpackets rawpack hrtp
    · cases hcall.symm.trans h
    · cases hcall.symm.trans h
  | false =>
    obtain ⟨packets, contents, address, hparse, hread, haddress, hcall⟩ | ⟨hdropped, hcall⟩ :=
      processRawPacket_rtcp zero s handled comesFromThisTransmitter acceptownpackets rawpack hrtp
    · have hfails : (∃ s', processRTCPCompoundPacket zero rawpack.receivetime address s contents =
          (.error e, s')) ↔
          (processRTCPCompoundPacket zero rawpack.receivetime address s contents).1 = .error e := by
        constructor
        · rintro ⟨s', h⟩
          rw [h]
        · exact fun h ↦ ⟨_, Prod.ext h rfl⟩
      have hstops : Stops comesFromThisTransmitter acceptownpackets rawpack ↔
          ∃ c ∈ contents, HasIllegalItem c := by
        constructor
        · rintro ⟨-, -, packets', contents', hparse', hread', hitem⟩
          cases hparse.symm.trans hparse'
          cases hread.symm.trans hread'
          exact hitem
        · intro hitem
          refine ⟨hrtp, ?_, packets, contents, hparse, hread, hitem⟩
          rw [haddress]
          rfl
      simp only [hcall, Option.some.injEq]
      rw [hfails, hstops]
      exact processRTCPCompoundPacket_error_iff s (read_parseData hparse hread) e
    · refine iff_of_false ?_ ?_
      · rintro ⟨s', h⟩
        cases hcall.symm.trans h
      · rintro ⟨⟨-, haccepted, packets, _, hparse, -⟩, -⟩
        obtain ⟨e', herror⟩ | hnone := hdropped
        · cases herror.symm.trans hparse
        · rw [hnone] at haccepted
          cases haccepted

/-- A report of a receiver, and a description of it by an item of type 9. -/
def strangeItem : ReceivedPacket ℕ RTPIPv4Address where
  data := [128, 201, 0, 1, 0, 0, 0, 5, 129, 202, 0, 2, 0, 0, 0, 5, 9, 0, 0, 0]
  isrtp := false
  receivetime := 0
  senderaddress := some mixer

example : ∃ s', processRawPacket 0 (RTPSources.new .noProbation) (fun _ ↦ false) (fun _ ↦ false)
    false strangeItem = some (.error ERR_RTP_SOURCES_ILLEGALSDESTYPE, s') := ⟨_, rfl⟩

end Received

end VirtualCamera.Rtp.Incoming
