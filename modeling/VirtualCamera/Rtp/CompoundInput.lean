import VirtualCamera.Library.Fallible
import VirtualCamera.Rtp.CompoundBuilder
import VirtualCamera.Rtp.SDESFormat

namespace VirtualCamera.Rtp.CompoundInput

open Library.Wire Library.Groups Library.Fallible RtcpPacket SDESFormat CompoundBuilder
open RTCPCompoundPacketBuilder (appPacket byePacket itemId)

/-- What a compound packet is to say. -/
structure Contents where
  report : Option (UInt32 × Option SenderInfo)
  blocks : List ReportBlock
  chunks : List SDESChunk
  apps : List Content
  byes : List Content
  deriving DecidableEq

/-- The number of lost packets has 24 bits. -/
def keptBlock (b : ReportBlock) : ReportBlock :=
  { b with packetslost := Int32.ofBitVec ((b.packetslost.toBitVec.setWidth 24).signExtend 32) }

def addToLast (chunks : List SDESChunk) (item : SDESItem) : List SDESChunk :=
  match chunks.getLast? with
  | none => chunks
  | some c => chunks.dropLast ++ [⟨c.ssrc, c.items ++ [item]⟩]

def Contents.add (c : Contents) : Call → Contents
  | .startSenderReport senderssrc info => { c with report := some (senderssrc, some info) }
  | .startReceiverReport senderssrc => { c with report := some (senderssrc, none) }
  | .addReportBlock block => { c with blocks := c.blocks ++ [keptBlock block] }
  | .addSDESSource ssrc => { c with chunks := c.chunks ++ [⟨ssrc, []⟩] }
  | .addSDESNormalItem t itemdata =>
    { c with chunks := addToLast c.chunks (.normal t itemdata.val) }
  | .addSDESPrivateItem prefixdata valuedata =>
    { c with chunks := addToLast c.chunks (.priv prefixdata.val valuedata.val) }
  | .addBYEPacket ssrcs reason => { c with byes := c.byes ++ [.bye ssrcs reason.val] }
  | .addAPPPacket subtype ssrc name appdata =>
    { c with apps := c.apps ++ [.app (subtype.toBitVec.setWidth 5) ssrc name.val appdata] }

def firstReport (ssrc : UInt32) (info : Option SenderInfo) (blocks : List ReportBlock) : Content :=
  match info with
  | some info => .sr ssrc info blocks
  | none => .rr ssrc blocks

/-- The packets that say it: reports of 31 blocks each, of which the first one says what the
sender says of itself, descriptions of 31 sources each, and the others as they are. -/
def Contents.packets (c : Contents) : List Content :=
  let reports := match c.report, groups 31 c.blocks with
    | some (ssrc, info), g :: gs => firstReport ssrc info g :: gs.map (.rr ssrc)
    | _, _ => []
  reports ++ ((if c.chunks = [] then [] else (groups 31 c.chunks).map .sdes) ++ (c.apps ++ c.byes))

/-- A builder and what it has been told, from one call to the next. What it refuses is
left out. -/
def step (s : RTCPCompoundPacketBuilder × Contents) (c : Call) :
    RTCPCompoundPacketBuilder × Contents :=
  match s.1.call c with
  | .ok b => (b, s.2.add c)
  | .error _ => s

/-! ### The builder as a function of what it was given -/

structure SourceInput where
  ssrc : UInt32
  items : List WireItem

structure AppInput where
  subtype : UInt8
  ssrc : UInt32
  name : List UInt8
  appdata : List UInt8
  subtype_le : subtype ≤ 31
  name_eq : name.length = 4
  appdata_mod : appdata.length % 4 = 0
  appdata_le : appdata.length / 4 + 2 ≤ 65535

structure ByeInput where
  ssrcs : List UInt32
  reason : List UInt8
  ssrcs_le : ssrcs.length ≤ 31
  reason_le : reason.length ≤ 255

structure Input where
  report : Option (UInt32 × Option SenderInfo)
  blocks : List ReportBlock
  sources : List SourceInput
  apps : List AppInput
  byes : List ByeInput
  blocks_nil : report = none → blocks = []

def SourceInput.read (s : SourceInput) : SDESChunk := ⟨s.ssrc, s.items.map WireItem.read⟩

def AppInput.read (a : AppInput) : Content :=
  .app (a.subtype.toBitVec.setWidth 5) a.ssrc a.name a.appdata

def ByeInput.read (b : ByeInput) : Content := .bye b.ssrcs b.reason

def Input.contents (i : Input) : Contents :=
  { report := i.report
    blocks := i.blocks.map keptBlock
    chunks := i.sources.map SourceInput.read
    apps := i.apps.map AppInput.read
    byes := i.byes.map ByeInput.read }

def reportHeader : Option (UInt32 × Option SenderInfo) → List UInt8
  | none => []
  | some (ssrc, none) => put ssrc
  | some (ssrc, some info) => put ssrc ++ senderInfoBytes info

def isSender : Option (UInt32 × Option SenderInfo) → Bool
  | some (_, some _) => true
  | _ => false

def SourceInput.toSource (s : SourceInput) : SDESSource :=
  ⟨s.ssrc, s.items.map WireItem.toBytes, (itemsBytes s.items).length, by
    rw [itemsBytes, List.flatMap_def]⟩

def AppInput.toBytes (a : AppInput) : List UInt8 := appPacket a.subtype a.ssrc a.name a.appdata

def ByeInput.toBytes (b : ByeInput) : List UInt8 := byePacket b.ssrcs b.reason

def Input.toReport (i : Input) : Report :=
  ⟨isSender i.report, reportHeader i.report, i.blocks.map reportBlockBytes⟩

def buffersOf (packets : List (List UInt8)) : Buffers := ⟨packets, packets.flatten.length, rfl⟩

def Input.builder (maximumpacketsize : ℕ) (external : Bool) (i : Input) :
    RTCPCompoundPacketBuilder :=
  { maximumpacketsize, external
    arebuilding := true
    report := i.toReport
    sdes := i.sources.map SourceInput.toSource
    byepackets := buffersOf (i.byes.map ByeInput.toBytes)
    apppackets := buffersOf (i.apps.map AppInput.toBytes)
    compoundpacket := none
    compoundpacketlength := 0
    rtcppacklist := [] }

theorem buffersOf_push (packets : List (List UInt8)) (p : List UInt8) :
    (buffersOf packets).push p = buffersOf (packets ++ [p]) := by
  simp [buffersOf, Buffers.push]

def SourceInput.add (s : SourceInput) (item : WireItem) : SourceInput := ⟨s.ssrc, s.items ++ [item]⟩

theorem toSource_add (s : SourceInput) (item : WireItem) :
    (s.add item).toSource = s.toSource.addItem item.toBytes := by
  simp [SourceInput.add, SourceInput.toSource, SDESSource.addItem, itemsBytes]

theorem reportHeader_eq_nil {r : Option (UInt32 × Option SenderInfo)} :
    (reportHeader r).length = 0 ↔ r = none := by
  cases r with
  | none => simp [reportHeader]
  | some r =>
    obtain ⟨ssrc, info⟩ := r
    cases info with
    | none => simp [reportHeader, WireWord.width]
    | some info => simp [reportHeader, WireWord.width]

section Items

variable {i : Input} {maximumpacketsize : ℕ} {external : Bool} {b : RTCPCompoundPacketBuilder}

/-- An item that is taken goes to the last source. -/
theorem addItem_builder (item : WireItem) (hsources : i.sources ≠ [])
    (h : (i.builder maximumpacketsize external).addItem item.sdesid item.itemdata = .ok b) :
    ∃ i' : Input, b = i'.builder maximumpacketsize external ∧
      i'.contents = { i.contents with chunks := addToLast i.contents.chunks item.read } := by
  obtain ⟨report, blocks, sources, apps, byes, hnil⟩ := i
  obtain rfl | ⟨front, s, rfl⟩ := sources.eq_nil_or_concat
  · exact (hsources rfl).elim
  · unfold RTCPCompoundPacketBuilder.addItem at h
    split at h
    · cases h
    · cases h
      refine ⟨⟨report, blocks, front ++ [s.add item], apps, byes, hnil⟩, ?_, ?_⟩
      · have hsource := toSource_add s item
        simp only [Input.builder, SDES.addItem, List.concat_eq_append, List.map_append,
          List.map_cons, List.map_nil, List.getLast?_append, List.getLast?_singleton,
          Option.some_or, List.dropLast_concat, hsource]
        rfl
      · simp [Input.contents, addToLast, SourceInput.add, SourceInput.read]

theorem read_normal {t : ItemType} {sdesid : UInt8} (h : itemId t = some sdesid)
    (itemdata : ShortBytes) (hne : sdesid ≠ 0) :
    (WireItem.mk sdesid itemdata.val hne itemdata.property).read = .normal t itemdata.val := by
  have htype : ItemType.ofId sdesid = t ∧ sdesid ≠ RTCP_SDES_ID_PRIVATE := by
    cases t <;> cases h <;> exact ⟨rfl, by decide⟩
  rw [WireItem.read, if_pos htype.2, htype.1]

theorem itemId_ne {t : ItemType} {sdesid : UInt8} (h : itemId t = some sdesid) : sdesid ≠ 0 := by
  cases t <;> cases h <;> decide

theorem read_priv (prefixdata valuedata : ShortBytes)
    (hlen : (put (UInt8.ofNat prefixdata.val.length) ++ (prefixdata.val ++ valuedata.val)).length ≤
      255) :
    (WireItem.mk RTCP_SDES_ID_PRIVATE
      (put (UInt8.ofNat prefixdata.val.length) ++ (prefixdata.val ++ valuedata.val))
      (by decide) hlen).read = .priv prefixdata.val valuedata.val := by
  have hcount : (UInt8.ofNat prefixdata.val.length).toNat = prefixdata.val.length := by
    rw [UInt8.toNat_ofNat', Nat.mod_eq_of_lt (by omega)]
  rw [WireItem.read, if_neg (by simp)]
  simp only [put_byte, List.singleton_append, privData_cons, hcount]
  rw [if_neg (by rw [List.length_append]; omega), List.take_left, List.drop_left]

/-- Every call that succeeds gives the builder what it says. -/
theorem call_builder {c : Call}
    (h : (i.builder maximumpacketsize external).call c = .ok b) :
    ∃ i' : Input, b = i'.builder maximumpacketsize external ∧ i'.contents = i.contents.add c := by
  cases c with
  | startSenderReport senderssrc info =>
    simp only [RTCPCompoundPacketBuilder.call, RTCPCompoundPacketBuilder.startSenderReport,
      check_eq_ok] at h
    obtain ⟨-, hheader, -, h⟩ := h
    have hnone := reportHeader_eq_nil.mp (not_not.mp hheader)
    cases h
    exact ⟨{ i with report := some (senderssrc, some info), blocks_nil := fun hno ↦ by cases hno },
      rfl, rfl⟩
  | startReceiverReport senderssrc =>
    simp only [RTCPCompoundPacketBuilder.call, RTCPCompoundPacketBuilder.startReceiverReport,
      check_eq_ok] at h
    obtain ⟨-, hheader, -, h⟩ := h
    cases h
    exact ⟨{ i with report := some (senderssrc, none), blocks_nil := fun hno ↦ by cases hno },
      rfl, rfl⟩
  | addReportBlock block =>
    simp only [RTCPCompoundPacketBuilder.call, RTCPCompoundPacketBuilder.addReportBlock,
      check_eq_ok] at h
    obtain ⟨-, hheader, -, h⟩ := h
    cases h
    have hsome : i.report ≠ none := fun hno ↦ hheader (reportHeader_eq_nil.mpr hno)
    refine ⟨{ i with blocks := i.blocks ++ [block], blocks_nil := fun hno ↦ (hsome hno).elim },
      ?_, ?_⟩
    · simp [Input.builder, Input.toReport]
    · simp [Input.contents, Contents.add]
  | addSDESSource ssrc =>
    simp only [RTCPCompoundPacketBuilder.call, RTCPCompoundPacketBuilder.addSDESSource,
      check_eq_ok] at h
    obtain ⟨-, -, h⟩ := h
    cases h
    refine ⟨{ i with sources := i.sources ++ [⟨ssrc, []⟩] }, ?_, ?_⟩
    · simp [Input.builder, SourceInput.toSource, SDESSource.new, Input.toReport]
    · simp [Input.contents, Contents.add, SourceInput.read]
  | addSDESNormalItem t itemdata =>
    simp only [RTCPCompoundPacketBuilder.call, RTCPCompoundPacketBuilder.addSDESNormalItem,
      check_eq_ok] at h
    obtain ⟨-, hsources, h⟩ := h
    cases hid : itemId t with
    | none =>
      rw [hid] at h
      cases h
    | some sdesid =>
      rw [hid] at h
      obtain ⟨i', hb, hc⟩ := addItem_builder
        ⟨sdesid, itemdata.val, itemId_ne hid, itemdata.property⟩
        (fun hno ↦ hsources (by simp [Input.builder, hno])) h
      exact ⟨i', hb, by rw [hc, read_normal hid itemdata]; rfl⟩
  | addSDESPrivateItem prefixdata valuedata =>
    simp only [RTCPCompoundPacketBuilder.call, RTCPCompoundPacketBuilder.addSDESPrivateItem,
      check_eq_ok] at h
    obtain ⟨-, hsources, hle, h⟩ := h
    have hlen : (put (UInt8.ofNat prefixdata.val.length) ++
        (prefixdata.val ++ valuedata.val)).length ≤ 255 := by
      simp only [List.length_append, length_put, WireWord.width]
      omega
    obtain ⟨i', hb, hc⟩ := addItem_builder ⟨RTCP_SDES_ID_PRIVATE, _, by decide, hlen⟩
      (fun hno ↦ hsources (by simp [Input.builder, hno])) h
    exact ⟨i', hb, by rw [hc, read_priv prefixdata valuedata hlen]; rfl⟩
  | addBYEPacket ssrcs reason =>
    simp only [RTCPCompoundPacketBuilder.call, RTCPCompoundPacketBuilder.addBYEPacket,
      check_eq_ok] at h
    obtain ⟨-, hmany, -, h⟩ := h
    cases h
    refine ⟨{ i with byes := i.byes ++ [⟨ssrcs, reason.val, not_lt.mp hmany, reason.property⟩] },
      ?_, ?_⟩
    · simp [Input.builder, buffersOf_push, ByeInput.toBytes, Input.toReport]
    · simp [Input.contents, Contents.add, ByeInput.read]
  | addAPPPacket subtype ssrc name appdata =>
    simp only [RTCPCompoundPacketBuilder.call, RTCPCompoundPacketBuilder.addAPPPacket,
      check_eq_ok] at h
    obtain ⟨-, hsubtype, hmod, hwords, -, h⟩ := h
    cases h
    refine ⟨{ i with apps := i.apps ++ [⟨subtype, ssrc, name.val, appdata,
      UInt8.not_lt.mp hsubtype, name.property, not_not.mp hmod, not_lt.mp hwords⟩] }, ?_, ?_⟩
    · simp [Input.builder, buffersOf_push, AppInput.toBytes, Input.toReport]
    · simp [Input.contents, Contents.add, AppInput.read]

end Items

section Run

variable {maximumpacketsize : ℕ} {external : Bool}

def Input.empty : Input := ⟨none, [], [], [], [], fun _ ↦ rfl⟩

/-- A run of calls on a new builder. -/
def run (b : RTCPCompoundPacketBuilder) (calls : List Call) :
    RTCPCompoundPacketBuilder × Contents :=
  calls.foldl step (b, Input.empty.contents)

theorem initBuild_new {b : RTCPCompoundPacketBuilder}
    (h : RTCPCompoundPacketBuilder.new.initBuild external maximumpacketsize = .ok b) :
    b = Input.empty.builder maximumpacketsize external := by
  simp only [RTCPCompoundPacketBuilder.initBuild, check_eq_ok] at h
  obtain ⟨-, -, -, h⟩ := h
  cases h
  rfl

end Run

end VirtualCamera.Rtp.CompoundInput
