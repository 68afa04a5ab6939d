import VirtualCamera.Rtp.Packet

namespace VirtualCamera.Rtp.PacketFormat

open Library.Memory Library.Wire Packet
open PacketBuilder (RTPError RTP_MAXCSRCS ValidPayloadType)

/-- The padding of a packet: its last byte counts it, itself included. -/
structure Padding where
  filler : List UInt8
  count : UInt8
  count_eq : filler.length + 1 = count.toNat

def Padding.toBytes (p : Padding) : List UInt8 := p.filler ++ put p.count

def paddingBytes : Option Padding → List UInt8
  | none => []
  | some p => p.toBytes

/-- What a packet says, whatever its bytes. -/
structure WirePacket where
  marker : Bool
  payloadtype : BitVec 7
  seqnr : UInt16
  timestamp : UInt32
  ssrc : UInt32
  csrcs : List UInt32
  csrcs_le : csrcs.length ≤ RTP_MAXCSRCS
  extension : Option HeaderExtension
  payload : List UInt8
  padding : Option Padding

namespace WirePacket

variable (w : WirePacket)

def header : RTPHeader :=
  { csrccount := BitVec.ofNat 4 w.csrcs.length
    extension := BitVec.ofBool w.extension.isSome
    padding := BitVec.ofBool w.padding.isSome
    version := RTP_VERSION
    payloadtype := w.payloadtype
    marker := BitVec.ofBool w.marker
    sequencenumber := w.seqnr
    timestamp := w.timestamp
    ssrc := w.ssrc }

def body : List UInt8 :=
  putMany w.csrcs ++ (extensionBytes w.extension ++ (w.payload ++ paddingBytes w.padding))

def toBytes : List UInt8 := w.header.toBytes ++ w.body

def extoffset : ℕ := sizeofRTPHeader + 4 * w.csrcs.length

def payloadoffset : ℕ := w.extoffset + (extensionBytes w.extension).length

def extwords : Option (UInt16 × UInt16) :=
  w.extension.map fun e ↦ (e.extensionid, e.extensionlen_numwords)

def numpadbytes : UInt8 := (w.padding.map Padding.count).getD 0

/-- The packet as the receiving side holds it. -/
def packet : RTPPacket :=
  { hasextension := w.extension.isSome
    hasmarker := w.marker
    numcsrcs := w.csrcs.length
    payloadtype := UInt8.ofBitVec (w.payloadtype.setWidth 8)
    extseqnr := w.seqnr.toUInt32
    timestamp := w.timestamp
    ssrc := w.ssrc
    packet := w.toBytes
    payload := w.payloadoffset
    payloadlength := w.payload.length
    extid := (w.extension.map HeaderExtension.extensionid).getD 0
    extension := w.extension.map fun _ ↦ w.extoffset + sizeofRTPExtensionHeader
    extensionlength :=
      4 * ((w.extension.map HeaderExtension.extensionlen_numwords).getD 0).toNat }

@[simp] theorem csrccount_toNat : w.header.csrccount.toNat = w.csrcs.length := by
  have := w.csrcs_le
  have hlt : w.csrcs.length < 2 ^ 4 := by
    unfold RTP_MAXCSRCS at this
    omega
  exact Nat.mod_eq_of_lt hlt

theorem ofBool_ne_zero {b : Bool} : BitVec.ofBool b ≠ 0 ↔ b = true := by
  cases b <;> decide

theorem ofBool_of_ne_zero (x : BitVec 1) : BitVec.ofBool (x ≠ 0) = x := by
  revert x
  decide

theorem toBytes_eq : w.toBytes = w.header.toBytes ++ (putMany w.csrcs ++
    (extensionBytes w.extension ++ (w.payload ++ paddingBytes w.padding))) := rfl

theorem length_paddingBytes : (paddingBytes w.padding).length = w.numpadbytes.toNat := by
  unfold numpadbytes
  cases w.padding with
  | none => rfl
  | some p =>
    have := p.count_eq
    simpa [paddingBytes, Padding.toBytes, WireWord.width] using this

theorem length_toBytes :
    w.toBytes.length = w.payloadoffset + w.payload.length + w.numpadbytes.toNat := by
  rw [toBytes_eq, ← length_paddingBytes, payloadoffset, extoffset]
  simp only [List.length_append, RTPHeader.length_toBytes, length_putMany, WireWord.width]
  omega

theorem numPadBytes_toBytes : w.header.numPadBytes w.toBytes = some w.numpadbytes := by
  unfold RTPHeader.numPadBytes numpadbytes
  cases hp : w.padding with
  | none => simp [header, hp]
  | some p =>
    have hne : w.header.padding ≠ 0 := by
      simp only [header, hp, Option.isSome_some]
      decide
    let front := w.header.toBytes ++ (putMany w.csrcs ++ (extensionBytes w.extension ++
      (w.payload ++ p.filler)))
    have hbytes : w.toBytes = front ++ (put p.count ++ []) := by
      simp only [toBytes_eq, hp, paddingBytes, Padding.toBytes, front, List.append_assoc,
        List.append_nil]
    have hlast : front.length = w.toBytes.length - 1 := by
      rw [hbytes]
      simp [WireWord.width]
    rw [if_pos hne]
    have hget := get_behind hlast p.count []
    rw [← hbytes] at hget
    exact hget

theorem readExtension_toBytes : w.header.readExtension w.toBytes = some w.extwords := by
  unfold RTPHeader.readExtension extwords
  cases he : w.extension with
  | none => simp [header, he]
  | some e =>
    have hne : w.header.extension ≠ 0 := by
      simp only [header, he, Option.isSome_some]
      decide
    have hid := get_behind (l := w.header.toBytes ++ putMany w.csrcs) (n := w.extoffset)
      (by simp [extoffset, WireWord.width]) e.extensionid
      (put e.extensionlen_numwords ++ (e.extensiondata ++ (w.payload ++ paddingBytes w.padding)))
    have hlen := get_behind (l := w.header.toBytes ++ (putMany w.csrcs ++ put e.extensionid))
      (n := w.extoffset + 2) (by simp [extoffset, WireWord.width]; omega)
      e.extensionlen_numwords (e.extensiondata ++ (w.payload ++ paddingBytes w.padding))
    have hbytes : w.toBytes = w.header.toBytes ++ (putMany w.csrcs ++ (put e.extensionid ++
        (put e.extensionlen_numwords ++ (e.extensiondata ++
          (w.payload ++ paddingBytes w.padding))))) := by
      simp only [toBytes_eq, he, extensionBytes, HeaderExtension.toBytes, List.append_assoc]
    simp only [List.append_assoc, ← hbytes] at hid hlen
    simp only [ne_eq, hne, not_false_eq_true, if_true, csrccount_toNat]
    unfold extoffset at hid hlen
    rw [hid, Option.bind_eq_bind, Option.bind_some, hlen]
    rfl

theorem payloadoffset_eq : w.payloadoffset = w.extoffset + extensionSize w.extwords := by
  unfold payloadoffset extwords
  cases w.extension with
  | none => rfl
  | some e =>
    simp only [extensionBytes, HeaderExtension.length_toBytes, e.length_eq, Option.map_some,
      extensionSize]

theorem fill_toBytes (hlen : w.toBytes.length ≤ INT_MAX) :
    RTPPacket.fill w.header w.toBytes w.numpadbytes w.extwords = .ok w.packet := by
  have htotal := w.length_toBytes
  have hrest : (w.toBytes.length : ℤ) - w.numpadbytes.toNat - w.payloadoffset =
      w.payload.length := by omega
  have hint : int32 (w.payload.length : ℤ) = w.payload.length := by
    unfold INT_MAX at hlen
    exact int32_of_range (by omega) (by omega)
  unfold RTPPacket.fill
  simp only [csrccount_toNat]
  rw [show sizeofRTPHeader + 4 * w.csrcs.length = w.extoffset from rfl, ← w.payloadoffset_eq,
    hrest, hint, if_neg (by omega)]
  have hmarker : decide (w.header.marker ≠ 0) = w.marker := by
    cases hm : w.marker <;> simp [header, hm]
  simp only [hmarker, packet, extwords, Int.toNat_natCast]
  cases w.extension with
  | none => rfl
  | some e => rfl

/-- The receiver takes every packet of the format that cannot be mistaken for RTCP. -/
theorem parse_toBytes (hrtcp : ¬ w.header.looksLikeRTCP) (hlen : w.toBytes.length ≤ INT_MAX) :
    RTPPacket.parseRawPacket ⟨true, w.toBytes⟩ = some (.ok w.packet) := by
  have hshort : ¬ w.toBytes.length < sizeofRTPHeader := by
    rw [toBytes, List.length_append, RTPHeader.length_toBytes]
    omega
  have hversion : ¬ (w.header.version ≠ RTP_VERSION ∨ w.header.looksLikeRTCP) := by
    rw [not_or]
    exact ⟨fun h ↦ h rfl, hrtcp⟩
  have hpad : ¬ (w.header.padding ≠ 0 ∧ w.numpadbytes = 0) := by
    rintro ⟨hp, hn⟩
    have hsome : w.padding.isSome = true := ofBool_ne_zero.mp hp
    obtain ⟨p, hp⟩ := Option.isSome_iff_exists.mp hsome
    have hcount := p.count_eq
    simp only [numpadbytes, hp, Option.map_some, Option.getD_some] at hn
    rw [hn] at hcount
    simp at hcount
  have hread : RTPHeader.read w.toBytes = some w.header := RTPHeader.read_toBytes _ _
  unfold RTPPacket.parseRawPacket
  rw [if_neg (by simp), if_neg hshort]
  simp only [hread, Option.bind_eq_bind, Option.bind_some, if_neg hversion,
    w.numPadBytes_toBytes, if_neg hpad, w.readExtension_toBytes, w.fill_toBytes hlen]
  rfl

end WirePacket

section Getters

variable (w : WirePacket)

theorem getPayloadData_packet : w.packet.getPayloadData = some w.payload := by
  have hbytes : w.toBytes = (w.header.toBytes ++ (putMany w.csrcs ++ extensionBytes w.extension)) ++
      (w.payload ++ paddingBytes w.padding) := by
    simp only [WirePacket.toBytes_eq, List.append_assoc]
  unfold RTPPacket.getPayloadData
  simp only [WirePacket.packet]
  rw [hbytes]
  apply slice_behind _ rfl
  simp only [WirePacket.payloadoffset, WirePacket.extoffset, List.length_append,
    RTPHeader.length_toBytes, length_putMany, WireWord.width]
  omega

theorem getExtensionData_packet :
    w.packet.getExtensionData = some (w.extension.map HeaderExtension.extensiondata) := by
  unfold RTPPacket.getExtensionData
  simp only [WirePacket.packet]
  cases he : w.extension with
  | none => rfl
  | some e =>
    have hbytes : w.toBytes = (w.header.toBytes ++ (putMany w.csrcs ++ (put e.extensionid ++
        put e.extensionlen_numwords))) ++ (e.extensiondata ++ (w.payload ++
          paddingBytes w.padding)) := by
      simp only [WirePacket.toBytes_eq, he, extensionBytes, HeaderExtension.toBytes,
        List.append_assoc]
    have hslice := slice_behind (n := 4 * e.extensionlen_numwords.toNat)
      (l := w.header.toBytes ++ (putMany w.csrcs ++ (put e.extensionid ++
        put e.extensionlen_numwords)))
      (show _ = w.extoffset + sizeofRTPExtensionHeader by
        simp only [WirePacket.extoffset, List.length_append, RTPHeader.length_toBytes,
          length_putMany, length_put, WireWord.width, sizeofRTPExtensionHeader]
        omega)
      e.length_eq (w.payload ++ paddingBytes w.padding)
    rw [← hbytes] at hslice
    simp only [Option.map_some, Option.getD_some, hslice]

theorem getCSRC_packet (num : ℕ) : w.packet.getCSRC num = some (w.csrcs[num]?.getD 0) := by
  have hpos : ¬ (sizeofRTPHeader : ℤ) + 4 * (num : ℤ) < 0 := by omega
  unfold RTPPacket.getCSRC
  by_cases h : w.csrcs.length ≤ num
  · have hge : (num : ℤ) ≥ w.packet.numcsrcs := Int.ofNat_le.mpr h
    rw [if_pos hge, List.getElem?_eq_none h, Option.getD_none]
  · have hlt : num < w.csrcs.length := by omega
    have hge : ¬ (num : ℤ) ≥ w.packet.numcsrcs := fun h' ↦ h (Int.ofNat_le.mp h')
    rw [if_neg hge, if_neg hpos]
    have hcsrcs : w.csrcs = w.csrcs.take num ++ w.csrcs[num] :: w.csrcs.drop (num + 1) := by
      rw [List.getElem_cons_drop, List.take_append_drop]
    have hbytes : w.toBytes = (w.header.toBytes ++ putMany (w.csrcs.take num)) ++
        (put w.csrcs[num] ++ (putMany (w.csrcs.drop (num + 1)) ++
          (extensionBytes w.extension ++ (w.payload ++ paddingBytes w.padding)))) := by
      rw [WirePacket.toBytes_eq]
      conv_lhs =>
        rw [hcsrcs]
      simp only [putMany, List.flatMap_append, List.flatMap_cons, List.append_assoc]
    have hget := get_behind (n := sizeofRTPHeader + 4 * num)
      (l := w.header.toBytes ++ putMany (w.csrcs.take num))
      (by simp [WireWord.width]; omega) w.csrcs[num] (putMany (w.csrcs.drop (num + 1)) ++
        (extensionBytes w.extension ++ (w.payload ++ paddingBytes w.padding)))
    rw [← hbytes] at hget
    rw [List.getElem?_eq_getElem hlt, Option.getD_some, ← hget]
    congr 1

end Getters

section Accepted

/-- What the parser has seen of the bytes of a packet it accepts. -/
structure Accepted (packetbytes : List UInt8) (p : RTPPacket) (h : RTPHeader)
    (numpadbytes : UInt8) (ext : Option (UInt16 × UInt16)) : Prop where
  read : RTPHeader.read packetbytes = some h
  version : h.version = RTP_VERSION
  not_rtcp : ¬ h.looksLikeRTCP
  pad : h.numPadBytes packetbytes = some numpadbytes
  pad_pos : h.padding ≠ 0 → numpadbytes ≠ 0
  readExtension : h.readExtension packetbytes = some ext
  fill : RTPPacket.fill h packetbytes numpadbytes ext = .ok p

theorem accepted_of_parse {raw : RTPRawPacket} {p : RTPPacket}
    (h : RTPPacket.parseRawPacket raw = some (.ok p)) :
    raw.isrtp ∧ ∃ hdr numpadbytes ext, Accepted raw.data p hdr numpadbytes ext := by
  unfold RTPPacket.parseRawPacket at h
  by_cases hrtp : raw.isrtp
  · rw [if_neg (not_not_intro hrtp)] at h
    by_cases hshort : raw.data.length < sizeofRTPHeader
    · simp [hshort] at h
    · rw [if_neg hshort] at h
      simp only [Option.bind_eq_bind, Option.bind_eq_some_iff] at h
      obtain ⟨hdr, hread, h⟩ := h
      by_cases hversion : hdr.version ≠ RTP_VERSION ∨ hdr.looksLikeRTCP
      · simp [hversion] at h
      · rw [if_neg hversion, Option.bind_eq_some_iff] at h
        rw [not_or, not_not] at hversion
        obtain ⟨numpadbytes, hpad, h⟩ := h
        by_cases hzero : hdr.padding ≠ 0 ∧ numpadbytes = 0
        · rw [if_pos hzero] at h
          cases h
        · rw [if_neg hzero, Option.bind_eq_some_iff] at h
          obtain ⟨ext, hext, h⟩ := h
          refine ⟨hrtp, hdr, numpadbytes, ext, ?_⟩
          exact
            { read := hread
              version := hversion.1
              not_rtcp := hversion.2
              pad := hpad
              pad_pos := fun hp hn ↦ hzero ⟨hp, hn⟩
              readExtension := hext
              fill := by simpa using h }
  · simp [hrtp] at h

/-- The payload of an accepted packet ends where its padding begins. -/
theorem le_of_fill {hdr : RTPHeader} {packetbytes : List UInt8} {numpadbytes : UInt8}
    {ext : Option (UInt16 × UInt16)} {p : RTPPacket} (hlen : packetbytes.length ≤ INT_MAX)
    (h : RTPPacket.fill hdr packetbytes numpadbytes ext = .ok p) :
    sizeofRTPHeader + 4 * hdr.csrccount.toNat + extensionSize ext + numpadbytes.toNat ≤
      packetbytes.length := by
  have hcc : hdr.csrccount.toNat < 16 := hdr.csrccount.isLt
  have hpad : numpadbytes.toNat < 256 := numpadbytes.toNat_lt
  have hext : extensionSize ext ≤ 4 + 4 * 65535 := by
    cases ext with
    | none => simp [extensionSize]
    | some e =>
      have := e.2.toNat_lt
      simp only [extensionSize, sizeofRTPExtensionHeader]
      omega
  unfold INT_MAX at hlen
  simp only [RTPPacket.fill] at h
  rw [int32_of_range (by unfold sizeofRTPHeader; omega) (by omega)] at h
  split at h
  · cases h
  · omega

/-- The header's extension, with the bytes that follow its words. -/
theorem exists_extension {hdr : RTPHeader} {packetbytes : List UInt8}
    {ext : Option (UInt16 × UInt16)} (h : hdr.readExtension packetbytes = some ext)
    (hle : sizeofRTPHeader + 4 * hdr.csrccount.toNat + extensionSize ext ≤ packetbytes.length) :
    ∃ e : Option HeaderExtension, hdr.extension = BitVec.ofBool e.isSome ∧
      ext = e.map (fun e ↦ (e.extensionid, e.extensionlen_numwords)) ∧
      packetbytes.drop (sizeofRTPHeader + 4 * hdr.csrccount.toNat) = extensionBytes e ++
        packetbytes.drop (sizeofRTPHeader + 4 * hdr.csrccount.toNat + extensionSize ext) := by
  simp only [RTPHeader.readExtension] at h
  by_cases hx : hdr.extension ≠ 0
  · rw [if_pos hx] at h
    simp only [Option.bind_eq_bind, Option.bind_eq_some_iff, Option.pure_def,
      Option.some.injEq] at h
    obtain ⟨extid, hid, exthdrlen, hlen, rfl⟩ := h
    have hdata : slice (sizeofRTPHeader + 4 * hdr.csrccount.toNat + 2 + 2)
        (4 * exthdrlen.toNat) packetbytes = some ((packetbytes.drop
          (sizeofRTPHeader + 4 * hdr.csrccount.toNat + 2 + 2)).take (4 * exthdrlen.toNat)) := by
      simp only [extensionSize, sizeofRTPExtensionHeader] at hle
      exact if_pos (by omega)
    obtain ⟨hlength, hdrop⟩ := drop_of_slice hdata
    refine ⟨some ⟨extid, exthdrlen, _, hlength⟩, ?_, rfl, ?_⟩
    · have hofBool := WirePacket.ofBool_of_ne_zero hdr.extension
      rw [decide_eq_true hx] at hofBool
      exact hofBool.symm
    · simp only [extensionBytes, HeaderExtension.toBytes, extensionSize, sizeofRTPExtensionHeader,
        List.append_assoc]
      rw [drop_of_get hid]
      congr 1
      rw [show WireWord.width UInt16 = 2 from rfl, drop_of_get hlen]
      congr 1
      rw [show WireWord.width UInt16 = 2 from rfl, hdrop]
      congr 2
      omega
  · rw [if_neg hx, Option.some.injEq] at h
    subst h
    refine ⟨none, ?_, rfl, ?_⟩
    · rw [not_not] at hx
      exact hx
    · simp [extensionBytes, extensionSize]

/-- A last byte that counts the bytes of the end of a packet makes them its padding. -/
theorem exists_padding {hdr : RTPHeader} {packetbytes rest : List UInt8} {numpadbytes : UInt8}
    (h : hdr.numPadBytes packetbytes = some numpadbytes)
    (hpos : hdr.padding ≠ 0 → numpadbytes ≠ 0) (hrest : rest.length = numpadbytes.toNat)
    (hend : rest <:+ packetbytes) :
    ∃ q : Option Padding, hdr.padding = BitVec.ofBool q.isSome ∧ rest = paddingBytes q ∧
      numpadbytes = (q.map Padding.count).getD 0 := by
  unfold RTPHeader.numPadBytes at h
  by_cases hp : hdr.padding ≠ 0
  · rw [if_pos hp] at h
    have hne : numpadbytes.toNat ≠ 0 := by
      intro hzero
      exact hpos hp (UInt8.toNat_inj.mp hzero)
    obtain ⟨front, rfl⟩ := hend
    -- the last byte of the packet is the last byte of `rest`
    have hlast : rest.drop (rest.length - 1) = put numpadbytes := by
      have hdrop := drop_of_get h
      have hone : (front ++ rest).drop ((front ++ rest).length - 1 + WireWord.width UInt8) = [] := by
        rw [List.drop_eq_nil_iff, show WireWord.width UInt8 = 1 from rfl]
        omega
      have hsplit : (front ++ rest).length - 1 = front.length + (rest.length - 1) := by
        rw [List.length_append]
        omega
      rw [hone, List.append_nil, hsplit, ← List.drop_drop, List.drop_left] at hdrop
      exact hdrop
    refine ⟨some ⟨rest.take (rest.length - 1), numpadbytes, ?_⟩, ?_, ?_, rfl⟩
    · rw [List.length_take]
      omega
    · have hofBool := WirePacket.ofBool_of_ne_zero hdr.padding
      rw [decide_eq_true hp] at hofBool
      exact hofBool.symm
    · simp only [paddingBytes, Padding.toBytes, ← hlast, List.take_append_drop]
  · rw [if_neg hp, Option.some.injEq] at h
    subst h
    refine ⟨none, ?_, ?_, rfl⟩
    · rw [not_not] at hp
      exact hp
    · exact List.length_eq_zero_iff.mp hrest

/-- What the receiver accepts is a packet of the format, held as it should be. -/
theorem exists_wirePacket {packetbytes : List UInt8} {p : RTPPacket} {hdr : RTPHeader}
    {numpadbytes : UInt8} {ext : Option (UInt16 × UInt16)}
    (hlen : packetbytes.length ≤ INT_MAX)
    (h : Accepted packetbytes p hdr numpadbytes ext) :
    ∃ w : WirePacket, w.header = hdr ∧ w.toBytes = packetbytes ∧ w.packet = p := by
  have hle := le_of_fill hlen h.fill
  obtain ⟨csrcs, hcsrcs⟩ := Option.isSome_iff_exists.mp
    (getMany_isSome (show sizeofRTPHeader + WireWord.width UInt32 * hdr.csrccount.toNat ≤
      packetbytes.length by rw [show WireWord.width UInt32 = 4 from rfl]; omega))
  have hcount := length_getMany hcsrcs
  have hcc : hdr.csrccount.toNat < 16 := hdr.csrccount.isLt
  obtain ⟨e, hx, rfl, hext⟩ := exists_extension h.readExtension (by omega)
  -- the payload runs up to the padding
  let off := sizeofRTPHeader + 4 * hdr.csrccount.toNat +
    extensionSize (e.map fun e ↦ (e.extensionid, e.extensionlen_numwords))
  let n := packetbytes.length - numpadbytes.toNat - off
  have hpayload : slice off n packetbytes = some ((packetbytes.drop off).take n) :=
    if_pos (by omega)
  obtain ⟨-, hpayload⟩ := drop_of_slice hpayload
  have hrestlen : (packetbytes.drop (off + n)).length = numpadbytes.toNat := by
    rw [List.length_drop]
    omega
  obtain ⟨q, hq, hrest, hnum⟩ := exists_padding h.pad h.pad_pos hrestlen (List.drop_suffix _ _)
  let w : WirePacket :=
    { marker := hdr.marker ≠ 0
      payloadtype := hdr.payloadtype
      seqnr := hdr.sequencenumber
      timestamp := hdr.timestamp
      ssrc := hdr.ssrc
      csrcs
      csrcs_le := by unfold RTP_MAXCSRCS; omega
      extension := e
      payload := (packetbytes.drop off).take n
      padding := q }
  have hheader : w.header = hdr := by
    have hcsrccount : BitVec.ofNat 4 csrcs.length = hdr.csrccount := by
      rw [hcount, BitVec.ofNat_toNat, BitVec.setWidth_eq]
    simp only [WirePacket.header, w, hcsrccount, WirePacket.ofBool_of_ne_zero, ← hx, ← hq,
      ← h.version]
  have hbytes : w.toBytes = packetbytes := by
    rw [WirePacket.toBytes_eq, hheader]
    simp only [w]
    rw [← hrest, ← hpayload, ← hext]
    have hcs := drop_of_getMany hcsrcs
    rw [show WireWord.width UInt32 = 4 from rfl] at hcs
    rw [← hcs]
    exact (RTPHeader.toBytes_of_read h.read).symm
  refine ⟨w, hheader, hbytes, ?_⟩
  have hfill := w.fill_toBytes (by rw [hbytes]; exact hlen)
  have hpad : w.numpadbytes = numpadbytes := hnum.symm
  have hp := h.fill
  rw [hbytes, hheader, hpad] at hfill
  exact Except.ok.inj (hfill.symm.trans hp)

end Accepted

theorem exists_of_parse {raw : RTPRawPacket} (hlen : raw.data.length ≤ INT_MAX) {p : RTPPacket}
    (h : RTPPacket.parseRawPacket raw = some (.ok p)) :
    raw.isrtp ∧ ∃ w : WirePacket, ¬ w.header.looksLikeRTCP ∧ w.toBytes = raw.data ∧
      w.packet = p := by
  obtain ⟨hrtp, hdr, numpadbytes, ext, h⟩ := accepted_of_parse h
  obtain ⟨w, hw, hbytes, hp⟩ := exists_wirePacket hlen h
  exact ⟨hrtp, w, hw ▸ h.not_rtcp, hbytes, hp⟩

/-- The receiver accepts exactly the packets of the format that cannot be mistaken for
RTCP, and holds each as it should. -/
theorem parseRawPacket_ok_iff {raw : RTPRawPacket} (hlen : raw.data.length ≤ INT_MAX)
    (p : RTPPacket) :
    RTPPacket.parseRawPacket raw = some (.ok p) ↔
      raw.isrtp ∧ ∃ w : WirePacket, ¬ w.header.looksLikeRTCP ∧ w.toBytes = raw.data ∧
        w.packet = p := by
  constructor
  · exact exists_of_parse hlen
  · rintro ⟨hrtp, w, hrtcp, hbytes, rfl⟩
    obtain ⟨isrtp, data⟩ := raw
    subst hbytes
    simp only at hrtp hlen
    rw [hrtp]
    exact w.parse_toBytes hrtcp hlen

/-- A packet of every part the format has. -/
def paddedPacket : WirePacket :=
  { marker := true, payloadtype := 96, seqnr := 65535, timestamp := 7, ssrc := 9, csrcs := [3, 4],
    csrcs_le := Nat.le_of_ble_eq_true rfl, extension := some ⟨1, 1, [1, 2, 3, 4], rfl⟩,
    payload := [5], padding := some ⟨[0, 0], 3, rfl⟩ }

theorem parseRawPacket_ok_padded :
    RTPPacket.parseRawPacket ⟨true, paddedPacket.toBytes⟩ = some (.ok paddedPacket.packet) :=
  (parseRawPacket_ok_iff (by decide) paddedPacket.packet).mpr
    ⟨rfl, paddedPacket, by decide, rfl, rfl⟩

/-- Reading past the end of a packet: the header announces an extension that it has no
room for. -/
def Overreads (packetbytes : List UInt8) : Prop :=
  ∃ (hdr : RTPHeader) (rest : List UInt8), packetbytes = hdr.toBytes ++ rest ∧
    hdr.version = RTP_VERSION ∧ ¬ hdr.looksLikeRTCP ∧
    (hdr.padding ≠ 0 → packetbytes.getLast? ≠ some 0) ∧
    hdr.extension ≠ 0 ∧ rest.length < 4 * hdr.csrccount.toNat + sizeofRTPExtensionHeader

theorem readExtension_eq_none {hdr : RTPHeader} {packetbytes : List UInt8} :
    hdr.readExtension packetbytes = none ↔ hdr.extension ≠ 0 ∧
      packetbytes.length < sizeofRTPHeader + 4 * hdr.csrccount.toNat +
        sizeofRTPExtensionHeader := by
  simp only [RTPHeader.readExtension]
  by_cases hx : hdr.extension ≠ 0
  · rw [if_pos hx]
    simp only [Option.bind_eq_bind, Option.bind_eq_none_iff, Option.pure_def, reduceCtorEq,
      imp_false, hx, not_false_eq_true, true_and, ne_eq, sizeofRTPExtensionHeader]
    constructor
    · intro h
      by_contra hlong
      have hid : get (α := UInt16) (sizeofRTPHeader + 4 * hdr.csrccount.toNat) packetbytes ≠
          none := by
        rw [Ne, get_eq_none, show WireWord.width UInt16 = 2 from rfl]
        omega
      obtain ⟨extid, hid⟩ := Option.ne_none_iff_exists'.mp hid
      have hlen : get (α := UInt16) (sizeofRTPHeader + 4 * hdr.csrccount.toNat + 2) packetbytes ≠
          none := by
        rw [Ne, get_eq_none, show WireWord.width UInt16 = 2 from rfl]
        omega
      obtain ⟨exthdrlen, hlen⟩ := Option.ne_none_iff_exists'.mp hlen
      exact h extid hid exthdrlen hlen
    · intro h extid _ exthdrlen hlen
      have := le_of_get hlen
      rw [show WireWord.width UInt16 = 2 from rfl] at this
      omega
  · rw [if_neg hx]
    constructor
    · intro h
      cases h
    · rintro ⟨hx', -⟩
      exact absurd hx' hx

theorem overreads_iff_of_read {hdr : RTPHeader} {packetbytes : List UInt8}
    (hread : RTPHeader.read packetbytes = some hdr) :
    Overreads packetbytes ↔ (hdr.version = RTP_VERSION ∧ ¬ hdr.looksLikeRTCP) ∧
      (hdr.padding ≠ 0 → packetbytes.getLast? ≠ some 0) ∧
      hdr.readExtension packetbytes = none := by
  have hdata := RTPHeader.toBytes_of_read hread
  have hlength : packetbytes.length = sizeofRTPHeader +
      (packetbytes.drop sizeofRTPHeader).length := by
    conv_lhs =>
      rw [hdata]
    rw [List.length_append, RTPHeader.length_toBytes]
  rw [readExtension_eq_none]
  constructor
  · rintro ⟨hdr', rest, hbytes, hversion, hrtcp, hpad, hx, hshort⟩
    have hsame : hdr' = hdr := by
      rw [hbytes, RTPHeader.read_toBytes] at hread
      exact Option.some.inj hread
    subst hsame
    refine ⟨⟨hversion, hrtcp⟩, hpad, hx, ?_⟩
    rw [hbytes, List.length_append, RTPHeader.length_toBytes]
    omega
  · rintro ⟨⟨hversion, hrtcp⟩, hpad, hx, hshort⟩
    exact ⟨hdr, _, hdata, hversion, hrtcp, hpad, hx, by omega⟩

/-- Exactly the packets with no room for the extension they announce are read past
their end. -/
theorem parseRawPacket_overreads_iff (raw : RTPRawPacket) :
    RTPPacket.parseRawPacket raw = none ↔ raw.isrtp ∧ Overreads raw.data := by
  unfold RTPPacket.parseRawPacket
  by_cases hrtp : raw.isrtp
  · rw [if_neg (not_not_intro hrtp)]
    by_cases hshort : raw.data.length < sizeofRTPHeader
    · rw [if_pos hshort]
      constructor
      · intro h
        cases h
      · rintro ⟨-, hdr, rest, hdata, -⟩
        rw [hdata, List.length_append, RTPHeader.length_toBytes] at hshort
        omega
    · rw [if_neg hshort]
      obtain ⟨hdr, hread⟩ := RTPHeader.exists_read (not_lt.mp hshort)
      have hne : raw.data ≠ [] := by
        rintro hnil
        rw [hnil] at hshort
        exact hshort (by decide)
      rw [overreads_iff_of_read hread]
      simp only [hread, Option.bind_eq_bind, Option.bind_some, hrtp, true_and]
      by_cases hversion : hdr.version ≠ RTP_VERSION ∨ hdr.looksLikeRTCP
      · rw [if_pos hversion]
        constructor
        · intro h
          cases h
        · rintro ⟨⟨hv, hr⟩, -⟩
          exact absurd hversion (not_or.mpr ⟨not_not_intro hv, hr⟩)
      · have hgood := not_or.mp hversion
        rw [not_not] at hgood
        obtain ⟨numpadbytes, hpad, hlast⟩ : ∃ numpadbytes,
            hdr.numPadBytes raw.data = some numpadbytes ∧
              (hdr.padding ≠ 0 → raw.data.getLast? = some numpadbytes) := by
          unfold RTPHeader.numPadBytes
          by_cases hp : hdr.padding ≠ 0
          · simp only [if_pos hp, get_last]
            exact ⟨_, List.getLast?_eq_some_getLast hne, fun _ ↦ List.getLast?_eq_some_getLast hne⟩
          · exact ⟨0, if_neg hp, fun h ↦ absurd h hp⟩
        rw [if_neg hversion, hpad, Option.bind_some, and_iff_right hgood]
        by_cases hzero : hdr.padding ≠ 0 ∧ numpadbytes = 0
        · rw [if_pos hzero]
          constructor
          · intro h
            cases h
          · rintro ⟨hnz, -⟩
            have hl := hlast hzero.1
            rw [hzero.2] at hl
            exact absurd hl (hnz hzero.1)
        · rw [if_neg hzero]
          have hnz : hdr.padding ≠ 0 → raw.data.getLast? ≠ some 0 := by
            intro hp hl
            rw [hlast hp, Option.some.injEq] at hl
            exact hzero ⟨hp, hl⟩
          rw [Option.bind_eq_none_iff, and_iff_right hnz, Option.eq_none_iff_forall_ne_some]
          constructor
          · intro h ext hext
            cases h ext hext
          · intro h ext hext
            exact absurd hext (h ext)
  · rw [if_pos hrtp]
    simp [hrtp]

end VirtualCamera.Rtp.PacketFormat
