import VirtualCamera.Library.Fallible
import VirtualCamera.Rtp.SDESFormat

namespace VirtualCamera.Rtp.RtcpReading

open Library.Wire Library.Fallible RtcpPacket SDESFormat
open Packet (RTPRawPacket)

/-- All that its reader asks of the packet is in the packet. -/
def Readable (p : RTCPPacket) : Prop := ∃ c, p.read = some c

theorem readable_unknownFormat (packettype : PacketType) (data : List UInt8) :
    Readable (.unknownFormat packettype data) := ⟨.unknownFormat, rfl⟩

section Getters

variable {p : RTCPPacket}

theorem exists_word {α : Type} [WireWord α] (off : ℕ) (h : off + WireWord.width α ≤ p.data.length) :
    ∃ a : α, p.word off = some a := by
  unfold RTCPPacket.word
  split
  · exact ⟨_, rfl⟩
  · exact exists_get off h

theorem exists_getSenderInfo (h : 28 ≤ p.data.length) : ∃ info, p.getSenderInfo = some info := by
  obtain ⟨_, h₁⟩ := exists_word (α := UInt32) (p := p) 8 (show 8 + 4 ≤ _ by omega)
  obtain ⟨_, h₂⟩ := exists_word (α := UInt32) (p := p) 12 (show 12 + 4 ≤ _ by omega)
  obtain ⟨_, h₃⟩ := exists_word (α := UInt32) (p := p) 16 (show 16 + 4 ≤ _ by omega)
  obtain ⟨_, h₄⟩ := exists_word (α := UInt32) (p := p) 20 (show 20 + 4 ≤ _ by omega)
  obtain ⟨_, h₅⟩ := exists_word (α := UInt32) (p := p) 24 (show 24 + 4 ≤ _ by omega)
  simp only [RTCPPacket.getSenderInfo, h₁, h₂, h₃, h₄, h₅, Option.bind_eq_bind, Option.bind_some]
  exact ⟨_, rfl⟩

theorem exists_getReport {reportoffset index : ℕ}
    (h : reportoffset + index * sizeofRTCPReceiverReport + 24 ≤ p.data.length) :
    ∃ b, p.getReport reportoffset index = some b := by
  have hword : ∀ {α : Type} [WireWord α] (k : ℕ), k + WireWord.width α ≤ 24 →
      ∃ a : α, p.word (reportoffset + index * sizeofRTCPReceiverReport + k) = some a :=
    fun k hk ↦ exists_word _ (by omega)
  obtain ⟨_, h₁⟩ := hword (α := UInt32) 0 (by decide)
  obtain ⟨_, h₂⟩ := hword (α := UInt8) 4 (by decide)
  obtain ⟨_, h₃⟩ := hword (α := UInt8) 5 (by decide)
  obtain ⟨_, h₄⟩ := hword (α := UInt8) 6 (by decide)
  obtain ⟨_, h₅⟩ := hword (α := UInt8) 7 (by decide)
  obtain ⟨_, h₆⟩ := hword (α := UInt32) 8 (by decide)
  obtain ⟨_, h₇⟩ := hword (α := UInt32) 12 (by decide)
  obtain ⟨_, h₈⟩ := hword (α := UInt32) 16 (by decide)
  obtain ⟨_, h₉⟩ := hword (α := UInt32) 20 (by decide)
  rw [Nat.add_zero] at h₁
  simp only [RTCPPacket.getReport, h₁, h₂, h₃, h₄, h₅, h₆, h₇, h₈, h₉, Option.bind_eq_bind,
    Option.bind_some]
  exact ⟨_, rfl⟩

theorem exists_getReports {reportoffset num : ℕ} (hcount : p.count = some num)
    (h : reportoffset + sizeofRTCPReceiverReport * num ≤ p.data.length) :
    ∃ bs, p.getReports reportoffset = some bs := by
  simp only [RTCPPacket.getReports, hcount, Option.bind_eq_bind, Option.bind_some]
  apply exists_mapM
  intro index hindex
  have hlt := List.mem_range.mp hindex
  apply exists_getReport
  unfold sizeofRTCPReceiverReport at h ⊢
  omega

theorem exists_getSSRCs {num : ℕ} (hcount : p.count = some num)
    (h : num * 4 + sizeofRTCPCommonHeader ≤ p.data.length) : ∃ l, p.getSSRCs = some l := by
  simp only [RTCPPacket.getSSRCs, hcount, Option.bind_eq_bind, Option.bind_some]
  apply exists_mapM
  intro index hindex
  have hlt := List.mem_range.mp hindex
  apply exists_word (sizeofRTCPCommonHeader + 4 * index)
  show _ + 4 ≤ _
  unfold sizeofRTCPCommonHeader at h ⊢
  omega

theorem exists_slice (off n : ℕ) {l : List UInt8} (h : off + n ≤ l.length) :
    ∃ b, slice off n l = some b := ⟨_, if_pos h⟩

end Getters

section Packets

variable {data : List UInt8}

theorem count_known (packettype : PacketType) {hdr : RTCPCommonHeader}
    (hread : RTCPCommonHeader.read data = some hdr) :
    (RTCPPacket.known packettype data).count = some hdr.count.toNat := by
  simp only [RTCPPacket.count, RTCPPacket.known, hread, Option.map_some]
  rfl

/-- A report is of unknown format, or as long as its count of blocks says. -/
theorem reportPacket_cases (packettype : PacketType) (reportoffset : ℕ)
    (hlen : sizeofRTCPCommonHeader ≤ data.length) :
    reportPacket packettype reportoffset data = some (.unknownFormat packettype data) ∨
      reportPacket packettype reportoffset data = some (.known packettype data) ∧
        ∃ hdr, RTCPCommonHeader.read data = some hdr ∧
          reportoffset + sizeofRTCPReceiverReport * hdr.count.toNat ≤ data.length := by
  obtain ⟨hdr, hread⟩ := RTCPCommonHeader.exists_read hlen
  obtain ⟨r, hr⟩ := hdr.exists_unpadded (show 0 < data.length from Nat.lt_of_lt_of_le (by decide) hlen)
  simp only [reportPacket, hread, hr, Option.bind_eq_bind, Option.bind_some]
  cases r with
  | none => exact .inl rfl
  | some len =>
    obtain ⟨-, hle⟩ := RTCPCommonHeader.unpadded_le hr
    by_cases hexpected : reportoffset + sizeofRTCPReceiverReport * hdr.count.toNat = len
    · refine .inr ⟨if_neg (not_not_intro hexpected), hdr, rfl, ?_⟩
      omega
    · exact .inl (if_pos hexpected)

theorem RTCPSRPacket_readable (hlen : sizeofRTCPCommonHeader ≤ data.length) :
    ∃ p, RTCPSRPacket data = some p ∧ Readable p := by
  obtain h | ⟨h, hdr, hread, hfit⟩ := reportPacket_cases .sr srReportOffset hlen
  · exact ⟨_, h, readable_unknownFormat _ _⟩
  · have hmin : 28 ≤ data.length := Nat.le_trans (Nat.le_add_right _ _) hfit
    refine ⟨_, h, ?_⟩
    obtain ⟨ssrc, hssrc⟩ := exists_word (α := UInt32) (p := .known .sr data)
      sizeofRTCPCommonHeader (show 4 + 4 ≤ data.length by omega)
    obtain ⟨info, hinfo⟩ := exists_getSenderInfo (p := .known .sr data) hmin
    obtain ⟨bs, hbs⟩ := exists_getReports (p := .known .sr data) (count_known _ hread) hfit
    exact ⟨.sr ssrc info bs, by simp [RTCPPacket.read, RTCPPacket.getSenderSSRC, hssrc, hinfo, hbs]⟩

theorem RTCPRRPacket_readable (hlen : sizeofRTCPCommonHeader ≤ data.length) :
    ∃ p, RTCPRRPacket data = some p ∧ Readable p := by
  obtain h | ⟨h, hdr, hread, hfit⟩ := reportPacket_cases .rr rrReportOffset hlen
  · exact ⟨_, h, readable_unknownFormat _ _⟩
  · have hmin : 8 ≤ data.length := Nat.le_trans (Nat.le_add_right _ _) hfit
    refine ⟨_, h, ?_⟩
    obtain ⟨ssrc, hssrc⟩ := exists_word (α := UInt32) (p := .known .rr data)
      sizeofRTCPCommonHeader (show 4 + 4 ≤ data.length by omega)
    obtain ⟨bs, hbs⟩ := exists_getReports (p := .known .rr data) (count_known _ hread) hfit
    exact ⟨.rr ssrc bs, by simp [RTCPPacket.read, RTCPPacket.getSenderSSRC, hssrc, hbs]⟩

theorem RTCPSDESPacket_readable (hlen : sizeofRTCPCommonHeader ≤ data.length) :
    ∃ p, RTCPSDESPacket data = some p ∧ Readable p := by
  obtain ⟨p, hp, rfl, htype, hknown⟩ := form_of_known hlen
  refine ⟨p, hp, ?_⟩
  cases hk : p.knownformat with
  | false => exact ⟨.unknownFormat, if_pos (by simp [hk])⟩
  | true =>
    obtain ⟨chunks, hform⟩ := hknown hk
    rw [RTCPSDESPacket_of_form hform, Option.some.injEq] at hp
    have hsdes := readSDES_of_form hform
    rw [hp] at hsdes
    exact ⟨.sdes (chunks.map WireChunk.read), by simp [RTCPPacket.read, hk, htype, hsdes]⟩

theorem RTCPBYEPacket_readable (hlen : sizeofRTCPCommonHeader ≤ data.length) :
    ∃ p, RTCPBYEPacket data = some p ∧ Readable p := by
  obtain ⟨hdr, hread⟩ := RTCPCommonHeader.exists_read hlen
  obtain ⟨r, hr⟩ := hdr.exists_unpadded (show 0 < data.length from Nat.lt_of_lt_of_le (by decide) hlen)
  have hunknown : ∃ p, some (RTCPPacket.unknownFormat .bye data) = some p ∧ Readable p :=
    ⟨_, rfl, readable_unknownFormat _ _⟩
  -- the sources are there in any case, so only the reason is left to look at
  have hbye : ∀ reasonoffset : ℕ, hdr.count.toNat * 4 + sizeofRTCPCommonHeader ≤ data.length →
      (∃ reason, RTCPPacket.getReason ⟨.bye, data, true, reasonoffset, 0⟩ = some reason) →
      Readable ⟨.bye, data, true, reasonoffset, 0⟩ := by
    intro reasonoffset hfit hcond
    obtain ⟨reason, hreason⟩ := hcond
    obtain ⟨ssrcs, hssrcs⟩ := exists_getSSRCs (p := ⟨.bye, data, true, reasonoffset, 0⟩)
      (count_known .bye hread) hfit
    exact ⟨.bye ssrcs reason, by simp [RTCPPacket.read, hssrcs, hreason]⟩
  simp only [RTCPBYEPacket, hread, hr, Option.bind_eq_bind, Option.bind_some]
  cases r with
  | none => exact hunknown
  | some len =>
    obtain ⟨-, hle⟩ := RTCPCommonHeader.unpadded_le hr
    simp only
    split
    · exact hunknown
    · rename_i hfit
      split
      · obtain ⟨reaslen, hget⟩ := exists_get (α := UInt8) (l := data)
          (hdr.count.toNat * 4 + sizeofRTCPCommonHeader) (show _ + 1 ≤ _ by omega)
        rw [hget, Option.bind_some]
        split
        · exact hunknown
        · refine ⟨_, rfl, hbye _ (by omega) ?_⟩
          have hne : hdr.count.toNat * 4 + sizeofRTCPCommonHeader ≠ 0 := by
            unfold sizeofRTCPCommonHeader
            omega
          obtain ⟨reason, hslice⟩ := exists_slice
            (hdr.count.toNat * 4 + sizeofRTCPCommonHeader + 1) reaslen.toNat (l := data)
            (by omega)
          simp only [RTCPPacket.getReason, not_true_eq_false, if_false, if_neg hne, hget,
            Option.bind_eq_bind, Option.bind_some]
          split
          · exact ⟨_, rfl⟩
          · exact ⟨_, hslice⟩
      · exact ⟨_, rfl, hbye 0 (by omega) ⟨[], rfl⟩⟩

theorem RTCPAPPPacket_readable (hlen : sizeofRTCPCommonHeader ≤ data.length) :
    ∃ p, RTCPAPPPacket data = some p ∧ Readable p := by
  obtain ⟨hdr, hread⟩ := RTCPCommonHeader.exists_read hlen
  obtain ⟨r, hr⟩ := hdr.exists_unpadded (show 0 < data.length from Nat.lt_of_lt_of_le (by decide) hlen)
  have hunknown : ∃ p, some (RTCPPacket.unknownFormat .app data) = some p ∧ Readable p :=
    ⟨_, rfl, readable_unknownFormat _ _⟩
  simp only [RTCPAPPPacket, hread, hr, Option.bind_eq_bind, Option.bind_some]
  cases r with
  | none => exact hunknown
  | some len =>
    obtain ⟨-, hle⟩ := RTCPCommonHeader.unpadded_le hr
    unfold sizeofRTCPCommonHeader
    simp only
    split
    · exact hunknown
    · refine ⟨_, rfl, ?_⟩
      generalize happ : len - (4 + 4 * 2) = appdatalen
      obtain ⟨ssrc, hssrc⟩ := exists_word (α := UInt32)
        (p := ⟨.app, data, true, 0, appdatalen⟩) 4 (show 4 + 4 ≤ data.length by omega)
      obtain ⟨name, hname⟩ := exists_slice 8 4 (l := data) (by omega)
      obtain ⟨appdata, happdata⟩ := exists_slice 12 appdatalen (l := data)
        (by omega)
      by_cases hzero : appdatalen = 0
      · rw [hzero] at hssrc ⊢
        exact ⟨.app hdr.count ssrc name [], by
          simp [RTCPPacket.read, RTCPPacket.getSenderSSRC, RTCPPacket.getName,
            RTCPPacket.getAPPData, sizeofRTCPCommonHeader, hread, hssrc, hname]⟩
      · exact ⟨.app hdr.count ssrc name appdata, by
          simp [RTCPPacket.read, RTCPPacket.getSenderSSRC, RTCPPacket.getName,
            RTCPPacket.getAPPData, sizeofRTCPCommonHeader, hread, hssrc, hname, hzero, happdata]⟩

theorem ofData_readable (packettype : BitVec 8) (hlen : sizeofRTCPCommonHeader ≤ data.length) :
    ∃ p, RTCPPacket.ofData packettype data = some p ∧ Readable p := by
  unfold RTCPPacket.ofData
  split
  · exact RTCPSRPacket_readable hlen
  · split
    · exact RTCPRRPacket_readable hlen
    · split
      · exact RTCPSDESPacket_readable hlen
      · split
        · exact RTCPBYEPacket_readable hlen
        · split
          · exact RTCPAPPPacket_readable hlen
          · exact ⟨_, rfl, .unknownType, rfl⟩

end Packets

section Compound

/-- The packet that stands at the start of some bytes, of which it takes all. -/
def framePacket (data : List UInt8) : Option RTCPPacket := do
  let rtcphdr ← RTCPCommonHeader.read data
  RTCPPacket.ofData rtcphdr.packettype data

/-- Some bytes are as many as their header says, and a report where one has to be. -/
structure Frame (first : Bool) (b : List UInt8) (hdr : RTCPCommonHeader) : Prop where
  read : RTCPCommonHeader.read b = some hdr
  version : hdr.version = Packet.RTP_VERSION
  report : first = true → hdr.packettype = Packet.RTP_RTCPTYPE_SR ∨
    hdr.packettype = Packet.RTP_RTCPTYPE_RR
  length : b.length = (hdr.length.toNat + 1) * 4

/-- Frames in a row, of which only the last one is padded. -/
inductive Frames : Bool → List (List UInt8) → Prop
  | last {first b hdr} (h : Frame first b hdr) : Frames first [b]
  | cons {first b hdr bs} (h : Frame first b hdr) (hpad : hdr.padding = 0) (hs : Frames false bs) :
    Frames first (b :: bs)

theorem Frame.le {first : Bool} {b : List UInt8} {hdr : RTCPCommonHeader} (h : Frame first b hdr) :
    sizeofRTCPCommonHeader ≤ b.length := by
  rw [h.length]
  unfold sizeofRTCPCommonHeader
  omega

theorem Frames.le {first : Bool} {bs : List (List UInt8)} (h : Frames first bs) :
    sizeofRTCPCommonHeader ≤ bs.flatten.length := by
  cases h with
  | last h => simpa using h.le
  | cons h hpad hs =>
    rw [List.flatten_cons, List.length_append]
    exact Nat.le_add_right_of_le h.le

theorem read_append {b l : List UInt8} {hdr : RTCPCommonHeader}
    (h : RTCPCommonHeader.read b = some hdr) : RTCPCommonHeader.read (b ++ l) = some hdr := by
  rw [RTCPCommonHeader.toBytes_of_read h, List.append_assoc]
  exact RTCPCommonHeader.read_toBytes hdr _

/-- The loop takes a frame off the front. -/
theorem parseLoop_frame {first : Bool} {b r : List UInt8} {hdr : RTCPCommonHeader}
    (h : Frame first b hdr) (hpad : hdr.padding = 0 ∨ r = []) (fuel : ℕ) :
    parseLoop (fuel + 1) first (b ++ r) = (framePacket b).bind fun p ↦
      if r.length ≥ sizeofRTCPCommonHeader then
        (parseLoop fuel false r).map fun x ↦ x.map (p :: ·)
      else if r.length ≠ 0 then some (.error ERR_RTP_RTCPCOMPOUND_INVALIDPACKET)
      else some (.ok [p]) := by
  have hsplit : ¬ (hdr.padding ≠ 0 ∧ (hdr.length.toNat + 1) * 4 ≠ (b ++ r).length) := by
    rintro ⟨hp, hlen⟩
    obtain h0 | rfl := hpad
    · exact hp h0
    · rw [List.append_nil, h.length] at hlen
      exact hlen rfl
  have hreport : ¬ (first = true ∧ ¬ (hdr.packettype = Packet.RTP_RTCPTYPE_SR ∨
      hdr.packettype = Packet.RTP_RTCPTYPE_RR)) := fun hno ↦ hno.2 (h.report hno.1)
  have hfit : ¬ (hdr.length.toNat + 1) * 4 > (b ++ r).length := by
    rw [List.length_append, h.length]
    omega
  simp only [parseLoop, framePacket, read_append h.read, h.read, Option.bind_eq_bind,
    Option.bind_some]
  rw [if_neg (not_not_intro h.version), if_neg hreport, if_neg hfit, if_neg hsplit, ← h.length,
    List.take_left, List.drop_left]
  rfl

theorem parseLoop_of_frames {first : Bool} {bs : List (List UInt8)} (h : Frames first bs)
    {ps : List RTCPPacket} (hps : bs.mapM framePacket = some ps) {fuel : ℕ}
    (hfuel : bs.flatten.length ≤ fuel) : parseLoop fuel first bs.flatten = some (.ok ps) := by
  have hmin := h.le
  unfold sizeofRTCPCommonHeader at hmin
  induction h generalizing ps fuel with
  | @last first b hdr h =>
    obtain ⟨f, rfl⟩ := Nat.exists_eq_succ_of_ne_zero (n := fuel) (by omega)
    rw [List.mapM_cons] at hps
    simp only [List.mapM_nil, Option.bind_eq_bind, Option.pure_def, Option.bind_some,
      Option.bind_eq_some_iff, Option.some.injEq] at hps
    obtain ⟨p, hp, rfl⟩ := hps
    rw [List.flatten_cons, List.flatten_nil, parseLoop_frame h (.inr rfl), hp]
    rfl
  | @cons first b hdr bs h hpad hs ih =>
    obtain ⟨f, rfl⟩ := Nat.exists_eq_succ_of_ne_zero (n := fuel) (by omega)
    rw [List.mapM_cons] at hps
    simp only [Option.bind_eq_bind, Option.pure_def, Option.bind_eq_some_iff,
      Option.some.injEq] at hps
    obtain ⟨p, hp, ps, hps, rfl⟩ := hps
    have hle := hs.le
    have hpos := h.le
    rw [List.flatten_cons, List.length_append] at hfuel
    rw [List.flatten_cons, parseLoop_frame h (.inl hpad), hp, Option.bind_some, if_pos hle,
      ih hps (by unfold sizeofRTCPCommonHeader at hpos; omega) hle]
    rfl

theorem read_take {data : List UInt8} {hdr : RTCPCommonHeader}
    (h : RTCPCommonHeader.read data = some hdr) {n : ℕ} (hn : sizeofRTCPCommonHeader ≤ n) :
    RTCPCommonHeader.read (data.take n) = some hdr := by
  rw [RTCPCommonHeader.toBytes_of_read h, List.take_append, hdr.length_toBytes,
    List.take_of_length_le (by rw [hdr.length_toBytes]; exact hn)]
  exact RTCPCommonHeader.read_toBytes hdr _

theorem frames_of_parseLoop {fuel : ℕ} {first : Bool} {data : List UInt8} {ps : List RTCPPacket}
    (h : parseLoop fuel first data = some (.ok ps)) :
    ∃ bs, Frames first bs ∧ bs.flatten = data ∧ bs.mapM framePacket = some ps := by
  induction fuel generalizing first data ps with
  | zero => cases h
  | succ fuel ih =>
    have hdata := h
    simp only [parseLoop, Option.bind_eq_bind, Option.bind_eq_some_iff] at h
    obtain ⟨hdr, hread, h⟩ := h
    by_cases hversion : hdr.version = Packet.RTP_VERSION
    · rw [if_neg (not_not_intro hversion)] at h
      split at h
      · cases h
      · rename_i hreport
        split at h
        · cases h
        · rename_i hfit
          split at h
          · cases h
          · rename_i hpad
            obtain ⟨b, hb⟩ : ∃ b, b = data.take ((hdr.length.toNat + 1) * 4) := ⟨_, rfl⟩
            obtain ⟨r, hr⟩ : ∃ r, r = data.drop ((hdr.length.toNat + 1) * 4) := ⟨_, rfl⟩
            have hjoin : b ++ r = data := by rw [hb, hr, List.take_append_drop]
            have hlen : b.length = (hdr.length.toNat + 1) * 4 := by
              rw [hb, List.length_take]
              omega
            have hframe : Frame first b hdr :=
              { read := hb ▸ read_take hread (by unfold sizeofRTCPCommonHeader; omega)
                version := hversion
                report := fun hf ↦ by_contra fun hno ↦ hreport ⟨hf, hno⟩
                length := hlen }
            have hlast : hdr.padding = 0 ∨ r = [] := by
              by_cases hp : hdr.padding = 0
              · exact .inl hp
              · right
                have hall : (hdr.length.toNat + 1) * 4 = data.length :=
                  by_contra fun hno ↦ hpad ⟨hp, hno⟩
                rw [hr, hall, List.drop_length]
            rw [← hjoin, parseLoop_frame hframe hlast, Option.bind_eq_some_iff] at hdata
            obtain ⟨p, hp, hdata⟩ := hdata
            split at hdata
            · rename_i hmore
              obtain ⟨x, hx, hps⟩ := Option.map_eq_some_iff.mp hdata
              cases x with
              | error e => cases hps
              | ok ps' =>
                cases hps
                obtain ⟨bs, hbs, hflatten, hmap⟩ := ih hx
                have hzero : hdr.padding = 0 := by
                  refine hlast.resolve_right fun hno ↦ ?_
                  rw [hno] at hmore
                  exact absurd hmore (by decide)
                refine ⟨b :: bs, .cons hframe hzero hbs, ?_, ?_⟩
                · rw [List.flatten_cons, hflatten, hjoin]
                · rw [List.mapM_cons, hp, hmap]
                  rfl
            · split at hdata
              · cases hdata
              · rename_i hnone
                cases hdata
                have hnil : r = [] := List.length_eq_zero_iff.mp (not_not.mp hnone)
                refine ⟨[b], .last hframe, ?_, ?_⟩
                · rw [List.flatten_cons, List.flatten_nil, ← hnil, hjoin]
                · rw [List.mapM_cons, hp]
                  rfl
    · rw [if_pos hversion] at h
      cases h

theorem exists_parseLoop {fuel : ℕ} {first : Bool} {data : List UInt8}
    (hlen : sizeofRTCPCommonHeader ≤ data.length) (hfuel : data.length ≤ fuel) :
    ∃ r, parseLoop fuel first data = some r := by
  induction fuel generalizing first data with
  | zero =>
    unfold sizeofRTCPCommonHeader at hlen
    omega
  | succ fuel ih =>
    obtain ⟨hdr, hread⟩ := RTCPCommonHeader.exists_read hlen
    simp only [parseLoop, hread, Option.bind_eq_bind, Option.bind_some]
    split
    · exact ⟨_, rfl⟩
    · split
      · exact ⟨_, rfl⟩
      · split
        · exact ⟨_, rfl⟩
        · split
          · exact ⟨_, rfl⟩
          · have htake : sizeofRTCPCommonHeader ≤
                (data.take ((hdr.length.toNat + 1) * 4)).length := by
              rw [List.length_take]
              unfold sizeofRTCPCommonHeader at hlen ⊢
              omega
            obtain ⟨p, hp, -⟩ := ofData_readable hdr.packettype htake
            rw [hp, Option.bind_some]
            split
            · rename_i hmore
              obtain ⟨x, hx⟩ := @ih false _ hmore (by rw [List.length_drop]; omega)
              exact ⟨_, by rw [hx, Option.map_some]⟩
            · split
              · exact ⟨_, rfl⟩
              · exact ⟨_, rfl⟩

theorem parseData_of_frames {bs : List (List UInt8)} (h : Frames true bs) {ps : List RTCPPacket}
    (hps : bs.mapM framePacket = some ps) : parseData bs.flatten = some (.ok ps) := by
  rw [parseData, if_neg (not_lt.mpr h.le)]
  exact parseLoop_of_frames h hps (Nat.le_refl _)

/-- A compound packet is accepted exactly when it is a row of frames that begins with a
report and of which only the last one is padded, and its packets are those frames. -/
theorem parseData_ok_iff (data : List UInt8) (ps : List RTCPPacket) :
    parseData data = some (.ok ps) ↔
      ∃ bs, Frames true bs ∧ bs.flatten = data ∧ bs.mapM framePacket = some ps := by
  constructor
  · intro h
    unfold parseData at h
    split at h
    · cases h
    · exact frames_of_parseLoop h
  · rintro ⟨bs, hbs, rfl, hps⟩
    exact parseData_of_frames hbs hps

/-- Each packet of a compound packet was made of some bytes of it, under some type. -/
theorem ofData_of_parseData {data : List UInt8} {ps : List RTCPPacket}
    (h : parseData data = some (.ok ps)) {p : RTCPPacket} (hp : p ∈ ps) :
    ∃ packettype b, sizeofRTCPCommonHeader ≤ b.length ∧
      RTCPPacket.ofData packettype b = some p := by
  unfold parseData at h
  split at h
  · cases h
  · obtain ⟨bs, -, -, hmap⟩ := frames_of_parseLoop h
    obtain ⟨b, -, hb⟩ := List.mem_map.mp
      (mapM_eq_some.mp hmap ▸ List.mem_map_of_mem hp : some p ∈ bs.map framePacket)
    simp only [framePacket, Option.bind_eq_bind, Option.bind_eq_some_iff] at hb
    obtain ⟨hdr, hread, hb⟩ := hb
    refine ⟨hdr.packettype, b, ?_, hb⟩
    rw [RTCPCommonHeader.toBytes_of_read hread, List.length_append, hdr.length_toBytes]
    exact Nat.le_add_right _ _

theorem readable_of_parseData {data : List UInt8} {ps : List RTCPPacket}
    (h : parseData data = some (.ok ps)) {p : RTCPPacket} (hp : p ∈ ps) : Readable p := by
  obtain ⟨packettype, b, hlen, hb⟩ := ofData_of_parseData h hp
  obtain ⟨p', hp', hreadable⟩ := ofData_readable packettype hlen
  rw [hb, Option.some.injEq] at hp'
  exact hp' ▸ hreadable

theorem exists_parseData (data : List UInt8) : ∃ r, parseData data = some r := by
  unfold parseData
  split
  · exact ⟨_, rfl⟩
  · rename_i hlen
    exact exists_parseLoop (not_lt.mp hlen) (Nat.le_refl _)

/-- Nothing that comes as a compound packet is read past the end of one of its packets, not
while it is parsed and not while its packets, chunks and items are gone through. -/
theorem parseData_readable (data : List UInt8) :
    ∃ r, parseData data = some r ∧ ∀ ps, r = .ok ps → ∀ p ∈ ps, Readable p := by
  obtain ⟨r, hr⟩ := exists_parseData data
  refine ⟨r, hr, ?_⟩
  rintro ps rfl p hp
  exact readable_of_parseData hr hp

end Compound

end VirtualCamera.Rtp.RtcpReading
