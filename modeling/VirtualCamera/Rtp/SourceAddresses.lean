import VirtualCamera.Rtp.SourceCounts

namespace VirtualCamera.Rtp.SourceAddresses

open Library.Cursor Library.CursorTable Packet SourceStats Source Sources SourceCounts

variable {T A : Type}

/-- The addresses that are set stay. -/
structure Stable (d d' : RTPSourceData T A) : Prop where
  rtp : ∀ a, d.rtpaddr = some a → d'.rtpaddr = some a
  rtcp : ∀ a, d.rtcpaddr = some a → d'.rtcpaddr = some a

theorem Stable.of_eq {d d' : RTPSourceData T A} (hrtp : d'.rtpaddr = d.rtpaddr)
    (hrtcp : d'.rtcpaddr = d.rtcpaddr) : Stable d d' :=
  ⟨fun _ ha ↦ hrtp.trans ha, fun _ ha ↦ hrtcp.trans ha⟩

theorem Stable.trans {d d' d'' : RTPSourceData T A} (h : Stable d d') (h' : Stable d' d'') :
    Stable d d'' := ⟨fun a ha ↦ h'.rtp a (h.rtp a ha), fun a ha ↦ h'.rtcp a (h.rtcp a ha)⟩

theorem Stable.of_checked {d d' : RTPSourceData T A} {senderaddress : Option A} {isrtp : Bool}
    (h : Checked d d' senderaddress isrtp) : Stable d d' := ⟨h.rtp, h.rtcp⟩

theorem Stable.of_kept {d d' : RTPSourceData T A} (h : Kept d d') : Stable d d' :=
  .of_eq h.rtpaddr h.rtcpaddr

variable [RTPAddress A]

def Hosts (s : RTPSources T A) : Prop :=
  ∀ k d, s.sourcelist.lookup k = some d → SameHost d

/-- Every source is still there, with the addresses it had. -/
structure Grown (s s' : RTPSources T A) : Prop where
  stable : ∀ k d, s.sourcelist.lookup k = some d →
    ∃ d', s'.sourcelist.lookup k = some d' ∧ Stable d d'
  hosts : Hosts s → Hosts s'

theorem Grown.refl (s : RTPSources T A) : Grown s s :=
  ⟨fun _ d hd ↦ ⟨d, hd, fun _ ↦ id, fun _ ↦ id⟩, id⟩

theorem Grown.trans {s s' s'' : RTPSources T A} (h : Grown s s') (h' : Grown s' s'') :
    Grown s s'' where
  stable := by
    intro k d hd
    obtain ⟨d', hd', hs⟩ := h.stable k d hd
    obtain ⟨d'', hd'', hs'⟩ := h'.stable k d' hd'
    exact ⟨d'', hd'', hs.trans hs'⟩
  hosts := fun hh ↦ h'.hosts (h.hosts hh)

theorem Grown.of_lookup {s s' : RTPSources T A}
    (h : ∀ k, s'.sourcelist.lookup k = s.sourcelist.lookup k) : Grown s s' where
  stable := fun k d hd ↦ ⟨d, (h k).trans hd, fun _ ↦ id, fun _ ↦ id⟩
  hosts := fun hh k d hd ↦ hh k d ((h k).symm.trans hd)

section Changes

variable {s s' : RTPSources T A} {k : UInt32} {d d' : RTPSourceData T A}

theorem Grown.put (hd : s.sourcelist.lookup k = some d)
    (hlist : s'.sourcelist.entries = (s.sourcelist.replace k d').entries) (hs : Stable d d')
    (hhost : SameHost d → SameHost d') : Grown s s' := by
  have hlookup : ∀ j, s'.sourcelist.lookup j =
      if j = k then some d' else s.sourcelist.lookup j := by
    intro j
    have hsame : s'.sourcelist.lookup j = (s.sourcelist.replace k d').lookup j := by
      unfold CursorMap.lookup
      rw [hlist]
    rw [hsame, lookup_replace, hd, Option.map_some]
  constructor
  · intro j c hc
    rw [hlookup]
    by_cases hj : j = k
    · rw [hj, hd] at hc
      cases hc
      exact ⟨d', if_pos hj, hs⟩
    · exact ⟨c, (if_neg hj).trans hc, fun _ ↦ id, fun _ ↦ id⟩
  · intro hh j c hc
    rw [hlookup] at hc
    split at hc
    · cases hc
      exact hhost (hh k d hd)
    · exact hh j c hc

theorem grown_obtain (zero : T) (ssrc : UInt32) :
    Grown s (s.obtainSourceDataInstance zero ssrc).2.2 := by
  unfold RTPSources.obtainSourceDataInstance
  cases hd : s.sourcelist.lookup ssrc with
  | none =>
    have hlookup := lookup_add (s.sourcelist.find ssrc) ssrc
    have hfind : ∀ j, (s.sourcelist.find ssrc).lookup j = s.sourcelist.lookup j := fun _ ↦ rfl
    constructor
    · intro j c hc
      refine ⟨c, ?_, fun _ ↦ id, fun _ ↦ id⟩
      rw [hlookup, hfind, hc, Option.some_or]
    · intro hh j c hc
      rw [hlookup, hfind] at hc
      obtain hc | ⟨-, hc⟩ := Option.or_eq_some_iff.mp hc
      · exact hh j c hc
      · split at hc
        · cases hc
          intro a b ha
          cases ha
        · cases hc
  | some d => exact Grown.of_lookup fun _ ↦ rfl

theorem grown_of_obtain {zero : T} {ssrc : UInt32} {d : RTPSourceData T A} {created : Bool}
    {s₁ : RTPSources T A} (h : s.obtainSourceDataInstance zero ssrc = (d, created, s₁)) :
    Grown s s₁ := by
  have hg := grown_obtain (s := s) zero ssrc
  rw [h] at hg
  exact hg

/-- A new source takes the sender's address. -/
theorem sameHost_of_created {d d' : RTPSourceData T A} {zero : T} {ssrc : UInt32}
    {probationtype : ProbationType} {senderaddress : Option A} {isrtp : Bool}
    (hd : d = RTPSourceData.new zero ssrc probationtype)
    (h : d' = if isrtp then d.setRTPDataAddress senderaddress
      else d.setRTCPDataAddress senderaddress) : SameHost d' := by
  subst hd h
  cases isrtp with
  | true =>
    intro a b _ hb
    cases hb
  | false =>
    intro a b ha
    cases ha

end Changes

theorem sameHost_of_eq {d d' : RTPSourceData T A} (hrtp : d'.rtpaddr = d.rtpaddr)
    (hrtcp : d'.rtcpaddr = d.rtcpaddr) (hd : SameHost d) : SameHost d' :=
  fun a b ha hb ↦ hd a b (hrtp ▸ ha) (hrtcp ▸ hb)

section Packets

variable [DecidableEq A] {s : RTPSources T A} {missed : ℤ}

theorem grown_processCSRC (h : Sound s missed) (zero : T) (senderaddress : Option A)
    (csrc : UInt32) : Grown s (s.processCSRC zero senderaddress csrc) := by
  obtain ⟨d, created, s₁, hobtain, h₁, hd, -, -, -⟩ := h.obtain zero csrc
  have he := h₁.lookup_entry hd
  apply (grown_of_obtain hobtain).trans
  simp only [RTPSources.processCSRC, hobtain]
  cases created with
  | true =>
    have hput : Grown s₁ (s₁.put d.setCSRC) := by
      apply Grown.put hd
      · exact congrArg (fun k ↦ (s₁.sourcelist.replace k d.setCSRC).entries) he.ssrc
      · exact Stable.of_eq rfl rfl
      · exact id
    simp only [if_true]
    split
    · exact hput.trans (Grown.of_lookup fun _ ↦ rfl)
    · exact hput
  | false =>
    simp only [Bool.false_eq_true, if_false]
    cases hc : checkCollision d senderaddress true with
    | none => exact Grown.of_lookup fun _ ↦ rfl
    | some d' =>
      have hchecked := checkCollision_checked hc
      apply Grown.put hd
      · exact congrArg (fun k ↦ (s₁.sourcelist.replace k d'.setCSRC).entries)
          (he.checked hchecked).ssrc
      · exact (Stable.of_checked hchecked).trans (Stable.of_eq rfl rfl)
      · intro hhost
        have hh := checkCollision_sameHost hhost hc
        exact hh

theorem grown_processCSRCs (h : Sound s missed) (zero : T) (senderaddress : Option A)
    (csrcs : List UInt32) :
    Grown s (csrcs.foldl (fun s c ↦ s.processCSRC zero senderaddress c) s) := by
  induction csrcs generalizing s missed with
  | nil => exact Grown.refl s
  | cons c cs ih =>
    exact (grown_processCSRC h zero senderaddress c).trans (ih (h.processCSRC zero senderaddress c))

theorem grown_receiveRTPPacket (h : Sound s missed) (zero : T) (p : RTPPacket) (t : T)
    (senderaddress : Option A) (b : Bool) :
    Grown s (s.receiveRTPPacket zero p t senderaddress b).1.sources ∧
      ((s.receiveRTPPacket zero p t senderaddress b).1.stored = true →
        ∃ d, (s.receiveRTPPacket zero p t senderaddress b).1.sources.sourcelist.lookup p.ssrc =
          some d ∧ d.rtpaddr = some senderaddress) := by
  obtain ⟨d, created, s₁, hobtain, h₁, hd, -, hnew, -⟩ := h.obtain zero p.ssrc
  have he := h₁.lookup_entry hd
  have hchecked : ∀ d', (if created then some (d.setRTPDataAddress senderaddress)
      else checkCollision d senderaddress true) = some d' →
      Checked d d' senderaddress true ∧ (SameHost d → SameHost d') := by
    intro d' hd'
    cases created with
    | true =>
      cases hd'
      have hunset : (if true then d.rtpaddr else d.rtcpaddr) = none := by
        rw [(hnew rfl).2]
        rfl
      exact ⟨checked_of_unset senderaddress hunset,
        fun _ ↦ sameHost_of_created (hnew rfl).2 (if_pos rfl).symm⟩
    | false => exact ⟨checkCollision_checked hd', fun hhost ↦ checkCollision_sameHost hhost hd'⟩
  have hg := grown_of_obtain hobtain
  simp only [RTPSources.receiveRTPPacket, hobtain]
  split
  · exact ⟨hg.trans (Grown.of_lookup fun _ ↦ rfl), fun hstored ↦ by cases hstored⟩
  · rename_i d' hd'
    obtain ⟨hc, hhost⟩ := hchecked d' hd'
    have hk := processRTPPacket_kept d' p t b
    have hssrc : (d'.processRTPPacket p t b).source.ssrc = p.ssrc :=
      hk.ssrc.trans (he.checked hc).ssrc
    refine ⟨hg.trans ?_, fun _ ↦ ⟨(d'.processRTPPacket p t b).source, ?_, ?_⟩⟩
    · apply Grown.put hd
      · exact congrArg (fun k ↦ (s₁.sourcelist.replace k _).entries) hssrc
      · exact (Stable.of_checked hc).trans (Stable.of_kept hk)
      · exact fun hh ↦ sameHost_of_eq hk.rtpaddr hk.rtcpaddr (hhost hh)
    · show (s₁.sourcelist.replace _ _).lookup p.ssrc = _
      rw [hssrc, lookup_replace, if_pos rfl, hd]
      rfl
    · exact hk.rtpaddr.trans hc.sender

/-- A source that RTCP data is for has the sender's address. -/
theorem grown_getRTCPSourceData (h : Sound s missed) (zero : T) (ssrc : UInt32)
    (senderaddress : Option A) :
    Grown s (s.getRTCPSourceData zero ssrc senderaddress).2 ∧
      ∀ d, (s.getRTCPSourceData zero ssrc senderaddress).1 = some d →
        (s.getRTCPSourceData zero ssrc senderaddress).2.sourcelist.lookup ssrc = some d ∧
          d.ssrc = ssrc ∧ d.rtcpaddr = some senderaddress := by
  obtain ⟨d, created, s₁, hobtain, h₁, hd, -, hnew, -⟩ := h.obtain zero ssrc
  have he := h₁.lookup_entry hd
  have hchecked : ∀ d', (if created then some (d.setRTCPDataAddress senderaddress)
      else checkCollision d senderaddress false) = some d' →
      Checked d d' senderaddress false ∧ (SameHost d → SameHost d') := by
    intro d' hd'
    cases created with
    | true =>
      cases hd'
      have hunset : (if false then d.rtpaddr else d.rtcpaddr) = none := by
        rw [(hnew rfl).2]
        rfl
      exact ⟨checked_of_unset senderaddress hunset,
        fun _ ↦ sameHost_of_created (hnew rfl).2 (if_neg Bool.false_ne_true).symm⟩
    | false => exact ⟨checkCollision_checked hd', fun hhost ↦ checkCollision_sameHost hhost hd'⟩
  have hg := grown_of_obtain hobtain
  simp only [RTPSources.getRTCPSourceData, hobtain]
  split
  · exact ⟨hg.trans (Grown.of_lookup fun _ ↦ rfl), fun d hno ↦ by cases hno⟩
  · rename_i d' hd'
    obtain ⟨hc, hhost⟩ := hchecked d' hd'
    have hssrc : d'.ssrc = ssrc := (he.checked hc).ssrc
    refine ⟨hg.trans ?_, fun d'' hd'' ↦ ?_⟩
    · apply Grown.put hd
      · exact congrArg (fun k ↦ (s₁.sourcelist.replace k _).entries) hssrc
      · exact Stable.of_checked hc
      · exact hhost
    · cases hd''
      refine ⟨?_, hssrc, hc.sender⟩
      show (s₁.sourcelist.replace _ _).lookup ssrc = _
      rw [hssrc, lookup_replace, if_pos rfl, hd]
      rfl

/-- What is done to that source afterwards leaves its addresses. -/
theorem grown_rtcp (h : Sound s missed) {zero : T} {ssrc : UInt32} {senderaddress : Option A}
    {s' : RTPSources T A}
    (hnone : (s.getRTCPSourceData zero ssrc senderaddress).1 = none →
      s' = (s.getRTCPSourceData zero ssrc senderaddress).2)
    (hsome : ∀ d, (s.getRTCPSourceData zero ssrc senderaddress).1 = some d →
      s' = (s.getRTCPSourceData zero ssrc senderaddress).2 ∨
        ∃ d', d'.ssrc = d.ssrc ∧ d'.rtpaddr = d.rtpaddr ∧ d'.rtcpaddr = d.rtcpaddr ∧
        s'.sourcelist =
          (s.getRTCPSourceData zero ssrc senderaddress).2.sourcelist.replace d'.ssrc d') :
    Grown s s' ∧ ((s.getRTCPSourceData zero ssrc senderaddress).1.isSome = true →
      ∃ d, s'.sourcelist.lookup ssrc = some d ∧ d.rtcpaddr = some senderaddress) := by
  obtain ⟨hg, hd⟩ := grown_getRTCPSourceData h zero ssrc senderaddress
  cases hget : (s.getRTCPSourceData zero ssrc senderaddress).1 with
  | none =>
    rw [hnone hget]
    exact ⟨hg, fun hno ↦ by cases hno⟩
  | some d =>
    obtain ⟨hlookup, hssrc, haddr⟩ := hd d hget
    obtain rfl | ⟨d', hsame, hrtp, hrtcp, hlist⟩ := hsome d hget
    · exact ⟨hg, fun _ ↦ ⟨d, hlookup, haddr⟩⟩
    · have hssrc' : d'.ssrc = ssrc := hsame.trans hssrc
      refine ⟨hg.trans ?_, fun _ ↦ ⟨d', ?_, hrtcp.trans haddr⟩⟩
      · apply Grown.put hlookup
        · rw [hlist, hssrc']
        · exact Stable.of_eq hrtp hrtcp
        · exact sameHost_of_eq hrtp hrtcp
      · rw [hlist, hssrc', lookup_replace, if_pos rfl, hlookup]
        rfl

theorem grown_updateReceiveTime (h : Sound s missed) (zero : T) (ssrc : UInt32) (t : T)
    (senderaddress : Option A) :
    Grown s (s.updateReceiveTime zero ssrc t senderaddress) ∧
      ((s.getRTCPSourceData zero ssrc senderaddress).1.isSome = true →
        ∃ d, (s.updateReceiveTime zero ssrc t senderaddress).sourcelist.lookup ssrc = some d ∧
          d.rtcpaddr = some senderaddress) := by
  apply grown_rtcp h
  · intro hnone
    simp only [RTPSources.updateReceiveTime, hnone]
  · intro d hd
    refine .inr ⟨d.updateMessageTime t, rfl, rfl, rfl, ?_⟩
    simp only [RTPSources.updateReceiveTime, hd]
    rfl

theorem grown_processSDESNormalItem (h : Sound s missed) (zero : T) (ssrc : UInt32)
    (i : SDESItemType) (itemdata : List UInt8) (t : T) (senderaddress : Option A) :
    Grown s (s.processSDESNormalItem zero ssrc i itemdata t senderaddress) ∧
      ((s.getRTCPSourceData zero ssrc senderaddress).1.isSome = true →
        ∃ d, (s.processSDESNormalItem zero ssrc i itemdata t senderaddress).sourcelist.lookup ssrc =
          some d ∧ d.rtcpaddr = some senderaddress) := by
  apply grown_rtcp h
  · intro hnone
    simp only [RTPSources.processSDESNormalItem, hnone]
  · intro d hd
    obtain ⟨hk, -⟩ := processSDESItem_kept d i itemdata t
    refine .inr ⟨(d.processSDESItem i itemdata t).1, hk.ssrc, hk.rtpaddr, hk.rtcpaddr, ?_⟩
    simp only [RTPSources.processSDESNormalItem, hd]
    split
    · rfl
    · rfl

theorem grown_processBYE (h : Sound s missed) (zero : T) (ssrc : UInt32) (reason : List UInt8)
    (t : T) (senderaddress : Option A) :
    Grown s (s.processBYE zero ssrc reason t senderaddress) ∧
      ((s.getRTCPSourceData zero ssrc senderaddress).1.isSome = true →
        ∃ d, (s.processBYE zero ssrc reason t senderaddress).sourcelist.lookup ssrc = some d ∧
          d.rtcpaddr = some senderaddress) := by
  apply grown_rtcp h
  · intro hnone
    simp only [RTPSources.processBYE, hnone]
  · intro d hd
    simp only [RTPSources.processBYE, hd]
    split
    · exact .inl rfl
    · refine .inr ⟨d.processBYEPacket reason t, rfl, rfl, rfl, ?_⟩
      split
      · rfl
      · rfl

end Packets

section Removal

omit [RTPAddress A]

/-- Every source that is still there has the addresses it had. -/
def Shrunk (s s' : RTPSources T A) : Prop :=
  ∀ k d', s'.sourcelist.lookup k = some d' →
    ∃ d, s.sourcelist.lookup k = some d ∧ d'.rtpaddr = d.rtpaddr ∧ d'.rtcpaddr = d.rtcpaddr

variable {s : RTPSources T A} {missed : ℤ}

/-- In terms of the entries, when every number is there once. -/
theorem shrunk_of_entries {s' : RTPSources T A} (hnodup : (keys s.sourcelist.entries).Nodup)
    (hnodup' : (keys s'.sourcelist.entries).Nodup)
    (h : ∀ k d', (k, d') ∈ s'.sourcelist.entries → ∃ d, (k, d) ∈ s.sourcelist.entries ∧
      d'.rtpaddr = d.rtpaddr ∧ d'.rtcpaddr = d.rtcpaddr) : Shrunk s s' := by
  intro k d' hd'
  obtain ⟨d, hd, haddr⟩ := h k d' ((lookup_eq_some_iff hnodup').mp hd')
  exact ⟨d, (lookup_eq_some_iff hnodup).mpr hd, haddr⟩

theorem shrunk_deleteOwnSSRC (h : Sound s missed) : Shrunk s s.deleteOwnSSRC.2 := by
  have h' := h.deleteOwnSSRC
  apply shrunk_of_entries h.nodup h'.nodup
  unfold RTPSources.deleteOwnSSRC
  intro k d' hd'
  refine ⟨d', ?_, rfl, rfl⟩
  split at hd'
  · exact hd'
  · split at hd'
    · exact hd'
    · exact (mem_without.mp hd').1

/-- A loop whose body leaves the addresses of the sources it keeps. -/
theorem shrunk_sweep (h : Sound s missed)
    {body : Counts → UInt32 → RTPSourceData T A → Option (RTPSourceData T A) × Counts}
    (h' : Sound (s.sweep body) 0)
    (hbody : ∀ c k d d', (body c k d).1 = some d' →
      d'.rtpaddr = d.rtpaddr ∧ d'.rtcpaddr = d.rtcpaddr) : Shrunk s (s.sweep body) := by
  apply shrunk_of_entries h.nodup h'.nodup
  intro k d' hd'
  simp only [RTPSources.sweep, sweep_eq h.nodup] at hd'
  obtain ⟨c, d, hd, hd'⟩ := mem_sweepEntries hd'
  exact ⟨d, hd, hbody c k d d' hd'⟩

theorem hosts_of_shrunk [RTPAddress A] {s' : RTPSources T A} (h : Shrunk s s') (hh : Hosts s) :
    Hosts s' := by
  intro k d' hd'
  obtain ⟨d, hd, hrtp, hrtcp⟩ := h k d' hd'
  exact sameHost_of_eq hrtp hrtcp (hh k d hd)

variable [LT T] [DecidableLT T]

theorem dropNote_addr (d : RTPSourceData T A) (t : T) :
    (RTPSources.dropNote d t).rtpaddr = d.rtpaddr ∧
      (RTPSources.dropNote d t).rtcpaddr = d.rtcpaddr := by
  unfold RTPSources.dropNote
  split
  · exact ⟨rfl, rfl⟩
  · exact ⟨rfl, rfl⟩

theorem shrunk_timeout (h : Sound s missed) (t : T) : Shrunk s (s.timeout t) := by
  apply shrunk_sweep h (h.timeout t)
  intro c k d d' hd'
  split at hd'
  · cases hd'
  · cases hd'
    exact ⟨rfl, rfl⟩

theorem shrunk_senderTimeout (h : Sound s missed) (t : T) : Shrunk s (s.senderTimeout t) := by
  apply shrunk_sweep h (h.senderTimeout t)
  intro c k d d' hd'
  simp only at hd'
  split at hd'
  · split at hd'
    · cases hd'
      exact ⟨rfl, rfl⟩
    · cases hd'
      exact ⟨rfl, rfl⟩
  · cases hd'
    exact ⟨rfl, rfl⟩

theorem shrunk_byeTimeout (h : Sound s missed) (t : T) : Shrunk s (s.byeTimeout t) := by
  apply shrunk_sweep h (h.byeTimeout t)
  intro c k d d' hd'
  split at hd'
  · cases hd'
  · cases hd'
    exact ⟨rfl, rfl⟩

theorem shrunk_noteTimeout (h : Sound s missed) (t : T) : Shrunk s (s.noteTimeout t) := by
  apply shrunk_sweep h (h.noteTimeout t)
  intro c k d d' hd'
  cases hd'
  exact dropNote_addr d t

theorem shrunk_multipleTimeouts (h : Sound s missed) (t₁ t₂ t₃ t₄ : T) :
    Shrunk s (s.multipleTimeouts t₁ t₂ t₃ t₄) := by
  apply shrunk_sweep h (h.multipleTimeouts t₁ t₂ t₃ t₄)
  intro c k d d' hd'
  simp only at hd'
  split at hd'
  · cases hd'
  · split at hd'
    · cases hd'
    · split at hd'
      · split at hd'
        · cases hd'
          exact dropNote_addr d t₄
        · cases hd'
          exact dropNote_addr d t₄
      · cases hd'
        exact dropNote_addr d t₄

end Removal

section Runs

variable {s : RTPSources T A} {missed : ℤ}

theorem grown_createOwnSSRC (h : Sound s missed) (zero : T) (ssrc : UInt32) :
    Grown s (s.createOwnSSRC zero ssrc).2 := by
  unfold RTPSources.createOwnSSRC
  split
  · exact Grown.refl s
  · split
    · exact Grown.refl s
    · rename_i hno
      obtain ⟨d, created, s₁, hobtain, -, hd, -, hnew, hold⟩ := h.obtain zero ssrc
      have hcreated : created = true := by
        rw [← Bool.not_eq_false]
        intro hc
        have hmem := (lookup_eq_some_iff h.nodup).mp (hold hc)
        exact hno (decide_eq_true (List.mem_map_of_mem hmem))
      obtain ⟨-, rfl⟩ := hnew hcreated
      have hg := grown_of_obtain hobtain
      rw [hobtain]
      apply hg.trans
      apply Grown.put hd
      · rfl
      · exact ⟨fun a ha ↦ (Option.some_ne_none a ha.symm).elim,
          fun a ha ↦ (Option.some_ne_none a ha.symm).elim⟩
      · intro _ a b ha hb
        cases ha
        cases hb
        trivial

theorem grown_sentRTPPacket (h : Sound s missed) (now : T) : Grown s (s.sentRTPPacket now) := by
  unfold RTPSources.sentRTPPacket
  cases hd : s.owndata.bind s.sourcelist.lookup with
  | none => exact Grown.refl s
  | some d =>
    obtain ⟨k, -, hd⟩ := Option.bind_eq_some_iff.mp hd
    have hsame : (d.sentRTPPacket now).ssrc = d.ssrc ∧
        (d.sentRTPPacket now).rtpaddr = d.rtpaddr ∧
          (d.sentRTPPacket now).rtcpaddr = d.rtcpaddr := by
      unfold RTPSourceData.sentRTPPacket
      split
      · exact ⟨rfl, rfl, rfl⟩
      · exact ⟨rfl, rfl, rfl⟩
    obtain ⟨hssrc, hrtp, hrtcp⟩ := hsame
    have hput : Grown s (s.put (d.sentRTPPacket now)) := by
      apply Grown.put hd
      · exact congrArg (fun k ↦ (s.sourcelist.replace k _).entries)
          (hssrc.trans (h.lookup_entry hd).ssrc)
      · exact Stable.of_eq hrtp hrtcp
      · exact sameHost_of_eq hrtp hrtcp
    simp only
    split
    · exact hput.trans (Grown.of_lookup fun _ ↦ rfl)
    · exact hput

theorem grown_getNextPacket (h : Sound s missed) : Grown s s.getNextPacket.2 := by
  unfold RTPSources.getNextPacket
  split
  · split
    · exact Grown.refl s
    · rename_i k _ d hd
      have hnext : ∃ l, d.getNextPacket.2 = { d with packetlist := l } := by
        obtain ⟨hn, -⟩ | ⟨-, p, rest, -, hn⟩ := getNextPacket_cases d
        · exact ⟨d.packetlist, by rw [hn]⟩
        · exact ⟨rest, by rw [hn]⟩
      obtain ⟨l, hl⟩ := hnext
      simp only [hl]
      apply Grown.put hd
      · exact congrArg (fun k ↦ (s.sourcelist.replace k _).entries) (h.lookup_entry hd).ssrc
      · exact Stable.of_eq rfl rfl
      · exact id
  · exact Grown.refl s

variable [DecidableEq A]

theorem grown_processRTPPacket (h : Sound s missed) (zero : T) (p : RTPPacket)
    (csrcs : List UInt32) (t : T) (senderaddress : Option A) (b : Bool) :
    Grown s (s.processRTPPacket zero p csrcs t senderaddress b).sources ∧
      ((s.processRTPPacket zero p csrcs t senderaddress b).stored = true →
        ∃ d, (s.processRTPPacket zero p csrcs t senderaddress b).sources.sourcelist.lookup p.ssrc =
          some d ∧ d.rtpaddr = some senderaddress) := by
  obtain ⟨hg, hstored⟩ := grown_receiveRTPPacket h zero p t senderaddress b
  have h₁ := h.receiveRTPPacket zero p t senderaddress b
  unfold RTPSources.processRTPPacket
  split
  rename_i r validated hr
  rw [hr] at hg hstored h₁
  cases validated with
  | false => exact ⟨hg, hstored⟩
  | true =>
    have hg' := grown_processCSRCs h₁ zero senderaddress csrcs
    refine ⟨hg.trans hg', fun hs ↦ ?_⟩
    obtain ⟨d, hd, haddr⟩ := hstored hs
    obtain ⟨d', hd', hstable⟩ := hg'.stable _ d hd
    exact ⟨d', hd', hstable.rtp _ haddr⟩

variable [LT T] [DecidableLT T]

/-- Whether an event brought something for a source, by RTP or by RTCP, and from where. -/
def accepted (zero : T) (s : RTPSources T A) : Event T A → List (UInt32 × Bool × Option A)
  | .rtp rtppack csrcs receivetime senderaddress ispackethandled =>
    let r := s.processRTPPacket zero rtppack csrcs receivetime senderaddress ispackethandled
    if r.stored then [(rtppack.ssrc, true, senderaddress)] else []
  | .report ssrc _ senderaddress | .sdes ssrc _ _ _ senderaddress | .bye ssrc _ _ senderaddress =>
    if (s.getRTCPSourceData zero ssrc senderaddress).1.isSome then [(ssrc, false, senderaddress)]
    else []
  | _ => []

/-- What was accepted for the sources that are in the table since. -/
def logAfter (zero : T) (s : RTPSources T A) (log : List (UInt32 × Bool × Option A))
    (e : Event T A) : List (UInt32 × Bool × Option A) :=
  (log ++ accepted zero s e).filter fun x ↦ (step zero s e).gotEntry x.1

/-- All that was accepted came from where the source is. -/
structure Located (s : RTPSources T A) (log : List (UInt32 × Bool × Option A)) : Prop where
  hosts : Hosts s
  log : ∀ x ∈ log, ∃ d, s.sourcelist.lookup x.1 = some d ∧
    (if x.2.1 then d.rtpaddr else d.rtcpaddr) = some x.2.2

theorem Located.grown {zero : T} {log : List (UInt32 × Bool × Option A)} {e : Event T A}
    (h : Located s log) (hg : Grown s (step zero s e))
    (hnew : ∀ x ∈ accepted zero s e, ∃ d, (step zero s e).sourcelist.lookup x.1 = some d ∧
      (if x.2.1 then d.rtpaddr else d.rtcpaddr) = some x.2.2) :
    Located (step zero s e) (logAfter zero s log e) where
  hosts := hg.hosts h.hosts
  log := by
    intro x hx
    obtain hx | hx := List.mem_append.mp (List.mem_filter.mp hx).1
    · obtain ⟨d, hd, haddr⟩ := h.log x hx
      obtain ⟨d', hd', hs⟩ := hg.stable _ d hd
      refine ⟨d', hd', ?_⟩
      split at haddr
      · rename_i hrtp
        rw [if_pos hrtp]
        exact hs.rtp _ haddr
      · rename_i hrtp
        rw [if_neg hrtp]
        exact hs.rtcp _ haddr
    · exact hnew x hx

theorem Located.shrunk {zero : T} {log : List (UInt32 × Bool × Option A)} {e : Event T A}
    (h : Located s log) (hs : Shrunk s (step zero s e)) (hnone : accepted zero s e = []) :
    Located (step zero s e) (logAfter zero s log e) where
  hosts := hosts_of_shrunk hs h.hosts
  log := by
    intro x hx
    obtain ⟨hx, hkept⟩ := List.mem_filter.mp hx
    rw [hnone, List.append_nil] at hx
    obtain ⟨d, hd, haddr⟩ := h.log x hx
    have hmem : (step zero s e).sourcelist.lookup x.1 ≠ none := fun hno ↦
      lookup_eq_none.mp hno (of_decide_eq_true hkept)
    obtain ⟨d', hd'⟩ := Option.ne_none_iff_exists'.mp hmem
    obtain ⟨d₀, hd₀, hrtp, hrtcp⟩ := hs _ d' hd'
    rw [hd] at hd₀
    cases hd₀
    refine ⟨d', hd', ?_⟩
    rw [hrtp, hrtcp]
    exact haddr

theorem step_located (zero : T) (h : Sound s missed) {log : List (UInt32 × Bool × Option A)}
    (hl : Located s log) (e : Event T A) : Located (step zero s e) (logAfter zero s log e) := by
  cases e with
  | createOwnSSRC ssrc =>
    exact hl.grown (grown_createOwnSSRC h zero ssrc) fun x hx ↦ (List.not_mem_nil hx).elim
  | deleteOwnSSRC => exact hl.shrunk (shrunk_deleteOwnSSRC h) rfl
  | sentRTPPacket now =>
    exact hl.grown (grown_sentRTPPacket h now) fun x hx ↦ (List.not_mem_nil hx).elim
  | rtp p csrcs t senderaddress b =>
    obtain ⟨hg, hstored⟩ := grown_processRTPPacket h zero p csrcs t senderaddress b
    refine hl.grown hg fun x hx ↦ ?_
    simp only [accepted] at hx
    split at hx
    · rename_i hs
      obtain rfl := List.mem_singleton.mp hx
      exact hstored hs
    · cases hx
  | report ssrc t senderaddress =>
    obtain ⟨hg, hsome⟩ := grown_updateReceiveTime h zero ssrc t senderaddress
    refine hl.grown hg fun x hx ↦ ?_
    simp only [accepted] at hx
    split at hx
    · rename_i hs
      obtain rfl := List.mem_singleton.mp hx
      exact hsome hs
    · cases hx
  | sdes ssrc i itemdata t senderaddress =>
    obtain ⟨hg, hsome⟩ := grown_processSDESNormalItem h zero ssrc i itemdata t senderaddress
    refine hl.grown hg fun x hx ↦ ?_
    simp only [accepted] at hx
    split at hx
    · rename_i hs
      obtain rfl := List.mem_singleton.mp hx
      exact hsome hs
    · cases hx
  | bye ssrc reason t senderaddress =>
    obtain ⟨hg, hsome⟩ := grown_processBYE h zero ssrc reason t senderaddress
    refine hl.grown hg fun x hx ↦ ?_
    simp only [accepted] at hx
    split at hx
    · rename_i hs
      obtain rfl := List.mem_singleton.mp hx
      exact hsome hs
    · cases hx
  | gotoFirstSource =>
    exact hl.grown (Grown.of_lookup fun _ ↦ rfl) fun x hx ↦ (List.not_mem_nil hx).elim
  | gotoNextSource =>
    refine hl.grown (Grown.of_lookup fun k ↦ ?_) fun x hx ↦ (List.not_mem_nil hx).elim
    show (s.sourcelist.gotoNext.getD s.sourcelist).lookup k = _
    cases hn : s.sourcelist.gotoNext with
    | none => rfl
    | some m =>
      obtain ⟨_, -, rfl⟩ := Option.map_eq_some_iff.mp hn
      rfl
  | getNextPacket =>
    exact hl.grown (grown_getNextPacket h) fun x hx ↦ (List.not_mem_nil hx).elim
  | timeout t => exact hl.shrunk (shrunk_timeout h t) rfl
  | senderTimeout t => exact hl.shrunk (shrunk_senderTimeout h t) rfl
  | byeTimeout t => exact hl.shrunk (shrunk_byeTimeout h t) rfl
  | noteTimeout t => exact hl.shrunk (shrunk_noteTimeout h t) rfl
  | multipleTimeouts t₁ t₂ t₃ t₄ => exact hl.shrunk (shrunk_multipleTimeouts h t₁ t₂ t₃ t₄) rfl
  | clear => exact hl.shrunk (fun k d' hd' ↦ by cases hd') rfl

/-- What was accepted in a run for the sources that are in the table since. -/
def logOf (zero : T) : RTPSources T A → List (UInt32 × Bool × Option A) → List (Event T A) →
    List (UInt32 × Bool × Option A)
  | _, log, [] => log
  | s, log, e :: es => logOf zero (step zero s e) (logAfter zero s log e) es

theorem located_run (zero : T) (es : List (Event T A)) (h : Sound s missed)
    {log : List (UInt32 × Bool × Option A)} (hl : Located s log) :
    ∃ s' : RTPSources T A, Located s' (logOf zero s log es) := by
  induction es generalizing s missed log with
  | nil => exact ⟨s, hl⟩
  | cons e es ih => exact ih (step_sound zero h e) (step_located zero h hl e)

/-- In every run, what is accepted by RTP for a source comes from one address, as long as
the source is in the table, what is accepted by RTCP from one address, and both from one
host. -/
theorem one_address_run (zero : T) (probationtype : ProbationType) (es : List (Event T A)) :
    ∀ x ∈ logOf zero (RTPSources.new probationtype) [] es,
      ∀ y ∈ logOf zero (RTPSources.new probationtype) [] es, x.1 = y.1 →
        if x.2.1 = y.2.1 then x.2.2 = y.2.2 else OneHost x.2.2 y.2.2 := by
  have hnew : Located (RTPSources.new probationtype : RTPSources T A) [] :=
    ⟨fun _ _ hd ↦ (Option.some_ne_none _ hd.symm).elim, fun _ hx ↦ (List.not_mem_nil hx).elim⟩
  obtain ⟨s, hl⟩ := located_run zero es (sound_new probationtype) hnew
  intro x hx y hy hxy
  obtain ⟨d, hd, hxa⟩ := hl.log x hx
  obtain ⟨d', hd', hya⟩ := hl.log y hy
  rw [← hxy, hd] at hd'
  cases hd'
  obtain ⟨k, xrtp, xa⟩ := x
  obtain ⟨k', yrtp, ya⟩ := y
  cases xrtp with
  | true =>
    cases yrtp with
    | true =>
      rw [if_pos rfl]
      exact Option.some.inj (hxa.symm.trans hya)
    | false =>
      rw [if_neg (by simp)]
      exact hl.hosts k d hd _ _ hxa hya
  | false =>
    cases yrtp with
    | true =>
      rw [if_neg (by simp)]
      exact (hl.hosts k d hd _ _ hya hxa).symm
    | false =>
      rw [if_pos rfl]
      exact Option.some.inj (hxa.symm.trans hya)

/-- A packet and a name of one source, and between them a name from another host. -/
def strangerEvents : List (Event ℕ RTPIPv4Address) :=
  [.rtp (RTPPacket.filled 96 [] 1 0 5 false [] none) [] 0 (some ⟨1, 10⟩) false,
    .sdes 5 .cname [65] 1 (some ⟨2, 11⟩), .sdes 5 .cname [65] 1 (some ⟨1, 11⟩)]

theorem one_address_run_stranger : (5, false, some ⟨2, 11⟩) ∉
      logOf 0 (RTPSources.new .probationStore) [] strangerEvents ∧
    OneHost (some (⟨1, 10⟩ : RTPIPv4Address)) (some ⟨1, 11⟩) :=
  ⟨by decide, one_address_run (0 : ℕ) .probationStore strangerEvents
    (5, true, some ⟨1, 10⟩) (by decide) (5, false, some ⟨1, 11⟩) (by decide) rfl⟩

end Runs

end VirtualCamera.Rtp.SourceAddresses
