import VirtualCamera.Rtp.Sources

namespace VirtualCamera.Rtp.SourceCounts

open Library.Cursor Library.CursorTable Packet SourceStats Source Sources

variable {T A : Type}

section Counting

def countOf (q : RTPSourceData T A → Bool) (l : List (UInt32 × RTPSourceData T A)) : ℤ :=
  (l.countP fun x ↦ q x.2 : ℕ)

variable {q : RTPSourceData T A → Bool} {k : UInt32} {d : RTPSourceData T A}
  {a b : List (UInt32 × RTPSourceData T A)}

theorem countOf_split : countOf q (a ++ (k, d) :: b) = countOf q (a ++ b) + (q d).toNat := by
  unfold countOf
  rw [List.countP_append, List.countP_append, List.countP_cons]
  cases q d
  · simp
  · simp
    ring

end Counting

/-- A source under its number. Only the own source says that it is, and it is active and
has no addresses. -/
structure Entry (owndata : Option UInt32) (k : UInt32) (d : RTPSourceData T A) : Prop where
  ssrc : d.ssrc = k
  own : d.ownssrc = true ↔ owndata = some k
  active : d.ownssrc = true → d.isActive = true
  addresses : d.ownssrc = true → d.rtpaddr = some none ∧ d.rtcpaddr = some none

/-- The counts are those of the sources. The active ones that were not noticed are
`missed`. -/
structure Sound (s : RTPSources T A) (missed : ℤ) : Prop where
  nodup : (keys s.sourcelist.entries).Nodup
  entry : ∀ x ∈ s.sourcelist.entries, Entry s.owndata x.1 x.2
  own_mem : ∀ k, s.owndata = some k → k ∈ keys s.sourcelist.entries
  totalcount : s.totalcount = s.sourcelist.entries.length
  sendercount : s.sendercount = countOf RTPSourceData.issender s.sourcelist.entries
  activecount : s.activecount + missed = countOf RTPSourceData.isActive s.sourcelist.entries

theorem sound_new (probationtype : ProbationType) :
    Sound (RTPSources.new probationtype : RTPSources T A) 0 where
  nodup := List.nodup_nil
  entry := fun _ hx ↦ (List.not_mem_nil hx).elim
  own_mem := fun k hk ↦ by cases hk
  totalcount := rfl
  sendercount := rfl
  activecount := rfl

section Changes

variable {s s' : RTPSources T A} {missed missed' : ℤ} {k : UInt32} {d d' : RTPSourceData T A}

theorem Sound.lookup_entry (h : Sound s missed) (hd : s.sourcelist.lookup k = some d) :
    Entry s.owndata k d := by
  obtain ⟨a, b, hl, -, -⟩ := exists_split_of_lookup h.nodup hd
  exact h.entry (k, d) (hl ▸ List.mem_append_right _ List.mem_cons_self)

/-- Only the cursor moved. -/
theorem Sound.of_entries (h : Sound s missed)
    (hlist : s'.sourcelist.entries = s.sourcelist.entries) (hown : s'.owndata = s.owndata)
    (htotal : s'.totalcount = s.totalcount) (hsender : s'.sendercount = s.sendercount)
    (hactive : s'.activecount = s.activecount) : Sound s' missed where
  nodup := hlist ▸ h.nodup
  entry := by
    rw [hlist, hown]
    exact h.entry
  own_mem := by
    rw [hlist, hown]
    exact h.own_mem
  totalcount := by rw [hlist, htotal, h.totalcount]
  sendercount := by rw [hlist, hsender, h.sendercount]
  activecount := by rw [hlist, hactive, h.activecount]

/-- One source changed, and the counts with it. -/
theorem Sound.replace (h : Sound s missed) (hd : s.sourcelist.lookup k = some d)
    (hlist : s'.sourcelist.entries = (s.sourcelist.replace k d').entries)
    (hothers : ∀ (j : UInt32) (c : RTPSourceData T A), j ≠ k → Entry s.owndata j c →
      Entry s'.owndata j c)
    (hown : ∀ j, s'.owndata = some j → s.owndata = some j ∨ j = k)
    (hentry : Entry s'.owndata k d') (htotal : s'.totalcount = s.totalcount)
    (hsender : s'.sendercount + d.issender.toNat = s.sendercount + d'.issender.toNat)
    (hactive : s'.activecount + missed' + d.isActive.toNat =
      s.activecount + missed + d'.isActive.toNat) : Sound s' missed' := by
  obtain ⟨a, b, hl, ha, hb⟩ := exists_split_of_lookup h.nodup hd
  rw [replace_split hl ha hb] at hlist
  have hkeys : keys s'.sourcelist.entries = keys s.sourcelist.entries := by
    rw [hlist, hl, keys_append, keys_append]
    rfl
  have hk : k ∈ keys s.sourcelist.entries := by
    rw [hl, keys_append]
    exact List.mem_append_right _ List.mem_cons_self
  have hcount : ∀ q : RTPSourceData T A → Bool,
      countOf q s'.sourcelist.entries + (q d).toNat =
        countOf q s.sourcelist.entries + (q d').toNat := by
    intro q
    rw [hlist, hl, countOf_split, countOf_split]
    ring
  constructor
  · rw [hkeys]
    exact h.nodup
  · intro x hx
    rw [hlist] at hx
    have hcases : x = (k, d') ∨ x ∈ a ++ b := List.mem_cons.mp (List.perm_middle.subset hx)
    clear hx
    obtain rfl | hx := hcases
    · exact hentry
    · have hxk : x.1 ≠ k := by
        rintro rfl
        obtain hx | hx := List.mem_append.mp hx
        · exact ha (List.mem_map_of_mem hx)
        · exact hb (List.mem_map_of_mem hx)
      apply hothers x.1 x.2 hxk
      apply h.entry x
      rw [hl]
      exact List.perm_middle.symm.subset (List.mem_cons_of_mem _ hx)
  · intro j hj
    rw [hkeys]
    obtain hj | rfl := hown j hj
    · exact h.own_mem j hj
    · exact hk
  · rw [htotal, h.totalcount, hlist, hl]
    simp
  · have := hcount RTPSourceData.issender
    rw [← h.sendercount] at this
    omega
  · have := hcount RTPSourceData.isActive
    rw [← h.activecount] at this
    omega

theorem Sound.put (h : Sound s missed) (hd : s.sourcelist.lookup k = some d)
    (hlist : s'.sourcelist.entries = (s.sourcelist.replace k d').entries)
    (hown : s'.owndata = s.owndata) (hentry : Entry s.owndata k d')
    (htotal : s'.totalcount = s.totalcount)
    (hsender : s'.sendercount + d.issender.toNat = s.sendercount + d'.issender.toNat)
    (hactive : s'.activecount + missed' + d.isActive.toNat =
      s.activecount + missed + d'.isActive.toNat) : Sound s' missed' :=
  h.replace hd hlist (fun _ _ _ he ↦ hown ▸ he) (fun _ hj ↦ .inl (hown ▸ hj)) (hown ▸ hentry)
    htotal hsender hactive

/-- A new source that is neither sender nor active. -/
theorem Sound.add (h : Sound s missed) (hk : k ∉ keys s.sourcelist.entries)
    (hlist : s'.sourcelist.entries = s.sourcelist.entries ++ [(k, d)])
    (hown : s'.owndata = s.owndata) (htotal : s'.totalcount = s.totalcount + 1)
    (hsender : s'.sendercount = s.sendercount) (hactive : s'.activecount = s.activecount)
    (hssrc : d.ssrc = k) (hd : d.ownssrc = false) (hs : d.issender = false)
    (ha : d.isActive = false) : Sound s' missed := by
  have hcount : ∀ q : RTPSourceData T A → Bool, q d = false →
      countOf q s'.sourcelist.entries = countOf q s.sourcelist.entries := by
    intro q hq
    rw [hlist, countOf_split, List.append_nil, hq]
    simp
  constructor
  · rw [hlist, keys_append, List.nodup_append]
    refine ⟨h.nodup, List.nodup_singleton k, fun j hj j' hj' ↦ ?_⟩
    rw [List.mem_singleton.mp hj']
    exact fun hjk : j = k ↦ hk (hjk ▸ hj)
  · intro x hx
    rw [hlist] at hx
    rw [hown]
    obtain hx | hx := List.mem_append.mp hx
    · exact h.entry x hx
    · obtain rfl := List.mem_singleton.mp hx
      have hno : ¬ d.ownssrc = true := by simp [hd]
      refine ⟨hssrc, iff_of_false hno fun hj ↦ hk (h.own_mem _ hj), fun hj ↦ absurd hj hno,
        fun hj ↦ absurd hj hno⟩
  · intro j hj
    rw [hlist, keys_append]
    exact List.mem_append_left _ (h.own_mem j (hown ▸ hj))
  · rw [htotal, h.totalcount, hlist]
    simp
  · rw [hcount _ hs, hsender, h.sendercount]
  · rw [hcount _ ha, hactive, h.activecount]

end Changes

section Obtain

variable {s : RTPSources T A} {missed : ℤ}

/-- A source is found, or a new one is there. -/
theorem Sound.obtain (h : Sound s missed) (zero : T) (ssrc : UInt32) :
    ∃ d created s', s.obtainSourceDataInstance zero ssrc = (d, created, s') ∧ Sound s' missed ∧
      s'.sourcelist.lookup ssrc = some d ∧ s'.owndata = s.owndata ∧
      (created = true → s.sourcelist.lookup ssrc = none ∧
        d = RTPSourceData.new zero ssrc s.probationtype) ∧
      (created = false → s.sourcelist.lookup ssrc = some d) := by
  unfold RTPSources.obtainSourceDataInstance
  cases hd : s.sourcelist.lookup ssrc with
  | none =>
    have hk := lookup_eq_none.mp hd
    let new : RTPSourceData T A := RTPSourceData.new zero ssrc s.probationtype
    have hfound : ((s.sourcelist.find ssrc).add ssrc new).lookup ssrc = some new := by
      rw [lookup_add, show (s.sourcelist.find ssrc).lookup ssrc = none from hd, if_pos rfl]
      rfl
    refine ⟨_, true, _, rfl, ?_, hfound, rfl, fun _ ↦ ⟨rfl, rfl⟩, fun hc ↦ by cases hc⟩
    exact h.add hk rfl rfl rfl rfl rfl rfl rfl rfl rfl
  | some d =>
    refine ⟨d, false, _, rfl, ?_, hd, rfl, fun hc ↦ absurd hc Bool.false_ne_true, fun _ ↦ rfl⟩
    exact h.of_entries rfl rfl rfl rfl rfl

theorem Sound.onSSRCCollision (h : Sound s missed) (d : RTPSourceData T A) :
    Sound (s.onSSRCCollision d) missed := h.of_entries rfl rfl rfl rfl rfl

variable {k : UInt32} {d d' : RTPSourceData T A}

/-- A source whose number stays, and that stays active when it is the own one. -/
theorem Entry.kept {owndata : Option UInt32} (he : Entry owndata k d) (hk : Kept d d') :
    Entry owndata k d' where
  ssrc := hk.ssrc.trans he.ssrc
  own := by rw [hk.ownssrc, he.own]
  active := by
    intro hown
    rw [hk.ownssrc] at hown
    exact hk.active (he.active hown)
  addresses := by
    intro hown
    rw [hk.rtpaddr, hk.rtcpaddr]
    exact he.addresses (hk.ownssrc ▸ hown)

variable {senderaddress : Option A} {isrtp : Bool}

theorem Entry.checked {owndata : Option UInt32} (he : Entry owndata k d)
    (hc : Checked d d' senderaddress isrtp) : Entry owndata k d' := by
  have hssrc : d'.ssrc = d.ssrc := by rw [hc.eq]
  have hown : d'.ownssrc = d.ownssrc := by rw [hc.eq]
  have hactive : d'.isActive = d.isActive := by rw [hc.eq]; rfl
  constructor
  · exact hssrc.trans he.ssrc
  · rw [hown, he.own]
  · rw [hown, hactive]
    exact he.active
  · intro ho
    rw [hown] at ho
    exact ⟨hc.rtp _ (he.addresses ho).1, hc.rtcp _ (he.addresses ho).2⟩

end Obtain

section Steps

variable [DecidableEq A] [RTPAddress A] {s : RTPSources T A} {missed : ℤ}

/-- The sources that one number among those a packet was mixed from makes active without
being counted: it was in the table already, and was not validated. -/
def overlooks (s : RTPSources T A) (senderaddress : Option A) (csrc : UInt32) : ℤ :=
  match s.sourcelist.lookup csrc with
  | none => 0
  | some d =>
    if ¬ d.validated ∧ ¬ d.receivedbye ∧ (checkCollision d senderaddress true).isSome then 1 else 0

theorem Sound.processCSRC (h : Sound s missed) (zero : T) (senderaddress : Option A)
    (csrc : UInt32) : Sound (s.processCSRC zero senderaddress csrc)
      (missed + overlooks s senderaddress csrc) := by
  obtain ⟨d, created, s₁, hobtain, h₁, hd, -, hnew, hold⟩ := h.obtain zero csrc
  have he := h₁.lookup_entry hd
  unfold RTPSources.processCSRC overlooks
  rw [hobtain]
  cases created with
  | true =>
    obtain ⟨hnone, rfl⟩ := hnew rfl
    rw [hnone]
    have hactive : (RTPSourceData.new zero csrc s.probationtype : RTPSourceData T A).setCSRC.isActive
        = true := rfl
    simp only [if_true, hactive]
    apply h₁.put hd
    · rfl
    · rfl
    · exact he.kept ⟨rfl, rfl, rfl, rfl, rfl, fun _ ↦ rfl, id⟩
    · rfl
    · rfl
    · show s₁.activecount + 1 + (missed + 0) + ((false.toNat : ℕ) : ℤ) =
        s₁.activecount + missed + ((true.toNat : ℕ) : ℤ)
      simp
      ring
  | false =>
    rw [hold rfl]
    simp only [Bool.false_eq_true, if_false]
    cases hc : checkCollision d senderaddress true with
    | none =>
      simp only [Option.isSome_none, Bool.false_eq_true, and_false, if_false, add_zero]
      exact h₁.onSSRCCollision d
    | some d' =>
      have hchecked := checkCollision_checked hc
      obtain ⟨hsender, -, hbye⟩ := hchecked.flags
      have hssrc : d'.setCSRC.ssrc = csrc := (he.checked hchecked).ssrc
      apply h₁.put hd
      · exact congrArg (fun k ↦ (s₁.sourcelist.replace k d'.setCSRC).entries) hssrc
      · rfl
      · exact (he.checked hchecked).kept ⟨rfl, rfl, rfl, rfl, rfl, fun _ ↦ rfl, id⟩
      · rfl
      · exact congrArg (fun b : Bool ↦ s₁.sendercount + (b.toNat : ℤ)) hsender.symm
      · have hactive : d'.setCSRC.isActive = !d.receivedbye := by
          rw [← hbye]
          rfl
        have hown : d.isActive = (d.validated && !d.receivedbye) := rfl
        rw [hactive, hown]
        show s₁.activecount + _ + _ = _
        cases d.validated <;> cases d.receivedbye <;> simp [add_assoc]

def overlooksAll (zero : T) (senderaddress : Option A) : RTPSources T A → List UInt32 → ℤ
  | _, [] => 0
  | s, c :: cs =>
    overlooks s senderaddress c +
      overlooksAll zero senderaddress (s.processCSRC zero senderaddress c) cs

theorem Sound.processCSRCs (h : Sound s missed) (zero : T) (senderaddress : Option A)
    (csrcs : List UInt32) :
    Sound (csrcs.foldl (fun s c ↦ s.processCSRC zero senderaddress c) s)
      (missed + overlooksAll zero senderaddress s csrcs) := by
  induction csrcs generalizing s missed with
  | nil =>
    rw [overlooksAll, add_zero]
    exact h
  | cons c cs ih =>
    have hrest := ih (h.processCSRC zero senderaddress c)
    rw [add_assoc] at hrest
    exact hrest

theorem bump_eq {prev now : Bool} (hmono : prev = true → now = true) (c : ℤ) :
    (if ¬ prev ∧ now then c + 1 else c) + (prev.toNat : ℤ) = c + (now.toNat : ℤ) := by
  cases prev with
  | false => cases now <;> simp
  | true =>
    rw [hmono rfl]
    simp

theorem Sound.receiveRTPPacket (h : Sound s missed) (zero : T) (p : RTPPacket) (t : T)
    (senderaddress : Option A) (b : Bool) :
    Sound (s.receiveRTPPacket zero p t senderaddress b).1.sources missed := by
  obtain ⟨d, created, s₁, hobtain, h₁, hd, -, hnew, -⟩ := h.obtain zero p.ssrc
  have he := h₁.lookup_entry hd
  have hchecked : ∀ d', (if created then some (d.setRTPDataAddress senderaddress)
      else checkCollision d senderaddress true) = some d' → Checked d d' senderaddress true := by
    intro d' hd'
    cases created with
    | true =>
      cases hd'
      have hunset : (if true then d.rtpaddr else d.rtcpaddr) = none := by
        rw [(hnew rfl).2]
        rfl
      exact checked_of_unset senderaddress hunset
    | false => exact checkCollision_checked hd'
  simp only [RTPSources.receiveRTPPacket, hobtain]
  split
  · exact h₁.onSSRCCollision d
  · rename_i d' hd'
    have hc := hchecked d' hd'
    obtain ⟨hsender, hactive, -⟩ := hc.flags
    have hk := processRTPPacket_kept d' p t b
    have he' := (he.checked hc).kept hk
    apply h₁.put hd
    · exact congrArg (fun k ↦ (s₁.sourcelist.replace k _).entries) he'.ssrc
    · rfl
    · exact he'
    · rfl
    · rw [← hsender]
      exact bump_eq hk.issender _
    · rw [← hactive]
      have := bump_eq hk.active s₁.activecount
      simp only [RTPSources.put] at this ⊢
      omega

theorem Sound.processRTPPacket (h : Sound s missed) (zero : T) (p : RTPPacket)
    (csrcs : List UInt32) (t : T) (senderaddress : Option A) (b : Bool) :
    Sound (s.processRTPPacket zero p csrcs t senderaddress b).sources
      (missed + if (s.receiveRTPPacket zero p t senderaddress b).2 then
        overlooksAll zero senderaddress (s.receiveRTPPacket zero p t senderaddress b).1.sources csrcs
      else 0) := by
  have h₁ := h.receiveRTPPacket zero p t senderaddress b
  unfold RTPSources.processRTPPacket
  split
  rename_i r validated hr
  rw [hr] at h₁ ⊢
  cases validated with
  | true => exact h₁.processCSRCs zero senderaddress csrcs
  | false =>
    simp only [Bool.false_eq_true, if_false, add_zero]
    exact h₁

theorem Sound.getRTCPSourceData (h : Sound s missed) (zero : T) (ssrc : UInt32)
    (senderaddress : Option A) :
    ∃ d s', s.getRTCPSourceData zero ssrc senderaddress = (d, s') ∧ Sound s' missed ∧
      s'.owndata = s.owndata ∧ ∀ d', d = some d' → s'.sourcelist.lookup ssrc = some d' := by
  obtain ⟨d, created, s₁, hobtain, h₁, hd, hown, hnew, -⟩ := h.obtain zero ssrc
  have he := h₁.lookup_entry hd
  have hchecked : ∀ d', (if created then some (d.setRTCPDataAddress senderaddress)
      else checkCollision d senderaddress false) = some d' → Checked d d' senderaddress false := by
    intro d' hd'
    cases created with
    | true =>
      cases hd'
      have hunset : (if false then d.rtpaddr else d.rtcpaddr) = none := by
        rw [(hnew rfl).2]
        rfl
      exact checked_of_unset senderaddress hunset
    | false => exact checkCollision_checked hd'
  simp only [RTPSources.getRTCPSourceData, hobtain]
  split
  · exact ⟨_, _, rfl, h₁.onSSRCCollision d, hown, fun d' hno ↦ by cases hno⟩
  · rename_i d' hd'
    have hc := hchecked d' hd'
    obtain ⟨hsender, hactive, -⟩ := hc.flags
    have hssrc : d'.ssrc = ssrc := (he.checked hc).ssrc
    refine ⟨_, _, rfl, ?_, hown, fun d'' hd'' ↦ ?_⟩
    · apply h₁.put hd
      · exact congrArg (fun k ↦ (s₁.sourcelist.replace k d').entries) hssrc
      · rfl
      · exact he.checked hc
      · rfl
      · rw [hsender]
        rfl
      · rw [hactive]
        rfl
    · cases hd''
      show (s₁.sourcelist.replace d'.ssrc d').lookup ssrc = some d'
      rw [hssrc]
      rw [lookup_replace, if_pos rfl, hd]
      rfl

theorem Sound.updateReceiveTime (h : Sound s missed) (zero : T) (ssrc : UInt32) (t : T)
    (senderaddress : Option A) :
    Sound (s.updateReceiveTime zero ssrc t senderaddress) missed := by
  obtain ⟨d, s₁, hget, h₁, -, hd⟩ := h.getRTCPSourceData zero ssrc senderaddress
  simp only [RTPSources.updateReceiveTime, hget]
  cases d with
  | none => exact h₁
  | some d =>
    have he := h₁.lookup_entry (hd d rfl)
    apply h₁.put (hd d rfl)
    · exact congrArg (fun k ↦ (s₁.sourcelist.replace k _).entries) he.ssrc
    · rfl
    · exact he.kept ⟨rfl, rfl, rfl, rfl, rfl, id, id⟩
    · rfl
    · rfl
    · rfl

theorem Sound.processSDESNormalItem (h : Sound s missed) (zero : T) (ssrc : UInt32)
    (i : SDESItemType) (itemdata : List UInt8) (t : T) (senderaddress : Option A) :
    Sound (s.processSDESNormalItem zero ssrc i itemdata t senderaddress) missed := by
  obtain ⟨d, s₁, hget, h₁, -, hd⟩ := h.getRTCPSourceData zero ssrc senderaddress
  simp only [RTPSources.processSDESNormalItem, hget]
  cases d with
  | none => exact h₁
  | some d =>
    have he := h₁.lookup_entry (hd d rfl)
    obtain ⟨hk, hsender⟩ := processSDESItem_kept d i itemdata t
    have hbump := bump_eq hk.active s₁.activecount
    simp only
    split
    · rename_i hact
      rw [if_pos hact] at hbump
      apply h₁.put (hd d rfl)
      · exact congrArg (fun k ↦ (s₁.sourcelist.replace k _).entries) (hk.ssrc.trans he.ssrc)
      · rfl
      · exact he.kept hk
      · rfl
      · rw [hsender]
        rfl
      · simp only [RTPSources.put] at hbump ⊢
        omega
    · rename_i hact
      rw [if_neg hact] at hbump
      apply h₁.put (hd d rfl)
      · exact congrArg (fun k ↦ (s₁.sourcelist.replace k _).entries) (hk.ssrc.trans he.ssrc)
      · rfl
      · exact he.kept hk
      · rfl
      · rw [hsender]
        rfl
      · simp only [RTPSources.put] at hbump ⊢
        omega

theorem Sound.processBYE (h : Sound s missed) (zero : T) (ssrc : UInt32) (reason : List UInt8)
    (t : T) (senderaddress : Option A) :
    Sound (s.processBYE zero ssrc reason t senderaddress) missed := by
  obtain ⟨d, s₁, hget, h₁, -, hd⟩ := h.getRTCPSourceData zero ssrc senderaddress
  simp only [RTPSources.processBYE, hget]
  cases d with
  | none => exact h₁
  | some d =>
    have he := h₁.lookup_entry (hd d rfl)
    simp only
    split
    · exact h₁
    · rename_i hown
      rw [he.ssrc] at hown
      have hno : ¬ d.ownssrc = true := fun ho ↦ hown (he.own.mp ho)
      have hentry : Entry s₁.owndata ssrc (d.processBYEPacket reason t) :=
        ⟨he.ssrc, he.own, fun ho ↦ absurd ho hno, fun ho ↦ absurd ho hno⟩
      have hactive : (d.processBYEPacket reason t).isActive = false := by
        show (d.validated && !true) = false
        simp
      have hlist : (s₁.put (d.processBYEPacket reason t)).sourcelist.entries =
          (s₁.sourcelist.replace ssrc (d.processBYEPacket reason t)).entries :=
        congrArg (fun k ↦ (s₁.sourcelist.replace k _).entries) he.ssrc
      cases ha : d.isActive with
      | true =>
        rw [if_pos ⟨rfl, by simp [hactive]⟩]
        apply h₁.put (hd d rfl)
        · exact hlist
        · rfl
        · exact hentry
        · rfl
        · rfl
        · rw [hactive, ha]
          show s₁.activecount - 1 + missed + ((1 : ℕ) : ℤ) = s₁.activecount + missed + ((0 : ℕ) : ℤ)
          push_cast
          ring
      | false =>
        rw [if_neg fun hact ↦ Bool.false_ne_true hact.1]
        apply h₁.put (hd d rfl)
        · exact hlist
        · rfl
        · exact hentry
        · rfl
        · rfl
        · rw [hactive, ha]
          rfl

end Steps

section Own

variable {s : RTPSources T A} {missed : ℤ}

theorem Sound.createOwnSSRC (h : Sound s missed) (zero : T) (ssrc : UInt32) :
    Sound (s.createOwnSSRC zero ssrc).2 missed := by
  unfold RTPSources.createOwnSSRC
  split
  · exact h
  · rename_i hown
    rw [not_not] at hown
    split
    · exact h
    · rename_i hentry
      have hno : ssrc ∉ keys s.sourcelist.entries := fun hk ↦ hentry (decide_eq_true hk)
      obtain ⟨d, created, s₁, hobtain, h₁, hd, hown₁, hnew, hold⟩ := h.obtain zero ssrc
      have hcreated : created = true := by
        rw [← Bool.not_eq_false]
        intro hc
        have hnone := lookup_eq_none.mpr hno
        rw [hold hc] at hnone
        cases hnone
      obtain ⟨-, rfl⟩ := hnew hcreated
      rw [hobtain]
      apply h₁.replace hd
      · rfl
      · intro j c hj he
        refine ⟨he.ssrc, ?_, he.active, he.addresses⟩
        rw [he.own, hown₁, hown]
        exact iff_of_false (by simp) fun hj' ↦ hj (Option.some.inj hj').symm
      · intro j hj
        exact .inr (Option.some.inj hj).symm
      · exact ⟨rfl, iff_of_true rfl rfl, fun _ ↦ rfl, fun _ ↦ ⟨rfl, rfl⟩⟩
      · rfl
      · rfl
      · show s₁.activecount + 1 + missed + ((0 : ℕ) : ℤ) = s₁.activecount + missed + ((1 : ℕ) : ℤ)
        push_cast
        ring

theorem Sound.deleteOwnSSRC (h : Sound s missed) : Sound s.deleteOwnSSRC.2 missed := by
  unfold RTPSources.deleteOwnSSRC
  cases hown : s.owndata with
  | none => exact h
  | some k =>
    simp only
    cases hd : s.sourcelist.lookup k with
    | none => exact absurd (h.own_mem k hown) (lookup_eq_none.mp hd)
    | some d =>
      obtain ⟨a, b, hl, ha, hb⟩ := exists_split_of_lookup h.nodup hd
      have hlist : ((s.sourcelist.find k).removeAt k).entries = a ++ b := by
        rw [← without_split ha hb, ← hl]
        rfl
      have hmem : ∀ x ∈ a ++ b, x ∈ s.sourcelist.entries ∧ x.1 ≠ k := by
        intro x hx
        refine ⟨?_, ?_⟩
        · rw [hl]
          exact List.perm_middle.symm.subset (List.mem_cons_of_mem _ hx)
        · rintro rfl
          obtain hx | hx := List.mem_append.mp hx
          · exact ha (List.mem_map_of_mem hx)
          · exact hb (List.mem_map_of_mem hx)
      have hnodup := h.nodup
      rw [hl, keys_append] at hnodup
      simp only
      constructor
      · simp only [hlist]
        rw [keys_append]
        exact (List.nodup_cons.mp (List.perm_middle.nodup hnodup)).2
      · simp only [hlist]
        intro x hx
        obtain ⟨hx, hxk⟩ := hmem x hx
        have he := h.entry x hx
        refine ⟨he.ssrc, ?_, he.active, he.addresses⟩
        rw [he.own, hown]
        exact iff_of_false (fun hk ↦ hxk (Option.some.inj hk).symm) (by simp)
      · intro j hj
        cases hj
      · simp only [hlist, h.totalcount, hl, List.length_append, List.length_cons]
        omega
      · have := h.sendercount
        rw [hl, countOf_split] at this
        simp only [hlist]
        cases hs : d.issender with
        | false => simpa [hs] using this
        | true =>
          simp only [hs, Bool.toNat_true, if_true] at this ⊢
          omega
      · have := h.activecount
        rw [hl, countOf_split] at this
        simp only [hlist]
        cases hs : d.isActive with
        | false => simpa [hs] using this
        | true =>
          simp only [hs, Bool.toNat_true, if_true] at this ⊢
          omega

theorem Sound.sentRTPPacket (h : Sound s missed) (now : T) :
    Sound (s.sentRTPPacket now) missed := by
  unfold RTPSources.sentRTPPacket
  cases hd : s.owndata.bind s.sourcelist.lookup with
  | none => exact h
  | some d =>
    obtain ⟨k, hk, hd⟩ := Option.bind_eq_some_iff.mp hd
    have he := h.lookup_entry hd
    have hkept : Kept d (d.sentRTPPacket now) := by
      unfold RTPSourceData.sentRTPPacket
      split
      · exact ⟨rfl, rfl, rfl, rfl, rfl, id, id⟩
      · exact ⟨rfl, rfl, rfl, rfl, rfl, id, fun _ ↦ rfl⟩
    have hactive : (d.sentRTPPacket now).isActive = d.isActive := by
      unfold RTPSourceData.sentRTPPacket
      split <;> rfl
    have hbump := bump_eq hkept.issender s.sendercount
    simp only
    split
    · rename_i hsend
      rw [if_pos hsend] at hbump
      apply h.put hd
      · exact congrArg (fun k ↦ (s.sourcelist.replace k _).entries) (hkept.ssrc.trans he.ssrc)
      · rfl
      · exact he.kept hkept
      · rfl
      · exact hbump
      · rw [hactive]
        rfl
    · rename_i hsend
      rw [if_neg hsend] at hbump
      apply h.put hd
      · exact congrArg (fun k ↦ (s.sourcelist.replace k _).entries) (hkept.ssrc.trans he.ssrc)
      · rfl
      · exact he.kept hkept
      · rfl
      · exact hbump
      · rw [hactive]
        rfl

theorem Sound.getNextPacket (h : Sound s missed) : Sound s.getNextPacket.2 missed := by
  unfold RTPSources.getNextPacket
  split
  · rename_i k hk
    split
    · exact h
    · rename_i d hd
      have he := h.lookup_entry hd
      have hnext : ∃ l, d.getNextPacket.2 = { d with packetlist := l } := by
        obtain ⟨hn, -⟩ | ⟨-, p, rest, -, hn⟩ := getNextPacket_cases d
        · exact ⟨d.packetlist, by rw [hn]⟩
        · exact ⟨rest, by rw [hn]⟩
      obtain ⟨l, hl⟩ := hnext
      simp only [hl]
      apply h.put hd
      · exact congrArg (fun k ↦ (s.sourcelist.replace k _).entries) he.ssrc
      · rfl
      · exact he.kept ⟨rfl, rfl, rfl, rfl, rfl, id, id⟩
      · rfl
      · rfl
      · rfl
  · exact h

end Own

section Timeouts

variable {s : RTPSources T A} {missed : ℤ}

/-- A loop's body that keeps the own source, and counts the sources it keeps. -/
def Counting (owndata : Option UInt32)
    (body : Counts → UInt32 → RTPSourceData T A → Option (RTPSourceData T A) × Counts) : Prop :=
  ∀ c k d, Entry owndata k d → (body c k d = (none, c) ∧ owndata ≠ some k) ∨
    ∃ d', body c k d = (some d', c.count d'.issender d'.isActive) ∧ Entry owndata k d'

theorem count_eq (c : Counts) (q r : Bool) :
    (c.count q r).totalcount = c.totalcount + 1 ∧
      (c.count q r).sendercount = c.sendercount + q.toNat ∧
      (c.count q r).activecount = c.activecount + r.toNat := by
  refine ⟨rfl, ?_, ?_⟩
  · cases q <;> simp [Counts.count]
  · cases r <;> simp [Counts.count]

theorem countOf_cons (q : RTPSourceData T A → Bool) (k : UInt32) (d : RTPSourceData T A)
    (l : List (UInt32 × RTPSourceData T A)) : countOf q ((k, d) :: l) = countOf q l + (q d).toNat :=
  countOf_split (a := [])

theorem sweepEntries_counts {owndata : Option UInt32}
    {body : Counts → UInt32 → RTPSourceData T A → Option (RTPSourceData T A) × Counts}
    (hbody : Counting owndata body) {l : List (UInt32 × RTPSourceData T A)}
    (hl : ∀ x ∈ l, Entry owndata x.1 x.2) (c : Counts) :
    (keys (sweepEntries body c l).1).Sublist (keys l) ∧
      (∀ x ∈ (sweepEntries body c l).1, Entry owndata x.1 x.2) ∧
      (∀ k, owndata = some k → k ∈ keys l → k ∈ keys (sweepEntries body c l).1) ∧
      (sweepEntries body c l).2.totalcount = c.totalcount + (sweepEntries body c l).1.length ∧
      (sweepEntries body c l).2.sendercount =
        c.sendercount + countOf RTPSourceData.issender (sweepEntries body c l).1 ∧
      (sweepEntries body c l).2.activecount =
        c.activecount + countOf RTPSourceData.isActive (sweepEntries body c l).1 := by
  induction l generalizing c with
  | nil => simp [sweepEntries, keys, countOf]
  | cons x l ih =>
    obtain ⟨k, d⟩ := x
    obtain ⟨hd, hl⟩ := List.forall_mem_cons.mp hl
    obtain ⟨hb, hk⟩ | ⟨d', hb, hd'⟩ := hbody c k d hd
    · obtain ⟨hsub, he, hown, hcounts⟩ := ih hl c
      simp only [sweepEntries, hb]
      refine ⟨hsub.cons k, he, fun j hj hmem ↦ hown j hj ?_, hcounts⟩
      exact (List.mem_cons.mp hmem).resolve_left fun hjk : j = k ↦ hk (hjk ▸ hj)
    · obtain ⟨htotal, hsender, hactive⟩ := count_eq c d'.issender d'.isActive
      obtain ⟨hsub, he, hown, ht, hs, ha⟩ := ih hl (c.count d'.issender d'.isActive)
      simp only [sweepEntries, hb]
      refine ⟨hsub.cons_cons k, List.forall_mem_cons.mpr ⟨hd', he⟩, fun j hj hmem ↦ ?_, ?_, ?_, ?_⟩
      · obtain rfl | hmem := List.mem_cons.mp hmem
        · exact List.mem_cons_self
        · exact List.mem_cons_of_mem _ (hown j hj hmem)
      · rw [ht, htotal, List.length_cons]
        push_cast
        ring
      · rw [hs, hsender, countOf_cons]
        ring
      · rw [ha, hactive, countOf_cons]
        ring

theorem Sound.sweep (h : Sound s missed)
    {body : Counts → UInt32 → RTPSourceData T A → Option (RTPSourceData T A) × Counts}
    (hbody : Counting s.owndata body) : Sound (s.sweep body) 0 := by
  obtain ⟨hsub, he, hown, ht, hs, ha⟩ := sweepEntries_counts hbody h.entry ⟨0, 0, 0⟩
  simp only [RTPSources.sweep, sweep_eq h.nodup]
  constructor
  · exact h.nodup.sublist hsub
  · exact he
  · exact fun k hk ↦ hown k hk (h.own_mem k hk)
  · exact ht.trans (zero_add _)
  · exact hs.trans (zero_add _)
  · exact (add_zero _).trans (ha.trans (zero_add _))

variable [LT T] [DecidableLT T]

theorem Sound.timeout (h : Sound s missed) (checktime : T) : Sound (s.timeout checktime) 0 := by
  apply h.sweep
  intro c k d hd
  simp only
  split
  · rename_i hold
    exact .inl ⟨rfl, hd.ssrc ▸ hold.1⟩
  · exact .inr ⟨d, rfl, hd⟩

theorem Sound.senderTimeout (h : Sound s missed) (checktime : T) :
    Sound (s.senderTimeout checktime) 0 := by
  apply h.sweep
  intro c k d hd
  refine .inr ?_
  simp only
  split
  · rename_i hsender
    split
    · exact ⟨d.clearSenderFlag, rfl, hd.ssrc, hd.own, hd.active, hd.addresses⟩
    · refine ⟨d, ?_, hd⟩
      simp [Counts.count, hsender]
  · rename_i hsender
    refine ⟨d, ?_, hd⟩
    rw [Bool.not_eq_true] at hsender
    rw [hsender]

theorem Sound.byeTimeout (h : Sound s missed) (checktime : T) :
    Sound (s.byeTimeout checktime) 0 := by
  apply h.sweep
  intro c k d hd
  simp only
  split
  · rename_i hold
    exact .inl ⟨rfl, hd.ssrc ▸ hold.2.1⟩
  · exact .inr ⟨d, rfl, hd⟩

theorem Entry.dropNote {owndata : Option UInt32} {k : UInt32}
    {d : RTPSourceData T A} (hd : Entry owndata k d) (checktime : T) :
    Entry owndata k (RTPSources.dropNote d checktime) ∧
      (RTPSources.dropNote d checktime).issender = d.issender ∧
      (RTPSources.dropNote d checktime).isActive = d.isActive := by
  unfold RTPSources.dropNote
  split
  · exact ⟨⟨hd.ssrc, hd.own, hd.active, hd.addresses⟩, rfl, rfl⟩
  · exact ⟨hd, rfl, rfl⟩

theorem Sound.noteTimeout (h : Sound s missed) (checktime : T) :
    Sound (s.noteTimeout checktime) 0 := by
  apply h.sweep
  intro c k d hd
  exact .inr ⟨_, rfl, (hd.dropNote checktime).1⟩

theorem Sound.multipleTimeouts (h : Sound s missed)
    (senderchecktime byechecktime generaltchecktime notechecktime : T) :
    Sound (s.multipleTimeouts senderchecktime byechecktime generaltchecktime notechecktime) 0 := by
  apply h.sweep
  intro c k d hd
  obtain ⟨hd', hsender, hactive⟩ := hd.dropNote notechecktime
  simp only [← hsender, ← hactive]
  split
  · rename_i hold
    exact .inl ⟨rfl, hd'.ssrc ▸ hold.2.1⟩
  · split
    · rename_i hold
      exact .inl ⟨rfl, hd'.ssrc ▸ hold.1⟩
    · refine .inr ?_
      split
      · rename_i hs
        split
        · exact ⟨(RTPSources.dropNote d notechecktime).clearSenderFlag, rfl, hd'.ssrc, hd'.own,
            hd'.active, hd'.addresses⟩
        · refine ⟨_, ?_, hd'⟩
          rw [hs]
      · rename_i hs
        refine ⟨_, ?_, hd'⟩
        rw [Bool.not_eq_true] at hs
        rw [hs]

end Timeouts

section Runs

variable [DecidableEq A] [RTPAddress A] [LT T] [DecidableLT T]

inductive Event (T A : Type)
  | createOwnSSRC (ssrc : UInt32)
  | deleteOwnSSRC
  | sentRTPPacket (now : T)
  | rtp (rtppack : RTPPacket) (csrcs : List UInt32) (receivetime : T) (senderaddress : Option A)
      (ispackethandled : Bool)
  | report (ssrc : UInt32) (receivetime : T) (senderaddress : Option A)
  | sdes (ssrc : UInt32) (t : SDESItemType) (itemdata : List UInt8) (receivetime : T)
      (senderaddress : Option A)
  | bye (ssrc : UInt32) (reason : List UInt8) (receivetime : T) (senderaddress : Option A)
  | gotoFirstSource
  | gotoNextSource
  | getNextPacket
  | timeout (checktime : T)
  | senderTimeout (checktime : T)
  | byeTimeout (checktime : T)
  | noteTimeout (checktime : T)
  | multipleTimeouts (senderchecktime byechecktime generaltchecktime notechecktime : T)
  | clear

def step (zero : T) (s : RTPSources T A) : Event T A → RTPSources T A
  | .createOwnSSRC ssrc => (s.createOwnSSRC zero ssrc).2
  | .deleteOwnSSRC => s.deleteOwnSSRC.2
  | .sentRTPPacket now => s.sentRTPPacket now
  | .rtp rtppack csrcs receivetime senderaddress ispackethandled =>
    (s.processRTPPacket zero rtppack csrcs receivetime senderaddress ispackethandled).sources
  | .report ssrc receivetime senderaddress =>
    s.updateReceiveTime zero ssrc receivetime senderaddress
  | .sdes ssrc t itemdata receivetime senderaddress =>
    s.processSDESNormalItem zero ssrc t itemdata receivetime senderaddress
  | .bye ssrc reason receivetime senderaddress =>
    s.processBYE zero ssrc reason receivetime senderaddress
  | .gotoFirstSource => { s with sourcelist := s.sourcelist.gotoFirst }
  | .gotoNextSource => { s with sourcelist := s.sourcelist.gotoNext.getD s.sourcelist }
  | .getNextPacket => s.getNextPacket.2
  | .timeout checktime => s.timeout checktime
  | .senderTimeout checktime => s.senderTimeout checktime
  | .byeTimeout checktime => s.byeTimeout checktime
  | .noteTimeout checktime => s.noteTimeout checktime
  | .multipleTimeouts senderchecktime byechecktime generaltchecktime notechecktime =>
    s.multipleTimeouts senderchecktime byechecktime generaltchecktime notechecktime
  | .clear => s.clearSourceList

/-- The active sources that are missed after an event. A loop over the sources counts
them again. -/
def missedAfter (zero : T) (s : RTPSources T A) (missed : ℤ) : Event T A → ℤ
  | .rtp rtppack csrcs receivetime senderaddress ispackethandled =>
    let r := s.receiveRTPPacket zero rtppack receivetime senderaddress ispackethandled
    missed + if r.2 then overlooksAll zero senderaddress r.1.sources csrcs else 0
  | .timeout _ | .senderTimeout _ | .byeTimeout _ | .noteTimeout _ | .multipleTimeouts _ _ _ _
  | .clear => 0
  | _ => missed

theorem step_sound (zero : T) {s : RTPSources T A} {missed : ℤ} (h : Sound s missed)
    (e : Event T A) : Sound (step zero s e) (missedAfter zero s missed e) := by
  cases e with
  | createOwnSSRC ssrc => exact h.createOwnSSRC zero ssrc
  | deleteOwnSSRC => exact h.deleteOwnSSRC
  | sentRTPPacket now => exact h.sentRTPPacket now
  | rtp p csrcs t senderaddress b => exact h.processRTPPacket zero p csrcs t senderaddress b
  | report ssrc t senderaddress => exact h.updateReceiveTime zero ssrc t senderaddress
  | sdes ssrc i itemdata t senderaddress =>
    exact h.processSDESNormalItem zero ssrc i itemdata t senderaddress
  | bye ssrc reason t senderaddress => exact h.processBYE zero ssrc reason t senderaddress
  | gotoFirstSource => exact h.of_entries rfl rfl rfl rfl rfl
  | gotoNextSource =>
    refine h.of_entries ?_ rfl rfl rfl rfl
    show (s.sourcelist.gotoNext.getD s.sourcelist).entries = _
    cases hn : s.sourcelist.gotoNext with
    | none => rfl
    | some m =>
      obtain ⟨_, -, rfl⟩ := Option.map_eq_some_iff.mp hn
      rfl
  | getNextPacket => exact h.getNextPacket
  | timeout checktime => exact h.timeout checktime
  | senderTimeout checktime => exact h.senderTimeout checktime
  | byeTimeout checktime => exact h.byeTimeout checktime
  | noteTimeout checktime => exact h.noteTimeout checktime
  | multipleTimeouts t₁ t₂ t₃ t₄ => exact h.multipleTimeouts t₁ t₂ t₃ t₄
  | clear =>
    constructor
    · exact List.nodup_nil
    · exact fun _ hx ↦ (List.not_mem_nil hx).elim
    · exact fun k hk ↦ by cases hk
    · rfl
    · rfl
    · rfl

/-- The sources after a run, and the active ones that are missed then. -/
def run (zero : T) (probationtype : ProbationType) (es : List (Event T A)) :
    RTPSources T A × ℤ :=
  es.foldl (fun r e ↦ (step zero r.1 e, missedAfter zero r.1 r.2 e)) (RTPSources.new probationtype, 0)

/-- In every run the sources and the senders are counted right. The active sources are
counted but for those that became active as the sources of a mixed packet while they
were in the table. -/
theorem counts_run (zero : T) (probationtype : ProbationType) (es : List (Event T A)) :
    Sound (run zero probationtype es).1 (run zero probationtype es).2 := by
  have hrun : ∀ (es : List (Event T A)) (r : RTPSources T A × ℤ), Sound r.1 r.2 →
      Sound (es.foldl (fun r e ↦ (step zero r.1 e, missedAfter zero r.1 r.2 e)) r).1
        (es.foldl (fun r e ↦ (step zero r.1 e, missedAfter zero r.1 r.2 e)) r).2 := by
    intro es
    induction es with
    | nil => exact fun _ h ↦ h
    | cons e es ih => exact fun r h ↦ ih _ (step_sound zero h e)
  exact hrun es _ (sound_new probationtype)

def mixer : RTPIPv4Address := ⟨1, 4000⟩

/-- The source 5 is heard of first, and then named in a packet of the source 6. After
both have said goodbye, less than none is counted. -/
example :
    (run 0 .noProbation
      [.report 5 0 (some mixer), .rtp (RTPPacket.filled 96 [] 1 0 6 false [5] none) [5] 1
        (some mixer) false, .bye 5 [] 2 (some mixer), .bye 6 [] 3 (some mixer)] :
      RTPSources ℕ RTPIPv4Address × ℤ).1.activecount = -1 := by
  decide +kernel

end Runs

end VirtualCamera.Rtp.SourceCounts
