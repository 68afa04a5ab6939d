import VirtualCamera.Library.Reorder
import VirtualCamera.Rtp.SourceStats

namespace VirtualCamera.Rtp.Source

open Library.Reorder Packet SourceStats

inductive ProbationType
  | noProbation
  | probationDiscard
  | probationStore
  deriving DecidableEq, Repr

def RTPINTERNALSOURCEDATA_MAXPROBATIONPACKETS : ℕ := 32

def RTCP_SDES_MAXITEMLENGTH : ℕ := 255

/-- The items of a source's description, without the private ones. An item that is not
set is empty. -/
structure RTCPSDESInfo where
  cname : List UInt8
  name : List UInt8
  email : List UInt8
  phone : List UInt8
  location : List UInt8
  tool : List UInt8
  note : List UInt8
  deriving DecidableEq

inductive SDESItemType
  | cname
  | name
  | email
  | phone
  | location
  | tool
  | note
  deriving DecidableEq

/-- Addresses are of type `A`. An address that is set and null, `some none`, is that of
the session itself. -/
structure RTPSourceData (T A : Type) where
  packetlist : List RTPPacket
  ssrc : UInt32
  ownssrc : Bool
  iscsrc : Bool
  receivedbye : Bool
  validated : Bool
  issender : Bool
  stats : RTPSourceStats T
  sdesinf : RTCPSDESInfo
  rtpaddr : Option (Option A)
  rtcpaddr : Option (Option A)
  byetime : T
  byereason : List UInt8
  probationtype : ProbationType
  deriving DecidableEq

/-- The source after a packet, whether the packet was stored, and the packets that were
deleted. -/
structure Stored (T A : Type) where
  source : RTPSourceData T A
  stored : Bool
  deleted : List RTPPacket

variable {T A : Type}

namespace RTPSourceData

def new (zero : T) (ssrc : UInt32) (probationtype : ProbationType) : RTPSourceData T A :=
  { packetlist := [], ssrc, ownssrc := false, iscsrc := false, receivedbye := false,
    validated := false, issender := false, stats := RTPSourceStats.new zero,
    sdesinf := ⟨[], [], [], [], [], [], []⟩, rtpaddr := none, rtcpaddr := none,
    byetime := zero, byereason := [], probationtype }

variable (s : RTPSourceData T A)

def hasData : Bool := s.validated && !s.packetlist.isEmpty

def isActive : Bool := s.validated && !s.receivedbye

def getNextPacket : Option RTPPacket × RTPSourceData T A :=
  if ¬ s.validated then (none, s)
  else
    match s.packetlist with
    | [] => (none, s)
    | p :: rest => (some p, { s with packetlist := rest })

def flushPackets : RTPSourceData T A := { s with packetlist := [] }

def setRTPDataAddress (a : Option A) : RTPSourceData T A := { s with rtpaddr := some a }

def setRTCPDataAddress (a : Option A) : RTPSourceData T A := { s with rtcpaddr := some a }

def clearSenderFlag : RTPSourceData T A := { s with issender := false }

def setOwnSSRC : RTPSourceData T A := { s with ownssrc := true, validated := true }

def setCSRC : RTPSourceData T A := { s with validated := true, iscsrc := true }

def clearNote : RTPSourceData T A := { s with sdesinf := { s.sdesinf with note := [] } }

def updateMessageTime (receivetime : T) : RTPSourceData T A :=
  { s with stats := { s.stats with lastmsgtime := receivetime } }

def sentRTPPacket (now : T) : RTPSourceData T A :=
  if ¬ s.ownssrc then s
  else
    { s with issender := true, stats := { s.stats with lastrtptime := now, lastmsgtime := now } }

/-- From the end of the list: the packets are given last first. -/
def insertLoop (rtppack : RTPPacket) : List RTPPacket → Option (List RTPPacket)
  | [] => some [rtppack]
  | p :: rest =>
    if p.extseqnr > rtppack.extseqnr then (insertLoop rtppack rest).map (p :: ·)
    else if p.extseqnr < rtppack.extseqnr then some (rtppack :: p :: rest)
    else none

/-- For the own source the flag depends on the packets sent. -/
def markSender : RTPSourceData T A :=
  if s.validated ∧ ¬ s.ownssrc then { s with issender := true } else s

/-- Is the queue of a source on probation full? -/
def full : Prop :=
  ¬ s.validated ∧ s.packetlist.length = RTPINTERNALSOURCEDATA_MAXPROBATIONPACKETS

instance : Decidable s.full := inferInstanceAs (Decidable (_ ∧ _))

/-- A full queue loses the packet with the lowest number. -/
def trim : List RTPPacket := if s.full then s.packetlist.tail else s.packetlist

def evicted : List RTPPacket := if s.full then s.packetlist.take 1 else []

/-- Into the queue, when `OnValidatedRTPPacket` did not say that it took the packet. -/
def store (rtppack : RTPPacket) (ispackethandled : Bool) : Stored T A :=
  let s := s.markSender
  if ispackethandled then ⟨s, true, []⟩
  else if s.packetlist.isEmpty then ⟨{ s with packetlist := [rtppack] }, true, []⟩
  else
    match insertLoop rtppack s.trim.reverse with
    | none => ⟨{ s with packetlist := s.trim }, false, s.evicted⟩
    | some l => ⟨{ s with packetlist := l.reverse }, true, s.evicted⟩

/-- What the statistics make of a packet. -/
def processed (rtppack : RTPPacket) (receivetime : T) : Processed T :=
  s.stats.processPacket rtppack receivetime s.ownssrc
    (!s.validated && s.probationtype ≠ .noProbation)

/-- The rest of the processing, by the kind of probation. -/
def byProbation (r : Processed T) (ispackethandled : Bool) : Stored T A :=
  match s.probationtype with
  | .probationStore =>
    if ¬ (r.onprobation ∨ r.accept) then ⟨s, false, []⟩
    else
      let s := if r.accept then { s with validated := true } else s
      s.store r.pack ispackethandled
  | .probationDiscard | .noProbation =>
    if ¬ r.accept then ⟨s, false, []⟩
    else { s with validated := true }.store r.pack ispackethandled

def processRTPPacket (rtppack : RTPPacket) (receivetime : T) (ispackethandled : Bool) :
    Stored T A :=
  let r := s.processed rtppack receivetime
  { s with stats := r.stats }.byProbation r ispackethandled

/-- A setter of the description: too long an item is refused. -/
def setItem (old data : List UInt8) : List UInt8 :=
  if data.length > RTCP_SDES_MAXITEMLENGTH then old else data

/-- The `CNAME`, the name, the address and the tool of a source are set once. The flag
tells of another `CNAME` than the one that is set. -/
def processSDESItem (sdesid : SDESItemType) (data : List UInt8) (receivetime : T) :
    RTPSourceData T A × Bool :=
  let s := s.updateMessageTime receivetime
  let i := s.sdesinf
  match sdesid with
  | .cname =>
    if i.cname = [] then
      ({ s with sdesinf := { i with cname := setItem i.cname data }, validated := true }, false)
    else (s, data ≠ i.cname)
  | .name =>
    (if i.name = [] then { s with sdesinf := { i with name := setItem i.name data } } else s, false)
  | .email =>
    (if i.email = [] then { s with sdesinf := { i with email := setItem i.email data } } else s,
      false)
  | .phone => ({ s with sdesinf := { i with phone := setItem i.phone data } }, false)
  | .location => ({ s with sdesinf := { i with location := setItem i.location data } }, false)
  | .tool =>
    (if i.tool = [] then { s with sdesinf := { i with tool := setItem i.tool data } } else s, false)
  | .note =>
    ({ s with sdesinf := { i with note := setItem i.note data },
              stats := { s.stats with lastnotetime := receivetime } }, false)

def processBYEPacket (reason : List UInt8) (receivetime : T) : RTPSourceData T A :=
  { s with byetime := receivetime, byereason := reason, receivedbye := true,
           stats := { s.stats with lastmsgtime := receivetime } }

end RTPSourceData

def extkey (p : RTPPacket) : ℕ := p.extseqnr.toNat

theorem extkey_lt {p q : RTPPacket} : extkey p < extkey q ↔ p.extseqnr < q.extseqnr :=
  UInt32.lt_iff_toNat_lt.symm

theorem insertLoop_eq (rtppack : RTPPacket) (l : List RTPPacket) :
    RTPSourceData.insertLoop rtppack l = insertBack extkey rtppack l := by
  induction l with
  | nil => rfl
  | cons p l ih =>
    simp only [RTPSourceData.insertLoop, insertBack, ih]
    by_cases hgt : p.extseqnr > rtppack.extseqnr
    · rw [if_pos hgt, if_pos (extkey_lt.mpr hgt)]
    · rw [if_neg hgt, if_neg fun h ↦ hgt (extkey_lt.mp h)]
      by_cases hlt : p.extseqnr < rtppack.extseqnr
      · rw [if_pos hlt, if_pos (extkey_lt.mpr hlt)]
      · rw [if_neg hlt, if_neg fun h ↦ hlt (extkey_lt.mp h)]

section MarkSender

variable (s : RTPSourceData T A)

@[simp] theorem markSender_packetlist : s.markSender.packetlist = s.packetlist := by
  unfold RTPSourceData.markSender
  split <;> rfl

@[simp] theorem markSender_validated : s.markSender.validated = s.validated := by
  unfold RTPSourceData.markSender
  split <;> rfl

@[simp] theorem markSender_stats : s.markSender.stats = s.stats := by
  unfold RTPSourceData.markSender
  split <;> rfl

@[simp] theorem markSender_probationtype : s.markSender.probationtype = s.probationtype := by
  unfold RTPSourceData.markSender
  split <;> rfl

@[simp] theorem markSender_ownssrc : s.markSender.ownssrc = s.ownssrc := by
  unfold RTPSourceData.markSender
  split <;> rfl

@[simp] theorem markSender_receivedbye : s.markSender.receivedbye = s.receivedbye := by
  unfold RTPSourceData.markSender
  split <;> rfl

@[simp] theorem trim_markSender : s.markSender.trim = s.trim := by
  simp [RTPSourceData.trim, RTPSourceData.full]

@[simp] theorem evicted_markSender : s.markSender.evicted = s.evicted := by
  simp [RTPSourceData.evicted, RTPSourceData.full]

theorem evicted_append_trim : s.evicted ++ s.trim = s.packetlist := by
  unfold RTPSourceData.evicted RTPSourceData.trim
  split
  · rw [← List.drop_one, List.take_append_drop]
  · rfl

theorem trim_of_nil (h : s.packetlist = []) : s.trim = [] ∧ s.evicted = [] := by
  have := evicted_append_trim s
  rw [h, List.append_eq_nil_iff] at this
  exact this.symm

theorem trim_of_validated (h : s.validated = true) :
    s.trim = s.packetlist ∧ s.evicted = [] := by
  have hfull : ¬ s.full := fun hf ↦ hf.1 h
  exact ⟨if_neg hfull, if_neg hfull⟩

end MarkSender

/-- A packet that is refused leaves the source, one that is not goes to the queue. -/
theorem byProbation_cases (s : RTPSourceData T A) (r : Processed T) (b : Bool) :
    (r.accept = false ∧ s.byProbation r b = ⟨s, false, []⟩) ∨
      (r.accept = true ∨ s.probationtype = .probationStore) ∧
        s.byProbation r b = { s with validated := s.validated || r.accept }.store r.pack b := by
  have hsame : { s with validated := s.validated || false } = s := by rw [Bool.or_false]
  cases hacc : r.accept with
  | true =>
    refine .inr ⟨.inl rfl, ?_⟩
    rw [Bool.or_true]
    unfold RTPSourceData.byProbation
    cases s.probationtype <;> simp [hacc]
  | false =>
    rw [hsame]
    unfold RTPSourceData.byProbation
    cases s.probationtype with
    | noProbation => exact .inl ⟨rfl, by simp [hacc]⟩
    | probationDiscard => exact .inl ⟨rfl, by simp [hacc]⟩
    | probationStore =>
      cases r.onprobation with
      | false => exact .inl ⟨rfl, by simp [hacc]⟩
      | true => exact .inr ⟨.inr rfl, by simp [hacc]⟩

/-- The first packet of the queue of a validated source, or nothing. -/
theorem getNextPacket_cases (s : RTPSourceData T A) :
    s.getNextPacket = (none, s) ∧ (s.validated = true → s.packetlist = []) ∨
      s.validated = true ∧ ∃ p rest, s.packetlist = p :: rest ∧
        s.getNextPacket = (some p, { s with packetlist := rest }) := by
  unfold RTPSourceData.getNextPacket
  cases hv : s.validated with
  | false =>
    refine .inl ⟨if_pos (by simp), fun h ↦ ?_⟩
    cases h
  | true =>
    rw [if_neg (by simp)]
    cases hlist : s.packetlist with
    | nil => exact .inl ⟨rfl, fun _ ↦ rfl⟩
    | cons p rest => exact .inr ⟨rfl, p, rest, rfl, rfl⟩

/-- The loop that fetches packets until there are none. -/
def RTPSourceData.fetchAll (s : RTPSourceData T A) : List RTPPacket × RTPSourceData T A :=
  match _h : s.getNextPacket with
  | (none, s') => ([], s')
  | (some p, s') =>
    let r := fetchAll s'
    (p :: r.1, r.2)
  termination_by s.packetlist.length
  decreasing_by
    obtain ⟨hn, -⟩ | ⟨-, q, rest, hlist, hn⟩ := getNextPacket_cases s
    · rw [_h] at hn
      cases hn
    · rw [_h] at hn
      cases hn
      simp [hlist]

theorem fetchAll_validated {s : RTPSourceData T A} (hv : s.validated = true) :
    s.fetchAll = (s.packetlist, { s with packetlist := [] }) := by
  induction hl : s.packetlist generalizing s with
  | nil =>
    have hn : s.getNextPacket = (none, s) := by
      simp [RTPSourceData.getNextPacket, hv, hl]
    rw [RTPSourceData.fetchAll]
    split
    · rename_i s' h
      rw [h] at hn
      cases hn
      rw [← hl]
    · rename_i p s' h
      rw [h] at hn
      cases hn
  | cons p rest ih =>
    have hn : s.getNextPacket = (some p, { s with packetlist := rest }) := by
      simp [RTPSourceData.getNextPacket, hv, hl]
    rw [RTPSourceData.fetchAll]
    split
    · rename_i s' h
      rw [h] at hn
      cases hn
    · rename_i q s' h
      rw [h] at hn
      cases hn
      have hrest := ih (s := { s with packetlist := rest }) hv rfl
      rw [hrest]

/-- Only a source that is not validated refuses a packet. -/
theorem processed_accept {s : RTPSourceData T A} {p : RTPPacket} {t : T}
    (h : (s.processed p t).accept = false) : s.validated = false := by
  by_contra hv
  rw [Bool.not_eq_false] at hv
  have hacc := processPacket_accept s.stats p t s.ownssrc
  simp only [RTPSourceData.processed, hv, Bool.not_true, Bool.false_and] at h
  rw [h] at hacc
  cases hacc

/-- The queue takes the packet in its place, or not at all. -/
theorem store_eq (s : RTPSourceData T A) (p : RTPPacket) :
    s.store p false =
      ⟨{ s.markSender with packetlist := enqueue extkey s.trim p },
        (insertKeyed extkey p s.trim).isSome, s.evicted⟩ := by
  simp only [RTPSourceData.store, Bool.false_eq_true, if_false, markSender_packetlist,
    trim_markSender, evicted_markSender]
  by_cases hempty : s.packetlist.isEmpty
  · obtain ⟨htrim, hevicted⟩ := trim_of_nil s (List.isEmpty_iff.mp hempty)
    rw [if_pos hempty, htrim, hevicted]
    rfl
  · rw [if_neg hempty, insertLoop_eq]
    unfold enqueue insertKeyed
    cases insertBack extkey p s.trim.reverse with
    | none => rfl
    | some l => rfl

/-- A validated source takes every packet to its queue. -/
theorem processRTPPacket_validated {s : RTPSourceData T A} (hv : s.validated = true)
    (p : RTPPacket) (t : T) :
    s.processRTPPacket p t false =
      ⟨{ { s with stats := (s.processed p t).stats }.markSender with
          packetlist := enqueue extkey s.packetlist (s.processed p t).pack },
        (insertKeyed extkey (s.processed p t).pack s.packetlist).isSome, []⟩ := by
  let s' := { s with stats := (s.processed p t).stats }
  obtain ⟨hno, -⟩ | ⟨-, hr⟩ := byProbation_cases s' (s.processed p t) false
  · have := processed_accept hno
    rw [hv] at this
    cases this
  · have hsame : (s'.validated || (s.processed p t).accept) = s'.validated := by
      rw [show s'.validated = true from hv]
      rfl
    obtain ⟨htrim, hevicted⟩ := trim_of_validated s' hv
    rw [hsame, store_eq] at hr
    exact hr.trans (by rw [htrim, hevicted])

section Kept

/-- What a packet leaves as it was, and the flags it only sets. -/
structure Kept (s s' : RTPSourceData T A) : Prop where
  ssrc : s'.ssrc = s.ssrc
  ownssrc : s'.ownssrc = s.ownssrc
  receivedbye : s'.receivedbye = s.receivedbye
  rtpaddr : s'.rtpaddr = s.rtpaddr
  rtcpaddr : s'.rtcpaddr = s.rtcpaddr
  validated : s.validated = true → s'.validated = true
  issender : s.issender = true → s'.issender = true

theorem Kept.active {s s' : RTPSourceData T A} (h : Kept s s') (ha : s.isActive = true) :
    s'.isActive = true := by
  obtain ⟨hv, hb⟩ := Bool.and_eq_true_iff.mp ha
  rw [RTPSourceData.isActive, h.validated hv, h.receivedbye, hb]
  rfl

theorem markSender_cases (s : RTPSourceData T A) :
    s.markSender = s ∨ s.markSender = { s with issender := true } := by
  unfold RTPSourceData.markSender
  split
  · exact .inr rfl
  · exact .inl rfl

theorem store_source (s : RTPSourceData T A) (p : RTPPacket) (b : Bool) :
    ∃ l, (s.store p b).source = { s.markSender with packetlist := l } := by
  unfold RTPSourceData.store
  cases b with
  | true => exact ⟨_, rfl⟩
  | false =>
    simp only [Bool.false_eq_true, if_false]
    split
    · exact ⟨_, rfl⟩
    · split
      · exact ⟨_, rfl⟩
      · exact ⟨_, rfl⟩

theorem processRTPPacket_kept (s : RTPSourceData T A) (p : RTPPacket) (t : T) (b : Bool) :
    Kept s (s.processRTPPacket p t b).source := by
  let r := s.processed p t
  let s₁ := { s with stats := r.stats }
  let s₂ := { s₁ with validated := s₁.validated || r.accept }
  have hflag : s.validated = true → s₂.validated = true := by
    intro hv
    show (s.validated || r.accept) = true
    rw [hv, Bool.true_or]
  obtain ⟨-, hr⟩ | ⟨-, hr⟩ := byProbation_cases s₁ r b
  · rw [show s.processRTPPacket p t b = s₁.byProbation r b from rfl, hr]
    exact ⟨rfl, rfl, rfl, rfl, rfl, id, id⟩
  · obtain ⟨l, hl⟩ := store_source s₂ r.pack b
    rw [show s.processRTPPacket p t b = s₁.byProbation r b from rfl, hr, hl]
    obtain hm | hm := markSender_cases s₂
    · rw [hm]
      exact ⟨rfl, rfl, rfl, rfl, rfl, hflag, id⟩
    · rw [hm]
      exact ⟨rfl, rfl, rfl, rfl, rfl, hflag, fun _ ↦ rfl⟩

theorem processSDESItem_kept (s : RTPSourceData T A) (i : SDESItemType) (data : List UInt8) (t : T) :
    Kept s (s.processSDESItem i data t).1 ∧ (s.processSDESItem i data t).1.issender = s.issender := by
  have hkept : Kept s (s.updateMessageTime t) := ⟨rfl, rfl, rfl, rfl, rfl, id, id⟩
  unfold RTPSourceData.processSDESItem
  cases i with
  | cname =>
    simp only
    split
    · exact ⟨⟨rfl, rfl, rfl, rfl, rfl, fun _ ↦ rfl, id⟩, rfl⟩
    · exact ⟨hkept, rfl⟩
  | name =>
    simp only
    split
    · exact ⟨⟨rfl, rfl, rfl, rfl, rfl, id, id⟩, rfl⟩
    · exact ⟨hkept, rfl⟩
  | email =>
    simp only
    split
    · exact ⟨⟨rfl, rfl, rfl, rfl, rfl, id, id⟩, rfl⟩
    · exact ⟨hkept, rfl⟩
  | tool =>
    simp only
    split
    · exact ⟨⟨rfl, rfl, rfl, rfl, rfl, id, id⟩, rfl⟩
    · exact ⟨hkept, rfl⟩
  | phone => exact ⟨⟨rfl, rfl, rfl, rfl, rfl, id, id⟩, rfl⟩
  | location => exact ⟨⟨rfl, rfl, rfl, rfl, rfl, id, id⟩, rfl⟩
  | note => exact ⟨⟨rfl, rfl, rfl, rfl, rfl, id, id⟩, rfl⟩

end Kept

end VirtualCamera.Rtp.Source
