import VirtualCamera.Library.CursorTable
import VirtualCamera.Rtp.Source

namespace VirtualCamera.Rtp.Sources

open Library.Cursor Library.CursorTable Packet SourceStats Source

class RTPAddress (A : Type) where
  isFromSameHost : A → A → Bool
  isFromSameHost_comm : ∀ a b, isFromSameHost a b = isFromSameHost b a

structure RTPIPv4Address where
  ip : UInt32
  port : UInt16
  deriving DecidableEq, Repr

instance : RTPAddress RTPIPv4Address where
  isFromSameHost a b := a.ip == b.ip
  isFromSameHost_comm _ _ := Bool.beq_comm

inductive RTPSourcesError
  | alreadyHaveOwnSSRC
  | dontHaveOwnSSRC
  | ssrcExists
  deriving DecidableEq, Repr

/-- The sources by their numbers, and the counts that are kept beside them. `owndata` is
the number of the own source, and `owncollision` the flag that `OnSSRCCollision` sets. -/
structure RTPSources (T A : Type) where
  sourcelist : CursorMap UInt32 (RTPSourceData T A)
  owndata : Option UInt32
  totalcount : ℤ
  sendercount : ℤ
  activecount : ℤ
  probationtype : ProbationType
  owncollision : Bool

variable {T A : Type}

/-- What a loop over the sources counts. -/
structure Counts where
  totalcount : ℤ
  sendercount : ℤ
  activecount : ℤ

def Counts.count (c : Counts) (issender isactive : Bool) : Counts :=
  { totalcount := c.totalcount + 1
    sendercount := if issender then c.sendercount + 1 else c.sendercount
    activecount := if isactive then c.activecount + 1 else c.activecount }

/-- Where an address is not set, the other one tells the host. Nothing is a collision,
and otherwise the address may be stored. -/
def checkCollision [DecidableEq A] [RTPAddress A] (srcdat : RTPSourceData T A)
    (senderaddress : Option A) (isrtp : Bool) : Option (RTPSourceData T A) :=
  let addr := if isrtp then srcdat.rtpaddr else srcdat.rtcpaddr
  let otheraddr := if isrtp then srcdat.rtcpaddr else srcdat.rtpaddr
  let stored := if isrtp then srcdat.setRTPDataAddress senderaddress
    else srcdat.setRTCPDataAddress senderaddress
  match addr with
  | none =>
    match otheraddr with
    | some none => if senderaddress ≠ none then none else some stored
    | some (some other) =>
      if senderaddress.any (RTPAddress.isFromSameHost other) then some stored else none
    | none => some stored
  | some none => if senderaddress ≠ none then none else some srcdat
  | some (some a) => if senderaddress = some a then some srcdat else none

namespace RTPSources

def new (probationtype : ProbationType) : RTPSources T A :=
  { sourcelist := ⟨[], .stale⟩, owndata := none, totalcount := 0, sendercount := 0,
    activecount := 0, probationtype, owncollision := false }

variable (s : RTPSources T A)

def gotEntry (ssrc : UInt32) : Bool := ssrc ∈ keys s.sourcelist.entries

/-- A write to a source through its pointer. -/
def put (srcdat : RTPSourceData T A) : RTPSources T A :=
  { s with sourcelist := s.sourcelist.replace srcdat.ssrc srcdat }

def onSSRCCollision (srcdat : RTPSourceData T A) : RTPSources T A :=
  { s with owncollision := s.owncollision || srcdat.ownssrc }

/-- `zero` is the time 0 of a new source. -/
def obtainSourceDataInstance (zero : T) (ssrc : UInt32) :
    RTPSourceData T A × Bool × RTPSources T A :=
  let sourcelist := s.sourcelist.find ssrc
  match s.sourcelist.lookup ssrc with
  | none =>
    let srcdat := RTPSourceData.new zero ssrc s.probationtype
    (srcdat, true,
      { s with sourcelist := sourcelist.add ssrc srcdat, totalcount := s.totalcount + 1 })
  | some srcdat => (srcdat, false, { s with sourcelist })

def createOwnSSRC (zero : T) (ssrc : UInt32) :
    Except RTPSourcesError Unit × RTPSources T A :=
  if s.owndata ≠ none then (.error .alreadyHaveOwnSSRC, s)
  else if s.gotEntry ssrc then (.error .ssrcExists, s)
  else
    let (srcdat, _, s) := s.obtainSourceDataInstance zero ssrc
    let s := s.put ((srcdat.setOwnSSRC.setRTPDataAddress none).setRTCPDataAddress none)
    (.ok (), { s with owndata := some ssrc, activecount := s.activecount + 1 })

def deleteOwnSSRC : Except RTPSourcesError Unit × RTPSources T A :=
  match s.owndata with
  | none => (.error .dontHaveOwnSSRC, s)
  | some ssrc =>
    match s.sourcelist.lookup ssrc with
    | none => (.ok (), { s with sourcelist := s.sourcelist.find ssrc, owndata := none })
    | some srcdat =>
      (.ok (), { s with
        sourcelist := (s.sourcelist.find ssrc).removeAt ssrc
        owndata := none
        totalcount := s.totalcount - 1
        sendercount := if srcdat.issender then s.sendercount - 1 else s.sendercount
        activecount := if srcdat.isActive then s.activecount - 1 else s.activecount })

/-- `now` is the time of the call. -/
def sentRTPPacket (now : T) : RTPSources T A :=
  match s.owndata.bind s.sourcelist.lookup with
  | none => s
  | some srcdat =>
    let s := s.put (srcdat.sentRTPPacket now)
    if ¬ srcdat.issender ∧ (srcdat.sentRTPPacket now).issender then
      { s with sendercount := s.sendercount + 1 }
    else s

/-- The next packet of the source that the cursor is at. -/
def getNextPacket : Option RTPPacket × RTPSources T A :=
  match s.sourcelist.place with
  | .at ssrc =>
    match s.sourcelist.lookup ssrc with
    | none => (none, s)
    | some srcdat => (srcdat.getNextPacket.1, s.put srcdat.getNextPacket.2)
  | _ => (none, s)

def clearSourceList : RTPSources T A :=
  { s with sourcelist := ⟨[], .off⟩, owndata := none, totalcount := 0, sendercount := 0,
           activecount := 0 }

section Packets

variable [DecidableEq A] [RTPAddress A]

/-- One of the sources that a packet says it was mixed from. -/
def processCSRC (zero : T) (senderaddress : Option A) (csrc : UInt32) : RTPSources T A :=
  let (csrcdat, created, s) := s.obtainSourceDataInstance zero csrc
  if created then
    let s := s.put csrcdat.setCSRC
    if csrcdat.setCSRC.isActive then { s with activecount := s.activecount + 1 } else s
  else
    match checkCollision csrcdat senderaddress true with
    | none => s.onSSRCCollision csrcdat
    | some csrcdat => s.put csrcdat.setCSRC

/-- The sources after a packet, whether it was stored, and the packets that were deleted. -/
structure Processed (T A : Type) where
  sources : RTPSources T A
  stored : Bool
  deleted : List RTPPacket

/-- The part that is about the packet's own source, and whether those it was mixed from
come next. -/
def receiveRTPPacket (zero : T) (rtppack : RTPPacket) (receivetime : T)
    (senderaddress : Option A) (ispackethandled : Bool) : Processed T A × Bool :=
  let (srcdat, created, s) := s.obtainSourceDataInstance zero rtppack.ssrc
  let checked := if created then some (srcdat.setRTPDataAddress senderaddress)
    else checkCollision srcdat senderaddress true
  match checked with
  | none => ({ sources := s.onSSRCCollision srcdat, stored := false, deleted := [] }, false)
  | some srcdat =>
    let r := srcdat.processRTPPacket rtppack receivetime ispackethandled
    let s := s.put r.source
    let sendercount := if ¬ srcdat.issender ∧ r.source.issender then s.sendercount + 1
      else s.sendercount
    let activecount := if ¬ srcdat.isActive ∧ r.source.isActive then s.activecount + 1
      else s.activecount
    ({ sources := { s with sendercount, activecount }, stored := r.stored, deleted := r.deleted },
      r.source.validated)

/-- `csrcs` are the numbers that the packet's `GetCSRC` gives. -/
def processRTPPacket (zero : T) (rtppack : RTPPacket) (csrcs : List UInt32) (receivetime : T)
    (senderaddress : Option A) (ispackethandled : Bool) : Processed T A :=
  let (r, validated) := s.receiveRTPPacket zero rtppack receivetime senderaddress ispackethandled
  if validated then
    { r with sources := csrcs.foldl (fun s c ↦ s.processCSRC zero senderaddress c) r.sources }
  else r

/-- No source is given on a collision. -/
def getRTCPSourceData (zero : T) (ssrc : UInt32) (senderaddress : Option A) :
    Option (RTPSourceData T A) × RTPSources T A :=
  let (srcdat, created, s) := s.obtainSourceDataInstance zero ssrc
  let checked := if created then some (srcdat.setRTCPDataAddress senderaddress)
    else checkCollision srcdat senderaddress false
  match checked with
  | none => (none, s.onSSRCCollision srcdat)
  | some srcdat => (some srcdat, s.put srcdat)

/-- Of a sender's or a receiver's report, the time is all that is kept here. -/
def updateReceiveTime (zero : T) (ssrc : UInt32) (receivetime : T) (senderaddress : Option A) :
    RTPSources T A :=
  let (srcdat, s) := s.getRTCPSourceData zero ssrc senderaddress
  match srcdat with
  | none => s
  | some srcdat => s.put (srcdat.updateMessageTime receivetime)

def processSDESNormalItem (zero : T) (ssrc : UInt32) (t : SDESItemType) (itemdata : List UInt8)
    (receivetime : T) (senderaddress : Option A) : RTPSources T A :=
  let (srcdat, s) := s.getRTCPSourceData zero ssrc senderaddress
  match srcdat with
  | none => s
  | some srcdat =>
    let srcdat' := (srcdat.processSDESItem t itemdata receivetime).1
    let s := s.put srcdat'
    if ¬ srcdat.isActive ∧ srcdat'.isActive then { s with activecount := s.activecount + 1 } else s

/-- A `BYE` of the own source is ignored. -/
def processBYE (zero : T) (ssrc : UInt32) (reason : List UInt8) (receivetime : T)
    (senderaddress : Option A) : RTPSources T A :=
  let (srcdat, s) := s.getRTCPSourceData zero ssrc senderaddress
  match srcdat with
  | none => s
  | some srcdat =>
    if s.owndata = some srcdat.ssrc then s
    else
      let srcdat' := srcdat.processBYEPacket reason receivetime
      let s := s.put srcdat'
      if srcdat.isActive ∧ ¬ srcdat'.isActive then { s with activecount := s.activecount - 1 } else s

end Packets

/-- The loop over the sources. The counts it makes replace the old ones. -/
def sweep (body : Counts → UInt32 → RTPSourceData T A → Option (RTPSourceData T A) × Counts) :
    RTPSources T A :=
  let (sourcelist, c) := s.sourcelist.sweep body ⟨0, 0, 0⟩
  { s with sourcelist, totalcount := c.totalcount, sendercount := c.sendercount,
           activecount := c.activecount }

section Timeouts

variable [LT T] [DecidableLT T]

def timeout (checktime : T) : RTPSources T A :=
  s.sweep fun c _ srcdat ↦
    if s.owndata ≠ some srcdat.ssrc ∧ srcdat.stats.lastmsgtime < checktime then (none, c)
    else (some srcdat, c.count srcdat.issender srcdat.isActive)

def senderTimeout (checktime : T) : RTPSources T A :=
  s.sweep fun c _ srcdat ↦
    let c := c.count false srcdat.isActive
    if srcdat.issender then
      if srcdat.stats.lastrtptime < checktime then (some srcdat.clearSenderFlag, c)
      else (some srcdat, { c with sendercount := c.sendercount + 1 })
    else (some srcdat, c)

def byeTimeout (checktime : T) : RTPSources T A :=
  s.sweep fun c _ srcdat ↦
    if srcdat.receivedbye ∧ s.owndata ≠ some srcdat.ssrc ∧ srcdat.byetime < checktime then (none, c)
    else (some srcdat, c.count srcdat.issender srcdat.isActive)

/-- The note of a source when it is not too old. -/
def dropNote (srcdat : RTPSourceData T A) (checktime : T) : RTPSourceData T A :=
  if srcdat.sdesinf.note.length ≠ 0 ∧ srcdat.stats.lastnotetime < checktime then srcdat.clearNote
  else srcdat

def noteTimeout (checktime : T) : RTPSources T A :=
  s.sweep fun c _ srcdat ↦
    let srcdat := dropNote srcdat checktime
    (some srcdat, c.count srcdat.issender srcdat.isActive)

def multipleTimeouts (senderchecktime byechecktime generaltchecktime notechecktime : T) :
    RTPSources T A :=
  s.sweep fun c _ srcdat ↦
    let issender := srcdat.issender
    let isactive := srcdat.isActive
    let srcdat := dropNote srcdat notechecktime
    if srcdat.receivedbye ∧ s.owndata ≠ some srcdat.ssrc ∧ srcdat.byetime < byechecktime then
      (none, c)
    else if s.owndata ≠ some srcdat.ssrc ∧ srcdat.stats.lastmsgtime < generaltchecktime then
      (none, c)
    else if issender then
      if srcdat.stats.lastrtptime < senderchecktime then
        (some srcdat.clearSenderFlag, c.count false isactive)
      else (some srcdat, c.count true isactive)
    else (some srcdat, c.count false isactive)

end Timeouts

end RTPSources

section Collision

/-- A source that a packet may belong to, with the address of the packet. An address that
was set is not changed. -/
structure Checked (d d' : RTPSourceData T A) (senderaddress : Option A) (isrtp : Bool) : Prop where
  eq : d' = { d with rtpaddr := d'.rtpaddr, rtcpaddr := d'.rtcpaddr }
  rtp : ∀ a, d.rtpaddr = some a → d'.rtpaddr = some a
  rtcp : ∀ a, d.rtcpaddr = some a → d'.rtcpaddr = some a
  sender : (if isrtp then d'.rtpaddr else d'.rtcpaddr) = some senderaddress
  other : (if isrtp then d'.rtcpaddr else d'.rtpaddr) = if isrtp then d.rtcpaddr else d.rtpaddr

theorem checked_of_unset {d : RTPSourceData T A} {isrtp : Bool} (senderaddress : Option A)
    (h : (if isrtp then d.rtpaddr else d.rtcpaddr) = none) :
    Checked d (if isrtp then d.setRTPDataAddress senderaddress
      else d.setRTCPDataAddress senderaddress) senderaddress isrtp := by
  cases isrtp with
  | true =>
    have hunset : d.rtpaddr = none := h
    refine ⟨rfl, fun a ha ↦ ?_, fun _ ↦ id, rfl, rfl⟩
    rw [hunset] at ha
    cases ha
  | false =>
    have hunset : d.rtcpaddr = none := h
    refine ⟨rfl, fun _ ↦ id, fun a ha ↦ ?_, rfl, rfl⟩
    rw [hunset] at ha
    cases ha

theorem checked_of_set {d : RTPSourceData T A} {senderaddress : Option A} {isrtp : Bool}
    (h : (if isrtp then d.rtpaddr else d.rtcpaddr) = some senderaddress) :
    Checked d d senderaddress isrtp := ⟨rfl, fun _ ↦ id, fun _ ↦ id, h, rfl⟩

theorem Checked.flags {d d' : RTPSourceData T A} {senderaddress : Option A} {isrtp : Bool}
    (hc : Checked d d' senderaddress isrtp) :
    d'.issender = d.issender ∧ d'.isActive = d.isActive ∧ d'.receivedbye = d.receivedbye := by
  rw [hc.eq]
  exact ⟨rfl, rfl, rfl⟩

variable [DecidableEq A] [RTPAddress A]

theorem checkCollision_checked {d d' : RTPSourceData T A} {senderaddress : Option A} {isrtp : Bool}
    (h : checkCollision d senderaddress isrtp = some d') : Checked d d' senderaddress isrtp := by
  unfold checkCollision at h
  simp only at h
  split at h
  · rename_i haddr
    -- the address is not set, and is stored in each case that is no collision
    have hstored := checked_of_unset senderaddress haddr
    split at h
    · split at h
      · cases h
      · cases h
        exact hstored
    · split at h
      · cases h
        exact hstored
      · cases h
    · cases h
      exact hstored
  · rename_i haddr
    split at h
    · cases h
    · rename_i hsender
      cases h
      rw [not_not] at hsender
      rw [hsender]
      exact checked_of_set haddr
  · rename_i haddr
    split at h
    · rename_i hsender
      cases h
      rw [hsender]
      exact checked_of_set haddr
    · cases h

/-- Two addresses of one host, or of the session itself. -/
def OneHost : Option A → Option A → Prop
  | none, none => True
  | some a, some b => RTPAddress.isFromSameHost a b = true
  | _, _ => False

omit [DecidableEq A] in
theorem OneHost.symm {a b : Option A} (h : OneHost a b) : OneHost b a := by
  cases a with
  | none => cases b <;> exact h
  | some a =>
    cases b with
    | none => exact h
    | some b => exact (RTPAddress.isFromSameHost_comm b a).trans h

/-- The addresses of a source are of one host. -/
def SameHost (d : RTPSourceData T A) : Prop :=
  ∀ a b, d.rtpaddr = some a → d.rtcpaddr = some b → OneHost a b

theorem checkCollision_sameHost {d d' : RTPSourceData T A} {senderaddress : Option A}
    {isrtp : Bool} (hd : SameHost d) (h : checkCollision d senderaddress isrtp = some d') :
    SameHost d' := by
  have hc := checkCollision_checked h
  -- the other address is none, or of the sender's host
  have hother : (if isrtp then d.rtpaddr else d.rtcpaddr) = none → ∀ b,
      (if isrtp then d.rtcpaddr else d.rtpaddr) = some b → OneHost b senderaddress := by
    intro hunset b hb
    unfold checkCollision at h
    simp only [hunset, hb] at h
    cases b with
    | none =>
      simp only at h
      split at h
      · cases h
      · rename_i hsender
        rw [not_not] at hsender
        rw [hsender]
        trivial
    | some other =>
      simp only at h
      split at h
      · rename_i hany
        cases senderaddress with
        | none => cases hany
        | some a => exact hany
      · cases h
  intro a b ha hb
  cases isrtp with
  | true =>
    have hsame : d'.rtcpaddr = d.rtcpaddr := hc.other
    rw [show d'.rtpaddr = some senderaddress from hc.sender, Option.some.injEq] at ha
    subst ha
    rw [hsame] at hb
    cases haddr : d.rtpaddr with
    | none => exact (hother haddr b hb).symm
    | some a =>
      have hkeep := hc.rtp a haddr
      rw [show d'.rtpaddr = some senderaddress from hc.sender, Option.some.injEq] at hkeep
      rw [hkeep]
      exact hd a b haddr hb
  | false =>
    have hsame : d'.rtpaddr = d.rtpaddr := hc.other
    rw [show d'.rtcpaddr = some senderaddress from hc.sender, Option.some.injEq] at hb
    subst hb
    rw [hsame] at ha
    cases haddr : d.rtcpaddr with
    | none => exact hother haddr a ha
    | some b =>
      have hkeep := hc.rtcp b haddr
      rw [show d'.rtcpaddr = some senderaddress from hc.sender, Option.some.injEq] at hkeep
      rw [hkeep]
      exact hd a b ha haddr

end Collision

end VirtualCamera.Rtp.Sources
