import VirtualCamera.Library.Transition
import VirtualCamera.Rtp.Slices

namespace VirtualCamera.Rtp.Limits

open Library.Memory Library.Transition PacketBuilder Session Slices

def RTPUDPV4TRANS_MAXPACKSIZE : ℕ := 65535

/-- The statuses of `Create` and `SetMaximumPacketSize`. Those of the transmitter and of the
other parts of the session are passed on. -/
inductive ConfigError
  | alreadyCreated
  | notCreated
  | threadSafetyConflict
  | maxPacketSizeTooSmall
  | specifiedSizeTooBig
  | outOfMem
  | transmitter
  | internalCreate
  deriving DecidableEq, Repr

/-- The parameters of `Create`, what the transmitter and the other parts of the session
answer, and the random numbers of the packet builder. -/
structure CreateCall where
  maximumPacketSize : ℕ
  usingPollThread : Bool
  needThreadSafety : Bool
  transmitter : Bool
  internalCreate : Bool
  ssrc : UInt32
  timestamp : UInt32
  seqnr : UInt16
  deriving DecidableEq, Repr

def RTPSession.new : RTPSession where
  created := false
  maxpacksize := 0
  sliceDataMaxSize := 0
  packetbuilder := ⟨false, 0, 0, 0, 0, [], 0, 0, 0, 0⟩
  transMaxpacksize := 0
  sentpackets := false
  sent := []

/-- A part that fails late has the packet builder destroyed again. -/
def create (s : RTPSession) (c : CreateCall) : Except ConfigError Unit × RTPSession :=
  if s.created then (.error .alreadyCreated, s)
  else if c.usingPollThread ∧ ¬ c.needThreadSafety then (.error .threadSafetyConflict, s)
  else
    let s := { s with sentpackets := false, maxpacksize := c.maximumPacketSize }
    if c.maximumPacketSize < RTP_MINPACKETSIZE then (.error .maxPacketSizeTooSmall, s)
    else if c.maximumPacketSize > RTPUDPV4TRANS_MAXPACKSIZE then (.error .specifiedSizeTooBig, s)
    else if ¬ c.transmitter then (.error .transmitter, s)
    else if ¬ c.internalCreate then
      (.error .internalCreate, { s with sliceDataMaxSize := c.maximumPacketSize - 200 })
    else (.ok (), RTPSession.internalCreate c.maximumPacketSize c.ssrc c.timestamp c.seqnr)

/-- `newbuf` is whether the packet builder gets a buffer. The RTCP builder takes every size that
has come this far. -/
def setMaximumPacketSize (s : RTPSession) (size : ℕ) (newbuf : Bool) :
    Except ConfigError Unit × RTPSession :=
  if ¬ s.created then (.error .notCreated, s)
  else if size < RTP_MINPACKETSIZE then (.error .maxPacketSizeTooSmall, s)
  else if size > RTPUDPV4TRANS_MAXPACKSIZE then (.error .specifiedSizeTooBig, s)
  else if ¬ newbuf then (.error .outOfMem, { s with transMaxpacksize := s.maxpacksize })
  else (.ok (), { s with
    transMaxpacksize := size
    packetbuilder := { s.packetbuilder with maxpacksize := size }
    maxpacksize := size })

inductive Call
  | create (c : CreateCall)
  | setMaximumPacketSize (size : ℕ) (newbuf : Bool)
  | sendPacketAfterSlice (c : SendCall) (pt : UInt8) (mark : Bool)

/-- A call that ends the process has no next state. -/
def step (s : RTPSession) : Call → Option RTPSession
  | .create c => some (create s c).2
  | .setMaximumPacketSize size newbuf => some (setMaximumPacketSize s size newbuf).2
  | .sendPacketAfterSlice c pt mark =>
    (s.sendPacketAfterSlice c.data pt mark c.timestampinc).map Prod.snd

/-! ### What one call asks for -/

/-- The packets that are asked for one after the other, up to the first failure, each with
what `SendPacket` answers. -/
def attempts (pt : UInt8) : RTPSession → List SendRequest → List (SendRequest × Status)
  | _, [] => []
  | s, r :: rs =>
    let result := s.sendPacket r.data pt r.mark r.timestampinc
    (r, result.1) :: if result.1.isOk then attempts pt result.2 rs else []

def callAttempts (s : RTPSession) (c : SendCall) (pt : UInt8) (mark : Bool) :
    List (SendRequest × Status) :=
  if s.created then attempts pt s (sendRequests s.sliceDataMaxSize c.data mark c.timestampinc)
  else []

/-- The bytes of the buffer that are in the packets sent since; a slice has two bytes more. -/
def acceptedBytes (s t : RTPSession) (c : SendCall) : List UInt8 :=
  let header := if c.data.length > s.sliceDataMaxSize then 2 else 0
  ((t.sent.drop s.sent.length).map fun p ↦ p.payload.drop header).flatten

/-- All packets of a call fit, a failure is reported, and the call is a success only when all
bytes were accepted. -/
structure Sound (s : RTPSession) (c : SendCall) (pt : UInt8) (mark : Bool) : Prop where
  fits : ∀ a ∈ callAttempts s c pt mark,
    packetLength s.packetbuilder.csrcs.length a.1.data.length ≤ s.maxpacksize
  reported : (∃ a ∈ callAttempts s c pt mark, a.2.isOk = false) →
    ∃ e t, s.sendPacketAfterSlice c.data pt mark c.timestampinc = some (.error e, t)
  complete : ∀ t, s.sendPacketAfterSlice c.data pt mark c.timestampinc = some (.ok (), t) →
    acceptedBytes s t c = c.data

/-- The largest packet of the call fits, and the payload type is a valid one. -/
structure Suits (s : RTPSession) (c : SendCall) (pt : UInt8) : Prop where
  payloadType : ValidPayloadType pt
  whole : c.data.length ≤ s.sliceDataMaxSize → 12 + c.data.length ≤ s.maxpacksize
  slices : s.sliceDataMaxSize < c.data.length → 12 + 2 + s.sliceDataMaxSize ≤ s.maxpacksize

/-! ### What holds of every session -/

/-- The limits agree, the slices are not empty, and there are no contributing sources. -/
structure Configured (s : RTPSession) : Prop where
  init : s.packetbuilder.init = true
  csrcs : s.packetbuilder.csrcs = []
  builder : s.packetbuilder.maxpacksize = s.maxpacksize
  trans : s.transMaxpacksize = s.maxpacksize
  size : RTP_MINPACKETSIZE ≤ s.maxpacksize
  slice : 400 ≤ s.sliceDataMaxSize

def Inv (s : RTPSession) : Prop := s.created = true → Configured s

variable {s t : RTPSession} {pt : UInt8}

theorem new_inv : Inv RTPSession.new := fun h ↦ by cases h

theorem create_inv (h : Inv s) (c : CreateCall) : Inv (create s c).2 := by
  unfold create
  split
  · exact h
  · rename_i hcreated
    split
    · exact h
    · dsimp only
      split
      · exact fun hc ↦ absurd hc hcreated
      · split
        · exact fun hc ↦ absurd hc hcreated
        · split
          · exact fun hc ↦ absurd hc hcreated
          · split
            · exact fun hc ↦ absurd hc hcreated
            · rename_i hmin _ _ _
              intro _
              refine ⟨rfl, rfl, rfl, rfl, Nat.not_lt.mp hmin, ?_⟩
              unfold RTP_MINPACKETSIZE at hmin
              show 400 ≤ c.maximumPacketSize - 200
              omega

theorem setMaximumPacketSize_inv (h : Inv s) (size : ℕ) (newbuf : Bool) :
    Inv (setMaximumPacketSize s size newbuf).2 := by
  unfold setMaximumPacketSize
  split
  · exact h
  · split
    · exact h
    · rename_i hmin
      split
      · exact h
      · split
        · exact fun hc ↦ { h hc with trans := rfl }
        · intro hc
          have hs := h hc
          exact ⟨hs.init, hs.csrcs, rfl, rfl, Nat.not_lt.mp hmin, hs.slice⟩

theorem sendOne_inv (h : Configured s) (r : SendRequest) : Configured (sendOne pt s r) :=
  ⟨h.init, h.csrcs, h.builder, h.trans, h.size, h.slice⟩

theorem sendAll_inv (h : Configured s) (rs : List SendRequest) : Configured (sendAll pt s rs) := by
  induction rs generalizing s with
  | nil => exact h
  | cons r rs ih => exact ih (sendOne_inv h r)

/-- A packet is sent exactly when its payload type is valid and it fits. -/
theorem sendPacket_ok_or_error (h : Configured s) (hcreated : s.created = true) (pt : UInt8)
    (r : SendRequest) :
    (ValidPayloadType pt ∧ 12 + r.data.length ≤ s.maxpacksize ∧
      s.sendPacket r.data pt r.mark r.timestampinc = (.ok (), sendOne pt s r)) ∨
    (¬ (ValidPayloadType pt ∧ 12 + r.data.length ≤ s.maxpacksize) ∧
      ∃ e, s.sendPacket r.data pt r.mark r.timestampinc = (.error e, s)) := by
  by_cases hok : ValidPayloadType pt ∧ 12 + r.data.length ≤ s.maxpacksize
  · have hcsrcs : s.packetbuilder.csrcs.length ≤ RTP_MAXCSRCS := by
      rw [h.csrcs]
      exact Nat.zero_le _
    have htrans : s.packetbuilder.maxpacksize ≤ s.transMaxpacksize := by
      rw [h.builder, h.trans]
    have hfit : packetLength s.packetbuilder.csrcs.length r.data.length ≤
        s.packetbuilder.maxpacksize := by
      rw [h.csrcs, h.builder]
      exact hok.2
    exact .inl ⟨hok.1, hok.2, sendPacket_fits hcreated h.init hcsrcs htrans hok.1 r hfit⟩
  · have hpos : 0 < s.packetbuilder.maxpacksize := by
      have hsize := h.size
      unfold RTP_MINPACKETSIZE at hsize
      rw [h.builder]
      omega
    have hbad : ValidPayloadType pt → s.packetbuilder.maxpacksize <
        packetLength s.packetbuilder.csrcs.length r.data.length := by
      intro hpt
      rw [h.csrcs, h.builder]
      exact Nat.not_le.mp fun hfit ↦ hok ⟨hpt, hfit⟩
    obtain ⟨e, he⟩ := buildPacket_error r.mark r.timestampinc h.init hpos hbad
    refine .inr ⟨hok, e, ?_⟩
    rw [RTPSession.sendPacket, if_neg (not_not_intro hcreated), he]

/-! ### One call -/

theorem attempts_ok (h : Configured s) (hcreated : s.created = true) (hpt : ValidPayloadType pt)
    {rs : List SendRequest} (hfit : ∀ r ∈ rs, 12 + r.data.length ≤ s.maxpacksize) :
    attempts pt s rs = rs.map fun r ↦ (r, .ok ()) := by
  induction rs generalizing s with
  | nil => rfl
  | cons r rs ih =>
    have hsend : s.sendPacket r.data pt r.mark r.timestampinc = (.ok (), sendOne pt s r) := by
      rcases sendPacket_ok_or_error h hcreated pt r with ⟨-, -, hsend⟩ | ⟨hno, -⟩
      · exact hsend
      · exact absurd ⟨hpt, hfit r List.mem_cons_self⟩ hno
    have hrest := ih (sendOne_inv h r : Configured (sendOne pt s r)) hcreated
      fun r hr ↦ hfit r (List.mem_cons_of_mem _ hr)
    rw [attempts, hsend, List.map_cons]
    exact congrArg _ hrest

/-- The first slice of a buffer that is too long for one packet. -/
def firstSlice (max : ℕ) (c : SendCall) : SendRequest :=
  sliceRequest max c.data c.timestampinc (c.data.getD 4 0) (sliceCount max c.data.length) 0

variable {c : SendCall} {mark : Bool}

theorem firstSlice_length {max : ℕ} (hlarge : max < c.data.length) :
    (firstSlice max c).data.length = max + 2 := by
  simp only [firstSlice, sliceRequest, if_true, Nat.zero_mul, List.drop_zero, List.length_cons,
    List.length_take]
  omega

theorem sendRequests_sliced {max : ℕ} (hmax : 0 < max) (hlarge : max < c.data.length)
    (mark : Bool) :
    ∃ rs, sendRequests max c.data mark c.timestampinc = firstSlice max c :: rs := by
  obtain ⟨htwo, -⟩ := sliceCount_pred hmax hlarge
  obtain ⟨n, hn⟩ : ∃ n, sliceCount max c.data.length = n + 1 :=
    ⟨sliceCount max c.data.length - 1, by omega⟩
  rw [sendRequests, if_neg (Nat.not_le.mpr hlarge), firstSlice, hn, List.range_succ_eq_map,
    List.map_cons]
  exact ⟨_, rfl⟩

theorem sliceLoop_refused (hmax : 0 < s.sliceDataMaxSize)
    (hlarge : s.sliceDataMaxSize < c.data.length) {e : RTPError}
    (hsend : s.sendPacket (firstSlice s.sliceDataMaxSize c).data pt
      (firstSlice s.sliceDataMaxSize c).mark (firstSlice s.sliceDataMaxSize c).timestampinc =
        (.error e, s)) :
    sliceLoop c.data pt c.timestampinc (c.data.getD 4 0)
      (sliceCount s.sliceDataMaxSize c.data.length) (c.data.length % s.sliceDataMaxSize : ℕ)
      (sliceCount s.sliceDataMaxSize c.data.length) s = none := by
  obtain ⟨htwo, -⟩ := sliceCount_pred hmax hlarge
  obtain ⟨n, hn⟩ : ∃ n, sliceCount s.sliceDataMaxSize c.data.length = n + 1 :=
    ⟨sliceCount s.sliceDataMaxSize c.data.length - 1, by omega⟩
  have hfirst : firstSlice s.sliceDataMaxSize c = sliceRequest s.sliceDataMaxSize c.data
      c.timestampinc (c.data.getD 4 0) (n + 1) (n + 1 - (n + 1)) := by
    rw [firstSlice, hn, Nat.sub_self]
  have hloop := sliceLoop_succ c.timestampinc (c.data.getD 4 0) hmax hn.symm (Nat.lt_succ_self n)
    hfirst hsend
  rw [hn]
  exact hloop

/-- When the first slice is refused, the process ends. -/
theorem sliced_refused (h : Configured s) (hcreated : s.created = true)
    (hlarge : s.sliceDataMaxSize < c.data.length)
    (hno : ¬ (ValidPayloadType pt ∧ 12 + (s.sliceDataMaxSize + 2) ≤ s.maxpacksize)) (mark : Bool) :
    s.sendPacketAfterSlice c.data pt mark c.timestampinc = none ∧
      ∃ r e, callAttempts s c pt mark = [(r, .error e)] := by
  have hslice := h.slice
  have hmax : 0 < s.sliceDataMaxSize := by omega
  rcases sendPacket_ok_or_error h hcreated pt (firstSlice s.sliceDataMaxSize c) with
    ⟨hpt, hfit, -⟩ | ⟨-, e, hsend⟩
  · rw [firstSlice_length hlarge] at hfit
    exact absurd ⟨hpt, hfit⟩ hno
  · obtain ⟨rs, hrs⟩ := sendRequests_sliced hmax hlarge mark
    constructor
    · rw [sendPacketAfterSlice_sliced hcreated c.length_le hlarge (by omega),
        sliceLoop_refused hmax hlarge hsend, Option.map_none]
    · refine ⟨firstSlice s.sliceDataMaxSize c, e, ?_⟩
      rw [callAttempts, if_pos hcreated, hrs, attempts, hsend]
      rfl

/-- When the whole buffer is refused, the call is a success all the same. -/
theorem whole_refused (h : Configured s) (hcreated : s.created = true)
    (hsmall : c.data.length ≤ s.sliceDataMaxSize)
    (hno : ¬ (ValidPayloadType pt ∧ 12 + c.data.length ≤ s.maxpacksize)) (mark : Bool) :
    s.sendPacketAfterSlice c.data pt mark c.timestampinc = some (.ok (), s) ∧
      ∃ r e, callAttempts s c pt mark = [(r, .error e)] := by
  rcases sendPacket_ok_or_error h hcreated pt ⟨c.data, mark, c.timestampinc⟩ with
    ⟨hpt, hfit, -⟩ | ⟨-, e, hsend⟩
  · exact absurd ⟨hpt, hfit⟩ hno
  · constructor
    · rw [sendPacketAfterSlice_whole hcreated hsmall, hsend]
    · refine ⟨⟨c.data, mark, c.timestampinc⟩, e, ?_⟩
      rw [callAttempts, if_pos hcreated, sendRequests, if_pos hsmall, attempts, hsend]
      rfl

theorem Suits.fits (h : Suits s c pt) {r : SendRequest}
    (hr : r ∈ sendRequests s.sliceDataMaxSize c.data mark c.timestampinc) :
    12 + r.data.length ≤ s.maxpacksize := by
  unfold sendRequests at hr
  split at hr
  · rename_i hsmall
    obtain rfl := List.mem_singleton.mp hr
    exact h.whole hsmall
  · rename_i hlarge
    obtain ⟨i, -, rfl⟩ := List.mem_map.mp hr
    have hroom := h.slices (Nat.not_le.mp hlarge)
    have hlen := sliceRequest_length s.sliceDataMaxSize c.data c.timestampinc (c.data.getD 4 0)
      (sliceCount s.sliceDataMaxSize c.data.length) i
    omega

theorem suits_sent (h : Configured s) (hcreated : s.created = true) (hs : Suits s c pt) :
    s.sendPacketAfterSlice c.data pt mark c.timestampinc =
      some (.ok (), sendAll pt s (sendRequests s.sliceDataMaxSize c.data mark c.timestampinc)) := by
  have hslice := h.slice
  by_cases hsmall : c.data.length ≤ s.sliceDataMaxSize
  · rcases sendPacket_ok_or_error h hcreated pt ⟨c.data, mark, c.timestampinc⟩ with
      ⟨-, -, hsend⟩ | ⟨hno, -⟩
    · rw [sendPacketAfterSlice_whole hcreated hsmall, hsend, sendRequests, if_pos hsmall]
      rfl
    · exact absurd ⟨hs.payloadType, hs.whole hsmall⟩ hno
  · have hroom := hs.slices (Nat.not_le.mp hsmall)
    have hfits : Fits s := by
      refine ⟨hcreated, h.init, ?_, ?_, ?_⟩
      · rw [h.csrcs]
        exact Nat.zero_le _
      · rw [h.csrcs, h.builder, packetLength, List.length_nil]
        omega
      · rw [h.builder, h.trans]
    exact sendPacketAfterSlice_eq hfits hs.payloadType (by omega) c.length_le
      (fun hlarge ↦ by omega) mark c.timestampinc

theorem sliceRequest_drop (max : ℕ) (data : List UInt8) (timestampinc : UInt32)
    (naluHeader : UInt8) (n i : ℕ) :
    (sliceRequest max data timestampinc naluHeader n i).data.drop 2 =
      (data.drop (i * max)).take max := by
  simp only [sliceRequest]
  split_ifs <;> rfl

theorem acceptedBytes_sendAll (h : Configured s) :
    acceptedBytes s (sendAll pt s (sendRequests s.sliceDataMaxSize c.data mark c.timestampinc)) c =
      c.data := by
  have hslice := h.slice
  have hbytes : ∀ header, ((packets pt s.packetbuilder
      (sendRequests s.sliceDataMaxSize c.data mark c.timestampinc)).map
        fun p ↦ p.payload.drop header) =
      (sendRequests s.sliceDataMaxSize c.data mark c.timestampinc).map
        fun r ↦ r.data.drop header := by
    intro header
    have hpayload := congrArg (List.map (List.drop header)) (packets_payload pt s.packetbuilder
      (sendRequests s.sliceDataMaxSize c.data mark c.timestampinc))
    rw [List.map_map, List.map_map] at hpayload
    exact hpayload
  simp only [acceptedBytes, sendAll_sent, List.drop_left, hbytes]
  unfold sendRequests
  by_cases hsmall : c.data.length ≤ s.sliceDataMaxSize
  · rw [if_pos hsmall, if_neg (Nat.not_lt.mpr hsmall), List.map_singleton, List.flatten_singleton]
    rfl
  · rw [if_neg hsmall, if_pos (Nat.not_le.mp hsmall), List.map_map]
    have hmap : (List.range (sliceCount s.sliceDataMaxSize c.data.length)).map
        ((fun r ↦ r.data.drop 2) ∘ sliceRequest s.sliceDataMaxSize c.data c.timestampinc
          (c.data.getD 4 0) (sliceCount s.sliceDataMaxSize c.data.length)) =
        windows s.sliceDataMaxSize (sliceCount s.sliceDataMaxSize c.data.length) c.data :=
      List.map_congr_left fun i _ ↦ sliceRequest_drop _ _ _ _ _ i
    rw [hmap]
    exact windows_cover (sliceCount_cover (by omega) c.data.length)

/-- Any other call has its first packet refused, which is not reported. -/
theorem suits_or_refused (h : Configured s) (hcreated : s.created = true) (c : SendCall)
    (pt : UInt8) (mark : Bool) :
    Suits s c pt ∨
    (s.sendPacketAfterSlice c.data pt mark c.timestampinc = none ∨
      s.sendPacketAfterSlice c.data pt mark c.timestampinc = some (.ok (), s)) ∧
    ∃ r e, callAttempts s c pt mark = [(r, .error e)] := by
  by_cases hsmall : c.data.length ≤ s.sliceDataMaxSize
  · by_cases hok : ValidPayloadType pt ∧ 12 + c.data.length ≤ s.maxpacksize
    · exact .inl ⟨hok.1, fun _ ↦ hok.2, fun hlarge ↦ absurd hsmall (Nat.not_le.mpr hlarge)⟩
    · obtain ⟨hret, hattempts⟩ := whole_refused h hcreated hsmall hok mark
      exact .inr ⟨.inr hret, hattempts⟩
  · have hlarge := Nat.not_le.mp hsmall
    by_cases hok : ValidPayloadType pt ∧ 12 + (s.sliceDataMaxSize + 2) ≤ s.maxpacksize
    · refine .inl ⟨hok.1, fun hle ↦ absurd hle hsmall, fun _ ↦ ?_⟩
      have hfit := hok.2
      omega
    · obtain ⟨hret, hattempts⟩ := sliced_refused h hcreated hlarge hok mark
      exact .inr ⟨.inl hret, hattempts⟩

/-- A call is as it should be exactly when the session has room for its largest packet. -/
theorem sound_iff (h : Inv s) : Sound s c pt mark ↔ (s.created = true → Suits s c pt) := by
  constructor
  · intro hsound hcreated
    rcases suits_or_refused (h hcreated) hcreated c pt mark with hs | ⟨hret, r, e, hattempts⟩
    · exact hs
    · obtain ⟨e', t, ht⟩ := hsound.reported (by
        rw [hattempts]
        exact ⟨(r, .error e), List.mem_singleton_self _, rfl⟩)
      rcases hret with hret | hret
      · cases hret.symm.trans ht
      · cases hret.symm.trans ht
  · intro hsuits
    by_cases hcreated : s.created = true
    · have hc := h hcreated
      have hs := hsuits hcreated
      have hattempts : callAttempts s c pt mark =
          (sendRequests s.sliceDataMaxSize c.data mark c.timestampinc).map fun r ↦ (r, .ok ()) := by
        rw [callAttempts, if_pos hcreated]
        exact attempts_ok hc hcreated hs.payloadType fun r hr ↦ hs.fits hr
      refine ⟨fun a ha ↦ ?_, ?_, fun t ht ↦ ?_⟩
      · rw [hattempts] at ha
        obtain ⟨r, hr, rfl⟩ := List.mem_map.mp ha
        rw [hc.csrcs]
        exact hs.fits hr
      · intro hcond
        obtain ⟨a, ha, hfalse⟩ := hcond
        rw [hattempts] at ha
        obtain ⟨r, -, rfl⟩ := List.mem_map.mp ha
        cases hfalse
      · rw [suits_sent hc hcreated hs] at ht
        cases ht
        exact acceptedBytes_sendAll hc
    · have hnone : s.sendPacketAfterSlice c.data pt mark c.timestampinc =
          some (.error .sessionNotCreated, s) := by
        rw [RTPSession.sendPacketAfterSlice, if_pos hcreated]
      have hattempts : callAttempts s c pt mark = [] := by
        rw [callAttempts, if_neg hcreated]
      refine ⟨fun a ha ↦ ?_, fun _ ↦ ⟨_, _, hnone⟩, fun t ht ↦ ?_⟩
      · rw [hattempts] at ha
        cases ha
      · rw [hnone] at ht
        cases ht

/-! ### Runs -/

theorem step_inv {call : Call} (h : Inv s) (hstep : step s call = some t) : Inv t := by
  cases call with
  | create c =>
    cases hstep
    exact create_inv h c
  | setMaximumPacketSize size newbuf =>
    cases hstep
    exact setMaximumPacketSize_inv h size newbuf
  | sendPacketAfterSlice c pt mark =>
    obtain ⟨⟨status, t'⟩, hcall, rfl⟩ := Option.map_eq_some_iff.mp hstep
    intro ht
    by_cases hcreated : s.created = true
    · have hc := h hcreated
      rcases suits_or_refused hc hcreated c pt mark with hs | ⟨hret, -⟩
      · rw [suits_sent hc hcreated hs] at hcall
        cases hcall
        exact sendAll_inv hc _
      · rcases hret with hret | hret
        · cases hret.symm.trans hcall
        · cases hret.symm.trans hcall
          exact hc
    · rw [RTPSession.sendPacketAfterSlice, if_pos hcreated] at hcall
      cases hcall
      exact h ht

theorem exec_inv {calls : List Call} (h : exec step RTPSession.new calls = some s) : Inv s :=
  ((run_iff_exec _ _ _ _).mpr h).invariant (P := Inv) (fun _ _ _ hstep hs ↦ step_inv hs hstep)
    new_inv

/-- In every sequence of calls, all sends are as they should be exactly when the session has
room for the largest packet of each of them. -/
theorem sends_sound_iff (calls : List Call) :
    (∀ done c pt mark s, done ++ [.sendPacketAfterSlice c pt mark] <+: calls →
      exec step RTPSession.new done = some s → Sound s c pt mark) ↔
    ∀ done c pt mark s, done ++ [.sendPacketAfterSlice c pt mark] <+: calls →
      exec step RTPSession.new done = some s → s.created = true → Suits s c pt := by
  constructor
  · intro h done c pt mark s hpre hs
    exact (sound_iff (exec_inv hs)).mp (h done c pt mark s hpre hs)
  · intro h done c pt mark s hpre hs
    exact (sound_iff (exec_inv hs)).mpr (h done c pt mark s hpre hs)

/-- The limit is lowered to the least one after the session was created with the default. -/
def lowered : List Call :=
  [.create ⟨1400, false, true, true, true, 1, 2, 3⟩, .setMaximumPacketSize 600 true]

/-- Then a buffer of 1000 bytes is lost, and the call succeeds. -/
theorem lowered_lost : ∃ (c : SendCall) (s : RTPSession),
    c.data.length = 1000 ∧ exec step RTPSession.new lowered = some s ∧ s.created = true ∧
      s.sendPacketAfterSlice c.data 96 true c.timestampinc = some (.ok (), s) ∧
      ¬ Sound s c 96 true := by
  let c : SendCall := ⟨List.replicate 1000 0, 3600, by
    rw [List.length_replicate]
    unfold INT_MAX
    omega⟩
  let s := (exec step RTPSession.new lowered).get rfl
  have hs : exec step RTPSession.new lowered = some s := (Option.some_get rfl).symm
  have hlen : c.data.length = 1000 := List.length_replicate
  have hno : ¬ (ValidPayloadType 96 ∧ 12 + c.data.length ≤ s.maxpacksize) := by
    rw [hlen]
    decide
  have hsmall : c.data.length ≤ s.sliceDataMaxSize := by
    rw [hlen]
    decide
  obtain ⟨hret, r, e, hattempts⟩ := whole_refused (exec_inv hs rfl) rfl hsmall hno true
  refine ⟨c, s, hlen, hs, rfl, hret, fun hsound ↦ ?_⟩
  obtain ⟨e', t, ht⟩ := hsound.reported (by
    rw [hattempts]
    exact ⟨(r, .error e), List.mem_singleton_self _, rfl⟩)
  cases hret.symm.trans ht

end VirtualCamera.Rtp.Limits
