import VirtualCamera.Rtp.Session

namespace VirtualCamera.Rtp.Slices

open Library.Memory PacketBuilder Session

/-- A packet the slicer asks the builder for. -/
structure SendRequest where
  data : List UInt8
  mark : Bool
  timestampinc : UInt32

structure Ready (s : RTPSession) : Prop where
  created : s.created = true
  init : s.packetbuilder.init = true
  csrcs : s.packetbuilder.csrcs.length ≤ RTP_MAXCSRCS
  room : s.sliceDataMaxSize + 200 ≤ s.packetbuilder.maxpacksize
  trans : s.packetbuilder.maxpacksize ≤ s.transMaxpacksize

theorem ready_internalCreate {maxpacksize : ℕ} (h : 200 ≤ maxpacksize) (ssrc timestamp : UInt32)
    (seqnr : UInt16) : Ready (RTPSession.internalCreate maxpacksize ssrc timestamp seqnr) where
  created := rfl
  init := rfl
  csrcs := Nat.zero_le _
  room := by
    show maxpacksize - 200 + 200 ≤ maxpacksize
    omega
  trans := le_rfl

theorem create_ok {maxpacksize : ℕ} {ssrc timestamp : UInt32} {seqnr : UInt16} {s : RTPSession}
    (h : RTPSession.create maxpacksize ssrc timestamp seqnr = .ok s) :
    RTP_MINPACKETSIZE ≤ maxpacksize ∧
      s = RTPSession.internalCreate maxpacksize ssrc timestamp seqnr := by
  simp only [RTPSession.create] at h
  split at h
  · cases h
  · exact ⟨by omega, (Except.ok.inj h).symm⟩

def sendOne (pt : UInt8) (s : RTPSession) (r : SendRequest) : RTPSession :=
  { s with
    packetbuilder := s.packetbuilder.next r.data r.timestampinc
    sent := s.sent ++ [s.packetbuilder.packet r.data pt r.mark]
    sentpackets := true }

def sendAll (pt : UInt8) (s : RTPSession) (rs : List SendRequest) : RTPSession :=
  rs.foldl (sendOne pt) s

@[simp] theorem sendAll_nil (pt : UInt8) (s : RTPSession) : sendAll pt s [] = s := rfl

@[simp] theorem sendAll_cons (pt : UInt8) (s : RTPSession) (r : SendRequest)
    (rs : List SendRequest) : sendAll pt s (r :: rs) = sendAll pt (sendOne pt s r) rs := rfl

theorem sendOne_ready {s : RTPSession} (h : Ready s) (pt : UInt8) (r : SendRequest) :
    Ready (sendOne pt s r) :=
  ⟨h.created, h.init, h.csrcs, h.room, h.trans⟩

@[simp] theorem sendOne_sliceDataMaxSize (pt : UInt8) (s : RTPSession) (r : SendRequest) :
    (sendOne pt s r).sliceDataMaxSize = s.sliceDataMaxSize := rfl

theorem sendAll_ready {s : RTPSession} (h : Ready s) (pt : UInt8) (rs : List SendRequest) :
    Ready (sendAll pt s rs) := by
  induction rs generalizing s with
  | nil => exact h
  | cons r rs ih => exact ih (sendOne_ready h pt r)

@[simp] theorem sendAll_sliceDataMaxSize (pt : UInt8) (s : RTPSession) (rs : List SendRequest) :
    (sendAll pt s rs).sliceDataMaxSize = s.sliceDataMaxSize := by
  induction rs generalizing s with
  | nil => rfl
  | cons r rs ih => exact ih (sendOne pt s r)

/-- A packet that the builder and the transmitter have room for is sent. -/
theorem sendPacket_fits {s : RTPSession} (hcreated : s.created = true)
    (hinit : s.packetbuilder.init = true) (hcsrcs : s.packetbuilder.csrcs.length ≤ RTP_MAXCSRCS)
    (htrans : s.packetbuilder.maxpacksize ≤ s.transMaxpacksize) {pt : UInt8}
    (hpt : ValidPayloadType pt) (r : SendRequest)
    (hfit : packetLength s.packetbuilder.csrcs.length r.data.length ≤
      s.packetbuilder.maxpacksize) :
    s.sendPacket r.data pt r.mark r.timestampinc = (.ok (), sendOne pt s r) := by
  have hb := buildPacket_ok r.mark r.timestampinc hinit hpt hcsrcs hfit
  have hsend : ¬ (s.packetbuilder.packet r.data pt r.mark).getPacketLength > s.transMaxpacksize := by
    show ¬ packetLength s.packetbuilder.csrcs.length r.data.length > s.transMaxpacksize
    omega
  rw [RTPSession.sendPacket, if_neg (not_not_intro hcreated)]
  simp only [hb, RTPSession.sendRTPData, if_neg hsend]
  rfl

/-- What a session needs for slices of its size. -/
structure Fits (s : RTPSession) : Prop where
  created : s.created = true
  init : s.packetbuilder.init = true
  csrcs : s.packetbuilder.csrcs.length ≤ RTP_MAXCSRCS
  room : packetLength s.packetbuilder.csrcs.length (s.sliceDataMaxSize + 2) ≤
    s.packetbuilder.maxpacksize
  trans : s.packetbuilder.maxpacksize ≤ s.transMaxpacksize

theorem Ready.fits {s : RTPSession} (h : Ready s) : Fits s where
  created := h.created
  init := h.init
  csrcs := h.csrcs
  room := by
    have hroom := h.room
    have hcsrcs := h.csrcs
    simp only [RTP_MAXCSRCS] at hcsrcs
    simp only [packetLength]
    omega
  trans := h.trans

theorem sendOne_fits {s : RTPSession} (h : Fits s) (pt : UInt8) (r : SendRequest) :
    Fits (sendOne pt s r) :=
  ⟨h.created, h.init, h.csrcs, h.room, h.trans⟩

theorem sendPacket_ok {s : RTPSession} (h : Fits s) {pt : UInt8} (hpt : ValidPayloadType pt)
    (r : SendRequest) (hlen : r.data.length ≤ s.sliceDataMaxSize + 2) :
    s.sendPacket r.data pt r.mark r.timestampinc = (.ok (), sendOne pt s r) := by
  have hroom := h.room
  apply sendPacket_fits h.created h.init h.csrcs h.trans hpt r
  simp only [packetLength] at hroom ⊢
  omega

/-- The request of slicing step `step` of `n`. -/
def sliceRequest (max : ℕ) (data : List UInt8) (timestampinc : UInt32) (naluHeader : UInt8)
    (n step : ℕ) : SendRequest :=
  let body := (data.drop (step * max)).take max
  if step = 0 then
    ⟨fuIndicator naluHeader :: fuStart naluHeader :: body, false, timestampinc⟩
  else if step = n - 1 then ⟨fuIndicator naluHeader :: fuEnd naluHeader :: body, true, 0⟩
  else ⟨fuIndicator naluHeader :: fuMiddle naluHeader :: body, false, 0⟩

theorem sliceRequest_length (max : ℕ) (data : List UInt8) (timestampinc : UInt32)
    (naluHeader : UInt8) (n step : ℕ) :
    (sliceRequest max data timestampinc naluHeader n step).data.length ≤ max + 2 := by
  have hbody : ((data.drop (step * max)).take max).length ≤ max := List.length_take_le _ _
  simp only [sliceRequest]
  split_ifs <;> simp only [List.length_cons] <;> omega

def sliceCount (max len : ℕ) : ℕ := len / max + if len % max = 0 then 0 else 1

theorem sliceCount_cover {max : ℕ} (hmax : 0 < max) (len : ℕ) : len ≤ sliceCount max len * max := by
  have h := Nat.div_add_mod len max
  have hlt := Nat.mod_lt len hmax
  rw [Nat.mul_comm] at h
  simp only [sliceCount]
  split_ifs
  · rw [Nat.add_zero]; omega
  · rw [Nat.add_mul, Nat.one_mul]; omega

/-- A first step, a last one, and those in between. -/
theorem range_split (k : ℕ) :
    List.range (k + 2) = 0 :: ((List.range k).map Nat.succ ++ [k + 1]) := by
  rw [List.range_succ, List.range_succ_eq_map, List.cons_append]

theorem sliceCount_pred {max len : ℕ} (hmax : 0 < max) (hlt : max < len) :
    2 ≤ sliceCount max len ∧ (sliceCount max len - 1) * max < len := by
  have h := Nat.div_add_mod len max
  have hpos : 1 ≤ len / max := Nat.div_pos hlt.le hmax
  rw [Nat.mul_comm] at h
  simp only [sliceCount]
  split_ifs with hm
  · have h2 : 2 ≤ len / max := by
      by_contra hc
      have h1 : len / max = 1 := by omega
      rw [h1] at h
      omega
    refine ⟨h2, ?_⟩
    rw [Nat.add_zero, Nat.sub_mul, Nat.one_mul]
    have := Nat.mul_le_mul_right max hpos
    omega
  · refine ⟨by omega, ?_⟩
    rw [Nat.add_sub_cancel]
    omega

/-- The last step copies the remainder, which is all that is left. -/
theorem last_body {max : ℕ} (hmax : 0 < max) {data : List UInt8} {n : ℕ}
    (hn : n = sliceCount max data.length) (hm : data.length % max ≠ 0) :
    (data.drop ((n - 1) * max)).take (data.length % max) =
      (data.drop ((n - 1) * max)).take max := by
  have h := Nat.div_add_mod data.length max
  have hlt := Nat.mod_lt data.length hmax
  have hn1 : n - 1 = data.length / max := by
    rw [hn, sliceCount, if_neg hm, Nat.add_sub_cancel]
  have hlen : (data.drop ((n - 1) * max)).length = data.length % max := by
    rw [List.length_drop, hn1, Nat.mul_comm]
    omega
  rw [List.take_of_length_le hlen.le, List.take_of_length_le (by omega)]

variable {pt : UInt8} (timestampinc : UInt32) (naluHeader : UInt8)

/-- What one step of the loop sends, whichever branch it takes. -/
theorem sliceLoop_succ {s s' : RTPSession} {status : Status} (hmax : 0 < s.sliceDataMaxSize)
    {data : List UInt8} {n remaining : ℕ}
    (hn : n = sliceCount s.sliceDataMaxSize data.length) (hlt : remaining < n) {r : SendRequest}
    (hr : r = sliceRequest s.sliceDataMaxSize data timestampinc naluHeader n (n - (remaining + 1)))
    (hsend : s.sendPacket r.data pt r.mark r.timestampinc = (status, s')) :
    sliceLoop data pt timestampinc naluHeader n (data.length % s.sliceDataMaxSize : ℕ)
        (remaining + 1) s =
      status.toOption.bind fun _ ↦
        sliceLoop data pt timestampinc naluHeader n (data.length % s.sliceDataMaxSize : ℕ)
          remaining s' := by
  subst hr
  simp only [sliceLoop]
  by_cases h0 : n - (remaining + 1) = 0
  · simp only [sliceRequest, h0, if_true, Nat.zero_mul, List.drop_zero] at hsend ⊢
    rw [hsend]
    cases status <;> rfl
  · by_cases hlast : n - (remaining + 1) = n - 1
    · have hn1 : ¬ n - 1 = 0 := by omega
      by_cases hm : data.length % s.sliceDataMaxSize = 0
      · simp only [sliceRequest, hlast, hn1, hm, if_true, if_false, Nat.cast_zero] at hsend ⊢
        rw [hsend]
        cases status <;> rfl
      · have hl : ¬ ((data.length % s.sliceDataMaxSize : ℕ) : ℤ) = 0 := by omega
        have hbody := last_body hmax hn hm
        simp only [sliceRequest, hlast, hn1, hl, if_true, if_false, Int.toNat_natCast,
          hbody] at hsend ⊢
        rw [hsend]
        cases status <;> rfl
    · simp only [sliceRequest, h0, hlast, if_false] at hsend ⊢
      rw [hsend]
      cases status <;> rfl

theorem sliceLoop_eq {data : List UInt8} {n : ℕ} (hpt : ValidPayloadType pt) (remaining : ℕ) :
    ∀ {s : RTPSession}, Fits s → 0 < s.sliceDataMaxSize →
      n = sliceCount s.sliceDataMaxSize data.length → remaining ≤ n →
      sliceLoop data pt timestampinc naluHeader n (data.length % s.sliceDataMaxSize : ℕ)
          remaining s =
        some (sendAll pt s ((List.range' (n - remaining) remaining).map
          (sliceRequest s.sliceDataMaxSize data timestampinc naluHeader n))) := by
  induction remaining with
  | zero => intro s _ _ _ _; rfl
  | succ remaining ih =>
    intro s h hmax hn hle
    have hsend := sendPacket_ok h hpt _ (sliceRequest_length s.sliceDataMaxSize data timestampinc
      naluHeader n (n - (remaining + 1)))
    have hstep := sliceLoop_succ timestampinc naluHeader hmax hn hle rfl hsend
    have hrest := ih (sendOne_fits h pt (sliceRequest s.sliceDataMaxSize data timestampinc
      naluHeader n (n - (remaining + 1)))) hmax hn (by omega)
    have hidx : n - (remaining + 1) + 1 = n - remaining := by omega
    rw [sendOne_sliceDataMaxSize] at hrest
    rw [hstep, List.range'_succ, List.map_cons, sendAll_cons, hidx]
    exact hrest

/-- The packets asked for when one buffer is sent. -/
def sendRequests (max : ℕ) (data : List UInt8) (mark : Bool) (timestampinc : UInt32) :
    List SendRequest :=
  if data.length ≤ max then [⟨data, mark, timestampinc⟩]
  else
    (List.range (sliceCount max data.length)).map
      (sliceRequest max data timestampinc (data.getD 4 0) (sliceCount max data.length))

theorem toInt32_count {max len : ℕ} (hlen : len ≤ INT_MAX) :
    toInt32 (len / max) + (if toInt32 (len % max) = 0 then 0 else 1) = (sliceCount max len : ℕ) := by
  have hdiv := toInt32_of_le ((Nat.div_le_self len max).trans hlen)
  have hmod := toInt32_of_le ((Nat.mod_le len max).trans hlen)
  rw [hdiv, hmod, sliceCount]
  by_cases hm : len % max = 0
  · simp [hm]
  · have hm' : ((len % max : ℕ) : ℤ) ≠ 0 := by exact_mod_cast hm
    rw [if_neg hm, if_neg hm', Nat.cast_add, Nat.cast_one]

/-- A buffer that is too long for one packet goes through the loop. -/
theorem sendPacketAfterSlice_sliced {s : RTPSession} (hcreated : s.created = true)
    {data : List UInt8} (hlen : data.length ≤ INT_MAX) (hlarge : s.sliceDataMaxSize < data.length)
    (hheader : 5 ≤ data.length) (mark : Bool) (timestampinc : UInt32) :
    s.sendPacketAfterSlice data pt mark timestampinc =
      (sliceLoop data pt timestampinc (data.getD 4 0) (sliceCount s.sliceDataMaxSize data.length)
        (data.length % s.sliceDataMaxSize : ℕ) (sliceCount s.sliceDataMaxSize data.length) s).map
          fun s ↦ (.ok (), s) := by
  have hget : data[4]? = some (data.getD 4 0) := by
    rw [List.getD_eq_getElem?_getD, List.getElem?_eq_getElem (by omega), Option.getD_some]
  have hmod := toInt32_of_le ((Nat.mod_le data.length s.sliceDataMaxSize).trans hlen)
  have hn : (toInt32 (data.length / s.sliceDataMaxSize) +
      if toInt32 (data.length % s.sliceDataMaxSize) = 0 then 0 else 1) =
      (sliceCount s.sliceDataMaxSize data.length : ℕ) := toInt32_count hlen
  simp only [RTPSession.sendPacketAfterSlice, hcreated, not_true_eq_false, if_false]
  rw [if_pos hlarge, hget]
  simp only [hn, Int.toNat_natCast]
  rw [hmod]

/-- One that is not is sent as it is. -/
theorem sendPacketAfterSlice_whole {s : RTPSession} (hcreated : s.created = true)
    {data : List UInt8} (hsmall : data.length ≤ s.sliceDataMaxSize) (mark : Bool)
    (timestampinc : UInt32) :
    s.sendPacketAfterSlice data pt mark timestampinc =
      some (.ok (), (s.sendPacket data pt mark timestampinc).2) := by
  simp only [RTPSession.sendPacketAfterSlice, hcreated, not_true_eq_false, if_false]
  rw [if_neg (by omega)]

/-- Slicing a buffer whose length is an `int`: the process survives, and the
packets are those of `sendRequests`, in order. -/
theorem sendPacketAfterSlice_eq {s : RTPSession} (h : Fits s) (hpt : ValidPayloadType pt)
    (hmax : 0 < s.sliceDataMaxSize) {data : List UInt8} (hlen : data.length ≤ INT_MAX)
    (hheader : s.sliceDataMaxSize < data.length → 5 ≤ data.length) (mark : Bool)
    (timestampinc : UInt32) :
    s.sendPacketAfterSlice data pt mark timestampinc =
      some (.ok (), sendAll pt s (sendRequests s.sliceDataMaxSize data mark timestampinc)) := by
  by_cases hle : data.length ≤ s.sliceDataMaxSize
  · have hsend := sendPacket_ok h hpt ⟨data, mark, timestampinc⟩ (show data.length ≤ _ by omega)
    rw [sendPacketAfterSlice_whole h.created hle, hsend, sendRequests, if_pos hle]
    rfl
  · have hlarge := Nat.not_le.mp hle
    rw [sendPacketAfterSlice_sliced h.created hlen hlarge (hheader hlarge),
      sliceLoop_eq _ _ hpt _ h hmax rfl le_rfl, Nat.sub_self, ← List.range_eq_range',
      Option.map_some, sendRequests, if_neg hle]

/-- The packets a builder makes of a list of requests. -/
def packets (pt : UInt8) : RTPPacketBuilder → List SendRequest → List RTPPacket
  | _, [] => []
  | b, r :: rs => b.packet r.data pt r.mark :: packets pt (b.next r.data r.timestampinc) rs

theorem sendAll_sent (pt : UInt8) (s : RTPSession) (rs : List SendRequest) :
    (sendAll pt s rs).sent = s.sent ++ packets pt s.packetbuilder rs := by
  induction rs generalizing s with
  | nil => simp [packets]
  | cons r rs ih =>
    rw [sendAll_cons, ih, packets]
    simp [sendOne]

theorem packets_payload (pt : UInt8) (b : RTPPacketBuilder) (rs : List SendRequest) :
    (packets pt b rs).map RTPPacket.payload = rs.map SendRequest.data := by
  induction rs generalizing b with
  | nil => rfl
  | cons r rs ih => simp only [packets, List.map_cons, ih]; rfl

def nextAll (b : RTPPacketBuilder) (rs : List SendRequest) : RTPPacketBuilder :=
  rs.foldl (fun b r ↦ b.next r.data r.timestampinc) b

theorem sendAll_packetbuilder (pt : UInt8) (s : RTPSession) (rs : List SendRequest) :
    (sendAll pt s rs).packetbuilder = nextAll s.packetbuilder rs := by
  induction rs generalizing s with
  | nil => rfl
  | cons r rs ih => rw [sendAll_cons, ih]; rfl

theorem packets_append (pt : UInt8) (b : RTPPacketBuilder) (rs rs' : List SendRequest) :
    packets pt b (rs ++ rs') = packets pt b rs ++ packets pt (nextAll b rs) rs' := by
  induction rs generalizing b with
  | nil => rfl
  | cons r rs ih => simp only [List.cons_append, packets, ih]; rfl

/-- The packets of a run of calls, call by call. -/
def callPackets (pt : UInt8) (max : ℕ) : RTPPacketBuilder → List SendCall → List (List RTPPacket)
  | _, [] => []
  | b, c :: cs =>
    let rs := sendRequests max c.data true c.timestampinc
    packets pt b rs :: callPackets pt max (nextAll b rs) cs

theorem callPackets_flatten (pt : UInt8) (max : ℕ) (b : RTPPacketBuilder) (cs : List SendCall) :
    (callPackets pt max b cs).flatten =
      packets pt b (cs.flatMap fun c ↦ sendRequests max c.data true c.timestampinc) := by
  induction cs generalizing b with
  | nil => rfl
  | cons c cs ih =>
    simp only [callPackets, List.flatten_cons, List.flatMap_cons, packets_append, ih]

theorem emissions_eq {pt : UInt8} (hpt : ValidPayloadType pt) {cs : List SendCall} :
    ∀ {s : RTPSession}, Ready s → 0 < s.sliceDataMaxSize →
      (∀ c ∈ cs, s.sliceDataMaxSize < c.data.length → 5 ≤ c.data.length) →
      s.emissions pt cs = some (callPackets pt s.sliceDataMaxSize s.packetbuilder cs) := by
  induction cs with
  | nil => intro s _ _ _; rfl
  | cons c cs ih =>
    intro s h hmax hheader
    have hc := sendPacketAfterSlice_eq h.fits hpt hmax c.length_le
      (hheader c List.mem_cons_self) true c.timestampinc
    have hrest := ih (sendAll_ready h pt (sendRequests s.sliceDataMaxSize c.data true c.timestampinc))
      (by rwa [sendAll_sliceDataMaxSize])
      (by rw [sendAll_sliceDataMaxSize]; exact fun c hc ↦ hheader c (List.mem_cons_of_mem _ hc))
    rw [sendAll_sliceDataMaxSize, sendAll_packetbuilder] at hrest
    simp only [RTPSession.emissions, hc, hrest, Option.map_some, sendAll_sent, List.drop_left,
      callPackets]

end VirtualCamera.Rtp.Slices
