import VirtualCamera.Library.Unwrap
import VirtualCamera.Rtp.Packet

namespace VirtualCamera.Rtp.SourceStats

open Library.Unwrap Packet

def RTP_PROBATIONCOUNT : ℕ := 2

/-- The jitter, which nothing else is computed from, is left out. `T` is the type of
the times. -/
structure RTPSourceStats (T : Type) where
  sentdata : Bool
  packetsreceived : UInt32
  /-- Shifted left by 16 bits. -/
  numcycles : UInt32
  baseseqnr : UInt32
  exthighseqnr : UInt32
  prevexthighseqnr : UInt32
  prevtimestamp : UInt32
  prevpacktime : T
  lastmsgtime : T
  lastrtptime : T
  lastnotetime : T
  numnewpackets : UInt32
  savedextseqnr : UInt32
  prevseqnr : UInt16
  probation : ℕ
  deriving DecidableEq

variable {T : Type}

/-- `zero` is the time 0. -/
def RTPSourceStats.new (zero : T) : RTPSourceStats T :=
  { sentdata := false, packetsreceived := 0, numcycles := 0, baseseqnr := 0, exthighseqnr := 0,
    prevexthighseqnr := 0, prevtimestamp := 0, prevpacktime := zero, lastmsgtime := zero,
    lastrtptime := zero, lastnotetime := zero, numnewpackets := 0, savedextseqnr := 0,
    prevseqnr := 0, probation := 0 }

structure Processed (T : Type) where
  stats : RTPSourceStats T
  pack : RTPPacket
  accept : Bool
  onprobation : Bool

/-- `ACCEPTPACKETCODE`. -/
def RTPSourceStats.acceptPacket (st : RTPSourceStats T) (pack : RTPPacket) (receivetime : T)
    (ownpacket : Bool) : Processed T :=
  let baseseqnr := if pack.extseqnr = 0 then 0x0000FFFF else pack.extseqnr - 1
  let stats : RTPSourceStats T :=
    { st with
      sentdata := true
      packetsreceived := st.packetsreceived + 1
      numnewpackets := st.numnewpackets + 1
      numcycles := if pack.extseqnr = 0 then 0x00010000 else st.numcycles
      baseseqnr
      exthighseqnr := baseseqnr + 1
      prevpacktime := receivetime
      prevexthighseqnr := baseseqnr
      savedextseqnr := baseseqnr
      prevtimestamp := pack.timestamp
      lastmsgtime := receivetime
      lastrtptime := if ownpacket then st.lastrtptime else receivetime }
  { stats, pack := { pack with extseqnr := baseseqnr + 1 }, accept := true, onprobation := false }

/-- A packet on probation that does not end it. -/
def RTPSourceStats.holdPacket (st : RTPSourceStats T) (pack : RTPPacket) (receivetime : T)
    (probation : ℕ) : Processed T :=
  { stats := { st with probation, prevseqnr := pack.extseqnr.toUInt16, lastmsgtime := receivetime }
    pack, accept := false, onprobation := true }

/-- The number of a packet of a source that was heard before, and the counters after it. -/
def RTPSourceStats.extend (st : RTPSourceStats T) (seqnr : UInt32) :
    UInt32 × UInt32 × UInt32 :=
  let maxseq16 := (st.exthighseqnr &&& 0x0000FFFF).toUInt16
  if seqnr ≥ maxseq16.toUInt32 then
    let extseqnr := st.numcycles + seqnr
    (extseqnr, st.numcycles, extseqnr)
  else
    let dif1 := seqnr.toUInt16 - maxseq16
    let dif2 := maxseq16 - seqnr.toUInt16
    if dif1 < dif2 then
      let numcycles := st.numcycles + 0x00010000
      let extseqnr := numcycles + seqnr
      (extseqnr, numcycles, extseqnr)
    else (st.numcycles + seqnr, st.numcycles, st.exthighseqnr)

def RTPSourceStats.processPacket (st : RTPSourceStats T) (pack : RTPPacket) (receivetime : T)
    (ownpacket applyprobation : Bool) : Processed T :=
  if ¬ st.sentdata then
    if applyprobation then
      if st.probation ≠ 0 then
        if (st.prevseqnr + 1).toUInt32 = pack.extseqnr then
          -- the next expected packet
          if st.probation - 1 = 0 then
            { st with prevseqnr := pack.extseqnr.toUInt16, probation := 0 }.acceptPacket pack
              receivetime ownpacket
          else st.holdPacket pack receivetime (st.probation - 1)
        else st.holdPacket pack receivetime RTP_PROBATIONCOUNT
      else st.holdPacket pack receivetime RTP_PROBATIONCOUNT
    else st.acceptPacket pack receivetime ownpacket
  else
    let (extseqnr, numcycles, exthighseqnr) := st.extend pack.extseqnr
    let stats : RTPSourceStats T :=
      { st with
        packetsreceived := st.packetsreceived + 1
        numnewpackets := st.numnewpackets + 1
        numcycles, exthighseqnr
        prevpacktime := receivetime
        prevtimestamp := pack.timestamp
        lastmsgtime := receivetime
        lastrtptime := if ownpacket then st.lastrtptime else receivetime }
    { stats, pack := { pack with extseqnr }, accept := true, onprobation := false }

/-- What becomes of a packet: it is held on probation, it is the first that is accepted,
or it is one more. -/
theorem processPacket_cases (st : RTPSourceStats T) (pack : RTPPacket) (receivetime : T)
    (ownpacket applyprobation : Bool) :
    (st.sentdata = false ∧ applyprobation = true ∧ ∃ n, st.processPacket pack receivetime ownpacket
        applyprobation = st.holdPacket pack receivetime n) ∨
    (st.sentdata = false ∧ ∃ prevseqnr probation, st.processPacket pack receivetime ownpacket
        applyprobation = { st with prevseqnr, probation }.acceptPacket pack receivetime
          ownpacket) ∨
    st.sentdata = true ∧
      (st.processPacket pack receivetime ownpacket applyprobation).accept = true := by
  unfold RTPSourceStats.processPacket
  cases hsent : st.sentdata with
  | true => exact .inr (.inr ⟨rfl, rfl⟩)
  | false =>
    simp only [Bool.false_eq_true, not_false_eq_true, if_true]
    cases applyprobation with
    | false => exact .inr (.inl ⟨trivial, st.prevseqnr, st.probation, rfl⟩)
    | true =>
      simp only [if_true, true_and]
      split
      · split
        · split
          · exact .inr (.inl ⟨_, _, rfl⟩)
          · exact .inl ⟨_, rfl⟩
        · exact .inl ⟨_, rfl⟩
      · exact .inl ⟨_, rfl⟩

/-- Without probation every packet is accepted. -/
theorem processPacket_accept (st : RTPSourceStats T) (pack : RTPPacket) (receivetime : T)
    (ownpacket : Bool) : (st.processPacket pack receivetime ownpacket false).accept = true := by
  obtain ⟨-, h, -⟩ | ⟨-, _, _, h⟩ | ⟨-, h⟩ :=
    processPacket_cases st pack receivetime ownpacket false
  · cases h
  · rw [h]
    rfl
  · exact h

/-- The sequence numbers in the packets have 16 bits. -/
def SEQ_MOD : ℕ := 2 ^ 16

/-- A source that was heard, with the highest extended number of its packets. -/
structure Tracked (st : RTPSourceStats T) (h : ℕ) : Prop where
  sentdata : st.sentdata = true
  numcycles : st.numcycles = UInt32.ofNat (h / SEQ_MOD * SEQ_MOD)
  exthighseqnr : st.exthighseqnr = UInt32.ofNat h

/-- The number the first accepted packet gets. -/
def firstNumber (seqnr : UInt16) : ℕ := if seqnr = 0 then SEQ_MOD else seqnr.toNat

theorem low16 (h : ℕ) : ((UInt32.ofNat h &&& 0x0000FFFF).toUInt16).toNat = h % SEQ_MOD := by
  rw [UInt32.toNat_toUInt16, UInt32.toNat_and, UInt32.toNat_ofNat']
  have hand : h % 2 ^ 32 &&& (0x0000FFFF : UInt32).toNat = h % 2 ^ 32 % 2 ^ 16 :=
    Nat.and_two_pow_sub_one_eq_mod _ 16
  rw [hand]
  unfold SEQ_MOD
  omega

/-- The accepted packet's number, and the counters it leaves. -/
theorem acceptPacket_tracked {st : RTPSourceStats T} {pack : RTPPacket} {seqnr : UInt16}
    (hcycles : st.numcycles = 0) (hseq : pack.extseqnr = seqnr.toUInt32) (receivetime : T)
    (ownpacket : Bool) :
    Tracked (st.acceptPacket pack receivetime ownpacket).stats (firstNumber seqnr) ∧
      (st.acceptPacket pack receivetime ownpacket).pack.extseqnr =
        UInt32.ofNat (firstNumber seqnr) := by
  have hlt : seqnr.toNat < 2 ^ 16 := seqnr.toNat_lt
  by_cases hz : seqnr = 0
  · subst hz
    refine ⟨⟨rfl, ?_, ?_⟩, ?_⟩
    all_goals
      simp only [RTPSourceStats.acceptPacket, hseq]
      rfl
  · have hz' : seqnr.toUInt32 ≠ 0 := by
      intro h
      have := congrArg UInt32.toNat h
      rw [UInt16.toNat_toUInt32] at this
      exact hz (UInt16.toNat_inj.mp this)
    have hnum : UInt32.ofNat seqnr.toNat = seqnr.toUInt32 := by
      apply UInt32.toNat_inj.mp
      rw [UInt32.toNat_ofNat', UInt16.toNat_toUInt32, Nat.mod_eq_of_lt (by omega)]
    have hcycle : seqnr.toNat / SEQ_MOD * SEQ_MOD = 0 := by
      unfold SEQ_MOD
      omega
    refine ⟨⟨rfl, ?_, ?_⟩, ?_⟩
    · simp only [RTPSourceStats.acceptPacket, hseq, if_neg hz', firstNumber, if_neg hz, hcycle,
        hcycles]
      rfl
    · simp only [RTPSourceStats.acceptPacket, hseq, if_neg hz', firstNumber, if_neg hz, hnum]
      exact UInt32.sub_add_cancel _ _
    · simp only [RTPSourceStats.acceptPacket, hseq, if_neg hz', firstNumber, if_neg hz, hnum]
      exact UInt32.sub_add_cancel _ _

/-- The machine's comparisons are those of the numbers they stand for. -/
theorem extend_tests {h : ℕ} (seqnr : UInt16) {maxseq16 : UInt16}
    (hmax : maxseq16.toNat = h % SEQ_MOD) :
    (seqnr.toUInt32 ≥ maxseq16.toUInt32 ↔ h % SEQ_MOD ≤ seqnr.toNat) ∧
      (¬ h % SEQ_MOD ≤ seqnr.toNat →
        (seqnr - maxseq16 < maxseq16 - seqnr ↔
          seqnr.toNat + SEQ_MOD - h % SEQ_MOD < h % SEQ_MOD - seqnr.toNat)) := by
  have hlt : seqnr.toNat < 2 ^ 16 := seqnr.toNat_lt
  have hlt' : maxseq16.toNat < 2 ^ 16 := maxseq16.toNat_lt
  constructor
  · rw [ge_iff_le, UInt32.le_iff_toNat_le, UInt16.toNat_toUInt32, UInt16.toNat_toUInt32, hmax]
  · intro hlow
    rw [UInt16.lt_iff_toNat_lt, UInt16.toNat_sub, UInt16.toNat_sub, hmax]
    rw [hmax] at hlt'
    unfold SEQ_MOD at *
    omega

theorem extend_eq {st : RTPSourceStats T} {h : ℕ} (hst : Tracked st h) (seqnr : UInt16) :
    st.extend seqnr.toUInt32 =
      (UInt32.ofNat (number SEQ_MOD h seqnr.toNat),
        UInt32.ofNat (max h (number SEQ_MOD h seqnr.toNat) / SEQ_MOD * SEQ_MOD),
        UInt32.ofNat (max h (number SEQ_MOD h seqnr.toNat))) := by
  have hlow := low16 h
  rw [← hst.exthighseqnr] at hlow
  obtain ⟨hge, hdif⟩ := extend_tests seqnr hlow
  have hlt : seqnr.toNat < SEQ_MOD := seqnr.toNat_lt
  have hhigh : h / SEQ_MOD * SEQ_MOD + h % SEQ_MOD = h := Nat.div_add_mod' h SEQ_MOD
  have hhlt : h % SEQ_MOD < SEQ_MOD := Nat.mod_lt h (by decide)
  have hsum : ∀ c : ℕ, UInt32.ofNat c + seqnr.toUInt32 = UInt32.ofNat (c + seqnr.toNat) := by
    intro c
    rw [UInt32.ofNat_add]
    congr 1
    apply UInt32.toNat_inj.mp
    rw [UInt32.toNat_ofNat', UInt16.toNat_toUInt32, Nat.mod_eq_of_lt (hlt.trans (by decide))]
  have hcycle : ∀ c : ℕ, (c * SEQ_MOD + seqnr.toNat) / SEQ_MOD = c := by
    intro c
    rw [Nat.mul_comm, Nat.mul_add_div (by decide), Nat.div_eq_of_lt hlt, Nat.add_zero]
  simp only [RTPSourceStats.extend]
  unfold number
  by_cases hup : h % SEQ_MOD ≤ seqnr.toNat
  · have hmax : max h (h / SEQ_MOD * SEQ_MOD + seqnr.toNat) =
        h / SEQ_MOD * SEQ_MOD + seqnr.toNat := by omega
    rw [if_pos (hge.mpr hup), if_pos hup, hmax, hcycle, hst.numcycles, hsum]
  · rw [if_neg fun h' ↦ hup (hge.mp h'), if_neg hup]
    rw [UInt16.toUInt16_toUInt32]
    by_cases hwrap : seqnr.toNat + SEQ_MOD - h % SEQ_MOD < h % SEQ_MOD - seqnr.toNat
    · have hmul : (h / SEQ_MOD + 1) * SEQ_MOD = h / SEQ_MOD * SEQ_MOD + SEQ_MOD := by
        rw [Nat.add_mul, Nat.one_mul]
      have hmax : max h ((h / SEQ_MOD + 1) * SEQ_MOD + seqnr.toNat) =
          (h / SEQ_MOD + 1) * SEQ_MOD + seqnr.toNat := by omega
      have hnext : UInt32.ofNat (h / SEQ_MOD * SEQ_MOD) + 0x00010000 =
          UInt32.ofNat ((h / SEQ_MOD + 1) * SEQ_MOD) := by
        rw [hmul, UInt32.ofNat_add]
        rfl
      rw [if_pos ((hdif hup).mpr hwrap), if_pos hwrap, hmax, hcycle, hst.numcycles, hnext, hsum]
    · have hmax : max h (h / SEQ_MOD * SEQ_MOD + seqnr.toNat) = h := by omega
      rw [if_neg fun h' ↦ hwrap ((hdif hup).mp h'), if_neg hwrap, hmax, hst.numcycles,
        hst.exthighseqnr, hsum]

theorem processPacket_tracked {st : RTPSourceStats T} {h : ℕ} (hst : Tracked st h)
    {p : RTPPacket} {seqnr : UInt16} (hp : p.extseqnr = seqnr.toUInt32) (t : T)
    (own prob : Bool) :
    (st.processPacket p t own prob).accept = true ∧
      Tracked (st.processPacket p t own prob).stats (max h (number SEQ_MOD h seqnr.toNat)) ∧
      (st.processPacket p t own prob).pack =
        { p with extseqnr := UInt32.ofNat (number SEQ_MOD h seqnr.toNat) } := by
  have hext := extend_eq hst seqnr
  rw [← hp] at hext
  unfold RTPSourceStats.processPacket
  rw [if_neg (by simp [hst.sentdata])]
  simp only [hext]
  exact ⟨trivial, ⟨hst.sentdata, rfl, rfl⟩, trivial⟩

section Numbering

/-- The numbers given to the packets of a source, one after the other. -/
def RTPSourceStats.numberAll (st : RTPSourceStats T) (own : Bool) :
    List (RTPPacket × T) → List UInt32
  | [] => []
  | (p, t) :: ps =>
    let r := st.processPacket p t own false
    r.pack.extseqnr :: r.stats.numberAll own ps

theorem number_lt {h s : ℕ} (hs : s < SEQ_MOD) (hh : h < 2 ^ 32 - 2 ^ 16) :
    number SEQ_MOD h s < 2 ^ 32 := by
  have hdiv : h / SEQ_MOD < 2 ^ 16 - 1 := by
    unfold SEQ_MOD
    omega
  unfold number SEQ_MOD at *
  split
  · omega
  · split <;> omega

theorem numberAll_tracked {st : RTPSourceStats T} {h : ℕ} (hst : Tracked st h)
    (hh : h < 2 ^ 32 - 2 ^ 16) (own : Bool) {ps : List (RTPPacket × T)} {ns : List ℕ}
    (hps : ps.map (fun p ↦ p.1.extseqnr) = ns.map fun n ↦ (UInt16.ofNat n).toUInt32)
    (hns : ∀ n ∈ ns, n < 2 ^ 32 - 2 ^ 16) :
    st.numberAll own ps = ns.map UInt32.ofNat ↔ AllTrack SEQ_MOD h ns := by
  induction ns generalizing st h ps with
  | nil =>
    rw [List.map_nil, List.map_eq_nil_iff] at hps
    subst hps
    exact iff_of_true rfl trivial
  | cons n ns ih =>
    obtain ⟨⟨p, t⟩, ps, rfl, hp, hps⟩ := List.map_eq_cons_iff.mp hps
    obtain ⟨hn, hns⟩ := List.forall_mem_cons.mp hns
    obtain ⟨-, htracked, hpack⟩ := processPacket_tracked hst hp t own false
    have hlow : (UInt16.ofNat n).toNat = n % SEQ_MOD := UInt16.toNat_ofNat'
    have hlt := number_lt (s := n % SEQ_MOD) (Nat.mod_lt n (by decide)) hh
    rw [hlow] at htracked hpack
    have hhead : UInt32.ofNat (number SEQ_MOD h (n % SEQ_MOD)) = UInt32.ofNat n ↔
        Tracks SEQ_MOD h n := by
      rw [← number_eq_iff (by decide) h n]
      constructor
      · intro heq
        have hnat := congrArg UInt32.toNat heq
        have hnlt : n % 2 ^ 32 = n := Nat.mod_eq_of_lt (by omega)
        have hnumlt : number SEQ_MOD h (n % SEQ_MOD) % 2 ^ 32 = number SEQ_MOD h (n % SEQ_MOD) :=
          Nat.mod_eq_of_lt hlt
        rw [UInt32.toNat_ofNat', UInt32.toNat_ofNat', hnumlt, hnlt] at hnat
        exact hnat
      · intro heq
        rw [heq]
    simp only [RTPSourceStats.numberAll, hpack, List.map_cons, List.cons.injEq, AllTrack, hhead]
    apply and_congr_right
    intro ht
    rw [(number_eq_iff (by decide) h n).mpr ht] at htracked
    exact ih htracked (by omega) hps hns

/-- The packets of a source are numbered right exactly when each is near the highest of
those before it: in the same block of 65536 numbers, and not behind by more than half of
them, or in the next block, and ahead by less than half of them. -/
theorem numberAll_iff (zero : T) (own : Bool) {p : RTPPacket} {t : T} {seqnr : UInt16}
    (hp : p.extseqnr = seqnr.toUInt32) {ps : List (RTPPacket × T)} {ns : List ℕ}
    (hps : ps.map (fun p ↦ p.1.extseqnr) = ns.map fun n ↦ (UInt16.ofNat n).toUInt32)
    (hns : ∀ n ∈ ns, n < 2 ^ 32 - 2 ^ 16) :
    (RTPSourceStats.new zero).numberAll own ((p, t) :: ps) =
        (firstNumber seqnr :: ns).map UInt32.ofNat ↔
      AllTrack SEQ_MOD (firstNumber seqnr) ns := by
  obtain ⟨htracked, hnumber⟩ := acceptPacket_tracked
    (show (RTPSourceStats.new zero).numcycles = 0 from rfl) hp t own
  have hfirst : firstNumber seqnr < 2 ^ 32 - 2 ^ 16 := by
    have hlt : seqnr.toNat < 2 ^ 16 := seqnr.toNat_lt
    unfold firstNumber SEQ_MOD
    split <;> omega
  have hrest := numberAll_tracked htracked hfirst own hps hns
  have hnew : (RTPSourceStats.new zero).processPacket p t own false =
      (RTPSourceStats.new zero).acceptPacket p t own := rfl
  simp only [RTPSourceStats.numberAll, hnew, hnumber, List.map_cons, List.cons.injEq, true_and]
  exact hrest

/-- A packet of number 65535 that comes after 65537 is taken for one of the next cycle. -/
theorem numberAll_late :
    ¬ (RTPSourceStats.new 0).numberAll false
        ([65534, 1, 65535].map fun s ↦
          ((RTPPacket.filled 96 [] s 0 0 false [] none, 0) : RTPPacket × ℕ)) =
      ([65534, 65537, 65535] : List ℕ).map UInt32.ofNat := by
  have hlate : ¬ AllTrack SEQ_MOD (firstNumber 65534) [65537, 65535] := by decide
  exact (numberAll_iff 0 false rfl rfl (by decide)).not.mpr hlate

end Numbering

end VirtualCamera.Rtp.SourceStats
