import VirtualCamera.Rtp.Source

namespace VirtualCamera.Rtp.Delivery

open Library.Reorder Library.Unwrap Packet SourceStats Source

variable {T A : Type}

/-- The packets of a sender by their numbers: only the low 16 bits are in a packet. -/
def Numbered (pk : ℕ → RTPPacket) : Prop :=
  ∀ n, (pk n).extseqnr = (UInt16.ofNat n).toUInt32

/-- A packet with its whole number. -/
def stamped (pk : ℕ → RTPPacket) (n : ℕ) : RTPPacket := { pk n with extseqnr := UInt32.ofNat n }

/-- Packets come for a source, at any times. -/
def receive (pk : ℕ → RTPPacket) (s : RTPSourceData T A) (arrivals : List (ℕ × T)) :
    RTPSourceData T A :=
  arrivals.foldl (fun s a ↦ (s.processRTPPacket (pk a.1) a.2 false).source) s

/-- A source that was validated, with the highest number of its packets. -/
structure Following (s : RTPSourceData T A) (h : ℕ) : Prop where
  validated : s.validated = true
  stats : Tracked s.stats h

theorem seqnr_toNat (n : ℕ) : (UInt16.ofNat n).toNat = n % SEQ_MOD := UInt16.toNat_ofNat'

theorem processPacket_extend {st : RTPSourceStats T} {h n : ℕ} (hst : Tracked st h)
    (ht : Tracks SEQ_MOD h n) {p : RTPPacket} (hp : p.extseqnr = (UInt16.ofNat n).toUInt32) (t : T)
    (own prob : Bool) :
    Tracked (st.processPacket p t own prob).stats (max h n) ∧
      (st.processPacket p t own prob).pack = { p with extseqnr := UInt32.ofNat n } := by
  have hnum : number SEQ_MOD h (UInt16.ofNat n).toNat = n := by
    rw [seqnr_toNat]
    exact (number_eq_iff (by decide) h n).mpr ht
  obtain ⟨-, htracked, hpack⟩ := processPacket_tracked hst hp t own prob
  rw [hnum] at htracked hpack
  exact ⟨htracked, hpack⟩

/-- A packet near the highest one goes to its place in the queue. -/
theorem process_following {s : RTPSourceData T A} {h n : ℕ} (hs : Following s h)
    (ht : Tracks SEQ_MOD h n) {p : RTPPacket} (hp : p.extseqnr = (UInt16.ofNat n).toUInt32)
    (t : T) :
    Following (s.processRTPPacket p t false).source (max h n) ∧
      (s.processRTPPacket p t false).source.packetlist =
        enqueue extkey s.packetlist { p with extseqnr := UInt32.ofNat n } := by
  obtain ⟨hst, hpack⟩ := processPacket_extend hs.stats ht hp t s.ownssrc
    (!s.validated && s.probationtype ≠ .noProbation)
  rw [processRTPPacket_validated hs.validated]
  refine ⟨⟨?_, ?_⟩, congrArg (enqueue extkey s.packetlist) hpack⟩
  · exact (markSender_validated _).trans hs.validated
  · show Tracked (RTPSourceData.markSender _).stats _
    rw [markSender_stats]
    exact hst

theorem receive_following {pk : ℕ → RTPPacket} (hpk : Numbered pk) {arrivals : List (ℕ × T)}
    {s : RTPSourceData T A} {h : ℕ} (hs : Following s h)
    (ht : AllTrack SEQ_MOD h (arrivals.map Prod.fst)) :
    (∃ h', Following (receive pk s arrivals) h') ∧ (receive pk s arrivals).packetlist =
      ((arrivals.map Prod.fst).map (stamped pk)).foldl (enqueue extkey) s.packetlist := by
  induction arrivals generalizing s h with
  | nil => exact ⟨⟨h, hs⟩, rfl⟩
  | cons a arrivals ih =>
    obtain ⟨ha, hrest⟩ := ht
    obtain ⟨hs', hlist⟩ := process_following hs ha (hpk a.1) a.2
    obtain ⟨hfollow, hqueue⟩ := ih hs' hrest
    refine ⟨hfollow, ?_⟩
    rw [hlist] at hqueue
    exact hqueue

section Start

/-- A source that keeps its packets while it is on probation. -/
structure OnProbation (s : RTPSourceData T A) (probation : ℕ) (prevseqnr : UInt16)
    (l : List RTPPacket) : Prop where
  validated : s.validated = false
  probationtype : s.probationtype = .probationStore
  sentdata : s.stats.sentdata = false
  numcycles : s.stats.numcycles = 0
  probation : s.stats.probation = probation
  prevseqnr : s.stats.prevseqnr = prevseqnr
  packetlist : s.packetlist = l

variable {s : RTPSourceData T A} {c : ℕ} {x : UInt16} {l : List RTPPacket}

/-- A packet that is kept for later. -/
theorem OnProbation.hold (h : OnProbation s c x l) (hl : l.length < 32) {p : RTPPacket} {t : T}
    {n : ℕ} (hr : s.processed p t = s.stats.holdPacket p t n) :
    OnProbation (s.processRTPPacket p t false).source n p.extseqnr.toUInt16
      (enqueue extkey l p) := by
  have hbranch : s.processRTPPacket p t false =
      { s with stats := (s.processed p t).stats }.store (s.processed p t).pack false := by
    simp only [RTPSourceData.processRTPPacket, RTPSourceData.byProbation, h.probationtype, hr]
    rfl
  have hfull : ¬ { s with stats := (s.processed p t).stats }.full := by
    rintro ⟨-, hlen⟩
    have : s.packetlist.length = 32 := hlen
    rw [h.packetlist] at this
    omega
  rw [hbranch, store_eq, RTPSourceData.trim, if_neg hfull, hr]
  constructor
  · exact (markSender_validated _).trans h.validated
  · exact (markSender_probationtype _).trans h.probationtype
  · exact (congrArg RTPSourceStats.sentdata (markSender_stats _)).trans h.sentdata
  · exact (congrArg RTPSourceStats.numcycles (markSender_stats _)).trans h.numcycles
  · exact congrArg RTPSourceStats.probation (markSender_stats _)
  · exact congrArg RTPSourceStats.prevseqnr (markSender_stats _)
  · exact congrArg (enqueue extkey · p) h.packetlist

/-- The next expected packet does not end the probation yet. -/
theorem OnProbation.next (h : OnProbation s 2 x l) {p : RTPPacket}
    (hp : p.extseqnr = (x + 1).toUInt32) (t : T) :
    s.processed p t = s.stats.holdPacket p t 1 := by
  simp only [RTPSourceData.processed, RTPSourceStats.processPacket, h.validated, h.probationtype,
    h.sentdata, h.probation, h.prevseqnr, hp]
  rfl

/-- The packet that ends the probation. -/
theorem OnProbation.accept (h : OnProbation s 1 x l) {p : RTPPacket} {t : T}
    (hp : p.extseqnr = (x + 1).toUInt32) :
    Following (s.processRTPPacket p t false).source (firstNumber (x + 1)) ∧
      (s.processRTPPacket p t false).source.packetlist =
        enqueue extkey l { p with extseqnr := UInt32.ofNat (firstNumber (x + 1)) } := by
  have hr : s.processed p t =
      { s.stats with prevseqnr := p.extseqnr.toUInt16, probation := 0 }.acceptPacket p t
        s.ownssrc := by
    simp only [RTPSourceData.processed, RTPSourceStats.processPacket, h.validated,
      h.probationtype, h.sentdata, h.probation, h.prevseqnr, hp]
    rfl
  have hcycles : { s.stats with prevseqnr := p.extseqnr.toUInt16, probation := 0 }.numcycles = 0 :=
    h.numcycles
  obtain ⟨htracked, hnumber⟩ := acceptPacket_tracked hcycles hp t s.ownssrc
  have hbranch : s.processRTPPacket p t false =
      { s with stats := (s.processed p t).stats, validated := true }.store
        (s.processed p t).pack false := by
    simp only [RTPSourceData.processRTPPacket, RTPSourceData.byProbation, h.probationtype, hr]
    rfl
  obtain ⟨htrim, -⟩ := trim_of_validated
    { s with stats := (s.processed p t).stats, validated := true } rfl
  rw [hbranch, store_eq, htrim, hr]
  refine ⟨⟨?_, ?_⟩, ?_⟩
  · exact markSender_validated _
  · show Tracked (RTPSourceData.markSender _).stats _
    rw [markSender_stats]
    exact htracked
  · have hpack : (RTPSourceStats.acceptPacket
        { s.stats with prevseqnr := p.extseqnr.toUInt16, probation := 0 } p t s.ownssrc).pack =
        { p with extseqnr := UInt32.ofNat (firstNumber (x + 1)) } := by
      rw [← hnumber]
      rfl
    simp only [hpack, h.packetlist]

theorem extkey_stamped (pk : ℕ → RTPPacket) {n : ℕ} (hn : n < 2 ^ 32) :
    extkey (stamped pk n) = n := Nat.mod_eq_of_lt hn

theorem stamped_of_lt {pk : ℕ → RTPPacket} (hpk : Numbered pk) {n : ℕ} (hn : n < 2 ^ 16) :
    stamped pk n = pk n := by
  have hnum : UInt32.ofNat n = (pk n).extseqnr := by
    rw [hpk n]
    apply UInt32.toNat_inj.mp
    rw [UInt32.toNat_ofNat', UInt16.toNat_toUInt32, UInt16.toNat_ofNat',
      Nat.mod_eq_of_lt (by omega), Nat.mod_eq_of_lt hn]
  unfold stamped
  rw [hnum]

theorem firstNumber_ofNat {n : ℕ} (hn : n < 2 ^ 16 + 1) (hpos : 0 < n) :
    firstNumber (UInt16.ofNat n) = n := by
  have hmod : (UInt16.ofNat n).toNat = n % 2 ^ 16 := UInt16.toNat_ofNat'
  unfold firstNumber SEQ_MOD
  by_cases hz : UInt16.ofNat n = 0
  · rw [hz] at hmod
    rw [if_pos hz]
    simp only [UInt16.toNat_zero] at hmod
    omega
  · rw [if_neg hz, hmod]
    have hne : n % 2 ^ 16 ≠ 0 := by
      intro h
      apply hz
      apply UInt16.toNat_inj.mp
      rw [hmod, h]
      rfl
    omega

/-- Three packets in a row end the probation of a new source, and none of them is lost. -/
theorem receive_start {pk : ℕ → RTPPacket} (hpk : Numbered pk) (zero : T) (ssrc : UInt32)
    {n : ℕ} (hn : n + 1 < 2 ^ 16) (t₀ t₁ t₂ : T) :
    let s : RTPSourceData T A := receive pk (.new zero ssrc .probationStore)
      [(n, t₀), (n + 1, t₁), (n + 2, t₂)]
    Following s (n + 2) ∧
      s.packetlist = [stamped pk n, stamped pk (n + 1), stamped pk (n + 2)] := by
  intro s
  have hnew : OnProbation (.new zero ssrc .probationStore : RTPSourceData T A) 0 0 [] :=
    ⟨rfl, rfl, rfl, rfl, rfl, rfl, rfl⟩
  have hseq : ∀ k, (pk k).extseqnr.toUInt16 = UInt16.ofNat k := by
    intro k
    rw [hpk k, UInt16.toUInt16_toUInt32]
  have hsucc : ∀ k : ℕ, UInt16.ofNat k + 1 = UInt16.ofNat (k + 1) := by
    intro k
    rw [UInt16.ofNat_add]
    rfl
  have hnext : ∀ k, (pk (k + 1)).extseqnr = (UInt16.ofNat k + 1).toUInt32 := by
    intro k
    rw [hpk (k + 1), hsucc]
  have hkey : ∀ k ≤ n + 2, extkey (stamped pk k) = k := fun k hk ↦ extkey_stamped pk (by omega)
  -- the first packet starts the probation, the second is the next one
  have h₁ := hnew.hold (by decide) (p := pk n) (t := t₀) (n := RTP_PROBATIONCOUNT) rfl
  have hone : enqueue extkey [] (pk n) = [stamped pk n] := by
    rw [stamped_of_lt hpk (by omega)]
    rfl
  rw [hseq, hone] at h₁
  have h₂ := h₁.hold (by simp) (h₁.next (hnext n) t₁)
  have htwo : enqueue extkey [stamped pk n] (pk (n + 1)) = [stamped pk n, stamped pk (n + 1)] := by
    rw [← stamped_of_lt hpk (by omega : n + 1 < 2 ^ 16)]
    apply enqueue_last
    intro b hb
    rw [List.mem_singleton.mp hb, hkey n (by omega), hkey (n + 1) (by omega)]
    omega
  rw [hseq, htwo] at h₂
  -- the third ends it
  obtain ⟨hfollow, hlist⟩ := h₂.accept (t := t₂) (hnext (n + 1))
  rw [hsucc, firstNumber_ofNat (by omega) (by omega)] at hfollow hlist
  refine ⟨hfollow, hlist.trans ?_⟩
  have hthree : enqueue extkey [stamped pk n, stamped pk (n + 1)] (stamped pk (n + 2)) =
      [stamped pk n, stamped pk (n + 1)] ++ [stamped pk (n + 2)] := by
    apply enqueue_last
    intro b hb
    rw [hkey (n + 2) le_rfl]
    obtain rfl | hb := List.mem_cons.mp hb
    · rw [hkey n (by omega)]
      omega
    · rw [List.mem_singleton.mp hb, hkey (n + 1) (by omega)]
      omega
  exact hthree

end Start

section Batches

theorem receive_append (pk : ℕ → RTPPacket) (s : RTPSourceData T A) (a b : List (ℕ × T)) :
    receive pk s (a ++ b) = receive pk (receive pk s a) b := List.foldl_append

/-- Packets come in batches, and after each the queue is fetched. -/
def fetchBatches (pk : ℕ → RTPPacket) (s : RTPSourceData T A) :
    List (List (ℕ × T)) → List (List RTPPacket) × RTPSourceData T A
  | [] => ([], s)
  | b :: bs =>
    let r := (receive pk s b).fetchAll
    let rs := fetchBatches pk r.2 bs
    (r.1 :: rs.1, rs.2)

/-- Each batch brings the next numbers, all of them, in any order and any number of times. -/
def Complete : ℕ → List (List ℕ) → ℕ → Prop
  | k, [], m => k = m
  | k, b :: bs, m => ∃ k', k ≤ k' ∧ (∀ n, n ∈ b ↔ k ≤ n ∧ n < k') ∧ Complete k' bs m

theorem Complete.le {k m : ℕ} {bs : List (List ℕ)} (h : Complete k bs m) : k ≤ m := by
  induction bs generalizing k with
  | nil => exact Nat.le_of_eq h
  | cons b bs ih =>
    obtain ⟨k', hk, -, h⟩ := h
    exact hk.trans (ih h)

theorem allTrack_append {m h : ℕ} {ns ns' : List ℕ} :
    AllTrack m h (ns ++ ns') ↔ AllTrack m h ns ∧ AllTrack m (ns.foldl max h) ns' := by
  induction ns generalizing h with
  | nil => simp [AllTrack]
  | cons n ns ih => simp only [List.cons_append, AllTrack, ih, List.foldl_cons, and_assoc]

/-- The queue after a batch of the next numbers. -/
theorem queue_range {pk : ℕ → RTPPacket} {b : List ℕ} {k k' : ℕ} (hk' : k' ≤ 2 ^ 32)
    (hb : ∀ n, n ∈ b ↔ k ≤ n ∧ n < k') :
    (b.map (stamped pk)).foldl (enqueue extkey) [] = (List.range' k (k' - k)).map (stamped pk) := by
  have hkey : ∀ n ∈ b, extkey (stamped pk n) = n := by
    intro n hn
    have := (hb n).mp hn
    exact extkey_stamped pk (by omega)
  apply enqueueAll_range
  · intro p hp
    obtain ⟨n, hn, rfl⟩ := List.mem_map.mp hp
    rw [hkey n hn]
  · intro n
    rw [← hb n, List.map_map]
    constructor
    · intro hn
      obtain ⟨i, hi, rfl⟩ := List.mem_map.mp hn
      rw [Function.comp_apply, hkey i hi]
      exact hi
    · intro hn
      exact List.mem_map.mpr ⟨n, hn, hkey n hn⟩

theorem following_max {s : RTPSourceData T A} {pk : ℕ → RTPPacket} (hpk : Numbered pk)
    {h : ℕ} (hs : Following s h) {b : List (ℕ × T)}
    (ht : AllTrack SEQ_MOD h (b.map Prod.fst)) :
    Following (receive pk s b) ((b.map Prod.fst).foldl max h) := by
  induction b generalizing s h with
  | nil => exact hs
  | cons a b ih => exact ih (process_following hs ht.1 (hpk a.1) a.2).1 ht.2

/-- A batch, fetched, before the others. -/
theorem fetchBatches_cons {pk : ℕ → RTPPacket} {s : RTPSourceData T A} {b : List (ℕ × T)}
    {bs : List (List (ℕ × T))} {h k k' m : ℕ} (hfollow : Following (receive pk s b) h)
    (hqueue : (receive pk s b).packetlist = (List.range' k (k' - k)).map (stamped pk))
    (hk : k ≤ k') (hk' : k' ≤ m)
    (hrest : (fetchBatches pk { receive pk s b with packetlist := [] } bs).1.flatten =
      (List.range' k' (m - k')).map (stamped pk)) :
    (fetchBatches pk s (b :: bs)).1.flatten = (List.range' k (m - k)).map (stamped pk) := by
  have hfetch := fetchAll_validated hfollow.validated
  have hsplit : List.range' k (m - k) = List.range' k (k' - k) ++ List.range' k' (m - k') := by
    rw [show m - k = (k' - k) + (m - k') by omega, ← List.range'_append_1,
      show k + (k' - k) = k' by omega]
  simp only [fetchBatches, hfetch, List.flatten_cons, hqueue, hrest, hsplit, List.map_append]

theorem fetchBatches_following {pk : ℕ → RTPPacket} (hpk : Numbered pk)
    {bs : List (List (ℕ × T))} {s : RTPSourceData T A} {h k m : ℕ} (hs : Following s h)
    (hempty : s.packetlist = []) (hm : m ≤ 2 ^ 32)
    (ht : AllTrack SEQ_MOD h (bs.map (List.map Prod.fst)).flatten)
    (hc : Complete k (bs.map (List.map Prod.fst)) m) :
    (fetchBatches pk s bs).1.flatten = (List.range' k (m - k)).map (stamped pk) := by
  induction bs generalizing s h k with
  | nil =>
    have hkm : k = m := hc
    simp [fetchBatches, hkm]
  | cons b bs ih =>
    obtain ⟨k', hk, hb, hc⟩ := hc
    have hk' := hc.le
    rw [List.map_cons, List.flatten_cons, allTrack_append] at ht
    obtain ⟨-, hqueue⟩ := receive_following hpk hs ht.1
    have hfollow := following_max hpk hs ht.1
    rw [hempty, queue_range (hk'.trans hm) hb] at hqueue
    exact fetchBatches_cons hfollow hqueue hk hk'
      (ih (s := { receive pk s b with packetlist := [] }) ⟨hfollow.validated, hfollow.stats⟩ rfl
        ht.2 hc)

/-- A stream starts with three packets in a row; whatever order and copies come after,
each packet near the highest one before it, the fetched packets are all packets in order. -/
theorem fetchBatches_new {pk : ℕ → RTPPacket} (hpk : Numbered pk) (zero : T) (ssrc : UInt32)
    {n k m : ℕ} (hn : n + 1 < 2 ^ 16) (hm : m ≤ 2 ^ 32) (t₀ t₁ t₂ : T)
    {b : List (ℕ × T)} {bs : List (List (ℕ × T))}
    (ht : AllTrack SEQ_MOD (n + 2) ((b :: bs).map (List.map Prod.fst)).flatten)
    (hc : Complete k ((((n, t₀) :: (n + 1, t₁) :: (n + 2, t₂) :: b) :: bs).map
      (List.map Prod.fst)) m) :
    (fetchBatches pk (.new zero ssrc .probationStore : RTPSourceData T A)
      (((n, t₀) :: (n + 1, t₁) :: (n + 2, t₂) :: b) :: bs)).1.flatten =
        (List.range' k (m - k)).map (stamped pk) := by
  obtain ⟨hfollow, hlist⟩ := receive_start (A := A) hpk zero ssrc hn t₀ t₁ t₂
  obtain ⟨k', hk, hb, hc⟩ := hc
  have hk' := hc.le
  rw [List.map_cons, List.flatten_cons, allTrack_append] at ht
  have hthree : ([n, n + 1, n + 2].map (stamped pk)).foldl (enqueue extkey) [] =
      [stamped pk n, stamped pk (n + 1), stamped pk (n + 2)] := by
    have hroom : n + 3 ≤ 2 ^ 32 := by omega
    rw [queue_range hroom]
    · rw [show n + 3 - n = 3 by omega]
      rfl
    · intro i
      simp only [List.mem_cons, List.not_mem_nil, or_false]
      omega
  have hreceive := receive_append pk (.new zero ssrc .probationStore : RTPSourceData T A)
    [(n, t₀), (n + 1, t₁), (n + 2, t₂)] b
  obtain ⟨-, hqueue⟩ := receive_following hpk hfollow ht.1
  have hmax := following_max hpk hfollow ht.1
  rw [← hreceive] at hqueue hmax
  have hall : ([n, n + 1, n + 2].map (stamped pk) ++ (b.map Prod.fst).map (stamped pk)).foldl
      (enqueue extkey) [] = (List.range' k (k' - k)).map (stamped pk) := by
    rw [← List.map_append]
    exact queue_range (hk'.trans hm) hb
  rw [List.foldl_append, hthree, ← hlist, ← hqueue] at hall
  exact fetchBatches_cons hmax hall hk hk'
    (fetchBatches_following hpk ⟨hmax.validated, hmax.stats⟩ rfl hm ht.2 hc)

end Batches

end VirtualCamera.Rtp.Delivery
