import VirtualCamera.Rtp.Source

namespace VirtualCamera.Rtp.SourceQueue

open Library.Reorder Packet SourceStats Source

variable {T A : Type}

/-- A source, every packet that came for it, with the number it was given, and where the
packets went that are no more in its queue. -/
structure Holding (T A : Type) where
  source : RTPSourceData T A
  arrived : List RTPPacket
  delivered : List RTPPacket
  deleted : List RTPPacket

inductive Event (T : Type)
  | rtp (rtppack : RTPPacket) (receivetime : T)
  | getNextPacket
  | flushPackets
  | sdes (sdesid : SDESItemType) (data : List UInt8) (receivetime : T)
  | bye (reason : List UInt8) (receivetime : T)
  | message (receivetime : T)
  | setOwnSSRC
  | setCSRC
  | clearSenderFlag

/-- A packet that is not stored is deleted by the caller. -/
def Holding.keep (h : Holding T A) (pack : RTPPacket) (r : Stored T A) : Holding T A :=
  { source := r.source, arrived := h.arrived ++ [pack], delivered := h.delivered,
    deleted := h.deleted ++ r.deleted ++ if r.stored then [] else [pack] }

def Holding.receive (h : Holding T A) (rtppack : RTPPacket) (receivetime : T) : Holding T A :=
  h.keep (h.source.processed rtppack receivetime).pack
    (h.source.processRTPPacket rtppack receivetime false)

def Holding.step (h : Holding T A) : Event T → Holding T A
  | .rtp rtppack receivetime => h.receive rtppack receivetime
  | .getNextPacket =>
    let (p, source) := h.source.getNextPacket
    { h with source, delivered := h.delivered ++ p.toList }
  | .flushPackets =>
    { h with source := h.source.flushPackets, deleted := h.deleted ++ h.source.packetlist }
  | .sdes sdesid data receivetime =>
    { h with source := (h.source.processSDESItem sdesid data receivetime).1 }
  | .bye reason receivetime => { h with source := h.source.processBYEPacket reason receivetime }
  | .message receivetime => { h with source := h.source.updateMessageTime receivetime }
  | .setOwnSSRC => { h with source := h.source.setOwnSSRC }
  | .setCSRC => { h with source := h.source.setCSRC }
  | .clearSenderFlag => { h with source := h.source.clearSenderFlag }

def Holding.new (zero : T) (ssrc : UInt32) (probationtype : ProbationType) : Holding T A :=
  { source := RTPSourceData.new zero ssrc probationtype, arrived := [], delivered := [],
    deleted := [] }

/-- The queue is in the order of the packets' numbers, a source on probation keeps few
packets and gives none away, and each packet is in one place. -/
structure Sound (h : Holding T A) : Prop where
  ordered : Ordered extkey h.source.packetlist
  bounded : h.source.validated = false →
    h.source.packetlist.length ≤ RTPINTERNALSOURCEDATA_MAXPROBATIONPACKETS
  undelivered : h.source.validated = false → h.delivered = []
  kept : h.arrived.Perm (h.source.packetlist ++ h.delivered ++ h.deleted)

theorem sound_new (zero : T) (ssrc : UInt32) (probationtype : ProbationType) :
    Sound (Holding.new zero ssrc probationtype : Holding T A) where
  ordered := List.Pairwise.nil
  bounded := fun _ ↦ Nat.zero_le _
  undelivered := fun _ ↦ rfl
  kept := .refl _

theorem length_enqueue_le (p : RTPPacket) (l : List RTPPacket) :
    (enqueue extkey l p).length ≤ l.length + 1 := by
  unfold enqueue
  cases h : insertKeyed extkey p l with
  | none => simp
  | some l' =>
    rw [Option.getD_some, (insertKeyed_perm h).length_eq, List.length_cons]

theorem trim_sublist (s : RTPSourceData T A) : s.trim.Sublist s.packetlist := by
  unfold RTPSourceData.trim
  split
  · exact List.tail_sublist _
  · exact .refl _

/-- The packet goes to the queue, or is deleted. -/
theorem enqueue_kept (p : RTPPacket) (l : List RTPPacket) :
    (p :: l).Perm (enqueue extkey l p ++
      if (insertKeyed extkey p l).isSome then [] else [p]) := by
  unfold enqueue
  cases h : insertKeyed extkey p l with
  | none => exact (List.perm_append_singleton p l).symm
  | some l' => simpa using (insertKeyed_perm h).symm

theorem store_sound {h : Holding T A} (hs : Sound h) {s : RTPSourceData T A}
    (hlist : s.packetlist = h.source.packetlist)
    (hvalid : s.validated = false → h.source.validated = false) (p : RTPPacket) :
    Sound (h.keep p (s.store p false)) := by
  rw [store_eq]
  constructor
  · exact enqueue_ordered ((hlist ▸ hs.ordered).sublist (trim_sublist s)) p
  · intro hv
    simp only [Holding.keep, markSender_validated] at hv
    have hb := hs.bounded (hvalid hv)
    rw [← hlist] at hb
    refine (length_enqueue_le p s.trim).trans ?_
    unfold RTPSourceData.trim
    have hpos : 0 < RTPINTERNALSOURCEDATA_MAXPROBATIONPACKETS := by decide
    by_cases hfull : s.full
    · rw [if_pos hfull, List.length_tail]
      omega
    · have hlt : s.packetlist.length ≠ RTPINTERNALSOURCEDATA_MAXPROBATIONPACKETS :=
        fun hlen ↦ hfull ⟨by simp [hv], hlen⟩
      rw [if_neg hfull]
      omega
  · intro hv
    simp only [Holding.keep, markSender_validated] at hv
    exact hs.undelivered (hvalid hv)
  · simp only [Holding.keep]
    have hparts := evicted_append_trim s
    have hput := enqueue_kept p s.trim
    have hkept := hs.kept
    rw [← hlist, ← hparts] at hkept
    rw [List.perm_iff_count] at hkept hput ⊢
    intro a
    have hkept := hkept a
    have hput := hput a
    simp only [List.count_append, List.count_cons, List.count_nil] at hkept hput ⊢
    omega

theorem receive_sound {h : Holding T A} (hs : Sound h) (p : RTPPacket) (t : T) :
    Sound (h.receive p t) := by
  let s := { h.source with stats := (h.source.processed p t).stats }
  show Sound (h.keep _ (s.byProbation _ false))
  obtain ⟨-, hr⟩ | ⟨-, hr⟩ := byProbation_cases s (h.source.processed p t) false
  · rw [hr]
    refine ⟨hs.ordered, hs.bounded, hs.undelivered, ?_⟩
    have hkept := hs.kept
    rw [List.perm_iff_count] at hkept ⊢
    intro a
    have hkept := hkept a
    simp only [Holding.keep, List.count_append, List.count_cons, List.count_nil,
      Bool.false_eq_true, if_false, s] at hkept ⊢
    omega
  · rw [hr]
    refine store_sound hs ?_ (fun hv ↦ ?_) _
    · rfl
    · exact (Bool.or_eq_false_iff.mp hv).1

theorem getNextPacket_sound {h : Holding T A} (hs : Sound h) :
    Sound (h.step .getNextPacket) := by
  obtain ⟨hnext, -⟩ | ⟨hv, p, rest, hlist, hnext⟩ := getNextPacket_cases h.source
  · simp only [Holding.step, hnext, Option.toList_none, List.append_nil]
    exact hs
  · have hordered := hs.ordered
    have hkept := hs.kept
    rw [hlist] at hordered hkept
    simp only [Holding.step, hnext]
    refine ⟨(List.pairwise_cons.mp hordered).2, fun h' ↦ ?_, fun h' ↦ ?_, ?_⟩
    · exact absurd (hv.symm.trans h') (by decide)
    · exact absurd (hv.symm.trans h') (by decide)
    · rw [List.perm_iff_count] at hkept ⊢
      intro a
      have hkept := hkept a
      simp only [List.count_append, List.count_cons, Option.toList_some, List.count_nil]
        at hkept ⊢
      omega

/-- A step that leaves the queue and does not take the validation back. -/
theorem Sound.of_source {h : Holding T A} (hs : Sound h) {source : RTPSourceData T A}
    (hlist : source.packetlist = h.source.packetlist)
    (hvalid : source.validated = false → h.source.validated = false) :
    Sound { h with source } where
  ordered := hlist ▸ hs.ordered
  bounded := fun hv ↦ hlist ▸ hs.bounded (hvalid hv)
  undelivered := fun hv ↦ hs.undelivered (hvalid hv)
  kept := hlist ▸ hs.kept

theorem processSDESItem_source (s : RTPSourceData T A) (i : SDESItemType) (data : List UInt8)
    (t : T) : (s.processSDESItem i data t).1.packetlist = s.packetlist ∧
      ((s.processSDESItem i data t).1.validated = false → s.validated = false) := by
  unfold RTPSourceData.processSDESItem
  cases i with
  | cname =>
    simp only
    split
    · exact ⟨rfl, fun h ↦ by cases h⟩
    · exact ⟨rfl, id⟩
  | name =>
    simp only
    split <;> exact ⟨rfl, id⟩
  | email =>
    simp only
    split <;> exact ⟨rfl, id⟩
  | tool =>
    simp only
    split <;> exact ⟨rfl, id⟩
  | phone => exact ⟨rfl, id⟩
  | location => exact ⟨rfl, id⟩
  | note => exact ⟨rfl, id⟩

theorem step_sound {h : Holding T A} (hs : Sound h) (e : Event T) : Sound (h.step e) := by
  cases e with
  | rtp p t => exact receive_sound hs p t
  | getNextPacket => exact getNextPacket_sound hs
  | flushPackets =>
    refine ⟨List.Pairwise.nil, fun _ ↦ Nat.zero_le _, hs.undelivered, ?_⟩
    have hkept := hs.kept
    rw [List.perm_iff_count] at hkept ⊢
    intro a
    have hkept := hkept a
    simp only [Holding.step, RTPSourceData.flushPackets, List.count_append, List.count_nil]
      at hkept ⊢
    omega
  | sdes i data t =>
    have hsource := processSDESItem_source h.source i data t
    exact hs.of_source hsource.1 hsource.2
  | bye reason t => exact hs.of_source rfl id
  | message t => exact hs.of_source rfl id
  | setOwnSSRC => exact hs.of_source rfl fun h ↦ by cases h
  | setCSRC => exact hs.of_source rfl fun h ↦ by cases h
  | clearSenderFlag => exact hs.of_source rfl id

/-- However packets come and are fetched, whatever else is heard of the source. -/
theorem run_sound (zero : T) (ssrc : UInt32) (probationtype : ProbationType)
    (es : List (Event T)) :
    Sound (es.foldl Holding.step (Holding.new zero ssrc probationtype : Holding T A)) := by
  have hstep : ∀ (es : List (Event T)) (h : Holding T A), Sound h →
      Sound (es.foldl Holding.step h) := by
    intro es
    induction es with
    | nil => exact fun _ hs ↦ hs
    | cons e es ih => exact fun h hs ↦ ih _ (step_sound hs e)
  exact hstep es _ (sound_new zero ssrc probationtype)

end VirtualCamera.Rtp.SourceQueue
