import VirtualCamera.Decoder.Model

namespace VirtualCamera.Decoder.Nodes

open Library.Memory Model

/-! ### What a node holds -/

/-- The recorded size is the size of the block. -/
structure Sized (b : BufferData) : Prop where
  block : ∀ block, b.head = some block → block.length = sizeT b.maxLen
  lower : -2 ^ 31 ≤ b.maxLen
  upper : b.maxLen < 2 ^ 31

/-- The node is filled in for `p`, but for the bytes. -/
structure Prepared (p : Packet) (b : BufferData) : Prop where
  mediaType : b.mediaType = some p.mediaType
  len : b.len = p.data.length
  timestamp : b.timestamp = p.timestamp
  block : ∃ block off, b.head = some block ∧ b.data = some off ∧
    (p.mediaType = .video → off + 5 ≤ block.length ∨ 5 ≤ p.data.length)

/-- The node holds `p`. -/
structure Stored (p : Packet) (b : BufferData) : Prop where
  mediaType : b.mediaType = some p.mediaType
  len : b.len = p.data.length
  timestamp : b.timestamp = p.timestamp
  bytes : b.bytes 0 p.data.length = some p.data
  header : p.mediaType = .video → (b.bytes 4 1).isSome

theorem sized_zero : Sized .zero := ⟨fun _ h ↦ (by cases h), by decide, by decide⟩

theorem Sized.ensure {b : BufferData} (h : Sized b) {want : ℤ} (hl : -2 ^ 31 ≤ want)
    (hu : want < 2 ^ 31) :
    Sized (b.ensure want) ∧ want ≤ (b.ensure want).maxLen ∧
      ∃ block, (b.ensure want).head = some block := by
  have hfresh : ∀ block, some (malloc want) = some block → block.length = sizeT want := by
    intro block hblock
    rw [← Option.some.inj hblock, malloc, List.length_replicate]
  cases hhead : b.head with
  | none =>
    have heq : b.ensure want = { b with head := some (malloc want), maxLen := want } := by
      simp [BufferData.ensure, hhead]
    rw [heq]
    exact ⟨⟨hfresh, hl, hu⟩, le_rfl, _, rfl⟩
  | some block =>
    by_cases hlt : b.maxLen < want
    · have heq : b.ensure want =
          { b with head := some (malloc want), data := none, maxLen := want } := by
        simp [BufferData.ensure, hhead, hlt]
      rw [heq]
      exact ⟨⟨hfresh, hl, hu⟩, le_rfl, _, rfl⟩
    · have heq : b.ensure want = b := by
        simp [BufferData.ensure, hhead, hlt]
      rw [heq]
      exact ⟨h, by omega, block, hhead⟩

theorem ensure_needRead (b : BufferData) (want : ℤ) : (b.ensure want).needRead = b.needRead := by
  simp only [BufferData.ensure]
  split_ifs <;> rfl

theorem prepare_needRead (b : BufferData) (sps pps : ℕ) (p : Packet) :
    (b.prepare sps pps p).needRead = b.needRead := by
  simp only [BufferData.prepare]
  split <;> exact ensure_needRead _ _

/-- A video block has room for the header, unless its size is out of an `int`. -/
theorem header_room {b : BufferData} (h : Sized b) {block : List UInt8} (hhead : b.head = some block)
    {len : ℕ} (hle : int32 (len + 256) ≤ b.maxLen) : 5 ≤ block.length ∨ 5 ≤ len := by
  by_cases hlen : 5 ≤ len
  · exact .inr hlen
  · have hint : int32 (len + 256) = len + 256 := int32_of_range (by omega) (by omega)
    rw [hint] at hle
    have hsize := h.block block hhead
    rw [sizeT_of_nonneg (by omega) h.upper] at hsize
    exact .inl (by omega)

theorem Sized.prepare {b : BufferData} (h : Sized b) (p : Packet) :
    Sized (b.prepare 0 0 p) ∧ Prepared p (b.prepare 0 0 p) := by
  have hlen := p.length_le
  simp only [INT_MAX] at hlen
  cases hm : p.mediaType with
  | video =>
    have hrange := int32_range (p.data.length + 256)
    obtain ⟨hs, hle, block, hblock⟩ := h.ensure hrange.1 hrange.2
    have heq : b.prepare 0 0 p = { b.ensure (int32 (p.data.length + 256)) with
        mediaType := some .video, len := p.data.length, timestamp := p.timestamp,
        data := some 0 } := by
      simp [BufferData.prepare, hm]
    rw [heq]
    refine ⟨⟨hs.block, hs.lower, hs.upper⟩, by rw [hm], rfl, rfl, block, 0, hblock, rfl, fun _ ↦ ?_⟩
    rw [Nat.zero_add]
    exact header_room hs hblock hle
  | audio =>
    have hlower : -2 ^ 31 ≤ (p.data.length : ℤ) := by omega
    obtain ⟨hs, hle, block, hblock⟩ := h.ensure hlower (by omega)
    have heq : b.prepare 0 0 p = { b.ensure p.data.length with
        mediaType := some .audio, len := p.data.length, timestamp := p.timestamp,
        data := some 0 } := by
      simp [BufferData.prepare, hm]
    rw [heq]
    refine ⟨⟨hs.block, hs.lower, hs.upper⟩, by rw [hm], rfl, rfl, block, 0, hblock, rfl, ?_⟩
    intro hvideo
    rw [hm] at hvideo
    cases hvideo

theorem Prepared.copy {p : Packet} {b b' : BufferData} (h : Prepared p b) (hs : Sized b)
    (hcopy : b.copy p.data = some b') : Stored p b' ∧ Sized b' ∧ b'.needRead = b.needRead := by
  obtain ⟨block, off, hblock, hoff, hroom⟩ := h.block
  simp only [BufferData.copy, hblock, hoff, Option.map_eq_some_iff] at hcopy
  obtain ⟨block', hmem, rfl⟩ := hcopy
  obtain ⟨hle, -⟩ := memcpy_eq_some hmem
  have hlen := memcpy_length hmem
  have htake := memcpy_take hmem
  refine ⟨⟨h.mediaType, h.len, h.timestamp, ?_, ?_⟩, ⟨?_, hs.lower, hs.upper⟩, rfl⟩
  · have hbytes : (block'.drop off).take p.data.length = p.data := by
      have hoffset : (block.take off).length = off := by
        rw [List.length_take]
        omega
      have hdrop := congrArg (List.drop off) htake
      rwa [List.drop_take, Nat.add_sub_cancel_left, List.drop_left' hoffset] at hdrop
    simp only [BufferData.bytes, Nat.add_zero, if_pos (hlen ▸ hle), hbytes]
  · intro hvideo
    have hfit : off + 4 + 1 ≤ block'.length := by
      rcases hroom hvideo with hroom | hroom <;> omega
    simp only [BufferData.bytes, if_pos hfit, Option.isSome_some]
  · intro c hc
    rw [← Option.some.inj hc, hlen]
    exact hs.block block hblock

theorem Stored.congr {p : Packet} {b b' : BufferData} (h : Stored p b) (hhead : b'.head = b.head)
    (hdata : b'.data = b.data) (hm : b'.mediaType = b.mediaType) (hl : b'.len = b.len)
    (ht : b'.timestamp = b.timestamp) : Stored p b' := by
  have hbytes : b'.bytes = b.bytes := by
    funext i len
    simp only [BufferData.bytes, hhead, hdata]
  exact ⟨hm.trans h.mediaType, hl.trans h.len, ht.trans h.timestamp, hbytes ▸ h.bytes,
    hbytes ▸ h.header⟩

/-- Decoding a node reads exactly the packet it holds. -/
theorem Stored.decodeNode {p : Packet} {b : BufferData} (h : Stored p b) :
    decodeNode b = some (some p.decoded) := by
  have hread : (if b.data.isNone ∨ b.len = 0 then some [] else b.bytes 0 b.len) = some p.data := by
    rw [h.len]
    split
    · rename_i hnone
      rcases hnone with hnone | hzero
      · have hbytes := h.bytes
        have hdata : b.data = none := Option.isNone_iff_eq_none.mp hnone
        simp only [BufferData.bytes, hdata] at hbytes
        cases hh : b.head <;> rw [hh] at hbytes <;> cases hbytes
      · rw [List.length_eq_zero_iff.mp hzero]
    · exact h.bytes
  cases hm : p.mediaType with
  | video =>
    obtain ⟨d, hd⟩ := Option.isSome_iff_exists.mp (h.header hm)
    simp only [Model.decodeNode, h.mediaType, hm, decodeVideoNode, hd, hread, Option.map_some,
      h.timestamp, Packet.decoded]
  | audio =>
    simp only [Model.decodeNode, h.mediaType, hm, decodeAudioNode, hread, Option.map_some,
      h.timestamp, Packet.decoded]

end VirtualCamera.Decoder.Nodes
