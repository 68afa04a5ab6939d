import VirtualCamera.Decoder.Model
import VirtualCamera.Library.Raster

namespace VirtualCamera.Decoder.Frames

open Library.Memory Library.Raster Model

def AVERROR_EOF : ℤ := -541478725

/-- What a context scales from and to; the two sizes are the same. -/
structure SwsContext where
  width : ℕ
  height : ℕ
  pixFmt : ℤ
  width_pos : 0 < width
  height_pos : 0 < height
  deriving DecidableEq

/-- There is no context for an empty image. -/
def swsGetContext (width height : ℕ) (pixFmt : ℤ) (available : Bool) : Option SwsContext :=
  if h : 0 < width ∧ 0 < height then
    if available then some ⟨width, height, pixFmt, h.1, h.2⟩ else none
  else none

/-- The bytes that are written: all rows of the context's image, `lineSize` apart. -/
def swsScale (c : SwsContext) (lineSize : ℤ) : Grid := ⟨0, 4 * c.width, c.height, lineSize, 1⟩

/-- What the codec answers for one packet, what its context and the frame hold then, and
whether a scaler context can be had. -/
structure CodecOutcome where
  sendPacket : ℤ
  receiveFrame : ℤ
  width : ℕ
  height : ℕ
  pixFmt : ℤ
  frameWidth : ℕ
  swsContext : Bool
  deriving DecidableEq, Repr

/-- A frame that was passed to the callback: the bytes that were written for it, the size of
the buffer, and the arguments. -/
structure Passed where
  written : Grid
  capacity : ℕ
  length : ℤ
  width : ℕ
  height : ℕ
  timestamp : UInt32
  deriving DecidableEq, Repr

/-- What `decode_video_node` uses of the decoder. `rgbData` is the size of the buffer. -/
structure VideoDecoder where
  swsContext : Option SwsContext
  rgbData : ℕ
  callback : Bool
  passed : List Passed
  deriving DecidableEq

def VideoDecoder.create (callback : Bool) : VideoDecoder := ⟨none, 0, callback, []⟩

/-- Context and buffer are made for the first result that is no error. -/
def VideoDecoder.prepareScaler (ad : VideoDecoder) (o : CodecOutcome) : Option VideoDecoder :=
  match ad.swsContext with
  | some _ => some ad
  | none => (swsGetContext o.width o.height o.pixFmt o.swsContext).map fun c ↦
      { ad with swsContext := some c, rgbData := o.width * o.height * 4 % 2 ^ 64 }

def VideoDecoder.scale (ad : VideoDecoder) (timestamp : UInt32) (o : CodecOutcome) :
    VideoDecoder :=
  match ad.swsContext with
  | none => ad
  | some c =>
    if ad.callback then
      { ad with passed := ad.passed ++
          [⟨swsScale c (int32 (o.frameWidth * 4)), ad.rgbData,
            int32 (int32 (o.width * o.height) * 4), o.width, o.height, timestamp⟩] }
    else ad

/-- `data` is what is read of the node. -/
def VideoDecoder.decodeVideoNode (ad : VideoDecoder) (data : List UInt8) (timestamp : UInt32)
    (o : CodecOutcome) : VideoDecoder :=
  if data = [] then ad
  else if o.sendPacket < 0 ∧ o.sendPacket ≠ AVERROR_EOF then ad
  else if o.receiveFrame < 0 ∧ o.receiveFrame ≠ AVERROR_EOF then ad
  else
    match ad.prepareScaler o with
    | none => ad
    | some ad => if o.receiveFrame = 0 then ad.scale timestamp o else ad

/-- An audio node leaves this part alone. -/
def VideoDecoder.decodeNode (ad : VideoDecoder) (d : Decoded) (o : CodecOutcome) : VideoDecoder :=
  match d.mediaType with
  | .video => ad.decodeVideoNode d.data d.timestamp o
  | .audio => ad

def VideoDecoder.decodeNodes (ad : VideoDecoder) (nodes : List (Decoded × CodecOutcome)) :
    VideoDecoder :=
  nodes.foldl (fun ad node ↦ ad.decodeNode node.1 node.2) ad

/-! ### What is passed on -/

/-- The frame lies within the buffer, and the arguments describe a packed image that consists
of the bytes that were written. -/
structure Described (p : Passed) : Prop where
  within : p.written.Within 0 p.capacity
  width : p.written.width = 4 * p.width
  height : p.written.height = p.height
  place : ∀ x y, x < 4 * p.width → y < p.height →
    p.written.cell x y = (packed 0 (4 * p.width) p.height).cell x y
  bytes : ∀ k, p.written.Covers k ↔ 0 ≤ k ∧ k < p.length

def VideoDecoder.context (ad : VideoDecoder) (o : CodecOutcome) : Option SwsContext :=
  ad.swsContext.or (swsGetContext o.width o.height o.pixFmt o.swsContext)

/-- The codec and the frame have the size of the context, and the size in bytes is an `int`. A
frame of one row may have another width. -/
structure Matches (c : SwsContext) (o : CodecOutcome) : Prop where
  width : o.width = c.width
  height : o.height = c.height
  lineSize : int32 (o.frameWidth * 4) = 4 * c.width ∨ c.height = 1
  size : 4 * c.width * c.height ≤ INT_MAX

structure Passes (ad : VideoDecoder) (d : Decoded) (o : CodecOutcome) : Prop where
  video : d.mediaType = .video
  data : d.data ≠ []
  sendPacket : o.sendPacket < 0 → o.sendPacket = AVERROR_EOF
  receiveFrame : o.receiveFrame = 0
  callback : ad.callback = true

/-- A frame that is passed on has the size of the context. -/
def SameSize (ad : VideoDecoder) (d : Decoded) (o : CodecOutcome) : Prop :=
  Passes ad d o → ∀ c, ad.context o = some c → Matches c o

def passedWith (c : SwsContext) (timestamp : UInt32) (o : CodecOutcome) : Passed :=
  ⟨swsScale c (int32 (o.frameWidth * 4)), c.width * c.height * 4 % 2 ^ 64,
    int32 (int32 (o.width * o.height) * 4), o.width, o.height, timestamp⟩

variable {c : SwsContext} {o : CodecOutcome} {timestamp : UInt32}

theorem passedWith_capacity :
    (passedWith c timestamp o).capacity = c.width * c.height * 4 % 2 ^ 64 := rfl

theorem passedWith_length :
    (passedWith c timestamp o).length = int32 (int32 (o.width * o.height) * 4) := by
  simp only [passedWith]

theorem int32_mul_int32 (z k : ℤ) : int32 (int32 z * k) = int32 (z * k) := by
  simp [int32]

theorem length_eq (h : Matches c o) :
    int32 (int32 (o.width * o.height) * 4) = (4 * o.width * o.height : ℕ) := by
  have hsize := h.size
  rw [← h.width, ← h.height] at hsize
  have hcast : (o.width * o.height * 4 : ℤ) = (4 * o.width * o.height : ℕ) := by
    push_cast
    ring
  unfold INT_MAX at hsize
  rw [int32_mul_int32, hcast]
  exact int32_of_range (by omega) (by omega)

theorem capacity_eq (h : Matches c o) :
    c.width * c.height * 4 % 2 ^ 64 = 4 * o.width * o.height := by
  have hsize := h.size
  have hcomm : c.width * c.height * 4 = 4 * c.width * c.height := by ring
  unfold INT_MAX at hsize
  rw [h.width, h.height, hcomm]
  exact Nat.mod_eq_of_lt (by omega)

/-- Rows that are written where a packed image has them take its range of bytes. -/
theorem covers_of_place {p : Passed} (hwidth : p.written.width = 4 * p.width)
    (hheight : p.written.height = p.height)
    (hplace : ∀ x y, x < 4 * p.width → y < p.height →
      p.written.cell x y = (packed 0 (4 * p.width) p.height).cell x y) (k : ℤ) :
    p.written.Covers k ↔ 0 ≤ k ∧ k < (4 * p.width * p.height : ℕ) := by
  have hcongr : p.written.Covers k ↔ (packed 0 (4 * p.width) p.height).Covers k := by
    apply Grid.covers_congr
    · exact hwidth
    · exact hheight
    · rw [hwidth, hheight]
      exact hplace
  rw [hcongr, packed_covers, zero_add]

theorem described_of_matches (h : Matches c o) : Described (passedWith c timestamp o) := by
  have hwidth : 4 * c.width = 4 * o.width := by rw [h.width]
  have hplace : ∀ x y, x < 4 * o.width → y < o.height →
      (swsScale c (int32 (o.frameWidth * 4))).cell x y =
        (packed 0 (4 * o.width) o.height).cell x y := by
    intro x y _ hy
    rcases h.lineSize with hline | hone
    · simp only [Grid.cell, swsScale, packed, hline, h.width, Nat.cast_mul, Nat.cast_ofNat]
    · have hzero : y = 0 := by
        rw [h.height] at hy
        omega
      simp only [Grid.cell, swsScale, packed, hzero, Nat.cast_zero, mul_zero]
  have hcovers := covers_of_place (p := passedWith c timestamp o) hwidth h.height.symm hplace
  refine ⟨?_, hwidth, h.height.symm, hplace, fun k ↦ ?_⟩
  · apply Grid.within_iff_covers.mpr
    intro k hk
    have hlt := (hcovers k).mp hk
    rw [passedWith_capacity, capacity_eq h]
    exact hlt
  · rw [passedWith_length, length_eq h]
    exact hcovers k

theorem matches_of_described (h : Described (passedWith c timestamp o)) : Matches c o := by
  have hwidth : 4 * c.width = 4 * o.width := h.width
  have hheight : c.height = o.height := h.height
  have hpos := c.width_pos
  have hpos' := c.height_pos
  constructor
  · omega
  · exact hheight.symm
  · by_cases hone : c.height = 1
    · exact .inr hone
    · have hrow : (swsScale c (int32 (o.frameWidth * 4))).cell 0 1 =
          (packed 0 (4 * o.width) o.height).cell 0 1 :=
        h.place 0 1 (show 0 < 4 * o.width by omega) (show 1 < o.height by omega)
      simp [Grid.cell, swsScale, packed] at hrow
      left
      omega
  · have hlast : 0 < 4 * o.width * o.height := Nat.mul_pos (by omega) (by omega)
    have hcovers := covers_of_place h.width h.height h.place (4 * o.width * o.height - 1 : ℕ)
    have hend : ((4 * o.width * o.height - 1 : ℕ) : ℤ) < (4 * o.width * o.height : ℕ) := by
      omega
    have hlt := ((h.bytes _).mp (hcovers.mpr ⟨by omega, hend⟩)).2
    rw [passedWith_length] at hlt
    have hrange := (int32_range (int32 (o.width * o.height) * 4)).2
    have hsame : 4 * c.width * c.height = 4 * o.width * o.height := by rw [hwidth, hheight]
    unfold INT_MAX
    omega

theorem described_iff : Described (passedWith c timestamp o) ↔ Matches c o :=
  ⟨matches_of_described, described_of_matches⟩

/-! ### Runs -/

/-- The buffer is as large as the context's image. -/
def Sized (ad : VideoDecoder) : Prop :=
  ∀ c, ad.swsContext = some c → ad.rgbData = c.width * c.height * 4 % 2 ^ 64

theorem create_sized (callback : Bool) : Sized (.create callback) := fun _ h ↦ by cases h

variable {ad ad' : VideoDecoder} {d : Decoded}

theorem swsGetContext_eq_some {width height : ℕ} {pixFmt : ℤ} {available : Bool}
    (h : swsGetContext width height pixFmt available = some c) :
    c.width = width ∧ c.height = height := by
  unfold swsGetContext at h
  split at h
  · split at h
    · cases h
      exact ⟨rfl, rfl⟩
    · cases h
  · cases h

/-- What there is afterwards: the context that is used, and its buffer. -/
theorem prepareScaler_spec (h : Sized ad) :
    (ad.context o = none ∧ ad.prepareScaler o = none) ∨
    ∃ c, ad.context o = some c ∧ ad.prepareScaler o = some { ad with
      swsContext := some c, rgbData := c.width * c.height * 4 % 2 ^ 64 } := by
  cases hctx : ad.swsContext with
  | some c =>
    right
    refine ⟨c, by rw [VideoDecoder.context, hctx]; rfl, ?_⟩
    have hsame : { ad with
        swsContext := some c, rgbData := c.width * c.height * 4 % 2 ^ 64 } = ad := by
      rw [← h c hctx, ← hctx]
    rw [hsame, VideoDecoder.prepareScaler, hctx]
  | none =>
    have hcontext : ad.context o = swsGetContext o.width o.height o.pixFmt o.swsContext := by
      rw [VideoDecoder.context, hctx]
      rfl
    rw [hcontext, VideoDecoder.prepareScaler, hctx]
    cases hnew : swsGetContext o.width o.height o.pixFmt o.swsContext with
    | none => exact .inl ⟨rfl, rfl⟩
    | some c =>
      obtain ⟨hwidth, hheight⟩ := swsGetContext_eq_some hnew
      right
      refine ⟨c, rfl, ?_⟩
      rw [hwidth, hheight]
      rfl

/-- One node: what it passes on, if anything, and the buffer keeps its size. -/
structure Decodes (ad : VideoDecoder) (d : Decoded) (o : CodecOutcome) (ad' : VideoDecoder) :
    Prop where
  sized : Sized ad'
  callback : ad'.callback = ad.callback
  passed : (∃ c, Passes ad d o ∧ ad.context o = some c ∧
      ad'.passed = ad.passed ++ [passedWith c d.timestamp o]) ∨
    ((Passes ad d o → ad.context o = none) ∧ ad'.passed = ad.passed)

theorem Decodes.skip (h : Sized ad) (hskip : Passes ad d o → ad.context o = none) :
    Decodes ad d o ad := ⟨h, rfl, .inr ⟨hskip, rfl⟩⟩

theorem decodeVideoNode_decodes (h : Sized ad) (hvideo : d.mediaType = .video) :
    Decodes ad d o (ad.decodeVideoNode d.data d.timestamp o) := by
  unfold VideoDecoder.decodeVideoNode
  split
  · exact .skip h fun hp ↦ absurd ‹_› hp.data
  · split
    · rename_i hsend
      exact .skip h fun hp ↦ absurd (hp.sendPacket hsend.1) hsend.2
    · split
      · rename_i hreceive
        exact .skip h fun hp ↦ absurd (hp.receiveFrame ▸ hreceive.1) (lt_irrefl 0)
      · rename_i hdata hsend hreceive
        rcases prepareScaler_spec (o := o) h with ⟨hnone, hprepare⟩ | ⟨c, hctx, hprepare⟩
        · rw [hprepare]
          exact .skip h fun _ ↦ hnone
        · rw [hprepare]
          dsimp only
          split
          · rename_i hframe
            unfold VideoDecoder.scale
            dsimp only
            split
            · rename_i hcallback
              refine ⟨fun c' hc' ↦ ?_, rfl, .inl ⟨c, ⟨hvideo, hdata, ?_, hframe, hcallback⟩, hctx, rfl⟩⟩
              · obtain rfl := Option.some.inj hc'
                rfl
              · exact fun hneg ↦ by_contra fun hne ↦ hsend ⟨hneg, hne⟩
            · rename_i hcallback
              refine ⟨fun c' hc' ↦ ?_, rfl, .inr ⟨fun hp ↦ absurd hp.callback hcallback, rfl⟩⟩
              obtain rfl := Option.some.inj hc'
              rfl
          · rename_i hframe
            refine ⟨fun c' hc' ↦ ?_, rfl, .inr ⟨fun hp ↦ absurd hp.receiveFrame hframe, rfl⟩⟩
            obtain rfl := Option.some.inj hc'
            rfl

theorem decodeNode_decodes (h : Sized ad) : Decodes ad d o (ad.decodeNode d o) := by
  unfold VideoDecoder.decodeNode
  cases hm : d.mediaType with
  | video => exact decodeVideoNode_decodes h hm
  | audio =>
    apply Decodes.skip h
    intro hp
    cases hm.symm.trans hp.video

/-- A node adds only described frames exactly when its frame has the size of the context. -/
theorem Decodes.described (h : Decodes ad d o ad') :
    (∀ p ∈ ad'.passed, Described p) ↔ (∀ p ∈ ad.passed, Described p) ∧ SameSize ad d o := by
  rcases h.passed with ⟨c, hp, hctx, hpassed⟩ | ⟨hnone, hpassed⟩
  · have hsame : SameSize ad d o ↔ Matches c o := by
      constructor
      · exact fun hs ↦ hs hp c hctx
      · intro hm _ c' hc'
        rw [← Option.some.inj (hctx.symm.trans hc')]
        exact hm
    rw [hpassed, List.forall_mem_append, List.forall_mem_singleton, described_iff, hsame]
  · have hsame : SameSize ad d o := by
      intro hp c hc
      cases (hnone hp).symm.trans hc
    rw [hpassed]
    exact ⟨fun hall ↦ ⟨hall, hsame⟩, fun hall ↦ hall.1⟩

theorem decodeNodes_sized (h : Sized ad) (nodes : List (Decoded × CodecOutcome)) :
    Sized (ad.decodeNodes nodes) := by
  induction nodes generalizing ad with
  | nil => exact h
  | cons node nodes ih => exact ih (decodeNode_decodes h).sized

theorem decodeNodes_append (ad : VideoDecoder) (nodes : List (Decoded × CodecOutcome))
    (node : Decoded × CodecOutcome) :
    ad.decodeNodes (nodes ++ [node]) = (ad.decodeNodes nodes).decodeNode node.1 node.2 := by
  simp only [VideoDecoder.decodeNodes, List.foldl_append, List.foldl_cons, List.foldl_nil]

/-- Whatever is decoded, all frames that are passed on lie in the buffer and are described by
the arguments exactly when each of them has the size of the context that was made first. -/
theorem frames_described_iff (callback : Bool) (nodes : List (Decoded × CodecOutcome)) :
    (∀ p ∈ ((VideoDecoder.create callback).decodeNodes nodes).passed, Described p) ↔
      ∀ done node, done ++ [node] <+: nodes →
        SameSize ((VideoDecoder.create callback).decodeNodes done) node.1 node.2 := by
  induction nodes using List.reverseRecOn with
  | nil =>
    constructor
    · intro _ done node hpre
      have hnil := List.prefix_nil.mp hpre
      cases done <;> cases hnil
    · intro _ p hp
      cases hp
  | append_singleton nodes node ih =>
    have hsized := decodeNodes_sized (create_sized callback) nodes
    rw [decodeNodes_append, (decodeNode_decodes hsized).described, ih]
    constructor
    · rintro ⟨hbefore, hlast⟩ done node' hpre
      rcases List.prefix_concat_iff.mp hpre with heq | hpre
      · obtain ⟨rfl, hnode⟩ := List.append_inj' heq rfl
        obtain rfl := List.singleton_inj.mp hnode
        exact hlast
      · exact hbefore done node' hpre
    · intro hall
      refine ⟨fun done node' hpre ↦ ?_, hall nodes node (List.prefix_refl _)⟩
      exact hall done node' (hpre.trans (List.prefix_append _ _))

/-- A small frame comes first, and then a wider one. -/
def resized : List (Decoded × CodecOutcome) :=
  [(⟨.video, [0, 0, 0, 1, 101], 0⟩, ⟨0, 0, 2, 2, 0, 2, true⟩),
    (⟨.video, [0, 0, 0, 1, 101], 1⟩, ⟨0, 0, 4, 2, 0, 4, true⟩)]

/-- The wider frame is written behind the end of the buffer. -/
theorem resized_overruns : ∃ p, p ∈ ((VideoDecoder.create true).decodeNodes resized).passed ∧
    p.written.Covers 23 ∧ p.capacity = 16 ∧ ¬ Described p := by
  let p : Passed := ⟨⟨0, 8, 2, 16, 1⟩, 16, 32, 4, 2, 1⟩
  have hmem : p ∈ ((VideoDecoder.create true).decodeNodes resized).passed := by decide
  have hcovers : p.written.Covers 23 := ⟨7, 1, by decide, by decide, rfl⟩
  refine ⟨p, hmem, hcovers, rfl, fun h ↦ ?_⟩
  have hlt := (Grid.within_iff_covers.mp h.within 23 hcovers).2
  exact absurd hlt (by decide)

end VirtualCamera.Decoder.Frames
