import VirtualCamera.Session.Layout

namespace VirtualCamera.Session.Thumbnail

open Library.Fallible Library.Memory Library.Raster Capture Streams Scaling

inductive ThumbError
  | tooBig
  | cropRect
  | croppedLayout
  | outputLayout
  | scale
  deriving DecidableEq, Repr

structure Planes where
  y : Grid
  cb : Grid
  cr : Grid
  deriving DecidableEq, Repr

/-- The planes of `I420Scale` for a destination of this size; chroma is rounded up. -/
def i420Planes (l : YCbCrLayout) (width height : ℕ) : Planes where
  y := ⟨l.y, width, height, toInt32 l.yStride, 1⟩
  cb := ⟨l.cb, (width + 1) / 2, (height + 1) / 2, toInt32 l.cStride, 1⟩
  cr := ⟨l.cr, (width + 1) / 2, (height + 1) / 2, toInt32 l.cStride, 1⟩

/-- A centred rectangle of the size that the `float`s have given. -/
def inputCrop (inSz cropSz : Size) : Rect :=
  let centred (whole part : ℕ) : ℤ := 2 * (((whole : ℤ) - part) % 2 ^ 32 / 4)
  ⟨centred inSz.width cropSz.width, centred inSz.height cropSz.height, toInt32 cropSz.width,
    toInt32 cropSz.height⟩

def wrongCrop (inSz : Size) (crop : Rect) : Prop :=
  crop.top < 0 ∨ toInt32 inSz.height ≤ crop.top ∨ crop.left < 0 ∨ toInt32 inSz.width ≤ crop.left ∨
    crop.width ≤ 0 ∨ toInt32 inSz.width < int32 (crop.width + crop.left) ∨
    crop.height ≤ 0 ∨ toInt32 inSz.height < int32 (crop.height + crop.top)

instance (inSz : Size) (crop : Rect) : Decidable (wrongCrop inSz crop) :=
  inferInstanceAs (Decidable (_ ∨ _ ∨ _ ∨ _ ∨ _ ∨ _ ∨ _ ∨ _))

/-- The areas are compared in 32 bits. -/
def tooBig (thumb : AllocatedFrame) (outSz : Size) : Prop :=
  Size.area ⟨thumb.width, thumb.height⟩ < outSz.area

instance (thumb : AllocatedFrame) (outSz : Size) : Decidable (tooBig thumb outSz) :=
  Nat.decLt _ _

/-- `I420Scale` takes `int`s and refuses a size that is not positive. -/
def scalable (outSz : Size) : Prop := 0 < toInt32 outSz.width ∧ 0 < toInt32 outSz.height

instance (outSz : Size) : Decidable (scalable outSz) :=
  inferInstanceAs (Decidable (_ ∧ _))

/-- With the planes that were written. `i420Scale` is whether the library accepts the source. -/
def cropAndScaleThumbLocked (thumb inFrame : AllocatedFrame) (outSz cropSz : Size)
    (i420Scale : Bool) : Except ThumbError (YCbCrLayout × Planes) := do
  let inSz : Size := ⟨inFrame.width, inFrame.height⟩
  if tooBig thumb outSz then throw .tooBig
  let crop := inputCrop inSz cropSz
  if wrongCrop inSz crop then throw .cropRect
  let _ ← orError .croppedLayout (getCroppedLayout inFrame crop)
  let outFullLayout ← orError .outputLayout (getLayout thumb)
  if scalable outSz ∧ i420Scale then
    return (outFullLayout, i420Planes outFullLayout outSz.width outSz.height)
  else throw .scale

/-- A plane that is scaled into is a part of one of the frame's planes, and in its allocation. -/
structure InPlane (thumb : AllocatedFrame) (g : Grid) (width height : ℕ) : Prop where
  width : g.width ≤ width
  height : g.height ≤ height
  within : g.Within 0 thumb.dataSize

structure Inside (thumb : AllocatedFrame) (planes : Planes) : Prop where
  y : InPlane thumb planes.y thumb.width thumb.height
  cb : InPlane thumb planes.cb (thumb.width / 2) (thumb.height / 2)
  cr : InPlane thumb planes.cr (thumb.width / 2) (thumb.height / 2)

/-- The last samples are in the allocation. They are when the frame's size did not wrap. -/
def LastInside (thumb : AllocatedFrame) (outSz : Size) : Prop :=
  (thumb.width ≤ INT_MAX ∨ outSz.height = 1) ∧
    thumb.width * (outSz.height - 1) + outSz.width ≤ thumb.dataSize ∧
    Size.area ⟨thumb.width, thumb.height⟩ + Size.area ⟨thumb.width, thumb.height⟩ / 4 +
      thumb.width / 2 * ((outSz.height + 1) / 2 - 1) + (outSz.width + 1) / 2 ≤ thumb.dataSize

def Fits (thumb : AllocatedFrame) (outSz : Size) : Prop :=
  outSz.width ≤ thumb.width ∧ outSz.height ≤ thumb.height ∧ LastInside thumb outSz

variable {f thumb : AllocatedFrame} {outSz : Size}

theorem toInt32_even_iff (n : ℕ) : toInt32 n % 2 = (n : ℤ) % 2 := by
  unfold toInt32 int32
  rw [Int.bmod_def]
  split <;> omega

theorem getLayout_allocated (h : f.allocate = (true, thumb)) :
    getLayout thumb = some (Layout.allocateLayout thumb) ∧ thumb.width = f.width ∧
      thumb.height = f.height ∧ f.width % 2 = 0 ∧ f.height % 2 = 0 ∧
      thumb.dataSize = f.width * f.height * 3 % 2 ^ 32 / 2 := by
  unfold AllocatedFrame.allocate at h
  split at h
  · cases h
  · rename_i heven
    cases h
    push Not at heven
    refine ⟨?_, rfl, rfl, heven.1, heven.2, rfl⟩
    have hw := toInt32_even_iff f.width
    have hh := toInt32_even_iff f.height
    have hsum (n : ℕ) : int32 (0 + toInt32 n) = toInt32 n := by
      rw [Int.zero_add]
      exact int32_of_range (int32_range n).1 (int32_range n).2
    unfold getLayout getCroppedLayout
    rw [if_neg (by dsimp only; rw [hsum, hsum]; omega)]
    simp [Layout.allocateLayout]

theorem cropAndScaleThumbLocked_ok {inFrame : AllocatedFrame} {cropSz : Size} {i420Scale : Bool}
    {l : YCbCrLayout} {planes : Planes} (halloc : f.allocate = (true, thumb))
    (h : cropAndScaleThumbLocked thumb inFrame outSz cropSz i420Scale = .ok (l, planes)) :
    ¬ tooBig thumb outSz ∧ scalable outSz ∧
      planes = i420Planes (Layout.allocateLayout thumb) outSz.width outSz.height := by
  have hlayout := (getLayout_allocated halloc).1
  unfold cropAndScaleThumbLocked at h
  by_cases hbig : tooBig thumb outSz
  · simp only [hbig, if_true] at h
    cases h
  · simp only [hbig, if_false] at h
    refine ⟨hbig, ?_⟩
    by_cases hcrop : wrongCrop ⟨inFrame.width, inFrame.height⟩
        (inputCrop ⟨inFrame.width, inFrame.height⟩ cropSz)
    · simp only [hcrop, if_true] at h
      cases h
    · simp only [hcrop, if_false] at h
      obtain ⟨-, -, h⟩ := bind_eq_ok.mp h
      obtain ⟨outFullLayout, hout, h⟩ := bind_eq_ok.mp h
      rw [orError_eq_ok, hlayout] at hout
      cases hout
      split at h
      · rename_i hscale
        cases h
        exact ⟨hscale.1, rfl⟩
      · cases h

/-- Any size that passes the check and that the library takes is scaled into, from some frame. -/
theorem cropAndScaleThumbLocked_runs (halloc : f.allocate = (true, thumb))
    (hbig : ¬ tooBig thumb outSz) (hscalable : scalable outSz) :
    cropAndScaleThumbLocked thumb ⟨2, 2, 6⟩ outSz ⟨2, 2⟩ true =
      .ok (Layout.allocateLayout thumb,
        i420Planes (Layout.allocateLayout thumb) outSz.width outSz.height) := by
  have hlayout := (getLayout_allocated halloc).1
  have hcrop : ¬ wrongCrop ⟨2, 2⟩ (inputCrop ⟨2, 2⟩ ⟨2, 2⟩) := by decide
  have hcropped : getCroppedLayout ⟨2, 2, 6⟩ (inputCrop ⟨2, 2⟩ ⟨2, 2⟩) = some ⟨0, 2, 4, 5, 1, 1⟩ := by
    decide
  unfold cropAndScaleThumbLocked
  simp only [hbig, hcrop, hcropped, hlayout, hscalable, if_false, and_true, if_true]
  rfl

theorem luma_within_iff {W D : ℕ} (hW : W < 2 ^ 32) {w h : ℕ} (hw : 0 < w) (hh : 0 < h) :
    (⟨0, w, h, toInt32 W, 1⟩ : Grid).Within 0 D ↔
      (W ≤ INT_MAX ∨ h = 1) ∧ W * (h - 1) + w ≤ D := by
  by_cases hsmall : W ≤ INT_MAX
  · rw [toInt32_of_le hsmall, Grid.within_iff_last le_rfl Int.one_nonneg (Int.natCast_nonneg W) hw hh]
    have hcell : (⟨0, w, h, W, 1⟩ : Grid).cell (w - 1) (h - 1) = (W * (h - 1) + (w - 1) : ℕ) := by
      simp only [Grid.cell]
      push_cast
      ring
    rw [hcell, Int.ofNat_lt]
    exact ⟨fun hlt ↦ ⟨.inl hsmall, by omega⟩, fun hlt ↦ by omega⟩
  · have hneg : toInt32 W < 0 := by
      unfold INT_MAX at hsmall
      rw [toInt32, int32, Int.bmod_def]
      split <;> omega
    constructor
    · intro hwithin
      have hone : h = 1 := by
        by_contra hne
        have hcell := (hwithin 0 1 hw (by dsimp only; omega)).1
        simp only [Grid.cell, Nat.cast_zero, Nat.cast_one] at hcell
        omega
      have hlast := (hwithin (w - 1) 0 (by dsimp only; omega) hh).2
      simp only [Grid.cell, Nat.cast_zero] at hlast
      refine ⟨.inr hone, ?_⟩
      rw [hone, Nat.sub_self, Nat.mul_zero]
      omega
    · rintro ⟨hor, hle⟩ x y hx hy
      have hone : h = 1 := hor.resolve_left hsmall
      have hy0 : y = 0 := by
        dsimp only at hy
        omega
      rw [hone, Nat.sub_self, Nat.mul_zero] at hle
      dsimp only at hx
      simp only [Grid.cell, hy0, Nat.cast_zero]
      omega

theorem chroma_within_iff {c D : ℕ} (base : ℕ) (hc : c ≤ INT_MAX) {w h : ℕ} (hw : 0 < w) (hh : 0 < h) :
    (⟨base, w, h, toInt32 c, 1⟩ : Grid).Within 0 D ↔ base + c * (h - 1) + w ≤ D := by
  rw [toInt32_of_le hc, Grid.within_iff_last (Int.natCast_nonneg base) Int.one_nonneg
    (Int.natCast_nonneg c) hw hh]
  have hcell : (⟨base, w, h, c, 1⟩ : Grid).cell (w - 1) (h - 1) =
      (base + c * (h - 1) + (w - 1) : ℕ) := by
    simp only [Grid.cell]
    push_cast
    ring
  rw [hcell, Int.ofNat_lt]
  omega

theorem inside_iff (halloc : f.allocate = (true, thumb)) (hw : f.width < 2 ^ 32)
    (hpos : 0 < outSz.width ∧ 0 < outSz.height) :
    Inside thumb (i420Planes (Layout.allocateLayout thumb) outSz.width outSz.height) ↔
      Fits thumb outSz := by
  obtain ⟨-, hwidth, hheight, hw2, hh2, -⟩ := getLayout_allocated halloc
  rw [← hwidth] at hw hw2
  rw [← hheight] at hh2
  have hhalf : thumb.width / 2 ≤ INT_MAX := by
    unfold INT_MAX
    omega
  have hluma := luma_within_iff (D := thumb.dataSize) hw hpos.1 hpos.2
  have hchroma (base : ℕ) := chroma_within_iff (D := thumb.dataSize) base hhalf
    (w := (outSz.width + 1) / 2) (h := (outSz.height + 1) / 2) (by omega) (by omega)
  constructor
  · intro h
    have hcr := (hchroma _).mp h.cr.within
    obtain ⟨hstride, hlast⟩ := hluma.mp h.y.within
    exact ⟨h.y.width, h.y.height, hstride, hlast, hcr⟩
  · intro hcond
    obtain ⟨hwle, hhle, hstride, hlast, hcr⟩ := hcond
    have hcw : (outSz.width + 1) / 2 ≤ thumb.width / 2 := by omega
    have hch : (outSz.height + 1) / 2 ≤ thumb.height / 2 := by omega
    -- Cb ends before Cr does.
    have hcb : Size.area ⟨thumb.width, thumb.height⟩ +
        thumb.width / 2 * ((outSz.height + 1) / 2 - 1) + (outSz.width + 1) / 2 ≤ thumb.dataSize := by
      omega
    exact ⟨⟨hwle, hhle, hluma.mpr ⟨hstride, hlast⟩⟩, ⟨hcw, hch, (hchroma _).mpr hcb⟩,
      ⟨hcw, hch, (hchroma _).mpr hcr⟩⟩

theorem fits_of_le (halloc : f.allocate = (true, thumb)) (hsize : f.width * f.height * 3 < 2 ^ 32)
    (hpos : 0 < outSz.width ∧ 0 < outSz.height) (hw : outSz.width ≤ thumb.width)
    (hh : outSz.height ≤ thumb.height) : Fits thumb outSz := by
  obtain ⟨-, hwidth, hheight, hw2, hh2, hdata⟩ := getLayout_allocated halloc
  rw [Nat.mod_eq_of_lt hsize] at hdata
  rw [← hwidth] at hdata hsize hw2
  rw [← hheight] at hdata hsize hh2
  obtain ⟨a, ha⟩ := Nat.dvd_of_mod_eq_zero hw2
  obtain ⟨b, hb⟩ := Nat.dvd_of_mod_eq_zero hh2
  have hproduct : thumb.width * thumb.height = 4 * (a * b) := by
    rw [ha, hb]
    ring
  have harea : Size.area ⟨thumb.width, thumb.height⟩ = 4 * (a * b) := by
    unfold Size.area
    dsimp only
    rw [Nat.mod_eq_of_lt (by omega), hproduct]
  have hbpos : 0 < b := by omega
  have haab : a ≤ a * b := Nat.le_mul_of_pos_right a hbpos
  have hluma : thumb.width * (outSz.height - 1) + thumb.width ≤ thumb.width * thumb.height := by
    rw [← Nat.mul_succ]
    exact Nat.mul_le_mul_left _ (by omega)
  have hchroma : a * ((outSz.height + 1) / 2 - 1) + a ≤ a * b := by
    rw [← Nat.mul_succ]
    exact Nat.mul_le_mul_left _ (by omega)
  have hhalf : thumb.width / 2 = a := by omega
  refine ⟨hw, hh, .inl ?_, by omega, ?_⟩
  · unfold INT_MAX
    omega
  · rw [harea, hhalf]
    omega

/-- The planes of a thumbnail are in the frame exactly when its size is refused, or fits in both
directions: the check compares areas. -/
theorem thumb_inside_iff (halloc : f.allocate = (true, thumb)) (hw : f.width < 2 ^ 32) :
    (∀ inFrame cropSz i420Scale l planes,
      cropAndScaleThumbLocked thumb inFrame outSz cropSz i420Scale = .ok (l, planes) →
        Inside thumb planes) ↔
      tooBig thumb outSz ∨ ¬ scalable outSz ∨ Fits thumb outSz := by
  have hpos (h : scalable outSz) : 0 < outSz.width ∧ 0 < outSz.height := by
    obtain ⟨hw, hh⟩ := h
    have hzero : toInt32 0 = 0 := rfl
    constructor
    · by_contra hnot
      rw [Nat.eq_zero_of_not_pos hnot, hzero] at hw
      exact absurd hw (Int.lt_irrefl 0)
    · by_contra hnot
      rw [Nat.eq_zero_of_not_pos hnot, hzero] at hh
      exact absurd hh (Int.lt_irrefl 0)
  constructor
  · intro h
    by_cases hbig : tooBig thumb outSz
    · exact .inl hbig
    · by_cases hscalable : scalable outSz
      · have hruns := cropAndScaleThumbLocked_runs halloc hbig hscalable
        exact .inr (.inr ((inside_iff halloc hw (hpos hscalable)).mp (h _ _ _ _ _ hruns)))
      · exact .inr (.inl hscalable)
  · intro h inFrame cropSz i420Scale l planes hok
    obtain ⟨hbig, hscalable, rfl⟩ := cropAndScaleThumbLocked_ok halloc hok
    obtain hbig' | hrefused | hfits := h
    · exact absurd hbig' hbig
    · exact absurd hscalable hrefused
    · exact (inside_iff halloc hw (hpos hscalable)).mpr hfits

theorem thumb_inside_small : AllocatedFrame.allocate ⟨320, 240, 0⟩ = (true, ⟨320, 240, 115200⟩) ∧
    ∀ inFrame cropSz i420Scale l planes,
      cropAndScaleThumbLocked ⟨320, 240, 115200⟩ inFrame ⟨160, 120⟩ cropSz i420Scale =
          .ok (l, planes) →
        Inside ⟨320, 240, 115200⟩ planes := by
  have halloc : AllocatedFrame.allocate ⟨320, 240, 0⟩ = (true, ⟨320, 240, 115200⟩) := by decide
  exact ⟨halloc, (thumb_inside_iff halloc (by decide)).mpr (.inr (.inr (fits_of_le halloc (by decide)
    (by decide) (by decide) (by decide))))⟩

/-- One that stands upright has the same area, and ends behind the allocation. -/
theorem upright_thumb_outside : ∃ l planes,
    AllocatedFrame.allocate ⟨320, 240, 0⟩ = (true, ⟨320, 240, 115200⟩) ∧
      cropAndScaleThumbLocked ⟨320, 240, 115200⟩ ⟨640, 480, 460800⟩ ⟨240, 320⟩ ⟨360, 480⟩ true =
        .ok (l, planes) ∧
      planes.cr.cell 119 159 = 121559 ∧ ¬ Inside ⟨320, 240, 115200⟩ planes := by
  refine ⟨⟨0, 320, 76800, 96000, 160, 1⟩, ⟨⟨0, 240, 320, 320, 1⟩, ⟨76800, 120, 160, 160, 1⟩,
    ⟨96000, 120, 160, 160, 1⟩⟩, by decide, by decide +kernel, by decide, fun h ↦ ?_⟩
  exact absurd h.y.height (by decide)

end VirtualCamera.Session.Thumbnail
