import Mathlib.Tactic.FieldSimp
import Mathlib.Tactic.Linarith
import Mathlib.Tactic.Qify
import Mathlib.Tactic.Ring
import VirtualCamera.Mapper.Coordinates

namespace VirtualCamera.Mapper.RotateAndCrop

open Library.Rounding

structure RotateAndCropMapper where
  mArrayWidth : ℤ
  mArrayHeight : ℤ
  deriving DecidableEq, Repr

/-- What `transformPoints` is given: a matrix, a shift and the origin. -/
structure Transform where
  mat0 : ℚ
  mat1 : ℚ
  mat2 : ℚ
  mat3 : ℚ
  xShift : ℚ
  yShift : ℚ
  ox : ℚ
  oy : ℚ
  deriving DecidableEq, Repr

def Transform.apply (t : Transform) (p : Point ℚ) : Point ℚ :=
  let x0 := p.x - t.ox
  let y0 := p.y - t.oy
  ⟨t.mat0 * x0 + t.mat1 * y0 + t.xShift + t.ox, t.mat2 * x0 + t.mat3 * y0 + t.yShift + t.oy⟩

namespace RotateAndCropMapper

variable (m : RotateAndCropMapper) (crop : CropRegion)

def mArrayAspect : ℚ := m.mArrayWidth / m.mArrayHeight

def mRotateAspect : ℚ := 1 / m.mArrayAspect

/-- An entry of another size does not count. -/
def cropRegion (metadata : Metadata) : CropRegion :=
  match metadata.cropRegion with
  | [crop] => crop
  | _ => ⟨0, 0, m.mArrayWidth, m.mArrayHeight⟩

/-- `rw`. -/
def rotatedWidth : ℚ :=
  if (crop.width : ℚ) / crop.height > m.mRotateAspect then crop.height * m.mRotateAspect
  else crop.width

/-- `rh`. -/
def rotatedHeight : ℚ :=
  if (crop.width : ℚ) / crop.height ≥ m.mRotateAspect then crop.height
  else crop.width / m.mRotateAspect

/-- There is none for an unexpected mode. -/
def requestTransform (rotateMode : RotateAndCrop) : Option Transform :=
  let cx : ℚ := crop.left
  let cy : ℚ := crop.top
  let cw : ℚ := crop.width
  let ch : ℚ := crop.height
  let rw' := m.rotatedWidth crop
  let rh := m.rotatedHeight crop
  match rotateMode with
  | .CROP_180 => some ⟨-1, 0, 0, -1, cw, ch, cx, cy⟩
  | .CROP_90 => some ⟨0, -rw' / ch, rh / cw, 0, (cw + rw') / 2, (ch - rh) / 2, cx, cy⟩
  | .CROP_270 => some ⟨0, rw' / ch, -rh / cw, 0, (cw - rw') / 2, (ch + rh) / 2, cx, cy⟩
  | _ => none

def resultTransform (rotateMode : RotateAndCrop) : Option Transform :=
  let cx : ℚ := crop.left
  let cy : ℚ := crop.top
  let cw : ℚ := crop.width
  let ch : ℚ := crop.height
  let rw' := m.rotatedWidth crop
  let rh := m.rotatedHeight crop
  let rx := cx + (cw - rw') / 2
  let ry := cy + (ch - rh) / 2
  match rotateMode with
  | .CROP_180 => some ⟨-1, 0, 0, -1, cw, ch, cx, cy⟩
  | .CROP_90 => some ⟨0, ch / rw', -cw / rh, 0, -(cw - rw') / 2, ry - cy + ch, rx, ry⟩
  | .CROP_270 => some ⟨0, -ch / rw', cw / rh, 0, (cw + rw') / 2, (ch - rh) / 2, rx, ry⟩
  | _ => none

def transformPoint (t : Transform) (p : Point ℤ) : Point ℤ :=
  let n := t.apply ⟨p.x, p.y⟩
  ⟨clamp 0 m.mArrayWidth (stdRound n.x), clamp 0 m.mArrayHeight (stdRound n.y)⟩

def transformRect (t : Transform) (rect : Rect ℤ) : Rect ℤ :=
  (rect.mapCorners (m.transformPoint t)).swapRectToMinFirst

/-- `BAD_VALUE` is no metadata. -/
def updateCaptureRequest (request : Metadata) : Option Metadata :=
  match request.rotateAndCrop with
  | none | some .NONE => some request
  | some rotateMode =>
    (m.requestTransform (m.cropRegion request) rotateMode).map fun t ↦
      request.mapMeteringRegions (m.transformRect t)

def updateCaptureResult (result : Metadata) : Option Metadata :=
  match result.rotateAndCrop with
  | none | some .NONE => some result
  | some rotateMode =>
    (m.resultTransform (m.cropRegion result) rotateMode).map fun t ↦
      { result.mapMeteringRegions (m.transformRect t) with
        faceRectangles := result.faceRectangles.map (m.transformRect t)
        faceLandmarks := result.faceLandmarks.map (m.transformPoint t) }

/-- A point that stays in the array is off by half a pixel at most. -/
theorem transformPoint_near {t : Transform} {p : Point ℤ} {q : Point ℚ}
    (h : t.apply ⟨p.x, p.y⟩ = q) (hx : 0 ≤ q.x ∧ q.x ≤ m.mArrayWidth)
    (hy : 0 ≤ q.y ∧ q.y ≤ m.mArrayHeight) :
    |((m.transformPoint t p).x : ℚ) - q.x| ≤ 1 / 2 ∧
      |((m.transformPoint t p).y : ℚ) - q.y| ≤ 1 / 2 := by
  obtain ⟨hx₁, hx₂⟩ := stdRound_mem (by exact_mod_cast hx.1 : ((0 : ℤ) : ℚ) ≤ q.x) hx.2
  obtain ⟨hy₁, hy₂⟩ := stdRound_mem (by exact_mod_cast hy.1 : ((0 : ℤ) : ℚ) ≤ q.y) hy.2
  simp only [transformPoint, h, clamp_of_mem hx₁ hx₂, clamp_of_mem hy₁ hy₂]
  exact ⟨abs_stdRound_sub_le q.x, abs_stdRound_sub_le q.y⟩

end RotateAndCropMapper

/-! ### Regions that are not rounded -/

def Transform.region (t : Transform) (rect : Rect ℚ) : Rect ℚ :=
  (rect.mapCorners t.apply).swapRectToMinFirst

/-- Each new coordinate is made from the other one of the point. -/
def Transform.Crosses (t : Transform) : Prop := t.mat0 = 0 ∧ t.mat3 = 0

/-- Each new coordinate is made from the same one of the point. -/
def Transform.Straight (t : Transform) : Prop := t.mat1 = 0 ∧ t.mat2 = 0

theorem min_apply_min_max {f : ℚ → ℚ} (a b : ℚ) :
    min (f (min a b)) (f (max a b)) = min (f a) (f b) := by
  rcases le_total a b with h | h
  · rw [min_eq_left h, max_eq_right h]
  · rw [min_eq_right h, max_eq_left h, min_comm]

theorem max_apply_min_max {f : ℚ → ℚ} (a b : ℚ) :
    max (f (min a b)) (f (max a b)) = max (f a) (f b) := by
  rcases le_total a b with h | h
  · rw [min_eq_left h, max_eq_right h]
  · rw [min_eq_right h, max_eq_left h, max_comm]

theorem Transform.Crosses.exists_eq {t : Transform} (h : t.Crosses) :
    ∃ f g : ℚ → ℚ, ∀ p, t.apply p = ⟨f p.y, g p.x⟩ := by
  refine ⟨fun y ↦ t.mat1 * (y - t.oy) + t.xShift + t.ox,
    fun x ↦ t.mat2 * (x - t.ox) + t.yShift + t.oy, fun p ↦ ?_⟩
  simp only [Transform.apply, h.1, h.2, zero_mul, zero_add, add_zero]

theorem Transform.Straight.exists_eq {t : Transform} (h : t.Straight) :
    ∃ f g : ℚ → ℚ, ∀ p, t.apply p = ⟨f p.x, g p.y⟩ := by
  refine ⟨fun x ↦ t.mat0 * (x - t.ox) + t.xShift + t.ox,
    fun y ↦ t.mat3 * (y - t.oy) + t.yShift + t.oy, fun p ↦ ?_⟩
  simp only [Transform.apply, h.1, h.2, zero_mul, zero_add, add_zero]

/-- The order of the corners of a region that was turned does not matter on the way back. -/
theorem region_region {there back : Transform}
    (hinv : Function.LeftInverse back.apply there.apply)
    (h : there.Crosses ∧ back.Crosses ∨ there.Straight ∧ back.Straight) {rect : Rect ℚ}
    (hx : rect.left ≤ rect.right) (hy : rect.top ≤ rect.bottom) :
    back.region (there.region rect) = rect := by
  rcases h with ⟨ht, hb⟩ | ⟨ht, hb⟩
  · obtain ⟨f, g, hfg⟩ := ht.exists_eq
    obtain ⟨f', g', hfg'⟩ := hb.exists_eq
    have hcomp : ∀ x y, f' (g x) = x ∧ g' (f y) = y := by
      intro x y
      have := hinv ⟨x, y⟩
      rwa [hfg, hfg', Point.mk.injEq] at this
    have hf : ∀ x, f' (g x) = x := fun x ↦ (hcomp x 0).1
    have hg : ∀ y, g' (f y) = y := fun y ↦ (hcomp 0 y).2
    ext <;>
      simp only [Transform.region, Rect.swapRectToMinFirst_eq, Rect.mapCorners, hfg, hfg',
        min_apply_min_max, max_apply_min_max, hf, hg, min_eq_left hx, min_eq_left hy,
        max_eq_right hx, max_eq_right hy]
  · obtain ⟨f, g, hfg⟩ := ht.exists_eq
    obtain ⟨f', g', hfg'⟩ := hb.exists_eq
    have hcomp : ∀ x y, f' (f x) = x ∧ g' (g y) = y := by
      intro x y
      have := hinv ⟨x, y⟩
      rwa [hfg, hfg', Point.mk.injEq] at this
    have hf : ∀ x, f' (f x) = x := fun x ↦ (hcomp x 0).1
    have hg : ∀ y, g' (g y) = y := fun y ↦ (hcomp 0 y).2
    ext <;>
      simp only [Transform.region, Rect.swapRectToMinFirst_eq, Rect.mapCorners, hfg, hfg',
        min_apply_min_max, max_apply_min_max, hf, hg, min_eq_left hx, min_eq_left hy,
        max_eq_right hx, max_eq_right hy]

/-! ### There and back -/

/-- The result's map undoes the request's, and a region comes back as it was sent. -/
def RoundTrips (m : RotateAndCropMapper) (crop : CropRegion) (rotateMode : RotateAndCrop) : Prop :=
  ∃ there back, m.requestTransform crop rotateMode = some there ∧
    m.resultTransform crop rotateMode = some back ∧
    Function.LeftInverse back.apply there.apply ∧ Function.RightInverse back.apply there.apply ∧
    ∀ rect : Rect ℚ, rect.left ≤ rect.right → rect.top ≤ rect.bottom →
      back.region (there.region rect) = rect

section Sizes

variable {m : RotateAndCropMapper} {crop : CropRegion}

theorem mRotateAspect_eq (m : RotateAndCropMapper) :
    m.mRotateAspect = (m.mArrayHeight : ℚ) / m.mArrayWidth := by
  rw [RotateAndCropMapper.mRotateAspect, RotateAndCropMapper.mArrayAspect, one_div_div]

theorem rotatedWidth_pos (hw : 0 < m.mArrayWidth) (hh : 0 < m.mArrayHeight)
    (hcw : 0 < crop.width) (hch : 0 < crop.height) : 0 < m.rotatedWidth crop := by
  have hw' : (0 : ℚ) < m.mArrayWidth := by exact_mod_cast hw
  have hh' : (0 : ℚ) < m.mArrayHeight := by exact_mod_cast hh
  have hcw' : (0 : ℚ) < crop.width := by exact_mod_cast hcw
  have hch' : (0 : ℚ) < crop.height := by exact_mod_cast hch
  rw [RotateAndCropMapper.rotatedWidth, mRotateAspect_eq]
  split <;> positivity

theorem rotatedHeight_pos (hw : 0 < m.mArrayWidth) (hh : 0 < m.mArrayHeight)
    (hcw : 0 < crop.width) (hch : 0 < crop.height) : 0 < m.rotatedHeight crop := by
  have hw' : (0 : ℚ) < m.mArrayWidth := by exact_mod_cast hw
  have hh' : (0 : ℚ) < m.mArrayHeight := by exact_mod_cast hh
  have hcw' : (0 : ℚ) < crop.width := by exact_mod_cast hcw
  have hch' : (0 : ℚ) < crop.height := by exact_mod_cast hch
  rw [RotateAndCropMapper.rotatedHeight, mRotateAspect_eq]
  split <;> positivity

/-- A turned copy of the crop region fits at full height only when the crop region has the array's
aspect, and that is not below one. -/
theorem sizes_iff {a b w h : ℚ} (ha : 0 < a) (hb : 0 < b) (hw : 0 < w) (hh : 0 < h) :
    h * (if w / h ≥ b / a then h else w / (b / a)) =
          (if w / h > b / a then h * (b / a) else w) * w ∧
        (if w / h ≥ b / a then h else w / (b / a)) = h ↔
      w * b = h * a ∧ b ≤ a := by
  simp only [gt_iff_lt, ge_iff_le, div_lt_div_iff₀ ha hh, div_le_div_iff₀ ha hh]
  rcases lt_trichotomy (b * h) (w * a) with hlt | heq | hgt
  · rw [if_pos hlt, if_pos hlt.le]
    constructor
    · intro hcond
      obtain ⟨hmul, -⟩ := hcond
      have hwb : w * b = h * a := by
        field_simp at hmul
        linarith
      refine ⟨hwb, ?_⟩
      by_contra hba
      have hsq : b * b * h < a * a * h := by nlinarith
      nlinarith
    · intro hcond
      obtain ⟨hwb, -⟩ := hcond
      refine ⟨?_, rfl⟩
      field_simp
      linarith
  · rw [if_neg heq.not_lt, if_pos heq.le]
    constructor
    · intro hcond
      obtain ⟨hmul, -⟩ := hcond
      have hhw : h = w := by nlinarith
      subst hhw
      have hab : b = a := mul_right_cancel₀ hh.ne' (by linarith)
      exact ⟨by rw [hab], hab.le⟩
    · intro hcond
      obtain ⟨hwb, -⟩ := hcond
      have hsq : h * h * a = w * w * a := by
        calc h * h * a = h * (w * b) := by rw [hwb]; ring
          _ = w * (b * h) := by ring
          _ = w * w * a := by rw [heq]; ring
      exact ⟨mul_right_cancel₀ ha.ne' hsq, rfl⟩
  · rw [if_neg hgt.not_gt, if_neg hgt.not_ge]
    constructor
    · intro hcond
      obtain ⟨-, hmul⟩ := hcond
      field_simp at hmul
      linarith
    · intro hcond
      obtain ⟨hwb, hba⟩ := hcond
      have hwa : w * b ≤ w * a := mul_le_mul_of_nonneg_left hba hw.le
      have hha : h * a < h * b := by linarith
      exact absurd hba (lt_of_mul_lt_mul_left hha hh.le).not_ge

theorem rotated_sizes_iff (hw : 0 < m.mArrayWidth) (hh : 0 < m.mArrayHeight)
    (hcw : 0 < crop.width) (hch : 0 < crop.height) :
    crop.height * m.rotatedHeight crop = m.rotatedWidth crop * crop.width ∧
        m.rotatedHeight crop = crop.height ↔
      crop.width * m.mArrayHeight = crop.height * m.mArrayWidth ∧
        m.mArrayHeight ≤ m.mArrayWidth := by
  rw [RotateAndCropMapper.rotatedWidth, RotateAndCropMapper.rotatedHeight, mRotateAspect_eq]
  qify
  apply sizes_iff <;> exact_mod_cast ‹_›

/-! ### The two maps after one another -/

section Compose

variable {there back : Transform}

theorem back_there_90 (hr : 0 < m.rotatedWidth crop) (hr' : 0 < m.rotatedHeight crop)
    (hcw : 0 < (crop.width : ℚ)) (hch : 0 < (crop.height : ℚ))
    (hthere : m.requestTransform crop .CROP_90 = some there)
    (hback : m.resultTransform crop .CROP_90 = some back) (p : Point ℚ) :
    back.apply (there.apply p) =
      ⟨crop.left + crop.height * m.rotatedHeight crop / (m.rotatedWidth crop * crop.width) *
          (p.x - crop.left),
        crop.top + m.rotatedWidth crop * crop.width / (crop.height * m.rotatedHeight crop) *
          (p.y - crop.top) + (crop.height - m.rotatedWidth crop * crop.width / m.rotatedHeight crop)
          + (crop.height - m.rotatedHeight crop)⟩ := by
  cases hthere
  cases hback
  simp only [Transform.apply, Point.mk.injEq]
  constructor <;> field_simp <;> ring

theorem back_there_270 (hr : 0 < m.rotatedWidth crop) (hr' : 0 < m.rotatedHeight crop)
    (hcw : 0 < (crop.width : ℚ)) (hch : 0 < (crop.height : ℚ))
    (hthere : m.requestTransform crop .CROP_270 = some there)
    (hback : m.resultTransform crop .CROP_270 = some back) (p : Point ℚ) :
    back.apply (there.apply p) =
      ⟨crop.left + crop.height * m.rotatedHeight crop / (m.rotatedWidth crop * crop.width) *
          (p.x - crop.left) +
          (crop.width - crop.height * m.rotatedHeight crop / m.rotatedWidth crop),
        crop.top + m.rotatedWidth crop * crop.width / (crop.height * m.rotatedHeight crop) *
          (p.y - crop.top) + (crop.height - m.rotatedHeight crop)⟩ := by
  cases hthere
  cases hback
  simp only [Transform.apply, Point.mk.injEq]
  constructor <;> field_simp <;> ring

/-- The scale in the first direction and the shift in the second one give both sizes. -/
theorem sizes_of_leftInverse (hr : 0 < m.rotatedWidth crop) (hr' : 0 < m.rotatedHeight crop)
    (hcw : 0 < (crop.width : ℚ)) (hch : 0 < (crop.height : ℚ)) {rotateMode : RotateAndCrop}
    (hmode : rotateMode = .CROP_90 ∨ rotateMode = .CROP_270)
    (hthere : m.requestTransform crop rotateMode = some there)
    (hback : m.resultTransform crop rotateMode = some back)
    (hinv : Function.LeftInverse back.apply there.apply) :
    crop.height * m.rotatedHeight crop = m.rotatedWidth crop * crop.width ∧
      m.rotatedHeight crop = crop.height := by
  have h₀ := hinv ⟨crop.left, crop.top⟩
  have h₁ := hinv ⟨crop.left + 1, crop.top⟩
  rcases hmode with rfl | rfl
  · rw [back_there_90 hr hr' hcw hch hthere hback, Point.mk.injEq] at h₀ h₁
    have hscale : crop.height * m.rotatedHeight crop / (m.rotatedWidth crop * crop.width) = 1 := by
      linarith [h₁.1]
    have hsizes := (div_eq_one_iff_eq (mul_pos hr hcw).ne').mp hscale
    have hwidth : m.rotatedWidth crop * crop.width / m.rotatedHeight crop = crop.height := by
      rw [← hsizes, mul_div_cancel_right₀ _ hr'.ne']
    have hshift := h₀.2
    rw [hwidth] at hshift
    exact ⟨hsizes, by linarith⟩
  · rw [back_there_270 hr hr' hcw hch hthere hback, Point.mk.injEq] at h₀ h₁
    have hscale : crop.height * m.rotatedHeight crop / (m.rotatedWidth crop * crop.width) = 1 := by
      linarith [h₀.1, h₁.1]
    exact ⟨(div_eq_one_iff_eq (mul_pos hr hcw).ne').mp hscale, by linarith [h₀.2]⟩

theorem inverse_of_sizes (hcw : 0 < (crop.width : ℚ)) (hch : 0 < (crop.height : ℚ))
    (hsizes : crop.height * m.rotatedHeight crop = m.rotatedWidth crop * crop.width)
    (hheight : m.rotatedHeight crop = crop.height) {rotateMode : RotateAndCrop}
    (hmode : rotateMode = .CROP_90 ∨ rotateMode = .CROP_270)
    (hthere : m.requestTransform crop rotateMode = some there)
    (hback : m.resultTransform crop rotateMode = some back) :
    Function.LeftInverse back.apply there.apply ∧
      Function.RightInverse back.apply there.apply := by
  have hwidth : m.rotatedWidth crop = crop.height * crop.height / crop.width := by
    rw [eq_div_iff hcw.ne', ← hsizes, hheight]
  rcases hmode with rfl | rfl
  all_goals
    cases hthere
    cases hback
    constructor
    all_goals
      intro h
      obtain ⟨x, y⟩ := h
      simp only [Transform.apply, hwidth, hheight, Point.mk.injEq]
      constructor <;> field_simp <;> ring

end Compose

theorem roundTrips_180 : RoundTrips m crop .CROP_180 := by
  have hinv : ∀ p, (Transform.mk (-1) 0 0 (-1) crop.width crop.height crop.left crop.top).apply
      ((Transform.mk (-1) 0 0 (-1) crop.width crop.height crop.left crop.top).apply p) = p := by
    intro h
    obtain ⟨x, y⟩ := h
    simp only [Transform.apply, Point.mk.injEq]
    constructor <;> ring
  refine ⟨_, _, rfl, rfl, hinv, hinv, fun rect hx hy ↦ ?_⟩
  exact region_region hinv (.inr ⟨⟨rfl, rfl⟩, rfl, rfl⟩) hx hy

/-- With a quarter turn, only crop regions of the array's aspect come back, and only when the
array is not taller than wide. -/
theorem roundTrips_iff (hw : 0 < m.mArrayWidth) (hh : 0 < m.mArrayHeight)
    (hcw : 0 < crop.width) (hch : 0 < crop.height) {rotateMode : RotateAndCrop}
    (hmode : rotateMode ∈ [.CROP_90, .CROP_180, .CROP_270]) :
    RoundTrips m crop rotateMode ↔
      rotateMode = .CROP_180 ∨
        crop.width * m.mArrayHeight = crop.height * m.mArrayWidth ∧
          m.mArrayHeight ≤ m.mArrayWidth := by
  have hr := rotatedWidth_pos hw hh hcw hch
  have hr' := rotatedHeight_pos hw hh hcw hch
  have hcw' : (0 : ℚ) < crop.width := by exact_mod_cast hcw
  have hch' : (0 : ℚ) < crop.height := by exact_mod_cast hch
  by_cases h180 : rotateMode = .CROP_180
  · subst h180
    exact ⟨fun _ ↦ .inl rfl, fun _ ↦ roundTrips_180⟩
  have hquarter : rotateMode = .CROP_90 ∨ rotateMode = .CROP_270 := by
    simp only [List.mem_cons, List.not_mem_nil, or_false] at hmode
    tauto
  constructor
  · intro hcond
    obtain ⟨there, back, hthere, hback, hinv, -, -⟩ := hcond
    have hsizes := sizes_of_leftInverse hr hr' hcw' hch' hquarter hthere hback hinv
    exact .inr ((rotated_sizes_iff hw hh hcw hch).mp hsizes)
  · intro hcond
    obtain h | h := hcond
    · exact absurd h h180
    · obtain ⟨hsizes, hheight⟩ := (rotated_sizes_iff hw hh hcw hch).mpr h
      obtain ⟨there, hthere, hcross⟩ :
          ∃ there, m.requestTransform crop rotateMode = some there ∧ there.Crosses := by
        rcases hquarter with rfl | rfl <;> exact ⟨_, rfl, rfl, rfl⟩
      obtain ⟨back, hback, hcross'⟩ :
          ∃ back, m.resultTransform crop rotateMode = some back ∧ back.Crosses := by
        rcases hquarter with rfl | rfl <;> exact ⟨_, rfl, rfl, rfl⟩
      obtain ⟨hleft, hright⟩ :=
        inverse_of_sizes hcw' hch' hsizes hheight hquarter hthere hback
      refine ⟨there, back, hthere, hback, hleft, hright, fun rect hx hy ↦ ?_⟩
      exact region_region hleft (.inl ⟨hcross, hcross'⟩) hx hy

end Sizes

/-- The whole array of 4000 by 3000. -/
theorem roundTrips_iff_whole : RoundTrips ⟨4000, 3000⟩ ⟨0, 0, 4000, 3000⟩ .CROP_90 :=
  (roundTrips_iff (by decide) (by decide) (by decide) (by decide) (by decide)).mpr
    (.inr (by decide))

/-- A crop region of 16:9 on the same array: its right edge comes back as that of a region three
quarters as wide. -/
theorem not_roundTrips_wide : ¬ RoundTrips ⟨4000, 3000⟩ ⟨0, 0, 4000, 2250⟩ .CROP_90 := by
  intro hcond
  obtain ⟨there, back, hthere, hback, hinv, -⟩ := hcond
  have hsizes := sizes_of_leftInverse (rotatedWidth_pos (by decide) (by decide) (by decide)
    (by decide)) (rotatedHeight_pos (by decide) (by decide) (by decide) (by decide))
    (by norm_num) (by norm_num) (.inl rfl) hthere hback hinv
  have h := (rotated_sizes_iff (by decide) (by decide) (by decide) (by decide)).mp hsizes
  exact absurd h.1 (by decide)

end VirtualCamera.Mapper.RotateAndCrop
