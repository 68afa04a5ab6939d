import Mathlib.Order.WithBot
import Mathlib.Tactic.FieldSimp
import Mathlib.Tactic.Linarith
import Mathlib.Tactic.Ring
import VirtualCamera.Mapper.Coordinates

namespace VirtualCamera.Mapper.ZoomRatio

open Library.Rounding

/-- `(arrayWidth - 2) / 2`, an integer that is truncated. -/
def centre (arraySize : ℤ) : ℤ := (arraySize - 2).tdiv 2

/-- What `scaleCoordinates` does to one coordinate. -/
def scaleCoordinate (scaleRatio : ℚ) (clamped : Bool) (arraySize x : ℤ) : ℤ :=
  let xCentered : ℚ := x - centre arraySize
  let scaledX := xCentered * scaleRatio + centre arraySize
  if clamped then clamp 0 (arraySize - 1) (stdRound scaledX) else stdRound scaledX

def scaleCoordinates (scaleRatio : ℚ) (clamped : Bool) (arrayWidth arrayHeight : ℤ)
    (p : Point ℤ) : Point ℤ :=
  ⟨scaleCoordinate scaleRatio clamped arrayWidth p.x,
    scaleCoordinate scaleRatio clamped arrayHeight p.y⟩

def scaleRect (scaleRatio : ℚ) (arrayWidth arrayHeight : ℤ) (rect : CropRegion) : CropRegion :=
  let coords0 := scaleCoordinates scaleRatio true arrayWidth arrayHeight ⟨rect.left, rect.top⟩
  let coords2 := scaleCoordinates scaleRatio true arrayWidth arrayHeight
    ⟨rect.left + rect.width - 1, rect.top + rect.height - 1⟩
  ⟨coords0.x, coords0.y, coords2.x - coords0.x + 1, coords2.y - coords0.y + 1⟩

def scaleRects (scaleRatio : ℚ) (arrayWidth arrayHeight : ℤ) (rects : List CropRegion) :
    List CropRegion := rects.map (scaleRect scaleRatio arrayWidth arrayHeight)

/-- The right and the bottom edge of a metering region are not part of it. -/
def scaleRegion (scaleRatio : ℚ) (arrayWidth arrayHeight : ℤ) (region : Rect ℤ) : Rect ℤ :=
  let topLeft := scaleCoordinates scaleRatio true arrayWidth arrayHeight ⟨region.left, region.top⟩
  let bottomRight := scaleCoordinates scaleRatio true arrayWidth arrayHeight
    ⟨region.right - 1, region.bottom - 1⟩
  ⟨topLeft.x, topLeft.y, bottomRight.x + 1, bottomRight.y + 1⟩

/-- The loops that `separateZoomFromCropLocked` and `combineZoomAndCropLocked` both have. -/
def scaleMetadata (scaleRatio : ℚ) (isResult : Bool) (arrayWidth arrayHeight : ℤ)
    (metadata : Metadata) : Metadata :=
  let metadata := metadata.mapMeteringRegions (scaleRegion scaleRatio arrayWidth arrayHeight)
  let metadata := { metadata with
    cropRegion := scaleRects scaleRatio arrayWidth arrayHeight metadata.cropRegion }
  let point := scaleCoordinates scaleRatio false arrayWidth arrayHeight
  if isResult then
    { metadata with
      faceRectangles := metadata.faceRectangles.map (Rect.mapCorners point)
      faceLandmarks := metadata.faceLandmarks.map point }
  else metadata

/-- One side of `deriveZoomRatio`; a division by zero is infinite. -/
def sideRatio (arraySize : ℤ) (side : ℚ) : WithTop ℚ :=
  if side = 0 then ⊤ else max ((arraySize : ℚ) / (2 * side)) 1

def deriveZoomRatio (metadata : Metadata) (arrayWidth arrayHeight : ℤ) : WithTop ℚ :=
  match metadata.cropRegion with
  | [crop] =>
    let arrayCenterX : ℚ := arrayWidth / 2
    let arrayCenterY : ℚ := arrayHeight / 2
    let zoomRatioLeft := sideRatio arrayWidth (arrayCenterX - crop.left)
    let zoomRatioTop := sideRatio arrayHeight (arrayCenterY - crop.top)
    let zoomRatioRight := sideRatio arrayWidth (crop.left + crop.width - arrayCenterX)
    let zoomRatioBottom := sideRatio arrayHeight (crop.top + crop.height - arrayCenterY)
    min (min zoomRatioLeft zoomRatioRight) (min zoomRatioTop zoomRatioBottom)
  | _ => 1

/-- There is no value for an infinite zoom. -/
def separateZoomFromCropLocked (metadata : Metadata) (isResult : Bool)
    (arrayWidth arrayHeight : ℤ) : Option Metadata :=
  match deriveZoomRatio metadata arrayWidth arrayHeight with
  | ⊤ => none
  | (zoomRatio : ℚ) =>
    let metadata := { metadata with zoomRatio := some zoomRatio }
    some (scaleMetadata zoomRatio isResult arrayWidth arrayHeight metadata)

def combineZoomAndCropLocked (metadata : Metadata) (isResult : Bool)
    (arrayWidth arrayHeight : ℤ) : Metadata :=
  let zoomRatio := metadata.zoomRatio.getD 1
  { scaleMetadata (1 / zoomRatio) isResult arrayWidth arrayHeight metadata with
    zoomRatio := some 1 }

/-! ### One coordinate -/

section Coordinate

variable {n x y : ℤ} {s z : ℚ}

theorem centre_mem (h : 1 ≤ n) : 0 ≤ centre n ∧ centre n ≤ n - 1 := by
  unfold centre
  rcases h.lt_or_eq with hlt | rfl
  · rw [Int.tdiv_eq_ediv_of_nonneg (by omega)]
    omega
  · exact ⟨by decide, by decide⟩

theorem scaleCoordinate_mem (h : 1 ≤ n) :
    0 ≤ scaleCoordinate s true n x ∧ scaleCoordinate s true n x ≤ n - 1 :=
  clamp_mem (by omega) _

theorem scaleCoordinate_mono (hs : 0 ≤ s) (h : x ≤ y) :
    scaleCoordinate s true n x ≤ scaleCoordinate s true n y := by
  have h' : (x : ℚ) ≤ y := by exact_mod_cast h
  have hscaled : ((x : ℚ) - centre n) * s + centre n ≤ (y - centre n) * s + centre n := by
    have := mul_le_mul_of_nonneg_right (sub_le_sub_right h' (centre n : ℚ)) hs
    linarith
  exact clamp_mono (stdRound_mono hscaled)

/-- A coordinate that is brought nearer to the centre stays in the array. -/
theorem scaleCoordinate_inverse_near (hn : 1 ≤ n) (hz : 1 ≤ z) (hx : 0 ≤ x ∧ x ≤ n - 1) :
    |(scaleCoordinate (1 / z) true n x : ℚ) - ((x - centre n) * (1 / z) + centre n)| ≤ 1 / 2 := by
  obtain ⟨hc, hc'⟩ := centre_mem hn
  have hz' : 0 ≤ 1 / z ∧ 1 / z ≤ 1 :=
    ⟨by positivity, by rw [div_le_one (by linarith)]; exact hz⟩
  have hx₁ : (0 : ℚ) ≤ x := by exact_mod_cast hx.1
  have hx₂ : (x : ℚ) ≤ ((n - 1 : ℤ) : ℚ) := by exact_mod_cast hx.2
  have hc₁ : (0 : ℚ) ≤ centre n := by exact_mod_cast hc
  have hc₂ : (centre n : ℚ) ≤ ((n - 1 : ℤ) : ℚ) := by exact_mod_cast hc'
  have hlo : ((0 : ℤ) : ℚ) ≤ (x - centre n) * (1 / z) + centre n := by
    rw [Int.cast_zero]
    nlinarith
  have hhi : ((x : ℚ) - centre n) * (1 / z) + centre n ≤ ((n - 1 : ℤ) : ℚ) := by nlinarith
  obtain ⟨h₁, h₂⟩ := stdRound_mem hlo hhi
  rw [scaleCoordinate, if_pos rfl, clamp_of_mem h₁ h₂]
  exact abs_stdRound_sub_le _

/-- The second step makes the first one's error larger by the ratio, and adds its own. -/
theorem scaleCoordinate_roundTrip (hn : 1 ≤ n) (hz : 1 ≤ z) (hx : 0 ≤ x ∧ x ≤ n - 1) :
    |(scaleCoordinate z true n (scaleCoordinate (1 / z) true n x) : ℚ) - x| ≤ z / 2 + 1 / 2 := by
  have hfirst := scaleCoordinate_inverse_near hn hz hx
  generalize hy : scaleCoordinate (1 / z) true n x = y at hfirst ⊢
  have hz₀ : 0 < z := by linarith
  have hscaled : |((y : ℚ) - centre n) * z + centre n - x| ≤ z / 2 := by
    have heq : ((y : ℚ) - centre n) * z + centre n - x =
        (y - ((x - centre n) * (1 / z) + centre n)) * z := by
      field_simp
      ring
    rw [heq, abs_mul, abs_of_pos hz₀]
    nlinarith
  have hround := abs_stdRound_sub_le (((y : ℚ) - centre n) * z + centre n)
  have hclamp : |(scaleCoordinate z true n y : ℚ) - x| ≤
      |(stdRound (((y : ℚ) - centre n) * z + centre n) : ℚ) - x| := by
    rw [scaleCoordinate, if_pos rfl]
    generalize stdRound (((y : ℚ) - centre n) * z + centre n) = r
    exact_mod_cast abs_clamp_sub_le hx.1 hx.2
  calc |(scaleCoordinate z true n y : ℚ) - x|
      ≤ |(stdRound (((y : ℚ) - centre n) * z + centre n) : ℚ) - x| := hclamp
    _ ≤ 1 / 2 + z / 2 := (abs_sub_le _ _ _).trans (add_le_add hround hscaled)
    _ = z / 2 + 1 / 2 := add_comm _ _

end Coordinate

/-! ### Rectangles by their edges -/

/-- The first and the last pixel of a range inside an array. -/
structure Within (n first last : ℤ) : Prop where
  first_nonneg : 0 ≤ first
  first_le_last : first ≤ last
  last_lt : last < n

/-- A rectangle of inclusive edges that is not empty and lies in the array. -/
structure Inside (arrayWidth arrayHeight : ℤ) (edges : Rect ℤ) : Prop where
  horizontal : Within arrayWidth edges.left edges.right
  vertical : Within arrayHeight edges.top edges.bottom

/-- No edge has moved by more than the bound. -/
structure Near (bound : ℚ) (r r' : Rect ℤ) : Prop where
  left : |(r'.left : ℚ) - r.left| ≤ bound
  top : |(r'.top : ℚ) - r.top| ≤ bound
  right : |(r'.right : ℚ) - r.right| ≤ bound
  bottom : |(r'.bottom : ℚ) - r.bottom| ≤ bound

/-- The inclusive edges. -/
def edges (r : CropRegion) : Rect ℤ :=
  ⟨r.left, r.top, r.left + r.width - 1, r.top + r.height - 1⟩

/-- The inclusive edges of a metering region. -/
def regionEdges (r : Rect ℤ) : Rect ℤ := ⟨r.left, r.top, r.right - 1, r.bottom - 1⟩

/-- A rectangle inside the array, of width and height at least one. -/
def InArray (arrayWidth arrayHeight : ℤ) (r : CropRegion) : Prop :=
  0 ≤ r.left ∧ 0 ≤ r.top ∧ 1 ≤ r.width ∧ 1 ≤ r.height ∧ r.left + r.width ≤ arrayWidth ∧
    r.top + r.height ≤ arrayHeight

instance (arrayWidth arrayHeight : ℤ) : DecidablePred (InArray arrayWidth arrayHeight) :=
  fun _ ↦ inferInstanceAs (Decidable (_ ∧ _))

/-- The same of a metering region, which matters only when its weight is not zero. -/
def RegionInArray (arrayWidth arrayHeight : ℤ) (region : MeteringRegion) : Prop :=
  region.weight ≠ 0 → 0 ≤ region.rect.left ∧ 0 ≤ region.rect.top ∧
    1 ≤ region.rect.right - region.rect.left ∧ 1 ≤ region.rect.bottom - region.rect.top ∧
    region.rect.right ≤ arrayWidth ∧ region.rect.bottom ≤ arrayHeight

instance (arrayWidth arrayHeight : ℤ) : DecidablePred (RegionInArray arrayWidth arrayHeight) :=
  fun _ ↦ inferInstanceAs (Decidable (_ → _))

def RegionNear (bound : ℚ) (r r' : MeteringRegion) : Prop :=
  r'.weight = r.weight ∧ (r.weight = 0 → r' = r) ∧
    (r.weight ≠ 0 → Near bound (regionEdges r.rect) (regionEdges r'.rect))

def scaleEdges (s : ℚ) (arrayWidth arrayHeight : ℤ) : Rect ℤ → Rect ℤ :=
  Rect.mapCorners (scaleCoordinates s true arrayWidth arrayHeight)

section Edges

variable {W H : ℤ} {s z : ℚ} {r : Rect ℤ}

theorem inArray_iff {rect : CropRegion} : InArray W H rect ↔ Inside W H (edges rect) := by
  constructor
  · intro h
    obtain ⟨hl, ht, hw, hh, hr, hb⟩ := h
    exact ⟨⟨hl, by simp only [edges]; omega, by simp only [edges]; omega⟩,
      ⟨ht, by simp only [edges]; omega, by simp only [edges]; omega⟩⟩
  · intro h
    obtain ⟨⟨hl, hw, hr⟩, ht, hh, hb⟩ := h
    simp only [edges] at *
    exact ⟨hl, ht, by omega, by omega, by omega, by omega⟩

theorem regionInArray_iff {region : MeteringRegion} :
    RegionInArray W H region ↔ region.weight ≠ 0 → Inside W H (regionEdges region.rect) := by
  refine imp_congr_right fun _ ↦ ?_
  constructor
  · intro h
    obtain ⟨hl, ht, hw, hh, hr, hb⟩ := h
    exact ⟨⟨hl, by simp only [regionEdges]; omega, by simp only [regionEdges]; omega⟩,
      ⟨ht, by simp only [regionEdges]; omega, by simp only [regionEdges]; omega⟩⟩
  · intro h
    obtain ⟨⟨hl, hw, hr⟩, ht, hh, hb⟩ := h
    simp only [regionEdges] at *
    exact ⟨hl, ht, by omega, by omega, by omega, by omega⟩

theorem edges_scaleRect (rect : CropRegion) :
    edges (scaleRect s W H rect) = scaleEdges s W H (edges rect) := by
  simp only [edges, scaleRect, scaleEdges, Rect.mapCorners, scaleCoordinates]
  ext <;> ring

theorem regionEdges_scaleRegion (rect : Rect ℤ) :
    regionEdges (scaleRegion s W H rect) = scaleEdges s W H (regionEdges rect) := by
  simp only [regionEdges, scaleRegion, scaleEdges, Rect.mapCorners, scaleCoordinates]
  ext <;> ring

theorem within_scaleCoordinate {n first last : ℤ} (hn : 1 ≤ n) (hs : 0 ≤ s)
    (h : Within n first last) :
    Within n (scaleCoordinate s true n first) (scaleCoordinate s true n last) :=
  ⟨(scaleCoordinate_mem hn).1, scaleCoordinate_mono hs h.first_le_last, by
    have := (scaleCoordinate_mem (s := s) (x := last) hn).2
    omega⟩

theorem Inside.scaleEdges (hW : 1 ≤ W) (hH : 1 ≤ H) (hs : 0 ≤ s) (h : Inside W H r) :
    Inside W H (scaleEdges s W H r) :=
  ⟨within_scaleCoordinate hW hs h.horizontal, within_scaleCoordinate hH hs h.vertical⟩

theorem Within.first_mem {n first last : ℤ} (h : Within n first last) :
    0 ≤ first ∧ first ≤ n - 1 := by
  obtain ⟨h₁, h₂, h₃⟩ := h
  omega

theorem Within.last_mem {n first last : ℤ} (h : Within n first last) :
    0 ≤ last ∧ last ≤ n - 1 := by
  obtain ⟨h₁, h₂, h₃⟩ := h
  omega

theorem Inside.near (hW : 1 ≤ W) (hH : 1 ≤ H) (hz : 1 ≤ z) (h : Inside W H r) :
    Near (z / 2 + 1 / 2) r (ZoomRatio.scaleEdges z W H (ZoomRatio.scaleEdges (1 / z) W H r)) where
  left := scaleCoordinate_roundTrip hW hz h.horizontal.first_mem
  top := scaleCoordinate_roundTrip hH hz h.vertical.first_mem
  right := scaleCoordinate_roundTrip hW hz h.horizontal.last_mem
  bottom := scaleCoordinate_roundTrip hH hz h.vertical.last_mem

theorem InArray.scaleRect (hW : 1 ≤ W) (hH : 1 ≤ H) (hs : 0 ≤ s) {rect : CropRegion}
    (h : InArray W H rect) : InArray W H (scaleRect s W H rect) := by
  rw [inArray_iff, edges_scaleRect]
  exact (inArray_iff.mp h).scaleEdges hW hH hs

theorem RegionInArray.correct (hW : 1 ≤ W) (hH : 1 ≤ H) (hs : 0 ≤ s) {region : MeteringRegion}
    (h : RegionInArray W H region) :
    RegionInArray W H (region.correct (scaleRegion s W H)) := by
  unfold MeteringRegion.correct
  split
  · exact h
  · rw [regionInArray_iff]
    intro hweight
    rw [regionEdges_scaleRegion]
    exact (regionInArray_iff.mp h hweight).scaleEdges hW hH hs

theorem regionNear_correct (hW : 1 ≤ W) (hH : 1 ≤ H) (hz : 1 ≤ z) {region : MeteringRegion}
    (h : RegionInArray W H region) :
    RegionNear (z / 2 + 1 / 2) region
      ((region.correct (scaleRegion (1 / z) W H)).correct (scaleRegion z W H)) := by
  by_cases hweight : region.weight = 0
  · simp only [MeteringRegion.correct, hweight, if_true]
    exact ⟨rfl, fun _ ↦ rfl, fun hne ↦ absurd hweight hne⟩
  · simp only [MeteringRegion.correct, hweight, if_false]
    refine ⟨rfl, fun h0 ↦ absurd h0 hweight, fun _ ↦ ?_⟩
    rw [regionEdges_scaleRegion, regionEdges_scaleRegion]
    exact (regionInArray_iff.mp h hweight).near hW hH hz

/-- A list of rectangles or of metering regions, scaled down and then up again. -/
theorem scale_roundTrip (hW : 1 ≤ W) (hH : 1 ≤ H) (hz : 1 ≤ z) (rects : List CropRegion)
    (hrects : ∀ r ∈ rects, InArray W H r) (regions : List MeteringRegion)
    (hregions : ∀ r ∈ regions, RegionInArray W H r) :
    (∀ r ∈ scaleRects (1 / z) W H rects, InArray W H r) ∧
      (∀ r ∈ scaleRects z W H (scaleRects (1 / z) W H rects), InArray W H r) ∧
      List.Forall₂ (fun r r' ↦ Near (z / 2 + 1 / 2) (edges r) (edges r')) rects
        (scaleRects z W H (scaleRects (1 / z) W H rects)) ∧
      let there := regions.map (MeteringRegion.correct (scaleRegion (1 / z) W H))
      let back := there.map (MeteringRegion.correct (scaleRegion z W H))
      (∀ r ∈ there, RegionInArray W H r) ∧ (∀ r ∈ back, RegionInArray W H r) ∧
        List.Forall₂ (RegionNear (z / 2 + 1 / 2)) regions back := by
  have hz₀ : 0 ≤ z := by linarith
  have hz₁ : 0 ≤ 1 / z := by positivity
  have hthere : ∀ r ∈ scaleRects (1 / z) W H rects, InArray W H r := by
    intro r hr
    obtain ⟨r₀, hr₀, rfl⟩ := List.mem_map.mp hr
    exact (hrects r₀ hr₀).scaleRect hW hH hz₁
  have hthere' : ∀ r ∈ regions.map (MeteringRegion.correct (scaleRegion (1 / z) W H)),
      RegionInArray W H r := by
    intro r hr
    obtain ⟨r₀, hr₀, rfl⟩ := List.mem_map.mp hr
    exact (hregions r₀ hr₀).correct hW hH hz₁
  refine ⟨hthere, ?_, ?_, hthere', ?_, ?_⟩
  · intro r hr
    obtain ⟨r₀, hr₀, rfl⟩ := List.mem_map.mp hr
    exact (hthere r₀ hr₀).scaleRect hW hH hz₀
  · rw [scaleRects, scaleRects, List.map_map, List.forall₂_map_right_iff, List.forall₂_same]
    intro r hr
    rw [Function.comp_apply, edges_scaleRect, edges_scaleRect]
    exact (inArray_iff.mp (hrects r hr)).near hW hH hz
  · intro r hr
    obtain ⟨r₀, hr₀, rfl⟩ := List.mem_map.mp hr
    exact (hthere' r₀ hr₀).correct hW hH hz₀
  · rw [List.map_map, List.forall₂_map_right_iff, List.forall₂_same]
    exact fun r hr ↦ regionNear_correct hW hH hz (hregions r hr)

end Edges

/-- One crop region and one metering region at a zoom of two. -/
theorem scale_roundTrip_two :
    (∀ r ∈ scaleRects (1 / 2) 8 6 [⟨1, 1, 3, 2⟩], InArray 8 6 r) ∧
      List.Forall₂ (RegionNear (2 / 2 + 1 / 2)) [⟨⟨1, 1, 4, 3⟩, 1⟩]
        (([⟨⟨1, 1, 4, 3⟩, 1⟩].map (MeteringRegion.correct (scaleRegion (1 / 2) 8 6))).map
          (MeteringRegion.correct (scaleRegion 2 8 6))) := by
  have h := scale_roundTrip (W := 8) (H := 6) (z := 2) (by decide) (by decide) (by norm_num)
    [⟨1, 1, 3, 2⟩] (by decide) [⟨⟨1, 1, 4, 3⟩, 1⟩] (by decide)
  exact ⟨h.1, h.2.2.2.2.2⟩

/-! ### The two functions -/

section Functions

variable {W H : ℤ}

/-- All that is scaled with a clamp lies in the array. -/
structure MetadataInArray (arrayWidth arrayHeight : ℤ) (m : Metadata) : Prop where
  cropRegion : ∀ r ∈ m.cropRegion, InArray arrayWidth arrayHeight r
  regions : ∀ r ∈ m.afRegions ++ m.aeRegions ++ m.awbRegions,
    RegionInArray arrayWidth arrayHeight r

theorem scaleMetadata_inArray (hW : 1 ≤ W) (hH : 1 ≤ H) {s : ℚ} (hs : 0 ≤ s) (isResult : Bool)
    {m : Metadata} (h : MetadataInArray W H m) :
    MetadataInArray W H (scaleMetadata s isResult W H m) := by
  have hcrop : ∀ r ∈ scaleRects s W H m.cropRegion, InArray W H r := by
    intro r hr
    obtain ⟨r₀, hr₀, rfl⟩ := List.mem_map.mp hr
    exact (h.cropRegion r₀ hr₀).scaleRect hW hH hs
  have hregions : ∀ r ∈ (m.afRegions ++ m.aeRegions ++ m.awbRegions).map
      (MeteringRegion.correct (scaleRegion s W H)), RegionInArray W H r := by
    intro r hr
    obtain ⟨r₀, hr₀, rfl⟩ := List.mem_map.mp hr
    exact (h.regions r₀ hr₀).correct hW hH hs
  rw [List.map_append, List.map_append] at hregions
  cases isResult with
  | false => exact ⟨hcrop, hregions⟩
  | true => exact ⟨hcrop, hregions⟩

theorem combine_inArray (hW : 1 ≤ W) (hH : 1 ≤ H) (isResult : Bool) {m : Metadata}
    (hz : 0 ≤ m.zoomRatio.getD 1) (h : MetadataInArray W H m) :
    MetadataInArray W H (combineZoomAndCropLocked m isResult W H) := by
  obtain ⟨hcrop, hregions⟩ := scaleMetadata_inArray hW hH (one_div_nonneg.mpr hz) isResult h
  exact ⟨hcrop, hregions⟩

theorem one_le_sideRatio (arraySize : ℤ) (side : ℚ) : 1 ≤ sideRatio arraySize side := by
  unfold sideRatio
  split
  · exact le_top
  · exact le_max_right _ _

theorem one_le_deriveZoomRatio (m : Metadata) (W H : ℤ) : 1 ≤ deriveZoomRatio m W H := by
  unfold deriveZoomRatio
  split
  · exact le_min (le_min (one_le_sideRatio _ _) (one_le_sideRatio _ _))
      (le_min (one_le_sideRatio _ _) (one_le_sideRatio _ _))
  · exact le_rfl

/-- The ratio that the crop region gives is never below one. -/
theorem separate_inArray (hW : 1 ≤ W) (hH : 1 ≤ H) (isResult : Bool) {m m' : Metadata}
    (h : MetadataInArray W H m) (hm : separateZoomFromCropLocked m isResult W H = some m') :
    MetadataInArray W H m' := by
  have hone := one_le_deriveZoomRatio m W H
  unfold separateZoomFromCropLocked at hm
  split at hm
  · cases hm
  · next zoomRatio heq =>
    cases hm
    rw [heq] at hone
    have hz : (1 : ℚ) ≤ zoomRatio := WithTop.one_le_coe.mp hone
    exact scaleMetadata_inArray hW hH (by linarith) isResult ⟨h.cropRegion, h.regions⟩

end Functions

end VirtualCamera.Mapper.ZoomRatio
