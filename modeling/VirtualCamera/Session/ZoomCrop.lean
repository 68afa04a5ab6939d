import Mathlib.Data.Rat.Floor
import Mathlib.Tactic.FieldSimp
import Mathlib.Tactic.Ring
import VirtualCamera.Library.Memory

namespace VirtualCamera.Session.ZoomCrop

open Library.Memory

/-! ### Integers of 32 bits -/

def div (a b : ℤ) : Option ℤ := if b = 0 then none else checkInt (a.tdiv b)

def mulDiv (a b c : ℤ) : Option ℤ := (checkInt (a * b)).bind fun r ↦ div r c

/-- `& (~0x01)`. -/
def even (a : ℤ) : ℤ := a - a % 2

/-- `& (~0x07)`. -/
def eighth (a : ℤ) : ℤ := a - a % 8

/-! ### The rectangle of `rga_nv12_scale_crop` -/

/-- What `rga_set_rect` is told of the part of an image. -/
structure RgaRect where
  xoffset : ℤ
  yoffset : ℤ
  width : ℤ
  height : ℤ
  deriving DecidableEq, Repr

inductive Outcome
  | beyondRga
  | blit (src : RgaRect)
  deriving DecidableEq

def RGA_VIRTUAL_W : ℤ := 4096

/-- The offset that puts the part in the middle. -/
def centre (whole part : ℤ) : Option ℤ := (checkInt (whole - part)).map fun r ↦ even (r / 2)

def needsCrop (src_width src_height dst_width dst_height : ℤ) (isNeedCrop : Bool) :
    Option Bool :=
  if isNeedCrop then do
    let srcRatio ← mulDiv src_width 100 src_height
    let dstRatio ← mulDiv dst_width 100 dst_height
    return srcRatio ≠ dstRatio
  else return false

def crop (src_width src_height dst_width dst_height : ℤ) : Option RgaRect := do
  let ratioW ← mulDiv src_width 100 dst_width
  let ratioH ← mulDiv src_height 100 dst_height
  let ratio := if ratioW ≥ ratioH then ratioH else ratioW
  let zoom_cropW := even (← mulDiv ratio dst_width 100)
  let zoom_cropH := even (← mulDiv ratio dst_height 100)
  return ⟨← centre src_width zoom_cropW, ← centre src_height zoom_cropH, zoom_cropW, zoom_cropH⟩

def zoom (src_width src_height zoom_val : ℤ) (rect : RgaRect) : Option RgaRect :=
  if zoom_val > 100 then do
    let zoom_cropW := even (← mulDiv rect.width 100 zoom_val)
    let zoom_cropH := even (← mulDiv rect.height 100 zoom_val)
    return ⟨← centre src_width zoom_cropW, ← centre src_height zoom_cropH, zoom_cropW, zoom_cropH⟩
  else return rect

def alignTop (is16Align : Bool) (rect : RgaRect) : RgaRect :=
  if is16Align then rect else { rect with yoffset := eighth rect.yoffset }

/-- The rectangle that is passed to the blit, or that there is no blit; `RGA_VIRTUAL_H` depends on
the platform. There is no value after an overflow or a division by zero. -/
def rgaNv12ScaleCrop (RGA_VIRTUAL_H src_width src_height dst_width dst_height zoom_val : ℤ)
    (isNeedCrop is16Align : Bool) : Option Outcome :=
  if dst_width > RGA_VIRTUAL_W ∨ dst_height > RGA_VIRTUAL_H then return .beyondRga
  else do
    let cropped ← needsCrop src_width src_height dst_width dst_height isNeedCrop
    let rect ← (if cropped then crop src_width src_height dst_width dst_height
      else some ⟨0, 0, src_width, src_height⟩)
    let rect ← zoom src_width src_height zoom_val rect
    return .blit (alignTop is16Align rect)

/-! ### One operation -/

theorem mulDiv_eq {a b c : ℤ} (ha : 0 ≤ a * b) (ha' : a * b ≤ INT_MAX) (hc : 0 < c) :
    mulDiv a b c = some (a * b / c) := by
  have hle : a * b / c ≤ a * b := Int.ediv_le_self c ha
  rw [mulDiv, checkInt_of_le ha ha', Option.bind_some, div, if_neg hc.ne',
    Int.tdiv_eq_ediv_of_nonneg ha]
  exact checkInt_of_le (Int.ediv_nonneg ha hc.le) (hle.trans ha')

theorem even_le (a : ℤ) : even a ≤ a := by
  have := Int.emod_nonneg a (by decide : (2 : ℤ) ≠ 0)
  rw [even]
  omega

theorem even_nonneg {a : ℤ} (h : 0 ≤ a) : 0 ≤ even a := by
  rw [even]
  omega

theorem even_mod (a : ℤ) : even a % 2 = 0 := by
  rw [even]
  omega

theorem centre_eq {whole part : ℤ} (h : 0 ≤ part) (hle : part ≤ whole) (hmax : whole ≤ INT_MAX) :
    centre whole part = some (even ((whole - part) / 2)) := by
  rw [centre, checkInt_of_le (by omega) (by omega)]
  rfl

def evenFloor (q : ℚ) : ℤ := 2 * ⌊q / 2⌋

theorem even_ediv (a : ℤ) {b : ℕ} : even (a / b) = evenFloor ((a : ℚ) / b) := by
  have hfloor : ⌊(a : ℚ) / b / 2⌋ = a / b / 2 := by
    have h := Int.floor_div_natCast ((a : ℚ) / b) 2
    rw [Rat.floor_intCast_div_natCast] at h
    exact_mod_cast h
  rw [evenFloor, hfloor, even]
  omega

theorem evenFloor_bounds (q : ℚ) : (evenFloor q : ℚ) ≤ q ∧ q < evenFloor q + 2 := by
  have hle := Int.floor_le (q / 2)
  have hlt := Int.lt_floor_add_one (q / 2)
  rw [evenFloor]
  push_cast
  constructor <;> linarith

/-! ### One direction -/

structure Within (whole offset part : ℤ) : Prop where
  offset_nonneg : 0 ≤ offset
  part_nonneg : 0 ≤ part
  inside : offset + part ≤ whole
  offset_even : offset % 2 = 0
  part_even : part % 2 = 0

theorem within_whole {whole : ℤ} (h : 0 < whole) (heven : whole % 2 = 0) : Within whole 0 whole :=
  ⟨le_rfl, h.le, (zero_add whole).le, rfl, heven⟩

theorem within_centre {whole part : ℤ} (h : 0 ≤ part) (hle : part ≤ whole) (heven : part % 2 = 0) :
    Within whole (even ((whole - part) / 2)) part := by
  have hoff := even_le ((whole - part) / 2)
  exact ⟨even_nonneg (by omega), h, by omega, even_mod _, heven⟩

theorem Within.eighth {whole offset part : ℤ} (h : Within whole offset part) :
    Within whole (eighth offset) part := by
  obtain ⟨hoff, hpart, hin, hoffeven, heven⟩ := h
  refine ⟨?_, hpart, ?_, ?_, heven⟩ <;> rw [ZoomCrop.eighth] <;> omega

theorem share_le {ratio whole dst : ℤ} (h : ratio ≤ whole * 100 / dst) (hdst : 0 < dst) :
    ratio * dst ≤ whole * 100 ∧ ratio * dst / 100 ≤ whole := by
  have hmul : ratio * dst ≤ whole * 100 := by
    calc ratio * dst ≤ whole * 100 / dst * dst := Int.mul_le_mul_of_nonneg_right h hdst.le
      _ ≤ whole * 100 := Int.ediv_mul_le _ hdst.ne'
  exact ⟨hmul, by omega⟩

/-! ### The steps -/

/-- The percentage of the destination that the source has room for both ways. -/
def cropRatio (src_width src_height dst_width dst_height : ℤ) : ℤ :=
  min (src_width * 100 / dst_width) (src_height * 100 / dst_height)

section Steps

variable {src_width src_height dst_width dst_height : ℤ}
  (hsw : 0 < src_width) (hsh : 0 < src_height) (hdw : 0 < dst_width) (hdh : 0 < dst_height)
  (hswmax : src_width * 100 ≤ INT_MAX) (hshmax : src_height * 100 ≤ INT_MAX)

include hsw hsh hswmax

theorem needsCrop_eq (hdw : 0 < dst_width) (hdh : 0 < dst_height)
    (hdwmax : dst_width * 100 ≤ INT_MAX) (isNeedCrop : Bool) :
    needsCrop src_width src_height dst_width dst_height isNeedCrop = some (isNeedCrop &&
      decide (src_width * 100 / src_height ≠ dst_width * 100 / dst_height)) := by
  cases isNeedCrop with
  | false => rfl
  | true =>
    rw [needsCrop, if_pos rfl, mulDiv_eq (by omega) hswmax hsh, mulDiv_eq (by omega) hdwmax hdh]
    rfl

include hshmax hdw hdh

/-- In the cropping case the part is one percentage of the destination both ways. -/
theorem crop_spec :
    let ratio := cropRatio src_width src_height dst_width dst_height
    let cropW := even (ratio * dst_width / 100)
    let cropH := even (ratio * dst_height / 100)
    0 ≤ cropW ∧ cropW ≤ src_width ∧ 0 ≤ cropH ∧ cropH ≤ src_height ∧
      crop src_width src_height dst_width dst_height =
        some ⟨even ((src_width - cropW) / 2), even ((src_height - cropH) / 2), cropW, cropH⟩ := by
  have hratioW := mulDiv_eq (by omega) hswmax hdw
  have hratioH := mulDiv_eq (by omega) hshmax hdh
  have hposW : 0 ≤ src_width * 100 / dst_width := Int.ediv_nonneg (by omega) hdw.le
  have hposH : 0 ≤ src_height * 100 / dst_height := Int.ediv_nonneg (by omega) hdh.le
  obtain ⟨ratio, hratio⟩ :
      ∃ ratio, cropRatio src_width src_height dst_width dst_height = ratio := ⟨_, rfl⟩
  have hdef : (if src_width * 100 / dst_width ≥ src_height * 100 / dst_height
      then src_height * 100 / dst_height else src_width * 100 / dst_width) = ratio := by
    rw [← hratio, cropRatio, min_comm]
    rfl
  have hpos : 0 ≤ ratio := hratio ▸ le_min hposW hposH
  have hleW : ratio ≤ src_width * 100 / dst_width := hratio ▸ min_le_left _ _
  have hleH : ratio ≤ src_height * 100 / dst_height := hratio ▸ min_le_right _ _
  rw [hratio]
  obtain ⟨hmulW, hpartW⟩ := share_le hleW hdw
  obtain ⟨hmulH, hpartH⟩ := share_le hleH hdh
  have hnonW : 0 ≤ ratio * dst_width := Int.mul_nonneg hpos hdw.le
  have hnonH : 0 ≤ ratio * dst_height := Int.mul_nonneg hpos hdh.le
  have hcropW := even_nonneg (Int.ediv_nonneg hnonW (by decide : (0 : ℤ) ≤ 100))
  have hcropH := even_nonneg (Int.ediv_nonneg hnonH (by decide : (0 : ℤ) ≤ 100))
  have hinW := (even_le (ratio * dst_width / 100)).trans hpartW
  have hinH := (even_le (ratio * dst_height / 100)).trans hpartH
  refine ⟨hcropW, hinW, hcropH, hinH, ?_⟩
  rw [crop, hratioW, hratioH]
  simp only [Option.bind_eq_bind, Option.bind_some]
  rw [hdef, mulDiv_eq hnonW (hmulW.trans hswmax) (by decide),
    mulDiv_eq hnonH (hmulH.trans hshmax) (by decide)]
  simp only [Option.bind_some]
  rw [centre_eq hcropW hinW (by omega), centre_eq hcropH hinH (by omega)]
  rfl

end Steps

def zoomPart (zoom_val part : ℤ) : ℤ := if zoom_val > 100 then even (part * 100 / zoom_val) else part

theorem zoomPart_le (zoom_val : ℤ) {part : ℤ} (h : 0 ≤ part) :
    0 ≤ zoomPart zoom_val part ∧ zoomPart zoom_val part ≤ part := by
  rw [zoomPart]
  split
  · rename_i hz
    have hle := even_le (part * 100 / zoom_val)
    have hdiv : part * 100 / zoom_val ≤ part :=
      Int.ediv_le_of_le_mul (by omega) (Int.mul_le_mul_of_nonneg_left hz.le h)
    exact ⟨even_nonneg (Int.ediv_nonneg (by omega) (by omega)), hle.trans hdiv⟩
  · exact ⟨h, le_rfl⟩

theorem zoom_spec {src_width src_height : ℤ} (zoom_val : ℤ) {rect : RgaRect}
    (hswmax : src_width * 100 ≤ INT_MAX) (hshmax : src_height * 100 ≤ INT_MAX)
    (hw : Within src_width rect.xoffset rect.width)
    (hh : Within src_height rect.yoffset rect.height) :
    ∃ rect', zoom src_width src_height zoom_val rect = some rect' ∧
      Within src_width rect'.xoffset rect'.width ∧ Within src_height rect'.yoffset rect'.height ∧
      rect'.width = zoomPart zoom_val rect.width ∧
      rect'.height = zoomPart zoom_val rect.height := by
  by_cases hz : zoom_val > 100
  · obtain ⟨hoffW, hposW, hinW, -, -⟩ := hw
    obtain ⟨hoffH, hposH, hinH, -, -⟩ := hh
    obtain ⟨hnonW, hleW⟩ := zoomPart_le zoom_val hposW
    obtain ⟨hnonH, hleH⟩ := zoomPart_le zoom_val hposH
    rw [zoomPart, if_pos hz] at hnonW hleW hnonH hleH
    refine ⟨⟨even ((src_width - even (rect.width * 100 / zoom_val)) / 2),
      even ((src_height - even (rect.height * 100 / zoom_val)) / 2),
      even (rect.width * 100 / zoom_val), even (rect.height * 100 / zoom_val)⟩, ?_,
      within_centre hnonW (by omega) (even_mod _), within_centre hnonH (by omega) (even_mod _),
      (if_pos hz).symm, (if_pos hz).symm⟩
    rw [zoom, if_pos hz, mulDiv_eq (by omega) (by omega) (by omega),
      mulDiv_eq (by omega) (by omega) (by omega)]
    simp only [Option.bind_eq_bind, Option.bind_some]
    rw [centre_eq hnonW (by omega) (by omega), centre_eq hnonH (by omega) (by omega)]
    rfl
  · exact ⟨rect, if_neg hz, hw, hh, (if_neg hz).symm, (if_neg hz).symm⟩

/-! ### The rectangle -/

/-- What the zoom leaves of a part, as a number that is rounded down to even. -/
def zoomed (zoom_val part : ℤ) : ℤ :=
  if zoom_val > 100 then evenFloor (100 / zoom_val * part) else part

theorem zoomPart_eq (zoom_val part : ℤ) : zoomPart zoom_val part = zoomed zoom_val part := by
  rw [zoomPart, zoomed]
  split
  · rename_i hz
    obtain ⟨n, rfl⟩ := Int.eq_ofNat_of_zero_le (show 0 ≤ zoom_val by omega)
    rw [even_ediv]
    congr 1
    push_cast
    ring
  · rfl

theorem even_share (ratio dst : ℤ) :
    even (ratio * dst / 100) = evenFloor ((ratio : ℚ) / 100 * dst) := by
  have h := even_ediv (ratio * dst) (b := 100)
  push_cast at h
  rw [h]
  congr 1
  ring

/-- What the crop leaves of the source in one direction. -/
def cropPart (cropped : Bool) (ratio whole dst : ℤ) : ℤ :=
  if cropped then evenFloor ((ratio : ℚ) / 100 * dst) else whole

def zoomShare (zoom_val : ℤ) : ℚ := if zoom_val > 100 then 100 / zoom_val else 1

/-- The zoom of a crop in one direction. It may cover less than the exact zoom, by less than two
pixels, and, as the crop has been rounded as well, by less than four than the percentage of the
destination. -/
structure Covers (zoom_val : ℤ) (cropped : Bool) (ratio whole dst part : ℤ) : Prop where
  zoom : part = zoomed zoom_val (cropPart cropped ratio whole dst)
  crop : (part : ℚ) ≤ zoomShare zoom_val * cropPart cropped ratio whole dst ∧
    zoomShare zoom_val * cropPart cropped ratio whole dst < part + 2
  share : cropped = true → (part : ℚ) ≤ zoomShare zoom_val * (ratio / 100) * dst ∧
    zoomShare zoom_val * (ratio / 100) * dst < part + 4

/-- The rectangle of the source, which is the whole or cropped. -/
structure IsZoomOf (src_width src_height dst_width dst_height zoom_val : ℤ) (cropped : Bool)
    (rect : RgaRect) : Prop where
  horizontal : Within src_width rect.xoffset rect.width
  vertical : Within src_height rect.yoffset rect.height
  width : Covers zoom_val cropped (cropRatio src_width src_height dst_width dst_height) src_width
    dst_width rect.width
  height : Covers zoom_val cropped (cropRatio src_width src_height dst_width dst_height) src_height
    dst_height rect.height

theorem zoomShare_bounds (zoom_val : ℤ) : 0 < zoomShare zoom_val ∧ zoomShare zoom_val ≤ 1 := by
  unfold zoomShare
  split
  · rename_i hz
    have hz' : (100 : ℚ) < zoom_val := by exact_mod_cast hz
    exact ⟨by positivity, (div_le_one (by linarith)).mpr hz'.le⟩
  · exact ⟨one_pos, le_rfl⟩

theorem covers_zoomed (zoom_val : ℤ) (cropped : Bool) (ratio whole dst : ℤ) :
    Covers zoom_val cropped ratio whole dst
      (zoomed zoom_val (cropPart cropped ratio whole dst)) := by
  obtain ⟨hpos, hle⟩ := zoomShare_bounds zoom_val
  have hcrop : ((zoomed zoom_val (cropPart cropped ratio whole dst) : ℤ) : ℚ) ≤
        zoomShare zoom_val * cropPart cropped ratio whole dst ∧
      zoomShare zoom_val * cropPart cropped ratio whole dst <
        (zoomed zoom_val (cropPart cropped ratio whole dst) : ℤ) + 2 := by
    unfold zoomed zoomShare
    split
    · exact evenFloor_bounds _
    · constructor
      · linarith
      · linarith
  refine ⟨rfl, hcrop, ?_⟩
  rintro rfl
  have hexact := evenFloor_bounds ((ratio : ℚ) / 100 * dst)
  have hpart : cropPart true ratio whole dst = evenFloor ((ratio : ℚ) / 100 * dst) := if_pos rfl
  rw [← hpart] at hexact
  have hmul := mul_le_mul_of_nonneg_left hexact.1 hpos.le
  have hmul' := mul_lt_mul_of_pos_left hexact.2 hpos
  rw [← mul_assoc] at hmul hmul'
  constructor
  · linarith [hcrop.1]
  · linarith [hcrop.2]

theorem crop_within {src_width src_height dst_width dst_height : ℤ} (hsw : 0 < src_width)
    (hsh : 0 < src_height) (hsweven : src_width % 2 = 0) (hsheven : src_height % 2 = 0)
    (hdw : 0 < dst_width) (hdh : 0 < dst_height) (hswprod : src_width * 100 ≤ INT_MAX)
    (hshprod : src_height * 100 ≤ INT_MAX) (cropped : Bool) :
    ∃ rect, (if cropped then crop src_width src_height dst_width dst_height
        else some ⟨0, 0, src_width, src_height⟩) = some rect ∧
      Within src_width rect.xoffset rect.width ∧ Within src_height rect.yoffset rect.height ∧
      rect.width = cropPart cropped (cropRatio src_width src_height dst_width dst_height) src_width
        dst_width ∧
      rect.height = cropPart cropped (cropRatio src_width src_height dst_width dst_height)
        src_height dst_height := by
  cases cropped with
  | false => exact ⟨_, rfl, within_whole hsw hsweven, within_whole hsh hsheven, rfl, rfl⟩
  | true =>
    obtain ⟨hposW, hleW, hposH, hleH, hcrop⟩ := crop_spec hsw hsh hdw hdh hswprod hshprod
    exact ⟨_, hcrop, within_centre hposW hleW (even_mod _), within_centre hposH hleH (even_mod _),
      even_share _ dst_width, even_share _ dst_height⟩

theorem rgaNv12ScaleCrop_rect {RGA_VIRTUAL_H src_width src_height dst_width dst_height : ℤ}
    (hsw : 0 < src_width) (hsh : 0 < src_height) (hsweven : src_width % 2 = 0)
    (hsheven : src_height % 2 = 0) (hdw : 0 < dst_width) (hdh : 0 < dst_height)
    (hdwmax : dst_width ≤ RGA_VIRTUAL_W) (hdhmax : dst_height ≤ RGA_VIRTUAL_H)
    (hswprod : src_width * 100 ≤ INT_MAX) (hshprod : src_height * 100 ≤ INT_MAX)
    (zoom_val : ℤ) (isNeedCrop is16Align : Bool) :
    ∃ rect, rgaNv12ScaleCrop RGA_VIRTUAL_H src_width src_height dst_width dst_height zoom_val
        isNeedCrop is16Align = some (.blit rect) ∧
      IsZoomOf src_width src_height dst_width dst_height zoom_val
        (isNeedCrop && decide (src_width * 100 / src_height ≠ dst_width * 100 / dst_height))
        rect := by
  have hdwprod : dst_width * 100 ≤ INT_MAX := by
    rw [RGA_VIRTUAL_W] at hdwmax
    rw [INT_MAX]
    omega
  have hbeyond : ¬ (dst_width > RGA_VIRTUAL_W ∨ dst_height > RGA_VIRTUAL_H) := by omega
  have hneeds := needsCrop_eq hsw hsh hswprod hdw hdh hdwprod isNeedCrop
  rw [rgaNv12ScaleCrop, if_neg hbeyond, hneeds]
  generalize (isNeedCrop && decide (src_width * 100 / src_height ≠ dst_width * 100 / dst_height)) =
    cropped
  obtain ⟨rect, hrect, hwithinW, hwithinH, hcropW, hcropH⟩ :=
    crop_within hsw hsh hsweven hsheven hdw hdh hswprod hshprod cropped
  obtain ⟨rect', hzoom, hx, hy, hw, hh⟩ :=
    zoom_spec zoom_val hswprod hshprod hwithinW hwithinH
  rw [zoomPart_eq, hcropW] at hw
  rw [zoomPart_eq, hcropH] at hh
  have hcoverW := covers_zoomed zoom_val cropped
    (cropRatio src_width src_height dst_width dst_height) src_width dst_width
  have hcoverH := covers_zoomed zoom_val cropped
    (cropRatio src_width src_height dst_width dst_height) src_height dst_height
  rw [← hw] at hcoverW
  rw [← hh] at hcoverH
  refine ⟨alignTop is16Align rect', ?_, ?_⟩
  · change ((if cropped then crop src_width src_height dst_width dst_height
      else some ⟨0, 0, src_width, src_height⟩).bind fun rect ↦
        (zoom src_width src_height zoom_val rect).bind _) = _
    rw [hrect, Option.bind_some, hzoom]
    rfl
  · cases is16Align with
    | true => exact ⟨hx, hy, hcoverW, hcoverH⟩
    | false => exact ⟨hx, hy.eighth, hcoverW, hcoverH⟩

/-- A wide source for a square destination. -/
theorem rgaNv12ScaleCrop_rect_square :
    rgaNv12ScaleCrop 2048 1280 720 640 640 150 true false = some (.blit ⟨402, 120, 476, 476⟩) ∧
      cropRatio 1280 720 640 640 = 112 ∧
      IsZoomOf 1280 720 640 640 150 true ⟨402, 120, 476, 476⟩ := by
  have hblit : rgaNv12ScaleCrop 2048 1280 720 640 640 150 true false =
      some (.blit ⟨402, 120, 476, 476⟩) := by decide
  obtain ⟨rect, hrect, hzoom⟩ :
      ∃ rect, rgaNv12ScaleCrop 2048 1280 720 640 640 150 true false = some (.blit rect) ∧
        IsZoomOf 1280 720 640 640 150 true rect :=
    rgaNv12ScaleCrop_rect (by decide) (by decide) (by decide) (by decide) (by decide) (by decide)
      (by decide) (by decide) (by decide) (by decide) 150 true false
  obtain rfl : rect = ⟨402, 120, 476, 476⟩ :=
    Outcome.blit.inj (Option.some.inj (hrect.symm.trans hblit))
  exact ⟨hblit, by decide, hzoom⟩

/-- The crop of 202 by 204 zooms to 200 both ways. -/
theorem not_same_percentage :
    rgaNv12ScaleCrop 2048 202 210 202 205 101 true true = some (.blit ⟨0, 4, 200, 200⟩) ∧
      crop 202 210 202 205 = some ⟨0, 2, 202, 204⟩ ∧ (200 : ℚ) < 100 / 101 * 204 ∧
      ¬ ∃ ratio : ℚ, 200 = evenFloor (ratio * 202) ∧ 200 = evenFloor (ratio * 205) := by
  refine ⟨by decide, by decide, by norm_num, ?_⟩
  intro h
  obtain ⟨ratio, hw, hh⟩ := h
  have hlow := (evenFloor_bounds (ratio * 202)).1
  have hhigh := (evenFloor_bounds (ratio * 205)).2
  rw [← hw] at hlow
  rw [← hh] at hhigh
  push_cast at hlow hhigh
  linarith

end VirtualCamera.Session.ZoomCrop
