import VirtualCamera.Library.Raster
import VirtualCamera.Session.Scaling

namespace VirtualCamera.Session.Layout

open Library.Memory Library.Raster Capture Streams Scaling

/-- What `allocate` says about the whole frame. -/
def allocateLayout (f : AllocatedFrame) : YCbCrLayout :=
  let area := f.width * f.height % 2 ^ 32
  ⟨0, f.width, area, area + area / 4, f.width / 2, 1⟩

def yPlane (f : AllocatedFrame) (l : YCbCrLayout) : Grid := ⟨l.y, f.width, f.height, l.yStride, 1⟩

def cbPlane (f : AllocatedFrame) (l : YCbCrLayout) : Grid :=
  ⟨l.cb, f.width / 2, f.height / 2, l.cStride, l.chromaStep⟩

def crPlane (f : AllocatedFrame) (l : YCbCrLayout) : Grid :=
  ⟨l.cr, f.width / 2, f.height / 2, l.cStride, l.chromaStep⟩

/-- What is read at the points of the rectangle are the samples of the whole frame there, in the
plane's own part of the allocation. There is a sample for every `sub` points. -/
def Samples (part whole : Grid) (rect : Rect) (sub lo hi : ℕ) : Prop :=
  ∀ x y : ℕ, (x : ℤ) < rect.width → (y : ℤ) < rect.height →
    part.cell (x / sub) (y / sub) =
        whole.cell ((rect.left.toNat + x) / sub) ((rect.top.toNat + y) / sub) ∧
      (lo : ℤ) ≤ part.cell (x / sub) (y / sub) ∧ part.cell (x / sub) (y / sub) < hi

structure IsSubImage (f : AllocatedFrame) (rect : Rect) (l : YCbCrLayout) : Prop where
  y : Samples (yPlane f l) (yPlane f (allocateLayout f)) rect 1 0 (f.width * f.height)
  cb : Samples (cbPlane f l) (cbPlane f (allocateLayout f)) rect 2 (f.width * f.height)
    (f.width * f.height + f.width * f.height / 4)
  cr : Samples (crPlane f l) (crPlane f (allocateLayout f)) rect 2
    (f.width * f.height + f.width * f.height / 4) f.dataSize

/-- The members are `int32_t` and not negative. -/
structure Nonneg (rect : Rect) : Prop where
  left : 0 ≤ rect.left ∧ rect.left ≤ INT_MAX
  top : 0 ≤ rect.top ∧ rect.top ≤ INT_MAX
  width : 0 ≤ rect.width ∧ rect.width ≤ INT_MAX
  height : 0 ≤ rect.height ∧ rect.height ≤ INT_MAX

/-- The sums that are compared with the size are right. -/
def SumsFit (rect : Rect) : Prop :=
  rect.left + rect.width ≤ INT_MAX ∧ rect.top + rect.height ≤ INT_MAX

/-- The frame has been allocated, with `width * height * 3` in 32 bits. -/
structure Allocated (f : AllocatedFrame) : Prop where
  width : f.width % 2 = 0
  height : f.height % 2 = 0
  size : f.width * f.height * 3 < 2 ^ 32
  dataSize : f.dataSize = f.width * f.height * 3 / 2

variable {f g : AllocatedFrame} {rect : Rect} {l : YCbCrLayout}

theorem allocated_of_allocate (h : f.allocate = (true, g)) (hsize : f.width * f.height * 3 < 2 ^ 32) :
    Allocated g := by
  unfold AllocatedFrame.allocate at h
  split at h
  · cases h
  · rename_i heven
    cases h
    push Not at heven
    refine ⟨heven.1, heven.2, hsize, ?_⟩
    show f.width * f.height * 3 % 2 ^ 32 / 2 = _
    rw [Nat.mod_eq_of_lt hsize]

theorem Allocated.area (h : Allocated f) : f.width * f.height % 2 ^ 32 = f.width * f.height := by
  have hsize := h.size
  exact Nat.mod_eq_of_lt (by omega)

/-- What an accepted rectangle has passed, and its layout. -/
theorem getCroppedLayout_some (h : getCroppedLayout f rect = some l) :
    int32 (rect.left + rect.width) ≤ toInt32 f.width ∧
    int32 (rect.top + rect.height) ≤ toInt32 f.height ∧
    (rect.left % 2 = 0 ∧ rect.top % 2 = 0 ∧ rect.width % 2 = 0 ∧ rect.height % 2 = 0) ∧
    l = (let area := f.width * f.height % 2 ^ 32
      let row := f.width * rect.top.toNat % 2 ^ 32
      let cbStart := area + row / 4 + rect.left.toNat / 2
      ⟨row + rect.left.toNat, f.width, cbStart, cbStart + area / 4, f.width / 2, 1⟩) := by
  unfold getCroppedLayout at h
  split at h
  · cases h
  · rename_i hc
    refine ⟨by omega, by omega, by omega, ?_⟩
    exact (Option.some.inj h).symm

theorem toInt32_le (n : ℕ) : toInt32 n ≤ n := by
  by_cases hn : n ≤ INT_MAX
  · rw [toInt32_of_le hn]
  · have hrange := (int32_range n).2
    unfold INT_MAX at hn
    unfold toInt32
    omega

theorem inside_of_fit (hrect : Nonneg rect) (hfit : SumsFit rect)
    (h : getCroppedLayout f rect = some l) :
    rect.left + rect.width ≤ f.width ∧ rect.top + rect.height ≤ f.height := by
  obtain ⟨hright, hbottom, -, -⟩ := getCroppedLayout_some h
  obtain ⟨hleft, htop, hwidth, hheight⟩ := hrect
  obtain ⟨hfit, hfit'⟩ := hfit
  have hw := toInt32_le f.width
  have hh := toInt32_le f.height
  unfold INT_MAX at hfit hfit'
  rw [int32_of_range (by omega) (by omega)] at hright hbottom
  exact ⟨by omega, by omega⟩

/-- A part of a packed plane that starts at a sample is read with the plane's stride. -/
theorem samples_packed (left top : ℕ) {base width height offset sub hi : ℕ}
    (hoffset : offset = base + top * width + left) (hhi : hi = base + width * height)
    (hleft : rect.left = (left * sub : ℕ)) (htop : rect.top = (top * sub : ℕ)) (hsub : 0 < sub)
    (hright : rect.left + rect.width ≤ (width * sub : ℕ))
    (hbottom : rect.top + rect.height ≤ (height * sub : ℕ)) :
    Samples ⟨offset, width, height, width, 1⟩ (packed base width height) rect sub base hi := by
  intro x y hx hy
  have hleft' : (rect.left.toNat + x) / sub = left + x / sub := by
    rw [hleft, Int.toNat_natCast, Nat.add_comm, Nat.add_mul_div_right _ _ hsub, Nat.add_comm]
  have htop' : (rect.top.toNat + y) / sub = top + y / sub := by
    rw [htop, Int.toNat_natCast, Nat.add_comm, Nat.add_mul_div_right _ _ hsub, Nat.add_comm]
  have hcol : left + x / sub < width := by
    rw [← hleft']
    apply Nat.div_lt_of_lt_mul
    rw [Nat.mul_comm]
    omega
  have hrow : top + y / sub < height := by
    rw [← htop']
    apply Nat.div_lt_of_lt_mul
    rw [Nat.mul_comm]
    omega
  have hcell : (⟨offset, width, height, width, 1⟩ : Grid).cell (x / sub) (y / sub) =
      (packed base width height).cell (left + x / sub) (top + y / sub) := by
    simp only [Grid.cell, packed, hoffset]
    push_cast
    ring
  have hlt := packed_lt hcol hrow
  rw [hleft', htop', hcell, packed_cell, hhi]
  refine ⟨rfl, Int.le_add_of_nonneg_right (Int.natCast_nonneg _), ?_⟩
  exact_mod_cast Nat.add_lt_add_left hlt base

/-- The offsets of a rectangle that starts at even points in the frame. -/
theorem layout_eq (hf : Allocated f) (h : getCroppedLayout f rect = some l) {w left top : ℕ}
    (hw : f.width = w * 2) (hleft : rect.left = (left * 2 : ℕ)) (htop : rect.top = (top * 2 : ℕ))
    (hle : top * 2 ≤ f.height) :
    l = ⟨top * 2 * f.width + left * 2, f.width, f.width * f.height + top * w + left,
      f.width * f.height + top * w + left + f.width * f.height / 4, w, 1⟩ := by
  obtain ⟨-, -, -, hl⟩ := getCroppedLayout_some h
  have hsize := hf.size
  have hwrap : f.width * (top * 2) % 2 ^ 32 = f.width * (top * 2) := by
    have hmul := Nat.mul_le_mul_left f.width hle
    exact Nat.mod_eq_of_lt (by omega)
  have hquarter : f.width * (top * 2) / 4 = top * w := by
    rw [hw, show w * 2 * (top * 2) = top * w * 4 by ring, Nat.mul_div_cancel _ (by decide)]
  have hhalf : f.width / 2 = w := by omega
  have hhalf' : left * 2 / 2 = left := by omega
  rw [hl, hf.area, hleft, htop, Int.toNat_natCast, Int.toNat_natCast, hwrap]
  dsimp only
  rw [hquarter, hhalf, hhalf', Nat.mul_comm f.width (top * 2)]

theorem isSubImage_of_fit (hf : Allocated f) (hrect : Nonneg rect) (hfit : SumsFit rect)
    (h : getCroppedLayout f rect = some l) : IsSubImage f rect l := by
  obtain ⟨hright, hbottom⟩ := inside_of_fit hrect hfit h
  obtain ⟨-, -, ⟨hleft2, htop2, hwidth2, hheight2⟩, -⟩ := getCroppedLayout_some h
  obtain ⟨w, hw⟩ : ∃ w, f.width = w * 2 := ⟨f.width / 2, by have := hf.width; omega⟩
  obtain ⟨v, hv⟩ : ∃ v, f.height = v * 2 := ⟨f.height / 2, by have := hf.height; omega⟩
  obtain ⟨left, hleft⟩ : ∃ left : ℕ, rect.left = (left * 2 : ℕ) :=
    ⟨rect.left.toNat / 2, by have := hrect.left; omega⟩
  obtain ⟨top, htop⟩ : ∃ top : ℕ, rect.top = (top * 2 : ℕ) :=
    ⟨rect.top.toNat / 2, by have := hrect.top; omega⟩
  have hheight := hrect.height
  have hl := layout_eq hf h hw hleft htop (by omega)
  have hquarter : f.width * f.height / 4 = w * v := by
    rw [hw, hv, show w * 2 * (v * 2) = w * v * 4 by ring, Nat.mul_div_cancel _ (by decide)]
  have hdata : f.dataSize = f.width * f.height + f.width * f.height / 4 + w * v := by
    rw [hf.dataSize, hquarter, hw, hv, show w * 2 * (v * 2) * 3 = w * v * 6 * 2 by ring,
      Nat.mul_div_cancel _ (by decide)]
    ring
  have hhalf : f.width / 2 = w := by omega
  have hhalf' : f.height / 2 = v := by omega
  constructor
  · have hpart : yPlane f l =
        ⟨(top * 2 * f.width + left * 2 : ℕ), f.width, f.height, f.width, 1⟩ := by
      rw [hl]
      rfl
    have hwhole : yPlane f (allocateLayout f) = packed (0 : ℕ) f.width f.height := rfl
    rw [hpart, hwhole]
    exact samples_packed (left * 2) (top * 2) (by omega) (by omega) (by omega) (by omega)
      Nat.one_pos (by omega) (by omega)
  · have hpart : cbPlane f l = ⟨(f.width * f.height + top * w + left : ℕ), w, v, w, 1⟩ := by
      rw [hl, cbPlane, hhalf, hhalf']
      rfl
    have hwhole : cbPlane f (allocateLayout f) = packed (f.width * f.height : ℕ) w v := by
      rw [cbPlane, allocateLayout, hf.area, hhalf, hhalf']
      rfl
    rw [hpart, hwhole]
    exact samples_packed left top rfl (by rw [hquarter]) hleft htop Nat.two_pos (by omega)
      (by omega)
  · have hpart : crPlane f l =
        ⟨(f.width * f.height + top * w + left + f.width * f.height / 4 : ℕ), w, v, w, 1⟩ := by
      rw [hl, crPlane, hhalf, hhalf']
      rfl
    have hwhole : crPlane f (allocateLayout f) =
        packed (f.width * f.height + f.width * f.height / 4 : ℕ) w v := by
      rw [crPlane, allocateLayout, hf.area, hhalf, hhalf']
      rfl
    rw [hpart, hwhole]
    exact samples_packed left top (by omega) hdata hleft htop Nat.two_pos (by omega) (by omega)

theorem isSubImage_of_empty (hempty : rect.width = 0 ∨ rect.height = 0) : IsSubImage f rect l := by
  have hnone : ∀ x y : ℕ, (x : ℤ) < rect.width → ¬ (y : ℤ) < rect.height := by
    intro x y hx hy
    omega
  refine ⟨?_, ?_, ?_⟩ <;> exact fun x y hx hy ↦ absurd hy (hnone x y hx)

/-- Otherwise the sums have to fit: a point too far to the right is behind the plane, and one too
far down is as well, unless its row number has wrapped round. -/
theorem sumsFit_of_isSubImage (hf : Allocated f) (hrect : Nonneg rect)
    (h : getCroppedLayout f rect = some l) (hwidth : 0 < rect.width) (hheight : 0 < rect.height)
    (hsub : IsSubImage f rect l) : SumsFit rect := by
  obtain ⟨-, -, heven, hl⟩ := getCroppedLayout_some h
  obtain ⟨hleft, htop, hwidth', hheight'⟩ := hrect
  have hsize := hf.size
  have hcell : ∀ x y : ℕ, (x : ℤ) < rect.width → (y : ℤ) < rect.height →
      f.width * rect.top.toNat % 2 ^ 32 + rect.left.toNat + f.width * y + x <
        f.width * f.height := by
    intro x y hx hy
    have hlt := (hsub.y x y hx hy).2.2
    have hpart : (yPlane f l).cell x y =
        ((f.width * rect.top.toNat % 2 ^ 32 + rect.left.toNat + f.width * y + x : ℕ) : ℤ) := by
      rw [hl]
      simp only [yPlane, Grid.cell]
      push_cast
      ring
    rw [Nat.div_one, Nat.div_one, hpart] at hlt
    exact_mod_cast hlt
  constructor
  · by_contra hc
    have hlast := hcell (rect.width.toNat - 1) 0 (by omega) (by omega)
    unfold INT_MAX at hc
    omega
  · by_contra hc
    unfold INT_MAX at hc htop
    obtain ⟨w, hw⟩ : ∃ w, f.width = w * 2 := ⟨f.width / 2, by have := hf.width; omega⟩
    obtain ⟨d, hd⟩ : ∃ d, rect.top.toNat + (d + 1) = 2 ^ 31 :=
      ⟨2 ^ 31 - 1 - rect.top.toNat, by omega⟩
    have hfar := hcell 0 d (by omega) (by omega)
    have hround : (f.width * rect.top.toNat % 2 ^ 32 + f.width * (d + 1)) % 2 ^ 32 = 0 := by
      rw [Nat.mod_add_mod, ← Nat.mul_add, hd, hw, show w * 2 * 2 ^ 31 = w * 2 ^ 32 by ring,
        Nat.mul_mod_left]
    have hpos : 0 < f.width * f.height := by omega
    have hcolumns : 0 < f.width := Nat.pos_of_mul_pos_right hpos
    have hrow : f.width ≤ f.width * f.height :=
      Nat.le_mul_of_pos_right _ (Nat.pos_of_mul_pos_left hpos)
    rw [Nat.mul_succ] at hround
    omega

/-- A rectangle need not be a part of the frame to be accepted: the sums may have wrapped
round. -/
theorem croppedLayout_isSubImage_iff (halloc : f.allocate = (true, g))
    (hsize : f.width * f.height * 3 < 2 ^ 32) (hrect : Nonneg rect)
    (h : getCroppedLayout g rect = some l) :
    IsSubImage g rect l ↔ rect.width = 0 ∨ rect.height = 0 ∨ SumsFit rect := by
  have hg := allocated_of_allocate halloc hsize
  constructor
  · intro hsub
    by_cases hwidth : rect.width = 0
    · exact .inl hwidth
    · by_cases hheight : rect.height = 0
      · exact .inr (.inl hheight)
      · have hw := hrect.width
        have hh := hrect.height
        exact .inr (.inr (sumsFit_of_isSubImage hg hrect h (by omega) (by omega) hsub))
  · intro hcond
    obtain hwidth | hheight | hfit := hcond
    · exact isSubImage_of_empty (.inl hwidth)
    · exact isSubImage_of_empty (.inr hheight)
    · exact isSubImage_of_fit hg hrect hfit h

end VirtualCamera.Session.Layout
