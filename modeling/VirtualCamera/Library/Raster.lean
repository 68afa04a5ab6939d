import Mathlib.Algebra.Order.Ring.Int
import Mathlib.Tactic.Linarith
import Mathlib.Tactic.Ring

namespace VirtualCamera.Library.Raster

/-- Rows of cells in a linear memory: cells are `step` apart in a row, and rows `stride`. -/
structure Grid where
  base : ℤ
  width : ℕ
  height : ℕ
  stride : ℤ
  step : ℤ
  deriving DecidableEq, Repr

def Grid.cell (g : Grid) (x y : ℕ) : ℤ := g.base + g.stride * y + g.step * x

def Grid.Covers (g : Grid) (k : ℤ) : Prop :=
  ∃ x y, x < g.width ∧ y < g.height ∧ k = g.cell x y

def Grid.Within (g : Grid) (lo hi : ℤ) : Prop :=
  ∀ x y, x < g.width → y < g.height → lo ≤ g.cell x y ∧ g.cell x y < hi

/-- A part of a grid, which keeps its stride. -/
def Grid.sub (g : Grid) (left top width height : ℕ) : Grid where
  base := g.cell left top
  width := width
  height := height
  stride := g.stride
  step := g.step

def packed (base : ℤ) (width height : ℕ) : Grid := ⟨base, width, height, width, 1⟩

variable {g : Grid}

/-- Rows that do not run into each other have each cell once. -/
theorem Grid.cell_inj (g : Grid) (hstep : 0 < g.step) (hrow : g.step * (g.width - 1) < g.stride)
    {x y x' y' : ℕ} (hx : x < g.width) (hx' : x' < g.width) (h : g.cell x y = g.cell x' y') :
    x = x' ∧ y = y' := by
  unfold Grid.cell at h
  have hle (x : ℕ) (hx : x < g.width) : g.step * x ≤ g.step * (g.width - 1) :=
    mul_le_mul_of_nonneg_left (by omega) hstep.le
  have hnonneg (x : ℕ) : 0 ≤ g.step * x := mul_nonneg hstep.le (Int.natCast_nonneg x)
  have hbelow (y y' : ℕ) (hy : y < y') : g.stride * y + g.stride ≤ g.stride * y' := by
    have hpos : 0 ≤ g.stride := (hnonneg 0).trans (by
      rw [Nat.cast_zero, mul_zero]
      exact (mul_nonneg hstep.le (by omega)).trans hrow.le)
    have hsucc : g.stride * (y + 1 : ℕ) ≤ g.stride * y' :=
      mul_le_mul_of_nonneg_left (by exact_mod_cast hy) hpos
    rw [Nat.cast_succ, mul_add, mul_one] at hsucc
    exact hsucc
  have hy : y = y' := by
    rcases Nat.lt_trichotomy y y' with hlt | heq | hgt
    · have := hbelow y y' hlt
      have := hle x hx
      have := hnonneg x'
      omega
    · exact heq
    · have := hbelow y' y hgt
      have := hle x' hx'
      have := hnonneg x
      omega
  subst hy
  refine ⟨?_, rfl⟩
  have hmul : g.step * x = g.step * x' := by omega
  exact_mod_cast mul_left_cancel₀ hstep.ne' hmul

/-- Rows that do not run into each other end before the row after the last. -/
theorem Grid.Covers.bounds (hstep : 0 ≤ g.step) (hrow : g.step * (g.width - 1) < g.stride) {k : ℤ}
    (h : g.Covers k) : g.base ≤ k ∧ k < g.base + g.stride * g.height := by
  obtain ⟨x, y, hx, hy, rfl⟩ := h
  have hx0 : 0 ≤ g.step * x := mul_nonneg hstep (Int.natCast_nonneg x)
  have hxle : g.step * x ≤ g.step * (g.width - 1) := mul_le_mul_of_nonneg_left (by omega) hstep
  have hstride : 0 ≤ g.stride := by omega
  have hy0 : 0 ≤ g.stride * y := mul_nonneg hstride (Int.natCast_nonneg y)
  have hyle : g.stride * (y + 1 : ℕ) ≤ g.stride * g.height :=
    mul_le_mul_of_nonneg_left (by exact_mod_cast hy) hstride
  rw [Nat.cast_succ, mul_add, mul_one] at hyle
  unfold Grid.cell
  omega

/-- Where cells and rows go upwards, the last cell decides. -/
theorem Grid.within_iff_last {lo hi : ℤ} (hlo : lo ≤ g.base) (hstep : 0 ≤ g.step)
    (hstride : 0 ≤ g.stride) (hwidth : 0 < g.width) (hheight : 0 < g.height) :
    g.Within lo hi ↔ g.cell (g.width - 1) (g.height - 1) < hi := by
  constructor
  · exact fun h ↦ (h _ _ (Nat.sub_lt hwidth Nat.one_pos) (Nat.sub_lt hheight Nat.one_pos)).2
  · intro h x y hx hy
    have hx0 : 0 ≤ g.step * x := mul_nonneg hstep (Int.natCast_nonneg x)
    have hy0 : 0 ≤ g.stride * y := mul_nonneg hstride (Int.natCast_nonneg y)
    have hxle : g.step * x ≤ g.step * (g.width - 1 : ℕ) :=
      mul_le_mul_of_nonneg_left (by exact_mod_cast Nat.le_pred_of_lt hx) hstep
    have hyle : g.stride * y ≤ g.stride * (g.height - 1 : ℕ) :=
      mul_le_mul_of_nonneg_left (by exact_mod_cast Nat.le_pred_of_lt hy) hstride
    unfold Grid.cell at h ⊢
    omega

theorem cell_sub (left top width height x y : ℕ) :
    (g.sub left top width height).cell x y = g.cell (left + x) (top + y) := by
  simp only [Grid.cell, Grid.sub, Nat.cast_add]
  ring

/-- A part that starts and ends in the grid stays where it is. -/
theorem Grid.Within.sub {lo hi : ℤ} (h : g.Within lo hi) {left top width height : ℕ}
    (hright : left + width ≤ g.width) (hbottom : top + height ≤ g.height) :
    (g.sub left top width height).Within lo hi := by
  intro x y hx hy
  change x < width at hx
  change y < height at hy
  rw [cell_sub]
  exact h (left + x) (top + y) (by omega) (by omega)

theorem Grid.within_iff_covers {lo hi : ℤ} :
    g.Within lo hi ↔ ∀ k, g.Covers k → lo ≤ k ∧ k < hi := by
  constructor
  · intro h k hcond
    obtain ⟨x, y, hx, hy, rfl⟩ := hcond
    exact h x y hx hy
  · exact fun h x y hx hy ↦ h _ ⟨x, y, hx, hy, rfl⟩

theorem Grid.covers_congr {g' : Grid} (hwidth : g.width = g'.width) (hheight : g.height = g'.height)
    (hcell : ∀ x y, x < g.width → y < g.height → g.cell x y = g'.cell x y) {k : ℤ} :
    g.Covers k ↔ g'.Covers k := by
  constructor
  · intro h
    obtain ⟨x, y, hx, hy, rfl⟩ := h
    exact ⟨x, y, hwidth ▸ hx, hheight ▸ hy, hcell x y hx hy⟩
  · intro h
    obtain ⟨x, y, hx, hy, rfl⟩ := h
    rw [← hwidth] at hx
    rw [← hheight] at hy
    exact ⟨x, y, hx, hy, (hcell x y hx hy).symm⟩

theorem packed_cell (base : ℤ) (width height x y : ℕ) :
    (packed base width height).cell x y = base + (y * width + x : ℕ) := by
  simp only [Grid.cell, packed, Nat.cast_add, Nat.cast_mul]
  ring

theorem packed_lt {width height x y : ℕ} (hx : x < width) (hy : y < height) :
    y * width + x < width * height := by
  have hrow : (y + 1) * width ≤ height * width := Nat.mul_le_mul_right width hy
  rw [Nat.succ_mul] at hrow
  rw [Nat.mul_comm width]
  omega

/-- Packed rows take a whole range, and nothing else. -/
theorem packed_covers {base : ℤ} {width height : ℕ} {k : ℤ} :
    (packed base width height).Covers k ↔ base ≤ k ∧ k < base + (width * height : ℕ) := by
  constructor
  · intro h
    obtain ⟨x, y, hx, hy, rfl⟩ := h
    have hlt : y * width + x < width * height := packed_lt hx hy
    rw [packed_cell]
    omega
  · intro h
    obtain ⟨hlo, hhi⟩ := h
    obtain ⟨m, hk⟩ := Int.eq_ofNat_of_zero_le (show 0 ≤ k - base by omega)
    have hm : m < width * height := by omega
    have hwidth : 0 < width := by
      by_contra hzero
      rw [Nat.eq_zero_of_not_pos hzero, Nat.zero_mul] at hm
      omega
    refine ⟨m % width, m / width, Nat.mod_lt m hwidth, Nat.div_lt_of_lt_mul hm, ?_⟩
    rw [packed_cell, Nat.div_add_mod']
    omega

end VirtualCamera.Library.Raster
