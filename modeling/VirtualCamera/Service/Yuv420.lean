import VirtualCamera.Library.Memory
import VirtualCamera.Library.Stores

namespace VirtualCamera.Service.Yuv420

open Library.Memory Library.Raster Library.Stores

inductive Plane
  | y
  | cb
  | cr
  deriving DecidableEq, Repr

/-- What is computed before it is narrowed to a byte. -/
def Plane.expr : Plane → ℤ → ℤ → ℤ → ℤ
  | .y, R, G, B => (77 * R + 150 * G + 29 * B) >>> (8 : ℕ)
  | .cb, R, G, B => ((-43 * R - 85 * G + 128 * B) >>> (8 : ℕ)) + 128
  | .cr, R, G, B => ((128 * R - 107 * G - 21 * B) >>> (8 : ℕ)) + 128

def Plane.value (p : Plane) (rgbBuf : ℕ → UInt8) (index : ℕ) : ℤ :=
  p.expr (rgbBuf index).toNat (rgbBuf (index + 1)).toNat (rgbBuf (index + 2)).toNat

/-- The pointers to the rows, and how far apart samples and rows are. -/
structure Planes where
  yPlane : ℤ
  crPlane : ℤ
  cbPlane : ℤ
  chromaStep : ℕ
  yStride : ℕ
  chromaStride : ℕ
  deriving DecidableEq, Repr

structure Cursor where
  index : ℕ
  planes : Planes
  y : ℤ
  cb : ℤ
  cr : ℤ
  stores : List (ℤ × UInt8)

def pixelStores (rgbBuf : ℕ → UInt8) (index : ℕ) (y cb cr : ℤ) (chroma : Bool) :
    List (ℤ × UInt8) :=
  let store (p : Plane) (a : ℤ) : ℤ × UInt8 := (a, UInt8.ofInt (p.value rgbBuf index))
  store Plane.y y :: if chroma then [store Plane.cb cb, store Plane.cr cr] else []

/-- The body of the inner loop. The fourth byte of the pixel goes into a value that is not
used. -/
def Cursor.pixel (rgbBuf : ℕ → UInt8) (jEven : Bool) (c : Cursor) (i : ℕ) : Cursor :=
  let chroma := jEven && i % 2 == 0
  let step : ℕ := if chroma then c.planes.chromaStep else 0
  { c with
    index := c.index + 4
    y := c.y + 1
    cb := c.cb + step
    cr := c.cr + step
    stores := c.stores ++ pixelStores rgbBuf c.index c.y c.cb c.cr chroma }

def Planes.nextRow (t : Planes) (jEven : Bool) : Planes :=
  let stride : ℕ := if jEven then t.chromaStride else 0
  { t with
    yPlane := t.yPlane + t.yStride
    crPlane := t.crPlane + stride
    cbPlane := t.cbPlane + stride }

def Cursor.row (rgbBuf : ℕ → UInt8) (width : ℕ) (c : Cursor) (j : ℕ) : Cursor :=
  let jEven := j % 2 == 0
  let c := (List.range width).foldl (Cursor.pixel rgbBuf jEven)
    { c with y := c.planes.yPlane, cb := c.planes.cbPlane, cr := c.planes.crPlane }
  { c with planes := c.planes.nextRow jEven }

def rgbToYuv420 (rgbBuf : ℕ → UInt8) (width height : ℕ) (t : Planes) : List (ℤ × UInt8) :=
  ((List.range height).foldl (Cursor.row rgbBuf width)
    ⟨0, t, t.yPlane, t.cbPlane, t.crPlane, []⟩).stores

/-! ### The samples -/

/-- How many pixels there are to a sample, in a row and in a column. -/
def Plane.scale : Plane → ℕ
  | .y => 1
  | .cb => 2
  | .cr => 2

def Planes.grid (t : Planes) (width height : ℕ) : Plane → Grid
  | .y => ⟨t.yPlane, width, height, t.yStride, 1⟩
  | .cb => ⟨t.cbPlane, (width + 1) / 2, (height + 1) / 2, t.chromaStride, t.chromaStep⟩
  | .cr => ⟨t.crPlane, (width + 1) / 2, (height + 1) / 2, t.chromaStride, t.chromaStep⟩

/-- The top left pixel of those that a sample stands for, in rows of `width` pixels. -/
def Plane.source (p : Plane) (width x y : ℕ) : ℕ := 4 * (width * (p.scale * y) + p.scale * x)

/-- Where a sample of each plane is stored, and which. -/
def Planes.sample (t : Planes) (rgbBuf : ℕ → UInt8) (width height : ℕ) (p : Plane) (x y : ℕ) :
    ℤ × UInt8 :=
  ((t.grid width height p).cell x y, UInt8.ofInt (p.value rgbBuf (p.source width x y)))

section

variable {rgbBuf : ℕ → UInt8} {width height : ℕ}

/-- How far the chroma cursors move in the pixels, or the rows, before one. -/
def moved (even : Bool) (step i : ℕ) : ℤ := if even then (step * ((i + 1) / 2) : ℕ) else 0

theorem moved_succ (even : Bool) (step i : ℕ) : moved even step (i + 1) =
    moved even step i + (if even && i % 2 == 0 then step else 0 : ℕ) := by
  unfold moved
  cases even with
  | false => rfl
  | true =>
    rcases Nat.mod_two_eq_zero_or_one i with h | h
    · have hhalf : (i + 1 + 1) / 2 = (i + 1) / 2 + 1 := by omega
      simp only [h, hhalf, Nat.mul_succ, Bool.true_and, beq_self_eq_true, if_true, Nat.cast_add]
    · have hhalf : (i + 1 + 1) / 2 = (i + 1) / 2 := by omega
      simp [h, hhalf]

theorem pixels_eq (jEven : Bool) (c : Cursor) (n : ℕ) :
    (List.range n).foldl (Cursor.pixel rgbBuf jEven) c =
      { c with
        index := c.index + 4 * n
        y := c.y + n
        cb := c.cb + moved jEven c.planes.chromaStep n
        cr := c.cr + moved jEven c.planes.chromaStep n
        stores := c.stores ++ (List.range n).flatMap fun i ↦
          pixelStores rgbBuf (c.index + 4 * i) (c.y + i)
            (c.cb + moved jEven c.planes.chromaStep i) (c.cr + moved jEven c.planes.chromaStep i)
            (jEven && i % 2 == 0) } := by
  induction n with
  | zero => cases jEven <;> simp [moved]
  | succ n ih =>
    rw [List.range_succ, List.foldl_append, ih, List.flatMap_append, List.flatMap_singleton,
      ← List.append_assoc, moved_succ]
    simp only [List.foldl_cons, List.foldl_nil, Cursor.pixel, Nat.mul_succ, Nat.cast_succ,
      add_assoc]

def Planes.atRow (t : Planes) (j : ℕ) : Planes :=
  { t with
    yPlane := t.yPlane + t.yStride * j
    crPlane := t.crPlane + moved true t.chromaStride j
    cbPlane := t.cbPlane + moved true t.chromaStride j }

theorem nextRow_atRow (t : Planes) (j : ℕ) : (t.atRow j).nextRow (j % 2 == 0) = t.atRow (j + 1) := by
  simp only [Planes.nextRow, Planes.atRow, moved_succ, Bool.true_and, Nat.cast_succ, mul_add,
    mul_one, add_assoc]

def Planes.rowStores (t : Planes) (rgbBuf : ℕ → UInt8) (width j : ℕ) : List (ℤ × UInt8) :=
  (List.range width).flatMap fun i ↦
    pixelStores rgbBuf (4 * width * j + 4 * i) ((t.atRow j).yPlane + i)
      ((t.atRow j).cbPlane + moved (j % 2 == 0) t.chromaStep i)
      ((t.atRow j).crPlane + moved (j % 2 == 0) t.chromaStep i) (j % 2 == 0 && i % 2 == 0)

theorem rows_stored (t : Planes) (c : Cursor) (hindex : c.index = 0) (hplanes : c.planes = t)
    (n : ℕ) :
    ((List.range n).foldl (Cursor.row rgbBuf width) c).index = 4 * width * n ∧
      ((List.range n).foldl (Cursor.row rgbBuf width) c).planes = t.atRow n ∧
      ((List.range n).foldl (Cursor.row rgbBuf width) c).stores =
        c.stores ++ (List.range n).flatMap (t.rowStores rgbBuf width) := by
  induction n with
  | zero => simp [hindex, hplanes, Planes.atRow, moved]
  | succ n ih =>
    obtain ⟨hi, ht, hs⟩ := ih
    rw [List.range_succ, List.foldl_append, List.foldl_cons, List.foldl_nil, List.flatMap_append,
      List.flatMap_singleton, ← List.append_assoc, ← hs]
    generalize (List.range n).foldl (Cursor.row rgbBuf width) c = c' at hi ht hs
    unfold Cursor.row
    dsimp only
    rw [pixels_eq]
    refine ⟨?_, ?_, ?_⟩
    · change c'.index + 4 * width = _
      rw [hi, Nat.mul_succ]
    · change c'.planes.nextRow _ = _
      rw [ht, nextRow_atRow]
    · dsimp only
      rw [hi, ht]
      rfl

theorem rgbToYuv420_eq (t : Planes) : rgbToYuv420 rgbBuf width height t =
    (List.range height).flatMap (t.rowStores rgbBuf width) := by
  have hstart : Cursor.stores ⟨0, t, t.yPlane, t.cbPlane, t.crPlane, []⟩ = [] := rfl
  obtain ⟨-, -, hstores⟩ := rows_stored t ⟨0, t, t.yPlane, t.cbPlane, t.crPlane, []⟩ rfl rfl height
  rw [hstart, List.nil_append] at hstores
  exact hstores

theorem mem_pixelStores {index : ℕ} {y cb cr : ℤ} {chroma : Bool} {s : ℤ × UInt8} :
    s ∈ pixelStores rgbBuf index y cb cr chroma ↔
      s = (y, UInt8.ofInt (Plane.y.value rgbBuf index)) ∨ chroma = true ∧
        (s = (cb, UInt8.ofInt (Plane.cb.value rgbBuf index)) ∨
          s = (cr, UInt8.ofInt (Plane.cr.value rgbBuf index))) := by
  unfold pixelStores
  cases chroma <;> simp

theorem sample_y (t : Planes) (i j : ℕ) : t.sample rgbBuf width height .y i j =
    ((t.atRow j).yPlane + i, UInt8.ofInt (Plane.y.value rgbBuf (4 * width * j + 4 * i))) := by
  have hindex : Plane.y.source width i j = 4 * width * j + 4 * i := by
    simp only [Plane.source, Plane.scale]
    ring
  have hcell : (t.grid width height .y).cell i j = (t.atRow j).yPlane + i := by
    simp only [Grid.cell, Planes.grid, Planes.atRow, one_mul]
  unfold Planes.sample
  rw [hindex, hcell]

theorem moved_double (step i : ℕ) : moved true step (2 * i) = step * i := by
  have hhalf : (2 * i + 1) / 2 = i := by omega
  unfold moved
  rw [if_pos rfl, hhalf, Nat.cast_mul]

theorem source_double (p : Plane) (hp : p.scale = 2) (i j : ℕ) :
    p.source width i j = 4 * width * (2 * j) + 4 * (2 * i) := by
  unfold Plane.source
  rw [hp]
  ring

theorem sample_cb (t : Planes) (i j : ℕ) : t.sample rgbBuf width height .cb i j =
    ((t.atRow (2 * j)).cbPlane + moved true t.chromaStep (2 * i),
      UInt8.ofInt (Plane.cb.value rgbBuf (4 * width * (2 * j) + 4 * (2 * i)))) := by
  have hcell : (t.grid width height .cb).cell i j =
      (t.atRow (2 * j)).cbPlane + moved true t.chromaStep (2 * i) := by
    simp only [Grid.cell, Planes.grid, Planes.atRow, moved_double]
  unfold Planes.sample
  rw [source_double .cb rfl, hcell]

theorem sample_cr (t : Planes) (i j : ℕ) : t.sample rgbBuf width height .cr i j =
    ((t.atRow (2 * j)).crPlane + moved true t.chromaStep (2 * i),
      UInt8.ofInt (Plane.cr.value rgbBuf (4 * width * (2 * j) + 4 * (2 * i)))) := by
  have hcell : (t.grid width height .cr).cell i j =
      (t.atRow (2 * j)).crPlane + moved true t.chromaStep (2 * i) := by
    simp only [Grid.cell, Planes.grid, Planes.atRow, moved_double]
  unfold Planes.sample
  rw [source_double .cr rfl, hcell]

theorem mem_rgbToYuv420 {t : Planes} {s : ℤ × UInt8} :
    s ∈ rgbToYuv420 rgbBuf width height t ↔
      ∃ p x y, x < (t.grid width height p).width ∧ y < (t.grid width height p).height ∧
        s = t.sample rgbBuf width height p x y := by
  rw [rgbToYuv420_eq]
  unfold Planes.rowStores
  simp only [List.mem_flatMap, List.mem_range, mem_pixelStores, Bool.and_eq_true, beq_iff_eq]
  have hin {i n : ℕ} : i < (n + 1) / 2 ↔ 2 * i < n := by omega
  have heven (i : ℕ) : 2 * i % 2 = 0 := Nat.mul_mod_right 2 i
  constructor
  · intro h
    obtain ⟨j, hj, i, hi, rfl | ⟨⟨hjEven, hiEven⟩, hs⟩⟩ := h
    · exact ⟨.y, i, j, hi, hj, (sample_y t i j).symm⟩
    · obtain ⟨x, rfl⟩ := Nat.dvd_of_mod_eq_zero hiEven
      obtain ⟨y, rfl⟩ := Nat.dvd_of_mod_eq_zero hjEven
      rw [hjEven] at hs
      obtain rfl | rfl := hs
      · exact ⟨.cb, x, y, hin.mpr hi, hin.mpr hj, (sample_cb t x y).symm⟩
      · exact ⟨.cr, x, y, hin.mpr hi, hin.mpr hj, (sample_cr t x y).symm⟩
  · intro h
    obtain ⟨p, x, y, hx, hy, rfl⟩ := h
    cases p with
    | y => exact ⟨y, hy, x, hx, .inl (sample_y t x y)⟩
    | cb =>
      refine ⟨2 * y, hin.mp hy, 2 * x, hin.mp hx, .inr ⟨⟨heven y, heven x⟩, .inl ?_⟩⟩
      rw [heven]
      exact sample_cb t x y
    | cr =>
      refine ⟨2 * y, hin.mp hy, 2 * x, hin.mp hx, .inr ⟨⟨heven y, heven x⟩, .inr ?_⟩⟩
      rw [heven]
      exact sample_cr t x y

def Planes.Distinct (t : Planes) (width height : ℕ) : Prop :=
  ∀ p q x y x' y', x < (t.grid width height p).width → y < (t.grid width height p).height →
    x' < (t.grid width height q).width → y' < (t.grid width height q).height →
    (t.grid width height p).cell x y = (t.grid width height q).cell x' y' →
    p = q ∧ x = x' ∧ y = y'

/-- What is stored last at the place of a sample is the sample. -/
def Planes.Shows (t : Planes) (rgbBuf : ℕ → UInt8) (width height : ℕ)
    (source : Plane → ℕ → ℕ → ℕ) (stores : List (ℤ × UInt8)) : Prop :=
  ∀ p x y, x < (t.grid width height p).width → y < (t.grid width height p).height →
    ∃ v, last stores ((t.grid width height p).cell x y) = some v ∧
      (v.toNat : ℤ) = p.value rgbBuf (source p x y)

theorem expr_range (p : Plane) (R G B : UInt8) :
    0 ≤ p.expr R.toNat G.toNat B.toNat ∧ p.expr R.toNat G.toNat B.toNat ≤ 255 := by
  have hR := R.toNat_lt
  have hG := G.toNat_lt
  have hB := B.toNat_lt
  cases p <;>
    · simp only [Plane.expr, Int.shiftRight_eq_div_pow]
      omega

theorem toNat_ofInt_value (p : Plane) (index : ℕ) :
    ((UInt8.ofInt (p.value rgbBuf index)).toNat : ℤ) = p.value rgbBuf index := by
  obtain ⟨hlo, hhi⟩ := expr_range p (rgbBuf index) (rgbBuf (index + 1)) (rgbBuf (index + 2))
  change 0 ≤ p.value rgbBuf index at hlo
  change p.value rgbBuf index ≤ 255 at hhi
  unfold UInt8.ofInt
  rw [UInt8.toNat_ofNat']
  omega

theorem shows_of_distinct {t : Planes} (h : t.Distinct width height) :
    t.Shows rgbBuf width height (Plane.source · width) (rgbToYuv420 rgbBuf width height t) := by
  intro p x y hx hy
  refine ⟨_, last_of_mem (mem_rgbToYuv420.mpr ⟨p, x, y, hx, hy, rfl⟩) fun w hw ↦ ?_,
    toNat_ofInt_value p _⟩
  obtain ⟨q, x', y', hx', hy', heq⟩ := mem_rgbToYuv420.mp hw
  obtain ⟨hcell, rfl⟩ := Prod.mk.inj heq
  obtain ⟨rfl, rfl, rfl⟩ := h p q x y x' y' hx hy hx' hy' hcell
  rfl

end

/-- Only one pixel is red. -/
def marked (m i : ℕ) : UInt8 := if i = 4 * m then 255 else 0

/-- Only one sample has the value of the red pixel in its plane. -/
theorem eq_of_value_marked {p q : Plane} {m m' : ℕ}
    (h : q.value (marked m) (4 * m') = p.value (marked m) (4 * m)) : q = p ∧ m' = m := by
  have h1 (m' : ℕ) : 4 * m' + 1 ≠ 4 * m := by omega
  have h2 (m' : ℕ) : 4 * m' + 2 ≠ 4 * m := by omega
  simp only [Plane.value, marked, if_neg (h1 _), if_neg (h2 _), if_true] at h
  by_cases hm : m' = m
  · rw [if_pos (by rw [hm])] at h
    refine ⟨?_, hm⟩
    cases p <;> cases q <;> first | rfl | exact absurd h (by decide)
  · rw [if_neg (by omega)] at h
    cases p <;> cases q <;> exact absurd h (by decide)

section

variable {width height bufWidth : ℕ} {t planes : Planes}
  (h : ∀ rgbBuf, planes.Shows rgbBuf width height (Plane.source · bufWidth)
    (rgbToYuv420 rgbBuf width height t))

include h

/-- What planes show of any pixels was stored there, from the same place of the source. -/
theorem placed_of_shows {p : Plane} {x y : ℕ} (hx : x < (planes.grid width height p).width)
    (hy : y < (planes.grid width height p).height) :
    ∃ x' y', x' < (t.grid width height p).width ∧ y' < (t.grid width height p).height ∧
      (t.grid width height p).cell x' y' = (planes.grid width height p).cell x y ∧
      p.source width x' y' = p.source bufWidth x y := by
  obtain ⟨v, hlast, hv⟩ := h (marked (bufWidth * (p.scale * y) + p.scale * x)) p x y hx hy
  obtain ⟨q, x', y', hx', hy', heq⟩ := mem_rgbToYuv420.mp (mem_of_last hlast)
  obtain ⟨hcell, rfl⟩ := Prod.mk.inj heq
  rw [toNat_ofInt_value] at hv
  obtain ⟨rfl, hsource⟩ := eq_of_value_marked hv
  refine ⟨x', y', hx', hy', hcell.symm, ?_⟩
  unfold Plane.source
  rw [hsource]

theorem plane_of_shows {p q : Plane} {x y x' y' : ℕ} (hx : x < (planes.grid width height p).width)
    (hy : y < (planes.grid width height p).height) (hx' : x' < (planes.grid width height q).width)
    (hy' : y' < (planes.grid width height q).height)
    (hcell : (planes.grid width height p).cell x y = (planes.grid width height q).cell x' y') :
    p = q := by
  have hshows := h (marked (bufWidth * (p.scale * y) + p.scale * x))
  obtain ⟨v, hlast, hv⟩ := hshows p x y hx hy
  obtain ⟨v', hlast', hv'⟩ := hshows q x' y' hx' hy'
  rw [← hcell, hlast] at hlast'
  obtain rfl := Option.some.inj hlast'
  exact (eq_of_value_marked (hv'.symm.trans hv)).1.symm

end

/-! ### Planes that hold an image -/

/-- Rows are as wide as the plane at least, from the first sample to the last, and no plane runs
into another. -/
structure Image (width height : ℕ) extends Planes where
  yStride_le : width ≤ yStride
  chromaStep_pos : 0 < chromaStep
  chromaStride_lt : chromaStep * ((width + 1) / 2) < chromaStride + chromaStep
  apart : ∀ p q k, p ≠ q → (toPlanes.grid width height p).Covers k →
    ¬ (toPlanes.grid width height q).Covers k

variable {width height : ℕ}

theorem Image.distinct (t : Image width height) : t.toPlanes.Distinct width height := by
  intro p q x y x' y' hx hy hx' hy' hcell
  have hpq : p = q := by
    by_contra hne
    exact t.apart p q _ hne ⟨x, y, hx, hy, rfl⟩ ⟨x', y', hx', hy', hcell⟩
  subst hpq
  refine ⟨rfl, Grid.cell_inj _ ?_ ?_ hx hx' hcell⟩
  · have hpos : (0 : ℤ) < t.chromaStep := by exact_mod_cast t.chromaStep_pos
    cases p with
    | y => exact one_pos
    | cb => exact hpos
    | cr => exact hpos
  · have hluma : 1 * ((width : ℤ) - 1) < t.yStride := by
      have := t.yStride_le
      omega
    have hchroma : (t.chromaStep : ℤ) * (((width + 1) / 2 : ℕ) - 1) < t.chromaStride := by
      have hlt : (t.chromaStep : ℤ) * ((width + 1) / 2 : ℕ) < t.chromaStride + t.chromaStep := by
        exact_mod_cast t.chromaStride_lt
      rw [mul_sub, mul_one]
      omega
    cases p with
    | y => exact hluma
    | cb => exact hchroma
    | cr => exact hchroma

theorem apart_of_disjoint {t : Planes}
    (hcr : ∀ k, (t.grid width height .y).Covers k → ¬ (t.grid width height .cr).Covers k)
    (hcb : ∀ k, (t.grid width height .y).Covers k → ¬ (t.grid width height .cb).Covers k)
    (hchroma : ∀ k, (t.grid width height .cr).Covers k → ¬ (t.grid width height .cb).Covers k) :
    ∀ p q k, p ≠ q → (t.grid width height p).Covers k → ¬ (t.grid width height q).Covers k := by
  intro p q k hne hp hq
  cases p with
  | y =>
    cases q with
    | y => exact hne rfl
    | cb => exact hcb k hp hq
    | cr => exact hcr k hp hq
  | cb =>
    cases q with
    | y => exact hcb k hq hp
    | cb => exact hne rfl
    | cr => exact hchroma k hq hp
  | cr =>
    cases q with
    | y => exact hcr k hq hp
    | cb => exact hchroma k hp hq
    | cr => exact hne rfl

/-- Each sample is that of its top left pixel, nothing else is written, and no expression leaves
the range of a byte. -/
theorem rgbToYuv420_correct (rgbBuf : ℕ → UInt8) (t : Image width height) :
    t.toPlanes.Shows rgbBuf width height (Plane.source · width)
        (rgbToYuv420 rgbBuf width height t.toPlanes) ∧
      (∀ s ∈ rgbToYuv420 rgbBuf width height t.toPlanes,
        ∃ p, (t.toPlanes.grid width height p).Covers s.1) ∧
      ∀ p (R G B : UInt8), 0 ≤ Plane.expr p R.toNat G.toNat B.toNat ∧
        Plane.expr p R.toNat G.toNat B.toNat ≤ 255 := by
  refine ⟨shows_of_distinct t.distinct, fun s hs ↦ ?_, expr_range⟩
  obtain ⟨p, x, y, hx, hy, rfl⟩ := mem_rgbToYuv420.mp hs
  exact ⟨p, x, y, hx, hy, rfl⟩

end VirtualCamera.Service.Yuv420
