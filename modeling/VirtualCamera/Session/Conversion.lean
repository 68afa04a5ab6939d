import Mathlib.Tactic.Ring
import VirtualCamera.Library.Memory

namespace VirtualCamera.Session.Conversion

open Library.Memory

/-! ### How far the conversions read and write

An offset is one in the buffer of the source or of the destination; a product of `int`s is
exact here.
-/

/-- The offsets of `ir_limit_max`, in its source and in its destination alike: eight
pixels of two bytes at a time. -/
def irLimitMax (n : ℤ) : List ℕ :=
  (List.range (n.tdiv 8).toNat).flatMap fun i ↦ (List.range 16).map (16 * i + ·)

theorem extent_irLimitMax (n : ℕ) : extent (irLimitMax n) = n / 8 * 16 := by
  have hdiv : ((n : ℤ).tdiv 8).toNat = n / 8 := by
    rw [Int.tdiv_eq_ediv_of_nonneg (Int.natCast_nonneg n)]
    omega
  rw [irLimitMax, hdiv]
  cases n / 8 with
  | zero => rfl
  | succ m =>
    have hmono : Monotone fun i : ℕ ↦ 16 * i := fun i j hij ↦ Nat.mul_le_mul_left 16 hij
    rw [extent_rounds hmono (range_ne_nil (by decide)), extent_range]
    omega

theorem extent_irLimitMax_half (n : ℕ) : extent (irLimitMax (toInt32 (n / 2))) ≤ n := by
  have hle : toInt32 (n / 2) ≤ (n / 2 : ℕ) := by
    obtain ⟨-, hlt⟩ := int32_range (n / 2 : ℕ)
    by_cases h : n / 2 ≤ INT_MAX
    · exact (toInt32_of_le h).le
    · unfold INT_MAX at h
      unfold toInt32
      omega
  rcases le_or_gt 0 (toInt32 (n / 2)) with h | h
  · obtain ⟨m, hm⟩ := Int.eq_ofNat_of_zero_le h
    rw [hm] at hle ⊢
    rw [extent_irLimitMax]
    omega
  · have hneg := Int.tdiv_nonneg (Int.neg_nonneg_of_nonpos h.le) (by decide : (0 : ℤ) ≤ 8)
    rw [Int.neg_tdiv] at hneg
    have hnone : (Int.tdiv (toInt32 (n / 2)) 8).toNat = 0 := by omega
    rw [irLimitMax, hnone]
    exact Nat.zero_le _

section Yuyv

variable (width height filesize : ℕ)

def cycleNum : ℕ := filesize / (width * height) / 2

/-- The input of a cycle; the pointer is moved on after the cycle by the number that the
cycle had. -/
def inputStart (i : ℕ) : ℕ := width * height * 2 * (i - 1)

def outputStart (i : ℕ) : ℕ := i * (width * height * 3 / 2)

def yOffsets : List ℕ := positions 0 (width * height * 2) 2

/-- Where the loops for the UV part stand, in every other row. -/
def uvPositions : List ℕ :=
  (positions 0 height 2).flatMap fun j ↦ positions (j * width * 2 + 1) (width * 2 * (j + 1)) 4

def uvOffsets : List ℕ := (uvPositions width height).flatMap fun k ↦ [k, k + 2]

def yuyvReads : List ℕ :=
  ((List.range (cycleNum width height filesize)).flatMap fun i ↦
    (yOffsets width height).map (inputStart width height i + ·)) ++
  ((List.range (cycleNum width height filesize)).flatMap fun i ↦
    (uvOffsets width height).map (inputStart width height i + ·))

/-- The writes of `yuyv_to_nv12`; the UV part stands behind the Y part. -/
def yuyvWrites : List ℕ :=
  ((List.range (cycleNum width height filesize)).flatMap fun i ↦
    (List.range (width * height)).map (outputStart width height i + ·)) ++
  ((List.range (cycleNum width height filesize)).flatMap fun i ↦
    (List.range (2 * (uvPositions width height).length)).map
      (width * height + outputStart width height i + ·))

def lastRow : ℕ := height - 1 - (height - 1) % 2

/-- How far `yuyv_to_nv12` reads: a row of odd width ends with two bytes of the next. -/
def readBytes : ℕ :=
  if cycleNum width height filesize = 0 then 0
  else
    inputStart width height (cycleNum width height filesize - 1) +
      max (2 * (width * height) - 1) (2 * (lastRow height * width) + 2 * width + 2 * (width % 2))

/-- How far `yuyv_to_nv12` writes. -/
def writtenBytes : ℕ :=
  if cycleNum width height filesize = 0 then 0
  else
    outputStart width height (cycleNum width height filesize - 1) +
      (width * height + 2 * ((height + 1) / 2 * ((width + 1) / 2)))

variable {width height filesize : ℕ}

theorem pos_of_cycleNum (h : cycleNum width height filesize ≠ 0) : 0 < width ∧ 0 < height := by
  constructor
  · apply Nat.pos_of_ne_zero
    rintro rfl
    simp [cycleNum] at h
  · apply Nat.pos_of_ne_zero
    rintro rfl
    simp [cycleNum] at h

theorem monotone_inputStart : Monotone (inputStart width height) := fun _ _ h ↦
  Nat.mul_le_mul_left _ (Nat.sub_le_sub_right h 1)

theorem monotone_outputStart : Monotone (outputStart width height) := fun _ _ h ↦
  Nat.mul_le_mul_right _ h

theorem extent_yOffsets (h : 0 < width * height) :
    extent (yOffsets width height) = 2 * (width * height) - 1 := by
  have hlast : 2 * (width * height - 1) ∈ yOffsets width height := by
    apply (mem_positions (by decide)).mpr
    exact ⟨width * height - 1, by omega, by omega⟩
  rw [extent_eq hlast]
  · omega
  · intro m hm
    obtain ⟨p, hp, hlt⟩ := (mem_positions (by decide)).mp hm
    omega

theorem mem_uvPositions {k : ℕ} : k ∈ uvPositions width height ↔
    ∃ j m, 2 * j < height ∧ k = 2 * (2 * j * width) + 1 + 4 * m ∧ 1 + 4 * m < 2 * width := by
  unfold uvPositions
  rw [List.mem_flatMap]
  constructor
  · intro h
    obtain ⟨j, hj, hk⟩ := h
    obtain ⟨j, rfl, hj⟩ := (mem_positions (by decide)).mp hj
    obtain ⟨m, rfl, hm⟩ := (mem_positions (by decide)).mp hk
    refine ⟨j, m, by omega, by ring, ?_⟩
    have : width * 2 * (0 + 2 * j + 1) = (0 + 2 * j) * width * 2 + 2 * width := by ring
    omega
  · intro h
    obtain ⟨j, m, hj, rfl, hm⟩ := h
    refine ⟨2 * j, (mem_positions (by decide)).mpr ⟨j, by omega, hj⟩, ?_⟩
    refine (mem_positions (by decide)).mpr ⟨m, by ring, ?_⟩
    have : width * 2 * (2 * j + 1) = 2 * (2 * j * width) + 2 * width := by ring
    omega

theorem extent_uvOffsets (hw : 0 < width) (hh : 0 < height) :
    extent (uvOffsets width height) =
      2 * (lastRow height * width) + 2 * width + 2 * (width % 2) := by
  have hrow : 2 * ((height - 1) / 2) = lastRow height := by
    unfold lastRow
    omega
  have hlast : 2 * (lastRow height * width) + 1 + 4 * ((width - 1) / 2) + 2 ∈
      uvOffsets width height := by
    refine List.mem_flatMap.mpr ⟨_, ?_, List.mem_cons_of_mem _ List.mem_cons_self⟩
    refine mem_uvPositions.mpr ⟨(height - 1) / 2, (width - 1) / 2, by omega, ?_, by omega⟩
    rw [hrow]
  rw [extent_eq hlast]
  · omega
  · intro p hp
    obtain ⟨k, hk, hp⟩ := List.mem_flatMap.mp hp
    obtain ⟨j, m, hj, rfl, hm⟩ := mem_uvPositions.mp hk
    have hle : 2 * j * width ≤ lastRow height * width :=
      Nat.mul_le_mul_right _ (by omega)
    rcases List.mem_cons.mp hp with rfl | hp
    · omega
    · rcases List.mem_singleton.mp hp with rfl
      omega

theorem length_uvPositions (hw : 0 < width) :
    (uvPositions width height).length = (height + 1) / 2 * ((width + 1) / 2) := by
  have hrow (j : ℕ) :
      (positions (j * width * 2 + 1) (width * 2 * (j + 1)) 4).length = (width + 1) / 2 := by
    have : width * 2 * (j + 1) = j * width * 2 + 2 * width := by ring
    rw [positions, List.length_range']
    omega
  have hrows : (positions 0 height 2).length = (height + 1) / 2 := by
    rw [positions, List.length_range']
    omega
  unfold uvPositions
  rw [List.length_flatMap, List.map_congr_left fun j _ ↦ hrow j, List.map_const',
    List.sum_replicate_nat, hrows]

theorem extent_yuyvReads :
    extent (yuyvReads width height filesize) = readBytes width height filesize := by
  unfold yuyvReads readBytes
  cases hc : cycleNum width height filesize with
  | zero => rfl
  | succ c =>
    have ⟨hw, hh⟩ := pos_of_cycleNum (hc.trans_ne (Nat.succ_ne_zero c))
    have hpix := Nat.mul_pos hw hh
    have hy := extent_yOffsets hpix
    have huv := extent_uvOffsets hw hh
    have hyne : yOffsets width height ≠ [] := by
      intro hnil
      rw [hnil, extent, List.foldr_nil] at hy
      omega
    have huvne : uvOffsets width height ≠ [] := by
      intro hnil
      rw [hnil, extent, List.foldr_nil] at huv
      omega
    rw [extent_append, extent_rounds monotone_inputStart hyne,
      extent_rounds monotone_inputStart huvne, hy, huv, if_neg (Nat.succ_ne_zero c),
      Nat.add_sub_cancel, Nat.add_max_add_left]

theorem extent_yuyvWrites :
    extent (yuyvWrites width height filesize) = writtenBytes width height filesize := by
  unfold yuyvWrites writtenBytes
  cases hc : cycleNum width height filesize with
  | zero => rfl
  | succ c =>
    have ⟨hw, hh⟩ := pos_of_cycleNum (hc.trans_ne (Nat.succ_ne_zero c))
    have hpix := Nat.mul_pos hw hh
    have huv : 0 < (height + 1) / 2 * ((width + 1) / 2) :=
      Nat.mul_pos (by omega) (by omega)
    have hmono : Monotone fun i ↦ width * height + outputStart width height i := fun _ _ h ↦
      Nat.add_le_add_left (monotone_outputStart h) _
    rw [length_uvPositions hw, extent_append,
      extent_rounds monotone_outputStart (range_ne_nil hpix),
      extent_rounds hmono (range_ne_nil (Nat.mul_pos Nat.two_pos huv)), extent_range, extent_range,
      if_neg (Nat.succ_ne_zero c), Nat.add_sub_cancel]
    omega

end Yuyv

end VirtualCamera.Session.Conversion
