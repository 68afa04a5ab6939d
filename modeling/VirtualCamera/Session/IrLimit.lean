import Mathlib.Data.List.FinRange
import VirtualCamera.Library.Stores
import VirtualCamera.Session.Conversion

namespace VirtualCamera.Session.IrLimit

open Library.Stores

/-! ### Eight lanes

The pixels of an image have sixteen bits each and are addressed by their number. -/

abbrev Lanes := Fin 8 → UInt16

def vdupq_n_u16 (value : UInt16) : Lanes := fun _ ↦ value

def vld1q_u16 (src : ℤ → UInt16) (p : ℤ) : Lanes := fun j ↦ src (p + j.val)

/-- The difference, or zero. -/
def vqsubq_u16 (a b : Lanes) : Lanes := fun j ↦ if a j < b j then 0 else a j - b j

def vminq_u16 (a b : Lanes) : Lanes := fun j ↦ if a j ≤ b j then a j else b j

def vst1q_u16 (p : ℤ) (a : Lanes) : List (ℤ × UInt16) :=
  (List.finRange 8).map fun j ↦ (p + j.val, a j)

/-- The rounds that are left, from the pixel `p` of both images on. -/
def irLoop (src : ℤ → UInt16) : ℕ → ℤ → List (ℤ × UInt16)
  | 0, _ => []
  | n + 1, p =>
    let orig := vld1q_u16 src p
    let temp := vqsubq_u16 orig (vdupq_n_u16 64)
    let result := vminq_u16 temp (vdupq_n_u16 0xff)
    vst1q_u16 p result ++ irLoop src n (p + 8)

def irLimitMax (src : ℤ → UInt16) (n : ℤ) : List (ℤ × UInt16) :=
  irLoop src (n.tdiv 8).toNat 0

/-! ### One pixel -/

/-- Less the offset, not below 0 and not above 255. -/
def irLimit (x : UInt16) : UInt16 := UInt16.ofNat (min (x.toNat - 64) 255)

theorem irLimit_toNat (x : UInt16) : (irLimit x).toNat = min (x.toNat - 64) 255 := by
  rw [irLimit, UInt16.toNat_ofNat_of_lt']
  exact (Nat.min_le_right _ 255).trans_lt (by decide)

theorem vqsubq_u16_toNat (a b : Lanes) (j : Fin 8) :
    (vqsubq_u16 a b j).toNat = (a j).toNat - (b j).toNat := by
  rw [vqsubq_u16]
  split
  · rename_i hlt
    have hnat := UInt16.lt_iff_toNat_lt.mp hlt
    rw [Nat.sub_eq_zero_of_le hnat.le]
    rfl
  · rename_i hge
    rw [UInt16.toNat_sub_of_le (a j) (b j) (UInt16.not_lt.mp hge)]

theorem vminq_u16_toNat (a b : Lanes) (j : Fin 8) :
    (vminq_u16 a b j).toNat = min (a j).toNat (b j).toNat := by
  rw [vminq_u16]
  split
  · rename_i hle
    rw [Nat.min_eq_left (UInt16.le_iff_toNat_le.mp hle)]
  · rename_i hgt
    have hlt := UInt16.lt_iff_toNat_lt.mp (UInt16.not_le.mp hgt)
    rw [Nat.min_eq_right hlt.le]

theorem lane_eq (src : ℤ → UInt16) (p : ℤ) (j : Fin 8) :
    vminq_u16 (vqsubq_u16 (vld1q_u16 src p) (vdupq_n_u16 64)) (vdupq_n_u16 0xff) j =
      irLimit (src (p + j.val)) := by
  refine UInt16.toNat_inj.mp ?_
  rw [vminq_u16_toNat, vqsubq_u16_toNat, irLimit_toNat]
  rfl

theorem mem_vst1q_u16 {src : ℤ → UInt16} {p : ℤ} {s : ℤ × UInt16} :
    s ∈ vst1q_u16 p (vminq_u16 (vqsubq_u16 (vld1q_u16 src p) (vdupq_n_u16 64))
        (vdupq_n_u16 0xff)) ↔
      p ≤ s.1 ∧ s.1 < p + 8 ∧ s.2 = irLimit (src s.1) := by
  rw [vst1q_u16, List.mem_map]
  constructor
  · intro h
    obtain ⟨j, -, rfl⟩ := h
    have hj := j.isLt
    exact ⟨by omega, by omega, lane_eq src p j⟩
  · intro h
    obtain ⟨hp, hlt, hv⟩ := h
    obtain ⟨j, hj⟩ := Int.le.dest hp
    refine ⟨⟨j, by omega⟩, List.mem_finRange _, Prod.ext hj ?_⟩
    rw [lane_eq, hv, ← hj]

/-! ### All rounds -/

theorem mem_irLoop {src : ℤ → UInt16} {n : ℕ} {p : ℤ} {s : ℤ × UInt16} :
    s ∈ irLoop src n p ↔ p ≤ s.1 ∧ s.1 < p + 8 * n ∧ s.2 = irLimit (src s.1) := by
  induction n generalizing p with
  | zero =>
    refine iff_of_false List.not_mem_nil fun h ↦ ?_
    have hlt := h.2.1
    have hle := h.1
    push_cast at hlt
    omega
  | succ n ih =>
    simp only [irLoop]
    rw [List.mem_append, mem_vst1q_u16, ih]
    push_cast
    constructor
    · intro hcond
      obtain ⟨hp, hlt, hv⟩ | ⟨hp, hlt, hv⟩ := hcond
      · exact ⟨hp, by omega, hv⟩
      · exact ⟨by omega, by omega, hv⟩
    · intro hcond
      obtain ⟨hp, hlt, hv⟩ := hcond
      rcases lt_or_ge s.1 (p + 8) with h | h
      · exact .inl ⟨hp, h, hv⟩
      · exact .inr ⟨h, by omega, hv⟩

theorem last_irLoop {src : ℤ → UInt16} {n : ℕ} {p a : ℤ} (hp : p ≤ a) (hlt : a < p + 8 * n) :
    last (irLoop src n p) a = some (irLimit (src a)) :=
  last_of_mem (mem_irLoop.mpr ⟨hp, hlt, rfl⟩) fun _ hw ↦ (mem_irLoop.mp hw).2.2

/-! ### The bytes that are stored -/

def bytesOf (stores : List (ℤ × UInt16)) : List ℤ := stores.flatMap fun s ↦ [2 * s.1, 2 * s.1 + 1]

theorem bytesOf_vst1q_u16 (p : ℤ) (a : Lanes) :
    bytesOf (vst1q_u16 p a) = (List.range 16).map fun k : ℕ ↦ 2 * p + k := by
  simp only [bytesOf, vst1q_u16, List.finRange_eq_pmap_range, List.flatMap_map]
  simp [List.range, List.range.loop, mul_add, add_assoc]

theorem bytesOf_irLoop (src : ℤ → UInt16) (n : ℕ) (p : ℤ) :
    bytesOf (irLoop src n p) = (List.range n).flatMap fun i : ℕ ↦
      (List.range 16).map fun k : ℕ ↦ 2 * p + (16 * i + k : ℕ) := by
  induction n generalizing p with
  | zero => rfl
  | succ n ih =>
    have happend : bytesOf (irLoop src (n + 1) p) =
        bytesOf (vst1q_u16 p (vminq_u16 (vqsubq_u16 (vld1q_u16 src p) (vdupq_n_u16 64))
          (vdupq_n_u16 0xff))) ++ bytesOf (irLoop src n (p + 8)) := List.flatMap_append
    rw [happend, bytesOf_vst1q_u16, ih, List.range_succ_eq_map (n := n), List.flatMap_cons,
      List.flatMap_map]
    have hfirst : (List.range 16).map (fun k : ℕ ↦ 2 * p + (16 * 0 + k : ℕ)) =
        (List.range 16).map fun k : ℕ ↦ 2 * p + (k : ℤ) := by
      simp only [Nat.mul_zero, Nat.zero_add]
    rw [hfirst]
    refine congrArg (_ ++ ·) (List.flatMap_congr fun i _ ↦ List.map_congr_left fun k _ ↦ ?_)
    push_cast
    ring

theorem bytesOf_irLimitMax (src : ℤ → UInt16) (n : ℤ) :
    bytesOf (irLimitMax src n) = (Conversion.irLimitMax n).map Nat.cast := by
  rw [irLimitMax, bytesOf_irLoop, Conversion.irLimitMax, List.map_flatMap]
  refine List.flatMap_congr fun i _ ↦ ?_
  simp

/-- Each of the `n` pixels is stored as the rule for one pixel says, and no other. -/
structure Limits (src : ℤ → UInt16) (n : ℤ) (stores : List (ℤ × UInt16)) : Prop where
  stored : ∀ i, 0 ≤ i → i < n → last stores i = some (irLimit (src i))
  inside : ∀ s ∈ stores, 0 ≤ s.1 ∧ s.1 < n

theorem rounds_eq (n : ℤ) : 8 * ((n.tdiv 8).toNat : ℤ) = if n ≤ 0 then 0 else n - n % 8 := by
  split
  · rename_i h
    have hneg := Int.tdiv_nonneg (Int.neg_nonneg_of_nonpos h) (by decide : (0 : ℤ) ≤ 8)
    rw [Int.neg_tdiv] at hneg
    omega
  · rename_i h
    rw [Int.tdiv_eq_ediv_of_nonneg (by omega)]
    omega

/-- The pixels behind the last whole round are not stored. -/
theorem limits_irLimitMax_iff (src : ℤ → UInt16) (n : ℤ) :
    Limits src n (irLimitMax src n) ↔ n ≤ 0 ∨ 8 ∣ n := by
  have hrounds := rounds_eq n
  constructor
  · intro h
    by_contra hc
    rw [not_or] at hc
    rw [if_neg hc.1] at hrounds
    have hlast := h.stored (n - n % 8) (by omega) (by omega)
    obtain ⟨-, hlt, -⟩ := mem_irLoop.mp (mem_of_last hlast)
    omega
  · intro h
    refine ⟨fun i hi hlt ↦ last_irLoop (p := 0) hi ?_, fun s hs ↦ ?_⟩
    · split at hrounds
      · omega
      · obtain h | h := h
        · omega
        · omega
    · obtain ⟨hp, hlt, -⟩ := mem_irLoop.mp hs
      split at hrounds
      · omega
      · omega

theorem not_limits_four :
    ¬ ∀ (src : ℤ → UInt16) (n : ℤ), Limits src n (irLimitMax src n) := by
  intro h
  have hlast := (h (fun _ ↦ 100) 4).stored 0 (by decide) (by decide)
  cases hlast

end VirtualCamera.Session.IrLimit
