import Mathlib.Algebra.Order.Floor.Ring
import Mathlib.Algebra.Order.Floor.Semiring
import Mathlib.Tactic.Linarith

namespace VirtualCamera.Library.Rounding

variable {α : Type*} [Field α] [LinearOrder α] [IsStrictOrderedRing α] [FloorRing α]

/-- `std::round`: to the nearest integer, halfway cases away from zero. -/
def stdRound (q : α) : ℤ := if 0 ≤ q then ⌊q + 1 / 2⌋ else ⌈q - 1 / 2⌉

theorem stdRound_bounds (q : α) : q - 1 / 2 ≤ stdRound q ∧ (stdRound q : α) ≤ q + 1 / 2 := by
  unfold stdRound
  split
  · have hlt := Int.lt_floor_add_one (q + 1 / 2)
    have hle := Int.floor_le (q + 1 / 2)
    constructor <;> linarith
  · have hlt := Int.ceil_lt_add_one (q - 1 / 2)
    have hle := Int.le_ceil (q - 1 / 2)
    constructor <;> linarith

theorem abs_stdRound_sub_le (q : α) : |(stdRound q : α) - q| ≤ 1 / 2 := by
  obtain ⟨hlo, hhi⟩ := stdRound_bounds q
  rw [abs_le]
  constructor <;> linarith

theorem stdRound_nonneg {q : α} (h : 0 ≤ q) : 0 ≤ stdRound q := by
  rw [stdRound, if_pos h]
  exact Int.floor_nonneg.mpr (by linarith)

theorem stdRound_nonpos {q : α} (h : q ≤ 0) : stdRound q ≤ 0 := by
  rcases h.lt_or_eq with hlt | heq
  · rw [stdRound, if_neg hlt.not_ge]
    apply Int.ceil_le.mpr
    push_cast
    linarith
  · rw [stdRound, if_pos heq.ge, heq, zero_add]
    exact (Int.floor_eq_zero_iff.mpr (by constructor <;> norm_num)).le

/-- The halfway cases on the two sides of zero do not cross. -/
theorem stdRound_mono {p q : α} (h : p ≤ q) : stdRound p ≤ stdRound q := by
  by_cases hp : 0 ≤ p
  · rw [stdRound, stdRound, if_pos hp, if_pos (hp.trans h)]
    exact Int.floor_le_floor (by linarith)
  · by_cases hq : 0 ≤ q
    · exact (stdRound_nonpos (not_le.mp hp).le).trans (stdRound_nonneg hq)
    · rw [stdRound, stdRound, if_neg hp, if_neg hq]
      exact Int.ceil_le_ceil (by linarith)

@[simp]
theorem stdRound_intCast (n : ℤ) : stdRound (n : α) = n := by
  obtain ⟨hlo, hhi⟩ := stdRound_bounds (n : α)
  have h₁ : (n : α) < stdRound (n : α) + 1 := by linarith
  have h₂ : (stdRound (n : α) : α) < n + 1 := by linarith
  have h₁' : n < stdRound (n : α) + 1 := by exact_mod_cast h₁
  have h₂' : stdRound (n : α) < n + 1 := by exact_mod_cast h₂
  omega

theorem stdRound_mem {q : α} {lo hi : ℤ} (hlo : (lo : α) ≤ q) (hhi : q ≤ (hi : α)) :
    lo ≤ stdRound q ∧ stdRound q ≤ hi := by
  have h₁ := stdRound_mono hlo
  have h₂ := stdRound_mono hhi
  rw [stdRound_intCast] at h₁ h₂
  exact ⟨h₁, h₂⟩

/-- `std::min(hi, std::max(lo, a))`. -/
def clamp {β : Type*} [LinearOrder β] (lo hi a : β) : β := min hi (max lo a)

section Clamp

variable {β : Type*} [LinearOrder β] {lo hi a b : β}

theorem clamp_mem (h : lo ≤ hi) (a : β) : lo ≤ clamp lo hi a ∧ clamp lo hi a ≤ hi :=
  ⟨le_min h (le_max_left lo a), min_le_left hi _⟩

theorem clamp_mono (h : a ≤ b) : clamp lo hi a ≤ clamp lo hi b :=
  min_le_min_left hi (max_le_max_left lo h)

theorem clamp_of_mem (hlo : lo ≤ a) (hhi : a ≤ hi) : clamp lo hi a = a := by
  rw [clamp, max_eq_right hlo, min_eq_right hhi]

end Clamp

/-- Clamping brings no number further away from those in the range. -/
theorem abs_clamp_sub_le {lo hi a x : ℤ} (hlo : lo ≤ x) (hhi : x ≤ hi) :
    |clamp lo hi a - x| ≤ |a - x| := by
  unfold clamp
  rcases le_total lo a with h | h
  · rw [max_eq_right h]
    rcases le_total hi a with h' | h'
    · rw [min_eq_left h', abs_of_nonneg (by omega), abs_of_nonneg (by omega)]
      omega
    · rw [min_eq_right h']
  · rw [max_eq_left h, min_eq_right (hlo.trans hhi), abs_of_nonpos (by omega),
      abs_of_nonpos (by omega)]
    omega

end VirtualCamera.Library.Rounding
