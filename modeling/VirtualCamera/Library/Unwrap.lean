import Mathlib.Data.List.Basic
import Mathlib.Data.Nat.Init

namespace VirtualCamera.Library.Unwrap

/-- The number given to a low part `s < m`, when `h` is the highest number so far. -/
def number (m h s : ℕ) : ℕ :=
  if h % m ≤ s then h / m * m + s
  else if s + m - h % m < h % m - s then (h / m + 1) * m + s
  else h / m * m + s

/-- A number near enough to the highest so far to be told by its low part alone. -/
def Tracks (m h n : ℕ) : Prop :=
  n / m = h / m ∧ (h ≤ n ∨ 2 * (h - n) ≤ m) ∨ n / m = h / m + 1 ∧ 2 * (n - h) < m

instance (m h n : ℕ) : Decidable (Tracks m h n) := inferInstanceAs (Decidable (_ ∨ _))

variable {m : ℕ}

theorem cycle_eq_iff (hm : 0 < m) (c n : ℕ) : c * m + n % m = n ↔ n / m = c := by
  have hn : n / m * m + n % m = n := Nat.div_add_mod' n m
  constructor
  · intro h
    have hmul : c * m = n / m * m := by omega
    exact (Nat.eq_of_mul_eq_mul_right hm hmul).symm
  · intro h
    rw [← h, hn]

/-- A number is recovered from its low part exactly when it is near the highest one. -/
theorem number_eq_iff (hm : 0 < m) (h n : ℕ) : number m h (n % m) = n ↔ Tracks m h n := by
  have hn : n / m * m + n % m = n := Nat.div_add_mod' n m
  have hh : h / m * m + h % m = h := Nat.div_add_mod' h m
  have hns : n % m < m := Nat.mod_lt n hm
  have hhs : h % m < m := Nat.mod_lt h hm
  unfold number Tracks
  by_cases hsame : n / m = h / m
  · have hne : ¬ n / m = h / m + 1 := by omega
    rw [hsame] at hn
    split
    · rw [cycle_eq_iff hm]
      simp only [hsame, true_and, true_iff]
      omega
    · split
      · rw [cycle_eq_iff hm]
        simp only [hsame, true_and]
        omega
      · rw [cycle_eq_iff hm]
        simp only [hsame, true_and, true_iff]
        omega
  · by_cases hnext : n / m = h / m + 1
    · rw [hnext, Nat.add_mul, Nat.one_mul] at hn
      split
      · rw [cycle_eq_iff hm]
        omega
      · split
        · rw [cycle_eq_iff hm]
          omega
        · rw [cycle_eq_iff hm]
          omega
    · split
      · rw [cycle_eq_iff hm]
        omega
      · split
        · rw [cycle_eq_iff hm]
          omega
        · rw [cycle_eq_iff hm]
          omega

/-- Every number is near the highest of those before it. -/
def AllTrack (m : ℕ) : ℕ → List ℕ → Prop
  | _, [] => True
  | h, n :: ns => Tracks m h n ∧ AllTrack m (max h n) ns

instance decidableAllTrack (m : ℕ) : (h : ℕ) → (ns : List ℕ) → Decidable (AllTrack m h ns)
  | _, [] => instDecidableTrue
  | h, n :: ns =>
    have := decidableAllTrack m (max h n) ns
    inferInstanceAs (Decidable (_ ∧ _))

end VirtualCamera.Library.Unwrap
