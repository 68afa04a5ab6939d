import Mathlib.Data.Fintype.EquivFin
import Mathlib.Data.Nat.ModEq
import Mathlib.Logic.Function.Basic

namespace VirtualCamera.Library.Ring

variable {n : ℕ} [NeZero n]

/-- The place of the `k`-th item in a ring of `n` places. -/
def slot (n : ℕ) [NeZero n] (k : ℕ) : Fin n := Fin.ofNat n k

theorem slot_eq_iff (j k : ℕ) : slot n j = slot n k ↔ j % n = k % n := Fin.ext_iff

theorem slot_zero : slot n 0 = 0 := rfl

/-- Places repeat only after `n` items. -/
theorem slot_inj {r j k : ℕ} (hj : r ≤ j) (hjn : j < r + n) (hk : r ≤ k) (hkn : k < r + n)
    (h : slot n j = slot n k) : j = k := by
  have hmod : j ≡ k [MOD n] := (slot_eq_iff j k).mp h
  rcases Nat.le_total j k with hle | hle
  · have hdvd := (Nat.modEq_iff_dvd' hle).mp hmod
    have hzero := Nat.eq_zero_of_dvd_of_lt hdvd (by omega)
    omega
  · have hdvd := (Nat.modEq_iff_dvd' hle).mp hmod.symm
    have hzero := Nat.eq_zero_of_dvd_of_lt hdvd (by omega)
    omega

/-- Any `n` consecutive items take all places. -/
theorem exists_slot (r : ℕ) (i : Fin n) : ∃ k, r ≤ k ∧ k < r + n ∧ slot n k = i := by
  have hinj : Function.Injective fun j : Fin n ↦ slot n (r + j) := by
    intro j k h
    have h' := slot_inj (Nat.le_add_right r j) (Nat.add_lt_add_left j.isLt r)
      (Nat.le_add_right r k) (Nat.add_lt_add_left k.isLt r) h
    exact Fin.ext (Nat.add_left_cancel h')
  obtain ⟨j, hj⟩ := Finite.surjective_of_injective hinj i
  exact ⟨r + j, Nat.le_add_right r j, Nat.add_lt_add_left j.isLt r, hj⟩

/-- Items `r` to `w` are in the ring, and exactly their places are flagged. -/
structure Window (r w : ℕ) (flag : Fin n → Bool) : Prop where
  le : r ≤ w
  cap : w ≤ r + n
  flag_iff : ∀ i, flag i = true ↔ ∃ k, r ≤ k ∧ k < w ∧ slot n k = i

variable {r w : ℕ} {flag : Fin n → Bool}

theorem window_empty (hflag : ∀ i, flag i = false) : Window 0 0 flag where
  le := le_rfl
  cap := Nat.zero_le _
  flag_iff i := by
    rw [hflag i]
    constructor
    · intro h
      cases h
    · intro hcond
      obtain ⟨k, -, hk, -⟩ := hcond
      exact absurd hk (Nat.not_lt_zero k)

theorem Window.flagged (h : Window r w flag) {k : ℕ} (hr : r ≤ k) (hw : k < w) :
    flag (slot n k) = true := (h.flag_iff _).mpr ⟨k, hr, hw, rfl⟩

/-- A flag at the writer's place means that the ring is full. -/
theorem Window.full (h : Window r w flag) (hw : flag (slot n w) = true) : w = r + n := by
  obtain ⟨k, hrk, hkw, hk⟩ := (h.flag_iff _).mp hw
  have hle := h.le
  have hcap := h.cap
  by_contra hne
  have heq := slot_inj hrk (by omega) hle (by omega) hk
  omega

theorem Window.all_flagged (h : Window r w flag) (hw : flag (slot n w) = true) (i : Fin n) :
    flag i = true := by
  obtain ⟨k, hrk, hkn, rfl⟩ := exists_slot r i
  exact h.flagged hrk (h.full hw ▸ hkn)

/-- A flag at the reader's place means that there is an item to read. -/
theorem Window.nonempty (h : Window r w flag) (hr : flag (slot n r) = true) : r < w := by
  obtain ⟨k, hrk, hkw, -⟩ := (h.flag_iff _).mp hr
  omega

theorem Window.not_full (h : Window r w flag) (hw : flag (slot n w) = false) : w < r + n := by
  have hle := h.le
  have hcap := h.cap
  have hpos := Nat.pos_of_neZero n
  by_contra hge
  have heq : w = r + n := by omega
  have hflag := h.flagged (n := n) le_rfl (by omega)
  have hslot : slot n w = slot n r := by rw [slot_eq_iff, heq, Nat.add_mod_right]
  rw [hslot, hflag] at hw
  cases hw

/-- The writer's place is none of the places in use. -/
theorem Window.slot_ne (h : Window r w flag) (hw : flag (slot n w) = false) {k : ℕ} (hr : r ≤ k)
    (hk : k < w) : slot n k ≠ slot n w := by
  intro heq
  have hflag := h.flagged hr hk
  rw [heq, hw] at hflag
  cases hflag

theorem Window.push (h : Window r w flag) (hw : flag (slot n w) = false) :
    Window r (w + 1) (Function.update flag (slot n w) true) := by
  have hle := h.le
  have hlt := h.not_full hw
  refine ⟨by omega, by omega, fun i ↦ ?_⟩
  by_cases hi : i = slot n w
  · subst hi
    rw [Function.update_self]
    exact ⟨fun _ ↦ ⟨w, hle, Nat.lt_succ_self w, rfl⟩, fun _ ↦ rfl⟩
  · rw [Function.update_of_ne hi, h.flag_iff]
    constructor
    · intro hcond
      obtain ⟨k, hr, hk, hki⟩ := hcond
      exact ⟨k, hr, by omega, hki⟩
    · intro hcond
      obtain ⟨k, hr, hk, hki⟩ := hcond
      have hkw : k ≠ w := fun hkw ↦ hi (hki ▸ hkw ▸ rfl)
      exact ⟨k, hr, by omega, hki⟩

theorem Window.pop (h : Window r w flag) (hr : flag (slot n r) = true) :
    Window (r + 1) w (Function.update flag (slot n r) false) := by
  have hcap := h.cap
  have hlt := h.nonempty hr
  refine ⟨hlt, by omega, fun i ↦ ?_⟩
  by_cases hi : i = slot n r
  · subst hi
    rw [Function.update_self]
    constructor
    · intro hfalse
      cases hfalse
    · intro hcond
      obtain ⟨k, hrk, hkw, hk⟩ := hcond
      have heq := slot_inj (by omega) (by omega) le_rfl (Nat.lt_add_of_pos_right (Nat.pos_of_neZero n)) hk
      omega
  · rw [Function.update_of_ne hi, h.flag_iff]
    constructor
    · intro hcond
      obtain ⟨k, hrk, hk, hki⟩ := hcond
      have hkr : k ≠ r := fun hkr ↦ hi (hki ▸ hkr ▸ rfl)
      exact ⟨k, by omega, hk, hki⟩
    · intro hcond
      obtain ⟨k, hrk, hk, hki⟩ := hcond
      exact ⟨k, by omega, hk, hki⟩

/-- Only the flags matter. -/
theorem Window.congr (h : Window r w flag) {flag' : Fin n → Bool} (heq : ∀ i, flag' i = flag i) :
    Window r w flag' := funext heq ▸ h

end VirtualCamera.Library.Ring
