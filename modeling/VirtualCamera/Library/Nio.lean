import Mathlib.Data.List.Basic
import Mathlib.Algebra.Order.Ring.Int

namespace VirtualCamera.Library.Nio

variable {α : Type}

/-- Elements with a position and a limit; the capacity is the number of elements. -/
structure Buffer (α : Type) where
  elements : List α
  position : ℕ
  limit : ℕ
  position_le : position ≤ limit
  limit_le : limit ≤ elements.length

def Buffer.remaining (b : Buffer α) : ℕ := b.limit - b.position

def Buffer.clear (b : Buffer α) : Buffer α :=
  ⟨b.elements, 0, b.elements.length, Nat.zero_le _, le_rfl⟩

/-- What is before the position is what remains. -/
def Buffer.flip (b : Buffer α) : Buffer α :=
  ⟨b.elements, 0, b.position, Nat.zero_le _, b.position_le.trans b.limit_le⟩

/-- A position past the limit is refused. -/
def Buffer.setPosition (b : Buffer α) (position : ℤ) : Option (Buffer α) :=
  if h : 0 ≤ position ∧ position ≤ b.limit then
    some ⟨b.elements, position.toNat, b.limit, by omega, b.limit_le⟩
  else none

def Buffer.rest (b : Buffer α) : List α := (b.elements.take b.limit).drop b.position

def Buffer.put (b : Buffer α) (src : List α) : Option (Buffer α) :=
  if h : src.length ≤ b.remaining then
    some ⟨b.elements.take b.position ++ src ++ b.elements.drop (b.position + src.length),
      b.position + src.length, b.limit,
      by have := b.position_le; unfold Buffer.remaining at h; omega,
      by
        have := b.position_le
        have := b.limit_le
        unfold Buffer.remaining at h
        simp only [List.length_append, List.length_take, List.length_drop]
        omega⟩
  else none

/-- A part of an array; indices outside it are refused. -/
def Buffer.putArray (b : Buffer α) (src : List α) (offset length : ℤ) : Option (Buffer α) :=
  if 0 ≤ offset ∧ 0 ≤ length ∧ offset + length ≤ src.length then
    b.put ((src.drop offset.toNat).take length.toNat)
  else none

/-- All that another buffer has left, which is read to its limit. -/
def Buffer.putBuffer (b src : Buffer α) : Option (Buffer α × Buffer α) :=
  (b.put src.rest).map fun b ↦ (b, ⟨src.elements, src.limit, src.limit, le_rfl, src.limit_le⟩)

/-- What is put into a cleared buffer stands at its beginning. -/
theorem put_clear {b : Buffer α} {src : List α} (h : src.length ≤ b.elements.length) :
    ∃ b', b.clear.put src = some b' ∧ b'.elements.take src.length = src := by
  unfold Buffer.put Buffer.clear Buffer.remaining
  rw [dif_pos (by dsimp only; omega)]
  refine ⟨_, rfl, ?_⟩
  simp

theorem rest_flip (b : Buffer α) : b.flip.rest = b.elements.take b.position := by
  unfold Buffer.rest Buffer.flip
  rw [List.drop_zero]

theorem setPosition_of_le {b : Buffer α} {n : ℕ} (h : n ≤ b.limit) :
    ∃ b', b.setPosition n = some b' ∧ b'.elements = b.elements ∧ b'.position = n ∧
      b'.limit = b.limit := by
  unfold Buffer.setPosition
  rw [dif_pos ⟨Int.natCast_nonneg n, by exact_mod_cast h⟩]
  exact ⟨_, rfl, rfl, Int.toNat_natCast n, rfl⟩

theorem setPosition_eq_none {b : Buffer α} {position : ℤ} :
    b.setPosition position = none ↔ position < 0 ∨ (b.limit : ℤ) < position := by
  unfold Buffer.setPosition
  split
  · simp only [reduceCtorEq, false_iff]
    omega
  · simp only [true_iff]
    omega

end VirtualCamera.Library.Nio
