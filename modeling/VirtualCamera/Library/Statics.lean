import Mathlib.Logic.Function.Basic
import Mathlib.Data.Option.Basic
import Mathlib.Data.List.Basic

namespace VirtualCamera.Library.Statics

/-! ### Buffers that are allocated on first use and kept -/

/-- A copy out of or into a buffer, and how far it reaches. -/
structure Copy (β : Type) where
  buffer : β
  bytes : ℕ
  deriving DecidableEq, Repr

/-- The sizes of the buffers that are allocated, and the copies made so far, the
latest first. -/
structure Arena (β : Type) where
  size : β → Option ℕ
  copies : List (Copy β)

variable {β : Type}

namespace Arena

def empty : Arena β := ⟨fun _ ↦ none, []⟩

/-- A buffer that is not allocated has no bytes. -/
def bytes (a : Arena β) (b : β) : ℕ := (a.size b).getD 0

/-- The size of a buffer that would be allocated with `n` bytes now. -/
def firstUse (a : Arena β) (b : β) (n : ℕ) : ℕ := (a.size b).getD n

def copy (a : Arena β) (b : β) (n : ℕ) : Arena β := { a with copies := ⟨b, n⟩ :: a.copies }

/-- Every copy stayed in its buffer. -/
def Safe (a : Arena β) : Prop := ∀ c ∈ a.copies, c.bytes ≤ a.bytes c.buffer

/-- The buffers that are allocated stay as they are. -/
def Grows (a a' : Arena β) : Prop := ∀ b n, a.size b = some n → a'.size b = some n

theorem Grows.refl (a : Arena β) : a.Grows a := fun _ _ h ↦ h

theorem Grows.trans {a a' a'' : Arena β} (h : a.Grows a') (h' : a'.Grows a'') : a.Grows a'' :=
  fun b n hb ↦ h' b n (h b n hb)

theorem Grows.bytes_le {a a' : Arena β} (h : a.Grows a') (b : β) : a.bytes b ≤ a'.bytes b := by
  unfold bytes
  cases hb : a.size b with
  | none => exact Nat.zero_le _
  | some n => simp [h b n hb]

theorem safe_empty : (empty : Arena β).Safe := nofun

@[simp] theorem size_copy (a : Arena β) (b : β) (n : ℕ) : (a.copy b n).size = a.size := rfl

@[simp] theorem bytes_copy (a : Arena β) (b b' : β) (n : ℕ) : (a.copy b n).bytes b' = a.bytes b' :=
  rfl

@[simp] theorem firstUse_copy (a : Arena β) (b b' : β) (n m : ℕ) :
    (a.copy b n).firstUse b' m = a.firstUse b' m := rfl

theorem Grows.copy {a a' : Arena β} (h : a.Grows a') (b : β) (n : ℕ) : a.Grows (a'.copy b n) := h

theorem safe_copy {a : Arena β} {b : β} {n : ℕ} :
    (a.copy b n).Safe ↔ n ≤ a.bytes b ∧ a.Safe :=
  List.forall_mem_cons

theorem Safe.copy {a : Arena β} (h : a.Safe) {b : β} {n : ℕ} (hn : n ≤ a.bytes b) :
    (a.copy b n).Safe :=
  safe_copy.mpr ⟨hn, h⟩

variable [DecidableEq β]

/-- The initialisation of a function's static buffer. -/
def static (a : Arena β) (b : β) (n : ℕ) : Arena β :=
  if a.size b = none then { a with size := Function.update a.size b (some n) } else a

theorem size_static (a : Arena β) (b b' : β) (n : ℕ) :
    (a.static b n).size b' = if b' = b then some (a.firstUse b n) else a.size b' := by
  unfold static firstUse
  split
  · rename_i hb
    rw [hb]
    exact Function.update_apply _ _ _ _
  · split
    · subst b'
      obtain ⟨m, hm⟩ := Option.ne_none_iff_exists'.mp ‹_›
      rw [hm]
      rfl
    · rfl

theorem size_static_of_ne (a : Arena β) {b b' : β} (h : b' ≠ b) (n : ℕ) :
    (a.static b n).size b' = a.size b' := by
  rw [size_static, if_neg h]

@[simp] theorem copies_static (a : Arena β) (b : β) (n : ℕ) :
    (a.static b n).copies = a.copies := by
  unfold static
  split <;> rfl

theorem bytes_static (a : Arena β) (b b' : β) (n : ℕ) :
    (a.static b n).bytes b' = if b' = b then a.firstUse b n else a.bytes b' := by
  rw [bytes, size_static]
  split <;> rfl

theorem firstUse_static (a : Arena β) (b b' : β) (n m : ℕ) :
    (a.static b n).firstUse b' m = if b' = b then a.firstUse b n else a.firstUse b' m := by
  rw [firstUse, size_static]
  split <;> rfl

theorem grows_static (a : Arena β) (b : β) (n : ℕ) : a.Grows (a.static b n) := by
  intro b' m h
  unfold static
  split
  · rename_i hb
    have hne : b' ≠ b := by
      rintro rfl
      rw [h] at hb
      cases hb
    exact (Function.update_of_ne hne _ _).trans h
  · exact h

theorem Grows.static {a a' : Arena β} (h : a.Grows a') (b : β) (n : ℕ) :
    a.Grows (a'.static b n) :=
  h.trans (a'.grows_static b n)

theorem Safe.static {a : Arena β} (h : a.Safe) (b : β) (n : ℕ) : (a.static b n).Safe := by
  intro c hc
  rw [copies_static] at hc
  exact Nat.le_trans (h c hc) ((a.grows_static b n).bytes_le c.buffer)

end Arena

end VirtualCamera.Library.Statics
