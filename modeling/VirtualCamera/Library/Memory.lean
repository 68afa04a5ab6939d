import Mathlib.Data.List.Basic
import Mathlib.Data.Int.ModEq

namespace VirtualCamera.Library.Memory

/-- A 32-bit two's complement `int`. -/
def int32 (z : ℤ) : ℤ := z.bmod (2 ^ 32)

def toInt32 (n : ℕ) : ℤ := int32 n

/-- Conversion of an `int` to a 64-bit `size_t`. -/
def sizeT (z : ℤ) : ℕ := (z % 2 ^ 64).toNat

def INT_MAX : ℕ := 2 ^ 31 - 1

/-- A result that an `int` holds. -/
def checkInt (r : ℤ) : Option ℤ := if -2 ^ 31 ≤ r ∧ r ≤ INT_MAX then some r else none

theorem checkInt_of_le {r : ℤ} (h : 0 ≤ r) (h' : r ≤ INT_MAX) : checkInt r = some r :=
  if_pos ⟨by omega, h'⟩

theorem int32_range (z : ℤ) : -2 ^ 31 ≤ int32 z ∧ int32 z < 2 ^ 31 := by
  have h := Int.le_bmod (x := z) (m := 2 ^ 32) (by decide)
  have h' := Int.bmod_lt (x := z) (m := 2 ^ 32) (by decide)
  unfold int32
  omega

theorem int32_of_range {z : ℤ} (h : -2 ^ 31 ≤ z) (h' : z < 2 ^ 31) : int32 z = z := by
  unfold int32
  apply Int.bmod_eq_of_le <;> omega

theorem sizeT_of_nonneg {z : ℤ} (h : 0 ≤ z) (h' : z < 2 ^ 31) : sizeT z = z.toNat := by
  unfold sizeT
  omega

theorem toInt32_inj {n n' : ℕ} (h : toInt32 n = toInt32 n') (hn : n < 2 ^ 32) (hn' : n' < 2 ^ 32) :
    n = n' := by
  have hmod := congrArg (· % (2 ^ 32 : ℤ)) h
  unfold toInt32 int32 at hmod
  have hleft := Int.bmod_emod (x := n) (m := 2 ^ 32)
  have hright := Int.bmod_emod (x := n') (m := 2 ^ 32)
  push_cast at hmod hleft hright
  omega

theorem toInt32_of_le {n : ℕ} (h : n ≤ INT_MAX) : toInt32 n = n := by
  unfold INT_MAX at h
  exact int32_of_range (by omega) (by omega)

variable {α : Type}

/-- A bounded copy: `none` when a byte would land outside the destination. -/
def memcpy (dst : List α) (off : ℕ) (src : List α) : Option (List α) :=
  if off + src.length ≤ dst.length then
    some (dst.take off ++ src ++ dst.drop (off + src.length))
  else none

theorem memcpy_isSome (dst : List α) (off : ℕ) (src : List α) :
    (memcpy dst off src).isSome ↔ off + src.length ≤ dst.length := by
  unfold memcpy
  split <;> simp_all

theorem memcpy_eq_some {dst dst' : List α} {off : ℕ} {src : List α}
    (h : memcpy dst off src = some dst') :
    off + src.length ≤ dst.length ∧
      dst' = dst.take off ++ src ++ dst.drop (off + src.length) := by
  unfold memcpy at h
  split at h
  · exact ⟨‹_›, (Option.some.inj h).symm⟩
  · cases h

theorem memcpy_length {dst dst' : List α} {off : ℕ} {src : List α}
    (h : memcpy dst off src = some dst') : dst'.length = dst.length := by
  obtain ⟨hle, rfl⟩ := memcpy_eq_some h
  simp only [List.length_append, List.length_take, List.length_drop]
  omega

/-- What stands before the end of the copy is the old prefix and the source. -/
theorem memcpy_take {dst dst' : List α} {off : ℕ} {src : List α}
    (h : memcpy dst off src = some dst') : dst'.take (off + src.length) = dst.take off ++ src := by
  obtain ⟨hle, rfl⟩ := memcpy_eq_some h
  have hlen : (dst.take off ++ src).length = off + src.length := by
    simp only [List.length_append, List.length_take]
    omega
  rw [← hlen, List.take_left']
  exact rfl

/-- A buffer of a fixed size. -/
structure Buffer (α : Type) (n : ℕ) where
  data : List α
  length_eq : data.length = n

def Buffer.replicate (n : ℕ) (a : α) : Buffer α n := ⟨List.replicate n a, List.length_replicate⟩

/-- A bounded copy into the buffer. -/
def Buffer.write {n : ℕ} (b : Buffer α n) (off : ℕ) (src : List α) : Option (Buffer α n) :=
  match h : memcpy b.data off src with
  | none => none
  | some data => some ⟨data, (memcpy_length h).trans b.length_eq⟩

theorem Buffer.write_eq_some {n : ℕ} {b b' : Buffer α n} {off : ℕ} {src : List α}
    (h : b.write off src = some b') :
    off + src.length ≤ n ∧ memcpy b.data off src = some b'.data := by
  unfold Buffer.write at h
  split at h
  · cases h
  · rename_i data hdata
    cases h
    exact ⟨b.length_eq ▸ (memcpy_eq_some hdata).1, hdata⟩

theorem Buffer.write_eq_none {n : ℕ} {b : Buffer α n} {off : ℕ} {src : List α} :
    b.write off src = none ↔ n < off + src.length := by
  have hsome := memcpy_isSome b.data off src
  rw [b.length_eq] at hsome
  unfold Buffer.write
  split
  · rename_i hnone
    rw [hnone] at hsome
    exact ⟨fun _ ↦ not_le.mp fun hle ↦ Bool.false_ne_true (hsome.mpr hle), fun _ ↦ rfl⟩
  · rename_i data hdata
    rw [hdata] at hsome
    exact ⟨nofun, fun hlt ↦ absurd (hsome.mp rfl) (not_le.mpr hlt)⟩

/-- The positions of a loop from `lo` on, below `hi`, with a stride. -/
def positions (lo hi stride : ℕ) : List ℕ :=
  List.range' lo ((hi - lo + stride - 1) / stride) stride

theorem mem_positions {lo hi stride k : ℕ} (h : 0 < stride) :
    k ∈ positions lo hi stride ↔ ∃ m, k = lo + stride * m ∧ k < hi := by
  have hbound (m : ℕ) : m < (hi - lo + stride - 1) / stride ↔ lo + stride * m < hi := by
    rw [Nat.lt_div_iff_mul_lt h, Nat.mul_comm m]
    omega
  rw [positions, List.mem_range']
  constructor
  · intro hcond
    obtain ⟨m, hm, rfl⟩ := hcond
    exact ⟨m, rfl, (hbound m).mp hm⟩
  · intro hcond
    obtain ⟨m, rfl, hm⟩ := hcond
    exact ⟨m, (hbound m).mpr hm, rfl⟩

/-- The length of a buffer that accesses at these offsets need. -/
def extent (offsets : List ℕ) : ℕ := offsets.foldr (fun k n ↦ max (k + 1) n) 0

theorem extent_le {offsets : List ℕ} {n : ℕ} : extent offsets ≤ n ↔ ∀ k ∈ offsets, k < n := by
  induction offsets with
  | nil => simp [extent]
  | cons k rest ih =>
    rw [List.forall_mem_cons, ← ih]
    exact max_le_iff

/-- The furthest access gives the extent. -/
theorem extent_eq {offsets : List ℕ} {k : ℕ} (hk : k ∈ offsets) (hmax : ∀ m ∈ offsets, m ≤ k) :
    extent offsets = k + 1 := by
  apply le_antisymm
  · exact extent_le.mpr fun m hm ↦ Nat.lt_succ_of_le (hmax m hm)
  · exact extent_le.mp le_rfl k hk

theorem extent_append (l l' : List ℕ) : extent (l ++ l') = max (extent l) (extent l') := by
  induction l with
  | nil => simp [extent]
  | cons k l ih =>
    simp only [extent, List.cons_append, List.foldr_cons] at ih ⊢
    rw [ih, max_assoc]

theorem range_ne_nil {n : ℕ} (h : 0 < n) : List.range n ≠ [] := by
  rw [Ne, List.range_eq_nil]
  exact Nat.ne_of_gt h

theorem extent_range (n : ℕ) : extent (List.range n) = n := by
  cases n with
  | zero => rfl
  | succ n =>
    apply extent_eq (List.mem_range.mpr (Nat.lt_succ_self n))
    exact fun m hm ↦ Nat.le_of_lt_succ (List.mem_range.mp hm)

/-- A loop that does the same accesses from further and further on reaches furthest in its
last round. -/
theorem extent_rounds {n : ℕ} {start : ℕ → ℕ} (hstart : Monotone start) {l : List ℕ}
    (hl : l ≠ []) :
    extent ((List.range (n + 1)).flatMap fun i ↦ l.map (start i + ·)) = start n + extent l := by
  apply le_antisymm
  · apply extent_le.mpr
    intro k hk
    obtain ⟨i, hi, hk⟩ := List.mem_flatMap.mp hk
    obtain ⟨m, hm, rfl⟩ := List.mem_map.mp hk
    have hle := hstart (Nat.le_of_lt_succ (List.mem_range.mp hi))
    have hlt := extent_le.mp le_rfl m hm
    omega
  · have hlast : ∀ m ∈ l, start n + m <
        extent ((List.range (n + 1)).flatMap fun i ↦ l.map (start i + ·)) := by
      intro m hm
      apply extent_le.mp le_rfl
      exact List.mem_flatMap.mpr
        ⟨n, List.mem_range.mpr (Nat.lt_succ_self n), List.mem_map_of_mem hm⟩
    obtain ⟨m, hm⟩ := List.exists_mem_of_ne_nil l hl
    have hle : extent l ≤
        extent ((List.range (n + 1)).flatMap fun i ↦ l.map (start i + ·)) - start n := by
      apply extent_le.mpr
      intro k hk
      have := hlast k hk
      omega
    have := hlast m hm
    omega

/-- Consecutive windows of one width, as a sender cuts a buffer. -/
def windows (w n : ℕ) (l : List α) : List (List α) :=
  (List.range n).map fun i ↦ (l.drop (i * w)).take w

theorem windows_succ (w n : ℕ) (l : List α) :
    windows w (n + 1) l = windows w n l ++ [(l.drop (n * w)).take w] := by
  simp [windows, List.range_succ]

theorem windows_flatten (w n : ℕ) (l : List α) : (windows w n l).flatten = l.take (n * w) := by
  induction n with
  | zero => simp [windows]
  | succ n ih =>
    rw [windows_succ, List.flatten_append, ih, List.flatten_singleton, Nat.succ_mul,
      List.take_add]

/-- Windows that reach the end of the buffer reassemble to it. -/
theorem windows_cover {w n : ℕ} {l : List α} (h : l.length ≤ n * w) :
    (windows w n l).flatten = l := by
  rw [windows_flatten, List.take_of_length_le h]

end VirtualCamera.Library.Memory
