import Mathlib.Data.List.Basic
import VirtualCamera.Library.Raster

namespace VirtualCamera.Library.Stores

open Raster

variable {β : Type*}

/-- What is stored last at an address, of stores made one after the other. -/
def last : List (ℤ × β) → ℤ → Option β
  | [], _ => none
  | s :: log, a => (last log a).or (if s.1 = a then some s.2 else none)

theorem last_eq_none {log : List (ℤ × β)} {a : ℤ} : last log a = none ↔ ∀ s ∈ log, s.1 ≠ a := by
  induction log with
  | nil => exact ⟨fun _ s hs ↦ absurd hs List.not_mem_nil, fun _ ↦ rfl⟩
  | cons s log ih =>
    rw [last, Option.or_eq_none_iff, ih, List.forall_mem_cons, and_comm]
    simp

theorem mem_of_last {log : List (ℤ × β)} {a : ℤ} {v : β} (h : last log a = some v) :
    (a, v) ∈ log := by
  induction log with
  | nil => cases h
  | cons s log ih =>
    rw [last, Option.or_eq_some_iff] at h
    obtain h | ⟨-, h⟩ := h
    · exact List.mem_cons_of_mem s (ih h)
    · split at h
      · rename_i ha
        rw [← ha, ← Option.some.inj h]
        exact List.mem_cons_self
      · cases h

/-- Where all stores agree, their order does not matter. -/
theorem last_of_mem {log : List (ℤ × β)} {a : ℤ} {v : β} (h : (a, v) ∈ log)
    (hall : ∀ w, (a, w) ∈ log → w = v) : last log a = some v := by
  cases hw : last log a with
  | none => exact absurd rfl (last_eq_none.mp hw (a, v) h)
  | some w => rw [hall w (mem_of_last hw)]

/-- A run of stores to consecutive addresses, the value of each of which comes from the same
place of a run of sources. -/
def copies (dest src : ℤ) (n : ℕ) : List (ℤ × ℤ) := (List.range n).map fun x : ℕ ↦ (dest + x, src + x)

theorem mem_copies {dest src : ℤ} {n : ℕ} {p : ℤ × ℤ} :
    p ∈ copies dest src n ↔ ∃ x < n, p = (dest + x, src + x) := by
  unfold copies
  rw [List.mem_map]
  constructor
  · intro h
    obtain ⟨x, hx, rfl⟩ := h
    exact ⟨x, List.mem_range.mp hx, rfl⟩
  · intro h
    obtain ⟨x, hx, rfl⟩ := h
    exact ⟨x, List.mem_range.mpr hx, rfl⟩

theorem last_copies {dest src : ℤ} {n x : ℕ} (hx : x < n) :
    last (copies dest src n) (dest + x) = some (src + x) := by
  refine last_of_mem (mem_copies.mpr ⟨x, hx, rfl⟩) fun w hw ↦ ?_
  obtain ⟨y, -, heq⟩ := mem_copies.mp hw
  obtain ⟨hdest, rfl⟩ := Prod.mk.inj heq
  rw [add_left_cancel hdest]

/-- A run of stores to consecutive addresses, from sources at the given offsets. -/
def gather (dest src : ℤ) (offsets : List ℕ) : List (ℤ × ℤ) :=
  offsets.zipIdx.map fun p ↦ (dest + p.2, src + p.1)

theorem mem_gather {dest src : ℤ} {offsets : List ℕ} {p : ℤ × ℤ} :
    p ∈ gather dest src offsets ↔
      ∃ m o, offsets[m]? = some o ∧ p = (dest + (m : ℕ), src + (o : ℕ)) := by
  unfold gather
  rw [List.mem_map]
  constructor
  · intro h
    obtain ⟨⟨o, m⟩, hmem, rfl⟩ := h
    exact ⟨m, o, List.mem_zipIdx_iff_getElem?.mp hmem, rfl⟩
  · intro h
    obtain ⟨m, o, hoffset, rfl⟩ := h
    exact ⟨(o, m), List.mem_zipIdx_iff_getElem?.mpr hoffset, rfl⟩

theorem gather_append (dest src : ℤ) (offsets offsets' : List ℕ) :
    gather dest src (offsets ++ offsets') =
      gather dest src offsets ++ gather (dest + offsets.length) src offsets' := by
  unfold gather
  rw [List.zipIdx_append, List.map_append, Nat.zero_add]
  congr 1
  rw [List.zipIdx_eq_map_add, List.map_map]
  refine List.map_congr_left fun p _ ↦ ?_
  simp only [Function.comp_apply]
  push_cast
  rw [add_assoc, add_comm (offsets.length : ℤ)]

theorem map_snd_gather (dest : ℤ) (src : ℕ) (offsets : List ℕ) :
    (gather dest src offsets).map Prod.snd = (offsets.map (src + ·)).map Nat.cast := by
  unfold gather
  rw [List.map_map, List.map_map]
  conv_rhs => rw [← List.zipIdx_map_fst 0 offsets, List.map_map]
  refine List.map_congr_left fun p _ ↦ ?_
  simp only [Function.comp_apply]
  push_cast
  rfl

theorem map_fst_gather (dest : ℕ) (src : ℤ) (offsets : List ℕ) :
    (gather dest src offsets).map Prod.fst =
      ((List.range offsets.length).map (dest + ·)).map Nat.cast := by
  unfold gather
  rw [List.map_map, List.map_map, List.range_eq_range', ← List.zipIdx_map_snd 0 offsets,
    List.map_map]
  refine List.map_congr_left fun p _ ↦ ?_
  simp only [Function.comp_apply]
  push_cast
  rfl

theorem getElem?_flatMap_const {α γ : Type*} {l : List α} {f : α → List γ} {c : ℕ}
    (h : ∀ a ∈ l, (f a).length = c) (i : ℕ) {j : ℕ} (hj : j < c) :
    (l.flatMap f)[c * i + j]? = l[i]?.bind fun a ↦ (f a)[j]? := by
  induction l generalizing i with
  | nil => rfl
  | cons a l ih =>
    obtain ⟨ha, hl⟩ := List.forall_mem_cons.mp h
    rw [List.flatMap_cons]
    cases i with
    | zero =>
      rw [Nat.mul_zero, Nat.zero_add, List.getElem?_append_left (by rw [ha]; exact hj)]
      rfl
    | succ i =>
      have hnext : c * (i + 1) + j - c = c * i + j := by
        rw [Nat.mul_succ]
        omega
      rw [List.getElem?_append_right (by rw [ha, Nat.mul_succ]; omega), ha, hnext, ih hl i,
        List.getElem?_cons_succ]

def rows (base : ℤ) (width height stride : ℕ) : Grid := ⟨base, width, height, stride, 1⟩

def rowCopies (dest src : ℤ) (width height strideDest strideSrc : ℕ) : List (ℤ × ℤ) :=
  (List.range height).flatMap fun y : ℕ ↦
    copies (dest + strideDest * y) (src + strideSrc * y) width

section

variable {dest src : ℤ} {width height strideDest strideSrc : ℕ}

theorem rowCopies_succ (n : ℕ) : rowCopies dest src width (n + 1) strideDest strideSrc =
    rowCopies dest src width n strideDest strideSrc ++
      copies (dest + strideDest * n) (src + strideSrc * n) width := by
  unfold rowCopies
  rw [List.range_succ, List.flatMap_append, List.flatMap_singleton]

theorem mem_rowCopies {p : ℤ × ℤ} :
    p ∈ rowCopies dest src width height strideDest strideSrc ↔ ∃ x y, x < width ∧ y < height ∧
      p = ((rows dest width height strideDest).cell x y,
        (rows src width height strideSrc).cell x y) := by
  unfold rowCopies
  rw [List.mem_flatMap]
  constructor
  · intro h
    obtain ⟨y, hy, hp⟩ := h
    obtain ⟨x, hx, rfl⟩ := mem_copies.mp hp
    refine ⟨x, y, hx, List.mem_range.mp hy, ?_⟩
    simp only [rows, Grid.cell, one_mul]
  · intro h
    obtain ⟨x, y, hx, hy, rfl⟩ := h
    refine ⟨y, List.mem_range.mpr hy, mem_copies.mpr ⟨x, hx, ?_⟩⟩
    simp only [rows, Grid.cell, one_mul]

/-- Rows that do not run into each other keep what was copied into them. -/
theorem last_rowCopies (hstride : width ≤ strideDest) {x y : ℕ} (hx : x < width) (hy : y < height) :
    last (rowCopies dest src width height strideDest strideSrc)
        ((rows dest width height strideDest).cell x y) =
      some ((rows src width height strideSrc).cell x y) := by
  refine last_of_mem (mem_rowCopies.mpr ⟨x, y, hx, hy, rfl⟩) fun w hw ↦ ?_
  obtain ⟨x', y', hx', hy', heq⟩ := mem_rowCopies.mp hw
  obtain ⟨hcell, rfl⟩ := Prod.mk.inj heq
  obtain ⟨rfl, rfl⟩ := (rows dest width height strideDest).cell_inj one_pos
    (by change 1 * ((width : ℤ) - 1) < strideDest; omega) hx hx' hcell
  rfl

end

end VirtualCamera.Library.Stores
