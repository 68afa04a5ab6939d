import VirtualCamera.Library.Memory
import VirtualCamera.Library.Stores

namespace VirtualCamera.Service.Surface

open Library.Memory Library.Raster Library.Stores

/-- The two pointers, and the bytes that were copied: each with where it went and where it came
from. -/
structure Cursor where
  dest : ℤ
  src : ℤ
  copied : List (ℤ × ℤ)

def Cursor.copyRow (width stride_src stride_dest : ℕ) (c : Cursor) : Cursor where
  dest := c.dest + stride_dest
  src := c.src + stride_src
  copied := c.copied ++ copies c.dest c.src width

/-- The second loop starts from 0 again. Its counter is exact here. -/
def sCopyFrame (src dest : ℤ) (width : ℕ) (height : ℤ) (stride_src stride_dest : ℕ) :
    List (ℤ × ℤ) :=
  let row := Cursor.copyRow width stride_src stride_dest
  let h8 := height.tmod 8
  let c := (positions 0 h8.toNat 1).foldl (fun c _ ↦ row c) ⟨dest, src, []⟩
  ((positions 0 height.toNat 8).foldl (fun c _ ↦ row^[8] c) c).copied

/-- The copier of the application's library, which has the same text. -/
def copyFrame : ℤ → ℤ → ℕ → ℤ → ℕ → ℕ → List (ℤ × ℤ) := sCopyFrame

/-- The first `height` rows are copied, whatever the memory holds, and nothing else is written
or read. -/
structure ExactCopy (src dest : ℤ) (width : ℕ) (height : ℤ) (stride_src stride_dest : ℕ)
    (copied : List (ℤ × ℤ)) : Prop where
  complete : ∀ x y, x < width → y < height.toNat →
    last copied ((rows dest width height.toNat stride_dest).cell x y) =
      some ((rows src width height.toNat stride_src).cell x y)
  written : ∀ p ∈ copied, (rows dest width height.toNat stride_dest).Covers p.1
  read : ∀ p ∈ copied, (rows src width height.toNat stride_src).Covers p.2

/-! ### The rows that are copied -/

section

variable {width stride_src stride_dest : ℕ}

theorem copyRow_iterate (n : ℕ) (c : Cursor) :
    (Cursor.copyRow width stride_src stride_dest)^[n] c =
      ⟨c.dest + stride_dest * n, c.src + stride_src * n,
        c.copied ++ rowCopies c.dest c.src width n stride_dest stride_src⟩ := by
  induction n with
  | zero => simp [rowCopies]
  | succ n ih =>
    rw [Function.iterate_succ_apply', ih, rowCopies_succ, ← List.append_assoc]
    unfold Cursor.copyRow
    congr 1
    · push_cast
      ring
    · push_cast
      ring

theorem rounds_eq (k : ℕ) (l : List ℕ) (c : Cursor) :
    l.foldl (fun c _ ↦ (Cursor.copyRow width stride_src stride_dest)^[k] c) c =
      (Cursor.copyRow width stride_src stride_dest)^[k * l.length] c := by
  induction l generalizing c with
  | nil => rfl
  | cons i l ih =>
    rw [List.foldl_cons, ih, ← Function.iterate_add_apply, List.length_cons, Nat.mul_succ]

/-- The rows past a multiple of eight are copied by both loops. -/
def copiedRows (height : ℤ) : ℕ := (height.tmod 8).toNat + 8 * ((height.toNat + 7) / 8)

theorem sCopyFrame_eq (src dest : ℤ) (height : ℤ) :
    sCopyFrame src dest width height stride_src stride_dest =
      rowCopies dest src width (copiedRows height) stride_dest stride_src := by
  have hone (l : List ℕ) (c : Cursor) :
      l.foldl (fun c _ ↦ Cursor.copyRow width stride_src stride_dest c) c =
        (Cursor.copyRow width stride_src stride_dest)^[1 * l.length] c := rounds_eq 1 l c
  simp only [one_mul] at hone
  have hrows : 8 * (positions 0 height.toNat 8).length + (positions 0 (height.tmod 8).toNat 1).length =
      copiedRows height := by
    unfold positions copiedRows
    rw [List.length_range', List.length_range']
    omega
  unfold sCopyFrame
  dsimp only
  rw [hone, rounds_eq, ← Function.iterate_add_apply, copyRow_iterate, hrows, List.nil_append]

theorem copiedRows_of_nonneg {height : ℤ} (h : 0 ≤ height) :
    copiedRows height = height.toNat % 8 + 8 * ((height.toNat + 7) / 8) := by
  unfold copiedRows
  rw [Int.tmod_eq_emod_of_nonneg h]
  omega

theorem copiedRows_eq {height : ℤ} (h : height ≤ 0 ∨ height % 8 = 0) :
    copiedRows height = height.toNat := by
  rcases le_or_gt 0 height with hpos | hneg
  · rw [copiedRows_of_nonneg hpos]
    omega
  · have htmod : 0 ≤ (-height).tmod 8 := Int.tmod_nonneg 8 (by omega)
    rw [Int.neg_tmod] at htmod
    unfold copiedRows
    omega

theorem lt_copiedRows {height : ℤ} (h : 0 < height) (hmod : height % 8 ≠ 0) :
    height.toNat < copiedRows height := by
  rw [copiedRows_of_nonneg h.le]
  omega

theorem exactCopy_of_rows {src dest : ℤ} {height : ℤ} (hdest : width ≤ stride_dest)
    (hrows : copiedRows height = height.toNat ∨ width = 0) :
    ExactCopy src dest width height stride_src stride_dest
      (sCopyFrame src dest width height stride_src stride_dest) := by
  have hmem (p : ℤ × ℤ) (hp : p ∈ sCopyFrame src dest width height stride_src stride_dest) :
      ∃ x y, x < width ∧ y < height.toNat ∧
        p = ((rows dest width height.toNat stride_dest).cell x y,
          (rows src width height.toNat stride_src).cell x y) := by
    rw [sCopyFrame_eq] at hp
    obtain ⟨x, y, hx, hy, rfl⟩ := mem_rowCopies.mp hp
    obtain hrows | rfl := hrows
    · exact ⟨x, y, hx, hrows ▸ hy, rfl⟩
    · exact absurd hx (Nat.not_lt_zero x)
  constructor
  · intro x y hx hy
    obtain hrows | rfl := hrows
    · rw [sCopyFrame_eq, hrows]
      exact last_rowCopies hdest hx hy
    · exact absurd hx (Nat.not_lt_zero x)
  · intro p hp
    obtain ⟨x, y, hx, hy, rfl⟩ := hmem p hp
    exact ⟨x, y, hx, hy, rfl⟩
  · intro p hp
    obtain ⟨x, y, hx, hy, rfl⟩ := hmem p hp
    exact ⟨x, y, hx, hy, rfl⟩

theorem not_exactCopy_of_lt {src dest : ℤ} {height : ℤ} (hdest : width ≤ stride_dest)
    (hwidth : 0 < width) (hrows : height.toNat < copiedRows height) :
    ¬ ExactCopy src dest width height stride_src stride_dest
      (sCopyFrame src dest width height stride_src stride_dest) := by
  intro h
  have hmem : (_, _) ∈ rowCopies dest src width (copiedRows height) stride_dest stride_src :=
    mem_rowCopies.mpr ⟨0, height.toNat, hwidth, hrows, rfl⟩
  rw [← sCopyFrame_eq] at hmem
  obtain ⟨x, y, hx, hy, heq⟩ := h.written _ hmem
  have hstep : (rows dest width height.toNat stride_dest).step * (width - 1 : ℤ) <
      (rows dest width height.toNat stride_dest).stride := by
    change 1 * (width - 1 : ℤ) < stride_dest
    omega
  obtain ⟨-, hrow⟩ := (rows dest width height.toNat stride_dest).cell_inj one_pos hstep
    hwidth hx heq
  exact absurd hy (hrow ▸ lt_irrefl _)

end

/-- The copiers copy exactly the rows that they are told to when the number of rows is a multiple
of eight, or there is nothing to copy: the remainder is copied by both loops. -/
theorem copyFrame_exact_iff (src dest : ℤ) (width : ℕ) (height : ℤ) (stride_src stride_dest : ℕ)
    (hdest : width ≤ stride_dest) :
    (ExactCopy src dest width height stride_src stride_dest
        (sCopyFrame src dest width height stride_src stride_dest) ∧
      ExactCopy src dest width height stride_src stride_dest
        (copyFrame src dest width height stride_src stride_dest)) ↔
      height ≤ 0 ∨ height % 8 = 0 ∨ width = 0 := by
  unfold copyFrame
  rw [and_self_iff]
  constructor
  · intro h
    by_contra hnot
    push Not at hnot
    obtain ⟨hpos, hmod, hwidth⟩ := hnot
    exact not_exactCopy_of_lt hdest (Nat.pos_of_ne_zero hwidth) (lt_copiedRows hpos hmod) h
  · intro h
    apply exactCopy_of_rows hdest
    obtain h | h | h := h
    · exact .inl (copiedRows_eq (.inl h))
    · exact .inl (copiedRows_eq (.inr h))
    · exact .inr h

theorem copyFrame_exact_sixteen :
    ExactCopy 0 0 3 16 4 5 (sCopyFrame 0 0 3 16 4 5) ∧ ExactCopy 0 0 3 16 4 5 (copyFrame 0 0 3 16 4 5) :=
  (copyFrame_exact_iff 0 0 3 16 4 5 (by decide)).mpr (.inr (.inl rfl))

/-- For nine rows there are seventeen. -/
theorem nine_rows_overrun : (36, 36) ∈ sCopyFrame 0 0 3 9 4 4 ∧
    ¬ ExactCopy 0 0 3 9 4 4 (sCopyFrame 0 0 3 9 4 4) := by
  have hmem : ((36, 36) : ℤ × ℤ) ∈ sCopyFrame 0 0 3 9 4 4 := by decide +kernel
  refine ⟨hmem, fun h ↦ ?_⟩
  obtain ⟨x, y, hx, hy, heq⟩ := h.written _ hmem
  change y < 9 at hy
  change x < 3 at hx
  simp only [rows, Grid.cell] at heq
  omega

/-! ### The copy to a window -/

/-- A locked buffer; its sizes are in pixels of four bytes. -/
structure Window where
  width : ℕ
  height : ℕ
  stride : ℕ
  width_le : width ≤ stride
  deriving DecidableEq, Repr

/-- No buffer is locked when there is no window or it cannot be locked. There is no result when
an `int` overflows. -/
def sDirectCopyToSurface (w h : ℕ) (locked : Option Window) : Option (ℤ × List (ℤ × ℤ)) :=
  match locked with
  | none => some (-1, [])
  | some buffer =>
    if buffer.stride = w then
      let length := buffer.stride * min h buffer.height * 4
      if length ≤ INT_MAX then some (0, copies 0 0 length) else none
    else
      let src_w := w * 4
      let dest_w := buffer.width * 4
      let dest_step := buffer.stride * 4
      if src_w ≤ INT_MAX ∧ dest_w ≤ INT_MAX ∧ dest_step ≤ INT_MAX then
        let height : ℤ := min h buffer.height
        some (0, sCopyFrame 0 0 (min src_w dest_w) (height - 10) src_w dest_step)
      else none

/-- The copy stays in the buffer, and the four bytes of each visible pixel are those of the
source. -/
structure Shows (w h : ℕ) (buffer : Window) (copied : List (ℤ × ℤ)) : Prop where
  inside : ∀ p ∈ copied, 0 ≤ p.1 ∧ p.1 < (4 * (buffer.stride * buffer.height) : ℕ)
  visible : ∀ x y b, x < min w buffer.width → y < min h buffer.height → b < 4 →
    last copied ((4 * (buffer.stride * y + x) + b : ℕ) : ℤ) = some ((4 * (w * y + x) + b : ℕ) : ℤ)

/-- The source has the row length of the buffer, or nothing of it is visible, and no `int`
overflows. -/
def Agrees (w h : ℕ) (buffer : Window) : Prop :=
  if buffer.stride = w then buffer.stride * min h buffer.height * 4 ≤ INT_MAX
  else (min w buffer.width = 0 ∨ min h buffer.height = 0) ∧ w * 4 ≤ INT_MAX ∧
    buffer.stride * 4 ≤ INT_MAX

section

variable {w h : ℕ} {buffer : Window}

theorem shows_copies (hstride : buffer.stride = w) :
    Shows w h buffer (copies 0 0 (buffer.stride * min h buffer.height * 4)) := by
  constructor
  · intro p hp
    obtain ⟨x, hx, rfl⟩ := mem_copies.mp hp
    have hle : buffer.stride * min h buffer.height ≤ buffer.stride * buffer.height :=
      Nat.mul_le_mul_left _ (Nat.min_le_right _ _)
    exact ⟨by omega, by omega⟩
  · intro x y b hx hy hb
    have hrow : buffer.stride * (y + 1) ≤ buffer.stride * min h buffer.height :=
      Nat.mul_le_mul_left _ hy
    rw [Nat.mul_succ] at hrow
    have hlast : last (copies 0 0 (buffer.stride * min h buffer.height * 4))
        (0 + ((4 * (buffer.stride * y + x) + b : ℕ) : ℤ)) =
          some (0 + ((4 * (buffer.stride * y + x) + b : ℕ) : ℤ)) :=
      last_copies (by omega)
    rw [Int.zero_add] at hlast
    rw [hlast, hstride]

/-- The rows that are taken off and the rows that are copied twice: two stay away at least. -/
theorem copiedRows_sub_ten (m : ℕ) : copiedRows ((m : ℤ) - 10) ≤ m - 2 := by
  rcases le_or_gt ((m : ℤ) - 10) 0 with hle | hgt
  · rw [copiedRows_eq (.inl hle)]
    omega
  · rw [copiedRows_of_nonneg hgt.le]
    omega

theorem inside_sCopyFrame : ∀ p ∈ sCopyFrame 0 0 (min (w * 4) (buffer.width * 4))
      ((min h buffer.height : ℕ) - 10 : ℤ) (w * 4) (buffer.stride * 4),
    0 ≤ p.1 ∧ p.1 < (4 * (buffer.stride * (min h buffer.height - 2)) : ℕ) := by
  intro p hp
  rw [sCopyFrame_eq] at hp
  obtain ⟨x, y, hx, hy, rfl⟩ := mem_rowCopies.mp hp
  have hrow : buffer.stride * (y + 1) ≤ buffer.stride * (min h buffer.height - 2) :=
    Nat.mul_le_mul_left _ (hy.trans_le (copiedRows_sub_ten _))
  rw [Nat.mul_succ] at hrow
  have hwidth := buffer.width_le
  have hcell : (rows 0 (min (w * 4) (buffer.width * 4)) (copiedRows
      ((min h buffer.height : ℕ) - 10 : ℤ)) (buffer.stride * 4)).cell x y =
      (4 * (buffer.stride * y) + x : ℕ) := by
    simp only [rows, Grid.cell]
    push_cast
    ring
  dsimp only
  rw [hcell]
  exact ⟨by omega, by omega⟩

theorem not_shows_sCopyFrame (hw : 0 < min w buffer.width) (hh : 0 < min h buffer.height) :
    ¬ Shows w h buffer (sCopyFrame 0 0 (min (w * 4) (buffer.width * 4))
      ((min h buffer.height : ℕ) - 10 : ℤ) (w * 4) (buffer.stride * 4)) := by
  intro hshows
  have hlast := hshows.visible 0 (min h buffer.height - 1) 0 hw (by omega) (by decide)
  have hlt := (inside_sCopyFrame _ (mem_of_last hlast)).2
  have hle : buffer.stride * (min h buffer.height - 2) ≤ buffer.stride * (min h buffer.height - 1) :=
    Nat.mul_le_mul_left _ (by omega)
  dsimp only at hlt
  omega

end

/-- What is shown agrees with the source exactly when whole rows are copied at once, or nothing
is to be shown: the copy of single rows leaves out the last two. -/
theorem surface_agrees_iff (w h : ℕ) (buffer : Window) :
    (∃ copied, sDirectCopyToSurface w h (some buffer) = some (0, copied) ∧
      Shows w h buffer copied) ↔ Agrees w h buffer := by
  unfold sDirectCopyToSurface Agrees
  dsimp only
  by_cases hstride : buffer.stride = w
  · rw [if_pos hstride, if_pos hstride]
    split
    · rename_i hfits
      exact ⟨fun _ ↦ hfits, fun _ ↦ ⟨_, rfl, shows_copies hstride⟩⟩
    · rename_i hfits
      constructor
      · intro hcond
        obtain ⟨copied, hcopied, -⟩ := hcond
        cases hcopied
      · exact fun h ↦ absurd h hfits
  · rw [if_neg hstride, if_neg hstride]
    have hwidth := buffer.width_le
    split
    · rename_i hfits
      constructor
      · intro hcond
        obtain ⟨copied, hcopied, hshows⟩ := hcond
        obtain ⟨-, rfl⟩ := Prod.mk.inj (Option.some.inj hcopied)
        refine ⟨?_, hfits.1, hfits.2.2⟩
        by_contra hnot
        push Not at hnot
        rw [← Nat.cast_min] at hshows
        exact not_shows_sCopyFrame (Nat.pos_of_ne_zero hnot.1) (Nat.pos_of_ne_zero hnot.2) hshows
      · intro hcond
        obtain ⟨hnothing, -, -⟩ := hcond
        refine ⟨_, rfl, fun p hp ↦ ?_, fun x y b hx hy _ ↦ ?_⟩
        · rw [← Nat.cast_min] at hp
          have hle : buffer.stride * (min h buffer.height - 2) ≤ buffer.stride * buffer.height :=
            Nat.mul_le_mul_left _ (by omega)
          obtain ⟨hlo, hhi⟩ := inside_sCopyFrame p hp
          exact ⟨hlo, by omega⟩
        · omega
    · rename_i hfits
      constructor
      · intro hcond
        obtain ⟨copied, hcopied, -⟩ := hcond
        cases hcopied
      · intro hcond
        obtain ⟨-, hw, hstep⟩ := hcond
        exact absurd ⟨hw, by omega, hstep⟩ hfits

/-- A frame of 4x12 pixels, in a buffer whose rows are eight pixels apart. -/
theorem rows_left_out : ∃ copied, sDirectCopyToSurface 4 12 (some ⟨4, 12, 8, by decide⟩) =
      some (0, copied) ∧ last copied (4 * (8 * 11 + 0) + 0) = none ∧
    ¬ Shows 4 12 ⟨4, 12, 8, by decide⟩ copied := by
  obtain ⟨copied, hcopied⟩ : ∃ copied,
      sDirectCopyToSurface 4 12 (some ⟨4, 12, 8, by decide⟩) = some (0, copied) := ⟨_, rfl⟩
  have hlast : last copied (4 * (8 * 11 + 0) + 0) = none := by
    obtain ⟨-, rfl⟩ := Prod.mk.inj (Option.some.inj hcopied)
    decide +kernel
  refine ⟨copied, hcopied, hlast, fun h ↦ ?_⟩
  have hvisible := h.visible 0 11 0 (by decide) (by decide) (by decide)
  change last copied (4 * (8 * 11 + 0) + 0) = _ at hvisible
  rw [hlast] at hvisible
  cases hvisible

end VirtualCamera.Service.Surface
