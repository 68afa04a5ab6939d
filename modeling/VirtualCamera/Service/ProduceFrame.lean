import VirtualCamera.Service.Yuv420

namespace VirtualCamera.Service.ProduceFrame

open Library.Memory Library.Raster Library.Stores Yuv420

def NO_ERROR : ℤ := 0
def BAD_VALUE : ℤ := -22

abbrev Failure := {err : ℤ // err ≠ NO_ERROR}

def HAL_PIXEL_FORMAT_RGBA_8888 : ℤ := 0x1
def HAL_PIXEL_FORMAT_YCrCb_420_SP : ℤ := 0x11
def HAL_PIXEL_FORMAT_BLOB : ℤ := 0x21
def HAL_PIXEL_FORMAT_YCbCr_420_888 : ℤ := 0x23
def HAL_PIXEL_FORMAT_YV12 : ℤ := 0x32315659

/-- Sizes are `uint32_t`; the stride is in pixels. -/
structure GraphicBuffer where
  width : ℕ
  height : ℕ
  stride : ℕ
  width_le : width ≤ stride
  stride_lt : stride < 2 ^ 32
  height_lt : height < 2 ^ 32

/-- The answers of the window and of the buffer that it gives out: `none` is NO_ERROR. -/
structure ANativeWindow where
  buffer : GraphicBuffer
  dequeueBuffer : Option Failure
  wait : Option Failure
  query : Option Failure
  bufFmt : ℤ
  lock : Option Failure
  img : ℤ
  ycbcr : Image buffer.width buffer.height
  unlock : Option Failure
  queueBuffer : Option Failure

inductive Event
  | dequeued
  | cancelled
  | queued
  deriving DecidableEq, Repr

inductive Outcome
  | returned (err : ℤ) (events : List Event) (stores : List (ℤ × UInt8))
  | aborted

/-- The arithmetic is that of `uint32_t`, so that no size is larger than `SIZE_MAX`. -/
def totalSizeBytes (b : GraphicBuffer) (pixelFmt bufFmt : ℤ) : ℕ :=
  if bufFmt ≠ pixelFmt ∧ bufFmt = HAL_PIXEL_FORMAT_RGBA_8888 ∧ pixelFmt = HAL_PIXEL_FORMAT_BLOB then
    ((4 * (b.width + b.stride * (b.height - 1)) : ℤ) % 2 ^ 32).toNat
  else if pixelFmt = HAL_PIXEL_FORMAT_BLOB then b.width
  else 4 * b.height * b.width % 2 ^ 32

/-- The mask is a power of two. -/
def ALIGN (x mask : ℕ) : ℕ := (x + mask - 1) / mask * mask

def nv21Planes (b : GraphicBuffer) (img : ℤ) : Planes where
  yPlane := img
  crPlane := img + (b.height * b.width : ℕ)
  cbPlane := img + (b.height * b.width : ℕ) + 1
  chromaStep := 2
  yStride := b.width
  chromaStride := b.width

def yv12Planes (b : GraphicBuffer) (img : ℤ) : Planes :=
  let cStride := ALIGN (b.stride / 2) 16
  let crPlane := img + (b.height * b.stride % 2 ^ 32 : ℕ)
  { yPlane := img
    crPlane := crPlane
    cbPlane := crPlane + (cStride * b.height % 2 ^ 32 / 2 : ℕ)
    chromaStep := 1
    yStride := b.stride
    chromaStride := cStride }

inductive Filled
  | failed (err : ℤ)
  | aborted
  | stored (stores : List (ℤ × UInt8))

/-- The switch over the formats. A stride of YV12 that is not aligned is fatal. -/
def fill (window : ANativeWindow) (pixelBuffer : ℕ → UInt8) (pixelFmt : ℤ) (bufferLength : ℕ) :
    Filled :=
  let b := window.buffer
  let small := bufferLength < totalSizeBytes b pixelFmt window.bufFmt
  let convert (t : Planes) := Filled.stored (rgbToYuv420 pixelBuffer b.width b.height t)
  if pixelFmt = HAL_PIXEL_FORMAT_YCrCb_420_SP then
    if small then Filled.failed BAD_VALUE
    else
      match window.lock with
      | some err => Filled.failed err
      | none => convert (nv21Planes b window.img)
  else if pixelFmt = HAL_PIXEL_FORMAT_YV12 then
    if small then Filled.failed BAD_VALUE
    else if b.width % 2 = 1 ∨ b.height % 2 = 1 then Filled.failed BAD_VALUE
    else
      match window.lock with
      | some err => Filled.failed err
      | none =>
        if b.stride % 16 ≠ 0 then Filled.aborted else convert (yv12Planes b window.img)
  else if pixelFmt = HAL_PIXEL_FORMAT_YCbCr_420_888 then
    if small then Filled.failed BAD_VALUE
    else
      match window.lock with
      | some err => Filled.failed err
      | none => convert window.ycbcr.toPlanes
  else Filled.failed BAD_VALUE

/-- What follows when a buffer was dequeued. Nothing gives it back but the queue. -/
def afterDequeue (window : ANativeWindow) (pixelBuffer : ℕ → UInt8) (pixelFmt : ℤ)
    (bufferLength : ℕ) : Outcome :=
  match window.query with
  | some err => Outcome.returned err [Event.dequeued] []
  | none =>
    match fill window pixelBuffer pixelFmt bufferLength with
    | Filled.failed err => Outcome.returned err [Event.dequeued] []
    | Filled.aborted => Outcome.aborted
    | Filled.stored stores =>
      match window.unlock with
      | some err => Outcome.returned err [Event.dequeued] stores
      | none =>
        match window.queueBuffer with
        | some err => Outcome.returned err [Event.dequeued] stores
        | none => Outcome.returned NO_ERROR [Event.dequeued, Event.queued] stores

/-- The window and the pixels may be missing. The framework cancels a buffer itself when the
wait for its fence fails. -/
def produceFrame (anw : Option ANativeWindow) (pixelBuffer : Option (ℕ → UInt8))
    (bufWidth bufHeight pixelFmt bufSize : ℤ) : Outcome :=
  match anw, pixelBuffer with
  | none, _ => Outcome.returned BAD_VALUE [] []
  | some _, none => Outcome.returned BAD_VALUE [] []
  | some window, some pixelBuffer =>
    if bufWidth < 0 ∨ bufHeight < 0 ∨ bufSize < 0 then Outcome.returned BAD_VALUE [] []
    else
      match window.dequeueBuffer with
      | some err => Outcome.returned err [] []
      | none =>
        match window.wait with
        | some err => Outcome.returned err [Event.dequeued, Event.cancelled] []
        | none => afterDequeue window pixelBuffer pixelFmt bufSize.toNat

/-! ### What becomes of the buffer -/

section

variable (window : ANativeWindow) (pixelFmt : ℤ) (bufferLength : ℕ)

def Supported (b : GraphicBuffer) (pixelFmt : ℤ) : Prop :=
  pixelFmt = HAL_PIXEL_FORMAT_YCrCb_420_SP ∨
    pixelFmt = HAL_PIXEL_FORMAT_YV12 ∧ b.width % 2 = 0 ∧ b.height % 2 = 0 ∨
    pixelFmt = HAL_PIXEL_FORMAT_YCbCr_420_888

structure Locks : Prop where
  query : window.query = none
  supported : Supported window.buffer pixelFmt
  large : totalSizeBytes window.buffer pixelFmt window.bufFmt ≤ bufferLength
  lock : window.lock = none

def Misaligned (b : GraphicBuffer) (pixelFmt : ℤ) : Prop :=
  pixelFmt = HAL_PIXEL_FORMAT_YV12 ∧ b.stride % 16 ≠ 0

structure Completes : Prop where
  locks : Locks window pixelFmt bufferLength
  aligned : ¬ Misaligned window.buffer pixelFmt
  unlock : window.unlock = none
  queueBuffer : window.queueBuffer = none

def drawnPlanes : Planes :=
  if pixelFmt = HAL_PIXEL_FORMAT_YCrCb_420_SP then nv21Planes window.buffer window.img
  else if pixelFmt = HAL_PIXEL_FORMAT_YV12 then yv12Planes window.buffer window.img
  else window.ycbcr.toPlanes

end

section

variable {window : ANativeWindow} {pixelBuffer : ℕ → UInt8} {pixelFmt : ℤ} {bufferLength : ℕ}

def drawn (window : ANativeWindow) (pixelBuffer : ℕ → UInt8) (pixelFmt : ℤ) : List (ℤ × UInt8) :=
  rgbToYuv420 pixelBuffer window.buffer.width window.buffer.height (drawnPlanes window pixelFmt)

theorem fill_of_locks (h : Locks window pixelFmt bufferLength) :
    (Misaligned window.buffer pixelFmt →
      fill window pixelBuffer pixelFmt bufferLength = Filled.aborted) ∧
    (¬ Misaligned window.buffer pixelFmt →
      fill window pixelBuffer pixelFmt bufferLength =
        Filled.stored (drawn window pixelBuffer pixelFmt)) := by
  have hnv21 : HAL_PIXEL_FORMAT_YCrCb_420_SP ≠ HAL_PIXEL_FORMAT_YV12 := by decide
  have hflex : HAL_PIXEL_FORMAT_YCbCr_420_888 ≠ HAL_PIXEL_FORMAT_YV12 := by decide
  have hflex' : HAL_PIXEL_FORMAT_YCbCr_420_888 ≠ HAL_PIXEL_FORMAT_YCrCb_420_SP := by decide
  obtain ⟨-, hsupported, hlarge, hlock⟩ := h
  have hlarge := Nat.not_lt.mpr hlarge
  unfold fill drawn drawnPlanes Misaligned
  obtain rfl | ⟨rfl, hw, hh⟩ | rfl := hsupported
  · simp [hlarge, hlock, hnv21]
  · simp [hlarge, hlock, hnv21.symm, hw, hh]
  · simp [hlarge, hlock, hflex, hflex']

theorem fill_of_not_locks (hquery : window.query = none)
    (h : ¬ Locks window pixelFmt bufferLength) :
    ∃ err, fill window pixelBuffer pixelFmt bufferLength = Filled.failed err := by
  have hfails (hsupported : Supported window.buffer pixelFmt)
      (hsmall : ¬ bufferLength < totalSizeBytes window.buffer pixelFmt window.bufFmt) :
      ∃ err, window.lock = some err := by
    apply Option.ne_none_iff_exists'.mp
    exact fun hlock ↦ h ⟨hquery, hsupported, Nat.not_lt.mp hsmall, hlock⟩
  unfold fill
  dsimp only
  by_cases hsmall : bufferLength < totalSizeBytes window.buffer pixelFmt window.bufFmt
  · simp only [if_pos hsmall, ite_self]
    exact ⟨BAD_VALUE, rfl⟩
  · simp only [if_neg hsmall]
    split
    · rename_i hnv21
      obtain ⟨err, herr⟩ := hfails (.inl hnv21) hsmall
      rw [herr]
      exact ⟨err, rfl⟩
    · split
      · rename_i hyv12
        split
        · exact ⟨BAD_VALUE, rfl⟩
        · have heven : window.buffer.width % 2 = 0 ∧ window.buffer.height % 2 = 0 := by omega
          obtain ⟨err, herr⟩ := hfails (.inr (.inl ⟨hyv12, heven⟩)) hsmall
          rw [herr]
          exact ⟨err, rfl⟩
      · split
        · rename_i hflex
          obtain ⟨err, herr⟩ := hfails (.inr (.inr hflex)) hsmall
          rw [herr]
          exact ⟨err, rfl⟩
        · exact ⟨BAD_VALUE, rfl⟩

theorem afterDequeue_cases (window : ANativeWindow) (pixelFmt : ℤ) (bufferLength : ℕ) :
    (Completes window pixelFmt bufferLength ∧ ∀ pixelBuffer,
      afterDequeue window pixelBuffer pixelFmt bufferLength =
        Outcome.returned NO_ERROR [Event.dequeued, Event.queued]
          (drawn window pixelBuffer pixelFmt)) ∨
    (Locks window pixelFmt bufferLength ∧ Misaligned window.buffer pixelFmt ∧ ∀ pixelBuffer,
      afterDequeue window pixelBuffer pixelFmt bufferLength = Outcome.aborted) ∨
    ¬ Completes window pixelFmt bufferLength ∧
      ¬ (Locks window pixelFmt bufferLength ∧ Misaligned window.buffer pixelFmt) ∧
      ∀ pixelBuffer, ∃ err stores, afterDequeue window pixelBuffer pixelFmt bufferLength =
        Outcome.returned err [Event.dequeued] stores := by
  unfold afterDequeue
  cases hquery : window.query with
  | some err =>
    have hnot : ¬ Locks window pixelFmt bufferLength := by
      intro h
      rw [h.query] at hquery
      cases hquery
    exact .inr (.inr ⟨fun h ↦ hnot h.locks, fun h ↦ hnot h.1, fun _ ↦ ⟨err, [], rfl⟩⟩)
  | none =>
    by_cases hlocks : Locks window pixelFmt bufferLength
    · by_cases hmis : Misaligned window.buffer pixelFmt
      · refine .inr (.inl ⟨hlocks, hmis, fun pixelBuffer ↦ ?_⟩)
        simp only [(fill_of_locks hlocks).1 hmis]
      · have hfill (pixelBuffer : ℕ → UInt8) : fill window pixelBuffer pixelFmt bufferLength =
            Filled.stored (drawn window pixelBuffer pixelFmt) := (fill_of_locks hlocks).2 hmis
        cases hunlock : window.unlock with
        | some err =>
          refine .inr (.inr ⟨fun h ↦ ?_, fun h ↦ hmis h.2, fun pixelBuffer ↦ ?_⟩)
          · rw [h.unlock] at hunlock
            cases hunlock
          · exact ⟨err, drawn window pixelBuffer pixelFmt, by simp only [hfill]⟩
        | none =>
          cases hqueue : window.queueBuffer with
          | some err =>
            refine .inr (.inr ⟨fun h ↦ ?_, fun h ↦ hmis h.2, fun pixelBuffer ↦ ?_⟩)
            · rw [h.queueBuffer] at hqueue
              cases hqueue
            · exact ⟨err, drawn window pixelBuffer pixelFmt, by simp only [hfill]⟩
          | none =>
            exact .inl ⟨⟨hlocks, hmis, hunlock, hqueue⟩, fun pixelBuffer ↦ by simp only [hfill]⟩
    · refine .inr (.inr ⟨fun h ↦ hlocks h.locks, fun h ↦ hlocks h.1, fun pixelBuffer ↦ ?_⟩)
      obtain ⟨err, herr⟩ : ∃ err, fill window pixelBuffer pixelFmt bufferLength =
        Filled.failed err := fill_of_not_locks hquery hlocks
      exact ⟨err, [], by simp only [herr]⟩

end

/-! ### The pixels of a buffer -/

/-- The planes of a buffer of each format, whose rows are a stride apart. -/
def nv21Layout (b : GraphicBuffer) (img : ℤ) : Planes where
  yPlane := img
  crPlane := img + (b.height * b.stride : ℕ)
  cbPlane := img + (b.height * b.stride : ℕ) + 1
  chromaStep := 2
  yStride := b.stride
  chromaStride := b.stride

def yv12Layout (b : GraphicBuffer) (img : ℤ) : Planes where
  yPlane := img
  crPlane := img + (b.height * b.stride : ℕ)
  cbPlane := img + (b.height * b.stride : ℕ) + (ALIGN (b.stride / 2) 16 * b.height / 2 : ℕ)
  chromaStep := 1
  yStride := b.stride
  chromaStride := ALIGN (b.stride / 2) 16

def layout (window : ANativeWindow) (pixelFmt : ℤ) : Planes :=
  if pixelFmt = HAL_PIXEL_FORMAT_YCrCb_420_SP then nv21Layout window.buffer window.img
  else if pixelFmt = HAL_PIXEL_FORMAT_YV12 then yv12Layout window.buffer window.img
  else window.ycbcr.toPlanes

/-- Each sample of the buffer is that of the same pixel of the frame, in the rows of the frame. -/
structure Shown (window : ANativeWindow) (pixelBuffer : ℕ → UInt8) (bufWidth bufHeight : ℕ)
    (pixelFmt : ℤ) (stores : List (ℤ × UInt8)) : Prop where
  inside : ∀ x y, x < window.buffer.width → y < window.buffer.height → x < bufWidth ∧ y < bufHeight
  shows : (layout window pixelFmt).Shows pixelBuffer window.buffer.width window.buffer.height
    (Plane.source · bufWidth) stores

/-- Offsets that `uint32_t` can hold, and rows that do not run into each other. -/
def Laid (b : GraphicBuffer) (pixelFmt : ℤ) : Prop :=
  if pixelFmt = HAL_PIXEL_FORMAT_YCrCb_420_SP then
    b.width = b.stride ∧ (b.width % 2 = 0 ∨ b.height ≤ 2)
  else if pixelFmt = HAL_PIXEL_FORMAT_YV12 then
    b.height * b.stride < 2 ^ 32 ∧ ALIGN (b.stride / 2) 16 * b.height < 2 ^ 32
  else True

/-- There is nothing to see, or the buffer is not larger than the frame, has rows of its length and
is laid out as it is written. -/
def Fits (b : GraphicBuffer) (bufWidth bufHeight : ℕ) (pixelFmt : ℤ) : Prop :=
  b.width = 0 ∨ b.height = 0 ∨
    (b.width ≤ bufWidth ∧ b.height ≤ bufHeight ∧ (b.width = bufWidth ∨ b.height ≤ 1) ∧
      Laid b pixelFmt)

section

variable {b : GraphicBuffer}

theorem le_ALIGN (x : ℕ) : x ≤ ALIGN x 16 := by
  unfold ALIGN
  omega

theorem luma_lt {width height stride : ℕ} (hwidth : width ≤ stride) {base k : ℤ}
    (h : (⟨base, width, height, stride, 1⟩ : Grid).Covers k) : k < base + (height * stride : ℕ) := by
  have hbounds := (h.bounds (Int.one_nonneg) (by dsimp only; omega)).2
  rw [Nat.mul_comm]
  push_cast
  exact hbounds

/-- A packed buffer of even width, or of few rows, holds an image. -/
theorem nv21_image (img : ℤ) (hwidth : b.width = b.stride) (h : b.width % 2 = 0 ∨ b.height ≤ 2) :
    ∃ t : Image b.width b.height, t.toPlanes = nv21Layout b img := by
  have heven (y : ℕ) (hy : y < (b.height + 1) / 2) : ((b.stride : ℤ) * y) % 2 = 0 := by
    obtain h | h := h
    · rw [← hwidth, Int.mul_emod]
      have : (b.width : ℤ) % 2 = 0 := by omega
      rw [this, Int.zero_mul, Int.zero_emod]
    · have : y = 0 := by omega
      rw [this, Nat.cast_zero, Int.mul_zero, Int.zero_emod]
  have hbase {base k : ℤ}
      (hk : (⟨base, (b.width + 1) / 2, (b.height + 1) / 2, b.stride, 2⟩ : Grid).Covers k) :
      base ≤ k ∧ (k - base) % 2 = 0 := by
    refine ⟨(hk.bounds zero_le_two (by dsimp only; omega)).1, ?_⟩
    obtain ⟨x, y, -, hy, rfl⟩ := hk
    have := heven y hy
    simp only [Grid.cell]
    omega
  refine ⟨⟨nv21Layout b img, hwidth.le, Nat.two_pos, ?_, apart_of_disjoint ?_ ?_ ?_⟩, rfl⟩
  · change 2 * ((b.width + 1) / 2) < b.stride + 2
    omega
  · intro k hy hcr
    have hlt : k < img + (b.height * b.stride : ℕ) := luma_lt b.width_le hy
    have hge : img + (b.height * b.stride : ℕ) ≤ k := (hbase hcr).1
    omega
  · intro k hy hcb
    have hlt : k < img + (b.height * b.stride : ℕ) := luma_lt b.width_le hy
    have hge : img + (b.height * b.stride : ℕ) + 1 ≤ k := (hbase hcb).1
    omega
  · intro k hcr hcb
    have hcr : (k - (img + (b.height * b.stride : ℕ))) % 2 = 0 := (hbase hcr).2
    have hcb : (k - (img + (b.height * b.stride : ℕ) + 1)) % 2 = 0 := (hbase hcb).2
    omega

theorem yv12_image (img : ℤ) (hw : b.width % 2 = 0) (hh : b.height % 2 = 0) :
    ∃ t : Image b.width b.height, t.toPlanes = yv12Layout b img := by
  have hle := b.width_le
  have halign := le_ALIGN (b.stride / 2)
  have hrow : (1 : ℤ) * (((b.width + 1) / 2 : ℕ) - 1) < ALIGN (b.stride / 2) 16 := by omega
  have hbase {base k : ℤ} (hk : (⟨base, (b.width + 1) / 2, (b.height + 1) / 2,
      ALIGN (b.stride / 2) 16, 1⟩ : Grid).Covers k) :
      base ≤ k ∧ k < base + (ALIGN (b.stride / 2) 16 * b.height / 2 : ℕ) := by
    have hhalf : ALIGN (b.stride / 2) 16 * b.height / 2 =
        ALIGN (b.stride / 2) 16 * ((b.height + 1) / 2) := by
      have hheight : (b.height + 1) / 2 = b.height / 2 := by omega
      rw [Nat.mul_div_assoc _ (Nat.dvd_of_mod_eq_zero hh), hheight]
    rw [hhalf, Nat.cast_mul]
    exact hk.bounds Int.one_nonneg hrow
  refine ⟨⟨yv12Layout b img, hle, Nat.one_pos, ?_, apart_of_disjoint ?_ ?_ ?_⟩, rfl⟩
  · change 1 * ((b.width + 1) / 2) < ALIGN (b.stride / 2) 16 + 1
    omega
  · intro k hy hcr
    have hlt : k < img + (b.height * b.stride : ℕ) := luma_lt b.width_le hy
    have hge : img + (b.height * b.stride : ℕ) ≤ k := (hbase hcr).1
    omega
  · intro k hy hcb
    have hlt : k < img + (b.height * b.stride : ℕ) := luma_lt b.width_le hy
    have hge : img + (b.height * b.stride : ℕ) +
        (ALIGN (b.stride / 2) 16 * b.height / 2 : ℕ) ≤ k := (hbase hcb).1
    omega
  · intro k hcr hcb
    have hlt : k < img + (b.height * b.stride : ℕ) +
        (ALIGN (b.stride / 2) 16 * b.height / 2 : ℕ) := (hbase hcr).2
    have hge : img + (b.height * b.stride : ℕ) +
        (ALIGN (b.stride / 2) 16 * b.height / 2 : ℕ) ≤ k := (hbase hcb).1
    omega

end

section

variable {window : ANativeWindow} {pixelFmt : ℤ} {bufWidth bufHeight : ℕ}

theorem drawnPlanes_eq (h : Laid window.buffer pixelFmt) :
    drawnPlanes window pixelFmt = layout window pixelFmt := by
  unfold Laid at h
  unfold drawnPlanes layout
  split
  · rename_i hnv21
    rw [if_pos hnv21] at h
    unfold nv21Planes nv21Layout
    rw [h.1]
  · rename_i hnv21
    rw [if_neg hnv21] at h
    split
    · rename_i hyv12
      rw [if_pos hyv12] at h
      unfold yv12Planes yv12Layout
      dsimp only
      rw [Nat.mod_eq_of_lt h.1, Nat.mod_eq_of_lt h.2]
    · rfl

/-- What a supported buffer is laid out as holds an image. -/
theorem layout_image (hsupported : Supported window.buffer pixelFmt)
    (h : Laid window.buffer pixelFmt) :
    ∃ t : Image window.buffer.width window.buffer.height, t.toPlanes = layout window pixelFmt := by
  unfold Laid at h
  unfold layout
  split
  · rename_i hnv21
    rw [if_pos hnv21] at h
    exact nv21_image window.img h.1 h.2
  · split
    · rename_i hnv21 hyv12
      obtain hnot | ⟨-, hw, hh⟩ | rfl := hsupported
      · exact absurd hnot hnv21
      · exact yv12_image window.img hw hh
      · exact absurd hyv12 (by decide)
    · exact ⟨window.ycbcr, rfl⟩

theorem shown_of_fits (pixelBuffer : ℕ → UInt8) (hsupported : Supported window.buffer pixelFmt)
    (h : Fits window.buffer bufWidth bufHeight pixelFmt) :
    Shown window pixelBuffer bufWidth bufHeight pixelFmt (drawn window pixelBuffer pixelFmt) := by
  have hnone (hzero : window.buffer.width = 0 ∨ window.buffer.height = 0) (p : Plane) (x y : ℕ)
      (hx : x < ((layout window pixelFmt).grid window.buffer.width window.buffer.height p).width)
      (hy : y < ((layout window pixelFmt).grid window.buffer.width window.buffer.height p).height) :
      False := by
    cases p <;> simp only [Planes.grid] at hx hy <;> omega
  obtain hw | hh | ⟨hw, hh, hrows, hlaid⟩ := h
  · exact ⟨fun x y hx _ ↦ absurd hx (by omega), fun p x y hx hy ↦ (hnone (.inl hw) p x y hx hy).elim⟩
  · exact ⟨fun x y _ hy ↦ absurd hy (by omega), fun p x y hx hy ↦ (hnone (.inr hh) p x y hx hy).elim⟩
  · refine ⟨fun x y hx hy ↦ ⟨by omega, by omega⟩, fun p x y hx hy ↦ ?_⟩
    have hsource : p.source window.buffer.width x y = p.source bufWidth x y := by
      obtain hrows | hrows := hrows
      · rw [hrows]
      · have hzero : y = 0 := by
          cases p <;> simp only [Planes.grid] at hy <;> omega
        simp only [Plane.source, hzero, Nat.mul_zero]
    obtain ⟨t, ht⟩ := layout_image hsupported hlaid
    dsimp only
    rw [← hsource]
    unfold drawn
    rw [drawnPlanes_eq hlaid, ← ht]
    exact shows_of_distinct t.distinct p x y (ht ▸ hx) (ht ▸ hy)

theorem plane_pos (hw : 0 < window.buffer.width) (hh : 0 < window.buffer.height) (p : Plane) :
    0 < ((layout window pixelFmt).grid window.buffer.width window.buffer.height p).width ∧
      0 < ((layout window pixelFmt).grid window.buffer.width window.buffer.height p).height := by
  cases p <;> simp only [Planes.grid] <;> omega

/-- The first sample of each plane is stored at the first place. -/
theorem base_of_shown (hw : 0 < window.buffer.width) (hh : 0 < window.buffer.height)
    (h : ∀ pixelBuffer, (layout window pixelFmt).Shows pixelBuffer window.buffer.width
      window.buffer.height (Plane.source · bufWidth) (drawn window pixelBuffer pixelFmt)) (p : Plane) :
    ((drawnPlanes window pixelFmt).grid window.buffer.width window.buffer.height p).base =
      ((layout window pixelFmt).grid window.buffer.width window.buffer.height p).base := by
  obtain ⟨hwidth, hheight⟩ := plane_pos hw hh p
  obtain ⟨x, y, -, -, hcell, hsource⟩ := placed_of_shows h hwidth hheight
  have hzero : x = 0 ∧ y = 0 := by
    have hscale : 0 < p.scale := by cases p <;> decide
    simp only [Plane.source, Nat.mul_zero, Nat.add_zero, Nat.mul_eq_zero, Nat.add_eq_zero_iff] at hsource
    omega
  obtain ⟨rfl, rfl⟩ := hzero
  simp only [Grid.cell, Nat.cast_zero, mul_zero, add_zero] at hcell
  exact hcell

/-- A frame that is shown, whatever its pixels, tells how the buffer is laid out. -/
theorem laid_of_shown (hw : 0 < window.buffer.width) (hh : 0 < window.buffer.height)
    (h : ∀ pixelBuffer, (layout window pixelFmt).Shows pixelBuffer window.buffer.width
      window.buffer.height (Plane.source · bufWidth) (drawn window pixelBuffer pixelFmt)) :
    Laid window.buffer pixelFmt := by
  have hfirst := base_of_shown hw hh h
  unfold Laid
  split
  · rename_i hnv21
    have hbase := hfirst .cr
    simp only [drawnPlanes, layout, if_pos hnv21, nv21Planes, nv21Layout, Planes.grid] at hbase
    have hwidth : window.buffer.width = window.buffer.stride :=
      Nat.eq_of_mul_eq_mul_left hh (by omega)
    refine ⟨hwidth, ?_⟩
    by_contra hnot
    push Not at hnot
    -- The last Cb of the first row has the place of the first Cr of the second.
    have hcb : window.buffer.width / 2 < ((layout window pixelFmt).grid window.buffer.width
        window.buffer.height .cb).width := by
      change _ < (window.buffer.width + 1) / 2
      omega
    have hcr : 1 < ((layout window pixelFmt).grid window.buffer.width
        window.buffer.height .cr).height := by
      change _ < (window.buffer.height + 1) / 2
      omega
    have hcell : ((layout window pixelFmt).grid window.buffer.width window.buffer.height .cb).cell
          (window.buffer.width / 2) 0 =
        ((layout window pixelFmt).grid window.buffer.width window.buffer.height .cr).cell 0 1 := by
      simp only [layout, if_pos hnv21, nv21Layout, Planes.grid, Grid.cell]
      omega
    have hshared := plane_of_shows h hcb (plane_pos hw hh .cb).2 (plane_pos hw hh .cr).1 hcr hcell
    cases hshared
  · rename_i hnv21
    split
    · rename_i hyv12
      have hcr := hfirst .cr
      have hcb := hfirst .cb
      simp only [drawnPlanes, layout, if_neg hnv21, if_pos hyv12, yv12Planes, yv12Layout,
        Planes.grid] at hcr hcb
      exact ⟨by omega, by omega⟩
    · trivial

theorem fits_of_shown (hsupported : Supported window.buffer pixelFmt)
    (h : ∀ pixelBuffer, Shown window pixelBuffer bufWidth bufHeight pixelFmt
      (drawn window pixelBuffer pixelFmt)) :
    Fits window.buffer bufWidth bufHeight pixelFmt := by
  by_contra hnot
  unfold Fits at hnot
  push Not at hnot
  obtain ⟨hw, hh, hnot⟩ := hnot
  have hlaid := laid_of_shown (Nat.pos_of_ne_zero hw) (Nat.pos_of_ne_zero hh) fun pixelBuffer ↦
    (h pixelBuffer).shows
  obtain ⟨hright, hbottom⟩ := (h fun _ ↦ 0).inside (window.buffer.width - 1)
    (window.buffer.height - 1) (by omega) (by omega)
  apply hnot (by omega) (by omega) _ hlaid
  by_contra hrows
  push Not at hrows
  -- The second row of the buffer starts with the second row of the frame.
  obtain ⟨x', y', hx', -, hcell, hsource⟩ := placed_of_shows (fun pixelBuffer ↦ (h pixelBuffer).shows)
    (p := .y) (x := 0) (y := 1) (Nat.pos_of_ne_zero hw) hrows.2
  obtain ⟨t, ht⟩ := layout_image hsupported hlaid
  rw [drawnPlanes_eq hlaid, ← ht] at hcell
  have hstride := t.yStride_le
  have hrow : (1 : ℤ) * ((window.buffer.width : ℤ) - 1) < t.yStride := by omega
  obtain ⟨rfl, rfl⟩ := Grid.cell_inj (t.grid window.buffer.width window.buffer.height .y) one_pos
    hrow hx' (Nat.pos_of_ne_zero hw) hcell
  simp only [Plane.source, Plane.scale] at hsource
  omega

end

/-! ### Whole calls -/

/-- Each buffer that is dequeued is queued or cancelled, once. -/
def Balanced (events : List Event) : Prop :=
  events.count Event.cancelled + events.count Event.queued = events.count Event.dequeued

instance (events : List Event) : Decidable (Balanced events) := Nat.decEq _ _

/-- Whatever the pixels are, the buffer is given back, and when it is queued it shows them. -/
def Delivers (anw : Option ANativeWindow) (bufWidth bufHeight pixelFmt bufSize : ℤ) : Prop :=
  ∀ pixelBuffer err events stores,
    produceFrame anw pixelBuffer bufWidth bufHeight pixelFmt bufSize =
        Outcome.returned err events stores →
      Balanced events ∧ (Event.queued ∈ events → ∀ window ∈ anw, ∀ rgbBuf ∈ pixelBuffer,
        Shown window rgbBuf bufWidth.toNat bufHeight.toNat pixelFmt stores)

section

variable {window : ANativeWindow} {bufWidth bufHeight pixelFmt bufSize : ℤ}

theorem produceFrame_eq (hw : 0 ≤ bufWidth) (hh : 0 ≤ bufHeight) (hsize : 0 ≤ bufSize)
    (hdequeue : window.dequeueBuffer = none) (hwait : window.wait = none)
    (pixelBuffer : ℕ → UInt8) :
    produceFrame (some window) (some pixelBuffer) bufWidth bufHeight pixelFmt bufSize =
      afterDequeue window pixelBuffer pixelFmt bufSize.toNat := by
  unfold produceFrame
  simp only [hdequeue, hwait]
  exact if_neg (by omega)

theorem balanced_of_not_dequeued {pixelBuffer : Option (ℕ → UInt8)} {err : ℤ}
    {events : List Event} {stores : List (ℤ × UInt8)}
    (h : ¬ (0 ≤ bufWidth ∧ 0 ≤ bufHeight ∧ 0 ≤ bufSize ∧ window.dequeueBuffer = none ∧
      window.wait = none) ∨ pixelBuffer = none)
    (heq : produceFrame (some window) pixelBuffer bufWidth bufHeight pixelFmt bufSize =
      Outcome.returned err events stores) :
    Balanced events ∧ Event.queued ∉ events := by
  have hnone : Balanced [] ∧ Event.queued ∉ [] := by decide
  have hcancelled : Balanced [Event.dequeued, Event.cancelled] ∧
    Event.queued ∉ [Event.dequeued, Event.cancelled] := by decide
  unfold produceFrame at heq
  cases pixelBuffer with
  | none =>
    cases heq
    exact hnone
  | some pixelBuffer =>
    dsimp only at heq
    split at heq
    · cases heq
      exact hnone
    · rename_i hargs
      cases hdequeue : window.dequeueBuffer with
      | some e =>
        rw [hdequeue] at heq
        cases heq
        exact hnone
      | none =>
        cases hwait : window.wait with
        | some e =>
          rw [hdequeue, hwait] at heq
          cases heq
          exact hcancelled
        | none =>
          obtain h | h := h
          · exact absurd ⟨by omega, by omega, by omega, hdequeue, hwait⟩ h
          · cases h

end

/-- Only the queue takes a buffer back: nothing may fail after the buffer is handed out. And the
frame needs the geometry of the buffer. -/
theorem produceFrame_delivers_iff (anw : Option ANativeWindow)
    (bufWidth bufHeight pixelFmt bufSize : ℤ) :
    Delivers anw bufWidth bufHeight pixelFmt bufSize ↔
      ∀ window ∈ anw, 0 ≤ bufWidth → 0 ≤ bufHeight → 0 ≤ bufSize →
        window.dequeueBuffer = none → window.wait = none →
          Locks window pixelFmt bufSize.toNat ∧ Misaligned window.buffer pixelFmt ∨
            Completes window pixelFmt bufSize.toNat ∧
              Fits window.buffer bufWidth.toNat bufHeight.toNat pixelFmt := by
  constructor
  · intro h window hwindow hw hh hsize hdequeue hwait
    rw [Option.mem_def.mp hwindow] at h
    obtain ⟨hcompletes, heq⟩ | ⟨hlocks, hmis, -⟩ | ⟨-, -, heq⟩ :=
      afterDequeue_cases window pixelFmt bufSize.toNat
    · refine .inr ⟨hcompletes, fits_of_shown hcompletes.locks.supported fun pixelBuffer ↦ ?_⟩
      have hresult := (produceFrame_eq hw hh hsize hdequeue hwait pixelBuffer).trans (heq pixelBuffer)
      exact (h _ _ _ _ hresult).2 (by decide) window rfl pixelBuffer rfl
    · exact .inl ⟨hlocks, hmis⟩
    · obtain ⟨err, stores, hstays⟩ := heq fun _ ↦ 0
      have hresult := (produceFrame_eq hw hh hsize hdequeue hwait fun _ ↦ 0).trans hstays
      exact absurd (h _ _ _ _ hresult).1 (by decide)
  · intro h pixelBuffer err events stores hresult
    cases anw with
    | none =>
      cases hresult
      exact ⟨rfl, fun hmem ↦ absurd hmem List.not_mem_nil⟩
    | some window =>
      by_cases hgiven : 0 ≤ bufWidth ∧ 0 ≤ bufHeight ∧ 0 ≤ bufSize ∧
          window.dequeueBuffer = none ∧ window.wait = none
      · cases pixelBuffer with
        | none =>
          obtain ⟨hbalanced, hqueued⟩ := balanced_of_not_dequeued (.inr rfl) hresult
          exact ⟨hbalanced, fun hmem ↦ absurd hmem hqueued⟩
        | some pixelBuffer =>
          obtain ⟨hw, hh, hsize, hdequeue, hwait⟩ := hgiven
          rw [produceFrame_eq hw hh hsize hdequeue hwait] at hresult
          obtain ⟨hcompletes, heq⟩ | ⟨-, -, heq⟩ | ⟨hnot, hnot', -⟩ :=
            afterDequeue_cases window pixelFmt bufSize.toNat
          · rw [heq] at hresult
            cases hresult
            refine ⟨rfl, fun _ window' hwindow' rgbBuf hrgbBuf ↦ ?_⟩
            obtain rfl := Option.some.inj hwindow'
            obtain rfl := Option.some.inj hrgbBuf
            obtain ⟨-, hmis⟩ | ⟨-, hfits⟩ := h window rfl hw hh hsize hdequeue hwait
            · exact absurd hmis hcompletes.aligned
            · exact shown_of_fits pixelBuffer hcompletes.locks.supported hfits
          · rw [heq] at hresult
            cases hresult
          · obtain hmis | ⟨hcompletes, -⟩ := h window rfl hw hh hsize hdequeue hwait
            · exact absurd hmis hnot'
            · exact absurd hcompletes hnot
      · obtain ⟨hbalanced, hqueued⟩ := balanced_of_not_dequeued (.inl hgiven) hresult
        exact ⟨hbalanced, fun hmem ↦ absurd hmem hqueued⟩

/-- The flexible format, and a buffer that cannot be locked. -/
theorem lock_failure_leaks : ∃ window pixelBuffer,
    produceFrame (some window) (some pixelBuffer) 4 2 HAL_PIXEL_FORMAT_YCbCr_420_888 32 =
        Outcome.returned BAD_VALUE [Event.dequeued] [] ∧
      ¬ Delivers (some window) 4 2 HAL_PIXEL_FORMAT_YCbCr_420_888 32 := by
  let buffer : GraphicBuffer := ⟨4, 2, 4, le_rfl, by decide, by decide⟩
  obtain ⟨t, -⟩ := nv21_image (b := buffer) 0 rfl (.inr le_rfl)
  have hresult : produceFrame (some ⟨buffer, none, none, none,
      HAL_PIXEL_FORMAT_YCbCr_420_888, some ⟨BAD_VALUE, by decide⟩, 0, t, none, none⟩)
      (some fun _ ↦ 0) 4 2 HAL_PIXEL_FORMAT_YCbCr_420_888 32 =
        Outcome.returned BAD_VALUE [Event.dequeued] [] := rfl
  exact ⟨_, _, hresult, fun h ↦ absurd (h _ _ _ _ hresult).1 (by decide)⟩

end VirtualCamera.Service.ProduceFrame
