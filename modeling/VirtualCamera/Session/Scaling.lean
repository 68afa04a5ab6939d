import VirtualCamera.Library.Fallible
import VirtualCamera.Library.Memory
import VirtualCamera.Session.Streams

namespace VirtualCamera.Session.Scaling

open Library.Assoc Library.Fallible Library.Memory Capture Streams

/-! ### Cropping a frame -/

structure Rect where
  left : ℤ
  top : ℤ
  width : ℤ
  height : ℤ
  deriving DecidableEq, Repr

/-- Offsets into the data of the frame. -/
structure YCbCrLayout where
  y : ℕ
  yStride : ℕ
  cb : ℕ
  cr : ℕ
  cStride : ℕ
  chromaStep : ℕ
  deriving DecidableEq, Repr

/-- The division has no result where the output size has no extent. -/
inductive CropRectError
  | tooLarge
  | divisionByZero
  deriving DecidableEq, Repr

def even (n : ℕ) : ℕ := n / 2 * 2

section CropRect

variable {F : Type*} (ar : AspectArith F) (ct : CroppingType)

/-- The products of two `uint32_t` are taken in 64 bits. -/
def getCropRect (inSize outSize : Size) : Except CropRectError Rect :=
  let arIn := ar.ratio inSize.width inSize.height
  let arOut := ar.ratio outSize.width outSize.height
  if ar.isAspectRatioClose arIn arOut then
    .ok ⟨0, 0, toInt32 inSize.width, toInt32 inSize.height⟩
  else
    match ct with
    | .vertical =>
      if outSize.width = 0 then .error .divisionByZero
      else
        let scaledOutH := outSize.height * inSize.width / outSize.width
        if inSize.height < scaledOutH then .error .tooLarge
        else
          let scaledOutH := even scaledOutH
          .ok ⟨0, toInt32 (even ((inSize.height - scaledOutH) / 2)), toInt32 inSize.width,
            toInt32 scaledOutH⟩
    | .horizontal =>
      if outSize.height = 0 then .error .divisionByZero
      else
        let scaledOutW := outSize.width * inSize.height / outSize.height
        if inSize.width < scaledOutW then .error .tooLarge
        else
          let scaledOutW := even scaledOutW
          .ok ⟨toInt32 (even ((inSize.width - scaledOutW) / 2)), 0, toInt32 scaledOutW,
            toInt32 inSize.height⟩

end CropRect


/-- A rectangle out of the frame, or one that is not aligned, is refused. The members are
`int`, and so are their sums. -/
def getCroppedLayout (f : AllocatedFrame) (rect : Rect) : Option YCbCrLayout :=
  if toInt32 f.width < int32 (rect.left + rect.width) ∨
      toInt32 f.height < int32 (rect.top + rect.height) ∨
      rect.left % 2 ≠ 0 ∨ rect.top % 2 ≠ 0 ∨ rect.width % 2 ≠ 0 ∨ rect.height % 2 ≠ 0 then none
  else
    let area := f.width * f.height % 2 ^ 32
    let row := f.width * rect.top.toNat % 2 ^ 32
    let cbStart := area + row / 4 + rect.left.toNat / 2
    some ⟨row + rect.left.toNat, f.width, cbStart, cbStart + area / 4, f.width / 2, 1⟩

def getLayout (f : AllocatedFrame) : Option YCbCrLayout :=
  getCroppedLayout f ⟨0, 0, toInt32 f.width, toInt32 f.height⟩

/-! ### Cropping and scaling -/

inductive CropAndScaleError
  | inputLayout
  | cropRect (e : CropRectError)
  | croppedLayout
  | noIntermediateBuffer
  | outputLayout
  | scale
  deriving DecidableEq, Repr

/-- The cropped size is the wanted one, up to what the crop leaves open. -/
def noScaleNeeded (ct : CroppingType) (inSz outSz : Size) : Bool :=
  match ct with
  | .vertical => inSz.width = outSz.width
  | .horizontal => inSz.height = outSz.height

section

variable {F : Type*} (ar : AspectArith F) (ct : CroppingType)

/-- The scaled buffer of the round or else the intermediate buffer is scaled into.
`i420Scale` is whether that works. -/
def scaleInto (b : OutputBuffers) (outSz : Size) (i420Scale : Bool) :
    Except CropAndScaleError (YCbCrLayout × AllocatedFrame) := do
  let scaledYu12Buf ← orError .noIntermediateBuffer
    ((b.scaledYu12Frames.lookup outSz).or (b.intermediateBuffers.lookup outSz))
  let outLayout ← orError .outputLayout (getLayout scaledYu12Buf)
  if i420Scale then return (outLayout, scaledYu12Buf) else throw .scale

/-- The layout of the crop, or no layout where it has to be scaled. -/
def cropOnly (inFrame : AllocatedFrame) (outSz : Size) :
    Except CropAndScaleError (Option YCbCrLayout) :=
  let inSz : Size := ⟨inFrame.width, inFrame.height⟩
  if inSz = outSz then do
    let layout ← orError .inputLayout (getLayout inFrame)
    return some layout
  else do
    let inputCrop ← (getCropRect ar ct inSz outSz).mapError .cropRect
    let croppedLayout ← orError .croppedLayout (getCroppedLayout inFrame inputCrop)
    return if noScaleNeeded ct inSz outSz then some croppedLayout else none

/-- A buffer that was scaled into is kept until the end of the round. -/
def cropAndScaleLocked (b : OutputBuffers) (inFrame : AllocatedFrame) (outSz : Size)
    (i420Scale : Bool) : Except CropAndScaleError YCbCrLayout × OutputBuffers :=
  match cropOnly ar ct inFrame outSz with
  | .error e => (.error e, b)
  | .ok (some layout) => (.ok layout, b)
  | .ok none =>
    match scaleInto b outSz i420Scale with
    | .error e => (.error e, b)
    | .ok (outLayout, scaledYu12Buf) => (.ok outLayout,
        { b with scaledYu12Frames := emplace outSz scaledYu12Buf b.scaledYu12Frames })

end

/-- `cropAndScaleLocked` changes the cache of scaled frames alone. -/
theorem cropAndScaleLocked_snd {F : Type*} (ar : AspectArith F) (ct : CroppingType)
    (b : OutputBuffers) (inFrame : AllocatedFrame) (outSz : Size) (i420Scale : Bool) :
    ∃ frames, (cropAndScaleLocked ar ct b inFrame outSz i420Scale).2 =
      { b with scaledYu12Frames := frames } := by
  unfold cropAndScaleLocked
  split
  · exact ⟨b.scaledYu12Frames, rfl⟩
  · exact ⟨b.scaledYu12Frames, rfl⟩
  · split
    · exact ⟨b.scaledYu12Frames, rfl⟩
    · exact ⟨_, rfl⟩

theorem scaleInto_error {b : OutputBuffers} {outSz : Size} {i420Scale : Bool}
    {e : CropAndScaleError} (h : scaleInto b outSz i420Scale = .error e) :
    e = .noIntermediateBuffer ∧ b.scaledYu12Frames.lookup outSz = none ∧
      b.intermediateBuffers.lookup outSz = none ∨ e = .outputLayout ∨ e = .scale := by
  rcases bind_eq_error.mp h with h | ⟨f, -, h⟩
  · obtain ⟨hnone, rfl⟩ := orError_eq_error.mp h
    exact .inl ⟨rfl, Option.or_eq_none_iff.mp hnone⟩
  · rcases bind_eq_error.mp h with h | ⟨layout, -, h⟩
    · exact .inr (.inl (orError_eq_error.mp h).2.symm)
    · split at h
      · cases h
      · cases h
        exact .inr (.inr rfl)

theorem cropOnly_error {F : Type*} {ar : AspectArith F} {ct : CroppingType}
    {f : AllocatedFrame} {outSz : Size} {e : CropAndScaleError}
    (h : cropOnly ar ct f outSz = .error e) :
    e = .inputLayout ∨
    (∃ e', e = .cropRect e' ∧ getCropRect ar ct ⟨f.width, f.height⟩ outSz = .error e') ∨
    e = .croppedLayout ∧ ∃ rect, getCropRect ar ct ⟨f.width, f.height⟩ outSz = .ok rect ∧
      getCroppedLayout f rect = none := by
  unfold cropOnly at h
  dsimp only at h
  split at h
  · rcases bind_eq_error.mp h with h | ⟨layout, -, h⟩
    · exact .inl (orError_eq_error.mp h).2.symm
    · cases h
  · rcases bind_eq_error.mp h with h | ⟨rect, hrect, h⟩
    · obtain ⟨e', hrect, rfl⟩ := mapError_eq_error.mp h
      exact .inr (.inl ⟨e', rfl, hrect⟩)
    · rcases bind_eq_error.mp h with h | ⟨layout, -, h⟩
      · obtain ⟨hlayout, rfl⟩ := orError_eq_error.mp h
        exact .inr (.inr ⟨rfl, rect, mapError_eq_ok.mp hrect, hlayout⟩)
      · cases h

theorem cropAndScaleLocked_error {F : Type*} {ar : AspectArith F} {ct : CroppingType}
    {b : OutputBuffers} {f : AllocatedFrame} {outSz : Size} {i420Scale : Bool}
    {e : CropAndScaleError} (h : (cropAndScaleLocked ar ct b f outSz i420Scale).1 = .error e) :
    cropOnly ar ct f outSz = .error e ∨ scaleInto b outSz i420Scale = .error e := by
  unfold cropAndScaleLocked at h
  split at h
  · rename_i he
    cases h
    exact .inl he
  · cases h
  · split at h
    · rename_i he
      cases h
      exact .inr he
    · cases h

end VirtualCamera.Session.Scaling
