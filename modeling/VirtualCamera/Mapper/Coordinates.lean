import Mathlib.Data.Rat.Floor
import VirtualCamera.Library.Rounding

namespace VirtualCamera.Mapper

structure Point (α : Type) where
  x : α
  y : α
  deriving DecidableEq, Repr

@[ext]
structure Rect (α : Type) where
  left : α
  top : α
  right : α
  bottom : α
  deriving DecidableEq, Repr

variable {α β : Type}

/-- The two corners are points of their own. -/
def Rect.mapCorners (f : Point α → Point β) (r : Rect α) : Rect β :=
  let p := f ⟨r.left, r.top⟩
  let q := f ⟨r.right, r.bottom⟩
  ⟨p.x, p.y, q.x, q.y⟩

def Rect.swapRectToMinFirst [LinearOrder α] (rect : Rect α) : Rect α :=
  let rect := if rect.left > rect.right then { rect with left := rect.right, right := rect.left }
    else rect
  if rect.top > rect.bottom then { rect with top := rect.bottom, bottom := rect.top } else rect

theorem Rect.swapRectToMinFirst_eq [LinearOrder α] (r : Rect α) :
    r.swapRectToMinFirst =
      ⟨min r.left r.right, min r.top r.bottom, max r.left r.right, max r.top r.bottom⟩ := by
  unfold Rect.swapRectToMinFirst
  rcases le_or_gt r.left r.right with hx | hx <;> rcases le_or_gt r.top r.bottom with hy | hy
  · simp [hx, hy, hx.not_gt, hy.not_gt]
  · simp [hx, hy, hx.not_gt, hy.le]
  · simp [hx, hy, hx.le, hy.not_gt]
  · simp [hx, hy, hx.le, hy.le]

structure MeteringRegion where
  rect : Rect ℤ
  weight : ℤ
  deriving DecidableEq, Repr

structure CropRegion where
  left : ℤ
  top : ℤ
  width : ℤ
  height : ℤ
  deriving DecidableEq, Repr

/-- `ANDROID_SCALER_ROTATE_AND_CROP`. -/
inductive RotateAndCrop
  | NONE
  | CROP_90
  | CROP_180
  | CROP_270
  | AUTO
  deriving DecidableEq, Repr

/-- The entries that the mappers read and write, as the rectangles and points that they are made
of. An entry that is not there is empty. -/
structure Metadata where
  rotateAndCrop : Option RotateAndCrop
  zoomRatio : Option ℚ
  cropRegion : List CropRegion
  afRegions : List MeteringRegion
  aeRegions : List MeteringRegion
  awbRegions : List MeteringRegion
  faceRectangles : List (Rect ℤ)
  faceLandmarks : List (Point ℤ)
  deriving DecidableEq, Repr

/-- A region of weight zero is left as it is. -/
def MeteringRegion.correct (f : Rect ℤ → Rect ℤ) (region : MeteringRegion) : MeteringRegion :=
  if region.weight = 0 then region else { region with rect := f region.rect }

/-- `kMeteringRegionsToCorrect`. -/
def Metadata.mapMeteringRegions (f : Rect ℤ → Rect ℤ) (m : Metadata) : Metadata :=
  { m with
    afRegions := m.afRegions.map (MeteringRegion.correct f)
    aeRegions := m.aeRegions.map (MeteringRegion.correct f)
    awbRegions := m.awbRegions.map (MeteringRegion.correct f) }

end VirtualCamera.Mapper
