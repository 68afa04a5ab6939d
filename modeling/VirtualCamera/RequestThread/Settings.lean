import Mathlib.Data.Finmap
import VirtualCamera.Library.Assoc

namespace VirtualCamera.RequestThread

/-! ### Metadata -/

inductive TagType
  | byte
  | int32
  | other
  deriving DecidableEq, Repr

/-- The tags the request thread knows by name; any other tag carries its type. -/
inductive Tag
  | controlAeTargetFpsRange
  | controlAePrecaptureTrigger
  | controlAePrecaptureId
  | controlAfTrigger
  | controlAfTriggerId
  | controlAfRegionsSet
  | controlAeRegionsSet
  | controlAwbRegionsSet
  | scalerCropRegionSet
  | scalerRotateAndCrop
  | sensorTestPatternMode
  | sensorTestPatternData
  | other (type : TagType) (id : ℕ)
  deriving DecidableEq, Repr

def Tag.type : Tag → TagType
  | controlAePrecaptureTrigger => .byte
  | controlAfTrigger => .byte
  | controlAfRegionsSet => .byte
  | controlAeRegionsSet => .byte
  | controlAwbRegionsSet => .byte
  | scalerCropRegionSet => .byte
  | scalerRotateAndCrop => .byte
  | controlAeTargetFpsRange => .int32
  | controlAePrecaptureId => .int32
  | controlAfTriggerId => .int32
  | sensorTestPatternMode => .int32
  | sensorTestPatternData => .int32
  | other type _ => type

/-- A metadata buffer as the map from its tags to their values. The order of the entries is not
kept, so that sorting a buffer leaves it as it is. -/
abbrev Metadata := Finmap fun _ : Tag ↦ List ℤ

namespace Metadata

/-- The values of a tag; an entry that is not there has no values. -/
def find (m : Metadata) (tag : Tag) : List ℤ := (m.lookup tag).getD []

def update (m : Metadata) (tag : Tag) (data : List ℤ) : Metadata := m.insert tag data

def erase (m : Metadata) (tag : Tag) : Metadata := Finmap.erase tag m

@[simp] theorem find_update (m : Metadata) (tag : Tag) (data : List ℤ) :
    (m.update tag data).find tag = data := by
  unfold find update
  rw [Finmap.lookup_insert, Option.getD_some]

@[simp] theorem find_erase (m : Metadata) (tag : Tag) : (m.erase tag).find tag = [] := by
  unfold find erase
  rw [Finmap.lookup_erase, Option.getD_none]

theorem find_update_ne (m : Metadata) {tag tag' : Tag} (data : List ℤ) (h : tag' ≠ tag) :
    (m.update tag data).find tag' = m.find tag' := by
  unfold find update
  rw [Finmap.lookup_insert_of_ne m h]

theorem find_erase_ne (m : Metadata) {tag tag' : Tag} (h : tag' ≠ tag) :
    (m.erase tag).find tag' = m.find tag' := by
  unfold find erase
  rw [Finmap.lookup_erase_ne h]

/-- Two buffers have the same values of the tags with a property. -/
def Agree (p : Tag → Prop) (m m' : Metadata) : Prop := ∀ tag, p tag → m'.find tag = m.find tag

variable {p : Tag → Prop} {m m' m'' : Metadata}

theorem Agree.refl (p : Tag → Prop) (m : Metadata) : Agree p m m := fun _ _ ↦ rfl

theorem Agree.trans (h : Agree p m m') (h' : Agree p m' m'') : Agree p m m'' :=
  fun tag ht ↦ (h' tag ht).trans (h tag ht)

theorem Agree.update (h : Agree p m m') {tag : Tag} (data : List ℤ) (ht : ¬ p tag) :
    Agree p m (m'.update tag data) := by
  intro tag' ht'
  have hne : tag' ≠ tag := by
    rintro rfl
    exact ht ht'
  rw [find_update_ne _ _ hne]
  exact h tag' ht'

theorem Agree.erase (h : Agree p m m') {tag : Tag} (ht : ¬ p tag) : Agree p m (m'.erase tag) := by
  intro tag' ht'
  have hne : tag' ≠ tag := by
    rintro rfl
    exact ht ht'
  rw [find_erase_ne _ hne]
  exact h tag' ht'

end Metadata

/-! ### Requests -/

structure PhysicalCameraSettings where
  cameraId : String
  metadata : Metadata
  mOriginalTestPatternMode : ℤ := 0
  mOriginalTestPatternData : List ℤ := [0, 0, 0, 0]
  mHasTestPatternModeTag : Bool := false
  mHasTestPatternDataTag : Bool := false
  deriving DecidableEq

/-- `capture` counts the captures the request thread has numbered: it is the one the request was
last numbered for, and tells captures apart whose frame numbers are 2 ^ 32 apart. -/
structure CaptureResultExtras where
  requestId : ℤ := 0
  burstId : ℤ := 0
  afTriggerId : ℤ := 0
  precaptureTriggerId : ℤ := 0
  frameNumber : ℕ := 0
  capture : ℕ := 0
  deriving DecidableEq, Repr

/-- `settings` is the first element of `mSettingsList` and `physical` the rest of it; `original`
keeps the metadata of all of them that came with the request. -/
structure CaptureRequest where
  settings : PhysicalCameraSettings
  physical : List PhysicalCameraSettings := []
  mInputStream : Bool := false
  mResultExtras : CaptureResultExtras := {}
  mBatchSize : ℕ := 1
  mRotateAndCropAuto : Bool := false
  mDistortionCorrectionUpdated : Bool := false
  mRotationAndCropUpdated : Bool := false
  mZoomRatioUpdated : Bool := false
  mUHRCropAndMeteringRegionsUpdated : Bool := false
  original : List Metadata := settings.metadata :: physical.map (·.metadata)
  deriving DecidableEq

namespace CaptureRequest

def metadata (request : CaptureRequest) : Metadata := request.settings.metadata

def setMetadata (request : CaptureRequest) (m : Metadata) : CaptureRequest :=
  { request with settings := { request.settings with metadata := m } }

/-- All the settings of a request, the logical camera's first. -/
def allMetadata (request : CaptureRequest) : List Metadata :=
  request.metadata :: request.physical.map (·.metadata)

@[simp] theorem metadata_setMetadata (request : CaptureRequest) (m : Metadata) :
    (request.setMetadata m).metadata = m := rfl

@[simp] theorem setMetadata_metadata (request : CaptureRequest) :
    request.setMetadata request.metadata = request := rfl

@[simp] theorem original_setMetadata (request : CaptureRequest) (m : Metadata) :
    (request.setMetadata m).original = request.original := rfl

end CaptureRequest

def ANDROID_SCALER_ROTATE_AND_CROP_NONE : ℤ := 0
def ANDROID_SCALER_ROTATE_AND_CROP_AUTO : ℤ := 4
def ANDROID_SENSOR_TEST_PATTERN_MODE_OFF : ℤ := 0
def ANDROID_CONTROL_AF_TRIGGER_IDLE : ℤ := 0
def ANDROID_CONTROL_AE_PRECAPTURE_TRIGGER_IDLE : ℤ := 0

/-- What a camera with a mute switch remembers of the test pattern a request asks for. -/
def PhysicalCameraSettings.rememberTestPattern (settings : PhysicalCameraSettings) :
    PhysicalCameraSettings :=
  let data := settings.metadata.find .sensorTestPatternData
  { settings with
    mOriginalTestPatternMode :=
      (settings.metadata.find .sensorTestPatternMode).headD ANDROID_SENSOR_TEST_PATTERN_MODE_OFF
    mOriginalTestPatternData := if 4 ≤ data.length then data.take 4 else [0, 0, 0, 0] }

def createCaptureRequest (mSupportCameraMute : Bool) (request : CaptureRequest) :
    CaptureRequest where
  settings :=
    if mSupportCameraMute then request.settings.rememberTestPattern else request.settings
  physical :=
    if mSupportCameraMute then request.physical.map (·.rememberTestPattern) else request.physical
  mInputStream := request.mInputStream
  mResultExtras := { requestId := request.mResultExtras.requestId
                     burstId := request.mResultExtras.burstId }
  mBatchSize := request.mBatchSize
  mRotateAndCropAuto := (request.settings.metadata.find .scalerRotateAndCrop).head? =
    some ANDROID_SCALER_ROTATE_AND_CROP_AUTO
  original := request.allMetadata

@[simp] theorem PhysicalCameraSettings.metadata_rememberTestPattern
    (settings : PhysicalCameraSettings) :
    settings.rememberTestPattern.metadata = settings.metadata := rfl

theorem allMetadata_createCaptureRequest (mute : Bool) (request : CaptureRequest) :
    (createCaptureRequest mute request).allMetadata =
      (createCaptureRequest mute request).original := by
  cases mute with
  | false => rfl
  | true =>
    simp only [CaptureRequest.allMetadata, CaptureRequest.metadata, createCaptureRequest, if_true,
      List.map_map]
    rfl

end VirtualCamera.RequestThread
