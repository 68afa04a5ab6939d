import VirtualCamera.RequestThread.Triggers

namespace VirtualCamera.RequestThread

/-! ### Overrides -/

structure Overrides where
  mRotateAndCropOverride : ℤ := ANDROID_SCALER_ROTATE_AND_CROP_NONE
  mComposerOutput : Bool := false
  mCameraMute : ℤ := ANDROID_SENSOR_TEST_PATTERN_MODE_OFF
  deriving DecidableEq, Repr

namespace Overrides

def setRotateAndCropAutoBehavior (o : Overrides) (rotateAndCropValue : ℤ) : Overrides :=
  if rotateAndCropValue = ANDROID_SCALER_ROTATE_AND_CROP_AUTO then o
  else { o with mRotateAndCropOverride := rotateAndCropValue }

def setCameraMute (o : Overrides) (muteMode : ℤ) : Overrides :=
  if muteMode ≠ o.mCameraMute then { o with mCameraMute := muteMode } else o

def overrideAutoRotateAndCrop (o : Overrides) (request : CaptureRequest) :
    Bool × CaptureRequest :=
  if request.mRotateAndCropAuto then
    match request.metadata.find .scalerRotateAndCrop with
    | value :: rest =>
      if value = o.mRotateAndCropOverride then (false, request)
      else
        (true, request.setMetadata
          (request.metadata.update .scalerRotateAndCrop (o.mRotateAndCropOverride :: rest)))
    | [] =>
      (true, request.setMetadata
        (request.metadata.update .scalerRotateAndCrop [o.mRotateAndCropOverride]))
  else (false, request)

/-- The part of the loop of `overrideTestPattern` that is about the mode. -/
def overrideMode (mode : ℤ) (settings : PhysicalCameraSettings) : Bool × Metadata :=
  match settings.metadata.find .sensorTestPatternMode with
  | value :: rest =>
    if value ≠ mode then (true, settings.metadata.update .sensorTestPatternMode (mode :: rest))
    else (false, settings.metadata)
  | [] =>
    if settings.mHasTestPatternModeTag then
      (true, settings.metadata.update .sensorTestPatternMode [mode])
    else (false, settings.metadata)

def overrideData (data : List ℤ) (hasTag : Bool) (m : Metadata) : Bool × Metadata :=
  let color := m.find .sensorTestPatternData
  if 4 ≤ color.length then
    if color.take 4 ≠ data then
      (true, m.update .sensorTestPatternData (data ++ color.drop 4))
    else (false, m)
  else if hasTag then (true, m.update .sensorTestPatternData data)
  else (false, m)

def overrideSettings (o : Overrides) (settings : PhysicalCameraSettings) :
    Bool × PhysicalCameraSettings :=
  let muted : Bool := o.mCameraMute ≠ ANDROID_SENSOR_TEST_PATTERN_MODE_OFF
  let testPatternMode := if muted then o.mCameraMute else settings.mOriginalTestPatternMode
  let testPatternData := if muted then [0, 0, 0, 0] else settings.mOriginalTestPatternData
  let (modeChanged, m) := overrideMode testPatternMode settings
  let (dataChanged, m) := overrideData testPatternData settings.mHasTestPatternDataTag m
  (modeChanged || dataChanged, { settings with metadata := m })

def overrideTestPattern (mSupportCameraMute : Bool) (o : Overrides) (request : CaptureRequest) :
    Bool × CaptureRequest :=
  if mSupportCameraMute then
    let first := o.overrideSettings request.settings
    let rest := request.physical.map o.overrideSettings
    (first.1 || rest.any (·.1),
      { request with settings := first.2, physical := rest.map (·.2) })
  else (false, request)

end Overrides

/-! ### Corrections -/

/-- The mappers of the cameras, known by the function that corrects a request. They change the
tags that `corrects` has, and `none` is a failure. -/
structure Mappers where
  uhrCropAndMeteringRegion : String → Option (Metadata → Option Metadata)
  distortion : String → Option (Metadata → Option Metadata)
  zoomRatio : String → Option (Metadata → Option Metadata)
  rotateAndCrop : String → Option (Metadata → Option Metadata)
  corrects : Tag → Bool
  keeps : ∀ find ∈ [uhrCropAndMeteringRegion, distortion, zoomRatio, rotateAndCrop],
    ∀ cameraId correct m m', find cameraId = some correct → correct m = some m' →
      m.Agree (fun tag ↦ corrects tag = false) m'

def kFwkOnlyRegionKeys : List Tag :=
  [.controlAfRegionsSet, .controlAeRegionsSet, .controlAwbRegionsSet, .scalerCropRegionSet]

def removeFwkOnlyRegionKeys (m : Metadata) : Metadata :=
  kFwkOnlyRegionKeys.foldl (fun m key ↦ m.erase key) m

/-- One turn of a correction loop: `skip` is done where there is no mapper, and a correction that
was made is not made again. -/
def correctOnce (find : String → Option (Metadata → Option Metadata)) (skip : Metadata → Metadata)
    (updated : Bool) (settings : PhysicalCameraSettings) :
    Option (Bool × PhysicalCameraSettings) :=
  match find settings.cameraId with
  | none => some (updated, { settings with metadata := skip settings.metadata })
  | some correct =>
    if updated then some (updated, settings)
    else (correct settings.metadata).map fun m ↦ (true, { settings with metadata := m })

/-- The last loop leaves its flag to be set after it. -/
def correctAlways (find : String → Option (Metadata → Option Metadata)) (updated : Bool)
    (settings : PhysicalCameraSettings) : Option (Bool × PhysicalCameraSettings) :=
  match find settings.cameraId with
  | none => some (updated, settings)
  | some correct =>
    (correct settings.metadata).map fun m ↦ (updated, { settings with metadata := m })

def correctList (f : Bool → PhysicalCameraSettings → Option (Bool × PhysicalCameraSettings)) :
    Bool → List PhysicalCameraSettings → Option (Bool × List PhysicalCameraSettings)
  | updated, [] => some (updated, [])
  | updated, settings :: rest =>
    (f updated settings).bind fun (updated, settings) ↦
      (correctList f updated rest).map fun (updated, rest) ↦ (updated, settings :: rest)

/-- A correction loop over `mSettingsList`. -/
def correctAll (f : Bool → PhysicalCameraSettings → Option (Bool × PhysicalCameraSettings))
    (updated : Bool) (request : CaptureRequest) : Option (Bool × CaptureRequest) :=
  (f updated request.settings).bind fun (updated, settings) ↦
    (correctList f updated request.physical).map fun (updated, physical) ↦
      (updated, { request with settings := settings, physical := physical })

namespace Mappers

def correctRegions (mappers : Mappers) (request : CaptureRequest) : Option CaptureRequest :=
  let find := fun cameraId ↦ (mappers.uhrCropAndMeteringRegion cameraId).map
    fun correct m ↦ (correct m).map removeFwkOnlyRegionKeys
  (correctAll (correctOnce find removeFwkOnlyRegionKeys)
    request.mUHRCropAndMeteringRegionsUpdated request).map fun (updated, request) ↦
      { request with mUHRCropAndMeteringRegionsUpdated := updated }

def correctDistortion (mappers : Mappers) (request : CaptureRequest) : Option CaptureRequest :=
  (correctAll (correctOnce mappers.distortion id)
    request.mDistortionCorrectionUpdated request).map fun (updated, request) ↦
      { request with mDistortionCorrectionUpdated := updated }

def correctZoomRatio (mappers : Mappers) (request : CaptureRequest) : Option CaptureRequest :=
  (correctAll (correctOnce mappers.zoomRatio id)
    request.mZoomRatioUpdated request).map fun (updated, request) ↦
      { request with mZoomRatioUpdated := updated }

def correctRotateAndCrop (mappers : Mappers) (request : CaptureRequest) :
    Option CaptureRequest :=
  if request.mRotateAndCropAuto && !request.mRotationAndCropUpdated then
    (correctAll (correctAlways mappers.rotateAndCrop) false request).map fun (_, request) ↦
      { request with mRotationAndCropUpdated := true }
  else some request

/-- The corrections `prepareHalRequests` makes to a request that is new. -/
def correct (mappers : Mappers) (request : CaptureRequest) : Option CaptureRequest :=
  (mappers.correctRegions request).bind fun request ↦
    (mappers.correctDistortion request).bind fun request ↦
      (mappers.correctZoomRatio request).bind mappers.correctRotateAndCrop

end Mappers

/-! ### Session parameters -/

def skipHFRTargetFPSUpdate (mConstrainedMode : Bool) (tag : Tag) (newEntry currentEntry : List ℤ) :
    Bool :=
  mConstrainedMode && tag = .controlAeTargetFpsRange && newEntry.length = currentEntry.length &&
    currentEntry.length = 2 && currentEntry[1]? = newEntry[1]?

/-- One turn of the loop of `updateSessionParameters`. -/
def updateSessionParameter (mConstrainedMode : Bool) (settings : Metadata)
    (p : Bool × Metadata) (tag : Tag) : Bool × Metadata :=
  let (updatesDetected, updatedParams) := p
  let entry := settings.find tag
  let lastEntry := updatedParams.find tag
  if entry ≠ [] then
    if entry ≠ lastEntry then
      (updatesDetected || !skipHFRTargetFPSUpdate mConstrainedMode tag entry lastEntry,
        updatedParams.update tag entry)
    else p
  else if lastEntry ≠ [] then (true, updatedParams.erase tag)
  else p

def updateSessionParameters (mConstrainedMode : Bool) (mSessionParamKeys : List Tag)
    (mLatestSessionParams settings : Metadata) : Bool × Metadata :=
  mSessionParamKeys.foldl (updateSessionParameter mConstrainedMode settings)
    (false, mLatestSessionParams)

end VirtualCamera.RequestThread
