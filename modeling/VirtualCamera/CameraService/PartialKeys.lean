import VirtualCamera.CameraService.Records

namespace VirtualCamera.CameraService.InFlight

open Library Assoc

/-! ### The tags that the mappers remap -/

/-- The tags of the coordinates, and those that belong to one mapper. -/
structure Tags where
  kMeteringRegionsToCorrect : List ℕ
  kRectsToCorrect : List ℕ
  kResultPointsToCorrectNoClamp : List ℕ
  ANDROID_DISTORTION_CORRECTION_MODE : ℕ
  ANDROID_CONTROL_ZOOM_RATIO : ℕ
  ANDROID_SCALER_ROTATE_AND_CROP : ℕ
  ANDROID_SCALER_CROP_REGION : ℕ

namespace Tags

/-! `initRemappedKeys` of each mapper. -/

def distortion (t : Tags) : List ℕ :=
  t.kMeteringRegionsToCorrect ++ t.kRectsToCorrect ++ t.kResultPointsToCorrectNoClamp ++
    [t.ANDROID_DISTORTION_CORRECTION_MODE]

def zoomRatio (t : Tags) : List ℕ :=
  t.kMeteringRegionsToCorrect ++ t.kRectsToCorrect ++ t.kResultPointsToCorrectNoClamp ++
    [t.ANDROID_CONTROL_ZOOM_RATIO]

def rotateAndCrop (t : Tags) : List ℕ :=
  t.kMeteringRegionsToCorrect ++ t.kResultPointsToCorrectNoClamp ++
    [t.ANDROID_SCALER_ROTATE_AND_CROP, t.ANDROID_SCALER_CROP_REGION]

end Tags

/-- The mappers of each camera, as the tags that they remap. -/
structure Mappers where
  distortionMappers : Map String (List ℕ)
  zoomRatioMappers : Map String (List ℕ)
  rotateAndCropMappers : Map String (List ℕ)

namespace Mappers

/-- The tags that are taken out of a partial result; none where `iter`, which belongs to the
distortion mappers, is read at its end. A zoom ratio mapper that is not there is created, with
nothing to remap. -/
def keysToRemove (m : Mappers) (cameraId : String) : Option (List ℕ) × Mappers :=
  let iter := m.distortionMappers.lookup cameraId
  let zoomRatioMappers := emplace cameraId [] m.zoomRatioMappers
  let keysToRemove := iter.getD [] ++ (zoomRatioMappers.lookup cameraId).getD []
  let mapper := m.rotateAndCropMappers.lookup cameraId
  let keysToRemove :=
    if mapper.isSome then iter.map fun remappedKeys ↦ keysToRemove ++ remappedKeys
    else some keysToRemove
  (keysToRemove, { m with zoomRatioMappers })

/-- What is left of the metadata of a partial result. -/
def remaining (m : Mappers) (cameraId : String) (metadata : CameraMetadata) :
    Option CameraMetadata :=
  (m.keysToRemove cameraId).1.map fun keys ↦ keys.foldl CameraMetadata.erase metadata

/-- There is no result where an iterator is read at its end. -/
def sendPartialCaptureResult (m : Mappers) (cameraId : String) (c : Config) (s : State)
    (partialResult : CameraMetadata) (resultExtras : CaptureResultExtras) (frameNumber : ℕ) :
    Option (State × Mappers) :=
  match c.fixupMonochromeTags partialResult with
  | none => some (s.setErr, m)
  | some _ => (m.keysToRemove cameraId).1.map fun remappedKeys ↦
      (s.sendPartialCaptureResult { c with remappedKeys } partialResult resultExtras frameNumber,
        (m.keysToRemove cameraId).2)

/-- The union of the tags of the mappers that the camera has. -/
def remapped (m : Mappers) (cameraId : String) : List ℕ :=
  (m.distortionMappers.lookup cameraId).getD [] ++ (m.zoomRatioMappers.lookup cameraId).getD [] ++
    (m.rotateAndCropMappers.lookup cameraId).getD []

/-- The remapped tags are taken out, and what is left is sent if there is any. -/
def Hides (m : Mappers) (cameraId : String) (c : Config) (s : State)
    (partialResult : CameraMetadata) (resultExtras : CaptureResultExtras) (frameNumber : ℕ) : Prop :=
  ∀ metadata ∈ c.fixupMonochromeTags partialResult, ∃ left m',
    m.remaining cameraId metadata = some left ∧
      left = metadata.filter (fun entry ↦ entry.1 ∉ m.remapped cameraId) ∧
      m.sendPartialCaptureResult cameraId c s partialResult resultExtras frameNumber =
        some (if left = [] then s else
          s.insertResultLocked ⟨resultExtras, left, []⟩ frameNumber false, m')

/-- With a rotate-and-crop mapper there is a distortion mapper too, and each of its tags that the
metadata has is one of another mapper. -/
def Covers (m : Mappers) (cameraId : String) (metadata : CameraMetadata) : Prop :=
  ∀ rotateAndCrop ∈ m.rotateAndCropMappers.lookup cameraId,
    (m.distortionMappers.lookup cameraId).isSome ∧ ∀ entry ∈ metadata, entry.1 ∈ rotateAndCrop →
      entry.1 ∈ (m.distortionMappers.lookup cameraId).getD [] ++
        (m.zoomRatioMappers.lookup cameraId).getD []

/-! ### What is left -/

theorem foldl_erase (keys : List ℕ) (metadata : CameraMetadata) :
    keys.foldl CameraMetadata.erase metadata =
      metadata.filter fun entry ↦ entry.1 ∉ keys := by
  induction keys generalizing metadata with
  | nil => simp
  | cons key keys ih =>
    rw [List.foldl_cons, ih, CameraMetadata.erase, List.filter_filter]
    apply List.filter_congr
    intro entry _
    simp [Bool.and_comm]

theorem filter_eq_filter_iff {metadata : CameraMetadata} {keys keys' : List ℕ} :
    metadata.filter (fun entry ↦ entry.1 ∉ keys) = metadata.filter (fun entry ↦ entry.1 ∉ keys') ↔
      ∀ entry ∈ metadata, entry.1 ∈ keys ↔ entry.1 ∈ keys' := by
  constructor
  · intro h entry he
    have hmem : entry ∈ metadata.filter (fun entry ↦ entry.1 ∉ keys) ↔
        entry ∈ metadata.filter (fun entry ↦ entry.1 ∉ keys') := by rw [h]
    simp only [List.mem_filter, he, true_and, decide_eq_true_iff] at hmem
    exact not_iff_not.mp hmem
  · intro h
    apply List.filter_congr
    intro entry he
    rw [decide_eq_decide]
    exact not_congr (h entry he)

variable {m : Mappers} {cameraId : String}

theorem remaining_none (hrotate : m.rotateAndCropMappers.lookup cameraId = none)
    (metadata : CameraMetadata) : m.remaining cameraId metadata =
      some (metadata.filter fun entry ↦ entry.1 ∉ m.remapped cameraId) := by
  unfold remaining keysToRemove remapped
  simp [hrotate, lookup_emplace, foldl_erase]

theorem remaining_some {rotateAndCrop distortion : List ℕ}
    (hrotate : m.rotateAndCropMappers.lookup cameraId = some rotateAndCrop)
    (hdistortion : m.distortionMappers.lookup cameraId = some distortion)
    (metadata : CameraMetadata) : m.remaining cameraId metadata =
      some (metadata.filter fun entry ↦
        entry.1 ∉ distortion ++ (m.zoomRatioMappers.lookup cameraId).getD []) := by
  unfold remaining keysToRemove
  simp only [hrotate, hdistortion, lookup_emplace, Option.isSome_some, if_true, Option.map_some,
    Option.getD_some, foldl_erase, Option.some_inj]
  rw [filter_eq_filter_iff]
  intro entry _
  simp only [List.mem_append]
  tauto

theorem remaining_missing {rotateAndCrop : List ℕ}
    (hrotate : m.rotateAndCropMappers.lookup cameraId = some rotateAndCrop)
    (hdistortion : m.distortionMappers.lookup cameraId = none) (metadata : CameraMetadata) :
    m.remaining cameraId metadata = none := by
  unfold remaining keysToRemove
  simp [hrotate, hdistortion]

theorem remaining_iff (metadata : CameraMetadata) :
    m.remaining cameraId metadata =
        some (metadata.filter fun entry ↦ entry.1 ∉ m.remapped cameraId) ↔
      m.Covers cameraId metadata := by
  unfold Covers
  cases hrotate : m.rotateAndCropMappers.lookup cameraId with
  | none =>
    rw [remaining_none hrotate]
    exact ⟨fun _ _ h ↦ (by cases h), fun _ ↦ rfl⟩
  | some rotateAndCrop =>
    cases hdistortion : m.distortionMappers.lookup cameraId with
    | none =>
      rw [remaining_missing hrotate hdistortion]
      simp
    | some distortion =>
      rw [remaining_some hrotate hdistortion, Option.some_inj, filter_eq_filter_iff]
      simp only [remapped, hrotate, hdistortion, Option.getD_some, List.mem_append,
        Option.mem_def, Option.some_inj, forall_eq', Option.isSome_some, true_and]
      apply forall₂_congr
      intro entry _
      tauto

/-! ### What is sent -/

/-- The result that is sent has what is left of the metadata. -/
theorem sendPartialCaptureResult_eq {c : Config} {s : State} {partialResult metadata left :
    CameraMetadata} {resultExtras : CaptureResultExtras} {frameNumber : ℕ}
    (hfixup : c.fixupMonochromeTags partialResult = some metadata)
    (hleft : m.remaining cameraId metadata = some left) :
    m.sendPartialCaptureResult cameraId c s partialResult resultExtras frameNumber =
      some (if left = [] then s else
        s.insertResultLocked ⟨resultExtras, left, []⟩ frameNumber false,
        (m.keysToRemove cameraId).2) := by
  obtain ⟨keys, hkeys, rfl⟩ := Option.map_eq_some_iff.mp hleft
  unfold Mappers.sendPartialCaptureResult State.sendPartialCaptureResult
  simp only [hfixup, hkeys, Option.map_some]

/-- The remapped tags are hidden exactly when those of the rotate-and-crop mapper that the
metadata has are tags of the other mappers too. -/
theorem hides_iff (m : Mappers) (cameraId : String) (c : Config) (s : State)
    (partialResult : CameraMetadata) (resultExtras : CaptureResultExtras) (frameNumber : ℕ) :
    m.Hides cameraId c s partialResult resultExtras frameNumber ↔
      ∀ metadata ∈ c.fixupMonochromeTags partialResult, m.Covers cameraId metadata := by
  unfold Hides
  apply forall₂_congr
  intro metadata hfixup
  rw [← remaining_iff]
  constructor
  · intro h
    obtain ⟨left, m', hleft, rfl, _⟩ := h
    exact hleft
  · intro hleft
    exact ⟨_, _, hleft, rfl, sendPartialCaptureResult_eq hfixup hleft⟩

/-- With all three mappers, a result that has the rotation is sent with it. -/
theorem covers_tags {t : Tags} (hdistortion : m.distortionMappers.lookup cameraId = some t.distortion)
    (hzoom : m.zoomRatioMappers.lookup cameraId = some t.zoomRatio)
    (hrotate : m.rotateAndCropMappers.lookup cameraId = some t.rotateAndCrop)
    (hcrop : t.ANDROID_SCALER_CROP_REGION ∈ t.kRectsToCorrect)
    (hown : t.ANDROID_SCALER_ROTATE_AND_CROP ∉ t.distortion ++ t.zoomRatio)
    (metadata : CameraMetadata) : m.Covers cameraId metadata ↔
      ∀ entry ∈ metadata, entry.1 ≠ t.ANDROID_SCALER_ROTATE_AND_CROP := by
  unfold Covers
  simp only [hdistortion, hzoom, hrotate, Option.mem_def, Option.some_inj, forall_eq',
    Option.isSome_some, true_and, Option.getD_some]
  apply forall₂_congr
  intro entry _
  constructor
  · intro h hentry
    rw [hentry] at h
    exact hown (h (by simp [Tags.rotateAndCrop]))
  · intro hentry hmem
    simp only [Tags.rotateAndCrop, Tags.distortion, Tags.zoomRatio, List.mem_append, List.mem_cons,
      List.not_mem_nil, or_false] at hmem ⊢
    obtain (h | h) | h | h := hmem
    · tauto
    · tauto
    · exact absurd h hentry
    · rw [h]
      tauto

def someTags : Tags where
  kMeteringRegionsToCorrect := [1, 2, 3]
  kRectsToCorrect := [4]
  kResultPointsToCorrectNoClamp := [5, 6]
  ANDROID_DISTORTION_CORRECTION_MODE := 7
  ANDROID_CONTROL_ZOOM_RATIO := 8
  ANDROID_SCALER_ROTATE_AND_CROP := 9
  ANDROID_SCALER_CROP_REGION := 4

/-- With all mappers the rotation is sent; without a distortion mapper the call has no result. -/
theorem not_hides :
    (∃ m : Mappers, m.distortionMappers.lookup "0" = some someTags.distortion ∧
      m.zoomRatioMappers.lookup "0" = some someTags.zoomRatio ∧
      m.rotateAndCropMappers.lookup "0" = some someTags.rotateAndCrop ∧
      ¬ m.Hides "0" .plain .create [(9, [1])] ⟨1, 0, 0, 1, -1, -1, -1⟩ 0) ∧
    ∃ m : Mappers, m.rotateAndCropMappers.lookup "0" = some someTags.rotateAndCrop ∧
      m.sendPartialCaptureResult "0" .plain .create [(9, [1])] ⟨1, 0, 0, 1, -1, -1, -1⟩ 0 = none := by
  constructor
  · refine ⟨⟨AList.singleton "0" someTags.distortion, AList.singleton "0" someTags.zoomRatio,
      AList.singleton "0" someTags.rotateAndCrop⟩, rfl, rfl, rfl, fun h ↦ ?_⟩
    obtain ⟨left, m', hleft, rfl, _⟩ := h [(9, [1])] rfl
    exact absurd hleft (by decide)
  · exact ⟨⟨∅, ∅, AList.singleton "0" someTags.rotateAndCrop⟩, rfl, rfl⟩

end Mappers

end VirtualCamera.CameraService.InFlight
