import Mathlib.Data.Finset.Sort
import Mathlib.Data.Rat.Floor
import VirtualCamera.Library.Memory
import VirtualCamera.Session.Streams

namespace VirtualCamera.Session.StreamConfigs

open Library.Memory Capture Streams

/-! ### Metadata -/

inductive Tag
  | depthAvailableDepthStreamConfigurations
  | depthAvailableDepthMinFrameDurations
  | depthAvailableDepthStallDurations
  | scalerAvailableStreamConfigurations
  | scalerAvailableMinFrameDurations
  | scalerAvailableStallDurations
  | controlAeAvailableTargetFpsRanges
  | sensorInfoMaxFrameDuration
  | sensorInfoPreCorrectionActiveArraySize
  | sensorInfoActiveArraySize
  | sensorInfoPixelArraySize
  deriving DecidableEq, Repr

/-- What the tags hold that the function writes. -/
abbrev Metadata := Tag → Option (List ℤ)

/-- Whatever the tag has held is replaced. -/
def Metadata.update (metadata : Metadata) (tag : Tag) (data : List ℤ) : Metadata :=
  Function.update metadata tag (some data)

structure Entry where
  format : ℤ
  width : ℤ
  height : ℤ
  value : ℤ
  deriving DecidableEq, Repr

def Entry.data (e : Entry) : List ℤ := [e.format, e.width, e.height, e.value]

def readEntries : List ℤ → List Entry
  | format :: width :: height :: value :: rest => ⟨format, width, height, value⟩ :: readEntries rest
  | _ => []

def Metadata.entries (metadata : Metadata) (tag : Tag) : List Entry :=
  readEntries ((metadata tag).getD [])

def ANDROID_SCALER_AVAILABLE_STREAM_CONFIGURATIONS_OUTPUT : ℤ := 0
def ANDROID_DEPTH_AVAILABLE_DEPTH_STREAM_CONFIGURATIONS_OUTPUT : ℤ := 0

/-! ### Formats -/

def HAL_PIXEL_FORMAT_RAW16 : ℤ := 0x20
def HAL_PIXEL_FORMAT_BLOB : ℤ := 0x21
def HAL_PIXEL_FORMAT_IMPLEMENTATION_DEFINED : ℤ := 0x22
def HAL_PIXEL_FORMAT_YCbCr_420_888 : ℤ := 0x23
def HAL_PIXEL_FORMAT_RAW10 : ℤ := 0x25
def HAL_PIXEL_FORMAT_RAW12 : ℤ := 0x26

def pixelFormat (code : ℤ) : PixelFormat :=
  if code = 0x11 then .ycrcb420Sp
  else if code = HAL_PIXEL_FORMAT_RAW16 then .raw16
  else if code = HAL_PIXEL_FORMAT_BLOB then .blob
  else if code = HAL_PIXEL_FORMAT_IMPLEMENTATION_DEFINED then .implementationDefined
  else if code = HAL_PIXEL_FORMAT_YCbCr_420_888 then .ycbcr420_888
  else if code = HAL_PIXEL_FORMAT_RAW10 then .raw10
  else if code = HAL_PIXEL_FORMAT_RAW12 then .raw12
  else if code = 0x20363159 then .y16
  else if code = 0x32315659 then .yv12
  else .other (.ofNat code.toNat)

def halFormats : List ℤ :=
  [HAL_PIXEL_FORMAT_BLOB, HAL_PIXEL_FORMAT_YCbCr_420_888, HAL_PIXEL_FORMAT_IMPLEMENTATION_DEFINED,
    HAL_PIXEL_FORMAT_RAW10, HAL_PIXEL_FORMAT_RAW12, HAL_PIXEL_FORMAT_RAW16]

def v4l2PixFmtZ16 : UInt32 := v4l2Fourcc 'Z' '1' '6' ' '
def v4l2PixFmtYuyv : UInt32 := v4l2Fourcc 'Y' 'U' 'Y' 'V'
def v4l2PixFmtNv12 : UInt32 := v4l2Fourcc 'N' 'V' '1' '2'
def v4l2PixFmtSgrbg12 : UInt32 := v4l2Fourcc 'B' 'A' '1' '2'
def v4l2PixFmtSgrbg16 : UInt32 := v4l2Fourcc 'G' 'R' '1' '6'

/-! ### The entries of one fourcc -/

/-- There is no value for a division by zero. -/
def frameDuration (fr : FrameRate) : Option ℤ :=
  if fr.durationDenominator = 0 then none
  else some (1000000000 * fr.durationNumerator / fr.durationDenominator)

def minDuration : List FrameRate → (minFrameDuration : ℤ) → Option ℤ
  | [], minFrameDuration => some minFrameDuration
  | fr :: rest, minFrameDuration =>
    (frameDuration fr).bind fun duration ↦
      minDuration rest (if duration < minFrameDuration then duration else minFrameDuration)

def INT64_MAX : ℤ := 2 ^ 63 - 1

/-- A second for a JPEG. -/
def stallDuration (format : ℤ) : ℤ := if format = HAL_PIXEL_FORMAT_BLOB then 1000000000 else 0

structure Vectors where
  streamConfigurations : List Entry
  minFrameDurations : List Entry
  stallDurations : List Entry

def vectors (fourcc : UInt32) (halFormats : List ℤ) (streamConfigTag : ℤ) :
    List SupportedV4L2Format → Option Vectors
  | [] => some ⟨[], [], []⟩
  | fmt :: rest =>
    if fmt.fourcc ≠ fourcc then vectors fourcc halFormats streamConfigTag rest
    else do
      let minFrameDuration ← minDuration fmt.frameRates INT64_MAX
      let v ← vectors fourcc halFormats streamConfigTag rest
      return {
        streamConfigurations := (halFormats.map fun format ↦
          ⟨format, toInt32 fmt.width, toInt32 fmt.height, streamConfigTag⟩) ++
            v.streamConfigurations
        minFrameDurations := (halFormats.map fun format ↦
          ⟨format, fmt.width, fmt.height, minFrameDuration⟩) ++ v.minFrameDurations
        stallDurations := (halFormats.map fun format ↦
          ⟨format, fmt.width, fmt.height, stallDuration format⟩) ++ v.stallDurations }

/-- The caller does not look at the result. -/
def initOutputCharskeysByFormat (mSupportedFormats : List SupportedV4L2Format) (fourcc : UInt32)
    (halFormats : List ℤ) (streamConfigTag : ℤ)
    (streamConfiguration minFrameDuration stallDuration : Tag) (metadata : Metadata) :
    Option Metadata :=
  if mSupportedFormats = [] then some metadata
  else do
    let v ← vectors fourcc halFormats streamConfigTag mSupportedFormats
    let metadata := metadata.update streamConfiguration (v.streamConfigurations.flatMap Entry.data)
    let metadata := metadata.update minFrameDuration (v.minFrameDurations.flatMap Entry.data)
    return metadata.update stallDuration (v.stallDurations.flatMap Entry.data)

/-! ### The rates and the sizes -/

/-- A `double` cast to `int32_t`, where that is defined. -/
def frameRateInt (fr : FrameRate) : Option ℤ :=
  if fr.durationNumerator = 0 then none else checkInt ⌊fr.getDouble⌋

def rateLoop : List FrameRate → (minFps : ℤ) → (framerates : Finset ℤ) → Option (ℤ × Finset ℤ)
  | [], minFps, framerates => some (minFps, framerates)
  | fr :: rest, minFps, framerates =>
    (frameRateInt fr).bind fun rate ↦
      rateLoop rest (if minFps > rate then rate else minFps) (insert rate framerates)

def calculateMinFps (mSupportedFormats : List SupportedV4L2Format) (metadata : Metadata) :
    Option Metadata := do
  let (minFps, framerates) ←
    rateLoop (mSupportedFormats.flatMap fun fmt ↦ fmt.frameRates) INT_MAX ∅
  let fpsRanges := framerates.sort.flatMap fun framerate ↦ [framerate.tdiv 2, framerate]
  let minFps := minFps.tdiv 2
  let maxFrameDuration ← (if minFps = 0 then none else some ((1000000000 : ℤ).tdiv minFps))
  let metadata := metadata.update .controlAeAvailableTargetFpsRanges fpsRanges
  return metadata.update .sensorInfoMaxFrameDuration [maxFrameDuration]

def maximumSize (mSupportedFormats : List SupportedV4L2Format) : Size :=
  mSupportedFormats.foldl (fun maximum fmt ↦
    if fmt.width ≥ maximum.width ∧ fmt.height ≥ maximum.height then ⟨fmt.width, fmt.height⟩
    else maximum) ⟨0, 0⟩

def updateArraySizes (mSupportedFormats : List SupportedV4L2Format) (metadata : Metadata) :
    Metadata :=
  let maximum := maximumSize mSupportedFormats
  let activeArraySize := [0, 0, toInt32 maximum.width, toInt32 maximum.height]
  let metadata := metadata.update .sensorInfoPreCorrectionActiveArraySize activeArraySize
  let metadata := metadata.update .sensorInfoActiveArraySize activeArraySize
  metadata.update .sensorInfoPixelArraySize [toInt32 maximum.width, toInt32 maximum.height]

/-! ### All the groups -/

inductive InitStatus
  | OK
  | UNKNOWN_ERROR
  deriving DecidableEq, Repr

def has (mSupportedFormats : List SupportedV4L2Format) (fourcc : UInt32) : Bool :=
  mSupportedFormats.any fun fmt ↦ fmt.fourcc = fourcc

def initDepthKeys (mSupportedFormats : List SupportedV4L2Format) (metadata : Metadata) :
    Option Metadata :=
  initOutputCharskeysByFormat mSupportedFormats v4l2PixFmtZ16 halFormats
    ANDROID_DEPTH_AVAILABLE_DEPTH_STREAM_CONFIGURATIONS_OUTPUT
    .depthAvailableDepthStreamConfigurations .depthAvailableDepthMinFrameDurations
    .depthAvailableDepthStallDurations metadata

def initScalerKeys (mSupportedFormats : List SupportedV4L2Format) (fourcc : UInt32)
    (metadata : Metadata) : Option Metadata :=
  initOutputCharskeysByFormat mSupportedFormats fourcc halFormats
    ANDROID_SCALER_AVAILABLE_STREAM_CONFIGURATIONS_OUTPUT .scalerAvailableStreamConfigurations
    .scalerAvailableMinFrameDurations .scalerAvailableStallDurations metadata

def initIfPresent (mSupportedFormats : List SupportedV4L2Format) (fourcc : UInt32)
    (metadata : Metadata) : Option Metadata :=
  if has mSupportedFormats fourcc then initScalerKeys mSupportedFormats fourcc metadata
  else some metadata

def initOutputCharsKeys (mSupportedFormats : List SupportedV4L2Format) (metadata : Metadata) :
    Option (InitStatus × Metadata) :=
  if mSupportedFormats = [] then some (.UNKNOWN_ERROR, metadata)
  else do
    let metadata ← (if has mSupportedFormats v4l2PixFmtZ16 then
      initDepthKeys mSupportedFormats metadata else some metadata)
    let metadata ← (if has mSupportedFormats v4l2PixFmtMjpeg then
      initScalerKeys mSupportedFormats v4l2PixFmtMjpeg metadata
      else initIfPresent mSupportedFormats v4l2PixFmtYuyv metadata)
    let metadata ← initIfPresent mSupportedFormats v4l2PixFmtNv12 metadata
    let metadata ← initIfPresent mSupportedFormats v4l2PixFmtSrggb10 metadata
    let metadata ← initIfPresent mSupportedFormats v4l2PixFmtSgrbg12 metadata
    let metadata ← initIfPresent mSupportedFormats v4l2PixFmtSgrbg16 metadata
    let metadata ← calculateMinFps mSupportedFormats metadata
    return (.OK, updateArraySizes mSupportedFormats metadata)

/-! ### What is advertised -/

/-- The tags for streams that are not of depth hold the formats with the sizes of a set. -/
structure Shows (metadata : Metadata) (sizes : Set Size) : Prop where
  streamConfigurations : ∀ e, e ∈ metadata.entries .scalerAvailableStreamConfigurations ↔
    ∃ format ∈ halFormats, ∃ size ∈ sizes, e = ⟨format, toInt32 size.width, toInt32 size.height,
      ANDROID_SCALER_AVAILABLE_STREAM_CONFIGURATIONS_OUTPUT⟩
  minFrameDurations : ∀ format width height : ℤ,
    (∃ value, ⟨format, width, height, value⟩ ∈
      metadata.entries .scalerAvailableMinFrameDurations) ↔
      format ∈ halFormats ∧ ∃ size ∈ sizes, width = size.width ∧ height = size.height
  stallDurations : ∀ format width height : ℤ,
    (∃ value, ⟨format, width, height, value⟩ ∈ metadata.entries .scalerAvailableStallDurations) ↔
      format ∈ halFormats ∧ ∃ size ∈ sizes, width = size.width ∧ height = size.height

/-- A stream of an advertised format and size is accepted; a JPEG has the data space of its
format. -/
def Accepts (metadata : Metadata) (mSupportedFormats : List SupportedV4L2Format) : Prop :=
  ∀ (stream : Stream) (depthEnabled : Bool) (format : ℤ), stream.streamType = .output →
    stream.rotation = .rotation0 → stream.format = pixelFormat format →
    (stream.format = .blob → stream.dataSpace = v0Jfif) →
    stream.width < 2 ^ 32 → stream.height < 2 ^ 32 →
    ⟨format, toInt32 stream.width, toInt32 stream.height,
      ANDROID_SCALER_AVAILABLE_STREAM_CONFIGURATIONS_OUTPUT⟩ ∈
        metadata.entries .scalerAvailableStreamConfigurations →
    isStreamCombinationSupported ⟨[stream], .normalMode⟩ mSupportedFormats depthEnabled = .ok

/-- The fourccs that have entries in the tags, the last group first. -/
def scalerFourccs : List UInt32 :=
  [v4l2PixFmtSgrbg16, v4l2PixFmtSgrbg12, v4l2PixFmtSrggb10, v4l2PixFmtNv12, v4l2PixFmtMjpeg,
    v4l2PixFmtYuyv]

def scalerSizes (mSupportedFormats : List SupportedV4L2Format) : Set Size :=
  {size | ∃ fmt ∈ mSupportedFormats, fmt.fourcc ∈ scalerFourccs ∧ size = ⟨fmt.width, fmt.height⟩}

structure Advertises (metadata : Metadata) (mSupportedFormats : List SupportedV4L2Format) :
    Prop where
  shows : Shows metadata (scalerSizes mSupportedFormats)
  accepts : Accepts metadata mSupportedFormats

def lastWritten (mSupportedFormats : List SupportedV4L2Format) : Option UInt32 :=
  scalerFourccs.find? (has mSupportedFormats)

def groupSizes (mSupportedFormats : List SupportedV4L2Format) (fourcc : Option UInt32) :
    Set Size :=
  {size | ∃ fmt ∈ mSupportedFormats, fourcc = some fmt.fourcc ∧ size = ⟨fmt.width, fmt.height⟩}

/-- A rate that is a number, and neither too small to halve nor too large for an `int32_t`. -/
def IsRate (fr : FrameRate) : Prop := 2 ≤ fr.getDouble ∧ fr.getDouble < 2 ^ 31

/-! ### Reading the tags -/

theorem readEntries_flatMap (entries : List Entry) :
    readEntries (entries.flatMap Entry.data) = entries := by
  induction entries with
  | nil => rfl
  | cons e entries ih =>
    rw [List.flatMap_cons]
    exact congrArg (e :: ·) ih

@[simp]
theorem entries_update (metadata : Metadata) (tag : Tag) (entries : List Entry) :
    (metadata.update tag (entries.flatMap Entry.data)).entries tag = entries := by
  rw [Metadata.entries, Metadata.update, Function.update_self, Option.getD_some,
    readEntries_flatMap]

@[simp]
theorem entries_update_of_ne {metadata : Metadata} {tag tag' : Tag} {data : List ℤ}
    (h : tag ≠ tag') : (metadata.update tag' data).entries tag = metadata.entries tag := by
  rw [Metadata.entries, Metadata.update, Function.update_of_ne h, Metadata.entries]

theorem Shows.congr {metadata metadata' : Metadata} {sizes : Set Size} (h : Shows metadata sizes)
    (hconfig : metadata'.entries .scalerAvailableStreamConfigurations =
      metadata.entries .scalerAvailableStreamConfigurations)
    (hmin : metadata'.entries .scalerAvailableMinFrameDurations =
      metadata.entries .scalerAvailableMinFrameDurations)
    (hstall : metadata'.entries .scalerAvailableStallDurations =
      metadata.entries .scalerAvailableStallDurations) : Shows metadata' sizes where
  streamConfigurations := by
    rw [hconfig]
    exact h.streamConfigurations
  minFrameDurations := by
    rw [hmin]
    exact h.minFrameDurations
  stallDurations := by
    rw [hstall]
    exact h.stallDurations

theorem Shows.unique {metadata : Metadata} {sizes sizes' : Set Size} (h : Shows metadata sizes)
    (h' : Shows metadata sizes') : sizes = sizes' := by
  ext ⟨width, height⟩
  have hiff := (h.minFrameDurations HAL_PIXEL_FORMAT_BLOB width height).symm.trans
    (h'.minFrameDurations HAL_PIXEL_FORMAT_BLOB width height)
  have hmem : ∀ sizes : Set Size, (⟨width, height⟩ ∈ sizes ↔ HAL_PIXEL_FORMAT_BLOB ∈ halFormats ∧
      ∃ size ∈ sizes, (width : ℤ) = size.width ∧ (height : ℤ) = size.height) := by
    intro sizes
    constructor
    · exact fun hin ↦ ⟨by decide, _, hin, rfl, rfl⟩
    · intro hcond
      obtain ⟨-, ⟨width', height'⟩, hin, hwidth, hheight⟩ := hcond
      cases Int.ofNat.inj hwidth
      cases Int.ofNat.inj hheight
      exact hin
  rw [hmem sizes, hmem sizes', hiff]

/-! ### The entries of one group -/

theorem IsRate.denominator {fr : FrameRate} (h : IsRate fr) : fr.durationDenominator ≠ 0 := by
  intro hzero
  have hle := h.1
  rw [FrameRate.getDouble, hzero, Nat.cast_zero, zero_div] at hle
  exact absurd hle (by decide)

theorem minDuration_isSome {frameRates : List FrameRate}
    (h : ∀ fr ∈ frameRates, IsRate fr) (start : ℤ) : ∃ d, minDuration frameRates start = some d := by
  induction frameRates generalizing start with
  | nil => exact ⟨start, rfl⟩
  | cons fr rest ih =>
    obtain ⟨hfr, hrest⟩ := List.forall_mem_cons.mp h
    rw [minDuration, frameDuration, if_neg hfr.denominator, Option.bind_some]
    exact ih hrest _

theorem groupSizes_cons_of_ne {fmt : SupportedV4L2Format} {rest : List SupportedV4L2Format}
    {fourcc : UInt32} (h : fmt.fourcc ≠ fourcc) :
    groupSizes (fmt :: rest) (some fourcc) = groupSizes rest (some fourcc) := by
  ext size
  constructor
  · intro hcond
    obtain ⟨fmt', hmem, hsame, hsize⟩ := hcond
    rcases List.mem_cons.mp hmem with rfl | hmem
    · exact absurd (Option.some.inj hsame).symm h
    · exact ⟨fmt', hmem, hsame, hsize⟩
  · intro hcond
    obtain ⟨fmt', hmem, hsame, hsize⟩ := hcond
    exact ⟨fmt', List.mem_cons_of_mem _ hmem, hsame, hsize⟩

theorem groupSizes_cons {fmt : SupportedV4L2Format} {rest : List SupportedV4L2Format}
    {fourcc : UInt32} (h : fmt.fourcc = fourcc) :
    groupSizes (fmt :: rest) (some fourcc) =
      insert ⟨fmt.width, fmt.height⟩ (groupSizes rest (some fourcc)) := by
  ext size
  constructor
  · intro hcond
    obtain ⟨fmt', hmem, hsame, hsize⟩ := hcond
    rcases List.mem_cons.mp hmem with rfl | hmem
    · exact .inl hsize
    · exact .inr ⟨fmt', hmem, hsame, hsize⟩
  · intro hcond
    obtain hsize | ⟨fmt', hmem, hsame, hsize⟩ := hcond
    · exact ⟨fmt, List.mem_cons_self, congrArg some h.symm, hsize⟩
    · exact ⟨fmt', List.mem_cons_of_mem _ hmem, hsame, hsize⟩

theorem pairs_append {entries : List Entry} {sizes : Set Size}
    (h : ∀ format width height : ℤ, (∃ value, ⟨format, width, height, value⟩ ∈ entries) ↔
      format ∈ halFormats ∧ ∃ size ∈ sizes, width = size.width ∧ height = size.height)
    (size : Size) (value : ℤ → ℤ) (format width height : ℤ) :
    (∃ d, (⟨format, width, height, d⟩ : Entry) ∈ (halFormats.map fun format ↦
        ⟨format, size.width, size.height, value format⟩) ++ entries) ↔
      format ∈ halFormats ∧
        ∃ size' ∈ insert size sizes, width = size'.width ∧ height = size'.height := by
  constructor
  · intro hcond
    obtain ⟨d, hmem⟩ := hcond
    rcases List.mem_append.mp hmem with hmem | hmem
    · obtain ⟨format', hformat, heq⟩ := List.mem_map.mp hmem
      cases heq
      exact ⟨hformat, size, Set.mem_insert _ _, rfl, rfl⟩
    · obtain ⟨hformat, size', hsize, heq⟩ := (h format width height).mp ⟨d, hmem⟩
      exact ⟨hformat, size', Set.mem_insert_of_mem _ hsize, heq⟩
  · intro hcond
    obtain ⟨hformat, size', rfl | hsize, hwidth, hheight⟩ := hcond
    · rw [hwidth, hheight]
      exact ⟨value format, List.mem_append_left _ (List.mem_map_of_mem hformat)⟩
    · obtain ⟨d, hmem⟩ := (h format width height).mpr ⟨hformat, size', hsize, hwidth, hheight⟩
      exact ⟨d, List.mem_append_right _ hmem⟩

theorem configurations_append {entries : List Entry} {sizes : Set Size} {streamConfigTag : ℤ}
    (h : ∀ e, e ∈ entries ↔ ∃ format ∈ halFormats, ∃ size ∈ sizes,
      e = ⟨format, toInt32 size.width, toInt32 size.height, streamConfigTag⟩)
    (size : Size) (e : Entry) :
    e ∈ (halFormats.map fun format ↦
        ⟨format, toInt32 size.width, toInt32 size.height, streamConfigTag⟩) ++ entries ↔
      ∃ format ∈ halFormats, ∃ size' ∈ insert size sizes,
        e = ⟨format, toInt32 size'.width, toInt32 size'.height, streamConfigTag⟩ := by
  constructor
  · intro hmem
    rcases List.mem_append.mp hmem with hmem | hmem
    · obtain ⟨format, hformat, heq⟩ := List.mem_map.mp hmem
      exact ⟨format, hformat, size, Set.mem_insert _ _, heq.symm⟩
    · obtain ⟨format, hformat, size', hsize, heq⟩ := (h e).mp hmem
      exact ⟨format, hformat, size', Set.mem_insert_of_mem _ hsize, heq⟩
  · intro hcond
    obtain ⟨format, hformat, size', rfl | hsize, heq⟩ := hcond
    · exact List.mem_append_left _ (List.mem_map.mpr ⟨format, hformat, heq.symm⟩)
    · exact List.mem_append_right _ ((h e).mpr ⟨format, hformat, size', hsize, heq⟩)

structure Lists (v : Vectors) (streamConfigTag : ℤ) (sizes : Set Size) : Prop where
  streamConfigurations : ∀ e, e ∈ v.streamConfigurations ↔ ∃ format ∈ halFormats, ∃ size ∈ sizes,
    e = ⟨format, toInt32 size.width, toInt32 size.height, streamConfigTag⟩
  minFrameDurations : ∀ format width height : ℤ,
    (∃ value, ⟨format, width, height, value⟩ ∈ v.minFrameDurations) ↔
      format ∈ halFormats ∧ ∃ size ∈ sizes, width = size.width ∧ height = size.height
  stallDurations : ∀ format width height : ℤ,
    (∃ value, ⟨format, width, height, value⟩ ∈ v.stallDurations) ↔
      format ∈ halFormats ∧ ∃ size ∈ sizes, width = size.width ∧ height = size.height

theorem vectors_spec (fourcc : UInt32) (streamConfigTag : ℤ) {formats : List SupportedV4L2Format}
    (h : ∀ fmt ∈ formats, ∀ fr ∈ fmt.frameRates, IsRate fr) :
    ∃ v, vectors fourcc halFormats streamConfigTag formats = some v ∧
      Lists v streamConfigTag (groupSizes formats (some fourcc)) := by
  induction formats with
  | nil =>
    refine ⟨_, rfl, ?_, ?_, ?_⟩ <;> simp [groupSizes]
  | cons fmt rest ih =>
    obtain ⟨hfmt, hrest⟩ := List.forall_mem_cons.mp h
    obtain ⟨v, hv, hlists⟩ := ih hrest
    rw [vectors]
    split
    · rename_i hne
      refine ⟨v, hv, ?_⟩
      rwa [groupSizes_cons_of_ne hne]
    · rename_i heq
      obtain ⟨d, hd⟩ := minDuration_isSome hfmt INT64_MAX
      rw [hd, hv]
      refine ⟨_, rfl, ?_⟩
      rw [groupSizes_cons (not_not.mp heq)]
      exact ⟨configurations_append hlists.streamConfigurations ⟨fmt.width, fmt.height⟩,
        pairs_append hlists.minFrameDurations ⟨fmt.width, fmt.height⟩ fun _ ↦ d,
        pairs_append hlists.stallDurations ⟨fmt.width, fmt.height⟩ stallDuration⟩

/-- A group that is written replaces the sizes that the tags have held. -/
theorem initScalerKeys_shows {formats : List SupportedV4L2Format} (hne : formats ≠ [])
    (h : ∀ fmt ∈ formats, ∀ fr ∈ fmt.frameRates, IsRate fr) (fourcc : UInt32)
    (metadata : Metadata) : ∃ metadata', initScalerKeys formats fourcc metadata = some metadata' ∧
      Shows metadata' (groupSizes formats (some fourcc)) := by
  obtain ⟨v, hv, hconfig, hmin, hstall⟩ := vectors_spec fourcc
    ANDROID_SCALER_AVAILABLE_STREAM_CONFIGURATIONS_OUTPUT h
  rw [initScalerKeys, initOutputCharskeysByFormat, if_neg hne, hv]
  refine ⟨_, rfl, ?_, ?_, ?_⟩
  · simpa using hconfig
  · simpa using hmin
  · simpa using hstall

theorem initIfPresent_shows {formats : List SupportedV4L2Format} (hne : formats ≠ [])
    (h : ∀ fmt ∈ formats, ∀ fr ∈ fmt.frameRates, IsRate fr) (fourcc : UInt32)
    {metadata : Metadata} {last : Option UInt32} (hshows : Shows metadata (groupSizes formats last)) :
    ∃ metadata', initIfPresent formats fourcc metadata = some metadata' ∧
      Shows metadata' (groupSizes formats (if has formats fourcc then some fourcc else last)) := by
  rw [initIfPresent]
  split
  · exact initScalerKeys_shows hne h fourcc metadata
  · exact ⟨metadata, rfl, hshows⟩

theorem initDepthKeys_shows {formats : List SupportedV4L2Format} (hne : formats ≠ [])
    (h : ∀ fmt ∈ formats, ∀ fr ∈ fmt.frameRates, IsRate fr) {metadata : Metadata}
    {sizes : Set Size} (hshows : Shows metadata sizes) :
    ∃ metadata', initDepthKeys formats metadata = some metadata' ∧ Shows metadata' sizes := by
  obtain ⟨v, hv, -⟩ := vectors_spec v4l2PixFmtZ16
    ANDROID_DEPTH_AVAILABLE_DEPTH_STREAM_CONFIGURATIONS_OUTPUT h
  rw [initDepthKeys, initOutputCharskeysByFormat, if_neg hne, hv]
  exact ⟨_, rfl, hshows.congr (by simp) (by simp) (by simp)⟩

/-! ### The rates -/

theorem IsRate.frameRateInt {fr : FrameRate} (h : IsRate fr) :
    frameRateInt fr = some ⌊fr.getDouble⌋ ∧ 2 ≤ ⌊fr.getDouble⌋ := by
  obtain ⟨hlow, hhigh⟩ := h
  have hnum : fr.durationNumerator ≠ 0 := by
    intro hzero
    rw [FrameRate.getDouble, hzero, Nat.cast_zero, div_zero] at hlow
    exact absurd hlow (by decide)
  have hfloor : 2 ≤ ⌊fr.getDouble⌋ := Int.le_floor.mpr (by exact_mod_cast hlow)
  have hmax : ⌊fr.getDouble⌋ < 2 ^ 31 := Int.floor_lt.mpr (by exact_mod_cast hhigh)
  refine ⟨?_, hfloor⟩
  rw [StreamConfigs.frameRateInt, if_neg hnum]
  exact checkInt_of_le (by omega) (by rw [INT_MAX]; omega)

theorem frameRateInt_eq_some {fr : FrameRate} {rate : ℤ} (h : frameRateInt fr = some rate) :
    0 ≤ rate ∧ (2 ≤ rate → IsRate fr) := by
  obtain ⟨-, hcheck⟩ := Option.ite_none_left_eq_some.mp h
  obtain ⟨⟨-, hmax⟩, hrate⟩ := Option.ite_none_right_eq_some.mp hcheck
  cases hrate
  rw [INT_MAX] at hmax
  refine ⟨Int.floor_nonneg.mpr (div_nonneg (Nat.cast_nonneg _) (Nat.cast_nonneg _)), fun hlow ↦ ?_⟩
  have hlow' := Int.le_floor.mp hlow
  have hlt : ⌊fr.getDouble⌋ < 2 ^ 31 := by omega
  have hhigh := Int.floor_lt.mp hlt
  constructor
  · exact_mod_cast hlow'
  · exact_mod_cast hhigh

theorem rateLoop_iff {frameRates : List FrameRate} {minFps : ℤ} {framerates : Finset ℤ} :
    (∃ low all, rateLoop frameRates minFps framerates = some (low, all) ∧ 2 ≤ low) ↔
      2 ≤ minFps ∧ ∀ fr ∈ frameRates, IsRate fr := by
  induction frameRates generalizing minFps framerates with
  | nil =>
    constructor
    · intro h
      obtain ⟨low, all, heq, hlow⟩ := h
      cases heq
      exact ⟨hlow, nofun⟩
    · intro h
      obtain ⟨hlow, -⟩ := h
      exact ⟨minFps, framerates, rfl, hlow⟩
  | cons fr rest ih =>
    rw [rateLoop, List.forall_mem_cons]
    constructor
    · intro h
      obtain ⟨low, all, heq, hlow⟩ := h
      obtain ⟨rate, hrate, heq⟩ := Option.bind_eq_some_iff.mp heq
      obtain ⟨hmin, hrest⟩ := ih.mp ⟨low, all, heq, hlow⟩
      have hboth : 2 ≤ rate ∧ 2 ≤ minFps := by
        split at hmin <;> omega
      exact ⟨hboth.2, (frameRateInt_eq_some hrate).2 hboth.1, hrest⟩
    · intro h
      obtain ⟨hmin, hfr, hrest⟩ := h
      obtain ⟨hrate, hfloor⟩ := hfr.frameRateInt
      rw [hrate, Option.bind_some]
      refine ih.mpr ⟨?_, hrest⟩
      split <;> omega

theorem rateLoop_nonneg {frameRates : List FrameRate} {minFps low : ℤ}
    {framerates all : Finset ℤ} (h : rateLoop frameRates minFps framerates = some (low, all))
    (hmin : 0 ≤ minFps) : 0 ≤ low := by
  induction frameRates generalizing minFps framerates with
  | nil =>
    cases h
    exact hmin
  | cons fr rest ih =>
    obtain ⟨rate, hrate, h⟩ := Option.bind_eq_some_iff.mp h
    refine ih h ?_
    have hnonneg := (frameRateInt_eq_some hrate).1
    split <;> omega

theorem forall_mem_frameRates {formats : List SupportedV4L2Format} :
    (∀ fr ∈ formats.flatMap fun fmt ↦ fmt.frameRates, IsRate fr) ↔
      ∀ fmt ∈ formats, ∀ fr ∈ fmt.frameRates, IsRate fr := by
  simp only [List.mem_flatMap, forall_exists_index, and_imp]
  exact ⟨fun h fmt hfmt fr hfr ↦ h fr fmt hfmt hfr, fun h fr fmt hfmt hfr ↦ h fmt hfmt fr hfr⟩

theorem calculateMinFps_shows {formats : List SupportedV4L2Format}
    (h : ∀ fmt ∈ formats, ∀ fr ∈ fmt.frameRates, IsRate fr) {metadata : Metadata}
    {sizes : Set Size} (hshows : Shows metadata sizes) :
    ∃ metadata', calculateMinFps formats metadata = some metadata' ∧ Shows metadata' sizes := by
  obtain ⟨low, all, heq, hlow⟩ := rateLoop_iff.mpr
    ⟨show (2 : ℤ) ≤ INT_MAX by decide, forall_mem_frameRates.mpr h⟩
  have hne : low.tdiv 2 ≠ 0 := by
    rw [Int.tdiv_eq_ediv_of_nonneg (by omega)]
    omega
  rw [calculateMinFps, heq]
  refine ⟨_, congrArg (Option.bind · _) (if_neg hne), hshows.congr ?_ ?_ ?_⟩ <;> simp

/-- A rate that cannot be halved or cast is divided by, or has no cast. -/
theorem isRate_of_calculateMinFps {formats : List SupportedV4L2Format}
    {metadata metadata' : Metadata} (h : calculateMinFps formats metadata = some metadata') :
    ∀ fmt ∈ formats, ∀ fr ∈ fmt.frameRates, IsRate fr := by
  obtain ⟨⟨low, all⟩, heq, h⟩ := Option.bind_eq_some_iff.mp h
  obtain ⟨d, hd, -⟩ := Option.bind_eq_some_iff.mp h
  obtain ⟨hne, -⟩ := Option.ite_none_left_eq_some.mp hd
  have hnonneg := rateLoop_nonneg heq (by decide)
  rw [Int.tdiv_eq_ediv_of_nonneg hnonneg] at hne
  exact forall_mem_frameRates.mp (rateLoop_iff.mp ⟨low, all, heq, by omega⟩).2

/-! ### The whole function -/

theorem lastWritten_eq (formats : List SupportedV4L2Format) : lastWritten formats =
    if has formats v4l2PixFmtSgrbg16 then some v4l2PixFmtSgrbg16
    else if has formats v4l2PixFmtSgrbg12 then some v4l2PixFmtSgrbg12
    else if has formats v4l2PixFmtSrggb10 then some v4l2PixFmtSrggb10
    else if has formats v4l2PixFmtNv12 then some v4l2PixFmtNv12
    else if has formats v4l2PixFmtMjpeg then some v4l2PixFmtMjpeg
    else if has formats v4l2PixFmtYuyv then some v4l2PixFmtYuyv
    else none := by
  have hcons : ∀ (fourcc : UInt32) (rest : List UInt32), (fourcc :: rest).find? (has formats) =
      if has formats fourcc then some fourcc else rest.find? (has formats) := by
    intro fourcc rest
    rw [List.find?_cons]
    cases has formats fourcc <;> rfl
  rw [lastWritten, scalerFourccs, hcons, hcons, hcons, hcons, hcons, hcons, List.find?_nil]

def Fresh (metadata : Metadata) : Prop :=
  metadata .scalerAvailableStreamConfigurations = none ∧
    metadata .scalerAvailableMinFrameDurations = none ∧
    metadata .scalerAvailableStallDurations = none

theorem Fresh.shows {metadata : Metadata} (h : Fresh metadata)
    (formats : List SupportedV4L2Format) : Shows metadata (groupSizes formats none) := by
  obtain ⟨hconfig, hmin, hstall⟩ := h
  refine ⟨?_, ?_, ?_⟩ <;> simp [Metadata.entries, readEntries, groupSizes, *]

theorem initOutputCharsKeys_shows {formats : List SupportedV4L2Format} (hne : formats ≠ [])
    (h : ∀ fmt ∈ formats, ∀ fr ∈ fmt.frameRates, IsRate fr) {metadata : Metadata}
    (hfresh : Fresh metadata) :
    ∃ metadata', initOutputCharsKeys formats metadata = some (.OK, metadata') ∧
      Shows metadata' (groupSizes formats (lastWritten formats)) := by
  have hdepth : ∃ metadata', (if has formats v4l2PixFmtZ16 then initDepthKeys formats metadata
      else some metadata) = some metadata' ∧ Shows metadata' (groupSizes formats none) := by
    split
    · exact initDepthKeys_shows hne h (hfresh.shows formats)
    · exact ⟨metadata, rfl, hfresh.shows formats⟩
  obtain ⟨metadata₀, heq₀, hshows₀⟩ := hdepth
  have hcolor : ∃ metadata', (if has formats v4l2PixFmtMjpeg then
      initScalerKeys formats v4l2PixFmtMjpeg metadata₀
      else initIfPresent formats v4l2PixFmtYuyv metadata₀) = some metadata' ∧
      Shows metadata' (groupSizes formats (if has formats v4l2PixFmtMjpeg then
        some v4l2PixFmtMjpeg else if has formats v4l2PixFmtYuyv then some v4l2PixFmtYuyv
        else none)) := by
    split
    · exact initScalerKeys_shows hne h _ metadata₀
    · exact initIfPresent_shows hne h _ hshows₀
  obtain ⟨metadata₁, heq₁, hshows₁⟩ := hcolor
  obtain ⟨metadata₂, heq₂, hshows₂⟩ := initIfPresent_shows hne h v4l2PixFmtNv12 hshows₁
  obtain ⟨metadata₃, heq₃, hshows₃⟩ := initIfPresent_shows hne h v4l2PixFmtSrggb10 hshows₂
  obtain ⟨metadata₄, heq₄, hshows₄⟩ := initIfPresent_shows hne h v4l2PixFmtSgrbg12 hshows₃
  obtain ⟨metadata₅, heq₅, hshows₅⟩ := initIfPresent_shows hne h v4l2PixFmtSgrbg16 hshows₄
  obtain ⟨metadata₆, heq₆, hshows₆⟩ := calculateMinFps_shows h hshows₅
  rw [← lastWritten_eq] at hshows₆
  refine ⟨updateArraySizes formats metadata₆, ?_, hshows₆.congr ?_ ?_ ?_⟩
  · rw [initOutputCharsKeys, if_neg hne]
    simp only [heq₀, heq₁, heq₂, heq₃, heq₄, heq₅, heq₆, Option.bind_eq_bind, Option.bind_some]
    rfl
  all_goals simp [updateArraySizes]

theorem isRate_of_initOutputCharsKeys {formats : List SupportedV4L2Format} {status : InitStatus}
    {metadata metadata' : Metadata}
    (h : initOutputCharsKeys formats metadata = some (status, metadata')) :
    ∀ fmt ∈ formats, ∀ fr ∈ fmt.frameRates, IsRate fr := by
  rw [initOutputCharsKeys] at h
  split at h
  · rename_i hnil
    rw [hnil]
    nofun
  · obtain ⟨_, _, h⟩ := Option.bind_eq_some_iff.mp h
    obtain ⟨_, _, h⟩ := Option.bind_eq_some_iff.mp h
    obtain ⟨_, _, h⟩ := Option.bind_eq_some_iff.mp h
    obtain ⟨_, _, h⟩ := Option.bind_eq_some_iff.mp h
    obtain ⟨_, _, h⟩ := Option.bind_eq_some_iff.mp h
    obtain ⟨_, _, h⟩ := Option.bind_eq_some_iff.mp h
    obtain ⟨_, hcalculate, _⟩ := Option.bind_eq_some_iff.mp h
    exact isRate_of_calculateMinFps hcalculate

/-- Sizes are of the type `uint32_t`. -/
def HasSizes (formats : List SupportedV4L2Format) : Prop :=
  ∀ fmt ∈ formats, fmt.width < 2 ^ 32 ∧ fmt.height < 2 ^ 32

theorem isSupportedFormat_of_mem {stream : Stream} {format : ℤ} (h : format ∈ halFormats)
    (hformat : stream.format = pixelFormat format)
    (hblob : stream.format = .blob → stream.dataSpace = v0Jfif) (depthEnabled : Bool) :
    isSupportedFormat stream depthEnabled = true := by
  have hall : ∀ format ∈ halFormats, pixelFormat format = .blob ∨
      pixelFormat format = .ycbcr420_888 ∨ pixelFormat format = .implementationDefined ∨
      pixelFormat format = .raw10 ∨ pixelFormat format = .raw12 ∨ pixelFormat format = .raw16 := by
    decide
  have hcases := hall format h
  rw [← hformat] at hcases
  rcases hcases with hf | hf | hf | hf | hf | hf
  · rw [isSupportedFormat, hf]
    exact decide_eq_true (hblob hf)
  all_goals rw [isSupportedFormat, hf]

theorem isStreamCombinationSupported_singleton {stream : Stream}
    {formats : List SupportedV4L2Format} {depthEnabled : Bool}
    (h : isSupported stream formats depthEnabled = true) :
    isStreamCombinationSupported ⟨[stream], .normalMode⟩ formats depthEnabled = .ok := by
  have hall : [stream].all (isSupported · formats depthEnabled) = true := by
    rw [List.all_cons, h]
    rfl
  have hcount : ∀ (p : Stream → Bool) (n : ℕ), 1 ≤ n → ¬ n < [stream].countP p := by
    intro p n hn
    have hle := List.countP_le_length (p := p) (l := [stream])
    rw [List.length_singleton] at hle
    omega
  rw [isStreamCombinationSupported, if_neg (not_not.mpr rfl), if_neg (List.cons_ne_nil _ _),
    if_neg (not_not.mpr hall), if_neg (hcount _ _ (by decide)), if_neg (hcount _ _ (by decide))]

theorem Shows.accepts {formats : List SupportedV4L2Format} {metadata : Metadata}
    {fourcc : Option UInt32} (h : Shows metadata (groupSizes formats fourcc))
    (hsizes : HasSizes formats) : Accepts metadata formats := by
  intro stream depthEnabled format htype hrotation hformat hblob hwidth hheight hmem
  obtain ⟨format', hhal, size, ⟨fmt, hfmt, -, rfl⟩, heq⟩ := (h.streamConfigurations _).mp hmem
  obtain ⟨rfl, hwidth', hheight', -⟩ := Entry.mk.inj heq
  have hsize : stream.width = fmt.width ∧ stream.height = fmt.height :=
    ⟨toInt32_inj hwidth' hwidth (hsizes fmt hfmt).1,
      toInt32_inj hheight' hheight (hsizes fmt hfmt).2⟩
  have hany : (formats.any fun v4l2Fmt ↦
      stream.width = v4l2Fmt.width ∧ stream.height = v4l2Fmt.height) = true :=
    List.any_eq_true.mpr ⟨fmt, hfmt, decide_eq_true hsize⟩
  apply isStreamCombinationSupported_singleton
  rw [isSupported, hany, isSupportedFormat_of_mem hhal hformat hblob]
  simp [htype, hrotation]

theorem scalerSizes_eq_iff (formats : List SupportedV4L2Format) :
    groupSizes formats (lastWritten formats) = scalerSizes formats ↔
      ∀ fmt ∈ formats, fmt.fourcc ∈ scalerFourccs → ∃ fmt' ∈ formats,
        lastWritten formats = some fmt'.fourcc ∧ fmt'.width = fmt.width ∧
          fmt'.height = fmt.height := by
  constructor
  · intro h fmt hfmt hscaler
    have hmem : (⟨fmt.width, fmt.height⟩ : Size) ∈ scalerSizes formats := ⟨fmt, hfmt, hscaler, rfl⟩
    rw [← h] at hmem
    obtain ⟨fmt', hfmt', hlast, hsize⟩ := hmem
    obtain ⟨hwidth, hheight⟩ := Size.mk.inj hsize
    exact ⟨fmt', hfmt', hlast, hwidth.symm, hheight.symm⟩
  · intro h
    ext size
    constructor
    · intro hcond
      obtain ⟨fmt, hfmt, hlast, hsize⟩ := hcond
      exact ⟨fmt, hfmt, List.mem_of_find?_eq_some hlast, hsize⟩
    · intro hcond
      obtain ⟨fmt, hfmt, hscaler, rfl⟩ := hcond
      obtain ⟨fmt', hfmt', hlast, hwidth, hheight⟩ := h fmt hfmt hscaler
      exact ⟨fmt', hfmt', hlast, by rw [hwidth, hheight]⟩

/-- The metadata advertise every supported size if and only if no rate makes the function divide
by zero and the group that is written last has the sizes of the others. -/
theorem advertises_iff {formats : List SupportedV4L2Format} {metadata : Metadata}
    (hsizes : HasSizes formats) (hfresh : Fresh metadata) :
    (∃ status metadata', initOutputCharsKeys formats metadata = some (status, metadata') ∧
      Advertises metadata' formats) ↔
      (∀ fmt ∈ formats, ∀ fr ∈ fmt.frameRates, IsRate fr) ∧
        ∀ fmt ∈ formats, fmt.fourcc ∈ scalerFourccs → ∃ fmt' ∈ formats,
          lastWritten formats = some fmt'.fourcc ∧ fmt'.width = fmt.width ∧
            fmt'.height = fmt.height := by
  rw [← scalerSizes_eq_iff]
  by_cases hnil : formats = []
  · subst hnil
    have hnone : groupSizes [] none = scalerSizes [] := (scalerSizes_eq_iff []).mpr nofun
    refine ⟨fun _ ↦ ⟨nofun, hnone⟩, fun _ ↦ ⟨.UNKNOWN_ERROR, metadata, rfl, ?_, ?_⟩⟩
    · exact hnone ▸ hfresh.shows []
    · exact (hfresh.shows []).accepts hsizes
  constructor
  · intro h
    obtain ⟨status, metadata', heq, hadvertises⟩ := h
    have hrates := isRate_of_initOutputCharsKeys heq
    obtain ⟨metadata'', heq', hshows⟩ := initOutputCharsKeys_shows hnil hrates hfresh
    cases heq'.symm.trans heq
    exact ⟨hrates, hshows.unique hadvertises.shows⟩
  · intro h
    obtain ⟨hrates, hlast⟩ := h
    obtain ⟨metadata', heq, hshows⟩ := initOutputCharsKeys_shows hnil hrates hfresh
    exact ⟨.OK, metadata', heq, hlast ▸ hshows, hshows.accepts hsizes⟩

def getCandidateSupportedFormatsLocked (mSubDevice : Bool) : List SupportedV4L2Format :=
  let width := if mSubDevice then 1280 / 2 else 1280
  let height := if mSubDevice then 800 / 2 else 800
  let fr : FrameRate := ⟨1, 30⟩
  [⟨width, height, v4l2PixFmtSgrbg16, [fr]⟩, ⟨width, height, v4l2PixFmtSrggb10, [fr]⟩,
    ⟨width, height, v4l2PixFmtNv12, [fr]⟩]

theorem advertises_iff_candidates :
    (∃ status metadata', initOutputCharsKeys (getCandidateSupportedFormatsLocked false)
        (fun _ ↦ none) = some (status, metadata') ∧
      Advertises metadata' (getCandidateSupportedFormatsLocked false)) ↔
      (∀ fmt ∈ getCandidateSupportedFormatsLocked false, ∀ fr ∈ fmt.frameRates, IsRate fr) ∧
        ∀ fmt ∈ getCandidateSupportedFormatsLocked false, fmt.fourcc ∈ scalerFourccs →
          ∃ fmt' ∈ getCandidateSupportedFormatsLocked false,
            lastWritten (getCandidateSupportedFormatsLocked false) = some fmt'.fourcc ∧
              fmt'.width = fmt.width ∧ fmt'.height = fmt.height :=
  advertises_iff (by unfold HasSizes; decide) ⟨rfl, rfl, rfl⟩

theorem isRate_thirty : IsRate ⟨1, 30⟩ := by
  constructor <;> norm_num [FrameRate.getDouble]

/-- The device's own list has one size, so none is lost. -/
theorem advertises_candidates (mSubDevice : Bool) {metadata : Metadata} (hfresh : Fresh metadata) :
    ∃ metadata', initOutputCharsKeys (getCandidateSupportedFormatsLocked mSubDevice) metadata =
      some (.OK, metadata') ∧
      Advertises metadata' (getCandidateSupportedFormatsLocked mSubDevice) := by
  have hall : ∀ fmt ∈ getCandidateSupportedFormatsLocked mSubDevice,
      fmt.frameRates = [⟨1, 30⟩] ∧ fmt.width < 2 ^ 32 ∧ fmt.height < 2 ^ 32 := by
    cases mSubDevice <;> decide
  have hrates : ∀ fmt ∈ getCandidateSupportedFormatsLocked mSubDevice,
      ∀ fr ∈ fmt.frameRates, IsRate fr := by
    intro fmt hfmt fr hfr
    rw [(hall fmt hfmt).1, List.mem_singleton] at hfr
    rw [hfr]
    exact isRate_thirty
  have hsizes : HasSizes (getCandidateSupportedFormatsLocked mSubDevice) :=
    fun fmt hfmt ↦ (hall fmt hfmt).2
  have hlast := (scalerSizes_eq_iff (getCandidateSupportedFormatsLocked mSubDevice)).mpr (by
    cases mSubDevice <;> decide)
  obtain ⟨metadata', heq, hshows⟩ := initOutputCharsKeys_shows
    (List.cons_ne_nil _ _) hrates hfresh
  exact ⟨metadata', heq, hlast ▸ hshows, hshows.accepts hsizes⟩

def twoSizes : List SupportedV4L2Format :=
  [⟨1280, 720, v4l2PixFmtMjpeg, [⟨1, 30⟩]⟩, ⟨640, 480, v4l2PixFmtNv12, [⟨1, 30⟩]⟩]

theorem not_advertises_twoSizes :
    (∃ metadata', initOutputCharsKeys twoSizes (fun _ ↦ none) = some (.OK, metadata') ∧
      Shows metadata' {⟨640, 480⟩}) ∧
    ¬ ∃ status metadata', initOutputCharsKeys twoSizes (fun _ ↦ none) = some (status, metadata') ∧
      Advertises metadata' twoSizes := by
  have hrates : ∀ fmt ∈ twoSizes, ∀ fr ∈ fmt.frameRates, IsRate fr := by
    have hall : ∀ fmt ∈ twoSizes, fmt.frameRates = [⟨1, 30⟩] := by decide
    intro fmt hfmt fr hfr
    rw [hall fmt hfmt, List.mem_singleton] at hfr
    rw [hfr]
    exact isRate_thirty
  have hlast : groupSizes twoSizes (lastWritten twoSizes) = {⟨640, 480⟩} := by
    ext size
    constructor
    · intro h
      obtain ⟨fmt, hfmt, hlast, rfl⟩ := h
      revert hlast
      revert fmt
      decide
    · rintro rfl
      exact ⟨⟨640, 480, v4l2PixFmtNv12, [⟨1, 30⟩]⟩, by decide, by decide, rfl⟩
  obtain ⟨metadata', heq, hshows⟩ := initOutputCharsKeys_shows (List.cons_ne_nil _ _) hrates
    (show Fresh fun _ ↦ none from ⟨rfl, rfl, rfl⟩)
  refine ⟨⟨metadata', heq, hlast ▸ hshows⟩, ?_⟩
  intro h
  obtain ⟨status, metadata'', heq', hadvertises⟩ := h
  cases heq.symm.trans heq'
  have hall := (scalerSizes_eq_iff twoSizes).mp (hshows.unique hadvertises.shows)
  revert hall
  decide

end VirtualCamera.Session.StreamConfigs
