import VirtualCamera.Library.Assoc
import VirtualCamera.Session.Capture

namespace VirtualCamera.Session.Streams

open Library.Assoc Capture

/-! ### Streams and their formats -/

inductive Status
  | ok
  | illegalArgument
  | internalError
  deriving DecidableEq, Repr

inductive PixelFormat
  | implementationDefined
  | ycbcr420_888
  | yv12
  | ycrcb420Sp
  | blob
  | y16
  | raw10
  | raw12
  | raw16
  | other (code : UInt32)
  deriving DecidableEq, Repr, Inhabited

inductive StreamType
  | output
  | input
  deriving DecidableEq, Repr, Inhabited

inductive StreamRotation
  | rotation0
  | rotation90
  | rotation180
  | rotation270
  deriving DecidableEq, Repr, Inhabited

inductive StreamConfigurationMode
  | normalMode
  | constrainedHighSpeedMode
  | vendorMode (code : UInt32)
  deriving DecidableEq, Repr

inductive CroppingType
  | horizontal
  | vertical
  deriving DecidableEq, Repr

structure Size where
  width : ℕ
  height : ℕ
  deriving DecidableEq, Repr, Inhabited

/-- A `uint32_t` product. -/
def Size.area (sz : Size) : ℕ := sz.width * sz.height % 2 ^ 32

structure Stream where
  id : ℤ
  streamType : StreamType
  width : ℕ
  height : ℕ
  format : PixelFormat
  usage : UInt64
  dataSpace : UInt32
  rotation : StreamRotation
  deriving DecidableEq, Repr, Inhabited

def Stream.size (stream : Stream) : Size := ⟨stream.width, stream.height⟩

structure StreamConfiguration where
  streams : List Stream
  operationMode : StreamConfigurationMode
  deriving DecidableEq, Repr

structure HalStream where
  id : ℤ
  overrideFormat : PixelFormat
  overrideDataSpace : UInt32
  producerUsage : UInt64
  consumerUsage : UInt64
  maxBuffers : ℕ
  deriving DecidableEq, Repr

def kMaxProcessedStream : ℕ := 3
def kMaxStallStream : ℕ := 1

def v0Jfif : UInt32 := 0x8C20000
def depth : UInt32 := 0x1000

def v4l2Fourcc (a b c d : Char) : UInt32 :=
  a.val ||| (b.val <<< 8) ||| (c.val <<< 16) ||| (d.val <<< 24)

def v4l2PixFmtMjpeg : UInt32 := v4l2Fourcc 'M' 'J' 'P' 'G'
def v4l2PixFmtSrggb10 : UInt32 := v4l2Fourcc 'R' 'G' '1' '0'

def isSupportedFormat (stream : Stream) (depthEnabled : Bool) : Bool :=
  match stream.format with
  | .blob => stream.dataSpace = v0Jfif
  | .implementationDefined | .ycbcr420_888 | .yv12 | .ycrcb420Sp => true
  | .y16 => depthEnabled && decide (stream.dataSpace &&& depth ≠ 0)
  | .raw10 | .raw12 | .raw16 => true
  | .other _ => false

def isSupported (stream : Stream) (supportedFormats : List SupportedV4L2Format)
    (depthEnabled : Bool) : Bool :=
  stream.streamType = .output && stream.rotation = .rotation0 &&
    isSupportedFormat stream depthEnabled &&
    supportedFormats.any fun v4l2Fmt ↦
      stream.width = v4l2Fmt.width ∧ stream.height = v4l2Fmt.height

def isStreamCombinationSupported (config : StreamConfiguration)
    (supportedFormats : List SupportedV4L2Format) (depthEnabled : Bool) : Status :=
  if config.operationMode ≠ .normalMode then .illegalArgument
  else if config.streams = [] then .illegalArgument
  else if ¬ config.streams.all (isSupported · supportedFormats depthEnabled) then .illegalArgument
  else if kMaxProcessedStream < config.streams.countP (fun stream ↦ stream.format ≠ .blob) then
    .illegalArgument
  else if kMaxStallStream < config.streams.countP (fun stream ↦ stream.format = .blob) then
    .illegalArgument
  else .ok

/-! ### The stream map and the imported buffers -/

/-- Buffer id to imported handle. -/
abbrev CirculatingBuffers := Map UInt64 ℕ

def CirculatingBuffers.handles (buffers : CirculatingBuffers) : List ℕ :=
  buffers.entries.map fun entry ↦ entry.snd

/-- `freed` lists the handles given to `freeBuffer`, in order. -/
structure StreamMaps where
  streamMap : Map ℤ Stream
  circulatingBuffers : Map ℤ CirculatingBuffers
  freed : List ℕ
  deriving DecidableEq

def StreamMaps.addStream (m : StreamMaps) (stream : Stream) : StreamMaps :=
  if stream.id ∈ m.streamMap then m
  else
    { m with
      streamMap := m.streamMap.insert stream.id stream
      circulatingBuffers := emplace stream.id ∅ m.circulatingBuffers }

def StreamMaps.addStreams (m : StreamMaps) (streams : List Stream) : StreamMaps :=
  streams.foldl addStream m

/-- The checked `at` throws when the id has no entry; no result stands for that. -/
def StreamMaps.cleanupBuffersLocked (m : StreamMaps) (id : ℤ) : Option StreamMaps :=
  (m.circulatingBuffers.lookup id).map fun buffers ↦
    { m with
      circulatingBuffers := m.circulatingBuffers.erase id
      freed := m.freed ++ buffers.handles }

def Requested (streams : List Stream) (id : ℤ) : Prop := ∃ stream ∈ streams, id = stream.id

instance (streams : List Stream) : DecidablePred (Requested streams) := fun id ↦
  inferInstanceAs (Decidable (∃ stream ∈ streams, id = stream.id))

/-- The loop over the keys of the stream map, erasing on the way. -/
def StreamMaps.removeStreams (m : StreamMaps) (streams : List Stream) :
    (ids : List ℤ) → Option StreamMaps
  | [] => some m
  | id :: ids =>
    if Requested streams id then m.removeStreams streams ids
    else
      (m.cleanupBuffersLocked id).bind fun m ↦
        { m with streamMap := m.streamMap.erase id }.removeStreams streams ids

def StreamMaps.edit (m : StreamMaps) (streams : List Stream) : Option StreamMaps :=
  let m := m.addStreams streams
  m.removeStreams streams m.streamMap.keys

/-! ### The choice of a format -/

/-- The `float` operations on aspect ratios. -/
structure AspectArith (F : Type*) where
  ratio : ℕ → ℕ → F
  lt : F → F → Bool
  isAspectRatioClose : F → F → Bool
  kMaxAspectRatio : F
  kMinAspectRatio : F

def AspectArith.exact : AspectArith ℚ where
  ratio w h := w / h
  lt a b := a < b
  isAspectRatioClose a b := |a - b| < 1 / 40
  kMaxAspectRatio := (2 ^ 24 - 1) * 2 ^ 104
  kMinAspectRatio := 1

section Selection

variable {F : Type*} (ar : AspectArith F) (ct : CroppingType)

def AspectArith.beyond (aspectRatio desiredAr : F) : Bool :=
  match ct with
  | .vertical => ar.lt aspectRatio desiredAr
  | .horizontal => ar.lt desiredAr aspectRatio

/-- The dimension that's not cropped. -/
def CroppingType.dim (width height : ℕ) : ℕ :=
  match ct with
  | .vertical => width
  | .horizontal => height

def desiredAspectRatio (streams : List Stream) : F :=
  streams.foldl
    (fun desiredAr stream ↦
      let aspectRatio := ar.ratio stream.width stream.height
      if ar.beyond ct aspectRatio desiredAr then aspectRatio else desiredAr)
    (match ct with
      | .vertical => ar.kMaxAspectRatio
      | .horizontal => ar.kMinAspectRatio)

def maxDimension (streams : List Stream) : ℕ :=
  streams.foldl (fun maxDim stream ↦ max maxDim (ct.dim stream.width stream.height)) 0

/-- The first search: each match replaces the one before, and a match with one of
two pixel formats ends it. -/
def matchingFormat (desiredAr : F) (maxDim : ℕ) (found : SupportedV4L2Format) :
    List SupportedV4L2Format → SupportedV4L2Format
  | [] => found
  | fmt :: rest =>
    if maxDim ≤ ct.dim fmt.width fmt.height ∧
        ar.isAspectRatioClose (ar.ratio fmt.width fmt.height) desiredAr then
      if fmt.fourcc = v4l2PixFmtMjpeg ∨ fmt.fourcc = v4l2PixFmtSrggb10 then fmt
      else matchingFormat desiredAr maxDim fmt rest
    else matchingFormat desiredAr maxDim found rest

def croppableFormat (desiredAr : F) (maxDim : ℕ) (supportedFormats : List SupportedV4L2Format) :
    Option SupportedV4L2Format :=
  supportedFormats.find? fun fmt ↦
    maxDim ≤ ct.dim fmt.width fmt.height ∧
      ar.beyond ct (ar.ratio fmt.width fmt.height) desiredAr

/-- Width 0 stands for no format. -/
def selectFormat (streams : List Stream) (supportedFormats : List SupportedV4L2Format) :
    SupportedV4L2Format :=
  let desiredAr := desiredAspectRatio ar ct streams
  let maxDim := maxDimension ct streams
  let none := ⟨0, 0, 0, []⟩
  let v4l2Fmt := matchingFormat ar ct desiredAr maxDim none supportedFormats
  if v4l2Fmt.width = 0 then (croppableFormat ar ct desiredAr maxDim supportedFormats).getD v4l2Fmt
  else v4l2Fmt

end Selection

/-! ### Intermediate buffers -/

structure AllocatedFrame where
  width : ℕ
  height : ℕ
  dataSize : ℕ
  deriving DecidableEq, Repr

def AllocatedFrame.ofSize (sz : Size) : AllocatedFrame := ⟨sz.width, sz.height, 0⟩

def AllocatedFrame.allocate (f : AllocatedFrame) : Bool × AllocatedFrame :=
  if f.width % 2 ≠ 0 ∨ f.height % 2 ≠ 0 then (false, f)
  else (true, { f with dataSize := f.width * f.height * 3 % 2 ^ 32 / 2 })

/-- The part of the output thread's state that `allocateIntermediateBuffers` uses. -/
structure OutputBuffers where
  yu12Frame : Option AllocatedFrame
  yu12ThumbFrame : Option AllocatedFrame
  intermediateBuffers : Map Size AllocatedFrame
  scaledYu12Frames : Map Size AllocatedFrame
  blobBufferSize : ℕ
  deriving DecidableEq

/-- A frame of the wrong size, or none, is replaced by a new one, which stays in
place when it cannot be allocated. -/
def reallocate (f : Option AllocatedFrame) (sz : Size) : Bool × Option AllocatedFrame :=
  match f with
  | some f =>
    if f.width ≠ sz.width ∨ f.height ≠ sz.height then
      Prod.map id some (AllocatedFrame.ofSize sz).allocate
    else (true, some f)
  | none => Prod.map id some (AllocatedFrame.ofSize sz).allocate

def allocateScaled (v4lSize : Size) (buffers : Map Size AllocatedFrame) :
    List Stream → Bool × Map Size AllocatedFrame
  | [] => (true, buffers)
  | stream :: streams =>
    if stream.size = v4lSize then allocateScaled v4lSize buffers streams
    else if stream.size ∈ buffers then allocateScaled v4lSize buffers streams
    else
      match (AllocatedFrame.ofSize stream.size).allocate with
      | (false, _) => (false, buffers)
      | (true, buf) => allocateScaled v4lSize (buffers.insert stream.size buf) streams

def removeUnconfigured (streams : List Stream) (buffers : Map Size AllocatedFrame) :
    Map Size AllocatedFrame :=
  eraseAll (buffers.keys.filter fun sz ↦ ¬ ∃ stream ∈ streams, stream.size = sz) buffers

def OutputBuffers.allocateIntermediateBuffers (b : OutputBuffers) (v4lSize thumbSize : Size)
    (streams : List Stream) (blobBufferSize : ℕ) : Status × OutputBuffers :=
  if b.scaledYu12Frames.keys ≠ [] then (.internalError, b)
  else
    match reallocate b.yu12Frame v4lSize with
    | (false, f) => (.internalError, { b with yu12Frame := f })
    | (true, f) =>
      let b := { b with yu12Frame := f }
      match reallocate b.yu12ThumbFrame thumbSize with
      | (false, f) => (.internalError, { b with yu12ThumbFrame := f })
      | (true, f) =>
        let b := { b with yu12ThumbFrame := f }
        match allocateScaled v4lSize b.intermediateBuffers streams with
        | (false, buffers) => (.internalError, { b with intermediateBuffers := buffers })
        | (true, buffers) =>
          (.ok, { b with
            intermediateBuffers := removeUnconfigured streams buffers
            blobBufferSize := blobBufferSize })

/-! ### Configuring the streams -/

/-- Of a request's settings, the entry of the target frame rate range. -/
structure Setting where
  aeTargetFpsRange : List ℤ
  deriving DecidableEq, Repr

structure DeviceSession where
  supportedFormats : List SupportedV4L2Format
  croppingType : CroppingType
  depthEnabled : Bool
  thumbnailSizes : List Size
  maxThumbResolution : Size
  initFail : Bool
  closed : Bool
  firstRequest : Bool
  latestReqSetting : Setting
  inflightFrames : Finset ℕ
  maps : StreamMaps
  v4l2 : V4l2
  blobBufferSize : ℕ
  output : OutputBuffers
  deriving DecidableEq

def DeviceSession.initStatus (s : DeviceSession) : Status :=
  if s.initFail ∨ s.closed then .internalError else .ok

def DeviceSession.thumbSize (s : DeviceSession) : Size :=
  s.thumbnailSizes.foldl (fun thumbSize sz ↦ if thumbSize.area < sz.area then sz else thumbSize)
    ⟨0, 0⟩

def cpuWriteOften : UInt64 := 0x30
def cameraOutput : UInt64 := 0x20000
def grallocUsageSwReadOften : UInt64 := 0x3
def grallocUsageSwWriteNever : UInt64 := 0x0
def grallocUsageHwVideoEncoder : UInt64 := 0x10000
def grallocUsageHwCameraWrite : UInt64 := 0x20000
def rkGrallocUsageSpecifyStride : UInt64 := 0x40000000
def grallocUsagePrivate1 : UInt64 := 0x20000000

def producerUsage (usage : UInt64) : UInt64 :=
  usage ||| cpuWriteOften ||| cameraOutput ||| grallocUsageSwReadOften |||
    grallocUsageSwWriteNever ||| grallocUsageHwVideoEncoder ||| grallocUsageHwCameraWrite |||
    rkGrallocUsageSpecifyStride ||| grallocUsagePrivate1

def overrideFormat : PixelFormat → Option PixelFormat
  | .other _ => none
  | format => some format

/-- The loop that fills the result, up to the first format it does not know. -/
def overrideStreams (maxBuffers : ℕ) (streamMap : Map ℤ Stream) :
    List Stream → Status × List HalStream × Map ℤ Stream
  | [] => (.ok, [], streamMap)
  | stream :: streams =>
    let usage := producerUsage stream.usage
    let entry := { (streamMap.lookup stream.id).getD default with usage := usage }
    match overrideFormat stream.format with
    | none => (.illegalArgument, [], streamMap.insert stream.id entry)
    | some format =>
      let entry :=
        if stream.format = .implementationDefined then { entry with format := format } else entry
      let (status, out, streamMap) :=
        overrideStreams maxBuffers (streamMap.insert stream.id entry) streams
      (status, ⟨stream.id, format, stream.dataSpace, usage, 0, maxBuffers⟩ :: out, streamMap)

variable {F : Type*} (ar : AspectArith F)

def DeviceSession.program (s : DeviceSession) (config : StreamConfiguration) (blobBufferSize : ℕ)
    (o : ConfigureOutcome) : Status × List HalStream × DeviceSession :=
  let v4l2Fmt := selectFormat ar s.croppingType config.streams s.supportedFormats
  if v4l2Fmt.width = 0 then (.illegalArgument, [], s)
  else
    match s.v4l2.configureV4l2StreamLocked v4l2Fmt 0 o with
    | (.error _, _, v) => (.internalError, [], { s with v4l2 := v })
    | (.ok (), v4l2Fmt, v) =>
      let s := { s with v4l2 := v }
      if s.thumbSize.area = 0 then (.internalError, [], s)
      else
        let s := { s with blobBufferSize := blobBufferSize }
        match s.output.allocateIntermediateBuffers ⟨v4l2Fmt.width, v4l2Fmt.height⟩
            s.maxThumbResolution config.streams blobBufferSize with
        | (.ok, output) =>
          let s := { s with output := output }
          match overrideStreams s.v4l2.bufferCount s.maps.streamMap config.streams with
          | (.ok, out, streamMap) =>
            (.ok, out, { s with maps := { s.maps with streamMap := streamMap }, firstRequest := true })
          | (status, out, streamMap) =>
            (status, out, { s with maps := { s.maps with streamMap := streamMap } })
        | (status, output) => (status, [], { s with output := output })

/-- No result: an exception left the function. -/
def DeviceSession.configureStreams (s : DeviceSession) (config : StreamConfiguration) (blobBufferSize : ℕ)
    (o : ConfigureOutcome) : Option (Status × List HalStream × DeviceSession) :=
  if isStreamCombinationSupported config s.supportedFormats s.depthEnabled ≠ .ok then
    some (isStreamCombinationSupported config s.supportedFormats s.depthEnabled, [], s)
  else if s.initStatus ≠ .ok then some (s.initStatus, [], s)
  else if s.inflightFrames ≠ ∅ then some (.internalError, [], s)
  else
    (s.maps.edit config.streams).map fun maps ↦
      { s with maps := maps }.program ar config blobBufferSize o

end VirtualCamera.Session.Streams
