import VirtualCamera.Session.Streams

namespace VirtualCamera.Session.Request

open Library.Assoc Capture Streams

/-! ### Requests -/

structure V4L2Frame where
  width : ℕ
  height : ℕ
  fourcc : UInt32
  bufferIndex : ℕ
  deriving DecidableEq, Repr

/-- `buffer` is what `bufPtr` points at. -/
structure HalStreamBuffer where
  streamId : ℤ
  bufferId : UInt64
  width : ℕ
  height : ℕ
  format : PixelFormat
  usage : UInt64
  buffer : Option ℕ
  acquireFence : ℤ
  fenceTimeout : Bool
  deriving DecidableEq, Repr

/-- A shared object; `id` tells the objects apart, in the order of their creation. -/
structure HalRequest where
  id : ℕ
  frameNumber : ℕ
  setting : Setting
  frameIn : V4L2Frame
  shutterTs : ℤ
  buffers : List HalStreamBuffer
  shareFd : ℕ
  deriving DecidableEq, Repr

structure OutputBuffer where
  streamId : ℤ
  bufferId : UInt64
  deriving DecidableEq, Repr

structure CaptureRequest where
  frameNumber : ℕ
  inputStreamId : ℤ
  outputBuffers : List OutputBuffer
  deriving DecidableEq, Repr

inductive ReadSettings
  | corrupt
  | null
  | settings (setting : Setting)
  deriving DecidableEq, Repr

/-- What the calls out of `processOneCaptureRequest` return: the settings as read, the wait
for an idle pipeline, the driver's answers, the import of the buffers (by position) and the
dequeued frame. -/
structure RequestOutcome where
  settings : ReadSettings
  idle : Bool
  configure : ConfigureOutcome
  importStatus : Status
  handle : ℕ → Option ℕ
  fence : ℕ → ℤ
  frame : Option (V4L2Frame × ℤ)

/-- The loop over the frame rates: whether one is within 1 of the requested rate, and
else the closest one. -/
def closestFps (requestFpsMax : ℚ) (fpsError closest : ℚ) : List FrameRate → Option ℚ
  | [] => some closest
  | fr :: rest =>
    let f := fr.getDouble
    if |requestFpsMax - f| < 1 then none
    else if |requestFpsMax - f| < fpsError then
      closestFps requestFpsMax |requestFpsMax - f| f rest
    else closestFps requestFpsMax fpsError closest rest

/-- The stream is configured anew when the settings ask for another frame rate; whether
that works is ignored, and the format is passed by reference. No session is returned when the
pipeline does not get idle. -/
def adjustFps (s : DeviceSession) (o : RequestOutcome) : Option DeviceSession :=
  match s.latestReqSetting.aeTargetFpsRange with
  | [_, fpsMax] =>
    let requestFpsMax := (closestFps fpsMax 1000 0 s.v4l2.streamingFmt.frameRates).getD fpsMax
    if requestFpsMax ≠ s.v4l2.streamingFps then
      if ¬ o.idle then none
      else
        let (_, fmt, v) :=
          s.v4l2.configureV4l2StreamLocked s.v4l2.streamingFmt requestFpsMax o.configure
        some { s with v4l2 := { v with streamingFmt := fmt } }
    else some s
  | _ => some s

/-- The lookup of a stream inserts an entry when there is none. -/
def lookupStream (streamMap : Map ℤ Stream) (id : ℤ) : Stream × Map ℤ Stream :=
  ((streamMap.lookup id).getD default, emplace id default streamMap)

def fillBuffers (o : RequestOutcome) (streamMap : Map ℤ Stream) (i : ℕ) :
    List OutputBuffer → List HalStreamBuffer × Map ℤ Stream
  | [] => ([], streamMap)
  | buf :: rest =>
    let (stream, streamMap) := lookupStream streamMap buf.streamId
    let (bufs, streamMap) := fillBuffers o streamMap (i + 1) rest
    (⟨buf.streamId, buf.bufferId, stream.width, stream.height, stream.format, stream.usage,
      o.handle i, o.fence i, false⟩ :: bufs, streamMap)

/-- From the check of the output buffers on. -/
def buildRequest (s : DeviceSession) (id : ℕ) (request : CaptureRequest) (o : RequestOutcome) :
    Status × Option HalRequest × DeviceSession :=
  if request.outputBuffers = [] then (.illegalArgument, none, s)
  else
    match adjustFps s o with
    | none => (.internalError, none, s)
    | some s =>
      if o.importStatus ≠ .ok then (o.importStatus, none, s)
      else
        match o.frame with
        | none => (.internalError, none, s)
        | some (frameIn, shutterTs) =>
          let (buffers, streamMap) := fillBuffers o s.maps.streamMap 0 request.outputBuffers
          (.ok, some ⟨id, request.frameNumber, s.latestReqSetting, frameIn, shutterTs, buffers, 0⟩,
            { s with
              maps := { s.maps with streamMap := streamMap }
              inflightFrames := insert request.frameNumber s.inflightFrames })

/-- Up to the submission; the request is there when it has been accepted. -/
def processOneCaptureRequest (s : DeviceSession) (id : ℕ) (request : CaptureRequest)
    (o : RequestOutcome) : Status × Option HalRequest × DeviceSession :=
  if s.initStatus ≠ .ok then (s.initStatus, none, s)
  else if request.inputStreamId ≠ -1 then (.illegalArgument, none, s)
  else if ¬ s.v4l2.streaming then (.internalError, none, s)
  else
    match o.settings with
    | .corrupt => (.illegalArgument, none, s)
    | .null => if s.firstRequest then (.illegalArgument, none, s) else buildRequest s id request o
    | .settings setting => buildRequest { s with latestReqSetting := setting } id request o

/-! ### What is done for a request in the end -/

inductive ErrorCode
  | errorDevice
  | errorRequest
  | errorBuffer
  deriving DecidableEq, Repr

inductive BufferStatus
  | ok
  | error
  deriving DecidableEq, Repr

structure ResultBuffer where
  streamId : ℤ
  bufferId : UInt64
  status : BufferStatus
  releaseFence : Option ℤ
  deriving DecidableEq, Repr

structure CaptureResult where
  frameNumber : ℕ
  outputBuffers : List ResultBuffer
  deriving DecidableEq, Repr

/-- `resultNotDelivered` stands for a callback that was given up because the lock for
it was not free within a second. -/
inductive Effect
  | enqueueV4l2Frame (frame : V4L2Frame)
  | notifyShutter (frameNumber : ℕ) (timestamp : ℤ)
  | notifyError (frameNumber : ℕ) (streamId : ℤ) (errorCode : ErrorCode)
  | eraseInflight (frameNumber : ℕ)
  | processCaptureResult (result : CaptureResult)
  | resultNotDelivered (result : CaptureResult)
  deriving DecidableEq, Repr

def HalStreamBuffer.releaseFence (buf : HalStreamBuffer) : Option ℤ :=
  if 0 ≤ buf.acquireFence then some buf.acquireFence else none

def processCaptureRequestError (req : HalRequest) : List Effect :=
  [.enqueueV4l2Frame req.frameIn,
    .notifyShutter req.frameNumber req.shutterTs,
    .notifyError req.frameNumber (-1) .errorRequest,
    .eraseInflight req.frameNumber,
    .processCaptureResult ⟨req.frameNumber, req.buffers.map fun buf ↦
      ⟨buf.streamId, buf.bufferId, .error, buf.releaseFence⟩⟩]

def processCaptureResult (req : HalRequest) : List Effect :=
  [.enqueueV4l2Frame req.frameIn, .notifyShutter req.frameNumber req.shutterTs] ++
  (req.buffers.filter HalStreamBuffer.fenceTimeout).map
    (fun buf ↦ .notifyError req.frameNumber buf.streamId .errorBuffer) ++
  [.eraseInflight req.frameNumber,
    .processCaptureResult ⟨req.frameNumber, req.buffers.map fun buf ↦
      ⟨buf.streamId, buf.bufferId, if buf.fenceTimeout then .error else .ok, buf.releaseFence⟩⟩]

/-- How the handling of a request ends. Besides the result and the request error there
is the device error, after which the output thread exits, and the two exits that do
nothing for the request: the conversion thread's for a pixel format that it does not know,
and the output thread's for a buffer that has no file descriptor. -/
inductive Conclusion
  | result
  | requestError
  | deviceError
  | unknownFormat
  | noShareFd
  deriving DecidableEq, Repr

def effects (req : HalRequest) : Conclusion → List Effect
  | .result => processCaptureResult req
  | .requestError => processCaptureRequestError req
  | .deviceError => [.notifyError req.frameNumber (-1) .errorDevice]
  | .unknownFormat => []
  | .noShareFd => []

/-! ### The conversion thread -/

def v4l2PixFmtZ16 : UInt32 := v4l2Fourcc 'Z' '1' '6' ' '
def v4l2PixFmtYuyv : UInt32 := v4l2Fourcc 'Y' 'U' 'Y' 'V'
def v4l2PixFmtSgrbg12 : UInt32 := v4l2Fourcc 'B' 'A' '1' '2'
def v4l2PixFmtSgrbg16 : UInt32 := v4l2Fourcc 'G' 'R' '1' '6'
def v4l2PixFmtNv12 : UInt32 := v4l2Fourcc 'N' 'V' '1' '2'

def supportedFourcc (fourcc : UInt32) : Bool :=
  fourcc ∈ [v4l2PixFmtMjpeg, v4l2PixFmtZ16, v4l2PixFmtYuyv, v4l2PixFmtSrggb10, v4l2PixFmtSgrbg12,
    v4l2PixFmtSgrbg16, v4l2PixFmtNv12]

/-- One round of `FormatConvertThread::threadLoop` with a request; no request comes out
when it is dropped. The file descriptor is that of the frame's preview buffer, and it is set
only for a frame that the decoder did not fail on. -/
def convertFormat (req : HalRequest) (decoded : Bool) (shareFd : ℕ) : Option HalRequest :=
  if ¬ supportedFourcc req.frameIn.fourcc then none
  else if req.frameIn.fourcc = v4l2PixFmtMjpeg then
    if ¬ decoded then some req else some { req with shareFd := shareFd }
  else some req

/-! ### The output thread -/

/-- What the calls for one output buffer return. The fence of `unlock` is -1 also where the
call is not made. -/
structure BufferOutcome where
  syncWait : Bool
  createJpeg : Bool
  cropAndScale : Bool
  formatConvert : Bool
  unlockFence : ℤ
  shareFd : Bool

/-- What the calls of one round return; the two conversions are those whose result is
looked at. -/
structure RoundOutcome where
  nv12ToI420 : Bool
  yuy2ToI420 : Bool
  buffer : ℕ → BufferOutcome

def HalStreamBuffer.waitFence (buf : HalStreamBuffer) (o : BufferOutcome) : HalStreamBuffer :=
  if buf.buffer = none then { buf with fenceTimeout := true }
  else if 0 ≤ buf.acquireFence then
    if ¬ o.syncWait then { buf with fenceTimeout := true } else { buf with acquireFence := -1 }
  else buf

def HalStreamBuffer.unlock (buf : HalStreamBuffer) (o : BufferOutcome) : HalStreamBuffer :=
  if 0 ≤ o.unlockFence then { buf with acquireFence := o.unlockFence } else buf

def HalStreamBuffer.scale (buf : HalStreamBuffer) (o : BufferOutcome) :
    Option Conclusion × HalStreamBuffer :=
  if ¬ o.cropAndScale then (some .deviceError, buf)
  else if ¬ o.formatConvert then (some .deviceError, buf)
  else (none, buf.unlock o)

/-- The `switch` over the format of the buffer; a conclusion ends the round. -/
def HalStreamBuffer.fill (buf : HalStreamBuffer) (fourcc : UInt32) (shareFd : ℕ)
    (o : BufferOutcome) : Option Conclusion × HalStreamBuffer :=
  match buf.format with
  | .blob =>
    -- the fence is stored before the encoder's result is looked at
    let buf := buf.unlock o
    if ¬ o.createJpeg then (some .deviceError, buf) else (none, buf)
  | .y16 => (none, buf.unlock o)
  | .raw10 | .raw12 | .raw16 => (none, buf)
  | .yv12 => buf.scale o
  | .ycbcr420_888 | .implementationDefined | .ycrcb420Sp =>
    if fourcc = v4l2PixFmtYuyv then buf.scale o
    else if fourcc = v4l2PixFmtNv12 then
      -- `return -EINVAL` from a `bool` function: neither an error nor a result
      if ¬ o.shareFd then (some .noShareFd, buf) else (none, buf)
    else if fourcc = v4l2PixFmtSrggb10 then (none, buf)
    else if shareFd = 0 then (some .requestError, buf)
    else if ¬ o.shareFd then (some .noShareFd, buf)
    else (none, buf)
  | .other _ => (some .deviceError, buf)

def fillOutputs (fourcc : UInt32) (shareFd : ℕ) (o : ℕ → BufferOutcome) (i : ℕ) :
    List HalStreamBuffer → Conclusion × List HalStreamBuffer
  | [] => (.result, [])
  | buf :: rest =>
    let buf := buf.waitFence (o i)
    if buf.fenceTimeout then
      let (conclusion, rest) := fillOutputs fourcc shareFd o (i + 1) rest
      (conclusion, buf :: rest)
    else
      match buf.fill fourcc shareFd (o i) with
      | (some conclusion, buf) => (conclusion, buf :: rest)
      | (none, buf) =>
        let (conclusion, rest) := fillOutputs fourcc shareFd o (i + 1) rest
        (conclusion, buf :: rest)

def isBlobOrYv12 (req : HalRequest) : Bool :=
  req.buffers.any fun halBuf ↦ halBuf.format = .blob ∨ halBuf.format = .yv12

/-- One round of `OutputThread::threadLoop` with a request, up to its conclusion. The
result of the conversion of a decoded MJPEG frame is not looked at, and the two calls for
buffer requests, the result and the request error cannot fail. -/
def processRequest (req : HalRequest) (o : RoundOutcome) : Conclusion × HalRequest :=
  if ¬ supportedFourcc req.frameIn.fourcc then (.deviceError, req)
  else if isBlobOrYv12 req ∧ req.frameIn.fourcc = v4l2PixFmtNv12 ∧ ¬ o.nv12ToI420 then
    (.requestError, req)
  else if isBlobOrYv12 req ∧ req.frameIn.fourcc = v4l2PixFmtYuyv ∧ ¬ o.yuy2ToI420 then
    (.requestError, req)
  else
    let (conclusion, buffers) := fillOutputs req.frameIn.fourcc req.shareFd o.buffer 0 req.buffers
    (conclusion, { req with buffers := buffers })

end VirtualCamera.Session.Request
