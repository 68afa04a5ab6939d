import VirtualCamera.Library.Statics
import VirtualCamera.Library.Transition
import VirtualCamera.Session.Conversion
import VirtualCamera.Session.Request

namespace VirtualCamera.Session.Staging

open Library.Memory Library.Statics Library.Transition Conversion Streams Request

/-! ### The buffers that outlive a session -/

/-- At most one of `isMainDevice` and `isSubDevice` holds. -/
inductive Device
  | main
  | sub
  | other
  deriving DecidableEq, Repr

/-- `SubDeviceInData`, the static buffers of the two branches of
`FormatConvertThread::threadLoop` and those of `OutputThread::threadLoop`. -/
inductive StagingBuffer
  | subDeviceInData
  | subTempIrLimit
  | subTemp
  | subTmpData
  | tempIrLimit
  | temp
  | tmpData
  | buf
  | depthMap
  | outputDepthMap
  | outputVirAddr
  deriving DecidableEq, Repr

abbrev Statics := Arena StagingBuffer

def align16 (n : ℕ) : ℕ := (n + 15) / 16 * 16

def tmpW (f : V4L2Frame) : ℕ := align16 f.width
def tmpH (f : V4L2Frame) : ℕ := align16 f.height

/-- `dequeueV4l2FrameLocked`, where the main device passes an even buffer on. -/
def pushSubDevice (a : Statics) (tmpDataSize : ℕ) : Statics :=
  (a.static .subDeviceInData tmpDataSize).copy .subDeviceInData tmpDataSize

/-! ### The conversion thread -/

def limitSub (a : Statics) (subDeviceInDataSize : ℕ) : Statics :=
  let a := a.static .subTempIrLimit subDeviceInDataSize
  let a := a.static .subTemp subDeviceInDataSize
  let a := a.static .subTmpData subDeviceInDataSize
  let a := a.copy .subDeviceInData subDeviceInDataSize
  let a := a.copy .subTempIrLimit subDeviceInDataSize
  let limited := irLimitMax (toInt32 (subDeviceInDataSize / 2))
  let a := a.copy .subTempIrLimit (extent limited)
  a.copy .subTemp (extent limited)

def limit (a : Statics) (pixels inDataSize : ℕ) : Statics :=
  let a := a.static .tempIrLimit inDataSize
  let a := a.static .temp inDataSize
  let a := a.static .tmpData inDataSize
  let a := a.static .buf (pixels * 2)
  let a := a.copy .buf inDataSize
  let a := a.static .depthMap (pixels * 2)
  let a := a.copy .tempIrLimit inDataSize
  let limited := irLimitMax pixels
  let a := a.copy .tempIrLimit (extent limited)
  a.copy .temp (extent limited)

/-- A request on its way to the output thread; its `inData` is one of the static buffers,
or else the frame's own mapping (or null). -/
structure ConvertedRequest where
  device : Device
  request : HalRequest
  inData : Option StagingBuffer
  inDataSize : ℕ

/-- What a request's `inDataSize` is where the thread does not convert; it is set before the
decoder is called for the main device, behind it for the others, and never for a sub-device. -/
def ownDataSize (device : Device) (fourcc : UInt32) (inDataSize : ℕ) (decoded : Bool) : ℕ :=
  match device with
  | .main => inDataSize
  | .sub => 0
  | .other => if fourcc = v4l2PixFmtMjpeg ∧ ¬ decoded then 0 else inDataSize

/-- One round of `FormatConvertThread::threadLoop` with a request. -/
def convert (a : Statics) (subDeviceInDataSize : ℕ) (device : Device) (req : HalRequest)
    (inDataSize : ℕ) (decoded : Bool) (shareFd : ℕ) : Option ConvertedRequest × Statics :=
  match convertFormat req decoded shareFd with
  | none => (none, a)
  | some request =>
    let f := req.frameIn
    if f.fourcc = v4l2PixFmtSrggb10 then
      match device with
      | .sub =>
        (some ⟨.sub, request, some .subTemp, subDeviceInDataSize⟩, limitSub a subDeviceInDataSize)
      | .main =>
        (some ⟨.main, request, some .temp, inDataSize⟩, limit a (tmpW f * tmpH f) inDataSize)
      | .other =>
        (some ⟨.other, request, none, inDataSize⟩, limit a (tmpW f * tmpH f) inDataSize)
    else (some ⟨device, request, none, ownDataSize device f.fourcc inDataSize decoded⟩, a)

/-! ### The output thread -/

/-- How far the calls out of the repository reach: `doAlgo` in its image and in its depth
map, by width, height and bits per pixel, and the blit in its source. -/
structure Extents where
  algoReads : ℕ → ℕ → ℕ → ℕ
  algoWrites : ℕ → ℕ → ℕ → ℕ
  blitReads : Size → Size → ℕ

/-- What one round finds: the results of its calls, the size of `mYu12Frame`, and whether the
files of the two dumps open. -/
structure OutputOutcome where
  round : RoundOutcome
  yu12Size : Size
  inDataDump : Bool
  depthMapDump : Bool

def kDepthMapSize : ℕ := 640 * 400 * 2

def readInData (a : Statics) (r : ConvertedRequest) (n : ℕ) : Statics :=
  match r.inData with
  | none => a
  | some b => a.copy b n

variable (ext : Extents)

/-- The sub-device's part before the loop over the buffers. -/
def computeDepth (a : Statics) (r : ConvertedRequest) (o : OutputOutcome) (frameCount : ℤ) :
    Statics :=
  let w := tmpW r.request.frameIn
  let h := tmpH r.request.frameIn
  let dumps := 5 < frameCount ∧ frameCount < 10
  let a := if dumps ∧ o.inDataDump then readInData a r r.inDataSize else a
  let a := readInData a r (ext.algoReads (w * 2) (h * 2) 16)
  let a := a.copy .outputDepthMap (ext.algoWrites (w * 2) (h * 2) 16)
  if dumps ∧ o.depthMapDump then a.copy .outputDepthMap (w * h * 2) else a

def comesToSwitch (fourcc : UInt32) (shareFd : ℕ) (o : ℕ → BufferOutcome) (i : ℕ) :
    List HalStreamBuffer → List (HalStreamBuffer × BufferOutcome)
  | [] => []
  | buf :: rest =>
    let buf := buf.waitFence (o i)
    if buf.fenceTimeout then comesToSwitch fourcc shareFd o (i + 1) rest
    else
      match buf.fill fourcc shareFd (o i) with
      | (some _, _) => [(buf, o i)]
      | (none, _) => (buf, o i) :: comesToSwitch fourcc shareFd o (i + 1) rest

def size (buf : HalStreamBuffer) : Size := ⟨buf.width, buf.height⟩

/-- A YUYV image is converted under the name of an NV12 frame, and the blit reads the result. -/
def convertNv12 (yu12Size sz : Size) (r : ConvertedRequest) (a : Statics) : Statics :=
  let a := a.static .outputVirAddr r.inDataSize
  let a := readInData a r (extent (yuyvReads sz.width sz.height r.inDataSize))
  let a := a.copy .outputVirAddr (extent (yuyvWrites sz.width sz.height r.inDataSize))
  let a := a.copy .outputVirAddr (sz.area + sz.area / 2)
  a.copy .outputVirAddr (ext.blitReads yu12Size sz)

/-- The formats that are one case of the `switch`. -/
def fillYcbcr (yu12Size : Size) (r : ConvertedRequest) (a : Statics)
    (p : HalStreamBuffer × BufferOutcome) : Statics :=
  let sz := size p.1
  if r.request.frameIn.fourcc = v4l2PixFmtNv12 then
    if ¬ p.2.shareFd then a else convertNv12 ext yu12Size sz r a
  else if r.request.frameIn.fourcc = v4l2PixFmtSrggb10 then
    if r.device = .sub then
      a.copy .outputDepthMap (extent (yuyvReads sz.width sz.height (sz.area * 2 % 2 ^ 32)))
    else readInData a r (extent (yuyvReads sz.width sz.height r.inDataSize))
  else a

/-- The `switch` over the format of the buffer. The scaled formats and the decoded ones do
not use the static buffers: a frame of format YUYV still is its own mapping. -/
def fill (yu12Size : Size) (r : ConvertedRequest) (a : Statics)
    (p : HalStreamBuffer × BufferOutcome) : Statics :=
  let sz := size p.1
  match p.1.format with
  | .blob | .yv12 | .other _ => a
  | .y16 => readInData a r r.inDataSize
  | .raw10 => readInData a r (sz.area * 5 / 4)
  | .raw12 | .raw16 =>
    if r.device = .sub ∧ r.request.frameIn.bufferIndex % 2 = 0 then
      a.copy .outputDepthMap (sz.area * 2 % 2 ^ 32)
    else readInData a r (sz.area * 2 % 2 ^ 32)
  | .ycbcr420_888 | .implementationDefined | .ycrcb420Sp => fillYcbcr ext yu12Size r a p

def comesToLoop (req : HalRequest) (o : RoundOutcome) : Bool :=
  supportedFourcc req.frameIn.fourcc ∧
    ¬ (isBlobOrYv12 req ∧ req.frameIn.fourcc = v4l2PixFmtNv12 ∧ ¬ o.nv12ToI420) ∧
    ¬ (isBlobOrYv12 req ∧ req.frameIn.fourcc = v4l2PixFmtYuyv ∧ ¬ o.yuy2ToI420)

/-- The copies of one round of `OutputThread::threadLoop` with a request. -/
def output (a : Statics) (r : ConvertedRequest) (o : OutputOutcome) (frameCount : ℤ) : Statics :=
  if comesToLoop r.request o.round then
    let a := a.static .outputDepthMap kDepthMapSize
    let a := if r.device = .sub then computeDepth ext a r o frameCount else a
    let f := r.request.frameIn
    (comesToSwitch f.fourcc r.request.shareFd o.round.buffer 0 r.request.buffers).foldl
      (fill ext o.yu12Size r) a
  else a

/-! ### All sessions together -/

/-- `submitted` are the requests between the two threads of a session. The counters of the
sub-device's two dumps go together. -/
structure State where
  statics : Statics
  subDeviceInDataSize : ℕ
  frameCount : Option ℤ
  submitted : List ConvertedRequest

def State.create : State := ⟨.empty, 0, none, []⟩

inductive Label
  | dequeueV4l2FrameLocked (device : Device) (index tmpDataSize : ℕ)
  | convert (device : Device) (req : HalRequest) (inDataSize : ℕ) (decoded : Bool) (shareFd : ℕ)
  | output (i : ℕ) (o : OutputOutcome)

def State.countFrame (s : State) (r : ConvertedRequest) : ℤ :=
  s.frameCount.getD r.request.frameNumber + 1

/-- The threads of any sessions take their rounds in any order, with frames of any sizes: a
frame has those of the configuration it was taken under. -/
def State.step (s : State) : Label → Option State
  | .dequeueV4l2FrameLocked device index tmpDataSize =>
    if device = .main ∧ index % 2 = 0 then
      some { s with
        statics := pushSubDevice s.statics tmpDataSize
        subDeviceInDataSize := tmpDataSize }
    else some s
  | .convert device req inDataSize decoded shareFd =>
    let (r, statics) :=
      convert s.statics s.subDeviceInDataSize device req inDataSize decoded shareFd
    some { s with statics := statics, submitted := s.submitted ++ r.toList }
  | .output i o =>
    s.submitted[i]?.map fun r ↦
      { s with
        statics := output ext s.statics r o (s.countFrame r)
        frameCount :=
          if r.device = .sub ∧ comesToLoop r.request o.round then some (s.countFrame r)
          else s.frameCount
        submitted := s.submitted.eraseIdx i }

abbrev Step : State → Label → State → Prop := ofPartial (State.step ext)

/-! ### Frames that fit the first ones

A buffer that is not allocated yet is taken at the size it would get now.
-/

/-- The data of a frame and its rounded size fit the buffers that the first frame sized. -/
def LimitFits (a : Statics) (pixels inDataSize : ℕ) : Prop :=
  pixels * 2 < 2 ^ 31 ∧ inDataSize ≤ a.firstUse .tempIrLimit inDataSize ∧
    pixels / 8 * 16 ≤ a.firstUse .tempIrLimit inDataSize ∧
    inDataSize ≤ a.firstUse .buf (pixels * 2)

def ConvertFits (a : Statics) (subDeviceInDataSize : ℕ) (device : Device) (f : V4L2Frame)
    (inDataSize : ℕ) : Prop :=
  f.fourcc = v4l2PixFmtSrggb10 →
    if device = .sub then
      subDeviceInDataSize ≤ a.firstUse .subTempIrLimit subDeviceInDataSize
    else LimitFits a (tmpW f * tmpH f) inDataSize

/-- The request's data, where they are in a static buffer, have `n` bytes there. -/
def ReadFits (a : Statics) (r : ConvertedRequest) (n : ℕ) : Prop := ∀ b ∈ r.inData, n ≤ a.bytes b

def DepthFits (a : Statics) (r : ConvertedRequest) (o : OutputOutcome) (frameCount : ℤ) : Prop :=
  let w := tmpW r.request.frameIn
  let h := tmpH r.request.frameIn
  ReadFits a r (ext.algoReads (w * 2) (h * 2) 16) ∧
    ext.algoWrites (w * 2) (h * 2) 16 ≤ kDepthMapSize ∧
    ((5 < frameCount ∧ frameCount < 10) ∧ o.depthMapDump → w * h * 2 ≤ kDepthMapSize)

def IntFits (sz : Size) (filesize : ℕ) : Prop :=
  sz.width * sz.height * 3 < 2 ^ 31 ∧ filesize < 2 ^ 32

def Nv12Fits (yu12Size sz : Size) (a : Statics) (inDataSize : ℕ) : Prop :=
  let allocated := a.firstUse .outputVirAddr inDataSize
  IntFits sz inDataSize ∧ writtenBytes sz.width sz.height inDataSize ≤ allocated ∧
    sz.area + sz.area / 2 ≤ allocated ∧ ext.blitReads yu12Size sz ≤ allocated

def YcbcrFits (yu12Size : Size) (r : ConvertedRequest) (a : Statics)
    (p : HalStreamBuffer × BufferOutcome) : Prop :=
  let sz := size p.1
  if r.request.frameIn.fourcc = v4l2PixFmtNv12 then
    p.2.shareFd = true → Nv12Fits ext yu12Size sz a r.inDataSize
  else if r.request.frameIn.fourcc = v4l2PixFmtSrggb10 then
    if r.device = .sub then
      IntFits sz (sz.area * 2 % 2 ^ 32) ∧
        readBytes sz.width sz.height (sz.area * 2 % 2 ^ 32) ≤ kDepthMapSize
    else
      IntFits sz r.inDataSize ∧ ReadFits a r (readBytes sz.width sz.height r.inDataSize)
  else True

def BufferFits (yu12Size : Size) (r : ConvertedRequest) (a : Statics)
    (p : HalStreamBuffer × BufferOutcome) : Prop :=
  let sz := size p.1
  match p.1.format with
  | .blob | .yv12 | .y16 | .other _ => True
  | .raw10 => ReadFits a r (sz.area * 5 / 4)
  | .raw12 | .raw16 =>
    if r.device = .sub ∧ r.request.frameIn.bufferIndex % 2 = 0 then
      sz.area * 2 % 2 ^ 32 ≤ kDepthMapSize
    else ReadFits a r (sz.area * 2 % 2 ^ 32)
  | .ycbcr420_888 | .implementationDefined | .ycrcb420Sp => YcbcrFits ext yu12Size r a p

def OutputFits (a : Statics) (r : ConvertedRequest) (o : OutputOutcome) (frameCount : ℤ) : Prop :=
  comesToLoop r.request o.round = true →
    (r.device = .sub → DepthFits ext a r o frameCount) ∧
    ∀ p ∈ comesToSwitch r.request.frameIn.fourcc r.request.shareFd o.round.buffer 0
      r.request.buffers, BufferFits ext o.yu12Size r a p

def Fits (s : State) : Label → Prop
  | .dequeueV4l2FrameLocked device index tmpDataSize =>
    device = .main ∧ index % 2 = 0 → tmpDataSize ≤ s.statics.firstUse .subDeviceInData tmpDataSize
  | .convert device req inDataSize _ _ =>
    ConvertFits s.statics s.subDeviceInDataSize device req.frameIn inDataSize
  | .output i o => ∀ r ∈ s.submitted[i]?, OutputFits ext s.statics r o (s.countFrame r)

/-! ### What every function keeps -/

/-- Every copy stayed in its buffer, and buffers that are allocated together have one size. -/
structure Sound (a : Statics) : Prop where
  safe : a.Safe
  subTemp : a.size .subTemp = a.size .subTempIrLimit
  temp : a.size .temp = a.size .tempIrLimit
  depthMap : ∀ n ∈ a.size .outputDepthMap, n = kDepthMapSize

theorem sound_empty : Sound .empty where
  safe := Arena.safe_empty
  subTemp := rfl
  temp := rfl
  depthMap := nofun

variable {ext}
variable {a : Statics} {r : ConvertedRequest} {n : ℕ}

theorem Sound.copy (h : Sound a) {b : StagingBuffer} (hn : n ≤ a.bytes b) : Sound (a.copy b n) where
  safe := h.safe.copy hn
  subTemp := h.subTemp
  temp := h.temp
  depthMap := h.depthMap

def sized : List StagingBuffer := [.subTempIrLimit, .subTemp, .tempIrLimit, .temp, .outputDepthMap]

theorem Sound.static (h : Sound a) {b : StagingBuffer} (hb : ∀ b' ∈ sized, b' ≠ b) (n : ℕ) :
    Sound (a.static b n) := by
  have hsame : ∀ b' ∈ sized, (a.static b n).size b' = a.size b' := fun b' hb' ↦
    a.size_static_of_ne (hb b' hb') n
  refine ⟨h.safe.static b n, ?_, ?_, ?_⟩
  · rw [hsame _ (by decide), hsame _ (by decide), h.subTemp]
  · rw [hsame _ (by decide), hsame _ (by decide), h.temp]
  · rw [hsame _ (by decide)]
    exact h.depthMap

theorem Sound.firstUse_subTemp (h : Sound a) (n : ℕ) :
    a.firstUse .subTemp n = a.firstUse .subTempIrLimit n := by
  rw [Arena.firstUse, Arena.firstUse, h.subTemp]

theorem Sound.firstUse_temp (h : Sound a) (n : ℕ) :
    a.firstUse .temp n = a.firstUse .tempIrLimit n := by
  rw [Arena.firstUse, Arena.firstUse, h.temp]

theorem Sound.staticSubTemp (h : Sound a) (n : ℕ) :
    Sound ((a.static .subTempIrLimit n).static .subTemp n) := by
  refine ⟨(h.safe.static _ _).static _ _, ?_, ?_, ?_⟩
  · simp [Arena.size_static, Arena.firstUse_static, h.firstUse_subTemp]
  · simpa [Arena.size_static] using h.temp
  · simpa [Arena.size_static] using h.depthMap

theorem Sound.staticTemp (h : Sound a) (n : ℕ) :
    Sound ((a.static .tempIrLimit n).static .temp n) := by
  refine ⟨(h.safe.static _ _).static _ _, ?_, ?_, ?_⟩
  · simpa [Arena.size_static] using h.subTemp
  · simp [Arena.size_static, Arena.firstUse_static, h.firstUse_temp]
  · simpa [Arena.size_static] using h.depthMap

theorem pushSubDevice_sound (h : Sound a) (hn : n ≤ a.firstUse .subDeviceInData n) :
    Sound (pushSubDevice a n) ∧ n ≤ (pushSubDevice a n).bytes .subDeviceInData := by
  have hbytes : (a.static .subDeviceInData n).bytes .subDeviceInData =
      a.firstUse .subDeviceInData n := by
    simp [Arena.bytes_static]
  rw [← hbytes] at hn
  exact ⟨(h.static (by decide) n).copy hn, hn⟩

/-- A push overflows exactly when the data are longer than those of the first push. -/
theorem pushSubDevice_safe (h : Sound a) :
    (pushSubDevice a n).Safe ↔ n ≤ a.firstUse .subDeviceInData n := by
  constructor
  · intro hsafe
    have hn := hsafe ⟨.subDeviceInData, n⟩ List.mem_cons_self
    simpa [pushSubDevice, Arena.bytes_static] using hn
  · exact fun hn ↦ (pushSubDevice_sound h hn).1.safe

theorem grows_pushSubDevice (a : Statics) (n : ℕ) : a.Grows (pushSubDevice a n) :=
  .copy (.static (.refl a) _ _) _ _

theorem limitSub_sound (h : Sound a) (hpushed : n ≤ a.bytes .subDeviceInData)
    (hn : n ≤ a.firstUse .subTempIrLimit n) :
    Sound (limitSub a n) ∧ n ≤ (limitSub a n).bytes .subTemp := by
  have htwin := h.firstUse_subTemp n
  have hlimited := (extent_irLimitMax_half n).trans hn
  have hstatic : Sound (((a.static .subTempIrLimit n).static .subTemp n).static .subTmpData n) :=
    (h.staticSubTemp n).static (by decide) n
  dsimp only [limitSub]
  generalize extent (irLimitMax (toInt32 (n / 2))) = m at hlimited ⊢
  constructor
  · refine (((hstatic.copy ?_).copy ?_).copy ?_).copy ?_
    all_goals simpa [Arena.bytes_static, Arena.firstUse_static, htwin]
  · simpa [Arena.bytes_static, Arena.firstUse_static, htwin]

theorem limitSub_safe (h : Sound a) (hpushed : n ≤ a.bytes .subDeviceInData) :
    (limitSub a n).Safe ↔ n ≤ a.firstUse .subTempIrLimit n := by
  constructor
  · intro hsafe
    have hn := hsafe ⟨.subTempIrLimit, n⟩ (.tail _ (.tail _ (.head _)))
    simpa [limitSub, Arena.bytes_static, Arena.firstUse_static] using hn
  · exact fun hn ↦ (limitSub_sound h hpushed hn).1.safe

theorem grows_limitSub (a : Statics) (n : ℕ) : a.Grows (limitSub a n) :=
  .copy (.copy (.copy (.copy (.static (.static (.static (.refl a) _ _) _ _) _ _) _ _) _ _) _ _) _ _

theorem limit_sound {pixels : ℕ} (h : Sound a) (hfits : LimitFits a pixels n) :
    Sound (limit a pixels n) ∧ n ≤ (limit a pixels n).bytes .temp := by
  obtain ⟨-, hn, hpixels, hbuf⟩ := hfits
  have htwin := h.firstUse_temp n
  rw [← extent_irLimitMax] at hpixels
  have hstatic : Sound ((((a.static .tempIrLimit n).static .temp n).static .tmpData n).static
      .buf (pixels * 2)) :=
    ((h.staticTemp n).static (by decide) n).static (by decide) (pixels * 2)
  have hcopied : Sound (((((a.static .tempIrLimit n).static .temp n).static .tmpData n).static
      .buf (pixels * 2)).copy .buf n) := by
    apply hstatic.copy
    simpa [Arena.bytes_static, Arena.firstUse_static]
  constructor
  · refine (((hcopied.static (by decide) (pixels * 2)).copy ?_).copy ?_).copy ?_
    all_goals simpa [Arena.bytes_static, Arena.firstUse_static, htwin]
  · simpa [limit, Arena.bytes_static, Arena.firstUse_static, htwin]

/-- The other conversions overflow exactly when the frame does not fit the first one. -/
theorem limit_safe {pixels : ℕ} (h : Sound a) (hint : pixels * 2 < 2 ^ 31) :
    (limit a pixels n).Safe ↔ LimitFits a pixels n := by
  constructor
  · intro hsafe
    have hlimited := hsafe ⟨.tempIrLimit, extent (irLimitMax pixels)⟩ (.tail _ (.head _))
    have hcopied := hsafe ⟨.tempIrLimit, n⟩ (.tail _ (.tail _ (.head _)))
    have hbuf : (⟨.buf, n⟩ : Copy StagingBuffer) ∈ (limit a pixels n).copies := by
      refine .tail _ (.tail _ (.tail _ ?_))
      rw [Arena.copies_static]
      exact .head _
    have hbuf := hsafe _ hbuf
    rw [extent_irLimitMax] at hlimited
    simp only [limit, Arena.bytes_copy, Arena.bytes_static, reduceCtorEq, if_false,
      if_true] at hlimited hcopied hbuf
    simp only [Arena.firstUse_static, reduceCtorEq, if_false] at hbuf
    exact ⟨hint, hcopied, hlimited, hbuf⟩
  · exact fun hfits ↦ (limit_sound h hfits).1.safe

theorem grows_limit (a : Statics) (pixels n : ℕ) : a.Grows (limit a pixels n) :=
  .copy (.copy (.copy (.static (.copy (.static (.static (.static (.static (.refl a)
    _ _) _ _) _ _) _ _) _ _) _ _) _ _) _ _) _ _

theorem convertFormat_frameIn {req req' : HalRequest} {decoded : Bool} {shareFd : ℕ}
    (h : convertFormat req decoded shareFd = some req') : req'.frameIn = req.frameIn := by
  unfold convertFormat at h
  split at h
  · cases h
  · split at h
    · split at h <;> cases h <;> rfl
    · cases h
      rfl

/-- The request's data are in the buffer it names, and only a raw frame names one. -/
structure Placed (a : Statics) (r : ConvertedRequest) : Prop where
  reads : ReadFits a r r.inDataSize
  fourcc : r.inData ≠ none → r.request.frameIn.fourcc = v4l2PixFmtSrggb10

theorem Placed.grows {a' : Statics} (h : Placed a r) (hg : a.Grows a') : Placed a' r where
  reads b hb := (h.reads b hb).trans (hg.bytes_le b)
  fourcc := h.fourcc

theorem placed_none {device : Device} {req : HalRequest} : Placed a ⟨device, req, none, n⟩ where
  reads := nofun
  fourcc h := absurd rfl h

theorem placed_some {device : Device} {req : HalRequest} {b : StagingBuffer}
    (hf : req.frameIn.fourcc = v4l2PixFmtSrggb10) (hn : n ≤ a.bytes b) :
    Placed a ⟨device, req, some b, n⟩ where
  reads b' hb' := by
    cases hb'
    exact hn
  fourcc _ := hf

theorem convert_sound {m : ℕ} {device : Device} {req : HalRequest} (decoded : Bool)
    (shareFd : ℕ) (h : Sound a) (hpushed : m ≤ a.bytes .subDeviceInData)
    (hfits : ConvertFits a m device req.frameIn n) :
    Sound (convert a m device req n decoded shareFd).2 ∧
      a.Grows (convert a m device req n decoded shareFd).2 ∧
      ∀ r ∈ (convert a m device req n decoded shareFd).1,
        Placed (convert a m device req n decoded shareFd).2 r := by
  unfold convert
  cases hreq : convertFormat req decoded shareFd with
  | none => exact ⟨h, .refl a, nofun⟩
  | some request =>
    have hframe := convertFormat_frameIn hreq
    dsimp only
    split
    · rename_i hf
      have hfits := hfits hf
      have hf' := hframe ▸ hf
      cases device with
      | main =>
        obtain ⟨hsound, hn⟩ := limit_sound h hfits
        refine ⟨hsound, grows_limit _ _ _, ?_⟩
        intro _ hcond
        obtain ⟨⟩ := hcond
        exact placed_some hf' hn
      | sub =>
        obtain ⟨hsound, hm⟩ := limitSub_sound h hpushed hfits
        refine ⟨hsound, grows_limitSub _ _, ?_⟩
        intro _ hcond
        obtain ⟨⟩ := hcond
        exact placed_some hf' hm
      | other =>
        obtain ⟨hsound, -⟩ := limit_sound h hfits
        refine ⟨hsound, grows_limit _ _ _, ?_⟩
        intro _ hcond
        obtain ⟨⟩ := hcond
        exact placed_none
    · refine ⟨h, .refl a, ?_⟩
      intro _ hcond
      obtain ⟨⟩ := hcond
      exact placed_none

structure Filling (a₀ : Statics) (r : ConvertedRequest) (a : Statics) : Prop where
  sound : Sound a
  grows : a₀.Grows a
  virAddr : a.firstUse .outputVirAddr r.inDataSize = a₀.firstUse .outputVirAddr r.inDataSize
  depthMap : a.bytes .outputDepthMap = kDepthMapSize

variable {a₀ : Statics}

theorem Filling.start (h : Sound a) : Filling a r (a.static .outputDepthMap kDepthMapSize) := by
  have hsize : a.firstUse .outputDepthMap kDepthMapSize = kDepthMapSize := by
    unfold Arena.firstUse
    cases hn : a.size .outputDepthMap with
    | none => rfl
    | some n => exact h.depthMap n hn
  refine ⟨⟨h.safe.static _ _, ?_, ?_, ?_⟩, .static (.refl a) _ _, ?_, ?_⟩
  · simpa [Arena.size_static] using h.subTemp
  · simpa [Arena.size_static] using h.temp
  · simp [Arena.size_static, hsize]
  · simp [Arena.firstUse_static]
  · simpa [Arena.bytes_static] using hsize

theorem Filling.copy (h : Filling a₀ r a) {b : StagingBuffer} (hn : n ≤ a.bytes b) :
    Filling a₀ r (a.copy b n) :=
  ⟨h.sound.copy hn, h.grows, h.virAddr, h.depthMap⟩

theorem Filling.copyDepth (h : Filling a₀ r a) (hn : n ≤ kDepthMapSize) :
    Filling a₀ r (a.copy .outputDepthMap n) :=
  h.copy (h.depthMap ▸ hn)

theorem Filling.readInData (h : Filling a₀ r a) (hn : ReadFits a₀ r n) :
    Filling a₀ r (readInData a r n) := by
  unfold Staging.readInData
  split
  · exact h
  · rename_i b hb
    exact h.copy ((hn b hb).trans (h.grows.bytes_le b))

theorem Filling.static (h : Filling a₀ r a) :
    Filling a₀ r (a.static .outputVirAddr r.inDataSize) := by
  refine ⟨h.sound.static (by decide) _, h.grows.static _ _, ?_, ?_⟩
  · simpa [Arena.firstUse_static] using h.virAddr
  · simpa [Arena.bytes_static] using h.depthMap

theorem Filling.computeDepth {o : OutputOutcome} {frameCount : ℤ} (h : Filling a₀ r a)
    (hr : Placed a₀ r) (hfits : DepthFits ext a₀ r o frameCount) :
    Filling a₀ r (computeDepth ext a r o frameCount) := by
  obtain ⟨hreads, hwrites, hdump⟩ := hfits
  have hdumped : Filling a₀ r (if (5 < frameCount ∧ frameCount < 10) ∧ o.inDataDump then
      Staging.readInData a r r.inDataSize else a) := by
    split
    · exact h.readInData hr.reads
    · exact h
  have hcomputed := (hdumped.readInData hreads).copyDepth hwrites
  unfold Staging.computeDepth
  dsimp only
  split
  · exact hcomputed.copyDepth (hdump ‹_›)
  · exact hcomputed

theorem Filling.convertNv12 {yu12Size sz : Size} (h : Filling a₀ r a) (hr : r.inData = none)
    (hfits : Nv12Fits ext yu12Size sz a₀ r.inDataSize) :
    Filling a₀ r (convertNv12 ext yu12Size sz r a) := by
  obtain ⟨-, hwritten, harea, hblit⟩ := hfits
  have hbytes : (a.static .outputVirAddr r.inDataSize).bytes .outputVirAddr =
      a₀.firstUse .outputVirAddr r.inDataSize := by
    simpa [Arena.bytes_static] using h.virAddr
  rw [← hbytes] at hwritten harea hblit
  rw [← extent_yuyvWrites] at hwritten
  have hread : ReadFits a₀ r (extent (yuyvReads sz.width sz.height r.inDataSize)) := by
    rw [ReadFits, hr]
    exact nofun
  have hstart := h.static.readInData hread
  have hsame (n : ℕ) : Staging.readInData (a.static .outputVirAddr r.inDataSize) r n =
      a.static .outputVirAddr r.inDataSize := by
    rw [Staging.readInData, hr]
  rw [hsame] at hstart
  unfold Staging.convertNv12
  dsimp only
  rw [hsame]
  exact ((hstart.copy hwritten).copy harea).copy hblit

theorem Filling.fillYcbcr {yu12Size : Size} {p : HalStreamBuffer × BufferOutcome}
    (h : Filling a₀ r a) (hr : Placed a₀ r) (hfits : YcbcrFits ext yu12Size r a₀ p) :
    Filling a₀ r (fillYcbcr ext yu12Size r a p) := by
  unfold YcbcrFits at hfits
  unfold Staging.fillYcbcr
  dsimp only at hfits ⊢
  split at hfits
  · rename_i hf
    have hnone : r.inData = none := by
      by_contra hsome
      exact absurd (hf.symm.trans (hr.fourcc hsome)) (by decide)
    rw [if_pos hf]
    split
    · exact h
    · exact h.convertNv12 hnone (hfits (not_not.mp ‹_›))
  · rename_i hf
    rw [if_neg hf]
    split at hfits
    · rename_i hraw
      rw [if_pos hraw]
      split at hfits
      · rename_i hd
        rw [if_pos hd]
        apply h.copyDepth
        rw [extent_yuyvReads]
        exact hfits.2
      · rename_i hd
        rw [if_neg hd]
        apply h.readInData
        rw [extent_yuyvReads]
        exact hfits.2
    · rename_i hraw
      rw [if_neg hraw]
      exact h

theorem Filling.fill {yu12Size : Size} {p : HalStreamBuffer × BufferOutcome} (h : Filling a₀ r a)
    (hr : Placed a₀ r) (hfits : BufferFits ext yu12Size r a₀ p) :
    Filling a₀ r (fill ext yu12Size r a p) := by
  have hraw (hfits : if r.device = .sub ∧ r.request.frameIn.bufferIndex % 2 = 0 then
        (size p.1).area * 2 % 2 ^ 32 ≤ kDepthMapSize
      else ReadFits a₀ r ((size p.1).area * 2 % 2 ^ 32)) :
      Filling a₀ r (if r.device = .sub ∧ r.request.frameIn.bufferIndex % 2 = 0 then
        a.copy .outputDepthMap ((size p.1).area * 2 % 2 ^ 32)
      else Staging.readInData a r ((size p.1).area * 2 % 2 ^ 32)) := by
    split
    · rename_i hd
      rw [if_pos hd] at hfits
      exact h.copyDepth hfits
    · rename_i hd
      rw [if_neg hd] at hfits
      exact h.readInData hfits
  unfold BufferFits at hfits
  unfold Staging.fill
  cases hformat : p.1.format <;> rw [hformat] at hfits
  case blob => exact h
  case yv12 => exact h
  case other => exact h
  case y16 => exact h.readInData hr.reads
  case raw10 => exact h.readInData hfits
  case raw12 => exact hraw hfits
  case raw16 => exact hraw hfits
  case ycbcr420_888 => exact h.fillYcbcr hr hfits
  case implementationDefined => exact h.fillYcbcr hr hfits
  case ycrcb420Sp => exact h.fillYcbcr hr hfits

theorem Filling.fillAll {yu12Size : Size} (hr : Placed a₀ r)
    {ps : List (HalStreamBuffer × BufferOutcome)}
    (hfits : ∀ p ∈ ps, BufferFits ext yu12Size r a₀ p) (h : Filling a₀ r a) :
    Filling a₀ r (ps.foldl (Staging.fill ext yu12Size r) a) := by
  induction ps generalizing a with
  | nil => exact h
  | cons p ps ih =>
    obtain ⟨hp, hps⟩ := List.forall_mem_cons.mp hfits
    exact ih hps (h.fill hr hp)

theorem output_sound {o : OutputOutcome} {frameCount : ℤ} (h : Sound a) (hr : Placed a r)
    (hfits : OutputFits ext a r o frameCount) :
    Sound (output ext a r o frameCount) ∧ a.Grows (output ext a r o frameCount) := by
  unfold output
  split
  · obtain ⟨hdepth, hbuffers⟩ := hfits ‹_›
    have hstart := Filling.start (r := r) h
    have hcomputed : Filling a r (if r.device = .sub then
        computeDepth ext (a.static .outputDepthMap kDepthMapSize) r o frameCount
        else a.static .outputDepthMap kDepthMapSize) := by
      split
      · exact hstart.computeDepth hr (hdepth ‹_›)
      · exact hstart
    have hfilled := hcomputed.fillAll hr hbuffers
    exact ⟨hfilled.sound, hfilled.grows⟩
  · exact ⟨h, .refl a⟩

/-! ### Runs -/

/-- What every step keeps, as long as the frames fit. -/
structure Fitting (s : State) : Prop where
  sound : Sound s.statics
  pushed : s.subDeviceInDataSize ≤ s.statics.bytes .subDeviceInData
  placed : ∀ r ∈ s.submitted, Placed s.statics r

theorem fitting_create : Fitting State.create := ⟨sound_empty, Nat.le_refl 0, nofun⟩

theorem step_fitting {s t : State} {l : Label} (hst : Step ext s l t) (hfits : Fits ext s l)
    (h : Fitting s) : Fitting t := by
  unfold Step ofPartial at hst
  cases l with
  | dequeueV4l2FrameLocked device index tmpDataSize =>
    simp only [State.step] at hst
    split at hst
    · cases hst
      obtain ⟨hsound, hpushed⟩ := pushSubDevice_sound h.sound (hfits ‹_›)
      exact ⟨hsound, hpushed, fun r hr ↦ (h.placed r hr).grows (grows_pushSubDevice _ _)⟩
    · cases hst
      exact h
  | convert device req inDataSize decoded shareFd =>
    cases hst
    obtain ⟨hsound, hgrows, hplaced⟩ := convert_sound decoded shareFd h.sound h.pushed hfits
    refine ⟨hsound, h.pushed.trans (hgrows.bytes_le _), ?_⟩
    intro r hr
    rcases List.mem_append.mp hr with hr | hr
    · exact (h.placed r hr).grows hgrows
    · exact hplaced r (Option.mem_toList.mp hr)
  | output i o =>
    obtain ⟨r, hr, rfl⟩ := Option.map_eq_some_iff.mp hst
    obtain ⟨hsound, hgrows⟩ := output_sound h.sound (h.placed r (List.mem_of_getElem? hr))
      (hfits r hr)
    refine ⟨hsound, h.pushed.trans (hgrows.bytes_le _), ?_⟩
    exact fun r' hr' ↦ (h.placed r' (List.mem_of_mem_eraseIdx hr')).grows hgrows

/-- While no frame is larger than the first ones, for which the buffers were allocated, every
copy stays in its buffer, across all configurations and sessions. -/
theorem staging_copies_fit (ext : Extents) {s : State}
    (h : Reachable (restrict (Step ext) (Fits ext)) State.create s) :
    ∀ c ∈ s.statics.copies, c.bytes ≤ s.statics.bytes c.buffer := by
  have hfitting : Fitting s := by
    apply h.invariant (P := Fitting) _ fitting_create
    exact fun _ _ _ hst ↦ step_fitting hst.1 hst.2
  exact hfitting.sound.safe

/-! ### A sub-device, and a change of the resolution -/

section Decidable

variable {p : HalStreamBuffer × BufferOutcome} {o : OutputOutcome} {frameCount : ℤ}
variable {yu12Size sz : Size} {device : Device} {f : V4L2Frame} {pixels m : ℕ}

instance : Decidable (LimitFits a pixels n) := inferInstanceAs (Decidable (_ ∧ _))

instance : Decidable (ConvertFits a m device f n) := inferInstanceAs (Decidable (_ → _))

instance : Decidable (ReadFits a r n) := inferInstanceAs (Decidable (∀ b ∈ r.inData, _))

instance : Decidable (IntFits sz n) := inferInstanceAs (Decidable (_ ∧ _))

instance : Decidable (DepthFits ext a r o frameCount) := inferInstanceAs (Decidable (_ ∧ _ ∧ _))

instance : Decidable (Nv12Fits ext yu12Size sz a n) :=
  inferInstanceAs (Decidable (_ ∧ _ ∧ _ ∧ _))

instance : Decidable (YcbcrFits ext yu12Size r a p) := inferInstanceAs (Decidable (ite _ _ _))

instance : Decidable (BufferFits ext yu12Size r a p) :=
  match hf : p.1.format with
  | .blob | .yv12 | .y16 | .other _ => .isTrue (by rw [BufferFits, hf]; trivial)
  | .raw10 => decidable_of_iff (ReadFits a r ((size p.1).area * 5 / 4)) (by rw [BufferFits, hf])
  | .raw12 | .raw16 =>
    decidable_of_iff (if r.device = .sub ∧ r.request.frameIn.bufferIndex % 2 = 0 then
      (size p.1).area * 2 % 2 ^ 32 ≤ kDepthMapSize
      else ReadFits a r ((size p.1).area * 2 % 2 ^ 32)) (by rw [BufferFits, hf])
  | .ycbcr420_888 | .implementationDefined | .ycrcb420Sp =>
    decidable_of_iff (YcbcrFits ext yu12Size r a p) (by rw [BufferFits, hf])

instance : Decidable (OutputFits ext a r o frameCount) :=
  inferInstanceAs (Decidable (_ → (_ → _) ∧ ∀ p ∈ comesToSwitch _ _ _ _ _, BufferFits _ _ _ _ p))

instance (s : State) (l : Label) : Decidable (Fits ext s l) :=
  match l with
  | .dequeueV4l2FrameLocked .. => inferInstanceAs (Decidable (_ → _))
  | .convert .. => inferInstanceAs (Decidable (ConvertFits _ _ _ _ _))
  | .output i _ => inferInstanceAs (Decidable (∀ r ∈ s.submitted[i]?, OutputFits _ _ _ _ _))

end Decidable

def halfDepth : Extents where
  algoReads w h bpp := w * h * bpp / 8
  algoWrites w h _ := w / 2 * (h / 2) * 2
  blitReads source _ := source.width * source.height * 3 / 2

def rawRequest (width height index : ℕ) (format : PixelFormat) : HalRequest :=
  ⟨0, 1, ⟨[]⟩, ⟨width, height, v4l2PixFmtSrggb10, index⟩, 0,
    [⟨0, 1, width, height, format, 0, some 1, -1, false⟩], 0⟩

def allSucceed (width height : ℕ) : OutputOutcome :=
  ⟨⟨true, true, fun _ ↦ ⟨true, true, true, true, -1, true⟩⟩, ⟨width, height⟩, true, true⟩

/-- A sensor of 1280 by 800 pixels and the depth device behind it. -/
def depthRound : List Label :=
  [.dequeueV4l2FrameLocked .main 0 2048000,
    .convert .main (rawRequest 1280 800 1 .ycbcr420_888) 2048000 true 5,
    .convert .sub (rawRequest 640 400 0 .raw16) 0 true 5,
    .output 1 (allSucceed 640 400), .output 0 (allSucceed 1280 800)]

theorem staging_copies_fit_depthRounds : ∃ s,
    Reachable (restrict (Step halfDepth) (Fits halfDepth)) State.create s ∧
      s.statics.copies.length = 26 ∧
      ∀ c ∈ s.statics.copies, c.bytes ≤ s.statics.bytes c.buffer := by
  have h : (exec (guarded (State.step halfDepth) (Fits halfDepth)) State.create
      (depthRound ++ depthRound)).map (fun s ↦ s.statics.copies.length) = some 26 := by
    decide +kernel
  obtain ⟨s, hs, hlength⟩ := Option.map_eq_some_iff.mp h
  have hreach : Reachable (restrict (Step halfDepth) (Fits halfDepth)) State.create s :=
    ⟨_, run_restrict_of_exec hs⟩
  exact ⟨s, hreach, hlength, staging_copies_fit halfDepth hreach⟩

/-- A session with frames of 640 by 480 pixels, then one with frames of 1280 by 720. -/
def largerFrame : List Label :=
  [.convert .main (rawRequest 640 480 1 .raw16) 614400 true 5,
    .convert .main (rawRequest 1280 720 1 .raw16) 1843200 true 5]

/-- The data of the larger frame are copied into the buffer of the smaller one. -/
theorem larger_frame_overflows : ∃ s,
    Reachable (Step halfDepth) State.create s ∧
      ∃ c ∈ s.statics.copies, s.statics.bytes c.buffer < c.bytes := by
  have h : (exec (State.step halfDepth) State.create largerFrame).map (fun s ↦
      (s.statics.copies[2]?, s.statics.bytes .tempIrLimit)) =
        some (some ⟨.tempIrLimit, 1843200⟩, 614400) := by
    decide +kernel
  obtain ⟨s, hreach, hs⟩ := exists_reachable_of_exec _ h
  obtain ⟨hcopy, hbytes⟩ := Prod.mk.inj hs
  refine ⟨s, hreach, _, List.mem_of_getElem? hcopy, ?_⟩
  rw [hbytes]
  decide

end VirtualCamera.Session.Staging
