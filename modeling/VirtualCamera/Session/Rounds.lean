import VirtualCamera.Session.Configure
import VirtualCamera.Session.Request
import VirtualCamera.Session.Scaling

namespace VirtualCamera.Session.Rounds

open Library.Assoc Library.Transition Capture Streams Configure Request Scaling

/-- What the calls for one output buffer return, with the parts of `createJpegLocked`
before and after the scaling of the main image, and the scaling itself. -/
structure ScalingOutcome where
  syncWait : Bool
  jpegBefore : Bool
  jpegAfter : Bool
  i420Scale : Bool
  formatConvert : Bool
  unlockFence : ℤ
  shareFd : Bool

def ScalingOutcome.toBufferOutcome (o : ScalingOutcome) (cropAndScale : Bool) : BufferOutcome where
  syncWait := o.syncWait
  createJpeg := o.jpegBefore && cropAndScale && o.jpegAfter
  cropAndScale := cropAndScale
  formatConvert := o.formatConvert
  unlockFence := o.unlockFence
  shareFd := o.shareFd

structure RoundScaling where
  nv12ToI420 : Bool
  yuy2ToI420 : Bool
  buffer : ℕ → ScalingOutcome

def succeeded {ε α : Type} : Except ε α → Bool
  | .ok _ => true
  | .error _ => false

/-- Whether the `switch` calls `cropAndScaleLocked` for the buffer. -/
def callsCropAndScale (fourcc : UInt32) (o : ScalingOutcome) : PixelFormat → Bool
  | .blob => o.jpegBefore
  | .yv12 => true
  | .ycbcr420_888 | .implementationDefined | .ycrcb420Sp => fourcc = v4l2PixFmtYuyv
  | .y16 | .raw10 | .raw12 | .raw16 | .other _ => false

section

variable {F : Type*} (ar : AspectArith F) (ct : CroppingType) (f : AllocatedFrame)
  (fourcc : UInt32) (shareFd : ℕ)

/-- The `switch` over the format, with the buffers that the scaling works on; `f` is the
intermediate frame. -/
def fillLocked (b : OutputBuffers) (buf : HalStreamBuffer) (o : ScalingOutcome) :
    (Option Conclusion × HalStreamBuffer) × OutputBuffers :=
  if callsCropAndScale fourcc o buf.format then
    let (result, b) := cropAndScaleLocked ar ct b f ⟨buf.width, buf.height⟩ o.i420Scale
    (buf.fill fourcc shareFd (o.toBufferOutcome (succeeded result)), b)
  else (buf.fill fourcc shareFd (o.toBufferOutcome true), b)

/-- The loop over the buffers. The scaled frames are forgotten at its end, and only there. -/
def fillOutputsLocked (o : ℕ → ScalingOutcome) (b : OutputBuffers) (i : ℕ) :
    List HalStreamBuffer → (Conclusion × List HalStreamBuffer) × OutputBuffers
  | [] => ((.result, []), { b with scaledYu12Frames := ∅ })
  | buf :: rest =>
    let buf := buf.waitFence ((o i).toBufferOutcome true)
    if buf.fenceTimeout then
      let ((conclusion, rest), b) := fillOutputsLocked o b (i + 1) rest
      ((conclusion, buf :: rest), b)
    else
      match fillLocked ar ct f fourcc shareFd b buf (o i) with
      | ((some conclusion, buf), b) => ((conclusion, buf :: rest), b)
      | ((none, buf), b) =>
        let ((conclusion, rest), b) := fillOutputsLocked o b (i + 1) rest
        ((conclusion, buf :: rest), b)

end

/-- One round of `OutputThread::threadLoop`, under `mBufferLock`. -/
def processRequestLocked {F : Type*} (ar : AspectArith F) (ct : CroppingType) (f : AllocatedFrame)
    (b : OutputBuffers) (req : HalRequest) (o : RoundScaling) :
    (Conclusion × HalRequest) × OutputBuffers :=
  if ¬ supportedFourcc req.frameIn.fourcc then ((.deviceError, req), b)
  else if isBlobOrYv12 req ∧ req.frameIn.fourcc = v4l2PixFmtNv12 ∧ ¬ o.nv12ToI420 then
    ((.requestError, req), b)
  else if isBlobOrYv12 req ∧ req.frameIn.fourcc = v4l2PixFmtYuyv ∧ ¬ o.yuy2ToI420 then
    ((.requestError, req), b)
  else
    let ((conclusion, buffers), b) :=
      fillOutputsLocked ar ct f req.frameIn.fourcc req.shareFd o.buffer b 0 req.buffers
    ((conclusion, { req with buffers := buffers }), b)

/-! ### The round without the buffers -/

theorem fillOutputs_congr {fourcc : UInt32} {shareFd : ℕ} {o o' : ℕ → BufferOutcome} {i : ℕ}
    (h : ∀ j, i ≤ j → o j = o' j) (bufs : List HalStreamBuffer) :
    fillOutputs fourcc shareFd o i bufs = fillOutputs fourcc shareFd o' i bufs := by
  induction bufs generalizing i with
  | nil => rfl
  | cons buf rest ih =>
    have hrest := ih (i := i + 1) fun j hj ↦ h j (by omega)
    simp only [fillOutputs, h i (Nat.le_refl i), hrest]

theorem waitFence_congr (buf : HalStreamBuffer) {o o' : BufferOutcome}
    (h : o.syncWait = o'.syncWait) : buf.waitFence o = buf.waitFence o' := by
  simp only [HalStreamBuffer.waitFence, h]

theorem fillLocked_fst {F : Type*} (ar : AspectArith F) (ct : CroppingType) (f : AllocatedFrame)
    (fourcc : UInt32) (shareFd : ℕ) (b : OutputBuffers) (buf : HalStreamBuffer)
    (o : ScalingOutcome) : ∃ cropAndScale,
      (fillLocked ar ct f fourcc shareFd b buf o).1 =
        buf.fill fourcc shareFd (o.toBufferOutcome cropAndScale) := by
  unfold fillLocked
  split
  · exact ⟨_, rfl⟩
  · exact ⟨true, rfl⟩

theorem fillOutputs_update (fourcc : UInt32) (shareFd : ℕ) (o : ℕ → BufferOutcome) (i : ℕ)
    (x : BufferOutcome) (bufs : List HalStreamBuffer) :
    fillOutputs fourcc shareFd (Function.update o i x) (i + 1) bufs =
      fillOutputs fourcc shareFd o (i + 1) bufs := by
  apply fillOutputs_congr
  intro j hj
  have hne : j ≠ i := by omega
  exact Function.update_of_ne hne x o

theorem fillOutputsLocked_fst {F : Type*} (ar : AspectArith F) (ct : CroppingType)
    (f : AllocatedFrame) (fourcc : UInt32) (shareFd : ℕ) (o : ℕ → ScalingOutcome)
    (b : OutputBuffers) (i : ℕ) (bufs : List HalStreamBuffer) : ∃ o',
      (fillOutputsLocked ar ct f fourcc shareFd o b i bufs).1 =
        fillOutputs fourcc shareFd o' i bufs := by
  induction bufs generalizing b i with
  | nil => exact ⟨fun i ↦ (o i).toBufferOutcome true, rfl⟩
  | cons buf rest ih =>
    obtain ⟨crop, hcrop⟩ := fillLocked_fst ar ct f fourcc shareFd b
      (buf.waitFence ((o i).toBufferOutcome true)) (o i)
    have hwait : buf.waitFence ((o i).toBufferOutcome crop) =
        buf.waitFence ((o i).toBufferOutcome true) := waitFence_congr buf rfl
    unfold fillOutputsLocked
    dsimp only
    split
    · rename_i ht
      obtain ⟨o', ho'⟩ := ih b (i + 1)
      refine ⟨Function.update o' i ((o i).toBufferOutcome true), ?_⟩
      simp only [fillOutputs, Function.update_self, ht, if_true, fillOutputs_update, ho']
    · rename_i ht
      split
      · rename_i conclusion buf' b' hfill
        rw [hfill] at hcrop
        refine ⟨fun _ ↦ (o i).toBufferOutcome crop, ?_⟩
        simp only [fillOutputs, hwait, ht, ← hcrop]
        rfl
      · rename_i buf' b' hfill
        rw [hfill] at hcrop
        obtain ⟨o', ho'⟩ := ih b' (i + 1)
        refine ⟨Function.update o' i ((o i).toBufferOutcome crop), ?_⟩
        simp only [fillOutputs, Function.update_self, hwait, ht, ← hcrop, fillOutputs_update, ho']
        rfl

/-- A round with the buffers concludes as a round of the pipeline can. -/
theorem processRequestLocked_fst {F : Type*} (ar : AspectArith F) (ct : CroppingType)
    (f : AllocatedFrame) (b : OutputBuffers) (req : HalRequest) (o : RoundScaling) :
    ∃ o', (processRequestLocked ar ct f b req o).1 = processRequest req o' := by
  obtain ⟨o', ho'⟩ := fillOutputsLocked_fst ar ct f req.frameIn.fourcc req.shareFd o.buffer b 0
    req.buffers
  refine ⟨⟨o.nv12ToI420, o.yuy2ToI420, o'⟩, ?_⟩
  unfold processRequestLocked processRequest
  dsimp only
  split
  · rfl
  · split
    · rfl
    · split
      · rfl
      · simp only [ho']

theorem fillOutputsLocked_snd {F : Type*} (ar : AspectArith F) (ct : CroppingType)
    (f : AllocatedFrame) (fourcc : UInt32) (shareFd : ℕ) (o : ℕ → ScalingOutcome)
    (b : OutputBuffers) (i : ℕ) (bufs : List HalStreamBuffer) : ∃ frames,
      (fillOutputsLocked ar ct f fourcc shareFd o b i bufs).2 =
        { b with scaledYu12Frames := frames } := by
  induction bufs generalizing b i with
  | nil => exact ⟨∅, rfl⟩
  | cons buf rest ih =>
    have hfill : ∀ buf, ∃ frames, (fillLocked ar ct f fourcc shareFd b buf (o i)).2 =
        { b with scaledYu12Frames := frames } := by
      intro buf
      unfold fillLocked
      split
      · exact cropAndScaleLocked_snd ar ct b f ⟨buf.width, buf.height⟩ (o i).i420Scale
      · exact ⟨b.scaledYu12Frames, rfl⟩
    unfold fillOutputsLocked
    dsimp only
    split
    · exact ih b (i + 1)
    · obtain ⟨frames, hframes⟩ := hfill (buf.waitFence ((o i).toBufferOutcome true))
      split
      · rename_i hf
        rw [hf] at hframes
        exact ⟨frames, hframes⟩
      · rename_i b' hf
        rw [hf] at hframes
        obtain ⟨frames', hframes'⟩ := ih b' (i + 1)
        have hb : b' = { b with scaledYu12Frames := frames } := hframes
        exact ⟨frames', by rw [hframes', hb]⟩

theorem processRequestLocked_snd {F : Type*} (ar : AspectArith F) (ct : CroppingType)
    (f : AllocatedFrame) (b : OutputBuffers) (req : HalRequest) (o : RoundScaling) :
    ∃ frames, (processRequestLocked ar ct f b req o).2 = { b with scaledYu12Frames := frames } := by
  unfold processRequestLocked
  split
  · exact ⟨b.scaledYu12Frames, rfl⟩
  · split
    · exact ⟨b.scaledYu12Frames, rfl⟩
    · split
      · exact ⟨b.scaledYu12Frames, rfl⟩
      · exact fillOutputsLocked_snd ar ct f req.frameIn.fourcc req.shareFd o.buffer b 0 req.buffers

/-! ### Configurations and rounds -/

/-- `exited` is whether the output thread has left its loop. -/
structure State where
  device : DeviceSession
  exited : Bool

inductive Label (F : Type)
  | configureStreams (ar : AspectArith F) (config : StreamConfiguration) (blobBufferSize : ℕ)
      (o : ConfigureOutcome)
  | round (ar : AspectArith F) (req : HalRequest) (o : RoundScaling)
  | session (device : DeviceSession)

/-- A round ends with the thread waiting for the next request, or with its end. The rest of
the session leaves the buffers of the output thread as they are. -/
def State.step {F : Type} (s : State) : Label F → Option State
  | .configureStreams ar config blobBufferSize o =>
    (s.device.configureStreams ar config blobBufferSize o).map fun result ↦
      { s with device := result.2.2 }
  | .round ar req o =>
    if s.exited then none
    else
      s.device.output.yu12Frame.map fun f ↦
        let ((conclusion, _), output) :=
          processRequestLocked ar s.device.croppingType f s.device.output req o
        { device := { s.device with output := output }, exited := conclusion = .deviceError }
  | .session device => some { s with device := { device with output := s.device.output } }

abbrev Step {F : Type} : State → Label F → State → Prop := ofPartial State.step

def OutputBuffers.create : OutputBuffers := ⟨none, none, ∅, ∅, 0⟩

def State.create (device : DeviceSession) : State :=
  ⟨{ device with output := OutputBuffers.create }, false⟩

/-! ### A session with two sizes -/

def mjpeg (width height : ℕ) : SupportedV4L2Format := ⟨width, height, v4l2PixFmtMjpeg, [⟨1, 30⟩]⟩

/-- A camera that sends MJPEG in two sizes, before the first configuration. -/
def mjpegSession : DeviceSession :=
  { configured with
    supportedFormats := [mjpeg 640 480, mjpeg 1280 720]
    croppingType := .horizontal
    maps := ⟨∅, ∅, []⟩ }

def driverSets (width height : ℕ) : ConfigureOutcome :=
  { unused with
    width := width
    height := height
    sizeimage := width * height * 2
    reqbufs := some 4
    warmupDqbuf := fun i ↦ some (i % 4) }

end VirtualCamera.Session.Rounds
