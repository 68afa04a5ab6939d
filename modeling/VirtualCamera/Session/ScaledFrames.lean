import VirtualCamera.Session.Configure
import VirtualCamera.Session.Rounds

namespace VirtualCamera.Session.ScaledFrames

open Library.Assoc Library.Fallible Library.Transition Streams Configure Request Scaling Rounds
open Capture hiding State Label

/-! ### When a round is left -/

section

variable {F : Type*} (ar : AspectArith F) (ct : CroppingType) (f : AllocatedFrame)
  (fourcc : UInt32) (shareFd : ℕ)

/-- Whether the image of the buffer is scaled into an intermediate buffer, and that works. -/
def scales (b : OutputBuffers) (buf : HalStreamBuffer) (o : ScalingOutcome) : Bool :=
  match cropOnly ar ct f ⟨buf.width, buf.height⟩ with
  | .ok none => succeeded (scaleInto b ⟨buf.width, buf.height⟩ o.i420Scale)
  | _ => false

/-- Whether the crop alone, or the crop and the scaling, succeed. -/
def crops (b : OutputBuffers) (buf : HalStreamBuffer) (o : ScalingOutcome) : Bool :=
  match cropOnly ar ct f ⟨buf.width, buf.height⟩ with
  | .ok (some _) => true
  | _ => scales ar ct f b buf o

/-- Whether one of the returns of the `switch` is taken for the buffer. -/
def leavesAt (b : OutputBuffers) (buf : HalStreamBuffer) (o : ScalingOutcome) : Bool :=
  (buf.fill fourcc shareFd (o.toBufferOutcome (crops ar ct f b buf o))).1.isSome

/-- The loop is not left at a buffer after it has scaled, for this one or one before. -/
def leftClean (b : OutputBuffers) (o : ℕ → ScalingOutcome) (i : ℕ) (scaled : Bool) :
    List HalStreamBuffer → Bool
  | [] => true
  | buf :: rest =>
    let buf := buf.waitFence ((o i).toBufferOutcome true)
    if buf.fenceTimeout then leftClean b o (i + 1) scaled rest
    else
      let scaled := scaled || (callsCropAndScale fourcc (o i) buf.format && scales ar ct f b buf (o i))
      if leavesAt ar ct f fourcc shareFd b buf (o i) then !scaled
      else leftClean b o (i + 1) scaled rest

/-- No early exit of the round is taken after a buffer has been scaled. -/
def roundClean (b : OutputBuffers) (req : HalRequest) (o : RoundScaling) : Bool :=
  ¬ supportedFourcc req.frameIn.fourcc ∨
  (isBlobOrYv12 req ∧ req.frameIn.fourcc = v4l2PixFmtNv12 ∧ ¬ o.nv12ToI420) ∨
  (isBlobOrYv12 req ∧ req.frameIn.fourcc = v4l2PixFmtYuyv ∧ ¬ o.yuy2ToI420) ∨
  leftClean ar ct f req.frameIn.fourcc req.shareFd b o.buffer 0 false req.buffers

end

/-! ### The cache through a round -/

theorem scaleInto_ok {b : OutputBuffers} {outSz : Size} {i420Scale : Bool} {layout : YCbCrLayout}
    {g : AllocatedFrame} (h : scaleInto b outSz i420Scale = .ok (layout, g)) :
    (b.scaledYu12Frames.lookup outSz).or (b.intermediateBuffers.lookup outSz) = some g := by
  obtain ⟨g', hg, h⟩ := bind_eq_ok.mp h
  obtain ⟨layout', -, h⟩ := bind_eq_ok.mp h
  split at h
  · cases h
    exact orError_eq_ok.mp hg
  · cases h

structure Midway (b₀ b : OutputBuffers) (scaled : Bool) : Prop where
  same : ∃ frames, b = { b₀ with scaledYu12Frames := frames }
  among : ∀ sz g, b.scaledYu12Frames.lookup sz = some g →
    b₀.intermediateBuffers.lookup sz = some g
  empty : b.scaledYu12Frames = ∅ ↔ scaled = false

theorem Midway.start {b : OutputBuffers} (h : b.scaledYu12Frames = ∅) : Midway b b false := by
  refine ⟨⟨b.scaledYu12Frames, rfl⟩, fun sz g hg ↦ ?_, by simp [h]⟩
  rw [h] at hg
  cases hg

theorem Midway.scaleInto {b₀ b : OutputBuffers} {scaled : Bool} (h : Midway b₀ b scaled)
    (hempty : b₀.scaledYu12Frames = ∅) (outSz : Size) (i420Scale : Bool) :
    scaleInto b outSz i420Scale = Scaling.scaleInto b₀ outSz i420Scale := by
  obtain ⟨frames, rfl⟩ := h.same
  have hlookup : (frames.lookup outSz).or (b₀.intermediateBuffers.lookup outSz) =
      (b₀.scaledYu12Frames.lookup outSz).or (b₀.intermediateBuffers.lookup outSz) := by
    rw [hempty]
    cases hf : frames.lookup outSz with
    | none => rfl
    | some g => rw [h.among outSz g hf]; rfl
  unfold Scaling.scaleInto
  dsimp only
  rw [hlookup]

theorem emplace_ne_empty {α β : Type*} [DecidableEq α] (a : α) (b : β) (m : Map α β) :
    emplace a b m ≠ ∅ := by
  intro h
  have hlookup := lookup_emplace a b m
  rw [h] at hlookup
  cases hlookup

theorem Midway.insert {b₀ b : OutputBuffers} {scaled : Bool} (h : Midway b₀ b scaled) {sz : Size}
    {g : AllocatedFrame} (hg : b₀.intermediateBuffers.lookup sz = some g) :
    Midway b₀ { b with scaledYu12Frames := emplace sz g b.scaledYu12Frames } true := by
  obtain ⟨frames, hframes⟩ := h.same
  refine ⟨⟨emplace sz g b.scaledYu12Frames, by rw [hframes]⟩, fun sz' g' hg' ↦ ?_, ?_⟩
  · by_cases hsz : sz' = sz
    · subst hsz
      have hlookup := lookup_emplace sz' g b.scaledYu12Frames
      cases hold : b.scaledYu12Frames.lookup sz' with
      | none =>
        rw [hold, Option.getD_none] at hlookup
        cases hlookup.symm.trans hg'
        exact hg
      | some g₁ =>
        rw [hold, Option.getD_some] at hlookup
        cases hlookup.symm.trans hg'
        exact h.among sz' _ hold
    · exact h.among sz' g' ((lookup_emplace_ne hsz g b.scaledYu12Frames).symm.trans hg')
  · constructor
    · exact fun he ↦ absurd he (emplace_ne_empty sz g b.scaledYu12Frames)
    · intro he
      cases he

theorem Midway.cropAndScaleLocked {F : Type*} {b₀ b : OutputBuffers} {scaled : Bool}
    (h : Midway b₀ b scaled) (ar : AspectArith F) (ct : CroppingType) (f : AllocatedFrame)
    (hempty : b₀.scaledYu12Frames = ∅) (buf : HalStreamBuffer) (o : ScalingOutcome) :
    let result := cropAndScaleLocked ar ct b f ⟨buf.width, buf.height⟩ o.i420Scale
    succeeded result.1 = crops ar ct f b₀ buf o ∧
      Midway b₀ result.2 (scaled || scales ar ct f b₀ buf o) := by
  have hinto := h.scaleInto hempty ⟨buf.width, buf.height⟩ o.i420Scale
  unfold Scaling.cropAndScaleLocked crops scales
  cases hcrop : cropOnly ar ct f ⟨buf.width, buf.height⟩ with
  | error e => exact ⟨rfl, by simpa using h⟩
  | ok layout =>
    cases layout with
    | some layout => exact ⟨rfl, by simpa using h⟩
    | none =>
      dsimp only
      rw [hinto]
      cases hscale : Scaling.scaleInto b₀ ⟨buf.width, buf.height⟩ o.i420Scale with
      | error e => exact ⟨rfl, by simpa [succeeded] using h⟩
      | ok result =>
        obtain ⟨layout, g⟩ := result
        refine ⟨rfl, ?_⟩
        have hscaled : (scaled || succeeded (Except.ok (layout, g) :
            Except CropAndScaleError (YCbCrLayout × AllocatedFrame))) = true := by
          simp [succeeded]
        rw [hscaled]
        apply h.insert
        have hlookup := scaleInto_ok hscale
        rw [hempty] at hlookup
        exact hlookup

theorem fill_without_crop {buf : HalStreamBuffer} {fourcc : UInt32} {o : ScalingOutcome}
    (h : callsCropAndScale fourcc o buf.format = false) (shareFd : ℕ) (crop crop' : Bool) :
    buf.fill fourcc shareFd (o.toBufferOutcome crop) =
      buf.fill fourcc shareFd (o.toBufferOutcome crop') := by
  unfold HalStreamBuffer.fill
  cases hformat : buf.format <;> simp only [hformat, callsCropAndScale] at h ⊢
  case blob =>
    simp only [ScalingOutcome.toBufferOutcome, h, Bool.false_and]
    rfl
  case yv12 => cases h
  case implementationDefined | ycbcr420_888 | ycrcb420Sp =>
    have hne : fourcc ≠ v4l2PixFmtYuyv := of_decide_eq_false h
    simp only [hne, if_false]
    rfl
  all_goals rfl

theorem Midway.fillLocked {F : Type*} {b₀ b : OutputBuffers} {scaled : Bool}
    (h : Midway b₀ b scaled) (ar : AspectArith F) (ct : CroppingType) (f : AllocatedFrame)
    (fourcc : UInt32) (shareFd : ℕ) (hempty : b₀.scaledYu12Frames = ∅) (buf : HalStreamBuffer)
    (o : ScalingOutcome) :
    (fillLocked ar ct f fourcc shareFd b buf o).1.1.isSome =
      leavesAt ar ct f fourcc shareFd b₀ buf o ∧
    Midway b₀ (fillLocked ar ct f fourcc shareFd b buf o).2
      (scaled || (callsCropAndScale fourcc o buf.format && scales ar ct f b₀ buf o)) := by
  obtain ⟨hsucceeded, hmid⟩ := h.cropAndScaleLocked ar ct f hempty buf o
  unfold Rounds.fillLocked leavesAt
  cases hc : callsCropAndScale fourcc o buf.format with
  | true =>
    simp only [if_true, hsucceeded, Bool.true_and]
    exact ⟨trivial, hmid⟩
  | false =>
    simp only [Bool.false_eq_true, if_false, Bool.false_and, Bool.or_false]
    exact ⟨by rw [fill_without_crop hc shareFd true (crops ar ct f b₀ buf o)], h⟩

/-- After the loop the cache is empty just when the loop was not left after a scaling. -/
theorem fillOutputsLocked_empty {F : Type*} (ar : AspectArith F) (ct : CroppingType)
    (f : AllocatedFrame) (fourcc : UInt32) (shareFd : ℕ) (o : ℕ → ScalingOutcome)
    {b₀ b : OutputBuffers} {scaled : Bool} (h : Midway b₀ b scaled)
    (hempty : b₀.scaledYu12Frames = ∅) (i : ℕ) (bufs : List HalStreamBuffer) :
    (fillOutputsLocked ar ct f fourcc shareFd o b i bufs).2.scaledYu12Frames = ∅ ↔
      leftClean ar ct f fourcc shareFd b₀ o i scaled bufs := by
  induction bufs generalizing b scaled i with
  | nil => simp [fillOutputsLocked, leftClean]
  | cons buf rest ih =>
    unfold fillOutputsLocked leftClean
    dsimp only
    split
    · exact ih h (i + 1)
    · obtain ⟨hleaves, hmid⟩ := h.fillLocked ar ct f fourcc shareFd hempty
        (buf.waitFence ((o i).toBufferOutcome true)) (o i)
      split
      · rename_i conclusion buf' b' hfill
        rw [hfill] at hleaves hmid
        rw [← hleaves]
        simp only [Option.isSome_some, if_true]
        exact hmid.empty.trans (by rw [Bool.not_eq_true'])
      · rename_i buf' b' hfill
        rw [hfill] at hleaves hmid
        rw [← hleaves, if_neg (by simp)]
        exact ih hmid (i + 1)

/-- A round that starts with an empty cache ends with one just when it was clean. -/
theorem processRequestLocked_empty {F : Type*} {ar : AspectArith F} {ct : CroppingType}
    {f : AllocatedFrame} {b : OutputBuffers} (hempty : b.scaledYu12Frames = ∅) (req : HalRequest)
    (o : RoundScaling) :
    (processRequestLocked ar ct f b req o).2.scaledYu12Frames = ∅ ↔
      roundClean ar ct f b req o := by
  have hloop := fillOutputsLocked_empty ar ct f req.frameIn.fourcc req.shareFd o.buffer
    (.start hempty) hempty 0 req.buffers
  unfold processRequestLocked roundClean
  simp only [decide_eq_true_eq]
  split
  · rename_i hfourcc
    exact ⟨fun _ ↦ .inl hfourcc, fun _ ↦ hempty⟩
  · rename_i hfourcc
    split
    · rename_i hnv12
      exact ⟨fun _ ↦ .inr (.inl hnv12), fun _ ↦ hempty⟩
    · rename_i hnv12
      split
      · rename_i hyuyv
        exact ⟨fun _ ↦ .inr (.inr (.inl hyuyv)), fun _ ↦ hempty⟩
      · rename_i hyuyv
        refine ⟨fun h ↦ .inr (.inr (.inr (hloop.mp h))), fun h ↦ hloop.mpr ?_⟩
        rcases h with h | h | h | h
        · exact absurd h hfourcc
        · exact absurd h hnv12
        · exact absurd h hyuyv
        · exact h

/-! ### The cache over a run -/

theorem allocate_scaled (b : OutputBuffers) (v4lSize thumbSize : Size) (streams : List Stream)
    (blobBufferSize : ℕ) :
    (b.allocateIntermediateBuffers v4lSize thumbSize streams blobBufferSize).2.scaledYu12Frames =
      b.scaledYu12Frames := by
  unfold OutputBuffers.allocateIntermediateBuffers
  split
  · rfl
  · split
    · rfl
    · dsimp only
      split
      · rfl
      · split <;> rfl

theorem program_scaled {F : Type*} (ar : AspectArith F) (s : DeviceSession)
    (config : StreamConfiguration) (blobBufferSize : ℕ) (o : ConfigureOutcome) :
    (s.program ar config blobBufferSize o).2.2.output.scaledYu12Frames =
      s.output.scaledYu12Frames := by
  unfold DeviceSession.program
  dsimp only
  split
  · rfl
  · split
    · rfl
    · rename_i fmt v hset
      split
      · rfl
      · have halloc := allocate_scaled s.output ⟨fmt.width, fmt.height⟩ s.maxThumbResolution
          config.streams blobBufferSize
        split
        · rename_i output ha
          rw [ha] at halloc
          split <;> exact halloc
        · rename_i ha
          rw [ha] at halloc
          exact halloc

theorem configureStreams_scaled {F : Type*} {ar : AspectArith F} {s : DeviceSession}
    {config : StreamConfiguration} {blobBufferSize : ℕ} {o : ConfigureOutcome}
    {result : Status × List HalStream × DeviceSession}
    (h : s.configureStreams ar config blobBufferSize o = some result) :
    result.2.2.output.scaledYu12Frames = s.output.scaledYu12Frames := by
  unfold DeviceSession.configureStreams at h
  split at h
  · cases h
    rfl
  · split at h
    · cases h
      rfl
    · split at h
      · cases h
        rfl
      · obtain ⟨maps, -, rfl⟩ := Option.map_eq_some_iff.mp h
        exact program_scaled ar _ config blobBufferSize o

def CleanRounds {F : Type} (s : State) : Label F → Prop
  | .round ar req o => ∀ f, s.device.output.yu12Frame = some f →
      roundClean ar s.device.croppingType f s.device.output req o
  | _ => True

theorem step_empty {F : Type} {s t : State} {a : Label F} (hst : Step s a t)
    (hok : CleanRounds s a) (hs : s.device.output.scaledYu12Frames = ∅) :
    t.device.output.scaledYu12Frames = ∅ := by
  unfold Step ofPartial at hst
  cases a with
  | configureStreams ar config blobBufferSize o =>
    obtain ⟨result, hresult, rfl⟩ := Option.map_eq_some_iff.mp hst
    exact (configureStreams_scaled hresult).trans hs
  | round ar req o =>
    simp only [Rounds.State.step] at hst
    split at hst
    · cases hst
    · obtain ⟨f, hf, rfl⟩ := Option.map_eq_some_iff.mp hst
      exact (processRequestLocked_empty hs req o).mpr (hok f hf)
  | session device =>
    cases hst
    exact hs

/-- While no early exit of a round is taken after a buffer has been scaled, the cache of
scaled frames is empty between the rounds, which is what `allocateIntermediateBuffers` asks
for. -/
theorem scaled_frames_empty {F : Type} (device : DeviceSession) {s : State}
    (h : Reachable (restrict (Step (F := F)) CleanRounds) (State.create device) s) :
    s.device.output.scaledYu12Frames.keys = [] := by
  have hempty : s.device.output.scaledYu12Frames = ∅ := by
    apply h.invariant (P := fun s ↦ s.device.output.scaledYu12Frames = ∅)
    · exact fun s a t hst hs ↦ step_empty hst.1 hst.2 hs
    · rfl
  rw [hempty]
  rfl

/-! ### A session that is left with a scaled frame -/

instance {F : Type} (s : State) (a : Label F) : Decidable (CleanRounds s a) :=
  match a with
  | .configureStreams .. => isTrue trivial
  | .session _ => isTrue trivial
  | .round ar req o =>
    match hf : s.device.output.yu12Frame with
    | none => isTrue fun f h ↦ by rw [hf] at h; cases h
    | some f =>
      decidable_of_iff (roundClean ar s.device.croppingType f s.device.output req o = true)
        ⟨fun h f' h' ↦ by rw [hf] at h'; cases h'; exact h, fun h ↦ h f hf⟩

def outputBuffer (streamId : ℤ) (width height : ℕ) (format : PixelFormat) : HalStreamBuffer :=
  ⟨streamId, 1, width, height, format, 0, some 1, -1, false⟩

/-- The buffer of the smaller stream is scaled, then comes one of the larger stream. -/
def twoOutputs : HalRequest :=
  ⟨0, 1, ⟨[]⟩, ⟨1280, 720, v4l2PixFmtMjpeg, 0⟩, 0,
    [outputBuffer 3 640 480 .yv12, outputBuffer 2 1280 720 .ycbcr420_888], 5⟩

def answers (shareFd : Bool) : RoundScaling :=
  ⟨true, true, fun _ ↦ ⟨true, true, true, true, true, -1, shareFd⟩⟩

def thenRound (shareFd : Bool) : List (Label ℚ) :=
  [.configureStreams .exact twoStreams 0 (driverSets 1280 720),
    .round .exact twoOutputs (answers shareFd)]

theorem scaled_frames_empty_thenRound : ∃ s,
    Reachable (restrict (Step (F := ℚ)) CleanRounds) (State.create mjpegSession) s ∧ s.exited = false ∧
      s.device.output.intermediateBuffers.keys = [⟨640, 480⟩] ∧
      s.device.output.scaledYu12Frames.keys = [] := by
  have h : (exec (guarded Rounds.State.step CleanRounds) (State.create mjpegSession) (thenRound true)).map
      (fun s ↦ (s.exited, s.device.output.intermediateBuffers.keys)) =
        some (false, [⟨640, 480⟩]) := by decide +kernel
  obtain ⟨s, hs, he⟩ := Option.map_eq_some_iff.mp h
  obtain ⟨hexited, hkeys⟩ := Prod.mk.inj he
  have hreach := (⟨_, run_restrict_of_exec hs⟩ : Reachable (restrict Step CleanRounds) _ s)
  exact ⟨s, hreach, hexited, hkeys, scaled_frames_empty mjpegSession hreach⟩

/-- `get_share_fd` fails for the second buffer. The thread goes on to wait with a scaled
frame in the cache, and the next configuration is refused. -/
theorem scaled_frames_kept : ∃ s,
    Reachable (Step (F := ℚ)) (State.create mjpegSession) s ∧ s.exited = false ∧
      s.device.output.scaledYu12Frames.keys ≠ [] ∧
      (s.device.configureStreams .exact twoStreams 0 (driverSets 1280 720)).map Prod.fst =
        some .internalError := by
  have h : (exec Rounds.State.step (State.create mjpegSession) (thenRound false)).map (fun s ↦
      (s.exited, s.device.output.scaledYu12Frames.keys,
        (s.device.configureStreams .exact twoStreams 0 (driverSets 1280 720)).map Prod.fst)) =
      some (false, [⟨640, 480⟩], some .internalError) := by decide +kernel
  obtain ⟨s, hreach, hs⟩ := exists_reachable_of_exec _ h
  obtain ⟨hexited, hrest⟩ := Prod.mk.inj hs
  obtain ⟨hkeys, hrefused⟩ := Prod.mk.inj hrest
  refine ⟨s, hreach, hexited, ?_, hrefused⟩
  rw [hkeys]
  exact List.cons_ne_nil _ _

end VirtualCamera.Session.ScaledFrames
