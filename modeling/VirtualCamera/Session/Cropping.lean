import Mathlib.Algebra.Order.Field.Basic
import Mathlib.Tactic.Linarith
import VirtualCamera.Session.Rounds

namespace VirtualCamera.Session.Cropping

open Library.Fallible Library.Memory Capture Streams Configure Scaling

/-- On the side that cropping leads to: the height shrinks for one type of cropping, the
width for the other. -/
def Reaches (ct : CroppingType) (arIn arOut : ℚ) : Prop :=
  match ct with
  | .vertical => arIn ≤ arOut
  | .horizontal => arOut ≤ arIn

theorem reaches_of_beyond {ct : CroppingType} {arIn arOut : ℚ}
    (h : AspectArith.exact.beyond ct arIn arOut = true) : Reaches ct arIn arOut := by
  cases ct <;> exact le_of_lt (of_decide_eq_true h)

theorem not_beyond_iff {ct : CroppingType} {arIn arOut : ℚ} :
    AspectArith.exact.beyond ct arIn arOut = false ↔ Reaches ct arOut arIn := by
  cases ct <;> simp [AspectArith.beyond, AspectArith.exact, Reaches]

theorem Reaches.trans {ct : CroppingType} {a b c : ℚ} (h : Reaches ct a b) (h' : Reaches ct b c) :
    Reaches ct a c := by
  cases ct
  · exact le_trans h' h
  · exact le_trans h h'

theorem Reaches.refl (ct : CroppingType) (a : ℚ) : Reaches ct a a := by
  cases ct <;> exact le_refl a

theorem close_between {ct : CroppingType} {arIn desiredAr arOut : ℚ}
    (hclose : |arIn - desiredAr| < 1 / 40) (hd : Reaches ct desiredAr arOut)
    (ho : ¬ Reaches ct arIn arOut) : |arIn - arOut| < 1 / 40 := by
  rw [abs_lt] at hclose ⊢
  cases ct <;> simp only [Reaches, not_le] at hd ho <;> constructor <;> linarith

def narrow (ct : CroppingType) (desiredAr : ℚ) (stream : Stream) : ℚ :=
  let aspectRatio := AspectArith.exact.ratio stream.width stream.height
  if AspectArith.exact.beyond ct aspectRatio desiredAr then aspectRatio else desiredAr

theorem narrow_reaches (ct : CroppingType) (desiredAr : ℚ) (stream : Stream) :
    Reaches ct (narrow ct desiredAr stream) desiredAr ∧
      Reaches ct (narrow ct desiredAr stream)
        (AspectArith.exact.ratio stream.width stream.height) := by
  unfold narrow
  dsimp only
  split
  · rename_i hb
    exact ⟨reaches_of_beyond hb, .refl ct _⟩
  · rename_i hb
    exact ⟨.refl ct _, not_beyond_iff.mp (Bool.eq_false_iff.mpr hb)⟩

theorem foldl_narrow_reaches (ct : CroppingType) (streams : List Stream) (desiredAr : ℚ) :
    Reaches ct (streams.foldl (narrow ct) desiredAr) desiredAr ∧
      ∀ stream ∈ streams, Reaches ct (streams.foldl (narrow ct) desiredAr)
        (AspectArith.exact.ratio stream.width stream.height) := by
  induction streams generalizing desiredAr with
  | nil => exact ⟨.refl ct _, fun stream h ↦ by cases h⟩
  | cons stream streams ih =>
    obtain ⟨hstart, hall⟩ := ih (narrow ct desiredAr stream)
    obtain ⟨hd, hs⟩ := narrow_reaches ct desiredAr stream
    refine ⟨hstart.trans hd, fun other hmem ↦ ?_⟩
    rcases List.mem_cons.mp hmem with rfl | hmem
    · exact hstart.trans hs
    · exact hall other hmem

theorem desired_reaches (ct : CroppingType) {streams : List Stream} {stream : Stream}
    (h : stream ∈ streams) : Reaches ct (desiredAspectRatio .exact ct streams)
      (AspectArith.exact.ratio stream.width stream.height) := by
  unfold desiredAspectRatio
  exact (foldl_narrow_reaches ct streams _).2 stream h

theorem matchingFormat_spec {F : Type*} (ar : AspectArith F) (ct : CroppingType) (desiredAr : F)
    (maxDim : ℕ) (found : SupportedV4L2Format) (formats : List SupportedV4L2Format) :
    let fmt := matchingFormat ar ct desiredAr maxDim found formats
    fmt = found ∨ fmt ∈ formats ∧ ar.isAspectRatioClose (ar.ratio fmt.width fmt.height) desiredAr := by
  induction formats generalizing found with
  | nil => exact .inl rfl
  | cons f formats ih =>
    simp only [matchingFormat]
    split
    · rename_i hm
      split
      · exact .inr ⟨List.mem_cons_self, hm.2⟩
      · rcases ih f with heq | ⟨hmem, hclose⟩
        · right
          rw [heq]
          exact ⟨List.mem_cons_self, hm.2⟩
        · exact .inr ⟨List.mem_cons_of_mem _ hmem, hclose⟩
    · rcases ih found with heq | ⟨hmem, hclose⟩
      · exact .inl heq
      · exact .inr ⟨List.mem_cons_of_mem _ hmem, hclose⟩

/-- A format that is selected is close to the desired ratio or beyond it. -/
theorem selectFormat_spec {F : Type*} (ar : AspectArith F) (ct : CroppingType)
    (streams : List Stream) (formats : List SupportedV4L2Format)
    (hw : (selectFormat ar ct streams formats).width ≠ 0) :
    let fmt := selectFormat ar ct streams formats
    let desiredAr := desiredAspectRatio ar ct streams
    fmt ∈ formats ∧ (ar.isAspectRatioClose (ar.ratio fmt.width fmt.height) desiredAr ∨
      ar.beyond ct (ar.ratio fmt.width fmt.height) desiredAr) := by
  unfold selectFormat at hw ⊢
  dsimp only at hw ⊢
  have hspec := matchingFormat_spec ar ct (desiredAspectRatio ar ct streams)
    (maxDimension ct streams) ⟨0, 0, 0, []⟩ formats
  split
  · rename_i hzero
    rw [if_pos hzero] at hw
    cases hc : croppableFormat ar ct (desiredAspectRatio ar ct streams)
        (maxDimension ct streams) formats with
    | none =>
      rw [hc] at hw
      exact absurd hzero hw
    | some fmt =>
      have hfound := List.find?_some hc
      simp only [decide_eq_true_eq] at hfound
      exact ⟨List.mem_of_find?_eq_some hc, .inr hfound.2⟩
  · rename_i hne
    rcases hspec with heq | ⟨hmem, hclose⟩
    · rw [heq] at hne
      exact absurd rfl hne
    · exact ⟨hmem, .inl hclose⟩

/-- The ratio of the crop says which of the scaled dimensions fits. -/
theorem scaled_le {inW inH outW outH : ℕ} (hin : 0 < inH) (hout : 0 < outH)
    (h : (inW : ℚ) / inH ≤ outW / outH) : outH * inW ≤ inH * outW := by
  rw [div_le_div_iff₀ (by exact_mod_cast hin) (by exact_mod_cast hout)] at h
  have hle : inW * outH ≤ outW * inH := by exact_mod_cast h
  rw [Nat.mul_comm outH, Nat.mul_comm inH]
  exact hle

theorem getCropRect_ok (ct : CroppingType) (inSize outSize : Size) (hwidth : 0 < inSize.width)
    (hin : 0 < inSize.height) (hout : 0 < outSize.height)
    (hr : Reaches ct (AspectArith.exact.ratio inSize.width inSize.height)
      (AspectArith.exact.ratio outSize.width outSize.height)) :
    ∃ rect, getCropRect .exact ct inSize outSize = .ok rect := by
  unfold getCropRect
  dsimp only
  split
  · exact ⟨_, rfl⟩
  · cases ct with
    | vertical =>
      have hle : outSize.height * inSize.width ≤ inSize.height * outSize.width :=
        scaled_le hin hout hr
      have hne : outSize.width ≠ 0 := by
        intro hzero
        rw [hzero, Nat.mul_zero] at hle
        have hpos := Nat.mul_pos hout hwidth
        omega
      have hfit : ¬ inSize.height < outSize.height * inSize.width / outSize.width :=
        Nat.not_lt.mpr (Nat.div_le_of_le_mul (by rwa [Nat.mul_comm outSize.width]))
      exact ⟨_, by rw [if_neg hne, if_neg hfit]⟩
    | horizontal =>
      have hle : inSize.height * outSize.width ≤ outSize.height * inSize.width :=
        scaled_le hout hin hr
      have hfit : ¬ inSize.width < outSize.width * inSize.height / outSize.height :=
        Nat.not_lt.mpr (Nat.div_le_of_le_mul (by rwa [Nat.mul_comm outSize.width]))
      exact ⟨_, by rw [if_neg hout.ne', if_neg hfit]⟩

theorem getCropRect_close {F : Type*} {ar : AspectArith F} (ct : CroppingType)
    {inSize outSize : Size} (h : ar.isAspectRatioClose (ar.ratio inSize.width inSize.height)
      (ar.ratio outSize.width outSize.height)) :
    ∃ rect, getCropRect ar ct inSize outSize = .ok rect := by
  unfold getCropRect
  exact ⟨_, if_pos h⟩

theorem getCropRect_selected {ct : CroppingType} {streams : List Stream}
    {formats : List SupportedV4L2Format} (hformats : ∀ fmt ∈ formats, 0 < fmt.height)
    (hw : (selectFormat .exact ct streams formats).width ≠ 0) {stream : Stream}
    (hmem : stream ∈ streams) (hheight : 0 < stream.height) :
    let fmt := selectFormat .exact ct streams formats
    ∃ rect, getCropRect .exact ct ⟨fmt.width, fmt.height⟩ stream.size = .ok rect := by
  intro fmt
  obtain ⟨hfmt, hselected⟩ := selectFormat_spec .exact ct streams formats hw
  have hdesired := desired_reaches ct hmem
  have hcrop := getCropRect_ok ct ⟨fmt.width, fmt.height⟩ stream.size (Nat.pos_of_ne_zero hw)
    (hformats fmt hfmt) hheight
  rcases hselected with hclose | hbeyond
  · by_cases hr : Reaches ct (AspectArith.exact.ratio fmt.width fmt.height)
        (AspectArith.exact.ratio stream.width stream.height)
    · exact hcrop hr
    · apply getCropRect_close ct
      apply decide_eq_true
      exact close_between (of_decide_eq_true hclose) hdesired hr
  · exact hcrop ((reaches_of_beyond hbeyond).trans hdesired)

/-! ### The crop of a configured stream -/

theorem even_le (n : ℕ) : even n ≤ n := Nat.div_mul_le_self n 2

theorem toInt32_even {n : ℕ} (h : n ≤ INT_MAX) : toInt32 (even n) = (even n : ℤ) ∧
    (even n : ℤ) % 2 = 0 := by
  have hle := even_le n
  refine ⟨toInt32_of_le (by omega), ?_⟩
  unfold even
  omega

theorem getCroppedLayout_isSome {f : AllocatedFrame} {rect : Rect} (hw : f.width ≤ INT_MAX)
    (hh : f.height ≤ INT_MAX) (hright : 0 ≤ rect.left + rect.width ∧
      rect.left + rect.width ≤ f.width)
    (hbottom : 0 ≤ rect.top + rect.height ∧ rect.top + rect.height ≤ f.height)
    (hleft : rect.left % 2 = 0) (htop : rect.top % 2 = 0) (hwidth : rect.width % 2 = 0)
    (hheight : rect.height % 2 = 0) :
    (getCroppedLayout f rect).isSome := by
  have hsum : int32 (rect.left + rect.width) = rect.left + rect.width := by
    unfold INT_MAX at hw
    exact int32_of_range (by omega) (by omega)
  have hsum' : int32 (rect.top + rect.height) = rect.top + rect.height := by
    unfold INT_MAX at hh
    exact int32_of_range (by omega) (by omega)
  unfold getCroppedLayout
  rw [toInt32_of_le hw, toInt32_of_le hh, hsum, hsum', if_neg]
  · rfl
  · omega

theorem centred {whole part : ℕ} (hwhole : whole ≤ INT_MAX) (hpart : ¬ whole < part) :
    let start := even ((whole - even part) / 2)
    toInt32 start % 2 = 0 ∧ toInt32 (even part) % 2 = 0 ∧
      0 ≤ toInt32 start + toInt32 (even part) ∧
      toInt32 start + toInt32 (even part) ≤ whole := by
  intro start
  have hle := Nat.not_lt.mp hpart
  obtain ⟨hp, hpeven⟩ := toInt32_even (Nat.le_trans hle hwhole)
  have hstart : (whole - even part) / 2 ≤ INT_MAX :=
    Nat.le_trans (Nat.div_le_self _ _) (Nat.le_trans (Nat.sub_le _ _) hwhole)
  obtain ⟨hs, hseven⟩ := toInt32_even hstart
  have hpart' := even_le part
  have hstart' := even_le ((whole - even part) / 2)
  have hs' : toInt32 start = (start : ℤ) := hs
  rw [hs', hp]
  refine ⟨hseven, hpeven, by omega, ?_⟩
  change (even ((whole - even part) / 2) : ℤ) + even part ≤ whole
  omega

theorem getCropRect_layout {F : Type*} {ar : AspectArith F} {ct : CroppingType}
    {f : AllocatedFrame} {outSize : Size} {rect : Rect}
    (h : getCropRect ar ct ⟨f.width, f.height⟩ outSize = .ok rect) (hw : f.width % 2 = 0)
    (hh : f.height % 2 = 0) (hw' : f.width ≤ INT_MAX) (hh' : f.height ≤ INT_MAX) :
    (getCroppedLayout f rect).isSome := by
  have hwidth := toInt32_of_le hw'
  have hheight := toInt32_of_le hh'
  have hright : 0 ≤ 0 + toInt32 f.width ∧ 0 + toInt32 f.width ≤ f.width := by omega
  have hbottom : 0 ≤ 0 + toInt32 f.height ∧ 0 + toInt32 f.height ≤ f.height := by omega
  have hweven : toInt32 f.width % 2 = 0 := by
    rw [hwidth]
    exact_mod_cast hw
  have hheven : toInt32 f.height % 2 = 0 := by
    rw [hheight]
    exact_mod_cast hh
  unfold getCropRect at h
  dsimp only at h
  split at h
  · obtain rfl := Except.ok.inj h
    apply getCroppedLayout_isSome hw' hh' <;> dsimp only
    exacts [hright, hbottom, Int.zero_emod 2, Int.zero_emod 2, hweven, hheven]
  · cases ct with
    | vertical =>
      dsimp only at h
      split at h
      · cases h
      · split at h
        · cases h
        · rename_i hlarge
          obtain rfl := Except.ok.inj h
          obtain ⟨hstart, hpart, hfit⟩ := centred hh' hlarge
          apply getCroppedLayout_isSome hw' hh' <;> dsimp only
          exacts [hright, hfit, Int.zero_emod 2, hstart, hweven, hpart]
    | horizontal =>
      dsimp only at h
      split at h
      · cases h
      · split at h
        · cases h
        · rename_i hlarge
          obtain rfl := Except.ok.inj h
          obtain ⟨hstart, hpart, hfit⟩ := centred hw' hlarge
          apply getCroppedLayout_isSome hw' hh' <;> dsimp only
          exacts [hfit, hbottom, hstart, Int.zero_emod 2, hpart, hheven]

/-- A frame whose crop exists is cropped and scaled without a crop error. -/
theorem cropAndScaleLocked_crop {F : Type*} {ar : AspectArith F} {ct : CroppingType}
    {f : AllocatedFrame} {outSz : Size}
    (hrect : ∃ rect, getCropRect ar ct ⟨f.width, f.height⟩ outSz = .ok rect) (b : OutputBuffers)
    (i420Scale : Bool) :
    (∀ e, (cropAndScaleLocked ar ct b f outSz i420Scale).1 ≠ .error (.cropRect e)) ∧
    (f.width % 2 = 0 → f.height % 2 = 0 → f.width ≤ INT_MAX → f.height ≤ INT_MAX →
      (cropAndScaleLocked ar ct b f outSz i420Scale).1 ≠ .error .croppedLayout) := by
  obtain ⟨rect, hrect⟩ := hrect
  refine ⟨fun e he ↦ ?_, fun hw hh hw' hh' he ↦ ?_⟩
  · rcases cropAndScaleLocked_error he with he | he
    · rcases cropOnly_error he with h | ⟨e', -, herror⟩ | ⟨h, -⟩
      · cases h
      · cases hrect.symm.trans herror
      · cases h
    · rcases scaleInto_error he with ⟨h, -⟩ | h | h <;> cases h
  · rcases cropAndScaleLocked_error he with he | he
    · rcases cropOnly_error he with h | ⟨e', h, -⟩ | ⟨-, rect', hrect', hnone⟩
      · cases h
      · cases h
      · have hsome := getCropRect_layout hrect' hw hh hw' hh'
        rw [hnone] at hsome
        cases hsome
    · rcases scaleInto_error he with ⟨h, -⟩ | h | h <;> cases h

theorem isSupported_size {stream : Stream} {formats : List SupportedV4L2Format}
    {depthEnabled : Bool} (h : isSupported stream formats depthEnabled = true) :
    ∃ fmt ∈ formats, stream.width = fmt.width ∧ stream.height = fmt.height := by
  simp only [isSupported, Bool.and_eq_true, List.any_eq_true, decide_eq_true_eq] at h
  exact h.2

def Honours (v : V4l2) (fmt : SupportedV4L2Format) (o : ConfigureOutcome) : Prop :=
  v.subDevice = false → o.width = fmt.width ∧ o.height = fmt.height

theorem streamOff_subDevice (v : V4l2) (o : StreamOffOutcome) :
    (v.v4l2StreamOffLocked o).2.subDevice = v.subDevice := by
  unfold V4l2.v4l2StreamOffLocked
  dsimp only
  split_ifs <;> rfl

theorem configureV4l2StreamLocked_size {v v' : V4l2} {fmt fmt' : SupportedV4L2Format}
    {requestFps : ℚ} {o : ConfigureOutcome} (ho : Honours v fmt o)
    (h : v.configureV4l2StreamLocked fmt requestFps o = (.ok (), fmt', v')) :
    fmt'.width = fmt.width ∧ fmt'.height = fmt.height := by
  have hsub := streamOff_subDevice v o.streamOff
  unfold V4l2.configureV4l2StreamLocked at h
  split at h
  · cases h
  · rename_i v₁ hoff
    rw [hoff] at hsub
    split at h
    · cases h
      exact ⟨rfl, rfl⟩
    · rename_i hnot
      have hhonoured := ho (by rw [← hsub]; exact Bool.eq_false_iff.mpr hnot)
      split at h
      · cases h
      · dsimp only at h
        split at h
        · cases h
        · split at h
          · cases h
          · cases h
            exact hhonoured

theorem reallocate_size {f : Option AllocatedFrame} {sz : Size} {f' : Option AllocatedFrame}
    (h : reallocate f sz = (true, f')) :
    ∃ frame, f' = some frame ∧ frame.width = sz.width ∧ frame.height = sz.height := by
  have hnew : ∀ f', Prod.map id some (AllocatedFrame.ofSize sz).allocate = (true, f') →
      ∃ frame, f' = some frame ∧ frame.width = sz.width ∧ frame.height = sz.height := by
    intro f' hf
    unfold AllocatedFrame.allocate at hf
    split at hf
    · cases hf
    · cases hf
      exact ⟨_, rfl, rfl, rfl⟩
  unfold reallocate at h
  split at h
  · split at h
    · exact hnew f' h
    · rename_i frame hsame
      cases h
      exact ⟨frame, rfl, by omega, by omega⟩
  · exact hnew f' h

theorem allocate_yu12Frame {b b' : OutputBuffers} {v4lSize thumbSize : Size}
    {streams : List Stream} {blobBufferSize : ℕ}
    (h : b.allocateIntermediateBuffers v4lSize thumbSize streams blobBufferSize = (.ok, b')) :
    ∃ f, b'.yu12Frame = some f ∧ f.width = v4lSize.width ∧ f.height = v4lSize.height := by
  unfold OutputBuffers.allocateIntermediateBuffers at h
  split at h
  · cases h
  · split at h
    · cases h
    · rename_i f hf
      dsimp only at h
      split at h
      · cases h
      · split at h
        · cases h
        · cases h
          exact reallocate_size hf

/-- After a configuration the frame that is cropped has the selected size. -/
theorem configured_yu12Frame {F : Type*} {ar : AspectArith F} {s s' : DeviceSession}
    {config : StreamConfiguration} {blobBufferSize : ℕ} {o : ConfigureOutcome}
    {out : List HalStream}
    (h : s.configureStreams ar config blobBufferSize o = some (.ok, out, s'))
    (ho : Honours s.v4l2 (selectFormat ar s.croppingType config.streams s.supportedFormats) o) :
    let fmt := selectFormat ar s.croppingType config.streams s.supportedFormats
    ∃ f, s'.output.yu12Frame = some f ∧ f.width = fmt.width ∧ f.height = fmt.height := by
  intro fmt
  obtain ⟨-, maps, -, hprogram⟩ := configureStreams_ok ar h
  obtain ⟨-, fmt', v, hset, halloc⟩ := program_ok ar hprogram
  obtain ⟨hw, hh⟩ := configureV4l2StreamLocked_size ho hset
  obtain ⟨f, hf, hfw, hfh⟩ := allocate_yu12Frame halloc
  exact ⟨f, hf, hfw.trans hw, hfh.trans hh⟩

/-- The format that is selected for the streams can be cropped to each of them, and when
the driver sets it, no stream of the configuration meets a crop error. -/
theorem selected_format_croppable (s : DeviceSession) (config : StreamConfiguration)
    (hformats : ∀ fmt ∈ s.supportedFormats, 0 < fmt.height)
    (hcombination :
      isStreamCombinationSupported config s.supportedFormats s.depthEnabled = .ok)
    (hselected :
      (selectFormat .exact s.croppingType config.streams s.supportedFormats).width ≠ 0) :
    let fmt := selectFormat .exact s.croppingType config.streams s.supportedFormats
    (∀ stream ∈ config.streams, ∃ rect,
      getCropRect .exact s.croppingType ⟨fmt.width, fmt.height⟩ stream.size = .ok rect) ∧
    ∀ (blobBufferSize : ℕ) (o : ConfigureOutcome) (out : List HalStream) (s' : DeviceSession),
      Honours s.v4l2 fmt o →
      s.configureStreams .exact config blobBufferSize o = some (.ok, out, s') →
      ∃ f, s'.output.yu12Frame = some f ∧ f.width = fmt.width ∧ f.height = fmt.height ∧
        ∀ stream ∈ config.streams, ∀ (b : OutputBuffers) (i420Scale : Bool),
          (∀ e, (cropAndScaleLocked .exact s.croppingType b f stream.size i420Scale).1 ≠
            .error (.cropRect e)) ∧
          (f.width % 2 = 0 → f.height % 2 = 0 → f.width ≤ INT_MAX → f.height ≤ INT_MAX →
            (cropAndScaleLocked .exact s.croppingType b f stream.size i420Scale).1 ≠
              .error .croppedLayout) := by
  intro fmt
  have hrect : ∀ stream ∈ config.streams, ∃ rect,
      getCropRect .exact s.croppingType ⟨fmt.width, fmt.height⟩ stream.size = .ok rect := by
    intro stream hmem
    have hsupported := isSupported_of_combination hcombination stream hmem
    obtain ⟨size, hsize, -, hheight⟩ := isSupported_size hsupported
    exact getCropRect_selected hformats hselected hmem (hheight ▸ hformats size hsize)
  refine ⟨hrect, fun blobBufferSize o out s' ho h ↦ ?_⟩
  obtain ⟨f, hf, hw, hh⟩ := configured_yu12Frame h ho
  refine ⟨f, hf, hw, hh, fun stream hmem b i420Scale ↦ ?_⟩
  apply cropAndScaleLocked_crop
  rw [hw, hh]
  exact hrect stream hmem

/-- A session that crops on the sides. -/
def sideways : DeviceSession := { configured with croppingType := .horizontal }

theorem selectFormat_sideways : selectFormat .exact sideways.croppingType twoStreams.streams
    sideways.supportedFormats = yuyv 1280 720 := by
  decide +kernel

/-- Two streams of different shape. -/
theorem selected_format_croppable_twoStreams : ∃ out s' f,
    sideways.configureStreams .exact twoStreams 0 (Rounds.driverSets 1280 720) =
      some (.ok, out, s') ∧
      s'.output.yu12Frame = some f ∧ f.width = 1280 ∧ f.height = 720 ∧
      (∃ rect, getCropRect .exact sideways.croppingType ⟨1280, 720⟩ (preview 3 640 480).size =
        .ok rect) ∧
      (cropAndScaleLocked .exact sideways.croppingType s'.output f (preview 3 640 480).size
        true).1 ≠ .error .croppedLayout := by
  have h : (sideways.configureStreams .exact twoStreams 0 (Rounds.driverSets 1280 720)).map
      Prod.fst = some .ok := by decide +kernel
  obtain ⟨⟨status, out, s'⟩, hs, rfl⟩ := Option.map_eq_some_iff.mp h
  have hmem : preview 3 640 480 ∈ twoStreams.streams := .tail _ (.head _)
  have hfull := selected_format_croppable sideways twoStreams (by decide) (by decide)
    (by rw [selectFormat_sideways]; decide)
  rw [selectFormat_sideways] at hfull
  obtain ⟨hrect, hconfigured⟩ := hfull
  obtain ⟨f, hf, hw, hh, hcrop⟩ :=
    hconfigured 0 (Rounds.driverSets 1280 720) out s' (fun _ ↦ ⟨rfl, rfl⟩) hs
  have hmax : 1280 ≤ INT_MAX := by unfold INT_MAX; decide
  have hmax' : 720 ≤ INT_MAX := by unfold INT_MAX; decide
  have hlayout := (hcrop _ hmem s'.output true).2 (by rw [hw]; decide) (by rw [hh]; decide)
    (hw ▸ hmax) (hh ▸ hmax')
  exact ⟨out, s', f, hs, hf, hw, hh, hrect _ hmem, hlayout⟩

end VirtualCamera.Session.Cropping
