import VirtualCamera.Session.Cropping

namespace VirtualCamera.Session.Selection

open Library.Memory Capture Streams Configure Cropping

section Predicates

variable (ct : CroppingType) (streams : List Stream)

/-- The dimension that is not cropped is enough for all streams. -/
def Wide (fmt : SupportedV4L2Format) : Prop :=
  ∀ stream ∈ streams, ct.dim stream.width stream.height ≤ ct.dim fmt.width fmt.height

/-- The ratio of the format is within the threshold of the one that all streams can be cropped
from. -/
def CloseTo (fmt : SupportedV4L2Format) : Prop :=
  AspectArith.exact.isAspectRatioClose (AspectArith.exact.ratio fmt.width fmt.height)
    (desiredAspectRatio .exact ct streams) = true

/-- The format is cropped to that ratio. -/
def Beyond (fmt : SupportedV4L2Format) : Prop :=
  AspectArith.exact.beyond ct (AspectArith.exact.ratio fmt.width fmt.height)
    (desiredAspectRatio .exact ct streams) = true

def Preferred (fmt : SupportedV4L2Format) : Prop :=
  fmt.fourcc = v4l2PixFmtMjpeg ∨ fmt.fourcc = v4l2PixFmtSrggb10

instance (fmt : SupportedV4L2Format) : Decidable (Wide ct streams fmt) :=
  inferInstanceAs (Decidable (∀ stream ∈ streams, _))

instance (fmt : SupportedV4L2Format) : Decidable (CloseTo ct streams fmt) :=
  inferInstanceAs (Decidable (_ = true))

instance (fmt : SupportedV4L2Format) : Decidable (Beyond ct streams fmt) :=
  inferInstanceAs (Decidable (_ = true))

instance (fmt : SupportedV4L2Format) : Decidable (Preferred fmt) :=
  inferInstanceAs (Decidable (_ ∨ _))

end Predicates

variable {ct : CroppingType} {streams : List Stream} {fmt : SupportedV4L2Format}
  {formats : List SupportedV4L2Format}

theorem foldl_dim_le {n start : ℕ} :
    streams.foldl (fun maxDim stream ↦ max maxDim (ct.dim stream.width stream.height)) start ≤ n ↔
      start ≤ n ∧ ∀ stream ∈ streams, ct.dim stream.width stream.height ≤ n := by
  induction streams generalizing start with
  | nil => simp
  | cons stream streams ih =>
    rw [List.foldl_cons, ih, max_le_iff, List.forall_mem_cons, and_assoc]

theorem wide_iff : Wide ct streams fmt ↔ maxDimension ct streams ≤ ct.dim fmt.width fmt.height := by
  rw [maxDimension, foldl_dim_le]
  exact ⟨fun h ↦ ⟨Nat.zero_le _, h⟩, fun h ↦ h.2⟩

theorem matchingFormat_cons (found f : SupportedV4L2Format) :
    matchingFormat .exact ct (desiredAspectRatio .exact ct streams) (maxDimension ct streams) found
      (f :: formats) =
    if Wide ct streams f ∧ CloseTo ct streams f then
      if Preferred f then f
      else matchingFormat .exact ct (desiredAspectRatio .exact ct streams)
        (maxDimension ct streams) f formats
    else matchingFormat .exact ct (desiredAspectRatio .exact ct streams) (maxDimension ct streams)
      found formats := by
  rw [matchingFormat]
  by_cases hmatch : Wide ct streams f ∧ CloseTo ct streams f
  · rw [if_pos hmatch, if_pos ⟨wide_iff.mp hmatch.1, hmatch.2⟩]
    rfl
  · rw [if_neg hmatch, if_neg fun hc ↦ hmatch ⟨wide_iff.mpr hc.1, hc.2⟩]

/-- The first match with one of the two pixel formats is the last one that is looked at. -/
theorem matchingFormat_preferred {first : SupportedV4L2Format} (found : SupportedV4L2Format)
    (h : formats.find? (fun f ↦ Wide ct streams f ∧ CloseTo ct streams f ∧ Preferred f) =
      some first) :
    matchingFormat .exact ct (desiredAspectRatio .exact ct streams) (maxDimension ct streams) found
      formats = first := by
  induction formats generalizing found with
  | nil => cases h
  | cons f formats ih =>
    rw [matchingFormat_cons]
    by_cases hall : Wide ct streams f ∧ CloseTo ct streams f ∧ Preferred f
    · rw [List.find?_cons_of_pos (by simpa using hall)] at h
      rw [if_pos ⟨hall.1, hall.2.1⟩, if_pos hall.2.2]
      exact Option.some.inj h
    · rw [List.find?_cons_of_neg (by simpa using hall)] at h
      by_cases hmatch : Wide ct streams f ∧ CloseTo ct streams f
      · rw [if_pos hmatch, if_neg fun hp ↦ hall ⟨hmatch.1, hmatch.2, hp⟩]
        exact ih f h
      · rw [if_neg hmatch]
        exact ih found h

theorem matchingFormat_none (found : SupportedV4L2Format)
    (h : ∀ f ∈ formats, Wide ct streams f → ¬ CloseTo ct streams f) :
    matchingFormat .exact ct (desiredAspectRatio .exact ct streams) (maxDimension ct streams) found
      formats = found := by
  induction formats with
  | nil => rfl
  | cons f formats ih =>
    rw [matchingFormat_cons, if_neg fun hc ↦ h f List.mem_cons_self hc.1 hc.2]
    exact ih fun f hf ↦ h f (List.mem_cons_of_mem _ hf)

theorem matchingFormat_match (ct : CroppingType) (streams : List Stream)
    (formats : List SupportedV4L2Format) (found : SupportedV4L2Format) :
    matchingFormat .exact ct (desiredAspectRatio .exact ct streams) (maxDimension ct streams) found
      formats = found ∨
    ∃ f ∈ formats, Wide ct streams f ∧ CloseTo ct streams f ∧
      matchingFormat .exact ct (desiredAspectRatio .exact ct streams) (maxDimension ct streams)
        found formats = f := by
  induction formats generalizing found with
  | nil => exact .inl rfl
  | cons f formats ih =>
    rw [matchingFormat_cons]
    by_cases hmatch : Wide ct streams f ∧ CloseTo ct streams f
    · rw [if_pos hmatch]
      by_cases hp : Preferred f
      · rw [if_pos hp]
        exact .inr ⟨f, List.mem_cons_self, hmatch.1, hmatch.2, rfl⟩
      · rw [if_neg hp]
        rcases ih f with heq | ⟨f', hmem, hwide, hclose, heq⟩
        · exact .inr ⟨f, List.mem_cons_self, hmatch.1, hmatch.2, heq⟩
        · exact .inr ⟨f', List.mem_cons_of_mem _ hmem, hwide, hclose, heq⟩
    · rw [if_neg hmatch]
      rcases ih found with heq | ⟨f', hmem, hwide, hclose, heq⟩
      · exact .inl heq
      · exact .inr ⟨f', List.mem_cons_of_mem _ hmem, hwide, hclose, heq⟩

theorem croppableFormat_eq :
    croppableFormat .exact ct (desiredAspectRatio .exact ct streams) (maxDimension ct streams)
      formats = formats.find? fun f ↦ Wide ct streams f ∧ Beyond ct streams f := by
  simp only [croppableFormat, wide_iff, Beyond]

theorem ratio_lt {w h w' h' : ℕ} (hh : 0 < h) (hh' : 0 < h') (hlt : (w : ℚ) / h < w' / h') :
    w * h' < w' * h := by
  rw [div_lt_div_iff₀ (by exact_mod_cast hh) (by exact_mod_cast hh')] at hlt
  exact_mod_cast hlt

theorem Beyond.large (hwide : Wide ct streams fmt) (hbeyond : Beyond ct streams fmt)
    (hfmt : 0 < fmt.height) {stream : Stream} (hmem : stream ∈ streams)
    (hstream : 0 < stream.height) : stream.width ≤ fmt.width ∧ stream.height ≤ fmt.height := by
  have hdim := hwide stream hmem
  have hreaches := desired_reaches ct hmem
  cases ct with
  | vertical =>
    have hlt : (fmt.width : ℚ) / fmt.height < stream.width / stream.height :=
      lt_of_lt_of_le (of_decide_eq_true hbeyond) hreaches
    have hcross := ratio_lt hfmt hstream hlt
    refine ⟨hdim, Nat.not_lt.mp fun hlow ↦ ?_⟩
    have hmul := Nat.mul_le_mul hdim hlow.le
    simp only [CroppingType.dim] at hmul
    omega
  | horizontal =>
    have hlt : (stream.width : ℚ) / stream.height < fmt.width / fmt.height :=
      lt_of_le_of_lt hreaches (of_decide_eq_true hbeyond)
    have hcross := ratio_lt hstream hfmt hlt
    refine ⟨Nat.not_lt.mp fun hlow ↦ ?_, hdim⟩
    have hmul := Nat.mul_le_mul hlow.le hdim
    simp only [CroppingType.dim] at hmul
    omega

/-- What is selected: a format that is close to the ratio, or else one that is cropped to it and as
large as all streams. The first close one of the two pixel formats comes before all others, and
where no format is close it is the first of those that are cropped. -/
structure Selects (ct : CroppingType) (streams : List Stream) (formats : List SupportedV4L2Format)
    (fmt : SupportedV4L2Format) : Prop where
  candidate : fmt.width ≠ 0 → fmt ∈ formats ∧ Wide ct streams fmt ∧
    (CloseTo ct streams fmt ∨ Beyond ct streams fmt ∧ (0 < fmt.height → ∀ stream ∈ streams,
      0 < stream.height → stream.width ≤ fmt.width ∧ stream.height ≤ fmt.height))
  preferred : ∀ first, first.width ≠ 0 →
    formats.find? (fun f ↦ Wide ct streams f ∧ CloseTo ct streams f ∧ Preferred f) = some first →
      fmt = first
  beyond : (∀ f ∈ formats, Wide ct streams f → ¬ CloseTo ct streams f) →
    fmt = (formats.find? fun f ↦ Wide ct streams f ∧ Beyond ct streams f).getD ⟨0, 0, 0, []⟩

theorem selectFormat_selects (ct : CroppingType) (streams : List Stream)
    (formats : List SupportedV4L2Format) :
    Selects ct streams formats (selectFormat .exact ct streams formats) := by
  have hmatch := matchingFormat_match ct streams formats ⟨0, 0, 0, []⟩
  unfold selectFormat
  dsimp only
  rw [croppableFormat_eq]
  refine ⟨fun hw ↦ ?_, fun first hfirst hfind ↦ ?_, fun hnone ↦ ?_⟩
  · split at hw
    · rename_i hzero
      rw [if_pos hzero]
      cases hfind : formats.find? fun f ↦ Wide ct streams f ∧ Beyond ct streams f with
      | none =>
        rw [hfind] at hw
        exact absurd hzero hw
      | some f =>
        have hf := List.find?_some hfind
        simp only [decide_eq_true_eq] at hf
        refine ⟨List.mem_of_find?_eq_some hfind, hf.1, .inr ⟨hf.2, fun hh stream hmem hs ↦ ?_⟩⟩
        exact hf.2.large hf.1 hh hmem hs
    · rename_i hne
      rw [if_neg hne]
      rcases hmatch with heq | ⟨f, hmem, hwide, hclose, heq⟩
      · rw [heq] at hne
        exact absurd rfl hne
      · rw [heq]
        exact ⟨hmem, hwide, .inl hclose⟩
  · rw [matchingFormat_preferred _ hfind, if_neg hfirst]
  · rw [matchingFormat_none _ hnone, if_pos rfl]

/-- What `configureStreams` selects, and that it is what is set, or that there is none. -/
theorem configureStreams_selects (s : DeviceSession) (config : StreamConfiguration) :
    let fmt := selectFormat .exact s.croppingType config.streams s.supportedFormats
    Selects s.croppingType config.streams s.supportedFormats fmt ∧
    ∀ (blobBufferSize : ℕ) (o : ConfigureOutcome) (status : Status) (out : List HalStream)
      (s' : DeviceSession), s.configureStreams .exact config blobBufferSize o =
        some (status, out, s') →
      (status = .ok → fmt.width ≠ 0 ∧ ∃ set v,
        s.v4l2.configureV4l2StreamLocked fmt 0 o = (.ok (), set, v)) ∧
      (Admits s config → fmt.width = 0 → status = .illegalArgument) := by
  intro fmt
  refine ⟨selectFormat_selects _ _ _, fun blobBufferSize o status out s' h ↦ ⟨?_, ?_⟩⟩
  · rintro rfl
    obtain ⟨-, maps, -, hprogram⟩ := configureStreams_ok .exact h
    obtain ⟨hw, set, v, hset, -⟩ := program_ok .exact hprogram
    exact ⟨hw, set, v, hset⟩
  · intro hadmits hzero
    unfold DeviceSession.configureStreams at h
    rw [if_neg (not_not_intro hadmits.1), if_neg (not_not_intro hadmits.2.1),
      if_neg (not_not_intro hadmits.2.2)] at h
    obtain ⟨maps, -, hprogram⟩ := Option.map_eq_some_iff.mp h
    unfold DeviceSession.program at hprogram
    dsimp only at hprogram
    rw [if_pos hzero] at hprogram
    exact (congrArg Prod.fst hprogram).symm

def mjpeg (width height : ℕ) : SupportedV4L2Format := ⟨width, height, v4l2PixFmtMjpeg, [⟨1, 30⟩]⟩

def fiveFormats : DeviceSession :=
  { configured with supportedFormats :=
      [mjpeg 960 720, mjpeg 1280 720, mjpeg 1280 1024, mjpeg 1600 1200, mjpeg 2560 2048] }

/-- Two streams of different shape, of which the first has the desired ratio. -/
def twoShapes : StreamConfiguration := ⟨[preview 2 960 720, preview 3 1280 720], .normalMode⟩

/-- A larger format of that ratio is selected before a smaller one that is cropped to it. -/
theorem larger_format_selected :
    (∃ out s', fiveFormats.configureStreams .exact twoShapes 0 (Rounds.driverSets 1600 1200) =
      some (.ok, out, s')) ∧
    selectFormat .exact fiveFormats.croppingType twoShapes.streams fiveFormats.supportedFormats =
      mjpeg 1600 1200 ∧
    (fiveFormats.supportedFormats.Pairwise fun f f' ↦
      f.width < f'.width ∨ f.width = f'.width ∧ f.height ≤ f'.height) ∧
    fiveFormats.supportedFormats.find? (fun f ↦
      (CloseTo fiveFormats.croppingType twoShapes.streams f ∨
        Beyond fiveFormats.croppingType twoShapes.streams f) ∧
      ∀ stream ∈ twoShapes.streams, stream.width ≤ f.width ∧ stream.height ≤ f.height) =
      some (mjpeg 1280 1024) := by
  have h : (fiveFormats.configureStreams .exact twoShapes 0 (Rounds.driverSets 1600 1200)).map
      Prod.fst = some .ok := by decide +kernel
  obtain ⟨⟨status, out, s'⟩, hs, rfl⟩ := Option.map_eq_some_iff.mp h
  exact ⟨⟨out, s', hs⟩, by decide +kernel, by decide, by decide +kernel⟩

end VirtualCamera.Session.Selection
