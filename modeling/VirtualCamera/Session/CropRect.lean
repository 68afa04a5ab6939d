import Mathlib.Data.Rat.Floor
import VirtualCamera.Session.Cropping

namespace VirtualCamera.Session.CropRect

open Library.Memory Capture Streams Scaling Cropping

def cropped {α : Type} (ct : CroppingType) (horizontal vertical : α) : α :=
  match ct with
  | .vertical => vertical
  | .horizontal => horizontal

def kept {α : Type} (ct : CroppingType) (horizontal vertical : α) : α :=
  match ct with
  | .vertical => horizontal
  | .horizontal => vertical

/-- What the output's aspect ratio leaves of the direction that is cropped. -/
def exactExtent (ct : CroppingType) (inSize outSize : Size) : ℚ :=
  (cropped ct outSize.width outSize.height : ℕ) * (kept ct inSize.width inSize.height : ℕ) /
    (kept ct outSize.width outSize.height : ℕ)

def Close (inSize outSize : Size) : Prop :=
  AspectArith.exact.isAspectRatioClose (AspectArith.exact.ratio inSize.width inSize.height)
    (AspectArith.exact.ratio outSize.width outSize.height) = true

instance (inSize outSize : Size) : Decidable (Close inSize outSize) :=
  inferInstanceAs (Decidable (_ = true))

/-- The rectangle is the crop of the input to the output's aspect ratio. -/
structure IsCrop (ct : CroppingType) (inSize outSize : Size) (rect : Rect) : Prop where
  nonneg : 0 ≤ rect.left ∧ 0 ≤ rect.top ∧ 0 ≤ rect.width ∧ 0 ≤ rect.height
  inside : rect.left + rect.width ≤ inSize.width ∧ rect.top + rect.height ≤ inSize.height
  even : rect.left % 2 = 0 ∧ rect.top % 2 = 0 ∧ rect.width % 2 = 0 ∧ rect.height % 2 = 0
  full : kept ct rect.left rect.top = 0 ∧
    kept ct rect.width rect.height = (kept ct inSize.width inSize.height : ℕ)
  centred : ∃ rest : ℤ, 0 ≤ rest ∧ rest ≤ 2 ∧ (cropped ct inSize.width inSize.height : ℕ) =
    2 * cropped ct rect.left rect.top + cropped ct rect.width rect.height + rest
  whole : Close inSize outSize →
    cropped ct rect.width rect.height = (cropped ct inSize.width inSize.height : ℕ)
  largest : ¬ Close inSize outSize →
    IsGreatest {n : ℤ | n % 2 = 0 ∧ n ≤ ⌊exactExtent ct inSize outSize⌋}
      (cropped ct rect.width rect.height)
  accepted : ∀ f : AllocatedFrame, f.width = inSize.width → f.height = inSize.height →
    (getCroppedLayout f rect).isSome = true

variable {ct : CroppingType} {inSize outSize : Size} {rect : Rect}

theorem floor_exactExtent : ⌊exactExtent ct inSize outSize⌋ =
    ((cropped ct outSize.width outSize.height * kept ct inSize.width inSize.height /
      kept ct outSize.width outSize.height : ℕ) : ℤ) := by
  rw [exactExtent, ← Nat.cast_mul, Rat.floor_natCast_div_natCast, Int.natCast_div]

theorem even_isGreatest (n : ℕ) :
    IsGreatest {k : ℤ | k % 2 = 0 ∧ k ≤ (n : ℤ)} (even n : ℕ) := by
  unfold even
  constructor
  · constructor <;> omega
  · intro k h
    obtain ⟨heven, hle⟩ := h
    omega

theorem cut {whole part : ℕ} (hmax : whole ≤ INT_MAX) (heven : whole % 2 = 0)
    (hpart : ¬ whole < part) :
    ∃ start : ℕ, toInt32 (even ((whole - even part) / 2)) = start ∧
      toInt32 (even part) = (even part : ℕ) ∧ start % 2 = 0 ∧ even part % 2 = 0 ∧
      2 * start + even part ≤ whole ∧ whole ≤ 2 * start + even part + 2 := by
  have hle := even_le part
  have hle' := even_le ((whole - even part) / 2)
  refine ⟨even ((whole - even part) / 2), toInt32_of_le (by omega), toInt32_of_le (by omega), ?_⟩
  unfold even at *
  omega

theorem getCropRect_whole (hclose : Close inSize outSize) :
    getCropRect .exact ct inSize outSize =
      .ok ⟨0, 0, toInt32 inSize.width, toInt32 inSize.height⟩ := if_pos hclose

/-- Away from the input's ratio the call fails when more would be needed than there is. -/
theorem getCropRect_tooLarge (hclose : ¬ Close inSize outSize)
    (hout : kept ct outSize.width outSize.height ≠ 0)
    (hlarge : ((cropped ct inSize.width inSize.height : ℕ) : ℤ) < ⌊exactExtent ct inSize outSize⌋) :
    getCropRect .exact ct inSize outSize = .error .tooLarge := by
  rw [floor_exactExtent, Nat.cast_lt] at hlarge
  unfold getCropRect
  dsimp only
  refine (if_neg hclose).trans ?_
  cases ct with
  | vertical =>
    simp only [cropped, kept] at hout hlarge
    rw [if_neg hout, if_pos hlarge]
  | horizontal =>
    simp only [cropped, kept] at hout hlarge
    rw [if_neg hout, if_pos hlarge]

/-- The crop that keeps this much of the direction that is cropped, rounded to even. -/
def cutRect (ct : CroppingType) (inSize : Size) (part : ℕ) : Rect :=
  match ct with
  | .vertical => ⟨0, toInt32 (even ((inSize.height - even part) / 2)), toInt32 inSize.width,
      toInt32 (even part)⟩
  | .horizontal => ⟨toInt32 (even ((inSize.width - even part) / 2)), 0, toInt32 (even part),
      toInt32 inSize.height⟩

theorem getCropRect_cut (hclose : ¬ Close inSize outSize)
    (hout : kept ct outSize.width outSize.height ≠ 0)
    (hfit : ⌊exactExtent ct inSize outSize⌋ ≤ ((cropped ct inSize.width inSize.height : ℕ) : ℤ)) :
    ∃ part : ℕ, part = ⌊exactExtent ct inSize outSize⌋ ∧
      ¬ cropped ct inSize.width inSize.height < part ∧
      getCropRect .exact ct inSize outSize = .ok (cutRect ct inSize part) := by
  rw [floor_exactExtent] at hfit ⊢
  have hfit' := Nat.not_lt.mpr (Nat.cast_le.mp hfit)
  refine ⟨_, rfl, hfit', ?_⟩
  unfold getCropRect
  dsimp only
  refine (if_neg hclose).trans ?_
  cases ct with
  | vertical =>
    simp only [cropped, kept] at hout hfit' ⊢
    rw [if_neg hout, if_neg hfit', cutRect]
  | horizontal =>
    simp only [cropped, kept] at hout hfit' ⊢
    rw [if_neg hout, if_neg hfit', cutRect]

theorem isCrop_of_ok (heven : inSize.width % 2 = 0 ∧ inSize.height % 2 = 0)
    (hmax : inSize.width ≤ INT_MAX ∧ inSize.height ≤ INT_MAX)
    (hout : kept ct outSize.width outSize.height ≠ 0)
    (h : getCropRect .exact ct inSize outSize = .ok rect) : IsCrop ct inSize outSize rect := by
  have haccepted : ∀ f : AllocatedFrame, f.width = inSize.width → f.height = inSize.height →
      (getCroppedLayout f rect).isSome = true := by
    intro f hw hh
    have hsize : inSize = ⟨f.width, f.height⟩ := by rw [hw, hh]
    rw [hsize] at h
    exact getCropRect_layout h (hw ▸ heven.1) (hh ▸ heven.2) (hw ▸ hmax.1) (hh ▸ hmax.2)
  have hwidth := toInt32_of_le hmax.1
  have hheight := toInt32_of_le hmax.2
  by_cases hclose : Close inSize outSize
  · rw [getCropRect_whole hclose, hwidth, hheight] at h
    obtain rfl := Except.ok.inj h
    refine ⟨?_, ?_, ?_, ?_, ⟨0, le_rfl, by omega, ?_⟩, fun _ ↦ ?_, fun hc ↦ absurd hclose hc,
      haccepted⟩
    · dsimp only
      omega
    · dsimp only
      omega
    · dsimp only
      omega
    · cases ct <;> exact ⟨rfl, rfl⟩
    · cases ct <;> simp [cropped]
    · cases ct <;> rfl
  · by_cases hlarge : ((cropped ct inSize.width inSize.height : ℕ) : ℤ) <
        ⌊exactExtent ct inSize outSize⌋
    · rw [getCropRect_tooLarge hclose hout hlarge] at h
      cases h
    · obtain ⟨part, hpart, hfit, heq⟩ := getCropRect_cut hclose hout (not_lt.mp hlarge)
      have hlargest := even_isGreatest part
      rw [hpart] at hlargest
      cases ct with
      | vertical =>
        obtain ⟨start, hstart, hextent, hstart2, hextent2, hle, hge⟩ := cut hmax.2 heven.2 hfit
        simp only [cutRect] at heq
        rw [hstart, hextent, hwidth] at heq
        obtain rfl := Except.ok.inj (heq.symm.trans h)
        have hrest : (inSize.height : ℤ) = 2 * start + (even part : ℕ) +
            (inSize.height - (2 * start + even part) : ℕ) := by omega
        refine ⟨?_, ?_, ?_, ⟨rfl, rfl⟩, ⟨_, ?_, ?_, hrest⟩, fun hc ↦ absurd hc hclose,
          fun _ ↦ hlargest, haccepted⟩
        · dsimp only
          omega
        · dsimp only
          omega
        · dsimp only
          omega
        · omega
        · omega
      | horizontal =>
        obtain ⟨start, hstart, hextent, hstart2, hextent2, hle, hge⟩ := cut hmax.1 heven.1 hfit
        simp only [cutRect] at heq
        rw [hstart, hextent, hheight] at heq
        obtain rfl := Except.ok.inj (heq.symm.trans h)
        have hrest : (inSize.width : ℤ) = 2 * start + (even part : ℕ) +
            (inSize.width - (2 * start + even part) : ℕ) := by omega
        refine ⟨?_, ?_, ?_, ⟨rfl, rfl⟩, ⟨_, ?_, ?_, hrest⟩, fun hc ↦ absurd hc hclose,
          fun _ ↦ hlargest, haccepted⟩
        · dsimp only
          omega
        · dsimp only
          omega
        · dsimp only
          omega
        · omega
        · omega

/-- A rectangle is the crop of the input, when the input's dimensions fit its members, and there
is none exactly when the ratios are not close and the crop would need more than there is. -/
theorem getCropRect_correct (ct : CroppingType) (inSize outSize : Size)
    (heven : inSize.width % 2 = 0 ∧ inSize.height % 2 = 0)
    (hout : 0 < outSize.width ∧ 0 < outSize.height) :
    (inSize.width ≤ INT_MAX → inSize.height ≤ INT_MAX → ∀ rect,
      getCropRect .exact ct inSize outSize = .ok rect → IsCrop ct inSize outSize rect) ∧
    ((∃ e, getCropRect .exact ct inSize outSize = .error e) ↔ ¬ Close inSize outSize ∧
      ((cropped ct inSize.width inSize.height : ℕ) : ℤ) < ⌊exactExtent ct inSize outSize⌋) := by
  have hkept : kept ct outSize.width outSize.height ≠ 0 := by
    cases ct with
    | vertical => exact hout.1.ne'
    | horizontal => exact hout.2.ne'
  constructor
  · exact fun hw hh rect ↦ isCrop_of_ok heven ⟨hw, hh⟩ hkept
  · constructor
    · intro hcond
      obtain ⟨e, he⟩ := hcond
      by_contra hc
      by_cases hclose : Close inSize outSize
      · rw [getCropRect_whole hclose] at he
        cases he
      · have hfit := not_lt.mp fun hlarge ↦ hc ⟨hclose, hlarge⟩
        obtain ⟨part, -, -, heq⟩ := getCropRect_cut hclose hkept hfit
        cases heq.symm.trans he
    · exact fun h ↦ ⟨_, getCropRect_tooLarge h.1 hkept h.2⟩

theorem getCropRect_correct_landscape :
    IsCrop .horizontal ⟨1280, 720⟩ ⟨640, 480⟩ ⟨160, 0, 960, 720⟩ := by
  have hok : getCropRect .exact .horizontal ⟨1280, 720⟩ ⟨640, 480⟩ = .ok ⟨160, 0, 960, 720⟩ := by
    decide +kernel
  have hcorrect := getCropRect_correct .horizontal ⟨1280, 720⟩ ⟨640, 480⟩ (by decide) (by decide)
  refine hcorrect.1 ?_ ?_ _ hok
  · unfold INT_MAX
    decide
  · unfold INT_MAX
    decide

/-- A dimension that the members of a rectangle cannot hold. -/
theorem getCropRect_wide :
    getCropRect .exact .vertical ⟨2 ^ 31, 2⟩ ⟨2 ^ 31, 2⟩ = .ok ⟨0, 0, -2 ^ 31, 2⟩ ∧
      ¬ IsCrop .vertical ⟨2 ^ 31, 2⟩ ⟨2 ^ 31, 2⟩ ⟨0, 0, -2 ^ 31, 2⟩ := by
  have hclose : Close ⟨2 ^ 31, 2⟩ ⟨2 ^ 31, 2⟩ := by simp [Close, AspectArith.exact]
  constructor
  · rw [getCropRect_whole hclose]
    rfl
  · intro h
    have hwidth := h.nonneg.2.2.1
    norm_num at hwidth

end VirtualCamera.Session.CropRect
