import VirtualCamera.Session.Cropping
import VirtualCamera.Session.Thumbnail

namespace VirtualCamera.Session.SubImage

open Library.Memory Capture Streams Scaling Cropping Layout Thumbnail

variable {f g : AllocatedFrame} {rect : Rect} {l : YCbCrLayout}

/-- The rectangles that a part of a frame is taken by: the whole frame, the crop to the aspect
ratio of an output, and the crop for a thumbnail. -/
inductive Produced (f : AllocatedFrame) : Rect → Prop
  | whole : Produced f ⟨0, 0, toInt32 f.width, toInt32 f.height⟩
  | output {F : Type} {ar : AspectArith F} {ct : CroppingType} {outSize : Size} {rect : Rect} :
      getCropRect ar ct ⟨f.width, f.height⟩ outSize = .ok rect → Produced f rect
  | thumbnail {cropSz : Size} :
      ¬ wrongCrop ⟨f.width, f.height⟩ (inputCrop ⟨f.width, f.height⟩ cropSz) →
        Produced f (inputCrop ⟨f.width, f.height⟩ cropSz)

theorem bounds_cut {whole part : ℕ} (hwhole : whole ≤ INT_MAX) (hpart : ¬ whole < part) :
    0 ≤ toInt32 (even ((whole - even part) / 2)) ∧ 0 ≤ toInt32 (even part) ∧
      toInt32 (even ((whole - even part) / 2)) + toInt32 (even part) ≤ whole := by
  have hle := even_le part
  have hle' := even_le ((whole - even part) / 2)
  rw [toInt32_of_le (n := even part) (by omega), toInt32_of_le (by omega)]
  omega

/-- What passes the checks is in the direction, since a start that has wrapped round is behind
its end. -/
theorem bounds_centred {whole part : ℕ} (hwhole : whole < 2 ^ 30)
    (hstart : 2 * (((whole : ℤ) - part) % 2 ^ 32 / 4) < whole) (hpart : 0 < toInt32 part) :
    0 ≤ 2 * (((whole : ℤ) - part) % 2 ^ 32 / 4) ∧
      2 * (((whole : ℤ) - part) % 2 ^ 32 / 4) + toInt32 part ≤ whole := by
  obtain ⟨n, hn, hsmall, hmod⟩ : ∃ n : ℕ, toInt32 part = n ∧ n < 2 ^ 31 ∧ part % 2 ^ 32 = n := by
    refine ⟨part % 2 ^ 32, ?_, ?_, rfl⟩
    all_goals
      rw [toInt32, int32, Int.bmod_def] at *
      split at hpart
      · omega
      · omega
  have hdiff : ((whole : ℤ) - part) % 2 ^ 32 = ((whole : ℤ) - n) % 2 ^ 32 := by
    rw [← hmod]
    omega
  rw [hdiff] at hstart ⊢
  rw [hn]
  by_cases hle : n ≤ whole
  · rw [Int.emod_eq_of_lt (by omega) (by omega)]
    omega
  · have hwrap : ((whole : ℤ) - n) % 2 ^ 32 = whole - n + 2 ^ 32 := by omega
    rw [hwrap] at hstart
    omega

theorem bounds_of_produced (hw : f.width < 2 ^ 30) (hh : f.height < 2 ^ 30)
    (h : Produced f rect) :
    (0 ≤ rect.left ∧ 0 ≤ rect.width ∧ rect.left + rect.width ≤ f.width) ∧
      0 ≤ rect.top ∧ 0 ≤ rect.height ∧ rect.top + rect.height ≤ f.height := by
  have hwmax : f.width ≤ INT_MAX := by
    unfold INT_MAX
    omega
  have hhmax : f.height ≤ INT_MAX := by
    unfold INT_MAX
    omega
  have hwidth := toInt32_of_le hwmax
  have hheight := toInt32_of_le hhmax
  cases h with
  | whole =>
    dsimp only
    omega
  | @output F ar ct outSize rect h =>
    unfold getCropRect at h
    dsimp only at h
    split at h
    · obtain rfl := Except.ok.inj h
      dsimp only
      omega
    · cases ct with
      | vertical =>
        dsimp only at h
        split at h
        · cases h
        · split at h
          · cases h
          · rename_i hlarge
            obtain rfl := Except.ok.inj h
            have hcut := bounds_cut hhmax hlarge
            dsimp only
            omega
      | horizontal =>
        dsimp only at h
        split at h
        · cases h
        · split at h
          · cases h
          · rename_i hlarge
            obtain rfl := Except.ok.inj h
            have hcut := bounds_cut hwmax hlarge
            dsimp only
            omega
  | @thumbnail cropSz h =>
    unfold wrongCrop inputCrop at h
    dsimp only at h
    push Not at h
    obtain ⟨-, htop, -, hleft, hcropw, -, hcroph, -⟩ := h
    rw [hwidth] at hleft
    rw [hheight] at htop
    obtain ⟨hleft, hright⟩ := bounds_centred hw hleft hcropw
    obtain ⟨htop, hbottom⟩ := bounds_centred hh htop hcroph
    unfold inputCrop
    dsimp only
    exact ⟨⟨hleft, hcropw.le, hright⟩, htop, hcroph.le, hbottom⟩

theorem empty_of_produced (h : Produced f rect) (hempty : f.width = 0 ∨ f.height = 0) :
    rect.width = 0 ∨ rect.height = 0 := by
  have hzero : toInt32 0 = 0 := rfl
  cases h with
  | whole =>
    dsimp only
    obtain he | he := hempty
    · rw [he]
      exact .inl hzero
    · rw [he]
      exact .inr hzero
  | @output F ar ct outSize rect h =>
    have hcut : ∀ part : ℕ, ¬ 0 < part → toInt32 (even part) = 0 := by
      intro part hpart
      rw [Nat.eq_zero_of_not_pos hpart]
      rfl
    unfold getCropRect at h
    dsimp only at h
    split at h
    · obtain rfl := Except.ok.inj h
      obtain he | he := hempty
      · rw [he]
        exact .inl hzero
      · rw [he]
        exact .inr hzero
    · cases ct with
      | vertical =>
        dsimp only at h
        split at h
        · cases h
        · split at h
          · cases h
          · rename_i hlarge
            obtain rfl := Except.ok.inj h
            obtain he | he := hempty
            · rw [he]
              exact .inl hzero
            · rw [he] at hlarge
              right
              dsimp only
              exact hcut _ hlarge
      | horizontal =>
        dsimp only at h
        split at h
        · cases h
        · split at h
          · cases h
          · rename_i hlarge
            obtain rfl := Except.ok.inj h
            obtain he | he := hempty
            · rw [he] at hlarge
              left
              dsimp only
              exact hcut _ hlarge
            · rw [he]
              exact .inr hzero
  | @thumbnail cropSz h =>
    unfold wrongCrop at h
    push Not at h
    obtain ⟨htop, htop', hleft, hleft', -⟩ := h
    dsimp only at htop' hleft'
    obtain he | he := hempty
    · rw [he, hzero] at hleft'
      rw [he] at hleft
      exact absurd hleft' (not_lt.mpr hleft)
    · rw [he, hzero] at htop'
      rw [he] at htop
      exact absurd htop' (not_lt.mpr htop)

theorem isSubImage_of_produced (halloc : f.allocate = (true, g))
    (hsize : f.width * f.height * 3 < 2 ^ 32) (hrect : Produced g rect)
    (h : getCroppedLayout g rect = some l) : IsSubImage g rect l := by
  have hg := allocated_of_allocate halloc hsize
  by_cases hempty : g.width = 0 ∨ g.height = 0
  · exact isSubImage_of_empty (empty_of_produced hrect hempty)
  · push Not at hempty
    have hsize := hg.size
    have hw2 := hg.width
    have hh2 := hg.height
    have hw : g.width * 2 ≤ g.width * g.height := Nat.mul_le_mul_left _ (by omega)
    have hh : 2 * g.height ≤ g.width * g.height := Nat.mul_le_mul_right _ (by omega)
    obtain ⟨⟨hleft, hwidth, hright⟩, htop, hheight, hbottom⟩ :=
      bounds_of_produced (by omega) (by omega) hrect
    have hmax : (2 : ℤ) ^ 30 ≤ INT_MAX := by
      unfold INT_MAX
      decide
    have hnonneg : Nonneg rect :=
      ⟨⟨hleft, by omega⟩, ⟨htop, by omega⟩, ⟨hwidth, by omega⟩, ⟨hheight, by omega⟩⟩
    have hfit : SumsFit rect := ⟨by omega, by omega⟩
    exact isSubImage_of_fit hg hnonneg hfit h

/-- Whatever part of a frame the session takes, what is read is that part of the frame. Of the
rectangles that it might be asked for, it would be so as long as no sum wraps round. -/
theorem croppedLayout_isSubImage (halloc : f.allocate = (true, g))
    (hsize : f.width * f.height * 3 < 2 ^ 32) (h : getCroppedLayout g rect = some l) :
    (Produced g rect → IsSubImage g rect l) ∧
      (Nonneg rect →
        (IsSubImage g rect l ↔ rect.width = 0 ∨ rect.height = 0 ∨ SumsFit rect)) :=
  ⟨fun hrect ↦ isSubImage_of_produced halloc hsize hrect h,
    fun hrect ↦ croppedLayout_isSubImage_iff halloc hsize hrect h⟩

/-- A wide frame is cropped at its sides. -/
theorem croppedLayout_isSubImage_sides : ∃ rect l,
    getCropRect .exact .horizontal ⟨1280, 720⟩ ⟨640, 480⟩ = .ok rect ∧
      getCroppedLayout ⟨1280, 720, 1382400⟩ rect = some l ∧
      rect = ⟨160, 0, 960, 720⟩ ∧ IsSubImage ⟨1280, 720, 1382400⟩ rect l := by
  have halloc : AllocatedFrame.allocate ⟨1280, 720, 0⟩ = (true, ⟨1280, 720, 1382400⟩) := by
    decide +kernel
  have hrect : getCropRect .exact .horizontal ⟨1280, 720⟩ ⟨640, 480⟩ =
      .ok ⟨160, 0, 960, 720⟩ := by decide +kernel
  have h : getCroppedLayout ⟨1280, 720, 1382400⟩ ⟨160, 0, 960, 720⟩ =
      some ⟨160, 1280, 921680, 1152080, 640, 1⟩ := by decide +kernel
  exact ⟨_, _, hrect, h, rfl, (croppedLayout_isSubImage halloc (by decide) h).1 (.output hrect)⟩

end VirtualCamera.Session.SubImage
