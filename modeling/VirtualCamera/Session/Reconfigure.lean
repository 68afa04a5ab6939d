import VirtualCamera.Session.OneRequest
import VirtualCamera.Session.StreamOff

namespace VirtualCamera.Session.OneRequest

open Capture StreamOff

/-- The set-up of a stream gets as far as the warm-up. -/
structure Starts (v : V4l2) (frameRates : List FrameRate) (requestFps : ℚ)
    (o : ConfigureOutcome) : Prop where
  stopped : o.streamOff.streamOff = true ∧ o.streamOff.reqbufs = true
  format : o.sFmt = true
  granted : ∃ count, o.reqbufs = some count ∧
    v.v4lBufferCount (selectFps frameRates requestFps) ≤ count ∧
    ∀ i < count, o.querybuf i = true ∧ o.qbuf i = true
  started : o.streamOn = true

def Swallows (o : ConfigureOutcome) (i : ℕ) : Prop :=
  (o.warmupDqbuf i).isSome = true ∧ o.warmupQbuf i = true

def WarmsUp (o : ConfigureOutcome) : Prop := ∀ i < kBadFramesAfterStreamOn, Swallows o i

instance (o : ConfigureOutcome) (i : ℕ) : Decidable (Swallows o i) :=
  inferInstanceAs (Decidable (_ ∧ _))

variable {v : V4l2} {fmt : SupportedV4L2Format} {requestFps : ℚ} {o : ConfigureOutcome}

theorem queueBuffers_ok_iff (d : Driver) (i n : ℕ) :
    (d.queueBuffers o i n).1 = .ok () ↔
      ∀ j, i ≤ j → j < i + n → o.querybuf j = true ∧ o.qbuf j = true := by
  induction n generalizing d i with
  | zero => exact ⟨fun _ j hi hj ↦ by omega, fun _ ↦ rfl⟩
  | succ n ih =>
    unfold Driver.queueBuffers
    split
    · rename_i hq
      refine ⟨fun h ↦ (by cases h), fun h ↦ absurd (h i le_rfl (by omega)).1 hq⟩
    split
    · rename_i hq
      refine ⟨fun h ↦ (by cases h), fun h ↦ absurd (h i le_rfl (by omega)).2 hq⟩
    rename_i hquery hqbuf
    rw [ih]
    refine ⟨fun h j hi hj ↦ ?_, fun h j hi hj ↦ h j (by omega) (by omega)⟩
    obtain rfl | hlt := Nat.eq_or_lt_of_le hi
    · exact ⟨not_not.mp hquery, not_not.mp hqbuf⟩
    · exact h j hlt (by omega)

theorem warmup_ok_iff (d : Driver) (i n : ℕ) :
    (d.warmup o i n).1 = .ok () ↔ ∀ j, i ≤ j → j < i + n → Swallows o j := by
  induction n generalizing d i with
  | zero => exact ⟨fun _ j hi hj ↦ by omega, fun _ ↦ rfl⟩
  | succ n ih =>
    unfold Driver.warmup
    split
    · rename_i hd
      refine ⟨fun h ↦ (by cases h), fun h ↦ ?_⟩
      have hsome := (h i le_rfl (by omega)).1
      rw [hd] at hsome
      cases hsome
    rename_i index hd
    split
    · rename_i hq
      refine ⟨fun h ↦ (by cases h), fun h ↦ absurd (h i le_rfl (by omega)).2 hq⟩
    rename_i hq
    rw [ih]
    refine ⟨fun h j hi hj ↦ ?_, fun h j hi hj ↦ h j (by omega) (by omega)⟩
    obtain rfl | hlt := Nat.eq_or_lt_of_le hi
    · exact ⟨by rw [hd]; rfl, not_not.mp hq⟩
    · exact h j hlt (by omega)

/-! ### The parts of the set-up -/

def Grants (v : V4l2) (fps : ℚ) (o : ConfigureOutcome) (count : ℕ) : Prop :=
  o.reqbufs = some count ∧ v.v4lBufferCount fps ≤ count

theorem requestBuffers_granted (v : V4l2) (fmt : SupportedV4L2Format) {count : ℕ}
    (h : Grants v (selectFps fmt.frameRates requestFps) o count) :
    v.requestBuffers fmt requestFps o = (.ok (), { v with
      maxBufferSize := o.sizeimage
      streamingFps := selectFps fmt.frameRates requestFps
      driver := v.driver.drop
      bufferCount := count }) := by
  unfold V4l2.requestBuffers
  simp only [h.1]
  exact if_neg (not_lt.mpr h.2)

theorem requestBuffers_refused (v : V4l2) (fmt : SupportedV4L2Format)
    (h : ∀ count, ¬ Grants v (selectFps fmt.frameRates requestFps) o count) :
    ∃ e d, v.requestBuffers fmt requestFps o = (.error e, { v with
      maxBufferSize := o.sizeimage
      streamingFps := selectFps fmt.frameRates requestFps
      driver := d }) := by
  unfold V4l2.requestBuffers
  dsimp only
  split
  · exact ⟨_, _, rfl⟩
  · rename_i count hreq
    have hlt := not_le.mp fun hle ↦ h count ⟨hreq, hle⟩
    exact ⟨_, _, if_pos hlt⟩

def Runs (count : ℕ) (o : ConfigureOutcome) : Prop :=
  (∀ i < count, o.querybuf i = true ∧ o.qbuf i = true) ∧ o.streamOn = true

theorem queueBuffers_runs (d : Driver) {count : ℕ} (h : Runs count o) :
    ∃ d', d.queueBuffers o 0 count = (.ok (), d') := by
  have hok := (queueBuffers_ok_iff (o := o) d 0 count).mpr fun j _ hj ↦ h.1 j (by omega)
  exact ⟨_, Prod.ext hok rfl⟩

theorem startStream_runs (h : Runs v.bufferCount o) : ∃ r d, (r = .ok () ↔ WarmsUp o) ∧
    v.startStream o = (r, { v with driver := d }) := by
  obtain ⟨d, hd⟩ := queueBuffers_runs v.driver h
  unfold V4l2.startStream
  rw [hd]
  dsimp only
  rw [if_neg (not_not_intro h.2)]
  refine ⟨_, _, ?_, rfl⟩
  rw [warmup_ok_iff]
  exact ⟨fun hw i hi ↦ hw i (Nat.zero_le i) (by omega), fun hw j _ hj ↦ hw j (by omega)⟩

theorem startStream_fails (h : ¬ Runs v.bufferCount o) :
    ∃ e d, v.startStream o = (.error e, { v with driver := d }) := by
  unfold V4l2.startStream
  split
  · exact ⟨_, _, rfl⟩
  · rename_i d hd
    have hok := (queueBuffers_ok_iff v.driver 0 v.bufferCount).mp (congrArg Prod.fst hd)
    split
    · exact ⟨_, _, rfl⟩
    · rename_i hon
      exact (h ⟨fun i hi ↦ hok i (Nat.zero_le i) (by omega), not_not.mp hon⟩).elim

/-! ### The set-up of an idle stream -/

theorem configure_subDevice (fmt : SupportedV4L2Format) (requestFps : ℚ)
    (o : ConfigureOutcome) (hs : v.streaming = true) (hn : v.numDequeued = 0)
    (hsub : v.subDevice = true) :
    configureLog v fmt requestFps o = [] ∧ ∃ d, v.configureV4l2StreamLocked fmt requestFps o =
      (.ok (), fmt, { v with
        streamingFps := 15, bufferCount := 1, streamingFmt := fmt, streaming := true
        driver := d }) := by
  obtain ⟨d, hoff⟩ := streamOff_stops hs hn (.inl hsub : IoctlsWork v o.streamOff)
  unfold configureLog V4l2.configureV4l2StreamLocked
  rw [hoff]
  dsimp only
  rw [if_pos hsub, if_pos hsub]
  exact ⟨rfl, d, rfl⟩

/-- The session after the set-up, but for what the driver makes of the warm-up. -/
def configured (v : V4l2) (fmt : SupportedV4L2Format) (requestFps : ℚ) (o : ConfigureOutcome)
    (count : ℕ) (d : Driver) : V4l2 :=
  { v with
    maxBufferSize := o.sizeimage
    streamingFps := selectFps fmt.frameRates requestFps
    bufferCount := count
    driver := d
    streaming := false }

theorem configure_starts (hs : v.streaming = true) (hn : v.numDequeued = 0)
    (hsub : v.subDevice = false) (h : Starts v fmt.frameRates requestFps o) :
    configureLog v fmt requestFps o = warmupLog o 0 kBadFramesAfterStreamOn ∧
      ∃ count d, o.reqbufs = some count ∧
        let fmt' := { fmt with width := o.width, height := o.height }
        let v' := configured v fmt requestFps o count d
        (WarmsUp o ∧ v.configureV4l2StreamLocked fmt requestFps o =
            (.ok (), fmt', { v' with streamingFmt := fmt', streaming := true }) ∨
          ¬ WarmsUp o ∧ ∃ e, v.configureV4l2StreamLocked fmt requestFps o =
            (.error e, fmt', v')) := by
  obtain ⟨count, hreq, hle, hbufs⟩ := h.granted
  obtain ⟨d, hoff⟩ := streamOff_stops hs hn (.inr h.stopped : IoctlsWork v o.streamOff)
  have hsub' : ¬ v.subDevice = true := by
    rw [hsub]
    exact Bool.false_ne_true
  have hgranted := requestBuffers_granted
    { v with bufferCount := 0, streaming := false, driver := d }
    { fmt with width := o.width, height := o.height } ⟨hreq, hle⟩
  have hruns : Runs count o := ⟨hbufs, h.started⟩
  unfold configureLog V4l2.configureV4l2StreamLocked
  rw [hoff]
  dsimp only
  rw [if_neg hsub', if_neg hsub', if_neg (not_not_intro h.format),
    if_neg (not_not_intro h.format), hgranted]
  dsimp only
  constructor
  · obtain ⟨d', hqueued⟩ := queueBuffers_runs d.drop hruns
    rw [hqueued]
    exact if_neg (not_not_intro h.started)
  · obtain ⟨r, d', hr, hstart⟩ := startStream_runs (o := o)
      (v := configured v fmt requestFps o count d.drop) hruns
    refine ⟨count, d', hreq, ?_⟩
    cases r with
    | ok u =>
      refine .inl ⟨hr.mp rfl, ?_⟩
      unfold configured at hstart
      rw [hstart]
      rfl
    | error e =>
      refine .inr ⟨fun hw ↦ (by cases hr.mpr hw), e, ?_⟩
      unfold configured at hstart
      rw [hstart]
      rfl

/-- A set-up that does not come to the warm-up leaves a stream that is off or has no buffers. -/
theorem configure_fails (hs : v.streaming = true) (hn : v.numDequeued = 0)
    (hsub : v.subDevice = false) (h : ¬ Starts v fmt.frameRates requestFps o) :
    configureLog v fmt requestFps o = [] ∧ ∃ e fmt' v',
      v.configureV4l2StreamLocked fmt requestFps o = (.error e, fmt', v') ∧
        (v'.streaming = false ∨ v'.bufferCount = 0) := by
  have hsub' : ¬ v.subDevice = true := by
    rw [hsub]
    exact Bool.false_ne_true
  unfold configureLog V4l2.configureV4l2StreamLocked
  by_cases hstop : o.streamOff.streamOff = true ∧ o.streamOff.reqbufs = true
  · obtain ⟨d, hoff⟩ := streamOff_stops hs hn (.inr hstop : IoctlsWork v o.streamOff)
    rw [hoff]
    dsimp only
    rw [if_neg hsub', if_neg hsub']
    by_cases hfmt : o.sFmt = true
    · rw [if_neg (not_not_intro hfmt), if_neg (not_not_intro hfmt)]
      by_cases hgrants : ∃ count, Grants v (selectFps fmt.frameRates requestFps) o count
      · obtain ⟨count, hgrants⟩ := hgrants
        have hgranted := requestBuffers_granted
          { v with bufferCount := 0, streaming := false, driver := d }
          { fmt with width := o.width, height := o.height } hgrants
        have hruns : ¬ Runs count o :=
          fun hr ↦ h ⟨hstop, hfmt, ⟨count, hgrants.1, hgrants.2, hr.1⟩, hr.2⟩
        rw [hgranted]
        obtain ⟨e, d', hstart⟩ := startStream_fails (o := o)
          (v := configured v fmt requestFps o count d.drop) hruns
        unfold configured at hstart
        dsimp only
        rw [hstart]
        refine ⟨?_, _, _, _, rfl, .inl rfl⟩
        split
        · rfl
        · rename_i d'' hqueued
          have hok := (queueBuffers_ok_iff d.drop 0 count).mp (congrArg Prod.fst hqueued)
          refine if_pos fun hon ↦ hruns ⟨fun i hi ↦ hok i (Nat.zero_le i) (by omega), hon⟩
      · obtain ⟨e, d', hrefused⟩ := requestBuffers_refused
          { v with bufferCount := 0, streaming := false, driver := d }
          { fmt with width := o.width, height := o.height } (not_exists.mp hgrants)
        rw [hrefused]
        exact ⟨rfl, _, _, _, rfl, .inl rfl⟩
    · rw [if_pos hfmt, if_pos hfmt]
      exact ⟨rfl, _, _, _, rfl, .inl rfl⟩
  · have hfails : o.streamOff.streamOff = false ∨ o.streamOff.reqbufs = false := by
      cases hoff : o.streamOff.streamOff with
      | false => exact .inl rfl
      | true => exact .inr (Bool.eq_false_iff.mpr fun hreq ↦ hstop ⟨hoff, hreq⟩)
    obtain ⟨e, d, hoff⟩ := streamOff_fails (⟨hs, hn, hsub, hfails⟩ : IoctlFails v o.streamOff)
    rw [hoff]
    exact ⟨rfl, _, _, _, rfl, .inr rfl⟩

end VirtualCamera.Session.OneRequest
