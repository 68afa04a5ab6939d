import VirtualCamera.Session.Reconfigure

namespace VirtualCamera.Session.FrameRates

open Streams Request OneRequest
open Capture hiding State Label
open Caches hiding Label

structure Call where
  id : ℕ
  request : CaptureRequest
  answers : Answers

def process (s : State) (c : Call) : Reply := processOneCaptureRequest s c.id c.request c.answers

/-- The stream is stopped and set up anew. -/
def Reprograms (s : State) (c : Call) : Prop :=
  ∃ fps, .configureV4l2StreamLocked fps ∈ (process s c).log

/-- The target frame rate range of a request; one without settings has that of the request
before. -/
def range (s : State) (c : Call) : List ℤ :=
  (withSettings s c.answers.settings).device.latestReqSetting.aeTargetFpsRange

/-- What other threads make of the session until the next request. -/
structure Elapse where
  numDequeued : ℕ
  driver : Driver
  inflightFrames : Finset ℕ

def Elapse.act (e : Elapse) (s : State) : State :=
  { s with
    device := { s.device with
      v4l2 := { s.device.v4l2 with numDequeued := e.numDequeued, driver := e.driver }
      inflightFrames := e.inflightFrames } }

/-- After a request that succeeds, none with the same range sets the stream up. -/
def Undisturbed (s : State) (c : Call) : Prop :=
  (process s c).status = .ok → ∀ (e : Elapse) (next : Call),
    range (e.act (process s c).state) next = range s c →
    ¬ Reprograms (e.act (process s c).state) next

def SetsUp (v : V4l2) (fps : ℚ) (o : ConfigureOutcome) : Prop :=
  v.subDevice = true ∨ Starts v v.streamingFmt.frameRates fps o ∧ WarmsUp o

/-- The set-up for a rate remembers that rate. A sub-device remembers 15, and the rate 0 is
replaced by one of the list. -/
def Remembers (v : V4l2) (fps : ℚ) : Prop :=
  (v.subDevice = true → fps = 15) ∧
    (v.subDevice = false → fps = 0 → v.streamingFmt.frameRates ≠ [] ∧
      ∀ fr ∈ v.streamingFmt.frameRates, fr.getDouble = 0)

/-- The rate asked for is the one that the stream has, or is remembered, or the set-up fails. -/
def Settles (s : State) (c : Call) : Prop :=
  (process s c).status = .ok → ∀ fps,
    requestedFps (withSettings s c.answers.settings).device = some fps →
    fps = s.device.v4l2.streamingFps ∨ Remembers s.device.v4l2 fps ∨
      ¬ SetsUp s.device.v4l2 fps c.answers.configure

def Throughout (P : State → Call → Prop) : State → List (Call × Elapse) → Prop
  | _, [] => True
  | s, (c, e) :: rest => P s c ∧ Throughout P (e.act (process s c).state) rest

theorem throughout_congr {P Q : State → Call → Prop} (h : ∀ s c, P s c ↔ Q s c) (s : State)
    (calls : List (Call × Elapse)) : Throughout P s calls ↔ Throughout Q s calls := by
  induction calls generalizing s with
  | nil => exact Iff.rfl
  | cons call rest ih => exact and_congr (h s call.1) (ih _)

/-! ### The rate that is remembered -/

theorem getDouble_nonneg (fr : FrameRate) : 0 ≤ fr.getDouble :=
  div_nonneg (Nat.cast_nonneg _) (Nat.cast_nonneg _)

/-- The loop that picks the rates, from any start: the first is the largest, and the second is
the start's or at least 30. -/
theorem foldl_rates (frameRates : List FrameRate) (maxFps fps : ℚ) :
    let r := frameRates.foldl (fun acc fr ↦
      let f := fr.getDouble
      (if acc.1 < f then f else acc.1, if 30 ≤ f ∧ f < acc.2 then f else acc.2)) (maxFps, fps)
    (∀ x, r.1 ≤ x ↔ maxFps ≤ x ∧ ∀ fr ∈ frameRates, fr.getDouble ≤ x) ∧
      (r.2 = fps ∨ 30 ≤ r.2) ∧ ((∀ fr ∈ frameRates, fr.getDouble < 30) → r.2 = fps) := by
  induction frameRates generalizing maxFps fps with
  | nil =>
    refine ⟨fun x ↦ ?_, .inl rfl, fun _ ↦ rfl⟩
    exact ⟨fun h ↦ ⟨h, fun fr hfr ↦ absurd hfr List.not_mem_nil⟩, fun h ↦ h.1⟩
  | cons fr rest ih =>
    obtain ⟨hmax, hfps, hsmall⟩ := ih (if maxFps < fr.getDouble then fr.getDouble else maxFps)
      (if 30 ≤ fr.getDouble ∧ fr.getDouble < fps then fr.getDouble else fps)
    refine ⟨fun x ↦ (hmax x).trans ?_, ?_, fun h ↦ (hsmall fun fr' hfr' ↦
      h fr' (List.mem_cons_of_mem _ hfr')).trans ?_⟩
    · rw [List.forall_mem_cons, ← and_assoc]
      refine and_congr_left fun _ ↦ ?_
      split
      · rename_i hlt
        exact ⟨fun h ↦ ⟨hlt.le.trans h, h⟩, fun h ↦ h.2⟩
      · rename_i hle
        exact ⟨fun h ↦ ⟨h, (not_lt.mp hle).trans h⟩, fun h ↦ h.1⟩
    · obtain heq | hge := hfps
      · by_cases hpick : 30 ≤ fr.getDouble ∧ fr.getDouble < fps
        · exact .inr (hpick.1.trans_eq (heq.trans (if_pos hpick)).symm)
        · exact .inl (heq.trans (if_neg hpick))
      · exact .inr hge
    · exact if_neg fun hpick ↦ absurd hpick.1 (not_le.mpr (h fr List.mem_cons_self))

theorem selectFps_zero_iff (frameRates : List FrameRate) : selectFps frameRates 0 = 0 ↔
    frameRates ≠ [] ∧ ∀ fr ∈ frameRates, fr.getDouble = 0 := by
  obtain ⟨hmax, hfps, hsmall⟩ := foldl_rates frameRates (-1) 1000
  have hselect : selectFps frameRates 0 =
      if (selectRates frameRates).2 = 1000 then (selectRates frameRates).1
      else (selectRates frameRates).2 := if_neg (not_not_intro rfl)
  rw [hselect]
  constructor
  · intro h
    split at h
    · have hle : ∀ fr ∈ frameRates, fr.getDouble = 0 := fun fr hfr ↦
        le_antisymm (((hmax 0).mp h.le).2 fr hfr) (getDouble_nonneg fr)
      refine ⟨?_, hle⟩
      rintro rfl
      exact absurd h (by decide)
    · rename_i hne
      have hge : 30 ≤ (selectRates frameRates).2 := hfps.resolve_left hne
      rw [h] at hge
      exact absurd hge (by decide)
  · intro hcond
    obtain ⟨hne, hzero⟩ := hcond
    have htwo : (selectRates frameRates).2 = 1000 :=
      hsmall fun fr hfr ↦ by
        rw [hzero fr hfr]
        decide
    rw [if_pos htwo]
    apply le_antisymm
    · exact (hmax 0).mpr ⟨by decide, fun fr hfr ↦ (hzero fr hfr).le⟩
    · obtain ⟨fr, hfr⟩ := List.exists_mem_of_ne_nil frameRates hne
      have hle := ((hmax (selectRates frameRates).1).mp le_rfl).2 fr hfr
      rwa [hzero fr hfr] at hle

/-- What the session remembers after a set-up, for a device that is not a sub-device. -/
theorem selectFps_eq_iff (frameRates : List FrameRate) (fps : ℚ) :
    fps = selectFps frameRates fps ↔
      (fps = 0 → frameRates ≠ [] ∧ ∀ fr ∈ frameRates, fr.getDouble = 0) := by
  by_cases hzero : fps = 0
  · rw [hzero, eq_comm, selectFps_zero_iff]
    exact ⟨fun h _ ↦ h, fun h ↦ h rfl⟩
  · exact iff_of_true (if_pos hzero).symm fun h ↦ absurd h hzero

/-! ### The set-up -/

variable {v : V4l2} {fps : ℚ} {o : ConfigureOutcome}

/-- What a set-up leaves when the stream got idle: a stream at the remembered rate, or one that
is off or has no buffers. -/
theorem configure_rate (hs : v.streaming = true) (fps : ℚ) (o : ConfigureOutcome) (d : Driver) :
    let w := { v with numDequeued := 0, driver := d }
    let result := w.configureV4l2StreamLocked w.streamingFmt fps o
    (SetsUp v fps o ∧ result.2.1.frameRates = v.streamingFmt.frameRates ∧
        result.2.2.streaming = true ∧ (fps = result.2.2.streamingFps ↔ Remembers v fps)) ∨
      ¬ SetsUp v fps o ∧ (result.2.2.streaming = false ∨ result.2.2.bufferCount = 0) := by
  intro w result
  by_cases hsub : v.subDevice = true
  · obtain ⟨-, d', hconfigure⟩ := configure_subDevice (v := w) w.streamingFmt fps o hs rfl hsub
    have hresult : result = _ := hconfigure
    rw [hresult]
    refine .inl ⟨.inl hsub, rfl, rfl, fun h ↦ ⟨fun _ ↦ h, fun hmain ↦ ?_⟩, fun h ↦ h.1 hsub⟩
    rw [hsub] at hmain
    cases hmain
  have hmain : v.subDevice = false := Bool.eq_false_iff.mpr hsub
  by_cases hstarts : Starts w w.streamingFmt.frameRates fps o
  · have hstarts' : Starts v v.streamingFmt.frameRates fps o :=
      ⟨hstarts.stopped, hstarts.format, hstarts.granted, hstarts.started⟩
    obtain ⟨-, count, d', -, ⟨hwarm, hconfigure⟩ | ⟨hwarm, e, hconfigure⟩⟩ :=
      configure_starts (v := w) hs rfl hmain hstarts
    · have hresult : result = _ := hconfigure
      rw [hresult]
      refine .inl ⟨.inr ⟨hstarts', hwarm⟩, rfl, rfl, (selectFps_eq_iff _ fps).trans ?_⟩
      exact ⟨fun h ↦ ⟨fun h' ↦ absurd h' hsub, fun _ ↦ h⟩, fun h ↦ h.2 hmain⟩
    · have hresult : result = _ := hconfigure
      rw [hresult]
      exact .inr ⟨fun h ↦ hwarm (h.resolve_left hsub).2, .inl rfl⟩
  · obtain ⟨-, e, fmt, v', hconfigure, hoff⟩ := configure_fails (v := w) hs rfl hmain hstarts
    have hresult : result = _ := hconfigure
    rw [hresult]
    refine .inr ⟨fun h ↦ hstarts ?_, hoff⟩
    have hstarts' := (h.resolve_left hsub).1
    exact ⟨hstarts'.stopped, hstarts'.format, hstarts'.granted, hstarts'.started⟩

/-! ### One request after the other -/

variable {s : State} {c : Call}

theorem requestedFps_congr {s t : DeviceSession}
    (hrange : t.latestReqSetting.aeTargetFpsRange = s.latestReqSetting.aeTargetFpsRange)
    (hrates : t.v4l2.streamingFmt.frameRates = s.v4l2.streamingFmt.frameRates) :
    requestedFps t = requestedFps s := by
  unfold requestedFps
  rw [hrange, hrates]

/-- A request sets the stream up when it passes the checks, asks for another rate and the
pipeline gets idle. -/
theorem reprograms_iff (s : State) (c : Call) : Reprograms s c ↔
    Passes s c.request c.answers ∧ ∃ fps,
      requestedFps (withSettings s c.answers.settings).device = some fps ∧
      fps ≠ s.device.v4l2.streamingFps ∧
      waitUntilIdle s.device.v4l2 c.answers.idle ≠ none := by
  have hv := v4l2_withSettings s c.answers.settings
  by_cases hp : Passes s c.request c.answers
  · rw [and_iff_right hp]
    by_cases hsame : ∀ fps, requestedFps (withSettings s c.answers.settings).device = some fps →
        fps = (withSettings s c.answers.settings).device.v4l2.streamingFps
    · refine iff_of_false ?_ ?_
      · intro hcond
        obtain ⟨fps, hmem⟩ := hcond
        unfold process at hmem
        rw [process_adjusted hp (adjustFps_same hsame)] at hmem
        exact configure_not_mem_submit _ _ _ _ _ hmem
      · intro hcond
        obtain ⟨fps, hfps, hne, -⟩ := hcond
        exact hne (hv ▸ hsame fps hfps)
    · push Not at hsame
      obtain ⟨fps, hfps, hne⟩ := hsame
      obtain ⟨hwait, hnone⟩ | ⟨d, hwait, hadjust⟩ := adjustFps_other (a := c.answers) hfps hne
      · refine iff_of_false ?_ ?_
        · intro hcond
          obtain ⟨fps, hmem⟩ := hcond
          unfold process at hmem
          rw [process_busy hp hnone] at hmem
          cases hmem
        · intro hcond
          obtain ⟨fps, -, -, hidle⟩ := hcond
          rw [hv] at hwait
          exact hidle hwait
      · refine iff_of_true ⟨fps, ?_⟩ ⟨fps, hfps, hv ▸ hne, ?_⟩
        · unfold process
          rw [process_adjusted hp hadjust]
          exact List.mem_cons_self
        · rw [hv] at hwait
          rw [hwait]
          exact Option.some_ne_none _
  · refine iff_of_false ?_ fun h ↦ hp h.1
    intro hcond
    obtain ⟨fps, hmem⟩ := hcond
    obtain ⟨-, hlog, -⟩ := process_rejected c.id hp
    unfold process at hmem
    rw [hlog] at hmem
    cases hmem

theorem after_ok (h : (process s c).status = .ok) (e : Elapse) :
    Passes s c.request c.answers ∧ ∃ device log,
      adjustFps (withSettings s c.answers.settings).device c.answers = some (device, log) ∧
      0 < device.v4l2.bufferCount ∧ ∃ maps, (e.act (process s c).state).device = { device with
        v4l2 := { device.v4l2 with numDequeued := e.numDequeued, driver := e.driver }
        maps := maps
        inflightFrames := e.inflightFrames
        firstRequest := false } := by
  unfold process at h ⊢
  have hp : Passes s c.request c.answers := by
    by_contra hp
    exact (process_rejected c.id hp).1 h
  refine ⟨hp, ?_⟩
  cases hadjust : adjustFps (withSettings s c.answers.settings).device c.answers with
  | none =>
    rw [process_busy hp hadjust] at h
    cases h
  | some result =>
    obtain ⟨device, log⟩ := result
    rw [process_adjusted hp hadjust] at h ⊢
    obtain ⟨hpos, n, d, maps, inflight, hstate⟩ := submit_ok (s := { withSettings s
      c.answers.settings with device := device }) h
    refine ⟨device, log, rfl, hpos, maps, ?_⟩
    unfold Elapse.act
    dsimp only
    rw [hstate]

theorem requestedFps_next {t : State} {next : Call} (hrange : range t next = range s c)
    (hrates : t.device.v4l2.streamingFmt.frameRates = s.device.v4l2.streamingFmt.frameRates) :
    requestedFps (withSettings t next.answers.settings).device =
      requestedFps (withSettings s c.answers.settings).device := by
  apply requestedFps_congr hrange
  rw [v4l2_withSettings, v4l2_withSettings, hrates]

theorem undisturbed_of_same (hsame : ∀ fps,
    requestedFps (withSettings s c.answers.settings).device = some fps →
    fps = s.device.v4l2.streamingFps) : Undisturbed s c := by
  intro hok e next hrange hagain
  have hv := v4l2_withSettings s c.answers.settings
  obtain ⟨-, device, log, hadjust, -, maps, hdevice⟩ := after_ok hok e
  rw [adjustFps_same (hv.symm ▸ hsame)] at hadjust
  cases hadjust
  have hv4l2 := congrArg DeviceSession.v4l2 hdevice
  dsimp only at hv4l2
  rw [hv] at hv4l2
  obtain ⟨-, fps, hfps, hne, -⟩ := (reprograms_iff _ _).mp hagain
  rw [requestedFps_next hrange (by rw [hv4l2])] at hfps
  rw [hv4l2] at hne
  exact hne (hsame fps hfps)

def repeated (c : Call) (e : Elapse) : Call :=
  { c with answers := { c.answers with settings := .null, idle := some e.driver } }

/-- What the next request finds of a stream that was set up. -/
structure Found (s : State) (c : Call) (v : V4l2) (t : State) : Prop where
  initStatus : t.device.initStatus = s.device.initStatus
  firstRequest : t.device.firstRequest = false
  setting : t.device.latestReqSetting = (withSettings s c.answers.settings).device.latestReqSetting
  streaming : t.device.v4l2.streaming = v.streaming
  streamingFps : t.device.v4l2.streamingFps = v.streamingFps
  streamingFmt : t.device.v4l2.streamingFmt = v.streamingFmt

theorem found_of_other (hok : (process s c).status = .ok) {fps : ℚ}
    (hfps : requestedFps (withSettings s c.answers.settings).device = some fps)
    (hne : fps ≠ s.device.v4l2.streamingFps) :
    Passes s c.request c.answers ∧ ∃ d,
      let v := { s.device.v4l2 with numDequeued := 0, driver := d }
      let result := v.configureV4l2StreamLocked v.streamingFmt fps c.answers.configure
      0 < result.2.2.bufferCount ∧ ∀ e : Elapse,
        Found s c { result.2.2 with streamingFmt := result.2.1 } (e.act (process s c).state) := by
  obtain ⟨setting, heq⟩ := withSettings_eq s c.answers.settings
  obtain ⟨hp, device, log, hadjust, -⟩ := after_ok hok ⟨0, s.device.v4l2.driver, ∅⟩
  refine ⟨hp, ?_⟩
  rw [heq] at hfps hadjust
  obtain ⟨-, hnone⟩ | ⟨d, -, hother⟩ := adjustFps_other (a := c.answers) hfps hne
  · rw [hnone] at hadjust
    cases hadjust
  · dsimp only at hother
    refine ⟨d, ?_, fun e ↦ ?_⟩
    · obtain ⟨-, device', log', hadjust', hpos, -⟩ := after_ok hok ⟨0, s.device.v4l2.driver, ∅⟩
      rw [heq, hother] at hadjust'
      cases hadjust'
      exact hpos
    · obtain ⟨-, device', log', hadjust', -, maps, hdevice⟩ := after_ok hok e
      rw [heq, hother] at hadjust'
      cases hadjust'
      constructor
      · rw [hdevice]
        rfl
      · rw [hdevice]
      · rw [hdevice, heq]
      · rw [hdevice]
      · rw [hdevice]
      · rw [hdevice]

theorem undisturbed_iff_of_other (hok : (process s c).status = .ok) {fps : ℚ}
    (hfps : requestedFps (withSettings s c.answers.settings).device = some fps)
    (hne : fps ≠ s.device.v4l2.streamingFps) : Undisturbed s c ↔
      Remembers s.device.v4l2 fps ∨ ¬ SetsUp s.device.v4l2 fps c.answers.configure := by
  obtain ⟨hp, d, hpos, hfound⟩ := found_of_other hok hfps hne
  obtain ⟨hsets, hrates, hstreaming, hremembers⟩ | ⟨hsets, hoff⟩ :=
    configure_rate hp.streaming fps c.answers.configure d
  · rw [or_iff_left (not_not_intro hsets), ← hremembers]
    constructor
    · intro h
      by_contra hother
      have hnext := hfound ⟨0, d, ∅⟩
      have hrange : range (Elapse.act ⟨0, d, ∅⟩ (process s c).state) (repeated c ⟨0, d, ∅⟩) =
          range s c := congrArg Setting.aeTargetFpsRange hnext.setting
      refine h hok ⟨0, d, ∅⟩ (repeated c ⟨0, d, ∅⟩) hrange
        ((reprograms_iff _ _).mpr ⟨?_, fps, ?_, ?_, ?_⟩)
      · refine ⟨hnext.initStatus.trans hp.initStatus, hp.inputStream,
          hnext.streaming.trans hstreaming, ReadSettings.noConfusion, fun hfirst ↦ ?_, hp.outputs⟩
        rw [hnext.firstRequest] at hfirst
        cases hfirst.1
      · rw [requestedFps_next hrange (by rw [hnext.streamingFmt]; exact hrates)]
        exact hfps
      · rw [hnext.streamingFps]
        exact hother
      · intro hnone
        unfold waitUntilIdle Elapse.act at hnone
        rw [if_pos rfl] at hnone
        cases hnone
    · intro h _ e next hrange hagain
      obtain ⟨-, fps', hfps', hne', -⟩ := (reprograms_iff _ _).mp hagain
      rw [requestedFps_next hrange (by rw [(hfound e).streamingFmt]; exact hrates), hfps] at hfps'
      cases hfps'
      rw [(hfound e).streamingFps] at hne'
      exact hne' h
  · refine iff_of_true (fun _ e next _ hagain ↦ ?_) (.inr hsets)
    obtain ⟨hp', -⟩ := (reprograms_iff _ _).mp hagain
    have hon := hp'.streaming
    rw [(hfound e).streaming] at hon
    obtain hoff | hzero := hoff
    · dsimp only at hon
      rw [hoff] at hon
      cases hon
    · exact absurd hzero (Nat.ne_of_gt hpos)

theorem undisturbed_iff (s : State) (c : Call) : Undisturbed s c ↔ Settles s c := by
  by_cases hok : (process s c).status = .ok
  · by_cases hsame : ∀ fps, requestedFps (withSettings s c.answers.settings).device = some fps →
        fps = s.device.v4l2.streamingFps
    · exact iff_of_true (undisturbed_of_same hsame) fun _ fps hfps ↦ .inl (hsame fps hfps)
    · push Not at hsame
      obtain ⟨fps, hfps, hne⟩ := hsame
      rw [undisturbed_iff_of_other hok hfps hne]
      constructor
      · intro h _ fps' hfps'
        rw [hfps] at hfps'
        cases hfps'
        exact .inr h
      · intro h
        exact (h hok fps hfps).resolve_left hne
  · exact iff_of_true (fun h ↦ absurd h hok) fun h ↦ absurd h hok

/-- In a sequence of requests, none that follows one with its range sets the stream up, exactly
when each rate that is asked for settles. -/
theorem reconfiguration_idempotent_iff (s : State) (calls : List (Call × Elapse)) :
    Throughout Undisturbed s calls ↔ Throughout Settles s calls :=
  throughout_congr undisturbed_iff s calls

/-! ### A camera without frame rates, and a sub-device -/

def streaming (subDevice : Bool) (streamingFps : ℚ) (frameRates : List FrameRate) : State where
  device := { Configure.configured with
    v4l2 := { Accounting.configured.v4l2 with
      subDevice
      streamingFps
      streamingFmt := ⟨8, 8, 0, frameRates⟩ } }
  imported := 43

/-- A request for 15 to 30 frames in a second, for which all calls work. -/
def upTo30 : Call where
  id := 0
  request := ⟨1, -1, [⟨1, 7⟩]⟩
  answers := {
    settings := .settings ⟨[15, 30]⟩
    idle := none
    configure := Accounting.smoothConfigure
    imports := fun _ ↦ ⟨true, true, true⟩
    fence := fun _ ↦ -1
    room := none
    dequeue := ⟨some ⟨0, 50⟩, true, none⟩
    shutterTs := 0 }

def idle : Elapse := ⟨0, ⟨{0}, ∅, false⟩, ∅⟩

/-- The rate 0 is remembered as -1 when there is no list to pick from, and a sub-device remembers
15; the same request sets the stream up again. -/
theorem reprogrammed_again : ¬ Undisturbed (streaming false (-1) []) upTo30 ∧
    ¬ Undisturbed (streaming true 15 [⟨1, 30⟩]) upTo30 := by
  constructor
  · intro h
    refine h (by decide +kernel) idle upTo30 (by decide +kernel) ⟨0, ?_⟩
    decide +kernel
  · intro h
    refine h (by decide +kernel) idle upTo30 (by decide +kernel) ⟨30, ?_⟩
    decide +kernel

end VirtualCamera.Session.FrameRates
