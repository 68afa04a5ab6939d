import VirtualCamera.Session.OneRequest

namespace VirtualCamera.Session.OneRequest

open Library.Assoc Streams Request
open Capture hiding State Label
open Caches hiding Label

variable {s : State} {id : ℕ} {request : CaptureRequest} {a : Answers}

/-- The two sessions differ in the stream and in whether the first request was seen. -/
def Alike (s t : State) : Prop :=
  ∃ v first, s = { t with device := { t.device with v4l2 := v, firstRequest := first } }

theorem adjustFps_of_requestedFps {s : DeviceSession} (o : RequestOutcome) :
    requestedFps s = none ∧ Request.adjustFps s o = some s ∨
      ∃ fps v, requestedFps s = some fps ∧ Request.adjustFps s o =
        if fps ≠ s.v4l2.streamingFps then
          if ¬ o.idle then none else some { s with v4l2 := v }
        else some s := by
  unfold requestedFps Request.adjustFps
  obtain _ | ⟨fpsMin, _ | ⟨fpsMax, _ | ⟨other, rest⟩⟩⟩ := s.latestReqSetting.aeTargetFpsRange
  · exact .inl ⟨rfl, rfl⟩
  · exact .inl ⟨rfl, rfl⟩
  · exact .inr ⟨_, _, rfl, rfl⟩
  · exact .inl ⟨rfl, rfl⟩

theorem adjustFps_refines {s : DeviceSession} {o : RequestOutcome}
    (hidle : o.idle = (waitUntilIdle s.v4l2 a.idle).isSome) :
    adjustFps s a = none ∧ Request.adjustFps s o = none ∨
      ∃ v v' log, adjustFps s a = some ({ s with v4l2 := v }, log) ∧
        Request.adjustFps s o = some { s with v4l2 := v' } := by
  obtain ⟨hnone, hrequest⟩ | ⟨fps, v', hfps, hrequest⟩ := adjustFps_of_requestedFps (s := s) o
  · refine .inr ⟨s.v4l2, s.v4l2, [], adjustFps_same fun fps hfps ↦ ?_, hrequest⟩
    rw [hnone] at hfps
    cases hfps
  · by_cases hne : fps ≠ s.v4l2.streamingFps
    · rw [if_pos hne, hidle] at hrequest
      obtain ⟨hwait, hadjust⟩ | ⟨d, hwait, hadjust⟩ := adjustFps_other (a := a) hfps hne
      · rw [hwait] at hrequest
        exact .inl ⟨hadjust, hrequest⟩
      · rw [hwait] at hrequest
        exact .inr ⟨_, v', _, hadjust, hrequest⟩
    · rw [if_neg hne] at hrequest
      refine .inr ⟨s.v4l2, s.v4l2, [], adjustFps_same fun fps' hfps' ↦ ?_, hrequest⟩
      rw [hfps] at hfps'
      cases hfps'
      exact not_not.mp hne

/-- From the import on, the result depends on the stream for the frame only. -/
theorem submit_refines (s : State) (id : ℕ) (request : CaptureRequest) (a : Answers)
    (device : DeviceSession) (v v' : V4l2) :
    ∃ fences frame, ∀ o : RequestOutcome, o.fence = (imported a [] fences).fence →
      o.frame = frame → Request.adjustFps s.device o = some { device with v4l2 := v' } →
      request.outputBuffers ≠ [] →
      let reply := submit { s with device := { device with v4l2 := v } } id request a
      let result := s.buildRequest id request o a.imports
      reply.status = result.1 ∧ reply.request = result.2.1 ∧ Alike reply.state result.2.2 := by
  have hrefines := import_refines (State.caches { s with device := { device with v4l2 := v } })
    request.outputBuffers a
  cases hresult : Caches.importRequestLockedImpl
      (State.caches { s with device := { device with v4l2 := v } }) request.outputBuffers
      a.imports with
  | mk r c =>
    have hresult' : Caches.importRequestLockedImpl
        (State.caches { s with device := { device with v4l2 := v' } }) request.outputBuffers
        a.imports = (r, c) := hresult
    rw [hresult] at hrefines
    obtain ⟨status, log, _, himport, rfl, _⟩ | ⟨handles, fences, log, himport, rfl, _⟩ := hrefines
    · refine ⟨[], none, fun o _ _ hadjust houtputs ↦ ?_⟩
      unfold submit State.buildRequest
      rw [himport, if_neg houtputs, hadjust]
      dsimp only
      rw [hresult']
      exact ⟨rfl, rfl, v, device.firstRequest, rfl⟩
    · cases hframe : dequeueV4l2FrameLocked v a.room a.dequeue with
      | mk index rest =>
        cases index with
        | none =>
          refine ⟨fences, none, fun o _ hnone hadjust houtputs ↦ ?_⟩
          unfold submit dequeue State.buildRequest
          rw [himport, if_neg houtputs, hadjust]
          dsimp only
          rw [hresult']
          dsimp only [State.setCaches]
          rw [hframe, hnone]
          exact ⟨rfl, rfl, rest.1, device.firstRequest, rfl⟩
        | some index =>
          let fmt := rest.1.streamingFmt
          refine ⟨fences, some (⟨fmt.width, fmt.height, fmt.fourcc, index⟩, a.shutterTs),
            fun o hfence hsome hadjust houtputs ↦ ?_⟩
          unfold submit dequeue State.buildRequest
          rw [himport, if_neg houtputs, hadjust]
          dsimp only
          rw [hresult']
          dsimp only [State.setCaches]
          rw [hframe, hsome]
          dsimp only
          rw [fillBuffers_congr (imported a handles fences)
            { o with handle := fun i ↦ handles[i]?, frame := some _ } rfl hfence.symm]
          exact ⟨rfl, rfl, rest.1, false, rfl⟩

/-- What the two models of a request have in common. -/
def Agrees (reply : Reply) (result : Status × Option HalRequest × State) : Prop :=
  reply.status = result.1 ∧ reply.request = result.2.1 ∧ Alike reply.state result.2.2

theorem agrees_self (s : State) (status : Status) (log : List Action) :
    Agrees ⟨status, none, s, log⟩ (status, none, s) :=
  ⟨rfl, rfl, s.device.v4l2, s.device.firstRequest, rfl⟩

theorem settled_refines (s : State) (id : ℕ) (request : CaptureRequest) (a : Answers)
    (houtputs : request.outputBuffers ≠ []) : ∃ o : RequestOutcome, o.settings = a.settings ∧
      (adjustFps s.device a = none ∧
          s.buildRequest id request o a.imports = (.internalError, none, s) ∨
        ∃ device log, adjustFps s.device a = some (device, log) ∧
          Agrees (submit { s with device } id request a) (s.buildRequest id request o a.imports)) := by
  let idle := (waitUntilIdle s.device.v4l2 a.idle).isSome
  obtain ⟨hadjust, hrequest⟩ | ⟨v, v', log, hadjust, hrequest⟩ :=
    adjustFps_refines (o := { imported a [] [] with idle }) rfl
  · refine ⟨{ imported a [] [] with idle }, rfl, .inl ⟨hadjust, ?_⟩⟩
    unfold State.buildRequest
    rw [if_neg houtputs, hrequest]
  · obtain ⟨fences, frame, hsubmit⟩ := submit_refines s id request a s.device v v'
    exact ⟨{ imported a [] fences with idle, frame }, rfl, .inr ⟨_, log, hadjust,
      hsubmit { imported a [] fences with idle, frame } rfl rfl hrequest houtputs⟩⟩

/-- But for the stream, a request is one of which the answers are known by their outcome. -/
theorem process_refines (s : State) (id : ℕ) (request : CaptureRequest) (a : Answers) :
    ∃ o, Agrees (processOneCaptureRequest s id request a)
      (s.processOneCaptureRequest id request o a.imports) := by
  by_cases hpasses : Passes s request a
  · obtain ⟨o, hsettings, hbuild⟩ :=
      settled_refines (withSettings s a.settings) id request a hpasses.outputs
    have hcaches : s.processOneCaptureRequest id request o a.imports =
        (withSettings s a.settings).buildRequest id request o a.imports := by
      unfold State.processOneCaptureRequest
      rw [if_neg (not_not_intro hpasses.initStatus), if_neg (not_not_intro hpasses.inputStream),
        if_neg (not_not_intro hpasses.streaming), hsettings]
      cases hset : a.settings with
      | corrupt => exact absurd hset hpasses.converted
      | null => exact if_neg fun hfirst ↦ hpasses.first ⟨hfirst, hset⟩
      | settings setting => rfl
    refine ⟨o, ?_⟩
    rw [hcaches]
    obtain ⟨hadjust, hresult⟩ | ⟨device, log, hadjust, hagrees⟩ := hbuild
    · rw [process_busy hpasses hadjust, hresult]
      exact agrees_self _ _ _
    · rw [process_adjusted hpasses hadjust]
      exact hagrees
  · refine ⟨imported a [] [], ?_⟩
    unfold processOneCaptureRequest State.processOneCaptureRequest
    by_cases hinit : s.device.initStatus ≠ .ok
    · rw [if_pos hinit, if_pos hinit]
      exact agrees_self _ _ _
    rw [if_neg hinit, if_neg hinit]
    by_cases hinput : request.inputStreamId ≠ -1
    · rw [if_pos hinput, if_pos hinput]
      exact agrees_self _ _ _
    rw [if_neg hinput, if_neg hinput]
    by_cases hstreaming : ¬ s.device.v4l2.streaming = true
    · rw [if_pos hstreaming, if_pos hstreaming]
      exact agrees_self _ _ _
    rw [if_neg hstreaming, if_neg hstreaming, show (imported a [] []).settings = a.settings from rfl]
    cases hset : a.settings with
    | corrupt =>
      dsimp only
      rw [if_pos rfl]
      exact agrees_self _ _ _
    | null =>
      dsimp only [withSettings]
      rw [if_neg ReadSettings.noConfusion]
      by_cases hfirst : s.device.firstRequest = true
      · rw [if_pos ⟨hfirst, rfl⟩, if_pos hfirst]
        exact agrees_self _ _ _
      · have houtputs : request.outputBuffers = [] := by
          by_contra hne
          exact hpasses ⟨not_not.mp hinit, not_not.mp hinput, not_not.mp hstreaming,
            by rw [hset]; exact ReadSettings.noConfusion, fun h ↦ hfirst h.1, hne⟩
        unfold State.buildRequest
        rw [if_neg fun h ↦ hfirst h.1, if_neg hfirst, if_pos houtputs, if_pos houtputs]
        exact agrees_self _ _ _
    | settings setting =>
      have houtputs : request.outputBuffers = [] := by
        by_contra hne
        exact hpasses ⟨not_not.mp hinit, not_not.mp hinput, not_not.mp hstreaming,
          by rw [hset]; exact ReadSettings.noConfusion,
          fun h ↦ (by rw [hset] at h; cases h.2), hne⟩
      dsimp only [withSettings]
      unfold State.buildRequest
      rw [if_neg ReadSettings.noConfusion, if_neg fun h ↦ (by cases h.2), if_pos houtputs,
        if_pos houtputs]
      exact agrees_self _ _ _

end VirtualCamera.Session.OneRequest
