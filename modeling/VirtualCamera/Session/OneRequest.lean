import VirtualCamera.Session.Caches
import VirtualCamera.Library.Ledger

namespace VirtualCamera.Session.OneRequest

open Library.Assoc Streams Request
open Capture hiding State Label
open Caches hiding Label

/-! ### What a request does outside of the session -/

/-- The set-up of the stream, the frames that are taken from the driver and put back, the acquire
fences, and the request's entry among those in flight. -/
inductive Action
  | configureV4l2StreamLocked (requestFps : ℚ)
  | dqbuf (index : ℕ)
  | qbuf (index : ℕ)
  | importFence (fd : ℤ)
  | closeFence (fd : ℤ)
  | insertInflight (frameNumber : ℕ)
  deriving DecidableEq

def act (d : Driver) : Action → Driver
  | .dqbuf index => d.dqbuf index
  | .qbuf index => d.qbuf index
  | _ => d

/-- The counter and the driver's queue when a wait is over, in which other threads put frames
back. -/
structure Interference where
  numDequeued : ℕ
  driver : Driver

/-- What the calls return. A wait that times out returns nothing, and so does the import of a
fence that fails; the fence of a buffer without one is -1. -/
structure Answers where
  settings : ReadSettings
  idle : Option Driver
  configure : ConfigureOutcome
  imports : ℕ → Import
  fence : ℕ → ℤ
  room : Option Interference
  dequeue : DequeueOutcome
  shutterTs : ℤ

def waitUntilIdle (v : V4l2) (idle : Option Driver) : Option V4l2 :=
  if v.numDequeued = 0 then some v
  else idle.map fun driver ↦ { v with numDequeued := 0, driver }

def waitForReturn (v : V4l2) (room : Option Interference) : Option V4l2 :=
  if v.numDequeued = v.bufferCount then
    room.map fun i ↦ { v with numDequeued := i.numDequeued, driver := i.driver }
  else some v

/-! ### The driver's frames -/

def warmupLog (o : ConfigureOutcome) (i : ℕ) : (remaining : ℕ) → List Action
  | 0 => []
  | remaining + 1 =>
    match o.warmupDqbuf i with
    | none => []
    | some index =>
      if ¬ o.warmupQbuf i then [.dqbuf index]
      else .dqbuf index :: .qbuf index :: warmupLog o (i + 1) remaining

/-- The frames of the warm-up, when the set-up comes to it. The buffers that are queued before
the stream is started are not in the log. -/
def configureLog (v : V4l2) (fmt : SupportedV4L2Format) (requestFps : ℚ)
    (o : ConfigureOutcome) : List Action :=
  match v.v4l2StreamOffLocked o.streamOff with
  | (.error _, _) => []
  | (.ok (), v) =>
    if v.subDevice then []
    else if ¬ o.sFmt then []
    else
      match v.requestBuffers { fmt with width := o.width, height := o.height } requestFps o with
      | (.error _, _) => []
      | (.ok (), v) =>
        match v.driver.queueBuffers o 0 v.bufferCount with
        | (.error _, _) => []
        | (.ok (), _) => if ¬ o.streamOn then [] else warmupLog o 0 kBadFramesAfterStreamOn

def takeLog (v : V4l2) (o : DequeueOutcome) : List Action :=
  match o.first with
  | none => []
  | some b =>
    .dqbuf b.index ::
      if v.mainDevice ∧ b.index % 2 = 0 then
        if ¬ o.requeue then []
        else .qbuf b.index :: (o.second.map fun b ↦ .dqbuf b.index).toList
      else []

def dequeueV4l2FrameLocked (v : V4l2) (room : Option Interference) (o : DequeueOutcome) :
    Option ℕ × V4l2 × List Action :=
  match waitForReturn v room with
  | none => (none, v, [])
  | some v =>
    let log := if v.subDevice then [] else takeLog v o
    match v.dequeueBuffer o with
    | (none, v) => (none, v, log)
    | (some index, v) => (some index, { v with numDequeued := v.numDequeued + 1 }, log)

/-! ### The request -/

/-- The rate that the settings ask for, as far as the format has it. -/
def requestedFps (s : DeviceSession) : Option ℚ :=
  match s.latestReqSetting.aeTargetFpsRange with
  | [_, fpsMax] => some ((closestFps fpsMax 1000 0 s.v4l2.streamingFmt.frameRates).getD fpsMax)
  | _ => none

/-- Whether the stream can be configured anew is not looked at. -/
def adjustFps (s : DeviceSession) (a : Answers) : Option (DeviceSession × List Action) :=
  match requestedFps s with
  | none => some (s, [])
  | some requestFpsMax =>
    if requestFpsMax ≠ s.v4l2.streamingFps then
      (waitUntilIdle s.v4l2 a.idle).map fun v ↦
        let (_, fmt, v') := v.configureV4l2StreamLocked v.streamingFmt requestFpsMax a.configure
        ({ s with v4l2 := { v' with streamingFmt := fmt } },
          .configureV4l2StreamLocked requestFpsMax ::
            configureLog v v.streamingFmt requestFpsMax a.configure)
    else some (s, [])

/-- The loop over the fences, from number `i` on; when one is invalid, those imported before it
are closed. -/
def importFences (a : Answers) (i : ℕ) (allFences : List ℤ) :
    (remaining : ℕ) → Option (List ℤ) × List Action
  | 0 => (some allFences, [])
  | remaining + 1 =>
    if ¬ (a.imports i).importFence then (none, allFences.map .closeFence)
    else
      let (fences, log) := importFences a (i + 1) (allFences ++ [a.fence i]) remaining
      (fences, .importFence (a.fence i) :: log)

def importRequestLockedImpl (c : Handles) (bufs : List OutputBuffer) (a : Answers) :
    Except Status (List ℕ × List ℤ) × Handles × List Action :=
  match importBuffers a.imports c 0 bufs with
  | (.error status, c) => (.error status, c, [])
  | (.ok handles, c) =>
    match importFences a 0 [] bufs.length with
    | (none, log) => (.error .internalError, c, log)
    | (some fences, log) => (.ok (handles, fences), c, log)

/-- The loop that fills the buffers of the request looks at nothing else. -/
def imported (a : Answers) (handles : List ℕ) (fences : List ℤ) : RequestOutcome where
  settings := a.settings
  idle := true
  configure := a.configure
  importStatus := .ok
  handle := fun i ↦ handles[i]?
  fence := fun i ↦ fences.getD i (-1)
  frame := none

structure Reply where
  status : Status
  request : Option HalRequest
  state : State
  log : List Action

def dequeue (s : State) (id : ℕ) (request : CaptureRequest) (a : Answers)
    (handles : List ℕ) (fences : List ℤ) : Reply :=
  match dequeueV4l2FrameLocked s.device.v4l2 a.room a.dequeue with
  | (none, v, log) => ⟨.internalError, none, { s with device := { s.device with v4l2 := v } }, log⟩
  | (some index, v, log) =>
    let fmt := v.streamingFmt
    let (buffers, streamMap) :=
      fillBuffers (imported a handles fences) s.device.maps.streamMap 0 request.outputBuffers
    { status := .ok
      request := some {
        id
        frameNumber := request.frameNumber
        setting := s.device.latestReqSetting
        frameIn := ⟨fmt.width, fmt.height, fmt.fourcc, index⟩
        shutterTs := a.shutterTs
        buffers
        shareFd := 0 }
      state := { s with
        device := { s.device with
          v4l2 := v
          maps := { s.device.maps with streamMap := streamMap }
          inflightFrames := insert request.frameNumber s.device.inflightFrames
          firstRequest := false } }
      log := log ++ [.insertInflight request.frameNumber] }

def submit (s : State) (id : ℕ) (request : CaptureRequest) (a : Answers) : Reply :=
  match importRequestLockedImpl s.caches request.outputBuffers a with
  | (.error status, c, log) => ⟨status, none, s.setCaches c, log⟩
  | (.ok (handles, fences), c, log) =>
    let reply := dequeue (s.setCaches c) id request a handles fences
    { reply with log := log ++ reply.log }

def withSettings (s : State) : ReadSettings → State
  | .settings setting => { s with device := { s.device with latestReqSetting := setting } }
  | _ => s

def processOneCaptureRequest (s : State) (id : ℕ) (request : CaptureRequest) (a : Answers) :
    Reply :=
  if s.device.initStatus ≠ .ok then ⟨s.device.initStatus, none, s, []⟩
  else if request.inputStreamId ≠ -1 then ⟨.illegalArgument, none, s, []⟩
  else if ¬ s.device.v4l2.streaming then ⟨.internalError, none, s, []⟩
  else
    let s := withSettings s a.settings
    if a.settings = .corrupt then ⟨.illegalArgument, none, s, []⟩
    else if s.device.firstRequest ∧ a.settings = .null then ⟨.illegalArgument, none, s, []⟩
    else if request.outputBuffers = [] then ⟨.illegalArgument, none, s, []⟩
    else
      match adjustFps s.device a with
      | none => ⟨.internalError, none, s, []⟩
      | some (device, log) =>
        let reply := submit { s with device := device } id request a
        { reply with log := log ++ reply.log }

/-! ### The log -/

theorem warmup_log (o : ConfigureOutcome) (d : Driver) (i n : ℕ) :
    (d.warmup o i n).2 = (warmupLog o i n).foldl act d := by
  induction n generalizing d i with
  | zero => rfl
  | succ n ih =>
    unfold Driver.warmup warmupLog
    cases o.warmupDqbuf i with
    | none => rfl
    | some index =>
      dsimp only
      split
      · rfl
      · exact ih _ _

theorem takeBuffer_log (v : V4l2) (o : DequeueOutcome) :
    (v.takeBuffer o).2 = { v with driver := (takeLog v o).foldl act v.driver } := by
  unfold V4l2.takeBuffer takeLog
  cases o.first with
  | none => rfl
  | some b =>
    dsimp only
    split
    · split
      · rfl
      · cases o.second with
        | none => rfl
        | some b => rfl
    · rfl

theorem warmupLog_mem {o : ConfigureOutcome} {i n : ℕ} {x : Action} (h : x ∈ warmupLog o i n) :
    ∃ index, x = .dqbuf index ∨ x = .qbuf index := by
  induction n generalizing i with
  | zero => cases h
  | succ n ih =>
    unfold warmupLog at h
    split at h
    · cases h
    split at h
    · exact ⟨_, .inl (List.mem_singleton.mp h)⟩
    · obtain rfl | h := List.mem_cons.mp h
      · exact ⟨_, .inl rfl⟩
      obtain rfl | h := List.mem_cons.mp h
      · exact ⟨_, .inr rfl⟩
      · exact ih h

theorem takeLog_mem {v : V4l2} {o : DequeueOutcome} {x : Action} (h : x ∈ takeLog v o) :
    ∃ index, x = .dqbuf index ∨ x = .qbuf index := by
  unfold takeLog at h
  split at h
  · cases h
  obtain rfl | h := List.mem_cons.mp h
  · exact ⟨_, .inl rfl⟩
  split at h
  · split at h
    · cases h
    obtain rfl | h := List.mem_cons.mp h
    · exact ⟨_, .inr rfl⟩
    · obtain ⟨b, -, rfl⟩ := Option.mem_map.mp (Option.mem_toList.mp h)
      exact ⟨_, .inl rfl⟩
  · cases h

theorem importFences_mem {a : Answers} {i n : ℕ} {allFences : List ℤ} {x : Action}
    (h : x ∈ (importFences a i allFences n).2) : ∃ fd, x = .importFence fd ∨ x = .closeFence fd := by
  induction n generalizing i allFences with
  | zero => cases h
  | succ n ih =>
    unfold importFences at h
    split at h
    · obtain ⟨fd, -, rfl⟩ := List.mem_map.mp h
      exact ⟨fd, .inr rfl⟩
    · obtain rfl | h := List.mem_cons.mp h
      · exact ⟨_, .inl rfl⟩
      · exact ih h

/-! ### The parts of a request -/

variable {s : State} {id : ℕ} {request : CaptureRequest} {a : Answers}

structure Passes (s : State) (request : CaptureRequest) (a : Answers) : Prop where
  initStatus : s.device.initStatus = .ok
  inputStream : request.inputStreamId = -1
  streaming : s.device.v4l2.streaming = true
  converted : a.settings ≠ .corrupt
  first : ¬ (s.device.firstRequest ∧ a.settings = .null)
  outputs : request.outputBuffers ≠ []

theorem withSettings_eq (s : State) (r : ReadSettings) :
    ∃ setting, withSettings s r = { s with
      device := { s.device with latestReqSetting := setting } } := by
  cases r with
  | corrupt | null => exact ⟨s.device.latestReqSetting, rfl⟩
  | settings setting => exact ⟨setting, rfl⟩

theorem firstRequest_withSettings (s : State) (r : ReadSettings) :
    (withSettings s r).device.firstRequest = s.device.firstRequest := by
  obtain ⟨setting, heq⟩ := withSettings_eq s r
  rw [heq]

theorem inflightFrames_withSettings (s : State) (r : ReadSettings) :
    (withSettings s r).device.inflightFrames = s.device.inflightFrames := by
  obtain ⟨setting, heq⟩ := withSettings_eq s r
  rw [heq]

theorem v4l2_withSettings (s : State) (r : ReadSettings) :
    (withSettings s r).device.v4l2 = s.device.v4l2 := by
  obtain ⟨setting, heq⟩ := withSettings_eq s r
  rw [heq]

theorem process_rejected (id : ℕ) (h : ¬ Passes s request a) :
    (processOneCaptureRequest s id request a).status ≠ .ok ∧
      (processOneCaptureRequest s id request a).log = [] ∧
      (processOneCaptureRequest s id request a).state.device.inflightFrames =
        s.device.inflightFrames := by
  have hsame := inflightFrames_withSettings s a.settings
  unfold processOneCaptureRequest
  dsimp only
  split
  · exact ⟨‹_›, rfl, rfl⟩
  split
  · exact ⟨Status.noConfusion, rfl, rfl⟩
  split
  · exact ⟨Status.noConfusion, rfl, rfl⟩
  split
  · exact ⟨Status.noConfusion, rfl, hsame⟩
  split
  · exact ⟨Status.noConfusion, rfl, hsame⟩
  split
  · exact ⟨Status.noConfusion, rfl, hsame⟩
  rename_i hinit hinput hstreaming hsettings hfirst houtputs
  rw [firstRequest_withSettings] at hfirst
  exact (h ⟨not_not.mp hinit, not_not.mp hinput, not_not.mp hstreaming, hsettings, hfirst,
    houtputs⟩).elim

/-- A request that passes the checks gets as far as the frame rate. -/
theorem process_passes (h : Passes s request a) : processOneCaptureRequest s id request a =
    match adjustFps (withSettings s a.settings).device a with
    | none => ⟨.internalError, none, withSettings s a.settings, []⟩
    | some (device, log) =>
      { submit { withSettings s a.settings with device := device } id request a with
        log := log ++
          (submit { withSettings s a.settings with device := device } id request a).log } := by
  have hfirst := h.first
  rw [← firstRequest_withSettings s a.settings] at hfirst
  unfold processOneCaptureRequest
  dsimp only
  rw [if_neg (not_not_intro h.initStatus), if_neg (not_not_intro h.inputStream),
    if_neg (not_not_intro h.streaming), if_neg h.converted, if_neg hfirst, if_neg h.outputs]

theorem process_busy (h : Passes s request a)
    (hadjust : adjustFps (withSettings s a.settings).device a = none) :
    processOneCaptureRequest s id request a =
      ⟨.internalError, none, withSettings s a.settings, []⟩ := by
  rw [process_passes h, hadjust]

theorem process_adjusted (h : Passes s request a) {device : DeviceSession} {log : List Action}
    (hadjust : adjustFps (withSettings s a.settings).device a = some (device, log)) :
    processOneCaptureRequest s id request a =
      { submit { withSettings s a.settings with device := device } id request a with
        log := log ++ (submit { withSettings s a.settings with device := device } id request a).log } := by
  rw [process_passes h, hadjust]

theorem adjustFps_same {s : DeviceSession}
    (h : ∀ fps, requestedFps s = some fps → fps = s.v4l2.streamingFps) :
    adjustFps s a = some (s, []) := by
  unfold adjustFps
  split
  · rfl
  · rename_i fps hfps
    exact if_neg (not_not_intro (h fps hfps))

theorem adjustFps_other {s : DeviceSession} {fps : ℚ} (hfps : requestedFps s = some fps)
    (hne : fps ≠ s.v4l2.streamingFps) :
    waitUntilIdle s.v4l2 a.idle = none ∧ adjustFps s a = none ∨
      ∃ d, waitUntilIdle s.v4l2 a.idle = some { s.v4l2 with numDequeued := 0, driver := d } ∧
        let v := { s.v4l2 with numDequeued := 0, driver := d }
        let result := v.configureV4l2StreamLocked v.streamingFmt fps a.configure
        adjustFps s a = some ({ s with v4l2 := { result.2.2 with streamingFmt := result.2.1 } },
          .configureV4l2StreamLocked fps :: configureLog v v.streamingFmt fps a.configure) := by
  have hadjust : adjustFps s a = (waitUntilIdle s.v4l2 a.idle).map fun v ↦
      let result := v.configureV4l2StreamLocked v.streamingFmt fps a.configure
      ({ s with v4l2 := { result.2.2 with streamingFmt := result.2.1 } },
        .configureV4l2StreamLocked fps :: configureLog v v.streamingFmt fps a.configure) := by
    unfold adjustFps
    rw [hfps]
    exact if_pos hne
  rw [hadjust]
  unfold waitUntilIdle
  split
  · rename_i hidle
    refine .inr ⟨s.v4l2.driver, ?_, ?_⟩
    · rw [← hidle]
    · rw [Option.map_some, ← hidle]
  · cases a.idle with
    | none => exact .inl ⟨rfl, rfl⟩
    | some d => exact .inr ⟨d, rfl, rfl⟩

theorem dequeueBuffer_keeps (v : V4l2) (o : DequeueOutcome) :
    ∃ d, (v.dequeueBuffer o).2 = { v with driver := d } := by
  have htake := takeBuffer_log v o
  unfold V4l2.dequeueBuffer
  split
  · split
    · exact ⟨_, rfl⟩
    · exact ⟨v.driver, rfl⟩
  · split
    · rename_i hresult
      rw [hresult] at htake
      exact ⟨_, htake⟩
    · rename_i hresult
      rw [hresult] at htake
      dsimp only at htake
      split <;> exact ⟨_, htake⟩

theorem dequeueBuffer_some {v v' : V4l2} {o : DequeueOutcome} {index : ℕ}
    (h : v.dequeueBuffer o = (some index, v')) : 0 < v.bufferCount := by
  have htake := takeBuffer_log v o
  unfold V4l2.dequeueBuffer at h
  split at h
  · split at h
    · rename_i haccepts
      exact haccepts.1
    · cases h
  · split at h
    · cases h
    · rename_i b v₁ hresult
      rw [hresult] at htake
      split at h
      · rename_i haccepts
        have hlt := haccepts.1
        rw [show v₁ = _ from htake] at hlt
        exact Nat.lt_of_le_of_lt (Nat.zero_le _) hlt
      · cases h

/-- Waiting for a frame and taking it leave the stream as it is. -/
theorem dequeueV4l2FrameLocked_keeps (v : V4l2) (room : Option Interference) (o : DequeueOutcome) :
    ∃ n d, (dequeueV4l2FrameLocked v room o).2.1 = { v with numDequeued := n, driver := d } := by
  have hwait : ∀ w, waitForReturn v room = some w →
      ∃ n d, w = { v with numDequeued := n, driver := d } := by
    intro w hw
    unfold waitForReturn at hw
    split at hw
    · obtain ⟨i, -, rfl⟩ := Option.map_eq_some_iff.mp hw
      exact ⟨_, _, rfl⟩
    · cases hw
      exact ⟨_, _, rfl⟩
  unfold dequeueV4l2FrameLocked
  split
  · exact ⟨_, _, rfl⟩
  · rename_i w hw
    obtain ⟨n, d, rfl⟩ := hwait w hw
    obtain ⟨d', hkeeps⟩ := dequeueBuffer_keeps { v with numDequeued := n, driver := d } o
    dsimp only
    split
    · rename_i hresult
      rw [hresult] at hkeeps
      exact ⟨_, _, hkeeps⟩
    · rename_i hresult
      rw [hresult] at hkeeps
      dsimp only at hkeeps
      subst hkeeps
      exact ⟨_, _, rfl⟩

theorem dequeueV4l2FrameLocked_some {v v' : V4l2} {room : Option Interference}
    {o : DequeueOutcome} {index : ℕ} {log : List Action}
    (h : dequeueV4l2FrameLocked v room o = (some index, v', log)) : 0 < v.bufferCount := by
  unfold dequeueV4l2FrameLocked waitForReturn at h
  split at h
  · cases h
  · rename_i w hw
    have hcount : w.bufferCount = v.bufferCount := by
      split at hw
      · obtain ⟨i, -, rfl⟩ := Option.map_eq_some_iff.mp hw
        rfl
      · cases hw
        rfl
    dsimp only at h
    split at h
    · cases h
    · rename_i hresult
      exact hcount ▸ dequeueBuffer_some hresult

theorem dequeueV4l2FrameLocked_mem {v : V4l2} {room : Option Interference} {o : DequeueOutcome}
    {x : Action} (h : x ∈ (dequeueV4l2FrameLocked v room o).2.2) :
    ∃ index, x = .dqbuf index ∨ x = .qbuf index := by
  unfold dequeueV4l2FrameLocked at h
  split at h
  · cases h
  · have hlog : ∀ w, x ∈ (if V4l2.subDevice w then [] else takeLog w o) →
        ∃ index, x = .dqbuf index ∨ x = .qbuf index := by
      intro w hx
      split at hx
      · cases hx
      · exact takeLog_mem hx
    dsimp only at h
    split at h <;> exact hlog _ h

/-! ### The import -/

theorem importFences_isSome (a : Answers) (i n : ℕ) (allFences : List ℤ) :
    (importFences a i allFences n).1.isSome ↔
      ∀ j, i ≤ j → j < i + n → (a.imports j).importFence = true := by
  induction n generalizing i allFences with
  | zero => exact ⟨fun _ j hi hj ↦ by omega, fun _ ↦ rfl⟩
  | succ n ih =>
    unfold importFences
    split
    · rename_i hfence
      exact ⟨fun h ↦ (by cases h), fun h ↦ absurd (h i le_rfl (by omega)) hfence⟩
    · rename_i hfence
      dsimp only
      rw [ih]
      refine ⟨fun h j hi hj ↦ ?_, fun h j hi hj ↦ h j (by omega) (by omega)⟩
      obtain rfl | hlt := Nat.eq_or_lt_of_le hi
      · exact not_not.mp hfence
      · exact h j hlt (by omega)

/-- The import, with the loop that its log is from. -/
theorem import_refines (c : Handles) (bufs : List OutputBuffer) (a : Answers) :
    (∃ status log, status ≠ .ok ∧
        importRequestLockedImpl c bufs a =
          (.error status, (Caches.importRequestLockedImpl c bufs a.imports).2, log) ∧
        (Caches.importRequestLockedImpl c bufs a.imports).1 = .error status ∧
        (log = [] ∨ importFences a 0 [] bufs.length = (none, log))) ∨
      ∃ handles fences log, importRequestLockedImpl c bufs a =
          (.ok (handles, fences), (Caches.importRequestLockedImpl c bufs a.imports).2, log) ∧
        (Caches.importRequestLockedImpl c bufs a.imports).1 = .ok handles ∧
        importFences a 0 [] bufs.length = (some fences, log) := by
  unfold importRequestLockedImpl Caches.importRequestLockedImpl
  cases hbufs : importBuffers a.imports c 0 bufs with
  | mk result c' =>
    cases result with
    | error status =>
      exact .inl ⟨status, [], importBuffers_error (congrArg Prod.fst hbufs), rfl, rfl, .inl rfl⟩
    | ok handles =>
      have hall : (importFences a 0 [] bufs.length).1.isSome ↔
          ((List.range bufs.length).all fun i ↦ (a.imports i).importFence) = true := by
        rw [importFences_isSome, List.all_eq_true]
        refine ⟨fun h i hi ↦ h i (Nat.zero_le i) ?_, fun h j _ hj ↦ h j ?_⟩
        · rw [Nat.zero_add]
          exact List.mem_range.mp hi
        · rw [Nat.zero_add] at hj
          exact List.mem_range.mpr hj
      dsimp only
      cases hfences : importFences a 0 [] bufs.length with
      | mk fences log =>
        rw [hfences] at hall
        cases fences with
        | none =>
          rw [if_neg fun h ↦ (by cases hall.mpr h)]
          exact .inl ⟨_, log, Status.noConfusion, rfl, rfl, .inr rfl⟩
        | some fences =>
          rw [if_pos (hall.mp rfl)]
          exact .inr ⟨handles, fences, log, rfl, rfl, rfl⟩

/-! ### The accepted request -/

theorem dequeue_reply (s : State) (id : ℕ) (request : CaptureRequest) (a : Answers)
    (handles : List ℕ) (fences : List ℤ) :
    let reply := dequeue s id request a handles fences
    let result := dequeueV4l2FrameLocked s.device.v4l2 a.room a.dequeue
    result.1 = none ∧ reply.status = .internalError ∧ reply.log = result.2.2 ∧
        reply.state.device.inflightFrames = s.device.inflightFrames ∨
      result.1 ≠ none ∧ reply.status = .ok ∧
        reply.log = result.2.2 ++ [.insertInflight request.frameNumber] := by
  unfold dequeue
  split
  · rename_i hresult
    rw [hresult]
    exact .inl ⟨rfl, rfl, rfl, rfl⟩
  · rename_i hresult
    rw [hresult]
    exact .inr ⟨fun h ↦ (by cases h), rfl, rfl⟩

theorem dequeue_ok {handles : List ℕ} {fences : List ℤ}
    (h : (dequeue s id request a handles fences).status = .ok) :
    0 < s.device.v4l2.bufferCount ∧ ∃ n d maps inflight,
      (dequeue s id request a handles fences).state.device = { s.device with
        v4l2 := { s.device.v4l2 with numDequeued := n, driver := d }
        maps := maps
        inflightFrames := inflight
        firstRequest := false } := by
  unfold dequeue at h ⊢
  split at h
  · cases h
  · rename_i hresult
    obtain ⟨n, d, hkeeps⟩ := dequeueV4l2FrameLocked_keeps s.device.v4l2 a.room a.dequeue
    rw [hresult] at hkeeps
    dsimp only at hkeeps
    subst hkeeps
    exact ⟨dequeueV4l2FrameLocked_some hresult, n, d, _, _, rfl⟩

theorem submit_ok (h : (submit s id request a).status = .ok) :
    0 < s.device.v4l2.bufferCount ∧ ∃ n d maps inflight,
      (submit s id request a).state.device = { s.device with
        v4l2 := { s.device.v4l2 with numDequeued := n, driver := d }
        maps := maps
        inflightFrames := inflight
        firstRequest := false } := by
  obtain ⟨status, log, hne, himport, _⟩ | ⟨handles, fences, log, himport, _⟩ :=
    import_refines s.caches request.outputBuffers a
  · unfold submit at h
    rw [himport] at h
    exact absurd h hne
  · unfold submit at h ⊢
    rw [himport] at h ⊢
    exact dequeue_ok (s := s.setCaches _) h

theorem configure_not_mem_submit (s : State) (id : ℕ) (request : CaptureRequest) (a : Answers)
    (fps : ℚ) : .configureV4l2StreamLocked fps ∉ (submit s id request a).log := by
  have hfences : ∀ fences log, importFences a 0 [] request.outputBuffers.length = (fences, log) →
      .configureV4l2StreamLocked fps ∉ log := by
    intro fences log hlog hmem
    have hmem' : .configureV4l2StreamLocked fps ∈
        (importFences a 0 [] request.outputBuffers.length).2 := by
      rw [hlog]
      exact hmem
    obtain ⟨fd, h | h⟩ := importFences_mem hmem' <;> cases h
  intro hmem
  unfold submit at hmem
  obtain ⟨status, log, _, himport, _, hlog⟩ | ⟨handles, fences, log, himport, _, hlog⟩ :=
    import_refines s.caches request.outputBuffers a
  · rw [himport] at hmem
    obtain rfl | hlog := hlog
    · cases hmem
    · exact hfences _ _ hlog hmem
  · rw [himport] at hmem
    obtain hmem | hmem := List.mem_append.mp hmem
    · exact hfences _ _ hlog hmem
    · have htake : .configureV4l2StreamLocked fps ∉
          (dequeueV4l2FrameLocked s.device.v4l2 a.room a.dequeue).2.2 := by
        intro hmem
        obtain ⟨index, h | h⟩ := dequeueV4l2FrameLocked_mem hmem <;> cases h
      obtain ⟨-, -, hreply, -⟩ | ⟨-, -, hreply⟩ := dequeue_reply
        (s.setCaches (Caches.importRequestLockedImpl s.caches request.outputBuffers a.imports).2)
        id request a handles fences
      · rw [hreply] at hmem
        exact htake hmem
      · rw [hreply] at hmem
        obtain hmem | hmem := List.mem_append.mp hmem
        · exact htake hmem
        · cases List.mem_singleton.mp hmem

end VirtualCamera.Session.OneRequest
