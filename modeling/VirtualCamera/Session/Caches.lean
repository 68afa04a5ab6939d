import Mathlib.Data.Multiset.Range
import VirtualCamera.Session.Configure
import VirtualCamera.Session.Request

namespace VirtualCamera.Session.Caches

open Library.Assoc Library.Transition Capture Streams Configure Request
open Capture hiding State Label

/-! ### Importing the buffers of a request -/

def bufferIdNoBuffer : UInt64 := 0

/-- For one buffer of a request: whether a native handle comes with it, whether the handle
can be imported, and whether the acquire fence can. -/
structure Import where
  handle : Bool
  importBuffer : Bool
  importFence : Bool

/-- The maps, with the number of handles imported so far. Imported handles are numbered
in their order: each import makes a new one. -/
structure Handles where
  maps : StreamMaps
  imported : ℕ

/-- The lookup of a stream inserts an empty cache when there is none. -/
def importBufferImpl (c : Handles) (buf : OutputBuffer) (o : Import) :
    Except Status ℕ × Handles :=
  if ¬ o.handle ∧ buf.bufferId = bufferIdNoBuffer then (.error .illegalArgument, c)
  else
    let cbs := (c.maps.circulatingBuffers.lookup buf.streamId).getD ∅
    let circulatingBuffers := emplace buf.streamId ∅ c.maps.circulatingBuffers
    let inserted := { c with maps := { c.maps with circulatingBuffers := circulatingBuffers } }
    match cbs.lookup buf.bufferId with
    | some handle => (.ok handle, inserted)
    | none =>
      if ¬ o.handle then (.error .illegalArgument, inserted)
      else if ¬ o.importBuffer then (.error .internalError, inserted)
      else
        (.ok c.imported, {
          maps := { c.maps with
            circulatingBuffers :=
              circulatingBuffers.insert buf.streamId (cbs.insert buf.bufferId c.imported) }
          imported := c.imported + 1 })

def importBuffers (o : ℕ → Import) (c : Handles) (i : ℕ) :
    List OutputBuffer → Except Status (List ℕ) × Handles
  | [] => (.ok [], c)
  | buf :: rest =>
    match importBufferImpl c buf (o i) with
    | (.error status, c) => (.error status, c)
    | (.ok handle, c) =>
      let (handles, c) := importBuffers o c (i + 1) rest
      (handles.map (handle :: ·), c)

/-- All buffers are imported before the fences. -/
def importRequestLockedImpl (c : Handles) (bufs : List OutputBuffer) (o : ℕ → Import) :
    Except Status (List ℕ) × Handles :=
  match importBuffers o c 0 bufs with
  | (.error status, c) => (.error status, c)
  | (.ok handles, c) =>
    if (List.range bufs.length).all fun i ↦ (o i).importFence then (.ok handles, c)
    else (.error .internalError, c)

/-! ### The calls of the session -/

structure State where
  device : DeviceSession
  imported : ℕ

def State.caches (s : State) : Handles := ⟨s.device.maps, s.imported⟩

def State.setCaches (s : State) (c : Handles) : State :=
  ⟨{ s.device with maps := c.maps }, c.imported⟩

/-- From the check of the output buffers on, with the import. -/
def State.buildRequest (s : State) (id : ℕ) (request : CaptureRequest) (o : RequestOutcome)
    (im : ℕ → Import) : Status × Option HalRequest × State :=
  if request.outputBuffers = [] then (.illegalArgument, none, s)
  else
    match adjustFps s.device o with
    | none => (.internalError, none, s)
    | some device =>
      let s := { s with device := device }
      match importRequestLockedImpl s.caches request.outputBuffers im with
      | (.error status, c) => (status, none, s.setCaches c)
      | (.ok handles, c) =>
        let s := s.setCaches c
        match o.frame with
        | none => (.internalError, none, s)
        | some (frameIn, shutterTs) =>
          let (buffers, streamMap) := fillBuffers { o with handle := fun i ↦ handles[i]? }
            s.device.maps.streamMap 0 request.outputBuffers
          (.ok,
            some ⟨id, request.frameNumber, s.device.latestReqSetting, frameIn, shutterTs, buffers,
              0⟩,
            { s with
              device := { s.device with
                maps := { s.device.maps with streamMap := streamMap }
                inflightFrames := insert request.frameNumber s.device.inflightFrames } })

def State.processOneCaptureRequest (s : State) (id : ℕ) (request : CaptureRequest)
    (o : RequestOutcome) (im : ℕ → Import) : Status × Option HalRequest × State :=
  if s.device.initStatus ≠ .ok then (s.device.initStatus, none, s)
  else if request.inputStreamId ≠ -1 then (.illegalArgument, none, s)
  else if ¬ s.device.v4l2.streaming then (.internalError, none, s)
  else
    match o.settings with
    | .corrupt => (.illegalArgument, none, s)
    | .null =>
      if s.device.firstRequest then (.illegalArgument, none, s)
      else s.buildRequest id request o im
    | .settings setting =>
      { s with device := { s.device with latestReqSetting := setting } }.buildRequest id request o im

/-! ### The request without the import -/

def withCaches (s : DeviceSession) (circulatingBuffers : Map ℤ CirculatingBuffers) :
    DeviceSession :=
  { s with maps := { s.maps with circulatingBuffers := circulatingBuffers } }

theorem importBuffers_maps (o : ℕ → Import) (c : Handles) (i : ℕ) (bufs : List OutputBuffer) :
    ∃ circulatingBuffers, (importBuffers o c i bufs).2.maps =
      { c.maps with circulatingBuffers := circulatingBuffers } := by
  induction bufs generalizing c i with
  | nil => exact ⟨c.maps.circulatingBuffers, rfl⟩
  | cons buf rest ih =>
    have hone : ∃ circulatingBuffers, (importBufferImpl c buf (o i)).2.maps =
        { c.maps with circulatingBuffers := circulatingBuffers } := by
      unfold importBufferImpl
      dsimp only
      split
      · exact ⟨_, rfl⟩
      · split
        · exact ⟨_, rfl⟩
        · split
          · exact ⟨_, rfl⟩
          · split <;> exact ⟨_, rfl⟩
    obtain ⟨first, hfirst⟩ := hone
    unfold importBuffers
    split
    · rename_i hresult
      rw [hresult] at hfirst
      exact ⟨first, hfirst⟩
    · rename_i c' hresult
      rw [hresult] at hfirst
      obtain ⟨all, hall⟩ := ih c' (i + 1)
      have hc' : c'.maps = { c.maps with circulatingBuffers := first } := hfirst
      exact ⟨all, hall.trans (by rw [hc'])⟩

theorem importRequestLockedImpl_maps (c : Handles) (bufs : List OutputBuffer) (o : ℕ → Import) :
    ∃ circulatingBuffers, (importRequestLockedImpl c bufs o).2.maps =
      { c.maps with circulatingBuffers := circulatingBuffers } := by
  obtain ⟨all, hall⟩ := importBuffers_maps o c 0 bufs
  unfold importRequestLockedImpl
  split
  · rename_i hresult
    rw [hresult] at hall
    exact ⟨all, hall⟩
  · rename_i hresult
    rw [hresult] at hall
    split <;> exact ⟨all, hall⟩

theorem importBufferImpl_error {c : Handles} {buf : OutputBuffer} {o : Import} {status : Status}
    (h : (importBufferImpl c buf o).1 = .error status) : status ≠ .ok := by
  unfold importBufferImpl at h
  dsimp only at h
  split at h
  · cases h
    nofun
  · split at h
    · cases h
    · split at h
      · cases h
        nofun
      · split at h
        · cases h
          nofun
        · cases h

theorem importBuffers_error {o : ℕ → Import} {c : Handles} {i : ℕ} {bufs : List OutputBuffer}
    {status : Status} (h : (importBuffers o c i bufs).1 = .error status) : status ≠ .ok := by
  induction bufs generalizing c i with
  | nil => cases h
  | cons buf rest ih =>
    unfold importBuffers at h
    split at h
    · rename_i hresult
      cases h
      exact importBufferImpl_error (congrArg Prod.fst hresult)
    · rename_i c' hresult
      dsimp only at h
      cases hrest : (importBuffers o c' (i + 1) rest).1 with
      | error status' =>
        rw [hrest] at h
        cases h
        exact ih hrest
      | ok handles =>
        rw [hrest] at h
        cases h

theorem importRequestLockedImpl_error {c c' : Handles} {bufs : List OutputBuffer} {o : ℕ → Import}
    {status : Status} (h : importRequestLockedImpl c bufs o = (.error status, c')) :
    status ≠ .ok := by
  unfold importRequestLockedImpl at h
  split at h
  · rename_i hresult
    cases h
    exact importBuffers_error (congrArg Prod.fst hresult)
  · split at h
    · cases h
    · cases h
      nofun

theorem adjustFps_maps {s s' : DeviceSession} {o : RequestOutcome} (h : adjustFps s o = some s') :
    s'.maps = s.maps ∧ s'.closed = s.closed := by
  unfold adjustFps at h
  dsimp only at h
  split at h
  · split at h
    · split at h
      · cases h
      · cases h
        exact ⟨rfl, rfl⟩
    · cases h
      exact ⟨rfl, rfl⟩
  · cases h
    exact ⟨rfl, rfl⟩

theorem fillBuffers_congr (o o' : RequestOutcome) (hhandle : o.handle = o'.handle)
    (hfence : o.fence = o'.fence) (streamMap : Map ℤ Stream) (i : ℕ) (bufs : List OutputBuffer) :
    fillBuffers o streamMap i bufs = fillBuffers o' streamMap i bufs := by
  induction bufs generalizing streamMap i with
  | nil => rfl
  | cons buf rest ih => simp only [fillBuffers, ih, hhandle, hfence]

/-- But for the caches, a request with its imports is one of which the import is known. -/
theorem buildRequest_refines (s : State) (id : ℕ) (request : CaptureRequest) (o : RequestOutcome)
    (im : ℕ → Import) : ∃ o', o'.settings = o.settings ∧
      Request.buildRequest s.device id request o' =
        ((s.buildRequest id request o im).1, (s.buildRequest id request o im).2.1,
          withCaches (s.buildRequest id request o im).2.2.device
            s.device.maps.circulatingBuffers) := by
  unfold State.buildRequest
  by_cases hempty : request.outputBuffers = []
  · refine ⟨o, rfl, ?_⟩
    rw [if_pos hempty, Request.buildRequest, if_pos hempty]
    rfl
  · rw [if_neg hempty]
    cases hfps : adjustFps s.device o with
    | none =>
      refine ⟨o, rfl, ?_⟩
      rw [Request.buildRequest, if_neg hempty, hfps]
      rfl
    | some device =>
      obtain ⟨hmaps, -⟩ := adjustFps_maps hfps
      obtain ⟨circ, hcirc⟩ := importRequestLockedImpl_maps
        (State.caches { s with device := device }) request.outputBuffers im
      have hwith : withCaches { device with maps := { device.maps with
          circulatingBuffers := circ } } s.device.maps.circulatingBuffers = device := by
        unfold withCaches
        dsimp only
        rw [← hmaps]
      dsimp only
      cases hresult : importRequestLockedImpl (State.caches { s with device := device })
          request.outputBuffers im with
      | mk result c =>
        rw [hresult] at hcirc
        have hc : c.maps = { device.maps with circulatingBuffers := circ } := hcirc
        cases result with
        | error status =>
          refine ⟨{ o with importStatus := status }, rfl, ?_⟩
          have hfps' : adjustFps s.device { o with importStatus := status } = some device := hfps
          rw [Request.buildRequest, if_neg hempty, hfps']
          dsimp only
          rw [if_pos (importRequestLockedImpl_error hresult), State.setCaches, hc, hwith]
        | ok handles =>
          let o' : RequestOutcome :=
            { o with importStatus := .ok, handle := fun i ↦ handles[i]? }
          have hfps' : adjustFps s.device o' = some device := hfps
          refine ⟨o', rfl, ?_⟩
          rw [Request.buildRequest, if_neg hempty, hfps']
          dsimp only
          rw [if_neg (not_not.mpr rfl), show o'.frame = o.frame from rfl]
          cases o.frame with
          | none =>
            dsimp only
            rw [State.setCaches, hc, hwith]
          | some frame =>
            dsimp only
            rw [fillBuffers_congr o' { o with handle := fun i ↦ handles[i]?, frame := some frame } rfl
              rfl, State.setCaches, hc]
            unfold withCaches
            rw [← hmaps]

theorem processOneCaptureRequest_refines (s : State) (id : ℕ) (request : CaptureRequest)
    (o : RequestOutcome) (im : ℕ → Import) : ∃ o',
      Request.processOneCaptureRequest s.device id request o' =
        ((s.processOneCaptureRequest id request o im).1,
          (s.processOneCaptureRequest id request o im).2.1,
          withCaches (s.processOneCaptureRequest id request o im).2.2.device
            s.device.maps.circulatingBuffers) := by
  unfold State.processOneCaptureRequest Request.processOneCaptureRequest
  split
  · exact ⟨o, rfl⟩
  · split
    · exact ⟨o, rfl⟩
    · split
      · exact ⟨o, rfl⟩
      · cases hsettings : o.settings with
        | corrupt => exact ⟨o, by rw [hsettings]; rfl⟩
        | null =>
          dsimp only
          split
          · exact ⟨o, by rw [hsettings]; rfl⟩
          · obtain ⟨o', hsame, hbuild⟩ := buildRequest_refines s id request o im
            refine ⟨o', ?_⟩
            rw [hsame, hsettings]
            exact hbuild
        | settings setting =>
          obtain ⟨o', hsame, hbuild⟩ := buildRequest_refines
            { s with device := { s.device with latestReqSetting := setting } } id request o im
          refine ⟨o', ?_⟩
          rw [hsame, hsettings]
          exact hbuild

/-! ### The removal of caches -/

structure BufferCache where
  streamId : ℤ
  bufferId : UInt64

/-- The stream could have been removed, and the buffer need not be cached. -/
def StreamMaps.updateBufferCache (m : StreamMaps) (cache : BufferCache) : StreamMaps :=
  match m.circulatingBuffers.lookup cache.streamId with
  | none => m
  | some cbs =>
    match cbs.lookup cache.bufferId with
    | none => m
    | some handle =>
      { m with
        circulatingBuffers :=
          m.circulatingBuffers.insert cache.streamId (cbs.erase cache.bufferId)
        freed := m.freed ++ [handle] }

def StreamMaps.updateBufferCaches (m : StreamMaps) (cachesToRemove : List BufferCache) :
    StreamMaps :=
  cachesToRemove.foldl StreamMaps.updateBufferCache m

structure RequestCall where
  request : CaptureRequest
  outcome : RequestOutcome
  imports : ℕ → Import

/-- The requests up to the first that fails, with the number of those processed. -/
def State.processRequests (s : State) (id : ℕ) :
    List RequestCall → Status × ℕ × List HalRequest × State
  | [] => (.ok, 0, [], s)
  | call :: calls =>
    match s.processOneCaptureRequest id call.request call.outcome call.imports with
    | (.ok, req, s) =>
      let s := { s with device := { s.device with firstRequest := false } }
      let (status, numRequestProcessed, reqs, s) := s.processRequests (id + 1) calls
      (status, numRequestProcessed + 1, req.toList ++ reqs, s)
    | (status, req, s) => (status, 0, req.toList, s)

def State.processCaptureRequest (s : State) (id : ℕ) (calls : List RequestCall)
    (cachesToRemove : List BufferCache) : Status × ℕ × List HalRequest × State :=
  let maps := StreamMaps.updateBufferCaches s.device.maps cachesToRemove
  { s with device := { s.device with maps := maps } }.processRequests id calls

def StreamMaps.cleanupAll (m : StreamMaps) : List ℤ → Option StreamMaps
  | [] => some m
  | id :: ids => (m.cleanupBuffersLocked id).bind fun m ↦ StreamMaps.cleanupAll m ids

/-- The threads have exited when the buffers are freed. The stream map stays as it is. -/
def DeviceSession.close (s : DeviceSession) (o : StreamOffOutcome) : Option DeviceSession :=
  if s.closed then some s
  else
    (StreamMaps.cleanupAll s.maps s.maps.streamMap.keys).map fun maps ↦
      { s with maps := maps, v4l2 := (s.v4l2.v4l2StreamOffLocked o).2, closed := true }

inductive Label (F : Type)
  | configureStreams (ar : AspectArith F) (config : StreamConfiguration) (blobBufferSize : ℕ)
      (o : ConfigureOutcome)
  | processCaptureRequest (id : ℕ) (calls : List RequestCall) (cachesToRemove : List BufferCache)
  | close (o : StreamOffOutcome)
  | session (device : DeviceSession)

/-- The calls hold the interface lock. What else happens to the session leaves the maps as
they are, and does not close it. There is no next state when an exception leaves a call. -/
def State.step {F : Type} (s : State) : Label F → Option State
  | .configureStreams ar config blobBufferSize o =>
    (s.device.configureStreams ar config blobBufferSize o).map fun result ↦
      { s with device := result.2.2 }
  | .processCaptureRequest id calls cachesToRemove =>
    some (s.processCaptureRequest id calls cachesToRemove).2.2.2
  | .close o => (DeviceSession.close s.device o).map fun device ↦ { s with device := device }
  | .session device =>
    some { s with device := { device with maps := s.device.maps, closed := s.device.closed } }

abbrev Step {F : Type} : State → Label F → State → Prop := ofPartial State.step

def State.create (device : DeviceSession) : State :=
  ⟨{ device with maps := ⟨∅, ∅, []⟩, closed := false }, 0⟩

end VirtualCamera.Session.Caches
