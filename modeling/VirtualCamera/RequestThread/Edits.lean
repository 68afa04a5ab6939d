import VirtualCamera.RequestThread.Model

namespace VirtualCamera.RequestThread

open Library.Assoc

/-! ### What an edit of the settings leaves alone -/

/-- The part of a request that the thread never edits. -/
def CaptureRequest.constant (request : CaptureRequest) : ℕ × Bool × List Metadata :=
  (request.mBatchSize, request.mInputStream, request.original)

/-- The part of a request that the thread does not edit while it prepares it. -/
def CaptureRequest.fixed (request : CaptureRequest) : ℕ × ℕ × Bool × List Metadata :=
  (request.mResultExtras.capture, request.constant)

theorem CaptureRequest.constant_of_fixed {request request' : CaptureRequest}
    (h : request'.fixed = request.fixed) : request'.constant = request.constant :=
  congrArg Prod.snd h

@[simp] theorem CaptureRequest.fixed_setMetadata (request : CaptureRequest) (m : Metadata) :
    (request.setMetadata m).fixed = request.fixed := rfl

namespace Triggers

theorem fixed_mixIn (p : Triggers × CaptureRequest) (trigger : QueuedTrigger) :
    (mixIn p trigger).2.fixed = p.2.fixed := by
  simp only [mixIn]
  split
  · rfl
  · split
    · rfl
    · split <;> rfl

theorem fixed_foldl_mixIn (l : List QueuedTrigger) (p : Triggers × CaptureRequest) :
    (l.foldl mixIn p).2.fixed = p.2.fixed := by
  induction l generalizing p with
  | nil => rfl
  | cons trigger l ih => rw [List.foldl_cons, ih, fixed_mixIn]

theorem fixed_insertTriggers (t : Triggers) (request : CaptureRequest) :
    (t.insertTriggers request).2.2.fixed = request.fixed :=
  fixed_foldl_mixIn t.pending (t, request)

end Triggers

namespace Overrides

theorem fixed_overrideAutoRotateAndCrop (o : Overrides) (request : CaptureRequest) :
    (o.overrideAutoRotateAndCrop request).2.fixed = request.fixed := by
  simp only [overrideAutoRotateAndCrop]
  split
  · split
    · split <;> rfl
    · rfl
  · rfl

theorem fixed_overrideTestPattern (mute : Bool) (o : Overrides) (request : CaptureRequest) :
    (o.overrideTestPattern mute request).2.fixed = request.fixed := by
  simp only [overrideTestPattern]
  split <;> rfl

end Overrides

theorem fixed_correctAll
    {f : Bool → PhysicalCameraSettings → Option (Bool × PhysicalCameraSettings)} {updated : Bool}
    {request : CaptureRequest} {p : Bool × CaptureRequest}
    (h : correctAll f updated request = some p) : p.2.fixed = request.fixed := by
  simp only [correctAll, Option.bind_eq_some_iff, Option.map_eq_some_iff] at h
  obtain ⟨_, _, _, _, rfl⟩ := h
  rfl

namespace Mappers

theorem fixed_correct {mappers : Mappers} {request request' : CaptureRequest}
    (h : mappers.correct request = some request') : request'.fixed = request.fixed := by
  simp only [correct, Option.bind_eq_some_iff] at h
  obtain ⟨a, ha, b, hb, c, hc, hd⟩ := h
  simp only [correctRegions, Option.map_eq_some_iff] at ha
  obtain ⟨p, hp, rfl⟩ := ha
  simp only [correctDistortion, Option.map_eq_some_iff] at hb
  obtain ⟨q, hq, rfl⟩ := hb
  simp only [correctZoomRatio, Option.map_eq_some_iff] at hc
  obtain ⟨r, hr, rfl⟩ := hc
  have hzoom : r.2.fixed = request.fixed :=
    (fixed_correctAll hr).trans ((fixed_correctAll hq).trans (fixed_correctAll hp))
  simp only [correctRotateAndCrop] at hd
  split at hd
  · obtain ⟨s, hs, rfl⟩ := Option.map_eq_some_iff.mp hd
    exact (fixed_correctAll hs).trans hzoom
  · cases hd
    exact hzoom

end Mappers

theorem State.fixed_mix (cfg : Config) (s : State) (r : ℕ) :
    (s.mix cfg r).request.fixed = (s.requests r).fixed := by
  simp only [State.mix]
  rw [Overrides.fixed_overrideTestPattern]
  split
  · exact Triggers.fixed_insertTriggers s.triggers (s.requests r)
  · rw [Overrides.fixed_overrideAutoRotateAndCrop]
    exact Triggers.fixed_insertTriggers s.triggers (s.requests r)

/-! ### Requests that get other extras only -/

def CaptureRequest.Alike (request request' : CaptureRequest) : Prop :=
  ∃ extras, request' = { request with mResultExtras := extras }

namespace CaptureRequest

variable {request request' request'' : CaptureRequest}

theorem Alike.refl (request : CaptureRequest) : request.Alike request :=
  ⟨request.mResultExtras, rfl⟩

theorem Alike.trans (h : request.Alike request') (h' : request'.Alike request'') :
    request.Alike request'' := by
  obtain ⟨_, rfl⟩ := h
  obtain ⟨extras, rfl⟩ := h'
  exact ⟨extras, rfl⟩

theorem Alike.allMetadata (h : request.Alike request') :
    request'.allMetadata = request.allMetadata := by
  obtain ⟨_, rfl⟩ := h
  rfl

theorem Alike.constant (h : request.Alike request') :
    request'.constant = request.constant := by
  obtain ⟨_, rfl⟩ := h
  rfl

end CaptureRequest

namespace State

variable {cfg : Config} {s : State}

@[simp] theorem requests_setRequest_self (s : State) (r : ℕ) (request : CaptureRequest) :
    (s.setRequest r request).requests r = request := by
  simp only [setRequest, Function.update_self]

theorem requests_setRequest_ne (s : State) {r r' : ℕ} (request : CaptureRequest) (h : r' ≠ r) :
    (s.setRequest r request).requests r' = s.requests r' := by
  simp only [setRequest, Function.update_of_ne h]

theorem alike_setRequest {r : ℕ} {request : CaptureRequest}
    (h : (s.requests r).Alike request) (r' : ℕ) :
    (s.requests r').Alike ((s.setRequest r request).requests r') := by
  by_cases he : r' = r
  · subst he
    rw [requests_setRequest_self]
    exact h
  · rw [requests_setRequest_ne s request he]
    exact .refl _

theorem alike_number (s : State) (r r' : ℕ) :
    (s.requests r').Alike ((s.number r).requests r') :=
  alike_setRequest ⟨_, rfl⟩ r'

theorem alike_setTriggerIds (s : State) (r r' : ℕ) :
    (s.requests r').Alike ((s.setTriggerIds r).requests r') :=
  alike_setRequest ⟨_, rfl⟩ r'

theorem alike_dequeue (s : State) (r : ℕ) (queue : Queue) (r' : ℕ) :
    (s.requests r').Alike ((s.dequeue r queue).requests r') := by
  simp only [dequeue]
  exact CaptureRequest.Alike.trans (alike_number { s with queue := queue } r r')
    (alike_setTriggerIds _ r r')

theorem requests_notifyError (s : State) (r : ℕ) :
    (s.notifyError cfg r).requests = s.requests := by
  unfold notifyError
  split <;> rfl

theorem alike_foldl_abort (l : List ℕ) (s : State) (r' : ℕ) :
    (s.requests r').Alike ((l.foldl (abort cfg) s).requests r') := by
  induction l generalizing s with
  | nil => exact .refl _
  | cons r l ih =>
    refine CaptureRequest.Alike.trans ?_ (ih (abort cfg s r))
    unfold abort
    rw [requests_notifyError]
    exact alike_number s r r'

theorem alike_clear (cfg : Config) (s : State) (r' : ℕ) :
    (s.requests r').Alike ((s.clear cfg).requests r') := by
  simp only [clear]
  split
  · exact alike_foldl_abort s.queue.mRequestQueue s r'
  · exact .refl _

theorem createRequests_of_lt {list : List CaptureRequest} {r : ℕ} (hr : r < s.queue.allocated) :
    s.createRequests cfg list r = s.requests r := by
  unfold createRequests
  rw [if_pos hr]

theorem alike_createRequests {list : List CaptureRequest} {r : ℕ} (hr : r < s.queue.allocated) :
    (s.requests r).Alike (s.createRequests cfg list r) := by
  rw [createRequests_of_lt hr]
  exact .refl _

end State

end VirtualCamera.RequestThread
