import VirtualCamera.Session.Accounting

namespace VirtualCamera.Session.StreamOff

open Library.Transition Capture Accounting

/-- What the session remembers of its stream: whether it runs, how many buffers it has and
how many of them are dequeued. -/
def stream (v : V4l2) : Bool × ℕ × ℕ := (v.streaming, v.bufferCount, v.numDequeued)

def IoctlFails (v : V4l2) (o : StreamOffOutcome) : Prop :=
  v.streaming = true ∧ v.numDequeued = 0 ∧ v.subDevice = false ∧
    (o.streamOff = false ∨ o.reqbufs = false)

def IoctlsWork (v : V4l2) (o : StreamOffOutcome) : Prop :=
  v.subDevice = true ∨ o.streamOff = true ∧ o.reqbufs = true

variable {v v' : V4l2} {o : StreamOffOutcome}

theorem not_ioctlFails (hs : v.streaming = true) (hn : v.numDequeued = 0)
    (h : ¬ IoctlFails v o) : IoctlsWork v o := by
  by_contra hc
  apply h
  unfold IoctlsWork at hc
  refine ⟨hs, hn, ?_, ?_⟩
  · exact Bool.eq_false_of_not_eq_true fun hsub ↦ hc (.inl hsub)
  · cases hoff : o.streamOff
    · exact .inl rfl
    · cases hreq : o.reqbufs
      · exact .inr rfl
      · exact (hc (.inr ⟨hoff, hreq⟩)).elim

theorem streamOff_idle (hs : v.streaming = false) :
    v.v4l2StreamOffLocked o = (.ok (), v) := by
  unfold V4l2.v4l2StreamOffLocked
  rw [hs, if_pos Bool.false_ne_true]

theorem streamOff_busy (hs : v.streaming = true) (hn : v.numDequeued ≠ 0) :
    v.v4l2StreamOffLocked o = (.error .buffersInFlight, v) := by
  unfold V4l2.v4l2StreamOffLocked
  rw [if_neg (not_not_intro hs), if_pos hn]

/-- The count is cleared before the first ioctl. -/
theorem streamOff_fails (h : IoctlFails v o) :
    ∃ e d, v.v4l2StreamOffLocked o = (.error e, { v with bufferCount := 0, driver := d }) := by
  obtain ⟨hs, hn, hsub, ho⟩ := h
  unfold V4l2.v4l2StreamOffLocked
  rw [if_neg (not_not_intro hs), if_neg (not_not_intro hn)]
  dsimp only
  rw [hsub, if_neg Bool.false_ne_true]
  cases hoff : o.streamOff with
  | false => exact ⟨_, v.driver, if_pos Bool.false_ne_true⟩
  | true =>
    have hreq : o.reqbufs = false := ho.resolve_left (by rw [hoff]; decide)
    rw [if_neg (not_not_intro rfl), hreq]
    exact ⟨_, _, if_pos Bool.false_ne_true⟩

theorem streamOff_stops (hs : v.streaming = true) (hn : v.numDequeued = 0)
    (h : IoctlsWork v o) :
    ∃ d, v.v4l2StreamOffLocked o =
      (.ok (), { v with bufferCount := 0, streaming := false, driver := d }) := by
  unfold V4l2.v4l2StreamOffLocked
  rw [if_neg (not_not_intro hs), if_neg (not_not_intro hn)]
  dsimp only
  cases hsub : v.subDevice with
  | true => exact ⟨_, if_pos rfl⟩
  | false =>
    obtain ⟨hoff, hreq⟩ := h.resolve_left (by rw [hsub]; decide)
    rw [if_neg Bool.false_ne_true, hoff, if_neg (not_not_intro rfl), hreq]
    exact ⟨_, if_neg (not_not_intro rfl)⟩

/-- A call that failed leaves the next one to do what it would have done itself. -/
theorem streamOff_retry (h : IoctlFails v o) (d : Driver) (o' : StreamOffOutcome) :
    let w := { v with bufferCount := 0, driver := d }
    (w.v4l2StreamOffLocked o').1 = (v.v4l2StreamOffLocked o').1 ∧
      stream (w.v4l2StreamOffLocked o').2 = stream (v.v4l2StreamOffLocked o').2 := by
  obtain ⟨hs, hn, hsub, -⟩ := h
  unfold V4l2.v4l2StreamOffLocked
  dsimp only
  rw [hs, hn, hsub]
  cases o'.streamOff with
  | false => exact ⟨rfl, rfl⟩
  | true => cases o'.reqbufs <;> exact ⟨rfl, rfl⟩

/-- Every failure is reported and leaves the stream as it was, for a retry to do what the call
would have done; after a success the stream is stopped and has no buffers. -/
structure LeavesUsable (v : V4l2) (o : StreamOffOutcome) : Prop where
  reported : IoctlFails v o → ∃ e, (v.v4l2StreamOffLocked o).1 = .error e
  unchanged : ∀ e, (v.v4l2StreamOffLocked o).1 = .error e →
    stream (v.v4l2StreamOffLocked o).2 = stream v
  retried : ∀ e, (v.v4l2StreamOffLocked o).1 = .error e → ∀ o',
    ((v.v4l2StreamOffLocked o).2.v4l2StreamOffLocked o').1 = (v.v4l2StreamOffLocked o').1 ∧
      stream ((v.v4l2StreamOffLocked o).2.v4l2StreamOffLocked o').2 =
        stream (v.v4l2StreamOffLocked o').2
  stopped : (v.v4l2StreamOffLocked o).1 = .ok () →
    stream (v.v4l2StreamOffLocked o).2 = (false, 0, 0)

/-- A call on a stream that is off finds it without buffers, and where an ioctl fails there was
no count to lose. -/
def NothingToLose (v : V4l2) (o : StreamOffOutcome) : Prop :=
  (v.streaming = false → v.bufferCount = 0 ∧ v.numDequeued = 0) ∧
    (IoctlFails v o → v.bufferCount = 0)

theorem leavesUsable_fails (h : IoctlFails v o) (hc : v.bufferCount = 0) : LeavesUsable v o := by
  obtain ⟨e, d, heq⟩ := streamOff_fails h
  refine ⟨fun _ ↦ ⟨e, congrArg Prod.fst heq⟩, fun _ _ ↦ ?_, fun _ _ o' ↦ ?_, fun hok ↦ ?_⟩
  · rw [heq]
    simp only [stream, hc]
  · rw [heq]
    exact streamOff_retry h d o'
  · rw [heq] at hok
    cases hok

theorem nothingToLose (h : LeavesUsable v o) : NothingToLose v o := by
  refine ⟨fun hs ↦ ?_, fun hf ↦ ?_⟩
  · have hidle := streamOff_idle (o := o) hs
    have hstopped := h.stopped (congrArg Prod.fst hidle)
    rw [hidle] at hstopped
    obtain ⟨-, hrest⟩ := Prod.mk.inj hstopped
    exact Prod.mk.inj hrest
  · obtain ⟨e, d, heq⟩ := streamOff_fails hf
    have hunchanged := h.unchanged e (congrArg Prod.fst heq)
    rw [heq] at hunchanged
    obtain ⟨-, hrest⟩ := Prod.mk.inj hunchanged
    exact (Prod.mk.inj hrest).1.symm

theorem leavesUsable_ok {w : V4l2} (hf : ¬ IoctlFails v o)
    (heq : v.v4l2StreamOffLocked o = (.ok (), w)) (hw : stream w = (false, 0, 0)) :
    LeavesUsable v o := by
  refine ⟨fun hc ↦ (hf hc).elim, fun e he ↦ ?_, fun e he ↦ ?_, fun _ ↦ ?_⟩
  · rw [heq] at he
    cases he
  · rw [heq] at he
    cases he
  · rw [heq]
    exact hw

theorem leavesUsable (h : NothingToLose v o) : LeavesUsable v o := by
  by_cases hf : IoctlFails v o
  · exact leavesUsable_fails hf (h.2 hf)
  · cases hs : v.streaming with
    | false =>
      obtain ⟨hc, hn⟩ := h.1 hs
      exact leavesUsable_ok hf (streamOff_idle hs) (by rw [stream, hs, hc, hn])
    | true =>
      by_cases hn : v.numDequeued = 0
      · obtain ⟨d, heq⟩ := streamOff_stops hs hn (not_ioctlFails hs hn hf)
        exact leavesUsable_ok hf heq (by simp only [stream, hn])
      · have hbusy := streamOff_busy (o := o) hs hn
        refine ⟨fun hc ↦ (hf hc).elim, fun e _ ↦ ?_, fun e _ o' ↦ ?_, fun hok ↦ ?_⟩
        · rw [hbusy]
        · rw [hbusy]
          exact ⟨rfl, rfl⟩
        · rw [hbusy] at hok
          cases hok

/-- Stopping leaves the state usable exactly when there is nothing to lose: the count is cleared
before the ioctls, and a stream that is off is not looked at. -/
theorem stream_off_usable_iff (v : V4l2) (o : StreamOffOutcome) :
    LeavesUsable v o ↔ NothingToLose v o :=
  ⟨nothingToLose, leavesUsable⟩

/-- The stream of a configured session cannot be stopped at first: its count is gone. -/
theorem count_lost_by_failure :
    ∃ as s, Run (ofPartial State.step) (.create false false 1 1) as s ∧
      s.v4l2.bufferCount = 1 ∧ s.v4l2.v4l2StreamOffLocked ⟨false, true⟩ =
        (.error .streamOff, { s.v4l2 with bufferCount := 0 }) ∧
      ¬ LeavesUsable s.v4l2 ⟨false, true⟩ := by
  refine ⟨_, configured, configured_run.of_restrict, rfl, rfl, fun h ↦ ?_⟩
  have hlost := (nothingToLose h).2 ⟨rfl, rfl, rfl, .inl rfl⟩
  exact absurd hlost (by decide)

end VirtualCamera.Session.StreamOff
