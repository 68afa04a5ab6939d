import VirtualCamera.Library.Transition

namespace VirtualCamera.Encoder.Wakeup

open Library.Transition

/-! ### The encoder thread and the calls -/

/-- Where the thread of `run` is. `entering` is between the block that has examined the
flags and the one that waits; in `waiting` it is blocked until it has been notified. The last
two drains are those around the end of the stream. -/
inductive Phase
  | starting
  | examining
  | entering
  | waiting (notified : Bool)
  | draining
  | stopDraining
  | endDraining
  | releasing
  | finishing
  | exited
  deriving DecidableEq, Repr

/-- `constructing` is whether the constructor is in its wait, for a notification too. -/
structure State where
  mIsCapturing : Bool
  mRequestStop : Bool
  mRequestDrain : Int32
  phase : Phase
  constructing : Bool
  deriving DecidableEq, Repr

def State.create : State := ⟨false, false, 0, .starting, true⟩

/-- `mSync.notifyAll()`. -/
def State.notifyAll (s : State) : State :=
  { s with
    phase := match s.phase with
      | .waiting _ => .waiting true
      | phase => phase
    constructing := false }

/-- With the result: whether the frame will be encoded. -/
def State.frameAvailableSoon (s : State) : Bool × State :=
  if ¬ s.mIsCapturing ∨ s.mRequestStop then (false, s)
  else (true, State.notifyAll { s with mRequestDrain := s.mRequestDrain + 1 })

def State.startRecording (s : State) : State :=
  State.notifyAll { s with mIsCapturing := true, mRequestStop := false }

def State.stopRecording (s : State) : State :=
  if ¬ s.mIsCapturing ∨ s.mRequestStop then s
  else State.notifyAll { s with mRequestStop := true }

/-- The block that examines the flags, and what is done next on account of it. -/
def State.examine (s : State) : State :=
  let localRequestStop := s.mRequestStop
  let localRequestDrain := decide (0 < s.mRequestDrain)
  let s := if localRequestDrain then { s with mRequestDrain := s.mRequestDrain - 1 } else s
  { s with
    phase :=
      if localRequestStop then .stopDraining
      else if localRequestDrain then .draining
      else .entering }

/-- The other calls may come from any thread; each synchronized block is one step. -/
inductive Label
  | frameAvailableSoon
  | startRecording
  | stopRecording
  | begin
  | examine
  | enterWait
  | wake
  | interrupt
  | drained (endOfStream : Bool)
  | failed
  | released
  | finish
  deriving DecidableEq, Repr

/-- A `drain` that meets the end of the stream ends the capture, and so does `release`. A
wait may end without a notification. An exception in a drain ends the thread. -/
def State.step (s : State) : Label → Option State
  | .frameAvailableSoon => some s.frameAvailableSoon.2
  | .startRecording => some s.startRecording
  | .stopRecording => some s.stopRecording
  | .begin =>
    if s.phase = .starting then
      some { s with
        mRequestStop := false
        mRequestDrain := 0
        phase := .examining
        constructing := false }
    else none
  | .examine => if s.phase = .examining then some s.examine else none
  | .enterWait => if s.phase = .entering then some { s with phase := .waiting false } else none
  | .wake =>
    match s.phase with
    | .waiting _ => some { s with phase := .examining }
    | _ => none
  | .interrupt =>
    match s.phase with
    | .waiting _ => some { s with phase := .finishing }
    | _ => none
  | .drained endOfStream =>
    let s' := { s with mIsCapturing := s.mIsCapturing && !endOfStream }
    match s.phase with
    | .draining => some { s' with phase := .examining }
    | .stopDraining => some { s' with phase := .endDraining }
    | .endDraining => some { s' with phase := .releasing }
    | _ => none
  | .failed =>
    match s.phase with
    | .draining | .stopDraining | .endDraining | .releasing => some { s with phase := .exited }
    | _ => none
  | .released =>
    if s.phase = .releasing then some { s with mIsCapturing := false, phase := .finishing }
    else none
  | .finish =>
    if s.phase = .finishing then
      some { s with mRequestStop := true, mIsCapturing := false, phase := .exited }
    else none

abbrev Step : State → Label → State → Prop := ofPartial State.step

/-! ### What is asked of the thread -/

/-- There is something to do for the thread. -/
def State.requested (s : State) : Prop := s.mRequestStop = true ∨ 0 < s.mRequestDrain

/-- No request takes effect between the examination of the flags and the wait. -/
def Timely (s : State) : Label → Prop
  | .frameAvailableSoon | .stopRecording =>
    s.phase = .entering → s.mIsCapturing = false ∨ s.mRequestStop = true
  | _ => True

instance (s : State) (l : Label) : Decidable (Timely s l) :=
  match l with
  | .frameAvailableSoon | .stopRecording => inferInstanceAs
      (Decidable (s.phase = .entering → s.mIsCapturing = false ∨ s.mRequestStop = true))
  | .startRecording | .begin | .examine | .enterWait | .wake | .interrupt | .drained _ | .failed
  | .released | .finish => isTrue trivial

/-- On the way to the wait, and in it until it is notified, nothing is asked of the thread. -/
def Idle (s : State) : Prop :=
  s.phase = .entering ∨ s.phase = .waiting false → ¬ s.requested

theorem Idle.of_phase {s : State} (hentering : s.phase ≠ .entering)
    (hwaiting : s.phase ≠ .waiting false) : Idle s :=
  fun h ↦ absurd (h.resolve_left hentering) hwaiting

/-- A call that changes the flags and notifies leaves no one waiting. -/
theorem Idle.notifyAll {s : State} (h : s.phase = .entering → ¬ s.requested) :
    Idle s.notifyAll := by
  intro hphase
  unfold State.notifyAll at hphase
  dsimp only at hphase
  split at hphase
  · rcases hphase with hphase | hphase <;> cases hphase
  · rename_i hnot
    rcases hphase with hphase | hphase
    · exact h hphase
    · exact absurd hphase (hnot false)

/-- A timely call that goes past its test does not meet the thread on the way to the wait. -/
theorem not_entering {s : State}
    (hok : s.phase = .entering → s.mIsCapturing = false ∨ s.mRequestStop = true)
    (hactive : ¬ (¬ s.mIsCapturing = true ∨ s.mRequestStop = true)) : s.phase ≠ .entering := by
  intro hentering
  rcases hok hentering with hstopped | hstopped
  · exact hactive (.inl (by rw [hstopped]; exact Bool.false_ne_true))
  · exact hactive (.inr hstopped)

theorem Idle.step {s t : State} {l : Label} (h : Idle s) (hst : Step s l t) (hok : Timely s l) :
    Idle t := by
  unfold Step ofPartial at hst
  cases l with
  | frameAvailableSoon =>
    cases hst
    unfold State.frameAvailableSoon
    split
    · exact h
    · rename_i hactive
      have hnot := not_entering hok hactive
      exact Idle.notifyAll fun hentering ↦ absurd hentering hnot
  | startRecording =>
    cases hst
    apply Idle.notifyAll
    intro hentering hrequested
    exact h (.inl hentering) (.inr (hrequested.resolve_left Bool.false_ne_true))
  | stopRecording =>
    cases hst
    unfold State.stopRecording
    split
    · exact h
    · rename_i hactive
      have hnot := not_entering hok hactive
      exact Idle.notifyAll fun hentering ↦ absurd hentering hnot
  | begin =>
    obtain ⟨-, hst⟩ := Option.ite_none_right_eq_some.mp hst
    cases hst
    exact .of_phase nofun nofun
  | examine =>
    obtain ⟨hphase, hst⟩ := Option.ite_none_right_eq_some.mp hst
    cases hst
    unfold State.examine
    dsimp only
    by_cases hstop : s.mRequestStop = true
    · rw [if_pos hstop]
      exact .of_phase nofun nofun
    · rw [if_neg hstop]
      by_cases hdrain : 0 < s.mRequestDrain
      · rw [decide_eq_true hdrain]
        exact .of_phase nofun nofun
      · rw [decide_eq_false hdrain]
        rintro - (hrequested | hrequested)
        · exact hstop hrequested
        · exact hdrain hrequested
  | enterWait =>
    obtain ⟨hphase, hst⟩ := Option.ite_none_right_eq_some.mp hst
    cases hst
    exact fun _ ↦ h (.inl hphase)
  | wake =>
    dsimp only [State.step] at hst
    split at hst
    · cases hst
      exact .of_phase nofun nofun
    · cases hst
  | interrupt =>
    dsimp only [State.step] at hst
    split at hst
    · cases hst
      exact .of_phase nofun nofun
    · cases hst
  | drained endOfStream =>
    dsimp only [State.step] at hst
    split at hst
    case h_4 => cases hst
    all_goals
      cases hst
      exact .of_phase nofun nofun
  | failed =>
    dsimp only [State.step] at hst
    split at hst
    case h_5 => cases hst
    all_goals
      cases hst
      exact .of_phase nofun nofun
  | released =>
    obtain ⟨-, hst⟩ := Option.ite_none_right_eq_some.mp hst
    cases hst
    exact .of_phase nofun nofun
  | finish =>
    obtain ⟨-, hst⟩ := Option.ite_none_right_eq_some.mp hst
    cases hst
    exact .of_phase nofun nofun

/-- In every run without such a request, the thread is not blocked while something is
asked of it. -/
theorem not_blocked_when_requested {s : State}
    (h : Reachable (restrict Step Timely) State.create s) (hblocked : s.phase = .waiting false) :
    s.mRequestStop = false ∧ ¬ 0 < s.mRequestDrain := by
  have hidle : Idle s := by
    apply h.invariant (P := Idle)
    · exact fun s l t hst hs ↦ hs.step hst.1 hst.2
    · exact .of_phase nofun nofun
  obtain ⟨hstop, hdrain⟩ := not_or.mp (hidle (.inr hblocked))
  exact ⟨Bool.eq_false_iff.mpr hstop, hdrain⟩

/-- A frame is drained before the thread waits again. -/
def oneFrame : List Label :=
  [.begin, .startRecording, .examine, .enterWait, .frameAvailableSoon, .wake, .examine,
    .drained false, .examine, .enterWait]

theorem not_blocked_when_requested_oneFrame : ∃ s,
    Reachable (restrict Step Timely) State.create s ∧ s.phase = .waiting false ∧
      s.mIsCapturing = true ∧ s.mRequestStop = false ∧ ¬ 0 < s.mRequestDrain := by
  have h : (exec (guarded State.step Timely) State.create oneFrame).map
      (fun s ↦ (s.phase, s.mIsCapturing)) = some (.waiting false, true) := by decide +kernel
  obtain ⟨s, hs, he⟩ := Option.map_eq_some_iff.mp h
  obtain ⟨hphase, hcapturing⟩ := Prod.mk.inj he
  have hreach : Reachable (restrict Step Timely) State.create s :=
    ⟨oneFrame, run_restrict_of_exec hs⟩
  exact ⟨s, hreach, hphase, hcapturing, not_blocked_when_requested hreach hphase⟩

/-! ### A request that is missed -/

/-- Any request to stop that takes effect before the wait is missed. -/
theorem late_stop_missed {s : State} (hentering : s.phase = .entering)
    (hcapturing : s.mIsCapturing = true) (hstop : s.mRequestStop = false) :
    ∃ t, Run Step s [.stopRecording, .enterWait] t ∧ t.phase = .waiting false ∧
      t.mRequestStop = true := by
  have hcall : s.stopRecording = State.notifyAll { s with mRequestStop := true } := by
    apply if_neg
    intro h
    obtain hn | hn := h
    · exact hn hcapturing
    · rw [hstop] at hn
      cases hn
  have hphase : s.stopRecording.phase = .entering := by
    rw [hcall, State.notifyAll, hentering]
  have henter : Step s.stopRecording .enterWait { s.stopRecording with phase := .waiting false } :=
    if_pos hphase
  refine ⟨_, .cons rfl (.one henter), rfl, ?_⟩
  rw [hcall]
  rfl

/-- A request to stop that is missed is not made good by later calls: while the thread is
blocked with it, frames and further requests to stop are refused without a notification. -/
theorem missed_stop_stays {s : State} (hblocked : s.phase = .waiting false)
    (hstop : s.mRequestStop = true) :
    s.frameAvailableSoon = (false, s) ∧ s.stopRecording = s ∧
      ∀ l t, Step s l t → l ≠ .wake → l ≠ .interrupt → l ≠ .startRecording → t = s := by
  have hframe : s.frameAvailableSoon = (false, s) := if_pos (.inr hstop)
  have hagain : s.stopRecording = s := if_pos (.inr hstop)
  refine ⟨hframe, hagain, fun l t hst hwake hinterrupt hstart ↦ ?_⟩
  unfold Step ofPartial at hst
  cases l with
  | frameAvailableSoon => exact (Option.some.inj hst).symm.trans (congrArg Prod.snd hframe)
  | stopRecording => exact (Option.some.inj hst).symm.trans hagain
  | startRecording => exact absurd rfl hstart
  | wake => exact absurd rfl hwake
  | interrupt => exact absurd rfl hinterrupt
  | begin | examine | enterWait | released | finish =>
    obtain ⟨hphase, -⟩ := Option.ite_none_right_eq_some.mp hst
    rw [hblocked] at hphase
    cases hphase
  | drained endOfStream =>
    dsimp only [State.step] at hst
    rw [hblocked] at hst
    cases hst
  | failed =>
    dsimp only [State.step] at hst
    rw [hblocked] at hst
    cases hst

/-- The request to stop comes after the flags have been examined. -/
theorem stop_missed : ∃ s, Reachable Step State.create s ∧ s.phase = .waiting false ∧
    s.mRequestStop = true := by
  have h : (exec State.step State.create
      [.begin, .startRecording, .examine, .stopRecording, .enterWait]).map
        (fun s ↦ (s.phase, s.mRequestStop)) = some (.waiting false, true) := by decide +kernel
  obtain ⟨s, hreach, hs⟩ := exists_reachable_of_exec _ h
  obtain ⟨hphase, hstop⟩ := Prod.mk.inj hs
  exact ⟨s, hreach, hphase, hstop⟩

end VirtualCamera.Encoder.Wakeup
