import VirtualCamera.Session.Holding

namespace VirtualCamera.Session.Progress

open Library.Transition Streams Request Pipeline Holding

/-! ### The work that is left -/

variable {F : Type}

/-- The steps that are left to the threads and to a call once it has begun; the rest
begin a call, or are rounds of a thread that finds no request. -/
def Internal : Label F → Prop
  | .configureStreams .. | .processOneCaptureRequest .. | .flush | .close => False
  | .formatIdle | .outputIdle => False
  | _ => True

/-- Requests that wait in a queue, each weighing its buffers and `n`. -/
def queueCost (n : ℕ) (reqs : List HalRequest) : ℕ :=
  (reqs.map fun req ↦ req.buffers.length + n).sum

def formatCost : FormatThread → ℕ
  | .converting req => req.buffers.length + 11
  | .looping => 1
  | .waiting | .exited => 0

def outputCost : OutputThread → ℕ
  | .processing req => req.buffers.length + 8
  | .performing _ todo => todo.length + 2
  | .looping => 1
  | .waiting | .exited => 0

def phaseCost : FlushPhase → ℕ
  | .entered => 5
  | .waiting reqs _ => 4 + queueCost 8 reqs
  | .returning reqs => 3 + queueCost 8 reqs
  | .performing _ todo reqs => 4 + todo.length + queueCost 8 reqs

def callCost : Call → ℕ
  | .idle => 0
  | .submitting req => req.buffers.length + 13
  | .flushing f => phaseCost f.phase
  | .joiningOutput => 2
  | .joiningFormat => 1

def work (s : State) : ℕ :=
  callCost s.call + queueCost 12 s.formatQueue + formatCost s.format +
    queueCost 9 s.outputQueue + outputCost s.output

@[simp]
theorem queueCost_nil (n : ℕ) : queueCost n [] = 0 := rfl

@[simp]
theorem queueCost_cons (n : ℕ) (req : HalRequest) (reqs : List HalRequest) :
    queueCost n (req :: reqs) = req.buffers.length + n + queueCost n reqs := rfl

@[simp]
theorem queueCost_concat (n : ℕ) (reqs : List HalRequest) (req : HalRequest) :
    queueCost n (reqs ++ [req]) = queueCost n reqs + (req.buffers.length + n) := by
  simp [queueCost]

theorem queueCost_mono {m n : ℕ} (h : m ≤ n) (reqs : List HalRequest) :
    queueCost m reqs ≤ queueCost n reqs := by
  induction reqs with
  | nil => exact le_refl _
  | cons req reqs ih =>
    simp only [queueCost_cons]
    omega

theorem effects_length (req : HalRequest) (c : Conclusion) :
    (effects req c).length ≤ req.buffers.length + 5 := by
  cases c with
  | result =>
    have := List.length_filter_le HalStreamBuffer.fenceTimeout req.buffers
    simp only [effects, processCaptureResult, List.length_append, List.length_map,
      List.length_cons, List.length_nil]
    omega
  | requestError => simp [effects, processCaptureRequestError]
  | deviceError => simp [effects]
  | unknownFormat => simp [effects]
  | noShareFd => simp [effects]

theorem buffers_length {req req' : HalRequest} (h : Same req req') :
    req'.buffers.length = req.buffers.length := by
  have := congrArg List.length h.buffers
  rwa [List.length_map, List.length_map] at this

theorem callCost_signal (c : Call) : callCost c.signal = callCost c := by
  cases c with
  | flushing f =>
    cases hp : f.phase <;> simp only [Call.signal, hp, callCost, phaseCost]
  | _ => rfl

/-! ### Every internal step does some of it -/

theorem work_flush {s s' : State} {f : Flush} {l : Label F} (hc : s.call = .flushing f)
    (h : s.stepFlush f l = some s') : work s' < work s := by
  have hwork : work s = phaseCost f.phase + queueCost 12 s.formatQueue + formatCost s.format +
      queueCost 9 s.outputQueue + outputCost s.output := by rw [work, hc, callCost]
  cases l <;> simp only [State.stepFlush, reduceCtorEq] at h
  case flushTake =>
    split at h
    · rename_i hp
      cases h
      have hm := queueCost_mono (m := 8) (n := 9) (by decide) s.outputQueue
      rw [hwork, hp]
      by_cases hr : s.processingRequest
      · simp only [work, State.flushTake, hr, callCost, phaseCost, queueCost_nil, if_true]
        omega
      · simp only [work, State.flushTake, hr, callCost, queueCost_nil, Bool.false_eq_true,
          if_false, phaseCost]
        omega
    · cases h
  case flushSignalled =>
    split at h
    · rename_i reqs hp
      cases h
      rw [hwork, hp]
      simp only [work, callCost, phaseCost]
      omega
    · cases h
  case flushTimeout =>
    split at h
    · rename_i reqs signalled hp
      cases h
      rw [hwork, hp]
      simp only [work, callCost, phaseCost]
      omega
    · cases h
  case flushNext =>
    split at h
    · rename_i req reqs hp
      cases h
      have hl := effects_length req .requestError
      rw [hwork, hp]
      simp only [work, callCost, phaseCost, queueCost_cons, Ending.effects]
      omega
    · cases h
  case flushPerform lockObtained =>
    split at h
    · rename_i ending e todo reqs hp
      cases h
      rw [hwork, hp]
      simp only [work, State.perform, callCost, phaseCost, List.length_cons]
      omega
    · cases h
  case flushDone =>
    split at h
    · rename_i ending reqs hp
      cases h
      rw [hwork, hp]
      simp only [work, State.finish, callCost, phaseCost, List.length_nil]
      omega
    · cases h
  case flushReturn =>
    split at h
    · rename_i hp
      split at h
      · cases h
        rw [hwork, hp]
        simp only [work, callCost, phaseCost, queueCost_nil]
        omega
      · cases h
        rw [hwork, hp]
        simp only [work, callCost, phaseCost, queueCost_nil]
        omega
    · cases h

theorem work_call {s s' : State} {l : Label F} (hl : Internal l) (h : s.stepCall l = some s') :
    work s' < work s := by
  unfold State.stepCall at h
  split at h
  · -- what an idle caller can do is to begin a call
    split at h
    · exact hl.elim
    · exact hl.elim
    · exact hl.elim
    · exact hl.elim
    · cases h
  · rename_i req hc
    split at h
    · cases h
      simp only [work, hc, callCost, queueCost_concat]
      omega
    · cases h
  · rename_i f hc
    exact work_flush hc h
  · rename_i hc
    split at h
    · split at h
      · cases h
        simp only [work, hc, callCost]
        omega
      · cases h
    · cases h
  · rename_i hc
    split at h
    · split at h
      · cases h
        simp only [work, hc, callCost]
        omega
      · cases h
    · cases h

theorem work_format {s s' : State} {l : Label F} (hl : Internal l)
    (h : s.stepFormat l = some s') : work s' < work s := by
  cases l <;> simp only [State.stepFormat, reduceCtorEq] at h
  case formatTake =>
    split at h
    · rename_i req reqs hf hq
      cases h
      simp only [work, hf, hq, formatCost, queueCost_cons]
      omega
    · cases h
  case formatConvert decoded shareFd =>
    split at h
    · rename_i req hf
      split at h
      · rename_i req' hc
        cases h
        have hb := buffers_length (convertFormat_same hc)
        simp only [work, hf, formatCost, queueCost_concat]
        omega
      · cases h
        simp only [work, State.finish, hf, formatCost]
        omega
    · cases h
  case formatIdle => exact hl.elim
  case formatLoop =>
    split at h
    · rename_i hf
      cases h
      by_cases he : s.formatExit
      · simp only [work, hf, he, formatCost, if_true]
        omega
      · simp only [work, hf, he, formatCost, Bool.false_eq_true, if_false]
        omega
    · cases h

theorem work_output {s s' : State} {l : Label F} (hl : Internal l)
    (h : s.stepOutput l = some s') : work s' < work s := by
  cases l <;> simp only [State.stepOutput, reduceCtorEq] at h
  case outputTake =>
    split at h
    · rename_i req reqs ho hq
      cases h
      simp only [work, ho, hq, outputCost, queueCost_cons]
      omega
    · cases h
  case outputProcess o =>
    split at h
    · rename_i req ho
      cases h
      have hb := buffers_length (processRequest_same req o)
      have he := effects_length (processRequest req o).2 (processRequest req o).1
      simp only [work, ho, outputCost, Ending.effects]
      omega
    · cases h
  case outputPerform lockObtained =>
    split at h
    · rename_i ending e todo ho
      cases h
      simp only [work, State.perform, ho, outputCost, List.length_cons]
      omega
    · cases h
  case outputDone =>
    split at h
    · rename_i ending ho
      split at h
      · cases h
        simp only [work, State.finish, ho, outputCost, List.length_nil]
        omega
      · cases h
        simp only [work, State.finish, State.signalRequestDone, callCost_signal, ho, outputCost,
          List.length_nil]
        omega
      · cases h
        simp only [work, State.finish, State.signalRequestDone, callCost_signal, ho, outputCost,
          List.length_nil]
        omega
    · cases h
  case outputIdle => exact hl.elim
  case outputLoop =>
    split at h
    · rename_i ho
      cases h
      by_cases he : s.outputExit
      · simp only [work, ho, he, outputCost, if_true]
        omega
      · simp only [work, ho, he, outputCost, Bool.false_eq_true, if_false]
        omega
    · cases h

theorem work_decreases {s s' : State} {l : Label F} (hl : Internal l)
    (h : s.step l = some s') : work s' < work s := by
  unfold State.step at h
  split at h
  · exact work_call hl h
  · exact work_format hl h
  · exact work_output hl h

/-! ### When nothing is left to do -/

/-- No internal step is possible. -/
def Quiet (F : Type) (s : State) : Prop := ∀ l : Label F, Internal l → s.step l = none

theorem Quiet.call {s : State} (h : Quiet F s) : callHeld s.call = 0 := by
  have hstep (l : Label F) (hl : Internal l) (hp : l.party = .caller) : s.stepCall l = none := by
    have hn := h l hl
    rwa [State.step, hp] at hn
  cases hc : s.call with
  | idle => rfl
  | submitting req =>
    have hn := hstep .submitRequest trivial rfl
    simp only [State.stepCall, hc, reduceCtorEq] at hn
  | flushing f =>
    have hflush (l : Label F) (hl : Internal l) (hp : l.party = .caller) :
        s.stepFlush f l = none := by
      have hn := hstep l hl hp
      unfold State.stepCall at hn
      rwa [hc] at hn
    cases hp : f.phase with
    | entered =>
      have hn := hflush .flushTake trivial rfl
      rw [State.stepFlush, if_pos hp] at hn
      cases hn
    | waiting reqs signalled =>
      have hn := hflush .flushTimeout trivial rfl
      rw [State.stepFlush, hp] at hn
      cases hn
    | returning reqs =>
      cases reqs with
      | nil =>
        have hn := hflush .flushReturn trivial rfl
        rw [State.stepFlush, hp] at hn
        dsimp only at hn
        split at hn <;> cases hn
      | cons req reqs =>
        have hn := hflush .flushNext trivial rfl
        rw [State.stepFlush, hp] at hn
        cases hn
    | performing ending todo reqs =>
      cases todo with
      | nil =>
        have hn := hflush .flushDone trivial rfl
        rw [State.stepFlush, hp] at hn
        cases hn
      | cons e todo =>
        have hn := hflush (.flushPerform true) trivial rfl
        rw [State.stepFlush, hp] at hn
        cases hn
  | joiningOutput => rfl
  | joiningFormat => rfl

theorem Quiet.format {s : State} (h : Quiet F s) :
    formatHeld s.format = 0 ∧ (s.formatQueue = [] ∨ s.format = .exited) := by
  have hstep (l : Label F) (hl : Internal l) (hp : l.party = .format) :
      s.stepFormat l = none := by
    have hn := h l hl
    rwa [State.step, hp] at hn
  cases hf : s.format with
  | waiting =>
    cases hq : s.formatQueue with
    | nil => exact ⟨rfl, .inl rfl⟩
    | cons req reqs =>
      have hn := hstep .formatTake trivial rfl
      rw [State.stepFormat, hf, hq] at hn
      cases hn
  | converting req =>
    have hn := hstep (.formatConvert true 0) trivial rfl
    rw [State.stepFormat, hf] at hn
    dsimp only at hn
    split at hn <;> cases hn
  | looping =>
    have hn := hstep .formatLoop trivial rfl
    rw [State.stepFormat, if_pos hf] at hn
    cases hn
  | exited => exact ⟨rfl, .inr rfl⟩

theorem Quiet.output {s : State} (h : Quiet F s) :
    outputHeld s.output = 0 ∧ (s.outputQueue = [] ∨ s.output = .exited) := by
  have hstep (l : Label F) (hl : Internal l) (hp : l.party = .output) :
      s.stepOutput l = none := by
    have hn := h l hl
    rwa [State.step, hp] at hn
  cases ho : s.output with
  | waiting =>
    cases hq : s.outputQueue with
    | nil => exact ⟨rfl, .inl rfl⟩
    | cons req reqs =>
      have hn := hstep .outputTake trivial rfl
      rw [State.stepOutput, ho, hq] at hn
      cases hn
  | processing req =>
    have hn := hstep (.outputProcess ⟨true, true, fun _ ↦ ⟨true, true, true, true, -1, true⟩⟩)
      trivial rfl
    rw [State.stepOutput, ho] at hn
    cases hn
  | performing ending todo =>
    cases todo with
    | nil =>
      have hn := hstep .outputDone trivial rfl
      rw [State.stepOutput, ho] at hn
      dsimp only at hn
      split at hn <;> cases hn
    | cons e todo =>
      have hn := hstep (.outputPerform true) trivial rfl
      rw [State.stepOutput, ho] at hn
      cases hn
  | looping =>
    have hn := hstep .outputLoop trivial rfl
    rw [State.stepOutput, if_pos ho] at hn
    cases hn
  | exited => exact ⟨rfl, .inr rfl⟩

/-- The requests that are still held then wait for a thread that has exited. -/
theorem Quiet.held {s : State} (h : Quiet F s) :
    Holding.held s = waitAll s.formatQueue + waitAll s.outputQueue ∧
    (s.formatQueue = [] ∨ s.format = .exited) ∧ (s.outputQueue = [] ∨ s.output = .exited) := by
  refine ⟨?_, h.format.2, h.output.2⟩
  rw [Holding.held, h.call, h.format.1, h.output.1, zero_add, add_zero, add_zero]

theorem quiet_of_idle {s : State} (hc : s.call = .idle) (hfq : s.formatQueue = [])
    (hf : s.format = .waiting) (hoq : s.outputQueue = [])
    (ho : s.output = .waiting ∨ s.output = .exited) : Quiet F s := by
  intro l hl
  unfold State.step
  split
  · unfold State.stepCall
    rw [hc]
    cases l <;> first | rfl | exact hl.elim
  · cases l <;> first
      | rfl
      | exact hl.elim
      | simp only [State.stepFormat, hf, hfq, reduceCtorEq, if_false]
  · obtain ho | ho := ho
    all_goals
      cases l <;> first
        | rfl
        | exact hl.elim
        | simp only [State.stepOutput, ho, hoq, reduceCtorEq, if_false]

/-- The threads left alone come to that point. -/
theorem exists_quiet (F : Type) (s : State) :
    ∃ as t, Run (restrict (ofPartial State.step) fun _ (l : Label F) ↦ Internal l) s as t ∧
      Quiet F t := by
  have hdec (s : State) (l : Label F) (t : State)
      (h : restrict (ofPartial State.step) (fun _ l ↦ Internal l) s l t) : work t < work s :=
    work_decreases h.2 h.1
  obtain ⟨as, t, hr, ht⟩ := exists_maximal_run hdec s
  refine ⟨as, t, hr, fun l hl ↦ ?_⟩
  cases hs : t.step l with
  | none => rfl
  | some u => exact (ht l u ⟨hs, hl⟩).elim

end VirtualCamera.Session.Progress
