import VirtualCamera.Stream.Model

namespace VirtualCamera.Stream

open Library Library.Transition

variable {F : Type}

/-- A stream with the largest number of buffers that one completed preparation has allocated since
it was last torn down or reconfigured. -/
structure Preparing (F : Type) where
  stream : Camera3Stream F
  allocated : ℕ := 0

namespace Preparing

def next (h : Preparing F) (a : Label F) : Preparing F :=
  { stream := h.stream.call a
    allocated := match a with
      | .finishConfiguration _ => if h.stream.Reconfigures then 0 else h.allocated
      | .tearDown handout disconnect _ =>
        if h.stream.TornDown handout disconnect then 0 else h.allocated
      | .prepareNextBuffer next =>
        if h.stream.Completes next then max h.allocated (h.stream.mPreparedBufferIdx + 1)
        else h.allocated
      | _ => h.allocated }

def Step : Preparing F → Label F → Preparing F → Prop := ofPartial fun h a ↦ some (h.next a)

/-- A `startPrepare` that has nothing to do finds its buffers allocated. -/
def Justified (h : Preparing F) : Label F → Prop
  | .startPrepare maxCount blockRequest pipelineMax handout =>
    (h.stream.startPrepare maxCount blockRequest pipelineMax handout).1 = .OK →
      Camera3Stream.bufferCount pipelineMax maxCount ≤ h.allocated
  | _ => True

/-- No preparation is cancelled, and nothing is freed once one was started, unless the stream
cannot be prepared afterwards. -/
def Keeps (h : Preparing F) : Label F → Prop
  | .cancelPrepare => h.stream.mState = .PREPARING → h.stream.mStreamUnpreparable = true
  | .finishConfiguration configureQueue =>
    h.stream.Reconfigures → configureQueue = .OK → h.stream.mLastMaxCount = 0
  | .tearDown handout disconnect configureQueue =>
    h.stream.TornDown handout disconnect → h.stream.mLastMaxCount = 0 ∨
      disconnect = .disconnected ∧ configureQueue ≠ .OK ∨
      disconnect = .notConnected ∧ h.stream.mStreamUnpreparable = true
  | _ => True

instance (h : Preparing F) : DecidablePred h.Keeps
  | .cancelPrepare => inferInstanceAs (Decidable (_ → _))
  | .finishConfiguration _ => inferInstanceAs (Decidable (_ → _ → _))
  | .tearDown .. => inferInstanceAs (Decidable (_ → _))
  | .startConfiguration .. | .modify .. | .cancelConfiguration | .forceToIdle ..
  | .restoreConfiguredState .. | .startPrepare .. | .prepareNextBuffer .. | .markUnpreparable
  | .getBuffer .. | .returnBuffer .. => .isTrue trivial

end Preparing

/-! ### What belongs to a preparation -/

namespace Camera3Stream

def prep (s : Camera3Stream F) : Bool × ℕ × List StreamBuffer × ℕ :=
  (s.mStreamUnpreparable, s.mLastMaxCount, s.mPreparedBuffers, s.mPreparedBufferIdx)

theorem prep_stopTracking (s : Camera3Stream F) : s.stopTracking.prep = s.prep := by
  unfold stopTracking
  split <;> rfl

theorem prep_startTracking (s : Camera3Stream F) : s.startTracking.prep = s.prep := by
  unfold startTracking
  split
  · rfl
  · split <;> rfl

end Camera3Stream

namespace Preparing

structure Inv (h : Preparing F) : Prop where
  allocated_le : h.allocated ≤ h.stream.mLastMaxCount
  live : h.stream.mState ∉ [.ERROR, .ABANDONED, .PREPARING] →
    h.stream.mLastMaxCount ≤ h.allocated ∨ h.stream.mStreamUnpreparable = true
  preparing : h.stream.mState = .PREPARING → h.allocated < h.stream.mLastMaxCount ∧
    h.stream.mPreparedBuffers.length = h.stream.mLastMaxCount ∧
    h.stream.mPreparedBufferIdx < h.stream.mPreparedBuffers.length
  empty : h.stream.mState ≠ .PREPARING → h.stream.mPreparedBuffers = []

theorem inv_create (tracker : Option (StatusTracker.State F)) (format dataSpace : ℤ)
    (sized : Bool) : Inv ⟨Camera3Stream.create tracker format dataSpace sized, 0⟩ := by
  have hstate : (Camera3Stream.create tracker format dataSpace sized).mState ≠ .PREPARING := by
    cases sized <;> simp [Camera3Stream.create]
  exact ⟨le_rfl, fun _ ↦ .inl le_rfl, fun h ↦ absurd h hstate, fun _ ↦ rfl⟩

section Transfer

variable {s s' : Camera3Stream F} {n : ℕ}

theorem Inv.of_same (h : Inv ⟨s, n⟩) (hstate : s'.mState = s.mState) (hprep : s'.prep = s.prep) :
    Inv ⟨s', n⟩ := by
  simp only [Camera3Stream.prep, Prod.mk.injEq] at hprep
  obtain ⟨hunprep, hlast, hbuffers, hidx⟩ := hprep
  constructor
  · exact hlast ▸ h.allocated_le
  · simp only [hstate, hlast, hunprep]
    exact h.live
  · simp only [hstate, hlast, hbuffers, hidx]
    exact h.preparing
  · simp only [hstate, hbuffers]
    exact h.empty

/-- Neither side of the call is within a preparation. -/
theorem Inv.of_live (h : Inv ⟨s, n⟩) (hs : s.mState ∉ [.ERROR, .ABANDONED, .PREPARING])
    (hs' : s'.mState ≠ .PREPARING) (hprep : s'.prep = s.prep) : Inv ⟨s', n⟩ := by
  simp only [Camera3Stream.prep, Prod.mk.injEq] at hprep
  obtain ⟨hunprep, hlast, hbuffers, -⟩ := hprep
  have hnot : s.mState ≠ .PREPARING := fun h ↦ hs (by rw [h]; decide)
  constructor
  · exact hlast ▸ h.allocated_le
  · intro _
    simp only [hlast, hunprep]
    exact h.live hs
  · exact fun h ↦ absurd h hs'
  · intro _
    simp only [hbuffers]
    exact h.empty hnot

/-- Nothing is allocated any more. -/
theorem inv_freed (hempty : s.mPreparedBuffers = []) (hs : s.mState ≠ .PREPARING)
    (hlive : s.mState ∉ [.ERROR, .ABANDONED, .PREPARING] →
      s.mLastMaxCount = 0 ∨ s.mStreamUnpreparable = true) : Inv ⟨s, 0⟩ :=
  ⟨Nat.zero_le _, fun h ↦ (hlive h).imp le_of_eq id, fun h ↦ absurd h hs, fun _ ↦ hempty⟩

end Transfer

variable {h : Preparing F} {a : Label F}

theorem Inv.startConfiguration (hinv : h.Inv) (hasOutstanding : Bool) (usage : Status × ℕ) :
    Inv ⟨(h.stream.startConfiguration hasOutstanding usage).2, h.allocated⟩ := by
  obtain ⟨hcall, hstate⟩ | ⟨hcall, -⟩ | hcall :=
    h.stream.startConfiguration_cases hasOutstanding usage <;> rw [hcall]
  · have hlive : h.stream.mState ∉ [.ERROR, .ABANDONED, .PREPARING] := by
      simp only [List.mem_cons, List.not_mem_nil, or_false] at hstate
      rcases hstate with hs | hs | hs <;> rw [hs] <;> decide
    obtain hbegin | ⟨-, hbegin⟩ | ⟨-, hbegin⟩ :=
      h.stream.beginConfiguration_cases usage <;> rw [hbegin]
    · exact hinv.of_same rfl rfl
    · exact hinv.of_same rfl rfl
    · refine hinv.of_live hlive ?_ (Camera3Stream.prep_stopTracking _)
      dsimp only [Camera3Stream.begun]
      split <;> decide
  · exact hinv
  · exact hinv

theorem not_preparing_of_mem (hstate : h.stream.mState ∈ [.IN_CONFIG, .IN_RECONFIG]) :
    h.stream.mState ≠ .PREPARING ∧ h.stream.mState ∉ [.ERROR, .ABANDONED, .PREPARING] := by
  simp only [List.mem_cons, List.not_mem_nil, or_false] at hstate
  rcases hstate with hs | hs <;> rw [hs] <;> exact ⟨by decide, by decide⟩

theorem Inv.finishConfiguration (hinv : h.Inv) {configureQueue : Status}
    (ha : h.Keeps (.finishConfiguration configureQueue)) :
    (h.next (.finishConfiguration configureQueue)).Inv := by
  obtain ⟨hno, hcall⟩ | ⟨hre, hcall⟩ := h.stream.finishConfiguration_cases configureQueue
  · simp only [next, Camera3Stream.call, if_neg hno]
    rcases hcall with hcall | ⟨hstate, hcall⟩ <;> rw [hcall]
    · exact hinv
    · have hlive := (not_preparing_of_mem (h := h) (by rw [hstate]; decide)).2
      exact hinv.of_live hlive (by simp) (Camera3Stream.prep_startTracking _)
  · obtain ⟨m, hm, hcases⟩ := h.stream.startTracking.reconfigure_cases configureQueue
    have hprep := h.stream.prep_startTracking
    simp only [Camera3Stream.prep, Prod.mk.injEq] at hprep
    obtain ⟨-, hlast, hbuffers, -⟩ := hprep
    simp only [next, Camera3Stream.call, if_pos hre, hcall, hm]
    have hempty := hinv.empty (not_preparing_of_mem hre.1).1
    have hm' : m = .CONFIGURED ∨ m = .ABANDONED ∨ m = .ERROR := by
      rcases hcases with ⟨-, hm⟩ | ⟨-, hm⟩
      · exact .inl hm
      · exact .inr (List.mem_pair.mp hm)
    apply inv_freed
    · exact hbuffers.trans hempty
    · rcases hm' with rfl | rfl | rfl <;> simp
    · intro hlive
      rcases hcases with ⟨hok, -⟩ | ⟨-, hm⟩
      · exact .inl (hlast.trans (ha hre hok))
      · rcases List.mem_pair.mp hm with rfl | rfl <;> exact absurd hlive (by simp)

theorem Inv.cancelConfiguration (hinv : h.Inv) :
    Inv ⟨h.stream.cancelConfiguration.2, h.allocated⟩ := by
  obtain ⟨hcall, hstate⟩ | hcall := h.stream.cancelConfiguration_cases <;> rw [hcall]
  · have hlive : h.stream.mState ∉ [.ERROR, .ABANDONED, .PREPARING] := by
      simp only [List.mem_cons, List.not_mem_nil, or_false] at hstate
      rcases hstate with hs | hs | hs <;> rw [hs] <;> decide
    refine hinv.of_live hlive ?_ rfl
    dsimp only [Camera3Stream.restored]
    split <;> decide
  · exact hinv

theorem Inv.startPrepare (hinv : h.Inv) (maxCount : ℤ) (blockRequest : Bool)
    (pipelineMax handout : ℕ) :
    Inv ⟨(h.stream.startPrepare maxCount blockRequest pipelineMax handout).2, h.allocated⟩ := by
  obtain ⟨e, hcall, -⟩ | ⟨hstate, hunprep, ⟨-, hcall⟩ | ⟨hlt, hcall⟩⟩ :=
    h.stream.startPrepare_cases maxCount blockRequest pipelineMax handout <;> rw [hcall]
  · exact hinv
  · exact hinv.of_same rfl rfl
  · have hempty := hinv.empty (by rw [hstate]; decide)
    have hlength : (h.stream.beginPrepare (Camera3Stream.bufferCount pipelineMax maxCount)
        blockRequest).mPreparedBuffers.length = Camera3Stream.bufferCount pipelineMax maxCount := by
      simp only [Camera3Stream.beginPrepare, hempty, List.append_nil, List.length_replicate]
    have hle := hinv.allocated_le
    constructor
    · exact hle.trans hlt.le
    · exact fun hlive ↦ absurd (by decide : StreamState.PREPARING ∈ [.ERROR, .ABANDONED, .PREPARING])
        hlive
    · exact fun _ ↦ ⟨hle.trans_lt hlt, hlength, by rw [hlength]; exact (Nat.zero_le _).trans_lt hlt⟩
    · exact fun hne ↦ absurd rfl hne

theorem Inv.prepareNextBuffer (hinv : h.Inv) (getBuffer : Except Status StreamBuffer) :
    (h.next (.prepareNextBuffer getBuffer)).Inv := by
  obtain ⟨hno, hcall⟩ | ⟨hcompletes, b, hcall⟩ := h.stream.prepareNextBuffer_cases getBuffer
  · simp only [next, Camera3Stream.call, if_neg hno]
    rcases hcall with hcall | ⟨hstate, hlt, b, hcall⟩ <;> rw [hcall]
    · exact hinv
    · obtain ⟨hprep, hlength, -⟩ := hinv.preparing hstate
      refine ⟨hinv.allocated_le, fun hlive ↦ absurd ?_ hlive, fun _ ↦ ⟨hprep, ?_, ?_⟩,
        fun hne ↦ absurd hstate hne⟩
      · rw [Camera3Stream.addPrepared, hstate]
        decide
      · exact List.length_set.trans hlength
      · exact hlt.trans_eq List.length_set.symm
  · simp only [next, Camera3Stream.call, if_pos hcompletes, hcall]
    obtain ⟨hprep, hlength, hidx⟩ := hinv.preparing hcompletes.1
    have hall : max h.allocated (h.stream.mPreparedBufferIdx + 1) = h.stream.mLastMaxCount := by
      have := hcompletes.2.2
      omega
    rw [hall]
    exact ⟨le_rfl, fun _ ↦ .inl le_rfl, fun h ↦ (by cases h), fun _ ↦ rfl⟩

theorem Inv.cancelPrepare (hinv : h.Inv) (ha : h.Keeps .cancelPrepare) :
    Inv ⟨h.stream.cancelPrepare.2.2, h.allocated⟩ := by
  obtain ⟨hcall, -⟩ | ⟨hstate, hcall⟩ := h.stream.cancelPrepare_cases <;> rw [hcall]
  · exact hinv
  · exact ⟨hinv.allocated_le, fun _ ↦ .inr (ha hstate), fun h ↦ (by cases h), fun _ ↦ rfl⟩

theorem Inv.tearDown (hinv : h.Inv) {handout : ℕ} {disconnect : Disconnect}
    {configureQueue : Status} (ha : h.Keeps (.tearDown handout disconnect configureQueue)) :
    (h.next (.tearDown handout disconnect configureQueue)).Inv := by
  obtain ⟨hno, hcall⟩ | ⟨htorn, hcall⟩ := h.stream.tearDown_cases handout disconnect configureQueue
  · simp only [next, Camera3Stream.call, if_neg hno]
    rcases hcall with hcall | ⟨hstate, hcall⟩ <;> rw [hcall]
    · exact hinv
    · have hempty := hinv.empty (by rw [hstate]; decide)
      exact ⟨hinv.allocated_le, fun hlive ↦ absurd (by simp) hlive, fun h ↦ (by cases h),
        fun _ ↦ hempty⟩
  · have hempty := hinv.empty (by rw [htorn.1]; decide)
    have hkeeps := ha htorn
    simp only [next, Camera3Stream.call, if_pos htorn]
    rcases hcall with ⟨hdis, hcall⟩ | ⟨-, -, hcall⟩ | ⟨hdis, hok, hcall⟩ <;> rw [hcall]
    · refine inv_freed hempty (by rw [htorn.1]; decide) fun _ ↦ ?_
      rcases hkeeps with hzero | ⟨hdis', -⟩ | ⟨-, hunprep⟩
      · exact .inl hzero
      · rw [hdis] at hdis'
        cases hdis'
      · exact .inr hunprep
    · exact inv_freed hempty (by simp) fun hlive ↦ absurd (by simp) hlive
    · refine inv_freed hempty (by simp) fun _ ↦ ?_
      rcases hkeeps with hzero | ⟨-, hne⟩ | ⟨hdis', -⟩
      · exact .inl hzero
      · exact absurd hok hne
      · rw [hdis] at hdis'
        cases hdis'

theorem Inv.next (hinv : h.Inv) (ha : h.Keeps a) : (h.next a).Inv := by
  cases a with
  | startConfiguration hasOutstanding usage => exact hinv.startConfiguration hasOutstanding usage
  | modify usage max_buffers format data_space => exact hinv.of_same rfl rfl
  | finishConfiguration configureQueue => exact hinv.finishConfiguration ha
  | cancelConfiguration => exact hinv.cancelConfiguration
  | forceToIdle hasOutstanding fence =>
    have hinv' : Inv ⟨(h.stream.forceToIdle hasOutstanding fence).2, h.allocated⟩ := by
      obtain hcall | ⟨hstate, tracker, hcall⟩ :=
        h.stream.forceToIdle_cases hasOutstanding fence <;> rw [hcall]
      · exact hinv
      · exact hinv.of_live (by rw [hstate]; decide) (by simp) rfl
    exact hinv'
  | restoreConfiguredState hasOutstanding fence =>
    have hinv' : Inv ⟨(h.stream.restoreConfiguredState hasOutstanding fence).2, h.allocated⟩ := by
      obtain hcall | ⟨hstate, tracker, hcall⟩ :=
        h.stream.restoreConfiguredState_cases hasOutstanding fence <;> rw [hcall]
      · exact hinv
      · exact hinv.of_live (by rw [hstate]; decide) (by simp) rfl
    exact hinv'
  | startPrepare maxCount blockRequest pipelineMax handout =>
    exact hinv.startPrepare maxCount blockRequest pipelineMax handout
  | prepareNextBuffer getBuffer => exact hinv.prepareNextBuffer getBuffer
  | cancelPrepare => exact hinv.cancelPrepare ha
  | tearDown handout disconnect configureQueue => exact hinv.tearDown ha
  | markUnpreparable =>
    exact ⟨hinv.allocated_le, fun _ ↦ .inr rfl, hinv.preparing, hinv.empty⟩
  | getBuffer handout wait getBuffer =>
    have hinv' : Inv ⟨(h.stream.getBuffer handout wait getBuffer).2, h.allocated⟩ := by
      obtain hcall | ⟨hstate, hcall | ⟨buffers, hcall⟩⟩ :=
        h.stream.getBuffer_cases handout wait getBuffer <;> rw [hcall]
      · exact hinv
      · exact hinv.of_live (by rw [hstate]; decide) (by simp) rfl
      · exact hinv.of_same rfl rfl
    exact hinv'
  | returnBuffer buffer timestamp timestampIncreasing =>
    have hinv' : Inv ⟨(h.stream.returnBuffer buffer timestamp timestampIncreasing).2,
        h.allocated⟩ := by
      obtain ⟨-, hcall⟩ | ⟨-, b, hcall, -⟩ :=
        h.stream.returnBuffer_cases buffer timestamp timestampIncreasing <;> rw [hcall]
      · exact hinv
      · apply hinv.of_same
        all_goals
          unfold Camera3Stream.removeOutstandingBuffer
          split <;> rfl
    exact hinv'

/-- The runs without a cancelled preparation and without buffers that are freed after one. -/
abbrev KeepingStep : Preparing F → Label F → Preparing F → Prop := restrict Step Keeps

theorem Inv.run {t : Preparing F} {as : List (Label F)} (hinv : h.Inv)
    (hrun : Run KeepingStep h as t) : t.Inv := by
  refine hrun.invariant (fun s a t hstep hs ↦ ?_) hinv
  obtain ⟨hstep, ha⟩ := hstep
  obtain rfl : s.next a = t := Option.some.inj hstep
  exact hs.next ha

theorem Inv.justified (hinv : h.Inv) (a : Label F) : h.Justified a := by
  cases a with
  | startPrepare maxCount blockRequest pipelineMax handout =>
    intro hok
    obtain ⟨e, hcall, hne⟩ | ⟨hstate, hunprep, ⟨hle, -⟩ | ⟨-, hcall⟩⟩ :=
      h.stream.startPrepare_cases maxCount blockRequest pipelineMax handout
    · rw [hcall] at hok
      exact absurd hok hne
    · rcases hinv.live (by rw [hstate]; decide) with hall | hunprep'
      · exact hle.trans hall
      · rw [hunprep] at hunprep'
        cases hunprep'
    · rw [hcall] at hok
      cases hok
  | _ => trivial

/-- A stream that takes an earlier count for one that is allocated. -/
theorem exists_not_justified (hstate : h.stream.mState = .CONFIGURED)
    (hunprep : h.stream.mStreamUnpreparable = false) (hlt : h.allocated < h.stream.mLastMaxCount) :
    ∃ a, ¬ h.Justified a := by
  refine ⟨.startPrepare 0 true h.stream.mLastMaxCount 0, fun hjust ↦ ?_⟩
  have hcount : Camera3Stream.bufferCount h.stream.mLastMaxCount 0 = h.stream.mLastMaxCount := rfl
  have hok : (h.stream.startPrepare 0 true h.stream.mLastMaxCount 0).1 = .OK := by
    simp [Camera3Stream.startPrepare, hstate, hunprep, hcount]
  exact absurd (hcount ▸ hjust hok) hlt.not_ge

/-- The condition leaves out only calls after which the count is wrong at once. -/
theorem breaks_of_not_keeps (hinv : h.Inv) (ha : ¬ h.Keeps a) : ∃ b, ¬ (h.next a).Justified b := by
  cases a with
  | cancelPrepare =>
    simp only [Keeps, Classical.not_imp, Bool.not_eq_true] at ha
    obtain ⟨hstate, hunprep⟩ := ha
    obtain ⟨-, hne⟩ | ⟨-, hcall⟩ := h.stream.cancelPrepare_cases
    · exact absurd hstate hne
    · have hnext : h.next .cancelPrepare = ⟨h.stream.endPrepare, h.allocated⟩ := by
        simp only [Preparing.next, Camera3Stream.call, hcall]
      rw [hnext]
      exact exists_not_justified rfl hunprep (hinv.preparing hstate).1
  | finishConfiguration configureQueue =>
    simp only [Keeps, Classical.not_imp] at ha
    obtain ⟨hre, rfl, hzero⟩ := ha
    have hprep := h.stream.prep_startTracking
    simp only [Camera3Stream.prep, Prod.mk.injEq] at hprep
    obtain ⟨hno, -⟩ | ⟨-, hcall⟩ := h.stream.finishConfiguration_cases .OK
    · exact absurd hre hno
    · have hnext : h.next (.finishConfiguration .OK) =
          ⟨{ h.stream.startTracking.resetPrepared with mState := .CONFIGURED }, 0⟩ := by
        simp only [Preparing.next, Camera3Stream.call, hcall, if_pos hre, Camera3Stream.reconfigure]
      rw [hnext]
      refine exists_not_justified rfl rfl ?_
      exact (Nat.pos_of_ne_zero hzero).trans_eq hprep.2.1.symm
  | tearDown handout disconnect configureQueue =>
    simp only [Keeps, Classical.not_imp, not_or, not_and] at ha
    obtain ⟨htorn, hzero, hdis, hnot⟩ := ha
    obtain ⟨hno, -⟩ | ⟨-, hcall⟩ :=
      h.stream.tearDown_cases handout disconnect configureQueue
    · exact absurd htorn hno
    rcases hcall with ⟨hd, hcall⟩ | ⟨hd, hne, -⟩ | ⟨-, -, hcall⟩
    · have hnext : h.next (.tearDown handout disconnect configureQueue) = ⟨h.stream, 0⟩ := by
        simp only [Preparing.next, Camera3Stream.call, hcall, if_pos htorn]
      rw [hnext]
      exact exists_not_justified htorn.1 (by simpa using hnot hd) (Nat.pos_of_ne_zero hzero)
    · exact absurd hne (hdis hd)
    · have hnext : h.next (.tearDown handout disconnect configureQueue) = ⟨{ h.stream with
          mPrepared := false, mStreamUnpreparable := false, mState := .CONFIGURED }, 0⟩ := by
        simp only [Preparing.next, Camera3Stream.call, hcall, if_pos htorn]
      rw [hnext]
      exact exists_not_justified rfl rfl (Nat.pos_of_ne_zero hzero)
  | _ => exact absurd trivial ha

/-- In a run that keeps the allocations every `startPrepare` is justified, and a call belongs to
such a run exactly when all that follows it is justified too. -/
theorem justified_iff_keeps {tracker : Option (StatusTracker.State F)} {format dataSpace : ℤ}
    {sized : Bool} {as : List (Label F)}
    (hrun : Run KeepingStep ⟨Camera3Stream.create tracker format dataSpace sized, 0⟩ as h)
    (a : Label F) :
    h.Justified a ∧
      (h.Keeps a ↔ ∀ bs t, Run KeepingStep (h.next a) bs t → ∀ b, t.Justified b) := by
  have hinv := (inv_create tracker format dataSpace sized).run hrun
  refine ⟨hinv.justified a, fun ha bs t ht b ↦ ((hinv.next ha).run ht).justified b, fun hall ↦ ?_⟩
  by_contra ha
  obtain ⟨b, hb⟩ := breaks_of_not_keeps hinv ha
  exact hb (hall [] _ (.nil _) b)

/-! ### Two runs -/

def configured : List (Label Unit) :=
  [.startConfiguration false (.OK, 0), .modify 0 4 35 0, .finishConfiguration .OK]

/-- Two buffers are prepared, and asked for again. -/
theorem justified_iff_keeps_two : ∃ h : Preparing Unit,
    (h.stream.startPrepare 2 true 8 0).1 = .OK ∧ h.Justified (.startPrepare 2 true 8 0) := by
  have hexec : (exec (guarded (fun h a ↦ some (h.next a)) Keeps)
      ⟨Camera3Stream.create none 35 0 true, 0⟩ (configured ++
        [Label.startPrepare 2 true 8 0, Label.prepareNextBuffer (.ok { buffer := some 1 }),
          Label.prepareNextBuffer (.ok { buffer := some 2 })])).map
        (fun h ↦ (h.stream.startPrepare 2 true 8 0).1) = some .OK := by
    decide
  obtain ⟨h, hh, hok⟩ := Option.map_eq_some_iff.mp hexec
  exact ⟨h, hok, (justified_iff_keeps (run_restrict_of_exec hh) _).1⟩

/-- A preparation of four buffers that is cancelled at once. -/
theorem not_justified_cancelled : ∃ as h a,
    Run Step ⟨Camera3Stream.create none 35 0 true, 0⟩ as h ∧ ¬ (h : Preparing Unit).Justified a := by
  let as : List (Label Unit) := configured ++ [.startPrepare 4 true 8 0, .cancelPrepare]
  have hexec : (exec (fun (h : Preparing Unit) a ↦ some (h.next a))
      ⟨Camera3Stream.create none 35 0 true, 0⟩ as).map
        (fun h ↦ ((h.stream.startPrepare 4 true 8 0).1, h.allocated)) = some (.OK, 0) := by
    decide
  obtain ⟨h, hh, hok⟩ := Option.map_eq_some_iff.mp hexec
  obtain ⟨hok, hzero⟩ := Prod.mk.inj hok
  refine ⟨as, h, .startPrepare 4 true 8 0, (run_iff_exec _ _ _ _).mpr hh, fun hjust ↦ ?_⟩
  have hle := hjust hok
  rw [hzero] at hle
  exact absurd hle (by decide)

end Preparing

end VirtualCamera.Stream
