import Mathlib.Data.Finset.Max
import VirtualCamera.Stream.Model

namespace VirtualCamera.Stream

open Library Library.Transition

variable {F : Type}

/-- A stream with what its calls of `returnBuffer` have passed on, in their order. -/
structure Returning (F : Type) where
  stream : Camera3Stream F
  passed : List (StreamBuffer × ℤ) := []

/-- What a call passes on. -/
def Camera3Stream.passedOn (s : Camera3Stream F) : Label F → Option (StreamBuffer × ℤ)
  | .returnBuffer buffer timestamp timestampIncreasing =>
    (s.returnBuffer buffer timestamp timestampIncreasing).1.map fun b ↦ (b, timestamp)
  | _ => none

namespace Returning

def next (s : Returning F) (a : Label F) : Returning F :=
  ⟨s.stream.call a, s.passed ++ (s.stream.passedOn a).toList⟩

def Step : Returning F → Label F → Returning F → Prop := ofPartial fun s a ↦ some (s.next a)

/-- The timestamps of the buffers that were passed on as good ones. -/
def delivered (s : Returning F) : List ℤ :=
  (s.passed.filter fun p ↦ p.1.status = .OK ∧ p.2 ≠ 0).map Prod.snd

def NotBelow (s : Returning F) : Label F → Prop
  | .returnBuffer buffer timestamp _ =>
    s.stream.isOutstandingBuffer buffer = true → ∀ d ∈ s.delivered, d ≤ timestamp
  | _ => True

instance (s : Returning F) : DecidablePred s.NotBelow
  | .returnBuffer _ timestamp _ => inferInstanceAs (Decidable (_ → ∀ d ∈ s.delivered, d ≤ timestamp))
  | .startConfiguration .. | .modify .. | .finishConfiguration .. | .cancelConfiguration
  | .forceToIdle .. | .restoreConfiguredState .. | .startPrepare .. | .prepareNextBuffer ..
  | .cancelPrepare | .tearDown .. | .markUnpreparable | .getBuffer .. => .isTrue trivial

end Returning

/-- `returnBuffer` is called with `timestampIncreasing` only. -/
def Label.Increasing : Label F → Prop
  | .returnBuffer _ _ timestampIncreasing => timestampIncreasing = true
  | _ => True

instance : DecidablePred (Label.Increasing (F := F))
  | .returnBuffer _ _ timestampIncreasing => inferInstanceAs (Decidable (timestampIncreasing = true))
  | .startConfiguration .. | .modify .. | .finishConfiguration .. | .cancelConfiguration
  | .forceToIdle .. | .restoreConfiguredState .. | .startPrepare .. | .prepareNextBuffer ..
  | .cancelPrepare | .tearDown .. | .markUnpreparable | .getBuffer .. => .isTrue trivial

/-! ### The last timestamp -/

namespace Camera3Stream

theorem mLastTimestamp_stopTracking (s : Camera3Stream F) :
    s.stopTracking.mLastTimestamp = s.mLastTimestamp := by
  unfold stopTracking
  split <;> rfl

theorem mLastTimestamp_startTracking (s : Camera3Stream F) :
    s.startTracking.mLastTimestamp = s.mLastTimestamp := by
  unfold startTracking
  split
  · rfl
  · split <;> rfl

theorem mLastTimestamp_startConfiguration (s : Camera3Stream F) (hasOutstanding : Bool)
    (usage : Status × ℕ) :
    (s.startConfiguration hasOutstanding usage).2.mLastTimestamp = s.mLastTimestamp := by
  obtain ⟨h, -⟩ | ⟨h, -⟩ | h := s.startConfiguration_cases hasOutstanding usage <;> rw [h]
  obtain h | ⟨-, h⟩ | ⟨-, h⟩ := s.beginConfiguration_cases usage <;> rw [h]
  · rfl
  · rfl
  · exact mLastTimestamp_stopTracking _

theorem mLastTimestamp_finishConfiguration (s : Camera3Stream F) (configureQueue : Status) :
    (s.finishConfiguration configureQueue).2.2.mLastTimestamp = s.mLastTimestamp := by
  obtain ⟨-, h | ⟨-, h⟩⟩ | ⟨-, h⟩ := s.finishConfiguration_cases configureQueue <;> rw [h]
  · exact s.mLastTimestamp_startTracking
  · obtain ⟨m, h, -⟩ := s.startTracking.reconfigure_cases configureQueue
    rw [h]
    exact s.mLastTimestamp_startTracking

/-- Only `returnBuffer` writes it. -/
theorem mLastTimestamp_call (s : Camera3Stream F) {a : Label F}
    (ha : ∀ b t i, a ≠ .returnBuffer b t i) : (s.call a).mLastTimestamp = s.mLastTimestamp := by
  cases a with
  | startConfiguration hasOutstanding usage =>
    exact s.mLastTimestamp_startConfiguration hasOutstanding usage
  | modify usage max_buffers format data_space => rfl
  | finishConfiguration configureQueue =>
    exact s.mLastTimestamp_finishConfiguration configureQueue
  | cancelConfiguration =>
    obtain ⟨h, -⟩ | h := s.cancelConfiguration_cases
    · rw [call, h]
      rfl
    · rw [call, h]
  | forceToIdle hasOutstanding fence =>
    obtain h | ⟨-, tracker, h⟩ := s.forceToIdle_cases hasOutstanding fence <;> rw [call, h]
  | restoreConfiguredState hasOutstanding fence =>
    obtain h | ⟨-, tracker, h⟩ := s.restoreConfiguredState_cases hasOutstanding fence <;>
      rw [call, h]
  | startPrepare maxCount blockRequest pipelineMax handout =>
    obtain ⟨e, h, -⟩ | ⟨-, -, ⟨-, h⟩ | ⟨-, h⟩⟩ :=
      s.startPrepare_cases maxCount blockRequest pipelineMax handout
    · rw [call, h]
    · rw [call, h]
    · rw [call, h]
      rfl
  | prepareNextBuffer next =>
    obtain ⟨-, h | ⟨-, -, b, h⟩⟩ | ⟨-, b, h⟩ := s.prepareNextBuffer_cases next <;>
      rw [call, h] <;> rfl
  | cancelPrepare =>
    obtain ⟨h, -⟩ | ⟨-, h⟩ := s.cancelPrepare_cases
    · rw [call, h]
    · rw [call, h]
      rfl
  | tearDown handout disconnect configureQueue =>
    obtain ⟨-, h | ⟨-, h⟩⟩ | ⟨-, ⟨-, h⟩ | ⟨-, -, h⟩ | ⟨-, -, h⟩⟩ :=
      s.tearDown_cases handout disconnect configureQueue <;> rw [call, h]
  | markUnpreparable => rfl
  | getBuffer handout wait next =>
    obtain h | ⟨-, h | ⟨buffers, h⟩⟩ := s.getBuffer_cases handout wait next <;> rw [call, h]
  | returnBuffer b t i => exact absurd rfl (ha b t i)

theorem passedOn_eq_none (s : Camera3Stream F) {a : Label F}
    (ha : ∀ b t i, a ≠ .returnBuffer b t i) : s.passedOn a = none := by
  cases a with
  | returnBuffer b t i => exact absurd rfl (ha b t i)
  | _ => rfl

end Camera3Stream

/-! ### Runs -/

namespace Returning

variable {s : Returning F} {a : Label F}

theorem delivered_next (s : Returning F) (a : Label F) :
    (s.next a).delivered = s.delivered ++ (((s.stream.passedOn a).toList.filter
      fun p ↦ p.1.status = .OK ∧ p.2 ≠ 0).map Prod.snd) := by
  simp only [delivered, next, List.filter_append, List.map_append]

/-- The last timestamp is no lower than those of the buffers delivered. -/
structure Ordered (s : Returning F) : Prop where
  increasing : s.delivered.Pairwise (· < ·)
  le_last : ∀ d ∈ s.delivered, d ≤ s.stream.mLastTimestamp

theorem Ordered.next (h : s.Ordered) (hinc : a.Increasing) (ha : s.NotBelow a) :
    (s.next a).Ordered := by
  by_cases hreturn : ∀ b t i, a ≠ .returnBuffer b t i
  · have hdelivered : (s.next a).delivered = s.delivered := by
      rw [delivered_next, s.stream.passedOn_eq_none hreturn]
      exact List.append_nil _
    constructor
    · rw [hdelivered]
      exact h.increasing
    · rw [hdelivered, Returning.next, s.stream.mLastTimestamp_call hreturn]
      exact h.le_last
  push Not at hreturn
  obtain ⟨buffer, timestamp, i, rfl⟩ := hreturn
  obtain rfl : i = true := hinc
  obtain ⟨-, hcall⟩ | ⟨hout, b, hcall, hlast⟩ :=
    s.stream.returnBuffer_cases buffer timestamp true
  · have hsame : s.next (.returnBuffer buffer timestamp true) = s := by
      simp only [Returning.next, Camera3Stream.call, Camera3Stream.passedOn, hcall, Option.map_none,
        Option.toList_none, List.append_nil]
    rwa [hsame]
  have hle := ha hout
  have hnew : ∀ d ∈ (([(b, timestamp)].filter fun p ↦ p.1.status = .OK ∧ p.2 ≠ 0).map Prod.snd),
      d = timestamp ∧ s.stream.mLastTimestamp < timestamp := by
    intro d hd
    simp only [List.mem_map, List.mem_filter, List.mem_singleton, decide_eq_true_eq] at hd
    obtain ⟨p, ⟨rfl, hstatus, hzero⟩, rfl⟩ := hd
    exact ⟨rfl, hlast rfl hstatus hzero⟩
  have hdelivered := delivered_next s (.returnBuffer buffer timestamp true)
  simp only [Camera3Stream.passedOn, hcall, Option.map_some, Option.toList_some] at hdelivered
  constructor
  · rw [hdelivered, List.pairwise_append]
    refine ⟨h.increasing, (List.pairwise_singleton _ _).filter _ |>.map _ (fun _ _ h ↦ h), ?_⟩
    intro d hd d' hd'
    obtain ⟨rfl, hlt⟩ := hnew d' hd'
    exact (h.le_last d hd).trans_lt hlt
  · have hlast' : (s.next (.returnBuffer buffer timestamp true)).stream.mLastTimestamp =
        timestamp := by
      rw [Returning.next, Camera3Stream.call, hcall]
    rw [hlast', hdelivered]
    intro d hd
    rcases List.mem_append.mp hd with hd | hd
    · exact hle d hd
    · exact (hnew d hd).1.le

/-- The runs in which no call goes below what was delivered. -/
abbrev OrderedStep : Returning F → Label F → Returning F → Prop :=
  restrict Step fun s a ↦ a.Increasing ∧ s.NotBelow a

theorem Ordered.run {t : Returning F} {as : List (Label F)} (h : s.Ordered)
    (hrun : Run OrderedStep s as t) : t.Ordered := by
  refine hrun.invariant (fun s a t hstep hs ↦ ?_) h
  obtain ⟨hstep, hinc, ha⟩ := hstep
  obtain rfl : s.next a = t := Option.some.inj hstep
  exact hs.next hinc ha

theorem ordered_create (tracker : Option (StatusTracker.State F)) (format dataSpace : ℤ)
    (sized : Bool) : Ordered ⟨Camera3Stream.create tracker format dataSpace sized, []⟩ :=
  ⟨List.Pairwise.nil, fun _ hd ↦ absurd hd List.not_mem_nil⟩

/-- The good buffers have increasing timestamps when no buffer, good or not, goes back. -/
theorem increasing_of_run {tracker : Option (StatusTracker.State F)} {format dataSpace : ℤ}
    {sized : Bool} {as : List (Label F)}
    (hrun : Run OrderedStep ⟨Camera3Stream.create tracker format dataSpace sized, []⟩ as s) :
    s.delivered.Pairwise (· < ·) :=
  ((ordered_create tracker format dataSpace sized).run hrun).increasing

/-! ### A buffer that goes back -/

theorem ne_zero_of_mem_delivered {d : ℤ} (hd : d ∈ s.delivered) : d ≠ 0 := by
  obtain ⟨p, hp, rfl⟩ := List.mem_map.mp hd
  exact (of_decide_eq_true (List.mem_filter.mp hp).2).2

/-- A good buffer that is above the last timestamp is delivered. -/
theorem delivered_of_lt {b : StreamBuffer} {timestamp : ℤ}
    (hout : s.stream.isOutstandingBuffer b = true) (hstatus : b.status = .OK)
    (hzero : timestamp ≠ 0) (hlt : s.stream.mLastTimestamp < timestamp) :
    (s.next (.returnBuffer b timestamp true)).delivered = s.delivered ++ [timestamp] := by
  have hlast : (s.stream.removeOutstandingBuffer b).mLastTimestamp = s.stream.mLastTimestamp := by
    unfold Camera3Stream.removeOutstandingBuffer
    split <;> rfl
  have hpassed : s.stream.passedOn (.returnBuffer b timestamp true) = some (b, timestamp) := by
    rw [Camera3Stream.passedOn, Camera3Stream.returnBuffer, hout, Bool.not_true,
      if_neg Bool.false_ne_true]
    dsimp only
    rw [hlast, if_neg (fun h ↦ absurd h.2.2 hlt.not_ge), Option.map_some]
  rw [delivered_next, hpassed, Option.toList_some, List.filter_cons_of_pos (by simp [hstatus, hzero])]
  rfl

/-- The next buffer that is handed out. -/
theorem exists_getBuffer (hstate : s.stream.mState = .CONFIGURED) :
    ∃ (a : Label F) (b : StreamBuffer), OrderedStep s a (s.next a) ∧
      (s.next a).stream.isOutstandingBuffer b = true ∧ b.status = .OK ∧
      (s.next a).delivered = s.delivered ∧
      (s.next a).stream.mLastTimestamp = s.stream.mLastTimestamp := by
  let b : StreamBuffer := { buffer := some 0 }
  let a : Label F := .getBuffer (s.stream.max_buffers + 1) (.OK, 0) (.ok b)
  have hcall : s.stream.call a =
      { s.stream with mOutstandingBuffers := s.stream.mOutstandingBuffers ++ [0] } := by
    simp [a, b, Camera3Stream.call, Camera3Stream.getBuffer, hstate]
  refine ⟨a, b, ⟨rfl, trivial, trivial⟩, ?_, rfl, ?_, ?_⟩
  · simp [next, hcall, b, Camera3Stream.isOutstandingBuffer]
  · rw [delivered_next]
    exact List.append_nil _
  · rw [next, hcall]

/-- What a buffer below those delivered leaves behind: it is not delivered, and the last timestamp
has gone back. -/
theorem next_below (h : s.Ordered) {b : StreamBuffer} {timestamp d : ℤ}
    (hout : s.stream.isOutstandingBuffer b = true) (hd : d ∈ s.delivered) (hlt : timestamp < d) :
    (s.next (.returnBuffer b timestamp true)).delivered = s.delivered ∧
      (s.next (.returnBuffer b timestamp true)).stream.mLastTimestamp = timestamp ∧
      (s.next (.returnBuffer b timestamp true)).stream.mState = s.stream.mState := by
  obtain ⟨hnot, -⟩ | ⟨-, b', hcall, hlast⟩ := s.stream.returnBuffer_cases b timestamp true
  · rw [hout] at hnot
    cases hnot
  have hfilter : ([(b', timestamp)].filter fun p ↦ p.1.status = .OK ∧ p.2 ≠ 0) = [] := by
    apply List.filter_cons_of_neg
    intro hgood
    obtain ⟨hstatus, hzero⟩ := of_decide_eq_true hgood
    exact absurd (hlast rfl hstatus hzero) (hlt.trans_le (h.le_last d hd)).not_gt
  refine ⟨?_, ?_, ?_⟩
  · rw [delivered_next, Camera3Stream.passedOn, hcall, Option.map_some, Option.toList_some, hfilter]
    exact List.append_nil _
  · rw [next, Camera3Stream.call, hcall]
  · rw [next, Camera3Stream.call, hcall]
    unfold Camera3Stream.removeOutstandingBuffer
    split <;> rfl

/-- The condition leaves out only calls after which the order can be broken, by calls that meet it
again. -/
theorem breaks_of_below (h : s.Ordered) (hstate : s.stream.mState = .CONFIGURED)
    {b : StreamBuffer} {timestamp : ℤ}
    (hbelow : ¬ s.NotBelow (.returnBuffer b timestamp true)) :
    ∃ as t, Run OrderedStep (s.next (.returnBuffer b timestamp true)) as t ∧
      ¬ t.delivered.Pairwise (· < ·) := by
  simp only [NotBelow, not_forall, not_le] at hbelow
  obtain ⟨hout, d, hd, hlt⟩ := hbelow
  obtain ⟨hdelivered, hlast, hstate₁⟩ := next_below h hout hd hlt
  obtain ⟨top, htop, hmax⟩ := s.delivered.toFinset.exists_max_image id
    ⟨d, List.mem_toFinset.mpr hd⟩
  rw [List.mem_toFinset] at htop
  have hmax' : ∀ d' ∈ s.delivered, d' ≤ top := fun d' hd' ↦ hmax d' (List.mem_toFinset.mpr hd')
  obtain ⟨a, b', hget, hout', hstatus, hdelivered', hlast'⟩ :=
    exists_getBuffer (hstate₁.trans hstate)
  generalize hs : (s.next (.returnBuffer b timestamp true)).next a = s₂ at *
  rw [hdelivered] at hdelivered'
  have hreturn : OrderedStep s₂ (.returnBuffer b' top true) (s₂.next (.returnBuffer b' top true)) :=
    ⟨rfl, rfl, fun _ ↦ hdelivered' ▸ hmax'⟩
  refine ⟨_, _, .cons hget (.one hreturn), fun hincreasing ↦ ?_⟩
  have hlt' : s₂.stream.mLastTimestamp < top := by
    rw [hlast', hlast]
    exact hlt.trans_le (hmax' d hd)
  rw [delivered_of_lt hout' hstatus (ne_zero_of_mem_delivered htop) hlt', hdelivered',
    List.pairwise_append] at hincreasing
  exact lt_irrefl top (hincreasing.2.2 top htop top List.mem_cons_self)

/-! ### Two runs -/

/-- Three buffers are handed out after the configuration. -/
def threeBuffers : List (Label Unit) :=
  [.startConfiguration false (.OK, 0), .modify 0 4 35 0, .finishConfiguration .OK,
    .getBuffer 0 (.OK, 0) (.ok { buffer := some 1 }),
    .getBuffer 1 (.OK, 0) (.ok { buffer := some 2 }),
    .getBuffer 2 (.OK, 0) (.ok { buffer := some 3 })]

theorem increasing_of_run_two : ([100, 200] : List ℤ).Pairwise (· < ·) := by
  have hexec : (exec (guarded (fun s a ↦ some (s.next a)) fun s a ↦ a.Increasing ∧ s.NotBelow a)
      ⟨Camera3Stream.create none 35 0 true, []⟩ (threeBuffers ++
        [Label.returnBuffer { buffer := some 1 } 100 true,
          Label.returnBuffer { buffer := some 2 } 200 true])).map delivered = some [100, 200] := by
    decide
  obtain ⟨t, ht, hd⟩ := Option.map_eq_some_iff.mp hexec
  exact hd ▸ increasing_of_run (run_restrict_of_exec ht)

/-- The buffer in the middle is rejected, and after it the timestamps start again from its own. -/
theorem not_increasing_back : ∃ as s, Run Step ⟨Camera3Stream.create none 35 0 true, []⟩ as s ∧
    (∀ a ∈ as, a.Increasing) ∧ ¬ (s : Returning Unit).delivered.Pairwise (· < ·) := by
  let as : List (Label Unit) := threeBuffers ++
    [.returnBuffer { buffer := some 1 } 100 true, .returnBuffer { buffer := some 2 } 50 true,
      .returnBuffer { buffer := some 3 } 60 true]
  have hexec : (exec (fun (s : Returning Unit) a ↦ some (s.next a))
      ⟨Camera3Stream.create none 35 0 true, []⟩ as).map delivered = some [100, 60] := by
    decide
  obtain ⟨t, ht, hd⟩ := Option.map_eq_some_iff.mp hexec
  refine ⟨as, t, (run_iff_exec _ _ _ _).mpr ht, by decide, ?_⟩
  rw [hd]
  decide

end Returning

end VirtualCamera.Stream
