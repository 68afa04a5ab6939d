import VirtualCamera.Stream.Model

namespace VirtualCamera.Stream

variable {F : Type}

/-- A call that is made while the stream is being configured. -/
def Label.Configures : Label F → Prop
  | .modify .. | .startConfiguration .. => True
  | _ => False

def Label.Modifies : Label F → Prop
  | .modify .. => True
  | _ => False

theorem Label.Modifies.configures {a : Label F} (h : a.Modifies) : a.Configures := by
  cases a with
  | modify => trivial
  | _ => cases h

namespace Camera3Stream

/-- `startConfiguration`, what is changed while the stream is configured, and
`cancelConfiguration`. -/
def cancelled (s : Camera3Stream F) (hasOutstanding : Bool) (usage : Status × ℕ)
    (changes : List (Label F)) : Status × Camera3Stream F :=
  (changes.foldl call (s.startConfiguration hasOutstanding usage).2).cancelConfiguration

/-- The fields that `cancelConfiguration` is about, and the registration, are those of before. -/
structure AsBefore (s r : Camera3Stream F) : Prop where
  mState : r.mState = s.mState
  mUsage : r.mUsage = s.mUsage
  max_buffers : r.max_buffers = s.max_buffers
  format : r.format = s.format
  data_space : r.data_space = s.data_space
  mStatusId : r.mStatusId = s.mStatusId
  mStatusTracker : r.mStatusTracker = s.mStatusTracker

variable {s : Camera3Stream F}

/-- Changes while the stream is configured are changes of the four fields. -/
theorem foldl_call_eq_modify (hs : s.mState ∈ [.IN_CONFIG, .IN_RECONFIG]) {as : List (Label F)}
    (has : ∀ a ∈ as, a.Configures) :
    ∃ usage max_buffers format data_space,
      as.foldl call s = s.modify usage max_buffers format data_space := by
  induction as generalizing s with
  | nil => exact ⟨_, _, _, _, rfl⟩
  | cons a as ih =>
    have has' : ∀ a ∈ as, a.Configures := fun a ha ↦ has a (List.mem_cons_of_mem _ ha)
    have ha := has a List.mem_cons_self
    cases a with
    | modify usage max_buffers format data_space =>
      exact ih (s := s.modify usage max_buffers format data_space) hs has'
    | startConfiguration hasOutstanding usage =>
      have hcall : (s.startConfiguration hasOutstanding usage).2 = s := by
        unfold startConfiguration
        rcases List.mem_pair.mp hs with h | h <;> rw [h]
      rw [List.foldl_cons, call, hcall]
      exact ih hs has'
    | _ => cases ha

theorem foldl_call_eq_modify_of_modifies {as : List (Label F)} (has : ∀ a ∈ as, a.Modifies) :
    ∃ usage max_buffers format data_space,
      as.foldl call s = s.modify usage max_buffers format data_space := by
  induction as generalizing s with
  | nil => exact ⟨_, _, _, _, rfl⟩
  | cons a as ih =>
    have ha := has a List.mem_cons_self
    cases a with
    | modify usage max_buffers format data_space =>
      exact ih (s := s.modify usage max_buffers format data_space)
        fun a ha ↦ has a (List.mem_cons_of_mem _ ha)
    | _ => cases ha

/-- The state, the usage and the number of buffers that a cancelled configuration goes back to:
those that were saved when the configuration began, if it has begun already. -/
def unconfigured (s : Camera3Stream F) : StreamState × ℕ × ℕ :=
  match s.mState with
  | .IN_CONFIG => (.CONSTRUCTED, s.mOldUsage, s.mOldMaxBuffers)
  | .IN_RECONFIG => (.CONFIGURED, s.mOldUsage, s.mOldMaxBuffers)
  | .IN_IDLE => (.CONFIGURED, s.mUsage, s.max_buffers)
  | mState => (mState, s.mUsage, s.max_buffers)

/-- The stream that `startConfiguration` returns. -/
theorem started_cases {hasOutstanding : Bool} {usage : Status × ℕ}
    (hstart : (s.startConfiguration hasOutstanding usage).1 = true) :
    s.mState ∈ [.CONSTRUCTED, .CONFIGURED] ∧
        (∃ u, (s.startConfiguration hasOutstanding usage).2 = s.begun u) ∨
      s.mState = .IN_IDLE ∧
        (∃ u, (s.startConfiguration hasOutstanding usage).2 = { s.saveOld with mUsage := u }) ∨
      s.mState ∈ [.IN_CONFIG, .IN_RECONFIG] ∧
        (s.startConfiguration hasOutstanding usage).2 = s := by
  obtain ⟨hcall, hstate⟩ | ⟨hcall, hstate⟩ | hcall := s.startConfiguration_cases hasOutstanding usage
  · rw [hcall] at hstart ⊢
    obtain hbegin | ⟨hidle, hbegin⟩ | ⟨hidle, hbegin⟩ := s.beginConfiguration_cases usage
    · rw [hbegin] at hstart
      cases hstart
    · exact .inr (.inl ⟨hidle, usage.2, by rw [hbegin]⟩)
    · refine .inl ⟨?_, usage.2, by rw [hbegin]⟩
      simp only [List.mem_cons, List.not_mem_nil, or_false] at hstate ⊢
      tauto
  · exact .inr (.inr ⟨hstate, by rw [hcall]⟩)
  · rw [hcall] at hstart
    cases hstart

/-- A configuration that is cancelled, from the stream that `startConfiguration` has returned. -/
theorem foldl_cancelConfiguration (hs : s.mState ∈ [.IN_CONFIG, .IN_RECONFIG, .IN_IDLE])
    {changes : List (Label F)} (hchanges : ∀ a ∈ changes, a.Configures)
    (hidle : s.mState = .IN_IDLE → ∀ a ∈ changes, a.Modifies) :
    ∃ usage max_buffers format data_space,
      changes.foldl call s = s.modify usage max_buffers format data_space ∧
      (changes.foldl call s).cancelConfiguration =
        (.OK, (s.modify usage max_buffers format data_space).restored) := by
  have hfold : ∃ usage max_buffers format data_space,
      changes.foldl call s = s.modify usage max_buffers format data_space := by
    by_cases h : s.mState = .IN_IDLE
    · exact foldl_call_eq_modify_of_modifies (hidle h)
    · refine foldl_call_eq_modify ?_ hchanges
      simp only [List.mem_cons, List.not_mem_nil, or_false] at hs ⊢
      tauto
  obtain ⟨usage, max_buffers, format, data_space, hfold⟩ := hfold
  refine ⟨usage, max_buffers, format, data_space, hfold, ?_⟩
  rw [hfold]
  obtain ⟨hcall, -⟩ | hcall :=
    (s.modify usage max_buffers format data_space).cancelConfiguration_cases
  · exact hcall
  · unfold cancelConfiguration at hcall ⊢
    simp only [List.mem_cons, List.not_mem_nil, or_false] at hs
    rcases hs with h | h | h <;> simp only [modify, h]

theorem stopTracking_of_noId (h : s.mStatusId = NO_STATUS_ID) : s.stopTracking = s := if_pos h

theorem begun_saved (s : Camera3Stream F) (u : ℕ) :
    (s.begun u).mOldUsage = s.mUsage ∧ (s.begun u).mOldMaxBuffers = s.max_buffers := by
  unfold begun stopTracking
  split <;> exact ⟨rfl, rfl⟩

theorem begun_tracking (h : s.mStatusId = NO_STATUS_ID) (u : ℕ) :
    (s.begun u).mStatusId = s.mStatusId ∧ (s.begun u).mStatusTracker = s.mStatusTracker := by
  rw [begun, stopTracking_of_noId (s := { s.saveOld with mUsage := u }) h]
  exact ⟨rfl, rfl⟩

/-- What is restored whatever was changed, and what is as before if it was not changed or not
given up by `startConfiguration`. -/
theorem cancelled_restores {hasOutstanding : Bool} {usage : Status × ℕ} {changes : List (Label F)}
    (hstart : (s.startConfiguration hasOutstanding usage).1 = true)
    (hchanges : ∀ a ∈ changes, a.Configures)
    (hidle : s.mState = .IN_IDLE → ∀ a ∈ changes, a.Modifies) :
    let changed := changes.foldl call (s.startConfiguration hasOutstanding usage).2
    let r := s.cancelled hasOutstanding usage changes
    r.1 = .OK ∧ (r.2.mState, r.2.mUsage, r.2.max_buffers) = s.unconfigured ∧
      (changed.format = s.format → r.2.format = s.format) ∧
      (changed.data_space = s.data_space → r.2.data_space = s.data_space) ∧
      (s.mStatusId = NO_STATUS_ID ∨ s.mState ∉ [.CONSTRUCTED, .CONFIGURED] →
        r.2.mStatusId = s.mStatusId ∧ r.2.mStatusTracker = s.mStatusTracker) := by
  unfold cancelled
  obtain ⟨hstate, u, hstarted⟩ | ⟨hstate, u, hstarted⟩ | ⟨hstate, hstarted⟩ := started_cases hstart
  · rw [hstarted]
    have hbegun : (s.begun u).mState ∈ [.IN_CONFIG, .IN_RECONFIG, .IN_IDLE] ∧
        (s.begun u).mState ≠ .IN_IDLE := by
      dsimp only [begun]
      split <;> exact ⟨by decide, by decide⟩
    obtain ⟨u', b', f', d', hchanged, hcancel⟩ :=
      foldl_cancelConfiguration hbegun.1 hchanges fun h ↦ absurd h hbegun.2
    obtain ⟨hu, hb⟩ := s.begun_saved u
    rw [hcancel, hchanged]
    refine ⟨rfl, ?_, id, id, fun htracked ↦ ?_⟩
    · simp only [restored, modify, unconfigured, hu, hb]
      rcases List.mem_pair.mp hstate with h | h <;> simp [begun, h]
    · exact begun_tracking (htracked.resolve_right (not_not.mpr hstate)) u
  · rw [hstarted]
    obtain ⟨u', b', f', d', hchanged, hcancel⟩ := foldl_cancelConfiguration
      (s := { s.saveOld with mUsage := u }) (by simp [saveOld, hstate]) hchanges fun _ ↦ hidle hstate
    rw [hcancel, hchanged]
    refine ⟨rfl, ?_, id, id, fun _ ↦ ⟨rfl, rfl⟩⟩
    simp [restored, modify, unconfigured, saveOld, hstate]
  · rw [hstarted]
    obtain ⟨u', b', f', d', hchanged, hcancel⟩ := foldl_cancelConfiguration (s := s)
      (by rcases List.mem_pair.mp hstate with h | h <;> rw [h] <;> decide) hchanges hidle
    rw [hcancel, hchanged]
    refine ⟨rfl, ?_, id, id, fun _ ↦ ⟨rfl, rfl⟩⟩
    rcases List.mem_pair.mp hstate with h | h <;> simp [restored, modify, unconfigured, h]

/-- A stream that is configured again, with another number of buffers. -/
theorem cancelled_restores_configured :
    let s : Camera3Stream Unit :=
      { format := 35, data_space := 0, mState := .CONFIGURED, mUsage := 3, max_buffers := 4 }
    (s.cancelled false (.OK, 1) [.modify 7 8 35 0]).2.mUsage = 3 := by
  intro s
  have hstart : (s.startConfiguration false (.OK, 1)).1 = true := rfl
  have hchanges : ∀ a ∈ [(.modify 7 8 35 0 : Label Unit)], a.Configures := by
    intro a ha
    rw [List.mem_singleton.mp ha]
    trivial
  have hidle : s.mState = .IN_IDLE → ∀ a ∈ [(.modify 7 8 35 0 : Label Unit)], a.Modifies :=
    fun h ↦ (by cases h)
  exact (Prod.mk.inj (Prod.mk.inj (cancelled_restores hstart hchanges hidle).2.1).2).1

/-- An input stream in its idle state is configured afterwards, and an output stream that was
given another format has that and is not tracked. -/
theorem not_asBefore :
    (∃ (s : Camera3Stream Unit) (usage : Status × ℕ), s.mState = .IN_IDLE ∧
        (s.startConfiguration false usage).1 = true ∧
        ¬ AsBefore s (s.cancelled false usage []).2) ∧
      ∃ (s : Camera3Stream Unit) (usage : Status × ℕ) (change : Label Unit),
        s.mState = .CONFIGURED ∧ change.Modifies ∧
        (s.startConfiguration false usage).1 = true ∧
        (s.cancelled false usage [change]).2.format ≠ s.format ∧
        (s.cancelled false usage [change]).2.mStatusId ≠ s.mStatusId := by
  refine ⟨⟨{ format := 35, data_space := 0, mState := .IN_IDLE }, (.OK, 0), rfl, rfl, fun h ↦ ?_⟩,
    { format := 35, data_space := 0, mState := .CONFIGURED, mStatusId := 2 }, (.OK, 0),
    .modify 0 4 34 0, rfl, trivial, rfl, by decide, by decide⟩
  exact absurd h.mState (by decide)

end Camera3Stream

end VirtualCamera.Stream
