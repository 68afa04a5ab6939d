import VirtualCamera.StatusTracker.Model

namespace VirtualCamera.StatusTracker

open Library Library.Transition

variable {F : Type} {merge : F → F → F}

/-! ### Alternating states -/

/-- A list of states that each differ from the one before, from a state to a state. -/
abbrev Alternates : ComponentState → List ComponentState → ComponentState → Prop :=
  Run fun s a t ↦ a = t ∧ s ≠ t

/-- What is notified after an idle state is active, idle and so on. -/
theorem Alternates.active_iff {first last : ComponentState} {l : List ComponentState}
    (h : Alternates first l last) {i : ℕ} {state : ComponentState} (hi : l[i]? = some state) :
    state = .ACTIVE ↔ (i % 2 = 0 ↔ first = .IDLE) := by
  induction h generalizing i with
  | nil s => cases hi
  | @cons s t u a as hs hrest ih =>
    obtain ⟨rfl, hne⟩ := hs
    cases i with
    | zero =>
      obtain rfl : a = state := Option.some.inj hi
      cases s <;> cases a <;> simp at hne ⊢
    | succ i =>
      rw [ih hi]
      cases s <;> cases a <;> simp at hne ⊢ <;> omega

theorem Alternates.getLastD {first last : ComponentState} {l : List ComponentState}
    (h : Alternates first l last) : l.getLastD first = last := by
  induction h with
  | nil s => rfl
  | cons hs _ ih =>
    obtain ⟨rfl, _⟩ := hs
    rw [List.getLastD_cons]
    exact ih

theorem alternates_one (s t : ComponentState) :
    Alternates s (if t ≠ s then [t] else []) t := by
  split
  · rename_i h
    exact .one ⟨rfl, h.symm⟩
  · rename_i h
    rw [not_not.mp h]
    exact .nil s

/-! ### What the calls say -/

def Label.Iterates : Label F → Prop
  | .threadLoop _ _ => True
  | _ => False

/-- What there is to know of the components, as it follows from the calls alone: those that
are registered, the marks that no iteration has seen, and those that one saw while their
component was registered. -/
structure History (F : Type) where
  added : ℤ := 0
  registered : List ℤ := []
  waiting : List (StateChange F) := []
  processed : List (StateChange F) := []

def lastState (marks : List (StateChange F)) (id : ℤ) : ComponentState :=
  ((marks.filter (·.id = id)).getLast?.map (·.state)).getD .IDLE

def mergedFence (merge : F → F → F) (mIdleFence : F) (marks : List (StateChange F)) : F :=
  (marks.map (·.fence)).foldl merge mIdleFence

namespace History

/-- The marks that the next iteration will process. -/
def known (h : History F) : List (StateChange F) := h.waiting.filter (·.id ∈ h.registered)

def after (h : History F) : Label F → History F
  | .addComponent =>
    { h with added := h.added + 1, registered := h.registered ++ [h.added] }
  | .removeComponent id => { h with registered := h.registered.filter (· ≠ id) }
  | .markComponent id state componentFence =>
    { h with waiting := h.waiting ++ [⟨id, state, componentFence⟩] }
  | .threadLoop _ _ => { h with waiting := [], processed := h.processed ++ h.known }
  | .componentsChanged | .parentDies => h

def of (ls : List (Label F)) : History F := ls.foldl after {}

/-- A registered component is active by its last mark, or the fences of all marks together have
not signalled. -/
def Active (merge : F → F → F) (mIdleFence : F) (h : History F) (getSignalTime : F → ℤ) : Prop :=
  (∃ id ∈ h.registered, lastState h.processed id = .ACTIVE) ∨
    getSignalTime (mergedFence merge mIdleFence h.processed) = INT64_MAX

end History

theorem lastState_append (marks : List (StateChange F)) (mark : StateChange F) (id : ℤ) :
    lastState (marks ++ [mark]) id = if mark.id = id then mark.state else lastState marks id := by
  unfold lastState
  rw [List.filter_append]
  split
  · rename_i he
    rw [List.filter_cons_of_pos (by simpa using he), List.filter_nil, List.getLast?_concat]
    rfl
  · rename_i hne
    rw [List.filter_cons_of_neg (by simpa using hne), List.filter_nil, List.append_nil]

theorem lastState_of_unmarked {marks : List (StateChange F)} {id : ℤ}
    (h : ∀ mark ∈ marks, mark.id ≠ id) : lastState marks id = .IDLE := by
  have hnil : marks.filter (·.id = id) = [] :=
    List.filter_eq_nil_iff.mpr fun mark hm ↦ by simpa using h mark hm
  rw [lastState, hnil]
  rfl

/-! ### An iteration -/

theorem getDeviceStateLocked_eq_active (mStates : KeyedVector ℤ ComponentState) (mIdleFence : F)
    (getSignalTime : F → ℤ) :
    getDeviceStateLocked mStates mIdleFence getSignalTime = .ACTIVE ↔
      (∃ id, mStates.find? id = some .ACTIVE) ∨ getSignalTime mIdleFence = INT64_MAX := by
  have hany : mStates.values.any (· = .ACTIVE) = true ↔
      ∃ id, mStates.find? id = some .ACTIVE := by
    simp only [List.any_eq_true, decide_eq_true_eq, exists_eq_right, KeyedVector.mem_values]
  unfold getDeviceStateLocked
  rw [← hany]
  split
  · simp [*]
  · dsimp only
    split <;> simp_all

/-- The transitions so far lead from the last state of the device to the present one. -/
theorem alternates_update {l : Loop F} {mDeviceState : ComponentState}
    (h : Alternates mDeviceState l.mStateTransitions l.prevState) (getSignalTime : ℕ → F → ℤ)
    (newState : StateChange F) :
    Alternates mDeviceState (update merge getSignalTime l newState).mStateTransitions
      (update merge getSignalTime l newState).prevState := by
  unfold update
  split
  · exact h
  · have hone := h.trans (alternates_one l.prevState (getDeviceStateLocked
      (l.mStates.add newState.id newState.state) (merge l.mIdleFence newState.fence)
        (getSignalTime l.evaluations)))
    dsimp only
    split
    · rename_i hne
      rwa [if_pos hne] at hone
    · rename_i hne
      rwa [if_neg hne, List.append_nil] at hone

theorem alternates_collect (merge : F → F → F) (s : State F) (getSignalTime : ℕ → F → ℤ) :
    Alternates s.mDeviceState (s.collect merge getSignalTime).mStateTransitions
      (s.collect merge getSignalTime).prevState := by
  have hfold : ∀ (queue : List (StateChange F)) (l : Loop F),
      Alternates s.mDeviceState l.mStateTransitions l.prevState →
        Alternates s.mDeviceState (queue.foldl (update merge getSignalTime) l).mStateTransitions
          (queue.foldl (update merge getSignalTime) l).prevState := by
    intro queue
    induction queue with
    | nil => exact fun _ h ↦ h
    | cons newState queue ih =>
      exact fun l h ↦ ih _ (alternates_update h getSignalTime newState)
  exact hfold s.mPendingChangeQueue (s.firstPass getSignalTime) (alternates_one _ _)

/-- The components and the fence are what the marks make them, and the device was last looked
at after the last of those that belong to this iteration. -/
structure Loop.Seen (merge : F → F → F) (mIdleFence : F) (h : History F)
    (getSignalTime : ℕ → F → ℤ) (marks : List (StateChange F)) (l : Loop F) : Prop where
  states : ∀ id, l.mStates.find? id =
    if id ∈ h.registered then some (lastState (h.processed ++ marks) id) else none
  fence : l.mIdleFence = mergedFence merge mIdleFence (h.processed ++ marks)
  evaluations : l.evaluations = marks.length + 1
  prevState : l.prevState =
    getDeviceStateLocked l.mStates l.mIdleFence (getSignalTime marks.length)

theorem Loop.Seen.update {mIdleFence : F} {h : History F} {getSignalTime : ℕ → F → ℤ}
    {marks : List (StateChange F)} {l : Loop F}
    (hl : l.Seen merge mIdleFence h getSignalTime marks) (mark : StateChange F) :
    (update merge getSignalTime l mark).Seen merge mIdleFence h getSignalTime
      (marks ++ [mark].filter (·.id ∈ h.registered)) := by
  by_cases hin : mark.id ∈ h.registered
  · have hfind := hl.states mark.id
    rw [if_pos hin] at hfind
    rw [List.filter_cons_of_pos (by simpa using hin), List.filter_nil]
    unfold StatusTracker.update
    rw [hfind]
    refine ⟨fun id ↦ ?_, ?_, ?_, ?_⟩
    · rw [← List.append_assoc, lastState_append]
      by_cases hid : id = mark.id
      · subst hid
        rw [KeyedVector.find?_add_self, if_pos hin, if_pos rfl]
      · rw [KeyedVector.find?_add_ne _ hid, hl.states, if_neg (Ne.symm hid)]
    · rw [← List.append_assoc, mergedFence, List.map_append, List.foldl_append, hl.fence]
      rfl
    · rw [List.length_append, hl.evaluations]
      rfl
    · rw [List.length_append, hl.evaluations]
      rfl
  · have hfind := hl.states mark.id
    rw [if_neg hin] at hfind
    rw [List.filter_cons_of_neg (by simpa using hin), List.filter_nil, List.append_nil]
    unfold StatusTracker.update
    rw [hfind]
    exact hl

theorem Loop.Seen.foldl {mIdleFence : F} {h : History F} {getSignalTime : ℕ → F → ℤ}
    {marks : List (StateChange F)} {l : Loop F}
    (hl : l.Seen merge mIdleFence h getSignalTime marks) (queue : List (StateChange F)) :
    (queue.foldl (StatusTracker.update merge getSignalTime) l).Seen merge mIdleFence h
      getSignalTime (marks ++ queue.filter (·.id ∈ h.registered)) := by
  induction queue generalizing l marks with
  | nil => rwa [List.filter_nil, List.append_nil]
  | cons mark queue ih =>
    have hrest := ih (hl.update mark)
    rwa [List.append_assoc, ← List.filter_append] at hrest

/-! ### Updates that are ignored -/

/-- The components that are known stay the same. -/
theorem keys_update (getSignalTime : ℕ → F → ℤ) (l : Loop F) (newState : StateChange F) (id : ℤ) :
    id ∈ (update merge getSignalTime l newState).mStates.keys ↔ id ∈ l.mStates.keys := by
  unfold update
  split
  · rfl
  · rename_i old hold
    rw [KeyedVector.mem_keys_add]
    refine or_iff_right_of_imp ?_
    rintro rfl
    exact (KeyedVector.mem_keys _).mpr ⟨old, hold⟩

theorem foldl_update_filter (getSignalTime : ℕ → F → ℤ) (queue : List (StateChange F))
    (l : Loop F) (known : List ℤ) (hk : ∀ id, id ∈ l.mStates.keys ↔ id ∈ known) :
    (queue.filter (·.id ∈ known)).foldl (update merge getSignalTime) l =
      queue.foldl (update merge getSignalTime) l := by
  induction queue generalizing l with
  | nil => rfl
  | cons newState queue ih =>
    have hrest := ih (update merge getSignalTime l newState)
      fun id ↦ (keys_update getSignalTime l newState id).trans (hk id)
    by_cases hin : newState.id ∈ known
    · rw [List.filter_cons_of_pos (by simpa using hin), List.foldl_cons, List.foldl_cons, hrest]
    · have hnone : l.mStates.find? newState.id = none := by
        cases hf : l.mStates.find? newState.id with
        | none => rfl
        | some state =>
          exact absurd ((hk _).mp ((KeyedVector.mem_keys _).mpr ⟨state, hf⟩)) hin
      have hsame : update merge getSignalTime l newState = l := by
        unfold update
        rw [hnone]
      rw [List.filter_cons_of_neg (by simpa using hin), List.foldl_cons, hsame]
      exact ih l hk

namespace State

variable {s s' : State F}

/-- The pending updates for components that are registered. -/
def registered (s : State F) : List (StateChange F) :=
  s.mPendingChangeQueue.filter (·.id ∈ s.mStates.keys)

theorem process_registered (s : State F) (getSignalTime : ℕ → F → ℤ) :
    process merge { s with mPendingChangeQueue := s.registered } getSignalTime =
      s.process merge getSignalTime := by
  have hcollect : collect merge { s with mPendingChangeQueue := s.registered } getSignalTime =
      s.collect merge getSignalTime :=
    foldl_update_filter getSignalTime s.mPendingChangeQueue (s.firstPass getSignalTime)
      s.mStates.keys fun _ ↦ Iff.rfl
  unfold process
  rw [hcollect]

/-! ### Runs -/

/-- The tracker has what the calls say. -/
structure Tracks (merge : F → F → F) (mIdleFence : F) (s : State F) (h : History F) : Prop where
  added : s.mNextComponentId = h.added
  registered : ∀ id ∈ h.registered, id < h.added
  processed : ∀ mark ∈ h.processed, mark.id < h.added
  waiting : s.mPendingChangeQueue = h.waiting
  states : ∀ id, s.mStates.find? id =
    if id ∈ h.registered then some (lastState h.processed id) else none
  fence : s.mIdleFence = mergedFence merge mIdleFence h.processed

theorem tracks_create (mIdleFence : F) :
    (create mIdleFence).Tracks merge mIdleFence (History.of []) where
  added := rfl
  registered := fun _ hid ↦ absurd hid List.not_mem_nil
  processed := fun _ hm ↦ absurd hm List.not_mem_nil
  waiting := rfl
  states := fun _ ↦ rfl
  fence := rfl

theorem Tracks.seen {mIdleFence : F} {h : History F} (ht : s.Tracks merge mIdleFence h)
    (getSignalTime : ℕ → F → ℤ) :
    (s.collect merge getSignalTime).Seen merge mIdleFence h getSignalTime h.known := by
  have hfirst : (s.firstPass getSignalTime).Seen merge mIdleFence h getSignalTime [] := by
    refine ⟨?_, ?_, rfl, rfl⟩
    · rw [List.append_nil]
      exact ht.states
    · rw [List.append_nil]
      exact ht.fence
  have hlast := hfirst.foldl s.mPendingChangeQueue
  rw [List.nil_append] at hlast
  rw [History.known, ← ht.waiting]
  exact hlast

theorem Tracks.addComponent {mIdleFence : F} {h : History F} (ht : s.Tracks merge mIdleFence h) :
    s.addComponent.Tracks merge mIdleFence (h.after .addComponent) := by
  refine ⟨?_, fun id hid ↦ ?_, fun mark hm ↦ ?_, ht.waiting, fun id ↦ ?_, ht.fence⟩
  · exact congrArg (· + 1) ht.added
  · change id < h.added + 1
    obtain hid | hid := List.mem_append.mp hid
    · have := ht.registered id hid
      omega
    · rw [List.mem_singleton.mp hid]
      omega
  · change mark.id < h.added + 1
    have := ht.processed mark hm
    omega
  · simp only [State.addComponent, History.after, List.mem_append, List.mem_singleton, ht.added]
    by_cases hid : id = h.added
    · subst hid
      have hidle : lastState h.processed h.added = .IDLE :=
        lastState_of_unmarked fun mark hm ↦ ne_of_lt (ht.processed mark hm)
      rw [KeyedVector.find?_add_self, if_pos (.inr rfl), hidle]
    · rw [KeyedVector.find?_add_ne _ hid, ht.states]
      simp only [hid, or_false]

theorem Tracks.removeComponent {mIdleFence : F} {h : History F}
    (ht : s.Tracks merge mIdleFence h) (id : ℤ) :
    (s.removeComponent id).Tracks merge mIdleFence (h.after (.removeComponent id)) := by
  have hkept : ∀ id' ∈ h.registered.filter (· ≠ id), id' < h.added :=
    fun id' hid ↦ ht.registered id' (List.mem_of_mem_filter hid)
  have hstates : ∀ id', id' ≠ id → s.mStates.find? id' =
      if id' ∈ h.registered.filter (· ≠ id) then some (lastState h.processed id') else none := by
    intro id' hne
    rw [ht.states]
    simp only [List.mem_filter, decide_eq_true_eq, hne, ne_eq, not_false_eq_true, and_true]
  have hgone : id ∉ h.registered.filter (· ≠ id) := by simp
  unfold State.removeComponent
  cases hfind : s.mStates.find? id with
  | none =>
    refine ⟨ht.added, hkept, ht.processed, ht.waiting, fun id' ↦ ?_, ht.fence⟩
    by_cases hid : id' = id
    · rw [hid, hfind, History.after, if_neg hgone]
    · exact hstates id' hid
  | some state =>
    refine ⟨ht.added, hkept, ht.processed, ht.waiting, fun id' ↦ ?_, ht.fence⟩
    by_cases hid : id' = id
    · rw [hid, KeyedVector.find?_removeItem_self, History.after, if_neg hgone]
    · rw [KeyedVector.find?_removeItem_ne _ hid]
      exact hstates id' hid

theorem Tracks.process {mIdleFence : F} {h : History F} (ht : s.Tracks merge mIdleFence h)
    (timedOut : Bool) (getSignalTime : ℕ → F → ℤ) :
    (s.process merge getSignalTime).Tracks merge mIdleFence
      (h.after (.threadLoop timedOut getSignalTime)) := by
  have hseen := ht.seen getSignalTime
  refine ⟨ht.added, ht.registered, fun mark hm ↦ ?_, rfl, hseen.states, hseen.fence⟩
  obtain hm | hm := List.mem_append.mp hm
  · exact ht.processed mark hm
  · exact ht.registered mark.id (by simpa using (List.mem_filter.mp hm).2)

theorem Tracks.step {mIdleFence : F} {h : History F} {l : Label F}
    (hs : State.step merge s l = some s') (ht : s.Tracks merge mIdleFence h) :
    s'.Tracks merge mIdleFence (h.after l) := by
  cases l with
  | addComponent =>
    cases hs
    exact ht.addComponent
  | removeComponent id =>
    cases hs
    exact ht.removeComponent id
  | componentsChanged =>
    simp only [State.step] at hs
    split at hs
    · cases hs
      exact ⟨ht.added, ht.registered, ht.processed, ht.waiting, ht.states, ht.fence⟩
    · cases hs
  | markComponent id state componentFence =>
    cases hs
    refine ⟨ht.added, ht.registered, ht.processed, ?_, ht.states, ht.fence⟩
    exact congrArg (· ++ [⟨id, state, componentFence⟩]) ht.waiting
  | parentDies =>
    cases hs
    exact ⟨ht.added, ht.registered, ht.processed, ht.waiting, ht.states, ht.fence⟩
  | threadLoop timedOut getSignalTime =>
    simp only [State.step] at hs
    split at hs
    · cases hs
      exact ht.process timedOut getSignalTime
    · cases hs

theorem tracks_of_run {mIdleFence : F} {ls : List (Label F)} {h : History F}
    (hr : Run (Step merge) s ls s') (ht : s.Tracks merge mIdleFence h) :
    s'.Tracks merge mIdleFence (ls.foldl History.after h) := by
  induction hr generalizing h with
  | nil s => exact ht
  | cons hs _ ih => exact ih (ht.step hs)

/-- The device is what the calls say it is when an iteration ends. -/
theorem Tracks.mDeviceState {mIdleFence : F} {h : History F} (ht : s.Tracks merge mIdleFence h)
    (timedOut : Bool) (getSignalTime : ℕ → F → ℤ) :
    (s.process merge getSignalTime).mDeviceState = .ACTIVE ↔
      (h.after (.threadLoop timedOut getSignalTime)).Active merge mIdleFence
        (getSignalTime h.known.length) := by
  have hseen := ht.seen getSignalTime
  change (s.collect merge getSignalTime).prevState = .ACTIVE ↔ _
  rw [hseen.prevState, getDeviceStateLocked_eq_active, hseen.fence]
  refine or_congr (exists_congr fun id ↦ ?_) Iff.rfl
  rw [hseen.states]
  simp only [History.after]
  split
  · rename_i hin
    simp [hin]
  · rename_i hout
    simp [hout]

theorem mDeviceState_step {l : Label F} (hs : State.step merge s l = some s')
    (hl : ¬ l.Iterates) : s'.mDeviceState = s.mDeviceState := by
  cases l with
  | removeComponent id =>
    cases hs
    unfold removeComponent
    split
    · rfl
    · rfl
  | componentsChanged =>
    simp only [State.step] at hs
    split at hs
    · cases hs
      rfl
    · cases hs
  | threadLoop timedOut getSignalTime => exact absurd trivial hl
  | _ =>
    cases hs
    rfl

theorem mDeviceState_of_run {ls : List (Label F)} (hr : Run (Step merge) s ls s')
    (hl : ∀ l ∈ ls, ¬ l.Iterates) : s'.mDeviceState = s.mDeviceState := by
  induction hr with
  | nil s => rfl
  | cons hs _ ih =>
    obtain ⟨hl, hls⟩ := List.forall_mem_cons.mp hl
    exact (ih hls).trans (mDeviceState_step hs hl)

/-- What was notified leads to the state of the device. -/
def Notifies (s : State F) : Prop :=
  s.parent = true → Alternates .IDLE s.notified s.mDeviceState

theorem Notifies.step {l : Label F} (hs : State.step merge s l = some s') (h : s.Notifies) :
    s'.Notifies := by
  cases l with
  | removeComponent id =>
    cases hs
    unfold Notifies removeComponent
    split
    · exact h
    · exact h
  | componentsChanged =>
    simp only [State.step] at hs
    split at hs
    · cases hs
      exact h
    · cases hs
  | parentDies =>
    cases hs
    exact fun hp ↦ by cases hp
  | threadLoop timedOut getSignalTime =>
    simp only [State.step] at hs
    split at hs
    · cases hs
      intro hp
      have hp : s.parent = true := hp
      simp only [process, hp, if_true]
      exact (h hp).trans (alternates_collect merge s getSignalTime)
    · cases hs
  | _ =>
    cases hs
    exact h

/-- The notifications alternate, from active on, and the last one is the state of the device.
It is active when it was at the end of the last iteration, by the last marks of the components
that were registered then and the fences of all marks that had been processed; updates of
unknown components change nothing. -/
structure Faithful (merge : F → F → F) (mIdleFence : F) (ls : List (Label F)) (s : State F) :
    Prop where
  alternate : s.parent = true →
    ∀ i state, s.notified[i]? = some state → (state = .ACTIVE ↔ i % 2 = 0)
  last : s.parent = true → s.notified.getLastD .IDLE = s.mDeviceState
  evaluated : ∀ before timedOut getSignalTime rest,
    ls = before ++ .threadLoop timedOut getSignalTime :: rest → (∀ l ∈ rest, ¬ l.Iterates) →
      (s.mDeviceState = .ACTIVE ↔
        (History.of (before ++ [.threadLoop timedOut getSignalTime])).Active merge mIdleFence
          (getSignalTime (History.of before).known.length))
  unevaluated : (∀ l ∈ ls, ¬ l.Iterates) → s.mDeviceState = .IDLE
  ignored : ∀ getSignalTime, process merge { s with mPendingChangeQueue := s.registered }
    getSignalTime = s.process merge getSignalTime

theorem notifications_faithful {mIdleFence : F} {ls : List (Label F)}
    (h : Run (Step merge) (create mIdleFence) ls s) : s.Faithful merge mIdleFence ls := by
  have hnotifies : s.Notifies :=
    h.invariant (P := Notifies) (fun _ _ _ hs ho ↦ ho.step hs) fun _ ↦ .nil _
  refine ⟨fun hp i state hi ↦ ?_, fun hp ↦ (hnotifies hp).getLastD, ?_,
    fun hl ↦ mDeviceState_of_run h hl, process_registered s⟩
  · rw [(hnotifies hp).active_iff hi]
    simp
  · rintro before timedOut getSignalTime rest rfl hrest
    obtain ⟨t, hbefore, hlast⟩ := h.of_append
    cases hlast with
    | cons hs hrun =>
      have ht := tracks_of_run hbefore (tracks_create mIdleFence)
      rw [mDeviceState_of_run hrun hrest, History.of, List.foldl_append]
      simp only [Step, ofPartial, State.step] at hs
      split at hs
      · cases hs
        exact ht.mDeviceState timedOut getSignalTime
      · cases hs

/-- A component is active and idle again within one iteration, and its fence signals later. -/
theorem notifications_faithful_fence :
    ∃ (ls : List (Label ℕ)) (s : State ℕ), s.Faithful max 0 ls ∧ s.notified = [.ACTIVE, .IDLE] ∧
      (History.of ls).registered = [0] ∧ mergedFence max 0 (History.of ls).processed = 7 := by
  let ls : List (Label ℕ) :=
    [.addComponent, .markComponent 0 .ACTIVE 0, .markComponent 5 .ACTIVE 9,
      .markComponent 0 .IDLE 7, .threadLoop false fun _ f ↦ if f = 7 then INT64_MAX else 1,
      .threadLoop true fun _ _ ↦ 1]
  have hexec : (exec (step max) (create 0) ls).map (·.notified) = some [.ACTIVE, .IDLE] := by
    decide +kernel
  obtain ⟨s, hs, hnotified⟩ := Option.map_eq_some_iff.mp hexec
  refine ⟨ls, s, notifications_faithful ((run_iff_exec _ _ _ _).mpr hs), hnotified, ?_, ?_⟩
  · decide
  · decide

end State

end VirtualCamera.StatusTracker
