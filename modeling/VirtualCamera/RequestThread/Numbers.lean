import VirtualCamera.RequestThread.Moves

namespace VirtualCamera.RequestThread

open Library.Transition

namespace State

variable {cfg : Config} {s s' : State}

/-- A step leaves the queues alone or is one of theirs. -/
theorem queue_step (hlive : cfg.listener = true) {l : Label} (h : step cfg s l = some s') :
    s'.queue = s.queue ∨ s.queue.Step s'.queue := by
  cases moves_step h with
  | kept _ hq _ => exact .inl hq
  | queueRequestList requests _ hq _ =>
    exact .inr (hq ▸ .queueRequestList s.queue requests.length)
  | setRepeatingRequests requests _ hq _ =>
    exact .inr (hq ▸ .setRepeatingRequests s.queue requests.length)
  | clearRepeatingRequests _ _ hq _ => exact .inr (hq ▸ .clearRepeatingRequests s.queue)
  | clear _ hq _ =>
    rw [hlive] at hq
    exact .inr (hq ▸ .clear s.queue)
  | take r queue _ _ hs hq _ =>
    refine .inr (.take (r := r) ?_)
    rw [Queue.take, hs, hq]
    rfl

/-! ### The promises -/

/-- The order of the requests is kept while the frame numbers have not wrapped around. -/
def Ordered (s : State) : Prop := s.queue.handed.length < 2 ^ 32 → s.queue.Scheduled

theorem ordered_create (mPrevTriggers : ℤ) : (create mPrevTriggers).Ordered :=
  fun _ ↦ Queue.scheduled_empty

theorem Ordered.step (hlive : cfg.listener = true) {l : Label} (hs : step cfg s l = some s')
    (h : s.Ordered) : s'.Ordered := by
  intro hwrap
  obtain he | hstep := queue_step hlive hs
  · rw [he] at hwrap ⊢
    exact h hwrap
  · have hle := Queue.handed_le_of_step hstep
    exact (h (by omega)).step hstep hwrap

theorem ordered_of_reachable (hlive : cfg.listener = true) {mPrevTriggers : ℤ}
    (h : Reachable (Step cfg) (create mPrevTriggers) s) : s.Ordered :=
  h.invariant (P := Ordered) (fun _ _ _ hs ho ↦ ho.step hlive hs) (ordered_create mPrevTriggers)

/-! ### The answers -/

/-- The list went, and what was answered for it is on record. No request changed its place. -/
structure Replaces (s s' : State) (n : ℤ) : Prop where
  order : s'.queue.order = s.queue.order
  promised : s'.queue.promised = s.queue.promised
  replaced : s'.queue.replaced = s.queue.replaced ++ [⟨s.queue.mRepeatingRequests, n⟩]

/-- What a step that answers `n` does to the lists. -/
def Answers (s s' : State) (n : ℤ) : Label → Prop
  | .queueRequestList requests => ∃ new : List ℕ,
      new.length = requests.length ∧ (∀ r ∈ new, r ∉ s.queue.order) ∧
        s'.queue.mRequestQueue = s.queue.mRequestQueue ++ new ∧
        s'.queue.handed = s.queue.handed ∧
        s'.queue.mRepeatingRequests = s.queue.mRepeatingRequests ∧
        s'.queue.promised = s.queue.promised ++ (new.getLast?.map (⟨·, n⟩)).toList ∧
        s'.queue.replaced = s.queue.replaced
  | .setRepeatingRequests requests => s.Replaces s' n ∧
      s'.queue.mRepeatingRequests.length = requests.length ∧
        (∀ r ∈ s'.queue.mRepeatingRequests, r ∉ s.queue.order) ∧
        s'.queue.mRequestQueue = s.queue.mRequestQueue
  | .clear => s.Replaces s' n ∧ s'.queue.mRepeatingRequests = [] ∧ s'.queue.mRequestQueue = []
  | _ => s.Replaces s' n ∧ s'.queue.mRepeatingRequests = [] ∧
      s'.queue.mRequestQueue = s.queue.mRequestQueue

/-- A step that answers nothing leaves the records and the repeating list. -/
structure Silent (s s' : State) : Prop where
  promised : s'.queue.promised = s.queue.promised
  replaced : s'.queue.replaced = s.queue.replaced
  mRepeatingRequests : s'.queue.mRepeatingRequests = s.queue.mRepeatingRequests

theorem foldl_give_shape (l : List ℕ) (q : Queue) : ∃ frame handed,
    l.foldl Queue.give q = { q with mFrameNumber := frame, handed := handed } ∧
      handed.map (·.request) = q.handed.map (·.request) ++ l := by
  induction l generalizing q with
  | nil => exact ⟨q.mFrameNumber, q.handed, rfl, (List.append_nil _).symm⟩
  | cons r l ih =>
    obtain ⟨frame, handed, he, hmap⟩ := ih (q.give r)
    refine ⟨frame, handed, he, ?_⟩
    rw [hmap, Queue.give, List.map_append, List.append_assoc]
    rfl

theorem replaces_clear (hq : s'.queue = s.queue.clear true) :
    s.Replaces s' s.queue.mRepeatingLastFrameNumber := by
  obtain ⟨frame, handed, he, hmap⟩ := foldl_give_shape s.queue.mRequestQueue s.queue
  have hclear : s'.queue = { s.queue with
      mFrameNumber := frame
      handed := handed
      replaced := s.queue.replaced ++
        [⟨s.queue.mRepeatingRequests, s.queue.mRepeatingLastFrameNumber⟩]
      mRepeatingRequests := []
      mRepeatingLastFrameNumber := NO_IN_FLIGHT_REPEATING_FRAMES
      mRequestQueue := [] } := by
    rw [hq, Queue.clear, if_pos rfl, he]
    rfl
  constructor
  · rw [Queue.order, hclear]
    exact (List.append_nil _).trans hmap
  · rw [hclear]
  · rw [hclear]

theorem answers_step (hlive : cfg.listener = true) (ho : s.queue.Scheduled) {l : Label}
    (h : step cfg s l = some s') {n : ℤ} (hn : s.lastFrameNumber l = some n) :
    s.Answers s' n l := by
  have hnew : ∀ k, ∀ r ∈ s.queue.fresh k, r ∉ s.queue.order := fun k r hr hc ↦ by
    have hge := (Queue.fresh_ge hr).1
    have hlt := ho.known r hc
    omega
  cases moves_step h with
  | kept hl _ _ =>
    rw [hl] at hn
    cases hn
  | queueRequestList requests hl hq _ =>
    subst hl
    refine ⟨s.queue.fresh requests.length, List.length_range', hnew _, ?_⟩
    simp only [lastFrameNumber, Option.some.injEq] at hn
    rw [hq]
    refine ⟨rfl, rfl, rfl, ?_, rfl⟩
    simp only [Queue.queueRequestList, Queue.fresh, List.length_append, List.length_range', ← hn]
    push_cast
    rfl
  | setRepeatingRequests requests hl hq _ =>
    subst hl
    cases hn
    refine ⟨⟨?_, ?_, ?_⟩, ?_, ?_, ?_⟩
    all_goals rw [hq]
    · rfl
    · rfl
    · rfl
    · exact List.length_range'
    · exact hnew _
    · rfl
  | clearRepeatingRequests hl hlast hq _ =>
    rw [hlast] at hn
    cases hn
    have hrep : s.Replaces s' s.queue.mRepeatingLastFrameNumber := by
      constructor
      all_goals rw [hq]
      all_goals rfl
    have hlists : s'.queue.mRepeatingRequests = [] ∧
        s'.queue.mRequestQueue = s.queue.mRequestQueue := by
      rw [hq]
      exact ⟨rfl, rfl⟩
    obtain rfl | ⟨abandoned, rfl⟩ := hl
    · exact ⟨hrep, hlists⟩
    · exact ⟨hrep, hlists⟩
  | clear hl hq _ =>
    subst hl
    cases hn
    rw [hlive] at hq
    refine ⟨replaces_clear hq, ?_⟩
    rw [hq]
    exact ⟨rfl, rfl⟩
  | take r queue input hl hs hq _ =>
    subst hl
    cases hn

theorem silent_step {l : Label} (h : step cfg s l = some s')
    (hn : s.lastFrameNumber l = none) : s.Silent s' := by
  cases moves_step h with
  | kept _ hq _ =>
    constructor
    all_goals rw [hq]
  | queueRequestList requests hl _ _ =>
    subst hl
    cases hn
  | setRepeatingRequests requests hl _ _ =>
    subst hl
    cases hn
  | clearRepeatingRequests _ hlast _ _ =>
    rw [hlast] at hn
    cases hn
  | clear hl _ _ =>
    subst hl
    cases hn
  | take r queue input _ hs hq _ =>
    unfold Queue.select at hs
    split at hs
    · cases hs
      constructor
      all_goals rw [hq]
      all_goals rfl
    · cases hs
      constructor
      all_goals rw [hq]
      all_goals rfl
    · cases hs

/-- Frame numbers are handed out one after the other, and as they were promised. What a call
answers is promised from then on, once, and for the request or the list it is about. -/
theorem promises_kept {mPrevTriggers : ℤ} (hlive : cfg.listener = true)
    (h : Reachable (Step cfg) (create mPrevTriggers) s)
    (hwrap : s.queue.handed.length < 2 ^ 32) :
    s.queue.Promises ∧ ∀ (l : Label) (s' : State), step cfg s l = some s' →
      (∀ n, s.lastFrameNumber l = some n → s.Answers s' n l) ∧
        (s.lastFrameNumber l = none → s.Silent s') := by
  have hscheduled := ordered_of_reachable hlive h hwrap
  refine ⟨hscheduled.promises, fun l s' hs ↦ ⟨fun n hn ↦ ?_, fun hn ↦ ?_⟩⟩
  · exact answers_step hlive hscheduled hs hn
  · exact silent_step hs hn

/-- A repeating list of two is thrown away between its two requests. -/
theorem promises_kept_replaced :
    ∃ s s', Reachable (Step .plain) (create 0) s ∧ s.queue.Promises ∧
      s.queue.promised = [⟨0, 0⟩] ∧ s.queue.handed = [⟨0, 0⟩, ⟨1, 1⟩] ∧
      s.queue.mRequestQueue = [2] ∧ step .plain s .clear = some s' ∧ s.Answers s' 2 .clear ∧
      s'.queue.replaced = [⟨[], -1⟩, ⟨[1, 2], 2⟩] ∧
      s'.queue.handed = [⟨0, 0⟩, ⟨1, 1⟩, ⟨2, 2⟩] := by
  let q : Queue :=
    { mRequestQueue := [2]
      mRepeatingRequests := [1, 2]
      mRepeatingLastFrameNumber := 2
      mFrameNumber := 2
      allocated := 3
      handed := [⟨0, 0⟩, ⟨1, 1⟩]
      started := [[1, 2]]
      promised := [⟨0, 0⟩]
      replaced := [⟨[], -1⟩] }
  obtain ⟨s, hs, he⟩ := exists_reachable_of_exec (s := create 0)
    (f := fun s ↦ (s.queue, s.mRequestLock)) (b := (q, false))
    (.queueRequestList [.plain ∅] :: .setRepeatingRequests [.plain ∅, .plain ∅] ::
      (Label.round ++ Label.round))
    (show (exec (step .plain) _ _).map _ = _ by decide +kernel)
  simp only [Prod.mk.injEq] at he
  obtain ⟨hq, hlock⟩ := he
  have hstep : step .plain s .clear = some (s.clear .plain) := by simp [step, locking, hlock]
  have hq' : (s.clear .plain).queue = q.clear true := by
    rw [queue_clear, hq]
    rfl
  have hkept := promises_kept rfl hs (by rw [hq]; decide)
  have hanswer : s.lastFrameNumber .clear = some 2 := by
    change some s.queue.mRepeatingLastFrameNumber = _
    rw [hq]
  refine ⟨s, s.clear .plain, hs, hkept.1, ?_, ?_, ?_, hstep,
    (hkept.2 .clear _ hstep).1 2 hanswer, ?_, ?_⟩
  · rw [hq]
  · rw [hq]
  · rw [hq]
  · rw [hq']
    rfl
  · rw [hq']
    rfl

end State

end VirtualCamera.RequestThread
