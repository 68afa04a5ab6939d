import VirtualCamera.Service.Lifecycle

namespace VirtualCamera.Service.Threads

open Library.Transition Lifecycle

/-- From the look at the receive thread to the start of a new one. -/
def creates : CallPc → Bool
  | .sessionCreate | .setCreated | .addDestination | .threadCreate | .threadRun => true
  | _ => false

/-- The places that only a thread with the mutex reaches. The two ends of the access are
such places while the session is created. -/
def ownsAt (created : Bool) : RecvPc → Bool
  | .getNextPacket | .receiveData | .gotoNextSource | .unlock => true
  | .gotoFirstSource | .endDataAccess => created
  | _ => false

def pollOwnsAt : PollPc → Bool
  | .delay | .process => true
  | _ => false

def pollOwns (polls : List Poll) (i : ℕ) : Bool := polls[i]?.any fun p ↦ pollOwnsAt p.pc

theorem pollOwns_start (polls : List Poll) (i : ℕ) :
    pollOwns (polls ++ [⟨.starting, false⟩]) i = pollOwns polls i := by
  unfold pollOwns
  rw [List.getElem?_append]
  split
  · rfl
  · rename_i hlen
    rw [List.getElem?_eq_none (Nat.le_of_not_lt hlen)]
    cases i - polls.length <;> rfl

theorem pollOwns_stop (polls : List Poll) (i j : ℕ) :
    pollOwns (polls.modify i fun p ↦ { p with stop := true }) j = pollOwns polls j := by
  unfold pollOwns
  rw [List.getElem?_modify]
  cases polls[j]? with
  | none => rfl
  | some p => by_cases hij : i = j <;> simp [hij]

theorem pollOwns_setPc {polls : List Poll} {i : ℕ} {p : Poll} (hp : polls[i]? = some p)
    (pc : PollPc) (j : ℕ) : pollOwns (polls.modify i fun p ↦ { p with pc := pc }) j =
      if i = j then pollOwnsAt pc else pollOwns polls j := by
  unfold pollOwns
  rw [List.getElem?_modify]
  by_cases hij : i = j
  · subst hij
    simp [hp]
  · simp [hij]

/-- What holds of the threads and the mutex in every state. -/
structure Orderly (s : State) : Prop where
  present : ∀ pc, s.recv = some pc → s.msRecvThread = true ∧ creates s.call = false
  running : s.call = .threadRun → s.msRecvThread = true
  owns : ∀ pc, s.recv = some pc → ownsAt s.created pc → s.sourcesmutex = some (.recv s.started)
  polls : ∀ i, s.sourcesmutex = some (.poll i) ↔ pollOwns s.polls i

theorem Orderly.initial : Orderly State.initial := by
  constructor <;> simp [State.initial, pollOwns]

theorem ownsAt_mono {pc : RecvPc} (h : ownsAt false pc) (created : Bool) : ownsAt created pc := by
  cases pc <;> first | exact h | cases h

theorem Orderly.recv_none {s : State} (h : Orderly s) (hc : creates s.call = true) :
    s.recv = none := by
  cases hr : s.recv with
  | none => rfl
  | some pc => exact absurd hc (by simp [(h.present pc hr).2])

/-- A call that moves on within its part touches nothing of this. -/
theorem Orderly.move {s : State} (h : Orderly s) {call : CallPc}
    (hc : creates call = true → creates s.call = true)
    (hr : call = .threadRun → s.msRecvThread = true) : Orderly { s with call := call } := by
  refine { h with present := fun pc hpc ↦ ?_, running := hr }
  refine ⟨(h.present pc hpc).1, ?_⟩
  have hs := (h.present pc hpc).2
  cases hcall : creates call with
  | false => rfl
  | true => exact absurd (hc hcall) (by simp [hs])

theorem Orderly.leave {s : State} (h : Orderly s) {call : CallPc} (hc : creates call = false) :
    Orderly { s with call := call } := by
  apply h.move
  · simp [hc]
  · rintro rfl
    cases hc

theorem Orderly.startPoll {s : State} (h : Orderly s) :
    Orderly { s with polls := s.polls ++ [⟨.starting, false⟩], pollthread := some s.polls.length } :=
  { h with polls := fun i ↦ (h.polls i).trans (by rw [pollOwns_start]) }

theorem Orderly.stopPollThread {s : State} (h : Orderly s) : Orderly s.stopPollThread := by
  unfold State.stopPollThread
  cases s.pollthread with
  | none => exact h
  | some i => exact { h with polls := fun j ↦ (h.polls j).trans (by rw [pollOwns_stop]) }

/-- Without a receive thread, nothing is said about it. -/
theorem Orderly.withoutRecv {s : State} (h : Orderly s) (hs : s.recv = none) (started : ℕ)
    (created : Bool) : Orderly { s with started := started, created := created } := by
  refine { h with owns := fun pc hpc ↦ ?_ }
  cases hs.symm.trans hpc

theorem Orderly.callStep {s t : State} (h : Orderly s) {fail : Bool}
    (ht : s.callStep fail = some t) : Orderly t := by
  unfold State.callStep at ht
  cases hcall : s.call with
  | idle | exited => simp [hcall] at ht
  | sessionCreate =>
    simp only [hcall] at ht
    split at ht
    · cases ht
      exact h.leave rfl
    · cases ht
      have hsources : Orderly { s with sources := [0] } := { h with }
      exact hsources.startPoll.move (by simp [hcall, creates]) (by simp)
  | setCreated =>
    simp only [hcall, Option.some.injEq] at ht
    subst ht
    have hr := h.recv_none (by simp [hcall, creates])
    exact (h.withoutRecv hr s.started true).move (by simp [hcall, creates]) (by simp)
  | addDestination =>
    simp only [hcall, Option.some.injEq] at ht
    subst ht
    cases fail
    · exact h.move (by simp [hcall, creates]) (by simp)
    · exact h.leave rfl
  | threadCreate =>
    simp only [hcall] at ht
    split at ht
    · cases ht
      exact h.leave rfl
    · cases ht
      constructor
      · simp
      · simp
      · simp
      · exact h.polls
  | threadRun =>
    have hthread := h.running hcall
    have hr := h.recv_none (by simp [hcall, creates])
    simp only [hcall] at ht
    split at ht
    · cases ht
      exact h.leave rfl
    · cases ht
      constructor
      · simp [hthread, creates]
      · simp
      · simp [ownsAt]
      · exact h.polls
  | byeDestroy =>
    simp only [hcall, Option.some.injEq] at ht
    subst ht
    apply h.leave
    split <;> rfl
  | stopPoll =>
    simp only [hcall, Option.some.injEq] at ht
    subst ht
    exact h.stopPollThread.leave rfl
  | waitPoll =>
    simp only [hcall] at ht
    split at ht
    · cases ht
      exact h.leave rfl
    · cases ht
  | sendBye =>
    simp only [hcall, Option.some.injEq] at ht
    subst ht
    exact h.leave rfl
  | clearSources =>
    simp only [hcall, Option.some.injEq] at ht
    subst ht
    have hsources : Orderly { s with sources := [] } := { h with }
    exact hsources.leave rfl
  | clearCreated =>
    simp only [hcall, Option.some.injEq] at ht
    subst ht
    have hcreated : Orderly { s with created := false } :=
      { h with owns := fun pc hpc ho ↦ h.owns pc hpc (ownsAt_mono ho _) }
    exact hcreated.leave rfl
  | setRecvQuit =>
    simp only [hcall, Option.some.injEq] at ht
    subst ht
    have hquit : Orderly { s with msRecvQuit := 1 } := { h with }
    exact hquit.leave rfl
  | joining =>
    simp only [hcall] at ht
    split at ht
    · cases ht
      constructor
      · simp
      · simp
      · simp
      · exact h.polls
    · cases ht

/-- The receive thread goes on to a place where it still has what it needs. -/
theorem Orderly.recvMove {s : State} (h : Orderly s) {pc : RecvPc} (hs : s.recv = some pc)
    {pc' : RecvPc} (ho : ownsAt s.created pc' → s.sourcesmutex = some (.recv s.started)) :
    Orderly { s with recv := some pc' } := by
  refine { h with present := fun _ _ ↦ h.present pc hs, owns := fun pc'' hpc ↦ ?_ }
  cases hpc
  exact ho

/-- The mutex goes from its holder to another or becomes free. -/
theorem Orderly.recvMutex {s : State} (h : Orderly s) {pc : RecvPc} (hs : s.recv = some pc)
    {pc' : RecvPc} {owner : Option Owner} (hpoll : ∀ i, s.sourcesmutex ≠ some (.poll i))
    (hpoll' : ∀ i, owner ≠ some (.poll i))
    (ho : ownsAt s.created pc' → owner = some (.recv s.started)) :
    Orderly { s with recv := some pc', sourcesmutex := owner } := by
  refine ⟨fun _ _ ↦ h.present pc hs, h.running, fun pc'' hpc ↦ ?_, fun i ↦ ?_⟩
  · cases hpc
    exact ho
  · constructor
    · intro hi
      exact absurd hi (hpoll' i)
    · intro hi
      exact absurd ((h.polls i).mpr hi) (hpoll i)

theorem Orderly.recvStep {s t : State} (h : Orderly s) {pc : RecvPc} (hs : s.recv = some pc)
    {fail : Bool} (ht : s.recvStep pc fail = some t) : Orderly t := by
  have howns := h.owns pc hs
  cases pc with
  | begin =>
    cases ht
    apply h.recvMove hs
    cases fail <;> simp [ownsAt]
  | allocated =>
    cases ht
    have hquit : Orderly { s with msRecvQuit := 0 } := { h with }
    exact hquit.recvMove hs (by simp [ownsAt])
  | cleared | wait | ending =>
    cases ht
    exact h.recvMove hs (by simp [ownsAt])
  | receiveData =>
    cases ht
    exact h.recvMove hs howns
  | test =>
    cases ht
    apply h.recvMove hs
    split <;> simp [ownsAt]
  | beginDataAccess =>
    cases ht
    apply h.recvMove hs
    cases hc : s.created <;> simp [ownsAt]
  | lock =>
    simp only [State.recvStep] at ht
    split at ht
    · rename_i hfree
      cases ht
      exact h.recvMutex hs (by simp [hfree]) (by simp) (by simp)
    · cases ht
  | gotoFirstSource =>
    simp only [State.recvStep] at ht
    split at ht
    · rename_i hfirst
      cases ht
      have hcurrent : Orderly { s with current := 0 } := { h with }
      exact hcurrent.recvMove hs fun _ ↦ howns hfirst.1
    · cases ht
      exact h.recvMove hs howns
  | getNextPacket =>
    simp only [State.recvStep] at ht
    split at ht
    · cases ht
      have hsources : Orderly { s with sources := s.sources.modify s.current (· - 1) } :=
        { h with }
      exact hsources.recvMove hs howns
    · cases ht
      exact h.recvMove hs howns
  | gotoNextSource =>
    simp only [State.recvStep] at ht
    split at ht
    · cases ht
      have hcurrent : Orderly { s with current := s.current + 1 } := { h with }
      exact hcurrent.recvMove hs howns
    · cases ht
      exact h.recvMove hs fun _ ↦ howns rfl
  | endDataAccess =>
    cases ht
    apply h.recvMove hs
    cases hc : s.created with
    | false => simp [ownsAt]
    | true => exact fun _ ↦ howns hc
  | unlock =>
    cases ht
    exact h.recvMutex hs (by simp [howns rfl]) (by simp) (by simp [ownsAt])
  | finished => cases ht

theorem Orderly.setPoll {s : State} (h : Orderly s) {i : ℕ} {p : Poll} (hp : s.polls[i]? = some p)
    {pc : PollPc} (hpc : pollOwnsAt pc = pollOwnsAt p.pc) : Orderly (s.setPoll i pc) := by
  refine { h with polls := fun j ↦ (h.polls j).trans ?_ }
  unfold State.setPoll
  rw [pollOwns_setPc hp]
  split
  · rename_i hij
    subst hij
    simp [pollOwns, hp, hpc]
  · rfl

theorem Orderly.pollLock {s : State} (h : Orderly s) {i : ℕ} {p : Poll}
    (hp : s.polls[i]? = some p) (hfree : s.sourcesmutex = none) {pc : PollPc}
    (hpc : pollOwnsAt pc = true) :
    Orderly { s.setPoll i pc with sourcesmutex := some (.poll i) } := by
  refine ⟨h.present, h.running, fun pc hr ho ↦ ?_, fun j ↦ ?_⟩
  · have howns := h.owns pc hr ho
    rw [hfree] at howns
    cases howns
  · unfold State.setPoll
    rw [pollOwns_setPc hp]
    have hj := h.polls j
    split
    · simp [*]
    · simp_all

theorem Orderly.pollUnlock {s : State} (h : Orderly s) {i : ℕ} {p : Poll}
    (hp : s.polls[i]? = some p) (hheld : pollOwnsAt p.pc = true) {pc : PollPc}
    (hpc : pollOwnsAt pc = false) (sources : List ℕ) :
    Orderly { s.setPoll i pc with sourcesmutex := none, sources := sources } := by
  have hi : s.sourcesmutex = some (.poll i) := (h.polls i).mpr (by simp [pollOwns, hp, hheld])
  refine ⟨h.present, h.running, fun pc hr ho ↦ ?_, fun j ↦ ?_⟩
  · have howns := h.owns pc hr ho
    rw [hi] at howns
    cases howns
  · unfold State.setPoll
    rw [pollOwns_setPc hp]
    have hj := h.polls j
    split
    · simp [hpc]
    · simp_all

theorem Orderly.pollStep {s t : State} (h : Orderly s) {i : ℕ} {p : Poll}
    (hp : s.polls[i]? = some p) {fail : Bool} {sources : List ℕ}
    (ht : s.pollStep i p fail sources = some t) : Orderly t := by
  unfold State.pollStep at ht
  cases hpc : p.pc with
  | starting =>
    simp only [hpc, Option.some.injEq] at ht
    subst ht
    apply h.setPoll hp
    split <;> simp [hpc, pollOwnsAt]
  | delayLock =>
    simp only [hpc] at ht
    split at ht
    · cases ht
      exact h.pollLock hp ‹_› rfl
    · cases ht
  | delay =>
    simp only [hpc, Option.some.injEq] at ht
    subst ht
    exact h.pollUnlock hp (by rw [hpc]; rfl) rfl s.sources
  | waiting =>
    simp only [hpc, Option.some.injEq] at ht
    subst ht
    apply h.setPoll hp
    split <;> simp [hpc, pollOwnsAt]
  | processLock =>
    simp only [hpc] at ht
    split at ht
    · cases ht
      exact h.pollLock hp ‹_› rfl
    · cases ht
  | process =>
    simp only [hpc, Option.some.injEq] at ht
    subst ht
    apply h.pollUnlock hp (by rw [hpc]; rfl)
    split <;> rfl
  | stopped => simp [hpc] at ht

theorem Orderly.step {s t : State} {a : Act} (h : Orderly s) (hst : Step s a t) : Orderly t := by
  cases hst.move with
  | refused => exact h
  | createSession hc ht =>
    refine { h with present := fun pc hpc ↦ ?_, running := by simp }
    exact absurd (h.present pc hpc).1 (by simp [ht])
  | destroySession => exact h.leave rfl
  | call fail ht => exact h.callStep ht
  | recv fail hs ht => exact h.recvStep hs ht
  | poll i fail sources hp ht => exact h.pollStep hp ht

theorem Orderly.reachable {s : State} (h : Reachable Step State.initial s) : Orderly s :=
  h.invariant (fun _ _ _ hst hs ↦ hs.step hst) .initial

end VirtualCamera.Service.Threads
