import VirtualCamera.Service.Threads

namespace VirtualCamera.Service.DataAccess

open Library.Transition Lifecycle Threads

/-- Between the test of `created` in `BeginDataAccess` and the one in `EndDataAccess`. -/
def betweenTests : RecvPc → Bool
  | .lock | .gotoFirstSource | .getNextPacket | .receiveData | .gotoNextSource
  | .endDataAccess => true
  | _ => false

/-- Between the lock of `BeginDataAccess` and the unlock of `EndDataAccess`. -/
def inDataAccess : RecvPc → Bool
  | .gotoFirstSource | .getNextPacket | .receiveData | .gotoNextSource | .endDataAccess
  | .unlock => true
  | _ => false

theorem eq_unlock {pc : RecvPc} (hin : inDataAccess pc) (hb : betweenTests pc = false) :
    pc = .unlock := by
  cases pc <;> simp_all [inDataAccess, betweenTests]

/-- `BYEDestroy` clears `created` while the receive thread is out of the two tests. -/
def clearsOutside (s : State) : Act → Prop
  | .call _ => s.call = .clearCreated → s.recv.all fun pc ↦ !betweenTests pc
  | _ => True

instance (s : State) (a : Act) : Decidable (clearsOutside s a) :=
  match a with
  | .call _ => inferInstanceAs (Decidable (_ → _))
  | .createSession _ | .destroySession | .recv _ | .poll .. => .isTrue trivial

def acquires (s : State) : Act → Bool
  | .recv _ => s.recv = some .lock
  | _ => false

def releases (s : State) : Act → Bool
  | .recv _ => s.recv = some .unlock
  | _ => false

/-- Whether a receive thread has the mutex, running or not. -/
def recvHolds (s : State) : Bool :=
  match s.sourcesmutex with
  | some (.recv _) => true
  | _ => false

theorem callStep_mutex {s t : State} {fail : Bool} (h : s.callStep fail = some t) :
    t.sourcesmutex = s.sourcesmutex := by
  unfold State.callStep at h
  cases hcall : s.call <;> simp only [hcall] at h
  case stopPoll =>
    cases h
    unfold State.stopPollThread
    cases s.pollthread <;> rfl
  all_goals (try split at h) <;> cases h <;> rfl

theorem recvStep_holds {s t : State} (hs : Orderly s) {pc : RecvPc} (hpc : s.recv = some pc)
    {fail : Bool} (h : s.recvStep pc fail = some t) :
    (recvHolds t).toNat + (releases s (.recv fail)).toNat =
      (recvHolds s).toNat + (acquires s (.recv fail)).toNat := by
  cases pc with
  | lock =>
    simp only [State.recvStep] at h
    split at h
    · rename_i hfree
      cases h
      simp [recvHolds, releases, acquires, hpc, hfree]
    · cases h
  | unlock =>
    have howns := hs.owns _ hpc rfl
    cases h
    simp [recvHolds, releases, acquires, hpc, howns]
  | _ =>
    simp only [State.recvStep] at h
    (try split at h) <;> cases h <;> simp [recvHolds, releases, acquires, hpc]

theorem pollStep_holds {s t : State} (hs : Orderly s) {i : ℕ} {p : Poll}
    (hp : s.polls[i]? = some p) {fail : Bool} {sources : List ℕ}
    (h : s.pollStep i p fail sources = some t) : recvHolds t = recvHolds s := by
  have howner : pollOwnsAt p.pc = true → s.sourcesmutex = some (.poll i) := by
    intro hpc
    apply (hs.polls i).mpr
    simp [pollOwns, hp, hpc]
  unfold State.pollStep at h
  cases hpc : p.pc <;> simp only [hpc] at h howner
  case delayLock | processLock =>
    split at h
    · rename_i hfree
      cases h
      simp [recvHolds, hfree]
    · cases h
  case delay | process =>
    cases h
    simp [recvHolds, howner rfl]
  all_goals cases h <;> rfl

theorem step_holds {s t : State} {a : Act} (hs : Orderly s) (h : step s a = some t) :
    (recvHolds t).toNat + (releases s a).toNat = (recvHolds s).toNat + (acquires s a).toNat := by
  cases Step.move h with
  | refused ha =>
    obtain rfl | ⟨count, rfl⟩ := ha <;> rfl
  | createSession => rfl
  | destroySession => rfl
  | call fail ht => simp [recvHolds, callStep_mutex ht, releases, acquires]
  | recv fail hpc ht => exact recvStep_holds hs hpc ht
  | poll i fail sources hp ht => simp [pollStep_holds hs hp ht, releases, acquires]

/-- In every run the receive threads have locked the mutex as often as they have unlocked
it, once more while one of them holds it. -/
theorem acquired_eq {as : List Act} {s : State} (h : Run Step State.initial as s) :
    (recvHolds s).toNat + countSteps step releases State.initial as =
      countSteps step acquires State.initial as := by
  have hrun := h.countSteps_balance (P := Orderly) (φ := fun s ↦ (recvHolds s).toNat)
    (fun _ _ _ hst hs ↦ hs.step hst) (fun _ _ _ hs hst ↦ step_holds hs hst) .initial
  rw [hrun]
  exact Nat.zero_add _

/-- A receive thread that has the mutex is in its data access, and the session that it
found created still is, until it has tested that for the second time. -/
structure Access (s : State) : Prop where
  holder : ∀ n, s.sourcesmutex = some (.recv n) → n = s.started ∧
    ∃ pc, s.recv = some pc ∧ inDataAccess pc ∧ (pc = .unlock ∨ s.created)
  locking : s.recv = some .lock → s.created

theorem Access.initial : Access State.initial := by
  constructor <;> simp [State.initial]

/-- Nothing changes for the thread and its access. -/
theorem Access.congr {s t : State} (h : Access s) (hm : t.sourcesmutex = s.sourcesmutex)
    (hn : t.started = s.started) (hr : t.recv = s.recv) (hc : t.created = s.created) : Access t := by
  refine ⟨fun n ho ↦ ?_, fun hl ↦ ?_⟩
  · rw [hn, hr, hc]
    exact h.holder n (hm ▸ ho)
  · rw [hc]
    exact h.locking (hr ▸ hl)

theorem Access.callStep {s t : State} (h : Access s) (hs : Orderly s) {fail : Bool}
    (hout : clearsOutside s (.call fail)) (ht : s.callStep fail = some t) : Access t := by
  have hfree : s.recv = none → ∀ n, s.sourcesmutex ≠ some (.recv n) := by
    intro hr n ho
    obtain ⟨-, pc, hpc, -⟩ := h.holder n ho
    cases hr.symm.trans hpc
  have hnone : creates s.call = true → s.recv = none := hs.recv_none
  unfold State.callStep at ht
  cases hcall : s.call <;> simp only [hcall, creates] at ht hnone
  case setCreated =>
    cases ht
    refine ⟨fun n ho ↦ absurd ho (hfree (hnone trivial) n), fun hl ↦ rfl⟩
  case threadCreate =>
    split at ht
    · cases ht
      exact h.congr rfl rfl rfl rfl
    · cases ht
      exact ⟨fun n ho ↦ absurd ho (hfree (hnone trivial) n), fun hl ↦ by cases hl⟩
  case threadRun =>
    split at ht
    · cases ht
      exact h.congr rfl rfl rfl rfl
    · cases ht
      exact ⟨fun n ho ↦ absurd ho (hfree (hnone trivial) n), fun hl ↦ by cases hl⟩
  case clearCreated =>
    cases ht
    have hpc : ∀ pc, s.recv = some pc → betweenTests pc = false := by
      intro pc hr
      simpa [hr] using hout hcall
    refine ⟨fun n ho ↦ ?_, fun hl ↦ ?_⟩
    · obtain ⟨hn, pc, hr, hin, -⟩ := h.holder n ho
      exact ⟨hn, pc, hr, hin, .inl (eq_unlock hin (hpc pc hr))⟩
    · cases hpc _ hl
  case stopPoll =>
    cases ht
    unfold State.stopPollThread
    cases s.pollthread <;> exact h.congr rfl rfl rfl rfl
  case joining =>
    split at ht
    · rename_i hdone
      cases ht
      refine ⟨fun n ho ↦ ?_, fun hl ↦ by cases hl⟩
      obtain ⟨-, pc, hr, hin, -⟩ := h.holder n ho
      rcases hdone with hdone | hdone
      · cases hdone.symm.trans hr
      · cases hdone.symm.trans hr
        cases hin
    · cases ht
  all_goals (try split at ht) <;> cases ht <;> exact h.congr rfl rfl rfl rfl

theorem Access.recvMove {s : State} (h : Access s) {pc pc' : RecvPc} (hs : s.recv = some pc)
    (hin : inDataAccess pc → (pc = .unlock ∨ s.created) →
      inDataAccess pc' ∧ (pc' = .unlock ∨ s.created))
    (hl : pc' = .lock → s.created) : Access { s with recv := some pc' } := by
  refine ⟨fun n ho ↦ ?_, fun hpc ↦ hl (Option.some.inj hpc)⟩
  obtain ⟨hn, pc₀, hr, hi, hc⟩ := h.holder n ho
  cases hs.symm.trans hr
  exact ⟨hn, pc', rfl, hin hi hc⟩

theorem Access.recvStep {s t : State} (h : Access s) {pc : RecvPc}
    (hs : s.recv = some pc) {fail : Bool} (ht : s.recvStep pc fail = some t) : Access t := by
  cases pc with
  | begin | cleared | wait | ending =>
    cases ht
    apply h.recvMove hs
    · intro hin
      cases hin
    · cases fail <;> simp
  | allocated =>
    cases ht
    have hquit : Access { s with msRecvQuit := 0 } := h.congr rfl rfl rfl rfl
    apply hquit.recvMove hs
    · intro hin
      cases hin
    · simp
  | test =>
    cases ht
    apply h.recvMove hs
    · intro hin
      cases hin
    · split <;> simp
  | beginDataAccess =>
    cases ht
    apply h.recvMove hs
    · intro hin
      cases hin
    · cases hc : s.created <;> simp
  | lock =>
    have hcreated := h.locking hs
    simp only [State.recvStep] at ht
    split at ht
    · cases ht
      refine ⟨fun n ho ↦ ?_, fun hl ↦ by cases hl⟩
      cases ho
      exact ⟨rfl, _, rfl, rfl, .inr hcreated⟩
    · cases ht
  | gotoFirstSource =>
    simp only [State.recvStep] at ht
    split at ht
    · cases ht
      have hcurrent : Access { s with current := 0 } := h.congr rfl rfl rfl rfl
      apply hcurrent.recvMove hs
      · simp [inDataAccess]
      · simp
    · cases ht
      apply h.recvMove hs <;> simp [inDataAccess]
  | getNextPacket =>
    simp only [State.recvStep] at ht
    split at ht
    · cases ht
      have hsources : Access { s with sources := s.sources.modify s.current (· - 1) } :=
        h.congr rfl rfl rfl rfl
      apply hsources.recvMove hs <;> simp [inDataAccess]
    · cases ht
      apply h.recvMove hs <;> simp [inDataAccess]
  | receiveData =>
    cases ht
    apply h.recvMove hs <;> simp [inDataAccess]
  | gotoNextSource =>
    simp only [State.recvStep] at ht
    split at ht
    · cases ht
      have hcurrent : Access { s with current := s.current + 1 } := h.congr rfl rfl rfl rfl
      apply hcurrent.recvMove hs <;> simp [inDataAccess]
    · cases ht
      apply h.recvMove hs <;> simp [inDataAccess]
  | endDataAccess =>
    cases ht
    apply h.recvMove hs
    · rintro - (hc | hc)
      · cases hc
      · rw [if_pos hc]
        exact ⟨rfl, .inl rfl⟩
    · cases hc : s.created <;> simp
  | unlock =>
    cases ht
    exact ⟨fun n ho ↦ (by cases ho), fun hl ↦ (by cases hl)⟩
  | finished => cases ht

theorem Access.pollStep {s t : State} (h : Access s) {i : ℕ} {p : Poll} {fail : Bool}
    {sources : List ℕ} (ht : s.pollStep i p fail sources = some t) : Access t := by
  have hmove : ∀ u : State, u.started = s.started → u.recv = s.recv → u.created = s.created →
      (∀ n, u.sourcesmutex ≠ some (.recv n)) → Access u := by
    intro u hn hr hc hm
    refine ⟨fun n ho ↦ absurd ho (hm n), fun hl ↦ ?_⟩
    rw [hc]
    exact h.locking (hr ▸ hl)
  unfold State.pollStep at ht
  cases hpc : p.pc <;> simp only [hpc] at ht
  case delayLock | processLock =>
    split at ht
    · cases ht
      exact hmove _ rfl rfl rfl (by simp)
    · cases ht
  case delay | process =>
    cases ht
    exact hmove _ rfl rfl rfl (by simp)
  all_goals cases ht <;> exact h.congr rfl rfl rfl rfl

theorem Access.step {s t : State} {a : Act} (h : Access s) (hs : Orderly s)
    (hout : clearsOutside s a) (hst : Step s a t) : Access t := by
  cases hst.move with
  | refused => exact h
  | createSession => exact h.congr rfl rfl rfl rfl
  | destroySession => exact h.congr rfl rfl rfl rfl
  | call fail ht => exact h.callStep hs hout ht
  | recv fail hpc ht => exact h.recvStep hpc ht
  | poll i fail sources hp ht => exact h.pollStep ht

theorem Access.run {as : List Act} {s : State}
    (h : Run (restrict Step clearsOutside) State.initial as s) : Access s := by
  have hinv : Orderly s ∧ Access s := by
    apply h.invariant (P := fun s ↦ Orderly s ∧ Access s)
    · rintro s a t ⟨hst, hout⟩ ⟨hthreads, haccess⟩
      exact ⟨hthreads.step hst, haccess.step hthreads hout hst⟩
    · exact ⟨.initial, .initial⟩
  exact hinv.2

/-- A poll thread that has the mutex gives it back with its next step. -/
theorem poll_releases {s : State} (hs : Orderly s) (hc : s.call ≠ .exited) {i : ℕ}
    (ho : s.sourcesmutex = some (.poll i)) :
    ∃ t, Step s (.poll i false []) t ∧ t.sourcesmutex = none := by
  have howns := (hs.polls i).mp ho
  cases hp : s.polls[i]? with
  | none => simp [pollOwns, hp] at howns
  | some p =>
    have hpc : pollOwnsAt p.pc = true := by simpa [pollOwns, hp] using howns
    cases hat : p.pc <;> rw [hat] at hpc
    case delay =>
      refine ⟨{ s.setPoll i .waiting with sourcesmutex := none }, ?_, rfl⟩
      simp [Step, ofPartial, step, hc, hp, State.pollStep, hat]
    case process =>
      refine ⟨{ s.setPoll i (if p.stop then .stopped else .delayLock) with
        sourcesmutex := none, sources := [] }, ?_, rfl⟩
      simp [Step, ofPartial, step, hc, hp, State.pollStep, hat]
    all_goals cases hpc

/-- While `created` is cleared outside the two tests, every lock of the receive thread is
followed by its unlock: a lock without one belongs to the data access that goes on. What
a `BeginDataAccess` waits for is free or held by a poll thread that gives it back. -/
theorem data_access_balanced {as : List Act} {s : State}
    (h : Run (restrict Step clearsOutside) State.initial as s) :
    (countSteps step acquires State.initial as = countSteps step releases State.initial as ∨
      countSteps step acquires State.initial as =
        countSteps step releases State.initial as + 1 ∧
        ∃ pc, s.recv = some pc ∧ inDataAccess pc) ∧
    (∀ n, s.sourcesmutex = some (.recv n) →
      n = s.started ∧ ∃ pc, s.recv = some pc ∧ inDataAccess pc) ∧
    (s.recv = some .lock → s.call ≠ .exited → s.sourcesmutex = none ∨
      ∃ i t, Step s (.poll i false []) t ∧ t.sourcesmutex = none) := by
  have haccess := Access.run h
  have hthreads := Orderly.reachable ⟨as, h.of_restrict⟩
  have hcount := acquired_eq h.of_restrict
  refine ⟨?_, fun n ho ↦ ?_, fun hl hc ↦ ?_⟩
  · cases ho : s.sourcesmutex with
    | none => left; simpa [recvHolds, ho] using hcount.symm
    | some owner =>
      cases owner with
      | poll i => left; simpa [recvHolds, ho] using hcount.symm
      | recv n =>
        obtain ⟨-, pc, hr, hin, -⟩ := haccess.holder n ho
        refine .inr ⟨?_, pc, hr, hin⟩
        simp only [recvHolds, ho, Bool.toNat_true] at hcount
        omega
  · obtain ⟨hn, pc, hr, hin, -⟩ := haccess.holder n ho
    exact ⟨hn, pc, hr, hin⟩
  · cases ho : s.sourcesmutex with
    | none => exact .inl rfl
    | some owner =>
      cases owner with
      | poll i => exact .inr ⟨i, poll_releases hthreads hc ho⟩
      | recv n =>
        obtain ⟨-, pc, hr, hin, -⟩ := haccess.holder n ho
        cases hl.symm.trans hr
        cases hin

def start (recvs : ℕ) : List Act :=
  Act.createSession 4 :: List.replicate 5 (Act.call false) ++
    List.replicate recvs (Act.recv false)

/-- The calls of `destroySession` up to the join, the steps that the receive thread has
left to its end, and the join. -/
def stop (recvs : ℕ) : List Act :=
  [Act.destroySession, Act.call false, Act.call false, Act.poll 0 false []] ++
    List.replicate 5 (Act.call false) ++ List.replicate recvs (Act.recv false) ++ [Act.call false]

/-- Two sessions, the first of which is destroyed while its receive thread rests. -/
theorem data_access_balanced_twice :
    ∃ s, Run (restrict Step clearsOutside) State.initial (start 11 ++ stop 3 ++ start 5) s ∧
      s.started = 2 ∧ s.recv = some .lock ∧ (s.sourcesmutex = none ∨
        ∃ i t, Step s (.poll i false []) t ∧ t.sourcesmutex = none) := by
  have hexec : (exec (guarded step clearsOutside) State.initial (start 11 ++ stop 3 ++ start 5)).map
      (fun s ↦ (s.started, s.recv, s.call)) = some (2, some .lock, .idle) := by decide +kernel
  obtain ⟨s, hs, heq⟩ := Option.map_eq_some_iff.mp hexec
  simp only [Prod.mk.injEq] at heq
  obtain ⟨hstarted, hrecv, hcall⟩ := heq
  have hrun := run_restrict_of_exec hs
  have hnot : s.call ≠ .exited := by simp [hcall]
  exact ⟨s, hrun, hstarted, hrecv, (data_access_balanced hrun).2.2 hrecv hnot⟩

/-- A thread that waits for a mutex which a thread of an earlier session has kept. -/
structure Stuck (s : State) : Prop where
  threads : Orderly s
  waiting : s.recv = some .lock
  kept : ∃ n, n < s.started ∧ s.sourcesmutex = some (.recv n)

theorem Stuck.callStep {s t : State} (h : Stuck s) {fail : Bool}
    (ht : s.callStep fail = some t) : t.recv = s.recv ∧ t.started = s.started := by
  obtain ⟨hthread, hcreates⟩ := h.threads.present _ h.waiting
  unfold State.callStep at ht
  cases hcall : s.call <;> simp only [hcall, creates] at ht hcreates
  case stopPoll =>
    cases ht
    unfold State.stopPollThread
    cases s.pollthread <;> exact ⟨rfl, rfl⟩
  case joining => simp [h.waiting] at ht
  all_goals first
    | (try split at ht) <;> cases ht <;> exact ⟨rfl, rfl⟩
    | cases hcreates

theorem Stuck.pollStep {s t : State} (h : Stuck s) {i : ℕ} {p : Poll}
    (hp : s.polls[i]? = some p) {fail : Bool} {sources : List ℕ}
    (ht : s.pollStep i p fail sources = some t) :
    t.recv = s.recv ∧ t.started = s.started ∧ t.sourcesmutex = s.sourcesmutex := by
  obtain ⟨n, hn, hkept⟩ := h.kept
  have hfree : pollOwnsAt p.pc = false := by
    cases hpc : pollOwnsAt p.pc with
    | false => rfl
    | true =>
      have howner := (h.threads.polls i).mpr (by simp [pollOwns, hp, hpc])
      cases hkept.symm.trans howner
  unfold State.pollStep at ht
  cases hpc : p.pc <;> simp only [hpc, pollOwnsAt] at ht hfree
  case delayLock | processLock => simp [hkept] at ht
  case stopped => cases ht
  all_goals first
    | cases ht; exact ⟨rfl, rfl, rfl⟩
    | cases hfree

theorem Stuck.step {s t : State} {a : Act} (h : Stuck s) (hst : Step s a t) : Stuck t := by
  obtain ⟨n, hn, hkept⟩ := h.kept
  have hthreads := h.threads.step hst
  cases hst.move with
  | refused => exact h
  | createSession hc ht =>
    have hthread := (h.threads.present _ h.waiting).1
    rw [ht] at hthread
    cases hthread
  | destroySession => exact ⟨hthreads, h.waiting, h.kept⟩
  | call fail ht =>
    obtain ⟨hr, hs⟩ := h.callStep ht
    refine ⟨hthreads, hr.trans h.waiting, n, hs ▸ hn, ?_⟩
    exact (callStep_mutex ht).trans hkept
  | recv fail hpc ht =>
    cases h.waiting.symm.trans hpc
    simp [State.recvStep, hkept] at ht
  | poll i fail sources hp ht =>
    obtain ⟨hr, hs, hm⟩ := h.pollStep hp ht
    exact ⟨hthreads, hr.trans h.waiting, n, hs ▸ hn, hm.trans hkept⟩

theorem Stuck.forever {s t : State} (h : Stuck s) (hr : Reachable Step s t) : Stuck t :=
  hr.invariant (fun _ _ _ hst hs ↦ hs.step hst) h

/-- `BYEDestroy` clears `created` while the receive thread iterates: `EndDataAccess` does
not unlock, and the receive thread of the next session waits forever. -/
theorem data_access_left_locked :
    ∃ s, Reachable Step State.initial s ∧ s.sourcesmutex = some (.recv 1) ∧
      ∀ t, Reachable Step s t → t.recv = some .lock ∧
        ∃ n, n < t.started ∧ t.sourcesmutex = some (.recv n) := by
  have hexec : (exec step State.initial (start 6 ++ stop 5 ++ start 5)).map
      (fun s ↦ (s.started, s.recv, s.sourcesmutex)) = some (2, some .lock, some (.recv 1)) := by
    decide +kernel
  obtain ⟨s, hreach, heq⟩ := exists_reachable_of_exec _ hexec
  simp only [Prod.mk.injEq] at heq
  obtain ⟨hstarted, hrecv, hkept⟩ := heq
  have hstuck : Stuck s := ⟨.reachable hreach, hrecv, 1, by omega, hkept⟩
  refine ⟨s, hreach, hkept, fun t ht ↦ ?_⟩
  have hstuck' := hstuck.forever ht
  exact ⟨hstuck'.waiting, hstuck'.kept⟩

end VirtualCamera.Service.DataAccess
