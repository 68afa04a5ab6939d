import Mathlib
import VirtualCamera.Service.DataAccess

namespace VirtualCamera.Service.Stopping

open Library.Transition Lifecycle Threads

/-- `destroySession` waits for a receive thread that still runs. -/
def Waiting (s : State) : Prop :=
  s.call = .joining ∧ ∃ pc, s.recv = some pc ∧ pc ≠ .finished

/-- `destroySession` sets the quit flag when the receive thread is past its own clear. -/
def quitsAfterClear (s : State) : Act → Prop
  | .call _ => s.call = .setRecvQuit → s.recv ≠ some .begin ∧ s.recv ≠ some .allocated
  | _ => True

instance (s : State) (a : Act) : Decidable (quitsAfterClear s a) :=
  match a with
  | .call _ => inferInstanceAs (Decidable (_ → _))
  | .createSession _ | .destroySession | .recv _ | .poll .. => .isTrue trivial

/-- While `destroySession` waits, the quit flag is set and nobody is about to clear it. -/
def QuitSet (s : State) : Prop :=
  s.call = .joining → s.msRecvQuit = 1 ∧ s.recv ≠ some .begin ∧ s.recv ≠ some .allocated

theorem QuitSet.callStep {s t : State} {fail : Bool} (hok : quitsAfterClear s (.call fail))
    (ht : s.callStep fail = some t) : QuitSet t := by
  intro hjoin
  unfold State.callStep at ht
  cases hcall : s.call <;> simp only [hcall] at ht
  case setRecvQuit =>
    cases ht
    exact ⟨rfl, hok hcall⟩
  all_goals
    (try split at ht) <;> cases ht <;> cases hjoin

theorem QuitSet.recvStep {s t : State} (h : QuitSet s) {pc : RecvPc} (hs : s.recv = some pc)
    {fail : Bool} (ht : s.recvStep pc fail = some t) : QuitSet t := by
  obtain ⟨hcall, hquit, hbegin, hallocated⟩ := recvStep_frame ht
  intro hjoin
  obtain ⟨hset, hnb, hna⟩ := h (hcall ▸ hjoin)
  refine ⟨?_, hbegin, fun hr ↦ ?_⟩
  · rw [hquit fun hpc ↦ hna (hpc ▸ hs)]
    exact hset
  · exact hnb (hallocated hr ▸ hs)

theorem QuitSet.pollStep {s t : State} (h : QuitSet s) {i : ℕ} {p : Poll} {fail : Bool}
    {sources : List ℕ} (ht : s.pollStep i p fail sources = some t) : QuitSet t := by
  obtain ⟨hcall, hquit, hrecv, -⟩ := pollStep_frame ht
  intro hjoin
  rw [hquit, hrecv]
  exact h (hcall ▸ hjoin)

theorem QuitSet.step {s t : State} {a : Act} (h : QuitSet s) (hok : quitsAfterClear s a)
    (hst : Step s a t) : QuitSet t := by
  cases hst.move with
  | refused => exact h
  | createSession => exact fun hjoin ↦ by cases hjoin
  | destroySession => exact fun hjoin ↦ by cases hjoin
  | call fail ht => exact QuitSet.callStep hok ht
  | recv fail hpc ht => exact h.recvStep hpc ht
  | poll i fail sources hp ht => exact h.pollStep ht

/-- How far the receive thread is from its end, when the quit flag is set. -/
def rank : Option RecvPc → ℕ
  | none => 0
  | some .finished => 1
  | some .ending => 2
  | some .test => 3
  | some .wait => 4
  | some .unlock => 5
  | some .endDataAccess => 6
  | some .getNextPacket | some .receiveData | some .gotoNextSource => 7
  | some .gotoFirstSource => 8
  | some .lock => 9
  | some .beginDataAccess => 10
  | some .cleared => 11
  | some .allocated => 12
  | some .begin => 13

/-- The sources and packets that are still to be looked at. -/
def ahead (sources : List ℕ) (current : ℕ) : ℕ :=
  (sources.drop current).sum + (sources.length - current)

def work (s : State) : ℕ :=
  match s.recv with
  | some .getNextPacket => 3 * ahead s.sources s.current + 1
  | some .receiveData => 3 * ahead s.sources s.current + 2
  | some .gotoNextSource => 3 * ahead s.sources s.current
  | _ => 0

theorem ahead_modify {sources : List ℕ} {current : ℕ} (h : 0 < sources.getD current 0) :
    ahead (sources.modify current (· - 1)) current + 1 = ahead sources current := by
  rw [List.getD_eq_getElem?_getD] at h
  cases hget : sources[current]? with
  | none => simp [hget] at h
  | some n =>
    obtain ⟨hlen, hn⟩ := List.getElem?_eq_some_iff.mp hget
    have hpos : 0 < n := by simpa [hget] using h
    have hdrop : (sources.modify current (· - 1)).drop current =
        (n - 1) :: sources.drop (current + 1) := by
      rw [List.drop_eq_getElem_cons (by simpa using hlen)]
      congr 1
      · simp [hn]
      · rw [List.drop_modify_of_lt]
        exact Nat.lt_succ_self current
    unfold ahead
    rw [hdrop, List.drop_eq_getElem_cons hlen, hn, List.length_modify, List.sum_cons, List.sum_cons]
    omega

theorem ahead_succ {sources : List ℕ} {current : ℕ} (h : current + 1 < sources.length) :
    ahead sources (current + 1) + 1 ≤ ahead sources current := by
  unfold ahead
  rw [List.drop_eq_getElem_cons (i := current) (by omega), List.sum_cons]
  omega

/-- Every own step brings the receive thread closer to its end. -/
theorem recvStep_lt {s t : State} {pc : RecvPc} (hs : s.recv = some pc) (hq : s.msRecvQuit ≠ 0)
    {fail : Bool} (ht : s.recvStep pc fail = some t) :
    Prod.Lex (· < ·) (· < ·) (rank t.recv, work t) (rank s.recv, work s) := by
  rw [hs]
  cases pc with
  | getNextPacket =>
    simp only [State.recvStep] at ht
    split at ht
    · rename_i hpacket
      cases ht
      have hone := ahead_modify hpacket.2
      apply Prod.Lex.right
      simp only [work, hs]
      omega
    · cases ht
      apply Prod.Lex.right
      simp only [work, hs]
      omega
  | receiveData =>
    cases ht
    apply Prod.Lex.right
    simp only [work, hs]
    omega
  | gotoNextSource =>
    simp only [State.recvStep] at ht
    split at ht
    · rename_i hnext
      cases ht
      have hone := ahead_succ hnext.2
      apply Prod.Lex.right
      simp only [work, hs]
      omega
    · cases ht
      exact Prod.Lex.left _ _ (Nat.le_refl 7)
  | _ =>
    simp only [State.recvStep] at ht
    (try split at ht) <;> cases ht <;> apply Prod.Lex.left <;> simp_all [rank]

theorem work_eq_zero {s : State} (h : ∀ pc, s.recv = some pc → ownsAt false pc = false) :
    work s = 0 := by
  unfold work
  split
  case h_4 => rfl
  all_goals
    rename_i hr
    cases h _ hr

/-- A poll thread touches the sources only when the receive thread does not iterate. -/
theorem pollStep_work {s t : State} (h : Orderly s) {i : ℕ} {p : Poll}
    (hp : s.polls[i]? = some p) {fail : Bool} {sources : List ℕ}
    (ht : s.pollStep i p fail sources = some t) : work t = work s := by
  unfold State.pollStep at ht
  cases hpc : p.pc <;> simp only [hpc] at ht
  case process =>
    have howner : s.sourcesmutex = some (.poll i) :=
      (h.polls i).mpr (by simp [pollOwns, hp, hpc, pollOwnsAt])
    have hnot : ∀ pc, s.recv = some pc → ownsAt false pc = false := by
      intro pc hr
      cases ho : ownsAt false pc with
      | false => rfl
      | true => cases howner.symm.trans (h.owns pc hr (ownsAt_mono ho _))
    cases ht
    rw [work_eq_zero hnot]
    exact work_eq_zero hnot
  all_goals (try split at ht) <;> cases ht <;> rfl

/-- While `destroySession` waits, only the receive thread and the poll threads run. -/
theorem Waiting.move {s t : State} {a : Act} (h : Waiting s) (hst : Step s a t) :
    (∃ fail pc, a = .recv fail ∧ s.recv = some pc ∧ s.recvStep pc fail = some t) ∨
      ∃ i fail sources p, a = .poll i fail sources ∧ s.polls[i]? = some p ∧
        s.pollStep i p fail sources = some t := by
  obtain ⟨hjoin, pc, hr, hpc⟩ := h
  cases hst.move with
  | refused ha =>
    unfold Step ofPartial at hst
    obtain rfl | ⟨count, rfl⟩ := ha <;> simp [step, hjoin] at hst
  | createSession hc => cases hjoin.symm.trans hc
  | destroySession hc => cases hjoin.symm.trans hc
  | call fail ht => simp [State.callStep, hjoin, hr, hpc] at ht
  | recv fail hs ht => exact .inl ⟨fail, _, rfl, hs, ht⟩
  | poll i fail sources hp ht => exact .inr ⟨i, fail, sources, _, rfl, hp, ht⟩

/-- A receive thread that runs has a next step, unless it waits for the mutex. -/
theorem recv_next {s : State} (h : Waiting s) :
    (∃ t, Step s (.recv false) t) ∨ s.recv = some .lock ∧ s.sourcesmutex ≠ none := by
  obtain ⟨hjoin, pc, hr, hf⟩ := h
  have hstep : step s (.recv false) = s.recvStep pc false := by
    simp [step, hjoin, hr]
  unfold Step ofPartial
  rw [hstep]
  cases pc <;> simp only [State.recvStep]
  case finished => exact absurd rfl hf
  case lock =>
    cases hm : s.sourcesmutex with
    | none => exact .inl ⟨_, rfl⟩
    | some owner => exact .inr ⟨hr, by simp⟩
  all_goals
    left
    (try split) <;> exact ⟨_, rfl⟩

/-- While `quitsAfterClear` is kept, no state has `destroySession` waiting for a receive
thread that sees the quit flag clear. While it waits, that thread makes only finitely many
more steps, and it has a next one unless it waits for the mutex. -/
theorem stop_request_seen {s : State}
    (h : Reachable (restrict Step quitsAfterClear) State.initial s) :
    (Waiting s → s.msRecvQuit ≠ 0) ∧
    (Waiting s → (∃ t, Step s (.recv false) t) ∨ s.recv = some .lock ∧ s.sourcesmutex ≠ none) ∧
    ∀ (run : ℕ → State) (acts : ℕ → Act), run 0 = s → (∀ n, Waiting (run n)) →
      (∀ n, Step (run n) (acts n) (run (n + 1))) →
      ∃ N, ∀ n, N ≤ n → ∀ fail, acts n ≠ .recv fail := by
  have hinv : Orderly s ∧ QuitSet s := by
    apply h.invariant (P := fun s ↦ Orderly s ∧ QuitSet s)
    · rintro s a t ⟨hst, hok⟩ ⟨hthreads, hquit⟩
      exact ⟨hthreads.step hst, hquit.step hok hst⟩
    · exact ⟨.initial, fun hjoin ↦ by cases hjoin⟩
  refine ⟨fun hw ↦ ?_, recv_next, fun run acts hzero hwait hstep ↦ ?_⟩
  · simp [(hinv.2 hw.1).1]
  have hall : ∀ n, Orderly (run n) ∧ QuitSet (run n) := by
    intro n
    induction n with
    | zero => exact hzero ▸ hinv
    | succ n ih =>
      refine ⟨ih.1.step (hstep n), ?_⟩
      rcases (hwait n).move (hstep n) with ⟨fail, pc, -, hs, ht⟩ | ⟨i, fail, sources, p, -, -, ht⟩
      · exact ih.2.recvStep hs ht
      · exact ih.2.pollStep ht
  have hwf : WellFounded (Prod.Lex (· < ·) (· < ·) : ℕ × ℕ → ℕ × ℕ → Prop) :=
    WellFounded.prod_lex Nat.lt_wfRel.wf Nat.lt_wfRel.wf
  have hend := eventually_none hwf (μ := fun n ↦ (rank (run n).recv, work (run n)))
    (p := fun n ↦ ∃ fail, acts n = .recv fail) ?_ ?_
  · obtain ⟨N, hN⟩ := hend
    exact ⟨N, fun n hn fail ha ↦ hN n hn ⟨fail, ha⟩⟩
  · intro n hcond
    obtain ⟨fail, ha⟩ := hcond
    rcases (hwait n).move (hstep n) with ⟨fail', pc, -, hs, ht⟩ | ⟨i, _, _, _, ha', -, -⟩
    · have hquit := ((hall n).2 (hwait n).1).1
      exact recvStep_lt hs (by simp [hquit]) ht
    · cases ha.symm.trans ha'
  · intro n hn
    rcases (hwait n).move (hstep n) with ⟨fail, pc, ha, -⟩ | ⟨i, fail, sources, p, -, hp, ht⟩
    · exact absurd ⟨fail, ha⟩ hn
    · have hrecv := (pollStep_frame ht).2.2.1
      simp only [hrecv, pollStep_work (hall n).1 hp ht]

/-- A receive thread in its loop is asked to stop, and the call waits for it. -/
theorem stop_request_seen_looping :
    ∃ s, Reachable (restrict Step quitsAfterClear) State.initial s ∧ Waiting s ∧
      s.msRecvQuit ≠ 0 := by
  have hexec : (exec (guarded step quitsAfterClear) State.initial
      (DataAccess.start 5 ++ Act.destroySession :: List.replicate 2 (Act.call false) ++
        Act.call true :: List.replicate 4 (Act.call false))).map (fun s ↦ (s.call, s.recv)) =
      some (.joining, some .lock) := by decide +kernel
  obtain ⟨s, hs, heq⟩ := Option.map_eq_some_iff.mp hexec
  simp only [Prod.mk.injEq] at heq
  have hreach : Reachable (restrict Step quitsAfterClear) State.initial s :=
    ⟨_, run_restrict_of_exec hs⟩
  have hwaiting : Waiting s := ⟨heq.1, .lock, heq.2, by decide⟩
  exact ⟨s, hreach, hwaiting, (stop_request_seen hreach).1 hwaiting⟩

/-- A thread that has cleared the flag of the call that waits for it. -/
structure Missed (s : State) : Prop where
  waiting : s.call = .joining
  running : ∃ pc, s.recv = some pc ∧ pc ≠ .finished ∧ pc ≠ .ending ∧ pc ≠ .begin
  clear : s.msRecvQuit = 0

theorem Missed.step {s t : State} {a : Act} (h : Missed s) (hst : Step s a t) : Missed t := by
  obtain ⟨pc, hr, hf, he, hb⟩ := h.running
  have hwaiting : Waiting s := ⟨h.waiting, pc, hr, hf⟩
  rcases hwaiting.move hst with ⟨fail, pc', -, hs, ht⟩ | ⟨i, fail, sources, p, -, -, ht⟩
  · cases hr.symm.trans hs
    have hquit := h.clear
    have hcall := h.waiting
    unfold State.recvStep at ht
    cases pc <;> simp only at ht
    case begin => exact absurd rfl hb
    case ending => exact absurd rfl he
    case finished => exact absurd rfl hf
    all_goals
      (try split at ht) <;> cases ht <;> refine ⟨hcall, ⟨_, rfl, ?_⟩, ?_⟩ <;>
        first | assumption | rfl | decide
  · obtain ⟨hcall, hquit, hrecv, -⟩ := pollStep_frame ht
    refine ⟨hcall.trans h.waiting, ⟨pc, hrecv.trans hr, hf, he, hb⟩, hquit.trans h.clear⟩

/-- `destroySession` overtakes the start of the receive thread: the thread then clears the
flag that was set for it, and the call waits forever. -/
theorem stop_request_lost :
    ∃ s, Reachable Step State.initial s ∧
      ∀ t, Reachable Step s t → Waiting t ∧ t.msRecvQuit = 0 := by
  have hexec : (exec step State.initial
      (DataAccess.start 0 ++ Act.destroySession :: List.replicate 2 (Act.call false) ++
        Act.poll 0 false [] :: List.replicate 5 (Act.call false) ++
        List.replicate 3 (Act.recv false))).map
      (fun s ↦ (s.call, s.recv, s.msRecvQuit)) = some (.joining, some .test, 0) := by
    decide +kernel
  obtain ⟨s, hreach, heq⟩ := exists_reachable_of_exec _ hexec
  simp only [Prod.mk.injEq] at heq
  obtain ⟨hcall, hrecv, hquit⟩ := heq
  have hmissed : Missed s := ⟨hcall, ⟨_, hrecv, by decide⟩, hquit⟩
  refine ⟨s, hreach, fun t ht ↦ ?_⟩
  have hmissed' : Missed t := ht.invariant (fun _ _ _ hst hs ↦ hs.step hst) hmissed
  obtain ⟨pc, hr, hf, -⟩ := hmissed'.running
  exact ⟨⟨hmissed'.waiting, pc, hr, hf⟩, hmissed'.clear⟩

end VirtualCamera.Service.Stopping
