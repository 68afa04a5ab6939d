import Mathlib.Data.List.Basic
import VirtualCamera.Library.Transition

namespace VirtualCamera.Service.Lifecycle

open Library.Transition

/-- Where `thread_recv_virtualcamera` is, `sReceiveVideoPacket` included. -/
inductive RecvPc
  | begin
  | allocated
  | cleared
  | test
  | beginDataAccess
  | lock
  | gotoFirstSource
  | getNextPacket
  | receiveData
  | gotoNextSource
  | endDataAccess
  | unlock
  | wait
  | ending
  | finished
  deriving DecidableEq, Repr

/-- Where `RTPPollThread::Thread` is. The two places that hold the mutex are the look at
the transmission delay and `ProcessPolledData`. -/
inductive PollPc
  | starting
  | delayLock
  | delay
  | waiting
  | processLock
  | process
  | stopped
  deriving DecidableEq, Repr

structure Poll where
  pc : PollPc
  stop : Bool
  deriving DecidableEq, Repr

/-- Where the call is that holds `mInputMutex`. -/
inductive CallPc
  | idle
  | sessionCreate
  | setCreated
  | addDestination
  | threadCreate
  | threadRun
  | byeDestroy
  | stopPoll
  | waitPoll
  | sendBye
  | clearSources
  | clearCreated
  | setRecvQuit
  | joining
  | exited
  deriving DecidableEq, Repr

/-- A holder of `sourcesmutex`: the receive thread that was started as the `n`-th, or a
poll thread. -/
inductive Owner
  | recv (n : ℕ)
  | poll (i : ℕ)
  deriving DecidableEq, Repr

/-- `recv` is the thread behind `msRecvThread->t`. `sources` has the number of packets that
wait in each source. -/
structure State where
  call : CallPc
  msRecvThread : Bool
  recv : Option RecvPc
  started : ℕ
  msRecvQuit : ℕ
  created : Bool
  sources : List ℕ
  current : ℕ
  sourcesmutex : Option Owner
  polls : List Poll
  pollthread : Option ℕ
  deriving DecidableEq, Repr

def State.initial : State where
  call := .idle
  msRecvThread := false
  recv := none
  started := 0
  msRecvQuit := 1
  created := false
  sources := []
  current := 0
  sourcesmutex := none
  polls := []
  pollthread := none

/-- `fail` is a call that can fail and does: an allocation, `RTPSession::Create`,
`AddDestination`, `pthread_create`, a wait for data of the poll thread. -/
inductive Act
  | createSession (count : ℕ)
  | destroySession
  | call (fail : Bool)
  | recv (fail : Bool)
  | poll (i : ℕ) (fail : Bool) (sources : List ℕ)
  deriving DecidableEq, Repr

/-- The poll thread may still run after five seconds: `JThread::Kill` only marks it. -/
def State.pollThreadStopped (s : State) : Bool :=
  match s.pollthread.bind (s.polls[·]?) with
  | some p => p.pc = .stopped
  | none => true

def State.stopPollThread (s : State) : State :=
  match s.pollthread with
  | some i => { s with polls := s.polls.modify i fun p ↦ { p with stop := true } }
  | none => s

/-- One step of `createSession` or `destroySession`. `RTPSession::Create` puts the own source in
the table. `RTPSession::Destroy` makes the steps of `BYEDestroy` without the BYE packets. -/
def State.callStep (s : State) (fail : Bool) : Option State :=
  match s.call with
  | .idle | .exited => none
  | .sessionCreate =>
    if s.created ∨ fail then some { s with call := .exited }
    else some { s with
      call := .setCreated
      sources := [0]
      polls := s.polls ++ [⟨.starting, false⟩]
      pollthread := some s.polls.length }
  | .setCreated => some { s with call := .addDestination, created := true }
  | .addDestination => some { s with call := if fail then .exited else .threadCreate }
  | .threadCreate =>
    if fail then some { s with call := .idle }
    else some { s with call := .threadRun, msRecvThread := true, recv := none }
  | .threadRun =>
    if fail then some { s with call := .idle }
    else some { s with call := .idle, recv := some .begin, started := s.started + 1 }
  | .byeDestroy => some { s with call := if s.created then .stopPoll else .setRecvQuit }
  | .stopPoll => some { s.stopPollThread with call := .waitPoll }
  | .waitPoll => if s.pollThreadStopped ∨ fail then some { s with call := .sendBye } else none
  | .sendBye => some { s with call := .clearSources }
  | .clearSources => some { s with call := .clearCreated, sources := [] }
  | .clearCreated => some { s with call := .setRecvQuit, created := false }
  | .setRecvQuit => some { s with call := .joining, msRecvQuit := 1 }
  | .joining =>
    if s.recv = none ∨ s.recv = some .finished then
      some { s with call := .idle, msRecvThread := false, recv := none }
    else none

/-- One step of the receive thread, which is at `pc`. -/
def State.recvStep (s : State) (pc : RecvPc) (fail : Bool) : Option State :=
  match pc with
  | .begin => some { s with recv := some (if fail then .finished else .allocated) }
  | .allocated => some { s with recv := some .cleared, msRecvQuit := 0 }
  | .cleared => some { s with recv := some .test }
  | .test => some { s with recv := some (if s.msRecvQuit = 0 then .beginDataAccess else .ending) }
  | .beginDataAccess => some { s with recv := some (if s.created then .lock else .gotoFirstSource) }
  | .lock =>
    if s.sourcesmutex = none then
      some { s with recv := some .gotoFirstSource, sourcesmutex := some (.recv s.started) }
    else none
  | .gotoFirstSource =>
    if s.created ∧ 0 < s.sources.length then
      some { s with recv := some .getNextPacket, current := 0 }
    else some { s with recv := some .endDataAccess }
  | .getNextPacket =>
    if s.created ∧ 0 < s.sources.getD s.current 0 then
      some { s with
        recv := some .receiveData
        sources := s.sources.modify s.current (· - 1) }
    else some { s with recv := some .gotoNextSource }
  | .receiveData => some { s with recv := some .getNextPacket }
  | .gotoNextSource =>
    if s.created ∧ s.current + 1 < s.sources.length then
      some { s with recv := some .getNextPacket, current := s.current + 1 }
    else some { s with recv := some .endDataAccess }
  | .endDataAccess => some { s with recv := some (if s.created then .unlock else .wait) }
  | .unlock => some { s with recv := some .wait, sourcesmutex := none }
  | .wait => some { s with recv := some .test }
  | .ending => some { s with recv := some .finished }
  | .finished => none

def State.setPoll (s : State) (i : ℕ) (pc : PollPc) : State :=
  { s with polls := s.polls.modify i fun p ↦ { p with pc := pc } }

/-- One step of the `i`-th poll thread. What `ProcessPolledData` leaves in the source
table depends on the network. -/
def State.pollStep (s : State) (i : ℕ) (p : Poll) (fail : Bool) (sources : List ℕ) : Option State :=
  match p.pc with
  | .starting => some (s.setPoll i (if p.stop then .stopped else .delayLock))
  | .delayLock =>
    if s.sourcesmutex = none then
      some { s.setPoll i .delay with sourcesmutex := some (.poll i) }
    else none
  | .delay => some { s.setPoll i .waiting with sourcesmutex := none }
  | .waiting => some (s.setPoll i (if fail then .stopped else .processLock))
  | .processLock =>
    if s.sourcesmutex = none then
      some { s.setPoll i .process with sourcesmutex := some (.poll i) }
    else none
  | .process => some
      { s.setPoll i (if fail ∨ p.stop then .stopped else .delayLock) with
        sourcesmutex := none
        sources := sources }
  | .stopped => none

def step (s : State) : Act → Option State
  | .createSession count =>
    if s.call ≠ .idle then none
    else if count = 4 ∧ ¬ s.msRecvThread then some { s with call := .sessionCreate }
    else some s
  | .destroySession =>
    if s.call ≠ .idle then none
    else if s.msRecvThread then some { s with call := .byeDestroy }
    else some s
  | .call fail => s.callStep fail
  | .recv fail => if s.call = .exited then none else s.recv.bind fun pc ↦ s.recvStep pc fail
  | .poll i fail sources =>
    if s.call = .exited then none
    else s.polls[i]?.bind fun p ↦ s.pollStep i p fail sources

abbrev Step : State → Act → State → Prop := ofPartial step

/-- What a step is, by the party that makes it. -/
inductive Move (s : State) : Act → State → Prop
  | refused {a : Act} (ha : a = .destroySession ∨ ∃ count, a = .createSession count) : Move s a s
  | createSession (hc : s.call = .idle) (ht : s.msRecvThread = false) :
      Move s (.createSession 4) { s with call := .sessionCreate }
  | destroySession (hc : s.call = .idle) (ht : s.msRecvThread = true) :
      Move s .destroySession { s with call := .byeDestroy }
  | call {t : State} (fail : Bool) (h : s.callStep fail = some t) : Move s (.call fail) t
  | recv {t : State} (fail : Bool) {pc : RecvPc} (hs : s.recv = some pc)
      (h : s.recvStep pc fail = some t) : Move s (.recv fail) t
  | poll {t : State} (i : ℕ) (fail : Bool) (sources : List ℕ) {p : Poll}
      (hp : s.polls[i]? = some p) (h : s.pollStep i p fail sources = some t) :
      Move s (.poll i fail sources) t

theorem Step.move {s t : State} {a : Act} (h : Step s a t) : Move s a t := by
  unfold Step ofPartial at h
  cases a with
  | createSession count =>
    simp only [step] at h
    split_ifs at h with hcall hstart
    · obtain ⟨rfl, hthread⟩ := hstart
      cases h
      exact .createSession (not_not.mp hcall) (by simpa using hthread)
    · cases h
      exact .refused (.inr ⟨count, rfl⟩)
  | destroySession =>
    simp only [step] at h
    split_ifs at h with hcall hthread
    · cases h
      exact .destroySession (not_not.mp hcall) hthread
    · cases h
      exact .refused (.inl rfl)
  | call fail => exact .call fail h
  | recv fail =>
    simp only [step] at h
    split at h
    · cases h
    · obtain ⟨pc, hpc, ht⟩ := Option.bind_eq_some_iff.mp h
      exact .recv fail hpc ht
  | poll i fail sources =>
    simp only [step] at h
    split at h
    · cases h
    · obtain ⟨p, hp, ht⟩ := Option.bind_eq_some_iff.mp h
      exact .poll i fail sources hp ht

/-- The receive thread alone leaves the call and the session as they are, and it clears
the quit flag in one place. -/
theorem recvStep_frame {s t : State} {pc : RecvPc} {fail : Bool}
    (h : s.recvStep pc fail = some t) :
    t.call = s.call ∧ (pc ≠ .allocated → t.msRecvQuit = s.msRecvQuit) ∧
      t.recv ≠ some .begin ∧ (t.recv = some .allocated → pc = .begin) := by
  unfold State.recvStep at h
  cases pc <;> simp only at h
  case begin =>
    cases h
    cases fail <;> simp
  all_goals
    (try split at h) <;> cases h <;> simp

theorem pollStep_frame {s t : State} {i : ℕ} {p : Poll} {fail : Bool} {sources : List ℕ}
    (h : s.pollStep i p fail sources = some t) :
    t.call = s.call ∧ t.msRecvQuit = s.msRecvQuit ∧ t.recv = s.recv ∧ t.started = s.started ∧
      t.created = s.created := by
  unfold State.pollStep at h
  cases hpc : p.pc <;> simp only [hpc] at h
  all_goals (try split at h) <;> cases h <;> exact ⟨rfl, rfl, rfl, rfl, rfl⟩

end VirtualCamera.Service.Lifecycle
