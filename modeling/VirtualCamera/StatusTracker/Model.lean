import VirtualCamera.Library.KeyedVector
import VirtualCamera.Library.Transition

namespace VirtualCamera.StatusTracker

open Library Library.Transition

inductive ComponentState
  | IDLE
  | ACTIVE
  deriving DecidableEq, Repr

/-- The time of a fence that has not signalled. -/
def INT64_MAX : ℤ := 2 ^ 63 - 1

structure StateChange (F : Type) where
  id : ℤ
  state : ComponentState
  fence : F

/-- `changing` counts the calls that have changed the components and not yet told the thread,
and `notified` are the calls of `notifyStatus`. -/
structure State (F : Type) where
  mPendingChangeQueue : List (StateChange F) := []
  mComponentsChanged : Bool := false
  mNextComponentId : ℤ := 0
  mStates : KeyedVector ℤ ComponentState := ∅
  mIdleFence : F
  mDeviceState : ComponentState := .IDLE
  parent : Bool := true
  changing : ℕ := 0
  notified : List ComponentState := []

/-- `getSignalTime` is what the fences say at the evaluations of an iteration, which are
numbered. -/
inductive Label (F : Type)
  | addComponent
  | removeComponent (id : ℤ)
  | componentsChanged
  | markComponent (id : ℤ) (state : ComponentState) (componentFence : F)
  | parentDies
  | threadLoop (timedOut : Bool) (getSignalTime : ℕ → F → ℤ)

variable {F : Type}

def getDeviceStateLocked (mStates : KeyedVector ℤ ComponentState) (mIdleFence : F)
    (getSignalTime : F → ℤ) : ComponentState :=
  if mStates.values.any (· = .ACTIVE) then .ACTIVE
  else
    let fencesDone := getSignalTime mIdleFence ≠ INT64_MAX
    if fencesDone then .IDLE else .ACTIVE

/-- The variables of the loop over the pending changes. -/
structure Loop (F : Type) where
  mStates : KeyedVector ℤ ComponentState
  mIdleFence : F
  prevState : ComponentState
  mStateTransitions : List ComponentState
  evaluations : ℕ

/-- `merge` is `Fence::merge`. -/
def update (merge : F → F → F) (getSignalTime : ℕ → F → ℤ) (l : Loop F)
    (newState : StateChange F) : Loop F :=
  match l.mStates.find? newState.id with
  | none => l
  | some _ =>
    let mStates := l.mStates.add newState.id newState.state
    let mIdleFence := merge l.mIdleFence newState.fence
    let state := getDeviceStateLocked mStates mIdleFence (getSignalTime l.evaluations)
    { mStates := mStates
      mIdleFence := mIdleFence
      prevState := state
      mStateTransitions :=
        if state ≠ l.prevState then l.mStateTransitions ++ [state] else l.mStateTransitions
      evaluations := l.evaluations + 1 }

namespace State

def create (mIdleFence : F) : State F := { mIdleFence := mIdleFence }

def addComponent (s : State F) : State F :=
  { s with
    mNextComponentId := s.mNextComponentId + 1
    mStates := s.mStates.add s.mNextComponentId .IDLE
    changing := s.changing + 1 }

def removeComponent (s : State F) (id : ℤ) : State F :=
  match s.mStates.find? id with
  | none => s
  | some _ => { s with mStates := s.mStates.removeItem id, changing := s.changing + 1 }

def markComponent (s : State F) (id : ℤ) (state : ComponentState) (componentFence : F) :
    State F :=
  { s with mPendingChangeQueue := s.mPendingChangeQueue ++ [⟨id, state, componentFence⟩] }

/-- The first pass, for changed components or fence completions. -/
def firstPass (s : State F) (getSignalTime : ℕ → F → ℤ) : Loop F :=
  let prevState := getDeviceStateLocked s.mStates s.mIdleFence (getSignalTime 0)
  { mStates := s.mStates
    mIdleFence := s.mIdleFence
    prevState := prevState
    mStateTransitions := if prevState ≠ s.mDeviceState then [prevState] else []
    evaluations := 1 }

def collect (merge : F → F → F) (s : State F) (getSignalTime : ℕ → F → ℤ) : Loop F :=
  s.mPendingChangeQueue.foldl (update merge getSignalTime) (s.firstPass getSignalTime)

/-- An iteration of `threadLoop` after its wait. -/
def process (merge : F → F → F) (s : State F) (getSignalTime : ℕ → F → ℤ) : State F :=
  let l := s.collect merge getSignalTime
  { s with
    mStates := l.mStates
    mIdleFence := l.mIdleFence
    mPendingChangeQueue := []
    mComponentsChanged := false
    mDeviceState := l.prevState
    notified := if s.parent then s.notified ++ l.mStateTransitions else s.notified }

def step (merge : F → F → F) (s : State F) : Label F → Option (State F)
  | .addComponent => some s.addComponent
  | .removeComponent id => some (s.removeComponent id)
  | .componentsChanged =>
    if 0 < s.changing then
      some { s with mComponentsChanged := true, changing := s.changing - 1 }
    else none
  | .markComponent id state componentFence => some (s.markComponent id state componentFence)
  | .parentDies => some { s with parent := false }
  | .threadLoop timedOut getSignalTime =>
    if !s.mPendingChangeQueue.isEmpty || s.mComponentsChanged || timedOut then
      some (s.process merge getSignalTime)
    else none

def Step (merge : F → F → F) : State F → Label F → State F → Prop := ofPartial (step merge)

end State

end VirtualCamera.StatusTracker
