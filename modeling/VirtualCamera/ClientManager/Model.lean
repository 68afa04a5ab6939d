import Mathlib
import VirtualCamera.Library.Transition

namespace VirtualCamera.ClientManager

open Library.Transition

def INVALID_ADJ : ℤ := -10000

def UNKNOWN_ADJ : ℤ := 1001

structure ClientPriority where
  mScore : ℤ
  mState : ℤ
  mIsVendorClient : Bool
  mScoreOffset : ℤ
  deriving DecidableEq, Repr

namespace ClientPriority

def setScore (p : ClientPriority) (score : ℤ) : ClientPriority :=
  { p with mScore := if score = INVALID_ADJ then UNKNOWN_ADJ else p.mScoreOffset + score }

def setState (p : ClientPriority) (state : ℤ) : ClientPriority := { p with mState := state }

def create (score state : ℤ) (isVendorClient : Bool) (scoreOffset : ℤ) : ClientPriority :=
  (setScore ⟨0, 0, isVendorClient, scoreOffset⟩ score).setState state

/-- `operator<`: the lower of two priorities counts for more. -/
def lt (p q : ClientPriority) : Bool :=
  if p.mScore = q.mScore then p.mState < q.mState else p.mScore < q.mScore

def le (p q : ClientPriority) : Bool := !q.lt p

def ge (p q : ClientPriority) : Bool := !p.lt q

/-- `operator==` does not look at the vendor flag and the offset. -/
def eq (p q : ClientPriority) : Bool := p.mScore = q.mScore && p.mState = q.mState

/-- `ClientDescriptor::setPriority`. -/
def set (p q : ClientPriority) : ClientPriority :=
  if p.mIsVendorClient then p else (p.setScore q.mScore).setState q.mState

end ClientPriority

/-- What is immutable once a `ClientDescriptor` has been constructed. -/
structure ClientDescriptor (K : Type) where
  mKey : K
  mCost : ℤ
  mConflicting : List K
  mOwnerId : ℤ
  deriving DecidableEq, Repr

variable {P K : Type} [DecidableEq P] [DecidableEq K]

def ClientDescriptor.isConflicting (c : ClientDescriptor K) (key : K) : Bool :=
  key = c.mKey || c.mConflicting.contains key

inductive Event (P : Type)
  | onClientAdded (client : P)
  | onClientRemoved (client : P)
  deriving DecidableEq

/-- Descriptors are known by their pointers, of the type `P`. `events` are the calls of the
listener, the latest last. -/
structure State (P : Type) where
  mMaxCost : ℤ
  mClients : List P := []
  priority : P → ClientPriority
  events : List (Event P) := []

inductive Label (P K : Type)
  | addAndEvict (client : Option P) (beyond : P → Bool)
  | updatePriorities (ownerPriorityList : ℤ → Option ClientPriority)
  | removeAll
  | removeKey (key : K)
  | remove (value : Option P)

namespace State

def create (mMaxCost : ℤ) (priority : P → ClientPriority) : State P :=
  { mMaxCost := mMaxCost, priority := priority }

variable (clients : P → ClientDescriptor K)

def getCurrentCostLocked (s : State P) : ℤ := (s.mClients.map fun i ↦ (clients i).mCost).sum

/-- The MRU of the owners tied for having the highest priority. -/
def highestPriorityOwner (s : State P) (client : P) : ℤ :=
  let highest := s.mClients.foldl (fun (highest : ClientPriority × ℤ) i ↦
    if (s.priority i).le highest.1 then (s.priority i, (clients i).mOwnerId) else highest)
    (s.priority client, (clients client).mOwnerId)
  if highest.1.eq (s.priority client) then (clients client).mOwnerId else highest.2

def conflicting (client i : P) : Bool :=
  (clients i).mKey = (clients client).mKey || (clients i).isConflicting (clients client).mKey ||
    (clients client).isConflicting (clients i).mKey

/-- The loop of `wouldEvictLocked`; `none` is the return of the input. -/
def evictLoop (s : State P) (client : P) : List P → List P × ℤ → Option (List P × ℤ)
  | [], result => some result
  | i :: rest, (evictList, totalCost) =>
    let key := (clients client).mKey
    let priority := s.priority client
    let owner := (clients client).mOwnerId
    let curKey := (clients i).mKey
    let curCost := (clients i).mCost
    let curPriority := s.priority i
    let curOwner := (clients i).mOwnerId
    if conflicting clients client i && curPriority.lt priority then none
    else if conflicting clients client i && owner = curOwner then
      if curKey = key then s.evictLoop client rest (evictList ++ [i], totalCost - curCost)
      else none
    else if conflicting clients client i || ((totalCost > s.mMaxCost && curCost > 0) &&
        curPriority.ge priority &&
        !(s.highestPriorityOwner clients client = owner && owner = curOwner)) then
      s.evictLoop client rest (evictList ++ [i], totalCost - curCost)
    else s.evictLoop client rest (evictList, totalCost)

/-- The clients that prevent the incoming one from being added. -/
def incompatible (s : State P) (client : P) (totalCost : ℤ) : List P :=
  s.mClients.filter fun i ↦ (s.priority i).lt (s.priority client) &&
    (conflicting clients client i || (totalCost > s.mMaxCost && (clients i).mCost > 0))

def wouldEvict (s : State P) (client : P) : List P :=
  let totalCost := s.getCurrentCostLocked clients + (clients client).mCost
  match s.evictLoop clients client s.mClients ([], totalCost) with
  | none => [client]
  | some (evictList, totalCost) =>
    if totalCost > s.mMaxCost &&
        s.highestPriorityOwner clients client ≠ (clients client).mOwnerId then [client]
    else evictList

def wouldEvictLocked (s : State P) (client : Option P) (returnIncompatibleClients : Bool) :
    List (Option P) :=
  match client with
  | none => [none]
  | some client =>
    if returnIncompatibleClients then
      (s.incompatible clients client
        (s.getCurrentCostLocked clients + (clients client).mCost)).map some
    else (s.wouldEvict clients client).map some

/-- The clients that `remove_if` keeps while its cursor is in the eviction list, and those it
still has before it when the cursor has come to the end. -/
def eraseEvicted : List P → List P → List P × List P
  | [], rest => ([], rest)
  | _ :: _, [] => ([], [])
  | i :: evicted, cur :: rest =>
    if (clients cur).mKey = (clients i).mKey then eraseEvicted evicted rest
    else
      let (kept, behind) := eraseEvicted (i :: evicted) rest
      (cur :: kept, behind)

/-- `beyond` is how the comparison with what lies past the end of the eviction list turns out:
the cursor is dereferenced there too. -/
def evict (s : State P) (evicted : List P) (beyond : P → Bool) : State P :=
  match evicted with
  | [] => s
  | i :: _ =>
    let (kept, behind) := eraseEvicted clients evicted s.mClients
    { s with
      events := s.events ++ [.onClientRemoved i]
      mClients := kept ++ behind.filter (!beyond ·) }

def add (s : State P) (client : P) : State P :=
  { s with events := s.events ++ [.onClientAdded client], mClients := s.mClients ++ [client] }

def addAndEvict (s : State P) (client : Option P) (beyond : P → Bool) :
    List (Option P) × State P :=
  let evicted := s.wouldEvictLocked clients client false
  match client with
  | none => (evicted, s)
  | some client =>
    if evicted.head? = some (some client) then (evicted, s)
    else (evicted, (s.evict clients (s.wouldEvict clients client) beyond).add client)

def updatePriorities (s : State P) (ownerPriorityList : ℤ → Option ClientPriority) : State P :=
  { s with
    priority := fun i ↦
      if i ∈ s.mClients then
        match ownerPriorityList (clients i).mOwnerId with
        | some priority => (s.priority i).set priority
        | none => s.priority i
      else s.priority i }

/-- `remove_if` with a listener. -/
def removeIf (s : State P) (p : P → Bool) : State P :=
  { s with
    events := s.events ++ (s.mClients.filter p).map .onClientRemoved
    mClients := s.mClients.filter (!p ·) }

def removeAll (s : State P) : State P :=
  { s with events := s.events ++ s.mClients.map .onClientRemoved, mClients := [] }

def removeKey (s : State P) (key : K) : State P := s.removeIf fun cur ↦ (clients cur).mKey = key

def remove (s : State P) (value : Option P) : State P := s.removeIf fun cur ↦ some cur = value

def step (s : State P) : Label P K → State P
  | .addAndEvict client beyond => (s.addAndEvict clients client beyond).2
  | .updatePriorities ownerPriorityList => s.updatePriorities clients ownerPriorityList
  | .removeAll => s.removeAll
  | .removeKey key => s.removeKey clients key
  | .remove value => s.remove value

def Step (s : State P) (l : Label P K) (t : State P) : Prop := s.step clients l = t

end State

end VirtualCamera.ClientManager
