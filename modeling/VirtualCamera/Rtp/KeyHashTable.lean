import VirtualCamera.Library.CursorTable
import VirtualCamera.Library.Linked

namespace VirtualCamera.Rtp.KeyHashTable

open Library.Linked

inductive HashTableError
  | noCurrentElement
  | functionReturnedInvalidHashIndex
  | keyNotFound
  | keyAlreadyExists
  deriving DecidableEq, Repr

/-- An element is in the chain of its bucket and in the list of all elements. -/
structure HashElement (K E : Type) where
  hashindex : ℕ
  key : K
  element : E
  hashprev : Option ℕ
  hashnext : Option ℕ
  listprev : Option ℕ
  listnext : Option ℕ

variable {K E : Type}

def hashLinks : Links (HashElement K E) where
  next := HashElement.hashnext
  prev := HashElement.hashprev
  setNext q v := { v with hashnext := q }
  setPrev q v := { v with hashprev := q }
  next_setNext _ _ := rfl
  prev_setNext _ _ := rfl
  next_setPrev _ _ := rfl
  prev_setPrev _ _ := rfl

def listLinks : Links (HashElement K E) where
  next := HashElement.listnext
  prev := HashElement.listprev
  setNext q v := { v with listnext := q }
  setPrev q v := { v with listprev := q }
  next_setNext _ _ := rfl
  prev_setNext _ _ := rfl
  next_setPrev _ _ := rfl
  prev_setPrev _ _ := rfl

/-- Pointers are numbers, and `fresh` is the next that `new` gives. -/
structure RTPKeyHashTable (K E : Type) where
  heap : Heap (HashElement K E)
  fresh : ℕ
  table : ℕ → Option ℕ
  firsthashelem : Option ℕ
  lasthashelem : Option ℕ
  curhashelem : Option ℕ

namespace RTPKeyHashTable

/-- The constructor does not set `curhashelem`. -/
def new (curhashelem : Option ℕ) : RTPKeyHashTable K E :=
  { heap := fun _ ↦ none, fresh := 0, table := fun _ ↦ none, firsthashelem := none,
    lasthashelem := none, curhashelem }

variable (t : RTPKeyHashTable K E)

def gotoFirstElement : RTPKeyHashTable K E := { t with curhashelem := t.firsthashelem }

def gotoLastElement : RTPKeyHashTable K E := { t with curhashelem := t.lasthashelem }

def hasCurrentElement : Bool := t.curhashelem.isSome

/-- The element under the cursor. A null pointer, or one to a freed element, must not be
read. -/
def curElement : Option (HashElement K E) := t.curhashelem.bind t.heap

def getCurrentElement : Option E := t.curElement.map HashElement.element

def getCurrentKey : Option K := t.curElement.map HashElement.key

/-- A write through the reference that `GetCurrentElement` gives. -/
def setCurrentElement (elem : E) : Option (RTPKeyHashTable K E) :=
  t.curhashelem.bind fun p ↦
    (t.heap.edit (fun e ↦ { e with element := elem }) (some p)).map fun heap ↦ { t with heap }

def gotoNextElement : Option (RTPKeyHashTable K E) :=
  match t.curhashelem with
  | none => some t
  | some p => (t.heap p).map fun e ↦ { t with curhashelem := e.listnext }

def gotoPreviousElement : Option (RTPKeyHashTable K E) :=
  match t.curhashelem with
  | none => some t
  | some p => (t.heap p).map fun e ↦ { t with curhashelem := e.listprev }

def deleteCurrentElement : Option (Except HashTableError Unit × RTPKeyHashTable K E) :=
  match t.curhashelem with
  | none => some (.error .noCurrentElement, t)
  | some p => do
    let e ← t.heap p
    -- first the elements of the bucket
    let table := if e.hashprev = none then Function.update t.table e.hashindex e.hashnext else t.table
    let heap ← hashLinks.unlink t.heap e.hashprev e.hashnext
    -- then those of the list
    let firsthashelem := if e.listprev = none then e.listnext else t.firsthashelem
    let lasthashelem := if e.listnext = none then e.listprev else t.lasthashelem
    let heap ← listLinks.unlink heap e.listprev e.listnext
    return (.ok (), { t with heap := heap.free p, table, firsthashelem, lasthashelem,
                             curhashelem := e.listnext })

/-- A new element goes to the end of the list. -/
def linkLast (p : ℕ) : Option (RTPKeyHashTable K E) :=
  match t.firsthashelem with
  | none => some { t with firsthashelem := some p, lasthashelem := some p }
  | some _ => do
    let last ← t.lasthashelem
    let heap ← listLinks.pushBack t.heap p (some last)
    return { t with heap, lasthashelem := some p }

/-- The elements are freed. The cursor stays where it was. -/
def clear : Option (RTPKeyHashTable K E) :=
  (listLinks.freeAll t.fresh t.firsthashelem t.heap).map fun heap ↦
    { t with heap, table := fun _ ↦ none, firsthashelem := none, lasthashelem := none }

variable [DecidableEq K] (getIndex : K → ℕ) (hashsize : ℕ)

/-- The search in the bucket of a key. A walk over more elements than there ever were
does not end. -/
def search (k : K) : Option (Option ℕ) :=
  hashLinks.find t.heap (fun e ↦ decide (e.key = k)) t.fresh (t.table (getIndex k))

def gotoElement (k : K) : Option (Except HashTableError Unit × RTPKeyHashTable K E) :=
  if getIndex k ≥ hashsize then some (.error .functionReturnedInvalidHashIndex, t)
  else (t.search getIndex k).map fun p ↦
    (if p = none then .error .keyNotFound else .ok (), { t with curhashelem := p })

def hasElement (k : K) : Option Bool :=
  if getIndex k ≥ hashsize then some false else (t.search getIndex k).map Option.isSome

def addElement (k : K) (elem : E) :
    Option (Except HashTableError Unit × RTPKeyHashTable K E) :=
  if getIndex k ≥ hashsize then some (.error .functionReturnedInvalidHashIndex, t)
  else do
    let found ← t.search getIndex k
    if found ≠ none then return (.error .keyAlreadyExists, t)
    let newelem : HashElement K E :=
      { hashindex := getIndex k, key := k, element := elem, hashprev := none, hashnext := none,
        listprev := none, listnext := none }
    let p := t.fresh
    let heap ← hashLinks.pushFront (Function.update t.heap p (some newelem)) p
      (t.table (getIndex k))
    let table := Function.update t.table (getIndex k) (some p)
    let t ← { t with heap, fresh := p + 1, table }.linkLast p
    return (.ok (), t)

def deleteElement (k : K) : Option (Except HashTableError Unit × RTPKeyHashTable K E) := do
  let (status, t) ← t.gotoElement getIndex hashsize k
  match status with
  | .error e => return (.error e, t)
  | .ok () => t.deleteCurrentElement

end RTPKeyHashTable

end VirtualCamera.Rtp.KeyHashTable
