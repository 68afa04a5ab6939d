import Mathlib.Algebra.Order.Ring.Rat
import Mathlib.Data.Finset.Card
import Mathlib.Data.Finset.Image
import Mathlib.Logic.Function.Basic
import VirtualCamera.Library.Transition

namespace VirtualCamera.Common

open Library.Transition

/-! ### The watchers -/

/-- The watchers of the two arrays. -/
inductive Watcher
  | io (i : ℕ)
  | timer (i : ℕ)
  deriving DecidableEq, Repr

/-- The calls of libev that the loop makes. `L` is the `ev_loop` with what libev keeps in
the watchers. -/
structure Libev (L : Type) where
  isActive : L → Watcher → Bool
  ioInit : L → ℕ → (fd : ℤ) → (read write : Bool) → L
  ioStart : L → ℕ → L
  ioStop : L → ℕ → L
  timerInit : L → ℕ → (after period : ℚ) → L
  timerStart : L → ℕ → L
  timerStop : L → ℕ → L

/-- A watcher that is not active may be initialised, and is then started; a stop leaves it
inactive, whether or not it was active. A start needs a file descriptor, and a period that is
not negative. -/
structure Documented {L : Type} (ev : Libev L) : Prop where
  ioStart : ∀ l i fd read write, ev.isActive l (.io i) = false → 0 ≤ fd → ∀ w,
    ev.isActive (ev.ioStart (ev.ioInit l i fd read write) i) w =
      (decide (w = .io i) || ev.isActive l w)
  ioStop : ∀ l i w, ev.isActive (ev.ioStop l i) w = (!decide (w = .io i) && ev.isActive l w)
  timerStart : ∀ l i after period, ev.isActive l (.timer i) = false → 0 ≤ period → ∀ w,
    ev.isActive (ev.timerStart (ev.timerInit l i after period) i) w =
      (decide (w = .timer i) || ev.isActive l w)
  timerStop : ∀ l i w,
    ev.isActive (ev.timerStop l i) w = (!decide (w = .timer i) && ev.isActive l w)

/-! ### The loop -/

def maxSocketCount : ℕ := 64
def maxTimerCount : ℕ := 64

structure SocketHandle where
  sockFd : ℤ
  readHandle : Bool
  writeHandle : Bool
  deriving DecidableEq, Repr

/-- `repeats` is how often the timer fires; at 0 and below it fires forever. -/
structure TimerHandle where
  interval : ℚ
  repeats : ℤ
  deriving DecidableEq, Repr

/-- A callback that is running: for a readable socket (and then for the same socket when it
is writable, too), for a writable one, and for a timer. -/
inductive Callback
  | read (i : ℕ) (writable : Bool)
  | write (i : ℕ)
  | timer (i : ℕ)
  deriving DecidableEq, Repr

/-- Of the watchers' public members, `ioFd` and `timerRepeat`, which mark the free slots. -/
structure EventLoop (L : Type) where
  ioFd : ℕ → ℤ
  sockHandles : ℕ → SocketHandle
  currentIo : ℕ
  timerRepeat : ℕ → ℚ
  timerHandles : ℕ → TimerHandle
  currentTimer : ℕ
  evLoop : L
  evCount : ℤ
  callbacks : List Callback

def EventLoop.create {L : Type} (l : L) : EventLoop L where
  ioFd _ := -1
  sockHandles _ := ⟨0, false, false⟩
  currentIo := 0
  timerRepeat _ := -1
  timerHandles _ := ⟨0, 0⟩
  currentTimer := 0
  evLoop := l
  evCount := 0
  callbacks := []

/-- The search for a free slot, `n` slots from `index` on, around the end of the array. -/
def findSlot (free : ℕ → Bool) (max : ℕ) : (n : ℕ) → (index : ℕ) → Option ℕ
  | 0, _ => none
  | n + 1, index =>
    if free index then some index
    else findSlot free max n (if max ≤ index + 1 then 0 else index + 1)

def nextSlot (max id : ℕ) : ℕ := if max ≤ id + 1 then 0 else id + 1

section

variable {L : Type} (ev : Libev L)

def handleSocket (s : EventLoop L) (handle : SocketHandle) : ℤ × EventLoop L :=
  match findSlot (fun i ↦ s.ioFd i < 0) maxSocketCount maxSocketCount s.currentIo with
  | none => (-1, s)
  | some id =>
    (id, { s with
      currentIo := nextSlot maxSocketCount id
      ioFd := Function.update s.ioFd id handle.sockFd
      sockHandles := Function.update s.sockHandles id handle
      evLoop := ev.ioStart
        (ev.ioInit s.evLoop id handle.sockFd handle.readHandle handle.writeHandle) id
      evCount := s.evCount + 1 })

def removeSocket (s : EventLoop L) (sockId : ℤ) : EventLoop L :=
  if sockId < 0 ∨ maxSocketCount ≤ sockId then s
  else
    { s with
      evLoop := ev.ioStop s.evLoop sockId.toNat
      ioFd := Function.update s.ioFd sockId.toNat (-1)
      evCount := s.evCount - 1 }

def handleTimer (s : EventLoop L) (handle : TimerHandle) : ℤ × EventLoop L :=
  match findSlot (fun i ↦ s.timerRepeat i ≤ 0) maxTimerCount maxTimerCount s.currentTimer with
  | none => (-1, s)
  | some id =>
    (id, { s with
      currentTimer := nextSlot maxTimerCount id
      timerHandles := Function.update s.timerHandles id handle
      timerRepeat := Function.update s.timerRepeat id handle.interval
      evLoop := ev.timerStart (ev.timerInit s.evLoop id handle.interval handle.interval) id
      evCount := s.evCount + 1 })

def removeTimer (s : EventLoop L) (timerId : ℤ) : EventLoop L :=
  if timerId < 0 ∨ maxTimerCount ≤ timerId then s
  else
    { s with
      evLoop := ev.timerStop s.evLoop timerId.toNat
      timerRepeat := Function.update s.timerRepeat timerId.toNat (-1)
      evCount := s.evCount - 1 }

/-- `ev_timer_handle` after the callback; the handle is the one that is in the slot then. -/
def timerHandled (s : EventLoop L) (i : ℕ) : EventLoop L :=
  let th := { s.timerHandles i with repeats := (s.timerHandles i).repeats - 1 }
  let s := { s with timerHandles := Function.update s.timerHandles i th }
  if th.repeats = 0 then
    { s with
      evLoop := ev.timerStop s.evLoop i
      timerRepeat := Function.update s.timerRepeat i (-1) }
  else s

/-! ### Events and calls -/

inductive Label
  | handleSocket (handle : SocketHandle)
  | removeSocket (sockId : ℤ)
  | handleTimer (handle : TimerHandle)
  | removeTimer (timerId : ℤ)
  | socketEvent (i : ℕ) (readable writable : Bool)
  | timerEvent (i : ℕ)
  | callbackReturn
  deriving DecidableEq, Repr

/-- The callbacks that an event of a socket still has to make; the handle is looked at for
each. -/
def EventLoop.writeCallback (s : EventLoop L) (i : ℕ) (writable : Bool) : EventLoop L :=
  if writable ∧ (s.sockHandles i).writeHandle then { s with callbacks := .write i :: s.callbacks }
  else s

/-- Calls are made between the events and in the callbacks. Events are delivered to active
watchers; a timer without a period has then been stopped by libev. What a callback returns
makes no difference to the watchers. -/
def step (s : EventLoop L) : Label → Option (EventLoop L)
  | .handleSocket handle => some (handleSocket ev s handle).2
  | .removeSocket sockId => some (removeSocket ev s sockId)
  | .handleTimer handle => some (handleTimer ev s handle).2
  | .removeTimer timerId => some (removeTimer ev s timerId)
  | .socketEvent i readable writable =>
    if ev.isActive s.evLoop (.io i) then
      if readable ∧ (s.sockHandles i).readHandle then
        some { s with callbacks := .read i writable :: s.callbacks }
      else some (s.writeCallback i writable)
    else none
  | .timerEvent i =>
    if ev.isActive s.evLoop (.timer i) then
      some { s with
        evLoop := if s.timerRepeat i = 0 then ev.timerStop s.evLoop i else s.evLoop
        callbacks := .timer i :: s.callbacks }
    else none
  | .callbackReturn =>
    match s.callbacks with
    | [] => none
    | .read i writable :: callbacks =>
      some ({ s with callbacks := callbacks }.writeCallback i writable)
    | .write _ :: callbacks => some { s with callbacks := callbacks }
    | .timer i :: callbacks => some (timerHandled ev { s with callbacks := callbacks } i)

abbrev Step : EventLoop L → Label → EventLoop L → Prop := ofPartial (step ev)

/-- The watchers of the loop's arrays. -/
def watchers : Finset Watcher :=
  (Finset.range maxSocketCount).image .io ∪ (Finset.range maxTimerCount).image .timer

/-- How many of them are active. -/
def numActive (s : EventLoop L) : ℕ := (watchers.filter fun w ↦ ev.isActive s.evLoop w).card

end

end VirtualCamera.Common
