import Mathlib
import VirtualCamera.Library.Transition

namespace VirtualCamera.RequestThread

/-- `ICameraDeviceUser::NO_IN_FLIGHT_REPEATING_FRAMES`. -/
def NO_IN_FLIGHT_REPEATING_FRAMES : ℤ := -1

structure Handed where
  request : ℕ
  frameNumber : ℕ
  deriving DecidableEq, Repr

/-- What `queueRequestList` answered, with the last request of its list. -/
structure Promise where
  request : ℕ
  lastFrameNumber : ℤ
  deriving DecidableEq, Repr

/-- What was answered when a repeating list went, with that list. -/
structure Replaced where
  requests : List ℕ
  lastFrameNumber : ℤ
  deriving DecidableEq, Repr

/-- The queues of the request thread, a request known by the number of its object. `handed` keeps
the frame numbers that were given out, and `started` the repeating lists a cycle of which was
begun. -/
structure Queue where
  mRequestQueue : List ℕ := []
  mRepeatingRequests : List ℕ := []
  mRepeatingLastFrameNumber : ℤ := NO_IN_FLIGHT_REPEATING_FRAMES
  mFrameNumber : ℕ := 0
  allocated : ℕ := 0
  handed : List Handed := []
  started : List (List ℕ) := []
  promised : List Promise := []
  replaced : List Replaced := []
  deriving DecidableEq, Repr

namespace Queue

/-- `mResultExtras.frameNumber = mFrameNumber++`. -/
def give (q : Queue) (request : ℕ) : Queue :=
  { q with
    mFrameNumber := (q.mFrameNumber + 1) % 2 ^ 32
    handed := q.handed ++ [⟨request, q.mFrameNumber⟩] }

/-- The objects of the next `n` requests that are created. -/
def fresh (q : Queue) (n : ℕ) : List ℕ := List.range' q.allocated n

def queueRequestList (q : Queue) (n : ℕ) : Queue :=
  let requests := q.fresh n
  let mRequestQueue := q.mRequestQueue ++ requests
  let lastFrameNumber : ℤ := q.mFrameNumber + mRequestQueue.length - 1
  { q with
    mRequestQueue := mRequestQueue
    allocated := q.allocated + n
    promised := q.promised ++ (requests.getLast?.map (⟨·, lastFrameNumber⟩)).toList }

def setRepeatingRequests (q : Queue) (n : ℕ) : Queue :=
  { q with
    replaced := q.replaced ++ [⟨q.mRepeatingRequests, q.mRepeatingLastFrameNumber⟩]
    mRepeatingRequests := q.fresh n
    allocated := q.allocated + n
    mRepeatingLastFrameNumber := NO_IN_FLIGHT_REPEATING_FRAMES }

def clearRepeatingRequestsLocked (q : Queue) : Queue :=
  { q with
    mRepeatingRequests := []
    replaced := q.replaced ++ [⟨q.mRepeatingRequests, q.mRepeatingLastFrameNumber⟩]
    mRepeatingLastFrameNumber := NO_IN_FLIGHT_REPEATING_FRAMES }

/-- The requests in the queue get their numbers when someone is there to be told. -/
def clear (q : Queue) (listener : Bool) : Queue :=
  let q' := if listener then q.mRequestQueue.foldl give q else q
  { q'.clearRepeatingRequestsLocked with mRequestQueue := [] }

/-- The request that `waitForNextRequestLocked` takes, when there is one. -/
def select (q : Queue) : Option (ℕ × Queue) :=
  match q.mRequestQueue, q.mRepeatingRequests with
  | r :: rest, _ => some (r, { q with mRequestQueue := rest })
  | [], r :: rest =>
    some (r, { q with
      mRequestQueue := rest
      mRepeatingLastFrameNumber := q.mFrameNumber + q.mRepeatingRequests.length - 1
      started := q.started ++ [q.mRepeatingRequests] })
  | [], [] => none

def take (q : Queue) : Option (ℕ × Queue) := q.select.map fun (r, q) ↦ (r, q.give r)

/-- What can happen to the queues while the listener lives. -/
inductive Step : Queue → Queue → Prop
  | queueRequestList (q : Queue) (n : ℕ) : Step q (q.queueRequestList n)
  | setRepeatingRequests (q : Queue) (n : ℕ) : Step q (q.setRepeatingRequests n)
  | clearRepeatingRequests (q : Queue) : Step q q.clearRepeatingRequestsLocked
  | clear (q : Queue) : Step q (q.clear true)
  | take {q q' : Queue} {r : ℕ} : q.take = some (r, q') → Step q q'

/-! ### The order of the requests -/

/-- The requests in the order in which they get their numbers: those that have one, then those
that wait in the queue. -/
def order (q : Queue) : List ℕ := q.handed.map (·.request) ++ q.mRequestQueue

/-- A request has one place in the order, the promised one. -/
def Placed (order : List ℕ) (request : ℕ) (number : ℤ) : Prop :=
  ∃ k : ℕ, number = k ∧ order[k]? = some request ∧ ∀ j, order[j]? = some request → j = k

/-- The number is the last place of the requests of a repeating list, when it was started. -/
def LastPlace (q : Queue) (requests : List ℕ) (number : ℤ) : Prop :=
  (number = NO_IN_FLIGHT_REPEATING_FRAMES ∧ requests ∉ q.started ∧ ∀ r ∈ requests, r ∉ q.order) ∨
  ∃ k : ℕ, number = k ∧ requests ∈ q.started ∧ (∃ r ∈ requests, q.order[k]? = some r) ∧
    ∀ (j r : ℕ), q.order[j]? = some r → r ∈ requests → j ≤ k

structure Scheduled (q : Queue) : Prop where
  numbers : q.handed.map (·.frameNumber) = List.range q.handed.length
  counter : q.mFrameNumber = q.handed.length
  known : ∀ r ∈ q.order, r < q.allocated
  repeatingKnown : ∀ r ∈ q.mRepeatingRequests, r < q.allocated
  startedKnown : ∀ l ∈ q.started, l ≠ [] ∧ ∀ r ∈ l, r < q.allocated
  promised : ∀ p ∈ q.promised,
    Placed q.order p.request p.lastFrameNumber ∧ p.request ∉ q.mRepeatingRequests
  repeating : q.LastPlace q.mRepeatingRequests q.mRepeatingLastFrameNumber
  replaced : ∀ l ∈ q.replaced, q.LastPlace l.requests l.lastFrameNumber ∧
    (∀ r ∈ l.requests, r < q.allocated) ∧ l.requests.Disjoint q.mRepeatingRequests

theorem scheduled_empty : ({} : Queue).Scheduled where
  numbers := rfl
  counter := rfl
  known := fun _ hr ↦ absurd hr List.not_mem_nil
  repeatingKnown := fun _ hr ↦ absurd hr List.not_mem_nil
  startedKnown := fun _ hl ↦ absurd hl List.not_mem_nil
  promised := fun _ hp ↦ absurd hp List.not_mem_nil
  repeating := .inl ⟨rfl, List.not_mem_nil, fun _ hr ↦ absurd hr List.not_mem_nil⟩
  replaced := fun _ hl ↦ absurd hl List.not_mem_nil

theorem Placed.append {order : List ℕ} {request : ℕ} {number : ℤ} (h : Placed order request number)
    {new : List ℕ} (hnew : request ∉ new) : Placed (order ++ new) request number := by
  obtain ⟨k, hk, hat, honly⟩ := h
  have hlt : k < order.length := (List.getElem?_eq_some_iff.mp hat).1
  refine ⟨k, hk, by rw [List.getElem?_append_left hlt]; exact hat, fun j hj ↦ ?_⟩
  by_cases hlj : j < order.length
  · rw [List.getElem?_append_left hlj] at hj
    exact honly j hj
  · rw [List.getElem?_append_right (by omega)] at hj
    exact absurd (List.mem_of_getElem? hj) hnew

/-- The places stay what they are while the order goes on with requests of other lists. -/
theorem LastPlace.append {q q' : Queue} {requests : List ℕ} {number : ℤ}
    (h : q.LastPlace requests number) {new : List ℕ} (horder : q'.order = q.order ++ new)
    (hnew : ∀ r ∈ requests, r ∉ new) (hstarted : requests ∈ q'.started ↔ requests ∈ q.started) :
    q'.LastPlace requests number := by
  obtain ⟨hno, hnot, hout⟩ | ⟨k, hk, hin, ⟨r, hr, hat⟩, hlast⟩ := h
  · refine .inl ⟨hno, fun hc ↦ hnot (hstarted.mp hc), fun r hr hc ↦ ?_⟩
    rw [horder, List.mem_append] at hc
    exact hc.elim (hout r hr) (hnew r hr)
  · have hlt : k < q.order.length := (List.getElem?_eq_some_iff.mp hat).1
    refine .inr ⟨k, hk, hstarted.mpr hin, ⟨r, hr, ?_⟩, fun j r' hj hr' ↦ ?_⟩
    · rw [horder, List.getElem?_append_left hlt]
      exact hat
    · rw [horder] at hj
      by_cases hlj : j < q.order.length
      · rw [List.getElem?_append_left hlj] at hj
        exact hlast j r' hj hr'
      · rw [List.getElem?_append_right (by omega)] at hj
        exact absurd (List.mem_of_getElem? hj) (hnew r' hr')

theorem LastPlace.congr {q q' : Queue} {requests : List ℕ} {number : ℤ}
    (h : q.LastPlace requests number) (horder : q'.order = q.order)
    (hstarted : q'.started = q.started) : q'.LastPlace requests number := by
  refine h.append (by rw [horder, List.append_nil]) (fun _ _ ↦ List.not_mem_nil) ?_
  rw [hstarted]

/-! ### What the operations do to the order -/

theorem fresh_ge {q : Queue} {n r : ℕ} (h : r ∈ q.fresh n) : q.allocated ≤ r ∧ r < q.allocated + n :=
  List.mem_range'_1.mp h

/-- A request at the head of the queue gets the number of its place. -/
theorem Scheduled.pop {q : Queue} (h : q.Scheduled) {r : ℕ} {rest : List ℕ}
    (hq : q.mRequestQueue = r :: rest) (hwrap : q.handed.length + 1 < 2 ^ 32) :
    ({ q with mRequestQueue := rest }.give r).Scheduled := by
  have horder : ({ q with mRequestQueue := rest }.give r).order = q.order := by
    simp [order, give, hq]
  have hcount : (q.mFrameNumber + 1) % 2 ^ 32 = q.handed.length + 1 := by
    rw [h.counter, Nat.mod_eq_of_lt hwrap]
  refine ⟨?_, ?_, ?_, h.repeatingKnown, h.startedKnown, ?_, h.repeating.congr horder rfl, ?_⟩
  · simp [give, h.numbers, h.counter, List.range_succ]
  · simp only [give, List.length_append, List.length_cons, List.length_nil]
    exact hcount
  · rw [horder]
    exact h.known
  · rw [horder]
    exact h.promised
  · intro l hl
    obtain ⟨hplace, hknown, hdisj⟩ := h.replaced l hl
    exact ⟨hplace.congr horder rfl, hknown, hdisj⟩

theorem foldl_give_queue (l : List ℕ) (q : Queue) (queue : List ℕ) :
    l.foldl give { q with mRequestQueue := queue } =
      { l.foldl give q with mRequestQueue := queue } := by
  induction l generalizing q with
  | nil => rfl
  | cons r l ih => exact ih (q.give r)

theorem length_foldl_give (l : List ℕ) (q : Queue) :
    (l.foldl give q).handed.length = q.handed.length + l.length := by
  induction l generalizing q with
  | nil => rfl
  | cons r l ih =>
    rw [List.foldl_cons, ih]
    simp only [give, List.length_append, List.length_cons, List.length_nil]
    omega

/-- All that waits in the queue gets the number of its place. -/
theorem Scheduled.drain {q : Queue} (h : q.Scheduled)
    (hwrap : q.handed.length + q.mRequestQueue.length < 2 ^ 32) :
    { q.mRequestQueue.foldl give q with mRequestQueue := [] }.Scheduled := by
  induction hq : q.mRequestQueue generalizing q with
  | nil =>
    have he : { q with mRequestQueue := [] } = q := by rw [← hq]
    rw [List.foldl_nil, he]
    exact h
  | cons r rest ih =>
    rw [hq, List.length_cons] at hwrap
    have hpop := h.pop hq (by omega)
    have hlen : ({ q with mRequestQueue := rest }.give r).handed.length =
        q.handed.length + 1 := by simp [give]
    have hnext := ih hpop (by
      rw [hlen]
      change _ + rest.length < _
      omega) rfl
    have he : rest.foldl give ({ q with mRequestQueue := rest }.give r) =
        { rest.foldl give (q.give r) with mRequestQueue := rest } :=
      foldl_give_queue rest (q.give r) rest
    rw [he] at hnext
    exact hnext

theorem Scheduled.queueRequestList {q : Queue} (h : q.Scheduled) (n : ℕ) :
    (q.queueRequestList n).Scheduled := by
  have horder : (q.queueRequestList n).order = q.order ++ q.fresh n := by
    simp [order, Queue.queueRequestList]
  have hold : ∀ r < q.allocated, r ∉ q.fresh n := fun r hr hc ↦ by
    have := (fresh_ge hc).1
    omega
  have hgrow : ∀ r, r < q.allocated → r < (q.queueRequestList n).allocated := fun r hr ↦
    Nat.lt_add_right n hr
  refine ⟨h.numbers, h.counter, ?_, fun r hr ↦ hgrow r (h.repeatingKnown r hr), ?_, ?_, ?_, ?_⟩
  · intro r hr
    rw [horder, List.mem_append] at hr
    exact hr.elim (fun hr ↦ hgrow r (h.known r hr)) fun hr ↦ (fresh_ge hr).2
  · exact fun l hl ↦ ⟨(h.startedKnown l hl).1, fun r hr ↦ hgrow r ((h.startedKnown l hl).2 r hr)⟩
  · intro p hp
    rw [horder]
    simp only [Queue.queueRequestList, List.mem_append, Option.mem_toList,
      Option.map_eq_some_iff] at hp
    obtain hp | ⟨r, hlast, rfl⟩ := hp
    · obtain ⟨hplaced, hrep⟩ := h.promised p hp
      obtain ⟨k, _, hat, _⟩ := id hplaced
      exact ⟨hplaced.append (hold _ (h.known _ (List.mem_of_getElem? hat))), hrep⟩
    · have hmem := List.mem_of_getLast? hlast
      have hrep : r ∉ q.mRepeatingRequests := fun hc ↦
        hold r (h.repeatingKnown r hc) hmem
      have hnew : r ∉ q.order := fun hc ↦ hold r (h.known r hc) hmem
      -- the fresh objects are all different, and the last of them ends the order
      have hnodup : (q.fresh n).Nodup := List.nodup_range'
      have hpos : 0 < (q.fresh n).length := List.length_pos_of_mem hmem
      have hlen : q.order.length = q.handed.length + q.mRequestQueue.length := by
        simp [order]
      have hat : (q.fresh n)[(q.fresh n).length - 1]? = some r := by
        rw [← List.getLast?_eq_getElem?]
        exact hlast
      refine ⟨⟨q.order.length + (q.fresh n).length - 1, ?_, ?_, fun j hj ↦ ?_⟩, hrep⟩
      · simp only [h.counter, List.length_append, hlen]
        omega
      · rw [List.getElem?_append_right (by omega)]
        rw [show q.order.length + (q.fresh n).length - 1 - q.order.length =
          (q.fresh n).length - 1 by omega]
        exact hat
      · by_cases hlj : j < q.order.length
        · rw [List.getElem?_append_left hlj] at hj
          exact absurd (List.mem_of_getElem? hj) hnew
        · rw [List.getElem?_append_right (by omega)] at hj
          have hlt := (List.getElem?_eq_some_iff.mp hj).1
          have := (List.getElem?_inj hlt hnodup).mp (hj.trans hat.symm)
          omega
  · exact h.repeating.append horder (fun r hr ↦ hold r (h.repeatingKnown r hr)) Iff.rfl
  · intro l hl
    obtain ⟨hplace, hknown, hdisj⟩ := h.replaced l hl
    exact ⟨hplace.append horder (fun r hr ↦ hold r (hknown r hr)) Iff.rfl,
      fun r hr ↦ hgrow r (hknown r hr), hdisj⟩

/-- A repeating list is put down with its last place, and another one put in its stead. -/
theorem Scheduled.replace {q : Queue} (h : q.Scheduled) (n : ℕ) :
    (q.setRepeatingRequests n).Scheduled := by
  have hold : ∀ r < q.allocated, r ∉ q.fresh n := fun r hr hc ↦ by
    have := (fresh_ge hc).1
    omega
  have hgrow : ∀ r, r < q.allocated → r < (q.setRepeatingRequests n).allocated := fun r hr ↦
    Nat.lt_add_right n hr
  refine ⟨h.numbers, h.counter, fun r hr ↦ hgrow r (h.known r hr), ?_, ?_, ?_, ?_, ?_⟩
  · exact fun r hr ↦ (fresh_ge hr).2
  · exact fun l hl ↦ ⟨(h.startedKnown l hl).1, fun r hr ↦ hgrow r ((h.startedKnown l hl).2 r hr)⟩
  · intro p hp
    obtain ⟨hplaced, _⟩ := h.promised p hp
    obtain ⟨k, _, hat, _⟩ := id hplaced
    exact ⟨hplaced, hold _ (h.known _ (List.mem_of_getElem? hat))⟩
  · refine .inl ⟨rfl, fun hc ↦ ?_, fun r hr hc ↦ hold r (h.known r hc) hr⟩
    obtain ⟨hne, hlt⟩ := h.startedKnown _ hc
    obtain ⟨r, hr⟩ := List.exists_mem_of_ne_nil _ hne
    exact hold r (hlt r hr) hr
  · intro l hl
    simp only [Queue.setRepeatingRequests, List.mem_append, List.mem_singleton] at hl
    obtain hl | rfl := hl
    · obtain ⟨hplace, hknown, _⟩ := h.replaced l hl
      exact ⟨hplace, fun r hr ↦ hgrow r (hknown r hr), fun r hr ↦ hold r (hknown r hr)⟩
    · exact ⟨h.repeating, fun r hr ↦ hgrow r (h.repeatingKnown r hr),
        fun r hr ↦ hold r (h.repeatingKnown r hr)⟩

/-- A cycle of the repeating list begins when the queue is empty. -/
theorem Scheduled.cycle {q : Queue} (h : q.Scheduled) {r : ℕ} {rest : List ℕ}
    (hq : q.mRequestQueue = []) (hrep : q.mRepeatingRequests = r :: rest) :
    { q with
      mRequestQueue := q.mRepeatingRequests
      mRepeatingLastFrameNumber := q.mFrameNumber + q.mRepeatingRequests.length - 1
      started := q.started ++ [q.mRepeatingRequests] }.Scheduled := by
  have horder : ({ q with
      mRequestQueue := q.mRepeatingRequests
      mRepeatingLastFrameNumber := q.mFrameNumber + q.mRepeatingRequests.length - 1
      started := q.started ++ [q.mRepeatingRequests] } : Queue).order =
      q.order ++ q.mRepeatingRequests := by simp [order, hq]
  have hlen : q.order.length = q.handed.length := by simp [order, hq]
  refine ⟨h.numbers, h.counter, ?_, h.repeatingKnown, ?_, ?_, .inr ?_, ?_⟩
  · intro r hr
    rw [horder, List.mem_append] at hr
    exact hr.elim (h.known r) (h.repeatingKnown r)
  · intro l hl
    simp only [List.mem_append, List.mem_singleton] at hl
    obtain hl | rfl := hl
    · exact h.startedKnown l hl
    · exact ⟨by rw [hrep]; exact List.cons_ne_nil r rest, h.repeatingKnown⟩
  · intro p hp
    obtain ⟨hplaced, hnot⟩ := h.promised p hp
    rw [horder]
    exact ⟨hplaced.append hnot, hnot⟩
  · have hpos : 0 < q.mRepeatingRequests.length := by simp [hrep]
    have hbound : q.mRepeatingRequests.length - 1 < q.mRepeatingRequests.length := by omega
    refine ⟨q.handed.length + q.mRepeatingRequests.length - 1, ?_, by simp, ?_, ?_⟩
    · simp only [h.counter]
      omega
    · refine ⟨_, List.getElem_mem hbound, ?_⟩
      rw [horder, List.getElem?_append_right (by omega)]
      rw [show q.handed.length + q.mRepeatingRequests.length - 1 - q.order.length =
        q.mRepeatingRequests.length - 1 by omega]
      exact List.getElem?_eq_getElem hbound
    · intro j r hj _
      rw [horder] at hj
      have := (List.getElem?_eq_some_iff.mp hj).1
      rw [List.length_append] at this
      omega
  · intro l hl
    obtain ⟨hplace, hknown, hdisj⟩ := h.replaced l hl
    refine ⟨hplace.append horder hdisj ?_, hknown, hdisj⟩
    simp only [List.mem_append, List.mem_singleton, or_iff_left_iff_imp]
    intro heq
    exact absurd (heq ▸ hrep ▸ List.mem_cons_self) (fun hr ↦ hdisj hr (hrep ▸ List.mem_cons_self))

theorem handed_le_of_step {q q' : Queue} (h : q.Step q') :
    q.handed.length ≤ q'.handed.length := by
  cases h with
  | queueRequestList n => exact le_rfl
  | setRepeatingRequests n => exact le_rfl
  | clearRepeatingRequests => exact le_rfl
  | clear =>
    have := length_foldl_give q.mRequestQueue q
    simp only [clear, clearRepeatingRequestsLocked, if_true]
    omega
  | take h =>
    simp only [take, select, Option.map_eq_some_iff] at h
    obtain ⟨⟨r, q₁⟩, hs, he⟩ := h
    have hq₁ : q₁.handed = q.handed := by
      split at hs
      · cases hs
        rfl
      · cases hs
        rfl
      · cases hs
    cases he
    simp only [give, List.length_append, hq₁]
    omega

theorem Scheduled.take {q q' : Queue} {r : ℕ} (h : q.Scheduled) (ht : q.take = some (r, q'))
    (hwrap : q'.handed.length < 2 ^ 32) : q'.Scheduled := by
  simp only [Queue.take, select, Option.map_eq_some_iff] at ht
  obtain ⟨⟨r, q₁⟩, hs, he⟩ := ht
  cases he
  split at hs
  · rename_i hq
    cases hs
    refine h.pop hq ?_
    simpa [give] using hwrap
  · rename_i hq hrep
    cases hs
    -- the whole cycle is queued, then its first request taken
    refine (h.cycle hq hrep).pop (by exact hrep) ?_
    simpa [give] using hwrap
  · cases hs

theorem Scheduled.step {q q' : Queue} (h : q.Scheduled) (hs : q.Step q')
    (hwrap : q'.handed.length < 2 ^ 32) : q'.Scheduled := by
  cases hs with
  | queueRequestList n => exact h.queueRequestList n
  | setRepeatingRequests n => exact h.replace n
  | clearRepeatingRequests => exact h.replace 0
  | clear =>
    have hlen := length_foldl_give q.mRequestQueue q
    simp only [clear, clearRepeatingRequestsLocked, if_true] at hwrap
    exact (h.drain (by omega)).replace 0
  | take ht => exact h.take ht hwrap

/-! ### The promises -/

/-- What an application may take from the frame numbers it was answered. -/
structure Promises (q : Queue) : Prop where
  consecutive : q.handed.map (·.frameNumber) = List.range q.handed.length
  waiting : ∀ p ∈ q.promised, p.request ∈ q.mRequestQueue →
    ∀ h ∈ q.handed, h.request ≠ p.request
  due : ∀ p ∈ q.promised, ∀ i : ℕ, q.mRequestQueue[i]? = some p.request →
    p.lastFrameNumber = q.mFrameNumber + i
  given : ∀ p ∈ q.promised, p.request ∉ q.mRequestQueue →
    (∃ h ∈ q.handed, h.request = p.request) ∧
    ∀ h ∈ q.handed, h.request = p.request → (h.frameNumber : ℤ) = p.lastFrameNumber
  none : ∀ l ∈ q.replaced,
    l.lastFrameNumber = NO_IN_FLIGHT_REPEATING_FRAMES ↔ l.requests ∉ q.started
  bound : ∀ l ∈ q.replaced, ∀ h ∈ q.handed, h.request ∈ l.requests →
    (h.frameNumber : ℤ) ≤ l.lastFrameNumber
  highest : ∀ l ∈ q.replaced, l.requests ∈ q.started →
    (∀ r ∈ l.requests, r ∉ q.mRequestQueue) →
    ∃ h ∈ q.handed, h.request ∈ l.requests ∧ (h.frameNumber : ℤ) = l.lastFrameNumber

/-- The number of a request that has one is its place. -/
theorem Scheduled.order_of_mem {q : Queue} (h : q.Scheduled) {x : Handed} (hx : x ∈ q.handed) :
    q.order[x.frameNumber]? = some x.request := by
  obtain ⟨i, hi, rfl⟩ := List.getElem_of_mem hx
  have hnum : (q.handed.map (·.frameNumber))[i]? = some i := by
    rw [h.numbers, List.getElem?_range hi]
  rw [List.getElem?_map, List.getElem?_eq_getElem hi] at hnum
  have hnum' : q.handed[i].frameNumber = i := Option.some.inj hnum
  rw [hnum', order, List.getElem?_append_left (by simpa using hi), List.getElem?_map,
    List.getElem?_eq_getElem hi]
  rfl

/-- A place is taken by a request that has its number, or by one in the queue. -/
theorem Scheduled.handed_or_queued {q : Queue} (h : q.Scheduled) {k r : ℕ}
    (hk : q.order[k]? = some r) : (⟨r, k⟩ : Handed) ∈ q.handed ∨ r ∈ q.mRequestQueue := by
  by_cases hlt : k < q.handed.length
  · left
    have hnum : (q.handed.map (·.frameNumber))[k]? = some k := by
      rw [h.numbers, List.getElem?_range hlt]
    rw [order, List.getElem?_append_left (by simpa using hlt)] at hk
    have hx : q.handed[k]? = some q.handed[k] := List.getElem?_eq_getElem hlt
    generalize q.handed[k] = x at hx
    rw [List.getElem?_map, hx] at hk hnum
    cases hk
    cases hnum
    exact List.mem_of_getElem? hx
  · right
    rw [order, List.getElem?_append_right (by simpa using hlt)] at hk
    exact List.mem_of_getElem? hk

theorem order_of_queue {q : Queue} {i r : ℕ} (hi : q.mRequestQueue[i]? = some r) :
    q.order[q.handed.length + i]? = some r := by
  rw [order, List.getElem?_append_right (by simp), List.length_map, Nat.add_sub_cancel_left, hi]

theorem Scheduled.promises {q : Queue} (h : q.Scheduled) : q.Promises := by
  refine ⟨h.numbers, ?_, ?_, ?_, ?_, ?_, ?_⟩
  · intro p hp hin x hx hreq
    obtain ⟨⟨k, _, _, honly⟩, _⟩ := h.promised p hp
    obtain ⟨i, hi, hget⟩ := List.getElem_of_mem hin
    -- a request that has its number and waits in the queue would have two places
    have hfirst := honly _ (hreq ▸ h.order_of_mem hx)
    have hlt : x.frameNumber < q.handed.length := by
      have := List.mem_map_of_mem (f := (·.frameNumber)) hx
      rw [h.numbers, List.mem_range] at this
      exact this
    have hat : q.mRequestQueue[i]? = some p.request := by
      rw [List.getElem?_eq_getElem hi, hget]
    have hsecond := honly _ (order_of_queue hat)
    omega
  · intro p hp i hi
    obtain ⟨⟨k, hk, _, honly⟩, _⟩ := h.promised p hp
    have hplace := honly _ (order_of_queue hi)
    rw [hk, ← hplace, h.counter]
    exact Int.natCast_add _ _
  · intro p hp hout
    obtain ⟨⟨k, hk, hat, honly⟩, _⟩ := h.promised p hp
    refine ⟨?_, fun x hx hreq ↦ ?_⟩
    · obtain hgiven | hin := h.handed_or_queued hat
      · exact ⟨_, hgiven, rfl⟩
      · exact absurd hin hout
    · have hplace := honly _ (hreq ▸ h.order_of_mem hx)
      rw [hk, hplace]
  · intro l hl
    obtain ⟨hno, hnot, _⟩ | ⟨k, hk, hin, _⟩ := (h.replaced l hl).1
    · exact ⟨fun _ ↦ hnot, fun _ ↦ hno⟩
    · constructor
      · intro hno
        rw [hk, NO_IN_FLIGHT_REPEATING_FRAMES] at hno
        omega
      · exact fun hnot ↦ absurd hin hnot
  · intro l hl x hx hreq
    have hplace := h.order_of_mem hx
    obtain ⟨_, _, hout⟩ | ⟨k, hk, _, _, hlast⟩ := (h.replaced l hl).1
    · exact absurd (List.mem_of_getElem? hplace) (hout _ hreq)
    · have := hlast _ _ hplace hreq
      omega
  · intro l hl hstarted hout
    obtain ⟨_, hnot, _⟩ | ⟨k, hk, _, ⟨r, hr, hat⟩, _⟩ := (h.replaced l hl).1
    · exact absurd hstarted hnot
    · obtain hgiven | hin := h.handed_or_queued hat
      · exact ⟨_, hgiven, hr, hk.symm⟩
      · exact absurd hin (hout r hr)

end Queue

end VirtualCamera.RequestThread
