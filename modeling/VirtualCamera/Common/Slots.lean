import VirtualCamera.Common.EventLoop

namespace VirtualCamera.Common.Slots

open Library.Transition

/-! ### Counting -/

section

variable {α : Type*} [DecidableEq α] {s : Finset α} {p q : α → Bool} {a : α}

theorem card_filter_insert (ha : a ∈ s) (hp : p a = false)
    (hq : ∀ b, q b = (decide (b = a) || p b)) :
    (s.filter fun b ↦ q b).card = (s.filter fun b ↦ p b).card + 1 := by
  have hinsert : (s.filter fun b ↦ q b) = insert a (s.filter fun b ↦ p b) := by
    ext b
    simp only [Finset.mem_filter, Finset.mem_insert, hq, Bool.or_eq_true, decide_eq_true_eq]
    constructor
    · intro h
      obtain ⟨hb, rfl | hpb⟩ := h
      · exact .inl rfl
      · exact .inr ⟨hb, hpb⟩
    · intro h
      obtain rfl | ⟨hb, hpb⟩ := h
      · exact ⟨ha, .inl rfl⟩
      · exact ⟨hb, .inr hpb⟩
  rw [hinsert, Finset.card_insert_of_notMem]
  intro hmem
  rw [(Finset.mem_filter.mp hmem).2] at hp
  cases hp

theorem card_filter_erase (ha : a ∈ s) (hp : p a = true)
    (hq : ∀ b, q b = (!decide (b = a) && p b)) :
    (s.filter fun b ↦ p b).card = (s.filter fun b ↦ q b).card + 1 := by
  apply card_filter_insert ha
  · rw [hq, decide_eq_true rfl]
    rfl
  · intro b
    rw [hq]
    by_cases hb : b = a
    · rw [hb, hp, decide_eq_true rfl]
      rfl
    · rw [decide_eq_false hb]
      rfl

end

/-! ### The search for a slot -/

theorem findSlot_free {free : ℕ → Bool} {max n index id : ℕ} (hindex : index < max)
    (h : findSlot free max n index = some id) : free id = true ∧ id < max := by
  induction n generalizing index with
  | zero => cases h
  | succ n ih =>
    unfold findSlot at h
    split at h
    · rename_i hfree
      cases h
      exact ⟨hfree, hindex⟩
    · apply ih _ h
      split <;> omega

theorem nextSlot_lt {max id : ℕ} (h : id < max) : nextSlot max id < max := by
  unfold nextSlot
  split <;> omega

/-! ### The slots -/

variable {L : Type}

/-- How the source tells that a slot is free. -/
def free (s : EventLoop L) : Watcher → Bool
  | .io i => s.ioFd i < 0
  | .timer i => s.timerRepeat i ≤ 0

/-- The slots that are not free are those of the active watchers, and these are counted. -/
structure Consistent (ev : Libev L) (s : EventLoop L) : Prop where
  active : ∀ w ∈ watchers, ev.isActive s.evLoop w = !free s w
  beyond : ∀ w ∉ watchers, ev.isActive s.evLoop w = false
  currentIo : s.currentIo < maxSocketCount
  currentTimer : s.currentTimer < maxTimerCount
  count : s.evCount = numActive ev s

theorem mem_watchers {w : Watcher} : w ∈ watchers ↔
    (∃ i, i < maxSocketCount ∧ .io i = w) ∨ ∃ i, i < maxTimerCount ∧ .timer i = w := by
  simp only [watchers, Finset.mem_union, Finset.mem_image, Finset.mem_range]

theorem io_mem {i : ℕ} (h : i < maxSocketCount) : .io i ∈ watchers :=
  mem_watchers.mpr (.inl ⟨i, h, rfl⟩)

theorem timer_mem {i : ℕ} (h : i < maxTimerCount) : .timer i ∈ watchers :=
  mem_watchers.mpr (.inr ⟨i, h, rfl⟩)

variable {ev : Libev L} {s t : EventLoop L}

/-- One watcher is active in `t` and not in `s`. -/
def Starts (ev : Libev L) (s t : EventLoop L) (w : Watcher) : Prop :=
  ev.isActive s.evLoop w = false ∧
    ∀ w', ev.isActive t.evLoop w' = (decide (w' = w) || ev.isActive s.evLoop w')

/-- The watcher is not active in `t`. -/
def Stops (ev : Libev L) (s t : EventLoop L) (w : Watcher) : Prop :=
  ∀ w', ev.isActive t.evLoop w' = (!decide (w' = w) && ev.isActive s.evLoop w')

theorem Starts.numActive {w : Watcher} (h : Starts ev s t w) (hw : w ∈ watchers) :
    numActive ev t = numActive ev s + 1 := card_filter_insert hw h.1 h.2

theorem Stops.numActive {w : Watcher} (h : Stops ev s t w) (hw : w ∈ watchers)
    (hactive : ev.isActive s.evLoop w = true) : Common.numActive ev s = Common.numActive ev t + 1 :=
  card_filter_erase hw hactive h

theorem Stops.same {w : Watcher} (h : Stops ev s t w) (hinactive : ev.isActive s.evLoop w = false)
    (w' : Watcher) : ev.isActive t.evLoop w' = ev.isActive s.evLoop w' := by
  rw [h w']
  by_cases hw : w' = w
  · rw [hw, hinactive, Bool.and_false]
  · rw [decide_eq_false hw]
    rfl

theorem Consistent.start (h : Consistent ev s) {w : Watcher} (hw : w ∈ watchers)
    (hstart : Starts ev s t w)
    (hfree : ∀ w', free t w' = if w' = w then false else free s w')
    (hio : t.currentIo < maxSocketCount) (htimer : t.currentTimer < maxTimerCount)
    (hcount : t.evCount = s.evCount + 1) : Consistent ev t := by
  refine ⟨fun w' hw' ↦ ?_, fun w' hw' ↦ ?_, hio, htimer, ?_⟩
  · rw [hstart.2, hfree, h.active w' hw']
    by_cases he : w' = w
    · rw [decide_eq_true he, if_pos he]
      rfl
    · rw [decide_eq_false he, if_neg he]
      rfl
  · have hne : w' ≠ w := fun he ↦ hw' (he ▸ hw)
    rw [hstart.2, h.beyond w' hw', decide_eq_false hne]
    rfl
  · rw [hcount, h.count, hstart.numActive hw]
    rfl

theorem Consistent.stop (h : Consistent ev s) {w : Watcher} (hw : w ∈ watchers)
    (hactive : ev.isActive s.evLoop w = true) (hstop : Stops ev s t w)
    (hfree : ∀ w', free t w' = if w' = w then true else free s w')
    (hio : t.currentIo = s.currentIo) (htimer : t.currentTimer = s.currentTimer)
    (hcount : t.evCount = s.evCount - 1) : Consistent ev t := by
  refine ⟨fun w' hw' ↦ ?_, fun w' hw' ↦ ?_, hio ▸ h.currentIo, htimer ▸ h.currentTimer, ?_⟩
  · rw [hstop, hfree, h.active w' hw']
    by_cases he : w' = w
    · rw [decide_eq_true he, if_pos he]
      rfl
    · rw [decide_eq_false he, if_neg he]
      rfl
  · rw [hstop, h.beyond w' hw', Bool.and_false]
  · have hnum := hstop.numActive hw hactive
    rw [hcount, h.count, hnum]
    omega

/-- A change that leaves the watchers as they are. -/
theorem Consistent.keep (h : Consistent ev s)
    (hactive : ∀ w, ev.isActive t.evLoop w = ev.isActive s.evLoop w)
    (hfree : ∀ w ∈ watchers, free t w = free s w) (hio : t.currentIo = s.currentIo)
    (htimer : t.currentTimer = s.currentTimer) (hcount : t.evCount = s.evCount) :
    Consistent ev t := by
  refine ⟨fun w hw ↦ ?_, fun w hw ↦ ?_, hio ▸ h.currentIo, htimer ▸ h.currentTimer, ?_⟩
  · rw [hactive, hfree w hw, h.active w hw]
  · rw [hactive, h.beyond w hw]
  · rw [hcount, h.count]
    unfold numActive
    simp only [hactive]

/-! ### The calls -/

theorem free_of_ioFd {i : ℕ} {fd : ℤ} {b : Bool} (hfd : decide (fd < 0) = b)
    (hio : t.ioFd = Function.update s.ioFd i fd) (htimer : t.timerRepeat = s.timerRepeat)
    (w : Watcher) : free t w = if w = .io i then b else free s w := by
  cases w with
  | io j =>
    dsimp only [free]
    rw [hio]
    by_cases hj : j = i
    · rw [hj, Function.update_self, if_pos rfl, hfd]
    · rw [Function.update_of_ne hj, if_neg (fun he ↦ hj (Watcher.io.inj he))]
  | timer j =>
    dsimp only [free]
    rw [htimer, if_neg nofun]

theorem free_of_timerRepeat {i : ℕ} {period : ℚ} {b : Bool} (hperiod : decide (period ≤ 0) = b)
    (hio : t.ioFd = s.ioFd) (htimer : t.timerRepeat = Function.update s.timerRepeat i period)
    (w : Watcher) : free t w = if w = .timer i then b else free s w := by
  cases w with
  | io j =>
    dsimp only [free]
    rw [hio, if_neg nofun]
  | timer j =>
    dsimp only [free]
    rw [htimer]
    by_cases hj : j = i
    · rw [hj, Function.update_self, if_pos rfl, hperiod]
    · rw [Function.update_of_ne hj, if_neg (fun he ↦ hj (Watcher.timer.inj he))]

/-- What a successful registration of a socket does: it takes a slot whose watcher was not
active, and leaves the other slots alone. -/
structure TakesSocket (ev : Libev L) (s t : EventLoop L) (handle : SocketHandle) (i : ℕ) :
    Prop where
  lt : i < maxSocketCount
  starts : Starts ev s t (.io i)
  sockHandles : t.sockHandles = Function.update s.sockHandles i handle
  ioFd : t.ioFd = Function.update s.ioFd i handle.sockFd
  timers : t.timerHandles = s.timerHandles ∧ t.timerRepeat = s.timerRepeat

structure TakesTimer (ev : Libev L) (s t : EventLoop L) (handle : TimerHandle) (i : ℕ) :
    Prop where
  lt : i < maxTimerCount
  starts : Starts ev s t (.timer i)
  timerHandles : t.timerHandles = Function.update s.timerHandles i handle
  timerRepeat : t.timerRepeat = Function.update s.timerRepeat i handle.interval
  sockets : t.sockHandles = s.sockHandles ∧ t.ioFd = s.ioFd

theorem handleSocket_spec (hev : Documented ev) (h : Consistent ev s) {handle : SocketHandle}
    (hfd : 0 ≤ handle.sockFd) :
    handleSocket ev s handle = (-1, s) ∨
      ∃ i : ℕ, (handleSocket ev s handle).1 = i ∧
        TakesSocket ev s (handleSocket ev s handle).2 handle i ∧
        Consistent ev (handleSocket ev s handle).2 := by
  unfold handleSocket
  split
  · exact .inl rfl
  · rename_i i hfind
    obtain ⟨hfree, hi⟩ := findSlot_free h.currentIo hfind
    have hinactive : ev.isActive s.evLoop (.io i) = false := by
      rw [h.active _ (io_mem hi)]
      exact congrArg not hfree
    have hstart := hev.ioStart s.evLoop i handle.sockFd handle.readHandle handle.writeHandle
      hinactive hfd
    refine .inr ⟨i, rfl, ⟨hi, ⟨hinactive, hstart⟩, rfl, rfl, rfl, rfl⟩, ?_⟩
    exact h.start (io_mem hi) ⟨hinactive, hstart⟩
      (free_of_ioFd (decide_eq_false (not_lt.mpr hfd)) rfl rfl) (nextSlot_lt hi) h.currentTimer rfl

theorem handleTimer_spec (hev : Documented ev) (h : Consistent ev s) {handle : TimerHandle}
    (hinterval : 0 < handle.interval) :
    handleTimer ev s handle = (-1, s) ∨
      ∃ i : ℕ, (handleTimer ev s handle).1 = i ∧
        TakesTimer ev s (handleTimer ev s handle).2 handle i ∧
        Consistent ev (handleTimer ev s handle).2 := by
  unfold handleTimer
  split
  · exact .inl rfl
  · rename_i i hfind
    obtain ⟨hfree, hi⟩ := findSlot_free h.currentTimer hfind
    have hinactive : ev.isActive s.evLoop (.timer i) = false := by
      rw [h.active _ (timer_mem hi)]
      exact congrArg not hfree
    have hstart := hev.timerStart s.evLoop i handle.interval handle.interval hinactive hinterval.le
    refine .inr ⟨i, rfl, ⟨hi, ⟨hinactive, hstart⟩, rfl, rfl, rfl, rfl⟩, ?_⟩
    exact h.start (timer_mem hi) ⟨hinactive, hstart⟩
      (free_of_timerRepeat (decide_eq_false (not_le.mpr hinterval)) rfl rfl) h.currentIo
      (nextSlot_lt hi) rfl

theorem Consistent.removeSocket (hev : Documented ev) (h : Consistent ev s) {sockId : ℤ}
    (hok : sockId < 0 ∨ maxSocketCount ≤ sockId ∨
      ev.isActive s.evLoop (.io sockId.toNat) = true) :
    Consistent ev (removeSocket ev s sockId) := by
  unfold Common.removeSocket
  split
  · exact h
  · rename_i hrange
    have hi : sockId.toNat < maxSocketCount := by omega
    have hactive : ev.isActive s.evLoop (.io sockId.toNat) = true :=
      (or_assoc.mpr hok).resolve_left hrange
    have hstop := hev.ioStop s.evLoop sockId.toNat
    exact h.stop (io_mem hi) hactive hstop (free_of_ioFd rfl rfl rfl) rfl rfl rfl

theorem Consistent.removeTimer (hev : Documented ev) (h : Consistent ev s) {timerId : ℤ}
    (hok : timerId < 0 ∨ maxTimerCount ≤ timerId ∨
      ev.isActive s.evLoop (.timer timerId.toNat) = true) :
    Consistent ev (removeTimer ev s timerId) := by
  unfold Common.removeTimer
  split
  · exact h
  · rename_i hrange
    have hi : timerId.toNat < maxTimerCount := by omega
    have hactive : ev.isActive s.evLoop (.timer timerId.toNat) = true :=
      (or_assoc.mpr hok).resolve_left hrange
    have hstop := hev.timerStop s.evLoop timerId.toNat
    have hnegative : decide ((-1 : ℚ) ≤ 0) = true := by decide
    exact h.stop (timer_mem hi) hactive hstop (free_of_timerRepeat hnegative rfl rfl) rfl
      rfl rfl

/-- The end of the callback of a timer that goes on, or that was removed in it. -/
theorem Consistent.timerHandled (hev : Documented ev) (h : Consistent ev s) {i : ℕ}
    (hok : (s.timerHandles i).repeats ≠ 1 ∨ ev.isActive s.evLoop (.timer i) = false) :
    Consistent ev (timerHandled ev s i) := by
  unfold Common.timerHandled
  dsimp only
  split
  · rename_i hzero
    have hinactive := hok.resolve_left (not_not.mpr (by omega))
    have hstop := hev.timerStop s.evLoop i
    have hnegative : decide ((-1 : ℚ) ≤ 0) = true := by decide
    refine h.keep (Stops.same hstop hinactive) (fun w hw ↦ ?_) rfl rfl rfl
    have hupdate {t : EventLoop L} (hio : t.ioFd = s.ioFd)
        (ht : t.timerRepeat = Function.update s.timerRepeat i (-1)) : free t w = free s w := by
      rw [free_of_timerRepeat hnegative hio ht]
      by_cases he : w = .timer i
      · have hfree := h.active w hw
        rw [he, hinactive] at hfree
        rw [if_pos he, he]
        exact Bool.not_inj hfree
      · exact if_neg he
    exact hupdate rfl rfl
  · exact h.keep (fun w ↦ rfl) (fun w _ ↦ by cases w <;> rfl) rfl rfl rfl

/-! ### Events -/

theorem Consistent.writeCallback (h : Consistent ev s) (i : ℕ) (writable : Bool) :
    Consistent ev (s.writeCallback i writable) := by
  unfold EventLoop.writeCallback
  split
  · exact h.keep (fun w ↦ rfl) (fun w _ ↦ by cases w <;> rfl) rfl rfl rfl
  · exact h

theorem Consistent.callbacks (h : Consistent ev s) (callbacks : List Callback) :
    Consistent ev { s with callbacks := callbacks } :=
  h.keep (fun w ↦ rfl) (fun w _ ↦ by cases w <;> rfl) rfl rfl rfl

/-- The steps after which the slots and the count still tell the active watchers:
registrations of a proper socket or a timer with a period, removals of active watchers, and
returns of callbacks after which no active timer has run out. -/
def Tracked (ev : Libev L) (s : EventLoop L) : Label → Prop
  | .handleSocket handle => 0 ≤ handle.sockFd
  | .removeSocket sockId =>
    sockId < 0 ∨ maxSocketCount ≤ sockId ∨ ev.isActive s.evLoop (.io sockId.toNat) = true
  | .handleTimer handle => 0 < handle.interval
  | .removeTimer timerId =>
    timerId < 0 ∨ maxTimerCount ≤ timerId ∨ ev.isActive s.evLoop (.timer timerId.toNat) = true
  | .socketEvent .. => True
  | .timerEvent _ => True
  | .callbackReturn =>
    match s.callbacks with
    | .timer i :: _ =>
      (s.timerHandles i).repeats ≠ 1 ∨ ev.isActive s.evLoop (.timer i) = false
    | _ => True

theorem Consistent.step (hev : Documented ev) (h : Consistent ev s) {l : Label}
    (hst : Step ev s l t) (hok : Tracked ev s l) : Consistent ev t := by
  unfold Step ofPartial at hst
  cases l with
  | handleSocket handle =>
    cases hst
    rcases handleSocket_spec hev h hok with he | ⟨i, -, -, ht⟩
    · rw [he]
      exact h
    · exact ht
  | removeSocket sockId =>
    cases hst
    exact h.removeSocket hev hok
  | handleTimer handle =>
    cases hst
    rcases handleTimer_spec hev h hok with he | ⟨i, -, -, ht⟩
    · rw [he]
      exact h
    · exact ht
  | removeTimer timerId =>
    cases hst
    exact h.removeTimer hev hok
  | socketEvent i readable writable =>
    dsimp only [Common.step] at hst
    split at hst
    · split at hst
      · cases hst
        exact h.callbacks _
      · cases hst
        exact h.writeCallback i writable
    · cases hst
  | timerEvent i =>
    dsimp only [Common.step] at hst
    split at hst
    · rename_i hactive
      -- an active timer has a period, and is not stopped
      have hperiod : s.timerRepeat i ≠ 0 := fun hzero ↦ by
        by_cases hmem : .timer i ∈ watchers
        · have hfree := h.active _ hmem
          dsimp only [free] at hfree
          rw [hactive, hzero, decide_eq_true le_rfl] at hfree
          cases hfree
        · rw [h.beyond _ hmem] at hactive
          cases hactive
      rw [if_neg hperiod] at hst
      cases hst
      exact h.callbacks _
    · cases hst
  | callbackReturn =>
    dsimp only [Common.step] at hst
    split at hst
    · cases hst
    · cases hst
      exact (h.callbacks _).writeCallback _ _
    · cases hst
      exact h.callbacks _
    · rename_i i callbacks hcallbacks
      cases hst
      dsimp only [Tracked] at hok
      rw [hcallbacks] at hok
      exact (h.callbacks callbacks).timerHandled hev hok

theorem Consistent.create {l : L} (hl : ∀ w, ev.isActive l w = false) :
    Consistent ev (EventLoop.create l) := by
  refine ⟨fun w _ ↦ ?_, fun w _ ↦ hl w, Nat.zero_lt_succ 63, Nat.zero_lt_succ 63, ?_⟩
  · rw [show (EventLoop.create l).evLoop = l from rfl, hl w]
    cases w with
    | io i => rfl
    | timer i =>
      have hnegative : decide ((-1 : ℚ) ≤ 0) = true := by decide
      exact (congrArg not hnegative).symm
  · have hnone : (watchers.filter fun w ↦ ev.isActive l w = true) = ∅ := by
      apply Finset.filter_eq_empty_iff.mpr
      intro w _
      rw [hl w]
      exact Bool.false_ne_true
    have hcard := congrArg Finset.card hnone
    exact (congrArg Nat.cast hcard).symm

/-! ### Every run -/

theorem reachable_consistent (hev : Documented ev) {l : L} (hl : ∀ w, ev.isActive l w = false)
    (h : Reachable (restrict (Step ev) (Tracked ev)) (EventLoop.create l) s) :
    Consistent ev s := by
  apply h.invariant (P := Consistent ev)
  · exact fun s a t hst hs ↦ hs.step hev hst.1 hst.2
  · exact .create hl

/-- In every run of such steps the count is that of the active watchers, a registration
takes a slot that no active watcher has and touches no other, and the removal of an id that
is not that of a slot changes nothing. -/
theorem slots_tracked (hev : Documented ev) {l : L} (hl : ∀ w, ev.isActive l w = false)
    (h : Reachable (restrict (Step ev) (Tracked ev)) (EventLoop.create l) s) :
    s.evCount = numActive ev s ∧
    (∀ handle : SocketHandle, 0 ≤ handle.sockFd → handleSocket ev s handle = (-1, s) ∨
      ∃ i : ℕ, (handleSocket ev s handle).1 = i ∧
        TakesSocket ev s (handleSocket ev s handle).2 handle i) ∧
    (∀ handle : TimerHandle, 0 < handle.interval → handleTimer ev s handle = (-1, s) ∨
      ∃ i : ℕ, (handleTimer ev s handle).1 = i ∧
        TakesTimer ev s (handleTimer ev s handle).2 handle i) ∧
    (∀ id : ℤ, id < 0 ∨ 64 ≤ id → removeSocket ev s id = s ∧ removeTimer ev s id = s) := by
  have hs := reachable_consistent hev hl h
  refine ⟨hs.count, fun handle hfd ↦ ?_, fun handle hinterval ↦ ?_, fun id hid ↦ ?_⟩
  · rcases handleSocket_spec hev hs hfd with he | ⟨i, hi, htakes, -⟩
    · exact .inl he
    · exact .inr ⟨i, hi, htakes⟩
  · rcases handleTimer_spec hev hs hinterval with he | ⟨i, hi, htakes, -⟩
    · exact .inl he
    · exact .inr ⟨i, hi, htakes⟩
  · exact ⟨if_pos hid, if_pos hid⟩

/-! ### What other steps do -/

theorem numActive_same (h : ∀ w, ev.isActive t.evLoop w = ev.isActive s.evLoop w) :
    numActive ev t = numActive ev s := by
  unfold numActive
  simp only [h]

/-- The removal of a watcher that is not active is counted all the same. -/
theorem remove_inactive (hev : Documented ev) (h : Consistent ev s) {i : ℕ} :
    (i < maxSocketCount → ev.isActive s.evLoop (.io i) = false →
      (removeSocket ev s i).evCount = numActive ev (removeSocket ev s i) - 1) ∧
    (i < maxTimerCount → ev.isActive s.evLoop (.timer i) = false →
      (removeTimer ev s i).evCount = numActive ev (removeTimer ev s i) - 1) := by
  constructor
  · intro hi hinactive
    have hrange : ¬ ((i : ℤ) < 0 ∨ (maxSocketCount : ℤ) ≤ i) := by omega
    have hstop := hev.ioStop s.evLoop i
    unfold removeSocket
    rw [if_neg hrange, numActive_same (s := s)]
    · exact congrArg (· - 1) h.count
    · exact Stops.same hstop hinactive
  · intro hi hinactive
    have hrange : ¬ ((i : ℤ) < 0 ∨ (maxTimerCount : ℤ) ≤ i) := by omega
    have hstop := hev.timerStop s.evLoop i
    unfold removeTimer
    rw [if_neg hrange, numActive_same (s := s)]
    · exact congrArg (· - 1) h.count
    · exact Stops.same hstop hinactive

/-- A timer that runs out is stopped, and stays counted. -/
theorem timerHandled_last (hev : Documented ev) (h : Consistent ev s) {i : ℕ}
    (hlast : (s.timerHandles i).repeats = 1) (hactive : ev.isActive s.evLoop (.timer i) = true) :
    (timerHandled ev s i).evCount = numActive ev (timerHandled ev s i) + 1 := by
  have hmem : .timer i ∈ watchers := by
    by_contra hn
    rw [h.beyond _ hn] at hactive
    cases hactive
  have hzero : (s.timerHandles i).repeats - 1 = 0 := by omega
  have hstop := hev.timerStop s.evLoop i
  unfold timerHandled
  dsimp only
  rw [if_pos hzero]
  exact h.count.trans (congrArg Nat.cast (Stops.numActive hstop hmem hactive))

/-! ### A loop with a timer that runs out -/

/-- The watchers that are active, and nothing else. -/
def activeSet : Libev (Finset Watcher) where
  isActive l w := decide (w ∈ l)
  ioInit l _ _ _ _ := l
  ioStart l i := insert (.io i) l
  ioStop l i := l.erase (.io i)
  timerInit l _ _ _ := l
  timerStart l i := insert (.timer i) l
  timerStop l i := l.erase (.timer i)

theorem activeSet_documented : Documented activeSet where
  ioStart l i fd read write _ _ w := by
    simp only [activeSet, Finset.mem_insert, Bool.decide_or]
  ioStop l i w := by
    simp only [activeSet, Finset.mem_erase, Bool.decide_and, decide_not, ne_eq]
  timerStart l i after period _ _ w := by
    simp only [activeSet, Finset.mem_insert, Bool.decide_or]
  timerStop l i w := by
    simp only [activeSet, Finset.mem_erase, Bool.decide_and, decide_not, ne_eq]

instance (ev : Libev L) (s : EventLoop L) (l : Label) : Decidable (Tracked ev s l) :=
  match l with
  | .handleSocket handle => inferInstanceAs (Decidable (0 ≤ handle.sockFd))
  | .removeSocket sockId => inferInstanceAs (Decidable
      (sockId < 0 ∨ maxSocketCount ≤ sockId ∨ ev.isActive s.evLoop (.io sockId.toNat) = true))
  | .handleTimer handle => inferInstanceAs (Decidable (0 < handle.interval))
  | .removeTimer timerId => inferInstanceAs (Decidable
      (timerId < 0 ∨ maxTimerCount ≤ timerId ∨
        ev.isActive s.evLoop (.timer timerId.toNat) = true))
  | .socketEvent .. => isTrue trivial
  | .timerEvent _ => isTrue trivial
  | .callbackReturn =>
    match hcallbacks : s.callbacks with
    | .timer i :: _ => decidable_of_iff
        ((s.timerHandles i).repeats ≠ 1 ∨ ev.isActive s.evLoop (.timer i) = false)
        (by dsimp only [Tracked]; rw [hcallbacks])
    | [] => isTrue (by dsimp only [Tracked]; rw [hcallbacks]; trivial)
    | .read .. :: _ => isTrue (by dsimp only [Tracked]; rw [hcallbacks]; trivial)
    | .write _ :: _ => isTrue (by dsimp only [Tracked]; rw [hcallbacks]; trivial)

/-- A timer registers another one in its callback, and a socket comes and goes. -/
def twoTimers : List Label :=
  [.handleSocket ⟨5, true, false⟩, .handleTimer ⟨1, 3⟩, .timerEvent 0, .handleTimer ⟨2, 5⟩,
    .callbackReturn, .removeSocket 0]

theorem slots_tracked_twoTimers : ∃ s : EventLoop (Finset Watcher),
    Reachable (restrict (Step activeSet) (Tracked activeSet)) (EventLoop.create ∅) s ∧
      s.evCount = 2 ∧ s.evCount = numActive activeSet s := by
  have h : (exec (guarded (step activeSet) (Tracked activeSet)) (EventLoop.create ∅)
      twoTimers).map EventLoop.evCount = some 2 := by decide +kernel
  obtain ⟨s, hs, hcount⟩ := Option.map_eq_some_iff.mp h
  have hreach : Reachable (restrict (Step activeSet) (Tracked activeSet)) _ s :=
    ⟨twoTimers, run_restrict_of_exec hs⟩
  exact ⟨s, hreach, hcount, (slots_tracked activeSet_documented (fun w ↦ rfl) hreach).1⟩

/-- A timer that fires once is stopped and still counted, and its removal, which has
nothing to remove, lowers the count. -/
theorem expired_timer_counted : ∃ s : EventLoop (Finset Watcher),
    Reachable (Step activeSet) (EventLoop.create ∅) s ∧ s.evCount = 1 ∧
      numActive activeSet s = 0 ∧ activeSet.isActive s.evLoop (.timer 0) = false ∧
      (removeTimer activeSet s 0).evCount = 0 := by
  have h : (exec (step activeSet) (EventLoop.create ∅)
      [.handleTimer ⟨1, 1⟩, .timerEvent 0, .callbackReturn]).map (fun s ↦
        (s.evCount, numActive activeSet s, activeSet.isActive s.evLoop (.timer 0),
          (removeTimer activeSet s 0).evCount)) = some (1, 0, false, 0) := by decide +kernel
  obtain ⟨s, hreach, hs⟩ := exists_reachable_of_exec _ h
  simp only [Prod.mk.injEq] at hs
  exact ⟨s, hreach, hs⟩

end VirtualCamera.Common.Slots
