import VirtualCamera.Preparer.Accounted

namespace VirtualCamera.Preparer

open Library Assoc Transition

namespace State

/-- The streams in the local variables of `pause`. -/
def paused (s : State) : Multiset Entry :=
  match s.pausing with
  | none => 0
  | some p =>
    values p.pendingStreams +
      if s.mCurrentStream.isSome || s.mCurrentPrepareComplete then 0 else ↑p.currentStream.toList

def known (s : State) : Multiset Entry :=
  ↑s.mCurrentStream.toList + (values s.mPendingStreams + s.paused)

/-- The calls are accounted for, and a stream that is preparing is pending or current. -/
structure Kept (s : State) : Prop where
  accounted : Accounted s.calls s.clears s.notified s.cancelled s.known
  preparing : ∀ id, CoveredAt s.streams s.known id

/-- No stream of a list of counts makes `startPrepare` fail, in the order of the list. -/
def Resumable (listener : Bool) (s : State) : List ℤ → Prop
  | [] => True
  | maxCount :: order =>
    (∀ entry ∈ s.mPendingStreams.lookup maxCount,
      (((s.streams entry.stream).startPrepare maxCount true).1 = .OK ∧ listener = true) ∨
        ((s.streams entry.stream).startPrepare maxCount true).1 = .NOT_ENOUGH_DATA) ∧
    Resumable listener (s.resumeStream listener maxCount) order

/-- The steps that do not lose a stream: there is a listener when there is something to notify;
a stream is not queued under a count that is taken; the thread can be started for it; `pause`
does not time out with streams in hand, and the current stream has a count of its own; no
stream fails in `resume`; the thread takes no stream with the flag set. -/
def Safe (listener : Bool) (s : State) : Label → Prop
  | .prepare maxCount stream runs =>
    (((s.streams stream).startPrepare maxCount true).1 = .OK → listener = true) ∧
    (((s.streams stream).startPrepare maxCount true).1 = .NOT_ENOUGH_DATA →
      (s.mActive = true ∨ runs = true) ∧ maxCount ∉ s.mPendingStreams.keys)
  | .pauseEnds => ∀ p ∈ s.pausing, p.currentStream ≠ none → s.mCurrentPrepareComplete = false →
      p.currentMaxCount ∉ p.pendingStreams.keys
  | .pauseTimesOut => ∀ p ∈ s.pausing, p.pendingStreams.keys = [] ∧
      (p.currentStream = none ∨ s.mCurrentPrepareComplete = true)
  | .resume order _ => s.mActive = false → s.Resumable listener order
  | .threadLoop _ => s.mCurrentStream = none → s.mPendingStreams.keys ≠ [] → s.mCancelNow = false
  | .finish => listener = true
  | _ => True

instance decidableResumable (listener : Bool) (s : State) (order : List ℤ) :
    Decidable (s.Resumable listener order) :=
  match order with
  | [] => inferInstanceAs (Decidable True)
  | maxCount :: order =>
    have := decidableResumable listener (s.resumeStream listener maxCount) order
    inferInstanceAs (Decidable (_ ∧ _))

instance (listener : Bool) (s : State) (l : Label) : Decidable (s.Safe listener l) := by
  cases l <;> unfold Safe <;> infer_instance

/-! ### The invariant -/

structure Inv (s : State) : Prop extends Kept s where
  flag : s.mCancelNow = true → ∀ e ∈ s.mCurrentStream,
    s.pausing.isSome = true ∨ ∃ c, s.calls[e.call]? = some c ∧ c.clears < s.clears
  pausing : ∀ p ∈ s.pausing, s.mPendingStreams = ∅ ∧
    ∀ e ∈ s.mCurrentStream, p.currentStream = some e
  inactive : s.mActive = false → s.mCurrentStream = none
  current : s.mCurrentStream.isSome = true → s.mCurrentPrepareComplete = false
  finishing : s.stage = .finishing → ∀ e ∈ s.mCurrentStream,
    CoveredAt s.streams (values s.mPendingStreams + s.paused) e.stream

variable {listener : Bool} {s s' : State}

theorem inv_create {streams : ℤ → Stream} (h : ∀ id, (streams id).mState ≠ .PREPARING) :
    (create streams).Inv where
  accounted := ⟨rfl, nofun, nofun, nofun, nofun⟩
  preparing id hp := absurd hp (h id)
  flag := nofun
  pausing := nofun
  inactive _ := rfl
  current := nofun
  finishing := nofun

/-! #### The steps -/

theorem covered_update {streams : ℤ → Stream} {m : Multiset Entry} {id stream : ℤ} {t : Stream}
    (h : CoveredAt streams m id) (ht : t.mState ≠ .PREPARING) :
    CoveredAt (Function.update streams stream t) m id :=
  (h.mono (Multiset.le_cons_self m ⟨stream, 0⟩)).update_ne ht

theorem Inv.flag_accept (h : s.Inv) (stream : ℤ) (hc : s.mCancelNow = true) :
    ∀ e ∈ s.mCurrentStream, s.pausing.isSome = true ∨
      ∃ c, (s.accept stream).calls[e.call]? = some c ∧ c.clears < s.clears := by
  intro e he
  refine (h.flag hc e he).imp_right ?_
  intro hcond
  obtain ⟨c, hcall, hlt⟩ := hcond
  exact ⟨c, getElem?_append_call hcall _, hlt⟩

theorem known_queue {maxCount : ℤ} (h : maxCount ∉ s.mPendingStreams.keys) (stream : ℤ) :
    values (s.queue maxCount stream).mPendingStreams =
      ⟨stream, s.calls.length⟩ ::ₘ values s.mPendingStreams := by
  rw [queue, values_emplace, if_neg (show maxCount ∉ s.mPendingStreams from h)]

/-- A stream that needs work is queued under a count that is not taken. -/
theorem Inv.queue (h : s.Inv) {maxCount stream : ℤ} (t : Stream)
    (hkey : maxCount ∉ s.mPendingStreams.keys) (hpausing : s.pausing = none) :
    (((s.setStream stream t).queue maxCount stream).accept stream).Inv := by
  have hvalues := known_queue hkey stream
  have hknown : (((s.setStream stream t).queue maxCount stream).accept stream).known =
      ⟨stream, s.calls.length⟩ ::ₘ s.known := by
    unfold State.known
    rw [← Multiset.add_cons, ← Multiset.cons_add, ← hvalues]
    rfl
  have hmem : (⟨stream, s.calls.length⟩ : Entry) ∈
      (⟨stream, s.calls.length⟩ : Entry) ::ₘ s.known := Multiset.mem_cons_self _ _
  refine ⟨⟨?_, fun id ↦ ?_⟩, h.flag_accept stream,
    fun p hp ↦ absurd hp (notMem_of_eq_none hpausing p), h.inactive, h.current, ?_⟩
  · rw [hknown]
    exact h.accounted.accept_known stream
  · rw [hknown]
    exact ((h.preparing id).mono (Multiset.le_cons_self _ _)).update_mem hmem
  · intro hs e he
    have hle := add_le_add_left (Multiset.le_cons_self (values s.mPendingStreams)
      ⟨stream, s.calls.length⟩) s.paused
    rw [← hvalues] at hle
    apply ((h.finishing hs e he).mono hle).update_mem (e := ⟨stream, s.calls.length⟩)
    rw [hvalues, Multiset.cons_add]
    exact Multiset.mem_cons_self _ _

theorem Inv.start (h : s.Inv) (hcurrent : s.mCurrentStream = none) : s.start.Inv := by
  exact ⟨⟨h.accounted, h.preparing⟩, nofun, h.pausing, nofun, h.current,
    fun _ e he ↦ absurd he (notMem_of_eq_none hcurrent e)⟩

theorem Inv.prepare (h : s.Inv) {maxCount stream : ℤ} {runs : Bool}
    (hsafe : s.Safe listener (.prepare maxCount stream runs)) (hpausing : s.pausing = none) :
    (s.prepare listener maxCount stream runs).Inv := by
  obtain ⟨hlistener, hqueue⟩ := hsafe
  unfold State.prepare
  cases hst : (s.streams stream).startPrepare maxCount true with
  | mk res t =>
    rw [hst] at hlistener hqueue
    cases res with
    | OK =>
      cases hlistener rfl
      have ht : t.mState ≠ .PREPARING := by
        have := Stream.startPrepare_ok (s := s.streams stream) (congrArg Prod.fst hst)
        rwa [hst] at this
      exact ⟨⟨h.accounted.accept_notified stream, fun id ↦ covered_update (h.preparing id) ht⟩,
        h.flag_accept stream, h.pausing, h.inactive, h.current,
        fun hs e he ↦ covered_update (h.finishing hs e he) ht⟩
    | NOT_ENOUGH_DATA =>
      obtain ⟨hruns, hkey⟩ := hqueue rfl
      dsimp only
      split
      · exact h.queue t hkey hpausing
      · rename_i hactive
        have hinactive : s.mActive = false := Bool.eq_false_iff.mpr hactive
        rw [if_pos (hruns.resolve_left hactive)]
        exact (h.start (h.inactive hinactive)).queue t hkey hpausing
    | BAD_VALUE => exact h
    | INVALID_OPERATION => exact h
    | NO_INIT => exact h

theorem paused_none (h : s.pausing = none) : s.paused = 0 := by
  rw [paused, h]

/-- The current stream is still with the thread, or complete. -/
theorem paused_some {p : Pausing} (h : s.pausing = some p)
    (hc : s.mCurrentStream.isSome = true ∨ s.mCurrentPrepareComplete = true) :
    s.paused = values p.pendingStreams := by
  rw [paused, h]
  dsimp only
  rw [if_pos (Bool.or_eq_true_iff.mpr hc), add_zero]

theorem paused_left {p : Pausing} (h : s.pausing = some p) (hc : s.mCurrentStream = none)
    (hcomplete : s.mCurrentPrepareComplete = false) :
    s.paused = values p.pendingStreams + ↑p.currentStream.toList := by
  rw [paused, h, hc, hcomplete]
  rfl

theorem paused_pause (s : State) : s.pause.paused = values s.mPendingStreams := by
  unfold paused pause
  cases s.mCurrentStream <;> simp

theorem Inv.pause (h : s.Inv) (hpausing : s.pausing = none) : s.pause.Inv := by
  have hzero := paused_none hpausing
  have hvalues : values s.pause.mPendingStreams = 0 := rfl
  have hknown : s.pause.known = s.known := by
    rw [State.known, State.known, hzero, paused_pause, hvalues, zero_add, add_zero]
    rfl
  refine ⟨⟨hknown ▸ h.accounted, fun id ↦ hknown ▸ h.preparing id⟩, fun _ _ _ ↦ .inl rfl, ?_,
    h.inactive, h.current, fun hs e he ↦ ?_⟩
  · intro p hp
    cases hp
    exact ⟨rfl, fun _ he ↦ he⟩
  · have hold := h.finishing hs e he
    rw [paused_pause, hvalues, zero_add]
    rwa [hzero, add_zero] at hold

/-- The end of `pause` leaves all streams that it has kept pending. -/
theorem values_kept {p : Pausing} (hpausing : s.pausing = some p) (hc : s.mCurrentStream = none)
    (hsafe : s.Safe listener .pauseEnds) : values (s.kept p) = s.paused := by
  unfold kept
  cases hcurrent : p.currentStream with
  | none =>
    rw [paused, hpausing]
    simp [hcurrent]
  | some entry =>
    dsimp only
    split
    · rename_i hcomplete
      rw [paused_some hpausing (.inr hcomplete)]
    · rename_i hcomplete
      have hcomplete := Bool.eq_false_iff.mpr hcomplete
      have hkey : p.currentMaxCount ∉ p.pendingStreams :=
        hsafe p hpausing (by rw [hcurrent]; exact Option.some_ne_none _) hcomplete
      rw [values_emplace, if_neg hkey, paused_left hpausing hc hcomplete, hcurrent, add_comm]
      rfl

theorem covered_cancelStreams {streams : ℤ → Stream} {m : Map ℤ Entry} {rest : Multiset Entry}
    {id : ℤ} (h : CoveredAt streams (values m + rest) id) :
    CoveredAt (cancelStreams streams m) rest id := by
  have hcancel := CoveredAt.cancelStreams (l := m.entries.map Sigma.snd) h
  rwa [List.map_map] at hcancel

theorem Inv.pauseEnds (h : s.Inv) {p : Pausing} (hpausing : s.pausing = some p)
    (hactive : s.mActive = false) (hsafe : s.Safe listener .pauseEnds) : (s.pauseEnds p).Inv := by
  have hc := h.inactive hactive
  have hempty : values s.mPendingStreams = 0 := by
    rw [(h.pausing p hpausing).1]
    rfl
  have hknown : (s.pauseEnds p).known = s.known := by
    rw [State.known, State.known, hempty, ← values_kept hpausing hc hsafe, zero_add,
      paused_none (s := s.pauseEnds p) rfl, add_zero]
    rfl
  have hvalues : s.known = values (s.kept p) := by
    rw [State.known, hc, hempty, ← values_kept hpausing hc hsafe, zero_add]
    exact zero_add _
  refine ⟨⟨hknown ▸ h.accounted, fun id ↦ ?_⟩,
    fun _ e he ↦ absurd he (notMem_of_eq_none hc e), nofun, h.inactive, h.current,
    fun _ e he ↦ absurd he (notMem_of_eq_none hc e)⟩
  have hold := h.preparing id
  rw [hvalues, ← add_zero (values (s.kept p))] at hold
  exact (covered_cancelStreams hold).mono (Multiset.zero_le _)

theorem Inv.pauseTimesOut (h : s.Inv) {p : Pausing} (hpausing : s.pausing = some p)
    (hsafe : s.Safe listener .pauseTimesOut) : Inv { s with pausing := none } := by
  obtain ⟨hkeys, hcomplete⟩ := hsafe p hpausing
  have hnone : s.mCurrentStream = none := by
    cases hc : s.mCurrentStream with
    | none => rfl
    | some e =>
      have hcurrent := (h.pausing p hpausing).2 e hc
      have hfalse := h.current (by rw [hc]; rfl)
      rw [hcurrent, hfalse] at hcomplete
      rcases hcomplete with hcomplete | hcomplete <;> cases hcomplete
  have hempty : values p.pendingStreams = 0 := by
    rw [show p.pendingStreams = ∅ from AList.ext (List.map_eq_nil_iff.mp hkeys)]
    rfl
  have hzero : s.paused = 0 := by
    cases hc : s.mCurrentPrepareComplete with
    | true => rw [paused_some hpausing (.inr hc), hempty]
    | false =>
      have hstream := hcomplete.resolve_right (by rw [hc]; exact Bool.false_ne_true)
      rw [paused_left hpausing hnone hc, hempty, hstream]
      rfl
  have hknown : State.known { s with pausing := none } = s.known := by
    rw [State.known, State.known, hzero]
    rfl
  exact ⟨⟨hknown ▸ h.accounted, fun id ↦ hknown ▸ h.preparing id⟩,
    fun _ e he ↦ absurd he (notMem_of_eq_none hnone e), nofun, h.inactive, h.current,
    fun _ e he ↦ absurd he (notMem_of_eq_none hnone e)⟩

/-- Between two iterations of a thread that has ended. -/
structure Idle (s : State) : Prop extends Inv s where
  noCurrent : s.mCurrentStream = none
  noPause : s.pausing = none

theorem Idle.known_eq (h : s.Idle) : s.known = values s.mPendingStreams := by
  rw [State.known, h.noCurrent, paused_none h.noPause, add_zero]
  exact zero_add _

theorem idle_of {streams : ℤ → Stream} {pending : Map ℤ Entry} {notified : List (ℤ × Option ℕ)}
    (h : s.Idle) (haccounted : Accounted s.calls s.clears notified s.cancelled (values pending))
    (hpreparing : ∀ id, CoveredAt streams (values pending) id) :
    Idle { s with streams := streams, mPendingStreams := pending, notified := notified } := by
  have hnone : ∀ e, e ∉ s.mCurrentStream := notMem_of_eq_none h.noCurrent
  have hknown : State.known { s with
      streams := streams, mPendingStreams := pending, notified := notified } = values pending := by
    have hzero : State.paused { s with
        streams := streams, mPendingStreams := pending, notified := notified } = 0 :=
      paused_none h.noPause
    rw [State.known, hzero, add_zero]
    dsimp only
    rw [h.noCurrent]
    exact zero_add _
  refine ⟨⟨⟨hknown ▸ haccounted, fun id ↦ hknown ▸ hpreparing id⟩,
    fun _ e he ↦ absurd he (hnone e), fun p hp ↦ absurd hp (notMem_of_eq_none h.noPause p),
    fun _ ↦ h.noCurrent, h.current, fun _ e he ↦ absurd he (hnone e)⟩, h.noCurrent, h.noPause⟩

theorem Idle.resumeStream (h : s.Idle) {maxCount : ℤ}
    (hsafe : ∀ entry ∈ s.mPendingStreams.lookup maxCount,
      (((s.streams entry.stream).startPrepare maxCount true).1 = .OK ∧ listener = true) ∨
        ((s.streams entry.stream).startPrepare maxCount true).1 = .NOT_ENOUGH_DATA) :
    (s.resumeStream listener maxCount).Idle := by
  have haccounted := h.accounted
  have hpreparing := h.preparing
  rw [h.known_eq] at haccounted hpreparing
  unfold State.resumeStream
  cases hlookup : s.mPendingStreams.lookup maxCount with
  | none => exact h
  | some entry =>
    have hvalues := values_of_lookup hlookup
    rw [hvalues] at haccounted
    dsimp only
    have hres := hsafe entry hlookup
    cases hst : (s.streams entry.stream).startPrepare maxCount true with
    | mk res t =>
      rw [hst] at hres
      rcases hres with ⟨hres, rfl⟩ | hres
      · obtain rfl : res = .OK := hres
        have ht : t.mState ≠ .PREPARING := by
          have := Stream.startPrepare_ok (s := s.streams entry.stream) (congrArg Prod.fst hst)
          rwa [hst] at this
        apply idle_of h haccounted.notify
        intro id
        have hid := hpreparing id
        rw [hvalues] at hid
        exact hid.update_ne ht
      · obtain rfl : res = .NOT_ENOUGH_DATA := hres
        refine idle_of h (hvalues ▸ haccounted) fun id ↦ (hpreparing id).update_mem ?_
        rw [hvalues]
        exact Multiset.mem_cons_self _ _

theorem Idle.resumeStreams (h : s.Idle) {order : List ℤ} (hsafe : s.Resumable listener order) :
    (order.foldl (State.resumeStream listener) s).Idle := by
  induction order generalizing s with
  | nil => exact h
  | cons maxCount order ih => exact ih (h.resumeStream hsafe.1) hsafe.2

theorem Inv.resume (h : s.Inv) {order : List ℤ} {runs : Bool}
    (hsafe : s.Safe listener (.resume order runs)) (hpausing : s.pausing = none) :
    (s.resume listener order runs).Inv := by
  unfold State.resume
  split
  · exact h
  · rename_i hactive
    have hactive := Bool.eq_false_iff.mpr hactive
    have hidle : s.Idle := ⟨h, h.inactive hactive, hpausing⟩
    have hall := hidle.resumeStreams (hsafe hactive)
    dsimp only
    split
    · exact hall.toInv
    · split
      · exact hall.toInv.start hall.noCurrent
      · exact hall.toInv

theorem Inv.clear (h : s.Inv) (hpausing : s.pausing = none) : s.clear.Inv := by
  have hzero := paused_none hpausing
  have hbefore : ∀ e ∈ s.known, ∃ c, s.calls[e.call]? = some c ∧ c.clears < s.clears + 1 := by
    intro e he
    obtain ⟨c, hc, -⟩ := h.accounted.known e he
    exact ⟨c, hc, Nat.lt_succ_of_le (h.accounted.before c (List.mem_of_getElem? hc))⟩
  have hold : s.known = values s.mPendingStreams + ↑s.mCurrentStream.toList := by
    rw [State.known, hzero, add_zero, add_comm]
  have hknown : s.clear.known = ↑s.mCurrentStream.toList := by
    rw [State.known, paused_none (s := s.clear) hpausing, add_zero]
    exact add_zero _
  refine ⟨⟨?_, fun id ↦ ?_⟩, fun _ e he ↦ ?_, fun p hp ↦ absurd hp (notMem_of_eq_none hpausing p),
    h.inactive, h.current, fun hs e he ↦ ?_⟩
  · have haccounted := h.accounted.clear
    rw [hold] at haccounted
    have hcancel := haccounted.cancel (l := s.mPendingStreams.entries.map Sigma.snd) ?_
    · rw [List.map_map] at hcancel
      rw [hknown]
      exact hcancel
    · intro e he
      apply hbefore
      rw [hold]
      exact Multiset.mem_add.mpr (.inl he)
  · rw [hknown]
    have hid := h.preparing id
    rw [hold] at hid
    exact covered_cancelStreams hid
  · right
    apply hbefore
    rw [hold]
    exact Multiset.mem_add.mpr (.inr (by rw [show s.mCurrentStream = some e from he]; simp))
  · have hid := h.finishing hs e he
    rw [hzero] at hid
    exact (covered_cancelStreams hid).mono (Multiset.zero_le _)

/-- The thread takes a pending stream, and the flag is not set. -/
theorem Inv.take (h : s.Inv) {next : ℤ} {entry : Entry} (hc : s.mCurrentStream = none)
    (hlookup : s.mPendingStreams.lookup next = some entry) (hcancel : s.mCancelNow = false)
    (hactive : s.mActive = true) :
    Inv { s with
      mCurrentStream := some entry
      mCurrentMaxCount := next
      mCurrentPrepareComplete := false
      mPendingStreams := s.mPendingStreams.erase next
      stage := .preparing } := by
  have hpausing : s.pausing = none := by
    cases hp : s.pausing with
    | none => rfl
    | some p =>
      rw [(h.pausing p hp).1] at hlookup
      cases hlookup
  have hknown : State.known { s with
      mCurrentStream := some entry
      mCurrentMaxCount := next
      mCurrentPrepareComplete := false
      mPendingStreams := s.mPendingStreams.erase next
      stage := .preparing } = s.known := by
    have hzero : State.paused { s with
        mCurrentStream := some entry
        mCurrentMaxCount := next
        mCurrentPrepareComplete := false
        mPendingStreams := s.mPendingStreams.erase next
        stage := .preparing } = 0 := paused_none hpausing
    rw [State.known, State.known, hzero, paused_none hpausing, hc, values_of_lookup hlookup,
      add_zero, add_zero]
    exact (zero_add _).symm
  refine ⟨⟨hknown ▸ h.accounted, fun id ↦ hknown ▸ h.preparing id⟩, fun hflag ↦ ?_,
    fun p hp ↦ absurd hp (notMem_of_eq_none hpausing p), fun hinactive ↦ ?_, fun _ ↦ rfl, nofun⟩
  · exact absurd (hcancel.symm.trans hflag) Bool.false_ne_true
  · exact absurd (hinactive.symm.trans hactive) Bool.false_ne_true

theorem Inv.cancelCurrent (h : s.Inv) {entry : Entry} (hc : s.mCurrentStream = some entry)
    (hcancel : s.mCancelNow = true) (hstage : s.stage = .loop) :
    (s.cancelCurrent entry).Inv := by
  have hold : s.known = entry ::ₘ (values s.mPendingStreams + s.paused) := by
    rw [State.known, hc]
    exact Multiset.singleton_add _ _
  have hcover : ∀ id, CoveredAt (cancelStream s.streams entry.stream)
      (values s.mPendingStreams + s.paused) id := by
    intro id
    have hid := h.preparing id
    rw [hold] at hid
    exact hid.cancelStream
  have haccounted := h.accounted
  rw [hold] at haccounted
  have hinactive : s.mActive = false → (s.cancelCurrent entry).mCurrentStream = none := fun _ ↦ rfl
  have hstage' : (s.cancelCurrent entry).stage ≠ .finishing := by
    rw [show (s.cancelCurrent entry).stage = s.stage from rfl, hstage]
    exact Stage.noConfusion
  cases hp : s.pausing with
  | none =>
    have hknown : (s.cancelCurrent entry).known = values s.mPendingStreams + s.paused := by
      rw [State.known, paused_none hp, paused_none (s := s.cancelCurrent entry) hp]
      exact zero_add _
    have hcleared : ∀ e ∈ [entry], ∃ c, s.calls[e.call]? = some c ∧ c.clears < s.clears := by
      intro e he
      rw [List.mem_singleton.mp he]
      refine (h.flag hcancel entry hc).resolve_left ?_
      rw [hp]
      exact Bool.false_ne_true
    refine ⟨⟨?_, fun id ↦ hknown ▸ hcover id⟩, nofun, fun p hp' ↦ ?_, hinactive, nofun,
      fun hs ↦ absurd hs hstage'⟩
    · have hcancelled := Accounted.cancel (l := [entry]) haccounted hcleared
      rw [hknown]
      unfold State.cancelCurrent
      rw [hp]
      exact hcancelled
    · exact absurd hp' (notMem_of_eq_none hp p)
  | some p =>
    obtain ⟨hempty, hcurrent⟩ := h.pausing p hp
    have hvalues : values s.mPendingStreams = 0 := by
      rw [hempty]
      rfl
    have hvalues' : values (s.cancelCurrent entry).mPendingStreams = 0 := hvalues
    have hcomplete := h.current (by rw [hc]; rfl)
    have hknown : (s.cancelCurrent entry).known = s.known := by
      rw [hold, State.known, paused_left (s := s.cancelCurrent entry) hp rfl hcomplete,
        hcurrent entry hc, paused_some hp (.inl (by rw [hc]; rfl)), hvalues, hvalues', zero_add,
        zero_add, add_comm (values p.pendingStreams)]
      exact (zero_add _).trans (Multiset.singleton_add _ _)
    refine ⟨⟨?_, fun id ↦ ?_⟩, nofun, fun p' hp' ↦ ?_, hinactive, nofun,
      fun hs ↦ absurd hs hstage'⟩
    · have haccounted := h.accounted
      rw [hknown]
      unfold State.cancelCurrent
      rw [hp]
      exact haccounted
    · rw [hknown, hold]
      exact (hcover id).mono (Multiset.le_cons_self _ _)
    · exact ⟨(h.pausing p' hp').1, nofun⟩

theorem Inv.threadLoop (h : s.Inv) {next : ℤ} (hs : s.threadLoop next = some s')
    (hsafe : s.Safe listener (.threadLoop next)) (hactive : s.mActive = true)
    (hstage : s.stage = .loop) : s'.Inv := by
  unfold State.threadLoop at hs
  split at hs
  · rename_i hc
    split at hs
    · cases hs
      exact ⟨⟨h.accounted, h.preparing⟩, h.flag, h.pausing, fun _ ↦ hc, h.current, h.finishing⟩
    · rename_i hkeys
      obtain ⟨entry, hlookup, rfl⟩ := Option.map_eq_some_iff.mp hs
      exact h.take hc hlookup (hsafe hc hkeys) hactive
  · rename_i entry hc
    split at hs
    · rename_i hcancel
      cases hs
      exact h.cancelCurrent hc hcancel hstage
    · cases hs
      exact ⟨⟨h.accounted, h.preparing⟩, h.flag, h.pausing, h.inactive, h.current, nofun⟩

/-- A change of a stream in the hands of the thread. -/
theorem Inv.updateCurrent (h : s.Inv) {entry : Entry} (hc : s.mCurrentStream = some entry)
    {t : Stream} {stage : Stage} (hstage : stage = .finishing → t.mState ≠ .PREPARING) :
    Inv { s with streams := Function.update s.streams entry.stream t, stage := stage } := by
  have hmem : entry ∈ s.known := by
    rw [State.known, hc]
    exact Multiset.mem_add.mpr (.inl (Multiset.mem_singleton_self entry))
  refine ⟨⟨h.accounted, fun id ↦ (h.preparing id).update_mem hmem⟩, h.flag, h.pausing,
    h.inactive, h.current, fun hs e he hp ↦ ?_⟩
  obtain rfl : entry = e := Option.some.inj (hc.symm.trans he)
  have hp : (Function.update s.streams entry.stream t entry.stream).mState = .PREPARING := hp
  rw [Function.update_self] at hp
  exact absurd hp (hstage hs)

theorem Inv.prepareNextBuffer (h : s.Inv) {entry : Entry} (hc : s.mCurrentStream = some entry)
    (allocated : Bool) : (s.prepareNextBuffer entry allocated).Inv := by
  have hok := Stream.prepareNextBuffer_ok (s := s.streams entry.stream) allocated
  unfold State.prepareNextBuffer
  cases hst : (s.streams entry.stream).prepareNextBuffer allocated with
  | mk res t =>
    rw [hst] at hok
    apply h.updateCurrent hc
    intro hs
    split_ifs at hs with hmore hres
    exact hok hres

theorem Inv.finish (h : s.Inv) {entry : Entry} (hc : s.mCurrentStream = some entry)
    (hstage : s.stage = .finishing) (hlistener : listener = true) :
    (s.finish listener entry).Inv := by
  subst hlistener
  have hold : s.known = entry ::ₘ (values s.mPendingStreams + s.paused) := by
    rw [State.known, hc]
    exact Multiset.singleton_add _ _
  have hpaused : (s.finish true entry).paused = s.paused := by
    cases hp : s.pausing with
    | none => rw [paused_none hp, paused_none (s := s.finish true entry) hp]
    | some p =>
      rw [paused_some hp (.inl (by rw [hc]; rfl)),
        paused_some (s := s.finish true entry) hp (.inr rfl)]
  have hknown : (s.finish true entry).known = values s.mPendingStreams + s.paused := by
    rw [State.known, hpaused]
    exact zero_add _
  refine ⟨⟨?_, fun id hp ↦ ?_⟩, fun _ ↦ nofun, fun p hp ↦ ⟨(h.pausing p hp).1, nofun⟩,
    fun _ ↦ rfl, nofun, nofun⟩
  · have haccounted := h.accounted
    rw [hold] at haccounted
    rw [hknown]
    exact haccounted.notify
  · obtain ⟨e, he, hid⟩ := h.preparing id hp
    rw [hknown]
    rw [hold] at he
    rcases Multiset.mem_cons.mp he with rfl | he
    · exact hid ▸ h.finishing hstage e hc (hid.symm ▸ hp)
    · exact ⟨e, he, hid⟩

theorem Inv.changeStream (h : s.Inv) {id : ℤ} {stream : Stream}
    (hstream : stream.mState ≠ .PREPARING) : (s.setStream id stream).Inv :=
  ⟨⟨h.accounted, fun id ↦ covered_update (h.preparing id) hstream⟩, h.flag, h.pausing,
    h.inactive, h.current, fun hs e he ↦ covered_update (h.finishing hs e he) hstream⟩

theorem call_eq_some {t : State} (h : s.call t = some s') : s.pausing = none ∧ t = s' := by
  unfold call at h
  split at h
  · cases h
  · rename_i hp
    cases h
    exact ⟨by simpa using hp, rfl⟩

theorem Inv.step {l : Label} (hs : State.step listener s l = some s')
    (hsafe : s.Safe listener l) (h : s.Inv) : s'.Inv := by
  cases l with
  | prepare maxCount stream runs =>
    obtain ⟨hp, rfl⟩ := call_eq_some hs
    exact h.prepare hsafe hp
  | pause =>
    obtain ⟨hp, rfl⟩ := call_eq_some hs
    exact h.pause hp
  | pauseEnds =>
    simp only [State.step] at hs
    split at hs
    · cases hs
    · rename_i hactive
      obtain ⟨p, hp, rfl⟩ := Option.map_eq_some_iff.mp hs
      exact h.pauseEnds hp (Bool.eq_false_iff.mpr hactive) hsafe
  | pauseTimesOut =>
    obtain ⟨p, hp, hs⟩ := Option.bind_eq_some_iff.mp hs
    split at hs
    · cases hs
      exact h.pauseTimesOut hp hsafe
    · cases hs
  | resume order runs =>
    simp only [State.step] at hs
    split at hs
    · obtain ⟨hp, rfl⟩ := call_eq_some hs
      exact h.resume hsafe hp
    · cases hs
  | clear =>
    obtain ⟨hp, rfl⟩ := call_eq_some hs
    exact h.clear hp
  | threadLoop next =>
    simp only [State.step] at hs
    split at hs
    · rename_i hloop
      exact h.threadLoop hs hsafe hloop.1 hloop.2
    · cases hs
  | prepareNextBuffer allocated =>
    simp only [State.step] at hs
    split at hs
    · obtain ⟨entry, hc, rfl⟩ := Option.map_eq_some_iff.mp hs
      exact h.prepareNextBuffer hc allocated
    · cases hs
  | cancelPrepare =>
    simp only [State.step] at hs
    split at hs
    · obtain ⟨entry, hc, rfl⟩ := Option.map_eq_some_iff.mp hs
      exact h.updateCurrent hc fun _ ↦ Stream.cancelPrepare_mState _
    · cases hs
  | finish =>
    simp only [State.step] at hs
    split at hs
    · rename_i hstage
      obtain ⟨entry, hc, rfl⟩ := Option.map_eq_some_iff.mp hs
      exact h.finish hc hstage hsafe
    · cases hs
  | changeStream id stream =>
    simp only [State.step] at hs
    split at hs
    · cases hs
    · rename_i hp
      cases hs
      exact h.changeStream (not_or.mp hp).2

/-- In every run of steps that do not lose a stream, each preparation is accounted for. -/
theorem preparations_kept {streams : ℤ → Stream} (h : ∀ id, (streams id).mState ≠ .PREPARING)
    {s : State} (hs : Reachable (restrict (Step listener) (Safe listener)) (create streams) s) :
    s.Kept :=
  (hs.invariant (P := Inv) (fun _ _ _ hst ho ↦ ho.step hst.1 hst.2) (inv_create h)).toKept

/-- Two streams with two buffers and one with one, `pause` while the first is current, and
`clear` with the third pending. -/
theorem preparations_kept_paused :
    ∃ s : State, s.Kept ∧ s.notified = [(1, some 0), (2, some 1)] ∧ s.cancelled = [2] := by
  obtain ⟨s, he, hf⟩ := Option.map_eq_some_iff.mp (show (exec (guarded (step true) (Safe true))
    (create fun _ ↦ { getBufferCount := 2 }) [.prepare 0 1 true, .prepare 1 2 true,
      .threadLoop 0, .prepareNextBuffer true, .pause, .threadLoop 0, .threadLoop 0, .pauseEnds,
      .resume [0, 1] true, .prepare 0 3 true, .clear]).map
        (fun s ↦ (s.notified, s.cancelled)) = some ([(1, some 0), (2, some 1)], [2]) by
    decide +kernel)
  obtain ⟨hn, hc⟩ := Prod.mk.inj hf
  exact ⟨s, preparations_kept (fun _ ↦ StreamState.noConfusion) ⟨_, run_restrict_of_exec he⟩,
    hn, hc⟩

/-- Two streams are prepared with the same count: the second stays in preparation and is not
pending. A call of `clear` after the last preparation cancels that of a later call. -/
theorem not_preparations_kept :
    (∃ s, Reachable (Step true) (create fun _ ↦ { getBufferCount := 2 }) s ∧ ¬ s.Kept) ∧
      ∃ s, Reachable (Step true) (create fun _ ↦ { getBufferCount := 2 }) s ∧ ¬ s.Kept := by
  constructor
  · obtain ⟨s, hs, hf⟩ := exists_reachable_of_exec (s := create fun _ ↦ { getBufferCount := 2 })
      (f := fun s ↦ ((s.streams 2).mState, s.known)) (b := (.PREPARING, {⟨1, 0⟩}))
      [.prepare 0 1 true, .prepare 0 2 true]
      (show (exec (step true) _ _).map _ = _ by decide +kernel)
    obtain ⟨hstate, hknown⟩ := Prod.mk.inj hf
    refine ⟨s, hs, fun h ↦ ?_⟩
    obtain ⟨e, he, hid⟩ := h.preparing 2 hstate
    rw [hknown, Multiset.mem_singleton] at he
    rw [he] at hid
    cases hid
  · obtain ⟨s, hs, hf⟩ := exists_reachable_of_exec (s := create fun _ ↦ { getBufferCount := 2 })
      (f := fun s ↦ (s.cancelled, s.clears, s.calls)) (b := ([1], 1, [⟨1, 0⟩, ⟨2, 1⟩]))
      [.prepare 0 1 true, .threadLoop 0, .prepareNextBuffer true, .threadLoop 0,
        .prepareNextBuffer true, .finish, .clear, .prepare 0 2 true, .threadLoop 0,
        .prepareNextBuffer true, .threadLoop 0]
      (show (exec (step true) _ _).map _ = _ by decide +kernel)
    obtain ⟨hcancelled, hrest⟩ := Prod.mk.inj hf
    obtain ⟨hclears, hcalls⟩ := Prod.mk.inj hrest
    refine ⟨s, hs, fun h ↦ ?_⟩
    obtain ⟨c, hc, hlt⟩ := h.accounted.cleared 1 (by rw [hcancelled]; exact List.mem_singleton_self 1)
    rw [hcalls] at hc
    cases hc
    rw [hclears] at hlt
    exact absurd hlt (lt_irrefl 1)

end State

end VirtualCamera.Preparer
