import VirtualCamera.Session.Reconfigure

namespace VirtualCamera.Session.Atomicity

open Library.Ledger Streams Request OneRequest
open Capture hiding State Label
open Caches hiding Label

/-! ### What is taken and given back -/

def dequeued : Action → Option ℕ
  | .dqbuf index => some index
  | _ => none

def enqueued : Action → Option ℕ
  | .qbuf index => some index
  | _ => none

/-- A fence of -1 is none. -/
def imported : Action → Option ℤ
  | .importFence fd => if 0 ≤ fd then some fd else none
  | _ => none

def closed : Action → Option ℤ
  | .closeFence fd => if 0 ≤ fd then some fd else none
  | _ => none

structure Undone (s : State) (reply : Reply) : Prop where
  inflight : reply.state.device.inflightFrames = s.device.inflightFrames
  entries : ∀ frameNumber, .insertInflight frameNumber ∉ reply.log
  fences : Settled imported closed reply.log
  frames : Settled dequeued enqueued reply.log

/-! ### How a frame is lost -/

/-- Frame `k` is the first that is not put back, of those from number `i` on. -/
def LosesAt (o : ConfigureOutcome) (i k : ℕ) : Prop :=
  (∀ j, i ≤ j → j < k → Swallows o j) ∧ (o.warmupDqbuf k).isSome = true ∧ o.warmupQbuf k = false

def WarmupLoses (o : ConfigureOutcome) : Prop :=
  ∃ k < kBadFramesAfterStreamOn, LosesAt o 0 k

def TimesOut (v : V4l2) (room : Option Interference) : Prop :=
  v.numDequeued = v.bufferCount ∧ room = none

def Skips (v : V4l2) (b : V4l2Buffer) : Prop := v.mainDevice = true ∧ b.index % 2 = 0

instance (v : V4l2) (b : V4l2Buffer) : Decidable (Skips v b) :=
  inferInstanceAs (Decidable (_ ∧ _))

def NoneLeft (v : V4l2) (o : DequeueOutcome) : Prop :=
  match o.first with
  | none => True
  | some b => Skips v b ∧ o.requeue = true ∧ o.second = none

/-- A skipped buffer cannot be put back, or the checks fail on the buffer that is kept. -/
def Loses (v : V4l2) (o : DequeueOutcome) : Prop :=
  match o.first, o.second with
  | none, _ => False
  | some b, none => if Skips v b then o.requeue = false else ¬ v.Accepts b
  | some b, some b' =>
    if Skips v b then o.requeue = false ∨ ¬ v.Accepts b' else ¬ v.Accepts b

def NoFrame (v : V4l2) (room : Option Interference) (o : DequeueOutcome) : Prop :=
  TimesOut v room ∨ v.subDevice = true ∧ v.bufferCount = 0 ∨
    v.subDevice = false ∧ (NoneLeft v o ∨ Loses v o)

def FrameLost (v : V4l2) (room : Option Interference) (o : DequeueOutcome) : Prop :=
  ¬ TimesOut v room ∧ v.subDevice = false ∧ Loses v o

variable {v : V4l2} {o : DequeueOutcome}

theorem dqbuf_qbuf_settled (index : ℕ) : Settled dequeued enqueued [.dqbuf index, .qbuf index] :=
  .refl _

theorem dqbuf_not_settled (index : ℕ) : ¬ Settled dequeued enqueued [.dqbuf index] := by
  intro h
  have := h.length_eq
  cases this

theorem dqbuf_honest (index : ℕ) : Honest dequeued enqueued [.dqbuf index] :=
  honest_of_gives_none fun x hx ↦ by
    rw [List.mem_singleton.mp hx]
    rfl

theorem warmupLog_settled_iff (o : ConfigureOutcome) (i n : ℕ) :
    Honest dequeued enqueued (warmupLog o i n) ∧
      (Settled dequeued enqueued (warmupLog o i n) ↔
        ∀ k, i ≤ k → k < i + n → ¬ LosesAt o i k) := by
  induction n generalizing i with
  | zero => exact ⟨settled_nil.honest, fun _ k hi hk ↦ by omega, fun _ ↦ settled_nil⟩
  | succ n ih =>
    obtain ⟨hhonest, hiff⟩ := ih (i + 1)
    unfold warmupLog
    split
    · rename_i hd
      refine ⟨settled_nil.honest, fun _ k hi hk hlost ↦ ?_, fun _ ↦ settled_nil⟩
      have hswallows : (o.warmupDqbuf i).isSome = true := by
        obtain rfl | hlt := Nat.eq_or_lt_of_le hi
        · exact hlost.2.1
        · exact (hlost.1 i le_rfl hlt).1
      rw [hd] at hswallows
      cases hswallows
    rename_i index hd
    have hsome : (o.warmupDqbuf i).isSome = true := by
      rw [hd]
      rfl
    split
    · rename_i hq
      refine ⟨dqbuf_honest index, fun h ↦ absurd h (dqbuf_not_settled index), fun h ↦ ?_⟩
      exact absurd ⟨fun j hi hj ↦ by omega, hsome, Bool.eq_false_iff.mpr hq⟩
        (h i le_rfl (by omega))
    · rename_i hq
      have hswallows : Swallows o i := ⟨hsome, not_not.mp hq⟩
      have happend := settled_append_iff (dqbuf_qbuf_settled index).honest hhonest
      refine ⟨(dqbuf_qbuf_settled index).honest.append hhonest, happend.trans ?_⟩
      rw [hiff, and_iff_right (dqbuf_qbuf_settled index)]
      constructor
      · intro h k hi hk hlost
        obtain rfl | hlt := Nat.eq_or_lt_of_le hi
        · rw [hlost.2.2] at hq
          exact hq Bool.false_ne_true
        · exact h k hlt (by omega) ⟨fun j hij hj ↦ hlost.1 j (by omega) hj, hlost.2⟩
      · intro h k hi hk hlost
        refine h k (by omega) (by omega) ⟨fun j hij hj ↦ ?_, hlost.2⟩
        obtain rfl | hlt := Nat.eq_or_lt_of_le hij
        · exact hswallows
        · exact hlost.1 j hlt hj

/-! ### The frame of the request -/

theorem waitForReturn_cases (v : V4l2) (room : Option Interference) :
    TimesOut v room ∧ waitForReturn v room = none ∨
      ¬ TimesOut v room ∧ ∃ n d, waitForReturn v room =
        some { v with numDequeued := n, driver := d } := by
  unfold waitForReturn
  split
  · rename_i hfull
    cases room with
    | none => exact .inl ⟨⟨hfull, rfl⟩, rfl⟩
    | some i => exact .inr ⟨fun h ↦ (by cases h.2), _, _, rfl⟩
  · rename_i hfull
    exact .inr ⟨fun h ↦ hfull h.1, _, _, rfl⟩

theorem skipped_log (b b' : ℕ) :
    Honest dequeued enqueued [.dqbuf b, .qbuf b, .dqbuf b'] ∧
      ¬ Settled dequeued enqueued [.dqbuf b, .qbuf b, .dqbuf b'] := by
  have hhonest := (dqbuf_qbuf_settled b).honest
  refine ⟨hhonest.append (dqbuf_honest b'), fun h ↦ ?_⟩
  exact dqbuf_not_settled b' ((settled_append_iff hhonest (dqbuf_honest b')).mp h).2

/-- A frame that is taken and not returned is put back unless it is lost. -/
structure Fate (v : V4l2) (o : DequeueOutcome) (result : Option ℕ) (log : List Action) :
    Prop where
  honest : Honest dequeued enqueued log
  none_iff : result = none ↔ NoneLeft v o ∨ Loses v o
  settled_iff : result = none → (Settled dequeued enqueued log ↔ ¬ Loses v o)

theorem Fate.of_loses {log : List Action} (h : Loses v o)
    (hlog : Honest dequeued enqueued log ∧ ¬ Settled dequeued enqueued log) : Fate v o none log :=
  ⟨hlog.1, iff_of_true rfl (.inr h), fun _ ↦ iff_of_false hlog.2 (not_not_intro h)⟩

theorem Fate.of_returned {index : ℕ} {log : List Action} (h : ¬ NoneLeft v o)
    (h' : ¬ Loses v o) (hlog : Honest dequeued enqueued log) : Fate v o (some index) log :=
  ⟨hlog, iff_of_false (fun hn ↦ (by cases hn)) (not_or.mpr ⟨h, h'⟩), fun hn ↦ (by cases hn)⟩

theorem Fate.of_noneLeft {log : List Action} (h : NoneLeft v o) (h' : ¬ Loses v o)
    (hlog : Settled dequeued enqueued log) : Fate v o none log :=
  ⟨hlog.honest, iff_of_true rfl (.inl h), fun _ ↦ iff_of_true hlog h'⟩

theorem dequeueBuffer_fate (hsub : v.subDevice = false) :
    Fate v o (v.dequeueBuffer o).1 (takeLog v o) := by
  unfold V4l2.dequeueBuffer V4l2.takeBuffer takeLog
  rw [if_neg (by rw [hsub]; exact Bool.false_ne_true)]
  cases hfirst : o.first with
  | none =>
    apply Fate.of_noneLeft
    · simp only [NoneLeft, hfirst]
    · simp only [Loses, hfirst, not_false_eq_true]
    · exact settled_nil
  | some b =>
    dsimp only
    by_cases hskips : v.mainDevice = true ∧ b.index % 2 = 0
    · have hskips' : Skips v b := hskips
      rw [if_pos hskips, if_pos hskips]
      cases hrequeue : o.requeue with
      | false =>
        rw [if_pos Bool.false_ne_true, if_pos Bool.false_ne_true]
        refine .of_loses ?_ ⟨dqbuf_honest b.index, dqbuf_not_settled b.index⟩
        cases hsecond : o.second with
        | none => simp only [Loses, hfirst, hsecond, if_pos hskips', hrequeue]
        | some b' => simp only [Loses, hfirst, hsecond, if_pos hskips', hrequeue, true_or]
      | true =>
        rw [if_neg (not_not_intro rfl), if_neg (not_not_intro rfl)]
        cases hsecond : o.second with
        | none =>
          refine .of_noneLeft ?_ ?_ (dqbuf_qbuf_settled b.index)
          · simp only [NoneLeft, hfirst]
            exact ⟨hskips', hrequeue, hsecond⟩
          · simp only [Loses, hfirst, hsecond, if_pos hskips', hrequeue, reduceCtorEq,
              not_false_eq_true]
        | some b' =>
          dsimp only
          split
          · rename_i haccepts
            refine .of_returned ?_ ?_ (skipped_log b.index b'.index).1
            · simp only [NoneLeft, hfirst, hsecond, reduceCtorEq, and_false, not_false_eq_true]
            · have haccepts' : v.Accepts b' := haccepts
              simp only [Loses, hfirst, hsecond, if_pos hskips', hrequeue, haccepts', reduceCtorEq,
                not_true_eq_false, or_false, not_false_eq_true]
          · rename_i haccepts
            refine .of_loses ?_ (skipped_log b.index b'.index)
            simp only [Loses, hfirst, hsecond, if_pos hskips']
            exact .inr haccepts
    · have hskips' : ¬ Skips v b := hskips
      have hloses : Loses v o ↔ ¬ v.Accepts b := by
        cases hsecond : o.second with
        | none => simp only [Loses, hfirst, hsecond, if_neg hskips']
        | some b' => simp only [Loses, hfirst, hsecond, if_neg hskips']
      rw [if_neg hskips, if_neg hskips]
      dsimp only
      split
      · rename_i haccepts
        refine .of_returned ?_ (fun h ↦ hloses.mp h haccepts) (dqbuf_honest b.index)
        simp only [NoneLeft, hfirst]
        exact fun h ↦ hskips' h.1
      · rename_i haccepts
        exact .of_loses (hloses.mpr haccepts) ⟨dqbuf_honest b.index, dqbuf_not_settled b.index⟩

theorem dequeueV4l2FrameLocked_waited {w : V4l2} {room : Option Interference}
    (h : waitForReturn v room = some w) (o : DequeueOutcome) :
    (dequeueV4l2FrameLocked v room o).1 = (w.dequeueBuffer o).1 ∧
      (dequeueV4l2FrameLocked v room o).2.2 = if w.subDevice then [] else takeLog w o := by
  unfold dequeueV4l2FrameLocked
  rw [h]
  dsimp only
  split
  · rename_i hresult
    rw [hresult]
    exact ⟨rfl, rfl⟩
  · rename_i hresult
    rw [hresult]
    exact ⟨rfl, rfl⟩

theorem dequeueBuffer_subDevice (hsub : v.subDevice = true) :
    (v.dequeueBuffer o).1 = none ↔ v.bufferCount = 0 := by
  unfold V4l2.dequeueBuffer
  rw [if_pos hsub]
  split
  · rename_i haccepts
    exact iff_of_false (fun h ↦ (by cases h)) (Nat.ne_of_gt haccepts.1)
  · rename_i haccepts
    refine iff_of_true rfl (Nat.eq_zero_of_not_pos fun hpos ↦ haccepts ⟨hpos, ?_⟩)
    exact Nat.zero_le _

theorem dequeue_fate (v : V4l2) (room : Option Interference) (o : DequeueOutcome) :
    Honest dequeued enqueued (dequeueV4l2FrameLocked v room o).2.2 ∧
      ((dequeueV4l2FrameLocked v room o).1 = none ↔ NoFrame v room o) ∧
      ((dequeueV4l2FrameLocked v room o).1 = none →
        (Settled dequeued enqueued (dequeueV4l2FrameLocked v room o).2.2 ↔
          ¬ FrameLost v room o)) := by
  obtain ⟨htimeout, hwait⟩ | ⟨htimeout, n, d, hwait⟩ := waitForReturn_cases v room
  · unfold dequeueV4l2FrameLocked
    rw [hwait]
    exact ⟨settled_nil.honest, iff_of_true rfl (.inl htimeout),
      fun _ ↦ iff_of_true settled_nil fun h ↦ h.1 htimeout⟩
  obtain ⟨hresult, hlog⟩ := dequeueV4l2FrameLocked_waited hwait o
  rw [hresult, hlog]
  have hno : NoFrame v room o ↔ v.subDevice = true ∧ v.bufferCount = 0 ∨
      v.subDevice = false ∧ (NoneLeft v o ∨ Loses v o) := or_iff_right htimeout
  rw [hno]
  by_cases hsub : v.subDevice = true
  · have hbuffer := dequeueBuffer_subDevice (v := { v with numDequeued := n, driver := d })
      (o := o) hsub
    rw [if_pos hsub]
    refine ⟨settled_nil.honest, hbuffer.trans ?_, fun _ ↦ iff_of_true settled_nil fun h ↦ ?_⟩
    · refine ⟨fun h ↦ .inl ⟨hsub, h⟩, fun h ↦ ?_⟩
      obtain ⟨-, h⟩ | ⟨hmain, -⟩ := h
      · exact h
      · rw [hsub] at hmain
        cases hmain
    · have hmain := h.2.1
      rw [hsub] at hmain
      cases hmain
  · have hmain : v.subDevice = false := Bool.eq_false_iff.mpr hsub
    have hfate := dequeueBuffer_fate (v := { v with numDequeued := n, driver := d }) (o := o) hmain
    rw [if_neg hsub]
    refine ⟨hfate.honest, hfate.none_iff.trans ?_, fun h ↦ (hfate.settled_iff h).trans ?_⟩
    · exact ⟨fun h ↦ .inr ⟨hmain, h⟩, fun h ↦ (h.resolve_left fun h' ↦ hsub h'.1).2⟩
    · exact not_congr ⟨fun h ↦ ⟨htimeout, hmain, h⟩, fun h ↦ h.2.2⟩

/-! ### The fences -/

theorem map_importFence_closed (fences : List ℤ) :
    Settled imported closed (fences.map .importFence ++ fences.map .closeFence) := by
  unfold Settled
  rw [List.filterMap_append, List.filterMap_append, List.filterMap_map, List.filterMap_map,
    List.filterMap_map, List.filterMap_map]
  have hclosed : fences.filterMap (imported ∘ .closeFence) = [] :=
    List.filterMap_eq_nil_iff.mpr fun _ _ ↦ rfl
  have himported : fences.filterMap (closed ∘ .importFence) = [] :=
    List.filterMap_eq_nil_iff.mpr fun _ _ ↦ rfl
  rw [hclosed, himported, List.append_nil, List.nil_append]
  exact .refl _

theorem importFences_cases (a : Answers) (i n : ℕ) (allFences : List ℤ) :
    (∃ fences, importFences a i allFences n =
        (some fences, (List.range' i n).map fun j ↦ .importFence (a.fence j))) ∨
      ∃ log, importFences a i allFences n = (none, log) ∧
        Settled imported closed (allFences.map .importFence ++ log) := by
  induction n generalizing i allFences with
  | zero => exact .inl ⟨allFences, rfl⟩
  | succ n ih =>
    unfold importFences
    split
    · exact .inr ⟨_, rfl, map_importFence_closed allFences⟩
    · obtain ⟨fences, heq⟩ | ⟨log, heq, hsettled⟩ := ih (i + 1) (allFences ++ [a.fence i])
      · rw [heq]
        exact .inl ⟨fences, rfl⟩
      · rw [heq]
        refine .inr ⟨_, rfl, ?_⟩
        rw [List.map_append, List.append_assoc] at hsettled
        exact hsettled

theorem imported_settled_iff (a : Answers) (n : ℕ) :
    Settled imported closed ((List.range' 0 n).map fun j ↦ .importFence (a.fence j)) ↔
      ∀ i < n, a.fence i < 0 := by
  rw [settled_iff_of_gives_none]
  · rw [List.forall_mem_map]
    refine ⟨fun h i hi ↦ ?_, fun h i hi ↦ ?_⟩
    · have hnone := h i (List.mem_range'_1.mpr (by omega))
      unfold imported at hnone
      dsimp only at hnone
      split at hnone
      · cases hnone
      · omega
    · have hlt := h i (by have := List.mem_range'_1.mp hi; omega)
      exact if_neg (not_le.mpr hlt)
  · intro x hx
    obtain ⟨i, -, rfl⟩ := List.mem_map.mp hx
    rfl

/-! ### The request -/

variable {s : State} {id : ℕ} {request : CaptureRequest} {a : Answers}

def Imports (s : State) (request : CaptureRequest) (a : Answers) : Prop :=
  ∃ handles, (Caches.importRequestLockedImpl s.caches request.outputBuffers a.imports).1 =
    .ok handles

/-- What is left over of a request that fails after the frame rate has been adjusted. -/
structure Leaves (s : State) (request : CaptureRequest) (a : Answers) (reply : Reply) :
    Prop where
  status_iff : reply.status ≠ .ok ↔
    ¬ Imports s request a ∨ NoFrame s.device.v4l2 a.room a.dequeue
  inflight : reply.status ≠ .ok →
    reply.state.device.inflightFrames = s.device.inflightFrames ∧
      ∀ frameNumber, .insertInflight frameNumber ∉ reply.log
  honest : Honest dequeued enqueued reply.log
  frames : reply.status ≠ .ok → (Settled dequeued enqueued reply.log ↔
    (Imports s request a → ¬ FrameLost s.device.v4l2 a.room a.dequeue))
  fences : reply.status ≠ .ok → (Settled imported closed reply.log ↔
    (Imports s request a → ∀ i < request.outputBuffers.length, a.fence i < 0))

theorem importFences_apart (a : Answers) (i n : ℕ) (allFences : List ℤ) :
    Apart dequeued enqueued (importFences a i allFences n).2 := by
  intro x hx
  obtain ⟨fd, rfl | rfl⟩ := importFences_mem hx
  · exact ⟨rfl, rfl⟩
  · exact ⟨rfl, rfl⟩

theorem dequeue_apart (v : V4l2) (room : Option Interference) (o : DequeueOutcome) :
    Apart imported closed (dequeueV4l2FrameLocked v room o).2.2 := by
  intro x hx
  obtain ⟨index, rfl | rfl⟩ := dequeueV4l2FrameLocked_mem hx
  · exact ⟨rfl, rfl⟩
  · exact ⟨rfl, rfl⟩

theorem submit_leaves (s : State) (id : ℕ) (request : CaptureRequest) (a : Answers) :
    Leaves s request a (submit s id request a) := by
  obtain ⟨status, log, hne, himport, herror, hlog⟩ |
      ⟨handles, fences, log, himport, hok, hlog⟩ := import_refines s.caches request.outputBuffers a
  · have hfails : ¬ Imports s request a := by
      intro hcond
      obtain ⟨handles, hok⟩ := hcond
      rw [herror] at hok
      cases hok
    have hsettled : Settled dequeued enqueued log ∧ Settled imported closed log := by
      obtain rfl | hnone := hlog
      · exact ⟨settled_nil, settled_nil⟩
      · have hframes := (importFences_apart a 0 request.outputBuffers.length []).settled
        rw [hnone] at hframes
        obtain ⟨fences, hsome⟩ | ⟨log', hnone', hfences⟩ :=
          importFences_cases a 0 request.outputBuffers.length []
        · rw [hnone] at hsome
          cases hsome
        · rw [hnone] at hnone'
          cases hnone'
          exact ⟨hframes, hfences⟩
    unfold submit
    rw [himport]
    refine ⟨iff_of_true hne (.inl hfails), fun _ ↦ ⟨rfl, fun frameNumber hmem ↦ ?_⟩,
      hsettled.1.honest, fun _ ↦ iff_of_true hsettled.1 fun h ↦ absurd h hfails,
      fun _ ↦ iff_of_true hsettled.2 fun h ↦ absurd h hfails⟩
    obtain rfl | hnone := hlog
    · cases hmem
    · have hmem' : .insertInflight frameNumber ∈
          (importFences a 0 [] request.outputBuffers.length).2 := by
        rw [hnone]
        exact hmem
      obtain ⟨fd, h | h⟩ := importFences_mem hmem' <;> cases h
  · have himports : Imports s request a := ⟨handles, hok⟩
    have hframes : Settled dequeued enqueued log := by
      have hframes := (importFences_apart a 0 request.outputBuffers.length []).settled
      rwa [hlog] at hframes
    have hfences : Settled imported closed log ↔
        ∀ i < request.outputBuffers.length, a.fence i < 0 := by
      obtain ⟨fences', hsome⟩ | ⟨log', hnone, _⟩ :=
        importFences_cases a 0 request.outputBuffers.length []
      · rw [hlog] at hsome
        cases hsome
        exact imported_settled_iff a _
      · rw [hlog] at hnone
        cases hnone
    have hpure : ∀ frameNumber, .insertInflight frameNumber ∉ log := by
      intro frameNumber hmem
      have hmem' : .insertInflight frameNumber ∈
          (importFences a 0 [] request.outputBuffers.length).2 := by
        rw [hlog]
        exact hmem
      obtain ⟨fd, h | h⟩ := importFences_mem hmem' <;> cases h
    obtain ⟨hhonest, hnone, hsettled⟩ := dequeue_fate s.device.v4l2 a.room a.dequeue
    have hdequeue := dequeue_apart s.device.v4l2 a.room a.dequeue
    have hreply := dequeue_reply (s.setCaches (Caches.importRequestLockedImpl s.caches
      request.outputBuffers a.imports).2) id request a handles fences
    unfold submit
    rw [himport]
    dsimp only [State.setCaches] at hreply ⊢
    generalize dequeue _ id request a handles fences = reply at hreply ⊢
    obtain ⟨hresult, hstatus, hlog', hinflight⟩ | ⟨hresult, hstatus, hlog'⟩ := hreply
    · refine ⟨?_, fun _ ↦ ⟨hinflight, fun frameNumber hmem ↦ ?_⟩, ?_, fun _ ↦ ?_, fun _ ↦ ?_⟩
      · dsimp only
        rw [hstatus]
        exact iff_of_true Status.noConfusion (.inr (hnone.mp hresult))
      · rw [hlog'] at hmem
        obtain hmem | hmem := List.mem_append.mp hmem
        · exact hpure frameNumber hmem
        · obtain ⟨index, h | h⟩ := dequeueV4l2FrameLocked_mem hmem <;> cases h
      · dsimp only
        rw [hlog']
        exact hframes.honest.append hhonest
      · dsimp only
        rw [hlog', settled_append_iff hframes.honest hhonest, and_iff_right hframes]
        exact (hsettled hresult).trans ⟨fun h _ ↦ h, fun h ↦ h himports⟩
      · dsimp only
        rw [hlog']
        exact hdequeue.settled_append_iff.trans
          (hfences.trans ⟨fun h _ ↦ h, fun h ↦ h himports⟩)
    · have hok : ∀ {P : Prop}, reply.status ≠ .ok → P := fun h ↦ absurd hstatus h
      refine ⟨iff_of_false (not_not_intro hstatus) ?_, fun h ↦ hok h, ?_, fun h ↦ hok h,
        fun h ↦ hok h⟩
      · exact not_or.mpr ⟨not_not_intro himports, fun h ↦ hresult (hnone.mpr h)⟩
      · dsimp only
        rw [hlog']
        refine hframes.honest.append (hhonest.append (honest_of_gives_none fun x hx ↦ ?_))
        rw [List.mem_singleton.mp hx]
        rfl

/-- The session is set up for another frame rate, and a frame of the warm-up is lost. -/
def WarmupLost (s : DeviceSession) (a : Answers) : Prop :=
  ∃ fps, requestedFps s = some fps ∧ fps ≠ s.v4l2.streamingFps ∧ s.v4l2.subDevice = false ∧
    Starts s.v4l2 s.v4l2.streamingFmt.frameRates fps a.configure ∧ WarmupLoses a.configure

theorem warmupLog_settled (o : ConfigureOutcome) :
    Honest dequeued enqueued (warmupLog o 0 kBadFramesAfterStreamOn) ∧
      (Settled dequeued enqueued (warmupLog o 0 kBadFramesAfterStreamOn) ↔ ¬ WarmupLoses o) := by
  obtain ⟨hhonest, hiff⟩ := warmupLog_settled_iff o 0 kBadFramesAfterStreamOn
  refine ⟨hhonest, hiff.trans ⟨fun h hlost ↦ ?_, fun h k _ hk hlost ↦ h ⟨k, by omega, hlost⟩⟩⟩
  obtain ⟨k, hk, hlost⟩ := hlost
  exact h k (Nat.zero_le k) (by omega) hlost

structure Adjusts (s : DeviceSession) (a : Answers) (device : DeviceSession)
    (log : List Action) : Prop where
  inflight : device.inflightFrames = s.inflightFrames
  entries : ∀ frameNumber, .insertInflight frameNumber ∉ log
  honest : Honest dequeued enqueued log
  frames : Settled dequeued enqueued log ↔ ¬ WarmupLost s a
  fences : Apart imported closed log

theorem configureLog_adjusts {s : DeviceSession} {fps : ℚ} {d : Driver}
    (hs : s.v4l2.streaming = true) :
    let v := { s.v4l2 with numDequeued := 0, driver := d }
    (configureLog v v.streamingFmt fps a.configure = [] ∧
        ¬ (s.v4l2.subDevice = false ∧
          Starts s.v4l2 s.v4l2.streamingFmt.frameRates fps a.configure)) ∨
      configureLog v v.streamingFmt fps a.configure =
          warmupLog a.configure 0 kBadFramesAfterStreamOn ∧
        s.v4l2.subDevice = false ∧
        Starts s.v4l2 s.v4l2.streamingFmt.frameRates fps a.configure := by
  intro v
  by_cases hsub : s.v4l2.subDevice = true
  · refine .inl ⟨(configure_subDevice (v := v) _ _ _ hs rfl hsub).1, fun h ↦ ?_⟩
    rw [hsub] at h
    cases h.1
  · have hmain : s.v4l2.subDevice = false := Bool.eq_false_iff.mpr hsub
    by_cases hstarts : Starts v v.streamingFmt.frameRates fps a.configure
    · exact .inr ⟨(configure_starts (v := v) hs rfl hmain hstarts).1, hmain,
        ⟨hstarts.stopped, hstarts.format, hstarts.granted, hstarts.started⟩⟩
    · refine .inl ⟨(configure_fails (v := v) hs rfl hmain hstarts).1, fun h ↦ hstarts ?_⟩
      exact ⟨h.2.stopped, h.2.format, h.2.granted, h.2.started⟩

theorem adjustFps_adjusts {s device : DeviceSession} {log : List Action}
    (hs : s.v4l2.streaming = true) (h : adjustFps s a = some (device, log)) :
    Adjusts s a device log := by
  by_cases hsame : ∀ fps, requestedFps s = some fps → fps = s.v4l2.streamingFps
  · rw [adjustFps_same hsame] at h
    cases h
    refine ⟨rfl, fun _ ↦ List.not_mem_nil, settled_nil.honest, iff_of_true settled_nil ?_,
      fun x hx ↦ absurd hx List.not_mem_nil⟩
    intro hcond
    obtain ⟨fps, hfps, hne, -⟩ := hcond
    exact hne (hsame fps hfps)
  · push Not at hsame
    obtain ⟨fps, hfps, hne⟩ := hsame
    obtain ⟨-, hnone⟩ | ⟨d, -, hadjust⟩ := adjustFps_other (a := a) hfps hne
    · rw [hnone] at h
      cases h
    · have hlost : WarmupLost s a ↔ s.v4l2.subDevice = false ∧
          Starts s.v4l2 s.v4l2.streamingFmt.frameRates fps a.configure ∧
          WarmupLoses a.configure := by
        refine ⟨fun h' ↦ ?_, fun h' ↦ ⟨fps, hfps, hne, h'⟩⟩
        obtain ⟨fps', hfps', h'⟩ := h'
        rw [hfps] at hfps'
        cases hfps'
        exact h'.2
      have hset : Apart dequeued enqueued [.configureV4l2StreamLocked fps] := fun x hx ↦ by
        rw [List.mem_singleton.mp hx]
        exact ⟨rfl, rfl⟩
      rw [hadjust] at h
      cases h
      obtain ⟨hlog, hnot⟩ | ⟨hlog, hmain, hstarts⟩ := configureLog_adjusts (d := d) (a := a) hs
      · rw [hlog]
        refine ⟨rfl, fun _ hmem ↦ ?_, hset.settled.honest, iff_of_true hset.settled fun h ↦ ?_,
          fun x hx ↦ ?_⟩
        · cases List.mem_singleton.mp hmem
        · exact hnot ⟨(hlost.mp h).1, (hlost.mp h).2.1⟩
        · rw [List.mem_singleton.mp hx]
          exact ⟨rfl, rfl⟩
      · obtain ⟨hhonest, hiff⟩ := warmupLog_settled a.configure
        rw [hlog]
        refine ⟨rfl, fun _ hmem ↦ ?_, hset.settled.honest.append hhonest, ?_, fun x hx ↦ ?_⟩
        · obtain h | hmem := List.mem_cons.mp hmem
          · cases h
          · obtain ⟨index, h | h⟩ := warmupLog_mem hmem <;> cases h
        · rw [hlost]
          refine hset.settled_append_iff_left.trans (hiff.trans ?_)
          exact not_congr ⟨fun h ↦ ⟨hmain, hstarts, h⟩, fun h ↦ h.2.2⟩
        · obtain rfl | hx := List.mem_cons.mp hx
          · exact ⟨rfl, rfl⟩
          · obtain ⟨index, rfl | rfl⟩ := warmupLog_mem hx
            · exact ⟨rfl, rfl⟩
            · exact ⟨rfl, rfl⟩

/-- What has to be so for a request that passes the checks and comes to the import: if it fails
then, no frame of the warm-up was lost, and if it fails after the import, there are no fences and
the frame is not lost. -/
def Recovers (s : State) (request : CaptureRequest) (a : Answers) : Prop :=
  Passes s request a → ∀ device log,
    adjustFps (withSettings s a.settings).device a = some (device, log) →
    let t := { withSettings s a.settings with device }
    (¬ Imports t request a ∨ NoFrame device.v4l2 a.room a.dequeue →
      ¬ WarmupLost (withSettings s a.settings).device a) ∧
    (Imports t request a → NoFrame device.v4l2 a.room a.dequeue →
      (∀ i < request.outputBuffers.length, a.fence i < 0) ∧
        ¬ FrameLost device.v4l2 a.room a.dequeue)

/-- When the checks are passed and the frame rate is adjusted, the rest decides. -/
theorem undone_iff {device : DeviceSession} {log : List Action} (h : Passes s request a)
    (hadjust : adjustFps (withSettings s a.settings).device a = some (device, log))
    (hfails : (processOneCaptureRequest s id request a).status ≠ .ok) :
    Undone s (processOneCaptureRequest s id request a) ↔
      ¬ WarmupLost (withSettings s a.settings).device a ∧
        (Imports { withSettings s a.settings with device } request a →
          (∀ i < request.outputBuffers.length, a.fence i < 0) ∧
            ¬ FrameLost device.v4l2 a.room a.dequeue) := by
  have hstreaming : (withSettings s a.settings).device.v4l2.streaming = true := by
    rw [v4l2_withSettings]
    exact h.streaming
  have hadjusts := adjustFps_adjusts hstreaming hadjust
  have hleaves := submit_leaves { withSettings s a.settings with device } id request a
  rw [process_adjusted h hadjust] at hfails ⊢
  obtain ⟨hinflight, hentries⟩ := hleaves.inflight hfails
  have hframes := (settled_append_iff hadjusts.honest hleaves.honest).trans
    (and_congr hadjusts.frames (hleaves.frames hfails))
  have hfences := (hadjusts.fences.settled_append_iff_left).trans (hleaves.fences hfails)
  constructor
  · intro hu
    exact ⟨(hframes.mp hu.frames).1,
      fun himports ↦ ⟨hfences.mp hu.fences himports, (hframes.mp hu.frames).2 himports⟩⟩
  · intro hcond
    obtain ⟨hwarmup, hrest⟩ := hcond
    refine ⟨?_, fun frameNumber hmem ↦ ?_, hfences.mpr fun himports ↦ (hrest himports).1,
      hframes.mpr ⟨hwarmup, fun himports ↦ (hrest himports).2⟩⟩
    · exact hinflight.trans (hadjusts.inflight.trans (inflightFrames_withSettings s a.settings))
    · obtain hmem | hmem := List.mem_append.mp hmem
      · exact hadjusts.entries frameNumber hmem
      · exact hentries frameNumber hmem

theorem undone_of_nothing {reply : Reply} (hlog : reply.log = [])
    (h : reply.state.device.inflightFrames = s.device.inflightFrames) : Undone s reply := by
  refine ⟨h, fun frameNumber hmem ↦ ?_, ?_, ?_⟩
  · rw [hlog] at hmem
    cases hmem
  · rw [hlog]
    exact settled_nil
  · rw [hlog]
    exact settled_nil

/-- A request that fails leaves nothing over, exactly when it has nothing to lose. -/
theorem failure_atomic_iff (s : State) (id : ℕ) (request : CaptureRequest) (a : Answers) :
    ((processOneCaptureRequest s id request a).status ≠ .ok →
      Undone s (processOneCaptureRequest s id request a)) ↔ Recovers s request a := by
  by_cases hp : Passes s request a
  · cases hadjust : adjustFps (withSettings s a.settings).device a with
    | none =>
      refine iff_of_true (fun _ ↦ ?_) fun _ device log h ↦ ?_
      · rw [process_busy hp hadjust]
        exact undone_of_nothing rfl (inflightFrames_withSettings s a.settings)
      · rw [hadjust] at h
        cases h
    | some result =>
      obtain ⟨device, log⟩ := result
      have hstatus : (processOneCaptureRequest s id request a).status ≠ .ok ↔
          ¬ Imports { withSettings s a.settings with device } request a ∨
            NoFrame device.v4l2 a.room a.dequeue := by
        rw [process_adjusted hp hadjust]
        exact (submit_leaves { withSettings s a.settings with device } id request a).status_iff
      constructor
      · intro h _ device' log' hadjust'
        rw [hadjust] at hadjust'
        cases hadjust'
        refine ⟨fun hfails ↦ ?_, fun himports hno ↦ ?_⟩
        · have hfails' := hstatus.mpr hfails
          exact ((undone_iff hp hadjust hfails').mp (h hfails')).1
        · have hfails' := hstatus.mpr (.inr hno)
          exact ((undone_iff hp hadjust hfails').mp (h hfails')).2 himports
      · intro h hfails
        obtain ⟨hwarmup, hrest⟩ := h hp device log hadjust
        refine (undone_iff hp hadjust hfails).mpr ⟨hwarmup (hstatus.mp hfails), fun himports ↦ ?_⟩
        exact hrest himports ((hstatus.mp hfails).resolve_left (not_not_intro himports))
  · obtain ⟨-, hlog, hinflight⟩ := process_rejected id hp
    exact iff_of_true (fun _ ↦ undone_of_nothing hlog hinflight) fun h ↦ absurd h hp

/-! ### A request whose frame cannot be had -/

/-- A session that streams with one buffer, and has imported a buffer of its stream. -/
def streaming : State :=
  ⟨{ Configure.configured with v4l2 := Accounting.configured.v4l2 }, 43⟩

def fenced : CaptureRequest := ⟨1, -1, [⟨1, 7⟩]⟩

def noFrame : Answers where
  settings := .settings ⟨[]⟩
  idle := none
  configure := Configure.unused
  imports := fun _ ↦ ⟨true, true, true⟩
  fence := fun _ ↦ 5
  room := none
  dequeue := ⟨none, true, none⟩
  shutterTs := 0

/-- The request fails, and its acquire fence stays open. -/
theorem fence_left_open :
    (processOneCaptureRequest streaming 0 fenced noFrame).status = .internalError ∧
      ¬ Undone streaming (processOneCaptureRequest streaming 0 fenced noFrame) := by
  have hlog : (processOneCaptureRequest streaming 0 fenced noFrame).log = [.importFence 5] := by
    decide +kernel
  refine ⟨by decide +kernel, fun h ↦ ?_⟩
  have hfences := h.fences
  rw [hlog] at hfences
  exact absurd hfences (by decide)

end VirtualCamera.Session.Atomicity
