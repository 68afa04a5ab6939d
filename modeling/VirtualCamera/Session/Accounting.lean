import VirtualCamera.Session.Capture

namespace VirtualCamera.Session.Accounting

open Library.Transition Capture

/-! ### The driver's side -/

/-- No buffer is both queued and out, and none was ever queued twice. -/
structure Sound (d : Driver) : Prop where
  disjoint : ∀ i ∈ d.queued, i ∉ d.out
  once : d.twice = false

variable {d : Driver} {i : ℕ}

theorem Sound.dqbuf (h : Sound d) (i : ℕ) : Sound (d.dqbuf i) where
  disjoint j hj hout := by
    obtain ⟨hne, hqueued⟩ := Finset.mem_erase.mp hj
    rcases Finset.mem_insert.mp hout with heq | hout
    · exact hne heq
    · exact h.disjoint j hqueued hout
  once := h.once

theorem Sound.qbuf (h : Sound d) (hi : i ∉ d.queued) : Sound (d.qbuf i) where
  disjoint j hj hout := by
    obtain ⟨hne, hout⟩ := Finset.mem_erase.mp hout
    rcases Finset.mem_insert.mp hj with heq | hqueued
    · exact hne heq
    · exact h.disjoint j hqueued hout
  once := by simp [Driver.qbuf, h.once, hi]

theorem Sound.drop (h : Sound d) : Sound d.drop := ⟨fun j hj ↦ (by cases hj), h.once⟩

theorem sound_of_out_empty (hout : d.out = ∅) (honce : d.twice = false) : Sound d :=
  ⟨fun j _ hj ↦ (by rw [hout] at hj; cases hj), honce⟩

theorem Sound.cycle (h : Sound d) (hi : i ∉ d.out) :
    Sound ((d.dqbuf i).qbuf i) ∧ ((d.dqbuf i).qbuf i).out = d.out :=
  ⟨(h.dqbuf i).qbuf (Finset.notMem_erase i d.queued), Finset.erase_insert hi⟩

structure Settled (d : Driver) : Prop where
  out : d.out = ∅
  once : d.twice = false

theorem Settled.sound (h : Settled d) : Sound d := sound_of_out_empty h.out h.once

theorem queueBuffers_settled (o : ConfigureOutcome) (remaining : ℕ) :
    ∀ {d : Driver} {i : ℕ}, Settled d → (∀ j ∈ d.queued, j < i) →
      Settled (d.queueBuffers o i remaining).2 := by
  induction remaining with
  | zero => intro d i h _; exact h
  | succ remaining ih =>
    intro d i h hlt
    simp only [Driver.queueBuffers]
    split
    · exact h
    · split
      · exact h
      · have hi : i ∉ d.queued := fun hi ↦ absurd (hlt i hi) (Nat.lt_irrefl i)
        have hout : (d.qbuf i).out = ∅ := by
          show d.out.erase i = ∅
          rw [h.out]
          rfl
        refine ih ⟨hout, (h.sound.qbuf hi).once⟩ ?_
        intro j hj
        rcases Finset.mem_insert.mp hj with heq | hj
        · omega
        · exact Nat.lt_succ_of_lt (hlt j hj)

theorem warmup_settled {o : ConfigureOutcome}
    (ho : ∀ k, (o.warmupDqbuf k).isSome → o.warmupQbuf k) (remaining : ℕ) :
    ∀ {d : Driver} {i : ℕ}, Settled d → Settled (d.warmup o i remaining).2 := by
  induction remaining with
  | zero => intro d i h; exact h
  | succ remaining ih =>
    intro d i h
    have hi := ho i
    simp only [Driver.warmup]
    cases hdq : o.warmupDqbuf i with
    | none => exact h
    | some index =>
      rw [hdq] at hi
      have hindex : index ∉ d.out := by
        rw [h.out]
        exact Finset.notMem_empty index
      obtain ⟨hsound, hout⟩ := h.sound.cycle hindex
      simp only [hi rfl, not_true_eq_false, if_false]
      exact ih ⟨hout.trans h.out, hsound.once⟩

/-! ### The session's functions -/

variable {v : V4l2}

theorem streamOff_cases (v : V4l2) (o : StreamOffOutcome) :
    (v.v4l2StreamOffLocked o).2 = v ∧
      (v.streaming = false ∨ ∃ e, (v.v4l2StreamOffLocked o).1 = .error e) ∨
    v.numDequeued = 0 ∧ (v.v4l2StreamOffLocked o).2.numDequeued = 0 ∧
      (v.v4l2StreamOffLocked o).2.bufferCount = 0 ∧
      (v.v4l2StreamOffLocked o).2.subDevice = v.subDevice ∧
      (v.v4l2StreamOffLocked o).2.driver.out = v.driver.out ∧
      (Sound v.driver → Sound (v.v4l2StreamOffLocked o).2.driver) := by
  unfold V4l2.v4l2StreamOffLocked
  by_cases hstreaming : v.streaming = true
  · rw [if_neg (not_not_intro hstreaming)]
    by_cases hnum : v.numDequeued = 0
    · rw [if_neg (not_not_intro hnum)]
      refine .inr ⟨hnum, ?_⟩
      dsimp only
      split
      · exact ⟨hnum, rfl, rfl, rfl, id⟩
      · split
        · exact ⟨hnum, rfl, rfl, rfl, id⟩
        · split
          · exact ⟨hnum, rfl, rfl, rfl, Sound.drop⟩
          · exact ⟨hnum, rfl, rfl, rfl, fun h ↦ h.drop.drop⟩
    · rw [if_pos hnum]
      exact .inl ⟨rfl, .inr ⟨_, rfl⟩⟩
  · rw [if_pos hstreaming]
    exact .inl ⟨rfl, .inl (Bool.eq_false_of_not_eq_true hstreaming)⟩

/-- A device of its own with nothing counted and nothing out. -/
structure AtRest (v : V4l2) : Prop where
  driver : Settled v.driver
  numDequeued : v.numDequeued = 0
  subDevice : v.subDevice = false

theorem AtRest.streamOff (h : AtRest v) (o : StreamOffOutcome) :
    AtRest (v.v4l2StreamOffLocked o).2 := by
  rcases streamOff_cases v o with ⟨heq, -⟩ | ⟨-, hnum, -, hsub, hout, hsound⟩
  · rw [heq]
    exact h
  · exact ⟨⟨hout.trans h.driver.out, (hsound h.driver.sound).once⟩, hnum, hsub.trans h.subDevice⟩

theorem AtRest.requestBuffers (h : AtRest v) (fmt : SupportedV4L2Format) (requestFps : ℚ)
    (o : ConfigureOutcome) :
    AtRest (v.requestBuffers fmt requestFps o).2 ∧
      ((v.requestBuffers fmt requestFps o).1 = .ok () →
        (v.requestBuffers fmt requestFps o).2.driver.queued = ∅) := by
  have hdrop : Settled v.driver.drop := ⟨h.driver.out, h.driver.once⟩
  unfold V4l2.requestBuffers
  dsimp only
  cases o.reqbufs with
  | none => exact ⟨⟨h.driver, h.numDequeued, h.subDevice⟩, fun hok ↦ by cases hok⟩
  | some count =>
    dsimp only
    split
    · exact ⟨⟨hdrop, h.numDequeued, h.subDevice⟩, fun _ ↦ rfl⟩
    · exact ⟨⟨hdrop, h.numDequeued, h.subDevice⟩, fun _ ↦ rfl⟩

theorem AtRest.startStream (h : AtRest v) {o : ConfigureOutcome}
    (ho : ∀ k, (o.warmupDqbuf k).isSome → o.warmupQbuf k) (hqueued : v.driver.queued = ∅) :
    AtRest (v.startStream o).2 := by
  have hlt : ∀ j ∈ v.driver.queued, j < 0 := by
    rw [hqueued]
    exact fun j hj ↦ (by cases hj)
  have hqueue := queueBuffers_settled o v.bufferCount h.driver hlt
  unfold V4l2.startStream
  cases hq : v.driver.queueBuffers o 0 v.bufferCount with
  | mk r d =>
    rw [hq] at hqueue
    cases r with
    | error e => exact ⟨hqueue, h.numDequeued, h.subDevice⟩
    | ok =>
      dsimp only
      split
      · exact ⟨hqueue, h.numDequeued, h.subDevice⟩
      · have hon : Settled d.streamOn := ⟨rfl, hqueue.once⟩
        exact ⟨warmup_settled ho _ hon, h.numDequeued, h.subDevice⟩

/-- Reconfiguring at rest leaves the session at rest, however far it gets. -/
theorem AtRest.configure (h : AtRest v) (fmt : SupportedV4L2Format) (requestFps : ℚ)
    {o : ConfigureOutcome} (ho : ∀ k, (o.warmupDqbuf k).isSome → o.warmupQbuf k) :
    AtRest (v.configureV4l2StreamLocked fmt requestFps o).2.2 := by
  have hoff := h.streamOff o.streamOff
  unfold V4l2.configureV4l2StreamLocked
  cases hv : v.v4l2StreamOffLocked o.streamOff with
  | mk r w =>
    rw [hv] at hoff
    cases r with
    | error e => exact hoff
    | ok =>
      have hw : AtRest w := hoff
      dsimp only
      rw [hw.subDevice, if_neg Bool.false_ne_true]
      split
      · exact hw
      · obtain ⟨hx, hqueued⟩ := hw.requestBuffers { fmt with width := o.width, height := o.height }
          requestFps o
        cases hr : w.requestBuffers { fmt with width := o.width, height := o.height } requestFps o with
        | mk r x =>
          rw [hr] at hx hqueued
          cases r with
          | error e => exact hx
          | ok =>
            have hy := AtRest.startStream hx ho (hqueued rfl)
            dsimp only at hy ⊢
            cases hs : x.startStream o with
            | mk r y =>
              rw [hs] at hy
              cases r with
              | error e => exact hy
              | ok => exact ⟨hy.driver, hy.numDequeued, hy.subDevice⟩

/-- The driver hands out buffers it holds, and the session takes in every one it
does not put back. -/
def RegularDqbuf (v : V4l2) (o : DequeueOutcome) : Prop :=
  ∀ b, o.first = some b → b.index ∉ v.driver.out ∧
    if v.mainDevice ∧ b.index % 2 = 0 then
      o.requeue = true ∧ ∀ b', o.second = some b' → b'.index ∉ v.driver.out ∧ v.Accepts b'
    else v.Accepts b

/-- What dequeuing leaves: nothing new out, or one accepted buffer. -/
theorem takeBuffer_cases {o : DequeueOutcome} (ho : RegularDqbuf v o) (hd : Sound v.driver) :
    (∃ d, v.takeBuffer o = (none, { v with driver := d }) ∧ Sound d ∧ d.out = v.driver.out) ∨
    ∃ b d, v.takeBuffer o = (some b, { v with driver := d }) ∧ Sound d ∧
      d.out = insert b.index v.driver.out ∧ b.index ∉ v.driver.out ∧ v.Accepts b := by
  unfold V4l2.takeBuffer
  cases hfirst : o.first with
  | none => exact .inl ⟨v.driver, rfl, hd, rfl⟩
  | some b =>
    obtain ⟨hb, hregular⟩ := ho b hfirst
    dsimp only
    split
    · rename_i hmain
      rw [if_pos hmain] at hregular
      obtain ⟨hrequeue, hsecond⟩ := hregular
      obtain ⟨hsound, hout⟩ := hd.cycle hb
      rw [if_neg (not_not_intro hrequeue)]
      cases hs : o.second with
      | none => exact .inl ⟨_, rfl, hsound, hout⟩
      | some b' =>
        obtain ⟨hb', haccepts⟩ := hsecond b' hs
        exact .inr ⟨b', _, rfl, hsound.dqbuf b'.index, congrArg (insert b'.index) hout, hb', haccepts⟩
    · rename_i hmain
      rw [if_neg hmain] at hregular
      exact .inr ⟨b, _, rfl, hd.dqbuf b.index, rfl, hb, hregular⟩

/-! ### The account over a run -/

/-- The frames taken by a call that has not yet counted them. -/
def uncounted : Dequeue → ℕ
  | .idle | .waiting | .passed => 0
  | .taken _ => 1

def tested : Dequeue → Prop
  | .passed | .taken _ => True
  | .idle | .waiting => False

structure Accounts (s : State) : Prop where
  sound : Sound s.v4l2.driver
  balance : s.v4l2.driver.out.card + s.returning = s.v4l2.numDequeued + uncounted s.dequeue
  le : s.v4l2.numDequeued ≤ s.v4l2.bufferCount
  room : tested s.dequeue → s.v4l2.numDequeued < s.v4l2.bufferCount
  nodup : s.frames.Nodup
  frames : ∀ i ∈ s.frames, i ∈ s.v4l2.driver.out
  taken : ∀ i, s.dequeue = .taken i → i ∈ s.v4l2.driver.out ∧ i ∉ s.frames
  single : s.v4l2.subDevice = true → s.v4l2.bufferCount ≤ 1

/-- The steps that do not lose a buffer: the wait is not left while all buffers are
still counted, what the driver hands out is taken in or put back, and a stream is
configured anew only when it was stopped with nothing counted. -/
def Regular (s : State) : Label → Prop
  | .woken => s.v4l2.numDequeued < s.v4l2.bufferCount
  | .dqbuf o => s.v4l2.subDevice = false → RegularDqbuf s.v4l2 o
  | .configureV4l2StreamLocked _ _ o => s.v4l2.subDevice = false →
      (s.v4l2.streaming = true ∨ s.v4l2.numDequeued = 0) ∧
        ∀ k, (o.warmupDqbuf k).isSome → o.warmupQbuf k
  | _ => True

variable {s t : State}

theorem Accounts.settled (h : Accounts s) (hidle : s.dequeue = .idle)
    (hnum : s.v4l2.numDequeued = 0) : Settled s.v4l2.driver ∧ s.frames = [] ∧ s.returning = 0 := by
  have hbalance := h.balance
  rw [hidle, hnum, uncounted] at hbalance
  have hout : s.v4l2.driver.out = ∅ := Finset.card_eq_zero.mp (by omega)
  refine ⟨⟨hout, h.sound.once⟩, ?_, by omega⟩
  refine List.eq_nil_iff_forall_not_mem.mpr fun i hi ↦ ?_
  have hmem := h.frames i hi
  rw [hout] at hmem
  cases hmem

theorem Accounts.dqbuf (h : Accounts s) {o : DequeueOutcome} (hpassed : s.dequeue = .passed)
    (ho : s.v4l2.subDevice = false → RegularDqbuf s.v4l2 o)
    (hstep : s.step (.dqbuf o) = some t) : Accounts t := by
  have hbalance := h.balance
  have hroom := h.room (by rw [hpassed]; trivial)
  rw [hpassed, uncounted] at hbalance
  simp only [State.step, if_pos hpassed] at hstep
  unfold V4l2.dequeueBuffer at hstep
  cases hsub : s.v4l2.subDevice with
  | true =>
    -- with room for one more, the only buffer is not out
    have hsingle := h.single hsub
    have hout : s.v4l2.driver.out = ∅ := Finset.card_eq_zero.mp (by omega)
    have haccepts : s.v4l2.Accepts ⟨0, 0⟩ :=
      ⟨(show 0 < s.v4l2.bufferCount by omega), Nat.zero_le _⟩
    simp only [hsub, if_true, if_pos haccepts, Option.some.injEq] at hstep
    subst hstep
    have hcard : (s.v4l2.driver.dqbuf 0).out.card = s.v4l2.driver.out.card + 1 := by
      simp only [Driver.dqbuf, hout]
      rfl
    refine ⟨h.sound.dqbuf 0, ?_, h.le, fun _ ↦ hroom, h.nodup, ?_, ?_, fun _ ↦ hsingle⟩
    · show (s.v4l2.driver.dqbuf 0).out.card + s.returning = s.v4l2.numDequeued + 1
      omega
    · intro i hi
      exact Finset.mem_insert_of_mem (h.frames i hi)
    · intro i hi
      cases hi
      refine ⟨Finset.mem_insert_self _ _, fun hmem ↦ ?_⟩
      have hout' := h.frames 0 hmem
      rw [hout] at hout'
      cases hout'
  | false =>
    simp only [hsub, Bool.false_eq_true, if_false] at hstep
    rcases takeBuffer_cases (ho hsub) h.sound with ⟨d, htake, hd, hout⟩ |
      ⟨b, d, htake, hd, hout, hb, haccepts⟩
    · simp only [htake, Option.some.injEq] at hstep
      subst hstep
      refine ⟨hd, ?_, h.le, fun ht ↦ ht.elim, h.nodup, ?_, fun i hi ↦ (by cases hi), h.single⟩
      · show d.out.card + s.returning = s.v4l2.numDequeued + 0
        rw [hout]
        exact hbalance
      · intro i hi
        show i ∈ d.out
        rw [hout]
        exact h.frames i hi
    · have haccepts' : V4l2.Accepts { s.v4l2 with driver := d } b := haccepts
      simp only [htake, if_pos haccepts', Option.some.injEq] at hstep
      subst hstep
      have hcard : d.out.card = s.v4l2.driver.out.card + 1 := by
        rw [hout, Finset.card_insert_of_notMem hb]
      refine ⟨hd, ?_, h.le, fun _ ↦ hroom, h.nodup, ?_, ?_, h.single⟩
      · show d.out.card + s.returning = s.v4l2.numDequeued + 1
        omega
      · intro i hi
        show i ∈ d.out
        rw [hout]
        exact Finset.mem_insert_of_mem (h.frames i hi)
      · intro i hi
        cases hi
        refine ⟨?_, fun hmem ↦ hb (h.frames _ hmem)⟩
        show b.index ∈ d.out
        rw [hout]
        exact Finset.mem_insert_self _ _

theorem Accounts.enqueue (h : Accounts s) {index : ℕ} (qbuf : Bool) (hmem : index ∈ s.frames) :
    Accounts (s.enqueueV4l2Frame index qbuf) := by
  have hout := h.frames index hmem
  have hcard := Finset.card_erase_add_one hout
  have hbalance := h.balance
  have hnodup : (s.frames.erase index).Nodup := h.nodup.erase index
  have hrest : ∀ i ∈ s.frames.erase index, i ∈ s.v4l2.driver.out.erase index := by
    intro i hi
    obtain ⟨hne, hi⟩ := (h.nodup.mem_erase_iff).mp hi
    exact Finset.mem_erase.mpr ⟨hne, h.frames i hi⟩
  have htaken : ∀ i, s.dequeue = .taken i →
      i ∈ s.v4l2.driver.out.erase index ∧ i ∉ s.frames.erase index := by
    intro i hi
    obtain ⟨hi, hni⟩ := h.taken i hi
    have hne : i ≠ index := fun heq ↦ hni (heq ▸ hmem)
    exact ⟨Finset.mem_erase.mpr ⟨hne, hi⟩, fun hi' ↦ hni (List.mem_of_mem_erase hi')⟩
  have hbalance' : (s.v4l2.driver.out.erase index).card + (s.returning + 1) =
      s.v4l2.numDequeued + uncounted s.dequeue := by omega
  unfold State.enqueueV4l2Frame
  dsimp only
  split
  · refine ⟨⟨?_, h.sound.once⟩, hbalance', h.le, h.room, hnodup, hrest, htaken, h.single⟩
    intro j hj hj'
    exact h.sound.disjoint j hj (Finset.mem_of_mem_erase hj')
  · split
    · refine ⟨h.sound, hbalance, h.le, h.room, hnodup, ?_, ?_, h.single⟩
      · exact fun i hi ↦ Finset.mem_of_mem_erase (hrest i hi)
      · exact fun i hi ↦ ⟨Finset.mem_of_mem_erase (htaken i hi).1, (htaken i hi).2⟩
    · have hqueued : index ∉ s.v4l2.driver.queued := fun hq ↦ h.sound.disjoint index hq hout
      exact ⟨h.sound.qbuf hqueued, hbalance', h.le, h.room, hnodup, hrest, htaken, h.single⟩

theorem Accounts.returned (h : Accounts s) (hpos : 0 < s.returning) :
    decrement s.v4l2.numDequeued + 1 = s.v4l2.numDequeued := by
  have hbalance := h.balance
  have huncounted : uncounted s.dequeue ≤ s.v4l2.driver.out.card := by
    cases hpc : s.dequeue with
    | taken i => exact Finset.card_pos.mpr ⟨i, (h.taken i hpc).1⟩
    | idle => exact Nat.zero_le _
    | waiting => exact Nat.zero_le _
    | passed => exact Nat.zero_le _
  have hnum : s.v4l2.numDequeued ≠ 0 := by omega
  rw [decrement, if_neg hnum]
  omega

theorem Accounts.streamOff (h : Accounts s) (hidle : s.dequeue = .idle) (o : StreamOffOutcome) :
    Accounts { s with v4l2 := (s.v4l2.v4l2StreamOffLocked o).2 } := by
  rcases streamOff_cases s.v4l2 o with ⟨heq, -⟩ | ⟨hnum, hnum', hcount, -, hout, hsound⟩
  · rw [heq]
    exact h
  · have hbalance := h.balance
    rw [hidle, hnum] at hbalance
    refine ⟨hsound h.sound, ?_, ?_, ?_, h.nodup, ?_, ?_, ?_⟩
    · show (s.v4l2.v4l2StreamOffLocked o).2.driver.out.card + s.returning =
        (s.v4l2.v4l2StreamOffLocked o).2.numDequeued + uncounted s.dequeue
      rw [hout, hnum', hidle]
      exact hbalance
    · exact hnum'.le.trans (Nat.zero_le _)
    · intro ht
      rw [hidle] at ht
      exact ht.elim
    · intro i hi
      show i ∈ (s.v4l2.v4l2StreamOffLocked o).2.driver.out
      rw [hout]
      exact h.frames i hi
    · intro i hi
      rw [hidle] at hi
      cases hi
    · exact fun _ ↦ hcount.le.trans (Nat.zero_le _)

theorem accounts_of_atRest {v : V4l2} (h : AtRest v) (hidle : s.dequeue = .idle)
    (hframes : s.frames = []) (hreturning : s.returning = 0) : Accounts { s with v4l2 := v } := by
  refine ⟨h.driver.sound, ?_, ?_, ?_, ?_, ?_, ?_, ?_⟩
  · show v.driver.out.card + s.returning = v.numDequeued + uncounted s.dequeue
    rw [h.driver.out, hreturning, h.numDequeued, hidle]
    rfl
  · exact h.numDequeued.le.trans (Nat.zero_le _)
  · intro ht
    rw [hidle] at ht
    exact ht.elim
  · show s.frames.Nodup
    rw [hframes]
    exact List.nodup_nil
  · intro i hi
    rw [hframes] at hi
    cases hi
  · intro i hi
    rw [hidle] at hi
    cases hi
  · intro hsub
    rw [h.subDevice] at hsub
    cases hsub

theorem configure_error {v : V4l2} {fmt : SupportedV4L2Format} {requestFps : ℚ}
    {o : ConfigureOutcome} {e : V4l2Error} (he : (v.v4l2StreamOffLocked o.streamOff).1 = .error e) :
    (v.configureV4l2StreamLocked fmt requestFps o).2.2 = (v.v4l2StreamOffLocked o.streamOff).2 := by
  unfold V4l2.configureV4l2StreamLocked
  cases hv : v.v4l2StreamOffLocked o.streamOff with
  | mk r w =>
    rw [hv] at he
    cases he
    rfl

theorem Accounts.configure_subDevice (h : Accounts s) (hidle : s.dequeue = .idle)
    (hsub : s.v4l2.subDevice = true) (fmt : SupportedV4L2Format) (requestFps : ℚ)
    (o : ConfigureOutcome) :
    Accounts { s with v4l2 := (s.v4l2.configureV4l2StreamLocked fmt requestFps o).2.2 } := by
  have hoff := h.streamOff hidle o.streamOff
  have hsub' : (s.v4l2.v4l2StreamOffLocked o.streamOff).2.subDevice = true := by
    rcases streamOff_cases s.v4l2 o.streamOff with ⟨heq, -⟩ | ⟨-, -, -, hsub', -, -⟩
    · rw [heq, hsub]
    · rw [hsub', hsub]
  unfold V4l2.configureV4l2StreamLocked
  cases hv : s.v4l2.v4l2StreamOffLocked o.streamOff with
  | mk r w =>
    rw [hv] at hoff hsub'
    cases r with
    | error e => exact hoff
    | ok =>
      have hw : w.subDevice = true := hsub'
      have hle : w.numDequeued ≤ 1 := hoff.le.trans (hoff.single hw)
      dsimp only
      rw [if_pos hw]
      refine ⟨hoff.sound, hoff.balance, hle, ?_, hoff.nodup, hoff.frames, hoff.taken, fun _ ↦ le_rfl⟩
      intro ht
      rw [hidle] at ht
      exact ht.elim

theorem Accounts.configure (h : Accounts s) (hidle : s.dequeue = .idle)
    (fmt : SupportedV4L2Format) (requestFps : ℚ) {o : ConfigureOutcome}
    (ho : s.v4l2.subDevice = false → (s.v4l2.streaming = true ∨ s.v4l2.numDequeued = 0) ∧
      ∀ k, (o.warmupDqbuf k).isSome → o.warmupQbuf k) :
    Accounts { s with v4l2 := (s.v4l2.configureV4l2StreamLocked fmt requestFps o).2.2 } := by
  cases hsub : s.v4l2.subDevice with
  | true => exact h.configure_subDevice hidle hsub fmt requestFps o
  | false =>
    obtain ⟨hstopped, hwarmup⟩ := ho hsub
    by_cases hnum : s.v4l2.numDequeued = 0
    · obtain ⟨hsettled, hframes, hreturning⟩ := h.settled hidle hnum
      have hrest : AtRest s.v4l2 := ⟨hsettled, hnum, hsub⟩
      exact accounts_of_atRest (hrest.configure fmt requestFps hwarmup) hidle hframes hreturning
    · -- the stream is not stopped while frames are counted
      rcases streamOff_cases s.v4l2 o.streamOff with ⟨heq, hoff | ⟨e, he⟩⟩ | ⟨hzero, -⟩
      · rcases hstopped with hstreaming | hzero
        · rw [hoff] at hstreaming
          cases hstreaming
        · exact absurd hzero hnum
      · rw [configure_error he, heq]
        exact h
      · exact absurd hzero hnum

theorem Accounts.move (h : Accounts s) (d : Dequeue) (hs : uncounted s.dequeue = 0)
    (hd : uncounted d = 0) (hroom : tested d → s.v4l2.numDequeued < s.v4l2.bufferCount) :
    Accounts { s with dequeue := d } := by
  have hbalance := h.balance
  rw [hs, ← hd] at hbalance
  refine ⟨h.sound, hbalance, h.le, hroom, h.nodup, h.frames, ?_, h.single⟩
  intro i hi
  have hi' : d = .taken i := hi
  rw [hi', uncounted] at hd
  cases hd

theorem Accounts.count (h : Accounts s) {index : ℕ} (htaken : s.dequeue = .taken index) :
    Accounts { s with
      v4l2 := { s.v4l2 with numDequeued := s.v4l2.numDequeued + 1 }
      dequeue := .idle
      frames := index :: s.frames } := by
  have hbalance := h.balance
  have hroom := h.room (by rw [htaken]; trivial)
  obtain ⟨hout, hfresh⟩ := h.taken index htaken
  rw [htaken, uncounted] at hbalance
  refine ⟨h.sound, hbalance, hroom, fun ht ↦ ht.elim, List.nodup_cons.mpr ⟨hfresh, h.nodup⟩, ?_,
    fun i hi ↦ (by cases hi), h.single⟩
  exact List.forall_mem_cons.mpr ⟨hout, h.frames⟩

theorem Accounts.decrement (h : Accounts s) (hpos : 0 < s.returning) :
    Accounts { s with
      v4l2 := { s.v4l2 with numDequeued := Capture.decrement s.v4l2.numDequeued }
      returning := s.returning - 1 } := by
  have hbalance := h.balance
  have hle := h.le
  have hnum := h.returned hpos
  refine ⟨h.sound, ?_, ?_, ?_, h.nodup, h.frames, h.taken, h.single⟩
  · show s.v4l2.driver.out.card + (s.returning - 1) =
      Capture.decrement s.v4l2.numDequeued + uncounted s.dequeue
    omega
  · show Capture.decrement s.v4l2.numDequeued ≤ s.v4l2.bufferCount
    omega
  · intro ht
    have hroom := h.room ht
    show Capture.decrement s.v4l2.numDequeued < s.v4l2.bufferCount
    omega

theorem step_accounts {l : Label} (h : Accounts s) (hstep : s.step l = some t)
    (hok : Regular s l) : Accounts t := by
  cases l with
  | dequeueV4l2FrameLocked =>
    simp only [State.step] at hstep
    split at hstep
    · rename_i hidle
      have hnone : uncounted s.dequeue = 0 := by rw [hidle, uncounted]
      split at hstep
      · cases hstep
        exact h.move .waiting hnone rfl fun ht ↦ ht.elim
      · rename_i hne
        cases hstep
        exact h.move .passed hnone rfl fun _ ↦ Nat.lt_of_le_of_ne h.le hne
    · cases hstep
  | timeout =>
    simp only [State.step] at hstep
    split at hstep
    · rename_i hwaiting
      cases hstep
      exact h.move .idle (by rw [hwaiting, uncounted]) rfl fun ht ↦ ht.elim
    · cases hstep
  | woken =>
    simp only [State.step] at hstep
    split at hstep
    · rename_i hwaiting
      cases hstep
      exact h.move .passed (by rw [hwaiting, uncounted]) rfl fun _ ↦ hok
    · cases hstep
  | dqbuf o =>
    by_cases hpassed : s.dequeue = .passed
    · exact h.dqbuf hpassed hok hstep
    · simp only [State.step, if_neg hpassed] at hstep
      cases hstep
  | count =>
    simp only [State.step] at hstep
    split at hstep
    · rename_i index htaken
      cases hstep
      exact h.count htaken
    · cases hstep
  | enqueueV4l2Frame index qbuf =>
    simp only [State.step] at hstep
    split at hstep
    · rename_i hmem
      cases hstep
      exact h.enqueue qbuf hmem
    · cases hstep
  | returned =>
    simp only [State.step] at hstep
    split at hstep
    · rename_i hpos
      cases hstep
      exact h.decrement hpos
    · cases hstep
  | configureV4l2StreamLocked fmt requestFps o =>
    simp only [State.step] at hstep
    split at hstep
    · rename_i hidle
      cases hstep
      exact h.configure hidle fmt requestFps hok
    · cases hstep
  | v4l2StreamOffLocked o =>
    simp only [State.step] at hstep
    split at hstep
    · rename_i hidle
      cases hstep
      exact h.streamOff hidle o
    · cases hstep

theorem create_accounts (subDevice mainDevice : Bool) (numVideoBuffers numStillBuffers : ℕ) :
    Accounts (.create subDevice mainDevice numVideoBuffers numStillBuffers) where
  sound := ⟨fun i hi ↦ (by cases hi), rfl⟩
  balance := rfl
  le := le_rfl
  room := fun ht ↦ ht.elim
  nodup := List.nodup_nil
  frames := fun i hi ↦ (by cases hi)
  taken := fun i hi ↦ (by cases hi)
  single := fun _ ↦ Nat.zero_le _

/-- Over every run of regular steps the counter is the number of buffers that are
out, but for calls that are between a call to the driver and the counter. -/
theorem v4l2_accounting {subDevice mainDevice : Bool} {numVideoBuffers numStillBuffers : ℕ}
    {as : List Label} (h : Run (restrict (ofPartial State.step) Regular)
      (.create subDevice mainDevice numVideoBuffers numStillBuffers) as s) :
    s.v4l2.driver.out.card + s.returning = s.v4l2.numDequeued + uncounted s.dequeue ∧
      (s.returning = 0 → (∀ i, s.dequeue ≠ .taken i) →
        s.v4l2.driver.out.card = s.v4l2.numDequeued) ∧
      s.v4l2.numDequeued ≤ s.v4l2.bufferCount ∧ s.v4l2.driver.twice = false := by
  have hs := h.invariant (P := Accounts) (fun _ _ _ hstep hs ↦ step_accounts hs hstep.1 hstep.2)
    (create_accounts subDevice mainDevice numVideoBuffers numStillBuffers)
  have hbalance := hs.balance
  refine ⟨hbalance, ?_, hs.le, hs.sound.once⟩
  intro hreturning htaken
  cases hpc : s.dequeue with
  | taken i => exact absurd hpc (htaken i)
  | idle => rwa [hreturning, hpc] at hbalance
  | waiting => rwa [hreturning, hpc] at hbalance
  | passed => rwa [hreturning, hpc] at hbalance

def smoothConfigure : ConfigureOutcome where
  streamOff := ⟨true, true⟩
  sFmt := true
  width := 8
  height := 8
  sizeimage := 100
  reqbufs := some 1
  querybuf := fun _ ↦ true
  qbuf := fun _ ↦ true
  streamOn := true
  warmupDqbuf := fun _ ↦ some 0
  warmupQbuf := fun _ ↦ true

def configured : State :=
  { State.create false false 1 1 with
    v4l2 := ((State.create false false 1 1).v4l2.configureV4l2StreamLocked ⟨8, 8, 0, []⟩ 30
      smoothConfigure).2.2 }

theorem configured_run :
    Run (restrict (ofPartial State.step) Regular) (.create false false 1 1)
      [.configureV4l2StreamLocked ⟨8, 8, 0, []⟩ 30 smoothConfigure] configured :=
  .one ⟨rfl, fun _ ↦ ⟨.inr rfl, fun _ _ ↦ rfl⟩⟩

def dequeued : State :=
  { configured with
    v4l2 := { configured.v4l2 with numDequeued := 1, driver := configured.v4l2.driver.dqbuf 0 }
    frames := [0] }

theorem dequeued_run :
    Run (restrict (ofPartial State.step) Regular) configured
      [.dequeueV4l2FrameLocked, .dqbuf ⟨some ⟨0, 50⟩, false, none⟩, .count] dequeued := by
  refine .cons ⟨rfl, trivial⟩ (.cons ⟨rfl, ?_⟩ (.one ⟨rfl, trivial⟩))
  intro _ b hb
  cases hb
  exact ⟨by decide, by decide, by decide⟩

theorem v4l2_accounting_dequeued :
    dequeued.v4l2.driver.out.card + dequeued.returning =
        dequeued.v4l2.numDequeued + uncounted dequeued.dequeue ∧
      (dequeued.returning = 0 → (∀ i, dequeued.dequeue ≠ .taken i) →
        dequeued.v4l2.driver.out.card = dequeued.v4l2.numDequeued) ∧
      dequeued.v4l2.numDequeued ≤ dequeued.v4l2.bufferCount ∧
      dequeued.v4l2.driver.twice = false :=
  v4l2_accounting (configured_run.trans dequeued_run)

/-- A frame larger than announced is dropped without being put back. -/
theorem oversized_frame_lost :
    ∃ as s, Run (ofPartial State.step) (.create false false 1 1) as s ∧ s.dequeue = .idle ∧
      s.returning = 0 ∧ s.v4l2.driver.out.card = 1 ∧ s.v4l2.numDequeued = 0 := by
  let lost : List Label := [.dequeueV4l2FrameLocked, .dqbuf ⟨some ⟨0, 200⟩, false, none⟩]
  have hlost : exec State.step configured lost = some { configured with
      v4l2 := { configured.v4l2 with driver := configured.v4l2.driver.dqbuf 0 } } := by
    rfl
  exact ⟨_, _, configured_run.of_restrict.trans ((run_iff_exec _ _ _ _).mpr hlost), rfl, rfl,
    by decide, by decide⟩

end VirtualCamera.Session.Accounting
