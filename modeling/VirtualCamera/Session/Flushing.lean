import VirtualCamera.Session.Conservation

namespace VirtualCamera.Session.Flushing

open Library Library.Transition Library.Custody Streams Request Pipeline Holding Conservation

variable {F : Type}

/-! ### Where the requests are -/

def outputRequests : OutputThread → List ℕ
  | .processing req => [req.id]
  | .performing ending _ => [ending.request.id]
  | .waiting | .looping | .exited => []

def formatRequests : FormatThread → List ℕ
  | .converting req => [req.id]
  | .waiting | .looping | .exited => []

def converting (s : State) : List ℕ :=
  s.formatQueue.map HalRequest.id ++ formatRequests s.format

def Ended (s : State) (id : ℕ) : Prop := ∃ e, (id, e) ∈ s.ended

def Marked (s : State) : Prop := outputRequests s.output ≠ [] → s.processingRequest = true

theorem marked_output {s s' : State} {l : Label F} (h : s.stepOutput l = some s')
    (hm : Marked s) : Marked s' := by
  cases l <;> simp only [State.stepOutput, reduceCtorEq] at h
  case outputTake =>
    split at h <;> cases h
    exact fun _ ↦ rfl
  case outputProcess o =>
    split at h
    · rename_i req ho
      cases h
      exact fun _ ↦ hm (by rw [ho]; exact List.cons_ne_nil _ _)
    · cases h
  case outputPerform lockObtained =>
    split at h
    · rename_i ending e todo ho
      cases h
      exact fun _ ↦ hm (by rw [ho]; exact List.cons_ne_nil _ _)
    · cases h
  case outputDone =>
    split at h
    · split at h <;> cases h <;> exact fun hne ↦ (hne rfl).elim
    · cases h
  case outputIdle =>
    split at h <;> cases h
    exact fun hne ↦ (hne rfl).elim
  case outputLoop =>
    split at h <;> cases h
    intro hne
    by_cases he : s.outputExit <;> simp [he, outputRequests] at hne

theorem marked {device : DeviceSession} {s : State}
    (h : Reachable (ofPartial (State.step (F := F))) (State.create device) s) : Marked s := by
  have hstep (s : State) (l : Label F) (s' : State) (hs : ofPartial State.step s l s')
      (hm : Marked s) : Marked s' := by
    unfold ofPartial State.step at hs
    split at hs
    · have hf := call_frame hs
      rw [Marked, hf.output, hf.processingRequest]
      exact hm
    · have hf := format_frame hs
      rw [Marked, hf.output, hf.processingRequest]
      exact hm
    · exact marked_output hs hm
  exact h.invariant (P := Marked) hstep fun hne ↦ (hne rfl).elim

/-! ### What the other threads do during a flush -/

/-- A request of the output thread stays there until it has ended. -/
structure Advances (s s' : State) : Prop where
  ended : ∀ id, Ended s id → Ended s' id
  output : ∀ id ∈ outputRequests s.output, id ∈ outputRequests s'.output ∨ Ended s' id

theorem ended_of_subset {s s' : State} (h : s.ended ⊆ s'.ended) (id : ℕ) (he : Ended s id) :
    Ended s' id := by
  obtain ⟨e, he⟩ := he
  exact ⟨e, h he⟩

theorem ended_finish (s : State) (ending : Ending) : Ended (s.finish ending) ending.request.id :=
  ⟨ending, List.mem_append_right _ (List.mem_singleton.mpr rfl)⟩

theorem advances_of_frame {s s' : State} (ho : s'.output = s.output) (he : s.ended ⊆ s'.ended) :
    Advances s s' := by
  refine ⟨ended_of_subset he, fun id hid ↦ .inl ?_⟩
  rw [ho]
  exact hid

theorem advances_output {s s' : State} {l : Label F} (h : s.stepOutput l = some s') :
    Advances s s' ∧
      (s'.call = s.call ∨ s'.call = s.call.signal ∧ outputRequests s'.output = []) := by
  cases l <;> simp only [State.stepOutput, reduceCtorEq] at h
  case outputTake =>
    split at h
    · rename_i req reqs ho hq
      cases h
      refine ⟨⟨fun id he ↦ he, fun id hid ↦ ?_⟩, .inl rfl⟩
      rw [ho] at hid
      exact absurd hid List.not_mem_nil
    · cases h
  case outputProcess o =>
    split at h
    · rename_i req ho
      cases h
      refine ⟨⟨fun id he ↦ he, fun id hid ↦ .inl ?_⟩, .inl rfl⟩
      rw [ho] at hid
      simpa only [outputRequests, (processRequest_same req o).id] using hid
    · cases h
  case outputPerform lockObtained =>
    split at h
    · rename_i ending e todo ho
      cases h
      refine ⟨⟨fun id he ↦ he, fun id hid ↦ .inl ?_⟩, .inl rfl⟩
      rw [ho] at hid
      exact hid
    · cases h
  case outputDone =>
    split at h
    · rename_i ending ho
      have hadv (s' : State) (he : s'.ended = (s.finish ending).ended) : Advances s s' := by
        constructor
        · exact ended_of_subset (he ▸ List.subset_append_left _ _)
        · intro id hid
          rw [ho] at hid
          rw [List.mem_singleton.mp hid]
          obtain ⟨e, hm⟩ := ended_finish s ending
          exact .inr ⟨e, he ▸ hm⟩
      split at h <;> cases h
      · exact ⟨hadv _ rfl, .inl rfl⟩
      · exact ⟨hadv _ rfl, .inr ⟨rfl, rfl⟩⟩
      · exact ⟨hadv _ rfl, .inr ⟨rfl, rfl⟩⟩
    · cases h
  case outputIdle =>
    split at h
    · rename_i ho
      cases h
      refine ⟨⟨fun id he ↦ he, fun id hid ↦ ?_⟩, .inl rfl⟩
      rw [ho.1] at hid
      exact absurd hid List.not_mem_nil
    · cases h
  case outputLoop =>
    split at h
    · rename_i ho
      cases h
      refine ⟨⟨fun id he ↦ he, fun id hid ↦ ?_⟩, .inl rfl⟩
      rw [ho] at hid
      exact absurd hid List.not_mem_nil
    · cases h

/-! ### What a flush has in its hands -/

/-- Of the wanted requests, those that have not ended are in the flush's hands, or are
still worked on by the output thread. -/
def Accounted (wanted : ℕ → Prop) (working : List ℕ) (s : State) (taken : List ℕ)
    (stillWorking : Prop) : Prop :=
  ∀ id, wanted id → Ended s id ∨ id ∈ taken ∨
    (stillWorking ∧ id ∈ working ∧ id ∈ outputRequests s.output)

/-- In the wait the output thread may be at work until the signal, and afterwards only
if the wait has timed out. -/
def Covered (wanted : ℕ → Prop) (working : List ℕ) (timedOut : Prop) (s : State) :
    FlushPhase → Prop
  | .entered => False
  | .waiting reqs signalled =>
    Accounted wanted working s (reqs.map HalRequest.id) (signalled = false)
  | .returning reqs => Accounted wanted working s (reqs.map HalRequest.id) timedOut
  | .performing ending _ reqs =>
    Accounted wanted working s (ending.request.id :: reqs.map HalRequest.id) timedOut

def Flushes (wanted : ℕ → Prop) (working : List ℕ) (timedOut : Prop) (s : State) : Prop :=
  ∃ f, s.call = .flushing f ∧ Covered wanted working timedOut s f.phase

variable {wanted : ℕ → Prop} {working : List ℕ} {timedOut : Prop}

theorem Accounted.advance {s s' : State} {taken : List ℕ} {p : Prop} (h : Advances s s')
    (ha : Accounted wanted working s taken p) : Accounted wanted working s' taken p := by
  intro id hid
  obtain he | ht | ⟨hp, hw, ho⟩ := ha id hid
  · exact .inl (h.ended id he)
  · exact .inr (.inl ht)
  · obtain ho | he := h.output id ho
    · exact .inr (.inr ⟨hp, hw, ho⟩)
    · exact .inl he

theorem Accounted.imp {s : State} {taken : List ℕ} {p q : Prop} (hpq : p → q)
    (ha : Accounted wanted working s taken p) : Accounted wanted working s taken q := by
  intro id hid
  obtain he | ht | ⟨hp, hw, ho⟩ := ha id hid
  · exact .inl he
  · exact .inr (.inl ht)
  · exact .inr (.inr ⟨hpq hp, hw, ho⟩)

theorem Accounted.of_idle {s : State} {taken : List ℕ} {p q : Prop}
    (ho : outputRequests s.output = []) (ha : Accounted wanted working s taken p) :
    Accounted wanted working s taken q := by
  intro id hid
  obtain he | ht | ⟨-, -, hm⟩ := ha id hid
  · exact .inl he
  · exact .inr (.inl ht)
  · rw [ho] at hm
    exact absurd hm List.not_mem_nil

theorem Covered.advance {s s' : State} {phase : FlushPhase} (h : Advances s s')
    (hc : Covered wanted working timedOut s phase) : Covered wanted working timedOut s' phase := by
  cases phase with
  | entered => exact hc
  | waiting reqs signalled => exact Accounted.advance h hc
  | returning reqs => exact Accounted.advance h hc
  | performing ending todo reqs => exact Accounted.advance h hc

theorem flushes_flush {s s' : State} {f : Flush} {l : Label F}
    (h : s.stepFlush f l = some s') (hret : l ≠ .flushReturn) (hto : l = .flushTimeout → timedOut)
    (hc : Covered wanted working timedOut s f.phase) : Flushes wanted working timedOut s' := by
  have hf := flush_frame h
  have hadv := advances_of_frame hf.output hf.ended
  cases l <;> simp only [State.stepFlush, reduceCtorEq] at h
  case flushTake =>
    split at h
    · rename_i hp
      rw [hp] at hc
      exact hc.elim
    · cases h
  case flushSignalled =>
    split at h
    · rename_i reqs hp
      rw [hp] at hc
      cases h
      exact ⟨_, rfl, (Accounted.advance hadv hc).imp fun hw ↦ by cases hw⟩
    · cases h
  case flushTimeout =>
    split at h
    · rename_i reqs signalled hp
      rw [hp] at hc
      cases h
      exact ⟨_, rfl, (Accounted.advance hadv hc).imp fun _ ↦ hto rfl⟩
    · cases h
  case flushNext =>
    split at h
    · rename_i req reqs hp
      rw [hp] at hc
      cases h
      exact ⟨_, rfl, Accounted.advance hadv hc⟩
    · cases h
  case flushPerform lockObtained =>
    split at h
    · rename_i ending e todo reqs hp
      rw [hp] at hc
      cases h
      exact ⟨_, rfl, Accounted.advance hadv hc⟩
    · cases h
  case flushDone =>
    split at h
    · rename_i ending reqs hp
      rw [hp] at hc
      cases h
      refine ⟨_, rfl, fun id hid ↦ ?_⟩
      obtain he | ht | ho := Accounted.advance hadv hc id hid
      · exact .inl he
      · obtain rfl | ht := List.mem_cons.mp ht
        · exact .inl (ended_finish s ending)
        · exact .inr (.inl ht)
      · exact .inr (.inr ho)
    · cases h
  case flushReturn => exact (hret rfl).elim

theorem flushes_step {s s' : State} {l : Label F} (h : s.step l = some s')
    (hret : l ≠ .flushReturn) (hto : l = .flushTimeout → timedOut)
    (hf : Flushes wanted working timedOut s) : Flushes wanted working timedOut s' := by
  obtain ⟨f, hcall, hc⟩ := hf
  unfold State.step at h
  split at h
  · unfold State.stepCall at h
    rw [hcall] at h
    exact flushes_flush h hret hto hc
  · have hf := format_frame h
    exact ⟨f, hf.call.trans hcall, hc.advance (advances_of_frame hf.output hf.ended)⟩
  · obtain ⟨hadv, hsame | ⟨hsig, ho⟩⟩ := advances_output h
    · exact ⟨f, hsame.trans hcall, hc.advance hadv⟩
    · rw [hcall, Call.signal] at hsig
      cases hp : f.phase with
      | waiting reqs signalled =>
        rw [hp] at hsig hc
        exact ⟨_, hsig, (Accounted.advance hadv hc).of_idle ho⟩
      | entered =>
        rw [hp] at hc
        exact hc.elim
      | returning reqs =>
        rw [hp] at hsig
        exact ⟨f, hsig, hc.advance hadv⟩
      | performing ending todo reqs =>
        rw [hp] at hsig
        exact ⟨f, hsig, hc.advance hadv⟩

/-! ### From the inspection to the return -/

theorem map_id_waitAll (reqs : List HalRequest) :
    (waitAll reqs).map Entry.id = (reqs.map HalRequest.id : List ℕ) := by
  rw [waitAll, Multiset.map_coe, List.map_map]
  rfl

theorem map_id_formatHeld (format : FormatThread) :
    (formatHeld format).map Entry.id = (formatRequests format : List ℕ) := by
  cases format <;> rfl

theorem map_id_outputHeld (output : OutputThread) :
    (outputHeld output).map Entry.id = (outputRequests output : List ℕ) := by
  cases output <;> rfl

theorem count_held (s : State) (id : ℕ) :
    ((held s).map Entry.id).count id = ((callHeld s.call).map Entry.id).count id +
      (converting s).count id + (s.outputQueue.map HalRequest.id).count id +
      (outputRequests s.output).count id := by
  simp only [held, converting, Multiset.map_add, Multiset.count_add, map_id_waitAll,
    map_id_formatHeld, map_id_outputHeld, Multiset.coe_count, List.count_append]
  omega

theorem ended_iff_mem (s : State) (id : ℕ) : Ended s id ↔ id ∈ s.ended.map Prod.fst := by
  constructor
  · intro h
    obtain ⟨e, he⟩ := h
    exact List.mem_map.mpr ⟨_, he, rfl⟩
  · intro hm
    obtain ⟨⟨id', e⟩, he, rfl⟩ := List.mem_map.mp hm
    exact ⟨e, he⟩

theorem not_waiting {s : State} (hl : protocol.Invariant (ledger s)) {id : ℕ}
    (hid : id < s.accepted.length) (hdone : Ended s id ∨ id ∈ outputRequests s.output) :
    id ∉ converting s ∧ id ∉ s.outputQueue.map HalRequest.id := by
  have hone : ((held s).map Entry.id).count id + (s.ended.map Prod.fst).count id = 1 :=
    count_owner hl hid
  rw [count_held] at hone
  have hpos : 0 < (s.ended.map Prod.fst).count id + (outputRequests s.output).count id := by
    obtain he | ho := hdone
    · exact Nat.add_pos_left (List.count_pos_iff.mpr ((ended_iff_mem s id).mp he)) _
    · exact Nat.add_pos_right _ (List.count_pos_iff.mpr ho)
  constructor
  · apply List.count_eq_zero.mp
    omega
  · apply List.count_eq_zero.mp
    omega

/-- When the list is taken, every accepted request that has come to the output thread
has ended, is in the list, or is being processed. -/
theorem ended_or_output {s : State} {f : Flush} (hl : protocol.Invariant (ledger s))
    (hcall : s.call = .flushing f) (hp : f.phase = .entered) {id : ℕ}
    (hid : id < s.accepted.length) (hconv : id ∉ converting s) :
    Ended s id ∨ id ∈ s.outputQueue.map HalRequest.id ∨ id ∈ outputRequests s.output := by
  have hone : ((held s).map Entry.id).count id + (s.ended.map Prod.fst).count id = 1 :=
    count_owner hl hid
  have hnone : callHeld s.call = 0 := by rw [hcall, callHeld, hp, phaseHeld]
  rw [count_held, hnone, List.count_eq_zero.mpr hconv, Multiset.map_zero,
    Multiset.count_zero] at hone
  by_contra hno
  push Not at hno
  obtain ⟨he, hq, ho⟩ := hno
  rw [ended_iff_mem] at he
  rw [List.count_eq_zero.mpr hq, List.count_eq_zero.mpr ho, List.count_eq_zero.mpr he] at hone
  omega

theorem flushes_take {device : DeviceSession} {s s' : State}
    (h : Reachable (ofPartial (State.step (F := F))) (State.create device) s)
    (htake : s.step (.flushTake : Label F) = some s') :
    Flushes (fun id ↦ id < s.accepted.length ∧ id ∉ converting s) (outputRequests s.output)
      timedOut s' := by
  simp only [State.step, Label.party] at htake
  unfold State.stepCall at htake
  split at htake
  case h_3 f hcall =>
    simp only [State.stepFlush] at htake
    split at htake
    · rename_i hp
      cases htake
      refine ⟨_, rfl, ?_⟩
      by_cases hr : s.processingRequest = true
      · simp only [hr, if_true]
        intro id hid
        obtain he | ht | ho := ended_or_output (ledger_invariant h) hcall hp hid.1 hid.2
        · exact .inl he
        · exact .inr (.inl ht)
        · exact .inr (.inr ⟨rfl, ho, ho⟩)
      · have ho : outputRequests s.output = [] := by
          by_contra hne
          exact hr (marked h hne)
        simp only [hr, Bool.false_eq_true, if_false]
        intro id hid
        obtain he | ht | hm := ended_or_output (ledger_invariant h) hcall hp hid.1 hid.2
        · exact .inl he
        · exact .inr (.inl ht)
        · rw [ho] at hm
          exact absurd hm List.not_mem_nil
    · cases htake
  all_goals simp only [reduceCtorEq] at htake

theorem flushes_run {s t : State} {as : List (Label F)}
    (hrun : Run (ofPartial State.step) s as t) (hret : .flushReturn ∉ as)
    (hf : Flushes wanted working (.flushTimeout ∈ as) s) :
    Flushes wanted working (.flushTimeout ∈ as) t := by
  have hstep (s : State) (l : Label F) (s' : State)
      (h : restrict (ofPartial State.step) (fun _ l ↦ l ∈ as) s l s')
      (hf : Flushes wanted working (.flushTimeout ∈ as) s) :
      Flushes wanted working (.flushTimeout ∈ as) s' := by
    obtain ⟨hs, hl⟩ := h
    refine flushes_step hs ?_ ?_ hf
    · rintro rfl
      exact hret hl
    · rintro rfl
      exact hl
  exact hrun.restrict_mem.invariant (P := Flushes wanted working (.flushTimeout ∈ as)) hstep hf

/-- At the return nothing is left in the flush's hands. -/
theorem flushes_return {t u : State} (hreturn : t.step (.flushReturn : Label F) = some u)
    (hf : Flushes wanted working timedOut t) {id : ℕ} (hid : wanted id) :
    Ended u id ∨ (timedOut ∧ id ∈ working ∧ id ∈ outputRequests u.output) := by
  obtain ⟨f, hcall, hc⟩ := hf
  simp only [State.step, Label.party] at hreturn
  unfold State.stepCall at hreturn
  rw [hcall] at hreturn
  simp only [State.stepFlush] at hreturn
  split at hreturn
  · rename_i hp
    rw [hp] at hc
    have hsame : u.ended = t.ended ∧ u.output = t.output := by
      split at hreturn <;> cases hreturn <;> exact ⟨rfl, rfl⟩
    rw [Ended, hsame.1, hsame.2]
    obtain he | ht | ho := hc id hid
    · exact .inl he
    · exact absurd ht List.not_mem_nil
    · exact .inr ho
  · cases hreturn

theorem accepted_run {s t : State} {as : List (Label F)}
    (hrun : Run (ofPartial State.step) s as t) : s.accepted.length ≤ t.accepted.length := by
  have hstep (s' : State) (l : Label F) (t' : State) (h : ofPartial State.step s' l t')
      (hle : s.accepted.length ≤ s'.accepted.length) :
      s.accepted.length ≤ t'.accepted.length := by
    cases step_noted h with
    | nothing _ ha _ => rw [ha]; exact hle
    | accepted req _ ha _ => rw [ha, List.length_append]; omega
    | performed _ _ _ _ ha _ => rw [ha]; exact hle
  exact hrun.invariant (P := fun t ↦ s.accepted.length ≤ t.accepted.length) hstep (le_refl _)

/-- A flush that is called in `s`, takes the list of the output thread in `s'`, and
returns in `u` after the steps `as` of all parties. -/
structure FlushRun (s s' : State) (as : List (Label F)) (u : State) : Prop where
  called : ∃ s₁ before, s.step (.flush : Label F) = some s₁ ∧
    Run (ofPartial (State.step (F := F))) s₁ before s'
  returned : ∃ s₁ t, s'.step (.flushTake : Label F) = some s₁ ∧
    Run (ofPartial State.step) s₁ as t ∧ .flushReturn ∉ as ∧
    t.step (.flushReturn : Label F) = some u

/-- Of the requests accepted before a flush was called, those that had come to the output
thread when its list was taken have ended when the flush returns, with all that their
conclusions ask for; only if the wait has timed out, the one that was being processed may
still be. None of them waits in a queue. -/
theorem flush_completes {device : DeviceSession} {s s' u : State} {as : List (Label F)}
    (h : Reachable (ofPartial (State.step (F := F))) (State.create device) s)
    (hflush : FlushRun s s' as u) {id : ℕ} (hid : id < s.accepted.length)
    (hconv : id ∉ converting s') :
    ((∃ e req, (id, e) ∈ u.ended ∧ u.accepted[id]? = some req ∧
        Concluded req e.conclusion ((ledger u).events id)) ∨
      (.flushTimeout ∈ as ∧ id ∈ outputRequests s'.output ∧ id ∈ outputRequests u.output)) ∧
    id ∉ converting u ∧ id ∉ u.outputQueue.map HalRequest.id := by
  obtain ⟨⟨s₁, before, hcall, hbefore⟩, s₂, t, htake, hrun, hret, hreturn⟩ := hflush
  have hcalled : Run (ofPartial State.step) s (.flush :: before) s' := .cons hcall hbefore
  have hreturned : Run (ofPartial State.step) s' (.flushTake :: as ++ [.flushReturn]) u :=
    .cons htake (hrun.trans (.one hreturn))
  have hreached := h.trans hcalled
  have hinv := ledger_invariant (hreached.trans hreturned)
  have hid' : id < s'.accepted.length := lt_of_lt_of_le hid (accepted_run hcalled)
  have hidu : id < u.accepted.length := lt_of_lt_of_le hid' (accepted_run hreturned)
  have hdone := flushes_return hreturn (flushes_run hrun hret (flushes_take hreached htake))
    ⟨hid', hconv⟩
  have hout : Ended u id ∨ id ∈ outputRequests u.output := hdone.imp_right fun ho ↦ ho.2.2
  refine ⟨?_, not_waiting hinv hidu hout⟩
  obtain ⟨e, he⟩ | ho := hdone
  · obtain ⟨req, hreq, hc⟩ := concluded_of_completed (hinv.completed id e he)
    exact .inl ⟨e, req, he, hreq, hc⟩
  · exact .inr ho

/-! ### Flushing one request -/

/-- From a call of flush, with its list taken at once, to its return. -/
def flush (s : State) (as : List (Label ℚ)) : Option (State × State) :=
  (s.step (.flush : Label ℚ)).bind fun s' ↦
    (s'.step (.flushTake : Label ℚ)).bind fun s₁ ↦
      (exec State.step s₁ as).bind fun t ↦
        (t.step (.flushReturn : Label ℚ)).map fun u ↦ (s', u)

theorem flushRun_of_flush {s s' u : State} {as : List (Label ℚ)} (hret : .flushReturn ∉ as)
    (h : flush s as = some (s', u)) : FlushRun s s' as u := by
  unfold flush at h
  obtain ⟨s₀, hcall, h⟩ := Option.bind_eq_some_iff.mp h
  obtain ⟨s₁, htake, h⟩ := Option.bind_eq_some_iff.mp h
  obtain ⟨t, hrun, h⟩ := Option.bind_eq_some_iff.mp h
  obtain ⟨u', hreturn, h⟩ := Option.map_eq_some_iff.mp h
  rw [Prod.mk.injEq] at h
  obtain ⟨rfl, rfl⟩ := h
  exact ⟨⟨s₀, [], hcall, .nil s₀⟩, s₁, t, htake, (run_iff_exec _ _ _ _).mpr hrun, hret, hreturn⟩

/-- What the run leaves: how many requests were accepted, which had not come to the
output thread, and what has become of them. -/
def outcome (as : List (Label ℚ)) (s : State) :
    ℕ × Option (List ℕ × List (ℕ × Conclusion)) :=
  (s.accepted.length, (flush s as).map fun r ↦
    (converting r.1, r.2.ended.map fun p ↦ (p.1, p.2.conclusion)))

theorem exists_flushRun (before as : List (Label ℚ)) (n : ℕ) (ended : List (ℕ × Conclusion))
    {conv : List ℕ} (hret : .flushReturn ∉ as)
    (h : (exec State.step (State.create previewing) before).map (outcome as) =
      some (n, some (conv, ended))) :
    ∃ s s' u, Reachable (ofPartial (State.step (F := ℚ))) (State.create previewing) s ∧
      FlushRun s s' as u ∧ s.accepted.length = n ∧ converting s' = conv ∧
      u.ended.map (fun p ↦ (p.1, p.2.conclusion)) = ended := by
  obtain ⟨s, hs, ho⟩ := exists_reachable_of_exec before h
  rw [outcome, Prod.mk.injEq] at ho
  obtain ⟨⟨s', u⟩, hf, he⟩ := Option.map_eq_some_iff.mp ho.2
  rw [Prod.mk.injEq] at he
  exact ⟨s, s', u, hs, flushRun_of_flush hret hf, ho.1, he.1, he.2⟩

def acceptRequest : List (Label ℚ) :=
  [.processOneCaptureRequest previewRequest (frameOutcome v4l2PixFmtMjpeg), .submitRequest]

def takeRequest : List (Label ℚ) :=
  acceptRequest ++ [Label.formatTake, Label.formatConvert true 5, Label.outputTake]

def waitForRequest : List (Label ℚ) :=
  [.outputProcess (roundOutcome true), .outputPerform true, .outputPerform true,
    .outputPerform true, .outputPerform true, .outputDone, .flushSignalled]

theorem flush_completes_waited :
    ∃ s s' u, Reachable (ofPartial (State.step (F := ℚ))) (State.create previewing) s ∧
      FlushRun s s' waitForRequest u ∧
      ∃ e req, (0, e) ∈ u.ended ∧ u.accepted[0]? = some req ∧
        Concluded req e.conclusion ((ledger u).events 0) := by
  have hret : .flushReturn ∉ waitForRequest := by simp [waitForRequest]
  have hto : .flushTimeout ∉ waitForRequest := by simp [waitForRequest]
  obtain ⟨s, s', u, h, hf, hlen, hconv, -⟩ :=
    exists_flushRun takeRequest waitForRequest 1 [(0, .result)] hret rfl
  have hid : 0 < s.accepted.length := by omega
  have hnot : 0 ∉ converting s' := by
    rw [hconv]
    exact List.not_mem_nil
  obtain ⟨he | ho, -⟩ := flush_completes h hf hid hnot
  · exact ⟨s, s', u, h, hf, he⟩
  · exact absurd ho.1 hto

/-- Neither a request that has not come to the output thread nor one that is processed
for too long has ended when the flush returns. -/
theorem flush_leaves_requests :
    (¬ ∀ (device : DeviceSession) (s s' u : State) (as : List (Label ℚ)),
      Reachable (ofPartial (State.step (F := ℚ))) (State.create device) s →
      FlushRun s s' as u → .flushTimeout ∉ as → ∀ id < s.accepted.length, Ended u id) ∧
    (¬ ∀ (device : DeviceSession) (s s' u : State) (as : List (Label ℚ)),
      Reachable (ofPartial (State.step (F := ℚ))) (State.create device) s →
      FlushRun s s' as u → ∀ id < s.accepted.length, id ∉ converting s' → Ended u id) := by
  have hnone (u : State) (he : u.ended.map (fun p ↦ (p.1, p.2.conclusion)) = []) :
      ¬ Ended u 0 := by
    intro hcond
    obtain ⟨e, hm⟩ := hcond
    rw [List.map_eq_nil_iff.mp he] at hm
    exact List.not_mem_nil hm
  constructor
  · intro hall
    obtain ⟨s, s', u, h, hf, hlen, -, he⟩ :=
      exists_flushRun acceptRequest [] 1 [] List.not_mem_nil rfl
    exact hnone u he (hall previewing s s' u [] h hf List.not_mem_nil 0 (by omega))
  · intro hall
    have hret : .flushReturn ∉ [(.flushTimeout : Label ℚ)] := by simp
    obtain ⟨s, s', u, h, hf, hlen, hconv, he⟩ :=
      exists_flushRun takeRequest [.flushTimeout] 1 [] hret rfl
    refine hnone u he (hall previewing s s' u _ h hf 0 (by omega) ?_)
    rw [hconv]
    exact List.not_mem_nil

end VirtualCamera.Session.Flushing
