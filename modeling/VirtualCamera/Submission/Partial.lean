import VirtualCamera.Submission.Wrapping

namespace VirtualCamera.Submission

open Library Assoc

/-! ### The buffers of a batch -/

/-- The buffers that the thread has for a request, with the keys of their records. -/
def NextRequest.held (r : NextRequest) : List (Key × ℕ) :=
  (r.input_buffer.toList.map fun (stream, buffer) ↦ ((r.frame_number, stream), buffer)) ++
    r.outputBuffers.filterMap fun b ↦
      b.buffer.map fun buffer ↦ ((r.frame_number, b.stream), buffer)

def NextRequest.streams (r : NextRequest) : List ℤ :=
  r.input_buffer.toList.map Prod.fst ++ r.outputBuffers.map StreamBuffer.stream

/-- What `prepareHalRequests` makes of a batch: there are requests, their frames are new, each
has a stream at most once, and with the HAL buffer manager it has no output buffers yet. -/
structure Prepared (c : Config) (mInflightBufferMap : Records)
    (mNextRequests : List NextRequest) : Prop where
  nonempty : mNextRequests ≠ []
  unsubmitted : ∀ r ∈ mNextRequests, r.submitted = false
  frames : (mNextRequests.map NextRequest.frame_number).Nodup
  streams : ∀ r ∈ mNextRequests, r.streams.Nodup
  fresh : ∀ r ∈ mNextRequests, ∀ stream,
    mInflightBufferMap.lookup (r.frame_number, stream) = none
  requested : c.mUseHalBufManager = true → ∀ r ∈ mNextRequests, ∀ b ∈ r.outputBuffers,
    b.buffer = none

def ReturnedBuffer.key (b : ReturnedBuffer) : Key := (b.frame_number, b.stream)

/-- No access goes past the end of the batch, and a buffer of the batch is recorded when its
request counts as processed; otherwise it has gone back once, in error, and is not recorded. -/
def Accounted (c : Config) (answer : Answer) (removeTriggers : ℕ → Bool)
    (mInflightBufferMap : Records) (mNextRequests : List NextRequest) : Prop :=
  ∃ sent, sendRequestsBatch c answer removeTriggers mInflightBufferMap mNextRequests =
      some sent ∧
    ∀ (i : ℕ) (r : NextRequest), mNextRequests[i]? = some r → ∀ entry ∈ r.held,
      if i < (processBatchCaptureRequests c answer mInflightBufferMap
          mNextRequests).numRequestProcessed then
        sent.mInflightBufferMap.lookup entry.1 = some entry.2 ∧
          sent.returned.filter (·.key = entry.1) = []
      else
        sent.mInflightBufferMap.lookup entry.1 = none ∧
          sent.returned.filter (·.key = entry.1) =
            [⟨entry.1.1, entry.1.2, some entry.2, .ERROR⟩]

theorem held_key {r : NextRequest} {entry : Key × ℕ} (h : entry ∈ r.held) :
    entry.1.1 = r.frame_number ∧ entry.1.2 ∈ r.streams := by
  rcases List.mem_append.mp h with h | h
  · obtain ⟨⟨stream, buffer⟩, hmem, rfl⟩ := List.mem_map.mp h
    exact ⟨rfl, List.mem_append_left _ (List.mem_map_of_mem hmem)⟩
  · obtain ⟨b, hmem, hb⟩ := List.mem_filterMap.mp h
    obtain ⟨buffer, -, rfl⟩ := Option.map_eq_some_iff.mp hb
    exact ⟨rfl, List.mem_append_right _ (List.mem_map_of_mem hmem)⟩

/-! ### The processed requests -/

/-- The loop has submitted the first `n` requests and left the others. -/
structure Submitting.Upto (removeTriggers : ℕ → Bool) (requests : List NextRequest) (n : ℕ)
    (s : Submitting) : Prop where
  length_eq : s.mNextRequests.length = requests.length
  submitted : ∀ i < n, ∀ r, s.mNextRequests[i]? = some r → r.submitted = true
  rest : ∀ i, n ≤ i → s.mNextRequests[i]? = requests[i]?
  failed : s.triggerRemoveFailed = true ↔ ∃ i < n, removeTriggers i = false

theorem submitted_of_set {l : List NextRequest} {j : ℕ} {next : NextRequest}
    (hnext : next.submitted = true) {i : ℕ} {r : NextRequest} (hr : (l.set j next)[i]? = some r) :
    r.submitted = true ∨ i ≠ j ∧ l[i]? = some r := by
  by_cases hij : j = i
  · subst hij
    rw [List.getElem?_set_self'] at hr
    obtain ⟨-, -, rfl⟩ := Option.map_eq_some_iff.mp hr
    exact .inl hnext
  · rw [List.getElem?_set_ne hij] at hr
    exact .inr ⟨Ne.symm hij, hr⟩

theorem Submitting.Upto.submit {removeTriggers : ℕ → Bool} {requests : List NextRequest} {n : ℕ}
    {s : Submitting} (h : s.Upto removeTriggers requests n) (hn : n < requests.length) :
    ∃ t, s.submit removeTriggers n = some t ∧ t.Upto removeTriggers requests (n + 1) := by
  have hlt : n < s.mNextRequests.length := h.length_eq ▸ hn
  have hexists : (∃ i < n + 1, removeTriggers i = false) ↔
      s.triggerRemoveFailed = true ∨ removeTriggers n = false := by
    rw [h.failed]
    constructor
    · intro hcond
      obtain ⟨i, hi, hr⟩ := hcond
      rcases Nat.lt_succ_iff_lt_or_eq.mp hi with hi | rfl
      · exact .inl ⟨i, hi, hr⟩
      · exact .inr hr
    · intro hcond
      obtain ⟨i, hi, hr⟩ | hr := hcond
      · exact ⟨i, by omega, hr⟩
      · exact ⟨n, by omega, hr⟩
  let next : NextRequest := { s.mNextRequests[n] with submitted := true }
  have hset : ∀ i < n + 1, ∀ r, (s.mNextRequests.set n next)[i]? = some r →
      r.submitted = true := by
    intro i hi r hr
    rcases submitted_of_set rfl hr with hsub | ⟨hne, hr⟩
    · exact hsub
    · exact h.submitted i (by omega) r hr
  have hrest : ∀ i, n + 1 ≤ i → (s.mNextRequests.set n next)[i]? = requests[i]? := by
    intro i hi
    rw [List.getElem?_set_ne (by omega)]
    exact h.rest i (by omega)
  unfold Submitting.submit
  rw [List.getElem?_eq_getElem hlt, Option.map_some]
  refine ⟨_, rfl, ?_⟩
  dsimp only
  split
  · rename_i hfail
    obtain ⟨-, hremove⟩ := Bool.and_eq_true_iff.mp hfail
    refine ⟨by simp [h.length_eq], fun i hi r hr ↦ ?_, fun i hi ↦ ?_, ?_⟩
    · rcases submitted_of_set rfl hr with hsub | ⟨-, hr⟩
      · exact hsub
      · exact hset i hi r hr
    · rw [List.getElem?_set_ne (by omega)]
      exact hrest i hi
    · rw [hexists]
      exact ⟨fun _ ↦ .inr (by simpa using hremove), fun _ ↦ rfl⟩
  · rename_i hfail
    refine ⟨by simp [h.length_eq], hset, hrest, ?_⟩
    rw [hexists]
    refine ⟨.inl, ?_⟩
    intro hcond
    obtain hf | hr := hcond
    · exact hf
    · simpa [hr] using hfail

theorem submit_range (removeTriggers : ℕ → Bool) (requests : List NextRequest) {n : ℕ}
    (hn : n ≤ requests.length) :
    ∃ s, (List.range n).foldlM (Submitting.submit removeTriggers) ⟨requests, false⟩ = some s ∧
      s.Upto removeTriggers requests n := by
  induction n with
  | zero => exact ⟨_, rfl, rfl, by simp, fun _ _ ↦ rfl, by simp⟩
  | succ n ih =>
    obtain ⟨s, hs, hupto⟩ := ih (by omega)
    obtain ⟨t, ht, hupto⟩ := hupto.submit (by omega)
    refine ⟨t, ?_, hupto⟩
    rw [List.range_succ, List.foldlM_append, hs]
    simpa using ht

/-- What is returned after the loop are the buffers of the requests that it left. -/
theorem cleanUp_submitted {c : Config} {removeTriggers : ℕ → Bool} {requests : List NextRequest}
    {n : ℕ} {s : Submitting} (h : s.Upto removeTriggers requests n)
    (hunsubmitted : ∀ r ∈ requests, r.submitted = false) :
    cleanUpFailedRequests c s.mNextRequests = (requests.drop n).flatMap (·.returnBuffers c) := by
  have htake : (s.mNextRequests.take n).filter (!·.submitted) = [] := by
    rw [List.filter_eq_nil_iff]
    intro r hr
    obtain ⟨i, hi⟩ := List.mem_iff_getElem?.mp hr
    rw [List.getElem?_take] at hi
    split at hi
    · rename_i hin
      simp [h.submitted i hin r hi]
    · cases hi
  have hdrop : s.mNextRequests.drop n = requests.drop n := by
    apply List.ext_getElem?
    intro i
    rw [List.getElem?_drop, List.getElem?_drop]
    exact h.rest (n + i) (Nat.le_add_right n i)
  have hleft : (requests.drop n).filter (!·.submitted) = requests.drop n := by
    rw [List.filter_eq_self]
    intro r hr
    simp [hunsubmitted r (List.mem_of_mem_drop hr)]
  unfold cleanUpFailedRequests
  rw [← List.take_append_drop n s.mNextRequests, List.filter_append, htake, hdrop, hleft,
    List.nil_append]

/-! ### The buffers after the call -/

theorem filter_eq_singleton {α β : Type} [DecidableEq β] {l : List α} {f : α → β}
    (h : (l.map f).Nodup) {x : α} (hx : x ∈ l) : l.filter (f · = f x) = [x] := by
  induction l with
  | nil => cases hx
  | cons y l ih =>
    rw [List.map_cons, List.nodup_cons] at h
    rcases List.mem_cons.mp hx with rfl | hx
    · rw [List.filter_cons_of_pos (by simp), List.cons_inj_right, List.filter_eq_nil_iff]
      intro z hz heq
      exact h.1 (List.mem_map.mpr ⟨z, hz, of_decide_eq_true heq⟩)
    · have hne : f y ≠ f x := fun heq ↦ h.1 (heq ▸ List.mem_map_of_mem hx)
      rw [List.filter_cons_of_neg (by simpa using hne)]
      exact ih h.2 hx

section

variable {c : Config} {answer : Answer} {m : Records} {requests : List NextRequest}

theorem Prepared.recorded_eq (h : Prepared c m requests) {r : NextRequest} (hr : r ∈ requests) :
    r.recorded c = r.held := by
  unfold NextRequest.recorded NextRequest.held
  split
  · rename_i hhal
    have hnone : (r.outputBuffers.filterMap fun b ↦
        b.buffer.map fun buffer ↦ ((r.frame_number, b.stream), buffer)) = [] := by
      rw [List.filterMap_eq_nil_iff]
      intro b hb
      rw [h.requested hhal r hr b hb]
      rfl
    rw [hnone]
  · rfl

theorem returned_key {r : NextRequest} {b : ReturnedBuffer} (h : b ∈ r.returnBuffers c) :
    b.frame_number = r.frame_number := by
  unfold NextRequest.returnBuffers at h
  rcases List.mem_append.mp h with h | h
  · obtain ⟨-, -, rfl⟩ := List.mem_map.mp h
    rfl
  · split at h
    · cases h
    · obtain ⟨-, -, rfl⟩ := List.mem_map.mp h
      rfl

theorem returned_streams (r : NextRequest) :
    ((r.returnBuffers c).map ReturnedBuffer.stream).Sublist r.streams := by
  unfold NextRequest.returnBuffers NextRequest.streams
  rw [List.map_append, List.map_map]
  apply List.Sublist.append
  · exact List.Sublist.refl _
  · split
    · exact List.nil_sublist _
    · rw [List.map_map]
      exact List.Sublist.refl _

theorem mem_returned (h : Prepared c m requests) {r : NextRequest} (hr : r ∈ requests)
    {entry : Key × ℕ} (he : entry ∈ r.held) :
    (⟨entry.1.1, entry.1.2, some entry.2, .ERROR⟩ : ReturnedBuffer) ∈ r.returnBuffers c := by
  rw [← h.recorded_eq hr, NextRequest.recorded, List.mem_append] at he
  unfold NextRequest.returnBuffers
  rw [List.mem_append]
  rcases he with he | he
  · obtain ⟨p, hp, rfl⟩ := List.mem_map.mp he
    exact .inl (List.mem_map.mpr ⟨p, hp, rfl⟩)
  · right
    split at he
    · cases he
    · rename_i hhal
      obtain ⟨b, hb, hbuffer⟩ := List.mem_filterMap.mp he
      obtain ⟨buffer, hsome, rfl⟩ := Option.map_eq_some_iff.mp hbuffer
      rw [if_neg hhal]
      exact List.mem_map.mpr ⟨b, hb, by rw [hsome]⟩

theorem Prepared.nodup_keys (h : Prepared c m requests) (keys : NextRequest → List Key)
    (hframe : ∀ r, ∀ k ∈ keys r, k.1 = r.frame_number)
    (hstream : ∀ r, ((keys r).map Prod.snd).Sublist r.streams) (n : ℕ) :
    ((requests.drop n).flatMap keys).Nodup := by
  rw [List.nodup_flatMap]
  constructor
  · intro r hr
    exact .of_map Prod.snd ((hstream r).nodup (h.streams r (List.mem_of_mem_drop hr)))
  · have hframes := (List.pairwise_map.mp h.frames).sublist (List.drop_sublist n requests)
    apply hframes.imp
    intro r r' hne k hk hk'
    exact hne ((hframe r k hk).symm.trans (hframe r' k hk'))

/-- A part of the batch that fails returns no buffer twice. -/
theorem nodup_returned (h : Prepared c m requests) (n : ℕ) :
    (((requests.drop n).flatMap (·.returnBuffers c)).map ReturnedBuffer.key).Nodup := by
  rw [List.map_flatMap]
  refine h.nodup_keys (fun r ↦ (r.returnBuffers c).map ReturnedBuffer.key) ?_ ?_ n
  · intro r k hk
    obtain ⟨b, hb, rfl⟩ := List.mem_map.mp hk
    exact returned_key hb
  · intro r
    rw [List.map_map]
    exact returned_streams r

/-- The batch has no record twice. -/
theorem nodup_recorded (h : Prepared c m requests) :
    ((requests.flatMap (·.recorded c)).map Prod.fst).Nodup := by
  have hsub : ∀ (frame_number : ℕ) (l : List StreamBuffer),
      ((l.filterMap fun b ↦ b.buffer.map fun buffer ↦
        ((frame_number, b.stream), buffer)).map fun entry ↦ entry.1.2).Sublist
        (l.map StreamBuffer.stream) := by
    intro frame_number l
    induction l with
    | nil => exact List.Sublist.refl _
    | cons b l ih =>
      cases hb : b.buffer with
      | none =>
        rw [List.filterMap_cons_none (by rw [hb]; rfl)]
        exact ih.cons _
      | some buffer =>
        rw [List.filterMap_cons_some (b := ((frame_number, b.stream), buffer)) (by rw [hb]; rfl)]
        exact ih.cons_cons _
  have hdrop := h.nodup_keys (fun r ↦ (r.recorded c).map Prod.fst) ?_ ?_ 0
  · rwa [List.map_flatMap]
  · intro r k hk
    obtain ⟨entry, he, rfl⟩ := List.mem_map.mp hk
    rcases List.mem_append.mp he with he | he
    · obtain ⟨-, -, rfl⟩ := List.mem_map.mp he
      rfl
    · split at he
      · cases he
      · obtain ⟨b, -, hb⟩ := List.mem_filterMap.mp he
        obtain ⟨-, -, rfl⟩ := Option.map_eq_some_iff.mp hb
        rfl
  · intro r
    unfold NextRequest.recorded NextRequest.streams
    rw [List.map_map, List.map_append, List.map_map]
    apply List.Sublist.append
    · exact List.Sublist.refl _
    · split
      · exact List.nil_sublist _
      · exact hsub r.frame_number r.outputBuffers

theorem filter_returned_drop (h : Prepared c m requests) {n i : ℕ} {r : NextRequest}
    (hi : requests[i]? = some r) (hn : n ≤ i) {entry : Key × ℕ} (he : entry ∈ r.held) :
    ((requests.drop n).flatMap (·.returnBuffers c)).filter (·.key = entry.1) =
      [⟨entry.1.1, entry.1.2, some entry.2, .ERROR⟩] := by
  have hr := mem_returned h (List.mem_of_getElem? hi) he
  have hmem : r ∈ requests.drop n := by
    apply List.mem_of_getElem? (i := i - n)
    rw [List.getElem?_drop, Nat.add_sub_cancel' hn, hi]
  exact filter_eq_singleton (nodup_returned h n) (List.mem_flatMap.mpr ⟨r, hmem, hr⟩)

theorem filter_returned_take (h : Prepared c m requests) {n i : ℕ} {r : NextRequest}
    (hi : requests[i]? = some r) (hn : i < n) {entry : Key × ℕ} (he : entry ∈ r.held) :
    ((requests.drop n).flatMap (·.returnBuffers c)).filter (·.key = entry.1) = [] := by
  rw [List.filter_eq_nil_iff]
  intro b hb hkey
  obtain ⟨r', hr', hb⟩ := List.mem_flatMap.mp hb
  obtain ⟨j, hj⟩ := List.mem_iff_getElem?.mp hr'
  rw [List.getElem?_drop] at hj
  have hframe : r'.frame_number = r.frame_number := by
    rw [← returned_key hb, ← (held_key he).1]
    exact congrArg Prod.fst (of_decide_eq_true hkey)
  have hlt : i < (requests.map NextRequest.frame_number).length := by
    rw [List.length_map]
    exact (List.getElem?_eq_some_iff.mp hi).1
  have hij : i = n + j := by
    apply (List.getElem?_inj hlt h.frames).mp
    rw [List.getElem?_map, List.getElem?_map, hi, hj, Option.map_some, Option.map_some, hframe]
  omega

/-- With the call a success, a buffer is recorded. -/
theorem lookup_recorded (h : Prepared c m requests) {i : ℕ} {r : NextRequest}
    (hi : requests[i]? = some r) {entry : Key × ℕ} (he : entry ∈ r.held) :
    (insertAll (requests.flatMap (·.recorded c)) m).lookup entry.1 = some entry.2 := by
  have hr := List.mem_of_getElem? hi
  apply lookup_insertAll (nodup_recorded h)
  exact List.mem_flatMap.mpr ⟨r, hr, h.recorded_eq hr ▸ he⟩

theorem counted_le (h : answer.numRequestProcessed ≤ requests.length) :
    counted c answer requests ≤ requests.length := by
  unfold counted
  split
  · exact h
  · exact Nat.zero_le _

/-- No access past the end: the message about a failure names a request of the batch. -/
def Contained (p : Processed) (removeTriggers : ℕ → Bool) (requests : List NextRequest) : Prop :=
  p.res = .OK ∨ p.numRequestProcessed < requests.length ∨
    ∃ i < p.numRequestProcessed, removeTriggers i = false

/-- When the call returns, the buffers of the requests that were not processed have gone back. -/
theorem sendRequestsBatch_eq (h : Prepared c m requests) (removeTriggers : ℕ → Bool)
    {p : Processed} (hp : processBatchCaptureRequests c answer m requests = p)
    (hok : p.res = .OK → p.numRequestProcessed = requests.length)
    (hn : p.numRequestProcessed ≤ requests.length) :
    (Contained p removeTriggers requests → ∃ success,
      sendRequestsBatch c answer removeTriggers m requests =
        some ⟨success, p.mInflightBufferMap,
          (requests.drop p.numRequestProcessed).flatMap (·.returnBuffers c)⟩) ∧
    (¬ Contained p removeTriggers requests →
      sendRequestsBatch c answer removeTriggers m requests = none) := by
  obtain ⟨first, rest, rfl⟩ := List.exists_cons_of_ne_nil h.nonempty
  obtain ⟨s, hs, hupto⟩ := submit_range removeTriggers (first :: rest) hn
  have hclean := cleanUp_submitted hupto h.unsubmitted (c := c)
  have hnext := hupto.rest p.numRequestProcessed le_rfl
  unfold sendRequestsBatch Contained
  rw [hp, List.getElem?_cons_zero, Option.bind_some, hs, Option.bind_some, hclean, hnext,
    ← hupto.failed]
  by_cases hfailed : s.triggerRemoveFailed = true
  · rw [if_pos hfailed]
    exact ⟨fun _ ↦ ⟨false, rfl⟩, fun hcon ↦ absurd (.inr (.inr hfailed)) hcon⟩
  · rw [if_neg hfailed]
    by_cases hres : p.res = .OK
    · rw [if_neg (not_not.mpr hres), hok hres, List.drop_length]
      exact ⟨fun _ ↦ ⟨true, rfl⟩, fun hcon ↦ absurd (.inl hres) hcon⟩
    · rw [if_pos hres]
      by_cases hlt : p.numRequestProcessed < (first :: rest).length
      · rw [List.getElem?_eq_getElem hlt]
        exact ⟨fun _ ↦ ⟨false, rfl⟩, fun hcon ↦ absurd (.inr (.inl hlt)) hcon⟩
      · rw [List.getElem?_eq_none (not_lt.mp hlt)]
        refine ⟨?_, fun _ ↦ rfl⟩
        intro hcond
        obtain hcon | hcon | hcon := hcond
        · exact absurd hcon hres
        · exact absurd hcon hlt
        · exact absurd hcon hfailed

theorem accounted_of_accepted (h : Prepared c m requests) (hacc : Accepted c answer requests)
    (removeTriggers : ℕ → Bool) : Accounted c answer removeTriggers m requests := by
  have hp := processBatch_accepted hacc (m := m)
  obtain ⟨hsome, -⟩ := sendRequestsBatch_eq h removeTriggers hp (fun _ ↦ rfl) le_rfl
  obtain ⟨success, hsent⟩ := hsome (.inl rfl)
  refine ⟨_, hsent, fun i r hi entry he ↦ ?_⟩
  rw [hp, if_pos (List.getElem?_eq_some_iff.mp hi).1]
  exact ⟨lookup_recorded h hi he,
    filter_returned_take h hi (List.getElem?_eq_some_iff.mp hi).1 he⟩

/-- A batch that the HAL has not taken leaves no record, so those of its requests that count as
processed must not need one. -/
theorem accounted_iff_of_failed (h : Prepared c m requests) (hacc : ¬ Accepted c answer requests)
    (hn : answer.numRequestProcessed ≤ requests.length) (removeTriggers : ℕ → Bool) :
    Accounted c answer removeTriggers m requests ↔
      (∀ r ∈ requests.take (counted c answer requests), r.held = []) ∧
        (counted c answer requests < requests.length ∨
          ∃ i < counted c answer requests, removeTriggers i = false) := by
  obtain ⟨hres, hcount, hnone⟩ := processBatch_failed hacc (m := m)
  obtain ⟨hsome, hpast⟩ := sendRequestsBatch_eq h removeTriggers rfl
    (fun hok ↦ absurd hok hres) (hcount ▸ counted_le hn)
  rw [← hcount]
  constructor
  · intro hcond
    obtain ⟨sent, hsent, hall⟩ := hcond
    have hcon : Contained (processBatchCaptureRequests c answer m requests) removeTriggers
        requests := by
      by_contra hcon
      rw [hpast hcon] at hsent
      cases hsent
    obtain ⟨success, hsent'⟩ := hsome hcon
    cases hsent.symm.trans hsent'
    refine ⟨fun r hr ↦ ?_, hcon.resolve_left hres⟩
    obtain ⟨i, hi⟩ := List.mem_iff_getElem?.mp hr
    rw [List.getElem?_take] at hi
    split at hi
    · rename_i hlt
      apply List.eq_nil_iff_forall_not_mem.mpr
      intro entry he
      have hrec := hall i r hi entry he
      rw [if_pos hlt, hnone entry.1 ?_] at hrec
      · cases hrec.1
      · rw [← h.fresh r (List.mem_of_getElem? hi) entry.1.2, ← (held_key he).1]
    · cases hi
  · intro hcond
    obtain ⟨hheld, hcon⟩ := hcond
    obtain ⟨success, hsent⟩ := hsome (.inr hcon)
    refine ⟨_, hsent, fun i r hi entry he ↦ ?_⟩
    split
    · rename_i hlt
      have hmem : r ∈ requests.take
          (processBatchCaptureRequests c answer m requests).numRequestProcessed := by
        apply List.mem_of_getElem? (i := i)
        rw [List.getElem?_take, if_pos hlt, hi]
      rw [hheld r hmem] at he
      cases he
    · rename_i hge
      refine ⟨hnone _ ?_, filter_returned_drop h hi (not_lt.mp hge) he⟩
      rw [← h.fresh r (List.mem_of_getElem? hi) entry.1.2, ← (held_key he).1]

/-- For every answer with at most the batch processed, all buffers are accounted for exactly
when the HAL has taken the batch, or the processed requests hold no buffers and the failure is
reported without an access past the end. -/
theorem batch_accounted (h : Prepared c m requests)
    (hn : answer.numRequestProcessed ≤ requests.length) (removeTriggers : ℕ → Bool) :
    Accounted c answer removeTriggers m requests ↔
      Accepted c answer requests ∨
        (∀ r ∈ requests.take (counted c answer requests), r.held = []) ∧
          (counted c answer requests < requests.length ∨
            ∃ i < counted c answer requests, removeTriggers i = false) := by
  by_cases hacc : Accepted c answer requests
  · exact iff_of_true (accounted_of_accepted h hacc removeTriggers) (.inl hacc)
  · rw [or_iff_right hacc]
    exact accounted_iff_of_failed h hacc hn removeTriggers

end

def twoRequests : List NextRequest :=
  [{ frame_number := 1, outputBuffers := [⟨0, some 5⟩] },
    { frame_number := 2, outputBuffers := [⟨0, some 6⟩] }]

theorem prepared_twoRequests : Prepared ⟨true, false⟩ ∅ twoRequests :=
  ⟨by decide, by decide, by decide, by decide, fun _ _ _ ↦ rfl, nofun⟩

theorem batch_accounted_two :
    Accounted ⟨true, false⟩ ⟨true, some (.OK, 2)⟩ (fun _ ↦ true) ∅ twoRequests ∧
      Accounted ⟨true, false⟩ ⟨false, none⟩ (fun _ ↦ true) ∅ twoRequests :=
  ⟨(batch_accounted prepared_twoRequests (by decide) _).mpr
      (.inl ⟨rfl, by decide, rfl, rfl⟩),
    (batch_accounted prepared_twoRequests (by decide) _).mpr
      (.inr ⟨by decide, .inl (by decide)⟩)⟩

/-- The HAL fails the second of two requests: the buffer of the first is not recorded and not
returned. A failure that is reported with both requests processed reads past the batch. -/
theorem not_batch_accounted_first :
    Prepared ⟨true, false⟩ ∅ twoRequests ∧
      ¬ Accounted ⟨true, false⟩ ⟨true, some (.ILLEGAL_ARGUMENT, 1)⟩ (fun _ ↦ true) ∅
        twoRequests ∧
      ¬ Accounted ⟨true, false⟩ ⟨true, some (.INTERNAL_ERROR, 2)⟩ (fun _ ↦ true) ∅
        twoRequests := by
  refine ⟨prepared_twoRequests, ?_, ?_⟩
  · intro h
    obtain ⟨sent, hsent, hall⟩ := h
    have hlookup : (sendRequestsBatch ⟨true, false⟩ ⟨true, some (.ILLEGAL_ARGUMENT, 1)⟩
        (fun _ ↦ true) ∅ twoRequests).map (·.mInflightBufferMap.lookup (1, 0)) = some none := by
      decide +kernel
    rw [hsent] at hlookup
    have hfirst := hall 0 _ rfl ((1, 0), 5) (by decide)
    rw [if_pos (by decide +kernel)] at hfirst
    exact Option.some_ne_none 5 (hfirst.1.symm.trans (Option.some.inj hlookup))
  · intro h
    obtain ⟨sent, hsent, -⟩ := h
    have hnone : (sendRequestsBatch ⟨true, false⟩ ⟨true, some (.INTERNAL_ERROR, 2)⟩
        (fun _ ↦ true) ∅ twoRequests).isNone = true := by
      decide +kernel
    rw [hsent] at hnone
    cases hnone

end VirtualCamera.Submission
