import VirtualCamera.Submission.Model

namespace VirtualCamera.Submission

open Library Assoc

/-! ### Wrapping -/

def NextRequest.recorded (c : Config) (r : NextRequest) : List (Key × ℕ) :=
  (r.input_buffer.toList.map fun (stream, buffer) ↦ ((r.frame_number, stream), buffer)) ++
  if c.mUseHalBufManager then []
  else r.outputBuffers.filterMap fun b ↦
    b.buffer.map fun buffer ↦ ((r.frame_number, b.stream), buffer)

/-- The buffers of a request can be sent. -/
def NextRequest.Sendable (c : Config) (r : NextRequest) : Prop :=
  c.mUseHalBufManager = true ∨ ∀ b ∈ r.outputBuffers, b.buffer.isSome = true

instance (c : Config) (r : NextRequest) : Decidable (r.Sendable c) :=
  inferInstanceAs (Decidable (_ ∨ _))

/-- The records that are new are those on the list. -/
def Wrapping.From (mInflightBufferMap : Records) (w : Wrapping) : Prop :=
  ∀ k, k ∉ w.inflightBuffers → w.mInflightBufferMap.lookup k = mInflightBufferMap.lookup k

theorem Wrapping.From.push {m : Records} {w : Wrapping} (h : w.From m) (frameNumber : ℕ)
    (streamId : ℤ) (buffer : ℕ) : (w.pushInflightBuffer frameNumber streamId buffer).From m := by
  intro k hk
  rw [Wrapping.pushInflightBuffer, List.mem_append, List.mem_singleton, not_or] at hk
  exact (AList.lookup_insert_ne hk.2).trans (h k hk.1)

theorem Wrapping.From.wrapOutputBuffers {m : Records} {w : Wrapping} (h : w.From m) (c : Config)
    (frame_number : ℕ) (l : List StreamBuffer) :
    (wrapOutputBuffers c frame_number w l).2.From m := by
  induction l generalizing w with
  | nil => exact h
  | cons src l ih =>
    unfold Submission.wrapOutputBuffers
    split
    · exact ih h
    · split
      · exact h
      · exact ih (h.push _ _ _)

theorem Wrapping.From.wrapAsHidlRequest {m : Records} {w : Wrapping} (h : w.From m) (c : Config)
    (request : NextRequest) : (wrapAsHidlRequest c w request).2.From m := by
  apply Wrapping.From.wrapOutputBuffers
  unfold wrapInputBuffer
  split
  · exact h
  · exact h.push _ _ _

theorem Wrapping.From.wrapRequests {m : Records} {w : Wrapping} (h : w.From m) (c : Config)
    (requests : List NextRequest) : (wrapRequests c w requests).2.From m := by
  induction requests generalizing w with
  | nil => exact h
  | cons request requests ih =>
    have hone := h.wrapAsHidlRequest c request
    unfold Submission.wrapRequests
    split
    · rename_i w' hw
      rwa [hw] at hone
    · rename_i w' hw
      rw [hw] at hone
      exact ih hone

theorem wrapOutputBuffers_eq_true (c : Config) (frame_number : ℕ) (w : Wrapping)
    (l : List StreamBuffer) :
    (wrapOutputBuffers c frame_number w l).1 = true ↔
      c.mUseHalBufManager = true ∨ ∀ b ∈ l, b.buffer.isSome = true := by
  induction l generalizing w with
  | nil => simp [wrapOutputBuffers]
  | cons src l ih =>
    unfold wrapOutputBuffers
    split
    · rename_i hhal
      simp [ih, hhal]
    · rename_i hhal
      split
      · rename_i hnone
        simp [hhal, hnone]
      · rename_i buffer hsome
        simp [ih, hhal, hsome]

theorem wrapRequests_eq_true (c : Config) (w : Wrapping) (requests : List NextRequest) :
    (wrapRequests c w requests).1 = true ↔ ∀ r ∈ requests, r.Sendable c := by
  induction requests generalizing w with
  | nil => simp [wrapRequests]
  | cons request requests ih =>
    have hone : (wrapAsHidlRequest c w request).1 = true ↔ request.Sendable c :=
      wrapOutputBuffers_eq_true c _ _ _
    rw [List.forall_mem_cons, ← hone]
    unfold wrapRequests
    split
    · rename_i hw
      simp [hw]
    · rename_i hw
      simp [hw, ih]

theorem wrapOutputBuffers_map {c : Config} {frame_number : ℕ} {w : Wrapping}
    {l : List StreamBuffer} (h : (wrapOutputBuffers c frame_number w l).1 = true) :
    (wrapOutputBuffers c frame_number w l).2.mInflightBufferMap =
      insertAll (if c.mUseHalBufManager then [] else l.filterMap fun b ↦
        b.buffer.map fun buffer ↦ ((frame_number, b.stream), buffer)) w.mInflightBufferMap := by
  induction l generalizing w with
  | nil => simp [wrapOutputBuffers, insertAll]
  | cons src l ih =>
    unfold wrapOutputBuffers at h ⊢
    by_cases hhal : c.mUseHalBufManager = true
    · rw [if_pos hhal] at h ⊢
      rw [ih h, if_pos hhal, if_pos hhal]
    · rw [if_neg hhal] at h ⊢
      cases hb : src.buffer with
      | none => simp [hb] at h
      | some buffer =>
        simp only [hb] at h ⊢
        rw [ih h, if_neg hhal, if_neg hhal,
          List.filterMap_cons_some (b := ((frame_number, src.stream), buffer)) (by rw [hb]; rfl),
          insertAll_cons]
        rfl

theorem wrapAsHidlRequest_map (c : Config) (w : Wrapping) (request : NextRequest)
    (h : (wrapAsHidlRequest c w request).1 = true) :
    (wrapAsHidlRequest c w request).2.mInflightBufferMap =
      insertAll (request.recorded c) w.mInflightBufferMap := by
  rw [wrapAsHidlRequest, wrapOutputBuffers_map h, NextRequest.recorded, insertAll_append]
  congr 1
  unfold wrapInputBuffer
  split
  · rename_i hin
    rw [hin]
    rfl
  · rename_i hin
    rw [hin]
    rfl

theorem wrapRequests_map {c : Config} {w : Wrapping} {requests : List NextRequest}
    (h : (wrapRequests c w requests).1 = true) :
    (wrapRequests c w requests).2.mInflightBufferMap =
      insertAll (requests.flatMap (·.recorded c)) w.mInflightBufferMap := by
  induction requests generalizing w with
  | nil => rfl
  | cons request requests ih =>
    have hone := wrapAsHidlRequest_map c w request
    unfold wrapRequests at h ⊢
    split at h
    · cases h
    · rename_i w' hw
      rw [hw] at hone
      rw [ih h, hone rfl, List.flatMap_cons, insertAll_append]

/-! ### The call of the HAL -/

/-- The HAL has taken the whole batch. -/
def Accepted (c : Config) (answer : Answer) (mNextRequests : List NextRequest) : Prop :=
  c.valid = true ∧ (∀ r ∈ mNextRequests, r.Sendable c) ∧ answer.isOk = true ∧
    answer.reply = some (.OK, mNextRequests.length)

/-- How many requests count as processed: none when the HAL was not called. -/
def counted (c : Config) (answer : Answer) (mNextRequests : List NextRequest) : ℕ :=
  if c.valid = true ∧ ∀ r ∈ mNextRequests, r.Sendable c then answer.numRequestProcessed else 0

theorem Answer.status_eq_ok {answer : Answer} {batchSize : ℕ} :
    answer.status batchSize = .OK ↔
      answer.isOk = true ∧ answer.reply = some (.OK, batchSize) := by
  obtain ⟨isOk, reply⟩ := answer
  cases isOk <;> cases reply <;> simp [Answer.status]
  rename_i p
  obtain ⟨status, n⟩ := p
  dsimp only
  by_cases hs : status = .OK <;> by_cases hn : n = batchSize <;> simp [hs, hn]

section

variable {c : Config} {answer : Answer} {m : Records} {requests : List NextRequest}

theorem processBatch_accepted (h : Accepted c answer requests) :
    processBatchCaptureRequests c answer m requests =
      ⟨.OK, requests.length, insertAll (requests.flatMap (·.recorded c)) m⟩ := by
  obtain ⟨hvalid, hsend, hok, hreply⟩ := h
  have hwrap := (wrapRequests_eq_true c ⟨m, []⟩ requests).mpr hsend
  have hmap := wrapRequests_map hwrap
  have hstatus := Answer.status_eq_ok.mpr ⟨hok, hreply⟩
  unfold processBatchCaptureRequests
  rw [if_pos hvalid]
  split
  · rename_i w hw
    rw [hw] at hwrap
    cases hwrap
  · rename_i w hw
    rw [hw] at hmap
    dsimp only
    rw [hstatus, if_pos (mapToStatusT_eq_ok.mpr rfl), Answer.numRequestProcessed, hreply]
    exact congrArg _ hmap

/-- A call that fails takes all the new records away. -/
theorem processBatch_failed (h : ¬ Accepted c answer requests) :
    let p := processBatchCaptureRequests c answer m requests
    p.res ≠ .OK ∧ p.numRequestProcessed = counted c answer requests ∧
      ∀ k, m.lookup k = none → p.mInflightBufferMap.lookup k = none := by
  have hfrom : (wrapRequests c ⟨m, []⟩ requests).2.From m :=
    Wrapping.From.wrapRequests (fun _ _ ↦ rfl) c requests
  have hwrap := wrapRequests_eq_true c ⟨m, []⟩ requests
  have hpop : ∀ {w : Wrapping}, w.From m → ∀ k, m.lookup k = none →
      (popInflightBuffers w.mInflightBufferMap w.inflightBuffers).lookup k = none := by
    intro w hw k hk
    rw [popInflightBuffers, lookup_eraseAll]
    split
    · rfl
    · rename_i hnot
      rw [hw k hnot, hk]
  unfold processBatchCaptureRequests counted
  by_cases hvalid : c.valid = true
  · rw [if_pos hvalid]
    split
    · rename_i w hw
      rw [hw] at hwrap hfrom
      refine ⟨StatusT.noConfusion, ?_, hpop hfrom⟩
      rw [if_neg fun hs ↦ Bool.false_ne_true (hwrap.mpr hs.2)]
    · rename_i w hw
      rw [hw] at hwrap hfrom
      have hsend := hwrap.mp rfl
      have hres : mapToStatusT (answer.status requests.length) ≠ .OK := by
        intro hres
        obtain ⟨hok, hreply⟩ := Answer.status_eq_ok.mp (mapToStatusT_eq_ok.mp hres)
        exact h ⟨hvalid, hsend, hok, hreply⟩
      rw [if_neg hres, if_pos ⟨hvalid, hsend⟩]
      exact ⟨hres, rfl, hpop hfrom⟩
  · rw [if_neg hvalid, if_neg fun hs ↦ hvalid hs.1]
    exact ⟨StatusT.noConfusion, rfl, fun _ hk ↦ hk⟩

end

end VirtualCamera.Submission
