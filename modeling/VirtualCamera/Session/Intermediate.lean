import VirtualCamera.Session.Cropping
import VirtualCamera.Session.Rounds

namespace VirtualCamera.Session.Intermediate

open Library.Assoc Library.Fallible Library.Transition Streams Configure Request Scaling Rounds
open Cropping
open Capture hiding State Label

/-- Every buffer is an allocated frame of its size. -/
def Allocated (buffers : Map Size AllocatedFrame) : Prop :=
  ∀ sz frame, buffers.lookup sz = some frame →
    (AllocatedFrame.ofSize sz).allocate = (true, frame)

theorem Allocated.empty : Allocated ∅ := by
  intro sz frame h
  cases h

theorem Allocated.insert {buffers : Map Size AllocatedFrame} (h : Allocated buffers) {sz : Size}
    {frame : AllocatedFrame} (hframe : (AllocatedFrame.ofSize sz).allocate = (true, frame)) :
    Allocated (buffers.insert sz frame) := by
  intro sz' frame' hlookup
  by_cases hsz : sz' = sz
  · subst hsz
    rw [AList.lookup_insert, Option.some_inj] at hlookup
    exact hlookup ▸ hframe
  · rw [AList.lookup_insert_ne hsz] at hlookup
    exact h sz' frame' hlookup

theorem Allocated.allocateScaled {buffers : Map Size AllocatedFrame} (h : Allocated buffers)
    (v4lSize : Size) (streams : List Stream) :
    Allocated (allocateScaled v4lSize buffers streams).2 := by
  induction streams generalizing buffers with
  | nil => exact h
  | cons stream streams ih =>
    unfold Streams.allocateScaled
    split
    · exact ih h
    · split
      · exact ih h
      · split
        · exact h
        · rename_i buf hbuf
          exact ih (h.insert hbuf)

/-! ### The two passes -/

/-- The first pass leaves no size without a buffer, but that of the input. -/
theorem allocateScaled_covers {v4lSize : Size} {buffers buffers' : Map Size AllocatedFrame}
    {streams : List Stream} (h : allocateScaled v4lSize buffers streams = (true, buffers')) :
    ∀ stream ∈ streams, stream.size ≠ v4lSize → stream.size ∈ buffers' := by
  induction streams generalizing buffers with
  | nil => exact fun stream hs ↦ absurd hs List.not_mem_nil
  | cons stream streams ih =>
    have hkept := allocateScaled_kept v4lSize
    unfold allocateScaled at h
    rw [List.forall_mem_cons]
    split at h
    · rename_i hinput
      exact ⟨fun hne ↦ absurd hinput hne, ih h⟩
    · split at h
      · rename_i hmem
        refine ⟨fun _ ↦ ?_, ih h⟩
        obtain ⟨frame, hframe⟩ := Option.isSome_iff_exists.mp (AList.lookup_isSome.mpr hmem)
        have hlater := (hkept buffers streams).kept stream.size frame hframe
        rw [h] at hlater
        exact AList.lookup_isSome.mp (Option.isSome_of_eq_some hlater)
      · split at h
        · cases h
        · rename_i buf _
          refine ⟨fun _ ↦ ?_, ih h⟩
          have hlater := (hkept (buffers.insert stream.size buf) streams).kept stream.size buf
            (AList.lookup_insert _)
          rw [h] at hlater
          exact AList.lookup_isSome.mp (Option.isSome_of_eq_some hlater)

theorem allocateScaled_input (v4lSize : Size) (buffers : Map Size AllocatedFrame)
    (streams : List Stream) :
    v4lSize ∈ (allocateScaled v4lSize buffers streams).2 ↔ v4lSize ∈ buffers := by
  induction streams generalizing buffers with
  | nil => exact Iff.rfl
  | cons stream streams ih =>
    unfold allocateScaled
    split
    · exact ih buffers
    · rename_i hne
      split
      · exact ih buffers
      · split
        · exact Iff.rfl
        · rw [ih, AList.mem_insert]
          exact ⟨fun h ↦ h.resolve_left (Ne.symm hne), .inr⟩

theorem lookup_removeUnconfigured (streams : List Stream) (buffers : Map Size AllocatedFrame)
    (sz : Size) : (removeUnconfigured streams buffers).lookup sz =
      if ∃ stream ∈ streams, stream.size = sz then buffers.lookup sz else none := by
  unfold removeUnconfigured
  rw [lookup_eraseAll]
  by_cases hc : ∃ stream ∈ streams, stream.size = sz
  · rw [if_pos hc, if_neg]
    intro hmem
    exact of_decide_eq_true (List.mem_filter.mp hmem).2 hc
  · rw [if_neg hc]
    by_cases hmem : sz ∈ buffers
    · exact if_pos (List.mem_filter.mpr ⟨hmem, decide_eq_true hc⟩)
    · rw [AList.lookup_eq_none.mpr hmem, ite_self]

theorem mem_removeUnconfigured (streams : List Stream) (buffers : Map Size AllocatedFrame)
    (sz : Size) : sz ∈ removeUnconfigured streams buffers ↔
      (∃ stream ∈ streams, stream.size = sz) ∧ sz ∈ buffers := by
  rw [← AList.lookup_isSome, lookup_removeUnconfigured, ← AList.lookup_isSome]
  split
  · rename_i hc
    exact ⟨fun h ↦ ⟨hc, h⟩, And.right⟩
  · rename_i hc
    exact ⟨fun h ↦ absurd h Bool.false_ne_true, fun h ↦ absurd h.1 hc⟩

theorem Allocated.removeUnconfigured {buffers : Map Size AllocatedFrame} (h : Allocated buffers)
    (streams : List Stream) : Allocated (removeUnconfigured streams buffers) := by
  intro sz frame hlookup
  rw [lookup_removeUnconfigured] at hlookup
  split at hlookup
  · exact h sz frame hlookup
  · cases hlookup

/-! ### One allocation -/

/-- An allocation works on the buffers with the two passes, of which the second is not
reached when the first fails. -/
theorem allocate_intermediate (b : OutputBuffers) (v4lSize thumbSize : Size)
    (streams : List Stream) (blobBufferSize : ℕ) :
    let result := b.allocateIntermediateBuffers v4lSize thumbSize streams blobBufferSize
    let first := allocateScaled v4lSize b.intermediateBuffers streams
    result.1 = .ok ∧ first.1 = true ∧
      result.2.intermediateBuffers = removeUnconfigured streams first.2 ∨
    result.1 ≠ .ok ∧ (result.2.intermediateBuffers = b.intermediateBuffers ∨
      result.2.intermediateBuffers = first.2) := by
  unfold OutputBuffers.allocateIntermediateBuffers
  split
  · exact .inr ⟨nofun, .inl rfl⟩
  · split
    · exact .inr ⟨nofun, .inl rfl⟩
    · dsimp only
      split
      · exact .inr ⟨nofun, .inl rfl⟩
      · split
        · rename_i hfirst
          refine .inr ⟨nofun, .inr ?_⟩
          rw [hfirst]
        · rename_i hfirst
          refine .inl ⟨rfl, ?_, ?_⟩
          · rw [hfirst]
          · rw [hfirst]

theorem Allocated.allocate {b : OutputBuffers} (h : Allocated b.intermediateBuffers)
    (v4lSize thumbSize : Size) (streams : List Stream) (blobBufferSize : ℕ) :
    Allocated (b.allocateIntermediateBuffers v4lSize thumbSize streams
      blobBufferSize).2.intermediateBuffers := by
  have hfirst := h.allocateScaled v4lSize streams
  rcases allocate_intermediate b v4lSize thumbSize streams blobBufferSize with
    ⟨-, -, he⟩ | ⟨-, he | he⟩
  · rw [he]
    exact hfirst.removeUnconfigured streams
  · rw [he]
    exact h
  · rw [he]
    exact hfirst

/-! ### The buffers over a run -/

theorem program_allocated {F : Type*} (ar : AspectArith F) {s : DeviceSession}
    (h : Allocated s.output.intermediateBuffers) (config : StreamConfiguration)
    (blobBufferSize : ℕ) (o : ConfigureOutcome) :
    Allocated (s.program ar config blobBufferSize o).2.2.output.intermediateBuffers := by
  unfold DeviceSession.program
  dsimp only
  split
  · exact h
  · split
    · exact h
    · rename_i fmt v hset
      split
      · exact h
      · have halloc := h.allocate ⟨fmt.width, fmt.height⟩ s.maxThumbResolution config.streams
          blobBufferSize
        split
        · rename_i output ha
          rw [ha] at halloc
          split <;> exact halloc
        · rename_i ha
          rw [ha] at halloc
          exact halloc

theorem configureStreams_allocated {F : Type*} {ar : AspectArith F} {s : DeviceSession}
    {config : StreamConfiguration} {blobBufferSize : ℕ} {o : ConfigureOutcome}
    {result : Status × List HalStream × DeviceSession}
    (hs : Allocated s.output.intermediateBuffers)
    (h : s.configureStreams ar config blobBufferSize o = some result) :
    Allocated result.2.2.output.intermediateBuffers := by
  unfold DeviceSession.configureStreams at h
  split at h
  · cases h
    exact hs
  · split at h
    · cases h
      exact hs
    · split at h
      · cases h
        exact hs
      · obtain ⟨maps, -, rfl⟩ := Option.map_eq_some_iff.mp h
        exact program_allocated ar (s := { s with maps := maps }) hs config blobBufferSize o

def NoConfiguration {F : Type} (_ : State) : Label F → Prop
  | .configureStreams .. => False
  | _ => True

theorem step_output {F : Type} {s t : State} {a : Label F} (hst : Step s a t)
    (hok : NoConfiguration s a) : ∃ frames,
    t.device.output = { s.device.output with scaledYu12Frames := frames } := by
  unfold Step ofPartial at hst
  cases a with
  | configureStreams ar config blobBufferSize o => cases hok
  | round ar req o =>
    simp only [Rounds.State.step] at hst
    split at hst
    · cases hst
    · obtain ⟨f, hf, rfl⟩ := Option.map_eq_some_iff.mp hst
      exact processRequestLocked_snd ar s.device.croppingType f s.device.output req o
  | session device =>
    cases hst
    exact ⟨s.device.output.scaledYu12Frames, rfl⟩

theorem run_output {F : Type} {s t : State}
    (h : Reachable (restrict (Step (F := F)) NoConfiguration) s t) : ∃ frames,
    t.device.output = { s.device.output with scaledYu12Frames := frames } := by
  apply h.invariant (P := fun t ↦ ∃ frames,
    t.device.output = { s.device.output with scaledYu12Frames := frames })
  · intro t a u hst hcond
    obtain ⟨frames, hframes⟩ := hcond
    obtain ⟨frames', hframes'⟩ := step_output hst.1 hst.2
    exact ⟨frames', by rw [hframes', hframes]⟩
  · exact ⟨s.device.output.scaledYu12Frames, rfl⟩

theorem step_allocated {F : Type} {s t : State} {a : Label F} (hst : Step s a t)
    (hs : Allocated s.device.output.intermediateBuffers) :
    Allocated t.device.output.intermediateBuffers := by
  have hother (hok : NoConfiguration s a) : Allocated t.device.output.intermediateBuffers := by
    obtain ⟨frames, hframes⟩ := step_output hst hok
    rw [hframes]
    exact hs
  cases a with
  | configureStreams ar config blobBufferSize o =>
    obtain ⟨result, hresult, rfl⟩ := Option.map_eq_some_iff.mp hst
    exact configureStreams_allocated hs hresult
  | round ar req o => exact hother trivial
  | session device => exact hother trivial

theorem reachable_allocated {F : Type} {device : DeviceSession} {s : State}
    (h : Reachable (Step (F := F)) (State.create device) s) :
    Allocated s.device.output.intermediateBuffers := by
  apply h.invariant (P := fun s ↦ Allocated s.device.output.intermediateBuffers)
  · exact fun s a t hst hs ↦ step_allocated hst hs
  · exact .empty

/-! ### What an allocation covers -/

theorem allocate_keys {b b' : OutputBuffers} {v4lSize thumbSize : Size} {streams : List Stream}
    {blobBufferSize : ℕ}
    (h : b.allocateIntermediateBuffers v4lSize thumbSize streams blobBufferSize = (.ok, b'))
    (sz : Size) : sz ∈ b'.intermediateBuffers ↔
      (∃ stream ∈ streams, stream.size = sz) ∧ (sz = v4lSize → sz ∈ b.intermediateBuffers) := by
  have hpasses := allocate_intermediate b v4lSize thumbSize streams blobBufferSize
  rw [h] at hpasses
  obtain ⟨-, hfirst, he⟩ := hpasses.resolve_right fun hn ↦ hn.1 rfl
  rw [he, mem_removeUnconfigured]
  refine and_congr_right fun hc ↦ ?_
  by_cases hinput : sz = v4lSize
  · subst hinput
    rw [allocateScaled_input]
    exact ⟨fun hm _ ↦ hm, fun hm ↦ hm rfl⟩
  · obtain ⟨stream, hs, rfl⟩ := hc
    have hcovers := allocateScaled_covers (Prod.ext hfirst rfl) stream hs hinput
    exact ⟨fun _ he ↦ absurd he hinput, fun _ ↦ hcovers⟩

theorem cropAndScaleLocked_finds {F : Type*} (ar : AspectArith F) (ct : CroppingType)
    {b : OutputBuffers} {f : AllocatedFrame} {sz : Size}
    (h : sz ≠ ⟨f.width, f.height⟩ → sz ∈ b.intermediateBuffers) (i420Scale : Bool) :
    (cropAndScaleLocked ar ct b f sz i420Scale).1 ≠ .error .noIntermediateBuffer := by
  intro he
  by_cases hinput : sz = ⟨f.width, f.height⟩
  · unfold cropAndScaleLocked cropOnly at he
    rw [if_pos hinput.symm] at he
    cases hlayout : orError CropAndScaleError.inputLayout (getLayout f) with
    | error e =>
      obtain ⟨-, rfl⟩ := orError_eq_error.mp hlayout
      rw [hlayout] at he
      cases he
    | ok layout =>
      rw [hlayout] at he
      cases he
  · rcases cropAndScaleLocked_error he with he | he
    · rcases cropOnly_error he with he | ⟨e, he, -⟩ | ⟨he, -⟩ <;> cases he
    · rcases scaleInto_error he with ⟨-, -, hnone⟩ | he | he
      · exact AList.lookup_eq_none.mp hnone (h hinput)
      · cases he
      · cases he

/-- After a successful allocation, and until the next configuration, there is a buffer for
every configured size other than the input's and for no size that is not configured, each of
them allocated with its size. The size of the input keeps a buffer from before. -/
theorem intermediate_buffers_cover {F : Type} (device : DeviceSession) {s : State}
    (hs : Reachable (Step (F := F)) (State.create device) s) {v4lSize thumbSize : Size}
    {streams : List Stream} {blobBufferSize : ℕ} {output : OutputBuffers}
    (h : s.device.output.allocateIntermediateBuffers v4lSize thumbSize streams blobBufferSize =
      (.ok, output)) {t : State}
    (ht : Reachable (restrict (Step (F := F)) NoConfiguration)
      ⟨{ s.device with output := output }, s.exited⟩ t) :
    (∀ sz, sz ∈ t.device.output.intermediateBuffers ↔ (∃ stream ∈ streams, stream.size = sz) ∧
      (sz = v4lSize → sz ∈ s.device.output.intermediateBuffers)) ∧
    (∀ sz frame, t.device.output.intermediateBuffers.lookup sz = some frame →
      (AllocatedFrame.ofSize sz).allocate = (true, frame)) ∧
    ∃ f, t.device.output.yu12Frame = some f ∧ f.width = v4lSize.width ∧
      f.height = v4lSize.height ∧
      ∀ stream ∈ streams, ∀ (ar : AspectArith F) (ct : CroppingType) (i420Scale : Bool),
        (cropAndScaleLocked ar ct t.device.output f stream.size i420Scale).1 ≠
          .error .noIntermediateBuffer := by
  obtain ⟨frames, hframes⟩ := run_output ht
  have hbuffers : t.device.output.intermediateBuffers = output.intermediateBuffers := by
    rw [hframes]
  have hyu12 : t.device.output.yu12Frame = output.yu12Frame := by
    rw [hframes]
  have hkeys := allocate_keys h
  have hallocated := (reachable_allocated hs).allocate v4lSize thumbSize streams blobBufferSize
  rw [h] at hallocated
  obtain ⟨f, hf, hw, hh⟩ := allocate_yu12Frame h
  rw [hbuffers]
  refine ⟨hkeys, hallocated, f, hyu12.trans hf, hw, hh, fun stream hstream ar ct i420Scale ↦ ?_⟩
  apply cropAndScaleLocked_finds
  intro hne
  rw [hbuffers, hkeys]
  refine ⟨⟨stream, hstream, rfl⟩, fun hinput ↦ absurd ?_ hne⟩
  rw [hinput, hw, hh]

/-- A configuration that succeeds has made such an allocation. -/
theorem configured_keys {F : Type*} {ar : AspectArith F} {s s' : DeviceSession}
    {config : StreamConfiguration} {blobBufferSize : ℕ} {o : ConfigureOutcome}
    {out : List HalStream}
    (h : s.configureStreams ar config blobBufferSize o = some (.ok, out, s')) :
    ∃ f, s'.output.yu12Frame = some f ∧
      ∀ stream ∈ config.streams, stream.size ≠ ⟨f.width, f.height⟩ →
        stream.size ∈ s'.output.intermediateBuffers := by
  obtain ⟨-, maps, -, hprogram⟩ := configureStreams_ok ar h
  obtain ⟨-, fmt, v, -, halloc⟩ := program_ok ar hprogram
  obtain ⟨f, hf, hw, hh⟩ := allocate_yu12Frame halloc
  refine ⟨f, hf, fun stream hs hne ↦ (allocate_keys halloc stream.size).mpr ⟨⟨stream, hs, rfl⟩, ?_⟩⟩
  intro hinput
  rw [hinput, hw, hh] at hne
  exact absurd rfl hne

/-! ### A buffer for the size of the input -/

def smallStream : StreamConfiguration := ⟨[preview 3 640 480], .normalMode⟩

theorem intermediate_buffers_cover_twoStreams : ∃ output,
    (OutputBuffers.create.allocateIntermediateBuffers ⟨1280, 720⟩ ⟨320, 240⟩ twoStreams.streams
      0) = (.ok, output) ∧ ⟨640, 480⟩ ∈ output.intermediateBuffers := by
  have h : (OutputBuffers.create.allocateIntermediateBuffers ⟨1280, 720⟩ ⟨320, 240⟩
      twoStreams.streams 0).1 = .ok := by decide +kernel
  have hcover := intermediate_buffers_cover (F := ℚ) mjpegSession ⟨[], .nil _⟩
    (Prod.ext h rfl) ⟨[], .nil _⟩
  refine ⟨_, Prod.ext h rfl, (hcover.1 ⟨640, 480⟩).mpr ⟨⟨preview 3 640 480, ?_, rfl⟩, ?_⟩⟩
  · exact List.mem_cons_of_mem _ List.mem_cons_self
  · intro he
    cases he

/-- The larger stream goes, and the smaller one becomes the input: its buffer stays. -/
theorem input_size_keeps_buffer :
    ¬ ∀ (device s' : DeviceSession) (s : State) (config : StreamConfiguration)
      (o : ConfigureOutcome) (out : List HalStream),
      Reachable (Step (F := ℚ)) (State.create device) s →
      s.device.configureStreams .exact config 0 o = some (.ok, out, s') →
      ∀ f, s'.output.yu12Frame = some f →
      ∀ sz, sz ∈ s'.output.intermediateBuffers ↔
        (∃ stream ∈ config.streams, stream.size = sz) ∧ sz ≠ ⟨f.width, f.height⟩ := by
  intro hall
  have h : (exec Rounds.State.step (State.create mjpegSession)
      [.configureStreams .exact twoStreams 0 (driverSets 1280 720)]).map (fun s ↦
        (s.device.configureStreams .exact smallStream 0 (driverSets 640 480)).map fun r ↦
          (r.1, r.2.2.output.yu12Frame, r.2.2.output.intermediateBuffers.keys)) =
      some (some (.ok, some ⟨640, 480, 460800⟩, [⟨640, 480⟩])) := by decide +kernel
  obtain ⟨s, hreach, hs⟩ := exists_reachable_of_exec _ h
  obtain ⟨⟨status, out, s'⟩, hconfig, hr⟩ := Option.map_eq_some_iff.mp hs
  simp only [Prod.mk.injEq] at hr
  obtain ⟨rfl, hf, hkeys⟩ := hr
  have hmem : (⟨640, 480⟩ : Size) ∈ s'.output.intermediateBuffers := by
    rw [AList.mem_keys, hkeys]
    exact List.mem_cons_self
  exact ((hall _ _ s _ _ _ hreach hconfig _ hf ⟨640, 480⟩).mp hmem).2 rfl

end VirtualCamera.Session.Intermediate
