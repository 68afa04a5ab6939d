import Mathlib.Data.List.Infix
import VirtualCamera.Session.Streams

namespace VirtualCamera.Session.Configure

open Library.Assoc Capture Streams

/-! ### The edit of the maps -/

theorem requested_nil (id : ℤ) : ¬ Requested [] id := by
  intro h
  obtain ⟨stream, hs, -⟩ := h
  exact List.not_mem_nil hs

theorem requested_cons {stream : Stream} {streams : List Stream} {id : ℤ} :
    Requested (stream :: streams) id ↔ id = stream.id ∨ Requested streams id := by
  simp only [Requested, List.mem_cons, exists_eq_or_imp]

theorem mem_addStream {m : StreamMaps} {stream : Stream} {id : ℤ} :
    id ∈ (m.addStream stream).streamMap ↔ id = stream.id ∨ id ∈ m.streamMap := by
  unfold StreamMaps.addStream
  split
  · rename_i h
    constructor
    · exact .inr
    · intro hcond
      obtain rfl | hm := hcond
      · exact h
      · exact hm
  · exact AList.mem_insert m.streamMap

theorem lookup_addStream (m : StreamMaps) (stream : Stream) (id : ℤ) :
    (m.addStream stream).streamMap.lookup id =
      (m.streamMap.lookup id).or (if stream.id = id then some stream else none) := by
  unfold StreamMaps.addStream
  by_cases hid : stream.id = id
  · subst hid
    by_cases hm : stream.id ∈ m.streamMap
    · obtain ⟨entry, he⟩ := Option.isSome_iff_exists.mp (AList.lookup_isSome.mpr hm)
      simp [hm, he]
    · simp [hm, AList.lookup_eq_none.mpr hm]
  · by_cases hm : stream.id ∈ m.streamMap
    · simp [hm, hid]
    · simp [hm, hid, AList.lookup_insert_ne (Ne.symm hid)]

theorem buffers_addStream (m : StreamMaps) (stream : Stream) (id : ℤ) :
    (m.addStream stream).circulatingBuffers.lookup id =
      if id = stream.id ∧ id ∉ m.streamMap then some ((m.circulatingBuffers.lookup id).getD ∅)
      else m.circulatingBuffers.lookup id := by
  unfold StreamMaps.addStream
  by_cases hid : id = stream.id
  · subst hid
    by_cases hm : stream.id ∈ m.streamMap
    · simp [hm]
    · simp [hm, lookup_emplace]
  · by_cases hm : stream.id ∈ m.streamMap
    · simp [hm, hid]
    · simp [hm, hid, lookup_emplace_ne hid]

theorem addStream_freed (m : StreamMaps) (stream : Stream) :
    (m.addStream stream).freed = m.freed := by
  unfold StreamMaps.addStream
  split <;> rfl

theorem lookup_addStreams (m : StreamMaps) (streams : List Stream) (id : ℤ) :
    (m.addStreams streams).streamMap.lookup id =
      (m.streamMap.lookup id).or (streams.find? fun stream ↦ stream.id = id) := by
  induction streams generalizing m with
  | nil => exact (Option.or_none).symm
  | cons stream streams ih =>
    have he : m.addStreams (stream :: streams) = (m.addStream stream).addStreams streams := rfl
    rw [he, ih, lookup_addStream, Option.or_assoc, List.find?_cons]
    by_cases hid : stream.id = id
    · simp [hid]
    · simp [hid]

theorem buffers_addStreams (m : StreamMaps) (streams : List Stream) (id : ℤ) :
    (m.addStreams streams).circulatingBuffers.lookup id =
      if Requested streams id ∧ id ∉ m.streamMap then
        some ((m.circulatingBuffers.lookup id).getD ∅)
      else m.circulatingBuffers.lookup id := by
  induction streams generalizing m with
  | nil => simp [StreamMaps.addStreams, requested_nil]
  | cons stream streams ih =>
    have he : m.addStreams (stream :: streams) = (m.addStream stream).addStreams streams := rfl
    rw [he, ih]
    simp only [mem_addStream, buffers_addStream, requested_cons]
    by_cases hid : id = stream.id
    · simp [hid]
    · simp [hid]

theorem addStreams_freed (m : StreamMaps) (streams : List Stream) :
    (m.addStreams streams).freed = m.freed := by
  induction streams generalizing m with
  | nil => rfl
  | cons stream streams ih => exact (ih (m.addStream stream)).trans (addStream_freed m stream)

theorem keys_addStreams (m : StreamMaps) {streams added : List Stream} (h : added ⊆ streams) :
    (m.addStreams added).streamMap.keys.filter (fun id ↦ ¬ Requested streams id) =
      m.streamMap.keys.filter fun id ↦ ¬ Requested streams id := by
  induction added generalizing m with
  | nil => rfl
  | cons stream added ih =>
    obtain ⟨hs, ha⟩ := List.cons_subset.mp h
    have he : m.addStreams (stream :: added) = (m.addStream stream).addStreams added := rfl
    have hr : Requested streams stream.id := ⟨stream, hs, rfl⟩
    rw [he, ih (m.addStream stream) ha]
    unfold StreamMaps.addStream
    split
    · rfl
    · rename_i hm
      have hk : stream.id ∉ m.streamMap.keys := hm
      simp [AList.keys_insert, List.erase_of_not_mem hk, hr]

def StreamMaps.handles (m : StreamMaps) (id : ℤ) : List ℕ :=
  ((m.circulatingBuffers.lookup id).getD ∅).handles

theorem removeStreams_eq {m m' : StreamMaps} {streams : List Stream} {ids : List ℤ}
    (hn : ids.Nodup) (h : m.removeStreams streams ids = some m') :
    m' = {
      streamMap := eraseAll (ids.filter fun id ↦ ¬ Requested streams id) m.streamMap
      circulatingBuffers :=
        eraseAll (ids.filter fun id ↦ ¬ Requested streams id) m.circulatingBuffers
      freed := m.freed ++ (ids.filter fun id ↦ ¬ Requested streams id).flatMap
        (StreamMaps.handles m) } := by
  induction ids generalizing m with
  | nil => simpa [StreamMaps.removeStreams, eraseAll] using h.symm
  | cons id ids ih =>
    obtain ⟨hid, hn⟩ := List.nodup_cons.mp hn
    unfold StreamMaps.removeStreams at h
    by_cases hr : Requested streams id
    · rw [if_pos hr] at h
      simpa [hr] using ih hn h
    · rw [if_neg hr, Option.bind_eq_some_iff] at h
      obtain ⟨m₁, hc, h⟩ := h
      obtain ⟨buffers, hb, rfl⟩ := Option.map_eq_some_iff.mp hc
      rw [ih hn h]
      have hh : StreamMaps.handles m id = buffers.handles := by
        simp [StreamMaps.handles, hb]
      have hrest : ((ids.filter fun id ↦ ¬ Requested streams id).flatMap fun id' ↦
          StreamMaps.handles { m with
            streamMap := m.streamMap.erase id
            circulatingBuffers := m.circulatingBuffers.erase id
            freed := m.freed ++ buffers.handles } id') =
          (ids.filter fun id ↦ ¬ Requested streams id).flatMap (StreamMaps.handles m) := by
        apply List.flatMap_congr
        intro id' hid'
        have hne : id' ≠ id := by
          rintro rfl
          exact hid (List.mem_of_mem_filter hid')
        simp [StreamMaps.handles, AList.lookup_erase_ne hne]
      simp only [decide_not] at hrest
      simpa [hr, eraseAll, hh] using hrest

/-- What the edit makes of the maps: the entries of requested streams stay, new
streams come with an empty cache, and all others are taken out and their buffers freed. -/
structure Edited (streams : List Stream) (m m' : StreamMaps) : Prop where
  entries : ∀ id, m'.streamMap.lookup id =
    if Requested streams id then
      (m.streamMap.lookup id).or (streams.find? fun stream ↦ stream.id = id)
    else none
  buffers : ∀ id, m'.circulatingBuffers.lookup id =
    if id ∈ m.streamMap then
      if Requested streams id then m.circulatingBuffers.lookup id else none
    else if Requested streams id then some ((m.circulatingBuffers.lookup id).getD ∅)
    else m.circulatingBuffers.lookup id
  freed : m'.freed = m.freed ++
    (m.streamMap.keys.filter fun id ↦ ¬ Requested streams id).flatMap (StreamMaps.handles m)

theorem edit_edited {m m' : StreamMaps} {streams : List Stream} (h : m.edit streams = some m') :
    Edited streams m m' := by
  have hm := removeStreams_eq (AList.keys_nodup _) h
  have hkeys := keys_addStreams m (List.Subset.refl streams)
  rw [hkeys] at hm
  subst hm
  have hgone (id : ℤ) : id ∈ (m.streamMap.keys.filter fun id ↦ ¬ Requested streams id) ↔
      id ∈ m.streamMap ∧ ¬ Requested streams id := by
    simp [List.mem_filter, AList.mem_keys]
  constructor
  · intro id
    simp only [lookup_eraseAll, hgone, lookup_addStreams]
    by_cases hr : Requested streams id
    · simp [hr]
    · have hf : (streams.find? fun stream ↦ stream.id = id) = none := by
        rw [List.find?_eq_none]
        intro stream hs hid
        exact hr ⟨stream, hs, (of_decide_eq_true hid).symm⟩
      by_cases hid : id ∈ m.streamMap
      · simp [hr, hid]
      · simp [hr, hid, hf, AList.lookup_eq_none.mpr hid]
  · intro id
    simp only [lookup_eraseAll, hgone, buffers_addStreams]
    by_cases hr : Requested streams id
    · by_cases hid : id ∈ m.streamMap
      · simp [hr, hid]
      · simp [hr, hid]
    · by_cases hid : id ∈ m.streamMap
      · simp [hr, hid]
      · simp [hr, hid]
  · simp only [addStreams_freed]
    congr 1
    apply List.flatMap_congr
    intro id hid
    obtain ⟨hid, hr⟩ := (hgone id).mp hid
    simp [StreamMaps.handles, buffers_addStreams, hid]

/-! ### The steps after the edit -/

theorem overrideStreams_ok (maxBuffers : ℕ) {streams : List Stream}
    (h : ∀ stream ∈ streams, overrideFormat stream.format ≠ none) (streamMap : Map ℤ Stream) :
    (overrideStreams maxBuffers streamMap streams).1 = .ok := by
  induction streams generalizing streamMap with
  | nil => rfl
  | cons stream streams ih =>
    obtain ⟨format, hf⟩ := Option.ne_none_iff_exists'.mp (h stream List.mem_cons_self)
    simp only [overrideStreams, hf]
    exact ih (fun stream hs ↦ h stream (List.mem_cons_of_mem _ hs)) _

/-- The formats that pass the check are those the result knows. -/
theorem overrideFormat_of_supported {stream : Stream} {supportedFormats : List SupportedV4L2Format}
    {depthEnabled : Bool} (h : isSupported stream supportedFormats depthEnabled = true) :
    overrideFormat stream.format ≠ none := by
  have hf : isSupportedFormat stream depthEnabled = true := by
    simp only [isSupported, Bool.and_eq_true] at h
    exact h.1.2
  intro hn
  unfold isSupportedFormat at hf
  cases hformat : stream.format <;> simp_all [overrideFormat]

/-- No buffer is removed or replaced, and those added have a requested size. -/
structure KeptBuffers (streams : List Stream) (b b' : Map Size AllocatedFrame) : Prop where
  kept : ∀ sz frame, b.lookup sz = some frame → b'.lookup sz = some frame
  added : ∀ sz ∈ b', sz ∈ b ∨ ∃ stream ∈ streams, stream.size = sz

theorem KeptBuffers.refl (streams : List Stream) (b : Map Size AllocatedFrame) :
    KeptBuffers streams b b := ⟨fun _ _ h ↦ h, fun _ h ↦ .inl h⟩

theorem allocateScaled_kept (v4lSize : Size) (b : Map Size AllocatedFrame)
    (streams : List Stream) : KeptBuffers streams b (allocateScaled v4lSize b streams).2 := by
  induction streams generalizing b with
  | nil => exact .refl [] b
  | cons stream streams ih =>
    have hskip : KeptBuffers (stream :: streams) b (allocateScaled v4lSize b streams).2 := by
      refine ⟨(ih b).kept, fun sz hsz ↦ ?_⟩
      obtain hb | ⟨stream', hs, he⟩ := (ih b).added sz hsz
      · exact .inl hb
      · exact .inr ⟨stream', List.mem_cons_of_mem _ hs, he⟩
    unfold allocateScaled
    split
    · exact hskip
    · split
      · exact hskip
      · rename_i hnew
        split
        · exact .refl _ b
        · rename_i buf _
          refine ⟨fun sz frame hf ↦ ?_, fun sz hsz ↦ ?_⟩
          · apply (ih _).kept
            have hne : sz ≠ stream.size := by
              rintro rfl
              exact hnew (AList.lookup_isSome.mp (by rw [hf]; rfl))
            rw [AList.lookup_insert_ne hne, hf]
          · obtain hb | ⟨stream', hs, he⟩ := (ih _).added sz hsz
            · obtain he | hb := (AList.mem_insert b).mp hb
              · exact .inr ⟨stream, List.mem_cons_self, he.symm⟩
              · exact .inl hb
            · exact .inr ⟨stream', List.mem_cons_of_mem _ hs, he⟩

theorem allocateIntermediateBuffers_kept {b b' : OutputBuffers} {v4lSize thumbSize : Size}
    {streams : List Stream} {blobBufferSize : ℕ} {status : Status}
    (h : b.allocateIntermediateBuffers v4lSize thumbSize streams blobBufferSize = (status, b'))
    (hf : status ≠ .ok) :
    KeptBuffers streams b.intermediateBuffers b'.intermediateBuffers := by
  unfold OutputBuffers.allocateIntermediateBuffers at h
  split at h
  · cases h
    exact .refl streams _
  · split at h
    · cases h
      exact .refl streams _
    · dsimp only at h
      split at h
      · cases h
        exact .refl streams _
      · split at h
        · rename_i buffers ha
          cases h
          have hk := allocateScaled_kept v4lSize b.intermediateBuffers streams
          rw [ha] at hk
          exact hk
        · cases h
          exact absurd rfl hf

variable {F : Type*} (ar : AspectArith F)

def ReachesAllocation (s : DeviceSession) (config : StreamConfiguration) (o : ConfigureOutcome) :
    Prop :=
  (selectFormat ar s.croppingType config.streams s.supportedFormats).width ≠ 0 ∧
  (s.v4l2.configureV4l2StreamLocked
    (selectFormat ar s.croppingType config.streams s.supportedFormats) 0 o).1 = .ok () ∧
  s.thumbSize.area ≠ 0

theorem program_failed {s s' : DeviceSession} {config : StreamConfiguration} {blobBufferSize : ℕ}
    {o : ConfigureOutcome} {status : Status} {out : List HalStream}
    (hs : ∀ stream ∈ config.streams, overrideFormat stream.format ≠ none)
    (h : s.program ar config blobBufferSize o = (status, out, s')) (hf : status ≠ .ok) :
    s'.maps = s.maps ∧
    KeptBuffers config.streams s.output.intermediateBuffers s'.output.intermediateBuffers ∧
    (¬ ReachesAllocation ar s config o → s'.output = s.output) := by
  unfold DeviceSession.program at h
  dsimp only at h
  split at h
  · cases h
    exact ⟨rfl, .refl _ _, fun _ ↦ rfl⟩
  · rename_i hw
    split at h
    · cases h
      exact ⟨rfl, .refl _ _, fun _ ↦ rfl⟩
    · rename_i v4l2Fmt v hc
      split at h
      · cases h
        exact ⟨rfl, .refl _ _, fun _ ↦ rfl⟩
      · rename_i ht
        have hreach : ReachesAllocation ar s config o := ⟨hw, by rw [hc], ht⟩
        split at h
        · -- the allocation succeeded, and every format is known to the result
          rename_i output _
          have hok := overrideStreams_ok v.bufferCount hs s.maps.streamMap
          split at h
          · cases h
            exact absurd rfl hf
          · rename_i hne ho
            rw [ho] at hok
            exact (hne hok).elim
        · rename_i ha
          cases h
          exact ⟨rfl, allocateIntermediateBuffers_kept ha hf, fun hn ↦ absurd hreach hn⟩

def Admits (s : DeviceSession) (config : StreamConfiguration) : Prop :=
  isStreamCombinationSupported config s.supportedFormats s.depthEnabled = .ok ∧
  s.initStatus = .ok ∧ s.inflightFrames = ∅

theorem isSupported_of_combination {config : StreamConfiguration}
    {supportedFormats : List SupportedV4L2Format} {depthEnabled : Bool}
    (h : isStreamCombinationSupported config supportedFormats depthEnabled = .ok) :
    ∀ stream ∈ config.streams, isSupported stream supportedFormats depthEnabled = true := by
  unfold isStreamCombinationSupported at h
  split at h
  · cases h
  · split at h
    · cases h
    · split at h
      · cases h
      · rename_i hall
        exact List.all_eq_true.mp (not_not.mp hall)

theorem supported_of_admits {s : DeviceSession} {config : StreamConfiguration}
    (h : Admits s config) : ∀ stream ∈ config.streams, overrideFormat stream.format ≠ none :=
  fun stream hs ↦ overrideFormat_of_supported (isSupported_of_combination h.1 stream hs)

theorem configureStreams_failed {s s' : DeviceSession} {config : StreamConfiguration}
    {blobBufferSize : ℕ} {o : ConfigureOutcome} {status : Status} {out : List HalStream}
    (h : s.configureStreams ar config blobBufferSize o = some (status, out, s'))
    (hf : status ≠ .ok) :
    (¬ Admits s config → s' = s) ∧
    (Admits s config →
      Edited config.streams s.maps s'.maps ∧
      KeptBuffers config.streams s.output.intermediateBuffers s'.output.intermediateBuffers ∧
      (¬ ReachesAllocation ar s config o → s'.output = s.output)) := by
  unfold DeviceSession.configureStreams at h
  split at h
  · rename_i hc
    cases h
    exact ⟨fun _ ↦ rfl, fun ha ↦ absurd ha.1 hc⟩
  · rename_i hc
    split at h
    · rename_i hi
      cases h
      exact ⟨fun _ ↦ rfl, fun ha ↦ absurd ha.2.1 hi⟩
    · rename_i hi
      split at h
      · rename_i hin
        cases h
        exact ⟨fun _ ↦ rfl, fun ha ↦ absurd ha.2.2 hin⟩
      · rename_i hin
        have ha : Admits s config := ⟨not_not.mp hc, not_not.mp hi, not_not.mp hin⟩
        refine ⟨fun hn ↦ absurd ha hn, fun _ ↦ ?_⟩
        obtain ⟨maps, he, h⟩ := Option.map_eq_some_iff.mp h
        obtain ⟨hm, hk, ho⟩ := program_failed ar (supported_of_admits ha) h hf
        rw [hm]
        exact ⟨edit_edited he, hk, ho⟩

/-- A configuration that succeeds has set a format and allocated the buffers for it. -/
theorem program_ok {s s' : DeviceSession} {config : StreamConfiguration} {blobBufferSize : ℕ}
    {o : ConfigureOutcome} {out : List HalStream}
    (h : s.program ar config blobBufferSize o = (.ok, out, s')) :
    (selectFormat ar s.croppingType config.streams s.supportedFormats).width ≠ 0 ∧
    ∃ fmt v, s.v4l2.configureV4l2StreamLocked
        (selectFormat ar s.croppingType config.streams s.supportedFormats) 0 o = (.ok (), fmt, v) ∧
      s.output.allocateIntermediateBuffers ⟨fmt.width, fmt.height⟩ s.maxThumbResolution
        config.streams blobBufferSize = (.ok, s'.output) := by
  unfold DeviceSession.program at h
  dsimp only at h
  split at h
  · cases h
  · rename_i hw
    split at h
    · cases h
    · rename_i fmt v hc
      split at h
      · cases h
      · split at h
        · rename_i output ha
          refine ⟨hw, fmt, v, hc, ?_⟩
          split at h
          · cases h
            exact ha
          · cases h
            exact ha
        · rename_i hne ha
          cases h
          exact (hne rfl).elim

theorem configureStreams_ok {s s' : DeviceSession} {config : StreamConfiguration}
    {blobBufferSize : ℕ} {o : ConfigureOutcome} {out : List HalStream}
    (h : s.configureStreams ar config blobBufferSize o = some (.ok, out, s')) :
    Admits s config ∧ ∃ maps, s.maps.edit config.streams = some maps ∧
      { s with maps := maps }.program ar config blobBufferSize o = (.ok, out, s') := by
  unfold DeviceSession.configureStreams at h
  split at h
  · rename_i hc
    exact absurd (congrArg Prod.fst (Option.some.inj h)) hc
  · rename_i hc
    split at h
    · rename_i hi
      exact absurd (congrArg Prod.fst (Option.some.inj h)) hi
    · rename_i hi
      split at h
      · cases h
      · rename_i hin
        refine ⟨⟨not_not.mp hc, not_not.mp hi, not_not.mp hin⟩, ?_⟩
        exact Option.map_eq_some_iff.mp h

/-! ### A rejected configuration -/

def preview (id : ℤ) (width height : ℕ) : Stream :=
  ⟨id, .output, width, height, .implementationDefined, 0, 0, .rotation0⟩

def yuyv (width height : ℕ) : SupportedV4L2Format :=
  ⟨width, height, v4l2Fourcc 'Y' 'U' 'Y' 'V', [⟨1, 30⟩]⟩

/-- Stream 1 is configured and one buffer of it has been imported. -/
def configured : DeviceSession where
  supportedFormats := [yuyv 640 480, yuyv 1280 720]
  croppingType := .vertical
  depthEnabled := false
  thumbnailSizes := [⟨320, 240⟩]
  maxThumbResolution := ⟨320, 240⟩
  initFail := false
  closed := false
  firstRequest := false
  latestReqSetting := ⟨[]⟩
  inflightFrames := ∅
  maps := {
    streamMap := AList.singleton 1 (preview 1 1280 720)
    circulatingBuffers := AList.singleton 1 (AList.singleton 7 42)
    freed := [] }
  v4l2 := (State.create false false 4 2).v4l2
  blobBufferSize := 0
  output := ⟨none, none, ∅, ∅, 0⟩

/-- The largest width is that of stream 2 and the flattest ratio that of stream 3, and no
supported format has both. -/
def twoStreams : StreamConfiguration := ⟨[preview 2 1280 720, preview 3 640 480], .normalMode⟩

def unused : ConfigureOutcome where
  streamOff := ⟨true, true⟩
  sFmt := true
  width := 0
  height := 0
  sizeimage := 0
  reqbufs := none
  querybuf := fun _ ↦ true
  qbuf := fun _ ↦ true
  streamOn := true
  warmupDqbuf := fun _ ↦ none
  warmupQbuf := fun _ ↦ true

theorem configure_twoStreams :
    ∃ out s', configured.configureStreams .exact twoStreams 0 unused =
        some (.illegalArgument, out, s') ∧
      s'.maps.streamMap.lookup 1 = none ∧ s'.maps.freed = [42] := by
  have h : (configured.configureStreams .exact twoStreams 0 unused).map (fun r ↦
      (r.1, r.2.2.maps.streamMap.lookup 1, r.2.2.maps.freed)) =
      some (.illegalArgument, none, [42]) := by decide +kernel
  obtain ⟨⟨status, out, s'⟩, hs, he⟩ := Option.map_eq_some_iff.mp h
  simp only [Prod.mk.injEq] at he
  obtain ⟨rfl, hl, hf⟩ := he
  exact ⟨out, s', hs, hl, hf⟩

theorem admits_twoStreams : Admits configured twoStreams :=
  ⟨by decide +kernel, by decide, by decide⟩

theorem configureStreams_failed_twoStreams :
    ∃ s' : DeviceSession, Edited twoStreams.streams configured.maps s'.maps ∧
      s'.output = configured.output := by
  obtain ⟨out, s', h, -, -⟩ := configure_twoStreams
  obtain ⟨he, -, ho⟩ := (configureStreams_failed .exact h (by decide)).2 admits_twoStreams
  have hn : ¬ ReachesAllocation .exact configured twoStreams unused := by
    intro hr
    exact hr.1 (by decide +kernel)
  exact ⟨s', he, ho hn⟩

theorem rejected_configuration_edits :
    ¬ ∀ (s s' : DeviceSession) (config : StreamConfiguration) (blobBufferSize : ℕ)
      (o : ConfigureOutcome) (status : Status) (out : List HalStream),
      s.configureStreams .exact config blobBufferSize o = some (status, out, s') → status ≠ .ok →
      s'.maps.streamMap = s.maps.streamMap ∧
      s'.maps.circulatingBuffers = s.maps.circulatingBuffers ∧
      s'.output.intermediateBuffers = s.output.intermediateBuffers := by
  intro hall
  obtain ⟨out, s', h, hl, -⟩ := configure_twoStreams
  obtain ⟨hm, -, -⟩ := hall _ _ _ _ _ _ _ h (by decide)
  rw [hm] at hl
  exact absurd hl (by decide)

end VirtualCamera.Session.Configure
