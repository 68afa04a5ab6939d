import Mathlib.Tactic.Abel
import VirtualCamera.Session.Caches
import VirtualCamera.Session.Rounds

namespace VirtualCamera.Session.CacheKeys

open Library.Assoc Library.Transition Streams Configure Request Caches
open Capture hiding State Label

/-! ### The handles in the caches -/

def cached (m : Map ℤ CirculatingBuffers) : Multiset ℕ := (values m).bind values

theorem cached_insert (id : ℤ) (cbs : CirculatingBuffers) (m : Map ℤ CirculatingBuffers) :
    cached (m.insert id cbs) = values cbs + cached (m.erase id) := by
  unfold cached
  rw [values_insert, Multiset.cons_bind]

theorem cached_of_lookup {id : ℤ} {cbs : CirculatingBuffers} {m : Map ℤ CirculatingBuffers}
    (h : m.lookup id = some cbs) : cached m = values cbs + cached (m.erase id) := by
  unfold cached
  rw [values_of_lookup h, Multiset.cons_bind]

theorem cached_emplace (id : ℤ) (m : Map ℤ CirculatingBuffers) :
    cached (emplace id ∅ m) = cached m := by
  unfold cached
  rw [values_emplace]
  split
  · rfl
  · rw [Multiset.cons_bind]
    exact Multiset.zero_add _

/-- Every handle imported so far is in a cache, or has been freed once. -/
def Accounted (c : Handles) : Prop :=
  cached c.maps.circulatingBuffers + c.maps.freed = Multiset.range c.imported

/-- The unchecked lookups of the clean-up are for streams of the map. -/
def Keyed (m : StreamMaps) : Prop := ∀ id ∈ m.streamMap, id ∈ m.circulatingBuffers

/-! ### Imports -/

structure Grows (c c' : Handles) : Prop where
  streamMap : c'.maps.streamMap = c.maps.streamMap
  freed : c'.maps.freed = c.maps.freed
  keys : ∀ id ∈ c.maps.circulatingBuffers, id ∈ c'.maps.circulatingBuffers
  accounted : Accounted c → Accounted c'

theorem Grows.refl (c : Handles) : Grows c c := ⟨rfl, rfl, fun _ h ↦ h, fun h ↦ h⟩

theorem Grows.trans {c c' c'' : Handles} (h : Grows c c') (h' : Grows c' c'') : Grows c c'' :=
  ⟨h'.streamMap.trans h.streamMap, h'.freed.trans h.freed,
    fun id hid ↦ h'.keys id (h.keys id hid), fun ha ↦ h'.accounted (h.accounted ha)⟩

theorem mem_emplace {id id' : ℤ} {m : Map ℤ CirculatingBuffers} :
    id' ∈ emplace id ∅ m ↔ id' = id ∨ id' ∈ m := by
  unfold emplace
  split
  · rename_i h
    exact ⟨.inr, fun hid ↦ hid.elim (fun he ↦ he ▸ h) fun hm ↦ hm⟩
  · exact AList.mem_insert m

theorem grows_emplace (c : Handles) (id : ℤ) :
    Grows c { c with
      maps := { c.maps with circulatingBuffers := emplace id ∅ c.maps.circulatingBuffers } } := by
  refine ⟨rfl, rfl, fun id' hid ↦ mem_emplace.mpr (.inr hid), fun ha ↦ ?_⟩
  unfold Accounted
  rw [cached_emplace]
  exact ha

theorem importBufferImpl_grows (c : Handles) (buf : OutputBuffer) (o : Import) :
    Grows c (importBufferImpl c buf o).2 := by
  have hemplace := grows_emplace c buf.streamId
  unfold importBufferImpl
  split
  · exact .refl c
  · dsimp only
    split
    · exact hemplace
    · rename_i hnew
      split
      · exact hemplace
      · split
        · exact hemplace
        · refine hemplace.trans ⟨rfl, rfl, fun id hid ↦ ?_, fun ha ↦ ?_⟩
          · exact (AList.mem_insert _).mpr (.inr hid)
          · have hlookup := lookup_emplace buf.streamId ∅ c.maps.circulatingBuffers
            have hfresh := AList.lookup_eq_none.mp hnew
            unfold Accounted at ha ⊢
            rw [cached_of_lookup hlookup] at ha
            rw [cached_insert, values_insert, erase_of_notMem hfresh, Multiset.cons_add,
              Multiset.cons_add, ha, Multiset.range_succ]

theorem importBufferImpl_ok {c : Handles} {buf : OutputBuffer} {o : Import} {handle : ℕ}
    (h : (importBufferImpl c buf o).1 = .ok handle) :
    buf.streamId ∈ (importBufferImpl c buf o).2.maps.circulatingBuffers := by
  have hemplace : buf.streamId ∈ emplace buf.streamId ∅ c.maps.circulatingBuffers :=
    mem_emplace.mpr (.inl rfl)
  unfold importBufferImpl at h ⊢
  split at h
  · cases h
  · rename_i hgiven
    rw [if_neg hgiven]
    dsimp only at h ⊢
    split
    · exact hemplace
    · split
      · exact hemplace
      · split
        · exact hemplace
        · exact (AList.mem_insert _).mpr (.inl rfl)

theorem importBuffers_grows (o : ℕ → Import) (c : Handles) (i : ℕ) (bufs : List OutputBuffer) :
    Grows c (importBuffers o c i bufs).2 := by
  induction bufs generalizing c i with
  | nil => exact .refl c
  | cons buf rest ih =>
    have hone := importBufferImpl_grows c buf (o i)
    unfold importBuffers
    split
    · rename_i hresult
      rw [hresult] at hone
      exact hone
    · rename_i c' hresult
      rw [hresult] at hone
      exact hone.trans (ih c' (i + 1))

theorem importBuffers_ok {o : ℕ → Import} {c : Handles} {i : ℕ} {bufs : List OutputBuffer}
    {handles : List ℕ} (h : (importBuffers o c i bufs).1 = .ok handles) :
    ∀ buf ∈ bufs, buf.streamId ∈ (importBuffers o c i bufs).2.maps.circulatingBuffers := by
  induction bufs generalizing c i handles with
  | nil => exact fun buf hbuf ↦ absurd hbuf List.not_mem_nil
  | cons buf rest ih =>
    unfold importBuffers at h ⊢
    split at h
    · cases h
    · rename_i handle c' hresult
      have hfirst := importBufferImpl_ok (congrArg Prod.fst hresult)
      rw [hresult] at hfirst
      dsimp only at h ⊢
      cases hrest : (importBuffers o c' (i + 1) rest).1 with
      | error status =>
        rw [hrest] at h
        cases h
      | ok handles' =>
        rw [List.forall_mem_cons]
        exact ⟨(importBuffers_grows o c' (i + 1) rest).keys _ hfirst, ih hrest⟩

theorem importRequestLockedImpl_grows (c : Handles) (bufs : List OutputBuffer) (o : ℕ → Import) :
    Grows c (importRequestLockedImpl c bufs o).2 := by
  have hall := importBuffers_grows o c 0 bufs
  unfold importRequestLockedImpl
  split
  · rename_i hresult
    rw [hresult] at hall
    exact hall
  · rename_i hresult
    rw [hresult] at hall
    split <;> exact hall

theorem importRequestLockedImpl_ok {c c' : Handles} {bufs : List OutputBuffer} {o : ℕ → Import}
    {handles : List ℕ} (h : importRequestLockedImpl c bufs o = (.ok handles, c')) :
    ∀ buf ∈ bufs, buf.streamId ∈ c'.maps.circulatingBuffers := by
  unfold importRequestLockedImpl at h
  split at h
  · cases h
  · rename_i hresult
    have hkeys := importBuffers_ok (congrArg Prod.fst hresult)
    rw [hresult] at hkeys
    split at h
    · cases h
      exact hkeys
    · cases h

/-! ### Requests -/

theorem mem_fillBuffers {o : RequestOutcome} {streamMap : Map ℤ Stream} {i : ℕ}
    {bufs : List OutputBuffer} {id : ℤ} (h : id ∈ (fillBuffers o streamMap i bufs).2) :
    id ∈ streamMap ∨ ∃ buf ∈ bufs, buf.streamId = id := by
  induction bufs generalizing streamMap i with
  | nil => exact .inl h
  | cons buf rest ih =>
    rcases ih h with h | ⟨buf', hmem, he⟩
    · by_cases hid : id = buf.streamId
      · exact .inr ⟨buf, List.mem_cons_self, hid.symm⟩
      · refine .inl (AList.lookup_isSome.mp ?_)
        have hlookup : ((emplace buf.streamId default streamMap).lookup id).isSome :=
          AList.lookup_isSome.mpr h
        rwa [lookup_emplace_ne hid] at hlookup
    · exact .inr ⟨buf', List.mem_cons_of_mem _ hmem, he⟩

/-- What holds of the maps between the calls: the handles are accounted for, and until
the session is closed every stream has a cache. -/
structure Good (s : State) : Prop where
  keyed : s.device.closed = false → Keyed s.device.maps
  accounted : Accounted s.caches

theorem Good.of_caches {s t : State} (h : Good s) (hcaches : t.caches = s.caches)
    (hclosed : t.device.closed = s.device.closed) : Good t := by
  have hmaps : t.device.maps = s.device.maps := congrArg Handles.maps hcaches
  refine ⟨fun hopen ↦ ?_, ?_⟩
  · rw [hmaps]
    exact h.keyed (hclosed ▸ hopen)
  · rw [hcaches]
    exact h.accounted

theorem Good.setCaches {s : State} (h : Good s) {c : Handles} (hc : Grows s.caches c) :
    Good (s.setCaches c) := by
  refine ⟨fun hopen id hid ↦ hc.keys id (h.keyed hopen id ?_), hc.accounted h.accounted⟩
  rw [← show c.maps.streamMap = s.device.maps.streamMap from hc.streamMap]
  exact hid

theorem Good.buildRequest {s : State} (h : Good s) (id : ℕ) (request : CaptureRequest)
    (o : RequestOutcome) (im : ℕ → Import) : Good (s.buildRequest id request o im).2.2 := by
  unfold State.buildRequest
  split
  · exact h
  · split
    · exact h
    · rename_i device hfps
      obtain ⟨hmaps, hclosed⟩ := adjustFps_maps hfps
      have hdevice : Good { s with device := device } := by
        refine h.of_caches ?_ hclosed
        unfold State.caches
        rw [hmaps]
      have hgrows := importRequestLockedImpl_grows (State.caches { s with device := device })
        request.outputBuffers im
      dsimp only
      split
      · rename_i hresult
        rw [hresult] at hgrows
        exact hdevice.setCaches hgrows
      · rename_i c hresult
        rw [hresult] at hgrows
        have himported := hdevice.setCaches hgrows
        have hcached := importRequestLockedImpl_ok hresult
        split
        · exact himported
        · refine ⟨fun hopen id hid ↦ ?_, himported.accounted⟩
          rcases mem_fillBuffers hid with hid | ⟨buf, hbuf, rfl⟩
          · exact himported.keyed hopen id hid
          · exact hcached buf hbuf

theorem Good.processOneCaptureRequest {s : State} (h : Good s) (id : ℕ)
    (request : CaptureRequest) (o : RequestOutcome) (im : ℕ → Import) :
    Good (s.processOneCaptureRequest id request o im).2.2 := by
  unfold State.processOneCaptureRequest
  split
  · exact h
  · split
    · exact h
    · split
      · exact h
      · split
        · exact h
        · split
          · exact h
          · exact h.buildRequest id request o im
        · apply Good.buildRequest
          exact h.of_caches rfl rfl

theorem Good.processRequests {s : State} (h : Good s) (id : ℕ) (calls : List RequestCall) :
    Good (s.processRequests id calls).2.2.2 := by
  induction calls generalizing s id with
  | nil => exact h
  | cons call calls ih =>
    have hone := h.processOneCaptureRequest id call.request call.outcome call.imports
    unfold State.processRequests
    split
    · rename_i s' hresult
      rw [hresult] at hone
      apply ih
      exact hone.of_caches rfl rfl
    · rename_i hresult
      rw [hresult] at hone
      exact hone

/-! ### The removal of caches -/

theorem updateBufferCache_keys (m : StreamMaps) (cache : BufferCache) (id : ℤ) :
    id ∈ (StreamMaps.updateBufferCache m cache).circulatingBuffers ↔
      id ∈ m.circulatingBuffers := by
  unfold StreamMaps.updateBufferCache
  split
  · exact Iff.rfl
  · rename_i cbs hcbs
    split
    · exact Iff.rfl
    · rw [AList.mem_insert]
      have hmem := AList.lookup_isSome.mp (Option.isSome_of_eq_some hcbs)
      exact ⟨fun h ↦ h.elim (fun he ↦ he ▸ hmem) fun hm ↦ hm, .inr⟩

theorem updateBufferCache_streamMap (m : StreamMaps) (cache : BufferCache) :
    (StreamMaps.updateBufferCache m cache).streamMap = m.streamMap := by
  unfold StreamMaps.updateBufferCache
  split
  · rfl
  · split <;> rfl

theorem updateBufferCache_cached (m : StreamMaps) (cache : BufferCache) :
    cached (StreamMaps.updateBufferCache m cache).circulatingBuffers +
        (StreamMaps.updateBufferCache m cache).freed =
      cached m.circulatingBuffers + m.freed := by
  unfold StreamMaps.updateBufferCache
  split
  · rfl
  · rename_i cbs hcbs
    split
    · rfl
    · rename_i handle hhandle
      dsimp only
      rw [cached_insert, cached_of_lookup hcbs, values_of_lookup hhandle, ← Multiset.coe_add,
        ← Multiset.singleton_add, Multiset.coe_singleton]
      abel

theorem Good.updateBufferCaches {s : State} (h : Good s) (cachesToRemove : List BufferCache) :
    Good { s with
      device := { s.device with
        maps := StreamMaps.updateBufferCaches s.device.maps cachesToRemove } } := by
  induction cachesToRemove generalizing s with
  | nil => exact h.of_caches rfl rfl
  | cons cache cachesToRemove ih =>
    apply ih (s := { s with
      device := { s.device with maps := StreamMaps.updateBufferCache s.device.maps cache } })
    refine ⟨fun hopen id hid ↦ ?_, ?_⟩
    · rw [updateBufferCache_keys]
      rw [updateBufferCache_streamMap] at hid
      exact h.keyed hopen id hid
    · exact (updateBufferCache_cached s.device.maps cache).trans h.accounted

theorem Good.processCaptureRequest {s : State} (h : Good s) (id : ℕ) (calls : List RequestCall)
    (cachesToRemove : List BufferCache) :
    Good (s.processCaptureRequest id calls cachesToRemove).2.2.2 := by
  apply Good.processRequests
  exact h.updateBufferCaches cachesToRemove

/-! ### The clean-up of streams -/

theorem cleanupBuffersLocked_cached {m m' : StreamMaps} {id : ℤ}
    (h : m.cleanupBuffersLocked id = some m') :
    cached m'.circulatingBuffers + m'.freed = cached m.circulatingBuffers + m.freed := by
  obtain ⟨buffers, hbuffers, rfl⟩ := Option.map_eq_some_iff.mp h
  have hvalues : (buffers.handles : Multiset ℕ) = values buffers := rfl
  dsimp only
  rw [cached_of_lookup hbuffers, ← Multiset.coe_add, hvalues]
  abel

/-- The lookup for the first of several streams with caches does not fail, and leaves the
caches of the others. -/
theorem cleanupBuffersLocked_some {m : StreamMaps} {id : ℤ} {ids : List ℤ}
    (hnodup : (id :: ids).Nodup) (h : ∀ id' ∈ id :: ids, id' ∈ m.circulatingBuffers) :
    ∃ m', m.cleanupBuffersLocked id = some m' ∧ ∀ id' ∈ ids, id' ∈ m'.circulatingBuffers := by
  obtain ⟨hid, h⟩ := List.forall_mem_cons.mp h
  obtain ⟨buffers, hbuffers⟩ := Option.isSome_iff_exists.mp (AList.lookup_isSome.mpr hid)
  refine ⟨_, Option.map_eq_some_iff.mpr ⟨buffers, hbuffers, rfl⟩, fun id' hid' ↦ ?_⟩
  have hne : id' ≠ id := fun he ↦ (List.nodup_cons.mp hnodup).1 (he ▸ hid')
  exact AList.mem_erase.mpr ⟨hne, h id' hid'⟩

theorem removeStreams_cached {m m' : StreamMaps} {streams : List Stream} {ids : List ℤ}
    (h : m.removeStreams streams ids = some m') :
    cached m'.circulatingBuffers + m'.freed = cached m.circulatingBuffers + m.freed := by
  induction ids generalizing m with
  | nil =>
    cases h
    rfl
  | cons id ids ih =>
    unfold StreamMaps.removeStreams at h
    split at h
    · exact ih h
    · obtain ⟨m₁, hclean, h⟩ := Option.bind_eq_some_iff.mp h
      have hone := cleanupBuffersLocked_cached hclean
      exact (ih h).trans hone

theorem removeStreams_some {m : StreamMaps} {streams : List Stream} {ids : List ℤ}
    (hnodup : ids.Nodup) (h : ∀ id ∈ ids, id ∈ m.circulatingBuffers) :
    ∃ m', m.removeStreams streams ids = some m' := by
  induction ids generalizing m with
  | nil => exact ⟨m, rfl⟩
  | cons id ids ih =>
    unfold StreamMaps.removeStreams
    split
    · exact ih hnodup.of_cons (List.forall_mem_cons.mp h).2
    · obtain ⟨m₁, hclean, hkeys⟩ := cleanupBuffersLocked_some hnodup h
      rw [hclean]
      exact ih hnodup.of_cons hkeys

theorem cleanupAll_cached {m m' : StreamMaps} {ids : List ℤ}
    (h : StreamMaps.cleanupAll m ids = some m') :
    cached m'.circulatingBuffers + m'.freed = cached m.circulatingBuffers + m.freed := by
  induction ids generalizing m with
  | nil =>
    cases h
    rfl
  | cons id ids ih =>
    obtain ⟨m₁, hclean, h⟩ := Option.bind_eq_some_iff.mp h
    exact (ih h).trans (cleanupBuffersLocked_cached hclean)

theorem cleanupAll_some {m : StreamMaps} {ids : List ℤ} (hnodup : ids.Nodup)
    (h : ∀ id ∈ ids, id ∈ m.circulatingBuffers) : ∃ m', StreamMaps.cleanupAll m ids = some m' := by
  induction ids generalizing m with
  | nil => exact ⟨m, rfl⟩
  | cons id ids ih =>
    obtain ⟨m₁, hclean, hkeys⟩ := cleanupBuffersLocked_some hnodup h
    unfold StreamMaps.cleanupAll
    rw [hclean]
    exact ih hnodup.of_cons hkeys

/-! ### Configurations -/

theorem addStreams_cached (m : StreamMaps) (streams : List Stream) :
    cached (m.addStreams streams).circulatingBuffers = cached m.circulatingBuffers := by
  induction streams generalizing m with
  | nil => rfl
  | cons stream streams ih =>
    refine (ih (m.addStream stream)).trans ?_
    unfold StreamMaps.addStream
    split
    · rfl
    · exact cached_emplace stream.id m.circulatingBuffers

theorem edit_cached {m m' : StreamMaps} {streams : List Stream} (h : m.edit streams = some m') :
    cached m'.circulatingBuffers + m'.freed = cached m.circulatingBuffers + m.freed := by
  have hremoved := removeStreams_cached h
  rw [addStreams_cached, addStreams_freed] at hremoved
  exact hremoved

theorem Keyed.addStream {m : StreamMaps} (h : Keyed m) (stream : Stream) :
    Keyed (m.addStream stream) := by
  intro id hid
  rw [← AList.lookup_isSome, buffers_addStream]
  split
  · rfl
  · rename_i hold
    rcases mem_addStream.mp hid with rfl | hid
    · exact AList.lookup_isSome.mpr (h _ (by_contra fun hnew ↦ hold ⟨rfl, hnew⟩))
    · exact AList.lookup_isSome.mpr (h id hid)

theorem Keyed.addStreams {m : StreamMaps} (h : Keyed m) (streams : List Stream) :
    Keyed (m.addStreams streams) := by
  induction streams generalizing m with
  | nil => exact h
  | cons stream streams ih => exact ih (h.addStream stream)

theorem Keyed.edit {m : StreamMaps} (h : Keyed m) (streams : List Stream) :
    ∃ m', m.edit streams = some m' ∧ Keyed m' ∧
      ∀ id, Requested streams id → id ∈ m'.circulatingBuffers := by
  obtain ⟨m', hm'⟩ : ∃ m', m.edit streams = some m' := by
    apply removeStreams_some (AList.keys_nodup (m.addStreams streams).streamMap)
    exact fun id hid ↦ h.addStreams streams id (AList.mem_keys.mpr hid)
  have hedited := edit_edited hm'
  have hcached (id : ℤ) (hr : Requested streams id) : id ∈ m'.circulatingBuffers := by
    rw [← AList.lookup_isSome, hedited.buffers, if_pos hr, if_pos hr]
    split
    · rename_i hid
      exact AList.lookup_isSome.mpr (h id hid)
    · rfl
  refine ⟨m', hm', fun id hid ↦ ?_, hcached⟩
  by_cases hr : Requested streams id
  · exact hcached id hr
  · have hlookup := AList.lookup_isSome.mpr hid
    rw [hedited.entries, if_neg hr] at hlookup
    cases hlookup

theorem mem_overrideStreams {maxBuffers : ℕ} {streamMap : Map ℤ Stream} {streams : List Stream}
    {id : ℤ} (h : id ∈ (overrideStreams maxBuffers streamMap streams).2.2) :
    id ∈ streamMap ∨ Requested streams id := by
  induction streams generalizing streamMap with
  | nil => exact .inl h
  | cons stream streams ih =>
    have hinsert {entry : Stream} (h : id ∈ streamMap.insert stream.id entry) :
        id ∈ streamMap ∨ Requested (stream :: streams) id := by
      rcases (AList.mem_insert streamMap).mp h with rfl | h
      · exact .inr ⟨stream, List.mem_cons_self, rfl⟩
      · exact .inl h
    unfold overrideStreams at h
    dsimp only at h
    split at h
    · exact hinsert h
    · rcases ih h with h | ⟨stream', hs, he⟩
      · exact hinsert h
      · exact .inr ⟨stream', List.mem_cons_of_mem _ hs, he⟩

/-- After the edit a configuration works on the entries of the streams alone. -/
theorem program_maps {F : Type*} (ar : AspectArith F) (s : DeviceSession)
    (config : StreamConfiguration) (blobBufferSize : ℕ) (o : ConfigureOutcome) :
    let s' := (s.program ar config blobBufferSize o).2.2
    s'.closed = s.closed ∧ ∃ streamMap, s'.maps = { s.maps with streamMap := streamMap } ∧
      ∀ id ∈ streamMap, id ∈ s.maps.streamMap ∨ Requested config.streams id := by
  have hsame : ∃ streamMap, s.maps = { s.maps with streamMap := streamMap } ∧
      ∀ id ∈ streamMap, id ∈ s.maps.streamMap ∨ Requested config.streams id :=
    ⟨s.maps.streamMap, rfl, fun id h ↦ .inl h⟩
  unfold DeviceSession.program
  dsimp only
  split
  · exact ⟨rfl, hsame⟩
  · split
    · exact ⟨rfl, hsame⟩
    · rename_i v4l2Fmt v _
      split
      · exact ⟨rfl, hsame⟩
      · split
        · have hmem (id : ℤ) :
              id ∈ (overrideStreams v.bufferCount s.maps.streamMap config.streams).2.2 →
                id ∈ s.maps.streamMap ∨ Requested config.streams id := mem_overrideStreams
          split
          · rename_i hresult
            rw [hresult] at hmem
            exact ⟨rfl, _, rfl, hmem⟩
          · rename_i hresult
            rw [hresult] at hmem
            exact ⟨rfl, _, rfl, hmem⟩
        · exact ⟨rfl, hsame⟩

/-- An open session with keyed maps does not throw, and goes on with keyed maps. -/
theorem Good.configureStreams {F : Type*} {s : State} (h : Good s) (ar : AspectArith F)
    (config : StreamConfiguration) (blobBufferSize : ℕ) (o : ConfigureOutcome) :
    ∃ result, s.device.configureStreams ar config blobBufferSize o = some result ∧
      Good { s with device := result.2.2 } := by
  unfold DeviceSession.configureStreams
  split
  · exact ⟨_, rfl, h.of_caches rfl rfl⟩
  · split
    · exact ⟨_, rfl, h.of_caches rfl rfl⟩
    · rename_i hinit
      split
      · exact ⟨_, rfl, h.of_caches rfl rfl⟩
      · have hopen : s.device.closed = false := by
          by_contra hclosed
          exact hinit (fun hok ↦ by simp [DeviceSession.initStatus, hclosed] at hok)
        obtain ⟨maps, hedit, hkeyed, hrequested⟩ := (h.keyed hopen).edit config.streams
        obtain ⟨hclosed, streamMap, hmaps, hmem⟩ := program_maps ar
          { s.device with maps := maps } config blobBufferSize o
        refine ⟨_, Option.map_eq_some_iff.mpr ⟨maps, hedit, rfl⟩, ?_, ?_⟩
        · intro _ id hid
          rw [hmaps] at hid ⊢
          exact (hmem id hid).elim (hkeyed id) (hrequested id)
        · unfold Accounted State.caches
          dsimp only
          rw [hmaps]
          exact (edit_cached hedit).trans h.accounted

/-! ### Closing -/

theorem Good.close {s : State} (h : Good s) (o : StreamOffOutcome) :
    ∃ device, DeviceSession.close s.device o = some device ∧
      Good { s with device := device } := by
  unfold DeviceSession.close
  split
  · exact ⟨s.device, rfl, h⟩
  · rename_i hopen
    obtain ⟨maps, hclean⟩ := cleanupAll_some (AList.keys_nodup s.device.maps.streamMap)
      fun id hid ↦ h.keyed (by simpa using hopen) id (AList.mem_keys.mpr hid)
    refine ⟨_, Option.map_eq_some_iff.mpr ⟨maps, hclean, rfl⟩, nofun, ?_⟩
    exact (cleanupAll_cached hclean).trans h.accounted

theorem cleanupAll_freed {m m' : StreamMaps} {ids : List ℤ}
    (h : StreamMaps.cleanupAll m ids = some m') {handle : ℕ} (hfreed : handle ∈ m.freed) :
    handle ∈ m'.freed := by
  induction ids generalizing m with
  | nil =>
    cases h
    exact hfreed
  | cons id ids ih =>
    obtain ⟨m₁, hclean, h⟩ := Option.bind_eq_some_iff.mp h
    obtain ⟨buffers, -, rfl⟩ := Option.map_eq_some_iff.mp hclean
    exact ih h (List.mem_append_left _ hfreed)

theorem cleanupAll_frees {m m' : StreamMaps} {ids : List ℤ} (hnodup : ids.Nodup)
    (h : StreamMaps.cleanupAll m ids = some m') {id : ℤ} (hid : id ∈ ids)
    {cbs : CirculatingBuffers} (hcbs : m.circulatingBuffers.lookup id = some cbs) {handle : ℕ}
    (hhandle : handle ∈ cbs.handles) : handle ∈ m'.freed := by
  induction ids generalizing m with
  | nil => exact absurd hid List.not_mem_nil
  | cons id' ids ih =>
    obtain ⟨hfirst, hnodup⟩ := List.nodup_cons.mp hnodup
    obtain ⟨m₁, hclean, h⟩ := Option.bind_eq_some_iff.mp h
    obtain ⟨buffers, hbuffers, rfl⟩ := Option.map_eq_some_iff.mp hclean
    rcases List.mem_cons.mp hid with rfl | hid
    · cases hbuffers.symm.trans hcbs
      exact cleanupAll_freed h (List.mem_append_right _ hhandle)
    · have hne : id ≠ id' := fun he ↦ hfirst (he ▸ hid)
      refine ih hnodup h hid ?_
      rw [AList.lookup_erase_ne hne]
      exact hcbs

/-! ### Every run -/

theorem Good.create (device : DeviceSession) : Good (State.create device) :=
  ⟨fun _ id hid ↦ absurd hid (AList.notMem_empty id), rfl⟩

theorem Good.step {F : Type} {s : State} (h : Good s) (l : Label F) :
    ∃ t, s.step l = some t ∧ Good t := by
  cases l with
  | configureStreams ar config blobBufferSize o =>
    obtain ⟨result, hresult, hgood⟩ := h.configureStreams ar config blobBufferSize o
    exact ⟨_, Option.map_eq_some_iff.mpr ⟨result, hresult, rfl⟩, hgood⟩
  | processCaptureRequest id calls cachesToRemove =>
    exact ⟨_, rfl, h.processCaptureRequest id calls cachesToRemove⟩
  | close o =>
    obtain ⟨device, hdevice, hgood⟩ := h.close o
    exact ⟨_, Option.map_eq_some_iff.mpr ⟨device, hdevice, rfl⟩, hgood⟩
  | session device => exact ⟨_, rfl, h.of_caches rfl rfl⟩

theorem reachable_good {F : Type} {device : DeviceSession} {s : State}
    (h : Reachable (Step (F := F)) (State.create device) s) : Good s := by
  apply h.invariant (P := Good)
  · intro s l t hst hs
    obtain ⟨t', ht', hgood⟩ := hs.step l
    cases hst.symm.trans ht'
    exact hgood
  · exact .create device

/-- Until the session is closed every stream has a cache. No lookup throws, the close
included. Every imported handle is in one cache, or has been freed, once. -/
theorem caches_keep_handles {F : Type} (device : DeviceSession) {s : State}
    (h : Reachable (Step (F := F)) (State.create device) s) :
    (s.device.closed = false →
      ∀ id ∈ s.device.maps.streamMap, id ∈ s.device.maps.circulatingBuffers) ∧
    (∀ l : Label F, ∃ t, s.step l = some t) ∧
    s.device.maps.freed.Nodup ∧ (cached s.device.maps.circulatingBuffers).Nodup ∧
    (∀ handle, handle < s.imported ↔
      handle ∈ cached s.device.maps.circulatingBuffers ∨ handle ∈ s.device.maps.freed) ∧
    (∀ handle ∈ cached s.device.maps.circulatingBuffers, handle ∉ s.device.maps.freed) ∧
    (∀ (o : StreamOffOutcome) (t : State), s.device.closed = false →
      s.step (.close o : Label F) = some t →
      ∀ id ∈ s.device.maps.streamMap, ∀ cbs, s.device.maps.circulatingBuffers.lookup id = some cbs →
        ∀ handle ∈ cbs.handles, handle ∈ t.device.maps.freed) := by
  have hgood := reachable_good h
  have haccounted : cached s.device.maps.circulatingBuffers + s.device.maps.freed =
      Multiset.range s.imported := hgood.accounted
  have hnodup : (cached s.device.maps.circulatingBuffers + s.device.maps.freed).Nodup := by
    rw [haccounted]
    exact Multiset.nodup_range s.imported
  obtain ⟨hcached, hfreed, hdisjoint⟩ := Multiset.nodup_add.mp hnodup
  refine ⟨hgood.keyed, fun l ↦ ?_, hfreed, hcached, fun handle ↦ ?_, fun handle hc hf ↦ ?_, ?_⟩
  · obtain ⟨t, ht, -⟩ := hgood.step l
    exact ⟨t, ht⟩
  · rw [← Multiset.mem_range, ← haccounted, Multiset.mem_add]
    exact Iff.rfl
  · exact Multiset.disjoint_left.mp hdisjoint hc hf
  · intro o t hopen hclose id hid cbs hcbs handle hhandle
    obtain ⟨device', hdevice, rfl⟩ := Option.map_eq_some_iff.mp hclose
    unfold DeviceSession.close at hdevice
    rw [hopen, if_neg Bool.false_ne_true] at hdevice
    obtain ⟨maps, hclean, rfl⟩ := Option.map_eq_some_iff.mp hdevice
    exact cleanupAll_frees (AList.keys_nodup _) hclean (AList.mem_keys.mp hid) hcbs hhandle

/-! ### A session with a cached buffer -/

/-- The only buffer of the request is new to its stream. -/
def oneRequest : RequestCall where
  request := ⟨1, -1, [⟨2, 7⟩]⟩
  outcome := {
    settings := .settings ⟨[]⟩
    idle := true
    configure := unused
    importStatus := .ok
    handle := fun _ ↦ none
    fence := fun _ ↦ -1
    frame := some (⟨1280, 720, v4l2PixFmtMjpeg, 0⟩, 0) }
  imports := fun _ ↦ ⟨true, true, true⟩

def configureLabel : Label ℚ :=
  .configureStreams .exact twoStreams 0 (Rounds.driverSets 1280 720)

theorem caches_keep_handles_oneRequest : ∃ s,
    Reachable (Step (F := ℚ)) (State.create Rounds.mjpegSession) s ∧ s.imported = 1 ∧
      s.device.maps.freed = [0] ∧ s.device.maps.freed.Nodup ∧
      ∀ l : Label ℚ, ∃ t, s.step l = some t := by
  have h : (exec Caches.State.step (State.create Rounds.mjpegSession)
      [configureLabel, .processCaptureRequest 0 [oneRequest] [],
        .processCaptureRequest 1 [] [⟨2, 7⟩]]).map (fun s ↦ (s.imported, s.device.maps.freed)) =
      some (1, [0]) := by decide +kernel
  obtain ⟨s, hreach, hs⟩ := exists_reachable_of_exec _ h
  obtain ⟨himported, hfreed⟩ := Prod.mk.inj hs
  obtain ⟨-, hstep, hnodup, -⟩ := caches_keep_handles Rounds.mjpegSession hreach
  exact ⟨s, hreach, himported, hfreed, hnodup, hstep⟩

/-- A closed session still has its streams, and no caches for them. -/
theorem closed_streams_without_caches :
    ¬ ∀ (device : DeviceSession) (s : State),
      Reachable (Step (F := ℚ)) (State.create device) s →
      ∀ id ∈ s.device.maps.streamMap, id ∈ s.device.maps.circulatingBuffers := by
  intro hall
  have h : (exec Caches.State.step (State.create Rounds.mjpegSession)
      [configureLabel, .close ⟨true, true⟩]).map (fun s ↦
        ((s.device.maps.streamMap.lookup 2).isSome, s.device.maps.circulatingBuffers.lookup 2)) =
      some (true, none) := by decide +kernel
  obtain ⟨s, hreach, hs⟩ := exists_reachable_of_exec _ h
  obtain ⟨hstream, hcache⟩ := Prod.mk.inj hs
  have hid : (2 : ℤ) ∈ s.device.maps.streamMap :=
    AList.lookup_isSome.mp hstream
  exact AList.lookup_eq_none.mp hcache (hall _ s hreach 2 hid)

end VirtualCamera.Session.CacheKeys
