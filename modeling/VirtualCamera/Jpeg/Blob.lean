import VirtualCamera.Jpeg.Encoder
import VirtualCamera.Session.Thumbnail

namespace VirtualCamera.Jpeg.Blob

open Library.Fallible Library.Memory Session.Capture Session.Streams Session.Scaling
open Session.Thumbnail Jpeg.Encoder

/-! ### The size of the buffer -/

def BAD_VALUE : ℤ := -22

inductive CameraBlobId
  | jpeg
  deriving DecidableEq, Repr

structure CameraBlob where
  blobId : CameraBlobId
  blobSize : ℕ
  deriving DecidableEq, Repr

/-- An identifier of 16 bits and a size of 32 bits, which is aligned. -/
def sizeofCameraBlob : ℕ := 8

def kMinJpegBufferSize : ℤ := 256 * 1024 + sizeofCameraBlob

/-- The part of the session that the size is computed from. -/
structure SessionInfo where
  maxJpegResolution : Size
  jpegMaxSize : Option Int32

/-- `jpegBufferSize` is what the `float`s give for the resolution. -/
def SessionInfo.getJpegBufferSize (s : SessionInfo) (jpegBufferSize : ℤ) : ℤ :=
  if s.maxJpegResolution.width = 0 then BAD_VALUE
  else
    match s.jpegMaxSize with
    | none => BAD_VALUE
    | some maxJpegBufferSize =>
      if maxJpegBufferSize.toInt ≤ kMinJpegBufferSize then BAD_VALUE
      else if maxJpegBufferSize.toInt < jpegBufferSize then maxJpegBufferSize.toInt
      else jpegBufferSize

/-! ### The code of one capture -/

structure JpegSettings where
  quality : Option UInt8
  thumbnailQuality : Option UInt8
  thumbnailSize : Option (Int32 × Int32)

/-- The thread's frames, the request's buffer and settings, and what the libraries do. -/
structure Capture where
  parent : Option SessionInfo
  jpegBufferSize : ℤ
  buffers : OutputBuffers
  yu12Frame : AllocatedFrame
  yu12ThumbFrame : AllocatedFrame
  jpegSize : Size
  setting : JpegSettings
  thumbCrop : Size
  thumbScale : Bool
  mainScale : Bool
  thumbLib : Libjpeg
  app1Length : Option ℕ
  lock : Bool
  mainLib : Libjpeg

inductive JpegError
  | disconnected
  | quality
  | thumbnailQuality
  | thumbnailSize
  | jpegBufferSize
  | cropThumb (e : ThumbError)
  | cropMain (e : CropAndScaleError)
  | thumbEncode
  | app1
  | lock
  | mainEncode
  deriving DecidableEq, Repr

structure Prepared where
  maxJpegCodeSize : ℕ
  yu12Thumb : Option (Size × YCbCrLayout)
  yu12Main : YCbCrLayout

/-- The buffer that was locked, with the trailer. -/
structure LockedBuffer where
  size : ℕ
  code : Encoded
  blob : CameraBlob
  blobDst : ℤ

structure JpegResult where
  error : Option JpegError
  buffers : OutputBuffers
  thumb : Option Encoded
  main : Option LockedBuffer

/-- `lfail` returns 1, whatever went wrong. -/
def JpegResult.status (r : JpegResult) : ℤ := if r.error = none then 0 else 1

def maxThumbCodeSize : ℕ := 64 * 1024

def JpegSettings.thumbSize (setting : JpegSettings) : Except JpegError (Option Size) := do
  let _ ← orError .quality setting.quality
  let _ ← orError .thumbnailQuality setting.thumbnailQuality
  let (width, height) ← orError .thumbnailSize setting.thumbnailSize
  let thumbSize : Size := ⟨width.toUInt32.toNat, height.toUInt32.toNat⟩
  return if thumbSize.width = 0 ∧ thumbSize.height = 0 then none else some thumbSize

namespace Capture

/-- The stream's own buffer size, or one that is derived from the resolution. -/
def maxJpegCodeSize (c : Capture) : ℤ :=
  match c.parent with
  | none => BAD_VALUE
  | some parent =>
    if c.buffers.blobBufferSize = 0 then parent.getJpegBufferSize c.jpegBufferSize
    else c.buffers.blobBufferSize

def cropThumb (c : Capture) : Option Size → Except JpegError (Option (Size × YCbCrLayout))
  | none => return none
  | some thumbSize => do
    let (yu12Thumb, _) ← (cropAndScaleThumbLocked c.yu12ThumbFrame c.yu12Frame thumbSize c.thumbCrop
      c.thumbScale).mapError .cropThumb
    return some (thumbSize, yu12Thumb)

/-- The checks that are made before the frame is scaled. -/
def checked (c : Capture) : Except JpegError (ℕ × Option (Size × YCbCrLayout)) := do
  let _ ← orError .disconnected c.parent
  let thumbSize ← c.setting.thumbSize
  if c.maxJpegCodeSize < 0 then throw .jpegBufferSize
  let yu12Thumb ← c.cropThumb thumbSize
  return (c.maxJpegCodeSize.toNat, yu12Thumb)

section

variable {F : Type*} (ar : AspectArith F) (ct : CroppingType)

def prepared (c : Capture) : Except JpegError Prepared × OutputBuffers :=
  match c.checked with
  | .error e => (.error e, c.buffers)
  | .ok (maxJpegCodeSize, yu12Thumb) =>
    match cropAndScaleLocked ar ct c.buffers c.yu12Frame c.jpegSize c.mainScale with
    | (.error e, buffers) => (.error (.cropMain e), buffers)
    | (.ok yu12Main, buffers) => (.ok ⟨maxJpegCodeSize, yu12Thumb, yu12Main⟩, buffers)

/-- The trailer is written whether or not the encoding has failed. -/
def encodeMain (c : Capture) (p : Prepared) (buffers : OutputBuffers) (thumb : Option Encoded) :
    Option JpegResult :=
  match c.app1Length with
  | none => some ⟨some .app1, buffers, thumb, none⟩
  | some exifDataSize =>
    if ¬ c.lock then some ⟨some .lock, buffers, thumb, none⟩
    else
      (encodeJpegYU12 c.mainLib c.jpegSize p.yu12Main exifDataSize p.maxJpegCodeSize).map fun e ↦
        ⟨if e.status ≠ 0 then some .mainEncode else none, buffers, thumb,
          some ⟨p.maxJpegCodeSize, e, ⟨.jpeg, e.actualCodeSize % 2 ^ 32⟩,
            p.maxJpegCodeSize - sizeofCameraBlob⟩⟩

def encode (c : Capture) (p : Prepared) (buffers : OutputBuffers) : Option JpegResult :=
  match p.yu12Thumb with
  | none => c.encodeMain p buffers none
  | some (thumbSize, yu12Thumb) =>
    (encodeJpegYU12 c.thumbLib thumbSize yu12Thumb 0 maxThumbCodeSize).bind fun e ↦
      if e.status ≠ 0 then some ⟨some .thumbEncode, buffers, some e, none⟩
      else c.encodeMain p buffers (some e)

/-- There is no result as long as the library goes on. -/
def createJpegLocked (c : Capture) : Option JpegResult :=
  match c.prepared ar ct with
  | (.error e, buffers) => some ⟨some e, buffers, none, none⟩
  | (.ok p, buffers) => c.encode p buffers

end

end Capture

/-! ### What a capture leaves -/

section

variable {F : Type*} {ar : AspectArith F} {ct : CroppingType} {c : Capture} {p : Prepared}
  {buffers : OutputBuffers} {thumb : Option Encoded} {r : JpegResult}

theorem status_eq_zero : r.status = 0 ↔ r.error = none := by
  unfold JpegResult.status
  split
  · rename_i herror
    exact ⟨fun _ ↦ herror, fun _ ↦ rfl⟩
  · rename_i herror
    exact ⟨fun h ↦ absurd h Int.one_ne_zero, fun h ↦ absurd h herror⟩

theorem checked_ok {n : ℕ} {yu12Thumb : Option (Size × YCbCrLayout)}
    (h : c.checked = .ok (n, yu12Thumb)) : (n : ℤ) = c.maxJpegCodeSize := by
  obtain ⟨_, -, h⟩ := bind_eq_ok.mp h
  obtain ⟨_, -, h⟩ := bind_eq_ok.mp h
  split at h
  · cases h
  · rename_i hsize
    obtain ⟨_, -, h⟩ := bind_eq_ok.mp h
    cases h
    exact Int.toNat_of_nonneg (Int.not_lt.mp hsize)

theorem prepared_ok (h : (c.prepared ar ct).1 = .ok p) :
    (p.maxJpegCodeSize : ℤ) = c.maxJpegCodeSize := by
  unfold Capture.prepared at h
  split at h
  · cases h
  · rename_i hchecked
    split at h
    · cases h
    · cases h
      exact checked_ok hchecked

/-- The main image is encoded when there is an APP1 segment and the buffer was locked. -/
theorem encodeMain_cases (h : c.encodeMain p buffers thumb = some r) : r.thumb = thumb ∧
    ((c.app1Length = none ∨ c.lock = false) ∧ r.error ≠ none ∧ r.main = none ∨
      ∃ app1Size e, c.app1Length = some app1Size ∧ c.lock = true ∧
        encodeJpegYU12 c.mainLib c.jpegSize p.yu12Main app1Size p.maxJpegCodeSize = some e ∧
        (r.error = none ↔ e.status = 0) ∧
        r.main = some ⟨p.maxJpegCodeSize, e, ⟨.jpeg, e.actualCodeSize % 2 ^ 32⟩,
          p.maxJpegCodeSize - sizeofCameraBlob⟩) := by
  unfold Capture.encodeMain at h
  split at h
  · rename_i happ1
    cases h
    exact ⟨rfl, .inl ⟨.inl happ1, Option.some_ne_none _, rfl⟩⟩
  · rename_i exifDataSize happ1
    split at h
    · rename_i hlock
      cases h
      exact ⟨rfl, .inl ⟨.inr (Bool.eq_false_iff.mpr hlock), Option.some_ne_none _, rfl⟩⟩
    · rename_i hlock
      obtain ⟨e, he, rfl⟩ := Option.map_eq_some_iff.mp h
      refine ⟨rfl, .inr ⟨exifDataSize, e, happ1, not_not.mp hlock, he, ?_, rfl⟩⟩
      by_cases hstatus : e.status = 0
      · exact ⟨fun _ ↦ hstatus, fun _ ↦ if_neg (not_not.mpr hstatus)⟩
      · refine ⟨fun herror ↦ ?_, fun h0 ↦ absurd h0 hstatus⟩
        dsimp only at herror
        rw [if_pos hstatus] at herror
        cases herror

def ThumbEncoded (c : Capture) (p : Prepared) (thumb : Option Encoded) : Prop :=
  match p.yu12Thumb with
  | none => thumb = none
  | some (thumbSize, yu12Thumb) => ∃ e, thumb = some e ∧
    encodeJpegYU12 c.thumbLib thumbSize yu12Thumb 0 maxThumbCodeSize = some e

theorem encode_cases (h : c.encode p buffers = some r) : ThumbEncoded c p r.thumb ∧
    ((∃ e, r.thumb = some e ∧ e.status ≠ 0) ∧ r.error ≠ none ∧ r.main = none ∨
      (∀ e, r.thumb = some e → e.status = 0) ∧ c.encodeMain p buffers r.thumb = some r) := by
  unfold Capture.encode at h
  unfold ThumbEncoded
  split at h
  · obtain ⟨hthumb, -⟩ := encodeMain_cases h
    rw [hthumb]
    exact ⟨rfl, .inr ⟨fun e he ↦ (by cases he), h⟩⟩
  · obtain ⟨e, he, h⟩ := Option.bind_eq_some_iff.mp h
    split at h
    · rename_i hstatus
      cases h
      exact ⟨⟨e, rfl, he⟩, .inl ⟨⟨e, rfl, hstatus⟩, Option.some_ne_none _, rfl⟩⟩
    · rename_i hstatus
      obtain ⟨hthumb, -⟩ := encodeMain_cases h
      rw [hthumb]
      refine ⟨⟨e, rfl, he⟩, .inr ⟨fun e' he' ↦ ?_, h⟩⟩
      rw [← Option.some.inj he']
      exact not_not.mp hstatus

theorem createJpegLocked_cases (h : c.createJpegLocked ar ct = some r) :
    (∃ e, (c.prepared ar ct).1 = .error e) ∧ r.error ≠ none ∧ r.thumb = none ∧ r.main = none ∨
      ∃ p buffers, (c.prepared ar ct).1 = .ok p ∧ c.encode p buffers = some r := by
  unfold Capture.createJpegLocked at h
  split at h
  · rename_i hprepared
    cases h
    exact .inl ⟨⟨_, by rw [hprepared]⟩, Option.some_ne_none _, rfl, rfl⟩
  · rename_i hprepared
    exact .inr ⟨_, _, by rw [hprepared], h⟩

/-- A success is one of the encoding of the main image, into a buffer of the size that was
computed. -/
theorem createJpegLocked_ok (h : c.createJpegLocked ar ct = some r) (hok : r.status = 0) :
    ∃ (yu12Main : YCbCrLayout) (n app1Size : ℕ) (e : Encoded), (n : ℤ) = c.maxJpegCodeSize ∧ c.app1Length = some app1Size ∧
      encodeJpegYU12 c.mainLib c.jpegSize yu12Main app1Size n = some e ∧ e.status = 0 ∧
      r.main = some ⟨n, e, ⟨.jpeg, e.actualCodeSize % 2 ^ 32⟩, n - sizeofCameraBlob⟩ := by
  have herror := status_eq_zero.mp hok
  obtain ⟨-, hne, -⟩ | ⟨p, buffers, hp, h⟩ := createJpegLocked_cases h
  · exact absurd herror hne
  · obtain ⟨-, ⟨-, hne, -⟩ | ⟨-, h⟩⟩ := encode_cases h
    · exact absurd herror hne
    · obtain ⟨-, ⟨-, hne, -⟩ | ⟨app1Size, e, happ1, -, he, hstatus, hmain⟩⟩ := encodeMain_cases h
      · exact absurd herror hne
      · exact ⟨p.yu12Main, p.maxJpegCodeSize, app1Size, e, prepared_ok hp, happ1, he,
          hstatus.mp herror, hmain⟩

end

/-! ### The layout of the buffer -/

/-- The code is at the beginning of the buffer and the trailer at its end. -/
structure LaidOut (m : LockedBuffer) : Prop where
  stored : (emitted m.code.dmgr.log).length = m.code.actualCodeSize
  recorded : m.blob.blobSize = m.code.actualCodeSize
  inside : m.code.actualCodeSize ≤ m.size
  trailer : 0 ≤ m.blobDst ∧ m.blobDst + sizeofCameraBlob = m.size
  apart : (m.code.actualCodeSize : ℤ) ≤ m.blobDst

def Capture.codeLength (c : Capture) : ℕ :=
  (emitted (c.mainLib.acts c.jpegSize.height (c.app1Length.getD 0))).length

theorem maxJpegCodeSize_lt {c : Capture} (h : c.buffers.blobBufferSize < 2 ^ 32) :
    c.maxJpegCodeSize < 2 ^ 32 := by
  unfold Capture.maxJpegCodeSize
  split
  · decide
  · split
    · unfold SessionInfo.getJpegBufferSize
      split
      · decide
      · split
        · decide
        · rename_i maxJpegBufferSize _
          have hmax := maxJpegBufferSize.toInt_lt
          split
          · decide
          · split <;> omega
    · omega

/-- With a code size that a `size_t` holds, the trailer's bytes have to be left free. -/
theorem laidOut_iff {n : ℕ} {e : Encoded} (hn : (n : ℤ) < 2 ^ 32)
    (hcode : e.actualCodeSize = sizeT (emitted e.dmgr.log).length) :
    LaidOut ⟨n, e, ⟨.jpeg, e.actualCodeSize % 2 ^ 32⟩, n - sizeofCameraBlob⟩ ↔
      (emitted e.dmgr.log).length + sizeofCameraBlob ≤ n := by
  have height : sizeofCameraBlob = 8 := rfl
  constructor
  · intro h
    have hstored := h.stored
    have hapart := h.apart
    dsimp only at hstored hapart
    omega
  · intro hle
    have hsame : (emitted e.dmgr.log).length = e.actualCodeSize := by
      rw [hcode]
      unfold sizeT
      omega
    refine ⟨hsame, ?_, ?_, ?_, ?_⟩
    all_goals dsimp only
    · exact Nat.mod_eq_of_lt (by omega)
    · omega
    · omega
    · omega

/-- After a success the code and the trailer are apart in the buffer exactly when the library has
left the trailer's bytes free. -/
theorem blob_layout_iff {F : Type*} (ar : AspectArith F) (ct : CroppingType) (c : Capture)
    (r : JpegResult) (hsize : c.buffers.blobBufferSize < 2 ^ 32)
    (h : c.createJpegLocked ar ct = some r) (hok : r.status = 0) :
    (∃ m, r.main = some m ∧ LaidOut m) ↔
      (c.codeLength : ℤ) + sizeofCameraBlob ≤ c.maxJpegCodeSize := by
  obtain ⟨yu12Main, n, app1Size, e, hn, happ1, he, hstatus, hmain⟩ := createJpegLocked_ok h hok
  obtain ⟨-, hlog, hcode⟩ := encode_spec he
  have hlength : (emitted e.dmgr.log).length = c.codeLength := by
    unfold Capture.codeLength
    rw [hlog, happ1, Option.getD_some]
  have hbudget := maxJpegCodeSize_lt hsize
  rw [← hn] at hbudget ⊢
  have hlaid := laidOut_iff hbudget (hcode hstatus)
  rw [hlength] at hlaid
  constructor
  · intro hcond
    obtain ⟨m, hm, hm'⟩ := hcond
    rw [hmain] at hm
    cases hm
    exact_mod_cast hlaid.mp hm'
  · intro hle
    exact ⟨_, hmain, hlaid.mpr (by exact_mod_cast hle)⟩

/-! ### Images of 640 × 480 in a buffer of the smallest size -/

def stores (bytes : ℕ) : List Act := List.replicate bytes (.emit 0)

@[simp]
theorem emitted_stores (bytes : ℕ) : (emitted (stores bytes)).length = bytes := by
  have h : emitted (stores bytes) = List.replicate bytes 0 :=
    List.filterMap_replicate_of_some (f := Act.byte) rfl
  rw [h, List.length_replicate]

/-- Batches that are taken whole, before others. -/
def wholeBatches (acts : List Act) (nl : ℕ) : ℕ → List Batch → List Batch
  | 0, batches => batches
  | n + 1, batches => ⟨acts, mcuV, nl + mcuV⟩ :: wholeBatches acts (nl + mcuV) n batches

theorem wholeBatches_spec (acts : List Act) (batches : List Batch) (image_height nl n : ℕ)
    (h : nl + mcuV * n ≤ image_height) :
    loopActs image_height nl (wholeBatches acts nl n batches) =
        (List.replicate n acts).flatten ++ loopActs image_height (nl + mcuV * n) batches ∧
      stopsShort image_height nl (wholeBatches acts nl n batches) =
        stopsShort image_height (nl + mcuV * n) batches := by
  induction n generalizing nl with
  | zero => exact ⟨rfl, rfl⟩
  | succ n ih =>
    have hrows : 0 < mcuV := by decide
    rw [Nat.mul_succ] at h ⊢
    obtain ⟨hacts, hshort⟩ := ih (nl + mcuV) (by omega)
    have hnl : nl < image_height := by omega
    have hend : nl + mcuV + mcuV * n = nl + (mcuV * n + mcuV) := by omega
    rw [hend] at hacts hshort
    constructor
    · rw [wholeBatches, loopActs, if_pos hnl, if_neg (not_not.mpr rfl), hacts,
        List.replicate_succ, List.flatten_cons, List.append_assoc]
    · rw [wholeBatches, stopsShort, decide_eq_true hnl, Bool.true_and, bne_self_eq_false,
        Bool.false_or, hshort]

/-- 261206 bytes are stored before the last batch. -/
def capture (last : Batch) (finish : List Act) : Capture where
  parent := some ⟨⟨640, 480⟩, some 3145728⟩
  jpegBufferSize := kMinJpegBufferSize
  buffers := ⟨none, none, ∅, ∅, 262152⟩
  yu12Frame := ⟨640, 480, 460800⟩
  yu12ThumbFrame := ⟨640, 480, 460800⟩
  jpegSize := ⟨640, 480⟩
  setting := ⟨some 90, some 90, some (0, 0)⟩
  thumbCrop := ⟨640, 480⟩
  thumbScale := true
  mainScale := true
  thumbLib := ⟨0, [], [], [], []⟩
  app1Length := some 200
  lock := true
  mainLib := ⟨0, stores 2, stores 204, wholeBatches (stores 9000) 0 29 [last], finish⟩

theorem capture_stopsShort (last : Batch) (finish : List Act) :
    stopsShort 480 0 (capture last finish).mainLib.batches = (last.done != mcuV) := by
  have h := (wholeBatches_spec (stores 9000) [last] 480 0 29 (by decide)).2
  refine h.trans ?_
  simp [stopsShort, mcuV, DCTSIZE, maxVSampFactor]

theorem capture_acts (last : Batch) (finish : List Act) :
    (capture last finish).mainLib.acts 480 200 = stores 2 ++ stores 204 ++
      ((List.replicate 29 (stores 9000)).flatten ++ last.acts) ++
        if last.done = mcuV then finish else [] := by
  have hshort := capture_stopsShort last finish
  have hloop := (wholeBatches_spec (stores 9000) [last] 480 0 29 (by decide)).1
  have hlast : loopActs 480 (0 + mcuV * 29) [last] = last.acts := by
    simp [loopActs, mcuV, DCTSIZE, maxVSampFactor]
  rw [hlast] at hloop
  rw [Libjpeg.acts, hshort]
  simp only [capture, hloop]
  by_cases hdone : last.done = mcuV
  · simp [hdone]
  · simp [hdone]

theorem capture_codeLength (last : Batch) (finish : List Act) :
    (capture last finish).codeLength = 261206 + (emitted last.acts).length +
      if last.done = mcuV then (emitted finish).length else 0 := by
  change (emitted ((capture last finish).mainLib.acts 480 200)).length = _
  rw [capture_acts]
  have hwhole : (emitted (List.replicate 29 (stores 9000)).flatten).length = 261000 := by
    simp only [List.replicate, List.flatten_cons, List.flatten_nil, emitted_append,
      List.length_append, emitted_stores]
    rfl
  simp only [emitted_append, List.length_append, emitted_stores, hwhole]
  by_cases hdone : last.done = mcuV
  · simp only [if_pos hdone]
    omega
  · simp only [if_neg hdone]
    change _ + 0 = _
    omega

/-- The longest code that leaves the trailer's bytes free. -/
theorem blob_layout_iff_free : ∃ r m,
    (capture ⟨stores 935, mcuV, 480⟩ (stores 3)).createJpegLocked AspectArith.exact .vertical =
      some r ∧ r.main = some m ∧ LaidOut m := by
  obtain ⟨r, hr⟩ : ∃ r, (capture ⟨stores 935, mcuV, 480⟩ (stores 3)).createJpegLocked
      AspectArith.exact .vertical = some r := ⟨_, rfl⟩
  have hok : r.status = 0 := by
    cases hr
    rfl
  have hfree : ((capture ⟨stores 935, mcuV, 480⟩ (stores 3)).codeLength : ℤ) + sizeofCameraBlob ≤
      (capture ⟨stores 935, mcuV, 480⟩ (stores 3)).maxJpegCodeSize := by
    rw [capture_codeLength, emitted_stores, emitted_stores]
    decide
  obtain ⟨m, hm, hlaid⟩ := (blob_layout_iff AspectArith.exact .vertical _ r (by decide) hr
    hok).mpr hfree
  exact ⟨r, m, hr, hm, hlaid⟩

/-- The last byte of one more is where the trailer begins. -/
theorem code_under_trailer : ∃ r m,
    (capture ⟨stores 936, mcuV, 480⟩ (stores 3)).createJpegLocked AspectArith.exact .vertical =
      some r ∧ r.status = 0 ∧ r.main = some m ∧
      (emitted m.code.dmgr.log).length = 262145 ∧ m.size = 262152 ∧ m.blobDst = 262144 := by
  have hcode := capture_codeLength ⟨stores 936, mcuV, 480⟩ (stores 3)
  simp only [emitted_stores, if_true] at hcode
  obtain ⟨r, hr⟩ : ∃ r, (capture ⟨stores 936, mcuV, 480⟩ (stores 3)).createJpegLocked
      AspectArith.exact .vertical = some r := ⟨_, rfl⟩
  have hok : r.status = 0 := by
    cases hr
    rfl
  obtain ⟨yu12Main, n, app1Size, e, hn, happ1, he, -, hmain⟩ := createJpegLocked_ok hr hok
  obtain ⟨-, hlog, -⟩ := encode_spec he
  have hsize : (n : ℤ) = 262152 := hn
  cases happ1
  refine ⟨r, _, hr, hok, hmain, ?_, ?_, ?_⟩
  · dsimp only
    rw [hlog]
    exact hcode
  · exact_mod_cast hsize
  · dsimp only [sizeofCameraBlob]
    omega

end VirtualCamera.Jpeg.Blob
