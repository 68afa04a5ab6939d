import VirtualCamera.Jpeg.Blob

namespace VirtualCamera.Jpeg.Reporting

open Library.Memory Session.Streams Session.Scaling Jpeg.Encoder Jpeg.Blob

def Compressed (r : JpegResult) (e : Encoded) : Prop :=
  r.thumb = some e ∨ ∃ m, r.main = some m ∧ m.code = e

/-- All bytes that were stored are in the buffer and there was no trouble with any. -/
structure Complete (m : LockedBuffer) : Prop where
  untroubled : ¬ Troubled m.code.dmgr.log
  stored : (emitted m.code.dmgr.log).length = m.code.actualCodeSize
  inside : m.code.actualCodeSize ≤ m.size

/-- A trouble makes its compression fail and the capture with it. -/
structure Reported (r : JpegResult) : Prop where
  failed : ∀ e, Compressed r e → Troubled e.dmgr.log → e.status ≠ 0 ∧ r.status ≠ 0
  complete : r.status = 0 → ∃ m, r.main = some m ∧ Complete m

/-- A trouble in the calls shows in the number of rows that one of them takes. -/
def Noticed (lib : Libjpeg) (height app1Size : ℕ) : Prop :=
  Troubled (lib.acts height app1Size) → stopsShort height 0 lib.batches = true

/-- It does in each compression that is made. -/
structure AllNoticed {F : Type*} (ar : AspectArith F) (ct : CroppingType) (c : Capture) : Prop where
  thumb : ∀ p thumbSize yu12Thumb, (c.prepared ar ct).1 = .ok p →
    p.yu12Thumb = some (thumbSize, yu12Thumb) → Noticed c.thumbLib thumbSize.height 0
  main : ∀ p app1Size, (c.prepared ar ct).1 = .ok p →
    (∀ thumbSize yu12Thumb, p.yu12Thumb = some (thumbSize, yu12Thumb) →
      stopsShort thumbSize.height 0 c.thumbLib.batches = false) →
    c.app1Length = some app1Size → c.lock = true → Noticed c.mainLib c.jpegSize.height app1Size

/-- Of the flag of the handler nothing is read: a trouble that is not noticed is not reported. -/
theorem noticed_iff {lib : Libjpeg} {inSz : Size} {inLayout : YCbCrLayout} {app1Size maxOutSize : ℕ}
    {e : Encoded} (h : encodeJpegYU12 lib inSz inLayout app1Size maxOutSize = some e) :
    Noticed lib inSz.height app1Size ↔ (Troubled e.dmgr.log → e.status ≠ 0) := by
  obtain ⟨hstatus, hlog, -⟩ := encode_spec h
  unfold Noticed
  rw [hlog, ne_eq, hstatus, Bool.not_eq_false]

section

variable {F : Type*} {ar : AspectArith F} {ct : CroppingType} {c : Capture} {p : Prepared}
  {buffers : OutputBuffers} {r : JpegResult}

theorem thumb_made (h : ThumbEncoded c p r.thumb) {e : Encoded} (he : r.thumb = some e) :
    ∃ thumbSize yu12Thumb, p.yu12Thumb = some (thumbSize, yu12Thumb) ∧
      encodeJpegYU12 c.thumbLib thumbSize yu12Thumb 0 maxThumbCodeSize = some e := by
  unfold ThumbEncoded at h
  split at h
  · rw [h] at he
    cases he
  · rename_i thumbSize yu12Thumb hthumb
    obtain ⟨e', he', h⟩ := h
    rw [he] at he'
    cases he'
    exact ⟨thumbSize, yu12Thumb, hthumb, h⟩

theorem thumb_of_prepared (h : ThumbEncoded c p r.thumb) {thumbSize : Size} {yu12Thumb : YCbCrLayout}
    (hp : p.yu12Thumb = some (thumbSize, yu12Thumb)) : ∃ e, r.thumb = some e ∧
      encodeJpegYU12 c.thumbLib thumbSize yu12Thumb 0 maxThumbCodeSize = some e := by
  unfold ThumbEncoded at h
  rw [hp] at h
  exact h

theorem allNoticed_of_reported (h : c.createJpegLocked ar ct = some r) (hr : Reported r) :
    AllNoticed ar ct c := by
  obtain ⟨⟨e, he⟩, -⟩ | ⟨p, buffers, hp, h⟩ := createJpegLocked_cases h
  · refine ⟨fun p _ _ hp ↦ ?_, fun p _ hp ↦ ?_⟩
    · rw [he] at hp
      cases hp
    · rw [he] at hp
      cases hp
  · obtain ⟨hthumb, hmain⟩ := encode_cases h
    refine ⟨fun p' thumbSize yu12Thumb hp' hsome ↦ ?_, fun p' app1Size hp' hlong happ1 hlock ↦ ?_⟩
    · rw [hp] at hp'
      cases hp'
      obtain ⟨e, he, hencode⟩ := thumb_of_prepared hthumb hsome
      exact (noticed_iff hencode).mpr fun htrouble ↦ (hr.failed e (.inl he) htrouble).1
    · rw [hp] at hp'
      cases hp'
      obtain ⟨⟨e, he, hstatus⟩, -⟩ | ⟨-, h⟩ := hmain
      · obtain ⟨thumbSize, yu12Thumb, hsome, hencode⟩ := thumb_made hthumb he
        exact absurd ((encode_spec hencode).1.mpr (hlong _ _ hsome)) hstatus
      · obtain ⟨-, ⟨hnot, -⟩ | ⟨app1Size', e, happ1', -, hencode, -, hm⟩⟩ := encodeMain_cases h
        · rw [happ1, hlock] at hnot
          obtain hnot | hnot := hnot
          · cases hnot
          · cases hnot
        · rw [happ1] at happ1'
          cases happ1'
          exact (noticed_iff hencode).mpr fun htrouble ↦
            (hr.failed e (.inr ⟨_, hm, rfl⟩) htrouble).1

theorem failed_of_allNoticed (h : c.createJpegLocked ar ct = some r) (hc : AllNoticed ar ct c)
    {e : Encoded} (he : Compressed r e) (htrouble : Troubled e.dmgr.log) :
    e.status ≠ 0 ∧ r.status ≠ 0 := by
  rw [ne_eq r.status, status_eq_zero]
  obtain ⟨-, -, hthumb, hmain⟩ | ⟨p, buffers, hp, h⟩ := createJpegLocked_cases h
  · unfold Compressed at he
    rw [hthumb, hmain] at he
    obtain he | ⟨m, he, -⟩ := he
    · cases he
    · cases he
  · obtain ⟨hthumb, hcases⟩ := encode_cases h
    obtain he | ⟨m, hm, rfl⟩ := he
    · obtain ⟨thumbSize, yu12Thumb, hsome, hencode⟩ := thumb_made hthumb he
      have hstatus := (noticed_iff hencode).mp (hc.thumb p _ _ hp hsome) htrouble
      obtain ⟨-, herror, -⟩ | ⟨hall, -⟩ := hcases
      · exact ⟨hstatus, herror⟩
      · exact absurd (hall e he) hstatus
    · obtain ⟨-, -, hnone⟩ | ⟨hall, h⟩ := hcases
      · rw [hnone] at hm
        cases hm
      · obtain ⟨-, ⟨-, -, hnone⟩ | ⟨app1Size, e, happ1, hlock, hencode, hiff, hsome⟩⟩ :=
          encodeMain_cases h
        · rw [hnone] at hm
          cases hm
        · rw [hsome] at hm
          cases hm
          have hlong : ∀ thumbSize yu12Thumb, p.yu12Thumb = some (thumbSize, yu12Thumb) →
              stopsShort thumbSize.height 0 c.thumbLib.batches = false := by
            intro thumbSize yu12Thumb hthumbSome
            obtain ⟨e', he', hencode'⟩ := thumb_of_prepared hthumb hthumbSome
            exact (encode_spec hencode').1.mp (hall e' he')
          have hstatus := (noticed_iff hencode).mp (hc.main p app1Size hp hlong happ1 hlock) htrouble
          exact ⟨hstatus, fun herror ↦ hstatus (hiff.mp herror)⟩

end

theorem maxJpegCodeSize_ne_zero {c : Capture} (h : c.jpegBufferSize ≠ 0) : c.maxJpegCodeSize ≠ 0 := by
  unfold Capture.maxJpegCodeSize
  split
  · decide
  · split
    · unfold SessionInfo.getJpegBufferSize
      split
      · decide
      · split
        · decide
        · split
          · decide
          · rename_i hmin
            unfold kMinJpegBufferSize at hmin
            split <;> omega
    · omega

/-- All troubles are reported exactly when each shows in a batch of rows. The library calls for
another buffer as soon as the one it has is full. -/
theorem reported_iff {F : Type*} (ar : AspectArith F) (ct : CroppingType) (c : Capture)
    (r : JpegResult) (hblob : c.buffers.blobBufferSize < 2 ^ 32) (hscaled : c.jpegBufferSize ≠ 0)
    (hfull : 0 < c.maxJpegCodeSize → c.maxJpegCodeSize ≤ c.codeLength →
      Act.emptyOutputBuffer ∈ c.mainLib.acts c.jpegSize.height (c.app1Length.getD 0))
    (h : c.createJpegLocked ar ct = some r) : Reported r ↔ AllNoticed ar ct c := by
  refine ⟨allNoticed_of_reported h, fun hc ↦
    ⟨fun e he htrouble ↦ failed_of_allNoticed h hc he htrouble, fun hok ↦ ?_⟩⟩
  obtain ⟨yu12Main, n, app1Size, e, hn, happ1, hencode, hstatus, hmain⟩ := createJpegLocked_ok h hok
  have huntroubled : ¬ Troubled e.dmgr.log := fun htrouble ↦
    (failed_of_allNoticed h hc (.inr ⟨_, hmain, rfl⟩) htrouble).1 hstatus
  obtain ⟨-, hlog, hcode⟩ := encode_spec hencode
  have hcode := hcode hstatus
  have hroom : (emitted e.dmgr.log).length < n := by
    by_contra hnot
    have hlength : (emitted e.dmgr.log).length = c.codeLength := by
      unfold Capture.codeLength
      rw [hlog, happ1, Option.getD_some]
    have hne := maxJpegCodeSize_ne_zero hscaled
    have hempty := hfull (by omega) (by omega)
    rw [happ1, Option.getD_some, ← hlog] at hempty
    exact huntroubled (.inr hempty)
  have hbudget := maxJpegCodeSize_lt hblob
  have hsame : (emitted e.dmgr.log).length = e.actualCodeSize := by
    rw [hcode]
    unfold sizeT
    omega
  exact ⟨_, hmain, huntroubled, hsame, hsame ▸ hroom.le⟩

/-- The last batch fills the buffer and is not taken. -/
def suspended : Capture := capture ⟨stores 946 ++ [.emptyOutputBuffer], 0, 464⟩ []

theorem reported_iff_suspended : ∃ r,
    suspended.createJpegLocked AspectArith.exact .vertical = some r ∧ Reported r := by
  obtain ⟨r, hr⟩ : ∃ r, suspended.createJpegLocked AspectArith.exact .vertical = some r :=
    ⟨_, rfl⟩
  have hshort := capture_stopsShort ⟨stores 946 ++ [.emptyOutputBuffer], 0, 464⟩ []
  have hfull : Act.emptyOutputBuffer ∈ suspended.mainLib.acts 480 200 := by
    rw [suspended, capture_acts]
    simp
  refine ⟨r, hr, (reported_iff AspectArith.exact .vertical suspended r (by decide) (by decide)
    (fun _ _ ↦ hfull) hr).mpr ⟨?_, ?_⟩⟩
  · intro p thumbSize yu12Thumb hp hthumb
    cases hp
    cases hthumb
  · intro p app1Size _ _ _ _ _
    exact hshort

/-- The buffer is full before the last of the code is stored, when no rows are written. -/
def cutShort : Capture :=
  capture ⟨stores 945, mcuV, 480⟩
    [.emit 0, .emptyOutputBuffer, .errorExit, .emit 0xFF, .emit 0xD9]

theorem cut_short_success : ∃ r m,
    cutShort.createJpegLocked AspectArith.exact .vertical = some r ∧ r.main = some m ∧
      Troubled m.code.dmgr.log ∧ m.code.dmgr.mSuccess = false ∧ m.code.status = 0 ∧ r.status = 0 := by
  obtain ⟨r, hr⟩ : ∃ r, cutShort.createJpegLocked AspectArith.exact .vertical = some r :=
    ⟨_, rfl⟩
  have hok : r.status = 0 := by
    cases hr
    rfl
  obtain ⟨yu12Main, n, app1Size, e, -, happ1, he, hstatus, hmain⟩ := createJpegLocked_ok hr hok
  obtain ⟨-, hlog, -⟩ := encode_spec he
  cases happ1
  refine ⟨r, _, hr, hmain, ?_, ?_, hstatus, hok⟩
  · dsimp only
    rw [hlog]
    change Troubled (cutShort.mainLib.acts 480 200)
    rw [cutShort, capture_acts]
    exact .inl (by simp)
  · obtain ⟨d, -, ⟨-, hfailed, -⟩ | ⟨-, -, hdmgr, -⟩⟩ := encode_cases he
    · rw [hstatus] at hfailed
      cases hfailed
    · dsimp only
      rw [hdmgr]
      rfl

end VirtualCamera.Jpeg.Reporting
