import VirtualCamera.Session.Scaling

namespace VirtualCamera.Jpeg.Encoder

open Library.Memory Session.Streams Session.Scaling

/-! ### The destination and the error manager -/

/-- What the library does with them in a call. -/
inductive Act
  | emit (byte : UInt8)
  | emptyOutputBuffer
  | errorExit
  deriving DecidableEq, Repr

/-- `log` is what has been done with it. -/
structure CustomJpegDestMgr where
  log : List Act
  mBufferSize : ℕ
  free_in_buffer : ℕ
  mEncodedSize : ℕ
  mSuccess : Bool
  deriving DecidableEq, Repr

namespace CustomJpegDestMgr

/-- The members that are set, and then `init_destination`. The handler does not find the manager
when it is called before. -/
def create (errors maxOutSize : ℕ) : CustomJpegDestMgr :=
  ⟨List.replicate errors .errorExit, maxOutSize, maxOutSize, 0, true⟩

/-- A byte is stored by the library itself. No buffer is given in place of one that is full; the
handler of errors returns. -/
def act (d : CustomJpegDestMgr) (a : Act) : CustomJpegDestMgr :=
  match a with
  | .emit _ =>
    { d with
      free_in_buffer := sizeT (d.free_in_buffer - 1)
      log := d.log ++ [a] }
  | .emptyOutputBuffer => { d with log := d.log ++ [a] }
  | .errorExit => { d with mSuccess := false, log := d.log ++ [a] }

def run (d : CustomJpegDestMgr) (acts : List Act) : CustomJpegDestMgr := acts.foldl act d

def termDestination (d : CustomJpegDestMgr) : CustomJpegDestMgr :=
  { d with mEncodedSize := sizeT (d.mBufferSize - d.free_in_buffer) }

end CustomJpegDestMgr

def Act.byte : Act → Option UInt8
  | .emit byte => some byte
  | .emptyOutputBuffer => none
  | .errorExit => none

def emitted (log : List Act) : List UInt8 := log.filterMap Act.byte

/-- The handler of errors was called, or the buffer was full. -/
def Troubled (log : List Act) : Prop := Act.errorExit ∈ log ∨ Act.emptyOutputBuffer ∈ log

instance (log : List Act) : Decidable (Troubled log) := inferInstanceAs (Decidable (_ ∨ _))

/-! ### Feeding the rows -/

def DCTSIZE : ℕ := 8

/-- The vertical sampling factors of Y and of the others are 2 and 1. -/
def maxVSampFactor : ℕ := max 2 1

def cVSubSampling : ℕ := 2 / 1

def mcuV : ℕ := DCTSIZE * maxVSampFactor

def paddedHeight (height : ℕ) : ℕ := mcuV * ((height + mcuV - 1) / mcuV)

structure RowTables where
  yLines : List ℕ
  cbLines : List ℕ
  crLines : List ℕ

/-- The offset of a row is a `uint32_t`. -/
def row (start stride li : ℕ) : ℕ := start + li * stride % 2 ^ 32

def rowTables (inSz : Size) (inLayout : YCbCrLayout) : RowTables :=
  let padded := paddedHeight inSz.height
  let chroma (start : ℕ) := (List.range (padded / cVSubSampling)).map fun i ↦
    row start inLayout.cStride (min i ((inSz.height - 1) / cVSubSampling))
  { yLines := (List.range padded).map fun i ↦
      row inLayout.y inLayout.yStride (min i (inSz.height - 1))
    cbLines := chroma inLayout.cb
    crLines := chroma inLayout.cr }

/-- The result of `jpeg_write_raw_data`, and what it leaves in `next_scanline`. -/
structure Batch where
  acts : List Act
  done : ℕ
  next_scanline : ℕ

/-- What the library does in the calls of one compression. `create` is how often it calls the
handler of errors in `jpeg_create_compress`. -/
structure Libjpeg where
  create : ℕ
  start : List Act
  marker : List Act
  batches : List Batch
  finish : List Act

/-- The loop over the batches: whether it was left for the end, and where each batch began. -/
structure Feeding where
  complete : Bool
  dmgr : CustomJpegDestMgr
  fed : List ℕ

/-- There is no result as long as the loop goes on. -/
def feed (image_height nl : ℕ) (d : CustomJpegDestMgr) : List Batch → Option Feeding
  | [] => if nl < image_height then none else some ⟨true, d, []⟩
  | b :: batches =>
    if nl < image_height then
      let d := d.run b.acts
      if b.done ≠ mcuV then some ⟨false, d, [nl]⟩
      else (feed image_height b.next_scanline d batches).map fun r ↦ { r with fed := nl :: r.fed }
    else some ⟨true, d, []⟩

structure Encoded where
  status : ℤ
  actualCodeSize : ℕ
  dmgr : CustomJpegDestMgr
  tables : RowTables
  fed : List ℕ

/-- The code size is left at zero by a failure. The loop that fills the tables does not end when
its counter cannot reach the padded height. -/
def encodeJpegYU12 (lib : Libjpeg) (inSz : Size) (inLayout : YCbCrLayout) (app1Size maxOutSize : ℕ) :
    Option Encoded :=
  let d := (CustomJpegDestMgr.create lib.create maxOutSize).run lib.start
  if 2 ^ 32 ≤ paddedHeight inSz.height then none
  else
    let d := if app1Size ≠ 0 then d.run lib.marker else d
    (feed inSz.height 0 d lib.batches).map fun r ↦
      if r.complete then
        let d := (r.dmgr.run lib.finish).termDestination
        ⟨0, d.mEncodedSize, d, rowTables inSz inLayout, r.fed⟩
      else ⟨-1, 0, r.dmgr, rowTables inSz inLayout, r.fed⟩

/-! ### What a compression leaves -/

theorem act_log (d : CustomJpegDestMgr) (a : Act) : (d.act a).log = d.log ++ [a] := by
  cases a <;> simp only [CustomJpegDestMgr.act]

theorem act_mBufferSize (d : CustomJpegDestMgr) (a : Act) :
    (d.act a).mBufferSize = d.mBufferSize := by
  cases a <;> simp only [CustomJpegDestMgr.act]

theorem run_log (d : CustomJpegDestMgr) (acts : List Act) : (d.run acts).log = d.log ++ acts := by
  induction acts generalizing d with
  | nil => rw [CustomJpegDestMgr.run, List.foldl_nil, List.append_nil]
  | cons a acts ih =>
    change ((d.act a).run acts).log = _
    rw [ih, act_log, List.append_assoc, List.singleton_append]

theorem emitted_append (log log' : List Act) :
    emitted (log ++ log') = emitted log ++ emitted log' := List.filterMap_append

/-- The free part and the bytes that were stored are the buffer, up to what a `size_t` holds. -/
def Balanced (d : CustomJpegDestMgr) : Prop :=
  (2 ^ 64 : ℤ) ∣ d.free_in_buffer + (emitted d.log).length - d.mBufferSize

theorem act_balanced {d : CustomJpegDestMgr} (h : Balanced d) (a : Act) : Balanced (d.act a) := by
  unfold Balanced at *
  rw [act_log, act_mBufferSize, emitted_append, List.length_append]
  cases a with
  | emit byte =>
    have hone : (emitted [Act.emit byte]).length = 1 := rfl
    rw [hone, CustomJpegDestMgr.act]
    dsimp only
    unfold sizeT
    omega
  | emptyOutputBuffer =>
    have hnone : (emitted [Act.emptyOutputBuffer]).length = 0 := rfl
    rw [hnone, CustomJpegDestMgr.act, Nat.add_zero]
    exact h
  | errorExit =>
    have hnone : (emitted [Act.errorExit]).length = 0 := rfl
    rw [hnone, CustomJpegDestMgr.act, Nat.add_zero]
    exact h

theorem run_balanced {d : CustomJpegDestMgr} (h : Balanced d) (acts : List Act) :
    Balanced (d.run acts) := by
  induction acts generalizing d with
  | nil => exact h
  | cons a acts ih => exact ih (act_balanced h a)

/-- Whether the loop comes to a batch of which not all rows are taken. -/
def stopsShort (image_height nl : ℕ) : List Batch → Bool
  | [] => false
  | b :: batches =>
    decide (nl < image_height) &&
      (b.done != mcuV || stopsShort image_height b.next_scanline batches)

def loopActs (image_height nl : ℕ) : List Batch → List Act
  | [] => []
  | b :: batches =>
    if nl < image_height then
      b.acts ++ if b.done ≠ mcuV then [] else loopActs image_height b.next_scanline batches
    else []

def Libjpeg.acts (lib : Libjpeg) (height app1Size : ℕ) : List Act :=
  List.replicate lib.create .errorExit ++ lib.start ++
    (if app1Size ≠ 0 then lib.marker else []) ++ loopActs height 0 lib.batches ++
    if stopsShort height 0 lib.batches then [] else lib.finish

theorem feed_spec {image_height nl : ℕ} {d : CustomJpegDestMgr} {batches : List Batch} {r : Feeding}
    (h : feed image_height nl d batches = some r) :
    r.complete = !stopsShort image_height nl batches ∧
      r.dmgr = d.run (loopActs image_height nl batches) := by
  induction batches generalizing nl d r with
  | nil =>
    unfold feed at h
    split at h
    · cases h
    · cases h
      exact ⟨rfl, rfl⟩
  | cons b batches ih =>
    unfold feed at h
    unfold stopsShort loopActs
    split at h
    · rename_i hnl
      rw [if_pos hnl, decide_eq_true hnl, Bool.true_and]
      dsimp only at h
      split at h
      · rename_i hdone
        cases h
        rw [if_pos hdone, List.append_nil, bne_iff_ne.mpr hdone]
        exact ⟨rfl, rfl⟩
      · rename_i hdone
        obtain ⟨r', hr', rfl⟩ := Option.map_eq_some_iff.mp h
        obtain ⟨hcomplete, hdmgr⟩ := ih hr'
        have hbne : (b.done != mcuV) = false := by
          rw [not_not.mp hdone, bne_self_eq_false]
        rw [if_neg hdone, hbne, Bool.false_or]
        refine ⟨hcomplete, hdmgr.trans ?_⟩
        unfold CustomJpegDestMgr.run
        rw [List.foldl_append]
    · rename_i hnl
      cases h
      rw [if_neg hnl, decide_eq_false hnl]
      exact ⟨rfl, rfl⟩

theorem emitted_errors (errors : ℕ) : emitted (List.replicate errors .errorExit) = [] :=
  List.filterMap_replicate_of_none rfl

theorem create_balanced (errors maxOutSize : ℕ) :
    Balanced (CustomJpegDestMgr.create errors maxOutSize) := by
  unfold Balanced CustomJpegDestMgr.create
  dsimp only
  rw [emitted_errors, List.length_nil]
  omega

theorem create_run_log (errors maxOutSize : ℕ) (acts : List Act) :
    ((CustomJpegDestMgr.create errors maxOutSize).run acts).log =
      List.replicate errors .errorExit ++ acts := run_log _ _

theorem mEncodedSize_eq {d : CustomJpegDestMgr} (h : Balanced d) :
    d.termDestination.mEncodedSize = sizeT (emitted d.log).length := by
  unfold Balanced at h
  unfold CustomJpegDestMgr.termDestination sizeT
  dsimp only
  omega

/-- An encoding that has returned has come out of the loop, and then it finishes or fails. -/
theorem encode_cases {lib : Libjpeg} {inSz : Size} {inLayout : YCbCrLayout}
    {app1Size maxOutSize : ℕ} {e : Encoded}
    (h : encodeJpegYU12 lib inSz inLayout app1Size maxOutSize = some e) :
    ∃ d, d = (CustomJpegDestMgr.create lib.create maxOutSize).run (lib.start ++
        (if app1Size ≠ 0 then lib.marker else []) ++ loopActs inSz.height 0 lib.batches) ∧
      (stopsShort inSz.height 0 lib.batches = true ∧ e.status = -1 ∧ e.dmgr = d ∨
        stopsShort inSz.height 0 lib.batches = false ∧ e.status = 0 ∧
          e.dmgr = (d.run lib.finish).termDestination ∧ e.actualCodeSize = e.dmgr.mEncodedSize) := by
  unfold encodeJpegYU12 at h
  dsimp only at h
  split at h
  · cases h
  · obtain ⟨r, hr, rfl⟩ := Option.map_eq_some_iff.mp h
    obtain ⟨hcomplete, hdmgr⟩ := feed_spec hr
    refine ⟨r.dmgr, ?_, ?_⟩
    · rw [hdmgr]
      unfold CustomJpegDestMgr.run
      split
      · rw [List.foldl_append, List.foldl_append]
      · rw [List.foldl_append, List.append_nil]
    · rw [hcomplete]
      cases hshort : stopsShort inSz.height 0 lib.batches with
      | true =>
        rw [Bool.not_true, if_neg Bool.false_ne_true]
        exact .inl ⟨rfl, rfl, rfl⟩
      | false =>
        rw [Bool.not_false, if_pos rfl]
        exact .inr ⟨rfl, rfl, rfl, rfl⟩

/-- An encoding that has returned fails for a short batch alone. Its code size is the number of
bytes that the library has stored. -/
theorem encode_spec {lib : Libjpeg} {inSz : Size} {inLayout : YCbCrLayout}
    {app1Size maxOutSize : ℕ} {e : Encoded}
    (h : encodeJpegYU12 lib inSz inLayout app1Size maxOutSize = some e) :
    (e.status = 0 ↔ stopsShort inSz.height 0 lib.batches = false) ∧
      e.dmgr.log = lib.acts inSz.height app1Size ∧
      (e.status = 0 → e.actualCodeSize = sizeT (emitted e.dmgr.log).length) := by
  have hfails : (-1 : ℤ) ≠ 0 := by decide
  unfold Libjpeg.acts
  obtain ⟨d, rfl, ⟨hshort, hstatus, hdmgr⟩ | ⟨hshort, hstatus, hdmgr, hcode⟩⟩ := encode_cases h
  · rw [hshort, hstatus, hdmgr, create_run_log, if_pos rfl, List.append_nil]
    refine ⟨⟨fun h0 ↦ absurd h0 hfails, fun h0 ↦ (by cases h0)⟩, ?_, fun h0 ↦ absurd h0 hfails⟩
    simp only [List.append_assoc]
  · have hbalanced := run_balanced (run_balanced (create_balanced lib.create maxOutSize) (lib.start ++
      (if app1Size ≠ 0 then lib.marker else []) ++ loopActs inSz.height 0 lib.batches)) lib.finish
    rw [hshort, if_neg Bool.false_ne_true]
    refine ⟨⟨fun _ ↦ rfl, fun _ ↦ hstatus⟩, ?_, fun _ ↦ ?_⟩
    · rw [hdmgr]
      change ((CustomJpegDestMgr.run _ _).run _).log = _
      rw [run_log, create_run_log]
      simp only [List.append_assoc]
    · rw [hcode, hdmgr]
      exact mEncodedSize_eq hbalanced

end VirtualCamera.Jpeg.Encoder
