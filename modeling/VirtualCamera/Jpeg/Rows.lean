import VirtualCamera.Jpeg.Encoder

namespace VirtualCamera.Jpeg.Rows

open Session.Streams Session.Scaling Jpeg.Encoder

/-- The rows of Y that the library is given, over all batches. -/
def lumaRows (e : Encoded) : List ℕ := e.fed.flatMap fun nl ↦ (e.tables.yLines.drop nl).take mcuV

def chromaRows (e : Encoded) (lines : List ℕ) : List ℕ :=
  e.fed.flatMap fun nl ↦ (lines.drop (nl / cVSubSampling)).take DCTSIZE

def batchCount (height : ℕ) : ℕ := (height + mcuV - 1) / mcuV

/-- The library takes each batch that it is given, and moves on by its rows. -/
def Advances (k : ℕ) (batches : List Batch) : Prop :=
  ∀ j b, batches[j]? = some b → b.done = mcuV ∧ b.next_scanline = mcuV * (k + j + 1)

theorem mcuV_eq : mcuV = 16 := rfl

theorem lt_batchCount {height k : ℕ} : mcuV * k < height ↔ k < batchCount height := by
  unfold batchCount
  rw [mcuV_eq]
  omega

theorem feed_advances {height : ℕ} {batches : List Batch} {k : ℕ} (d : CustomJpegDestMgr)
    (h : Advances k batches) (hk : k ≤ batchCount height)
    (henough : batchCount height ≤ k + batches.length) :
    ∃ r, feed height (mcuV * k) d batches = some r ∧ r.complete = true ∧
      r.fed = (List.range' k (batchCount height - k)).map (mcuV * ·) := by
  induction batches generalizing k d with
  | nil =>
    have hend : k = batchCount height := Nat.le_antisymm hk henough
    refine ⟨⟨true, d, []⟩, ?_, rfl, by rw [hend, Nat.sub_self]; rfl⟩
    exact if_neg (fun hlt ↦ absurd (lt_batchCount.mp hlt) (hend ▸ Nat.lt_irrefl _))
  | cons b batches ih =>
    by_cases hlt : k < batchCount height
    · obtain ⟨hdone, hnext⟩ := h 0 b rfl
      have htail : Advances (k + 1) batches := by
        intro j b' hb'
        obtain ⟨hdone', hnext'⟩ := h (j + 1) b' hb'
        exact ⟨hdone', by rw [hnext']; congr 1; omega⟩
      rw [List.length_cons] at henough
      obtain ⟨r, hr, hcomplete, hfed⟩ := ih (d.run b.acts) htail hlt (by omega)
      refine ⟨{ r with fed := mcuV * k :: r.fed }, ?_, hcomplete, ?_⟩
      · unfold feed
        rw [if_pos (lt_batchCount.mpr hlt)]
        dsimp only
        rw [if_neg (not_not.mpr hdone), hnext, Nat.add_zero, hr]
        rfl
      · have hcount : batchCount height - k = (batchCount height - (k + 1)) + 1 := by omega
        rw [hfed, hcount, List.range'_succ, List.map_cons]
    · have hend : k = batchCount height := by omega
      refine ⟨⟨true, d, []⟩, ?_, rfl, by rw [hend, Nat.sub_self]; rfl⟩
      exact if_neg (fun hlt' ↦ absurd (lt_batchCount.mp hlt') hlt)

theorem flatMap_chunks {α : Type} (l : List α) (c n : ℕ) :
    (List.range n).flatMap (fun k ↦ (l.drop (c * k)).take c) = l.take (c * n) := by
  induction n with
  | zero => simp
  | succ n ih =>
    rw [List.range_succ, List.flatMap_append, ih, List.flatMap_singleton, Nat.mul_succ, List.take_add]

theorem length_yLines (inSz : Size) (inLayout : YCbCrLayout) :
    (rowTables inSz inLayout).yLines.length = mcuV * batchCount inSz.height := by
  unfold rowTables
  dsimp only
  rw [List.length_map, List.length_range]
  rfl

theorem length_chroma (inSz : Size) (inLayout : YCbCrLayout) :
    (rowTables inSz inLayout).cbLines.length = DCTSIZE * batchCount inSz.height ∧
      (rowTables inSz inLayout).crLines.length = DCTSIZE * batchCount inSz.height := by
  have hhalf : paddedHeight inSz.height / cVSubSampling = DCTSIZE * batchCount inSz.height := by
    change mcuV * batchCount inSz.height / 2 = 8 * _
    rw [mcuV_eq]
    omega
  unfold rowTables
  dsimp only
  rw [List.length_map, List.length_map, List.length_range, hhalf]
  exact ⟨rfl, rfl⟩

theorem lumaRows_eq {e : Encoded} {n : ℕ} (hfed : e.fed = (List.range n).map (mcuV * ·))
    (hlength : e.tables.yLines.length = mcuV * n) : lumaRows e = e.tables.yLines := by
  unfold lumaRows
  rw [hfed, List.flatMap_map, flatMap_chunks, List.take_of_length_le hlength.le]

theorem chromaRows_eq {e : Encoded} {lines : List ℕ} {n : ℕ}
    (hfed : e.fed = (List.range n).map (mcuV * ·)) (hlength : lines.length = DCTSIZE * n) :
    chromaRows e lines = lines := by
  have hhalf (k : ℕ) : mcuV * k / cVSubSampling = DCTSIZE * k := by
    change mcuV * k / 2 = 8 * k
    rw [mcuV_eq]
    omega
  unfold chromaRows
  rw [hfed, List.flatMap_map]
  simp only [hhalf]
  rw [flatMap_chunks, List.take_of_length_le hlength.le]

/-- What the library is given: the tables, once, and no more than is in them. -/
theorem rows_of_tables (lib : Libjpeg) (inSz : Size) (inLayout : YCbCrLayout)
    (app1Size maxOutSize : ℕ) (hpadded : paddedHeight inSz.height < 2 ^ 32)
    (hlib : Advances 0 lib.batches) (henough : batchCount inSz.height ≤ lib.batches.length) :
    ∃ e, encodeJpegYU12 lib inSz inLayout app1Size maxOutSize = some e ∧
      e.tables = rowTables inSz inLayout ∧
      e.fed = (List.range (batchCount inSz.height)).map (mcuV * ·) ∧
      lumaRows e = e.tables.yLines ∧ chromaRows e e.tables.cbLines = e.tables.cbLines ∧
      chromaRows e e.tables.crLines = e.tables.crLines := by
  unfold encodeJpegYU12
  dsimp only
  rw [if_neg (Nat.not_le.mpr hpadded)]
  generalize (if app1Size ≠ 0 then
    ((CustomJpegDestMgr.create lib.create maxOutSize).run lib.start).run lib.marker
    else (CustomJpegDestMgr.create lib.create maxOutSize).run lib.start) = d
  obtain ⟨r, hr, hcomplete, hfed⟩ := feed_advances d hlib (Nat.zero_le (batchCount inSz.height))
    (by rw [Nat.zero_add]; exact henough)
  rw [Nat.mul_zero] at hr
  rw [Nat.sub_zero, ← List.range_eq_range'] at hfed
  rw [hr, Option.map_some, if_pos hcomplete]
  obtain ⟨hcb, hcr⟩ := length_chroma inSz inLayout
  exact ⟨_, rfl, rfl, hfed, lumaRows_eq hfed (length_yLines inSz inLayout),
    chromaRows_eq hfed hcb, chromaRows_eq hfed hcr⟩

/-- The rows of a plane as the library should see them: in order, and the last row again where
there is no more. -/
def paddedRows (start stride last n : ℕ) : List ℕ :=
  (List.range n).map fun i ↦ start + min i last * stride

theorem rows_eq {start stride last n : ℕ} (h : last * stride < 2 ^ 32) :
    ((List.range n).map fun i ↦ row start stride (min i last)) = paddedRows start stride last n := by
  unfold paddedRows row
  refine List.map_congr_left fun i _ ↦ ?_
  have hle : min i last * stride ≤ last * stride := Nat.mul_le_mul_right stride (Nat.min_le_right i last)
  rw [Nat.mod_eq_of_lt (by omega)]

/-- Where the offsets of the rows fit in 32 bits, the library is given each row of the three
planes once and in order, in as many batches as there are rows of blocks. -/
theorem rows_fed (lib : Libjpeg) (inSz : Size) (inLayout : YCbCrLayout) (app1Size maxOutSize : ℕ)
    (hpadded : paddedHeight inSz.height < 2 ^ 32)
    (hluma : (inSz.height - 1) * inLayout.yStride < 2 ^ 32)
    (hchroma : (inSz.height - 1) / cVSubSampling * inLayout.cStride < 2 ^ 32)
    (hlib : Advances 0 lib.batches) (henough : batchCount inSz.height ≤ lib.batches.length) :
    ∃ e, encodeJpegYU12 lib inSz inLayout app1Size maxOutSize = some e ∧
      e.fed.length = batchCount inSz.height ∧
      (∀ nl ∈ e.fed, nl + mcuV ≤ e.tables.yLines.length ∧
        nl / cVSubSampling + DCTSIZE ≤ e.tables.cbLines.length ∧
        nl / cVSubSampling + DCTSIZE ≤ e.tables.crLines.length) ∧
      lumaRows e = paddedRows inLayout.y inLayout.yStride (inSz.height - 1)
        (paddedHeight inSz.height) ∧
      chromaRows e e.tables.cbLines = paddedRows inLayout.cb inLayout.cStride
        ((inSz.height - 1) / cVSubSampling) (paddedHeight inSz.height / cVSubSampling) ∧
      chromaRows e e.tables.crLines = paddedRows inLayout.cr inLayout.cStride
        ((inSz.height - 1) / cVSubSampling) (paddedHeight inSz.height / cVSubSampling) := by
  obtain ⟨e, he, htables, hfed, hy, hcb, hcr⟩ :=
    rows_of_tables lib inSz inLayout app1Size maxOutSize hpadded hlib henough
  refine ⟨e, he, ?_, fun nl hnl ↦ ?_, ?_, ?_, ?_⟩
  · rw [hfed, List.length_map, List.length_range]
  · rw [hfed] at hnl
    obtain ⟨k, hk, rfl⟩ := List.mem_map.mp hnl
    have hk := List.mem_range.mp hk
    obtain ⟨hcblen, hcrlen⟩ := length_chroma inSz inLayout
    rw [htables, length_yLines, hcblen, hcrlen, mcuV_eq]
    change _ ∧ 16 * k / 2 + 8 ≤ 8 * _ ∧ 16 * k / 2 + 8 ≤ 8 * _
    omega
  · rw [hy, htables]
    exact rows_eq hluma
  · rw [hcb, htables]
    exact rows_eq hchroma
  · rw [hcr, htables]
    exact rows_eq hchroma

def taken (j : ℕ) : Batch := ⟨[], mcuV, mcuV * (j + 1)⟩

theorem advances_taken (n : ℕ) : Advances 0 ((List.range n).map taken) := by
  intro j b hb
  rw [List.getElem?_map] at hb
  obtain ⟨i, hi, rfl⟩ := Option.map_eq_some_iff.mp hb
  rw [List.getElem?_range (by
    by_contra hnot
    rw [List.getElem?_eq_none (by rw [List.length_range]; omega)] at hi
    cases hi)] at hi
  cases hi
  exact ⟨rfl, by rw [Nat.zero_add]; rfl⟩

theorem exists_advances (n : ℕ) : ∃ lib : Libjpeg, Advances 0 lib.batches ∧ n ≤ lib.batches.length := by
  refine ⟨⟨0, [], [], (List.range n).map taken, []⟩, advances_taken n, ?_⟩
  rw [List.length_map, List.length_range]

theorem rows_fed_eighteen : ∃ e,
    encodeJpegYU12 ⟨0, [], [], (List.range 2).map taken, []⟩ ⟨4, 18⟩ ⟨0, 4, 72, 90, 2, 1⟩ 0 100 = some e ∧
      e.fed.length = 2 ∧ lumaRows e = paddedRows 0 4 17 32 ∧
      chromaRows e e.tables.crLines = paddedRows 90 2 8 16 := by
  obtain ⟨e, he, hfed, -, hy, -, hcr⟩ := rows_fed ⟨0, [], [], (List.range 2).map taken, []⟩ ⟨4, 18⟩
    ⟨0, 4, 72, 90, 2, 1⟩ 0 100 (by decide) (by decide) (by decide) (advances_taken 2) (by decide)
  exact ⟨e, he, hfed, hy, hcr⟩

/-- The offset of row 65537 of a square frame of 65538 pixels has wrapped; no row starts there. -/
theorem row_wrapped : ∃ lib e,
    Advances 0 lib.batches ∧ batchCount (Size.mk 65538 65538).height ≤ lib.batches.length ∧
      encodeJpegYU12 lib ⟨65538, 65538⟩ ⟨0, 65538, 65538 ^ 2, 65538 ^ 2 / 4 * 5, 32769, 1⟩ 0 100 =
        some e ∧
      (lumaRows e)[65537]? = some 196610 ∧ ∀ i, 65538 * i ≠ 196610 := by
  obtain ⟨lib, hlib, henough⟩ := exists_advances (batchCount (Size.mk 65538 65538).height)
  obtain ⟨e, he, htables, -, hy, -⟩ := rows_of_tables lib ⟨65538, 65538⟩
    ⟨0, 65538, 65538 ^ 2, 65538 ^ 2 / 4 * 5, 32769, 1⟩ 0 100 (by decide +kernel) hlib henough
  refine ⟨lib, e, hlib, henough, he, ?_, fun i ↦ by omega⟩
  rw [hy, htables]
  unfold rowTables
  dsimp only
  rw [List.getElem?_map, List.getElem?_range (by decide +kernel)]
  decide +kernel

end VirtualCamera.Jpeg.Rows
