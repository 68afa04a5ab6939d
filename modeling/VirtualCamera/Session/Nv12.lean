import VirtualCamera.Library.Stores
import VirtualCamera.Session.Conversion

namespace VirtualCamera.Session.Nv12

open Library.Memory Library.Stores Conversion

/-! ### The stores of `yuyv_to_nv12` -/

section

variable (width height filesize : ℕ)

def cycles : ℕ := cycleNum width height filesize % 2 ^ 32

/-- `pixNUM*2*i` is an `unsigned int`. -/
def start (i : ℕ) : ℕ := inputStart width height i % 2 ^ 32

def yStores (i : ℕ) : List (ℤ × ℤ) :=
  gather (outputStart width height i) (start width height i) (yOffsets width height)

def uvStores (i : ℕ) : List (ℤ × ℤ) :=
  gather ((width * height + outputStart width height i : ℕ) : ℤ) (start width height i)
    (uvOffsets width height)

/-- Each address in the output with the one in the input that its value is from. The size of an
image is divided by; the largest of the `int`s is `pixNUM*3`, and it is there in a cycle only. -/
def yuyvToNv12 : Option (List (ℤ × ℤ)) :=
  if width * height = 0 ∨ INT_MAX < width * height then none
  else if 0 < cycles width height filesize ∧ INT_MAX < width * height * 3 then none
  else
    some ((List.range (cycles width height filesize)).flatMap (yStores width height) ++
      (List.range (cycles width height filesize)).flatMap (uvStores width height))

/-! ### The two formats -/

def yuyvByte (k r x : ℕ) : ℕ := 2 * (width * height) * k + 2 * width * r + x

def frameBytes : ℕ := width * height + width * height / 2

def nv12Luma (k r c : ℕ) : ℕ := frameBytes width height * k + (width * r + c)

/-- The rows of pairs stand behind the luma of the frame. -/
def nv12Chroma (k r x : ℕ) : ℕ :=
  frameBytes width height * k + (width * height + (width * r + x))

/-- The stores make `n` NV12 frames of as many YUYV frames. -/
structure Converts (n : ℕ) (stores : List (ℤ × ℤ)) : Prop where
  luma : ∀ k r c, k < n → r < height → c < width →
    last stores (nv12Luma width height k r c) = some ((yuyvByte width height k r (2 * c) : ℕ) : ℤ)
  u : ∀ k r c, k < n → r < height / 2 → c < width / 2 →
    last stores (nv12Chroma width height k r (2 * c)) =
      some ((yuyvByte width height k (2 * r) (4 * c + 1) : ℕ) : ℤ)
  v : ∀ k r c, k < n → r < height / 2 → c < width / 2 →
    last stores (nv12Chroma width height k r (2 * c + 1)) =
      some ((yuyvByte width height k (2 * r) (4 * c + 3) : ℕ) : ℤ)
  inside : ∀ s ∈ stores, 0 ≤ s.1 ∧ s.1 < 3 * (width * height) * n / 2 ∧
    0 ≤ s.2 ∧ s.2 < 2 * (width * height) * n

end

/-! ### The offsets of one frame -/

section

variable {width height filesize : ℕ}

def frameOffsets (width height : ℕ) : List ℕ := yOffsets width height ++ uvOffsets width height

theorem getElem?_positions {lo hi stride i : ℕ} (hstride : 0 < stride) (h : lo + stride * i < hi) :
    (positions lo hi stride)[i]? = some (lo + stride * i) := by
  have hlt : i < (hi - lo + stride - 1) / stride := by
    rw [Nat.lt_div_iff_mul_lt hstride, Nat.mul_comm i]
    omega
  exact List.getElem?_range' hlt

theorem length_yOffsets : (yOffsets width height).length = width * height := by
  rw [yOffsets, positions, List.length_range']
  omega

theorem length_uvOffsets : (uvOffsets width height).length = 2 * (uvPositions width height).length := by
  unfold uvOffsets
  simp only [List.length_flatMap, List.length_cons, List.length_nil, List.map_const',
    List.sum_replicate_nat]
  omega

theorem length_frameOffsets (hpos : 0 < width) (hw : width % 2 = 0) (hh : height % 2 = 0) :
    (frameOffsets width height).length = frameBytes width height := by
  obtain ⟨w, rfl⟩ := Nat.dvd_of_mod_eq_zero hw
  obtain ⟨h, rfl⟩ := Nat.dvd_of_mod_eq_zero hh
  have hrows : (2 * h + 1) / 2 = h := by omega
  have hpairs : (2 * w + 1) / 2 = w := by omega
  have harea : 2 * w * (2 * h) / 2 = 2 * (h * w) := by
    rw [Nat.mul_assoc, Nat.mul_div_cancel_left _ Nat.two_pos]
    ring
  unfold frameOffsets frameBytes
  rw [List.length_append, length_yOffsets, length_uvOffsets, length_uvPositions hpos, hrows, hpairs,
    harea]

theorem frameOffsets_luma {r c : ℕ} (hr : r < height) (hc : c < width) :
    (frameOffsets width height)[width * r + c]? = some (2 * width * r + 2 * c) := by
  have hlt : width * r + c < width * height := by
    calc width * r + c < width * (r + 1) := by rw [Nat.mul_succ]; omega
      _ ≤ width * height := Nat.mul_le_mul_left width hr
  unfold frameOffsets
  rw [List.getElem?_append_left (by rw [length_yOffsets]; exact hlt), yOffsets,
    getElem?_positions Nat.two_pos (by omega)]
  congr 1
  ring

theorem row_length (hw : width % 2 = 0) (j : ℕ) :
    (positions (j * width * 2 + 1) (width * 2 * (j + 1)) 4).length = width / 2 := by
  have hrow : width * 2 * (j + 1) = j * width * 2 + 2 * width := by ring
  rw [positions, List.length_range']
  omega

theorem uvPositions_pair (hw : width % 2 = 0) {r c : ℕ} (hr : 2 * r < height) (hc : c < width / 2) :
    (uvPositions width height)[width / 2 * r + c]? = some (2 * width * (2 * r) + 4 * c + 1) := by
  have hrow : width * 2 * (2 * r + 1) = 2 * r * width * 2 + 2 * width := by ring
  unfold uvPositions
  rw [getElem?_flatMap_const (fun j _ ↦ row_length hw j) r hc,
    getElem?_positions Nat.two_pos (by omega), Nat.zero_add, Option.bind_some,
    getElem?_positions (by decide) (by omega)]
  congr 1
  ring

theorem uvOffsets_pair (hw : width % 2 = 0) {r c b : ℕ} (hr : 2 * r < height) (hc : c < width / 2)
    (hb : b < 2) :
    (uvOffsets width height)[width * r + (2 * c + b)]? =
      some (2 * width * (2 * r) + (4 * c + 1 + 2 * b)) := by
  have hindex : width * r + (2 * c + b) = 2 * (width / 2 * r + c) + b := by
    have hhalf : 2 * (width / 2) = width := by omega
    rw [Nat.mul_add, ← Nat.mul_assoc, hhalf, Nat.add_assoc]
  unfold uvOffsets
  rw [hindex, getElem?_flatMap_const (f := fun k ↦ [k, k + 2]) (fun _ _ ↦ rfl) _ hb, uvPositions_pair hw hr hc,
    Option.bind_some]
  obtain rfl | rfl : b = 0 ∨ b = 1 := by omega
  · rfl
  · rfl

theorem frameOffsets_chroma (hw : width % 2 = 0) {r c b : ℕ} (hr : r < height / 2)
    (hc : c < width / 2) (hb : b < 2) :
    (frameOffsets width height)[width * height + (width * r + (2 * c + b))]? =
      some (2 * width * (2 * r) + (4 * c + 1 + 2 * b)) := by
  unfold frameOffsets
  rw [List.getElem?_append_right (by rw [length_yOffsets]; omega), length_yOffsets,
    Nat.add_sub_cancel_left, uvOffsets_pair hw (by omega) hc hb]

theorem frameOffsets_lt (hw : width % 2 = 0) (hh : height % 2 = 0) {o : ℕ}
    (ho : o ∈ frameOffsets width height) : o < 2 * (width * height) := by
  obtain ho | ho := List.mem_append.mp ho
  · obtain ⟨m, rfl, hm⟩ := (mem_positions Nat.two_pos).mp ho
    omega
  · obtain ⟨k, hk, ho⟩ := List.mem_flatMap.mp ho
    obtain ⟨j, m, hj, rfl, hm⟩ := mem_uvPositions.mp hk
    have hrow : 2 * j * width + width ≤ width * height := by
      calc 2 * j * width + width = width * (2 * j + 1) := by ring
        _ ≤ width * height := Nat.mul_le_mul_left width (by omega)
    obtain rfl | ho := List.mem_cons.mp ho
    · omega
    · rw [List.mem_singleton.mp ho]
      omega

/-! ### What is stored -/

theorem frame_eq (i : ℕ) : yStores width height i ++ uvStores width height i =
    gather (outputStart width height i) (start width height i) (frameOffsets width height) := by
  unfold yStores uvStores frameOffsets
  rw [gather_append, length_yOffsets]
  congr 2
  push_cast
  ring

variable {stores : List (ℤ × ℤ)}

theorem mem_stores (h : yuyvToNv12 width height filesize = some stores) {p : ℤ × ℤ} :
    p ∈ stores ↔ ∃ k q o, k < cycles width height filesize ∧
      (frameOffsets width height)[q]? = some o ∧
      p = (((outputStart width height k + q : ℕ) : ℤ), ((start width height k + o : ℕ) : ℤ)) := by
  have hframe (k : ℕ) : p ∈ yStores width height k ++ uvStores width height k ↔
      ∃ q o, (frameOffsets width height)[q]? = some o ∧
        p = (((outputStart width height k + q : ℕ) : ℤ), ((start width height k + o : ℕ) : ℤ)) := by
    rw [frame_eq, mem_gather]
    push_cast
    rfl
  unfold yuyvToNv12 at h
  split at h
  · cases h
  · split at h
    · cases h
    · cases h
      rw [List.mem_append, List.mem_flatMap, List.mem_flatMap]
      constructor
      · intro hcond
        obtain ⟨k, hk, hp⟩ | ⟨k, hk, hp⟩ := hcond
        · obtain ⟨q, o, hq, hp⟩ := (hframe k).mp (List.mem_append_left _ hp)
          exact ⟨k, q, o, List.mem_range.mp hk, hq, hp⟩
        · obtain ⟨q, o, hq, hp⟩ := (hframe k).mp (List.mem_append_right _ hp)
          exact ⟨k, q, o, List.mem_range.mp hk, hq, hp⟩
      · intro hcond
        obtain ⟨k, q, o, hk, hq, hp⟩ := hcond
        obtain hp | hp := List.mem_append.mp ((hframe k).mpr ⟨q, o, hq, hp⟩)
        · exact .inl ⟨k, List.mem_range.mpr hk, hp⟩
        · exact .inr ⟨k, List.mem_range.mpr hk, hp⟩

theorem cycles_eq (h : filesize < 2 ^ 32) :
    cycles width height filesize = cycleNum width height filesize := by
  have hle := (Nat.div_le_self (filesize / (width * height)) 2).trans
    (Nat.div_le_self filesize (width * height))
  exact Nat.mod_eq_of_lt (hle.trans_lt h)

theorem start_eq (h : filesize < 2 ^ 32) {i : ℕ} (hi : i < cycleNum width height filesize) :
    start width height i = inputStart width height i := by
  have hle : inputStart width height i ≤ filesize := by
    calc width * height * 2 * (i - 1) ≤ width * height * 2 * cycleNum width height filesize :=
          Nat.mul_le_mul_left _ (by omega)
      _ = width * height * (2 * (filesize / (width * height) / 2)) := Nat.mul_assoc _ _ _
      _ ≤ width * height * (filesize / (width * height)) :=
          Nat.mul_le_mul_left _ (Nat.mul_div_le _ 2)
      _ ≤ filesize := Nat.mul_div_le _ _
  exact Nat.mod_eq_of_lt (hle.trans_lt h)

theorem stores_offsets (h : yuyvToNv12 width height filesize = some stores)
    (hsize : filesize < 2 ^ 32) :
    stores.map Prod.snd = (yuyvReads width height filesize).map Nat.cast ∧
      stores.map Prod.fst = (yuyvWrites width height filesize).map Nat.cast := by
  have hread (offsets : List ℕ) (dest : ℕ → ℤ) :
      ((List.range (cycleNum width height filesize)).flatMap fun i ↦
        gather (dest i) (start width height i) offsets).map Prod.snd =
      ((List.range (cycleNum width height filesize)).flatMap fun i ↦
        offsets.map (inputStart width height i + ·)).map Nat.cast := by
    rw [List.map_flatMap, List.map_flatMap]
    refine List.flatMap_congr fun i hi ↦ ?_
    rw [map_snd_gather, start_eq hsize (List.mem_range.mp hi)]
  have hwrite (offsets : List ℕ) (dest : ℕ → ℕ) :
      ((List.range (cycleNum width height filesize)).flatMap fun i ↦
        gather (dest i) (start width height i) offsets).map Prod.fst =
      ((List.range (cycleNum width height filesize)).flatMap fun i ↦
        (List.range offsets.length).map (dest i + ·)).map Nat.cast := by
    rw [List.map_flatMap, List.map_flatMap]
    exact List.flatMap_congr fun i _ ↦ map_fst_gather (dest i) _ offsets
  unfold yuyvToNv12 at h
  split at h
  · cases h
  · split at h
    · cases h
    · cases h
      unfold yuyvReads yuyvWrites yStores uvStores
      rw [cycles_eq hsize, List.map_append, List.map_append, List.map_append, List.map_append]
      constructor
      · rw [hread, hread]
      · rw [hwrite, hwrite, length_yOffsets, length_uvOffsets]

theorem outputStart_eq (i : ℕ) : outputStart width height i = frameBytes width height * i := by
  have hsize : width * height * 3 / 2 = frameBytes width height := by
    unfold frameBytes
    omega
  rw [outputStart, hsize, Nat.mul_comm]

theorem place_inj {F k q k' q' : ℕ} (hq : q < F) (hq' : q' < F) (h : F * k + q = F * k' + q') :
    k = k' ∧ q = q' := by
  have hpos : 0 < F := by omega
  have hdiv := congrArg (· / F) h
  rw [Nat.mul_add_div hpos, Nat.mul_add_div hpos, Nat.div_eq_of_lt hq, Nat.div_eq_of_lt hq'] at hdiv
  have hk : k = k' := by omega
  rw [hk] at h
  exact ⟨hk, by omega⟩

theorem source_of_mem (h : yuyvToNv12 width height filesize = some stores) (hpos : 0 < width)
    (hw : width % 2 = 0) (hh : height % 2 = 0) {k q : ℕ} (hq : q < frameBytes width height) {v : ℤ}
    (hv : (((frameBytes width height * k + q : ℕ) : ℤ), v) ∈ stores) :
    ∃ o, (frameOffsets width height)[q]? = some o ∧ v = ((start width height k + o : ℕ) : ℤ) := by
  obtain ⟨k', q', o, -, ho, heq⟩ := (mem_stores h).mp hv
  obtain ⟨hplace, rfl⟩ := Prod.mk.inj heq
  rw [outputStart_eq] at hplace
  have hq' : q' < frameBytes width height := by
    rw [← length_frameOffsets hpos hw hh]
    exact (List.getElem?_eq_some_iff.mp ho).1
  obtain ⟨rfl, rfl⟩ := place_inj hq hq' (Int.ofNat.inj hplace)
  exact ⟨o, ho, rfl⟩

/-- Every byte of a frame is from its place in the frame that its cycle started at. -/
theorem last_stores (h : yuyvToNv12 width height filesize = some stores) (hpos : 0 < width)
    (hw : width % 2 = 0) (hh : height % 2 = 0) {k q o : ℕ} (hk : k < cycles width height filesize)
    (ho : (frameOffsets width height)[q]? = some o) :
    last stores ((frameBytes width height * k + q : ℕ) : ℤ) =
      some ((start width height k + o : ℕ) : ℤ) := by
  have hq : q < frameBytes width height := by
    rw [← length_frameOffsets hpos hw hh]
    exact (List.getElem?_eq_some_iff.mp ho).1
  have hmem : (((frameBytes width height * k + q : ℕ) : ℤ), ((start width height k + o : ℕ) : ℤ)) ∈
      stores := (mem_stores h).mpr ⟨k, q, o, hk, ho, by rw [outputStart_eq]⟩
  refine last_of_mem hmem fun v hv ↦ ?_
  obtain ⟨o', ho', rfl⟩ := source_of_mem h hpos hw hh hq hv
  rw [ho] at ho'
  cases ho'
  rfl

/-- All reads and writes are inside, of any number of frames. -/
theorem stores_inside (h : yuyvToNv12 width height filesize = some stores) (hpos : 0 < width)
    (hw : width % 2 = 0) (hh : height % 2 = 0) {n : ℕ} (hn : cycles width height filesize ≤ n) :
    ∀ s ∈ stores, 0 ≤ s.1 ∧ s.1 < 3 * (width * height) * n / 2 ∧
      0 ≤ s.2 ∧ s.2 < 2 * (width * height) * n := by
  intro s hs
  obtain ⟨k, q, o, hk, ho, rfl⟩ := (mem_stores h).mp hs
  obtain ⟨hq, hget⟩ := List.getElem?_eq_some_iff.mp ho
  rw [length_frameOffsets hpos hw hh] at hq
  have holt : o < 2 * (width * height) :=
    frameOffsets_lt hw hh (hget ▸ List.getElem_mem _)
  have hout : frameBytes width height * k + q < frameBytes width height * n := by
    calc frameBytes width height * k + q < frameBytes width height * (k + 1) := by
          rw [Nat.mul_succ]
          omega
      _ ≤ frameBytes width height * n := Nat.mul_le_mul_left _ (by omega)
  have hin : start width height k + o < 2 * (width * height) * n := by
    calc start width height k + o < width * height * 2 * (k - 1) + 2 * (width * height) := by
          have hstart := Nat.mod_le (inputStart width height k) (2 ^ 32)
          unfold start
          unfold inputStart at hstart ⊢
          omega
      _ = 2 * (width * height) * (k - 1 + 1) := by ring
      _ ≤ 2 * (width * height) * n := Nat.mul_le_mul_left _ (by omega)
  have heven : width * height % 2 = 0 := by rw [Nat.mul_mod, hw, Nat.zero_mul, Nat.zero_mod]
  have hbytes : 2 * frameBytes width height = 3 * (width * height) := by
    unfold frameBytes
    omega
  have htwice : 3 * (width * height) * n = 2 * (frameBytes width height * n) := by
    rw [← hbytes, Nat.mul_assoc]
  rw [outputStart_eq]
  dsimp only
  have hbound : (3 * (width * height) * n : ℤ) = 2 * ((frameBytes width height * n : ℕ) : ℤ) := by
    exact_mod_cast htwice
  rw [hbound]
  refine ⟨by omega, by omega, by omega, ?_⟩
  exact_mod_cast hin

theorem cycleNum_frames (hpos : 0 < width * height) (n : ℕ) :
    cycleNum width height (2 * (width * height) * n) = n := by
  have hsize : 2 * (width * height) * n = width * height * (2 * n) := by ring
  rw [cycleNum, hsize, Nat.mul_div_cancel_left _ hpos, Nat.mul_div_cancel_left _ Nat.two_pos]

theorem yuyvToNv12_isSome : (∃ stores, yuyvToNv12 width height filesize = some stores) ↔
    0 < width * height ∧ width * height ≤ INT_MAX ∧
      (0 < cycles width height filesize → width * height * 3 ≤ INT_MAX) := by
  unfold yuyvToNv12
  split
  · rename_i hsize
    constructor
    · intro hcond
      obtain ⟨_, h⟩ := hcond
      cases h
    · intro hcond
      obtain ⟨hpos, hmax, -⟩ := hcond
      omega
  · rename_i hsize
    split
    · rename_i hcycle
      constructor
      · intro hcond
        obtain ⟨_, h⟩ := hcond
        cases h
      · intro hcond
        obtain ⟨-, -, hmax⟩ := hcond
        exact absurd (hmax hcycle.1) (Nat.not_le.mpr hcycle.2)
    · rename_i hcycle
      exact ⟨fun _ ↦ ⟨by omega, by omega, by omega⟩, fun _ ↦ ⟨_, rfl⟩⟩

theorem converts_none (h : yuyvToNv12 width height filesize = some stores) (hpos : 0 < width)
    (hw : width % 2 = 0) (hh : height % 2 = 0) (hnone : cycles width height filesize = 0) :
    Converts width height 0 stores where
  luma k _ _ hk := absurd hk (Nat.not_lt_zero k)
  u k _ _ hk := absurd hk (Nat.not_lt_zero k)
  v k _ _ hk := absurd hk (Nat.not_lt_zero k)
  inside := stores_inside h hpos hw hh hnone.le

theorem converts_one (h : yuyvToNv12 width height filesize = some stores) (hpos : 0 < width)
    (hw : width % 2 = 0) (hh : height % 2 = 0) (hone : cycles width height filesize = 1) :
    Converts width height 1 stores := by
  have hfirst {q o : ℕ} (ho : (frameOffsets width height)[q]? = some o) :
      last stores ((frameBytes width height * 0 + q : ℕ) : ℤ) = some (o : ℤ) := by
    have hstart : start width height 0 = 0 := rfl
    rw [last_stores h hpos hw hh (hone ▸ Nat.one_pos) ho, hstart, Nat.zero_add]
  refine ⟨fun k r c hk hr hc ↦ ?_, fun k r c hk hr hc ↦ ?_, fun k r c hk hr hc ↦ ?_,
    stores_inside h hpos hw hh hone.le⟩
  all_goals obtain rfl := Nat.lt_one_iff.mp hk
  · rw [nv12Luma, hfirst (frameOffsets_luma hr hc), yuyvByte, Nat.mul_zero, Nat.zero_add]
  · have hu : (frameOffsets width height)[width * height + (width * r + 2 * c)]? =
        some (2 * width * (2 * r) + (4 * c + 1)) := frameOffsets_chroma hw hr hc Nat.two_pos
    rw [nv12Chroma, hfirst hu, yuyvByte, Nat.mul_zero, Nat.zero_add]
  · rw [nv12Chroma, hfirst (frameOffsets_chroma hw hr hc Nat.one_lt_two), yuyvByte, Nat.mul_zero,
      Nat.zero_add]

theorem not_converts (h : yuyvToNv12 width height filesize = some stores)
    (hsize : 0 < width * height) (hw : width % 2 = 0) (hh : height % 2 = 0) {n : ℕ} (hn : 1 < n) :
    ¬ Converts width height n stores := by
  intro hconverts
  obtain ⟨hpos, hheight⟩ := CanonicallyOrderedAdd.mul_pos.mp hsize
  have hluma := hconverts.luma 1 0 0 hn hheight hpos
  have hplace : nv12Luma width height 1 0 0 = frameBytes width height * 1 + 0 := rfl
  have hbyte : yuyvByte width height 1 0 (2 * 0) = 2 * (width * height) := by
    unfold yuyvByte
    omega
  rw [hplace, hbyte] at hluma
  obtain ⟨o, ho, hsource⟩ := source_of_mem h hpos hw hh (by unfold frameBytes; omega)
    (mem_of_last hluma)
  have hstart : start width height 1 = 0 := rfl
  have hfirst : (frameOffsets width height)[0]? = some 0 := frameOffsets_luma hheight hpos
  rw [hfirst] at ho
  cases ho
  rw [hstart] at hsource
  omega

/-- The conversion is right for one frame alone, of a size that the `int`s hold. -/
theorem yuyvToNv12_converts_iff (width height n : ℕ) (hw : width % 2 = 0) (hh : height % 2 = 0) :
    (∃ stores, yuyvToNv12 width height (2 * (width * height) * n) = some stores ∧
      Converts width height n stores) ↔
      0 < width * height ∧
        (n = 0 ∧ width * height ≤ INT_MAX ∨ n = 1 ∧ width * height * 3 ≤ INT_MAX) := by
  constructor
  · intro hcond
    obtain ⟨stores, h, hconverts⟩ := hcond
    obtain ⟨hsize, hmax, hcycle⟩ := yuyvToNv12_isSome.mp ⟨stores, h⟩
    refine ⟨hsize, ?_⟩
    rcases Nat.lt_or_ge 1 n with hn | hn
    · exact absurd hconverts (not_converts h hsize hw hh hn)
    · rw [cycles, cycleNum_frames hsize, Nat.mod_eq_of_lt (by omega)] at hcycle
      omega
  · intro hcond
    obtain ⟨hsize, hn⟩ := hcond
    have hpos := (CanonicallyOrderedAdd.mul_pos.mp hsize).1
    have hcycles : cycles width height (2 * (width * height) * n) = n := by
      rw [cycles, cycleNum_frames hsize, Nat.mod_eq_of_lt (by omega)]
    obtain ⟨stores, h⟩ : ∃ stores, yuyvToNv12 width height (2 * (width * height) * n) = some stores :=
      yuyvToNv12_isSome.mpr ⟨hsize, by omega, by omega⟩
    refine ⟨stores, h, ?_⟩
    obtain ⟨rfl, -⟩ | ⟨rfl, -⟩ := hn
    · exact converts_none h hpos hw hh hcycles
    · exact converts_one h hpos hw hh hcycles

theorem converts_two_rows : ∃ stores,
    yuyvToNv12 2 2 8 = some stores ∧ Converts 2 2 1 stores :=
  (yuyvToNv12_converts_iff 2 2 1 rfl rfl).mpr (by decide)

/-- The second frame of two begins with the first byte of the input; its own is the ninth. -/
theorem second_frame_repeats : ∃ stores,
    yuyvToNv12 2 2 16 = some stores ∧ last stores (nv12Luma 2 2 1 0 0) = some 0 ∧
      yuyvByte 2 2 1 0 0 = 8 := by
  refine ⟨_, rfl, ?_, rfl⟩
  decide

end

end VirtualCamera.Session.Nv12
