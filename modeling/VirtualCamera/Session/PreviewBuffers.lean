import VirtualCamera.Session.Capture

namespace VirtualCamera.Session.PreviewBuffers

open Capture

/-! ### The memory manager -/

inductive BufferType
  | PREVIEWBUFFER
  | RAWBUFFER
  | JPEGBUFFER
  | VIDEOENCBUFFER
  deriving DecidableEq, Repr

inductive BufferAddr
  | phy
  | vir
  | shareFd
  deriving DecidableEq, Repr

structure CamMemInfo where
  phy_addr : ℕ
  vir_addr : ℕ
  fd : ℕ
  deriving DecidableEq, Repr

def CamMemInfo.addr (info : CamMemInfo) : BufferAddr → ℕ
  | .phy => info.phy_addr
  | .vir => info.vir_addr
  | .shareFd => info.fd

structure BufferInfo where
  mNumBffers : ℕ
  mPerBuffersize : ℕ
  mBufferSizes : ℕ
  mPhyBaseAddr : ℕ
  mVirBaseAddr : ℕ
  mShareFd : ℕ
  mBufType : BufferType
  width : ℕ
  height : ℕ
  deriving DecidableEq, Repr

def BufferInfo.addr (info : BufferInfo) : BufferAddr → ℕ
  | .phy => info.mPhyBaseAddr
  | .vir => info.mVirBaseAddr
  | .shareFd => info.mShareFd

/-- The next multiple of a power of two. -/
def align (n x : ℕ) : ℕ := (x + (n - 1)) / n * n

def PAGE_ALIGN (x : ℕ) : ℕ := align 4096 x

/-- The results of the two calls of `malloc` and of those of `mOps->alloc`. -/
structure AllocOutcome where
  data : Bool
  info : Bool
  alloc : ℕ → Option CamMemInfo

/-- The loop that allocates buffers `i`, `i + 1`, and so on. The description that is passed
along keeps what the last allocation has set. -/
def allocLoop (alloc : ℕ → Option CamMemInfo) (buf : BufferInfo) (i : ℕ) :
    (remaining : ℕ) → Option (List BufferInfo)
  | 0 => some []
  | remaining + 1 =>
    (alloc i).bind fun mem ↦
      let buf := { buf with
        mPhyBaseAddr := mem.phy_addr
        mVirBaseAddr := mem.vir_addr
        mPerBuffersize := PAGE_ALIGN buf.mPerBuffersize
        mShareFd := mem.fd }
      (allocLoop alloc buf (i + 1) remaining).map (buf :: ·)

/-- The array that `mPreviewBufferInfo` points to. The number of buffers is held in an `int`:
a negative one makes the size for `malloc` too large. -/
def createGrallocDrmBuffer (grallocbuf : BufferInfo) (o : AllocOutcome) :
    Option (List BufferInfo) :=
  if grallocbuf.mBufType ≠ .PREVIEWBUFFER ∨ 2 ^ 31 ≤ grallocbuf.mNumBffers ∨ ¬ o.info then none
  else
    let buf := { grallocbuf with
      mBufferSizes := grallocbuf.mNumBffers * PAGE_ALIGN grallocbuf.mPerBuffersize }
    allocLoop o.alloc buf 0 grallocbuf.mNumBffers

/-- On a manager that has no buffers yet. -/
def GrallocDrmMemManager.createPreviewBuffer (previewbuf : BufferInfo) (o : AllocOutcome) :
    Option (List BufferInfo) :=
  if ¬ o.data then none else createGrallocDrmBuffer previewbuf o

/-- The session makes a new manager for each configuration of the streams, with as many
buffers as for video, and goes on without buffers when that fails. -/
def createPreviewBuffer (numVideoBuffers : ℕ) (mV4l2StreamingFmt : SupportedV4L2Format)
    (o : AllocOutcome) : Option (List BufferInfo) :=
  let tempWidth := align 16 mV4l2StreamingFmt.width
  let tempHeight := align 16 mV4l2StreamingFmt.height
  GrallocDrmMemManager.createPreviewBuffer {
    mNumBffers := numVideoBuffers
    mPerBuffersize := PAGE_ALIGN (tempWidth * tempHeight * 2)
    mBufferSizes := 0
    mPhyBaseAddr := 0
    mVirBaseAddr := 0
    mShareFd := 0
    mBufType := .PREVIEWBUFFER
    width := tempWidth
    height := tempHeight } o

/-- There is no result when something is read that is not in the array. -/
def getBufferAddr (mPreviewBufferInfo : Option (List BufferInfo)) (buf_type : BufferType)
    (buf_idx : ℕ) (addr_type : BufferAddr) : Option ℕ :=
  match buf_type with
  | .PREVIEWBUFFER =>
    mPreviewBufferInfo.bind fun infos ↦
      infos.head?.bind fun buf_info ↦
        if buf_info.mNumBffers < buf_idx then some 0
        else infos[buf_idx]?.map fun info ↦ info.addr addr_type
  | _ => some 0

/-! ### The buffer of an index -/

def AllocOutcome.allocated (o : AllocOutcome) (n i : ℕ) : Option CamMemInfo :=
  if i < n then o.alloc i else none

structure AllocOutcome.Succeeds (o : AllocOutcome) (n : ℕ) : Prop where
  data : o.data = true
  info : o.info = true
  small : n < 2 ^ 31
  alloc : ∀ i < n, (o.alloc i).isSome

/-- Buffers that are allocated at the same time have different addresses and descriptors. -/
def AllocOutcome.Distinct (o : AllocOutcome) (n : ℕ) : Prop :=
  ∀ i j mem mem', o.allocated n i = some mem → o.allocated n j = some mem' → i ≠ j →
    mem.vir_addr ≠ mem'.vir_addr ∧ mem.fd ≠ mem'.fd

/-- The indices that a dequeued frame may have. -/
def Dequeues (v : V4l2) (index : ℕ) : Prop := ∃ o, (v.dequeueBuffer o).1 = some index

/-- What a frame is given is the address of the buffer of its index, and frames with
different indices are given different buffers. -/
structure Addressed (v : V4l2) (n : ℕ) (o : AllocOutcome)
    (mPreviewBufferInfo : Option (List BufferInfo)) : Prop where
  address : ∀ index, Dequeues v index → ∃ mem, o.allocated n index = some mem ∧
    ∀ t, getBufferAddr mPreviewBufferInfo .PREVIEWBUFFER index t = some (mem.addr t)
  distinct : ∀ i j, Dequeues v i → Dequeues v j → i ≠ j →
    getBufferAddr mPreviewBufferInfo .PREVIEWBUFFER i .vir ≠
        getBufferAddr mPreviewBufferInfo .PREVIEWBUFFER j .vir ∧
      getBufferAddr mPreviewBufferInfo .PREVIEWBUFFER i .shareFd ≠
        getBufferAddr mPreviewBufferInfo .PREVIEWBUFFER j .shareFd

def granted (v : V4l2) (o : ConfigureOutcome) : ℕ :=
  if v.subDevice then 1 else o.reqbufs.getD 0

/-! ### The array -/

theorem allocLoop_eq_some {alloc : ℕ → Option CamMemInfo} {remaining : ℕ} :
    ∀ {buf : BufferInfo} {i : ℕ} {infos : List BufferInfo},
      allocLoop alloc buf i remaining = some infos →
        infos.length = remaining ∧ ∀ k < remaining, ∃ mem info, alloc (i + k) = some mem ∧
          infos[k]? = some info ∧ info.mNumBffers = buf.mNumBffers ∧
            ∀ t, info.addr t = mem.addr t := by
  induction remaining with
  | zero =>
    intro buf i infos h
    cases h
    exact ⟨rfl, nofun⟩
  | succ remaining ih =>
    intro buf i infos h
    obtain ⟨mem, hmem, h⟩ := Option.bind_eq_some_iff.mp h
    obtain ⟨rest, hrest, rfl⟩ := Option.map_eq_some_iff.mp h
    obtain ⟨hlength, hat⟩ := ih hrest
    refine ⟨by rw [List.length_cons, hlength], fun k hk ↦ ?_⟩
    cases k with
    | zero => exact ⟨mem, _, hmem, rfl, rfl, fun t ↦ by cases t <;> rfl⟩
    | succ k =>
      obtain ⟨mem', info, hmem', hinfo, hnum, haddr⟩ := hat k (Nat.lt_of_succ_lt_succ hk)
      exact ⟨mem', info, by rwa [Nat.add_right_comm, Nat.add_assoc] at hmem', hinfo, hnum, haddr⟩

theorem allocLoop_isSome {alloc : ℕ → Option CamMemInfo} {remaining : ℕ} :
    ∀ {buf : BufferInfo} {i : ℕ}, (allocLoop alloc buf i remaining).isSome ↔
      ∀ k < remaining, (alloc (i + k)).isSome := by
  induction remaining with
  | zero => exact ⟨nofun, fun _ ↦ rfl⟩
  | succ remaining ih =>
    intro buf i
    unfold allocLoop
    cases hmem : alloc i with
    | none =>
      constructor
      · nofun
      · intro h
        have hzero := h 0 (Nat.succ_pos _)
        rw [Nat.add_zero, hmem] at hzero
        cases hzero
    | some mem =>
      rw [Option.bind_some, Option.isSome_map, ih]
      constructor
      · intro h k hk
        cases k with
        | zero => rw [Nat.add_zero, hmem]; rfl
        | succ k =>
          have hk' := h k (Nat.lt_of_succ_lt_succ hk)
          rwa [Nat.add_right_comm, Nat.add_assoc] at hk'
      · intro h k hk
        have hk' := h (k + 1) (Nat.succ_lt_succ hk)
        rwa [Nat.add_right_comm, Nat.add_assoc]

theorem createPreviewBuffer_isSome {n : ℕ} {fmt : SupportedV4L2Format} {o : AllocOutcome} :
    (createPreviewBuffer n fmt o).isSome ↔ o.Succeeds n := by
  unfold createPreviewBuffer GrallocDrmMemManager.createPreviewBuffer createGrallocDrmBuffer
  dsimp only
  constructor
  · intro h
    obtain ⟨infos, hinfos⟩ := Option.isSome_iff_exists.mp h
    obtain ⟨hdata, hinfos⟩ := Option.ite_none_left_eq_some.mp hinfos
    obtain ⟨hinfo, hinfos⟩ := Option.ite_none_left_eq_some.mp hinfos
    obtain ⟨-, hinfo⟩ := not_or.mp hinfo
    obtain ⟨hsmall, hinfo⟩ := not_or.mp hinfo
    have halloc := allocLoop_isSome.mp (Option.isSome_of_eq_some hinfos)
    refine ⟨not_not.mp hdata, not_not.mp hinfo, Nat.lt_of_not_le hsmall, fun i hi ↦ ?_⟩
    have hi' := halloc i hi
    rwa [Nat.zero_add] at hi'
  · intro h
    rw [if_neg (not_not.mpr h.data), if_neg (by
      intro hcond
      obtain hn | hn | hn := hcond
      · exact hn rfl
      · exact absurd h.small (Nat.not_lt.mpr hn)
      · exact hn h.info)]
    apply allocLoop_isSome.mpr
    intro k hk
    rw [Nat.zero_add]
    exact h.alloc k hk

theorem createPreviewBuffer_eq_some {n : ℕ} {fmt : SupportedV4L2Format} {o : AllocOutcome}
    {infos : List BufferInfo} (h : createPreviewBuffer n fmt o = some infos) :
    infos.length = n ∧ ∀ k < n, ∃ mem info, o.alloc k = some mem ∧ infos[k]? = some info ∧
      info.mNumBffers = n ∧ ∀ t, info.addr t = mem.addr t := by
  unfold createPreviewBuffer GrallocDrmMemManager.createPreviewBuffer createGrallocDrmBuffer at h
  dsimp only at h
  obtain ⟨-, h⟩ := Option.ite_none_left_eq_some.mp h
  obtain ⟨-, h⟩ := Option.ite_none_left_eq_some.mp h
  obtain ⟨hlength, hat⟩ := allocLoop_eq_some h
  refine ⟨hlength, fun k hk ↦ ?_⟩
  have hk' := hat k hk
  rwa [Nat.zero_add] at hk'

/-- An index that has a buffer finds it, the next one reads behind the array, and those
behind it get no address. -/
theorem getBufferAddr_of_lt {n : ℕ} {fmt : SupportedV4L2Format} {o : AllocOutcome}
    {infos : List BufferInfo} (h : createPreviewBuffer n fmt o = some infos) {i : ℕ} (hi : i < n) :
    ∃ mem, o.alloc i = some mem ∧
      ∀ t, getBufferAddr (some infos) .PREVIEWBUFFER i t = some (mem.addr t) := by
  obtain ⟨-, hat⟩ := createPreviewBuffer_eq_some h
  obtain ⟨-, first, -, hfirst, hnum, -⟩ := hat 0 (Nat.zero_lt_of_lt hi)
  obtain ⟨mem, info, hmem, hinfo, -, haddr⟩ := hat i hi
  refine ⟨mem, hmem, fun t ↦ ?_⟩
  have hhead : infos.head? = some first := List.head?_eq_getElem?.trans hfirst
  dsimp only [getBufferAddr]
  rw [Option.bind_some, hhead, Option.bind_some, hnum, if_neg (Nat.not_lt.mpr hi.le), hinfo,
    Option.map_some, haddr t]

theorem getBufferAddr_at_count {n : ℕ} {fmt : SupportedV4L2Format} {o : AllocOutcome}
    {infos : List BufferInfo} (h : createPreviewBuffer n fmt o = some infos) (t : BufferAddr) :
    getBufferAddr (some infos) .PREVIEWBUFFER n t = none := by
  obtain ⟨hlength, hat⟩ := createPreviewBuffer_eq_some h
  dsimp only [getBufferAddr]
  rw [Option.bind_some]
  cases hhead : infos.head? with
  | none => rfl
  | some first =>
    have hpos : 0 < n := by
      rw [← hlength]
      exact List.length_pos_of_mem (List.mem_of_head? hhead)
    obtain ⟨-, info, -, hinfo, hnum, -⟩ := hat 0 hpos
    have hsame : first = info :=
      Option.some.inj (hhead.symm.trans (List.head?_eq_getElem?.trans hinfo))
    rw [Option.bind_some, hsame, hnum, if_neg (Nat.lt_irrefl n),
      List.getElem?_eq_none hlength.le, Option.map_none]

theorem getBufferAddr_of_gt {n : ℕ} {fmt : SupportedV4L2Format} {o : AllocOutcome}
    {infos : List BufferInfo} (h : createPreviewBuffer n fmt o = some infos) (hn : 0 < n) {i : ℕ}
    (hi : n < i) (t : BufferAddr) : getBufferAddr (some infos) .PREVIEWBUFFER i t = some 0 := by
  obtain ⟨-, hat⟩ := createPreviewBuffer_eq_some h
  obtain ⟨-, first, -, hfirst, hnum, -⟩ := hat 0 hn
  have hhead : infos.head? = some first := List.head?_eq_getElem?.trans hfirst
  dsimp only [getBufferAddr]
  rw [Option.bind_some, hhead, Option.bind_some, hnum, if_pos hi]

/-! ### The indices that are dequeued -/

theorem streamOff_devices (v : V4l2) (o : StreamOffOutcome) :
    (v.v4l2StreamOffLocked o).2.subDevice = v.subDevice := by
  unfold V4l2.v4l2StreamOffLocked
  dsimp only
  repeat' split
  all_goals rfl

theorem requestBuffers_eq_ok {v v' : V4l2} {fmt : SupportedV4L2Format} {requestFps : ℚ}
    {o : ConfigureOutcome} (h : v.requestBuffers fmt requestFps o = (.ok (), v')) :
    v'.bufferCount = o.reqbufs.getD 0 ∧ v'.subDevice = v.subDevice := by
  unfold V4l2.requestBuffers at h
  dsimp only at h
  split at h
  · cases h
  · rename_i count hcount
    split at h
    · cases h
    · cases h
      rw [hcount]
      exact ⟨rfl, rfl⟩

theorem startStream_eq_ok {v v' : V4l2} {o : ConfigureOutcome}
    (h : v.startStream o = (.ok (), v')) :
    v'.bufferCount = v.bufferCount ∧ v'.subDevice = v.subDevice := by
  unfold V4l2.startStream at h
  split at h
  · cases h
  · split at h
    · cases h
    · obtain ⟨-, rfl⟩ := Prod.mk.inj h
      exact ⟨rfl, rfl⟩

theorem configure_eq_ok {v v' : V4l2} {fmt fmt' : SupportedV4L2Format} {requestFps : ℚ}
    {o : ConfigureOutcome}
    (h : v.configureV4l2StreamLocked fmt requestFps o = (.ok (), fmt', v')) :
    v'.bufferCount = granted v o ∧ v'.subDevice = v.subDevice := by
  have hdevices := streamOff_devices v o.streamOff
  unfold V4l2.configureV4l2StreamLocked at h
  unfold granted
  split at h
  · cases h
  · rename_i w hoff
    rw [hoff] at hdevices
    dsimp only at hdevices
    split at h
    · rename_i hsub
      cases h
      rw [← hdevices, if_pos hsub]
      exact ⟨rfl, rfl⟩
    · rename_i hsub
      rw [← hdevices, if_neg hsub]
      split at h
      · cases h
      · dsimp only at h
        split at h
        · cases h
        · rename_i hrequest
          obtain ⟨hcount, hsub'⟩ := requestBuffers_eq_ok hrequest
          split at h
          · cases h
          · rename_i hstart
            cases h
            obtain ⟨hcount', hsub''⟩ := startStream_eq_ok hstart
            exact ⟨hcount'.trans hcount, hsub''.trans hsub'⟩

theorem takeBuffer_bufferCount (v : V4l2) (o : DequeueOutcome) :
    (v.takeBuffer o).2.bufferCount = v.bufferCount := by
  unfold V4l2.takeBuffer
  dsimp only
  repeat' split
  all_goals rfl

theorem Dequeues.lt {v : V4l2} {index : ℕ} (h : Dequeues v index) : index < v.bufferCount := by
  obtain ⟨o, h⟩ := h
  unfold V4l2.dequeueBuffer at h
  have hcount := takeBuffer_bufferCount v o
  split at h
  · split at h
    · rename_i haccepts
      cases h
      exact haccepts.1
    · cases h
  · split at h
    · cases h
    · rename_i htake
      rw [htake] at hcount
      dsimp only at h hcount
      split at h
      · rename_i haccepts
        cases h
        exact hcount ▸ haccepts.1
      · cases h

theorem dequeues_of_lt {v : V4l2} {index : ℕ} (h : index < v.bufferCount)
    (hsub : v.subDevice = true → index = 0) : Dequeues v index := by
  refine ⟨⟨some ⟨index, 0⟩, true, some ⟨index, 0⟩⟩, ?_⟩
  unfold V4l2.dequeueBuffer
  by_cases hdevice : v.subDevice = true
  · cases hsub hdevice
    rw [if_pos hdevice, if_pos ⟨h, Nat.zero_le _⟩]
  · rw [if_neg hdevice]
    unfold V4l2.takeBuffer
    dsimp only
    by_cases hmain : v.mainDevice = true ∧ index % 2 = 0
    · rw [if_pos hmain, if_neg (not_not.mpr rfl)]
      dsimp only
      rw [if_pos ⟨h, Nat.zero_le _⟩]
    · rw [if_neg hmain]
      dsimp only
      rw [if_pos ⟨h, Nat.zero_le _⟩]

/-! ### The three counts -/

theorem addressed_of_lt {v : V4l2} {n : ℕ} {p : AllocOutcome} {previewFmt : SupportedV4L2Format}
    (hsucceeds : p.Succeeds n) (hdistinct : p.Distinct n)
    (hlt : ∀ index, Dequeues v index → index < n) :
    Addressed v n p (createPreviewBuffer n previewFmt p) := by
  have hsome : (createPreviewBuffer n previewFmt p).isSome :=
    createPreviewBuffer_isSome.mpr hsucceeds
  obtain ⟨infos, hinfos⟩ := Option.isSome_iff_exists.mp hsome
  rw [hinfos]
  refine ⟨fun i hi ↦ ?_, fun i j hi hj hne ↦ ?_⟩
  · obtain ⟨mem, hmem, haddr⟩ := getBufferAddr_of_lt hinfos (hlt i hi)
    exact ⟨mem, (if_pos (hlt i hi)).trans hmem, haddr⟩
  · obtain ⟨mem, hmem, haddr⟩ := getBufferAddr_of_lt hinfos (hlt i hi)
    obtain ⟨mem', hmem', haddr'⟩ := getBufferAddr_of_lt hinfos (hlt j hj)
    obtain ⟨hvir, hfd⟩ := hdistinct i j mem mem' ((if_pos (hlt i hi)).trans hmem)
      ((if_pos (hlt j hj)).trans hmem') hne
    rw [haddr, haddr', haddr, haddr']
    exact ⟨fun he ↦ hvir (Option.some.inj he), fun he ↦ hfd (Option.some.inj he)⟩

/-- After a stream has been configured, every dequeued index finds the buffer of its own if
and only if no buffers are granted, or the allocation has succeeded and no more buffers are
granted than were allocated. -/
theorem addressed_iff (v v' : V4l2) (fmt fmt' previewFmt : SupportedV4L2Format) (requestFps : ℚ)
    (o : ConfigureOutcome) (p : AllocOutcome)
    (hconfigure : v.configureV4l2StreamLocked fmt requestFps o = (.ok (), fmt', v'))
    (hdistinct : p.Distinct v.numVideoBuffers) :
    Addressed v' v.numVideoBuffers p (createPreviewBuffer v.numVideoBuffers previewFmt p) ↔
      granted v o = 0 ∨ p.Succeeds v.numVideoBuffers ∧ granted v o ≤ v.numVideoBuffers := by
  obtain ⟨hcount, hsub⟩ := configure_eq_ok hconfigure
  generalize v.numVideoBuffers = n at hdistinct
  constructor
  · intro h
    rcases Nat.eq_zero_or_pos (granted v o) with hzero | hpos
    · exact .inl hzero
    have hlast : Dequeues v' (granted v o - 1) := by
      apply dequeues_of_lt
      · omega
      · intro hdevice
        rw [granted, if_pos (hsub ▸ hdevice)]
    obtain ⟨mem, hmem, haddr⟩ := h.address _ hlast
    obtain ⟨hlt, -⟩ := Option.ite_none_right_eq_some.mp hmem
    refine .inr ⟨?_, by omega⟩
    apply createPreviewBuffer_isSome.mp
    cases hinfos : createPreviewBuffer n previewFmt p with
    | some infos => rfl
    | none =>
      have hnull := haddr .vir
      rw [hinfos] at hnull
      cases hnull
  · intro hcond
    obtain hzero | ⟨hsucceeds, hle⟩ := hcond
    · have hno : ∀ index, ¬ Dequeues v' index := by
        intro index hindex
        have := hindex.lt
        omega
      exact ⟨fun i hi ↦ absurd hi (hno i), fun i _ hi ↦ absurd hi (hno i)⟩
    · apply addressed_of_lt hsucceeds hdistinct
      intro index hindex
      have := hindex.lt
      omega

def grants (count : ℕ) : ConfigureOutcome where
  streamOff := ⟨true, true⟩
  sFmt := true
  width := 640
  height := 480
  sizeimage := 614400
  reqbufs := some count
  querybuf := fun _ ↦ true
  qbuf := fun _ ↦ true
  streamOn := true
  warmupDqbuf := fun _ ↦ some 0
  warmupQbuf := fun _ ↦ true

def smoothAlloc : AllocOutcome := ⟨true, true, fun i ↦ some ⟨0, 4096 * (i + 1), i + 3⟩⟩

theorem smoothAlloc_distinct (n : ℕ) : smoothAlloc.Distinct n := by
  intro i j mem mem' hmem hmem' hne
  obtain ⟨-, hmem⟩ := Option.ite_none_right_eq_some.mp hmem
  obtain ⟨-, hmem'⟩ := Option.ite_none_right_eq_some.mp hmem'
  cases hmem
  cases hmem'
  dsimp only
  omega

/-- A session with the default configuration: four buffers for video and two for still
captures. -/
def session : V4l2 := (State.create false false 4 2).v4l2

def yuyv (durationDenominator : ℕ) : SupportedV4L2Format :=
  ⟨640, 480, 0x56595559, [⟨1, durationDenominator⟩]⟩

def configured (count durationDenominator : ℕ) : V4l2 :=
  (session.configureV4l2StreamLocked (yuyv durationDenominator) 0 (grants count)).2.2

theorem addressed_iff_still : ∃ v',
    session.configureV4l2StreamLocked (yuyv 15) 0 (grants 2) = (.ok (), yuyv 15, v') ∧
      (Addressed v' 4 smoothAlloc (createPreviewBuffer 4 (yuyv 15) smoothAlloc) ↔
        granted session (grants 2) = 0 ∨
          smoothAlloc.Succeeds 4 ∧ granted session (grants 2) ≤ 4) := by
  have hconfigure : session.configureV4l2StreamLocked (yuyv 15) 0 (grants 2) =
      (.ok (), yuyv 15, configured 2 15) := by decide +kernel
  exact ⟨_, hconfigure, addressed_iff session _ _ _ (yuyv 15) 0 (grants 2) smoothAlloc hconfigure
    (smoothAlloc_distinct 4)⟩

/-- The driver grants one buffer more than the four it was asked for, and hands it out. -/
theorem not_addressed_when_more_granted : ¬ ∀ (v v' : V4l2)
    (fmt fmt' previewFmt : SupportedV4L2Format) (requestFps : ℚ) (o : ConfigureOutcome)
    (p : AllocOutcome), v.configureV4l2StreamLocked fmt requestFps o = (.ok (), fmt', v') →
      p.Distinct v.numVideoBuffers → p.Succeeds v.numVideoBuffers →
        Addressed v' v.numVideoBuffers p
          (createPreviewBuffer v.numVideoBuffers previewFmt p) := by
  intro hall
  have hconfigure : session.configureV4l2StreamLocked (yuyv 30) 0 (grants 5) =
      (.ok (), yuyv 30, configured 5 30) := by decide +kernel
  have hsucceeds : smoothAlloc.Succeeds 4 := ⟨rfl, rfl, by decide, fun _ _ ↦ rfl⟩
  have h := hall session _ _ _ (yuyv 30) 0 (grants 5) smoothAlloc hconfigure
    (smoothAlloc_distinct 4) hsucceeds
  have hlast : Dequeues (configured 5 30) 4 :=
    dequeues_of_lt (by decide +kernel) fun hsub ↦ absurd hsub (by decide +kernel)
  obtain ⟨mem, -, haddr⟩ := h.address 4 hlast
  obtain ⟨infos, hinfos⟩ : ∃ infos, createPreviewBuffer 4 (yuyv 30) smoothAlloc = some infos :=
    Option.isSome_iff_exists.mp (createPreviewBuffer_isSome.mpr hsucceeds)
  have hbehind := getBufferAddr_at_count hinfos .vir
  have hread := haddr .vir
  rw [show session.numVideoBuffers = 4 from rfl, hinfos, hbehind] at hread
  cases hread

end VirtualCamera.Session.PreviewBuffers
