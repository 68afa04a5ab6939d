import VirtualCamera.Library.Allocations
import VirtualCamera.Library.Fallible
import VirtualCamera.Session.PreviewBuffers

namespace VirtualCamera.Session.MemManager

open Library.Allocations Library.Fallible
open PreviewBuffers (CamMemInfo BufferInfo BufferType AllocOutcome PAGE_ALIGN allocLoop)

/-! ### The memory manager over its calls -/

/-- Why a call does not return: it waits for the lock that it holds itself, it frees a buffer
that is not live, or it uses a pointer that is null or behind its array. -/
inductive Fault
  | selfDeadlock
  | doubleFree
  | badPointer
  deriving DecidableEq, Repr

structure Mem where
  id : ℕ
  info : CamMemInfo
  deriving DecidableEq

def opsFree (mem : Mem) (pool : Pool) : Except Fault Pool :=
  orError .doubleFree (pool.free mem.id)

/-- The manager and the buffers that it has from the allocator. -/
structure GrallocDrmMemManager where
  mLock : Bool
  mPreviewData : Option (List (Option Mem))
  mPreviewBufferInfo : Option (List BufferInfo)
  pool : Pool
  deriving DecidableEq

namespace GrallocDrmMemManager

def init : GrallocDrmMemManager := ⟨false, none, none, .empty⟩

/-- The mutex is not recursive. -/
def lock (m : GrallocDrmMemManager) : Except Fault GrallocDrmMemManager :=
  if m.mLock then .error .selfDeadlock else .ok { m with mLock := true }

def unlock (m : GrallocDrmMemManager) : GrallocDrmMemManager := { m with mLock := false }

end GrallocDrmMemManager

/-- The loop that allocates buffers `i`, `i + 1`, and so on; false when an allocation fails. -/
def allocBuffers (alloc : ℕ → Option CamMemInfo) (grallocbuf : BufferInfo) (i : ℕ) :
    (remaining : ℕ) → List Mem → List BufferInfo → Pool →
      Bool × List Mem × List BufferInfo × Pool
  | 0, mems, infos, pool => (true, mems, infos, pool)
  | remaining + 1, mems, infos, pool =>
    match alloc i with
    | none => (false, mems, infos, pool)
    | some mem =>
      let grallocbuf := { grallocbuf with
        mPhyBaseAddr := mem.phy_addr
        mVirBaseAddr := mem.vir_addr
        mPerBuffersize := PAGE_ALIGN grallocbuf.mPerBuffersize
        mShareFd := mem.fd }
      allocBuffers alloc grallocbuf (i + 1) remaining (mems ++ [⟨pool.next, mem⟩])
        (infos ++ [grallocbuf]) pool.alloc

def freeBuffers : List Mem → Pool → Except Fault Pool
  | [], pool => .ok pool
  | mem :: mems, pool => opsFree mem pool >>= freeBuffers mems

def freeMapped : (remaining : ℕ) → List (Option Mem) → Pool → Except Fault Pool
  | 0, _, pool => .ok pool
  | _ + 1, [], _ => .error .badPointer
  | remaining + 1, none :: slots, pool => freeMapped remaining slots pool
  | remaining + 1, some mem :: slots, pool =>
    if mem.info.vir_addr ≠ 0 then opsFree mem pool >>= fun pool ↦ freeMapped remaining slots pool
    else freeMapped remaining slots pool

namespace GrallocDrmMemManager

/-- The caller has made sure that there is a pointer for each buffer, and that it is null. -/
def createGrallocDrmBuffer (grallocbuf : BufferInfo) (o : AllocOutcome)
    (m : GrallocDrmMemManager) : Except Fault (ℤ × GrallocDrmMemManager) :=
  if grallocbuf.mBufType ≠ .PREVIEWBUFFER ∨ 2 ^ 31 ≤ grallocbuf.mNumBffers ∨ ¬ o.info then
    .ok (-1, m)
  else
    let buf := { grallocbuf with
      mBufferSizes := grallocbuf.mNumBffers * PAGE_ALIGN grallocbuf.mPerBuffersize }
    match allocBuffers o.alloc buf 0 grallocbuf.mNumBffers [] [] m.pool with
    | (true, mems, infos, pool) => .ok (0, { m with
        mPreviewData := m.mPreviewData.map fun slots ↦
          mems.map some ++ slots.drop mems.length
        mPreviewBufferInfo := some infos
        pool := pool })
    | (false, mems, _, pool) => do
      let pool ← freeBuffers mems.reverse pool
      return (-1, { m with mPreviewBufferInfo := none, pool := pool })

/-- The number of buffers is read from the first description. -/
def destroyGrallocDrmBuffer (m : GrallocDrmMemManager) : Except Fault GrallocDrmMemManager :=
  match m.mPreviewBufferInfo with
  | none => .ok { m with mPreviewData := none }
  | some [] => .error .badPointer
  | some (first :: _) => do
    let pool ← freeMapped first.mNumBffers (m.mPreviewData.getD []) m.pool
    return { m with mPreviewData := none, mPreviewBufferInfo := none, pool := pool }

def destroyPreviewBuffer (m : GrallocDrmMemManager) : Except Fault (ℤ × GrallocDrmMemManager) := do
  let m ← m.lock
  let m ← m.destroyGrallocDrmBuffer
  return (0, m.unlock)

/-- The array of pointers is obtained, or the buffers that there are get destroyed first. There
is no manager when `malloc` fails. -/
def obtainData (previewbuf : BufferInfo) (o : AllocOutcome) (m : GrallocDrmMemManager) :
    Except Fault (Option GrallocDrmMemManager) :=
  match m.mPreviewData with
  | none => .ok (if o.data then
      some { m with mPreviewData := some (List.replicate previewbuf.mNumBffers none) } else none)
  | some (some mem :: _) =>
    if mem.info.vir_addr ≠ 0 then do
      let (_, m) ← m.destroyPreviewBuffer
      return some m
    else .ok (some m)
  | some _ => .error .badPointer

def clearData (n : ℕ) (m : GrallocDrmMemManager) : Except Fault GrallocDrmMemManager :=
  match m.mPreviewData with
  | none => .error .badPointer
  | some slots =>
    if n ≤ slots.length then
      .ok { m with mPreviewData := some (List.replicate n none ++ slots.drop n) }
    else .error .badPointer

/-- After a success the first description is read for the log. -/
def conclude (ret : ℤ) (m : GrallocDrmMemManager) : Except Fault GrallocDrmMemManager :=
  if ret = 0 then
    match m.mPreviewBufferInfo with
    | some (_ :: _) => .ok m
    | _ => .error .badPointer
  else .ok { m with mPreviewData := none }

def createPreviewBuffer (previewbuf : BufferInfo) (o : AllocOutcome) (m : GrallocDrmMemManager) :
    Except Fault (ℤ × GrallocDrmMemManager) := do
  let m ← m.lock
  match ← m.obtainData previewbuf o with
  | none => return (-1, m.unlock)
  | some m =>
    let m ← m.clearData previewbuf.mNumBffers
    let (ret, m) ← m.createGrallocDrmBuffer previewbuf o
    let m ← m.conclude ret
    return (ret, m.unlock)

end GrallocDrmMemManager

inductive Call
  | createPreviewBuffer (previewbuf : BufferInfo) (o : AllocOutcome)
  | destroyPreviewBuffer

def GrallocDrmMemManager.call (m : GrallocDrmMemManager) :
    Call → Except Fault (ℤ × GrallocDrmMemManager)
  | .createPreviewBuffer previewbuf o => m.createPreviewBuffer previewbuf o
  | .destroyPreviewBuffer => m.destroyPreviewBuffer

/-! ### The discipline -/

def Call.LeavesLive : Call → ℤ → ℕ → Prop
  | .createPreviewBuffer previewbuf _, ret, live =>
    live = if ret = 0 then previewbuf.mNumBffers else 0
  | .destroyPreviewBuffer, _, live => live = 0

/-- All the calls return, without freeing a buffer twice, and leave the right number of
buffers. -/
def GrallocDrmMemManager.Disciplined : GrallocDrmMemManager → List Call → Prop
  | _, [] => True
  | m, c :: calls => ∃ ret m', m.call c = .ok (ret, m') ∧ c.LeavesLive ret m'.pool.live.card ∧
      m'.Disciplined calls

/-- Buffers are created when there are none, and not zero of them, and those that are
destroyed have an address. -/
def Call.Fits (m : GrallocDrmMemManager) : Call → Prop
  | .createPreviewBuffer previewbuf o => m.mPreviewData = none ∧
      (previewbuf.mNumBffers = 0 → previewbuf.mBufType = .PREVIEWBUFFER → ¬ (o.data ∧ o.info))
  | .destroyPreviewBuffer => ∀ slots, m.mPreviewData = some slots →
      ∀ mem, some mem ∈ slots → mem.info.vir_addr ≠ 0

def GrallocDrmMemManager.AllFit : GrallocDrmMemManager → List Call → Prop
  | _, [] => True
  | m, c :: calls => c.Fits m ∧ ∀ ret m', m.call c = .ok (ret, m') → m'.AllFit calls

/-! ### The loops -/

/-- The buffers that the loop has obtained are live, and it goes on for as long as the loop that
only makes the descriptions. -/
theorem allocBuffers_spec (alloc : ℕ → Option CamMemInfo) {p : Pool} (remaining : ℕ) :
    ∀ (buf : BufferInfo) (i : ℕ) (mems : List Mem) (infos : List BufferInfo) {pool : Pool},
      Pool.Handed p pool (mems.map Mem.id) → ∃ mems' infos' pool',
        allocBuffers alloc buf i remaining mems infos pool =
          ((allocLoop alloc buf i remaining).isSome, mems', infos', pool') ∧
        Pool.Handed p pool' (mems'.map Mem.id) ∧
        ∀ rest, allocLoop alloc buf i remaining = some rest →
          mems'.length = mems.length + remaining ∧ infos' = infos ++ rest := by
  induction remaining with
  | zero =>
    intro buf i mems infos pool h
    refine ⟨mems, infos, pool, rfl, h, fun rest hrest ↦ ?_⟩
    cases hrest
    exact ⟨rfl, (List.append_nil infos).symm⟩
  | succ remaining ih =>
    intro buf i mems infos pool h
    rw [allocBuffers, allocLoop]
    cases alloc i with
    | none => exact ⟨mems, infos, pool, rfl, h, nofun⟩
    | some mem =>
      have hnext : Pool.Handed p pool.alloc ((mems ++ [Mem.mk pool.next mem]).map Mem.id) := by
        rw [List.map_append]
        exact h.alloc
      rw [Option.bind_some]
      dsimp only
      obtain ⟨mems', infos', pool', heq, hhanded, hat⟩ := ih { buf with
        mPhyBaseAddr := mem.phy_addr
        mVirBaseAddr := mem.vir_addr
        mPerBuffersize := PAGE_ALIGN buf.mPerBuffersize
        mShareFd := mem.fd } (i + 1) (mems ++ [Mem.mk pool.next mem]) (infos ++ [_]) hnext
      refine ⟨mems', infos', pool', ?_, hhanded, fun rest hrest ↦ ?_⟩
      · rw [Option.isSome_map]
        exact heq
      · obtain ⟨rest', hrest', rfl⟩ := Option.map_eq_some_iff.mp hrest
        obtain ⟨hlength, hinfos⟩ := hat rest' hrest'
        rw [List.length_append, List.length_singleton] at hlength
        rw [List.append_assoc] at hinfos
        exact ⟨by omega, hinfos⟩

theorem freeBuffers_eq (mems : List Mem) (pool : Pool) :
    freeBuffers mems pool = orError .doubleFree (Pool.freeAll (mems.map Mem.id) pool) := by
  induction mems generalizing pool with
  | nil => rfl
  | cons mem mems ih =>
    rw [freeBuffers, List.map_cons, Pool.freeAll, opsFree]
    cases pool.free mem.id with
    | none => rfl
    | some pool' => exact ih pool'

theorem freeMapped_eq {mems : List Mem} (h : ∀ mem ∈ mems, mem.info.vir_addr ≠ 0) (pool : Pool) :
    freeMapped mems.length (mems.map some) pool = freeBuffers mems pool := by
  induction mems generalizing pool with
  | nil => rfl
  | cons mem mems ih =>
    rw [List.length_cons, List.map_cons, freeMapped, if_pos (h mem List.mem_cons_self), freeBuffers]
    congr 1
    funext pool'
    exact ih (fun mem' hmem ↦ h mem' (List.mem_cons_of_mem _ hmem)) pool'

theorem opsFree_eq_ok {mem : Mem} {pool pool' : Pool} (h : opsFree mem pool = .ok pool') :
    pool' = pool.sdiff {mem.id} := by
  have hfree := orError_eq_ok.mp h
  rw [Pool.free] at hfree
  exact (Option.some.inj (Option.ite_none_right_eq_some.mp hfree).2).symm

theorem mem_live_of_freeMapped {id remaining : ℕ} {slots : List (Option Mem)} {pool pool' : Pool}
    (h : freeMapped remaining slots pool = .ok pool') (hlive : id ∈ pool.live)
    (haddr : ∀ mem, some mem ∈ slots → mem.id = id → mem.info.vir_addr = 0) :
    id ∈ pool'.live := by
  induction remaining, slots, pool using freeMapped.induct with
  | case1 slots pool =>
    cases h
    exact hlive
  | case2 => cases h
  | case3 remaining slots pool ih =>
    exact ih h hlive fun mem hmem ↦ haddr mem (List.mem_cons_of_mem _ hmem)
  | case4 remaining mem slots pool hvir ih =>
    rw [freeMapped, if_pos hvir] at h
    obtain ⟨pool'', hfree, h⟩ := bind_eq_ok.mp h
    refine ih pool'' h ?_ fun mem' hmem ↦ haddr mem' (List.mem_cons_of_mem _ hmem)
    rw [opsFree_eq_ok hfree, Pool.sdiff_live, Finset.mem_sdiff, Finset.mem_singleton]
    exact ⟨hlive, fun he ↦ hvir (haddr mem List.mem_cons_self he.symm)⟩
  | case5 remaining mem slots pool hvir ih =>
    rw [freeMapped, if_neg hvir] at h
    exact ih h hlive fun mem' hmem ↦ haddr mem' (List.mem_cons_of_mem _ hmem)

/-! ### One call -/

namespace GrallocDrmMemManager

structure Created (m m' : GrallocDrmMemManager) (mems : List Mem) (infos : List BufferInfo) :
    Prop where
  mLock : m'.mLock = m.mLock
  mPreviewData : m'.mPreviewData = m.mPreviewData.map fun slots ↦
    mems.map some ++ slots.drop mems.length
  mPreviewBufferInfo : m'.mPreviewBufferInfo = some infos
  pool : Pool.Handed m.pool m'.pool (mems.map Mem.id)

structure NotCreated (m m' : GrallocDrmMemManager) : Prop where
  mLock : m'.mLock = m.mLock
  mPreviewBufferInfo : m.mPreviewBufferInfo = none → m'.mPreviewBufferInfo = none
  live : m'.pool.live = m.pool.live

theorem createGrallocDrmBuffer_spec (grallocbuf : BufferInfo) (o : AllocOutcome)
    (m : GrallocDrmMemManager) :
    (∃ m' mems infos, m.createGrallocDrmBuffer grallocbuf o = .ok (0, m') ∧
      PreviewBuffers.createGrallocDrmBuffer grallocbuf o = some infos ∧
      mems.length = grallocbuf.mNumBffers ∧ Created m m' mems infos) ∨
    ∃ m', m.createGrallocDrmBuffer grallocbuf o = .ok (-1, m') ∧
      PreviewBuffers.createGrallocDrmBuffer grallocbuf o = none ∧ NotCreated m m' := by
  rw [createGrallocDrmBuffer, PreviewBuffers.createGrallocDrmBuffer]
  split
  · exact .inr ⟨m, rfl, rfl, rfl, id, rfl⟩
  · dsimp only
    obtain ⟨mems, infos, pool, heq, hhanded, hat⟩ :=
      allocBuffers_spec o.alloc grallocbuf.mNumBffers { grallocbuf with
        mBufferSizes := grallocbuf.mNumBffers * PAGE_ALIGN grallocbuf.mPerBuffersize }
        0 [] [] (Pool.Handed.refl m.pool)
    rw [heq]
    cases hloop : allocLoop o.alloc _ 0 grallocbuf.mNumBffers with
    | some rest =>
      obtain ⟨hlength, hinfos⟩ := hat rest hloop
      rw [List.length_nil, Nat.zero_add] at hlength
      exact .inl ⟨_, mems, rest, rfl, rfl, hlength, rfl, rfl, congrArg some hinfos, hhanded⟩
    | none =>
      obtain ⟨q, hfree, hlive⟩ := hhanded.freeAll ((List.reverse_perm mems).map Mem.id)
      have hfreed : freeBuffers mems.reverse pool = .ok q := by
        rw [freeBuffers_eq, hfree]
        rfl
      refine .inr ⟨{ m with mPreviewBufferInfo := none, pool := q }, ?_, rfl, rfl, fun _ ↦ rfl,
        hlive⟩
      dsimp only [Option.isSome_none]
      rw [hfreed]
      rfl

/-! ### The invariant -/

structure IsEmpty (m : GrallocDrmMemManager) : Prop where
  mPreviewData : m.mPreviewData = none
  mPreviewBufferInfo : m.mPreviewBufferInfo = none
  live : m.pool.live = ∅

/-- The live buffers are those that the array points to, and the first description tells how
many they are. -/
structure Holds (m : GrallocDrmMemManager) (mems : List Mem) : Prop where
  mPreviewData : m.mPreviewData = some (mems.map some)
  mPreviewBufferInfo : ∃ first infos, m.mPreviewBufferInfo = some (first :: infos) ∧
    first.mNumBffers = mems.length
  ne_nil : mems ≠ []
  nodup : (mems.map Mem.id).Nodup
  live : m.pool.live = (mems.map Mem.id).toFinset

/-- Between two calls. -/
structure Inv (m : GrallocDrmMemManager) : Prop where
  mLock : m.mLock = false
  buffers : m.IsEmpty ∨ ∃ mems, m.Holds mems

theorem inv_init : init.Inv := ⟨rfl, .inl ⟨rfl, rfl, rfl⟩⟩

variable {m m' : GrallocDrmMemManager} {mems : List Mem}

theorem Holds.card (h : m.Holds mems) : m.pool.live.card = mems.length := by
  rw [h.live, List.toFinset_card_of_nodup h.nodup, List.length_map]

theorem Holds.unlock (h : m.Holds mems) : m.unlock.Holds mems :=
  ⟨h.mPreviewData, h.mPreviewBufferInfo, h.ne_nil, h.nodup, h.live⟩

/-! ### Destruction -/

theorem Inv.destroyPreviewBuffer_eq (h : m.Inv) : m.destroyPreviewBuffer =
    ({ m with mLock := true } : GrallocDrmMemManager).destroyGrallocDrmBuffer >>= fun m ↦
      .ok (0, m.unlock) := by
  rw [destroyPreviewBuffer, lock, h.mLock]
  rfl

/-- Without buffers nothing is destroyed, and buffers that all have an address are. -/
theorem Inv.destroyPreviewBuffer_spec (h : m.Inv) (hfits : Call.destroyPreviewBuffer.Fits m) :
    ∃ m', m.destroyPreviewBuffer = .ok (0, m') ∧ m'.mLock = false ∧ m'.IsEmpty := by
  rw [h.destroyPreviewBuffer_eq, destroyGrallocDrmBuffer]
  dsimp only
  rcases h.buffers with hempty | ⟨mems, hholds⟩
  · rw [hempty.mPreviewBufferInfo]
    exact ⟨_, rfl, rfl, rfl, rfl, hempty.live⟩
  · obtain ⟨first, infos, hinfos, hnum⟩ := hholds.mPreviewBufferInfo
    have haddr : ∀ mem ∈ mems, mem.info.vir_addr ≠ 0 := fun mem hmem ↦
      hfits _ hholds.mPreviewData mem (List.mem_map_of_mem hmem)
    have hlive : ∀ id ∈ mems.map Mem.id, id ∈ m.pool.live := by
      intro id hid
      rw [hholds.live]
      exact List.mem_toFinset.mpr hid
    rw [hinfos, hholds.mPreviewData]
    dsimp only [Option.getD_some]
    rw [hnum, freeMapped_eq haddr, freeBuffers_eq, Pool.freeAll_eq hholds.nodup hlive]
    refine ⟨_, rfl, rfl, rfl, rfl, ?_⟩
    rw [unlock, Pool.sdiff_live, hholds.live, Finset.sdiff_self]

/-- A buffer without an address is not destroyed. -/
theorem Inv.fits_of_destroyPreviewBuffer (h : m.Inv) {ret : ℤ}
    (hok : m.destroyPreviewBuffer = .ok (ret, m')) (hlive : m'.pool.live = ∅) :
    Call.destroyPreviewBuffer.Fits m := by
  intro slots hslots mem hmem hzero
  rw [h.destroyPreviewBuffer_eq, destroyGrallocDrmBuffer] at hok
  dsimp only at hok
  rcases h.buffers with hempty | ⟨mems, hholds⟩
  · rw [hempty.mPreviewData] at hslots
    cases hslots
  · obtain ⟨first, infos, hinfos, hnum⟩ := hholds.mPreviewBufferInfo
    cases hholds.mPreviewData.symm.trans hslots
    rw [hinfos, hholds.mPreviewData] at hok
    obtain ⟨m'', hdestroy, hok⟩ := bind_eq_ok.mp hok
    obtain ⟨pool, hfree, hdestroy⟩ := bind_eq_ok.mp hdestroy
    cases hdestroy
    cases hok
    obtain ⟨mem', hmem', hsome⟩ := List.mem_map.mp hmem
    cases hsome
    have hid : mem.id ∈ pool.live := by
      refine mem_live_of_freeMapped hfree ?_ fun mem'' hmem'' hsame ↦ ?_
      · rw [hholds.live]
        exact List.mem_toFinset.mpr (List.mem_map_of_mem hmem')
      · obtain ⟨_, hin, hsome⟩ := List.mem_map.mp hmem''
        cases hsome
        rw [List.inj_on_of_nodup_map hholds.nodup hin hmem' hsame]
        exact hzero
    have hnone : pool.live = ∅ := hlive
    rw [hnone] at hid
    exact Finset.notMem_empty _ hid

/-! ### Creation -/

theorem Inv.isEmpty (h : m.Inv) (hdata : m.mPreviewData = none) : m.IsEmpty := by
  rcases h.buffers with hempty | ⟨mems, hholds⟩
  · exact hempty
  · rw [hholds.mPreviewData] at hdata
    cases hdata

theorem clearData_replicate {n : ℕ} (h : m.mPreviewData = some (List.replicate n none)) :
    m.clearData n = .ok m := by
  have hlength : n ≤ (List.replicate n (none : Option Mem)).length :=
    (List.length_replicate).ge
  rw [clearData, h]
  dsimp only
  rw [if_pos hlength, List.drop_of_length_le (List.length_replicate).le, List.append_nil, ← h]

theorem Created.holds {first : BufferInfo} {infos : List BufferInfo}
    (h : Created m m' mems (first :: infos)) (hlive : m.pool.live = ∅)
    (hdata : m.mPreviewData = some (List.replicate mems.length none))
    (hnum : first.mNumBffers = mems.length) (hne : mems ≠ []) : m'.Holds mems where
  mPreviewData := by
    rw [h.mPreviewData, hdata, Option.map_some,
      List.drop_of_length_le (List.length_replicate).le, List.append_nil]
  mPreviewBufferInfo := ⟨first, infos, h.mPreviewBufferInfo, hnum⟩
  ne_nil := hne
  nodup := h.pool.nodup
  live := by rw [h.pool.live, hlive, Finset.empty_union]

theorem createGrallocDrmBuffer_eq_some {buf : BufferInfo} {o : AllocOutcome}
    {infos : List BufferInfo} (h : PreviewBuffers.createGrallocDrmBuffer buf o = some infos) :
    buf.mBufType = .PREVIEWBUFFER ∧ o.info = true ∧ (buf.mNumBffers ≠ 0 →
      ∃ first rest, infos = first :: rest ∧ first.mNumBffers = buf.mNumBffers) := by
  obtain ⟨hinfo, hloop⟩ := Option.ite_none_left_eq_some.mp h
  obtain ⟨htype, hinfo⟩ := not_or.mp hinfo
  obtain ⟨-, hinfo⟩ := not_or.mp hinfo
  refine ⟨not_not.mp htype, not_not.mp hinfo, fun hpos ↦ ?_⟩
  obtain ⟨-, hat⟩ := PreviewBuffers.allocLoop_eq_some hloop
  obtain ⟨-, first, -, hfirst, hnum, -⟩ := hat 0 (Nat.pos_of_ne_zero hpos)
  cases infos with
  | nil => cases hfirst
  | cons head rest =>
    cases hfirst
    exact ⟨first, rest, rfl, hnum⟩

theorem createPreviewBuffer_eq {previewbuf : BufferInfo} {o : AllocOutcome}
    (hlock : m.mLock = false) (hobtain : ({ m with mLock := true } :
      GrallocDrmMemManager).obtainData previewbuf o = .ok (some m')) :
    m.createPreviewBuffer previewbuf o =
      m'.clearData previewbuf.mNumBffers >>= fun m ↦ m.createGrallocDrmBuffer previewbuf o >>=
        fun p ↦ p.2.conclude p.1 >>= fun m ↦ .ok (p.1, m.unlock) := by
  rw [createPreviewBuffer, lock, hlock]
  change (obtainData previewbuf o { m with mLock := true } >>= _) = _
  rw [hobtain]
  rfl

def ready (n : ℕ) (m : GrallocDrmMemManager) : GrallocDrmMemManager :=
  { m with mLock := true, mPreviewData := some (List.replicate n none) }

theorem obtainData_of_none (hdata : m.mPreviewData = none) (previewbuf : BufferInfo)
    (o : AllocOutcome) :
    ({ m with mLock := true } : GrallocDrmMemManager).obtainData previewbuf o =
      .ok (if o.data then some (m.ready previewbuf.mNumBffers) else none) := by
  unfold obtainData
  dsimp only
  rw [hdata]
  rfl

theorem createPreviewBuffer_of_none (hlock : m.mLock = false) (hdata : m.mPreviewData = none)
    {previewbuf : BufferInfo} {o : AllocOutcome} (hobtained : o.data = true) :
    m.createPreviewBuffer previewbuf o =
      (m.ready previewbuf.mNumBffers).createGrallocDrmBuffer previewbuf o >>=
        fun p ↦ p.2.conclude p.1 >>= fun m ↦ .ok (p.1, m.unlock) := by
  have hobtain := obtainData_of_none hdata previewbuf o
  rw [if_pos hobtained] at hobtain
  rw [createPreviewBuffer_eq hlock hobtain, clearData_replicate rfl]
  rfl

theorem createPreviewBuffer_of_malloc_failed (hlock : m.mLock = false)
    (hdata : m.mPreviewData = none) {previewbuf : BufferInfo} {o : AllocOutcome}
    (hfailed : o.data = false) :
    m.createPreviewBuffer previewbuf o = .ok (-1, { m with mLock := false }) := by
  have hobtain := obtainData_of_none hdata previewbuf o
  rw [hfailed] at hobtain
  rw [createPreviewBuffer, lock, hlock]
  change (obtainData previewbuf o { m with mLock := true } >>= _) = _
  rw [hobtain]
  rfl

theorem Inv.createPreviewBuffer_spec (h : m.Inv) {previewbuf : BufferInfo} {o : AllocOutcome}
    (hfits : (Call.createPreviewBuffer previewbuf o).Fits m) :
    ∃ ret m', m.createPreviewBuffer previewbuf o = .ok (ret, m') ∧ m'.Inv ∧
      (Call.createPreviewBuffer previewbuf o).LeavesLive ret m'.pool.live.card ∧
      m'.mPreviewBufferInfo =
        PreviewBuffers.GrallocDrmMemManager.createPreviewBuffer previewbuf o := by
  obtain ⟨hdata, hzero⟩ := hfits
  obtain ⟨-, hinfo, hlive⟩ := h.isEmpty hdata
  rw [PreviewBuffers.GrallocDrmMemManager.createPreviewBuffer]
  cases hobtained : o.data with
  | false =>
    exact ⟨-1, _, createPreviewBuffer_of_malloc_failed h.mLock hdata hobtained,
      ⟨rfl, .inl ⟨hdata, hinfo, hlive⟩⟩, Finset.card_eq_zero.mpr hlive, hinfo⟩
  | true =>
    rw [createPreviewBuffer_of_none h.mLock hdata hobtained, if_neg (not_not.mpr rfl)]
    rcases createGrallocDrmBuffer_spec previewbuf o (m.ready previewbuf.mNumBffers) with
      ⟨m', mems, infos, hcreate, hinfos, hlength, hcreated⟩ | ⟨m', hcreate, hnone, hnot⟩
    · obtain ⟨htype, hobtainedInfo, hhead⟩ := createGrallocDrmBuffer_eq_some hinfos
      have hpos : previewbuf.mNumBffers ≠ 0 := fun hn ↦
        hzero hn htype ⟨hobtained, hobtainedInfo⟩
      obtain ⟨first, rest, rfl, hnum⟩ := hhead hpos
      have hholds : m'.Holds mems := by
        refine hcreated.holds hlive ?_ (hnum.trans hlength.symm) ?_
        · rw [hlength]
          rfl
        · exact List.ne_nil_of_length_pos (hlength ▸ Nat.pos_of_ne_zero hpos)
      have hconclude : m'.conclude 0 = .ok m' := by
        rw [conclude, if_pos rfl, hcreated.mPreviewBufferInfo]
      rw [hcreate, hinfos]
      refine ⟨0, m'.unlock, ?_, ⟨rfl, .inr ⟨mems, hholds.unlock⟩⟩, ?_, hcreated.mPreviewBufferInfo⟩
      · change m'.conclude 0 >>= _ = _
        rw [hconclude]
        rfl
      · exact hholds.card.trans hlength
    · rw [hcreate, hnone]
      exact ⟨-1, { m' with mLock := false, mPreviewData := none }, rfl, ⟨rfl, .inl ⟨rfl,
        hnot.mPreviewBufferInfo hinfo, hnot.live.trans hlive⟩⟩,
        Finset.card_eq_zero.mpr (hnot.live.trans hlive), hnot.mPreviewBufferInfo hinfo⟩

theorem clearData_pool {n : ℕ} (h : m.clearData n = .ok m') : m'.pool = m.pool := by
  rw [clearData] at h
  split at h
  · cases h
  · split at h
    · cases h
      rfl
    · cases h

theorem conclude_pool {ret : ℤ} (h : m.conclude ret = .ok m') : m'.pool = m.pool := by
  rw [conclude] at h
  split at h
  · split at h
    · cases h
      rfl
    · cases h
  · cases h
    rfl

theorem Holds.obtainData (h : m.Holds mems) (hlock : m.mLock = true) (previewbuf : BufferInfo)
    (o : AllocOutcome) : m.obtainData previewbuf o = .error .selfDeadlock ∨
      m.obtainData previewbuf o = .ok (some m) := by
  cases mems with
  | nil => exact absurd rfl h.ne_nil
  | cons mem mems =>
    unfold GrallocDrmMemManager.obtainData
    rw [h.mPreviewData, List.map_cons]
    dsimp only
    split
    · rw [destroyPreviewBuffer, lock, if_pos hlock]
      exact .inl rfl
    · exact .inr rfl

theorem createPreviewBuffer_nothing (hlock : m.mLock = false) (hdata : m.mPreviewData = none)
    {previewbuf : BufferInfo} {o : AllocOutcome} (hzero : previewbuf.mNumBffers = 0)
    (htype : previewbuf.mBufType = .PREVIEWBUFFER) (hobtained : o.data = true ∧ o.info = true)
    {ret : ℤ} : m.createPreviewBuffer previewbuf o ≠ .ok (ret, m') := by
  intro hok
  have hnothing : PreviewBuffers.createGrallocDrmBuffer previewbuf o = some [] := by
    rw [PreviewBuffers.createGrallocDrmBuffer, if_neg (by rw [htype, hzero, hobtained.2]; decide),
      hzero]
    rfl
  rw [createPreviewBuffer_of_none hlock hdata hobtained.1] at hok
  obtain ⟨⟨ret', m₂⟩, hcreate', hok⟩ := bind_eq_ok.mp hok
  obtain ⟨m₃, hconclude, hok⟩ := bind_eq_ok.mp hok
  rcases createGrallocDrmBuffer_spec previewbuf o (m.ready previewbuf.mNumBffers) with
    ⟨m₄, mems, infos, hcreate, hinfos, -, hcreated⟩ | ⟨m₄, hcreate, hnone, -⟩
  · cases hcreate.symm.trans hcreate'
    cases hnothing.symm.trans hinfos
    rw [conclude, if_pos rfl, hcreated.mPreviewBufferInfo] at hconclude
    cases hconclude
  · cases hnothing.symm.trans hnone

/-- A call on a manager that has buffers does not return, or keeps them all. -/
theorem Holds.createPreviewBuffer (h : m.Holds mems) (hlock : m.mLock = false)
    {previewbuf : BufferInfo} {o : AllocOutcome} {ret : ℤ}
    (hok : m.createPreviewBuffer previewbuf o = .ok (ret, m')) :
    m'.pool.live.card = mems.length + if ret = 0 then previewbuf.mNumBffers else 0 := by
  have hlocked : ({ m with mLock := true } : GrallocDrmMemManager).Holds mems :=
    ⟨h.mPreviewData, h.mPreviewBufferInfo, h.ne_nil, h.nodup, h.live⟩
  rcases hlocked.obtainData rfl previewbuf o with hobtain | hobtain
  · rw [GrallocDrmMemManager.createPreviewBuffer, lock, hlock] at hok
    change GrallocDrmMemManager.obtainData previewbuf o { m with mLock := true } >>= _ = _ at hok
    rw [hobtain] at hok
    cases hok
  · rw [createPreviewBuffer_eq hlock hobtain] at hok
    obtain ⟨m₁, hclear, hok⟩ := bind_eq_ok.mp hok
    have hpool : m₁.pool = m.pool := (clearData_pool hclear).trans rfl
    obtain ⟨⟨ret', m₂⟩, hcreate', hok⟩ := bind_eq_ok.mp hok
    obtain ⟨m₃, hconclude, hok⟩ := bind_eq_ok.mp hok
    cases hok
    have hpool' : m₃.pool = m₂.pool := conclude_pool hconclude
    rw [GrallocDrmMemManager.unlock, hpool', ← h.card, ← hpool]
    rcases createGrallocDrmBuffer_spec previewbuf o m₁ with
      ⟨m₄, mems', infos, hcreate, -, hlength, hcreated⟩ | ⟨m₄, hcreate, -, hnot⟩
    · cases hcreate.symm.trans hcreate'
      rw [hcreated.pool.card, List.length_map, hlength]
      rfl
    · cases hcreate.symm.trans hcreate'
      rw [hnot.live]
      rfl

theorem Inv.fits_of_createPreviewBuffer (h : m.Inv) {previewbuf : BufferInfo} {o : AllocOutcome}
    {ret : ℤ} (hok : m.createPreviewBuffer previewbuf o = .ok (ret, m'))
    (hlive : (Call.createPreviewBuffer previewbuf o).LeavesLive ret m'.pool.live.card) :
    (Call.createPreviewBuffer previewbuf o).Fits m := by
  rcases h.buffers with hempty | ⟨mems, hholds⟩
  · exact ⟨hempty.mPreviewData, fun hzero htype hobtained ↦
      createPreviewBuffer_nothing h.mLock hempty.mPreviewData hzero htype hobtained hok⟩
  · have hcard := hholds.createPreviewBuffer h.mLock hok
    have hpos := List.length_pos_of_ne_nil hholds.ne_nil
    rw [Call.LeavesLive] at hlive
    omega

/-! ### A run -/

theorem Inv.call_iff (h : m.Inv) (c : Call) :
    (∃ ret m', m.call c = .ok (ret, m') ∧ c.LeavesLive ret m'.pool.live.card) ↔ c.Fits m := by
  cases c with
  | createPreviewBuffer previewbuf o =>
    constructor
    · intro hcond
      obtain ⟨ret, m', hok, hlive⟩ := hcond
      exact h.fits_of_createPreviewBuffer hok hlive
    · intro hfits
      obtain ⟨ret, m', hok, -, hlive, -⟩ := h.createPreviewBuffer_spec hfits
      exact ⟨ret, m', hok, hlive⟩
  | destroyPreviewBuffer =>
    constructor
    · intro hcond
      obtain ⟨ret, m', hok, hlive⟩ := hcond
      exact h.fits_of_destroyPreviewBuffer hok (Finset.card_eq_zero.mp hlive)
    · intro hfits
      obtain ⟨m', hok, -, hempty⟩ := h.destroyPreviewBuffer_spec hfits
      exact ⟨0, m', hok, Finset.card_eq_zero.mpr hempty.live⟩

theorem Inv.of_call (h : m.Inv) {c : Call} (hfits : c.Fits m) {ret : ℤ}
    (hok : m.call c = .ok (ret, m')) : m'.Inv := by
  cases c with
  | createPreviewBuffer previewbuf o =>
    obtain ⟨ret', m'', hok', hinv, -⟩ := h.createPreviewBuffer_spec hfits
    cases hok'.symm.trans hok
    exact hinv
  | destroyPreviewBuffer =>
    obtain ⟨m'', hok', hlock, hempty⟩ := h.destroyPreviewBuffer_spec hfits
    cases hok'.symm.trans hok
    exact ⟨hlock, .inl hempty⟩

theorem Inv.disciplined_iff (h : m.Inv) (calls : List Call) :
    m.Disciplined calls ↔ m.AllFit calls := by
  induction calls generalizing m with
  | nil => exact Iff.rfl
  | cons c calls ih =>
    rw [Disciplined, AllFit]
    constructor
    · intro hcond
      obtain ⟨ret, m', hok, hlive, hrest⟩ := hcond
      have hfits := (h.call_iff c).mp ⟨ret, m', hok, hlive⟩
      refine ⟨hfits, fun ret' m'' hok' ↦ ?_⟩
      cases hok.symm.trans hok'
      exact (ih (h.of_call hfits hok)).mp hrest
    · intro hcond
      obtain ⟨hfits, hrest⟩ := hcond
      obtain ⟨ret, m', hok, hlive⟩ := (h.call_iff c).mpr hfits
      exact ⟨ret, m', hok, hlive, (ih (h.of_call hfits hok)).mpr (hrest ret m' hok)⟩

end GrallocDrmMemManager

theorem disciplined_iff_allFit (calls : List Call) :
    GrallocDrmMemManager.init.Disciplined calls ↔ GrallocDrmMemManager.init.AllFit calls :=
  GrallocDrmMemManager.inv_init.disciplined_iff calls

def createTwo : Call :=
  .createPreviewBuffer ⟨2, 4096, 0, 0, 0, 0, .PREVIEWBUFFER, 640, 480⟩
    ⟨true, true, fun i ↦ some ⟨0, 4096 * (i + 1), i + 3⟩⟩

theorem not_disciplined_createTwo :
    (∃ m, GrallocDrmMemManager.init.call createTwo = .ok (0, m) ∧
      m.call createTwo = .error .selfDeadlock) ∧
      ¬ GrallocDrmMemManager.init.Disciplined [createTwo, createTwo] := by
  have hblocks : ∃ m, GrallocDrmMemManager.init.call createTwo = .ok (0, m) ∧
      m.call createTwo = .error .selfDeadlock := ⟨_, rfl, rfl⟩
  refine ⟨hblocks, ?_⟩
  intro h
  obtain ⟨ret, m, hok, -, ret', m', hok', -⟩ := h
  obtain ⟨m'', hfirst, hsecond⟩ := hblocks
  cases hfirst.symm.trans hok
  cases hsecond.symm.trans hok'

end VirtualCamera.Session.MemManager
