import VirtualCamera.Decoder.Order

namespace VirtualCamera.Decoder.Capacity

open Library.Memory Library.Ring Library.Transition Model Nodes Decoder.Order

def allocation (b : BufferData) : ℕ := (b.head.getD []).length

/-- The recorded size is within the allocation, and so are the data, with 256 bytes more
behind those of a video packet. -/
structure Roomy (b : BufferData) : Prop where
  maxLen : b.maxLen ≤ allocation b
  data : ∀ off, b.data = some off → off + b.len ≤ allocation b
  slack : b.mediaType = some .video → ∃ off, b.data = some off ∧ off + b.len + 256 ≤ allocation b

/-- The `int` that a video packet's block is sized with does not overflow. -/
def Small (p : Packet) : Prop := p.mediaType = .video → p.data.length + 256 ≤ INT_MAX

instance (p : Packet) : Decidable (Small p) := inferInstanceAs (Decidable (_ → _))

theorem roomy_zero : Roomy .zero :=
  ⟨le_rfl, fun _ h ↦ (by cases h), fun h ↦ (by cases h)⟩

variable {b : BufferData}

theorem le_sizeT (z : ℤ) (h : z < 2 ^ 31) : z ≤ sizeT z := by
  by_cases hz : 0 ≤ z
  · rw [sizeT_of_nonneg hz h, Int.toNat_of_nonneg hz]
  · omega

theorem maxLen_le_allocation (h : Sized b) {block : List UInt8} (hb : b.head = some block) :
    b.maxLen ≤ allocation b := by
  rw [allocation, hb, Option.getD_some, h.block block hb]
  exact le_sizeT b.maxLen h.upper

theorem ensure_room (h : Sized b) {want : ℕ} (hw : want ≤ INT_MAX) :
    (b.ensure want).maxLen ≤ allocation (b.ensure want) ∧ want ≤ allocation (b.ensure want) := by
  unfold INT_MAX at hw
  obtain ⟨hs, hle, block, hblock⟩ := h.ensure (show -2 ^ 31 ≤ (want : ℤ) by omega) (by omega)
  have hmax := maxLen_le_allocation hs hblock
  exact ⟨hmax, by omega⟩

theorem prepare_video {p : Packet} (hp : p.mediaType = .video) :
    b.prepare 0 0 p = { b.ensure (int32 (p.data.length + 256)) with
      mediaType := some .video, len := p.data.length, timestamp := p.timestamp, data := some 0 } := by
  simp [BufferData.prepare, hp]

theorem prepare_audio {p : Packet} (hp : p.mediaType = .audio) :
    b.prepare 0 0 p = { b.ensure p.data.length with
      mediaType := some .audio, len := p.data.length, timestamp := p.timestamp, data := some 0 } := by
  simp [BufferData.prepare, hp]

/-- A node that is filled in for a packet has room for it, whichever kind it was used for
before. -/
theorem roomy_prepare (h : Sized b) {p : Packet} (hp : Small p) : Roomy (b.prepare 0 0 p) := by
  cases hm : p.mediaType with
  | video =>
    have hle := hp hm
    have hint : int32 (p.data.length + 256) = ((p.data.length + 256 : ℕ) : ℤ) := by
      unfold INT_MAX at hle
      rw [int32_of_range (by omega) (by omega), Nat.cast_add]
      rfl
    obtain ⟨hmax, hroom⟩ := ensure_room h hle
    rw [prepare_video hm, hint]
    refine ⟨hmax, fun off hoff ↦ ?_, fun _ ↦ ⟨0, rfl, ?_⟩⟩
    · obtain rfl := Option.some.inj hoff
      change 0 + p.data.length ≤ allocation (b.ensure ((p.data.length + 256 : ℕ) : ℤ))
      omega
    · change 0 + p.data.length + 256 ≤ allocation (b.ensure ((p.data.length + 256 : ℕ) : ℤ))
      omega
  | audio =>
    obtain ⟨hmax, hroom⟩ := ensure_room h p.length_le
    rw [prepare_audio hm]
    refine ⟨hmax, fun off hoff ↦ ?_, fun hv ↦ (by cases hv)⟩
    obtain rfl := Option.some.inj hoff
    change 0 + p.data.length ≤ allocation (b.ensure p.data.length)
    omega

theorem copy_isSome (h : Roomy b) {p : Packet} (hp : Prepared p b) : ∃ b', b.copy p.data = some b' := by
  obtain ⟨block, off, hblock, hoff, -⟩ := hp.block
  have hfit := h.data off hoff
  rw [hp.len, allocation, hblock, Option.getD_some] at hfit
  obtain ⟨block', hcopy⟩ := Option.isSome_iff_exists.mp ((memcpy_isSome _ _ _).mpr hfit)
  refine ⟨{ b with head := some block' }, ?_⟩
  simp only [BufferData.copy, hblock, hoff, hcopy, Option.map_some]

theorem roomy_copy {b' : BufferData} {src : List UInt8} (h : Roomy b)
    (hcopy : b.copy src = some b') : Roomy b' := by
  unfold BufferData.copy at hcopy
  split at hcopy
  · rename_i block off hblock hoff
    obtain ⟨block', hmem, rfl⟩ := Option.map_eq_some_iff.mp hcopy
    have hsame : allocation { b with head := some block' } = allocation b := by
      rw [allocation, allocation, hblock, Option.getD_some, Option.getD_some, memcpy_length hmem]
    exact ⟨hsame ▸ h.maxLen, hsame ▸ h.data, hsame ▸ h.slack⟩
  · cases hcopy

/-! ### Runs -/

variable {n : ℕ} [NeZero n]

/-- The copies made so far stayed within their nodes' allocations, and all nodes have the room
for what they hold. -/
structure Capacious (s : State n) : Prop where
  copied : s.producer ≠ .fault
  nodes : ∀ i, Roomy (s.ad.pool i)

/-- The packet that a call has not yet made room for. -/
def Pending (ok : Packet → Prop) : Producer → Prop
  | .wait p _ | .check p | .store p => ok p
  | _ => True

def Admissible (_ : State n) : Label → Prop
  | .receiveData p => Small p
  | _ => True

variable {s t : State n}

omit [NeZero n] in
theorem roomy_update (h : ∀ i, Roomy (s.ad.pool i)) (j : Fin n) (hb : Roomy b) (i : Fin n) :
    Roomy (Function.update s.ad.pool j b i) :=
  (Function.forall_update_iff s.ad.pool fun _ b ↦ Roomy b).mpr ⟨hb, fun i _ ↦ h i⟩ i

structure Kept (s : State n) : Prop extends Inv s, Capacious s where
  pending : Pending Small s.producer

theorem producerStep_kept (h : Kept s) (hstep : s.producerStep = some t) :
    Capacious t ∧ Pending Small t.producer := by
  obtain ⟨hinv, ⟨hcopied, hnodes⟩, hpending⟩ := h
  have hwrite : Roomy s.writeBuffer := hnodes _
  have hproducer := hinv.producer
  unfold State.producerStep at hstep
  cases hpc : s.producer with
  | idle => simp only [hpc] at hstep; cases hstep
  | fault => exact (hcopied hpc).elim
  | wait p count =>
    simp only [hpc] at hstep
    rw [hpc] at hpending
    split at hstep
    · cases hstep
      exact ⟨⟨fun hc ↦ (by cases hc), hnodes⟩, hpending⟩
    · cases hstep
      exact ⟨⟨fun hc ↦ (by cases hc), hnodes⟩, hpending⟩
  | check p =>
    simp only [hpc] at hstep
    rw [hpc] at hpending
    split at hstep
    · cases hstep
      exact ⟨⟨fun hc ↦ (by cases hc), hnodes⟩, trivial⟩
    · cases hstep
      exact ⟨⟨fun hc ↦ (by cases hc), hnodes⟩, hpending⟩
  | store p =>
    rw [hpc] at hpending
    simp only [hpc, hinv.ring.spsLength, hinv.ring.ppsLength] at hstep
    cases hstep
    have hsized : Sized s.writeBuffer := hinv.ring.sized _
    exact ⟨⟨fun hc ↦ (by cases hc), roomy_update hnodes _ (roomy_prepare hsized hpending)⟩, trivial⟩
  | copy p =>
    rw [hpc] at hproducer
    obtain ⟨b', hcopy⟩ := copy_isSome hwrite hproducer.2
    simp only [hpc, hcopy] at hstep
    cases hstep
    exact ⟨⟨fun hc ↦ (by cases hc), roomy_update hnodes _ (roomy_copy hwrite hcopy)⟩, trivial⟩
  | publish p =>
    simp only [hpc] at hstep
    cases hstep
    refine ⟨⟨fun hc ↦ (by cases hc), roomy_update hnodes _ ?_⟩, trivial⟩
    exact ⟨hwrite.maxLen, hwrite.data, hwrite.slack⟩

theorem consumerStep_kept (h : Kept s) (hstep : s.consumerStep = some t) :
    Capacious t ∧ Pending Small t.producer := by
  obtain ⟨-, ⟨hcopied, hnodes⟩, hpending⟩ := h
  have hread : Roomy s.readBuffer := hnodes _
  unfold State.consumerStep at hstep
  split at hstep
  · cases hstep
  · cases hstep
  · cases hstep
    exact ⟨⟨hcopied, hnodes⟩, hpending⟩
  · cases hstep
    exact ⟨⟨hcopied, hnodes⟩, hpending⟩
  · cases hstep
    exact ⟨⟨hcopied, hnodes⟩, hpending⟩
  · split at hstep
    · cases hstep
      exact ⟨⟨hcopied, hnodes⟩, hpending⟩
    · cases hstep
      exact ⟨⟨hcopied, hnodes⟩, hpending⟩
  · cases hstep
    refine ⟨⟨hcopied, roomy_update hnodes _ ?_⟩, hpending⟩
    exact ⟨hread.maxLen, hread.data, hread.slack⟩
  · cases hstep
    exact ⟨⟨hcopied, hnodes⟩, hpending⟩

theorem step_kept {l : Label} (h : Kept s) (hl : Admissible s l) (hstep : s.step l = some t) :
    Kept t := by
  have hinv := step_inv h.toInv hstep
  cases l with
  | receiveData p =>
    simp only [State.step] at hstep
    split at hstep
    · split at hstep
      · cases hstep
        exact ⟨hinv, ⟨fun hc ↦ (by cases hc), h.nodes⟩, hl⟩
      · cases hstep
        exact ⟨hinv, h.toCapacious, h.pending⟩
    · cases hstep
  | producer =>
    obtain ⟨hcap, hpending⟩ := producerStep_kept h hstep
    exact ⟨hinv, hcap, hpending⟩
  | consumer =>
    obtain ⟨hcap, hpending⟩ := consumerStep_kept h hstep
    exact ⟨hinv, hcap, hpending⟩
  | quit =>
    cases hstep
    exact ⟨hinv, ⟨h.copied, h.nodes⟩, h.pending⟩

theorem create_kept : Kept (State.create n) :=
  ⟨create_inv, ⟨fun hc ↦ (by cases hc), fun _ ↦ roomy_zero⟩, trivial⟩

/-- In every run whose video packets are small, all copies stay within their nodes, and the
nodes keep their room. -/
theorem nodes_roomy {s : State 240} {as : List Label}
    (h : Run (restrict (ofPartial State.step) Admissible) (State.create 240) as s) : Capacious s :=
  (h.invariant (P := Kept) (fun _ _ _ hstep hs ↦ step_kept hs hstep.2 hstep.1)
    create_kept).toCapacious

/-- A packet of each kind is received, and the first node is read. -/
def mixedRun : List Label :=
  [.consumer, .receiveData ⟨.audio, [1, 2, 3], 7, Nat.le_of_ble_eq_true rfl⟩, .producer, .producer,
    .producer, .producer, .producer,
    .receiveData ⟨.video, [0, 0, 0, 1, 101], 8, Nat.le_of_ble_eq_true rfl⟩, .producer, .producer,
    .producer, .producer, .producer, .consumer, .consumer]

omit [NeZero n] in
theorem mixedRun_admissible : ∀ l ∈ mixedRun, Admissible s l := by
  simp [mixedRun, Admissible, Small, INT_MAX]

set_option maxRecDepth 20000 in
theorem nodes_roomy_mixed :
    ∃ s : State 240, Run (ofPartial State.step) (State.create 240) mixedRun s ∧ Capacious s := by
  obtain ⟨s, hs⟩ : ∃ s, exec State.step (State.create 240) mixedRun = some s :=
    ⟨_, (Option.some_get rfl).symm⟩
  have hrun : Run (ofPartial State.step) (State.create 240) mixedRun s :=
    (run_iff_exec _ _ _ _).mpr hs
  have hadmissible :
      Run (restrict (ofPartial State.step) Admissible) (State.create 240) mixedRun s :=
    hrun.restrict_mem.mono fun _ _ _ h ↦ ⟨h.1, mixedRun_admissible _ h.2⟩
  exact ⟨s, hrun, nodes_roomy hadmissible⟩

/-! ### A packet that is too long -/

omit [NeZero n] in
theorem receive_free (hidle : s.producer = .idle) (hrunning : s.ad.running = true)
    (hfree : s.writeBuffer.needRead = false) (p : Packet) :
    Run (ofPartial State.step) s [.receiveData p, .producer, .producer]
      { s with producer := .store p } := by
  have hcall : s.step (.receiveData p) = some { s with producer := .wait p 20 } := by
    simp only [State.step, hidle, hrunning, if_true]
  unfold State.writeBuffer at hfree
  have hwait : State.step { s with producer := .wait p 20 } .producer =
      some { s with producer := .check p } := by
    simp [State.step, State.producerStep, State.writeBuffer, hfree]
  have hcheck : State.step { s with producer := .check p } .producer =
      some { s with producer := .store p } := by
    simp [State.step, State.producerStep, State.writeBuffer, hfree]
  exact .cons hcall (.cons hwait (.one hcheck))

theorem step_store (h : RingInv s) {p : Packet} (hpc : s.producer = .store p) :
    s.step .producer = some { s.setWriteBuffer (s.writeBuffer.prepare 0 0 p) with
      producer := .copy p } := by
  simp only [State.step, State.producerStep, hpc, h.spsLength, h.ppsLength]

theorem copy_maxLen {b' : BufferData} {src : List UInt8} (hcopy : b.copy src = some b') :
    b'.maxLen = b.maxLen := by
  unfold BufferData.copy at hcopy
  split at hcopy
  · obtain ⟨block, -, rfl⟩ := Option.map_eq_some_iff.mp hcopy
    rfl
  · cases hcopy

theorem receive (h : RingInv s) (hidle : s.producer = .idle) (hrunning : s.ad.running = true)
    (hfree : s.writeBuffer.needRead = false) {p : Packet} (hp : Small p) :
    ∃ b, b.maxLen = (s.writeBuffer.prepare 0 0 p).maxLen ∧
      Run (ofPartial State.step) s (.receiveData p :: List.replicate 5 .producer)
        ((s.setWriteBuffer b).publish p) := by
  have hsized : Sized s.writeBuffer := h.writeBuffer ▸ h.sized _
  obtain ⟨b, hcopy⟩ := copy_isSome (roomy_prepare hsized hp) (hsized.prepare p).2
  let prepared : State n :=
    { s.setWriteBuffer (s.writeBuffer.prepare 0 0 p) with producer := .copy p }
  have hwrite : prepared.writeBuffer = s.writeBuffer.prepare 0 0 p :=
    setWriteBuffer_writeBuffer s _
  have hcopied : prepared.step .producer =
      some { s.setWriteBuffer b with producer := .publish p } := by
    simp only [State.step, State.producerStep, hwrite, hcopy, prepared]
    simp only [State.setWriteBuffer, Function.update_idem]
  have hpublish : State.step { s.setWriteBuffer b with producer := .publish p } .producer =
      some ((s.setWriteBuffer b).publish p) := rfl
  have hstore := step_store (s := { s with producer := .store p }) { h with } rfl
  refine ⟨b, copy_maxLen hcopy, ?_⟩
  exact (receive_free hidle hrunning hfree p).trans
    (.cons hstore (.cons hcopied (.one hpublish)))

/-- The first `k` packets are in, none has been read, and all nodes are small. -/
structure Filled (k : ℕ) (s : State n) : Prop extends Inv s where
  idle : s.producer = .idle
  top : s.consumer = .top
  running : s.ad.running = true
  quit : s.ad.quit = false
  accepted : s.accepted.length = k
  decoded : s.decoded = []
  narrow : ∀ i, 0 ≤ (s.ad.pool i).maxLen ∧ (s.ad.pool i).maxLen ≤ 1

def shortPacket : Packet := ⟨.audio, [0], 0, by decide⟩

theorem ensure_maxLen (b : BufferData) (want : ℤ) :
    (b.ensure want).maxLen = want ∨ (b.ensure want).maxLen = b.maxLen := by
  simp only [BufferData.ensure]
  split_ifs
  · exact .inl rfl
  · exact absurd rfl ‹_›
  · exact .inl rfl
  · exact .inr rfl

theorem shortPacket_maxLen (h : 0 ≤ b.maxLen ∧ b.maxLen ≤ 1) :
    0 ≤ (b.prepare 0 0 shortPacket).maxLen ∧ (b.prepare 0 0 shortPacket).maxLen ≤ 1 := by
  rw [prepare_audio rfl]
  show 0 ≤ (b.ensure 1).maxLen ∧ (b.ensure 1).maxLen ≤ 1
  rcases ensure_maxLen b 1 with hmax | hmax
  · omega
  · omega

/-- There is a free node as long as fewer packets than nodes are in. -/
theorem Filled.free {k : ℕ} (h : Filled k s) (hk : k < n) : s.writeBuffer.needRead = false := by
  rw [h.ring.writeBuffer]
  by_contra hflag
  have hfull := h.ring.window.full (Bool.eq_true_of_not_eq_false hflag)
  rw [h.decoded, h.accepted, List.length_nil, Nat.zero_add] at hfull
  omega

def shortRound : List Label := .receiveData shortPacket :: List.replicate 5 .producer

theorem Filled.step {k : ℕ} (h : Filled k s) (hk : k < n) :
    ∃ t, Run (ofPartial State.step) s shortRound t ∧ Filled (k + 1) t := by
  have hsmall : Small shortPacket := fun hv ↦ (by cases hv)
  obtain ⟨b, hmax, hrun⟩ := receive h.ring h.idle h.running (h.free hk) hsmall
  have hnarrow : 0 ≤ b.maxLen ∧ b.maxLen ≤ 1 := hmax ▸ shortPacket_maxLen (h.narrow _)
  refine ⟨_, hrun, hrun.invariant (fun _ _ _ hstep hi ↦ step_inv hi hstep) h.toInv, rfl, h.top,
    h.running, h.quit, ?_, h.decoded, ?_⟩
  · show (s.accepted ++ [shortPacket]).length = k + 1
    rw [List.length_append, h.accepted, List.length_singleton]
  · intro i
    have hpool : ((s.setWriteBuffer b).publish shortPacket).ad.pool =
        Function.update s.ad.pool (slot n s.accepted.length) { b with needRead := true } := by
      show ((s.setWriteBuffer b).setWriteBuffer _).ad.pool = _
      rw [setWriteBuffer_writeBuffer, ← setWriteBuffer_pool h.ring]
      simp only [State.setWriteBuffer, Function.update_idem]
    rw [hpool]
    by_cases hi : i = slot n s.accepted.length
    · rw [hi, Function.update_self]
      exact hnarrow
    · rw [Function.update_of_ne hi]
      exact h.narrow i

theorem filled_run {k : ℕ} (hk : k ≤ n) :
    ∃ t, Run (ofPartial State.step) (State.create n)
      (.consumer :: (List.replicate k shortRound).flatten) t ∧ Filled k t := by
  induction k with
  | zero =>
    refine ⟨_, .one rfl, ⟨step_inv (l := .consumer) create_inv rfl, rfl, rfl, rfl, rfl, rfl,
      rfl, fun _ ↦ ⟨le_rfl, zero_le_one⟩⟩⟩
  | succ k ih =>
    obtain ⟨s, hrun, hs⟩ := ih (by omega)
    obtain ⟨t, hround, ht⟩ := hs.step (by omega)
    refine ⟨t, ?_, ht⟩
    rw [List.replicate_succ', List.flatten_append, List.flatten_singleton]
    exact hrun.trans hround

/-- The node that was filled first is read, and free again. -/
theorem Filled.read (h : Filled n s) :
    ∃ t block, Run (ofPartial State.step) s (List.replicate 4 .consumer) t ∧ Inv t ∧
      t.producer = .idle ∧ t.ad.running = true ∧ t.writeBuffer.needRead = false ∧
      t.writeBuffer.head = some block ∧ block.length ≤ 1 ∧ 0 ≤ t.writeBuffer.maxLen := by
  have hlt : s.decoded.length < s.accepted.length := by
    rw [h.decoded, h.accepted]
    exact Nat.pos_of_neZero n
  have hread : s.readBuffer.needRead = true := by
    rw [h.ring.readBuffer]
    exact h.ring.window.flagged le_rfl hlt
  obtain ⟨p, hp, hstored⟩ := h.ring.next_packet hread
  obtain ⟨block, hblock⟩ : ∃ block, s.readBuffer.head = some block := by
    have hbytes := hstored.bytes
    unfold BufferData.bytes at hbytes
    split at hbytes
    · exact ⟨_, ‹_›⟩
    · cases hbytes
  have htop : s.step .consumer = some { s with consumer := .poll } := by
    simp only [State.step, State.consumerStep, h.top, h.quit]
    rfl
  have hpoll : State.step { s with consumer := .poll } .consumer =
      some { s with consumer := .decode } := by
    unfold State.readBuffer at hread
    simp [State.step, State.consumerStep, State.readBuffer, hread]
  have hdecode : State.step { s with consumer := .decode } .consumer =
      some { s with consumer := .release (some p.decoded) } := by
    have hdec := hstored.decodeNode
    unfold State.readBuffer at hdec
    simp only [State.step, State.consumerStep, State.readBuffer, hdec]
  have hrelease : State.step { s with consumer := .release (some p.decoded) } .consumer =
      some (State.release { s with consumer := .release (some p.decoded) } (some p.decoded)) := rfl
  have hrun : Run (ofPartial State.step) s (List.replicate 4 .consumer) _ :=
    .cons htop (.cons hpoll (.cons hdecode (.one hrelease)))
  have hinv := hrun.invariant (fun _ _ _ hstep hi ↦ step_inv hi hstep) h.toInv
  have hwrite : (State.release { s with consumer := .release (some p.decoded) }
      (some p.decoded)).writeBuffer = { s.readBuffer with needRead := false } := by
    have hslot : slot n s.accepted.length = slot n s.decoded.length := by
      rw [slot_eq_iff, h.accepted, h.decoded, Nat.mod_self, List.length_nil, Nat.zero_mod]
    have hpool : (State.release { s with consumer := .release (some p.decoded) }
        (some p.decoded)).ad.pool = Function.update s.ad.pool (slot n s.decoded.length)
          { s.readBuffer with needRead := false } := by
      simp only [State.release, h.ring.list, h.ring.reader, State.readBuffer]
      rfl
    rw [hinv.ring.writeBuffer, hpool]
    show Function.update s.ad.pool _ _ (slot n s.accepted.length) = _
    rw [hslot, Function.update_self]
  have hnode := h.ring.sized (s.ad.bufferList s.node).data
  have hmax := h.narrow (s.ad.bufferList s.node).data
  have hsize : block.length ≤ 1 := by
    rw [hnode.block block hblock, sizeT_of_nonneg hmax.1 hnode.upper]
    omega
  refine ⟨_, block, hrun, hinv, h.idle, h.running, ?_, ?_, hsize, ?_⟩
  · rw [hwrite]
  · rw [hwrite]
    exact hblock
  · rw [hwrite]
    exact hmax.1

/-- Its video block is sized with an `int` that has wrapped round, so that a block that is there
is kept, whatever its size. -/
theorem prepare_wrapped {p : Packet} (hp : p.mediaType = .video)
    (hlong : INT_MAX < p.data.length + 256) {block : List UInt8} (hhead : b.head = some block)
    (hmax : 0 ≤ b.maxLen) : (b.prepare 0 0 p).head = some block := by
  have hle := p.length_le
  unfold INT_MAX at hlong hle
  have hwrap : int32 (p.data.length + 256) = (p.data.length : ℤ) + 256 - 2 ^ 32 := by
    have hsub := Int.sub_bmod_right ((p.data.length : ℤ) + 256) (2 ^ 32)
    unfold int32
    rw [← hsub]
    exact int32_of_range (by omega) (by omega)
  have hkeep : ¬ b.maxLen < int32 (p.data.length + 256) := by omega
  rw [prepare_video hp]
  simp [BufferData.ensure, hhead, hkeep]

/-- A short packet for each node, room for one more, and a packet that is too long. -/
def longRun (n : ℕ) (p : Packet) : List Label :=
  .consumer :: (List.replicate n shortRound).flatten ++ List.replicate 4 .consumer ++
    .receiveData p :: List.replicate 4 .producer

theorem overrun {p : Packet} (hp : p.mediaType = .video) (hlong : INT_MAX < p.data.length + 256) :
    ∃ s, Run (ofPartial State.step) (State.create n) (longRun n p) s ∧ s.producer = .fault := by
  obtain ⟨s, hfill, hs⟩ := filled_run (n := n) le_rfl
  obtain ⟨t, block, hread, hinv, hidle, hrunning, hfree, hblock, hshort, hmax⟩ := hs.read
  have hcall := receive_free hidle hrunning hfree p
  let prepared : State n :=
    { t.setWriteBuffer (t.writeBuffer.prepare 0 0 p) with producer := .copy p }
  have hstore : State.step { t with producer := .store p } .producer = some prepared :=
    step_store (s := { t with producer := .store p }) { hinv.ring with } rfl
  have hcopy : prepared.writeBuffer.copy p.data = none := by
    have hwrite : prepared.writeBuffer = t.writeBuffer.prepare 0 0 p :=
      setWriteBuffer_writeBuffer t _
    have hdata : (t.writeBuffer.prepare 0 0 p).data = some 0 := by
      rw [prepare_video hp]
    have hroom : ¬ 0 + p.data.length ≤ block.length := by
      unfold INT_MAX at hlong
      omega
    rw [hwrite, BufferData.copy, prepare_wrapped hp hlong hblock hmax, hdata]
    simp only [memcpy, if_neg hroom, Option.map_none]
  have hfault : prepared.step .producer = some { prepared with producer := .fault } := by
    show prepared.producerStep = _
    simp only [State.producerStep, hcopy, prepared]
  refine ⟨_, (hfill.trans hread).trans (hcall.trans (.cons hstore (.one hfault))), rfl⟩

theorem node_overrun :
    ∃ p s, p.mediaType = .video ∧ p.data = List.replicate INT_MAX 0 ∧
      Run (ofPartial State.step) (State.create 240) (longRun 240 p) s ∧ ¬ Capacious s := by
  let p : Packet := ⟨.video, List.replicate INT_MAX 0, 0, by rw [List.length_replicate]⟩
  have hlong : INT_MAX < p.data.length + 256 := by
    rw [List.length_replicate]
    omega
  obtain ⟨s, hrun, hfault⟩ := overrun (n := 240) (p := p) rfl hlong
  exact ⟨p, s, rfl, rfl, hrun, fun h ↦ h.copied hfault⟩

end VirtualCamera.Decoder.Capacity
