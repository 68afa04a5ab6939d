import VirtualCamera.Decoder.Nodes

namespace VirtualCamera.Decoder.Order

open Library.Memory Library.Ring Library.Transition Model Nodes

variable {n : ℕ} [NeZero n]

/-- A freshly created list goes round the ring. -/
theorem create_next (k : ℕ) :
    (CircularList.create n (slot n k)).next = slot n (k + 1) := by
  have hlt := Nat.mod_lt k (Nat.pos_of_neZero n)
  apply Fin.ext
  show (if k % n + 1 = n then 0 else k % n + 1) = (k + 1) % n
  rw [← Nat.mod_add_mod]
  split
  · rename_i h
    rw [h, Nat.mod_self]
  · exact (Nat.mod_eq_of_lt (by omega)).symm

/-- The ring part of the state: which nodes are flagged, and what they hold. -/
structure RingInv (s : State n) : Prop where
  list : s.ad.bufferList = CircularList.create n
  spsLength : s.ad.spsLength = 0
  ppsLength : s.ad.ppsLength = 0
  window : Window s.decoded.length s.accepted.length fun i ↦ (s.ad.pool i).needRead
  writer : s.ad.nodeWrite = slot n s.accepted.length
  reader : s.node = slot n s.decoded.length
  contents : ∀ k p, s.decoded.length ≤ k → s.accepted[k]? = some p →
    Stored p (s.ad.pool (slot n k))
  order : s.decoded <+: s.accepted.map Packet.decoded
  sized : ∀ i, Sized (s.ad.pool i)

/-- What the producer has established about the node it fills. -/
def ProducerOk (b : BufferData) : Producer → Prop
  | .idle | .wait _ _ | .check _ | .fault => True
  | .store _ => b.needRead = false
  | .copy p => b.needRead = false ∧ Prepared p b
  | .publish p => b.needRead = false ∧ Stored p b

/-- What the consumer has established about the node it reads, `next` being the
first packet not yet released. -/
def ConsumerOk (b : BufferData) (next : Option Packet) : Consumer → Prop
  | .start | .top | .poll | .stop | .exited => True
  | .decode => b.needRead = true
  | .release d => b.needRead = true ∧ ∃ p, next = some p ∧ d = some p.decoded
  | .fault => False

theorem ProducerOk.congr {b b' : BufferData} {pc : Producer} (h : ProducerOk b pc)
    (heq : b.needRead = false → b' = b) : ProducerOk b' pc := by
  cases pc with
  | store p => exact (heq h).symm ▸ h
  | copy p => exact (heq h.1).symm ▸ h
  | publish p => exact (heq h.1).symm ▸ h
  | _ => trivial

theorem ConsumerOk.congr {b b' : BufferData} {next next' : Option Packet} {pc : Consumer}
    (h : ConsumerOk b next pc) (heq : b.needRead = true → b' = b)
    (hnext : ∀ p, next = some p → next' = some p) : ConsumerOk b' next' pc := by
  cases pc with
  | decode => exact (heq h).symm ▸ h
  | release d =>
    obtain ⟨hread, p, hp, hd⟩ := h
    exact ⟨(heq hread).symm ▸ hread, p, hnext p hp, hd⟩
  | fault => exact h
  | _ => trivial

structure Inv (s : State n) : Prop where
  ring : RingInv s
  producer : ProducerOk s.writeBuffer s.producer
  consumer : ConsumerOk s.readBuffer s.accepted[s.decoded.length]? s.consumer

variable {s t : State n}

theorem RingInv.writeBuffer (h : RingInv s) :
    s.writeBuffer = s.ad.pool (slot n s.accepted.length) := by
  rw [State.writeBuffer, h.list, h.writer]
  rfl

theorem RingInv.readBuffer (h : RingInv s) : s.readBuffer = s.ad.pool (slot n s.decoded.length) := by
  rw [State.readBuffer, h.list, h.reader]
  rfl

/-- The reader's node, once flagged, holds the next accepted packet. -/
theorem RingInv.next_packet (h : RingInv s) (hread : s.readBuffer.needRead = true) :
    ∃ p, s.accepted[s.decoded.length]? = some p ∧ Stored p s.readBuffer := by
  rw [h.readBuffer] at hread ⊢
  have hlt := h.window.nonempty hread
  exact ⟨_, List.getElem?_eq_getElem hlt, h.contents _ _ le_rfl (List.getElem?_eq_getElem hlt)⟩

/-! ### The node being filled -/

theorem setWriteBuffer_pool (h : RingInv s) (b : BufferData) :
    (s.setWriteBuffer b).ad.pool = Function.update s.ad.pool (slot n s.accepted.length) b := by
  simp only [State.setWriteBuffer, h.list, h.writer]
  rfl

omit [NeZero n] in
theorem setWriteBuffer_writeBuffer (s : State n) (b : BufferData) :
    (s.setWriteBuffer b).writeBuffer = b := Function.update_self _ _ _

/-- Filling a free node leaves the flagged ones alone. -/
theorem RingInv.setWriteBuffer (h : RingInv s) (hfree : s.writeBuffer.needRead = false)
    {b : BufferData} (hb : b.needRead = false) (hsized : Sized b) :
    RingInv (s.setWriteBuffer b) := by
  have hpool := setWriteBuffer_pool h b
  rw [h.writeBuffer] at hfree
  refine { h with window := h.window.congr ?_, contents := ?_, sized := ?_ }
  · intro i
    show ((s.setWriteBuffer b).ad.pool i).needRead = _
    rw [hpool]
    by_cases hi : i = slot n s.accepted.length
    · rw [hi, Function.update_self, hb, hfree]
    · rw [Function.update_of_ne hi]
  · intro k p hk hp
    have hlt := (List.getElem?_eq_some_iff.mp hp).1
    show Stored p ((s.setWriteBuffer b).ad.pool _)
    rw [hpool, Function.update_of_ne (h.window.slot_ne hfree hk hlt)]
    exact h.contents k p hk hp
  · intro i
    show Sized ((s.setWriteBuffer b).ad.pool i)
    rw [hpool]
    by_cases hi : i = slot n s.accepted.length
    · rw [hi, Function.update_self]
      exact hsized
    · rw [Function.update_of_ne hi]
      exact h.sized i

theorem RingInv.writer_ne_reader (h : RingInv s) (hfree : s.writeBuffer.needRead = false)
    (hread : s.readBuffer.needRead = true) : slot n s.accepted.length ≠ slot n s.decoded.length := by
  intro heq
  rw [h.readBuffer, ← heq, ← h.writeBuffer, hfree] at hread
  cases hread

/-- Filling a free node does not touch a node to be read. -/
theorem setWriteBuffer_readBuffer (h : RingInv s) (hfree : s.writeBuffer.needRead = false)
    (b : BufferData) (hread : s.readBuffer.needRead = true) :
    (s.setWriteBuffer b).readBuffer = s.readBuffer := by
  show (s.setWriteBuffer b).ad.pool (s.ad.bufferList s.node).data = _
  rw [setWriteBuffer_pool h, h.readBuffer, h.list, h.reader]
  exact Function.update_of_ne (h.writer_ne_reader hfree hread).symm _ _

/-! ### The steps -/

/-- Publishing lengthens the run of flagged nodes at its end. -/
theorem RingInv.publish (h : RingInv s) {p : Packet} (hfree : s.writeBuffer.needRead = false)
    (hstored : Stored p s.writeBuffer) : RingInv (s.publish p) := by
  have hfree' : (s.ad.pool (slot n s.accepted.length)).needRead = false := h.writeBuffer ▸ hfree
  have hpool : (s.publish p).ad.pool = Function.update s.ad.pool (slot n s.accepted.length)
      { s.writeBuffer with needRead := true } := setWriteBuffer_pool h _
  have haccepted : (s.publish p).accepted = s.accepted ++ [p] := rfl
  have hdecoded : (s.publish p).decoded = s.decoded := rfl
  have hlen : (s.publish p).accepted.length = s.accepted.length + 1 := by
    rw [haccepted, List.length_append, List.length_singleton]
  refine ⟨h.list, h.spsLength, h.ppsLength, ?_, ?_, h.reader, ?_, ?_, ?_⟩
  · rw [hdecoded, hlen]
    refine (h.window.push hfree').congr fun i ↦ ?_
    rw [hpool]
    by_cases hi : i = slot n s.accepted.length
    · rw [hi, Function.update_self, Function.update_self]
    · rw [Function.update_of_ne hi, Function.update_of_ne hi]
  · show (s.ad.bufferList s.ad.nodeWrite).next = _
    rw [h.list, h.writer, create_next, hlen]
  · intro k q hk hq
    rw [haccepted] at hq
    rw [hpool]
    rcases Nat.lt_or_ge k s.accepted.length with hlt | hge
    · rw [List.getElem?_append_left hlt] at hq
      rw [Function.update_of_ne (h.window.slot_ne hfree' hk hlt)]
      exact h.contents k q hk hq
    · have hkw : k = s.accepted.length := by
        have hlt := (List.getElem?_eq_some_iff.mp hq).1
        rw [List.length_append, List.length_singleton] at hlt
        omega
      subst hkw
      rw [List.getElem?_concat_length] at hq
      obtain rfl := Option.some.inj hq
      rw [Function.update_self]
      exact hstored.congr rfl rfl rfl rfl rfl
  · rw [hdecoded, haccepted, List.map_append]
    exact h.order.trans (List.prefix_append _ _)
  · intro i
    rw [hpool]
    by_cases hi : i = slot n s.accepted.length
    · have hsized := h.sized (slot n s.accepted.length)
      rw [hi, Function.update_self, h.writeBuffer]
      exact ⟨hsized.block, hsized.lower, hsized.upper⟩
    · rw [Function.update_of_ne hi]
      exact h.sized i

/-- Releasing shortens the run of flagged nodes at its start. -/
theorem RingInv.release (h : RingInv s) {p : Packet} (hread : s.readBuffer.needRead = true)
    (hp : s.accepted[s.decoded.length]? = some p) : RingInv (s.release (some p.decoded)) := by
  have hread' : (s.ad.pool (slot n s.decoded.length)).needRead = true := h.readBuffer ▸ hread
  have hpool : (s.release (some p.decoded)).ad.pool =
      Function.update s.ad.pool (slot n s.decoded.length)
        { s.readBuffer with needRead := false } := by
    simp only [State.release, h.list, h.reader]
    rfl
  have haccepted : (s.release (some p.decoded)).accepted = s.accepted := rfl
  have hdecoded : (s.release (some p.decoded)).decoded = s.decoded ++ [p.decoded] := rfl
  have hlen : (s.release (some p.decoded)).decoded.length = s.decoded.length + 1 := by
    rw [hdecoded, List.length_append, List.length_singleton]
  refine ⟨h.list, h.spsLength, h.ppsLength, ?_, h.writer, ?_, ?_, ?_, ?_⟩
  · rw [haccepted, hlen]
    refine (h.window.pop hread').congr fun i ↦ ?_
    rw [hpool]
    by_cases hi : i = slot n s.decoded.length
    · rw [hi, Function.update_self, Function.update_self]
    · rw [Function.update_of_ne hi, Function.update_of_ne hi]
  · show (s.ad.bufferList s.node).next = _
    rw [h.list, h.reader, create_next, hlen]
  · intro k q hk hq
    rw [hlen] at hk
    rw [haccepted] at hq
    have hlt := (List.getElem?_eq_some_iff.mp hq).1
    have hcap := h.window.cap
    have hne : slot n k ≠ slot n s.decoded.length := by
      intro heq
      have heq' := slot_inj (r := s.decoded.length) (by omega) (by omega) le_rfl (by omega) heq
      omega
    rw [hpool, Function.update_of_ne hne]
    exact h.contents k q (by omega) hq
  · obtain ⟨rest, hrest⟩ := h.order
    have hget : (s.accepted.map Packet.decoded)[s.decoded.length]? = some p.decoded := by
      rw [List.getElem?_map, hp]
      rfl
    rw [← hrest, List.getElem?_append_right le_rfl, Nat.sub_self] at hget
    rw [hdecoded, haccepted, ← hrest]
    cases rest with
    | nil => cases hget
    | cons d rest =>
      obtain rfl := Option.some.inj hget
      exact ⟨rest, by simp⟩
  · intro i
    rw [hpool]
    by_cases hi : i = slot n s.decoded.length
    · have hsized := h.sized (slot n s.decoded.length)
      rw [hi, Function.update_self, h.readBuffer]
      exact ⟨hsized.block, hsized.lower, hsized.upper⟩
    · rw [Function.update_of_ne hi]
      exact h.sized i

/-- Releasing a node does not touch the one being filled. -/
theorem release_writeBuffer (h : RingInv s) (hread : s.readBuffer.needRead = true)
    (d : Option Decoded) (hfree : s.writeBuffer.needRead = false) :
    (s.release d).writeBuffer = s.writeBuffer := by
  show (s.release d).ad.pool (s.ad.bufferList s.ad.nodeWrite).data = _
  rw [h.writeBuffer, h.list, h.writer, State.release]
  simp only [h.list, h.reader]
  exact Function.update_of_ne (h.writer_ne_reader hfree hread) _ _

theorem producerStep_inv (h : Inv s) (hstep : s.producerStep = some t) : Inv t := by
  obtain ⟨hr, hp, hc⟩ := h
  have hsized : Sized s.writeBuffer := hr.writeBuffer ▸ hr.sized _
  unfold State.producerStep at hstep
  cases hpc : s.producer with
  | idle => simp only [hpc] at hstep; cases hstep
  | fault => simp only [hpc] at hstep; cases hstep
  | wait p count =>
    simp only [hpc] at hstep
    split at hstep
    · cases hstep
      exact ⟨{ hr with }, trivial, hc⟩
    · cases hstep
      exact ⟨{ hr with }, trivial, hc⟩
  | check p =>
    simp only [hpc] at hstep
    split at hstep
    · cases hstep
      exact ⟨{ hr with }, trivial, hc⟩
    · rename_i hfree
      cases hstep
      exact ⟨{ hr with }, Bool.eq_false_of_not_eq_true hfree, hc⟩
  | store p =>
    simp only [hpc, hr.spsLength, hr.ppsLength] at hstep hp
    cases hstep
    have hneed := (prepare_needRead s.writeBuffer 0 0 p).trans hp
    obtain ⟨hsized', hprepared⟩ := hsized.prepare p
    have hring := hr.setWriteBuffer hp hneed hsized'
    have hwrite := setWriteBuffer_writeBuffer s (s.writeBuffer.prepare 0 0 p)
    refine ⟨{ hring with }, ?_, hc.congr (setWriteBuffer_readBuffer hr hp _) fun _ hq ↦ hq⟩
    exact hwrite.symm ▸ ⟨hneed, hprepared⟩
  | copy p =>
    simp only [hpc] at hstep hp
    obtain ⟨hfree, hprepared⟩ := hp
    cases hcopy : s.writeBuffer.copy p.data with
    | none =>
      simp only [hcopy] at hstep
      cases hstep
      exact ⟨{ hr with }, trivial, hc⟩
    | some b =>
      simp only [hcopy] at hstep
      cases hstep
      obtain ⟨hstored, hsized', hneed⟩ := hprepared.copy hsized hcopy
      have hring := hr.setWriteBuffer hfree (hneed.trans hfree) hsized'
      have hwrite := setWriteBuffer_writeBuffer s b
      refine ⟨{ hring with }, ?_, hc.congr (setWriteBuffer_readBuffer hr hfree _) fun _ hq ↦ hq⟩
      exact hwrite.symm ▸ ⟨hneed.trans hfree, hstored⟩
  | publish p =>
    simp only [hpc] at hstep hp
    cases hstep
    refine ⟨hr.publish hp.1 hp.2, trivial, hc.congr (setWriteBuffer_readBuffer hr hp.1 _) ?_⟩
    intro q hq
    show (s.accepted ++ [p])[s.decoded.length]? = some q
    rw [List.getElem?_append_left (List.getElem?_eq_some_iff.mp hq).1]
    exact hq

theorem consumerStep_inv (h : Inv s) (hstep : s.consumerStep = some t) : Inv t := by
  obtain ⟨hr, hp, hc⟩ := h
  unfold State.consumerStep at hstep
  cases hpc : s.consumer with
  | exited => simp only [hpc] at hstep; cases hstep
  | fault => simp only [hpc] at hstep; cases hstep
  | start =>
    simp only [hpc] at hstep
    cases hstep
    exact ⟨{ hr with }, hp, trivial⟩
  | top =>
    simp only [hpc] at hstep
    cases hstep
    refine ⟨{ hr with }, hp, ?_⟩
    show ConsumerOk _ _ (if s.ad.quit then Consumer.stop else Consumer.poll)
    split <;> trivial
  | poll =>
    simp only [hpc] at hstep
    cases hstep
    refine ⟨{ hr with }, hp, ?_⟩
    show ConsumerOk s.readBuffer _ (if s.readBuffer.needRead then Consumer.decode else Consumer.top)
    split
    · rename_i hread
      exact hread
    · trivial
  | decode =>
    simp only [hpc] at hstep hc
    obtain ⟨p, hp', hstored⟩ := hr.next_packet hc
    simp only [hstored.decodeNode] at hstep
    cases hstep
    exact ⟨{ hr with }, hp, hc, p, hp', rfl⟩
  | release d =>
    simp only [hpc] at hstep hc
    cases hstep
    obtain ⟨hread, p, hp', rfl⟩ := hc
    exact ⟨hr.release hread hp', hp.congr (release_writeBuffer hr hread _), trivial⟩
  | stop =>
    simp only [hpc] at hstep
    cases hstep
    exact ⟨{ hr with }, hp, trivial⟩

theorem step_inv {l : Label} (h : Inv s) (hstep : s.step l = some t) : Inv t := by
  cases l with
  | receiveData p =>
    simp only [State.step] at hstep
    split at hstep
    · split at hstep
      · cases hstep
        exact ⟨{ h.ring with }, trivial, h.consumer⟩
      · cases hstep
        exact h
    · cases hstep
  | producer => exact producerStep_inv h hstep
  | consumer => exact consumerStep_inv h hstep
  | quit =>
    cases hstep
    exact ⟨{ h.ring with }, h.producer, h.consumer⟩

theorem create_inv : Inv (State.create n) where
  ring := {
    list := rfl
    spsLength := rfl
    ppsLength := rfl
    window := window_empty fun _ ↦ rfl
    writer := slot_zero.symm
    reader := slot_zero.symm
    contents := fun _ _ _ hp ↦ by cases hp
    order := List.nil_prefix
    sized := fun _ ↦ sized_zero }
  producer := trivial
  consumer := trivial

theorem reachable_inv (h : Reachable (ofPartial State.step) (State.create n) s) : Inv s :=
  h.invariant (fun _ _ _ hstep hi ↦ step_inv hi hstep) create_inv

/-! ### Order and loss -/

/-- What the decoding thread was given, the node it is at included. -/
def handed (s : State n) : List Decoded :=
  s.decoded ++ match s.consumer with
    | .release d => d.toList
    | _ => []

/-- Packets come out in the order they went in, an accepted packet stays in its
node until it is decoded, and a call gives its packet up only when the ring is full. -/
structure InOrder (s : State n) : Prop where
  order : handed s <+: s.accepted.map Packet.decoded
  kept : ∀ k p, s.decoded.length ≤ k → s.accepted[k]? = some p →
    decodeNode (s.ad.pool (slot n k)) = some (some p.decoded)
  run : ∀ i, (s.ad.pool i).needRead = true ↔
    ∃ k, s.decoded.length ≤ k ∧ k < s.accepted.length ∧ slot n k = i
  reader : s.node = slot n s.decoded.length
  writer : s.ad.nodeWrite = slot n s.accepted.length
  capacity : s.accepted.length ≤ s.decoded.length + n
  taken : ∀ p t, s.ad.running = true → s.step (.receiveData p) = some t → t.producer = .wait p 20
  dropped : ∀ t, s.step .producer = some t → t.producer = .idle →
    (∃ p, s.producer = .publish p ∧ t.accepted = s.accepted ++ [p]) ∨
      ∀ i, (s.ad.pool i).needRead = true

theorem Inv.handed (h : Inv s) : handed s <+: s.accepted.map Packet.decoded := by
  obtain ⟨hr, -, hc⟩ := h
  unfold Order.handed
  cases hpc : s.consumer with
  | release d =>
    simp only [hpc] at hc
    obtain ⟨hread, p, hp, rfl⟩ := hc
    exact (hr.release hread hp).order
  | _ => simpa only [List.append_nil] using hr.order

theorem Inv.dropped (h : Inv s) (hstep : s.step .producer = some t) (hidle : t.producer = .idle) :
    (∃ p, s.producer = .publish p ∧ t.accepted = s.accepted ++ [p]) ∨
      ∀ i, (s.ad.pool i).needRead = true := by
  simp only [State.step, State.producerStep] at hstep
  cases hpc : s.producer with
  | idle => simp only [hpc] at hstep; cases hstep
  | fault => simp only [hpc] at hstep; cases hstep
  | wait p count =>
    simp only [hpc] at hstep
    split at hstep <;> cases hstep <;> cases hidle
  | check p =>
    simp only [hpc] at hstep
    split at hstep
    · rename_i hfull
      rw [h.ring.writeBuffer] at hfull
      exact .inr (h.ring.window.all_flagged hfull)
    · cases hstep
      cases hidle
  | store p =>
    simp only [hpc] at hstep
    cases hstep
    cases hidle
  | copy p =>
    simp only [hpc] at hstep
    split at hstep <;> cases hstep <;> cases hidle
  | publish p =>
    simp only [hpc] at hstep
    cases hstep
    exact .inl ⟨p, rfl, rfl⟩

/-- In every interleaving of the calls, the two threads' steps and a request to
quit, from creation on. -/
theorem decode_ring_in_order {s : State 240}
    (h : Reachable (ofPartial State.step) (State.create 240) s) : InOrder s := by
  have hinv := reachable_inv h
  have hr := hinv.ring
  refine ⟨hinv.handed, ?_, hr.window.flag_iff, hr.reader, hr.writer, hr.window.cap, ?_,
    fun t ↦ hinv.dropped⟩
  · intro k p hk hp
    exact (hr.contents k p hk hp).decodeNode
  · intro p t hrunning hstep
    simp only [State.step, hrunning, if_true] at hstep
    split at hstep
    · cases hstep
      rfl
    · cases hstep

theorem length_nal (header : UInt8) : ([0, 0, 0, 1, header, 9] : List UInt8).length ≤ INT_MAX :=
  Nat.le_of_ble_eq_true rfl

theorem length_frame : ([1, 2, 3] : List UInt8).length ≤ INT_MAX := Nat.le_of_ble_eq_true rfl

/-- Three packets are received, and two of them decoded. -/
def threePackets : List Label :=
  let store := List.replicate 5 Label.producer
  let decode := List.replicate 4 Label.consumer
  .consumer :: .receiveData ⟨.video, [0, 0, 0, 1, 0x65, 9], 8, length_nal 0x65⟩ ::
    (store ++ .receiveData ⟨.audio, [1, 2, 3], 7, length_frame⟩ :: (store ++ decode ++
      .receiveData ⟨.video, [0, 0, 0, 1, 0x41, 9], 9, length_nal 0x41⟩ :: (store ++ decode)))

theorem decode_ring_in_order_three : ∃ s : State 240, InOrder s ∧ s.accepted.length = 3 ∧
    s.decoded = [⟨.video, [0, 0, 0, 1, 0x65, 9], 8⟩, ⟨.audio, [1, 2, 3], 7⟩] := by
  obtain ⟨s, hs, hf⟩ := exists_reachable_of_exec (s := State.create 240)
    (f := fun s ↦ (s.accepted.length, s.decoded))
    (b := (3, [⟨.video, [0, 0, 0, 1, 0x65, 9], 8⟩, ⟨.audio, [1, 2, 3], 7⟩])) threePackets
    (show (exec State.step _ _).map _ = _ by decide +kernel)
  simp only [Prod.mk.injEq] at hf
  exact ⟨s, decode_ring_in_order hs, hf.1, hf.2⟩

end VirtualCamera.Decoder.Order
