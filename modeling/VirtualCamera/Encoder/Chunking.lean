import VirtualCamera.Library.Memory
import VirtualCamera.Library.Nio

namespace VirtualCamera.Encoder.Chunking

open Library Library.Memory

structure Queued where
  bytes : List UInt8
  endOfStream : Bool
  deriving DecidableEq, Repr

/-- A call of `encode` between two rounds of its loop: whether it has left the loop after the end
of the stream, or with an exception. -/
structure Call (β : Type) where
  ix : ℤ
  buffer : β
  queued : List Queued
  broken : Bool
  thrown : Bool

/-- How a part of the data is put into an input buffer; `none` is an exception. -/
abbrev Fill (β : Type) := β → ℤ → ℤ → Nio.Buffer UInt8 → Option (β × Nio.Buffer UInt8)

def fillArray : Fill (Option (List UInt8)) := fun buffer ix sz inputBuffer ↦
  match buffer with
  | none => some (none, inputBuffer)
  | some bytes => (inputBuffer.putArray bytes ix sz).map fun inputBuffer ↦ (some bytes, inputBuffer)

def fillBuffer : Fill (Option (Nio.Buffer UInt8)) := fun buffer ix sz inputBuffer ↦
  match buffer with
  | none => some (none, inputBuffer)
  | some buffer =>
    match buffer.setPosition (int32 (ix + sz)) with
    | none => none
    | some buffer => (inputBuffer.putBuffer buffer.flip).map fun p ↦ (some p.2, p.1)

section

variable {β : Type} (fill : Fill β) (length : ℤ)

def Call.offer (c : Call β) (inputBuffer : Nio.Buffer UInt8) : Call β :=
  let inputBuffer := inputBuffer.clear
  let sz : ℤ := inputBuffer.remaining
  let sz := if int32 (c.ix + sz) < length then sz else length - c.ix
  match (if 0 < sz then fill c.buffer c.ix sz inputBuffer else some (c.buffer, inputBuffer)) with
  | none => { c with thrown := true }
  | some (buffer, inputBuffer) =>
    let c := { c with ix := int32 (c.ix + sz), buffer := buffer }
    if length ≤ 0 then { c with queued := c.queued ++ [⟨[], true⟩], broken := true }
    else { c with queued := c.queued ++ [⟨inputBuffer.elements.take sz.toNat, false⟩] }

/-- Whether there is another round while the encoder is capturing. -/
def Call.Loops (c : Call β) : Prop := c.broken = false ∧ c.thrown = false ∧ c.ix < length

instance (c : Call β) : Decidable (c.Loops length) :=
  inferInstanceAs (Decidable (_ ∧ _ ∧ _))

/-- A round of the loop; without an input buffer it tries again. -/
def Call.round (c : Call β) (inputBuffer : Option (Nio.Buffer UInt8)) : Call β :=
  if c.Loops length then inputBuffer.elim c (c.offer fill length) else c

end

/-- The answers of `dequeueInputBuffer`: an input buffer, or to try again. -/
structure Answers where
  answer : ℕ → Option (Nio.Buffer UInt8)
  pos : ∀ k b, answer k = some b → 0 < b.elements.length
  le_max : ∀ k b, answer k = some b → b.elements.length ≤ INT_MAX
  available : ∀ n, ∃ k, n ≤ k ∧ (answer k).isSome

def encode {β : Type} (fill : Fill β) (length : ℤ) (buffer : β) (answers : Answers) : ℕ → Call β
  | 0 => ⟨0, buffer, [], false, false⟩
  | n + 1 => (encode fill length buffer answers n).round fill length (answers.answer n)

structure ArrayArg where
  buffer : Option (List UInt8)
  length : ℕ
  fits : length ≤ (buffer.getD []).length
  le_max : (buffer.getD []).length ≤ INT_MAX

def ArrayArg.data (a : ArrayArg) : List UInt8 := (a.buffer.getD []).take a.length

structure BufferArg where
  buffer : Option (Nio.Buffer UInt8)
  length : ℕ
  fits : length ≤ buffer.elim 0 Nio.Buffer.limit
  le_max : buffer.elim 0 Nio.Buffer.limit ≤ INT_MAX

def BufferArg.data (a : BufferArg) : List UInt8 :=
  (a.buffer.elim [] Nio.Buffer.elements).take a.length

/-- The call returns; what it has queued is the data, or the end of the stream once. -/
def Chunks {β : Type} (fill : Fill β) (length : ℕ) (buffer : β) (data : List UInt8)
    (answers : Answers) : Prop :=
  ∃ n, ¬ (encode fill length buffer answers n).Loops length ∧
    (encode fill length buffer answers n).thrown = false ∧
    if length = 0 then (encode fill length buffer answers n).queued = [⟨[], true⟩]
    else (encode fill length buffer answers n).queued.flatMap Queued.bytes = data ∧
      ∀ q ∈ (encode fill length buffer answers n).queued, q.endOfStream = false

def Answers.offered (answers : Answers) : ℕ → ℕ
  | 0 => 0
  | n + 1 => answers.offered n + (answers.answer n).elim 0 fun b ↦ b.elements.length

section

variable {β : Type} {fill : Fill β} {buffer : β} {answers : Answers}

theorem offered_none {n : ℕ} (h : answers.answer n = none) :
    answers.offered (n + 1) = answers.offered n := by
  rw [Answers.offered, h]
  rfl

theorem offered_some {n : ℕ} {b : Nio.Buffer UInt8} (h : answers.answer n = some b) :
    answers.offered (n + 1) = answers.offered n + b.elements.length := by
  rw [Answers.offered, h]
  rfl

theorem offered_mono (answers : Answers) : Monotone answers.offered :=
  monotone_nat_of_le_succ fun _ ↦ Nat.le_add_right _ _

theorem exists_le_offered (answers : Answers) (m : ℕ) : ∃ n, m ≤ answers.offered n := by
  induction m with
  | zero => exact ⟨0, Nat.zero_le _⟩
  | succ m ih =>
    obtain ⟨n, hn⟩ := ih
    obtain ⟨k, hk, hsome⟩ := answers.available n
    obtain ⟨b, hb⟩ := Option.isSome_iff_exists.mp hsome
    have hpos := answers.pos k b hb
    have hmono := offered_mono answers hk
    refine ⟨k + 1, ?_⟩
    rw [offered_some hb]
    omega

/-- A call that has left its loop stays as it is. -/
theorem encode_of_not_loops {length : ℤ} {n m : ℕ}
    (h : ¬ (encode fill length buffer answers n).Loops length) (hle : n ≤ m) :
    encode fill length buffer answers m = encode fill length buffer answers n := by
  induction m, hle using Nat.le_induction with
  | base => rfl
  | succ m hle ih =>
    rw [encode, ih]
    exact if_neg h

theorem encode_zero (n : ℕ) :
    encode fill (0 : ℕ) buffer answers n = ⟨0, buffer, [], false, false⟩ := by
  have hstart : ¬ (encode fill (0 : ℕ) buffer answers 0).Loops (0 : ℕ) :=
    fun h ↦ absurd h.2.2 (Int.lt_irrefl 0)
  exact encode_of_not_loops hstart (Nat.zero_le n)

theorem not_chunks_zero {data : List UInt8} : ¬ Chunks fill 0 buffer data answers := by
  intro h
  obtain ⟨n, -, -, hqueued⟩ := h
  rw [if_pos rfl, encode_zero] at hqueued
  cases hqueued

end

/-! ### One input buffer -/

section

variable {β : Type} {fill : Fill β} {c : Call β} {b : Nio.Buffer UInt8} {length i m : ℕ}

/-- How much of the data goes into an input buffer when no `int` overflows. -/
theorem chunk_size (hi : i ≤ length) (hfits : i + b.elements.length ≤ INT_MAX) :
    (if int32 ((i : ℤ) + b.clear.remaining) < (length : ℤ) then (b.clear.remaining : ℤ)
      else length - i) = (min b.elements.length (length - i) : ℕ) := by
  have hremaining : b.clear.remaining = b.elements.length := rfl
  have hint : int32 ((i : ℤ) + b.elements.length) = (i + b.elements.length : ℕ) :=
    toInt32_of_le hfits
  rw [hremaining, hint]
  split <;> omega

theorem chunk_size_of_overflow (hi : i ≤ INT_MAX) (hb : b.elements.length ≤ INT_MAX)
    (h : INT_MAX < i + b.elements.length) :
    (if int32 ((i : ℤ) + b.clear.remaining) < (length : ℤ) then (b.clear.remaining : ℤ)
      else length - i) = b.elements.length ∧ int32 ((i : ℤ) + b.elements.length) < 0 := by
  have hneg : int32 ((i : ℤ) + b.elements.length) < 0 := by
    unfold INT_MAX at hi hb h
    rw [int32, Int.bmod_def]
    split <;> omega
  refine ⟨?_, hneg⟩
  exact if_pos (hneg.trans_le (Int.natCast_nonneg length))

theorem offer_of_fill {p : β × Nio.Buffer UInt8} (hix : c.ix = i)
    (hsize : (if int32 ((i : ℤ) + b.clear.remaining) < (length : ℤ) then (b.clear.remaining : ℤ)
      else length - i) = m)
    (hm : 0 < m) (hlength : 0 < length) (hmax : i + m ≤ INT_MAX)
    (hfill : fill c.buffer i m b.clear = some p) :
    c.offer fill length b = { c with
      ix := (i + m : ℕ)
      buffer := p.1
      queued := c.queued ++ [⟨p.2.elements.take m, false⟩] } := by
  have hint : int32 ((i : ℤ) + m) = (i + m : ℕ) := toInt32_of_le hmax
  unfold Call.offer
  simp only [hix, hsize, hint, if_pos (Int.natCast_pos.mpr hm), hfill, Int.toNat_natCast]
  exact if_neg (by omega)

theorem offer_of_fill_none (hix : c.ix = i)
    (hsize : (if int32 ((i : ℤ) + b.clear.remaining) < (length : ℤ) then (b.clear.remaining : ℤ)
      else length - i) = m)
    (hm : 0 < m) (hfill : fill c.buffer i m b.clear = none) :
    c.offer fill length b = { c with thrown := true } := by
  unfold Call.offer
  simp only [hix, hsize, if_pos (Int.natCast_pos.mpr hm), hfill]

end

/-! ### Arrays -/

section

variable {a : ArrayArg} {answers : Answers}

/-- Nothing overflows while there is data left. -/
def Small (length : ℕ) (answers : Answers) (n : ℕ) : Prop :=
  answers.offered n < length → answers.offered (n + 1) ≤ INT_MAX

theorem exists_bytes (hpos : 0 < a.length) : ∃ bytes, a.buffer = some bytes ∧
    a.length ≤ bytes.length ∧ bytes.length ≤ INT_MAX ∧ a.data = bytes.take a.length := by
  have hfits := a.fits
  have hmax := a.le_max
  unfold ArrayArg.data
  cases hbuffer : a.buffer with
  | none =>
    rw [hbuffer] at hfits
    exact absurd (hpos.trans_le hfits) (Nat.lt_irrefl 0)
  | some bytes =>
    rw [hbuffer] at hfits hmax
    exact ⟨bytes, rfl, hfits, hmax, rfl⟩

theorem offer_array {c : Call (Option (List UInt8))} {i : ℕ} {b : Nio.Buffer UInt8}
    (hbuffer : c.buffer = a.buffer) (hix : c.ix = i) (hi : i < a.length)
    (hpos : 0 < b.elements.length) (hfits : i + b.elements.length ≤ INT_MAX) :
    c.offer fillArray a.length b = { c with
      ix := (min (i + b.elements.length) a.length : ℕ)
      queued := c.queued ++ [⟨(a.data.drop i).take b.elements.length, false⟩] } := by
  obtain ⟨bytes, hbytes, hlength, hmax, hdata⟩ := exists_bytes (Nat.zero_lt_of_lt hi)
  have hchunk : (a.data.drop i).take b.elements.length =
      (bytes.drop i).take (min b.elements.length (a.length - i)) := by
    rw [hdata, List.drop_take, List.take_take]
  have hlen : ((bytes.drop i).take (min b.elements.length (a.length - i))).length =
      min b.elements.length (a.length - i) := by
    rw [List.length_take, List.length_drop]
    omega
  obtain ⟨b', hput, htake⟩ : ∃ b', b.clear.put
      ((bytes.drop i).take (min b.elements.length (a.length - i))) = some b' ∧
        b'.elements.take ((bytes.drop i).take (min b.elements.length (a.length - i))).length =
          (bytes.drop i).take (min b.elements.length (a.length - i)) :=
    Nio.put_clear (by omega)
  rw [hlen] at htake
  have hfill : fillArray c.buffer i (min b.elements.length (a.length - i) : ℕ) b.clear =
      some (c.buffer, b') := by
    rw [hbuffer, hbytes]
    unfold fillArray Nio.Buffer.putArray
    dsimp only
    rw [if_pos (by omega), Int.toNat_natCast, Int.toNat_natCast, hput]
    rfl
  rw [offer_of_fill hix (chunk_size hi.le hfits) (by omega) (by omega) (by omega) hfill]
  have hix' : i + min b.elements.length (a.length - i) = min (i + b.elements.length) a.length := by
    omega
  rw [hix', htake, hchunk]

theorem encode_array {n : ℕ} (h : ∀ m < n, Small a.length answers m) :
    ∃ queued : List Queued,
      encode fillArray a.length a.buffer answers n =
        ⟨(min (answers.offered n) a.length : ℕ), a.buffer, queued, false, false⟩ ∧
      queued.flatMap Queued.bytes = a.data.take (answers.offered n) ∧
      ∀ q ∈ queued, q.endOfStream = false := by
  induction n with
  | zero =>
    exact ⟨[], by simp [encode, Answers.offered], rfl, fun q hq ↦ absurd hq List.not_mem_nil⟩
  | succ n ih =>
    obtain ⟨queued, heq, hdata, heos⟩ := ih fun m hm ↦ h m (hm.trans (Nat.lt_succ_self n))
    have hle : answers.offered n ≤ answers.offered (n + 1) := offered_mono answers (Nat.le_succ n)
    by_cases hmore : answers.offered n < a.length
    · have hloops : (encode fillArray a.length a.buffer answers n).Loops a.length := by
        rw [heq]
        exact ⟨rfl, rfl, by simp only; omega⟩
      rw [encode, Call.round, if_pos hloops]
      cases hanswer : answers.answer n with
      | none =>
        rw [offered_none hanswer]
        exact ⟨queued, heq, hdata, heos⟩
      | some b =>
        have hadd := offered_some hanswer
        have hsmall := h n (Nat.lt_succ_self n) hmore
        rw [hadd] at hsmall
        have hoffer : (encode fillArray a.length a.buffer answers n).offer fillArray a.length b =
            ⟨(min (answers.offered n + b.elements.length) a.length : ℕ), a.buffer,
              queued ++ [⟨(a.data.drop (answers.offered n)).take b.elements.length, false⟩],
              false, false⟩ := by
          rw [heq]
          exact offer_array rfl (by rw [Nat.min_eq_left hmore.le]) hmore (answers.pos n b hanswer) hsmall
        refine ⟨_, by rw [hadd]; exact hoffer, ?_, ?_⟩
        · rw [List.flatMap_append, hdata, List.flatMap_singleton, hadd, List.take_add]
        · intro q hq
          obtain hq | hq := List.mem_append.mp hq
          · exact heos q hq
          · rw [List.mem_singleton.mp hq]
    · have hstop : ¬ (encode fillArray a.length a.buffer answers n).Loops a.length := by
        rw [heq]
        exact fun hloops ↦ absurd hloops.2.2 (by simp only; omega)
      have hlength : a.data.length ≤ a.length := by
        unfold ArrayArg.data
        exact List.length_take_le _ _
      refine ⟨queued, ?_, ?_, heos⟩
      · rw [encode_of_not_loops hstop (Nat.le_succ n), heq, Nat.min_eq_right (by omega),
          Nat.min_eq_right (by omega)]
      · rw [hdata, List.take_of_length_le (by omega), List.take_of_length_le (by omega)]

/-- Where the end of an input buffer is past what an `int` holds, `put` is asked for more than the
array has. -/
theorem thrown_array {n : ℕ} (h : ∀ m < n, Small a.length answers m)
    (hmore : answers.offered n < a.length) (hbig : INT_MAX < answers.offered (n + 1)) :
    (encode fillArray a.length a.buffer answers (n + 1)).thrown = true := by
  obtain ⟨queued, heq, -, -⟩ := encode_array h
  obtain ⟨bytes, hbytes, hlength, hmax, -⟩ := exists_bytes (Nat.zero_lt_of_lt hmore)
  have hloops : (encode fillArray a.length a.buffer answers n).Loops a.length := by
    rw [heq]
    exact ⟨rfl, rfl, by simp only; omega⟩
  rw [encode, Call.round, if_pos hloops]
  cases hanswer : answers.answer n with
  | none =>
    rw [offered_none hanswer] at hbig
    omega
  | some b =>
    rw [offered_some hanswer] at hbig
    have hfill : fillArray (some bytes) (answers.offered n) b.elements.length b.clear = none := by
      unfold fillArray Nio.Buffer.putArray
      dsimp only
      rw [if_neg (by omega)]
      rfl
    rw [← hbytes] at hfill
    rw [heq, Nat.min_eq_left hmore.le, Option.elim_some, offer_of_fill_none rfl
      (chunk_size_of_overflow (by omega) (answers.le_max n b hanswer) hbig).1
      (answers.pos n b hanswer) hfill]

theorem chunks_array_iff (a : ArrayArg) (answers : Answers) :
    Chunks fillArray a.length a.buffer a.data answers ↔
      0 < a.length ∧ ∀ n, Small a.length answers n := by
  constructor
  · intro h
    have hpos : 0 < a.length := by
      by_contra hzero
      rw [Nat.eq_zero_of_not_pos hzero] at h
      exact not_chunks_zero h
    refine ⟨hpos, fun n ↦ ?_⟩
    induction n using Nat.strong_induction_on with
    | _ n ih =>
      intro hmore
      by_contra hbig
      have hthrown := thrown_array ih hmore (by omega)
      obtain ⟨m, hstop, hreturns, -⟩ := h
      rcases Nat.lt_or_ge n m with hlt | hge
      · have hstays : ¬ (encode fillArray a.length a.buffer answers (n + 1)).Loops a.length :=
          fun hloops ↦ Bool.noConfusion (hthrown.symm.trans hloops.2.1)
        rw [encode_of_not_loops hstays hlt, hthrown] at hreturns
        cases hreturns
      · obtain ⟨queued, heq, -⟩ := encode_array fun k (hk : k < m) ↦ ih k (hk.trans_le hge)
        have hless : answers.offered m ≤ answers.offered n := offered_mono answers hge
        apply hstop
        rw [heq]
        exact ⟨rfl, rfl, by simp only; omega⟩
  · intro hcond
    obtain ⟨hpos, hsmall⟩ := hcond
    obtain ⟨n, hn⟩ := exists_le_offered answers a.length
    obtain ⟨queued, heq, hdata, heos⟩ := encode_array (n := n) fun m _ ↦ hsmall m
    refine ⟨n, ?_, ?_, ?_⟩
    · rw [heq]
      exact fun hloops ↦ absurd hloops.2.2 (by simp only; omega)
    · rw [heq]
    · rw [if_neg hpos.ne', heq]
      refine ⟨?_, heos⟩
      have hlength : a.data.length ≤ a.length := List.length_take_le _ _
      rw [hdata, List.take_of_length_le (by omega)]

end

/-! ### Buffers -/

section

variable {a : BufferArg} {answers : Answers}

/-- A position past the limit is refused, or one that is negative after an overflow. -/
theorem fillBuffer_eq_none {buffer : Nio.Buffer UInt8} {ix sz : ℤ} {b : Nio.Buffer UInt8}
    (h : int32 (ix + sz) < 0 ∨ (buffer.limit : ℤ) < int32 (ix + sz)) :
    fillBuffer (some buffer) ix sz b = none := by
  unfold fillBuffer
  dsimp only
  rw [Nio.setPosition_eq_none.mpr h]

theorem fillBuffer_eq {buffer placed : Nio.Buffer UInt8} {ix sz : ℤ} {b : Nio.Buffer UInt8}
    (h : buffer.setPosition (int32 (ix + sz)) = some placed) :
    fillBuffer (some buffer) ix sz b =
      (b.putBuffer placed.flip).map fun p ↦ (some p.2, p.1) := by
  unfold fillBuffer
  dsimp only
  rw [h]

theorem fillBuffer_of_le {buffer b : Nio.Buffer UInt8} {m : ℕ} (hm : m ≤ buffer.limit)
    (hmax : m ≤ INT_MAX) (hb : m ≤ b.elements.length) :
    ∃ buffer' b' : Nio.Buffer UInt8, fillBuffer (some buffer) (0 : ℕ) m b.clear = some (some buffer', b') ∧
      buffer'.limit = m ∧ b'.elements.take m = buffer.elements.take m := by
  obtain ⟨placed, hplaced, helements, hposition, -⟩ := Nio.setPosition_of_le hm
  have hint : int32 (((0 : ℕ) : ℤ) + m) = m := by
    rw [Nat.cast_zero, Int.zero_add]
    exact toInt32_of_le hmax
  rw [← hint] at hplaced
  have hrest : placed.flip.rest = buffer.elements.take m := by
    rw [Nio.rest_flip, helements, hposition]
  have hlength : (buffer.elements.take m).length = m := by
    have := buffer.limit_le
    rw [List.length_take]
    omega
  obtain ⟨b', hput, htake⟩ : ∃ b', b.clear.put (buffer.elements.take m) = some b' ∧
      b'.elements.take (buffer.elements.take m).length = buffer.elements.take m :=
    Nio.put_clear (by omega)
  rw [hlength] at htake
  refine ⟨⟨placed.flip.elements, placed.flip.limit, placed.flip.limit, le_rfl, placed.flip.limit_le⟩,
    b', ?_, hposition, htake⟩
  rw [fillBuffer_eq hplaced, Nio.Buffer.putBuffer, hrest, hput, Option.map_some, Option.map_some]

/-- The first chunk goes into the input buffer, and the rest of the data is past the limit then. -/
theorem offer_first {c : Call (Option (Nio.Buffer UInt8))} {b : Nio.Buffer UInt8}
    (hlength : 0 < a.length) (hbuffer : c.buffer = a.buffer) (hix : c.ix = (0 : ℕ))
    (hpos : 0 < b.elements.length) (hmax : b.elements.length ≤ INT_MAX) :
    ∃ buffer : Nio.Buffer UInt8, buffer.limit = min b.elements.length a.length ∧
      c.offer fillBuffer a.length b = { c with
        ix := (min b.elements.length a.length : ℕ)
        buffer := some buffer
        queued := c.queued ++ [⟨a.data.take b.elements.length, false⟩] } := by
  obtain ⟨buffer, hbytes⟩ : ∃ buffer, a.buffer = some buffer := by
    have hfits := a.fits
    cases hbytes : a.buffer with
    | none =>
      rw [hbytes] at hfits
      exact absurd (hlength.trans_le hfits) (Nat.lt_irrefl 0)
    | some buffer => exact ⟨buffer, rfl⟩
  have hfits := a.fits
  rw [hbytes, Option.elim_some] at hfits
  obtain ⟨buffer', b', hfill, hlimit, htake⟩ : ∃ buffer' b' : Nio.Buffer UInt8,
      fillBuffer (some buffer) (0 : ℕ) (min b.elements.length a.length : ℕ) b.clear =
          some (some buffer', b') ∧
        buffer'.limit = min b.elements.length a.length ∧
        b'.elements.take (min b.elements.length a.length) =
          buffer.elements.take (min b.elements.length a.length) :=
    fillBuffer_of_le (by omega) (by omega) (by omega)
  rw [← hbytes, ← hbuffer] at hfill
  have hsize := chunk_size (b := b) (Nat.zero_le a.length) (by omega)
  rw [Nat.sub_zero] at hsize
  have hdata : a.data.take b.elements.length = buffer.elements.take (min b.elements.length a.length) := by
    unfold BufferArg.data
    rw [hbytes, Option.elim_some, List.take_take]
  refine ⟨buffer', hlimit, ?_⟩
  rw [offer_of_fill hix hsize (by omega) hlength (by omega) hfill, Nat.zero_add, htake, hdata]

/-- The second does not: its end is past the limit. -/
theorem offer_second {c : Call (Option (Nio.Buffer UInt8))} {b buffer : Nio.Buffer UInt8} {i : ℕ}
    (hbuffer : c.buffer = some buffer) (hix : c.ix = i) (hlimit : buffer.limit = i)
    (hi : i < a.length) (hle : i ≤ INT_MAX)
    (hpos : 0 < b.elements.length) (hmax : b.elements.length ≤ INT_MAX) :
    c.offer fillBuffer a.length b = { c with thrown := true } := by
  by_cases hfits : i + b.elements.length ≤ INT_MAX
  · refine offer_of_fill_none hix (chunk_size hi.le hfits) (by omega) ?_
    rw [hbuffer]
    apply fillBuffer_eq_none
    right
    have hint : int32 ((i : ℤ) + (min b.elements.length (a.length - i) : ℕ)) =
      (i + min b.elements.length (a.length - i) : ℕ) := toInt32_of_le (by omega)
    rw [hint, hlimit]
    omega
  · obtain ⟨hsize, hneg⟩ := chunk_size_of_overflow hle hmax (Nat.lt_of_not_le hfits)
    refine offer_of_fill_none hix hsize hpos ?_
    rw [hbuffer]
    exact fillBuffer_eq_none (.inl hneg)

theorem encode_of_offered_zero {n : ℕ} (h : answers.offered n = 0) :
    encode fillBuffer a.length a.buffer answers n = ⟨0, a.buffer, [], false, false⟩ := by
  induction n with
  | zero => rfl
  | succ n ih =>
    cases hanswer : answers.answer n with
    | none =>
      rw [offered_none hanswer] at h
      rw [encode, ih h, hanswer]
      exact ite_self _
    | some b =>
      rw [offered_some hanswer] at h
      have hpos := answers.pos n b hanswer
      omega

theorem exists_first (answers : Answers) :
    ∃ n b, answers.offered n = 0 ∧ answers.answer n = some b := by
  obtain ⟨n, hn⟩ := exists_le_offered answers 1
  induction n with
  | zero => exact absurd hn (Nat.not_succ_le_zero 0)
  | succ n ih =>
    rcases Nat.eq_zero_or_pos (answers.offered n) with hzero | hpos
    · cases hanswer : answers.answer n with
      | none =>
        rw [offered_none hanswer, hzero] at hn
        exact absurd hn (by decide)
      | some b => exact ⟨n, b, hzero, hanswer⟩
    · exact ih hpos

/-- Once the first chunk is not all of the data, the call does not return. -/
theorem encode_stuck {n : ℕ} {buffer : Nio.Buffer UInt8} {i : ℕ} {queued : List Queued}
    (hstart : encode fillBuffer a.length a.buffer answers n = ⟨i, some buffer, queued, false, false⟩)
    (hlimit : buffer.limit = i) (hi : i < a.length) (hmax : i ≤ INT_MAX) {m : ℕ} (hle : n ≤ m) :
    encode fillBuffer a.length a.buffer answers m = ⟨i, some buffer, queued, false, false⟩ ∨
      (encode fillBuffer a.length a.buffer answers m).thrown = true := by
  induction m, hle using Nat.le_induction with
  | base => exact .inl hstart
  | succ m hle ih =>
    obtain heq | hthrown := ih
    · have hloops : (encode fillBuffer a.length a.buffer answers m).Loops a.length := by
        rw [heq]
        exact ⟨rfl, rfl, by simp only; omega⟩
      rw [encode, Call.round, if_pos hloops, heq]
      cases hanswer : answers.answer m with
      | none => exact .inl rfl
      | some b =>
        right
        rw [Option.elim_some, offer_second rfl rfl hlimit hi hmax (answers.pos m b hanswer)
          (answers.le_max m b hanswer)]
    · have hstays : ¬ (encode fillBuffer a.length a.buffer answers m).Loops a.length :=
        fun hloops ↦ Bool.noConfusion (hthrown.symm.trans hloops.2.1)
      rw [encode_of_not_loops hstays (Nat.le_succ m)]
      exact .inr hthrown

theorem encode_first {n : ℕ} {b : Nio.Buffer UInt8} (hpos : 0 < a.length)
    (hn : answers.offered n = 0) (hanswer : answers.answer n = some b) :
    ∃ buffer : Nio.Buffer UInt8, buffer.limit = min b.elements.length a.length ∧
      encode fillBuffer a.length a.buffer answers (n + 1) =
        ⟨(min b.elements.length a.length : ℕ), some buffer,
          [⟨a.data.take b.elements.length, false⟩], false, false⟩ := by
  have hstart : encode fillBuffer a.length a.buffer answers n = ⟨0, a.buffer, [], false, false⟩ :=
    encode_of_offered_zero hn
  have hloops : (encode fillBuffer a.length a.buffer answers n).Loops a.length := by
    rw [hstart]
    exact ⟨rfl, rfl, Int.natCast_pos.mpr hpos⟩
  obtain ⟨buffer, hlimit, hoffer⟩ := offer_first (a := a)
    (c := ⟨0, a.buffer, [], false, false⟩) hpos rfl Nat.cast_zero.symm (answers.pos n b hanswer)
    (answers.le_max n b hanswer)
  refine ⟨buffer, hlimit, ?_⟩
  rw [encode, Call.round, if_pos hloops, hanswer, hstart, Option.elim_some, hoffer]
  exact rfl

theorem chunks_buffer_iff (a : BufferArg) (answers : Answers) :
    Chunks fillBuffer a.length a.buffer a.data answers ↔
      0 < a.length ∧ ∀ n, 0 < answers.offered n → a.length ≤ answers.offered n := by
  rcases Nat.eq_zero_or_pos a.length with hzero | hpos
  · rw [hzero]
    exact ⟨fun h ↦ absurd h not_chunks_zero, fun h ↦ absurd h.1 (Nat.lt_irrefl 0)⟩
  · obtain ⟨n, b, hn, hanswer⟩ := exists_first answers
    obtain ⟨buffer, hlimit, heq⟩ := encode_first hpos hn hanswer
    have hoffered : answers.offered (n + 1) = b.elements.length := by
      rw [offered_some hanswer, hn, Nat.zero_add]
    have hb := answers.pos n b hanswer
    have hmax := answers.le_max n b hanswer
    constructor
    · intro hcond
      obtain ⟨m, hstop, hreturns, -⟩ := hcond
      refine ⟨hpos, fun k hk ↦ ?_⟩
      by_contra hless
      have hnk : n < k := by
        by_contra hkn
        have := offered_mono answers (Nat.le_of_not_lt hkn)
        omega
      have hcapacity : b.elements.length < a.length := by
        have : answers.offered (n + 1) ≤ answers.offered k := offered_mono answers hnk
        omega
      rw [Nat.min_eq_left hcapacity.le] at hlimit heq
      apply hstop
      rcases Nat.lt_or_ge n m with hnm | hmn
      · obtain hstuck | hthrown := encode_stuck heq hlimit hcapacity hmax hnm
        · rw [hstuck]
          exact ⟨rfl, rfl, Int.ofNat_lt.mpr hcapacity⟩
        · exact Bool.noConfusion (hthrown.symm.trans hreturns)
      · have hm : answers.offered m = 0 := Nat.le_zero.mp (hn ▸ offered_mono answers hmn)
        rw [encode_of_offered_zero hm]
        exact ⟨rfl, rfl, Int.natCast_pos.mpr hpos⟩
    · intro hcond
      obtain ⟨-, h⟩ := hcond
      have hcapacity : a.length ≤ b.elements.length := hoffered ▸ h (n + 1) (hoffered ▸ hb)
      have hdata : a.data.length ≤ a.length := List.length_take_le _ _
      rw [Nat.min_eq_right hcapacity] at heq
      refine ⟨n + 1, ?_, ?_, ?_⟩
      · rw [heq]
        exact fun hloops ↦ Int.lt_irrefl _ hloops.2.2
      · rw [heq]
      · rw [if_neg hpos.ne', heq]
        refine ⟨?_, fun q hq ↦ ?_⟩
        · rw [List.flatMap_singleton, List.take_of_length_le (by omega)]
        · rw [List.mem_singleton.mp hq]

end

/-- No end of the stream is ever sent. The overload for arrays queues the data when no `int`
overflows, that for buffers when it fits into the first input buffer. -/
theorem encode_chunks_iff (a : ArrayArg) (b : BufferArg) (answers : Answers) :
    (Chunks fillArray a.length a.buffer a.data answers ↔
      0 < a.length ∧ ∀ n, answers.offered n < a.length → answers.offered (n + 1) ≤ INT_MAX) ∧
    (Chunks fillBuffer b.length b.buffer b.data answers ↔
      0 < b.length ∧ ∀ n, 0 < answers.offered n → b.length ≤ answers.offered n) :=
  ⟨chunks_array_iff a answers, chunks_buffer_iff b answers⟩

/-- With input buffers of one byte: nothing is queued for the end of the stream, and two bytes do
not get through in a buffer. -/
theorem chunks_lost : ∃ answers : Answers,
    (∀ n, (encode fillArray (0 : ℕ) none answers n).queued = []) ∧
      ¬ Chunks fillArray 0 none [] answers ∧
      ∃ b : BufferArg, b.length = 2 ∧ ¬ Chunks fillBuffer b.length b.buffer b.data answers := by
  let answers : Answers := ⟨fun _ ↦ some ⟨[0], 0, 1, Nat.zero_le 1, le_rfl⟩,
    fun _ _ h ↦ by cases h; exact Nat.one_pos, fun _ _ h ↦ by cases h; exact Nat.le_of_ble_eq_true rfl,
    fun n ↦ ⟨n, le_rfl, rfl⟩⟩
  refine ⟨answers, fun n ↦ by rw [encode_zero], not_chunks_zero,
    ⟨some ⟨[1, 2], 0, 2, Nat.zero_le 2, le_rfl⟩, 2, le_rfl, Nat.le_of_ble_eq_true rfl⟩, rfl, ?_⟩
  intro h
  have hfirst := ((chunks_buffer_iff _ answers).mp h).2 1 Nat.one_pos
  exact absurd hfirst (by decide)

end VirtualCamera.Encoder.Chunking
