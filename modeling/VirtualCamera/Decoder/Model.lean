import Mathlib.Data.UInt
import VirtualCamera.Library.Memory
import VirtualCamera.Library.Ring
import VirtualCamera.Library.Transition

namespace VirtualCamera.Decoder.Model

open Library.Memory Library.Ring

inductive MediaType
  | video
  | audio
  deriving DecidableEq, Repr

/-- The arguments of one call of `AnsyncDecoder_ReceiveData`. -/
structure Packet where
  mediaType : MediaType
  data : List UInt8
  timestamp : UInt32
  length_le : data.length ≤ INT_MAX
  deriving DecidableEq

/-- `head` is the allocated block, `data` an offset in it. A zeroed node has no
media type. -/
structure BufferData where
  head : Option (List UInt8)
  data : Option ℕ
  len : ℕ
  timestamp : UInt32
  maxLen : ℤ
  needRead : Bool
  mediaType : Option MediaType
  deriving DecidableEq, Repr

def BufferData.zero : BufferData := ⟨none, none, 0, 0, 0, false, none⟩

variable {n : ℕ} [NeZero n]

structure CircularListNode (n : ℕ) where
  data : Fin n
  prev : Fin n
  next : Fin n
  index : ℕ
  deriving DecidableEq

/-- The loop of `CircularList_Create`; pointers are positions in the arrays. -/
def CircularList.create (n : ℕ) (i : Fin n) : CircularListNode n where
  data := i
  prev := ⟨if i.val = 0 then n - 1 else i.val - 1, by have := i.isLt; split <;> omega⟩
  next := ⟨if i.val + 1 = n then 0 else i.val + 1, by have := i.isLt; split <;> omega⟩
  index := i

structure AnsyncDecoder (n : ℕ) where
  bufferList : Fin n → CircularListNode n
  pool : Fin n → BufferData
  nodeWrite : Fin n
  spsLength : ℕ
  ppsLength : ℕ
  cntRcv : UInt64
  cntDec : UInt64
  quit : Bool
  running : Bool

/-- `AnsyncDecoder_Create` leaves the parameter sets empty. -/
def AnsyncDecoder.create (n : ℕ) [NeZero n] : AnsyncDecoder n where
  bufferList := CircularList.create n
  pool := fun _ ↦ .zero
  nodeWrite := 0
  spsLength := 0
  ppsLength := 0
  cntRcv := 0
  cntDec := 0
  quit := false
  running := false

/-! ### Filling a node -/

/-- Allocations succeed; a fresh block holds arbitrary bytes. -/
def malloc (size : ℤ) : List UInt8 := List.replicate (sizeT size) 0

/-- A block that is too small is freed, and a missing one allocated. -/
def BufferData.ensure (b : BufferData) (want : ℤ) : BufferData :=
  let b := if b.head.isSome ∧ b.maxLen < want then
      { b with head := none, data := none, maxLen := 0 } else b
  if b.head.isNone then { b with head := some (malloc want), maxLen := want } else b

def BufferData.prepare (b : BufferData) (spsLength ppsLength : ℕ) (p : Packet) : BufferData :=
  match p.mediaType with
  | .video =>
    let mallocLen := int32 (p.data.length + spsLength + ppsLength + 256)
    { b.ensure mallocLen with
      mediaType := some .video, len := p.data.length, timestamp := p.timestamp,
      data := some (spsLength + ppsLength) }
  | .audio =>
    { b.ensure p.data.length with
      mediaType := some .audio, len := p.data.length, timestamp := p.timestamp, data := some 0 }

/-- The copy to `data`; `none` when it leaves the block. -/
def BufferData.copy (b : BufferData) (src : List UInt8) : Option BufferData :=
  match b.head, b.data with
  | some block, some off => (memcpy block off src).map fun block ↦ { b with head := some block }
  | _, _ => none

/-! ### Reading a node -/

/-- The bytes from `i` on behind `data`; `none` when they leave the block. -/
def BufferData.bytes (b : BufferData) (i len : ℕ) : Option (List UInt8) :=
  match b.head, b.data with
  | some block, some off =>
    if off + i + len ≤ block.length then some ((block.drop (off + i)).take len) else none
  | _, _ => none

/-- What is sent to the codec. The NAL type is read first, from byte 4. -/
def decodeVideoNode (b : BufferData) : Option (List UInt8) :=
  match b.bytes 4 1 with
  | none => none
  | some _ => if b.data.isNone ∨ b.len = 0 then some [] else b.bytes 0 b.len

def decodeAudioNode (b : BufferData) : Option (List UInt8) :=
  if b.data.isNone ∨ b.len = 0 then some [] else b.bytes 0 b.len

/-- A node the decoding thread has worked through, with what the codec was sent. -/
structure Decoded where
  mediaType : MediaType
  data : List UInt8
  timestamp : UInt32
  deriving DecidableEq, Repr

def Packet.decoded (p : Packet) : Decoded := ⟨p.mediaType, p.data, p.timestamp⟩

def decodeNode (b : BufferData) : Option (Option Decoded) :=
  match b.mediaType with
  | some .video => (decodeVideoNode b).map fun d ↦ some ⟨.video, d, b.timestamp⟩
  | some .audio => (decodeAudioNode b).map fun d ↦ some ⟨.audio, d, b.timestamp⟩
  | none => some none

/-! ### The two threads -/

/-- Where `AnsyncDecoder_ReceiveData` stands; `wait` counts the sleeps left. -/
inductive Producer
  | idle
  | wait (p : Packet) (count : ℕ)
  | check (p : Packet)
  | store (p : Packet)
  | copy (p : Packet)
  | publish (p : Packet)
  | fault

/-- Where `decode_thread_func` stands. -/
inductive Consumer
  | start
  | top
  | poll
  | decode
  | release (d : Option Decoded)
  | stop
  | exited
  | fault

/-- The shared decoder, the two threads with the local `node`, and what went
through so far: the packets published and the nodes released. -/
structure State (n : ℕ) where
  ad : AnsyncDecoder n
  producer : Producer
  consumer : Consumer
  node : Fin n
  accepted : List Packet
  decoded : List Decoded

def State.create (n : ℕ) [NeZero n] : State n where
  ad := .create n
  producer := .idle
  consumer := .start
  node := 0
  accepted := []
  decoded := []

def State.writeBuffer (s : State n) : BufferData :=
  s.ad.pool (s.ad.bufferList s.ad.nodeWrite).data

def State.setWriteBuffer (s : State n) (b : BufferData) : State n :=
  { s with ad := { s.ad with
      pool := Function.update s.ad.pool (s.ad.bufferList s.ad.nodeWrite).data b } }

/-- The node is marked to be read, and the writer moves on to the next one. -/
def State.publish (s : State n) (p : Packet) : State n :=
  let t := s.setWriteBuffer { s.writeBuffer with needRead := true }
  { t with
    ad := { t.ad with
      nodeWrite := (t.ad.bufferList t.ad.nodeWrite).next, cntRcv := t.ad.cntRcv + 1 }
    producer := .idle
    accepted := s.accepted ++ [p] }

/-- One shared access of `AnsyncDecoder_ReceiveData` and what follows it up to the
next one; `node_write` is the producer's own. -/
def State.producerStep (s : State n) : Option (State n) :=
  match s.producer with
  | .idle | .fault => none
  | .wait p count =>
    if s.writeBuffer.needRead ∧ 0 < count then some { s with producer := .wait p (count - 1) }
    else some { s with producer := .check p }
  | .check p =>
    if s.writeBuffer.needRead then some { s with producer := .idle }
    else some { s with producer := .store p }
  | .store p =>
    some { s.setWriteBuffer (s.writeBuffer.prepare s.ad.spsLength s.ad.ppsLength p) with
      producer := .copy p }
  | .copy p =>
    match s.writeBuffer.copy p.data with
    | none => some { s with producer := .fault }
    | some b => some { s.setWriteBuffer b with producer := .publish p }
  | .publish p => some (s.publish p)

def State.readBuffer (s : State n) : BufferData := s.ad.pool (s.ad.bufferList s.node).data

/-- The node is given back, and the thread moves on to the next one. -/
def State.release (s : State n) (d : Option Decoded) : State n :=
  { s with
    ad := { s.ad with
      pool := Function.update s.ad.pool (s.ad.bufferList s.node).data
        { s.readBuffer with needRead := false }
      cntDec := s.ad.cntDec + 1 }
    consumer := .top
    node := (s.ad.bufferList s.node).next
    decoded := s.decoded ++ d.toList }

/-- One shared access of `decode_thread_func`. -/
def State.consumerStep (s : State n) : Option (State n) :=
  match s.consumer with
  | .exited | .fault => none
  | .start => some { s with ad := { s.ad with running := true }, consumer := .top }
  | .top => some { s with consumer := if s.ad.quit then .stop else .poll }
  | .poll => some { s with consumer := if s.readBuffer.needRead then .decode else .top }
  | .decode =>
    match decodeNode s.readBuffer with
    | none => some { s with consumer := .fault }
    | some d => some { s with consumer := .release d }
  | .release d => some (s.release d)
  | .stop => some { s with ad := { s.ad with running := false }, consumer := .exited }

/-- A call is made, one of the threads goes on, or `AnsyncDecoder_Destroy` asks
the decoding thread to quit. -/
inductive Label
  | receiveData (p : Packet)
  | producer
  | consumer
  | quit

def State.step (s : State n) : Label → Option (State n)
  | .receiveData p =>
    match s.producer with
    | .idle => if s.ad.running then some { s with producer := .wait p 20 } else some s
    | _ => none
  | .producer => s.producerStep
  | .consumer => s.consumerStep
  | .quit => some { s with ad := { s.ad with quit := true } }

end VirtualCamera.Decoder.Model
