import Mathlib.Data.UInt
import VirtualCamera.Library.Memory
import VirtualCamera.Library.Reassembly

namespace VirtualCamera.Service.Receive

open Library.Memory Library.Reassembly

abbrev Payload := List UInt8

/-- What the receiving code can do that the language leaves undefined. -/
inductive Fault
  | readPastPayload
  | lengthUnderflow
  | writePastBuffer
  deriving DecidableEq, Repr

/-- The arguments of one call of `AnsyncDecoder_ReceiveData`. -/
structure DecoderUnit where
  data : List UInt8
  len : ℤ
  deriving DecidableEq, Repr

structure RecvState where
  srecvData : List UInt8
  srecvLen : ℕ
  deriving DecidableEq, Repr

variable {ι : Type}

def RecvState.receiveData (s : RecvState) : DecoderUnit :=
  ⟨s.srecvData.take s.srecvLen, toInt32 s.srecvLen⟩

/-- `memcpy` to the receive buffer; the copied length becomes the end of the data. -/
def RecvState.copy (s : RecvState) (off : ℕ) (src : List UInt8) : Except Fault RecvState :=
  match memcpy s.srecvData off src with
  | none => .error .writePastBuffer
  | some data => .ok ⟨data, off + src.length⟩

def RecvState.clear (s : RecvState) : RecvState := { s with srecvLen := 0 }

/-- The body of the packet loop of `sReceiveVideoPacket`. -/
def RecvState.receivePacket (s : RecvState) (payload : Payload) :
    Except Fault (RecvState × Option DecoderUnit) :=
  match payload[0]? with
  | none => .error .readPastPayload
  | some b0 =>
    if b0 &&& 0x1f = 28 then
      match payload[1]? with
      | none => .error .readPastPayload
      | some b1 =>
        if payload.length < 2 then .error .lengthUnderflow
        else
          let flag := b1 &&& 0xC0
          let body := payload.drop 2
          if flag = 0x80 then
            match s.copy 0 body with
            | .error f => .error f
            | .ok s => .ok (s, none)
          else if flag = 0x40 then
            match s.copy s.srecvLen body with
            | .error f => .error f
            | .ok s => .ok (s.clear, some s.receiveData)
          else
            match s.copy s.srecvLen body with
            | .error f => .error f
            | .ok s => .ok (s, none)
    else
      match s.copy 0 payload with
      | .error f => .error f
      | .ok s => .ok (s.clear, some s.receiveData)

/-- The packet loop. A packet carries the name of its origin, which the code
does not look at; the unit it completes is listed under that name. -/
def RecvState.receivePackets (s : RecvState) :
    List (ι × Payload) → List (ι × DecoderUnit) × Except Fault RecvState
  | [] => ([], .ok s)
  | (i, p) :: ps =>
    match s.receivePacket p with
    | .error f => ([], .error f)
    | .ok (s, u) =>
      let (us, r) := s.receivePackets ps
      (u.toList.map (fun u ↦ (i, u)) ++ us, r)

/-- One poll drains the queue of every source in the table's order. -/
def RecvState.sReceiveVideoPacket (s : RecvState) :
    List (List (ι × Payload)) → List (ι × DecoderUnit) × Except Fault RecvState
  | [] => ([], .ok s)
  | queue :: sources =>
    match s.receivePackets queue with
    | (us, .error f) => (us, .error f)
    | (us, .ok s) =>
      let (us', r) := s.sReceiveVideoPacket sources
      (us ++ us', r)

def RecvState.poll (s : RecvState) :
    List (List (List (ι × Payload))) → List (ι × DecoderUnit) × Except Fault RecvState
  | [] => ([], .ok s)
  | sources :: polls =>
    match s.sReceiveVideoPacket sources with
    | (us, .error f) => (us, .error f)
    | (us, .ok s) =>
      let (us', r) := s.poll polls
      (us ++ us', r)

/-- The receive buffer of `thread_recv_virtualcamera`. -/
def bufferlen : ℕ := 1080 * 1920 * 4

/-- The thread's loop over the polls made until it is told to quit. The
allocated buffer holds arbitrary bytes. -/
def threadRecvVirtualcamera (srecvData : List UInt8) (polls : List (List (List (ι × Payload)))) :
    List (ι × DecoderUnit) × Except Fault RecvState :=
  (RecvState.mk srecvData 0).poll polls

/-- The packets in the order the loops take them. -/
def deliveries (polls : List (List (List (ι × Payload)))) : List (ι × Payload) :=
  (polls.map List.flatten).flatten

theorem receivePackets_append (s : RecvState) (ps qs : List (ι × Payload)) :
    s.receivePackets (ps ++ qs) =
      match s.receivePackets ps with
      | (us, .error f) => (us, .error f)
      | (us, .ok s) => (us ++ (s.receivePackets qs).1, (s.receivePackets qs).2) := by
  induction ps generalizing s with
  | nil => rfl
  | cons p ps ih =>
    obtain ⟨i, p⟩ := p
    simp only [List.cons_append, RecvState.receivePackets]
    cases s.receivePacket p with
    | error f => rfl
    | ok r =>
      obtain ⟨s, u⟩ := r
      simp only [ih]
      cases s.receivePackets ps with
      | mk us r =>
        cases r with
        | error f => rfl
        | ok s => simp

theorem sReceiveVideoPacket_eq (s : RecvState) (sources : List (List (ι × Payload))) :
    s.sReceiveVideoPacket sources = s.receivePackets sources.flatten := by
  induction sources generalizing s with
  | nil => rfl
  | cons queue sources ih =>
    rw [List.flatten_cons, receivePackets_append, RecvState.sReceiveVideoPacket]
    cases hr : s.receivePackets queue with
    | mk us r =>
      cases r with
      | error f => rfl
      | ok s => simp only [ih]

theorem poll_eq (s : RecvState) (polls : List (List (List (ι × Payload)))) :
    s.poll polls = s.receivePackets (deliveries polls) := by
  induction polls generalizing s with
  | nil => rfl
  | cons sources polls ih =>
    rw [deliveries, List.map_cons, List.flatten_cons, receivePackets_append, RecvState.poll,
      sReceiveVideoPacket_eq]
    cases hr : s.receivePackets sources.flatten with
    | mk us r =>
      cases r with
      | error f => rfl
      | ok s => simp only [ih]; rfl

theorem thread_eq (srecvData : List UInt8) (polls : List (List (List (ι × Payload)))) :
    threadRecvVirtualcamera srecvData polls =
      (RecvState.mk srecvData 0).receivePackets (deliveries polls) := poll_eq _ polls

end VirtualCamera.Service.Receive
