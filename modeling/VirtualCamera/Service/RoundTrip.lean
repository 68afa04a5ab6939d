import VirtualCamera.Service.Fragments

namespace VirtualCamera.Service.RoundTrip

open Library.Memory Library.Reassembly Rtp.PacketBuilder Rtp.Session Rtp.Slices Receive Refinement
  Fragments

variable {ι : Type}

theorem decoderUnits_sent (sends : List (Send ι)) :
    decoderUnits (sentUnits sends) =
      sends.map fun n ↦ (n.name, ⟨n.nal.bytes, n.nal.bytes.length⟩) := by
  rw [decoderUnits, sentUnits, List.map_map]
  refine List.map_congr_left fun n _ ↦ ?_
  show (n.name, decoderUnit n.nal.bytes) = _
  rw [decoderUnit, toInt32_of_le n.nal.length_le]

theorem receive_sentSlices {max : ℕ} (hmax : 0 < max) (sends : List (Send ι)) {r : RecvState}
    (hr : r.srecvLen = 0) (hcap : ∀ n ∈ sends, n.nal.bytes.length ≤ r.srecvData.length) :
    ∃ r', r.receivePackets (sentSlices max sends) =
      (sends.map fun n ↦ (n.name, ⟨n.nal.bytes, n.nal.bytes.length⟩), .ok r') := by
  have hempty : Holds r.srecvData.length [] r := ⟨rfl, hr, by rw [hr]; rfl⟩
  have hcut := sentUnits_cut hmax sends
  have hfits : Fits r.srecvData.length [] (fragments (sentSlices max sends)) := by
    rw [fragments_sentSlices]
    refine fits_flatMap hcut ?_ []
    intro u hu
    obtain ⟨n, hn, rfl⟩ := List.mem_map.mp hu
    exact hcap n hn
  obtain ⟨r', hok⟩ := (receivePackets_ok_iff hempty _).mpr ⟨sentSlices_formed max sends, hfits⟩
  obtain ⟨hunits, -⟩ := receivePackets_units hempty hok
  rw [fragments_sentSlices, units_flatMap hcut, decoderUnits_sent] at hunits
  exact ⟨r', Prod.ext hunits hok⟩

/-- Sliced, sent, delivered without loss and reassembled, every unit comes back
once and in order, and an unsliced one travels as one packet that is not taken for a
fragment. -/
theorem slice_round_trip {s : RTPSession} (h : Ready s) (hmax : 0 < s.sliceDataMaxSize)
    {pt : UInt8} (hpt : ValidPayloadType pt) (sends : List (Send ι)) {r : RecvState}
    (hr : r.srecvLen = 0) (hcap : ∀ n ∈ sends, n.nal.bytes.length ≤ r.srecvData.length) :
    ∃ groups, s.emissions pt (sends.map Send.call) = some groups ∧
      (∀ polls, deliveries polls = payloads sends groups →
        ∃ r', r.poll polls =
          (sends.map fun n ↦ (n.name, ⟨n.nal.bytes, n.nal.bytes.length⟩), .ok r')) ∧
      List.Forall₂ (fun n g ↦ n.nal.bytes.length ≤ s.sliceDataMaxSize →
        g.map RTPPacket.payload = [n.nal.bytes] ∧
          ∃ b0, n.nal.bytes[0]? = some b0 ∧ b0 &&& 0x1f ≠ 28) sends groups := by
  obtain ⟨groups, hgroups, hslices⟩ := emissions_slices h hmax hpt sends
  refine ⟨groups, hgroups, ?_, ?_⟩
  · intro polls hpolls
    rw [poll_eq, hpolls, payloads_slices hslices]
    exact receive_sentSlices hmax sends hr hcap
  · refine hslices.imp fun n g hg hle ↦ ⟨?_, 0, ?_, by decide⟩
    · rw [hg, slices, if_pos hle]
    · obtain ⟨t, ht⟩ := n.nal.startCode
      rw [← ht]
      rfl

/-- A unit with a body of equal bytes. -/
def unitBytes (header : UInt8) (n : ℕ) (b : UInt8) : List UInt8 :=
  0 :: 0 :: 0 :: 1 :: header :: List.replicate n b

theorem length_unitBytes (header : UInt8) (n : ℕ) (b : UInt8) :
    (unitBytes header n b).length = n + 5 := by simp [unitBytes]

theorem startCode_unitBytes (header : UInt8) (n : ℕ) (b : UInt8) :
    [0, 0, 0, 1] <+: unitBytes header n b := ⟨_, rfl⟩

theorem header_unitBytes (header : UInt8) (n : ℕ) (b : UInt8) :
    5 ≤ (unitBytes header n b).length := by
  rw [length_unitBytes]
  exact Nat.le_add_left 5 n

theorem unitBytes_le (header b : UInt8) : (unitBytes header 595 b).length ≤ INT_MAX := by
  rw [length_unitBytes]
  decide

/-- It is cut in two by a session of the smallest packets. -/
def unit (header b : UInt8) : Nal where
  bytes := unitBytes header 595 b
  startCode := startCode_unitBytes header 595 b
  header := header_unitBytes header 595 b
  length_le := unitBytes_le header b

def idrSend : Send Unit := ⟨(), unit 0x65 7, 10⟩

theorem slice_round_trip_idr :
    ∃ groups, (RTPSession.internalCreate 600 1 2 3).emissions 96 ([idrSend].map Send.call) =
        some groups ∧
      (∀ polls, deliveries polls = payloads [idrSend] groups →
        ∃ r', (RecvState.mk (List.replicate 600 0) 0).poll polls =
          ([((), ⟨unitBytes 0x65 595 7, 600⟩)], .ok r')) ∧
      List.Forall₂ (fun (n : Send Unit) g ↦ n.nal.bytes.length ≤ 400 →
        g.map RTPPacket.payload = [n.nal.bytes] ∧
          ∃ b0, n.nal.bytes[0]? = some b0 ∧ b0 &&& 0x1f ≠ 28) [idrSend] groups := by
  have hcap : ∀ n ∈ [idrSend], n.nal.bytes.length ≤ (List.replicate 600 (0 : UInt8)).length := by
    intro n hn
    rw [List.mem_singleton.mp hn, List.length_replicate]
    exact (length_unitBytes 0x65 595 7).le
  have hlen : ((unitBytes 0x65 595 7).length : ℤ) = 600 :=
    congrArg Nat.cast (length_unitBytes 0x65 595 7)
  rw [← hlen]
  exact slice_round_trip (ready_internalCreate (by decide) 1 2 3) (by decide) (by decide)
    [idrSend] rfl hcap

end VirtualCamera.Service.RoundTrip
