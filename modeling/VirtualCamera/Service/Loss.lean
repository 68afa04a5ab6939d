import VirtualCamera.Service.RoundTrip

namespace VirtualCamera.Service.Loss

open Library.Memory Library.Reassembly Rtp.PacketBuilder Rtp.Session Rtp.Slices Receive Refinement
  Fragments RoundTrip

variable {ι : Type} [DecidableEq ι]

/-- A handed-over unit stems from one of the sends, and it is that send's buffer
when all of its packets arrived. -/
theorem intact_of_delivered {s : RTPSession} (h : Ready s) (hmax : 0 < s.sliceDataMaxSize)
    {pt : UInt8} (hpt : ValidPayloadType pt) (sends : List (Send ι))
    (hnames : (sends.map Send.name).Nodup) :
    ∃ groups, s.emissions pt (sends.map Send.call) = some groups ∧
      ∀ srecvData polls, (deliveries polls).Sublist (payloads sends groups) →
        ∀ i u, (i, u) ∈ (threadRecvVirtualcamera srecvData polls).1 →
          ∃ n ∈ sends, n.name = i ∧
            (own i (deliveries polls) = own i (payloads sends groups) →
              u = ⟨n.nal.bytes, n.nal.bytes.length⟩) := by
  obtain ⟨groups, hgroups, hslices⟩ := emissions_slices h hmax hpt sends
  refine ⟨groups, hgroups, ?_⟩
  intro srecvData polls hsub i u hu
  rw [payloads_slices hslices] at hsub ⊢
  rw [thread_eq] at hu
  have hmem := (receivePackets_isPrefix (holds_empty srecvData) (deliveries polls)).subset hu
  obtain ⟨⟨j, v⟩, hv, heq⟩ := List.mem_map.mp hmem
  obtain ⟨rfl, rfl⟩ := Prod.mk.inj heq
  have hfs : (fragments (deliveries polls)).Sublist
      ((sentUnits sends).flatMap fun u ↦ tagged u.1 (pieces s.sliceDataMaxSize u.2)) := by
    rw [← fragments_sentSlices]
    exact hsub.map _
  have hnodup : ((sentUnits sends).map Prod.fst).Nodup := by
    rw [sentUnits, List.map_map]
    exact hnames
  obtain ⟨f, hf, hfj⟩ := units_tag hv
  obtain ⟨w, hw, hwf⟩ := List.mem_map.mp (flatMap_tags (hfs.subset hf))
  obtain ⟨n, hn, rfl⟩ := List.mem_map.mp hw
  obtain rfl : n.name = j := hwf.trans hfj
  refine ⟨n, hn, rfl, ?_⟩
  intro hall
  have hown := own_flatMap (pieces s.sliceDataMaxSize) hnodup hw
  rw [← fragments_sentSlices, own_fragments] at hown
  have hall' : own n.name (fragments (deliveries polls)) =
      tagged n.name (pieces s.sliceDataMaxSize n.nal.bytes) := by
    rw [own_fragments, hall]
    exact hown
  have hvu := units_of_sublist (sentUnits_cut hmax sends) hnodup hfs [] hw hv hall'
  show decoderUnit v = _
  rw [hvu, decoderUnit, toInt32_of_le n.nal.length_le]

theorem intact_of_delivered_idr :
    ∃ groups, (RTPSession.internalCreate 600 1 2 3).emissions 96 ([idrSend].map Send.call) =
        some groups ∧
      ∀ srecvData polls, (deliveries polls).Sublist (payloads [idrSend] groups) →
        ∀ i u, (i, u) ∈ (threadRecvVirtualcamera srecvData polls).1 →
          ∃ n ∈ [idrSend], n.name = i ∧
            (own i (deliveries polls) = own i (payloads [idrSend] groups) →
              u = ⟨n.nal.bytes, n.nal.bytes.length⟩) :=
  intact_of_delivered (ready_internalCreate (by decide) 1 2 3) (by decide) (by decide) [idrSend]
    (by decide)

theorem sentSlices_idrSend : ∃ first : Payload, sentSlices 400 [idrSend] =
    [((), first), ((), 0x7c :: 0x45 :: List.replicate 200 7)] :=
  ⟨0x7c :: 0x85 :: (unitBytes 0x65 595 7).take 400, by decide +kernel⟩

theorem receive_last {body : List UInt8} (hbody : body.length ≤ bufferlen) :
    (threadRecvVirtualcamera (List.replicate bufferlen 0) [[[((), 0x7c :: 0x45 :: body)]]]).1 =
      [((), decoderUnit body)] := by
  have hdeliveries : deliveries [[[((), (0x7c :: 0x45 :: body : Payload))]]] =
      [((), 0x7c :: 0x45 :: body)] := rfl
  have hlast : fragment (0x7c :: 0x45 :: body) = .last body := fragment_end 0x65 body
  have hfragments : fragments [((), (0x7c :: 0x45 :: body : Payload))] = [((), .last body)] :=
    congrArg (fun f ↦ [((), f)]) hlast
  rw [thread_units, hdeliveries, hfragments]
  · rfl
  · rw [hdeliveries]
    intro q hq
    rw [List.mem_singleton.mp hq]
    exact ⟨Nat.succ_pos _, fun _ ↦ Nat.le_add_left 2 body.length⟩
  · rw [hdeliveries, hfragments, List.length_replicate]
    exact ⟨hbody, trivial⟩

/-- The start is lost, and the end fragment alone is handed over. -/
theorem lost_start_corrupts :
    ∃ groups, (RTPSession.internalCreate 600 1 2 3).emissions 96 ([idrSend].map Send.call) =
        some groups ∧
      ∃ polls, (deliveries polls).Sublist (payloads [idrSend] groups) ∧
        (threadRecvVirtualcamera (List.replicate bufferlen 0) polls).1 =
          [((), ⟨List.replicate 200 7, 200⟩)] ∧
        ∀ n ∈ [idrSend], n.nal.bytes ≠ List.replicate 200 7 := by
  obtain ⟨groups, hgroups, hslices⟩ := emissions_slices
    (ready_internalCreate (by decide) 1 2 3 : Ready (RTPSession.internalCreate 600 1 2 3))
    (by decide) (by decide : ValidPayloadType 96) [idrSend]
  have hlength : (List.replicate 200 (7 : UInt8)).length = 200 := List.length_replicate
  refine ⟨groups, hgroups, [[[((), 0x7c :: 0x45 :: List.replicate 200 7)]]], ?_, ?_, ?_⟩
  · have hsent : payloads [idrSend] groups = sentSlices 400 [idrSend] := payloads_slices hslices
    obtain ⟨first, hfirst⟩ := sentSlices_idrSend
    rw [hsent, hfirst]
    exact .cons _ (List.Sublist.refl _)
  · rw [receive_last (by rw [hlength]; decide), decoderUnit, hlength]
    rfl
  · intro n hn hbytes
    rw [List.mem_singleton.mp hn] at hbytes
    have hlength' := congrArg List.length hbytes
    rw [hlength] at hlength'
    cases (length_unitBytes 0x65 595 7).symm.trans hlength'

end VirtualCamera.Service.Loss
