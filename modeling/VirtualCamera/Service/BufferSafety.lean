import VirtualCamera.Service.Refinement

namespace VirtualCamera.Service.BufferSafety

open Library.Memory Library.Reassembly Receive Refinement

variable {ι : Type}

/-- The receiving thread stays inside its buffer and inside every payload exactly
when the payloads have their header bytes and every run of fragments from one
start to the next, complete or not, fits the buffer. -/
theorem receive_buffer_safe (srecvData : List UInt8) (hlen : srecvData.length = bufferlen)
    (polls : List (List (List (ι × Payload)))) :
    (∃ s, (threadRecvVirtualcamera srecvData polls).2 = .ok s) ↔
      (∀ q ∈ deliveries polls, Formed q.2) ∧
        ∀ b, b <:+: fragments (deliveries polls) → Burst b → size b ≤ bufferlen := by
  have hempty := holds_empty srecvData
  rw [hlen] at hempty
  rw [thread_eq, receivePackets_ok_iff hempty, fits_iff_bursts]

/-- A unit in a start, a middle and an end, of which the end is in the next poll, and one that
is not cut. -/
def cutUnit : List (List (List (Unit × Payload))) :=
  [[[((), [0x7c, 0x85, 0, 0, 0, 1, 0x65, 7]), ((), [0x7c, 0x05, 7, 7])]],
    [[((), [0x7c, 0x45, 7])], [((), [0, 0, 0, 1, 0x41, 8])]]]

theorem receive_buffer_safe_cut :
    ∃ s, (threadRecvVirtualcamera (List.replicate bufferlen 0) cutUnit).2 = .ok s := by
  refine (receive_buffer_safe _ List.length_replicate _).mpr ⟨?_, ?_⟩
  · intro q hq
    simp only [cutUnit, deliveries, List.map_cons, List.map_nil, List.flatten_cons,
      List.flatten_nil, List.append_nil, List.cons_append, List.nil_append, List.mem_cons,
      List.not_mem_nil, or_false] at hq
    obtain rfl | rfl | rfl | rfl := hq
    all_goals decide
  · intro b hb _
    have hsize : size b ≤ 15 := size_le_of_infix hb
    exact hsize.trans (by decide)

/-- One byte that announces a fragment, and middle fragments without end. -/
theorem receive_buffer_overrun :
    (threadRecvVirtualcamera (List.replicate bufferlen 0) [[[((), [0x7c])]]]).2 =
        .error .readPastPayload ∧
      ¬ ∃ s, (threadRecvVirtualcamera (List.replicate bufferlen 0)
        [[List.replicate 130 ((), 0x7c :: 0x05 :: List.replicate 65000 0)]]).2 = .ok s := by
  refine ⟨rfl, ?_⟩
  have hempty := holds_empty (List.replicate bufferlen 0)
  have hfragments : fragments (List.replicate 130 ((), 0x7c :: 0x05 :: List.replicate 65000 0)) =
      List.replicate 130 ((), Fragment.middle (List.replicate 65000 0)) := by
    rw [fragments, List.map_replicate]
    rfl
  have hdeliveries : deliveries [[List.replicate 130
      ((), (0x7c :: 0x05 :: List.replicate 65000 0 : Payload))]] =
      List.replicate 130 ((), 0x7c :: 0x05 :: List.replicate 65000 0) := by
    simp only [deliveries, List.map_cons, List.map_nil, List.flatten_cons, List.flatten_nil,
      List.append_nil]
  rw [thread_eq, receivePackets_ok_iff hempty, fits_iff_bursts, hdeliveries, hfragments]
  intro h
  obtain ⟨-, hbursts⟩ := h
  have hmiddle : ∀ f ∈ List.replicate 130 ((), Fragment.middle (List.replicate 65000 (0 : UInt8))),
      f.2.resets = false ∧ f.2.closes = false := by
    intro f hf
    rw [List.eq_of_mem_replicate hf]
    exact ⟨rfl, rfl⟩
  have hsize := hbursts _ List.infix_rfl
    ⟨fun f hf ↦ (hmiddle f (List.mem_of_mem_tail hf)).1,
      fun f hf ↦ (hmiddle f (List.mem_of_mem_dropLast hf)).2⟩
  simp only [size, List.map_replicate, Fragment.body, List.length_replicate,
    List.sum_replicate_nat, bufferlen] at hsize
  omega

end VirtualCamera.Service.BufferSafety
