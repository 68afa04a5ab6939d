import VirtualCamera.Service.Refinement

namespace VirtualCamera.Service.Isolation

open Library.Memory Library.Reassembly Receive Refinement

variable {ι : Type} [DecidableEq ι] (a : ι)

/-- The same polls with the packets of `a` alone. -/
def alone (polls : List (List (List (ι × Payload)))) : List (List (List (ι × Payload))) :=
  polls.map fun sources ↦ sources.map (own a)

theorem own_flatten (ls : List (List (ι × Payload))) :
    own a ls.flatten = (ls.map (own a)).flatten := by
  induction ls with
  | nil => rfl
  | cons l ls ih => rw [List.flatten_cons, own_append, ih, List.map_cons, List.flatten_cons]

theorem deliveries_alone (polls : List (List (List (ι × Payload)))) :
    deliveries (alone a polls) = own a (deliveries polls) := by
  rw [deliveries, deliveries, own_flatten, alone, List.map_map, List.map_map]
  refine congrArg List.flatten (List.map_congr_left fun sources _ ↦ ?_)
  exact (own_flatten a sources).symm

variable {a} {c : ℕ}

theorem own_receivePackets_isPrefix {p q : List UInt8} {s t : RecvState} (hs : Holds c p s)
    (ht : Holds c q t) {ps : List (ι × Payload)} (h : Undisturbed a (fragments ps))
    (hpq : p = q ∨ Between a (fragments ps)) :
    own a (s.receivePackets ps).1 <+: (t.receivePackets (own a ps)).1 := by
  induction ps generalizing p q s t with
  | nil => exact List.nil_prefix
  | cons x ps ih =>
    obtain ⟨i, x⟩ := x
    obtain ⟨hother, hrest⟩ := h
    rcases receivePacket_cases hs x with ⟨-, hr⟩ | ⟨-, -, hr⟩ | ⟨hx, hlen, s', hr, hs'⟩
    · simp only [RecvState.receivePackets, hr]
      exact List.nil_prefix
    · simp only [RecvState.receivePackets, hr]
      exact List.nil_prefix
    · by_cases hi : i = a
      · have hstore : store p (fragment x) = store q (fragment x) :=
          store_eq_of_between a (f := (i, fragment x)) hi hpq
        have hpending : pending p (fragment x) = pending q (fragment x) := by
          simp only [pending, hstore]
        rw [own_cons_self (x := (i, x)) hi]
        rcases receivePacket_cases ht x with ⟨hx', -⟩ | ⟨-, hlen', -⟩ | ⟨-, -, t', hr', ht'⟩
        · exact absurd hx hx'
        · exact absurd (hstore ▸ hlen) (Nat.not_le.mpr hlen')
        · have htail := ih hs' (hpending ▸ ht') hrest (.inl rfl)
          simp only [RecvState.receivePackets, hr, hr', hstore, own_append]
          have hhead : own a ((if (fragment x).closes then
              some (decoderUnit (store q (fragment x))) else none).toList.map fun u ↦ (i, u)) =
              (if (fragment x).closes then
                some (decoderUnit (store q (fragment x))) else none).toList.map fun u ↦ (i, u) := by
            refine own_eq_self fun u hu ↦ ?_
            obtain ⟨v, -, rfl⟩ := List.mem_map.mp hu
            exact hi
          rw [hhead]
          exact (List.prefix_append_right_inj _).mpr htail
      · have htail := ih hs' ht hrest (.inr (hother hi))
        rw [own_cons_other (x := (i, x)) hi]
        simp only [RecvState.receivePackets, hr, own_append]
        have hhead : own a ((if (fragment x).closes then
            some (decoderUnit (store p (fragment x))) else none).toList.map fun u ↦ (i, u)) = [] := by
          refine own_eq_nil fun u hu ↦ ?_
          obtain ⟨v, -, rfl⟩ := List.mem_map.mp hu
          exact hi
        rw [hhead, List.nil_append]
        exact htail

/-- While the other sources are polled only between the units of `a`, what is
handed over from `a` is what its packets give alone, up to the first fault. -/
theorem isolated_of_undisturbed (srecvData : List UInt8) (polls : List (List (List (ι × Payload))))
    (h : Undisturbed a (fragments (deliveries polls))) :
    own a (threadRecvVirtualcamera srecvData polls).1 <+:
        (threadRecvVirtualcamera srecvData (alone a polls)).1 ∧
      ((∃ r, (threadRecvVirtualcamera srecvData polls).2 = .ok r) →
        own a (threadRecvVirtualcamera srecvData polls).1 =
          (threadRecvVirtualcamera srecvData (alone a polls)).1 ∧
        ∃ r, (threadRecvVirtualcamera srecvData (alone a polls)).2 = .ok r) := by
  have hempty := holds_empty srecvData
  rw [thread_eq, thread_eq, deliveries_alone]
  refine ⟨own_receivePackets_isPrefix hempty hempty h (.inl rfl), ?_⟩
  intro hok
  obtain ⟨hformed, hfits⟩ := (receivePackets_ok_iff hempty _).mp hok
  have hfits' := fits_own a h (.inl rfl) hfits
  rw [own_fragments] at hfits'
  have hok' := (receivePackets_ok_iff hempty (own a (deliveries polls))).mpr
    ⟨fun q hq ↦ hformed q (List.mem_of_mem_filter hq), hfits'⟩
  obtain ⟨r, hr⟩ := hok
  obtain ⟨r', hr'⟩ := hok'
  refine ⟨?_, r', hr'⟩
  rw [(receivePackets_units hempty hr).1, (receivePackets_units hempty hr').1, own_decoderUnits,
    units_own a h (.inl rfl), own_fragments]

def orderly : List (List (List (Bool × Payload))) :=
  [[[(true, [0x7c, 0x85, 1]), (true, [0x7c, 0x45, 3])], [(false, [0x67, 2])]]]

theorem isolated_of_undisturbed_orderly :
    own true (threadRecvVirtualcamera (List.replicate 8 0) orderly).1 <+:
        (threadRecvVirtualcamera (List.replicate 8 0) (alone true orderly)).1 ∧
      ((∃ r, (threadRecvVirtualcamera (List.replicate 8 0) orderly).2 = .ok r) →
        own true (threadRecvVirtualcamera (List.replicate 8 0) orderly).1 =
          (threadRecvVirtualcamera (List.replicate 8 0) (alone true orderly)).1 ∧
        ∃ r, (threadRecvVirtualcamera (List.replicate 8 0) (alone true orderly)).2 = .ok r) :=
  isolated_of_undisturbed _ _
    ⟨fun h ↦ absurd rfl h, fun h ↦ absurd rfl h, fun _ f hf ↦ (by cases hf), trivial⟩

/-- A packet of a second source between the fragments of the first one's unit. -/
def interleaved : List (List (List (Bool × Payload))) :=
  [[[(true, [0x7c, 0x85, 1])], [(false, [0x67, 2])]], [[(true, [0x7c, 0x45, 3])]]]

theorem second_source_disturbs :
    own true (threadRecvVirtualcamera (List.replicate bufferlen 0) interleaved).1 ≠
      (threadRecvVirtualcamera (List.replicate bufferlen 0) (alone true interleaved)).1 := by
  have hmerged : deliveries interleaved =
      [(true, [0x7c, 0x85, 1]), (false, [0x67, 2]), (true, [0x7c, 0x45, 3])] := rfl
  have halone : deliveries (alone true interleaved) =
      [(true, [0x7c, 0x85, 1]), (true, [0x7c, 0x45, 3])] := rfl
  rw [thread_units, thread_units, hmerged, halone]
  · decide
  · rw [halone]
    decide
  · rw [halone, List.length_replicate]
    exact ⟨show 1 ≤ bufferlen by decide, show 2 ≤ bufferlen by decide, trivial⟩
  · rw [hmerged]
    decide
  · rw [hmerged, List.length_replicate]
    exact ⟨show 1 ≤ bufferlen by decide, show 2 ≤ bufferlen by decide,
      show 1 ≤ bufferlen by decide, trivial⟩

end VirtualCamera.Service.Isolation
