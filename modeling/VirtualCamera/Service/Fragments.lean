import VirtualCamera.Rtp.Slices
import VirtualCamera.Service.Refinement

namespace VirtualCamera.Service.Fragments

open Library.Memory Library.Reassembly Rtp.PacketBuilder Rtp.Session Rtp.Slices Receive Refinement

/-- A buffer as the sender assumes it: a start code, a header byte, and a length
that is an `int`. -/
structure Nal where
  bytes : List UInt8
  startCode : [0, 0, 0, 1] <+: bytes
  header : 5 ≤ bytes.length
  length_le : bytes.length ≤ INT_MAX

def Nal.call (n : Nal) (timestampinc : UInt32) : SendCall := ⟨n.bytes, timestampinc, n.length_le⟩

/-! ### The header bytes on both sides -/

theorem indicator_type (h : UInt8) : fuIndicator h &&& 0x1f = 28 := by
  apply UInt8.toBitVec_inj.mp
  simp only [fuIndicator, UInt8.toBitVec_and, UInt8.toBitVec_or]
  generalize h.toBitVec = x
  revert x
  decide

theorem start_flag (h : UInt8) : fuStart h &&& 0xC0 = 0x80 := by
  apply UInt8.toBitVec_inj.mp
  simp only [fuStart, UInt8.toBitVec_and, UInt8.toBitVec_or]
  generalize h.toBitVec = x
  revert x
  decide

theorem end_flag (h : UInt8) : fuEnd h &&& 0xC0 = 0x40 := by
  apply UInt8.toBitVec_inj.mp
  simp only [fuEnd, UInt8.toBitVec_and, UInt8.toBitVec_or]
  generalize h.toBitVec = x
  revert x
  decide

theorem middle_flag (h : UInt8) : fuMiddle h &&& 0xC0 = 0 := by
  apply UInt8.toBitVec_inj.mp
  simp only [fuMiddle, UInt8.toBitVec_and]
  generalize h.toBitVec = x
  revert x
  decide

theorem fragment_slice (h b1 : UInt8) (body : List UInt8) :
    fragment (fuIndicator h :: b1 :: body) =
      if b1 &&& 0xC0 = 0x80 then .first body
      else if b1 &&& 0xC0 = 0x40 then .last body else .middle body := by
  simp only [fragment, List.getD_cons_zero, List.getD_cons_succ, indicator_type, if_true,
    List.drop_succ_cons, List.drop_zero]

theorem fragment_start (h : UInt8) (body : List UInt8) :
    fragment (fuIndicator h :: fuStart h :: body) = .first body := by
  rw [fragment_slice, start_flag]
  rfl

theorem fragment_end (h : UInt8) (body : List UInt8) :
    fragment (fuIndicator h :: fuEnd h :: body) = .last body := by
  rw [fragment_slice, end_flag]
  rfl

theorem fragment_middle (h : UInt8) (body : List UInt8) :
    fragment (fuIndicator h :: fuMiddle h :: body) = .middle body := by
  rw [fragment_slice, middle_flag]
  rfl

theorem Nal.first_byte (n : Nal) : n.bytes.getD 0 0 = 0 := by
  obtain ⟨t, ht⟩ := n.startCode
  rw [← ht]
  rfl

theorem Nal.not_fragment (n : Nal) : n.bytes.getD 0 0 &&& 0x1f ≠ 28 := by
  rw [n.first_byte]
  decide

theorem fragment_nal (n : Nal) : fragment n.bytes = .whole n.bytes := if_neg n.not_fragment

/-! ### The payloads of one buffer -/

/-- The payload of slicing step `step`. -/
def slice (max : ℕ) (data : List UInt8) (step : ℕ) : Payload :=
  (sliceRequest max data 0 (data.getD 4 0) (sliceCount max data.length) step).data

def slices (max : ℕ) (data : List UInt8) : List Payload :=
  if data.length ≤ max then [data] else (List.range (sliceCount max data.length)).map (slice max data)

theorem sliceRequest_data (max : ℕ) (data : List UInt8) (inc : UInt32) (h : UInt8) (n step : ℕ) :
    (sliceRequest max data inc h n step).data = (sliceRequest max data 0 h n step).data := by
  simp only [sliceRequest]
  split_ifs <;> rfl

theorem sendRequests_data (max : ℕ) (data : List UInt8) (mark : Bool) (inc : UInt32) :
    (sendRequests max data mark inc).map SendRequest.data = slices max data := by
  rw [sendRequests, slices]
  split
  · rfl
  · rw [List.map_map]
    exact List.map_congr_left fun step _ ↦ sliceRequest_data _ _ _ _ _ _

/-- What the receiver takes the payloads of one buffer for. -/
def pieces (max : ℕ) (data : List UInt8) : List (Fragment UInt8) := (slices max data).map fragment

def sliceBody (max : ℕ) (data : List UInt8) (step : ℕ) : List UInt8 :=
  (data.drop (step * max)).take max

theorem fragment_of_step (max : ℕ) (data : List UInt8) {step : ℕ} :
    fragment (slice max data step) =
      if step = 0 then .first (sliceBody max data step)
      else if step = sliceCount max data.length - 1 then .last (sliceBody max data step)
      else .middle (sliceBody max data step) := by
  simp only [slice, sliceRequest]
  split_ifs
  · exact fragment_start _ _
  · exact fragment_end _ _
  · exact fragment_middle _ _

/-- A buffer longer than the slice size becomes a start, middles and an end. -/
theorem pieces_sliced {max : ℕ} (hmax : 0 < max) {data : List UInt8} (hlt : max < data.length) :
    Cut data (pieces max data) := by
  obtain ⟨h2, -⟩ := sliceCount_pred hmax hlt
  obtain ⟨k, hk⟩ := Nat.exists_eq_add_of_le' h2
  let body := sliceBody max data
  have hwindows : windows max (sliceCount max data.length) data =
      body 0 :: ((List.range k).map (fun i ↦ body (i + 1)) ++ [body (k + 1)]) := by
    rw [windows, hk, range_split, List.map_cons, List.map_append, List.map_map]
    rfl
  have hpieces : pieces max data = .first (body 0) ::
      (((List.range k).map fun i ↦ body (i + 1)).map .middle ++ [.last (body (k + 1))]) := by
    rw [pieces, slices, if_neg (Nat.not_le.mpr hlt), hk, range_split, List.map_cons, List.map_cons,
      List.map_append, List.map_append, fragment_of_step, if_pos rfl]
    congr 2
    · rw [List.map_map, List.map_map, List.map_map]
      refine List.map_congr_left fun i hi ↦ ?_
      have hlast : ¬ i + 1 = sliceCount max data.length - 1 := by
        have := List.mem_range.mp hi
        omega
      show fragment (slice max data (i + 1)) = .middle (body (i + 1))
      rw [fragment_of_step, if_neg (Nat.succ_ne_zero i), if_neg hlast]
    · have hlast : k + 1 = sliceCount max data.length - 1 := by omega
      rw [List.map_singleton, List.map_singleton, fragment_of_step, if_neg (Nat.succ_ne_zero k),
        if_pos hlast]
  have hcover := windows_cover (sliceCount_cover hmax data.length)
  rw [hwindows, List.flatten_cons, List.flatten_append, List.flatten_singleton] at hcover
  rw [hpieces]
  exact hcover ▸ .pieces _ _ _

theorem pieces_nal {max : ℕ} (hmax : 0 < max) (n : Nal) : Cut n.bytes (pieces max n.bytes) := by
  rcases Nat.lt_or_ge max n.bytes.length with hlt | hle
  · exact pieces_sliced hmax hlt
  · rw [pieces, slices, if_pos hle, List.map_singleton, fragment_nal]
    exact .whole _

theorem slice_header (max : ℕ) (data : List UInt8) (step : ℕ) :
    ∃ b1 body, slice max data step = fuIndicator (data.getD 4 0) :: b1 :: body := by
  simp only [slice, sliceRequest]
  split_ifs <;> exact ⟨_, _, rfl⟩

theorem slices_formed (max : ℕ) (n : Nal) : ∀ q ∈ slices max n.bytes, Formed q := by
  intro q hq
  rw [slices] at hq
  split at hq
  · rw [List.mem_singleton.mp hq]
    have hlen := n.header
    exact ⟨by omega, fun _ ↦ by omega⟩
  · obtain ⟨step, -, rfl⟩ := List.mem_map.mp hq
    obtain ⟨b1, body, hslice⟩ := slice_header max n.bytes step
    rw [hslice]
    exact ⟨Nat.succ_pos _, fun _ ↦ by simp⟩

/-! ### The payloads of a run of sends -/

structure Send (ι : Type) where
  name : ι
  nal : Nal
  timestampinc : UInt32

variable {ι : Type}

def Send.call (n : Send ι) : SendCall := n.nal.call n.timestampinc

def payloads (sends : List (Send ι)) (groups : List (List RTPPacket)) : List (ι × Payload) :=
  (List.zipWith (fun n g ↦ g.map fun p ↦ (n.name, p.payload)) sends groups).flatten

/-- The payloads of a run in which nothing is lost. -/
def sentSlices (max : ℕ) (sends : List (Send ι)) : List (ι × Payload) :=
  sends.flatMap fun n ↦ (slices max n.nal.bytes).map fun q ↦ (n.name, q)

theorem callPackets_slices (pt : UInt8) (max : ℕ) (b : RTPPacketBuilder) (sends : List (Send ι)) :
    List.Forall₂ (fun n g ↦ g.map RTPPacket.payload = slices max n.nal.bytes) sends
      (callPackets pt max b (sends.map Send.call)) := by
  induction sends generalizing b with
  | nil => exact .nil
  | cons n sends ih =>
    refine .cons ?_ (ih _)
    rw [packets_payload]
    exact sendRequests_data _ _ _ _

theorem payloads_slices {max : ℕ} {sends : List (Send ι)} {groups : List (List RTPPacket)}
    (h : List.Forall₂ (fun n g ↦ g.map RTPPacket.payload = slices max n.nal.bytes) sends groups) :
    payloads sends groups = sentSlices max sends := by
  induction h with
  | nil => rfl
  | @cons n g sends groups hg _ ih =>
    have hgroup : g.map (fun p ↦ (n.name, p.payload)) =
        (slices max n.nal.bytes).map fun q ↦ (n.name, q) := by
      rw [← hg, List.map_map]
      rfl
    rw [payloads, List.zipWith_cons_cons, List.flatten_cons, hgroup, sentSlices, List.flatMap_cons]
    exact congrArg _ ih

/-- What a session emits for a run of NAL units: the process survives, and every
unit's payloads are its slices. -/
theorem emissions_slices {s : RTPSession} (h : Ready s) (hmax : 0 < s.sliceDataMaxSize)
    {pt : UInt8} (hpt : ValidPayloadType pt) (sends : List (Send ι)) :
    ∃ groups, s.emissions pt (sends.map Send.call) = some groups ∧
      List.Forall₂ (fun n g ↦ g.map RTPPacket.payload = slices s.sliceDataMaxSize n.nal.bytes)
        sends groups := by
  have hheader : ∀ c ∈ sends.map Send.call,
      s.sliceDataMaxSize < c.data.length → 5 ≤ c.data.length := by
    intro c hc _
    obtain ⟨n, -, rfl⟩ := List.mem_map.mp hc
    exact n.nal.header
  exact ⟨_, emissions_eq hpt h hmax hheader, callPackets_slices _ _ _ _⟩

def sentUnits (sends : List (Send ι)) : List (ι × List UInt8) :=
  sends.map fun n ↦ (n.name, n.nal.bytes)

theorem fragments_sentSlices (max : ℕ) (sends : List (Send ι)) :
    fragments (sentSlices max sends) =
      (sentUnits sends).flatMap fun u ↦ tagged u.1 (pieces max u.2) := by
  rw [fragments, sentSlices, List.map_flatMap, sentUnits, List.flatMap_map]
  refine List.flatMap_congr fun n _ ↦ ?_
  rw [tagged, pieces, List.map_map, List.map_map]
  rfl

theorem sentUnits_cut {max : ℕ} (hmax : 0 < max) (sends : List (Send ι)) :
    ∀ u ∈ sentUnits sends, Cut u.2 (pieces max u.2) := by
  intro u hu
  obtain ⟨n, -, rfl⟩ := List.mem_map.mp hu
  exact pieces_nal hmax n.nal

theorem sentSlices_formed (max : ℕ) (sends : List (Send ι)) :
    ∀ q ∈ sentSlices max sends, Formed q.2 := by
  intro q hq
  obtain ⟨n, -, hq⟩ := List.mem_flatMap.mp hq
  obtain ⟨payload, hpayload, rfl⟩ := List.mem_map.mp hq
  exact slices_formed max n.nal payload hpayload

end VirtualCamera.Service.Fragments
