import VirtualCamera.Library.Memory

namespace VirtualCamera.Encoder.Muxer

open Library.Memory

/-! ### The muxer -/

/-- An output of the encoder, with the `flags` of its `BufferInfo`; its `size` is the length
of the data. -/
structure Sample where
  flags : UInt32
  data : List UInt8
  deriving DecidableEq, Repr

def Sample.isKeyFrame (x : Sample) : Bool := x.flags &&& 1 ≠ 0
def Sample.isCodecConfig (x : Sample) : Bool := x.flags &&& 2 ≠ 0

structure Packet where
  data : List UInt8
  dataType : ℕ
  deriving DecidableEq, Repr

inductive WriteError
  | indexOutOfBounds
  deriving DecidableEq, Repr

structure MediaMuxerWrapper where
  mEncoderCount : ℤ
  mStatredCount : ℤ
  mIsStarted : Bool
  spsPps : Buffer UInt8 128
  spsPpsLen : ℕ
  databytes : Buffer UInt8 (1024 * 1024)

def MediaMuxerWrapper.create (encoderCount : ℤ) : MediaMuxerWrapper where
  mEncoderCount := encoderCount
  mStatredCount := 0
  mIsStarted := false
  spsPps := .replicate 128 0
  spsPpsLen := 0
  databytes := .replicate (1024 * 1024) 0

def MediaMuxerWrapper.start (s : MediaMuxerWrapper) : MediaMuxerWrapper :=
  let s := { s with mStatredCount := s.mStatredCount + 1 }
  if 0 < s.mEncoderCount ∧ s.mStatredCount = s.mEncoderCount then { s with mIsStarted := true }
  else s

def MediaMuxerWrapper.stop (s : MediaMuxerWrapper) : MediaMuxerWrapper :=
  let s := { s with mStatredCount := s.mStatredCount - 1 }
  if 0 < s.mEncoderCount ∧ s.mStatredCount ≤ 0 then { s with mIsStarted := false } else s

/-- The native method sends the first `dataLen` bytes of the array. -/
def sendData {n : ℕ} (data : Buffer UInt8 n) (dataLen : ℕ) (dataType : ℕ) : Packet :=
  ⟨data.data.take dataLen, dataType⟩

/-- The seven bytes of the header. -/
def adts (packetLen : ℕ) : List UInt8 :=
  let profile := 2
  let freqIdx := 4
  let chanCfg := 1
  [0xFF, 0xF9,
    UInt8.ofNat ((profile - 1) * 2 ^ 6 + freqIdx * 2 ^ 2 + chanCfg / 2 ^ 2),
    UInt8.ofNat (chanCfg % 4 * 2 ^ 6 + packetLen / 2 ^ 11),
    UInt8.ofNat (packetLen % 2 ^ 11 / 2 ^ 3),
    UInt8.ofNat (packetLen % 2 ^ 3 * 2 ^ 5 + 0x1F),
    0xFC]

def addADTStoPacket {n : ℕ} (packet : Buffer UInt8 n) (packetLen : ℕ) : Option (Buffer UInt8 n) :=
  packet.write 0 (adts packetLen)

/-- The packets sent for the sample. A copy out of the bounds of an array throws, and the
encoder thread ends with the exception. -/
def MediaMuxerWrapper.writeSampleData (s : MediaMuxerWrapper) (trackIndex : ℤ) (x : Sample) :
    Except WriteError (List Packet) × MediaMuxerWrapper :=
  let size := x.data.length
  if 0 < s.mStatredCount then
    if trackIndex = 1 then
      if x.flags = 2 then
        let s := { s with spsPpsLen := size }
        match s.spsPps.write 0 x.data with
        | none => (.error .indexOutOfBounds, s)
        | some spsPps => (.ok [], { s with spsPps := spsPps })
      else if x.flags = 1 ∨ x.flags = 9 then
        match s.databytes.write 0 x.data with
        | none => (.error .indexOutOfBounds, s)
        | some databytes =>
          (.ok [sendData s.spsPps s.spsPpsLen 1, sendData databytes size 1],
            { s with databytes := databytes })
      else if x.flags = 0 ∨ x.flags = 8 then
        match s.databytes.write 0 x.data with
        | none => (.error .indexOutOfBounds, s)
        | some databytes => (.ok [sendData databytes size 1], { s with databytes := databytes })
      else (.ok [], s)
    else if trackIndex = 2 then
      match (s.databytes.write 7 x.data).bind fun databytes ↦
          addADTStoPacket databytes (size + 7) with
      | none => (.error .indexOutOfBounds, s)
      | some databytes =>
        (.ok [sendData databytes (size + 7) 2], { s with databytes := databytes })
    else (.ok [], s)
  else (.ok [], s)

/-! ### A sequence of samples -/

inductive Call
  | start
  | stop
  | writeSampleData (trackIndex : ℤ) (x : Sample)
  deriving DecidableEq, Repr

def MediaMuxerWrapper.call (s : MediaMuxerWrapper) :
    Call → Except WriteError (List Packet) × MediaMuxerWrapper
  | .start => (.ok [], s.start)
  | .stop => (.ok [], s.stop)
  | .writeSampleData trackIndex x => s.writeSampleData trackIndex x

/-- What each of the calls sends, unless one of them throws. -/
def MediaMuxerWrapper.calls (s : MediaMuxerWrapper) :
    List Call → Except WriteError (List (List Packet))
  | [] => .ok []
  | c :: cs =>
    match s.call c with
    | (.error e, _) => .error e
    | (.ok packets, s) => (s.calls cs).map (packets :: ·)

/-! ### What is to be sent -/

/-- For a sample that is no configuration, after the configuration `config`. Nothing is to
be sent for an empty sample, but an audio packet has its header then. -/
def Sends (config : List UInt8) (trackIndex : ℤ) (x : Sample) (packets : List Packet) : Prop :=
  if trackIndex = 1 then
    if x.isCodecConfig ∨ x.data = [] then packets = []
    else if x.isKeyFrame ∧ config ≠ [] then packets = [⟨config, 1⟩, ⟨x.data, 1⟩]
    else packets = [⟨x.data, 1⟩]
  else if trackIndex = 2 then
    if x.isCodecConfig ∨ x.data = [] then ∀ p ∈ packets, p.data ≠ []
    else packets = [⟨adts (x.data.length + 7) ++ x.data, 2⟩]
  else if x.isCodecConfig ∨ x.data = [] then packets = []
  else ∃ dataType, packets = [⟨x.data, dataType⟩]

/-- The configuration that is in effect after a sample. -/
def nextConfig (config : List UInt8) (trackIndex : ℤ) (x : Sample) : List UInt8 :=
  if trackIndex = 1 ∧ x.isCodecConfig then x.data else config

/-- Each call sends what it has to, with the most recent configuration before it. -/
def Delivered (config : List UInt8) : List Call → List (List Packet) → Prop
  | [], sent => sent = []
  | .writeSampleData trackIndex x :: cs, packets :: sent =>
    Sends config trackIndex x packets ∧ Delivered (nextConfig config trackIndex x) cs sent
  | .start :: cs, packets :: sent => packets = [] ∧ Delivered config cs sent
  | .stop :: cs, packets :: sent => packets = [] ∧ Delivered config cs sent
  | _ :: _, [] => False

/-! ### The samples that are handled -/

/-- The equality tests on the flags let the sample through. -/
def passes (flags : UInt32) : Bool := flags = 0 ∨ flags = 1 ∨ flags = 8 ∨ flags = 9

/-- What is asked of a sample, when `count` encoders are started, the configuration that was
stored last is `stored` and the one in effect is `config`. -/
def fits (count : ℤ) (stored config : List UInt8) (trackIndex : ℤ) (x : Sample) : Prop :=
  if trackIndex = 1 then
    if x.isCodecConfig then 0 < count → x.flags = 2 → x.data.length ≤ 128
    else if x.data = [] then 0 < count → passes x.flags = false
    else 0 < count ∧ passes x.flags = true ∧ x.data.length ≤ 1024 * 1024 ∧
      (x.isKeyFrame → stored = config ∧ stored ≠ [])
  else if trackIndex = 2 then
    (x.isCodecConfig ∨ x.data = [] ∨ 0 < count) ∧
      (0 < count → x.data.length + 7 ≤ 1024 * 1024)
  else x.isCodecConfig ∨ x.data = []

/-- The configuration that is stored after a sample. -/
def nextStored (count : ℤ) (stored : List UInt8) (trackIndex : ℤ) (x : Sample) : List UInt8 :=
  if 0 < count ∧ trackIndex = 1 ∧ x.flags = 2 then x.data else stored

def handled (count : ℤ) (stored config : List UInt8) : List Call → Prop
  | [] => True
  | .start :: cs => handled (count + 1) stored config cs
  | .stop :: cs => handled (count - 1) stored config cs
  | .writeSampleData trackIndex x :: cs =>
    fits count stored config trackIndex x ∧
      handled count (nextStored count stored trackIndex x) (nextConfig config trackIndex x) cs

/-- The count and the configuration that the muxer has. -/
structure Stores (s : MediaMuxerWrapper) (count : ℤ) (stored : List UInt8) : Prop where
  count : s.mStatredCount = count
  stored : s.spsPps.data.take s.spsPpsLen = stored

theorem take_write {n : ℕ} {b b' : Buffer UInt8 n} {src : List UInt8}
    (h : b.write 0 src = some b') : b'.data.take src.length = src := by
  have htake := memcpy_take (Buffer.write_eq_some h).2
  rwa [Nat.zero_add, List.take_zero, List.nil_append] at htake

/-- The packet of an audio sample: the header is written before the data. -/
theorem take_adts {n : ℕ} {b b₁ b₂ : Buffer UInt8 n} {src : List UInt8}
    (h₁ : b.write 7 src = some b₁) (h₂ : addADTStoPacket b₁ (src.length + 7) = some b₂) :
    b₂.data.take (src.length + 7) = adts (src.length + 7) ++ src := by
  obtain ⟨hle, hcopy₁⟩ := Buffer.write_eq_some h₁
  obtain ⟨-, hcopy₂⟩ := Buffer.write_eq_some h₂
  obtain ⟨-, hdata₁⟩ := memcpy_eq_some hcopy₁
  obtain ⟨-, hdata₂⟩ := memcpy_eq_some hcopy₂
  have hseven : (b.data.take 7).length = 7 := by
    rw [List.length_take, b.length_eq]
    omega
  have hadts : (adts (src.length + 7)).length = 7 := rfl
  have hrest : b₁.data.drop 7 = src ++ b.data.drop (7 + src.length) := by
    rw [hdata₁, List.append_assoc, List.drop_append_of_le_length hseven.ge,
      List.drop_of_length_le hseven.le, List.nil_append]
  rw [hdata₂, List.take_zero, List.nil_append, hadts, Nat.zero_add, hrest, ← List.append_assoc]
  apply List.take_left'
  rw [List.length_append, hadts, Nat.add_comm]

/-! ### One sample -/

/-- The sample is sent as it has to be, without an exception. -/
def Correct (s : MediaMuxerWrapper) (config : List UInt8) (trackIndex : ℤ) (x : Sample) : Prop :=
  ∃ packets s', s.writeSampleData trackIndex x = (.ok packets, s') ∧
    Sends config trackIndex x packets

theorem correct_of_ok {s s' : MediaMuxerWrapper} {config : List UInt8} {trackIndex : ℤ}
    {x : Sample} {packets : List Packet}
    (h : s.writeSampleData trackIndex x = (.ok packets, s')) :
    Correct s config trackIndex x ↔ Sends config trackIndex x packets := by
  constructor
  · intro hcond
    obtain ⟨packets', s'', h', hsends⟩ := hcond
    cases h.symm.trans h'
    exact hsends
  · exact fun hsends ↦ ⟨packets, s', h, hsends⟩

theorem not_correct_of_error {s s' : MediaMuxerWrapper} {config : List UInt8} {trackIndex : ℤ}
    {x : Sample} {e : WriteError} (h : s.writeSampleData trackIndex x = (.error e, s')) :
    ¬ Correct s config trackIndex x := by
  intro hcond
  obtain ⟨packets, s'', h', -⟩ := hcond
  cases h.symm.trans h'

variable {s : MediaMuxerWrapper} {count : ℤ} {stored : List UInt8} (config : List UInt8)
  {x : Sample}

theorem passes_iff {flags : UInt32} :
    passes flags = true ↔ (flags = 1 ∨ flags = 9) ∨ flags = 0 ∨ flags = 8 := by
  simp only [passes, decide_eq_true_eq]
  tauto

/-- What the equality tests let through is no configuration, and a key frame just when the
first test does. -/
theorem flags_of_passes (hpasses : passes x.flags = true) :
    x.isCodecConfig = false ∧ x.flags ≠ 2 ∧
      (x.isKeyFrame = true ↔ x.flags = 1 ∨ x.flags = 9) := by
  unfold Sample.isCodecConfig Sample.isKeyFrame
  rcases passes_iff.mp hpasses with (hflags | hflags) | hflags | hflags <;> rw [hflags] <;> decide

theorem correct_video_config (h : Stores s count stored) (hcount : 0 < count) (hflags : x.flags = 2) :
    Correct s config 1 x ↔ fits count stored config 1 x := by
  have hconfig : x.isCodecConfig = true := by
    unfold Sample.isCodecConfig
    rw [hflags]
    rfl
  have hfits : fits count stored config 1 x ↔ x.data.length ≤ 128 := by
    rw [fits, if_pos rfl, if_pos hconfig]
    exact ⟨fun hf ↦ hf hcount hflags, fun hle _ _ ↦ hle⟩
  have hsends : Sends config 1 x [] := by
    rw [Sends, if_pos rfl, if_pos (.inl hconfig)]
  rw [hfits]
  cases hwrite : s.spsPps.write 0 x.data with
  | none =>
    have herror : s.writeSampleData 1 x = (.error .indexOutOfBounds, { s with
        spsPpsLen := x.data.length }) := by
      simp only [MediaMuxerWrapper.writeSampleData, h.count, hcount, hflags, if_true, hwrite]
    have hlt := Buffer.write_eq_none.mp hwrite
    exact ⟨fun hc ↦ absurd hc (not_correct_of_error herror), fun hle ↦ by omega⟩
  | some spsPps =>
    have hok : s.writeSampleData 1 x = (.ok [], { s with
        spsPps := spsPps, spsPpsLen := x.data.length }) := by
      simp only [MediaMuxerWrapper.writeSampleData, h.count, hcount, hflags, if_true, hwrite]
    have hle := (Buffer.write_eq_some hwrite).1
    exact ⟨fun _ ↦ by omega, fun _ ↦ (correct_of_ok hok).mpr hsends⟩

theorem correct_video_key (h : Stores s count stored) (hcount : 0 < count)
    (hflags : x.flags = 1 ∨ x.flags = 9) :
    Correct s config 1 x ↔ fits count stored config 1 x := by
  have hpasses : passes x.flags = true := passes_iff.mpr (.inl hflags)
  obtain ⟨hconfig, hne, hkey⟩ := flags_of_passes hpasses
  replace hkey := hkey.mpr hflags
  have hfits : fits count stored config 1 x ↔
      x.data ≠ [] ∧ x.data.length ≤ 1024 * 1024 ∧ stored = config ∧ stored ≠ [] := by
    rw [fits, if_pos rfl, hconfig, if_neg Bool.false_ne_true, hpasses, hkey]
    split
    · rename_i hempty
      exact ⟨fun hf ↦ absurd (hf hcount) (by decide), fun hf ↦ absurd hempty hf.1⟩
    · rename_i hdata
      exact ⟨fun hf ↦ ⟨hdata, hf.2.2.1, hf.2.2.2 rfl⟩,
        fun hf ↦ ⟨hcount, rfl, hf.2.1, fun _ ↦ hf.2.2⟩⟩
  rw [hfits]
  cases hwrite : s.databytes.write 0 x.data with
  | none =>
    have herror : s.writeSampleData 1 x = (.error .indexOutOfBounds, s) := by
      simp only [MediaMuxerWrapper.writeSampleData, h.count, hcount, hne, hflags, if_true, if_false,
        hwrite]
    have hlt := Buffer.write_eq_none.mp hwrite
    exact ⟨fun hc ↦ absurd hc (not_correct_of_error herror), fun hf ↦ by omega⟩
  | some databytes =>
    have hok : s.writeSampleData 1 x = (.ok [⟨stored, 1⟩, ⟨x.data, 1⟩], { s with
        databytes := databytes }) := by
      simp only [MediaMuxerWrapper.writeSampleData, h.count, hcount, hne, hflags, if_true, if_false,
        hwrite, sendData, h.stored, take_write hwrite]
    have hle := (Buffer.write_eq_some hwrite).1
    rw [correct_of_ok hok, Sends, if_pos rfl, hconfig]
    by_cases hdata : x.data = []
    · rw [if_pos (.inr hdata)]
      exact ⟨nofun, fun hf ↦ absurd hdata hf.1⟩
    · rw [if_neg (by simpa using hdata)]
      by_cases hempty : config = []
      · rw [if_neg (fun hk ↦ hk.2 hempty)]
        refine ⟨nofun, fun hf ↦ absurd (hf.2.2.1.trans hempty) hf.2.2.2⟩
      · rw [if_pos ⟨hkey, hempty⟩]
        constructor
        · intro he
          have hstored : stored = config := congrArg Packet.data (List.cons.inj he).1
          exact ⟨hdata, by omega, hstored, hstored ▸ hempty⟩
        · intro hf
          rw [hf.2.2.1]

theorem correct_video_plain (h : Stores s count stored) (hcount : 0 < count)
    (hflags : x.flags = 0 ∨ x.flags = 8) :
    Correct s config 1 x ↔ fits count stored config 1 x := by
  have hpasses : passes x.flags = true := passes_iff.mpr (.inr hflags)
  obtain ⟨hconfig, hne, hkey⟩ := flags_of_passes hpasses
  have hfirst : ¬ (x.flags = 1 ∨ x.flags = 9) := by
    rcases hflags with hflags | hflags <;> rw [hflags] <;> decide
  have hfits : fits count stored config 1 x ↔ x.data ≠ [] ∧ x.data.length ≤ 1024 * 1024 := by
    rw [fits, if_pos rfl, hconfig, if_neg Bool.false_ne_true, hpasses]
    split
    · rename_i hempty
      exact ⟨fun hf ↦ absurd (hf hcount) (by decide), fun hf ↦ absurd hempty hf.1⟩
    · rename_i hdata
      exact ⟨fun hf ↦ ⟨hdata, hf.2.2.1⟩,
        fun hf ↦ ⟨hcount, rfl, hf.2, fun hk ↦ absurd (hkey.mp hk) hfirst⟩⟩
  rw [hfits]
  cases hwrite : s.databytes.write 0 x.data with
  | none =>
    have herror : s.writeSampleData 1 x = (.error .indexOutOfBounds, s) := by
      simp only [MediaMuxerWrapper.writeSampleData, h.count, hcount, hne, hfirst, hflags, if_true,
        if_false, hwrite]
    have hlt := Buffer.write_eq_none.mp hwrite
    exact ⟨fun hc ↦ absurd hc (not_correct_of_error herror), fun hf ↦ by omega⟩
  | some databytes =>
    have hok : s.writeSampleData 1 x = (.ok [⟨x.data, 1⟩], { s with databytes := databytes }) := by
      simp only [MediaMuxerWrapper.writeSampleData, h.count, hcount, hne, hfirst, hflags, if_true,
        if_false, hwrite, sendData, take_write hwrite]
    have hle := (Buffer.write_eq_some hwrite).1
    rw [correct_of_ok hok, Sends, if_pos rfl, hconfig]
    by_cases hdata : x.data = []
    · rw [if_pos (.inr hdata)]
      exact ⟨nofun, fun hf ↦ absurd hdata hf.1⟩
    · rw [if_neg (by simpa using hdata), if_neg fun hk ↦ hfirst (hkey.mp hk.1)]
      exact ⟨fun _ ↦ ⟨hdata, by omega⟩, fun _ ↦ rfl⟩

/-- For a sample of which nothing is sent. -/
theorem sends_nothing {trackIndex : ℤ} :
    Sends config trackIndex x [] ↔ x.isCodecConfig = true ∨ x.data = [] := by
  unfold Sends
  split
  · split
    · rename_i hnone
      exact ⟨fun _ ↦ hnone, fun _ ↦ rfl⟩
    · rename_i hnone
      refine ⟨fun hs ↦ ?_, fun hs ↦ absurd hs hnone⟩
      split at hs <;> cases hs
  · split
    · split
      · rename_i hnone
        exact ⟨fun _ ↦ hnone, fun _ p hp ↦ absurd hp List.not_mem_nil⟩
      · rename_i hnone
        exact ⟨nofun, fun hs ↦ absurd hs hnone⟩
    · split
      · rename_i hnone
        exact ⟨fun _ ↦ hnone, fun _ ↦ rfl⟩
      · rename_i hnone
        refine ⟨fun ⟨_, hs⟩ ↦ ?_, fun hs ↦ absurd hs hnone⟩
        cases hs

theorem correct_video_ignored (h : Stores s count stored) (hcount : 0 < count)
    (hne : x.flags ≠ 2) (hpasses : passes x.flags = false) :
    Correct s config 1 x ↔ fits count stored config 1 x := by
  have hnone := mt passes_iff.mpr (Bool.eq_false_iff.mp hpasses)
  have hok : s.writeSampleData 1 x = (.ok [], s) := by
    simp only [MediaMuxerWrapper.writeSampleData, h.count, hcount, hne, mt .inl hnone,
      mt .inr hnone, if_true, if_false]
  rw [correct_of_ok hok, sends_nothing, fits, if_pos rfl, hpasses]
  split
  · rename_i hconfig
    exact ⟨fun _ _ hf ↦ absurd hf hne, fun _ ↦ .inl hconfig⟩
  · rename_i hconfig
    split
    · rename_i hdata
      exact ⟨fun _ _ ↦ rfl, fun _ ↦ .inr hdata⟩
    · rename_i hdata
      exact ⟨fun hs ↦ absurd (hs.resolve_left hconfig) hdata, fun hf ↦ absurd hf.2.1 (by decide)⟩

theorem correct_audio (h : Stores s count stored) (hcount : 0 < count) :
    Correct s config 2 x ↔ fits count stored config 2 x := by
  have hfits : fits count stored config 2 x ↔ x.data.length + 7 ≤ 1024 * 1024 := by
    rw [fits, if_neg (by decide), if_pos rfl]
    exact ⟨fun hf ↦ hf.2 hcount, fun hle ↦ ⟨.inr (.inr hcount), fun _ ↦ hle⟩⟩
  rw [hfits]
  cases hwrite : (s.databytes.write 7 x.data).bind fun databytes ↦
      addADTStoPacket databytes (x.data.length + 7) with
  | none =>
    have herror : s.writeSampleData 2 x = (.error .indexOutOfBounds, s) := by
      simp [MediaMuxerWrapper.writeSampleData, h.count, hcount, hwrite]
    refine ⟨fun hc ↦ absurd hc (not_correct_of_error herror), fun hle ↦ ?_⟩
    -- the header has room in the array, so it is the data that has not
    cases hdata : s.databytes.write 7 x.data with
    | none =>
      have hlt := Buffer.write_eq_none.mp hdata
      omega
    | some databytes =>
      rw [hdata] at hwrite
      have hlt : 1024 * 1024 < 0 + (adts (x.data.length + 7)).length :=
        Buffer.write_eq_none.mp hwrite
      have hadts : (adts (x.data.length + 7)).length = 7 := rfl
      omega
  | some databytes =>
    obtain ⟨first, hfirst, hheader⟩ := Option.bind_eq_some_iff.mp hwrite
    have hok : s.writeSampleData 2 x = (.ok [⟨adts (x.data.length + 7) ++ x.data, 2⟩], { s with
        databytes := databytes }) := by
      simp [MediaMuxerWrapper.writeSampleData, h.count, hcount, hwrite, sendData,
        take_adts hfirst hheader]
    have hle := (Buffer.write_eq_some hfirst).1
    rw [correct_of_ok hok, Sends, if_neg (by decide), if_pos rfl]
    refine ⟨fun _ ↦ by omega, fun _ ↦ ?_⟩
    split
    · intro p hp
      rw [List.mem_singleton.mp hp]
      exact List.cons_ne_nil _ _
    · rfl

theorem correct_other {trackIndex : ℤ} (hvideo : trackIndex ≠ 1)
    (haudio : trackIndex ≠ 2) :
    Correct s config trackIndex x ↔ fits count stored config trackIndex x := by
  have hok : s.writeSampleData trackIndex x = (.ok [], s) := by
    simp only [MediaMuxerWrapper.writeSampleData, hvideo, haudio, if_false, ite_self]
  rw [correct_of_ok hok, sends_nothing, fits, if_neg hvideo, if_neg haudio]

theorem correct_not_started (h : Stores s count stored) (hcount : ¬ 0 < count) (trackIndex : ℤ) :
    Correct s config trackIndex x ↔ fits count stored config trackIndex x := by
  have hok : s.writeSampleData trackIndex x = (.ok [], s) := by
    simp only [MediaMuxerWrapper.writeSampleData, h.count, hcount, if_false]
  rw [correct_of_ok hok, sends_nothing]
  unfold fits
  split
  · split
    · rename_i hconfig
      exact ⟨fun _ hc ↦ absurd hc hcount, fun _ ↦ .inl hconfig⟩
    · rename_i hconfig
      split
      · rename_i hdata
        exact ⟨fun _ hc ↦ absurd hc hcount, fun _ ↦ .inr hdata⟩
      · rename_i hdata
        exact ⟨fun hs ↦ absurd (hs.resolve_left hconfig) hdata, fun hf ↦ absurd hf.1 hcount⟩
  · split
    · constructor
      · intro hs
        exact ⟨or_assoc.mp (.inl hs), fun hc ↦ absurd hc hcount⟩
      · intro hf
        exact (or_assoc.mpr hf.1).resolve_right hcount
    · exact Iff.rfl

/-- A sample is sent as it has to be just when it fits. -/
theorem correct_iff_fits (h : Stores s count stored) (trackIndex : ℤ) :
    Correct s config trackIndex x ↔ fits count stored config trackIndex x := by
  by_cases hcount : 0 < count
  · by_cases hvideo : trackIndex = 1
    · subst hvideo
      by_cases htwo : x.flags = 2
      · exact correct_video_config config h hcount htwo
      · cases hpasses : passes x.flags with
        | false => exact correct_video_ignored config h hcount htwo hpasses
        | true =>
          rcases passes_iff.mp hpasses with hflags | hflags
          · exact correct_video_key config h hcount hflags
          · exact correct_video_plain config h hcount hflags
    · by_cases haudio : trackIndex = 2
      · subst haudio
        exact correct_audio config h hcount
      · exact correct_other config hvideo haudio
  · exact correct_not_started config h hcount trackIndex

/-! ### The whole sequence -/

theorem Stores.start (h : Stores s count stored) : Stores s.start (count + 1) stored := by
  unfold MediaMuxerWrapper.start
  dsimp only
  split
  · exact ⟨congrArg (· + 1) h.count, h.stored⟩
  · exact ⟨congrArg (· + 1) h.count, h.stored⟩

theorem Stores.stop (h : Stores s count stored) : Stores s.stop (count - 1) stored := by
  unfold MediaMuxerWrapper.stop
  dsimp only
  split
  · exact ⟨congrArg (· - 1) h.count, h.stored⟩
  · exact ⟨congrArg (· - 1) h.count, h.stored⟩

/-- Only a configuration that passes its equality test changes what is stored. -/
theorem writeSampleData_same {s' : MediaMuxerWrapper} {packets : List Packet} {trackIndex : ℤ}
    (hconfig : ¬ (0 < s.mStatredCount ∧ trackIndex = 1 ∧ x.flags = 2))
    (hwrite : s.writeSampleData trackIndex x = (.ok packets, s')) :
    s'.mStatredCount = s.mStatredCount ∧ s'.spsPps = s.spsPps ∧ s'.spsPpsLen = s.spsPpsLen := by
  unfold MediaMuxerWrapper.writeSampleData at hwrite
  dsimp only at hwrite
  split at hwrite
  · rename_i hcount
    split at hwrite
    · rename_i hvideo
      rw [if_neg fun hflags ↦ hconfig ⟨hcount, hvideo, hflags⟩] at hwrite
      split at hwrite
      · split at hwrite <;> cases hwrite
        exact ⟨rfl, rfl, rfl⟩
      · split at hwrite
        · split at hwrite <;> cases hwrite
          exact ⟨rfl, rfl, rfl⟩
        · cases hwrite
          exact ⟨rfl, rfl, rfl⟩
    · split at hwrite
      · split at hwrite <;> cases hwrite
        exact ⟨rfl, rfl, rfl⟩
      · cases hwrite
        exact ⟨rfl, rfl, rfl⟩
  · cases hwrite
    exact ⟨rfl, rfl, rfl⟩

theorem Stores.write {s' : MediaMuxerWrapper} {packets : List Packet} {trackIndex : ℤ}
    (h : Stores s count stored) (hwrite : s.writeSampleData trackIndex x = (.ok packets, s')) :
    Stores s' count (nextStored count stored trackIndex x) := by
  unfold nextStored
  rw [← h.count]
  by_cases hconfig : 0 < s.mStatredCount ∧ trackIndex = 1 ∧ x.flags = 2
  · rw [if_pos hconfig]
    obtain ⟨hcount, rfl, hflags⟩ := hconfig
    unfold MediaMuxerWrapper.writeSampleData at hwrite
    rw [if_pos hcount, if_pos rfl, if_pos hflags] at hwrite
    dsimp only at hwrite
    split at hwrite
    · cases hwrite
    · rename_i spsPps hcopy
      cases hwrite
      exact ⟨rfl, take_write hcopy⟩
  · rw [if_neg hconfig]
    obtain ⟨hcount, hsps, hlen⟩ := writeSampleData_same hconfig hwrite
    exact ⟨hcount, by rw [hsps, hlen]; exact h.stored⟩

/-- After the first call what is left is the same question about the others. -/
theorem calls_cons {s s' : MediaMuxerWrapper} {c : Call} {packets : List Packet} {cs : List Call}
    {P : List (List Packet) → Prop} (h : s.call c = (.ok packets, s')) :
    (∃ sent, s.calls (c :: cs) = .ok sent ∧ P sent) ↔
      ∃ sent, s'.calls cs = .ok sent ∧ P (packets :: sent) := by
  rw [MediaMuxerWrapper.calls, h]
  dsimp only
  cases s'.calls cs with
  | error e =>
    constructor
    · intro hcond
      obtain ⟨sent, he, -⟩ := hcond
      cases he
    · intro hcond
      obtain ⟨sent, he, -⟩ := hcond
      cases he
  | ok sent =>
    constructor
    · intro hcond
      obtain ⟨sent', he, hp⟩ := hcond
      cases he
      exact ⟨sent, rfl, hp⟩
    · intro hcond
      obtain ⟨sent', he, hp⟩ := hcond
      cases he
      exact ⟨packets :: sent, rfl, hp⟩

theorem delivered_iff_handled (h : Stores s count stored) (cs : List Call) :
    (∃ sent, s.calls cs = .ok sent ∧ Delivered config cs sent) ↔
      handled count stored config cs := by
  induction cs generalizing s count stored config with
  | nil => exact ⟨fun _ ↦ trivial, fun _ ↦ ⟨[], rfl, rfl⟩⟩
  | cons c cs ih =>
    cases c with
    | start =>
      have hcall : s.call .start = (.ok [], s.start) := rfl
      rw [calls_cons hcall, handled, ← ih config h.start]
      simp only [Delivered, true_and]
    | stop =>
      have hcall : s.call .stop = (.ok [], s.stop) := rfl
      rw [calls_cons hcall, handled, ← ih config h.stop]
      simp only [Delivered, true_and]
    | writeSampleData trackIndex x =>
      have hfits := correct_iff_fits config (x := x) h trackIndex
      cases hwrite : s.writeSampleData trackIndex x with
      | mk result s' =>
        cases result with
        | error e =>
          have hcalls : s.calls (.writeSampleData trackIndex x :: cs) = .error e := by
            rw [MediaMuxerWrapper.calls, MediaMuxerWrapper.call, hwrite]
          rw [hcalls]
          constructor
          · intro hcond
            obtain ⟨sent, he, -⟩ := hcond
            cases he
          · intro hh
            exact absurd (hfits.mpr hh.1) (not_correct_of_error hwrite)
        | ok packets =>
          have hcall : s.call (.writeSampleData trackIndex x) = (.ok packets, s') := hwrite
          rw [calls_cons hcall, handled, ← ih _ (h.write hwrite), ← hfits, correct_of_ok hwrite]
          simp only [Delivered]
          constructor
          · intro hcond
            obtain ⟨sent, hsent, hsends, hrest⟩ := hcond
            exact ⟨hsends, sent, hsent, hrest⟩
          · intro hcond
            obtain ⟨hsends, sent, hsent, hrest⟩ := hcond
            exact ⟨sent, hsent, hsends, hrest⟩

/-- Nothing of what has to be sent is empty. -/
theorem sends_nonempty {trackIndex : ℤ} {packets : List Packet}
    (h : Sends config trackIndex x packets) : ∀ p ∈ packets, p.data ≠ [] := by
  have hdata (hsome : ¬ (x.isCodecConfig = true ∨ x.data = [])) : x.data ≠ [] :=
    fun he ↦ hsome (.inr he)
  unfold Sends at h
  split at h
  · split at h
    · exact h ▸ fun p hp ↦ absurd hp List.not_mem_nil
    · rename_i hsome
      split at h
      · rename_i hkey
        rw [h, List.forall_mem_cons, List.forall_mem_singleton]
        exact ⟨hkey.2, hdata hsome⟩
      · rw [h, List.forall_mem_singleton]
        exact hdata hsome
  · split at h
    · split at h
      · exact h
      · rw [h, List.forall_mem_singleton]
        exact List.cons_ne_nil _ _
    · split at h
      · exact h ▸ fun p hp ↦ absurd hp List.not_mem_nil
      · rename_i hsome
        obtain ⟨dataType, rfl⟩ := h
        rw [List.forall_mem_singleton]
        exact hdata hsome

theorem delivered_nonempty {cs : List Call} {sent : List (List Packet)}
    (h : Delivered config cs sent) : ∀ packets ∈ sent, ∀ p ∈ packets, p.data ≠ [] := by
  induction cs generalizing config sent with
  | nil =>
    rw [show sent = [] from h]
    exact fun packets hp ↦ absurd hp List.not_mem_nil
  | cons c cs ih =>
    cases sent with
    | nil => cases c <;> cases h
    | cons packets sent =>
      rw [List.forall_mem_cons]
      cases c with
      | start | stop =>
        obtain ⟨rfl, hrest⟩ := h
        exact ⟨fun p hp ↦ absurd hp List.not_mem_nil, ih config hrest⟩
      | writeSampleData trackIndex x => exact ⟨sends_nonempty config h.1, ih _ h.2⟩

/-- The samples of a sequence are all delivered, with the configurations before the key
frames, just when each of them fits. -/
theorem samples_delivered_iff (encoderCount : ℤ) (cs : List Call) :
    (∃ sent, (MediaMuxerWrapper.create encoderCount).calls cs = .ok sent ∧ Delivered [] cs sent) ↔
      handled 0 [] [] cs :=
  delivered_iff_handled [] ⟨rfl, rfl⟩ cs

/-! ### A frame that is not sent -/

/-- The last frame comes with the end of the stream. -/
def lastFrame : List Call :=
  [.start, .writeSampleData 1 ⟨2, [7]⟩, .writeSampleData 1 ⟨4, [2]⟩]

theorem last_frame_not_sent :
    (MediaMuxerWrapper.create 1).calls lastFrame = .ok [[], [], []] ∧
      ¬ ∃ sent, (MediaMuxerWrapper.create 1).calls lastFrame = .ok sent ∧
        Delivered [] lastFrame sent := by
  have hcalls : (MediaMuxerWrapper.create 1).calls lastFrame = .ok [[], [], []] := by
    decide +kernel
  refine ⟨hcalls, ?_⟩
  intro h
  obtain ⟨sent, hsent, hdelivered⟩ := h
  cases hcalls.symm.trans hsent
  obtain ⟨-, -, hsends, -⟩ := hdelivered
  cases (sends_nothing _).mp hsends with
  | inl hconfig => cases hconfig
  | inr hempty => cases hempty

end VirtualCamera.Encoder.Muxer
