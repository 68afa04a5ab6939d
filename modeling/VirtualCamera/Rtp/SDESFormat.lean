import VirtualCamera.Rtp.RtcpPacket

namespace VirtualCamera.Rtp.SDESFormat

open Library.Wire RtcpPacket

/-- An item as it stands in a packet. -/
structure WireItem where
  sdesid : UInt8
  itemdata : List UInt8
  sdesid_ne : sdesid ≠ 0
  length_le : itemdata.length ≤ 255

def WireItem.toBytes (i : WireItem) : List UInt8 :=
  put i.sdesid ++ (put (UInt8.ofNat i.itemdata.length) ++ i.itemdata)

def itemsBytes (items : List WireItem) : List UInt8 := items.flatMap WireItem.toBytes

/-- What ends a list of items. -/
def endBytes (filler : List UInt8) : List UInt8 := put (0 : UInt8) ++ filler

/-- A chunk as it stands in a packet. Anything may fill it up to the boundary. -/
structure WireChunk where
  ssrc : UInt32
  items : List WireItem
  filler : List UInt8
  filler_eq : filler.length = alignment (4 + (itemsBytes items).length + 1)

def WireChunk.toBytes (c : WireChunk) : List UInt8 :=
  put c.ssrc ++ (itemsBytes c.items ++ endBytes c.filler)

def chunksBytes (chunks : List WireChunk) : List UInt8 := chunks.flatMap WireChunk.toBytes

@[simp] theorem WireItem.length_toBytes (i : WireItem) :
    i.toBytes.length = 2 + i.itemdata.length := by
  simp only [WireItem.toBytes, List.length_append, length_put, WireWord.width]
  omega

theorem WireItem.toNat_length (i : WireItem) :
    (UInt8.ofNat i.itemdata.length).toNat = i.itemdata.length := by
  have := i.length_le
  rw [UInt8.toNat_ofNat', Nat.mod_eq_of_lt (by omega)]

@[simp] theorem itemsBytes_nil : itemsBytes [] = [] := rfl

theorem itemsBytes_cons (i : WireItem) (items : List WireItem) :
    itemsBytes (i :: items) = i.toBytes ++ itemsBytes items := rfl

@[simp] theorem length_endBytes (filler : List UInt8) :
    (endBytes filler).length = 1 + filler.length := by
  simp [endBytes, WireWord.width]

theorem chunksBytes_cons (c : WireChunk) (chunks : List WireChunk) :
    chunksBytes (c :: chunks) = c.toBytes ++ chunksBytes chunks := rfl

theorem WireChunk.length_toBytes (c : WireChunk) :
    c.toBytes.length = 4 + (itemsBytes c.items).length + 1 + c.filler.length := by
  simp only [WireChunk.toBytes, List.length_append, length_put, WireWord.width, length_endBytes]
  omega

theorem add_alignment (n : ℕ) : (n + alignment n) % 4 = 0 := by
  unfold alignment
  split <;> omega

/-- A chunk ends at a boundary, and is never without the four bytes behind its source. -/
theorem WireChunk.length_mod (c : WireChunk) : c.toBytes.length % 4 = 0 ∧ 8 ≤ c.toBytes.length := by
  have hmod := add_alignment (4 + (itemsBytes c.items).length + 1)
  rw [c.length_toBytes, c.filler_eq]
  omega

section Scan

variable {data : List UInt8} {chunk off : ℕ}

/-- The parts of an item that stands somewhere. -/
theorem WireItem.stands {i : WireItem} {b : List UInt8} (h : StandsAt data off (i.toBytes ++ b)) :
    get off data = some i.sdesid ∧ get (off + 1) data = some (UInt8.ofNat i.itemdata.length) ∧
      StandsAt data (off + 2) i.itemdata ∧ StandsAt data (off + 2 + i.itemdata.length) b := by
  have hi := h.left
  have hb := h.right
  rw [i.length_toBytes, ← Nat.add_assoc] at hb
  refine ⟨hi.left.get, hi.right.left.get, hi.right.right, hb⟩

theorem scanItems_of_stands {items : List WireItem} {filler : List UInt8}
    (h : StandsAt data (chunk + off) (itemsBytes items ++ endBytes filler))
    (hfiller : filler.length = alignment (off + (itemsBytes items).length + 1)) (left : ℕ)
    {fuel : ℕ} (hfuel : items.length < fuel) :
    scanItems data chunk fuel (left + ((itemsBytes items).length + 1 + filler.length)) off =
      some (some (left, off + ((itemsBytes items).length + 1 + filler.length))) := by
  induction items generalizing off fuel with
  | nil =>
    obtain ⟨f, rfl⟩ := Nat.exists_eq_succ_of_ne_zero (Nat.ne_of_gt hfuel)
    have hzero : get (chunk + off) data = some (0 : UInt8) :=
      (show StandsAt data (chunk + off) (put (0 : UInt8) ++ filler) from h).left.get
    simp only [itemsBytes_nil, List.length_nil, Nat.add_zero, Nat.zero_add] at hfiller ⊢
    rw [scanItems, if_neg (by omega), hzero]
    simp only [Option.bind_eq_bind, Option.bind_some, if_true]
    rw [if_neg (by omega)]
    simp only [Option.pure_def, Option.some.injEq, Prod.mk.injEq]
    omega
  | cons i items ih =>
    obtain ⟨f, rfl⟩ := Nat.exists_eq_succ_of_ne_zero (Nat.ne_of_gt (Nat.zero_lt_of_lt hfuel))
    rw [itemsBytes_cons, List.append_assoc] at h
    obtain ⟨hid, hlength, -, hrest⟩ := WireItem.stands h
    rw [Nat.add_assoc, Nat.add_assoc, ← Nat.add_assoc off] at hrest
    have hlen : (itemsBytes (i :: items)).length =
        2 + i.itemdata.length + (itemsBytes items).length := by
      rw [itemsBytes_cons, List.length_append, i.length_toBytes]
    have hoff : off + (itemsBytes (i :: items)).length =
        off + 2 + i.itemdata.length + (itemsBytes items).length := by omega
    rw [hoff] at hfiller
    have hrec := ih hrest hfiller (Nat.lt_of_succ_lt_succ hfuel)
    rw [scanItems, if_neg (by omega), hid]
    simp only [Option.bind_eq_bind, Option.bind_some, if_neg i.sdesid_ne, hlength, i.toNat_length,
      sizeofRTCPSDESHeader]
    rw [if_neg (by omega), if_neg (by omega)]
    convert hrec using 2
    · omega
    · simp only [Option.some.injEq, Prod.mk.injEq, true_and]
      omega

theorem stands_of_scanItems {fuel len left off' : ℕ} (hlen : chunk + off + len ≤ data.length)
    (h : scanItems data chunk fuel len off = some (some (left, off'))) :
    ∃ items filler, StandsAt data (chunk + off) (itemsBytes items ++ endBytes filler) ∧
      filler.length = alignment (off + (itemsBytes items).length + 1) ∧
      len = left + ((itemsBytes items).length + 1 + filler.length) ∧
      off' = off + ((itemsBytes items).length + 1 + filler.length) := by
  induction fuel generalizing len off with
  | zero => cases h
  | succ fuel ih =>
    unfold scanItems sizeofRTCPSDESHeader at h
    split at h
    · cases h
    · simp only [Option.bind_eq_bind, Option.bind_eq_some_iff] at h
      obtain ⟨sdesid, hid, h⟩ := h
      have hidstands := standsAt_of_get hid
      by_cases hzero : sdesid = 0
      · rw [if_pos hzero] at h
        split at h
        · cases h
        · simp only [Option.pure_def, Option.some.injEq, Prod.mk.injEq] at h
          obtain ⟨rfl, rfl⟩ := h
          obtain ⟨filler, hfiller, hstands⟩ := exists_standsAt (l := data)
            (chunk + off + 1) (alignment (off + 1)) (by omega)
          refine ⟨[], filler, ?_, hfiller, ?_, ?_⟩
          · subst hzero
            exact hidstands.append hstands
          · simp only [itemsBytes_nil, List.length_nil]
            omega
          · simp only [itemsBytes_nil, List.length_nil]
            omega
      · rw [if_neg hzero] at h
        split at h
        · cases h
        · simp only [Option.bind_eq_some_iff] at h
          obtain ⟨length, hlength, h⟩ := h
          split at h
          · cases h
          · have hbyte : length.toNat < 256 := length.toNat_lt
            obtain ⟨itemdata, hdata, hstands⟩ := exists_standsAt (l := data)
              (chunk + off + 1 + 1) length.toNat (by omega)
            let i : WireItem := ⟨sdesid, itemdata, hzero, hdata ▸ Nat.le_of_lt_succ hbyte⟩
            have hback : UInt8.ofNat itemdata.length = length := by
              rw [hdata, UInt8.ofNat_toNat]
            have hi : StandsAt data (chunk + off) i.toBytes := by
              apply hidstands.append
              apply StandsAt.append
              · rw [hback]
                exact standsAt_of_get hlength
              · exact hstands
            obtain ⟨items, filler, hrest, hfiller, hleft, hoff⟩ := ih (by omega) h
            have hsize : (itemsBytes (i :: items)).length =
                2 + length.toNat + (itemsBytes items).length := by
              rw [itemsBytes_cons, List.length_append, i.length_toBytes, hdata]
            refine ⟨i :: items, filler, ?_, ?_, ?_, ?_⟩
            · rw [itemsBytes_cons, List.append_assoc]
              apply hi.append
              rw [i.length_toBytes, hdata]
              convert hrest using 1
              omega
            · rw [hfiller, hsize]
              congr 1
              omega
            · omega
            · omega

/-- The loop stays in the packet, and comes to an end. -/
theorem exists_scanItems {fuel len : ℕ} (hlen : chunk + off + len ≤ data.length)
    (hfuel : len < fuel) : ∃ r, scanItems data chunk fuel len off = some r := by
  induction fuel generalizing len off with
  | zero => cases hfuel
  | succ fuel ih =>
    unfold scanItems sizeofRTCPSDESHeader
    split
    · exact ⟨_, rfl⟩
    · obtain ⟨sdesid, hid⟩ := exists_get (α := UInt8) (l := data) (chunk + off)
        (show _ + 1 ≤ _ by omega)
      rw [hid]
      simp only [Option.bind_eq_bind, Option.bind_some]
      split
      · split
        · exact ⟨_, rfl⟩
        · exact ⟨_, rfl⟩
      · split
        · exact ⟨_, rfl⟩
        · obtain ⟨length, hlength⟩ := exists_get (α := UInt8) (l := data) (chunk + off + 1)
            (show _ + 1 ≤ _ by omega)
          rw [hlength, Option.bind_some]
          split
          · exact ⟨_, rfl⟩
          · exact ih (by omega) (by omega)

theorem WireChunk.stands_of_scan {c : WireChunk} {b : List UInt8}
    (h : StandsAt data chunk (c.toBytes ++ b)) :
    StandsAt data (chunk + 4) (itemsBytes c.items ++ endBytes c.filler) ∧
      StandsAt data (chunk + c.toBytes.length) b := ⟨h.left.right, h.right⟩

theorem items_le (items : List WireItem) : items.length ≤ (itemsBytes items).length := by
  induction items with
  | nil => exact Nat.zero_le _
  | cons i items ih =>
    rw [itemsBytes_cons, List.length_append, i.length_toBytes, List.length_cons]
    omega

theorem scanChunks_of_stands {chunks : List WireChunk}
    (h : StandsAt data chunk (chunksBytes chunks)) :
    scanChunks data chunks.length chunk (chunksBytes chunks).length = some true := by
  induction chunks generalizing chunk with
  | nil => rfl
  | cons c chunks ih =>
    rw [chunksBytes_cons] at h ⊢
    obtain ⟨hitems, hrest⟩ := WireChunk.stands_of_scan h
    have hsize := c.length_toBytes
    have hmod := c.length_mod
    have hle := items_le c.items
    have hfuel : c.items.length < (c.toBytes ++ chunksBytes chunks).length := by
      rw [List.length_append]
      omega
    have hscan := scanItems_of_stands hitems c.filler_eq (chunksBytes chunks).length hfuel
    have hlen : (c.toBytes ++ chunksBytes chunks).length - 4 = (chunksBytes chunks).length +
        ((itemsBytes c.items).length + 1 + c.filler.length) := by
      rw [List.length_append]
      omega
    rw [List.length_cons, scanChunks, if_neg (by rw [List.length_append]; omega),
      if_neg (by rw [List.length_append]; omega), hlen, hscan]
    simp only [Option.bind_eq_bind, Option.bind_some]
    convert ih hrest using 2
    omega

theorem stands_of_scanChunks {n len : ℕ} (hlen : chunk + len ≤ data.length)
    (h : scanChunks data n chunk len = some true) :
    ∃ chunks, chunks.length = n ∧ StandsAt data chunk (chunksBytes chunks) ∧
      len = (chunksBytes chunks).length := by
  induction n generalizing chunk len with
  | zero =>
    simp only [scanChunks, Option.some.injEq, decide_eq_true_eq] at h
    obtain ⟨b, hb, hstands⟩ := exists_standsAt (l := data) chunk 0 (by omega)
    rw [List.length_eq_zero_iff.mp hb] at hstands
    exact ⟨[], rfl, hstands, h⟩
  | succ n ih =>
    unfold scanChunks at h
    split at h
    · cases h
    · split at h
      · cases h
      · simp only [Option.bind_eq_bind, Option.bind_eq_some_iff] at h
        obtain ⟨r, hscan, h⟩ := h
        split at h
        · cases h
        · rename_i left chunkoffset
          obtain ⟨ssrc, hssrc⟩ := exists_get (α := UInt32) (l := data) chunk
            (show _ + 4 ≤ _ by omega)
          obtain ⟨items, filler, hitems, hfiller, hleft, hoff⟩ :=
            stands_of_scanItems (by omega) hscan
          let c : WireChunk := ⟨ssrc, items, filler, hfiller⟩
          have hsize : c.toBytes.length = 4 + (itemsBytes items).length + 1 + filler.length :=
            c.length_toBytes
          obtain ⟨chunks, hcount, hrest, hbytes⟩ := ih (by omega) h
          refine ⟨c :: chunks, by rw [List.length_cons, hcount], ?_, ?_⟩
          · rw [chunksBytes_cons]
            apply StandsAt.append
            · exact (standsAt_of_get hssrc).append hitems
            · have hend : chunk + c.toBytes.length = chunk + chunkoffset := by omega
              exact hend ▸ hrest
          · rw [chunksBytes_cons, List.length_append]
            omega

theorem exists_scanChunks {n len : ℕ} (hlen : chunk + len ≤ data.length) :
    ∃ r, scanChunks data n chunk len = some r := by
  induction n generalizing chunk len with
  | zero => exact ⟨_, rfl⟩
  | succ n ih =>
    unfold scanChunks
    split
    · exact ⟨_, rfl⟩
    · split
      · exact ⟨_, rfl⟩
      · obtain ⟨r, hscan⟩ := exists_scanItems
          (show chunk + 4 + (len - 4) ≤ data.length by omega) (show len - 4 < len by omega)
        rw [hscan]
        simp only [Option.bind_eq_bind, Option.bind_some]
        cases r with
        | none => exact ⟨_, rfl⟩
        | some r =>
          obtain ⟨items, filler, -, -, hleft, hoff⟩ := stands_of_scanItems (by omega) hscan
          exact ih (by omega)

end Scan

section Read

/-- The prefix and the value in the data of a private item. -/
def privData : List UInt8 → List UInt8 × List UInt8
  | [] => ([], [])
  | prefixlength :: l =>
    if prefixlength.toNat > l.length then ([], [])
    else (l.take prefixlength.toNat, l.drop prefixlength.toNat)

theorem privData_cons (prefixlength : UInt8) (l : List UInt8) :
    privData (prefixlength :: l) = if prefixlength.toNat > l.length then ([], [])
      else (l.take prefixlength.toNat, l.drop prefixlength.toNat) := rfl

/-- An item as its reader sees it. -/
def WireItem.read (i : WireItem) : SDESItem :=
  if i.sdesid ≠ RTCP_SDES_ID_PRIVATE then .normal (ItemType.ofId i.sdesid) i.itemdata
  else .priv (privData i.itemdata).1 (privData i.itemdata).2

def WireChunk.read (c : WireChunk) : SDESChunk := ⟨c.ssrc, c.items.map WireItem.read⟩

theorem ofId_eq_priv {sdesid : UInt8} :
    ItemType.ofId sdesid = .priv ↔ sdesid = RTCP_SDES_ID_PRIVATE := by
  constructor
  · intro h
    by_contra hno
    unfold ItemType.ofId at h
    rw [if_neg hno] at h
    repeat' split at h
    all_goals cases h
  · rintro rfl
    rfl

variable {c : SDESCursor} {i : WireItem} {items : List WireItem} {filler : List UInt8}

theorem getPRIVData_of_stands (h : StandsAt c.packet.data c.item i.toBytes)
    (hpriv : i.sdesid = RTCP_SDES_ID_PRIVATE) : c.getPRIVData = some (privData i.itemdata) := by
  have hempty : StandsAt c.packet.data c.item (i.toBytes ++ []) := by rwa [List.append_nil]
  obtain ⟨hid, hlength, hdata, -⟩ := WireItem.stands hempty
  have hle := i.length_le
  simp only [SDESCursor.getPRIVData, Option.bind_eq_bind]
  rw [hid, Option.bind_some, hlength, Option.bind_some,
    if_neg (not_not_intro hpriv)]
  cases hi : i.itemdata with
  | nil => rfl
  | cons prefixlength l =>
    rw [hi] at hdata hle
    have hcount : (UInt8.ofNat (prefixlength :: l).length).toNat = l.length + 1 := by
      rw [← hi, i.toNat_length, hi, List.length_cons]
    have hne : UInt8.ofNat (prefixlength :: l).length ≠ 0 := by
      intro hzero
      rw [hzero] at hcount
      cases hcount
    have hprefix : get (c.item + sizeofRTCPSDESHeader) c.packet.data = some prefixlength := by
      have hcons : put prefixlength ++ l = prefixlength :: l := by rw [put_byte, List.singleton_append]
      rw [← hcons] at hdata
      exact hdata.left.get
    rw [if_neg hne, hprefix, Option.bind_some, hcount, Nat.add_sub_cancel,
      privData_cons]
    by_cases hlong : prefixlength.toNat > l.length
    · rw [if_pos hlong, if_pos hlong]
      rfl
    · rw [if_neg hlong, if_neg hlong]
      have hl : StandsAt c.packet.data (c.item + 2 + 1)
          (l.take prefixlength.toNat ++ l.drop prefixlength.toNat) := by
        rw [List.take_append_drop]
        have hcons : put prefixlength ++ l = prefixlength :: l := by
          rw [put_byte, List.singleton_append]
        rw [← hcons] at hdata
        exact hdata.right
      have htake : (l.take prefixlength.toNat).length = prefixlength.toNat := by
        rw [List.length_take]
        omega
      have hfirst := hl.left.slice htake
      have hsecond := hl.right.slice (n := l.length + 1 - prefixlength.toNat - 1)
        (by rw [List.length_drop]; omega)
      rw [htake] at hsecond
      unfold sizeofRTCPSDESHeader
      rw [hfirst, Option.bind_some, hsecond]
      rfl

theorem readItem_of_stands (h : StandsAt c.packet.data c.item i.toBytes) :
    c.readItem = some i.read := by
  have hempty : StandsAt c.packet.data c.item (i.toBytes ++ []) := by rwa [List.append_nil]
  obtain ⟨hid, hlength, hdata, -⟩ := WireItem.stands hempty
  have htype : c.getItemType = some (ItemType.ofId i.sdesid) := by
    unfold SDESCursor.getItemType
    rw [hid, Option.map_some]
  unfold WireItem.read
  simp only [SDESCursor.readItem, Option.bind_eq_bind]
  rw [htype, Option.bind_some]
  by_cases hpriv : i.sdesid = RTCP_SDES_ID_PRIVATE
  · rw [if_neg (not_not_intro (ofId_eq_priv.mpr hpriv)), if_neg (not_not_intro hpriv),
      getPRIVData_of_stands h hpriv]
    rfl
  · have hitem : c.getItemData = some i.itemdata := by
      simp only [SDESCursor.getItemData, sizeofRTCPSDESHeader, Option.bind_eq_bind]
      rw [hid, Option.bind_some, if_neg i.sdesid_ne, hlength,
        Option.bind_some]
      exact hdata.slice i.toNat_length.symm
    rw [if_pos (fun ht ↦ hpriv (ofId_eq_priv.mp ht)), if_pos hpriv, hitem]
    rfl

/-- What stands behind the item is the next one, or the end. -/
theorem gotoNextItem_of_stands {sdesid : UInt8} {b : List UInt8}
    (h : StandsAt c.packet.data c.item (i.toBytes ++ (put sdesid ++ b))) :
    c.gotoNextItem = some (if sdesid = 0 then none
      else some { c with itemoffset := c.itemoffset + 2 + i.itemdata.length }) := by
  obtain ⟨hid, hlength, -, hnext⟩ := WireItem.stands h
  have hget : get (c.currentchunk + (c.itemoffset + 2 + i.itemdata.length)) c.packet.data =
      some sdesid := by
    have hoff : c.currentchunk + (c.itemoffset + 2 + i.itemdata.length) =
        c.item + 2 + i.itemdata.length := by
      unfold SDESCursor.item
      omega
    rw [hoff]
    exact hnext.left.get
  simp only [SDESCursor.gotoNextItem, sizeofRTCPSDESHeader, Option.bind_eq_bind]
  rw [hid, Option.bind_some, if_neg i.sdesid_ne, hlength,
    Option.bind_some]
  simp only [i.toNat_length]
  rw [hget, Option.bind_some]
  split
  · rfl
  · rfl

theorem readItems_of_stands
    (h : StandsAt c.packet.data c.item (itemsBytes (i :: items) ++ endBytes filler)) {fuel : ℕ}
    (hfuel : items.length < fuel) :
    SDESCursor.readItems fuel c = some ((i :: items).map WireItem.read) := by
  induction items generalizing c i fuel with
  | nil =>
    obtain ⟨f, rfl⟩ := Nat.exists_eq_succ_of_ne_zero (Nat.ne_of_gt hfuel)
    have hend : StandsAt c.packet.data c.item (i.toBytes ++ (put (0 : UInt8) ++ filler)) := by
      rw [itemsBytes_cons, itemsBytes_nil, List.append_nil] at h
      exact h
    simp only [SDESCursor.readItems, Option.bind_eq_bind]
    rw [readItem_of_stands hend.left, Option.bind_some,
      gotoNextItem_of_stands hend]
    rfl
  | cons i' items ih =>
    obtain ⟨f, rfl⟩ := Nat.exists_eq_succ_of_ne_zero (Nat.ne_of_gt (Nat.zero_lt_of_lt hfuel))
    rw [itemsBytes_cons, List.append_assoc] at h
    have hnext := h
    rw [itemsBytes_cons, WireItem.toBytes.eq_def i', List.append_assoc, List.append_assoc] at hnext
    have hrest := h.right
    have hoff : c.item + i.toBytes.length =
        SDESCursor.item { c with itemoffset := c.itemoffset + 2 + i.itemdata.length } := by
      rw [i.length_toBytes]
      unfold SDESCursor.item
      simp only
      omega
    rw [hoff] at hrest
    simp only [SDESCursor.readItems, Option.bind_eq_bind]
    rw [readItem_of_stands h.left, Option.bind_some,
      gotoNextItem_of_stands hnext, if_neg i'.sdesid_ne]
    simp only [Option.bind_some]
    rw [ih hrest (Nat.lt_of_succ_lt_succ hfuel)]
    rfl

theorem skipItems_of_stands {data : List UInt8} {chunk off : ℕ}
    (h : StandsAt data (chunk + off) (itemsBytes items ++ endBytes filler)) {fuel : ℕ}
    (hfuel : items.length < fuel) :
    SDESCursor.skipItems data chunk fuel off = some (off + (itemsBytes items).length) := by
  induction items generalizing off fuel with
  | nil =>
    obtain ⟨f, rfl⟩ := Nat.exists_eq_succ_of_ne_zero (Nat.ne_of_gt hfuel)
    have hzero : get (chunk + off) data = some (0 : UInt8) :=
      (show StandsAt data (chunk + off) (put (0 : UInt8) ++ filler) from h).left.get
    simp only [SDESCursor.skipItems, Option.bind_eq_bind]
    rw [hzero]
    rfl
  | cons i items ih =>
    obtain ⟨f, rfl⟩ := Nat.exists_eq_succ_of_ne_zero (Nat.ne_of_gt (Nat.zero_lt_of_lt hfuel))
    rw [itemsBytes_cons, List.append_assoc] at h
    obtain ⟨hid, hlength, -, hrest⟩ := WireItem.stands h
    rw [Nat.add_assoc, Nat.add_assoc, ← Nat.add_assoc off] at hrest
    simp only [SDESCursor.skipItems, Option.bind_eq_bind]
    rw [hid, Option.bind_some, if_pos i.sdesid_ne,
      hlength, Option.bind_some]
    simp only [i.toNat_length, sizeofRTCPSDESHeader]
    rw [ih hrest (Nat.lt_of_succ_lt_succ hfuel), itemsBytes_cons, List.length_append,
      i.length_toBytes]
    simp only [Option.some.injEq]
    omega

theorem readChunk_of_stands {ch : WireChunk} (h : StandsAt c.packet.data c.currentchunk ch.toBytes) :
    c.readChunk = some ch.read := by
  have hssrc : c.getChunkSSRC = some ch.ssrc := h.left.get
  have hitems : StandsAt c.packet.data (c.currentchunk + 4)
      (itemsBytes ch.items ++ endBytes ch.filler) := h.right
  have hle := h.le
  have hsize := ch.length_toBytes
  have hcount := items_le ch.items
  unfold WireChunk.read
  simp only [SDESCursor.readChunk, SDESCursor.gotoFirstItem, SDESCursor.item, Option.bind_eq_bind]
  rw [hssrc, Option.bind_some]
  cases hlist : ch.items with
  | nil =>
    rw [hlist] at hitems
    have hzero : get (c.currentchunk + 4) c.packet.data = some (0 : UInt8) :=
      (show StandsAt _ _ (put (0 : UInt8) ++ ch.filler) from hitems).left.get
    rw [hzero]
    rfl
  | cons i items =>
    rw [hlist] at hitems hcount
    rw [List.length_cons] at hcount
    have hid : get (c.currentchunk + 4) c.packet.data = some i.sdesid := by
      rw [itemsBytes_cons, List.append_assoc] at hitems
      exact (WireItem.stands hitems).1
    rw [hid]
    simp only [Option.bind_some, if_neg i.sdesid_ne, Option.pure_def]
    rw [readItems_of_stands (c := { c with itemoffset := 4 }) (i := i) hitems
      (by rw [hlist] at hsize; omega)]
    rfl

/-- From one chunk the cursor goes to where the next one stands. -/
theorem gotoNextChunk_of_stands {ch : WireChunk} {count : ℕ}
    (h : StandsAt c.packet.data c.currentchunk ch.toBytes) (hcount : c.packet.count = some count) :
    c.gotoNextChunk = some (if c.curchunknum = count then none
      else some { c with
        currentchunk := c.currentchunk + ch.toBytes.length
        curchunknum := c.curchunknum + 1
        itemoffset := 4 }) := by
  have hitems : StandsAt c.packet.data (c.currentchunk + 4)
      (itemsBytes ch.items ++ endBytes ch.filler) := h.right
  have hle := h.le
  have hsize := ch.length_toBytes
  have hmany := items_le ch.items
  simp only [SDESCursor.gotoNextChunk, Option.bind_eq_bind]
  rw [hcount, Option.bind_some, skipItems_of_stands hitems (by omega), Option.bind_some,
    ← ch.filler_eq, hsize]
  split
  · rfl
  · simp only [Option.pure_def, Nat.add_assoc]

theorem readChunks_of_stands {ch : WireChunk} {chunks : List WireChunk}
    (h : StandsAt c.packet.data c.currentchunk (chunksBytes (ch :: chunks)))
    (hcount : c.packet.count = some (c.curchunknum + chunks.length)) {fuel : ℕ}
    (hfuel : chunks.length < fuel) :
    SDESCursor.readChunks fuel c = some ((ch :: chunks).map WireChunk.read) := by
  induction chunks generalizing c ch fuel with
  | nil =>
    obtain ⟨f, rfl⟩ := Nat.exists_eq_succ_of_ne_zero (Nat.ne_of_gt hfuel)
    have hch : StandsAt c.packet.data c.currentchunk ch.toBytes := h.left
    simp only [SDESCursor.readChunks, Option.bind_eq_bind]
    rw [readChunk_of_stands hch, Option.bind_some, gotoNextChunk_of_stands hch hcount,
      if_pos (show c.curchunknum = c.curchunknum + ([] : List WireChunk).length from rfl)]
    rfl
  | cons ch' chunks ih =>
    obtain ⟨f, rfl⟩ := Nat.exists_eq_succ_of_ne_zero (Nat.ne_of_gt (Nat.zero_lt_of_lt hfuel))
    rw [chunksBytes_cons] at h
    simp only [SDESCursor.readChunks, Option.bind_eq_bind]
    rw [readChunk_of_stands h.left, Option.bind_some, gotoNextChunk_of_stands h.left hcount,
      if_neg (by rw [List.length_cons]; omega)]
    simp only [Option.bind_some]
    have hnext := ih (c := { c with
        currentchunk := c.currentchunk + ch.toBytes.length
        curchunknum := c.curchunknum + 1
        itemoffset := 4 }) h.right
      (by rw [hcount, List.length_cons]; congr 1; simp only; omega) (Nat.lt_of_succ_lt_succ hfuel)
    rw [hnext]
    rfl

end Read

section Packet

variable {data : List UInt8} {chunks : List WireChunk}

/-- The bytes are a source description of these chunks, maybe with padding. -/
structure SDESForm (data : List UInt8) (chunks : List WireChunk) : Prop where
  header : ∃ hdr, RTCPCommonHeader.read data = some hdr ∧ hdr.count.toNat = chunks.length ∧
    hdr.unpadded data = some (some (sizeofRTCPCommonHeader + (chunksBytes chunks).length))
  stands : StandsAt data sizeofRTCPCommonHeader (chunksBytes chunks)

theorem chunks_le (chunks : List WireChunk) : chunks.length ≤ (chunksBytes chunks).length := by
  induction chunks with
  | nil => exact Nat.zero_le _
  | cons c chunks ih =>
    have := c.length_mod
    rw [chunksBytes_cons, List.length_append, List.length_cons]
    omega

theorem RTCPSDESPacket_of_form (h : SDESForm data chunks) :
    RTCPSDESPacket data = some (.known .sdes data) := by
  obtain ⟨hdr, hread, hcount, hlen⟩ := h.header
  simp only [RTCPSDESPacket, hread, hlen, Option.bind_eq_bind, Option.bind_some]
  by_cases hzero : hdr.count = 0
  · rw [if_pos hzero]
    rw [hzero] at hcount
    rw [List.eq_nil_of_length_eq_zero hcount.symm]
    rfl
  · rw [if_neg hzero, if_neg (by omega), hcount, Nat.add_sub_cancel_left,
      scanChunks_of_stands h.stands]
    rfl

theorem form_of_known (hlen : sizeofRTCPCommonHeader ≤ data.length) :
    ∃ p, RTCPSDESPacket data = some p ∧ p.data = data ∧ p.packettype = .sdes ∧
      (p.knownformat = true → ∃ chunks, SDESForm data chunks) := by
  obtain ⟨hdr, hread⟩ := RTCPCommonHeader.exists_read hlen
  obtain ⟨r, hr⟩ := hdr.exists_unpadded (show 0 < data.length from Nat.lt_of_lt_of_le (by decide) hlen)
  have hunknown : ∃ p, some (RTCPPacket.unknownFormat .sdes data) = some p ∧ p.data = data ∧
      p.packettype = .sdes ∧ (p.knownformat = true → ∃ chunks, SDESForm data chunks) :=
    ⟨_, rfl, rfl, rfl, fun hk ↦ (Bool.false_ne_true hk).elim⟩
  simp only [RTCPSDESPacket, hread, hr, Option.bind_eq_bind, Option.bind_some]
  cases r with
  | none => exact hunknown
  | some len =>
    obtain ⟨-, hle⟩ := RTCPCommonHeader.unpadded_le hr
    simp only
    split
    · rename_i hzero
      split
      · exact hunknown
      · rename_i hfour
        refine ⟨_, rfl, rfl, rfl, fun _ ↦ ⟨[], ⟨hdr, hread, by rw [hzero]; rfl, ?_⟩, ?_⟩⟩
        · rw [hr, not_not.mp hfour]
          rfl
        · obtain ⟨b, hb, hstands⟩ := exists_standsAt (l := data) sizeofRTCPCommonHeader
            0 hlen
          rw [List.length_eq_zero_iff.mp hb] at hstands
          exact hstands
    · split
      · exact hunknown
      · rename_i hfour
        have hfit : sizeofRTCPCommonHeader + (len - sizeofRTCPCommonHeader) ≤ data.length := by omega
        obtain ⟨known, hscan⟩ := exists_scanChunks (n := hdr.count.toNat) hfit
        rw [hscan, Option.bind_some]
        cases known with
        | false => exact hunknown
        | true =>
          obtain ⟨chunks, hcount, hstands, hbytes⟩ := stands_of_scanChunks hfit hscan
          refine ⟨_, rfl, rfl, rfl, fun _ ↦ ⟨chunks, ⟨hdr, hread, hcount.symm, ?_⟩, hstands⟩⟩
          rw [hr, ← hbytes]
          congr 2
          omega

/-- The loops over the chunks and their items get what stands in the packet. -/
theorem readSDES_of_form (h : SDESForm data chunks) :
    (RTCPPacket.known .sdes data).readSDES = some (chunks.map WireChunk.read) := by
  obtain ⟨hdr, hread, hcount, hlen⟩ := h.header
  have hnum : (RTCPPacket.known .sdes data).count = some chunks.length := by
    simp only [RTCPPacket.count, RTCPPacket.known, hread, Option.map_some, hcount]
    rfl
  simp only [RTCPPacket.readSDES, SDESCursor.gotoFirstChunk, hnum, Option.bind_eq_bind,
    Option.bind_some]
  cases hchunks : chunks with
  | nil => rfl
  | cons ch chunks' =>
    have hmany := chunks_le chunks
    have hle := h.stands.le
    rw [hchunks] at hnum hmany hle
    rw [List.length_cons] at hmany
    rw [if_neg (by simp)]
    simp only [Option.pure_def, Option.bind_some]
    apply readChunks_of_stands
    · rw [hchunks] at h
      exact h.stands
    · rw [hnum, List.length_cons, Nat.add_comm]
    · show chunks'.length < data.length
      omega

end Packet

end VirtualCamera.Rtp.SDESFormat
