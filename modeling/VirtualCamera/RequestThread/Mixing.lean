import VirtualCamera.RequestThread.Model

namespace VirtualCamera.RequestThread

open Library.Assoc

/-! ### Taking triggers out -/

namespace Metadata

variable {p : Tag → Prop} {m m' : Metadata}

theorem Agree.update_both (h : Agree p m m') (tag : Tag) (data : List ℤ) :
    Agree p (m.update tag data) (m'.update tag data) := by
  intro tag' ht'
  by_cases he : tag' = tag
  · rw [he, find_update, find_update]
  · rw [find_update_ne _ _ he, find_update_ne _ _ he]
    exact h tag' ht'

theorem Agree.erase_both (h : Agree p m m') (tag : Tag) :
    Agree p (m.erase tag) (m'.erase tag) := by
  intro tag' ht'
  by_cases he : tag' = tag
  · rw [he, find_erase, find_erase]
  · rw [find_erase_ne _ he, find_erase_ne _ he]
    exact h tag' ht'

/-- The old entry of a trigger survives the map it is kept in. -/
def Restorable (m : Metadata) (tag : Tag) : Prop :=
  (m.find tag).length ≤ 1 ∧ ∀ value ∈ m.find tag, 0 ≤ value ∧ value < 2 ^ 8

instance (m : Metadata) (tag : Tag) : Decidable (m.Restorable tag) := by
  unfold Restorable
  infer_instance

end Metadata

namespace Triggers

open Metadata

variable {t : Triggers} {p : Tag → Prop} {m m' : Metadata}

/-- The entries that come back. -/
def putBack (l : List (Sigma fun _ : Tag ↦ QueuedTrigger)) (m : Metadata) : Metadata :=
  l.foldl (fun m entry ↦ m.update entry.snd.metadataTag entry.snd.data) m

/-- The entries that go away. -/
def takeOut (l : List (Sigma fun _ : Tag ↦ QueuedTrigger)) (m : Metadata) : Metadata :=
  l.foldl (fun m entry ↦ m.erase entry.snd.metadataTag) m

theorem restore_eq (t : Triggers) (m : Metadata) :
    t.restore m = takeOut t.mTriggerRemovedMap.entries (putBack t.mTriggerReplacedMap.entries m) :=
  rfl

theorem agree_putBack (h : Agree p m m') (l : List (Sigma fun _ : Tag ↦ QueuedTrigger)) :
    Agree p (putBack l m) (putBack l m') := by
  induction l generalizing m m' with
  | nil => exact h
  | cons entry l ih => exact ih (h.update_both entry.snd.metadataTag entry.snd.data)

theorem agree_takeOut (h : Agree p m m') (l : List (Sigma fun _ : Tag ↦ QueuedTrigger)) :
    Agree p (takeOut l m) (takeOut l m') := by
  induction l generalizing m m' with
  | nil => exact h
  | cons entry l ih => exact ih (h.erase_both entry.snd.metadataTag)

theorem agree_restore (h : Agree p m m') (t : Triggers) :
    Agree p (t.restore m) (t.restore m') :=
  agree_takeOut (agree_putBack h _) _

theorem find_putBack {l : List (Sigma fun _ : Tag ↦ QueuedTrigger)} {tag : Tag} (m : Metadata)
    (h : ∀ entry ∈ l, entry.snd.metadataTag ≠ tag) : (putBack l m).find tag = m.find tag := by
  induction l generalizing m with
  | nil => rfl
  | cons entry l ih =>
    have hne : tag ≠ entry.snd.metadataTag := (h entry List.mem_cons_self).symm
    refine (ih _ fun entry' hm ↦ h entry' (List.mem_cons_of_mem _ hm)).trans ?_
    exact find_update_ne m _ hne

/-- An old entry is put back where the trigger was written. -/
theorem find_restore_replaced {tag : Tag} {oldTrigger : QueuedTrigger} {data : List ℤ}
    (hnew : tag ∉ t.mTriggerReplacedMap) (htag : oldTrigger.metadataTag = tag)
    (hold : m.find tag = oldTrigger.data) (tag' : Tag) :
    (restore { t with mTriggerReplacedMap := t.mTriggerReplacedMap.insert tag oldTrigger }
      (m.update tag data)).find tag' = (t.restore m).find tag' := by
  have hsame : Agree (fun _ ↦ True) m ((m.update tag data).update tag oldTrigger.data) := by
    intro tag'' _
    by_cases he : tag'' = tag
    · rw [he, find_update, hold]
    · rw [find_update_ne _ _ he, find_update_ne _ _ he]
  rw [restore_eq, AList.entries_insert_of_notMem hnew]
  simp only [putBack, List.foldl_cons, htag]
  exact agree_restore hsame t tag' trivial

/-- An entry that was not there goes away. -/
theorem find_restore_removed {tag : Tag} {trigger : QueuedTrigger} {data : List ℤ}
    (hnew : tag ∉ t.mTriggerRemovedMap) (htag : trigger.metadataTag = tag)
    (hfree : ∀ entry ∈ t.mTriggerReplacedMap.entries, entry.snd.metadataTag ≠ tag)
    (hnone : m.find tag = []) (tag' : Tag) :
    (restore { t with mTriggerRemovedMap := t.mTriggerRemovedMap.insert tag trigger }
      (m.update tag data)).find tag' = (t.restore m).find tag' := by
  have hsame : Agree (fun _ ↦ True) (putBack t.mTriggerReplacedMap.entries m)
      ((putBack t.mTriggerReplacedMap.entries (m.update tag data)).erase tag) := by
    intro tag'' _
    by_cases he : tag'' = tag
    · rw [he, find_erase, find_putBack m hfree, hnone]
    · have hother : Agree (fun tag'' ↦ tag'' ≠ tag) m (m.update tag data) :=
        (Agree.refl _ m).update data fun hc ↦ hc rfl
      rw [find_erase_ne _ he]
      exact agree_putBack hother _ tag'' he
  rw [restore_eq, AList.entries_insert_of_notMem hnew]
  simp only [takeOut, List.foldl_cons, htag]
  exact agree_takeOut hsame _ tag' trivial

/-! ### Mixing triggers in -/

/-- Of the settings `m₀`, the triggers `done` are mixed in, and the two maps undo it. -/
structure Undoes (m₀ : Metadata) (done : List QueuedTrigger) (p : Triggers × CaptureRequest) :
    Prop where
  replaced : ∀ entry ∈ p.1.mTriggerReplacedMap.entries,
    entry.fst = entry.snd.metadataTag ∧ entry.fst ∈ done.map (·.metadataTag)
  removed : ∀ entry ∈ p.1.mTriggerRemovedMap.entries,
    entry.fst = entry.snd.metadataTag ∧ entry.fst ∈ done.map (·.metadataTag)
  kept : ∀ tag ∉ done.map (·.metadataTag), p.2.metadata.find tag = m₀.find tag
  restores : ∀ tag, (p.1.restore p.2.metadata).find tag = m₀.find tag
  mixed : ∀ trigger ∈ done, trigger.mixes = true →
    p.2.metadata.find trigger.metadataTag = trigger.data

theorem undoes_nil (h : t.Clean) (request : CaptureRequest) :
    Undoes request.metadata [] (t, request) := by
  refine ⟨?_, ?_, fun _ _ ↦ rfl, fun tag ↦ ?_, fun _ hm ↦ absurd hm List.not_mem_nil⟩
  · rw [h.1]
    exact fun _ hm ↦ absurd hm List.not_mem_nil
  · rw [h.2]
    exact fun _ hm ↦ absurd hm List.not_mem_nil
  · rw [h.restore]

theorem notMem_of_entries {map : Map Tag QueuedTrigger} {tags : List Tag} {tag : Tag}
    (h : ∀ entry ∈ map.entries, entry.fst = entry.snd.metadataTag ∧ entry.fst ∈ tags)
    (ht : tag ∉ tags) : tag ∉ map := by
  intro hm
  obtain ⟨trigger, hmem⟩ := List.mem_keys.mp (AList.mem_keys.mp hm)
  exact ht (h _ hmem).2

/-- The value of the old entry that is kept is all there was. -/
theorem data_withValue {m₀ : Metadata} {trigger : QueuedTrigger} {value : ℤ} {rest : List ℤ}
    (h : m₀.Restorable trigger.metadataTag) (hfind : m₀.find trigger.metadataTag = value :: rest) :
    (trigger.withValue (value % 2 ^ 8)).data = m₀.find trigger.metadataTag := by
  obtain ⟨hlen, hrange⟩ := h
  rw [hfind] at hlen hrange ⊢
  have hrest : rest = [] := List.eq_nil_of_length_eq_zero (by simpa using hlen)
  have hval := hrange value List.mem_cons_self
  have hmod : value % 2 ^ 8 = value := Int.emod_eq_of_lt hval.1 hval.2
  subst hrest
  simp only [QueuedTrigger.data, QueuedTrigger.withValue, hmod]
  split <;> rfl

theorem mixes_eq_true {trigger : QueuedTrigger} (h : trigger.mixes = true) :
    trigger.metadataTag ≠ .controlAePrecaptureId ∧
      trigger.metadataTag ≠ .controlAfTriggerId := by
  simp only [QueuedTrigger.mixes, Tag.isTriggerId, Bool.not_eq_true', Bool.or_eq_false_iff,
    decide_eq_false_iff_not] at h
  exact ⟨h.2, h.1⟩

/-- An id is for the extras, and leaves the settings and the maps alone. -/
theorem mixIn_id {trigger : QueuedTrigger} (h : trigger.mixes = false)
    (p : Triggers × CaptureRequest) :
    (mixIn p trigger).1.mTriggerReplacedMap = p.1.mTriggerReplacedMap ∧
      (mixIn p trigger).1.mTriggerRemovedMap = p.1.mTriggerRemovedMap ∧
      (mixIn p trigger).2.settings = p.2.settings ∧
      (mixIn p trigger).2.physical = p.2.physical := by
  simp only [QueuedTrigger.mixes, Tag.isTriggerId, Bool.not_eq_false', Bool.or_eq_true,
    decide_eq_true_eq] at h
  unfold mixIn
  dsimp only
  split
  · exact ⟨rfl, rfl, rfl, rfl⟩
  · rename_i hne
    rw [if_pos (h.resolve_right hne)]
    exact ⟨rfl, rfl, rfl, rfl⟩

theorem mixIn_replaced {trigger : QueuedTrigger} (h : trigger.mixes = true)
    {p : Triggers × CaptureRequest} {value : ℤ} {rest : List ℤ}
    (hfind : p.2.metadata.find trigger.metadataTag = value :: rest) :
    mixIn p trigger =
      ({ p.1 with
        mTriggerReplacedMap := p.1.mTriggerReplacedMap.insert trigger.metadataTag
          (trigger.withValue (value % 2 ^ 8)) },
        p.2.setMetadata (p.2.metadata.update trigger.metadataTag trigger.data)) := by
  obtain ⟨hpre, haf⟩ := mixes_eq_true h
  simp only [mixIn, if_neg hpre, if_neg haf, hfind]

theorem mixIn_removed {trigger : QueuedTrigger} (h : trigger.mixes = true)
    {p : Triggers × CaptureRequest} (hfind : p.2.metadata.find trigger.metadataTag = []) :
    mixIn p trigger =
      ({ p.1 with
        mTriggerRemovedMap := p.1.mTriggerRemovedMap.insert trigger.metadataTag trigger },
        p.2.setMetadata (p.2.metadata.update trigger.metadataTag trigger.data)) := by
  obtain ⟨hpre, haf⟩ := mixes_eq_true h
  simp only [mixIn, if_neg hpre, if_neg haf, hfind]

section Undoes

variable {m₀ : Metadata} {done : List QueuedTrigger} {q : Triggers × CaptureRequest}
  {trigger : QueuedTrigger}

theorem Undoes.mixIn_id (h : Undoes m₀ done q) (hid : trigger.mixes = false) :
    Undoes m₀ (trigger :: done) (mixIn q trigger) := by
  obtain ⟨hrep, hrem, hset, _⟩ := Triggers.mixIn_id hid q
  have hm : (mixIn q trigger).2.metadata = q.2.metadata := congrArg (·.metadata) hset
  have hres : (mixIn q trigger).1.restore q.2.metadata = q.1.restore q.2.metadata := by
    rw [restore_eq, restore_eq, hrep, hrem]
  refine ⟨?_, ?_, fun tag ht ↦ ?_, fun tag ↦ ?_, fun other ho hmix ↦ ?_⟩
  · rw [hrep]
    exact fun entry he ↦ (h.replaced entry he).imp_right (List.mem_cons_of_mem _)
  · rw [hrem]
    exact fun entry he ↦ (h.removed entry he).imp_right (List.mem_cons_of_mem _)
  · rw [hm]
    exact h.kept tag fun hc ↦ ht (List.mem_cons_of_mem _ hc)
  · rw [hm, hres]
    exact h.restores tag
  · rw [hm]
    obtain rfl | ho := List.mem_cons.mp ho
    · rw [hid] at hmix
      cases hmix
    · exact h.mixed other ho hmix

/-- What the two maps undo once a trigger with a new tag is written. -/
theorem Undoes.write (h : Undoes m₀ done q) {t' : Triggers}
    (hnew : trigger.metadataTag ∉ done.map (·.metadataTag))
    (hrep : ∀ entry ∈ t'.mTriggerReplacedMap.entries, entry.fst = entry.snd.metadataTag ∧
      entry.fst ∈ (trigger :: done).map (·.metadataTag))
    (hrem : ∀ entry ∈ t'.mTriggerRemovedMap.entries, entry.fst = entry.snd.metadataTag ∧
      entry.fst ∈ (trigger :: done).map (·.metadataTag))
    (hres : ∀ tag, (t'.restore (q.2.metadata.update trigger.metadataTag trigger.data)).find tag =
      (q.1.restore q.2.metadata).find tag) :
    Undoes m₀ (trigger :: done)
      (t', q.2.setMetadata (q.2.metadata.update trigger.metadataTag trigger.data)) := by
  refine ⟨hrep, hrem, fun tag ht ↦ ?_, fun tag ↦ (hres tag).trans (h.restores tag),
    fun other ho hmix ↦ ?_⟩
  · rw [List.map_cons, List.mem_cons, not_or] at ht
    exact (find_update_ne _ _ ht.1).trans (h.kept tag ht.2)
  · obtain rfl | ho := List.mem_cons.mp ho
    · exact find_update _ _ _
    · have hne : other.metadataTag ≠ trigger.metadataTag :=
        fun hc ↦ hnew (hc ▸ List.mem_map_of_mem ho)
      exact (find_update_ne _ _ hne).trans (h.mixed other ho hmix)

theorem Undoes.mixIn (h : Undoes m₀ done q)
    (hnew : trigger.metadataTag ∉ done.map (·.metadataTag))
    (hold : trigger.mixes = true → m₀.Restorable trigger.metadataTag) :
    Undoes m₀ (trigger :: done) (Triggers.mixIn q trigger) := by
  cases hmix : trigger.mixes with
  | false => exact h.mixIn_id hmix
  | true =>
    have hkept := h.kept _ hnew
    have hcons : ∀ entry : Sigma fun _ : Tag ↦ QueuedTrigger,
        entry.fst = entry.snd.metadataTag ∧ entry.fst ∈ done.map (·.metadataTag) →
        entry.fst = entry.snd.metadataTag ∧
          entry.fst ∈ (trigger :: done).map (·.metadataTag) :=
      fun entry he ↦ he.imp_right (List.mem_cons_of_mem _)
    cases hfind : q.2.metadata.find trigger.metadataTag with
    | cons value rest =>
      have hnotin := notMem_of_entries h.replaced hnew
      rw [mixIn_replaced hmix hfind]
      refine h.write hnew (fun entry he ↦ ?_) (fun entry he ↦ hcons entry (h.removed entry he)) ?_
      · rw [AList.entries_insert_of_notMem hnotin] at he
        obtain rfl | he := List.mem_cons.mp he
        · exact ⟨rfl, List.mem_cons_self⟩
        · exact hcons entry (h.replaced entry he)
      · refine find_restore_replaced hnotin rfl ?_
        rw [hkept] at hfind ⊢
        exact (data_withValue (hold hmix) hfind).symm
    | nil =>
      have hnotin := notMem_of_entries h.removed hnew
      rw [mixIn_removed hmix hfind]
      refine h.write hnew (fun entry he ↦ hcons entry (h.replaced entry he)) (fun entry he ↦ ?_) ?_
      · rw [AList.entries_insert_of_notMem hnotin] at he
        obtain rfl | he := List.mem_cons.mp he
        · exact ⟨rfl, List.mem_cons_self⟩
        · exact hcons entry (h.removed entry he)
      · refine find_restore_removed hnotin rfl (fun entry he hc ↦ hnew ?_) hfind
        obtain ⟨htag, hmem⟩ := h.replaced entry he
        exact hc ▸ htag ▸ hmem

theorem Undoes.foldl {l : List QueuedTrigger} (h : Undoes m₀ done q)
    (hdist : ((l.reverse ++ done).map (·.metadataTag)).Nodup)
    (hold : ∀ trigger ∈ l, trigger.mixes = true → m₀.Restorable trigger.metadataTag) :
    Undoes m₀ (l.reverse ++ done) (l.foldl Triggers.mixIn q) := by
  induction l generalizing done q with
  | nil => exact h
  | cons trigger l ih =>
    rw [List.reverse_cons, List.append_assoc, List.singleton_append] at hdist ⊢
    have htail := (List.nodup_append.mp (List.map_append ▸ hdist)).2.1
    rw [List.map_cons, List.nodup_cons] at htail
    exact ih (h.mixIn htail.1 (hold trigger List.mem_cons_self)) hdist
      fun other ho ↦ hold other (List.mem_cons_of_mem _ ho)

end Undoes

/-! ### The triggers that wait -/

def Keyed (t : Triggers) : Prop :=
  ∀ entry ∈ t.mTriggerMap.entries, entry.fst = entry.snd.metadataTag

theorem Keyed.nodup (h : t.Keyed) : (t.pending.map (·.metadataTag)).Nodup := by
  have hkeys : t.pending.map (·.metadataTag) = t.mTriggerMap.keys := by
    unfold pending
    rw [List.map_map]
    exact List.map_congr_left fun entry he ↦ (h entry he).symm
  rw [hkeys]
  exact t.mTriggerMap.keys_nodup

/-- The triggers that wait are mixed into settings without any, and can be taken out. -/
theorem undoes_insertTriggers (hkeyed : t.Keyed) (hclean : t.Clean) {request : CaptureRequest}
    (hold : ∀ trigger ∈ t.pending, trigger.mixes = true →
      request.metadata.Restorable trigger.metadataTag) :
    Undoes request.metadata t.pending.reverse (t.insertTriggers request).2 := by
  have hdist : ((t.pending.reverse ++ []).map
      fun trigger : QueuedTrigger ↦ trigger.metadataTag).Nodup := by
    rw [List.append_nil, List.map_reverse, List.nodup_reverse]
    exact hkeyed.nodup
  have hall := (undoes_nil hclean request).foldl hdist hold
  rw [List.append_nil] at hall
  exact ⟨hall.replaced, hall.removed, hall.kept, hall.restores, hall.mixed⟩

/-- Ids alone leave the settings and the maps alone. -/
theorem insertTriggers_ids (hids : ∀ trigger ∈ t.pending, trigger.mixes = false)
    (request : CaptureRequest) :
    (t.insertTriggers request).2.1.mTriggerReplacedMap = t.mTriggerReplacedMap ∧
      (t.insertTriggers request).2.1.mTriggerRemovedMap = t.mTriggerRemovedMap ∧
      (t.insertTriggers request).2.2.settings = request.settings ∧
      (t.insertTriggers request).2.2.physical = request.physical := by
  have hfold : ∀ (l : List QueuedTrigger) (q : Triggers × CaptureRequest),
      (∀ trigger ∈ l, trigger.mixes = false) →
      (l.foldl mixIn q).1.mTriggerReplacedMap = q.1.mTriggerReplacedMap ∧
        (l.foldl mixIn q).1.mTriggerRemovedMap = q.1.mTriggerRemovedMap ∧
        (l.foldl mixIn q).2.settings = q.2.settings ∧
        (l.foldl mixIn q).2.physical = q.2.physical := by
    intro l
    induction l with
    | nil => exact fun q _ ↦ ⟨rfl, rfl, rfl, rfl⟩
    | cons trigger l ih =>
      intro q hl
      obtain ⟨h₁, h₂, h₃, h₄⟩ := mixIn_id (hl trigger List.mem_cons_self) q
      obtain ⟨h₁', h₂', h₃', h₄'⟩ := ih (mixIn q trigger)
        fun other ho ↦ hl other (List.mem_cons_of_mem _ ho)
      exact ⟨h₁'.trans h₁, h₂'.trans h₂, h₃'.trans h₃, h₄'.trans h₄⟩
  exact hfold t.pending (t, request) hids

end Triggers

/-! ### What the thread rewrites itself -/

/-- The tags that the overrides, the mappers and the workarounds of the thread write. -/
def Config.rewrites (cfg : Config) (tag : Tag) : Bool :=
  cfg.mappers.corrects tag || kFwkOnlyRegionKeys.contains tag || tag = .scalerRotateAndCrop ||
    cfg.mSupportCameraMute && (tag = .sensorTestPatternMode || tag = .sensorTestPatternData) ||
    tag.isTriggerId

def Config.Keeps (cfg : Config) (tag : Tag) : Prop := cfg.rewrites tag = false

/-- Two requests have the same settings, but for what the thread rewrites. -/
def CaptureRequest.Agree (cfg : Config) (request request' : CaptureRequest) : Prop :=
  List.Forall₂ (Metadata.Agree cfg.Keeps) request.allMetadata request'.allMetadata

/-- The settings of a request are those that came with it. -/
def CaptureRequest.Stored (cfg : Config) (request : CaptureRequest) : Prop :=
  List.Forall₂ (Metadata.Agree cfg.Keeps) request.original request.allMetadata

section Keeps

variable {cfg : Config} {request request' request'' : CaptureRequest}

theorem Config.Keeps.ne {tag : Tag} (h : cfg.Keeps tag) :
    cfg.mappers.corrects tag = false ∧ tag ∉ kFwkOnlyRegionKeys ∧ tag ≠ .scalerRotateAndCrop ∧
      (cfg.mSupportCameraMute = true →
        tag ≠ .sensorTestPatternMode ∧ tag ≠ .sensorTestPatternData) ∧
      tag ≠ .controlAfTriggerId ∧ tag ≠ .controlAePrecaptureId := by
  simp only [Config.Keeps, Config.rewrites, Tag.isTriggerId, Bool.or_eq_false_iff,
    Bool.and_eq_false_iff, decide_eq_false_iff_not] at h
  obtain ⟨⟨⟨⟨hmap, hfwk⟩, hrot⟩, hmute⟩, haf, hae⟩ := h
  refine ⟨hmap, fun hc ↦ ?_, hrot, fun hm ↦ hmute.resolve_left (by rw [hm]; decide), haf, hae⟩
  rw [List.contains_iff_mem.mpr hc] at hfwk
  cases hfwk

theorem CaptureRequest.Agree.refl (cfg : Config) (request : CaptureRequest) :
    request.Agree cfg request :=
  List.forall₂_same.mpr fun _ _ ↦ .refl _ _

theorem forall₂_trans {l l' l'' : List Metadata}
    (h : List.Forall₂ (Metadata.Agree cfg.Keeps) l l')
    (h' : List.Forall₂ (Metadata.Agree cfg.Keeps) l' l'') :
    List.Forall₂ (Metadata.Agree cfg.Keeps) l l'' := by
  induction h generalizing l'' with
  | nil => exact h'
  | cons hm _ ih =>
    cases h' with
    | cons hm' hl' => exact .cons (hm.trans hm') (ih hl')

theorem CaptureRequest.Agree.trans (h : request.Agree cfg request')
    (h' : request'.Agree cfg request'') : request.Agree cfg request'' :=
  forall₂_trans h h'

theorem CaptureRequest.Stored.agree (h : request.Stored cfg) (ha : request.Agree cfg request')
    (ho : request'.original = request.original) : request'.Stored cfg := by
  unfold CaptureRequest.Stored
  rw [ho]
  exact forall₂_trans h ha

theorem stored_createCaptureRequest (cfg : Config) (mute : Bool) (request : CaptureRequest) :
    (createCaptureRequest mute request).Stored cfg := by
  unfold CaptureRequest.Stored
  rw [allMetadata_createCaptureRequest]
  exact List.forall₂_same.mpr fun _ _ ↦ .refl _ _

theorem agree_setMetadata {m : Metadata} (h : request.metadata.Agree cfg.Keeps m) :
    request.Agree cfg (request.setMetadata m) :=
  .cons h (List.forall₂_same.mpr fun _ _ ↦ .refl _ _)

theorem agree_overrideAutoRotateAndCrop (o : Overrides) (request : CaptureRequest) :
    request.Agree cfg (o.overrideAutoRotateAndCrop request).2 := by
  have hset : ∀ data, request.Agree cfg
      (request.setMetadata (request.metadata.update .scalerRotateAndCrop data)) :=
    fun data ↦ agree_setMetadata ((Metadata.Agree.refl _ _).update data
      fun hc ↦ hc.ne.2.2.1 rfl)
  unfold Overrides.overrideAutoRotateAndCrop
  split
  · split
    · split
      · exact .refl cfg request
      · exact hset _
    · exact hset _
  · exact .refl cfg request

theorem agree_overrideSettings (hmute : cfg.mSupportCameraMute = true) (o : Overrides)
    (settings : PhysicalCameraSettings) :
    settings.metadata.Agree cfg.Keeps (o.overrideSettings settings).2.metadata := by
  have hmode : ∀ m data, Metadata.Agree cfg.Keeps m (m.update .sensorTestPatternMode data) :=
    fun m data ↦ (Metadata.Agree.refl _ m).update data fun hc ↦ (hc.ne.2.2.2.1 hmute).1 rfl
  have hdata : ∀ m data, Metadata.Agree cfg.Keeps m (m.update .sensorTestPatternData data) :=
    fun m data ↦ (Metadata.Agree.refl _ m).update data fun hc ↦ (hc.ne.2.2.2.1 hmute).2 rfl
  have hfirst : ∀ mode, settings.metadata.Agree cfg.Keeps
      (Overrides.overrideMode mode settings).2 := by
    intro mode
    unfold Overrides.overrideMode
    split
    · split
      · exact hmode _ _
      · exact .refl _ _
    · split
      · exact hmode _ _
      · exact .refl _ _
  have hsecond : ∀ data hasTag m, Metadata.Agree cfg.Keeps m
      (Overrides.overrideData data hasTag m).2 := by
    intro data hasTag m
    unfold Overrides.overrideData
    dsimp only
    split
    · split
      · exact hdata _ _
      · exact .refl _ _
    · split
      · exact hdata _ _
      · exact .refl _ _
  exact (hfirst _).trans (hsecond _ _ _)

theorem agree_overrideTestPattern (o : Overrides) (request : CaptureRequest) :
    request.Agree cfg (o.overrideTestPattern cfg.mSupportCameraMute request).2 := by
  unfold Overrides.overrideTestPattern
  split
  · rename_i hmute
    refine .cons (agree_overrideSettings hmute o request.settings) ?_
    simp only [List.map_map]
    rw [List.forall₂_map_left_iff, List.forall₂_map_right_iff]
    exact List.forall₂_same.mpr fun settings _ ↦ agree_overrideSettings hmute o settings
  · exact .refl cfg request

theorem agree_addFakeTriggerIds (m : Metadata) :
    Metadata.Agree cfg.Keeps m (addFakeTriggerIds m) := by
  have haf : ∀ m data, Metadata.Agree cfg.Keeps m (m.update .controlAfTriggerId data) :=
    fun m data ↦ (Metadata.Agree.refl _ m).update data fun hc ↦ hc.ne.2.2.2.2.1 rfl
  have hae : ∀ m data, Metadata.Agree cfg.Keeps m (m.update .controlAePrecaptureId data) :=
    fun m data ↦ (Metadata.Agree.refl _ m).update data fun hc ↦ hc.ne.2.2.2.2.2 rfl
  unfold addFakeTriggerIds
  extract_lets fakeTriggerId m'
  have hm : Metadata.Agree cfg.Keeps m m' := by
    dsimp only [m']
    split
    · split
      · exact haf _ _
      · exact .refl _ _
    · exact .refl _ _
  split
  · split
    · exact hm.trans (hae _ _)
    · exact hm
  · exact hm

/-! ### Corrections -/

/-- A turn of a correction loop changes only what is rewritten. -/
def Correcting (cfg : Config)
    (f : Bool → PhysicalCameraSettings → Option (Bool × PhysicalCameraSettings)) : Prop :=
  ∀ updated settings p, f updated settings = some p →
    settings.metadata.Agree cfg.Keeps p.2.metadata

theorem agree_correctList
    {f : Bool → PhysicalCameraSettings → Option (Bool × PhysicalCameraSettings)}
    (hf : Correcting cfg f) {l : List PhysicalCameraSettings} {updated : Bool}
    {q : Bool × List PhysicalCameraSettings} (h : correctList f updated l = some q) :
    List.Forall₂ (Metadata.Agree cfg.Keeps) (l.map (·.metadata)) (q.2.map (·.metadata)) := by
  induction l generalizing updated q with
  | nil =>
    cases h
    exact .nil
  | cons settings l ih =>
    simp only [correctList, Option.bind_eq_some_iff, Option.map_eq_some_iff] at h
    obtain ⟨p, hp, q', hq', rfl⟩ := h
    exact .cons (hf updated settings p hp) (ih hq')

theorem agree_correctAll
    {f : Bool → PhysicalCameraSettings → Option (Bool × PhysicalCameraSettings)}
    (hf : Correcting cfg f) {updated : Bool} {p : Bool × CaptureRequest}
    (h : correctAll f updated request = some p) : request.Agree cfg p.2 := by
  simp only [correctAll, Option.bind_eq_some_iff, Option.map_eq_some_iff] at h
  obtain ⟨q, hq, q', hq', rfl⟩ := h
  exact .cons (hf _ _ q hq) (agree_correctList hf hq')

theorem correcting_correctOnce {find : String → Option (Metadata → Option Metadata)}
    {skip : Metadata → Metadata}
    (hfind : ∀ cameraId correct m m', find cameraId = some correct → correct m = some m' →
      m.Agree cfg.Keeps m') (hskip : ∀ m, Metadata.Agree cfg.Keeps m (skip m)) :
    Correcting cfg (correctOnce find skip) := by
  intro updated settings p hp
  unfold correctOnce at hp
  split at hp
  · cases hp
    exact hskip _
  · split at hp
    · cases hp
      exact .refl _ _
    · obtain ⟨m, hm, rfl⟩ := Option.map_eq_some_iff.mp hp
      exact hfind _ _ _ _ ‹_› hm

theorem correcting_correctAlways {find : String → Option (Metadata → Option Metadata)}
    (hfind : ∀ cameraId correct m m', find cameraId = some correct → correct m = some m' →
      m.Agree cfg.Keeps m') : Correcting cfg (correctAlways find) := by
  intro updated settings p hp
  unfold correctAlways at hp
  split at hp
  · cases hp
    exact .refl _ _
  · obtain ⟨m, hm, rfl⟩ := Option.map_eq_some_iff.mp hp
    exact hfind _ _ _ _ ‹_› hm

theorem agree_removeFwkOnlyRegionKeys (m : Metadata) :
    Metadata.Agree cfg.Keeps m (removeFwkOnlyRegionKeys m) := by
  have hfold : ∀ (l : List Tag) (m : Metadata), (∀ key ∈ l, key ∈ kFwkOnlyRegionKeys) →
      Metadata.Agree cfg.Keeps m (l.foldl (fun m key ↦ m.erase key) m) := by
    intro l
    induction l with
    | nil => exact fun m _ ↦ .refl _ m
    | cons key l ih =>
      intro m hl
      refine Metadata.Agree.trans ?_ (ih _ fun key' hk ↦ hl key' (List.mem_cons_of_mem _ hk))
      exact (Metadata.Agree.refl _ m).erase fun hc ↦ hc.ne.2.1 (hl key List.mem_cons_self)
  exact hfold kFwkOnlyRegionKeys m fun _ hk ↦ hk

theorem agree_mapper {find : String → Option (Metadata → Option Metadata)}
    (hfind : find ∈ [cfg.mappers.uhrCropAndMeteringRegion, cfg.mappers.distortion,
      cfg.mappers.zoomRatio, cfg.mappers.rotateAndCrop]) :
    ∀ cameraId correct m m', find cameraId = some correct → correct m = some m' →
      Metadata.Agree cfg.Keeps m m' :=
  fun cameraId correct m m' hc hm tag ht ↦
    cfg.mappers.keeps find hfind cameraId correct m m' hc hm tag ht.ne.1

theorem agree_correct (h : cfg.mappers.correct request = some request') :
    request.Agree cfg request' := by
  simp only [Mappers.correct, Option.bind_eq_some_iff] at h
  obtain ⟨a, ha, b, hb, c, hc, hd⟩ := h
  have hra : request.Agree cfg a := by
    simp only [Mappers.correctRegions, Option.map_eq_some_iff] at ha
    obtain ⟨p, hp, rfl⟩ := ha
    refine agree_correctAll (correcting_correctOnce ?_ agree_removeFwkOnlyRegionKeys) hp
    intro cameraId correct m m' hfind hm
    obtain ⟨f, hf, rfl⟩ := Option.map_eq_some_iff.mp hfind
    obtain ⟨m'', hm'', rfl⟩ := Option.map_eq_some_iff.mp hm
    exact (agree_mapper (by simp) cameraId f m m'' hf hm'').trans
      (agree_removeFwkOnlyRegionKeys m'')
  have hab : a.Agree cfg b := by
    simp only [Mappers.correctDistortion, Option.map_eq_some_iff] at hb
    obtain ⟨p, hp, rfl⟩ := hb
    exact agree_correctAll (correcting_correctOnce (agree_mapper (by simp)) fun _ ↦ .refl _ _) hp
  have hbc : b.Agree cfg c := by
    simp only [Mappers.correctZoomRatio, Option.map_eq_some_iff] at hc
    obtain ⟨p, hp, rfl⟩ := hc
    exact agree_correctAll (correcting_correctOnce (agree_mapper (by simp)) fun _ ↦ .refl _ _) hp
  have hcd : c.Agree cfg request' := by
    simp only [Mappers.correctRotateAndCrop] at hd
    split at hd
    · obtain ⟨p, hp, rfl⟩ := Option.map_eq_some_iff.mp hd
      exact agree_correctAll (correcting_correctAlways (agree_mapper (by simp))) hp
    · cases hd
      exact .refl cfg _
  exact ((hra.trans hab).trans hbc).trans hcd

end Keeps

end VirtualCamera.RequestThread
