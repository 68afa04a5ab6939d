import VirtualCamera.Library.Memory
import VirtualCamera.Splitter.Model

namespace VirtualCamera.Splitter.Connection

open Library Assoc Memory

def OK : ℤ := 0
def NO_MEMORY : ℤ := -12
def BAD_VALUE : ℤ := -22

/-- An output surface: its producer, and what the calls on it answer. `query` answers with the
number of buffers that the consumer keeps. -/
structure Surface where
  gbp : ℕ
  setBuffersDimensions : ℕ → ℕ → ℤ := fun _ _ ↦ OK
  setBuffersFormat : ℤ → ℤ := fun _ ↦ OK
  connect : ℤ := OK
  query : ℤ × ℤ := (OK, 1)
  setBufferCount : ℕ → ℤ := fun _ ↦ OK
  allowAllocation : Bool → ℤ := fun _ ↦ OK

structure OutputListener where
  output : ℕ
  deriving DecidableEq, Repr

/-- A null pointer in a table is `none`. `mConsumer` is whether there is a consumer, `mBuffers`
the number of buffers that are tracked, and `connected` are the producers that the splitter is
connected to. -/
structure State where
  mOutputs : Map ℤ (Option ℕ) := ∅
  mOutputSlots : Map ℕ (Option OutputSlots) := ∅
  mNotifiers : Map ℕ (Option OutputListener) := ∅
  mConsumerBufferCount : Map ℤ ℕ := ∅
  mMaxConsumerBuffers : ℕ := 0
  mMaxHalBuffers : ℕ := 0
  mAcquiredInputBuffers : ℕ := 0
  mWidth : ℕ := 0
  mHeight : ℕ := 0
  mFormat : ℤ := 0
  mConsumer : Bool := false
  mBuffers : ℕ := 0
  connected : Finset ℕ := ∅

/-- What `connect` is called with, the surfaces in the order of the iteration, and what the calls
answer that it makes when they have been added. -/
structure ConnectCall where
  surfaces : List (ℕ × Option Surface)
  distinct : (surfaces.map Prod.fst).Nodup
  halMaxBuffers : ℕ
  width : ℕ
  height : ℕ
  format : ℤ
  consumer : Bool := true
  newBufferItemConsumer : Bool := true
  newSurface : Bool := true
  setAsyncMode : ℤ := OK
  consumerConnect : ℤ := OK

namespace State

/-- `mOutputs[surfaceId]` makes an entry where there is none. -/
def look (s : State) (id : ℤ) : State := { s with mOutputs := emplace id none s.mOutputs }

/-- There is an output for the surface. -/
def Taken (s : State) (id : ℤ) : Prop := (s.mOutputs.lookup id).join ≠ none

instance (s : State) (id : ℤ) : Decidable (s.Taken id) := instDecidableNot

def linked (s : State) (gbp : ℕ) : State := { s with connected := insert gbp s.connected }

/-- The new entries for an output. -/
def register (s : State) (id : ℤ) (gbp : ℕ) (maxConsumerBuffers : ℤ) : State :=
  { s with
    mOutputs := s.mOutputs.insert id (some gbp)
    mConsumerBufferCount := s.mConsumerBufferCount.insert id (sizeT maxConsumerBuffers)
    mNotifiers := s.mNotifiers.insert gbp (some ⟨gbp⟩)
    mOutputSlots := s.mOutputSlots.insert gbp (some (List.replicate NUM_BUFFER_SLOTS none))
    mMaxConsumerBuffers := sizeT (s.mMaxConsumerBuffers + maxConsumerBuffers) }

/-- The status and the new state. The keys of `mOutputs` are of type `int`. A producer that is
connected refuses another connection. -/
def addOutputLocked (s : State) (surfaceId : ℕ) (outputQueue : Option Surface) : ℤ × State :=
  match outputQueue with
  | none => (BAD_VALUE, s)
  | some outputQueue =>
    let id := toInt32 surfaceId
    let gbp := outputQueue.gbp
    let s := s.look id
    if s.Taken id then (BAD_VALUE, s)
    else if outputQueue.setBuffersDimensions s.mWidth s.mHeight ≠ OK then
      (outputQueue.setBuffersDimensions s.mWidth s.mHeight, s)
    else if outputQueue.setBuffersFormat s.mFormat ≠ OK then
      (outputQueue.setBuffersFormat s.mFormat, s)
    else if gbp ∈ s.connected then (BAD_VALUE, s)
    else if outputQueue.connect ≠ OK then (outputQueue.connect, s)
    else
      let s := s.linked gbp
      if outputQueue.query.1 ≠ OK then (outputQueue.query.1, s)
      else if outputQueue.setBufferCount NUM_BUFFER_SLOTS ≠ OK then
        (outputQueue.setBufferCount NUM_BUFFER_SLOTS, s)
      else if outputQueue.allowAllocation false ≠ OK then (outputQueue.allowAllocation false, s)
      else (OK, s.register id gbp outputQueue.query.2)

/-- The loop of `connect`. -/
def addOutputs (s : State) : List (ℕ × Option Surface) → ℤ × State
  | [] => (OK, s)
  | it :: surfaces =>
    if it.2.isNone then (BAD_VALUE, s)
    else
      match s.addOutputLocked it.1 it.2 with
      | (res, s) => if res ≠ OK then (res, s) else s.addOutputs surfaces

/-- `connect` from `createBufferQueue` on. -/
def finish (s : State) (c : ConnectCall) : ℤ × State :=
  let s := { s with
    mConsumer := true
    mMaxConsumerBuffers := sizeT (s.mMaxConsumerBuffers + 1) }
  if !c.newBufferItemConsumer then (NO_MEMORY, s)
  else if !c.newSurface then (NO_MEMORY, s)
  else if c.setAsyncMode ≠ OK then (c.setAsyncMode, s)
  else (c.consumerConnect, { s with
    mWidth := c.width
    mHeight := c.height
    mFormat := c.format
    mAcquiredInputBuffers := 0 })

def connect (s : State) (c : ConnectCall) : ℤ × State :=
  if !c.consumer then (BAD_VALUE, s)
  else if 0 < s.mOutputs.keys.length ∨ s.mConsumer then (BAD_VALUE, s)
  else if 0 < s.mBuffers then (BAD_VALUE, s)
  else
    match { s with mMaxHalBuffers := c.halMaxBuffers }.addOutputs c.surfaces with
    | (res, s) => if res ≠ OK then (res, s) else s.finish c

/-- `none` when a null pointer is used. -/
def addOutput (s : State) (surfaceId : ℕ) (outputQueue : Option Surface)
    (setMaxAcquiredBufferCount : ℕ → ℤ) : Option (ℤ × State) :=
  match s.addOutputLocked surfaceId outputQueue with
  | (res, s) =>
    if res ≠ OK then some (res, s)
    else if s.mAcquiredInputBuffers < s.mMaxConsumerBuffers then
      if s.mConsumer then some (setMaxAcquiredBufferCount s.mMaxConsumerBuffers, s) else none
    else some (OK, s)

end State

/-- Nothing is left of a call: the tables, the consumer count and the connections are as before,
and a call of `connect` that would have succeeded before succeeds. -/
structure Atomic (s s' : State) : Prop where
  mOutputs : s'.mOutputs = s.mOutputs
  mOutputSlots : s'.mOutputSlots = s.mOutputSlots
  mNotifiers : s'.mNotifiers = s.mNotifiers
  mConsumerBufferCount : s'.mConsumerBufferCount = s.mConsumerBufferCount
  mMaxConsumerBuffers : s'.mMaxConsumerBuffers = s.mMaxConsumerBuffers
  connected : s'.connected = s.connected
  again : ∀ c, (s.connect c).1 = OK → (s'.connect c).1 = OK

theorem Atomic.refl (s : State) : Atomic s s := ⟨rfl, rfl, rfl, rfl, rfl, rfl, fun _ h ↦ h⟩

/-! ### One output -/

namespace Surface

/-- The connection to the producer succeeds, with all that comes before it. -/
structure Connects (q : Surface) (s : State) : Prop where
  dimensions : q.setBuffersDimensions s.mWidth s.mHeight = OK
  format : q.setBuffersFormat s.mFormat = OK
  free : q.gbp ∉ s.connected
  connect : q.connect = OK

/-- What comes after the connection succeeds. -/
structure Serves (q : Surface) : Prop where
  query : q.query.1 = OK
  setBufferCount : q.setBufferCount NUM_BUFFER_SLOTS = OK
  allowAllocation : q.allowAllocation false = OK

end Surface

namespace State

variable {s : State} {id : ℤ} {surfaceId : ℕ} {q : Surface}

theorem look_of_mem (h : id ∈ s.mOutputs) : s.look id = s := by
  unfold look emplace
  rw [if_pos h]

theorem mem_look (s : State) (id : ℤ) : id ∈ (s.look id).mOutputs :=
  AList.lookup_isSome.mp (Option.isSome_of_eq_some (lookup_emplace id none s.mOutputs))

theorem taken_look (s : State) (id : ℤ) : (s.look id).Taken id ↔ s.Taken id := by
  unfold Taken
  rw [show (s.look id).mOutputs.lookup id = _ from lookup_emplace id none s.mOutputs]
  cases s.mOutputs.lookup id <;> rfl

theorem Taken.mem (h : s.Taken id) : id ∈ s.mOutputs := by
  by_contra hid
  apply h
  rw [AList.lookup_eq_none.mpr hid]
  rfl

/-- What a call can do: refuse at once, fail at the connection or after it, or add the output. -/
theorem addOutputLocked_cases (s : State) (surfaceId : ℕ) (q : Surface) :
    (s.Taken (toInt32 surfaceId) ∧ s.addOutputLocked surfaceId (some q) = (BAD_VALUE, s)) ∨
    ¬ s.Taken (toInt32 surfaceId) ∧
      ((¬ q.Connects s ∧ ∃ res ≠ OK,
          s.addOutputLocked surfaceId (some q) = (res, s.look (toInt32 surfaceId))) ∨
        (q.Connects s ∧ ¬ q.Serves ∧ ∃ res ≠ OK,
          s.addOutputLocked surfaceId (some q) =
            (res, (s.look (toInt32 surfaceId)).linked q.gbp)) ∨
        (q.Connects s ∧ q.Serves ∧
          s.addOutputLocked surfaceId (some q) =
            (OK, ((s.look (toInt32 surfaceId)).linked q.gbp).register (toInt32 surfaceId) q.gbp
              q.query.2))) := by
  by_cases htaken : s.Taken (toInt32 surfaceId)
  · left
    refine ⟨htaken, ?_⟩
    simp only [addOutputLocked]
    rw [if_pos ((taken_look s _).mpr htaken), look_of_mem htaken.mem]
  · right
    refine ⟨htaken, ?_⟩
    have hlook := (taken_look s (toInt32 surfaceId)).not.mpr htaken
    generalize hr : s.addOutputLocked surfaceId (some q) = r
    simp only [addOutputLocked] at hr
    rw [if_neg hlook] at hr
    split at hr
    · rename_i hfail
      exact .inl ⟨fun h ↦ hfail h.dimensions, _, hfail, hr.symm⟩
    split at hr
    · rename_i hfail
      exact .inl ⟨fun h ↦ hfail h.format, _, hfail, hr.symm⟩
    split at hr
    · rename_i hfail
      exact .inl ⟨fun h ↦ h.free hfail, _, by decide, hr.symm⟩
    split at hr
    · rename_i hfail
      exact .inl ⟨fun h ↦ hfail h.connect, _, hfail, hr.symm⟩
    rename_i hd hf hfree hc
    have hconnects : q.Connects s := ⟨not_not.mp hd, not_not.mp hf, hfree, not_not.mp hc⟩
    right
    split at hr
    · rename_i hfail
      exact .inl ⟨hconnects, fun h ↦ hfail h.query, _, hfail, hr.symm⟩
    split at hr
    · rename_i hfail
      exact .inl ⟨hconnects, fun h ↦ hfail h.setBufferCount, _, hfail, hr.symm⟩
    split at hr
    · rename_i hfail
      exact .inl ⟨hconnects, fun h ↦ hfail h.allowAllocation, _, hfail, hr.symm⟩
    rename_i hq hb ha
    exact .inr ⟨hconnects, ⟨not_not.mp hq, not_not.mp hb, not_not.mp ha⟩, hr.symm⟩

theorem mem_look_of_mem {k : ℤ} (h : k ∈ s.mOutputs) (id : ℤ) : k ∈ (s.look id).mOutputs := by
  by_cases hk : k = id
  · rw [hk]
    exact mem_look s id
  · rw [← AList.lookup_isSome,
      show (s.look id).mOutputs.lookup k = _ from lookup_emplace_ne hk none s.mOutputs]
    exact AList.lookup_isSome.mpr h

/-- No call removes an entry. -/
theorem mem_addOutputLocked {k : ℤ} (h : k ∈ s.mOutputs) (surfaceId : ℕ) (q : Surface) :
    k ∈ (s.addOutputLocked surfaceId (some q)).2.mOutputs := by
  have hlook := mem_look_of_mem h (toInt32 surfaceId)
  obtain ⟨-, hr⟩ | ⟨-, ⟨-, res, -, hr⟩ | ⟨-, -, res, -, hr⟩ | ⟨-, -, hr⟩⟩ :=
    addOutputLocked_cases s surfaceId q
  · rw [hr]
    exact h
  · rw [hr]
    exact hlook
  · rw [hr]
    exact hlook
  · rw [hr]
    exact (AList.mem_insert _).mpr (.inr hlook)

/-- A surface that is looked up has an entry afterwards, whatever fails. -/
theorem mem_addOutputLocked_self (s : State) (surfaceId : ℕ) (q : Surface) :
    toInt32 surfaceId ∈ (s.addOutputLocked surfaceId (some q)).2.mOutputs := by
  obtain ⟨htaken, hr⟩ | ⟨-, ⟨-, res, -, hr⟩ | ⟨-, -, res, -, hr⟩ | ⟨-, -, hr⟩⟩ :=
    addOutputLocked_cases s surfaceId q
  · rw [hr]
    exact htaken.mem
  · rw [hr]
    exact mem_look s _
  · rw [hr]
    exact mem_look s _
  · rw [hr]
    exact (AList.mem_insert _).mpr (.inl rfl)

/-! ### The outputs of a call -/

/-- Every surface can be added after the ones before it. -/
structure Acceptable (s : State) (surfaces : List (ℕ × Option Surface)) : Prop where
  works : ∀ it ∈ surfaces, ∃ q, it.2 = some q ∧ q.Connects s ∧ q.Serves
  free : ∀ it ∈ surfaces, ¬ s.Taken (toInt32 it.1)
  ids : (surfaces.map fun it ↦ toInt32 it.1).Nodup
  producers : (surfaces.filterMap fun it ↦ it.2.map Surface.gbp).Nodup

theorem taken_added (s : State) (id k : ℤ) (gbp : ℕ) (n : ℤ) :
    (((s.look id).linked gbp).register id gbp n).Taken k ↔ k = id ∨ s.Taken k := by
  unfold Taken
  by_cases hk : k = id
  · subst hk
    rw [show (((s.look k).linked gbp).register k gbp n).mOutputs.lookup k = _ from
      AList.lookup_insert _]
    exact ⟨fun _ ↦ .inl rfl, fun _ ↦ Option.some_ne_none gbp⟩
  · rw [show (((s.look id).linked gbp).register id gbp n).mOutputs.lookup k = _ from
        AList.lookup_insert_ne hk,
      show ((s.look id).linked gbp).mOutputs.lookup k = _ from
        lookup_emplace_ne hk none s.mOutputs]
    exact ⟨.inr, fun h ↦ h.resolve_left hk⟩

theorem connects_added (s : State) (id : ℤ) (q q' : Surface) (n : ℤ) :
    q'.Connects (((s.look id).linked q.gbp).register id q.gbp n) ↔
      q'.Connects s ∧ q'.gbp ≠ q.gbp := by
  constructor
  · intro h
    have hfree : q'.gbp ∉ insert q.gbp s.connected := h.free
    rw [Finset.mem_insert, not_or] at hfree
    exact ⟨⟨h.dimensions, h.format, hfree.2, h.connect⟩, hfree.1⟩
  · intro h
    refine ⟨h.1.dimensions, h.1.format, ?_, h.1.connect⟩
    show q'.gbp ∉ insert q.gbp s.connected
    rw [Finset.mem_insert, not_or]
    exact ⟨h.2, h.1.free⟩

theorem acceptable_cons (s : State) (surfaceId : ℕ) (q : Surface)
    (surfaces : List (ℕ × Option Surface)) :
    s.Acceptable ((surfaceId, some q) :: surfaces) ↔
      ¬ s.Taken (toInt32 surfaceId) ∧ q.Connects s ∧ q.Serves ∧
        (((s.look (toInt32 surfaceId)).linked q.gbp).register (toInt32 surfaceId) q.gbp
          q.query.2).Acceptable surfaces := by
  constructor
  · intro h
    obtain ⟨q', hq, hconnects, hserves⟩ := h.works _ List.mem_cons_self
    cases hq
    have hids := h.ids
    have hproducers := h.producers
    rw [List.map_cons, List.nodup_cons] at hids
    rw [List.filterMap_cons, Option.map_some, List.nodup_cons] at hproducers
    refine ⟨h.free (surfaceId, some q) List.mem_cons_self, hconnects, hserves, ?_, ?_, hids.2,
      hproducers.2⟩
    · intro it hit
      obtain ⟨q', hq, hc, hs⟩ := h.works it (List.mem_cons_of_mem _ hit)
      refine ⟨q', hq, (connects_added s _ q q' _).mpr ⟨hc, fun he ↦ hproducers.1 ?_⟩, hs⟩
      exact List.mem_filterMap.mpr ⟨it, hit, by rw [hq, Option.map_some, he]⟩
    · intro it hit
      rw [taken_added, not_or]
      refine ⟨fun he ↦ hids.1 ?_, h.free it (List.mem_cons_of_mem _ hit)⟩
      exact List.mem_map.mpr ⟨it, hit, he⟩
  · intro h
    obtain ⟨htaken, hconnects, hserves, hrest⟩ := h
    refine ⟨?_, ?_, ?_, ?_⟩
    · intro it hit
      obtain rfl | hit := List.mem_cons.mp hit
      · exact ⟨q, rfl, hconnects, hserves⟩
      · obtain ⟨q', hq, hc, hs⟩ := hrest.works it hit
        exact ⟨q', hq, ((connects_added s _ q q' _).mp hc).1, hs⟩
    · intro it hit
      obtain rfl | hit := List.mem_cons.mp hit
      · exact htaken
      · exact fun h ↦ hrest.free it hit ((taken_added s _ _ _ _).mpr (.inr h))
    · rw [List.map_cons, List.nodup_cons]
      refine ⟨fun hmem ↦ ?_, hrest.ids⟩
      obtain ⟨it, hit, he⟩ := List.mem_map.mp hmem
      exact hrest.free it hit ((taken_added s _ _ _ _).mpr (.inl he))
    · rw [List.filterMap_cons, Option.map_some, List.nodup_cons]
      refine ⟨fun hmem ↦ ?_, hrest.producers⟩
      obtain ⟨it, hit, he⟩ := List.mem_filterMap.mp hmem
      obtain ⟨q', hq, hc, -⟩ := hrest.works it hit
      rw [hq, Option.map_some, Option.some.injEq] at he
      exact ((connects_added s _ q q' _).mp hc).2 he

theorem addOutputs_cons (s : State) (surfaceId : ℕ) (q : Surface)
    (surfaces : List (ℕ × Option Surface)) :
    s.addOutputs ((surfaceId, some q) :: surfaces) =
      if (s.addOutputLocked surfaceId (some q)).1 ≠ OK then s.addOutputLocked surfaceId (some q)
      else (s.addOutputLocked surfaceId (some q)).2.addOutputs surfaces := rfl

/-- The loop succeeds when every surface can be added. -/
theorem addOutputs_ok_iff (s : State) (surfaces : List (ℕ × Option Surface)) :
    (s.addOutputs surfaces).1 = OK ↔ s.Acceptable surfaces := by
  induction surfaces generalizing s with
  | nil =>
    refine iff_of_true rfl ⟨?_, ?_, List.nodup_nil, List.nodup_nil⟩
    · intro it hit
      cases hit
    · intro it hit
      cases hit
  | cons it surfaces ih =>
    obtain ⟨surfaceId, outputQueue⟩ := it
    cases outputQueue with
    | none =>
      refine iff_of_false (show BAD_VALUE ≠ OK by decide) fun h ↦ ?_
      obtain ⟨q, hq, -⟩ := h.works _ List.mem_cons_self
      cases hq
    | some q =>
      rw [acceptable_cons, addOutputs_cons]
      obtain ⟨htaken, hr⟩ | ⟨htaken, ⟨hc, res, hres, hr⟩ | ⟨-, hs, res, hres, hr⟩ |
        ⟨hc, hs, hr⟩⟩ := addOutputLocked_cases s surfaceId q
      · rw [hr, if_pos (show BAD_VALUE ≠ OK by decide)]
        exact iff_of_false (show BAD_VALUE ≠ OK by decide) fun h ↦ h.1 htaken
      · rw [hr, if_pos hres]
        exact iff_of_false hres fun h ↦ hc h.2.1
      · rw [hr, if_pos hres]
        exact iff_of_false hres fun h ↦ hs h.2.2.1
      · rw [hr, if_neg (not_not.mpr rfl), ih]
        exact ⟨fun h ↦ ⟨htaken, hc, hs, h⟩, fun h ↦ h.2.2.2⟩

theorem mem_addOutputs {k : ℤ} (h : k ∈ s.mOutputs) (surfaces : List (ℕ × Option Surface)) :
    k ∈ (s.addOutputs surfaces).2.mOutputs := by
  induction surfaces generalizing s with
  | nil => exact h
  | cons it surfaces ih =>
    obtain ⟨surfaceId, outputQueue⟩ := it
    cases outputQueue with
    | none => exact h
    | some q =>
      have hmem := mem_addOutputLocked h surfaceId q
      rw [addOutputs_cons]
      split
      · exact hmem
      · exact ih hmem

theorem mem_addOutputs_self (s : State) (surfaceId : ℕ) (q : Surface)
    (surfaces : List (ℕ × Option Surface)) :
    toInt32 surfaceId ∈ (s.addOutputs ((surfaceId, some q) :: surfaces)).2.mOutputs := by
  have hmem := mem_addOutputLocked_self s surfaceId q
  rw [addOutputs_cons]
  split
  · exact hmem
  · exact mem_addOutputs hmem surfaces

/-! ### connect -/

/-- The guards of `connect` let the call through. -/
structure Admits (s : State) (c : ConnectCall) : Prop where
  consumer : c.consumer = true
  mOutputs : ∀ id, id ∉ s.mOutputs
  mConsumer : s.mConsumer = false
  mBuffers : s.mBuffers = 0

end State

/-- What comes after the surfaces have been added succeeds. -/
structure ConnectCall.Finishes (c : ConnectCall) : Prop where
  newBufferItemConsumer : c.newBufferItemConsumer = true
  newSurface : c.newSurface = true
  setAsyncMode : c.setAsyncMode = OK
  consumerConnect : c.consumerConnect = OK

namespace State

variable {s s' : State} {c : ConnectCall}

/-- The state in which `connect` adds the surfaces. -/
def begun (s : State) (c : ConnectCall) : State := { s with mMaxHalBuffers := c.halMaxBuffers }

theorem connect_of_not_admits (h : ¬ s.Admits c) : s.connect c = (BAD_VALUE, s) := by
  unfold connect
  split
  · rfl
  split
  · rfl
  split
  · rfl
  rename_i hconsumer hfresh hbuffers
  rw [not_or] at hfresh
  refine absurd ⟨?_, fun id hid ↦ ?_, ?_, ?_⟩ h
  · simpa using hconsumer
  · exact hfresh.1 (List.length_pos_of_mem hid)
  · simpa using hfresh.2
  · omega

theorem connect_of_admits (h : s.Admits c) :
    s.connect c =
      if ((s.begun c).addOutputs c.surfaces).1 ≠ OK then (s.begun c).addOutputs c.surfaces
      else ((s.begun c).addOutputs c.surfaces).2.finish c := by
  have hfresh : ¬(0 < s.mOutputs.keys.length ∨ s.mConsumer = true) := by
    rw [not_or]
    refine ⟨fun hpos ↦ ?_, ?_⟩
    · obtain ⟨id, hid⟩ := List.exists_mem_of_length_pos hpos
      exact h.mOutputs id hid
    · rw [h.mConsumer]
      exact Bool.false_ne_true
  have hbuffers : ¬ 0 < s.mBuffers := by
    rw [h.mBuffers]
    exact lt_irrefl 0
  unfold connect
  rw [if_neg (by rw [h.consumer]; decide), if_neg hfresh, if_neg hbuffers]
  rfl

theorem finish_mConsumer (s : State) (c : ConnectCall) : (s.finish c).2.mConsumer = true := by
  simp only [finish]
  split
  · rfl
  split
  · rfl
  split <;> rfl

theorem finish_ok_iff (s : State) (c : ConnectCall) : (s.finish c).1 = OK ↔ c.Finishes := by
  have hmemory : NO_MEMORY ≠ OK := by decide
  simp only [finish]
  split
  · rename_i hc
    exact iff_of_false hmemory fun h ↦ (by rw [h.newBufferItemConsumer] at hc; cases hc)
  split
  · rename_i hs
    exact iff_of_false hmemory fun h ↦ (by rw [h.newSurface] at hs; cases hs)
  split
  · rename_i ha
    exact iff_of_false ha fun h ↦ ha h.setAsyncMode
  · rename_i hc hs ha
    refine ⟨fun h ↦ ⟨?_, ?_, not_not.mp ha, h⟩, fun h ↦ h.consumerConnect⟩
    · simpa using hc
    · simpa using hs

theorem acceptable_begun (s : State) (c : ConnectCall) (surfaces : List (ℕ × Option Surface)) :
    (s.begun c).Acceptable surfaces ↔ s.Acceptable surfaces := by
  constructor
  · intro h
    refine ⟨fun it hit ↦ ?_, h.free, h.ids, h.producers⟩
    obtain ⟨q, hq, hc, hs⟩ := h.works it hit
    exact ⟨q, hq, ⟨hc.dimensions, hc.format, hc.free, hc.connect⟩, hs⟩
  · intro h
    refine ⟨fun it hit ↦ ?_, h.free, h.ids, h.producers⟩
    obtain ⟨q, hq, hc, hs⟩ := h.works it hit
    exact ⟨q, hq, ⟨hc.dimensions, hc.format, hc.free, hc.connect⟩, hs⟩

theorem connect_ok_iff (s : State) (c : ConnectCall) :
    (s.connect c).1 = OK ↔ s.Admits c ∧ s.Acceptable c.surfaces ∧ c.Finishes := by
  by_cases h : s.Admits c
  · rw [connect_of_admits h, ← acceptable_begun s c, ← addOutputs_ok_iff]
    split
    · rename_i hfail
      exact iff_of_false hfail fun h ↦ hfail h.2.1
    · rename_i hok
      rw [finish_ok_iff]
      exact ⟨fun hf ↦ ⟨h, not_not.mp hok, hf⟩, fun h ↦ h.2.2⟩
  · rw [connect_of_not_admits h]
    exact iff_of_false (show BAD_VALUE ≠ OK by decide) fun h' ↦ h h'.1

/-- What `connect` leaves in `mMaxHalBuffers` does not matter for the next call. -/
theorem atomic_begun (s : State) (c : ConnectCall) : Atomic s (s.begun c) := by
  refine ⟨rfl, rfl, rfl, rfl, rfl, rfl, fun c' h ↦ ?_⟩
  rw [connect_ok_iff] at h ⊢
  obtain ⟨hadmits, hacceptable, hfinishes⟩ := h
  refine ⟨⟨hadmits.consumer, hadmits.mOutputs, hadmits.mConsumer, hadmits.mBuffers⟩, ?_, hfinishes⟩
  exact (acceptable_begun s c _).mpr hacceptable

/-- A call with no surfaces. -/
def bare : ConnectCall := ⟨[], List.nodup_nil, 0, 0, 0, 0, true, true, true, OK, OK⟩

theorem not_atomic_of_mConsumer (h : s.Admits c) (hc : s'.mConsumer = true) : ¬ Atomic s s' := by
  intro hatomic
  have hbare : (s.connect bare).1 = OK := by
    rw [connect_ok_iff]
    refine ⟨⟨rfl, h.mOutputs, h.mConsumer, h.mBuffers⟩, ?_, ⟨rfl, rfl, rfl, rfl⟩⟩
    exact (addOutputs_ok_iff s []).mp rfl
  have hagain := (connect_ok_iff s' bare).mp (hatomic.again bare hbare)
  rw [hagain.1.mConsumer] at hc
  cases hc

/-- A surface that is not null leaves an entry when the call fails. -/
theorem not_atomic_of_surface (h : s.Admits c) {surfaceId : ℕ} {q : Surface}
    {surfaces : List (ℕ × Option Surface)} (hc : c.surfaces = (surfaceId, some q) :: surfaces)
    (hfail : ((s.begun c).addOutputs c.surfaces).1 ≠ OK) : ¬ Atomic s (s.connect c).2 := by
  intro hatomic
  have hentry := mem_addOutputs_self (s.begun c) surfaceId q surfaces
  rw [connect_of_admits h, if_pos hfail, hc] at hatomic
  rw [hatomic.mOutputs] at hentry
  exact h.mOutputs _ hentry

/-- `connect` is atomic when it is refused, when the first surface is null, and when nothing
fails. -/
theorem connect_atomic_iff (s : State) (c : ConnectCall) :
    ((s.connect c).1 ≠ OK → Atomic s (s.connect c).2) ↔
      ¬ s.Admits c ∨ (∃ surfaceId surfaces, c.surfaces = (surfaceId, none) :: surfaces) ∨
        (s.Acceptable c.surfaces ∧ c.Finishes) := by
  by_cases h : s.Admits c
  · constructor
    · intro hatomic
      right
      by_cases hloop : ((s.begun c).addOutputs c.surfaces).1 = OK
      · have hacceptable := (acceptable_begun s c _).mp ((addOutputs_ok_iff _ _).mp hloop)
        by_cases hok : (s.connect c).1 = OK
        · exact .inr ((connect_ok_iff s c).mp hok).2
        · have hconsumer : (s.connect c).2.mConsumer = true := by
            rw [connect_of_admits h, if_neg (not_not.mpr hloop)]
            exact finish_mConsumer _ c
          exact absurd (hatomic hok) (not_atomic_of_mConsumer h hconsumer)
      · have hok : (s.connect c).1 ≠ OK := by
          rw [connect_of_admits h, if_pos hloop]
          exact hloop
        cases hsurfaces : c.surfaces with
        | nil =>
          rw [hsurfaces] at hloop
          exact absurd rfl hloop
        | cons it surfaces =>
          obtain ⟨surfaceId, _ | q⟩ := it
          · exact .inl ⟨surfaceId, surfaces, rfl⟩
          · exact absurd (hatomic hok) (not_atomic_of_surface h hsurfaces hloop)
    · intro hcond hfail
      obtain hadmits | ⟨surfaceId, surfaces, hsurfaces⟩ | ⟨hacceptable, hfinishes⟩ := hcond
      · exact absurd h hadmits
      · rw [connect_of_admits h, hsurfaces]
        exact atomic_begun s c
      · exact absurd ((connect_ok_iff s c).mpr ⟨h, hacceptable, hfinishes⟩) hfail
  · rw [connect_of_not_admits h]
    exact iff_of_true (fun _ ↦ Atomic.refl s) (.inl h)

/-! ### addOutput -/

theorem not_atomic_of_linked {q : Surface} (h : q.Connects s)
    (hc : s'.connected = insert q.gbp s.connected) : ¬ Atomic s s' := by
  intro hatomic
  have hmem := Finset.mem_insert_self q.gbp s.connected
  rw [← hc, hatomic.connected] at hmem
  exact h.free hmem

/-- The input queue takes the consumer count that an added output brings. -/
def Raises (s : State) (q : Surface) (setMaxAcquiredBufferCount : ℕ → ℤ) : Prop :=
  s.mAcquiredInputBuffers < sizeT (s.mMaxConsumerBuffers + q.query.2) →
    s.mConsumer = true ∧
      setMaxAcquiredBufferCount (sizeT (s.mMaxConsumerBuffers + q.query.2)) = OK

/-- An output that has been added stays when the consumer count is refused. -/
theorem addOutput_added {q : Surface} (hc : q.Connects s)
    (hr : s.addOutputLocked surfaceId (some q) =
      (OK, ((s.look (toInt32 surfaceId)).linked q.gbp).register (toInt32 surfaceId) q.gbp
        q.query.2)) (setMaxAcquiredBufferCount : ℕ → ℤ) :
    (∃ r, s.addOutput surfaceId (some q) setMaxAcquiredBufferCount = some r ∧
        (r.1 ≠ OK → Atomic s r.2)) ↔ s.Raises q setMaxAcquiredBufferCount := by
  unfold addOutput Raises
  rw [hr]
  dsimp only
  rw [if_neg (not_not.mpr rfl)]
  split
  · rename_i hlt
    have hraise : s.mAcquiredInputBuffers < sizeT (s.mMaxConsumerBuffers + q.query.2) := hlt
    rw [forall_prop_of_true hraise]
    split
    · rename_i hconsumer
      have hs : s.mConsumer = true := hconsumer
      rw [and_iff_right hs]
      simp only [Option.some.injEq, exists_eq_left']
      constructor
      · intro hatomic
        by_contra hres
        exact not_atomic_of_linked hc rfl (hatomic hres)
      · exact fun hok hres ↦ absurd hok hres
    · rename_i hconsumer
      refine iff_of_false ?_ fun h ↦ hconsumer h.1
      intro h
      obtain ⟨r, hr, -⟩ := h
      cases hr
  · rename_i hlt
    exact iff_of_true ⟨_, rfl, fun h ↦ absurd rfl h⟩ fun h ↦ absurd h hlt

/-- `addOutput` is atomic when the surface is null or there is an output for it, when it fails
before the connection and the table has an empty entry for it, and when nothing fails. -/
theorem addOutput_atomic_iff (s : State) (surfaceId : ℕ) (outputQueue : Option Surface)
    (setMaxAcquiredBufferCount : ℕ → ℤ) :
    (∃ r, s.addOutput surfaceId outputQueue setMaxAcquiredBufferCount = some r ∧
        (r.1 ≠ OK → Atomic s r.2)) ↔
      outputQueue = none ∨ ∃ q, outputQueue = some q ∧
        (s.Taken (toInt32 surfaceId) ∨
          (toInt32 surfaceId ∈ s.mOutputs ∧ ¬ q.Connects s) ∨
          (q.Connects s ∧ q.Serves ∧ s.Raises q setMaxAcquiredBufferCount)) := by
  cases outputQueue with
  | none => exact iff_of_true ⟨_, rfl, fun _ ↦ Atomic.refl s⟩ (.inl rfl)
  | some q =>
    rw [or_iff_right (Option.some_ne_none q)]
    simp only [Option.some.injEq, exists_eq_left']
    obtain ⟨htaken, hr⟩ | ⟨htaken, ⟨hc, res, hres, hr⟩ | ⟨hc, hs, res, hres, hr⟩ |
      ⟨hc, hs, hr⟩⟩ := addOutputLocked_cases s surfaceId q
    · unfold addOutput
      rw [hr]
      exact iff_of_true ⟨_, rfl, fun _ ↦ Atomic.refl s⟩ (.inl htaken)
    · unfold addOutput
      simp only [hr, if_pos hres, Option.some.injEq, exists_eq_left']
      constructor
      · intro hatomic
        have hentry := mem_look s (toInt32 surfaceId)
        rw [(hatomic hres).mOutputs] at hentry
        exact .inr (.inl ⟨hentry, hc⟩)
      · intro hcond _
        obtain h | ⟨hentry, -⟩ | ⟨h, -⟩ := hcond
        · exact absurd h htaken
        · rw [look_of_mem hentry]
          exact Atomic.refl s
        · exact absurd h hc
    · unfold addOutput
      simp only [hr, if_pos hres, Option.some.injEq, exists_eq_left']
      refine iff_of_false (fun hatomic ↦ not_atomic_of_linked hc rfl (hatomic hres)) ?_
      intro hcond
      obtain h | ⟨-, h⟩ | ⟨-, h, -⟩ := hcond
      · exact htaken h
      · exact h hc
      · exact hs h
    · rw [addOutput_added hc hr, or_iff_right htaken, or_iff_right fun h ↦ h.2 hc,
        and_iff_right hc, and_iff_right hs]

/-- When a call of `connect` or `addOutput` that fails leaves nothing behind. -/
theorem atomic_iff (s : State) :
    (∀ c, ((s.connect c).1 ≠ OK → Atomic s (s.connect c).2) ↔
      ¬ s.Admits c ∨ (∃ surfaceId surfaces, c.surfaces = (surfaceId, none) :: surfaces) ∨
        (s.Acceptable c.surfaces ∧ c.Finishes)) ∧
    ∀ surfaceId outputQueue setMaxAcquiredBufferCount,
      (∃ r, s.addOutput surfaceId outputQueue setMaxAcquiredBufferCount = some r ∧
          (r.1 ≠ OK → Atomic s r.2)) ↔
        outputQueue = none ∨ ∃ q, outputQueue = some q ∧
          (s.Taken (toInt32 surfaceId) ∨
            (toInt32 surfaceId ∈ s.mOutputs ∧ ¬ q.Connects s) ∨
            (q.Connects s ∧ q.Serves ∧ s.Raises q setMaxAcquiredBufferCount)) :=
  ⟨connect_atomic_iff s, addOutput_atomic_iff s⟩

/-- The format of the only surface is refused: its empty entry stays, and a call with a surface
that would have been accepted finds the splitter connected. -/
theorem not_atomic_format : ∃ c valid : ConnectCall,
    (({} : State).connect c).1 ≠ OK ∧ ¬ Atomic {} (({} : State).connect c).2 ∧
      (({} : State).connect valid).1 = OK ∧
      ((({} : State).connect c).2.connect valid).1 = BAD_VALUE := by
  refine ⟨⟨[(0, some { gbp := 1, setBuffersFormat := fun _ ↦ BAD_VALUE })], List.nodup_singleton 0,
    4, 640, 480, 1, true, true, true, OK, OK⟩,
    ⟨[(0, some { gbp := 1 })], List.nodup_singleton 0, 4, 640, 480, 1, true, true, true, OK, OK⟩,
    by decide, fun h ↦ ?_, by decide, by decide⟩
  exact absurd (congrArg AList.keys h.mOutputs) (by decide)

end State

end VirtualCamera.Splitter.Connection
