import Mathlib.Data.List.Nodup
import VirtualCamera.ClientManager.Model

namespace VirtualCamera.ClientManager

open Library.Transition

variable {P K : Type} [DecidableEq K] {clients : P → ClientDescriptor K}

namespace State

variable {s s' : State P}

theorem not_conflicting {client i : P} (h : conflicting clients client i = false) :
    (clients i).mKey ≠ (clients client).mKey ∧
      (clients client).mKey ∉ (clients i).mConflicting ∧
      (clients i).mKey ∉ (clients client).mConflicting := by
  simp only [conflicting, ClientDescriptor.isConflicting, Bool.or_eq_false_iff,
    decide_eq_false_iff_not] at h
  obtain ⟨⟨hkey, _, hi⟩, _, hc⟩ := h
  exact ⟨hkey, fun hm ↦ by simp [hm] at hi, fun hm ↦ by simp [hm] at hc⟩

/-! ### What would be evicted -/

/-- The eviction list follows the active clients, and no client that conflicts is left out. -/
structure Evicts (clients : P → ClientDescriptor K) (client : P) (l evicted : List P) : Prop where
  sublist : evicted.Sublist l
  conflicting : ∀ i ∈ l, conflicting clients client i = true → i ∈ evicted

theorem Evicts.cons {client i : P} {l evicted : List P} (h : Evicts clients client l evicted) :
    Evicts clients client (i :: l) (i :: evicted) := by
  refine ⟨h.sublist.cons_cons i, fun j hj hc ↦ ?_⟩
  obtain rfl | hj := List.mem_cons.mp hj
  · exact List.mem_cons_self
  · exact List.mem_cons_of_mem _ (h.conflicting j hj hc)

theorem Evicts.skip {client i : P} {l evicted : List P} (h : Evicts clients client l evicted)
    (hi : State.conflicting clients client i = false) :
    Evicts clients client (i :: l) evicted := by
  refine ⟨h.sublist.cons i, fun j hj hc ↦ ?_⟩
  obtain rfl | hj := List.mem_cons.mp hj
  · rw [hi] at hc
    cases hc
  · exact h.conflicting j hj hc

theorem evictLoop_spec {client : P} {l : List P} {result result' : List P × ℤ}
    (h : s.evictLoop clients client l result = some result') :
    ∃ evicted, result'.1 = result.1 ++ evicted ∧ Evicts clients client l evicted := by
  induction l generalizing result with
  | nil =>
    cases h
    exact ⟨[], (List.append_nil _).symm, List.Sublist.refl _,
      fun _ hm ↦ absurd hm List.not_mem_nil⟩
  | cons i l ih =>
    have htake : ∀ totalCost, s.evictLoop clients client l (result.1 ++ [i], totalCost) =
        some result' →
        ∃ evicted, result'.1 = result.1 ++ evicted ∧ Evicts clients client (i :: l) evicted := by
      intro totalCost he
      obtain ⟨evicted, hr, hev⟩ := ih he
      exact ⟨i :: evicted, by rw [hr, List.append_assoc, List.singleton_append], hev.cons⟩
    simp only [evictLoop] at h
    split at h
    · cases h
    split at h
    · split at h
      · exact htake _ h
      · cases h
    split at h
    · exact htake _ h
    · rename_i hstay
      obtain ⟨evicted, hr, hev⟩ := ih h
      refine ⟨evicted, hr, hev.skip ?_⟩
      rw [Bool.or_eq_true, not_or] at hstay
      simpa using hstay.1

theorem wouldEvict_spec (clients : P → ClientDescriptor K) (s : State P) (client : P) :
    s.wouldEvict clients client = [client] ∨
      Evicts clients client s.mClients (s.wouldEvict clients client) := by
  unfold wouldEvict
  dsimp only
  split
  · exact .inl rfl
  · rename_i hloop
    obtain ⟨evicted, hr, hev⟩ := evictLoop_spec hloop
    split
    · exact .inl rfl
    · rw [List.nil_append] at hr
      obtain rfl := hr
      exact .inr hev

/-! ### The second pass -/

theorem eraseEvicted_sublist (clients : P → ClientDescriptor K) (evicted l : List P) :
    ((eraseEvicted clients evicted l).1 ++ (eraseEvicted clients evicted l).2).Sublist l := by
  induction l generalizing evicted with
  | nil => cases evicted <;> exact List.Sublist.refl _
  | cons cur l ih =>
    cases evicted with
    | nil => exact List.Sublist.refl _
    | cons i evicted =>
      simp only [eraseEvicted]
      split
      · exact (ih evicted).cons cur
      · exact (ih (i :: evicted)).cons_cons cur

/-- With keys that tell the clients apart, the cursor meets every client of the list. -/
theorem eraseEvicted_disjoint {evicted l : List P} (hk : (l.map fun p ↦ (clients p).mKey).Nodup)
    (hsub : evicted.Sublist l) :
    ∀ p ∈ (eraseEvicted clients evicted l).1 ++ (eraseEvicted clients evicted l).2,
      p ∉ evicted := by
  induction l generalizing evicted with
  | nil =>
    cases hsub
    exact fun _ _ ↦ List.not_mem_nil
  | cons cur l ih =>
    rw [List.map_cons, List.nodup_cons] at hk
    have hout : ∀ p ∈ l, (clients cur).mKey ≠ (clients p).mKey :=
      fun p hp hc ↦ hk.1 (hc ▸ List.mem_map_of_mem hp)
    cases evicted with
    | nil => exact fun _ _ ↦ List.not_mem_nil
    | cons i evicted =>
      simp only [eraseEvicted]
      cases hsub with
      | cons _ hsub =>
        -- the cursor stays: what it points at comes later
        rw [if_neg (hout i (hsub.subset List.mem_cons_self))]
        intro p hp
        obtain rfl | hp := List.mem_cons.mp hp
        · exact fun hc ↦ hout p (hsub.subset hc) rfl
        · exact ih hk.2 hsub p hp
      | cons_cons _ hsub =>
        rw [if_pos rfl]
        intro p hp hc
        have hl := (eraseEvicted_sublist clients evicted l).subset hp
        obtain rfl | hc := List.mem_cons.mp hc
        · exact hout p hl rfl
        · exact ih hk.2 hsub p hp hc

/-! ### Compatible clients -/

/-- The active clients have different keys, and none lists the key of another. -/
structure Compatible (clients : P → ClientDescriptor K) (s : State P) : Prop where
  keys : (s.mClients.map fun p ↦ (clients p).mKey).Nodup
  conflicts : ∀ p ∈ s.mClients, ∀ q ∈ s.mClients, p ≠ q →
    (clients q).mKey ∉ (clients p).mConflicting

omit [DecidableEq K] in
theorem Compatible.sublist (h : s.Compatible clients) (hs : s'.mClients.Sublist s.mClients) :
    s'.Compatible clients :=
  ⟨(hs.map _).nodup h.keys, fun p hp q hq ↦ h.conflicts p (hs.subset hp) q (hs.subset hq)⟩

theorem evict_mClients (clients : P → ClientDescriptor K) (s : State P) (evicted : List P) (beyond : P → Bool) :
    (s.evict clients evicted beyond).mClients.Sublist
      ((eraseEvicted clients evicted s.mClients).1 ++
        (eraseEvicted clients evicted s.mClients).2) := by
  cases evicted with
  | nil =>
    cases hl : s.mClients with
    | nil => simp [evict, hl]
    | cons i l => simp [evict, eraseEvicted, hl]
  | cons i evicted => exact List.filter_sublist.append_left _

theorem Compatible.add (h : s.Compatible clients) {client : P}
    (hc : ∀ i ∈ s.mClients, conflicting clients client i = false) :
    (s.add client).Compatible clients := by
  have hout : client ∉ s.mClients := fun hm ↦ (not_conflicting (hc client hm)).1 rfl
  refine ⟨?_, fun p hp q hq hne ↦ ?_⟩
  · simp only [State.add, List.map_append, List.map_cons, List.map_nil]
    refine List.nodup_append.mpr ⟨h.keys, List.nodup_singleton _, fun key hkey key' hkey' ↦ ?_⟩
    obtain ⟨i, hi, rfl⟩ := List.mem_map.mp hkey
    rw [List.mem_singleton.mp hkey']
    exact (not_conflicting (hc i hi)).1
  · obtain hp | hp := List.mem_append.mp hp <;> obtain hq | hq := List.mem_append.mp hq
    · exact h.conflicts p hp q hq hne
    · rw [List.mem_singleton.mp hq]
      exact (not_conflicting (hc p hp)).2.1
    · rw [List.mem_singleton.mp hp]
      exact (not_conflicting (hc q hq)).2.2
    · exact absurd ((List.mem_singleton.mp hp).trans (List.mem_singleton.mp hq).symm) hne

variable [DecidableEq P]

/-- A client that is added is the first of the clients it would evict, or comes in once they are
gone. -/
theorem Compatible.addAndEvict (h : s.Compatible clients) (client : Option P)
    (beyond : P → Bool) : (s.addAndEvict clients client beyond).2.Compatible clients := by
  cases client with
  | none => exact h
  | some client =>
    simp only [State.addAndEvict]
    split
    · exact h
    · rename_i hfirst
      obtain he | hev := wouldEvict_spec clients s client
      · refine absurd ?_ hfirst
        simp only [wouldEvictLocked, he]
        rfl
      · have hsub := evict_mClients clients s (s.wouldEvict clients client) beyond
        have hall := eraseEvicted_sublist clients (s.wouldEvict clients client) s.mClients
        refine (h.sublist (hsub.trans hall)).add fun i hi ↦ ?_
        have hout := eraseEvicted_disjoint h.keys hev.sublist i (hsub.subset hi)
        cases hc : conflicting clients client i with
        | false => rfl
        | true => exact absurd (hev.conflicting i ((hsub.trans hall).subset hi) hc) hout

theorem Compatible.step {l : Label P K} (h : s.Compatible clients) :
    (s.step clients l).Compatible clients := by
  cases l with
  | addAndEvict client beyond => exact h.addAndEvict client beyond
  | updatePriorities ownerPriorityList => exact ⟨h.keys, h.conflicts⟩
  | removeAll => exact h.sublist (List.nil_sublist _)
  | removeKey key => exact h.sublist List.filter_sublist
  | remove value => exact h.sublist List.filter_sublist

/-- A client is rejected when it is the first of those that are reported as evicted; one that is
not active is then the only one. -/
def Rejected (clients : P → ClientDescriptor K) (s : State P) (client : Option P) : Prop :=
  (s.wouldEvictLocked clients client false).head? = some client ∨
    client ∈ s.wouldEvictLocked clients client false ∧ ∀ p ∈ s.mClients, some p ≠ client

theorem addAndEvict_rejected {client : Option P} (h : s.Rejected clients client)
    (beyond : P → Bool) : (s.addAndEvict clients client beyond).2 = s := by
  cases client with
  | none => rfl
  | some client =>
    have hfirst : (s.wouldEvictLocked clients (some client) false).head? = some (some client) := by
      obtain hfirst | ⟨hm, hout⟩ := h
      · exact hfirst
      · obtain he | hev := wouldEvict_spec clients s client
        · simp only [wouldEvictLocked, he]
          rfl
        · obtain ⟨p, hp, he⟩ := List.mem_map.mp hm
          exact absurd he (hout p (hev.sublist.subset hp))
    simp only [State.addAndEvict]
    rw [if_pos hfirst]

theorem clients_compatible {mMaxCost : ℤ} {priority : P → ClientPriority}
    (h : Reachable (Step clients) (create mMaxCost priority) s) :
    s.Compatible clients ∧ ∀ client beyond, s.Rejected clients client →
      (s.addAndEvict clients client beyond).1 = s.wouldEvictLocked clients client false ∧
        (s.addAndEvict clients client beyond).2 = s := by
  refine ⟨h.invariant (P := fun s ↦ s.Compatible clients) (fun s l s' hs hc ↦ ?_)
    ⟨List.nodup_nil, fun _ hm ↦ absurd hm List.not_mem_nil⟩, fun client beyond hr ↦
      ⟨?_, addAndEvict_rejected hr beyond⟩⟩
  · exact hs ▸ hc.step
  · cases client with
    | none => rfl
    | some client =>
      simp only [State.addAndEvict]
      split <;> rfl

/-- Two cameras that do not list each other, a third that conflicts with both, and one of the
first that comes again with a lower priority and is rejected. -/
theorem clients_compatible_evicted :
    ∃ s : State ℕ, s.mClients = [2] ∧
      (s.Compatible (fun p ↦ ⟨p, 10, if p = 2 then [0, 1] else [], p⟩ : ℕ → ClientDescriptor ℕ) ∧
        (s.addAndEvict (fun p ↦ ⟨p, 10, if p = 2 then [0, 1] else [], p⟩ :
          ℕ → ClientDescriptor ℕ) (some 0) fun _ ↦ false).2 = s) := by
  let clients : ℕ → ClientDescriptor ℕ := fun p ↦ ⟨p, 10, if p = 2 then [0, 1] else [], p⟩
  let priority : ℕ → ClientPriority := fun p ↦ .create (if p = 0 then 200 else 100) 0 false 0
  let labels : List (Label ℕ ℕ) :=
    [.addAndEvict (some 0) fun _ ↦ false, .addAndEvict (some 1) fun _ ↦ false,
      .addAndEvict (some 2) fun _ ↦ false]
  have hs : Reachable (Step clients) (create 100 priority)
      (labels.foldl (step clients) (create 100 priority)) :=
    ⟨labels, .cons rfl (.cons rfl (.cons rfl (.nil _)))⟩
  obtain ⟨hc, hr⟩ := clients_compatible hs
  exact ⟨_, by decide +kernel, hc, (hr (some 0) _ (.inl (by decide +kernel))).2⟩

end State

end VirtualCamera.ClientManager
