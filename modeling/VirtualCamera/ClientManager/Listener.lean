import Mathlib.Data.List.Count
import VirtualCamera.ClientManager.Eviction

namespace VirtualCamera.ClientManager

open Library.Transition

variable {P K : Type} [DecidableEq P] {clients : P → ClientDescriptor K}

namespace State

variable {s s' : State P}

/-- A client was added once more often than removed while it is active, and as often after. -/
def Balanced (s : State P) : Prop :=
  ∀ p, s.events.count (.onClientAdded p) =
    s.events.count (.onClientRemoved p) + s.mClients.count p

theorem count_added_map (l : List P) (p : P) :
    (l.map Event.onClientRemoved).count (.onClientAdded p) = 0 := by
  refine List.count_eq_zero_of_not_mem fun hm ↦ ?_
  obtain ⟨q, _, hq⟩ := List.mem_map.mp hm
  cases hq

theorem count_removed_map (l : List P) (p : P) :
    (l.map Event.onClientRemoved).count (.onClientRemoved p) = l.count p := by
  induction l with
  | nil => rfl
  | cons q l ih =>
    rw [List.map_cons, List.count_cons, List.count_cons, ih]
    simp only [beq_iff_eq, Event.onClientRemoved.injEq]

theorem count_filter_add (p : P → Bool) (l : List P) (q : P) :
    l.count q = (l.filter p).count q + (l.filter (!p ·)).count q := by
  have hperm := List.filter_append_perm p l
  rw [← hperm.count_eq q, List.count_append]

theorem Balanced.removeIf (h : s.Balanced) (p : P → Bool) : (s.removeIf p).Balanced := by
  intro q
  have hq := h q
  have hfilter := count_filter_add p s.mClients q
  simp only [State.removeIf, List.count_append, count_added_map, count_removed_map]
  omega

theorem Balanced.removeAll (h : s.Balanced) : s.removeAll.Balanced := by
  intro q
  simp only [State.removeAll, List.count_append, count_added_map, count_removed_map,
    List.count_nil]
  exact h q

theorem Balanced.add (h : s.Balanced) (client : P) : (s.add client).Balanced := by
  intro q
  have hq := h q
  simp only [State.add, List.count_append, List.count_singleton, beq_iff_eq, reduceCtorEq,
    if_false, Event.onClientAdded.injEq]
  omega

variable [DecidableEq K]

/-- At most one client leaves when a client is added. When one does, what lies past the end of
the eviction list is like none of the clients behind it. -/
def Single (clients : P → ClientDescriptor K) (s : State P) : Label P K → Prop
  | .addAndEvict (some client) beyond =>
    let evicted := s.wouldEvict clients client
    evicted.head? = some client ∨ evicted.length ≤ 1 ∧
      (evicted ≠ [] → ∀ p ∈ (eraseEvicted clients evicted s.mClients).2, beyond p = false)
  | _ => True

instance (s : State P) : (l : Label P K) → Decidable (s.Single clients l)
  | .addAndEvict (some client) beyond => inferInstanceAs (Decidable
      ((s.wouldEvict clients client).head? = some client ∨
        (s.wouldEvict clients client).length ≤ 1 ∧
          (s.wouldEvict clients client ≠ [] →
            ∀ p ∈ (eraseEvicted clients (s.wouldEvict clients client) s.mClients).2,
              beyond p = false)))
  | .addAndEvict none _ | .updatePriorities _ | .removeAll | .removeKey _ | .remove _ =>
    isTrue trivial

/-- What is left when one client is evicted. -/
theorem eraseEvicted_single {l : List P} (hk : (l.map fun p ↦ (clients p).mKey).Nodup) {i : P}
    (hi : i ∈ l) :
    (eraseEvicted clients [i] l).1 ++ (eraseEvicted clients [i] l).2 = l.erase i := by
  induction l with
  | nil => exact absurd hi List.not_mem_nil
  | cons cur l ih =>
    rw [List.map_cons, List.nodup_cons] at hk
    simp only [eraseEvicted]
    by_cases hc : cur = i
    · subst hc
      rw [if_pos rfl, List.erase_cons_head]
      cases l <;> simp
    · have hmem : i ∈ l := (List.mem_cons.mp hi).resolve_left fun he ↦ hc he.symm
      have hne : (clients cur).mKey ≠ (clients i).mKey :=
        fun he ↦ hk.1 (he ▸ List.mem_map_of_mem hmem)
      rw [if_neg hne, List.erase_cons_tail (by simpa using hc)]
      exact congrArg (cur :: ·) (ih hk.2 hmem)

theorem Balanced.evict (h : s.Balanced) (hcompatible : s.Compatible clients) {evicted : List P}
    {beyond : P → Bool} (hsub : evicted.Sublist s.mClients) (hone : evicted.length ≤ 1)
    (hbeyond : evicted ≠ [] →
      ∀ p ∈ (eraseEvicted clients evicted s.mClients).2, beyond p = false) :
    (s.evict clients evicted beyond).Balanced := by
  cases evicted with
  | nil => exact h
  | cons i evicted =>
    obtain rfl : evicted = [] := by
      cases evicted with
      | nil => rfl
      | cons j evicted => exact absurd hone (by simp)
    have hi : i ∈ s.mClients := hsub.subset List.mem_cons_self
    have hbeyond := hbeyond (List.cons_ne_nil i [])
    have hkeep : (eraseEvicted clients [i] s.mClients).2.filter (!beyond ·) =
        (eraseEvicted clients [i] s.mClients).2 :=
      List.filter_eq_self.mpr fun p hp ↦ by rw [hbeyond p hp]; rfl
    intro q
    have hq := h q
    have hleft : (s.evict clients [i] beyond).mClients = s.mClients.erase i := by
      rw [← eraseEvicted_single hcompatible.keys hi]
      exact congrArg ((eraseEvicted clients [i] s.mClients).1 ++ ·) hkeep
    have hevents : (s.evict clients [i] beyond).events = s.events ++ [.onClientRemoved i] := rfl
    rw [hleft, hevents, List.count_erase]
    simp only [List.count_append, List.count_singleton, beq_iff_eq, reduceCtorEq, if_false,
      Event.onClientRemoved.injEq]
    by_cases hiq : i = q
    · have hpos : 0 < s.mClients.count q := List.count_pos_iff.mpr (hiq ▸ hi)
      simp only [hiq, if_true]
      omega
    · simp only [if_neg hiq]
      omega

theorem Balanced.addAndEvict (h : s.Balanced) (hcompatible : s.Compatible clients)
    {client : Option P} {beyond : P → Bool}
    (hsingle : s.Single clients (.addAndEvict client beyond)) :
    (s.addAndEvict clients client beyond).2.Balanced := by
  cases client with
  | none => exact h
  | some client =>
    simp only [State.addAndEvict]
    split
    · exact h
    · rename_i hfirst
      have hhead : (s.wouldEvict clients client).head? ≠ some client := by
        intro hc
        refine hfirst ?_
        simp [wouldEvictLocked, hc]
      obtain hc | ⟨hone, hbeyond⟩ := hsingle
      · exact absurd hc hhead
      · obtain he | hev := wouldEvict_spec clients s client
        · rw [he] at hhead
          exact absurd rfl hhead
        · exact (h.evict hcompatible hev.sublist hone hbeyond).add client

theorem Balanced.step (h : s.Balanced) (hcompatible : s.Compatible clients) {l : Label P K}
    (hsingle : s.Single clients l) : (s.step clients l).Balanced := by
  cases l with
  | addAndEvict client beyond => exact h.addAndEvict hcompatible hsingle
  | updatePriorities ownerPriorityList => exact h
  | removeAll => exact h.removeAll
  | removeKey key => exact h.removeIf _
  | remove value => exact h.removeIf _

theorem listener_balanced {mMaxCost : ℤ} {priority : P → ClientPriority}
    (h : Reachable (restrict (Step clients) (Single clients)) (create mMaxCost priority) s) :
    s.Balanced := by
  have ⟨_, hbalanced⟩ : s.Compatible clients ∧ s.Balanced := by
    refine h.invariant (P := fun s ↦ s.Compatible clients ∧ s.Balanced) (fun s l s' hs ha ↦ ?_)
      ⟨⟨List.nodup_nil, fun _ hm ↦ absurd hm List.not_mem_nil⟩, fun _ ↦ rfl⟩
    obtain ⟨rfl, hsingle⟩ := hs
    exact ⟨ha.1.step, ha.2.step ha.1 hsingle⟩
  exact hbalanced

/-- One of three clients is evicted by a fourth, one is removed and one stays. -/
theorem listener_balanced_one :
    ∃ s : State ℕ, s.mClients = [2, 3] ∧ s.Balanced ∧
      s.events = [.onClientAdded 0, .onClientAdded 1, .onClientAdded 2, .onClientRemoved 1,
        .onClientAdded 3, .onClientRemoved 0] := by
  let clients : ℕ → ClientDescriptor ℕ := fun p ↦ ⟨p, 10, if p = 3 then [1] else [], p⟩
  let start : State ℕ := create 100 fun _ ↦ .create 100 0 false 0
  let labels : List (Label ℕ ℕ) :=
    [.addAndEvict (some 0) fun _ ↦ false, .addAndEvict (some 1) fun _ ↦ false,
      .addAndEvict (some 2) fun _ ↦ false, .addAndEvict (some 3) fun _ ↦ false, .removeKey 0]
  have hs : Reachable (restrict (Step clients) (Single clients)) start
      (labels.foldl (step clients) start) :=
    ⟨labels, .cons ⟨rfl, by decide +kernel⟩ (.cons ⟨rfl, by decide +kernel⟩
      (.cons ⟨rfl, by decide +kernel⟩ (.cons ⟨rfl, by decide +kernel⟩
        (.cons ⟨rfl, by decide +kernel⟩ (.nil _)))))⟩
  exact ⟨_, by decide +kernel, listener_balanced hs, by decide +kernel⟩

/-- Two clients are evicted at once, and the listener hears of the first. -/
theorem not_listener_balanced_two :
    ¬ ∀ (clients : ℕ → ClientDescriptor ℕ) (priority : ℕ → ClientPriority) (s : State ℕ),
      Reachable (Step clients) (create 100 priority) s → s.Balanced := by
  intro h
  let clients : ℕ → ClientDescriptor ℕ := fun p ↦ ⟨p, 10, if p = 2 then [0, 1] else [], p⟩
  let start : State ℕ := create 100 fun _ ↦ .create 100 0 false 0
  let labels : List (Label ℕ ℕ) :=
    [.addAndEvict (some 0) fun _ ↦ false, .addAndEvict (some 1) fun _ ↦ false,
      .addAndEvict (some 2) fun _ ↦ false]
  have hs : Reachable (Step clients) start (labels.foldl (step clients) start) :=
    ⟨labels, .cons rfl (.cons rfl (.cons rfl (.nil _)))⟩
  have hne : ¬ (labels.foldl (step clients) start).events.count (.onClientAdded 1) =
      (labels.foldl (step clients) start).events.count (.onClientRemoved 1) +
        (labels.foldl (step clients) start).mClients.count 1 := by decide +kernel
  exact hne (h _ _ _ hs 1)

end State

end VirtualCamera.ClientManager
