import Mathlib.Data.Prod.Lex
import VirtualCamera.ClientManager.Removal
import VirtualCamera.Library.Sweep

namespace VirtualCamera.ClientManager

open Library.Sweep

/-! ### The order of the priorities -/

namespace ClientPriority

variable {p q : ClientPriority}

/-- The score decides, then the state. -/
def rank (p : ClientPriority) : ℤ ×ₗ ℤ := toLex (p.mScore, p.mState)

theorem lt_iff : p.lt q = true ↔ p.rank < q.rank := by
  rw [rank, rank, Prod.Lex.toLex_lt_toLex, lt]
  split
  · rename_i heq
    simp [heq]
  · rename_i hne
    simp [hne]

theorem le_iff : p.le q = true ↔ p.rank ≤ q.rank := by
  rw [le, Bool.not_eq_true', ← Bool.not_eq_true, lt_iff, not_lt]

theorem eq_iff : p.eq q = true ↔ p.rank = q.rank := by
  rw [rank, rank, toLex_inj, Prod.mk.injEq, eq, Bool.and_eq_true, decide_eq_true_iff,
    decide_eq_true_iff]

end ClientPriority

variable {P K : Type} {clients : P → ClientDescriptor K}

/-- A fold that moves to each element that is not above the last one ends at the last of the
least. -/
theorem foldl_least {α σ β : Type} [LinearOrder β] (f : α → σ) (rank : σ → β) (h : σ)
    (l : List α) :
    (l.foldl (fun h i ↦ if rank (f i) ≤ rank h then f i else h) h = h ∧
        ∀ j ∈ l, rank h < rank (f j)) ∨
      ∃ pre i post, l = pre ++ i :: post ∧
        l.foldl (fun h i ↦ if rank (f i) ≤ rank h then f i else h) h = f i ∧
        rank (f i) ≤ rank h ∧ (∀ j ∈ pre, rank (f i) ≤ rank (f j)) ∧
        ∀ j ∈ post, rank (f i) < rank (f j) := by
  induction l generalizing h with
  | nil => exact .inl ⟨rfl, fun _ hj ↦ absurd hj List.not_mem_nil⟩
  | cons a l ih =>
    rw [List.foldl_cons]
    split
    · rename_i hle
      obtain ⟨hr, hl⟩ | ⟨pre, i, post, rfl, hr, hi, hpre, hpost⟩ := ih (f a)
      · exact .inr ⟨[], a, l, rfl, hr, hle, fun _ hj ↦ absurd hj List.not_mem_nil, hl⟩
      · exact .inr ⟨a :: pre, i, post, rfl, hr, hi.trans hle,
          List.forall_mem_cons.mpr ⟨hi, hpre⟩, hpost⟩
    · rename_i hlt
      rw [not_le] at hlt
      obtain ⟨hr, hl⟩ | ⟨pre, i, post, rfl, hr, hi, hpre, hpost⟩ := ih h
      · exact .inl ⟨hr, List.forall_mem_cons.mpr ⟨hlt, hl⟩⟩
      · exact .inr ⟨a :: pre, i, post, rfl, hr, hi,
          List.forall_mem_cons.mpr ⟨(hi.trans_lt hlt).le, hpre⟩, hpost⟩

theorem last_least_unique {α β : Type} [LinearOrder β] (rank : α → β)
    {pre post pre' post' : List α} {i i' : α} (h : pre ++ i :: post = pre' ++ i' :: post')
    (hpre : ∀ j ∈ pre, rank i ≤ rank j) (hpost : ∀ j ∈ post, rank i < rank j)
    (hpre' : ∀ j ∈ pre', rank i' ≤ rank j) (hpost' : ∀ j ∈ post', rank i' < rank j) : i = i' := by
  obtain ⟨l, rfl, hl⟩ | ⟨l, rfl, hl⟩ := List.append_eq_append_iff.mp h
  · cases l with
    | nil => exact (List.cons.inj hl).1
    | cons j l =>
      obtain ⟨rfl, rfl⟩ := List.cons.inj hl
      exact absurd (hpost i' (by simp)) (not_lt.mpr (hpre' i (by simp)))
  · cases l with
    | nil => exact (List.cons.inj hl).1.symm
    | cons j l =>
      obtain ⟨rfl, rfl⟩ := List.cons.inj hl
      exact absurd (hpost' i (by simp)) (not_lt.mpr (hpre i' (by simp)))

namespace State

variable {s : State P}

/-! ### The owner with the highest priority -/

/-- The owner of the incoming client has the highest priority: none is above the client, or the
most recent of the clients with the highest priority is of that owner. -/
def OwnsHighest (clients : P → ClientDescriptor K) (s : State P) (client : P) : Prop :=
  (∀ j ∈ s.mClients, (s.priority client).le (s.priority j) = true) ∨
    ∃ pre i post, s.mClients = pre ++ i :: post ∧
      (clients i).mOwnerId = (clients client).mOwnerId ∧
      (∀ j ∈ pre, (s.priority i).le (s.priority j) = true) ∧
      ∀ j ∈ post, (s.priority i).lt (s.priority j) = true

/-- The fold keeps the last of the clients that come first in the order of priorities. -/
theorem highestPriorityOwner_eq (clients : P → ClientDescriptor K) (s : State P) (client : P) :
    (s.highestPriorityOwner clients client = (clients client).mOwnerId ∧
      ∀ j ∈ s.mClients, (s.priority client).rank < (s.priority j).rank) ∨
    ∃ pre i post, s.mClients = pre ++ i :: post ∧
      (s.priority i).rank ≤ (s.priority client).rank ∧
      (∀ j ∈ pre, (s.priority i).rank ≤ (s.priority j).rank) ∧
      (∀ j ∈ post, (s.priority i).rank < (s.priority j).rank) ∧
      s.highestPriorityOwner clients client =
        if (s.priority i).eq (s.priority client) then (clients client).mOwnerId
        else (clients i).mOwnerId := by
  have hfold : s.mClients.foldl (fun (highest : ClientPriority × ℤ) i ↦
      if (s.priority i).le highest.1 then (s.priority i, (clients i).mOwnerId) else highest)
      (s.priority client, (clients client).mOwnerId) =
    s.mClients.foldl (fun highest i ↦
      if ((s.priority i, (clients i).mOwnerId) : ClientPriority × ℤ).1.rank ≤ highest.1.rank then
        (s.priority i, (clients i).mOwnerId) else highest)
      (s.priority client, (clients client).mOwnerId) := by
    simp only [ClientPriority.le_iff]
  obtain ⟨hr, hl⟩ | ⟨pre, i, post, hs, hr, hi, hpre, hpost⟩ :=
    foldl_least (fun i ↦ (s.priority i, (clients i).mOwnerId)) (fun x ↦ x.1.rank)
      (s.priority client, (clients client).mOwnerId) s.mClients
  · refine .inl ⟨?_, hl⟩
    simp only [highestPriorityOwner]
    rw [hfold, hr, ite_self]
  · refine .inr ⟨pre, i, post, hs, hi, hpre, hpost, ?_⟩
    simp only [highestPriorityOwner]
    rw [hfold, hr]

theorem highestPriorityOwner_eq_iff {client : P} :
    s.highestPriorityOwner clients client = (clients client).mOwnerId ↔
      s.OwnsHighest clients client := by
  unfold OwnsHighest
  simp only [ClientPriority.le_iff, ClientPriority.lt_iff]
  obtain ⟨howner, hl⟩ | ⟨pre, i, post, hs, hi, hpre, hpost, hown⟩ :=
    highestPriorityOwner_eq clients s client
  · exact iff_of_true howner (.inl fun j hj ↦ (hl j hj).le)
  rw [hown]
  split
  · rename_i heq
    rw [ClientPriority.eq_iff] at heq
    refine iff_of_true rfl (.inl fun j hj ↦ ?_)
    rw [hs] at hj
    rw [← heq]
    obtain hj | hj := List.mem_append.mp hj
    · exact hpre j hj
    · obtain rfl | hj := List.mem_cons.mp hj
      · exact le_rfl
      · exact (hpost j hj).le
  · rename_i hne
    rw [ClientPriority.eq_iff] at hne
    constructor
    · exact fun ho ↦ .inr ⟨pre, i, post, hs, ho, hpre, hpost⟩
    · intro h
      obtain hall | ⟨pre', i', post', hs', ho, hpre', hpost'⟩ := h
      · exact absurd (hi.antisymm (hall i (hs ▸ List.mem_append_right pre List.mem_cons_self))) hne
      · rw [last_least_unique (fun j ↦ (s.priority j).rank) (hs.symm.trans hs') hpre hpost hpre'
          hpost', ho]

/-! ### The eviction loop as a sweep -/

variable [DecidableEq K]

/-- Those that conflict must go; for the cost, those may go that have one and no higher priority,
apart from the clients of an owner that has the highest priority. -/
def policy (clients : P → ClientDescriptor K) (s : State P) (client : P) : Policy P ℤ where
  cost i := (clients i).mCost
  limit := s.mMaxCost
  must i := conflicting clients client i
  may i := (clients i).mCost > 0 && (s.priority i).ge (s.priority client) &&
    !(s.highestPriorityOwner clients client = (clients client).mOwnerId &&
      (clients client).mOwnerId = (clients i).mOwnerId)

/-- An active client for which the incoming one is returned. -/
def refuses (clients : P → ClientDescriptor K) (s : State P) (client i : P) : Bool :=
  conflicting clients client i && ((s.priority i).lt (s.priority client) ||
    (clients client).mOwnerId = (clients i).mOwnerId && (clients i).mKey ≠ (clients client).mKey)

theorem policy_takes (clients : P → ClientDescriptor K) (s : State P) (client i : P)
    (totalCost : ℤ) : (s.policy clients client).takes totalCost i =
      (conflicting clients client i || ((totalCost > s.mMaxCost && (clients i).mCost > 0) &&
        (s.priority i).ge (s.priority client) &&
        !(s.highestPriorityOwner clients client = (clients client).mOwnerId &&
          (clients client).mOwnerId = (clients i).mOwnerId))) := by
  simp only [Policy.takes, policy, Bool.and_assoc, gt_iff_lt]

/-- A client of the list refuses the incoming one, is taken, or is passed. -/
theorem evictLoop_cons (clients : P → ClientDescriptor K) (s : State P) (client i : P) (l : List P)
    (evictList : List P) (totalCost : ℤ) :
    s.evictLoop clients client (i :: l) (evictList, totalCost) =
      if s.refuses clients client i then none
      else if (s.policy clients client).takes totalCost i then
        s.evictLoop clients client l (evictList ++ [i], totalCost - (clients i).mCost)
      else s.evictLoop clients client l (evictList, totalCost) := by
  simp only [evictLoop]
  split
  · rename_i h
    rw [Bool.and_eq_true] at h
    have hrefuse : s.refuses clients client i = true := by
      rw [refuses, h.1, h.2]
      rfl
    rw [if_pos hrefuse]
  rename_i hlt
  split
  · rename_i h
    rw [Bool.and_eq_true, decide_eq_true_iff] at h
    have hlow : (s.priority i).lt (s.priority client) = false := by simpa [h.1] using hlt
    have htake : (s.policy clients client).takes totalCost i = true := by
      rw [policy_takes, h.1, Bool.true_or]
    split
    · rename_i hkey
      have hrefuse : s.refuses clients client i = false := by simp [refuses, hlow, hkey]
      rw [if_neg (Bool.eq_false_iff.mp hrefuse)]
    · rename_i hkey
      have hrefuse : s.refuses clients client i = true := by simp [refuses, h.1, h.2, hkey]
      rw [if_pos hrefuse]
  rename_i hown
  have hrefuse : s.refuses clients client i = false := by
    cases hc : conflicting clients client i with
    | false => rw [refuses, hc, Bool.false_and]
    | true =>
      rw [hc, Bool.true_and, Bool.not_eq_true] at hlt
      rw [hc, Bool.true_and, decide_eq_true_iff] at hown
      simp [refuses, hc, hlt, hown]
  rw [hrefuse, policy_takes]
  rfl

theorem evictLoop_eq (clients : P → ClientDescriptor K) (s : State P) (client : P) (l : List P)
    (evictList : List P) (totalCost : ℤ) :
    s.evictLoop clients client l (evictList, totalCost) =
      if l.any (s.refuses clients client) then none
      else some (evictList ++ ((s.policy clients client).sweep totalCost l).1,
        ((s.policy clients client).sweep totalCost l).2) := by
  induction l generalizing evictList totalCost with
  | nil => simp [evictLoop, Policy.sweep]
  | cons i l ih =>
    have hcost : (s.policy clients client).cost i = (clients i).mCost := rfl
    rw [evictLoop_cons, List.any_cons]
    cases s.refuses clients client i with
    | true => rfl
    | false =>
      rw [if_neg Bool.false_ne_true, Bool.false_or]
      split
      · rename_i htake
        rw [ih, Policy.sweep_taken _ htake, hcost, List.append_assoc, List.singleton_append]
      · rename_i hpass
        rw [ih, Policy.sweep_passed _ (Bool.eq_false_iff.mpr hpass)]

def totalCost (clients : P → ClientDescriptor K) (s : State P) (client : P) : ℤ :=
  s.getCurrentCostLocked clients + (clients client).mCost

def costOf (clients : P → ClientDescriptor K) (l : List P) : ℤ :=
  (l.map fun i ↦ (clients i).mCost).sum

def evictSweep (clients : P → ClientDescriptor K) (s : State P) (client : P) : List P × ℤ :=
  (s.policy clients client).sweep (s.totalCost clients client) s.mClients

/-- The incoming client is returned: one of the active clients refuses it, or the cost stays too
high and another owner has the highest priority. -/
def Denied (clients : P → ClientDescriptor K) (s : State P) (client : P) : Prop :=
  (∃ i ∈ s.mClients, s.refuses clients client i = true) ∨
    s.mMaxCost < (s.evictSweep clients client).2 ∧ ¬ s.OwnsHighest clients client

theorem wouldEvict_of_denied {client : P} (h : s.Denied clients client) :
    s.wouldEvict clients client = [client] := by
  rw [wouldEvict, evictLoop_eq]
  split
  · rfl
  · rename_i hloop
    split at hloop
    · cases hloop
    · rename_i hany
      obtain ⟨rfl, rfl⟩ := Prod.mk.inj (Option.some.inj hloop)
      obtain hr | ⟨hover, hown⟩ := h
      · exact absurd (List.any_eq_true.mpr hr) hany
      · rw [← highestPriorityOwner_eq_iff] at hown
        exact if_pos (by simpa [evictSweep, totalCost] using And.intro hover hown)

theorem wouldEvict_of_not_denied {client : P} (h : ¬ s.Denied clients client) :
    s.wouldEvict clients client = (s.evictSweep clients client).1 := by
  rw [Denied, not_or] at h
  have hany : s.mClients.any (s.refuses clients client) = false := by
    rw [Bool.eq_false_iff]
    exact fun hc ↦ h.1 (List.any_eq_true.mp hc)
  rw [wouldEvict, evictLoop_eq, hany]
  refine if_neg fun hc ↦ h.2 ?_
  rw [Bool.and_eq_true, decide_eq_true_iff, decide_eq_true_iff, ne_eq,
    highestPriorityOwner_eq_iff] at hc
  exact hc

theorem Accepts.not_denied {client : P} (h : s.Accepts clients client) :
    ¬ s.Denied clients client := by
  intro hd
  refine h ?_
  rw [wouldEvictLocked, wouldEvict_of_denied hd]
  rfl

/-! ### What is evicted -/

structure Evictable (clients : P → ClientDescriptor K) (s : State P) (client i : P) : Prop where
  cost : 0 < (clients i).mCost
  priority : (s.priority i).ge (s.priority client) = true
  owner : s.OwnsHighest clients client → (clients i).mOwnerId ≠ (clients client).mOwnerId

theorem policy_may_iff {client i : P} :
    (s.policy clients client).may i = true ↔ s.Evictable clients client i := by
  simp only [policy, Bool.and_eq_true, decide_eq_true_iff, gt_iff_lt, Bool.not_eq_true',
    ← Bool.not_eq_true, highestPriorityOwner_eq_iff, not_and]
  exact ⟨fun h ↦ ⟨h.1.1, h.1.2, fun ho he ↦ h.2 ho he.symm⟩,
    fun h ↦ ⟨⟨h.cost, h.priority⟩, fun ho he ↦ h.owner ho he.symm⟩⟩

/-- The documented policy. The clients take their turns in LRU order, and those that are evicted
`before` one decide on the cost that it meets. -/
structure EvictedByPolicy (clients : P → ClientDescriptor K) (s : State P) (client : P)
    (evicted : List P) : Prop where
  priority : ∀ i ∈ evicted, (s.priority i).ge (s.priority client) = true
  bystander : ∀ i ∈ evicted, conflicting clients client i = false → s.Evictable clients client i
  lru : evicted.Sublist s.mClients
  turn : ∀ pre i post, s.mClients = pre ++ i :: post →
    ∃ before after, evicted = before ++ after ∧ before.Sublist pre ∧
      ((conflicting clients client i = true ∨
            s.mMaxCost < s.totalCost clients client - costOf clients before ∧
              s.Evictable clients client i) ∧
          (∃ rest, after = i :: rest ∧ rest.Sublist post) ∨
        conflicting clients client i = false ∧
          (s.Evictable clients client i →
            s.totalCost clients client - costOf clients before ≤ s.mMaxCost) ∧
          after.Sublist post)
  fits : s.totalCost clients client - costOf clients evicted ≤ s.mMaxCost ∨
    s.OwnsHighest clients client

theorem policy_takes_iff {client i : P} {total : ℤ} :
    (s.policy clients client).takes total i = true ↔
      conflicting clients client i = true ∨
        s.mMaxCost < total ∧ s.Evictable clients client i := by
  rw [Policy.takes, Bool.or_eq_true, Bool.and_eq_true, policy_may_iff, decide_eq_true_iff]
  rfl

theorem policy_takes_false {client i : P} {total : ℤ}
    (h : (s.policy clients client).takes total i = false) :
    conflicting clients client i = false ∧
      (s.Evictable clients client i → total ≤ s.mMaxCost) := by
  rw [← Bool.not_eq_true, policy_takes_iff, not_or, Bool.not_eq_true] at h
  exact ⟨h.1, fun he ↦ not_lt.mp fun hlt ↦ h.2 ⟨hlt, he⟩⟩

theorem ge_of_not_refuses {client i : P} (h : s.refuses clients client i ≠ true)
    (hc : conflicting clients client i = true) : (s.priority i).ge (s.priority client) = true := by
  rw [refuses, hc, Bool.true_and, ne_eq, Bool.or_eq_true, not_or, Bool.not_eq_true] at h
  rw [ClientPriority.ge, h.1]
  rfl

theorem evictedByPolicy {client : P} (h : ¬ s.Denied clients client) :
    s.EvictedByPolicy clients client (s.wouldEvict clients client) := by
  rw [wouldEvict_of_not_denied h]
  rw [Denied, not_or] at h
  have htaken : ∀ i ∈ (s.evictSweep clients client).1, conflicting clients client i = true ∨
      s.Evictable clients client i := by
    intro i hi
    obtain ⟨before, after, hsplit⟩ := List.append_of_mem hi
    have ht := Policy.sweep_mem (s.policy clients client) hsplit
    exact (policy_takes_iff.mp ht).imp_right And.right
  have hsub := (s.policy clients client).sweep_sublist (s.totalCost clients client) s.mClients
  constructor
  · intro i hi
    obtain hc | he := htaken i hi
    · exact ge_of_not_refuses (fun hr ↦ h.1 ⟨i, hsub.subset hi, hr⟩) hc
    · exact he.priority
  · intro i hi hc
    obtain hc' | he := htaken i hi
    · rw [hc] at hc'
      cases hc'
    · exact he
  · exact hsub
  · intro pre i post hs
    obtain ⟨before, after, he, hpre, hturn⟩ :=
      (s.policy clients client).sweep_turn (s.totalCost clients client) pre i post
    refine ⟨before, after, by rw [← he, evictSweep, hs], hpre, ?_⟩
    obtain ⟨ht, hrest⟩ | ⟨ht, hrest⟩ := hturn
    · exact .inl ⟨policy_takes_iff.mp ht, hrest⟩
    · have hf := policy_takes_false ht
      exact .inr ⟨hf.1, hf.2, hrest⟩
  · have htotal := (s.policy clients client).sweep_total (s.totalCost clients client) s.mClients
    rw [or_iff_not_imp_right]
    intro ho
    have hle := not_lt.mp fun hlt ↦ h.2 ⟨hlt, ho⟩
    rwa [evictSweep, htotal] at hle

/-! ### The cost afterwards -/

omit [DecidableEq K] in
theorem costOf_cons (i : P) (l : List P) :
    costOf clients (i :: l) = (clients i).mCost + costOf clients l := by
  rw [costOf, List.map_cons, List.sum_cons]
  rfl

omit [DecidableEq K] in
theorem costOf_append (l l' : List P) :
    costOf clients (l ++ l') = costOf clients l + costOf clients l' := by
  rw [costOf, List.map_append, List.sum_append]
  rfl

variable [DecidableEq P]

omit [DecidableEq K] in
theorem costOf_remaining {evicted l : List P} (hl : l.Nodup) (hsub : evicted.Sublist l) :
    costOf clients (l.filter (· ∉ evicted)) = costOf clients l - costOf clients evicted := by
  have hperm : (l.filter (· ∉ evicted) ++ evicted).Perm l := by
    refine (List.perm_ext_iff_of_nodup ?_ hl).mpr fun p ↦ ?_
    · refine List.nodup_append.mpr ⟨hl.filter _, hsub.nodup hl, fun p hp q hq hpq ↦ ?_⟩
      simp [hpq, hq] at hp
    · have hp : p ∈ evicted → p ∈ l := fun hp ↦ hsub.subset hp
      simp only [List.mem_append, List.mem_filter, decide_eq_true_iff]
      tauto
  have hsum : costOf clients (l.filter (· ∉ evicted) ++ evicted) = costOf clients l :=
    (hperm.map _).sum_eq
  rw [← hsum, costOf_append, add_sub_cancel_right]

theorem addAndEvict_mClients {client : P} (h : s.Accepts clients client)
    (hk : (s.mClients.map fun p ↦ (clients p).mKey).Nodup) {beyond : P → Bool}
    (hb : ∀ p, beyond p = false) :
    (s.addAndEvict clients (some client) beyond).2.mClients =
      s.mClients.filter (· ∉ s.wouldEvict clients client) ++ [client] := by
  simp only [addAndEvict]
  rw [if_neg h]
  simp only [add]
  rw [evict_mClients_eq hk h.evicts.sublist fun _ p _ ↦ hb p]

theorem addAndEvict_policy {client : P} {beyond : P → Bool}
    (h : (s.addAndEvict clients (some client) beyond).1.head? ≠ some (some client)) :
    ∃ evicted, (s.addAndEvict clients (some client) beyond).1 = evicted.map some ∧
      s.EvictedByPolicy clients client evicted ∧
      ((s.mClients.map fun p ↦ (clients p).mKey).Nodup → (∀ p, beyond p = false) →
        (s.addAndEvict clients (some client) beyond).2.getCurrentCostLocked clients ≤
            s.mMaxCost ∨
          s.OwnsHighest clients client) := by
  have hfst : (s.addAndEvict clients (some client) beyond).1 =
      s.wouldEvictLocked clients (some client) false := by
    simp only [addAndEvict]
    split <;> rfl
  rw [hfst] at h ⊢
  have hpolicy := evictedByPolicy (Accepts.not_denied h)
  refine ⟨s.wouldEvict clients client, rfl, hpolicy, fun hk hb ↦ hpolicy.fits.imp_left ?_⟩
  have hcost : (s.addAndEvict clients (some client) beyond).2.getCurrentCostLocked clients =
      s.totalCost clients client - costOf clients (s.wouldEvict clients client) := by
    have hrem : costOf clients (s.mClients.filter (· ∉ s.wouldEvict clients client)) =
        costOf clients s.mClients - costOf clients (s.wouldEvict clients client) :=
      costOf_remaining hk.of_map (Accepts.evicts h).sublist
    change costOf clients (s.addAndEvict clients (some client) beyond).2.mClients = _
    rw [addAndEvict_mClients h hk hb, costOf_append, hrem, totalCost, getCurrentCostLocked, costOf,
      costOf, costOf, List.map_singleton, List.sum_singleton]
    ring
  exact fun hle ↦ hcost.trans_le hle

/-- Two older clients of other owners go before the cost fits. -/
theorem addAndEvict_policy_two :
    let clients : ℕ → ClientDescriptor ℕ := fun p ↦ ⟨p, 60, [], p⟩
    let s : State ℕ :=
      { create 100 (fun p ↦ .create (if p = 2 then 50 else 100) 0 false 0) with
        mClients := [0, 1] }
    (s.addAndEvict clients (some 2) fun _ ↦ false).1 = [some 0, some 1] ∧
      ∃ evicted, (s.addAndEvict clients (some 2) fun _ ↦ false).1 = evicted.map some ∧
        s.EvictedByPolicy clients 2 evicted ∧
        ((s.mClients.map fun p ↦ (clients p).mKey).Nodup → (∀ p : ℕ, (fun _ ↦ false) p = false) →
          (s.addAndEvict clients (some 2) fun _ ↦ false).2.getCurrentCostLocked clients ≤
              s.mMaxCost ∨
            s.OwnsHighest clients 2) := by
  intro clients s
  exact ⟨by decide, addAndEvict_policy (by decide)⟩

/-- Another owner has the highest priority, and the incoming client's own older client goes. -/
theorem addAndEvict_own_evicted :
    ¬ ∀ (clients : ℕ → ClientDescriptor ℕ) (s : State ℕ) (client : ℕ) (beyond : ℕ → Bool),
      (s.addAndEvict clients (some client) beyond).1.head? ≠ some (some client) →
        ∀ i, some i ∈ (s.addAndEvict clients (some client) beyond).1 →
          conflicting clients client i = false →
            (clients i).mCost ≠ 0 ∧ (clients i).mOwnerId ≠ (clients client).mOwnerId := by
  intro h
  let clients : ℕ → ClientDescriptor ℕ := fun p ↦ ⟨p, 50, [], if p = 0 then 1 else 2⟩
  let s : State ℕ :=
    { create 100 (fun p : ℕ ↦ .create (100 * p) 0 false 0) with mClients := [0, 2] }
  exact (h clients s 1 (fun _ ↦ false) (by decide) 2 (by decide) (by decide)).2 rfl

end State

end VirtualCamera.ClientManager
