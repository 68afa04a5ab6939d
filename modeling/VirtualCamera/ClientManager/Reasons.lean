import VirtualCamera.ClientManager.Policy

namespace VirtualCamera.ClientManager

open Library.Sweep

variable {P K : Type} [DecidableEq K] {clients : P → ClientDescriptor K}

namespace State

variable {s : State P}

/-! ### The two queries -/

/-- What `CameraService::connect` asks of `wouldEvict`: is the incoming client among the evicted? -/
def Refused (clients : P → ClientDescriptor K) (s : State P) (client : Option P) : Prop :=
  client ∈ s.wouldEvictLocked clients client false

/-- `getIncompatibleClients` names someone. -/
def Explained (clients : P → ClientDescriptor K) (s : State P) (client : Option P) : Prop :=
  s.wouldEvictLocked clients client true ≠ []

/-! ### What decides them -/

/-- A client of higher priority conflicts. -/
def Outranked (clients : P → ClientDescriptor K) (s : State P) (client : P) : Prop :=
  ∃ i ∈ s.mClients, conflicting clients client i = true ∧
    (s.priority i).lt (s.priority client) = true

def OwnConflict (clients : P → ClientDescriptor K) (s : State P) (client : P) : Prop :=
  ∃ i ∈ s.mClients, conflicting clients client i = true ∧
    (clients i).mOwnerId = (clients client).mOwnerId ∧ (clients i).mKey ≠ (clients client).mKey

/-- The total cost is over the maximum, and a client of higher priority is part of it. -/
def HigherCost (clients : P → ClientDescriptor K) (s : State P) (client : P) : Prop :=
  s.mMaxCost < s.totalCost clients client ∧
    ∃ i ∈ s.mClients, (s.priority i).lt (s.priority client) = true ∧ 0 < (clients i).mCost

/-- The cost of the incoming client and of those of higher priority. -/
def higherCost (clients : P → ClientDescriptor K) (s : State P) (client : P) : ℤ :=
  costOf clients (s.mClients.filter fun i ↦ (s.priority i).lt (s.priority client)) +
    (clients client).mCost

/-- The two queries agree, where `left` is the cost that cannot be evicted. -/
def Agree (clients : P → ClientDescriptor K) (s : State P) (client : P) (left : ℤ) : Prop :=
  s.Outranked clients client ∨
    ((client ∈ s.mClients ∨ s.OwnConflict clients client ∨
        s.mMaxCost < left ∧ ¬ s.OwnsHighest clients client) ↔ s.HigherCost clients client)

theorem refuses_iff {client : P} :
    (∃ i ∈ s.mClients, s.refuses clients client i = true) ↔
      s.Outranked clients client ∨ s.OwnConflict clients client := by
  constructor
  · intro h
    obtain ⟨i, hi, hr⟩ := h
    rw [refuses, Bool.and_eq_true, Bool.or_eq_true, Bool.and_eq_true, decide_eq_true_iff,
      decide_eq_true_iff] at hr
    obtain ⟨hc, hlt | ⟨ho, hk⟩⟩ := hr
    · exact .inl ⟨i, hi, hc, hlt⟩
    · exact .inr ⟨i, hi, hc, ho.symm, hk⟩
  · intro h
    obtain ⟨i, hi, hc, hlt⟩ | ⟨i, hi, hc, ho, hk⟩ := h
    · exact ⟨i, hi, by rw [refuses, hc, hlt]; rfl⟩
    · exact ⟨i, hi, by simp [refuses, hc, ho, hk]⟩

theorem refused_iff {client : P} :
    s.Refused clients (some client) ↔
      client ∈ s.mClients ∨ s.Outranked clients client ∨ s.OwnConflict clients client ∨
        s.mMaxCost < (s.evictSweep clients client).2 ∧ ¬ s.OwnsHighest clients client := by
  have hden : s.Denied clients client ↔
      s.Outranked clients client ∨ s.OwnConflict clients client ∨
        s.mMaxCost < (s.evictSweep clients client).2 ∧ ¬ s.OwnsHighest clients client := by
    rw [Denied, refuses_iff, or_assoc]
  have hmem : s.Refused clients (some client) ↔ client ∈ s.wouldEvict clients client := by
    simp [Refused, wouldEvictLocked]
  rw [← hden, hmem]
  by_cases hd : s.Denied clients client
  · rw [wouldEvict_of_denied hd]
    exact iff_of_true List.mem_cons_self (.inr hd)
  · rw [wouldEvict_of_not_denied hd, or_iff_left hd]
    constructor
    · exact fun hm ↦ ((s.policy clients client).sweep_sublist _ s.mClients).subset hm
    · -- a client conflicts with itself
      exact fun hm ↦ (s.policy clients client).mem_sweep_of_must hm
        (by simp [policy, conflicting])

theorem explained_iff {client : P} :
    s.Explained clients (some client) ↔
      s.Outranked clients client ∨ s.HigherCost clients client := by
  have hmem : s.Explained clients (some client) ↔
      ∃ i ∈ s.mClients, ((s.priority i).lt (s.priority client) && (conflicting clients client i ||
        (s.totalCost clients client > s.mMaxCost && (clients i).mCost > 0))) = true := by
    rw [Explained, wouldEvictLocked, if_pos rfl, ne_eq, List.map_eq_nil_iff, incompatible,
      List.filter_eq_nil_iff]
    simp only [not_forall, not_not, exists_prop]
    rfl
  rw [hmem]
  constructor
  · intro hcond
    obtain ⟨i, hi, h⟩ := hcond
    rw [Bool.and_eq_true, Bool.or_eq_true, Bool.and_eq_true, decide_eq_true_iff,
      decide_eq_true_iff] at h
    obtain ⟨hlt, hc | ⟨hover, hcost⟩⟩ := h
    · exact .inl ⟨i, hi, hc, hlt⟩
    · exact .inr ⟨hover, i, hi, hlt, hcost⟩
  · intro hcond
    obtain ⟨i, hi, hc, hlt⟩ | ⟨hover, i, hi, hlt, hcost⟩ := hcond
    · exact ⟨i, hi, by rw [hlt, hc]; rfl⟩
    · exact ⟨i, hi, by simp [hlt, hover, hcost]⟩

theorem refused_iff_explained_some {client : P} :
    (s.Refused clients (some client) ↔ s.Explained clients (some client)) ↔
      s.Agree clients client (s.evictSweep clients client).2 := by
  rw [refused_iff, explained_iff, Agree]
  tauto

/-! ### The cost that cannot be evicted -/

/-- A client of higher priority is not evicted. -/
theorem not_takeable_of_higher {client i : P} (hout : ¬ s.Outranked clients client)
    (hi : i ∈ s.mClients) (hlt : (s.priority i).lt (s.priority client) = true) :
    ((s.policy clients client).must i || (s.policy clients client).may i) = false := by
  have hc : conflicting clients client i = false :=
    Bool.eq_false_iff.mpr fun hc ↦ hout ⟨i, hi, hc, hlt⟩
  simp [policy, hc, ClientPriority.ge, hlt]

/-- Nor is one without a cost, and no others. -/
theorem mCost_of_not_takeable {client i : P} (hown : ¬ s.OwnsHighest clients client)
    (hlt : (s.priority i).lt (s.priority client) = false) (hcost : 0 ≤ (clients i).mCost)
    (hstay : ((s.policy clients client).must i || (s.policy clients client).may i) = false) :
    (clients i).mCost = 0 := by
  have hmay : ¬ s.Evictable clients client i := by
    rw [← policy_may_iff, Bool.not_eq_true]
    exact (Bool.or_eq_false_iff.mp hstay).2
  refine le_antisymm (not_lt.mp fun hpos ↦ hmay ⟨hpos, ?_, fun ho ↦ absurd ho hown⟩) hcost
  rw [ClientPriority.ge, hlt]
  rfl

/-- What is not evicted when all that may be is: the clients of higher priority, and those without
a cost. -/
theorem takeable_add_higher {client : P} (hout : ¬ s.Outranked clients client)
    (hown : ¬ s.OwnsHighest clients client) {l : List P} (hl : ∀ i ∈ l, i ∈ s.mClients)
    (hcost : ∀ i ∈ l, 0 ≤ (clients i).mCost) :
    (s.policy clients client).takeable l +
        costOf clients (l.filter fun i ↦ (s.priority i).lt (s.priority client)) =
      costOf clients l := by
  induction l with
  | nil => rfl
  | cons i l ih =>
    have hrec := ih (fun j hj ↦ hl j (List.mem_cons_of_mem i hj))
      fun j hj ↦ hcost j (List.mem_cons_of_mem i hj)
    cases hlt : (s.priority i).lt (s.priority client) with
    | true =>
      have hfilter : (i :: l).filter (fun i ↦ (s.priority i).lt (s.priority client)) =
          i :: l.filter fun i ↦ (s.priority i).lt (s.priority client) := by
        rw [List.filter_cons, if_pos hlt]
      have hstay := not_takeable_of_higher hout (hl i List.mem_cons_self) hlt
      rw [Policy.takeable_cons_neg _ hstay, hfilter, costOf_cons, costOf_cons, ← hrec]
      ring
    | false =>
      have hfilter : (i :: l).filter (fun i ↦ (s.priority i).lt (s.priority client)) =
          l.filter fun i ↦ (s.priority i).lt (s.priority client) := by
        rw [List.filter_cons, if_neg (by rw [hlt]; exact Bool.false_ne_true)]
      rw [hfilter, costOf_cons, ← hrec]
      cases hgo : (s.policy clients client).must i || (s.policy clients client).may i with
      | true =>
        rw [Policy.takeable_cons_pos _ hgo, add_assoc]
        rfl
      | false =>
        have hzero := mCost_of_not_takeable hown hlt (hcost i List.mem_cons_self) hgo
        rw [Policy.takeable_cons_neg _ hgo, hzero, zero_add]

theorem agree_higherCost_iff {client : P} (hcost : ∀ i ∈ s.mClients, 0 ≤ (clients i).mCost) :
    s.Agree clients client (s.evictSweep clients client).2 ↔
      s.Agree clients client (s.higherCost clients client) := by
  by_cases hout : s.Outranked clients client
  · exact iff_of_true (.inl hout) (.inl hout)
  by_cases hown : s.OwnsHighest clients client
  · simp only [Agree, hown, not_true, and_false]
  · have hleft : s.mMaxCost < (s.evictSweep clients client).2 ↔
        s.mMaxCost < s.higherCost clients client := by
      have hpos : ∀ i ∈ s.mClients,
          ((s.policy clients client).must i || (s.policy clients client).may i) = true →
            0 ≤ (s.policy clients client).cost i := fun i hi _ ↦ hcost i hi
      have hsum := takeable_add_higher hout hown (fun i hi ↦ hi) hcost
      have heq : s.totalCost clients client - (s.policy clients client).takeable s.mClients =
          s.higherCost clients client := by
        have htotal : s.totalCost clients client =
          costOf clients s.mClients + (clients client).mCost := rfl
        rw [htotal, ← hsum, higherCost]
        ring
      rw [← heq]
      exact (s.policy clients client).limit_lt_sweep_iff hpos
    rw [Agree, Agree, hleft]

theorem refused_iff_explained (clients : P → ClientDescriptor K) (s : State P)
    (client : Option P) :
    ((s.Refused clients client ↔ s.Explained clients client) ↔
        ∀ c, client = some c → s.Agree clients c (s.evictSweep clients c).2) ∧
      ∀ c, client = some c → (∀ i ∈ s.mClients, 0 ≤ (clients i).mCost) →
        ((s.Refused clients client ↔ s.Explained clients client) ↔
          s.Agree clients c (s.higherCost clients c)) := by
  cases client with
  | none =>
    have hr : s.Refused clients none := List.mem_cons_self
    have he : s.Explained clients none := List.cons_ne_nil none []
    exact ⟨iff_of_true (iff_of_true hr he) fun c hc ↦ (by cases hc), fun c hc ↦ (by cases hc)⟩
  | some client =>
    constructor
    · rw [refused_iff_explained_some]
      simp
    · rintro c hc hcost
      obtain rfl := Option.some.inj hc
      rw [refused_iff_explained_some, agree_higherCost_iff hcost]

/-- The owner of the first camera is refused the second without a reason; and a client that comes
in once a third one is evicted is told of the first. -/
theorem refused_explained_differ :
    (∃ (clients : ℕ → ClientDescriptor ℕ) (s : State ℕ),
        s.Refused clients (some 1) ∧ ¬ s.Explained clients (some 1)) ∧
      ∃ (clients : ℕ → ClientDescriptor ℕ) (s : State ℕ),
        ¬ s.Refused clients (some 1) ∧ s.Explained clients (some 1) := by
  constructor
  · refine ⟨fun p ↦ ⟨p, 100, [1 - p], 1000⟩,
      { create 100 (fun _ ↦ .create 250 0 false 0) with mClients := [0] }, ?_, ?_⟩
    · rw [Refused]
      decide
    · rw [Explained]
      decide
  · refine ⟨fun p ↦ ⟨p, 50, [], p⟩,
      { create 100 (fun p : ℕ ↦ .create (100 * p) 0 false 0) with mClients := [0, 2] }, ?_, ?_⟩
    · rw [Refused]
      decide
    · rw [Explained]
      decide

end State

end VirtualCamera.ClientManager
