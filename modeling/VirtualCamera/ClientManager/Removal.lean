import VirtualCamera.ClientManager.Eviction

namespace VirtualCamera.ClientManager

variable {P K : Type} [DecidableEq P] [DecidableEq K] {clients : P → ClientDescriptor K}

namespace State

variable {s : State P}

/-! ### What the removal pass keeps -/

theorem eraseEvicted_eq {evicted l : List P} (hk : (l.map fun p ↦ (clients p).mKey).Nodup)
    (hsub : evicted.Sublist l) :
    (eraseEvicted clients evicted l).1 ++ (eraseEvicted clients evicted l).2 =
      l.filter (· ∉ evicted) := by
  induction l generalizing evicted with
  | nil =>
    cases hsub
    rfl
  | cons cur l ih =>
    rw [List.map_cons, List.nodup_cons] at hk
    have hout : ∀ p ∈ l, (clients cur).mKey ≠ (clients p).mKey :=
      fun p hp hc ↦ hk.1 (hc ▸ List.mem_map_of_mem hp)
    cases evicted with
    | nil => simp [eraseEvicted]
    | cons i evicted =>
      simp only [eraseEvicted]
      cases hsub with
      | cons _ hsub =>
        have hcur : cur ∉ i :: evicted := fun hc ↦ hout cur (hsub.subset hc) rfl
        rw [if_neg (hout i (hsub.subset List.mem_cons_self)),
          List.filter_cons_of_pos (by simpa using hcur), List.cons_append, ih hk.2 hsub]
      | cons_cons _ hsub =>
        rw [if_pos rfl, List.filter_cons_of_neg (by simp), ih hk.2 hsub]
        -- the client that is removed is not among those behind it
        refine List.filter_congr fun p hp ↦ ?_
        have hne : p ≠ cur := fun hc ↦ hout p hp (by rw [hc])
        simp [hne]

omit [DecidableEq P] in
/-- The clients that meet the cursor past the end are those behind the last evicted one. -/
theorem eraseEvicted_behind {evicted l : List P}
    (hk : (l.map fun p ↦ (clients p).mKey).Nodup) (hsub : evicted.Sublist l) :
    (eraseEvicted clients evicted l).2 = [] ↔
      l = [] ∨ evicted ≠ [] ∧ l.getLast? = evicted.getLast? := by
  induction l generalizing evicted with
  | nil =>
    cases hsub
    exact iff_of_true rfl (.inl rfl)
  | cons cur l ih =>
    rw [List.map_cons, List.nodup_cons] at hk
    have hout : ∀ p ∈ l, (clients cur).mKey ≠ (clients p).mKey :=
      fun p hp hc ↦ hk.1 (hc ▸ List.mem_map_of_mem hp)
    cases evicted with
    | nil => simp [eraseEvicted]
    | cons i evicted =>
      simp only [eraseEvicted]
      cases hsub with
      | cons _ hsub =>
        have hi : i ∈ l := hsub.subset List.mem_cons_self
        obtain ⟨b, l, rfl⟩ := List.exists_cons_of_ne_nil (List.ne_nil_of_mem hi)
        rw [if_neg (hout i hi), List.getLast?_cons_cons]
        simpa using ih hk.2 hsub
      | cons_cons _ hsub =>
        rw [if_pos rfl, ih hk.2 hsub]
        cases evicted with
        | nil =>
          cases l with
          | nil => simp
          | cons b l =>
            -- the last client is not the one that was evicted
            have hlast : (b :: l).getLast? ≠ some cur := fun hc ↦
              hout cur (List.mem_of_getLast? hc) rfl
            simpa [List.getLast?_cons_cons] using hlast
        | cons j evicted =>
          obtain ⟨b, l, rfl⟩ :=
            List.exists_cons_of_ne_nil (List.ne_nil_of_mem (hsub.subset List.mem_cons_self))
          simp [List.getLast?_cons_cons]

/-- The predicate of `remove_if` is asked for a client when its cursor is at the end. -/
def PastEnd (clients : P → ClientDescriptor K) (s : State P) (evicted : List P) : Prop :=
  evicted ≠ [] ∧ (eraseEvicted clients evicted s.mClients).2 ≠ []

/-- The pass removes the clients of the eviction list and no others, whatever lies behind the
list, and does not look there. -/
structure RemovesEvicted (clients : P → ClientDescriptor K) (s : State P) (evicted : List P) :
    Prop where
  removed : ∀ beyond, (s.evict clients evicted beyond).mClients = s.mClients.filter (· ∉ evicted)
  inside : ¬ s.PastEnd clients evicted

omit [DecidableEq P] in
theorem pastEnd_iff {evicted : List P} (hk : (s.mClients.map fun p ↦ (clients p).mKey).Nodup)
    (hsub : evicted.Sublist s.mClients) :
    s.PastEnd clients evicted ↔
      evicted ≠ [] ∧ s.mClients.getLast? ≠ evicted.getLast? := by
  refine and_congr_right fun hne ↦ not_congr ?_
  rw [eraseEvicted_behind hk hsub, and_iff_right hne, or_iff_right]
  rintro he
  rw [he] at hsub
  exact hne (List.sublist_nil.mp hsub)

theorem evict_mClients_eq {evicted : List P}
    (hk : (s.mClients.map fun p ↦ (clients p).mKey).Nodup) (hsub : evicted.Sublist s.mClients)
    {beyond : P → Bool}
    (hb : evicted ≠ [] → ∀ p ∈ (eraseEvicted clients evicted s.mClients).2, beyond p = false) :
    (s.evict clients evicted beyond).mClients = s.mClients.filter (· ∉ evicted) := by
  cases evicted with
  | nil => simp [evict]
  | cons i evicted =>
    have hall : (eraseEvicted clients (i :: evicted) s.mClients).2.filter (!beyond ·) =
        (eraseEvicted clients (i :: evicted) s.mClients).2 :=
      List.filter_eq_self.mpr fun p hp ↦ by rw [hb (List.cons_ne_nil i evicted) p hp]; rfl
    simp only [evict]
    rw [hall, eraseEvicted_eq hk hsub]

/-- An accepted client: the first of those that are reported as evicted is another one. -/
def Accepts (clients : P → ClientDescriptor K) (s : State P) (client : P) : Prop :=
  (s.wouldEvictLocked clients (some client) false).head? ≠ some (some client)

omit [DecidableEq P] in
theorem Accepts.evicts {client : P} (h : s.Accepts clients client) :
    Evicts clients client s.mClients (s.wouldEvict clients client) := by
  refine (wouldEvict_spec clients s client).resolve_left fun he ↦ h ?_
  rw [wouldEvictLocked, he]
  rfl

theorem removesEvicted_iff {client : P} (hk : (s.mClients.map fun p ↦ (clients p).mKey).Nodup)
    (h : s.Accepts clients client) :
    s.RemovesEvicted clients (s.wouldEvict clients client) ↔
      s.wouldEvict clients client = [] ∨
        s.mClients.getLast? = (s.wouldEvict clients client).getLast? := by
  have hsub := h.evicts.sublist
  have hend := pastEnd_iff hk hsub
  constructor
  · intro hr
    by_contra hc
    rw [not_or] at hc
    exact hr.inside (hend.mpr hc)
  · intro hlast
    have hin : ¬ s.PastEnd clients (s.wouldEvict clients client) :=
      fun hp ↦ hlast.elim (hend.mp hp).1 (hend.mp hp).2
    refine ⟨fun beyond ↦ evict_mClients_eq hk hsub fun hne p hp ↦ absurd ⟨hne, ?_⟩ hin, hin⟩
    exact List.ne_nil_of_mem hp

theorem removesEvicted_iff_all :
    let clients : ℕ → ClientDescriptor ℕ := fun p ↦ ⟨p, 10, if p = 2 then [0, 1] else [], p⟩
    let s : State ℕ := { create 100 (fun _ ↦ .create 100 0 false 0) with mClients := [0, 1] }
    (s.RemovesEvicted clients (s.wouldEvict clients 2) ↔
      s.wouldEvict clients 2 = [] ∨
        s.mClients.getLast? = (s.wouldEvict clients 2).getLast?) ∧
      s.wouldEvict clients 2 = [0, 1] := by
  intro clients s
  exact ⟨removesEvicted_iff (by decide) (by unfold Accepts; decide), by decide⟩

/-- The older of two clients is evicted, and the other is compared with what lies behind it. -/
theorem removesEvicted_fails :
    ¬ ∀ (clients : ℕ → ClientDescriptor ℕ) (s : State ℕ) (client : ℕ),
      (s.mClients.map fun p ↦ (clients p).mKey).Nodup → s.Accepts clients client →
        s.RemovesEvicted clients (s.wouldEvict clients client) := by
  intro h
  let clients : ℕ → ClientDescriptor ℕ := fun p ↦ ⟨p, 10, if p = 2 then [0] else [], p⟩
  let s : State ℕ := { create 100 (fun _ ↦ .create 100 0 false 0) with mClients := [0, 1] }
  have hr := h clients s 2 (by decide) (by unfold Accepts; decide)
  refine hr.inside ⟨by decide, ?_⟩
  decide

end State

end VirtualCamera.ClientManager
