import Mathlib.Data.Finset.Sort
import Mathlib.Data.List.Sort

namespace VirtualCamera.Library.Reorder

variable {α κ : Type} [LinearOrder κ] (key : α → κ)

/-- Insertion from the end of a list, which is given from its end. An item whose key
is there already is refused. -/
def insertBack (a : α) : List α → Option (List α)
  | [] => some [a]
  | b :: l =>
    if key a < key b then (insertBack a l).map (b :: ·)
    else if key b < key a then some (a :: b :: l)
    else none

def insertKeyed (a : α) (l : List α) : Option (List α) :=
  (insertBack key a l.reverse).map List.reverse

/-- The items in the order of their keys, each key once. -/
def Ordered (l : List α) : Prop := l.Pairwise fun a b ↦ key a < key b

def enqueue (l : List α) (a : α) : List α := (insertKeyed key a l).getD l

variable {key} {a : α} {l l' : List α}

theorem insertBack_perm (h : insertBack key a l = some l') : l'.Perm (a :: l) := by
  induction l generalizing l' with
  | nil =>
    simp only [insertBack, Option.some.injEq] at h
    exact h ▸ .refl _
  | cons b l ih =>
    simp only [insertBack] at h
    split at h
    · obtain ⟨m, hm, rfl⟩ := Option.map_eq_some_iff.mp h
      exact ((ih hm).cons b).trans (.swap a b l)
    · split at h
      · cases h
        exact .refl _
      · cases h

theorem insertBack_eq_none (hl : l.Pairwise fun a b ↦ key b < key a) :
    insertBack key a l = none ↔ key a ∈ l.map key := by
  induction l with
  | nil => simp [insertBack]
  | cons b l ih =>
    obtain ⟨hb, hl⟩ := List.pairwise_cons.mp hl
    have hlow : ∀ k ∈ l.map key, k < key b := by
      intro k hk
      obtain ⟨c, hc, rfl⟩ := List.mem_map.mp hk
      exact hb c hc
    simp only [insertBack, List.map_cons, List.mem_cons]
    split
    · rename_i hlt
      simp [ih hl, hlt.ne]
    · split
      · rename_i hgt
        simp only [reduceCtorEq, false_iff, not_or]
        exact ⟨hgt.ne', fun hk ↦ absurd (hlow _ hk) hgt.not_gt⟩
      · rename_i hge hle
        simp [le_antisymm (not_lt.mp hle) (not_lt.mp hge)]

theorem insertBack_descending (hl : l.Pairwise fun a b ↦ key b < key a)
    (h : insertBack key a l = some l') : l'.Pairwise fun a b ↦ key b < key a := by
  induction l generalizing l' with
  | nil =>
    simp only [insertBack, Option.some.injEq] at h
    exact h ▸ List.pairwise_singleton _ _
  | cons b l ih =>
    obtain ⟨hb, hl⟩ := List.pairwise_cons.mp hl
    simp only [insertBack] at h
    split at h
    · rename_i hlt
      obtain ⟨m, hm, rfl⟩ := Option.map_eq_some_iff.mp h
      refine List.pairwise_cons.mpr ⟨fun c hc ↦ ?_, ih hl hm⟩
      obtain rfl | hc := List.mem_cons.mp ((insertBack_perm hm).mem_iff.mp hc)
      · exact hlt
      · exact hb c hc
    · split at h
      · rename_i hgt
        cases h
        refine List.pairwise_cons.mpr ⟨fun c hc ↦ ?_, List.pairwise_cons.mpr ⟨hb, hl⟩⟩
        obtain rfl | hc := List.mem_cons.mp hc
        · exact hgt
        · exact (hb c hc).trans hgt
      · cases h

theorem insertKeyed_perm (h : insertKeyed key a l = some l') : l'.Perm (a :: l) := by
  obtain ⟨m, hm, rfl⟩ := Option.map_eq_some_iff.mp h
  exact m.reverse_perm.trans ((insertBack_perm hm).trans (l.reverse_perm.cons a))

theorem insertKeyed_eq_none (hl : Ordered key l) :
    insertKeyed key a l = none ↔ key a ∈ l.map key := by
  rw [insertKeyed, Option.map_eq_none_iff, insertBack_eq_none (List.pairwise_reverse.mpr hl)]
  simp

theorem insertKeyed_ordered (hl : Ordered key l) (h : insertKeyed key a l = some l') :
    Ordered key l' := by
  obtain ⟨m, hm, rfl⟩ := Option.map_eq_some_iff.mp h
  have := insertBack_descending (List.pairwise_reverse.mpr hl) hm
  exact List.pairwise_reverse.mpr this

/-- An item above all others goes to the end. -/
theorem enqueue_last (h : ∀ b ∈ l, key b < key a) : enqueue key l a = l ++ [a] := by
  have hback : insertBack key a l.reverse = some (a :: l.reverse) := by
    cases hr : l.reverse with
    | nil => rfl
    | cons b m =>
      have hb : key b < key a := h b (List.mem_reverse.mp (hr ▸ List.mem_cons_self))
      rw [insertBack, if_neg hb.not_gt, if_pos hb]
  unfold enqueue insertKeyed
  rw [hback, Option.map_some, Option.getD_some, List.reverse_cons, List.reverse_reverse]

theorem enqueue_ordered (hl : Ordered key l) (a : α) : Ordered key (enqueue key l a) := by
  unfold enqueue
  cases h : insertKeyed key a l with
  | none => exact hl
  | some l' => exact insertKeyed_ordered hl h

theorem mem_enqueue {b : α} (h : b ∈ enqueue key l a) : b = a ∨ b ∈ l := by
  unfold enqueue at h
  cases hi : insertKeyed key a l with
  | none =>
    rw [hi] at h
    exact .inr h
  | some l' =>
    rw [hi] at h
    exact List.mem_cons.mp ((insertKeyed_perm hi).mem_iff.mp h)

theorem mem_map_enqueue (hl : Ordered key l) {k : κ} :
    k ∈ (enqueue key l a).map key ↔ k = key a ∨ k ∈ l.map key := by
  unfold enqueue
  cases h : insertKeyed key a l with
  | none =>
    have := (insertKeyed_eq_none hl).mp h
    constructor
    · exact .inr
    · rintro (rfl | hk)
      · exact this
      · exact hk
  | some l' =>
    rw [Option.getD_some, ((insertKeyed_perm h).map key).mem_iff, List.map_cons, List.mem_cons]

theorem enqueueAll_ordered (hl : Ordered key l) (as : List α) :
    Ordered key (as.foldl (enqueue key) l) := by
  induction as generalizing l with
  | nil => exact hl
  | cons a as ih => exact ih (enqueue_ordered hl a)

theorem mem_enqueueAll {b : α} {as : List α} (h : b ∈ as.foldl (enqueue key) l) :
    b ∈ as ∨ b ∈ l := by
  induction as generalizing l with
  | nil => exact .inr h
  | cons a as ih =>
    obtain h | h := ih h
    · exact .inl (List.mem_cons_of_mem a h)
    · obtain rfl | h := mem_enqueue h
      · exact .inl List.mem_cons_self
      · exact .inr h

theorem mem_map_enqueueAll (hl : Ordered key l) (as : List α) {k : κ} :
    k ∈ (as.foldl (enqueue key) l).map key ↔ k ∈ as.map key ∨ k ∈ l.map key := by
  induction as generalizing l with
  | nil => simp
  | cons a as ih =>
    rw [List.foldl_cons, ih (enqueue_ordered hl a), mem_map_enqueue hl, List.map_cons,
      List.mem_cons, or_left_comm, or_assoc]

/-- What is enqueued in any order comes out in the order of the keys, each key once. -/
theorem map_enqueueAll (hl : Ordered key l) (as : List α) :
    (as.foldl (enqueue key) l).map key =
      ((as.map key).toFinset ∪ (l.map key).toFinset).sort (· ≤ ·) := by
  have hsorted : ((as.foldl (enqueue key) l).map key).SortedLT :=
    (List.pairwise_map.mpr (enqueueAll_ordered hl as)).sortedLT
  apply List.Subset.antisymm_of_sortedLT _ _ hsorted (Finset.sortedLT_sort _)
  · intro k hk
    simpa [mem_map_enqueueAll hl] using hk
  · intro k hk
    simpa [mem_map_enqueueAll hl] using hk

/-- With items that are told by their keys the queue holds exactly those items. -/
theorem enqueueAll_eq {item : κ → α} (hl : Ordered key l) (as : List α)
    (has : ∀ b ∈ as, item (key b) = b) (hll : ∀ b ∈ l, item (key b) = b) :
    as.foldl (enqueue key) l =
      (((as.map key).toFinset ∪ (l.map key).toFinset).sort (· ≤ ·)).map item := by
  rw [← map_enqueueAll hl as, List.map_map]
  symm
  refine (List.map_congr_left fun b hb ↦ ?_).trans (List.map_id _)
  obtain hb | hb := mem_enqueueAll hb
  · exact has b hb
  · exact hll b hb

/-- Items of all the numbers of a range, each any number of times, come out as the range. -/
theorem enqueueAll_range {key : α → ℕ} {item : ℕ → α} {as : List α} {k k' : ℕ}
    (has : ∀ b ∈ as, item (key b) = b) (hrange : ∀ n, n ∈ as.map key ↔ k ≤ n ∧ n < k') :
    as.foldl (enqueue key) [] = (List.range' k (k' - k)).map item := by
  rw [enqueueAll_eq (l := []) List.Pairwise.nil as has (by simp)]
  congr 1
  have hsorted : (List.range' k (k' - k)).SortedLT :=
    (List.pairwise_lt_range' (s := k) (n := k' - k)).sortedLT
  have hmem : ∀ n, n ∈ ((as.map key).toFinset ∪ (([] : List α).map key).toFinset).sort (· ≤ ·) ↔
      n ∈ List.range' k (k' - k) := by
    intro n
    simp only [List.map_nil, List.toFinset_nil, Finset.union_empty, Finset.mem_sort,
      List.mem_toFinset, hrange, List.mem_range'_1]
    omega
  exact List.Subset.antisymm_of_sortedLT (fun n h ↦ (hmem n).mp h) (fun n h ↦ (hmem n).mpr h)
    (Finset.sortedLT_sort _) hsorted

end VirtualCamera.Library.Reorder
