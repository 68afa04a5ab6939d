import Mathlib.Data.List.Basic
import Mathlib.Data.List.Nodup

namespace VirtualCamera.Library.Cursor

/-! ### A cursor in a chain of keyed nodes

The cursor stands at the node with some key. The chain is edited while it stands there. -/

variable {κ ν : Type} [DecidableEq κ]

def keys (l : List (κ × ν)) : List κ := l.map Prod.fst

/-- The nodes from the one with the key on. -/
def fromKey (k : κ) (l : List (κ × ν)) : List (κ × ν) := l.dropWhile fun x ↦ x.1 ≠ k

/-- The nodes behind it. -/
def afterKey (k : κ) (l : List (κ × ν)) : List (κ × ν) := (fromKey k l).tail

/-- The chain without the node of a key. -/
def without (k : κ) (l : List (κ × ν)) : List (κ × ν) := l.filter fun x ↦ x.1 ≠ k

theorem fromKey_cons_self (k : κ) (v : ν) (l : List (κ × ν)) :
    fromKey k ((k, v) :: l) = (k, v) :: l := by
  unfold fromKey
  rw [List.dropWhile_cons_of_neg (by simp)]

theorem fromKey_cons_of_ne {k : κ} {x : κ × ν} (h : x.1 ≠ k) (l : List (κ × ν)) :
    fromKey k (x :: l) = fromKey k l := by
  unfold fromKey
  rw [List.dropWhile_cons_of_pos (by simpa using h)]

theorem fromKey_suffix (k : κ) (l : List (κ × ν)) : fromKey k l <:+ l := List.dropWhile_suffix _

theorem afterKey_suffix (k : κ) (l : List (κ × ν)) : afterKey k l <:+ l :=
  (List.tail_suffix _).trans (fromKey_suffix k l)

theorem mem_without {k : κ} {l : List (κ × ν)} {x : κ × ν} :
    x ∈ without k l ↔ x ∈ l ∧ x.1 ≠ k := by
  unfold without
  rw [List.mem_filter, decide_eq_true_iff]

theorem mem_keys_without {j k : κ} {l : List (κ × ν)} :
    j ∈ keys (without k l) ↔ j ∈ keys l ∧ j ≠ k := by
  unfold keys
  simp only [List.mem_map, mem_without]
  constructor
  · intro h
    obtain ⟨x, ⟨hx, hne⟩, rfl⟩ := h
    exact ⟨⟨x, hx, rfl⟩, hne⟩
  · intro h
    obtain ⟨⟨x, hx, rfl⟩, hne⟩ := h
    exact ⟨x, ⟨hx, hne⟩, rfl⟩

theorem nodup_without {l : List (κ × ν)} (h : (keys l).Nodup) (k : κ) :
    (keys (without k l)).Nodup :=
  h.sublist (List.Sublist.map Prod.fst List.filter_sublist)

/-- A cursor at one node is not moved by the removal of another. -/
theorem fromKey_without {j k : κ} (h : j ≠ k) (l : List (κ × ν)) :
    fromKey j (without k l) = without k (fromKey j l) := by
  induction l with
  | nil => rfl
  | cons x l ih =>
    by_cases hj : x.1 = j
    · obtain ⟨i, v⟩ := x
      cases hj
      have hkeep : without k ((i, v) :: l) = (i, v) :: without k l :=
        List.filter_cons_of_pos (by simpa using h)
      rw [fromKey_cons_self, hkeep, fromKey_cons_self]
    · rw [fromKey_cons_of_ne hj]
      by_cases hk : x.1 = k
      · have hdrop : without k (x :: l) = without k l := List.filter_cons_of_neg (by simpa using hk)
        rw [hdrop, ih]
      · have hkeep : without k (x :: l) = x :: without k l :=
          List.filter_cons_of_pos (by simpa using hk)
        rw [hkeep, fromKey_cons_of_ne hj, ih]

theorem exists_fromKey {k : κ} {l : List (κ × ν)} (h : k ∈ keys l) :
    ∃ v, (k, v) ∈ l ∧ fromKey k l = (k, v) :: afterKey k l := by
  induction l with
  | nil => cases h
  | cons x l ih =>
    by_cases hk : x.1 = k
    · obtain ⟨i, v⟩ := x
      cases hk
      refine ⟨v, List.mem_cons_self, ?_⟩
      unfold afterKey
      rw [fromKey_cons_self]
      rfl
    · obtain ⟨v, hmem, hfrom⟩ := ih ((List.mem_cons.mp h).resolve_left fun he ↦ hk he.symm)
      refine ⟨v, List.mem_cons_of_mem _ hmem, ?_⟩
      unfold afterKey at hfrom ⊢
      rw [fromKey_cons_of_ne hk]
      exact hfrom

theorem afterKey_without {j k : κ} (h : j ≠ k) {l : List (κ × ν)} (hj : j ∈ keys l) :
    afterKey j (without k l) = without k (afterKey j l) := by
  obtain ⟨v, -, hfrom⟩ := exists_fromKey hj
  have hkeep : without k ((j, v) :: afterKey j l) = (j, v) :: without k (afterKey j l) :=
    List.filter_cons_of_pos (by simpa using h)
  have hafter : afterKey j (without k l) = (without k (fromKey j l)).tail := by
    rw [← fromKey_without h]
    rfl
  rw [hafter, hfrom, hkeep, List.tail_cons]

/-- The cursor goes on to the next node. -/
theorem fromKey_next {k : κ} {y : κ × ν} {l rest : List (κ × ν)} (hnodup : (keys l).Nodup)
    (h : afterKey k l = y :: rest) : fromKey y.1 l = y :: rest := by
  have hsuffix : y :: rest <:+ l := h ▸ afterKey_suffix k l
  obtain ⟨front, rfl⟩ := hsuffix
  clear h
  induction front with
  | nil => exact fromKey_cons_self _ _ _
  | cons x front ih =>
    have hnodup' : x.1 ∉ keys (front ++ y :: rest) ∧ (keys (front ++ y :: rest)).Nodup :=
      List.nodup_cons.mp hnodup
    have hne : x.1 ≠ y.1 := by
      rintro he
      apply hnodup'.1
      rw [he]
      exact List.mem_map_of_mem (List.mem_append_right _ List.mem_cons_self)
    rw [List.cons_append, fromKey_cons_of_ne hne]
    exact ih hnodup'.2

end VirtualCamera.Library.Cursor
