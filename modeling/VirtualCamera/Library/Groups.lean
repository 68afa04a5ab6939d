import Mathlib.Data.List.Basic
import Mathlib.Algebra.BigOperators.Group.List.Basic
import Mathlib.Tactic.Ring

namespace VirtualCamera.Library.Groups

variable {α : Type}

/-- A loop that fills one group after another, here with `cur` in the group it fills. -/
def groupsFrom (n : ℕ) (cur : List α) : List α → List (List α)
  | [] => [cur]
  | a :: l => if cur.length < n then groupsFrom n (cur ++ [a]) l else cur :: groupsFrom n [a] l

/-- A list in groups of `n`. The empty list is one group. -/
def groups (n : ℕ) (l : List α) : List (List α) := groupsFrom n [] l

/-- As many as are needed, for a list that is not empty. -/
def groupCount (n k : ℕ) : ℕ := k / n + if k % n ≠ 0 then 1 else 0

theorem groupsFrom_flatten (n : ℕ) (cur l : List α) : (groupsFrom n cur l).flatten = cur ++ l := by
  induction l generalizing cur with
  | nil => simp [groupsFrom]
  | cons a l ih =>
    simp only [groupsFrom]
    split
    · rw [ih, List.append_assoc, List.singleton_append]
    · rw [List.flatten_cons, ih, List.singleton_append]

/-- Nothing is lost, and the order stays. -/
theorem groups_flatten (n : ℕ) (l : List α) : (groups n l).flatten = l := groupsFrom_flatten n [] l

/-- There is always a first group. -/
theorem exists_groups_cons (n : ℕ) (l : List α) : ∃ g gs, groups n l = g :: gs := by
  have hfrom : ∀ (l cur : List α), ∃ g gs, groupsFrom n cur l = g :: gs := by
    intro l
    induction l with
    | nil => exact fun cur ↦ ⟨cur, [], rfl⟩
    | cons a l ih =>
      intro cur
      rw [groupsFrom]
      split
      · exact ih _
      · exact ⟨_, _, rfl⟩
  exact hfrom l []

theorem length_of_mem_groupsFrom {n : ℕ} (hn : 0 < n) {cur l g : List α} (hcur : cur.length ≤ n)
    (hg : g ∈ groupsFrom n cur l) : g.length ≤ n := by
  induction l generalizing cur with
  | nil =>
    rw [List.mem_singleton.mp hg]
    exact hcur
  | cons a l ih =>
    simp only [groupsFrom] at hg
    split at hg
    · apply ih _ hg
      rw [List.length_append, List.length_singleton]
      omega
    · obtain rfl | hg := List.mem_cons.mp hg
      · exact hcur
      · exact ih (show [a].length ≤ n from hn) hg

theorem length_of_mem_groups {n : ℕ} (hn : 0 < n) {l g : List α} (hg : g ∈ groups n l) :
    g.length ≤ n := 
  length_of_mem_groupsFrom hn (show ([] : List α).length ≤ n from Nat.zero_le n) hg

theorem groupCount_add {n : ℕ} (hn : 0 < n) (k : ℕ) : groupCount n (n + k) = groupCount n k + 1 := by
  unfold groupCount
  rw [Nat.add_div_left k hn, Nat.add_mod_left]
  omega

theorem groupCount_of_le {n k : ℕ} (hk : 0 < k) (hkn : k ≤ n) : groupCount n k = 1 := by
  unfold groupCount
  obtain rfl | hlt := Nat.eq_or_lt_of_le hkn
  · rw [Nat.div_self hk, Nat.mod_self]
    rfl
  · rw [Nat.div_eq_of_lt hlt, Nat.mod_eq_of_lt hlt, if_pos (by omega)]

theorem length_groupsFrom {n : ℕ} (hn : 0 < n) {cur l : List α} (hpos : 0 < cur.length)
    (hcur : cur.length ≤ n) :
    (groupsFrom n cur l).length = groupCount n (cur.length + l.length) := by
  induction l generalizing cur with
  | nil => exact (groupCount_of_le hpos hcur).symm
  | cons a l ih =>
    simp only [groupsFrom]
    split
    · rw [ih (by simp) (by rw [List.length_append, List.length_singleton]; omega)]
      simp only [List.length_append, List.length_cons, List.length_nil]
      congr 1
      omega
    · have hfull : cur.length = n := by omega
      rw [List.length_cons, ih (show 0 < [a].length from Nat.one_pos) hn, hfull, groupCount_add hn,
        Nat.add_comm [a].length]
      rfl

theorem length_groups {n : ℕ} (hn : 0 < n) {l : List α} (hl : l ≠ []) :
    (groups n l).length = groupCount n l.length := by
  cases l with
  | nil => exact (hl rfl).elim
  | cons a l =>
    simp only [groups, groupsFrom, List.length_nil, if_pos hn, List.nil_append]
    rw [length_groupsFrom hn (show 0 < [a].length from Nat.one_pos) hn, Nat.add_comm [a].length]
    rfl

/-- What is made of each item does not change the groups. -/
theorem groups_map {β : Type} (n : ℕ) (f : α → β) (l : List α) :
    groups n (l.map f) = (groups n l).map (List.map f) := by
  have hfrom : ∀ (l cur : List α),
      groupsFrom n (cur.map f) (l.map f) = (groupsFrom n cur l).map (List.map f) := by
    intro l
    induction l with
    | nil => exact fun _ ↦ rfl
    | cons a l ih =>
      intro cur
      simp only [List.map_cons, groupsFrom, List.length_map]
      split
      · rw [← ih, List.map_append, List.map_singleton]
      · rw [List.map_cons, ← ih, List.map_singleton]
  exact hfrom l []

/-- What is written for the groups, each with its own head: the heads and the items. -/
theorem sum_groups (n : ℕ) (head : ℕ) (size : α → ℕ) (l : List α) :
    ((groups n l).map fun g ↦ head + (g.map size).sum).sum =
      (groups n l).length * head + (l.map size).sum := by
  have hsum : ∀ gs : List (List α), (gs.map fun g ↦ head + (g.map size).sum).sum =
      gs.length * head + (gs.flatten.map size).sum := by
    intro gs
    induction gs with
    | nil => simp
    | cons g gs ih =>
      rw [List.map_cons, List.sum_cons, ih, List.flatten_cons, List.map_append, List.sum_append,
        List.length_cons]
      ring
  rw [hsum, groups_flatten]

end VirtualCamera.Library.Groups
