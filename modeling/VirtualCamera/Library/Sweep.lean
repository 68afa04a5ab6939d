import Mathlib.Algebra.BigOperators.Group.List.Lemmas
import Mathlib.Algebra.Order.BigOperators.Group.List
import Mathlib.Algebra.Order.Group.Defs
import Mathlib.Tactic.Abel

namespace VirtualCamera.Library.Sweep

/-! ### Taking elements of a list while a total is over a limit -/

variable {α M : Type}

/-- Elements that must be taken, and those that may be while the total is over the limit. -/
structure Policy (α M : Type) where
  cost : α → M
  limit : M
  must : α → Bool
  may : α → Bool

variable [AddCommGroup M] [LinearOrder M] (p : Policy α M)

namespace Policy

def takes (total : M) (a : α) : Bool := p.must a || decide (p.limit < total) && p.may a

/-- What is taken, and the total that is left. -/
def sweep (total : M) : List α → List α × M
  | [] => ([], total)
  | a :: l =>
    if p.takes total a then
      (a :: (sweep (total - p.cost a) l).1, (sweep (total - p.cost a) l).2)
    else sweep total l

theorem sweep_taken {total : M} {a : α} (h : p.takes total a = true) (l : List α) :
    p.sweep total (a :: l) =
      (a :: (p.sweep (total - p.cost a) l).1, (p.sweep (total - p.cost a) l).2) := by
  rw [sweep, if_pos h]

theorem sweep_passed {total : M} {a : α} (h : p.takes total a = false) (l : List α) :
    p.sweep total (a :: l) = p.sweep total l := by
  rw [sweep, if_neg (by rw [h]; exact Bool.false_ne_true)]

theorem sweep_append (total : M) (l l' : List α) :
    p.sweep total (l ++ l') =
      ((p.sweep total l).1 ++ (p.sweep (p.sweep total l).2 l').1,
        (p.sweep (p.sweep total l).2 l').2) := by
  induction l generalizing total with
  | nil => rfl
  | cons a l ih =>
    rw [List.cons_append]
    cases h : p.takes total a with
    | true => rw [p.sweep_taken h, p.sweep_taken h, ih, List.cons_append]
    | false => rw [p.sweep_passed h, p.sweep_passed h, ih]

theorem sweep_sublist (total : M) (l : List α) : (p.sweep total l).1.Sublist l := by
  induction l generalizing total with
  | nil => exact List.Sublist.refl []
  | cons a l ih =>
    cases h : p.takes total a with
    | true =>
      rw [p.sweep_taken h]
      exact (ih _).cons_cons a
    | false =>
      rw [p.sweep_passed h]
      exact (ih _).cons a

theorem sweep_total (total : M) (l : List α) :
    (p.sweep total l).2 = total - ((p.sweep total l).1.map p.cost).sum := by
  induction l generalizing total with
  | nil => exact (sub_zero total).symm
  | cons a l ih =>
    cases h : p.takes total a with
    | true =>
      rw [p.sweep_taken h, List.map_cons, List.sum_cons, ih, sub_sub]
    | false => rw [p.sweep_passed h, ih]

/-- Each element in its turn: what is taken before it comes from before it, and the total then is
what decides. -/
theorem sweep_turn (total : M) (pre : List α) (a : α) (post : List α) :
    ∃ before after, (p.sweep total (pre ++ a :: post)).1 = before ++ after ∧
      before.Sublist pre ∧
      (p.takes (total - (before.map p.cost).sum) a = true ∧
          (∃ rest, after = a :: rest ∧ rest.Sublist post) ∨
        p.takes (total - (before.map p.cost).sum) a = false ∧ after.Sublist post) := by
  refine ⟨(p.sweep total pre).1, (p.sweep (p.sweep total pre).2 (a :: post)).1,
    by rw [sweep_append], p.sweep_sublist total pre, ?_⟩
  rw [← p.sweep_total total pre]
  cases h : p.takes (p.sweep total pre).2 a with
  | true =>
    rw [p.sweep_taken h]
    exact .inl ⟨rfl, _, rfl, p.sweep_sublist _ post⟩
  | false =>
    rw [p.sweep_passed h]
    exact .inr ⟨rfl, p.sweep_sublist _ post⟩

/-- What is taken was to be taken when its turn came. -/
theorem sweep_mem {total : M} {l before : List α} {a : α} {after : List α}
    (h : (p.sweep total l).1 = before ++ a :: after) :
    p.takes (total - (before.map p.cost).sum) a = true := by
  induction l generalizing total before with
  | nil => exact absurd h (by simp [sweep])
  | cons b l ih =>
    cases hb : p.takes total b with
    | false =>
      rw [p.sweep_passed hb] at h
      exact ih h
    | true =>
      rw [p.sweep_taken hb] at h
      cases before with
      | nil =>
        obtain ⟨rfl, -⟩ := List.cons.inj h
        simpa using hb
      | cons c before =>
        obtain ⟨rfl, hrest⟩ := List.cons.inj h
        rw [List.map_cons, List.sum_cons, ← sub_sub]
        exact ih hrest

theorem mem_sweep_of_must {total : M} {l : List α} {a : α} (ha : a ∈ l)
    (hm : p.must a = true) : a ∈ (p.sweep total l).1 := by
  have ht : ∀ total, p.takes total a = true := fun total ↦ by rw [takes, hm, Bool.true_or]
  induction l generalizing total with
  | nil => exact absurd ha List.not_mem_nil
  | cons b l ih =>
    obtain rfl | ha := List.mem_cons.mp ha
    · rw [p.sweep_taken (ht total)]
      exact List.mem_cons_self
    · cases hb : p.takes total b with
      | true =>
        rw [p.sweep_taken hb]
        exact List.mem_cons_of_mem b (ih ha)
      | false =>
        rw [p.sweep_passed hb]
        exact ih ha

section Bounds

def takeable (l : List α) : M := ((l.filter fun a ↦ p.must a || p.may a).map p.cost).sum

omit [LinearOrder M] in
theorem takeable_cons_pos {a : α} (h : (p.must a || p.may a) = true) (l : List α) :
    p.takeable (a :: l) = p.cost a + p.takeable l := by
  simp only [takeable, List.filter_cons, h, if_true, List.map_cons, List.sum_cons]

omit [LinearOrder M] in
theorem takeable_cons_neg {a : α} (h : (p.must a || p.may a) = false) (l : List α) :
    p.takeable (a :: l) = p.takeable l := by
  simp only [takeable, List.filter_cons, h, Bool.false_eq_true, if_false]

omit [AddCommGroup M] in
theorem must_or_may {total : M} {a : α} (h : p.takes total a = true) :
    (p.must a || p.may a) = true := by
  rw [takes, Bool.or_eq_true, Bool.and_eq_true] at h
  rw [Bool.or_eq_true]
  exact h.imp_right And.right

omit [AddCommGroup M] in
/-- What could be taken and is not has met a total within the limit. -/
theorem le_limit_of_passed {total : M} {a : α} (h : p.takes total a = false)
    (hpos : (p.must a || p.may a) = true) : total ≤ p.limit := by
  rw [takes, Bool.or_eq_false_iff, Bool.and_eq_false_iff, decide_eq_false_iff_not, not_lt] at h
  obtain ⟨hmust, ht | hmay⟩ := h
  · exact ht
  · rw [hmust, hmay] at hpos
    cases hpos

variable [IsOrderedAddMonoid M]

theorem takeable_nonneg {l : List α}
    (hc : ∀ a ∈ l, (p.must a || p.may a) = true → 0 ≤ p.cost a) : 0 ≤ p.takeable l := by
  refine List.sum_nonneg fun x hx ↦ ?_
  obtain ⟨a, ha, rfl⟩ := List.mem_map.mp hx
  obtain ⟨ha, hpos⟩ := List.mem_filter.mp ha
  exact hc a ha hpos

/-- With costs that are not negative, the total stays over the limit only if it does with all
taken that can be. -/
theorem limit_lt_sweep_iff {total : M} {l : List α}
    (hc : ∀ a ∈ l, (p.must a || p.may a) = true → 0 ≤ p.cost a) :
    p.limit < (p.sweep total l).2 ↔ p.limit < total - p.takeable l := by
  induction l generalizing total with
  | nil => simp [sweep, takeable]
  | cons a l ih =>
    have hrec : ∀ total, p.limit < (p.sweep total l).2 ↔ p.limit < total - p.takeable l :=
      fun total ↦ ih fun b hb ↦ hc b (List.mem_cons_of_mem a hb)
    cases h : p.takes total a with
    | true => rw [p.sweep_taken h, hrec, p.takeable_cons_pos (p.must_or_may h), sub_sub]
    | false =>
      rw [p.sweep_passed h, hrec]
      cases hpos : p.must a || p.may a with
      | false => rw [p.takeable_cons_neg hpos]
      | true =>
        have ht := p.le_limit_of_passed h hpos
        have hl := p.takeable_nonneg fun b hb ↦ hc b (List.mem_cons_of_mem a hb)
        exact iff_of_false (not_lt.mpr ((sub_le_self total hl).trans ht))
          (not_lt.mpr ((sub_le_self total (p.takeable_nonneg hc)).trans ht))

end Bounds

end Policy

end VirtualCamera.Library.Sweep
