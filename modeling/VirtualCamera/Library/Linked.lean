import Mathlib.Data.List.Basic
import Mathlib.Data.List.Nodup
import Mathlib.Data.Option.Basic
import Mathlib.Logic.Function.Basic

namespace VirtualCamera.Library.Linked

/-! ### Nodes of a heap that are linked both ways -/

variable {ν β : Type}

/-- The allocated nodes. -/
abbrev Heap (ν : Type) := ℕ → Option ν

/-- A write through a pointer: nothing for null, and stuck on a node that was freed. -/
def Heap.edit (h : Heap ν) (f : ν → ν) : Option ℕ → Option (Heap ν)
  | none => some h
  | some p => (h p).map fun v ↦ Function.update h p (some (f v))

def Heap.free (h : Heap ν) (p : ℕ) : Heap ν := Function.update h p none

theorem free_other {h : Heap ν} {p y : ℕ} (hy : y ≠ p) : h.free p y = h y :=
  Function.update_of_ne hy _ _

section Edit

variable {h h' : Heap ν} {f : ν → ν}

theorem edit_of_read {p : ℕ} {v : ν} (hv : h p = some v) :
    h.edit f (some p) = some (Function.update h p (some (f v))) := by
  rw [Heap.edit, hv, Option.map_some]

theorem edit_other {p : Option ℕ} (he : h.edit f p = some h') {y : ℕ} (hy : p ≠ some y) :
    h' y = h y := by
  cases p with
  | none => exact congrFun (Option.some.inj he).symm y
  | some p =>
    obtain ⟨v, -, rfl⟩ := Option.map_eq_some_iff.mp he
    rw [Function.update_of_ne fun hyp ↦ hy (congrArg some hyp.symm)]

/-- What a write does not touch. -/
theorem edit_map {g : ν → β} (hg : ∀ v, g (f v) = g v) {p : Option ℕ}
    (he : h.edit f p = some h') (y : ℕ) : (h' y).map g = (h y).map g := by
  by_cases hy : p = some y
  · subst hy
    obtain ⟨v, hv, rfl⟩ := Option.map_eq_some_iff.mp he
    rw [Function.update_self, hv, Option.map_some, Option.map_some, hg]
  · rw [edit_other he hy]

end Edit

/-- Two fields of a node that point to its neighbours. -/
structure Links (ν : Type) where
  next : ν → Option ℕ
  prev : ν → Option ℕ
  setNext : Option ℕ → ν → ν
  setPrev : Option ℕ → ν → ν
  next_setNext : ∀ q v, next (setNext q v) = q
  prev_setNext : ∀ q v, prev (setNext q v) = prev v
  next_setPrev : ∀ q v, next (setPrev q v) = next v
  prev_setPrev : ∀ q v, prev (setPrev q v) = q

variable (L : Links ν)

/-- The nodes of a list are linked in its order, between two nodes or ends. -/
def Links.Seg (h : Heap ν) : Option ℕ → List ℕ → Option ℕ → Prop
  | _, [], _ => True
  | p, x :: l, n =>
    (h x).map L.prev = some p ∧ (h x).map L.next = some (l.head?.or n) ∧ Seg h (some x) l n

variable {L} {h h' : Heap ν} {p n : Option ℕ} {l l' : List ℕ}

theorem seg_append : L.Seg h p (l ++ l') n ↔
    L.Seg h p l (l'.head?.or n) ∧ L.Seg h (l.getLast?.or p) l' n := by
  induction l generalizing p with
  | nil => simp [Links.Seg]
  | cons x l ih =>
    have hhead : (l ++ l').head?.or n = l.head?.or (l'.head?.or n) := by
      rw [List.head?_append, Option.or_assoc]
    have hlast : (x :: l).getLast?.or p = l.getLast?.or (some x) := by
      rw [List.getLast?_cons]
      cases l.getLast? <;> rfl
    simp only [List.cons_append, Links.Seg, hhead, ih, hlast, and_assoc]

theorem Links.Seg.congr (hs : L.Seg h p l n)
    (heq : ∀ x ∈ l, (h' x).map L.prev = (h x).map L.prev ∧ (h' x).map L.next = (h x).map L.next) :
    L.Seg h' p l n := by
  induction l generalizing p with
  | nil => trivial
  | cons x l ih =>
    obtain ⟨hprev, hnext, hs⟩ := hs
    obtain ⟨hx, hl⟩ := List.forall_mem_cons.mp heq
    exact ⟨hx.1.trans hprev, hx.2.trans hnext, ih hs hl⟩

theorem Links.Seg.of_eq (hs : L.Seg h p l n) (heq : ∀ x ∈ l, h' x = h x) : L.Seg h' p l n :=
  hs.congr fun x hx ↦ by rw [heq x hx]; exact ⟨rfl, rfl⟩

theorem Links.Seg.read (hs : L.Seg h p l n) {x : ℕ} (hx : x ∈ l) : ∃ v, h x = some v := by
  induction l generalizing p with
  | nil => cases hx
  | cons y l ih =>
    obtain rfl | hx := List.mem_cons.mp hx
    · obtain ⟨v, hv, -⟩ := Option.map_eq_some_iff.mp hs.1
      exact ⟨v, hv⟩
    · exact ih hs.2.2 hx

/-- The end of a segment can be linked to another node. -/
theorem Links.Seg.setNext (hs : L.Seg h p l n) (hnodup : l.Nodup) (n' : Option ℕ) :
    ∃ h', h.edit (L.setNext n') l.getLast? = some h' ∧ L.Seg h' p l n' := by
  obtain rfl | ⟨l, x, rfl⟩ := List.eq_nil_or_concat' l
  · exact ⟨h, rfl, trivial⟩
  · obtain ⟨hl, hprev, -, -⟩ := seg_append.mp hs
    obtain ⟨v, hv, hvp⟩ := Option.map_eq_some_iff.mp hprev
    have hx : x ∉ l := fun hx ↦ (List.nodup_append.mp hnodup).2.2 x hx x List.mem_cons_self rfl
    rw [List.getLast?_concat, edit_of_read hv]
    refine ⟨_, rfl, seg_append.mpr ⟨?_, ?_, ?_, trivial⟩⟩
    · apply hl.of_eq
      intro y hy
      rw [Function.update_of_ne]
      exact fun hyx ↦ hx (hyx ▸ hy)
    · rw [Function.update_self, Option.map_some, L.prev_setNext, hvp]
    · rw [Function.update_self, Option.map_some, L.next_setNext]
      rfl

/-- So can its start. -/
theorem Links.Seg.setPrev (hs : L.Seg h p l n) (hnodup : l.Nodup) (p' : Option ℕ) :
    ∃ h', h.edit (L.setPrev p') l.head? = some h' ∧ L.Seg h' p' l n := by
  cases l with
  | nil => exact ⟨h, rfl, trivial⟩
  | cons x l =>
    obtain ⟨-, hnext, hl⟩ := hs
    obtain ⟨v, hv, hvn⟩ := Option.map_eq_some_iff.mp hnext
    have hx := (List.nodup_cons.mp hnodup).1
    rw [List.head?_cons, edit_of_read hv]
    refine ⟨_, rfl, ?_, ?_, ?_⟩
    · rw [Function.update_self, Option.map_some, L.prev_setPrev]
    · rw [Function.update_self, Option.map_some, L.next_setPrev, hvn]
    · apply hl.of_eq
      intro y hy
      rw [Function.update_of_ne]
      exact fun hyx ↦ hx (hyx ▸ hy)

variable (L) in
/-- The neighbours of a node are linked to each other. -/
def Links.unlink (h : Heap ν) (prev next : Option ℕ) : Option (Heap ν) :=
  (h.edit (L.setNext next) prev).bind fun h ↦ h.edit (L.setPrev prev) next

/-- A node's fields point to its neighbours in the list. -/
theorem Links.Seg.fields {a b : List ℕ} {x : ℕ} {v : ν} (hs : L.Seg h none (a ++ x :: b) none)
    (hv : h x = some v) : L.prev v = a.getLast? ∧ L.next v = b.head? := by
  obtain ⟨-, hprev, hnext, -⟩ := seg_append.mp hs
  rw [hv, Option.map_some, Option.some.injEq, Option.or_none] at hprev hnext
  exact ⟨hprev, hnext⟩

theorem Links.Seg.unlink {a b : List ℕ} {x : ℕ} (hs : L.Seg h none (a ++ x :: b) none)
    (hnodup : (a ++ x :: b).Nodup) :
    ∃ h', L.unlink h a.getLast? b.head? = some h' ∧ L.Seg h' none (a ++ b) none := by
  obtain ⟨ha, -, -, hb⟩ := seg_append.mp hs
  obtain ⟨hna, hnxb, hdisj⟩ := List.nodup_append.mp hnodup
  have hnb := (List.nodup_cons.mp hnxb).2
  have hab : ∀ y ∈ a, y ∉ b := fun y hy hyb ↦ hdisj y hy y (List.mem_cons_of_mem x hyb) rfl
  -- first the node before, then the one behind
  obtain ⟨h₁, he₁, ha₁⟩ := ha.setNext hna b.head?
  have hb₁ : L.Seg h₁ (some x) b none := by
    apply hb.of_eq
    intro y hy
    exact edit_other he₁ fun hlast ↦ hab y (List.mem_of_getLast? hlast) hy
  obtain ⟨h₂, he₂, hb₂⟩ := hb₁.setPrev hnb a.getLast?
  have ha₂ : L.Seg h₂ none a b.head? := by
    apply ha₁.of_eq
    intro y hy
    exact edit_other he₂ fun hhead ↦ hab y hy (List.mem_of_head? hhead)
  refine ⟨h₂, ?_, seg_append.mpr ⟨?_, ?_⟩⟩
  · rw [Links.unlink, he₁, Option.bind_some, he₂]
  · rw [Option.or_none]
    exact ha₂
  · rw [Option.or_none]
    exact hb₂

theorem unlink_other (he : L.unlink h p n = some h') {y : ℕ} (hp : p ≠ some y)
    (hn : n ≠ some y) : h' y = h y := by
  obtain ⟨h₁, he₁, he⟩ := Option.bind_eq_some_iff.mp he
  rw [edit_other he hn, edit_other he₁ hp]

theorem unlink_map {g : ν → β} (hn : ∀ q v, g (L.setNext q v) = g v)
    (hp : ∀ q v, g (L.setPrev q v) = g v) (he : L.unlink h p n = some h') (y : ℕ) :
    (h' y).map g = (h y).map g := by
  obtain ⟨h₁, he₁, he⟩ := Option.bind_eq_some_iff.mp he
  rw [edit_map (hp p) he, edit_map (hn n) he₁]

variable (L) in
/-- A new node goes to the front. -/
def Links.pushFront (h : Heap ν) (x : ℕ) (first : Option ℕ) : Option (Heap ν) :=
  (h.edit (L.setNext first) (some x)).bind fun h ↦ h.edit (L.setPrev (some x)) first

theorem Links.Seg.pushFront (hs : L.Seg h none l none) (hnodup : l.Nodup) {x : ℕ} {v : ν}
    (hx : x ∉ l) (hv : h x = some v) (hprev : L.prev v = none) :
    ∃ h', L.pushFront h x l.head? = some h' ∧ L.Seg h' none (x :: l) none := by
  let h₁ : Heap ν := Function.update h x (some (L.setNext l.head? v))
  have hl₁ : L.Seg h₁ none l none := by
    apply hs.of_eq
    intro y hy
    have hyx : y ≠ x := fun hyx ↦ hx (hyx ▸ hy)
    exact Function.update_of_ne hyx _ _
  obtain ⟨h₂, he₂, hl₂⟩ := hl₁.setPrev hnodup (some x)
  have hkeep : h₂ x = some (L.setNext l.head? v) := by
    rw [edit_other he₂ fun hhead ↦ hx (List.mem_of_head? hhead)]
    exact Function.update_self ..
  refine ⟨h₂, ?_, ?_, ?_, hl₂⟩
  · rw [Links.pushFront, edit_of_read hv, Option.bind_some, he₂]
  · rw [hkeep, Option.map_some, L.prev_setNext, hprev]
  · rw [hkeep, Option.map_some, L.next_setNext, Option.or_none]

theorem pushFront_other {x : ℕ} (he : L.pushFront h x p = some h') {y : ℕ} (hx : x ≠ y)
    (hp : p ≠ some y) : h' y = h y := by
  obtain ⟨h₁, he₁, he⟩ := Option.bind_eq_some_iff.mp he
  rw [edit_other he hp, edit_other he₁ fun hxy ↦ hx (Option.some.inj hxy)]

theorem pushFront_map {g : ν → β} (hn : ∀ q v, g (L.setNext q v) = g v)
    (hp : ∀ q v, g (L.setPrev q v) = g v) {x : ℕ} (he : L.pushFront h x p = some h') (y : ℕ) :
    (h' y).map g = (h y).map g := by
  obtain ⟨h₁, he₁, he⟩ := Option.bind_eq_some_iff.mp he
  rw [edit_map (hp _) he, edit_map (hn p) he₁]

variable (L) in
/-- A new node goes to the end. -/
def Links.pushBack (h : Heap ν) (x : ℕ) (last : Option ℕ) : Option (Heap ν) :=
  (h.edit (L.setNext (some x)) last).bind fun h ↦ h.edit (L.setPrev last) (some x)

theorem Links.Seg.pushBack (hs : L.Seg h none l none) (hnodup : l.Nodup) {x : ℕ} {v : ν}
    (hx : x ∉ l) (hv : h x = some v) (hnext : L.next v = none) :
    ∃ h', L.pushBack h x l.getLast? = some h' ∧ L.Seg h' none (l ++ [x]) none := by
  obtain ⟨h₁, he₁, hl₁⟩ := hs.setNext hnodup (some x)
  have hv₁ : h₁ x = some v := by
    rw [edit_other he₁ fun hlast ↦ hx (List.mem_of_getLast? hlast), hv]
  let h₂ : Heap ν := Function.update h₁ x (some (L.setPrev l.getLast? v))
  have hl₂ : L.Seg h₂ none l (some x) := by
    apply hl₁.of_eq
    intro y hy
    have hyx : y ≠ x := fun hyx ↦ hx (hyx ▸ hy)
    exact Function.update_of_ne hyx _ _
  have hv₂ : h₂ x = some (L.setPrev l.getLast? v) := Function.update_self ..
  refine ⟨h₂, ?_, seg_append.mpr ⟨hl₂, ?_, ?_, trivial⟩⟩
  · rw [Links.pushBack, he₁, Option.bind_some, edit_of_read hv₁]
  · rw [hv₂, Option.map_some, L.prev_setPrev, Option.or_none]
  · rw [hv₂, Option.map_some, L.next_setPrev, hnext]
    rfl

theorem pushBack_map {g : ν → β} (hn : ∀ q v, g (L.setNext q v) = g v)
    (hp : ∀ q v, g (L.setPrev q v) = g v) {x : ℕ} (he : L.pushBack h x p = some h') (y : ℕ) :
    (h' y).map g = (h y).map g := by
  obtain ⟨h₁, he₁, he⟩ := Option.bind_eq_some_iff.mp he
  rw [edit_map (hp p) he, edit_map (hn _) he₁]

variable (L) in
/-- The walk along the nodes to the first one with a property, for a number of steps. -/
def Links.find (h : Heap ν) (test : ν → Bool) : ℕ → Option ℕ → Option (Option ℕ)
  | _, none => some none
  | 0, some _ => none
  | k + 1, some p => (h p).bind fun v ↦
      if test v then some (some p) else find h test k (L.next v)

theorem Links.Seg.find (hs : L.Seg h p l none) (test : ν → Bool) {k : ℕ} (hk : l.length ≤ k) :
    L.find h test k l.head? = some (l.find? fun x ↦ (h x).any test) := by
  induction l generalizing p k with
  | nil => cases k <;> rfl
  | cons x l ih =>
    obtain ⟨-, hnext, hs⟩ := hs
    obtain ⟨v, hv, hvn⟩ := Option.map_eq_some_iff.mp hnext
    cases k with
    | zero => exact absurd hk (Nat.not_succ_le_zero _)
    | succ k =>
      rw [Option.or_none] at hvn
      rw [List.head?_cons, Links.find, hv, Option.bind_some, List.find?_cons, hv, Option.any_some]
      cases ht : test v with
      | true => rw [if_pos rfl]
      | false => rw [if_neg Bool.false_ne_true, hvn, ih hs (Nat.le_of_succ_le_succ hk)]

variable (L) in
/-- The walk that frees every node. -/
def Links.freeAll : ℕ → Option ℕ → Heap ν → Option (Heap ν)
  | _, none, h => some h
  | 0, some _, _ => none
  | k + 1, some p, h => (h p).bind fun v ↦ freeAll k (L.next v) (h.free p)

theorem Links.Seg.freeAll (hs : L.Seg h p l none) (hnodup : l.Nodup) {k : ℕ} (hk : l.length ≤ k) :
    L.freeAll k l.head? h = some fun y ↦ if y ∈ l then none else h y := by
  induction l generalizing p k h with
  | nil => cases k <;> rfl
  | cons x l ih =>
    obtain ⟨-, hnext, hs⟩ := hs
    obtain ⟨v, hv, hvn⟩ := Option.map_eq_some_iff.mp hnext
    obtain ⟨hx, hnodup⟩ := List.nodup_cons.mp hnodup
    cases k with
    | zero => exact absurd hk (Nat.not_succ_le_zero _)
    | succ k =>
      rw [Option.or_none] at hvn
      have hrest : L.Seg (h.free x) (some x) l none := by
        apply hs.of_eq
        intro y hy
        have hyx : y ≠ x := fun hyx ↦ hx (hyx ▸ hy)
        exact Function.update_of_ne hyx _ _
      rw [List.head?_cons, Links.freeAll, hv, Option.bind_some, hvn,
        ih hrest hnodup (Nat.le_of_succ_le_succ hk)]
      congr 1
      funext y
      by_cases hy : y = x
      · subst hy
        rw [if_neg hx, if_pos List.mem_cons_self]
        exact Function.update_self ..
      · have hmem : y ∈ x :: l ↔ y ∈ l := by
          rw [List.mem_cons]
          exact or_iff_right hy
        have hfree : h.free x y = h y := Function.update_of_ne hy _ _
        simp only [hmem, hfree]

end VirtualCamera.Library.Linked
