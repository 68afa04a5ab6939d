import Mathlib.Data.Finset.Card

namespace VirtualCamera.Library.Allocations

/-! ### What an allocator has handed out -/

/-- The blocks that have been allocated and not freed. No block is handed out twice. -/
structure Pool where
  live : Finset ℕ
  next : ℕ
  lt_next : ∀ id ∈ live, id < next
  deriving DecidableEq

def Pool.empty : Pool := ⟨∅, 0, fun _ h ↦ absurd h (Finset.notMem_empty _)⟩

namespace Pool

variable (p : Pool)

theorem next_notMem : p.next ∉ p.live := fun h ↦ Nat.lt_irrefl _ (p.lt_next _ h)

/-- The new block is `p.next`. -/
def alloc : Pool where
  live := insert p.next p.live
  next := p.next + 1
  lt_next := by
    intro id hid
    rcases Finset.mem_insert.mp hid with rfl | hid
    · exact Nat.lt_succ_self _
    · exact Nat.lt_succ_of_lt (p.lt_next id hid)

/-- The pool without some of its blocks. -/
def sdiff (ids : Finset ℕ) : Pool where
  live := p.live \ ids
  next := p.next
  lt_next := fun id hid ↦ p.lt_next id (Finset.mem_sdiff.mp hid).1

/-- A block that is not live cannot be freed. -/
def free (id : ℕ) : Option Pool := if id ∈ p.live then some (p.sdiff {id}) else none

def freeAll : List ℕ → Pool → Option Pool
  | [], p => some p
  | id :: ids, p => (p.free id).bind (freeAll ids)

variable {p}

@[simp]
theorem sdiff_live (ids : Finset ℕ) : (p.sdiff ids).live = p.live \ ids := rfl

@[simp]
theorem alloc_live : p.alloc.live = insert p.next p.live := rfl

@[simp]
theorem alloc_next : p.alloc.next = p.next + 1 := rfl

theorem sdiff_empty : p.sdiff ∅ = p := by
  obtain ⟨live, next, h⟩ := p
  simp only [sdiff, Finset.sdiff_empty]

theorem sdiff_sdiff (s t : Finset ℕ) : (p.sdiff s).sdiff t = p.sdiff (s ∪ t) := by
  simp only [sdiff, sdiff_sdiff_left, Finset.sup_eq_union]

/-- Distinct live blocks can be freed one after the other, in any order. -/
theorem freeAll_eq {ids : List ℕ} (hnodup : ids.Nodup) (h : ∀ id ∈ ids, id ∈ p.live) :
    freeAll ids p = some (p.sdiff ids.toFinset) := by
  induction ids generalizing p with
  | nil => rw [freeAll, List.toFinset_nil, sdiff_empty]
  | cons id ids ih =>
    obtain ⟨hid, hnodup⟩ := List.nodup_cons.mp hnodup
    have hrest : ∀ id' ∈ ids, id' ∈ (p.sdiff {id}).live := by
      intro id' hid'
      refine Finset.mem_sdiff.mpr ⟨h id' (List.mem_cons_of_mem _ hid'), fun he ↦ hid ?_⟩
      rwa [← Finset.mem_singleton.mp he]
    rw [freeAll, free, if_pos (h id List.mem_cons_self), Option.bind_some, ih hnodup hrest,
      sdiff_sdiff, List.toFinset_cons, Finset.insert_eq]

/-- The blocks that have been handed out since `p`, which are all still live. -/
structure Handed (p p' : Pool) (ids : List ℕ) : Prop where
  nodup : ids.Nodup
  disjoint : Disjoint p.live ids.toFinset
  live : p'.live = p.live ∪ ids.toFinset

variable {p' : Pool} {ids : List ℕ}

theorem Handed.refl (p : Pool) : Handed p p [] where
  nodup := List.nodup_nil
  disjoint := by
    rw [List.toFinset_nil]
    exact Finset.disjoint_empty_right _
  live := by rw [List.toFinset_nil, Finset.union_empty]

theorem Handed.alloc (h : Handed p p' ids) : Handed p p'.alloc (ids ++ [p'.next]) := by
  have hfresh := p'.next_notMem
  rw [h.live, Finset.mem_union, not_or, List.mem_toFinset] at hfresh
  obtain ⟨hold, hnew⟩ := hfresh
  refine ⟨?_, ?_, ?_⟩
  · exact List.nodup_append.mpr ⟨h.nodup, List.nodup_singleton _, fun a ha b hb he ↦
      hnew (List.mem_singleton.mp hb ▸ he ▸ ha)⟩
  · rw [List.toFinset_append, Finset.disjoint_union_right]
    refine ⟨h.disjoint, ?_⟩
    rwa [List.toFinset_cons, List.toFinset_nil, insert_empty_eq, Finset.disjoint_singleton_right]
  · rw [alloc_live, h.live, List.toFinset_append, List.toFinset_cons, List.toFinset_nil,
      insert_empty_eq, ← Finset.union_assoc, Finset.insert_eq, Finset.union_comm]

theorem Handed.card (h : Handed p p' ids) : p'.live.card = p.live.card + ids.length := by
  rw [h.live, Finset.card_union_of_disjoint h.disjoint, List.toFinset_card_of_nodup h.nodup]

/-- Freeing them all, in any order, leaves the blocks that were live before. -/
theorem Handed.freeAll {ids' : List ℕ} (h : Handed p p' ids) (hperm : ids'.Perm ids) :
    ∃ q, Pool.freeAll ids' p' = some q ∧ q.live = p.live := by
  refine ⟨_, freeAll_eq (hperm.nodup_iff.mpr h.nodup) fun id hid ↦ ?_, ?_⟩
  · rw [h.live]
    exact Finset.mem_union_right _ (List.mem_toFinset.mpr (hperm.mem_iff.mp hid))
  · rw [sdiff_live, h.live, List.toFinset_eq_of_perm _ _ hperm]
    exact Finset.union_sdiff_cancel_right h.disjoint

end Pool

end VirtualCamera.Library.Allocations
