import Mathlib.Algebra.BigOperators.Group.Multiset.Basic
import Mathlib.Data.Multiset.AddSub

namespace VirtualCamera.Library.Threads

variable {ι : Type*}

/-- What the threads have still to do, in no order. -/
def code (threads : List (List ι)) : Multiset ι := (threads.map Multiset.ofList).sum

theorem code_concat (threads : List (List ι)) (t : List ι) :
    code (threads ++ [t]) = (t : Multiset ι) + code threads := by
  unfold code
  rw [List.map_append, List.sum_append, List.map_singleton, List.sum_singleton]
  exact add_comm _ _

theorem exists_others {threads : List (List ι)} {i : ℕ} {t : List ι} (h : threads[i]? = some t) :
    ∃ others, code threads = (t : Multiset ι) + others ∧
      ∀ t', code (threads.set i t') = (t' : Multiset ι) + others := by
  induction threads generalizing i with
  | nil => cases h
  | cons u threads ih =>
    cases i with
    | zero =>
      obtain rfl : u = t := Option.some.inj h
      exact ⟨code threads, rfl, fun t' ↦ rfl⟩
    | succ i =>
      obtain ⟨others, ht, hset⟩ := ih h
      refine ⟨(u : Multiset ι) + others, ?_, fun t' ↦ ?_⟩
      · change (u : Multiset ι) + code threads = _
        rw [ht, add_left_comm]
      · change (u : Multiset ι) + code (threads.set i t') = _
        rw [hset, add_left_comm]

end VirtualCamera.Library.Threads
