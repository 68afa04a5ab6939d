import Mathlib.Data.List.Perm.Subperm

namespace VirtualCamera.Library.Ledger

variable {α κ : Type} {takes gives : α → Option κ} {log log' : List α}

/-- What a log says was taken was given back as often. -/
def Settled (takes gives : α → Option κ) (log : List α) : Prop :=
  (log.filterMap takes).Perm (log.filterMap gives)

/-- A log does not give back what it has not taken. -/
def Honest (takes gives : α → Option κ) (log : List α) : Prop :=
  (log.filterMap gives).Subperm (log.filterMap takes)

instance [DecidableEq κ] : Decidable (Settled takes gives log) :=
  inferInstanceAs (Decidable (List.Perm _ _))

theorem Settled.honest (h : Settled takes gives log) : Honest takes gives log :=
  h.symm.subperm

theorem settled_nil : Settled takes gives [] := .refl []

theorem Settled.append (h : Settled takes gives log) (h' : Settled takes gives log') :
    Settled takes gives (log ++ log') := by
  unfold Settled
  rw [List.filterMap_append, List.filterMap_append]
  exact List.Perm.append h h'

theorem Honest.append (h : Honest takes gives log) (h' : Honest takes gives log') :
    Honest takes gives (log ++ log') := by
  unfold Honest
  rw [List.filterMap_append, List.filterMap_append]
  exact List.Subperm.append h h'

/-- When no part gives back more than it took, each part is settled by itself. -/
theorem settled_append_iff (h : Honest takes gives log) (h' : Honest takes gives log') :
    Settled takes gives (log ++ log') ↔ Settled takes gives log ∧ Settled takes gives log' := by
  refine ⟨fun hs ↦ ?_, fun hs ↦ hs.1.append hs.2⟩
  have hlen := hs.length_eq
  rw [List.filterMap_append, List.filterMap_append, List.length_append, List.length_append] at hlen
  have hle := h.length_le
  have hle' := h'.length_le
  constructor
  · exact (h.perm_of_length_le (by omega)).symm
  · exact (h'.perm_of_length_le (by omega)).symm

def Apart (takes gives : α → Option κ) (log : List α) : Prop :=
  ∀ x ∈ log, takes x = none ∧ gives x = none

theorem Apart.taken (h : Apart takes gives log) : log.filterMap takes = [] :=
  List.filterMap_eq_nil_iff.mpr fun x hx ↦ (h x hx).1

theorem Apart.given (h : Apart takes gives log) : log.filterMap gives = [] :=
  List.filterMap_eq_nil_iff.mpr fun x hx ↦ (h x hx).2

theorem Apart.settled (h : Apart takes gives log) : Settled takes gives log := by
  unfold Settled
  rw [h.taken, h.given]

theorem Apart.settled_append_iff (h : Apart takes gives log') :
    Settled takes gives (log ++ log') ↔ Settled takes gives log := by
  unfold Settled
  rw [List.filterMap_append, List.filterMap_append, h.taken, h.given, List.append_nil,
    List.append_nil]

theorem Apart.settled_append_iff_left (h : Apart takes gives log) :
    Settled takes gives (log ++ log') ↔ Settled takes gives log' := by
  unfold Settled
  rw [List.filterMap_append, List.filterMap_append, h.taken, h.given, List.nil_append,
    List.nil_append]

theorem honest_of_gives_none (hg : ∀ x ∈ log, gives x = none) : Honest takes gives log := by
  unfold Honest
  rw [List.filterMap_eq_nil_iff.mpr hg]
  exact List.nil_subperm

/-- Where nothing is given back, only what takes nothing is settled. -/
theorem settled_iff_of_gives_none (hg : ∀ x ∈ log, gives x = none) :
    Settled takes gives log ↔ ∀ x ∈ log, takes x = none := by
  refine ⟨fun h ↦ ?_, fun ht ↦ Apart.settled fun x hx ↦ ⟨ht x hx, hg x hx⟩⟩
  unfold Settled at h
  rw [List.filterMap_eq_nil_iff.mpr hg] at h
  exact List.filterMap_eq_nil_iff.mp (List.perm_nil.mp h)

end VirtualCamera.Library.Ledger
