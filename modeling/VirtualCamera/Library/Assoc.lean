import Mathlib.Data.List.AList
import Mathlib.Data.Multiset.Bind

namespace VirtualCamera.Library.Assoc

variable {α β : Type*} [DecidableEq α]

/-- A finite map whose values do not depend on the key. -/
abbrev Map (α β : Type*) := AList fun _ : α ↦ β

/-- Insert unless the key is taken. -/
def emplace (a : α) (b : β) (m : Map α β) : Map α β := if a ∈ m then m else m.insert a b

theorem lookup_emplace (a : α) (b : β) (m : Map α β) :
    (emplace a b m).lookup a = some ((m.lookup a).getD b) := by
  unfold emplace
  split
  · rename_i h
    obtain ⟨b', hb⟩ := Option.isSome_iff_exists.mp (AList.lookup_isSome.mpr h)
    rw [hb, Option.getD_some]
  · rename_i h
    rw [AList.lookup_insert, AList.lookup_eq_none.mpr h, Option.getD_none]

theorem lookup_emplace_ne {a c : α} (h : c ≠ a) (b : β) (m : Map α β) :
    (emplace a b m).lookup c = m.lookup c := by
  unfold emplace
  split
  · rfl
  · exact AList.lookup_insert_ne h

theorem lookup_erase (a c : α) (m : Map α β) :
    (m.erase a).lookup c = if c = a then none else m.lookup c := by
  split
  · rename_i h
    rw [h, AList.lookup_erase]
  · rename_i h
    exact AList.lookup_erase_ne h

/-- Erase every key of a list. -/
def eraseAll (l : List α) (m : Map α β) : Map α β := l.foldl (fun m a ↦ m.erase a) m

theorem eraseAll_cons (a : α) (l : List α) (m : Map α β) :
    eraseAll (a :: l) m = eraseAll l (m.erase a) := rfl

theorem lookup_eraseAll (l : List α) (m : Map α β) (c : α) :
    (eraseAll l m).lookup c = if c ∈ l then none else m.lookup c := by
  induction l generalizing m with
  | nil => simp [eraseAll]
  | cons a l ih =>
    rw [eraseAll_cons, ih]
    by_cases hc : c = a
    · subst hc
      simp [AList.lookup_erase]
    · simp [AList.lookup_erase_ne hc, hc]

/-- Insert the entries of a list, the later ones over the earlier. -/
def insertAll (l : List (α × β)) (m : Map α β) : Map α β :=
  l.foldl (fun m entry ↦ m.insert entry.1 entry.2) m

theorem insertAll_cons (entry : α × β) (l : List (α × β)) (m : Map α β) :
    insertAll (entry :: l) m = insertAll l (m.insert entry.1 entry.2) := rfl

theorem insertAll_append (l l' : List (α × β)) (m : Map α β) :
    insertAll (l ++ l') m = insertAll l' (insertAll l m) := List.foldl_append

theorem lookup_insertAll_of_notMem {l : List (α × β)} {a : α} (h : a ∉ l.map Prod.fst)
    (m : Map α β) : (insertAll l m).lookup a = m.lookup a := by
  induction l generalizing m with
  | nil => rfl
  | cons entry l ih =>
    rw [List.map_cons, List.mem_cons, not_or] at h
    rw [insertAll_cons, ih h.2, AList.lookup_insert_ne h.1]

theorem lookup_insertAll {l : List (α × β)} (hl : (l.map Prod.fst).Nodup) {a : α} {b : β}
    (h : (a, b) ∈ l) (m : Map α β) : (insertAll l m).lookup a = some b := by
  induction l generalizing m with
  | nil => cases h
  | cons entry l ih =>
    rw [List.map_cons, List.nodup_cons] at hl
    rw [insertAll_cons]
    rcases List.mem_cons.mp h with rfl | h
    · rw [lookup_insertAll_of_notMem hl.1, AList.lookup_insert]
    · exact ih hl.2 h _

/-! ### The values of a map -/

def values (m : Map α β) : Multiset β := (m.entries.map fun entry ↦ entry.snd : List β)

theorem values_insert (a : α) (b : β) (m : Map α β) :
    values (m.insert a b) = b ::ₘ values (m.erase a) := rfl

theorem erase_of_notMem {a : α} {m : Map α β} (h : a ∉ m) : m.erase a = m :=
  AList.ext (List.kerase_of_notMem_keys h)

theorem entries_of_lookup {a : α} {b : β} {m : Map α β} (h : m.lookup a = some b) :
    (m.entries : Multiset (Sigma fun _ : α ↦ β)) = ⟨a, b⟩ ::ₘ (m.erase a).entries := by
  have hmem : a ∈ m := AList.lookup_isSome.mp (Option.isSome_of_eq_some h)
  obtain ⟨b', l₁, l₂, hfresh, hentries, herase⟩ := List.exists_of_kerase hmem
  have hlookup : List.dlookup a m.entries = some b' := by
    rw [hentries, List.dlookup_append, List.dlookup_eq_none.mpr hfresh, Option.none_or,
      List.dlookup_cons_eq]
  cases hlookup.symm.trans h
  rw [show (m.erase a).entries = l₁ ++ l₂ from herase, hentries, Multiset.cons_coe,
    Multiset.coe_eq_coe]
  exact List.perm_middle

theorem values_of_lookup {a : α} {b : β} {m : Map α β} (h : m.lookup a = some b) :
    values m = b ::ₘ values (m.erase a) := by
  have he := congrArg (Multiset.map Sigma.snd) (entries_of_lookup h)
  rwa [Multiset.map_cons] at he

theorem mem_values {b : β} {m : Map α β} : b ∈ values m ↔ ∃ a, m.lookup a = some b := by
  constructor
  · intro h
    obtain ⟨⟨a, b'⟩, hmem, rfl⟩ := List.mem_map.mp (Multiset.mem_coe.mp h)
    exact ⟨a, AList.mem_lookup_iff.mpr hmem⟩
  · intro hcond
    obtain ⟨a, h⟩ := hcond
    rw [values_of_lookup h]
    exact Multiset.mem_cons_self b _

theorem eq_empty_of_lookup {m : Map α β} (h : ∀ a, m.lookup a = none) : m = ∅ := by
  apply AList.ext
  apply List.eq_nil_iff_forall_not_mem.mpr
  rintro ⟨a, b⟩ hmem
  have hb := AList.mem_lookup_iff.mpr hmem
  rw [h a] at hb
  cases hb

theorem eraseAll_keys (m : Map α β) : eraseAll m.keys m = ∅ := by
  apply eq_empty_of_lookup
  intro a
  rw [lookup_eraseAll]
  split
  · rfl
  · rename_i h
    exact AList.lookup_eq_none.mpr h

theorem values_emplace (a : α) (b : β) (m : Map α β) :
    values (emplace a b m) = if a ∈ m then values m else b ::ₘ values m := by
  unfold emplace
  split
  · rfl
  · rename_i h
    rw [values_insert, erase_of_notMem h]

end VirtualCamera.Library.Assoc
