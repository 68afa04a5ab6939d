import Mathlib

namespace VirtualCamera.Library

/-- A map that is kept as a vector of its entries, in the order of their keys. -/
structure KeyedVector (K V : Type) [LinearOrder K] where
  entries : List (Sigma fun _ : K ↦ V)
  sorted : entries.Pairwise fun a b ↦ a.1 < b.1

namespace KeyedVector

variable {K V : Type} [LinearOrder K]

/-- The entry goes to its place, or over the one that has its key. -/
def insertEntry (k : K) (v : V) :
    List (Sigma fun _ : K ↦ V) → List (Sigma fun _ : K ↦ V)
  | [] => [⟨k, v⟩]
  | e :: l => if k < e.1 then ⟨k, v⟩ :: e :: l else if k = e.1 then ⟨k, v⟩ :: l
    else e :: insertEntry k v l

theorem mem_insertEntry {k : K} {v : V} {l : List (Sigma fun _ : K ↦ V)}
    {e : Sigma fun _ : K ↦ V} (h : e ∈ insertEntry k v l) : e = ⟨k, v⟩ ∨ e ∈ l := by
  induction l with
  | nil => exact .inl (List.mem_singleton.mp h)
  | cons e' l ih =>
    simp only [insertEntry] at h
    split at h
    · exact List.mem_cons.mp h
    · split at h
      · exact (List.mem_cons.mp h).imp_right (List.mem_cons_of_mem _)
      · obtain rfl | h := List.mem_cons.mp h
        · exact .inr List.mem_cons_self
        · exact (ih h).imp_right (List.mem_cons_of_mem _)

theorem sorted_insertEntry (k : K) (v : V) {l : List (Sigma fun _ : K ↦ V)}
    (h : l.Pairwise fun a b ↦ a.1 < b.1) :
    (insertEntry k v l).Pairwise fun a b ↦ a.1 < b.1 := by
  induction l with
  | nil => exact List.pairwise_singleton _ _
  | cons e l ih =>
    obtain ⟨hall, hl⟩ := List.pairwise_cons.mp h
    simp only [insertEntry]
    split
    · rename_i hlt
      refine List.pairwise_cons.mpr ⟨fun e' he' ↦ ?_, h⟩
      obtain rfl | he' := List.mem_cons.mp he'
      · exact hlt
      · exact lt_trans hlt (hall e' he')
    · split
      · rename_i heq
        exact List.pairwise_cons.mpr ⟨fun e' he' ↦ heq ▸ hall e' he', hl⟩
      · rename_i hge hne
        refine List.pairwise_cons.mpr ⟨fun e' he' ↦ ?_, ih hl⟩
        obtain rfl | he' := mem_insertEntry he'
        · exact lt_of_le_of_ne (not_lt.mp hge) fun hc ↦ hne hc.symm
        · exact hall e' he'

def empty : KeyedVector K V := ⟨[], List.Pairwise.nil⟩

instance : EmptyCollection (KeyedVector K V) := ⟨empty⟩

def add (m : KeyedVector K V) (k : K) (v : V) : KeyedVector K V :=
  ⟨insertEntry k v m.entries, sorted_insertEntry k v m.sorted⟩

def removeItem (m : KeyedVector K V) (k : K) : KeyedVector K V :=
  ⟨m.entries.kerase k, m.sorted.sublist (List.kerase_sublist k m.entries)⟩

def find? (m : KeyedVector K V) (k : K) : Option V := m.entries.dlookup k

def keys (m : KeyedVector K V) : List K := m.entries.keys

def values (m : KeyedVector K V) : List V := m.entries.map (·.2)

def size (m : KeyedVector K V) : ℕ := m.entries.length

variable (m : KeyedVector K V)

theorem nodupKeys : m.entries.NodupKeys :=
  List.nodupKeys_iff_pairwise.mpr (m.sorted.imp fun h ↦ ne_of_lt h)

theorem find?_empty (k : K) : (∅ : KeyedVector K V).find? k = none := rfl

@[simp] theorem find?_add_self (k : K) (v : V) : (m.add k v).find? k = some v := by
  have hins : ∀ l : List (Sigma fun _ : K ↦ V), (insertEntry k v l).dlookup k = some v := by
    intro l
    induction l with
    | nil => exact List.dlookup_cons_eq _ _ _
    | cons e l ih =>
      simp only [insertEntry]
      split
      · exact List.dlookup_cons_eq _ _ _
      · split
        · exact List.dlookup_cons_eq _ _ _
        · rename_i hne
          exact (List.dlookup_cons_ne _ e hne).trans ih
  exact hins m.entries

theorem find?_add_ne {k k' : K} (h : k' ≠ k) (v : V) : (m.add k v).find? k' = m.find? k' := by
  have hcons : ∀ l : List (Sigma fun _ : K ↦ V),
      List.dlookup k' (⟨k, v⟩ :: l) = l.dlookup k' := fun l ↦
    List.dlookup_cons_ne l (⟨k, v⟩ : Sigma fun _ : K ↦ V) h
  have hins : ∀ l : List (Sigma fun _ : K ↦ V),
      (insertEntry k v l).dlookup k' = l.dlookup k' := by
    intro l
    induction l with
    | nil => exact hcons []
    | cons e l ih =>
      simp only [insertEntry]
      split
      · exact hcons (e :: l)
      · split
        · rename_i heq
          rw [hcons, List.dlookup_cons_ne l e (heq ▸ h)]
        · by_cases he : k' = e.1
          · subst he
            rw [List.dlookup_cons_eq, List.dlookup_cons_eq]
          · rw [List.dlookup_cons_ne _ e he, List.dlookup_cons_ne _ e he, ih]
  exact hins m.entries

@[simp] theorem find?_removeItem_self (k : K) : (m.removeItem k).find? k = none :=
  List.dlookup_kerase k m.nodupKeys

theorem find?_removeItem_ne {k k' : K} (h : k' ≠ k) : (m.removeItem k).find? k' = m.find? k' :=
  List.dlookup_kerase_ne h

theorem mem_entries {e : Sigma fun _ : K ↦ V} : e ∈ m.entries ↔ m.find? e.1 = some e.2 :=
  (List.mem_dlookup_iff m.nodupKeys).symm

theorem mem_keys {k : K} : k ∈ m.keys ↔ ∃ v, m.find? k = some v :=
  List.dlookup_isSome.symm.trans Option.isSome_iff_exists

theorem mem_values {v : V} : v ∈ m.values ↔ ∃ k, m.find? k = some v := by
  unfold values
  rw [List.mem_map]
  constructor
  · intro h
    obtain ⟨e, he, rfl⟩ := h
    exact ⟨e.1, m.mem_entries.mp he⟩
  · intro h
    obtain ⟨k, hk⟩ := h
    exact ⟨⟨k, v⟩, m.mem_entries.mpr hk, rfl⟩

theorem mem_keys_add {k k' : K} {v : V} : k' ∈ (m.add k v).keys ↔ k' = k ∨ k' ∈ m.keys := by
  rw [mem_keys, mem_keys]
  by_cases h : k' = k
  · subst h
    simp
  · rw [find?_add_ne m h]
    simp [h]

theorem mem_keys_removeItem {k k' : K} :
    k' ∈ (m.removeItem k).keys ↔ k' ≠ k ∧ k' ∈ m.keys := by
  rw [mem_keys, mem_keys]
  by_cases h : k' = k
  · subst h
    simp
  · rw [find?_removeItem_ne m h]
    simp [h]

theorem size_eq_zero : m.size = 0 ↔ ∀ k, k ∉ m.keys := by
  unfold size keys
  rw [List.length_eq_zero_iff]
  constructor
  · intro h k
    rw [h]
    exact List.not_mem_nil
  · intro h
    refine List.eq_nil_iff_forall_not_mem.mpr fun e he ↦ h e.1 ?_
    exact List.mem_map_of_mem he

end KeyedVector

end VirtualCamera.Library
