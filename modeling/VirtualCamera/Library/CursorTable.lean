import VirtualCamera.Library.Cursor

namespace VirtualCamera.Library.CursorTable

open Cursor

/-! ### A map in the order of insertion, with a cursor -/

/-- A cursor that is stale stands nowhere and must not be used. -/
inductive Place (κ : Type)
  | stale
  | off
  | at (k : κ)
  deriving DecidableEq, Repr

def Place.ofKey {κ : Type} : Option κ → Place κ
  | none => .off
  | some k => .at k

structure CursorMap (κ ε : Type) where
  entries : List (κ × ε)
  place : Place κ
  deriving DecidableEq, Repr

variable {κ ε : Type} [DecidableEq κ]

namespace CursorMap

variable (m : CursorMap κ ε)

def gotoFirst : CursorMap κ ε := { m with place := .ofKey (keys m.entries).head? }

def gotoLast : CursorMap κ ε := { m with place := .ofKey (keys m.entries).getLast? }

def find (k : κ) : CursorMap κ ε :=
  { m with place := if k ∈ keys m.entries then .at k else .off }

def nextKey (k : κ) : Option κ := (keys (afterKey k m.entries)).head?

def previousKey (k : κ) : Option κ :=
  ((keys m.entries).takeWhile fun j ↦ decide (j ≠ k)).getLast?

/-- The key under the cursor, when the cursor may be used. -/
def current : Option (Option κ) :=
  match m.place with
  | .stale => none
  | .off => some none
  | .at k => some (some k)

def gotoNext : Option (CursorMap κ ε) :=
  m.current.map fun c ↦ { m with place := .ofKey (c.bind m.nextKey) }

def gotoPrevious : Option (CursorMap κ ε) :=
  m.current.map fun c ↦ { m with place := .ofKey (c.bind m.previousKey) }

def lookup (k : κ) : Option ε := (m.entries.find? fun x ↦ decide (x.1 = k)).map Prod.snd

def replace (k : κ) (e : ε) : CursorMap κ ε :=
  { m with entries := m.entries.map fun x ↦ if x.1 = k then (k, e) else x }

def add (k : κ) (e : ε) : CursorMap κ ε := { m with entries := m.entries ++ [(k, e)] }

def removeAt (k : κ) : CursorMap κ ε :=
  { entries := without k m.entries, place := .ofKey (m.nextKey k) }

variable {σ : Type}

/-- The loop that starts at the first entry and ends when the cursor is off. Its body
deletes an entry, which moves the cursor on, or changes it and goes on. -/
def sweepLoop (body : σ → κ → ε → Option ε × σ) : ℕ → CursorMap κ ε → σ → CursorMap κ ε × σ
  | 0, m, c => (m, c)
  | n + 1, m, c =>
    match m.place with
    | .at k =>
      match m.lookup k with
      | none => (m, c)
      | some e =>
        match body c k e with
        | (none, c) => sweepLoop body n (m.removeAt k) c
        | (some e, c) =>
          sweepLoop body n { m.replace k e with place := .ofKey ((m.replace k e).nextKey k) } c
    | _ => (m, c)

def sweep (body : σ → κ → ε → Option ε × σ) (c : σ) : CursorMap κ ε × σ :=
  sweepLoop body m.entries.length m.gotoFirst c

end CursorMap

/-- What such a loop makes of the entries. -/
def sweepEntries {σ : Type} (body : σ → κ → ε → Option ε × σ) :
    σ → List (κ × ε) → List (κ × ε) × σ
  | c, [] => ([], c)
  | c, (k, e) :: l =>
    match body c k e with
    | (none, c) => sweepEntries body c l
    | (some e, c) =>
      let r := sweepEntries body c l
      ((k, e) :: r.1, r.2)

section Split

variable {k : κ} {e : ε} {a b : List (κ × ε)}

omit [DecidableEq κ] in
theorem keys_append (l l' : List (κ × ε)) : keys (l ++ l') = keys l ++ keys l' :=
  List.map_append

theorem exists_split {l : List (κ × ε)} (h : k ∈ keys l) :
    ∃ a e b, l = a ++ (k, e) :: b ∧ k ∉ keys a := by
  induction l with
  | nil => cases h
  | cons x l ih =>
    by_cases hx : x.1 = k
    · obtain ⟨j, e⟩ := x
      cases hx
      exact ⟨[], e, l, rfl, List.not_mem_nil⟩
    · obtain ⟨a, e, b, rfl, ha⟩ := ih ((List.mem_cons.mp h).resolve_left fun hk ↦ hx hk.symm)
      refine ⟨x :: a, e, b, rfl, ?_⟩
      rintro hk
      obtain hk | hk := List.mem_cons.mp hk
      · exact hx hk.symm
      · exact ha hk

theorem afterKey_split (ha : k ∉ keys a) : afterKey k (a ++ (k, e) :: b) = b := by
  unfold afterKey
  induction a with
  | nil => rw [List.nil_append, fromKey_cons_self, List.tail_cons]
  | cons x a ih =>
    have hx : x.1 ≠ k := fun hx ↦ ha (hx ▸ List.mem_cons_self)
    rw [List.cons_append, fromKey_cons_of_ne hx]
    exact ih fun h ↦ ha (List.mem_cons_of_mem _ h)

theorem without_of_notMem (ha : k ∉ keys a) : without k a = a := by
  apply List.filter_eq_self.mpr
  intro x hx
  rw [decide_eq_true_iff]
  exact fun hk ↦ ha (hk ▸ List.mem_map_of_mem hx)

theorem without_split (ha : k ∉ keys a) (hb : k ∉ keys b) :
    without k (a ++ (k, e) :: b) = a ++ b := by
  have hdrop : without k ((k, e) :: b) = without k b := List.filter_cons_of_neg (by simp)
  have happ : without k (a ++ (k, e) :: b) = without k a ++ without k ((k, e) :: b) :=
    List.filter_append ..
  rw [happ, hdrop, without_of_notMem ha, without_of_notMem hb]

theorem takeWhile_split (ha : k ∉ keys a) :
    (keys (a ++ (k, e) :: b)).takeWhile (fun j ↦ decide (j ≠ k)) = keys a := by
  rw [keys_append]
  induction a with
  | nil => simp [keys]
  | cons x a ih =>
    have hx : x.1 ≠ k := fun hx ↦ ha (hx ▸ List.mem_cons_self)
    have hrest := ih fun h ↦ ha (List.mem_cons_of_mem _ h)
    rw [show keys (x :: a) = x.1 :: keys a from rfl, List.cons_append,
      List.takeWhile_cons_of_pos (by simpa using hx), hrest]

theorem find?_split (ha : k ∉ keys a) :
    (a ++ (k, e) :: b).find? (fun x ↦ decide (x.1 = k)) = some (k, e) := by
  have hnone : a.find? (fun x ↦ decide (x.1 = k)) = none := by
    apply List.find?_eq_none.mpr
    intro x hx
    rw [decide_eq_true_iff]
    exact fun hk ↦ ha (hk ▸ List.mem_map_of_mem hx)
  rw [List.find?_append, hnone, Option.none_or, List.find?_cons_of_pos (by simp)]

theorem replace_split {m : CursorMap κ ε} (hm : m.entries = a ++ (k, e) :: b)
    (ha : k ∉ keys a) (hb : k ∉ keys b) (e' : ε) :
    (m.replace k e').entries = a ++ (k, e') :: b := by
  have hsame : ∀ {l : List (κ × ε)}, k ∉ keys l →
      l.map (fun x ↦ if x.1 = k then (k, e') else x) = l := by
    intro l hl
    rw [List.map_congr_left (g := id), List.map_id]
    intro x hx
    rw [if_neg fun hk : x.1 = k ↦ hl (hk ▸ List.mem_map_of_mem hx), id]
  simp only [CursorMap.replace, hm, List.map_append, List.map_cons, hsame ha, hsame hb, if_true]

theorem nextKey_split {m : CursorMap κ ε} (hm : m.entries = a ++ (k, e) :: b)
    (ha : k ∉ keys a) : m.nextKey k = (keys b).head? := by
  rw [CursorMap.nextKey, hm, afterKey_split ha]

theorem lookup_split {m : CursorMap κ ε} (hm : m.entries = a ++ (k, e) :: b)
    (ha : k ∉ keys a) : m.lookup k = some e := by
  rw [CursorMap.lookup, hm, find?_split ha, Option.map_some]

omit [DecidableEq κ] in
theorem notMem_of_nodup (h : (keys (a ++ (k, e) :: b)).Nodup) : k ∉ keys a ∧ k ∉ keys b := by
  rw [keys_append] at h
  obtain ⟨-, hkb, hdisj⟩ := List.nodup_append.mp h
  exact ⟨fun hk ↦ hdisj k hk k List.mem_cons_self rfl, (List.nodup_cons.mp hkb).1⟩

/-- An entry that is found, and the entries before and behind it. -/
theorem exists_split_of_lookup {m : CursorMap κ ε} (hnodup : (keys m.entries).Nodup)
    (h : m.lookup k = some e) : ∃ a b, m.entries = a ++ (k, e) :: b ∧ k ∉ keys a ∧ k ∉ keys b := by
  obtain ⟨⟨j, e'⟩, hfind, rfl⟩ := Option.map_eq_some_iff.mp h
  have hj := List.find?_some hfind
  simp only [decide_eq_true_eq] at hj
  obtain ⟨a, b, hm⟩ := List.append_of_mem (List.mem_of_find?_eq_some hfind)
  subst hj
  obtain ⟨ha, hb⟩ := notMem_of_nodup (hm ▸ hnodup)
  exact ⟨a, b, hm, ha, hb⟩

theorem lookup_eq_none {m : CursorMap κ ε} : m.lookup k = none ↔ k ∉ keys m.entries := by
  rw [CursorMap.lookup, Option.map_eq_none_iff, List.find?_eq_none]
  constructor
  · intro h hk
    obtain ⟨x, hx, rfl⟩ := List.mem_map.mp hk
    exact h x hx (decide_eq_true rfl)
  · intro h x hx hk
    exact h (of_decide_eq_true hk ▸ List.mem_map_of_mem hx)

theorem lookup_replace (m : CursorMap κ ε) (k j : κ) (e : ε) :
    (m.replace k e).lookup j = if j = k then (m.lookup k).map fun _ ↦ e else m.lookup j := by
  unfold CursorMap.lookup CursorMap.replace
  induction m.entries with
  | nil => simp
  | cons x l ih =>
    by_cases hx : x.1 = k
    · by_cases hj : j = k
      · simp [hx, hj]
      · have hkj : ¬ k = j := fun h ↦ hj h.symm
        rw [if_neg hj] at ih
        simp only [List.map_cons, hx, if_true, List.find?_cons, hkj, decide_false, ih, hj, if_false]
    · by_cases hj : j = k
      · rw [if_pos hj] at ih
        simp only [List.map_cons, hx, if_false, List.find?_cons, hj, decide_false, if_true] at ih ⊢
        exact ih
      · rw [if_neg hj] at ih
        rw [if_neg hj, List.map_cons, if_neg hx, List.find?_cons, List.find?_cons]
        cases decide (x.1 = j)
        · exact ih
        · rfl

theorem lookup_add (m : CursorMap κ ε) (k j : κ) (e : ε) :
    (m.add k e).lookup j = (m.lookup j).or (if j = k then some e else none) := by
  unfold CursorMap.lookup CursorMap.add
  rw [List.find?_append, Option.map_or]
  congr 1
  by_cases hj : j = k
  · simp [hj]
  · have hkj : ¬ k = j := fun h ↦ hj h.symm
    simp [hj, hkj]

theorem lookup_eq_some_iff {m : CursorMap κ ε} (hnodup : (keys m.entries).Nodup) :
    m.lookup k = some e ↔ (k, e) ∈ m.entries := by
  constructor
  · intro h
    obtain ⟨a, b, hm, -, -⟩ := exists_split_of_lookup hnodup h
    rw [hm]
    exact List.mem_append_right _ List.mem_cons_self
  · intro h
    obtain ⟨a, b, hm⟩ := List.append_of_mem h
    exact lookup_split hm (notMem_of_nodup (hm ▸ hnodup)).1

end Split

section Sweep

variable {σ : Type} {body : σ → κ → ε → Option ε × σ}

omit [DecidableEq κ] in
/-- What the loop leaves is what its body made of an entry. -/
theorem mem_sweepEntries {c : σ} {l : List (κ × ε)} {k : κ} {e' : ε}
    (h : (k, e') ∈ (sweepEntries body c l).1) :
    ∃ c e, (k, e) ∈ l ∧ (body c k e).1 = some e' := by
  induction l generalizing c with
  | nil => cases h
  | cons x l ih =>
    obtain ⟨j, d⟩ := x
    rw [sweepEntries] at h
    split at h
    · obtain ⟨c₁, e, hmem, he⟩ := ih h
      exact ⟨c₁, e, List.mem_cons_of_mem _ hmem, he⟩
    · rename_i d' c' hbody
      obtain h | h := List.mem_cons.mp h
      · cases h
        exact ⟨c, d, List.mem_cons_self, congrArg Prod.fst hbody⟩
      · obtain ⟨c₁, e, hmem, he⟩ := ih h
        exact ⟨c₁, e, List.mem_cons_of_mem _ hmem, he⟩

/-- The loop on the entries that are left, behind those it has passed. -/
theorem sweepLoop_eq {passed rest : List (κ × ε)} {m : CursorMap κ ε}
    (hm : m = ⟨passed ++ rest, .ofKey (keys rest).head?⟩)
    (hnodup : (keys (passed ++ rest)).Nodup) (c : σ) :
    m.sweepLoop body rest.length c =
      (⟨passed ++ (sweepEntries body c rest).1, .off⟩, (sweepEntries body c rest).2) := by
  induction rest generalizing passed m c with
  | nil =>
    rw [hm]
    rfl
  | cons x rest ih =>
    obtain ⟨k, e⟩ := x
    obtain ⟨ha, hb⟩ := notMem_of_nodup hnodup
    have hentries : m.entries = passed ++ (k, e) :: rest := by rw [hm]
    have hplace : m.place = .at k := by
      rw [hm]
      rfl
    simp only [List.length_cons, CursorMap.sweepLoop, hplace, lookup_split hentries ha,
      sweepEntries]
    cases hbody : body c k e with
    | mk kept c' =>
      cases kept with
      | none =>
        have hremove : m.removeAt k = ⟨passed ++ rest, .ofKey (keys rest).head?⟩ := by
          rw [CursorMap.removeAt, nextKey_split hentries ha, hentries, without_split ha hb]
        have hnodup' : (keys (passed ++ rest)).Nodup := by
          rw [keys_append] at hnodup ⊢
          exact (List.nodup_cons.mp (List.perm_middle.nodup hnodup)).2
        exact ih hremove hnodup' c'
      | some e' =>
        have hreplace := replace_split hentries ha hb e'
        have hnext : { m.replace k e' with place := .ofKey ((m.replace k e').nextKey k) } =
            (⟨passed ++ [(k, e')] ++ rest, .ofKey (keys rest).head?⟩ : CursorMap κ ε) := by
          show (⟨(m.replace k e').entries, _⟩ : CursorMap κ ε) = _
          rw [nextKey_split hreplace ha, hreplace, List.append_assoc]
          rfl
        have hnodup' : (keys (passed ++ [(k, e')] ++ rest)).Nodup := by
          rw [List.append_assoc, keys_append]
          rw [keys_append] at hnodup
          exact hnodup
        refine (ih hnext hnodup' c').trans ?_
        rw [List.append_assoc]
        rfl

/-- The loop passes every entry once, and ends with the cursor off. -/
theorem sweep_eq {m : CursorMap κ ε} (hnodup : (keys m.entries).Nodup) (c : σ) :
    m.sweep body c =
      (⟨(sweepEntries body c m.entries).1, .off⟩, (sweepEntries body c m.entries).2) :=
  sweepLoop_eq (show m.gotoFirst = ⟨[] ++ m.entries, _⟩ from rfl) hnodup c

end Sweep

end VirtualCamera.Library.CursorTable
