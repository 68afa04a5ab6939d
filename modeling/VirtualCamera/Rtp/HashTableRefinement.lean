import Mathlib.Data.List.Perm.Subperm
import VirtualCamera.Rtp.KeyHashTable

namespace VirtualCamera.Rtp.HashTableRefinement

open Library.Cursor Library.CursorTable Library.Linked KeyHashTable

variable {K E : Type}

def payload (e : HashElement K E) : ℕ × K × E := (e.hashindex, e.key, e.element)

/-- What an element holds besides its links. -/
def data (t : RTPKeyHashTable K E) (p : ℕ) : Option (ℕ × K × E) := (t.heap p).map payload

/-- The cursor points to the element of its key. -/
def Stands (t : RTPKeyHashTable K E) : Place K → Prop
  | .stale => True
  | .off => t.curhashelem = none
  | .at k => ∃ p i e, t.curhashelem = some p ∧ data t p = some (i, k, e)

variable {getIndex : K → ℕ} {hashsize : ℕ}

/-- The elements at some addresses are linked in the order of the map's entries, every
bucket links those of its index, and nothing else is allocated. -/
structure Rep (getIndex : K → ℕ) (hashsize : ℕ) (t : RTPKeyHashTable K E) (m : CursorMap K E)
    (addrs : List ℕ) (bucket : ℕ → List ℕ) : Prop where
  list : listLinks.Seg t.heap none addrs none
  first : t.firsthashelem = addrs.head?
  last : t.lasthashelem = addrs.getLast?
  nodup : addrs.Nodup
  fresh : ∀ p ∈ addrs, p < t.fresh
  entries : addrs.map (data t) = m.entries.map fun x ↦ some (getIndex x.1, x.1, x.2)
  allocated : ∀ p, data t p ≠ none → p ∈ addrs
  keysNodup : (keys m.entries).Nodup
  valid : ∀ k ∈ keys m.entries, getIndex k < hashsize
  chain : ∀ i, hashLinks.Seg t.heap none (bucket i) none
  head : ∀ i, t.table i = (bucket i).head?
  chainNodup : ∀ i, (bucket i).Nodup
  mem_bucket : ∀ i p, p ∈ bucket i ↔ ∃ x, data t p = some (i, x)
  place : Stands t m.place

section Lookup

variable {t : RTPKeyHashTable K E} {m : CursorMap K E} {addrs : List ℕ} {bucket : ℕ → List ℕ}

theorem data_eq_some {p i : ℕ} {k : K} {e : E} (h : data t p = some (i, k, e)) :
    ∃ v, t.heap p = some v ∧ v.hashindex = i ∧ v.key = k ∧ v.element = e := by
  obtain ⟨v, hv, he⟩ := Option.map_eq_some_iff.mp h
  obtain ⟨rfl, hke⟩ := Prod.mk.inj he
  obtain ⟨rfl, rfl⟩ := Prod.mk.inj hke
  exact ⟨v, hv, rfl, rfl, rfl⟩

theorem Rep.of_data (h : Rep getIndex hashsize t m addrs bucket) {p i : ℕ} {k : K} {e : E}
    (hd : data t p = some (i, k, e)) : p ∈ addrs ∧ i = getIndex k ∧ (k, e) ∈ m.entries := by
  have hp : p ∈ addrs := h.allocated p (by rw [hd]; exact Option.some_ne_none _)
  have hmem := List.mem_map_of_mem (f := data t) hp
  rw [hd, h.entries] at hmem
  obtain ⟨x, hx, he⟩ := List.mem_map.mp hmem
  obtain ⟨k', e'⟩ := x
  obtain ⟨rfl, hke⟩ := Prod.mk.inj (Option.some.inj he)
  obtain ⟨rfl, rfl⟩ := Prod.mk.inj hke
  exact ⟨hp, rfl, hx⟩

theorem Rep.mem_keys (h : Rep getIndex hashsize t m addrs bucket) {k : K} :
    k ∈ keys m.entries ↔ ∃ p e, data t p = some (getIndex k, k, e) := by
  constructor
  · intro hk
    obtain ⟨x, hx, rfl⟩ := List.mem_map.mp hk
    have hmem := List.mem_map_of_mem (f := fun x : K × E ↦ some (getIndex x.1, x.1, x.2)) hx
    rw [← h.entries] at hmem
    obtain ⟨p, -, hp⟩ := List.mem_map.mp hmem
    exact ⟨p, x.2, hp⟩
  · rintro ⟨p, e, hd⟩
    exact List.mem_map_of_mem (h.of_data hd).2.2

/-- The buckets have no element in common. -/
theorem Rep.bucket_inj (h : Rep getIndex hashsize t m addrs bucket) {i j p : ℕ}
    (hi : p ∈ bucket i) (hj : p ∈ bucket j) : i = j := by
  obtain ⟨x, hx⟩ := (h.mem_bucket i p).mp hi
  obtain ⟨y, hy⟩ := (h.mem_bucket j p).mp hj
  rw [hx] at hy
  exact (Prod.mk.inj (Option.some.inj hy)).1

theorem Rep.key_inj (h : Rep getIndex hashsize t m addrs bucket) {p q i j : ℕ} {k : K} {e e' : E}
    (hp : data t p = some (i, k, e)) (hq : data t q = some (j, k, e')) : p = q := by
  have hkeys : addrs.map (fun p ↦ (data t p).map fun x ↦ x.2.1) = (keys m.entries).map some := by
    have hmap := congrArg (List.map (Option.map fun x : ℕ × K × E ↦ x.2.1)) h.entries
    rw [List.map_map, List.map_map] at hmap
    rw [Library.Cursor.keys, List.map_map]
    exact hmap
  have hnodup : (addrs.map fun p ↦ (data t p).map fun x ↦ x.2.1).Nodup := by
    rw [hkeys]
    exact h.keysNodup.map (Option.some_injective K)
  apply List.inj_on_of_nodup_map hnodup (h.of_data hp).1 (h.of_data hq).1
  rw [hp, hq]
  rfl

theorem Rep.bucket_length (h : Rep getIndex hashsize t m addrs bucket) (i : ℕ) :
    (bucket i).length ≤ t.fresh := by
  have hsub : bucket i ⊆ List.range t.fresh := by
    intro p hp
    obtain ⟨x, hx⟩ := (h.mem_bucket i p).mp hp
    have hmem := h.allocated p (by rw [hx]; exact Option.some_ne_none _)
    exact List.mem_range.mpr (h.fresh p hmem)
  have hlen := (List.subperm_of_subset (h.chainNodup i) hsub).length_le
  rwa [List.length_range] at hlen

theorem Rep.length_le (h : Rep getIndex hashsize t m addrs bucket) : addrs.length ≤ t.fresh := by
  have hsub : addrs ⊆ List.range t.fresh := fun p hp ↦ List.mem_range.mpr (h.fresh p hp)
  have hlen := (List.subperm_of_subset h.nodup hsub).length_le
  rwa [List.length_range] at hlen

variable [DecidableEq K]

/-- A search finds the element of a key, when there is one. -/
theorem Rep.search (h : Rep getIndex hashsize t m addrs bucket) (k : K) :
    (k ∉ keys m.entries ∧ t.search getIndex k = some none) ∨
      k ∈ keys m.entries ∧ ∃ p e, t.search getIndex k = some (some p) ∧
        data t p = some (getIndex k, k, e) := by
  have hfind := (h.chain (getIndex k)).find (fun e ↦ decide (e.key = k)) (h.bucket_length _)
  unfold RTPKeyHashTable.search
  rw [h.head, hfind]
  cases hr : (bucket (getIndex k)).find? fun x ↦ (t.heap x).any fun e ↦ decide (e.key = k) with
  | none =>
    refine .inl ⟨fun hk ↦ ?_, rfl⟩
    obtain ⟨p, e, hd⟩ := h.mem_keys.mp hk
    obtain ⟨v, hv, -, hkey, -⟩ := data_eq_some hd
    have hno := List.find?_eq_none.mp hr p ((h.mem_bucket _ p).mpr ⟨_, hd⟩)
    rw [hv, Option.any_some, hkey] at hno
    exact hno (decide_eq_true rfl)
  | some p =>
    have hp := List.find?_some hr
    obtain ⟨⟨k', e⟩, hd⟩ := (h.mem_bucket _ p).mp (List.mem_of_find?_eq_some hr)
    obtain ⟨v, hv, -, rfl, -⟩ := data_eq_some hd
    simp only [hv, Option.any_some, decide_eq_true_eq] at hp
    subst hp
    exact .inr ⟨h.mem_keys.mpr ⟨p, e, hd⟩, p, e, rfl, hd⟩

omit [DecidableEq K] in
theorem Rep.split (h : Rep getIndex hashsize t m addrs bucket) {ea eb : List (K × E)} {k : K}
    {e : E} (hm : m.entries = ea ++ (k, e) :: eb) :
    ∃ a p b, addrs = a ++ p :: b ∧ data t p = some (getIndex k, k, e) ∧
      a.map (data t) = ea.map (fun x ↦ some (getIndex x.1, x.1, x.2)) ∧
      b.map (data t) = eb.map fun x ↦ some (getIndex x.1, x.1, x.2) := by
  have hentries := h.entries
  rw [hm, List.map_append, List.map_cons] at hentries
  obtain ⟨a, l, rfl, ha, hl⟩ := List.map_eq_append_iff.mp hentries
  obtain ⟨p, b, rfl, hp, hb⟩ := List.map_eq_cons_iff.mp hl
  exact ⟨a, p, b, rfl, hp, ha, hb⟩

end Lookup

section Cursor

variable {t : RTPKeyHashTable K E} {m : CursorMap K E} {addrs : List ℕ} {bucket : ℕ → List ℕ}

/-- Only the cursor moves. -/
theorem Rep.move (h : Rep getIndex hashsize t m addrs bucket) {c : Option ℕ} {place : Place K}
    (hs : Stands { t with curhashelem := c } place) :
    Rep getIndex hashsize { t with curhashelem := c } { m with place } addrs bucket :=
  { h with place := hs }

/-- The cursor at an end of a part of the list. -/
theorem stands_ofKey {c : Option ℕ} {x : Option (K × E)}
    (h : c.map (data t) = x.map fun x ↦ some (getIndex x.1, x.1, x.2)) :
    Stands { t with curhashelem := c } (.ofKey (x.map Prod.fst)) := by
  cases x with
  | none =>
    rw [Option.map_none, Option.map_eq_none_iff] at h
    exact h
  | some x =>
    obtain ⟨p, rfl, hp⟩ := Option.map_eq_some_iff.mp h
    exact ⟨p, _, x.2, rfl, hp⟩

theorem stands_head {l : List ℕ} {es : List (K × E)}
    (h : l.map (data t) = es.map fun x ↦ some (getIndex x.1, x.1, x.2)) :
    Stands { t with curhashelem := l.head? } (.ofKey (keys es).head?) := by
  have hhead := congrArg List.head? h
  rw [List.head?_map, List.head?_map] at hhead
  have hs := stands_ofKey hhead
  rwa [← List.head?_map] at hs

theorem stands_last {l : List ℕ} {es : List (K × E)}
    (h : l.map (data t) = es.map fun x ↦ some (getIndex x.1, x.1, x.2)) :
    Stands { t with curhashelem := l.getLast? } (.ofKey (keys es).getLast?) := by
  have hlast := congrArg List.getLast? h
  rw [List.getLast?_map, List.getLast?_map] at hlast
  have hs := stands_ofKey hlast
  rwa [← List.getLast?_map] at hs

/-- A cursor that may be used: it is off, or at a key. -/
theorem current_cases {c : Option K} (h : m.current = some c) :
    m.place = .off ∧ c = none ∨ ∃ k, m.place = .at k ∧ c = some k := by
  unfold CursorMap.current at h
  cases hp : m.place with
  | stale =>
    rw [hp] at h
    cases h
  | off =>
    rw [hp] at h
    exact .inl ⟨rfl, (Option.some.inj h).symm⟩
  | «at» k =>
    rw [hp] at h
    exact .inr ⟨k, rfl, (Option.some.inj h).symm⟩

theorem Rep.off (h : Rep getIndex hashsize t m addrs bucket) (hm : m.place = .off) :
    t.curhashelem = none := by
  have hplace := h.place
  rw [hm] at hplace
  exact hplace

variable [DecidableEq K]

/-- The element under the cursor with those before and behind it. -/
theorem Rep.at_split (h : Rep getIndex hashsize t m addrs bucket) {k : K}
    (hk : m.place = .at k) :
    ∃ ea e eb a p b v, m.entries = ea ++ (k, e) :: eb ∧ k ∉ keys ea ∧ k ∉ keys eb ∧
      addrs = a ++ p :: b ∧ t.curhashelem = some p ∧ t.heap p = some v ∧
      payload v = (getIndex k, k, e) ∧
      a.map (data t) = ea.map (fun x ↦ some (getIndex x.1, x.1, x.2)) ∧
      b.map (data t) = eb.map fun x ↦ some (getIndex x.1, x.1, x.2) := by
  have hplace := h.place
  rw [hk] at hplace
  obtain ⟨q, i, e', hcur, hq⟩ := hplace
  obtain ⟨-, rfl, hmem⟩ := h.of_data hq
  obtain ⟨ea, e, eb, hm, -⟩ := exists_split (List.mem_map_of_mem hmem)
  obtain ⟨hka, hkb⟩ := notMem_of_nodup (hm ▸ h.keysNodup)
  obtain ⟨a, p, b, hab, hp, ha, hb⟩ := h.split hm
  obtain rfl := h.key_inj hq hp
  obtain ⟨v, hv, hpay⟩ := Option.map_eq_some_iff.mp hp
  exact ⟨ea, e, eb, a, q, b, v, hm, hka, hkb, hab, hcur, hv, hpay, ha, hb⟩

end Cursor

section Delete

variable {t : RTPKeyHashTable K E} {m : CursorMap K E} {addrs : List ℕ} {bucket : ℕ → List ℕ}

/-- The element under the cursor is unlinked from its bucket and from the list. -/
theorem Rep.relink (h : Rep getIndex hashsize t m addrs bucket) {a b c d : List ℕ} {p i : ℕ}
    (hab : addrs = a ++ p :: b) (hcd : bucket i = c ++ p :: d) :
    ∃ h₁ h₂, hashLinks.unlink t.heap c.getLast? d.head? = some h₁ ∧
      listLinks.unlink h₁ a.getLast? b.head? = some h₂ ∧
      (∀ q, (h₂ q).map payload = data t q) ∧
      listLinks.Seg (h₂.free p) none (a ++ b) none ∧
      ∀ j, hashLinks.Seg (h₂.free p) none (if j = i then c ++ d else bucket j) none := by
  have hnodup := h.nodup
  have hlist := h.list
  rw [hab] at hnodup hlist
  have hchain := h.chain i
  have hcnodup := h.chainNodup i
  rw [hcd] at hchain hcnodup
  obtain ⟨h₁, he₁, hc₁⟩ := hchain.unlink hcnodup
  have hprev := unlink_map (g := HashElement.listprev) (fun _ _ ↦ rfl) (fun _ _ ↦ rfl) he₁
  have hnext := unlink_map (g := HashElement.listnext) (fun _ _ ↦ rfl) (fun _ _ ↦ rfl) he₁
  obtain ⟨h₂, he₂, hl₂⟩ := (hlist.congr fun q _ ↦ ⟨hprev q, hnext q⟩).unlink hnodup
  have hcprev := unlink_map (g := HashElement.hashprev) (fun _ _ ↦ rfl) (fun _ _ ↦ rfl) he₂
  have hcnext := unlink_map (g := HashElement.hashnext) (fun _ _ ↦ rfl) (fun _ _ ↦ rfl) he₂
  have hfree : ∀ {l : List ℕ}, p ∉ l → ∀ q ∈ l, h₂.free p q = h₂ q := fun hp q hq ↦
    free_other fun hqp ↦ hp (hqp ▸ hq)
  have hpab : p ∉ a ++ b := (List.nodup_cons.mp (List.perm_middle.nodup hnodup)).1
  have hpcd : p ∉ c ++ d := (List.nodup_cons.mp (List.perm_middle.nodup hcnodup)).1
  refine ⟨h₁, h₂, he₁, he₂, fun q ↦ ?_, hl₂.of_eq (hfree hpab), fun j ↦ ?_⟩
  · rw [unlink_map (g := payload) (fun _ _ ↦ rfl) (fun _ _ ↦ rfl) he₂,
      unlink_map (g := payload) (fun _ _ ↦ rfl) (fun _ _ ↦ rfl) he₁]
    rfl
  · by_cases hj : j = i
    · rw [if_pos hj]
      exact (hc₁.congr fun q _ ↦ ⟨hcprev q, hcnext q⟩).of_eq (hfree hpcd)
    · -- the nodes of another bucket are not touched
      have hother : ∀ q ∈ bucket j, q ∉ bucket i := fun q hq hqi ↦ hj (h.bucket_inj hq hqi)
      have hpi : p ∈ bucket i := hcd ▸ List.mem_append_right _ List.mem_cons_self
      have hsame : hashLinks.Seg h₁ none (bucket j) none := by
        apply (h.chain j).of_eq
        intro q hq
        apply unlink_other he₁
        · rintro hlast
          apply hother q hq
          rw [hcd]
          exact List.mem_append_left _ (List.mem_of_getLast? hlast)
        · rintro hhead
          apply hother q hq
          rw [hcd]
          exact List.mem_append_right _ (List.mem_cons_of_mem _ (List.mem_of_head? hhead))
      rw [if_neg hj]
      exact (hsame.congr fun q _ ↦ ⟨hcprev q, hcnext q⟩).of_eq
        (hfree fun hp ↦ hother p hp hpi)

variable [DecidableEq K]

theorem Rep.deleteCurrentElement (h : Rep getIndex hashsize t m addrs bucket) {k : K}
    (hk : m.place = .at k) :
    ∃ t' addrs' bucket', t.deleteCurrentElement = some (.ok (), t') ∧
      Rep getIndex hashsize t' (m.removeAt k) addrs' bucket' := by
  obtain ⟨ea, e, eb, a, p, b, v, hm, hka, hkb, hab, hcur, hv, hpay, ha, hb⟩ := h.at_split hk
  have hp : data t p = some (getIndex k, k, e) := by rw [data, hv, Option.map_some, hpay]
  have hi : v.hashindex = getIndex k := congrArg Prod.fst hpay
  obtain ⟨c, d, hcd⟩ := List.append_of_mem ((h.mem_bucket _ p).mpr ⟨_, hp⟩)
  obtain ⟨hlprev, hlnext⟩ := (hab ▸ h.list).fields hv
  obtain ⟨hcprev, hcnext⟩ := (hcd ▸ h.chain (getIndex k)).fields hv
  obtain ⟨h₁, h₂, he₁, he₂, hdata, hlist, hchain⟩ := h.relink hab hcd
  have hnodup := h.nodup
  have hkeys := h.keysNodup
  rw [hab] at hnodup
  rw [hm] at hkeys
  obtain ⟨hpab, hnodupab⟩ := List.nodup_cons.mp (List.perm_middle.nodup hnodup)
  obtain ⟨-, hnodupcd⟩ := List.nodup_cons.mp (List.perm_middle.nodup (hcd ▸ h.chainNodup _))
  let t' : RTPKeyHashTable K E :=
    { heap := h₂.free p
      fresh := t.fresh
      table := if v.hashprev = none then Function.update t.table v.hashindex v.hashnext else t.table
      firsthashelem := if v.listprev = none then v.listnext else t.firsthashelem
      lasthashelem := if v.listnext = none then v.listprev else t.lasthashelem
      curhashelem := v.listnext }
  have hdel : t.deleteCurrentElement = some (.ok (), t') := by
    simp only [RTPKeyHashTable.deleteCurrentElement, hcur, hv, Option.bind_eq_bind,
      Option.bind_some]
    rw [show v.hashprev = c.getLast? from hcprev, show v.hashnext = d.head? from hcnext, he₁,
      Option.bind_some, show v.listprev = a.getLast? from hlprev,
      show v.listnext = b.head? from hlnext, he₂, Option.bind_some]
    simp only [t', show v.hashprev = c.getLast? from hcprev, show v.hashnext = d.head? from hcnext,
      show v.listprev = a.getLast? from hlprev, show v.listnext = b.head? from hlnext]
    rfl
  have hdata' : ∀ q, q ≠ p → data t' q = data t q := by
    intro q hq
    show ((h₂.free p) q).map payload = data t q
    rw [free_other hq, hdata]
  have hgone : data t' p = none := by
    show ((h₂.free p) p).map payload = none
    rw [Heap.free, Function.update_self, Option.map_none]
  have hsame : ∀ {l : List ℕ}, p ∉ l → l.map (data t') = l.map (data t) := by
    intro l hl
    exact List.map_congr_left fun q hq ↦ hdata' q fun hqp ↦ hl (hqp ▸ hq)
  have hpa : p ∉ a := fun hpa ↦ hpab (List.mem_append_left _ hpa)
  have hpb : p ∉ b := fun hpb ↦ hpab (List.mem_append_right _ hpb)
  have hremove : m.removeAt k = ⟨ea ++ eb, .ofKey (keys eb).head?⟩ := by
    simp only [CursorMap.removeAt, CursorMap.nextKey, hm, without_split hka hkb,
      afterKey_split hka]
  have hbucket : ∀ j q, q ≠ p →
      (q ∈ (if j = getIndex k then c ++ d else bucket j) ↔ q ∈ bucket j) := by
    intro j q hq
    by_cases hj : j = getIndex k
    · rw [if_pos hj, hj, hcd]
      simp [hq]
    · rw [if_neg hj]
  refine ⟨t', a ++ b, fun j ↦ if j = getIndex k then c ++ d else bucket j, hdel, ?_⟩
  rw [hremove]
  constructor
  · exact hlist
  · show (if v.listprev = none then v.listnext else t.firsthashelem) = _
    rw [show v.listprev = a.getLast? from hlprev, show v.listnext = b.head? from hlnext, h.first,
      hab]
    cases a <;> simp
  · show (if v.listnext = none then v.listprev else t.lasthashelem) = _
    rw [show v.listprev = a.getLast? from hlprev, show v.listnext = b.head? from hlnext, h.last,
      hab]
    cases b <;> simp
  · exact hnodupab
  · intro q hq
    apply h.fresh q
    rw [hab]
    exact List.perm_middle.symm.subset (List.mem_cons_of_mem p hq)
  · rw [List.map_append, hsame hpa, hsame hpb, ha, hb, List.map_append]
  · intro q hq
    have hqp : q ≠ p := fun hqp ↦ hq (hqp ▸ hgone)
    have hmem := h.allocated q (hdata' q hqp ▸ hq)
    rw [hab] at hmem
    exact (List.mem_cons.mp (List.perm_middle.subset hmem)).resolve_left hqp
  · rw [keys_append]
    rw [keys_append] at hkeys
    exact (List.nodup_cons.mp (List.perm_middle.nodup hkeys)).2
  · intro j hj
    apply h.valid j
    rw [hm]
    rw [keys_append] at hj ⊢
    exact List.perm_middle.symm.subset (List.mem_cons_of_mem k hj)
  · exact hchain
  · intro j
    show (if v.hashprev = none then Function.update t.table v.hashindex v.hashnext else t.table) j =
      _
    rw [show v.hashprev = c.getLast? from hcprev, show v.hashnext = d.head? from hcnext, hi]
    by_cases hj : j = getIndex k
    · subst hj
      rw [if_pos rfl]
      cases c with
      | nil => simp
      | cons x c => simp [h.head, hcd]
    · rw [if_neg hj, ← h.head j]
      split
      · exact Function.update_of_ne hj _ _
      · rfl
  · intro j
    split
    · exact hnodupcd
    · exact h.chainNodup j
  · intro j q
    by_cases hq : q = p
    · subst hq
      rw [hgone]
      refine iff_of_false ?_ fun hex ↦ Option.some_ne_none _ hex.choose_spec.symm
      split
      · exact (List.nodup_cons.mp (List.perm_middle.nodup (hcd ▸ h.chainNodup _))).1
      · rename_i hj
        intro hmem
        obtain ⟨x, hx⟩ := (h.mem_bucket j q).mp hmem
        rw [hp] at hx
        exact hj (Prod.mk.inj (Option.some.inj hx)).1.symm
    · rw [hbucket j q hq, h.mem_bucket, hdata' q hq]
  · show Stands { t' with curhashelem := v.listnext } _
    rw [show v.listnext = b.head? from hlnext]
    exact stands_head ((hsame hpb).trans hb)

end Delete

section Add

variable {t : RTPKeyHashTable K E} {m : CursorMap K E} {addrs : List ℕ} {bucket : ℕ → List ℕ}

theorem linkLast_eq {p : ℕ} {v : HashElement K E} (hlist : listLinks.Seg t.heap none addrs none)
    (hfirst : t.firsthashelem = addrs.head?) (hlast : t.lasthashelem = addrs.getLast?)
    (hnodup : addrs.Nodup) (hp : p ∉ addrs) (hv : t.heap p = some v) (hprev : v.listprev = none)
    (hnext : v.listnext = none) :
    ∃ heap, t.linkLast p = some { t with heap, firsthashelem := (addrs ++ [p]).head?,
                                         lasthashelem := (addrs ++ [p]).getLast? } ∧
      listLinks.Seg heap none (addrs ++ [p]) none ∧
      ∀ {β : Type} (g : HashElement K E → β), (∀ q v, g (listLinks.setNext q v) = g v) →
        (∀ q v, g (listLinks.setPrev q v) = g v) → ∀ q, (heap q).map g = (t.heap q).map g := by
  cases addrs with
  | nil =>
    refine ⟨t.heap, ?_, ⟨?_, ?_, trivial⟩, fun _ _ _ _ ↦ rfl⟩
    · rw [RTPKeyHashTable.linkLast, hfirst]
      rfl
    · rw [hv]
      exact congrArg some hprev
    · rw [hv]
      exact congrArg some hnext
  | cons x l =>
    obtain ⟨heap, he, hs⟩ := hlist.pushBack hnodup hp hv hnext
    have hend : (x :: l).getLast? = some ((x :: l).getLast (List.cons_ne_nil x l)) :=
      List.getLast?_eq_some_getLast _
    refine ⟨heap, ?_, hs, fun g hn hpv ↦ pushBack_map hn hpv he⟩
    have hhead : (x :: l ++ [p]).head? = t.firsthashelem := hfirst.symm
    rw [hend] at he hlast
    rw [List.getLast?_concat, hhead, RTPKeyHashTable.linkLast, hlast]
    simp only [hfirst, List.head?_cons, Option.bind_eq_bind, Option.bind_some, he]
    rfl

variable [DecidableEq K]

theorem Rep.addElement (h : Rep getIndex hashsize t m addrs bucket) {k : K}
    (hk : k ∉ keys m.entries) (hvalid : getIndex k < hashsize) (e : E) :
    ∃ t' addrs' bucket', t.addElement getIndex hashsize k e = some (.ok (), t') ∧
      Rep getIndex hashsize t' (m.add k e) addrs' bucket' := by
  let p := t.fresh
  let v : HashElement K E :=
    { hashindex := getIndex k, key := k, element := e, hashprev := none, hashnext := none,
      listprev := none, listnext := none }
  let h₀ : Heap (HashElement K E) := Function.update t.heap p (some v)
  have hp : p ∉ addrs := fun hp ↦ Nat.lt_irrefl _ (h.fresh p hp)
  have hpb : ∀ i, p ∉ bucket i := by
    intro i hpi
    obtain ⟨x, hx⟩ := (h.mem_bucket i p).mp hpi
    exact hp (h.allocated p (by rw [hx]; exact Option.some_ne_none _))
  have hv : h₀ p = some v := Function.update_self ..
  have hold : ∀ {l : List ℕ}, p ∉ l → ∀ q ∈ l, h₀ q = t.heap q := by
    intro l hl q hq
    have hqp : q ≠ p := fun hqp ↦ hl (hqp ▸ hq)
    exact Function.update_of_ne hqp _ _
  -- into the bucket
  obtain ⟨h₁, he₁, hc₁⟩ := ((h.chain (getIndex k)).of_eq (hold (hpb _))).pushFront (h.chainNodup _)
    (hpb _) hv rfl
  have hmap₁ : ∀ {β : Type} (g : HashElement K E → β), (∀ q v, g (hashLinks.setNext q v) = g v) →
      (∀ q v, g (hashLinks.setPrev q v) = g v) → ∀ q, (h₁ q).map g = (h₀ q).map g :=
    fun g hn hpv ↦ pushFront_map hn hpv he₁
  have hlist₁ : listLinks.Seg h₁ none addrs none :=
    (h.list.of_eq (hold hp)).congr fun q _ ↦
      ⟨hmap₁ HashElement.listprev (fun _ _ ↦ rfl) (fun _ _ ↦ rfl) q,
        hmap₁ HashElement.listnext (fun _ _ ↦ rfl) (fun _ _ ↦ rfl) q⟩
  have hnew : (h₁ p).map (fun w ↦ (w.listprev, w.listnext)) = some (none, none) := by
    rw [hmap₁ _ (fun _ _ ↦ rfl) (fun _ _ ↦ rfl), hv]
    rfl
  obtain ⟨w, hw, hwlinks⟩ := Option.map_eq_some_iff.mp hnew
  -- into the list
  let t₁ : RTPKeyHashTable K E :=
    { t with heap := h₁, fresh := p + 1, table := Function.update t.table (getIndex k) (some p) }
  obtain ⟨heap, he, hlist, hmap⟩ := linkLast_eq (t := t₁) hlist₁ h.first h.last h.nodup hp hw
    (congrArg Prod.fst hwlinks) (congrArg Prod.snd hwlinks)
  let t' : RTPKeyHashTable K E :=
    { t₁ with heap, firsthashelem := (addrs ++ [p]).head?, lasthashelem := (addrs ++ [p]).getLast? }
  have hadd : t.addElement getIndex hashsize k e = some (.ok (), t') := by
    have hsearch : t.search getIndex k = some none := by
      obtain ⟨-, hs⟩ | ⟨hk', -⟩ := h.search k
      · exact hs
      · exact absurd hk' hk
    rw [RTPKeyHashTable.addElement, if_neg (Nat.not_le.mpr hvalid), hsearch]
    simp only [Option.bind_eq_bind, Option.bind_some, ne_eq, not_true_eq_false, if_false, h.head]
    rw [he₁, Option.bind_some, he]
    rfl
  have hdata : ∀ q, data t' q = (h₀ q).map payload := by
    intro q
    show (heap q).map payload = _
    rw [hmap payload (fun _ _ ↦ rfl) (fun _ _ ↦ rfl), hmap₁ payload (fun _ _ ↦ rfl) fun _ _ ↦ rfl]
  have hdatap : data t' p = some (getIndex k, k, e) := by
    rw [hdata, hv]
    rfl
  have hother : ∀ q, q ≠ p → data t' q = data t q := by
    intro q hq
    rw [hdata, show h₀ q = t.heap q from Function.update_of_ne hq _ _, data]
  refine ⟨t', addrs ++ [p],
    fun i ↦ if i = getIndex k then p :: bucket i else bucket i, hadd, ?_⟩
  constructor
  · exact hlist
  · rfl
  · rfl
  · rw [List.nodup_append]
    exact ⟨h.nodup, List.nodup_singleton p, fun q hq q' hq' ↦ by
      rw [List.mem_singleton.mp hq']
      exact fun hqp ↦ hp (hqp ▸ hq)⟩
  · intro q hq
    show q < t.fresh + 1
    obtain hq | hq := List.mem_append.mp hq
    · exact Nat.lt_succ_of_lt (h.fresh q hq)
    · rw [List.mem_singleton.mp hq]
      exact Nat.lt_succ_self _
  · have hsame : addrs.map (data t') = addrs.map (data t) :=
      List.map_congr_left fun q hq ↦ hother q fun hqp ↦ hp (hqp ▸ hq)
    rw [List.map_append, hsame, h.entries, CursorMap.add, List.map_append, List.map_singleton,
      List.map_singleton, hdatap]
  · intro q hq
    by_cases hqp : q = p
    · exact List.mem_append_right _ (List.mem_singleton.mpr hqp)
    · exact List.mem_append_left _ (h.allocated q (hother q hqp ▸ hq))
  · rw [CursorMap.add, keys_append, List.nodup_append]
    exact ⟨h.keysNodup, List.nodup_singleton k, fun j hj j' hj' ↦ by
      rw [List.mem_singleton.mp hj']
      exact fun hjk : j = k ↦ hk (hjk ▸ hj)⟩
  · intro j hj
    rw [CursorMap.add, keys_append] at hj
    obtain hj | hj := List.mem_append.mp hj
    · exact h.valid j hj
    · rw [List.mem_singleton.mp hj]
      exact hvalid
  · intro i
    have hprev := hmap HashElement.hashprev (fun _ _ ↦ rfl) fun _ _ ↦ rfl
    have hnext := hmap HashElement.hashnext (fun _ _ ↦ rfl) fun _ _ ↦ rfl
    split
    · rename_i hi
      rw [hi]
      exact hc₁.congr fun q _ ↦ ⟨hprev q, hnext q⟩
    · rename_i hi
      have hsame : hashLinks.Seg h₁ none (bucket i) none := by
        apply ((h.chain i).of_eq (hold (hpb i))).of_eq
        intro q hq
        apply pushFront_other he₁
        · exact fun hpq ↦ hpb i (hpq ▸ hq)
        · exact fun hhead ↦ hi (h.bucket_inj hq (List.mem_of_head? hhead))
      exact hsame.congr fun q _ ↦ ⟨hprev q, hnext q⟩
  · intro i
    show Function.update t.table (getIndex k) (some p) i = _
    by_cases hi : i = getIndex k
    · rw [if_pos hi, hi, Function.update_self, List.head?_cons]
    · rw [if_neg hi, Function.update_of_ne hi, h.head]
  · intro i
    split
    · exact List.nodup_cons.mpr ⟨hpb i, h.chainNodup i⟩
    · exact h.chainNodup i
  · intro i q
    by_cases hq : q = p
    · subst hq
      rw [hdatap]
      by_cases hi : i = getIndex k
      · rw [if_pos hi, hi]
        exact iff_of_true List.mem_cons_self ⟨_, rfl⟩
      · rw [if_neg hi]
        refine iff_of_false (hpb i) ?_
        rintro ⟨x, hx⟩
        exact hi (Prod.mk.inj (Option.some.inj hx)).1.symm
    · rw [hother q hq, ← h.mem_bucket]
      split
      · rw [List.mem_cons, or_iff_right hq]
      · rfl
  · have hplace := h.place
    show Stands t' m.place
    cases hm : m.place with
    | stale => trivial
    | off =>
      rw [hm] at hplace
      exact hplace
    | «at» j =>
      rw [hm] at hplace
      obtain ⟨q, i, e', hcur, hq⟩ := hplace
      have hqp : q ≠ p := fun hqp ↦ hp (hqp ▸ (h.of_data hq).1)
      exact ⟨q, i, e', hcur, (hother q hqp).trans hq⟩

end Add

section Others

variable {t : RTPKeyHashTable K E} {m : CursorMap K E} {addrs : List ℕ} {bucket : ℕ → List ℕ}

theorem rep_new (c : Option ℕ) :
    Rep getIndex hashsize (RTPKeyHashTable.new c : RTPKeyHashTable K E) ⟨[], .stale⟩ []
      fun _ ↦ [] := by
  constructor
  · trivial
  · rfl
  · rfl
  · exact List.nodup_nil
  · intro p hp
    cases hp
  · rfl
  · intro p hp
    exact absurd rfl hp
  · exact List.nodup_nil
  · intro k hk
    cases hk
  · intro i
    trivial
  · intro i
    rfl
  · intro i
    exact List.nodup_nil
  · intro i p
    refine iff_of_false List.not_mem_nil ?_
    rintro ⟨x, hx⟩
    cases hx
  · trivial

/-- Nothing is allocated after a `Clear`. -/
theorem Rep.clear (h : Rep getIndex hashsize t m addrs bucket) :
    ∃ t', t.clear = some t' ∧ Rep getIndex hashsize t' ⟨[], .stale⟩ [] fun _ ↦ [] := by
  have hfree := h.list.freeAll h.nodup h.length_le
  rw [← h.first] at hfree
  have hheap : (fun p ↦ if p ∈ addrs then none else t.heap p) = fun _ ↦ none := by
    funext p
    split
    · rfl
    · rename_i hp
      by_contra hne
      exact hp (h.allocated p fun hd ↦ hne (Option.map_eq_none_iff.mp hd))
  rw [hheap] at hfree
  refine ⟨_, by rw [RTPKeyHashTable.clear, hfree]; rfl, ?_⟩
  have hnew : Rep getIndex hashsize (RTPKeyHashTable.new t.curhashelem : RTPKeyHashTable K E) _ _ _ :=
    rep_new t.curhashelem
  exact { hnew with fresh := fun p hp ↦ (List.not_mem_nil hp).elim }

variable [DecidableEq K]

theorem Rep.setCurrentElement (h : Rep getIndex hashsize t m addrs bucket) {k : K}
    (hk : m.place = .at k) (e : E) :
    ∃ t', t.setCurrentElement e = some t' ∧
      Rep getIndex hashsize t' (m.replace k e) addrs bucket := by
  obtain ⟨ea, e₀, eb, a, p, b, v, hm, hka, hkb, hab, hcur, hv, hpay, ha, hb⟩ := h.at_split hk
  have hp : data t p = some (getIndex k, k, e₀) := by rw [data, hv, Option.map_some, hpay]
  have hreplace := replace_split hm hka hkb e
  have hkeys : keys (m.replace k e).entries = keys m.entries := by
    rw [hreplace, hm, keys_append, keys_append]
    rfl
  have hnodup := h.nodup
  rw [hab] at hnodup
  have hpab := (List.nodup_cons.mp (List.perm_middle.nodup hnodup)).1
  let f : HashElement K E → HashElement K E := fun v ↦ { v with element := e }
  let t' : RTPKeyHashTable K E := { t with heap := Function.update t.heap p (some (f v)) }
  have hedit : t.heap.edit f (some p) = some t'.heap := edit_of_read hv
  have hdatap : data t' p = some (getIndex k, k, e) := by
    show (Function.update t.heap p (some (f v)) p).map payload = _
    rw [Function.update_self, Option.map_some]
    exact congrArg some (congrArg (fun x : ℕ × K × E ↦ (x.1, x.2.1, e)) hpay)
  have hother : ∀ q, q ≠ p → data t' q = data t q := by
    intro q hq
    show (Function.update t.heap p (some (f v)) q).map payload = _
    rw [Function.update_of_ne hq]
    rfl
  have hsome : ∀ i q, (∃ x, data t' q = some (i, x)) ↔ ∃ x, data t q = some (i, x) := by
    intro i q
    by_cases hq : q = p
    · subst hq
      rw [hdatap, hp]
      constructor
      · rintro ⟨x, hx⟩
        obtain ⟨rfl, -⟩ := Prod.mk.inj (Option.some.inj hx)
        exact ⟨_, rfl⟩
      · rintro ⟨x, hx⟩
        obtain ⟨rfl, -⟩ := Prod.mk.inj (Option.some.inj hx)
        exact ⟨_, rfl⟩
    · rw [hother q hq]
  have hlinks : ∀ g : HashElement K E → Option ℕ, (∀ v, g (f v) = g v) → ∀ q,
      (t'.heap q).map g = (t.heap q).map g := fun g hg ↦ edit_map hg hedit
  refine ⟨t', ?_, ?_⟩
  · rw [RTPKeyHashTable.setCurrentElement, hcur, Option.bind_some, hedit, ← hcur]
    rfl
  constructor
  · exact h.list.congr fun q _ ↦ ⟨hlinks HashElement.listprev (fun _ ↦ rfl) q,
      hlinks HashElement.listnext (fun _ ↦ rfl) q⟩
  · exact h.first
  · exact h.last
  · exact h.nodup
  · exact h.fresh
  · have hsame : ∀ {l : List ℕ}, p ∉ l → l.map (data t') = l.map (data t) := fun hl ↦
      List.map_congr_left fun q hq ↦ hother q fun hqp ↦ hl (hqp ▸ hq)
    have hpa : p ∉ a := fun hpa ↦ hpab (List.mem_append_left _ hpa)
    have hpb : p ∉ b := fun hpb ↦ hpab (List.mem_append_right _ hpb)
    rw [hreplace, hab, List.map_append, List.map_cons, hsame hpa, hsame hpb, ha, hb, hdatap,
      List.map_append, List.map_cons]
  · intro q hq
    by_cases hqp : q = p
    · rw [hqp, hab]
      exact List.mem_append_right _ List.mem_cons_self
    · exact h.allocated q (hother q hqp ▸ hq)
  · rw [hkeys]
    exact h.keysNodup
  · rw [hkeys]
    exact h.valid
  · exact fun i ↦ (h.chain i).congr fun q _ ↦ ⟨hlinks HashElement.hashprev (fun _ ↦ rfl) q,
      hlinks HashElement.hashnext (fun _ ↦ rfl) q⟩
  · exact h.head
  · exact h.chainNodup
  · exact fun i q ↦ (h.mem_bucket i q).trans (hsome i q).symm
  · show Stands t' m.place
    rw [hk]
    exact ⟨p, _, e, hcur, hdatap⟩

end Others

section Steps

inductive Op (K E : Type)
  | gotoFirstElement
  | gotoLastElement
  | gotoNextElement
  | gotoPreviousElement
  | gotoElement (k : K)
  | hasCurrentElement
  | getCurrentElement
  | getCurrentKey
  | setCurrentElement (elem : E)
  | hasElement (k : K)
  | addElement (k : K) (elem : E)
  | deleteElement (k : K)
  | deleteCurrentElement
  | clear

inductive Out (K E : Type)
  | done
  | status (r : Except HashTableError Unit)
  | flag (b : Bool)
  | element (elem : E)
  | key (k : K)

variable [DecidableEq K] (getIndex : K → ℕ) (hashsize : ℕ)

/-- A call on the table. Nothing is a read of memory that is not there. -/
def tableStep (t : RTPKeyHashTable K E) : Op K E → Option (Out K E × RTPKeyHashTable K E)
  | .gotoFirstElement => some (.done, t.gotoFirstElement)
  | .gotoLastElement => some (.done, t.gotoLastElement)
  | .gotoNextElement => t.gotoNextElement.map fun t ↦ (.done, t)
  | .gotoPreviousElement => t.gotoPreviousElement.map fun t ↦ (.done, t)
  | .gotoElement k => (t.gotoElement getIndex hashsize k).map fun r ↦ (.status r.1, r.2)
  | .hasCurrentElement => some (.flag t.hasCurrentElement, t)
  | .getCurrentElement => t.getCurrentElement.map fun e ↦ (.element e, t)
  | .getCurrentKey => t.getCurrentKey.map fun k ↦ (.key k, t)
  | .setCurrentElement elem => (t.setCurrentElement elem).map fun t ↦ (.done, t)
  | .hasElement k => (t.hasElement getIndex hashsize k).map fun b ↦ (.flag b, t)
  | .addElement k elem => (t.addElement getIndex hashsize k elem).map fun r ↦ (.status r.1, r.2)
  | .deleteElement k => (t.deleteElement getIndex hashsize k).map fun r ↦ (.status r.1, r.2)
  | .deleteCurrentElement => t.deleteCurrentElement.map fun r ↦ (.status r.1, r.2)
  | .clear => t.clear.map fun t ↦ (.done, t)

/-- The same call on the map. Nothing is a use of the cursor where there is none. -/
def mapStep (m : CursorMap K E) : Op K E → Option (Out K E × CursorMap K E)
  | .gotoFirstElement => some (.done, m.gotoFirst)
  | .gotoLastElement => some (.done, m.gotoLast)
  | .gotoNextElement => m.gotoNext.map fun m ↦ (.done, m)
  | .gotoPreviousElement => m.gotoPrevious.map fun m ↦ (.done, m)
  | .gotoElement k =>
    if getIndex k ≥ hashsize then some (.status (.error .functionReturnedInvalidHashIndex), m)
    else some (.status (if k ∈ keys m.entries then .ok () else .error .keyNotFound), m.find k)
  | .hasCurrentElement => m.current.map fun c ↦ (.flag c.isSome, m)
  | .getCurrentElement => do
    let e ← (← m.current).bind m.lookup
    return (.element e, m)
  | .getCurrentKey => do
    let k ← ← m.current
    return (.key k, m)
  | .setCurrentElement elem => do
    let k ← ← m.current
    return (.done, m.replace k elem)
  | .hasElement k => some (.flag (decide (getIndex k < hashsize ∧ k ∈ keys m.entries)), m)
  | .addElement k elem =>
    if getIndex k ≥ hashsize then some (.status (.error .functionReturnedInvalidHashIndex), m)
    else if k ∈ keys m.entries then some (.status (.error .keyAlreadyExists), m)
    else some (.status (.ok ()), m.add k elem)
  | .deleteElement k =>
    if getIndex k ≥ hashsize then some (.status (.error .functionReturnedInvalidHashIndex), m)
    else if k ∈ keys m.entries then some (.status (.ok ()), m.removeAt k)
    else some (.status (.error .keyNotFound), m.find k)
  | .deleteCurrentElement => m.current.map fun c ↦
    match c with
    | none => (.status (.error .noCurrentElement), m)
    | some k => (.status (.ok ()), m.removeAt k)
  | .clear => some (.done, ⟨[], .stale⟩)

variable {getIndex hashsize}
variable {t : RTPKeyHashTable K E} {m : CursorMap K E} {addrs : List ℕ} {bucket : ℕ → List ℕ}

theorem Rep.gotoNext (h : Rep getIndex hashsize t m addrs bucket) {m' : CursorMap K E}
    (hm : m.gotoNext = some m') :
    ∃ t', t.gotoNextElement = some t' ∧ Rep getIndex hashsize t' m' addrs bucket := by
  obtain ⟨c, hc, rfl⟩ := Option.map_eq_some_iff.mp hm
  obtain ⟨hoff, rfl⟩ | ⟨k, hk, rfl⟩ := current_cases hc
  · have hcur := h.off hoff
    refine ⟨t, by rw [RTPKeyHashTable.gotoNextElement, hcur], ?_⟩
    exact { h with place := hcur }
  · obtain ⟨ea, e, eb, a, p, b, v, hm, hka, -, hab, hcur, hv, -, -, hb⟩ := h.at_split hk
    obtain ⟨-, hnext⟩ := (hab ▸ h.list).fields hv
    have hnext' : v.listnext = b.head? := hnext
    refine ⟨{ t with curhashelem := v.listnext }, ?_, ?_⟩
    · simp only [RTPKeyHashTable.gotoNextElement, hcur, hv, Option.map_some]
    · rw [hnext']
      apply h.move
      rw [Option.bind_some, CursorMap.nextKey, hm, afterKey_split hka]
      exact stands_head hb

theorem Rep.gotoPrevious (h : Rep getIndex hashsize t m addrs bucket) {m' : CursorMap K E}
    (hm : m.gotoPrevious = some m') :
    ∃ t', t.gotoPreviousElement = some t' ∧ Rep getIndex hashsize t' m' addrs bucket := by
  obtain ⟨c, hc, rfl⟩ := Option.map_eq_some_iff.mp hm
  obtain ⟨hoff, rfl⟩ | ⟨k, hk, rfl⟩ := current_cases hc
  · have hcur := h.off hoff
    refine ⟨t, by rw [RTPKeyHashTable.gotoPreviousElement, hcur], ?_⟩
    exact { h with place := hcur }
  · obtain ⟨ea, e, eb, a, p, b, v, hm, hka, -, hab, hcur, hv, -, ha, -⟩ := h.at_split hk
    obtain ⟨hprev, -⟩ := (hab ▸ h.list).fields hv
    have hprev' : v.listprev = a.getLast? := hprev
    refine ⟨{ t with curhashelem := v.listprev }, ?_, ?_⟩
    · simp only [RTPKeyHashTable.gotoPreviousElement, hcur, hv, Option.map_some]
    · rw [hprev']
      apply h.move
      rw [Option.bind_some, CursorMap.previousKey, hm, takeWhile_split hka]
      exact stands_last ha

theorem Rep.find (h : Rep getIndex hashsize t m addrs bucket) (k : K) :
    ∃ c : Option ℕ, t.search getIndex k = some c ∧ (c = none ↔ k ∉ keys m.entries) ∧
      Rep getIndex hashsize { t with curhashelem := c } (m.find k) addrs bucket := by
  obtain ⟨hk, hs⟩ | ⟨hk, p, e, hs, hd⟩ := h.search k
  · refine ⟨none, hs, iff_of_true rfl hk, h.move ?_⟩
    rw [if_neg hk]
    rfl
  · refine ⟨some p, hs, iff_of_false (Option.some_ne_none p) fun hno ↦ hno hk, h.move ?_⟩
    rw [if_pos hk]
    exact ⟨p, _, e, rfl, hd⟩

theorem Rep.gotoElement (h : Rep getIndex hashsize t m addrs bucket) {k : K}
    (hk : getIndex k < hashsize) :
    ∃ t', t.gotoElement getIndex hashsize k =
        some (if k ∈ keys m.entries then .ok () else .error .keyNotFound, t') ∧
      Rep getIndex hashsize t' (m.find k) addrs bucket := by
  obtain ⟨c, hs, hc, hr⟩ := h.find k
  refine ⟨_, ?_, hr⟩
  rw [RTPKeyHashTable.gotoElement, if_neg (Nat.not_le.mpr hk), hs, Option.map_some]
  by_cases hmem : k ∈ keys m.entries
  · rw [if_pos hmem, if_neg fun hno ↦ hc.mp hno hmem]
  · rw [if_neg hmem, if_pos (hc.mpr hmem)]

theorem Rep.hasCurrent (h : Rep getIndex hashsize t m addrs bucket) {c : Option K}
    (hc : m.current = some c) : t.curhashelem.isSome = c.isSome := by
  obtain ⟨hoff, rfl⟩ | ⟨k, hk, rfl⟩ := current_cases hc
  · rw [h.off hoff]
    rfl
  · obtain ⟨_, _, _, _, _, _, _, -, -, -, -, hcur, -⟩ := h.at_split hk
    rw [hcur]
    rfl

theorem Rep.curElement (h : Rep getIndex hashsize t m addrs bucket) {c : Option K}
    (hc : m.current = some c) (hne : c ≠ none) :
    ∃ v, t.curElement = some v ∧ c = some v.key ∧ c.bind m.lookup = some v.element := by
  obtain ⟨-, rfl⟩ | ⟨k, hk, rfl⟩ := current_cases hc
  · exact absurd rfl hne
  · obtain ⟨ea, e, eb, _, p, _, v, hm, hka, -, -, hcur, hv, hpay, -⟩ := h.at_split hk
    obtain ⟨rfl, rfl⟩ := Prod.mk.inj (congrArg Prod.snd hpay)
    exact ⟨v, by rw [RTPKeyHashTable.curElement, hcur, Option.bind_some, hv], rfl,
      lookup_split hm hka⟩

/-- Every call on the table that the map allows does what it does on the map. -/
theorem step_refines (h : Rep getIndex hashsize t m addrs bucket) {op : Op K E} {o : Out K E}
    {m' : CursorMap K E} (hm : mapStep getIndex hashsize m op = some (o, m')) :
    ∃ t' addrs' bucket', tableStep getIndex hashsize t op = some (o, t') ∧
      Rep getIndex hashsize t' m' addrs' bucket' := by
  cases op with
  | gotoFirstElement =>
    cases hm
    refine ⟨_, addrs, bucket, rfl, h.move ?_⟩
    rw [h.first]
    exact stands_head h.entries
  | gotoLastElement =>
    cases hm
    refine ⟨_, addrs, bucket, rfl, h.move ?_⟩
    rw [h.last]
    exact stands_last h.entries
  | gotoNextElement =>
    obtain ⟨m₁, hm₁, heq⟩ := Option.map_eq_some_iff.mp hm
    cases heq
    obtain ⟨t', ht, hr⟩ := h.gotoNext hm₁
    exact ⟨t', addrs, bucket, by rw [tableStep, ht]; rfl, hr⟩
  | gotoPreviousElement =>
    obtain ⟨m₁, hm₁, heq⟩ := Option.map_eq_some_iff.mp hm
    cases heq
    obtain ⟨t', ht, hr⟩ := h.gotoPrevious hm₁
    exact ⟨t', addrs, bucket, by rw [tableStep, ht]; rfl, hr⟩
  | gotoElement k =>
    simp only [mapStep] at hm
    split at hm
    · rename_i hk
      cases hm
      exact ⟨t, addrs, bucket, by simp [tableStep, RTPKeyHashTable.gotoElement, hk], h⟩
    · rename_i hk
      cases hm
      obtain ⟨t', ht, hr⟩ := h.gotoElement (Nat.not_le.mp hk)
      exact ⟨t', addrs, bucket, by rw [tableStep, ht]; rfl, hr⟩
  | hasCurrentElement =>
    obtain ⟨c, hc, heq⟩ := Option.map_eq_some_iff.mp hm
    cases heq
    refine ⟨t, addrs, bucket, ?_, h⟩
    rw [tableStep, RTPKeyHashTable.hasCurrentElement, h.hasCurrent hc]
  | getCurrentElement =>
    simp only [mapStep, Option.bind_eq_bind, Option.bind_eq_some_iff] at hm
    obtain ⟨c, hc, e, ⟨k, rfl, he⟩, heq⟩ := hm
    cases heq
    obtain ⟨v, hv, -, hlookup⟩ := h.curElement hc (Option.some_ne_none k)
    refine ⟨t, addrs, bucket, ?_, h⟩
    rw [tableStep, RTPKeyHashTable.getCurrentElement, hv, Option.map_some, Option.map_some,
      Option.some.inj (hlookup.symm.trans he)]
  | getCurrentKey =>
    simp only [mapStep, Option.bind_eq_bind, Option.bind_eq_some_iff] at hm
    obtain ⟨c, hc, k, rfl, heq⟩ := hm
    cases heq
    obtain ⟨v, hv, hkey, -⟩ := h.curElement hc (Option.some_ne_none k)
    refine ⟨t, addrs, bucket, ?_, h⟩
    rw [tableStep, RTPKeyHashTable.getCurrentKey, hv, Option.map_some, Option.map_some,
      Option.some.inj hkey]
  | setCurrentElement e =>
    simp only [mapStep, Option.bind_eq_bind, Option.bind_eq_some_iff] at hm
    obtain ⟨c, hc, k, rfl, heq⟩ := hm
    cases heq
    obtain ⟨-, hno⟩ | ⟨k', hk, hkk⟩ := current_cases hc
    · cases hno
    · cases hkk
      obtain ⟨t', ht, hr⟩ := h.setCurrentElement hk e
      exact ⟨t', addrs, bucket, by rw [tableStep, ht]; rfl, hr⟩
  | hasElement k =>
    cases hm
    refine ⟨t, addrs, bucket, ?_, h⟩
    by_cases hk : getIndex k < hashsize
    · obtain ⟨c, hs, hc, -⟩ := h.find k
      have hsome : c.isSome = decide (k ∈ keys m.entries) := by
        rw [Bool.eq_iff_iff, Option.isSome_iff_ne_none, decide_eq_true_iff, ne_eq, hc, not_not]
      rw [tableStep, RTPKeyHashTable.hasElement, if_neg (Nat.not_le.mpr hk), hs, Option.map_some,
        Option.map_some, hsome]
      simp only [hk, true_and]
    · simp [tableStep, RTPKeyHashTable.hasElement, hk, Nat.not_lt.mp hk]
  | addElement k e =>
    simp only [mapStep] at hm
    split at hm
    · rename_i hk
      cases hm
      exact ⟨t, addrs, bucket, by simp [tableStep, RTPKeyHashTable.addElement, hk], h⟩
    · rename_i hk
      split at hm
      · rename_i hmem
        cases hm
        obtain ⟨c, hs, hc, -⟩ := h.find k
        have hne : c ≠ none := fun hno ↦ hc.mp hno hmem
        refine ⟨t, addrs, bucket, ?_, h⟩
        simp [tableStep, RTPKeyHashTable.addElement, hk, hs, hne]
      · rename_i hmem
        cases hm
        obtain ⟨t', addrs', bucket', ht, hr⟩ := h.addElement hmem (Nat.not_le.mp hk) e
        exact ⟨t', addrs', bucket', by rw [tableStep, ht]; rfl, hr⟩
  | deleteElement k =>
    simp only [mapStep] at hm
    split at hm
    · rename_i hk
      cases hm
      refine ⟨t, addrs, bucket, ?_, h⟩
      simp [tableStep, RTPKeyHashTable.deleteElement, RTPKeyHashTable.gotoElement, hk]
    · rename_i hk
      obtain ⟨t₁, ht₁, hr₁⟩ := h.gotoElement (Nat.not_le.mp hk)
      split at hm
      · rename_i hmem
        cases hm
        rw [if_pos hmem] at ht₁
        have hfind : (m.find k).place = .at k := if_pos hmem
        obtain ⟨t', addrs', bucket', ht, hr⟩ := hr₁.deleteCurrentElement hfind
        refine ⟨t', addrs', bucket', ?_, hr⟩
        rw [tableStep, RTPKeyHashTable.deleteElement, ht₁]
        simp only [Option.bind_eq_bind, Option.bind_some, ht, Option.map_some]
      · rename_i hmem
        cases hm
        rw [if_neg hmem] at ht₁
        refine ⟨t₁, addrs, bucket, ?_, hr₁⟩
        rw [tableStep, RTPKeyHashTable.deleteElement, ht₁]
        rfl
  | deleteCurrentElement =>
    obtain ⟨c, hc, heq⟩ := Option.map_eq_some_iff.mp hm
    obtain ⟨hoff, rfl⟩ | ⟨k, hk, rfl⟩ := current_cases hc
    · cases heq
      refine ⟨t, addrs, bucket, ?_, h⟩
      simp only [tableStep, RTPKeyHashTable.deleteCurrentElement, h.off hoff, Option.map_some]
    · cases heq
      obtain ⟨t', addrs', bucket', ht, hr⟩ := h.deleteCurrentElement hk
      exact ⟨t', addrs', bucket', by rw [tableStep, ht]; rfl, hr⟩
  | clear =>
    cases hm
    obtain ⟨t', ht, hr⟩ := h.clear
    exact ⟨t', _, _, by rw [tableStep, ht]; rfl, hr⟩

/-- The results of a sequence of calls. -/
def runAll {S : Type} (step : S → Op K E → Option (Out K E × S)) (s : S) :
    List (Op K E) → Option (List (Out K E) × S)
  | [] => some ([], s)
  | op :: ops => do
    let (o, s) ← step s op
    let (os, s) ← runAll step s ops
    return (o :: os, s)

theorem runAll_refines (h : Rep getIndex hashsize t m addrs bucket) {ops : List (Op K E)}
    {os : List (Out K E)} {m' : CursorMap K E}
    (hm : runAll (mapStep getIndex hashsize) m ops = some (os, m')) :
    ∃ t' addrs' bucket', runAll (tableStep getIndex hashsize) t ops = some (os, t') ∧
      Rep getIndex hashsize t' m' addrs' bucket' := by
  induction ops generalizing t m addrs bucket os with
  | nil =>
    cases hm
    exact ⟨t, addrs, bucket, rfl, h⟩
  | cons op ops ih =>
    simp only [runAll, Option.bind_eq_bind, Option.bind_eq_some_iff, Prod.exists] at hm
    obtain ⟨o, m₁, hm₁, os, m₂, hm₂, heq⟩ := hm
    cases heq
    obtain ⟨t₁, addrs₁, bucket₁, ht₁, hr₁⟩ := step_refines h hm₁
    obtain ⟨t₂, addrs₂, bucket₂, ht₂, hr₂⟩ := ih hr₁ hm₂
    refine ⟨t₂, addrs₂, bucket₂, ?_, hr₂⟩
    simp only [runAll, ht₁, Option.bind_eq_bind, Option.bind_some, ht₂]
    rfl

/-- From a new table on, whatever `curhashelem` is then, calls that use the cursor only
where it stands do what they do on the map, and memory is used as it should be. -/
theorem table_refines (curhashelem : Option ℕ) {ops : List (Op K E)} {os : List (Out K E)}
    {m : CursorMap K E}
    (hm : runAll (mapStep getIndex hashsize) ⟨[], .stale⟩ ops = some (os, m)) :
    ∃ t addrs bucket,
      runAll (tableStep getIndex hashsize) (RTPKeyHashTable.new curhashelem) ops = some (os, t) ∧
        Rep getIndex hashsize t m addrs bucket :=
  runAll_refines (rep_new curhashelem) hm

/-- Two keys of one bucket. The first is deleted, and the cursor goes on to the second. -/
theorem table_refines_bucket :
    ∃ t addrs bucket,
      runAll (tableStep (· % 2) 2) (RTPKeyHashTable.new (some 7))
          [.addElement 1 'a', .addElement 3 'b', .gotoElement 1, .deleteCurrentElement,
            .getCurrentElement, .hasElement 1] =
        some ([.status (.ok ()), .status (.ok ()), .status (.ok ()), .status (.ok ()),
          .element 'b', .flag false], t) ∧
        Rep (· % 2) 2 t ⟨[(3, 'b')], .at 3⟩ addrs bucket :=
  table_refines (some 7) rfl

end Steps

end VirtualCamera.Rtp.HashTableRefinement
