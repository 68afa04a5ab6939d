import Mathlib

namespace VirtualCamera.Library.Reassembly

variable {α β ι : Type}

/-- A delivery of a fragmenting sender: a whole unit, or a piece of one. -/
inductive Fragment (α : Type)
  | first (body : List α)
  | middle (body : List α)
  | last (body : List α)
  | whole (body : List α)
  deriving DecidableEq, Repr

namespace Fragment

def body : Fragment α → List α
  | first b | middle b | last b | whole b => b

/-- The delivery starts afresh, whatever is pending. -/
def resets : Fragment α → Bool
  | first _ | whole _ => true
  | middle _ | last _ => false

/-- The delivery completes a unit. -/
def closes : Fragment α → Bool
  | last _ | whole _ => true
  | first _ | middle _ => false

end Fragment

/-- What is stored once a delivery has been taken up. -/
def store (p : List α) (f : Fragment α) : List α := (if f.resets then [] else p) ++ f.body

def pending (p : List α) (f : Fragment α) : List α := if f.closes then [] else store p f

/-- The units a reassembler hands over, each with the tag of the delivery that
completed it. -/
def units (p : List α) : List (ι × Fragment α) → List (ι × List α)
  | [] => []
  | (i, f) :: fs =>
    (if f.closes then [(i, store p f)] else []) ++ units (pending p f) fs

def pendingAll (p : List α) (fs : List (ι × Fragment α)) : List α :=
  fs.foldl (fun p f ↦ pending p f.2) p

/-- What carries the tag `a`. -/
def own [DecidableEq ι] (a : ι) (l : List (ι × β)) : List (ι × β) := l.filter fun x ↦ x.1 = a

/-- No store ever exceeds the capacity. -/
def Fits (c : ℕ) (p : List α) : List (ι × Fragment α) → Prop
  | [] => True
  | (_, f) :: fs => (store p f).length ≤ c ∧ Fits c (pending p f) fs

section Own

variable [DecidableEq ι] {a : ι}

theorem own_cons_self {x : ι × β} (h : x.1 = a) (l : List (ι × β)) :
    own a (x :: l) = x :: own a l := List.filter_cons_of_pos (decide_eq_true h)

theorem own_cons_other {x : ι × β} (h : x.1 ≠ a) (l : List (ι × β)) :
    own a (x :: l) = own a l := List.filter_cons_of_neg (by simpa using h)

theorem own_append (l l' : List (ι × β)) : own a (l ++ l') = own a l ++ own a l' :=
  List.filter_append _ _

theorem own_eq_self {l : List (ι × β)} (h : ∀ x ∈ l, x.1 = a) : own a l = l :=
  List.filter_eq_self.mpr fun x hx ↦ decide_eq_true (h x hx)

theorem own_eq_nil {l : List (ι × β)} (h : ∀ x ∈ l, x.1 ≠ a) : own a l = [] :=
  List.filter_eq_nil_iff.mpr fun x hx hxa ↦ h x hx (of_decide_eq_true hxa)

theorem own_map {γ : Type} (g : β → γ) (l : List (ι × β)) :
    own a (l.map fun x ↦ (x.1, g x.2)) = (own a l).map fun x ↦ (x.1, g x.2) := List.filter_map

end Own

@[simp] theorem pendingAll_nil (p : List α) : pendingAll p ([] : List (ι × Fragment α)) = p := rfl

@[simp] theorem pendingAll_cons (p : List α) (f : ι × Fragment α) (fs : List (ι × Fragment α)) :
    pendingAll p (f :: fs) = pendingAll (pending p f.2) fs := rfl

theorem pendingAll_append (p : List α) (fs gs : List (ι × Fragment α)) :
    pendingAll p (fs ++ gs) = pendingAll (pendingAll p fs) gs := List.foldl_append

theorem units_append (p : List α) (fs gs : List (ι × Fragment α)) :
    units p (fs ++ gs) = units p fs ++ units (pendingAll p fs) gs := by
  induction fs generalizing p with
  | nil => rfl
  | cons f fs ih =>
    simp only [List.cons_append, units, ih, pendingAll_cons, List.append_assoc]

theorem units_tag {p : List α} {fs : List (ι × Fragment α)} {i : ι} {u : List α}
    (h : (i, u) ∈ units p fs) : ∃ f ∈ fs, f.1 = i := by
  induction fs generalizing p with
  | nil => cases h
  | cons f fs ih =>
    rcases List.mem_append.mp h with h | h
    · split at h
      · exact ⟨f, List.mem_cons_self, (congrArg Prod.fst (List.mem_singleton.mp h)).symm⟩
      · cases h
    · obtain ⟨g, hg, hi⟩ := ih h
      exact ⟨g, List.mem_cons_of_mem _ hg, hi⟩

theorem store_of_resets {f : Fragment α} (h : f.resets = true) (p q : List α) :
    store p f = store q f := by
  simp only [store, h, if_true]

/-- The pieces a unit is cut into. -/
inductive Cut : List α → List (Fragment α) → Prop
  | whole (b : List α) : Cut b [.whole b]
  | pieces (b : List α) (mids : List (List α)) (e : List α) :
      Cut (b ++ (mids.flatten ++ e)) (.first b :: (mids.map .middle ++ [.last e]))

theorem middles_pending (p : List α) (i : ι) (mids : List (List α)) :
    pendingAll p (mids.map fun b ↦ (i, Fragment.middle b)) = p ++ mids.flatten := by
  induction mids generalizing p with
  | nil => simp
  | cons b mids ih =>
    rw [List.map_cons, pendingAll_cons, ih]
    simp [pending, store, Fragment.resets, Fragment.closes, Fragment.body]

theorem middles_units (p : List α) (i : ι) (mids : List (List α)) :
    units p (mids.map fun b ↦ (i, Fragment.middle b)) = [] := by
  induction mids generalizing p with
  | nil => rfl
  | cons b mids ih => exact ih _

def tagged (i : ι) (fs : List (Fragment α)) : List (ι × Fragment α) := fs.map fun f ↦ (i, f)

theorem tagged_fst {i : ι} {fs : List (Fragment α)} {f : ι × Fragment α} (h : f ∈ tagged i fs) :
    f.1 = i := by
  obtain ⟨g, -, rfl⟩ := List.mem_map.mp h
  rfl

theorem pieces_store (p b e : List α) (i : ι) (mids : List (List α)) :
    store (pendingAll p ((i, Fragment.first b) :: mids.map fun b ↦ (i, Fragment.middle b)))
      (.last e) = b ++ (mids.flatten ++ e) := by
  rw [pendingAll_cons, middles_pending]
  simp [store, pending, Fragment.resets, Fragment.closes, Fragment.body]

theorem tagged_pieces (b e : List α) (i : ι) (mids : List (List α)) :
    tagged i (.first b :: (mids.map Fragment.middle ++ [Fragment.last e])) =
      ((i, Fragment.first b) :: mids.map fun b ↦ (i, Fragment.middle b)) ++
        [(i, Fragment.last e)] := by
  simp [tagged]

/-- All pieces of a unit hand over that unit, whatever was pending. -/
theorem Cut.units {u : List α} {fs : List (Fragment α)} (h : Cut u fs) (p : List α) (i : ι) :
    units p (tagged i fs) = [(i, u)] ∧ pendingAll p (tagged i fs) = [] := by
  cases h with
  | whole b =>
    simp [tagged, Reassembly.units, store, pending, Fragment.resets, Fragment.closes, Fragment.body]
  | pieces b mids e =>
    rw [tagged_pieces, units_append, pendingAll_append]
    constructor
    · have hfirst : Reassembly.units p ((i, Fragment.first b) ::
          mids.map fun b ↦ (i, Fragment.middle b)) = [] := middles_units _ i mids
      rw [hfirst, List.nil_append, Reassembly.units, pieces_store]
      rfl
    · rfl

/-- Whole and undisturbed units come back in order. -/
theorem units_flatMap {us : List (ι × List α)} {cut : List α → List (Fragment α)}
    (h : ∀ u ∈ us, Cut u.2 (cut u.2)) (p : List α) :
    units p (us.flatMap fun u ↦ tagged u.1 (cut u.2)) = us := by
  induction us generalizing p with
  | nil => rfl
  | cons u us ih =>
    obtain ⟨hu, hus⟩ := List.forall_mem_cons.mp h
    obtain ⟨hunits, hpending⟩ := hu.units p u.1
    rw [List.flatMap_cons, units_append, hunits, hpending, List.singleton_append, ih hus]

theorem flatMap_tags {us : List (ι × List α)} {cut : List α → List (Fragment α)}
    {f : ι × Fragment α} (h : f ∈ us.flatMap fun u ↦ tagged u.1 (cut u.2)) :
    f.1 ∈ us.map Prod.fst := by
  obtain ⟨u, hu, hf⟩ := List.mem_flatMap.mp h
  exact tagged_fst hf ▸ List.mem_map_of_mem hu

/-- The pieces of one unit among those of all. -/
theorem own_flatMap {us : List (ι × List α)} (cut : List α → List (Fragment α)) [DecidableEq ι]
    (hnodup : (us.map Prod.fst).Nodup) {i : ι} {u : List α} (hu : (i, u) ∈ us) :
    own i (us.flatMap fun u ↦ tagged u.1 (cut u.2)) = tagged i (cut u) := by
  induction us with
  | nil => cases hu
  | cons w us ih =>
    obtain ⟨hfresh, hnodup⟩ := List.nodup_cons.mp hnodup
    rw [List.flatMap_cons, own_append]
    rcases List.mem_cons.mp hu with rfl | hu
    · have hrest : ∀ f ∈ us.flatMap fun u ↦ tagged u.1 (cut u.2), f.1 ≠ i :=
        fun f hf hfi ↦ hfresh (hfi ▸ flatMap_tags hf)
      rw [own_eq_self fun f hf ↦ tagged_fst hf, own_eq_nil hrest, List.append_nil]
    · have hne : w.1 ≠ i := fun h ↦ hfresh (h ▸ List.mem_map_of_mem hu)
      rw [own_eq_nil fun f hf hfi ↦ hne ((tagged_fst hf).symm.trans hfi), List.nil_append,
        ih hnodup hu]

/-- Under loss, a unit handed over for a group whose pieces all arrived is the
group's unit. -/
theorem units_of_sublist {us : List (ι × List α)} {cut : List α → List (Fragment α)}
    [DecidableEq ι] (hcut : ∀ u ∈ us, Cut u.2 (cut u.2)) (hnodup : (us.map Prod.fst).Nodup)
    {fs : List (ι × Fragment α)}
    (hsub : fs.Sublist (us.flatMap fun u ↦ tagged u.1 (cut u.2))) (p : List α) {i : ι}
    {u v : List α} (hu : (i, u) ∈ us) (hv : (i, v) ∈ units p fs)
    (hall : own i fs = tagged i (cut u)) : v = u := by
  induction us generalizing fs p with
  | nil => cases hu
  | cons w us ih =>
    obtain ⟨hw, hus⟩ := List.forall_mem_cons.mp hcut
    obtain ⟨hfresh, hnodup⟩ := List.nodup_cons.mp hnodup
    rw [List.flatMap_cons] at hsub
    obtain ⟨fs₁, fs₂, rfl, hsub₁, hsub₂⟩ := List.sublist_append_iff.mp hsub
    have htag₁ : ∀ f ∈ fs₁, f.1 = w.1 := fun f hf ↦ tagged_fst (hsub₁.subset hf)
    have htag₂ : ∀ f ∈ fs₂, f.1 ∈ us.map Prod.fst := fun f hf ↦ flatMap_tags (hsub₂.subset hf)
    rw [units_append] at hv
    rw [own_append] at hall
    rcases List.mem_cons.mp hu with rfl | hu
    · -- the head group is complete, and no later delivery carries its tag
      have hfresh₂ : ∀ f ∈ fs₂, f.1 ≠ i := fun f hf hfi ↦ hfresh (hfi ▸ htag₂ f hf)
      rw [own_eq_self htag₁, own_eq_nil hfresh₂, List.append_nil] at hall
      rw [hall, (hw.units p i).1] at hv
      rcases List.mem_append.mp hv with hv | hv
      · exact congrArg Prod.snd (List.mem_singleton.mp hv)
      · obtain ⟨f, hf, hfi⟩ := units_tag hv
        exact absurd hfi (hfresh₂ f hf)
    · have hne : w.1 ≠ i := fun h ↦ hfresh (h ▸ List.mem_map_of_mem hu)
      have hother₁ : ∀ f ∈ fs₁, f.1 ≠ i := fun f hf hfi ↦ hne ((htag₁ f hf).symm.trans hfi)
      rw [own_eq_nil hother₁, List.nil_append] at hall
      rcases List.mem_append.mp hv with hv | hv
      · obtain ⟨f, hf, hfi⟩ := units_tag hv
        exact absurd hfi (hother₁ f hf)
      · exact ih hus hnodup hsub₂ _ hu hv hall

/-! ### Capacity -/

def size (fs : List (ι × Fragment α)) : ℕ := (fs.map fun f ↦ f.2.body.length).sum

/-- Only the first delivery may start afresh, and only the last may complete. -/
def Burst (fs : List (ι × Fragment α)) : Prop :=
  (∀ f ∈ fs.tail, f.2.resets = false) ∧ ∀ f ∈ fs.dropLast, f.2.closes = false

theorem fits_append (c : ℕ) (p : List α) (fs gs : List (ι × Fragment α)) :
    Fits c p (fs ++ gs) ↔ Fits c p fs ∧ Fits c (pendingAll p fs) gs := by
  induction fs generalizing p with
  | nil => simp [Fits]
  | cons f fs ih => simp only [List.cons_append, Fits, ih, pendingAll_cons, and_assoc]

theorem store_length_of_resets {f : Fragment α} (h : f.resets = true) (p : List α) :
    (store p f).length = f.body.length := by
  simp only [store, h, if_true, List.nil_append]

theorem store_length_of_not_resets {f : Fragment α} (h : f.resets = false) (p : List α) :
    (store p f).length = p.length + f.body.length := by
  simp only [store, h, Bool.false_eq_true, if_false, List.length_append]

theorem body_le_store (p : List α) (f : Fragment α) : f.body.length ≤ (store p f).length := by
  rw [store, List.length_append]
  exact Nat.le_add_left _ _

theorem pending_of_not_closes {f : Fragment α} (h : f.closes = false) (p : List α) :
    pending p f = store p f := by
  simp only [pending, h, Bool.false_eq_true, if_false]

theorem pendingAll_length {fs : List (ι × Fragment α)} (hcloses : ∀ f ∈ fs, f.2.closes = false)
    (hresets : ∀ f ∈ fs, f.2.resets = false) (p : List α) :
    (pendingAll p fs).length = p.length + size fs := by
  induction fs generalizing p with
  | nil => rfl
  | cons f fs ih =>
    obtain ⟨hc, hcs⟩ := List.forall_mem_cons.mp hcloses
    obtain ⟨hr, hrs⟩ := List.forall_mem_cons.mp hresets
    rw [pendingAll_cons, ih hcs hrs, pending_of_not_closes hc, store_length_of_not_resets hr]
    simp only [size, List.map_cons, List.sum_cons]
    omega

theorem size_le_pendingAll {fs : List (ι × Fragment α)} (hcloses : ∀ f ∈ fs, f.2.closes = false)
    (hresets : ∀ f ∈ fs.tail, f.2.resets = false) (p : List α) :
    size fs ≤ (pendingAll p fs).length := by
  cases fs with
  | nil => exact Nat.zero_le _
  | cons f fs =>
    obtain ⟨hc, hcs⟩ := List.forall_mem_cons.mp hcloses
    have hbody := body_le_store p f.2
    rw [pendingAll_cons, pendingAll_length hcs hresets, pending_of_not_closes hc]
    simp only [size, List.map_cons, List.sum_cons]
    omega

theorem size_append (fs gs : List (ι × Fragment α)) : size (fs ++ gs) = size fs + size gs := by
  simp [size]

theorem size_le_of_infix {fs gs : List (ι × Fragment α)} (h : fs <:+: gs) : size fs ≤ size gs := by
  obtain ⟨pre, suf, rfl⟩ := h
  rw [size_append, size_append]
  omega

theorem burst_le_of_fits {c : ℕ} {p : List α} {b : List (ι × Fragment α)} (hb : Burst b)
    (h : Fits c p b) : size b ≤ c := by
  obtain ⟨hresets, hcloses⟩ := hb
  rcases List.eq_nil_or_concat' b with rfl | ⟨b', g, rfl⟩
  · exact Nat.zero_le _
  · rw [List.dropLast_concat] at hcloses
    have hstore := ((fits_append c p b' [g]).mp h).2.1
    cases b' with
    | nil =>
      have hbody := body_le_store p g.2
      simp only [size, List.nil_append, List.map_cons, List.map_nil, List.sum_cons, List.sum_nil,
        pendingAll_nil] at hstore ⊢
      omega
    | cons f b' =>
      rw [List.cons_append, List.tail_cons] at hresets
      have htail : ∀ x ∈ b', x.2.resets = false := fun x hx ↦
        hresets x (List.mem_append_left _ hx)
      have hg := hresets g (List.mem_append_right _ List.mem_cons_self)
      have hsize := size_le_pendingAll hcloses htail p
      rw [store_length_of_not_resets hg] at hstore
      rw [size_append]
      simp only [size, List.map_cons, List.map_nil, List.sum_cons, List.sum_nil] at hsize hstore ⊢
      omega

theorem tail_concat {r : List (ι × Fragment α)} {f : ι × Fragment α}
    (h : ∀ x ∈ r.tail, x.2.resets = false) (hf : f.2.resets = false) :
    ∀ x ∈ (r ++ [f]).tail, x.2.resets = false := by
  cases r with
  | nil => simp
  | cons g r =>
    intro x hx
    rw [List.cons_append, List.tail_cons] at hx
    rcases List.mem_append.mp hx with hx | hx
    · exact h x hx
    · rw [List.mem_singleton.mp hx, hf]

/-- What is pending is exactly the open burst at the end. -/
theorem exists_open_burst (fs : List (ι × Fragment α)) :
    ∃ r, r <:+ fs ∧ (∀ f ∈ r, f.2.closes = false) ∧ (∀ f ∈ r.tail, f.2.resets = false) ∧
      (pendingAll [] fs).length = size r := by
  induction fs using List.reverseRecOn with
  | nil => exact ⟨[], List.suffix_rfl, by simp, by simp, rfl⟩
  | append_singleton fs f ih =>
    obtain ⟨r, hr, hcloses, hresets, hlen⟩ := ih
    rw [pendingAll_append, pendingAll_cons, pendingAll_nil]
    cases hc : f.2.closes with
    | true => exact ⟨[], List.nil_suffix, by simp, by simp, by simp [pending, hc, size]⟩
    | false =>
      rw [pending_of_not_closes hc]
      cases hf : f.2.resets with
      | true =>
        refine ⟨[f], List.suffix_append _ _, by simpa using hc, by simp, ?_⟩
        rw [store_length_of_resets hf]
        simp [size]
      | false =>
        refine ⟨r ++ [f], ?_, ?_, ?_, ?_⟩
        · obtain ⟨t, rfl⟩ := hr
          exact ⟨t, by simp⟩
        · intro g hg
          rcases List.mem_append.mp hg with hg | hg
          · exact hcloses g hg
          · rw [List.mem_singleton.mp hg, hc]
        · exact tail_concat hresets hf
        · rw [store_length_of_not_resets hf, hlen, size_append]
          simp [size]

theorem store_le_of_bursts {c : ℕ} {fs : List (ι × Fragment α)}
    (h : ∀ b, b <:+: fs → Burst b → size b ≤ c) {pre suf : List (ι × Fragment α)}
    {f : ι × Fragment α} (hfs : fs = pre ++ f :: suf) :
    (store (pendingAll [] pre) f.2).length ≤ c := by
  cases hf : f.2.resets with
  | true =>
    have hb := h [f] ⟨pre, suf, by rw [hfs]; simp⟩ ⟨by simp, by simp⟩
    rw [store_length_of_resets hf]
    simpa [size] using hb
  | false =>
    obtain ⟨r, ⟨t, ht⟩, hcloses, hresets, hlen⟩ := exists_open_burst pre
    have hburst : Burst (r ++ [f]) :=
      ⟨tail_concat hresets hf, by rwa [List.dropLast_concat]⟩
    have hb := h (r ++ [f]) ⟨t, suf, by rw [hfs, ← ht]; simp⟩ hburst
    rw [store_length_of_not_resets hf, hlen]
    rw [size_append] at hb
    simpa [size] using hb

theorem fits_of_stores {c : ℕ} {fs : List (ι × Fragment α)} (p : List α)
    (h : ∀ pre f suf, fs = pre ++ f :: suf → (store (pendingAll p pre) f.2).length ≤ c) :
    Fits c p fs := by
  induction fs generalizing p with
  | nil => trivial
  | cons f fs ih =>
    refine ⟨h [] f fs rfl, ih _ ?_⟩
    intro pre g suf hfs
    exact h (f :: pre) g suf (by rw [hfs, List.cons_append])

/-- A capacity suffices exactly when it holds every burst of the deliveries. -/
theorem fits_iff_bursts (c : ℕ) (fs : List (ι × Fragment α)) :
    Fits c [] fs ↔ ∀ b, b <:+: fs → Burst b → size b ≤ c := by
  constructor
  · rintro h b ⟨pre, suf, rfl⟩ hb
    rw [List.append_assoc, fits_append, fits_append] at h
    exact burst_le_of_fits hb h.2.1
  · intro h
    exact fits_of_stores [] fun pre f suf hfs ↦ store_le_of_bursts h hfs

theorem fits_middles {c : ℕ} (i : ι) (mids : List (List α)) :
    ∀ p : List α, p.length + mids.flatten.length ≤ c →
      Fits c p (mids.map fun b ↦ (i, Fragment.middle b)) := by
  induction mids with
  | nil => intro p _; trivial
  | cons b mids ih =>
    intro p h
    rw [List.flatten_cons, List.length_append] at h
    have hstore : store p (.middle b) = p ++ b := rfl
    refine ⟨?_, ih _ ?_⟩
    · rw [hstore, List.length_append]
      omega
    · rw [pending_of_not_closes rfl, hstore, List.length_append]
      omega

/-- The pieces of a unit fit wherever the unit does. -/
theorem Cut.fits {c : ℕ} {u : List α} {fs : List (Fragment α)} (h : Cut u fs) (hle : u.length ≤ c)
    (p : List α) (i : ι) : Fits c p (tagged i fs) := by
  cases h with
  | whole b => exact ⟨hle, trivial⟩
  | pieces b mids e =>
    simp only [List.length_append] at hle
    rw [tagged_pieces, fits_append]
    refine ⟨⟨?_, fits_middles i mids _ ?_⟩, ?_, trivial⟩
    · rw [store_length_of_resets rfl]
      exact (Nat.le_add_right _ _).trans hle
    · rw [pending_of_not_closes rfl, store_length_of_resets rfl]
      exact (Nat.add_le_add_left (Nat.le_add_right _ _) _).trans hle
    · rw [pieces_store]
      simpa only [List.length_append] using hle

theorem fits_flatMap {c : ℕ} {us : List (ι × List α)} {cut : List α → List (Fragment α)}
    (h : ∀ u ∈ us, Cut u.2 (cut u.2)) (hle : ∀ u ∈ us, u.2.length ≤ c) (p : List α) :
    Fits c p (us.flatMap fun u ↦ tagged u.1 (cut u.2)) := by
  induction us generalizing p with
  | nil => trivial
  | cons u us ih =>
    obtain ⟨hu, hus⟩ := List.forall_mem_cons.mp h
    obtain ⟨hleu, hleus⟩ := List.forall_mem_cons.mp hle
    rw [List.flatMap_cons, fits_append]
    exact ⟨hu.fits hleu p u.1, ih hus hleus _⟩

/-! ### Several senders -/

variable [DecidableEq ι] (a : ι)

/-- The next delivery of `a`, if there is one, starts afresh. -/
def Between (fs : List (ι × Fragment α)) : Prop := ∀ f ∈ (own a fs).head?, f.2.resets = true

/-- The other senders' deliveries fall between the units of `a`. -/
def Undisturbed : List (ι × Fragment α) → Prop
  | [] => True
  | f :: fs => (f.1 ≠ a → Between a fs) ∧ Undisturbed fs

theorem store_eq_of_between {f : ι × Fragment α} (h : f.1 = a) {fs : List (ι × Fragment α)}
    {p q : List α} (hpq : p = q ∨ Between a (f :: fs)) : store p f.2 = store q f.2 := by
  rcases hpq with rfl | hb
  · rfl
  · refine store_of_resets (hb f ?_) p q
    rw [own_cons_self h]
    rfl

/-- Undisturbed, a sender's units are those its deliveries give alone. -/
theorem units_own {fs : List (ι × Fragment α)} (h : Undisturbed a fs) {p q : List α}
    (hpq : p = q ∨ Between a fs) : own a (units p fs) = units q (own a fs) := by
  induction fs generalizing p q with
  | nil => rfl
  | cons f fs ih =>
    obtain ⟨hother, hrest⟩ := h
    by_cases hf : f.1 = a
    · have hstore := store_eq_of_between a hf hpq
      have hpending : pending p f.2 = pending q f.2 := by simp only [pending, hstore]
      rw [own_cons_self hf, units, units, own_append, hstore, hpending, ih hrest (.inl rfl)]
      congr 1
      split
      · exact own_eq_self (by simpa using hf)
      · rfl
    · rw [own_cons_other hf, units, own_append, ih hrest (.inr (hother hf))]
      have hnil : own a (if f.2.closes then [(f.1, store p f.2)] else []) = [] := by
        split
        · exact own_eq_nil (by simpa using hf)
        · rfl
      rw [hnil, List.nil_append]

theorem fits_own {c : ℕ} {fs : List (ι × Fragment α)} (h : Undisturbed a fs) {p q : List α}
    (hpq : p = q ∨ Between a fs) (hfits : Fits c p fs) : Fits c q (own a fs) := by
  induction fs generalizing p q with
  | nil => trivial
  | cons f fs ih =>
    obtain ⟨hother, hrest⟩ := h
    by_cases hf : f.1 = a
    · have hstore := store_eq_of_between a hf hpq
      have hpending : pending p f.2 = pending q f.2 := by simp only [pending, hstore]
      rw [own_cons_self hf]
      exact ⟨hstore ▸ hfits.1, hpending ▸ ih hrest (.inl rfl) hfits.2⟩
    · rw [own_cons_other hf]
      exact ih hrest (.inr (hother hf)) hfits.2

end VirtualCamera.Library.Reassembly
