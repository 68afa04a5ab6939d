import Mathlib.Data.List.Forall2
import Mathlib.Data.Multiset.Range
import VirtualCamera.Library.Transition

namespace VirtualCamera.Library.Custody

open Transition

/-! ### Items in custody

Items are accepted, wait, get a conclusion, and the effects that the conclusion plans
are then performed one by one. Where an item waits is not looked at. -/

variable {α ε ω : Type}

/-- Which changes an item may undergo while it waits, what conclusions are about and
plan, and how a planned effect may turn out. -/
structure Protocol (α ε ω : Type) where
  same : α → α → Prop
  refl : ∀ a, same a a
  trans : ∀ {a b c}, same a b → same b c → same a c
  about : ω → α
  plan : ω → List ε
  emits : ε → ε → Prop

/-- An item is the one accepted at position `id`. -/
inductive Entry (α ε ω : Type)
  | waiting (id : ℕ) (a : α)
  | performing (id : ℕ) (o : ω) (todo : List ε)

def Entry.id : Entry α ε ω → ℕ
  | .waiting id _ => id
  | .performing id _ _ => id

structure Ledger (α ε ω : Type) where
  accepted : List α
  held : Multiset (Entry α ε ω)
  log : List (ℕ × ε)
  ended : List (ℕ × ω)

/-- What has been performed for an item so far. -/
def Ledger.events (l : Ledger α ε ω) (id : ℕ) : List ε :=
  (l.log.filter fun p ↦ p.1 = id).map Prod.snd

inductive Move (α ε ω : Type)
  | accept (a : α)
  | change (id : ℕ) (a : α)
  | conclude (id : ℕ) (o : ω)
  | perform (id : ℕ) (e : ε)
  | finish (id : ℕ)

inductive Step (P : Protocol α ε ω) : Ledger α ε ω → Move α ε ω → Ledger α ε ω → Prop
  | accept {l : Ledger α ε ω} (a : α) :
      Step P l (.accept a) { l with
        accepted := l.accepted ++ [a]
        held := .waiting l.accepted.length a ::ₘ l.held }
  | change {l : Ledger α ε ω} {h : Multiset (Entry α ε ω)} {id : ℕ} {a b : α} :
      l.held = .waiting id a ::ₘ h → P.same a b →
      Step P l (.change id b) { l with held := .waiting id b ::ₘ h }
  | conclude {l : Ledger α ε ω} {h : Multiset (Entry α ε ω)} {id : ℕ} {a : α} {o : ω} :
      l.held = .waiting id a ::ₘ h → P.same a (P.about o) →
      Step P l (.conclude id o) { l with held := .performing id o (P.plan o) ::ₘ h }
  | perform {l : Ledger α ε ω} {h : Multiset (Entry α ε ω)} {id : ℕ} {o : ω} {e e' : ε}
      {todo : List ε} :
      l.held = .performing id o (e :: todo) ::ₘ h → P.emits e e' →
      Step P l (.perform id e') { l with
        held := .performing id o todo ::ₘ h
        log := l.log ++ [(id, e')] }
  | finish {l : Ledger α ε ω} {h : Multiset (Entry α ε ω)} {id : ℕ} {o : ω} :
      l.held = .performing id o [] ::ₘ h →
      Step P l (.finish id) { l with held := h, ended := l.ended ++ [(id, o)] }

/-- What has been performed for an entry fits what it still has to do. -/
def Protocol.Progress (P : Protocol α ε ω) (l : Ledger α ε ω) : Entry α ε ω → Prop
  | .waiting id a => l.events id = [] ∧ ∃ b, l.accepted[id]? = some b ∧ P.same b a
  | .performing id o todo =>
    (∃ b, l.accepted[id]? = some b ∧ P.same b (P.about o)) ∧
    ∃ done, P.plan o = done ++ todo ∧ done.Forall₂ P.emits (l.events id)

/-- The whole plan of the conclusion has been performed, and nothing else. -/
def Protocol.Completed (P : Protocol α ε ω) (l : Ledger α ε ω) (id : ℕ) (o : ω) : Prop :=
  (∃ b, l.accepted[id]? = some b ∧ P.same b (P.about o)) ∧
  (P.plan o).Forall₂ P.emits (l.events id)

structure Protocol.Invariant (P : Protocol α ε ω) (l : Ledger α ε ω) : Prop where
  owners : l.held.map Entry.id + (l.ended.map Prod.fst : List ℕ) =
    Multiset.range l.accepted.length
  progress : ∀ x ∈ l.held, P.Progress l x
  completed : ∀ id o, (id, o) ∈ l.ended → P.Completed l id o
  logged : ∀ id e, (id, e) ∈ l.log → id < l.accepted.length

variable {P : Protocol α ε ω}

/-! ### Frame lemmas -/

theorem events_append_same (l : Ledger α ε ω) (id : ℕ) (e : ε) (h : Multiset (Entry α ε ω)) :
    Ledger.events { l with held := h, log := l.log ++ [(id, e)] } id = l.events id ++ [e] := by
  simp [Ledger.events]

theorem events_append_other (l : Ledger α ε ω) {id id' : ℕ} (hne : id' ≠ id) (e : ε)
    (h : Multiset (Entry α ε ω)) :
    Ledger.events { l with held := h, log := l.log ++ [(id, e)] } id' = l.events id' := by
  have hd : ¬ id = id' := fun he ↦ hne he.symm
  simp [Ledger.events, hd]

theorem events_eq_nil {l : Ledger α ε ω} {id : ℕ} (h : ∀ e, (id, e) ∉ l.log) :
    l.events id = [] := by
  have hf : l.log.filter (fun p ↦ p.1 = id) = [] := by
    rw [List.filter_eq_nil_iff]
    rintro ⟨id', e⟩ hm hid
    exact h e ((of_decide_eq_true hid : id' = id) ▸ hm)
  rw [Ledger.events, hf, List.map_nil]

/-- Progress only looks at the events of the entry's item and at its acceptance. -/
theorem Progress.congr {l l' : Ledger α ε ω} {x : Entry α ε ω} (hx : P.Progress l x)
    (hev : l'.events x.id = l.events x.id)
    (hacc : ∀ b, l.accepted[x.id]? = some b → l'.accepted[x.id]? = some b) : P.Progress l' x := by
  cases x with
  | waiting id a =>
    obtain ⟨he, b, hb, hs⟩ := hx
    exact ⟨hev.trans he, b, hacc b hb, hs⟩
  | performing id o todo =>
    obtain ⟨⟨b, hb, hs⟩, done, hp, hd⟩ := hx
    exact ⟨⟨b, hacc b hb, hs⟩, done, hp, by rw [Entry.id] at hev; rw [hev]; exact hd⟩

theorem Completed.congr {l l' : Ledger α ε ω} {id : ℕ} {o : ω} (hx : P.Completed l id o)
    (hev : l'.events id = l.events id)
    (hacc : ∀ b, l.accepted[id]? = some b → l'.accepted[id]? = some b) :
    P.Completed l' id o := by
  obtain ⟨⟨b, hb, hs⟩, hd⟩ := hx
  exact ⟨⟨b, hacc b hb, hs⟩, by rw [hev]; exact hd⟩

theorem getElem?_append_of_some {l : List α} {id : ℕ} {a b : α} (h : l[id]? = some b) :
    (l ++ [a])[id]? = some b := by
  obtain ⟨hlt, -⟩ := List.getElem?_eq_some_iff.mp h
  rw [List.getElem?_append_left hlt, h]

/-! ### One step -/

/-- No other entry and no ended item has the number of an entry. -/
theorem owner_unique {l : Ledger α ε ω} {h : Multiset (Entry α ε ω)} {x : Entry α ε ω}
    (hl : P.Invariant l) (hx : l.held = x ::ₘ h) :
    (∀ y ∈ h, y.id ≠ x.id) ∧ ∀ o, (x.id, o) ∉ l.ended := by
  have hn : (l.held.map Entry.id + (l.ended.map Prod.fst : List ℕ)).Nodup := by
    rw [hl.owners]
    exact Multiset.nodup_range _
  rw [hx, Multiset.map_cons, Multiset.cons_add, Multiset.nodup_cons] at hn
  obtain ⟨hnot, -⟩ := hn
  constructor
  · intro y hy he
    exact hnot (Multiset.mem_add.mpr (.inl (Multiset.mem_map.mpr ⟨y, hy, he⟩)))
  · intro o ho
    apply hnot
    rw [Multiset.mem_add]
    exact .inr (Multiset.mem_coe.mpr (List.mem_map.mpr ⟨_, ho, rfl⟩))

theorem invariant_accept {l : Ledger α ε ω} (hl : P.Invariant l) (a : α) :
    P.Invariant { l with
      accepted := l.accepted ++ [a]
      held := .waiting l.accepted.length a ::ₘ l.held } := by
  constructor
  · simp only [Multiset.map_cons, Multiset.cons_add, hl.owners, Entry.id, List.length_append,
      List.length_singleton, Multiset.range_succ]
  · intro x hx
    obtain rfl | hx := Multiset.mem_cons.mp hx
    · refine ⟨events_eq_nil fun e he ↦ ?_, a, ?_, P.refl a⟩
      · exact absurd (hl.logged _ _ he) (lt_irrefl _)
      · exact List.getElem?_concat_length
    · exact Progress.congr (hl.progress x hx) rfl fun b hb ↦ getElem?_append_of_some hb
  · intro id o ho
    exact Completed.congr (hl.completed id o ho) rfl fun b hb ↦ getElem?_append_of_some hb
  · intro id e he
    have := hl.logged id e he
    simp only [List.length_append, List.length_singleton]
    omega

/-- Replacing an entry by one of the same item, with no effect performed. -/
theorem invariant_replace {l : Ledger α ε ω} {h : Multiset (Entry α ε ω)} {x y : Entry α ε ω}
    (hl : P.Invariant l) (hx : l.held = x ::ₘ h) (hid : y.id = x.id) (hy : P.Progress l y) :
    P.Invariant { l with held := y ::ₘ h } := by
  constructor
  · have ho := hl.owners
    rw [hx, Multiset.map_cons] at ho
    rw [Multiset.map_cons, hid, ho]
  · intro z hz
    obtain rfl | hz := Multiset.mem_cons.mp hz
    · exact Progress.congr hy rfl fun b hb ↦ hb
    · have hp := hl.progress z (hx ▸ Multiset.mem_cons_of_mem hz)
      exact Progress.congr hp rfl fun b hb ↦ hb
  · intro id o ho
    exact Completed.congr (hl.completed id o ho) rfl fun b hb ↦ hb
  · exact hl.logged

theorem invariant_perform {l : Ledger α ε ω} {h : Multiset (Entry α ε ω)} {id : ℕ} {o : ω}
    {e e' : ε} {todo : List ε} (hl : P.Invariant l)
    (hx : l.held = .performing id o (e :: todo) ::ₘ h) (hem : P.emits e e') :
    P.Invariant { l with
      held := .performing id o todo ::ₘ h
      log := l.log ++ [(id, e')] } := by
  obtain ⟨hother, hended⟩ := owner_unique hl hx
  have hmem : Entry.performing id o (e :: todo) ∈ l.held := hx ▸ Multiset.mem_cons_self _ _
  obtain ⟨⟨b, hb, hs⟩, done, hp, hd⟩ := hl.progress _ hmem
  constructor
  · have ho := hl.owners
    rw [hx, Multiset.map_cons] at ho
    rw [Multiset.map_cons]
    exact ho
  · intro z hz
    obtain rfl | hz := Multiset.mem_cons.mp hz
    · refine ⟨⟨b, hb, hs⟩, done ++ [e], ?_, ?_⟩
      · rw [hp, List.append_assoc, List.singleton_append]
      · rw [events_append_same]
        exact List.rel_append hd (.cons hem .nil)
    · have hp := hl.progress z (hx ▸ Multiset.mem_cons_of_mem hz)
      exact Progress.congr hp (events_append_other l (hother z hz) e' _) fun b hb ↦ hb
  · intro id' o' ho'
    have hne : id' ≠ id := by
      rintro rfl
      exact hended o' ho'
    exact Completed.congr (hl.completed id' o' ho') (events_append_other l hne e' _) fun b hb ↦ hb
  · intro id' e'' he
    obtain he | he := List.mem_append.mp he
    · exact hl.logged id' e'' he
    · rw [List.mem_singleton, Prod.mk.injEq] at he
      obtain ⟨hlt, -⟩ := List.getElem?_eq_some_iff.mp hb
      exact he.1 ▸ hlt

theorem invariant_finish {l : Ledger α ε ω} {h : Multiset (Entry α ε ω)} {id : ℕ} {o : ω}
    (hl : P.Invariant l) (hx : l.held = .performing id o [] ::ₘ h) :
    P.Invariant { l with held := h, ended := l.ended ++ [(id, o)] } := by
  have hmem : Entry.performing id o [] ∈ l.held := hx ▸ Multiset.mem_cons_self _ _
  obtain ⟨hb, done, hp, hd⟩ := hl.progress _ hmem
  rw [List.append_nil] at hp
  subst hp
  constructor
  · have ho := hl.owners
    rw [hx, Multiset.map_cons, Multiset.cons_add] at ho
    rw [← ho, List.map_append, List.map_singleton, ← Multiset.coe_add, Multiset.coe_singleton,
      Multiset.add_comm (Multiset.ofList _), Multiset.singleton_add, Multiset.add_cons]
    rfl
  · intro z hz
    have hp := hl.progress z (hx ▸ Multiset.mem_cons_of_mem hz)
    exact Progress.congr hp rfl fun b hb ↦ hb
  · intro id' o' ho'
    obtain ho' | ho' := List.mem_append.mp ho'
    · exact Completed.congr (hl.completed id' o' ho') rfl fun b hb ↦ hb
    · rw [List.mem_singleton, Prod.mk.injEq] at ho'
      obtain ⟨rfl, rfl⟩ := ho'
      exact ⟨hb, hd⟩
  · exact hl.logged

theorem Step.invariant {l l' : Ledger α ε ω} {m : Move α ε ω} (h : Step P l m l')
    (hl : P.Invariant l) : P.Invariant l' := by
  cases h with
  | accept a => exact invariant_accept hl a
  | change hx hs =>
    obtain ⟨he, b, hb, hs'⟩ := hl.progress _ (hx ▸ Multiset.mem_cons_self _ _)
    exact invariant_replace hl hx rfl ⟨he, b, hb, P.trans hs' hs⟩
  | @conclude h id a o hx hs =>
    obtain ⟨he, b, hb, hs'⟩ := hl.progress _ (hx ▸ Multiset.mem_cons_self _ _)
    refine invariant_replace hl hx rfl ⟨⟨b, hb, P.trans hs' hs⟩, [], rfl, ?_⟩
    rw [he]
    exact .nil
  | perform hx hem => exact invariant_perform hl hx hem
  | finish hx => exact invariant_finish hl hx

/-! ### Whole runs -/

def Ledger.empty : Ledger α ε ω := ⟨[], 0, [], []⟩

theorem invariant_empty : P.Invariant (Ledger.empty : Ledger α ε ω) := by
  constructor
  · rfl
  · intro x hx
    exact absurd hx (Multiset.notMem_zero x)
  · intro id o ho
    exact absurd ho List.not_mem_nil
  · intro id e he
    exact absurd he List.not_mem_nil

theorem run_invariant {l l' : Ledger α ε ω} {ms : List (Move α ε ω)} (h : Run (Step P) l ms l')
    (hl : P.Invariant l) : P.Invariant l' :=
  h.invariant (P := P.Invariant) (fun _ _ _ hs hl ↦ hs.invariant hl) hl

/-- Every accepted item is in the hands of one holder or has ended, once. -/
theorem count_owner {l : Ledger α ε ω} (hl : P.Invariant l) {id : ℕ}
    (hid : id < l.accepted.length) :
    (l.held.map Entry.id).count id + (l.ended.map Prod.fst).count id = 1 := by
  have hn : (Multiset.range l.accepted.length).count id = 1 :=
    Multiset.count_eq_one_of_mem (Multiset.nodup_range _) (Multiset.mem_range.mpr hid)
  rw [← hl.owners, Multiset.count_add, Multiset.coe_count] at hn
  exact hn

theorem ended_of_not_held {l : Ledger α ε ω} (hl : P.Invariant l) {id : ℕ}
    (hid : id < l.accepted.length) (hh : ∀ x ∈ l.held, x.id ≠ id) : ∃ o, (id, o) ∈ l.ended := by
  have hz : (l.held.map Entry.id).count id = 0 := by
    rw [Multiset.count_eq_zero]
    intro hm
    obtain ⟨x, hx, he⟩ := Multiset.mem_map.mp hm
    exact hh x hx he
  have hc := count_owner hl hid
  have hpos : 0 < (l.ended.map Prod.fst).count id := by omega
  obtain ⟨⟨id', o⟩, hm, he⟩ := List.mem_map.mp (List.count_pos_iff.mp hpos)
  exact ⟨o, he ▸ hm⟩

end VirtualCamera.Library.Custody
