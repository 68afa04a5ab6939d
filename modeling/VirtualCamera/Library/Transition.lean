import Mathlib.Data.List.Basic
import Mathlib.Data.Option.Basic
import Mathlib.Data.Set.Basic
import Mathlib.Order.WellFounded

namespace VirtualCamera.Library.Transition

variable {σ τ α β : Type}

/-- A finite run of a labelled step relation. -/
inductive Run (step : σ → α → σ → Prop) : σ → List α → σ → Prop
  | nil (s : σ) : Run step s [] s
  | cons {s t u : σ} {a : α} {as : List α} :
      step s a t → Run step t as u → Run step s (a :: as) u

def Reachable (step : σ → α → σ → Prop) (s t : σ) : Prop := ∃ as, Run step s as t

variable {step : σ → α → σ → Prop}

theorem Run.one {s t : σ} {a : α} (h : step s a t) : Run step s [a] t := .cons h (.nil t)

theorem Run.trans {s t u : σ} {as bs : List α}
    (h : Run step s as t) (h' : Run step t bs u) : Run step s (as ++ bs) u := by
  induction h with
  | nil s => exact h'
  | cons hs _ ih => exact .cons hs (ih h')

theorem Run.of_append {s u : σ} {as bs : List α} (h : Run step s (as ++ bs) u) :
    ∃ t, Run step s as t ∧ Run step t bs u := by
  induction as generalizing s with
  | nil => exact ⟨s, .nil s, h⟩
  | cons a as ih =>
    cases h with
    | cons hs h =>
      obtain ⟨t, has, hbs⟩ := ih h
      exact ⟨t, .cons hs has, hbs⟩

theorem Reachable.trans {s t u : σ} {as : List α} (h : Reachable step s t)
    (h' : Run step t as u) : Reachable step s u := by
  obtain ⟨bs, h⟩ := h
  exact ⟨bs ++ as, h.trans h'⟩

/-- What every step preserves holds after every run. -/
theorem Run.invariant {P : σ → Prop} (hstep : ∀ s a t, step s a t → P s → P t)
    {s t : σ} {as : List α} (h : Run step s as t) (hs : P s) : P t := by
  induction h with
  | nil s => exact hs
  | cons h _ ih => exact ih (hstep _ _ _ h hs)

theorem Reachable.invariant {P : σ → Prop} (hstep : ∀ s a t, step s a t → P s → P t)
    {s t : σ} (h : Reachable step s t) (hs : P s) : P t := by
  obtain ⟨as, h⟩ := h
  exact h.invariant hstep hs

theorem Run.mono {step' : σ → α → σ → Prop} (hsub : ∀ s a t, step s a t → step' s a t)
    {s t : σ} {as : List α} (h : Run step s as t) : Run step' s as t := by
  induction h with
  | nil s => exact .nil s
  | cons h _ ih => exact .cons (hsub _ _ _ h) ih

/-- A measure that every step lowers bounds the length of the runs. -/
theorem Run.length_le {μ : σ → ℕ} (hstep : ∀ s a t, step s a t → μ t < μ s)
    {s t : σ} {as : List α} (h : Run step s as t) : as.length + μ t ≤ μ s := by
  induction h with
  | nil s => simp
  | cons hs _ ih =>
    have := hstep _ _ _ hs
    simp only [List.length_cons]
    omega

/-- With such a measure, some run goes on until no step is possible. -/
theorem exists_maximal_run {μ : σ → ℕ} (hstep : ∀ s a t, step s a t → μ t < μ s) (s : σ) :
    ∃ as t, Run step s as t ∧ ∀ a u, ¬ step t a u := by
  induction hn : μ s using Nat.strongRecOn generalizing s with
  | ind n ih =>
    by_cases hs : ∃ a t, step s a t
    · obtain ⟨a, t, ht⟩ := hs
      obtain ⟨as, u, hr, hu⟩ := ih (μ t) (hn ▸ hstep s a t ht) t rfl
      exact ⟨a :: as, u, .cons ht hr, hu⟩
    · refine ⟨[], s, .nil s, fun a t ht ↦ ?_⟩
      exact hs ⟨a, t, ht⟩

/-- A forward simulation: each concrete step is matched by an abstract run. -/
def Simulation (R : σ → τ → Prop) (step : σ → α → σ → Prop) (step' : τ → β → τ → Prop) : Prop :=
  ∀ s a s' t, R s t → step s a s' → ∃ bs t', Run step' t bs t' ∧ R s' t'

theorem Simulation.run {R : σ → τ → Prop} {step' : τ → β → τ → Prop}
    (hsim : Simulation R step step') {s s' : σ} {as : List α} (h : Run step s as s') :
    ∀ t, R s t → ∃ bs t', Run step' t bs t' ∧ R s' t' := by
  induction h with
  | nil s => exact fun t ht ↦ ⟨[], t, .nil t, ht⟩
  | cons hs _ ih =>
    intro t ht
    obtain ⟨bs, t₁, hr₁, ht₁⟩ := hsim _ _ _ t ht hs
    obtain ⟨cs, t₂, hr₂, ht₂⟩ := ih t₁ ht₁
    exact ⟨bs ++ cs, t₂, hr₁.trans hr₂, ht₂⟩

/-- The step relation of a partial step function. -/
def ofPartial (next : σ → α → Option σ) (s : σ) (a : α) (t : σ) : Prop := next s a = some t

def exec (next : σ → α → Option σ) : σ → List α → Option σ
  | s, [] => some s
  | s, a :: as => (next s a).bind fun t ↦ exec next t as

/-- Runs of a partial step function are its successful executions. -/
theorem run_iff_exec (next : σ → α → Option σ) (s t : σ) (as : List α) :
    Run (ofPartial next) s as t ↔ exec next s as = some t := by
  constructor
  · intro h
    induction h with
    | nil s => rfl
    | cons hs _ ih =>
      simp only [exec, ofPartial] at hs ⊢
      rw [hs]
      exact ih
  · intro h
    induction as generalizing s with
    | nil =>
      simp only [exec, Option.some.injEq] at h
      exact h ▸ .nil s
    | cons a as ih =>
      simp only [exec, Option.bind_eq_some_iff] at h
      obtain ⟨u, hu, h⟩ := h
      exact .cons hu (ih u h)

theorem exists_reachable_of_exec {next : σ → α → Option σ} {s : σ} {f : σ → β} {b : β}
    (as : List α) (h : (exec next s as).map f = some b) :
    ∃ t, Reachable (ofPartial next) s t ∧ f t = b := by
  obtain ⟨t, ht, hb⟩ := Option.map_eq_some_iff.mp h
  exact ⟨t, ⟨as, (run_iff_exec next s t as).mpr ht⟩, hb⟩

/-- The runs whose steps all meet a condition on the state before the step. -/
def restrict (step : σ → α → σ → Prop) (ok : σ → α → Prop) (s : σ) (a : α) (t : σ) : Prop :=
  step s a t ∧ ok s a

/-- Every step of a run has one of its labels. -/
theorem Run.restrict_mem {s t : σ} {as : List α} (h : Run step s as t) :
    Run (restrict step fun _ a ↦ a ∈ as) s as t := by
  induction h with
  | nil s => exact .nil s
  | cons hs _ ih =>
    refine .cons ⟨hs, List.mem_cons_self⟩ (ih.mono fun _ _ _ h ↦ ?_)
    exact ⟨h.1, List.mem_cons_of_mem _ h.2⟩

theorem Run.of_restrict {ok : σ → α → Prop} {s t : σ} {as : List α}
    (h : Run (restrict step ok) s as t) : Run step s as t :=
  h.mono fun _ _ _ h ↦ h.1

/-- The partial step function that refuses the steps out of a condition. -/
def guarded (next : σ → α → Option σ) (ok : σ → α → Prop) [∀ s a, Decidable (ok s a)] (s : σ)
    (a : α) : Option σ := if ok s a then next s a else none

theorem run_restrict_of_exec {next : σ → α → Option σ} {ok : σ → α → Prop}
    [∀ s a, Decidable (ok s a)] {s t : σ} {as : List α}
    (h : exec (guarded next ok) s as = some t) : Run (restrict (ofPartial next) ok) s as t := by
  apply ((run_iff_exec _ _ _ _).mpr h).mono
  intro s a t hs
  unfold ofPartial guarded at hs
  split at hs
  · exact ⟨hs, ‹_›⟩
  · cases hs

/-- How many steps of an execution have a property. -/
def countSteps (next : σ → α → Option σ) (p : σ → α → Bool) : σ → List α → ℕ
  | _, [] => 0
  | s, a :: as =>
    (p s a).toNat + match next s a with
      | some t => countSteps next p t as
      | none => 0

/-- A quantity that goes up with the steps of one kind and down with those of another. -/
theorem Run.countSteps_balance {next : σ → α → Option σ} {p q : σ → α → Bool} {φ : σ → ℕ}
    {P : σ → Prop} (hP : ∀ s a t, next s a = some t → P s → P t)
    (hstep : ∀ s a t, P s → next s a = some t → φ t + (q s a).toNat = φ s + (p s a).toNat)
    {s t : σ} {as : List α} (h : Run (ofPartial next) s as t) (hs : P s) :
    φ t + countSteps next q s as = φ s + countSteps next p s as := by
  induction h with
  | nil s => rfl
  | cons hst _ ih =>
    have hst' := hst
    unfold ofPartial at hst'
    have hone := hstep _ _ _ hs hst
    have hrest := ih (hP _ _ _ hst hs)
    simp only [countSteps, hst']
    omega

/-- In an infinite run, the steps that lower a well-founded measure come to an end, when
the other steps leave the measure as it is. -/
theorem eventually_none {r : β → β → Prop} (hr : WellFounded r) {μ : ℕ → β} {p : ℕ → Prop}
    (hlt : ∀ n, p n → r (μ (n + 1)) (μ n)) (heq : ∀ n, ¬ p n → μ (n + 1) = μ n) :
    ∃ N, ∀ n, N ≤ n → ¬ p n := by
  obtain ⟨b, ⟨N, hN⟩, hmin⟩ := hr.has_min (Set.range μ) (Set.range_nonempty μ)
  have hstay : ∀ k, μ (N + k) = b := by
    intro k
    induction k with
    | zero => exact hN
    | succ k ih =>
      by_cases hp : p (N + k)
      · exact absurd (ih ▸ hlt _ hp) (hmin _ ⟨_, rfl⟩)
      · exact (heq _ hp).trans ih
  refine ⟨N, fun n hn hp ↦ ?_⟩
  obtain ⟨k, rfl⟩ := Nat.exists_eq_add_of_le hn
  exact hmin _ ⟨_, rfl⟩ (hstay k ▸ hlt _ hp)

end VirtualCamera.Library.Transition
