import VirtualCamera.Library.Transition

namespace VirtualCamera.Library.Halting

open Transition

variable {ε α β σ : Type}

/-- A loop that stops at the first element whose step fails. What the step did until then
stays done. -/
def runUntil (f : σ → α → Except ε Unit × σ) : σ → List α → Except ε Unit × σ
  | s, [] => (.ok (), s)
  | s, a :: l =>
    match f s a with
    | (.error e, s) => (.error e, s)
    | (.ok (), s) => runUntil f s l

variable {f : σ → α → Except ε Unit × σ}

@[simp] theorem runUntil_nil (s : σ) : runUntil f s [] = (.ok (), s) := rfl

theorem runUntil_cons_error {s s' : σ} {a : α} {e : ε} (h : f s a = (.error e, s'))
    (l : List α) : runUntil f s (a :: l) = (.error e, s') := by
  rw [runUntil, h]

theorem runUntil_cons_ok {s s' : σ} {a : α} (h : f s a = (.ok (), s')) (l : List α) :
    runUntil f s (a :: l) = runUntil f s' l := by
  rw [runUntil, h]

/-- What each step keeps is kept, whether the loop comes to its end or not. -/
theorem runUntil_invariant {P : σ → Prop} {l : List α}
    (hstep : ∀ a ∈ l, ∀ s, P s → P (f s a).2) {s : σ} (hs : P s) : P (runUntil f s l).2 := by
  induction l generalizing s with
  | nil => exact hs
  | cons a l ih =>
    obtain ⟨ha, hl⟩ := List.forall_mem_cons.mp hstep
    have hnext := ha s hs
    obtain ⟨⟨r, s'⟩, hf⟩ : ∃ x, f s a = x := ⟨_, rfl⟩
    rw [hf] at hnext
    cases r with
    | error e =>
      rw [runUntil_cons_error hf]
      exact hnext
    | ok u =>
      rw [runUntil_cons_ok hf]
      exact ih hl hnext

theorem runUntil_reachable {step : σ → β → σ → Prop} {l : List α}
    (hstep : ∀ a ∈ l, ∀ s, Reachable step s (f s a).2) (s : σ) :
    Reachable step s (runUntil f s l).2 := by
  apply runUntil_invariant (P := fun s' ↦ Reachable step s s')
  · intro a ha s' hs'
    obtain ⟨bs, hbs⟩ := hstep a ha s'
    exact hs'.trans hbs
  · exact ⟨[], .nil s⟩

/-- Where a step fails for its element alone, and always in one way, the loop fails when
such an element is there. -/
theorem runUntil_error_iff {Bad : α → Prop} {e₀ : ε} {P : σ → Prop} {l : List α}
    (hkeep : ∀ a ∈ l, ∀ s, P s → P (f s a).2)
    (hstep : ∀ a ∈ l, ∀ s, P s → ∀ e, (f s a).1 = .error e ↔ Bad a ∧ e = e₀)
    {s : σ} (hs : P s) (e : ε) :
    (runUntil f s l).1 = .error e ↔ (∃ a ∈ l, Bad a) ∧ e = e₀ := by
  induction l generalizing s with
  | nil => simp
  | cons a l ih =>
    obtain ⟨hka, hkl⟩ := List.forall_mem_cons.mp hkeep
    obtain ⟨ha, hl⟩ := List.forall_mem_cons.mp hstep
    have hnext := hka s hs
    have hbad := ha s hs
    obtain ⟨⟨r, s'⟩, hf⟩ : ∃ x, f s a = x := ⟨_, rfl⟩
    rw [hf] at hnext hbad
    rw [List.exists_mem_cons_iff]
    cases r with
    | error e' =>
      rw [runUntil_cons_error hf]
      obtain ⟨hba, rfl⟩ := (hbad e').mp rfl
      constructor
      · intro h
        cases h
        exact ⟨.inl hba, rfl⟩
      · rintro ⟨-, rfl⟩
        rfl
    | ok u =>
      have hgood : ¬ Bad a := by
        intro hba
        have hno := (hbad e₀).mpr ⟨hba, rfl⟩
        cases hno
      rw [runUntil_cons_ok hf, ih hkl hl hnext]
      simp only [hgood, false_or]

end VirtualCamera.Library.Halting
