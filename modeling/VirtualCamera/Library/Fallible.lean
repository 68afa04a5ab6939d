import Mathlib.Data.Option.Basic

namespace VirtualCamera.Library.Fallible

variable {ε ε' α β : Type*}

/-- No value becomes an error. -/
def orError (e : ε) : Option α → Except ε α
  | some a => .ok a
  | none => .error e

theorem orError_eq_ok {e : ε} {o : Option α} {a : α} : orError e o = .ok a ↔ o = some a := by
  cases o <;> simp [orError]

theorem orError_eq_error {e e' : ε} {o : Option α} : orError e o = .error e' ↔ o = none ∧ e = e' := by
  cases o <;> simp [orError]

theorem mapError_eq_ok {g : ε → ε'} {x : Except ε α} {a : α} :
    x.mapError g = .ok a ↔ x = .ok a := by
  cases x <;> simp [Except.mapError]

theorem mapError_eq_error {g : ε → ε'} {x : Except ε α} {e : ε'} :
    x.mapError g = .error e ↔ ∃ e', x = .error e' ∧ g e' = e := by
  cases x <;> simp [Except.mapError]

/-- A computation of two steps succeeds when both do. -/
theorem bind_eq_ok {ε α β : Type} {x : Except ε α} {f : α → Except ε β} {b : β} :
    x >>= f = .ok b ↔ ∃ a, x = .ok a ∧ f a = .ok b := by
  cases x with
  | error e => exact ⟨fun h ↦ (by cases h), fun ⟨_, h, _⟩ ↦ (by cases h)⟩
  | ok a =>
    constructor
    · exact fun h ↦ ⟨a, rfl, h⟩
    · intro hcond
      obtain ⟨a', ha, h⟩ := hcond
      cases ha
      exact h

/-- It fails with the error of the step that fails first. -/
theorem bind_eq_error {ε α β : Type} {x : Except ε α} {f : α → Except ε β} {e : ε} :
    x >>= f = .error e ↔ x = .error e ∨ ∃ a, x = .ok a ∧ f a = .error e := by
  cases x with
  | error e' =>
    constructor
    · intro h
      cases h
      exact .inl rfl
    · intro hcond
      obtain h | ⟨a, h, -⟩ := hcond
      · cases h
        rfl
      · cases h
  | ok a =>
    constructor
    · exact fun h ↦ .inr ⟨a, rfl, h⟩
    · intro hcond
      obtain h | ⟨a', ha, h⟩ := hcond
      · cases h
      · cases ha
        exact h

/-- A check comes first. -/
theorem check_eq_ok {c : Prop} [Decidable c] {e : ε} {x : Except ε α} {a : α} :
    (if c then .error e else x) = .ok a ↔ ¬ c ∧ x = .ok a := by
  split <;> simp_all

/-- All steps of a list succeed, each with its own result. -/
theorem mapM_eq_some {α β : Type} {f : α → Option β} {l : List α} {bs : List β} :
    l.mapM f = some bs ↔ l.map f = bs.map some := by
  induction l generalizing bs with
  | nil => cases bs <;> simp
  | cons a l ih =>
    rw [List.mapM_cons]
    cases hf : f a with
    | none => cases bs <;> simp [hf]
    | some b =>
      cases bs with
      | nil => simp [Option.bind_eq_some_iff]
      | cons b' bs =>
        simp only [Option.bind_eq_bind, Option.bind_some, Option.pure_def, List.map_cons, hf,
          List.cons.injEq, Option.some.injEq, Option.bind_eq_some_iff]
        constructor
        · rintro ⟨bs', hbs, rfl, rfl⟩
          exact ⟨rfl, ih.mp hbs⟩
        · rintro ⟨rfl, hbs⟩
          exact ⟨bs, ih.mpr hbs, rfl, rfl⟩

theorem exists_mapM {α β : Type} {f : α → Option β} {l : List α} (h : ∀ a ∈ l, ∃ b, f a = some b) :
    ∃ bs, l.mapM f = some bs := by
  induction l with
  | nil => exact ⟨[], rfl⟩
  | cons a l ih =>
    obtain ⟨b, hb⟩ := h a List.mem_cons_self
    obtain ⟨bs, hbs⟩ := ih fun a ha ↦ h a (List.mem_cons_of_mem _ ha)
    refine ⟨b :: bs, ?_⟩
    rw [List.mapM_cons, hb, hbs]
    rfl

/-- What is looked up at each index makes up the list. -/
theorem mapM_range {β : Type} {f : Nat → Option β} {bs : List β}
    (h : ∀ (i : Nat) (hi : i < bs.length), f i = some bs[i]) :
    (List.range bs.length).mapM f = some bs := by
  rw [mapM_eq_some]
  apply List.ext_getElem
  · simp
  · intro i hi _
    rw [List.length_map, List.length_range] at hi
    simp only [List.getElem_map, List.getElem_range]
    exact h i hi

end VirtualCamera.Library.Fallible
