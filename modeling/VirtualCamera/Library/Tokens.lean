import Mathlib.Data.List.TakeWhile

namespace VirtualCamera.Library.Tokens

/-! ### Tokens between delimiters -/

variable {α : Type*} (p : α → Bool)

/-- The next token and what is behind its delimiter; delimiters before it are skipped. -/
def strtok (s : List α) : Option (List α × List α) :=
  match s.dropWhile p with
  | [] => none
  | a :: l => some ((a :: l).takeWhile (!p ·), ((a :: l).dropWhile (!p ·)).tail)

/-- The parts between the delimiters that are not empty. -/
def tokens (s : List α) : List (List α) := (s.splitOnP p).filter (!·.isEmpty)

theorem tokens_nil : tokens p [] = [] := rfl

theorem tokens_dropWhile (s : List α) : tokens p (s.dropWhile p) = tokens p s := by
  induction s with
  | nil => rfl
  | cons a l ih =>
    cases h : p a with
    | false => rw [List.dropWhile_cons_of_neg (by rw [h]; exact Bool.false_ne_true)]
    | true =>
      rw [List.dropWhile_cons_of_pos h, ih, tokens, tokens, List.splitOnP_cons_eq_if_modifyHead,
        if_pos h]
      rfl

theorem strtok_none {s : List α} (h : strtok p s = none) : tokens p s = [] := by
  rw [strtok] at h
  split at h
  · rename_i hs
    rw [← tokens_dropWhile, hs, tokens_nil]
  · cases h

theorem strtok_some {s t r : List α} (h : strtok p s = some (t, r)) :
    tokens p s = t :: tokens p r := by
  rw [strtok] at h
  split at h
  · cases h
  · rename_i a l hs
    obtain ⟨rfl, rfl⟩ := Prod.mk.inj (Option.some.inj h)
    have ha : p a = false := by
      have hhead := List.head_dropWhile_not (p := p) (l := s) (by rw [hs]; exact List.cons_ne_nil a l)
      simpa [hs] using hhead
    have htake : ∀ x ∈ (a :: l).takeWhile (!p ·), p x = false :=
      fun x hx ↦ by simpa using List.mem_takeWhile_imp hx
    have hne : ((a :: l).takeWhile (!p ·)).isEmpty = false := by
      simp [ha]
    have hsplit := List.takeWhile_append_dropWhile (p := (!p ·)) (l := a :: l)
    rw [← tokens_dropWhile, hs]
    cases hd : (a :: l).dropWhile (!p ·) with
    | nil =>
      rw [hd, List.append_nil] at hsplit
      rw [hsplit] at htake
      rw [hsplit, tokens, List.splitOnP_eq_singleton htake]
      rfl
    | cons b r =>
      have hb : p b = true := by
        have hhead := List.head_dropWhile_not (p := (!p ·)) (l := a :: l)
          (by rw [hd]; exact List.cons_ne_nil b r)
        simpa [hd] using hhead
      rw [hd] at hsplit
      have hparts := List.splitOnP_append_cons_of_forall_mem htake b hb r
      rw [hsplit] at hparts
      rw [tokens, hparts, List.filter_cons_of_pos (by rw [hne]; rfl)]
      rfl

end VirtualCamera.Library.Tokens
