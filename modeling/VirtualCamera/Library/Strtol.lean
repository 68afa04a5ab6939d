import Mathlib.Data.List.Basic
import Mathlib.Data.UInt

namespace VirtualCamera.Library.Strtol

/-! ### Numbers -/

def LONG_MAX : ℤ := 2 ^ 63 - 1

def LONG_MIN : ℤ := -2 ^ 63

def isspace (c : UInt8) : Bool := c = 32 || (9 ≤ c && c ≤ 13)

def isdigit (c : UInt8) : Bool := 48 ≤ c && c ≤ 57

def value (digits : List UInt8) : ℕ := digits.foldl (fun n c ↦ 10 * n + (c.toNat - 48)) 0

def sign : List UInt8 → Bool × List UInt8
  | [] => (false, [])
  | c :: s => if c = 45 then (true, s) else if c = 43 then (false, s) else (false, c :: s)

def signed (negative : Bool) (n : ℕ) : ℤ := if negative then -n else n

/-- `strtol` of base ten: the value, whether it sets `errno`, and what is left of the string
behind the number. -/
def strtol (s : List UInt8) : ℤ × Bool × List UInt8 :=
  let (negative, t) := sign (s.dropWhile isspace)
  if (t.takeWhile isdigit).isEmpty then (0, false, s)
  else
    let n := signed negative (value (t.takeWhile isdigit))
    (max LONG_MIN (min n LONG_MAX), n < LONG_MIN ∨ LONG_MAX < n, t.dropWhile isdigit)

/-! ### What is read -/

def IsDigits (digits : List UInt8) : Prop := digits ≠ [] ∧ ∀ c ∈ digits, isdigit c = true

/-- A decimal integer. -/
def IsDecimal (text : List UInt8) (n : ℤ) : Prop :=
  ∃ digits, IsDigits digits ∧ (text = digits ∧ n = value digits ∨
    text = 43 :: digits ∧ n = value digits ∨ text = 45 :: digits ∧ n = -value digits)

/-- A number that fits in a `long` is in front of the rest, with any blanks before it. -/
def Leads (s : List UInt8) (n : ℤ) (rest : List UInt8) : Prop :=
  ∃ blanks text, s = blanks ++ (text ++ rest) ∧ (∀ c ∈ blanks, isspace c = true) ∧
    IsDecimal text n ∧ (∀ c ∈ rest.head?, isdigit c = false) ∧ LONG_MIN ≤ n ∧ n ≤ LONG_MAX

variable {s text rest : List UInt8} {n : ℤ}

theorem isdigit_iff {c : UInt8} : isdigit c = true ↔ 48 ≤ c.toNat ∧ c.toNat ≤ 57 := by
  rw [isdigit, Bool.and_eq_true, decide_eq_true_iff, decide_eq_true_iff, UInt8.le_iff_toNat_le,
    UInt8.le_iff_toNat_le]
  rfl

/-- A digit is no blank, sign or dot. -/
theorem of_isdigit {c : UInt8} (h : isdigit c = true) :
    isspace c = false ∧ c ≠ 45 ∧ c ≠ 43 ∧ c ≠ 46 := by
  rw [isdigit_iff] at h
  have hne : ∀ d : UInt8, d.toNat < 48 → c ≠ d := by
    rintro d hd rfl
    omega
  refine ⟨?_, hne 45 (by decide), hne 43 (by decide), hne 46 (by decide)⟩
  have hlarge : ¬ c ≤ 13 := by
    rw [UInt8.le_iff_toNat_le]
    exact not_le.mpr (lt_of_lt_of_le (by decide) h.1)
  simp [isspace, hne 32 (by decide), hlarge]

/-- An integer starts with no blank, and behind its sign are its digits. -/
theorem IsDecimal.sign (h : IsDecimal text n) : ∃ c t, text = c :: t ∧ isspace c = false ∧
    ∃ negative digits, IsDigits digits ∧ n = signed negative (value digits) ∧
      ∀ rest, Strtol.sign (text ++ rest) = (negative, digits ++ rest) := by
  obtain ⟨digits, hdigits, hsign⟩ := h
  obtain ⟨c, t, rfl⟩ := List.exists_cons_of_ne_nil hdigits.1
  obtain ⟨hspace, hminus, hplus, -⟩ := of_isdigit (hdigits.2 c List.mem_cons_self)
  obtain ⟨rfl, hn⟩ | ⟨rfl, hn⟩ | ⟨rfl, hn⟩ := hsign
  · refine ⟨c, t, rfl, hspace, false, c :: t, hdigits, hn, fun rest ↦ ?_⟩
    rw [List.cons_append, Strtol.sign, if_neg hminus, if_neg hplus]
  · exact ⟨43, c :: t, rfl, rfl, false, c :: t, hdigits, hn, fun _ ↦ rfl⟩
  · exact ⟨45, c :: t, rfl, rfl, true, c :: t, hdigits, hn, fun _ ↦ rfl⟩

theorem isDecimal_of_sign {digits : List UInt8} (hdigits : IsDigits digits) {negative : Bool}
    (h : sign s = (negative, digits ++ rest)) :
    ∃ text, s = text ++ rest ∧ IsDecimal text (signed negative (value digits)) := by
  cases s with
  | nil => exact absurd (List.append_eq_nil_iff.mp (Prod.mk.inj h).2.symm).1 hdigits.1
  | cons c s =>
    simp only [sign] at h
    split at h
    · obtain ⟨rfl, rfl⟩ := Prod.mk.inj h
      exact ⟨c :: digits, rfl, digits, hdigits, .inr (.inr ⟨by rw [‹c = 45›], rfl⟩)⟩
    split at h
    · obtain ⟨rfl, rfl⟩ := Prod.mk.inj h
      exact ⟨c :: digits, rfl, digits, hdigits, .inr (.inl ⟨by rw [‹c = 43›], rfl⟩)⟩
    · obtain ⟨rfl, hs⟩ := Prod.mk.inj h
      exact ⟨digits, hs, digits, hdigits, .inl ⟨rfl, rfl⟩⟩

/-- The scan of the digits stops at the rest. -/
theorem IsDigits.scan {digits : List UInt8} (h : IsDigits digits)
    (hrest : ∀ c ∈ rest.head?, isdigit c = false) :
    (digits ++ rest).takeWhile isdigit = digits ∧ (digits ++ rest).dropWhile isdigit = rest := by
  rw [List.takeWhile_append_of_pos h.2, List.dropWhile_append_of_pos h.2]
  cases rest with
  | nil => exact ⟨List.append_nil _, rfl⟩
  | cons c rest =>
    have hstop : ¬ isdigit c = true := by
      rw [hrest c rfl]
      exact Bool.false_ne_true
    rw [List.takeWhile_cons_of_neg hstop, List.dropWhile_cons_of_neg hstop]
    exact ⟨List.append_nil _, rfl⟩

theorem Leads.strtol (h : Leads s n rest) : Strtol.strtol s = (n, false, rest) := by
  obtain ⟨blanks, text, rfl, hblanks, hdecimal, hrest, hlow, hhigh⟩ := h
  obtain ⟨first, t, hfirst, hspace, negative, digits, hdigits, hn, hsign⟩ := hdecimal.sign
  have hdrop : (blanks ++ (text ++ rest)).dropWhile isspace = text ++ rest := by
    rw [List.dropWhile_append_of_pos hblanks, hfirst]
    exact List.dropWhile_cons_of_neg (by rw [hspace]; exact Bool.false_ne_true)
  have hlong : ¬ (n < LONG_MIN ∨ LONG_MAX < n) ∧ max LONG_MIN (min n LONG_MAX) = n := by
    omega
  have hempty : ¬ digits.isEmpty = true := by
    rw [List.isEmpty_iff]
    exact hdigits.1
  simp only [Strtol.strtol, hdrop, hsign, hdigits.scan hrest, if_neg hempty, ← hn, hlong,
    decide_false]

theorem Leads.ne (h : Leads s n rest) : rest ≠ s := by
  obtain ⟨blanks, text, rfl, _, hdecimal, _⟩ := h
  obtain ⟨first, t, rfl, _⟩ := hdecimal.sign
  intro heq
  have hlength := congrArg List.length heq
  simp only [List.length_cons, List.length_append] at hlength
  omega

end VirtualCamera.Library.Strtol
