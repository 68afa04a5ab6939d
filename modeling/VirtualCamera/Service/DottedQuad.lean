import VirtualCamera.Library.Strtol
import VirtualCamera.Library.Tokens

namespace VirtualCamera.Service.DottedQuad

open Library.Strtol Library.Tokens

def atoi (s : List UInt8) : ℤ := (strtol s).1.bmod (2 ^ 32)

/-! ### The text -/

def dot (c : UInt8) : Bool := c == 46

/-- The string from the start of a buffer; in one without a terminator it does not end. -/
def cString (buf : List UInt8) : Option (List UInt8) :=
  if 0 ∈ buf then some (buf.takeWhile (· ≠ 0)) else none

/-- The loop of `mysplit`, with the places in `ip` that are left; the numbers it stores. -/
def splitLoop : ℕ → List UInt8 → List UInt8
  | 0, _ => []
  | left + 1, s =>
    match strtok dot s with
    | none => []
    | some (tok, ctx) => UInt8.ofInt (atoi tok) :: splitLoop left ctx

/-- The count is the length; there is none when `pbuf` does not hold the string. -/
def mysplit (buf : List UInt8) : Option (List UInt8) :=
  if buf.length < 1024 then some (splitLoop 4 buf) else none

/-- What is in `ip`, given the contents of the file if there is one. -/
def getVirtualcameraIp : Option (List UInt8) → Option (List UInt8)
  | none => some [192, 168, 1, 8]
  | some contents =>
    let text := contents.take 256
    if 0 < text.length then
      (cString (text ++ List.replicate (256 - text.length) 0)).bind mysplit
    else some []

/-! ### What the loop stores -/

theorem splitLoop_eq (left : ℕ) (s : List UInt8) :
    splitLoop left s = ((tokens dot s).take left).map fun tok ↦ UInt8.ofInt (atoi tok) := by
  induction left generalizing s with
  | zero => rfl
  | succ left ih =>
    rw [splitLoop]
    cases h : strtok dot s with
    | none =>
      rw [strtok_none dot h]
      rfl
    | some next =>
      obtain ⟨tok, ctx⟩ := next
      rw [strtok_some dot h, List.take_succ_cons, List.map_cons]
      dsimp only
      rw [ih]

/-! ### Dotted quads -/

structure Octet (digits : List UInt8) : Prop where
  nonempty : digits ≠ []
  digit : ∀ c ∈ digits, isdigit c = true
  range : value digits ≤ 255

/-- Four numbers with single dots between them. -/
def IsQuad (text : List UInt8) (ip : List UInt8) : Prop :=
  ∃ parts : List (List UInt8), parts.length = 4 ∧ (∀ part ∈ parts, Octet part) ∧
    text = [46].intercalate parts ∧ ip = parts.map fun part ↦ UInt8.ofNat (value part)

theorem Octet.isDigits {digits : List UInt8} (h : Octet digits) : IsDigits digits :=
  ⟨h.nonempty, h.digit⟩

theorem atoi_octet {digits : List UInt8} (h : Octet digits) : atoi digits = value digits := by
  have hrange := h.range
  have hleads : Leads digits (value digits) [] := by
    refine ⟨[], digits, (List.append_nil digits).symm, fun _ hc ↦ absurd hc List.not_mem_nil,
      ⟨digits, h.isDigits, .inl ⟨rfl, rfl⟩⟩, fun _ hc ↦ (by cases hc), ?_, ?_⟩
    · unfold LONG_MIN
      omega
    · unfold LONG_MAX
      omega
  rw [atoi, hleads.strtol, Int.bmod_eq_of_le]
  · omega
  · omega

/-! ### What is accepted -/

/-- The text as a string: up to its terminator, if it has one. -/
def stringOf (text : List UInt8) : List UInt8 := text.takeWhile (· ≠ 0)

/-- The text ends within the buffer. -/
def Terminated (text : List UInt8) : Prop := 0 ∈ text ∨ text.length < 256

theorem getVirtualcameraIp_terminated {contents : List UInt8}
    (h : Terminated (contents.take 256)) :
    getVirtualcameraIp (some contents) = some (splitLoop 4 (stringOf (contents.take 256))) := by
  rw [getVirtualcameraIp]
  have hlen : (contents.take 256).length ≤ 256 := List.length_take_le 256 contents
  generalize contents.take 256 = text at h hlen ⊢
  split
  · have hmem : (0 : UInt8) ∈ text ++ List.replicate (256 - text.length) 0 := by
      obtain h | h := h
      · exact List.mem_append_left _ h
      · exact List.mem_append_right _ (List.mem_replicate.mpr ⟨by omega, rfl⟩)
    have hstring : (text ++ List.replicate (256 - text.length) 0).takeWhile (· ≠ 0) =
        stringOf text := by
      rw [List.takeWhile_append]
      split
      · rename_i hall
        have hself := (List.takeWhile_prefix (· ≠ (0 : UInt8)) (l := text)).eq_of_length hall
        rw [stringOf, hself]
        cases 256 - text.length with
        | zero => exact List.append_nil text
        | succ k => exact List.append_nil text
      · rfl
    have hshort : (stringOf text).length < 1024 :=
      ((List.takeWhile_prefix _).length_le.trans hlen).trans_lt (by decide)
    rw [cString, if_pos hmem, hstring, Option.bind_some, mysplit, if_pos hshort]
  · rename_i hempty
    rw [List.eq_nil_of_length_eq_zero (Nat.eq_zero_of_not_pos hempty)]
    rfl

theorem getVirtualcameraIp_unterminated {contents : List UInt8}
    (h : ¬ Terminated (contents.take 256)) : getVirtualcameraIp (some contents) = none := by
  rw [Terminated, not_or, not_lt] at h
  rw [getVirtualcameraIp]
  have hlen : (contents.take 256).length ≤ 256 := List.length_take_le 256 contents
  generalize contents.take 256 = text at h hlen ⊢
  have hzeros : 256 - text.length = 0 := by omega
  rw [if_pos (by omega), hzeros, List.replicate_zero, List.append_nil, cString, if_neg h.1,
    Option.bind_none]

/-- The tokens of a dotted quad are its numbers. -/
theorem IsQuad.tokens {text ip : List UInt8} (h : IsQuad text ip) :
    (tokens dot text).length = 4 ∧ splitLoop 4 text = ip := by
  obtain ⟨parts, hlen, hparts, rfl, rfl⟩ := h
  have hdot : ∀ part ∈ parts, (46 : UInt8) ∉ part :=
    fun part hp hm ↦ (of_isdigit ((hparts part hp).digit 46 hm)).2.2.2 rfl
  have htokens : Library.Tokens.tokens dot ([46].intercalate parts) = parts := by
    have hsplit : ([46].intercalate parts).splitOnP dot = parts :=
      List.splitOn_intercalate (46 : UInt8) hdot (List.ne_nil_of_length_pos (by omega))
    rw [Library.Tokens.tokens, hsplit]
    refine List.filter_eq_self.mpr fun part hp ↦ ?_
    simpa using (hparts part hp).nonempty
  rw [splitLoop_eq, htokens, List.take_of_length_le hlen.le]
  refine ⟨hlen, List.map_congr_left fun part hp ↦ ?_⟩
  have hsmall : ((value part : ℤ) % 2 ^ 8).toNat = value part := by
    have hrange := (hparts part hp).range
    omega
  rw [atoi_octet (hparts part hp), UInt8.ofInt, hsmall]

theorem length_splitLoop (s : List UInt8) :
    (splitLoop 4 s).length = 4 ↔ 4 ≤ (tokens dot s).length := by
  rw [splitLoop_eq, List.length_map, List.length_take]
  omega

/-- An address is found in a text if and only if it is a dotted quad, and is that one. -/
structure Parses (text : List UInt8) (out : Option (List UInt8)) : Prop where
  inside : out ≠ none
  yields : ∀ ip, out = some ip → (ip.length = 4 ↔ ∃ quad, IsQuad (stringOf text) quad)
  numbers : ∀ ip quad, out = some ip → IsQuad (stringOf text) quad → ip = quad

theorem parses_iff (contents : List UInt8) :
    Parses (contents.take 256) (getVirtualcameraIp (some contents)) ↔
      Terminated (contents.take 256) ∧
        ((∃ quad, IsQuad (stringOf (contents.take 256)) quad) ∨
          (tokens dot (stringOf (contents.take 256))).length < 4) := by
  by_cases hterm : Terminated (contents.take 256)
  · rw [getVirtualcameraIp_terminated hterm, and_iff_right hterm]
    have hcount := length_splitLoop (stringOf (contents.take 256))
    constructor
    · intro h
      by_contra hc
      rw [not_or, not_lt] at hc
      exact hc.1 ((h.yields _ rfl).mp (hcount.mpr hc.2))
    · intro h
      refine ⟨Option.some_ne_none _, ?_, ?_⟩
      · intro ip hip
        rw [← Option.some.inj hip, hcount]
        constructor
        · exact fun hmany ↦ h.resolve_right (not_lt.mpr hmany)
        · intro hcond
          obtain ⟨quad, hq⟩ := hcond
          exact hq.tokens.1.symm.le
      · intro ip quad hip hq
        rw [← Option.some.inj hip]
        exact hq.tokens.2
  · rw [getVirtualcameraIp_unterminated hterm]
    exact iff_of_false (fun h ↦ h.inside rfl) fun h ↦ hterm h.1

theorem not_parses_five :
    ¬ ∀ contents, Parses (contents.take 256) (getVirtualcameraIp (some contents)) := by
  intro h
  have hip : getVirtualcameraIp (some [49, 46, 50, 46, 51, 46, 52, 46, 53]) = some [1, 2, 3, 4] := by
    decide
  obtain ⟨quad, hq⟩ := ((h _).yields _ hip).mp rfl
  exact absurd hq.tokens.1 (by decide)

end VirtualCamera.Service.DottedQuad
