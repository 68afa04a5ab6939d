import Mathlib.Data.Fin.Tuple.Basic
import Mathlib.Data.List.Forall2
import Mathlib.Data.List.TakeWhile
import VirtualCamera.Library.Memory
import VirtualCamera.Library.Strtol

namespace VirtualCamera.Parameters

open Library.Memory Library.Strtol

structure Area where
  left : ℤ
  top : ℤ
  right : ℤ
  bottom : ℤ
  weight : ℤ
  deriving DecidableEq, Repr

inductive Status
  | OK
  | BAD_VALUE
  deriving DecidableEq, Repr

/-- A call that reads behind the terminator of its string has no result. -/
inductive Parsed
  | returned (res : Status) (areas : List Area)
  | overrun
  deriving DecidableEq, Repr

inductive Failure
  | BAD_VALUE
  | overrun
  deriving DecidableEq, Repr

/-! ### The parser -/

/-- One field and the new `area`, which is behind the terminator when the field ends at it. -/
def field (area : List UInt8) : Option (ℤ × Option (List UInt8)) :=
  let (val, errno, numEnd) := strtol area
  if errno ∨ numEnd = area then none else some (int32 val, numEnd.tail?)

def fields : (n : ℕ) → Option (List UInt8) → Except Failure (Fin n → ℤ)
  | 0, _ => .ok Fin.elim0
  | _ + 1, none => .error .overrun
  | n + 1, some area =>
    match field area with
    | none => .error .BAD_VALUE
    | some (val, area) => (fields n area).map fun vals ↦ Fin.cons val vals

abbrev NUM_FIELDS : ℕ := 5

def Area.ofVals (vals : Fin NUM_FIELDS → ℤ) : Area :=
  ⟨vals 0, vals 1, vals 2, vals 3, vals 4⟩

/-- The next search starts behind the parenthesis that the last one found. -/
def areasLoop (areas : List Area) : List UInt8 → Parsed
  | [] => .returned .OK areas
  | c :: area =>
    if c = 40 then
      match fields NUM_FIELDS (some area) with
      | .error .BAD_VALUE => .returned .BAD_VALUE areas
      | .error .overrun => .overrun
      | .ok vals => areasLoop (areas ++ [Area.ofVals vals]) area
    else areasLoop areas area

/-- A string is the bytes in front of its terminator. The constructor of an area sets none of its
fields; `pushed` is what they have. -/
def parseAreas (pushed : Area) (areasCStr : Option (List UInt8)) : Parsed :=
  match areasCStr with
  | none => .returned .OK [pushed]
  | some areasStr => areasLoop [] areasStr

/-! ### Lists of areas -/

/-- It fits in an `int`. -/
def IsInt (text : List UInt8) (n : ℤ) : Prop := IsDecimal text n ∧ -2 ^ 31 ≤ n ∧ n < 2 ^ 31

/-- `(left,top,right,bottom,weight)` -/
def IsArea (text : List UInt8) (a : Area) : Prop :=
  ∃ left top right bottom weight, IsInt left a.left ∧ IsInt top a.top ∧ IsInt right a.right ∧
    IsInt bottom a.bottom ∧ IsInt weight a.weight ∧
    text = 40 :: (left ++ 44 :: (top ++ 44 :: (right ++ 44 :: (bottom ++ 44 :: (weight ++ [41])))))

def IsAreaList (s : List UInt8) (areas : List Area) : Prop :=
  ∃ texts, List.Forall₂ IsArea texts areas ∧ s = [44].intercalate texts

/-- The string is accepted when it is a list of areas, with the areas of the list, and it is never
read behind its end. -/
def Exact (pushed : Area) (s : List UInt8) : Prop :=
  parseAreas pushed (some s) ≠ .overrun ∧
    ∀ areas, parseAreas pushed (some s) = .returned .OK areas ↔ IsAreaList s areas

/-- So many numbers, each but the last with a character behind it. -/
def Numbers : ℕ → List UInt8 → Prop
  | 0, _ => True
  | k + 1, s => ∃ n rest, Leads s n rest ∧ (k = 0 ∨ ∃ c t, rest = c :: t ∧ Numbers k t)

/-- One of the numbers is missing or does not fit in a `long`; those before it have a character
behind them. -/
def LacksNumber : ℕ → List UInt8 → Prop
  | 0, _ => False
  | k + 1, s => (¬ ∃ n rest, Leads s n rest) ∨ ∃ n c t, Leads s n (c :: t) ∧ LacksNumber k t

/-- A parenthesis with too few numbers behind it; those before it have enough. -/
def Rejected (s : List UInt8) : Prop :=
  ∃ pre area, s = pre ++ 40 :: area ∧ LacksNumber NUM_FIELDS area ∧
    ∀ pre' mid, pre = pre' ++ 40 :: mid → Numbers NUM_FIELDS (mid ++ 40 :: area)

/-! ### Fields -/

variable {s text rest : List UInt8} {n : ℤ}

/-- The field of a number ends behind it. -/
theorem field_of_leads (h : Leads s n rest) :
    field s = some (int32 n, rest.tail?) := by
  unfold field
  rw [h.strtol]
  exact if_neg (by simpa using h.ne)

theorem leads_of_field {val : ℤ} {next : Option (List UInt8)} (h : field s = some (val, next)) :
    ∃ n rest, Leads s n rest ∧ next = rest.tail? := by
  unfold field strtol at h
  cases hsign : sign (s.dropWhile isspace) with
  | mk negative t =>
    rw [hsign] at h
    dsimp only at h
    by_cases hempty : (t.takeWhile isdigit).isEmpty = true
    · rw [if_pos hempty] at h
      simp at h
    rw [if_neg hempty] at h
    dsimp only at h
    split at h
    · cases h
    rename_i hin
    rw [not_or, decide_eq_true_iff, not_or, not_lt, not_lt] at hin
    obtain ⟨_, hnext⟩ := Prod.mk.inj (Option.some.inj h)
    have hdigits : IsDigits (t.takeWhile isdigit) :=
      ⟨by rwa [List.isEmpty_iff] at hempty, fun c hc ↦ List.mem_takeWhile_imp hc⟩
    rw [← List.takeWhile_append_dropWhile (p := isdigit) (l := t)] at hsign
    obtain ⟨text, htext, hdecimal⟩ := isDecimal_of_sign hdigits hsign
    refine ⟨_, t.dropWhile isdigit, ⟨s.takeWhile isspace, text, ?_, ?_, hdecimal, ?_, hin.1⟩,
      hnext.symm⟩
    · rw [← htext, List.takeWhile_append_dropWhile]
    · exact fun c hc ↦ List.mem_takeWhile_imp hc
    · intro c hc
      have hhead := List.head?_dropWhile_not isdigit t
      rw [Option.mem_def.mp hc] at hhead
      exact hhead

theorem IsInt.leads (h : IsInt text n) {c : UInt8} (hc : isdigit c = false) :
    Leads (text ++ c :: rest) n (c :: rest) := by
  refine ⟨[], text, rfl, fun _ hc ↦ absurd hc List.not_mem_nil, h.1, ?_, ?_, ?_⟩
  · intro d hd
    cases hd
    exact hc
  · have := h.2.1
    unfold LONG_MIN
    omega
  · have := h.2.2
    unfold LONG_MAX
    omega

theorem IsInt.not_mem (h : IsInt text n) : 40 ∉ text := by
  obtain ⟨⟨digits, hdigits, hsign⟩, -⟩ := h
  have hparen : 40 ∉ digits := fun hmem ↦ absurd (hdigits.2 40 hmem) (by decide)
  obtain ⟨rfl, -⟩ | ⟨rfl, -⟩ | ⟨rfl, -⟩ := hsign
  · exact hparen
  · exact List.not_mem_cons_of_ne_of_not_mem (by decide) hparen
  · exact List.not_mem_cons_of_ne_of_not_mem (by decide) hparen

theorem fields_cons (h : IsInt text n) {c : UInt8} (hc : isdigit c = false) (k : ℕ) :
    fields (k + 1) (some (text ++ c :: rest)) =
      (fields k (some rest)).map fun vals ↦ Fin.cons n vals := by
  rw [fields, field_of_leads (h.leads hc), int32_of_range h.2.1 h.2.2]
  rfl

def Area.vals (a : Area) : Fin NUM_FIELDS → ℤ :=
  Fin.cons a.left (Fin.cons a.top (Fin.cons a.right (Fin.cons a.bottom
    (Fin.cons a.weight Fin.elim0))))

/-- What is behind the parenthesis of an area. -/
theorem fields_area {a : Area} (h : IsArea text a) (rest : List UInt8) :
    ∃ inner, text = 40 :: inner ∧ 40 ∉ inner ∧
      fields NUM_FIELDS (some (inner ++ rest)) = .ok a.vals := by
  obtain ⟨left, top, right, bottom, weight, hleft, htop, hright, hbottom, hweight, rfl⟩ := h
  refine ⟨_, rfl, ?_, ?_⟩
  · simp [hleft.not_mem, htop.not_mem, hright.not_mem, hbottom.not_mem, hweight.not_mem]
  · simp only [List.append_assoc, List.cons_append, List.nil_append]
    have hcomma : isdigit 44 = false := by decide
    rw [fields_cons hleft hcomma, fields_cons htop hcomma, fields_cons hright hcomma,
      fields_cons hbottom hcomma, fields_cons hweight (by decide)]
    rfl

/-! ### The loop -/

theorem areasLoop_skip {areas : List Area} {skipped : List UInt8} (h : 40 ∉ skipped)
    (rest : List UInt8) : areasLoop areas (skipped ++ rest) = areasLoop areas rest := by
  induction skipped with
  | nil => rfl
  | cons c skipped ih =>
    rw [List.mem_cons, not_or] at h
    obtain ⟨hc, hskipped⟩ := h
    rw [List.cons_append, areasLoop, if_neg (Ne.symm hc), ih hskipped]

theorem areasLoop_area {a : Area} (h : IsArea text a) (areas : List Area) (rest : List UInt8) :
    areasLoop areas (text ++ rest) = areasLoop (areas ++ [a]) rest := by
  obtain ⟨inner, rfl, hinner, hfields⟩ := fields_area h rest
  rw [List.cons_append, areasLoop, if_pos rfl, hfields]
  exact areasLoop_skip hinner rest

/-- Each area of the list is read behind its own parenthesis. -/
theorem areasLoop_areaList {texts : List (List UInt8)} {areas : List Area}
    (h : List.Forall₂ IsArea texts areas) (pre : List Area) :
    areasLoop pre ([44].intercalate texts) = .returned .OK (pre ++ areas) := by
  induction h generalizing pre with
  | nil =>
    rw [List.intercalate_nil, areasLoop, List.append_nil]
  | @cons text a texts areas harea hareas ih =>
    cases texts with
    | nil =>
      cases hareas
      have hloop := areasLoop_area harea pre []
      rw [List.append_nil] at hloop
      rw [List.intercalate_singleton, hloop, areasLoop]
    | cons next texts =>
      have hcomma : (40 : UInt8) ∉ ([44] : List UInt8) := by decide
      rw [List.intercalate_cons_cons, List.append_assoc, areasLoop_area harea, areasLoop_skip hcomma, ih,
        List.append_assoc, List.singleton_append]

theorem IsAreaList.parseAreas {s : List UInt8} {areas : List Area} (h : IsAreaList s areas)
    (pushed : Area) : Parameters.parseAreas pushed (some s) = .returned .OK areas := by
  obtain ⟨texts, htexts, rfl⟩ := h
  exact areasLoop_areaList htexts []

/-! ### The strings that are rejected -/

theorem fields_none {k : ℕ} (hk : k ≠ 0) : fields k none = .error .overrun := by
  obtain ⟨k, rfl⟩ := Nat.exists_eq_add_one_of_ne_zero hk
  rfl

/-- The fields behind one that is followed by `next`. -/
theorem fields_next {k : ℕ} {s : List UInt8} {val : ℤ} {next : Option (List UInt8)}
    (hfield : field s = some (val, next)) :
    ((∃ vals, fields (k + 1) (some s) = .ok vals) ↔ ∃ vals, fields k next = .ok vals) ∧
      (fields (k + 1) (some s) = .error .BAD_VALUE ↔ fields k next = .error .BAD_VALUE) := by
  rw [fields, hfield]
  dsimp only
  cases fields k next with
  | error e => simp [Except.map]
  | ok vals => simp [Except.map]

theorem fields_ok_iff {k : ℕ} {s : List UInt8} :
    (∃ vals, fields k (some s) = .ok vals) ↔ Numbers k s := by
  induction k generalizing s with
  | zero => exact ⟨fun _ ↦ trivial, fun _ ↦ ⟨_, rfl⟩⟩
  | succ k ih =>
    have hbehind : ∀ rest : List UInt8, (∃ vals, fields k rest.tail? = .ok vals) ↔
        k = 0 ∨ ∃ c t, rest = c :: t ∧ Numbers k t := by
      intro rest
      by_cases hk : k = 0
      · subst hk
        exact ⟨fun _ ↦ .inl rfl, fun _ ↦ ⟨_, rfl⟩⟩
      cases rest with
      | nil => simp [fields_none hk, hk]
      | cons c t => simp [ih, hk]
    constructor
    · intro h
      cases hfield : field s with
      | none =>
        obtain ⟨vals, hvals⟩ := h
        rw [fields, hfield] at hvals
        cases hvals
      | some found =>
        obtain ⟨n, rest, hleads, hnext⟩ := leads_of_field hfield
        rw [(fields_next hfield).1, hnext, hbehind] at h
        exact ⟨n, rest, hleads, h⟩
    · intro h
      obtain ⟨n, rest, hleads, hrest⟩ := h
      rw [(fields_next (field_of_leads hleads)).1, hbehind]
      exact hrest

theorem fields_bad_iff {k : ℕ} {s : List UInt8} :
    fields k (some s) = .error .BAD_VALUE ↔ LacksNumber k s := by
  induction k generalizing s with
  | zero => exact ⟨fun h ↦ (by cases h), fun h ↦ h.elim⟩
  | succ k ih =>
    cases hfield : field s with
    | none =>
      have hnone : ¬ ∃ n rest, Leads s n rest := by
        intro h
        obtain ⟨n, rest, hleads⟩ := h
        cases hfield.symm.trans (field_of_leads hleads)
      rw [fields, hfield]
      exact ⟨fun _ ↦ .inl hnone, fun _ ↦ rfl⟩
    | some found =>
      obtain ⟨n, rest, hleads, hnext⟩ := leads_of_field hfield
      rw [(fields_next hfield).2, hnext]
      constructor
      · intro h
        cases rest with
        | nil =>
          cases k with
          | zero => cases h
          | succ k => cases h
        | cons c t => exact .inr ⟨n, c, t, hleads, ih.mp h⟩
      · intro h
        obtain hnone | ⟨n', c, t, hleads', hlacks⟩ := h
        · exact absurd ⟨n, rest, hleads⟩ hnone
        · have htail : rest.tail? = some t :=
            (Prod.mk.inj (Option.some.inj
              ((field_of_leads hleads).symm.trans (field_of_leads hleads')))).2
          rw [htail]
          exact ih.mpr hlacks

theorem rejected_nil : ¬ Rejected [] := by
  intro h
  obtain ⟨pre, area, heq, -⟩ := h
  exact absurd heq.symm (List.append_ne_nil_of_right_ne_nil _ (List.cons_ne_nil _ _))

theorem rejected_cons {c : UInt8} {s : List UInt8} : Rejected (c :: s) ↔
    c = 40 ∧ LacksNumber NUM_FIELDS s ∨ (c = 40 → Numbers NUM_FIELDS s) ∧ Rejected s := by
  constructor
  · intro h
    obtain ⟨pre, area, heq, hlacks, hbefore⟩ := h
    cases pre with
    | nil =>
      obtain ⟨rfl, rfl⟩ := List.cons.inj heq
      exact .inl ⟨rfl, hlacks⟩
    | cons d pre =>
      obtain ⟨rfl, rfl⟩ := List.cons.inj heq
      refine .inr ⟨fun hc ↦ ?_, pre, area, rfl, hlacks, fun pre' mid hmid ↦ ?_⟩
      · exact hbefore [] pre (by rw [hc, List.nil_append])
      · exact hbefore (c :: pre') mid (congrArg (c :: ·) hmid)
  · intro h
    obtain ⟨rfl, hlacks⟩ | ⟨hnumbers, pre, area, rfl, hlacks, hbefore⟩ := h
    · refine ⟨[], s, rfl, hlacks, fun pre' mid hmid ↦ ?_⟩
      exact absurd hmid.symm (List.append_ne_nil_of_right_ne_nil _ (List.cons_ne_nil _ _))
    · refine ⟨c :: pre, area, rfl, hlacks, fun pre' mid hmid ↦ ?_⟩
      cases pre' with
      | nil =>
        obtain ⟨rfl, rfl⟩ := List.cons.inj hmid
        exact hnumbers rfl
      | cons d pre' => exact hbefore pre' mid (List.cons.inj hmid).2

theorem areasLoop_bad_iff {s : List UInt8} (areas : List Area) :
    (∃ areas', areasLoop areas s = .returned .BAD_VALUE areas') ↔ Rejected s := by
  induction s generalizing areas with
  | nil =>
    refine ⟨fun h ↦ ?_, fun h ↦ absurd h rejected_nil⟩
    obtain ⟨_, hbad⟩ := h
    cases hbad
  | cons c area ih =>
    rw [rejected_cons, areasLoop]
    by_cases hc : c = 40
    · rw [if_pos hc]
      cases hfields : fields NUM_FIELDS (some area) with
      | ok vals =>
        have hnumbers := fields_ok_iff.mp ⟨vals, hfields⟩
        have hlacks : ¬ LacksNumber NUM_FIELDS area := by
          rw [← fields_bad_iff, hfields]
          simp
        rw [ih]
        tauto
      | error e =>
        have hnumbers : ¬ Numbers NUM_FIELDS area := by
          rw [← fields_ok_iff, hfields]
          simp
        cases e with
        | BAD_VALUE =>
          have hlacks := fields_bad_iff.mp hfields
          simp [hc, hlacks]
        | overrun =>
          have hlacks : ¬ LacksNumber NUM_FIELDS area := by
            rw [← fields_bad_iff, hfields]
            simp
          simp [hc, hlacks, hnumbers]
    · rw [if_neg hc, ih]
      tauto

/-- A string is handled as it should exactly when it is a list of areas or a number is missing or
too long somewhere in front of its end. -/
theorem exact_iff (pushed : Area) (s : List UInt8) :
    Exact pushed s ↔ (∃ areas, IsAreaList s areas) ∨ Rejected s := by
  have hbad := areasLoop_bad_iff (s := s) []
  constructor
  · intro h
    obtain ⟨hoverrun, hlist⟩ := h
    cases hparse : parseAreas pushed (some s) with
    | overrun => exact absurd hparse hoverrun
    | returned res areas =>
      cases res with
      | OK => exact .inl ⟨areas, (hlist areas).mp hparse⟩
      | BAD_VALUE => exact .inr (hbad.mp ⟨areas, hparse⟩)
  · intro h
    obtain ⟨areas, hareas⟩ | hrejected := h
    · have hparse := hareas.parseAreas pushed
      refine ⟨by simp [hparse], fun areas' ↦ ⟨fun h ↦ ?_, fun h ↦ h.parseAreas pushed⟩⟩
      rw [hparse] at h
      cases h
      exact hareas
    · obtain ⟨areas, hloop⟩ := hbad.mpr hrejected
      have hparse : parseAreas pushed (some s) = .returned .BAD_VALUE areas := hloop
      refine ⟨by simp [hparse], fun areas' ↦ ⟨fun h ↦ ?_, fun h ↦ ?_⟩⟩
      · rw [hparse] at h
        cases h
      · rw [h.parseAreas pushed] at hparse
        cases hparse

theorem IsAreaList.head {s : List UInt8} {areas : List Area} (h : IsAreaList s areas)
    (hs : s ≠ []) : s.head? = some 40 := by
  obtain ⟨texts, htexts, rfl⟩ := h
  cases htexts with
  | nil => exact absurd rfl hs
  | @cons text a texts areas harea _ =>
    obtain ⟨inner, rfl, -⟩ := fields_area harea []
    cases texts with
    | nil => rw [List.intercalate_singleton, List.head?_cons]
    | cons next texts => rw [List.intercalate_cons_cons, List.cons_append, List.cons_append,
        List.head?_cons]

/-- `(1` is read behind its end, and `x` is accepted. -/
theorem not_exact : ¬ Exact ⟨0, 0, 0, 0, 0⟩ [40, 49] ∧ ¬ Exact ⟨0, 0, 0, 0, 0⟩ [120] := by
  constructor
  · intro h
    exact h.1 (by decide)
  · intro h
    have hlist := (h.2 []).mp (by decide)
    exact absurd (hlist.head (List.cons_ne_nil _ _)) (by decide)

end VirtualCamera.Parameters
