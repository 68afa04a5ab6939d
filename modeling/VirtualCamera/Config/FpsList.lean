import Mathlib.Data.List.Chain
import Mathlib.Order.Lattice

namespace VirtualCamera.Config

/-! ### The limits of a configuration file -/

/-- What is read for a `double`; `none` is not a number, and no comparison with it holds. -/
abbrev Double (α : Type) := Option α

structure Size where
  width : ℕ
  height : ℕ
  deriving DecidableEq, Repr

structure FpsLimitation (α : Type) where
  size : Size
  fpsUpperBound : Double α

/-- A child element, with what it has of the attributes `width`, `height` and `fpsBound`. -/
structure Element (α : Type) where
  name : String
  width : Option ℕ := none
  height : Option ℕ := none
  fpsBound : Option (Double α) := none

variable {α : Type} [LinearOrder α]

/-- `x >= y`. -/
def Double.ge : Double α → Double α → Bool
  | some x, some y => y ≤ x
  | _, _ => false

/-- `x < y`. -/
def Double.lt : Double α → Double α → Bool
  | some x, some y => x < y
  | _, _ => false

def refuses (prevLimit limit : FpsLimitation α) : Bool :=
  limit.size.width ≤ prevLimit.size.width || limit.size.height ≤ prevLimit.size.height ||
    limit.fpsUpperBound.ge prevLimit.fpsUpperBound

variable [OfNat α 1000]

def firstLimit : FpsLimitation α := ⟨⟨0, 0⟩, some 1000⟩

def readLimit (row : Element α) : FpsLimitation α :=
  ⟨⟨row.width.getD 0, row.height.getD 0⟩, row.fpsBound.getD (some 1000)⟩

/-- The loop over the rows; `prevLimit` is made anew for each of them. -/
def updateLoop : List (Element α) → List (FpsLimitation α) → Option (List (FpsLimitation α))
  | [], limits => some limits
  | row :: rest, limits =>
    let prevLimit := firstLimit
    let limit := readLimit row
    if refuses prevLimit limit then none else updateLoop rest (limits ++ [limit])

def updateFpsList (fpsList : List (Element α)) (fpsLimits : List (FpsLimitation α)) :
    Bool × List (FpsLimitation α) :=
  match updateLoop (fpsList.filter (·.name = "Limit")) [] with
  | some limits => (true, limits)
  | none => (false, fpsLimits)

def listed (fpsList : List (Element α)) : List (FpsLimitation α) :=
  (fpsList.filter (·.name = "Limit")).map readLimit

theorem updateLoop_eq (rows : List (Element α)) (limits : List (FpsLimitation α)) :
    updateLoop rows limits =
      if (rows.map readLimit).any (refuses firstLimit) then none
      else some (limits ++ rows.map readLimit) := by
  induction rows generalizing limits with
  | nil => simp [updateLoop]
  | cons row rest ih =>
    rw [updateLoop, List.map_cons, List.any_cons]
    cases h : refuses firstLimit (readLimit row) with
    | true => rw [if_pos rfl, Bool.true_or, if_pos rfl]
    | false =>
      rw [if_neg Bool.false_ne_true, ih, Bool.false_or, List.append_assoc, List.singleton_append]

theorem updateFpsList_eq (fpsList : List (Element α)) (fpsLimits : List (FpsLimitation α)) :
    updateFpsList fpsList fpsLimits =
      if (listed fpsList).any (refuses firstLimit) then (false, fpsLimits)
      else (true, listed fpsList) := by
  have hrows : (fpsList.filter (·.name = "Limit")).map readLimit = listed fpsList := rfl
  rw [updateFpsList, updateLoop_eq, List.nil_append, hrows]
  cases (listed fpsList).any (refuses firstLimit) with
  | true => rfl
  | false => rfl

/-! ### Increasing sizes and decreasing rates -/

/-- A limit after another one: larger both ways and slower. -/
structure Above (prevLimit limit : FpsLimitation α) : Prop where
  width : prevLimit.size.width < limit.size.width
  height : prevLimit.size.height < limit.size.height
  fps : limit.fpsUpperBound.lt prevLimit.fpsUpperBound = true

structure Validates (fpsList : List (Element α)) (fpsLimits : List (FpsLimitation α)) : Prop where
  valid : (updateFpsList fpsList fpsLimits).1 = true ↔
    List.IsChain Above (firstLimit :: listed fpsList)
  accepted : (updateFpsList fpsList fpsLimits).1 = true →
    (updateFpsList fpsList fpsLimits).2 = listed fpsList
  refused : (updateFpsList fpsList fpsLimits).1 = false →
    (updateFpsList fpsList fpsLimits).2 = fpsLimits

/-- A limit that is out of range whatever comes before it. -/
def OutOfRange (limit : FpsLimitation α) : Prop :=
  limit.size.width = 0 ∨ limit.size.height = 0 ∨ limit.fpsUpperBound.ge (some 1000) = true

theorem refuses_first_iff {limit : FpsLimitation α} :
    refuses firstLimit limit = true ↔ OutOfRange limit := by
  simp [refuses, firstLimit, OutOfRange, or_assoc]

theorem above_first {limit : FpsLimitation α} (h : ¬ OutOfRange limit)
    (hnum : limit.fpsUpperBound ≠ none) : Above firstLimit limit := by
  rw [OutOfRange, not_or, not_or] at h
  obtain ⟨hw, hh, hfps⟩ := h
  obtain ⟨x, hx⟩ := Option.ne_none_iff_exists'.mp hnum
  refine ⟨Nat.pos_of_ne_zero hw, Nat.pos_of_ne_zero hh, ?_⟩
  rw [hx] at hfps ⊢
  simpa [Double.ge, Double.lt, firstLimit] using hfps

theorem Above.inRange {limit : FpsLimitation α} (h : Above firstLimit limit) :
    ¬ OutOfRange limit ∧ limit.fpsUpperBound ≠ none := by
  have hfps := h.fps
  cases hx : limit.fpsUpperBound with
  | none =>
    rw [hx] at hfps
    cases hfps
  | some x =>
    rw [hx] at hfps
    refine ⟨?_, Option.some_ne_none x⟩
    intro hcond
    obtain hw | hh | hge := hcond
    · exact absurd (hw ▸ h.width) (lt_irrefl 0)
    · exact absurd (hh ▸ h.height) (lt_irrefl 0)
    · rw [hx] at hge
      simp only [Double.ge, Double.lt, firstLimit, decide_eq_true_iff] at hge hfps
      exact absurd hfps (not_lt.mpr hge)

omit [OfNat α 1000] in
theorem Above.trans {a b c : FpsLimitation α} (h : Above a b) (h' : Above b c) : Above a c := by
  refine ⟨h.width.trans h'.width, h.height.trans h'.height, ?_⟩
  have hab := h.fps
  have hbc := h'.fps
  revert hab hbc
  cases a.fpsUpperBound <;> cases b.fpsUpperBound <;> cases c.fpsUpperBound <;>
    simp [Double.lt]
  exact fun hba hcb ↦ hcb.trans hba

/-- In a list in order each limit is in range by itself. -/
theorem inRange_of_chain {l : List (FpsLimitation α)} (h : List.IsChain Above (firstLimit :: l)) :
    ∀ limit ∈ l, ¬ OutOfRange limit := by
  have : IsTrans (FpsLimitation α) Above := ⟨fun _ _ _ ↦ Above.trans⟩
  exact fun limit hl ↦ (h.rel_cons hl).inRange.1

/-- The list is in order; a first rate that is not a number is in no order. -/
def InOrder (l : List (FpsLimitation α)) : Prop :=
  List.IsChain Above l ∧ ∀ limit ∈ l.head?, limit.fpsUpperBound ≠ none

theorem chain_first_iff {l : List (FpsLimitation α)} (h : ∀ limit ∈ l, ¬ OutOfRange limit) :
    List.IsChain Above (firstLimit :: l) ↔ InOrder l := by
  cases l with
  | nil => exact iff_of_true (.singleton _) ⟨.nil, fun _ hm ↦ (by cases hm)⟩
  | cons limit l =>
    rw [List.isChain_cons_cons, InOrder]
    constructor
    · intro hcond
      obtain ⟨hfirst, hl⟩ := hcond
      refine ⟨hl, fun limit' hm ↦ ?_⟩
      cases hm
      exact hfirst.inRange.2
    · intro hcond
      obtain ⟨hl, hnum⟩ := hcond
      exact ⟨above_first (h limit List.mem_cons_self) (hnum limit rfl), hl⟩

theorem validates_iff (fpsList : List (Element α)) (fpsLimits : List (FpsLimitation α)) :
    Validates fpsList fpsLimits ↔
      InOrder (listed fpsList) ∨ ∃ limit ∈ listed fpsList, OutOfRange limit := by
  have hany : (listed fpsList).any (refuses firstLimit) = true ↔
      ∃ limit ∈ listed fpsList, OutOfRange limit := by
    simp only [List.any_eq_true, refuses_first_iff]
  by_cases hout : ∃ limit ∈ listed fpsList, OutOfRange limit
  · have heq := updateFpsList_eq fpsList fpsLimits
    rw [if_pos (hany.mpr hout)] at heq
    refine iff_of_true ⟨?_, ?_, ?_⟩ (.inr hout)
    · rw [heq]
      refine iff_of_false Bool.false_ne_true fun hc ↦ ?_
      obtain ⟨limit, hl, ho⟩ := hout
      exact inRange_of_chain hc limit hl ho
    · rw [heq]
      exact fun hc ↦ absurd hc Bool.false_ne_true
    · rw [heq]
      exact fun _ ↦ rfl
  · have heq := updateFpsList_eq fpsList fpsLimits
    rw [if_neg (fun hc ↦ hout (hany.mp hc))] at heq
    have hin : ∀ limit ∈ listed fpsList, ¬ OutOfRange limit :=
      fun limit hl ho ↦ hout ⟨limit, hl, ho⟩
    rw [or_iff_left hout]
    constructor
    · intro h
      exact (chain_first_iff hin).mp (h.valid.mp (by rw [heq]))
    · intro h
      refine ⟨?_, ?_, ?_⟩
      · rw [heq]
        exact iff_of_true rfl ((chain_first_iff hin).mpr h)
      · rw [heq]
        exact fun _ ↦ rfl
      · rw [heq]
        exact fun hc ↦ absurd hc.symm Bool.false_ne_true

theorem not_validates_decreasing :
    ¬ ∀ (fpsList : List (Element ℕ)) (fpsLimits : List (FpsLimitation ℕ)),
      Validates fpsList fpsLimits := by
  intro h
  have hv := (h [⟨"Limit", some 640, some 480, some (some 15)⟩,
    ⟨"Limit", some 320, some 240, some (some 30)⟩] []).valid
  have hchain := hv.mp (by decide)
  change List.IsChain Above
    [firstLimit, ⟨⟨640, 480⟩, some 15⟩, (⟨⟨320, 240⟩, some 30⟩ : FpsLimitation ℕ)] at hchain
  rw [List.isChain_cons_cons, List.isChain_cons_cons] at hchain
  exact absurd hchain.2.1.width (by decide)

/-! ### Loading both lists -/

/-- The parts of `VirtualCameraConfig` that the lists of limits go into. -/
structure VirtualCameraConfig (α : Type) where
  depthEnabled : Bool
  fpsLimits : List (FpsLimitation α)
  depthFpsLimits : List (FpsLimitation α)

/-- The element `Device`: its lists of limits, and `enabled` of `Depth16Supported`. -/
structure DeviceCfg (α : Type) where
  fpsList : Option (List (Element α))
  depth : Option (Option Bool)
  depthFpsList : Option (List (Element α))

def readDepthEnabled : Option (Option Bool) → Bool
  | none => false
  | some enabled => enabled.getD false

/-- The second part of `loadFromCfg`, from the depth setting on. -/
def loadDepth (ret : VirtualCameraConfig α) (deviceCfg : DeviceCfg α) : VirtualCameraConfig α :=
  let ret := { ret with depthEnabled := readDepthEnabled deviceCfg.depth }
  if ret.depthEnabled then
    match deviceCfg.depthFpsList with
    | none => ret
    | some depthFpsList =>
      { ret with depthFpsLimits := (updateFpsList depthFpsList ret.depthFpsLimits).2 }
  else ret

/-- What `loadFromCfg` makes of the lists; it returns at a list that is refused. -/
def loadFpsLists (ret : VirtualCameraConfig α) (deviceCfg : DeviceCfg α) :
    VirtualCameraConfig α :=
  match deviceCfg.fpsList with
  | none => loadDepth ret deviceCfg
  | some fpsList =>
    let (updated, fpsLimits) := updateFpsList fpsList ret.fpsLimits
    let ret := { ret with fpsLimits := fpsLimits }
    if !updated then ret else loadDepth ret deviceCfg

/-- A list of limits was left as it was, or none of those it was replaced with is out of range. -/
def KeptOrInRange (old new : List (FpsLimitation α)) : Prop :=
  new = old ∨ ∀ limit ∈ new, ¬ OutOfRange limit

theorem updateFpsList_limits (fpsList : List (Element α)) (fpsLimits : List (FpsLimitation α)) :
    KeptOrInRange fpsLimits (updateFpsList fpsList fpsLimits).2 := by
  rw [updateFpsList_eq]
  split
  · exact .inl rfl
  · rename_i hany
    refine .inr fun limit hl ho ↦ hany ?_
    exact List.any_eq_true.mpr ⟨limit, hl, refuses_first_iff.mpr ho⟩

theorem loadDepth_limits (ret : VirtualCameraConfig α) (deviceCfg : DeviceCfg α) :
    (loadDepth ret deviceCfg).fpsLimits = ret.fpsLimits ∧
      KeptOrInRange ret.depthFpsLimits (loadDepth ret deviceCfg).depthFpsLimits := by
  rw [loadDepth]
  cases readDepthEnabled deviceCfg.depth with
  | false => exact ⟨rfl, .inl rfl⟩
  | true =>
    cases deviceCfg.depthFpsList with
    | none => exact ⟨rfl, .inl rfl⟩
    | some depthFpsList => exact ⟨rfl, updateFpsList_limits depthFpsList ret.depthFpsLimits⟩

theorem loadFpsLists_limits (ret : VirtualCameraConfig α) (deviceCfg : DeviceCfg α) :
    KeptOrInRange ret.fpsLimits (loadFpsLists ret deviceCfg).fpsLimits ∧
      KeptOrInRange ret.depthFpsLimits (loadFpsLists ret deviceCfg).depthFpsLimits := by
  rw [loadFpsLists]
  cases deviceCfg.fpsList with
  | none =>
    obtain ⟨hkept, hdepth⟩ := loadDepth_limits ret deviceCfg
    exact ⟨.inl hkept, hdepth⟩
  | some fpsList =>
    have hlimits := updateFpsList_limits fpsList ret.fpsLimits
    dsimp only
    split
    · exact ⟨hlimits, .inl rfl⟩
    · obtain ⟨hkept, hdepth⟩ := loadDepth_limits
        { ret with fpsLimits := (updateFpsList fpsList ret.fpsLimits).2 } deviceCfg
      exact ⟨hkept ▸ hlimits, hdepth⟩

end VirtualCamera.Config
