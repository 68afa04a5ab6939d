import Mathlib.Data.List.Basic
import Mathlib.Data.List.Flatten
import Mathlib.Data.UInt
import Mathlib.Tactic.Ring

namespace VirtualCamera.Library.Wire

/-- The `n` low bytes of a number, most significant first. -/
def beBytes : ℕ → ℕ → List UInt8
  | 0, _ => []
  | n + 1, v => UInt8.ofNat (v / 256 ^ n) :: beBytes n v

def beNat : List UInt8 → ℕ
  | [] => 0
  | b :: bs => 256 ^ bs.length * b.toNat + beNat bs

@[simp] theorem length_beBytes (n v : ℕ) : (beBytes n v).length = n := by
  induction n with
  | zero => rfl
  | succ n ih => simp [beBytes, ih]

theorem pow_256_pos (n : ℕ) : 0 < 256 ^ n := Nat.pow_pos (by decide)

theorem beNat_lt (bs : List UInt8) : beNat bs < 256 ^ bs.length := by
  induction bs with
  | nil => simp [beNat]
  | cons b bs ih =>
    have hb : b.toNat + 1 ≤ 256 := b.toNat_lt
    have := Nat.mul_le_mul_left (256 ^ bs.length) hb
    simp only [beNat, List.length_cons, Nat.pow_succ]
    rw [Nat.mul_add, Nat.mul_one] at this
    omega

theorem beNat_beBytes (n v : ℕ) : beNat (beBytes n v) = v % 256 ^ n := by
  induction n with
  | zero => simp [beNat, beBytes, Nat.mod_one]
  | succ n ih =>
    have hmod : v % 256 ^ (n + 1) = v % 256 ^ n + 256 ^ n * (v / 256 ^ n % 256) := Nat.mod_pow_succ
    rw [beBytes, beNat, ih, length_beBytes, UInt8.toNat_ofNat', hmod]
    exact Nat.add_comm _ _

/-- The bytes of a number do not depend on what lies above them. -/
theorem beBytes_add_mul (n v c : ℕ) : beBytes n (v + 256 ^ n * c) = beBytes n v := by
  induction n generalizing c with
  | zero => rfl
  | succ n ih =>
    have hpow : v + 256 ^ (n + 1) * c = v + 256 ^ n * (256 * c) := by ring
    have hdiv : (v + 256 ^ n * (256 * c)) / 256 ^ n = v / 256 ^ n + 256 * c :=
      Nat.add_mul_div_left _ _ (pow_256_pos _)
    simp only [beBytes, hpow, ih, hdiv, List.cons.injEq, and_true]
    apply UInt8.toNat_inj.mp
    simp

theorem beBytes_beNat (bs : List UInt8) : beBytes bs.length (beNat bs) = bs := by
  induction bs with
  | nil => rfl
  | cons b bs ih =>
    have hdiv : (256 ^ bs.length * b.toNat + beNat bs) / 256 ^ bs.length = b.toNat := by
      rw [Nat.mul_add_div (pow_256_pos _), Nat.div_eq_of_lt (beNat_lt bs), Nat.add_zero]
    simp only [List.length_cons, beBytes, beNat, hdiv, UInt8.ofNat_toNat, List.cons.injEq,
      true_and]
    rw [Nat.add_comm, beBytes_add_mul, ih]

/-- A type of words that a format writes in a fixed number of bytes. -/
class WireWord (α : Type) where
  width : ℕ
  toNat : α → ℕ
  ofNat : ℕ → α
  toNat_lt : ∀ a, toNat a < 256 ^ width
  ofNat_toNat : ∀ a, ofNat (toNat a) = a
  toNat_ofNat : ∀ n, toNat (ofNat n) = n % 256 ^ width

instance : WireWord UInt8 :=
  ⟨1, UInt8.toNat, UInt8.ofNat, UInt8.toNat_lt, fun _ ↦ UInt8.ofNat_toNat,
    fun _ ↦ UInt8.toNat_ofNat'⟩

instance : WireWord UInt16 :=
  ⟨2, UInt16.toNat, UInt16.ofNat, UInt16.toNat_lt, fun _ ↦ UInt16.ofNat_toNat,
    fun _ ↦ UInt16.toNat_ofNat'⟩

instance : WireWord UInt32 :=
  ⟨4, UInt32.toNat, UInt32.ofNat, UInt32.toNat_lt, fun _ ↦ UInt32.ofNat_toNat,
    fun _ ↦ UInt32.toNat_ofNat'⟩

section Words

variable {α : Type} [WireWord α]

open WireWord (width)

def put (a : α) : List UInt8 := beBytes (width α) (WireWord.toNat a)

/-- The word at an offset; reading past the end of the buffer is `none`. -/
def get (off : ℕ) (l : List UInt8) : Option α :=
  if off + width α ≤ l.length then
    some (WireWord.ofNat (beNat ((l.drop off).take (width α))))
  else none

@[simp] theorem length_put (a : α) : (put a).length = width α := length_beBytes _ _

theorem get_eq_none {off : ℕ} {l : List UInt8} :
    get (α := α) off l = none ↔ l.length < off + width α := by
  unfold get
  split <;> simp <;> omega

theorem exists_get (off : ℕ) {l : List UInt8} (h : off + width α ≤ l.length) :
    ∃ a : α, get off l = some a := ⟨_, if_pos h⟩

theorem le_of_get {off : ℕ} {l : List UInt8} {a : α} (h : get off l = some a) :
    off + width α ≤ l.length := by
  unfold get at h
  split at h
  · assumption
  · cases h

/-- What was written in front is read back. -/
theorem get_put (a : α) (l : List UInt8) : get 0 (put a ++ l) = some a := by
  have htake : (put a ++ l).take (width α) = put a := by
    rw [← length_put a, List.take_left]
  unfold get
  rw [if_pos (by simp), List.drop_zero, htake, put, beNat_beBytes,
    Nat.mod_eq_of_lt (WireWord.toNat_lt a), WireWord.ofNat_toNat]

theorem get_append_right (off : ℕ) (l l' : List UInt8) :
    get (α := α) (l.length + off) (l ++ l') = get off l' := by
  have hdrop : (l ++ l').drop (l.length + off) = l'.drop off := by
    rw [← List.drop_drop, List.drop_left]
  unfold get
  rw [List.length_append, hdrop]
  by_cases h : off + width α ≤ l'.length
  · rw [if_pos (by omega), if_pos h]
  · rw [if_neg (by omega), if_neg h]

/-- The word behind a prefix of the right length. -/
theorem get_behind {n : ℕ} {l : List UInt8} (h : l.length = n) (a : α) (l' : List UInt8) :
    get n (l ++ (put a ++ l')) = some a := by
  have := get_append_right (α := α) 0 l (put a ++ l')
  rw [Nat.add_zero, h, get_put] at this
  exact this

theorem put_byte (b : UInt8) : put b = [b] := by
  simp [put, beBytes, WireWord.width, WireWord.toNat]

theorem get_last (l : List UInt8) : get (l.length - 1) l = l.getLast? := by
  obtain rfl | ⟨front, b, rfl⟩ := l.eq_nil_or_concat
  · rfl
  · have hget := get_behind (n := (front ++ [b]).length - 1) (l := front) (by simp) b []
    rw [put_byte, List.append_nil] at hget
    rw [List.concat_eq_append, hget, List.getLast?_append, List.getLast?_singleton, Option.some_or]

/-- What was read stands in the buffer at its offset. -/
theorem drop_of_get {off : ℕ} {l : List UInt8} {a : α} (h : get off l = some a) :
    l.drop off = put a ++ l.drop (off + width α) := by
  have hle := le_of_get h
  unfold get at h
  rw [if_pos hle, Option.some.injEq] at h
  have hlen : ((l.drop off).take (width α)).length = width α := by
    rw [List.length_take, List.length_drop]
    omega
  have hlt := beNat_lt ((l.drop off).take (width α))
  have hput : put a = (l.drop off).take (width α) := by
    have hback := beBytes_beNat ((l.drop off).take (width α))
    rw [hlen] at hlt hback
    rw [← h, put, WireWord.toNat_ofNat, Nat.mod_eq_of_lt hlt, hback]
  rw [hput, ← List.drop_drop, List.take_append_drop]

/-- `n` words in a row. -/
def getMany (off : ℕ) (l : List UInt8) : ℕ → Option (List α)
  | 0 => some []
  | n + 1 => (get off l).bind fun a ↦ (getMany (off + width α) l n).map (a :: ·)

def putMany (as : List α) : List UInt8 := as.flatMap put

@[simp] theorem length_putMany (as : List α) : (putMany as).length = width α * as.length := by
  induction as with
  | nil => simp [putMany]
  | cons a as ih =>
    simp only [putMany, List.flatMap_cons, List.length_append, length_put, List.length_cons] at ih ⊢
    rw [ih, Nat.mul_add, Nat.mul_one, Nat.add_comm]

theorem getMany_isSome {off n : ℕ} {l : List UInt8} (h : off + width α * n ≤ l.length) :
    (getMany (α := α) off l n).isSome := by
  induction n generalizing off with
  | zero => rfl
  | succ n ih =>
    rw [Nat.mul_add, Nat.mul_one] at h
    obtain ⟨a, ha⟩ : ∃ a, get (α := α) off l = some a := by
      rw [← Option.isSome_iff_exists, Option.isSome_iff_ne_none, Ne, get_eq_none]
      omega
    obtain ⟨as, has⟩ := Option.isSome_iff_exists.mp (ih (show off + width α + width α * n ≤ l.length by omega))
    simp [getMany, ha, has]

theorem length_getMany {off n : ℕ} {l : List UInt8} {as : List α}
    (h : getMany off l n = some as) : as.length = n := by
  induction n generalizing off as with
  | zero =>
    simp only [getMany, Option.some.injEq] at h
    rw [← h, List.length_nil]
  | succ n ih =>
    simp only [getMany, Option.bind_eq_some_iff, Option.map_eq_some_iff] at h
    obtain ⟨a, -, as', has', rfl⟩ := h
    rw [List.length_cons, ih has']

theorem drop_of_getMany {off n : ℕ} {l : List UInt8} {as : List α}
    (h : getMany off l n = some as) :
    l.drop off = putMany as ++ l.drop (off + width α * n) := by
  induction n generalizing off as with
  | zero =>
    simp only [getMany, Option.some.injEq] at h
    simp [← h, putMany]
  | succ n ih =>
    simp only [getMany, Option.bind_eq_some_iff, Option.map_eq_some_iff] at h
    obtain ⟨a, ha, as', has', rfl⟩ := h
    have hoff : off + width α + width α * n = off + width α * (n + 1) := by ring
    rw [drop_of_get ha, ih has', hoff]
    simp [putMany]

end Words

/-- The bytes from an offset on, `n` of them; reading past the end is `none`. -/
def slice (off n : ℕ) (l : List UInt8) : Option (List UInt8) :=
  if off + n ≤ l.length then some ((l.drop off).take n) else none

theorem slice_behind {off n : ℕ} {l b : List UInt8} (h : l.length = off) (hn : b.length = n)
    (l' : List UInt8) : slice off n (l ++ (b ++ l')) = some b := by
  subst h hn
  unfold slice
  rw [if_pos (by simp), List.drop_left, List.take_left]

theorem drop_of_slice {off n : ℕ} {l b : List UInt8} (h : slice off n l = some b) :
    b.length = n ∧ l.drop off = b ++ l.drop (off + n) := by
  unfold slice at h
  split at h
  · rename_i hle
    cases h
    constructor
    · rw [List.length_take, List.length_drop]
      omega
    · rw [← List.drop_drop, List.take_append_drop]
  · cases h

/-- Some bytes stand in the buffer at an offset. -/
def StandsAt (l : List UInt8) (off : ℕ) (b : List UInt8) : Prop :=
  ∃ p s, l = p ++ (b ++ s) ∧ p.length = off

section StandsAt

variable {l a b : List UInt8} {off : ℕ}

theorem StandsAt.le (h : StandsAt l off b) : off + b.length ≤ l.length := by
  obtain ⟨p, s, rfl, rfl⟩ := h
  simp only [List.length_append]
  omega

theorem StandsAt.left (h : StandsAt l off (a ++ b)) : StandsAt l off a := by
  obtain ⟨p, s, rfl, rfl⟩ := h
  exact ⟨p, b ++ s, by rw [List.append_assoc], rfl⟩

theorem StandsAt.right (h : StandsAt l off (a ++ b)) : StandsAt l (off + a.length) b := by
  obtain ⟨p, s, rfl, rfl⟩ := h
  exact ⟨p ++ a, s, by simp only [List.append_assoc], by rw [List.length_append]⟩

/-- Two parts that stand one behind the other. -/
theorem StandsAt.append (h : StandsAt l off a) (h' : StandsAt l (off + a.length) b) :
    StandsAt l off (a ++ b) := by
  obtain ⟨p, s, rfl, rfl⟩ := h
  obtain ⟨p', s', heq, hlen⟩ := h'
  rw [← List.append_assoc] at heq
  obtain ⟨rfl, rfl⟩ := List.append_inj heq (by rw [List.length_append, hlen])
  exact ⟨p, s', by rw [List.append_assoc], rfl⟩

theorem StandsAt.get {α : Type} [WireWord α] {x : α} (h : StandsAt l off (put x)) :
    get off l = some x := by
  obtain ⟨p, s, rfl, hp⟩ := h
  exact get_behind hp x s

theorem StandsAt.slice {n : ℕ} (h : StandsAt l off b) (hn : b.length = n) :
    slice off n l = some b := by
  obtain ⟨p, s, rfl, hp⟩ := h
  exact slice_behind hp hn s

theorem standsAt_of_drop (hoff : off ≤ l.length) {s : List UInt8} (h : l.drop off = b ++ s) :
    StandsAt l off b := by
  refine ⟨l.take off, s, ?_, ?_⟩
  · rw [← h, List.take_append_drop]
  · rw [List.length_take]
    omega

theorem standsAt_of_get {α : Type} [WireWord α] {x : α} (h : get off l = some x) :
    StandsAt l off (put x) := by
  have hle := le_of_get h
  exact standsAt_of_drop (by omega) (drop_of_get h)

theorem standsAt_self (l : List UInt8) : StandsAt l 0 l := ⟨[], [], by simp, rfl⟩

/-- Of records that are all as long, each one stands at a multiple of their length. -/
theorem standsAt_record {α : Type} {f : α → List UInt8} {n : ℕ} (hf : ∀ x, (f x).length = n)
    {xs : List α} (h : StandsAt l off (xs.flatMap f)) {i : ℕ} (hi : i < xs.length) :
    StandsAt l (off + i * n) (f xs[i]) := by
  induction xs generalizing off i with
  | nil => cases hi
  | cons x xs ih =>
    rw [List.flatMap_cons] at h
    cases i with
    | zero =>
      rw [Nat.zero_mul, Nat.add_zero]
      exact h.left
    | succ i =>
      have hrest := h.right
      rw [hf] at hrest
      rw [Nat.succ_mul, Nat.add_comm (i * n), ← Nat.add_assoc]
      exact ih hrest (Nat.lt_of_succ_lt_succ hi)

/-- Any part of the buffer stands there. -/
theorem exists_standsAt (off n : ℕ) (h : off + n ≤ l.length) :
    ∃ b, b.length = n ∧ StandsAt l off b := by
  refine ⟨(l.drop off).take n, ?_, standsAt_of_drop (by omega) (List.take_append_drop n _).symm⟩
  rw [List.length_take, List.length_drop]
  omega

end StandsAt

end VirtualCamera.Library.Wire
