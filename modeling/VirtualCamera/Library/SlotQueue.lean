import Mathlib.Data.Int.Notation
import Mathlib.Data.List.Basic

namespace VirtualCamera.Library.SlotQueue

variable {Q β μ : Type}

/-- What a consumer gets: the buffer of a slot, with what the producer said about it. -/
structure Item (β μ : Type) where
  slot : ℤ
  buffer : β
  data : μ
  deriving DecidableEq, Repr

/-- A queue of buffers between a producer and a consumer, which takes them in the order in which
they were queued. Its calls answer with a status, 0 for success. `held` is the buffer that the
producer has in a slot, `queued` is what the consumer has still to acquire, the oldest first. -/
structure Contract (Q β μ : Type) where
  new : Q
  connect : Q → ℤ × Q
  attach : Q → β → ℤ × ℤ × Q
  queue : Q → ℤ → μ → ℤ × Q
  acquire : Q → ℤ × Option (Item β μ) × Q
  release : Q → Item β μ → ℤ × Q
  detachNext : Q → ℤ × Option β × Q
  held : Q → ℤ → Option β
  queued : Q → List (Item β μ)
  queued_new : queued new = []
  queued_connect : ∀ q, queued (connect q).2 = queued q
  queued_attach : ∀ q b, queued (attach q b).2.2 = queued q
  held_attach : ∀ q b, (attach q b).1 = 0 →
    held (attach q b).2.2 (attach q b).2.1 = some b
  queued_queue : ∀ q slot data b, (queue q slot data).1 = 0 → held q slot = some b →
    queued (queue q slot data).2 = queued q ++ [⟨slot, b, data⟩]
  queued_queue_error : ∀ q slot data, (queue q slot data).1 ≠ 0 →
    queued (queue q slot data).2 = queued q
  queued_acquire : ∀ q, (acquire q).1 = 0 → ∃ item, (acquire q).2.1 = some item ∧
    queued q = item :: queued (acquire q).2.2
  queued_acquire_error : ∀ q, (acquire q).1 ≠ 0 → queued (acquire q).2.2 = queued q
  queued_release : ∀ q item, queued (release q item).2 = queued q
  queued_detachNext : ∀ q, queued (detachNext q).2.2 = queued q

/-! ### Slots in a list -/

/-- `released` are the slots that were released and not detached, the oldest first. -/
structure Slots (β μ : Type) where
  slots : List (Option β) := []
  queued : List (Item β μ) := []
  released : List ℤ := []
  deriving DecidableEq, Repr

namespace Slots

def WOULD_BLOCK : ℤ := -11
def NO_MEMORY : ℤ := -12
def BAD_VALUE : ℤ := -22

def held (q : Slots β μ) (slot : ℤ) : Option β :=
  if 0 ≤ slot then q.slots[slot.toNat]?.join else none

/-- The first slot without a buffer. -/
def attach (limit : ℕ) (q : Slots β μ) (b : β) : ℤ × ℤ × Slots β μ :=
  let slot := q.slots.findIdx Option.isNone
  if slot < limit then (0, slot, { q with slots := (q.slots ++ [none]).set slot (some b) })
  else (WOULD_BLOCK, -1, q)

def queue (q : Slots β μ) (slot : ℤ) (data : μ) : ℤ × Slots β μ :=
  match q.held slot with
  | none => (BAD_VALUE, q)
  | some b => (0, { q with queued := q.queued ++ [⟨slot, b, data⟩] })

def acquire (q : Slots β μ) : ℤ × Option (Item β μ) × Slots β μ :=
  match q.queued with
  | [] => (WOULD_BLOCK, none, q)
  | item :: queued => (0, some item, { q with queued })

def release (q : Slots β μ) (item : Item β μ) : ℤ × Slots β μ :=
  (0, { q with released := q.released ++ [item.slot] })

def detachNext (q : Slots β μ) : ℤ × Option β × Slots β μ :=
  match q.released with
  | [] => (NO_MEMORY, none, q)
  | slot :: released =>
    (0, q.held slot, { q with slots := q.slots.set slot.toNat none, released })

theorem attach_cases (limit : ℕ) (q : Slots β μ) (b : β) :
    q.attach limit b = (WOULD_BLOCK, -1, q) ∨ ∃ slot : ℕ, slot ≤ q.slots.length ∧
      q.attach limit b = ((0 : ℤ), (slot : ℤ), { q with
        slots := (q.slots ++ [none]).set slot (some b) }) := by
  unfold attach
  dsimp only
  split
  · exact .inr ⟨_, List.findIdx_le_length, rfl⟩
  · exact .inl rfl

theorem held_attach {limit : ℕ} {q : Slots β μ} {b : β} (h : (q.attach limit b).1 = 0) :
    (q.attach limit b).2.2.held (q.attach limit b).2.1 = some b := by
  obtain heq | ⟨slot, hle, heq⟩ := attach_cases limit q b
  · rw [heq] at h
    cases h
  · have hlt : slot < (q.slots ++ [none]).length := by
      rw [List.length_append, List.length_singleton]
      omega
    rw [heq]
    simp only [held, Int.natCast_nonneg, if_true, Int.toNat_natCast]
    rw [List.getElem?_set_self hlt, Option.join_some]

theorem queue_cases (q : Slots β μ) (slot : ℤ) (data : μ) :
    (q.held slot = none ∧ q.queue slot data = (BAD_VALUE, q)) ∨ ∃ b, q.held slot = some b ∧
      q.queue slot data = ((0 : ℤ), { q with queued := q.queued ++ [⟨slot, b, data⟩] }) := by
  unfold queue
  cases hheld : q.held slot with
  | none => exact .inl ⟨rfl, rfl⟩
  | some b => exact .inr ⟨b, rfl, rfl⟩

/-- A queue with at most so many slots. -/
def contract (limit : ℕ) : Contract (Slots β μ) β μ where
  new := {}
  connect q := (0, q)
  attach := attach limit
  queue := queue
  acquire := acquire
  release := release
  detachNext := detachNext
  held := held
  queued := queued
  queued_new := rfl
  queued_connect _ := rfl
  queued_attach q b := by
    obtain heq | ⟨_, _, heq⟩ := attach_cases limit q b <;> rw [heq]
  held_attach _ _ h := held_attach h
  queued_queue q slot data b h hheld := by
    obtain ⟨hnone, _⟩ | ⟨b', hb, heq⟩ := queue_cases q slot data
    · rw [hnone] at hheld
      cases hheld
    · cases hb.symm.trans hheld
      rw [heq]
  queued_queue_error q slot data h := by
    obtain ⟨_, heq⟩ | ⟨_, _, heq⟩ := queue_cases q slot data
    · rw [heq]
    · rw [heq] at h
      exact absurd rfl h
  queued_acquire q h := by
    unfold acquire at h ⊢
    cases hq : q.queued with
    | nil =>
      rw [hq] at h
      cases h
    | cons item queued => exact ⟨item, rfl, rfl⟩
  queued_acquire_error q h := by
    unfold acquire at h ⊢
    cases hq : q.queued with
    | nil => exact hq
    | cons item queued =>
      rw [hq] at h
      exact absurd rfl h
  queued_release _ _ := rfl
  queued_detachNext q := by
    unfold detachNext
    split <;> rfl

end Slots

end VirtualCamera.Library.SlotQueue
