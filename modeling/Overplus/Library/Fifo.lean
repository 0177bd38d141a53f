import Mathlib

/-!
# Bounded queues

A queue holds at most so many values, oldest first, and carries the proof of it. Blocks are
pushed at the back where they fit and popped from the front where they are there.
-/
namespace Overplus

/-- A queue of at most `capacity` values. -/
structure Fifo (α : Type) (capacity : Nat) where
  /-- The values, oldest first. -/
  items : List α
  /-- They fit. -/
  bounded : items.length ≤ capacity

namespace Fifo

variable {α : Type} {capacity : Nat}

/-- What can be done to a queue. -/
inductive Op (α : Type) where
  /-- Nothing. -/
  | keep
  /-- Append a block. -/
  | push (block : List α)
  /-- Drop values from the front. -/
  | pop (count : Nat)
  /-- Drop everything. -/
  | clear

/-- The queue without values. -/
def empty : Fifo α capacity := ⟨[], Nat.zero_le _⟩

/-- Do one thing to a queue; nothing where a block does not fit or values are missing. -/
def step (queue : Fifo α capacity) : Op α → Option (Fifo α capacity)
  | .keep => some queue
  | .push block =>
    if fits : (queue.items ++ block).length ≤ capacity then some ⟨queue.items ++ block, fits⟩
    else none
  | .pop count =>
    if count ≤ queue.items.length then
      some ⟨queue.items.drop count, (List.drop_sublist _ _).length_le.trans queue.bounded⟩
    else none
  | .clear => some empty

/-- A block that fits is appended. -/
theorem step_push (queue : Fifo α capacity) {block : List α}
    (fits : queue.items.length + block.length ≤ capacity) :
    ∃ next, queue.step (.push block) = some next ∧ next.items = queue.items ++ block := by
  rw [← List.length_append] at fits
  exact ⟨_, dif_pos fits, rfl⟩

/-- Values that are there are dropped from the front. -/
theorem step_pop (queue : Fifo α capacity) {count : Nat} (there : count ≤ queue.items.length) :
    ∃ next, queue.step (.pop count) = some next ∧ next.items = queue.items.drop count :=
  ⟨_, if_pos there, rfl⟩

end Fifo

end Overplus
