import Mathlib

/-!
# Circular windows

The cells of a circular buffer are a function of the position. A window is the list of
values found from a position on, wrapping round at the capacity. A stretch that does not wrap
and that fits behind the window shares no place with it, so writing there leaves the window
unchanged, and the longer window ends with what was written.
-/
namespace Overplus.Ring

variable {α : Type}

/-- The values of consecutive positions from a start on, wrapping at the capacity. -/
def window (cells : Nat → α) (capacity start count : Nat) : List α :=
  (List.range count).map fun index => cells ((start + index) % capacity)

/-- Store a block at consecutive positions; the other cells keep their values. -/
def store (cells : Nat → α) (start : Nat) (block : List α) : Nat → α := fun position =>
  if start ≤ position then (block[position - start]?).getD (cells position) else cells position

variable {cells : Nat → α} {capacity start count : Nat} {block : List α}

/-- A window has as many values as positions. -/
@[simp]
theorem window_length : (window cells capacity start count).length = count := by
  simp [window]

/-- An empty window has no values. -/
@[simp]
theorem window_zero : window cells capacity start 0 = [] := rfl

/-- A window is a shorter one followed by the window behind it. -/
theorem window_add (first second : Nat) :
    window cells capacity start (first + second) =
      window cells capacity start first ++ window cells capacity (start + first) second := by
  simp only [window, List.range_add, List.map_append, List.map_map, Function.comp_def,
    Nat.add_assoc]

/-- Only the start's place in the ring matters. -/
theorem window_mod : window cells capacity (start % capacity) count =
    window cells capacity start count := by
  simp only [window, Nat.mod_add_mod]

/-- Windows over cells that agree on the window's positions are equal. -/
theorem window_congr {other : Nat → α}
    (agree : ∀ index < count, cells ((start + index) % capacity) =
      other ((start + index) % capacity)) :
    window cells capacity start count = window other capacity start count :=
  List.map_congr_left fun index member => agree index (List.mem_range.mp member)

/-- A position written by a block holds the block's value. -/
theorem store_inside {index : Nat} (inside : index < block.length) :
    store cells start block (start + index) = block[index] := by
  simp [store, inside]

/-- A position before or behind a block keeps its value. -/
theorem store_outside {position : Nat}
    (outside : position < start ∨ start + block.length ≤ position) :
    store cells start block position = cells position := by
  unfold store
  split
  · rw [List.getElem?_eq_none (by omega), Option.getD_none]
  · rfl

/-- A block is found where it was stored. -/
theorem map_store : (List.range block.length).map (fun index => store cells start block
    (start + index)) = block := by
  apply List.ext_getElem
  · simp
  · intro index _ inside
    rw [List.getElem_map, List.getElem_range, store_inside inside]

/-- What is known of some cells is still known when a block is stored in both views. -/
theorem store_known {known : Nat → Option α}
    (agree : ∀ position value, known position = some value → cells position = value)
    {position : Nat} {value : α}
    (found : store known start (block.map some) position = some value) :
    store cells start block position = value := by
  unfold store at found ⊢
  split at found
  · rename_i behind
    rw [if_pos behind]
    rw [List.getElem?_map] at found
    cases stored : block[position - start]? with
    | none =>
      rw [stored] at found
      exact agree position value found
    | some byte =>
      rw [stored] at found
      exact Option.some.inj found
  · rename_i before
    rw [if_neg before]
    exact agree position value found

/-- A window that does not wrap is found at consecutive positions. -/
theorem window_flat (fits : start + count ≤ capacity) :
    window cells capacity start count =
      (List.range count).map fun index => cells (start + index) := by
  refine List.map_congr_left fun index member => ?_
  have inside := List.mem_range.mp member
  rw [Nat.mod_eq_of_lt (by omega)]

/-- Positions inside the ring and less than a round apart are different places. -/
theorem mod_ne_of_lt {first second : Nat} (ordered : first < second)
    (near : second < first + capacity) : first % capacity ≠ second % capacity := by
  intro same
  have positive : 0 < capacity := by omega
  have divided := (Nat.modEq_iff_dvd' (le_of_lt ordered)).mp same
  have small := Nat.le_of_dvd (by omega) divided
  omega

/-- A stretch behind a window that does not wrap and is free shares no place with the window. -/
theorem behind_ne {index length offset : Nat} (inside : index < count) (within : offset < length)
    (free : count + length ≤ capacity) (fits : (start + count) % capacity + length ≤ capacity) :
    (start + count) % capacity + offset ≠ (start + index) % capacity := by
  have place : (start + count + offset) % capacity = (start + count) % capacity + offset := by
    rw [← Nat.mod_add_mod, Nat.mod_eq_of_lt (by omega)]
  rw [← place]
  exact (mod_ne_of_lt (by omega) (by omega)).symm

/-- Leaving out the first values of a window moves its start. -/
theorem window_drop {taken : Nat} (inside : taken ≤ count) :
    window cells capacity ((start + taken) % capacity) (count - taken) =
      (window cells capacity start count).drop taken := by
  obtain ⟨left, rfl⟩ := Nat.exists_eq_add_of_le inside
  rw [window_mod, window_add, Nat.add_sub_cancel_left, List.drop_left' (by simp)]

/-- The first values of a window are the shorter window at its start. -/
theorem window_take {taken : Nat} (inside : taken ≤ count) :
    window cells capacity start taken = (window cells capacity start count).take taken := by
  obtain ⟨left, rfl⟩ := Nat.exists_eq_add_of_le inside
  rw [window_add, List.take_left' (by simp)]

end Overplus.Ring
