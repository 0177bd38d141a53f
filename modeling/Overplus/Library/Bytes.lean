import Mathlib

/-!
# Byte strings and checked memory

A byte string is a list of bytes. A memory answers every index with a byte or with nothing:
reading an index that holds nothing is the fault of an out-of-bounds read, so a decoder
written over a memory reports every stray read in its result. The memory of a byte string
is that string followed by any memory; followed by unmapped memory it is the string alone.
-/
namespace Overplus

/-- The bytes of a string or of a buffer, first byte first. -/
abbrev Bytes := List UInt8

/-- Comparing byte strings is lawful, which makes membership in a list of them decidable. -/
instance Bytes.lawfulBEq : LawfulBEq Bytes := inferInstance

/-- What a read or an allocation does when it does not return. -/
inductive Fault where
  /-- A byte was read outside the readable memory. -/
  | outOfBounds
  /-- A string longer than any allocation was requested. -/
  | lengthError
  /-- A text that is no number was converted. -/
  | invalidArgument
  /-- A number outside the result type was converted. -/
  | outOfRange
deriving DecidableEq, Repr

/-- A successful sequence is a successful first part and a successful rest. -/
theorem bind_ok {α β : Type} {first : Except Fault α} {next : α → Except Fault β} {result : β}
    (run : (do let value ← first; next value) = .ok result) :
    ∃ value, first = .ok value ∧ next value = .ok result := by
  cases first with
  | error fault => cases run
  | ok value => exact ⟨value, rfl, run⟩

/-- Byte-addressed memory; an index holding nothing cannot be read. -/
abbrev Memory := Nat → Option UInt8

namespace Memory

/-- Memory in which nothing can be read. -/
def unmapped : Memory := fun _ => none

/-- A byte string at index zero, followed by other memory. -/
def ofBytes (bytes : Bytes) (beyond : Memory) : Memory := fun index =>
  if index < bytes.length then bytes[index]? else beyond (index - bytes.length)

/-- Read one byte. -/
def load (memory : Memory) (index : Nat) : Except Fault UInt8 :=
  match memory index with
  | some value => .ok value
  | none => .error .outOfBounds

/-- Read consecutive bytes, first byte first. -/
def loadBytes (memory : Memory) (start : Nat) : Nat → Except Fault Bytes
  | 0 => .ok []
  | count + 1 => do
    let head ← memory.load start
    let rest ← loadBytes memory (start + 1) count
    .ok (head :: rest)

/-- Longest string an allocation can hold. -/
@[irreducible]
def maxStringSize : Nat := 2 ^ 62 - 1

/-- Copy consecutive bytes into a new string. -/
def copyString (memory : Memory) (start count : Nat) : Except Fault Bytes :=
  if maxStringSize < count then .error .lengthError else memory.loadBytes start count

variable {bytes front middle back : Bytes} {beyond memory : Memory} {start count index : Nat}

/-- A read inside the string returns the string's byte. -/
theorem load_inside (inside : index < bytes.length) :
    (ofBytes bytes beyond).load index = .ok bytes[index] := by
  simp [load, ofBytes, inside]

/-- A read inside the string, with the byte as a defaulted lookup. -/
theorem load_getD (inside : index < bytes.length) :
    (ofBytes bytes beyond).load index = .ok (bytes.getD index 0) := by
  rw [load_inside inside, List.getD_eq_getElem _ _ inside]

/-- A read past a string in front of unmapped memory faults. -/
theorem load_outside (outside : bytes.length ≤ index) :
    (ofBytes bytes unmapped).load index = .error .outOfBounds := by
  simp [load, ofBytes, unmapped, Nat.not_lt.mpr outside]

/-- The byte after a known prefix is read at that prefix's length. -/
theorem load_part (value : UInt8) (layout : bytes = front ++ value :: back)
    (position : index = front.length) : (ofBytes bytes beyond).load index = .ok value := by
  have inside : index < bytes.length := by simp [layout, position]
  rw [load_inside inside]
  simp [layout, position]

/-- A block inside the string is read whole. -/
theorem loadBytes_inside (inside : start + count ≤ bytes.length) :
    (ofBytes bytes beyond).loadBytes start count = .ok ((bytes.drop start).take count) := by
  induction count generalizing start with
  | zero => simp [loadBytes]
  | succ count ih =>
    have here : start < bytes.length := by omega
    have rest := ih (show start + 1 + count ≤ bytes.length by omega)
    rw [loadBytes, load_inside here, rest]
    rw [List.drop_eq_getElem_cons here, List.take_succ_cons]
    rfl

/-- The bytes after a known prefix are read at that prefix's length. -/
theorem loadBytes_part (layout : bytes = front ++ (middle ++ back))
    (position : start = front.length) (size : count = middle.length) :
    (ofBytes bytes beyond).loadBytes start count = .ok middle := by
  rw [loadBytes_inside (by simp [layout, position, size]), layout, position, size]
  simp

/-- A string of moderate length is copied from inside the string. -/
theorem copyString_inside (inside : start + count ≤ bytes.length) (fits : count ≤ maxStringSize) :
    (ofBytes bytes beyond).copyString start count = .ok ((bytes.drop start).take count) := by
  rw [copyString, if_neg (by omega), loadBytes_inside inside]

end Memory

/-- A long enough prefix of a string in two parts is the first part and a prefix of the second. -/
theorem take_parts {bytes front back : Bytes} {count : Nat} (layout : bytes = front ++ back)
    (covered : front.length ≤ count) :
    bytes.take count = front ++ back.take (count - front.length) := by
  rw [layout, List.take_append, List.take_of_length_le covered]

/-- Position of the first occurrence of a pattern. -/
def find {α : Type} [BEq α] (pattern : List α) : List α → Option Nat
  | [] => if pattern.isPrefixOf [] then some 0 else none
  | head :: tail =>
    if pattern.isPrefixOf (head :: tail) then some 0
    else (find pattern tail).map (· + 1)

section Find

variable {α : Type} [BEq α] [LawfulBEq α] {pattern data : List α} {position : Nat}

/-- A found pattern stands at its position. -/
theorem append_of_find (found : find pattern data = some position) :
    position ≤ data.length ∧ ∃ rest, data.drop position = pattern ++ rest := by
  induction data generalizing position with
  | nil =>
    rw [find] at found
    split at found
    · rename_i matched
      obtain ⟨rest, split⟩ := List.isPrefixOf_iff_prefix.mp matched
      obtain rfl := Option.some.inj found
      exact ⟨le_rfl, rest, split.symm⟩
    · cases found
  | cons head tail ih =>
    rw [find] at found
    split at found
    · rename_i matched
      obtain ⟨rest, split⟩ := List.isPrefixOf_iff_prefix.mp matched
      obtain rfl := Option.some.inj found
      exact ⟨Nat.zero_le _, rest, split.symm⟩
    · obtain ⟨before, later, rfl⟩ := Option.map_eq_some_iff.mp found
      obtain ⟨inside, rest, split⟩ := ih later
      exact ⟨Nat.succ_le_succ inside, rest, split⟩

variable {symbol : α} {front back : List α}

/-- A single symbol is found behind a part without it. -/
theorem find_append_symbol (free : symbol ∉ front) :
    find [symbol] (front ++ symbol :: back) = some front.length := by
  induction front with
  | nil => simp [find]
  | cons head tail ih =>
    obtain ⟨other, rest⟩ := not_or.mp (mt List.mem_cons.mpr free)
    rw [List.cons_append, find, if_neg (by simpa using other), ih rest]
    rfl

/-- A pattern at the front is found there. -/
theorem find_append_self (pattern back : List α) : find pattern (pattern ++ back) = some 0 := by
  have matched : pattern.isPrefixOf (pattern ++ back) = true :=
    List.isPrefixOf_iff_prefix.mpr (List.prefix_append _ _)
  cases whole : pattern ++ back with
  | nil =>
    rw [whole] at matched
    rw [find, if_pos matched]
  | cons head tail =>
    rw [whole] at matched
    rw [find, if_pos matched]

/-- A pattern found in the front part is found there whatever follows. -/
theorem find_append_left (found : find pattern front = some position) (back : List α) :
    find pattern (front ++ back) = some position := by
  have longer {data : List α} (matched : pattern.isPrefixOf data = true) :
      pattern.isPrefixOf (data ++ back) = true :=
    List.isPrefixOf_iff_prefix.mpr
      ((List.isPrefixOf_iff_prefix.mp matched).trans (List.prefix_append _ _))
  induction front generalizing position with
  | nil =>
    rw [find] at found
    split at found
    · rename_i matched
      obtain rfl := List.prefix_nil.mp (List.isPrefixOf_iff_prefix.mp matched)
      obtain rfl := Option.some.inj found
      exact find_append_self [] back
    · cases found
  | cons head tail ih =>
    rw [List.cons_append, find]
    rw [find] at found
    split at found
    · rename_i matched
      have still : pattern.isPrefixOf (head :: (tail ++ back)) = true := longer matched
      rw [if_pos still, found]
    · rename_i other
      obtain ⟨before, later, rfl⟩ := Option.map_eq_some_iff.mp found
      -- The pattern fits in the front part, so it cannot start here and reach beyond.
      have still : ¬ pattern.isPrefixOf (head :: (tail ++ back)) = true := by
        rw [List.isPrefixOf_iff_prefix] at other ⊢
        intro matched
        apply other
        have front : head :: tail <+: head :: (tail ++ back) := List.prefix_append _ back
        apply List.prefix_of_prefix_length_le matched front
        obtain ⟨-, rest, split⟩ := append_of_find later
        have size := congrArg List.length split
        simp only [List.length_drop, List.length_append] at size
        simp only [List.length_cons]
        omega
      rw [if_neg still, ih later]
      rfl

/-- A pattern that starts with a symbol it does not repeat is found behind a part without the
pattern, if that symbol follows the part. -/
theorem find_append_fresh {tail : List α} (fresh : symbol ∉ tail)
    (free : find (symbol :: tail) front = none) (back : List α) :
    find (symbol :: tail) (front ++ symbol :: back) =
      (find (symbol :: tail) (symbol :: back)).map (· + front.length) := by
  induction front with
  | nil => simp
  | cons head rest ih =>
    rw [find] at free
    split at free
    · cases free
    rename_i other
    have later : ¬ (symbol :: tail).isPrefixOf (head :: (rest ++ symbol :: back)) = true := by
      rw [List.isPrefixOf_iff_prefix] at other ⊢
      intro matched
      apply other
      obtain ⟨rfl, reaches⟩ := List.cons_prefix_cons.mp matched
      apply List.cons_prefix_cons.mpr ⟨rfl, ?_⟩
      by_cases short : tail.length ≤ rest.length
      · exact List.prefix_of_prefix_length_le reaches (List.prefix_append _ _) short
      · have part : rest ++ [symbol] <+: tail := by
          apply List.prefix_of_prefix_length_le _ reaches
          · simp only [List.length_append, List.length_singleton]
            omega
          · exact ⟨back, by simp⟩
        exact absurd (part.subset (List.mem_append_right _ (List.mem_singleton_self _))) fresh
    rw [List.cons_append, find, if_neg later, ih (Option.map_eq_none_iff.mp free)]
    simp [Option.map_map, Function.comp_def, Nat.add_assoc]

/-- A pattern with a symbol that does not occur is not found. -/
theorem find_none_of_absent (among : symbol ∈ pattern) (free : symbol ∉ data) :
    find pattern data = none := by
  cases found : find pattern data with
  | none => rfl
  | some position =>
    obtain ⟨-, rest, split⟩ := append_of_find found
    have inside : symbol ∈ data.drop position := split ▸ List.mem_append_left _ among
    exact absurd (List.mem_of_mem_drop inside) free

/-- A symbol that does not occur is not found. -/
theorem find_symbol_none (free : symbol ∉ data) : find [symbol] data = none := by
  induction data with
  | nil => rfl
  | cons head tail ih =>
    obtain ⟨other, rest⟩ := not_or.mp (mt List.mem_cons.mpr free)
    rw [find, if_neg (by simpa using other), ih rest]
    rfl

end Find

/-- A byte array of a fixed size, such as the bytes of an address. -/
abbrev FixedBytes (size : Nat) := { bytes : Bytes // bytes.length = size }

/-- Copy the first bytes of a string into an array; missing bytes are zero. -/
def FixedBytes.copy (size : Nat) (source : Bytes) : FixedBytes size :=
  ⟨(source ++ List.replicate size 0).take size, by simp⟩

end Overplus
