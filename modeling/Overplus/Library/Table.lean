import Mathlib

/-!
# Tables with one entry for each key

A table is a list of entries, each a key and a value, in which no key occurs twice. Looking a
key up finds its entry; removing a key and entering one under a free or replaced key keep the
table a table. A list is a table of its places: what is found behind an append or a replacement
is the new item at its own place, or was there before.
-/
namespace Overplus

section Places

variable {α : Type} {items : List α} {item found : α} {place index : Nat}

/-- Behind an append the last place holds the new item, and every other one what it held. -/
theorem getElem?_concat_cases (here : (items ++ [item])[index]? = some found) :
    items[index]? = some found ∨ index = items.length ∧ found = item := by
  rcases Nat.lt_trichotomy index items.length with before | last | beyond
  · rw [List.getElem?_append_left before] at here
    exact .inl here
  · rw [last, List.getElem?_concat_length] at here
    exact .inr ⟨last, (Option.some.inj here).symm⟩
  · rw [List.getElem?_eq_none (by simp; omega)] at here
    cases here

/-- An append leaves what was there. -/
theorem getElem?_concat_old (there : items[index]? = some found) :
    (items ++ [item])[index]? = some found := by
  have inside : index < items.length := (List.getElem?_eq_some_iff.mp there).1
  rw [List.getElem?_append_left inside]
  exact there

/-- A replaced item is found at its place, and every other one where it was. -/
theorem getElem?_set_cases (here : (items.set place item)[index]? = some found) :
    index = place ∧ found = item ∨ index ≠ place ∧ items[index]? = some found := by
  rw [List.getElem?_set] at here
  split at here
  · rename_i same
    split at here
    · exact .inl ⟨same.symm, (Option.some.inj here).symm⟩
    · cases here
  · rename_i different
    exact .inr ⟨fun same => different same.symm, here⟩

end Places

variable {κ ν : Type}

/-- No key occurs twice. -/
def Keyed (table : List (κ × ν)) : Prop := (table.map Prod.fst).Nodup

/-- The empty table. -/
theorem keyed_nil : Keyed ([] : List (κ × ν)) := List.nodup_nil

/-- Removing entries keeps a table. -/
theorem Keyed.filter {table : List (κ × ν)} (keyed : Keyed table) (keep : κ × ν → Bool) :
    Keyed (table.filter keep) :=
  keyed.sublist (List.filter_sublist.map Prod.fst)

/-- Two entries under one key are the same. -/
theorem Keyed.unique {table : List (κ × ν)} (keyed : Keyed table) {key : κ} {first second : ν}
    (one : (key, first) ∈ table) (other : (key, second) ∈ table) : first = second := by
  have same := List.inj_on_of_nodup_map keyed one other rfl
  exact (Prod.mk.inj same).2

/-- Replacing what a key stands for keeps a table. -/
theorem Keyed.replace [DecidableEq κ] {table : List (κ × ν)} (keyed : Keyed table) (key : κ)
    (value : ν) : Keyed ((key, value) :: table.filter fun entry => entry.1 ≠ key) := by
  refine List.nodup_cons.mpr ⟨?_, keyed.filter _⟩
  intro again
  obtain ⟨entry, kept, same⟩ := List.mem_map.mp again
  have other := (List.mem_filter.mp kept).2
  simp [same] at other

variable [BEq κ] [LawfulBEq κ]

/-- Looking a key up finds its entry. -/
theorem Keyed.lookup {table : List (κ × ν)} (keyed : Keyed table) {key : κ} {value : ν}
    (member : (key, value) ∈ table) : table.lookup key = some value := by
  induction table with
  | nil => cases member
  | cons entry rest ih =>
    obtain ⟨fresh, keyedRest⟩ := List.nodup_cons.mp keyed
    rcases List.mem_cons.mp member with rfl | later
    · exact List.lookup_cons_self
    · have different : key ≠ entry.1 := by
        rintro rfl
        exact fresh (List.mem_map.mpr ⟨_, later, rfl⟩)
      rw [List.lookup_cons, beq_eq_false_iff_ne.mpr different]
      exact ih keyedRest later

/-- What a lookup finds is an entry. -/
theorem mem_of_lookup {table : List (κ × ν)} {key : κ} {value : ν}
    (found : table.lookup key = some value) : (key, value) ∈ table := by
  induction table with
  | nil => cases found
  | cons entry rest ih =>
    rw [List.lookup_cons] at found
    split at found
    · rename_i same
      rw [beq_iff_eq.mp same, Option.some.inj found.symm]
      exact List.mem_cons_self
    · exact List.mem_cons_of_mem _ (ih found)

/-- A key without an entry is not found. -/
theorem not_mem_of_lookup_none {table : List (κ × ν)} {key : κ} (keyed : Keyed table)
    (missing : table.lookup key = none) (value : ν) : (key, value) ∉ table := by
  intro member
  rw [keyed.lookup member] at missing
  cases missing

/-- Entering a key that is not found keeps a table. -/
theorem Keyed.enter {table : List (κ × ν)} (keyed : Keyed table) {key : κ} (value : ν)
    (missing : table.lookup key = none) : Keyed ((key, value) :: table) := by
  refine List.nodup_cons.mpr ⟨?_, keyed⟩
  intro again
  obtain ⟨entry, member, rfl⟩ := List.mem_map.mp again
  exact not_mem_of_lookup_none keyed missing entry.2 member

/-- Looking a key up behind a removal finds the entry if it was kept. -/
theorem Keyed.lookup_filter {table : List (κ × ν)} (keyed : Keyed table) (keep : κ × ν → Bool)
    (key : κ) :
    (table.filter keep).lookup key = (table.lookup key).filter fun value => keep (key, value) := by
  cases found : table.lookup key with
  | none =>
    cases kept : (table.filter keep).lookup key with
    | none => rfl
    | some value =>
      have member := (List.mem_filter.mp (mem_of_lookup kept)).1
      exact absurd member (not_mem_of_lookup_none keyed found value)
  | some value =>
    rw [Option.filter_some]
    split
    · rename_i stays
      exact (keyed.filter keep).lookup (List.mem_filter.mpr ⟨mem_of_lookup found, stays⟩)
    · rename_i removed
      cases kept : (table.filter keep).lookup key with
      | none => rfl
      | some other =>
        obtain ⟨member, stays⟩ := List.mem_filter.mp (mem_of_lookup kept)
        rw [keyed.unique member (mem_of_lookup found)] at stays
        exact absurd stays removed

end Overplus
