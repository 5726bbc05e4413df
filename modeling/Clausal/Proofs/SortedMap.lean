import Clausal.SortedMap
import Mathlib.Data.String.Basic
/-!
# Sorted maps

The keys of a map stay in strictly ascending order when a key is set, and it has exactly the keys
that were set.
-/

namespace Clausal.SortedMap

variable {α : Type}

theorem mem_keys_insert {key other : String} {value : α} {m : SortedMap α} :
    other ∈ keys (insert key value m) ↔ other = key ∨ other ∈ keys m := by
  induction m with
  | nil => simp [insert, keys]
  | cons entry rest ih =>
    obtain ⟨name, kept⟩ := entry
    rw [insert]
    by_cases replaced : key = name
    · subst replaced
      simp [keys]
    · rw [if_neg replaced]
      by_cases before : key < name
      · simp [before, keys]
      · rw [if_neg before]
        change other ∈ name :: keys (insert key value rest) ↔
          other = key ∨ other ∈ name :: keys rest
        rw [List.mem_cons, ih, List.mem_cons]
        exact or_left_comm

/-- Setting a key keeps the keys in order. -/
theorem ascending_insert {m : SortedMap α} (ascending : (keys m).Pairwise (· < ·)) (key : String)
    (value : α) : (keys (insert key value m)).Pairwise (· < ·) := by
  induction m with
  | nil => exact List.pairwise_singleton _ _
  | cons entry rest ih =>
    obtain ⟨name, kept⟩ := entry
    obtain ⟨least, ordered⟩ := List.pairwise_cons.mp ascending
    rw [insert]
    by_cases replaced : key = name
    · subst replaced
      rw [if_pos rfl]
      exact ascending
    · rw [if_neg replaced]
      by_cases before : key < name
      · rw [if_pos before]
        refine List.pairwise_cons.mpr ⟨fun other mem => ?_, ascending⟩
        rcases List.mem_cons.mp mem with rfl | later
        · exact before
        · exact before.trans (least other later)
      · rw [if_neg before]
        have after : name < key := lt_of_le_of_ne (not_lt.mp before) (Ne.symm replaced)
        refine List.pairwise_cons.mpr ⟨fun other mem => ?_, ih ordered⟩
        rcases mem_keys_insert.mp mem with rfl | later
        · exact after
        · exact least other later

/-- A key has a value exactly when it is one of the keys. -/
theorem isSome_find?_iff {key : String} {m : SortedMap α} :
    (find? key m).isSome = true ↔ key ∈ keys m := by
  rw [find?, Option.isSome_map, List.find?_isSome, keys, List.mem_map]
  simp

end Clausal.SortedMap
