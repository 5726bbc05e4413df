/-!
Maps with strings as keys, kept as lists of pairs in ascending order of the keys.
-/

namespace Clausal

/-- A list of pairs; `insert` keeps its keys in strictly ascending order. -/
abbrev SortedMap (α : Type) := List (String × α)

namespace SortedMap

variable {α : Type}

/-- Sets the value of a key; an earlier one is forgotten. -/
def insert (key : String) (value : α) : SortedMap α → SortedMap α
  | [] => [(key, value)]
  | (other, kept) :: rest =>
    if key = other then (key, value) :: rest
    else if key < other then (key, value) :: (other, kept) :: rest
    else (other, kept) :: insert key value rest

/-- The value of a key. -/
def find? (key : String) (m : SortedMap α) : Option α :=
  (List.find? (fun entry => entry.1 == key) m).map Prod.snd

/-- The keys in ascending order. -/
def keys (m : SortedMap α) : List String :=
  m.map Prod.fst

theorem find?_insert (key other : String) (value : α) (m : SortedMap α) :
    find? other (insert key value m) = if key = other then some value else find? other m := by
  induction m with
  | nil => by_cases same : key = other <;> simp [insert, find?, same]
  | cons entry rest ih =>
    obtain ⟨name, kept⟩ := entry
    rw [insert]
    by_cases replaced : key = name
    · subst replaced
      rw [if_pos rfl]
      by_cases same : key = other <;> simp [find?, same]
    · rw [if_neg replaced]
      by_cases before : key < name
      · rw [if_pos before]
        by_cases same : key = other <;> simp [find?, same]
      · rw [if_neg before]
        by_cases found : name = other
        · have differs : key ≠ other := fun same => replaced (same.trans found.symm)
          simp [find?, found, differs]
        · have step (tail : SortedMap α) :
              find? other ((name, kept) :: tail) = find? other tail := by
            simp [find?, found]
          rw [step, step, ih]

end SortedMap

end Clausal
