import Mathlib.Data.List.Basic
/-!
# The last of its kind

Where later items of a list count instead of earlier ones, the last item with a property is the one
that has it while none behind it has.
-/

namespace Clausal

variable {α : Type} {p : α → Prop} {l m : List α} {a b : α}

/-- An item is the last of a list with a property. -/
def IsLast (p : α → Prop) (l : List α) (a : α) : Prop :=
  ∃ before after, l = before ++ a :: after ∧ p a ∧ ∀ later ∈ after, ¬ p later

/-- The last item of two lists is that of the second, or that of the first if the second has
none. -/
theorem isLast_append :
    IsLast p (l ++ m) a ↔ IsLast p m a ∨ IsLast p l a ∧ ∀ later ∈ m, ¬ p later := by
  constructor
  · rintro ⟨before, after, split, has, last⟩
    rcases List.append_eq_append_iff.mp split with ⟨between, -, second⟩ | ⟨front, first, second⟩
    · exact .inl ⟨between, after, second, has, last⟩
    · cases front with
      | nil => exact .inl ⟨[], after, second.symm, has, last⟩
      | cons c front =>
        obtain ⟨rfl, rfl⟩ := List.cons.inj second
        obtain ⟨here, there⟩ := List.forall_mem_append.mp last
        exact .inr ⟨⟨before, front, first, has, here⟩, there⟩
  · rintro (⟨before, after, rfl, has, last⟩ | ⟨⟨before, after, rfl, has, here⟩, there⟩)
    · exact ⟨l ++ before, after, by simp, has, last⟩
    · exact ⟨before, after ++ m, by simp, has, List.forall_mem_append.mpr ⟨here, there⟩⟩

theorem isLast_singleton : IsLast p [b] a ↔ a = b ∧ p b := by
  constructor
  · rintro ⟨before, after, split, has, -⟩
    obtain rfl : b = a := by
      have mem : a ∈ [b] := by simp [split]
      exact (List.mem_singleton.mp mem).symm
    exact ⟨rfl, has⟩
  · rintro ⟨rfl, has⟩
    exact ⟨[], [], rfl, has, nofun⟩

/-- At the end of a list, an item with the property is the last one. -/
theorem isLast_append_of_pos (has : p b) : IsLast p (l ++ [b]) a ↔ a = b := by
  simp [isLast_append, isLast_singleton, has]

/-- An item without it does not count. -/
theorem isLast_append_of_neg (lacks : ¬ p b) : IsLast p (l ++ [b]) a ↔ IsLast p l a := by
  simp [isLast_append, isLast_singleton, lacks]

/-- The last item with a property is the one that is found first from the end. -/
theorem reverse_find?_eq_some_iff {p : α → Bool} :
    l.reverse.find? p = some a ↔ IsLast (p · = true) l a := by
  rw [List.find?_eq_some_iff_append]
  constructor
  · rintro ⟨has, after, before, reversed, none⟩
    refine ⟨before.reverse, after.reverse, ?_, has, fun b mem => ?_⟩
    · rw [← List.reverse_reverse l, reversed]
      simp
    · simpa using none b (List.mem_reverse.mp mem)
  · rintro ⟨before, after, rfl, has, none⟩
    refine ⟨has, after.reverse, before.reverse, by simp, fun b mem => ?_⟩
    simpa using none b (List.mem_reverse.mp mem)

end Clausal
