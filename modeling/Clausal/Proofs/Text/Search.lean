import Clausal.Text.Search
import Mathlib.Data.List.Basic
/-!
# Finding the last occurrence

Text in front of a text does not change where a word occurs last in it, and a word does not occur
where one of its characters is missing. So what follows the last occurrence of a word is found
again when the word cannot start within itself or behind. The last position is the greatest at which
the word starts, occurrences that overlap included.
-/

namespace Clausal.Text

theorem lastPosition?_append {word cs : List Char} {i : Nat}
    (found : lastPosition? word cs = some i) (front : List Char) :
    lastPosition? word (front ++ cs) = some (front.length + i) := by
  induction front with
  | nil => simpa using found
  | cons c front ih =>
    rw [List.cons_append, lastPosition?, ih]
    simp only [List.length_cons, Option.some.injEq]
    omega

theorem lastPosition?_eq_none {word cs : List Char} {c : Char} (mem : c ∈ word)
    (absent : c ∉ cs) : lastPosition? word cs = none := by
  induction cs with
  | nil =>
    cases word with
    | nil => cases mem
    | cons w word => rfl
  | cons d cs ih =>
    have later : lastPosition? word cs = none := ih fun inside => absent (.tail d inside)
    have apart : ¬ word.isPrefixOf (d :: cs) = true := by
      intro starts
      exact absent ((List.isPrefixOf_iff_prefix.mp starts).mem mem)
    rw [lastPosition?, later]
    exact if_neg apart

/-- A word that does not occur again once its first character is gone occurs last where it stands. -/
theorem afterLast?_append {first : Char} {word rest : List Char}
    (once : lastPosition? (first :: word) (word ++ rest) = none) (front : List Char) :
    afterLast? (first :: word) (front ++ (first :: word) ++ rest) = some rest := by
  have starts : (first :: word).isPrefixOf ((first :: word) ++ rest) = true :=
    List.isPrefixOf_iff_prefix.mpr (List.prefix_append _ _)
  have here : lastPosition? (first :: word) ((first :: word) ++ rest) = some 0 := by
    rw [List.cons_append] at starts ⊢
    rw [lastPosition?, once]
    exact if_pos starts
  rw [afterLast?, List.append_assoc, lastPosition?_append here]
  simp

/-- A word without a certain character that starts a text ends before that character. -/
theorem prefix_of_prefix_append {c : Char} {word front rest : List Char} (absent : c ∉ word)
    (starts : word <+: front ++ c :: rest) : word <+: front := by
  rcases Nat.le_total word.length front.length with short | long
  · exact List.prefix_of_prefix_length_le starts (List.prefix_append _ _) short
  · have covers : front <+: word :=
      List.prefix_of_prefix_length_le (List.prefix_append _ _) starts long
    obtain ⟨more, rfl⟩ := covers
    rw [List.prefix_append_right_inj] at starts
    cases more with
    | nil => simp
    | cons d more =>
      rw [List.cons_prefix_cons] at starts
      exact absurd (by simp [starts.1]) absent

/-! ## The greatest position -/

theorem prefix_of_lastPosition? {word cs : List Char} {i : Nat}
    (found : lastPosition? word cs = some i) : word <+: cs.drop i ∧ i ≤ cs.length := by
  induction cs generalizing i with
  | nil =>
    cases word with
    | nil =>
      cases found
      exact ⟨List.nil_prefix, Nat.le_refl 0⟩
    | cons w word => cases found
  | cons c cs ih =>
    rw [lastPosition?] at found
    cases later : lastPosition? word cs with
    | some j =>
      rw [later] at found
      cases found
      exact ⟨(ih later).1, Nat.succ_le_succ (ih later).2⟩
    | none =>
      rw [later] at found
      obtain ⟨starts, here⟩ := Option.ite_none_right_eq_some.mp found
      cases here
      exact ⟨List.isPrefixOf_iff_prefix.mp starts, Nat.zero_le _⟩

theorem not_prefix_of_lastPosition? {word cs : List Char}
    (missing : lastPosition? word cs = none) (j : Nat) : ¬ word <+: cs.drop j := by
  induction cs generalizing j with
  | nil =>
    intro starts
    rw [List.drop_nil] at starts
    rw [List.prefix_nil.mp starts] at missing
    cases missing
  | cons c cs ih =>
    rw [lastPosition?] at missing
    cases later : lastPosition? word cs with
    | some i =>
      rw [later] at missing
      cases missing
    | none =>
      rw [later] at missing
      cases j with
      | zero =>
        intro starts
        have here : word.isPrefixOf (c :: cs) = true := List.isPrefixOf_iff_prefix.mpr starts
        simp [here] at missing
      | succ j => exact ih later j

/-- A word that does not occur has no last position. -/
theorem lastPosition?_of_not_infix {word cs : List Char} (absent : ¬ word <:+: cs) :
    lastPosition? word cs = none := by
  cases found : lastPosition? word cs with
  | none => rfl
  | some i =>
    have starts := (prefix_of_lastPosition? found).1
    exact absurd (starts.isInfix.trans (List.drop_suffix i cs).isInfix) absent

theorem le_of_lastPosition? {word cs : List Char} {i j : Nat}
    (found : lastPosition? word cs = some i) (starts : word <+: cs.drop j)
    (inside : j ≤ cs.length) : j ≤ i := by
  induction cs generalizing i j with
  | nil => exact Nat.le_trans inside (Nat.zero_le i)
  | cons c cs ih =>
    rw [lastPosition?] at found
    cases j with
    | zero => exact Nat.zero_le i
    | succ j =>
      cases later : lastPosition? word cs with
      | some k =>
        rw [later] at found
        cases found
        exact Nat.succ_le_succ (ih later starts (Nat.le_of_succ_le_succ inside))
      | none => exact absurd starts (not_prefix_of_lastPosition? later j)

end Clausal.Text
