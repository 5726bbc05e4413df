import Clausal.Text.Blank
import Mathlib.Data.List.DropRight
/-!
# Trimming

Trimming gives a piece of the text. It takes blanks only, so what it leaves is blank exactly when
the text is, and then nothing is left at all.
-/

namespace Clausal.Text

theorem trim_infix (cs : List Char) : trim cs <:+: cs := by
  have front : trimEnd (trimStart cs) <+: trimStart cs := List.rdropWhile_prefix _ _
  have back : trimStart cs <:+ cs := List.dropWhile_suffix _
  exact front.isInfix.trans back.isInfix

theorem mem_of_mem_trimmed {s : String} {c : Char} (mem : c ∈ (trimmed s).toList) :
    c ∈ s.toList := by
  have piece : trim s.toList <:+: s.toList := trim_infix s.toList
  rw [trimmed, String.toList_ofList] at mem
  exact piece.mem mem

/-- Taking characters of a kind away at the front does not change whether all are of that kind. -/
theorem all_dropWhile {α : Type} (p : α → Bool) (xs : List α) :
    (xs.dropWhile p).all p = xs.all p := by
  induction xs with
  | nil => rfl
  | cons x rest ih =>
    cases here : p x with
    | true => simp [here, ih]
    | false => simp [here]

theorem all_isBlank_trim (cs : List Char) : (trim cs).all isBlank = cs.all isBlank := by
  rw [trim, trimEnd, List.all_reverse, all_dropWhile, List.all_reverse, trimStart, all_dropWhile]

theorem trim_eq_nil_iff {cs : List Char} : trim cs = [] ↔ cs.all isBlank = true := by
  constructor
  · intro empty
    rw [← all_isBlank_trim, empty]
    rfl
  · intro blank
    have all : ∀ c ∈ trimStart cs, isBlank c = true := fun c mem =>
      List.all_eq_true.mp blank c ((List.dropWhile_suffix _).mem mem)
    exact List.rdropWhile_eq_nil_iff.mpr all

theorem isBlankString_trimmed (s : String) : isBlankString (trimmed s) = isBlankString s := by
  simp [isBlankString, trimmed, all_isBlank_trim]

theorem trimmed_eq_empty_iff {s : String} : trimmed s = "" ↔ isBlankString s = true := by
  rw [isBlankString, ← trim_eq_nil_iff, trimmed, String.ofList_eq_empty_iff]

/-! ## What trimming takes away -/

/-- Between two characters that are no blanks there is nothing to trim. -/
theorem trim_eq_self_of_ends {cs : List Char} (first : ∀ c, cs.head? = some c → isBlank c = false)
    (last : ∀ c, cs.getLast? = some c → isBlank c = false) : trim cs = cs := by
  have front : trimStart cs = cs := by
    cases cs with
    | nil => rfl
    | cons c cs => exact trimStart_cons_of_not_isBlank cs (first c rfl)
  have back : List.rdropWhile isBlank cs = cs :=
    List.rdropWhile_eq_self_iff.mpr fun ne => by
      simp [last _ (List.getLast?_eq_some_getLast ne)]
  rw [trim, front]
  exact back

/-- Without blanks there is nothing to trim. -/
theorem trim_eq_self {cs : List Char} (full : ∀ c ∈ cs, isBlank c = false) : trim cs = cs :=
  trim_eq_self_of_ends (fun c first => full c (List.mem_of_head? first))
    fun c last => full c (List.mem_of_getLast? last)

theorem trim_cons_of_isBlank {c : Char} (blank : isBlank c = true) (cs : List Char) :
    trim (c :: cs) = trim cs := by
  rw [trim, trimStart_cons_of_isBlank cs blank, trim]

theorem trimEnd_append {trail : List Char} (blank : ∀ c ∈ trail, isBlank c = true)
    (cs : List Char) : trimEnd (cs ++ trail) = trimEnd cs := by
  have blank' : ∀ c ∈ trail.reverse, isBlank c = true := fun c mem =>
    blank c (List.mem_reverse.mp mem)
  rw [trimEnd, List.reverse_append, List.dropWhile_append_of_pos blank', trimEnd]

theorem trim_append {trail : List Char} (blank : ∀ c ∈ trail, isBlank c = true)
    (cs : List Char) : trim (cs ++ trail) = trim cs := by
  rw [trim, trim, trimStart, trimStart, List.dropWhile_append]
  split
  next empty =>
    rw [List.isEmpty_iff.mp empty, List.dropWhile_eq_nil_iff.mpr blank]
  next => exact trimEnd_append blank _

/-- Trimming takes blanks away in front and behind. -/
theorem exists_trimStart_eq (cs : List Char) :
    ∃ trail, trimStart cs = trim cs ++ trail ∧ ∀ c ∈ trail, isBlank c = true := by
  have reversed := List.takeWhile_append_dropWhile (p := isBlank) (l := (trimStart cs).reverse)
  refine ⟨((trimStart cs).reverse.takeWhile isBlank).reverse, ?_, fun c mem => ?_⟩
  · rw [trim, trimEnd, ← List.reverse_append, reversed, List.reverse_reverse]
  · exact List.mem_takeWhile_imp (List.mem_reverse.mp mem)

theorem trim_trim (cs : List Char) : trim (trim cs) = trim cs := by
  obtain ⟨trail, split, blank⟩ := exists_trimStart_eq cs
  have again : trimStart (trimStart cs) = trimStart cs := List.dropWhile_idempotent isBlank cs
  calc trim (trim cs)
    _ = trim (trim cs ++ trail) := (trim_append blank _).symm
    _ = trim (trimStart cs) := by rw [← split]
    _ = trim cs := by rw [trim, again, trim]

/-- What is left ends with a character that is no blank. -/
theorem exists_getLast?_trim {cs : List Char} (full : trim cs ≠ []) :
    ∃ c, (trim cs).getLast? = some c ∧ isBlank c = false :=
  ⟨_, List.getLast?_eq_some_getLast full,
    eq_false_of_ne_true (List.rdropWhile_last_not isBlank (trimStart cs) full)⟩

end Clausal.Text
