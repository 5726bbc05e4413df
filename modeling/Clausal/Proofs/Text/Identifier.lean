import Clausal.Identifier
import Clausal.Proofs.Text.Trim
/-!
# Quoted names

A quoted name consists of its parts, dots and backticks: quoting brings in no other character, and
between two backticks stands none.
-/

namespace Clausal

namespace Text

theorem mem_intercalate {α : Type} {separator : List α} {parts : List (List α)} {x : α}
    (mem : x ∈ separator.intercalate parts) : x ∈ separator ∨ ∃ part ∈ parts, x ∈ part := by
  induction parts with
  | nil => simp at mem
  | cons part rest ih =>
    cases rest with
    | nil => exact .inr ⟨part, by simp, by simpa using mem⟩
    | cons next others =>
      rw [List.intercalate_cons_cons, List.mem_append, List.mem_append] at mem
      rcases mem with (here | between) | later
      · exact .inr ⟨part, by simp, here⟩
      · exact .inl between
      · rcases ih later with between | ⟨other, memOther, there⟩
        · exact .inl between
        · exact .inr ⟨other, List.mem_cons_of_mem _ memOther, there⟩

theorem mem_intercalate_of_mem {α : Type} {separator part : List α} {parts : List (List α)} {x : α}
    (memPart : part ∈ parts) (mem : x ∈ part) : x ∈ separator.intercalate parts := by
  induction parts with
  | nil => cases memPart
  | cons first rest ih =>
    cases rest with
    | nil =>
      rw [List.mem_singleton.mp memPart] at mem
      simpa using mem
    | cons next others =>
      rw [List.intercalate_cons_cons, List.mem_append, List.mem_append]
      rcases List.mem_cons.mp memPart with rfl | later
      · exact .inl (.inl mem)
      · exact .inr (ih later)

end Text

namespace Identifier

open Text (trim)

/-- One part of a dotted name, as it stands between its backticks. -/
def partName (part : List Char) : List Char :=
  dropBackticks (trim part)

theorem quotePart_of_star {part : List Char} (star : partName part = ['*']) :
    quotePart part = ['*'] := by
  have same : quotePart part =
      if partName part = ['*'] then partName part else backtick :: partName part ++ [backtick] :=
    rfl
  rw [same, if_pos star, star]

theorem quotePart_of_ne_star {part : List Char} (named : partName part ≠ ['*']) :
    quotePart part = backtick :: partName part ++ [backtick] :=
  if_neg named

theorem mem_of_mem_partName {part : List Char} {c : Char} (mem : c ∈ partName part) : c ∈ part :=
  (Text.trim_infix part).mem (List.mem_of_mem_filter mem)

theorem mem_of_mem_splitOn {name part : List Char} {c : Char} (memPart : part ∈ name.splitOn '.')
    (mem : c ∈ part) : c ∈ name := by
  have joined : ['.'].intercalate (name.splitOn '.') = name := List.intercalate_splitOn '.'
  rw [← joined]
  exact Text.mem_intercalate_of_mem memPart mem

theorem mem_quotePart {part : List Char} {c : Char} (mem : c ∈ quotePart part) :
    c = backtick ∨ c ∈ partName part := by
  by_cases star : partName part = ['*']
  · rw [quotePart_of_star star, ← star] at mem
    exact .inr mem
  · rw [quotePart_of_ne_star star] at mem
    rcases List.mem_append.mp mem with front | back
    · exact List.mem_cons.mp front
    · exact .inl (List.mem_singleton.mp back)

theorem mem_quotePart_of_mem {part : List Char} {c : Char} (mem : c ∈ partName part) :
    c ∈ quotePart part := by
  by_cases star : partName part = ['*']
  · rwa [quotePart_of_star star, ← star]
  · rw [quotePart_of_ne_star star]
    exact List.mem_append_left _ (List.mem_cons_of_mem _ mem)

/-- Quoting adds backticks and keeps the dots. -/
theorem mem_quoteChars {name : List Char} {c : Char} (mem : c ∈ quoteChars name) :
    c = '.' ∨ c = backtick ∨ c ∈ name := by
  rcases Text.mem_intercalate mem with dot | ⟨quoted, memQuoted, inside⟩
  · exact .inl (List.mem_singleton.mp dot)
  · obtain ⟨part, memPart, rfl⟩ := List.mem_map.mp memQuoted
    rcases mem_quotePart inside with tick | kept
    · exact .inr (.inl tick)
    · exact .inr (.inr (mem_of_mem_splitOn memPart (mem_of_mem_partName kept)))

/-- Before an alias stands a blank, and the alias is a piece of the text. -/
theorem mem_quoteTable {table : String} {c : Char} (mem : c ∈ (quoteTable table).toList) :
    c = '.' ∨ c = backtick ∨ c = ' ' ∨ c ∈ table.toList := by
  have name {cs : List Char} (kept : ∀ c ∈ cs, c ∈ table.toList) (mem : c ∈ quoteChars cs) :
      c = '.' ∨ c = backtick ∨ c = ' ' ∨ c ∈ table.toList := by
    rcases mem_quoteChars mem with dot | tick | inside
    · exact .inl dot
    · exact .inr (.inl tick)
    · exact .inr (.inr (.inr (kept c inside)))
  have inTable {d : Char} (inside : d ∈ trim table.toList) : d ∈ table.toList :=
    (Text.trim_infix table.toList).mem inside
  rw [quoteTable, String.toList_ofList] at mem
  unfold quoteTableChars at mem
  simp only at mem
  split at mem
  next => exact name (fun _ inside => inside) mem
  next blank rest behind =>
    rcases List.mem_append.mp mem with front | back
    · exact name (fun _ inside => inTable ((List.takeWhile_prefix _).mem inside)) front
    · rcases List.mem_cons.mp back with between | inside
      · exact .inr (.inr (.inl between))
      · have later : c ∈ blank :: rest :=
          List.mem_cons_of_mem _ ((Text.trim_infix rest).mem inside)
        rw [← behind] at later
        exact .inr (.inr (.inr (inTable ((List.dropWhile_suffix _).mem later))))

end Identifier

end Clausal
