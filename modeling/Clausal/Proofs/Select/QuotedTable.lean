import Clausal.Proofs.Text.Quoting
import Clausal.Select.Selection
import Clausal.Write.Mutation
/-!
# Tables that are quoted already

Quoting a quoted name changes nothing. A table to select from is quoted only up to its first blank,
since an alias can follow there, and backticks do not protect a blank. So a quoted name stays what
it is as a table just when there is no blank between its backticks; otherwise the first blank cuts
a part in two, and one of its backticks is without its other.
-/

namespace Clausal

namespace Identifier

open Text (isBlank trim)

/-! ## Quoted names as tables -/

/-- No part of a dotted name has a blank inside it. -/
def SolidParts (name : List Char) : Prop :=
  ∀ part ∈ name.splitOn '.', ∀ c ∈ trim part, isBlank c = false

/-- Blanks stay where they are inside the parts, and there are no others in a quoted name. -/
theorem solidParts_iff {name : List Char} :
    SolidParts name ↔ ∀ c ∈ quoteChars name, isBlank c = false := by
  constructor
  · intro solid c mem
    rcases Text.mem_intercalate mem with dot | ⟨quoted, memQuoted, inside⟩
    · rw [List.mem_singleton.mp dot]
      rfl
    · obtain ⟨part, memPart, rfl⟩ := List.mem_map.mp memQuoted
      rcases mem_quotePart inside with rfl | kept
      · rfl
      · exact solid part memPart c (List.mem_of_mem_filter kept)
  · intro solid part memPart c mem
    by_cases tick : c = backtick
    · rw [tick]
      rfl
    · have kept : c ∈ partName part := List.mem_filter.mpr ⟨mem, by simpa using tick⟩
      have quoted : quotePart part ∈ (name.splitOn '.').map quotePart :=
        List.mem_map_of_mem memPart
      exact solid c (Text.mem_intercalate_of_mem quoted (mem_quotePart_of_mem kept))

theorem ticks_of_blank {cs : List Char} (blank : ∀ c ∈ cs, isBlank c = true) : ticks cs = 0 :=
  List.count_eq_zero.mpr fun tick => by cases blank backtick tick

/-- Trimming takes no backtick away. -/
theorem ticks_trim (cs : List Char) : ticks (trim cs) = ticks cs := by
  obtain ⟨trail, split, blank⟩ := Text.exists_trimStart_eq cs
  have front : ticks (cs.takeWhile isBlank) = 0 :=
    ticks_of_blank fun c mem => List.mem_takeWhile_imp mem
  have whole : cs = cs.takeWhile isBlank ++ (trim cs ++ trail) := by
    rw [← split]
    exact List.takeWhile_append_dropWhile.symm
  have counted := congrArg ticks whole
  rw [ticks_append, ticks_append, front, ticks_of_blank blank] at counted
  omega

/-- In front of the blank the number of backticks is odd, and there it becomes even. -/
theorem odd_ticks_quoteTableChars {name : List Char} {c : Char} (mem : c ∈ quoteChars name)
    (blank : isBlank c = true) : Odd (ticks (quoteTableChars (quoteChars name))) := by
  have split : front (quoteChars name) ++ (quoteChars name).dropWhile (!isBlank ·) =
      quoteChars name := List.takeWhile_append_dropWhile
  have odd := (balanced_quoteChars name).odd_front c mem blank
  have even := (balanced_quoteChars name).even
  rw [quoteTableChars, trim_quoteChars]
  cases behind : (quoteChars name).dropWhile (!isBlank ·) with
  | nil =>
    have solid := List.dropWhile_eq_nil_iff.mp behind c mem
    simp [blank] at solid
  | cons d rest =>
    have solid := List.head?_dropWhile_not (!isBlank ·) (quoteChars name)
    rw [behind] at solid
    have blankHere : isBlank d = true := by simpa using solid
    have first : ticks [d] = 0 := ticks_of_blank (by simpa using blankHere)
    rw [← split, behind, ticks_append, ← List.singleton_append, ticks_append, first,
      Nat.zero_add] at even
    have later : Odd (ticks rest) := by
      rcases Nat.even_or_odd (ticks rest) with evenRest | oddRest
      · exact absurd even (Nat.not_even_iff_odd.mpr (odd.add_even evenRest))
      · exact oddRest
    have space : ticks [' '] = 0 := rfl
    dsimp only
    rw [ticks_append, ← List.singleton_append, ticks_append, space, ticks_trim, Nat.zero_add]
    exact (balanced_quoteChars _).even.add_odd later

theorem even_ticks_quoteTableChars_iff {name : List Char} :
    Even (ticks (quoteTableChars (quoteChars name))) ↔ SolidParts name := by
  rw [solidParts_iff]
  constructor
  · intro even c mem
    cases blank : isBlank c with
    | true => exact absurd even (Nat.not_even_iff_odd.mpr (odd_ticks_quoteTableChars mem blank))
    | false => rfl
  · intro solid
    rw [quoteTableChars_of_solid solid]
    exact (balanced_quoteChars name).even

theorem quoteTableChars_eq_iff {name : List Char} :
    quoteTableChars (quoteChars name) = quoteChars name ↔ SolidParts name := by
  constructor
  · intro same
    rw [← even_ticks_quoteTableChars_iff, same]
    exact (balanced_quoteChars name).even
  · exact fun solid => quoteTableChars_of_solid (solidParts_iff.mp solid)

end Identifier

/-! ## Statements -/

namespace Selection

/-- The clauses that decide which rows there are, from a table as it stands in the statement. -/
def rowsFrom (s : Selection) (reference : String) : Except Error Fragment := do
  let joins ← Join.clauses s.joins
  let filter ← conditionClause s.rendering " WHERE " s.filter
  let groups ← s.groupClause
  return .ofText ("SELECT " ++ s.columnList ++ " FROM " ++ reference) ++ joins ++ filter ++ groups

theorem rows_of_quote (s : Selection) (name : String) :
    { s with table := Identifier.quote name }.rows =
      s.rowsFrom (Identifier.quoteTable (Identifier.quote name)) := by
  have trimmed : Text.trimmed (Identifier.quote name) = Identifier.quote name := by
    rw [Text.trimmed, Identifier.quote, String.toList_ofList, Identifier.trim_quoteChars]
  have blank : Text.isBlankString (Identifier.quote name) = false := by
    obtain ⟨c, first, solid⟩ := (Identifier.balanced_quoteChars name.toList).first
    rw [Text.isBlankString, Identifier.quote, String.toList_ofList]
    exact List.all_eq_false.mpr ⟨c, List.mem_of_head? first, by simp [solid]⟩
  rw [rows]
  dsimp only
  rw [blank, trimmed]
  rfl

end Selection

theorem Mutation.tableName_eq (name : String) (rendering : Rendering) :
    Mutation.tableName ⟨name, rendering⟩ =
      if Text.isBlankString name then .error .noTable else .ok (Identifier.quote name) := by
  have same : Identifier.quote (Text.trimmed name) = Identifier.quote name := by
    rw [Identifier.quote, Text.trimmed, String.toList_ofList, Identifier.quoteChars_trim,
      Identifier.quote]
  rw [tableName]
  dsimp only
  rw [same]

namespace Identifier

/-- What becomes of a quoted name as a table. It stays what it is, and its backticks stay balanced,
exactly for names without a blank inside a part. What it has become is what a selection fetches its
rows from, and the quoted name is what the statements of a mutation write to, unless the name is
blank, which none of them accepts. -/
theorem quoteTable_quote (name : String) :
    (quoteTable (quote name) = quote name ↔ SolidParts name.toList) ∧
    (Even (ticks (quoteTable (quote name)).toList) ↔ SolidParts name.toList) ∧
    (∀ s : Selection,
      { s with table := quote name }.rows = s.rowsFrom (quoteTable (quote name))) ∧
    ∀ rendering : Rendering, Mutation.tableName ⟨name, rendering⟩ =
      if Text.isBlankString name then .error .noTable else .ok (quote name) := by
  have quoted : quoteTable (quote name) =
      String.ofList (quoteTableChars (quoteChars name.toList)) := by
    rw [quoteTable, quote, String.toList_ofList]
  refine ⟨?_, ?_, fun s => s.rows_of_quote name, Mutation.tableName_eq name⟩
  · rw [quoted, quote, String.ofList_inj, quoteTableChars_eq_iff]
  · rw [quoted, String.toList_ofList, even_ticks_quoteTableChars_iff]

/-- A blank inside a name ends it, and what follows is taken for an alias. -/
theorem not_quoteTable_quote :
    quote "my table" = "`my table`" ∧ quoteTable (quote "my table") = "`my` table`" ∧
    ¬ ∀ name, quoteTable (quote name) = quote name := by
  refine ⟨by rfl, by rfl, fun all => ?_⟩
  cases all "my table"

end Identifier

end Clausal
